import Mathlib.Data.List.Basic
import Telematics.Proofs.Json.Text

namespace Telematics.Json

variable {α : Type} {name : String} {j : Json} {v : Value} {ms : List (String × Json)}

def Value.orNull (f : α → Value) : Option α → Value
  | none => .null
  | some a => f a

lemma Value.orNull_inj {f : α → Value} {o o' : Option α} (hf : ∀ a, f a ≠ .null)
    (inj : ∀ a ∈ o, ∀ b ∈ o', f a = f b → a = b) (h : orNull f o = orNull f o') : o = o' := by
  cases o with
  | none =>
    cases o' with
    | none => rfl
    | some b => exact absurd h.symm (hf b)
  | some a =>
    cases o' with
    | none => exact absurd h (hf a)
    | some b => rw [inj a rfl b rfl h]

lemma Value.orNull_map {β : Type} (f : β → Value) (g : α → β) (o : Option α) :
    orNull f (o.map g) = orNull (fun a => f (g a)) o := by
  cases o with
  | none => rfl
  | some a => rfl

def member? (members : List (List Nat × Value)) (name : String) : Option Value :=
  members.lookup (points name)

lemma points_injective : Function.Injective points := by
  intro s t h
  have chars : Function.Injective Char.toNat := fun c d hcd => Char.toNat_inj.1 hcd
  exact String.toList_inj.1 (chars.list_map h)

lemma seen_ofOption (f : α → Json) (o : Option α) :
    (ofOption f o).seen = .orNull (fun a => (f a).seen) o := by
  cases o with
  | none => rfl
  | some a => rfl

lemma seenItems_eq (js : List Json) : seenItems js = js.map seen := by
  induction js with
  | nil => rfl
  | cons j js ih => rw [seenItems, ih, List.map_cons]

def members : Json → List (String × Json)
  | obj members => members
  | _ => []

lemma member?_seenMembers (ms : List (String × Json)) (name : String) :
    member? (seenMembers ms) name = (ms.lookup name).map seen := by
  induction ms with
  | nil => rfl
  | cons m ms ih =>
    obtain ⟨other, k⟩ := m
    rw [member?, seenMembers, List.lookup_cons, List.lookup_cons]
    by_cases same : name = other
    · rw [same, beq_self_eq_true, beq_self_eq_true]
      rfl
    · have differ : (points name == points other) = false :=
        beq_false_of_ne (points_injective.ne same)
      rw [beq_false_of_ne same, differ]
      exact ih

lemma member?_of_lookup (h : ms.lookup name = some j) (hv : j.seen = v) :
    member? (seenMembers ms) name = some v := by
  rw [member?_seenMembers, h, Option.map_some, hv]

lemma member?_optional {f : α → Json} {g : α → Value} {o : Option α}
    (hf : ∀ a ∈ o, (f a).seen = g a) (h : ms.lookup name = some (.ofOption f o)) :
    member? (seenMembers ms) name = some (.orNull g o) := by
  have shown : (ofOption f o).seen = .orNull g o := by
    cases o with
    | none => rfl
    | some a => exact hf a rfl
  exact member?_of_lookup h shown

end Telematics.Json
