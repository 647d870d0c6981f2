import Mathlib.Data.List.Nodup
import Mathlib.Data.Set.Function
import Telematics.Device

namespace Telematics.Registry

variable {registry : Registry} {known xs ys : List String} {x : String}

def number? (registry : Registry) (identifier : String) : Option Int :=
  (registry.resolve identifier).2.session?.map fun s => s.deviceId

def enlist (known : List String) (x : String) : List String :=
  if x ∈ known then known else known ++ [x]

/-- The known identifiers, and then the others in the order of their first appearance. -/
def order (known xs : List String) : List String :=
  known ++ (xs.filter (· ∉ known)).eraseDups

def numberIn (order : List String) (x : String) : Nat :=
  order.idxOf x + 1

lemma mem_enlist (known : List String) (x : String) : x ∈ enlist known x := by
  rw [enlist]
  split_ifs with h
  · exact h
  · exact List.mem_append_right known List.mem_cons_self

lemma order_nil (known : List String) : order known [] = known :=
  List.append_nil known

lemma order_cons (known : List String) (x : String) (xs : List String) :
    order known (x :: xs) = order (enlist known x) xs := by
  rw [order, order, enlist]
  by_cases h : x ∈ known
  · rw [if_pos h, List.filter_cons_of_neg (by simpa using h)]
  · have others : (xs.filter (· ∉ known)).filter (fun y => !y == x) =
        xs.filter (· ∉ known ++ [x]) := by
      rw [List.filter_filter]
      apply List.filter_congr
      intro y _
      simp [and_comm, Bool.beq_eq_decide_eq]
    rw [if_neg h, List.filter_cons_of_pos (by simpa using h), List.eraseDups_cons, others,
      List.append_assoc, List.singleton_append]

lemma order_append (known xs ys : List String) :
    order known (xs ++ ys) = order (order known xs) ys := by
  induction xs generalizing known with
  | nil => rw [List.nil_append, order_nil]
  | cons x xs ih => rw [List.cons_append, order_cons, order_cons, ih]

lemma nodup_enlist (h : known.Nodup) (x : String) : (enlist known x).Nodup := by
  rw [enlist]
  split_ifs with hx
  · exact h
  · rw [← List.concat_eq_append]
    exact List.Nodup.concat hx h

lemma nodup_order (h : known.Nodup) (xs : List String) : (order known xs).Nodup := by
  induction xs generalizing known with
  | nil => rwa [order_nil]
  | cons x xs ih =>
    rw [order_cons]
    exact ih (nodup_enlist h x)

lemma prefix_order (known xs : List String) : known <+: order known xs :=
  List.prefix_append _ _

lemma numberIn_injOn (order : List String) : Set.InjOn (numberIn order) {x | x ∈ order} :=
  fun _ hx _ _ h => (List.idxOf_inj hx).1 (Nat.succ.inj h)

lemma numberIn_stable (h : xs <+: ys) (hx : x ∈ xs) : numberIn ys x = numberIn xs x := by
  obtain ⟨zs, rfl⟩ := h
  rw [numberIn, numberIn, List.idxOf_append_of_mem hx]

lemma find?_of_mem (h : x ∈ registry.identifiers) :
    registry.find? x = some ⟨numberIn registry.identifiers x, x⟩ := by
  obtain ⟨i, hi⟩ := Option.isSome_iff_exists.1 (List.isSome_idxOf?.2 h)
  rw [find?, hi, numberIn, List.idxOf_eq_getD_idxOf?, hi]
  rfl

lemma find?_of_not_mem (h : x ∉ registry.identifiers) : registry.find? x = none := by
  rw [find?, List.idxOf?_eq_none_iff.2 h]
  rfl

lemma resolve_of_closed (closed : registry.admitsUnknown = false) (x : String) :
    (registry.resolve x).1 = registry := by
  rw [resolve]
  by_cases h : x ∈ registry.identifiers
  · rw [find?_of_mem h]
  · rw [find?_of_not_mem h, closed]
    rfl

lemma register_spec (registry : Registry) (x : String) :
    (registry.register x).1 = { registry with identifiers := enlist registry.identifiers x } ∧
      (registry.register x).2.session? = some ⟨numberIn (enlist registry.identifiers x) x, x⟩ := by
  rw [register, enlist]
  by_cases h : x ∈ registry.identifiers
  · rw [find?_of_mem h, if_pos h]
    exact ⟨rfl, rfl⟩
  · have number : numberIn (registry.identifiers ++ [x]) x = registry.size + 1 := by
      rw [numberIn, List.idxOf_append_of_notMem h, List.idxOf_cons_self, size, Nat.add_zero]
    rw [find?_of_not_mem h, if_neg h, number]
    exact ⟨rfl, rfl⟩

lemma resolve_eq_register (opened : registry.admitsUnknown = true) (x : String) :
    registry.resolve x = registry.register x := by
  rw [resolve, opened]
  by_cases h : x ∈ registry.identifiers
  · rw [register, find?_of_mem h]
  · rw [find?_of_not_mem h, if_pos rfl]

lemma resolve_of_open (opened : registry.admitsUnknown = true) (x : String) :
    (registry.resolve x).1 = { registry with identifiers := enlist registry.identifiers x } ∧
      registry.number? x = some (numberIn (enlist registry.identifiers x) x : Int) := by
  obtain ⟨next, session⟩ := register_spec registry x
  rw [number?, resolve_eq_register opened]
  exact ⟨next, by rw [session]; rfl⟩

lemma resolve_registry_eq (registry : Registry) (x : String) : (registry.resolve x).1 =
    if registry.admitsUnknown ∧ x ∉ registry.identifiers then registry.add x else registry := by
  cases opened : registry.admitsUnknown with
  | false => rw [resolve_of_closed opened, if_neg fun h => Bool.false_ne_true h.1]
  | true =>
    rw [(resolve_of_open opened x).1, enlist]
    by_cases h : x ∈ registry.identifiers
    · rw [if_pos h, if_neg (not_and_not_right.2 fun _ => h)]
    · rw [if_neg h, if_pos ⟨rfl, h⟩]
      rfl

end Telematics.Registry
