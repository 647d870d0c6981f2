import Telematics.Proofs.Position.Device
import Telematics.Proofs.Terminal.Handshake

/-! Terminals side by side, over one registry. -/

namespace Telematics.Terminal

open Sentence Registry

variable {ι β : Type} {channel : ι → Channel} {registry : Registry} {steps : List (ι × String)}
  {c : Channel} {s x : String} {p : Position} {i : ι}

structure Exchange (ι : Type) where
  terminal : ι
  registry : Registry
  sentence : String

def exchanges (channel : ι → Channel) : Registry → List (ι × String) → List (Exchange ι)
  | _, [] => []
  | registry, (i, s) :: r =>
    ⟨i, registry, s⟩ :: exchanges channel (process (channel i) registry s).registry r

structure Reaction where
  replies : List String
  result : Except Failure (Option Position)

def Exchange.reaction (channel : ι → Channel) (e : Exchange ι) : Reaction where
  replies := Terminal.replies (process (channel e.terminal) e.registry e.sentence).effects
  result := (decode (some (channel e.terminal)) e.registry e.sentence).result

lemma reaction_eq (channel : ι → Channel) (i : ι) (registry : Registry) (s : String) :
    Exchange.reaction channel ⟨i, registry, s⟩ =
      ⟨answer (channel i) s, recordBy registry.number? s⟩ := by
  rw [Exchange.reaction, (attended (channel i) registry s).replies, decode_eq_recordBy]

def Reaction.unnumbered (r : Reaction) : Reaction :=
  { r with result := r.result.map (Option.map (·.numbered 0)) }

section Own

variable [DecidableEq ι]

def own (i : ι) (steps : List (ι × String)) : List String :=
  (steps.filter (·.1 = i)).map Prod.snd

def reactions (channel : ι → Channel) (registry : Registry) (steps : List (ι × String)) (i : ι) :
    List Reaction :=
  ((exchanges channel registry steps).filter (·.terminal = i)).map (Exchange.reaction channel)

lemma own_alone (i : ι) (sentences : List String) : own i (sentences.map (i, ·)) = sentences := by
  rw [own, List.filter_eq_self.2 (by simp), List.map_map]
  exact List.map_id sentences

/-- What an exchange shows of itself in the same way for each registry of some kind, it shows in
turn as it would alone. -/
lemma view_reactions {P : Registry → Prop} (view : Reaction → β) (told : ι → String → β)
    (step : ∀ c registry s, P registry → P (process c registry s).registry)
    (hv : ∀ i registry s, P registry →
      view (Exchange.reaction channel ⟨i, registry, s⟩) = told i s) (hp : P registry)
    (steps : List (ι × String)) (i : ι) :
    (reactions channel registry steps i).map view = (own i steps).map (told i) := by
  induction steps generalizing registry with
  | nil => rfl
  | cons x r ih =>
    have rest := ih (step (channel x.1) registry x.2 hp)
    rw [reactions] at rest ⊢
    rw [own] at rest ⊢
    by_cases mine : x.1 = i
    · rw [exchanges, List.filter_cons_of_pos (by simpa using mine),
        List.filter_cons_of_pos (by simpa using mine), List.map_cons, List.map_cons, List.map_cons,
        List.map_cons, rest, hv _ _ _ hp, mine]
    · rw [exchanges, List.filter_cons_of_neg (by simpa using mine),
        List.filter_cons_of_neg (by simpa using mine), rest]

lemma view_alone {P : Registry → Prop} (view : Reaction → β) (told : ι → String → β)
    (step : ∀ c registry s, P registry → P (process c registry s).registry)
    (hv : ∀ i registry s, P registry →
      view (Exchange.reaction channel ⟨i, registry, s⟩) = told i s) (hp : P registry)
    {sentences : List String} (h : own i steps = sentences) :
    (reactions channel registry steps i).map view =
      (reactions channel registry (sentences.map (i, ·)) i).map view := by
  rw [view_reactions view told step hv hp, view_reactions view told step hv hp, own_alone, h]

end Own

lemma process_of_closed (closed : registry.admitsUnknown = false) (c : Channel) (s : String) :
    (process c registry s).registry = registry := by
  rw [(attended c registry s).registry]
  cases identifier? s with
  | none => rfl
  | some x => simp only [Option.elim_some, closed, Bool.false_eq_true, false_and, if_false]

lemma process_of_open (opened : registry.admitsUnknown = true) (c : Channel) (s : String) :
    (process c registry s).registry = { registry with
      identifiers := order registry.identifiers (identifier? s).toList } := by
  rw [(attended c registry s).registry]
  cases identifier? s with
  | none =>
    rw [Option.toList_none, order_nil]
    rfl
  | some x =>
    rw [Option.elim_some, ← resolve_registry_eq, (resolve_of_open opened x).1, Option.toList_some,
      order_cons, order_nil]

def named (steps : List (ι × String)) : List String :=
  steps.filterMap fun x => identifier? x.2

lemma exchange_of_open (opened : registry.admitsUnknown = true) {e : Exchange ι}
    (he : e ∈ exchanges channel registry steps) : e.registry.admitsUnknown = true ∧
      order e.registry.identifiers (identifier? e.sentence).toList <+:
        order registry.identifiers (named steps) := by
  -- at every turn the registry holds a beginning of the order that the whole run comes to
  induction steps generalizing registry with
  | nil => cases he
  | cons x r ih =>
    have split : named (x :: r) = (identifier? x.2).toList ++ named r := by
      rw [named, named, List.filterMap_eq_flatMap_toList, List.filterMap_eq_flatMap_toList,
        List.flatMap_cons]
    rw [split, order_append]
    rcases List.mem_cons.1 he with rfl | he
    · exact ⟨opened, prefix_order _ _⟩
    · have next := process_of_open opened (channel x.1) x.2
      rw [next] at he
      exact ih (by exact opened) he

lemma recordBy_unnumbered {resolve : String → Option Int} (known : ∀ x, (resolve x).isSome)
    (s : String) :
    (recordBy resolve s).map (Option.map (·.numbered 0)) = recordBy (fun _ => some 0) s := by
  cases h : Report.ofText? s with
  | error e =>
    simp only [recordBy, h]
    rfl
  | ok o =>
    cases o with
    | none =>
      simp only [recordBy, h]
      rfl
    | some r =>
      obtain ⟨n, hn⟩ := Option.isSome_iff_exists.1 (known (r.imei.getD ""))
      have zero : recordBy (fun _ => some 0) s =
          ((Position.ofReport 0 r).mapError Failure.ofTime).map some := recordBy_of_known h rfl
      rw [recordBy_of_known h hn, zero, Position.ofReport_numbered n 0]
      cases Position.ofReport n r with
      | error e => rfl
      | ok p => rfl

lemma recordBy_number {resolve : String → Option Int} (h : recordBy resolve s = .ok (some p)) :
    ∃ x, identifier? s = some x ∧ resolve x = some p.deviceId := by
  obtain ⟨d, n, read, known, record⟩ := recordBy_eq_record h
  rw [Position.ofReport_numbered n n] at record
  obtain ⟨q, -, rfl⟩ := map_eq_ok.1 record
  exact ⟨_, identifier?_of_some read, known⟩

lemma number_of_open (opened : registry.admitsUnknown = true) {e : Exchange ι}
    (he : e ∈ exchanges channel registry steps) (h : (e.reaction channel).result = .ok (some p)) :
    ∃ x ∈ order registry.identifiers (named steps), identifier? e.sentence = some x ∧
      p.deviceId = numberIn (order registry.identifiers (named steps)) x := by
  simp only [Exchange.reaction, decode_eq_recordBy] at h
  obtain ⟨x, hx, known⟩ := recordBy_number h
  obtain ⟨opened, beginning⟩ := exchange_of_open opened he
  rw [hx, Option.toList_some, order_cons, order_nil] at beginning
  rw [(resolve_of_open opened x).2] at known
  have member := mem_enlist e.registry.identifiers x
  refine ⟨x, beginning.subset member, hx, ?_⟩
  rw [numberIn_stable beginning member]
  exact (Option.some.inj known).symm

/-- Terminals that take turns over one registry have of it what each would have alone: all the same
in a closed registry, and in an open one up to the numbers of the devices, which follow one order
with the devices known before in front and the others by their first appearance. -/
theorem reactions_interleaved [DecidableEq ι] (channel : ι → Channel) (registry : Registry)
    {sentences : ι → List String} (h : ∀ i, own i steps = sentences i) :
    (registry.admitsUnknown = false → ∀ i, reactions channel registry steps i =
      reactions channel registry ((sentences i).map (i, ·)) i) ∧
    (registry.admitsUnknown = true →
      (∀ i, (reactions channel registry steps i).map Reaction.unnumbered =
        (reactions channel registry ((sentences i).map (i, ·)) i).map Reaction.unnumbered) ∧
      Set.InjOn (numberIn (order registry.identifiers (named steps)))
        {x | x ∈ order registry.identifiers (named steps)} ∧
      ∀ e ∈ exchanges channel registry steps, ∀ p, (e.reaction channel).result = .ok (some p) →
        ∃ x ∈ order registry.identifiers (named steps), identifier? e.sentence = some x ∧
          p.deviceId = numberIn (order registry.identifiers (named steps)) x) := by
  constructor
  · intro closed i
    have alike : (reactions channel registry steps i).map id =
        (reactions channel registry ((sentences i).map (i, ·)) i).map id := by
      apply view_alone (P := (· = registry)) id fun i s => Exchange.reaction channel ⟨i, registry, s⟩
      · rintro c _ s rfl
        exact process_of_closed closed c s
      · rintro i _ s rfl
        rfl
      · rfl
      · exact h i
    simpa only [List.map_id] using alike
  · intro opened
    refine ⟨fun i => ?_, numberIn_injOn _, fun e he p hp => number_of_open opened he hp⟩
    apply view_alone (P := fun r => r.admitsUnknown = true) Reaction.unnumbered
      fun i s => ⟨answer (channel i) s, recordBy (fun _ => some 0) s⟩
    · intro c registry s opened
      rw [process_of_open opened]
      exact opened
    · intro i registry s opened
      have known : ∀ x, (registry.number? x).isSome := by
        intro x
        rw [(resolve_of_open opened x).2]
        rfl
      rw [reaction_eq, Reaction.unnumbered, recordBy_unnumbered known]
    · exact opened
    · exact h i

def emergencyAt (imei latitude : String) : String :=
  "$,EMR,EMR," ++ imei ++ ",NR,09112018,083542,A," ++ latitude ++ ",N,077.668045,E,36.0,271.5,12,"

def sideBySide : List (Bool × String) :=
  [(true, emergencyAt "861693034634154" "12.975095"), (false, "$,01,hello"),
    (false, emergencyAt "861693034634155" "95.0"), (true, emergencyAt "861693034634154" "95.0")]

theorem sideBySide_alone :
    let channel : Bool → Channel := fun _ => { peer := .unknown }
    let registry : Registry := ⟨true, ["861693034634155"]⟩
    (∀ i, (reactions channel registry sideBySide i).map Reaction.unnumbered =
      (reactions channel registry ((own i sideBySide).map (i, ·)) i).map Reaction.unnumbered) ∧
    order registry.identifiers (named sideBySide) = ["861693034634155", "861693034634154"] := by
  intro channel registry
  have split : ∀ i, own i sideBySide = own i sideBySide := fun _ => rfl
  obtain ⟨-, opened⟩ := reactions_interleaved channel registry split
  exact ⟨(opened rfl).1, by decide +kernel⟩

end Telematics.Terminal
