import Telematics.Proofs.Device
import Telematics.Terminal.Effect

/-! A registry over a whole run of calls. -/

namespace Telematics.Registry

inductive Call where
  | register (identifier : String)
  | resolve (identifier : String)
  | contains (identifier : String)

inductive Response where
  | answer (answer : Answer)
  | held (known : Bool)

namespace Call

def identifier : Call → String
  | register x | resolve x | contains x => x

def registers? (admitsUnknown : Bool) : Call → Option String
  | register x => some x
  | resolve x => if admitsUnknown then some x else none
  | contains _ => none

end Call

def Response.session? : Response → Option Session
  | answer a => a.session?
  | held _ => none

def respond (r : Registry) : Call → Registry × Response
  | .register x => ((r.register x).1, .answer (r.register x).2)
  | .resolve x => ((r.resolve x).1, .answer (r.resolve x).2)
  | .contains x => (r, .held (r.contains x))

def after (r : Registry) (calls : List Call) : Registry :=
  calls.foldl (fun r c => (r.respond c).1) r

/-- What was registered by a list and then by calls, in this order and with repetitions. -/
def registered (admitsUnknown : Bool) (listed : List String) (calls : List Call) : List String :=
  listed ++ calls.filterMap (Call.registers? admitsUnknown)

/-- The sessions as a dictionary, and the number that the next one gets. -/
structure Ledger where
  admitsUnknown : Bool
  sessions : List (String × Session)
  next : Nat

namespace Ledger

def empty (admitsUnknown : Bool) : Ledger :=
  ⟨admitsUnknown, [], 1⟩

def register (l : Ledger) (x : String) : Ledger × Answer :=
  match l.sessions.lookup x with
  | some s => (l, .known s)
  | none => ({ l with sessions := l.sessions ++ [(x, ⟨l.next, x⟩)], next := l.next + 1 },
      .registered ⟨l.next, x⟩)

def resolve (l : Ledger) (x : String) : Ledger × Answer :=
  match l.sessions.lookup x with
  | some s => (l, .known s)
  | none => if l.admitsUnknown then l.register x else (l, .refused)

def respond (l : Ledger) : Call → Ledger × Response
  | .register x => ((l.register x).1, .answer (l.register x).2)
  | .resolve x => ((l.resolve x).1, .answer (l.resolve x).2)
  | .contains x => (l, .held (l.sessions.lookup x).isSome)

def ofList (admitsUnknown : Bool) (listed : List String) : Ledger :=
  listed.foldl (fun l x => (l.register x).1) (empty admitsUnknown)

def after (l : Ledger) (calls : List Call) : Ledger :=
  calls.foldl (fun l c => (l.respond c).1) l

end Ledger

def entries (first : Nat) : List String → List (String × Session)
  | [] => []
  | x :: xs => (x, ⟨first, x⟩) :: entries (first + 1) xs

def ledger (r : Registry) : Ledger :=
  ⟨r.admitsUnknown, entries 1 r.identifiers, r.size + 1⟩

variable {r : Registry}

lemma entries_append (n : Nat) (xs ys : List String) :
    entries n (xs ++ ys) = entries n xs ++ entries (n + xs.length) ys := by
  induction xs generalizing n with
  | nil => rfl
  | cons x xs ih =>
    rw [List.cons_append, entries, entries, ih, List.length_cons, Nat.add_right_comm, Nat.add_assoc]
    rfl

lemma lookup_entries (n : Nat) (xs : List String) (x : String) :
    (entries n xs).lookup x = (xs.idxOf? x).map fun i => ⟨n + i, x⟩ := by
  induction xs generalizing n with
  | nil => rfl
  | cons y xs ih =>
    rw [entries, List.lookup_cons, List.idxOf?_cons]
    by_cases h : x = y
    · subst h
      simp
    · have other : (x == y) = false := by simpa using h
      have behind : (y == x) = false := by simpa using Ne.symm h
      rw [other, behind, ih]
      simp only [Bool.false_eq_true, if_false, Option.map_map]
      congr 1
      funext i
      simp only [Function.comp_apply, Nat.add_comm i, Nat.add_assoc]

lemma lookup_ledger (r : Registry) (x : String) : r.ledger.sessions.lookup x = r.find? x := by
  rw [ledger, lookup_entries, find?]
  congr 1
  funext i
  rw [Nat.add_comm]

/-! The dictionary and the counter keep in step with the list of identifiers. -/

lemma ledger_add (r : Registry) (x : String) : (r.add x).ledger =
    { r.ledger with
      sessions := r.ledger.sessions ++ [(x, ⟨r.ledger.next, x⟩)]
      next := r.ledger.next + 1 } := by
  have number : 1 + r.identifiers.length = r.size + 1 := Nat.add_comm _ _
  simp only [ledger, add, size, entries_append, List.length_append, entries, number]
  rfl

lemma ledger_register (r : Registry) (x : String) :
    r.ledger.register x = ((r.register x).1.ledger, (r.register x).2) := by
  rw [Ledger.register, lookup_ledger, register]
  cases r.find? x with
  | some s => rfl
  | none => simp only [ledger_add]; rfl

lemma ledger_resolve (r : Registry) (x : String) :
    r.ledger.resolve x = ((r.resolve x).1.ledger, (r.resolve x).2) := by
  have admits : r.ledger.admitsUnknown = r.admitsUnknown := rfl
  rw [Ledger.resolve, lookup_ledger, resolve, admits]
  cases r.find? x with
  | some s => rfl
  | none =>
    cases r.admitsUnknown with
    | false => rfl
    | true => exact ledger_register r x

lemma ledger_respond (r : Registry) (c : Call) :
    r.ledger.respond c = ((r.respond c).1.ledger, (r.respond c).2) := by
  cases c with
  | register x => rw [Ledger.respond, ledger_register, respond]
  | resolve x => rw [Ledger.respond, ledger_resolve, respond]
  | contains x =>
    have held : (r.find? x).isSome = r.contains x := by
      rw [find?, Option.isSome_map, contains, Bool.eq_iff_iff, List.isSome_idxOf?,
        List.contains_iff_mem]
    rw [Ledger.respond, lookup_ledger, held, respond]

lemma ledger_after (r : Registry) (calls : List Call) :
    r.ledger.after calls = (r.after calls).ledger := by
  induction calls generalizing r with
  | nil => rfl
  | cons c calls ih =>
    have next := congrArg Prod.fst (ledger_respond r c)
    have step : r.ledger.after (c :: calls) = (r.ledger.respond c).1.after calls := rfl
    rw [step, next, ih]
    rfl

lemma ofList_fst (admitsUnknown : Bool) (listed : List String) :
    (ofList admitsUnknown listed).1 =
      listed.foldl (fun r x => (r.register x).1) (empty admitsUnknown) := by
  have run (start : Registry × List Answer) : (listed.foldl (fun p i =>
      ((p.1.register i).1, p.2 ++ [(p.1.register i).2])) start).1 =
        listed.foldl (fun r x => (r.register x).1) start.1 := by
    induction listed generalizing start with
    | nil => rfl
    | cons x listed ih => exact ih _
  exact run (empty admitsUnknown, [])

lemma ledger_ofList (admitsUnknown : Bool) (listed : List String) :
    Ledger.ofList admitsUnknown listed = (ofList admitsUnknown listed).1.ledger := by
  -- from any registry on, since the dictionary is no longer empty after the first identifier
  have run (r : Registry) : listed.foldl (fun l x => (l.register x).1) r.ledger =
      (listed.foldl (fun r x => (r.register x).1) r).ledger := by
    induction listed generalizing r with
    | nil => rfl
    | cons x listed ih =>
      rw [List.foldl_cons, List.foldl_cons, ledger_register]
      exact ih _
  rw [ofList_fst]
  exact run (empty admitsUnknown)

/-! The order of first registration. -/

lemma order_singleton (known : List String) (x : String) : order known [x] = enlist known x := by
  rw [order_cons, order_nil]

lemma nil_order (xs : List String) : order [] xs = xs.eraseDups := by
  rw [order, List.nil_append, List.filter_eq_self.2 (by simp)]

lemma resolve_session_of_closed (closed : r.admitsUnknown = false) (x : String) :
    (r.resolve x).2.session? = r.find? x := by
  rw [resolve, closed]
  cases r.find? x with
  | some s => rfl
  | none => rfl

lemma respond_fst (r : Registry) (c : Call) : (r.respond c).1 =
    { r with identifiers := order r.identifiers (c.registers? r.admitsUnknown).toList } := by
  cases c with
  | register x =>
    rw [respond, (register_spec r x).1]
    exact congrArg (Registry.mk _) (order_singleton _ _).symm
  | resolve x =>
    rw [respond, Call.registers?]
    cases opened : r.admitsUnknown with
    | true =>
      rw [resolve_eq_register opened, (register_spec r x).1, if_pos rfl, opened]
      exact congrArg (Registry.mk _) (order_singleton _ _).symm
    | false =>
      rw [resolve_of_closed opened, if_neg Bool.false_ne_true, Option.toList_none, order_nil,
        ← opened]
  | contains x =>
    rw [respond, Call.registers?, Option.toList_none, order_nil]

lemma after_eq (r : Registry) (calls : List Call) : r.after calls =
    { r with
      identifiers := order r.identifiers (calls.filterMap (Call.registers? r.admitsUnknown)) } := by
  induction calls generalizing r with
  | nil => rw [List.filterMap_nil, order_nil]; rfl
  | cons c calls ih =>
    have step : r.after (c :: calls) = (r.respond c).1.after calls := rfl
    rw [step, ih, respond_fst, List.filterMap_eq_flatMap_toList, List.filterMap_eq_flatMap_toList,
      List.flatMap_cons, order_append]

lemma ofList_fst_eq (admitsUnknown : Bool) (listed : List String) :
    (ofList admitsUnknown listed).1 = ⟨admitsUnknown, listed.eraseDups⟩ := by
  have run (r : Registry) : listed.foldl (fun r x => (r.register x).1) r =
      { r with identifiers := order r.identifiers listed } := by
    induction listed generalizing r with
    | nil => rw [order_nil]; rfl
    | cons x listed ih => rw [List.foldl_cons, ih, (register_spec r x).1, order_cons]
  rw [ofList_fst, run, ← nil_order]
  rfl

lemma run_eq (admitsUnknown : Bool) (listed : List String) (calls : List Call) :
    (ofList admitsUnknown listed).1.after calls =
      ⟨admitsUnknown, (registered admitsUnknown listed calls).eraseDups⟩ := by
  rw [after_eq, ofList_fst_eq, registered, ← nil_order, ← nil_order, order_append]

lemma prefix_after (r : Registry) (calls : List Call) :
    r.identifiers <+: (r.after calls).identifiers := by
  rw [after_eq]
  exact prefix_order _ _

lemma session_respond {c : Call} {s : Session} (h : (r.respond c).2.session? = some s) :
    c.identifier ∈ (r.respond c).1.identifiers ∧
      s = ⟨numberIn (r.respond c).1.identifiers c.identifier, c.identifier⟩ := by
  have registering (x : String) (h : (r.register x).2.session? = some s) :
      x ∈ (r.register x).1.identifiers ∧ s = ⟨numberIn (r.register x).1.identifiers x, x⟩ := by
    obtain ⟨next, session⟩ := register_spec r x
    rw [session] at h
    rw [next]
    exact ⟨mem_enlist _ _, (Option.some.inj h).symm⟩
  cases c with
  | register x => exact registering x h
  | resolve x =>
    cases opened : r.admitsUnknown with
    | true =>
      simp only [respond, resolve_eq_register opened] at h ⊢
      exact registering x h
    | false =>
      simp only [respond, Response.session?, resolve_session_of_closed opened] at h
      simp only [respond, resolve_of_closed opened]
      by_cases known : x ∈ r.identifiers
      · rw [find?_of_mem known] at h
        exact ⟨known, (Option.some.inj h).symm⟩
      · rw [find?_of_not_mem known] at h
        cases h
  | contains x => cases h

lemma deviceId_eq_iff {c d : Call} {s t : Session} {more : List Call}
    (hs : (r.respond c).2.session? = some s)
    (ht : (((r.respond c).1.after more).respond d).2.session? = some t) :
    s.deviceId = t.deviceId ↔ c.identifier = d.identifier := by
  obtain ⟨known, rfl⟩ := session_respond hs
  obtain ⟨later, rfl⟩ := session_respond ht
  have grown : (r.respond c).1.identifiers <+:
      (((r.respond c).1.after more).respond d).1.identifiers :=
    (prefix_after _ more).trans (prefix_after _ [d])
  dsimp only
  rw [← numberIn_stable grown known]
  exact (numberIn_injOn _).eq_iff (grown.subset known) later

/-! What a closed registry refuses. -/

lemma refused_iff (closed : r.admitsUnknown = false) (x : String) :
    (r.resolve x).2.session? = none ↔ x ∉ r.identifiers := by
  rw [resolve_session_of_closed closed, find?, Option.map_eq_none_iff, List.idxOf?_eq_none_iff]

lemma warnings_of_closed (closed : r.admitsUnknown = false) (x : String) (peer : Peer) :
    (Terminal.answerEvents peer x (r.resolve x).2).filter (Log.Level.warning ≤ ·.level) =
      if x ∈ r.identifiers then [] else [.unknownDevice x peer] := by
  rw [resolve, closed]
  by_cases h : x ∈ r.identifiers
  · rw [find?_of_mem h, if_pos h]
    rfl
  · rw [find?_of_not_mem h, if_neg h]
    rfl

/-! The sessions that are held. -/

lemma entries_keys (n : Nat) (xs : List String) : (entries n xs).map (·.1) = xs := by
  induction xs generalizing n with
  | nil => rfl
  | cons x xs ih => rw [entries, List.map_cons, ih]

lemma entries_numbers (n : Nat) (xs : List String) :
    (entries n xs).map (·.2.deviceId) = List.range' n xs.length := by
  induction xs generalizing n with
  | nil => rfl
  | cons x xs ih => rw [entries, List.map_cons, ih, List.length_cons, List.range'_succ]

lemma entries_own (n : Nat) (xs : List String) : ∀ e ∈ entries n xs, e.2.identifier = e.1 := by
  induction xs generalizing n with
  | nil => simp [entries]
  | cons x xs ih =>
    intro e he
    obtain rfl | he := List.mem_cons.1 he
    · rfl
    · exact ih (n + 1) e he

structure Orderly (r : Registry) (registered : List String) : Prop where
  keys : r.ledger.sessions.map (·.1) = registered.eraseDups
  own : ∀ e ∈ r.ledger.sessions, e.2.identifier = e.1
  numbers : r.ledger.sessions.map (·.2.deviceId) = List.range' 1 r.size
  next : r.ledger.next = r.size + 1

lemma orderly_of_identifiers {registered : List String}
    (h : r.identifiers = registered.eraseDups) : r.Orderly registered where
  keys := (entries_keys 1 _).trans h
  own := entries_own 1 _
  numbers := entries_numbers 1 _
  next := rfl

/-- Every registration by list and every sequence of calls keeps the sessions numbered from one
without gaps, in the order of first registration. Calls give the same number if and only if they
name the same device, and a closed registry refuses, with one warning, what was never registered. -/
theorem numbered_by_first_registration (admitsUnknown : Bool) (listed : List String)
    (calls : List Call) :
    let r := (ofList admitsUnknown listed).1.after calls
    let known := registered admitsUnknown listed calls
    ((Ledger.ofList admitsUnknown listed).after calls = r.ledger ∧
      ∀ c, r.ledger.respond c = ((r.respond c).1.ledger, (r.respond c).2)) ∧
    r.Orderly known ∧
    (∀ c d more s t, (r.respond c).2.session? = some s →
      (((r.respond c).1.after more).respond d).2.session? = some t →
        (s.deviceId = t.deviceId ↔ c.identifier = d.identifier)) ∧
    (∀ x, r.respond (.contains x) = (r, .held (decide (x ∈ known)))) ∧
    (∀ more, r.size ≤ (r.after more).size) ∧
    (∀ x, (r.respond (.register x)).2.session?.isSome) ∧
    (admitsUnknown = true → ∀ x, (r.respond (.resolve x)).2.session?.isSome) ∧
    (admitsUnknown = false → ∀ x, (r.respond (.resolve x)).1 = r ∧
      ((r.respond (.resolve x)).2.session? = none ↔ x ∉ known) ∧
      ∀ peer, (Terminal.answerEvents peer x (r.resolve x).2).filter
          (Log.Level.warning ≤ ·.level) =
        if x ∈ known then [] else [.unknownDevice x peer]) := by
  intro r known
  have state : r = ⟨admitsUnknown, known.eraseDups⟩ := run_eq admitsUnknown listed calls
  have admits : r.admitsUnknown = admitsUnknown := by rw [state]
  have mem (x : String) : x ∈ r.identifiers ↔ x ∈ known := by rw [state, List.mem_eraseDups]
  refine ⟨⟨?_, ledger_respond r⟩, ?_, ?_, ?_, ?_, ?_, ?_, ?_⟩
  · rw [ledger_ofList, ledger_after]
  · exact orderly_of_identifiers (by rw [state])
  · exact fun c d more s t hs ht => deviceId_eq_iff hs ht
  · intro x
    rw [respond, contains, List.contains_eq_mem]
    simp only [mem]
  · exact fun more => (prefix_after r more).length_le
  · intro x
    rw [respond, Response.session?, (register_spec r x).2]
    rfl
  · intro opened x
    rw [respond, Response.session?, resolve_eq_register (admits.trans opened),
      (register_spec r x).2]
    rfl
  · intro closed x
    simp only [← mem x]
    exact ⟨resolve_of_closed (admits.trans closed) x, refused_iff (admits.trans closed) x,
      warnings_of_closed (admits.trans closed) x⟩

end Telematics.Registry
