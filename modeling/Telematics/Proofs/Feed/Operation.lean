import Telematics.Proofs.Feed.Passage

namespace Telematics.Feed

inductive Op (κ : Type) where
  | add (k : κ)
  | remove (k : κ)
  | send (text : String)
  | put (k : κ) (text : String)
  | get (k : κ)
deriving DecidableEq

abbrev Trace (κ : Type) := List (κ × Passage)

variable {κ : Type} [DecidableEq κ]

def passages (k : κ) (trace : Trace κ) : List Passage :=
  (trace.filter (·.1 = k)).map (·.2)

namespace Op

def concerns (k : κ) : Op κ → Bool
  | add j | remove j | put j _ | get j => j = k
  | send _ => true

def arrivals (k : κ) (places : Nat) : Op κ → List String
  | send text => List.replicate places text
  | put j text => if j = k then [text] else []
  | add _ | remove _ | get _ => []

def places (k : κ) (n : Nat) : Op κ → Nat
  | add j => if j = k then n + 1 else n
  | remove j => if j = k then n - 1 else n
  | send _ | put _ _ | get _ => n

def taken? (k : κ) (m : Mailbox) : Op κ → Option (String × Mailbox)
  | get j => if j = k then m.take? else none
  | add _ | remove _ | send _ | put _ _ => none

def act (op : Op κ) (k : κ) (places : Nat) (m : Mailbox) : Mailbox × List Passage :=
  match op.taken? k m with
  | some (text, rest) => (rest, [.taken text])
  | none => (m.putAll (op.arrivals k places), m.receiving (op.arrivals k places))

end Op

namespace Hub

def apply (h : Hub κ) : Op κ → Hub κ
  | .add k => h.subscribe k
  | .remove k => h.unsubscribe k
  | .send text => (h.broadcast text).1
  | .put k text => (h.put k text).1
  | .get k => ((h.take? k).map (·.2)).getD h

/-! Operations step by step, each of which may fail. -/

def dismiss? (h : Hub κ) (k : κ) : Option (Hub κ) :=
  if k ∈ h.subscribers then some (h.unsubscribe k) else none

def enqueue? (h : Hub κ) (k : κ) (text : String) : Option (Hub κ × Trace κ) :=
  match h.mailbox? k with
  | none => some (h, [])
  | some m => (m.enqueue? text).map fun r => (h.setMailbox k r.1, r.2.map (k, ·))

def enqueueEach? : Hub κ → List κ → String → Option (Hub κ × Trace κ)
  | h, [], _ => some (h, [])
  | h, k :: keys, text =>
    (h.enqueue? k text).bind fun r =>
      (enqueueEach? r.1 keys text).map fun s => (s.1, r.2 ++ s.2)

def perform? (h : Hub κ) : Op κ → Option (Hub κ × Trace κ)
  | .add k => some (h.subscribe k, [])
  | .remove k => if k ∈ h.subscribers then (h.dismiss? k).map (·, []) else some (h, [])
  | .send text => h.enqueueEach? h.subscribers text
  | .put k text => h.enqueue? k text
  | .get k => (h.take? k).map fun r => (r.2, [(k, .taken r.1)])

def step (h : Hub κ) (op : Op κ) : Hub κ × Trace κ :=
  (h.perform? op).getD (h, [])

def Fits (h : Hub κ) : Prop :=
  ∀ k m, h.mailbox? k = some m → m.Fits

variable {h g : Hub κ} {k j : κ} {m : Mailbox} {text : String}

lemma passages_append (k : κ) (xs ys : Trace κ) :
    passages k (xs ++ ys) = passages k xs ++ passages k ys := by
  rw [passages, List.filter_append, List.map_append]
  rfl

lemma passages_tagged (k j : κ) (ps : List Passage) :
    passages k (ps.map (j, ·)) = if j = k then ps else [] := by
  rw [passages, List.filter_map, List.map_map]
  by_cases hj : j = k
  · simp [Function.comp_def, hj]
  · simp [Function.comp_def, hj]

lemma mailbox?_put_eq (h : Hub κ) (j k : κ) (text : String) : (h.put j text).1.mailbox? k =
    (h.mailbox? k).map (·.putAll (if j = k then [text] else [])) := by
  rw [mailbox?_put]
  by_cases same : j = k
  · subst same
    rw [if_pos BEq.rfl, if_pos rfl]
    rfl
  · rw [if_neg (by simpa using Ne.symm same), if_neg same]
    exact Option.map_id'.symm

lemma Fits.put (fits : h.Fits) (j : κ) (text : String) : (h.put j text).1.Fits := by
  intro k m hm
  rw [mailbox?_put_eq] at hm
  obtain ⟨n, hn, rfl⟩ := Option.map_eq_some_iff.1 hm
  exact (fits k n hn).putAll _

lemma Fits.enqueue?_eq (fits : h.Fits) (j : κ) (text : String) :
    ∃ trace, h.enqueue? j text = some ((h.put j text).1, trace) ∧
      ∀ k m, h.mailbox? k = some m →
        passages k trace = m.receiving (if j = k then [text] else []) := by
  cases hj : h.mailbox? j with
  | none =>
    refine ⟨[], by simp only [enqueue?, Hub.put, hj], ?_⟩
    intro k m hm
    have other : j ≠ k := by
      rintro rfl
      rw [hj] at hm
      cases hm
    rw [if_neg other]
    rfl
  | some n =>
    refine ⟨(n.passing text).map (j, ·), ?_, ?_⟩
    · simp only [enqueue?, Hub.put, hj, (fits j n hj).enqueue?_eq, Option.map_some]
    · intro k m hm
      rw [passages_tagged]
      split_ifs with same
      · subst same
        rw [hj] at hm
        cases hm
        exact (List.append_nil _).symm
      · rfl

lemma Fits.enqueueEach?_eq (fits : h.Fits) (keys : List κ) (text : String) :
    ∃ trace, h.enqueueEach? keys text = some (h.putEach keys text, trace) ∧
      ∀ k m, h.mailbox? k = some m →
        passages k trace = m.receiving (List.replicate (keys.count k) text) := by
  induction keys generalizing h with
  | nil => exact ⟨[], rfl, fun _ _ _ => rfl⟩
  | cons j keys ih =>
    obtain ⟨first, entered, here⟩ := fits.enqueue?_eq j text
    obtain ⟨others, rest, there⟩ := ih (fits.put j text)
    refine ⟨first ++ others, ?_, ?_⟩
    · simp only [enqueueEach?, entered, Option.bind_some, rest, Option.map_some]
      rfl
    · intro k m hm
      have next : (h.put j text).1.mailbox? k =
          some (m.putAll (if j = k then [text] else [])) := by
        rw [mailbox?_put_eq, hm, Option.map_some]
      rw [passages_append, here k m hm, there k _ next, ← Mailbox.receiving_append]
      congr 1
      by_cases same : j = k
      · rw [if_pos same, same, List.count_cons_self, List.replicate_succ]
        rfl
      · rw [if_neg same, List.count_cons_of_ne same]
        rfl

/-! Reading. -/

lemma take?_cases (h : Hub κ) (j : κ) :
    (h.take? j = none ∧ ∀ m ∈ h.mailbox? j, m.messages = []) ∨
    ∃ n oldest rest, h.mailbox? j = some n ∧ n.messages = oldest :: rest ∧
      h.take? j = some (oldest, h.setMailbox j { n with messages := rest }) := by
  rw [take?]
  cases h.mailbox? j with
  | none => exact .inl ⟨rfl, fun m hm => by cases hm⟩
  | some n =>
    rw [Option.bind_some, Mailbox.take?]
    cases hn : n.messages with
    | nil =>
      refine .inl ⟨rfl, ?_⟩
      rintro m ⟨⟩
      exact hn
    | cons oldest rest => exact .inr ⟨n, oldest, rest, rfl, hn, rfl⟩

lemma take?_eq_none_iff : h.take? k = none ↔ ∀ m ∈ h.mailbox? k, m.messages = [] := by
  obtain ⟨failed, empty⟩ | ⟨n, oldest, rest, hn, waiting, taken⟩ := h.take?_cases k
  · exact ⟨fun _ => empty, fun _ => failed⟩
  · constructor
    · intro failed
      rw [taken] at failed
      cases failed
    · intro empty
      rw [empty n hn] at waiting
      cases waiting

lemma apply_get_of_none (failed : h.take? j = none) : h.apply (.get j) = h := by
  rw [apply, failed]
  rfl

lemma mailbox?_get (h : Hub κ) (j k : κ) : (h.apply (.get j)).mailbox? k =
    (h.mailbox? k).map fun m => if j = k then (m.take?.map (·.2)).getD m else m := by
  by_cases here : j = k
  · subst here
    obtain ⟨failed, empty⟩ | ⟨n, oldest, rest, hn, waiting, taken⟩ := h.take?_cases j
    · rw [apply_get_of_none failed]
      cases hj : h.mailbox? j with
      | none => rfl
      | some m => simp only [Option.map_some, if_true, Mailbox.take?, empty m hj, Option.map_none,
          Option.getD_none]
    · simp only [apply, taken, Option.map_some, Option.getD_some, mailbox?_setMailbox, BEq.rfl,
        if_true, hn, Mailbox.take?, waiting]
  · simp only [here, if_false, Option.map_id']
    obtain ⟨failed, -⟩ | ⟨n, oldest, rest, -, -, taken⟩ := h.take?_cases j
    · rw [apply_get_of_none failed]
    · have other : (k == j) = false := by simpa using Ne.symm here
      simp only [apply, taken, Option.map_some, Option.getD_some, mailbox?_setMailbox, other,
        Bool.false_eq_true, if_false]

/-! What operations do to a mailbox and to its places. -/

lemma mailbox?_apply (h : Hub κ) (op : Op κ) (k : κ) : (h.apply op).mailbox? k =
    (h.mailbox? k).map fun m => (op.act k (h.subscribers.count k) m).1 := by
  cases op with
  | add | remove => exact Option.map_id'.symm
  | send text => rw [apply, broadcast_fst, mailbox?_putEach]; rfl
  | put j text => rw [apply, mailbox?_put_eq]; rfl
  | get j =>
    rw [mailbox?_get]
    congr 1
    funext m
    by_cases here : j = k
    · simp only [Op.act, Op.taken?, here, if_true]
      cases m.take? with
      | none | some => rfl
    · simp only [Op.act, Op.taken?, here, if_false]
      rfl

lemma count_apply (h : Hub κ) (op : Op κ) (k : κ) :
    (h.apply op).subscribers.count k = op.places k (h.subscribers.count k) := by
  cases op with
  | add j =>
    rw [apply, subscribe, List.count_append, List.count_singleton, Op.places]
    by_cases here : j = k
    · rw [if_pos here, here, if_pos BEq.rfl]
    · rw [if_neg here, if_neg (by simpa using here), Nat.add_zero]
  | remove j =>
    rw [apply, unsubscribe, List.count_erase, Op.places]
    by_cases here : j = k
    · rw [if_pos here, here, if_pos BEq.rfl]
    · rw [if_neg here, if_neg (by simpa using here), Nat.sub_zero]
  | send text => exact congrArg (List.count k) (broadcast_subscribers h text)
  | put j text => exact congrArg (List.count k) (put_subscribers h j text)
  | get j =>
    obtain ⟨failed, -⟩ | ⟨n, oldest, rest, -, -, taken⟩ := h.take?_cases j
    · rw [apply_get_of_none failed]
      rfl
    · rw [apply, taken]
      rfl

/-! One operation at one mailbox. -/

lemma act_cases (op : Op κ) (k : κ) (n : Nat) (m : Mailbox) :
    (∃ oldest rest, m.messages = oldest :: rest ∧ op.arrivals k n = [] ∧
      op.taken? k m = some (oldest, { m with messages := rest }) ∧
      op.act k n m = ({ m with messages := rest }, [.taken oldest])) ∨
    op.taken? k m = none ∧
      op.act k n m = (m.putAll (op.arrivals k n), m.receiving (op.arrivals k n)) := by
  cases ht : op.taken? k m with
  | none => exact .inr ⟨rfl, by rw [Op.act, ht]⟩
  | some r =>
    cases op with
    | get j =>
      rw [Op.taken?] at ht
      split_ifs at ht with here
      rw [Mailbox.take?] at ht
      cases hm : m.messages with
      | nil =>
        rw [hm] at ht
        cases ht
      | cons oldest rest =>
        rw [hm] at ht
        cases ht
        refine .inl ⟨oldest, rest, rfl, rfl, rfl, ?_⟩
        rw [Op.act, Op.taken?, if_pos here, Mailbox.take?, hm]
    | add | remove | send | put => cases ht

lemma act_capacity (op : Op κ) (k : κ) (n : Nat) (m : Mailbox) :
    (op.act k n m).1.capacity = m.capacity := by
  obtain ⟨oldest, rest, -, -, -, same⟩ | ⟨-, same⟩ := act_cases op k n m
  · rw [same]
  · rw [same]
    exact Mailbox.putAll_capacity m _

lemma passes_act (fits : m.Fits) (op : Op κ) (k : κ) (n : Nat) :
    Passes m.capacity m.messages (op.act k n m).2 (op.act k n m).1.messages := by
  obtain ⟨oldest, rest, waiting, -, -, same⟩ | ⟨-, same⟩ := act_cases op k n m
  · rw [same, waiting]
    exact .take .rest
  · rw [same]
    exact fits.passes_receiving _

lemma entries_act (op : Op κ) (k : κ) (n : Nat) (m : Mailbox) :
    entries (op.act k n m).2 = op.arrivals k n := by
  obtain ⟨oldest, rest, -, none_comes, -, same⟩ | ⟨-, same⟩ := act_cases op k n m
  · rw [same, none_comes]
    rfl
  · rw [same]
    exact (m.receiving_eq _).1

lemma takings_act (op : Op κ) (k : κ) (n : Nat) (m : Mailbox) :
    takings (op.act k n m).2 = ((op.taken? k m).map (·.1)).toList := by
  obtain ⟨oldest, rest, -, -, taken, same⟩ | ⟨untaken, same⟩ := act_cases op k n m
  · rw [same, taken]
    rfl
  · rw [same, untaken]
    exact (m.receiving_eq _).2

lemma act_of_not_concerns {op : Op κ} (other : op.concerns k = false) (n : Nat) (m : Mailbox) :
    op.act k n m = (m, []) := by
  cases op with
  | send text => cases other
  | add j | remove j | put j text | get j =>
    have elsewhere : j ≠ k := of_decide_eq_false other
    simp only [Op.act, Op.taken?, Op.arrivals, elsewhere, if_false]
    rfl

lemma places_of_not_concerns {op : Op κ} (other : op.concerns k = false) (n : Nat) :
    op.places k n = n := by
  cases op with
  | send text => cases other
  | add j | remove j | put j text | get j =>
    have elsewhere : j ≠ k := of_decide_eq_false other
    simp only [Op.places, elsewhere, if_false]

lemma Fits.apply (fits : h.Fits) (op : Op κ) : (h.apply op).Fits := by
  intro k m hm
  rw [mailbox?_apply] at hm
  obtain ⟨n, hn, rfl⟩ := Option.map_eq_some_iff.1 hm
  exact (fits k n hn).of_passes (act_capacity op k _ n) (passes_act (fits k n hn) op k _)

lemma passages_get {oldest : String} {rest : List String} (hm : h.mailbox? j = some m)
    (waiting : m.messages = oldest :: rest) (n : Nat) {l : Mailbox} (hl : h.mailbox? k = some l) :
    passages k [(j, .taken oldest)] = ((Op.get j).act k n l).2 := by
  by_cases here : j = k
  · subst here
    rw [hm] at hl
    cases hl
    simp only [Op.act, Op.taken?, if_true, Mailbox.take?, waiting]
    simp [passages]
  · have other : (Op.get j).concerns k = false := decide_eq_false here
    rw [act_of_not_concerns other]
    simp [passages, here]

lemma Fits.perform?_eq (fits : h.Fits) (op : Op κ) :
    (∃ k, op = .get k ∧ h.take? k = none ∧ h.perform? op = none) ∨
    ∃ trace, h.perform? op = some (h.apply op, trace) ∧ ∀ k m, h.mailbox? k = some m →
      passages k trace = (op.act k (h.subscribers.count k) m).2 := by
  cases op with
  | add j => exact .inr ⟨[], rfl, fun _ _ _ => rfl⟩
  | remove j =>
    refine .inr ⟨[], ?_, fun _ _ _ => rfl⟩
    by_cases subscribed : j ∈ h.subscribers
    · simp only [perform?, dismiss?, subscribed, if_true, Option.map_some]
      rfl
    · have same : h.unsubscribe j = h := by
        rw [unsubscribe, List.erase_of_not_mem subscribed]
      simp only [perform?, subscribed, if_false, Hub.apply, same]
  | send text =>
    obtain ⟨trace, sent, through⟩ := fits.enqueueEach?_eq h.subscribers text
    rw [← broadcast_fst] at sent
    exact .inr ⟨trace, sent, through⟩
  | put j text =>
    obtain ⟨trace, sent, through⟩ := fits.enqueue?_eq j text
    exact .inr ⟨trace, sent, through⟩
  | get j =>
    obtain ⟨failed, -⟩ | ⟨n, oldest, rest, hn, waiting, taken⟩ := h.take?_cases j
    · refine .inl ⟨j, rfl, failed, ?_⟩
      rw [perform?, failed]
      rfl
    · refine .inr ⟨[(j, .taken oldest)], ?_, fun k m hm => passages_get hn waiting _ hm⟩
      rw [perform?, Hub.apply, taken]
      rfl

lemma Fits.perform?_eq_none (fits : h.Fits) (op : Op κ) : h.perform? op = none ↔
    ∃ k, op = .get k ∧ ∀ m ∈ h.mailbox? k, m.messages = [] := by
  constructor
  · intro failed
    obtain ⟨k, rfl, nothing, -⟩ | ⟨trace, done, -⟩ := fits.perform?_eq op
    · exact ⟨k, rfl, take?_eq_none_iff.1 nothing⟩
    · rw [failed] at done
      cases done
  · rintro ⟨k, rfl, empty⟩
    rw [perform?, take?_eq_none_iff.2 empty]
    rfl

lemma Fits.step_eq (fits : h.Fits) (op : Op κ) : (h.step op).1 = h.apply op ∧
    ∀ k m, h.mailbox? k = some m →
      passages k (h.step op).2 = (op.act k (h.subscribers.count k) m).2 := by
  obtain ⟨j, rfl, nothing, failed⟩ | ⟨trace, done, through⟩ := fits.perform?_eq op
  · rw [step, failed]
    refine ⟨(apply_get_of_none nothing).symm, ?_⟩
    intro k m hm
    obtain ⟨oldest, rest, waiting, -, taken, -⟩ | ⟨-, same⟩ :=
      act_cases (.get j) k (h.subscribers.count k) m
    · rw [Op.taken?] at taken
      split_ifs at taken with here
      rw [take?_eq_none_iff.1 nothing m (here ▸ hm)] at waiting
      cases waiting
    · rw [same]
      rfl
  · rw [step, done]
    exact ⟨rfl, through⟩

end Hub

end Telematics.Feed
