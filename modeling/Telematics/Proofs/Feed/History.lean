import Telematics.Proofs.Feed.Operation

/-! A hub over a whole run of operations. -/

namespace Telematics.Feed.Hub

variable {κ : Type} [DecidableEq κ] {h g : Hub κ} {k : κ} {m : Mailbox}

def run (h : Hub κ) (ops : List (Op κ)) : Hub κ :=
  ops.foldl apply h

def play : Hub κ → List (Op κ) → Hub κ × Trace κ
  | h, [] => (h, [])
  | h, op :: ops => ((play (h.step op).1 ops).1, (h.step op).2 ++ (play (h.step op).1 ops).2)

lemma Fits.play_fst (fits : h.Fits) (ops : List (Op κ)) : (h.play ops).1 = h.run ops := by
  induction ops generalizing h with
  | nil => rfl
  | cons op ops ih =>
    rw [play, (fits.step_eq op).1, ih (fits.apply op)]
    rfl

lemma Fits.passages_cons (fits : h.Fits) (hm : h.mailbox? k = some m) (op : Op κ)
    (ops : List (Op κ)) : passages k (h.play (op :: ops)).2 =
      (op.act k (h.subscribers.count k) m).2 ++ passages k ((h.apply op).play ops).2 := by
  rw [play, passages_append, (fits.step_eq op).1, (fits.step_eq op).2 k m hm]

def puts (k : κ) : Hub κ → List (Op κ) → List String
  | _, [] => []
  | h, op :: ops => op.arrivals k (h.subscribers.count k) ++ puts k (h.apply op) ops

def gets (k : κ) : Hub κ → List (Op κ) → List String
  | _, [] => []
  | h, op :: ops =>
    (if op = .get k then ((h.take? k).map (·.1)).toList else []) ++ gets k (h.apply op) ops

def removals (k : κ) : Hub κ → List (Op κ) → Nat
  | _, [] => 0
  | h, op :: ops =>
    (if op = .remove k ∧ k ∈ h.subscribers then 1 else 0) + removals k (h.apply op) ops

lemma taken?_eq (hm : h.mailbox? k = some m) (op : Op κ) :
    (op.taken? k m).map (·.1) = if op = .get k then (h.take? k).map (·.1) else none := by
  cases op with
  | get j =>
    by_cases here : j = k
    · rw [Op.taken?, if_pos here, if_pos (congrArg Op.get here), take?, hm, Option.bind_some,
        Option.map_map]
      rfl
    · rw [Op.taken?, if_neg here, if_neg (mt Op.get.inj here)]
      rfl
  | add | remove | send | put =>
    rw [if_neg (by simp)]
    rfl

lemma Fits.passes_play (fits : h.Fits) (hm : h.mailbox? k = some m) (ops : List (Op κ)) :
    ∃ messages, (h.run ops).mailbox? k = some ⟨m.capacity, messages⟩ ∧
      Passes m.capacity m.messages (passages k (h.play ops).2) messages ∧
      entries (passages k (h.play ops).2) = puts k h ops ∧
      takings (passages k (h.play ops).2) = gets k h ops := by
  induction ops generalizing h m with
  | nil => exact ⟨m.messages, hm, .rest, rfl, rfl⟩
  | cons op ops ih =>
    have next : (h.apply op).mailbox? k = some (op.act k (h.subscribers.count k) m).1 := by
      rw [mailbox?_apply, hm, Option.map_some]
    obtain ⟨messages, last, passes, entered, taken⟩ := ih (fits.apply op) next
    rw [act_capacity] at last passes
    refine ⟨messages, last, ?_, ?_, ?_⟩
    · rw [fits.passages_cons hm]
      exact (passes_act (fits k m hm) op k _).append passes
    · rw [fits.passages_cons hm, entries_append, entries_act, entered, puts]
    · rw [fits.passages_cons hm, takings_append, takings_act, taken, gets, taken?_eq hm]
      split_ifs <;> rfl

lemma places_balance (h : Hub κ) (k : κ) (op : Op κ) :
    op.places k (h.subscribers.count k) +
      (if op = .remove k ∧ k ∈ h.subscribers then 1 else 0) =
        h.subscribers.count k + if op = .add k then 1 else 0 := by
  cases op with
  | add j =>
    by_cases here : j = k
    · simp [Op.places, here]
    · simp [Op.places, here]
  | remove j =>
    by_cases here : j = k
    · by_cases subscribed : k ∈ h.subscribers
      · have some_place := List.count_pos_iff.2 subscribed
        simp only [Op.places, here, subscribed, and_self, if_true]
        simp
        omega
      · have no_place := List.count_eq_zero.2 subscribed
        simp [Op.places, here, subscribed, no_place]
    · simp [Op.places, here]
  | send | put | get => simp [Op.places]

lemma count_run (h : Hub κ) (k : κ) (ops : List (Op κ)) :
    (h.run ops).subscribers.count k + removals k h ops =
      h.subscribers.count k + ops.count (.add k) := by
  induction ops generalizing h with
  | nil => rfl
  | cons op ops ih =>
    have step : (h.run (op :: ops)) = (h.apply op).run ops := rfl
    have next := ih (h.apply op)
    have now := h.places_balance k op
    rw [count_apply] at next
    rw [step, removals, List.count_cons]
    simp only [beq_iff_eq]
    omega

structure Agree (k : κ) (h g : Hub κ) : Prop where
  mailbox : h.mailbox? k = g.mailbox? k
  places : h.subscribers.count k = g.subscribers.count k

lemma Agree.apply (same : Agree k h g) (op : Op κ) : Agree k (h.apply op) (g.apply op) where
  mailbox := by rw [mailbox?_apply, mailbox?_apply, same.mailbox, same.places]
  places := by rw [count_apply, count_apply, same.places]

lemma Agree.apply_left (same : Agree k h g) {op : Op κ} (other : op.concerns k = false) :
    Agree k (h.apply op) g where
  mailbox := by
    rw [mailbox?_apply, ← same.mailbox]
    simp only [act_of_not_concerns other, Option.map_id']
  places := by rw [count_apply, ← same.places, places_of_not_concerns other]

lemma Agree.play (same : Agree k h g) (hf : h.Fits) (gf : g.Fits) (hm : h.mailbox? k = some m)
    (ops : List (Op κ)) :
    Agree k (h.run ops) (g.run (ops.filter (Op.concerns k))) ∧
      passages k (h.play ops).2 = passages k (g.play (ops.filter (Op.concerns k))).2 := by
  induction ops generalizing h g m with
  | nil => exact ⟨same, rfl⟩
  | cons op ops ih =>
    have next : (h.apply op).mailbox? k = some (op.act k (h.subscribers.count k) m).1 := by
      rw [mailbox?_apply, hm, Option.map_some]
    by_cases own : op.concerns k
    · have gm : g.mailbox? k = some m := same.mailbox ▸ hm
      rw [List.filter_cons_of_pos own, hf.passages_cons hm, gf.passages_cons gm, same.places]
      obtain ⟨later, passed⟩ := ih (same.apply op) (hf.apply op) (gf.apply op) next
      exact ⟨later, by rw [passed]⟩
    · -- the second hub stands still while the first one moves on at other mailboxes
      have other := Bool.eq_false_iff.2 own
      rw [List.filter_cons_of_neg own, hf.passages_cons hm, act_of_not_concerns other]
      exact ih (same.apply_left other) (hf.apply op) gf next

def ofCapacities (capacities : List (κ × Int)) : Hub κ :=
  ⟨[], capacities.map fun c => (c.1, .empty c.2)⟩

lemma mailbox?_ofCapacities (capacities : List (κ × Int)) (k : κ) :
    (ofCapacities capacities).mailbox? k = (capacities.lookup k).map .empty := by
  rw [ofCapacities, mailbox?]
  induction capacities with
  | nil => rfl
  | cons c rest ih =>
    rw [List.map_cons, List.lookup_cons, List.lookup_cons, ih]
    split <;> rfl

lemma fits_ofCapacities (capacities : List (κ × Int)) : (ofCapacities capacities).Fits := by
  intro k m hm
  rw [mailbox?_ofCapacities] at hm
  obtain ⟨capacity, -, rfl⟩ := Option.map_eq_some_iff.1 hm
  exact fun positive => Int.le_of_lt positive

lemma Fits.run (fits : h.Fits) (ops : List (Op κ)) : (h.run ops).Fits := by
  induction ops generalizing h with
  | nil => exact fits
  | cons op ops ih => exact ih (fits.apply op)

/-- What a mailbox holds, what was read from it and what it lost make up all that was put into it.
What it holds came last; what left did so in order, and what was not read was evicted. -/
structure Keeps (capacity : Int) (puts gets : List String) (passed : List Passage)
    (messages : List String) : Prop where
  passes : Passes capacity [] passed messages
  entered : entries passed = puts
  suffix : puts = (departures passed).map Passage.text ++ messages
  read : gets = ((departures passed).filter Passage.isTaking).map Passage.text
  lost : passed.filter Passage.isEviction = (departures passed).filter (!·.isTaking)
  bounded : 0 < capacity → messages.length ≤ capacity

lemma keeps_of_passes {capacity : Int} {passed : List Passage} {messages : List String}
    (h : Passes capacity [] passed messages) :
    Keeps capacity (entries passed) (takings passed) passed messages where
  passes := h
  entered := rfl
  suffix := h.balance
  read := takings_departures passed
  lost := evictions_departures passed
  bounded positive := h.bounded positive (Int.le_of_lt positive)

/-- Whatever is subscribed, sent, put and read: nothing fails but reading from an empty mailbox, and
every mailbox keeps the last of the messages that came as often as its key was subscribed. What
happens at other mailboxes has no part in it. -/
theorem fan_out (capacities : List (κ × Int)) (ops : List (Op κ)) :
    let start := ofCapacities capacities
    let hub := start.run ops
    let trace := (start.play ops).2
    (start.play ops).1 = hub ∧
    (∀ op, hub.perform? op = none ↔ ∃ k, op = .get k ∧ ∀ m ∈ hub.mailbox? k, m.messages = []) ∧
    (∀ k, hub.subscribers.count k + removals k start ops = ops.count (.add k)) ∧
    ∀ k capacity, capacities.lookup k = some capacity →
      (∀ text, entries (passages k (hub.step (.send text)).2) =
        List.replicate (hub.subscribers.count k) text) ∧
      ∃ messages, hub.mailbox? k = some ⟨capacity, messages⟩ ∧
        Keeps capacity (puts k start ops) (gets k start ops) (passages k trace) messages ∧
        let alone := ofCapacities [(k, capacity)]
        let own := ops.filter (Op.concerns k)
        (alone.run own).mailbox? k = hub.mailbox? k ∧
        (alone.run own).subscribers.count k = hub.subscribers.count k ∧
        passages k (alone.play own).2 = passages k trace := by
  intro start hub trace
  have fits : start.Fits := fits_ofCapacities capacities
  refine ⟨fits.play_fst ops, (fits.run ops).perform?_eq_none, ?_, ?_⟩
  · intro k
    have counted := start.count_run k ops
    rwa [show start.subscribers.count k = 0 from rfl, Nat.zero_add] at counted
  · intro k capacity known
    have first : start.mailbox? k = some (.empty capacity) := by
      rw [mailbox?_ofCapacities, known, Option.map_some]
    obtain ⟨messages, last, passes, entered, taken⟩ := fits.passes_play first ops
    refine ⟨?_, messages, last, ?_, ?_⟩
    · intro text
      rw [((fits.run ops).step_eq (.send text)).2 k _ last, entries_act]
      rfl
    · have keeps := keeps_of_passes passes
      rwa [entered, taken] at keeps
    · intro alone own
      have lone : alone.mailbox? k = some (.empty capacity) := by
        rw [mailbox?_ofCapacities, List.lookup_cons, BEq.rfl]
        rfl
      have same : Agree k start alone := ⟨first.trans lone.symm, rfl⟩
      obtain ⟨later, passed⟩ := same.play fits (fits_ofCapacities _) first ops
      exact ⟨later.mailbox.symm, later.places.symm, passed.symm⟩

end Telematics.Feed.Hub
