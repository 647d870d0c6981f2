import Telematics.Proofs.Feed.Passage

/-! What a watcher does, with the time of each deed. -/

namespace Telematics.Feed

/-- A send that fails as the client is gone. It ends the watcher, and one that times out does not. -/
inductive Drop where
  | disconnect
  | broken

namespace Drop

def fault : Drop → Fault
  | disconnect => .disconnect
  | broken => .broken

def ending : Drop → Ending
  | disconnect => .disconnected
  | broken => .sendFailed

end Drop

inductive Deed where
  | take (message : String)
  | deliver (message : String)
  | fail (message : String) (drop : Drop)
  | close (code : Nat)

def Deed.isFinal : Deed → Bool
  | .fail _ _ | .close _ => true
  | _ => false

def Deed.taken? : Deed → Option String
  | .take m => some m
  | _ => none

abbrev Journal := List (Nat × Deed)

namespace Journal

def takes (j : Journal) : List String :=
  j.filterMap fun e => e.2.taken?

def deliveries (j : Journal) : List (Nat × String) :=
  j.filterMap fun | (now, .deliver m) => some (now, m) | _ => none

def failures (j : Journal) : List String :=
  j.filterMap fun | (_, .fail m _) => some m | _ => none

/-- The begin of the current wait: the later of the start and the end of the last send. -/
def waitStart (start : Nat) (j : Journal) : Nat :=
  (j.deliveries.getLast?.map Prod.fst).getD start

end Journal

/-- What a watcher may do at a time, and what comes then. A wait ends with a message, or when it has
lasted for the idle time. -/
inductive Step (now : Nat) : Phase → Deed → Phase → Prop
  | take {since : Nat} (m : String) : Step now (.waiting since) (.take m) (.sending m)
  | deliver (m : String) : Step now (.sending m) (.deliver m) (.waiting now)
  | fail (m : String) (drop : Drop) : Step now (.sending m) (.fail m drop) (.ended drop.ending)
  | close {since : Nat} (late : since + Watcher.idleTime ≤ now) :
      Step now (.waiting since) (.close Watcher.idleCode) (.ended .idle)

inductive Conducted (start : Nat) : Journal → Phase → Prop
  | start : Conducted start [] (.waiting start)
  | step {j : Journal} {p q : Phase} {now : Nat} {d : Deed} :
      Conducted start j p → Step now p d q → Conducted start (j ++ [(now, d)]) q

def Phase.inHand : Phase → List String
  | .sending m => [m]
  | _ => []

def Phase.isOver : Phase → Bool
  | .ended _ => true
  | _ => false

lemma Step.before {now : Nat} {p q : Phase} {d : Deed} (h : Step now p d q) : p.isOver = false := by
  cases h with
  | take | deliver | fail | close => rfl

lemma Step.after {now : Nat} {p q : Phase} {d : Deed} (h : Step now p d q) :
    q.isOver = d.isFinal := by
  cases h with
  | take | deliver | fail | close => rfl

namespace Journal

lemma takes_append (i j : Journal) : takes (i ++ j) = takes i ++ takes j :=
  List.filterMap_append

lemma deliveries_append (i j : Journal) : deliveries (i ++ j) = deliveries i ++ deliveries j :=
  List.filterMap_append

lemma failures_append (i j : Journal) : failures (i ++ j) = failures i ++ failures j :=
  List.filterMap_append

end Journal

lemma takings_taken (texts : List String) : takings (texts.map .taken) = texts := by
  induction texts with
  | nil => rfl
  | cons text texts ih => exact congrArg (text :: ·) ih

namespace Conducted

open Journal

variable {start since now code : Nat} {j : Journal} {p : Phase} {m : String}

lemma not_final (h : Conducted start j p) (live : p.isOver = false) :
    ∀ e ∈ j, e.2.isFinal = false := by
  induction h with
  | start => exact fun e he => absurd he List.not_mem_nil
  | step h step ih =>
    rw [step.after] at live
    intro e he
    -- a step starts from a live phase, so no deed before it is final
    obtain he | he := List.mem_append.1 he
    · exact ih step.before e he
    · rwa [List.mem_singleton.1 he]

lemma final_last (h : Conducted start j p) : ∀ e ∈ j.dropLast, e.2.isFinal = false := by
  cases h with
  | start => exact fun e he => absurd he List.not_mem_nil
  | step h step =>
    rw [List.dropLast_concat]
    exact h.not_final step.before

lemma failures_eq_nil (h : Conducted start j p) (live : p.isOver = false) : failures j = [] := by
  apply List.filterMap_eq_nil_iff.2
  intro e he
  have plain := h.not_final live e he
  obtain ⟨now, deed⟩ := e
  cases deed with
  | take | deliver => rfl
  | fail | close => cases plain

lemma takes_eq (h : Conducted start j p) :
    takes j = (deliveries j).map Prod.snd ++ failures j ++ p.inHand := by
  induction h with
  | start => rfl
  | step h step ih =>
    -- nothing has failed before the step, so what is in hand is the last message taken
    have whole := h.failures_eq_nil step.before
    rw [takes_append, ih, deliveries_append, failures_append, whole]
    cases step with
    | take | deliver | fail | close =>
      simp [takes, Deed.taken?, deliveries, failures, Phase.inHand]

lemma since_eq (h : Conducted start j (.waiting since)) : since = waitStart start j := by
  cases h with
  | start => rfl
  | step h step =>
    cases step with
    | deliver m =>
      rw [waitStart, deliveries_append]
      simp [deliveries]

lemma waitStart_close (start : Nat) (j : Journal) (now code : Nat) :
    waitStart start (j ++ [(now, .close code)]) = waitStart start j := by
  rw [waitStart, deliveries_append]
  simp [deliveries, waitStart]

lemma close_late (h : Conducted start j p) (hc : (now, .close code) ∈ j) :
    code = Watcher.idleCode ∧ p = .ended .idle ∧
      waitStart start j + Watcher.idleTime ≤ now := by
  cases h with
  | start => cases hc
  | step h step =>
    obtain hc | hc := List.mem_append.1 hc
    · -- a close is final, so there is no step after it
      exact Bool.noConfusion (h.not_final step.before _ hc)
    · cases List.mem_singleton.1 hc
      cases step with
      | close late =>
        rw [waitStart_close, ← h.since_eq]
        exact ⟨rfl, rfl, late⟩

lemma over_of_fail {drop : Drop} (h : Conducted start j p) (hf : (now, .fail m drop) ∈ j) :
    p = .ended drop.ending := by
  cases h with
  | start => cases hf
  | step h step =>
    obtain hf | hf := List.mem_append.1 hf
    · exact Bool.noConfusion (h.not_final step.before _ hf)
    · cases List.mem_singleton.1 hf
      cases step with
      | fail => rfl

end Conducted

end Telematics.Feed
