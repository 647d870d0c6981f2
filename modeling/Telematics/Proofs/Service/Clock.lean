import Telematics.Proofs.Feed.Seat
import Telematics.Proofs.Service.Subscription

/-! The watchers of the service, each at its seat under the clock. -/

namespace Telematics

open Feed

namespace Feed.Seat

variable {s : Seat} {clock n : Nat} {capacity : Int} {w : Watcher} {m : String}
  {messages : List String} {rest : Mailbox}

lemma play_append (s : Seat) (xs ys : List Moment) : s.play (xs ++ ys) = (s.play xs).play ys :=
  List.foldl_append

lemma play_puts (s : Seat) (texts : List String) :
    s.play (texts.map .put) = { s with mailbox := s.mailbox.putAll texts } := by
  induction texts generalizing s with
  | nil => rfl
  | cons text texts ih => exact ih { s with mailbox := s.mailbox.put text }

lemma puts_append (xs ys : List Moment) : puts (xs ++ ys) = puts xs ++ puts ys :=
  List.filterMap_append

lemma puts_map_put (texts : List String) : puts (texts.map .put) = texts := by
  induction texts with
  | nil => rfl
  | cons text texts ih => exact congrArg (text :: ·) ih

lemma expire_of_not_waiting (hw : ¬ w.isWaiting) (now : Nat) : w.expire now = w := by
  cases hp : w.phase with
  | waiting since => exact absurd (by rw [Watcher.isWaiting, hp]) hw
  | accepting | sending | closing | ended => simp only [Watcher.expire, hp]

lemma drain_of_not_waiting (hw : ¬ w.isWaiting) (now : Nat) (messages : List String) :
    w.drain now messages = (w, messages) := by
  cases messages with
  | nil => rw [Watcher.drain, expire_of_not_waiting hw]
  | cons m rest => rw [Watcher.drain, if_neg hw]

lemma exists_since (hw : w.isWaiting) : ∃ since, w.phase = .waiting since := by
  cases hp : w.phase with
  | waiting since => exact ⟨since, rfl⟩
  | accepting | sending | closing | ended =>
    rw [Watcher.isWaiting, hp] at hw
    cases hw

/-! Moves up to where a watcher settles. More of them leave it there. -/

def runs (n : Nat) : List Moment :=
  List.replicate n .move

lemma play_runs_succ (s : Seat) (n : Nat) : s.play (runs (n + 1)) = s.move.1.play (runs n) :=
  rfl

lemma puts_runs (n : Nat) : puts (runs n) = [] := by
  rw [puts, runs, List.filterMap_replicate]

lemma play_of_still (h : s.move.1 = s) (n : Nat) : s.play (runs n) = s := by
  induction n with
  | zero => rfl
  | succ n ih => rw [play_runs_succ, h, ih]

lemma still_of_expired (hw : w.isWaiting) (clock : Nat) (capacity : Int) :
    (move ⟨clock, w.expire clock, ⟨capacity, []⟩⟩).1 = ⟨clock, w.expire clock, ⟨capacity, []⟩⟩ := by
  obtain ⟨since, hp⟩ := exists_since hw
  by_cases late : since + Watcher.idleTime ≤ clock
  · simp only [Watcher.expire, hp, late, if_true, move]
  · simp only [Watcher.expire, hp, late, if_false, move, Mailbox.take?]

lemma still_of_sent (h : ¬ (w.send clock m).isWaiting) :
    (move ⟨clock, w.send clock m, rest⟩).1 = ⟨clock, w.send clock m, rest⟩ := by
  cases stalled : w.stalled with
  | true => simp only [Watcher.send, stalled, if_true, move]
  | false =>
    -- a send that nothing holds up delivers, or the watcher stops there
    rw [Watcher.send, stalled, if_neg Bool.false_ne_true] at h ⊢
    cases failing : w.fault with
    | none =>
      rw [failing] at h
      exact absurd rfl h
    | some how => cases how with
      | disconnect | broken | timeout => rfl

lemma play_drained (hw : w.isWaiting) (hn : messages.length < n) :
    play ⟨clock, w, ⟨capacity, messages⟩⟩ (runs n) =
      ⟨clock, (w.drain clock messages).1, ⟨capacity, (w.drain clock messages).2⟩⟩ := by
  induction messages generalizing w n with
  | nil =>
    obtain ⟨k, rfl⟩ := Nat.exists_eq_add_of_lt hn
    obtain ⟨since, hp⟩ := exists_since hw
    have first : (move ⟨clock, w, ⟨capacity, []⟩⟩).1 = ⟨clock, w.expire clock, ⟨capacity, []⟩⟩ := by
      simp only [move, hp, Mailbox.take?]
    rw [play_runs_succ, first, play_of_still (still_of_expired hw clock capacity), Watcher.drain]
  | cons m rest ih =>
    obtain ⟨k, rfl⟩ := Nat.exists_eq_add_of_lt (Nat.zero_lt_of_lt hn)
    obtain ⟨since, hp⟩ := exists_since hw
    have first : (move ⟨clock, w, ⟨capacity, m :: rest⟩⟩).1 =
        ⟨clock, w.send clock m, ⟨capacity, rest⟩⟩ := by
      simp only [move, hp, Mailbox.take?]
    rw [play_runs_succ, first, Watcher.drain, if_pos hw]
    by_cases on : (w.send clock m).isWaiting
    · apply ih on
      rw [List.length_cons] at hn
      omega
    · rw [play_of_still (still_of_sent on), drain_of_not_waiting on]

def settled (s : Seat) : Seat :=
  { s with
    watcher := (s.watcher.settle s.clock s.mailbox.messages).1
    mailbox := { s.mailbox with
      messages := (s.watcher.settle s.clock s.mailbox.messages).2 } }

lemma play_settled (hn : s.mailbox.messages.length + 1 < n) : s.play (runs n) = s.settled := by
  obtain ⟨clock, w, ⟨capacity, messages⟩⟩ := s
  have more : messages.length + 1 < n := hn
  cases hp : w.phase with
  | waiting since =>
    have hw : w.isWaiting := by rw [Watcher.isWaiting, hp]
    rw [play_drained hw (Nat.lt_of_succ_lt more)]
    simp only [settled, Watcher.settle, hp]
  | sending m =>
    obtain ⟨k, rfl⟩ := Nat.exists_eq_add_of_lt (Nat.zero_lt_of_lt more)
    have first : (move ⟨clock, w, ⟨capacity, messages⟩⟩).1 =
        ⟨clock, w.send clock m, ⟨capacity, messages⟩⟩ := by
      simp only [move, hp]
    rw [play_runs_succ, first]
    simp only [settled, Watcher.settle, hp]
    by_cases on : (w.send clock m).isWaiting
    · apply play_drained on
      omega
    · rw [play_of_still (still_of_sent on), drain_of_not_waiting on]
  | accepting | closing | ended =>
    have still : (move ⟨clock, w, ⟨capacity, messages⟩⟩).1 = ⟨clock, w, ⟨capacity, messages⟩⟩ := by
      simp only [move, hp]
    have hw : ¬ w.isWaiting := by simp [Watcher.isWaiting, hp]
    rw [play_of_still still]
    simp only [settled, Watcher.settle, hp, drain_of_not_waiting hw]

lemma play_later (s : Seat) (milliseconds : Nat) (hn : s.mailbox.messages.length + 1 < n) :
    s.play (.pass milliseconds :: runs n) =
      { s with clock := s.clock + milliseconds }.settled := by
  have passed : s.play (.pass milliseconds :: runs n) = (s.pass milliseconds).1.play (runs n) := rfl
  rw [passed]
  obtain ⟨move, -⟩ | ⟨rest, -⟩ := s.pass_cases milliseconds
  · -- with the time that passes the watcher may have made a move already
    rw [move, ← play_runs_succ]
    exact play_settled (Nat.lt_succ_of_lt hn)
  · rw [rest]
    exact play_settled hn

lemma ended_step (h : s.watcher.hasEnded) (x : Moment) : (s.step x).1.watcher.hasEnded := by
  have still (t : Seat) (ended : t.watcher.hasEnded) : t.move = (t, []) := by
    cases hp : t.watcher.phase with
    | ended => simp only [move, hp]
    | accepting | waiting | sending | closing =>
      rw [Watcher.hasEnded, hp] at ended
      cases ended
  cases x with
  | put | stall | resume | drop => exact h
  | pass milliseconds =>
    rw [step]
    obtain ⟨move, -⟩ | ⟨rest, -⟩ := s.pass_cases milliseconds
    · have later : ({ s with clock := s.clock + milliseconds } : Seat).watcher.hasEnded := h
      rw [move, still _ later]
      exact h
    · rw [rest]
      exact h
  | move =>
    rw [step, still s h]
    exact h

lemma ended_play (h : s.watcher.hasEnded) (schedule : List Moment) :
    (s.play schedule).watcher.hasEnded := by
  induction schedule generalizing s with
  | nil => exact h
  | cons x schedule ih => exact ih (ended_step h x)

end Feed.Seat

namespace Service

variable {s : Service} {key k : Nat} {w : Watcher} {m : Mailbox}

lemma settle_of_ended (ended : w.hasEnded) (now : Nat) (messages : List String) :
    w.settle now messages = (w, messages) := by
  cases hp : w.phase with
  | ended =>
    have not_waiting : ¬ w.isWaiting := by simp [Watcher.isWaiting, hp]
    simp only [Watcher.settle, hp]
    exact Seat.drain_of_not_waiting not_waiting now messages
  | accepting | waiting | sending | closing =>
    rw [Watcher.hasEnded, hp] at ended
    cases ended

lemma Holds.settleOne_self (h : s.Holds key w m) : (s.settleOne key).Holds key
    (w.settle s.clock m.messages).1 { m with messages := (w.settle s.clock m.messages).2 } := by
  cases live : w.hasEnded with
  | true =>
    have same : s.settleOne key = s := by
      simp only [Service.settleOne, h.watcher, h.mailbox, live, if_true]
    rw [same, settle_of_ended live]
    exact h
  | false =>
    rw [settleOne_eq h live]
    constructor
    · rw [afterRun_watcher h, if_pos rfl]
    · rw [afterRun_mailbox h, if_pos rfl]

lemma settleOne_clock (s : Service) (key : Nat) : (s.settleOne key).clock = s.clock := by
  obtain same | ⟨w, m, -, -, next⟩ := settleOne_cases s key
  · rw [same]
  · rw [next]
    rfl

lemma foldl_settleOne_clock (s : Service) (keys : List Nat) :
    (keys.foldl Service.settleOne s).clock = s.clock := by
  induction keys generalizing s with
  | nil => rfl
  | cons key keys ih => exact (ih _).trans (s.settleOne_clock key)

lemma foldl_apply_clock (s : Service) (effects : List Terminal.Effect) :
    (effects.foldl apply s).clock = s.clock := by
  induction effects generalizing s with
  | nil => rfl
  | cons e r ih => exact (ih (s.apply e)).trans (by cases e <;> rfl)

lemma Holds.settled (h : s.Holds key w m) : s.settle.Holds key
    (w.settle s.clock m.messages).1 { m with messages := (w.settle s.clock m.messages).2 } := by
  have inside : key ∈ List.range s.watchers.length :=
    List.mem_range.2 (List.getElem?_eq_some_iff.1 h.watcher).1
  -- the others run before and after, each at its own mailbox
  obtain ⟨before, after, split, hb⟩ := List.eq_append_cons_of_mem inside
  have distinct : (before ++ key :: after).Nodup := split ▸ List.nodup_range
  have ha : key ∉ after := (List.nodup_cons.1 (List.nodup_append.1 distinct).2.1).1
  have ran := (h.foldl_settleOne hb).settleOne_self
  rw [foldl_settleOne_clock] at ran
  rw [Service.settle, split, List.foldl_append, List.foldl_cons]
  exact ran.foldl_settleOne ha

end Service

/-- The moments of a change, unless sends time out. -/
def Change.moments : Change → List Feed.Moment
  | stall => [.stall]
  | resume => [.resume]
  | fail .disconnect => [.drop .disconnect]
  | fail .broken => [.drop .broken]
  | fail .timeout => []

namespace Loop

open Seat

variable {l : Loop} {key : Nat} {w : Watcher} {m : Mailbox} {t : Turn} {turns : List Turn}

def moments (l : Loop) (key : Nat) : Turn → List Feed.Moment
  | .join _ => []
  | .change k c => if k = key then c.moments else []
  | .run k => if k = key then runs (((l.service.hub.mailbox? key).elim 0 Mailbox.size) + 2) else []
  | .advance milliseconds =>
    .pass milliseconds :: runs (((l.service.hub.mailbox? key).elim 0 Mailbox.size) + 2)
  | t => if key ∈ l.service.running then (l.heard t).map .put else []

def momentsIn (key : Nat) : Loop → List Turn → List Feed.Moment
  | _, [] => []
  | l, t :: r => l.moments key t ++ momentsIn key (l.take t) r

def Timely (key : Nat) (turns : List Turn) : Prop :=
  ∀ t ∈ turns, t ≠ .change key (.fail .timeout)

lemma moments_of_broadcasts (l : Loop) (key : Nat) (ht : t.Broadcasts) :
    l.moments key t = if key ∈ l.service.running then (l.heard t).map .put else [] := by
  cases t with
  | connect | receive | publish => rfl
  | join | change | run | advance => cases ht

lemma take_clock (ht : t.Broadcasts) : (l.take t).service.clock = l.service.clock := by
  cases t with
  | connect channel limit => exact Service.foldl_apply_clock _ _
  | receive index input =>
    simp only [take, receive]
    split
    · rfl
    · exact Service.foldl_apply_clock _ _
  | publish message => rfl
  | join | change | run | advance => cases ht

lemma play_moments_of_broadcasts (tended : l.service.Tended) (ht : t.Broadcasts)
    (h : l.service.Holds key w m) : ∃ w' m', (l.take t).service.Holds key w' m' ∧
      Seat.play ⟨l.service.clock, w, m⟩ (l.moments key t) =
        ⟨(l.take t).service.clock, w', m'⟩ := by
  have mailbox := mailbox_of_broadcasts tended ht key
  have watcher : (l.take t).service.watchers[key]? = some w := by
    rw [(l.take_broadcasts ht).1]
    exact h.watcher
  rw [moments_of_broadcasts l key ht, take_clock ht]
  rw [h.mailbox] at mailbox
  split_ifs at mailbox ⊢
  · exact ⟨w, _, ⟨watcher, mailbox⟩, play_puts _ _⟩
  · exact ⟨w, m, ⟨watcher, mailbox⟩, rfl⟩

lemma play_moments (tended : l.service.Tended) (h : l.service.Holds key w m)
    (timely : t ≠ .change key (.fail .timeout)) :
    ∃ w' m', (l.take t).service.Holds key w' m' ∧
      Seat.play ⟨l.service.clock, w, m⟩ (l.moments key t) =
        ⟨(l.take t).service.clock, w', m'⟩ := by
  have enough : m.messages.length + 1 <
      ((l.service.hub.mailbox? key).elim 0 Mailbox.size) + 2 := by
    rw [h.mailbox]
    exact Nat.lt_succ_self _
  cases t with
  | connect | receive | publish => exact play_moments_of_broadcasts tended trivial h
  | join acceptFails => exact ⟨w, m, h.join acceptFails, rfl⟩
  | change k c =>
    by_cases here : k = key
    · subst here
      have changed : (l.take (.change k c)).service.watchers[k]? = some (c.apply w) :=
        (Service.change_watcher _ _ _ _).trans (by rw [h.watcher, Option.map_some, if_pos rfl])
      refine ⟨c.apply w, m, ⟨changed, h.mailbox⟩, ?_⟩
      rw [moments, if_pos rfl]
      cases c with
      | stall | resume => rfl
      | fail fault =>
        cases fault with
        | disconnect | broken => rfl
        | timeout => exact absurd rfl timely
    · rw [moments, if_neg here]
      exact ⟨w, m, h.change here c, rfl⟩
  | run k =>
    rw [moments, take, Service.settleOne_clock]
    by_cases here : k = key
    · subst here
      rw [if_pos rfl]
      exact ⟨_, _, h.settleOne_self, play_settled enough⟩
    · rw [if_neg here]
      exact ⟨w, m, h.settleOne (Ne.symm here), rfl⟩
  | advance milliseconds =>
    have later : ({ l.service with clock := l.service.clock + milliseconds } : Service).Holds
        key w m := ⟨h.watcher, h.mailbox⟩
    have clock : (l.take (.advance milliseconds)).service.clock = l.service.clock + milliseconds :=
      Service.foldl_settleOne_clock _ _
    rw [moments, clock]
    exact ⟨_, _, later.settled, play_later _ milliseconds enough⟩

lemma play_momentsIn (tended : l.service.Tended) (h : l.service.Holds key w m)
    (timely : Timely key turns) : ∃ w' m', (l.play turns).service.Holds key w' m' ∧
      Seat.play ⟨l.service.clock, w, m⟩ (l.momentsIn key turns) =
        ⟨(l.play turns).service.clock, w', m'⟩ := by
  induction turns generalizing l w m with
  | nil => exact ⟨w, m, h, rfl⟩
  | cons t turns ih =>
    obtain ⟨at_once, after⟩ := List.forall_mem_cons.1 timely
    obtain ⟨w₁, m₁, next, first⟩ := play_moments tended h at_once
    obtain ⟨w₂, m₂, last, more⟩ := ih (take_tended tended t) next after
    refine ⟨w₂, m₂, last, ?_⟩
    rw [momentsIn, play_append, first, more]
    rfl

/-! Messages. -/

lemma puts_moments (l : Loop) (key : Nat) (t : Turn) :
    puts (l.moments key t) = if key ∈ l.service.running then l.heard t else [] := by
  by_cases broadcasts : t.Broadcasts
  · rw [moments_of_broadcasts l key broadcasts]
    split_ifs
    · exact puts_map_put _
    · rfl
  · -- in the other turns nothing is broadcast or put
    have silent : l.heard t = [] ∧ puts (l.moments key t) = [] := by
      cases t with
      | connect | receive | publish => exact absurd trivial broadcasts
      | join => exact ⟨rfl, rfl⟩
      | change k c =>
        refine ⟨rfl, ?_⟩
        rw [moments]
        split_ifs
        · cases c with
          | stall | resume => rfl
          | fail fault => cases fault <;> rfl
        · rfl
      | run k =>
        refine ⟨rfl, ?_⟩
        rw [moments]
        split_ifs
        · exact puts_runs _
        · rfl
      | advance milliseconds => exact ⟨rfl, puts_runs _⟩
    rw [silent.1, silent.2, ite_self]

lemma not_running (h : l.service.Holds key w m) (ended : w.hasEnded) :
    key ∉ l.service.running := by
  rw [Service.mem_running, Service.isRunning_iff]
  rintro ⟨x, hx, live⟩
  obtain rfl := Option.some.inj (h.watcher.symm.trans hx)
  rw [ended] at live
  cases live

lemma running (h : l.service.Holds key w m) (live : w.hasEnded = false) :
    key ∈ l.service.running :=
  Service.mem_running.2 (Service.isRunning_iff.2 ⟨w, h.watcher, live⟩)

lemma puts_momentsIn (tended : l.service.Tended) (h : l.service.Holds key w m)
    (timely : Timely key turns) :
    (w.hasEnded → puts (l.momentsIn key turns) = []) ∧
    puts (l.momentsIn key turns) <+: l.heardIn turns ∧
    ∀ x n, (l.play turns).service.Holds key x n → x.hasEnded = false →
      puts (l.momentsIn key turns) = l.heardIn turns := by
  induction turns generalizing l w m with
  | nil => exact ⟨fun _ => rfl, List.prefix_rfl, fun _ _ _ _ => rfl⟩
  | cons t turns ih =>
    obtain ⟨at_once, after⟩ := List.forall_mem_cons.1 timely
    obtain ⟨w₁, m₁, next, first⟩ := play_moments tended h at_once
    obtain ⟨ended, front, whole⟩ := ih (take_tended tended t) next after
    have kept (ended : w.hasEnded) : w₁.hasEnded := by
      have played : Seat.watcher _ = w₁ := congrArg Seat.watcher first
      rw [← played]
      exact ended_play ended _
    rw [momentsIn, puts_append, puts_moments, heardIn]
    cases live : w.hasEnded with
    | true =>
      rw [if_neg (not_running h live), ended (kept live)]
      refine ⟨fun _ => rfl, List.nil_prefix, ?_⟩
      intro x n last alive
      obtain ⟨w₂, m₂, there, more⟩ := play_momentsIn (take_tended tended t) next after
      obtain rfl := Option.some.inj (last.watcher.symm.trans there.watcher)
      have played : Seat.watcher _ = x := congrArg Seat.watcher more
      have ended : x.hasEnded := played ▸ ended_play (kept live) _
      rw [ended] at alive
      cases alive
    | false =>
      rw [if_pos (running h live)]
      refine ⟨fun dead => absurd dead Bool.false_ne_true,
        (List.prefix_append_right_inj _).2 front, ?_⟩
      intro x n last alive
      rw [whole x n last alive]

/-- A watcher that joins is, after any turns in which its sends do not time out, where their moments
bring the seat that it takes. Into that seat's mailbox come the messages that are broadcast, up to
the end of the watcher. -/
theorem joined_plays (tended : l.service.Tended) (timely : Timely l.service.watchers.length turns) :
    let key := l.service.watchers.length
    let first := l.take (.join false)
    let last := first.play turns
    let schedule := first.momentsIn key turns
    puts schedule <+: first.heardIn turns ∧
    ∃ w m, last.service.Holds key w m ∧
      (Seat.opened l.service.clock Watcher.capacity).play schedule =
        ⟨last.service.clock, w, m⟩ ∧
      (w.hasEnded = false → puts schedule = first.heardIn turns) := by
  intro key first last schedule
  have beyond := List.getElem?_eq_none (Nat.le_refl l.service.watchers.length)
  have seated : first.service.Holds key (.start l.service.clock false)
      (.empty Watcher.capacity) := by
    constructor
    · exact (Service.join_watcher _ _ _).trans (if_pos rfl)
    · refine (Service.join_mailbox _ _ _).trans ?_
      rw [(tended.sound.fresh _ beyond).1, if_pos rfl]
      rfl
  have joined : first.service.Tended := take_tended tended (.join false)
  obtain ⟨w, m, there, played⟩ := play_momentsIn joined seated timely
  obtain ⟨-, front, whole⟩ := puts_momentsIn joined seated timely
  exact ⟨front, w, m, there, played, whole w m there⟩

end Loop

end Telematics
