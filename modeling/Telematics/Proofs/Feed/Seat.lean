import Telematics.Proofs.Feed.History
import Telematics.Proofs.Feed.Journal

/-! One watcher under the clock, with its mailbox. -/

namespace Telematics.Feed

structure Seat where
  clock : Nat
  watcher : Watcher
  mailbox : Mailbox

/-- What happens next: a message comes, the connection changes, time passes, or the watcher goes on
for one move. -/
inductive Moment where
  | put (text : String)
  | stall
  | resume
  | drop (d : Drop)
  | pass (milliseconds : Nat)
  | move

namespace Watcher

def reply (w : Watcher) (m : String) : List Deed :=
  if w.stalled then [] else
    match w.fault with
    | none => [.deliver m]
    | some .disconnect => [.fail m .disconnect]
    | some .broken => [.fail m .broken]
    | some .timeout => []

end Watcher

namespace Seat

def opened (now : Nat) (capacity : Int) : Seat :=
  ⟨now, .start now false, .empty capacity⟩

def move (s : Seat) : Seat × List Deed :=
  match s.watcher.phase with
  | .sending m => ({ s with watcher := s.watcher.send s.clock m }, s.watcher.reply m)
  | .waiting _ =>
    match s.mailbox.take? with
    | some (m, rest) =>
      ({ s with watcher := s.watcher.send s.clock m, mailbox := rest },
        .take m :: s.watcher.reply m)
    | none =>
      let w := s.watcher.expire s.clock
      ({ s with watcher := w }, w.closeCode?.toList.map .close)
  | _ => (s, [])

/-- Time passes; a wait without a message that is over then ends in the same moment. -/
def pass (s : Seat) (milliseconds : Nat) : Seat × List Deed :=
  let later := { s with clock := s.clock + milliseconds }
  if later.watcher.isWaiting && later.mailbox.messages.isEmpty then later.move else (later, [])

def step (s : Seat) : Moment → Seat × List Deed
  | .put text => ({ s with mailbox := s.mailbox.put text }, [])
  | .stall => ({ s with watcher.stalled := true }, [])
  | .resume => ({ s with watcher.stalled := false }, [])
  | .drop d => ({ s with watcher.fault := some d.fault }, [])
  | .pass milliseconds => s.pass milliseconds
  | .move => s.move

def passed (s : Seat) : Moment → List Passage
  | .put text => s.mailbox.passing text
  | x => ((s.step x).2.filterMap Deed.taken?).map .taken

def recorded (s : Seat) (x : Moment) : Journal :=
  (s.step x).2.map ((s.step x).1.clock, ·)

def play (s : Seat) (schedule : List Moment) : Seat :=
  schedule.foldl (fun s x => (s.step x).1) s

def journal : Seat → List Moment → Journal
  | _, [] => []
  | s, x :: r => s.recorded x ++ journal (s.step x).1 r

def passages : Seat → List Moment → List Passage
  | _, [] => []
  | s, x :: r => s.passed x ++ passages (s.step x).1 r

variable {s : Seat} {start now since : Nat} {j : Journal} {m : String} {w : Watcher}

lemma send_cases (w : Watcher) (now : Nat) (m : String) :
    (w.send now m = { w with phase := .sending m } ∧ w.reply m = []) ∨
    (w.send now m = { w with phase := .waiting now, sent := w.sent ++ [m] } ∧
      w.reply m = [.deliver m]) ∨
    (∃ drop : Drop, w.send now m = { w with phase := .ended drop.ending } ∧
      w.reply m = [.fail m drop]) ∨
    w.fault = some .timeout ∧ w.send now m = { w with phase := .closing } ∧ w.reply m = [] := by
  rw [Watcher.send, Watcher.reply]
  cases w.stalled with
  | true => exact .inl ⟨rfl, rfl⟩
  | false =>
    cases failing : w.fault with
    | none => exact .inr (.inl ⟨rfl, rfl⟩)
    | some how =>
      cases how with
      | disconnect => exact .inr (.inr (.inl ⟨.disconnect, rfl, rfl⟩))
      | broken => exact .inr (.inr (.inl ⟨.broken, rfl, rfl⟩))
      | timeout => exact .inr (.inr (.inr ⟨rfl, rfl, rfl⟩))

lemma send_fault (w : Watcher) (now : Nat) (m : String) : (w.send now m).fault = w.fault := by
  obtain ⟨send, -⟩ | ⟨send, -⟩ | ⟨drop, send, -⟩ | ⟨-, send, -⟩ := send_cases w now m
  all_goals rw [send]

inductive Moves (s : Seat) : Seat → List Deed → Prop
  | rest (patient : ∀ since, s.watcher.phase = .waiting since →
      s.mailbox.messages = [] ∧ s.clock < since + Watcher.idleTime) : Moves s s []
  | send {m : String} (hp : s.watcher.phase = .sending m) :
      Moves s { s with watcher := s.watcher.send s.clock m } (s.watcher.reply m)
  | take {since : Nat} {m : String} {rest : List String} (hp : s.watcher.phase = .waiting since)
      (hm : s.mailbox.messages = m :: rest) :
      Moves s { s with
        watcher := s.watcher.send s.clock m
        mailbox := { s.mailbox with messages := rest } } (.take m :: s.watcher.reply m)
  | close {since : Nat} (hp : s.watcher.phase = .waiting since) (hm : s.mailbox.messages = [])
      (late : since + Watcher.idleTime ≤ s.clock) :
      Moves s { s with watcher := { s.watcher with phase := .ended .idle } }
        [.close Watcher.idleCode]

lemma moves (s : Seat) : s.Moves s.move.1 s.move.2 := by
  obtain ⟨clock, w, ⟨capacity, messages⟩⟩ := s
  cases hp : w.phase with
  | sending m =>
    simp only [move, hp]
    exact .send hp
  | waiting since =>
    cases messages with
    | cons m rest =>
      simp only [move, hp, Mailbox.take?]
      exact .take hp rfl
    | nil =>
      simp only [move, hp, Mailbox.take?, Watcher.expire]
      split_ifs with late
      · exact .close hp rfl late
      · -- the wait goes on, and there is less than the idle time behind it
        simp only [Watcher.closeCode?, hp]
        refine .rest fun begun hb => ⟨rfl, ?_⟩
        rw [hp] at hb
        cases hb
        exact Nat.lt_of_not_le late
  | accepting | closing | ended =>
    simp only [move, hp]
    refine .rest fun begun hb => ?_
    rw [hp] at hb
    cases hb

lemma pass_cases (s : Seat) (milliseconds : Nat) :
    let later := { s with clock := s.clock + milliseconds }
    (s.pass milliseconds = later.move ∧ ∃ since, s.watcher.phase = .waiting since ∧
      s.mailbox.messages = []) ∨
    (s.pass milliseconds = (later, []) ∧ ∀ since, s.watcher.phase = .waiting since →
      s.mailbox.messages ≠ []) := by
  intro later
  cases hp : s.watcher.phase with
  | waiting since =>
    by_cases hm : s.mailbox.messages = []
    · exact .inl ⟨by simp [pass, later, Watcher.isWaiting, hp, hm], since, rfl, hm⟩
    · exact .inr ⟨by simp [pass, later, hm], fun _ _ => hm⟩
  | accepting | sending | closing | ended =>
    exact .inr ⟨by simp [pass, later, Watcher.isWaiting, hp], fun _ h => Phase.noConfusion h⟩

lemma reply_untaken (w : Watcher) (m : String) : (w.reply m).filterMap Deed.taken? = [] := by
  obtain ⟨-, reply⟩ | ⟨-, reply⟩ | ⟨drop, -, reply⟩ | ⟨-, -, reply⟩ := send_cases w 0 m
  all_goals
    rw [reply]
    rfl

lemma close_not_mem_reply (w : Watcher) (m : String) (code : Nat) : .close code ∉ w.reply m := by
  obtain ⟨-, reply⟩ | ⟨-, reply⟩ | ⟨drop, -, reply⟩ | ⟨-, -, reply⟩ := send_cases w 0 m
  all_goals simp [reply]

lemma conducted_send (h : Conducted start j (.sending m)) (timely : w.fault ≠ some .timeout)
    (now : Nat) : Conducted start (j ++ (w.reply m).map (now, ·)) (w.send now m).phase := by
  obtain ⟨send, reply⟩ | ⟨send, reply⟩ | ⟨drop, send, reply⟩ | ⟨late, -⟩ := send_cases w now m
  · rw [send, reply, List.map_nil, List.append_nil]
    exact h
  · rw [send, reply]
    exact h.step (.deliver m)
  · rw [send, reply]
    exact h.step (.fail m drop)
  · exact absurd late timely

lemma sent_send (w : Watcher) (now : Nat) (m : String) : (w.send now m).sent =
    w.sent ++ (Journal.deliveries ((w.reply m).map (now, ·))).map Prod.snd := by
  obtain ⟨send, reply⟩ | ⟨send, reply⟩ | ⟨drop, send, reply⟩ | ⟨-, send, reply⟩ :=
    send_cases w now m
  · rw [send, reply]
    exact (List.append_nil _).symm
  · rw [send, reply]
    rfl
  · rw [send, reply]
    exact (List.append_nil _).symm
  · rw [send, reply]
    exact (List.append_nil _).symm

lemma patient_send (h : (w.send now m).phase = .waiting since) :
    now < since + Watcher.idleTime := by
  have positive : 0 < Watcher.idleTime := by decide
  obtain ⟨send, -⟩ | ⟨send, -⟩ | ⟨drop, send, -⟩ | ⟨-, send, -⟩ := send_cases w now m
  · rw [send] at h
    cases h
  · rw [send] at h
    cases h
    omega
  · rw [send] at h
    cases h
  · rw [send] at h
    cases h

def Patient (s : Seat) : Prop :=
  ∀ since, s.watcher.phase = .waiting since → s.mailbox.messages = [] →
    s.clock < since + Watcher.idleTime

namespace Moves

variable {t : Seat} {deeds : List Deed}

lemma clock (h : s.Moves t deeds) : t.clock = s.clock := by
  cases h with
  | rest | send | take | close => rfl

lemma capacity (h : s.Moves t deeds) : t.mailbox.capacity = s.mailbox.capacity := by
  cases h with
  | rest | send | take | close => rfl

lemma fault (h : s.Moves t deeds) : t.watcher.fault = s.watcher.fault := by
  cases h with
  | rest | close => rfl
  | send | take => exact send_fault ..

lemma conducted (h : s.Moves t deeds) (before : Conducted start j s.watcher.phase)
    (timely : s.watcher.fault ≠ some .timeout) :
    Conducted start (j ++ deeds.map (s.clock, ·)) t.watcher.phase := by
  cases h with
  | rest =>
    rw [List.map_nil, List.append_nil]
    exact before
  | send hp =>
    rw [hp] at before
    exact conducted_send before timely s.clock
  | @take since m rest hp hm =>
    rw [hp] at before
    have begin_send : Step s.clock (.waiting since) (.take m) (.sending m) := .take m
    have taken := before.step begin_send
    rw [List.map_cons, List.append_cons]
    exact conducted_send taken timely s.clock
  | close hp hm late =>
    rw [hp] at before
    exact before.step (.close late)

lemma sent (h : s.Moves t deeds) : t.watcher.sent =
    s.watcher.sent ++ (Journal.deliveries (deeds.map (s.clock, ·))).map Prod.snd := by
  cases h with
  | rest | close => exact (List.append_nil _).symm
  | send | take => exact sent_send ..

lemma patient (h : s.Moves t deeds) : t.Patient := by
  intro since hs empty
  cases h with
  | rest patient => exact (patient since hs).2
  | send | take => exact patient_send hs
  | close => cases hs

lemma passes (h : s.Moves t deeds) : Passes s.mailbox.capacity s.mailbox.messages
    ((deeds.filterMap Deed.taken?).map .taken) t.mailbox.messages := by
  cases h with
  | rest | close => exact .rest
  | send hp =>
    rw [reply_untaken]
    exact .rest
  | @take _ m rest hp hm =>
    have one : (Deed.take m :: s.watcher.reply m).filterMap Deed.taken? = [m] := by
      simp only [List.filterMap_cons, Deed.taken?, reply_untaken]
    rw [one, hm]
    exact .take .rest

lemma closes_iff (h : s.Moves t deeds) : (∃ code, Deed.close code ∈ deeds) ↔
    ∃ since, s.watcher.phase = .waiting since ∧ s.mailbox.messages = [] ∧
      since + Watcher.idleTime ≤ s.clock := by
  cases h with
  | rest patient =>
    refine iff_of_false (fun ⟨_, hc⟩ => List.not_mem_nil hc) ?_
    rintro ⟨since, hp, -, late⟩
    have early := (patient since hp).2
    omega
  | send hp =>
    refine iff_of_false (fun ⟨_, hc⟩ => close_not_mem_reply _ _ _ hc) ?_
    rintro ⟨since, waiting, -⟩
    rw [hp] at waiting
    cases waiting
  | take hp hm =>
    refine iff_of_false (fun ⟨code, hc⟩ => ?_) ?_
    · obtain hc | hc := List.mem_cons.1 hc
      · cases hc
      · exact close_not_mem_reply _ _ _ hc
    · rintro ⟨since, -, empty, -⟩
      rw [hm] at empty
      cases empty
  | close hp hm late =>
    exact iff_of_true ⟨_, List.mem_singleton_self _⟩ ⟨_, hp, hm, late⟩

end Moves

structure Orderly (start : Nat) (capacity : Int) (s : Seat) (j : Journal) (ps : List Passage) :
    Prop where
  conducted : Conducted start j s.watcher.phase
  timely : s.watcher.fault ≠ some .timeout
  sent : s.watcher.sent = (Journal.deliveries j).map Prod.snd
  room : s.mailbox.capacity = capacity
  passes : Passes capacity [] ps s.mailbox.messages
  taken : takings ps = j.takes

namespace Orderly

variable {capacity : Int} {ps : List Passage} {t : Seat} {deeds : List Deed}

lemma fits (h : Orderly start capacity s j ps) : s.mailbox.Fits := by
  intro positive
  rw [h.room] at positive ⊢
  exact h.passes.bounded positive (Int.le_of_lt positive)

lemma moved (h : Orderly start capacity s j ps) (moves : s.Moves t deeds) :
    Orderly start capacity t (j ++ deeds.map (t.clock, ·))
      (ps ++ (deeds.filterMap Deed.taken?).map .taken) where
  conducted := by
    rw [moves.clock]
    exact moves.conducted h.conducted h.timely
  timely := by
    rw [moves.fault]
    exact h.timely
  sent := by
    rw [moves.clock, Journal.deliveries_append, List.map_append, moves.sent, h.sent]
  room := moves.capacity.trans h.room
  passes := by
    have through := moves.passes
    rw [h.room] at through
    exact h.passes.append through
  taken := by
    have same : Journal.takes (deeds.map (t.clock, ·)) = deeds.filterMap Deed.taken? :=
      List.filterMap_map
    rw [takings_append, Journal.takes_append, h.taken, takings_taken, same]

lemma put (h : Orderly start capacity s j ps) (text : String) :
    Orderly start capacity { s with mailbox := s.mailbox.put text } j
      (ps ++ s.mailbox.passing text) where
  conducted := h.conducted
  timely := h.timely
  sent := h.sent
  room := h.room
  passes := by
    have through := h.fits.passes_passing text
    rw [h.room] at through
    exact h.passes.append through
  taken := by
    rw [takings_append, (s.mailbox.passing_eq text).2, List.append_nil, h.taken]

lemma later (h : Orderly start capacity s j ps) (clock : Nat) :
    Orderly start capacity { s with clock } j ps :=
  ⟨h.conducted, h.timely, h.sent, h.room, h.passes, h.taken⟩

lemma with_fault (h : Orderly start capacity s j ps) {fault : Option Fault}
    (timely : fault ≠ some .timeout) (stalled : Bool) :
    Orderly start capacity { s with watcher := { s.watcher with stalled, fault } } j ps :=
  ⟨h.conducted, timely, h.sent, h.room, h.passes, h.taken⟩

lemma step (h : Orderly start capacity s j ps) (x : Moment) :
    Orderly start capacity (s.step x).1 (j ++ s.recorded x) (ps ++ s.passed x) := by
  cases x with
  | put text =>
    simp only [Seat.recorded, Seat.step, List.map_nil, List.append_nil]
    exact h.put text
  | stall =>
    simp only [Seat.recorded, Seat.passed, Seat.step, List.map_nil, List.filterMap_nil,
      List.append_nil]
    exact h.with_fault h.timely true
  | resume =>
    simp only [Seat.recorded, Seat.passed, Seat.step, List.map_nil, List.filterMap_nil,
      List.append_nil]
    exact h.with_fault h.timely false
  | drop d =>
    have timely : some d.fault ≠ some Fault.timeout := by cases d <;> nofun
    simp only [Seat.recorded, Seat.passed, Seat.step, List.map_nil, List.filterMap_nil,
      List.append_nil]
    exact h.with_fault timely s.watcher.stalled
  | pass milliseconds =>
    have later := h.later (s.clock + milliseconds)
    simp only [Seat.recorded, Seat.passed, Seat.step]
    obtain ⟨move, -⟩ | ⟨rest, -⟩ := s.pass_cases milliseconds
    · rw [move]
      exact later.moved (moves _)
    · rw [rest]
      simp only [List.map_nil, List.filterMap_nil, List.append_nil]
      exact later
  | move => exact h.moved s.moves

lemma play (h : Orderly start capacity s j ps) (schedule : List Moment) :
    Orderly start capacity (s.play schedule) (j ++ s.journal schedule)
      (ps ++ s.passages schedule) := by
  -- the journal and the passages of the past are general, as every moment adds to them
  induction schedule generalizing s j ps with
  | nil =>
    rw [Seat.journal, Seat.passages, List.append_nil, List.append_nil]
    exact h
  | cons x schedule ih =>
    rw [Seat.journal, Seat.passages, ← List.append_assoc, ← List.append_assoc]
    exact ih (h.step x)

end Orderly

lemma patient_step (h : s.Patient) (x : Moment) : (s.step x).1.Patient := by
  cases x with
  | put text =>
    -- behind a message that has come, there is one to take
    intro since _ empty
    exact absurd empty (by simp [Seat.step, Mailbox.put])
  | stall | resume | drop => exact h
  | pass milliseconds =>
    simp only [Seat.step]
    obtain ⟨move, -⟩ | ⟨rest, message⟩ := s.pass_cases milliseconds
    · rw [move]
      exact (moves _).patient
    · rw [rest]
      exact fun since hp empty => absurd empty (message since hp)
  | move => exact s.moves.patient

lemma patient_play (h : s.Patient) (schedule : List Moment) : (s.play schedule).Patient := by
  induction schedule generalizing s with
  | nil => exact h
  | cons x schedule ih => exact ih (patient_step h x)

lemma step_closes_iff (h : s.Patient) (x : Moment) : (∃ code, Deed.close code ∈ (s.step x).2) ↔
    ∃ milliseconds since, x = .pass milliseconds ∧ s.watcher.phase = .waiting since ∧
      s.mailbox.messages = [] ∧ since + Watcher.idleTime ≤ s.clock + milliseconds := by
  cases x with
  | put | stall | resume | drop => simp [Seat.step]
  | pass milliseconds =>
    simp only [Seat.step, Moment.pass.injEq, exists_and_left, exists_eq_left']
    obtain ⟨move, -⟩ | ⟨rest, message⟩ := s.pass_cases milliseconds
    · rw [move]
      exact (moves _).closes_iff
    · rw [rest]
      refine iff_of_false (fun ⟨_, hc⟩ => List.not_mem_nil hc) ?_
      rintro ⟨since, hp, empty, -⟩
      exact message since hp empty
  | move =>
    -- a wait that lasts too long has ended before, with the time that passed
    refine iff_of_false ?_ (by simp)
    rw [Seat.step, s.moves.closes_iff]
    rintro ⟨since, hp, empty, late⟩
    have early := h since hp empty
    omega

def puts (schedule : List Moment) : List String :=
  schedule.filterMap fun | .put text => some text | _ => none

lemma entries_taken (texts : List String) : entries (texts.map .taken) = [] := by
  induction texts with
  | nil => rfl
  | cons text texts ih => exact ih

lemma entries_passages (s : Seat) (schedule : List Moment) :
    entries (s.passages schedule) = puts schedule := by
  induction schedule generalizing s with
  | nil => rfl
  | cons x schedule ih =>
    rw [passages, entries_append, ih]
    cases x with
    | put text =>
      rw [passed, (s.mailbox.passing_eq text).1]
      rfl
    | stall | resume | drop | pass | move =>
      rw [passed, entries_taken]
      · rfl
      · nofun

lemma orderly_opened (start : Nat) (capacity : Int) :
    Orderly start capacity (opened start capacity) [] [] :=
  ⟨.start, nofun, rfl, rfl, .rest, rfl⟩

lemma patient_opened (start : Nat) (capacity : Int) : (opened start capacity).Patient := by
  have positive : 0 < Watcher.idleTime := by decide
  intro since hp _
  cases hp
  exact Nat.lt_add_of_pos_right positive

lemma move_takes {rest : List String} (hp : s.watcher.phase = .waiting since)
    (hm : s.mailbox.messages = m :: rest) : s.move.2.head? = some (.take m) := by
  simp only [move, hp, Mailbox.take?, hm, List.head?_cons]

/-- A watcher that starts to wait takes its messages in the order of its mailbox and sends each of
them once; it waits anew for the whole idle time when a message is delivered. It closes at most
once, in the moment in which a wait without a message has lasted for the idle time, and it does
nothing any more when it has closed or a send has failed. -/
theorem conduct_under_clock (start : Nat) (capacity : Int) (schedule : List Moment) :
    let s := (opened start capacity).play schedule
    let j := (opened start capacity).journal schedule
    Conducted start j s.watcher.phase ∧
    Hub.Keeps capacity (puts schedule) j.takes ((opened start capacity).passages schedule)
      s.mailbox.messages ∧
    s.watcher.sent = j.deliveries.map Prod.snd ∧
    j.takes = s.watcher.sent ++ j.failures ++ s.watcher.phase.inHand ∧
    (∀ e ∈ j.dropLast, e.2.isFinal = false) ∧
    (∀ now m fault, (now, .fail m fault) ∈ j → s.watcher.phase = .ended fault.ending) ∧
    (∀ now code, (now, .close code) ∈ j →
      code = 1001 ∧ j.waitStart start + 5000 ≤ now ∧ s.watcher.phase = .ended .idle) ∧
    (∀ since, s.watcher.phase = .waiting since → since = j.waitStart start ∧
      (s.mailbox.messages = [] → s.clock < since + 5000) ∧
      ∀ m rest, s.mailbox.messages = m :: rest → s.move.2.head? = some (.take m)) ∧
    ∀ x, (∃ code, .close code ∈ (s.step x).2) ↔ ∃ milliseconds since, x = .pass milliseconds ∧
      s.watcher.phase = .waiting since ∧ s.mailbox.messages = [] ∧
      since + 5000 ≤ s.clock + milliseconds := by
  intro s j
  have orderly : Orderly start capacity s j _ := (orderly_opened start capacity).play schedule
  have patient : s.Patient := patient_play (patient_opened start capacity) schedule
  have conducted := orderly.conducted
  refine ⟨conducted, ?_, orderly.sent, ?_, conducted.final_last, ?_, ?_, ?_, ?_⟩
  · have keeps := Hub.keeps_of_passes orderly.passes
    rw [orderly.taken] at keeps
    rwa [List.nil_append, entries_passages] at keeps
  · rw [orderly.sent]
    exact conducted.takes_eq
  · intro now m fault failed
    exact conducted.over_of_fail failed
  · intro now code closed
    obtain ⟨rfl, finished, late⟩ := conducted.close_late closed
    exact ⟨rfl, late, finished⟩
  · intro since hp
    have begun : Conducted start j (.waiting since) := hp ▸ conducted
    exact ⟨begun.since_eq, patient since hp, fun m rest hm => move_takes hp hm⟩
  · exact step_closes_iff patient

end Seat

end Telematics.Feed
