import Mathlib.Data.List.Sort
import Telematics.Proofs.Service.Burst

/-! Subscriptions over a whole run, one thing at a time. -/

namespace Telematics

open Feed Terminal

/-- What can happen in a run, one thing at a time: also that time passes before any watcher runs,
that a call starts with its connection not yet accepted, and that a call goes on by a signal. -/
inductive Occurrence where
  | turn (t : Turn)
  | tick (milliseconds : Nat)
  | arrive
  | signal (key : Nat) (x : Signal)

namespace Occurrence

def starts : Occurrence → Bool
  | turn (.join _) | arrive => true
  | _ => false

end Occurrence

def Turn.Broadcasts : Turn → Prop
  | connect _ _ | receive _ _ | publish _ => True
  | _ => False

namespace Service

variable {s t : Service} {key k : Nat} {w : Watcher} {m : Mailbox} {ran : Watcher × List String}

def isRunning (s : Service) (key : Nat) : Bool :=
  (s.watchers[key]?).any fun w => !w.hasEnded

def running (s : Service) : List Nat :=
  (List.range s.watchers.length).filter s.isRunning

lemma isRunning_iff :
    s.isRunning key ↔ ∃ w, s.watchers[key]? = some w ∧ w.hasEnded = false := by
  simp only [isRunning, Option.any_eq_true, Bool.not_eq_eq_eq_not, Bool.not_true]

lemma mem_running : key ∈ s.running ↔ s.isRunning key := by
  rw [running, List.mem_filter, List.mem_range, and_iff_right_iff_imp, isRunning_iff]
  rintro ⟨w, hw, -⟩
  exact (List.getElem?_eq_some_iff.1 hw).1

lemma running_ascending (s : Service) : s.running.Pairwise (· < ·) :=
  List.pairwise_lt_range.filter _

structure Tended (s : Service) : Prop where
  sound : s.Sound
  ascending : s.hub.subscribers.Pairwise (· < ·)

lemma Sound.count_subscribers (h : s.Sound) (key : Nat) :
    s.hub.subscribers.count key = if s.isRunning key then 1 else 0 := by
  cases hw : s.watchers[key]? with
  | none =>
    rw [(h.fresh key hw).2, isRunning, hw]
    rfl
  | some w =>
    rw [h.subscribed key w hw, isRunning, hw, Option.any_some]
    cases w.hasEnded with
    | false | true => rfl

lemma Sound.mem_subscribers (h : s.Sound) : key ∈ s.hub.subscribers ↔ s.isRunning key := by
  rw [← List.count_pos_iff, h.count_subscribers]
  split_ifs with running
  · exact iff_of_true Nat.one_pos running
  · exact iff_of_false (Nat.lt_irrefl 0) running

lemma Tended.subscribers_eq (h : s.Tended) : s.hub.subscribers = s.running := by
  -- both lists ascend, so they need only have the same members
  apply h.ascending.eq_of_mem_iff s.running_ascending
  intro key
  rw [h.sound.mem_subscribers, mem_running]

/-! What each occurrence does. -/

lemma Sound.of_same (h : s.Sound) (hub : t.hub = s.hub)
    (ended : t.watchers.map Watcher.hasEnded = s.watchers.map Watcher.hasEnded) : t.Sound := by
  have same (key : Nat) : (t.watchers[key]?).map Watcher.hasEnded =
      (s.watchers[key]?).map Watcher.hasEnded := by
    rw [← List.getElem?_map, ended, List.getElem?_map]
  constructor
  · intro key w hw
    have there := same key
    rw [hw, Option.map_some, eq_comm, Option.map_eq_some_iff] at there
    obtain ⟨x, hx, -⟩ := there
    rw [hub]
    exact h.provided key x hx
  · intro key w hw
    have there := same key
    rw [hw, Option.map_some, eq_comm, Option.map_eq_some_iff] at there
    obtain ⟨x, hx, alike⟩ := there
    rw [hub, ← alike]
    exact h.subscribed key x hx
  · intro key hw
    have nowhere := same key
    rw [hw, Option.map_none, eq_comm, Option.map_eq_none_iff] at nowhere
    rw [hub]
    exact h.fresh key nowhere

lemma afterRun_subscribers (s : Service) (key : Nat) (m : Mailbox) (ran : Watcher × List String) :
    (s.afterRun key m ran).hub.subscribers.Sublist s.hub.subscribers := by
  simp only [afterRun]
  split_ifs
  · exact List.erase_sublist
  · exact List.Sublist.refl _

lemma Tended.afterRun (h : s.Tended) (holds : s.Holds key w m) (live : w.hasEnded = false)
    (ran : Watcher × List String) : (s.afterRun key m ran).Tended where
  sound := h.sound.afterRun holds live
  ascending := h.ascending.sublist (s.afterRun_subscribers key m ran)

lemma Tended.settleOne (h : s.Tended) (key : Nat) : (s.settleOne key).Tended := by
  obtain same | ⟨w, m, holds, live, next⟩ := settleOne_cases s key
  · rwa [same]
  · rw [next]
    exact h.afterRun holds live _

lemma Tended.settle (h : s.Tended) : s.settle.Tended := by
  rw [Service.settle]
  generalize List.range s.watchers.length = keys
  induction keys generalizing s with
  | nil => exact h
  | cons key keys ih => exact ih (h.settleOne key)

lemma setMailbox_self (h : Hub Nat) (hm : h.mailbox? key = some m) : h.setMailbox key m = h := by
  have kept (l : List (Nat × Mailbox)) (hl : l.lookup key = some m) :
      Hub.replace key m l = l := by
    induction l with
    | nil => rfl
    | cons x r ih =>
      obtain ⟨j, n⟩ := x
      rw [List.lookup_cons] at hl
      rw [Hub.replace]
      by_cases here : j = key
      · subst here
        rw [BEq.rfl] at hl ⊢
        obtain rfl := Option.some.inj hl
        rfl
      · rw [beq_false_of_ne (Ne.symm here)] at hl
        rw [beq_false_of_ne here, if_neg Bool.false_ne_true, ih hl]
  rw [Hub.setMailbox, kept h.mailboxes hm]

/-- A signal is a run in which the watcher takes no message. -/
lemma signal_eq (h : s.Holds key w m) (live : w.hasEnded = false) (x : Signal) :
    s.signal key x = s.afterRun key m (w.heed s.clock m.messages x, m.messages) := by
  simp only [signal, Service.afterRun, h.watcher, h.mailbox, live, Bool.false_eq_true, if_false,
    setMailbox_self s.hub h.mailbox]

lemma signal_cases (s : Service) (key : Nat) (x : Signal) : s.signal key x = s ∨
    ∃ w m, s.Holds key w m ∧ w.hasEnded = false ∧
      s.signal key x = s.afterRun key m (w.heed s.clock m.messages x, m.messages) := by
  cases hw : s.watchers[key]? with
  | none => exact .inl (by simp only [signal, hw])
  | some w =>
    cases hm : s.hub.mailbox? key with
    | none => exact .inl (by simp only [signal, hw, hm])
    | some m =>
      cases live : w.hasEnded with
      | true => exact .inl (by simp only [signal, hw, hm, live, if_true])
      | false => exact .inr ⟨w, m, ⟨hw, hm⟩, live, signal_eq ⟨hw, hm⟩ live x⟩

lemma Tended.signal (h : s.Tended) (key : Nat) (x : Signal) : (s.signal key x).Tended := by
  obtain same | ⟨w, m, holds, live, next⟩ := signal_cases s key x
  · rwa [same]
  · rw [next]
    exact h.afterRun holds live _

lemma heed_cancelled (w : Watcher) (now : Nat) (waiting : List String) :
    (w.heed now waiting .cancelled).hasEnded = true := by
  rw [Watcher.heed]
  split_ifs with ended
  · exact ended
  · rfl

lemma isRunning_cancelled (h : s.Sound) (key k : Nat) :
    (s.signal key .cancelled).isRunning k = (k != key && s.isRunning k) := by
  by_cases running : s.isRunning key
  · obtain ⟨w, hw, live⟩ := isRunning_iff.1 running
    obtain ⟨m, hm, -⟩ := h.provided key w hw
    have holds : s.Holds key w m := ⟨hw, hm⟩
    rw [signal_eq holds live, isRunning, afterRun_watcher holds]
    split_ifs with here
    · simp [here, heed_cancelled]
    · simp [here, isRunning]
  · -- a call that is over takes no signal
    have same : s.signal key .cancelled = s := by
      obtain same | ⟨w, m, holds, live, -⟩ := signal_cases s key .cancelled
      · exact same
      · exact absurd (isRunning_iff.2 ⟨w, holds.watcher, live⟩) running
    rw [same]
    by_cases here : k = key
    · simp [here, running]
    · simp [here]

theorem cancel_subscribers (h : s.Tended) : s.cancel.hub.subscribers = [] := by
  have cancelled (keys : List Nat) (s : Service) (h : s.Tended) :
      let t := keys.foldl (fun s key => s.signal key .cancelled) s
      t.Tended ∧ ∀ k, t.isRunning k → k ∉ keys ∧ s.isRunning k := by
    -- what still runs has not been cancelled, and has run before
    induction keys generalizing s with
    | nil => exact ⟨h, fun k running => ⟨List.not_mem_nil, running⟩⟩
    | cons key keys ih =>
      obtain ⟨tended, ended⟩ := ih (s.signal key .cancelled) (h.signal key .cancelled)
      refine ⟨tended, fun k running => ?_⟩
      obtain ⟨other, before⟩ := ended k running
      rw [isRunning_cancelled h.sound, Bool.and_eq_true, bne_iff_ne] at before
      exact ⟨fun here => (List.mem_cons.1 here).elim before.1 other, before.2⟩
  obtain ⟨tended, ended⟩ := cancelled (List.range s.watchers.length) s h
  apply List.eq_nil_iff_forall_not_mem.2
  intro key subscribed
  obtain ⟨beyond, running⟩ := ended key (tended.sound.mem_subscribers.1 subscribed)
  obtain ⟨inside, -⟩ := List.mem_filter.1 (mem_running.2 running)
  exact beyond inside

lemma ascending_subscribe (h : s.Tended) :
    (s.hub.subscribers ++ [s.watchers.length]).Pairwise (· < ·) := by
  rw [List.pairwise_append]
  refine ⟨h.ascending, List.pairwise_singleton _ _, ?_⟩
  intro key subscribed new hn
  rw [List.mem_singleton.1 hn]
  have running := mem_running.2 (h.sound.mem_subscribers.1 subscribed)
  exact List.mem_range.1 (List.mem_filter.1 running).1

lemma Tended.join (h : s.Tended) (acceptFails : Bool) : (s.join acceptFails).Tended where
  sound := h.sound.join acceptFails
  ascending := by
    cases acceptFails with
    | false => exact ascending_subscribe h
    | true => exact (ascending_subscribe h).sublist List.erase_sublist

lemma Tended.arrive (h : s.Tended) : s.arrive.Tended where
  sound := by
    -- an arrived watcher differs from one that has joined in its phase alone
    apply (h.sound.join false).of_same
    · rfl
    · simp only [Service.arrive, Service.join, List.map_append]
      rfl
  ascending := ascending_subscribe h

lemma settleOne_length (s : Service) (key : Nat) :
    (s.settleOne key).watchers.length = s.watchers.length := by
  obtain same | ⟨w, m, -, -, next⟩ := settleOne_cases s key
  · rw [same]
  · rw [next]
    exact List.length_set

lemma settle_length (s : Service) : s.settle.watchers.length = s.watchers.length := by
  rw [Service.settle]
  generalize List.range s.watchers.length = keys
  induction keys generalizing s with
  | nil => rfl
  | cons key keys ih =>
    rw [List.foldl_cons, ih, settleOne_length]

lemma signal_length (s : Service) (key : Nat) (x : Signal) :
    (s.signal key x).watchers.length = s.watchers.length := by
  obtain same | ⟨w, m, -, -, next⟩ := signal_cases s key x
  · rw [same]
  · rw [next]
    exact List.length_set

end Service

namespace Loop

variable {l : Loop} {key : Nat} {t : Turn}

def follow (l : Loop) : Occurrence → Loop
  | .turn t => l.take t
  | .tick milliseconds =>
    { l with service := { l.service with clock := l.service.clock + milliseconds } }
  | .arrive => { l with service := l.service.arrive }
  | .signal key x => { l with service := l.service.signal key x }

def course (l : Loop) (run : List Occurrence) : Loop :=
  run.foldl follow l

lemma take_tended (h : l.service.Tended) (t : Turn) : (l.take t).service.Tended := by
  have sound := take_sound h.sound t
  cases l.does t with
  | broadcast _ hh =>
    refine ⟨sound, ?_⟩
    rw [hh, Hub.broadcastAll_subscribers]
    exact h.ascending
  | join acceptFails => exact h.join acceptFails
  | change key c => exact ⟨sound, h.ascending⟩
  | run key => exact h.settleOne key
  | advance milliseconds =>
    have later : ({ l.service with clock := l.service.clock + milliseconds } : Service).Tended :=
      ⟨⟨h.sound.provided, h.sound.subscribed, h.sound.fresh⟩, h.ascending⟩
    exact later.settle

lemma follow_tended (h : l.service.Tended) (o : Occurrence) : (l.follow o).service.Tended := by
  cases o with
  | turn t => exact take_tended h t
  | tick _ => exact ⟨⟨h.sound.provided, h.sound.subscribed, h.sound.fresh⟩, h.ascending⟩
  | arrive => exact h.arrive
  | signal key x => exact h.signal key x

lemma course_tended (h : l.service.Tended) (run : List Occurrence) :
    (l.course run).service.Tended := by
  induction run generalizing l with
  | nil => exact h
  | cons o run ih => exact ih (follow_tended h o)

/-! Broadcasts. -/

lemma take_broadcasts (l : Loop) (ht : t.Broadcasts) :
    (l.take t).service.watchers = l.service.watchers ∧
      (l.take t).service.hub = l.service.hub.broadcastAll (l.heard t) := by
  cases l.does t with
  | broadcast hw hh => exact ⟨hw, hh⟩
  | join | change | run | advance => cases ht

lemma mailbox_of_broadcasts (h : l.service.Tended) (ht : t.Broadcasts) (key : Nat) :
    (l.take t).service.hub.mailbox? key =
      if key ∈ l.service.running then (l.service.hub.mailbox? key).map (·.putAll (l.heard t))
      else l.service.hub.mailbox? key := by
  have count := h.sound.count_subscribers key
  rw [(l.take_broadcasts ht).2]
  split_ifs with running
  · rw [if_pos (Service.mem_running.1 running)] at count
    exact Hub.mailbox?_broadcastAll_once count _
  · rw [if_neg (mt Service.mem_running.2 running)] at count
    have nothing : (l.heard t).flatMap (List.replicate 0) = [] :=
      List.flatMap_eq_nil_iff.2 fun _ _ => rfl
    rw [Hub.mailbox?_broadcastAll, count, nothing]
    exact Option.map_id'

/-! Calls that have started. -/

lemma take_length (l : Loop) (t : Turn) : (l.take t).service.watchers.length =
    l.service.watchers.length + if (Occurrence.turn t).starts then 1 else 0 := by
  cases t with
  | connect channel limit =>
    exact congrArg List.length (l.take_broadcasts (t := .connect channel limit) trivial).1
  | receive index input =>
    exact congrArg List.length (l.take_broadcasts (t := .receive index input) trivial).1
  | publish message =>
    exact congrArg List.length (l.take_broadcasts (t := .publish message) trivial).1
  | join acceptFails => exact List.length_append
  | change key c => exact List.length_modify ..
  | run key => exact l.service.settleOne_length key
  | advance milliseconds => exact Service.settle_length _

lemma follow_length (l : Loop) (o : Occurrence) : (l.follow o).service.watchers.length =
    l.service.watchers.length + if o.starts then 1 else 0 := by
  cases o with
  | turn t => exact l.take_length t
  | tick milliseconds => rfl
  | arrive => exact List.length_append
  | signal key x => exact l.service.signal_length key x

lemma course_length (l : Loop) (run : List Occurrence) : (l.course run).service.watchers.length =
    l.service.watchers.length + run.countP Occurrence.starts := by
  induction run generalizing l with
  | nil => rfl
  | cons o run ih =>
    have later := ih (l.follow o)
    rw [follow_length] at later
    rw [List.countP_cons, course, List.foldl_cons]
    rw [course] at later
    omega

/-- Whatever happens, the subscribers are the watchers whose call has started and not ended, each
once. So what is broadcast comes once to the mailbox of each running watcher and to no other, and
when all calls have ended the subscribers are those of the start. -/
theorem subscribed_while_running {env : Settings.Environment} {started : Service}
    (hs : Service.start env = .ok started) (run : List Occurrence) :
    let l := ({ service := started, links := [] } : Loop).course run
    let s := l.service
    s.hub.subscribers = s.running ∧ s.hub.subscribers.Nodup ∧
    s.watchers.length = run.countP Occurrence.starts ∧
    (∀ key, key ∈ s.hub.subscribers ↔ ∃ w, s.watchers[key]? = some w ∧ w.hasEnded = false) ∧
    (∀ key ∈ s.running, ∃ m, s.hub.mailbox? key = some m ∧ m.capacity = Watcher.capacity) ∧
    (∀ t : Turn, t.Broadcasts → ∀ key, (l.take t).service.hub.mailbox? key =
      if key ∈ s.running then (s.hub.mailbox? key).map (·.putAll (l.heard t))
      else s.hub.mailbox? key) ∧
    ((∀ w ∈ s.watchers, w.hasEnded) → s.hub.subscribers = started.hub.subscribers) := by
  intro l s
  obtain ⟨nobody, hub, -⟩ := Service.start_eq hs
  have first : started.Tended := ⟨Service.sound_of_start hs, by rw [hub]; exact .nil⟩
  have tended : s.Tended := course_tended (l := ⟨started, []⟩) first run
  have running (key : Nat) : key ∈ s.running ↔
      ∃ w, s.watchers[key]? = some w ∧ w.hasEnded = false :=
    Service.mem_running.trans Service.isRunning_iff
  refine ⟨tended.subscribers_eq, tended.ascending.nodup, ?_, ?_, ?_, ?_, ?_⟩
  · have length := course_length ⟨started, []⟩ run
    rwa [nobody, List.length_nil, Nat.zero_add] at length
  · intro key
    rw [tended.subscribers_eq, running]
  · intro key hk
    obtain ⟨w, hw, -⟩ := (running key).1 hk
    exact tended.sound.provided key w hw
  · intro t ht key
    exact mailbox_of_broadcasts tended ht key
  · intro ended
    rw [hub, tended.subscribers_eq]
    apply List.eq_nil_iff_forall_not_mem.2
    intro key hk
    obtain ⟨w, hw, live⟩ := (running key).1 hk
    rw [ended w (List.mem_of_getElem? hw)] at live
    cases live

lemma oneDevice_starts : (Service.start oneDevice).toOption.isSome := by
  decide +kernel

theorem two_of_four_subscribed : ∃ started, Service.start oneDevice = .ok started ∧
    let l := ({ service := started, links := [] } : Loop).course
      [.arrive, .arrive, .turn (.join false), .signal 1 .acceptFailed, .arrive,
        .signal 2 .cancelled, .signal 0 .accepted, .turn (.change 0 (.fail .timeout)),
        .turn (.publish "m"), .turn (.run 0)]
    l.service.hub.subscribers = [0, 3] ∧
      (l.service.watchers[0]?).map Watcher.phase = some .closing ∧
      (l.follow (.signal 0 .closed)).service.hub.subscribers = [3] := by
  have hs := ok_get oneDevice_starts
  refine ⟨_, hs, ?_⟩
  obtain ⟨subscribers, -⟩ := subscribed_while_running hs
    [.arrive, .arrive, .turn (.join false), .signal 1 .acceptFailed, .arrive,
      .signal 2 .cancelled, .signal 0 .accepted, .turn (.change 0 (.fail .timeout)),
      .turn (.publish "m"), .turn (.run 0)]
  exact ⟨subscribers.trans (by decide +kernel), by decide +kernel, by decide +kernel⟩

end Loop

end Telematics
