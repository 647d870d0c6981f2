import Telematics.Proofs.Feed
import Telematics.Proofs.Terminal.Message
import Telematics.Service

/-! The service as an event loop, in which each watcher runs when its turn comes. -/

namespace Telematics

open Feed Terminal

inductive Change where
  | stall
  | resume
  | fail (fault : Fault)

def Change.apply : Change → Watcher → Watcher
  | stall, w => { w with stalled := true }
  | resume, w => { w with stalled := false }
  | fail fault, w => { w with fault := some fault }

lemma Change.apply_hasEnded (c : Change) (w : Watcher) :
    (c.apply w).hasEnded = w.hasEnded := by
  cases c <;> rfl

namespace Service

variable {s t : Service} {key k : Nat} {w : Watcher} {m : Mailbox} {texts : List String}

def join (s : Service) (acceptFails : Bool) : Service :=
  let key := s.watchers.length
  let hub := (s.hub.provide key Watcher.capacity).subscribe key
  { s with
    watchers := s.watchers ++ [Watcher.start s.clock acceptFails]
    hub := if acceptFails then hub.unsubscribe key else hub }

def change (s : Service) (key : Nat) (c : Change) : Service :=
  { s with watchers := s.watchers.modify key c.apply }

def afterRun (s : Service) (key : Nat) (m : Mailbox) (ran : Watcher × List String) : Service :=
  let hub := s.hub.setMailbox key { m with messages := ran.2 }
  { s with
    watchers := s.watchers.set key ran.1
    hub := if ran.1.hasEnded then hub.unsubscribe key else hub }

structure Holds (s : Service) (key : Nat) (w : Watcher) (m : Mailbox) : Prop where
  watcher : s.watchers[key]? = some w
  mailbox : s.hub.mailbox? key = some m

/-- Every watcher has a mailbox of its own and is subscribed once, until it has ended. -/
structure Sound (s : Service) : Prop where
  provided : ∀ key w, s.watchers[key]? = some w →
    ∃ m, s.hub.mailbox? key = some m ∧ m.capacity = Watcher.capacity
  subscribed : ∀ key w, s.watchers[key]? = some w →
    s.hub.subscribers.count key = if w.hasEnded then 0 else 1
  fresh : ∀ key, s.watchers[key]? = none →
    s.hub.mailbox? key = none ∧ s.hub.subscribers.count key = 0

/-! Effects. -/

lemma foldl_apply_watchers (s : Service) (effects : List Effect) :
    (effects.foldl apply s).watchers = s.watchers := by
  induction effects generalizing s with
  | nil => rfl
  | cons e r ih => exact (ih (s.apply e)).trans (by cases e <;> rfl)

lemma foldl_apply_hub (s : Service) (effects : List Effect) :
    (effects.foldl apply s).hub = s.hub.broadcastAll (messages effects) := by
  induction effects generalizing s with
  | nil => rfl
  | cons e r ih => cases e <;> exact ih _

lemma Sound.broadcastAll (h : s.Sound) (hw : t.watchers = s.watchers)
    (hh : t.hub = s.hub.broadcastAll texts) : t.Sound where
  provided := by
    intro key w hk
    rw [hw] at hk
    obtain ⟨m, hm, hc⟩ := h.provided key w hk
    rw [hh, Hub.mailbox?_broadcastAll, hm]
    exact ⟨_, rfl, (Mailbox.putAll_capacity m _).trans hc⟩
  subscribed := by
    intro key w hk
    rw [hw] at hk
    rw [hh, Hub.broadcastAll_subscribers]
    exact h.subscribed key w hk
  fresh := by
    intro key hk
    rw [hw] at hk
    obtain ⟨none_yet, count⟩ := h.fresh key hk
    rw [hh, Hub.broadcastAll_subscribers, Hub.mailbox?_broadcastAll, none_yet]
    exact ⟨rfl, count⟩

lemma Holds.broadcastAll (h : s.Holds key w m) (sound : s.Sound) (live : w.hasEnded = false)
    (hw : t.watchers = s.watchers) (hh : t.hub = s.hub.broadcastAll texts) :
    t.Holds key w (m.putAll texts) where
  watcher := by
    rw [hw]
    exact h.watcher
  mailbox := by
    have once : s.hub.subscribers.count key = 1 := by
      rw [sound.subscribed key w h.watcher, live]
      rfl
    rw [hh, Hub.mailbox?_broadcastAll_once once, h.mailbox]
    rfl

/-! Runs of a watcher. -/

lemma settleOne_eq (h : s.Holds key w m) (live : w.hasEnded = false) :
    s.settleOne key = s.afterRun key m (w.settle s.clock m.messages) := by
  simp only [settleOne, h.watcher, h.mailbox, live]
  rfl

lemma settleOne_cases (s : Service) (key : Nat) : s.settleOne key = s ∨ ∃ w m, s.Holds key w m ∧
    w.hasEnded = false ∧ s.settleOne key = s.afterRun key m (w.settle s.clock m.messages) := by
  cases hw : s.watchers[key]? with
  | none => exact .inl (by simp only [settleOne, hw])
  | some w =>
    cases hm : s.hub.mailbox? key with
    | none => exact .inl (by simp only [settleOne, hw, hm])
    | some m =>
      cases live : w.hasEnded with
      | true => exact .inl (by simp only [settleOne, hw, hm, live, if_true])
      | false => exact .inr ⟨w, m, ⟨hw, hm⟩, live, settleOne_eq ⟨hw, hm⟩ live⟩

variable {ran : Watcher × List String}

lemma afterRun_watcher (h : s.Holds key w m) (k : Nat) :
    (s.afterRun key m ran).watchers[k]? = if k = key then some ran.1 else s.watchers[k]? := by
  have inside : key < s.watchers.length := (List.getElem?_eq_some_iff.1 h.watcher).1
  by_cases hk : k = key
  · subst hk
    simp [afterRun, inside]
  · simp [afterRun, List.getElem?_set_ne (Ne.symm hk), hk]

lemma afterRun_mailbox (h : s.Holds key w m) (k : Nat) : (s.afterRun key m ran).hub.mailbox? k =
    if k = key then some { m with messages := ran.2 } else s.hub.mailbox? k := by
  have same : (s.afterRun key m ran).hub.mailbox? k =
      (s.hub.setMailbox key { m with messages := ran.2 }).mailbox? k := by
    simp only [afterRun]
    split_ifs <;> rfl
  rw [same, Hub.mailbox?_setMailbox]
  by_cases hk : k = key
  · subst hk
    simp [h.mailbox]
  · simp [hk]

lemma afterRun_count (s : Service) (key : Nat) (m : Mailbox) (k : Nat) :
    (s.afterRun key m ran).hub.subscribers.count k =
      if ran.1.hasEnded ∧ k = key then s.hub.subscribers.count k - 1
      else s.hub.subscribers.count k := by
  simp only [afterRun]
  by_cases ended : ran.1.hasEnded
  · simp only [ended, if_true, true_and, Hub.unsubscribe, Hub.setMailbox]
    by_cases hk : k = key
    · rw [if_pos hk, hk, List.count_erase_self]
    · rw [if_neg hk, List.count_erase_of_ne hk]
  · rw [if_neg ended, if_neg fun hc => ended hc.1]
    rfl

lemma Sound.afterRun (h : s.Sound) (holds : s.Holds key w m) (live : w.hasEnded = false) :
    (s.afterRun key m ran).Sound where
  provided := by
    intro k x hx
    rw [afterRun_watcher holds] at hx
    rw [afterRun_mailbox holds]
    by_cases hk : k = key
    · obtain ⟨n, hn, hc⟩ := h.provided key w holds.watcher
      obtain rfl := Option.some.inj (holds.mailbox.symm.trans hn)
      rw [if_pos hk]
      exact ⟨_, rfl, hc⟩
    · rw [if_neg hk] at hx ⊢
      exact h.provided k x hx
  subscribed := by
    intro k x hx
    rw [afterRun_watcher holds] at hx
    rw [afterRun_count]
    by_cases hk : k = key
    · rw [if_pos hk] at hx
      obtain rfl := Option.some.inj hx
      have once := h.subscribed key w holds.watcher
      rw [live] at once
      rw [hk, once]
      cases ran.1.hasEnded <;> simp
    · rw [if_neg hk] at hx
      rw [if_neg fun hc => hk hc.2]
      exact h.subscribed k x hx
  fresh := by
    intro k hx
    rw [afterRun_watcher holds] at hx
    by_cases hk : k = key
    · rw [if_pos hk] at hx
      cases hx
    · rw [if_neg hk] at hx
      rw [afterRun_mailbox holds, afterRun_count, if_neg hk, if_neg fun hc => hk hc.2]
      exact h.fresh k hx

lemma Sound.settleOne (h : s.Sound) (key : Nat) : (s.settleOne key).Sound := by
  obtain same | ⟨w, m, holds, live, next⟩ := settleOne_cases s key
  · rwa [same]
  · rw [next]
    exact h.afterRun holds live

lemma Holds.settleOne (h : s.Holds k w m) (hk : k ≠ key) : (s.settleOne key).Holds k w m := by
  obtain same | ⟨x, n, holds, -, next⟩ := settleOne_cases s key
  · rwa [same]
  · rw [next]
    constructor
    · rw [afterRun_watcher holds, if_neg hk]
      exact h.watcher
    · rw [afterRun_mailbox holds, if_neg hk]
      exact h.mailbox

lemma Sound.foldl_settleOne (h : s.Sound) (keys : List Nat) :
    (keys.foldl Service.settleOne s).Sound := by
  induction keys generalizing s with
  | nil => exact h
  | cons key r ih => exact ih (h.settleOne key)

lemma Holds.foldl_settleOne (h : s.Holds k w m) {keys : List Nat} (hk : k ∉ keys) :
    (keys.foldl Service.settleOne s).Holds k w m := by
  induction keys generalizing s with
  | nil => exact h
  | cons key r ih =>
    rw [List.mem_cons, not_or] at hk
    exact ih (h.settleOne hk.1) hk.2

lemma Holds.run (h : s.Holds key w m) (prompt : w.Prompt) : ∃ x, x.sent = w.sent ++ m.messages ∧
    (s.settleOne key).Holds key x { m with messages := [] } := by
  obtain ⟨sent, rest⟩ := prompt.settle_eq s.clock m.messages
  refine ⟨_, sent, ?_⟩
  rw [settleOne_eq h prompt.not_hasEnded]
  constructor
  · rw [afterRun_watcher h, if_pos rfl]
  · rw [afterRun_mailbox h, if_pos rfl, rest]

lemma Holds.settle (h : s.Holds key w m) (prompt : w.Prompt) :
    ∃ x, x.sent = w.sent ++ m.messages ∧ s.settle.Holds key x { m with messages := [] } := by
  have inside : key ∈ List.range s.watchers.length :=
    List.mem_range.2 (List.getElem?_eq_some_iff.1 h.watcher).1
  -- its key stands once among the watchers that run, so the runs around its own leave it alone
  obtain ⟨before, after, split, hb⟩ := List.eq_append_cons_of_mem inside
  have distinct : (before ++ key :: after).Nodup := split ▸ List.nodup_range
  have ha : key ∉ after := (List.nodup_cons.1 (List.nodup_append.1 distinct).2.1).1
  obtain ⟨x, sent, ran⟩ := (h.foldl_settleOne hb).run prompt
  refine ⟨x, sent, ?_⟩
  rw [Service.settle, split, List.foldl_append, List.foldl_cons]
  exact ran.foldl_settleOne ha

/-! New watchers and changes. -/

lemma change_watcher (s : Service) (key k : Nat) (c : Change) : (s.change key c).watchers[k]? =
    (s.watchers[k]?).map fun w => if key = k then c.apply w else w := by
  simp only [change, List.getElem?_modify, Option.map_eq_map]

lemma Sound.change (h : s.Sound) (key : Nat) (c : Change) : (s.change key c).Sound where
  provided := by
    intro k x hx
    rw [change_watcher, Option.map_eq_some_iff] at hx
    obtain ⟨w, hw, -⟩ := hx
    exact h.provided k w hw
  subscribed := by
    intro k x hx
    rw [change_watcher, Option.map_eq_some_iff] at hx
    obtain ⟨w, hw, rfl⟩ := hx
    have ending : (if key = k then c.apply w else w).hasEnded = w.hasEnded := by
      split_ifs
      · exact c.apply_hasEnded w
      · rfl
    rw [ending]
    exact h.subscribed k w hw
  fresh := by
    intro k hx
    rw [change_watcher, Option.map_eq_none_iff] at hx
    exact h.fresh k hx

lemma Holds.change (h : s.Holds k w m) (hk : key ≠ k) (c : Change) :
    (s.change key c).Holds k w m where
  watcher := by
    rw [change_watcher, h.watcher]
    simp only [hk, if_false, Option.map_some]
  mailbox := h.mailbox

lemma join_watcher (s : Service) (acceptFails : Bool) (k : Nat) :
    (s.join acceptFails).watchers[k]? = if k = s.watchers.length
      then some (Watcher.start s.clock acceptFails) else s.watchers[k]? := by
  simp only [join]
  by_cases hk : k = s.watchers.length
  · rw [if_pos hk, hk, List.getElem?_concat_length]
  · rw [if_neg hk]
    obtain below | beyond := Nat.lt_or_gt_of_ne hk
    · exact List.getElem?_append_left below
    · have outside : (s.watchers ++ [Watcher.start s.clock acceptFails]).length ≤ k := by
        rwa [List.length_append]
      rw [List.getElem?_eq_none outside, List.getElem?_eq_none (Nat.le_of_lt beyond)]

lemma join_mailbox (s : Service) (acceptFails : Bool) (k : Nat) :
    (s.join acceptFails).hub.mailbox? k = (s.hub.mailbox? k).or
      (if k = s.watchers.length then some (.empty Watcher.capacity) else none) := by
  have same : (s.join acceptFails).hub.mailbox? k =
      (s.hub.provide s.watchers.length Watcher.capacity).mailbox? k := by
    simp only [join]
    split_ifs <;> rfl
  rw [same, Hub.mailbox?, Hub.provide, List.lookup_append]
  congr 1
  by_cases hk : k = s.watchers.length
  · simp [hk]
  · simp [hk]

lemma join_count (s : Service) (acceptFails : Bool) (k : Nat) :
    (s.join acceptFails).hub.subscribers.count k = s.hub.subscribers.count k +
      if k = s.watchers.length then (if acceptFails then 0 else 1) else 0 := by
  have subscribed : (s.hub.subscribers ++ [s.watchers.length]).count k =
      s.hub.subscribers.count k + if k = s.watchers.length then 1 else 0 := by
    rw [List.count_append]
    by_cases hk : k = s.watchers.length
    · rw [hk, List.count_singleton_self, if_pos rfl]
    · rw [if_neg hk, List.count_singleton, if_neg (by simpa using Ne.symm hk)]
  cases acceptFails with
  | false => exact subscribed
  | true =>
    have erased : (s.join true).hub.subscribers.count k =
        ((s.hub.subscribers ++ [s.watchers.length]).erase s.watchers.length).count k := rfl
    rw [erased]
    by_cases hk : k = s.watchers.length
    · rw [hk, if_pos rfl] at subscribed
      rw [hk, List.count_erase_self, subscribed, if_pos rfl]
      rfl
    · rw [if_neg hk] at subscribed ⊢
      rw [List.count_erase_of_ne hk, subscribed]

lemma start_hasEnded (now : Nat) (acceptFails : Bool) :
    (Watcher.start now acceptFails).hasEnded = acceptFails := by
  cases acceptFails <;> rfl

lemma Sound.join (h : s.Sound) (acceptFails : Bool) : (s.join acceptFails).Sound where
  provided := by
    intro k x hx
    rw [join_watcher] at hx
    rw [join_mailbox]
    by_cases hk : k = s.watchers.length
    · have new := (h.fresh k (List.getElem?_eq_none hk.ge)).1
      rw [new, Option.none_or, if_pos hk]
      exact ⟨_, rfl, rfl⟩
    · rw [if_neg hk] at hx
      obtain ⟨m, hm, hc⟩ := h.provided k x hx
      rw [hm, Option.some_or]
      exact ⟨m, rfl, hc⟩
  subscribed := by
    intro k x hx
    rw [join_watcher] at hx
    rw [join_count]
    by_cases hk : k = s.watchers.length
    · rw [if_pos hk] at hx ⊢
      obtain rfl := Option.some.inj hx
      rw [(h.fresh k (List.getElem?_eq_none hk.ge)).2, start_hasEnded, Nat.zero_add]
    · rw [if_neg hk] at hx ⊢
      exact h.subscribed k x hx
  fresh := by
    intro k hx
    rw [join_watcher] at hx
    by_cases hk : k = s.watchers.length
    · rw [if_pos hk] at hx
      cases hx
    · rw [if_neg hk] at hx
      rw [join_mailbox, join_count, if_neg hk, if_neg hk, Option.or_none]
      exact h.fresh k hx

lemma Holds.join (h : s.Holds k w m) (acceptFails : Bool) : (s.join acceptFails).Holds k w m where
  watcher := by
    have old : k ≠ s.watchers.length := by
      have inside := (List.getElem?_eq_some_iff.1 h.watcher).1
      omega
    rw [join_watcher, if_neg old, h.watcher]
  mailbox := by
    rw [join_mailbox, h.mailbox, Option.some_or]

lemma start_eq {env : Settings.Environment} (h : Service.start env = .ok s) :
    s.watchers = [] ∧ s.hub = .empty ∧ s.registry = (Registry.ofList
      (Settings.ofEnvironment env).registerUnknown (Settings.ofEnvironment env).devices).1 := by
  simp only [Service.start, bind_eq_ok] at h
  obtain ⟨output, -, h⟩ := h
  cases h
  exact ⟨rfl, rfl, rfl⟩

lemma sound_of_start {env : Settings.Environment} (h : Service.start env = .ok s) : s.Sound := by
  obtain ⟨watchers, hub, -⟩ := start_eq h
  constructor
  · intro key w hw
    rw [watchers] at hw
    cases hw
  · intro key w hw
    rw [watchers] at hw
    cases hw
  · intro key _
    rw [hub]
    exact ⟨rfl, rfl⟩

end Service

structure Link where
  channel : Channel
  limit : Nat
  connection : Connection

structure Loop where
  service : Service
  links : List Link

inductive Turn where
  | connect (channel : Channel) (limit : Nat)
  | receive (index : Nat) (input : Input)
  | join (acceptFails : Bool)
  | change (key : Nat) (c : Change)
  | publish (message : String)
  | run (key : Nat)
  | advance (milliseconds : Nat)

namespace Turn

def Runs (key : Nat) : Turn → Prop
  | run k => k = key
  | advance _ => True
  | _ => False

def Changes (key : Nat) : Turn → Prop
  | change k _ => k = key
  | _ => False

end Turn

namespace Loop

variable {l : Loop} {key : Nat} {w : Watcher} {m : Mailbox} {t : Turn} {turns : List Turn}

def progress (k : Link) (registry : Registry) (input : Input) : Progress :=
  k.connection.step k.channel k.limit registry input

def receive (l : Loop) (index : Nat) (input : Input) : Loop :=
  match l.links[index]? with
  | none => l
  | some k =>
    let p := progress k l.service.registry input
    { service := p.effects.foldl Service.apply { l.service with registry := p.registry }
      links := l.links.set index { k with connection := p.connection } }

def take (l : Loop) : Turn → Loop
  | .connect channel limit =>
    { service := (Connection.opened channel).foldl Service.apply l.service
      links := l.links ++ [⟨channel, limit, .reading []⟩] }
  | .receive index input => l.receive index input
  | .join acceptFails => { l with service := l.service.join acceptFails }
  | .change key c => { l with service := l.service.change key c }
  | .publish message => { l with service := l.service.broadcast message }
  | .run key => { l with service := l.service.settleOne key }
  | .advance milliseconds => { l with service := l.service.advance milliseconds }

def play (l : Loop) (turns : List Turn) : Loop :=
  turns.foldl take l

def heard (l : Loop) : Turn → List String
  | .receive index input =>
    match l.links[index]? with
    | none => []
    | some k => messages (progress k l.service.registry input).effects
  | .publish message => [message]
  | _ => []

def heardIn : Loop → List Turn → List String
  | _, [] => []
  | l, t :: r => l.heard t ++ heardIn (l.take t) r

inductive Does (l : Loop) : Turn → Prop
  | broadcast {t : Turn} (hw : (l.take t).service.watchers = l.service.watchers)
      (hh : (l.take t).service.hub = l.service.hub.broadcastAll (l.heard t)) : Does l t
  | join (acceptFails : Bool) : Does l (.join acceptFails)
  | change (key : Nat) (c : Change) : Does l (.change key c)
  | run (key : Nat) : Does l (.run key)
  | advance (milliseconds : Nat) : Does l (.advance milliseconds)

lemma does (l : Loop) (t : Turn) : l.Does t := by
  cases t with
  | connect channel limit => exact .broadcast rfl rfl
  | receive index input =>
    apply Does.broadcast
    · simp only [take, receive]
      split
      · rfl
      · exact Service.foldl_apply_watchers _ _
    · simp only [take, receive, heard]
      split
      · rfl
      · exact Service.foldl_apply_hub _ _
  | join acceptFails => exact .join acceptFails
  | change key c => exact .change key c
  | publish message => exact .broadcast rfl rfl
  | run key => exact .run key
  | advance milliseconds => exact .advance milliseconds

lemma take_sound (h : l.service.Sound) (t : Turn) : (l.take t).service.Sound := by
  cases l.does t with
  | broadcast hw hh => exact h.broadcastAll hw hh
  | join acceptFails => exact h.join acceptFails
  | change key c => exact h.change key c
  | run key => exact h.settleOne key
  | advance milliseconds =>
    have later : ({ l.service with clock := l.service.clock + milliseconds } : Service).Sound :=
      ⟨h.provided, h.subscribed, h.fresh⟩
    exact later.foldl_settleOne _

theorem play_sound (h : l.service.Sound) (turns : List Turn) : (l.play turns).service.Sound := by
  induction turns generalizing l with
  | nil => exact h
  | cons t r ih => exact ih (take_sound h t)

lemma take_holds (sound : l.service.Sound) (h : l.service.Holds key w m)
    (live : w.hasEnded = false) (hr : ¬ t.Runs key) (hc : ¬ t.Changes key) :
    (l.take t).service.Holds key w (m.putAll (l.heard t)) := by
  cases l.does t with
  | broadcast hw hh => exact h.broadcastAll sound live hw hh
  | join acceptFails => exact h.join acceptFails
  | change k c => exact h.change hc c
  | run k => exact h.settleOne (Ne.symm hr)
  | advance milliseconds => exact absurd trivial hr

lemma play_holds (sound : l.service.Sound) (h : l.service.Holds key w m)
    (live : w.hasEnded = false) (turns : List Turn)
    (hr : ∀ t ∈ turns, ¬ t.Runs key ∧ ¬ t.Changes key) :
    (l.play turns).service.Holds key w (m.putAll (l.heardIn turns)) := by
  induction turns generalizing l m with
  | nil => exact h
  | cons t r ih =>
    rw [List.forall_mem_cons] at hr
    have next := take_holds sound h live hr.1.1 hr.1.2
    rw [heardIn, Mailbox.putAll_append]
    exact ih (take_sound sound t) next hr.2

lemma take_runs (h : l.service.Holds key w m) (prompt : w.Prompt) (hr : t.Runs key) :
    ∃ x, x.sent = w.sent ++ m.messages ∧
      (l.take t).service.Holds key x { m with messages := [] } := by
  cases t with
  | run k =>
    obtain rfl := hr
    exact h.run prompt
  | advance milliseconds =>
    have later : ({ l.service with clock := l.service.clock + milliseconds } : Service).Holds
        key w m := ⟨h.watcher, h.mailbox⟩
    exact later.settle prompt
  | _ => cases hr

def settle (l : Loop) : Loop :=
  l.play ((List.range l.service.watchers.length).map .run)

lemma settle_eq (l : Loop) : l.settle = { l with service := l.service.settle } := by
  have run (keys : List Nat) (s : Service) : ({ l with service := s } : Loop).play
      (keys.map .run) = { l with service := keys.foldl Service.settleOne s } := by
    induction keys generalizing s with
    | nil => rfl
    | cons key r ih => exact ih (s.settleOne key)
  exact run _ l.service

lemma play_publish (l : Loop) (texts : List String) : l.play (texts.map .publish) =
    { l with service := texts.foldl Service.broadcast l.service } := by
  induction texts generalizing l with
  | nil => rfl
  | cons t r ih => exact ih (l.take (.publish t))

theorem operations_are_plays (l : Loop) :
    (∀ index input k, l.links[index]? = some k →
      let fed := l.service.feed k.channel k.limit k.connection input
      (l.take (.receive index input)).settle =
        ⟨fed.1, l.links.set index { k with connection := fed.2.1 }⟩) ∧
    (∀ acceptFails,
      (l.take (.join acceptFails)).settle.service = (l.service.watch acceptFails).2) ∧
    (∀ key, (l.take (.change key .stall)).settle.service = l.service.stall key) ∧
    (∀ key, (l.take (.change key .resume)).settle.service = l.service.resume key) ∧
    (∀ key fault,
      (l.take (.change key (.fail fault))).settle.service = l.service.setFault key fault) ∧
    (∀ texts, (l.play (texts.map .publish)).settle.service = l.service.publish texts) ∧
    ∀ milliseconds,
      (l.take (.advance milliseconds)).service = l.service.advance milliseconds := by
  refine ⟨?_, ?_, ?_, ?_, ?_, ?_, fun _ => rfl⟩
  · intro index input k hk
    rw [settle_eq]
    simp only [take, receive, hk]
    rfl
  · intro acceptFails
    rw [settle_eq]
    rfl
  · intro key
    rw [settle_eq]
    rfl
  · intro key
    rw [settle_eq]
    rfl
  · intro key fault
    rw [settle_eq]
    rfl
  · intro texts
    rw [settle_eq, play_publish]
    rfl

end Loop

end Telematics
