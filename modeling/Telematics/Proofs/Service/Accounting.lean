import Telematics.Proofs.Service.Replies
import Telematics.Proofs.Terminal.Fate
import Telematics.Proofs.Terminal.Interleaving

/-! The fate of every frame of a run, and the messages in a queue without bound. -/

namespace Telematics

open Feed Terminal Terminal.Connection

structure Visit where
  channel : Channel
  limit : Nat
  chunks : List (List UInt8)
  closed : Bool

namespace Visit

def sentences (v : Visit) : List String :=
  (framing v.limit v.closed v.chunks.flatten).1

def ending (v : Visit) : Connection.Ending :=
  (framing v.limit v.closed v.chunks.flatten).2

lemma handed_eq (v : Visit) :
    handed v.limit [] (chunked v.chunks v.closed) = (v.sentences, v.ending) :=
  handed_chunked (by simp) (Nat.zero_le _) v.chunks

end Visit

namespace Terminal

def Exchange.effects (e : Exchange Channel) : List Effect :=
  (process e.terminal e.registry e.sentence).effects

def Exchange.line? (e : Exchange Channel) : Option String :=
  Terminal.line? (some e.terminal) e.registry e.sentence

def Exchange.Breaks (e : Exchange Channel) : Prop :=
  Terminal.Breaks e.terminal e.registry e.sentence

structure Page where
  visit : Visit
  exchanges : List (Exchange Channel)

def Page.effects (page : Page) : List Effect :=
  opened page.visit.channel ++
    (page.exchanges.flatMap Exchange.effects ++ page.visit.ending.effects page.visit.channel)

def pages : Registry → List Visit → List Page
  | _, [] => []
  | registry, v :: r =>
    ⟨v, exchanges id registry (v.sentences.map (v.channel, ·))⟩ ::
      pages (registryAfter v.channel registry v.sentences) r

def booked (registry : Registry) (visits : List Visit) : List (Exchange Channel) :=
  (pages registry visits).flatMap Page.exchanges

variable {registry : Registry}

lemma booked_cons (registry : Registry) (v : Visit) (visits : List Visit) :
    booked registry (v :: visits) = exchanges id registry (v.sentences.map (v.channel, ·)) ++
      booked (registryAfter v.channel registry v.sentences) visits := by
  rw [booked, pages, List.flatMap_cons]
  rfl

lemma endures_of_exchanges {c : Channel} {sentences : List String}
    (h : ∀ e ∈ exchanges id registry (sentences.map (c, ·)), ¬ e.Breaks) :
    Endures c registry sentences := by
  induction sentences generalizing registry with
  | nil =>
    intro before s after split
    simp at split
  | cons s r ih =>
    rw [List.map_cons, exchanges, List.forall_mem_cons] at h
    exact endures_cons.2 ⟨h.1, ih h.2⟩

lemma effectsOf_eq (c : Channel) (registry : Registry) (sentences : List String) :
    effectsOf c registry sentences =
      (exchanges id registry (sentences.map (c, ·))).flatMap Exchange.effects := by
  induction sentences generalizing registry with
  | nil => rfl
  | cons s r ih =>
    rw [effectsOf, ih, List.map_cons, exchanges, List.flatMap_cons]
    rfl

lemma Page.messages (page : Page) :
    Terminal.messages page.effects = page.exchanges.filterMap Exchange.line? := by
  have told : Terminal.messages (page.exchanges.flatMap Exchange.effects) =
      page.exchanges.filterMap Exchange.line? := by
    rw [Terminal.messages, List.filterMap_flatMap, List.filterMap_eq_flatMap_toList]
    apply List.flatMap_congr
    intro e _
    exact messages_process e.terminal e.registry e.sentence
  rw [Page.effects, messages_append, messages_append, told, (unspoken_ending _ _).2,
    List.append_nil]
  rfl

end Terminal

namespace Service

variable {s : Service} {key : Nat} {m : Mailbox} {visits : List Visit}

/-- Messages are collected under a key: it is subscribed once, and no watcher reads its mailbox. -/
structure Collects (s : Service) (key : Nat) (m : Mailbox) : Prop where
  unwatched : s.watchers[key]? = none
  mailbox : s.hub.mailbox? key = some m
  once : s.hub.subscribers.count key = 1

lemma Collects.settleOne (h : s.Collects key m) (k : Nat) : (s.settleOne k).Collects key m := by
  rcases settleOne_cases s k with same | ⟨w, n, holds, -, next⟩
  · rwa [same]
  · have other : key ≠ k := by
      rintro rfl
      have none_there := h.unwatched
      rw [holds.watcher] at none_there
      cases none_there
    rw [next]
    constructor
    · rw [afterRun_watcher holds, if_neg other]
      exact h.unwatched
    · rw [afterRun_mailbox holds, if_neg other]
      exact h.mailbox
    · rw [afterRun_count, if_neg fun hk => other hk.2]
      exact h.once

lemma Collects.settle (h : s.Collects key m) : s.settle.Collects key m := by
  rw [Service.settle]
  generalize List.range s.watchers.length = keys
  induction keys generalizing s with
  | nil => exact h
  | cons k r ih => exact ih (h.settleOne k)

lemma Collects.apply (h : s.Collects key m) (effects : List Effect) :
    (effects.foldl Service.apply s).Collects key (m.putAll (messages effects)) where
  unwatched := by
    rw [foldl_apply_watchers]
    exact h.unwatched
  mailbox := by
    rw [foldl_apply_hub, Hub.mailbox?_broadcastAll_once h.once, h.mailbox]
    rfl
  once := by
    rw [foldl_apply_hub, Hub.broadcastAll_subscribers]
    exact h.once

lemma Collects.feed (h : s.Collects key m) (channel : Channel) (limit : Nat) (c : Connection)
    (i : Input) :
    (s.feed channel limit c i).1.Collects key
      (m.putAll (messages (s.feed channel limit c i).2.2)) := by
  have next : { s with registry := (c.step channel limit s.registry i).registry }.Collects key m :=
    ⟨h.unwatched, h.mailbox, h.once⟩
  exact (next.apply _).settle

lemma Collects.feedAll (h : s.Collects key m) (channel : Channel) (limit : Nat) (c : Connection)
    (inputs : List Input) :
    (feedAll channel limit s c inputs).1.Collects key
      (m.putAll (messages (feedAll channel limit s c inputs).2.2)) := by
  induction inputs generalizing s c m with
  | nil => exact h
  | cons i is ih =>
    have next := ih (h.feed channel limit c i) (s.feed channel limit c i).2.1
    rw [feedAll_cons, messages_append, Mailbox.putAll_append]
    exact next

lemma Collects.serve (h : s.Collects key m) (channel : Channel) (limit : Nat)
    (inputs : List Input) :
    (s.serve channel limit inputs).1.Collects key
      (m.putAll (messages (s.serve channel limit inputs).2.2)) := by
  -- that a terminal connects is logged, and no message
  have opened : ((opened channel).foldl Service.apply s).Collects key m := h.apply (opened channel)
  exact opened.feedAll channel limit (.reading []) inputs

def serveAll : Service → List Visit → Service × List Effect
  | s, [] => (s, [])
  | s, v :: r =>
    let served := s.serve v.channel v.limit (chunked v.chunks v.closed)
    let others := served.1.serveAll r
    (others.1, served.2.2 ++ others.2)

lemma serve_visit {v : Visit} (h : Endures v.channel s.registry v.sentences) :
    (s.serve v.channel v.limit (chunked v.chunks v.closed)).1.registry =
      registryAfter v.channel s.registry v.sentences ∧
    (s.serve v.channel v.limit (chunked v.chunks v.closed)).2.2 =
      Page.effects ⟨v, exchanges id s.registry (v.sentences.map (v.channel, ·))⟩ := by
  have endures : Endures v.channel s.registry
      (handed v.limit [] (chunked v.chunks v.closed)).1 := by
    rwa [v.handed_eq]
  have served := serve_of_endures endures
  rwa [v.handed_eq, effectsOf_eq] at served

lemma Collects.serveAll (h : s.Collects key m)
    (writable : ∀ e ∈ booked s.registry visits, ¬ e.Breaks) :
    (s.serveAll visits).1.Collects key
      (m.putAll ((booked s.registry visits).filterMap Exchange.line?)) := by
  induction visits generalizing s m with
  | nil => exact h
  | cons v r ih =>
    rw [booked_cons, List.forall_mem_append] at writable
    have endures := endures_of_exchanges writable.1
    have served := h.serve v.channel v.limit (chunked v.chunks v.closed)
    rw [(serve_visit endures).2, Page.messages] at served
    have next := ih served
    rw [(serve_visit endures).1] at next
    rw [booked_cons, List.filterMap_append, Mailbox.putAll_append]
    exact next writable.2

lemma serveAll_effects (writable : ∀ e ∈ booked s.registry visits, ¬ e.Breaks) :
    (s.serveAll visits).2 = (pages s.registry visits).flatMap Page.effects := by
  induction visits generalizing s with
  | nil => rfl
  | cons v r ih =>
    rw [booked_cons, List.forall_mem_append] at writable
    obtain ⟨after, effects⟩ := serve_visit (endures_of_exchanges writable.1)
    rw [← after] at writable
    rw [Service.serveAll, pages, List.flatMap_cons, ← effects, ← after, ← ih writable.2]

/-- Every frame of a run is broadcast, or there is one reason why it is not; what a run does is what
it does with its frames, and an unbounded mailbox finally holds the lines of those that were
broadcast, one each and in their order. -/
theorem serveAll_accounts (h : s.Collects key m) (unbounded : m.capacity ≤ 0)
    (writable : ∀ e ∈ booked s.registry visits, ¬ e.Breaks) :
    (∃ n, (s.serveAll visits).1.hub.mailbox? key = some n ∧
      n.messages = m.messages ++ (booked s.registry visits).filterMap Exchange.line?) ∧
    (s.serveAll visits).2 = (pages s.registry visits).flatMap Page.effects ∧
    ∀ e ∈ booked s.registry visits, ∃! fate, Ends e.terminal e.registry e.sentence fate := by
  refine ⟨⟨_, (h.serveAll writable).mailbox, ?_⟩, serveAll_effects writable,
    fun e he => existsUnique_ends (writable e he)⟩
  exact Mailbox.putAll_of_unbounded unbounded _

def collecting (registry : Registry) : Service :=
  { idle registry with hub := ⟨[0], [(0, .empty 0)]⟩ }

def oneKnown : Registry :=
  ⟨false, ["861693034634154"]⟩

def visit : Visit where
  channel := { peer := .unknown }
  limit := frameLimit
  chunks := ["$,01,hel", "lo*" ++ emergencyAt "861693034634154" "12.975095"].map fun text =>
    bytesOf text.toList
  closed := true

lemma visit_sentences :
    visit.sentences = ["$,01,hello*", emergencyAt "861693034634154" "12.975095"] := by
  decide +kernel

lemma visit_booked : (booked oneKnown [visit]).all (fun e =>
    (process e.terminal e.registry e.sentence).result.toOption.isSome) ∧
    ((booked oneKnown [visit]).filterMap Exchange.line?).length = 1 := by
  rw [booked_cons, visit_sentences]
  decide +kernel

theorem visit_accounted : ∃ n,
    ((collecting oneKnown).serveAll [visit]).1.hub.mailbox? 0 = some n ∧ n.messages.length = 1 := by
  have collects : (collecting oneKnown).Collects 0 (.empty 0) := ⟨rfl, rfl, rfl⟩
  have writable : ∀ e ∈ booked oneKnown [visit], ¬ e.Breaks := by
    intro e he breaks
    obtain ⟨failure, failed⟩ := process_error_iff.2 breaks
    have ok := List.all_eq_true.1 visit_booked.1 e he
    rw [failed] at ok
    cases ok
  obtain ⟨⟨n, held, messages⟩, -, -⟩ := serveAll_accounts collects le_rfl writable
  have fresh : (Mailbox.empty 0).messages = [] := rfl
  have start : (collecting oneKnown).registry = oneKnown := rfl
  refine ⟨n, held, ?_⟩
  rw [messages, fresh, start, List.nil_append, visit_booked.2]

end Service

end Telematics
