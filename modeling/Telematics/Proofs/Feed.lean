import Mathlib.Data.List.DropRight
import Telematics.Feed.Hub
import Telematics.Feed.Watcher

namespace Telematics.Feed

namespace Mailbox

variable {m : Mailbox} {n : Nat}

def putAll (m : Mailbox) (texts : List String) : Mailbox :=
  texts.foldl put m

lemma putAll_append (m : Mailbox) (xs ys : List String) :
    m.putAll (xs ++ ys) = (m.putAll xs).putAll ys :=
  List.foldl_append

lemma putAll_capacity (m : Mailbox) (texts : List String) :
    (m.putAll texts).capacity = m.capacity := by
  induction texts generalizing m with
  | nil => rfl
  | cons t r ih => exact ih (m.put t)

lemma rtake_of_length_le {l : List String} (h : l.length ≤ n) : l.rtake n = l := by
  rw [List.rtake, Nat.sub_eq_zero_of_le h, List.drop_zero]

lemma put_messages {seen : List String} (hc : m.capacity = n) (hn : 0 < n)
    (hm : m.messages = seen.rtake n) (text : String) :
    (m.put text).messages = (seen ++ [text]).rtake n := by
  obtain ⟨k, rfl⟩ := Nat.exists_eq_add_of_lt hn
  rw [Nat.zero_add] at hc hm ⊢
  rw [List.rtake_concat_succ]
  have size : m.size = min (k + 1) seen.length := by
    rw [size, hm, List.rtake, List.length_drop]
    omega
  by_cases full : seen.length ≤ k
  · have room : m.isFull = false := by
      rw [isFull, hc, size]
      simp only [Bool.and_eq_false_iff, decide_eq_false_iff_not]
      omega
    rw [put_of_not_isFull room, hm, rtake_of_length_le full, rtake_of_length_le (by omega)]
  · have none_left : m.isFull = true := by
      rw [isFull, hc, size]
      simp only [Bool.and_eq_true, decide_eq_true_eq]
      omega
    have next : seen.length - (k + 1) + 1 = seen.length - k := by omega
    rw [put_of_isFull none_left, hm, List.rtake, List.rtake, List.drop_drop, next]

theorem putAll_messages (hc : m.capacity = n) (hn : 0 < n) (hl : m.messages.length ≤ n)
    (texts : List String) : (m.putAll texts).messages = (m.messages ++ texts).rtake n := by
  induction texts using List.reverseRecOn with
  | nil => rw [List.append_nil, rtake_of_length_le hl, putAll, List.foldl_nil]
  | append_singleton texts text ih =>
    rw [putAll_append, ← List.append_assoc]
    exact put_messages ((putAll_capacity m texts).trans hc) hn ih text

example : ((Mailbox.empty 2).putAll ["a", "b", "c"]).messages = ["b", "c"] := rfl

lemma putAll_of_unbounded (hc : m.capacity ≤ 0) (texts : List String) :
    (m.putAll texts).messages = m.messages ++ texts := by
  induction texts generalizing m with
  | nil => exact (List.append_nil _).symm
  | cons t r ih =>
    have room : m.isFull = false := by
      rw [isFull, decide_eq_false (Int.not_lt.2 hc), Bool.false_and]
    have next := ih (m := m.put t) hc
    rw [put_of_not_isFull room, List.append_assoc, List.singleton_append] at next
    exact next

end Mailbox

namespace Hub

variable {κ : Type} [BEq κ]

def putEach (h : Hub κ) (keys : List κ) (text : String) : Hub κ :=
  keys.foldl (fun h k => (h.put k text).1) h

def broadcastAll (h : Hub κ) (texts : List String) : Hub κ :=
  texts.foldl (fun h text => (h.broadcast text).1) h

lemma put_subscribers (h : Hub κ) (k : κ) (text : String) :
    (h.put k text).1.subscribers = h.subscribers := by
  unfold put
  split <;> rfl

lemma putEach_subscribers (h : Hub κ) (keys : List κ) (text : String) :
    (h.putEach keys text).subscribers = h.subscribers := by
  induction keys generalizing h with
  | nil => rfl
  | cons k r ih => exact (ih (h.put k text).1).trans (put_subscribers h k text)

lemma broadcast_fst (h : Hub κ) (text : String) :
    (h.broadcast text).1 = h.putEach h.subscribers text := by
  have run (keys : List κ) : ∀ x : Hub κ × List Log.Event,
      (keys.foldl (fun x k => ((x.1.put k text).1, x.2 ++ (x.1.put k text).2)) x).1 =
        x.1.putEach keys text := by
    induction keys with
    | nil => exact fun _ => rfl
    | cons k r ih => exact fun x => ih _
  exact run h.subscribers (h, [])

lemma broadcast_subscribers (h : Hub κ) (text : String) :
    (h.broadcast text).1.subscribers = h.subscribers := by
  rw [broadcast_fst, putEach_subscribers]

lemma broadcastAll_subscribers (h : Hub κ) (texts : List String) :
    (h.broadcastAll texts).subscribers = h.subscribers := by
  induction texts generalizing h with
  | nil => rfl
  | cons t r ih => exact (ih (h.broadcast t).1).trans (broadcast_subscribers h t)

variable [LawfulBEq κ]

lemma lookup_replace (j k : κ) (m : Mailbox) (l : List (κ × Mailbox)) :
    (replace j m l).lookup k = if k == j then (l.lookup k).map fun _ => m else l.lookup k := by
  induction l with
  | nil => simp [replace]
  | cons x r ih =>
    obtain ⟨i, n⟩ := x
    by_cases hk : k = i
    · subst hk
      by_cases hi : k = j
      · subst hi
        simp [replace]
      · simp [replace, hi]
    · have other : (k == i) = false := by simpa using hk
      by_cases hi : i = j
      · subst hi
        simp [replace, List.lookup_cons, other]
      · simp [replace, List.lookup_cons, other, hi, ih]

lemma mailbox?_setMailbox (h : Hub κ) (j k : κ) (m : Mailbox) : (h.setMailbox j m).mailbox? k =
    if k == j then (h.mailbox? k).map fun _ => m else h.mailbox? k :=
  lookup_replace j k m h.mailboxes

lemma mailbox?_put (h : Hub κ) (j k : κ) (text : String) : (h.put j text).1.mailbox? k =
    if k == j then (h.mailbox? k).map (·.put text) else h.mailbox? k := by
  unfold put
  cases hm : h.mailbox? j with
  | none =>
    by_cases hk : k = j
    · subst hk
      simp [hm]
    · simp [hk]
  | some m =>
    simp only [mailbox?_setMailbox]
    by_cases hk : k = j
    · subst hk
      simp [hm]
    · simp [hk]

lemma mailbox?_putEach (h : Hub κ) (keys : List κ) (k : κ) (text : String) :
    (h.putEach keys text).mailbox? k =
      (h.mailbox? k).map (·.putAll (List.replicate (keys.count k) text)) := by
  induction keys generalizing h with
  | nil => simp [putEach, Mailbox.putAll]
  | cons j r ih =>
    have next : h.putEach (j :: r) text = (h.put j text).1.putEach r text := rfl
    rw [next, ih, mailbox?_put]
    by_cases hk : k = j
    · subst hk
      rw [List.count_cons_self, List.replicate_succ, if_pos BEq.rfl, Option.map_map]
      rfl
    · rw [List.count_cons_of_ne (Ne.symm hk), if_neg (by simpa using hk)]

theorem mailbox?_broadcastAll (h : Hub κ) (k : κ) (texts : List String) :
    (h.broadcastAll texts).mailbox? k = (h.mailbox? k).map
      (·.putAll (texts.flatMap (List.replicate (h.subscribers.count k)))) := by
  induction texts generalizing h with
  | nil => simp [broadcastAll, Mailbox.putAll]
  | cons t r ih =>
    have next : h.broadcastAll (t :: r) = (h.broadcast t).1.broadcastAll r := rfl
    rw [next, ih, broadcast_subscribers, broadcast_fst, mailbox?_putEach, Option.map_map,
      List.flatMap_cons]
    congr 1
    funext m
    exact (Mailbox.putAll_append m _ _).symm

lemma mailbox?_broadcastAll_once {h : Hub κ} {k : κ} (hk : h.subscribers.count k = 1)
    (texts : List String) :
    (h.broadcastAll texts).mailbox? k = (h.mailbox? k).map (·.putAll texts) := by
  have once : List.replicate 1 = fun text : String => [text] := rfl
  rw [mailbox?_broadcastAll, hk, once, List.flatMap_singleton']

end Hub

namespace Watcher

variable {w : Watcher}

/-- The watcher waits for messages, and nothing keeps it from sending them. -/
structure Prompt (w : Watcher) : Prop where
  waiting : w.isWaiting
  free : w.stalled = false
  whole : w.fault = none

lemma Prompt.not_hasEnded (h : w.Prompt) : w.hasEnded = false := by
  have waiting := h.waiting
  unfold isWaiting at waiting
  unfold hasEnded
  split at waiting
  · rename_i hp
    rw [hp]
  · cases waiting

lemma Prompt.send_eq (h : w.Prompt) (now : Nat) (text : String) :
    w.send now text = { w with phase := .waiting now, sent := w.sent ++ [text] } := by
  rw [send, h.free, h.whole]
  rfl

lemma Prompt.send (h : w.Prompt) (now : Nat) (text : String) : (w.send now text).Prompt := by
  rw [h.send_eq]
  exact ⟨rfl, h.free, h.whole⟩

lemma expire_sent (w : Watcher) (now : Nat) : (w.expire now).sent = w.sent := by
  unfold expire
  split
  · split_ifs <;> rfl
  · rfl

lemma Prompt.drain_eq (h : w.Prompt) (now : Nat) (texts : List String) :
    (w.drain now texts).1.sent = w.sent ++ texts ∧ (w.drain now texts).2 = [] := by
  induction texts generalizing w with
  | nil =>
    rw [drain, List.append_nil]
    exact ⟨expire_sent w now, rfl⟩
  | cons t r ih =>
    obtain ⟨sent, rest⟩ := ih (h.send now t)
    rw [drain, if_pos h.waiting]
    refine ⟨?_, rest⟩
    rw [sent, h.send_eq, List.append_assoc]
    rfl

theorem Prompt.settle_eq (h : w.Prompt) (now : Nat) (texts : List String) :
    (w.settle now texts).1.sent = w.sent ++ texts ∧ (w.settle now texts).2 = [] := by
  have waiting := h.waiting
  have drained := h.drain_eq now texts
  unfold isWaiting at waiting
  unfold settle
  split
  · rename_i hp
    rw [hp] at waiting
    cases waiting
  · exact drained

end Watcher

end Telematics.Feed
