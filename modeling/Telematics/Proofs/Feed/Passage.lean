import Telematics.Proofs.Feed

/-! The way of messages through one mailbox. -/

namespace Telematics.Feed

inductive Passage where
  | entered (text : String)
  | taken (text : String)
  | evicted (text : String)

namespace Passage

def text : Passage → String
  | entered t | taken t | evicted t => t

def isEntry : Passage → Bool
  | entered _ => true
  | _ => false

def isTaking : Passage → Bool
  | taken _ => true
  | _ => false

def isEviction : Passage → Bool
  | evicted _ => true
  | _ => false

end Passage

open Passage

def entries (ps : List Passage) : List String :=
  (ps.filter isEntry).map text

def departures (ps : List Passage) : List Passage :=
  ps.filter (!·.isEntry)

def takings (ps : List Passage) : List String :=
  (ps.filter isTaking).map text

lemma entries_append (ps qs : List Passage) : entries (ps ++ qs) = entries ps ++ entries qs := by
  rw [entries, List.filter_append, List.map_append]
  rfl

lemma takings_append (ps qs : List Passage) : takings (ps ++ qs) = takings ps ++ takings qs := by
  rw [takings, List.filter_append, List.map_append]
  rfl

lemma takings_departures (ps : List Passage) :
    takings ps = ((departures ps).filter isTaking).map text := by
  rw [takings, departures, List.filter_filter]
  congr 1
  apply List.filter_congr
  intro p _
  cases p with
  | entered | taken | evicted => rfl

lemma evictions_departures (ps : List Passage) :
    ps.filter isEviction = (departures ps).filter (!·.isTaking) := by
  rw [departures, List.filter_filter]
  apply List.filter_congr
  intro p _
  cases p with
  | entered | taken | evicted => rfl

/-- The passages between two states of a mailbox. Only the oldest message leaves, and it is evicted
only when another one finds the mailbox full. -/
inductive Passes (capacity : Int) : List String → List Passage → List String → Prop
  | rest {m : List String} : Passes capacity m [] m
  | enter {m n : List String} {ps : List Passage} {t : String}
      (room : 0 < capacity → m.length < capacity) :
      Passes capacity (m ++ [t]) ps n → Passes capacity m (entered t :: ps) n
  | replace {m n : List String} {ps : List Passage} {t x : String}
      (full : (x :: m).length = capacity) :
      Passes capacity (m ++ [t]) ps n → Passes capacity (x :: m) (evicted x :: entered t :: ps) n
  | take {m n : List String} {ps : List Passage} {x : String} :
      Passes capacity m ps n → Passes capacity (x :: m) (taken x :: ps) n

namespace Passes

variable {capacity : Int} {k m n : List String} {ps qs : List Passage}

lemma append (h : Passes capacity k ps m) (h' : Passes capacity m qs n) :
    Passes capacity k (ps ++ qs) n := by
  induction h with
  | rest => exact h'
  | enter room _ ih => exact .enter room (ih h')
  | replace full _ ih => exact .replace full (ih h')
  | take _ ih => exact .take (ih h')

lemma balance (h : Passes capacity m ps n) :
    m ++ entries ps = (departures ps).map text ++ n := by
  induction h with
  | rest => exact List.append_nil _
  | @enter m n ps t room _ ih =>
    rw [List.append_assoc] at ih
    exact ih
  | @replace m n ps t x full _ ih =>
    rw [List.append_assoc] at ih
    exact congrArg (x :: ·) ih
  | @take m n ps x _ ih => exact congrArg (x :: ·) ih

lemma bounded (h : Passes capacity m ps n) (positive : 0 < capacity)
    (fits : m.length ≤ capacity) : n.length ≤ capacity := by
  induction h with
  | rest => exact fits
  | enter room _ ih =>
    apply ih
    have free := room positive
    rw [List.length_append, List.length_singleton]
    omega
  | replace full _ ih =>
    apply ih
    rw [List.length_cons] at full
    rw [List.length_append, List.length_singleton]
    omega
  | take _ ih =>
    apply ih
    rw [List.length_cons] at fits
    omega

end Passes

namespace Mailbox

def Fits (m : Mailbox) : Prop :=
  0 < m.capacity → m.messages.length ≤ m.capacity

def enter? (m : Mailbox) (text : String) : Option Mailbox :=
  if m.isFull then none else some { m with messages := m.messages ++ [text] }

def enqueue? (m : Mailbox) (text : String) : Option (Mailbox × List Passage) :=
  if m.isFull then
    m.take?.bind fun r => (r.2.enter? text).map fun m => (m, [evicted r.1, entered text])
  else (m.enter? text).map fun m => (m, [entered text])

def passing (m : Mailbox) (text : String) : List Passage :=
  (if m.isFull then (m.messages.take 1).map evicted else []) ++ [entered text]

def receiving (m : Mailbox) : List String → List Passage
  | [] => []
  | text :: texts => m.passing text ++ (m.put text).receiving texts

variable {m : Mailbox}

lemma isFull_iff : m.isFull = true ↔ 0 < m.capacity ∧ m.capacity ≤ m.messages.length := by
  rw [isFull, size, Bool.and_eq_true, decide_eq_true_eq, decide_eq_true_eq]

lemma Fits.exists_cons (fits : m.Fits) (full : m.isFull = true) :
    ∃ oldest rest, m.messages = oldest :: rest ∧ (oldest :: rest).length = m.capacity := by
  obtain ⟨positive, reached⟩ := isFull_iff.1 full
  have bound := fits positive
  cases h : m.messages with
  | nil =>
    rw [h, List.length_nil] at reached
    omega
  | cons oldest rest =>
    rw [h] at reached bound
    exact ⟨oldest, rest, rfl, by omega⟩

lemma Fits.enqueue?_eq (fits : m.Fits) (text : String) :
    m.enqueue? text = some (m.put text, m.passing text) := by
  cases full : m.isFull with
  | true =>
    obtain ⟨oldest, rest, messages, reached⟩ := fits.exists_cons full
    have room : ({ m with messages := rest } : Mailbox).isFull = false := by
      rw [← Bool.not_eq_true, isFull_iff]
      rw [List.length_cons] at reached
      dsimp only
      omega
    have taken : m.take? = some (oldest, { m with messages := rest }) := by
      rw [take?, messages]
    simp only [enqueue?, full, if_true, taken, Option.bind_some, enter?, room]
    simp [put, passing, full, messages]
  | false => simp [enqueue?, enter?, put, passing, full]

lemma Fits.passes_passing (fits : m.Fits) (text : String) :
    Passes m.capacity m.messages (m.passing text) (m.put text).messages := by
  cases full : m.isFull with
  | true =>
    obtain ⟨oldest, rest, messages, reached⟩ := fits.exists_cons full
    simp only [passing, put, full, if_true, messages]
    exact .replace reached .rest
  | false =>
    simp only [passing, put, full, Bool.false_eq_true, if_false]
    refine .enter ?_ .rest
    intro positive
    have room := mt isFull_iff.2 (Bool.eq_false_iff.1 full)
    omega

lemma Fits.of_passes {n : Mailbox} {ps : List Passage} (fits : m.Fits)
    (capacity : n.capacity = m.capacity)
    (h : Passes m.capacity m.messages ps n.messages) : n.Fits := by
  intro positive
  rw [capacity] at positive ⊢
  exact h.bounded positive (fits positive)

lemma Fits.put (fits : m.Fits) (text : String) : (m.put text).Fits :=
  fits.of_passes rfl (fits.passes_passing text)

lemma Fits.passes_receiving (fits : m.Fits) (texts : List String) :
    Passes m.capacity m.messages (m.receiving texts) (m.putAll texts).messages := by
  induction texts generalizing m with
  | nil => exact .rest
  | cons text texts ih => exact (fits.passes_passing text).append (ih (fits.put text))

lemma Fits.putAll (fits : m.Fits) (texts : List String) : (m.putAll texts).Fits :=
  fits.of_passes (putAll_capacity m texts) (fits.passes_receiving texts)

lemma receiving_append (m : Mailbox) (xs ys : List String) :
    m.receiving (xs ++ ys) = m.receiving xs ++ (m.putAll xs).receiving ys := by
  induction xs generalizing m with
  | nil => rfl
  | cons x xs ih =>
    rw [List.cons_append, receiving, receiving, ih, List.append_assoc]
    rfl

lemma passing_eq (m : Mailbox) (text : String) :
    entries (m.passing text) = [text] ∧ takings (m.passing text) = [] := by
  rw [passing]
  cases m.isFull with
  | false => exact ⟨rfl, rfl⟩
  | true =>
    cases m.messages with
    | nil | cons => exact ⟨rfl, rfl⟩

lemma receiving_eq (m : Mailbox) (texts : List String) :
    entries (m.receiving texts) = texts ∧ takings (m.receiving texts) = [] := by
  induction texts generalizing m with
  | nil => exact ⟨rfl, rfl⟩
  | cons text texts ih =>
    obtain ⟨entered, untaken⟩ := m.passing_eq text
    obtain ⟨later, never⟩ := ih (m.put text)
    rw [receiving, entries_append, takings_append, entered, untaken, later, never]
    exact ⟨rfl, rfl⟩

end Mailbox

end Telematics.Feed
