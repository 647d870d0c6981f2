/-! A read position in a list of slots. A read of a negative number moves it back. -/

namespace Telematics.Sentence

/-- One place of the flat form of a sentence; `none` where the branch was not taken. -/
abbrev Slot := Option String

structure Cursor where
  slots : List Slot
  position : Int
  position_le : position ≤ slots.length

namespace Cursor

inductive Error where
  | tooFew (count position remaining : Int)
  | noSlot

def Error.message : Error → String
  | tooFew count position remaining =>
    "cannot read " ++ toString count ++ " tokens at " ++ toString position ++ ", " ++
      toString remaining ++ " remaining"
  | noSlot => "tuple index out of range"

def start (slots : List Slot) : Cursor :=
  ⟨slots, 0, Int.natCast_nonneg _⟩

def remaining (c : Cursor) : Int :=
  c.slots.length - c.position

def before (size : Nat) (position : Int) : Nat :=
  if position < 0 then (position + size).toNat else min position.toNat size

def window (c : Cursor) (count : Int) : List Slot :=
  (c.slots.take (before c.slots.length (c.position + count))).drop
    (before c.slots.length c.position)

def advance (c : Cursor) (count : Int) (h : count ≤ c.remaining) : Cursor :=
  ⟨c.slots, c.position + count, by simp only [remaining] at h; omega⟩

def take (c : Cursor) (count : Int) : Except Error (List Slot) × Cursor :=
  if h : count ≤ c.remaining then (.ok (c.window count), c.advance count h)
  else (.error (.tooFew count c.position c.remaining), c)

def first : List Slot → Except Error Slot
  | [] => .error .noSlot
  | s :: _ => .ok s

def next (c : Cursor) : Except Error Slot × Cursor :=
  let (block, rest) := c.take 1
  (block.bind first, rest)

def present (block : List Slot) : Except Error (Option (List Slot)) :=
  (first block).map fun s => s.map fun _ => block

def takeBlock (c : Cursor) (count : Int) : Except Error (Option (List Slot)) × Cursor :=
  let (block, rest) := c.take count
  (block.bind present, rest)

def hasNext (c : Cursor) (count : Int) : Bool :=
  count ≤ c.remaining && (c.window count).all Option.isSome

theorem position_add_remaining (c : Cursor) : c.position + c.remaining = c.slots.length := by
  simp only [remaining]
  omega

theorem length_window {c : Cursor} {count : Nat} (hp : 0 ≤ c.position)
    (h : count ≤ c.remaining) : (c.window count).length = count := by
  simp only [remaining] at h
  have hn : ¬ c.position < 0 := by omega
  have hm : ¬ c.position + count < 0 := by omega
  simp only [window, before, hn, hm, ↓reduceIte, List.length_drop, List.length_take]
  omega

theorem take_of_le {c : Cursor} {count : Int} (h : count ≤ c.remaining) :
    c.take count = (.ok (c.window count), c.advance count h) :=
  dif_pos h

theorem take_of_lt {c : Cursor} {count : Int} (h : c.remaining < count) :
    c.take count = (.error (.tooFew count c.position c.remaining), c) :=
  dif_neg (Int.not_le.2 h)

theorem of_take {c rest : Cursor} {count : Nat} {slots : List Slot} (hp : 0 ≤ c.position)
    (h : c.take count = (.ok slots, rest)) : slots.length = count ∧ 0 ≤ rest.position := by
  by_cases fits : count ≤ c.remaining
  · rw [take_of_le fits] at h
    cases h
    exact ⟨length_window hp fits, Int.add_nonneg hp (Int.natCast_nonneg count)⟩
  · rw [take_of_lt (Int.not_le.1 fits)] at h
    cases h

end Cursor

end Telematics.Sentence
