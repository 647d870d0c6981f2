namespace Telematics.Feed

structure Mailbox where
  capacity : Int
  messages : List String

namespace Mailbox

def empty (capacity : Int) : Mailbox :=
  ⟨capacity, []⟩

def size (m : Mailbox) : Nat :=
  m.messages.length

def isFull (m : Mailbox) : Bool :=
  0 < m.capacity && m.capacity ≤ m.size

def put (m : Mailbox) (text : String) : Mailbox :=
  { m with messages := (if m.isFull then m.messages.drop 1 else m.messages) ++ [text] }

def take? (m : Mailbox) : Option (String × Mailbox) :=
  match m.messages with
  | [] => none
  | text :: rest => some (text, { m with messages := rest })

@[simp] theorem put_of_not_isFull {m : Mailbox} (h : m.isFull = false) (text : String) :
    (m.put text).messages = m.messages ++ [text] := by
  simp [put, h]

@[simp] theorem put_of_isFull {m : Mailbox} (h : m.isFull = true) (text : String) :
    (m.put text).messages = m.messages.drop 1 ++ [text] := by
  simp [put, h]

end Mailbox

end Telematics.Feed
