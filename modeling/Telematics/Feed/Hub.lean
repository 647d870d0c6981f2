import Telematics.Feed.Mailbox
import Telematics.Log.Event

namespace Telematics.Feed

structure Hub (κ : Type) where
  subscribers : List κ
  mailboxes : List (κ × Mailbox)

namespace Hub

variable {κ : Type} [BEq κ]

def empty : Hub κ :=
  ⟨[], []⟩

def mailbox? (h : Hub κ) (k : κ) : Option Mailbox :=
  h.mailboxes.lookup k

def provide (h : Hub κ) (k : κ) (capacity : Int) : Hub κ :=
  { h with mailboxes := h.mailboxes ++ [(k, .empty capacity)] }

def subscribe (h : Hub κ) (k : κ) : Hub κ :=
  { h with subscribers := h.subscribers ++ [k] }

def unsubscribe (h : Hub κ) (k : κ) : Hub κ :=
  { h with subscribers := h.subscribers.erase k }

def replace (k : κ) (m : Mailbox) : List (κ × Mailbox) → List (κ × Mailbox)
  | [] => []
  | (j, n) :: r => if j == k then (j, m) :: r else (j, n) :: replace k m r

def setMailbox (h : Hub κ) (k : κ) (m : Mailbox) : Hub κ :=
  { h with mailboxes := replace k m h.mailboxes }

def put (h : Hub κ) (k : κ) (text : String) : Hub κ × List Log.Event :=
  match h.mailbox? k with
  | none => (h, [])
  | some m => (h.setMailbox k (m.put text), if m.isFull then [.messageDropped] else [])

def take? (h : Hub κ) (k : κ) : Option (String × Hub κ) :=
  (h.mailbox? k).bind fun m => m.take?.map fun r => (r.1, h.setMailbox k r.2)

def drain (h : Hub κ) (k : κ) : List String × Hub κ :=
  match h.mailbox? k with
  | none => ([], h)
  | some m => (m.messages, h.setMailbox k { m with messages := [] })

def broadcast (h : Hub κ) (text : String) : Hub κ × List Log.Event :=
  h.subscribers.foldl (fun (h, events) k =>
    let (h, more) := h.put k text
    (h, events ++ more)) (h, [])

end Hub

end Telematics.Feed
