/-! Watchers, the clients that the messages are sent to. -/

namespace Telematics.Feed

/-- How sends fail. One that times out is no end yet: the watcher goes on to close. -/
inductive Fault where
  | disconnect
  | broken
  | timeout
deriving DecidableEq

inductive Ending where
  | idle
  | disconnected
  | sendFailed
  | acceptFailed
  | closeFailed
  | cancelled
deriving DecidableEq

inductive Phase where
  | accepting
  | waiting (since : Nat)
  | sending (message : String)
  /-- The idle time is over or a send has timed out, and the close has not completed yet. -/
  | closing
  | ended (ending : Ending)
deriving DecidableEq

inductive Signal where
  | accepted
  | acceptFailed
  | lapsed
  | closed
  | closeFailed
  | cancelled
deriving DecidableEq

structure Watcher where
  accepted : Bool
  stalled : Bool
  fault : Option Fault
  phase : Phase
  sent : List String

namespace Watcher

def idleTime : Nat := 5000

def idleCode : Nat := 1001

def capacity : Int := 10

def arriving : Watcher where
  accepted := false
  stalled := false
  fault := none
  phase := .accepting
  sent := []

def start (now : Nat) (acceptFails : Bool) : Watcher where
  accepted := !acceptFails
  stalled := false
  fault := none
  phase := if acceptFails then .ended .acceptFailed else .waiting now
  sent := []

def hasEnded (w : Watcher) : Bool :=
  match w.phase with
  | .ended _ => true
  | _ => false

def isWaiting (w : Watcher) : Bool :=
  match w.phase with
  | .waiting _ => true
  | _ => false

def closeCode? (w : Watcher) : Option Nat :=
  match w.phase with
  | .closing | .ended .idle | .ended .closeFailed => some idleCode
  | _ => none

def send (w : Watcher) (now : Nat) (message : String) : Watcher :=
  if w.stalled then { w with phase := .sending message }
  else match w.fault with
    | some .disconnect => { w with phase := .ended .disconnected }
    | some .broken => { w with phase := .ended .sendFailed }
    | some .timeout => { w with phase := .closing }
    | none => { w with phase := .waiting now, sent := w.sent ++ [message] }

def expire (w : Watcher) (now : Nat) : Watcher :=
  match w.phase with
  | .waiting since => if since + idleTime ≤ now then { w with phase := .ended .idle } else w
  | _ => w

def drain (now : Nat) : Watcher → List String → Watcher × List String
  | w, [] => (w.expire now, [])
  | w, m :: r =>
    if w.isWaiting then drain now (w.send now m) r else (w, m :: r)

def lapse (w : Watcher) (now : Nat) (waiting : List String) : Watcher :=
  match w.phase, waiting with
  | .waiting since, [] => if since + idleTime ≤ now then { w with phase := .closing } else w
  | _, _ => w

def heed (w : Watcher) (now : Nat) (waiting : List String) : Signal → Watcher
  | .accepted =>
    if w.phase = .accepting then { w with accepted := true, phase := .waiting now } else w
  | .acceptFailed =>
    if w.phase = .accepting then { w with phase := .ended .acceptFailed } else w
  | .lapsed => w.lapse now waiting
  | .closed => if w.phase = .closing then { w with phase := .ended .idle } else w
  | .closeFailed => if w.phase = .closing then { w with phase := .ended .closeFailed } else w
  | .cancelled => if w.hasEnded then w else { w with phase := .ended .cancelled }

def settle (w : Watcher) (now : Nat) (waiting : List String) : Watcher × List String :=
  match w.phase with
  | .sending m => drain now (w.send now m) waiting
  | _ => drain now w waiting

end Watcher

end Telematics.Feed
