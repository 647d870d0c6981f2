import Telematics.Feed.Hub
import Telematics.Feed.Watcher
import Telematics.Log.Output
import Telematics.Terminal.Connection

/-! The service as a whole. The frames of one chunk are handled before any watcher runs. -/

namespace Telematics

open Feed Terminal

structure Service where
  settings : Settings
  registry : Registry
  hub : Hub Nat
  watchers : List Watcher
  output : Log.Output
  clock : Nat

namespace Service

def stopTime : Nat := 1000

def write (s : Service) (events : List Log.Event) : Service :=
  { s with output := s.output.writeEvents events }

def registrationEvents (answers : List Registry.Answer) : List Log.Event :=
  answers.flatMap fun
    | .registered session => [.registered session.identifier session.deviceId]
    | _ => []

def start (env : Settings.Environment) : Except Storage.Failure Service := do
  let settings := Settings.ofEnvironment env
  let warnings := (Settings.invalidPort? env).map fun text =>
    Log.Event.invalidPort text Settings.defaultPort
  let output ← (Log.Output.initial.writeEvents warnings.toList).configure settings
  let (registry, answers) := Registry.ofList settings.registerUnknown settings.devices
  return { settings, registry, output, hub := .empty, watchers := [], clock := 0 : Service }.write
    (registrationEvents answers ++ [.listening (.ofHost settings.host settings.port)])

def subscriberCount (s : Service) : Nat :=
  s.hub.subscribers.length

def deviceCount (s : Service) : Nat :=
  s.registry.size

def broadcast (s : Service) (message : String) : Service :=
  let (hub, events) := s.hub.broadcast message
  { s with hub }.write events

def apply (s : Service) : Effect → Service
  | .publish message => s.broadcast message
  | .log event => s.write [event]
  | _ => s

def settleOne (s : Service) (key : Nat) : Service :=
  match s.watchers[key]?, s.hub.mailbox? key with
  | some w, some m =>
    if w.hasEnded then s
    else
      let (w, rest) := w.settle s.clock m.messages
      let hub := s.hub.setMailbox key { m with messages := rest }
      { s with
        watchers := s.watchers.set key w
        hub := if w.hasEnded then hub.unsubscribe key else hub }
  | _, _ => s

def settle (s : Service) : Service :=
  (List.range s.watchers.length).foldl settleOne s

/-- A new watcher and its key; it subscribes before its connection is accepted. -/
def watch (s : Service) (acceptFails : Bool) : Nat × Service :=
  let key := s.watchers.length
  let hub := (s.hub.provide key Watcher.capacity).subscribe key
  (key, { s with
    watchers := s.watchers ++ [Watcher.start s.clock acceptFails]
    hub := if acceptFails then hub.unsubscribe key else hub }.settle)

def arrive (s : Service) : Service :=
  let key := s.watchers.length
  { s with
    watchers := s.watchers ++ [.arriving]
    hub := (s.hub.provide key Watcher.capacity).subscribe key }

def signal (s : Service) (key : Nat) (x : Signal) : Service :=
  match s.watchers[key]?, s.hub.mailbox? key with
  | some w, some m =>
    if w.hasEnded then s
    else
      let w := w.heed s.clock m.messages x
      { s with
        watchers := s.watchers.set key w
        hub := if w.hasEnded then s.hub.unsubscribe key else s.hub }
  | _, _ => s

def modifyWatcher (s : Service) (key : Nat) (f : Watcher → Watcher) : Service :=
  { s with watchers := s.watchers.modify key f }.settle

def stall (s : Service) (key : Nat) : Service :=
  s.modifyWatcher key fun w => { w with stalled := true }

def resume (s : Service) (key : Nat) : Service :=
  s.modifyWatcher key fun w => { w with stalled := false }

def setFault (s : Service) (key : Nat) (fault : Fault) : Service :=
  s.modifyWatcher key fun w => { w with fault := some fault }

def publish (s : Service) (messages : List String) : Service :=
  (messages.foldl broadcast s).settle

def advance (s : Service) (milliseconds : Nat) : Service :=
  { s with clock := s.clock + milliseconds }.settle

def feed (s : Service) (channel : Channel) (limit : Nat) (connection : Connection)
    (input : Input) : Service × Connection × List Effect :=
  let p := connection.step channel limit s.registry input
  ((p.effects.foldl apply { s with registry := p.registry }).settle, p.connection, p.effects)

def feedAll (channel : Channel) (limit : Nat) : Service → Connection → List Input →
    Service × Connection × List Effect
  | s, c, [] => (s, c, [])
  | s, c, i :: is =>
    let (s, c, effects) := s.feed channel limit c i
    let (s, c, more) := feedAll channel limit s c is
    (s, c, effects ++ more)

def serve (s : Service) (channel : Channel) (limit : Nat) (inputs : List Input) :
    Service × Connection × List Effect :=
  let opened := Connection.opened channel
  let (s, c, effects) := feedAll channel limit (opened.foldl apply s) (.reading []) inputs
  (s, c, opened ++ effects)

/-- Stops the service. A listener that does not close is given up when the stop time is over. -/
def stop (s : Service) (hangs : Bool) : Service :=
  if hangs then (s.advance stopTime).write [.stopTimedOut] else s

def cancel (s : Service) : Service :=
  (List.range s.watchers.length).foldl (fun s key => s.signal key .cancelled) s

end Service

end Telematics
