import Telematics.Terminal.Attempt
import Telematics.Terminal.Frame

/-! The life of a terminal connection. -/

namespace Telematics.Terminal

inductive Connection where
  | reading (pending : List UInt8)
  | finished (raised : Option Raised)

inductive Input where
  | chunk (bytes : List UInt8)
  | endOfStream
  | reset

structure Progress where
  registry : Registry
  connection : Connection
  effects : List Effect

namespace Connection

def resetCause : String := "reset by peer"

def opened (channel : Channel) : List Effect :=
  [.log (.connected channel.peer)]

def awaitClosed (channel : Channel) : Attempt :=
  ⟨[.awaitClose channel.closeFails], if channel.closeFails then some (.lost resetCause) else none⟩

def finish (channel : Channel) : Attempt :=
  (Attempt.perform .close).andThen
    (((awaitClosed channel).suppress Raised.isLost).andThen
      (.perform (.log (.disconnected channel.peer))))

def release (channel : Channel) : List Effect :=
  (finish channel).effects

def notice (channel : Channel) : Raised → Option Attempt
  | .tooLong => some (.perform (.log (.frameTooLong channel.peer)))
  | .lost cause => some (.perform (.log (.lost channel.peer cause)))
  | .exchange _ => none

def leave (channel : Channel) (registry : Registry) (served : Attempt) : Progress :=
  let left := (served.rescue (notice channel)).ensure (finish channel)
  ⟨registry, finished left.raised, left.effects⟩

def serve (channel : Channel) : Registry → List String → Registry × List Effect × Option Failure
  | registry, [] => (registry, [], none)
  | registry, s :: r =>
    let o := process channel registry s
    match o.result with
    | .error failure => (o.registry, o.effects, some failure)
    | .ok _ =>
      let (registry, effects, failure) := serve channel o.registry r
      (registry, o.effects ++ effects, failure)

inductive Outlook where
  | more (pending : List UInt8)
  | leaving (raised : Option Raised)

def serveFrames (channel : Channel) (registry : Registry) (frames : List (List UInt8))
    (outlook : Outlook) : Progress :=
  match serve channel registry (frames.filterMap sentence?) with
  | (registry, effects, some failure) =>
    leave channel registry ⟨effects, some (.exchange failure)⟩
  | (registry, effects, none) =>
    match outlook with
    | .more pending => ⟨registry, reading pending, effects⟩
    | .leaving raised => leave channel registry ⟨effects, raised⟩

def step (channel : Channel) (limit : Nat) (registry : Registry) :
    Connection → Input → Progress
  | finished raised, _ => ⟨registry, finished raised, []⟩
  | reading pending, .chunk bytes =>
    match cutChunk limit pending bytes with
    | (frames, .pending rest) => serveFrames channel registry frames (.more rest)
    | (frames, .overrun) => serveFrames channel registry frames (.leaving (some .tooLong))
  | reading pending, .endOfStream => serveFrames channel registry [pending] (.leaving none)
  | reading _, .reset => serveFrames channel registry [] (.leaving (some (.lost resetCause)))

def run (channel : Channel) (limit : Nat) : Registry → Connection → List Input → Progress
  | registry, c, [] => ⟨registry, c, []⟩
  | registry, c, i :: is =>
    let p := step channel limit registry c i
    let q := run channel limit p.registry p.connection is
    { q with effects := p.effects ++ q.effects }

def play (channel : Channel) (limit : Nat) (registry : Registry) (inputs : List Input) : Progress :=
  let p := run channel limit registry (reading []) inputs
  { p with effects := opened channel ++ p.effects }

end Connection

end Telematics.Terminal
