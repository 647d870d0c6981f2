import Telematics.Device
import Telematics.Log.Event

namespace Telematics.Terminal

structure Channel where
  peer : Peer
  closing : Bool := false
  closeFails : Bool := false

inductive Effect where
  | reply (text : String)
  | lookUp (connection : Option Channel) (identifier : String)
  | log (event : Log.Event)
  | publish (message : String)
  | close
  /-- The wait for the connection to end, and whether it failed. -/
  | awaitClose (failed : Bool)

namespace Effect

def reply? : Effect → Option String
  | reply text => some text
  | _ => none

def lookUp? : Effect → Option (Option Channel × String)
  | lookUp connection identifier => some (connection, identifier)
  | _ => none

def event? : Effect → Option Log.Event
  | log event => some event
  | _ => none

def message? : Effect → Option String
  | publish message => some message
  | _ => none

end Effect

def replies (effects : List Effect) : List String :=
  effects.filterMap Effect.reply?

def lookUps (effects : List Effect) : List (Option Channel × String) :=
  effects.filterMap Effect.lookUp?

def events (effects : List Effect) : List Log.Event :=
  effects.filterMap Effect.event?

def messages (effects : List Effect) : List String :=
  effects.filterMap Effect.message?

def Channel.send (c : Channel) (text : String) : Effect :=
  if c.closing then .log (.replyDropped c.peer) else .reply text

def answerEvents (peer : Peer) (identifier : String) : Registry.Answer → List Log.Event
  | .known _ => []
  | .registered s => [.registered identifier s.deviceId]
  | .refused => [.unknownDevice identifier peer]

end Telematics.Terminal
