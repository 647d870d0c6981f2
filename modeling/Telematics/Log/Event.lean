import Telematics.Log.Level
import Telematics.Points
import Telematics.Terminal.Frame
import Telematics.Terminal.Peer

namespace Telematics.Log

structure Entry where
  level : Int
  logger : Points
  message : Points

def Entry.plainText (e : Entry) : Points :=
  e.logger ++ " - " ++ Level.shown e.level ++ " - " ++ e.message

inductive Event where
  | registered (identifier : String) (deviceId : Nat)
  | unknownDevice (identifier : String) (peer : Peer)
  | notASentence (text : String)
  | sentenceDropped (identifier : String)
  | connected (peer : Peer)
  | replyDropped (peer : Peer)
  | decodeFailed (peer : Peer)
  | frameTooLong (peer : Peer)
  | lost (peer : Peer) (cause : String)
  | disconnected (peer : Peer)
  | listening (address : Peer)
  | messageDropped
  | invalidPort (text : String) (usedInstead : Nat)
  | configured (level : Int) (json : Bool) (file : Option Points)
  | stopTimedOut

namespace Event

def truthWord (b : Bool) : String :=
  if b then "True" else "False"

def level : Event → Int
  | registered .. | connected .. | lost .. | disconnected .. | listening .. | configured .. =>
    Level.info
  | unknownDevice .. | frameTooLong .. | invalidPort .. | stopTimedOut => Level.warning
  | notASentence .. | sentenceDropped .. | replyDropped .. | messageDropped => Level.debug
  | decodeFailed .. => Level.error

def logger : Event → String
  | registered .. | unknownDevice .. => "tracking.devices"
  | notASentence .. | sentenceDropped .. => "tracking.its.decoder"
  | connected .. | replyDropped .. | decodeFailed .. | frameTooLong .. | lost .. | disconnected ..
  | listening .. => "server.listener"
  | messageDropped => "server.broadcaster"
  | invalidPort .. => "server.config"
  | configured .. => "server.logging_config"
  | stopTimedOut => "server.main"

def message : Event → Points
  | registered identifier deviceId =>
    .ofString ("Registered device " ++ identifier ++ " as " ++ toString deviceId)
  | unknownDevice identifier peer =>
    .ofString ("Unknown device " ++ identifier ++ " from " ++ peer.shown)
  | notASentence text => .ofString ("Not an ITS sentence: " ++ Text.quoted text)
  | sentenceDropped identifier =>
    .ofString ("Dropping sentence from unknown device " ++ identifier)
  | connected peer => .ofString ("Terminal connected from " ++ peer.shown)
  | replyDropped peer => .ofString ("Not replying to closed connection " ++ peer.shown)
  | decodeFailed peer => .ofString ("Failed to decode sentence from " ++ peer.shown)
  | frameTooLong peer =>
    .ofString ("Frame from " ++ peer.shown ++ " exceeds " ++ toString Terminal.frameLimit ++
      " bytes, closing connection")
  | lost peer cause => .ofString ("Connection from " ++ peer.shown ++ " lost: " ++ cause)
  | disconnected peer => .ofString ("Terminal " ++ peer.shown ++ " disconnected")
  | listening address => .ofString ("ITS listener on " ++ address.shown)
  | messageDropped => .ofString "Subscriber queue full, dropped oldest message"
  | invalidPort text usedInstead =>
    .ofString ("Invalid ITS_TCP_PORT " ++ Text.quoted text ++ ", using default " ++
      toString usedInstead)
  | configured level json file =>
    .ofString ("Logging configured: level=" ++ Level.shown level ++ ", json=" ++ truthWord json ++
      ", file=") ++ file.getD Text.absentWord
  | stopTimedOut => .ofString "ITS listener did not close in time, continuing shutdown"

def entry (e : Event) : Entry :=
  ⟨e.level, e.logger, e.message⟩

end Event

end Telematics.Log
