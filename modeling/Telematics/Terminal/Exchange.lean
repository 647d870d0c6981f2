import Telematics.Position.Message
import Telematics.Terminal.Effect

namespace Telematics.Terminal

open Sentence

inductive Failure where
  | conversion (e : ConversionError)
  | tooLarge
  | layout (e : LayoutError)
  | unwritable

def Failure.ofTime : Field.TimeError → Failure
  | .conversion e => .conversion e
  | .tooLarge => .tooLarge

structure Outcome where
  registry : Registry
  effects : List Effect
  result : Except Failure (Option Position)

def handshakeOpening : String := "$,01,"

def handshakeReply : String := "$,1,*"

def opensSession (sentence : String) : Bool :=
  handshakeOpening.toList.isPrefixOf sentence.toList

def greet (channel : Option Channel) (sentence : String) : List Effect :=
  match channel with
  | some c => if opensSession sentence then [c.send handshakeReply] else []
  | none => []

def peerOf (channel : Option Channel) : Peer :=
  match channel with
  | some c => c.peer
  | none => .unknown

def locate (channel : Option Channel) (registry : Registry) (report : Report) : Outcome :=
  let identifier := report.imei.getD ""
  let (registry, answer) := registry.resolve identifier
  let asked := .lookUp channel identifier ::
    (answerEvents (peerOf channel) identifier answer).map .log
  match answer.session? with
  | none => ⟨registry, asked ++ [.log (.sentenceDropped identifier)], .ok none⟩
  | some s => ⟨registry, asked,
      ((Position.ofReport s.deviceId report).mapError Failure.ofTime).map some⟩

def decode (channel : Option Channel) (registry : Registry) (sentence : String) : Outcome :=
  let greeting := greet channel sentence
  match Report.ofText? sentence with
  | .error e => ⟨registry, greeting, .error (.layout e)⟩
  | .ok none => ⟨registry, greeting ++ [.log (.notASentence sentence)], .ok none⟩
  | .ok (some report) =>
    let o := locate channel registry report
    { o with effects := greeting ++ o.effects }

def process (channel : Channel) (registry : Registry) (sentence : String) : Outcome :=
  let o := decode (some channel) registry sentence
  match o.result with
  | .error (.conversion _) =>
    { o with effects := o.effects ++ [.log (.decodeFailed channel.peer)], result := .ok none }
  | .ok (some p) =>
    match p.message? with
    | some text => { o with effects := o.effects ++ [.publish text] }
    | none => { o with result := .error .unwritable }
  | _ => o

end Telematics.Terminal
