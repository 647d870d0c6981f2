import Telematics.Text.Quoted

namespace Telematics

inductive Peer.Part where
  | text (value : String)
  | number (value : Int)
  | absent

inductive Peer where
  | unknown
  | name (value : String)
  | address (parts : List Peer.Part)

namespace Peer

def Part.shown : Part → String
  | text value => Text.quoted value
  | number value => toString value
  | absent => Text.absentWord

def tuple : List String → String
  | [part] => "(" ++ part ++ ",)"
  | parts => "(" ++ ", ".intercalate parts ++ ")"

def shown : Peer → String
  | unknown => Text.absentWord
  | name value => value
  | address parts => tuple (parts.map Part.shown)

def ofHost (host : String) (port : Nat) : Peer :=
  address [.text host, .number port]

end Peer

end Telematics
