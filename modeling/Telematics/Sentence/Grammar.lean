import Telematics.Sentence.Pattern
import Telematics.Text.Digit

/-! The sentence grammar of the vehicle terminals. -/

namespace Telematics.Sentence.Grammar

open Pattern Text

def literal (c : Char) : Pattern :=
  one (· = c)

def oneOf (cs : List Char) : Pattern :=
  one cs.contains

def comma : Pattern :=
  literal ','

def inField (c : Char) : Bool :=
  c ≠ ','

def ignored (p : Pattern) : Pattern :=
  p ++ comma

def kept (p : Pattern) : Pattern :=
  slot p ++ comma

def digits : Pattern :=
  several isDecimalDigit

def fixedDigits (n : Nat) : Pattern :=
  times n (one isDecimalDigit)

def fraction : Pattern :=
  digits ++ literal '.' ++ digits

def decimal : Pattern :=
  digits ++ optional (literal '.' ++ many isDecimalDigit)

def twoCharacters : Pattern :=
  times 2 (one (· ≠ '\n'))

def bit : Pattern :=
  oneOf ['0', '1']

def hexGroup : Pattern :=
  several isHexDigit ++ comma

def signedHexGroup : Pattern :=
  optional (literal '-') ++ hexGroup

def opening : Pattern :=
  many (· ≠ '$') ++ literal '$' ++ optional comma ++ ignored (several inField)

def telemetryHeader : Pattern :=
  ignored (several inField) ++ ignored (several inField) ++ kept twoCharacters ++ kept digits ++
    kept (oneOf ['L', 'H'])

def header : Pattern :=
  telemetryHeader <|> kept (several inField)

def identity : Pattern :=
  kept twoCharacters <|> ignored (many inField) ++ kept bit

def date : Pattern :=
  slot (fixedDigits 2) ++ optional comma ++ slot (fixedDigits 2) ++ optional comma ++
    kept (fixedDigits 4 <|> fixedDigits 2)

def timeOfDay : Pattern :=
  slot (fixedDigits 2) ++ optional comma ++ slot (fixedDigits 2) ++ optional comma ++
    kept (fixedDigits 2)

def fix : Pattern :=
  optional (kept (oneOf ['A', 'V'])) ++ kept fraction ++ kept (oneOf ['N', 'S']) ++ kept fraction ++
    kept (oneOf ['E', 'W'])

def analog : Pattern :=
  ignored digits ++ kept fraction ++ kept fraction

def cells : Pattern :=
  times 5 hexGroup ++ times 12 signedHexGroup

def extended : Pattern :=
  kept decimal ++ ignored decimal ++ ignored decimal ++ ignored (many inField) ++ kept bit ++
    kept bit ++ kept decimal ++ kept decimal ++ kept bit ++ ignored (optional (oneOf ['C', 'O'])) ++
    slot cells ++ kept (times 4 bit) ++ kept (times 2 bit) ++ optional analog

def richTrailer : Pattern :=
  kept decimal ++ kept decimal ++ kept digits ++ optional extended

def simpleTrailer : Pattern :=
  kept (optional (literal '-') ++ fraction) ++ kept fraction

def trailer : Pattern :=
  richTrailer <|> simpleTrailer

def sentence : Pattern :=
  opening ++ header ++ kept (fixedDigits 15) ++ identity ++ date ++ timeOfDay ++ fix ++ trailer

theorem width_sentence : sentence.width = 34 := by
  rfl

end Telematics.Sentence.Grammar
