import Telematics.Binary64.Numeral
import Telematics.Text.Quoted
import Telematics.Timestamp

namespace Telematics

inductive Reason where
  | binaryDigits
  | aboveLimit (degrees : Nat)
  | tokenCount (expected : Nat)
  | calendar (defect : Timestamp.Defect)
deriving DecidableEq

def Reason.message : Reason → String
  | binaryDigits => "expected binary digits"
  | aboveLimit degrees => "exceeds " ++ toString degrees ++ ".0 degrees"
  | tokenCount expected => "expected " ++ toString expected ++ " tokens"
  | calendar defect => defect.message

structure ConversionError where
  field : String
  token : Option String
  reason : Option Reason
deriving DecidableEq

def ConversionError.message (e : ConversionError) : String :=
  let text := "cannot convert " ++ e.field ++ " from " ++ Text.quotedToken e.token
  match e.reason with
  | none => text
  | some reason => text ++ ": " ++ reason.message

namespace Field

abbrev Result := Except ConversionError

def refuse (name : String) (token : Option String) (reason : Reason) : Result α :=
  .error ⟨name, token, some reason⟩

def convert (read : String → Option α) (name : String) (token : Option String) : Result α :=
  match token.bind read with
  | some a => .ok a
  | none => .error ⟨name, token, none⟩

def integer : String → Option String → Result Int :=
  convert (Numeral.integer? 10)

def hexadecimal : String → Option String → Result Int :=
  convert (Numeral.integer? 16)

def decimal : String → Option String → Result Binary64 :=
  convert Binary64.ofText?

def binary (name : String) (token : Option String) : Result Int :=
  match (token.getD "").toList with
  | [] | '-' :: _ | '+' :: _ => refuse name token .binaryDigits
  | _ => convert (Numeral.integer? 2) name token

def flag (name : String) (token : Option String) : Result Bool :=
  (integer name token).map fun n => 0 < n

def degrees (name negative : String) (limit : Nat) (token hemisphere : Option String) :
    Result Binary64 := do
  let x ← decimal name token
  if x.exceeds limit then refuse name token (.aboveLimit limit)
  else if hemisphere = some negative then return -x
  else return x

def latitude : Option String → Option String → Result Binary64 :=
  degrees "latitude" "S" 90

def longitude : Option String → Option String → Result Binary64 :=
  degrees "longitude" "W" 180

def knotsFactor : Binary64 :=
  .ofDecimal false 539996 (-6)

def knots (speed : Binary64) : Binary64 :=
  speed * knotsFactor

inductive TimeError where
  | conversion (e : ConversionError)
  | tooLarge
deriving DecidableEq

def fitsWord (n : Int) : Bool :=
  -0x80000000 ≤ n && n < 0x80000000

/-- Years of two characters count from 2000. -/
def fullYear (token : Option String) (year : Int) : Int :=
  if (token.getD "").length = 2 then year + 2000 else year

def part (name : String) (token : Option String) : Except TimeError Int :=
  (integer name token).mapError .conversion

def time (day month year hour minute second : Option String) : Except TimeError Timestamp := do
  let y := fullYear year (← part "year" year)
  let mo ← part "month" month
  let d ← part "day" day
  let h ← part "hour" hour
  let mi ← part "minute" minute
  let s ← part "second" second
  unless [y, mo, d, h, mi, s].all fitsWord do throw .tooLarge
  match Timestamp.ofParts y mo d h mi s with
  | .ok t => return t
  | .error defect =>
    let token := String.join ([day, month, year, some " ", hour, minute, second].map (·.getD ""))
    throw (.conversion ⟨"time", some token, some (.calendar defect)⟩)

end Field

end Telematics
