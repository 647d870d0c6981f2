import Telematics.Binary64.Basic
import Telematics.Numeral.Integer

namespace Telematics.Binary64

open Numeral

def dropSeparators? (before : Char) : List Char → Option (List Char)
  | [] => some []
  | '_' :: c :: r =>
    if before.isDigit && c.isDigit then (dropSeparators? c r).map (c :: ·) else none
  | ['_'] => none
  | c :: r => (dropSeparators? c r).map (c :: ·)

def digitsValue (ds : List Char) : Nat :=
  ds.foldl (fun n c => n * 10 + (c.toNat - 0x30)) 0

def exponent? : List Char → Option Int
  | [] => some 0
  | c :: r =>
    let (negative, ds) := splitSign r
    if (c = 'e' || c = 'E') && !ds.isEmpty && ds.all Char.isDigit then
      some (withSign negative (digitsValue ds))
    else none

/-- Exponents beyond which every numeral of `size` digits is infinite or zero are cut off there. -/
def cutExponent (size : Nat) (exponent : Int) : Int :=
  max (-(size + 400)) (min 400 exponent)

def unsignedDecimal? (negative : Bool) (s : List Char) : Option Binary64 :=
  let whole := s.takeWhile Char.isDigit
  let (part, rest) := match s.dropWhile Char.isDigit with
    | '.' :: r => (r.takeWhile Char.isDigit, r.dropWhile Char.isDigit)
    | r => ([], r)
  let ds := whole ++ part
  if ds.isEmpty then none
  else (exponent? rest).map fun e =>
    ofDecimal negative (digitsValue ds) (cutExponent ds.length (e - part.length))

def ofText? (text : String) : Option Binary64 :=
  (dropSeparators? ' ' (plain text)).bind fun s =>
    let (negative, body) := splitSign s
    let word := String.ofList (body.map Char.toLower)
    if word = "inf" ∨ word = "infinity" then some (infinity negative)
    else if word = "nan" then some nan
    else unsignedDecimal? negative body

end Telematics.Binary64
