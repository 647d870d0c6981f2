import Telematics.Binary64.Basic

/-! The shortest decimal text that reads back as the same number. -/

namespace Telematics.Binary64

structure Decimal where
  coefficient : Nat
  exponent : Int

def gridScale (exponent : Int) : Nat × Nat :=
  if 0 ≤ exponent then (1, unitsInOne * Nat.pow 10 exponent.toNat)
  else (Nat.pow 10 (-exponent).toNat, unitsInOne)

/-- Whether a point of a decimal grid rounds to the step. The ends of the interval are half way to
the neighboring steps and belong to it if the step is even. -/
def roundsTo (step : Nat) (scale : Nat × Nat) (point : Nat) : Bool :=
  let low := (units (step - 1) + units step) * scale.1
  let high := (units step + units (step + 1)) * scale.1
  let x := 2 * point * scale.2
  if step % 2 = 0 then low ≤ x && x ≤ high else low < x && x < high

def gridPoint? (step : Nat) (exponent : Int) : Option Nat :=
  let scale := gridScale exponent
  let num := units step * scale.1
  let below := num / scale.2
  match roundsTo step scale below, roundsTo step scale (below + 1) with
  | true, true => some (roundHalfEven num scale.2)
  | true, false => some below
  | false, true => some (below + 1)
  | false, false => none

def coarsest (step : Nat) : Nat → Int → Decimal
  | 0, exponent => ⟨units step * (gridScale exponent).1 / (gridScale exponent).2, exponent⟩
  | more + 1, exponent =>
    match gridPoint? step exponent with
    | some point => ⟨point, exponent⟩
    | none => coarsest step more (exponent - 1)

def topExponent (step : Nat) : Int :=
  ((units step).log2 - 1073 : Int) * 30103 / 100000 + 1

def shortest (step : Nat) : Decimal :=
  coarsest step 20 (topExponent step)

structure Words where
  infinity : String
  nan : String

def plainWords : Words := ⟨"inf", "nan"⟩

def isPositional (exponent : Int) : Bool :=
  -4 ≤ exponent && exponent < 16

def zeros (n : Nat) : List Char :=
  List.replicate n '0'

def positional (ds : List Char) (exponent : Int) : List Char :=
  let head := ds.length + exponent
  if 0 ≤ exponent then ds ++ zeros exponent.toNat ++ ['.', '0']
  else if 0 < head then ds.take head.toNat ++ '.' :: ds.drop head.toNat
  else '0' :: '.' :: zeros (-head).toNat ++ ds

def exponentText (exponent : Int) : List Char :=
  let ds := (toString exponent.natAbs).toList
  let sign := if exponent < 0 then '-' else '+'
  'e' :: sign :: (if ds.length < 2 then '0' :: ds else ds)

def scientific (ds : List Char) (exponent : Int) : List Char :=
  match ds with
  | d :: [] => d :: exponentText exponent
  | d :: r => d :: '.' :: r ++ exponentText exponent
  | [] => []

def Decimal.text (x : Decimal) : List Char :=
  let ds := (toString x.coefficient).toList
  let top := x.exponent + ds.length - 1
  if isPositional top then positional ds x.exponent else scientific ds top

def magnitudeText (words : Words) (step : Nat) : List Char :=
  if step = 0 then ['0', '.', '0']
  else if step < infinityStep then (shortest step).text
  else words.infinity.toList

def textWith (words : Words) : Binary64 → String
  | nan => words.nan
  | number negative step =>
    let body := magnitudeText words step
    String.ofList (if negative then '-' :: body else body)

def text (x : Binary64) : String :=
  x.textWith plainWords

end Telematics.Binary64
