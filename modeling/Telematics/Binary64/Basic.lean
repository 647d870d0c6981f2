/-! Floating-point numbers of 64 bits as steps from zero, with exact arithmetic. -/

namespace Telematics

namespace Binary64

def binade : Nat := Nat.pow 2 52

def infinityStep : Nat := 2047 * binade

def unitsInOne : Nat := Nat.pow 2 1074

end Binary64

inductive Binary64 where
  | nan
  | number (negative : Bool) (step : Fin (Binary64.infinityStep + 1))
deriving DecidableEq

namespace Binary64

/-- The magnitude of a step in units of two to the power of -1074. -/
def units (step : Nat) : Nat :=
  if step < binade then step
  else (binade + step % binade) * Nat.pow 2 (step / binade - 1)

def roundHalfEven (num den : Nat) : Nat :=
  let q := num / den
  let r := num % den
  if 2 * r < den then q
  else if den < 2 * r then q + 1
  else if q % 2 = 0 then q else q + 1

def nearestStep (num den : Nat) : Fin (infinityStep + 1) :=
  let e := (num / den).log2 - 52
  ⟨min infinityStep (e * binade + roundHalfEven num (den * Nat.pow 2 e)),
    Nat.lt_succ_of_le (Nat.min_le_left _ _)⟩

def ofRatio (negative : Bool) (num den : Nat) : Binary64 :=
  .number negative (nearestStep (num * unitsInOne) den)

def ofDecimal (negative : Bool) (coefficient : Nat) (exponent : Int) : Binary64 :=
  if 0 ≤ exponent then ofRatio negative (coefficient * Nat.pow 10 exponent.toNat) 1
  else ofRatio negative coefficient (Nat.pow 10 (-exponent).toNat)

def infinity (negative : Bool) : Binary64 :=
  .number negative ⟨infinityStep, Nat.lt_succ_self _⟩

def isFinite : Binary64 → Bool
  | nan => false
  | number _ step => step.val < infinityStep

protected def neg : Binary64 → Binary64
  | nan => nan
  | number negative step => number (!negative) step

instance : Neg Binary64 := ⟨Binary64.neg⟩

protected def mul : Binary64 → Binary64 → Binary64
  | number s a, number t b =>
    if a.val = infinityStep ∨ b.val = infinityStep then
      if a.val = 0 ∨ b.val = 0 then nan else infinity (s != t)
    else number (s != t) (nearestStep (units a * units b) unitsInOne)
  | _, _ => nan

instance : Mul Binary64 := ⟨Binary64.mul⟩

def floor? : Binary64 → Option Int
  | nan => none
  | number negative step =>
    if step.val = infinityStep then none
    else some ((if negative then -(units step : Int) else units step) / unitsInOne)

def exceeds (x : Binary64) (limit : Nat) : Bool :=
  match x with
  | nan | number true _ => false
  | number false step => limit * unitsInOne < units step

end Binary64

end Telematics
