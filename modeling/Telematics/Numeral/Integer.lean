import Telematics.Text.Blank
import Telematics.Text.Digit

/-! Integers as text, in any script and with underscores between digits. -/

namespace Telematics.Numeral

open Text

def digitLimit : Nat := 4300

def plainChar (c : Char) : Char :=
  if c.toNat < 128 then c
  else if isBlank c then ' '
  else match decimalValue? c with
    | some d => hexDigit d
    | none => c

def plain (s : String) : List Char :=
  trimOf isAsciiBlank (s.toList.map plainChar)

def splitSign : List Char → Bool × List Char
  | '-' :: r => (true, r)
  | '+' :: r => (false, r)
  | s => (false, s)

def digitRun? (radix : Nat) : List Char → Option (List Nat)
  | [] => none
  | [c] => (digitValue? radix c).map fun d => [d]
  | c :: '_' :: r => do
    let d ← digitValue? radix c
    let ds ← digitRun? radix r
    some (d :: ds)
  | c :: x :: r => do
    let d ← digitValue? radix c
    let ds ← digitRun? radix (x :: r)
    some (d :: ds)

def isRadixMark (radix : Nat) (c : Char) : Bool :=
  (radix = 16 && (c = 'x' || c = 'X')) || (radix = 2 && (c = 'b' || c = 'B'))

def dropRadixMark (radix : Nat) : List Char → List Char
  | '0' :: m :: r =>
    if isRadixMark radix m then
      match r with
      | '_' :: s => s
      | _ => r
    else '0' :: m :: r
  | s => s

def ofDigits (radix : Nat) (ds : List Nat) : Nat :=
  ds.foldl (fun n d => n * radix + d) 0

def withSign (negative : Bool) (n : Nat) : Int :=
  if negative then -n else n

def integer? (radix : Nat) (s : String) : Option Int :=
  let (negative, body) := splitSign (plain s)
  (digitRun? radix (dropRadixMark radix body)).bind fun ds =>
    if radix = 10 ∧ digitLimit < ds.length then none
    else some (withSign negative (ofDigits radix ds))

/-- The least number without a decimal text. -/
def textBound : Nat := Nat.pow 10 digitLimit

def text? (n : Int) : Option String :=
  if n.natAbs < textBound then some (toString n) else none

end Telematics.Numeral
