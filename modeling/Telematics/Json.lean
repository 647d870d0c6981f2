import Telematics.Binary64.Shortest
import Telematics.Numeral.Integer
import Telematics.Points
import Telematics.Text.Digit

/-! JSON values and their text on one line of printable ASCII. -/

namespace Telematics

inductive Json where
  | null
  | bool (value : Bool)
  | int (value : Int)
  | float (value : Binary64)
  | str (value : Points)
  | arr (items : List Json)
  | obj (members : List (String × Json))

namespace Json

def ofOption (f : α → Json) : Option α → Json
  | none => null
  | some a => f a

def unitEscape (n : Nat) : List Char :=
  ['\\', 'u', Text.hexDigit (n / 4096 % 16), Text.hexDigit (n / 256 % 16),
    Text.hexDigit (n / 16 % 16), Text.hexDigit (n % 16)]

def escape (n : Nat) : List Char :=
  if n = '\x22'.toNat then ['\\', '\x22']
  else if n = '\\'.toNat then ['\\', '\\']
  else if n = '\n'.toNat then ['\\', 'n']
  else if n = '\r'.toNat then ['\\', 'r']
  else if n = '\t'.toNat then ['\\', 't']
  else if n = '\x08'.toNat then ['\\', 'b']
  else if n = '\x0c'.toNat then ['\\', 'f']
  else if ' '.toNat ≤ n ∧ n ≤ '~'.toNat then [.ofNat n]
  else if n < 0x10000 then unitEscape n
  else unitEscape (0xd800 + (n - 0x10000) / 0x400) ++ unitEscape (0xdc00 + (n - 0x10000) % 0x400)

def stringChars (s : Points) : List Char :=
  '\x22' :: s.flatMap (fun p => escape p.val) ++ ['\x22']

def numberWords : Binary64.Words := ⟨"Infinity", "NaN"⟩

def separated : List (List Char) → List Char
  | [] => []
  | [p] => p
  | p :: ps => p ++ ',' :: ' ' :: separated ps

mutual

def chars? : Json → Option (List Char)
  | null => some "null".toList
  | bool b => some (if b then "true".toList else "false".toList)
  | int n => (Numeral.text? n).map String.toList
  | float x => some (x.textWith numberWords).toList
  | str s => some (stringChars s)
  | arr items => (itemChars? items).map fun ps => '[' :: separated ps ++ [']']
  | obj members => (memberChars? members).map fun ps => '\x7b' :: separated ps ++ ['\x7d']

def itemChars? : List Json → Option (List (List Char))
  | [] => some []
  | j :: js => do
    let p ← chars? j
    let ps ← itemChars? js
    some (p :: ps)

def memberChars? : List (String × Json) → Option (List (List Char))
  | [] => some []
  | (name, j) :: ms => do
    let p ← chars? j
    let ps ← memberChars? ms
    some ((stringChars name ++ ':' :: ' ' :: p) :: ps)

end

def text? (j : Json) : Option String :=
  j.chars?.map String.ofList

end Json

end Telematics
