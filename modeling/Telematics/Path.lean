import Telematics.Place
import Telematics.Text.Fields

/-! Paths as they are written. Slashes before a name count for the size of the path only. -/

namespace Telematics

inductive Path where
  | work
  | root (slashes : Nat)
  | step (up : Path) (slashes : Nat) (name : FileName)

namespace Path

def advance (here : Place) (name : FileName) : Place :=
  if name = "." then here else if name = ".." then here.up else here.enter name

def place : Path → Place
  | work => .work
  | root _ => .root
  | step up _ name => advance up.place name

def size : Path → Nat
  | work => 0
  | root slashes => slashes
  | step up slashes name => up.size + slashes + name.length

def names : Path → List FileName
  | work | root _ => []
  | step up _ name => up.names ++ [name]

def hasGap (p : Path) : Bool :=
  p.names.any fun name => name.contains none

def hasNull (p : Path) : Bool :=
  p.names.any fun name => name.contains (some 0)

def descend (p : Path) (slashes : Nat) (name : FileName) : Path :=
  match p, slashes with
  | work, n + 1 => step (root (n + 1)) 0 name
  | p, n => step p n name

/-- A path continued by the fields of a text between its slashes, with the number of slashes before
the next name. Slashes after the last name are left out. -/
def extend : Path → Nat → List FileName → Path
  | work, n + 2, [] => root (n + 1)
  | p, _, [] => p
  | p, slashes, name :: rest =>
    if name = [] then p.extend (slashes + 1) rest
    else (p.descend slashes name).extend 1 rest

def fields (text : Points) : List FileName :=
  (Text.fields (.ofChar '/') text).map Points.fileName

def ofText (text : Points) : Path :=
  work.extend 0 (fields text)

def directory? (text : Points) : Option Path :=
  match fields text with
  | [] | [_] => none
  | fields => some (work.extend 0 (fields.dropLast ++ [[]]))

def ofNames : List FileName → Path
  | [] => root 1
  | [name] => step (root 1) 0 name
  | name :: up => step (ofNames up) 1 name

def ofPlace (p : Place) : Path :=
  ofNames p.names

theorem names_descend (p : Path) (slashes : Nat) (name : FileName) :
    (p.descend slashes name).names = p.names ++ [name] := by
  unfold descend
  split <;> rfl

theorem names_extend (p : Path) (slashes : Nat) (fields : List FileName) :
    (p.extend slashes fields).names = p.names ++ fields.filter (· ≠ []) := by
  induction fields generalizing p slashes with
  | nil => unfold extend; split <;> simp_all [names]
  | cons name rest ih =>
    by_cases h : name = [] <;> simp [extend, h, ih, names_descend]

theorem names_ofNames (ns : List FileName) : (ofNames ns).names = ns.reverse := by
  induction ns with
  | nil => rfl
  | cons name up ih =>
    cases up with
    | nil => rfl
    | cons => simp [ofNames, names, ih]

end Path

end Telematics
