import Telematics.Path

/-! Directories and files as a program that keeps a log meets them. -/

namespace Telematics

inductive Device where
  /-- Keeps nothing of what is written to it. -/
  | sink
  | console
deriving DecidableEq

inductive Node (α : Type) where
  | directory
  | file (items : List α)
  | device (d : Device)

structure Storage (α : Type) where
  entries : List (Place × Node α)

namespace Storage

inductive Failure where
  | noBytes
  | nullByte
  | nameTooLong
  | missing
  | notDirectory
  | isDirectory
  | taken
  | tooDeep
deriving DecidableEq

variable {α : Type}

def devices : Place :=
  .enter .root "dev"

def initial : Storage α :=
  ⟨[(.work, .directory), (.up .work, .directory), (devices, .directory),
    (devices.enter "null", .device .sink), (devices.enter "zero", .device .sink),
    (devices.enter "full", .device .sink), (devices.enter "stdout", .device .console)]⟩

def node? (s : Storage α) (p : Place) : Option (Node α) :=
  if p = .root then some .directory else s.entries.lookup p

def put (s : Storage α) (p : Place) (n : Node α) : Storage α :=
  ⟨(p, n) :: s.entries.filter fun e => e.1 != p⟩

theorem node?_put_self {s : Storage α} {p : Place} (h : p ≠ .root) (n : Node α) :
    (s.put p n).node? p = some n := by
  simp [node?, put, h]

theorem node?_put_of_ne {s : Storage α} {p q : Place} (h : q ≠ p) (n : Node α) :
    (s.put p n).node? q = s.node? q := by
  by_cases hq : q = .root
  · simp [node?, hq]
  · simp only [node?, hq, put, ↓reduceIte, List.lookup_cons, beq_eq_false_iff_ne.2 h]
    induction s.entries with
    | nil => rfl
    | cons e r ih =>
      obtain ⟨a, b⟩ := e
      by_cases ha : a = p
      · simp [ha, ih, List.lookup_cons, beq_eq_false_iff_ne.2 h]
      · simp [ha, ih, List.lookup_cons]

def hasDirectory (s : Storage α) (p : Place) : Bool :=
  match s.node? p with
  | some .directory => true
  | _ => false

def isConsole (s : Storage α) (p : Place) : Bool :=
  match s.node? p with
  | some (.device .console) => true
  | _ => false

def nameLimit : Nat := 255

def pathLimit : Nat := 4095

def depthLimit : Nat := 985

def follow (s : Storage α) (here : Place) (name : FileName) : Except Failure Place :=
  if !s.hasDirectory here then .error .notDirectory
  else if name = "." then .ok here
  else if name = ".." then .ok here.up
  else if nameLimit < name.length then .error .nameTooLong
  else if (s.node? (here.enter name)).isNone then .error .missing
  else .ok (here.enter name)

def reach (s : Storage α) : Path → Except Failure Place
  | .step up _ name => do s.follow (← s.reach up) name
  | p => .ok p.place

def checkText (p : Path) : Except Failure Unit :=
  if p.hasGap then .error .noBytes
  else if p.hasNull then .error .nullByte
  else if pathLimit < p.size then .error .nameTooLong
  else .ok ()

def locate (s : Storage α) (p : Path) : Except Failure Place := do
  checkText p
  s.reach p

def reaches (s : Storage α) (p : Path) : Bool :=
  (s.locate p).toBool

def leadsToDirectory (s : Storage α) (p : Path) : Bool :=
  match s.locate p with
  | .ok here => s.hasDirectory here
  | .error _ => false

def create (s : Storage α) (p : Path) (n : Node α) : Except Failure (Place ⊕ Storage α) := do
  checkText p
  match p with
  | .step up _ name =>
    let here ← s.reach up
    match s.follow here name with
    | .ok place => return .inl place
    | .error .missing => return .inr (s.put (here.enter name) n)
    | .error e => throw e
  | _ => return .inl p.place

def makeDirectory (s : Storage α) (p : Path) : Except Failure (Storage α) := do
  match ← s.create p .directory with
  | .inl _ => throw .taken
  | .inr t => return t

def ensureDirectory (s : Storage α) (p : Path) : Storage α × Option Failure :=
  match s.makeDirectory p with
  | .ok t => (t, none)
  | .error e => (s, if s.leadsToDirectory p then none else some e)

/-- Makes the directories along a path, of which at most `depth` are not there. Those made before a
failure stay, and that a name on the way is taken by a file is left to the steps after it. -/
def makeDirectories (s : Storage α) : (depth : Nat) → Path → Storage α × Option Failure
  | 0, _ => (s, some .tooDeep)
  | depth + 1, p =>
    match p with
    | .work => (s, none)
    | .root _ | .step .work _ _ => s.ensureDirectory p
    | .step up _ name =>
      if s.reaches up then s.ensureDirectory p
      else match s.makeDirectories depth up with
        | (t, none) | (t, some .taken) =>
          if name = "." then (t, none) else t.ensureDirectory p
        | (t, some e) => (t, some e)

def prepare (s : Storage α) (text : Points) : Except Failure (Storage α) :=
  match Path.directory? text with
  | none => .ok s
  | some p => match s.makeDirectories depthLimit p with
    | (t, none) => .ok t
    | (_, some e) => .error e

def openPlace (s : Storage α) (p : Place) : Except Failure (Storage α) := do
  match ← s.create (.ofPlace p) (.file []) with
  | .inl place => if s.hasDirectory place then throw .isDirectory else return s
  | .inr t => return t

def openFile (s : Storage α) (text : Points) : Except Failure (Storage α × Place) := do
  let s ← s.prepare text
  let place := (Path.ofText text).place
  return (← s.openPlace place, place)

def items (s : Storage α) (p : Place) : List α :=
  match s.node? p with
  | some (.file items) => items
  | _ => []

def readFile (s : Storage α) (text : Points) : Except Failure (List α) := do
  if pathLimit < text.fileName.length then throw .nameTooLong
  let place ← s.locate (.ofText text)
  if s.hasDirectory place then throw .isDirectory
  return s.items place

def append (s : Storage α) (p : Place) (more : List α) : Storage α :=
  match s.node? p with
  | some (.file items) => s.put p (.file (items ++ more))
  | _ => s

theorem items_append_of_ne {s : Storage α} {p q : Place} (h : q ≠ p) (more : List α) :
    (s.append p more).items q = s.items q := by
  have hq : (s.append p more).node? q = s.node? q := by
    simp only [append]
    split
    · exact node?_put_of_ne h _
    · rfl
  simp only [items, hq]

end Storage

end Telematics
