namespace Telematics

structure Session where
  deviceId : Nat
  identifier : String
deriving DecidableEq

structure Registry where
  admitsUnknown : Bool
  identifiers : List String

namespace Registry

def empty (admitsUnknown : Bool) : Registry :=
  ⟨admitsUnknown, []⟩

def size (r : Registry) : Nat :=
  r.identifiers.length

def contains (r : Registry) (identifier : String) : Bool :=
  r.identifiers.contains identifier

def find? (r : Registry) (identifier : String) : Option Session :=
  (r.identifiers.idxOf? identifier).map fun i => ⟨i + 1, identifier⟩

inductive Answer where
  | known (session : Session)
  | registered (session : Session)
  | refused

def Answer.session? : Answer → Option Session
  | known s | registered s => some s
  | refused => none

def add (r : Registry) (identifier : String) : Registry :=
  { r with identifiers := r.identifiers ++ [identifier] }

def register (r : Registry) (identifier : String) : Registry × Answer :=
  match r.find? identifier with
  | some s => (r, .known s)
  | none => (r.add identifier, .registered ⟨r.size + 1, identifier⟩)

def resolve (r : Registry) (identifier : String) : Registry × Answer :=
  match r.find? identifier with
  | some s => (r, .known s)
  | none => if r.admitsUnknown then r.register identifier else (r, .refused)

def ofList (admitsUnknown : Bool) (identifiers : List String) : Registry × List Answer :=
  identifiers.foldl (fun (r, answers) i =>
    let (r, a) := r.register i
    (r, answers ++ [a])) (empty admitsUnknown, [])

end Registry

end Telematics
