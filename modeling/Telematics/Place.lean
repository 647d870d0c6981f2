import Telematics.Points

namespace Telematics

/-- The bytes of a name. A code point that has no bytes leaves a gap among them. -/
abbrev FileName := List (Option UInt8)

/-- Some surrogates stand for a byte that is not part of a text. The others have no bytes. -/
def CodePoint.fileBytes (p : CodePoint) : FileName :=
  if 0xdc80 ≤ p.val ∧ p.val ≤ 0xdcff then [some (.ofNat (p.val - 0xdc00))]
  else if Points.isSurrogate p then [none]
  else (String.utf8EncodeChar (.ofNat p.val)).map some

def Points.fileName (s : Points) : FileName :=
  s.flatMap CodePoint.fileBytes

instance : Coe String FileName where
  coe s := Points.fileName s

structure Place where
  /-- The number of names. It is compared first, which tells most places apart at once. -/
  depth : Nat
  names : List FileName
  depth_eq : depth = names.length
deriving DecidableEq

namespace Place

def root : Place := ⟨0, [], rfl⟩

def enter (p : Place) (name : FileName) : Place :=
  ⟨p.depth + 1, name :: p.names, congrArg (· + 1) p.depth_eq⟩

def up (p : Place) : Place :=
  ⟨p.depth - 1, p.names.tail, by simp [p.depth_eq]⟩

def work : Place := (root.enter "home").enter "telematics"

end Place

end Telematics
