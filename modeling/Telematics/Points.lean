/-! Texts as code points. A surrogate is a code point, though it is no character. -/

namespace Telematics

abbrev CodePoint := Fin 0x110000

abbrev Points := List CodePoint

def CodePoint.ofChar (c : Char) : CodePoint :=
  ⟨c.toNat, c.valid.elim (fun low => Nat.lt_trans low (by decide)) And.right⟩

namespace Points

def ofString (s : String) : Points :=
  s.toList.map CodePoint.ofChar

instance : Coe String Points where
  coe := ofString

theorem ofChar_injective {c d : Char} (h : CodePoint.ofChar c = CodePoint.ofChar d) : c = d := by
  have values := congrArg (fun p : CodePoint => p.val) h
  exact Char.toNat_inj.1 values

@[simp]
theorem ofString_inj {s t : String} : ofString s = ofString t ↔ s = t := by
  refine ⟨fun h => String.toList_inj.1 ?_, congrArg ofString⟩
  exact (List.map_inj_right fun _ _ => ofChar_injective).1 h

def isSurrogate (p : CodePoint) : Bool :=
  0xd800 ≤ p.val && p.val < 0xe000

def string? (s : Points) : Option String :=
  if s.any isSurrogate then none else some (.ofList (s.map fun p => .ofNat p.val))

end Points

end Telematics
