import Mathlib.Algebra.GroupWithZero.Nat
import Mathlib.Data.List.DropRight
import Mathlib.Data.List.SplitLengths
import Telematics.Proofs.Sentence.Blocks
import Telematics.Proofs.Text

namespace Telematics.Sentence

variable {slots other : List Slot} {i j k m n : Nat}

def Block.slot (b : Block n) (i : Nat) : Slot :=
  b.toList.getD i none

lemma Block.getElem_eq (b : Block n) (h : i < n) : b[i] = b.slot i := by
  simp [Block.slot, h]

def Block.at (n : Nat) (slots : List Slot) (k : Nat) : Block n :=
  Vector.ofFn fun i => slots.getD (k + i) none

lemma Block.toList_at (h : k + n ≤ slots.length) :
    (Block.at n slots k).toList = (slots.drop k).take n := by
  apply List.ext_getElem
  · rw [Vector.length_toList, List.length_take, List.length_drop]
    omega
  · intro i hi hi'
    rw [Vector.length_toList] at hi
    have inside : k + i < slots.length := by omega
    simp [Block.at, inside]

lemma getElem?_at (hi : i < n) (inside : k + i < slots.length) :
    slots[k + i]? = some ((Block.at n slots k).slot i) := by
  rw [← Block.getElem_eq _ hi]
  simp [Block.at, inside]

def Header.tag (telemetry : Block 3) (kind : Block 1) : Header :=
  if (telemetry.slot 0).isSome then
    .telemetry (telemetry.slot 0) (telemetry.slot 1) (telemetry.slot 2)
  else .kind (kind.slot 0)

lemma Header.tag_of_absent {b : Block 3} (h : b.slot 0 = none) (kind : Block 1) :
    Header.tag b kind = .kind (kind.slot 0) := by
  rw [Header.tag, h]
  rfl

def Identity.tag (status validity : Block 1) : Identity :=
  if (status.slot 0).isSome then .status (status.slot 0) else .validity (validity.slot 0)

def Analog.tag (b : Block 2) : Option Analog :=
  if (b.slot 0).isSome then some ⟨b.slot 0, b.slot 1⟩ else none

lemma Analog.tag_of_absent {b : Block 2} (h : b.slot 0 = none) : Analog.tag b = none := by
  rw [Analog.tag, h]
  rfl

def cellTexts (cells : String) : List String :=
  ((cells.toList.rdropWhile (· = ',')).splitOn ',').map String.ofList

lemma splitCells_eq (cells : String) : Walk.splitCells cells = cellTexts cells := by
  rw [Walk.splitCells, Text.fields_eq_splitOn]
  rfl

def Extended.tag (b : Block 9) (analog : Block 2) : Option Extended :=
  if (b.slot 0).isSome then some {
    altitude := b.slot 0, ignition := b.slot 1, charge := b.slot 2, power := b.slot 3
    battery := b.slot 4, emergency := b.slot 5, cells := cellTexts ((b.slot 6).getD "")
    inputs := b.slot 7, outputs := b.slot 8, analog := Analog.tag analog }
  else none

lemma Extended.tag_of_absent {b : Block 9} (h : b.slot 0 = none) (analog : Block 2) :
    Extended.tag b analog = none := by
  rw [Extended.tag, h]
  rfl

def Trailer.tag (rich : Block 3) (extended : Option Extended) (simple : Block 2) : Trailer :=
  if (rich.slot 0).isSome then .rich (rich.slot 0) (rich.slot 1) (rich.slot 2) extended
  else .simple (simple.slot 0) (simple.slot 1)

lemma Trailer.tag_of_absent {b : Block 3} (h : b.slot 0 = none) (extended : Option Extended)
    (simple : Block 2) :
    Trailer.tag b extended simple = .simple (simple.slot 0) (simple.slot 1) := by
  rw [Trailer.tag, h]
  rfl

lemma Trailer.tag_of_present {b : Block 3} (h : b.slot 0 ≠ none) (extended : Option Extended)
    (simple : Block 2) :
    Trailer.tag b extended simple = .rich (b.slot 0) (b.slot 1) (b.slot 2) extended := by
  rw [Trailer.tag, if_pos (Option.isSome_iff_ne_none.2 h)]

namespace Blocks

def widths : List Nat :=
  [3, 1, 1, 1, 1, 3, 3, 1, 2, 2, 3, 9, 2, 2]

def cut (slots : List Slot) : Blocks where
  telemetry := Block.at 3 slots 0
  kind := Block.at 1 slots 3
  imei := Block.at 1 slots 4
  status := Block.at 1 slots 5
  validity := Block.at 1 slots 6
  date := Block.at 3 slots 7
  time := Block.at 3 slots 10
  letter := Block.at 1 slots 13
  latitude := Block.at 2 slots 14
  longitude := Block.at 2 slots 16
  rich := Block.at 3 slots 18
  extended := Block.at 9 slots 21
  analog := Block.at 2 slots 30
  simple := Block.at 2 slots 32

lemma slots_cut (h : slots.length = 34) : (cut slots).slots = slots := by
  have pieces : (cut slots).slots = (widths.splitLengths slots).flatten := by
    simp [Blocks.slots, cut, widths, Block.toList_at, h]
  rw [pieces, List.flatten_splitLengths slots widths h.le]

def report (b : Blocks) : Report where
  slots := b.slots
  header := .tag b.telemetry b.kind
  imei := b.imei.slot 0
  identity := .tag b.status b.validity
  day := b.date.slot 0
  month := b.date.slot 1
  year := b.date.slot 2
  hour := b.time.slot 0
  minute := b.time.slot 1
  second := b.time.slot 2
  validity := b.letter.slot 0
  latitude := (b.latitude.slot 0, b.latitude.slot 1)
  longitude := (b.longitude.slot 0, b.longitude.slot 1)
  trailer := .tag b.rich (Extended.tag b.extended b.analog) b.simple

end Blocks

def EitherFilled (slots : List Slot) (i j : Nat) : Prop :=
  ¬ (slots[i]? = some none ∧ slots[j]? = some none)

lemma EitherFilled.first (h : EitherFilled slots i j) (hm : 0 < m) (hn : 0 < n)
    (hi : i < slots.length) (hj : j < slots.length) :
    ¬ ((Block.at m slots i).slot 0 = none ∧ (Block.at n slots j).slot 0 = none) := by
  rintro ⟨absent, absent'⟩
  apply h
  constructor
  · exact absent ▸ getElem?_at hm hi
  · exact absent' ▸ getElem?_at hn hj

/-- As far as a list of slots reaches, one of any two alternatives is there, and there are cells if
the block is there that they belong to. -/
structure Resolvable (slots : List Slot) : Prop where
  header : EitherFilled slots 0 3
  identity : EitherFilled slots 5 6
  trailer : EitherFilled slots 18 32
  cells : ∀ altitude, slots[21]? = some (some altitude) → slots[27]? ≠ some none

/-- A block that is the same both times or that is absent both times. -/
def Block.Alike (b d : Block (n + 1)) : Prop :=
  b = d ∨ b.slot 0 = none ∧ d.slot 0 = none

lemma Block.Alike.first {b d : Block (n + 1)} (h : b.Alike d) : b.slot 0 = d.slot 0 := by
  obtain rfl | ⟨absent, absent'⟩ := h
  · rfl
  · rw [absent, absent']

lemma Block.Alike.getElem? (h : Block.Alike (Block.at (n + 1) slots k) (Block.at (n + 1) other k))
    (inside : k < slots.length) (inside' : k < other.length) : other[k]? = slots[k]? := by
  have first : slots[k]? = some _ := getElem?_at (Nat.succ_pos n) inside
  have first' : other[k]? = some _ := getElem?_at (Nat.succ_pos n) inside'
  rw [first, first', h.first]

structure Blocks.Alike (b c : Blocks) : Prop where
  telemetry : Block.Alike b.telemetry c.telemetry
  rich : Block.Alike b.rich c.rich
  extended : Block.Alike b.extended c.extended
  analog : Block.Alike b.analog c.analog
  simple : Block.Alike b.simple c.simple
  others : c = { b with
    telemetry := c.telemetry, rich := c.rich, extended := c.extended, analog := c.analog
    simple := c.simple }

namespace Blocks.Alike

variable {b c : Blocks}

lemma tag_header (h : b.Alike c) :
    Header.tag b.telemetry b.kind = Header.tag c.telemetry b.kind := by
  obtain same | ⟨absent, absent'⟩ := h.telemetry
  · rw [same]
  · rw [Header.tag_of_absent absent, Header.tag_of_absent absent']

lemma tag_analog (h : b.Alike c) : Analog.tag b.analog = Analog.tag c.analog := by
  obtain same | ⟨absent, absent'⟩ := h.analog
  · rw [same]
  · rw [Analog.tag_of_absent absent, Analog.tag_of_absent absent']

lemma tag_extended (h : b.Alike c) :
    Extended.tag b.extended b.analog = Extended.tag c.extended c.analog := by
  obtain same | ⟨absent, absent'⟩ := h.extended
  · rw [Extended.tag, Extended.tag, same, h.tag_analog]
  · rw [Extended.tag_of_absent absent, Extended.tag_of_absent absent']

lemma tag_trailer (h : b.Alike c) (present : ¬ (b.rich.slot 0 = none ∧ b.simple.slot 0 = none))
    (extended : Option Extended) :
    Trailer.tag b.rich extended b.simple = Trailer.tag c.rich extended c.simple := by
  obtain same | ⟨absent, absent'⟩ := h.rich
  · obtain simple | ⟨blank, -⟩ := h.simple
    · rw [same, simple]
    · have filled : b.rich.slot 0 ≠ none := fun empty => present ⟨empty, blank⟩
      rw [← same, Trailer.tag_of_present filled, Trailer.tag_of_present filled]
  · obtain simple | ⟨blank, -⟩ := h.simple
    · rw [Trailer.tag_of_absent absent, Trailer.tag_of_absent absent', simple]
    · exact absurd ⟨absent, blank⟩ present

lemma report_eq (h : b.Alike c) (present : ¬ (b.rich.slot 0 = none ∧ b.simple.slot 0 = none)) :
    c.report = { b.report with slots := c.slots } := by
  have trailer := h.tag_trailer present (Extended.tag b.extended b.analog)
  have slots := congrArg Blocks.slots h.others
  rw [h.tag_extended] at trailer
  rw [congrArg Blocks.report h.others]
  simp only [Blocks.report, h.tag_header, trailer, h.tag_extended, ← slots]

lemma resolvable (alike : (cut slots).Alike (cut other)) (length : slots.length = 34)
    (length' : other.length = 34) (h : Resolvable slots) : Resolvable other := by
  have kind : other[3]? = slots[3]? :=
    Block.Alike.getElem? (.inl (congrArg kind alike.others).symm) (by omega) (by omega)
  have status : other[5]? = slots[5]? :=
    Block.Alike.getElem? (.inl (congrArg status alike.others).symm) (by omega) (by omega)
  have validity : other[6]? = slots[6]? :=
    Block.Alike.getElem? (.inl (congrArg validity alike.others).symm) (by omega) (by omega)
  have telemetry := alike.telemetry.getElem? (by omega) (by omega)
  have rich := alike.rich.getElem? (by omega) (by omega)
  have extended := alike.extended.getElem? (by omega) (by omega)
  have simple := alike.simple.getElem? (by omega) (by omega)
  constructor
  · rw [EitherFilled, telemetry, kind]
    exact h.header
  · rw [EitherFilled, status, validity]
    exact h.identity
  · rw [EitherFilled, rich, simple]
    exact h.trailer
  · intro altitude present
    obtain same | ⟨-, absent⟩ := alike.extended
    · have cells : slots[21 + 6]? = some ((cut slots).extended.slot 6) :=
        getElem?_at (by decide) (by omega)
      have cells' : other[21 + 6]? = some ((cut other).extended.slot 6) :=
        getElem?_at (by decide) (by omega)
      rw [extended] at present
      rw [cells', ← same, ← cells]
      exact h.cells altitude present
    · have first : other[21]? = some ((cut other).extended.slot 0) :=
        getElem?_at (i := 0) (n := 9) (by decide) (by omega)
      rw [first, absent] at present
      cases present

end Blocks.Alike

end Telematics.Sentence
