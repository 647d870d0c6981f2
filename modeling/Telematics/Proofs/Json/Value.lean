import Telematics.Numeral.Integer
import Telematics.Proofs.Json.Number

/-! What JSON texts denote. -/

namespace Telematics.Json

inductive Value where
  | null
  | bool (value : Bool)
  | int (value : Int)
  | decimal (text : List Char)
  | str (points : List Nat)
  | arr (items : List Value)
  | obj (members : List (List Nat × Value))

def isHigh (n : Nat) : Bool :=
  0xd800 ≤ n && n < 0xdc00

def isLow (n : Nat) : Bool :=
  0xdc00 ≤ n && n < 0xe000

/-- Joins a surrogate pair to the code point that it stands for. -/
def joined : List Nat → List Nat
  | high :: low :: r =>
    if isHigh high && isLow low then
      (0x10000 + (high - 0xd800) * 0x400 + (low - 0xdc00)) :: joined r
    else high :: joined (low :: r)
  | r => r

def escaped? (c : Char) : Option Char :=
  if c = '\x22' ∨ c = '\\' ∨ c = '/' then some c
  else if c = 'b' then some '\x08'
  else if c = 'f' then some '\x0c'
  else if c = 'n' then some '\n'
  else if c = 'r' then some '\r'
  else if c = 't' then some '\t'
  else none

/-- The characters of a string literal and the code units that they spell. -/
inductive Spells : List Char → List Nat → Prop
  | nil : Spells [] []
  | plain {c : Char} {t : List Char} {ns : List Nat} (h : ' ' ≤ c) (hq : c ≠ '\x22')
    (hb : c ≠ '\\') : Spells t ns → Spells (c :: t) (c.toNat :: ns)
  | escape {c d : Char} {t : List Char} {ns : List Nat} (h : escaped? c = some d) :
    Spells t ns → Spells ('\\' :: c :: t) (d.toNat :: ns)
  | unit {a b c d : Char} {i j k l : Nat} {t : List Char} {ns : List Nat}
    (ha : Text.digitValue? 16 a = some i) (hb : Text.digitValue? 16 b = some j)
    (hc : Text.digitValue? 16 c = some k) (hd : Text.digitValue? 16 d = some l) :
    Spells t ns → Spells ('\\' :: 'u' :: a :: b :: c :: d :: t)
      (Numeral.ofDigits 16 [i, j, k, l] :: ns)

inductive Quotes : List Char → List Nat → Prop
  | quoted {t : List Char} {ns : List Nat} (h : Spells t ns) :
    Quotes ('\x22' :: (t ++ ['\x22'])) (joined ns)

structure NamedValue where
  member : Member
  points : List Nat
  value : Value

inductive Denotes : List Char → Value → Prop
  | null : Denotes ['n', 'u', 'l', 'l'] .null
  | true : Denotes ['t', 'r', 'u', 'e'] (.bool .true)
  | false : Denotes ['f', 'a', 'l', 's', 'e'] (.bool .false)
  | integer {t : List Char} (h : Integral t) : Denotes t (.int (Nat.ofDigitChars 10 t 0))
  | negative {t : List Char} (h : Integral t) :
    Denotes ('-' :: t) (.int (-(Nat.ofDigitChars 10 t 0 : Int)))
  | decimal {t : List Char} (h : IsNumber t) (mark : ∃ c ∈ t, c ∈ ['.', 'e', 'E']) :
    Denotes t (.decimal t)
  | string {t : List Char} {points : List Nat} (h : Quotes t points) : Denotes t (.str points)
  | emptyArray {t : List Char} (h : Blanks t) : Denotes ('[' :: (t ++ [']'])) (.arr [])
  | array (items : List (Padded × Value)) (filled : items ≠ [])
    (h : ∀ x ∈ items, Denotes x.1.core x.2) :
    Denotes ('[' :: (commas (items.map (·.1.text)) ++ [']'])) (.arr (items.map (·.2)))
  | emptyObject {t : List Char} (h : Blanks t) :
    Denotes ('\x7b' :: (t ++ ['\x7d'])) (.obj [])
  | object (members : List NamedValue) (filled : members ≠ [])
    (names : ∀ m ∈ members, Quotes m.member.name.core m.points)
    (h : ∀ m ∈ members, Denotes m.member.value.core m.value) :
    Denotes ('\x7b' :: (commas (members.map (·.member.text)) ++ ['\x7d']))
      (.obj (members.map fun m => (m.points, m.value)))

variable {s t : List Char} {ns : List Nat} {v : Value}

lemma isChars_of_spells (h : Spells t ns) : IsChars t := by
  induction h with
  | nil => exact .nil
  | plain h hq hb _ ih => exact .cons (.plain h hq hb) ih
  | @escape c d t ns h _ ih =>
    refine .cons (s := ['\\', c]) (.escape ?_) ih
    rw [escaped?] at h
    split_ifs at h with own
    · obtain rfl | rfl | rfl := own
      · simp
      · simp
      · simp
    all_goals simp_all
  | @unit a b c d i j k l t ns ha hb hc hd _ ih =>
    refine .cons (s := ['\\', 'u', a, b, c, d]) (.unit ?_) ih
    simp [Text.isHexDigit, ha, hb, hc, hd]

lemma isString_of_quotes (h : Quotes t ns) : IsString t := by
  cases h with
  | quoted h => exact .quoted (isChars_of_spells h)

lemma isValue_of_denotes (h : Denotes t v) : IsValue t := by
  induction h with
  | null => exact .null
  | true => exact .true
  | false => exact .false
  | integer h => exact .number (.unsigned (unsigned_integral h))
  | negative h => exact .number (.minus (unsigned_integral h))
  | decimal h => exact .number h
  | string h => exact .string (isString_of_quotes h)
  | emptyArray h => exact .emptyArray h
  | array items filled h ih =>
    have array := IsValue.array (items.map Prod.fst) (by simpa using filled) (by simpa using ih)
    rwa [List.map_map] at array
  | emptyObject h => exact .emptyObject h
  | object members filled names h ih =>
    have object := IsValue.object (members.map NamedValue.member) (by simpa using filled)
      (by
        intro m hm
        obtain ⟨n, hn, rfl⟩ := List.mem_map.1 hm
        exact isString_of_quotes (names n hn))
      (by
        intro m hm
        obtain ⟨n, hn, rfl⟩ := List.mem_map.1 hm
        exact ih n hn)
    rwa [List.map_map] at object

lemma exists_pairs {α β : Type} {P : α → β → Prop} {xs : List α} (h : ∀ x ∈ xs, ∃ y, P x y) :
    ∃ pairs : List (α × β), pairs.map Prod.fst = xs ∧ ∀ p ∈ pairs, P p.1 p.2 := by
  induction xs with
  | nil => exact ⟨[], rfl, by simp⟩
  | cons x xs ih =>
    obtain ⟨y, hy⟩ := h x List.mem_cons_self
    obtain ⟨pairs, rfl, all⟩ := ih fun z hz => h z (List.mem_cons_of_mem x hz)
    exact ⟨(x, y) :: pairs, rfl, List.forall_mem_cons.2 ⟨hy, all⟩⟩

lemma exists_spells_char (hs : IsChar s) (ht : Spells t ns) : ∃ ms, Spells (s ++ t) ms := by
  cases hs with
  | plain h hq hb => exact ⟨_, .plain h hq hb ht⟩
  | @escape c h =>
    have some_char : ∃ d, escaped? c = some d := by
      simp only [List.mem_cons, List.not_mem_nil, or_false] at h
      obtain rfl | rfl | rfl | rfl | rfl | rfl | rfl | rfl := h <;> exact ⟨_, rfl⟩
    obtain ⟨d, hd⟩ := some_char
    exact ⟨_, .escape hd ht⟩
  | unit h =>
    simp only [List.forall_mem_cons, List.not_mem_nil, false_imp_iff, implies_true,
      and_true, Text.isHexDigit, Option.isSome_iff_exists] at h
    obtain ⟨⟨i, hi⟩, ⟨j, hj⟩, ⟨k, hk⟩, ⟨l, hl⟩⟩ := h
    exact ⟨_, .unit hi hj hk hl ht⟩

lemma exists_quotes (h : IsString t) : ∃ ns, Quotes t ns := by
  have spelled {u : List Char} (hu : IsChars u) : ∃ ns, Spells u ns := by
    induction hu with
    | nil => exact ⟨[], .nil⟩
    | cons hs _ ih =>
      obtain ⟨ns, ht⟩ := ih
      exact exists_spells_char hs ht
  cases h with
  | quoted h =>
    obtain ⟨ns, hn⟩ := spelled h
    exact ⟨_, .quoted hn⟩

lemma integral_or_marked (h : Unsigned t) : Integral t ∨ ∃ c ∈ t, c ∈ ['.', 'e', 'E'] := by
  obtain ⟨hi, hf, he⟩ := h
  cases hf with
  | present h => exact .inr ⟨'.', by simp, by simp⟩
  | absent =>
    cases he with
    | absent =>
      rw [List.append_nil, List.append_nil]
      exact .inl hi
    | bare hc h => exact .inr ⟨_, by simp, List.mem_cons_of_mem _ hc⟩
    | signed hc hs h => exact .inr ⟨_, by simp, List.mem_cons_of_mem _ hc⟩

lemma exists_number (h : IsNumber t) : ∃ v, Denotes t v := by
  cases h with
  | unsigned h =>
    obtain integral | mark := integral_or_marked h
    · exact ⟨_, .integer integral⟩
    · exact ⟨_, .decimal (.unsigned h) mark⟩
  | minus h =>
    obtain integral | ⟨c, hc, mark⟩ := integral_or_marked h
    · exact ⟨_, .negative integral⟩
    · exact ⟨_, .decimal (.minus h) ⟨c, List.mem_cons_of_mem _ hc, mark⟩⟩

theorem isValue_iff : IsValue t ↔ ∃ v, Denotes t v := by
  refine ⟨fun h => ?_, fun ⟨v, h⟩ => isValue_of_denotes h⟩
  induction h with
  | null => exact ⟨_, .null⟩
  | true => exact ⟨_, .true⟩
  | false => exact ⟨_, .false⟩
  | number h => exact exists_number h
  | string h =>
    obtain ⟨ns, hn⟩ := exists_quotes h
    exact ⟨_, .string hn⟩
  | emptyArray h => exact ⟨_, .emptyArray h⟩
  | array items filled h ih =>
    obtain ⟨pairs, rfl, all⟩ := exists_pairs ih
    rw [List.map_map]
    exact ⟨_, .array pairs (by simpa using filled) all⟩
  | emptyObject h => exact ⟨_, .emptyObject h⟩
  | object members filled names h ih =>
    have both : ∀ m ∈ members, ∃ x : List Nat × Value,
        Quotes m.name.core x.1 ∧ Denotes m.value.core x.2 := by
      intro m hm
      obtain ⟨ns, hn⟩ := exists_quotes (names m hm)
      obtain ⟨v, hv⟩ := ih m hm
      exact ⟨(ns, v), hn, hv⟩
    obtain ⟨pairs, rfl, all⟩ := exists_pairs both
    rw [List.map_map]
    have object := Denotes.object (pairs.map fun p => ⟨p.1, p.2.1, p.2.2⟩) (by simpa using filled)
      (by
        intro m hm
        obtain ⟨p, hp, rfl⟩ := List.mem_map.1 hm
        exact (all p hp).1)
      (by
        intro m hm
        obtain ⟨p, hp, rfl⟩ := List.mem_map.1 hm
        exact (all p hp).2)
    rw [List.map_map] at object
    exact ⟨_, object⟩

end Telematics.Json
