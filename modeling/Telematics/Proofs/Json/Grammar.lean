import Mathlib.Tactic.Common
import Telematics.Text.Digit

/-! The grammar of JSON texts, RFC 8259. -/

namespace Telematics.Json

def Blanks (t : List Char) : Prop :=
  ∀ c ∈ t, c ∈ [' ', '\t', '\n', '\r']

def Digits (t : List Char) : Prop :=
  t ≠ [] ∧ ∀ c ∈ t, c.isDigit

def Integral (t : List Char) : Prop :=
  t = ['0'] ∨ ∃ c r, t = c :: r ∧ c.isDigit ∧ c ≠ '0' ∧ ∀ d ∈ r, d.isDigit

inductive IsFraction : List Char → Prop
  | absent : IsFraction []
  | present {t : List Char} (h : Digits t) : IsFraction ('.' :: t)

inductive IsExponent : List Char → Prop
  | absent : IsExponent []
  | bare {c : Char} {t : List Char} (hc : c ∈ ['e', 'E']) (h : Digits t) : IsExponent (c :: t)
  | signed {c sign : Char} {t : List Char} (hc : c ∈ ['e', 'E']) (hs : sign ∈ ['+', '-'])
    (h : Digits t) : IsExponent (c :: sign :: t)

inductive Unsigned : List Char → Prop
  | mk {i f e : List Char} (hi : Integral i) (hf : IsFraction f) (he : IsExponent e) :
    Unsigned (i ++ (f ++ e))

inductive IsNumber : List Char → Prop
  | unsigned {t : List Char} (h : Unsigned t) : IsNumber t
  | minus {t : List Char} (h : Unsigned t) : IsNumber ('-' :: t)

inductive IsChar : List Char → Prop
  | plain {c : Char} (h : ' ' ≤ c) (hq : c ≠ '\x22') (hb : c ≠ '\\') : IsChar [c]
  | escape {c : Char} (h : c ∈ ['\x22', '\\', '/', 'b', 'f', 'n', 'r', 't']) : IsChar ['\\', c]
  | unit {a b c d : Char} (h : ∀ x ∈ [a, b, c, d], Text.isHexDigit x) :
    IsChar ['\\', 'u', a, b, c, d]

inductive IsChars : List Char → Prop
  | nil : IsChars []
  | cons {s t : List Char} (hs : IsChar s) (ht : IsChars t) : IsChars (s ++ t)

inductive IsString : List Char → Prop
  | quoted {t : List Char} (h : IsChars t) : IsString ('\x22' :: (t ++ ['\x22']))

structure Padded where
  before : List Char
  core : List Char
  after : List Char
  before_blank : Blanks before
  after_blank : Blanks after

def Padded.text (p : Padded) : List Char :=
  p.before ++ (p.core ++ p.after)

def commas : List (List Char) → List Char
  | [] => []
  | [p] => p
  | p :: ps => p ++ ',' :: commas ps

structure Member where
  name : Padded
  value : Padded

def Member.text (m : Member) : List Char :=
  m.name.text ++ ':' :: m.value.text

inductive IsValue : List Char → Prop
  | null : IsValue ['n', 'u', 'l', 'l']
  | true : IsValue ['t', 'r', 'u', 'e']
  | false : IsValue ['f', 'a', 'l', 's', 'e']
  | number {t : List Char} (h : IsNumber t) : IsValue t
  | string {t : List Char} (h : IsString t) : IsValue t
  | emptyArray {t : List Char} (h : Blanks t) : IsValue ('[' :: (t ++ [']']))
  | array (items : List Padded) (filled : items ≠ []) (h : ∀ x ∈ items, IsValue x.core) :
    IsValue ('[' :: (commas (items.map Padded.text) ++ [']']))
  | emptyObject {t : List Char} (h : Blanks t) : IsValue ('\x7b' :: (t ++ ['\x7d']))
  | object (members : List Member) (filled : members ≠ [])
      (names : ∀ m ∈ members, IsString m.name.core) (h : ∀ m ∈ members, IsValue m.value.core) :
    IsValue ('\x7b' :: (commas (members.map Member.text) ++ ['\x7d']))

def IsText (t : List Char) : Prop :=
  ∃ p : Padded, IsValue p.core ∧ t = p.text

def IsObject (t : List Char) : Prop :=
  IsText t ∧ t.head? = some '\x7b'

variable {s t : List Char}

inductive Mode where
  | outside
  | inside
  | escaped

/-- What a character does to a scan, which is over at a capital I or N outside of strings. -/
def scan : Option Mode → Char → Option Mode
  | none, _ => none
  | some .outside, c =>
    if c = '\x22' then some .inside
    else if c = 'I' ∨ c = 'N' then none
    else some .outside
  | some .inside, c =>
    if c = '\x22' then some .outside
    else if c = '\\' then some .escaped
    else some .inside
  | some .escaped, _ => some .inside

def Passes (t : List Char) : Prop :=
  t.foldl scan (some .outside) = some .outside

lemma Passes.append (hs : Passes s) (ht : Passes t) : Passes (s ++ t) := by
  rw [Passes, List.foldl_append, hs, ht]

lemma Passes.cons {c : Char} (hc : Passes [c]) (ht : Passes t) : Passes (c :: t) :=
  Passes.append hc ht

lemma passes_of_forall (h : ∀ c ∈ t, Passes [c]) : Passes t := by
  induction t with
  | nil => rfl
  | cons c t ih =>
    exact (h c List.mem_cons_self).cons (ih fun d hd => h d (List.mem_cons_of_mem c hd))

lemma passes_blanks (h : Blanks t) : Passes t := by
  apply passes_of_forall
  intro c hc
  have blank := h c hc
  simp only [List.mem_cons, List.not_mem_nil, or_false] at blank
  obtain rfl | rfl | rfl | rfl := blank <;> rfl

lemma passes_digit {c : Char} (h : c.isDigit) : Passes [c] := by
  have other : c ≠ '\x22' ∧ c ≠ 'I' ∧ c ≠ 'N' := by
    refine ⟨?_, ?_, ?_⟩ <;> rintro rfl <;> exact absurd h (by decide)
  rw [Passes, List.foldl_cons, List.foldl_nil, scan, if_neg other.1, if_neg]
  exact not_or.2 other.2

lemma passes_digits (h : Digits t) : Passes t :=
  passes_of_forall fun c hc => passes_digit (h.2 c hc)

lemma passes_integral (h : Integral t) : Passes t := by
  obtain rfl | ⟨c, r, rfl, hc, -, hr⟩ := h
  · rfl
  · exact (passes_digit hc).cons (passes_of_forall fun d hd => passes_digit (hr d hd))

lemma passes_exponent (h : IsExponent t) : Passes t := by
  have mark {c : Char} (hc : c ∈ ['e', 'E']) : Passes [c] := by
    simp only [List.mem_cons, List.not_mem_nil, or_false] at hc
    obtain rfl | rfl := hc <;> rfl
  have sign {c : Char} (hc : c ∈ ['+', '-']) : Passes [c] := by
    simp only [List.mem_cons, List.not_mem_nil, or_false] at hc
    obtain rfl | rfl := hc <;> rfl
  cases h with
  | absent => rfl
  | bare hc h => exact (mark hc).cons (passes_digits h)
  | signed hc hs h => exact (mark hc).cons ((sign hs).cons (passes_digits h))

lemma passes_unsigned (h : Unsigned t) : Passes t := by
  obtain ⟨hi, hf, he⟩ := h
  refine (passes_integral hi).append (Passes.append ?_ (passes_exponent he))
  cases hf with
  | absent => rfl
  | present h => exact Passes.cons rfl (passes_digits h)

lemma passes_number (h : IsNumber t) : Passes t := by
  cases h with
  | unsigned h => exact passes_unsigned h
  | minus h => exact Passes.cons rfl (passes_unsigned h)

lemma scan_char (h : IsChar t) : t.foldl scan (some .inside) = some .inside := by
  have stay {c : Char} (hq : c ≠ '\x22') (hb : c ≠ '\\') :
      scan (some .inside) c = some .inside := by
    rw [scan, if_neg hq, if_neg hb]
  have hex {c : Char} (hc : Text.isHexDigit c) : scan (some .inside) c = some .inside := by
    refine stay ?_ ?_ <;> rintro rfl <;> exact absurd hc (by decide)
  cases h with
  | plain h hq hb => exact stay hq hb
  | escape h => rfl
  | unit h =>
    simp only [List.forall_mem_cons, List.not_mem_nil, false_imp_iff, implies_true,
      and_true] at h
    obtain ⟨ha, hb, hc, hd⟩ := h
    simp only [List.foldl_cons, List.foldl_nil]
    rw [show scan (scan (some .inside) '\\') 'u' = some .inside from rfl, hex ha, hex hb, hex hc,
      hex hd]

lemma passes_string (h : IsString t) : Passes t := by
  have chars {u : List Char} (hu : IsChars u) : u.foldl scan (some .inside) = some .inside := by
    induction hu with
    | nil => rfl
    | cons hs ht ih => rw [List.foldl_append, scan_char hs, ih]
  cases h with
  | quoted h =>
    rw [Passes, List.foldl_cons, List.foldl_append]
    rw [show scan (some .outside) '\x22' = some .inside from rfl, chars h]
    rfl

lemma Padded.passes {p : Padded} (h : Passes p.core) : Passes p.text :=
  (passes_blanks p.before_blank).append (h.append (passes_blanks p.after_blank))

lemma passes_commas {ps : List (List Char)} (h : ∀ p ∈ ps, Passes p) : Passes (commas ps) := by
  induction ps with
  | nil => rfl
  | cons p ps ih =>
    have first := h p List.mem_cons_self
    have rest := ih fun q hq => h q (List.mem_cons_of_mem p hq)
    cases ps with
    | nil => exact first
    | cons q ps => exact first.append (Passes.cons rfl rest)

lemma passes_value (h : IsValue t) : Passes t := by
  induction h with
  | null | true | false => rfl
  | number h => exact passes_number h
  | string h => exact passes_string h
  | emptyArray h | emptyObject h =>
    exact Passes.cons rfl ((passes_blanks h).append rfl)
  | array items filled h ih =>
    refine Passes.cons rfl (Passes.append (passes_commas ?_) rfl)
    intro p hp
    obtain ⟨x, hx, rfl⟩ := List.mem_map.1 hp
    exact x.passes (ih x hx)
  | object members filled names h ih =>
    refine Passes.cons rfl (Passes.append (passes_commas ?_) rfl)
    intro p hp
    obtain ⟨m, hm, rfl⟩ := List.mem_map.1 hp
    exact (m.name.passes (passes_string (names m hm))).append
      (Passes.cons rfl (m.value.passes (ih m hm)))

theorem passes_of_isText (h : IsText t) : Passes t := by
  obtain ⟨p, hp, rfl⟩ := h
  exact p.passes (passes_value hp)

end Telematics.Json
