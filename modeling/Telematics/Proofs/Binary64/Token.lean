import Telematics.Binary64.Numeral
import Telematics.Proofs.Numeral.Token

namespace Telematics.Binary64

open Numeral Text

variable {c : Char} {s t u : List Char} {negative : Bool}

lemma dropSeparators?_eq {before : Char} (h : '_' ∉ s) : dropSeparators? before s = some s := by
  fun_induction dropSeparators? before s with
  | case1 => rfl
  | case2 => simp at h
  | case3 => simp at h
  | case4 => simp at h
  | case5 before c r _ _ ih =>
    rw [ih fun hr => h (List.mem_cons_of_mem c hr)]
    rfl

lemma takeWhile_digits (h : ∀ c ∈ t, c.isDigit) : t.takeWhile Char.isDigit = t := by
  have ht : (t ++ []).takeWhile Char.isDigit = t ++ [].takeWhile Char.isDigit :=
    List.takeWhile_append_of_pos h
  rwa [List.append_nil, List.takeWhile_nil, List.append_nil] at ht

lemma dropWhile_digits (h : ∀ c ∈ t, c.isDigit) : t.dropWhile Char.isDigit = [] := by
  have ht : (t ++ []).dropWhile Char.isDigit = [].dropWhile Char.isDigit :=
    List.dropWhile_append_of_pos h
  rwa [List.append_nil, List.dropWhile_nil] at ht

def Pointed (whole part s : List Char) : Prop :=
  s = whole ∧ part = [] ∨ s = whole ++ '.' :: part

lemma unsignedDecimal?_eq (ht : t ≠ []) (h : ∀ c ∈ t, c.isDigit) (hu : ∀ c ∈ u, c.isDigit)
    (hs : Pointed t u s) : unsignedDecimal? negative s = some (ofDecimal negative
      (digitsValue (t ++ u)) (cutExponent (t ++ u).length (-u.length))) := by
  have filled : (t ++ u).isEmpty = false := by simp [ht]
  obtain ⟨rfl, rfl⟩ | rfl := hs
  · rw [List.append_nil] at filled
    simp only [unsignedDecimal?, takeWhile_digits h, dropWhile_digits h, List.append_nil, filled,
      exponent?]
    rfl
  · have whole : (t ++ '.' :: u).takeWhile Char.isDigit = t := by
      rw [List.takeWhile_append_of_pos h, List.takeWhile_cons_of_neg (by decide), List.append_nil]
    have part : (t ++ '.' :: u).dropWhile Char.isDigit = '.' :: u := by
      rw [List.dropWhile_append_of_pos h, List.dropWhile_cons_of_neg (by decide)]
    simp only [unsignedDecimal?, whole, part, takeWhile_digits hu, dropWhile_digits hu, filled,
      exponent?]
    simp

lemma isDigit_of_digitValue (h : (digitValue? 10 c).isSome) : c.isDigit := by
  refine forall_ascii (P := fun c => (digitValue? 10 c).isSome → c.isDigit) ?_ c
    (ascii_of_digit h).2.1 h
  decide +kernel

lemma isDigit_plain (h : ∀ c ∈ t, isDecimalDigit c) : ∀ c ∈ t.map plainChar, c.isDigit :=
  fun c hc => isDigit_of_digitValue (digits_plain h c hc)

lemma digitsValue_plain (h : ∀ c ∈ t, isDecimalDigit c) :
    digitsValue (t.map plainChar) = value t := by
  have same : ∀ c ∈ t, (plainChar c).toNat - 0x30 = digit c := by
    intro c hc
    obtain ⟨d, hd⟩ := Option.isSome_iff_exists.1 (h c hc)
    have small : ∀ d < 10, (Char.ofNat (48 + d)).toNat - 0x30 = d := by decide
    rw [plainChar_of_decimalValue hd, small d (decimalValue?_lt hd), digit, hd]
    rfl
  have run : digitsValue (t.map plainChar) =
      Numeral.ofDigits 10 ((t.map plainChar).map fun c => c.toNat - 0x30) := by
    rw [Numeral.ofDigits, List.foldl_map]
    rfl
  rw [run, value, List.map_map]
  exact congrArg _ (List.map_congr_left same)

lemma cutExponent_eq (t u : List Char) :
    cutExponent (t ++ u).length (-u.length) = -(u.length : Int) := by
  rw [cutExponent, List.length_append]
  omega

lemma not_word (hc : c.isDigit) : ¬ (String.ofList ((c :: s).map Char.toLower) = "inf" ∨
    String.ofList ((c :: s).map Char.toLower) = "infinity") ∧
    String.ofList ((c :: s).map Char.toLower) ≠ "nan" := by
  have small : c.toNat < 128 :=
    Nat.lt_of_le_of_lt (of_decide_eq_true (Bool.and_eq_true_iff.1 hc).2) (by decide)
  have lower : c.toLower.isDigit := by
    refine forall_ascii (P := fun c => c.isDigit → c.toLower.isDigit) ?_ c small hc
    decide +kernel
  have head {w : String} (hw : String.ofList ((c :: s).map Char.toLower) = w) :
      w.toList.head?.any Char.isDigit := by
    rw [← hw, String.toList_ofList]
    exact lower
  refine ⟨?_, fun h => absurd (head h) (by decide)⟩
  rintro (h | h)
  · exact absurd (head h) (by decide)
  · exact absurd (head h) (by decide)

lemma exists_step (coefficient : Nat) (exponent : Int) :
    ∃ step, ∀ negative, ofDecimal negative coefficient exponent = .number negative step := by
  unfold ofDecimal
  split_ifs
  · exact ⟨_, fun _ => rfl⟩
  · exact ⟨_, fun _ => rfl⟩

lemma plain_pointed (h : ∀ c ∈ t, isDecimalDigit c) (hu : ∀ c ∈ u, isDecimalDigit c)
    (hs : Pointed t u s) : (∀ c ∈ s, plainChar c ≠ '_' ∧ isAsciiBlank (plainChar c) = false) ∧
      Pointed (t.map plainChar) (u.map plainChar) (s.map plainChar) := by
  have digit {l : List Char} (hl : ∀ c ∈ l, isDecimalDigit c) :
      ∀ c ∈ l, plainChar c ≠ '_' ∧ isAsciiBlank (plainChar c) = false := by
    intro c hc
    have ha := ascii_of_digit (digits_plain hl _ (List.mem_map_of_mem hc))
    exact ⟨ha.2.2, isAsciiBlank_of_le ha.1⟩
  obtain ⟨rfl, rfl⟩ | rfl := hs
  · exact ⟨digit h, .inl ⟨rfl, rfl⟩⟩
  · have point : plainChar '.' = '.' := by decide
    refine ⟨?_, .inr (by rw [List.map_append, List.map_cons, point])⟩
    intro c hc
    obtain hc | hc := List.mem_append.1 hc
    · exact digit h c hc
    · obtain rfl | hc := List.mem_cons.1 hc
      · rw [point]
        decide
      · exact digit hu c hc

lemma Pointed.exists_cons (hs : Pointed t u s) (ht : t ≠ []) (h : ∀ c ∈ t, c.isDigit) :
    ∃ c r, s = c :: r ∧ c.isDigit := by
  obtain ⟨c, t, rfl⟩ := List.exists_cons_of_ne_nil ht
  obtain ⟨rfl, -⟩ | rfl := hs
  · exact ⟨c, t, rfl, h c List.mem_cons_self⟩
  · exact ⟨c, t ++ '.' :: u, rfl, h c List.mem_cons_self⟩

theorem ofText?_decimal (ht : t ≠ []) (h : ∀ c ∈ t, isDecimalDigit c)
    (hu : ∀ c ∈ u, isDecimalDigit c) (hs : Pointed t u s) :
    ofText? (String.ofList s) =
      some (ofDecimal false (Numeral.value (t ++ u)) (-(u.length : Int))) ∧
    ofText? (String.ofList ('-' :: s)) =
      some (ofDecimal true (Numeral.value (t ++ u)) (-(u.length : Int))) := by
  obtain ⟨kept, pointed⟩ := plain_pointed h hu hs
  have read (negative : Bool) : unsignedDecimal? negative (s.map plainChar) =
      some (ofDecimal negative (Numeral.value (t ++ u)) (-(u.length : Int))) := by
    have digits : ∀ c ∈ t ++ u, isDecimalDigit c :=
      fun c hc => (List.mem_append.1 hc).elim (h c) (hu c)
    rw [unsignedDecimal?_eq (by simpa using ht) (isDigit_plain h) (isDigit_plain hu) pointed,
      cutExponent_eq, ← List.map_append, digitsValue_plain digits, List.length_map]
  have separators : '_' ∉ s.map plainChar := by
    rw [List.mem_map]
    rintro ⟨c, hc, he⟩
    exact (kept c hc).1 he
  have text : plain (String.ofList s) = s.map plainChar := plain_ofList fun c hc => (kept c hc).2
  have signed : plain (String.ofList ('-' :: s)) = '-' :: s.map plainChar := by
    have minus : plainChar '-' = '-' := by decide
    rw [plain_ofList, List.map_cons, minus]
    intro c hc
    obtain rfl | hc := List.mem_cons.1 hc
    · decide
    · exact (kept c hc).2
  obtain ⟨c, r, hr, hc⟩ := pointed.exists_cons (by simpa using ht) (isDigit_plain h)
  have word := not_word (s := r) hc
  rw [hr] at read separators text signed
  have unsigned : splitSign (c :: r) = (false, c :: r) :=
    splitSign_of_le (of_decide_eq_true (Bool.and_eq_true_iff.1 hc).1)
  constructor
  · simp only [ofText?, text, dropSeparators?_eq separators, Option.bind_some, unsigned,
      if_neg word.1, if_neg word.2, read]
  · have negative : '_' ∉ '-' :: c :: r := by
      rw [List.mem_cons, not_or]
      exact ⟨by decide, separators⟩
    simp only [ofText?, signed, dropSeparators?_eq negative, Option.bind_some, splitSign,
      if_neg word.1, if_neg word.2, read]

end Telematics.Binary64
