import Telematics.Proofs.Numeral.Token

/-! The digits of a numeral, in any script. -/

namespace Telematics

namespace Numeral

open Text

variable {radix : Nat} {c : Char} {s : String} {b r t : List Char} {ds : List Nat} {n : Int}

def digitsIn (radix : Nat) (t : List Char) : List Nat :=
  t.filterMap fun c => (decimalValue? c).filter (· < radix)

/-- A character that a numeral may have in front of it and behind it. -/
def isOuterBlank (c : Char) : Bool :=
  isAsciiBlank (plainChar c)

lemma digitValue?_of_blank (h : isAsciiBlank c) : digitValue? radix c = none := by
  rw [← Option.not_isSome_iff_eq_none]
  intro hd
  rw [isAsciiBlank_of_le (ascii_of_digit hd).1] at h
  cases h

lemma digitValue?_of_letter (hr : radix ≤ 10) (hc : ¬ ('0' ≤ c ∧ c ≤ '9')) :
    digitValue? radix c = none := by
  rw [digitValue?, asciiValue?, if_neg hc]
  split_ifs
  · simp only [Option.filter_some, decide_eq_true_eq]
    rw [if_neg (by omega)]
  · simp only [Option.filter_some, decide_eq_true_eq]
    rw [if_neg (by omega)]
  · rfl

lemma decimalValue?_isSome_of_ascii (h : '0' ≤ c ∧ c ≤ '9') : (decimalValue? c).isSome := by
  apply isDecimalDigit_of_isDigit
  rw [Char.isDigit, Bool.and_eq_true, decide_eq_true_eq, decide_eq_true_eq]
  exact h

lemma digitValue?_plain (hr : radix ≤ 10) (c : Char) :
    digitValue? radix (plainChar c) = (decimalValue? c).filter (· < radix) := by
  cases hd : decimalValue? c with
  | some d =>
    have values : ∀ d < 10, asciiValue? (Char.ofNat (48 + d)) = some d := by decide
    rw [plainChar_of_decimalValue hd, digitValue?, values d (decimalValue?_lt hd)]
  | none =>
    have other : ¬ ('0' ≤ c ∧ c ≤ '9') := by
      intro digit
      have known := decimalValue?_isSome_of_ascii digit
      rw [hd] at known
      cases known
    rw [Option.filter_none, plainChar, hd]
    split_ifs
    · exact digitValue?_of_letter hr other
    · exact digitValue?_of_blank (by decide)
    · exact digitValue?_of_letter hr other

lemma plainChar_eq_minus : plainChar c = '-' ↔ c = '-' := by
  constructor
  · intro h
    rw [plainChar] at h
    split_ifs at h with ascii blank
    · exact h
    · cases h
    · cases hd : decimalValue? c with
      | none =>
        rw [hd] at h
        exact h
      | some d =>
        rw [hd] at h
        have values : ∀ d < 10, hexDigit d ≠ '-' := by decide
        exact absurd h (values d (decimalValue?_lt hd))
  · rintro rfl
    decide

lemma filterMap_plain (hr : radix ≤ 10) (s : String) :
    (plain s).filterMap (digitValue? radix) = digitsIn radix s.toList := by
  rw [plain, filterMap_trimOf (fun c h => digitValue?_of_blank h), List.filterMap_map, digitsIn]
  apply List.filterMap_congr
  exact fun c _ => digitValue?_plain hr c

lemma minus_mem_plain : '-' ∈ plain s ↔ '-' ∈ s.toList := by
  rw [plain, mem_trimOf_iff (by decide), List.mem_map]
  constructor
  · rintro ⟨c, hc, minus⟩
    obtain rfl := plainChar_eq_minus.1 minus
    exact hc
  · exact fun h => ⟨'-', h, plainChar_eq_minus.2 rfl⟩

lemma minus_not_digit : digitValue? radix '-' = none := by
  rw [← Option.not_isSome_iff_eq_none]
  exact fun hd => absurd (ascii_of_digit hd).1 (by decide)

lemma underscore_not_digit : digitValue? radix '_' = none := by
  rw [← Option.not_isSome_iff_eq_none]
  exact fun hd => (ascii_of_digit hd).2.2 rfl

lemma digitRun?_eq (h : digitRun? radix t = some ds) :
    ds = t.filterMap (digitValue? radix) ∧ '-' ∉ t ∧ ∃ c ∈ t.head?, (digitValue? radix c).isSome := by
  have not_minus {c : Char} {d : Nat} (hd : digitValue? radix c = some d) : '-' ≠ c := by
    rintro rfl
    rw [minus_not_digit] at hd
    cases hd
  fun_induction digitRun? radix t generalizing ds with
  | case1 => cases h
  | case2 c =>
    obtain ⟨d, hd, rfl⟩ := Option.map_eq_some_iff.1 h
    simp [hd, not_minus hd]
  | case3 c r ih =>
    obtain ⟨d, hd, h⟩ := Option.bind_eq_some_iff.1 h
    obtain ⟨es, he, h⟩ := Option.bind_eq_some_iff.1 h
    obtain rfl := Option.some.inj h
    obtain ⟨rfl, minus, -⟩ := ih he
    simp [hd, underscore_not_digit, not_minus hd, minus]
  | case4 c x r hx ih =>
    obtain ⟨d, hd, h⟩ := Option.bind_eq_some_iff.1 h
    obtain ⟨es, he, h⟩ := Option.bind_eq_some_iff.1 h
    obtain rfl := Option.some.inj h
    obtain ⟨rfl, minus, -⟩ := ih he
    rw [List.mem_cons, not_or]
    refine ⟨?_, ⟨not_minus hd, minus⟩, c, rfl, by simp [hd]⟩
    rw [List.filterMap_cons (a := c), hd]

lemma ofDigits_zero (ds : List Nat) : ofDigits radix (0 :: ds) = ofDigits radix ds := by
  rw [ofDigits, List.foldl_cons, Nat.zero_mul]
  rfl

lemma digitRun?_dropRadixMark (h : digitRun? radix (dropRadixMark radix t) = some ds) :
    ofDigits radix ds = ofDigits radix (t.filterMap (digitValue? radix)) ∧ '-' ∉ t ∧
      ∃ c ∈ t.head?, (digitValue? radix c).isSome := by
  unfold dropRadixMark at h
  split at h
  · rename_i m r
    split_ifs at h with mark
    · have zero : digitValue? radix '0' = some 0 := by
        simp only [isRadixMark, Bool.or_eq_true, Bool.and_eq_true, decide_eq_true_eq] at mark
        obtain ⟨rfl, -⟩ | ⟨rfl, -⟩ := mark
        · rfl
        · rfl
      have letter : digitValue? radix m = none := by
        rw [← Option.not_isSome_iff_eq_none]
        intro hd
        rw [not_mark_of_digit hd] at mark
        cases mark
      have unsigned : '-' ≠ m := by
        rintro rfl
        simp [isRadixMark] at mark
      split at h
      · obtain ⟨rfl, minus, -⟩ := digitRun?_eq h
        refine ⟨?_, by simp [unsigned, minus], '0', rfl, by rw [zero]; rfl⟩
        rw [List.filterMap_cons, zero, List.filterMap_cons, letter, List.filterMap_cons,
          underscore_not_digit]
        exact (ofDigits_zero _).symm
      · obtain ⟨rfl, minus, -⟩ := digitRun?_eq h
        refine ⟨?_, by simp [unsigned, minus], '0', rfl, by rw [zero]; rfl⟩
        rw [List.filterMap_cons, zero, List.filterMap_cons, letter]
        exact (ofDigits_zero _).symm
    · obtain ⟨rfl, minus, first⟩ := digitRun?_eq h
      exact ⟨rfl, minus, first⟩
  · obtain ⟨rfl, minus, first⟩ := digitRun?_eq h
    exact ⟨rfl, minus, first⟩

lemma splitSign_eq {negative : Bool} (h : splitSign t = (negative, r)) :
    (negative = true ∧ t = '-' :: r) ∨
      negative = false ∧ ∃ sign, (sign = [] ∨ sign = ['+']) ∧ t = sign ++ r := by
  unfold splitSign at h
  split at h
  · cases h
    exact .inl ⟨rfl, rfl⟩
  · cases h
    exact .inr ⟨rfl, ['+'], .inr rfl, rfl⟩
  · cases h
    exact .inr ⟨rfl, [], .inl rfl, rfl⟩

lemma plus_not_digit : digitValue? radix '+' = none := by
  rw [← Option.not_isSome_iff_eq_none]
  exact fun hd => absurd (ascii_of_digit hd).1 (by decide)

lemma integer?_parts (h : integer? radix s = some n) : ∃ negative body ds,
    splitSign (plain s) = (negative, body) ∧
      digitRun? radix (dropRadixMark radix body) = some ds ∧
        n = withSign negative (ofDigits radix ds) := by
  rw [integer?] at h
  cases hs : splitSign (plain s) with
  | mk negative body =>
    rw [hs] at h
    obtain ⟨ds, run, h⟩ := Option.bind_eq_some_iff.1 h
    split_ifs at h
    exact ⟨negative, body, ds, rfl, run, (Option.some.inj h).symm⟩

theorem integer?_eq_digits (hr : radix ≤ 10) (h : integer? radix s = some n) :
    n = withSign ('-' ∈ s.toList) (ofDigits radix (digitsIn radix s.toList)) := by
  obtain ⟨negative, body, ds, split, run, rfl⟩ := integer?_parts h
  obtain ⟨value, unsigned, -⟩ := digitRun?_dropRadixMark run
  simp only [← filterMap_plain hr, ← minus_mem_plain, value]
  obtain ⟨rfl, text⟩ | ⟨rfl, sign, plus, text⟩ := splitSign_eq split
  · rw [text, List.filterMap_cons, minus_not_digit]
    simp
  · have digits : (plain s).filterMap (digitValue? radix) =
        body.filterMap (digitValue? radix) := by
      obtain rfl | rfl := plus
      · rw [text, List.nil_append]
      · rw [text, List.singleton_append, List.filterMap_cons, plus_not_digit]
    have positive : '-' ∉ plain s := by
      obtain rfl | rfl := plus
      · rwa [text, List.nil_append]
      · rw [text, List.singleton_append, List.mem_cons, not_or]
        exact ⟨by decide, unsigned⟩
    rw [digits]
    simp [positive]

lemma solid_of_digit (h : isDecimalDigit c) : 48 ≤ (plainChar c).toNat := by
  have digit : (digitValue? 10 (plainChar c)).isSome := by
    rw [digitValue?_plainChar h]
    rfl
  exact (ascii_of_digit digit).1

lemma plain_digit (h : isDecimalDigit c) : ∃ l, plain (String.ofList (c :: t)) = plainChar c :: l := by
  rw [plain, String.toList_ofList, List.map_cons, trimOf_cons (isAsciiBlank_of_le (solid_of_digit h))]
  exact ⟨_, rfl⟩

lemma plain_negated (hb : ∀ c ∈ b, isOuterBlank c) (hd : ∃ c ∈ r.head?, isDecimalDigit c) :
    plain (String.ofList (b ++ '-' :: r)) = '-' :: plain (String.ofList r) := by
  obtain ⟨c, hc, digit⟩ := hd
  obtain ⟨l, rfl⟩ := List.head?_eq_some_iff.1 hc
  have solid := isAsciiBlank_of_le (solid_of_digit digit)
  have minus : isAsciiBlank (plainChar '-') = false := by decide
  have lead : ∀ x ∈ b.map plainChar, isAsciiBlank x := by
    intro x hx
    obtain ⟨c, hc, rfl⟩ := List.mem_map.1 hx
    exact hb c hc
  rw [plain, plain, String.toList_ofList, String.toList_ofList, List.map_append, List.map_cons,
    trimOf_append lead, trimOf_cons minus, List.map_cons, reverse_dropWhile_cons solid,
    trimOf_cons solid]
  rfl

lemma integer?_negated (radix : Nat) (hb : ∀ c ∈ b, isOuterBlank c)
    (hd : ∃ c ∈ r.head?, isDecimalDigit c) : integer? radix (String.ofList (b ++ '-' :: r)) =
      (integer? radix (String.ofList r)).map fun n => -n := by
  have minus := plain_negated hb hd
  obtain ⟨c, hc, digit⟩ := hd
  obtain ⟨l, rfl⟩ := List.head?_eq_some_iff.1 hc
  obtain ⟨l, text⟩ := plain_digit (t := l) digit
  have unsigned : splitSign (plainChar c :: l) = (false, plainChar c :: l) :=
    splitSign_of_le (solid_of_digit digit)
  have negative (t : List Char) : splitSign ('-' :: t) = (true, t) := rfl
  rw [integer?, minus, negative, integer?, text, unsigned]
  simp only
  cases digitRun? radix (dropRadixMark radix (plainChar c :: l)) with
  | none => rfl
  | some ds =>
    simp only [Option.bind_some]
    split_ifs
    · rfl
    · rfl

lemma exists_negated (hr : radix ≤ 10) (h : integer? radix s = some n) (hm : '-' ∈ s.toList) :
    ∃ b r, s.toList = b ++ '-' :: r ∧ (∀ c ∈ b, isOuterBlank c) ∧
      ∃ c ∈ r.head?, isDecimalDigit c := by
  obtain ⟨negative, body, ds, split, run, -⟩ := integer?_parts h
  obtain ⟨-, unsigned, x, hx, digit⟩ := digitRun?_dropRadixMark run
  obtain ⟨-, text⟩ | ⟨-, sign, plus, text⟩ := splitSign_eq split
  · obtain ⟨lead, trail, whole, blank, -⟩ := exists_trimmed isAsciiBlank (s.toList.map plainChar)
    rw [← plain, text] at whole
    -- the plain text is the text character by character, so the sign stands at the same place
    obtain ⟨b, rest, hs, rfl, hrest⟩ := List.map_eq_append_iff.1 whole
    obtain ⟨c, r, rfl, hc, behind⟩ := List.map_eq_cons_iff.1 hrest
    obtain rfl := plainChar_eq_minus.1 hc
    obtain ⟨l, rfl⟩ := List.head?_eq_some_iff.1 hx
    obtain ⟨y, r, rfl, rfl, -⟩ := List.map_eq_cons_iff.1 behind
    refine ⟨b, y :: r, hs, fun c hc => blank _ (List.mem_map_of_mem hc), y, rfl, ?_⟩
    rw [digitValue?_plain hr] at digit
    exact Option.isSome_of_isSome_filter _ _ digit
  · rw [← minus_mem_plain, text] at hm
    obtain rfl | rfl := plus
    · exact absurd hm unsigned
    · rw [List.singleton_append, List.mem_cons] at hm
      exact absurd (hm.resolve_left (by decide)) unsigned

end Numeral

end Telematics
