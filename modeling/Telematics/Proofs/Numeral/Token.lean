import Telematics.Proofs.Numeral
import Telematics.Proofs.Text

namespace Telematics.Numeral

open Text

variable {radix d : Nat} {c : Char} {s : String} {t : List Char} {v : Char → Nat}

lemma ascii_of_value (h : (asciiValue? c).isSome) :
    48 ≤ c.toNat ∧ c.toNat < 128 ∧ c ≠ '_' := by
  have below {x : Char} (hx : c ≤ x) (hn : x.toNat < 128) : c.toNat < 128 :=
    Nat.lt_of_le_of_lt hx hn
  unfold asciiValue? at h
  split_ifs at h with digit lower upper
  · refine ⟨digit.1, below digit.2 (by decide), ?_⟩
    rintro rfl
    exact absurd digit.2 (by decide)
  · refine ⟨Nat.le_trans (by decide) lower.1, below lower.2 (by decide), ?_⟩
    rintro rfl
    exact absurd lower.1 (by decide)
  · refine ⟨Nat.le_trans (by decide) upper.1, below upper.2 (by decide), ?_⟩
    rintro rfl
    exact absurd upper.2 (by decide)
  · cases h

lemma ascii_of_digit (h : (digitValue? radix c).isSome) :
    48 ≤ c.toNat ∧ c.toNat < 128 ∧ c ≠ '_' := by
  obtain ⟨d, hd⟩ := Option.isSome_iff_exists.1 h
  apply ascii_of_value
  rw [(Option.filter_eq_some_iff.1 hd).1]
  rfl

lemma forall_ascii {P : Char → Prop} (h : ∀ n < 128, P (Char.ofNat n)) (c : Char)
    (hc : c.toNat < 128) : P c := by
  have hp := h c.toNat hc
  rwa [Char.ofNat_toNat] at hp

lemma not_mark_of_digit (h : (digitValue? radix c).isSome) : isRadixMark radix c = false := by
  rw [Bool.eq_false_iff]
  intro hm
  simp only [isRadixMark, Bool.or_eq_true, Bool.and_eq_true, decide_eq_true_eq] at hm
  obtain ⟨rfl, rfl | rfl⟩ | ⟨rfl, rfl | rfl⟩ := hm <;> exact absurd h (by decide)

lemma isAsciiBlank_of_le (h : 48 ≤ c.toNat) : isAsciiBlank c = false := by
  rw [Bool.eq_false_iff]
  intro hb
  simp only [isAsciiBlank, Bool.or_eq_true, decide_eq_true_eq, Bool.and_eq_true] at hb
  obtain rfl | hb := hb
  · exact absurd h (by decide)
  · omega

lemma plain_ofList (h : ∀ c ∈ t, isAsciiBlank (plainChar c) = false) :
    plain (String.ofList t) = t.map plainChar := by
  rw [plain, String.toList_ofList]
  apply trimOf_of_trimmed
  apply trimmed_of_forall
  simpa using h

/-! Runs of digits. -/

lemma splitSign_of_le (h : 48 ≤ c.toNat) : splitSign (c :: t) = (false, c :: t) := by
  unfold splitSign
  split
  · rename_i he
    obtain ⟨rfl, -⟩ := List.cons.inj he
    exact absurd h (by decide)
  · rename_i he
    obtain ⟨rfl, -⟩ := List.cons.inj he
    exact absurd h (by decide)
  · rfl

lemma splitSign_of_digits (h : ∀ c ∈ t, (digitValue? radix c).isSome) :
    splitSign t = (false, t) := by
  cases t with
  | nil => rfl
  | cons c r => exact splitSign_of_le (ascii_of_digit (h c List.mem_cons_self)).1

lemma dropRadixMark_of_digits (h : ∀ c ∈ t, (digitValue? radix c).isSome) :
    dropRadixMark radix t = t := by
  unfold dropRadixMark
  split
  · rename_i m r
    have hm := not_mark_of_digit (h m (by simp))
    rw [hm]
    rfl
  · rfl

lemma digitRun?_of_digits (ht : t ≠ []) (h : ∀ c ∈ t, digitValue? radix c = some (v c)) :
    digitRun? radix t = some (t.map v) := by
  fun_induction digitRun? radix t with
  | case1 => exact absurd rfl ht
  | case2 c => simp [h c List.mem_cons_self]
  | case3 c r ih =>
    have digit : (digitValue? radix '_').isSome := by rw [h '_' (by simp)]; rfl
    exact absurd rfl (ascii_of_digit digit).2.2
  | case4 c x r hx ih =>
    have hr := ih (List.cons_ne_nil x r) fun d hd => h d (List.mem_cons_of_mem c hd)
    rw [h c List.mem_cons_self, hr]
    rfl

lemma integer?_of_digits {b : Bool} (hs : splitSign (plain s) = (b, t)) (ht : t ≠ [])
    (h : ∀ c ∈ t, digitValue? radix c = some (v c)) :
    integer? radix s = if radix = 10 ∧ digitLimit < t.length then none
      else some (withSign b (ofDigits radix (t.map v))) := by
  have digits : ∀ c ∈ t, (digitValue? radix c).isSome := by
    intro c hc
    rw [h c hc]
    rfl
  rw [integer?, hs]
  simp only [dropRadixMark_of_digits digits, digitRun?_of_digits ht h, Option.bind_some,
    List.length_map]

lemma integer?_eq_none {b : Bool} (hr : radix ≠ 16 ∧ radix ≠ 2)
    (hs : splitSign (plain s) = (b, t)) (hc : c ∈ t) (hd : digitValue? radix c = none)
    (hu : c ≠ '_') : integer? radix s = none := by
  have none_of_mem {l : List Char} (hl : c ∈ l) : digitRun? radix l = none := by
    fun_induction digitRun? radix l with
    | case1 => rfl
    | case2 x =>
      obtain rfl := List.mem_singleton.1 hl
      rw [hd]
      rfl
    | case3 x r ih =>
      obtain rfl | hl := List.mem_cons.1 hl
      · rw [hd]
        rfl
      · rw [ih ((List.mem_cons.1 hl).resolve_left hu)]
        cases digitValue? radix x <;> rfl
    | case4 x y r hx ih =>
      obtain rfl | hl := List.mem_cons.1 hl
      · rw [hd]
        rfl
      · rw [ih hl]
        cases digitValue? radix x <;> rfl
  have mark : dropRadixMark radix t = t := by
    unfold dropRadixMark
    split
    · simp [isRadixMark, hr]
    · rfl
  rw [integer?, hs]
  simp only [mark, none_of_mem hc, Option.bind_none]

/-! Digits of any script, in decimal. -/

def digit (c : Char) : Nat :=
  (decimalValue? c).getD 0

def value (t : List Char) : Nat :=
  ofDigits 10 (t.map digit)

lemma plainChar_of_decimalValue (h : decimalValue? c = some d) :
    plainChar c = Char.ofNat (48 + d) := by
  obtain ⟨z, hz, hd⟩ := List.exists_of_findSome?_eq_some h
  rw [plainChar]
  split_ifs at hd with hr
  obtain rfl := Option.some.inj hd
  have zeros : ∀ z ∈ decimalZeros, z = 48 ∨ 128 ≤ z := by decide
  have blanks : ∀ z ∈ decimalZeros, ∀ i < 10, inRanges blankRanges (z + i) = false := by
    decide +kernel
  obtain rfl | hz' := zeros z hz
  · rw [if_pos (by omega), Nat.add_sub_cancel' hr.1, Char.ofNat_toNat]
  · have hb : isBlank c = false := by
      have hi := blanks z hz (c.toNat - z) (by omega)
      rwa [Nat.add_sub_cancel' hr.1] at hi
    have hx : ∀ i < 10, hexDigit i = Char.ofNat (48 + i) := by decide
    rw [if_neg (by omega), hb, if_neg (by decide), h]
    exact hx _ (by omega)

lemma digitValue?_plainChar (h : isDecimalDigit c) :
    digitValue? 10 (plainChar c) = some (digit c) := by
  obtain ⟨d, hd⟩ := Option.isSome_iff_exists.1 h
  have values : ∀ d < 10, digitValue? 10 (Char.ofNat (48 + d)) = some d := by decide
  rw [plainChar_of_decimalValue hd, values d (decimalValue?_lt hd), digit, hd]
  rfl

lemma digits_plain (h : ∀ c ∈ t, isDecimalDigit c) :
    ∀ c ∈ t.map plainChar, (digitValue? 10 c).isSome := by
  intro c hc
  obtain ⟨x, hx, rfl⟩ := List.mem_map.1 hc
  rw [digitValue?_plainChar (h x hx)]
  rfl

lemma splitSign_digits (h : ∀ c ∈ t, isDecimalDigit c) :
    splitSign (plain (String.ofList t)) = (false, t.map plainChar) := by
  rw [plain_ofList, splitSign_of_digits (digits_plain h)]
  intro c hc
  exact isAsciiBlank_of_le (ascii_of_digit (digits_plain h _ (List.mem_map_of_mem hc))).1

theorem integer?_decimal (ht : t ≠ []) (h : ∀ c ∈ t, isDecimalDigit c) :
    integer? 10 (String.ofList t) = if digitLimit < t.length then none else some (value t : Int) := by
  have values : ∀ c ∈ t.map plainChar, digitValue? 10 c = some ((digitValue? 10 c).getD 0) := by
    intro c hc
    obtain ⟨d, hd⟩ := Option.isSome_iff_exists.1 (digits_plain h c hc)
    rw [hd]
    rfl
  have same : (t.map plainChar).map (fun c => (digitValue? 10 c).getD 0) = t.map digit := by
    rw [List.map_map]
    apply List.map_congr_left
    intro c hc
    rw [Function.comp_apply, digitValue?_plainChar (h c hc)]
    rfl
  rw [integer?_of_digits (splitSign_digits h) (by simpa using ht) values, same, List.length_map]
  simp only [true_and]
  rfl

/-! Digits of the radix sixteen. -/

lemma plainChar_of_digit (h : (digitValue? radix c).isSome) : plainChar c = c := by
  rw [plainChar, if_pos (ascii_of_digit h).2.1]

lemma plain_of_digits (h : ∀ c ∈ t, (digitValue? radix c).isSome) : plain (String.ofList t) = t := by
  have same : t.map plainChar = t := by
    rw [List.map_congr_left fun c hc => plainChar_of_digit (h c hc), List.map_id']
  rw [plain_ofList, same]
  intro c hc
  rw [plainChar_of_digit (h c hc)]
  exact isAsciiBlank_of_le (ascii_of_digit (h c hc)).1

lemma plain_of_minus (h : ∀ c ∈ t, (digitValue? radix c).isSome) :
    plain (String.ofList ('-' :: t)) = '-' :: t := by
  have same : t.map plainChar = t := by
    rw [List.map_congr_left fun c hc => plainChar_of_digit (h c hc), List.map_id']
  have minus : plainChar '-' = '-' := by decide
  rw [plain_ofList, List.map_cons, same, minus]
  intro c hc
  obtain rfl | hc := List.mem_cons.1 hc
  · decide
  · rw [plainChar_of_digit (h c hc)]
    exact isAsciiBlank_of_le (ascii_of_digit (h c hc)).1

def valueIn (radix : Nat) (t : List Char) : Nat :=
  ofDigits radix (t.map fun c => (digitValue? radix c).getD 0)

lemma some_getD (h : ∀ c ∈ t, (digitValue? radix c).isSome) :
    ∀ c ∈ t, digitValue? radix c = some ((digitValue? radix c).getD 0) := by
  intro c hc
  obtain ⟨d, hd⟩ := Option.isSome_iff_exists.1 (h c hc)
  rw [hd]
  rfl

theorem integer?_radix (hr : radix ≠ 10) (ht : t ≠ []) (h : ∀ c ∈ t, (digitValue? radix c).isSome) :
    integer? radix (String.ofList t) = some (valueIn radix t : Int) ∧
    integer? radix (String.ofList ('-' :: t)) = some (-(valueIn radix t : Int)) := by
  have plus : splitSign (plain (String.ofList t)) = (false, t) := by
    rw [plain_of_digits h, splitSign_of_digits h]
  have minus : splitSign (plain (String.ofList ('-' :: t))) = (true, t) := by
    rw [plain_of_minus h]
    rfl
  rw [integer?_of_digits plus ht (some_getD h), integer?_of_digits minus ht (some_getD h)]
  simp only [hr, false_and, if_false]
  exact ⟨rfl, rfl⟩

lemma isDecimalDigit_of_isDigit (h : c.isDigit) : isDecimalDigit c := by
  simp only [Char.isDigit, Bool.and_eq_true, decide_eq_true_eq] at h
  have h₁ : 48 ≤ c.toNat := h.1
  have h₂ : c.toNat ≤ 57 := h.2
  rw [isDecimalDigit, decimalValue?, List.findSome?_isSome_iff]
  refine ⟨0x30, by decide, ?_⟩
  rw [if_pos (by omega)]
  rfl

lemma isDigit_or_isAlpha (h : isHexDigit c) :
    c.isDigit ∨ c.isAlpha ∧ digitValue? 10 c = none := by
  refine forall_ascii (P := fun c => isHexDigit c → c.isDigit ∨ c.isAlpha ∧ digitValue? 10 c = none)
    ?_ c (ascii_of_digit h).2.1 h
  decide +kernel

lemma not_isAlpha_of_isDigit (h : c.isDigit) : ¬ c.isAlpha := by
  have small : c.toNat < 128 :=
    Nat.lt_of_le_of_lt (of_decide_eq_true (Bool.and_eq_true_iff.1 h).2) (by decide)
  refine forall_ascii (P := fun c => c.isDigit → ¬ c.isAlpha) ?_ c small h
  decide +kernel

theorem integer?_hex (ht : t ≠ []) (h : ∀ c ∈ t, isHexDigit c) :
    integer? 10 (String.ofList t) = none ↔ (∃ c ∈ t, c.isAlpha) ∨ digitLimit < t.length := by
  by_cases letter : ∃ c ∈ t, c.isAlpha
  · simp only [letter, true_or, iff_true]
    obtain ⟨c, hc, ha⟩ := letter
    have split : splitSign (plain (String.ofList t)) = (false, t) := by
      rw [plain_of_digits h, splitSign_of_digits h]
    obtain hd | ⟨-, hn⟩ := isDigit_or_isAlpha (h c hc)
    · exact absurd ha (not_isAlpha_of_isDigit hd)
    · exact integer?_eq_none (by decide) split hc hn (ascii_of_digit (h c hc)).2.2
  · simp only [letter, false_or]
    have digits : ∀ c ∈ t, isDecimalDigit c := by
      intro c hc
      obtain hd | ⟨ha, -⟩ := isDigit_or_isAlpha (h c hc)
      · exact isDecimalDigit_of_isDigit hd
      · exact absurd ⟨c, hc, ha⟩ letter
    rw [integer?_decimal ht digits]
    split_ifs with hl
    · simp [hl]
    · simp [hl]

end Telematics.Numeral
