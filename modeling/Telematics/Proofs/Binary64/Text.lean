import Telematics.Proofs.Binary64.Interval
import Telematics.Proofs.Json.Number

/-! The text of a finite number determines the number. -/

namespace Telematics.Binary64

variable {whole part tail ds : List Char} {exponent : Int}

def shownExponent : List Char → Int
  | 'e' :: '-' :: ds => -(Nat.ofDigitChars 10 ds 0 : Int)
  | 'e' :: _ :: ds => Nat.ofDigitChars 10 ds 0
  | _ => 0

lemma shownExponent_nil : shownExponent [] = 0 := rfl

/-- The decimal that a text of digits shows, with a point and an exponent if it has them. -/
def shown (cs : List Char) : ℚ :=
  let mantissa := cs.takeWhile (· ≠ 'e')
  let places := ((mantissa.dropWhile (· ≠ '.')).drop 1).length
  Nat.ofDigitChars 10 (mantissa.filter (· ≠ '.')) 0 *
    10 ^ (shownExponent (cs.dropWhile (· ≠ 'e')) - places)

def Marked (tail : List Char) : Prop :=
  tail = [] ∨ tail.head? = some 'e'

lemma plain_of_digits (h : ∀ c ∈ ds, c.isDigit) : ∀ c ∈ ds, c ≠ 'e' ∧ c ≠ '.' := by
  intro c hc
  constructor
  · rintro rfl
    exact absurd (h _ hc) (by decide)
  · rintro rfl
    exact absurd (h _ hc) (by decide)

lemma filter_digits (h : ∀ c ∈ ds, c.isDigit) : ds.filter (· ≠ '.') = ds := by
  rw [List.filter_eq_self]
  intro c hc
  exact decide_eq_true (plain_of_digits h c hc).2

lemma split_marked (h : ∀ c ∈ ds, c ≠ 'e') (ht : Marked tail) :
    (ds ++ tail).takeWhile (· ≠ 'e') = ds ∧ (ds ++ tail).dropWhile (· ≠ 'e') = tail := by
  have plain : ∀ c ∈ ds, decide (c ≠ 'e') = true := fun c hc => decide_eq_true (h c hc)
  rw [List.takeWhile_append_of_pos plain, List.dropWhile_append_of_pos plain]
  obtain rfl | ht := ht
  · simp
  · cases tail with
    | nil => cases ht
    | cons c tail =>
      obtain rfl := Option.some.inj ht
      simp

lemma shown_whole (h : ∀ c ∈ whole, c.isDigit) (ht : Marked tail) :
    shown (whole ++ tail) = Nat.ofDigitChars 10 whole 0 * 10 ^ shownExponent tail := by
  have plain := plain_of_digits h
  obtain ⟨before, after⟩ := split_marked (fun c hc => (plain c hc).1) ht
  have unpointed : (whole ++ []).dropWhile (· ≠ '.') = [].dropWhile (· ≠ '.') :=
    List.dropWhile_append_of_pos fun c hc => decide_eq_true (plain c hc).2
  rw [List.append_nil, List.dropWhile_nil] at unpointed
  simp only [shown, before, after, unpointed, filter_digits h, List.drop_nil, List.length_nil,
    Nat.cast_zero, Int.sub_zero]

lemma shown_pointed (h : ∀ c ∈ whole, c.isDigit) (hp : ∀ c ∈ part, c.isDigit) (ht : Marked tail) :
    shown (whole ++ '.' :: part ++ tail) = Nat.ofDigitChars 10 (whole ++ part) 0 *
      10 ^ (shownExponent tail - part.length) := by
  have unmarked : ∀ c ∈ whole ++ '.' :: part, c ≠ 'e' := by
    intro c hc
    obtain hc | hc := List.mem_append.1 hc
    · exact (plain_of_digits h c hc).1
    · obtain rfl | hc := List.mem_cons.1 hc
      · decide
      · exact (plain_of_digits hp c hc).1
  obtain ⟨before, after⟩ := split_marked unmarked ht
  have behind : (whole ++ '.' :: part).dropWhile (· ≠ '.') = '.' :: part := by
    rw [List.dropWhile_append_of_pos fun c hc => decide_eq_true (plain_of_digits h c hc).2]
    exact List.dropWhile_cons_of_neg (by decide)
  have digits : (whole ++ '.' :: part).filter (· ≠ '.') = whole ++ part := by
    rw [List.filter_append, List.filter_cons_of_neg (by decide), filter_digits h, filter_digits hp]
  simp only [shown, before, after, behind, digits, List.drop_one, List.tail_cons]

lemma marked_nil : Marked [] :=
  .inl rfl

lemma marked_exponent (exponent : Int) : Marked (exponentText exponent) :=
  .inr rfl

lemma shown_positional (h : ∀ c ∈ ds, c.isDigit) (exponent : Int) :
    shown (positional ds exponent) = Nat.ofDigitChars 10 ds 0 * 10 ^ exponent := by
  have ten : (10 : ℚ) ≠ 0 := by norm_num
  rw [positional]
  split_ifs with integral inside
  · obtain ⟨n, rfl⟩ := Int.eq_ofNat_of_zero_le integral
    have digits : ∀ c ∈ ds ++ zeros n, c.isDigit := by
      intro c hc
      exact (List.mem_append.1 hc).elim (h c) (Json.isDigit_zeros n c)
    have zero : ∀ c ∈ ['0'], c.isDigit := by simp
    have text := shown_pointed digits zero marked_nil
    rw [List.append_nil] at text
    rw [Int.toNat_natCast, text, Nat.ofDigitChars_append, Nat.ofDigitChars_append, zeros,
      Nat.ofDigitChars_replicate_zero]
    simp [shownExponent, Nat.ofDigitChars_cons]
    ring
  · obtain ⟨k, hk⟩ := Int.eq_ofNat_of_zero_le inside.le
    have before : ∀ c ∈ ds.take k, c.isDigit := fun c hc => h c (List.mem_of_mem_take hc)
    have behind : ∀ c ∈ ds.drop k, c.isDigit := fun c hc => h c (List.mem_of_mem_drop hc)
    have text := shown_pointed before behind marked_nil
    have places : shownExponent [] - (ds.drop k).length = exponent := by
      rw [List.length_drop, shownExponent_nil]
      omega
    rw [List.append_nil, List.take_append_drop, places] at text
    rw [hk, Int.toNat_natCast, text]
  · have digits : ∀ c ∈ zeros (-(ds.length + exponent)).toNat ++ ds, c.isDigit := by
      intro c hc
      exact (List.mem_append.1 hc).elim (Json.isDigit_zeros _ c) (h c)
    have zero : ∀ c ∈ ['0'], c.isDigit := by simp
    have text := shown_pointed zero digits marked_nil
    have places : shownExponent [] - (zeros (-(ds.length + exponent)).toNat ++ ds).length =
        exponent := by
      rw [List.length_append, zeros, List.length_replicate, shownExponent_nil]
      omega
    have value : Nat.ofDigitChars 10
        (['0'] ++ (zeros (-(ds.length + exponent)).toNat ++ ds)) 0 = Nat.ofDigitChars 10 ds 0 := by
      rw [Nat.ofDigitChars_append, Nat.ofDigitChars_append, zeros,
        Nat.ofDigitChars_replicate_zero]
      simp [Nat.ofDigitChars_cons]
    rw [List.append_nil, places, value] at text
    exact text

lemma shownExponent_text (exponent : Int) : shownExponent (exponentText exponent) = exponent := by
  have digits : (toString exponent.natAbs).toList = Nat.toDigits 10 exponent.natAbs :=
    Nat.toList_repr
  have value : Nat.ofDigitChars 10 (if (Nat.toDigits 10 exponent.natAbs).length < 2
      then '0' :: Nat.toDigits 10 exponent.natAbs else Nat.toDigits 10 exponent.natAbs) 0 =
        exponent.natAbs := by
    split_ifs
    · rw [Nat.ofDigitChars_cons]
      exact Nat.ofDigitChars_ten_toDigits
    · exact Nat.ofDigitChars_ten_toDigits
  simp only [exponentText, digits]
  by_cases negative : exponent < 0
  · rw [if_pos negative, shownExponent, value]
    omega
  · rw [if_neg negative, shownExponent, value]
    · omega
    · exact fun minus => absurd minus (by decide)

lemma shown_scientific (h : ∀ c ∈ ds, c.isDigit) (hd : ds ≠ []) (top : Int) :
    shown (scientific ds top) = Nat.ofDigitChars 10 ds 0 * 10 ^ (top + 1 - ds.length) := by
  cases ds with
  | nil => exact absurd rfl hd
  | cons d r =>
    have first : ∀ c ∈ [d], c.isDigit := List.forall_mem_singleton.2 (h d List.mem_cons_self)
    cases r with
    | nil =>
      have text := shown_whole first (marked_exponent top)
      rw [shownExponent_text] at text
      rw [List.length_singleton, Nat.cast_one, Int.add_sub_cancel]
      exact text
    | cons c r =>
      have rest : ∀ x ∈ c :: r, x.isDigit := fun x hx => h x (List.mem_cons_of_mem d hx)
      have text := shown_pointed first rest (marked_exponent top)
      have places : top - (c :: r).length = top + 1 - (d :: c :: r).length := by
        simp only [List.length_cons]
        omega
      rw [shownExponent_text, places] at text
      exact text

theorem shown_text (d : Decimal) : shown d.text = d.value := by
  have text : (toString d.coefficient).toList = Nat.toDigits 10 d.coefficient := Nat.toList_repr
  have digits : ∀ c ∈ Nat.toDigits 10 d.coefficient, c.isDigit :=
    fun c hc => Nat.isDigit_of_mem_toDigits (by decide) (by decide) hc
  simp only [Decimal.text, text, Decimal.value]
  split_ifs
  · rw [shown_positional digits, Nat.ofDigitChars_ten_toDigits]
  · have places : d.exponent + (Nat.toDigits 10 d.coefficient).length - 1 + 1 -
        (Nat.toDigits 10 d.coefficient).length = d.exponent := by omega
    rw [shown_scientific digits Nat.toDigits_ne_nil, Nat.ofDigitChars_ten_toDigits, places]

variable {s t : Nat} {x y : Binary64}

lemma value_shortest_pos (h : 0 < s) (hf : s < infinityStep) : 0 < (shortest s).value := by
  have digits : (0 : ℚ) < (shortest s).coefficient := by exact_mod_cast shortest_pos h hf
  rw [Decimal.value]
  positivity

lemma shown_zero (words : Words) : shown (magnitudeText words 0) = 0 := by
  have digit : ∀ c ∈ ['0'], c.isDigit := by simp
  have text := shown_pointed digit digit marked_nil
  simp only [List.append_nil, List.cons_append, List.nil_append] at text
  rw [magnitudeText, if_pos rfl, text]
  simp [Nat.ofDigitChars_cons]

lemma shown_magnitude (words : Words) (h : 0 < s) (hf : s < infinityStep) :
    shown (magnitudeText words s) = (shortest s).value := by
  rw [magnitudeText, if_neg h.ne', if_pos hf, shown_text]

lemma magnitudeText_inj {words : Words} (hs : s < infinityStep) (ht : t < infinityStep)
    (h : magnitudeText words s = magnitudeText words t) : s = t := by
  have same := congrArg shown h
  obtain rfl | hs₀ := Nat.eq_zero_or_pos s
  · obtain rfl | ht₀ := Nat.eq_zero_or_pos t
    · rfl
    · rw [shown_zero, shown_magnitude words ht₀ ht] at same
      exact absurd same (value_shortest_pos ht₀ ht).ne
  · obtain rfl | ht₀ := Nat.eq_zero_or_pos t
    · rw [shown_zero, shown_magnitude words hs₀ hs] at same
      exact absurd same (value_shortest_pos hs₀ hs).ne'
    · rw [shown_magnitude words hs₀ hs, shown_magnitude words ht₀ ht] at same
      exact step_unique (roundsTo_shortest hs) (roundsTo_shortest ht) same

lemma not_minus_of_unsigned {cs : List Char} (h : Json.Unsigned cs) : cs.head? ≠ some '-' := by
  obtain ⟨rfl | ⟨c, r, rfl, digit, -⟩, -, -⟩ := h
  · simp
  · intro minus
    obtain rfl := Option.some.inj minus
    exact absurd digit (by decide)

theorem textWith_inj (hx : x.isFinite) (hy : y.isFinite)
    (h : x.textWith Json.numberWords = y.textWith Json.numberWords) : x = y := by
  cases x with
  | nan => cases hx
  | number p s =>
    cases y with
    | nan => cases hy
    | number q t =>
      rw [isFinite_number] at hx hy
      have unsigned_left := not_minus_of_unsigned (Json.unsigned_magnitude hx)
      have unsigned_right := not_minus_of_unsigned (Json.unsigned_magnitude hy)
      have same := String.ofList_injective h
      have steps (magnitudes : magnitudeText Json.numberWords s =
          magnitudeText Json.numberWords t) : s = t := Fin.ext (magnitudeText_inj hx hy magnitudes)
      cases p with
      | false =>
        cases q with
        | false => rw [steps same]
        | true => exact absurd (congrArg List.head? same) unsigned_left
      | true =>
        cases q with
        | false => exact absurd (congrArg List.head? same).symm unsigned_right
        | true => rw [steps (List.cons.inj same).2]

end Telematics.Binary64
