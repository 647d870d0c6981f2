import Telematics.Json
import Telematics.Proofs.Binary64.Shortest
import Telematics.Proofs.Json.Grammar

namespace Telematics.Json

variable {n : Nat} {t : List Char}

lemma toDigits_of_pos (h : 0 < n) : ∃ c r, Nat.toDigits 10 n = c :: r ∧ c.isDigit ∧ c ≠ '0' ∧
    ∀ d ∈ r, d.isDigit := by
  induction n using Nat.strongRecOn with
  | ind n ih =>
    rw [Nat.toDigits_eq_if (by decide)]
    by_cases hn : n < 10
    · refine ⟨n.digitChar, [], if_pos hn, ?_, ?_, by simp⟩
      · rw [Nat.isDigit_digitChar]
        exact decide_eq_true hn
      · rw [ne_eq, Nat.digitChar_eq_zero]
        exact h.ne'
    · obtain ⟨c, r, hr, hc, hz, hd⟩ := ih (n / 10) (by omega) (by omega)
      refine ⟨c, r ++ [(n % 10).digitChar], ?_, hc, hz, ?_⟩
      · rw [if_neg hn, hr, List.cons_append]
      · intro d hm
        obtain hm | hm := List.mem_append.1 hm
        · exact hd d hm
        · rw [List.mem_singleton.1 hm, Nat.isDigit_digitChar]
          exact decide_eq_true (Nat.mod_lt n (by decide))

lemma digits_toString (n : Nat) : Digits (toString n).toList := by
  have text : (toString n).toList = Nat.toDigits 10 n := Nat.toList_repr
  rw [text]
  exact ⟨Nat.toDigits_ne_nil, fun c hc => Nat.isDigit_of_mem_toDigits (by decide) (by decide) hc⟩

lemma integral_toString (n : Nat) : Integral (toString n).toList := by
  have text : (toString n).toList = Nat.toDigits 10 n := Nat.toList_repr
  rw [text]
  obtain rfl | h := Nat.eq_zero_or_pos n
  · exact .inl rfl
  · exact .inr (toDigits_of_pos h)

lemma unsigned_integral (h : Integral t) : Unsigned t := by
  have number := Unsigned.mk h .absent .absent
  rwa [List.append_nil, List.append_nil] at number

lemma unsigned_fraction {f : List Char} (ht : Integral t) (hf : Digits f) :
    Unsigned (t ++ '.' :: f) := by
  have number := Unsigned.mk ht (.present hf) .absent
  rwa [List.append_nil] at number

lemma isNumber_int (n : Int) : IsNumber (toString n).toList := by
  cases n with
  | ofNat n => exact .unsigned (unsigned_integral (integral_toString n))
  | negSucc n =>
    have text : (toString (Int.negSucc n)).toList = '-' :: (toString (n + 1)).toList :=
      String.toList_append
    rw [text]
    exact .minus (unsigned_integral (integral_toString (n + 1)))

lemma Digits.append {s : List Char} (hs : ∀ c ∈ s, c.isDigit) (ht : Digits t) : Digits (s ++ t) :=
  ⟨List.append_ne_nil_of_right_ne_nil s ht.1,
    fun c hc => (List.mem_append.1 hc).elim (hs c) (ht.2 c)⟩

lemma isDigit_zeros (n : Nat) : ∀ c ∈ Binary64.zeros n, c.isDigit := by
  intro c hc
  rw [List.eq_of_mem_replicate hc]
  rfl

section Decimal

variable {c : Char} {r : List Char} {exponent : Int}

lemma unsigned_positional (hc : c.isDigit) (hz : c ≠ '0') (hr : ∀ d ∈ r, d.isDigit) :
    Unsigned (Binary64.positional (c :: r) exponent) := by
  have all : Digits (c :: r) := ⟨by simp, by simpa using ⟨hc, hr⟩⟩
  have whole {u : List Char} (hu : ∀ d ∈ u, d.isDigit) : Integral (c :: u) :=
    .inr ⟨c, u, rfl, hc, hz, hu⟩
  rw [Binary64.positional]
  split_ifs with h₁ h₂
  · have digits : ∀ d ∈ r ++ Binary64.zeros exponent.toNat, d.isDigit := by
      intro d hd
      exact (List.mem_append.1 hd).elim (hr d) (isDigit_zeros _ d)
    exact unsigned_fraction (whole digits) ⟨by simp, by simp⟩
  · -- the point stands among the digits
    obtain ⟨k, hk⟩ : ∃ k, ((c :: r).length + exponent).toNat = k + 1 :=
      ⟨((c :: r).length + exponent).toNat - 1, by omega⟩
    have short : k < r.length := by
      rw [List.length_cons] at hk
      omega
    rw [hk, List.take_succ_cons, List.drop_succ_cons]
    refine unsigned_fraction (whole fun d hd => hr d (List.mem_of_mem_take hd)) ⟨?_, ?_⟩
    · rw [ne_eq, List.drop_eq_nil_iff]
      omega
    · exact fun d hd => hr d (List.mem_of_mem_drop hd)
  · exact unsigned_fraction (.inl rfl) (all.append (isDigit_zeros _))

lemma isExponent_text (exponent : Int) : IsExponent (Binary64.exponentText exponent) := by
  have digits := digits_toString exponent.natAbs
  rw [Binary64.exponentText]
  refine .signed (by simp) ?_ ?_
  · split_ifs <;> simp
  · split_ifs
    · exact Digits.append (s := ['0']) (by simp) digits
    · exact digits

lemma unsigned_scientific (hc : c.isDigit) (hz : c ≠ '0') (hr : ∀ d ∈ r, d.isDigit) :
    Unsigned (Binary64.scientific (c :: r) exponent) := by
  have first : Integral [c] := .inr ⟨c, [], rfl, hc, hz, by simp⟩
  cases r with
  | nil => exact .mk (f := []) first .absent (isExponent_text exponent)
  | cons d r => exact .mk first (.present ⟨by simp, hr⟩) (isExponent_text exponent)

lemma unsigned_decimal {x : Binary64.Decimal} (h : 0 < x.coefficient) : Unsigned x.text := by
  have text : (toString x.coefficient).toList = Nat.toDigits 10 x.coefficient := Nat.toList_repr
  obtain ⟨c, r, hr, hc, hz, hd⟩ := toDigits_of_pos h
  simp only [Binary64.Decimal.text, text, hr]
  split_ifs
  · exact unsigned_positional hc hz hd
  · exact unsigned_scientific hc hz hd

end Decimal

lemma unsigned_magnitude {step : Nat} (h : step < Binary64.infinityStep) :
    Unsigned (Binary64.magnitudeText numberWords step) := by
  rw [Binary64.magnitudeText]
  by_cases hs : step = 0
  · rw [if_pos hs]
    exact unsigned_fraction (.inl rfl) ⟨by simp, by simp⟩
  · rw [if_neg hs, if_pos h]
    exact unsigned_decimal (Binary64.shortest_pos (Nat.pos_of_ne_zero hs) h)

theorem isNumber_float {x : Binary64} (h : x.isFinite) :
    IsNumber (x.textWith numberWords).toList := by
  cases x with
  | nan => cases h
  | number negative step =>
    rw [Binary64.isFinite_number] at h
    have magnitude := unsigned_magnitude h
    simp only [Binary64.textWith, String.toList_ofList]
    cases negative with
    | true => exact .minus magnitude
    | false => exact .unsigned magnitude

lemma point_mem_positional (ds : List Char) (exponent : Int) :
    '.' ∈ Binary64.positional ds exponent := by
  rw [Binary64.positional]
  split_ifs <;> simp

lemma mark_mem_scientific {ds : List Char} (hd : ds ≠ []) (exponent : Int) :
    'e' ∈ Binary64.scientific ds exponent := by
  cases ds with
  | nil => exact absurd rfl hd
  | cons d r =>
    cases r with
    | nil => simp [Binary64.scientific, Binary64.exponentText]
    | cons c r => simp [Binary64.scientific, Binary64.exponentText]

lemma marked_float {x : Binary64} (h : x.isFinite) :
    ∃ c ∈ (x.textWith numberWords).toList, c ∈ ['.', 'e', 'E'] := by
  have decimal (d : Binary64.Decimal) : ∃ c ∈ d.text, c ∈ ['.', 'e', 'E'] := by
    have digits : (toString d.coefficient).toList ≠ [] := (digits_toString d.coefficient).1
    rw [Binary64.Decimal.text]
    split_ifs
    · exact ⟨'.', point_mem_positional _ _, by simp⟩
    · exact ⟨'e', mark_mem_scientific digits _, by simp⟩
  have magnitude {step : Nat} (hs : step < Binary64.infinityStep) :
      ∃ c ∈ Binary64.magnitudeText numberWords step, c ∈ ['.', 'e', 'E'] := by
    rw [Binary64.magnitudeText]
    by_cases zero : step = 0
    · rw [if_pos zero]
      exact ⟨'.', by simp, by simp⟩
    · rw [if_neg zero, if_pos hs]
      exact decimal _
  cases x with
  | nan => cases h
  | number negative step =>
    rw [Binary64.isFinite_number] at h
    obtain ⟨c, hc, mark⟩ := magnitude h
    simp only [Binary64.textWith, String.toList_ofList]
    cases negative with
    | true => exact ⟨c, List.mem_cons_of_mem _ hc, mark⟩
    | false => exact ⟨c, hc, mark⟩

lemma magnitudeText_infinite {step : Nat} (h : ¬ step < Binary64.infinityStep) :
    Binary64.magnitudeText numberWords step = "Infinity".toList := by
  have top : 0 < Binary64.infinityStep := by decide +kernel
  rw [Binary64.magnitudeText, if_neg (by omega), if_neg h]
  rfl

lemma scan_float {x : Binary64} (h : ¬ x.isFinite) :
    (x.textWith numberWords).toList.foldl scan (some .outside) = none := by
  cases x with
  | nan => rfl
  | number negative step =>
    rw [Binary64.isFinite_number] at h
    simp only [Binary64.textWith, String.toList_ofList, magnitudeText_infinite h]
    cases negative with
    | true => rfl
    | false => rfl

end Telematics.Json
