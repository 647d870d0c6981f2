import Mathlib.Algebra.Order.Field.Power
import Mathlib.Tactic.FieldSimp
import Telematics.Proofs.Binary64.Shortest
import Telematics.Proofs.Binary64.Value

/-! The reals that round to a step. -/

namespace Telematics.Binary64

variable {s t step point : Nat} {exponent : Int}

lemma log2_units (h : binade ≤ s) : (units s).log2 = 52 + (s / binade - 1) := by
  have hb : 0 < binade := Nat.two_pow_pos 52
  have low := Nat.mod_lt s hb
  have size : 2 ^ (52 + (s / binade - 1)) = binade * 2 ^ (s / binade - 1) := Nat.pow_add 2 _ _
  rw [Nat.log2_eq_iff (units_pos (hb.trans_le h)).ne', Nat.pow_succ, size,
    units_of_le h]
  generalize s % binade = m at low
  constructor
  · exact Nat.mul_le_mul_right _ (Nat.le_add_right _ _)
  · rw [Nat.mul_right_comm]
    exact Nat.mul_lt_mul_of_pos_right (by omega) (Nat.two_pow_pos _)

lemma units_succ (s : Nat) : units (s + 1) = units s + 2 ^ ((units s).log2 - 52) := by
  have hb : 0 < binade := Nat.two_pow_pos 52
  by_cases hs : s < binade
  · have small : s.log2 < 52 := log2_lt_of_lt (by decide) hs
    have gap : s.log2 - 52 = 0 := by omega
    rw [units_of_lt hs, gap, Nat.pow_zero]
    obtain below | first := Nat.lt_or_eq_of_le (Nat.succ_le_of_lt hs)
    · exact units_of_lt below
    · rw [Nat.succ_eq_add_one] at first
      rw [units_of_le first.ge, first, Nat.mod_self, Nat.div_self hb]
      rfl
  · have reached := Nat.not_lt.1 hs
    have split := Nat.div_add_mod s binade
    have low := Nat.mod_lt s hb
    have quotient : 0 < s / binade := Nat.div_pos reached hb
    rw [log2_units reached, Nat.add_sub_cancel_left, units_of_le reached,
      units_of_le (reached.trans (Nat.le_succ s)), ← Nat.succ_mul]
    obtain inside | last := Nat.lt_or_eq_of_le (Nat.succ_le_of_lt low)
    · have next : (s + 1) / binade = s / binade ∧ (s + 1) % binade = s % binade + 1 := by
        rw [Nat.div_mod_unique hb]
        omega
      rw [next.1, next.2]
      rfl
    · -- the last step of a binade, and the gap of the next one is twice as wide
      have next : (s + 1) / binade = s / binade + 1 ∧ (s + 1) % binade = 0 := by
        rw [Nat.div_mod_unique hb, Nat.mul_succ]
        omega
      obtain ⟨k, hk⟩ := Nat.exists_eq_succ_of_ne_zero quotient.ne'
      rw [next.1, next.2, hk, Nat.succ_eq_add_one, Nat.add_sub_cancel, Nat.add_sub_cancel,
        Nat.pow_succ, Nat.add_zero]
      have double : (binade + s % binade).succ = binade * 2 := by omega
      rw [double]
      ring

lemma units_strictMono : StrictMono units := by
  apply strictMono_nat_of_lt_succ
  intro s
  have gap : 0 < 2 ^ ((units s).log2 - 52) := Nat.two_pow_pos _
  rw [units_succ]
  omega

lemma roundsTo_of_gridPoint? (h : gridPoint? step exponent = some point) :
    roundsTo step (gridScale exponent) point = true := by
  simp only [gridPoint?] at h
  split at h
  · rename_i below above
    obtain rfl := Option.some.inj h
    simp only [roundHalfEven]
    split_ifs
    · exact below
    · exact above
    · exact below
    · exact above
  · rename_i below _
    obtain rfl := Option.some.inj h
    exact below
  · rename_i _ above
    obtain rfl := Option.some.inj h
    exact above
  · cases h

lemma gridPoint?_isSome
    (h : 2 * (gridScale exponent).2 < 2 ^ ((units step).log2 - 52) * (gridScale exponent).1) :
    (gridPoint? step exponent).isSome := by
  have low := units_strictMono.monotone (Nat.sub_le step 1)
  have gap := units_succ step
  have positive := (gridScale_pos exponent).2
  have above : roundsTo step (gridScale exponent)
      (units step * (gridScale exponent).1 / (gridScale exponent).2 + 1) = true := by
    generalize gridScale exponent = scale at h positive
    generalize 2 ^ ((units step).log2 - 52) = width at h gap
    have beyond : units step * scale.1 < (units step * scale.1 / scale.2 + 1) * scale.2 :=
      Nat.lt_mul_of_div_lt (Nat.lt_succ_self _) positive
    have near :
        (units step * scale.1 / scale.2 + 1) * scale.2 ≤ units step * scale.1 + scale.2 := by
      rw [Nat.succ_mul]
      exact Nat.add_le_add_right (Nat.div_mul_le_self _ _) _
    have down : units (step - 1) * scale.1 ≤ units step * scale.1 := Nat.mul_le_mul_right _ low
    have up : units (step + 1) * scale.1 = units step * scale.1 + width * scale.1 := by
      rw [gap, Nat.add_mul]
    simp only [roundsTo, Nat.add_mul, Nat.mul_assoc]
    rw [Nat.add_mul] at beyond near
    split_ifs
    · simp only [Bool.and_eq_true, decide_eq_true_eq]
      omega
    · simp only [Bool.and_eq_true, decide_eq_true_eq]
      omega
  simp only [gridPoint?, above]
  cases roundsTo step (gridScale exponent)
    (units step * (gridScale exponent).1 / (gridScale exponent).2) with
  | true | false => rfl

lemma roundsTo_coarsest {fuel n : Nat} (hn : n < fuel)
    (h : (gridPoint? step (exponent - n)).isSome) :
    roundsTo step (gridScale (coarsest step fuel exponent).exponent)
      (coarsest step fuel exponent).coefficient = true := by
  induction fuel generalizing exponent n with
  | zero => exact absurd hn (Nat.not_lt_zero n)
  | succ fuel ih =>
    rw [coarsest]
    cases hp : gridPoint? step exponent with
    | some point => exact roundsTo_of_gridPoint? hp
    | none =>
      cases n with
      | zero =>
        rw [Nat.cast_zero, Int.sub_zero, hp] at h
        cases h
      | succ n =>
        apply ih (Nat.lt_of_succ_lt_succ hn)
        have shift : exponent - (n + 1 : Nat) = exponent - 1 - n := by omega
        rwa [← shift]

lemma ten_pow_le_two_pow (n : Nat) : 10 ^ n ≤ 2 ^ ((196 * n + 58) / 59) := by
  have rest : ∀ r < 59, 10 ^ r ≤ 2 ^ ((196 * r + 58) / 59) := by decide +kernel
  have whole : 10 ^ 59 ≤ 2 ^ 196 := by decide
  have split := Nat.div_add_mod n 59
  have place : (196 * n + 58) / 59 = 196 * (n / 59) + (196 * (n % 59) + 58) / 59 := by omega
  calc 10 ^ n = (10 ^ 59) ^ (n / 59) * 10 ^ (n % 59) := by rw [← Nat.pow_mul, ← Nat.pow_add, split]
    _ ≤ (2 ^ 196) ^ (n / 59) * 2 ^ ((196 * (n % 59) + 58) / 59) :=
      Nat.mul_le_mul (Nat.pow_le_pow_left whole _) (rest _ (Nat.mod_lt n (by decide)))
    _ = 2 ^ ((196 * n + 58) / 59) := by rw [← Nat.pow_mul, ← Nat.pow_add, place]

lemma two_pow_le_ten_pow (n : Nat) : 2 ^ (93 * n / 28) ≤ 10 ^ n := by
  have rest : ∀ r < 28, 2 ^ (93 * r / 28) ≤ 10 ^ r := by decide +kernel
  have whole : 2 ^ 93 ≤ 10 ^ 28 := by decide
  have split := Nat.div_add_mod n 28
  have place : 93 * n / 28 = 93 * (n / 28) + 93 * (n % 28) / 28 := by omega
  calc 2 ^ (93 * n / 28) = (2 ^ 93) ^ (n / 28) * 2 ^ (93 * (n % 28) / 28) := by
        rw [← Nat.pow_mul, ← Nat.pow_add, place]
    _ ≤ (10 ^ 28) ^ (n / 28) * 10 ^ (n % 28) :=
      Nat.mul_le_mul (Nat.pow_le_pow_left whole _) (rest _ (Nat.mod_lt n (by decide)))
    _ = 10 ^ n := by rw [← Nat.pow_mul, ← Nat.pow_add, split]

lemma fine_top (hf : step < infinityStep) :
    2 * (gridScale (topExponent step - (19 : Nat))).2 <
      2 ^ ((units step).log2 - 52) * (gridScale (topExponent step - (19 : Nat))).1 := by
  have size := log2_units_lt hf
  -- the decimal logarithm of two lies between 59 / 196 and 28 / 93, and 30103 / 100000 next to it
  obtain ⟨one, ho, hu⟩ : ∃ one, one = 1074 ∧ unitsInOne = 2 ^ one := ⟨1074, rfl, by decide +kernel⟩
  rw [gridScale, topExponent, hu]
  generalize (units step).log2 = l at size ⊢
  generalize he : ((l : Int) - 1073) * 30103 / 100000 + 1 - (19 : Nat) = place
  split_ifs with positive
  · have fine : one + 1 + (196 * place.toNat + 58) / 59 < l - 52 := by omega
    calc 2 * (2 ^ one * 10 ^ place.toNat)
        = 2 ^ (one + 1) * 10 ^ place.toNat := by rw [Nat.pow_succ]; ring
      _ ≤ 2 ^ (one + 1) * 2 ^ ((196 * place.toNat + 58) / 59) :=
        Nat.mul_le_mul_left _ (ten_pow_le_two_pow _)
      _ = 2 ^ (one + 1 + (196 * place.toNat + 58) / 59) := (Nat.pow_add 2 _ _).symm
      _ < 2 ^ (l - 52) := Nat.pow_lt_pow_right (by decide) fine
      _ = 2 ^ (l - 52) * 1 := (Nat.mul_one _).symm
  · have fine : one + 1 < l - 52 + 93 * (-place).toNat / 28 := by omega
    calc 2 * 2 ^ one = 2 ^ (one + 1) := by rw [Nat.pow_succ, Nat.mul_comm]
      _ < 2 ^ (l - 52 + 93 * (-place).toNat / 28) := Nat.pow_lt_pow_right (by decide) fine
      _ = 2 ^ (l - 52) * 2 ^ (93 * (-place).toNat / 28) := Nat.pow_add 2 _ _
      _ ≤ 2 ^ (l - 52) * 10 ^ (-place).toNat := Nat.mul_le_mul_left _ (two_pow_le_ten_pow _)

theorem roundsTo_shortest (hf : step < infinityStep) :
    roundsTo step (gridScale (shortest step).exponent) (shortest step).coefficient = true :=
  roundsTo_coarsest (by decide) (gridPoint?_isSome (fine_top hf))

def Decimal.value (d : Decimal) : ℚ :=
  d.coefficient * 10 ^ d.exponent

lemma gridScale_value (exponent : Int) :
    ((gridScale exponent).2 : ℚ) = unitsInOne * 10 ^ exponent * (gridScale exponent).1 := by
  rw [gridScale]
  generalize unitsInOne = one
  split_ifs with positive
  · obtain ⟨n, rfl⟩ := Int.eq_ofNat_of_zero_le positive
    simp
  · obtain ⟨n, hn⟩ := Int.exists_eq_neg_ofNat (Int.le_of_lt (Int.not_le.1 positive))
    have power : (10 : ℚ) ^ n ≠ 0 := pow_ne_zero n (by norm_num)
    rw [hn]
    simp [power]

/-- A decimal that rounds to a step lies between the middles to the neighbors, and strictly so if
the step is odd. -/
lemma between_of_roundsTo {d : Decimal}
    (h : roundsTo s (gridScale d.exponent) d.coefficient = true) :
    (units (s - 1) + units s : Nat) ≤ 2 * d.value * unitsInOne ∧
    2 * d.value * unitsInOne ≤ (units s + units (s + 1) : Nat) ∧
    (s % 2 = 1 → (units (s - 1) + units s : Nat) < 2 * d.value * unitsInOne ∧
      2 * d.value * unitsInOne < (units s + units (s + 1) : Nat)) := by
  have scaled : (0 : ℚ) < (gridScale d.exponent).1 := by
    exact_mod_cast (gridScale_pos d.exponent).1
  have point : ((2 * d.coefficient * (gridScale d.exponent).2 : Nat) : ℚ) =
      2 * d.value * unitsInOne * (gridScale d.exponent).1 := by
    push_cast
    rw [gridScale_value, Decimal.value]
    ring
  simp only [roundsTo] at h
  generalize units (s - 1) + units s = low at h ⊢
  generalize units s + units (s + 1) = high at h ⊢
  generalize 2 * d.coefficient * (gridScale d.exponent).2 = x at h point
  generalize (gridScale d.exponent).1 = scale at h scaled point
  have weak : low * scale ≤ x ∧ x ≤ high * scale := by
    split_ifs at h
    · simpa using h
    · simp only [Bool.and_eq_true, decide_eq_true_eq] at h
      omega
  refine ⟨?_, ?_, ?_⟩
  · rw [← mul_le_mul_iff_of_pos_right scaled, ← point]
    exact_mod_cast weak.1
  · rw [← mul_le_mul_iff_of_pos_right scaled, ← point]
    exact_mod_cast weak.2
  · intro odd
    rw [if_neg (by omega)] at h
    simp only [Bool.and_eq_true, decide_eq_true_eq] at h
    constructor
    · rw [← mul_lt_mul_iff_of_pos_right scaled, ← point]
      exact_mod_cast h.1
    · rw [← mul_lt_mul_iff_of_pos_right scaled, ← point]
      exact_mod_cast h.2

lemma not_roundsTo_both {d e : Decimal} (less : s < t)
    (hd : roundsTo s (gridScale d.exponent) d.coefficient = true)
    (he : roundsTo t (gridScale e.exponent) e.coefficient = true) : d.value ≠ e.value := by
  intro same
  obtain ⟨-, high, strict⟩ := between_of_roundsTo hd
  obtain ⟨low, -, strict'⟩ := between_of_roundsTo he
  rw [same] at high strict
  have first : units s ≤ units (t - 1) := units_strictMono.monotone (by omega)
  have second : units (s + 1) ≤ units t := units_strictMono.monotone less
  have together : units (t - 1) + units t ≤ units s + units (s + 1) := by
    exact_mod_cast low.trans high
  -- the intervals have an end in common, so the steps are neighbors and one of them is odd
  have neighbors : s + 1 = t := by
    apply units_strictMono.injective
    omega
  have ends : units s + units (s + 1) = units (t - 1) + units t := by omega
  obtain even | odd := Nat.mod_two_eq_zero_or_one s
  · have above := (strict' (by omega)).1
    rw [← ends] at above
    linarith
  · have below := (strict odd).2
    rw [ends] at below
    linarith

theorem step_unique {d e : Decimal} (hd : roundsTo s (gridScale d.exponent) d.coefficient = true)
    (he : roundsTo t (gridScale e.exponent) e.coefficient = true) (same : d.value = e.value) :
    s = t := by
  obtain less | rfl | more := Nat.lt_trichotomy s t
  · exact absurd same (not_roundsTo_both less hd he)
  · rfl
  · exact absurd same.symm (not_roundsTo_both more he hd)

end Telematics.Binary64
