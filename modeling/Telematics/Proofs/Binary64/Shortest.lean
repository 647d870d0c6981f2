import Telematics.Binary64.Shortest
import Telematics.Proofs.Binary64.Rounding

namespace Telematics.Binary64

variable {step point : Nat} {exponent : Int}

lemma units_pos (h : 0 < step) : 0 < units step := by
  by_cases hs : step < binade
  · rwa [units_of_lt hs]
  · rw [units_of_le (Nat.not_lt.1 hs)]
    have hb : 0 < binade := Nat.two_pow_pos 52
    exact Nat.mul_pos (by omega) (Nat.two_pow_pos _)

lemma gridScale_pos (exponent : Int) : 0 < (gridScale exponent).1 ∧ 0 < (gridScale exponent).2 := by
  have unit := unitsInOne_pos
  rw [gridScale]
  generalize unitsInOne = one at unit
  split_ifs
  · exact ⟨Nat.one_pos, Nat.mul_pos unit (Nat.pow_pos (by decide))⟩
  · exact ⟨Nat.pow_pos (by decide), unit⟩

lemma not_roundsTo_zero (h : 0 < step) {scale : Nat × Nat} (hs : 0 < scale.1) :
    roundsTo step scale 0 = false := by
  have low : 0 < (units (step - 1) + units step) * scale.1 :=
    Nat.mul_pos (Nat.add_pos_right _ (units_pos h)) hs
  simp only [roundsTo, Nat.mul_zero, Nat.zero_mul]
  generalize (units (step - 1) + units step) * scale.1 = n at low
  split_ifs
  · simp only [Bool.and_eq_false_iff, decide_eq_false_iff_not]
    omega
  · simp

lemma gridPoint?_pos (h : 0 < step) (hp : gridPoint? step exponent = some point) : 0 < point := by
  have scaled := (gridScale_pos exponent).1
  have below : ∀ n, roundsTo step (gridScale exponent) n = true → 0 < n := by
    intro n hn
    apply Nat.pos_of_ne_zero
    rintro rfl
    rw [not_roundsTo_zero h scaled] at hn
    cases hn
  simp only [gridPoint?] at hp
  split at hp
  · rename_i hb _
    obtain rfl := Option.some.inj hp
    exact (below _ hb).trans_le (le_roundHalfEven _ _)
  · rename_i hb _
    obtain rfl := Option.some.inj hp
    exact below _ hb
  · obtain rfl := Option.some.inj hp
    exact Nat.succ_pos _
  · cases hp

def Covers (exponent : Int) (units : Nat) : Prop :=
  (gridScale exponent).2 ≤ units * (gridScale exponent).1

lemma coarsest_pos (h : 0 < step) {fuel : Nat} (hc : Covers (exponent - fuel) (units step)) :
    0 < (coarsest step fuel exponent).coefficient := by
  induction fuel generalizing exponent with
  | zero =>
    rw [coarsest]
    rw [Nat.cast_zero, Int.sub_zero] at hc
    exact Nat.div_pos hc (gridScale_pos exponent).2
  | succ fuel ih =>
    rw [coarsest]
    cases hp : gridPoint? step exponent with
    | some point => exact gridPoint?_pos h hp
    | none =>
      apply ih
      have shift : exponent - (fuel + 1 : Nat) = exponent - 1 - fuel := by omega
      rwa [← shift]

lemma ten_pow_le (n : Nat) : 10 ^ n ≤ 2 ^ (10 * (n / 3 + 1)) := by
  calc 10 ^ n ≤ 10 ^ (3 * (n / 3 + 1)) := Nat.pow_le_pow_right (by decide) (by omega)
    _ = (10 ^ 3) ^ (n / 3 + 1) := Nat.pow_mul 10 3 _
    _ ≤ (2 ^ 10) ^ (n / 3 + 1) := Nat.pow_le_pow_left (by decide) _
    _ = 2 ^ (10 * (n / 3 + 1)) := (Nat.pow_mul 2 10 _).symm

lemma two_pow_le (n : Nat) : 2 ^ (33 * (n / 10)) ≤ 10 ^ n := by
  calc 2 ^ (33 * (n / 10)) = (2 ^ 33) ^ (n / 10) := Nat.pow_mul 2 33 _
    _ ≤ (10 ^ 10) ^ (n / 10) := Nat.pow_le_pow_left (by decide) _
    _ = 10 ^ (10 * (n / 10)) := (Nat.pow_mul 10 10 _).symm
    _ ≤ 10 ^ n := Nat.pow_le_pow_right (by decide) (by omega)

lemma log2_units_lt (h : step < infinityStep) : (units step).log2 < 2099 := by
  have hb : 0 < binade := Nat.two_pow_pos 52
  by_cases hs : step < binade
  · rw [units_of_lt hs]
    have small : step.log2 < 52 := log2_lt_of_lt (by decide) hs
    omega
  · rw [units_of_le (Nat.not_lt.1 hs)]
    have low := Nat.mod_lt step hb
    have last : step / binade < 2047 := Nat.div_lt_of_lt_mul (by rwa [Nat.mul_comm])
    have size : (binade + step % binade) * 2 ^ (step / binade - 1) <
        2 ^ (53 + (step / binade - 1)) := by
      rw [Nat.pow_add]
      exact Nat.mul_lt_mul_of_pos_right (by rw [binade_eq] at *; omega) (Nat.two_pow_pos _)
    have log := log2_lt_of_lt (by omega) size
    omega

lemma covers_top (h : 0 < step) (hf : step < infinityStep) :
    Covers (topExponent step - (20 : Nat)) (units step) := by
  have size := log2_units_lt hf
  have low : 2 ^ (units step).log2 ≤ units step := Nat.log2_self_le (units_pos h).ne'
  obtain ⟨one, ho, hu⟩ : ∃ one, one = 1074 ∧ unitsInOne = 2 ^ one := ⟨1074, rfl, by decide +kernel⟩
  rw [Covers, gridScale, topExponent, hu]
  generalize (units step).log2 = l at size low ⊢
  generalize he : ((l : Int) - 1073) * 30103 / 100000 + 1 - (20 : Nat) = place
  split_ifs with positive
  · have fine : one + 10 * (place.toNat / 3 + 1) ≤ l := by omega
    calc 2 ^ one * 10 ^ place.toNat
        ≤ 2 ^ one * 2 ^ (10 * (place.toNat / 3 + 1)) := Nat.mul_le_mul_left _ (ten_pow_le _)
      _ = 2 ^ (one + 10 * (place.toNat / 3 + 1)) := (Nat.pow_add 2 _ _).symm
      _ ≤ 2 ^ l := Nat.pow_le_pow_right (by decide) fine
      _ ≤ units step * 1 := by rwa [Nat.mul_one]
  · have fine : one ≤ l + 33 * ((-place).toNat / 10) := by omega
    calc 2 ^ one ≤ 2 ^ (l + 33 * ((-place).toNat / 10)) := Nat.pow_le_pow_right (by decide) fine
      _ = 2 ^ l * 2 ^ (33 * ((-place).toNat / 10)) := Nat.pow_add 2 _ _
      _ ≤ units step * 10 ^ (-place).toNat := Nat.mul_le_mul low (two_pow_le _)

theorem shortest_pos (h : 0 < step) (hf : step < infinityStep) :
    0 < (shortest step).coefficient :=
  coarsest_pos h (covers_top h hf)

end Telematics.Binary64
