import Mathlib.Tactic.Common
import Mathlib.Tactic.Ring
import Telematics.Binary64.Basic

namespace Telematics.Binary64

variable {num den m s : Nat}

lemma roundHalfEven_le (hd : 0 < den) (h : num ≤ m * den) : roundHalfEven num den ≤ m := by
  have quotient : num / den ≤ m := Nat.div_le_of_le_mul (by rwa [Nat.mul_comm])
  have split := Nat.div_add_mod num den
  simp only [roundHalfEven]
  obtain below | equal := Nat.lt_or_eq_of_le quotient
  · split_ifs <;> omega
  · -- the remainder is zero, so nothing is rounded up
    have rest : num % den = 0 := by
      rw [equal, Nat.mul_comm] at split
      omega
    simp only [rest, Nat.mul_zero, hd, if_true, equal, le_refl]

lemma le_roundHalfEven (num den : Nat) : num / den ≤ roundHalfEven num den := by
  simp only [roundHalfEven]
  split_ifs <;> omega

lemma lt_pow_of_log2 {n k : Nat} (h : n.log2 < k) : n < 2 ^ k := by
  by_cases hn : n = 0
  · rw [hn]
    exact Nat.two_pow_pos k
  · exact (Nat.log2_lt hn).1 h

lemma log2_lt_of_lt {n k : Nat} (hk : 0 < k) (h : n < 2 ^ k) : n.log2 < k := by
  by_cases hn : n = 0
  · rw [hn, Nat.log2_zero]
    exact hk
  · exact (Nat.log2_lt hn).2 h

lemma unitsInOne_pos : 0 < unitsInOne := by
  decide +kernel

lemma binade_eq : binade = 2 ^ 52 := rfl

lemma units_of_lt (h : s < binade) : units s = s :=
  if_pos h

lemma units_of_le (h : binade ≤ s) :
    units s = (binade + s % binade) * 2 ^ (s / binade - 1) :=
  if_neg (Nat.not_lt.2 h)

theorem nearestStep_le (hd : 0 < den) (h : num ≤ units s * den) :
    (nearestStep num den).val ≤ s := by
  have floor : num / den ≤ units s := Nat.div_le_of_le_mul (by rwa [Nat.mul_comm])
  have above : num < (num / den + 1) * den := Nat.lt_mul_of_div_lt (Nat.lt_succ_self _) hd
  refine (Nat.min_le_right _ _).trans ?_
  generalize num / den = v at floor above
  by_cases hs : s < binade
  · rw [units_of_lt hs] at floor h
    have small : v.log2 < 52 := log2_lt_of_lt (by decide) (floor.trans_lt hs)
    have scale : v.log2 - 52 = 0 := by omega
    rw [scale, Nat.zero_mul, Nat.zero_add]
    exact roundHalfEven_le (by simpa using hd) (by simpa using h)
  · have hb : 0 < binade := Nat.two_pow_pos 52
    have split := Nat.div_add_mod s binade
    have low := Nat.mod_lt s hb
    have first : 0 < s / binade := Nat.div_pos (Nat.not_lt.1 hs) hb
    rw [units_of_le (Nat.not_lt.1 hs)] at floor h
    obtain ⟨k, hk⟩ := Nat.exists_eq_succ_of_ne_zero first.ne'
    rw [hk, Nat.succ_sub_one] at floor h
    rw [hk] at split
    generalize s % binade = m at floor h split low
    have size : v.log2 < 53 + k := by
      apply log2_lt_of_lt (by omega)
      calc v ≤ (binade + m) * 2 ^ k := floor
        _ < (binade + binade) * 2 ^ k := Nat.mul_lt_mul_of_pos_right (by omega) (Nat.two_pow_pos k)
        _ = 2 ^ (53 + k) := by rw [binade_eq]; ring
    generalize he : v.log2 - 52 = e
    have reach : e ≤ k := by omega
    have positive : 0 < den * Nat.pow 2 e := Nat.mul_pos hd (Nat.two_pow_pos e)
    obtain equal | below := Nat.eq_or_lt_of_le reach
    · have round : roundHalfEven num (den * Nat.pow 2 e) ≤ binade + m := by
        apply roundHalfEven_le positive
        rw [equal]
        calc num ≤ (binade + m) * 2 ^ k * den := h
          _ = (binade + m) * (den * 2 ^ k) := by ring
      rw [equal] at round ⊢
      rw [Nat.mul_succ, Nat.mul_comm] at split
      omega
    · -- the quotient lies in a lower binade, which ends where the next one starts
      have round : roundHalfEven num (den * Nat.pow 2 e) ≤ 2 * binade := by
        apply roundHalfEven_le positive
        have top : v + 1 ≤ 2 ^ (53 + e) := lt_pow_of_log2 (by omega)
        calc num ≤ (v + 1) * den := above.le
          _ ≤ 2 ^ (53 + e) * den := Nat.mul_le_mul_right den top
          _ = 2 * binade * (den * 2 ^ e) := by rw [binade_eq]; ring
      have steps : (e + 2) * binade ≤ (k + 1) * binade := Nat.mul_le_mul_right binade (by omega)
      have whole : (e + 2) * binade = e * binade + 2 * binade := Nat.add_mul e 2 binade
      rw [Nat.succ_eq_add_one, Nat.mul_comm] at split
      omega

variable {a b : Fin (infinityStep + 1)}

lemma isFinite_number {negative : Bool} : (number negative a).isFinite ↔ a.val < infinityStep := by
  rw [isFinite, decide_eq_true_eq]

theorem isFinite_mul {p q : Bool} (hb : b.val ≠ 0) (hf : b.val < infinityStep)
    (hu : units b ≤ unitsInOne) :
    (number p a * number q b).isFinite ↔ (number p a).isFinite := by
  have product : number p a * number q b =
      if a.val = infinityStep ∨ b.val = infinityStep then
        if a.val = 0 ∨ b.val = 0 then nan else infinity (p != q)
      else number (p != q) (nearestStep (units a * units b) unitsInOne) := rfl
  rw [product, isFinite_number]
  by_cases ha : a.val = infinityStep
  · have zero : ¬ (a.val = 0 ∨ b.val = 0) := by
      rw [ha]
      simp only [hb, or_false]
      decide +kernel
    rw [if_pos (.inl ha), if_neg zero, infinity, isFinite_number]
    simp [ha]
  · have bound : a.val < infinityStep := Nat.lt_of_le_of_ne (Nat.le_of_lt_succ a.2) ha
    rw [if_neg (by simp only [ha, hf.ne, or_self, not_false_eq_true]), isFinite_number]
    have step : (nearestStep (units a * units b) unitsInOne).val ≤ a :=
      nearestStep_le unitsInOne_pos (Nat.mul_le_mul_left _ hu)
    exact ⟨fun _ => bound, fun _ => step.trans_lt bound⟩

end Telematics.Binary64
