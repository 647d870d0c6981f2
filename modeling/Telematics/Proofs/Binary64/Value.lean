import Mathlib.Data.Rat.Cast.Order
import Mathlib.Tactic.Linarith
import Telematics.Proofs.Binary64.Rounding

namespace Telematics.Binary64

variable {x : Binary64} {limit : Nat} {step : Fin (infinityStep + 1)}

def magnitude (step : Nat) : ℚ :=
  units step / unitsInOne

def value? : Binary64 → Option ℚ
  | nan => none
  | number negative step =>
    if step.val = infinityStep then none
    else some (if negative then -magnitude step else magnitude step)

lemma magnitude_nonneg (step : Nat) : 0 ≤ magnitude step :=
  div_nonneg (Nat.cast_nonneg _) (Nat.cast_nonneg _)

lemma magnitude_le_iff {step : Nat} : magnitude step ≤ limit ↔ units step ≤ limit * unitsInOne := by
  have one : (0 : ℚ) < unitsInOne := by exact_mod_cast unitsInOne_pos
  rw [magnitude, div_le_iff₀ one]
  exact_mod_cast Iff.rfl

/-- A number, and neither infinite nor beyond the limit on either side. -/
def Within (limit : Nat) (x : Binary64) : Prop :=
  ∃ v ∈ x.value?, -(limit : ℚ) ≤ v ∧ v ≤ limit

lemma value?_neg (x : Binary64) : (-x).value? = x.value?.map (- ·) := by
  cases x with
  | nan => rfl
  | number negative step =>
    change value? (.number (!negative) step) = _
    simp only [value?]
    split_ifs <;> simp_all

lemma Within.neg (h : x.Within limit) : (-x).Within limit := by
  obtain ⟨v, hv, low, high⟩ := h
  refine ⟨-v, ?_, by linarith, by linarith⟩
  rw [value?_neg, Option.mem_def.1 hv]
  rfl

lemma Within.isFinite (h : x.Within limit) : x.isFinite := by
  obtain ⟨v, hv, -⟩ := h
  cases x with
  | nan => cases hv
  | number negative step =>
    -- infinity has no value
    have finite : step.val ≠ infinityStep := by
      intro infinite
      rw [value?, if_pos infinite] at hv
      cases hv
    exact isFinite_number.2 (Nat.lt_of_le_of_ne (Nat.le_of_lt_succ step.2) finite)

lemma within_of_not_exceeds (hl : limit * unitsInOne < units infinityStep)
    (h : (number false step).exceeds limit = false) : (number false step).Within limit := by
  have below : units step ≤ limit * unitsInOne := Nat.le_of_not_lt (of_decide_eq_false h)
  have finite : step.val ≠ infinityStep := by
    intro infinite
    rw [infinite] at below
    omega
  have low := magnitude_nonneg step
  have high := magnitude_le_iff.2 below
  refine ⟨magnitude step, ?_, by linarith, high⟩
  simp only [value?, if_neg finite]
  rfl

/-- A number with the sign of zero and of what is above zero; it may be infinite. -/
def Unsigned (x : Binary64) : Prop :=
  ∃ step, x = .number false step

end Telematics.Binary64
