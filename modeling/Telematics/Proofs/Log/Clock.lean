import Telematics.Log.Record
import Telematics.Proofs.Binary64.Interval

namespace Telematics

namespace Binary64

variable {negative : Bool} {num den : Nat}

def largeStep : Nat := 1077 * binade

lemma units_largeStep : units largeStep = 2 ^ 54 * unitsInOne := by
  decide +kernel

lemma floor?_ofRatio (hd : 0 < den) (h : num ≤ 2 ^ 54 * den) :
    ∃ n, (ofRatio negative num den).floor? = some n ∧ -2 ^ 54 ≤ n ∧ n ≤ 2 ^ 54 := by
  have below : (nearestStep (num * unitsInOne) den).val ≤ largeStep := by
    apply nearestStep_le hd
    calc num * unitsInOne ≤ 2 ^ 54 * den * unitsInOne := Nat.mul_le_mul_right _ h
      _ = units largeStep * den := by rw [units_largeStep]; ring
  have finite : (nearestStep (num * unitsInOne) den).val ≠ infinityStep :=
    (below.trans_lt (by decide)).ne
  have size : (units (nearestStep (num * unitsInOne) den) : Int) ≤ 2 ^ 54 * unitsInOne := by
    have whole := units_strictMono.monotone below
    rw [units_largeStep] at whole
    exact_mod_cast whole
  have one : (0 : Int) < unitsInOne := by exact_mod_cast unitsInOne_pos
  refine ⟨_, if_neg finite, ?_, ?_⟩
  · apply Int.le_ediv_of_mul_le one
    split_ifs <;> omega
  · apply Int.ediv_le_of_le_mul one
    split_ifs <;> omega

end Binary64

namespace Log

lemma civilDate_year (days : Int) (low : -2 ^ 38 ≤ days) (high : days ≤ 2 ^ 38) :
    -2 ^ 30 ≤ (civilDate days).1 ∧ (civilDate days).1 ≤ 2 ^ 30 := by
  unfold civilDate
  dsimp only
  split_ifs <;> omega

lemma heldSeconds_eq_ok {seconds : Int} (low : -2 ^ 54 ≤ seconds) (high : seconds ≤ 2 ^ 54) :
    heldSeconds seconds = .ok seconds := by
  have bound : longBound = 2 ^ 63 := by decide
  exact if_pos (by omega)

lemma exists_clockSeconds {created : Int} (h : created.natAbs ≤ 2 ^ 63) :
    ∃ seconds, clockSeconds created = .ok seconds ∧ -2 ^ 54 ≤ seconds ∧ seconds ≤ 2 ^ 54 := by
  have size : created.natAbs ≤ 2 ^ 54 * 1000 := by omega
  obtain ⟨n, hn, low, high⟩ := Binary64.floor?_ofRatio (by decide) size
  refine ⟨n, ?_, low, high⟩
  rw [clockSeconds, hn, Option.elim_some, heldSeconds_eq_ok low high]

theorem exists_timeText {created : Int} (h : created.natAbs ≤ 2 ^ 63) :
    ∃ time, timeText created = .ok time := by
  obtain ⟨seconds, hs, low, high⟩ := exists_clockSeconds h
  have year := civilDate_year (seconds / 86400) (by omega) (by omega)
  have bound : wordBound = 2 ^ 31 := by decide
  rw [timeText, hs]
  generalize civilDate (seconds / 86400) = date at year
  obtain ⟨y, month, day⟩ := date
  refine ⟨_, (if_neg ?_).trans (if_neg ?_)⟩
  · dsimp only at year ⊢
    omega
  · dsimp only at year ⊢
    omega

end Log

end Telematics
