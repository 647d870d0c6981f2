import Telematics.Field
import Telematics.Proofs.Binary64.Value
import Telematics.Proofs.Check

namespace Telematics

namespace Binary64

variable {x : Binary64} {limit : Nat}

lemma not_within_nan : ¬ nan.Within limit := by
  rintro ⟨v, hv, -⟩
  cases hv

lemma not_within_of_exceeds (h : x.exceeds limit) : ¬ x.Within limit := by
  rintro ⟨v, hv, -, high⟩
  match x with
  | nan => cases h
  | number true step => cases h
  | number false step =>
    have above : limit * unitsInOne < units step := of_decide_eq_true h
    simp only [value?, Bool.false_eq_true, if_false] at hv
    split_ifs at hv
    · cases hv
    · cases hv
      exact Nat.not_le.2 above (magnitude_le_iff.1 high)

lemma not_neg_exceeds (h : x.exceeds limit) : x ≠ nan ∧ ¬ (-x).exceeds limit := by
  match x with
  | nan => cases h
  | number true step => cases h
  | number false step => exact ⟨nofun, nofun⟩

lemma not_within_of_neg_exceeds (h : (-x).exceeds limit) : ¬ x.Within limit :=
  fun within => not_within_of_exceeds h within.neg

lemma within_of_not_beyond (hl : limit * unitsInOne < units infinityStep) (hn : x ≠ nan)
    (high : x.exceeds limit = false) (low : (-x).exceeds limit = false) : x.Within limit := by
  match x with
  | nan => exact absurd rfl hn
  | number false step => exact within_of_not_exceeds hl high
  | number true step =>
    have mirrored : (number false step).Within limit := within_of_not_exceeds hl low
    exact mirrored.neg

end Binary64

namespace Field

variable {name negative s : String} {limit : Nat} {hemisphere : Option String} {x : Binary64}

/-- The text of a number below the negative limit, or of what is no number. -/
def Slips (limit : Nat) (s : String) : Prop :=
  ∃ x, Binary64.ofText? s = some x ∧ (x = .nan ∨ (-x).exceeds limit)

def turned (negative : String) (hemisphere : Option String) (x : Binary64) : Binary64 :=
  if hemisphere = some negative then -x else x

lemma within_turned (h : x.Within limit) : (turned negative hemisphere x).Within limit := by
  unfold turned
  split
  · exact h.neg
  · exact h

lemma not_within_turned (h : ¬ x.Within limit) :
    ¬ (turned negative hemisphere x).Within limit := by
  intro within
  apply h
  unfold turned at within
  split at within
  · have twice : - -x = x := by
      cases x with
      | nan => rfl
      | number negative step => exact congrArg (Binary64.number · step) (Bool.not_not negative)
    rw [← twice]
    exact within.neg
  · exact within

lemma degrees_of_unread (h : Binary64.ofText? s = none) :
    degrees name negative limit (some s) hemisphere = .error ⟨name, some s, none⟩ := by
  rw [degrees, decimal, convert, Option.bind_some, h]
  rfl

lemma degrees_of_read (h : Binary64.ofText? s = some x) :
    degrees name negative limit (some s) hemisphere =
      if x.exceeds limit then .error ⟨name, some s, some (.aboveLimit limit)⟩
      else .ok (turned negative hemisphere x) := by
  have read : decimal name (some s) = .ok x := by
    rw [decimal, convert, Option.bind_some, h]
  rw [degrees, read, turned]
  by_cases above : x.exceeds limit
  · rw [if_pos above]
    exact if_pos above
  · rw [if_neg above, apply_ite Except.ok]
    exact if_neg above

structure Limits (name negative : String) (limit : Nat) (s : String) (hemisphere : Option String)
    (answer : Result Binary64) : Prop where
  checked : ¬ Slips limit s → (∃ reason, answer = .error ⟨name, some s, reason⟩) ∨
    ∃ x, answer = .ok x ∧ x.Within limit
  unchecked : Slips limit s → ∃ x, answer = .ok x ∧ ¬ x.Within limit
  kept : ∀ x, Binary64.ofText? s = some x → x.Within limit →
    answer = .ok (turned negative hemisphere x)

lemma limits_degrees (hl : limit * Binary64.unitsInOne < Binary64.units Binary64.infinityStep)
    (name negative s : String) (hemisphere : Option String) :
    Limits name negative limit s hemisphere
      (degrees name negative limit (some s) hemisphere) := by
  cases read : Binary64.ofText? s with
  | none =>
    rw [degrees_of_unread read]
    refine ⟨fun _ => .inl ⟨none, rfl⟩, ?_, ?_⟩
    · rintro ⟨x, hx, -⟩
      rw [read] at hx
      cases hx
    · intro x hx
      rw [read] at hx
      cases hx
  | some x =>
    have own {y : Binary64} (hy : Binary64.ofText? s = some y) : y = x :=
      Option.some.inj (hy.symm.trans read)
    rw [degrees_of_read read]
    by_cases above : x.exceeds limit
    · obtain ⟨number, upper⟩ := Binary64.not_neg_exceeds above
      rw [if_pos above]
      refine ⟨fun _ => .inl ⟨_, rfl⟩, ?_, ?_⟩
      · rintro ⟨y, hy, slips⟩
        obtain rfl := own hy
        exact absurd slips (not_or.2 ⟨number, upper⟩)
      · intro y hy within
        obtain rfl := own hy
        exact absurd within (Binary64.not_within_of_exceeds above)
    · rw [if_neg above]
      refine ⟨?_, ?_, ?_⟩
      · intro checked
        have number : x ≠ .nan := fun hn => checked ⟨x, read, .inl hn⟩
        have low : ¬ (-x).exceeds limit := fun below => checked ⟨x, read, .inr below⟩
        exact .inr ⟨_, rfl, within_turned (Binary64.within_of_not_beyond hl number
          (Bool.eq_false_iff.2 above) (Bool.eq_false_iff.2 low))⟩
      · rintro ⟨y, hy, slips⟩
        obtain rfl := own hy
        refine ⟨_, rfl, not_within_turned ?_⟩
        obtain rfl | below := slips
        · exact Binary64.not_within_nan
        · exact Binary64.not_within_of_neg_exceeds below
      · intro y hy _
        rw [own hy]

/-- A text is refused or answered with degrees within the limit of the axis, whichever the letter,
unless it slips through the check; then the answer is beyond the limit or no number. -/
theorem coordinates_limited (s : String) (hemisphere : Option String) :
    Limits "latitude" "S" 90 s hemisphere (latitude (some s) hemisphere) ∧
    Limits "longitude" "W" 180 s hemisphere (longitude (some s) hemisphere) :=
  ⟨limits_degrees (by decide +kernel) "latitude" "S" s hemisphere,
    limits_degrees (by decide +kernel) "longitude" "W" s hemisphere⟩

theorem latitude_of_slipped : latitude (some "nan") (some "N") = .ok .nan ∧
    ∃ x, latitude (some "-95.0") (some "N") = .ok x ∧ ¬ x.Within 90 := by
  have below : (latitude (some "-95.0") (some "N")).toOption.any fun x => (-x).exceeds 90 := by
    decide +kernel
  obtain ⟨x, hx, beyond⟩ := exists_ok_and below
  exact ⟨by decide +kernel, x, hx, Binary64.not_within_of_neg_exceeds beyond⟩

end Field

end Telematics
