import Mathlib.Tactic.Ring
import Telematics.Timestamp

namespace Telematics.Timestamp

variable {width m n : Nat} {s t : Timestamp}

lemma padded_toList (width n : Nat) : (padded width n).toList =
    List.replicate (width - (Nat.toDigits 10 n).length) '0' ++ Nat.toDigits 10 n := by
  have text : (toString n).toList = Nat.toDigits 10 n := Nat.toList_repr
  rw [padded, String.toList_ofList, text]

lemma length_padded (hw : 0 < width) (h : n < 10 ^ width) :
    (padded width n).toList.length = width := by
  have short := (Nat.length_toDigits_le_iff (by decide) hw).2 h
  rw [padded_toList, List.length_append, List.length_replicate]
  omega

lemma padded_inj (h : padded width m = padded width n) : m = n := by
  have value (k : Nat) : Nat.ofDigitChars 10 (padded width k).toList 0 = k := by
    rw [padded_toList, Nat.ofDigitChars_append, Nat.ofDigitChars_replicate_zero, Nat.mul_zero]
    exact Nat.ofDigitChars_ten_toDigits
  rw [← value m, h, value n]

lemma parts_inj {x y : List Char} (hw : 0 < width) (hm : m < 10 ^ width) (hn : n < 10 ^ width)
    (h : (padded width m).toList ++ x = (padded width n).toList ++ y) : m = n ∧ x = y := by
  have lengths := (length_padded hw hm).trans (length_padded hw hn).symm
  obtain ⟨part, rest⟩ := List.append_inj h lengths
  exact ⟨padded_inj (String.toList_inj.1 part), rest⟩

lemma fraction_inj (h : s.fraction = t.fraction) : s.microsecond = t.microsecond := by
  have point (n : Nat) : ("" : String) ≠ "." ++ padded 6 n := by
    intro empty
    have chars := congrArg String.toList empty
    rw [String.toList_append] at chars
    cases chars
  rw [fraction, fraction] at h
  split_ifs at h with none_left none_right none_right
  · rw [none_left, none_right]
  · exact absurd h (point _)
  · exact absurd h.symm (point _)
  · have chars := congrArg String.toList h
    rw [String.toList_append, String.toList_append] at chars
    exact padded_inj (String.toList_inj.1 (List.append_cancel_left chars))

lemma ext_parts (hy : s.year = t.year) (hm : s.month = t.month) (hd : s.day = t.day)
    (hh : s.hour = t.hour) (hi : s.minute = t.minute) (hs : s.second = t.second)
    (hf : s.microsecond = t.microsecond) : s = t := by
  cases s
  cases t
  simp_all

lemma day_lt (t : Timestamp) : t.day < 10 ^ 2 := by
  have most : daysInMonth t.year t.month ≤ 31 := by
    rw [daysInMonth]
    split_ifs <;> decide
  have within := t.day_mem.2
  omega

theorem isoText_injective : Function.Injective isoText := by
  intro s t h
  have chars := congrArg String.toList h
  simp only [isoText, String.toList_append, List.append_assoc] at chars
  obtain ⟨year, chars⟩ := parts_inj (by decide) (Nat.lt_of_le_of_lt s.year_mem.2 (by decide))
    (Nat.lt_of_le_of_lt t.year_mem.2 (by decide)) chars
  obtain ⟨month, chars⟩ := parts_inj (by decide) (Nat.lt_of_le_of_lt s.month_mem.2 (by decide))
    (Nat.lt_of_le_of_lt t.month_mem.2 (by decide)) (List.append_cancel_left chars)
  obtain ⟨day, chars⟩ := parts_inj (by decide) s.day_lt t.day_lt (List.append_cancel_left chars)
  obtain ⟨hour, chars⟩ := parts_inj (by decide) (Nat.lt_trans s.hour_lt (by decide))
    (Nat.lt_trans t.hour_lt (by decide)) (List.append_cancel_left chars)
  obtain ⟨minute, chars⟩ := parts_inj (by decide) (Nat.lt_trans s.minute_lt (by decide))
    (Nat.lt_trans t.minute_lt (by decide)) (List.append_cancel_left chars)
  obtain ⟨second, chars⟩ := parts_inj (by decide) (Nat.lt_trans s.second_lt (by decide))
    (Nat.lt_trans t.second_lt (by decide)) (List.append_cancel_left chars)
  have fraction := String.toList_inj.1 (List.append_cancel_right chars)
  exact ext_parts year month day hour minute second (fraction_inj fraction)

end Telematics.Timestamp
