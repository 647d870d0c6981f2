import Mathlib.Tactic.IntervalCases
import Telematics.Proofs.Timestamp

/-! The Gregorian calendar, and the timestamps of its moments. -/

namespace Telematics

structure Moment where
  year : Nat
  month : Nat
  day : Nat
  hour : Nat
  minute : Nat
  second : Nat
deriving DecidableEq

namespace Moment

open Timestamp

variable {m n : Moment} {t : Timestamp} {defect : Defect}

/-- Every fourth year is a leap year, but of the full centuries only every fourth. -/
def IsLeap (year : Nat) : Prop :=
  4 ∣ year ∧ (100 ∣ year → 400 ∣ year)

instance : DecidablePred IsLeap := fun year =>
  inferInstanceAs (Decidable (4 ∣ year ∧ (100 ∣ year → 400 ∣ year)))

def monthLengths (year : Nat) : List Nat :=
  [31, if IsLeap year then 29 else 28, 31, 30, 31, 30, 31, 31, 30, 31, 30, 31]

def monthLength (year month : Nat) : Nat :=
  (monthLengths year).getD (month - 1) 0

structure Real (m : Moment) : Prop where
  year : 1 ≤ m.year ∧ m.year ≤ 9999
  month : 1 ≤ m.month ∧ m.month ≤ 12
  day : 1 ≤ m.day ∧ m.day ≤ monthLength m.year m.month
  hour : m.hour < 24
  minute : m.minute < 60
  second : m.second < 60

/-- The ranges of the numbers, in the order in which they are looked at. -/
def ranges (m : Moment) : List (Bool × Defect) :=
  [(decide (1 ≤ m.year ∧ m.year ≤ 9999), .year m.year),
    (decide (1 ≤ m.month ∧ m.month ≤ 12), .month),
    (decide (1 ≤ m.day ∧ m.day ≤ monthLength m.year m.month), .day),
    (decide (m.hour < 24), .hour), (decide (m.minute < 60), .minute),
    (decide (m.second < 60), .second)]

def defect? (m : Moment) : Option Defect :=
  (m.ranges.find? fun range => !range.1).map Prod.snd

lemma first_cons {b : Bool} {d : Defect} {rest : List (Bool × Defect)} :
    (((b, d) :: rest).find? fun range => !range.1).map Prod.snd = some defect ↔
      ¬ b ∧ d = defect ∨ b ∧ (rest.find? fun range => !range.1).map Prod.snd = some defect := by
  cases b with
  | false => simp
  | true => simp

lemma defect?_eq_none : m.defect? = none ↔ m.Real := by
  rw [defect?, Option.map_eq_none_iff, List.find?_eq_none]
  constructor
  · intro h
    simp only [ranges, List.forall_mem_cons, Bool.not_eq_true, Bool.not_eq_false',
      decide_eq_true_eq] at h
    obtain ⟨year, month, day, hour, minute, second, -⟩ := h
    exact ⟨year, month, day, hour, minute, second⟩
  · rintro ⟨year, month, day, hour, minute, second⟩
    simp [ranges, year, month, day, hour, minute, second]

instance (m : Moment) : Decidable m.Real :=
  decidable_of_iff _ defect?_eq_none

lemma isLeapYear_iff (year : Nat) : isLeapYear year ↔ IsLeap year := by
  simp only [isLeapYear, IsLeap, Bool.and_eq_true, Bool.or_eq_true, decide_eq_true_eq]
  omega

lemma daysInMonth_eq (year : Nat) {month : Nat} (h : 1 ≤ month ∧ month ≤ 12) :
    daysInMonth year month = monthLength year month := by
  obtain ⟨low, high⟩ := h
  have february : (if isLeapYear year then 29 else 28) = if IsLeap year then 29 else 28 := by
    simp only [isLeapYear_iff]
  interval_cases month
  · rfl
  · exact february
  all_goals rfl

lemma whole_second : 0 < 1000000 := by
  decide

def timestamp (m : Moment) (h : m.Real) : Timestamp where
  year := m.year
  month := m.month
  day := m.day
  hour := m.hour
  minute := m.minute
  second := m.second
  microsecond := 0
  year_mem := h.year
  month_mem := h.month
  day_mem := by
    rw [daysInMonth_eq m.year h.month]
    exact h.day
  hour_lt := h.hour
  minute_lt := h.minute
  second_lt := h.second
  microsecond_lt := whole_second

lemma ofParts_of_real (h : m.Real) :
    ofParts m.year m.month m.day m.hour m.minute m.second = .ok (m.timestamp h) := by
  have day : 1 ≤ m.day ∧ m.day ≤ daysInMonth m.year m.month := (m.timestamp h).day_mem
  obtain ⟨year, month, -, hour, minute, second⟩ := h
  unfold ofParts
  simp only [Int.toNat_natCast]
  rw [dif_pos (by omega), dif_pos (by omega), dif_pos (by omega), dif_pos (by omega),
    dif_pos (by omega), dif_pos (by omega)]
  rfl

lemma ofParts_of_defect (h : m.defect? = some defect) :
    ofParts m.year m.month m.day m.hour m.minute m.second = .error defect := by
  have length : 1 ≤ m.month ∧ m.month ≤ 12 →
      daysInMonth m.year m.month = monthLength m.year m.month := daysInMonth_eq m.year
  simp only [defect?, ranges, first_cons, decide_eq_true_eq] at h
  unfold ofParts
  simp only [Int.toNat_natCast]
  -- one case for each number, with all numbers before it in their ranges
  obtain ⟨year, rfl⟩ | ⟨year, ⟨month, rfl⟩ | ⟨month, ⟨day, rfl⟩ | ⟨day, ⟨hour, rfl⟩ |
    ⟨hour, ⟨minute, rfl⟩ | ⟨minute, ⟨second, rfl⟩ | ⟨second, none⟩⟩⟩⟩⟩⟩ := h
  · rw [dif_neg (by omega)]
  · rw [dif_pos (by omega), dif_neg (by omega)]
  · rw [dif_pos (by omega), dif_pos (by omega), dif_neg (by omega)]
  · rw [dif_pos (by omega), dif_pos (by omega), dif_pos (by omega), dif_neg (by omega)]
  · rw [dif_pos (by omega), dif_pos (by omega), dif_pos (by omega), dif_pos (by omega),
      dif_neg (by omega)]
  · rw [dif_pos (by omega), dif_pos (by omega), dif_pos (by omega), dif_pos (by omega),
      dif_pos (by omega), dif_neg (by omega)]
  · cases none

structure Shows (width number : Nat) (t : List Char) : Prop where
  length : t.length = width
  digits : ∀ c ∈ t, c.isDigit
  value : Nat.ofDigitChars 10 t 0 = number

/-- The text shows the moment, to the second and in UTC. -/
def ShownBy (m : Moment) (text : String) : Prop :=
  ∃ year month day hour minute second, text.toList = year ++ '-' :: (month ++ '-' :: (day ++
      'T' :: (hour ++ ':' :: (minute ++ ':' :: (second ++ "+00:00".toList))))) ∧
    Shows 4 m.year year ∧ Shows 2 m.month month ∧ Shows 2 m.day day ∧ Shows 2 m.hour hour ∧
      Shows 2 m.minute minute ∧ Shows 2 m.second second

lemma shows_padded {width number : Nat} (h : number < 10 ^ width) (hw : 0 < width) :
    Shows width number (padded width number).toList where
  length := length_padded hw h
  digits := by
    intro c hc
    rw [padded_toList, List.mem_append] at hc
    obtain zero | digit := hc
    · rw [List.eq_of_mem_replicate zero]
      rfl
    · exact Nat.isDigit_of_mem_toDigits (by decide : 0 < 10) (by decide) digit
  value := by
    rw [padded_toList, Nat.ofDigitChars_append, Nat.ofDigitChars_replicate_zero, Nat.mul_zero]
    exact Nat.ofDigitChars_ten_toDigits

lemma Shows.unique {width k l : Nat} {t u x y : List Char} (ht : Shows width k t)
    (hu : Shows width l u) (h : t ++ x = u ++ y) : k = l ∧ x = y := by
  obtain ⟨rfl, rest⟩ := List.append_inj h (ht.length.trans hu.length.symm)
  exact ⟨ht.value.symm.trans hu.value, rest⟩

theorem ShownBy.unique {text : String} (hm : m.ShownBy text) (hn : n.ShownBy text) : m = n := by
  obtain ⟨y, mo, d, h, mi, s, chars, hy, hmo, hd, hh, hmi, hs⟩ := hm
  obtain ⟨y', mo', d', h', mi', s', chars', hy', hmo', hd', hh', hmi', hs'⟩ := hn
  rw [chars'] at chars
  obtain ⟨year, chars⟩ := hy'.unique hy chars
  obtain ⟨month, chars⟩ := hmo'.unique hmo (List.cons.inj chars).2
  obtain ⟨day, chars⟩ := hd'.unique hd (List.cons.inj chars).2
  obtain ⟨hour, chars⟩ := hh'.unique hh (List.cons.inj chars).2
  obtain ⟨minute, chars⟩ := hmi'.unique hmi (List.cons.inj chars).2
  obtain ⟨second, -⟩ := hs'.unique hs (List.cons.inj chars).2
  cases m
  cases n
  simp_all

lemma Real.small (h : m.Real) : m.year < 10 ^ 4 ∧ m.month < 10 ^ 2 ∧ m.day < 10 ^ 2 ∧
    m.hour < 10 ^ 2 ∧ m.minute < 10 ^ 2 ∧ m.second < 10 ^ 2 := by
  have day : m.day < 10 ^ 2 := (m.timestamp h).day_lt
  obtain ⟨year, month, -, hour, minute, second⟩ := h
  omega

lemma shownBy_isoText (h : m.Real) : m.ShownBy (m.timestamp h).isoText := by
  obtain ⟨year, month, day, hour, minute, second⟩ := h.small
  have whole : (m.timestamp h).fraction = "" := rfl
  refine ⟨_, _, _, _, _, _, ?_, shows_padded year (by decide), shows_padded month (by decide),
    shows_padded day (by decide), shows_padded hour (by decide), shows_padded minute (by decide),
    shows_padded second (by decide)⟩
  rw [isoText, whole]
  simp [timestamp]

end Moment

end Telematics
