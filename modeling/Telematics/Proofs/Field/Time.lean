import Telematics.Proofs.Position.Refusal
import Telematics.Proofs.Timestamp.Calendar

namespace Telematics

namespace Numeral

lemma digit_of_isDigit {c : Char} (h : c.isDigit) : digit c = c.toNat - '0'.toNat := by
  have ascii : c.toNat < 128 :=
    Nat.lt_of_le_of_lt (Char.isDigit_iff_toNat.1 h).2 (by decide)
  refine forall_ascii (P := fun c => c.isDigit → digit c = c.toNat - '0'.toNat) ?_ c ascii h
  decide +kernel

lemma value_of_isDigit {t : List Char} (h : ∀ c ∈ t, c.isDigit) :
    value t = Nat.ofDigitChars 10 t 0 := by
  rw [value, ofDigits, List.foldl_map, Nat.ofDigitChars]
  apply List.foldl_ext
  intro n c hc
  rw [digit_of_isDigit (h c hc), Nat.mul_comm]

end Numeral

namespace Field

open Sentence Sentence.Draft Grammar Pattern Text Timestamp

variable {date : Date} {clock : Clock} {m : Moment} {width k : Nat} {defect : Defect}

def momentOf (date : Date) (clock : Clock) : Moment where
  year := yearNumber (shown date.year.1)
  month := number (shown date.month.1)
  day := number (shown date.day.1)
  hour := number (shown clock.hour.1)
  minute := number (shown clock.minute.1)
  second := number (shown clock.second.1)

def timeOf (date : Date) (clock : Clock) : Except TimeError Timestamp :=
  time (shown date.day.1) (shown date.month.1) (shown date.year.1) (shown clock.hour.1)
    (shown clock.minute.1) (shown clock.second.1)

def textOf (date : Date) (clock : Clock) : String :=
  String.ofList (date.day.1 ++ date.month.1 ++ date.year.1 ++ ' ' :: (clock.hour.1 ++
    clock.minute.1 ++ clock.second.1))

lemma timeOf_eq (date : Date) (clock : Clock) : timeOf date clock =
    (ofParts (momentOf date clock).year (momentOf date clock).month (momentOf date clock).day
      (momentOf date clock).hour (momentOf date clock).minute
      (momentOf date clock).second).mapError (ofDefect (textOf date clock)) := by
  have text : timeText (shown date.day.1) (shown date.month.1) (shown date.year.1)
      (shown clock.hour.1) (shown clock.minute.1) (shown clock.second.1) = textOf date clock := by
    rw [← String.toList_inj]
    simp [timeText, textOf, shown, String.join]
  rw [← text]
  exact time_eq_ofParts (isPart_year date.year) (isPart_fixedDigits (by decide) "month" date.month)
    (isPart_fixedDigits (by decide) "day" date.day) (isPart_fixedDigits (by decide) "hour" clock.hour)
    (isPart_fixedDigits (by decide) "minute" clock.minute)
    (isPart_fixedDigits (by decide) "second" clock.second)

lemma timeOf_of_real (h : (momentOf date clock).Real) :
    timeOf date clock = .ok ((momentOf date clock).timestamp h) := by
  rw [timeOf_eq, Moment.ofParts_of_real h]
  rfl

lemma timeOf_of_defect (h : (momentOf date clock).defect? = some defect) :
    timeOf date clock = .error (ofDefect (textOf date clock) defect) := by
  rw [timeOf_eq, Moment.ofParts_of_defect h]
  rfl

lemma timeOf_spec (date : Date) (clock : Clock) :
    ((∃ t, timeOf date clock = .ok t) ↔ (momentOf date clock).Real) ∧
    (∀ h : (momentOf date clock).Real,
      timeOf date clock = .ok ((momentOf date clock).timestamp h)) ∧
    ∀ e, timeOf date clock = .error e ↔ ∃ defect, (momentOf date clock).defect? = some defect ∧
      e = .conversion ⟨"time", some (textOf date clock), some (.calendar defect)⟩ := by
  cases h : (momentOf date clock).defect? with
  | none =>
    have real := Moment.defect?_eq_none.1 h
    refine ⟨?_, fun _ => timeOf_of_real _, ?_⟩
    · simp [timeOf_of_real real, real]
    · simp [timeOf_of_real real]
  | some defect =>
    have unreal : ¬ (momentOf date clock).Real := by
      intro real
      rw [Moment.defect?_eq_none.2 real] at h
      cases h
    refine ⟨?_, fun real => absurd real unreal, ?_⟩
    · simp [timeOf_of_defect h, unreal]
    · simp [timeOf_of_defect h, ofDefect, eq_comm]

structure Commas where
  day : Bool
  month : Bool
  hour : Bool
  minute : Bool

def written (m : Moment) (year : String) (commas : Commas) : List Char :=
  (padded 2 m.day).toList ++ commaIf commas.day ++ (padded 2 m.month).toList ++
    commaIf commas.month ++ field year.toList ++
    ((padded 2 m.hour).toList ++ commaIf commas.hour ++ (padded 2 m.minute).toList ++
      commaIf commas.minute ++ field (padded 2 m.second).toList)

lemma matches_padded (h : k < 10 ^ width) (hw : 0 < width) :
    (fixedDigits width).Matches [] (padded width k).toList := by
  obtain ⟨length, digits, -⟩ := Moment.shows_padded h hw
  exact matches_fixedDigits.2 ⟨rfl, length, fun c hc => Numeral.isDecimalDigit_of_isDigit (digits c hc)⟩

lemma number_padded (h : k < 10 ^ width) (hw : 0 < width) :
    number (shown (padded width k).toList) = k := by
  obtain ⟨-, digits, value⟩ := Moment.shows_padded h hw
  rw [number_shown, Numeral.value_of_isDigit digits, value]

lemma exists_written (h : m.Real) (year : Token (fixedDigits 4 <|> fixedDigits 2))
    (hy : yearNumber (shown year.1) = m.year) (commas : Commas) :
    ∃ date clock, written m (String.ofList year.1) commas = date.text ++ clock.text ∧
      momentOf date clock = m := by
  obtain ⟨-, month, day, hour, minute, second⟩ := h.small
  have two {k : Nat} (h : k < 10 ^ 2) : (fixedDigits 2).Matches [] (padded 2 k).toList :=
    matches_padded h (by decide)
  have value {k : Nat} (h : k < 10 ^ 2) : number (shown (padded 2 k).toList) = k :=
    number_padded h (by decide)
  refine ⟨⟨⟨_, two day⟩, commas.day, ⟨_, two month⟩, commas.month, year⟩,
    ⟨⟨_, two hour⟩, commas.hour, ⟨_, two minute⟩, commas.minute, ⟨_, two second⟩⟩, ?_, ?_⟩
  · simp [written, Date.text, Clock.text]
  · simp [momentOf, hy, value month, value day, value hour, value minute, value second]

lemma yearNumber_shown (t : List Char) : yearNumber (shown t) =
    if t.length = 2 then 2000 + number (shown t) else number (shown t) := by
  rw [yearNumber, shown, Option.getD_some, String.length_ofList]

lemma exists_yearToken {t : List Char}
    (h : (fixedDigits 4).Matches [] t ∨ (fixedDigits 2).Matches [] t) :
    ∃ year : Token (fixedDigits 4 <|> fixedDigits 2), year.1 = t :=
  ⟨⟨t, matches_alt.2 (h.imp (fun h => ⟨[], h, rfl⟩) fun h => ⟨[], h, rfl⟩)⟩, rfl⟩

lemma exists_year (h : m.Real) : ∃ year : Token (fixedDigits 4 <|> fixedDigits 2),
    String.ofList year.1 = padded 4 m.year ∧ yearNumber (shown year.1) = m.year := by
  have small := h.small.1
  obtain ⟨year, text⟩ := exists_yearToken (.inl (matches_padded small (by decide)))
  refine ⟨year, by rw [text, String.ofList_toList], ?_⟩
  rw [yearNumber_shown, text, length_padded (by decide) small, number_padded small (by decide)]
  exact if_neg (by decide)

lemma exists_shortYear (low : 2000 ≤ m.year) (high : m.year ≤ 2099) :
    ∃ year : Token (fixedDigits 4 <|> fixedDigits 2),
      String.ofList year.1 = padded 2 (m.year - 2000) ∧ yearNumber (shown year.1) = m.year := by
  have small : m.year - 2000 < 10 ^ 2 := by omega
  obtain ⟨year, text⟩ := exists_yearToken (.inr (matches_padded small (by decide)))
  refine ⟨year, by rw [text, String.ofList_toList], ?_⟩
  rw [yearNumber_shown, text, length_padded (by decide) small, number_padded small (by decide)]
  exact (if_pos rfl).trans (by omega)

end Field

end Telematics
