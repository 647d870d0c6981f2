import Telematics.Proofs.Position.Time
import Telematics.Proofs.Terminal.Registration

namespace Telematics

open Sentence Sentence.Draft

namespace Sentence.Draft

variable {d : Draft} {date : Date} {clock : Clock}

def carrying (d : Draft) (t : List Char) : List Char :=
  d.opening.text ++ d.header.text ++ field d.imei.1 ++ d.identity.text ++
    (t ++ d.remainder.fix.text ++ d.remainder.trailer.text)

lemma text_dated : (d.dated date clock).text = d.carrying (date.text ++ clock.text) := by
  simp [Draft.text, carrying, dated, Remainder.text, Remainder.fixText]

lemma exists_distinct (i : Identity) : ∃ j : Identity, j.Distinct ∧ j.text = i.text := by
  cases i with
  | status code => exact ⟨.status code, trivial, rfl⟩
  | validity registration digit =>
    by_cases empty : registration.1 = []
    · obtain ⟨code, hc⟩ := exists_status_of_bit digit
      exact ⟨.status code, trivial, status_text empty hc⟩
    · exact ⟨.validity registration digit, empty, rfl⟩

lemma exists_reading (d : Draft) {rest : List Char} (ht : d.remainder.trailer.Ends rest) :
    ∃ i : Identity, ∀ date clock,
      Report.ofText? (String.ofList (d.carrying (date.text ++ clock.text) ++ rest)) =
        .ok (some (Draft.dated { d with identity := i } date clock).report) := by
  obtain ⟨i, distinct, text⟩ := exists_distinct d.identity
  refine ⟨i, fun date clock => ?_⟩
  have foremost : (Draft.dated { d with identity := i } date clock).Foremost rest := ⟨distinct, ht⟩
  have same : d.carrying (date.text ++ clock.text) =
      (Draft.dated { d with identity := i } date clock).text := by
    rw [text_dated, carrying, carrying, text]
  rw [same]
  exact foremost.ofText?_eq String.toList_ofList

end Sentence.Draft

namespace Terminal

open Telematics.Field Timestamp

variable {d : Draft} {rest : List Char} {registry : Registry} {session : Session} {m : Moment}

lemma exists_record (channel : Option Channel) (ht : d.remainder.trailer.Ends rest)
    (hs : (registry.resolve (String.ofList d.imei.1)).2.session? = some session)
    (hc : (Position.undatedChecks d.report).Clear) (hm : m.Real) :
    ∃ p, p.time = some (m.timestamp hm) ∧ ∀ date clock, momentOf date clock = m →
      (decode channel registry
        (String.ofList (d.carrying (date.text ++ clock.text) ++ rest))).result = .ok (some p) := by
  obtain ⟨i, read⟩ := exists_reading d ht
  obtain ⟨p, time, record⟩ := Position.exists_timed (d := { d with identity := i })
    session.deviceId hc hm
  refine ⟨p, time, fun date clock denoted => ?_⟩
  rw [decode_result channel (read date clock) hs, record date clock denoted]
  rfl

/-- Every moment of the calendar that a sentence carries, with or without inner commas and with its
year in full or, from 2000 to 2099, in two digits, is the time of one and the same record and of its
message. Tokens of other moments are refused for the first number that is out of its range. -/
theorem decode_calendar (channel : Option Channel) (registry : Registry) (session : Session)
    (d : Draft) (rest : List Char) (m : Moment) :
    (m.Real → d.remainder.trailer.Ends rest →
      (registry.resolve (String.ofList d.imei.1)).2.session? = some session →
      (Position.undatedChecks d.report).Clear →
      ∃ p : Position, p.ShowsTime m ∧
        (∀ commas, (decode channel registry (String.ofList
          (d.carrying (written m (padded 4 m.year) commas) ++ rest))).result = .ok (some p)) ∧
        (2000 ≤ m.year ∧ m.year ≤ 2099 → ∀ commas, (decode channel registry (String.ofList
          (d.carrying (written m (padded 2 (m.year - 2000)) commas) ++ rest))).result =
            .ok (some p)) ∧
        ∀ date clock, momentOf date clock = m → (decode channel registry (String.ofList
          (d.carrying (date.text ++ clock.text) ++ rest))).result = .ok (some p)) ∧
    ∀ date clock, ((∃ t, timeOf date clock = .ok t) ↔ (momentOf date clock).Real) ∧
      (∀ h : (momentOf date clock).Real,
        timeOf date clock = .ok ((momentOf date clock).timestamp h)) ∧
      ∀ e, timeOf date clock = .error e ↔ ∃ defect, (momentOf date clock).defect? = some defect ∧
        e = .conversion ⟨"time", some (textOf date clock), some (.calendar defect)⟩ := by
  refine ⟨fun hm ht hs hc => ?_, timeOf_spec⟩
  obtain ⟨p, time, decoded⟩ := exists_record channel ht hs hc hm
  refine ⟨p, Position.showsTime hm time, fun commas => ?_, fun hy commas => ?_, decoded⟩
  · obtain ⟨year, text, hy⟩ := exists_year hm
    obtain ⟨date, clock, form, denoted⟩ := exists_written hm year hy commas
    rw [← text, form]
    exact decoded date clock denoted
  · obtain ⟨year, text, hy⟩ := exists_shortYear hy.1 hy.2
    obtain ⟨date, clock, form, denoted⟩ := exists_written hm year hy commas
    rw [← text, form]
    exact decoded date clock denoted

def leapSecond : Moment := ⟨2024, 2, 29, 23, 59, 59⟩

theorem leap_second_decoded : ∃ p : Position, p.ShowsTime leapSecond ∧
    (decode none ⟨false, ["861693034634154"]⟩ ("$,01,EMR,861693034634154,KA01AB1234,1," ++
      "29,0224,2359,59,12.975095,N,077.668045,E,0.0,95.2,*")).result = .ok (some p) := by
  let d := emergency (.validity (.of _ "KA01AB1234") (.of _ "1"))
  have real : leapSecond.Real := by decide
  have ends : ¬ (Grammar.kept Grammar.digits).Starts ['*'] := by decide
  have known : ((⟨false, ["861693034634154"]⟩ : Registry).resolve
      (String.ofList d.imei.1)).2.session? = some ⟨1, "861693034634154"⟩ := by decide
  have clear : (Position.undatedChecks d.report).Clear :=
    List.forall_mem_cons.2 ⟨not_above (by decide +kernel),
      List.forall_mem_cons.2 ⟨not_above (by decide +kernel), List.forall_mem_nil _⟩⟩
  obtain ⟨p, shows, -, short, -⟩ := (decode_calendar none _ _ d ['*'] leapSecond).1 real
    (fun _ => ends) known clear
  have text : "$,01,EMR,861693034634154,KA01AB1234,1," ++
      "29,0224,2359,59,12.975095,N,077.668045,E,0.0,95.2,*" =
        String.ofList (d.carrying (written leapSecond (padded 2 24) ⟨true, false, false, true⟩) ++
          ['*']) := by
    decide +kernel
  refine ⟨p, shows, ?_⟩
  rw [text]
  exact short ⟨by decide, by decide⟩ _

end Terminal

end Telematics
