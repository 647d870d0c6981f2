import Telematics.Proofs.Alarm
import Telematics.Proofs.Terminal.Registration
import Telematics.Proofs.Terminal.Resolver

namespace Telematics

open Sentence Sentence.Draft

namespace Sentence

/-- The status at the identity place counts; where there is none, that of the header does. -/
inductive Counts : Header → Identity → String → Prop
  | identity {header : Header} {code : String} : Counts header (.status (some code)) code
  | header {status : String} {event history digit : Slot} :
    Counts (.telemetry (some status) event history) (.validity digit) status

inductive Header.Alike : Header → Header → Prop
  | telemetry {status event event' history : Slot} :
    Alike (.telemetry status event history) (.telemetry status event' history)
  | kind {name : Slot} : Alike (.kind name) (.kind name)

section

variable {h g : Header} {i : Identity} {code : String} {name letter : Slot}

lemma effectiveStatus_eq_some : Position.effectiveStatus h i = some code ↔ Counts h i code := by
  constructor
  · intro hs
    cases i with
    | status own =>
      obtain rfl : own = some code := by cases h <;> exact hs
      exact .identity
    | validity digit =>
      cases h with
      | telemetry status event history =>
        obtain rfl : status = some code := hs
        exact .header
      | kind name => cases hs
  · intro counts
    cases counts with
    | identity => cases h <;> rfl
    | header => rfl

lemma Header.Alike.counts (alike : h.Alike g) : Counts g i code ↔ Counts h i code := by
  rw [← effectiveStatus_eq_some, ← effectiveStatus_eq_some]
  cases alike with
  | telemetry | kind => cases i <;> rfl

lemma Header.Alike.kind_iff (alike : h.Alike g) : g = .kind name ↔ h = .kind name := by
  cases alike with
  | telemetry => simp
  | kind => rfl

lemma Header.Alike.history_iff (alike : h.Alike g) :
    (∃ status event, g = .telemetry status event letter) ↔
      ∃ status event, h = .telemetry status event letter := by
  cases alike with
  | telemetry => simp
  | kind => simp

end

end Sentence

namespace Position

variable {p q : Position} {r : Report} {d : Draft} {n : Int} {code : String}

structure Marked (r : Report) (p : Position) : Prop where
  mapped : ∀ code category, Counts r.header r.identity code →
    Alarm.categories.lookup code = some category → p.alarm = some (category : Points)
  emergency : (∀ code, Counts r.header r.identity code → Alarm.categories.lookup code = none) →
    r.header = .kind (some "EMR") → p.alarm = some ("sos" : Points)
  quiet : (∀ code, Counts r.header r.identity code → Alarm.categories.lookup code = none) →
    r.header ≠ .kind (some "EMR") → p.alarm = none
  valid : p.valid = true ↔
    r.validity = some "A" ∨ r.validity = none ∧ r.identity = .validity (some "1")
  archive : p.archive = true ↔ ∃ status event, r.header = .telemetry status event (some "H")

lemma statusAlarm_eq (status : Slot) :
    statusAlarm status =
      (status.bind fun code => Alarm.categories.lookup code).map Points.ofString := by
  cases status with
  | none => rfl
  | some code =>
    rw [statusAlarm, Option.bind_some, Option.bind_some, ← Alarm.name_ofStatus?, Option.map_map]
    rfl

lemma statusAlarm_of_mapped {h : Sentence.Header} {i : Sentence.Identity} {category : String}
    (counts : Counts h i code) (mapped : Alarm.categories.lookup code = some category) :
    statusAlarm (effectiveStatus h i) = some (category : Points) := by
  rw [effectiveStatus_eq_some.2 counts, statusAlarm_eq, Option.bind_some, mapped, Option.map_some]

lemma statusAlarm_of_unmapped {h : Sentence.Header} {i : Sentence.Identity}
    (unmapped : ∀ code, Counts h i code → Alarm.categories.lookup code = none) :
    statusAlarm (effectiveStatus h i) = none := by
  rw [statusAlarm_eq]
  cases hs : effectiveStatus h i with
  | none => rfl
  | some code =>
    rw [Option.bind_some, unmapped code (effectiveStatus_eq_some.1 hs), Option.map_none]

lemma typeAlarm_of_ne {h : Sentence.Header} (other : h ≠ .kind (some "EMR")) :
    typeAlarm h = none := by
  cases h with
  | telemetry status event history => rfl
  | kind name =>
    have unlike : name ≠ some emergencyKind := fun same => other (congrArg _ same)
    rw [typeAlarm, if_neg unlike]

lemma withHeader_archive {h : Sentence.Header}
    (hq : ({ deviceId := n } : Position).withHeader h = .ok q) :
    q.archive = true ↔ ∃ status event, h = .telemetry status event (some "H") := by
  cases h with
  | telemetry status event history =>
    obtain ⟨number, -, hq⟩ := bind_eq_ok.1 hq
    cases hq
    simp [isHistory]
  | kind name =>
    cases hq
    simp

lemma withStatus_archive (p : Position) (status : Slot) :
    (p.withStatus status).archive = p.archive := by
  rw [Position.withStatus]
  split <;> rfl

lemma ofReport_archive (hp : ofReport n d.report = .ok p) :
    p.archive = true ↔ ∃ status event, d.report.header = .telemetry status event (some "H") := by
  simp only [ofReport, bind_eq_ok, mapError_eq_ok] at hp
  obtain ⟨p₁, h₁, p₂, h₂, time, -, latitude, -, longitude, -, hp⟩ := hp
  have untrailed := (headed_withHeader d.header h₁).2.withStatus
    (effectiveStatus d.report.header d.report.identity)
  obtain ⟨valid, rfl⟩ := withValidity_valid h₂
  -- the blocks behind the identity pass the mark on
  obtain ⟨-, passed⟩ := trailed_withTrailer d.remainder.trailer hp { untrailed with }
  simp only [leading, Prod.mk.injEq] at passed
  rw [passed.2.1, withStatus_archive]
  exact withHeader_archive h₁

open Terminal in
lemma letter_isA {other : Bool} : (letter? d).getD other = true ↔
    d.report.validity = some "A" ∨ d.report.validity = none ∧ other = true := by
  rw [letter?, Draft.report]
  cases d.remainder.fix.letter with
  | none => simp
  | some l =>
    have shown : String.ofList l.1 = "A" ↔ l.1 = ['A'] := String.ofList_inj
    simp [shown]

open Terminal in
lemma exists_judges (d : Draft) : ∃ v, Judges d.report.identity d.report.validity v ∧
    (v = true ↔ d.report.validity = some "A" ∨
      d.report.validity = none ∧ d.report.identity = .validity (some "1")) := by
  cases hi : d.identity with
  | status code =>
    have identity : d.report.identity = .status (shown code.1) := by
      rw [Draft.report, hi]
      rfl
    rw [identity]
    refine ⟨_, judges_code _, ?_⟩
    rw [letter_isA]
    simp
  | validity registration digit =>
    have identity : d.report.identity = .validity (shown digit.1) := by
      rw [Draft.report, hi]
      rfl
    have one : shown digit.1 = some "1" ↔ digit.1 = ['1'] := by
      rw [shown, Option.some_inj]
      exact String.ofList_inj
    rw [identity]
    refine ⟨_, judges_digit, ?_⟩
    rw [letter_isA]
    simp [one]

theorem marked_ofReport (hp : ofReport n d.report = .ok p) : p.Marked d.report := by
  obtain ⟨v, judged, letter⟩ := exists_judges d
  obtain ⟨valid, alarm, -⟩ := ofReport_of_ok [] judged judged hp
  refine ⟨?_, ?_, ?_, ?_, ofReport_archive hp⟩
  · intro code category counts mapped
    rw [alarm, statusAlarm_of_mapped counts mapped, Option.some_or]
  · intro unmapped type
    rw [alarm, statusAlarm_of_unmapped unmapped, type]
    rfl
  · intro unmapped type
    rw [alarm, statusAlarm_of_unmapped unmapped, typeAlarm_of_ne type]
    rfl
  · rw [valid]
    exact letter

lemma Marked.same {s : Report} (hp : p.Marked r) (hq : q.Marked s)
    (header : r.header.Alike s.header) (identity : s.identity = r.identity)
    (letter : s.validity = r.validity) :
    q.alarm = p.alarm ∧ q.valid = p.valid ∧ q.archive = p.archive := by
  have counts (code : String) :
      Counts s.header s.identity code ↔ Counts r.header r.identity code := by
    rw [identity]
    exact header.counts
  refine ⟨?_, ?_, ?_⟩
  · -- either some status that counts has an alarm, or the type of the header decides
    by_cases unmapped : ∀ code, Counts r.header r.identity code →
        Alarm.categories.lookup code = none
    · have too : ∀ code, Counts s.header s.identity code → Alarm.categories.lookup code = none :=
        fun code hc => unmapped code ((counts code).1 hc)
      by_cases emergency : r.header = .kind (some "EMR")
      · rw [hp.emergency unmapped emergency, hq.emergency too (header.kind_iff.2 emergency)]
      · rw [hp.quiet unmapped emergency, hq.quiet too (mt header.kind_iff.1 emergency)]
    · push Not at unmapped
      obtain ⟨code, hc, mapped⟩ := unmapped
      obtain ⟨category, known⟩ := Option.ne_none_iff_exists'.1 mapped
      rw [hp.mapped code category hc known, hq.mapped code category ((counts code).2 hc) known]
  · rw [Bool.eq_iff_iff, hp.valid, hq.valid, identity, letter]
  · rw [Bool.eq_iff_iff, hp.archive, hq.archive]
    exact header.history_iff

end Position

namespace Terminal

/-- Alarm, validity and archive mark of a record: which tokens they come from and in which order of
precedence; whatever else two sentences hold, they have the same marks if these tokens agree. -/
theorem decoded_marks {channel : Option Channel} {registry : Registry} {sentence : String}
    {p : Position} (h : (decode channel registry sentence).result = .ok (some p)) :
    (∀ code, (Alarm.ofStatus? code).map Alarm.name = Alarm.categories.lookup code) ∧
    ∃ r, Report.ofText? sentence = .ok (some r) ∧ p.Marked r ∧
      ∀ channel' registry' sentence' q s,
        (decode channel' registry' sentence').result = .ok (some q) →
        Report.ofText? sentence' = .ok (some s) →
        r.header.Alike s.header → s.identity = r.identity → s.validity = r.validity →
          q.alarm = p.alarm ∧ q.valid = p.valid ∧ q.archive = p.archive := by
  have marked : ∀ channel registry sentence p,
      (decode channel registry sentence).result = .ok (some p) →
        ∃ r, Report.ofText? sentence = .ok (some r) ∧ p.Marked r := by
    intro channel registry sentence p h
    rw [decode_eq_recordBy] at h
    obtain ⟨d, n, read, -, record⟩ := recordBy_eq_record h
    exact ⟨d.report, read, Position.marked_ofReport record⟩
  obtain ⟨r, read, hp⟩ := marked channel registry sentence p h
  refine ⟨Alarm.name_ofStatus?, r, read, hp, ?_⟩
  intro channel' registry' sentence' q s decoded read' header identity letter
  obtain ⟨s', again, hq⟩ := marked channel' registry' sentence' q decoded
  rw [read'] at again
  cases again
  exact hp.same hq header identity letter

def overruled (status : String) : String :=
  "$,01,ITS,1.0.2,EA,07,H,861693034634154," ++ status ++
    ",09112018,083542,A,12.975095,N,077.668045,E,0.0,95.2,*"

theorem overruled_marks :
    (∃ p r, (decode none ⟨false, ["861693034634154"]⟩ (overruled "HB")).result = .ok (some p) ∧
      Report.ofText? (overruled "HB") = .ok (some r) ∧ p.Marked r ∧
        Counts r.header r.identity "HB" ∧ p.alarm = some ("hardBraking" : Points) ∧
        p.valid = true ∧ p.archive = true) ∧
    ∃ p r, (decode none ⟨false, ["861693034634154"]⟩ (overruled "NR")).result = .ok (some p) ∧
      Report.ofText? (overruled "NR") = .ok (some r) ∧ p.Marked r ∧
        p.alarm = none ∧ p.valid = true ∧ p.archive = true := by
  have record (status : String) (good : Position → Bool) (decoded : (decode none
      ⟨false, ["861693034634154"]⟩ (overruled status)).result.toOption.any
        fun o => o.any fun p => good p && (p.valid && p.archive)) :
      ∃ p, (decode none ⟨false, ["861693034634154"]⟩ (overruled status)).result = .ok (some p) ∧
        good p ∧ p.valid = true ∧ p.archive = true := by
    obtain ⟨o, ho, marks⟩ := exists_ok_and decoded
    cases o with
    | none => cases marks
    | some p =>
      simp only [Option.any_some, Bool.and_eq_true] at marks
      exact ⟨p, ho, marks⟩
  constructor
  · have status : (Report.ofText? (overruled "HB")).toOption.join.any fun r =>
        Position.effectiveStatus r.header r.identity = some "HB" := by
      decide +kernel
    obtain ⟨p, decoded, -, valid, archive⟩ := record "HB" (fun _ => true)
      (by decide +kernel)
    obtain ⟨-, r, read, marked, -⟩ := decoded_marks decoded
    rw [read] at status
    have braking := effectiveStatus_eq_some.1 (of_decide_eq_true status)
    exact ⟨p, r, decoded, read, marked, braking, marked.mapped _ _ braking rfl, valid, archive⟩
  · obtain ⟨p, decoded, quiet, valid, archive⟩ :=
      record "NR" (fun p => p.alarm.isNone) (by decide +kernel)
    obtain ⟨-, r, read, marked, -⟩ := decoded_marks decoded
    exact ⟨p, r, decoded, read, marked, Option.isNone_iff_eq_none.1 quiet, valid, archive⟩

end Terminal

end Telematics
