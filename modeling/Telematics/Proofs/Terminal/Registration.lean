import Telematics.Proofs.Position.Marks
import Telematics.Proofs.Terminal.Exchange

namespace Telematics.Terminal

open Sentence Sentence.Draft Grammar Pattern

variable {d : Draft} {digit : Token bit} {code : Token twoCharacters} {session : Session}
  {registry : Registry}

lemma statusAlarm_of_digit (hc : code.1 = ',' :: digit.1) :
    Position.statusAlarm (shown code.1) = none := by
  rw [hc]
  obtain h | h := bit_cases digit <;> rw [h] <;> rfl

def letter? (d : Draft) : Option Bool :=
  d.remainder.fix.letter.map fun l => l.1 = ['A']

lemma judges_code (code : Slot) :
    Position.Judges (.status code) d.report.validity ((letter? d).getD false) := by
  intro p hp
  rw [Draft.report, letter?]
  cases d.remainder.fix.letter with
  | none => exact congrArg (fun b => Except.ok (p.marked b p.alarm)) hp
  | some l =>
    have h : (String.ofList l.1 = "A") ↔ l.1 = ['A'] := String.ofList_inj
    simp only [Position.withValidity, Option.map_some, Option.getD_some, h]
    rfl

lemma judges_digit : Position.Judges (.validity (shown digit.1)) d.report.validity
    ((letter? d).getD (digit.1 = ['1'])) := by
  intro p hp
  have hn : (Field.integer "valid" (shown digit.1)).map (fun n => decide (n = 1)) =
      .ok (decide (digit.1 = ['1'])) := by
    obtain h | h := bit_cases digit <;> rw [h] <;> rfl
  rw [Draft.report, letter?]
  cases d.remainder.fix.letter with
  | none =>
    simp only [Position.withValidity, hn]
    rfl
  | some l =>
    have h : (String.ofList l.1 = "A") ↔ l.1 = ['A'] := String.ofList_inj
    simp only [Position.withValidity, hn, Option.map_some, Option.getD_some, h]
    rfl

lemma letter_getD_eq_iff : (letter? d).getD false = (letter? d).getD (digit.1 = ['1']) ↔
    (letter? d).isSome ∨ digit.1 = ['0'] := by
  cases letter? d with
  | some b => simp
  | none => obtain h | h := bit_cases digit <;> simp [h]

lemma typeAlarm_eq_iff (h : Draft.Header) :
    Position.typeAlarm h.report = Position.headerAlarm h.report ↔
      (h.isTelemetry → Position.headerAlarm h.report = none) := by
  cases h with
  | telemetry vendor firmware status event history =>
    simp only [Draft.Header.isTelemetry, true_imp_iff]
    exact eq_comm
  | kind name => exact ⟨fun _ h => by simp [Draft.Header.isTelemetry] at h, fun _ => rfl⟩

lemma ofText?_empty_registration {registration : Token (many inField)} {rest : List Char}
    (hi : d.identity = .validity registration digit) (hr : registration.1 = [])
    (hc : code.1 = ',' :: digit.1) (ht : d.remainder.trailer.Ends rest) :
    Report.ofText? (String.ofList (d.text ++ rest)) =
      .ok (some { d with identity := .status code }.report) := by
  have text : d.text = { d with identity := .status code }.text := by
    simp only [Draft.text, hi, status_text hr hc]
  have foremost : { d with identity := .status code }.Foremost rest := ⟨trivial, ht⟩
  rw [text]
  exact foremost.ofText?_eq String.toList_ofList

/-- All registrations but the empty one make the same record, with the validity of the digit behind
them and the alarm of the header. The empty one makes this record if and only if the sentence has a
validity letter or the digit 0 and the status of its header stands for no alarm. -/
theorem decode_registration (channel : Option Channel) (registry : Registry) (rest : List Char)
    {p : Position} {registration : Token (many inField)}
    (hi : d.identity = .validity registration digit) (ht : d.remainder.trailer.Ends rest)
    (hs : (registry.resolve (String.ofList d.imei.1)).2.session? = some session)
    (hp : Position.ofReport session.deviceId d.report = .ok p) :
    p.valid = (letter? d).getD (digit.1 = ['1']) ∧
    p.alarm = Position.headerAlarm d.header.report ∧
    ∀ other : Token (many inField), ∃ q,
      (decode channel registry (String.ofList
        ({ d with identity := .validity other digit }.text ++ rest))).result = .ok (some q) ∧
      (other.1 = [] → q =
        p.marked ((letter? d).getD false) (Position.typeAlarm d.header.report)) ∧
      (q = p ↔ other.1 ≠ [] ∨ ((letter? d).isSome ∨ digit.1 = ['0']) ∧
        (d.header.isTelemetry → Position.headerAlarm d.header.report = none)) := by
  obtain ⟨code, hc⟩ := exists_status_of_bit digit
  have identity : d.report.identity = .validity (shown digit.1) := by
    rw [Draft.report, hi]
    rfl
  have judged : Position.Judges d.report.identity d.report.validity
      ((letter? d).getD (digit.1 = ['1'])) := by
    rw [identity]
    exact judges_digit
  obtain ⟨hvalid, halarm, hstatus⟩ := Position.ofReport_of_ok
    { d with identity := .status code }.captures.asSlots judged
    (judges_code (shown code.1)) hp
  rw [identity, Position.statusAlarm_or_typeAlarm] at halarm
  refine ⟨hvalid, halarm, ?_⟩
  intro other
  by_cases hr : other.1 = []
  · -- the text reads with a status, which changes nothing but the marks
    have read := ofText?_empty_registration
      (d := { d with identity := .validity other digit }) rfl hr hc ht
    have status : Position.effectiveStatus d.report.header (.status (shown code.1)) =
        shown code.1 := by
      cases d.report.header <;> rfl
    rw [status, statusAlarm_of_digit hc, Option.none_or] at hstatus
    refine ⟨_, (decode_result channel read hs).trans
      (congrArg (fun x => (x.mapError Failure.ofTime).map some) hstatus), fun _ => rfl, ?_⟩
    rw [Position.marked_eq_self, hvalid, halarm, letter_getD_eq_iff]
    simp only [hr, ne_eq, not_true_eq_false, false_or]
    exact and_congr_right fun _ => typeAlarm_eq_iff d.header
  · have foremost : { d with identity := .validity other digit }.Foremost rest := ⟨hr, ht⟩
    have same : { d with identity := .validity other digit }.report = d.report := by
      simp only [Draft.report, Draft.captures, hi]
      rfl
    have read := foremost.ofText?_eq String.toList_ofList
    rw [same] at read
    refine ⟨p, ?_, fun h => absurd h hr, ?_⟩
    · rw [decode_result channel read hs, hp]
      rfl
    · simp only [ne_eq, hr, not_false_eq_true, true_or]

theorem decode_registration_emergency :
    let d := emergency (.validity (.of _ "KA01AB1234") (.of _ "1"))
    ∃ p, Position.ofReport 1 d.report = .ok p ∧ p.valid = true ∧
      p.alarm = some ("sos" : Points) ∧
      (decode none ⟨false, ["861693034634154"]⟩ (String.ofList (d.text ++ ['*']))).result =
        .ok (some p) := by
  intro d
  obtain ⟨p, hp⟩ : ∃ p, Position.ofReport 1 d.report = .ok p := exists_ok (by decide +kernel)
  have hk : ¬ (kept digits).Starts ['*'] := by decide
  have hs : ((⟨false, ["861693034634154"]⟩ : Registry).resolve
      (String.ofList d.imei.1)).2.session? = some ⟨1, "861693034634154"⟩ := by decide
  obtain ⟨hv, ha, every⟩ := decode_registration (d := d) none
    ⟨false, ["861693034634154"]⟩ ['*'] rfl (fun _ => hk) hs hp
  obtain ⟨q, hq, -, hqp⟩ := every (.of _ "KA01AB1234")
  rw [hqp.2 (.inl (List.cons_ne_nil _ _))] at hq
  exact ⟨p, hp, hv, ha, hq⟩

def marks? (s : String) : Option (Bool × Option Points) :=
  (decode none ⟨false, ["861693034634154"]⟩ s).result.toOption.join.map fun p => (p.valid, p.alarm)

theorem marks_lost_without_registration :
    let header := "$,01,V,F,EA,01,L,861693034634154,"
    let digit := ",1,09112018,083542,12.975095,N,077.668045,E,0.0,95.2,*"
    marks? (header ++ "KA01AB1234" ++ digit) = some (true, some ("sos" : Points)) ∧
      marks? (header ++ digit) = some (false, none) := by
  decide +kernel

end Telematics.Terminal
