import Telematics.Proofs.Device
import Telematics.Proofs.Position.Shape
import Telematics.Proofs.Terminal.Exchange

namespace Telematics.Terminal

open Sentence Sentence.Draft

variable {resolve : String → Option Int} {s : String} {p : Position}

def identifier? (s : String) : Option String :=
  (Report.ofText? s).toOption.join.map fun r => r.imei.getD ""

def recordBy (resolve : String → Option Int) (s : String) : Except Failure (Option Position) :=
  match Report.ofText? s with
  | .error e => .error (.layout e)
  | .ok none => .ok none
  | .ok (some r) =>
    match resolve (r.imei.getD "") with
    | none => .ok none
    | some n => ((Position.ofReport n r).mapError Failure.ofTime).map some

lemma locate_result (channel : Option Channel) (registry : Registry) (r : Report) :
    (locate channel registry r).result = match registry.number? (r.imei.getD "") with
      | none => .ok none
      | some n => ((Position.ofReport n r).mapError Failure.ofTime).map some := by
  rw [Registry.number?]
  unfold locate
  simp only
  cases (registry.resolve (r.imei.getD "")).2.session? with
  | none => rfl
  | some session => rfl

theorem decode_eq_recordBy (channel : Option Channel) (registry : Registry) (s : String) :
    (decode channel registry s).result = recordBy registry.number? s := by
  unfold decode recordBy
  cases Report.ofText? s with
  | error e => rfl
  | ok o =>
    cases o with
    | none => rfl
    | some r => exact locate_result channel registry r

lemma recordBy_eq_record (h : recordBy resolve s = .ok (some p)) : ∃ (d : Draft) (n : Int),
    Report.ofText? s = .ok (some d.report) ∧ resolve (d.report.imei.getD "") = some n ∧
      Position.ofReport n d.report = .ok p := by
  unfold recordBy at h
  obtain ⟨-, ho⟩ | ⟨d, rest, -, -, ho⟩ := ofText?_cases s
  · rw [ho] at h
    cases h
  · simp only [ho] at h
    split at h
    · cases h
    · rename_i n known
      obtain ⟨q, hq, hp⟩ := map_eq_ok.1 h
      cases hp
      exact ⟨d, n, ho, known, mapError_eq_ok.1 hq⟩

/-- Every record has the shape that the alternatives of its sentence give, whatever numbers the
devices have and whatever the registry holds. -/
theorem decoded_coherent (s : String) :
    (∀ resolve p, recordBy resolve s = .ok (some p) →
      ∃ r, Report.ofText? s = .ok (some r) ∧ p.Coherent r) ∧
    ∀ channel registry p, (decode channel registry s).result = .ok (some p) →
      ∃ r, Report.ofText? s = .ok (some r) ∧ p.Coherent r := by
  have coherent : ∀ resolve p, recordBy resolve s = .ok (some p) →
      ∃ r, Report.ofText? s = .ok (some r) ∧ p.Coherent r := by
    intro resolve p h
    obtain ⟨d, n, read, -, record⟩ := recordBy_eq_record h
    exact ⟨d.report, read, Position.coherent_ofReport record⟩
  refine ⟨coherent, ?_⟩
  intro channel registry p h
  rw [decode_eq_recordBy] at h
  exact coherent _ p h

def fullReport : String :=
  "$,01,ITS,1.0.2,NR,01,L,861693034634154,KA01G1234,1,09112018,083542,A,12.975095,N,077.668045,E," ++
    "36.0,271.5,12,920.0,1.2,0.9,AIRTEL,1,1,12.6,4.1,0,C,5,222,10,1A2B,3C4D,0,1A2C,3C4E," ++
    "0,0000,0000,0,0000,0000,0,0000,0000,1011,10,3,1.25,2.50,"

theorem fullReport_coherent : ∃ p r, recordBy (fun _ => some 1) fullReport = .ok (some p) ∧
    Report.ofText? fullReport = .ok (some r) ∧ p.Coherent r ∧ p.adc2.isSome := by
  have decoded : (recordBy (fun _ => some 1) fullReport).toOption.any
      fun o => o.any fun p => p.adc2.isSome := by
    decide +kernel
  obtain ⟨o, ho, sampled⟩ := exists_ok_and decoded
  cases o with
  | none => cases sampled
  | some p =>
    obtain ⟨r, read, coherent⟩ := (decoded_coherent fullReport).1 _ p ho
    exact ⟨p, r, ho, read, coherent, sampled⟩

end Telematics.Terminal
