import Telematics.Proofs.Position.Refusal
import Telematics.Proofs.Terminal.Exchange

namespace Telematics.Terminal

open Sentence Sentence.Draft Grammar Pattern

variable {r : Report} {s : String} {x : Except Field.TimeError Position} {c : Checks}

structure Decided (result : Except Failure (Option Position)) (c : Checks) : Prop where
  converts : ∀ failure, result = .error failure → ∃ e, failure = .conversion e
  field_iff : ∀ name, (∃ e, result = .error (.conversion e) ∧ e.field = name) ↔ c.First name
  record_iff : (∃ p, result = .ok (some p)) ↔ c.Clear

def failureNames (failure : Failure) (name : String) : Prop :=
  ∃ e, failure = .conversion e ∧ e.field = name

lemma unique_name {failure : Failure} {m n : String} (hm : failureNames failure m)
    (hn : failureNames failure n) : m = n := by
  obtain ⟨e, rfl, rfl⟩ := hm
  obtain ⟨e', he, rfl⟩ := hn
  cases he
  rfl

lemma decided_of_obeys (h : Obeys Field.timeNames x c) :
    Decided ((x.mapError Failure.ofTime).map some) c := by
  have failing : Obeys failureNames (x.mapError Failure.ofTime) c := by
    apply h.mapError
    rintro _ name ⟨e, rfl, he⟩
    exact ⟨e, rfl, he⟩
  have named : Obeys failureNames ((x.mapError Failure.ofTime).map some) c := failing.map
  refine ⟨fun failure hf => ?_, fun name => ?_, ?_⟩
  · obtain ⟨name, e, he, -⟩ := named.named hf
    exact ⟨e, he⟩
  · rw [← named.error_iff unique_name name]
    constructor
    · rintro ⟨e, he, hn⟩
      exact ⟨_, he, e, rfl, hn⟩
    · rintro ⟨_, he, e, rfl, hn⟩
      exact ⟨e, he, hn⟩
  · rw [← named.ok_iff]
    constructor
    · rintro ⟨p, hp⟩
      exact ⟨_, hp⟩
    · rintro ⟨o, ho⟩
      obtain ⟨p, -, rfl⟩ := map_eq_ok.1 ho
      exact ⟨p, ho⟩

/-- A sentence of a known device is decoded unless one of its checks fails; the first that fails is
the field of the error, whatever number the device has. -/
theorem decode_decided (h : Report.ofText? s = .ok (some r)) :
    (∀ n : Int, Decided (((Position.ofReport n r).mapError Failure.ofTime).map some)
      (Position.checks r)) ∧
    ∀ channel registry session,
      (Registry.resolve registry (r.imei.getD "")).2.session? = some session →
        Decided (decode channel registry s).result (Position.checks r) := by
  have decided (n : Int) : Decided (((Position.ofReport n r).mapError Failure.ofTime).map some)
      (Position.checks r) := by
    obtain ⟨-, ho⟩ | ⟨d, rest, -, -, ho⟩ := ofText?_cases s
    · rw [ho] at h
      cases h
    · rw [ho] at h
      cases h
      exact decided_of_obeys (Position.obeys_ofReport n d)
  refine ⟨decided, ?_⟩
  intro channel registry session hs
  rw [decode_result channel h hs]
  exact decided _

theorem decode_beyond_pole : ∃ e,
    (decode none ⟨false, ["861693034634154"]⟩ (String.ofList beyondPole.text)).result =
      .error (.conversion e) ∧ e.field = "latitude" := by
  have foremost : beyondPole.Foremost [] := ⟨List.cons_ne_nil _ _, fun _ => by decide⟩
  have read := foremost.ofText?_eq (String.toList_ofList.trans (List.append_nil _).symm)
  have known : ((⟨false, ["861693034634154"]⟩ : Registry).resolve
      (beyondPole.report.imei.getD "")).2.session? = some ⟨1, "861693034634154"⟩ := by decide
  have date : Position.HasDate beyondPole.report := by
    exact ⟨⟨2018, 11, 9, 8, 35, 42, 0, by decide, by decide, by decide, by decide, by decide,
      by decide, by decide⟩, by decide, by decide, by decide, by decide, by decide, by decide⟩
  have above : Field.Above 90 beyondPole.report.latitude.1 := by
    refine ⟨"90.1", by decide, _, rfl, ?_⟩
    decide +kernel
  have first : (Position.checks beyondPole.report).First "latitude" := by
    refine Checks.first_cons.2 (.inr ⟨not_not_intro date, ?_⟩)
    exact Checks.first_cons.2 (.inl ⟨rfl, above⟩)
  exact (((decode_decided read).2 none _ _ known).field_iff "latitude").2 first

end Telematics.Terminal
