import Telematics.Proofs.Position.Size
import Telematics.Proofs.Position.Token
import Telematics.Proofs.Sentence.RoundTrip
import Telematics.Terminal.Exchange

namespace Telematics.Terminal

open Sentence Sentence.Draft Pattern

variable {channel : Option Channel} {registry : Registry} {s : String} {p : Position}
  {failure : Failure}

lemma briefDate (d : Draft) : Position.BriefDate d.report where
  day := Field.brief_of_fixedDigits (by decide) d.remainder.date.day
  month := Field.brief_of_fixedDigits (by decide) d.remainder.date.month
  year := Field.brief_year d.remainder.date.year
  hour := Field.brief_of_fixedDigits (by decide) d.remainder.clock.hour
  minute := Field.brief_of_fixedDigits (by decide) d.remainder.clock.minute
  second := Field.brief_of_fixedDigits (by decide) d.remainder.clock.second

lemma fewBits (e : Draft.Extended) : Position.FewBits e.report := by
  obtain ⟨-, inputs, -⟩ := matches_times_one.1 e.inputs.2
  obtain ⟨-, outputs, -⟩ := matches_times_one.1 e.outputs.2
  refine ⟨_, _, rfl, rfl, ?_, ?_⟩
  · rw [String.toList_ofList, inputs]
  · rw [String.toList_ofList, outputs]
    decide

lemma fewBits_of_trailer {d : Draft} {speed course satellites : Slot} {e : Sentence.Extended}
    (h : d.report.trailer = .rich speed course satellites (some e)) : Position.FewBits e := by
  change d.remainder.trailer.report = _ at h
  cases hb : d.remainder.trailer with
  | rich speed course satellites x =>
    rw [hb] at h
    cases x with
    | none => cases h
    | some x =>
      cases h
      exact fewBits x
  | simple altitude speed =>
    rw [hb] at h
    cases h

lemma locate_error {d : Draft} (h : (locate channel registry d.report).result = .error failure) :
    ∃ c, failure = .conversion c := by
  unfold locate at h
  simp only at h
  split at h
  · cases h
  · obtain ⟨e, he, rfl⟩ := mapError_map_error h
    obtain ⟨c, rfl⟩ := Position.onlyConverts_ofReport (briefDate d) e he
    exact ⟨c, rfl⟩

lemma locate_bounded {d : Draft} (h : (locate channel registry d.report).result = .ok (some p)) :
    p.Bounded := by
  unfold locate at h
  simp only at h
  split at h
  · cases h
  · obtain ⟨q, hq, hp⟩ := map_eq_ok.1 h
    cases hp
    exact Position.bounded_of_ofReport (fun _ _ _ _ => fewBits_of_trailer) (mapError_eq_ok.1 hq)

lemma decode_error (h : (decode channel registry s).result = .error failure) :
    ∃ c, failure = .conversion c := by
  unfold decode at h
  obtain ⟨-, ho⟩ | ⟨d, rest, -, -, ho⟩ := ofText?_cases s
  · simp only [ho] at h
    cases h
  · simp only [ho] at h
    exact locate_error h

lemma decode_bounded (h : (decode channel registry s).result = .ok (some p)) : p.Bounded := by
  unfold decode at h
  obtain ⟨-, ho⟩ | ⟨d, rest, -, -, ho⟩ := ofText?_cases s
  · simp only [ho] at h
    cases h
  · simp only [ho] at h
    exact locate_bounded h

lemma decode_result {session : Session} {r : Report} (channel : Option Channel)
    (hr : Report.ofText? s = .ok (some r))
    (hs : (registry.resolve (r.imei.getD "")).2.session? = some session) :
    (decode channel registry s).result =
      ((Position.ofReport session.deviceId r).mapError Failure.ofTime).map some := by
  simp only [decode, hr, locate]
  rw [hs]

/-- The sentence decodes to a record that has no message. -/
def Breaks (channel : Channel) (registry : Registry) (s : String) : Prop :=
  ∃ p, (decode (some channel) registry s).result = .ok (some p) ∧ p.Unwritable

variable {c : Channel}

lemma process_cases (c : Channel) (registry : Registry) (s : String) :
    (∃ p, (decode (some c) registry s).result = .ok (some p) ∧ p.Unwritable ∧
      (process c registry s).result = .error .unwritable) ∨
    (∃ p text, (decode (some c) registry s).result = .ok (some p) ∧ ¬ p.Unwritable ∧
      (process c registry s).result = .ok (some p) ∧
      (process c registry s).effects = (decode (some c) registry s).effects ++ [.publish text]) ∨
    ((∀ p, (decode (some c) registry s).result ≠ .ok (some p)) ∧
      (process c registry s).result = .ok none ∧
      ∃ logs, (process c registry s).effects = (decode (some c) registry s).effects ++ logs ∧
        ∀ e ∈ logs, ∃ event, e = .log event) := by
  simp only [process]
  cases h : (decode (some c) registry s).result with
  | error f =>
    obtain ⟨e, rfl⟩ := decode_error h
    refine .inr (.inr ⟨by simp, rfl, [.log (.decodeFailed c.peer)], rfl, ?_⟩)
    intro e he
    exact ⟨_, List.mem_singleton.1 he⟩
  | ok o =>
    cases o with
    | none => exact .inr (.inr ⟨by simp, h, [], (List.append_nil _).symm, by simp⟩)
    | some p =>
      have hm := Position.message?_eq_none (decode_bounded h)
      cases ht : p.message? with
      | none => exact .inl ⟨p, rfl, hm.1 ht, by simp only [ht]⟩
      | some text =>
        have writable : ¬ p.Unwritable := by
          intro hu
          rw [hm.2 hu] at ht
          cases ht
        exact .inr (.inl ⟨p, text, rfl, writable, by simp only [ht], by simp only [ht]⟩)

lemma process_error_iff :
    (∃ f, (process c registry s).result = .error f) ↔ Breaks c registry s := by
  obtain ⟨p, hp, hu, hr⟩ | ⟨p, text, hp, hu, hr, -⟩ | ⟨hp, hr, -⟩ := process_cases c registry s
  · exact ⟨fun _ => ⟨p, hp, hu⟩, fun _ => ⟨_, hr⟩⟩
  · constructor
    · rintro ⟨f, hf⟩
      rw [hr] at hf
      cases hf
    · rintro ⟨q, hq, hqu⟩
      rw [hp] at hq
      cases hq
      exact absurd hqu hu
  · constructor
    · rintro ⟨f, hf⟩
      rw [hr] at hf
      cases hf
    · rintro ⟨q, hq, -⟩
      exact absurd hq (hp q)

lemma resolve_registry (registry : Registry) (identifier : String) :
    (registry.resolve identifier).1 = registry ∨ registry.admitsUnknown = true ∧
      registry.find? identifier = none ∧
      (registry.resolve identifier).1 = registry.add identifier := by
  unfold Registry.resolve
  cases hf : registry.find? identifier with
  | some session => exact .inl rfl
  | none =>
    cases ha : registry.admitsUnknown with
    | false => exact .inl rfl
    | true =>
      refine .inr ⟨rfl, rfl, ?_⟩
      simp [Registry.register, hf]

lemma locate_registry {r : Report} :
    (locate channel registry r).registry = (registry.resolve (r.imei.getD "")).1 := by
  unfold locate
  simp only
  split <;> rfl

lemma process_registry (c : Channel) (registry : Registry) (s : String) :
    (process c registry s).registry = registry ∨ ∃ identifier, registry.admitsUnknown = true ∧
      registry.find? identifier = none ∧
      (process c registry s).registry = registry.add identifier := by
  have same : (process c registry s).registry = (decode (some c) registry s).registry := by
    simp only [process]
    generalize decode (some c) registry s = o
    obtain ⟨after, effects, result⟩ := o
    cases result with
    | error f => cases f <;> rfl
    | ok o =>
      cases o with
      | none => rfl
      | some p =>
        cases ht : p.message? with
        | none => simp only [ht]
        | some text => simp only [ht]
  rw [same]
  unfold decode
  obtain ⟨-, ho⟩ | ⟨d, rest, -, -, ho⟩ := ofText?_cases s
  · simp only [ho, true_or]
  · simp only [ho, locate_registry]
    exact (resolve_registry registry _).imp_right fun h => ⟨_, h⟩

def Quiet (e : Effect) : Prop :=
  (∃ connection identifier, e = .lookUp connection identifier) ∨ ∃ event, e = .log event

lemma locate_quiet {r : Report} : ∀ e ∈ (locate channel registry r).effects, Quiet e := by
  have asked : ∀ (logs : List Log.Event) (identifier : String),
      ∀ e ∈ Effect.lookUp channel identifier :: logs.map .log, Quiet e := by
    intro logs identifier e he
    obtain rfl | he := List.mem_cons.1 he
    · exact .inl ⟨channel, identifier, rfl⟩
    · obtain ⟨event, -, rfl⟩ := List.mem_map.1 he
      exact .inr ⟨event, rfl⟩
  unfold locate
  simp only
  split
  · intro e he
    obtain he | he := List.mem_append.1 he
    · exact asked _ _ e he
    · exact .inr ⟨_, List.mem_singleton.1 he⟩
  · exact asked _ _

lemma decode_effects (channel : Option Channel) (registry : Registry) (s : String) :
    ∃ asked, (decode channel registry s).effects = greet channel s ++ asked ∧
      ∀ e ∈ asked, Quiet e := by
  unfold decode
  obtain ⟨-, ho⟩ | ⟨d, rest, -, -, ho⟩ := ofText?_cases s
  · simp only [ho]
    refine ⟨_, rfl, ?_⟩
    intro e he
    exact .inr ⟨_, List.mem_singleton.1 he⟩
  · simp only [ho]
    exact ⟨_, rfl, locate_quiet⟩

lemma process_effects_of_none (h : (process c registry s).result = .ok none) :
    ∃ asked, (process c registry s).effects = greet (some c) s ++ asked ∧ ∀ e ∈ asked, Quiet e := by
  obtain ⟨asked, hd, hq⟩ := decode_effects (some c) registry s
  obtain ⟨p, -, -, hr⟩ | ⟨p, text, -, -, hr, -⟩ | ⟨-, -, logs, he, hl⟩ :=
    process_cases c registry s
  · rw [hr] at h
    cases h
  · rw [hr] at h
    cases h
  · refine ⟨asked ++ logs, by rw [he, hd, List.append_assoc], ?_⟩
    intro e hmem
    obtain hmem | hmem := List.mem_append.1 hmem
    · exact hq e hmem
    · exact .inr (hl e hmem)

end Telematics.Terminal
