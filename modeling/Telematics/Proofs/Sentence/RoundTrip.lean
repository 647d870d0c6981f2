import Telematics.Proofs.Sentence.Choice
import Telematics.Proofs.Sentence.Layout

namespace Telematics.Sentence

open Grammar Pattern

namespace Draft

variable {d : Draft} {rest : List Char}

/-- Every alternative is the first one that the text allows, and an optional block is there
wherever a whole one stands. -/
structure ChoosesFirst (d : Draft) (rest : List Char) : Prop where
  telemetry : d.header.isTelemetry ↔ (telemetryHeader ++ afterHeader).Starts
    (d.header.text ++ (field d.imei.1 ++ (d.identity.text ++ (d.remainder.text ++ rest))))
  status : d.identity.isStatus ↔ (kept twoCharacters ++ afterIdentity).Starts
    (d.identity.text ++ (d.remainder.text ++ rest))
  rich : d.remainder.trailer.isRich ↔ richTrailer.Starts (d.remainder.trailer.text ++ rest)
  extended : ∀ speed course satellites e,
    d.remainder.trailer = .rich speed course satellites e →
      (e.isSome ↔ Grammar.extended.Starts (extendedText e ++ rest))
  analog : ∀ speed course satellites e,
    d.remainder.trailer = .rich speed course satellites (some e) →
      (e.analog.isSome ↔ Grammar.analog.Starts (analogText e.analog ++ rest))

lemma telemetry_iff (h : d.Foremost rest) :
    d.header.isTelemetry ↔ (telemetryHeader ++ afterHeader).Starts
      (d.header.text ++ (field d.imei.1 ++ (d.identity.text ++ (d.remainder.text ++ rest)))) := by
  have behind := starts_of_preferred? (preferred?_identifier d.imei h.identity h.trailer)
  cases d.header with
  | telemetry vendor firmware status event history =>
    simp only [Header.isTelemetry, true_iff]
    exact starts_seq.2 ⟨_, _, _, matches_telemetryHeader.2
      ⟨vendor, firmware, status, event, history, rfl, rfl⟩, rfl, behind⟩
  | kind name =>
    simp only [Header.isTelemetry, Bool.false_eq_true, false_iff]
    exact fun hs => no_telemetry_at_kind hs.of_seq

lemma status_iff (h : d.Foremost rest) :
    d.identity.isStatus ↔ (kept twoCharacters ++ afterIdentity).Starts
      (d.identity.text ++ (d.remainder.text ++ rest)) := by
  rw [status_starts_iff h.trailer]
  simp [h.identity]

lemma analog_iff {a : Option Analog} (h : a = none → ¬ Grammar.analog.Starts rest) :
    a.isSome ↔ Grammar.analog.Starts (analogText a ++ rest) := by
  cases a with
  | some a =>
    simp only [Option.isSome_some, true_iff]
    exact (matches_analog.2 ⟨a, rfl, rfl⟩).starts rest
  | none =>
    simp only [Option.isSome_none, Bool.false_eq_true, false_iff]
    exact h rfl

lemma extended_iff {speed course : Token decimal} {satellites : Token digits}
    {e : Option Extended} (h : (Trailer.rich speed course satellites e).Ends rest) :
    e.isSome ↔ Grammar.extended.Starts (extendedText e ++ rest) := by
  cases e with
  | some e =>
    simp only [Option.isSome_some, true_iff]
    exact starts_of_preferred? (preferred?_extended h)
  | none =>
    simp only [Option.isSome_none, Bool.false_eq_true, false_iff]
    exact h

lemma rich_iff {b : Trailer} (h : b.Ends rest) :
    b.isRich ↔ richTrailer.Starts (b.text ++ rest) := by
  cases b with
  | rich speed course satellites e =>
    simp only [Trailer.isRich, true_iff]
    rw [Trailer.text, List.append_assoc]
    exact starts_seq.2 ⟨_, _, _, matches_richBase.2 ⟨speed, course, satellites, rfl, rfl⟩, rfl,
      starts_optional _ _⟩
  | simple altitude speed =>
    simp only [Trailer.isRich, Bool.false_eq_true, false_iff, richTrailer_starts_simple]
    exact fun hr => h hr.1 hr.2

lemma Foremost.choosesFirst (h : d.Foremost rest) : d.ChoosesFirst rest where
  telemetry := telemetry_iff h
  status := status_iff h
  rich := rich_iff h.trailer
  extended := by
    intro speed course satellites e he
    exact extended_iff (he ▸ h.trailer)
  analog := by
    intro speed course satellites e he
    have ends : (Trailer.rich speed course satellites (some e)).Ends rest := he ▸ h.trailer
    exact analog_iff ends

lemma Foremost.matches (h : d.Foremost rest) : sentence.Matches d.captures d.text := by
  obtain ⟨t, ht, he⟩ := matches_of_preferred? h.preferred?_eq
  rwa [List.append_cancel_right he]

lemma Foremost.ofText?_eq (h : d.Foremost rest) {s : String} (hs : s.toList = d.text ++ rest) :
    Report.ofText? s = .ok (some d.report) := by
  rw [Report.ofText?, capture?_eq, hs, h.preferred?_eq]
  simp only [Option.map_some, ofSlots_captures]
  rfl

end Draft

lemma ofText?_of_not_starts {s : String} (h : ¬ sentence.Starts s.toList) :
    Report.ofText? s = .ok none := by
  rw [Report.ofText?, capture?_eq, preferred?_eq_none.2 h]
  rfl

lemma ofText?_cases (s : String) :
    (¬ sentence.Starts s.toList ∧ Report.ofText? s = .ok none) ∨
      ∃ d rest, s.toList = Draft.text d ++ rest ∧ d.Foremost rest ∧
        Report.ofText? s = .ok (some d.report) := by
  by_cases h : sentence.Starts s.toList
  · obtain ⟨d, rest, hs, hd⟩ := Draft.exists_foremost h
    exact .inr ⟨d, rest, hs, hd, hd.ofText?_eq hs⟩
  · exact .inl ⟨h, ofText?_of_not_starts h⟩

/-- A text is a sentence if and only if a beginning of it is in the language of the grammar. Its
report then comes from fields that make up such a beginning, with the first possible choices. -/
theorem ofText?_spec (s : String) : ∃ o, Report.ofText? s = .ok o ∧
    (o.isSome ↔ ∃ t, t <+: s.toList ∧ sentence.Accepts t) ∧
    ∀ r ∈ o, ∃ d rest, s.toList = Draft.text d ++ rest ∧ sentence.Matches d.captures d.text ∧
      r = d.report ∧ d.ChoosesFirst rest := by
  obtain ⟨h, ho⟩ | ⟨d, rest, hs, hd, ho⟩ := ofText?_cases s
  · refine ⟨none, ho, ?_, by simp⟩
    simp only [Option.isSome_none, Bool.false_eq_true, false_iff]
    exact h
  · refine ⟨some d.report, ho, ?_, ?_⟩
    · simp only [Option.isSome_some, true_iff]
      exact ⟨d.text, ⟨rest, hs.symm⟩, d.captures, hd.matches⟩
    · rintro r ⟨⟩
      exact ⟨d, rest, hs, hd.matches, rfl, hd.choosesFirst⟩

/-- Every draft is read back from its text, except one whose registration is empty, as long as the
text behind it does not continue its trailer. -/
theorem ofText?_text (d : Draft) (rest : List Char) (hi : d.identity.Distinct)
    (ht : d.remainder.trailer.Ends rest) :
    Report.ofText? (String.ofList (d.text ++ rest)) = .ok (some d.report) := by
  have h : d.Foremost rest := ⟨hi, ht⟩
  exact h.ofText?_eq String.toList_ofList

theorem ofText?_text_emergency :
    let d := Draft.emergency (.validity (.of _ "KA01AB1234") (.of _ "1"))
    d.identity.Distinct ∧ d.remainder.trailer.Ends ['*'] ∧
      Report.ofText? (String.ofList (d.text ++ ['*'])) = .ok (some d.report) := by
  intro d
  have hi : d.identity.Distinct := List.cons_ne_nil _ _
  have hk : ¬ (kept digits).Starts ['*'] := by decide
  have ht : d.remainder.trailer.Ends ['*'] := fun _ => hk
  exact ⟨hi, ht, ofText?_text d ['*'] hi ht⟩

end Telematics.Sentence
