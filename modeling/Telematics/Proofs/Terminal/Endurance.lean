import Telematics.Proofs.Position.Marks
import Telematics.Proofs.Terminal.Exchange
import Telematics.Proofs.Terminal.Stream
import Telematics.Service

/-! What a connection withstands. -/

namespace Telematics.Terminal.Connection

open Sentence

variable {channel : Channel} {limit : Nat} {registry : Registry} {sentences : List String}

def registryAfter (channel : Channel) (registry : Registry) (sentences : List String) : Registry :=
  sentences.foldl (fun r s => (process channel r s).registry) registry

@[simp] lemma registryAfter_cons {s : String} : registryAfter channel registry (s :: sentences) =
    registryAfter channel (process channel registry s).registry sentences := by
  simp only [registryAfter, List.foldl_cons]

def effectsOf (channel : Channel) : Registry → List String → List Effect
  | _, [] => []
  | registry, s :: r =>
    (process channel registry s).effects ++
      effectsOf channel (process channel registry s).registry r

def Endures (channel : Channel) (registry : Registry) (sentences : List String) : Prop :=
  ∀ before s after, sentences = before ++ s :: after →
    ¬ Breaks channel (registryAfter channel registry before) s

lemma endures_cons {s : String} : Endures channel registry (s :: sentences) ↔
    ¬ Breaks channel registry s ∧
      Endures channel (process channel registry s).registry sentences := by
  constructor
  · intro h
    refine ⟨h [] s sentences rfl, ?_⟩
    rintro before t after rfl
    have ht := h (s :: before) t after rfl
    rwa [registryAfter_cons] at ht
  · rintro ⟨hs, hr⟩ before t after h
    cases before with
    | nil =>
      obtain ⟨rfl, -⟩ := List.cons.inj h
      exact hs
    | cons x before =>
      obtain ⟨rfl, rfl⟩ := List.cons.inj h
      rw [registryAfter_cons]
      exact hr before t after rfl

lemma serve_of_endures (h : Endures channel registry sentences) :
    serve channel registry sentences =
      (registryAfter channel registry sentences, effectsOf channel registry sentences, none) := by
  induction sentences generalizing registry with
  | nil => rfl
  | cons s r ih =>
    obtain ⟨hs, hr⟩ := endures_cons.1 h
    rw [serve]
    cases ho : (process channel registry s).result with
    | error f => exact absurd (process_error_iff.1 ⟨f, ho⟩) hs
    | ok o =>
      simp only [ih hr, registryAfter_cons, effectsOf]

lemma serve_of_not_endures (h : ¬ Endures channel registry sentences) :
    ∃ after effects failure, serve channel registry sentences = (after, effects, some failure) := by
  induction sentences generalizing registry with
  | nil =>
    refine absurd ?_ h
    intro before s after hs
    simp at hs
  | cons s r ih =>
    rw [serve]
    cases ho : (process channel registry s).result with
    | error f => exact ⟨_, _, f, rfl⟩
    | ok o =>
      have hs : ¬ Breaks channel registry s := by
        rw [← process_error_iff, ho]
        rintro ⟨f, hf⟩
        cases hf
      have hr : ¬ Endures channel (process channel registry s).registry r :=
        fun hr => h (endures_cons.2 ⟨hs, hr⟩)
      obtain ⟨after, effects, failure, hserve⟩ := ih hr
      simp only [hserve]
      exact ⟨_, _, _, rfl⟩

lemma effectsOf_append (registry : Registry) (xs ys : List String) :
    effectsOf channel registry (xs ++ ys) = effectsOf channel registry xs ++
      effectsOf channel (registryAfter channel registry xs) ys := by
  induction xs generalizing registry with
  | nil => rfl
  | cons x xs ih =>
    rw [List.cons_append, effectsOf, effectsOf, ih, List.append_assoc, registryAfter_cons]

/-- A sentence without a record greets, looks up and logs. The ones behind it are served as without
it, with its device registered at most. -/
structure Isolated (channel : Channel) (registry : Registry) (before : List String) (s : String)
    (after : List String) : Prop where
  own : ∃ asked, (process channel (registryAfter channel registry before) s).effects =
    greet (some channel) s ++ asked ∧ ∀ e ∈ asked, Quiet e
  others : effectsOf channel registry (before ++ after) = effectsOf channel registry before ++
    effectsOf channel (registryAfter channel registry before) after
  rest : ∃ next, effectsOf channel registry (before ++ s :: after) =
      effectsOf channel registry before ++
        (process channel (registryAfter channel registry before) s).effects ++
          effectsOf channel next after ∧
    (next = registryAfter channel registry before ∨
      ∃ identifier, registry.admitsUnknown = true ∧
        (registryAfter channel registry before).find? identifier = none ∧
        next = (registryAfter channel registry before).add identifier)

lemma registryAfter_admitsUnknown (channel : Channel) (registry : Registry)
    (sentences : List String) :
    (registryAfter channel registry sentences).admitsUnknown = registry.admitsUnknown := by
  induction sentences generalizing registry with
  | nil => rfl
  | cons s r ih =>
    have hs : (process channel registry s).registry.admitsUnknown = registry.admitsUnknown := by
      obtain h | ⟨identifier, -, -, h⟩ := process_registry channel registry s
      · rw [h]
      · rw [h]
        rfl
    rw [registryAfter_cons, ih, hs]

lemma isolated {before after : List String} {s : String}
    (h : (process channel (registryAfter channel registry before) s).result = .ok none) :
    Isolated channel registry before s after where
  own := process_effects_of_none h
  others := effectsOf_append registry before after
  rest := by
    refine ⟨(process channel (registryAfter channel registry before) s).registry, ?_, ?_⟩
    · rw [effectsOf_append, effectsOf, List.append_assoc]
    · rw [← registryAfter_admitsUnknown channel registry before]
      exact process_registry channel _ s

lemma play_of_endures {inputs : List Input}
    (h : Endures channel registry (handed limit [] inputs).1) :
    play channel limit registry inputs =
      ⟨registryAfter channel registry (handed limit [] inputs).1,
        (handed limit [] inputs).2.connection,
        opened channel ++ (effectsOf channel registry (handed limit [] inputs).1 ++
          (handed limit [] inputs).2.effects channel)⟩ := by
  simp only [play, run_eq, serve_of_endures h, conclude]

lemma play_failure_iff {inputs : List Input} :
    (∃ failure, (play channel limit registry inputs).connection = .finished (some failure)) ↔
      ¬ Endures channel registry (handed limit [] inputs).1 := by
  by_cases h : Endures channel registry (handed limit [] inputs).1
  · simp only [play_of_endures h, h, not_true_eq_false, iff_false]
    rintro ⟨failure, hf⟩
    cases he : (handed limit [] inputs).2 <;> rw [he] at hf <;> cases hf
  · simp only [h, not_false_eq_true, iff_true]
    obtain ⟨after, effects, failure, hs⟩ := serve_of_not_endures h
    refine ⟨.exchange failure, ?_⟩
    simp only [play, run_eq, hs, conclude]

end Telematics.Terminal.Connection

namespace Telematics.Service

open Terminal Terminal.Connection

variable {channel : Channel} {limit : Nat}

lemma apply_registry (s : Service) (e : Effect) : (s.apply e).registry = s.registry := by
  cases e <;> rfl

lemma foldl_apply_registry (s : Service) (effects : List Effect) :
    (effects.foldl apply s).registry = s.registry := by
  induction effects generalizing s with
  | nil => rfl
  | cons e r ih => rw [List.foldl_cons, ih, apply_registry]

lemma settleOne_registry (s : Service) (key : Nat) : (s.settleOne key).registry = s.registry := by
  unfold settleOne
  split
  · split <;> rfl
  · rfl

lemma settle_registry (s : Service) : s.settle.registry = s.registry := by
  rw [settle]
  generalize List.range s.watchers.length = keys
  induction keys generalizing s with
  | nil => rfl
  | cons key r ih => rw [List.foldl_cons, ih, settleOne_registry]

lemma feedAll_cons (s : Service) (c : Connection) (i : Input) (is : List Input) :
    (feedAll channel limit s c (i :: is)) =
      ((feedAll channel limit (s.feed channel limit c i).1 (s.feed channel limit c i).2.1 is).1,
        (feedAll channel limit (s.feed channel limit c i).1 (s.feed channel limit c i).2.1 is).2.1,
        (s.feed channel limit c i).2.2 ++ (feedAll channel limit (s.feed channel limit c i).1
          (s.feed channel limit c i).2.1 is).2.2) := rfl

lemma feedAll_eq (channel : Channel) (limit : Nat) (s : Service) (c : Connection)
    (inputs : List Input) :
    (feedAll channel limit s c inputs).1.registry =
      (run channel limit s.registry c inputs).registry ∧
    (feedAll channel limit s c inputs).2 = ((run channel limit s.registry c inputs).connection,
      (run channel limit s.registry c inputs).effects) := by
  induction inputs generalizing s c with
  | nil => exact ⟨rfl, rfl⟩
  | cons i is ih =>
    have hr : (s.feed channel limit c i).1.registry =
        (c.step channel limit s.registry i).registry := by
      rw [feed, settle_registry, foldl_apply_registry]
    obtain ⟨h₁, h₂⟩ := ih (s.feed channel limit c i).1 (s.feed channel limit c i).2.1
    rw [hr] at h₁ h₂
    rw [feedAll_cons, h₁, h₂]
    exact ⟨rfl, rfl⟩

lemma serve_eq_play (channel : Channel) (limit : Nat) (s : Service) (inputs : List Input) :
    (s.serve channel limit inputs).1.registry = (play channel limit s.registry inputs).registry ∧
    (s.serve channel limit inputs).2 = ((play channel limit s.registry inputs).connection,
      (play channel limit s.registry inputs).effects) := by
  obtain ⟨h₁, h₂⟩ := feedAll_eq channel limit ((opened channel).foldl apply s) (.reading []) inputs
  rw [foldl_apply_registry] at h₁ h₂
  have hc := congrArg Prod.fst h₂
  have he := congrArg Prod.snd h₂
  exact ⟨h₁, Prod.ext hc (congrArg (opened channel ++ ·) he)⟩

/-- A terminal takes its connection down if and only if it sends a sentence whose record has no
message. As long as it does not, the connection does what its sentences do one after the other,
and a sentence without a record changes nothing for the other ones. -/
theorem serve_withstands (s : Service) (channel : Channel) (limit : Nat) (inputs : List Input) :
    let sentences := (handed limit [] inputs).1
    let ending := (handed limit [] inputs).2
    let served := s.serve channel limit inputs
    (∀ registry sentence, (∃ failure, (process channel registry sentence).result = .error failure) ↔
      Breaks channel registry sentence) ∧
    (Within limit (received inputs) → ending ≠ .overrun) ∧
    ((∃ failure, served.2.1 = .finished (some failure)) ↔
      ¬ Endures channel s.registry sentences) ∧
    (Endures channel s.registry sentences →
      served.1.registry = registryAfter channel s.registry sentences ∧
      served.2.1 = ending.connection ∧
      served.2.2 = opened channel ++ (effectsOf channel s.registry sentences ++
        ending.effects channel)) ∧
    ∀ before sentence after, sentences = before ++ sentence :: after →
      (process channel (registryAfter channel s.registry before) sentence).result = .ok none →
        Isolated channel s.registry before sentence after := by
  intro sentences ending served
  obtain ⟨hr, hs⟩ := serve_eq_play channel limit s inputs
  refine ⟨fun registry sentence => process_error_iff, ?_, ?_, ?_, ?_⟩
  · intro h
    exact handed_ne_overrun h (by simp)
  · rw [hs]
    exact play_failure_iff
  · intro h
    rw [hr, hs, play_of_endures h]
    exact ⟨rfl, rfl, rfl⟩
  · intro before sentence after _ hn
    exact isolated hn

end Telematics.Service

namespace Telematics.Terminal

open Sentence Sentence.Draft Grammar Pattern Text

def wideArea (n : Nat) : Token (several isHexDigit) :=
  ⟨List.replicate (n + 1) 'F', .seq (.one (by decide)) (.many fun c hc => by
    rw [List.eq_of_mem_replicate hc]
    decide)⟩

lemma ofTokens_wideArea (n : Nat) : Network.ofTokens (servedBy (wideArea n)).report.cells =
    .ok ⟨⟨404, 45, Numeral.ofDigits 16 (List.replicate (n + 1) 15), 1, some 24⟩, []⟩ := by
  have area : Field.hexadecimal "lac" (some (String.ofList (wideArea n).1)) =
      .ok (Numeral.ofDigits 16 (List.replicate (n + 1) 15)) := by
    rw [wideArea, Field.hexadecimal, Field.convert, Option.bind_some, Numeral.integer?_replicate]
    rfl
  have serving : Network.servingTower "24" "404" "45" (String.ofList (wideArea n).1) "1" =
      .ok ⟨404, 45, Numeral.ofDigits 16 (List.replicate (n + 1) 15), 1, some 24⟩ := by
    rw [Network.servingTower, area]
    rfl
  have tokens : (servedBy (wideArea n)).report.cells =
      ["24", "404", "45", String.ofList (wideArea n).1, "1"] ++ List.replicate 12 "0" := rfl
  rw [tokens]
  change (Network.servingTower "24" "404" "45" (String.ofList (wideArea n).1) "1" >>= _) = _
  rw [serving]
  rfl

lemma wide_not_short : ¬ Json.Short (Numeral.ofDigits 16 (List.replicate 3600 15) : Int) := by
  have h : Numeral.textBound < Numeral.ofDigits 16 (List.replicate 3600 15) + 1 := by
    rw [Numeral.ofDigits_replicate]
    decide +kernel
  rw [Json.Short, Int.natAbs_natCast]
  omega

lemma trailer_located (area : Token (several isHexDigit)) : (located area).report.trailer =
    .rich (some (String.ofList (Token.of decimal "0.0").1))
      (some (String.ofList (Token.of decimal "95.2").1))
      (some (String.ofList (Token.of digits "5").1)) (some (servedBy area).report) := rfl

lemma report_located (area : Token (several isHexDigit)) : (located area).report =
    { (located (.of _ "1")).report with
      slots := (located area).captures.asSlots
      trailer := (located area).report.trailer } := rfl

lemma servedBy_report (area : Token (several isHexDigit)) : (servedBy area).report =
    { (servedBy (.of _ "1")).report with cells := (servedBy area).report.cells } := rfl

lemma ofReport_wideArea (n : Nat) : ∃ p,
    Position.ofReport 1 (located (wideArea n)).report = .ok p ∧ p.network = some
      ⟨⟨404, 45, Numeral.ofDigits 16 (List.replicate (n + 1) 15), 1, some 24⟩, []⟩ := by
  have narrow : (Position.ofReport 1 (located (.of _ "1")).report).toOption.isSome := by
    decide +kernel
  obtain ⟨p, hp⟩ := exists_ok narrow
  have record := Position.ofReport_cells (trailer_located _) hp (ofTokens_wideArea n)
    (located (wideArea n)).captures.asSlots
  rw [← servedBy_report, ← trailer_located, ← report_located] at record
  exact ⟨_, record, rfl⟩

lemma breaks_wideArea_append {n : Nat} {rest : List Char}
    (ends : (located (wideArea n)).remainder.trailer.Ends rest)
    (h : ¬ Json.Short (Numeral.ofDigits 16 (List.replicate (n + 1) 15) : Int)) :
    Breaks { peer := .unknown } ⟨false, ["861693034634154"]⟩
      (String.ofList ((located (wideArea n)).text ++ rest)) := by
  obtain ⟨p, hp, hn⟩ := ofReport_wideArea n
  have foremost : (located (wideArea n)).Foremost rest := ⟨List.cons_ne_nil _ _, ends⟩
  have read := foremost.ofText?_eq String.toList_ofList
  have known : ((⟨false, ["861693034634154"]⟩ : Registry).resolve
      ((located (wideArea n)).report.imei.getD "")).2.session? =
        some ⟨1, "861693034634154"⟩ := by
    have imei : (located (wideArea n)).report.imei =
        some (String.ofList (Token.of (fixedDigits 15) "861693034634154").1) := rfl
    rw [imei]
    decide
  refine ⟨p, ?_, .inr ⟨_, hn, _, List.mem_cons_self, .inl h⟩⟩
  rw [decode_result _ read known]
  exact congrArg (fun x => (x.mapError Failure.ofTime).map some) hp

lemma breaks_wideArea {n : Nat}
    (h : ¬ Json.Short (Numeral.ofDigits 16 (List.replicate (n + 1) 15) : Int)) :
    Breaks { peer := .unknown } ⟨false, ["861693034634154"]⟩
      (String.ofList (located (wideArea n)).text) := by
  have no_analog : (located (wideArea n)).remainder.trailer.Ends [] := fun _ => by decide
  have breaks := breaks_wideArea_append (n := n) no_analog h
  rwa [List.append_nil] at breaks

theorem process_wide_area : (located (wideArea 3599)).text.length ≤ frameLimit ∧
    ∃ failure, (process { peer := .unknown } ⟨false, ["861693034634154"]⟩
      (String.ofList (located (wideArea 3599)).text)).result = .error failure :=
  ⟨by decide +kernel, process_error_iff.2 (breaks_wideArea wide_not_short)⟩

end Telematics.Terminal
