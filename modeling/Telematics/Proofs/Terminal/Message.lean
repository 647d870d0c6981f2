import Telematics.Proofs.Position.Finite
import Telematics.Proofs.Terminal.Exchange

namespace Telematics

open Sentence Sentence.Draft Grammar Pattern

namespace Position

variable {p : Position} {line : String}

lemma message?_starts (h : p.message? = some line) : line.toList.head? = some '\x7b' := by
  have hc := chars?_of_message? h
  rw [json, Json.chars?, Option.map_eq_some_iff] at hc
  obtain ⟨ps, -, text⟩ := hc
  rw [← text]
  rfl

lemma isText_message?_iff (h : p.message? = some line) : Json.IsText line.toList ↔ p.Finite := by
  rw [Json.isText_chars?_iff (chars?_of_message? h), json_finite_iff]

lemma isObject_message?_iff (h : p.message? = some line) :
    Json.IsObject line.toList ↔ p.Finite := by
  rw [Json.IsObject, isText_message?_iff h]
  simp only [message?_starts h, and_true]

end Position

namespace Terminal

variable {channel : Option Channel} {registry : Registry} {s line : String} {p : Position}
  {c : Channel}

lemma decode_finite (h : (decode channel registry s).result = .ok (some p)) :
    ∃ r, Report.ofText? s = .ok (some r) ∧
      (p.Finite ↔ ∀ token ∈ r.trailer.decimals, Field.IsFinite token) := by
  unfold decode at h
  obtain ⟨-, ho⟩ | ⟨d, rest, -, -, ho⟩ := ofText?_cases s
  · simp only [ho] at h
    cases h
  · simp only [ho, locate] at h
    split at h
    · cases h
    · obtain ⟨q, hq, hp⟩ := map_eq_ok.1 h
      cases hp
      exact ⟨d.report, ho, Position.ofReport_finite_iff (mapError_eq_ok.1 hq)⟩

def line? (channel : Option Channel) (registry : Registry) (s : String) : Option String :=
  match (decode channel registry s).result with
  | .ok (some p) => p.message?
  | _ => none

lemma line?_eq_some : line? channel registry s = some line ↔
    ∃ p, (decode channel registry s).result = .ok (some p) ∧ p.message? = some line := by
  unfold line?
  split
  · rename_i p hp
    simp [hp]
  · rename_i hp
    simp only [reduceCtorEq, false_iff, not_exists, not_and]
    exact fun p hd => absurd hd (hp p)

lemma messages_append (xs ys : List Effect) : messages (xs ++ ys) = messages xs ++ messages ys :=
  List.filterMap_append

lemma messages_of_quiet {effects : List Effect} (h : ∀ e ∈ effects, Quiet e) :
    messages effects = [] := by
  rw [messages, List.filterMap_eq_nil_iff]
  intro e he
  obtain ⟨connection, identifier, rfl⟩ | ⟨event, rfl⟩ := h e he
  · rfl
  · rfl

lemma messages_decode (channel : Option Channel) (registry : Registry) (s : String) :
    messages (decode channel registry s).effects = [] := by
  obtain ⟨asked, effects, quiet⟩ := decode_effects channel registry s
  rw [effects, messages_append, messages_of_quiet quiet, List.append_nil]
  cases channel with
  | none => rfl
  | some c =>
    simp only [greet, Channel.send]
    split_ifs <;> rfl

lemma messages_process (c : Channel) (registry : Registry) (s : String) :
    messages (process c registry s).effects = (line? (some c) registry s).toList := by
  have silent := messages_decode (some c) registry s
  simp only [process, line?]
  generalize decode (some c) registry s = o at silent
  obtain ⟨after, effects, result⟩ := o
  cases result with
  | error f =>
    cases f with
    | conversion e => rw [messages_append, silent]; rfl
    | tooLarge => exact silent
    | layout e => exact silent
    | unwritable => exact silent
  | ok o =>
    cases o with
    | none => exact silent
    | some p =>
      cases hm : p.message? with
      | none =>
        simp only [hm]
        exact silent
      | some text =>
        simp only [hm]
        rw [messages_append, silent]
        rfl

/-- The line of a decoded record is a JSON object if and only if the decimal tokens behind the
coordinates are finite numbers; otherwise the line is no JSON text. -/
theorem message_isObject_iff (h : (decode channel registry s).result = .ok (some p))
    (hm : p.message? = some line) : ∃ r, Report.ofText? s = .ok (some r) ∧
      (Json.IsObject line.toList ↔ ∀ token ∈ r.trailer.decimals, Field.IsFinite token) ∧
      (Json.IsText line.toList → Json.IsObject line.toList) := by
  obtain ⟨r, hr, finite⟩ := decode_finite h
  refine ⟨r, hr, (Position.isObject_message?_iff hm).trans finite, ?_⟩
  rw [Position.isText_message?_iff hm, Position.isObject_message?_iff hm]
  exact id

def nines (n : Nat) : List Char :=
  List.replicate (n + 1) '9'

lemma nines_digits (n : Nat) : nines n ≠ [] ∧ ∀ c ∈ nines n, Text.isDecimalDigit c := by
  refine ⟨List.cons_ne_nil _ _, fun c hc => ?_⟩
  rw [List.eq_of_mem_replicate hc]
  decide

lemma zero_digits : ∀ c ∈ ['0'], Text.isDecimalDigit c :=
  List.forall_mem_singleton.2 (by decide)

def speedOf (n : Nat) : Token fraction :=
  ⟨nines n ++ ['.'] ++ ['0'], .seq (.seq (matches_digits.2 ⟨rfl, nines_digits n⟩)
    (matches_one.2 ⟨rfl, '.', by decide, rfl⟩))
    (matches_digits.2 ⟨rfl, List.cons_ne_nil _ _, zero_digits⟩)⟩

lemma speedOf_read (n : Nat) : Binary64.ofText? (String.ofList (speedOf n).1) =
    some (.ofDecimal false (Numeral.value (nines n ++ ['0'])) (-1)) := by
  have text : (speedOf n).1 = nines n ++ '.' :: ['0'] := List.append_assoc ..
  obtain ⟨nonempty, whole⟩ := nines_digits n
  rw [text]
  exact (Binary64.ofText?_decimal nonempty whole zero_digits (.inr rfl)).1

lemma nines_beyond_range :
    (Binary64.ofDecimal false (Numeral.value (nines 399 ++ ['0'])) (-1)).isFinite = false := by
  decide +kernel

lemma speedOf_infinite {n : Nat}
    (h : (Binary64.ofDecimal false (Numeral.value (nines n ++ ['0'])) (-1)).isFinite = false) :
    ¬ Field.IsFinite (shown (speedOf n).1) := by
  rintro ⟨t, ht, x, hx, finite⟩
  rw [shown, Option.mem_some_iff] at ht
  rw [← ht, speedOf_read, Option.mem_some_iff] at hx
  rw [← hx, h] at finite
  cases finite

lemma ofReport_speed {n : Int} {r : Report} {altitude speed speed' : Slot} {x : Binary64}
    (ht : r.trailer = .simple altitude speed) (h : Position.ofReport n r = .ok p)
    (hs : Field.decimal "speed" speed' = .ok x) (slots : List Slot) :
    Position.ofReport n { r with slots, trailer := .simple altitude speed' } =
      .ok { p with speed := some (Field.knots x) } := by
  simp only [Position.ofReport, ht, Position.withTrailer, bind_eq_ok, mapError_eq_ok] at h ⊢
  obtain ⟨p₁, h₁, p₂, h₂, time, h₃, latitude, h₄, longitude, h₅, height, h₆, kph, -, h⟩ := h
  cases h
  exact ⟨p₁, h₁, p₂, h₂, time, h₃, latitude, h₄, longitude, h₅, height, h₆, x, hs, rfl⟩

lemma racing_report (speed : Token fraction) : (racing speed).report =
    { (emergency (.validity (.of _ "KA01AB1234") (.of _ "1"))).report with
      slots := (racing speed).captures.asSlots
      trailer := .simple (shown (Token.of (Pattern.optional (literal '-') ++ fraction) "0.0").1)
        (shown speed.1) } := rfl

variable {rest : List Char}

lemma racing_read (speed : Token fraction) (h : ¬ (kept digits).Starts rest) :
    Report.ofText? (String.ofList ((racing speed).text ++ rest)) =
      .ok (some (racing speed).report) := by
  have foremost : (racing speed).Foremost rest := ⟨List.cons_ne_nil _ _, fun _ => h⟩
  exact foremost.ofText?_eq String.toList_ofList

lemma racing_line (channel : Option Channel) (speed : Token fraction)
    (h : ¬ (kept digits).Starts rest) :
    ∃ p line, (decode channel ⟨false, ["861693034634154"]⟩
      (String.ofList ((racing speed).text ++ rest))).result = .ok (some p) ∧
        p.message? = some line := by
  have known : ((⟨false, ["861693034634154"]⟩ : Registry).resolve
      ((racing speed).report.imei.getD "")).2.session? = some ⟨1, "861693034634154"⟩ := by
    have imei : (racing speed).report.imei =
        some (String.ofList (Token.of (fixedDigits 15) "861693034634154").1) := rfl
    rw [imei]
    decide
  have slow : ((Position.ofReport 1 (emergency (.validity (.of _ "KA01AB1234")
      (.of _ "1"))).report).toOption.any fun p => p.deviceId = 1 && p.network.isNone) := by
    decide +kernel
  obtain ⟨p, hp, simple⟩ := exists_ok_and slow
  rw [Bool.and_eq_true, decide_eq_true_eq, Option.isNone_iff_eq_none] at simple
  obtain ⟨number, towers⟩ := simple
  obtain ⟨step, hs⟩ := Field.decimal_fraction "speed" speed
  have fast := ofReport_speed rfl hp hs (racing speed).captures.asSlots
  rw [← racing_report] at fast
  have decoded : (decode channel ⟨false, ["861693034634154"]⟩
      (String.ofList ((racing speed).text ++ rest))).result =
        .ok (some { p with speed := some (Field.knots (.number false step)) }) := by
    rw [decode_result channel (racing_read speed h) known]
    exact congrArg (fun x => (x.mapError Failure.ofTime).map some) fast
  have writable : ¬ Position.Unwritable
      { p with speed := some (Field.knots (.number false step)) } := by
    have one : 1 < Numeral.textBound := by decide +kernel
    simp [Position.Unwritable, number, towers, Json.Short, one]
  have message := (Position.message?_eq_none (decode_bounded decoded)).not.2 writable
  obtain ⟨line, hl⟩ := Option.ne_none_iff_exists'.1 message
  exact ⟨_, line, decoded, hl⟩

lemma racing_alone (speed : Token fraction) : ∃ p line,
    (decode none ⟨false, ["861693034634154"]⟩ (String.ofList (racing speed).text)).result =
      .ok (some p) ∧ p.message? = some line ∧
        Report.ofText? (String.ofList (racing speed).text) = .ok (some (racing speed).report) := by
  have ends : ¬ (kept digits).Starts [] := by decide
  obtain ⟨p, line, hd, hm⟩ := racing_line none speed ends
  have read := racing_read speed ends
  rw [List.append_nil] at hd read
  exact ⟨p, line, hd, hm, read⟩

theorem racing_json : ∃ p line,
    (decode none ⟨false, ["861693034634154"]⟩ (String.ofList (racing (speedOf 1)).text)).result =
      .ok (some p) ∧ p.message? = some line ∧ Json.IsObject line.toList := by
  obtain ⟨p, line, hd, hm, read⟩ := racing_alone (speedOf 1)
  obtain ⟨r, hr, object, -⟩ := message_isObject_iff hd hm
  rw [read] at hr
  cases hr
  refine ⟨p, line, hd, hm, object.2 ?_⟩
  have altitude : Field.IsFinite (shown "0.0".toList) := ⟨"0.0", rfl, _, rfl, by decide +kernel⟩
  have speed : Field.IsFinite (shown (speedOf 1).1) :=
    ⟨_, rfl, _, speedOf_read 1, by decide +kernel⟩
  have tokens : (racing (speedOf 1)).report.trailer.decimals =
      [shown "0.0".toList, shown (speedOf 1).1] := rfl
  rw [tokens, List.forall_mem_cons, List.forall_mem_singleton]
  exact ⟨altitude, speed⟩

lemma racing_length : (racing (speedOf 399)).text.length ≤ frameLimit := by
  decide +kernel

theorem racing_not_json : (racing (speedOf 399)).text.length ≤ frameLimit ∧ ∃ p line,
    (decode none ⟨false, ["861693034634154"]⟩ (String.ofList (racing (speedOf 399)).text)).result =
      .ok (some p) ∧ p.message? = some line ∧ ¬ Json.IsText line.toList := by
  obtain ⟨p, line, hd, hm, read⟩ := racing_alone (speedOf 399)
  refine ⟨racing_length, p, line, hd, hm, fun json => ?_⟩
  obtain ⟨r, hr, finite⟩ := decode_finite hd
  rw [read] at hr
  cases hr
  have tokens := finite.1 ((Position.isText_message?_iff hm).1 json)
  exact speedOf_infinite nines_beyond_range (tokens _ (.tail _ (.head _)))

end Terminal

end Telematics
