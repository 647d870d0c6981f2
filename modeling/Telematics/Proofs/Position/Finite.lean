import Telematics.Proofs.Binary64.Value
import Telematics.Proofs.Json.Text
import Telematics.Proofs.Position.Size
import Telematics.Proofs.Position.Token

namespace Telematics

open Sentence Sentence.Draft Grammar Pattern

namespace Field

variable {name negative : String} {token hemisphere : Slot} {x y : Binary64} {limit : Nat}

def IsFinite (token : Slot) : Prop :=
  ∃ t ∈ token, ∃ x ∈ Binary64.ofText? t, x.isFinite

lemma isFinite_of_decimal (h : decimal name token = .ok x) : x.isFinite ↔ IsFinite token := by
  obtain ⟨t, rfl, ht⟩ := convert_eq_ok.1 h
  simp [IsFinite, ht]

lemma knotsFactor_eq : ∃ step, knotsFactor = .number false step ∧ step.val ≠ 0 ∧
    step.val < Binary64.infinityStep ∧ Binary64.units step ≤ Binary64.unitsInOne :=
  ⟨_, rfl, by decide +kernel, by decide +kernel, by decide +kernel⟩

lemma isFinite_knots (x : Binary64) : (knots x).isFinite ↔ x.isFinite := by
  obtain ⟨step, factor, nonzero, finite, atMostOne⟩ := knotsFactor_eq
  rw [knots, factor]
  cases x with
  | nan => exact Iff.rfl
  | number p a => exact Binary64.isFinite_mul nonzero finite atMostOne

lemma degrees_within (hl : limit * Binary64.unitsInOne < Binary64.units Binary64.infinityStep)
    (x : Token fraction) (h : degrees name negative limit (shown x.1) hemisphere = .ok y) :
    y.Within limit := by
  obtain ⟨step, hs⟩ := decimal_fraction name x
  rw [degrees, bind_eq_ok] at h
  obtain ⟨z, hz, h⟩ := h
  rw [hs] at hz
  cases hz
  by_cases above : (Binary64.number false step).exceeds limit
  · rw [if_pos above] at h
    cases h
  · have within := Binary64.within_of_not_exceeds hl (Bool.eq_false_iff.2 above)
    rw [if_neg above] at h
    split_ifs at h
    · cases h
      exact within.neg
    · cases h
      exact within

end Field

namespace Sentence

def Analog.decimals (a : Analog) : List Slot :=
  [a.first, a.second]

def Extended.decimals (e : Extended) : List Slot :=
  [e.altitude, e.power, e.battery] ++ e.analog.toList.flatMap Analog.decimals

def Trailer.decimals : Trailer → List Slot
  | .rich speed course _ e => [speed, course] ++ e.toList.flatMap Extended.decimals
  | .simple altitude speed => [altitude, speed]

end Sentence

namespace Position

variable {p q : Position} {n : Int}

def numbers (p : Position) : List (Option Binary64) :=
  [p.latitude, p.longitude, p.speed, p.course, p.altitude, p.power, p.battery, p.adc1, p.adc2]

def Finite (p : Position) : Prop :=
  ∀ o ∈ p.numbers, ∀ x ∈ o, x.isFinite

lemma withHeader_numbers {h : Sentence.Header} (hq : p.withHeader h = .ok q) :
    q.numbers = p.numbers := by
  cases h with
  | telemetry status event history =>
    obtain ⟨number, -, hq⟩ := bind_eq_ok.1 hq
    cases hq
    rfl
  | kind name =>
    cases hq
    rfl

lemma withStatus_numbers (p : Position) (status : Slot) :
    (p.withStatus status).numbers = p.numbers := by
  rw [Position.withStatus]
  split <;> rfl

lemma withValidity_numbers {i : Sentence.Identity} {letter : Slot}
    (hq : p.withValidity i letter = .ok q) : q.numbers = p.numbers := by
  cases i with
  | status code =>
    cases hq
    rfl
  | validity token =>
    obtain ⟨digit, -, hq⟩ := bind_eq_ok.1 hq
    cases hq
    rfl

lemma withAnalog_finite {a : Option Sentence.Analog} (h₁ : p.adc1 = none) (h₂ : p.adc2 = none)
    (hq : p.withAnalog a = .ok q) : q.Finite ↔
      p.Finite ∧ ∀ token ∈ a.toList.flatMap Analog.decimals, Field.IsFinite token := by
  cases a with
  | none =>
    cases hq
    simp
  | some a =>
    simp only [Position.withAnalog, bind_eq_ok] at hq
    obtain ⟨first, hf, second, hs, hq⟩ := hq
    cases hq
    simp [numbers, Finite, Analog.decimals, h₁, h₂, Field.isFinite_of_decimal hf,
      Field.isFinite_of_decimal hs]
    tauto

lemma withExtended_finite {e : Sentence.Extended} (ha : p.altitude = none) (hp : p.power = none)
    (hb : p.battery = none) (h₁ : p.adc1 = none) (h₂ : p.adc2 = none)
    (hq : p.withExtended e = .ok q) : q.Finite ↔
      p.Finite ∧ ∀ token ∈ e.decimals, Field.IsFinite token := by
  simp only [Position.withExtended, bind_eq_ok] at hq
  obtain ⟨altitude, halt, ignition, -, charge, -, power, hpow, battery, hbat, emergency, -,
    network, -, input, -, output, -, hq⟩ := hq
  rw [withAnalog_finite (by exact h₁) (by exact h₂) hq, Extended.decimals, List.forall_mem_append]
  simp [numbers, Finite, ha, hp, hb, h₁, h₂, Field.isFinite_of_decimal halt,
    Field.isFinite_of_decimal hpow, Field.isFinite_of_decimal hbat]
  tauto

lemma withTrailer_finite {t : Sentence.Trailer} (hs : p.speed = none) (hc : p.course = none)
    (ha : p.altitude = none) (hp : p.power = none) (hb : p.battery = none) (h₁ : p.adc1 = none)
    (h₂ : p.adc2 = none) (hq : p.withTrailer t = .ok q) :
    q.Finite ↔ p.Finite ∧ ∀ token ∈ t.decimals, Field.IsFinite token := by
  cases t with
  | rich speed course satellites e =>
    simp only [Position.withTrailer, bind_eq_ok] at hq
    obtain ⟨kph, hkph, heading, hheading, number, -, hq⟩ := hq
    have moving : ({ p with
        speed := some (Field.knots kph), course := some heading
        satellites := some number } : Position).Finite ↔
          p.Finite ∧ ∀ token ∈ [speed, course], Field.IsFinite token := by
      simp [numbers, Finite, hs, hc, ha, hp, hb, h₁, h₂, Field.isFinite_knots,
        Field.isFinite_of_decimal hkph, Field.isFinite_of_decimal hheading]
      tauto
    rw [Trailer.decimals, List.forall_mem_append, ← and_assoc]
    cases e with
    | none =>
      cases hq
      simp only [moving, Option.toList_none, List.flatMap_nil, List.not_mem_nil, false_imp_iff,
        implies_true, and_true]
    | some e =>
      rw [withExtended_finite (by exact ha) (by exact hp) (by exact hb) (by exact h₁)
        (by exact h₂) hq, moving, Option.toList_some, List.flatMap_singleton]
  | simple altitude speed =>
    simp only [Position.withTrailer, bind_eq_ok] at hq
    obtain ⟨height, hheight, kph, hkph, hq⟩ := hq
    cases hq
    simp [numbers, Finite, Trailer.decimals, hs, hc, ha, hp, hb, h₁, h₂, Field.isFinite_knots,
      Field.isFinite_of_decimal hkph, Field.isFinite_of_decimal hheight]
    tauto

lemma floats_ofOption (o : Option Binary64) : (Json.ofOption .float o).floats = o.toList := by
  cases o with
  | none => rfl
  | some x => rfl

lemma floats_ofOption_nil {α : Type} {f : α → Json} (hf : ∀ a, (f a).floats = []) (o : Option α) :
    (Json.ofOption f o).floats = [] := by
  cases o with
  | none => rfl
  | some a => exact hf a

lemma towers_floats (towers : List Tower) : Json.itemFloats (towers.map towerJson) = [] := by
  induction towers with
  | nil => rfl
  | cons t ts ih =>
    have signal := floats_ofOption_nil (f := Json.int) (fun _ => rfl) t.signal
    simp [towerJson, Json.itemFloats, Json.floats, Json.memberFloats, signal, ih]

lemma json_floats (p : Position) : p.json.floats = p.numbers.flatMap Option.toList := by
  have texts := floats_ofOption_nil (f := Json.str) fun _ => rfl
  have integers := floats_ofOption_nil (f := Json.int) fun _ => rfl
  have truths := floats_ofOption_nil (f := Json.bool) fun _ => rfl
  have time := floats_ofOption_nil (f := fun t => .str t.isoText) (fun _ => rfl) p.time
  have towers := floats_ofOption_nil (f := fun n : Network => .arr (n.towers.map towerJson))
    (fun n => towers_floats n.towers) p.network
  simp [json, Json.floats, Json.memberFloats, numbers, floats_ofOption, texts, integers, truths,
    time, towers]

lemma json_finite_iff (p : Position) : (∀ x ∈ p.json.floats, x.isFinite) ↔ p.Finite := by
  rw [json_floats, Finite]
  simp only [List.mem_flatMap, Option.mem_toList]
  constructor
  · exact fun h o ho x hx => h x ⟨o, ho, hx⟩
  · rintro h x ⟨o, ho, hx⟩
    exact h o ho x hx

lemma chars?_of_message? {line : String} (h : p.message? = some line) :
    p.json.chars? = some line.toList :=
  Json.chars?_of_text? h

theorem ofReport_finite_iff {d : Draft} (h : ofReport n d.report = .ok p) :
    p.Finite ↔ ∀ token ∈ d.report.trailer.decimals, Field.IsFinite token := by
  simp only [ofReport, bind_eq_ok, mapError_eq_ok] at h
  obtain ⟨p₁, h₁, p₂, h₂, time, -, latitude, hlat, longitude, hlon, h₃⟩ := h
  have unread : p₂.numbers = List.replicate 9 none := by
    rw [withValidity_numbers h₂, withStatus_numbers, withHeader_numbers h₁]
    rfl
  simp only [numbers, List.replicate_succ, List.cons.injEq] at unread
  obtain ⟨-, -, hs, hc, ha, hp, hb, h1, h2, -⟩ := unread
  have finite_lat : latitude.isFinite :=
    (Field.degrees_within (by decide +kernel) d.remainder.fix.latitude hlat).isFinite
  have finite_lon : longitude.isFinite :=
    (Field.degrees_within (by decide +kernel) d.remainder.fix.longitude hlon).isFinite
  have coordinates : ({ p₂ with
      time := some time, latitude := some latitude, longitude := some longitude } :
        Position).Finite := by
    simp [Finite, numbers, hs, hc, ha, hp, hb, h1, h2, finite_lat, finite_lon]
  rw [withTrailer_finite (by exact hs) (by exact hc) (by exact ha) (by exact hp) (by exact hb)
    (by exact h1) (by exact h2) h₃]
  simp only [coordinates, true_and]

end Position

end Telematics
