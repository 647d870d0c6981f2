import Telematics.Proofs.Position.Finite
import Telematics.Proofs.Sentence.Blocks

namespace Telematics

open Sentence Sentence.Draft Grammar Pattern

namespace Sentence

def Header.isTelemetry : Header → Bool
  | .telemetry .. => true
  | .kind _ => false

namespace Trailer

def isRich : Trailer → Bool
  | .rich .. => true
  | .simple .. => false

def analog? (t : Trailer) : Option Analog :=
  t.extended?.bind (·.analog)

end Trailer

end Sentence

namespace Field

variable {name : String} {n : Nat} {m : Int}

lemma knots_unsigned (step : Fin (Binary64.infinityStep + 1)) :
    (knots (.number false step)).Unsigned := by
  obtain ⟨factor, hf, nonzero, finite, -⟩ := knotsFactor_eq
  rw [knots, hf]
  change (Binary64.mul _ _).Unsigned
  rw [Binary64.mul]
  split_ifs with infinite zero
  · -- the step that stands for infinity is not the one of zero
    have far : Binary64.infinityStep ≠ 0 := by decide +kernel
    omega
  · exact ⟨_, rfl⟩
  · exact ⟨_, rfl⟩

lemma nonneg_of_digits (token : Token digits) (h : integer name (shown token.1) = .ok m) :
    0 ≤ m := by
  rw [integer_digits] at h
  split_ifs at h
  cases h
  exact Int.natCast_nonneg _

lemma binary_bits_lt (hn : 0 < n) (token : Token (times n bit))
    (h : binary name (shown token.1) = .ok m) : 0 ≤ m ∧ m < 2 ^ n := by
  obtain ⟨-, hl, hb⟩ := matches_times_one.1 token.2
  have below : Numeral.valueIn 2 token.1 < 2 ^ token.1.length := by
    have digits : ∀ d ∈ token.1.map fun c => (Text.digitValue? 2 c).getD 0, d < 2 := by
      intro d hd
      obtain ⟨c, hc, rfl⟩ := List.mem_map.1 hd
      obtain rfl | hc := List.mem_cons.1 (List.contains_iff_mem.1 (hb c hc))
      · decide
      · obtain rfl := List.mem_singleton.1 hc
        decide
    have bound := Numeral.ofDigits_lt digits
    rwa [List.length_map] at bound
  rw [binary_bits hn] at h
  cases h
  rw [hl] at below
  exact ⟨Int.natCast_nonneg _, by exact_mod_cast below⟩

end Field

namespace Network

variable {net : Network} {tokens : List String}

/-- A tower beside the serving one: it is somewhere, and shares country and network with it. -/
structure IsNeighbor (serving t : Tower) : Prop where
  area : 0 < t.area
  cell : 0 < t.cell
  country : t.country = serving.country
  network : t.network = serving.network
  signal : t.signal = none

structure Coherent (net : Network) : Prop where
  few : net.neighbors.length ≤ 4
  near : ∀ t ∈ net.neighbors, IsNeighbor net.serving t

theorem coherent_of_ofTokens (h : ofTokens tokens = .ok net) : net.Coherent := by
  obtain rfl := eq_assembled h
  refine ⟨length_neighbors_le tokens, fun t ht => ?_⟩
  obtain ⟨area, cell, shared⟩ := mem_neighbors ht
  rw [shared]
  exact ⟨area, cell, rfl, rfl, rfl⟩

end Network

namespace Position

variable {p q : Position} {h : Sentence.Header} {r : Report} {n : Int}

def blockFields (p : Position) : List Bool :=
  [p.ignition.isSome, p.charge.isSome, p.emergency.isSome, p.power.isSome, p.battery.isSome,
    p.input.isSome, p.output.isSome, p.network.isSome]

structure Headed (h : Sentence.Header) (p : Position) : Prop where
  event : p.event.isSome = h.isTelemetry
  event_nonneg : ∀ n ∈ p.event, 0 ≤ n
  archive : p.archive → p.event.isSome
  alarm : ∀ name ∈ p.alarm, ∃ a : Alarm, name = a.name

structure Placed (p : Position) : Prop where
  time : p.time.isSome
  latitude : ∃ x ∈ p.latitude, x.Within 90
  longitude : ∃ x ∈ p.longitude, x.Within 180

structure Moved (t : Sentence.Trailer) (p : Position) : Prop where
  speed : ∃ x ∈ p.speed, x.Unsigned
  course : p.course.isSome = t.isRich
  satellites : p.satellites.isSome = t.isRich
  satellites_nonneg : ∀ n ∈ p.satellites, 0 ≤ n

structure Equipped (e : Option Sentence.Extended) (p : Position) : Prop where
  block : ∀ b ∈ p.blockFields, b = e.isSome
  input : ∀ n ∈ p.input, 0 ≤ n ∧ n < 16
  output : ∀ n ∈ p.output, 0 ≤ n ∧ n < 4
  network : ∀ net ∈ p.network, net.Coherent

structure Sampled (a : Option Sentence.Analog) (p : Position) : Prop where
  adc1 : p.adc1.isSome = a.isSome
  adc2 : p.adc2.isSome = a.isSome

structure Trailed (t : Sentence.Trailer) (p : Position) : Prop
    extends Moved t p, Equipped t.extended? p, Sampled t.analog? p where
  altitude : p.altitude = none ↔ t.isRich ∧ t.extended? = none

structure Coherent (r : Report) (p : Position) : Prop
    extends Headed r.header p, Placed p, Trailed r.trailer p where
  block_course : ∀ b ∈ p.blockFields, b → p.course.isSome
  analog_block : p.adc1.isSome → ∀ b ∈ p.blockFields, b

structure Untrailed (p : Position) : Prop extends Equipped none p, Sampled none p where
  course : p.course = none
  satellites : p.satellites = none
  altitude : p.altitude = none

/-! Header, status and validity. -/

lemma untrailed_of_unset (hb : p.blockFields = List.replicate 8 false)
    (hi : p.input = none) (ho : p.output = none) (hn : p.network = none) (h₁ : p.adc1 = none)
    (h₂ : p.adc2 = none) (hc : p.course = none) (hs : p.satellites = none)
    (ha : p.altitude = none) : p.Untrailed where
  block := by simp [hb]
  input := by simp [hi]
  output := by simp [ho]
  network := by simp [hn]
  adc1 := by simp [h₁]
  adc2 := by simp [h₂]
  course := hc
  satellites := hs
  altitude := ha

lemma headed_withHeader (d : Draft.Header)
    (hq : ({ deviceId := n } : Position).withHeader d.report = .ok q) :
    Headed d.report q ∧ Untrailed q := by
  cases d with
  | telemetry vendor firmware status event history =>
    obtain ⟨number, hn, hq⟩ := bind_eq_ok.1 hq
    cases hq
    refine ⟨⟨rfl, ?_, fun _ => rfl, by simp⟩,
      untrailed_of_unset rfl rfl rfl rfl rfl rfl rfl rfl rfl⟩
    rintro m ⟨⟩
    exact Field.nonneg_of_digits event hn
  | kind name =>
    cases hq
    refine ⟨⟨rfl, by simp, by simp, ?_⟩,
      untrailed_of_unset rfl rfl rfl rfl rfl rfl rfl rfl rfl⟩
    intro alarm ha
    split_ifs at ha
    · cases ha
      exact ⟨.sos, rfl⟩
    · cases ha

lemma Headed.withStatus (hp : Headed h p) (status : Slot) : Headed h (p.withStatus status) := by
  rw [Position.withStatus]
  split
  · refine { hp with alarm := ?_ }
    rintro _ ⟨⟩
    exact ⟨_, rfl⟩
  · exact hp

lemma Untrailed.withStatus (hp : p.Untrailed) (status : Slot) : (p.withStatus status).Untrailed := by
  rw [Position.withStatus]
  split
  · exact { hp with }
  · exact hp

lemma withValidity_valid {i : Sentence.Identity} {letter : Slot}
    (hq : p.withValidity i letter = .ok q) : ∃ valid, q = { p with valid } := by
  cases i with
  | status code =>
    cases hq
    exact ⟨_, rfl⟩
  | validity token =>
    obtain ⟨digit, -, hq⟩ := bind_eq_ok.1 hq
    cases hq
    exact ⟨_, rfl⟩

/-! The trailer. It fills fields of its own, and leaves those of header, status and place alone. -/

def leading (p : Position) : Option Int × Bool × Option Points × Option Timestamp ×
    Option Binary64 × Option Binary64 :=
  (p.event, p.archive, p.alarm, p.time, p.latitude, p.longitude)

lemma headed_of_leading (hq : q.leading = p.leading) (hp : Headed h p) : Headed h q := by
  simp only [leading, Prod.mk.injEq] at hq
  obtain ⟨event, archive, alarm, -⟩ := hq
  constructor
  · rw [event]
    exact hp.event
  · rw [event]
    exact hp.event_nonneg
  · rw [archive, event]
    exact hp.archive
  · rw [alarm]
    exact hp.alarm

lemma placed_of_leading (hq : q.leading = p.leading) (hp : Placed p) : Placed q := by
  simp only [leading, Prod.mk.injEq] at hq
  obtain ⟨-, -, -, time, latitude, longitude⟩ := hq
  constructor
  · rw [time]
    exact hp.time
  · rw [latitude]
    exact hp.latitude
  · rw [longitude]
    exact hp.longitude

def movement (p : Position) : Option Binary64 × Option Binary64 × Option Int :=
  (p.speed, p.course, p.satellites)

lemma Moved.of_movement {t : Sentence.Trailer} (hp : Moved t p) (hq : q.movement = p.movement) :
    Moved t q := by
  simp only [movement, Prod.mk.injEq] at hq
  obtain ⟨speed, course, satellites⟩ := hq
  constructor
  · rw [speed]
    exact hp.speed
  · rw [course]
    exact hp.course
  · rw [satellites]
    exact hp.satellites
  · rw [satellites]
    exact hp.satellites_nonneg

lemma sampled_withAnalog {a : Option Sentence.Analog} (hq : p.withAnalog a = .ok q)
    (hp : Sampled none p) : Sampled a q ∧ ∃ adc1 adc2, q = { p with adc1, adc2 } := by
  cases a with
  | none =>
    cases hq
    exact ⟨hp, p.adc1, p.adc2, rfl⟩
  | some a =>
    simp only [Position.withAnalog, bind_eq_ok] at hq
    obtain ⟨first, -, second, -, hq⟩ := hq
    cases hq
    exact ⟨⟨rfl, rfl⟩, _, _, rfl⟩

lemma equipped_withExtended (d : Draft.Extended) (hq : p.withExtended d.report = .ok q)
    (hp : Sampled none p) :
    Equipped (some d.report) q ∧ Sampled d.report.analog q ∧ q.altitude.isSome ∧
      q.leading = p.leading ∧ q.movement = p.movement := by
  simp only [Position.withExtended, bind_eq_ok] at hq
  obtain ⟨altitude, -, ignition, -, charge, -, power, -, battery, -, emergency, -, network, hn,
    input, hi, output, ho, hq⟩ := hq
  obtain ⟨sampled, first, second, rfl⟩ := sampled_withAnalog hq ⟨hp.adc1, hp.adc2⟩
  refine ⟨⟨by simp [blockFields], ?_, ?_, ?_⟩, sampled, rfl, rfl, rfl⟩
  · rintro m ⟨⟩
    exact Field.binary_bits_lt (by decide) d.inputs hi
  · rintro m ⟨⟩
    exact Field.binary_bits_lt (by decide) d.outputs ho
  · rintro net ⟨⟩
    exact Network.coherent_of_ofTokens hn

lemma trailed_withTrailer (d : Draft.Trailer) (hq : p.withTrailer d.report = .ok q)
    (hu : p.Untrailed) : Trailed d.report q ∧ q.leading = p.leading := by
  cases d with
  | rich speed course satellites e =>
    simp only [Draft.Trailer.report, Position.withTrailer, bind_eq_ok] at hq
    obtain ⟨kph, hk, heading, -, number, hn, hq⟩ := hq
    obtain ⟨step, hs⟩ := Field.decimal_decimal "speed" speed
    rw [hs] at hk
    cases hk
    have moved : Moved (Draft.Trailer.rich speed course satellites e).report { p with
        speed := some (Field.knots (.number false step)), course := some heading
        satellites := some number } := by
      refine ⟨⟨_, rfl, Field.knots_unsigned step⟩, rfl, rfl, ?_⟩
      rintro m ⟨⟩
      exact Field.nonneg_of_digits satellites hn
    cases e with
    | none =>
      cases hq
      refine ⟨⟨moved, ⟨hu.block, hu.input, hu.output, hu.network⟩, ⟨hu.adc1, hu.adc2⟩, ?_⟩, rfl⟩
      simp [hu.altitude, Draft.Trailer.report, Sentence.Trailer.isRich, Trailer.extended?]
    | some e =>
      obtain ⟨equipped, sampled, altitude, leading, movement⟩ :=
        equipped_withExtended e hq ⟨hu.adc1, hu.adc2⟩
      refine ⟨⟨moved.of_movement movement, equipped, sampled, ?_⟩, leading⟩
      simp [Option.isSome_iff_ne_none.1 altitude, Draft.Trailer.report, Trailer.extended?]
  | simple altitude speed =>
    simp only [Draft.Trailer.report, Position.withTrailer, bind_eq_ok] at hq
    obtain ⟨height, -, kph, hk, hq⟩ := hq
    obtain ⟨step, hs⟩ := Field.decimal_fraction "speed" speed
    rw [hs] at hk
    cases hk
    cases hq
    have moved : Moved (Draft.Trailer.simple altitude speed).report { p with
        altitude := some height, speed := some (Field.knots (.number false step)) } :=
      ⟨⟨_, rfl, Field.knots_unsigned step⟩, by rw [hu.course]; rfl, by rw [hu.satellites]; rfl,
        by simp [hu.satellites]⟩
    refine ⟨⟨moved, ⟨hu.block, hu.input, hu.output, hu.network⟩, ⟨hu.adc1, hu.adc2⟩, ?_⟩, rfl⟩
    simp [Draft.Trailer.report, Sentence.Trailer.isRich]

lemma Trailed.block_course {t : Sentence.Trailer} (hp : Trailed t p) :
    ∀ b ∈ p.blockFields, b → p.course.isSome := by
  intro b hb set
  rw [hp.course]
  cases t with
  | rich speed course satellites e => rfl
  | simple altitude speed =>
    rw [hp.block b hb] at set
    cases set

lemma Trailed.analog_block {t : Sentence.Trailer} (hp : Trailed t p) (set : p.adc1.isSome) :
    ∀ b ∈ p.blockFields, b := by
  intro b hb
  rw [hp.adc1, Trailer.analog?] at set
  rw [hp.block b hb]
  cases he : t.extended? with
  | none =>
    rw [he] at set
    cases set
  | some e => rfl

theorem coherent_ofReport {d : Draft} (hp : ofReport n d.report = .ok p) : Coherent d.report p := by
  simp only [ofReport, bind_eq_ok, mapError_eq_ok] at hp
  obtain ⟨p₁, h₁, p₂, h₂, time, -, latitude, hlat, longitude, hlon, hp⟩ := hp
  obtain ⟨headed, untrailed⟩ := headed_withHeader d.header h₁
  replace headed := headed.withStatus (effectiveStatus d.report.header d.report.identity)
  replace untrailed := untrailed.withStatus (effectiveStatus d.report.header d.report.identity)
  obtain ⟨valid, rfl⟩ := withValidity_valid h₂
  have near : latitude.Within 90 :=
    Field.degrees_within (by decide +kernel) d.remainder.fix.latitude hlat
  have far : longitude.Within 180 :=
    Field.degrees_within (by decide +kernel) d.remainder.fix.longitude hlon
  obtain ⟨trailed, leading⟩ := trailed_withTrailer d.remainder.trailer hp { untrailed with }
  exact ⟨headed_of_leading leading { headed with },
    placed_of_leading leading ⟨rfl, ⟨_, rfl, near⟩, _, rfl, far⟩, trailed, trailed.block_course,
    trailed.analog_block⟩

end Position

end Telematics
