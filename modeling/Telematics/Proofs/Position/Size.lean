import Telematics.Position.Message
import Telematics.Proofs.Json
import Telematics.Proofs.Network
import Telematics.Proofs.Numeral

namespace Telematics

open Json Sentence

namespace Field

variable {name : String} {token : Option String} {n : Int}

lemma convert_eq_ok {α : Type} {read : String → Option α} {a : α} :
    convert read name token = .ok a ↔ ∃ t, token = some t ∧ read t = some a := by
  rw [convert]
  cases h : token.bind read with
  | none =>
    simp only [reduceCtorEq, false_iff, not_exists, not_and]
    rintro t rfl ht
    rw [Option.bind_some, ht] at h
    cases h
  | some b =>
    obtain ⟨t, rfl, ht⟩ := Option.bind_eq_some_iff.1 h
    simp [ht]

lemma short_of_integer (h : integer name token = .ok n) : Short n := by
  obtain ⟨t, -, ht⟩ := convert_eq_ok.1 h
  exact Numeral.natAbs_lt_textBound ht

lemma short_of_binary {t : String} (ht : t.toList.length ≤ 4)
    (h : binary name (some t) = .ok n) : Short n := by
  have bound : ∀ m, m < 2 ^ t.toList.length → m < Numeral.textBound := by
    intro m hm
    have hp : 2 ^ t.toList.length ≤ 2 ^ 4 := Nat.pow_le_pow_right (by decide) ht
    have h16 : 2 ^ 4 < Numeral.textBound := by decide +kernel
    omega
  rw [binary] at h
  split at h
  · cases h
  · cases h
  · cases h
  · obtain ⟨t', ht', hr⟩ := convert_eq_ok.1 h
    obtain rfl := Option.some.inj ht'
    exact bound _ (Numeral.natAbs_lt_pow (by decide) hr)

end Field

namespace Network

variable {net : Network} {tokens : List String}

def ShortTower (t : Tower) : Prop :=
  Short t.country ∧ Short t.network ∧ ∀ n ∈ t.signal, Short n

lemma short_numberAt (tokens : List String) (place : Nat) : Short (numberAt tokens 10 place) := by
  rw [numberAt, number?]
  cases h : tokens[place]?.bind (Numeral.integer? 10) with
  | none =>
    have positive : 0 < Numeral.textBound := by decide +kernel
    exact positive
  | some n =>
    obtain ⟨s, -, hn⟩ := Option.bind_eq_some_iff.1 h
    exact Numeral.natAbs_lt_textBound hn

lemma short_of_ofTokens (h : ofTokens tokens = .ok net) : ∀ t ∈ net.towers, ShortTower t := by
  obtain rfl := eq_assembled h
  intro t ht
  obtain rfl | ht := List.mem_cons.1 ht
  · refine ⟨short_numberAt tokens 1, short_numberAt tokens 2, ?_⟩
    rintro n ⟨⟩
    exact short_numberAt tokens 0
  · obtain ⟨-, -, shared⟩ := mem_neighbors ht
    rw [shared]
    exact ⟨short_numberAt tokens 1, short_numberAt tokens 2, by simp⟩

end Network

namespace Position

variable {p q : Position} {r : Report} {e : Extended}

structure Bounded (p : Position) : Prop where
  satellites : ∀ n ∈ p.satellites, Short n
  input : ∀ n ∈ p.input, Short n
  output : ∀ n ∈ p.output, Short n
  event : ∀ n ∈ p.event, Short n
  towers : ∀ net ∈ p.network, ∀ t ∈ net.towers, Network.ShortTower t

def FewBits (e : Extended) : Prop :=
  ∃ inputs outputs, e.inputs = some inputs ∧ e.outputs = some outputs ∧
    inputs.toList.length ≤ 4 ∧ outputs.toList.length ≤ 4

lemma Bounded.withHeader {h : Header} (hp : p.Bounded) (hq : p.withHeader h = .ok q) :
    q.Bounded := by
  cases h with
  | telemetry status event history =>
    simp only [Position.withHeader, bind_eq_ok] at hq
    obtain ⟨number, hn, hq⟩ := hq
    cases hq
    refine { hp with event := ?_ }
    rintro n ⟨⟩
    exact Field.short_of_integer hn
  | kind name =>
    cases hq
    exact { hp with }

lemma Bounded.withStatus (hp : p.Bounded) (status : Slot) : (p.withStatus status).Bounded := by
  rw [Position.withStatus]
  split
  · exact { hp with }
  · exact hp

lemma Bounded.withValidity {i : Identity} {letter : Slot} (hp : p.Bounded)
    (hq : p.withValidity i letter = .ok q) : q.Bounded := by
  cases i with
  | status code =>
    cases hq
    exact { hp with }
  | validity token =>
    simp only [Position.withValidity, bind_eq_ok] at hq
    obtain ⟨digit, -, hq⟩ := hq
    cases hq
    exact { hp with }

lemma Bounded.withAnalog {a : Option Analog} (hp : p.Bounded) (hq : p.withAnalog a = .ok q) :
    q.Bounded := by
  cases a with
  | none =>
    cases hq
    exact hp
  | some a =>
    simp only [Position.withAnalog, bind_eq_ok] at hq
    obtain ⟨first, -, second, -, hq⟩ := hq
    cases hq
    exact { hp with }

lemma Bounded.withExtended (hp : p.Bounded) (he : FewBits e) (hq : p.withExtended e = .ok q) :
    q.Bounded := by
  obtain ⟨inputs, outputs, hi, ho, hil, hol⟩ := he
  simp only [Position.withExtended, bind_eq_ok, hi, ho] at hq
  obtain ⟨altitude, -, ignition, -, charge, -, power, -, battery, -, emergency, -, network, hn,
    input, hin, output, hout, hq⟩ := hq
  have hs : ({ p with
      altitude := some altitude, ignition := some ignition, charge := some charge
      power := some power, battery := some battery, emergency := some emergency
      network := some network, input := some input, output := some output } :
        Position).Bounded := by
    refine { hp with input := ?_, output := ?_, towers := ?_ }
    · rintro n ⟨⟩
      exact Field.short_of_binary hil hin
    · rintro n ⟨⟩
      exact Field.short_of_binary hol hout
    · rintro net ⟨⟩
      exact Network.short_of_ofTokens hn
  exact hs.withAnalog hq

lemma Bounded.withTrailer {t : Trailer} (hp : p.Bounded)
    (ht : ∀ speed course satellites e, t = .rich speed course satellites (some e) → FewBits e)
    (hq : p.withTrailer t = .ok q) : q.Bounded := by
  cases t with
  | rich speed course satellites e =>
    simp only [Position.withTrailer, bind_eq_ok] at hq
    obtain ⟨kph, -, course', -, number, hn, hq⟩ := hq
    have hs : ({ p with
        speed := some (Field.knots kph), course := some course'
        satellites := some number } : Position).Bounded := by
      refine { hp with satellites := ?_ }
      rintro n ⟨⟩
      exact Field.short_of_integer hn
    cases e with
    | none =>
      cases hq
      exact hs
    | some e => exact hs.withExtended (ht speed course satellites e rfl) hq
  | simple altitude speed =>
    simp only [Position.withTrailer, bind_eq_ok] at hq
    obtain ⟨altitude', -, kph, -, hq⟩ := hq
    cases hq
    exact { hp with }

lemma bounded_of_ofReport {n : Int} (ht : ∀ speed course satellites e,
    r.trailer = .rich speed course satellites (some e) → FewBits e)
    (hp : ofReport n r = .ok p) : p.Bounded := by
  simp only [ofReport, bind_eq_ok, mapError_eq_ok] at hp
  obtain ⟨p₁, h₁, p₂, h₂, time, -, latitude, -, longitude, -, h₃⟩ := hp
  have blank : ({ deviceId := n } : Position).Bounded :=
    ⟨by simp, by simp, by simp, by simp, by simp⟩
  have hb := ((blank.withHeader h₁).withStatus _).withValidity h₂
  exact Bounded.withTrailer (p := { p₂ with
    time := some time, latitude := some latitude, longitude := some longitude }) { hb with } ht h₃

/-- The number of the device or an area or cell of a tower is too long to be written. -/
def Unwritable (p : Position) : Prop :=
  ¬ Short p.deviceId ∨ ∃ net ∈ p.network, ∃ t ∈ net.towers, ¬ Short t.area ∨ ¬ Short t.cell

lemma integers_ofOption {α : Type} {f : α → Json} {o : Option α} :
    (Json.ofOption f o).integers = o.toList.flatMap fun a => (f a).integers := by
  cases o with
  | none => rfl
  | some a => simp [Json.ofOption]

lemma itemIntegers_eq (js : List Json) : itemIntegers js = js.flatMap integers := by
  induction js with
  | nil => rfl
  | cons j js ih => rw [itemIntegers, ih, List.flatMap_cons]

lemma towerJson_integers (t : Tower) : (towerJson t).integers =
    [t.country, t.network, t.area, t.cell] ++ t.signal.toList := by
  simp [towerJson, integers, memberIntegers, integers_ofOption]

lemma json_integers (p : Position) : p.json.integers =
    p.deviceId :: (p.satellites.toList ++ (p.input.toList ++ (p.output.toList ++
      (p.event.toList ++ p.network.toList.flatMap fun net => net.towers.flatMap fun t =>
        [t.country, t.network, t.area, t.cell] ++ t.signal.toList)))) := by
  have none_in {α : Type} (xs : List α) : xs.flatMap (fun _ => ([] : List Int)) = [] := by simp
  simp [json, integers, memberIntegers, integers_ofOption, itemIntegers_eq, List.flatMap_map,
    towerJson_integers, none_in]

theorem message?_eq_none (hp : p.Bounded) : p.message? = none ↔ p.Unwritable := by
  rw [message?, text?_eq_none, json_integers, Unwritable]
  constructor
  · rintro ⟨n, hn, hl⟩
    simp only [List.mem_cons, List.mem_append, Option.mem_toList, List.mem_flatMap] at hn
    obtain rfl | hn | hn | hn | hn | ⟨net, hnet, t, ht, hn⟩ := hn
    · exact .inl hl
    · exact absurd (hp.satellites n hn) hl
    · exact absurd (hp.input n hn) hl
    · exact absurd (hp.output n hn) hl
    · exact absurd (hp.event n hn) hl
    · obtain ⟨hc, hnw, hs⟩ := hp.towers net hnet t ht
      refine .inr ⟨net, hnet, t, ht, ?_⟩
      simp only [List.not_mem_nil, or_false] at hn
      obtain (rfl | rfl | rfl | rfl) | hn := hn
      · exact absurd hc hl
      · exact absurd hnw hl
      · exact .inl hl
      · exact .inr hl
      · exact absurd (hs n hn) hl
  · rintro (h | ⟨net, hnet, t, ht, h⟩)
    · exact ⟨p.deviceId, List.mem_cons_self, h⟩
    · have outside {n : Int} {a b c d e : List Int} (h : n ∈ e) :
          n ∈ a ++ (b ++ (c ++ (d ++ e))) := by
        simp [h]
      have inside : ∀ n ∈ [t.country, t.network, t.area, t.cell], n ∈
          p.network.toList.flatMap fun net => net.towers.flatMap fun t =>
            [t.country, t.network, t.area, t.cell] ++ t.signal.toList := by
        intro n hn
        rw [List.mem_flatMap]
        refine ⟨net, Option.mem_toList.2 hnet, List.mem_flatMap.2 ⟨t, ht, ?_⟩⟩
        exact List.mem_append_left _ hn
      obtain h | h := h
      · refine ⟨t.area, .tail _ ?_, h⟩
        exact outside (inside t.area (by simp))
      · refine ⟨t.cell, .tail _ ?_, h⟩
        exact outside (inside t.cell (by simp))

end Position

end Telematics
