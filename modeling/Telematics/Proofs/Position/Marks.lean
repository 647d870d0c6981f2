import Mathlib.Tactic.Common
import Telematics.Position
import Telematics.Proofs.Result

namespace Telematics.Position

open Sentence

variable {p q : Position} {r : Report} {v : Bool} {a : Option Points} {n : Int}

def marked (p : Position) (valid : Bool) (alarm : Option Points) : Position :=
  { p with valid, alarm }

@[simp] lemma marked_valid : (p.marked v a).valid = v := rfl

@[simp] lemma marked_alarm : (p.marked v a).alarm = a := rfl

@[simp] lemma marked_marked {w : Bool} {b : Option Points} :
    (p.marked v a).marked w b = p.marked w b := rfl

lemma marked_eq_self : p.marked v a = p ↔ v = p.valid ∧ a = p.alarm := by
  constructor
  · intro h
    rw [← h]
    exact ⟨rfl, rfl⟩
  · rintro ⟨rfl, rfl⟩
    rfl

def stamped (p : Position) (number : Int) (valid : Bool) (alarm : Option Points) : Position :=
  { p with deviceId := number, valid, alarm }

lemma withAnalog_stamped (x : Option Analog) :
    (p.stamped n v a).withAnalog x = (·.stamped n v a) <$> p.withAnalog x := by
  cases x with
  | none => rfl
  | some x =>
    simp only [withAnalog, map_bind, map_pure]
    rfl

lemma withExtended_stamped (e : Extended) :
    (p.stamped n v a).withExtended e = (·.stamped n v a) <$> p.withExtended e := by
  simp only [withExtended, map_bind, ← withAnalog_stamped]
  rfl

lemma withTrailer_stamped (t : Trailer) :
    (p.stamped n v a).withTrailer t = (·.stamped n v a) <$> p.withTrailer t := by
  cases t with
  | rich speed course satellites e =>
    cases e with
    | none =>
      simp only [withTrailer, map_bind, map_pure]
      rfl
    | some e =>
      simp only [withTrailer, map_bind, ← withExtended_stamped]
      rfl
  | simple altitude speed =>
    simp only [withTrailer, map_bind, map_pure]
    rfl

def complete (p : Position) (r : Report) : Except Field.TimeError Position := do
  let time ← Field.time r.day r.month r.year r.hour r.minute r.second
  let latitude ← (Field.latitude r.latitude.1 r.latitude.2).mapError .conversion
  let longitude ← (Field.longitude r.longitude.1 r.longitude.2).mapError .conversion
  let p := { p with time := some time, latitude := some latitude, longitude := some longitude }
  (p.withTrailer r.trailer).mapError .conversion

lemma complete_stamped : (p.stamped n v a).complete r = (·.stamped n v a) <$> p.complete r := by
  simp only [complete, map_bind, ← mapError_map, ← withTrailer_stamped]
  rfl

lemma map_complete {f : Position → Position}
    (hf : ∀ q : Position, f (q.stamped p.deviceId p.valid p.alarm) = q.stamped n v a) :
    f <$> p.complete r = (p.stamped n v a).complete r := by
  have kept : p.complete r = (·.stamped p.deviceId p.valid p.alarm) <$> p.complete r :=
    complete_stamped
  rw [kept, Functor.map_map, complete_stamped]
  simp only [hf]

lemma complete_marked : (p.marked v a).complete r = (·.marked v a) <$> p.complete r :=
  (map_complete fun _ => rfl).symm

def typeAlarm : Header → Option Points
  | .telemetry .. => none
  | .kind name => if name = some emergencyKind then some (Alarm.sos.name : Points) else none

def statusAlarm (status : Slot) : Option Points :=
  (status.bind Alarm.ofStatus?).map fun alarm => alarm.name

def headerAlarm : Header → Option Points
  | .telemetry status _ _ => statusAlarm status
  | .kind name => typeAlarm (.kind name)

lemma statusAlarm_or_typeAlarm (h : Header) (digit : Slot) :
    (statusAlarm (effectiveStatus h (.validity digit))).or (typeAlarm h) = headerAlarm h := by
  cases h with
  | telemetry status event history => exact Option.or_none
  | kind name => rfl

lemma withStatus_eq (status : Slot) :
    p.withStatus status = p.marked p.valid ((statusAlarm status).or p.alarm) := by
  rw [withStatus, statusAlarm]
  cases status.bind Alarm.ofStatus? with
  | none => rfl
  | some alarm => rfl

lemma withHeader_marks {h : Header} (hq : ({ deviceId := n } : Position).withHeader h = .ok q) :
    q.valid = false ∧ q.alarm = typeAlarm h := by
  cases h with
  | telemetry status event history =>
    rw [withHeader] at hq
    cases he : Field.integer "event" event with
    | error e => rw [he] at hq; cases hq
    | ok number => rw [he] at hq; cases hq; exact ⟨rfl, rfl⟩
  | kind name => cases hq; exact ⟨rfl, rfl⟩

/-- What identity and validity letter make of a record that is not valid yet. -/
def Judges (i : Identity) (letter : Slot) (v : Bool) : Prop :=
  ∀ p : Position, p.valid = false → p.withValidity i letter = .ok (p.marked v p.alarm)

lemma ofReport_eq (hv : Judges r.identity r.validity v) : ofReport n r =
    (({ deviceId := n } : Position).withHeader r.header).mapError .conversion >>= fun p =>
      (·.marked v ((statusAlarm (effectiveStatus r.header r.identity)).or (typeAlarm r.header)))
        <$> p.complete r := by
  rw [ofReport]
  cases hq : ({ deviceId := n } : Position).withHeader r.header with
  | error e => rfl
  | ok q =>
    obtain ⟨hvalid, halarm⟩ := withHeader_marks hq
    have hj := hv (q.withStatus (effectiveStatus r.header r.identity)) (by
      rw [withStatus_eq, marked_valid, hvalid])
    change (((q.withStatus (effectiveStatus r.header r.identity)).withValidity r.identity
      r.validity).mapError .conversion >>= fun p => p.complete r) = _
    rw [hj, withStatus_eq, halarm, marked_marked, marked_alarm]
    exact complete_marked (p := q)

lemma ofReport_of_ok {i : Identity} {w : Bool} (slots : List Slot)
    (hv : Judges r.identity r.validity v) (hw : Judges i r.validity w) (h : ofReport n r = .ok p) :
    p.valid = v ∧
    p.alarm = (statusAlarm (effectiveStatus r.header r.identity)).or (typeAlarm r.header) ∧
    ofReport n { r with slots, identity := i } =
      .ok (p.marked w ((statusAlarm (effectiveStatus r.header i)).or (typeAlarm r.header))) := by
  rw [ofReport_eq hv] at h
  obtain ⟨q, hq, h⟩ := bind_eq_ok.1 h
  obtain ⟨c, hc, rfl⟩ := map_eq_ok.1 h
  refine ⟨rfl, rfl, ?_⟩
  rw [ofReport_eq (r := { r with slots, identity := i }) hw, bind_eq_ok]
  refine ⟨q, hq, ?_⟩
  rw [map_eq_ok]
  exact ⟨c, hc, rfl⟩

variable {net : Network} {tokens : List String}

lemma withAnalog_network (x : Option Analog) : { p with network := some net }.withAnalog x =
    (fun q => { q with network := some net }) <$> p.withAnalog x := by
  cases x with
  | none => rfl
  | some x =>
    simp only [withAnalog, map_bind, map_pure]

lemma withExtended_cells {e : Extended} (h : p.withExtended e = .ok q)
    (hn : Network.ofTokens tokens = .ok net) :
    p.withExtended { e with cells := tokens } = .ok { q with network := some net } := by
  simp only [withExtended, bind_eq_ok] at h ⊢
  obtain ⟨altitude, h₁, ignition, h₂, charge, h₃, power, h₄, battery, h₅, emergency, h₆, old, -,
    input, h₇, output, h₈, h⟩ := h
  refine ⟨altitude, h₁, ignition, h₂, charge, h₃, power, h₄, battery, h₅, emergency, h₆, net, hn,
    input, h₇, output, h₈, ?_⟩
  have hq := congrArg (Functor.map fun q : Position => { q with network := some net }) h
  rw [← withAnalog_network] at hq
  exact hq

lemma ofReport_cells {speed course satellites : Slot} {e : Extended}
    (ht : r.trailer = .rich speed course satellites (some e)) (h : ofReport n r = .ok p)
    (hn : Network.ofTokens tokens = .ok net) (slots : List Slot) :
    ofReport n { r with
        slots, trailer := .rich speed course satellites (some { e with cells := tokens }) } =
      .ok { p with network := some net } := by
  simp only [ofReport, ht, withTrailer, bind_eq_ok, mapError_eq_ok] at h ⊢
  obtain ⟨p₁, h₁, p₂, h₂, time, h₃, latitude, h₄, longitude, h₅, kph, h₆, course', h₇, count, h₈,
    h⟩ := h
  exact ⟨p₁, h₁, p₂, h₂, time, h₃, latitude, h₄, longitude, h₅, kph, h₆, course', h₇, count, h₈,
    withExtended_cells h hn⟩

end Telematics.Position
