import Telematics.Proofs.Binary64.Text
import Telematics.Proofs.Json.Line
import Telematics.Proofs.Json.Member
import Telematics.Proofs.Json.Surrogate
import Telematics.Proofs.Position.Finite
import Telematics.Proofs.Timestamp

/-! A message gives its record back, up to surrogate pairs in its texts. -/

namespace Telematics

namespace Binary64

lemma text_eq_textWith {x : Binary64} (h : x.isFinite) (words : Words) :
    x.text = x.textWith words := by
  cases x with
  | nan => cases h
  | number negative step =>
    rw [isFinite_number] at h
    simp only [text, textWith, magnitudeText, if_pos h]

end Binary64

open Json

attribute [ext] Tower Network Position

def Tower.told (t : Tower) : Value :=
  .obj [(points "mcc", .int t.country), (points "mnc", .int t.network),
    (points "lac", .int t.area), (points "cid", .int t.cell),
    (points "signal", .orNull .int t.signal)]

lemma Tower.told_injective : Function.Injective Tower.told := by
  intro t u h
  have parts := Value.obj.inj h
  simp only [List.cons.injEq, Prod.mk.injEq, Value.int.injEq, true_and, and_true] at parts
  obtain ⟨country, network, area, cell, signal⟩ := parts
  have strength : t.signal = u.signal :=
    Value.orNull_inj (f := .int) (fun _ null => by cases null) (fun _ _ _ _ => Value.int.inj) signal
  exact Tower.ext country network area cell strength

namespace Position

variable {p q : Position} {line : String}

def memberNames : List String :=
  ["type", "protocol", "device_id", "time", "valid", "lat", "lon", "speed_knots", "course", "alt",
    "satellites", "ignition", "charge", "emergency", "power", "battery", "input", "output", "alarm",
    "archive", "event", "adc1", "adc2", "cell_towers"]

def shownText (s : Points) : Value :=
  .str (readPoints s)

def shownNumber (x : Binary64) : Value :=
  .decimal x.text.toList

def shownNetwork (n : Network) : Value :=
  .arr (n.serving.told :: n.neighbors.map Tower.told)

structure Tells (p : Position) (members : List (List Nat × Value)) : Prop where
  names : members.map Prod.fst = memberNames.map points
  distinct : (members.map Prod.fst).Nodup
  kind : member? members "type" = some (shownText "position")
  protocol : member? members "protocol" = some (shownText p.protocol)
  deviceId : member? members "device_id" = some (.int p.deviceId)
  time : member? members "time" = some (.orNull (fun t => shownText t.isoText) p.time)
  valid : member? members "valid" = some (.bool p.valid)
  latitude : member? members "lat" = some (.orNull shownNumber p.latitude)
  longitude : member? members "lon" = some (.orNull shownNumber p.longitude)
  speed : member? members "speed_knots" = some (.orNull shownNumber p.speed)
  course : member? members "course" = some (.orNull shownNumber p.course)
  altitude : member? members "alt" = some (.orNull shownNumber p.altitude)
  satellites : member? members "satellites" = some (.orNull .int p.satellites)
  ignition : member? members "ignition" = some (.orNull .bool p.ignition)
  charge : member? members "charge" = some (.orNull .bool p.charge)
  emergency : member? members "emergency" = some (.orNull .bool p.emergency)
  power : member? members "power" = some (.orNull shownNumber p.power)
  battery : member? members "battery" = some (.orNull shownNumber p.battery)
  input : member? members "input" = some (.orNull .int p.input)
  output : member? members "output" = some (.orNull .int p.output)
  alarm : member? members "alarm" = some (.orNull shownText p.alarm)
  archive : member? members "archive" = some (.bool p.archive)
  event : member? members "event" = some (.orNull .int p.event)
  adc1 : member? members "adc1" = some (.orNull shownNumber p.adc1)
  adc2 : member? members "adc2" = some (.orNull shownNumber p.adc2)
  towers : member? members "cell_towers" = some (.orNull shownNetwork p.network)

lemma seen_towerJson (t : Tower) : (towerJson t).seen = t.told := by
  have signal := seen_ofOption Json.int t.signal
  rw [towerJson, seen, Tower.told]
  simp only [seenMembers, signal, seen]

lemma seen_towers (n : Network) : (Json.arr (n.towers.map towerJson)).seen = shownNetwork n := by
  have each : seen ∘ towerJson = Tower.told := funext seen_towerJson
  rw [seen, seenItems_eq, List.map_map, each]
  rfl

lemma seen_str (s : Points) : (Json.str s).seen = shownText s := rfl

lemma seen_float {x : Binary64} (h : x.isFinite) : (Json.float x).seen = shownNumber x := by
  rw [seen, shownNumber, Binary64.text_eq_textWith h]

lemma tells_json (hp : p.Finite) : p.Tells (seenMembers p.json.members) := by
  have names : (seenMembers p.json.members).map Prod.fst = memberNames.map points := rfl
  have distinct : memberNames.Nodup := by decide
  have number {o : Option Binary64} {name : String} (ho : o ∈ p.numbers)
      (h : p.json.members.lookup name = some (.ofOption .float o)) :
      member? (seenMembers p.json.members) name = some (.orNull shownNumber o) :=
    member?_optional (fun x hx => seen_float (hp o ho x hx)) h
  have int {o : Option Int} : ∀ n ∈ o, (Json.int n).seen = .int n := fun _ _ => rfl
  have bool {o : Option Bool} : ∀ b ∈ o, (Json.bool b).seen = .bool b := fun _ _ => rfl
  exact {
    names
    distinct := by
      rw [names]
      exact List.Pairwise.map points (fun _ _ => points_injective.ne) distinct
    kind := member?_of_lookup rfl rfl
    protocol := member?_of_lookup rfl rfl
    deviceId := member?_of_lookup rfl rfl
    time := member?_optional (fun t _ => seen_str (.ofString t.isoText)) rfl
    valid := member?_of_lookup rfl rfl
    latitude := number (by simp [numbers]) rfl
    longitude := number (by simp [numbers]) rfl
    speed := number (by simp [numbers]) rfl
    course := number (by simp [numbers]) rfl
    altitude := number (by simp [numbers]) rfl
    satellites := member?_optional int rfl
    ignition := member?_optional bool rfl
    charge := member?_optional bool rfl
    emergency := member?_optional bool rfl
    power := number (by simp [numbers]) rfl
    battery := number (by simp [numbers]) rfl
    input := member?_optional int rfl
    output := member?_optional int rfl
    alarm := member?_optional (fun s _ => seen_str s) rfl
    archive := member?_of_lookup rfl rfl
    event := member?_optional int rfl
    adc1 := number (by simp [numbers]) rfl
    adc2 := number (by simp [numbers]) rfl
    towers := member?_optional (fun n _ => seen_towers n) rfl }

/-! Records of one message. -/

/-- The records differ at most by surrogate pairs in their texts. -/
structure Alike (p q : Position) : Prop where
  protocol : readPoints p.protocol = readPoints q.protocol
  alarm : p.alarm.map readPoints = q.alarm.map readPoints
  others : { p with protocol := q.protocol, alarm := q.alarm } = q

def texts (p : Position) : List Points :=
  p.protocol :: p.alarm.toList

def Unpaired (p : Position) : Prop :=
  ∀ s ∈ p.texts, s.Unpaired

lemma shownTime_injective : Function.Injective fun t : Timestamp => shownText t.isoText := by
  intro t u h
  have points := Value.str.inj h
  rw [readPoints_ofString, readPoints_ofString] at points
  exact Timestamp.isoText_injective (points_injective points)

lemma shownNumber_inj {x y : Binary64} (hx : x.isFinite) (hy : y.isFinite)
    (h : shownNumber x = shownNumber y) : x = y := by
  have texts := String.toList_inj.1 (Value.decimal.inj h)
  rw [Binary64.text_eq_textWith hx numberWords, Binary64.text_eq_textWith hy numberWords] at texts
  exact Binary64.textWith_inj hx hy texts

lemma shownNetwork_injective : Function.Injective shownNetwork := by
  intro m n h
  obtain ⟨serving, neighbors⟩ := List.cons.inj (Value.arr.inj h)
  exact Network.ext (Tower.told_injective serving) (Tower.told_injective.list_map neighbors)

theorem alike_of_tells {members : List (List Nat × Value)} (hp : p.Finite) (hq : q.Finite)
    (tp : p.Tells members) (tq : q.Tells members) : p.Alike q := by
  have same {v w : Value} {name : String} (hv : member? members name = some v)
      (hw : member? members name = some w) : v = w := Option.some.inj (hv.symm.trans hw)
  -- an optional field is told by its member, as null is no value of the field
  have optional {α : Type} {f : α → Value} {o o' : Option α} {name : String}
      (inj : Function.Injective f) (hf : ∀ a, f a ≠ .null)
      (ho : member? members name = some (.orNull f o))
      (ho' : member? members name = some (.orNull f o')) : o = o' :=
    Value.orNull_inj hf (fun _ _ _ _ h => inj h) (same ho ho')
  have number {o o' : Option Binary64} {name : String} (ho : o ∈ p.numbers) (ho' : o' ∈ q.numbers)
      (h : member? members name = some (.orNull shownNumber o))
      (h' : member? members name = some (.orNull shownNumber o')) : o = o' :=
    Value.orNull_inj (f := shownNumber) (fun _ null => by cases null) (fun x hx y hy =>
      shownNumber_inj (hp o ho x hx) (hq o' ho' y hy)) (same h h')
  have int {o o' : Option Int} {name : String} (h : member? members name = some (.orNull .int o))
      (h' : member? members name = some (.orNull .int o')) : o = o' :=
    optional (fun _ _ hi => Value.int.inj hi) (fun _ null => by cases null) h h'
  have bool {o o' : Option Bool} {name : String}
      (h : member? members name = some (.orNull .bool o))
      (h' : member? members name = some (.orNull .bool o')) : o = o' :=
    optional (fun _ _ hb => Value.bool.inj hb) (fun _ null => by cases null) h h'
  refine ⟨Value.str.inj (same tp.protocol tq.protocol), ?_, ?_⟩
  · have alarm := same tp.alarm tq.alarm
    exact Value.orNull_inj (f := Value.str) (fun _ null => by cases null)
      (fun _ _ _ _ => Value.str.inj) (by rwa [Value.orNull_map, Value.orNull_map])
  ext1
  · exact Value.int.inj (same tp.deviceId tq.deviceId)
  · exact optional shownTime_injective (fun _ null => by cases null) tp.time tq.time
  · exact Value.bool.inj (same tp.valid tq.valid)
  · exact number (by simp [numbers]) (by simp [numbers]) tp.latitude tq.latitude
  · exact number (by simp [numbers]) (by simp [numbers]) tp.longitude tq.longitude
  · exact number (by simp [numbers]) (by simp [numbers]) tp.speed tq.speed
  · exact number (by simp [numbers]) (by simp [numbers]) tp.course tq.course
  · exact number (by simp [numbers]) (by simp [numbers]) tp.altitude tq.altitude
  · exact int tp.satellites tq.satellites
  · exact bool tp.ignition tq.ignition
  · exact bool tp.charge tq.charge
  · exact bool tp.emergency tq.emergency
  · exact number (by simp [numbers]) (by simp [numbers]) tp.power tq.power
  · exact number (by simp [numbers]) (by simp [numbers]) tp.battery tq.battery
  · exact int tp.input tq.input
  · exact int tp.output tq.output
  · rfl
  · exact Value.bool.inj (same tp.archive tq.archive)
  · exact int tp.event tq.event
  · exact optional shownNetwork_injective (fun _ null => by cases null) tp.towers tq.towers
  · exact number (by simp [numbers]) (by simp [numbers]) tp.adc1 tq.adc1
  · exact number (by simp [numbers]) (by simp [numbers]) tp.adc2 tq.adc2
  · rfl

/-! The message. -/

theorem read_message? (hp : p.Finite) (h : p.message? = some line) :
    ∃ members, Denotes line.toList (.obj members) ∧
      Reader.read? line.toList = some (.obj members) ∧ p.Tells members := by
  have hc := chars?_of_message? h
  have finite := (json_finite_iff p).2 hp
  exact ⟨_, denotes_chars? hc finite, Reader.read?_chars? hc finite, tells_json hp⟩

lemma message?_congr (h : p.Alike q) : p.message? = q.message? := by
  obtain ⟨protocol, alarm, others⟩ := h
  have first := chars?_str_congr protocol
  have second := chars?_ofOption_congr alarm
  have written : p.json.chars? = q.json.chars? := by
    rw [← others, json, json]
    apply chars?_obj_congr
    simp only [List.map_cons, first, second]
  rw [message?, message?, text?, text?, written]

theorem message?_eq_iff (hp : p.Finite) (hq : q.Finite) (h : p.message? = some line) :
    q.message? = some line ↔ q.Alike p := by
  constructor
  · intro h'
    obtain ⟨members, -, read, tp⟩ := read_message? hp h
    obtain ⟨others, -, read', tq⟩ := read_message? hq h'
    -- the line is read once, so both records are told by the same members
    obtain rfl : members = others := Value.obj.inj (Option.some.inj (read.symm.trans read'))
    exact alike_of_tells hq hp tq tp
  · intro alike
    rw [message?_congr alike, h]

lemma Alike.eq (h : p.Alike q) (hp : p.Unpaired) (hq : q.Unpaired) : p = q := by
  obtain ⟨protocol, alarm, others⟩ := h
  have same : p.protocol = q.protocol :=
    eq_of_readPoints (hp _ List.mem_cons_self) (hq _ List.mem_cons_self) protocol
  have warned : p.alarm = q.alarm := by
    have unpaired {r : Position} (hr : r.Unpaired) {s : Points} (hs : r.alarm = some s) :
        s.Unpaired := hr s (List.mem_cons_of_mem _ (Option.mem_toList.2 hs))
    cases ha : p.alarm with
    | none =>
      rw [ha] at alarm
      exact (Option.map_eq_none_iff.1 alarm.symm).symm
    | some s =>
      rw [ha] at alarm
      obtain ⟨t, ht, read⟩ := Option.map_eq_some_iff.1 alarm.symm
      rw [ht, eq_of_readPoints (unpaired hp ha) (unpaired hq ht) read.symm]
  rw [← others, ← same, ← warned]

def integers (p : Position) : List Int :=
  p.deviceId :: (p.satellites.toList ++ (p.input.toList ++ (p.output.toList ++
    (p.event.toList ++ p.network.toList.flatMap fun net => net.towers.flatMap fun t =>
      [t.country, t.network, t.area, t.cell] ++ t.signal.toList))))

lemma message?_eq_none_iff (p : Position) :
    p.message? = none ↔ ∃ n ∈ p.integers, 4300 < (Nat.toDigits 10 n.natAbs).length := by
  have integers : p.json.integers = p.integers := json_integers p
  rw [message?, text?_eq_none, integers]
  simp only [not_short_iff]

/-- A record has a message unless one of its integers is too long. The message is one line of
printable characters that gives back every field. Only the records that differ from this one by
surrogate pairs have the same message; texts without pairs are given back point by point. -/
theorem message_lossless (p : Position) (hp : p.Finite) :
    (p.message? = none ↔ ∃ n ∈ p.integers, 4300 < (Nat.toDigits 10 n.natAbs).length) ∧
    (p.Unpaired → ∀ s ∈ p.texts, readPoints s = s.map Fin.val) ∧
    ∀ line, p.message? = some line →
      (∀ c ∈ line.toList, ' ' ≤ c ∧ c ≤ '~') ∧
      (∃ members, Denotes line.toList (.obj members) ∧
        Reader.read? line.toList = some (.obj members) ∧ p.Tells members) ∧
      ∀ q : Position, q.Finite → (q.message? = some line ↔ q.Alike p) ∧
        (p.Unpaired → q.Unpaired → q.message? = some line → q = p) := by
  refine ⟨message?_eq_none_iff p, fun h s hs => readPoints_unpaired (h s hs), fun line h => ?_⟩
  refine ⟨plain_text? h, read_message? hp h, fun q hq => ?_⟩
  have alike := message?_eq_iff hp hq h
  exact ⟨alike, fun pairs pairs' same => (alike.1 same).eq pairs' pairs⟩

def quoting : Position where
  deviceId := -7
  latitude := some (.number true 0)
  alarm := some ("sos\n" : Points)
  network := some ⟨⟨404, 45, 1, 2, some 24⟩, [⟨404, 45, 3, 4, none⟩]⟩
  protocol := "\"its\" 😀"

theorem quoting_lossless : quoting.Finite ∧ quoting.Unpaired ∧
    ∃ line members, quoting.message? = some line ∧
      Reader.read? line.toList = some (.obj members) ∧
      member? members "protocol" = some (.str [0x22, 0x69, 0x74, 0x73, 0x22, 0x20, 0x1f600]) ∧
      member? members "lat" = some (.decimal ['-', '0', '.', '0']) ∧
      ∀ q : Position, q.Finite → q.Unpaired → q.message? = some line → q = quoting := by
  have finite : quoting.Finite := by
    have zero : (Binary64.number true 0).isFinite := by decide +kernel
    simp [Finite, numbers, quoting, zero]
  have unpaired : quoting.Unpaired := by
    have checked : ∀ s ∈ quoting.texts, s.Unpaired := by decide +kernel
    exact checked
  have written : quoting.message?.isSome := by decide +kernel
  obtain ⟨line, hl⟩ := Option.isSome_iff_exists.1 written
  obtain ⟨-, -, told⟩ := message_lossless quoting finite
  obtain ⟨-, ⟨members, -, read, tells⟩, unique⟩ := told line hl
  have protocol : shownText quoting.protocol =
      .str [0x22, 0x69, 0x74, 0x73, 0x22, 0x20, 0x1f600] := rfl
  have latitude : Value.orNull shownNumber quoting.latitude =
      .decimal ['-', '0', '.', '0'] := rfl
  exact ⟨finite, unpaired, line, members, hl, read, protocol ▸ tells.protocol,
    latitude ▸ tells.latitude, fun q hq pairs => (unique q hq).2 unpaired pairs⟩

def paired : Position :=
  { deviceId := 1, alarm := some [0xd83d, 0xde00] }

def merged : Position :=
  { deviceId := 1, alarm := some [0x1f600] }

theorem paired_merged : paired.Finite ∧ merged.Finite ∧ paired ≠ merged ∧
    ∃ line members, paired.message? = some line ∧ merged.message? = some line ∧
      Reader.read? line.toList = some (.obj members) ∧
      member? members "alarm" = some (.str [0x1f600]) := by
  have finite : paired.Finite := by simp [Finite, numbers, paired]
  have differ : paired.alarm ≠ merged.alarm := by decide
  have alike : paired.Alike merged := ⟨rfl, by decide, rfl⟩
  have written : paired.message?.isSome := by decide +kernel
  obtain ⟨line, hl⟩ := Option.isSome_iff_exists.1 written
  obtain ⟨members, -, read, tells⟩ := read_message? finite hl
  refine ⟨finite, by simp [Finite, numbers, merged], fun same => differ (congrArg _ same), ?_⟩
  exact ⟨line, members, hl, (message?_congr alike).symm.trans hl, read, tells.alarm⟩

end Position

end Telematics
