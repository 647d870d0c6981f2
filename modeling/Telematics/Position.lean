import Telematics.Alarm
import Telematics.Network
import Telematics.Points
import Telematics.Sentence.Report

/-! Position records, filled block by block from a report. -/

namespace Telematics

structure Position where
  deviceId : Int
  time : Option Timestamp := none
  valid : Bool := false
  latitude : Option Binary64 := none
  longitude : Option Binary64 := none
  speed : Option Binary64 := none
  course : Option Binary64 := none
  altitude : Option Binary64 := none
  satellites : Option Int := none
  ignition : Option Bool := none
  charge : Option Bool := none
  emergency : Option Bool := none
  power : Option Binary64 := none
  battery : Option Binary64 := none
  input : Option Int := none
  output : Option Int := none
  alarm : Option Points := none
  archive : Bool := false
  event : Option Int := none
  network : Option Network := none
  adc1 : Option Binary64 := none
  adc2 : Option Binary64 := none
  protocol : Points := "its"

namespace Position

open Sentence

def emergencyKind : String := "EMR"

def isHistory (letter : Slot) : Bool :=
  letter = some "H"

def withHeader (p : Position) : Header → Field.Result Position
  | .telemetry _ event history => do
    let number ← Field.integer "event" event
    return { p with event := some number, archive := isHistory history }
  | .kind name =>
    return { p with
      alarm := if name = some emergencyKind then some (Alarm.sos.name : Points) else none }

/-- The status at the identity place counts before the status of the header. -/
def effectiveStatus (header : Header) (identity : Identity) : Slot :=
  match identity, header with
  | .status code, _ => code
  | .validity _, .telemetry status _ _ => status
  | .validity _, .kind _ => none

def withStatus (p : Position) (status : Slot) : Position :=
  match status.bind Alarm.ofStatus? with
  | some alarm => { p with alarm := some (alarm.name : Points) }
  | none => p

/-- The validity letter counts before the digit at the identity place. -/
def withValidity (p : Position) (identity : Identity) (letter : Slot) : Field.Result Position := do
  let digit ← match identity with
    | .status _ => pure p.valid
    | .validity token => (Field.integer "valid" token).map (· = 1)
  return { p with valid := match letter with
    | none => digit
    | some l => l = "A" }

def withAnalog (p : Position) : Option Analog → Field.Result Position
  | none => return p
  | some a => do
    let first ← Field.decimal "adc1" a.first
    let second ← Field.decimal "adc2" a.second
    return { p with adc1 := some first, adc2 := some second }

def withExtended (p : Position) (e : Extended) : Field.Result Position := do
  let altitude ← Field.decimal "altitude" e.altitude
  let ignition ← Field.flag "ignition" e.ignition
  let charge ← Field.flag "charge" e.charge
  let power ← Field.decimal "power" e.power
  let battery ← Field.decimal "battery" e.battery
  let emergency ← Field.flag "emergency" e.emergency
  let network ← Network.ofTokens e.cells
  let input ← Field.binary "input" e.inputs
  let output ← Field.binary "output" e.outputs
  withAnalog { p with
    altitude := some altitude, ignition := some ignition, charge := some charge
    power := some power, battery := some battery, emergency := some emergency
    network := some network, input := some input, output := some output } e.analog

def withTrailer (p : Position) : Trailer → Field.Result Position
  | .rich speed course satellites extended => do
    let kph ← Field.decimal "speed" speed
    let course ← Field.decimal "course" course
    let satellites ← Field.integer "satellites" satellites
    let p := { p with
      speed := some (Field.knots kph), course := some course, satellites := some satellites }
    match extended with
    | none => return p
    | some e => p.withExtended e
  | .simple altitude speed => do
    let altitude ← Field.decimal "altitude" altitude
    let kph ← Field.decimal "speed" speed
    return { p with altitude := some altitude, speed := some (Field.knots kph) }

def ofReport (deviceId : Int) (r : Report) : Except Field.TimeError Position := do
  let p : Position := { deviceId }
  let p ← (p.withHeader r.header).mapError .conversion
  let p := p.withStatus (effectiveStatus r.header r.identity)
  let p ← (p.withValidity r.identity r.validity).mapError .conversion
  let time ← Field.time r.day r.month r.year r.hour r.minute r.second
  let latitude ← (Field.latitude r.latitude.1 r.latitude.2).mapError .conversion
  let longitude ← (Field.longitude r.longitude.1 r.longitude.2).mapError .conversion
  let p := { p with time := some time, latitude := some latitude, longitude := some longitude }
  (p.withTrailer r.trailer).mapError .conversion

end Position

end Telematics
