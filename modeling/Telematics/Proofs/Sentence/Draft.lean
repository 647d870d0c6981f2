import Telematics.Proofs.Sentence.Language
import Telematics.Sentence.Report

/-! Sentences field by field, as they are written. -/

namespace Telematics.Sentence

open Grammar Pattern Text

/-- A text of a pattern without slots. -/
abbrev Token (p : Pattern) := { t : List Char // p.Matches [] t }

def Token.of (p : Pattern) (s : String) (hw : p.width = 0 := by rfl)
    (h : p.reads s.toList = true := by decide) : Token p :=
  ⟨s.toList, by
    obtain ⟨v, hv⟩ := reads_iff.1 h
    obtain rfl := hv.nil_of_width hw
    exact hv⟩

namespace Draft

def field (t : List Char) : List Char :=
  t ++ [',']

def commaIf (b : Bool) : List Char :=
  if b then [','] else []

def shown (t : List Char) : Slot :=
  some (String.ofList t)

structure Opening where
  preface : Token (many (· ≠ '$'))
  comma : Bool
  separator : Token (several inField)

def Opening.text (o : Opening) : List Char :=
  o.preface.1 ++ ['$'] ++ commaIf o.comma ++ field o.separator.1

inductive Header where
  | telemetry (vendor firmware : Token (several inField)) (status : Token twoCharacters)
      (event : Token digits) (history : Token (oneOf ['L', 'H']))
  | kind (name : Token (several inField))

namespace Header

def text : Header → List Char
  | telemetry vendor firmware status event history =>
    field vendor.1 ++ field firmware.1 ++ field status.1 ++ field event.1 ++ field history.1
  | kind name => field name.1

def captures : Header → Captures
  | telemetry _ _ status event history => [some status.1, some event.1, some history.1, none]
  | kind name => [none, none, none, some name.1]

def report : Header → Sentence.Header
  | telemetry _ _ status event history =>
    .telemetry (shown status.1) (shown event.1) (shown history.1)
  | kind name => .kind (shown name.1)

def isTelemetry : Header → Bool
  | telemetry .. => true
  | kind _ => false

end Header

inductive Identity where
  | status (code : Token twoCharacters)
  | validity (registration : Token (many inField)) (digit : Token bit)

namespace Identity

def text : Identity → List Char
  | status code => field code.1
  | validity registration digit => field registration.1 ++ field digit.1

def captures : Identity → Captures
  | status code => [some code.1, none]
  | validity _ digit => [none, some digit.1]

def report : Identity → Sentence.Identity
  | status code => .status (shown code.1)
  | validity _ digit => .validity (shown digit.1)

def isStatus : Identity → Bool
  | status _ => true
  | validity _ _ => false

end Identity

structure Date where
  day : Token (fixedDigits 2)
  dayComma : Bool
  month : Token (fixedDigits 2)
  monthComma : Bool
  year : Token (fixedDigits 4 <|> fixedDigits 2)

namespace Date

def text (d : Date) : List Char :=
  d.day.1 ++ commaIf d.dayComma ++ d.month.1 ++ commaIf d.monthComma ++ field d.year.1

def captures (d : Date) : Captures :=
  [some d.day.1, some d.month.1, some d.year.1]

end Date

structure Clock where
  hour : Token (fixedDigits 2)
  hourComma : Bool
  minute : Token (fixedDigits 2)
  minuteComma : Bool
  second : Token (fixedDigits 2)

namespace Clock

def text (c : Clock) : List Char :=
  c.hour.1 ++ commaIf c.hourComma ++ c.minute.1 ++ commaIf c.minuteComma ++ field c.second.1

def captures (c : Clock) : Captures :=
  [some c.hour.1, some c.minute.1, some c.second.1]

end Clock

def letterText : Option (Token (oneOf ['A', 'V'])) → List Char
  | some l => field l.1
  | none => []

structure Fix where
  letter : Option (Token (oneOf ['A', 'V']))
  latitude : Token fraction
  northSouth : Token (oneOf ['N', 'S'])
  longitude : Token fraction
  eastWest : Token (oneOf ['E', 'W'])

namespace Fix

def text (f : Fix) : List Char :=
  letterText f.letter ++ field f.latitude.1 ++ field f.northSouth.1 ++ field f.longitude.1 ++
    field f.eastWest.1

def captures (f : Fix) : Captures :=
  [f.letter.map (·.1), some f.latitude.1, some f.northSouth.1, some f.longitude.1,
    some f.eastWest.1]

end Fix

structure Cells where
  serving : Vector (Token (several isHexDigit)) 5
  neighbors : Vector (Token (optional (literal '-') ++ several isHexDigit)) 12

namespace Cells

def groups (c : Cells) : List (List Char) :=
  c.serving.toList.map (·.1) ++ c.neighbors.toList.map (·.1)

def text (c : Cells) : List Char :=
  c.groups.flatMap field

end Cells

structure Analog where
  index : Token digits
  first : Token fraction
  second : Token fraction

namespace Analog

def text (a : Analog) : List Char :=
  field a.index.1 ++ field a.first.1 ++ field a.second.1

def captures (a : Analog) : Captures :=
  [some a.first.1, some a.second.1]

def report (a : Analog) : Sentence.Analog :=
  ⟨shown a.first.1, shown a.second.1⟩

end Analog

def analogText : Option Analog → List Char
  | some a => a.text
  | none => []

def analogCaptures : Option Analog → Captures
  | some a => a.captures
  | none => List.replicate 2 none

structure Extended where
  altitude : Token decimal
  pdop : Token decimal
  hdop : Token decimal
  operator : Token (many inField)
  ignition : Token bit
  charge : Token bit
  power : Token decimal
  battery : Token decimal
  emergency : Token bit
  tamper : Token (optional (oneOf ['C', 'O']))
  cells : Cells
  inputs : Token (times 4 bit)
  outputs : Token (times 2 bit)
  analog : Option Analog

namespace Extended

def baseText (e : Extended) : List Char :=
  field e.altitude.1 ++ field e.pdop.1 ++ field e.hdop.1 ++ field e.operator.1 ++
    field e.ignition.1 ++ field e.charge.1 ++ field e.power.1 ++ field e.battery.1 ++
    field e.emergency.1 ++ field e.tamper.1 ++ e.cells.text ++ field e.inputs.1 ++
    field e.outputs.1

def text (e : Extended) : List Char :=
  e.baseText ++ analogText e.analog

def baseCaptures (e : Extended) : Captures :=
  [some e.altitude.1, some e.ignition.1, some e.charge.1, some e.power.1, some e.battery.1,
    some e.emergency.1, some e.cells.text, some e.inputs.1, some e.outputs.1]

def captures (e : Extended) : Captures :=
  e.baseCaptures ++ analogCaptures e.analog

def report (e : Extended) : Sentence.Extended where
  altitude := shown e.altitude.1
  ignition := shown e.ignition.1
  charge := shown e.charge.1
  power := shown e.power.1
  battery := shown e.battery.1
  emergency := shown e.emergency.1
  cells := e.cells.groups.map String.ofList
  inputs := shown e.inputs.1
  outputs := shown e.outputs.1
  analog := e.analog.map Analog.report

end Extended

def extendedText : Option Extended → List Char
  | some e => e.text
  | none => []

def extendedCaptures : Option Extended → Captures
  | some e => e.captures
  | none => List.replicate 11 none

inductive Trailer where
  | rich (speed course : Token decimal) (satellites : Token digits) (extended : Option Extended)
  | simple (altitude : Token (optional (literal '-') ++ fraction)) (speed : Token fraction)

namespace Trailer

def richText (speed course : Token decimal) (satellites : Token digits) : List Char :=
  field speed.1 ++ field course.1 ++ field satellites.1

def text : Trailer → List Char
  | rich speed course satellites e => richText speed course satellites ++ extendedText e
  | simple altitude speed => field altitude.1 ++ field speed.1

def captures : Trailer → Captures
  | rich speed course satellites e =>
    [some speed.1, some course.1, some satellites.1] ++ extendedCaptures e ++ [none, none]
  | simple altitude speed => List.replicate 14 none ++ [some altitude.1, some speed.1]

def report : Trailer → Sentence.Trailer
  | rich speed course satellites e =>
    .rich (shown speed.1) (shown course.1) (shown satellites.1) (e.map Extended.report)
  | simple altitude speed => .simple (shown altitude.1) (shown speed.1)

def isRich : Trailer → Bool
  | rich .. => true
  | simple .. => false

end Trailer

structure Remainder where
  date : Date
  clock : Clock
  fix : Fix
  trailer : Trailer

namespace Remainder

def fixText (m : Remainder) : List Char :=
  m.date.text ++ m.clock.text ++ m.fix.text

def text (m : Remainder) : List Char :=
  m.fixText ++ m.trailer.text

def captures (m : Remainder) : Captures :=
  m.date.captures ++ m.clock.captures ++ m.fix.captures ++ m.trailer.captures

end Remainder

end Draft

structure Draft where
  opening : Draft.Opening
  header : Draft.Header
  imei : Token (fixedDigits 15)
  identity : Draft.Identity
  remainder : Draft.Remainder

namespace Draft

def text (d : Draft) : List Char :=
  d.opening.text ++ d.header.text ++ field d.imei.1 ++ d.identity.text ++ d.remainder.text

def captures (d : Draft) : Captures :=
  d.header.captures ++ [some d.imei.1] ++ d.identity.captures ++ d.remainder.captures

def report (d : Draft) : Report where
  slots := d.captures.asSlots
  header := d.header.report
  imei := shown d.imei.1
  identity := d.identity.report
  day := shown d.remainder.date.day.1
  month := shown d.remainder.date.month.1
  year := shown d.remainder.date.year.1
  hour := shown d.remainder.clock.hour.1
  minute := shown d.remainder.clock.minute.1
  second := shown d.remainder.clock.second.1
  validity := d.remainder.fix.letter.map fun l => String.ofList l.1
  latitude := (shown d.remainder.fix.latitude.1, shown d.remainder.fix.northSouth.1)
  longitude := (shown d.remainder.fix.longitude.1, shown d.remainder.fix.eastWest.1)
  trailer := d.remainder.trailer.report

def emergency (identity : Identity) : Draft where
  opening := ⟨.of _ "", true, .of _ "01"⟩
  header := .kind (.of _ "EMR")
  imei := .of _ "861693034634154"
  identity
  remainder :=
    { date := ⟨.of _ "09", false, .of _ "11", false, .of _ "2018"⟩
      clock := ⟨.of _ "08", false, .of _ "35", false, .of _ "42"⟩
      fix := ⟨none, .of _ "12.975095", .of _ "N", .of _ "077.668045", .of _ "E"⟩
      trailer := .simple (.of _ "0.0") (.of _ "95.2") }

def servedBy (area : Token (several isHexDigit)) : Extended where
  altitude := .of _ "545.0"
  pdop := .of _ "1.0"
  hdop := .of _ "1.0"
  operator := .of _ "op"
  ignition := .of _ "1"
  charge := .of _ "1"
  power := .of _ "12.0"
  battery := .of _ "4.0"
  emergency := .of _ "0"
  tamper := .of _ "C"
  cells := ⟨#v[.of _ "24", .of _ "404", .of _ "45", area, .of _ "1"], .replicate 12 (.of _ "0")⟩
  inputs := .of _ "0000"
  outputs := .of _ "00"
  analog := none

def located (area : Token (several isHexDigit)) : Draft :=
  let d := emergency (.validity (.of _ "KA01AB1234") (.of _ "1"))
  { d with remainder := { d.remainder with
      trailer := .rich (.of _ "0.0") (.of _ "95.2") (.of _ "5") (some (servedBy area)) } }

def narrowArea : Token (several isHexDigit) :=
  .of _ "1"

def racing (speed : Token fraction) : Draft :=
  let d := emergency (.validity (.of _ "KA01AB1234") (.of _ "1"))
  { d with remainder := { d.remainder with trailer := .simple (.of _ "0.0") speed } }

def beyondPole : Draft :=
  let d := emergency (.validity (.of _ "KA01AB1234") (.of _ "1"))
  { d with remainder := { d.remainder with
      fix := { d.remainder.fix with latitude := .of _ "90.1" } } }

end Draft

end Telematics.Sentence
