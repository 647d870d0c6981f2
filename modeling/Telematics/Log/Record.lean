import Telematics.Binary64.Basic
import Telematics.Json
import Telematics.Log.ErrorReport
import Telematics.Log.Level
import Telematics.Text.Fields
import Telematics.Timestamp

/-! Log records as JSON, one object on one line. -/

namespace Telematics.Log

structure Record where
  /-- Milliseconds since the start of 1970. -/
  created : Int
  level : Int
  logger : Points
  message : Points
  path : Points
  function : Option Points
  line : Int
  report : Option ErrorReport

/-- Year, month and day of a day counted from the start of 1970. Years begin in March here, so that
a leap day is the last of its year; 400 of them have 146097 days. -/
def civilDate (days : Int) : Int × Nat × Nat :=
  let z := days + 719468
  let era := z / 146097
  let day := (z % 146097).toNat
  let year := (day - day / 1460 + day / 36524 - day / 146096) / 365
  let ordinal := day - (365 * year + year / 4 - year / 100)
  let index := (5 * ordinal + 2) / 153
  let month := if index < 10 then index + 3 else index - 9
  ((year : Int) + era * 400 + (if month ≤ 2 then 1 else 0), month,
    ordinal - (153 * index + 2) / 5 + 1)

inductive Record.Failure where
  | clock
  | calendar
  | number
deriving DecidableEq

def wordBound : Int := Nat.pow 2 31

/-- The largest integer of 64 bits as a floating-point number, which is one more than the integer. -/
def longBound : Int := Nat.pow 2 63

def heldSeconds (seconds : Int) : Except Record.Failure Int :=
  if -longBound ≤ seconds ∧ seconds ≤ longBound then .ok seconds else .error .clock

def clockSeconds (created : Int) : Except Record.Failure Int :=
  (Binary64.ofRatio (created < 0) created.natAbs 1000).floor?.elim (.error .clock) heldSeconds

def timeText (created : Int) : Except Record.Failure String := do
  let seconds ← clockSeconds created
  let (year, month, day) := civilDate (seconds / 86400)
  let clock := (seconds % 86400).toNat
  if year - 1900 < -wordBound ∨ wordBound ≤ year - 1900 then throw .calendar
  if wordBound ≤ year then throw .clock
  return toString year ++ "-" ++ Timestamp.padded 2 month ++ "-" ++ Timestamp.padded 2 day ++ " " ++
    Timestamp.padded 2 (clock / 3600) ++ ":" ++ Timestamp.padded 2 (clock / 60 % 60) ++ ":" ++
    Timestamp.padded 2 (clock % 60) ++ "," ++ Timestamp.padded 3 (created % 1000).toNat

def isDot (p : CodePoint) : Bool :=
  p = .ofChar '.'

def stem (name : Points) : Points :=
  let body := name.dropWhile isDot
  if body.any isDot then
    name.takeWhile isDot ++ ((body.reverse.dropWhile fun p => !isDot p).drop 1).reverse
  else name

def moduleName (path : Points) : Points :=
  stem ((Text.fields (.ofChar '/') path).getLastD [])

namespace Record

def json (r : Record) (time : String) : Json :=
  .obj ([("timestamp", .str time),
    ("level", .str (Level.shown r.level)),
    ("logger", .str r.logger),
    ("message", .str r.message),
    ("module", .str (moduleName r.path)),
    ("function", .ofOption .str r.function),
    ("line", .int r.line)] ++
    (r.report.map fun e => ("exception", Json.str e.shown)).toList)

/-- The line of a record. Its level must have a text even if it is shown by a name. -/
def text (r : Record) : Except Failure String := do
  if (Numeral.text? r.level).isNone then throw .number
  match (r.json (← timeText r.created)).text? with
  | some line => return line
  | none => throw .number

end Record

end Telematics.Log
