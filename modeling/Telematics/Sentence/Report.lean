import Telematics.Sentence.Cursor
import Telematics.Sentence.Grammar
import Telematics.Text.Fields

/-! The tagged form of a sentence. -/

namespace Telematics.Sentence

inductive Header where
  | telemetry (status event history : Slot)
  | kind (name : Slot)

inductive Identity where
  | status (code : Slot)
  | validity (digit : Slot)

structure Analog where
  first : Slot
  second : Slot

structure Extended where
  altitude : Slot
  ignition : Slot
  charge : Slot
  power : Slot
  battery : Slot
  emergency : Slot
  cells : List String
  inputs : Slot
  outputs : Slot
  analog : Option Analog

inductive Trailer where
  | rich (speed course satellites : Slot) (extended : Option Extended)
  | simple (altitude speed : Slot)

structure Report where
  slots : List Slot
  header : Header
  imei : Slot
  identity : Identity
  day : Slot
  month : Slot
  year : Slot
  hour : Slot
  minute : Slot
  second : Slot
  validity : Slot
  latitude : Slot × Slot
  longitude : Slot × Slot
  trailer : Trailer

inductive LayoutError where
  | cursor (e : Cursor.Error)
  | noAlternative
  | noCells
  | unread (count : Int)

def LayoutError.message? : LayoutError → Option String
  | cursor e => some e.message
  | unread count => some (toString count ++ " grammar tokens left unread")
  | noAlternative | noCells => none

abbrev Walk := StateT { c : Cursor // 0 ≤ c.position } (Except LayoutError)

namespace Walk

def take (n : Nat) : Walk (Vector Slot n) := fun ⟨c, hc⟩ =>
  match h : c.take n with
  | (.ok slots, rest) =>
    .ok (⟨slots.toArray, (Cursor.of_take hc h).1⟩, ⟨rest, (Cursor.of_take hc h).2⟩)
  | (.error e, _) => .error (.cursor e)

def next : Walk Slot := do
  return (← take 1)[0]

/-- A block is present or absent as a whole, as its first slot tells. -/
def block (n : Nat) (h : 0 < n := by decide) : Walk (Option (Vector Slot n)) := do
  let slots ← take n
  return slots[0].map fun _ => slots

def header : Walk Header := do
  let telemetry ← block 3
  let kind ← block 1
  match telemetry, kind with
  | some t, _ => return .telemetry t[0] t[1] t[2]
  | none, some k => return .kind k[0]
  | none, none => throw .noAlternative

def identity : Walk Identity := do
  let status ← block 1
  let validity ← block 1
  match status, validity with
  | some s, _ => return .status s[0]
  | none, some v => return .validity v[0]
  | none, none => throw .noAlternative

def splitCells (cells : String) : List String :=
  (Text.fields ',' (cells.toList.reverse.dropWhile (· = ',')).reverse).map String.ofList

def extended : Walk (Option Extended) := do
  let main ← block 9
  let analog ← block 2
  match main with
  | none => return none
  | some b =>
    match b[6] with
    | none => throw .noCells
    | some cells => return some {
        altitude := b[0], ignition := b[1], charge := b[2], power := b[3], battery := b[4]
        emergency := b[5], cells := splitCells cells, inputs := b[7], outputs := b[8]
        analog := analog.map fun a => ⟨a[0], a[1]⟩ }

def trailer : Walk Trailer := do
  let rich ← block 3
  let extended ← extended
  let simple ← block 2
  match rich, simple with
  | some r, _ => return .rich r[0] r[1] r[2] extended
  | none, some s => return .simple s[0] s[1]
  | none, none => throw .noAlternative

def report (slots : List Slot) : Walk Report := do
  let header ← header
  let imei ← next
  let identity ← identity
  let date ← take 3
  let time ← take 3
  let validity ← next
  let latitude ← take 2
  let longitude ← take 2
  let trailer ← trailer
  let cursor ← get
  if 0 < cursor.val.remaining then throw (.unread cursor.val.remaining)
  return {
    slots, header, imei, identity
    day := date[0], month := date[1], year := date[2]
    hour := time[0], minute := time[1], second := time[2]
    validity
    latitude := (latitude[0], latitude[1])
    longitude := (longitude[0], longitude[1])
    trailer }

end Walk

namespace Report

def ofSlots (slots : List Slot) : Except LayoutError Report :=
  (Walk.report slots).run' ⟨.start slots, Int.le_refl 0⟩

def ofText? (text : String) : Except LayoutError (Option Report) :=
  match Grammar.sentence.capture? text with
  | none => .ok none
  | some slots => (ofSlots slots).map some

end Report

end Telematics.Sentence
