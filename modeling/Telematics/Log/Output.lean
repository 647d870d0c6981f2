import Telematics.Log.Event
import Telematics.Settings
import Telematics.Storage

namespace Telematics.Log

inductive Style where
  | text
  | json
deriving DecidableEq

inductive Sink where
  | console
  | file (place : Place)
deriving DecidableEq

structure Handler where
  sink : Sink
  style : Style

structure Line where
  style : Style
  entry : Entry

/-- The code points that a stream can write, those of ASCII among them. -/
structure Encoding where
  has : CodePoint → Bool
  ascii : ∀ p, p.val < 0x80 → has p

def Encoding.utf8 : Encoding where
  has p := !Points.isSurrogate p
  ascii p hp := by
    simp only [Points.isSurrogate, Bool.not_eq_true', Bool.and_eq_false_iff,
      decide_eq_false_iff_not]
    omega

def Line.fits (l : Line) (e : Encoding) : Bool :=
  match l.style with
  | .json => true
  | .text => l.entry.plainText.all e.has

def Line.through (l : Line) (e : Encoding) : List Line :=
  if l.fits e then [l] else []

structure Output where
  threshold : Int
  handlers : List Handler
  /-- The encoding of the console, which its surroundings choose. -/
  encoding : Encoding
  console : List Line
  storage : Storage Line

namespace Output

def initial : Output :=
  ⟨Level.warning, [], .utf8, [], .initial⟩

def fileLines (o : Output) (path : Points) : Except Storage.Failure (List Line) :=
  o.storage.readFile path

def print (o : Output) (lines : List Line) : Output :=
  { o with console := o.console ++ lines }

def handle (entry : Entry) (o : Output) (h : Handler) : Output :=
  let line : Line := ⟨h.style, entry⟩
  match h.sink with
  | .console => o.print (line.through o.encoding)
  | .file place =>
    if o.storage.isConsole place then o.print (line.through .utf8)
    else { o with storage := o.storage.append place (line.through .utf8) }

def admits (o : Output) (level : Int) : Bool :=
  0 < level && o.threshold ≤ level

def write (o : Output) (entry : Entry) : Output :=
  if o.admits entry.level then o.handlers.foldl (handle entry) o else o

def writeEvents (o : Output) (events : List Event) : Output :=
  events.foldl (fun o e => o.write e.entry) o

def thresholdOf (name : String) : Int :=
  (Level.ofName? name).getD Level.info

def openFile (o : Output) (path : Option Points) :
    Except Storage.Failure (Output × Option Place) :=
  match path.filter (· ≠ []) with
  | none => .ok (o, none)
  | some path => do
    let (storage, place) ← o.storage.openFile path
    return ({ o with storage }, some place)

def handlersOf (style : Style) (file : Option Place) : List Handler :=
  ⟨.console, style⟩ :: (file.map fun place => ⟨.file place, style⟩).toList

def configure (o : Output) (s : Settings) : Except Storage.Failure Output := do
  let (o, file) ← o.openFile s.logFile
  let threshold := thresholdOf s.logLevel
  let style := if s.logJson then Style.json else .text
  return { o with threshold, handlers := handlersOf style file }.write
    (Event.configured threshold s.logJson s.logFile).entry

end Output

end Telematics.Log
