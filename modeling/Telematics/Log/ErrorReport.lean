import Telematics.Points
import Telematics.Text.Quoted

/-! Error reports: an error with its traceback, after the errors that led to it. -/

namespace Telematics.Log

def lineOf (s : Points) : Points :=
  s ++ "\n"

/-- A line of source as it is shown, and the marks under the part of it that was run. -/
structure SourceLine where
  text : Points
  marks : Option Points

def SourceLine.shown (s : SourceLine) : Points :=
  lineOf ("    " ++ s.text) ++ s.marks.elim [] fun marks => lineOf ("    " ++ marks)

structure Frame where
  file : Points
  line : Option Nat
  function : Points
  source : Option SourceLine

namespace Frame

def samePlace (f g : Frame) : Bool :=
  f.file = g.file && f.line = g.line && f.function = g.function

def shown (f : Frame) : Points :=
  lineOf ("  File \x22" ++ f.file ++ "\x22, line " ++ f.line.elim Text.absentWord toString ++
    ", in " ++ f.function) ++ f.source.elim [] SourceLine.shown

def shownRun (run : List Frame) : Points :=
  (run.take 3).flatMap shown ++
    if run.length ≤ 3 then []
    else lineOf ("  [Previous line repeated " ++ toString (run.length - 3) ++
      (if run.length = 4 then " more time]" else " more times]"))

def shownTrace (trace : List Frame) : Points :=
  if trace.isEmpty then []
  else lineOf "Traceback (most recent call last):" ++ (trace.splitBy samePlace).flatMap shownRun

end Frame

structure RaisedError where
  kind : String
  text : Points
  notes : List Points := []
  trace : List Frame := []

namespace RaisedError

def summary (e : RaisedError) : Points :=
  if e.text.isEmpty then e.kind else e.kind ++ ": " ++ e.text

def shown (e : RaisedError) : Points :=
  Frame.shownTrace e.trace ++ lineOf e.summary ++ e.notes.flatMap lineOf

end RaisedError

inductive Link where
  | cause
  | context

def Link.message : Link → String
  | cause => "The above exception was the direct cause of the following exception:"
  | context => "During handling of the above exception, another exception occurred:"

def Link.shown (link : Link) : Points :=
  lineOf [] ++ lineOf link.message ++ lineOf []

structure ErrorReport where
  earlier : List (RaisedError × Link) := []
  last : RaisedError

namespace ErrorReport

def full (r : ErrorReport) : Points :=
  (r.earlier.flatMap fun e => e.1.shown ++ e.2.shown) ++ r.last.shown

def newline : CodePoint := .ofChar '\n'

def shown (r : ErrorReport) : Points :=
  if r.full.getLast? = some newline then r.full.dropLast else r.full

end ErrorReport

end Telematics.Log
