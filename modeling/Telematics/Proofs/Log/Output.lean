import Telematics.Log.Output
import Telematics.Proofs.Log.Record
import Telematics.Proofs.Storage

/-! An output over its whole life, with configurations and entries in any order. -/

namespace Telematics.Log

inductive Call where
  | configure (s : Settings)
  | write (e : Entry)

/-- An entry with the settings under which it is written. -/
structure Written where
  settings : Settings
  entry : Entry

/-- Every stream can write the line of a record as JSON. -/
theorem Encoding.has_text (e : Encoding) {r : Record} {line : String} (h : r.text = .ok line) :
    (Points.ofString line).all e.has := by
  rw [List.all_eq_true]
  intro p hp
  obtain ⟨c, hc, rfl⟩ := List.mem_map.1 hp
  have low : c.toNat ≤ 0x7e := (Record.plain_text h c hc).2
  exact e.ascii _ (Nat.lt_of_le_of_lt low (by decide))

namespace Output

variable {o o₁ o₂ o₃ : Output} {s : Settings} {e : Entry} {p : Place} {ws ws' : List Written}
  {calls : List Call} {failure : Storage.Failure}

def call (o : Output) : Call → Except Storage.Failure Output
  | .configure s => o.configure s
  | .write e => .ok (o.write e)

def play (o : Output) (calls : List Call) : Except Storage.Failure Output :=
  calls.foldlM call o

/-! What settings ask for. -/

def styleOf (s : Settings) : Style :=
  if s.logJson then .json else .text

def placeOf? (s : Settings) : Option Place :=
  (s.logFile.filter (· ≠ [])).map fun text => (Path.ofText text).place

def report (s : Settings) : Entry :=
  (Event.configured (thresholdOf s.logLevel) s.logJson s.logFile).entry

def written (s : Settings) : List Call → List Written
  | [] => []
  | .configure s' :: calls => ⟨s', report s'⟩ :: written s' calls
  | .write e :: calls => ⟨s, e⟩ :: written s calls

def isLogged (w : Written) : Bool :=
  0 < w.entry.level && thresholdOf w.settings.logLevel ≤ w.entry.level

def shownLine (w : Written) : Line :=
  ⟨styleOf w.settings, w.entry⟩

/-- What an entry puts on the console: its line, and the line again if it is also the log file. -/
def consoleLines (o : Output) (w : Written) : List Line :=
  if isLogged w then
    (shownLine w).through o.encoding ++
      if (placeOf? w.settings).any o.storage.isConsole then (shownLine w).through .utf8 else []
  else []

def linesAt (p : Place) (w : Written) : List Line :=
  if isLogged w ∧ placeOf? w.settings = some p then (shownLine w).through .utf8 else []

variable {w : Written}

lemma consoleLines_unlogged (h : isLogged w = false) : o.consoleLines w = [] := by
  rw [consoleLines, h]
  rfl

lemma linesAt_unlogged (p : Place) (h : isLogged w = false) : linesAt p w = [] := by
  rw [linesAt, h, if_neg]
  exact fun logged => Bool.false_ne_true logged.1

lemma linesAt_elsewhere (h : placeOf? w.settings ≠ some p) : linesAt p w = [] :=
  if_neg fun here => h here.2

/-! One call. -/

structure Configured (s : Settings) (o : Output) : Prop where
  threshold : o.threshold = thresholdOf s.logLevel
  handlers : o.handlers = handlersOf (styleOf s) (placeOf? s)
  opened : ∀ p, placeOf? s = some p → o.storage.Takes p

/-- Between the two outputs exactly these entries have been written. -/
structure Extends (o o' : Output) (ws : List Written) : Prop where
  encoding : o'.encoding = o.encoding
  console : o'.console = o.console ++ ws.flatMap o.consoleLines
  devices : ∀ p d, o'.storage.node? p = some (.device d) ↔ o.storage.node? p = some (.device d)
  files : ∀ p, (∀ d, o.storage.node? p ≠ some (.device d)) →
    o'.storage.items p = o.storage.items p ++ ws.flatMap (linesAt p)

lemma Extends.refl (o : Output) : Extends o o [] where
  encoding := rfl
  console := (List.append_nil _).symm
  devices _ _ := Iff.rfl
  files _ _ := (List.append_nil _).symm

lemma Extends.consoleLines (h : Extends o₁ o₂ ws) : o₂.consoleLines = o₁.consoleLines := by
  have consoles : o₂.storage.isConsole = o₁.storage.isConsole := by
    funext p
    rw [Bool.eq_iff_iff, Storage.isConsole_iff, Storage.isConsole_iff, h.devices]
  funext w
  rw [Output.consoleLines, Output.consoleLines, h.encoding, consoles]

lemma Extends.trans (h : Extends o₁ o₂ ws) (h' : Extends o₂ o₃ ws') :
    Extends o₁ o₃ (ws ++ ws') where
  encoding := h'.encoding.trans h.encoding
  console := by
    rw [h'.console, h.console, h.consoleLines, List.flatMap_append, List.append_assoc]
  devices p d := (h'.devices p d).trans (h.devices p d)
  files p hp := by
    rw [h'.files p fun d => mt (h.devices p d).1 (hp d), h.files p hp, List.flatMap_append,
      List.append_assoc]

lemma Extends.unlogged (o : Output) (h : isLogged w = false) : Extends o o [w] where
  encoding := rfl
  console := by rw [List.flatMap_singleton, consoleLines_unlogged h, List.append_nil]
  devices _ _ := Iff.rfl
  files p _ := by rw [List.flatMap_singleton, linesAt_unlogged p h, List.append_nil]

lemma write_unlogged (h : o.admits e.level = false) : o.write e = o := by
  rw [write, h]
  rfl

lemma write_logged {style : Style} {file : Option Place} (h : o.admits e.level)
    (hh : o.handlers = handlersOf style file) :
    o.write e = (handlersOf style file).foldl (handle e) o := by
  rw [write, if_pos h, hh]

lemma Configured.admits (h : Configured s o) (e : Entry) :
    o.admits e.level = isLogged ⟨s, e⟩ := by
  rw [Output.admits, h.threshold]
  rfl

lemma Extends.of_print {lines : List Line} (console : o.consoleLines w = lines)
    (files : ∀ p, (∀ d, o.storage.node? p ≠ some (.device d)) → linesAt p w = []) :
    Extends o (o.print lines) [w] where
  encoding := rfl
  console := by
    rw [List.flatMap_singleton, console]
    rfl
  devices _ _ := Iff.rfl
  files p hp := by
    rw [List.flatMap_singleton, files p hp, List.append_nil]
    rfl

lemma handle_console (o : Output) (e : Entry) (style : Style) :
    handle e o ⟨.console, style⟩ = o.print (Line.through ⟨style, e⟩ o.encoding) := rfl

lemma handle_device (h : o.storage.isConsole p) (lines : List Line) (e : Entry) (style : Style) :
    handle e (o.print lines) ⟨.file p, style⟩ =
      o.print (lines ++ Line.through ⟨style, e⟩ .utf8) := by
  have device : (o.print lines).storage.isConsole p := h
  simp only [handle]
  rw [if_pos device, print, print, print, List.append_assoc]

lemma handle_file (h : o.storage.isConsole p = false) (lines : List Line) (e : Entry)
    (style : Style) : handle e (o.print lines) ⟨.file p, style⟩ =
      { o.print lines with
        storage := o.storage.append p (Line.through ⟨style, e⟩ .utf8) } := by
  have file : (o.print lines).storage.isConsole p = false := h
  simp only [handle]
  rw [if_neg (Bool.eq_false_iff.1 file)]
  rfl

lemma Configured.write (h : Configured s o) (e : Entry) :
    Configured s (o.write e) ∧ Extends o (o.write e) [⟨s, e⟩] := by
  have admits := h.admits e
  cases logged : isLogged ⟨s, e⟩ with
  | false =>
    rw [write_unlogged (admits.trans logged)]
    exact ⟨h, .unlogged o logged⟩
  | true =>
    rw [write_logged (admits.trans logged) h.handlers]
    cases hp : placeOf? s with
    | none =>
      have console : o.consoleLines ⟨s, e⟩ = (shownLine ⟨s, e⟩).through o.encoding := by
        simp [consoleLines, logged, hp]
      refine ⟨⟨h.threshold, h.handlers, h.opened⟩, .of_print console fun p _ => ?_⟩
      exact linesAt_elsewhere (by rw [hp]; nofun)
    | some p =>
      have elsewhere {q : Place} (other : q ≠ p) : linesAt q ⟨s, e⟩ = [] :=
        linesAt_elsewhere (by rw [hp]; exact fun same => other (Option.some.inj same).symm)
      simp only [handlersOf, Option.map_some, Option.toList_some, List.foldl_cons, List.foldl_nil]
      cases console : o.storage.isConsole p with
      | true =>
        have twice : o.consoleLines ⟨s, e⟩ = (shownLine ⟨s, e⟩).through o.encoding ++
            (shownLine ⟨s, e⟩).through .utf8 := by
          simp [consoleLines, logged, hp, console]
        have device := Storage.isConsole_iff.1 console
        rw [handle_console, handle_device console]
        refine ⟨⟨h.threshold, h.handlers, h.opened⟩, .of_print twice fun q regular => ?_⟩
        exact elsewhere fun same => regular .console (same ▸ device)
      | false =>
        have once : o.consoleLines ⟨s, e⟩ = (shownLine ⟨s, e⟩).through o.encoding := by
          simp [consoleLines, logged, hp, console]
        have takes := h.opened p hp
        rw [handle_console, handle_file console]
        refine ⟨⟨h.threshold, h.handlers, fun q hq => ?_⟩, ⟨rfl, ?_, fun q d => ?_, fun q hq => ?_⟩⟩
        · obtain rfl := Option.some.inj (hp.symm.trans hq)
          exact takes.append _
        · rw [List.flatMap_singleton, once]
          rfl
        · exact Storage.append_device_iff takes _ q d
        · rw [List.flatMap_singleton]
          by_cases same : q = p
          · subst same
            obtain ⟨items, file⟩ | ⟨d, device⟩ := takes
            · rw [linesAt, if_pos ⟨logged, hp⟩]
              exact Storage.items_append_self file _
            · exact absurd device (hq d)
          · rw [elsewhere same, List.append_nil]
            exact Storage.items_append_of_ne same _

def kept (path message : Points) : Option (List Points × List Points) :=
  (initial.play [.configure { logFile := some path },
    .write ⟨Level.info, "tracking.oracle", message⟩]).toOption.map fun o =>
      (o.console.map (·.entry.message),
        (o.storage.items (Path.ofText path).place).map (·.entry.message))

end Output

end Telematics.Log
