import Telematics.Proofs.Json.Line
import Telematics.Proofs.Json.Member
import Telematics.Proofs.Log.Clock
import Telematics.Proofs.Log.ErrorReport
import Telematics.Proofs.Result
import Telematics.Proofs.Text

/-! A reader of JSON finds a log record in its line, and its line in a log. -/

namespace Telematics.Log

variable {time line : String}

namespace Record

open Json

variable {r q : Record} {e : Failure} {members : List (List Nat × Value)}

def memberNames (r : Record) : List String :=
  ["timestamp", "level", "logger", "message", "module", "function", "line"] ++
    (r.report.map fun _ => "exception").toList

structure Tells (r : Record) (time : String) (members : List (List Nat × Value)) : Prop where
  names : members.map Prod.fst = r.memberNames.map points
  distinct : (members.map Prod.fst).Nodup
  timestamp : member? members "timestamp" = some (.str (points time))
  level : member? members "level" = some (.str (points (Level.shown r.level)))
  logger : member? members "logger" = some (.str (readPoints r.logger))
  message : member? members "message" = some (.str (readPoints r.message))
  moduleName : member? members "module" = some (.str (readPoints (moduleName r.path)))
  function : member? members "function" = some (.orNull (fun s => .str (readPoints s)) r.function)
  line : member? members "line" = some (.int r.line)
  report : member? members "exception" = r.report.map fun e => .str (readPoints e.shown)

lemma seen_text (s : String) : (Json.str s).seen = .str (points s) := by
  rw [seen, readPoints_ofString]

lemma tells_json (r : Record) (time : String) :
    r.Tells time (seenMembers (r.json time).members) := by
  have names : (seenMembers (r.json time).members).map Prod.fst = r.memberNames.map points := by
    rw [json, memberNames]
    cases r.report with
    | none => rfl
    | some e => rfl
  have distinct : r.memberNames.Nodup := by
    rw [memberNames]
    cases r.report with
    | none => decide
    | some e =>
      rw [Option.map_some]
      decide
  exact {
    names
    distinct := by
      rw [names]
      exact List.Pairwise.map points (fun _ _ => points_injective.ne) distinct
    timestamp := member?_of_lookup rfl (seen_text time)
    level := member?_of_lookup rfl (seen_text _)
    logger := member?_of_lookup rfl rfl
    message := member?_of_lookup rfl rfl
    moduleName := member?_of_lookup rfl rfl
    function := member?_optional (fun _ _ => rfl) rfl
    line := member?_of_lookup rfl rfl
    report := by
      rw [member?_seenMembers, json]
      cases r.report with
      | none => rfl
      | some e => rfl }

/-- The records have the same line number, and texts that are read as the same. So are the texts of
two errors whose reports differ in nothing else. -/
structure Agrees (q r : Record) : Prop where
  logger : readPoints q.logger = readPoints r.logger
  message : readPoints q.message = readPoints r.message
  function : q.function.map readPoints = r.function.map readPoints
  line : q.line = r.line
  report : q.report.map (readPoints ·.shown) = r.report.map (readPoints ·.shown)
  error : ∀ b ∈ r.report, ∀ text, q.report = some (b.retold text) →
    readPoints text = readPoints b.last.text

lemma agrees_of_tells {time' : String} (hr : r.Tells time members) (hq : q.Tells time' members) :
    q.Agrees r := by
  have same {v w : Value} {name : String} (hv : member? members name = some v)
      (hw : member? members name = some w) : v = w := Option.some.inj (hv.symm.trans hw)
  have function : q.function.map readPoints = r.function.map readPoints :=
    Value.orNull_inj (f := Value.str) (fun _ null => by cases null)
      (fun _ _ _ _ => Value.str.inj) (by
        rw [Value.orNull_map, Value.orNull_map]
        exact same hq.function hr.function)
  have report : q.report.map (readPoints ·.shown) = r.report.map (readPoints ·.shown) := by
    apply Option.map_injective (fun _ _ => Value.str.inj)
    rw [Option.map_map, Option.map_map]
    exact hq.report.symm.trans hr.report
  refine ⟨Value.str.inj (same hq.logger hr.logger), Value.str.inj (same hq.message hr.message),
    function, Value.int.inj (same hq.line hr.line), report, ?_⟩
  intro b hb text ha
  rw [ha, Option.mem_def.1 hb] at report
  exact ErrorReport.readPoints_text (Option.some.inj report)

def texts (r : Record) : List Points :=
  [r.logger, r.message] ++ r.function.toList ++ (r.report.map ErrorReport.shown).toList

lemma short_of_digits {n : Int} (h : (Nat.toDigits 10 n.natAbs).length ≤ 4300) : Short n :=
  not_not.1 (mt (not_short_iff n).1 (Nat.not_lt.2 h))

lemma integers_json (r : Record) (time : String) : (r.json time).integers = [r.line] := by
  rw [json]
  cases r.report <;> cases r.function <;> rfl

lemma floats_json (r : Record) (time : String) : (r.json time).floats = [] := by
  rw [json]
  cases r.report <;> cases r.function <;> rfl

lemma text_of_long (h : ¬ Short r.level) : r.text = .error .number := by
  have unwritten : (Numeral.text? r.level).isNone := by
    rw [Option.isNone_iff_eq_none, ← Option.not_isSome_iff_eq_none, isSome_text?]
    exact h
  rw [text, if_pos unwritten]
  rfl

lemma text_eq (h : Short r.level) : r.text = timeText r.created >>= fun time =>
    match (r.json time).text? with
    | some line => .ok line
    | none => .error .number := by
  have written : ¬ (Numeral.text? r.level).isNone := by
    rw [Option.isNone_iff_eq_none, ← Option.not_isSome_iff_eq_none, isSome_text?]
    exact not_not_intro h
  rw [text, if_neg written]
  rfl

lemma text_eq_ok : r.text = .ok line ↔ Short r.level ∧
    ∃ time, timeText r.created = .ok time ∧ (r.json time).text? = some line := by
  by_cases short : Short r.level
  · rw [text_eq short, bind_eq_ok, and_iff_right short]
    refine exists_congr fun time => and_congr_right fun _ => ?_
    cases (r.json time).text? with
    | none => simp
    | some line' => simp
  · rw [text_of_long short]
    simp [short]

lemma exists_text (hl : Short r.level) (hn : Short r.line) (ht : timeText r.created = .ok time) :
    ∃ line, r.text = .ok line ∧ (r.json time).text? = some line := by
  have written : (r.json time).text? ≠ none := by
    rw [ne_eq, text?_eq_none, integers_json]
    simp [hn]
  obtain ⟨line, hline⟩ := Option.ne_none_iff_exists'.1 written
  exact ⟨line, text_eq_ok.2 ⟨hl, time, ht, hline⟩, hline⟩

lemma text_eq_error (hl : Short r.level) (hn : Short r.line) :
    r.text = .error e ↔ timeText r.created = .error e := by
  cases ht : timeText r.created with
  | error e' => rw [text_eq hl, ht]; exact Iff.rfl
  | ok time =>
    obtain ⟨line, written, -⟩ := exists_text hl hn ht
    rw [written]
    exact ⟨nofun, nofun⟩

theorem read_text (h : r.text = .ok line) (ht : timeText r.created = .ok time) :
    ∃ members, Denotes line.toList (.obj members) ∧
      Reader.read? line.toList = some (.obj members) ∧ r.Tells time members := by
  obtain ⟨-, time', timed, written⟩ := text_eq_ok.1 h
  obtain rfl : time = time' := Except.ok.inj (ht.symm.trans timed)
  have hc := chars?_of_text? written
  have finite : ∀ x ∈ (r.json time).floats, x.isFinite := by
    rw [floats_json]
    simp
  exact ⟨_, denotes_chars? hc finite, Reader.read?_chars? hc finite, tells_json r time⟩

lemma plain_text (h : r.text = .ok line) : ∀ c ∈ line.toList, ' ' ≤ c ∧ c ≤ '~' := by
  obtain ⟨-, time, -, written⟩ := text_eq_ok.1 h
  exact plain_text? written

theorem agrees_of_text (hr : r.text = .ok line) (hq : q.text = .ok line) : q.Agrees r := by
  obtain ⟨-, time, timed, -⟩ := text_eq_ok.1 hr
  obtain ⟨-, time', timed', -⟩ := text_eq_ok.1 hq
  obtain ⟨members, -, read, tr⟩ := read_text hr timed
  obtain ⟨others, -, read', tq⟩ := read_text hq timed'
  obtain rfl : members = others := Value.obj.inj (Option.some.inj (read.symm.trans read'))
  exact agrees_of_tells tr tq

/-- A log falls apart into the lines of its records. -/
theorem fields_log {lines : List String} (h : ∀ l ∈ lines, ∃ q : Record, q.text = .ok l) :
    Text.fields '\n' (lines.flatMap fun l => l.toList ++ ['\n']) =
      lines.map String.toList ++ [[]] := by
  rw [← List.flatMap_map String.toList (· ++ ['\n']) lines]
  apply Text.fields_terminated
  intro p hp
  obtain ⟨l, hl, rfl⟩ := List.mem_map.1 hp
  obtain ⟨q, hq⟩ := h l hl
  exact fun mem => absurd (plain_text hq '\n' mem).1 (by decide)

/-- A record whose level and line number are not too long has a line unless its time has no date;
milliseconds of 64 bits have one. The line is one of printable characters that gives back what stands
in the record, its texts point by point but for surrogate pairs, and in a log it neither splits nor
merges with the lines around it. -/
theorem text_lossless (r : Record) (hl : (Nat.toDigits 10 r.level.natAbs).length ≤ 4300)
    (hn : (Nat.toDigits 10 r.line.natAbs).length ≤ 4300) :
    (r.created.natAbs ≤ 2 ^ 63 → ∃ time, timeText r.created = .ok time) ∧
    (∀ e, r.text = .error e ↔ timeText r.created = .error e) ∧
    (∀ s ∈ r.texts, s.Unpaired → readPoints s = s.map Fin.val) ∧
    ∀ time, timeText r.created = .ok time → ∃ line, r.text = .ok line ∧
      (∀ c ∈ line.toList, ' ' ≤ c ∧ c ≤ '~') ∧
      (∃ members, Denotes line.toList (.obj members) ∧
        Reader.read? line.toList = some (.obj members) ∧ r.Tells time members) ∧
      (∀ q : Record, q.text = .ok line → q.Agrees r) ∧
      ∀ before after : List String, (∀ l ∈ before ++ after, ∃ q : Record, q.text = .ok l) →
        Text.fields '\n' ((before ++ line :: after).flatMap fun l => l.toList ++ ['\n']) =
          (before ++ line :: after).map String.toList ++ [[]] := by
  refine ⟨exists_timeText, fun e => text_eq_error (short_of_digits hl) (short_of_digits hn),
    fun s _ => readPoints_unpaired, fun time ht => ?_⟩
  obtain ⟨line, written, -⟩ := exists_text (short_of_digits hl) (short_of_digits hn) ht
  refine ⟨line, written, plain_text written, read_text written ht,
    fun q hq => agrees_of_text written hq, fun before after others => fields_log ?_⟩
  intro l hl
  obtain hb | hl := List.mem_append.1 hl
  · exact others l (List.mem_append_left after hb)
  · obtain rfl | ha := List.mem_cons.1 hl
    · exact ⟨r, written⟩
    · exact others l (List.mem_append_right before ha)

def forging : Record where
  created := 1541752542123
  level := 30
  logger := "server"
  message := "😀\n\x7b\"level\": 1\x7d"
  path := "src/.main.py"
  function := none
  line := -7
  report := some {
    last := {
      kind := "ValueError"
      text := "\x00\u2028"
      trace := [⟨"main.py", some 66, "serve", some ⟨"raise error", none⟩⟩] } }

theorem forging_lossless : (Nat.toDigits 10 forging.level.natAbs).length ≤ 4300 ∧
    (Nat.toDigits 10 forging.line.natAbs).length ≤ 4300 ∧
    (∀ s ∈ forging.texts, s.Unpaired) ∧ ∃ time line members,
      timeText forging.created = .ok time ∧ forging.text = .ok line ∧
      Reader.read? line.toList = some (.obj members) ∧
      member? members "message" = some (.str [0x1f600, 0xa, 0x7b, 0x22, 0x6c, 0x65, 0x76, 0x65, 0x6c,
        0x22, 0x3a, 0x20, 0x31, 0x7d]) ∧
      ∀ q : Record, q.text = .ok line → q.Agrees forging := by
  have hl : (Nat.toDigits 10 forging.level.natAbs).length ≤ 4300 := by decide
  have hn : (Nat.toDigits 10 forging.line.natAbs).length ≤ 4300 := by decide
  obtain ⟨timed, -, -, written⟩ := text_lossless forging hl hn
  obtain ⟨time, ht⟩ := timed (by decide)
  obtain ⟨line, hline, -, ⟨members, -, read, tells⟩, agrees, -⟩ := written time ht
  have message : readPoints forging.message = [0x1f600, 0xa, 0x7b, 0x22, 0x6c, 0x65, 0x76, 0x65,
    0x6c, 0x22, 0x3a, 0x20, 0x31, 0x7d] := by decide
  exact ⟨hl, hn, by decide +kernel, time, line, members, ht, hline, read, message ▸ tells.message,
    agrees⟩

def saying (message : Points) : Record where
  created := 0
  level := 20
  logger := "l"
  message
  path := "p.py"
  function := none
  line := 1
  report := none

theorem pair_read_joined : ([0xd83d, 0xde00] : Points) ≠ [0x1f600] ∧
    (∃ line members, (saying [0xd83d, 0xde00]).text = .ok line ∧
      (saying [0x1f600]).text = .ok line ∧ Reader.read? line.toList = some (.obj members) ∧
      member? members "message" = some (.str [0x1f600])) ∧
    ¬ ∃ line, ({ saying "m" with created := 9223372036854775808000 } : Record).text = .ok line := by
  obtain ⟨time, ht⟩ := exists_timeText (show Int.natAbs 0 ≤ 2 ^ 63 by decide)
  obtain ⟨line, written, -⟩ := exists_text (r := saying [0xd83d, 0xde00])
    (short_of_digits (by decide)) (short_of_digits (by decide)) ht
  obtain ⟨members, -, read, tells⟩ := read_text written ht
  have same : (saying [0xd83d, 0xde00]).text = (saying [0x1f600]).text := by decide +kernel
  have undated : ({ saying "m" with created := 9223372036854775808000 } : Record).text =
      .error .calendar := by decide +kernel
  refine ⟨by decide, ⟨line, members, written, same.symm.trans written, read, tells.message⟩, ?_⟩
  rw [undated]
  exact nofun

end Record

end Telematics.Log
