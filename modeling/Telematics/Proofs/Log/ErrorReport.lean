import Telematics.Log.ErrorReport
import Telematics.Proofs.Json.Surrogate

namespace Telematics.Log

open Json

variable {s t : Points} {p : CodePoint}

def Ended (s : Points) : Prop :=
  ∀ p ∈ s.getLast?, p = ErrorReport.newline

lemma Ended.nil : Ended [] := nofun

lemma ended_lineOf (s : Points) : Ended (lineOf s) := by
  intro p hp
  rw [Option.mem_def, lineOf, List.getLast?_append] at hp
  exact (Option.some.inj hp).symm

lemma Ended.append (hs : Ended s) (ht : Ended t) : Ended (s ++ t) := by
  intro p hp
  rw [Option.mem_def, List.getLast?_append, Option.or_eq_some_iff] at hp
  obtain hp | ⟨-, hp⟩ := hp
  · exact ht p hp
  · exact hs p hp

lemma Ended.flatMap {α : Type} {f : α → Points} (h : ∀ a, Ended (f a)) (l : List α) :
    Ended (l.flatMap f) := by
  induction l with
  | nil => exact .nil
  | cons a l ih => exact (h a).append ih

lemma Ended.readPoints_append (hs : Ended s) (t : Points) :
    readPoints (s ++ t) = readPoints s ++ readPoints t := by
  apply Json.readPoints_append
  intro p hp high
  rw [hs p hp] at high
  cases high

namespace Frame

lemma ended_source (s : SourceLine) : Ended s.shown := by
  rw [SourceLine.shown]
  cases s.marks with
  | none => exact (ended_lineOf _).append .nil
  | some marks => exact (ended_lineOf _).append (ended_lineOf _)

lemma ended_shown (f : Frame) : Ended f.shown := by
  rw [shown]
  cases f.source with
  | none => exact (ended_lineOf _).append .nil
  | some s => exact (ended_lineOf _).append (ended_source s)

lemma ended_shownRun (run : List Frame) : Ended (shownRun run) := by
  rw [shownRun]
  apply (Ended.flatMap ended_shown _).append
  by_cases few : run.length ≤ 3
  · rw [if_pos few]
    exact .nil
  · rw [if_neg few]
    exact ended_lineOf _

lemma ended_shownTrace (trace : List Frame) : Ended (shownTrace trace) := by
  rw [shownTrace]
  split_ifs with empty
  · exact .nil
  · exact (ended_lineOf _).append (.flatMap ended_shownRun _)

end Frame

lemma RaisedError.ended_shown (e : RaisedError) : Ended e.shown :=
  ((Frame.ended_shownTrace _).append (ended_lineOf _)).append (.flatMap ended_lineOf _)

lemma Link.ended_shown (link : Link) : Ended link.shown :=
  ((ended_lineOf _).append (ended_lineOf _)).append (ended_lineOf _)

lemma readPoints_kind_ne (kind : String) (ns : List Nat) :
    readPoints kind ≠ readPoints (kind ++ ": " : String) ++ ns := by
  intro same
  rw [readPoints_ofString, readPoints_ofString, points, points, String.toList_append,
    List.map_append, List.append_assoc, List.self_eq_append_right] at same
  cases same

lemma RaisedError.readPoints_summary (e : RaisedError) : readPoints e.summary =
    if e.text.isEmpty then readPoints e.kind
    else readPoints (e.kind ++ ": " : String) ++ readPoints e.text := by
  rw [summary]
  split_ifs with empty
  · rfl
  · have whole : Points.ofString e.kind ++ Points.ofString ": " =
        Points.ofString (e.kind ++ ": ") := by
      simp only [Points.ofString, String.toList_append, List.map_append]
    rw [whole]
    apply readPoints_append
    intro p hp high
    rw [← whole, Option.mem_def, List.getLast?_append] at hp
    obtain rfl := Option.some.inj hp
    cases high

namespace ErrorReport

variable {r : ErrorReport}

def retold (r : ErrorReport) (text : Points) : ErrorReport :=
  { r with last := { r.last with text } }

def before (r : ErrorReport) : Points :=
  (r.earlier.flatMap fun e => e.1.shown ++ e.2.shown) ++ Frame.shownTrace r.last.trace

def ending (r : ErrorReport) : Points :=
  lineOf [] ++ r.last.notes.flatMap lineOf

lemma ended_before (r : ErrorReport) : Ended r.before :=
  (Ended.flatMap (fun e => e.1.ended_shown.append e.2.ended_shown) _).append
    (Frame.ended_shownTrace _)

lemma ending_ne_nil (r : ErrorReport) : r.ending ≠ [] :=
  List.append_ne_nil_of_left_ne_nil (List.cons_ne_nil _ _) _

lemma getLast?_ending (r : ErrorReport) : r.ending.getLast? = some newline := by
  have ended : Ended r.ending := (ended_lineOf []).append (.flatMap ended_lineOf _)
  have last := List.getLast?_eq_some_getLast r.ending_ne_nil
  rw [last, ended _ last]

lemma head?_ending (r : ErrorReport) : ∀ p ∈ r.ending.dropLast.head?, p = newline := by
  intro p hp
  rw [ending] at hp
  cases hn : r.last.notes.flatMap lineOf with
  | nil =>
    rw [hn] at hp
    cases hp
  | cons q ps =>
    rw [hn] at hp
    exact (Option.some.inj hp).symm

lemma full_eq (r : ErrorReport) : r.full = r.before ++ r.last.summary ++ r.ending := by
  simp only [full, before, ending, RaisedError.shown, lineOf, List.append_assoc, List.nil_append]

lemma shown_eq (r : ErrorReport) :
    r.shown = r.before ++ (r.last.summary ++ r.ending.dropLast) := by
  have last : r.full.getLast? = some newline := by
    rw [full_eq, List.getLast?_append, getLast?_ending]
    rfl
  rw [shown, if_pos last, full_eq, List.dropLast_append_of_ne_nil r.ending_ne_nil,
    List.append_assoc]

lemma readPoints_shown (r : ErrorReport) : readPoints r.shown =
    readPoints r.before ++ (readPoints r.last.summary ++ readPoints r.ending.dropLast) := by
  rw [shown_eq, r.ended_before.readPoints_append, Json.readPoints_append]
  intro p _ _ q hq
  rw [r.head?_ending q hq]
  rfl

theorem readPoints_text {text : Points}
    (h : readPoints (r.retold text).shown = readPoints r.shown) :
    readPoints text = readPoints r.last.text := by
  have summary : readPoints (r.retold text).last.summary = readPoints r.last.summary := by
    rw [readPoints_shown, readPoints_shown] at h
    exact List.append_cancel_right (List.append_cancel_left h)
  rw [RaisedError.readPoints_summary, RaisedError.readPoints_summary] at summary
  cases text with
  | nil =>
    cases ht : r.last.text with
    | nil => rfl
    | cons q t =>
      rw [ht] at summary
      exact absurd summary (readPoints_kind_ne _ _)
  | cons p s =>
    cases ht : r.last.text with
    | nil =>
      rw [ht] at summary
      exact absurd summary.symm (readPoints_kind_ne _ _)
    | cons q t =>
      rw [ht] at summary
      exact List.append_cancel_left summary

end ErrorReport

end Telematics.Log
