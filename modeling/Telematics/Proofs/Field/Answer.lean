import Mathlib.Algebra.Ring.Int.Defs
import Telematics.Proofs.Network

/-! What the decoders of fields answer, whatever the text. -/

namespace Telematics

namespace Field

variable {ε α β : Type} {kind : ε → Prop} {name s : String} {subjects more : List (String × String)}

def Answers (kind : ε → Prop) (x : Except ε α) : Prop :=
  (∃ a, x = .ok a) ∨ ∃ e, x = .error e ∧ kind e

/-- The error is about one of these fields, each with the text that was to be converted. -/
def About (subjects : List (String × String)) (e : ConversionError) : Prop :=
  ∃ subject ∈ subjects, e.field = subject.1 ∧ e.token = some subject.2

lemma Answers.bind {x : Except ε α} {f : α → Except ε β} (hx : Answers kind x)
    (hf : ∀ a, x = .ok a → Answers kind (f a)) : Answers kind (x >>= f) := by
  obtain ⟨a, ha⟩ | ⟨e, he, he'⟩ := hx
  · obtain ⟨b, hb⟩ | ⟨e, he, he'⟩ := hf a ha
    · exact .inl ⟨b, bind_eq_ok.2 ⟨a, ha, hb⟩⟩
    · exact .inr ⟨e, bind_eq_error.2 (.inr ⟨a, ha, he⟩), he'⟩
  · exact .inr ⟨e, bind_eq_error.2 (.inl he), he'⟩

lemma Answers.mono {kind' : ε → Prop} {x : Except ε α} (hx : Answers kind x)
    (h : ∀ e, kind e → kind' e) : Answers kind' x :=
  hx.imp_right fun ⟨e, he, he'⟩ => ⟨e, he, h e he'⟩

lemma About.mono {e : ConversionError} (h : About subjects e) (hs : subjects ⊆ more) :
    About more e := by
  obtain ⟨subject, hm, he⟩ := h
  exact ⟨subject, hs hm, he⟩

lemma about_self (name s : String) (reason : Option Reason) :
    About [(name, s)] ⟨name, some s, reason⟩ :=
  ⟨(name, s), List.mem_singleton_self _, rfl, rfl⟩

lemma answers_convert (read : String → Option α) (name s : String) :
    Answers (About [(name, s)]) (convert read name (some s)) := by
  rw [convert, Option.bind_some]
  cases read s with
  | some a => exact .inl ⟨a, rfl⟩
  | none => exact .inr ⟨_, rfl, about_self name s none⟩

lemma answers_refuse (name s : String) (reason : Reason) :
    Answers (About [(name, s)]) (refuse name (some s) reason : Result α) :=
  .inr ⟨_, rfl, about_self name s (some reason)⟩

lemma answers_binary (name s : String) : Answers (About [(name, s)]) (binary name (some s)) := by
  unfold binary
  split
  · exact answers_refuse name s .binaryDigits
  · exact answers_refuse name s .binaryDigits
  · exact answers_refuse name s .binaryDigits
  · exact answers_convert _ name s

lemma answers_flag (name s : String) : Answers (About [(name, s)]) (flag name (some s)) :=
  (answers_convert _ name s).bind fun _ _ => .inl ⟨_, rfl⟩

lemma answers_degrees (name negative : String) (limit : Nat) (s : String)
    (hemisphere : Option String) :
    Answers (About [(name, s)]) (degrees name negative limit (some s) hemisphere) := by
  refine (answers_convert _ name s).bind fun x _ => ?_
  split_ifs
  · exact answers_refuse name s (.aboveLimit limit)
  · exact .inl ⟨_, rfl⟩
  · exact .inl ⟨_, rfl⟩

def cellSubjects (tokens : List String) : List (String × String) :=
  ("network", Network.joined tokens) ::
    Network.conversions.map fun c => (c.field, tokens.getD c.place "")

lemma answers_ofTokens (tokens : List String) :
    Answers (About (cellSubjects tokens)) (Network.ofTokens tokens) := by
  by_cases count : tokens.length = Network.tokenCount
  · rw [Network.ofTokens_eq count, Network.outcome]
    cases failing : Network.firstFailing? tokens Network.conversions with
    | none => exact .inl ⟨_, rfl⟩
    | some c =>
      have inside : ∀ c ∈ Network.conversions, c.place < tokens.length := by
        rw [count]
        decide
      have hc := List.mem_of_find?_eq_some failing
      have listed := List.mem_map_of_mem (f := fun c => (c.field, tokens.getD c.place "")) hc
      refine .inr ⟨_, rfl, _, List.mem_cons_of_mem _ listed, rfl, ?_⟩
      exact Network.getElem?_getD (inside c hc)
  · rw [Network.ofTokens_of_length_ne count]
    exact .inr ⟨_, rfl, _, List.mem_cons_self, rfl, rfl⟩

def timeSubjects (day month year hour minute second : String) : List (String × String) :=
  [("year", year), ("month", month), ("day", day), ("hour", hour), ("minute", minute),
    ("second", second), ("time", day ++ month ++ year ++ " " ++ hour ++ minute ++ second)]

def converts (kind : ConversionError → Prop) (e : TimeError) : Prop :=
  ∃ c, e = .conversion c ∧ kind c

/-- The six parts are integers, and one of them, with the year in full, has more than 32 bits. -/
def Overflows (day month year hour minute second : String) : Prop :=
  ∃ y mo d h mi s : Int, Numeral.integer? 10 year = some y ∧ Numeral.integer? 10 month = some mo ∧
    Numeral.integer? 10 day = some d ∧ Numeral.integer? 10 hour = some h ∧
    Numeral.integer? 10 minute = some mi ∧ Numeral.integer? 10 second = some s ∧
    ∃ n ∈ [fullYear (some year) y, mo, d, h, mi, s], n < -2 ^ 31 ∨ 2 ^ 31 ≤ n

lemma all_fitsWord_iff {ns : List Int} :
    ns.all fitsWord ↔ ¬ ∃ n ∈ ns, n < -2 ^ 31 ∨ 2 ^ 31 ≤ n := by
  rw [List.all_eq_true, not_exists]
  refine forall_congr' fun n => ?_
  rw [not_and, fitsWord, Bool.and_eq_true, decide_eq_true_eq, decide_eq_true_eq]
  refine imp_congr_right fun _ => ?_
  omega

lemma part_eq_ok {n : Int} : part name (some s) = .ok n ↔ Numeral.integer? 10 s = some n := by
  rw [part, integer, convert, Option.bind_some]
  cases Numeral.integer? 10 s with
  | none => simp [Except.mapError]
  | some m => simp [Except.mapError]

lemma answers_part (hn : (name, s) ∈ subjects) :
    Answers (converts (About subjects)) (part name (some s)) := by
  rw [part]
  obtain ⟨n, hn⟩ | ⟨e, he, about⟩ := answers_convert (Numeral.integer? 10) name s
  · exact .inl ⟨n, by rw [integer, hn]; rfl⟩
  · refine .inr ⟨.conversion e, by rw [integer, he]; rfl, e, rfl, about.mono ?_⟩
    simpa using hn

lemma answers_time {day month year hour minute second : String}
    (fits : ¬ Overflows day month year hour minute second) :
    Answers (converts (About (timeSubjects day month year hour minute second)))
      (time (some day) (some month) (some year) (some hour) (some minute) (some second)) := by
  refine (answers_part (by simp [timeSubjects])).bind fun y hy => ?_
  refine (answers_part (by simp [timeSubjects])).bind fun mo hmo => ?_
  refine (answers_part (by simp [timeSubjects])).bind fun d hd => ?_
  refine (answers_part (by simp [timeSubjects])).bind fun h hh => ?_
  refine (answers_part (by simp [timeSubjects])).bind fun mi hmi => ?_
  refine (answers_part (by simp [timeSubjects])).bind fun s hs => ?_
  have words : [fullYear (some year) y, mo, d, h, mi, s].all fitsWord := by
    rw [all_fitsWord_iff]
    exact fun beyond => fits ⟨y, mo, d, h, mi, s, part_eq_ok.1 hy, part_eq_ok.1 hmo,
      part_eq_ok.1 hd, part_eq_ok.1 hh, part_eq_ok.1 hmi, part_eq_ok.1 hs, beyond⟩
  rw [if_pos words]
  cases Timestamp.ofParts (fullYear (some year) y) mo d h mi s with
  | ok t => exact .inl ⟨t, rfl⟩
  | error defect =>
    refine .inr ⟨_, rfl, _, rfl,
      ("time", day ++ month ++ year ++ " " ++ hour ++ minute ++ second), ?_, rfl, ?_⟩
    · simp [timeSubjects]
    · simp [String.join]

lemma time_of_overflow {day month year hour minute second : String}
    (h : Overflows day month year hour minute second) :
    time (some day) (some month) (some year) (some hour) (some minute) (some second) =
      .error .tooLarge := by
  obtain ⟨y, mo, d, h, mi, s, hy, hmo, hd, hh, hmi, hs, beyond⟩ := h
  have words : ¬ [fullYear (some year) y, mo, d, h, mi, s].all fitsWord := by
    rw [all_fitsWord_iff]
    exact not_not_intro beyond
  rw [time, part_eq_ok.2 hy, part_eq_ok.2 hmo, part_eq_ok.2 hd, part_eq_ok.2 hh, part_eq_ok.2 hmi,
    part_eq_ok.2 hs]
  exact if_neg words

/-- The decoders answer any text with a value or a conversion error about their field. The only other
error is that of a date with a part beyond 32 bits. -/
theorem decoders_answer (name s : String) (hemisphere : Option String) (tokens : List String)
    (day month year hour minute second : String) :
    Answers (About [(name, s)]) (integer name (some s)) ∧
    Answers (About [(name, s)]) (decimal name (some s)) ∧
    Answers (About [(name, s)]) (hexadecimal name (some s)) ∧
    Answers (About [(name, s)]) (binary name (some s)) ∧
    Answers (About [(name, s)]) (flag name (some s)) ∧
    Answers (About [("latitude", s)]) (latitude (some s) hemisphere) ∧
    Answers (About [("longitude", s)]) (longitude (some s) hemisphere) ∧
    Answers (About (cellSubjects tokens)) (Network.ofTokens tokens) ∧
    (¬ Overflows day month year hour minute second →
      Answers (converts (About (timeSubjects day month year hour minute second)))
        (time (some day) (some month) (some year) (some hour) (some minute) (some second))) ∧
    (Overflows day month year hour minute second →
      time (some day) (some month) (some year) (some hour) (some minute) (some second) =
        .error .tooLarge) :=
  ⟨answers_convert _ name s, answers_convert _ name s, answers_convert _ name s,
    answers_binary name s, answers_flag name s, answers_degrees _ _ _ s hemisphere,
    answers_degrees _ _ _ s hemisphere, answers_ofTokens tokens, answers_time, time_of_overflow⟩

theorem time_of_long_year : time (some "09") (some "11") (some "99999999999") (some "08")
    (some "35") (some "42") = .error .tooLarge := by
  decide

end Field

end Telematics
