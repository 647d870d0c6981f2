import Telematics.Proofs.Json.Text
import Telematics.Proofs.Json.Value

/-! A reader of JSON texts, one character at a time. -/

namespace Telematics.Json.Reader

/-- A list or an object to which the next value belongs; an object is waiting at the name. -/
inductive Frame where
  | items (seen : List Value)
  | members (seen : List (List Nat × Value)) (name : List Nat)

inductive Use where
  | value
  | name (seen : List (List Nat × Value))

inductive Mode where
  | value
  | name (seen : List (List Nat × Value))
  | colon (seen : List (List Nat × Value)) (name : List Nat)
  | string (use : Use) (units : List Nat)
  | escape (use : Use) (units : List Nat)
  | unit (use : Use) (units : List Nat) (digits : List Nat)
  | number (text : List Char)
  | word (rest : List Char) (value : Value)

structure State where
  mode : Mode
  frames : List Frame

def isBlank (c : Char) : Bool :=
  [' ', '\t', '\n', '\r'].contains c

def isNumberChar (c : Char) : Bool :=
  c.isDigit || ['-', '+', '.', 'e', 'E'].contains c

def number (t : List Char) : Value :=
  if t.any ['.', 'e', 'E'].contains then .decimal t
  else match t with
    | '-' :: ds => .int (-(Nat.ofDigitChars 10 ds 0 : Int))
    | ds => .int (Nat.ofDigitChars 10 ds 0)

def finished (v : Value) (frames : List Frame) : State :=
  ⟨.word [] v, frames⟩

def enter (frames : List Frame) (c : Char) : Option State :=
  if isBlank c then some ⟨.value, frames⟩
  else if c = '\x22' then some ⟨.string .value [], frames⟩
  else if c = '[' then some ⟨.value, .items [] :: frames⟩
  else if c = '\x7b' then some ⟨.name [], frames⟩
  else if c = 'n' then some ⟨.word ['u', 'l', 'l'] .null, frames⟩
  else if c = 't' then some ⟨.word ['r', 'u', 'e'] (.bool true), frames⟩
  else if c = 'f' then some ⟨.word ['a', 'l', 's', 'e'] (.bool false), frames⟩
  else if isNumberChar c then some ⟨.number [c], frames⟩
  else match c, frames with
    | ']', .items [] :: outer => some (finished (.arr []) outer)
    | _, _ => none

def proceed (v : Value) (frames : List Frame) (c : Char) : Option State :=
  if isBlank c then some (finished v frames)
  else match c, frames with
    | ',', .items seen :: outer => some ⟨.value, .items (seen ++ [v]) :: outer⟩
    | ']', .items seen :: outer => some (finished (.arr (seen ++ [v])) outer)
    | ',', .members seen name :: outer => some ⟨.name (seen ++ [(name, v)]), outer⟩
    | '\x7d', .members seen name :: outer => some (finished (.obj (seen ++ [(name, v)])) outer)
    | _, _ => none

def closed (points : List Nat) (frames : List Frame) : Use → State
  | .value => finished (.str points) frames
  | .name seen => ⟨.colon seen points, frames⟩

def step : State → Char → Option State
  | ⟨.value, frames⟩, c => enter frames c
  | ⟨.name seen, frames⟩, c =>
    if isBlank c then some ⟨.name seen, frames⟩
    else if c = '\x22' then some ⟨.string (.name seen) [], frames⟩
    else if c = '\x7d' ∧ seen.isEmpty then some (finished (.obj []) frames)
    else none
  | ⟨.colon seen name, frames⟩, c =>
    if isBlank c then some ⟨.colon seen name, frames⟩
    else if c = ':' then some ⟨.value, .members seen name :: frames⟩
    else none
  | ⟨.string use units, frames⟩, c =>
    if c = '\x22' then some (closed (joined units) frames use)
    else if c = '\\' then some ⟨.escape use units, frames⟩
    else some ⟨.string use (units ++ [c.toNat]), frames⟩
  | ⟨.escape use units, frames⟩, c =>
    if c = 'u' then some ⟨.unit use units [], frames⟩
    else (escaped? c).map fun d => ⟨.string use (units ++ [d.toNat]), frames⟩
  | ⟨.unit use units digits, frames⟩, c =>
    (Text.digitValue? 16 c).map fun d =>
      if digits.length < 3 then ⟨.unit use units (digits ++ [d]), frames⟩
      else ⟨.string use (units ++ [Numeral.ofDigits 16 (digits ++ [d])]), frames⟩
  | ⟨.number text, frames⟩, c =>
    if isNumberChar c then some ⟨.number (text ++ [c]), frames⟩
    else proceed (number text) frames c
  | ⟨.word [] v, frames⟩, c => proceed v frames c
  | ⟨.word (r :: rest) v, frames⟩, c => if c = r then some ⟨.word rest v, frames⟩ else none

def run (s : State) (t : List Char) : Option State :=
  t.foldlM step s

def finish : State → Option Value
  | ⟨.word [] v, []⟩ => some v
  | ⟨.number text, []⟩ => some (number text)
  | _ => none

def read? (t : List Char) : Option Value :=
  (run ⟨.value, []⟩ t).bind finish

variable {c : Char} {t u : List Char} {s : State} {v : Value} {frames : List Frame}

lemma run_append (s : State) (t u : List Char) :
    run s (t ++ u) = (run s t).bind fun s => run s u :=
  List.foldlM_append

lemma run_cons {r : State} (h : step s c = some r) : run s (c :: t) = run r t := by
  rw [run, List.foldlM_cons, h]
  rfl

lemma run_blanks (ht : Blanks t) (stays : ∀ c, isBlank c → step s c = some s) :
    run s t = some s := by
  induction t with
  | nil => rfl
  | cons c t ih =>
    have blank : isBlank c := List.contains_iff_mem.2 (ht c List.mem_cons_self)
    rw [run_cons (stays c blank)]
    exact ih fun d hd => ht d (List.mem_cons_of_mem c hd)

lemma not_isNumberChar_of_isBlank (h : isBlank c) : isNumberChar c = false := by
  have blank := List.contains_iff_mem.1 h
  simp only [List.mem_cons, List.not_mem_nil, or_false] at blank
  obtain rfl | rfl | rfl | rfl := blank <;> rfl

inductive Ends (v : Value) (frames : List Frame) : State → Prop
  | finished : Ends v frames (finished v frames)
  | number {text : List Char} (h : number text = v) : Ends v frames ⟨.number text, frames⟩

lemma Ends.step (h : Ends v frames s) (hc : isNumberChar c = false) :
    step s c = proceed v frames c := by
  cases h with
  | finished => rfl
  | number h => rw [Reader.step, hc, if_neg Bool.false_ne_true, h]

lemma Ends.blanks (h : Ends v frames s) (ht : Blanks t) :
    ∃ s', run s t = some s' ∧ Ends v frames s' := by
  cases t with
  | nil => exact ⟨s, rfl, h⟩
  | cons c t =>
    -- the first blank ends a number, the others change nothing
    have proceeds (c : Char) (hc : isBlank c) :
        proceed v frames c = some (Reader.finished v frames) := if_pos hc
    have blank : isBlank c := List.contains_iff_mem.2 (ht c List.mem_cons_self)
    have first := (h.step (not_isNumberChar_of_isBlank blank)).trans (proceeds c blank)
    refine ⟨_, ?_, .finished⟩
    rw [run_cons first]
    exact run_blanks (fun d hd => ht d (List.mem_cons_of_mem c hd)) proceeds

def Reads (t : List Char) (v : Value) : Prop :=
  ∀ frames, ∃ s, run ⟨.value, frames⟩ t = some s ∧ Ends v frames s

lemma Reads.padded {p : Padded} (h : Reads p.core v) : Reads p.text v := by
  intro frames
  have before : run ⟨.value, frames⟩ p.before = some ⟨.value, frames⟩ :=
    run_blanks p.before_blank fun c hc => if_pos hc
  obtain ⟨s, hs, ends⟩ := h frames
  obtain ⟨s', hs', ends'⟩ := ends.blanks p.after_blank
  refine ⟨s', ?_, ends'⟩
  rw [Padded.text, run_append, before, Option.bind_some, run_append, hs, Option.bind_some, hs']

lemma Reads.append {s : State} (h : Reads t v) (hc : isNumberChar c = false)
    (hs : proceed v frames c = some s) :
    run ⟨.value, frames⟩ (t ++ c :: u) = run s u := by
  obtain ⟨s', hs', ends⟩ := h frames
  rw [run_append, hs', Option.bind_some, run_cons ((ends.step hc).trans hs)]

/-! Strings. -/

variable {use : Use} {units ns : List Nat}

lemma step_plain (hq : c ≠ '\x22') (hb : c ≠ '\\') :
    step ⟨.string use units, frames⟩ c = some ⟨.string use (units ++ [c.toNat]), frames⟩ := by
  rw [step, if_neg hq, if_neg hb]

lemma step_escape {d : Char} (h : escaped? c = some d) :
    step ⟨.escape use units, frames⟩ c = some ⟨.string use (units ++ [d.toNat]), frames⟩ := by
  have other : c ≠ 'u' := by
    rintro rfl
    cases h
  rw [step, if_neg other, h]
  rfl

lemma run_unit {a b c d : Char} {i j k l : Nat} (ha : Text.digitValue? 16 a = some i)
    (hb : Text.digitValue? 16 b = some j) (hc : Text.digitValue? 16 c = some k)
    (hd : Text.digitValue? 16 d = some l) :
    run ⟨.unit use units [], frames⟩ (a :: b :: c :: d :: t) =
      run ⟨.string use (units ++ [Numeral.ofDigits 16 [i, j, k, l]]), frames⟩ t := by
  have next {x : Char} {n : Nat} (hx : Text.digitValue? 16 x = some n) (digits : List Nat) :
      step ⟨.unit use units digits, frames⟩ x = some
        (if digits.length < 3 then ⟨.unit use units (digits ++ [n]), frames⟩
        else ⟨.string use (units ++ [Numeral.ofDigits 16 (digits ++ [n])]), frames⟩) := by
    rw [step, hx]
    rfl
  calc run ⟨.unit use units [], frames⟩ (a :: b :: c :: d :: t)
      = run ⟨.unit use units [i], frames⟩ (b :: c :: d :: t) := run_cons (next ha [])
    _ = run ⟨.unit use units [i, j], frames⟩ (c :: d :: t) := run_cons (next hb [i])
    _ = run ⟨.unit use units [i, j, k], frames⟩ (d :: t) := run_cons (next hc [i, j])
    _ = _ := run_cons (next hd [i, j, k])

lemma run_spells (h : Spells t ns) (units : List Nat) :
    run ⟨.string use units, frames⟩ t = some ⟨.string use (units ++ ns), frames⟩ := by
  induction h generalizing units with
  | nil =>
    rw [List.append_nil]
    rfl
  | plain h hq hb _ ih =>
    rw [run_cons (step_plain hq hb), ih, List.append_assoc, List.singleton_append]
  | escape h _ ih =>
    rw [run_cons (s := ⟨.string use units, frames⟩) rfl, run_cons (step_escape h), ih,
      List.append_assoc, List.singleton_append]
  | unit ha hb hc hd _ ih =>
    rw [run_cons (s := ⟨.string use units, frames⟩) rfl,
      run_cons (s := ⟨.escape use units, frames⟩) rfl, run_unit ha hb hc hd, ih,
      List.append_assoc, List.singleton_append]

lemma run_quotes (use : Use) (h : Quotes t ns)
    (opened : step s '\x22' = some ⟨.string use [], frames⟩) :
    run s t = some (closed ns frames use) := by
  obtain ⟨spells⟩ := h
  rw [run_cons opened, run_append, run_spells spells, Option.bind_some]
  rfl

/-! Numbers. -/

lemma digits_of_integral (h : Integral t) : Digits t := by
  obtain rfl | ⟨c, r, rfl, hc, -, hr⟩ := h
  · simp [Digits]
  · exact ⟨List.cons_ne_nil c r, List.forall_mem_cons.2 ⟨hc, hr⟩⟩

lemma isNumberChar_digits (h : Digits t) : ∀ c ∈ t, isNumberChar c :=
  fun c hc => Bool.or_eq_true_iff.2 (.inl (h.2 c hc))

lemma isNumberChar_exponent (h : IsExponent t) : ∀ c ∈ t, isNumberChar c := by
  have mark {c : Char} (hc : c ∈ ['e', 'E', '+', '-']) : isNumberChar c := by
    simp only [List.mem_cons, List.not_mem_nil, or_false] at hc
    obtain rfl | rfl | rfl | rfl := hc <;> rfl
  cases h with
  | absent => simp
  | bare hc h =>
    exact List.forall_mem_cons.2 ⟨mark (List.mem_append_left ['+', '-'] hc),
      isNumberChar_digits h⟩
  | signed hc hs h =>
    exact List.forall_mem_cons.2 ⟨mark (List.mem_append_left ['+', '-'] hc),
      List.forall_mem_cons.2 ⟨mark (List.mem_append_right ['e', 'E'] hs), isNumberChar_digits h⟩⟩

lemma isNumberChar_unsigned (h : Unsigned t) : t ≠ [] ∧ ∀ c ∈ t, isNumberChar c := by
  obtain ⟨hi, hf, he⟩ := h
  have whole := digits_of_integral hi
  refine ⟨List.append_ne_nil_of_left_ne_nil whole.1 _, ?_⟩
  refine List.forall_mem_append.2 ⟨isNumberChar_digits whole, List.forall_mem_append.2 ⟨?_,
    isNumberChar_exponent he⟩⟩
  cases hf with
  | absent => simp
  | present h => exact List.forall_mem_cons.2 ⟨rfl, isNumberChar_digits h⟩

lemma isNumberChar_number (h : IsNumber t) : t ≠ [] ∧ ∀ c ∈ t, isNumberChar c := by
  cases h with
  | unsigned h => exact isNumberChar_unsigned h
  | minus h =>
    exact ⟨List.cons_ne_nil _ _, List.forall_mem_cons.2 ⟨rfl, (isNumberChar_unsigned h).2⟩⟩

lemma enter_number (h : isNumberChar c) : enter frames c = some ⟨.number [c], frames⟩ := by
  have blank : ¬ isBlank c := fun hc => by simp [not_isNumberChar_of_isBlank hc] at h
  have other : ∀ d ∈ ['\x22', '[', '\x7b', 'n', 't', 'f'], c ≠ d := by
    rintro d hd rfl
    simp only [List.mem_cons, List.not_mem_nil, or_false] at hd
    obtain rfl | rfl | rfl | rfl | rfl | rfl := hd <;> cases h
  simp only [List.forall_mem_cons] at other
  obtain ⟨h₁, h₂, h₃, h₄, h₅, h₆, -⟩ := other
  unfold enter
  rw [if_neg blank, if_neg h₁, if_neg h₂, if_neg h₃, if_neg h₄, if_neg h₅, if_neg h₆, if_pos h]

lemma run_number (h : ∀ c ∈ t, isNumberChar c) (text : List Char) :
    run ⟨.number text, frames⟩ t = some ⟨.number (text ++ t), frames⟩ := by
  induction t generalizing text with
  | nil =>
    rw [List.append_nil]
    rfl
  | cons c t ih =>
    obtain ⟨hc, ht⟩ := List.forall_mem_cons.1 h
    have next : step ⟨.number text, frames⟩ c = some ⟨.number (text ++ [c]), frames⟩ := if_pos hc
    rw [run_cons next, ih ht, List.append_assoc, List.singleton_append]

lemma reads_number (h : IsNumber t) : Reads t (number t) := by
  intro frames
  obtain ⟨filled, chars⟩ := isNumberChar_number h
  obtain ⟨c, r, rfl⟩ := List.exists_cons_of_ne_nil filled
  obtain ⟨hc, hr⟩ := List.forall_mem_cons.1 chars
  have first : step ⟨.value, frames⟩ c = some ⟨.number [c], frames⟩ := enter_number hc
  refine ⟨_, ?_, .number rfl⟩
  rw [run_cons first, run_number hr, List.singleton_append]

lemma unmarked_of_digits (h : ∀ c ∈ t, c.isDigit) : t.any ['.', 'e', 'E'].contains = false := by
  rw [List.any_eq_false]
  intro c hc mark
  have digit := h c hc
  have mark := List.contains_iff_mem.1 mark
  simp only [List.mem_cons, List.not_mem_nil, or_false] at mark
  obtain rfl | rfl | rfl := mark <;> cases digit

lemma number_integral (h : Integral t) : number t = .int (Nat.ofDigitChars 10 t 0) := by
  have digits := digits_of_integral h
  rw [number, unmarked_of_digits digits.2, if_neg Bool.false_ne_true]
  rintro ds rfl
  -- the text of a natural number starts with a digit, not with a minus sign
  exact absurd (digits.2 '-' List.mem_cons_self) (by decide)

lemma number_negative (h : Integral t) :
    number ('-' :: t) = .int (-(Nat.ofDigitChars 10 t 0 : Int)) := by
  have unmarked : ('-' :: t).any ['.', 'e', 'E'].contains = false := by
    rw [List.any_cons, unmarked_of_digits (digits_of_integral h).2]
    rfl
  rw [number, unmarked, if_neg Bool.false_ne_true]

/-! Lists and objects. -/

lemma commas_append (p q : List Char) (ps : List (List Char)) (t : List Char) :
    commas (p :: q :: ps) ++ t = p ++ ',' :: (commas (q :: ps) ++ t) :=
  List.append_assoc p _ t

lemma run_items {items : List (Padded × Value)} (filled : items ≠ [])
    (h : ∀ x ∈ items, Reads x.1.core x.2) (seen : List Value) :
    run ⟨.value, .items seen :: frames⟩ (commas (items.map (·.1.text)) ++ [']']) =
      some (finished (.arr (seen ++ items.map (·.2))) frames) := by
  -- induction on the items, whatever stands before them
  induction items generalizing seen with
  | nil => exact absurd rfl filled
  | cons x items ih =>
    obtain ⟨hx, rest⟩ := List.forall_mem_cons.1 h
    cases items with
    | nil => exact hx.padded.append (s := finished (.arr (seen ++ [x.2])) frames) rfl rfl
    | cons y items =>
      have following := ih (List.cons_ne_nil y items) rest (seen ++ [x.2])
      rw [List.append_assoc] at following
      rw [List.map_cons, List.map_cons, commas_append]
      exact (hx.padded.append (s := ⟨.value, .items (seen ++ [x.2]) :: frames⟩) rfl rfl).trans
        following

lemma run_member {m : NamedValue} (name : Quotes m.member.name.core m.points)
    (h : Reads m.member.value.core m.value) {seen : List (List Nat × Value)} {s : State}
    (hc : isNumberChar c = false)
    (hs : proceed m.value (.members seen m.points :: frames) c = some s) :
    run ⟨.name seen, frames⟩ (m.member.text ++ c :: t) = run s t := by
  have before : run ⟨.name seen, frames⟩ m.member.name.before = some ⟨.name seen, frames⟩ :=
    run_blanks m.member.name.before_blank fun c hc => if_pos hc
  have quoted : run ⟨.name seen, frames⟩ m.member.name.core =
      some ⟨.colon seen m.points, frames⟩ := run_quotes (.name seen) name rfl
  have after : run ⟨.colon seen m.points, frames⟩ m.member.name.after =
      some ⟨.colon seen m.points, frames⟩ :=
    run_blanks m.member.name.after_blank fun c hc => if_pos hc
  rw [Member.text, Padded.text, List.append_assoc, List.append_assoc, List.append_assoc,
    run_append, before, Option.bind_some, run_append, quoted, Option.bind_some, run_append, after,
    Option.bind_some, List.cons_append, run_cons (s := ⟨.colon seen m.points, frames⟩) rfl]
  exact h.padded.append hc hs

lemma run_members {members : List NamedValue} (filled : members ≠ [])
    (names : ∀ m ∈ members, Quotes m.member.name.core m.points)
    (h : ∀ m ∈ members, Reads m.member.value.core m.value) (seen : List (List Nat × Value)) :
    run ⟨.name seen, frames⟩ (commas (members.map (·.member.text)) ++ ['\x7d']) =
      some (finished (.obj (seen ++ members.map fun m => (m.points, m.value))) frames) := by
  induction members generalizing seen with
  | nil => exact absurd rfl filled
  | cons m members ih =>
    obtain ⟨name, names⟩ := List.forall_mem_cons.1 names
    obtain ⟨hm, rest⟩ := List.forall_mem_cons.1 h
    cases members with
    | nil => exact run_member name hm (s := finished (.obj (seen ++ [_])) frames) rfl rfl
    | cons n members =>
      have following := ih (List.cons_ne_nil n members) names rest (seen ++ [(m.points, m.value)])
      rw [List.append_assoc] at following
      rw [List.map_cons, List.map_cons, commas_append]
      exact (run_member name hm (s := ⟨.name (seen ++ [_]), frames⟩) rfl rfl).trans following

/-! Texts. -/

lemma reads_of_finished (h : ∀ frames, run ⟨.value, frames⟩ t = some (finished v frames)) :
    Reads t v :=
  fun frames => ⟨_, h frames, .finished⟩

theorem reads_of_denotes (h : Denotes t v) : Reads t v := by
  induction h with
  | null | true | false => exact reads_of_finished fun frames => rfl
  | integer h =>
    rw [← number_integral h]
    exact reads_number (.unsigned (unsigned_integral h))
  | negative h =>
    rw [← number_negative h]
    exact reads_number (.minus (unsigned_integral h))
  | @decimal t h mark =>
    have decimal : number t = .decimal t := by
      obtain ⟨c, hc, mark⟩ := mark
      exact if_pos (List.any_eq_true.2 ⟨c, hc, List.contains_iff_mem.2 mark⟩)
    rw [← decimal]
    exact reads_number h
  | string h =>
    exact reads_of_finished fun frames => run_quotes .value h rfl
  | emptyArray h =>
    refine reads_of_finished fun frames => ?_
    have blanks := run_blanks (s := ⟨.value, .items [] :: frames⟩) h fun c hc => if_pos hc
    rw [run_cons (r := ⟨.value, .items [] :: frames⟩) rfl, run_append, blanks]
    rfl
  | array items filled h ih =>
    exact reads_of_finished fun frames => run_items filled ih []
  | emptyObject h =>
    refine reads_of_finished fun frames => ?_
    have blanks := run_blanks (s := ⟨.name [], frames⟩) h fun c hc => if_pos hc
    rw [run_cons (r := ⟨.name [], frames⟩) rfl, run_append, blanks]
    rfl
  | object members filled names h ih =>
    exact reads_of_finished fun frames => run_members filled names ih []

theorem read?_of_denotes {p : Padded} (h : Denotes p.core v) : read? p.text = some v := by
  obtain ⟨s, hs, ends⟩ := (reads_of_denotes h).padded []
  rw [read?, hs, Option.bind_some]
  cases ends with
  | finished => rfl
  | number h => exact congrArg some h

theorem read?_chars? {j : Json} {cs : List Char} (hc : j.chars? = some cs)
    (hf : ∀ x ∈ j.floats, x.isFinite) : read? cs = some j.seen := by
  have read := read?_of_denotes (p := .bare cs) (denotes_chars? hc hf)
  rwa [bare_text] at read

theorem denotes_unique {w : Value} (hv : Denotes t v) (hw : Denotes t w) : v = w := by
  have first := read?_of_denotes (p := .bare t) hv
  rw [read?_of_denotes (p := .bare t) hw] at first
  exact (Option.some.inj first).symm

theorem isSome_read?_of_isText (h : IsText t) : (read? t).isSome := by
  obtain ⟨p, hp, rfl⟩ := h
  obtain ⟨v, hv⟩ := isValue_iff.1 hp
  rw [read?_of_denotes hv]
  rfl

end Telematics.Json.Reader
