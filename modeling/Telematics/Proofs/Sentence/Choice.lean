import Telematics.Proofs.Sentence.Wording

/-! Which alternatives of the grammar come first. -/

namespace Telematics.Sentence.Draft

open Grammar Pattern Text

variable {p q : Pattern} {v : Captures} {x : Captures × List Char} {s t k : List Char} {n : Nat}
  {a : Char → Bool}

lemma starts_of_preferred? (h : p.preferred? s = some x) : p.Starts s := by
  by_contra hs
  rw [preferred?_eq_none.2 hs] at h
  simp at h

lemma preferred?_optional (h : p.preferred? s = some x) :
    (Pattern.optional p).preferred? s = some x := by
  rw [Pattern.optional, preferred?_alt, h]
  simp [blanks, width]

lemma preferred?_optional_absent (h : ¬ p.Starts s) :
    (Pattern.optional p).preferred? s = some (p.blanks, s) := by
  rw [Pattern.optional, preferred?_alt, preferred?_eq_none.2 h]
  simp [preferred?, readings, Reading.captures]

lemma starts_optional (p : Pattern) (s : List Char) : (Pattern.optional p).Starts s :=
  starts_alt.2 (.inr (Matches.empty.starts s))

/-! Digits. -/

lemma matches_several : (several a).Matches v t ↔ v = [] ∧ t ≠ [] ∧ ∀ c ∈ t, a c := by
  constructor
  · intro h
    obtain ⟨_, _, _, u, h₁, h₂, rfl, rfl⟩ := matches_seq.1 h
    obtain ⟨rfl, c, hc, rfl⟩ := matches_one.1 h₁
    obtain ⟨rfl, hu⟩ := matches_many.1 h₂
    exact ⟨rfl, by simp, by simpa [hc] using hu⟩
  · rintro ⟨rfl, ht, h⟩
    obtain ⟨c, t, rfl⟩ := List.exists_cons_of_ne_nil ht
    have hc := h c List.mem_cons_self
    exact .seq (.one hc) (.many fun d hd => h d (List.mem_cons_of_mem c hd))

lemma matches_digits : digits.Matches v t ↔ v = [] ∧ t ≠ [] ∧ ∀ c ∈ t, isDecimalDigit c :=
  matches_several

lemma matches_times_one : (times n (one a)).Matches v t ↔
    v = [] ∧ t.length = n ∧ ∀ c ∈ t, a c := by
  have single : ∀ {v : Captures} {t : List Char}, (one a).Matches v t ↔
      v = [] ∧ t.length = 1 ∧ ∀ c ∈ t, a c := by
    intro v t
    rw [matches_one, List.length_eq_one_iff]
    constructor
    · rintro ⟨rfl, c, hc, rfl⟩
      exact ⟨rfl, ⟨c, rfl⟩, by simpa using hc⟩
    · rintro ⟨rfl, ⟨c, rfl⟩, h⟩
      exact ⟨rfl, c, h c List.mem_cons_self, rfl⟩
  induction n generalizing v t with
  | zero =>
    rw [times, matches_empty, List.length_eq_zero_iff]
    constructor
    · rintro ⟨rfl, rfl⟩
      exact ⟨rfl, rfl, by simp⟩
    · rintro ⟨rfl, rfl, -⟩
      exact ⟨rfl, rfl⟩
  | succ n ih =>
    cases n with
    | zero => exact single
    | succ n =>
      change (one a ++ times (n + 1) (one a)).Matches v t ↔ _
      rw [matches_seq]
      constructor
      · rintro ⟨_, _, t₁, t₂, h₁, h₂, rfl, rfl⟩
        obtain ⟨rfl, hl₁, hd₁⟩ := single.1 h₁
        obtain ⟨rfl, hl₂, hd₂⟩ := ih.1 h₂
        refine ⟨rfl, by rw [List.length_append, hl₁, hl₂, Nat.add_comm], ?_⟩
        intro c hc
        exact (List.mem_append.1 hc).elim (hd₁ c) (hd₂ c)
      · rintro ⟨rfl, hl, hd⟩
        obtain ⟨c, t, rfl⟩ := List.exists_cons_of_length_eq_add_one hl
        refine ⟨[], [], [c], t, single.2 ⟨rfl, rfl, ?_⟩, ih.2 ⟨rfl, by simpa using hl, ?_⟩,
          rfl, rfl⟩
        · simpa using hd c List.mem_cons_self
        · exact fun d hd' => hd d (List.mem_cons_of_mem c hd')

lemma matches_fixedDigits : (fixedDigits n).Matches v t ↔
    v = [] ∧ t.length = n ∧ ∀ c ∈ t, isDecimalDigit c :=
  matches_times_one

lemma decimal_of_fraction (h : fraction.Matches v t) : decimal.Matches [] t := by
  obtain ⟨_, _, _, _, h₁, h₂, rfl, rfl⟩ := matches_seq.1 h
  obtain ⟨_, _, _, _, hw, hp, rfl, rfl⟩ := matches_seq.1 h₁
  obtain ⟨rfl, -, -⟩ := matches_digits.1 hw
  obtain ⟨rfl, c, hc, rfl⟩ := matches_one.1 hp
  obtain ⟨rfl, -, hd⟩ := matches_digits.1 h₂
  rw [List.append_assoc]
  exact .seq hw (.left (.seq (.one hc) (.many hd)))

/-! The trailer. -/

def Trailer.Ends : Trailer → List Char → Prop
  | rich _ _ _ none, k => ¬ Grammar.extended.Starts k
  | rich _ _ _ (some e), k => e.analog = none → ¬ Grammar.analog.Starts k
  | simple altitude _, k => '-' ∉ altitude.1 → ¬ (kept digits).Starts k

lemma richTrailer_starts_simple {altitude : Token (Pattern.optional (literal '-') ++ fraction)}
    {speed : Token fraction} : richTrailer.Starts ((Trailer.simple altitude speed).text ++ k) ↔
      '-' ∉ altitude.1 ∧ (kept digits).Starts k := by
  have hs : (kept decimal).Matches [some speed.1] (field speed.1) :=
    (matches_kept rfl).2 ⟨⟨speed.1, decimal_of_fraction speed.2⟩, rfl, rfl⟩
  have base : richTrailer.Starts ((Trailer.simple altitude speed).text ++ k) ↔
      richBase.Starts ((Trailer.simple altitude speed).text ++ k) := by
    change (richBase ++ Pattern.optional Grammar.extended).Starts _ ↔ _
    rw [starts_seq, starts_iff]
    simp only [starts_optional, and_true]
  rw [base]
  obtain ⟨v, _, sign, t, h₁, h₂, -, ha⟩ := matches_seq.1 altitude.2
  obtain ⟨w, h₁, -⟩ | ⟨w, h₁, -⟩ := matches_alt.1 h₁
  · obtain ⟨-, c, hc, rfl⟩ := matches_one.1 h₁
    obtain rfl := of_decide_eq_true hc
    have hm : '-' ∈ altitude.1 := by simp [ha]
    simp only [hm, not_true_eq_false, false_and, iff_false]
    intro h
    -- a rich trailer begins with a digit
    have head : richBase.Heads isDecimalDigit := ((heads_kept (heads_digits.seq _)).seq _).seq _
    obtain ⟨c, r, hr, hc⟩ := head h
    simp only [Trailer.text, field, ha, List.cons_append] at hr
    obtain ⟨rfl, -⟩ := List.cons.inj hr
    exact absurd hc (by decide)
  · obtain ⟨-, rfl⟩ := matches_empty.1 h₁
    have hd : decimal.Matches [] altitude.1 := by
      rw [ha]
      exact decimal_of_fraction h₂
    have hm : '-' ∉ altitude.1 := by
      rw [ha]
      exact h₂.avoids rfl
    simp only [hm, not_false_eq_true, true_and]
    have h₁ : (kept decimal).Matches [some altitude.1] (field altitude.1) :=
      (matches_kept rfl).2 ⟨⟨altitude.1, hd⟩, rfl, rfl⟩
    exact ((deterministic_kept rfl rfl).seq (deterministic_kept rfl rfl)).starts_seq (.seq h₁ hs)

lemma preferred?_analog {a : Option Analog} (h : a = none → ¬ Grammar.analog.Starts k) :
    (Pattern.optional Grammar.analog).preferred? (analogText a ++ k) =
      some (analogCaptures a, k) := by
  cases a with
  | some a =>
    exact preferred?_optional (deterministic_analog.preferred?_eq (matches_analog.2 ⟨a, rfl, rfl⟩))
  | none => exact preferred?_optional_absent (h rfl)

lemma preferred?_extended {e : Extended} (h : e.analog = none → ¬ Grammar.analog.Starts k) :
    Grammar.extended.preferred? (e.text ++ k) = some (e.captures, k) := by
  change (extendedBase ++ Pattern.optional Grammar.analog).preferred? _ = _
  rw [Extended.text, List.append_assoc,
    deterministic_extendedBase.preferred?_seq (matches_extendedBase.2 ⟨e, rfl, rfl⟩),
    preferred?_analog h]
  rfl

lemma preferred?_trailer {b : Trailer} (h : b.Ends k) :
    trailer.preferred? (b.text ++ k) = some (b.captures, k) := by
  rw [trailer, preferred?_alt]
  cases b with
  | rich speed course satellites e =>
    have rest : (Pattern.optional Grammar.extended).preferred? (extendedText e ++ k) =
        some (extendedCaptures e, k) := by
      cases e with
      | some e => exact preferred?_optional (preferred?_extended h)
      | none => exact preferred?_optional_absent h
    have rich : richTrailer.preferred? ((Trailer.rich speed course satellites e).text ++ k) =
        some ([some speed.1, some course.1, some satellites.1] ++ extendedCaptures e, k) := by
      change (richBase ++ Pattern.optional Grammar.extended).preferred? _ = _
      rw [Trailer.text, List.append_assoc, deterministic_richBase.preferred?_seq
        (matches_richBase.2 ⟨speed, course, satellites, rfl, rfl⟩), rest]
      rfl
    rw [rich]
    rfl
  | simple altitude speed =>
    have notRich : ¬ richTrailer.Starts ((Trailer.simple altitude speed).text ++ k) :=
      fun hr => h (richTrailer_starts_simple.1 hr).1 (richTrailer_starts_simple.1 hr).2
    rw [preferred?_eq_none.2 notRich, deterministic_simpleTrailer.preferred?_eq
      (matches_simpleTrailer.2 ⟨altitude, speed, rfl, rfl⟩)]
    rfl

lemma exists_trailer (h : trailer.Starts s) : ∃ b k, s = Trailer.text b ++ k ∧ b.Ends k := by
  by_cases hr : richTrailer.Starts s
  · obtain ⟨_, _, r, hb, rfl, -⟩ := starts_seq.1 hr
    obtain ⟨speed, course, satellites, -, rfl⟩ := matches_richBase.1 hb
    by_cases he : Grammar.extended.Starts r
    · obtain ⟨_, _, k, hm, rfl, -⟩ := starts_seq.1 he
      obtain ⟨e, -, rfl⟩ := matches_extendedBase.1 hm
      by_cases ha : Grammar.analog.Starts k
      · obtain ⟨_, _, k, hm, rfl⟩ := starts_iff.1 ha
        obtain ⟨a, -, rfl⟩ := matches_analog.1 hm
        refine ⟨.rich speed course satellites (some { e with analog := some a }), k, ?_, ?_⟩
        · simp [Trailer.text, extendedText, Extended.text, analogText, Extended.baseText]
        · intro h
          simp at h
      · refine ⟨.rich speed course satellites (some { e with analog := none }), k, ?_, fun _ => ha⟩
        simp [Trailer.text, extendedText, Extended.text, analogText, Extended.baseText]
    · refine ⟨.rich speed course satellites none, r, ?_, he⟩
      simp [Trailer.text, extendedText]
  · have hs := (starts_alt.1 h).resolve_left hr
    obtain ⟨_, _, k, hm, rfl⟩ := starts_iff.1 hs
    obtain ⟨altitude, speed, -, rfl⟩ := matches_simpleTrailer.1 hm
    refine ⟨.simple altitude speed, k, rfl, fun ha hk => ?_⟩
    exact hr (richTrailer_starts_simple.2 ⟨ha, hk⟩)

/-! The identity. -/

def afterIdentity : Pattern :=
  date ++ (timeOfDay ++ (Grammar.fix ++ trailer))

def afterIdentifier : Pattern :=
  Grammar.identity ++ afterIdentity

def afterHeader : Pattern :=
  kept (fixedDigits 15) ++ afterIdentifier

/-- An empty registration and its digit are two characters, a status. -/
def Identity.Distinct : Identity → Prop
  | status _ => True
  | validity registration _ => registration.1 ≠ []

lemma remainder_text_append (m : Remainder) (k : List Char) :
    m.text ++ k = m.date.text ++ (m.clock.text ++ (m.fix.text ++ (m.trailer.text ++ k))) := by
  simp [Remainder.text, Remainder.fixText]

lemma preferred?_remainder {m : Remainder} (h : m.trailer.Ends k) :
    afterIdentity.preferred? (m.text ++ k) = some (m.captures, k) := by
  rw [remainder_text_append, afterIdentity,
    deterministic_date.preferred?_seq (matches_date.2 ⟨m.date, rfl, rfl⟩),
    deterministic_timeOfDay.preferred?_seq (matches_timeOfDay.2 ⟨m.clock, rfl, rfl⟩),
    deterministic_fix.preferred?_seq (matches_fix.2 ⟨m.fix, rfl, rfl⟩), preferred?_trailer h]
  simp [Remainder.captures]

lemma exists_remainder (h : afterIdentity.Starts s) :
    ∃ m k, s = Remainder.text m ++ k ∧ m.trailer.Ends k := by
  obtain ⟨_, _, _, hd, rfl, h₁⟩ := starts_seq.1 h
  obtain ⟨_, _, _, hc, rfl, h₂⟩ := starts_seq.1 h₁
  obtain ⟨_, _, _, hf, rfl, h₃⟩ := starts_seq.1 h₂
  obtain ⟨d, -, rfl⟩ := matches_date.1 hd
  obtain ⟨c, -, rfl⟩ := matches_timeOfDay.1 hc
  obtain ⟨f, -, rfl⟩ := matches_fix.1 hf
  obtain ⟨b, k, rfl, hb⟩ := exists_trailer h₃
  exact ⟨⟨d, c, f, b⟩, k, (remainder_text_append ⟨d, c, f, b⟩ k).symm, hb⟩

lemma two_characters (code : Token twoCharacters) : ∃ a b, code.1 = [a, b] := by
  obtain ⟨-, hl, -⟩ := matches_times_one.1 code.2
  exact List.length_eq_two.1 hl

lemma bit_cases (digit : Token bit) : digit.1 = ['0'] ∨ digit.1 = ['1'] := by
  obtain ⟨-, c, hc, h⟩ := matches_oneOf.1 digit.2
  obtain rfl | hc := List.mem_cons.1 hc
  · exact .inl h
  · obtain rfl := List.mem_singleton.1 hc
    exact .inr h

lemma bit_digit (digit : Token bit) :
    ∃ c, digit.1 = [c] ∧ isDecimalDigit c ∧ c ≠ ',' ∧ c ≠ '\n' := by
  obtain h | h := bit_cases digit
  · exact ⟨'0', h, by decide⟩
  · exact ⟨'1', h, by decide⟩

lemma status_at_registration {registration : Token (many inField)} {digit : Token bit}
    (h : (kept twoCharacters ++ q).Starts (field registration.1 ++ (field digit.1 ++ k))) :
    registration.1 = [] ∧ q.Starts k ∨ q.Starts (field digit.1 ++ k) := by
  obtain ⟨_, _, r, hc, he, hq⟩ := starts_seq.1 h
  obtain ⟨code, -, rfl⟩ := (matches_kept rfl).1 hc
  obtain ⟨a, b, hab⟩ := two_characters code
  obtain ⟨c, hd, -, hcomma, -⟩ := bit_digit digit
  have plain : ',' ∉ registration.1 := registration.2.avoids rfl
  rw [hab, hd] at he
  rw [hd]
  match hr : registration.1 with
  | [] =>
    rw [hr] at he
    simp only [field, List.nil_append, List.cons_append, List.cons.injEq] at he
    exact .inl ⟨rfl, he.2.2.2 ▸ hq⟩
  | [x] =>
    rw [hr] at he
    simp only [field, List.nil_append, List.cons_append, List.cons.injEq] at he
    exact absurd he.2.2.1 hcomma
  | [x, y] =>
    rw [hr] at he
    simp only [field, List.nil_append, List.cons_append, List.cons.injEq] at he
    right
    simp only [field, List.nil_append, List.cons_append]
    exact he.2.2.2 ▸ hq
  | x :: y :: z :: l =>
    rw [hr] at he plain
    simp only [field, List.nil_append, List.cons_append, List.cons.injEq] at he
    simp [he.2.2.1] at plain

lemma not_date_at_bit {digit : Token bit} : ¬ afterIdentity.Starts (field digit.1 ++ k) := by
  intro h
  obtain ⟨m, r, hm, -⟩ := exists_remainder h
  obtain ⟨c, hd, -, -, -⟩ := bit_digit digit
  obtain ⟨-, hl, hday⟩ := matches_fixedDigits.1 m.date.day.2
  obtain ⟨a, b, hab⟩ := List.length_eq_two.1 hl
  rw [remainder_text_append, hd] at hm
  simp only [field, Date.text, hab, List.nil_append, List.cons_append, List.cons.injEq] at hm
  have hb := hday b (by simp [hab])
  rw [← hm.2.1] at hb
  exact absurd hb (by decide)

lemma exists_status_of_bit (digit : Token bit) : ∃ code : Token twoCharacters,
    code.1 = ',' :: digit.1 := by
  obtain ⟨c, hd, -, -, hc⟩ := bit_digit digit
  have first : (one (· ≠ '\n')).Matches [] [','] := .one (by decide)
  have second : (one (· ≠ '\n')).Matches [] [c] := .one (by simpa using hc)
  exact ⟨⟨[',', c], .seq first second⟩, by rw [hd]⟩

lemma status_text {registration : Token (many inField)} {digit : Token bit}
    {code : Token twoCharacters} (hr : registration.1 = []) (hc : code.1 = ',' :: digit.1) :
    (Identity.status code).text = (Identity.validity registration digit).text := by
  simp [Identity.text, field, hr, hc]

lemma status_starts_iff {i : Identity} {m : Remainder} (hm : m.trailer.Ends k) :
    (kept twoCharacters ++ afterIdentity).Starts (i.text ++ (m.text ++ k)) ↔
      i.isStatus ∨ ¬ i.Distinct := by
  have rest : afterIdentity.Starts (m.text ++ k) := starts_of_preferred? (preferred?_remainder hm)
  cases i with
  | status code =>
    simp only [Identity.isStatus, true_or, iff_true]
    exact starts_seq.2 ⟨_, _, _, (matches_kept rfl).2 ⟨code, rfl, rfl⟩, rfl, rest⟩
  | validity registration digit =>
    simp only [Identity.isStatus, Identity.Distinct, Bool.false_eq_true, false_or, not_not]
    rw [Identity.text, List.append_assoc]
    constructor
    · intro h
      obtain ⟨hr, -⟩ | hd := status_at_registration h
      · exact hr
      · exact absurd hd not_date_at_bit
    · intro hr
      obtain ⟨code, hc⟩ := exists_status_of_bit digit
      rw [← List.append_assoc, ← Identity.text, ← status_text hr hc]
      exact starts_seq.2 ⟨_, _, _, (matches_kept rfl).2 ⟨code, rfl, rfl⟩, rfl, rest⟩

lemma preferred?_identity {i : Identity} {m : Remainder} (hi : i.Distinct)
    (hm : m.trailer.Ends k) : afterIdentifier.preferred? (i.text ++ (m.text ++ k)) =
      some (i.captures ++ m.captures, k) := by
  have rest := preferred?_remainder hm
  rw [afterIdentifier, Grammar.identity]
  cases i with
  | status code =>
    rw [Identity.text, deterministic_status.preferred?_left
      ((matches_kept rfl).2 ⟨code, rfl, rfl⟩) (starts_of_preferred? rest), rest]
    rfl
  | validity registration digit =>
    have other : ¬ (kept twoCharacters ++ afterIdentity).Starts
        ((Identity.validity registration digit).text ++ (m.text ++ k)) := by
      rw [status_starts_iff hm]
      simp [Identity.isStatus, hi]
    change ((kept twoCharacters <|> registered) ++ afterIdentity).preferred? _ = _
    rw [deterministic_registered.preferred?_right
      (matches_registered.2 ⟨registration, digit, rfl, rfl⟩) other, rest]
    rfl

lemma exists_identity (h : afterIdentifier.Starts s) : ∃ i m k,
    s = Identity.text i ++ (Remainder.text m ++ k) ∧ i.Distinct ∧ m.trailer.Ends k := by
  by_cases hs : (kept twoCharacters ++ afterIdentity).Starts s
  · obtain ⟨_, _, _, hc, rfl, hr⟩ := starts_seq.1 hs
    obtain ⟨code, -, rfl⟩ := (matches_kept rfl).1 hc
    obtain ⟨m, k, rfl, hm⟩ := exists_remainder hr
    exact ⟨.status code, m, k, rfl, trivial, hm⟩
  · obtain ⟨_, _, _, hi, rfl, hr⟩ := starts_seq.1 h
    obtain ⟨_, hc, -⟩ | ⟨_, hv, -⟩ := matches_alt.1 hi
    · exact absurd (starts_seq.2 ⟨_, _, _, hc, rfl, hr⟩) hs
    · obtain ⟨registration, digit, -, rfl⟩ := matches_registered.1 hv
      obtain ⟨m, k, rfl, hm⟩ := exists_remainder hr
      refine ⟨.validity registration digit, m, k, rfl, ?_, hm⟩
      rw [status_starts_iff hm] at hs
      simpa [Identity.isStatus] using hs

/-! The header. -/

lemma inField_of_digits (h : ∀ c ∈ t, isDecimalDigit c) (ht : t ≠ []) :
    (several inField).Matches [] t := by
  have plain : ∀ c, isDecimalDigit c → inField c := by
    intro c hc
    rw [inField, decide_eq_true_eq]
    rintro rfl
    exact absurd hc (by decide)
  obtain ⟨c, t, rfl⟩ := List.exists_cons_of_ne_nil ht
  exact .seq (.one (plain c (h c List.mem_cons_self)))
    (.many fun d hd => plain d (h d (List.mem_cons_of_mem c hd)))

lemma no_history_at_digit {c : Char} {r : List Char} (hc : isDecimalDigit c) :
    ¬ (kept (oneOf ['L', 'H'])).Starts (c :: r) := by
  intro h
  have digit : (one isDecimalDigit).Starts (c :: r) := (Matches.one hc).starts r
  exact exclusive_oneOf rfl heads_one h digit

lemma no_history_behind_number {c : Char} {r : List Char} (ht : t ≠ [])
    (hd : ∀ d ∈ t, isDecimalDigit d) (hc : isDecimalDigit c) :
    ¬ (kept digits ++ kept (oneOf ['L', 'H'])).Starts (t ++ ',' :: c :: r) := by
  have number : (kept digits).Matches [some t] (field t) :=
    (matches_kept rfl).2 ⟨⟨t, matches_digits.2 ⟨rfl, ht, hd⟩⟩, rfl, rfl⟩
  have behind := (deterministic_kept rfl rfl).starts_seq (q := kept (oneOf ['L', 'H']))
    (r := c :: r) number
  rw [field] at behind
  rw [List.append_cons, behind]
  exact no_history_at_digit hc

lemma two_digits (x : Token (fixedDigits 2)) :
    ∃ a b, x.1 = [a, b] ∧ isDecimalDigit a ∧ isDecimalDigit b := by
  obtain ⟨-, hl, hd⟩ := matches_fixedDigits.1 x.2
  obtain ⟨a, b, h⟩ := List.length_eq_two.1 hl
  exact ⟨a, b, h, hd a (by simp [h]), hd b (by simp [h])⟩

lemma year_digits (x : Token (fixedDigits 4 <|> fixedDigits 2)) :
    ∃ a t, x.1 = a :: t ∧ isDecimalDigit a ∧ ∀ c ∈ t, isDecimalDigit c := by
  have filled : x.1 ≠ [] ∧ ∀ c ∈ x.1, isDecimalDigit c := by
    obtain ⟨_, h, -⟩ | ⟨_, h, -⟩ := matches_alt.1 x.2
    · obtain ⟨-, hl, hd⟩ := matches_fixedDigits.1 h
      exact ⟨fun h => by simp [h] at hl, hd⟩
    · obtain ⟨-, hl, hd⟩ := matches_fixedDigits.1 h
      exact ⟨fun h => by simp [h] at hl, hd⟩
  obtain ⟨a, t, ht⟩ := List.exists_cons_of_ne_nil filled.1
  rw [ht] at filled
  exact ⟨a, t, ht, filled.2 a List.mem_cons_self, fun c hc => filled.2 c (.tail a hc)⟩

lemma no_history_in_date {m : Remainder} :
    ¬ (kept digits ++ kept (oneOf ['L', 'H'])).Starts (m.text ++ k) := by
  obtain ⟨a, b, hday, ha, hb⟩ := two_digits m.date.day
  obtain ⟨c, d, hmonth, hc, hd⟩ := two_digits m.date.month
  obtain ⟨e, y, hyear, he, hy⟩ := year_digits m.date.year
  obtain ⟨f, g, hhour, hf, -⟩ := two_digits m.clock.hour
  rw [remainder_text_append, Date.text, Clock.text, hday, hmonth, hyear, hhour]
  simp only [field, List.cons_append, List.nil_append, List.append_assoc]
  cases m.date.dayComma with
  | true => exact no_history_behind_number (t := [a, b]) (by simp) (by simp [ha, hb]) hc
  | false =>
    cases m.date.monthComma with
    | true =>
      exact no_history_behind_number (t := [a, b, c, d]) (by simp) (by simp [ha, hb, hc, hd]) he
    | false =>
      exact no_history_behind_number (t := a :: b :: c :: d :: e :: y) (by simp)
        (by simpa [ha, hb, hc, hd, he] using hy) hf

lemma no_telemetry_at_kind {name : Token (several inField)} {imei : Token (fixedDigits 15)}
    {i : Identity} {m : Remainder} : ¬ telemetryHeader.Starts
      ((Header.kind name).text ++ (field imei.1 ++ (i.text ++ (m.text ++ k)))) := by
  -- type and identifier would be vendor and firmware, so a history letter would stand in the date
  obtain ⟨-, hl, hd⟩ := matches_fixedDigits.1 imei.2
  have himei : imei.1 ≠ [] := by
    intro h
    simp [h] at hl
  have hi : (ignored (several inField)).Matches [] (field imei.1) :=
    (matches_ignored rfl).2 ⟨⟨imei.1, inField_of_digits hd himei⟩, rfl, rfl⟩
  rw [telemetryHeader, starts_assoc, starts_assoc, starts_assoc, Header.text,
    (deterministic_ignored rfl rfl).starts_seq ((matches_ignored rfl).2 ⟨name, rfl, rfl⟩),
    (deterministic_ignored rfl rfl).starts_seq hi]
  cases i with
  | status code =>
    rw [Identity.text, deterministic_status.starts_seq ((matches_kept rfl).2 ⟨code, rfl, rfl⟩)]
    exact no_history_in_date
  | validity registration digit =>
    intro h
    rw [Identity.text, List.append_assoc] at h
    obtain ⟨-, h⟩ | h := status_at_registration h
    · exact no_history_in_date h
    · obtain ⟨c, hc, hdigit, -, -⟩ := bit_digit digit
      obtain ⟨a, b, hday, ha, -⟩ := two_digits m.date.day
      rw [hc, remainder_text_append, Date.text, hday] at h
      exact no_history_behind_number (t := [c]) (by simp) (by simpa using hdigit) ha h

lemma matches_imei (imei : Token (fixedDigits 15)) :
    (kept (fixedDigits 15)).Matches [some imei.1] (field imei.1) :=
  (matches_kept rfl).2 ⟨imei, rfl, rfl⟩

lemma preferred?_identifier (imei : Token (fixedDigits 15)) {i : Identity} {m : Remainder}
    (hi : i.Distinct) (hm : m.trailer.Ends k) :
    afterHeader.preferred? (field imei.1 ++ (i.text ++ (m.text ++ k))) =
      some (some imei.1 :: (i.captures ++ m.captures), k) := by
  rw [afterHeader, (deterministic_kept rfl rfl).preferred?_seq (matches_imei imei),
    preferred?_identity hi hm]
  rfl

lemma preferred?_header (h : Header) (imei : Token (fixedDigits 15)) {i : Identity}
    {m : Remainder} (hi : i.Distinct) (hm : m.trailer.Ends k) :
    (Grammar.header ++ afterHeader).preferred?
      (h.text ++ (field imei.1 ++ (i.text ++ (m.text ++ k)))) =
        some (h.captures ++ some imei.1 :: (i.captures ++ m.captures), k) := by
  have rest := preferred?_identifier imei hi hm
  rw [Grammar.header]
  cases h with
  | telemetry vendor firmware status event history =>
    rw [deterministic_telemetryHeader.preferred?_left (matches_telemetryHeader.2
      ⟨vendor, firmware, status, event, history, rfl, rfl⟩) (starts_of_preferred? rest), rest]
    rfl
  | kind name =>
    have other : ¬ (telemetryHeader ++ afterHeader).Starts
        ((Header.kind name).text ++ (field imei.1 ++ (i.text ++ (m.text ++ k)))) :=
      fun hs => no_telemetry_at_kind hs.of_seq
    have word : (kept (several inField)).Matches [some name.1] (Header.kind name).text :=
      (matches_kept rfl).2 ⟨name, rfl, rfl⟩
    rw [(deterministic_kept rfl rfl).preferred?_right word other, rest]
    rfl

/-! The sentence. -/

/-- The choices of the draft are the ones that come first. -/
structure Foremost (d : Draft) (rest : List Char) : Prop where
  identity : d.identity.Distinct
  trailer : d.remainder.trailer.Ends rest

lemma text_append (d : Draft) (k : List Char) : d.text ++ k = d.opening.text ++ (d.header.text ++
    (field d.imei.1 ++ (d.identity.text ++ (d.remainder.text ++ k)))) := by
  simp [Draft.text]

lemma preferred?_sentence : sentence.preferred? s =
    (Grammar.opening ++ (Grammar.header ++ afterHeader)).preferred? s := by
  rw [sentence, preferred?_assoc, preferred?_assoc, preferred?_assoc, preferred?_assoc,
    preferred?_assoc, preferred?_assoc]
  rfl

lemma starts_sentence : sentence.Starts s ↔
    (Grammar.opening ++ (Grammar.header ++ afterHeader)).Starts s := by
  rw [← not_iff_not, ← preferred?_eq_none, preferred?_sentence, preferred?_eq_none]

theorem Foremost.preferred?_eq {d : Draft} (h : d.Foremost k) :
    sentence.preferred? (d.text ++ k) = some (d.captures, k) := by
  have opening := matches_opening.2 ⟨d.opening, rfl, rfl⟩
  rw [preferred?_sentence, text_append, deterministic_opening.preferred?_seq opening,
    preferred?_header d.header d.imei h.identity h.trailer]
  simp [Draft.captures]

/-- A text that begins with a sentence begins with a draft whose choices come first. -/
theorem exists_foremost (h : sentence.Starts s) : ∃ d k, s = Draft.text d ++ k ∧ d.Foremost k := by
  obtain ⟨_, _, _, ho, rfl, h₁⟩ := starts_seq.1 (starts_sentence.1 h)
  obtain ⟨_, _, _, hh, rfl, h₂⟩ := starts_seq.1 h₁
  obtain ⟨_, _, _, hi, rfl, h₃⟩ := starts_seq.1 h₂
  obtain ⟨o, -, rfl⟩ := matches_opening.1 ho
  obtain ⟨imei, -, rfl⟩ := (matches_kept rfl).1 hi
  obtain ⟨i, m, k, rfl, hi, hm⟩ := exists_identity h₃
  obtain ⟨_, ht, -⟩ | ⟨_, hn, -⟩ := matches_alt.1 hh
  · obtain ⟨vendor, firmware, status, event, history, -, rfl⟩ := matches_telemetryHeader.1 ht
    exact ⟨⟨o, .telemetry vendor firmware status event history, imei, i, m⟩, k,
      (text_append ⟨o, _, imei, i, m⟩ k).symm, ⟨hi, hm⟩⟩
  · obtain ⟨name, -, rfl⟩ := (matches_kept rfl).1 hn
    exact ⟨⟨o, .kind name, imei, i, m⟩, k, (text_append ⟨o, .kind name, imei, i, m⟩ k).symm,
      ⟨hi, hm⟩⟩

end Telematics.Sentence.Draft
