import Telematics.Proofs.Sentence.Draft
import Telematics.Proofs.Sentence.Preference

namespace Telematics.Sentence.Draft

open Grammar Pattern Text

variable {p q r : Pattern} {v : Captures} {t : List Char} {a : Char → Bool}

lemma matches_comma : comma.Matches v t ↔ v = [] ∧ t = [','] := by
  simp only [comma, literal, matches_one, decide_eq_true_eq]
  constructor
  · rintro ⟨rfl, c, rfl, rfl⟩
    exact ⟨rfl, rfl⟩
  · rintro ⟨rfl, rfl⟩
    exact ⟨rfl, _, rfl, rfl⟩

lemma matches_oneOf {cs : List Char} : (oneOf cs).Matches v t ↔ v = [] ∧ ∃ c ∈ cs, t = [c] := by
  simp only [oneOf, matches_one, List.contains_iff_mem]

lemma matches_token (hp : p.width = 0) : p.Matches v t ↔ ∃ x : Token p, v = [] ∧ t = x.1 := by
  constructor
  · intro h
    obtain rfl := h.nil_of_width hp
    exact ⟨⟨t, h⟩, rfl, rfl⟩
  · rintro ⟨x, rfl, rfl⟩
    exact x.2

lemma matches_ignored (hp : p.width = 0) :
    (ignored p).Matches v t ↔ ∃ x : Token p, v = [] ∧ t = field x.1 := by
  simp only [ignored, matches_seq, matches_comma]
  constructor
  · rintro ⟨v, _, t, _, h, ⟨rfl, rfl⟩, rfl, rfl⟩
    obtain ⟨x, rfl, rfl⟩ := (matches_token hp).1 h
    exact ⟨x, rfl, rfl⟩
  · rintro ⟨x, rfl, rfl⟩
    exact ⟨[], [], x.1, [','], x.2, ⟨rfl, rfl⟩, rfl, rfl⟩

lemma matches_slot_token (hp : p.width = 0) :
    (slot p).Matches v t ↔ ∃ x : Token p, v = [some x.1] ∧ t = x.1 := by
  simp only [matches_slot]
  constructor
  · rintro ⟨w, h, rfl⟩
    obtain ⟨x, rfl, rfl⟩ := (matches_token hp).1 h
    exact ⟨x, rfl, rfl⟩
  · rintro ⟨x, rfl, rfl⟩
    exact ⟨[], x.2, rfl⟩

lemma matches_kept (hp : p.width = 0) :
    (kept p).Matches v t ↔ ∃ x : Token p, v = [some x.1] ∧ t = field x.1 := by
  simp only [kept, matches_seq, matches_comma]
  constructor
  · rintro ⟨v, _, t, _, h, ⟨rfl, rfl⟩, rfl, rfl⟩
    obtain ⟨x, rfl, rfl⟩ := (matches_slot_token hp).1 h
    exact ⟨x, rfl, rfl⟩
  · rintro ⟨x, rfl, rfl⟩
    exact ⟨[some x.1], [], x.1, [','], .slot x.2, ⟨rfl, rfl⟩, rfl, rfl⟩

lemma matches_optional_comma :
    (Pattern.optional comma).Matches v t ↔ ∃ b, v = [] ∧ t = commaIf b := by
  simp only [Pattern.optional, matches_alt, matches_comma, matches_empty]
  constructor
  · rintro (⟨_, ⟨rfl, rfl⟩, rfl⟩ | ⟨_, ⟨rfl, rfl⟩, rfl⟩)
    · exact ⟨true, rfl, rfl⟩
    · exact ⟨false, rfl, rfl⟩
  · rintro ⟨b, rfl, rfl⟩
    cases b with
    | true => exact .inl ⟨[], ⟨rfl, rfl⟩, rfl⟩
    | false => exact .inr ⟨[], ⟨rfl, rfl⟩, rfl⟩

lemma matches_opening : Grammar.opening.Matches v t ↔ ∃ o : Opening, v = [] ∧ t = o.text := by
  constructor
  · intro h
    obtain ⟨_, _, _, _, g₃, h₄, rfl, rfl⟩ := matches_seq.1 h
    obtain ⟨_, _, _, _, g₂, h₃, rfl, rfl⟩ := matches_seq.1 g₃
    obtain ⟨_, _, _, _, h₁, h₂, rfl, rfl⟩ := matches_seq.1 g₂
    obtain ⟨p, rfl, rfl⟩ := (matches_token rfl).1 h₁
    obtain ⟨rfl, _, hd, rfl⟩ := matches_one.1 h₂
    obtain rfl := of_decide_eq_true hd
    obtain ⟨b, rfl, rfl⟩ := matches_optional_comma.1 h₃
    obtain ⟨s, rfl, rfl⟩ := (matches_ignored rfl).1 h₄
    exact ⟨⟨p, b, s⟩, rfl, rfl⟩
  · rintro ⟨o, rfl, rfl⟩
    exact .seq (.seq (.seq o.preface.2 (.one (by simp)))
      (matches_optional_comma.2 ⟨o.comma, rfl, rfl⟩))
      ((matches_ignored rfl).2 ⟨o.separator, rfl, rfl⟩)

lemma matches_telemetryHeader : telemetryHeader.Matches v t ↔
    ∃ vendor firmware status event history,
      v = [some status.1, some event.1, some history.1] ∧
        t = (Header.telemetry vendor firmware status event history).text := by
  constructor
  · intro h
    obtain ⟨_, _, _, _, g₄, h₅, rfl, rfl⟩ := matches_seq.1 h
    obtain ⟨_, _, _, _, g₃, h₄, rfl, rfl⟩ := matches_seq.1 g₄
    obtain ⟨_, _, _, _, g₂, h₃, rfl, rfl⟩ := matches_seq.1 g₃
    obtain ⟨_, _, _, _, h₁, h₂, rfl, rfl⟩ := matches_seq.1 g₂
    obtain ⟨vendor, rfl, rfl⟩ := (matches_ignored rfl).1 h₁
    obtain ⟨firmware, rfl, rfl⟩ := (matches_ignored rfl).1 h₂
    obtain ⟨status, rfl, rfl⟩ := (matches_kept rfl).1 h₃
    obtain ⟨event, rfl, rfl⟩ := (matches_kept rfl).1 h₄
    obtain ⟨history, rfl, rfl⟩ := (matches_kept rfl).1 h₅
    exact ⟨vendor, firmware, status, event, history, rfl, rfl⟩
  · rintro ⟨vendor, firmware, status, event, history, rfl, rfl⟩
    exact .seq (.seq (.seq (.seq ((matches_ignored rfl).2 ⟨vendor, rfl, rfl⟩)
      ((matches_ignored rfl).2 ⟨firmware, rfl, rfl⟩)) ((matches_kept rfl).2 ⟨status, rfl, rfl⟩))
      ((matches_kept rfl).2 ⟨event, rfl, rfl⟩)) ((matches_kept rfl).2 ⟨history, rfl, rfl⟩)

def registered : Pattern :=
  ignored (many inField) ++ kept bit

lemma matches_registered : registered.Matches v t ↔ ∃ registration digit,
    v = [some digit.1] ∧ t = (Identity.validity registration digit).text := by
  constructor
  · intro h
    obtain ⟨_, _, _, _, h₁, h₂, rfl, rfl⟩ := matches_seq.1 h
    obtain ⟨registration, rfl, rfl⟩ := (matches_ignored rfl).1 h₁
    obtain ⟨digit, rfl, rfl⟩ := (matches_kept rfl).1 h₂
    exact ⟨registration, digit, rfl, rfl⟩
  · rintro ⟨registration, digit, rfl, rfl⟩
    exact .seq ((matches_ignored rfl).2 ⟨registration, rfl, rfl⟩)
      ((matches_kept rfl).2 ⟨digit, rfl, rfl⟩)

lemma matches_triple (hp : p.width = 0) (hq : q.width = 0) (hr : r.width = 0) :
    (slot p ++ Pattern.optional comma ++ slot q ++ Pattern.optional comma ++ kept r).Matches v t ↔
      ∃ (x : Token p) (b : Bool) (y : Token q) (c : Bool) (z : Token r),
        v = [some x.1, some y.1, some z.1] ∧
          t = x.1 ++ commaIf b ++ y.1 ++ commaIf c ++ field z.1 := by
  constructor
  · intro h
    obtain ⟨_, _, _, _, g₄, h₅, rfl, rfl⟩ := matches_seq.1 h
    obtain ⟨_, _, _, _, g₃, h₄, rfl, rfl⟩ := matches_seq.1 g₄
    obtain ⟨_, _, _, _, g₂, h₃, rfl, rfl⟩ := matches_seq.1 g₃
    obtain ⟨_, _, _, _, h₁, h₂, rfl, rfl⟩ := matches_seq.1 g₂
    obtain ⟨x, rfl, rfl⟩ := (matches_slot_token hp).1 h₁
    obtain ⟨b, rfl, rfl⟩ := matches_optional_comma.1 h₂
    obtain ⟨y, rfl, rfl⟩ := (matches_slot_token hq).1 h₃
    obtain ⟨c, rfl, rfl⟩ := matches_optional_comma.1 h₄
    obtain ⟨z, rfl, rfl⟩ := (matches_kept hr).1 h₅
    exact ⟨x, b, y, c, z, rfl, rfl⟩
  · rintro ⟨x, b, y, c, z, rfl, rfl⟩
    exact .seq (.seq (.seq (.seq ((matches_slot_token hp).2 ⟨x, rfl, rfl⟩)
      (matches_optional_comma.2 ⟨b, rfl, rfl⟩)) ((matches_slot_token hq).2 ⟨y, rfl, rfl⟩))
      (matches_optional_comma.2 ⟨c, rfl, rfl⟩)) ((matches_kept hr).2 ⟨z, rfl, rfl⟩)

lemma matches_date : date.Matches v t ↔ ∃ d : Date, v = d.captures ∧ t = d.text := by
  constructor
  · intro h
    obtain ⟨day, b, month, c, year, rfl, rfl⟩ := (matches_triple rfl rfl rfl).1 h
    exact ⟨⟨day, b, month, c, year⟩, rfl, rfl⟩
  · rintro ⟨d, rfl, rfl⟩
    exact (matches_triple rfl rfl rfl).2
      ⟨d.day, d.dayComma, d.month, d.monthComma, d.year, rfl, rfl⟩

lemma matches_timeOfDay : timeOfDay.Matches v t ↔ ∃ c : Clock, v = c.captures ∧ t = c.text := by
  constructor
  · intro h
    obtain ⟨hour, b, minute, c, second, rfl, rfl⟩ := (matches_triple rfl rfl rfl).1 h
    exact ⟨⟨hour, b, minute, c, second⟩, rfl, rfl⟩
  · rintro ⟨c, rfl, rfl⟩
    exact (matches_triple rfl rfl rfl).2
      ⟨c.hour, c.hourComma, c.minute, c.minuteComma, c.second, rfl, rfl⟩

lemma matches_letter : (Pattern.optional (kept (oneOf ['A', 'V']))).Matches v t ↔
    ∃ l : Option (Token (oneOf ['A', 'V'])), v = [l.map (·.1)] ∧ t = letterText l := by
  simp only [Pattern.optional, matches_alt, matches_empty, matches_kept (p := oneOf ['A', 'V']) rfl]
  constructor
  · rintro (⟨_, ⟨x, rfl, rfl⟩, rfl⟩ | ⟨_, ⟨rfl, rfl⟩, rfl⟩)
    · exact ⟨some x, rfl, rfl⟩
    · exact ⟨none, rfl, rfl⟩
  · rintro ⟨l, rfl, rfl⟩
    cases l with
    | some x => exact .inl ⟨_, ⟨x, rfl, rfl⟩, rfl⟩
    | none => exact .inr ⟨_, ⟨rfl, rfl⟩, rfl⟩

lemma matches_fix : fix.Matches v t ↔ ∃ f : Fix, v = f.captures ∧ t = f.text := by
  constructor
  · intro h
    obtain ⟨_, _, _, _, g₄, h₅, rfl, rfl⟩ := matches_seq.1 h
    obtain ⟨_, _, _, _, g₃, h₄, rfl, rfl⟩ := matches_seq.1 g₄
    obtain ⟨_, _, _, _, g₂, h₃, rfl, rfl⟩ := matches_seq.1 g₃
    obtain ⟨_, _, _, _, h₁, h₂, rfl, rfl⟩ := matches_seq.1 g₂
    obtain ⟨letter, rfl, rfl⟩ := matches_letter.1 h₁
    obtain ⟨latitude, rfl, rfl⟩ := (matches_kept rfl).1 h₂
    obtain ⟨northSouth, rfl, rfl⟩ := (matches_kept rfl).1 h₃
    obtain ⟨longitude, rfl, rfl⟩ := (matches_kept rfl).1 h₄
    obtain ⟨eastWest, rfl, rfl⟩ := (matches_kept rfl).1 h₅
    exact ⟨⟨letter, latitude, northSouth, longitude, eastWest⟩, rfl, rfl⟩
  · rintro ⟨f, rfl, rfl⟩
    exact .seq (.seq (.seq (.seq (matches_letter.2 ⟨f.letter, rfl, rfl⟩)
      ((matches_kept rfl).2 ⟨f.latitude, rfl, rfl⟩))
      ((matches_kept rfl).2 ⟨f.northSouth, rfl, rfl⟩))
      ((matches_kept rfl).2 ⟨f.longitude, rfl, rfl⟩))
      ((matches_kept rfl).2 ⟨f.eastWest, rfl, rfl⟩)

lemma matches_analog : analog.Matches v t ↔ ∃ a : Analog, v = a.captures ∧ t = a.text := by
  constructor
  · intro h
    obtain ⟨_, _, _, _, g₂, h₃, rfl, rfl⟩ := matches_seq.1 h
    obtain ⟨_, _, _, _, h₁, h₂, rfl, rfl⟩ := matches_seq.1 g₂
    obtain ⟨index, rfl, rfl⟩ := (matches_ignored rfl).1 h₁
    obtain ⟨first, rfl, rfl⟩ := (matches_kept rfl).1 h₂
    obtain ⟨second, rfl, rfl⟩ := (matches_kept rfl).1 h₃
    exact ⟨⟨index, first, second⟩, rfl, rfl⟩
  · rintro ⟨a, rfl, rfl⟩
    exact .seq (.seq ((matches_ignored rfl).2 ⟨a.index, rfl, rfl⟩)
      ((matches_kept rfl).2 ⟨a.first, rfl, rfl⟩)) ((matches_kept rfl).2 ⟨a.second, rfl, rfl⟩)

lemma matches_times (hq : ∀ {v t}, q.Matches v t ↔ ∃ x : Token p, v = [] ∧ t = field x.1)
    (n : Nat) : (times n q).Matches v t ↔
      ∃ xs : List (Token p), xs.length = n ∧ v = [] ∧ t = xs.flatMap fun x => field x.1 := by
  induction n generalizing v t with
  | zero =>
    simp only [times, matches_empty, List.length_eq_zero_iff]
    constructor
    · rintro ⟨rfl, rfl⟩
      exact ⟨[], rfl, rfl, rfl⟩
    · rintro ⟨_, rfl, rfl, rfl⟩
      exact ⟨rfl, rfl⟩
  | succ n ih =>
    cases n with
    | zero =>
      change q.Matches v t ↔ _
      simp only [hq, Nat.zero_add, List.length_eq_one_iff]
      constructor
      · rintro ⟨x, rfl, rfl⟩
        exact ⟨[x], ⟨x, rfl⟩, rfl, by simp⟩
      · rintro ⟨_, ⟨x, rfl⟩, rfl, rfl⟩
        exact ⟨x, rfl, by simp⟩
    | succ n =>
      simp only [times, matches_seq, hq, ih]
      constructor
      · rintro ⟨_, _, _, _, ⟨x, rfl, rfl⟩, ⟨xs, hxs, rfl, rfl⟩, rfl, rfl⟩
        exact ⟨x :: xs, by simp [hxs], rfl, rfl⟩
      · rintro ⟨xs, hxs, rfl, rfl⟩
        obtain ⟨x, xs, rfl⟩ := List.exists_cons_of_length_eq_add_one hxs
        exact ⟨[], [], field x.1, _, ⟨x, rfl, rfl⟩, ⟨xs, by simpa using hxs, rfl, rfl⟩, rfl, rfl⟩

lemma matches_hexGroup : hexGroup.Matches v t ↔
    ∃ x : Token (several isHexDigit), v = [] ∧ t = field x.1 :=
  matches_ignored rfl

lemma matches_signedHexGroup : signedHexGroup.Matches v t ↔
    ∃ x : Token (Pattern.optional (literal '-') ++ several isHexDigit), v = [] ∧ t = field x.1 :=
  matches_assoc.symm.trans (matches_ignored rfl)

lemma matches_cells : cells.Matches v t ↔ ∃ c : Cells, v = [] ∧ t = c.text := by
  simp only [cells, matches_seq, matches_times matches_hexGroup,
    matches_times matches_signedHexGroup]
  constructor
  · rintro ⟨_, _, _, _, ⟨xs, hxs, rfl, rfl⟩, ⟨ys, hys, rfl, rfl⟩, rfl, rfl⟩
    refine ⟨⟨⟨xs.toArray, hxs⟩, ⟨ys.toArray, hys⟩⟩, rfl, ?_⟩
    simp [Cells.text, Cells.groups]
  · rintro ⟨c, rfl, rfl⟩
    refine ⟨[], [], _, _, ⟨c.serving.toList, by simp, rfl, rfl⟩,
      ⟨c.neighbors.toList, by simp, rfl, rfl⟩, rfl, ?_⟩
    simp [Cells.text, Cells.groups]

def extendedBase : Pattern :=
  kept decimal ++ ignored decimal ++ ignored decimal ++ ignored (many inField) ++ kept bit ++
    kept bit ++ kept decimal ++ kept decimal ++ kept bit ++
    ignored (Pattern.optional (oneOf ['C', 'O'])) ++ slot cells ++ kept (times 4 bit) ++
    kept (times 2 bit)

lemma matches_extendedBase :
    extendedBase.Matches v t ↔ ∃ e : Extended, v = e.baseCaptures ∧ t = e.baseText := by
  constructor
  · intro h
    obtain ⟨_, _, _, _, g₁₂, h₁₃, rfl, rfl⟩ := matches_seq.1 h
    obtain ⟨_, _, _, _, g₁₁, h₁₂, rfl, rfl⟩ := matches_seq.1 g₁₂
    obtain ⟨_, _, _, _, g₁₀, h₁₁, rfl, rfl⟩ := matches_seq.1 g₁₁
    obtain ⟨_, _, _, _, g₉, h₁₀, rfl, rfl⟩ := matches_seq.1 g₁₀
    obtain ⟨_, _, _, _, g₈, h₉, rfl, rfl⟩ := matches_seq.1 g₉
    obtain ⟨_, _, _, _, g₇, h₈, rfl, rfl⟩ := matches_seq.1 g₈
    obtain ⟨_, _, _, _, g₆, h₇, rfl, rfl⟩ := matches_seq.1 g₇
    obtain ⟨_, _, _, _, g₅, h₆, rfl, rfl⟩ := matches_seq.1 g₆
    obtain ⟨_, _, _, _, g₄, h₅, rfl, rfl⟩ := matches_seq.1 g₅
    obtain ⟨_, _, _, _, g₃, h₄, rfl, rfl⟩ := matches_seq.1 g₄
    obtain ⟨_, _, _, _, g₂, h₃, rfl, rfl⟩ := matches_seq.1 g₃
    obtain ⟨_, _, _, _, h₁, h₂, rfl, rfl⟩ := matches_seq.1 g₂
    obtain ⟨altitude, rfl, rfl⟩ := (matches_kept rfl).1 h₁
    obtain ⟨pdop, rfl, rfl⟩ := (matches_ignored rfl).1 h₂
    obtain ⟨hdop, rfl, rfl⟩ := (matches_ignored rfl).1 h₃
    obtain ⟨operator, rfl, rfl⟩ := (matches_ignored rfl).1 h₄
    obtain ⟨ignition, rfl, rfl⟩ := (matches_kept rfl).1 h₅
    obtain ⟨charge, rfl, rfl⟩ := (matches_kept rfl).1 h₆
    obtain ⟨power, rfl, rfl⟩ := (matches_kept rfl).1 h₇
    obtain ⟨battery, rfl, rfl⟩ := (matches_kept rfl).1 h₈
    obtain ⟨emergency, rfl, rfl⟩ := (matches_kept rfl).1 h₉
    obtain ⟨tamper, rfl, rfl⟩ := (matches_ignored rfl).1 h₁₀
    obtain ⟨_, hc, rfl⟩ := matches_slot.1 h₁₁
    obtain ⟨groups, rfl, rfl⟩ := matches_cells.1 hc
    obtain ⟨inputs, rfl, rfl⟩ := (matches_kept rfl).1 h₁₂
    obtain ⟨outputs, rfl, rfl⟩ := (matches_kept rfl).1 h₁₃
    exact ⟨⟨altitude, pdop, hdop, operator, ignition, charge, power, battery, emergency, tamper,
      groups, inputs, outputs, none⟩, rfl, rfl⟩
  · rintro ⟨e, rfl, rfl⟩
    have h₁ := Matches.seq ((matches_kept rfl).2 ⟨e.altitude, rfl, rfl⟩)
      ((matches_ignored rfl).2 ⟨e.pdop, rfl, rfl⟩)
    have h₂ := (h₁.seq ((matches_ignored rfl).2 ⟨e.hdop, rfl, rfl⟩)).seq
      ((matches_ignored rfl).2 ⟨e.operator, rfl, rfl⟩)
    have h₃ := (h₂.seq ((matches_kept rfl).2 ⟨e.ignition, rfl, rfl⟩)).seq
      ((matches_kept rfl).2 ⟨e.charge, rfl, rfl⟩)
    have h₄ := (h₃.seq ((matches_kept rfl).2 ⟨e.power, rfl, rfl⟩)).seq
      ((matches_kept rfl).2 ⟨e.battery, rfl, rfl⟩)
    have h₅ := (h₄.seq ((matches_kept rfl).2 ⟨e.emergency, rfl, rfl⟩)).seq
      ((matches_ignored rfl).2 ⟨e.tamper, rfl, rfl⟩)
    have h₆ := h₅.seq (.slot (matches_cells.2 ⟨e.cells, rfl, rfl⟩))
    exact (h₆.seq ((matches_kept rfl).2 ⟨e.inputs, rfl, rfl⟩)).seq
      ((matches_kept rfl).2 ⟨e.outputs, rfl, rfl⟩)

def richBase : Pattern :=
  kept decimal ++ kept decimal ++ kept digits

lemma matches_richBase : richBase.Matches v t ↔ ∃ speed course satellites,
    v = [some speed.1, some course.1, some satellites.1] ∧
      t = Trailer.richText speed course satellites := by
  constructor
  · intro h
    obtain ⟨_, _, _, _, g₂, h₃, rfl, rfl⟩ := matches_seq.1 h
    obtain ⟨_, _, _, _, h₁, h₂, rfl, rfl⟩ := matches_seq.1 g₂
    obtain ⟨speed, rfl, rfl⟩ := (matches_kept rfl).1 h₁
    obtain ⟨course, rfl, rfl⟩ := (matches_kept rfl).1 h₂
    obtain ⟨satellites, rfl, rfl⟩ := (matches_kept rfl).1 h₃
    exact ⟨speed, course, satellites, rfl, rfl⟩
  · rintro ⟨speed, course, satellites, rfl, rfl⟩
    exact .seq (.seq ((matches_kept rfl).2 ⟨speed, rfl, rfl⟩)
      ((matches_kept rfl).2 ⟨course, rfl, rfl⟩)) ((matches_kept rfl).2 ⟨satellites, rfl, rfl⟩)

lemma matches_simpleTrailer : simpleTrailer.Matches v t ↔ ∃ altitude speed,
    v = [some altitude.1, some speed.1] ∧ t = (Trailer.simple altitude speed).text := by
  constructor
  · intro h
    obtain ⟨_, _, _, _, h₁, h₂, rfl, rfl⟩ := matches_seq.1 h
    obtain ⟨altitude, rfl, rfl⟩ := (matches_kept rfl).1 h₁
    obtain ⟨speed, rfl, rfl⟩ := (matches_kept rfl).1 h₂
    exact ⟨altitude, speed, rfl, rfl⟩
  · rintro ⟨altitude, speed, rfl, rfl⟩
    exact .seq ((matches_kept rfl).2 ⟨altitude, rfl, rfl⟩) ((matches_kept rfl).2 ⟨speed, rfl, rfl⟩)

/-! Which pieces can be cut off in one way only. -/

lemma deterministic_ignored (hp : p.avoids ',') (hw : p.width = 0) :
    (ignored p).Deterministic :=
  .terminated hp fun _ _ _ h h' => (h.nil_of_width hw).trans (h'.nil_of_width hw).symm

lemma deterministic_kept (hp : p.avoids ',') (hw : p.width = 0) : (kept p).Deterministic := by
  apply Deterministic.terminated (p := slot p) hp
  intro v w t h h'
  obtain ⟨x, rfl, rfl⟩ := (matches_slot_token hw).1 h
  obtain ⟨y, rfl, hy⟩ := (matches_slot_token hw).1 h'
  rw [hy]

lemma heads_comma : comma.Heads (· = ',') :=
  heads_one

lemma heads_digits : digits.Heads isDecimalDigit :=
  heads_one.seq _

lemma heads_fixedDigits (n : Nat) : (fixedDigits (n + 1)).Heads isDecimalDigit := by
  cases n with
  | zero => exact heads_one
  | succ n => exact heads_one.seq _

lemma heads_kept {p : Pattern} (hp : p.Heads a) : (kept p).Heads a :=
  hp.slot.seq comma

lemma exclusive_comma (hp : p.Heads isDecimalDigit) : comma.Exclusive p :=
  heads_comma.exclusive hp fun c hc => by
    obtain rfl := of_decide_eq_true hc
    decide

lemma exclusive_oneOf {cs : List Char} (h : cs.all fun c => !a c) (hp : p.Heads a) :
    (kept (oneOf cs)).Exclusive p := by
  apply (heads_kept heads_one).exclusive hp
  intro c hc
  have none := List.all_eq_true.1 h c (List.contains_iff_mem.1 hc)
  simpa using none

lemma deterministic_opening : Grammar.opening.Deterministic := by
  refine .append_optional ?_ deterministic_one (deterministic_ignored rfl rfl) ?_
  · exact .terminated rfl fun _ _ _ h h' => (h.nil_of_width rfl).trans (h'.nil_of_width rfl).symm
  · apply heads_comma.exclusive ((heads_one (a := inField)).seq _ |>.seq _)
    intro c hc
    obtain rfl := of_decide_eq_true hc
    decide

lemma deterministic_twoCharacters : twoCharacters.Deterministic :=
  deterministic_one.times 2

lemma deterministic_status : (kept twoCharacters).Deterministic :=
  deterministic_twoCharacters.slot.seq deterministic_one

lemma deterministic_telemetryHeader : telemetryHeader.Deterministic :=
  ((((deterministic_ignored rfl rfl).seq (deterministic_ignored rfl rfl)).seq
    deterministic_status).seq (deterministic_kept rfl rfl)).seq (deterministic_kept rfl rfl)

lemma deterministic_registered : registered.Deterministic :=
  (deterministic_ignored rfl rfl).seq (deterministic_kept rfl rfl)

lemma deterministic_fixedDigits (n : Nat) : (slot (fixedDigits n)).Deterministic :=
  (deterministic_one.times n).slot

lemma deterministic_triple (hd : (kept p).Deterministic) (hh : p.Heads isDecimalDigit) :
    (slot (fixedDigits 2) ++ Pattern.optional comma ++ slot (fixedDigits 2) ++
      Pattern.optional comma ++ kept p).Deterministic := by
  have digit : (slot (fixedDigits 2)).Heads isDecimalDigit := (heads_fixedDigits 1).slot
  have pair := (deterministic_fixedDigits 2).append_optional deterministic_one
    (deterministic_fixedDigits 2) (exclusive_comma digit)
  exact pair.append_optional deterministic_one hd (exclusive_comma (heads_kept hh))

lemma deterministic_date : date.Deterministic :=
  deterministic_triple (deterministic_kept rfl rfl) ((heads_fixedDigits 3).alt (heads_fixedDigits 1))

lemma deterministic_timeOfDay : timeOfDay.Deterministic :=
  deterministic_triple (deterministic_kept rfl rfl) (heads_fixedDigits 1)

lemma deterministic_fix : fix.Deterministic := by
  have letter : (Pattern.optional (kept (oneOf ['A', 'V'])) ++ kept fraction).Deterministic := by
    apply (deterministic_kept rfl rfl).optional_seq (deterministic_kept rfl rfl)
    exact exclusive_oneOf rfl (heads_kept ((heads_digits.seq _).seq _))
  exact ((letter.seq (deterministic_kept rfl rfl)).seq (deterministic_kept rfl rfl)).seq
    (deterministic_kept rfl rfl)

lemma deterministic_cells : cells.Deterministic := by
  have signed : signedHexGroup.Deterministic :=
    Deterministic.assoc.1 (deterministic_ignored rfl rfl)
  exact ((deterministic_ignored (p := several isHexDigit) rfl rfl).times 5).seq (signed.times 12)

lemma deterministic_analog : analog.Deterministic :=
  ((deterministic_ignored rfl rfl).seq (deterministic_kept rfl rfl)).seq
    (deterministic_kept rfl rfl)

lemma deterministic_extendedBase : extendedBase.Deterministic := by
  have precision : (kept decimal ++ ignored decimal ++ ignored decimal).Deterministic :=
    ((deterministic_kept rfl rfl).seq (deterministic_ignored rfl rfl)).seq
      (deterministic_ignored rfl rfl)
  have line : (kept bit).Deterministic := deterministic_kept rfl rfl
  have supply : (kept decimal).Deterministic := deterministic_kept rfl rfl
  have lines := ((precision.seq (deterministic_ignored (p := many inField) rfl rfl)).seq line).seq
    line
  have supplies := ((lines.seq supply).seq supply).seq line
  exact (((supplies.seq (deterministic_ignored rfl rfl)).seq deterministic_cells.slot).seq
    (deterministic_kept rfl rfl)).seq (deterministic_kept rfl rfl)

lemma deterministic_richBase : richBase.Deterministic :=
  ((deterministic_kept rfl rfl).seq (deterministic_kept rfl rfl)).seq (deterministic_kept rfl rfl)

lemma deterministic_simpleTrailer : simpleTrailer.Deterministic :=
  (deterministic_kept rfl rfl).seq (deterministic_kept rfl rfl)

end Telematics.Sentence.Draft
