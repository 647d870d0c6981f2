import Mathlib.Tactic.Common
import Telematics.Sentence.Pattern

/-! The language of a pattern. -/

namespace Telematics.Sentence

abbrev Captures := List (Option (List Char))

def Captures.asSlots (v : Captures) : List (Option String) :=
  v.map (Option.map String.ofList)

def Reading.captures (x : Reading) : Captures :=
  x.slots.map (Option.map Span.text)

namespace Pattern

variable {p q k : Pattern} {accepts : Char → Bool} {v w : Captures} {s t u r : List Char}

def blanks (p : Pattern) : Captures :=
  List.replicate p.width none

inductive Matches : Pattern → Captures → List Char → Prop
  | empty : Matches empty [] []
  | one {accepts : Char → Bool} {c : Char} : accepts c → Matches (one accepts) [] [c]
  | many {accepts : Char → Bool} {t : List Char} :
      (∀ c ∈ t, accepts c) → Matches (many accepts) [] t
  | seq {p q : Pattern} {v w : Captures} {t u : List Char} :
      Matches p v t → Matches q w u → Matches (seq p q) (v ++ w) (t ++ u)
  | left {p q : Pattern} {v : Captures} {t : List Char} :
      Matches p v t → Matches (alt p q) (v ++ q.blanks) t
  | right {p q : Pattern} {v : Captures} {t : List Char} :
      Matches q v t → Matches (alt p q) (p.blanks ++ v) t
  | slot {p : Pattern} {v : Captures} {t : List Char} :
      Matches p v t → Matches (slot p) (some t :: v) t

def Accepts (p : Pattern) (t : List Char) : Prop :=
  ∃ v, p.Matches v t

def Starts (p : Pattern) (s : List Char) : Prop :=
  ∃ t, t <+: s ∧ p.Accepts t

lemma matches_empty : empty.Matches v t ↔ v = [] ∧ t = [] := by
  constructor
  · intro h
    cases h
    exact ⟨rfl, rfl⟩
  · rintro ⟨rfl, rfl⟩
    exact .empty

lemma matches_one : (one accepts).Matches v t ↔ v = [] ∧ ∃ c, accepts c ∧ t = [c] := by
  constructor
  · intro h
    cases h with
    | one hc => exact ⟨rfl, _, hc, rfl⟩
  · rintro ⟨rfl, c, hc, rfl⟩
    exact .one hc

lemma matches_many : (many accepts).Matches v t ↔ v = [] ∧ ∀ c ∈ t, accepts c := by
  constructor
  · intro h
    cases h with
    | many ht => exact ⟨rfl, ht⟩
  · rintro ⟨rfl, ht⟩
    exact .many ht

lemma matches_seq : (p ++ q).Matches v t ↔
    ∃ v₁ v₂ t₁ t₂, p.Matches v₁ t₁ ∧ q.Matches v₂ t₂ ∧ v = v₁ ++ v₂ ∧ t = t₁ ++ t₂ := by
  constructor
  · intro h
    cases h with
    | seq hp hq => exact ⟨_, _, _, _, hp, hq, rfl, rfl⟩
  · rintro ⟨v₁, v₂, t₁, t₂, hp, hq, rfl, rfl⟩
    exact .seq hp hq

lemma matches_alt : (p <|> q).Matches v t ↔
    (∃ w, p.Matches w t ∧ v = w ++ q.blanks) ∨ ∃ w, q.Matches w t ∧ v = p.blanks ++ w := by
  constructor
  · intro h
    cases h with
    | left hp => exact .inl ⟨_, hp, rfl⟩
    | right hq => exact .inr ⟨_, hq, rfl⟩
  · rintro (⟨w, hp, rfl⟩ | ⟨w, hq, rfl⟩)
    · exact .left hp
    · exact .right hq

lemma matches_slot : (slot p).Matches v t ↔ ∃ w, p.Matches w t ∧ v = some t :: w := by
  constructor
  · intro h
    cases h with
    | slot hp => exact ⟨_, hp, rfl⟩
  · rintro ⟨w, hp, rfl⟩
    exact .slot hp

lemma matches_assoc : ((p ++ q) ++ k).Matches v t ↔ (p ++ (q ++ k)).Matches v t := by
  constructor
  · intro h
    obtain ⟨_, v₃, _, t₃, hpq, hk, rfl, rfl⟩ := matches_seq.1 h
    obtain ⟨v₁, v₂, t₁, t₂, hp, hq, rfl, rfl⟩ := matches_seq.1 hpq
    rw [List.append_assoc, List.append_assoc]
    exact .seq hp (.seq hq hk)
  · intro h
    obtain ⟨v₁, _, t₁, _, hp, hqk, rfl, rfl⟩ := matches_seq.1 h
    obtain ⟨v₂, v₃, t₂, t₃, hq, hk, rfl, rfl⟩ := matches_seq.1 hqk
    rw [← List.append_assoc, ← List.append_assoc]
    exact .seq (.seq hp hq) hk

lemma Matches.length (h : p.Matches v t) : v.length = p.width := by
  induction h with
  | empty | one | many => rfl
  | seq _ _ ihp ihq => simp [width, ihp, ihq]
  | left _ ih => simp [width, blanks, ih]
  | right _ ih => simp [width, blanks, ih]
  | slot _ ih => simp [width, ih]

lemma Matches.nil_of_width (h : p.Matches v t) (hw : p.width = 0) : v = [] :=
  List.eq_nil_of_length_eq_zero (h.length.trans hw)

lemma starts_iff : p.Starts s ↔ ∃ v t r, p.Matches v t ∧ s = t ++ r := by
  constructor
  · rintro ⟨t, ⟨r, rfl⟩, v, h⟩
    exact ⟨v, t, r, h, rfl⟩
  · rintro ⟨v, t, r, h, rfl⟩
    exact ⟨t, ⟨r, rfl⟩, v, h⟩

lemma Matches.starts (h : p.Matches v t) (r : List Char) : p.Starts (t ++ r) :=
  starts_iff.2 ⟨v, t, r, h, rfl⟩

lemma starts_seq : (p ++ q).Starts s ↔ ∃ v t r, p.Matches v t ∧ s = t ++ r ∧ q.Starts r := by
  constructor
  · intro h
    obtain ⟨_, _, r, hpq, rfl⟩ := starts_iff.1 h
    obtain ⟨v, w, t, u, hp, hq, rfl, rfl⟩ := matches_seq.1 hpq
    exact ⟨v, t, u ++ r, hp, List.append_assoc t u r, hq.starts r⟩
  · rintro ⟨v, t, r, hp, rfl, hq⟩
    obtain ⟨w, u, r, hm, rfl⟩ := starts_iff.1 hq
    rw [← List.append_assoc]
    exact (Matches.seq hp hm).starts r

lemma Starts.of_seq (h : (p ++ q).Starts s) : p.Starts s := by
  obtain ⟨v, t, r, hp, rfl, -⟩ := starts_seq.1 h
  exact hp.starts r

lemma starts_alt : (p <|> q).Starts s ↔ p.Starts s ∨ q.Starts s := by
  simp only [starts_iff, matches_alt]
  constructor
  · rintro ⟨_, t, r, ⟨w, h, -⟩ | ⟨w, h, -⟩, rfl⟩
    · exact .inl ⟨w, t, r, h, rfl⟩
    · exact .inr ⟨w, t, r, h, rfl⟩
  · rintro (⟨w, t, r, h, rfl⟩ | ⟨w, t, r, h, rfl⟩)
    · exact ⟨_, t, r, .inl ⟨w, h, rfl⟩, rfl⟩
    · exact ⟨_, t, r, .inr ⟨w, h, rfl⟩, rfl⟩

lemma starts_assoc : ((p ++ q) ++ k).Starts s ↔ (p ++ (q ++ k)).Starts s := by
  simp only [starts_iff, matches_assoc]

lemma mem_remainders {shorter : List (List Char)} : r ∈ remainders accepts s shorter ↔
    r ∈ shorter ∨ ∃ t, (∀ c ∈ t, accepts c) ∧ s = t ++ r := by
  induction s generalizing shorter with
  | nil =>
    simp only [remainders, List.mem_cons, List.nil_eq, List.append_eq_nil_iff]
    constructor
    · rintro (rfl | h)
      · exact .inr ⟨[], by simp, rfl, rfl⟩
      · exact .inl h
    · rintro (h | ⟨t, -, -, rfl⟩)
      · exact .inr h
      · exact .inl rfl
  | cons c s ih =>
    -- the whole text is one of the remainders whether or not its first character is accepted
    have whole : r = c :: s → ∃ t, (∀ c ∈ t, accepts c) ∧ c :: s = t ++ r :=
      fun h => ⟨[], by simp, h.symm⟩
    by_cases hc : accepts c
    · simp only [remainders, hc, if_true, ih, List.mem_cons]
      constructor
      · rintro ((h | h) | ⟨t, ht, rfl⟩)
        · exact .inr (whole h)
        · exact .inl h
        · exact .inr ⟨c :: t, by simpa [hc] using ht, rfl⟩
      · rintro (h | ⟨t, ht, h⟩)
        · exact .inl (.inr h)
        · cases t with
          | nil => exact .inl (.inl h.symm)
          | cons d t =>
            obtain ⟨rfl, rfl⟩ := List.cons.inj h
            exact .inr ⟨t, fun x hx => ht x (List.mem_cons_of_mem c hx), rfl⟩
    · simp only [remainders, hc, Bool.false_eq_true, if_false, List.mem_cons]
      constructor
      · rintro (h | h)
        · exact .inr (whole h)
        · exact .inl h
      · rintro (h | ⟨t, ht, h⟩)
        · exact .inr h
        · cases t with
          | nil => exact .inl h.symm
          | cons d t =>
            obtain ⟨rfl, -⟩ := List.cons.inj h
            exact absurd (ht c List.mem_cons_self) hc

lemma text_of_append (t r : List Char) : Span.text ⟨t ++ r, r⟩ = t := by
  simp [Span.text]

lemma map_text_absent (p : Pattern) : (absent p.width).map (Option.map Span.text) = p.blanks := by
  simp [absent, blanks]

lemma readings_sound {x : Reading} (h : x ∈ p.readings s) :
    ∃ t, p.Matches x.captures t ∧ s = t ++ x.rest := by
  induction p generalizing s x with
  | empty =>
    obtain rfl := List.mem_singleton.1 h
    exact ⟨[], .empty, rfl⟩
  | one accepts =>
    cases s with
    | nil => simp [readings] at h
    | cons c r =>
      by_cases hc : accepts c
      · simp only [readings, hc, if_true, List.mem_singleton] at h
        subst h
        exact ⟨[c], .one hc, rfl⟩
      · simp [readings, hc] at h
  | many accepts =>
    obtain ⟨r, hr, rfl⟩ := List.mem_map.1 h
    obtain hr | ⟨t, ht, rfl⟩ := mem_remainders.1 hr
    · simp at hr
    · exact ⟨t, .many ht, rfl⟩
  | seq p q ihp ihq =>
    simp only [readings, List.mem_flatMap, List.mem_map] at h
    obtain ⟨y, hy, z, hz, rfl⟩ := h
    obtain ⟨t, ht, rfl⟩ := ihp hy
    obtain ⟨u, hu, hyu⟩ := ihq hz
    refine ⟨t ++ u, ?_, by rw [hyu, List.append_assoc]⟩
    have hm := Matches.seq ht hu
    simpa only [Reading.captures, List.map_append] using hm
  | alt p q ihp ihq =>
    simp only [readings, List.mem_append, List.mem_map] at h
    obtain ⟨y, hy, rfl⟩ | ⟨y, hy, rfl⟩ := h
    · obtain ⟨t, ht, rfl⟩ := ihp hy
      refine ⟨t, ?_, rfl⟩
      simpa only [Reading.captures, List.map_append, map_text_absent] using Matches.left ht
    · obtain ⟨t, ht, rfl⟩ := ihq hy
      refine ⟨t, ?_, rfl⟩
      simpa only [Reading.captures, List.map_append, map_text_absent] using Matches.right ht
  | slot p ih =>
    obtain ⟨y, hy, rfl⟩ := List.mem_map.1 h
    obtain ⟨t, ht, rfl⟩ := ih hy
    refine ⟨t, ?_, rfl⟩
    simpa only [Reading.captures, List.map_cons, Option.map_some, text_of_append] using
      Matches.slot ht

lemma readings_complete (h : p.Matches v t) (r : List Char) :
    ∃ x ∈ p.readings (t ++ r), x.captures = v ∧ x.rest = r := by
  induction h generalizing r with
  | empty => exact ⟨⟨[], r⟩, List.mem_singleton_self _, rfl, rfl⟩
  | @one accepts c hc => exact ⟨⟨[], r⟩, by simp [readings, hc], rfl, rfl⟩
  | @many accepts t ht =>
    exact ⟨⟨[], r⟩, List.mem_map.2 ⟨r, mem_remainders.2 (.inr ⟨t, ht, rfl⟩), rfl⟩, rfl, rfl⟩
  | @seq p q v w t u _ _ ihp ihq =>
    obtain ⟨x, hx, rfl, hxr⟩ := ihp (u ++ r)
    obtain ⟨y, hy, rfl, rfl⟩ := ihq r
    refine ⟨⟨x.slots ++ y.slots, y.rest⟩, ?_, by simp [Reading.captures], rfl⟩
    simp only [readings, List.mem_flatMap, List.mem_map, List.append_assoc]
    exact ⟨x, hx, y, hxr ▸ hy, rfl⟩
  | @left p q v t _ ih =>
    obtain ⟨x, hx, rfl, rfl⟩ := ih r
    refine ⟨⟨x.slots ++ absent q.width, x.rest⟩, ?_, ?_, rfl⟩
    · exact List.mem_append_left _ (List.mem_map.2 ⟨x, hx, rfl⟩)
    · simp only [Reading.captures, List.map_append, map_text_absent]
  | @right p q v t _ ih =>
    obtain ⟨x, hx, rfl, rfl⟩ := ih r
    refine ⟨⟨absent p.width ++ x.slots, x.rest⟩, ?_, ?_, rfl⟩
    · exact List.mem_append_right _ (List.mem_map.2 ⟨x, hx, rfl⟩)
    · simp only [Reading.captures, List.map_append, map_text_absent]
  | @slot p v t _ ih =>
    obtain ⟨x, hx, rfl, rfl⟩ := ih r
    refine ⟨⟨some ⟨t ++ x.rest, x.rest⟩ :: x.slots, x.rest⟩, ?_, ?_, rfl⟩
    · exact List.mem_map.2 ⟨x, hx, rfl⟩
    · simp only [Reading.captures, List.map_cons, Option.map_some, text_of_append]

def reads (p : Pattern) (t : List Char) : Bool :=
  (p.readings t).any fun x => x.rest = []

lemma reads_iff : p.reads t ↔ p.Accepts t := by
  simp only [reads, List.any_eq_true, decide_eq_true_eq]
  constructor
  · rintro ⟨x, hx, hr⟩
    obtain ⟨u, hu, rfl⟩ := readings_sound hx
    rw [hr, List.append_nil]
    exact ⟨_, hu⟩
  · rintro ⟨v, h⟩
    obtain ⟨x, hx, -, hr⟩ := readings_complete h []
    rw [List.append_nil] at hx
    exact ⟨x, hx, hr⟩

instance : Decidable (p.Accepts t) :=
  decidable_of_iff _ reads_iff

lemma starts_iff_readings : p.Starts s ↔ p.readings s ≠ [] := by
  rw [starts_iff]
  constructor
  · rintro ⟨v, t, r, h, rfl⟩
    obtain ⟨x, hx, -, -⟩ := readings_complete h r
    exact List.ne_nil_of_mem hx
  · intro h
    obtain ⟨x, hx⟩ := List.exists_mem_of_ne_nil _ h
    obtain ⟨t, ht, rfl⟩ := readings_sound hx
    exact ⟨_, t, _, ht, rfl⟩

instance : Decidable (p.Starts s) :=
  decidable_of_iff _ starts_iff_readings.symm

end Pattern

end Telematics.Sentence
