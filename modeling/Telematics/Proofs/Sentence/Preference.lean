import Mathlib.Data.List.Basic
import Telematics.Proofs.Sentence.Language

/-! The preferred reading of a text. -/

namespace Telematics.Sentence.Pattern

variable {p q k : Pattern} {v w : Captures} {s t u r : List Char} {a b : Char → Bool} {c : Char}

def preferred? (p : Pattern) (s : List Char) : Option (Captures × List Char) :=
  (p.readings s).head?.map fun x => (x.captures, x.rest)

lemma capture?_eq (p : Pattern) (s : String) :
    p.capture? s = (p.preferred? s.toList).map fun x => x.1.asSlots := by
  simp only [capture?, preferred?, Option.map_map]
  congr 1
  funext x
  simp [Captures.asSlots, Reading.captures, Function.comp_def]

lemma preferred?_eq_none : p.preferred? s = none ↔ ¬ p.Starts s := by
  rw [starts_iff_readings, preferred?, Option.map_eq_none_iff, List.head?_eq_none_iff, not_not]

lemma matches_of_preferred? (h : p.preferred? s = some (v, r)) :
    ∃ t, p.Matches v t ∧ s = t ++ r := by
  obtain ⟨x, hx, he⟩ := Option.map_eq_some_iff.1 h
  obtain ⟨rfl, rfl⟩ := Prod.mk.inj he
  exact readings_sound (List.mem_of_mem_head? hx)

/-! Texts that can be cut off in one way only. -/

lemma cut_unique {t u r k : List Char} (ht : c ∉ t) (hu : c ∉ u) (h : t ++ c :: r = u ++ c :: k) :
    t = u := by
  induction t generalizing u with
  | nil =>
    cases u with
    | nil => rfl
    | cons d u =>
      obtain ⟨rfl, -⟩ := List.cons.inj h
      exact absurd List.mem_cons_self hu
  | cons e t ih =>
    cases u with
    | nil =>
      obtain ⟨rfl, -⟩ := List.cons.inj h
      exact absurd List.mem_cons_self ht
    | cons d u =>
      obtain ⟨rfl, h'⟩ := List.cons.inj h
      rw [ih (mt (List.mem_cons_of_mem e) ht) (mt (List.mem_cons_of_mem e) hu) h']

def Deterministic (p : Pattern) : Prop :=
  ∀ ⦃v w t u r k⦄, p.Matches v t → p.Matches w u → t ++ r = u ++ k → v = w ∧ t = u

def Exclusive (p q : Pattern) : Prop :=
  ∀ ⦃s⦄, p.Starts s → ¬ q.Starts s

def Heads (p : Pattern) (a : Char → Bool) : Prop :=
  ∀ ⦃s⦄, p.Starts s → ∃ c r, s = c :: r ∧ a c

def avoids (c : Char) : Pattern → Bool
  | empty => true
  | one a | many a => !a c
  | seq p q | alt p q => p.avoids c && q.avoids c
  | slot p => p.avoids c

lemma Matches.avoids (h : p.Matches v t) (hp : p.avoids c) : c ∉ t := by
  induction h with
  | empty => simp
  | one h => rintro hc; simp_all [Pattern.avoids]
  | many h => intro hc; simp_all [Pattern.avoids]
  | seq _ _ ihp ihq => simp_all [Pattern.avoids]
  | left _ ih => exact ih (by simp_all [Pattern.avoids])
  | right _ ih => exact ih (by simp_all [Pattern.avoids])
  | slot _ ih => exact ih hp

lemma heads_one : (one a).Heads a := by
  intro s h
  obtain ⟨v, t, r, hm, rfl⟩ := starts_iff.1 h
  obtain ⟨-, c, hc, rfl⟩ := matches_one.1 hm
  exact ⟨c, r, rfl, hc⟩

lemma Heads.seq (hp : p.Heads a) (q : Pattern) : (p ++ q).Heads a :=
  fun _ h => hp h.of_seq

lemma Heads.slot (hp : p.Heads a) : (slot p).Heads a := by
  intro s h
  obtain ⟨v, t, r, hm, rfl⟩ := starts_iff.1 h
  obtain ⟨w, hm, -⟩ := matches_slot.1 hm
  exact hp (hm.starts r)

lemma Heads.alt (hp : p.Heads a) (hq : q.Heads a) : (p <|> q).Heads a := by
  intro s h
  obtain h | h := starts_alt.1 h
  · exact hp h
  · exact hq h

lemma Heads.exclusive (hp : p.Heads a) (hq : q.Heads b) (h : ∀ c, a c → ¬ b c) :
    p.Exclusive q := by
  intro s hs hs'
  obtain ⟨c, r, rfl, hc⟩ := hp hs
  obtain ⟨d, k, he, hd⟩ := hq hs'
  obtain ⟨rfl, -⟩ := List.cons.inj he
  exact h c hc hd

lemma deterministic_empty : empty.Deterministic := by
  intro v w t u r k h h' _
  obtain ⟨rfl, rfl⟩ := matches_empty.1 h
  obtain ⟨rfl, rfl⟩ := matches_empty.1 h'
  exact ⟨rfl, rfl⟩

lemma deterministic_one : (one a).Deterministic := by
  intro v w t u r k h h' he
  obtain ⟨rfl, c, -, rfl⟩ := matches_one.1 h
  obtain ⟨rfl, d, -, rfl⟩ := matches_one.1 h'
  obtain ⟨rfl, -⟩ := List.cons.inj he
  exact ⟨rfl, rfl⟩

namespace Deterministic

lemma seq (hp : p.Deterministic) (hq : q.Deterministic) : (p ++ q).Deterministic := by
  intro v w t u r k h h' he
  obtain ⟨v₁, v₂, t₁, t₂, h₁, h₂, rfl, rfl⟩ := matches_seq.1 h
  obtain ⟨w₁, w₂, u₁, u₂, h₁', h₂', rfl, rfl⟩ := matches_seq.1 h'
  rw [List.append_assoc, List.append_assoc] at he
  obtain ⟨rfl, rfl⟩ := hp h₁ h₁' he
  obtain ⟨rfl, rfl⟩ := hq h₂ h₂' (List.append_cancel_left he)
  exact ⟨rfl, rfl⟩

lemma slot (hp : p.Deterministic) : (slot p).Deterministic := by
  intro v w t u r k h h' he
  obtain ⟨v, hm, rfl⟩ := matches_slot.1 h
  obtain ⟨w, hm', rfl⟩ := matches_slot.1 h'
  obtain ⟨rfl, rfl⟩ := hp hm hm' he
  exact ⟨rfl, rfl⟩

lemma times (hp : p.Deterministic) (n : Nat) : (times n p).Deterministic := by
  induction n with
  | zero => exact deterministic_empty
  | succ n ih =>
    cases n with
    | zero => exact hp
    | succ n => exact hp.seq ih

lemma optional_seq (hp : p.Deterministic) (hq : q.Deterministic) (he : p.Exclusive q) :
    (optional p ++ q).Deterministic := by
  -- either both texts begin with the option or neither does
  have mixed : ∀ {x y : Captures} {t₁ t₂ u r k : List Char},
      p.Matches x t₁ → q.Matches y u → t₁ ++ t₂ ++ r ≠ u ++ k := by
    intro x y t₁ t₂ u r k hx hy heq
    have hs := hx.starts (t₂ ++ r)
    rw [← List.append_assoc, heq] at hs
    exact he hs (hy.starts k)
  intro v w t u r k h h' heq
  obtain ⟨v₁, v₂, t₁, t₂, h₁, h₂, rfl, rfl⟩ := matches_seq.1 h
  obtain ⟨w₁, w₂, u₁, u₂, h₁', h₂', rfl, rfl⟩ := matches_seq.1 h'
  obtain ⟨x, hx, rfl⟩ | ⟨x, hx, rfl⟩ := matches_alt.1 h₁ <;>
    obtain ⟨y, hy, rfl⟩ | ⟨y, hy, rfl⟩ := matches_alt.1 h₁'
  · rw [List.append_assoc, List.append_assoc] at heq
    obtain ⟨rfl, rfl⟩ := hp hx hy heq
    obtain ⟨rfl, rfl⟩ := hq h₂ h₂' (List.append_cancel_left heq)
    exact ⟨rfl, rfl⟩
  · obtain ⟨rfl, rfl⟩ := matches_empty.1 hy
    exact absurd heq (mixed hx h₂')
  · obtain ⟨rfl, rfl⟩ := matches_empty.1 hx
    exact absurd heq.symm (mixed hy h₂)
  · obtain ⟨rfl, rfl⟩ := matches_empty.1 hx
    obtain ⟨rfl, rfl⟩ := matches_empty.1 hy
    obtain ⟨rfl, rfl⟩ := hq h₂ h₂' heq
    exact ⟨rfl, rfl⟩

lemma assoc : ((p ++ q) ++ k).Deterministic ↔ (p ++ (q ++ k)).Deterministic := by
  simp only [Deterministic, matches_assoc]

lemma append_optional (hp : p.Deterministic) (hq : q.Deterministic) (hk : k.Deterministic)
    (he : q.Exclusive k) : ((p ++ optional q) ++ k).Deterministic :=
  assoc.2 (hp.seq (hq.optional_seq hk he))

/-- A text is cut off at the first end mark if the mark does not occur inside. -/
lemma terminated (hp : p.avoids c) (hv : ∀ ⦃v w t⦄, p.Matches v t → p.Matches w t → v = w) :
    (p ++ one (· = c)).Deterministic := by
  intro v w t u r k h h' he
  obtain ⟨v₁, _, t₁, _, h₁, h₂, rfl, rfl⟩ := matches_seq.1 h
  obtain ⟨w₁, _, u₁, _, h₁', h₂', rfl, rfl⟩ := matches_seq.1 h'
  obtain ⟨rfl, d, hd, rfl⟩ := matches_one.1 h₂
  obtain ⟨rfl, e, he', rfl⟩ := matches_one.1 h₂'
  obtain rfl := of_decide_eq_true hd
  obtain rfl := of_decide_eq_true he'
  simp only [List.append_assoc, List.singleton_append] at he
  obtain rfl := cut_unique (h₁.avoids hp) (h₁'.avoids hp) he
  obtain rfl := hv h₁ h₁'
  exact ⟨rfl, rfl⟩

lemma starts_seq (hp : p.Deterministic) (h : p.Matches v t) :
    (p ++ q).Starts (t ++ r) ↔ q.Starts r := by
  rw [Pattern.starts_seq]
  constructor
  · rintro ⟨w, u, k, hm, he, hq⟩
    obtain ⟨-, rfl⟩ := hp h hm he
    rwa [List.append_cancel_left he]
  · intro hq
    exact ⟨v, t, r, h, rfl, hq⟩

lemma findSome?_readings {β : Type} (hp : p.Deterministic) (h : p.Matches v t)
    {g : Reading → Option β} {b : Option β} (hg : ∀ x, x.captures = v → x.rest = r → g x = b) :
    (p.readings (t ++ r)).findSome? g = b := by
  have all : ∀ x ∈ p.readings (t ++ r), g x = b := by
    intro x hx
    obtain ⟨u, hu, he⟩ := readings_sound hx
    obtain ⟨rfl, rfl⟩ := hp h hu he
    exact hg x rfl (List.append_cancel_left he).symm
  obtain ⟨y, hy, -, -⟩ := readings_complete h r
  cases b with
  | none => exact List.findSome?_eq_none_iff.2 all
  | some b =>
    cases hl : p.readings (t ++ r) with
    | nil => rw [hl] at hy; simp at hy
    | cons x l => simp [all x (by rw [hl]; exact List.mem_cons_self)]

end Deterministic

/-! What is preferred. -/

lemma readings_seq : (p ++ q).readings s = (p.readings s).flatMap fun x =>
    (q.readings x.rest).map fun y => ⟨x.slots ++ y.slots, y.rest⟩ := rfl

lemma readings_alt : (p <|> q).readings s =
    (p.readings s).map (fun x => ⟨x.slots ++ absent q.width, x.rest⟩) ++
      (q.readings s).map fun y => ⟨absent p.width ++ y.slots, y.rest⟩ := rfl

lemma readings_assoc : ((p ++ q) ++ k).readings s = (p ++ (q ++ k)).readings s := by
  simp only [readings_seq, List.flatMap_assoc, List.flatMap_map, List.map_flatMap, List.map_map,
    Function.comp_def, List.append_assoc]

lemma preferred?_assoc : ((p ++ q) ++ k).preferred? s = (p ++ (q ++ k)).preferred? s := by
  rw [preferred?, readings_assoc, preferred?]

lemma preferred?_seq_eq : (p ++ q).preferred? s = (p.readings s).findSome? fun x =>
    (q.preferred? x.rest).map fun y => (x.captures ++ y.1, y.2) := by
  rw [preferred?, readings_seq, List.head?_flatMap, List.map_findSome?]
  congr 1
  funext x
  simp [preferred?, Reading.captures, Function.comp_def]

lemma preferred?_alt : (p <|> q).preferred? s =
    ((p.preferred? s).map fun x => (x.1 ++ q.blanks, x.2)).or
      ((q.preferred? s).map fun x => (p.blanks ++ x.1, x.2)) := by
  rw [preferred?, readings_alt, List.head?_append, Option.map_or]
  simp [preferred?, Reading.captures, map_text_absent, Function.comp_def]

lemma preferred?_alt_seq : ((p <|> q) ++ k).preferred? s =
    ((p.readings s).findSome? fun x =>
      (k.preferred? x.rest).map fun y => (x.captures ++ q.blanks ++ y.1, y.2)).or
    ((q.readings s).findSome? fun x =>
      (k.preferred? x.rest).map fun y => (p.blanks ++ x.captures ++ y.1, y.2)) := by
  rw [preferred?_seq_eq, readings_alt, List.findSome?_append, List.findSome?_map,
    List.findSome?_map]
  simp only [Function.comp_def, Reading.captures, List.map_append, map_text_absent]

namespace Deterministic

lemma preferred?_eq (hp : p.Deterministic) (h : p.Matches v t) :
    p.preferred? (t ++ r) = some (v, r) := by
  cases he : p.preferred? (t ++ r) with
  | none => exact absurd (h.starts r) (preferred?_eq_none.1 he)
  | some y =>
    obtain ⟨u, hu, he⟩ := matches_of_preferred? he
    obtain ⟨rfl, rfl⟩ := hp h hu he
    rw [List.append_cancel_left he]

lemma preferred?_seq (hp : p.Deterministic) (h : p.Matches v t) :
    (p ++ q).preferred? (t ++ r) = (q.preferred? r).map fun y => (v ++ y.1, y.2) := by
  rw [preferred?_seq_eq]
  refine hp.findSome?_readings h ?_
  rintro x rfl rfl
  rfl

lemma preferred?_left (hp : p.Deterministic) (h : p.Matches v t) (hk : k.Starts r) :
    ((p <|> q) ++ k).preferred? (t ++ r) =
      (k.preferred? r).map fun y => (v ++ q.blanks ++ y.1, y.2) := by
  rw [preferred?_alt_seq, hp.findSome?_readings h
    (b := (k.preferred? r).map fun y => (v ++ q.blanks ++ y.1, y.2)) (by rintro x rfl rfl; rfl)]
  cases hr : k.preferred? r with
  | none => exact absurd hk (preferred?_eq_none.1 hr)
  | some y => rfl

lemma preferred?_right (hq : q.Deterministic) (h : q.Matches v t)
    (hp : ¬ (p ++ k).Starts (t ++ r)) :
    ((p <|> q) ++ k).preferred? (t ++ r) =
      (k.preferred? r).map fun y => (p.blanks ++ v ++ y.1, y.2) := by
  have none_left : ∀ x ∈ p.readings (t ++ r), k.preferred? x.rest = none := by
    intro x hx
    obtain ⟨u, hu, he⟩ := readings_sound hx
    rw [preferred?_eq_none]
    intro hk
    exact hp (Pattern.starts_seq.2 ⟨_, u, _, hu, he, hk⟩)
  rw [preferred?_alt_seq, List.findSome?_eq_none_iff.2 (fun x hx => by rw [none_left x hx]; rfl),
    Option.none_or]
  refine hq.findSome?_readings h ?_
  rintro x rfl rfl
  rfl

end Deterministic

end Telematics.Sentence.Pattern
