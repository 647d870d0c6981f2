import Mathlib.Data.List.Basic
import Mathlib.Data.List.Find
import Telematics.Network
import Telematics.Proofs.Result

/-! A block of cells is a row of conversions, each of the token at one place. -/

namespace Telematics.Network

open Telematics.Field

variable {α β : Type} {tokens : List String}

structure Conversion where
  field : String
  radix : Nat
  place : Nat

def servingConversions : List Conversion :=
  [⟨"mcc", 10, 1⟩, ⟨"mnc", 10, 2⟩, ⟨"lac", 16, 3⟩, ⟨"cid", 16, 4⟩, ⟨"signal", 10, 0⟩]

def triples : List Nat := [5, 8, 11, 14]

def neighborConversions (start : Nat) : List Conversion :=
  [⟨"lac", 16, start + 1⟩, ⟨"cid", 16, start + 2⟩]

def conversions : List Conversion :=
  servingConversions ++ triples.flatMap neighborConversions

def number? (tokens : List String) (radix place : Nat) : Option Int :=
  tokens[place]?.bind (Numeral.integer? radix)

def numberAt (tokens : List String) (radix place : Nat) : Int :=
  (number? tokens radix place).getD 0

namespace Conversion

def succeeds (tokens : List String) (c : Conversion) : Bool :=
  (number? tokens c.radix c.place).isSome

def error (tokens : List String) (c : Conversion) : ConversionError :=
  ⟨c.field, tokens[c.place]?, none⟩

end Conversion

def neighborAt (tokens : List String) (start : Nat) : Option Tower :=
  let area := numberAt tokens 16 (start + 1)
  let cell := numberAt tokens 16 (start + 2)
  if 0 < area ∧ 0 < cell then
    some ⟨numberAt tokens 10 1, numberAt tokens 10 2, area, cell, none⟩
  else none

def servingAt (tokens : List String) : Tower where
  country := numberAt tokens 10 1
  network := numberAt tokens 10 2
  area := numberAt tokens 16 3
  cell := numberAt tokens 16 4
  signal := some (numberAt tokens 10 0)

def assembled (tokens : List String) : Network where
  serving := servingAt tokens
  neighbors := triples.filterMap (neighborAt tokens)

def firstFailing? (tokens : List String) (cs : List Conversion) : Option Conversion :=
  cs.find? fun c => !c.succeeds tokens

def outcome (tokens : List String) (cs : List Conversion) (a : α) : Result α :=
  match firstFailing? tokens cs with
  | some c => .error (c.error tokens)
  | none => .ok a

lemma outcome_convert (c : Conversion) :
    convert (Numeral.integer? c.radix) c.field tokens[c.place]? =
      outcome tokens [c] (numberAt tokens c.radix c.place) := by
  have read : tokens[c.place]?.bind (Numeral.integer? c.radix) = number? tokens c.radix c.place := rfl
  rw [convert, read, outcome, firstFailing?, List.find?_singleton, Conversion.succeeds, numberAt]
  cases number? tokens c.radix c.place with
  | none => rfl
  | some n => rfl

lemma outcome_bind {cs ds : List Conversion} {x : Result α} {f : α → Result β} {a : α} {b : β}
    (hx : x = outcome tokens cs a) (hf : f a = outcome tokens ds b) :
    x >>= f = outcome tokens (cs ++ ds) b := by
  rw [hx, outcome, outcome, firstFailing?, firstFailing?, List.find?_append]
  cases cs.find? fun c => !c.succeeds tokens with
  | some c => rfl
  | none => exact hf

lemma outcome_mapM {ι : Type} {f : ι → Result β} {v : ι → β} {g : ι → List Conversion}
    {l : List ι} (h : ∀ i ∈ l, f i = outcome tokens (g i) (v i)) :
    l.mapM f = outcome tokens (l.flatMap g) (l.map v) := by
  induction l with
  | nil => rfl
  | cons i l ih =>
    have rest := ih fun j hj => h j (List.mem_cons_of_mem i hj)
    rw [List.mapM_cons, List.flatMap_cons]
    refine outcome_bind (h i List.mem_cons_self) ?_
    -- the last step puts the values together and converts nothing
    rw [← List.append_nil (l.flatMap g)]
    exact outcome_bind rest rfl

lemma outcome_eq_ok_iff {cs : List Conversion} {a b : α} :
    outcome tokens cs a = .ok b ↔ (∀ c ∈ cs, c.succeeds tokens) ∧ b = a := by
  have none_iff : firstFailing? tokens cs = none ↔ ∀ c ∈ cs, c.succeeds tokens := by
    simp [firstFailing?]
  rw [outcome, ← none_iff]
  cases firstFailing? tokens cs with
  | some c => simp
  | none => simp [eq_comm]

lemma outcome_eq_error_iff {cs : List Conversion} {a : α} {e : ConversionError} :
    outcome tokens cs a = .error e ↔
      ∃ c, firstFailing? tokens cs = some c ∧ e = c.error tokens := by
  rw [outcome]
  cases firstFailing? tokens cs with
  | some c => simp [eq_comm]
  | none => simp

lemma outcome_cons (c : Conversion) {ds : List Conversion} {f : Int → Result β} {b : β}
    (hf : f (numberAt tokens c.radix c.place) = outcome tokens ds b) :
    convert (Numeral.integer? c.radix) c.field tokens[c.place]? >>= f =
      outcome tokens (c :: ds) b :=
  outcome_bind (outcome_convert c) hf

lemma servingTower_eq {signal mcc mnc lac cid : String} (hs : tokens[0]? = some signal)
    (hmcc : tokens[1]? = some mcc) (hmnc : tokens[2]? = some mnc) (hl : tokens[3]? = some lac)
    (hc : tokens[4]? = some cid) : servingTower signal mcc mnc lac cid =
      outcome tokens servingConversions (servingAt tokens) := by
  rw [servingTower, ← hs, ← hmcc, ← hmnc, ← hl, ← hc]
  refine outcome_cons ⟨"mcc", 10, 1⟩ ?_
  refine outcome_cons ⟨"mnc", 10, 2⟩ ?_
  refine outcome_cons ⟨"lac", 16, 3⟩ ?_
  refine outcome_cons ⟨"cid", 16, 4⟩ ?_
  exact outcome_cons ⟨"signal", 10, 0⟩ rfl

lemma neighborTower_eq {start : Nat} {lac cid : String} (hl : tokens[start + 1]? = some lac)
    (hc : tokens[start + 2]? = some cid) :
    neighborTower (servingAt tokens) lac cid =
      outcome tokens (neighborConversions start) (neighborAt tokens start) := by
  rw [neighborTower, ← hl, ← hc]
  refine outcome_cons ⟨"lac", 16, start + 1⟩ ?_
  refine outcome_cons ⟨"cid", 16, start + 2⟩ ?_
  rw [neighborAt]
  split_ifs <;> rfl

lemma getElem?_getD {place : Nat} (h : place < tokens.length) :
    tokens[place]? = some (tokens.getD place "") := by
  rw [List.getD_eq_getElem?_getD, List.getElem?_eq_getElem h, Option.getD_some]

lemma neighborTowers_eq (count : tokens.length = tokenCount) :
    (triples.map fun start => (tokens.getD (start + 1) "", tokens.getD (start + 2) "")).mapM
      (fun t => neighborTower (servingAt tokens) t.1 t.2) =
        outcome tokens (triples.flatMap neighborConversions) (triples.map (neighborAt tokens)) := by
  have inside : ∀ start ∈ triples, start + 2 < tokens.length := by
    rw [count]
    decide
  rw [List.mapM_map]
  apply outcome_mapM
  intro start hs
  have last := inside start hs
  exact neighborTower_eq (getElem?_getD (by omega)) (getElem?_getD last)

lemma ofTokens_eq (count : tokens.length = tokenCount) :
    ofTokens tokens = outcome tokens conversions (assembled tokens) := by
  match tokens, count with
  | [signal, mcc, mnc, lac, cid, a, b, c, d, e, f, g, h, i, j, k, l], count =>
    -- with the tokens in sight, places and neighbor tokens are read off by evaluation
    have neighbors := neighborTowers_eq count
    rw [ofTokens, if_pos count]
    refine outcome_bind (servingTower_eq rfl rfl rfl rfl rfl) ?_
    rw [← List.append_nil (triples.flatMap neighborConversions)]
    refine outcome_bind neighbors ?_
    rw [List.filterMap_map]
    rfl

lemma ofTokens_of_length_ne (count : tokens.length ≠ tokenCount) :
    ofTokens tokens =
      .error ⟨"network", some (joined tokens), some (.tokenCount tokenCount)⟩ := by
  unfold ofTokens
  split
  · exact if_neg count
  · rfl

lemma eq_assembled {net : Network} (h : ofTokens tokens = .ok net) : net = assembled tokens := by
  by_cases count : tokens.length = tokenCount
  · rw [ofTokens_eq count] at h
    exact (outcome_eq_ok_iff.1 h).2
  · rw [ofTokens_of_length_ne count] at h
    cases h

lemma mem_neighbors {t : Tower} (h : t ∈ (assembled tokens).neighbors) : 0 < t.area ∧ 0 < t.cell ∧
    t = ⟨(servingAt tokens).country, (servingAt tokens).network, t.area, t.cell, none⟩ := by
  obtain ⟨start, -, h⟩ := List.mem_filterMap.1 h
  simp only [neighborAt] at h
  split_ifs at h with positive
  cases h
  exact ⟨positive.1, positive.2, rfl⟩

lemma length_neighbors_le (tokens : List String) : (assembled tokens).neighbors.length ≤ 4 :=
  List.length_filterMap_le (neighborAt tokens) triples

/-- The blocks have the same tokens but where a triple starts. -/
def Alike (tokens others : List String) : Prop :=
  ∀ place, place ∉ triples → others[place]? = tokens[place]?

lemma Alike.numberAt_eq {others : List String} (h : Alike tokens others) (radix place : Nat)
    (hp : place ∉ triples) : numberAt others radix place = numberAt tokens radix place := by
  rw [numberAt, numberAt, number?, number?, h place hp]

lemma Alike.assembled_eq {others : List String} (h : Alike tokens others) :
    assembled others = assembled tokens := by
  have country := h.numberAt_eq 10 1 (by decide)
  have network := h.numberAt_eq 10 2 (by decide)
  have serving : servingAt others = servingAt tokens := by
    rw [servingAt, servingAt, country, network, h.numberAt_eq 16 3 (by decide),
      h.numberAt_eq 16 4 (by decide), h.numberAt_eq 10 0 (by decide)]
  have inner : ∀ start ∈ triples, start + 1 ∉ triples ∧ start + 2 ∉ triples := by decide
  have neighbors : triples.filterMap (neighborAt others) = triples.filterMap (neighborAt tokens) := by
    apply List.filterMap_congr
    intro start hs
    obtain ⟨area, cell⟩ := inner start hs
    rw [neighborAt, neighborAt, country, network, h.numberAt_eq 16 _ area, h.numberAt_eq 16 _ cell]
  rw [assembled, assembled, serving, neighbors]

lemma Alike.outcome_eq {others : List String} (h : Alike tokens others) (a : α) :
    outcome others conversions a = outcome tokens conversions a := by
  have read : ∀ c ∈ conversions, c.place ∉ triples := by decide
  have same : firstFailing? others conversions = firstFailing? tokens conversions := by
    apply List.find?_congr
    intro c hc
    rw [Conversion.succeeds, Conversion.succeeds, number?, number?, h c.place (read c hc)]
  rw [outcome, outcome, same]
  cases failing : firstFailing? tokens conversions with
  | none => rfl
  | some c =>
    have hc := List.mem_of_find?_eq_some failing
    simp only [Conversion.error, h c.place (read c hc)]

/-- A block is a network if it has seventeen tokens and all its conversions succeed, else the first
conversion that fails is its error. The tokens at which the triples start are not read. -/
theorem ofTokens_conversions (tokens : List String) :
    ((∃ n, ofTokens tokens = .ok n) ↔
      tokens.length = 17 ∧ ∀ c ∈ conversions, c.succeeds tokens) ∧
    (∀ n, ofTokens tokens = .ok n → n = assembled tokens ∧
      n.towers.head? = some (servingAt tokens) ∧ 1 ≤ n.towers.length ∧ n.towers.length ≤ 5) ∧
    (∀ e, ofTokens tokens = .error e ↔
      tokens.length ≠ 17 ∧ e = ⟨"network", some (joined tokens), some (.tokenCount 17)⟩ ∨
      tokens.length = 17 ∧
        ∃ c, firstFailing? tokens conversions = some c ∧ e = c.error tokens) ∧
    ∀ others, tokens.length = 17 → others.length = 17 → Alike tokens others →
      ofTokens others = ofTokens tokens := by
  by_cases count : tokens.length = 17
  · rw [ofTokens_eq count]
    refine ⟨?_, ?_, fun e => ?_, ?_⟩
    · simp [outcome_eq_ok_iff, count]
    · rintro n hn
      obtain ⟨-, rfl⟩ := outcome_eq_ok_iff.1 hn
      exact ⟨rfl, rfl, Nat.succ_pos _, Nat.succ_le_succ (length_neighbors_le tokens)⟩
    · simp [outcome_eq_error_iff, count]
    · rintro others - count' alike
      rw [ofTokens_eq count', alike.assembled_eq, alike.outcome_eq]
  · rw [ofTokens_of_length_ne count]
    refine ⟨by simp [count], ?_, fun e => ?_, fun others h => absurd h count⟩
    · rintro n hn
      cases hn
    · simp [count, tokenCount, eq_comm]

end Telematics.Network
