import Mathlib.Tactic.Common
import Mathlib.Tactic.Ring
import Telematics.Numeral.Integer

namespace Telematics.Numeral

open Text

variable {radix : Nat} {s : List Char} {ds : List Nat} {n : Int}

lemma digitRun?_step {c : Char} {r : List Char}
    (ih : ∀ {es}, digitRun? radix r = some es → (∀ d ∈ es, d < radix) ∧ es.length ≤ r.length)
    (h : ((digitValue? radix c).bind fun d => (digitRun? radix r).bind fun es => some (d :: es)) =
      some ds) : (∀ d ∈ ds, d < radix) ∧ ds.length ≤ r.length + 1 := by
  obtain ⟨d, hd, h⟩ := Option.bind_eq_some_iff.1 h
  obtain ⟨es, he, h⟩ := Option.bind_eq_some_iff.1 h
  obtain rfl := Option.some.inj h
  obtain ⟨hlt, hlen⟩ := ih he
  refine ⟨?_, Nat.succ_le_succ hlen⟩
  intro e hmem
  obtain rfl | hmem := List.mem_cons.1 hmem
  · exact digitValue?_lt hd
  · exact hlt e hmem

lemma digitRun?_spec (h : digitRun? radix s = some ds) :
    (∀ d ∈ ds, d < radix) ∧ ds.length ≤ s.length := by
  fun_induction digitRun? radix s generalizing ds with
  | case1 => cases h
  | case2 c =>
    obtain ⟨d, hd, rfl⟩ := Option.map_eq_some_iff.1 h
    exact ⟨by simpa using digitValue?_lt hd, by simp⟩
  | case3 c r ih =>
    obtain ⟨hlt, hlen⟩ := digitRun?_step ih h
    exact ⟨hlt, hlen.trans (Nat.le_succ _)⟩
  | case4 c x r hx ih => exact digitRun?_step ih h

lemma foldl_lt (h : ∀ d ∈ ds, d < radix) (n : Nat) :
    ds.foldl (fun n d => n * radix + d) n < (n + 1) * radix ^ ds.length := by
  induction ds generalizing n with
  | nil => simp
  | cons d ds ih =>
    have hd := h d List.mem_cons_self
    have step : n * radix + d + 1 ≤ (n + 1) * radix := by
      rw [Nat.add_mul]
      omega
    calc ds.foldl (fun n d => n * radix + d) (n * radix + d)
        < (n * radix + d + 1) * radix ^ ds.length := ih (fun e he => h e (.tail d he)) _
      _ ≤ (n + 1) * radix * radix ^ ds.length := Nat.mul_le_mul_right _ step
      _ = (n + 1) * radix ^ (d :: ds).length := by rw [List.length_cons]; ring

lemma ofDigits_lt (h : ∀ d ∈ ds, d < radix) : ofDigits radix ds < radix ^ ds.length := by
  have hf := foldl_lt h 0
  rwa [Nat.zero_add, Nat.one_mul] at hf

lemma ofDigits_lt_pow {m : Nat} (hr : 0 < radix) (h : ∀ d ∈ ds, d < radix) (hm : ds.length ≤ m) :
    ofDigits radix ds < Nat.pow radix m :=
  Nat.lt_of_lt_of_le (ofDigits_lt h) (Nat.pow_le_pow_right hr hm)

lemma natAbs_withSign (b : Bool) (n : Nat) : (withSign b n).natAbs = n := by
  cases b <;> simp [withSign]

lemma integer?_eq_some {s : String} (h : integer? radix s = some n) : ∃ ds,
    digitRun? radix (dropRadixMark radix (splitSign (plain s)).2) = some ds ∧
    (radix = 10 → ds.length ≤ digitLimit) ∧ n.natAbs = ofDigits radix ds := by
  obtain ⟨ds, hd, h⟩ := Option.bind_eq_some_iff.1 h
  refine ⟨ds, hd, ?_⟩
  by_cases hl : radix = 10 ∧ digitLimit < ds.length
  · rw [if_pos hl] at h
    cases h
  · rw [if_neg hl] at h
    obtain rfl := Option.some.inj h
    exact ⟨fun hr => Nat.le_of_not_lt fun hlt => hl ⟨hr, hlt⟩, natAbs_withSign _ _⟩

lemma natAbs_lt_textBound {s : String} (h : integer? 10 s = some n) : n.natAbs < textBound := by
  obtain ⟨ds, hd, hl, hn⟩ := integer?_eq_some h
  rw [hn]
  unfold textBound
  generalize digitLimit = limit at hl ⊢
  exact ofDigits_lt_pow (by decide) (digitRun?_spec hd).1 (hl rfl)

lemma length_trimOf_le (p : Char → Bool) (s : List Char) : (trimOf p s).length ≤ s.length := by
  have h₁ := (List.dropWhile_suffix p (l := s)).length_le
  have h₂ := (List.dropWhile_suffix p (l := (s.dropWhile p).reverse)).length_le
  rw [List.length_reverse] at h₂
  rw [trimOf, List.length_reverse]
  exact h₂.trans h₁

lemma length_splitSign_le (s : List Char) : (splitSign s).2.length ≤ s.length := by
  unfold splitSign
  split <;> simp

lemma length_dropRadixMark_le (radix : Nat) (s : List Char) :
    (dropRadixMark radix s).length ≤ s.length := by
  unfold dropRadixMark
  split
  · split
    · split
      · simp only [List.length_cons]
        omega
      · simp only [List.length_cons]
        omega
    · exact Nat.le_refl _
  · exact Nat.le_refl _

lemma natAbs_lt_pow {s : String} (hr : 0 < radix) (h : integer? radix s = some n) :
    n.natAbs < radix ^ s.toList.length := by
  obtain ⟨ds, hd, -, hn⟩ := integer?_eq_some h
  obtain ⟨hlt, hlen⟩ := digitRun?_spec hd
  have h₁ := length_dropRadixMark_le radix (splitSign (plain s)).2
  have h₂ := length_splitSign_le (plain s)
  have h₃ := length_trimOf_le isAsciiBlank (s.toList.map plainChar)
  rw [List.length_map] at h₃
  rw [hn]
  exact ofDigits_lt_pow hr hlt (hlen.trans (h₁.trans (h₂.trans h₃)))

lemma digitRun?_replicate (n : Nat) :
    digitRun? 16 (List.replicate (n + 1) 'F') = some (List.replicate (n + 1) 15) := by
  induction n with
  | zero => rfl
  | succ n ih =>
    have step : digitRun? 16 ('F' :: 'F' :: List.replicate n 'F') =
        (digitRun? 16 ('F' :: List.replicate n 'F')).bind fun ds => some (15 :: ds) := rfl
    rw [List.replicate_succ] at ih
    rw [List.replicate_succ, List.replicate_succ, step, ih]
    rfl

lemma ofDigits_replicate (n : Nat) : ofDigits 16 (List.replicate n 15) + 1 = 16 ^ n := by
  have run : ∀ m, (List.replicate n 15).foldl (fun n d => n * 16 + d) m + 1 = (m + 1) * 16 ^ n := by
    induction n with
    | zero => simp
    | succ n ih =>
      intro m
      rw [List.replicate_succ, List.foldl_cons, ih]
      ring
  rw [ofDigits, run 0, Nat.zero_add, Nat.one_mul]

lemma integer?_replicate (n : Nat) : integer? 16 (String.ofList (List.replicate (n + 1) 'F')) =
    some (ofDigits 16 (List.replicate (n + 1) 15)) := by
  have blank (m : Nat) : (List.replicate (m + 1) 'F').dropWhile isAsciiBlank =
      List.replicate (m + 1) 'F' := rfl
  have text : plain (String.ofList (List.replicate (n + 1) 'F')) = List.replicate (n + 1) 'F' := by
    rw [plain, String.toList_ofList, List.map_replicate]
    change trimOf isAsciiBlank (List.replicate (n + 1) 'F') = _
    rw [trimOf, blank, List.reverse_replicate, blank, List.reverse_replicate]
  have sign : splitSign (List.replicate (n + 1) 'F') = (false, List.replicate (n + 1) 'F') := rfl
  have mark : dropRadixMark 16 (List.replicate (n + 1) 'F') = List.replicate (n + 1) 'F' := rfl
  rw [integer?, text, sign]
  simp only [mark, digitRun?_replicate]
  rfl

end Telematics.Numeral
