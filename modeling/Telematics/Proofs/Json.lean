import Mathlib.Tactic.Common
import Telematics.Json

namespace Telematics.Json

mutual

def integers : Json → List Int
  | null | bool _ | float _ | str _ => []
  | int n => [n]
  | arr items => itemIntegers items
  | obj members => memberIntegers members

def itemIntegers : List Json → List Int
  | [] => []
  | j :: js => integers j ++ itemIntegers js

def memberIntegers : List (String × Json) → List Int
  | [] => []
  | (_, j) :: ms => integers j ++ memberIntegers ms

end

def Short (n : Int) : Prop :=
  n.natAbs < Numeral.textBound

lemma length_toDigits_lt_iff (n : Nat) {limit : Nat} (h : 0 < limit) :
    ¬ n < Nat.pow 10 limit ↔ limit < (Nat.toDigits 10 n).length :=
  (not_congr (Nat.length_toDigits_le_iff (by decide) h).symm).trans Nat.not_le

lemma not_short_iff (n : Int) : ¬ Short n ↔ 4300 < (Nat.toDigits 10 n.natAbs).length := by
  unfold Short Numeral.textBound
  exact length_toDigits_lt_iff n.natAbs (by decide)

lemma isSome_text? {n : Int} : (Numeral.text? n).isSome ↔ Short n := by
  rw [Numeral.text?, Short]
  split <;> simp_all

mutual

lemma isSome_chars? (j : Json) : j.chars?.isSome ↔ ∀ n ∈ j.integers, Short n := by
  cases j with
  | null | bool b | float x | str s => simp [chars?, integers]
  | int n => simp [chars?, integers, isSome_text?]
  | arr items => simpa [chars?, integers] using isSome_itemChars? items
  | obj members => simpa [chars?, integers] using isSome_memberChars? members

lemma isSome_itemChars? (js : List Json) :
    (itemChars? js).isSome ↔ ∀ n ∈ itemIntegers js, Short n := by
  cases js with
  | nil => simp [itemChars?, itemIntegers]
  | cons j js =>
    have hj := isSome_chars? j
    have hjs := isSome_itemChars? js
    simp only [itemIntegers, List.forall_mem_append, ← hj, ← hjs, itemChars?]
    cases chars? j <;> cases itemChars? js <;> simp

lemma isSome_memberChars? (ms : List (String × Json)) :
    (memberChars? ms).isSome ↔ ∀ n ∈ memberIntegers ms, Short n := by
  match ms with
  | [] => simp [memberChars?, memberIntegers]
  | (name, j) :: ms =>
    have hj := isSome_chars? j
    have hms := isSome_memberChars? ms
    simp only [memberIntegers, List.forall_mem_append, ← hj, ← hms, memberChars?]
    cases chars? j <;> cases memberChars? ms <;> simp

end

lemma chars?_of_text? {j : Json} {line : String} (h : j.text? = some line) :
    j.chars? = some line.toList := by
  rw [text?, Option.map_eq_some_iff] at h
  obtain ⟨cs, hc, rfl⟩ := h
  rw [String.toList_ofList, hc]

lemma text?_eq_none (j : Json) : j.text? = none ↔ ∃ n ∈ j.integers, ¬ Short n := by
  have h := isSome_chars? j
  rw [text?, Option.map_eq_none_iff, ← Option.not_isSome_iff_eq_none, h]
  simp only [not_forall, exists_prop]

end Telematics.Json
