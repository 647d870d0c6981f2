import Telematics.Field
import Telematics.Proofs.Numeral.Digits

namespace Telematics.Field

open Numeral Text

variable {name s : String}

/-- A minus sign between blanks and a numeral, where it is not the first character. -/
def HidesMinus (s : String) : Prop :=
  ∃ b r, s.toList = b ++ '-' :: r ∧ b ≠ [] ∧ (∀ c ∈ b, isOuterBlank c) ∧
    (∃ c ∈ r.head?, isDecimalDigit c) ∧ (integer? 2 (String.ofList r)).isSome

lemma binary_cases (name s : String) :
    binary name (some s) = .error ⟨name, some s, some .binaryDigits⟩ ∧
        (∀ c ∈ s.toList.head?, c = '-' ∨ c = '+') ∨
      binary name (some s) = convert (integer? 2) name (some s) ∧
        ∃ c ∈ s.toList.head?, c ≠ '-' ∧ c ≠ '+' := by
  unfold binary
  rw [Option.getD_some]
  cases s.toList with
  | nil => exact .inl ⟨rfl, by simp⟩
  | cons c r =>
    by_cases minus : c = '-'
    · subst minus
      exact .inl ⟨rfl, by simp⟩
    · by_cases plus : c = '+'
      · subst plus
        exact .inl ⟨rfl, by simp⟩
      · refine .inr ⟨?_, c, rfl, minus, plus⟩
        split
        · simp_all
        · simp_all
        · simp_all
        · rfl

lemma HidesMinus.converted (h : HidesMinus s) (name : String) :
    binary name (some s) = .ok (-(ofDigits 2 (digitsIn 2 s.toList) : Int)) := by
  obtain ⟨b, r, hs, filled, blank, first, value⟩ := h
  obtain ⟨m, hm⟩ := Option.isSome_iff_exists.1 value
  obtain ⟨x, b, rfl⟩ := List.exists_cons_of_ne_nil filled
  have text : s = String.ofList (x :: b ++ '-' :: r) := by
    rw [← hs, String.ofList_toList]
  have read : integer? 2 s = some (-m) := by
    rw [text, integer?_negated 2 blank first, hm]
    rfl
  have minus : '-' ∈ s.toList := by
    rw [hs]
    exact List.mem_append_right _ List.mem_cons_self
  obtain ⟨-, sign⟩ | ⟨converts, -⟩ := binary_cases name s
  · have outer := blank x List.mem_cons_self
    rw [hs] at sign
    obtain rfl | rfl := sign x rfl
    · exact absurd outer (by decide)
    · exact absurd outer (by decide)
  · rw [converts, convert, Option.bind_some, read, integer?_eq_digits (by decide) read, withSign]
    simp [minus]

lemma hidesMinus_of_converted {n : Int} (read : integer? 2 s = some n) (hm : '-' ∈ s.toList)
    (first : ∃ c ∈ s.toList.head?, c ≠ '-' ∧ c ≠ '+') : HidesMinus s := by
  obtain ⟨b, r, hs, blank, digit⟩ := exists_negated (by decide) read hm
  refine ⟨b, r, hs, ?_, blank, digit, ?_⟩
  · rintro rfl
    obtain ⟨c, hc, minus, -⟩ := first
    rw [hs] at hc
    cases hc
    exact minus rfl
  · have text : s = String.ofList (b ++ '-' :: r) := by
      rw [← hs, String.ofList_toList]
    rw [text, integer?_negated 2 blank digit] at read
    obtain ⟨m, hm, -⟩ := Option.map_eq_some_iff.1 read
    rw [hm]
    rfl

/-- A text is refused or converts to the number of its binary digits, and then there is no minus
sign in it, unless it hides one behind blanks: such a text converts to the negative number. -/
theorem binary_value (name s : String) :
    (¬ HidesMinus s →
      (∃ reason, binary name (some s) = .error ⟨name, some s, reason⟩) ∨
        '-' ∉ s.toList ∧ binary name (some s) = .ok (ofDigits 2 (digitsIn 2 s.toList) : Int)) ∧
    (HidesMinus s →
      '-' ∈ s.toList ∧ binary name (some s) = .ok (-(ofDigits 2 (digitsIn 2 s.toList) : Int))) := by
  refine ⟨fun bare => ?_, fun hidden => ⟨?_, hidden.converted name⟩⟩
  · obtain ⟨refused, -⟩ | ⟨converts, first⟩ := binary_cases name s
    · exact .inl ⟨_, refused⟩
    · rw [converts, convert, Option.bind_some]
      cases read : integer? 2 s with
      | none => exact .inl ⟨none, rfl⟩
      | some n =>
        have unsigned : '-' ∉ s.toList := fun hm => bare (hidesMinus_of_converted read hm first)
        refine .inr ⟨unsigned, ?_⟩
        rw [integer?_eq_digits (by decide) read, withSign]
        simp [unsigned]
  · obtain ⟨b, r, hs, -⟩ := hidden
    rw [hs]
    exact List.mem_append_right _ List.mem_cons_self

theorem binary_of_hidden_minus : binary "flags" (some " -1") = .ok (-1) := by
  decide

end Telematics.Field
