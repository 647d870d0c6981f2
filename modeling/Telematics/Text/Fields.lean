namespace Telematics.Text

variable {α : Type} [DecidableEq α]

def fields (sep : α) : List α → List (List α)
  | [] => [[]]
  | c :: r =>
    if c = sep then [] :: fields sep r
    else match fields sep r with
      | [] => [[c]]
      | f :: fs => (c :: f) :: fs

theorem fields_ne_nil (sep : α) (s : List α) : fields sep s ≠ [] := by
  cases s with
  | nil => simp [fields]
  | cons c r =>
    simp only [fields]
    split
    · simp
    · split <;> simp

theorem intercalate_fields (sep : α) (s : List α) :
    [sep].intercalate (fields sep s) = s := by
  induction s with
  | nil => rfl
  | cons c r ih =>
    cases hf : fields sep r with
    | nil => exact absurd hf (fields_ne_nil sep r)
    | cons f fs =>
      rw [hf] at ih
      by_cases hc : c = sep <;> cases fs <;> simp_all [fields, List.intercalate]

def fieldsOf (sep : Char) (s : String) : List String :=
  (fields sep s.toList).map String.ofList

end Telematics.Text
