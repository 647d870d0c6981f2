import Mathlib.Tactic.Common

namespace Telematics

variable {ε ε' α β : Type} {x : Except ε α} {f : α → Except ε β} {g : α → β} {k : ε → ε'}
  {a : α} {b : β} {e : ε}

lemma bind_eq_ok : (x >>= f) = .ok b ↔ ∃ a, x = .ok a ∧ f a = .ok b := by
  cases x with
  | error e => simp [Bind.bind, Except.bind]
  | ok a => simp [Bind.bind, Except.bind]

lemma bind_eq_error : (x >>= f) = .error e ↔ x = .error e ∨ ∃ a, x = .ok a ∧ f a = .error e := by
  cases x with
  | error e => simp [Bind.bind, Except.bind]
  | ok a => simp [Bind.bind, Except.bind]

lemma map_eq_ok : (g <$> x) = .ok b ↔ ∃ a, x = .ok a ∧ g a = b := by
  cases x with
  | error e => simp [Functor.map, Except.map]
  | ok a => simp [Functor.map, Except.map]

lemma mapError_eq_ok : x.mapError k = .ok a ↔ x = .ok a := by
  cases x with
  | error e => simp [Except.mapError]
  | ok a => simp [Except.mapError]

lemma mapError_map_error {e : ε'} (h : (x.mapError k).map g = .error e) :
    ∃ e', x = .error e' ∧ k e' = e := by
  cases x with
  | ok a => cases h
  | error e' => cases h; exact ⟨e', rfl, rfl⟩

lemma exists_ok (h : x.toOption.isSome) : ∃ a, x = .ok a := by
  cases x with
  | ok a => exact ⟨a, rfl⟩
  | error e => cases h

lemma ok_get (h : x.toOption.isSome) : x = .ok (x.toOption.get h) := by
  cases x with
  | ok a => rfl
  | error e => cases h

lemma exists_ok_and {t : α → Bool} (h : x.toOption.any t) : ∃ a, x = .ok a ∧ t a := by
  cases x with
  | ok a => exact ⟨a, rfl, h⟩
  | error e => cases h

lemma mapError_map (g : α → β) (k : ε → ε') (x : Except ε α) :
    (g <$> x).mapError k = g <$> x.mapError k := by
  cases x with
  | error e => rfl
  | ok a => rfl

end Telematics
