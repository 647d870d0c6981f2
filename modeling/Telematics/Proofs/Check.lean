import Telematics.Proofs.Result

/-! Steps that fail with the name of the first check that does not hold. -/

namespace Telematics

abbrev Checks := List (String × Prop)

namespace Checks

variable {c d : Checks} {name : String}

def Clear (c : Checks) : Prop :=
  ∀ x ∈ c, ¬ x.2

/-- The first of the conditions that holds is one of this name. -/
def First (c : Checks) (name : String) : Prop :=
  ∃ before p after, c = before ++ (name, p) :: after ∧ p ∧ Clear before

lemma clear_append : Clear (c ++ d) ↔ Clear c ∧ Clear d :=
  List.forall_mem_append

lemma first_nil : ¬ First [] name := by
  rintro ⟨before, p, after, h, -⟩
  simp at h

lemma first_cons {x : String × Prop} :
    First (x :: c) name ↔ x.1 = name ∧ x.2 ∨ ¬ x.2 ∧ First c name := by
  constructor
  · rintro ⟨before, p, after, h, hp, hb⟩
    cases before with
    | nil =>
      obtain ⟨rfl, -⟩ := List.cons.inj h
      exact .inl ⟨rfl, hp⟩
    | cons y before =>
      obtain ⟨rfl, rfl⟩ := List.cons.inj h
      exact .inr ⟨hb x List.mem_cons_self, before, p, after, rfl, hp,
        fun z hz => hb z (List.mem_cons_of_mem x hz)⟩
  · rintro (⟨rfl, hx⟩ | ⟨hx, before, p, after, rfl, hp, hb⟩)
    · exact ⟨[], x.2, c, rfl, hx, by simp [Clear]⟩
    · exact ⟨x :: before, p, after, rfl, hp, List.forall_mem_cons.2 ⟨hx, hb⟩⟩

lemma first_append : First (c ++ d) name ↔ First c name ∨ Clear c ∧ First d name := by
  induction c with
  | nil => simp [first_nil, Clear]
  | cons x c ih =>
    rw [List.cons_append, first_cons, first_cons, ih, Clear, Clear, List.forall_mem_cons]
    tauto

lemma clear_or_first (c : Checks) : Clear c ∨ ∃ name, First c name := by
  induction c with
  | nil => exact .inl (by simp [Clear])
  | cons x c ih =>
    by_cases hx : x.2
    · exact .inr ⟨x.1, first_cons.2 (.inl ⟨rfl, hx⟩)⟩
    · refine ih.imp (fun h => List.forall_mem_cons.2 ⟨hx, h⟩) ?_
      rintro ⟨name, h⟩
      exact ⟨name, first_cons.2 (.inr ⟨hx, h⟩)⟩

end Checks

variable {ε ε' α β : Type} {names : ε → String → Prop} {x : Except ε α} {c d : Checks}

/-- The step succeeds if no condition holds, and fails with the name of the first that does. -/
structure Obeys (names : ε → String → Prop) (x : Except ε α) (c : Checks) : Prop where
  ok : c.Clear → ∃ a, x = .ok a
  error : ∀ name, c.First name → ∃ e, x = .error e ∧ names e name

namespace Obeys

lemma pure (a : α) : Obeys names (.ok a) [] :=
  ⟨fun _ => ⟨a, rfl⟩, fun _ h => absurd h Checks.first_nil⟩

lemma of_ok (h : ∃ a, x = .ok a) : Obeys names x [] := by
  obtain ⟨a, rfl⟩ := h
  exact .pure a

lemma of_cases {name : String} {p : Prop}
    (h : (∃ a, x = .ok a) ∧ ¬ p ∨ (∃ e, x = .error e ∧ names e name) ∧ p) :
    Obeys names x [(name, p)] := by
  obtain ⟨hx, hp⟩ | ⟨hx, hp⟩ := h
  · refine ⟨fun _ => hx, fun m hm => ?_⟩
    obtain ⟨-, h⟩ | ⟨-, h⟩ := Checks.first_cons.1 hm
    · exact absurd h hp
    · exact absurd h Checks.first_nil
  · refine ⟨fun hc => absurd hp (hc (name, p) List.mem_cons_self), fun m hm => ?_⟩
    obtain ⟨rfl, -⟩ | ⟨h, -⟩ := Checks.first_cons.1 hm
    · exact hx
    · exact absurd hp h

lemma bind {f : α → Except ε β} (hx : Obeys names x c)
    (hf : ∀ a, x = .ok a → Obeys names (f a) d) : Obeys names (x >>= f) (c ++ d) := by
  constructor
  · intro h
    obtain ⟨hc, hd⟩ := Checks.clear_append.1 h
    obtain ⟨a, ha⟩ := hx.ok hc
    obtain ⟨b, hb⟩ := (hf a ha).ok hd
    exact ⟨b, bind_eq_ok.2 ⟨a, ha, hb⟩⟩
  · intro name h
    obtain h | ⟨hc, hd⟩ := Checks.first_append.1 h
    · obtain ⟨e, he, hn⟩ := hx.error name h
      exact ⟨e, bind_eq_error.2 (.inl he), hn⟩
    · obtain ⟨a, ha⟩ := hx.ok hc
      obtain ⟨e, he, hn⟩ := (hf a ha).error name hd
      exact ⟨e, bind_eq_error.2 (.inr ⟨a, ha, he⟩), hn⟩

lemma bind_pure {f : α → Except ε β} (hx : Obeys names x c)
    (hf : ∀ a, x = .ok a → Obeys names (f a) []) : Obeys names (x >>= f) c := by
  have h := hx.bind hf
  rwa [List.append_nil] at h

lemma mapError {other : ε' → String → Prop} {k : ε → ε'} (hx : Obeys names x c)
    (hk : ∀ e name, names e name → other (k e) name) : Obeys other (x.mapError k) c := by
  constructor
  · intro h
    obtain ⟨a, rfl⟩ := hx.ok h
    exact ⟨a, rfl⟩
  · intro name h
    obtain ⟨e, rfl, hn⟩ := hx.error name h
    exact ⟨k e, rfl, hk e name hn⟩

lemma map {f : α → β} (hx : Obeys names x c) : Obeys names (f <$> x) c := by
  constructor
  · intro h
    obtain ⟨a, rfl⟩ := hx.ok h
    exact ⟨f a, rfl⟩
  · intro name h
    obtain ⟨e, rfl, hn⟩ := hx.error name h
    exact ⟨e, rfl, hn⟩

lemma ok_iff (hx : Obeys names x c) : (∃ a, x = .ok a) ↔ c.Clear := by
  constructor
  · rintro ⟨a, rfl⟩
    obtain h | ⟨name, h⟩ := Checks.clear_or_first c
    · exact h
    · obtain ⟨e, he, -⟩ := hx.error name h
      cases he
  · exact hx.ok

lemma named {e : ε} (hx : Obeys names x c) (he : x = .error e) : ∃ name, names e name := by
  obtain h | ⟨name, h⟩ := Checks.clear_or_first c
  · obtain ⟨a, ha⟩ := hx.ok h
    rw [ha] at he
    cases he
  · obtain ⟨e', he', hn⟩ := hx.error name h
    rw [he] at he'
    cases he'
    exact ⟨name, hn⟩

lemma error_iff (hx : Obeys names x c)
    (unique : ∀ {e n m}, names e n → names e m → n = m) (name : String) :
    (∃ e, x = .error e ∧ names e name) ↔ c.First name := by
  constructor
  · rintro ⟨e, he, hn⟩
    obtain h | ⟨m, h⟩ := Checks.clear_or_first c
    · obtain ⟨a, ha⟩ := hx.ok h
      rw [ha] at he
      cases he
    · obtain ⟨e', he', hm⟩ := hx.error m h
      rw [he] at he'
      cases he'
      rwa [unique hn hm]
  · exact hx.error name

end Obeys

end Telematics
