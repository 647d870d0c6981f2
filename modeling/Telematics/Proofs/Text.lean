import Mathlib.Data.List.Basic
import Mathlib.Data.List.TakeWhile
import Telematics.Text.Blank
import Telematics.Text.Fields

namespace Telematics.Text

variable {α : Type} {sep c : Char} {p : Char → Bool} {s t : List Char} {ps : List (List Char)}

lemma fields_eq_splitOn (sep : Char) (s : List Char) : fields sep s = s.splitOn sep := by
  induction s with
  | nil => rfl
  | cons c r ih =>
    have nonempty := fields_ne_nil sep r
    rw [fields, List.splitOn, List.splitOnP_cons_eq_if_modifyHead, ← List.splitOn, ← ih]
    by_cases hc : c = sep
    · rw [if_pos hc, if_pos (beq_iff_eq.2 hc)]
    · rw [if_neg hc, if_neg (mt beq_iff_eq.1 hc)]
      cases hf : fields sep r with
      | nil => exact absurd hf nonempty
      | cons f fs => rfl

lemma not_mem_of_mem_fields (h : t ∈ fields sep s) : sep ∉ t := by
  induction s generalizing t with
  | nil =>
    rw [List.mem_singleton.1 h]
    exact List.not_mem_nil
  | cons c r ih =>
    rw [fields] at h
    split_ifs at h with hc
    · obtain rfl | h := List.mem_cons.1 h
      · exact List.not_mem_nil
      · exact ih h
    · cases hf : fields sep r with
      | nil => exact absurd hf (fields_ne_nil sep r)
      | cons f fs =>
        rw [hf] at h ih
        obtain rfl | h := List.mem_cons.1 h
        · have clear := ih List.mem_cons_self
          exact List.not_mem_cons_of_ne_of_not_mem (Ne.symm hc) clear
        · exact ih (List.mem_cons_of_mem f h)

theorem fields_intercalate (hs : ps ≠ []) (h : ∀ p ∈ ps, sep ∉ p) :
    fields sep ([sep].intercalate ps) = ps := by
  rw [fields_eq_splitOn]
  exact List.splitOn_intercalate sep h hs

theorem fields_terminated (h : ∀ p ∈ ps, sep ∉ p) :
    fields sep (ps.flatMap (· ++ [sep])) = ps ++ [[]] := by
  rw [fields_eq_splitOn]
  induction ps with
  | nil => rfl
  | cons p ps ih =>
    obtain ⟨hp, rest⟩ := List.forall_mem_cons.1 h
    rw [List.flatMap_cons, List.append_assoc, List.singleton_append,
      List.splitOn_append_cons_self_of_not_mem hp, ih rest, List.cons_append]

def Trimmed (p : Char → Bool) (t : List Char) : Prop :=
  (∀ c ∈ t.head?, p c = false) ∧ ∀ c ∈ t.getLast?, p c = false

lemma exists_trimmed (p : Char → Bool) (t : List Char) :
    ∃ lead trail, t = lead ++ (trimOf p t ++ trail) ∧ (∀ c ∈ lead, p c) ∧ ∀ c ∈ trail, p c := by
  have inner := List.takeWhile_append_dropWhile (p := p) (l := (t.dropWhile p).reverse)
  refine ⟨t.takeWhile p, ((t.dropWhile p).reverse.takeWhile p).reverse, ?_, ?_, ?_⟩
  · rw [trimOf, ← List.reverse_append, inner, List.reverse_reverse]
    exact List.takeWhile_append_dropWhile.symm
  · exact fun c hc => List.mem_takeWhile_imp hc
  · exact fun c hc => List.mem_takeWhile_imp (List.mem_reverse.1 hc)

lemma filterMap_trimOf {f : Char → Option α} (hf : ∀ c, p c = true → f c = none) (t : List Char) :
    (trimOf p t).filterMap f = t.filterMap f := by
  obtain ⟨lead, trail, whole, blank, blank'⟩ := exists_trimmed p t
  have none_of {l : List Char} (hl : ∀ c ∈ l, p c) : l.filterMap f = [] :=
    List.filterMap_eq_nil_iff.2 fun c hc => hf c (hl c hc)
  conv_rhs => rw [whole, List.filterMap_append, List.filterMap_append, none_of blank,
    none_of blank', List.nil_append, List.append_nil]

lemma mem_trimOf_iff (hc : p c = false) : c ∈ trimOf p t ↔ c ∈ t := by
  obtain ⟨lead, trail, whole, blank, blank'⟩ := exists_trimmed p t
  have outside {l : List Char} (hl : ∀ c ∈ l, p c) : c ∉ l := by
    intro h
    rw [hl c h] at hc
    cases hc
  conv_rhs => rw [whole, List.mem_append, List.mem_append]
  simp [outside blank, outside blank']

lemma trimOf_append {lead : List Char} (h : ∀ c ∈ lead, p c) : trimOf p (lead ++ t) = trimOf p t := by
  rw [trimOf, List.dropWhile_append_of_pos h]
  rfl

lemma reverse_dropWhile_cons (hc : p c = false) :
    ((c :: t).reverse.dropWhile p).reverse = c :: (t.reverse.dropWhile p).reverse := by
  have stop : ([c] : List Char).dropWhile p = [c] :=
    List.dropWhile_cons_of_neg (by rw [hc]; exact Bool.false_ne_true)
  rw [List.reverse_cons, List.dropWhile_append]
  split_ifs with empty
  · rw [stop, List.isEmpty_iff.1 empty]
    rfl
  · rw [List.reverse_append]
    rfl

lemma trimOf_cons (hc : p c = false) :
    trimOf p (c :: t) = c :: (t.reverse.dropWhile p).reverse := by
  have stay : (c :: t).dropWhile p = c :: t :=
    List.dropWhile_cons_of_neg (by rw [hc]; exact Bool.false_ne_true)
  rw [trimOf, stay, reverse_dropWhile_cons hc]

lemma head?_dropWhile (h : c ∈ (t.dropWhile p).head?) : p c = false := by
  have stops := List.head?_dropWhile_not p t
  rwa [Option.mem_def.1 h] at stops

lemma dropWhile_eq_self (h : ∀ c ∈ t.head?, p c = false) : t.dropWhile p = t := by
  cases t with
  | nil => rfl
  | cons c r =>
    apply List.dropWhile_cons_of_neg
    rw [h c rfl]
    exact Bool.false_ne_true

lemma trimmed_trimOf (p : Char → Bool) (t : List Char) : Trimmed p (trimOf p t) := by
  constructor
  · intro c hc
    have front : trimOf p t <+: t.dropWhile p := by
      rw [trimOf, ← List.reverse_suffix, List.reverse_reverse]
      exact List.dropWhile_suffix p
    obtain ⟨trail, whole⟩ := front
    obtain ⟨r, hr⟩ := List.head?_eq_some_iff.1 (Option.mem_def.1 hc)
    apply head?_dropWhile (t := t)
    rw [← whole, hr]
    rfl
  · intro c hc
    rw [trimOf, List.getLast?_reverse] at hc
    exact head?_dropWhile hc

lemma trimOf_of_trimmed (h : Trimmed p t) : trimOf p t = t := by
  have back : t.reverse.dropWhile p = t.reverse := by
    apply dropWhile_eq_self
    rw [List.head?_reverse]
    exact h.2
  rw [trimOf, dropWhile_eq_self h.1, back, List.reverse_reverse]

lemma trimmed_of_forall (h : ∀ c ∈ t, p c = false) : Trimmed p t :=
  ⟨fun c hc => h c (List.mem_of_mem_head? hc), fun c hc => h c (List.mem_of_getLast? hc)⟩

lemma trimOf_eq_nil_iff : trimOf p t = [] ↔ ∀ c ∈ t, p c := by
  constructor
  · intro h c hc
    by_contra other
    have kept := (mem_trimOf_iff (Bool.eq_false_iff.2 other)).2 hc
    rw [h] at kept
    cases kept
  · intro h
    have front := (trimmed_trimOf p t).1
    obtain ⟨lead, trail, whole, -, -⟩ := exists_trimmed p t
    cases ht : trimOf p t with
    | nil => rfl
    | cons c r =>
      rw [ht] at front whole
      have inside : c ∈ t := by
        rw [whole]
        exact List.mem_append_right lead List.mem_cons_self
      have blank := h c inside
      rw [front c rfl] at blank
      cases blank

end Telematics.Text
