import Telematics.Proofs.Result
import Telematics.Storage

/-! What opening a file does to a storage. -/

namespace Telematics

/-! Names on the way to a place. -/

def Place.Proper (p : Place) : Prop :=
  ∀ name ∈ p.names, name ≠ "." ∧ name ≠ ".."

lemma Place.Proper.enter {p : Place} {name : FileName} (h : p.Proper)
    (proper : name ≠ "." ∧ name ≠ "..") : (p.enter name).Proper :=
  List.forall_mem_cons.2 ⟨proper, h⟩

namespace Storage

variable {α : Type} {s t u : Storage α} {p q here : Place} {path : Path} {name : FileName}
  {node : Node α} {d : Device}

def Takes (s : Storage α) (p : Place) : Prop :=
  (∃ items, s.node? p = some (.file items)) ∨ ∃ d, s.node? p = some (.device d)

def Node.Empty (node : Node α) : Prop :=
  node = .directory ∨ node = .file []

/-- The second storage has all nodes of the first, and others that are empty. -/
structure Grows (s t : Storage α) : Prop where
  kept : ∀ p node, s.node? p = some node → t.node? p = some node
  fresh : ∀ p node, s.node? p = none → t.node? p = some node → Node.Empty node

lemma Grows.refl (s : Storage α) : Grows s s where
  kept _ _ h := h
  fresh p node hs ht := by
    rw [hs] at ht
    cases ht

lemma Grows.trans (h : Grows s t) (h' : Grows t u) : Grows s u where
  kept p node hp := h'.kept p node (h.kept p node hp)
  fresh p node hs hu := by
    cases ht : t.node? p with
    | none => exact h'.fresh p node ht hu
    | some m =>
      obtain rfl : m = node := Option.some.inj ((h'.kept p m ht).symm.trans hu)
      exact h.fresh p m hs ht

lemma Grows.items (h : Grows s t) (p : Place) : t.items p = s.items p := by
  rw [Storage.items, Storage.items]
  cases hs : s.node? p with
  | some node => rw [h.kept p node hs]
  | none =>
    cases ht : t.node? p with
    | none => rfl
    | some node => obtain rfl | rfl := h.fresh p node hs ht <;> rfl

lemma isConsole_iff : s.isConsole p ↔ s.node? p = some (.device .console) := by
  unfold isConsole
  split
  · rename_i h
    exact iff_of_true rfl h
  · rename_i h
    exact iff_of_false nofun h

lemma append_file {items : List α} (h : s.node? p = some (.file items)) (more : List α) :
    s.append p more = s.put p (.file (items ++ more)) := by
  rw [append, h]

lemma append_device (h : s.node? p = some (.device d)) (more : List α) : s.append p more = s := by
  rw [append, h]

lemma file_ne_root {items : List α} (h : s.node? p = some (.file items)) : p ≠ .root := by
  rintro rfl
  cases h

lemma Takes.append (h : s.Takes p) (more : List α) : (s.append p more).Takes p := by
  obtain ⟨items, h⟩ | ⟨d, h⟩ := h
  · rw [append_file h]
    exact .inl ⟨items ++ more, node?_put_self (file_ne_root h) _⟩
  · rw [append_device h]
    exact .inr ⟨d, h⟩

lemma append_device_iff (h : s.Takes p) (more : List α) (q : Place) (d : Device) :
    (s.append p more).node? q = some (.device d) ↔ s.node? q = some (.device d) := by
  obtain ⟨items, h⟩ | ⟨d', h⟩ := h
  · rw [append_file h]
    by_cases same : q = p
    · subst same
      rw [node?_put_self (file_ne_root h), h]
      exact iff_of_false nofun nofun
    · rw [node?_put_of_ne same]
  · rw [append_device h]

lemma items_append_self {items : List α} (h : s.node? p = some (.file items)) (more : List α) :
    (s.append p more).items p = s.items p ++ more := by
  rw [append_file h, Storage.items, Storage.items, node?_put_self (file_ne_root h), h]

end Storage

end Telematics
