import Telematics.Proofs.Sentence.Cursor
import Telematics.Proofs.Sentence.Cut

/-! The walk over slots that may be too few or too many. -/

namespace Telematics.Sentence

variable {slots : List Slot} {k n : Nat}

namespace Walk

variable {α β : Type} {w : Walk α} {ws vs : List Nat} {x : α} {y z : β}

def standing (slots : List Slot) (k : Nat) : { c : Cursor // 0 ≤ c.position } :=
  between (slots.take k) (slots.drop k)

lemma remaining_standing (slots : List Slot) (k : Nat) :
    (standing slots k).1.remaining = (slots.length - k : Nat) := by
  rw [standing, Cursor.remaining_between, List.length_drop]

/-- The walk reads blocks of some widths from a place on. If all of them are there it comes to a
value, and otherwise it is stopped by the first one that is not. -/
structure Reads (w : Walk α) (ws : List Nat) (slots : List Slot) (k : Nat) (x : α) : Prop where
  passes : k + ws.sum ≤ slots.length → w (standing slots k) = .ok (x, standing slots (k + ws.sum))
  stops : k ≤ slots.length → slots.length < k + ws.sum → ∃ front n back,
    ws = front ++ n :: back ∧ k + front.sum ≤ slots.length ∧ slots.length < k + front.sum + n ∧
    w (standing slots k) =
      .error (.cursor (.tooFew n (k + front.sum : Nat) (slots.length - (k + front.sum) : Nat)))

namespace Reads

lemma pure (x : α) (slots : List Slot) (k : Nat) : (Pure.pure x : Walk α).Reads [] slots k x where
  passes _ := rfl
  stops reached short := absurd reached (Nat.not_le.2 short)

lemma bind {f : α → Walk β} (hw : w.Reads ws slots k x)
    (hf : k + ws.sum ≤ slots.length → (f x).Reads vs slots (k + ws.sum) y) :
    (w >>= f).Reads (ws ++ vs) slots k y := by
  constructor
  · intro enough
    rw [List.sum_append, ← Nat.add_assoc] at enough ⊢
    have first := hw.passes (Nat.le_of_add_right_le enough)
    have second := (hf (Nat.le_of_add_right_le enough)).passes enough
    simp only [Bind.bind, StateT.bind, Except.bind, first, second]
  · intro reached short
    rw [List.sum_append, ← Nat.add_assoc] at short
    by_cases enough : k + ws.sum ≤ slots.length
    · have first := hw.passes enough
      obtain ⟨front, n, back, rfl, before, behind, stopped⟩ := (hf enough).stops enough short
      refine ⟨ws ++ front, n, back, (List.append_assoc _ _ _).symm, ?_, ?_, ?_⟩
      · rwa [List.sum_append, ← Nat.add_assoc]
      · rwa [List.sum_append, ← Nat.add_assoc]
      · rw [List.sum_append, ← Nat.add_assoc]
        simp only [Bind.bind, StateT.bind, Except.bind, first, stopped]
    · obtain ⟨front, n, back, rfl, before, behind, stopped⟩ :=
        hw.stops reached (Nat.lt_of_not_le enough)
      refine ⟨front, n, back ++ vs, List.append_assoc _ _ _, before, behind, ?_⟩
      simp only [Bind.bind, StateT.bind, Except.bind, stopped]

lemma map (hw : w.Reads ws slots k x) (f : α → β) :
    (w >>= fun a => Pure.pure (f a)).Reads ws slots k (f x) := by
  have both := hw.bind (f := fun a => Pure.pure (f a)) fun _ => pure (f x) slots (k + ws.sum)
  rwa [List.append_nil] at both

end Reads

lemma reads_take (n : Nat) (slots : List Slot) (k : Nat) :
    (Walk.take n).Reads [n] slots k (Block.at n slots k) := by
  constructor
  · intro enough
    rw [List.sum_singleton] at enough ⊢
    have length : ((slots.drop k).take n).length = n := by
      rw [List.length_take, List.length_drop]
      omega
    have block : (⟨((slots.drop k).take n).toArray, length⟩ : Block n) = Block.at n slots k := by
      apply Vector.toList_inj.1
      exact (Block.toList_at enough).symm
    have passes := (Passes.take length).run (slots.take k) (slots.drop (k + n))
    rw [← List.drop_drop, List.take_append_drop, ← List.take_add, block, List.drop_drop] at passes
    exact passes
  · intro reached short
    rw [List.sum_singleton] at short
    have position : (standing slots k).1.position = k := by
      change ((slots.take k).length : Int) = k
      rw [List.length_take, Nat.min_eq_left reached]
    have remaining := remaining_standing slots k
    have few : (standing slots k).1.remaining < n := by
      rw [remaining]
      omega
    refine ⟨[], n, [], rfl, reached, short, ?_⟩
    have refused := Cursor.take_of_lt few
    rw [position, remaining] at refused
    exact take_of_error refused

lemma reads_next (slots : List Slot) (k : Nat) :
    Walk.next.Reads [1] slots k ((Block.at 1 slots k).slot 0) := by
  rw [← Block.getElem_eq _ Nat.one_pos]
  exact (reads_take 1 slots k).map fun v => v[0]

lemma reads_block (n : Nat) (filled : 0 < n) (slots : List Slot) (k : Nat) :
    (Walk.block n filled).Reads [n] slots k
      (((Block.at n slots k).slot 0).map fun _ => Block.at n slots k) := by
  rw [← Block.getElem_eq _ filled]
  exact (reads_take n slots k).map fun v => v[0].map fun _ => v

lemma reads_either {w : Walk β} {s t : Slot} (present : ¬ (s = none ∧ t = none))
    (first : ∀ u, s = some u → w = Pure.pure y)
    (second : ∀ u, s = none → t = some u → w = Pure.pure z) (slots : List Slot) (k : Nat) :
    w.Reads [] slots k (if s.isSome then y else z) := by
  cases s with
  | some u =>
    rw [first u rfl]
    exact .pure y slots k
  | none =>
    cases t with
    | some u =>
      rw [second u rfl rfl]
      exact .pure z slots k
    | none => exact absurd ⟨rfl, rfl⟩ present

lemma reads_header (slots : List Slot) (k : Nat) (either : EitherFilled slots k (k + 3)) :
    Walk.header.Reads [3, 1] slots k (.tag (Block.at 3 slots k) (Block.at 1 slots (k + 3))) := by
  refine (reads_block 3 (by decide) slots k).bind fun _ =>
    (reads_block 1 (by decide) slots (k + 3)).bind fun enough => ?_
  have inside : k + 3 < slots.length := enough
  have present := either.first (m := 3) (n := 1) (by decide) (by decide) (by omega) inside
  apply reads_either present
  · intro u filled
    simp only [filled, Option.map_some, Block.getElem_eq]
  · intro u absent filled
    simp only [absent, filled, Option.map_some, Option.map_none, Block.getElem_eq]

lemma reads_identity (slots : List Slot) (k : Nat) (either : EitherFilled slots k (k + 1)) :
    Walk.identity.Reads [1, 1] slots k
      (.tag (Block.at 1 slots k) (Block.at 1 slots (k + 1))) := by
  refine (reads_block 1 (by decide) slots k).bind fun _ =>
    (reads_block 1 (by decide) slots (k + 1)).bind fun enough => ?_
  have inside : k + 1 < slots.length := enough
  have present := either.first (m := 1) (n := 1) (by decide) (by decide) (by omega) inside
  apply reads_either present
  · intro u filled
    simp only [filled, Option.map_some, Block.getElem_eq]
  · intro u absent filled
    simp only [absent, filled, Option.map_some, Option.map_none, Block.getElem_eq]

lemma map_analog (b : Block 2) :
    (((b.slot 0).map fun _ => b).map fun a => ⟨a.slot 0, a.slot 1⟩ : Option Analog) =
      Analog.tag b := by
  rw [Analog.tag]
  cases first : b.slot 0 with
  | none => rfl
  | some s => simp only [Option.map_some, first, Option.isSome_some, if_true]

lemma reads_extended (slots : List Slot) (k : Nat)
    (cells : ∀ altitude, slots[k]? = some (some altitude) → slots[k + 6]? ≠ some none) :
    Walk.extended.Reads [9, 2] slots k
      (Extended.tag (Block.at 9 slots k) (Block.at 2 slots (k + 9))) := by
  refine (reads_block 9 (by decide) slots k).bind fun _ =>
    (reads_block 2 (by decide) slots (k + 9)).bind fun enough => ?_
  have inside : k + 9 + 2 ≤ slots.length := enough
  simp only [Block.getElem_eq]
  rw [map_analog, Extended.tag]
  cases altitude : (Block.at 9 slots k).slot 0 with
  | none => exact .pure none slots _
  | some t =>
    cases text : (Block.at 9 slots k).slot 6 with
    | none =>
      have first : slots[k]? = some ((Block.at 9 slots k).slot 0) :=
        getElem?_at (i := 0) (by decide) (by omega)
      have seventh : slots[k + 6]? = some ((Block.at 9 slots k).slot 6) :=
        getElem?_at (by decide) (by omega)
      rw [altitude] at first
      rw [text] at seventh
      exact absurd seventh (cells t first)
    | some u =>
      simp only [altitude, text, splitCells_eq, Option.map_some, Option.isSome_some, if_true,
        Option.getD_some]
      exact .pure _ slots _

lemma reads_trailer (slots : List Slot) (k : Nat) (either : EitherFilled slots k (k + 14))
    (cells : ∀ altitude, slots[k + 3]? = some (some altitude) → slots[k + 9]? ≠ some none) :
    Walk.trailer.Reads [3, 9, 2, 2] slots k (.tag (Block.at 3 slots k)
      (Extended.tag (Block.at 9 slots (k + 3)) (Block.at 2 slots (k + 12)))
      (Block.at 2 slots (k + 14))) := by
  refine (reads_block 3 (by decide) slots k).bind fun _ =>
    (reads_extended slots (k + 3) cells).bind fun _ =>
      (reads_block 2 (by decide) slots (k + 14)).bind fun enough => ?_
  have inside : k + 14 + 2 ≤ slots.length := enough
  have present := either.first (m := 3) (n := 2) (by decide) (by decide) (by omega) (by omega)
  apply reads_either present
  · intro u filled
    simp only [filled, Option.map_some, Block.getElem_eq]
  · intro u absent filled
    simp only [absent, filled, Option.map_some, Option.map_none, Block.getElem_eq]

/-! The walk in two parts, of which only the second one looks at what is left. -/

def fields (slots : List Slot) : Walk Report := do
  let header ← header
  let imei ← next
  let identity ← identity
  let date ← take 3
  let time ← take 3
  let validity ← next
  let latitude ← take 2
  let longitude ← take 2
  let trailer ← trailer
  return {
    slots, header, imei, identity
    day := Block.slot date 0, month := Block.slot date 1, year := Block.slot date 2
    hour := Block.slot time 0, minute := Block.slot time 1, second := Block.slot time 2
    validity
    latitude := (Block.slot latitude 0, Block.slot latitude 1)
    longitude := (Block.slot longitude 0, Block.slot longitude 1)
    trailer }

def complete (r : Report) : Walk Report := do
  let cursor ← get
  if 0 < cursor.val.remaining then throw (.unread cursor.val.remaining)
  return r

lemma report_eq (slots : List Slot) : Walk.report slots = fields slots >>= complete := by
  simp only [Walk.report, fields, bind_assoc, pure_bind, Block.getElem_eq]
  rfl

lemma reads_fields (h : Resolvable slots) :
    (fields slots).Reads Blocks.widths slots 0 { (Blocks.cut slots).report with slots } :=
  (reads_header slots 0 h.header).bind fun _ => (reads_next slots 4).bind fun _ =>
    (reads_identity slots 5 h.identity).bind fun _ => (reads_take 3 slots 7).bind fun _ =>
    (reads_take 3 slots 10).bind fun _ => (reads_next slots 13).bind fun _ =>
    (reads_take 2 slots 14).bind fun _ => (reads_take 2 slots 16).bind fun _ =>
    (reads_trailer slots 18 h.trailer h.cells).bind fun _ => .pure _ slots 34

lemma complete_standing (r : Report) (slots : List Slot) (k : Nat) :
    complete r (standing slots k) =
      if k < slots.length then .error (.unread (slots.length - k : Nat))
      else .ok (r, standing slots k) := by
  have left_iff : 0 < ((slots.length - k : Nat) : Int) ↔ k < slots.length := by
    omega
  simp only [complete, Bind.bind, StateT.bind, Except.bind, get, getThe, MonadStateOf.get,
    StateT.get, Pure.pure, Except.pure, remaining_standing, left_iff]
  split_ifs
  · rfl
  · rfl

end Walk

namespace Report

lemma ofSlots_eq (slots : List Slot) : ofSlots slots =
    ((Walk.fields slots >>= Walk.complete) (Walk.standing slots 0)).map Prod.fst := by
  rw [← Walk.report_eq]
  rfl

lemma ofSlots_of_enough (h : Resolvable slots) (enough : 34 ≤ slots.length) :
    ofSlots slots = if 34 < slots.length then .error (.unread (slots.length - 34 : Nat))
      else .ok { (Blocks.cut slots).report with slots } := by
  have passes : Walk.fields slots (Walk.standing slots 0) =
      .ok (_, Walk.standing slots 34) := (Walk.reads_fields h).passes enough
  rw [ofSlots_eq]
  simp only [Bind.bind, StateT.bind, Except.bind, passes, Walk.complete_standing]
  split_ifs
  · rfl
  · rfl

lemma ofSlots_of_few (h : Resolvable slots) (few : slots.length < 34) :
    ∃ front n back, Blocks.widths = front ++ n :: back ∧ front.sum ≤ slots.length ∧
      slots.length < front.sum + n ∧ ofSlots slots =
        .error (.cursor (.tooFew n front.sum (slots.length - front.sum : Nat))) := by
  obtain ⟨front, n, back, widths, before, behind, stopped⟩ :=
    (Walk.reads_fields h).stops (Nat.zero_le _) few
  rw [Nat.zero_add] at before behind stopped
  refine ⟨front, n, back, widths, before, behind, ?_⟩
  rw [ofSlots_eq]
  simp only [Bind.bind, StateT.bind, Except.bind, stopped]
  rfl

lemma ofSlots_of_more (h : Resolvable slots) (more : 34 < slots.length) :
    ofSlots slots = .error (.unread (slots.length - 34 : Nat)) := by
  rw [ofSlots_of_enough h more.le, if_pos more]

lemma ofSlots_of_length (h : Resolvable slots) (length : slots.length = 34) :
    ofSlots slots = .ok (Blocks.cut slots).report := by
  have whole : (Blocks.cut slots).report.slots = slots := Blocks.slots_cut length
  rw [ofSlots_of_enough h length.ge, if_neg (by omega)]
  exact congrArg (fun l => Except.ok { (Blocks.cut slots).report with slots := l }) whole.symm

lemma ofSlots_alike (h : Resolvable slots) (length : slots.length = 34) {other : List Slot}
    (length' : other.length = 34) (alike : (Blocks.cut slots).Alike (Blocks.cut other)) :
    ofSlots other = .ok { (Blocks.cut slots).report with slots := other } := by
  have present :
      ¬ ((Blocks.cut slots).rich.slot 0 = none ∧ (Blocks.cut slots).simple.slot 0 = none) :=
    h.trailer.first (by decide) (by decide) (by omega) (by omega)
  rw [ofSlots_of_length (alike.resolvable length length' h) length', alike.report_eq present,
    Blocks.slots_cut length']

/-- Slots come to a report exactly if there are thirty-four of them. Fewer ones do not reach the end
of some block, and the error tells its width, its place and the slots that are left for it; of more
ones the surplus is told. The report has every field from its own block, and what an absent block
holds behind its first slot has no part in it. -/
theorem ofSlots_layout (h : Resolvable slots) :
    ((∃ r, ofSlots slots = .ok r) ↔ slots.length = 34) ∧
    (slots.length < 34 → ∃ front n back, Blocks.widths = front ++ n :: back ∧
      front.sum ≤ slots.length ∧ slots.length < front.sum + n ∧ ∃ e,
        ofSlots slots = .error (.cursor e) ∧
        e.message = "cannot read " ++ toString n ++ " tokens at " ++ toString front.sum ++ ", " ++
          toString (slots.length - front.sum) ++ " remaining") ∧
    (34 < slots.length → ∃ surplus, ofSlots slots = .error (.unread surplus) ∧
      (LayoutError.unread surplus).message? =
        some (toString (slots.length - 34) ++ " grammar tokens left unread")) ∧
    (slots.length = 34 → (Blocks.cut slots).slots = slots ∧
      ofSlots slots = .ok (Blocks.cut slots).report ∧
      ∀ other : List Slot, other.length = 34 → (Blocks.cut slots).Alike (Blocks.cut other) →
        ofSlots other = .ok { (Blocks.cut slots).report with slots := other }) := by
  refine ⟨⟨?_, ?_⟩, ?_, ?_, ?_⟩
  · rintro ⟨r, hr⟩
    by_contra different
    rcases Nat.lt_or_gt_of_ne different with few | more
    · obtain ⟨front, n, back, -, -, -, stopped⟩ := ofSlots_of_few h few
      rw [stopped] at hr
      cases hr
    · rw [ofSlots_of_more h more] at hr
      cases hr
  · intro length
    exact ⟨_, ofSlots_of_length h length⟩
  · intro few
    obtain ⟨front, n, back, widths, before, behind, stopped⟩ := ofSlots_of_few h few
    exact ⟨front, n, back, widths, before, behind, _, stopped, rfl⟩
  · intro more
    exact ⟨_, ofSlots_of_more h more, rfl⟩
  · intro length
    refine ⟨Blocks.slots_cut length, ofSlots_of_length h length, ?_⟩
    intro other length' alike
    exact ofSlots_alike h length length' alike

def ragged : List Slot :=
  [none, some "01", some "L", some "EMR", some "861693034634154", none, some "1", some "09",
    some "11", some "2018", some "08", some "35", some "42", none, some "12.975095", some "N",
    some "077.668045", some "E", some "0.0", some "95.2", some "5", none, some "1", some "1",
    some "1", some "1", some "0", some "404,45,D61,C730", some "1110", some "00", some "1.0", none,
    none, some "2.0"]

theorem ragged_tagged : Resolvable ragged ∧ ragged.length = 34 ∧ ∃ r, ofSlots ragged = .ok r ∧
    r.header = .kind (some "EMR") ∧ r.imei = some "861693034634154" ∧
    r.trailer = .rich (some "0.0") (some "95.2") (some "5") none := by
  have resolvable : Resolvable ragged := {
    header := by rintro ⟨-, ⟨⟩⟩
    identity := by rintro ⟨-, ⟨⟩⟩
    trailer := by rintro ⟨⟨⟩, -⟩
    cells := by rintro altitude ⟨⟩ }
  obtain ⟨-, -, -, tagged⟩ := ofSlots_layout resolvable
  exact ⟨resolvable, rfl, _, (tagged rfl).2.1, rfl, rfl, rfl⟩

end Report

end Telematics.Sentence
