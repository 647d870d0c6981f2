import Telematics.Proofs.Sentence.Layout

namespace Telematics.Sentence.Cursor

open Walk

inductive Call where
  | next
  | take (count : Nat)
  | block (count : Nat) (filled : 0 < count)
  | hasNext (count : Nat)

inductive Answer where
  | slot (s : Slot)
  | slots (block : List Slot)
  | block (b : Option (List Slot))
  | verdict (b : Bool)

namespace Call

def count : Call → Nat
  | next => 1
  | take n | block n _ | hasNext n => n

def reads : Call → Bool
  | hasNext _ => false
  | next | take _ | block _ _ => true

end Call

def call (c : Cursor) : Call → Except Error Answer × Cursor
  | .next => c.next.map (Except.map .slot) id
  | .take n => (c.take n).map (Except.map .slots) id
  | .block n _ => (c.takeBlock n).map (Except.map .block) id
  | .hasNext n => (.ok (.verdict (c.hasNext n)), c)

def run : Cursor → List Call → List (Except Error Answer) × Cursor
  | c, [] => ([], c)
  | c, x :: calls => ((c.call x).1 :: ((c.call x).2.run calls).1, ((c.call x).2.run calls).2)

/-- Which slots a call consumes, as its answer tells. Of an absent block it tells the width and that
the first slot is not filled. -/
inductive Consumes : Call → Except Error Answer → List Slot → Prop
  | next (s : Slot) : Consumes .next (.ok (.slot s)) [s]
  | take (block : List Slot) : Consumes (.take block.length) (.ok (.slots block)) block
  | present (t : String) (rest : List Slot) :
      Consumes (.block (rest.length + 1) rest.length.succ_pos)
        (.ok (.block (some (some t :: rest)))) (some t :: rest)
  | absent (rest : List Slot) :
      Consumes (.block (rest.length + 1) rest.length.succ_pos) (.ok (.block none)) (none :: rest)
  | hasNext (n : Nat) (b : Bool) : Consumes (.hasNext n) (.ok (.verdict b)) []
  | refused (x : Call) (e : Error) : Consumes x (.error e) []

variable (before block after : List Slot) {n : Nat}

lemma remaining_between : (between before after).1.remaining = after.length := by
  simp only [between, remaining, List.length_append]
  omega

lemma take_between : (between before (block ++ after)).1.take block.length =
    (.ok block, (between (before ++ block) after).1) := by
  have fits : (block.length : Int) ≤ (between before (block ++ after)).1.remaining := by
    rw [remaining_between, List.length_append]
    omega
  rw [take_of_le fits, window_between, advance_between]

lemma take_refused (h : after.length < n) : (between before after).1.take n =
    (.error (.tooFew n before.length after.length), (between before after).1) := by
  have short : (between before after).1.remaining < n := by
    rw [remaining_between]
    omega
  rw [take_of_lt short, remaining_between]
  rfl

lemma call_refused {x : Call} (reads : x.reads) (h : after.length < x.count) :
    (between before after).1.call x =
      (.error (.tooFew x.count before.length after.length), (between before after).1) := by
  cases x with
  | next =>
    have refused : (between before after).1.take 1 = _ := take_refused (n := 1) before after h
    simp only [call, next, refused]
    rfl
  | take n =>
    have refused := take_refused (n := n) before after h
    simp only [call, refused]
    rfl
  | block n filled =>
    have refused := take_refused (n := n) before after h
    simp only [call, takeBlock, refused]
    rfl
  | hasNext n => cases reads

lemma call_read {x : Call} (reads : x.reads) (h : block.length = x.count) :
    ∃ answer, Consumes x (.ok answer) block ∧ (between before (block ++ after)).1.call x =
      (.ok answer, (between (before ++ block) after).1) := by
  have taken := take_between before block after
  cases x with
  | next =>
    obtain ⟨s, rfl⟩ := List.length_eq_one_iff.1 h
    have taken : (between before ([s] ++ after)).1.take 1 = _ := taken
    refine ⟨_, .next s, ?_⟩
    simp only [call, next, taken]
    rfl
  | take n =>
    obtain rfl : block.length = n := h
    refine ⟨_, .take block, ?_⟩
    simp only [call, taken]
    rfl
  | block n filled =>
    obtain rfl : block.length = n := h
    cases block with
    | nil => cases filled
    | cons s rest =>
      cases s with
      | some t =>
        refine ⟨_, .present t rest, ?_⟩
        simp only [call, takeBlock, taken]
        rfl
      | none =>
        refine ⟨_, .absent rest, ?_⟩
        simp only [call, takeBlock, taken]
        rfl
  | hasNext n => cases reads

lemma call_consumes (x : Call) : ∃ block rest, after = block ++ rest ∧
    Consumes x ((between before after).1.call x).1 block ∧
      ((between before after).1.call x).2 = (between (before ++ block) rest).1 := by
  by_cases reads : x.reads
  · by_cases h : after.length < x.count
    · refine ⟨[], after, rfl, ?_, ?_⟩
      · rw [call_refused before after reads h]
        exact .refused x _
      · rw [call_refused before after reads h, List.append_nil]
    · have length : (after.take x.count).length = x.count := List.length_take_of_le (by omega)
      obtain ⟨answer, consumes, same⟩ :=
        call_read before (after.take x.count) (after.drop x.count) reads length
      rw [List.take_append_drop] at same
      refine ⟨_, _, (List.take_append_drop x.count after).symm, ?_, ?_⟩
      · rw [same]
        exact consumes
      · rw [same]
  · cases x with
    | hasNext n =>
      refine ⟨[], after, rfl, .hasNext n _, ?_⟩
      rw [List.append_nil]
      rfl
    | next | take | block => exact absurd rfl reads

lemma run_consumes (calls : List Call) : ∃ blocks rest, after = blocks.flatten ++ rest ∧
    List.Forall₂ (fun x block => Consumes x.1 x.2 block)
      (calls.zip ((between before after).1.run calls).1) blocks ∧
    ((between before after).1.run calls).1.length = calls.length ∧
    ((between before after).1.run calls).2 = (between (before ++ blocks.flatten) rest).1 := by
  induction calls generalizing before after with
  | nil =>
    refine ⟨[], after, rfl, .nil, rfl, ?_⟩
    rw [List.flatten_nil, List.append_nil]
    rfl
  | cons x calls ih =>
    obtain ⟨block, rest, rfl, consumes, moved⟩ := call_consumes before after x
    obtain ⟨blocks, left, rfl, all, answers, last⟩ := ih (before ++ block) rest
    rw [← moved] at all answers last
    refine ⟨block :: blocks, left, ?_, .cons consumes all, ?_, ?_⟩
    · rw [List.flatten_cons, List.append_assoc]
    · rw [run, List.length_cons, List.length_cons, answers]
    · rw [run, last, List.flatten_cons, List.append_assoc]

lemma hasNext_between (n : Nat) : (between before after).1.hasNext n = true ↔
    ∃ block, ((between before after).1.take n).1 = .ok block ∧ none ∉ block := by
  by_cases h : n ≤ after.length
  · have length : (after.take n).length = n := List.length_take_of_le h
    have taken := take_between before (after.take n) (after.drop n)
    have window := window_between before (after.take n) (after.drop n)
    rw [List.take_append_drop, length] at taken window
    have fits : (n : Int) ≤ (between before after).1.remaining := by
      rw [remaining_between]
      omega
    rw [hasNext, window, taken]
    simp only [fits, decide_true, Bool.true_and, List.all_eq_true, Except.ok.injEq,
      exists_eq_left']
    constructor
    · intro all absent
      cases all none absent
    · intro filled s hs
      apply Option.isSome_iff_ne_none.2
      rintro rfl
      exact filled hs
  · have short : ¬ (n : Int) ≤ (between before after).1.remaining := by
      rw [remaining_between]
      omega
    rw [hasNext, take_refused before after (by omega)]
    simp [short]

/-- A cursor over all of its calls. After any of them it stands behind the slots that were consumed,
each of them once and in their order. A call that asks for more slots than remain is refused and
changes nothing; any other one that reads consumes as many as it asks for. -/
theorem run_accounts (slots : List Slot) (calls : List Call) :
    let answers := ((start slots).run calls).1
    let c := ((start slots).run calls).2
    (c.position + c.remaining = slots.length ∧ 0 ≤ c.position ∧ c.position ≤ slots.length) ∧
    (answers.length = calls.length ∧ ∃ blocks,
      List.Forall₂ (fun x block => Consumes x.1 x.2 block) (calls.zip answers) blocks ∧
      blocks.flatten = slots.take c.position.toNat) ∧
    (∀ x : Call, x.reads → c.remaining < x.count → ∃ e, c.call x = (.error e, c) ∧
      e.message = "cannot read " ++ toString x.count ++ " tokens at " ++ toString c.position ++
        ", " ++ toString c.remaining ++ " remaining") ∧
    (∀ x : Call, x.reads → x.count ≤ c.remaining → ∃ answer block d, c.call x = (.ok answer, d) ∧
      Consumes x (.ok answer) block ∧ d.slots = slots ∧ d.position = c.position + x.count ∧
      block = (slots.drop c.position.toNat).take x.count) ∧
    ∀ n : Nat, (c.call (.hasNext n)).2 = c ∧
      (c.hasNext n = true ↔ ∃ block, (c.take n).1 = .ok block ∧ none ∉ block) := by
  intro answers c
  obtain ⟨blocks, rest, whole, all, length, last⟩ := run_consumes [] slots calls
  have here : c = (between blocks.flatten rest).1 := last
  have position : c.position = blocks.flatten.length := by
    rw [here]
    rfl
  have remaining : c.remaining = rest.length := by
    rw [here, remaining_between]
  refine ⟨⟨?_, ?_, ?_⟩, ⟨length, blocks, all, ?_⟩, ?_, ?_, ?_⟩
  · rw [position, remaining, whole, List.length_append, Int.natCast_add]
  · rw [position]
    exact Int.natCast_nonneg _
  · rw [position, whole, List.length_append]
    omega
  · rw [position, Int.toNat_natCast, whole, List.take_left]
  · intro x reads more
    refine ⟨.tooFew x.count c.position c.remaining, ?_, rfl⟩
    rw [remaining] at more
    rw [position, remaining, here]
    exact call_refused blocks.flatten rest reads (by omega)
  · intro x reads enough
    rw [remaining] at enough
    have fits : (rest.take x.count).length = x.count := List.length_take_of_le (by omega)
    obtain ⟨answer, consumes, same⟩ :=
      call_read blocks.flatten (rest.take x.count) (rest.drop x.count) reads fits
    rw [List.take_append_drop, ← here] at same
    refine ⟨answer, _, _, same, consumes, ?_, ?_, ?_⟩
    · rw [whole, ← List.take_append_drop x.count rest, ← List.append_assoc]
      simp only [List.take_append_drop]
      rfl
    · rw [position]
      change (((blocks.flatten ++ rest.take x.count).length : Nat) : Int) = _
      rw [List.length_append, fits, Int.natCast_add]
    · rw [position, Int.toNat_natCast, whole, List.drop_left]
  · intro n
    refine ⟨rfl, ?_⟩
    rw [here]
    exact hasNext_between blocks.flatten rest n

end Telematics.Sentence.Cursor
