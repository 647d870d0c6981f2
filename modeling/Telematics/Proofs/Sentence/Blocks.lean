import Telematics.Proofs.Sentence.RoundTrip

/-! The slots of a sentence, block by block. -/

namespace Telematics.Sentence

open Grammar Pattern Text

abbrev Block (n : Nat) := Vector Slot n

namespace Block

variable {m n : Nat}

def absent (n : Nat) : Block n :=
  .replicate n none

def Filled (b : Block n) : Prop :=
  ∀ s ∈ b.toList, s.isSome

def Vacant (b : Block n) : Prop :=
  ∀ s ∈ b.toList, s = none

/-- Exactly one of two blocks is there, and the other one is not in any part. -/
def Alternatives (a : Block m) (b : Block n) : Prop :=
  a.Filled ∧ b.Vacant ∨ a.Vacant ∧ b.Filled

def Continues (a : Block m) (b : Block n) : Prop :=
  a.Filled ∧ b.Filled ∨ a.Vacant

lemma vacant_absent (n : Nat) : (absent n).Vacant := by
  intro s hs
  rw [absent, Vector.toList_replicate] at hs
  exact List.eq_of_mem_replicate hs

end Block

structure Blocks where
  telemetry : Block 3
  kind : Block 1
  imei : Block 1
  status : Block 1
  validity : Block 1
  date : Block 3
  time : Block 3
  letter : Block 1
  latitude : Block 2
  longitude : Block 2
  rich : Block 3
  extended : Block 9
  analog : Block 2
  simple : Block 2

namespace Blocks

def slots (b : Blocks) : List Slot :=
  (b.telemetry.toList ++ b.kind.toList) ++ b.imei.toList ++
    (b.status.toList ++ b.validity.toList) ++ b.date.toList ++ b.time.toList ++
    (b.letter.toList ++ b.latitude.toList ++ b.longitude.toList) ++
    (b.rich.toList ++ (b.extended.toList ++ b.analog.toList) ++ b.simple.toList)

lemma length_slots (b : Blocks) : b.slots.length = 34 := by
  simp [slots]

structure Coherent (b : Blocks) : Prop where
  header : b.telemetry.Alternatives b.kind
  identity : b.status.Alternatives b.validity
  trailer : b.rich.Alternatives b.simple
  extended : b.extended.Continues b.rich
  analog : b.analog.Continues b.extended
  imei : b.imei.Filled
  date : b.date.Filled
  time : b.time.Filled
  latitude : b.latitude.Filled
  longitude : b.longitude.Filled

end Blocks

def Header.telemetryBlock : Header → Block 3
  | .telemetry status event history => #v[status, event, history]
  | .kind _ => .absent 3

def Header.kindBlock : Header → Block 1
  | .telemetry .. => .absent 1
  | .kind name => #v[name]

def Identity.statusBlock : Identity → Block 1
  | .status code => #v[code]
  | .validity _ => .absent 1

def Identity.validityBlock : Identity → Block 1
  | .status _ => .absent 1
  | .validity digit => #v[digit]

def Analog.block (a : Analog) : Block 2 :=
  #v[a.first, a.second]

namespace Extended

def cellText (e : Extended) : String :=
  ",".intercalate e.cells ++ ","

def block (e : Extended) : Block 9 :=
  #v[e.altitude, e.ignition, e.charge, e.power, e.battery, e.emergency, some e.cellText, e.inputs,
    e.outputs]

def analogBlock (e : Extended) : Block 2 :=
  (e.analog.map Analog.block).getD (.absent 2)

end Extended

namespace Trailer

def richBlock : Trailer → Block 3
  | rich speed course satellites _ => #v[speed, course, satellites]
  | simple .. => .absent 3

def simpleBlock : Trailer → Block 2
  | rich .. => .absent 2
  | simple altitude speed => #v[altitude, speed]

def extended? : Trailer → Option Extended
  | .rich _ _ _ e => e
  | .simple .. => none

def extendedBlock (t : Trailer) : Block 9 :=
  (t.extended?.map Extended.block).getD (.absent 9)

def analogBlock (t : Trailer) : Block 2 :=
  (t.extended?.map Extended.analogBlock).getD (.absent 2)

end Trailer

def Report.blocks (r : Report) : Blocks where
  telemetry := r.header.telemetryBlock
  kind := r.header.kindBlock
  imei := #v[r.imei]
  status := r.identity.statusBlock
  validity := r.identity.validityBlock
  date := #v[r.day, r.month, r.year]
  time := #v[r.hour, r.minute, r.second]
  letter := #v[r.validity]
  latitude := #v[r.latitude.1, r.latitude.2]
  longitude := #v[r.longitude.1, r.longitude.2]
  rich := r.trailer.richBlock
  extended := r.trailer.extendedBlock
  analog := r.trailer.analogBlock
  simple := r.trailer.simpleBlock

def IsHex (s : String) : Prop :=
  s ≠ "" ∧ ∀ c ∈ s.toList, isHexDigit c

structure Extended.HasCells (e : Extended) : Prop where
  count : e.cells.length = 17
  serving : ∀ c ∈ e.cells.take 5, IsHex c
  neighbors : ∀ c ∈ e.cells.drop 5, IsHex c ∨ ∃ unsigned, c = "-" ++ unsigned ∧ IsHex unsigned

lemma filled_shown {n : Nat} {b : Block n} (ts : List (List Char))
    (h : b.toList = ts.map Draft.shown) : b.Filled := by
  intro s hs
  rw [h] at hs
  obtain ⟨t, -, rfl⟩ := List.mem_map.1 hs
  rfl

lemma intercalate_append {α : Type} {sep : List α} {xs : List (List α)} (h : xs ≠ []) :
    sep.intercalate xs ++ sep = xs.flatMap (· ++ sep) := by
  induction xs with
  | nil => exact absurd rfl h
  | cons x xs ih =>
    cases xs with
    | nil => simp
    | cons y ys =>
      rw [List.flatMap_cons, ← ih (List.cons_ne_nil y ys), List.intercalate_cons_cons,
        List.append_assoc (x ++ sep)]

namespace Draft

lemma asSlots_append (v w : Captures) :
    Captures.asSlots (v ++ w) = v.asSlots ++ w.asSlots :=
  List.map_append

lemma header_slots (h : Header) :
    h.report.telemetryBlock.toList ++ h.report.kindBlock.toList = h.captures.asSlots := by
  cases h with
  | telemetry | kind => rfl

lemma header_alternatives (h : Header) :
    h.report.telemetryBlock.Alternatives h.report.kindBlock := by
  cases h with
  | telemetry vendor firmware status event history =>
    exact .inl ⟨filled_shown [status.1, event.1, history.1] rfl, Block.vacant_absent 1⟩
  | kind name => exact .inr ⟨Block.vacant_absent 3, filled_shown [name.1] rfl⟩

lemma identity_slots (i : Identity) :
    i.report.statusBlock.toList ++ i.report.validityBlock.toList = i.captures.asSlots := by
  cases i with
  | status | validity => rfl

lemma identity_alternatives (i : Identity) :
    i.report.statusBlock.Alternatives i.report.validityBlock := by
  cases i with
  | status code => exact .inl ⟨filled_shown [code.1] rfl, Block.vacant_absent 1⟩
  | validity registration digit =>
    exact .inr ⟨Block.vacant_absent 1, filled_shown [digit.1] rfl⟩

namespace Cells

variable (c : Cells)

lemma length_groups : c.groups.length = 17 := by
  simp [groups]

lemma cellText_groups : ",".intercalate (c.groups.map String.ofList) ++ "," =
    String.ofList c.text := by
  have plain : (c.groups.map String.ofList).map String.toList = c.groups := by
    simp
  have some_group : c.groups ≠ [] := by
    intro h
    have length := c.length_groups
    rw [h] at length
    cases length
  have text : (String.ofList c.text).toList = c.text := String.toList_ofList
  rw [← String.toList_inj, String.toList_append, String.toList_intercalate, plain, text]
  exact intercalate_append some_group

lemma take_groups : c.groups.take 5 = c.serving.toList.map (·.1) := by
  rw [groups, List.take_left' (by simp)]

lemma drop_groups : c.groups.drop 5 = c.neighbors.toList.map (·.1) := by
  rw [groups, List.drop_left' (by simp)]

end Cells

lemma isHex_group (x : Token (several isHexDigit)) : IsHex (String.ofList x.1) := by
  obtain ⟨-, filled, digits⟩ := matches_several.1 x.2
  exact ⟨by simpa using filled, by simpa using digits⟩

lemma isHex_signedGroup (x : Token (Pattern.optional (literal '-') ++ several isHexDigit)) :
    IsHex (String.ofList x.1) ∨
      ∃ unsigned, String.ofList x.1 = "-" ++ unsigned ∧ IsHex unsigned := by
  obtain ⟨_, _, _, u, sign, group, -, hx⟩ := matches_seq.1 x.2
  obtain ⟨u, -, rfl⟩ := (matches_token rfl).1 group
  have hu := isHex_group u
  obtain ⟨_, sign, -⟩ | ⟨_, sign, -⟩ := matches_alt.1 sign
  · obtain ⟨-, c, hc, rfl⟩ := matches_one.1 sign
    obtain rfl := of_decide_eq_true hc
    rw [hx, String.ofList_append]
    exact .inr ⟨_, rfl, hu⟩
  · obtain ⟨-, rfl⟩ := matches_empty.1 sign
    rw [hx]
    exact .inl hu

lemma hasCells (e : Extended) : e.report.HasCells where
  count := by
    rw [Extended.report, List.length_map, e.cells.length_groups]
  serving := by
    intro c hc
    rw [Extended.report, ← List.map_take, Cells.take_groups, List.map_map] at hc
    obtain ⟨x, -, rfl⟩ := List.mem_map.1 hc
    exact isHex_group x
  neighbors := by
    intro c hc
    rw [Extended.report, ← List.map_drop, Cells.drop_groups, List.map_map] at hc
    obtain ⟨x, -, rfl⟩ := List.mem_map.1 hc
    exact isHex_signedGroup x

lemma extended_block (e : Extended) : e.report.block.toList = e.baseCaptures.asSlots := by
  have cells : e.report.cellText = String.ofList e.cells.text := e.cells.cellText_groups
  rw [Sentence.Extended.block, cells]
  rfl

lemma analog_block (e : Extended) :
    e.report.analogBlock.toList = (analogCaptures e.analog).asSlots := by
  rw [Sentence.Extended.analogBlock, Extended.report]
  cases e.analog with
  | none | some => rfl

lemma fix_slots (f : Fix) : [f.letter.map fun l => String.ofList l.1] ++
    [shown f.latitude.1, shown f.northSouth.1] ++ [shown f.longitude.1, shown f.eastWest.1] =
      f.captures.asSlots := by
  rw [Fix.captures]
  cases f.letter with
  | none | some => rfl

lemma trailer_slots (t : Trailer) : t.report.richBlock.toList ++
    (t.report.extendedBlock.toList ++ t.report.analogBlock.toList) ++ t.report.simpleBlock.toList =
      t.captures.asSlots := by
  cases t with
  | simple altitude speed => rfl
  | rich speed course satellites e =>
    cases e with
    | none => rfl
    | some e =>
      have main : (Trailer.rich speed course satellites (some e)).report.extendedBlock.toList =
        e.baseCaptures.asSlots := extended_block e
      have analog : (Trailer.rich speed course satellites (some e)).report.analogBlock.toList =
        (analogCaptures e.analog).asSlots := analog_block e
      rw [main, analog, Trailer.captures, extendedCaptures, Extended.captures, asSlots_append,
        asSlots_append, asSlots_append]
      rfl

lemma trailer_alternatives (t : Trailer) :
    t.report.richBlock.Alternatives t.report.simpleBlock := by
  cases t with
  | rich speed course satellites e =>
    exact .inl ⟨filled_shown [speed.1, course.1, satellites.1] rfl, Block.vacant_absent 2⟩
  | simple altitude speed =>
    exact .inr ⟨Block.vacant_absent 3, filled_shown [altitude.1, speed.1] rfl⟩

lemma extended_filled (e : Extended) : e.report.block.Filled := by
  have block : e.report.block.toList = [e.altitude.1, e.ignition.1, e.charge.1, e.power.1,
      e.battery.1, e.emergency.1, e.cells.text, e.inputs.1, e.outputs.1].map shown :=
    extended_block e
  exact filled_shown _ block

lemma extended_continues (t : Trailer) :
    t.report.extendedBlock.Continues t.report.richBlock := by
  cases t with
  | simple altitude speed => exact .inr (Block.vacant_absent 9)
  | rich speed course satellites e =>
    cases e with
    | none => exact .inr (Block.vacant_absent 9)
    | some e =>
      exact .inl ⟨extended_filled e,
        filled_shown [speed.1, course.1, satellites.1] rfl⟩

lemma analog_filled_or_vacant (e : Extended) :
    e.report.analogBlock.Filled ∨ e.report.analogBlock.Vacant := by
  rw [Sentence.Extended.analogBlock, Extended.report]
  cases e.analog with
  | none => exact .inr (Block.vacant_absent 2)
  | some a => exact .inl (filled_shown [a.first.1, a.second.1] rfl)

lemma analog_continues (t : Trailer) :
    t.report.analogBlock.Continues t.report.extendedBlock := by
  cases t with
  | simple altitude speed => exact .inr (Block.vacant_absent 2)
  | rich speed course satellites e =>
    cases e with
    | none => exact .inr (Block.vacant_absent 2)
    | some e => exact (analog_filled_or_vacant e).imp_left fun h => ⟨h, extended_filled e⟩

lemma trailer_cells (t : Trailer) : ∀ e ∈ t.report.extended?, e.HasCells := by
  intro e he
  cases t with
  | simple altitude speed => cases he
  | rich speed course satellites x =>
    obtain ⟨e, -, rfl⟩ := Option.map_eq_some_iff.1 he
    exact hasCells e

variable (d : Draft)

lemma report_slots : d.report.blocks.slots = d.report.slots := by
  have slots : d.report.slots = d.header.captures.asSlots ++ [shown d.imei.1] ++
      d.identity.captures.asSlots ++ d.remainder.date.captures.asSlots ++
      d.remainder.clock.captures.asSlots ++ d.remainder.fix.captures.asSlots ++
      d.remainder.trailer.captures.asSlots := by
    simp [report, captures, Remainder.captures, Captures.asSlots, shown]
  rw [slots, ← header_slots, ← identity_slots, ← fix_slots, ← trailer_slots]
  rfl

lemma report_coherent : d.report.blocks.Coherent where
  header := header_alternatives d.header
  identity := identity_alternatives d.identity
  trailer := trailer_alternatives d.remainder.trailer
  extended := extended_continues d.remainder.trailer
  analog := analog_continues d.remainder.trailer
  imei := filled_shown [d.imei.1] rfl
  date := filled_shown
    [d.remainder.date.day.1, d.remainder.date.month.1, d.remainder.date.year.1] rfl
  time := filled_shown
    [d.remainder.clock.hour.1, d.remainder.clock.minute.1, d.remainder.clock.second.1] rfl
  latitude := filled_shown
    [d.remainder.fix.latitude.1, d.remainder.fix.northSouth.1] rfl
  longitude := filled_shown
    [d.remainder.fix.longitude.1, d.remainder.fix.eastWest.1] rfl

end Draft

/-- Every text is read without an error. What is read has all slots of the grammar, and its fields,
laid out in blocks, are these slots. -/
theorem ofText?_blocks (s : String) : ∃ o, Report.ofText? s = .ok o ∧
    sentence.capture? s = o.map Report.slots ∧
    ∀ r ∈ o, r.slots.length = 34 ∧ r.blocks.slots = r.slots ∧ r.blocks.Coherent ∧
      ∀ e ∈ r.trailer.extended?, e.HasCells := by
  obtain ⟨h, ho⟩ | ⟨d, rest, hs, hd, ho⟩ := ofText?_cases s
  · refine ⟨none, ho, ?_, by simp⟩
    rw [capture?_eq, preferred?_eq_none.2 h]
    rfl
  · refine ⟨some d.report, ho, ?_, ?_⟩
    · rw [capture?_eq, hs, hd.preferred?_eq]
      rfl
    · rintro r ⟨⟩
      refine ⟨?_, d.report_slots, d.report_coherent,
        Draft.trailer_cells d.remainder.trailer⟩
      rw [← d.report_slots, Blocks.length_slots]

end Telematics.Sentence
