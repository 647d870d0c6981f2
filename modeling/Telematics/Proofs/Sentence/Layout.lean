import Telematics.Proofs.Sentence.Wording

namespace Telematics.Sentence

namespace Walk

variable {α β : Type} {n : Nat}

lemma place_nonneg (before : List Slot) : 0 ≤ (before.length : Int) :=
  Int.natCast_nonneg _

lemma place_le (before after : List Slot) :
    (before.length : Int) ≤ (before ++ after).length := by
  rw [List.length_append]
  omega

def between (before after : List Slot) : { c : Cursor // 0 ≤ c.position } :=
  ⟨⟨before ++ after, before.length, place_le before after⟩, place_nonneg before⟩

lemma window_between (before block after : List Slot) :
    (between before (block ++ after)).1.window block.length = block := by
  have h₁ : ¬ ((before.length : Int) < 0) := by omega
  have h₂ : ¬ ((before.length : Int) + block.length < 0) := by omega
  have h₃ : ((before.length : Int) + block.length).toNat = before.length + block.length := by omega
  have h₄ : min before.length (before ++ (block ++ after)).length = before.length := by
    simp only [List.length_append]
    omega
  have h₅ : min (before.length + block.length) (before ++ (block ++ after)).length =
      before.length + block.length := by
    simp only [List.length_append]
    omega
  simp only [between, Cursor.window, Cursor.before, h₁, h₂, h₃, h₄, h₅, if_false, Int.toNat_natCast]
  simp [← List.append_assoc]

lemma advance_between (before block after : List Slot)
    (h : (block.length : Int) ≤ (between before (block ++ after)).1.remaining) :
    (between before (block ++ after)).1.advance block.length h =
      (between (before ++ block) after).1 := by
  simp [between, Cursor.advance, List.append_assoc]

lemma take_of_ok {c : { c : Cursor // 0 ≤ c.position }} {slots : List Slot} {rest : Cursor}
    (h : c.1.take n = (.ok slots, rest)) :
    Walk.take n c = .ok (⟨slots.toArray, (Cursor.of_take c.2 h).1⟩,
      ⟨rest, (Cursor.of_take c.2 h).2⟩) := by
  simp only [Walk.take]
  split
  · rename_i slots' rest' taken
    obtain ⟨rfl, rfl⟩ : slots' = slots ∧ rest' = rest := by
      simpa only [Prod.mk.injEq, Except.ok.injEq] using taken.symm.trans h
    rfl
  · rename_i e rest' refused
    cases refused.symm.trans h

lemma take_of_error {c : { c : Cursor // 0 ≤ c.position }} {e : Cursor.Error} {rest : Cursor}
    (h : c.1.take n = (.error e, rest)) : Walk.take n c = .error (.cursor e) := by
  simp only [Walk.take]
  split
  · rename_i slots rest' taken
    cases taken.symm.trans h
  · rename_i e' rest' refused
    cases refused.symm.trans h
    rfl

structure Passes (w : Walk α) (block : List Slot) (a : α) : Prop where
  run (before after : List Slot) :
    w (between before (block ++ after)) = .ok (a, between (before ++ block) after)

namespace Passes

lemma run_bind {w : Walk α} {b : List Slot} {x : α} (hw : w.Passes b x) (f : α → Walk β)
    (before after : List Slot) :
    (w >>= f) (between before (b ++ after)) = f x (between (before ++ b) after) := by
  simp only [Bind.bind, StateT.bind, Except.bind, hw.run before after]

lemma bind {w : Walk α} {f : α → Walk β} {b c : List Slot} {x : α} {y : β}
    (hw : w.Passes b x) (hf : (f x).Passes c y) : (w >>= f).Passes (b ++ c) y := by
  constructor
  intro before after
  rw [List.append_assoc, hw.run_bind, hf.run, List.append_assoc]

lemma pure (a : α) : (Pure.pure a : Walk α).Passes [] a := by
  constructor
  intro before after
  rw [List.append_nil]
  rfl

lemma map {w : Walk α} {b : List Slot} {x : α} (hw : w.Passes b x) (f : α → β) :
    (w >>= fun a => Pure.pure (f a)).Passes b (f x) := by
  have h := hw.bind (f := fun a => Pure.pure (f a)) (Passes.pure (f x))
  rwa [List.append_nil] at h

lemma take {b : List Slot} (h : b.length = n) : (Walk.take n).Passes b ⟨b.toArray, h⟩ := by
  constructor
  intro before after
  subst h
  have hr : (b.length : Int) ≤ (between before (b ++ after)).1.remaining := by
    simp only [between, Cursor.remaining, List.length_append]
    omega
  have read : (between before (b ++ after)).1.take b.length =
      (.ok b, (between (before ++ b) after).1) := by
    rw [Cursor.take_of_le hr, window_between, advance_between]
  exact take_of_ok read

lemma next (s : Slot) : Walk.next.Passes [s] s :=
  (take (b := [s]) rfl).map fun v => v[0]

lemma present (t : List Char) (b : List Slot) (h : (Draft.shown t :: b).length = n)
    (hn : 0 < n) :
    (Walk.block n hn).Passes (Draft.shown t :: b) (some ⟨(Draft.shown t :: b).toArray, h⟩) :=
  (take h).map fun v => v[0].map fun _ => v

lemma absent (b : List Slot) (h : (none :: b).length = n) (hn : 0 < n) :
    (Walk.block n hn).Passes (none :: b) none :=
  (take h).map fun v => v[0].map fun _ => v

end Passes

end Walk

namespace Draft

open Walk Grammar Pattern Text

lemma passes_header (h : Header) : Walk.header.Passes h.captures.asSlots h.report := by
  cases h with
  | telemetry vendor firmware status event history =>
    exact (Passes.present status.1 [shown event.1, shown history.1] rfl _).bind
      ((Passes.absent [] rfl _).bind (Passes.pure _))
  | kind name =>
    exact (Passes.absent [none, none] rfl _).bind
      ((Passes.present name.1 [] rfl _).bind (Passes.pure _))

lemma passes_identity (i : Identity) : Walk.identity.Passes i.captures.asSlots i.report := by
  cases i with
  | status code =>
    exact (Passes.present code.1 [] rfl _).bind ((Passes.absent [] rfl _).bind (Passes.pure _))
  | validity registration digit =>
    exact (Passes.absent [] rfl _).bind ((Passes.present digit.1 [] rfl _).bind (Passes.pure _))

lemma fields_cons {f : List Char} (hf : ',' ∉ f) (r : List Char) :
    fields ',' (field f ++ r) = f :: fields ',' r := by
  induction f with
  | nil => rfl
  | cons c f ih =>
    have hc : c ≠ ',' := fun h => hf (h ▸ List.mem_cons_self)
    have hr := ih (mt (List.mem_cons_of_mem c) hf)
    simp only [field, List.append_assoc, List.cons_append, fields, hc, if_false] at hr ⊢
    rw [hr]

lemma fields_of_not_mem {f : List Char} (hf : ',' ∉ f) : fields ',' f = [f] := by
  induction f with
  | nil => rfl
  | cons c f ih =>
    have hc : c ≠ ',' := fun h => hf (h ▸ List.mem_cons_self)
    simp only [fields, hc, if_false, ih (mt (List.mem_cons_of_mem c) hf)]

lemma fields_flatMap {fs : List (List Char)} (hfs : ∀ f ∈ fs, ',' ∉ f) {g : List Char}
    (hg : ',' ∉ g) : fields ',' (fs.flatMap field ++ g) = fs ++ [g] := by
  induction fs with
  | nil => exact fields_of_not_mem hg
  | cons f fs ih =>
    rw [List.flatMap_cons, List.append_assoc, fields_cons (hfs f List.mem_cons_self),
      ih fun x hx => hfs x (List.mem_cons_of_mem f hx)]
    rfl

lemma splitCells_flatMap {fs : List (List Char)} (hfs : ∀ f ∈ fs, ',' ∉ f) {g : List Char}
    (hg : ',' ∉ g) (hn : g ≠ []) :
    splitCells (String.ofList ((fs ++ [g]).flatMap field)) = (fs ++ [g]).map String.ofList := by
  have ends : ((fs ++ [g]).flatMap field).reverse.dropWhile (· = ',') =
      (fs.flatMap field ++ g).reverse := by
    obtain ⟨l, c, rfl⟩ := List.eq_nil_or_concat g |>.resolve_left hn
    have hc : c ≠ ',' := fun h => hg (by simp [h])
    simp [field, hc]
  rw [splitCells, String.toList_ofList, ends, List.reverse_reverse, fields_flatMap hfs hg]

lemma signedGroup_ne_nil (x : Token (Pattern.optional (literal '-') ++ several isHexDigit)) :
    x.1 ≠ [] := by
  intro h
  obtain ⟨_, _, _, _, -, hx, -, hs⟩ := matches_seq.1 x.2
  obtain ⟨_, _, _, _, hc, -, -, rfl⟩ := matches_seq.1 hx
  obtain ⟨-, c, -, rfl⟩ := matches_one.1 hc
  rw [h] at hs
  simp at hs

lemma splitCells_text (c : Cells) :
    splitCells (String.ofList c.text) = c.groups.map String.ofList := by
  have plain : ∀ g ∈ c.groups, ',' ∉ g := by
    intro g hg
    simp only [Cells.groups, List.mem_append, List.mem_map] at hg
    obtain ⟨x, -, rfl⟩ | ⟨x, -, rfl⟩ := hg
    · exact x.2.avoids rfl
    · exact x.2.avoids rfl
  have filled : c.neighbors.toList ≠ [] := by
    intro h
    have hl := c.neighbors.length_toList
    rw [h] at hl
    exact absurd hl (by decide)
  obtain ⟨xs, x, hx⟩ := List.eq_nil_or_concat c.neighbors.toList |>.resolve_left filled
  have hg : c.groups = (c.serving.toList.map (·.1) ++ xs.map (·.1)) ++ [x.1] := by
    rw [Cells.groups, hx, List.concat_eq_append, List.map_append, ← List.append_assoc]
    rfl
  rw [Cells.text, hg]
  rw [hg] at plain
  exact splitCells_flatMap (fun f hf => plain f (List.mem_append_left _ hf))
    (plain x.1 (List.mem_append_right _ List.mem_cons_self)) (signedGroup_ne_nil x)

lemma passes_extended (x : Option Extended) :
    Walk.extended.Passes (extendedCaptures x).asSlots (x.map Extended.report) := by
  cases x with
  | none =>
    exact (Passes.absent (List.replicate 8 none) rfl _).bind
      ((Passes.absent [none] rfl _).bind (Passes.pure _))
  | some e =>
    have main := Passes.present e.altitude.1 [shown e.ignition.1, shown e.charge.1,
      shown e.power.1, shown e.battery.1, shown e.emergency.1, shown e.cells.text,
      shown e.inputs.1, shown e.outputs.1] rfl (by decide : 0 < 9)
    rw [Option.map_some, Extended.report, ← splitCells_text, extendedCaptures, Extended.captures]
    cases e.analog with
    | none =>
      apply main.bind
      exact ((Passes.absent [none] rfl _).bind (Passes.pure _))
    | some a =>
      apply main.bind
      exact ((Passes.present a.first.1 [shown a.second.1] rfl _).bind (Passes.pure _))

lemma passes_trailer (t : Trailer) : Walk.trailer.Passes t.captures.asSlots t.report := by
  cases t with
  | rich speed course satellites e =>
    have main := Passes.present speed.1 [shown course.1, shown satellites.1] rfl (by decide : 0 < 3)
    have h : (Trailer.rich speed course satellites e).captures.asSlots =
      [shown speed.1, shown course.1, shown satellites.1] ++
        ((extendedCaptures e).asSlots ++ ([none, none] ++ [])) := by
      simp [Trailer.captures, Captures.asSlots, shown]
    rw [h]
    refine main.bind ((passes_extended e).bind ?_)
    exact (Passes.absent [none] rfl _).bind (Passes.pure _)
  | simple altitude speed =>
    exact (Passes.absent [none, none] rfl _).bind ((passes_extended none).bind
      ((Passes.present altitude.1 [shown speed.1] rfl _).bind (Passes.pure _)))

lemma finish (slots : List Slot) (r : Report) :
    ((do
      let cursor ← get
      if 0 < cursor.val.remaining then throw (.unread cursor.val.remaining)
      return r : Walk Report) (between slots [])) = .ok (r, between slots []) := by
  have h : ¬ (0 < (between slots []).1.remaining) := by
    simp [between, Cursor.remaining]
  simp only [Bind.bind, StateT.bind, Except.bind, get, getThe, MonadStateOf.get, StateT.get,
    Pure.pure, Except.pure, h, if_false]
  rfl

theorem ofSlots_captures (d : Draft) : Report.ofSlots d.captures.asSlots = .ok d.report := by
  have date := Passes.take (n := 3) (b := d.remainder.date.captures.asSlots) rfl
  have clock := Passes.take (n := 3) (b := d.remainder.clock.captures.asSlots) rfl
  have latitude := Passes.take (n := 2) (b := [shown d.remainder.fix.latitude.1,
    shown d.remainder.fix.northSouth.1]) rfl
  have longitude := Passes.take (n := 2) (b := [shown d.remainder.fix.longitude.1,
    shown d.remainder.fix.eastWest.1]) rfl
  have slots : d.captures.asSlots = d.header.captures.asSlots ++ ([shown d.imei.1] ++
    (d.identity.captures.asSlots ++ (d.remainder.date.captures.asSlots ++
    (d.remainder.clock.captures.asSlots ++
    ([d.remainder.fix.letter.map fun l => String.ofList l.1] ++
    ([shown d.remainder.fix.latitude.1, shown d.remainder.fix.northSouth.1] ++
    ([shown d.remainder.fix.longitude.1, shown d.remainder.fix.eastWest.1] ++
    (d.remainder.trailer.captures.asSlots ++ [])))))))) := by
    simp [Draft.captures, Remainder.captures, Fix.captures, Captures.asSlots, shown]
  have start : (⟨.start d.captures.asSlots, Int.le_refl 0⟩ : { c : Cursor // 0 ≤ c.position }) =
      between [] d.captures.asSlots := rfl
  rw [Report.ofSlots, StateT.run', start, Walk.report]
  conv in between [] d.captures.asSlots => rw [slots]
  rw [(passes_header d.header).run_bind, (Passes.next _).run_bind,
    (passes_identity d.identity).run_bind, date.run_bind, clock.run_bind,
    (Passes.next _).run_bind, latitude.run_bind, longitude.run_bind,
    (passes_trailer d.remainder.trailer).run_bind]
  exact congrArg (Functor.map Prod.fst) (finish _ d.report)

end Draft

end Telematics.Sentence
