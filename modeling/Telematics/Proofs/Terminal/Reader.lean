import Telematics.Proofs.Terminal.Framing

/-! Reading a stream sentence by sentence. -/

namespace Telematics.Terminal.Connection

open Text

variable {limit : Nat} {closed : Bool}

structure Reader where
  buffer : List UInt8
  coming : List (List UInt8)

def Reader.bytes (r : Reader) : List UInt8 :=
  r.buffer ++ r.coming.flatten

inductive Read where
  | frame (bytes : List UInt8) (r : Reader)
  | incomplete (bytes : List UInt8)
  | overrun
  | lost

def readUntil (limit : Nat) (closed : Bool) (buffer : List UInt8) (coming : List (List UInt8)) :
    Read :=
  match buffer.dropWhile (· ≠ endMark) with
  | _ :: back =>
    let body := buffer.takeWhile (· ≠ endMark)
    if limit < body.length then .overrun else .frame (body ++ [endMark]) ⟨back, coming⟩
  | [] =>
    if limit < buffer.length then .overrun
    else match coming with
      | [] => if closed then .incomplete buffer else .lost
      | bytes :: coming => readUntil limit closed (buffer ++ bytes) coming

inductive Finds (limit : Nat) (closed : Bool) (stream : List UInt8) : Read → Prop
  | frame {body : List UInt8} {r : Reader} (free : endMark ∉ body) (fits : body.length ≤ limit)
      (split : stream = body ++ endMark :: r.bytes) :
      Finds limit closed stream (.frame (body ++ [endMark]) r)
  | incomplete (free : endMark ∉ stream) (fits : stream.length ≤ limit) (orderly : closed = true) :
      Finds limit closed stream (.incomplete stream)
  | overrun {body more : List UInt8} (free : endMark ∉ body) (long : limit < body.length)
      (split : stream = body ++ more) : Finds limit closed stream .overrun
  | lost (free : endMark ∉ stream) (fits : stream.length ≤ limit) (reset : closed = false) :
      Finds limit closed stream .lost

lemma ne_endMark {body : List UInt8} (h : endMark ∉ body) :
    ∀ b ∈ body, decide (b ≠ endMark) = true := by
  intro b hb
  simp only [ne_eq, decide_not, Bool.not_eq_true', decide_eq_false_iff_not]
  rintro rfl
  exact h hb

lemma readUntil_of_mem {body : List UInt8} (h : endMark ∉ body) (back : List UInt8)
    (coming : List (List UInt8)) : readUntil limit closed (body ++ endMark :: back) coming =
      if limit < body.length then .overrun else .frame (body ++ [endMark]) ⟨back, coming⟩ := by
  have front : (body ++ endMark :: back).takeWhile (· ≠ endMark) = body := by
    rw [List.takeWhile_append_of_pos (ne_endMark h), List.takeWhile_cons_of_neg (by simp),
      List.append_nil]
  have rest : (body ++ endMark :: back).dropWhile (· ≠ endMark) = endMark :: back := by
    rw [List.dropWhile_append_of_pos (ne_endMark h), List.dropWhile_cons_of_neg (by simp)]
  rw [readUntil.eq_def, rest, front]

lemma readUntil_of_not_mem {buffer : List UInt8} (h : endMark ∉ buffer)
    (coming : List (List UInt8)) : readUntil limit closed buffer coming =
      if limit < buffer.length then .overrun
      else match coming with
        | [] => if closed then .incomplete buffer else .lost
        | bytes :: coming => readUntil limit closed (buffer ++ bytes) coming := by
  have rest : (buffer ++ []).dropWhile (· ≠ endMark) = [].dropWhile (· ≠ endMark) :=
    List.dropWhile_append_of_pos (ne_endMark h)
  rw [List.append_nil, List.dropWhile_nil] at rest
  rw [readUntil.eq_def, rest]

lemma finds_of_mem {buffer : List UInt8} (h : endMark ∈ buffer) (coming : List (List UInt8)) :
    Finds limit closed (buffer ++ coming.flatten) (readUntil limit closed buffer coming) := by
  obtain ⟨body, back, rfl, hb⟩ := List.eq_append_cons_of_mem h
  rw [readUntil_of_mem hb, List.append_assoc, List.cons_append]
  by_cases hl : limit < body.length
  · rw [if_pos hl]
    exact .overrun hb hl rfl
  · rw [if_neg hl]
    exact .frame hb (by omega) rfl

lemma readUntil_finds (limit : Nat) (closed : Bool) (buffer : List UInt8)
    (coming : List (List UInt8)) :
    Finds limit closed (buffer ++ coming.flatten) (readUntil limit closed buffer coming) := by
  induction coming generalizing buffer with
  | nil =>
    by_cases hm : endMark ∈ buffer
    · exact finds_of_mem hm []
    · rw [readUntil_of_not_mem hm, List.flatten_nil, List.append_nil]
      by_cases hl : limit < buffer.length
      · rw [if_pos hl]
        exact .overrun hm hl (List.append_nil _).symm
      · rw [if_neg hl]
        cases closed with
        | true => exact .incomplete hm (by omega) rfl
        | false => exact .lost hm (by omega) rfl
  | cons bytes coming ih =>
    by_cases hm : endMark ∈ buffer
    · exact finds_of_mem hm _
    · rw [readUntil_of_not_mem hm, List.flatten_cons]
      by_cases hl : limit < buffer.length
      · rw [if_pos hl]
        exact .overrun hm hl rfl
      · rw [if_neg hl, ← List.append_assoc]
        exact ih (buffer ++ bytes)

lemma Reader.finds {r : Reader} {found : Read}
    (h : readUntil limit closed r.buffer r.coming = found) : Finds limit closed r.bytes found :=
  h ▸ readUntil_finds limit closed r.buffer r.coming

lemma shorter_of_frame {r next : Reader} {bytes : List UInt8}
    (h : readUntil limit closed r.buffer r.coming = .frame bytes next) :
    next.bytes.length < r.bytes.length := by
  cases Reader.finds h with
  | frame free fits split =>
    rw [split, List.length_append, List.length_cons]
    omega

lemma bytes_of_incomplete {r : Reader} {bytes : List UInt8}
    (h : readUntil limit closed r.buffer r.coming = .incomplete bytes) : bytes = r.bytes := by
  cases Reader.finds h
  rfl

def isBlankRest (bytes : List UInt8) : Bool :=
  bytes.all fun b => isAsciiBlank (asciiChar b)

lemma length_pos_of_not_blank {r : Reader} {bytes : List UInt8}
    (h : readUntil limit closed r.buffer r.coming = .incomplete bytes)
    (blank : ¬ isBlankRest bytes) : 0 < r.bytes.length := by
  rw [← bytes_of_incomplete h]
  apply List.length_pos_iff.2
  rintro rfl
  exact blank rfl

inductive Turn where
  | sentence (s : String) (r : Reader)
  | again (r : Reader)
  | halt (ending : Ending)

def turn (limit : Nat) (closed : Bool) (r : Reader) : Turn :=
  match readUntil limit closed r.buffer r.coming with
  | .frame bytes next =>
    match sentence? bytes with
    | some s => .sentence s next
    | none => .again next
  | .incomplete bytes =>
    if isBlankRest bytes then .halt .ended
    else match sentence? bytes with
      | some s => .sentence s ⟨[], []⟩
      | none => .again ⟨[], []⟩
  | .overrun => .halt .overrun
  | .lost => .halt .lost

lemma sentencesOf_singleton (frame : List UInt8) :
    sentencesOf [frame] = (sentence? frame).toList := by
  rw [← filterMap_sentence?]
  cases h : sentence? frame with
  | none => rw [List.filterMap_cons_none h, List.filterMap_nil, Option.toList_none]
  | some s => rw [List.filterMap_cons_some h, List.filterMap_nil, Option.toList_some]

/-- A rest of ASCII blanks has no sentence; not every rest without a sentence is one of them. -/
lemma sentence?_of_blank {bytes : List UInt8} (h : isBlankRest bytes) : sentence? bytes = none := by
  have blank : ∀ c ∈ bytes.map asciiChar, isBlank c := by
    intro c hc
    obtain ⟨b, hb, rfl⟩ := List.mem_map.1 hc
    exact isBlank_of_isAsciiBlank (List.all_eq_true.1 h b hb)
  have gone : (bytes.map asciiChar ++ []).dropWhile isBlank = [].dropWhile isBlank :=
    List.dropWhile_append_of_pos blank
  rw [List.append_nil, List.dropWhile_nil] at gone
  rw [sentence?_eq, if_pos]
  rw [trim, String.toList_ofList, trimOf, gone]
  rfl

inductive Turns (limit : Nat) (closed : Bool) (r : Reader) : Turn → Prop
  | sentence {s : String} {next : Reader} (shorter : next.bytes.length < r.bytes.length)
      (framed : framing limit closed r.bytes = (s :: (framing limit closed next.bytes).1,
        (framing limit closed next.bytes).2)) : Turns limit closed r (.sentence s next)
  | again {next : Reader} (shorter : next.bytes.length < r.bytes.length)
      (framed : framing limit closed r.bytes = framing limit closed next.bytes) :
      Turns limit closed r (.again next)
  | halt {ending : Ending} (framed : framing limit closed r.bytes = ([], ending)) :
      Turns limit closed r (.halt ending)

lemma framing_frame {r next : Reader} {bytes : List UInt8}
    (h : readUntil limit closed r.buffer r.coming = .frame bytes next) :
    framing limit closed r.bytes = ((sentence? bytes).toList ++ (framing limit closed next.bytes).1,
      (framing limit closed next.bytes).2) := by
  cases Reader.finds h with
  | frame free fits split => rw [split, framing_cons free fits, sentencesOf_singleton]

lemma framing_nil : framing limit true [] = ([], .ended) := by
  rw [framing_of_not_mem (by simp) (Nat.zero_le _), if_pos rfl]
  rfl

lemma framing_incomplete {r : Reader} {bytes : List UInt8}
    (h : readUntil limit closed r.buffer r.coming = .incomplete bytes) :
    framing limit closed [] = ([], .ended) ∧
      framing limit closed r.bytes = ((sentence? bytes).toList, .ended) := by
  cases Reader.finds h with
  | incomplete free fits orderly =>
    constructor
    · rw [orderly, framing_nil]
    · rw [framing_of_not_mem free fits, orderly, if_pos rfl, sentencesOf_singleton]

lemma turns_turn (limit : Nat) (closed : Bool) (r : Reader) :
    Turns limit closed r (turn limit closed r) := by
  rw [turn]
  cases h : readUntil limit closed r.buffer r.coming with
  | frame bytes next =>
    have framed := framing_frame h
    dsimp only
    cases hs : sentence? bytes with
    | some s =>
      rw [hs, Option.toList_some] at framed
      exact .sentence (shorter_of_frame h) framed
    | none =>
      rw [hs, Option.toList_none] at framed
      exact .again (shorter_of_frame h) framed
  | incomplete bytes =>
    obtain ⟨last, framed⟩ := framing_incomplete h
    by_cases blank : isBlankRest bytes
    · rw [sentence?_of_blank blank] at framed
      simp only [blank, if_true]
      exact .halt framed
    · have shorter := length_pos_of_not_blank h blank
      simp only [blank, Bool.false_eq_true, if_false]
      cases hs : sentence? bytes with
      | some s =>
        rw [hs, Option.toList_some] at framed
        refine .sentence shorter (framed.trans ?_)
        exact congrArg (fun x => (s :: x.1, x.2)) last.symm
      | none =>
        rw [hs, Option.toList_none] at framed
        exact .again shorter (framed.trans last.symm)
  | overrun =>
    apply Turns.halt
    cases Reader.finds h with
    | overrun free long split => rw [split, framing_of_long free long]
  | lost =>
    apply Turns.halt
    cases Reader.finds h with
    | lost free fits reset => rw [framing_of_not_mem free fits, reset, if_neg Bool.false_ne_true]

def readAll (limit : Nat) (closed : Bool) (r : Reader) : List String × Ending :=
  match _h : turn limit closed r with
  | .sentence s next => (s :: (readAll limit closed next).1, (readAll limit closed next).2)
  | .again next => readAll limit closed next
  | .halt ending => ([], ending)
termination_by r.bytes.length
decreasing_by
  all_goals
    cases _h ▸ turns_turn limit closed r
    assumption

theorem readAll_eq (limit : Nat) (closed : Bool) (r : Reader) :
    readAll limit closed r = framing limit closed r.bytes := by
  fun_induction readAll limit closed r with
  | case1 r s next h ih =>
    cases h ▸ turns_turn limit closed r with
    | sentence shorter framed => rw [framed, ih]
  | case2 r next h ih =>
    cases h ▸ turns_turn limit closed r with
    | again shorter framed => rw [framed, ih]
  | case3 r ending h =>
    cases h ▸ turns_turn limit closed r with
    | halt framed => rw [framed]

end Telematics.Terminal.Connection
