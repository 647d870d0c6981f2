import Telematics.Proofs.Terminal.Stream

/-! The frames of a stream, told from all of its bytes at once. -/

namespace Telematics.Terminal.Connection

open Text

variable {limit : Nat} {closed : Bool} {bytes body more rest : List UInt8}

def bodies (bytes : List UInt8) : List (List UInt8) :=
  (bytes.splitOn endMark).dropLast

def unfinished (bytes : List UInt8) : List UInt8 :=
  (bytes.splitOn endMark).getLast (List.splitOn_ne_nil endMark bytes)

def sentencesOf (frames : List (List UInt8)) : List String :=
  (frames.map fun frame => trim (String.ofList (frame.map asciiChar))).filter (· ≠ "")

/-- The sentences of a stream and its ending, which is orderly if the stream was closed and not
lost. -/
def framing (limit : Nat) (closed : Bool) (bytes : List UInt8) : List String × Ending :=
  let fitting := (bodies bytes).takeWhile fun body => body.length ≤ limit
  let frames := fitting.map (· ++ [endMark])
  if fitting ≠ bodies bytes ∨ limit < (unfinished bytes).length then (sentencesOf frames, .overrun)
  else if closed then (sentencesOf (frames ++ [unfinished bytes]), .ended)
  else (sentencesOf frames, .lost)

lemma sentence?_eq (frame : List UInt8) : sentence? frame =
    if trim (String.ofList (frame.map asciiChar)) = "" then none
    else some (trim (String.ofList (frame.map asciiChar))) := by
  unfold sentence?
  split
  · rename_i h
    rw [if_pos h]
  · rename_i h
    rw [if_neg h]

lemma filterMap_sentence? (frames : List (List UInt8)) :
    frames.filterMap sentence? = sentencesOf frames := by
  induction frames with
  | nil => rfl
  | cons frame frames ih =>
    rw [List.filterMap_cons, ih, sentence?_eq, sentencesOf, sentencesOf, List.map_cons]
    by_cases h : trim (String.ofList (frame.map asciiChar)) = ""
    · rw [if_pos h, List.filter_cons_of_neg (by simpa using h)]
    · rw [if_neg h, List.filter_cons_of_pos (by simpa using h)]

lemma sentencesOf_append (xs ys : List (List UInt8)) :
    sentencesOf (xs ++ ys) = sentencesOf xs ++ sentencesOf ys := by
  simp only [sentencesOf, List.map_append, List.filter_append]

lemma split_of_not_mem (h : endMark ∉ bytes) : bodies bytes = [] ∧ unfinished bytes = bytes := by
  have hs := List.splitOn_eq_singleton h
  simp only [bodies, unfinished, hs, List.dropLast_singleton, List.getLast_singleton, and_self]

lemma split_of_body (h : endMark ∉ body) (more : List UInt8) :
    bodies (body ++ endMark :: more) = body :: bodies more ∧
      unfinished (body ++ endMark :: more) = unfinished more := by
  have hs := List.splitOn_append_cons_self_of_not_mem h more
  have hn := List.splitOn_ne_nil endMark more
  simp only [bodies, unfinished, hs, List.dropLast_cons_of_ne_nil hn, List.getLast_cons hn,
    and_self]

lemma framing_of_not_mem (h : endMark ∉ bytes) (hl : bytes.length ≤ limit) :
    framing limit closed bytes = if closed then (sentencesOf [bytes], .ended) else ([], .lost) := by
  obtain ⟨hb, hu⟩ := split_of_not_mem h
  have fits : ¬ limit < bytes.length := by omega
  simp only [framing, hb, hu, List.takeWhile_nil, ne_eq, not_true_eq_false, false_or, fits,
    if_false, List.map_nil, List.nil_append]
  rfl

lemma framing_cons (h : endMark ∉ body) (hl : body.length ≤ limit) (more : List UInt8) :
    framing limit closed (body ++ endMark :: more) =
      (sentencesOf [body ++ [endMark]] ++ (framing limit closed more).1,
        (framing limit closed more).2) := by
  obtain ⟨hb, hu⟩ := split_of_body h more
  have first : (body :: bodies more).takeWhile (fun b => decide (b.length ≤ limit)) =
      body :: (bodies more).takeWhile fun b => decide (b.length ≤ limit) := by
    rw [List.takeWhile_cons_of_pos (by simpa using hl)]
  have single (frames : List (List UInt8)) : sentencesOf ((body ++ [endMark]) :: frames) =
      sentencesOf [body ++ [endMark]] ++ sentencesOf frames := sentencesOf_append [_] frames
  simp only [framing, hb, hu, first, ne_eq, List.cons.injEq, true_and, List.map_cons,
    List.cons_append]
  generalize (bodies more).takeWhile (fun b => decide (b.length ≤ limit)) = fitting
  by_cases hc : ¬ fitting = bodies more ∨ limit < (unfinished more).length
  · simp only [hc, if_true]
    rw [single]
  · simp only [hc, if_false]
    cases closed with
    | true =>
      simp only [if_true]
      rw [single]
    | false =>
      simp only [Bool.false_eq_true, if_false]
      rw [single]

lemma framing_of_long (h : endMark ∉ body) (hl : limit < body.length) (more : List UInt8) :
    framing limit closed (body ++ more) = ([], .overrun) := by
  by_cases hm : endMark ∈ more
  · obtain ⟨front, back, rfl, hf⟩ := List.eq_append_cons_of_mem hm
    have first : endMark ∉ body ++ front := by simp [h, hf]
    have pieces := (split_of_body first back).1
    have long : ((body ++ front) :: bodies back).takeWhile
        (fun b => decide (b.length ≤ limit)) = [] := by
      rw [List.takeWhile_cons_of_neg]
      simp only [List.length_append, decide_eq_true_eq]
      omega
    rw [← List.append_assoc, framing]
    simp only [pieces, long, ne_eq, List.nil_eq, reduceCtorEq, not_false_eq_true, true_or, if_true]
    rfl
  · have whole : endMark ∉ body ++ more := by simp [h, hm]
    obtain ⟨hb, hu⟩ := split_of_not_mem whole
    have long : limit < (body ++ more).length := by
      rw [List.length_append]
      omega
    simp only [framing, hb, hu, List.takeWhile_nil, long, or_true, if_true]
    rfl

lemma framing_cut (limit : Nat) (closed : Bool) {seen : List UInt8} (hs : endMark ∉ seen)
    (bytes more : List UInt8) :
    (∃ frames rest, cut limit seen seen.length bytes = (frames, .pending rest) ∧
      endMark ∉ rest ∧ rest.length ≤ limit ∧
      framing limit closed (seen.reverse ++ (bytes ++ more)) =
        (sentencesOf frames ++ (framing limit closed (rest ++ more)).1,
          (framing limit closed (rest ++ more)).2)) ∨
    (∃ frames, cut limit seen seen.length bytes = (frames, .overrun) ∧
      framing limit closed (seen.reverse ++ (bytes ++ more)) = (sentencesOf frames, .overrun)) := by
  induction bytes generalizing seen with
  | nil =>
    have front : endMark ∉ seen.reverse := by rwa [List.mem_reverse]
    by_cases hl : limit < seen.length
    · refine .inr ⟨[], by simp only [cut, hl, if_true], ?_⟩
      exact framing_of_long front (by rwa [List.length_reverse]) more
    · refine .inl ⟨[], seen.reverse, by simp only [cut, hl, if_false], front, ?_, rfl⟩
      rw [List.length_reverse]
      omega
  | cons b r ih =>
    by_cases hb : b = endMark
    · have front : endMark ∉ seen.reverse := by rwa [List.mem_reverse]
      rw [hb, List.cons_append]
      by_cases hl : limit < seen.length
      · refine .inr ⟨[], by simp only [cut, hl, if_true], ?_⟩
        exact framing_of_long front (by rwa [List.length_reverse]) _
      · have fits : seen.reverse.length ≤ limit := by
          rw [List.length_reverse]
          omega
        have frame : (endMark :: seen).reverse = seen.reverse ++ [endMark] := List.reverse_cons
        have empty : endMark ∉ ([] : List UInt8) := by simp
        have tail := ih empty
        rw [framing_cons front fits]
        simp only [cut, hl, if_true, if_false, frame]
        simp only [List.length_nil, List.reverse_nil, List.nil_append] at tail
        obtain ⟨frames, rest, hc, hm, hr, hf⟩ | ⟨frames, hc, hf⟩ := tail
        · refine .inl ⟨(seen.reverse ++ [endMark]) :: frames, rest, by rw [hc], hm, hr, ?_⟩
          rw [hf, ← List.append_assoc, ← sentencesOf_append, List.singleton_append]
        · refine .inr ⟨(seen.reverse ++ [endMark]) :: frames, by rw [hc], ?_⟩
          rw [hf, ← sentencesOf_append, List.singleton_append]
    · have longer : endMark ∉ b :: seen := by simp [hs, Ne.symm hb]
      have step := ih longer
      rw [List.reverse_cons, List.append_assoc, List.singleton_append] at step
      rw [List.cons_append]
      simpa only [cut, hb, if_false, List.length_cons] using step

def chunked (chunks : List (List UInt8)) (closed : Bool) : List Input :=
  chunks.map .chunk ++ [if closed then .endOfStream else .reset]

theorem handed_chunked {pending : List UInt8} (hp : endMark ∉ pending) (hl : pending.length ≤ limit)
    (chunks : List (List UInt8)) : handed limit pending (chunked chunks closed) =
      framing limit closed (pending ++ chunks.flatten) := by
  induction chunks generalizing pending with
  | nil =>
    rw [List.flatten_nil, List.append_nil, framing_of_not_mem hp hl]
    cases closed with
    | true =>
      rw [if_pos rfl, ← filterMap_sentence?]
      rfl
    | false => rfl
  | cons bytes chunks ih =>
    have front : endMark ∉ pending.reverse := by rwa [List.mem_reverse]
    have whole := framing_cut limit closed front bytes chunks.flatten
    rw [List.length_reverse, List.reverse_reverse] at whole
    have next : chunked (bytes :: chunks) closed = .chunk bytes :: chunked chunks closed := rfl
    rw [next, List.flatten_cons]
    obtain ⟨frames, rest, hc, hm, hr, hf⟩ | ⟨frames, hc, hf⟩ := whole
    · simp only [handed, cutChunk, hc, hf, ih hm hr, filterMap_sentence?]
    · simp only [handed, cutChunk, hc, hf, filterMap_sentence?]

end Telematics.Terminal.Connection
