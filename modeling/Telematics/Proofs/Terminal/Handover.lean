import Telematics.Proofs.Terminal.Endurance
import Telematics.Proofs.Terminal.Reader

namespace Telematics.Terminal.Connection

open Sentence Sentence.Draft Grammar Pattern Text

variable {channel : Channel} {limit : Nat} {registry : Registry} {sentences : List String}

def attempted (channel : Channel) : Registry → List String → List String
  | _, [] => []
  | registry, s :: r => s :: match (process channel registry s).result with
    | .error _ => []
    | .ok _ => attempted channel (process channel registry s).registry r

lemma attempted_of_breaks {s : String} (h : Breaks channel registry s) :
    attempted channel registry (s :: sentences) = [s] := by
  obtain ⟨failure, hf⟩ := process_error_iff.2 h
  rw [attempted, hf]

lemma attempted_of_not_breaks {s : String} (h : ¬ Breaks channel registry s) :
    attempted channel registry (s :: sentences) =
      s :: attempted channel (process channel registry s).registry sentences := by
  rw [attempted]
  cases hr : (process channel registry s).result with
  | ok o => rfl
  | error failure => exact absurd (process_error_iff.1 ⟨failure, hr⟩) h

lemma attempted_eq_iff : attempted channel registry sentences = sentences ↔
    Endures channel registry sentences.dropLast := by
  induction sentences generalizing registry with
  | nil =>
    simp only [attempted, List.dropLast_nil, true_iff]
    intro before s after h
    simp at h
  | cons s r ih =>
    by_cases hr : r = []
    · subst hr
      have last : attempted channel registry [s] = [s] := by
        by_cases hb : Breaks channel registry s
        · exact attempted_of_breaks hb
        · rw [attempted_of_not_breaks hb, attempted]
      simp only [last, List.dropLast_singleton, true_iff]
      intro before s after h
      simp at h
    · rw [List.dropLast_cons_of_ne_nil hr, endures_cons]
      by_cases hb : Breaks channel registry s
      · rw [attempted_of_breaks hb]
        simp only [List.cons.injEq, true_and, hb, not_true_eq_false, false_and, iff_false]
        exact Ne.symm hr
      · rw [attempted_of_not_breaks hb]
        simp only [List.cons.injEq, true_and, hb, not_false_eq_true, ih]

lemma serve_attempted (channel : Channel) (registry : Registry) (sentences : List String) :
    ∃ failure, serve channel registry sentences =
      (registryAfter channel registry (attempted channel registry sentences),
        effectsOf channel registry (attempted channel registry sentences), failure) := by
  induction sentences generalizing registry with
  | nil => exact ⟨none, rfl⟩
  | cons s r ih =>
    rw [serve, attempted]
    cases hr : (process channel registry s).result with
    | error failure =>
      refine ⟨some failure, ?_⟩
      simp only [registryAfter_cons, effectsOf, List.append_nil]
      rfl
    | ok o =>
      obtain ⟨failure, hs⟩ := ih (process channel registry s).registry
      refine ⟨failure, ?_⟩
      simp only [hs, registryAfter_cons, effectsOf]

/-- A stream is settled by its bytes and its end. Reading it comes to its framing; the sentences of
the frames are processed one after the other, all of them if and only if none but the last decodes
to a record without a message, and then the connection ends as the framing tells. -/
theorem play_framed (channel : Channel) (limit : Nat) (registry : Registry) (closed : Bool)
    (chunks : List (List UInt8)) :
    let framed := framing limit closed chunks.flatten
    let begun := attempted channel registry framed.1
    let played := play channel limit registry (chunked chunks closed)
    readAll limit closed ⟨[], chunks⟩ = framed ∧
    handed limit [] (chunked chunks closed) = framed ∧
    played.registry = registryAfter channel registry begun ∧
    (∃ last, (last = framed.2.effects channel ∨ last = release channel) ∧
      played.effects = opened channel ++ (effectsOf channel registry begun ++ last)) ∧
    (begun = framed.1 ↔ Endures channel registry framed.1.dropLast) ∧
    (Endures channel registry framed.1 → played.connection = framed.2.connection ∧
      played.effects = opened channel ++ (effectsOf channel registry framed.1 ++
        framed.2.effects channel)) := by
  intro framed begun played
  have read : handed limit [] (chunked chunks closed) = framed :=
    handed_chunked (by simp) (Nat.zero_le _) chunks
  have run : played = { conclude channel framed.2 (serve channel registry framed.1) with
      effects := opened channel ++
        (conclude channel framed.2 (serve channel registry framed.1)).effects } := by
    simp only [played, play, run_eq, read]
  refine ⟨readAll_eq limit closed ⟨[], chunks⟩, read, ?_, ?_, attempted_eq_iff, ?_⟩
  · obtain ⟨failure, hs⟩ := serve_attempted channel registry framed.1
    rw [run, hs]
    cases failure <;> rfl
  · obtain ⟨failure, hs⟩ := serve_attempted channel registry framed.1
    rw [run, hs]
    cases failure with
    | some failure => exact ⟨_, .inr rfl, rfl⟩
    | none => exact ⟨_, .inl rfl, rfl⟩
  · intro h
    rw [run, serve_of_endures h]
    exact ⟨rfl, rfl⟩

def bytesOf (t : List Char) : List UInt8 :=
  t.map fun c => UInt8.ofNat c.toNat

structure IsFrameText (t : List Char) : Prop where
  ascii : t.all (fun c => c.toNat < 128 && c != '*') = true
  filled : t.head?.map isBlank = some false

lemma toNat_ofNat {c : Char} (h : c.toNat < 128) : (UInt8.ofNat c.toNat).toNat = c.toNat := by
  rw [UInt8.toNat_ofNat']
  omega

lemma asciiChar_ofNat {c : Char} (h : c.toNat < 128) : asciiChar (UInt8.ofNat c.toNat) = c := by
  have low : UInt8.ofNat c.toNat < 128 := by
    rw [UInt8.lt_iff_toNat_lt, toNat_ofNat h]
    exact h
  rw [asciiChar, if_pos low, toNat_ofNat h, Char.ofNat_toNat]

lemma IsFrameText.chars {t : List Char} (h : IsFrameText t) :
    ∀ c ∈ t, c.toNat < 128 ∧ c ≠ '*' := by
  simpa using h.ascii

lemma IsFrameText.free {t : List Char} (h : IsFrameText t) : endMark ∉ bytesOf t := by
  intro hm
  obtain ⟨c, hc, he⟩ := List.mem_map.1 hm
  obtain ⟨low, other⟩ := h.chars c hc
  have char := asciiChar_ofNat low
  rw [he] at char
  exact other (char.symm.trans (by decide))

lemma IsFrameText.sentence {t : List Char} (h : IsFrameText t) :
    sentence? (bytesOf t ++ [endMark]) = some (String.ofList (t ++ ['*'])) := by
  have chars : (bytesOf t ++ [endMark]).map asciiChar = t ++ ['*'] := by
    have same : t.map (asciiChar ∘ fun c => UInt8.ofNat c.toNat) = t.map id :=
      List.map_congr_left fun c hc => asciiChar_ofNat (h.chars c hc).1
    rw [List.map_id] at same
    rw [List.map_append, bytesOf, List.map_map, same]
    rfl
  have whole : trimOf isBlank (t ++ ['*']) = t ++ ['*'] := by
    cases t with
    | nil => cases h.filled
    | cons c r =>
      have first : isBlank c = false := Option.some.inj h.filled
      have last : isBlank '*' = false := by decide
      rw [trimOf, List.cons_append, List.dropWhile_cons_of_neg (by simp [first]),
        ← List.cons_append, List.reverse_append, List.reverse_singleton, List.singleton_append,
        List.dropWhile_cons_of_neg (by simp [last]), List.reverse_cons, List.reverse_reverse]
  have filled : String.ofList (t ++ ['*']) ≠ "" := by
    rw [ne_eq, String.ofList_eq_empty_iff]
    simp
  rw [sentence?_eq, chars, trim, String.toList_ofList, whole, if_neg filled]

lemma framing_text {t : List Char} (h : IsFrameText t) (hl : t.length ≤ limit)
    (closed : Bool) (more : List UInt8) : framing limit closed (bytesOf t ++ endMark :: more) =
      (String.ofList (t ++ ['*']) :: (framing limit closed more).1,
        (framing limit closed more).2) := by
  have fits : (bytesOf t).length ≤ limit := by rwa [bytesOf, List.length_map]
  rw [framing_cons h.free fits, sentencesOf_singleton, h.sentence]
  rfl

def twoFrames : List UInt8 :=
  bytesOf (located (wideArea 3599)).text ++ endMark ::
    (bytesOf (located narrowArea).text ++ [endMark])

theorem second_frame_lost : ∃ first second,
    framing frameLimit true twoFrames = ([first, second], .ended) ∧
      attempted { peer := .unknown } ⟨false, ["861693034634154"]⟩ [first, second] = [first] := by
  have wide : IsFrameText (located (wideArea 3599)).text := ⟨by decide +kernel, by decide⟩
  have narrow : IsFrameText (located narrowArea).text := ⟨by decide +kernel, by decide⟩
  have ends : (located (wideArea 3599)).remainder.trailer.Ends ['*'] := fun _ => by decide
  have framed : framing frameLimit true twoFrames =
      ([String.ofList ((located (wideArea 3599)).text ++ ['*']),
        String.ofList ((located narrowArea).text ++ ['*'])], .ended) := by
    rw [twoFrames, framing_text wide (by decide +kernel), framing_text narrow (by decide +kernel),
      framing_nil]
  exact ⟨_, _, framed, attempted_of_breaks (breaks_wideArea_append ends wide_not_short)⟩

end Telematics.Terminal.Connection
