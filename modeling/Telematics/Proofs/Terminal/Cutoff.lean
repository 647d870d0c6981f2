import Telematics.Proofs.Sentence.Extension
import Telematics.Proofs.Terminal.Fate
import Telematics.Proofs.Terminal.Reader

/-! Sentences that are cut off behind a trailer. -/

namespace Telematics.Terminal

open Sentence Sentence.Draft Pattern

variable {s t : String}

def Effect.requote (text : String) : Effect → Effect
  | .log (.notASentence _) => .log (.notASentence text)
  | e => e

def Outcome.requoted (o : Outcome) (text : String) : Outcome :=
  { o with effects := o.effects.map (.requote text) }

def Effect.isOutward : Effect → Bool
  | .log event => Log.Level.warning ≤ event.level
  | _ => true

def outward (effects : List Effect) : List Effect :=
  effects.filter Effect.isOutward

lemma outward_append (xs ys : List Effect) : outward (xs ++ ys) = outward xs ++ outward ys :=
  List.filter_append xs ys

lemma requote_of_isOutward {e : Effect} (text : String) (h : e.isOutward) :
    e.requote text = e := by
  unfold Effect.requote
  split
  · cases h
  · rfl

lemma isOutward_requote (text : String) (e : Effect) :
    (e.requote text).isOutward = e.isOutward := by
  unfold Effect.requote
  split
  · rfl
  · rfl

lemma outward_requote (text : String) (effects : List Effect) :
    outward (effects.map (.requote text)) = outward effects := by
  have kept : Effect.isOutward ∘ Effect.requote text = Effect.isOutward :=
    funext (isOutward_requote text)
  rw [outward, List.filter_map, kept, ← outward]
  conv_rhs => rw [← List.map_id (outward effects)]
  exact List.map_congr_left fun e he => requote_of_isOutward text (List.mem_filter.1 he).2

lemma view_outward {β : Type} {view : List Effect → List β} (empty : view [] = [])
    (append : ∀ xs ys, view (xs ++ ys) = view xs ++ view ys)
    (quiet : ∀ event : Log.Event, event.level < Log.Level.warning → view [.log event] = [])
    (effects : List Effect) : view (outward effects) = view effects := by
  induction effects with
  | nil => rw [outward, List.filter_nil]
  | cons e r ih =>
    rw [← List.singleton_append, outward_append, append, append, ih]
    congr 1
    cases e with
    | log event =>
      by_cases h : (Effect.log event).isOutward
      · rw [outward, List.filter_cons_of_pos h, List.filter_nil]
      · have below := Int.not_le.1 (mt decide_eq_true h)
        rw [outward, List.filter_cons_of_neg h, List.filter_nil, empty, quiet event below]
    | reply | lookUp | publish | close | awaitClose => rfl

lemma replies_outward (effects : List Effect) : replies (outward effects) = replies effects :=
  view_outward rfl replies_append (fun _ _ => rfl) effects

lemma messages_outward (effects : List Effect) : messages (outward effects) = messages effects :=
  view_outward rfl messages_append (fun _ _ => rfl) effects

lemma loud_outward (effects : List Effect) : loud (outward effects) = loud effects := by
  refine view_outward rfl loud_append ?_ effects
  intro event h
  have below : ¬ Log.Level.warning ≤ event.entry.level := Int.not_le.2 h
  exact List.filter_cons_of_neg (mt of_decide_eq_true below)

lemma opensSession_append (s : String) (ht : ',' ∉ t.toList) :
    opensSession (s ++ t) = opensSession s := by
  have opening : handshakeOpening.toList = ['$', ',', '0', '1'] ++ [','] := rfl
  rw [opensSession, opensSession, Bool.eq_iff_iff, List.isPrefixOf_iff_prefix,
    List.isPrefixOf_iff_prefix, String.toList_append, opening]
  exact prefix_append_iff ht

lemma greet_append (channel : Option Channel) (s : String) (ht : ',' ∉ t.toList) :
    greet channel (s ++ t) = greet channel s := by
  simp only [greet, opensSession_append s ht]

lemma greet_requote (text : String) (channel : Option Channel) (s : String) :
    (greet channel s).map (.requote text) = greet channel s := by
  cases channel with
  | none => rfl
  | some c =>
    simp only [greet, Channel.send]
    split_ifs <;> rfl

lemma locate_requote (text : String) (channel : Option Channel) (registry : Registry)
    (r : Report) : (locate channel registry r).effects.map (.requote text) =
      (locate channel registry r).effects := by
  unfold locate
  simp only
  cases (registry.resolve (r.imei.getD "")).2 with
  | known session | registered session | refused => rfl

lemma decode_append (channel : Option Channel) (registry : Registry) (s : String)
    (ht : ',' ∉ t.toList) :
    decode channel registry (s ++ t) = (decode channel registry s).requoted (s ++ t) := by
  have greeting := greet_requote (s ++ t) channel s
  rw [decode, decode, greet_append channel s ht, ofText?_append s ht]
  obtain ⟨-, ho⟩ | ⟨d, rest, -, -, ho⟩ := ofText?_cases s
  · simp only [ho, Outcome.requoted, List.map_append, greeting]
    rfl
  · simp only [ho, Outcome.requoted, List.map_append, greeting, locate_requote]

lemma process_append (c : Channel) (registry : Registry) (s : String) (ht : ',' ∉ t.toList) :
    process c registry (s ++ t) = (process c registry s).requoted (s ++ t) := by
  rw [process, process, decode_append (some c) registry s ht]
  generalize decode (some c) registry s = o
  obtain ⟨after, effects, result⟩ := o
  cases result with
  | error failure =>
    cases failure with
    | conversion e => simp only [Outcome.requoted, List.map_append]; rfl
    | tooLarge | layout | unwritable => rfl
  | ok record =>
    cases record with
    | none => rfl
    | some p =>
      simp only [Outcome.requoted]
      cases p.message? with
      | none => rfl
      | some line => simp only [List.map_append]; rfl

/-! The empty text is no sentence and leaves nothing behind but a log line. -/

lemma process_empty (c : Channel) (registry : Registry) :
    process c registry "" = ⟨registry, [.log (.notASentence "")], .ok none⟩ := by
  have unread : Report.ofText? "" = .ok none := by
    apply ofText?_of_not_starts
    rintro ⟨x, hx, v, hm⟩
    obtain ⟨u, rfl⟩ := endsWith_sentence hm
    simp at hx
  rw [process_of_not_read unread]
  rfl

namespace Connection

open Text

variable {channel : Channel} {limit : Nat} {registry : Registry} {body : List UInt8}

/-- What sentences come to for everyone who does not read the log below warnings. -/
def noticed : Registry × List Effect × Option Failure → Registry × List Effect × Option Failure
  | (registry, effects, failure) => (registry, outward effects, failure)

lemma noticed_serve_append (channel : Channel) (registry : Registry) (front : List String)
    {xs ys : List String}
    (h : ∀ registry, noticed (serve channel registry xs) = noticed (serve channel registry ys)) :
    noticed (serve channel registry (front ++ xs)) =
      noticed (serve channel registry (front ++ ys)) := by
  rw [serve_append, serve_append]
  obtain ⟨after, effects, failure⟩ := serve channel registry front
  cases failure with
  | some failure => rfl
  | none =>
    have same := h after
    simp only [noticed, Prod.mk.injEq] at same ⊢
    obtain ⟨registry, shown, failure⟩ := same
    rw [outward_append, outward_append, shown]
    exact ⟨registry, rfl, failure⟩

lemma noticed_serve_longer (channel : Channel) (registry : Registry) (s : String)
    (ht : ',' ∉ t.toList) : noticed (serve channel registry [s ++ t]) =
      noticed (serve channel registry (if s = "" then [] else [s])) := by
  have longer := process_append channel registry s ht
  by_cases hs : s = ""
  · rw [hs, process_empty] at longer
    rw [if_pos hs, hs]
    simp only [serve, longer]
    rfl
  · rw [if_neg hs]
    simp only [serve, longer, List.append_nil]
    generalize process channel registry s = o
    obtain ⟨after, effects, result⟩ := o
    cases result with
    | error failure => simp only [Outcome.requoted, noticed, outward_requote]
    | ok record => simp only [Outcome.requoted, noticed, outward_requote]

/-! The end mark of a last frame. -/

lemma trimOf_terminated (chars : List Char) : ∃ blanks, (∀ c ∈ blanks, isBlank c) ∧
    trimOf isBlank (chars ++ ['*']) = trimOf isBlank chars ++ (blanks ++ ['*']) := by
  have mark : ¬ isBlank '*' := by decide
  have front : (chars ++ ['*']).dropWhile isBlank = chars.dropWhile isBlank ++ ['*'] := by
    rw [List.dropWhile_append]
    split
    · rename_i h
      rw [List.isEmpty_iff.1 h, List.dropWhile_cons_of_neg mark, List.nil_append]
    · rfl
  refine ⟨((chars.dropWhile isBlank).reverse.takeWhile isBlank).reverse, ?_, ?_⟩
  · intro c hc
    exact List.all_eq_true.1 List.all_takeWhile c (List.mem_reverse.1 hc)
  · rw [trimOf, trimOf, front, List.reverse_append, List.reverse_singleton, List.singleton_append,
      List.dropWhile_cons_of_neg mark, List.reverse_cons, List.reverse_reverse,
      ← List.append_assoc, ← List.reverse_append, List.takeWhile_append_dropWhile,
      List.reverse_reverse]

lemma sentence_terminated (body : List UInt8) : ∃ t : String, ',' ∉ t.toList ∧
    trim (String.ofList ((body ++ [endMark]).map asciiChar)) =
      trim (String.ofList (body.map asciiChar)) ++ t ∧ t ≠ "" := by
  obtain ⟨blanks, hb, trimmed⟩ := trimOf_terminated (body.map asciiChar)
  have chars : (body ++ [endMark]).map asciiChar = body.map asciiChar ++ ['*'] := by
    rw [List.map_append]
    rfl
  -- blanks that were trimmed at the end are inside now, before the mark
  refine ⟨String.ofList (blanks ++ ['*']), ?_, ?_, ?_⟩
  · rw [String.toList_ofList, List.mem_append]
    rintro (h | h)
    · exact absurd (hb ',' h) (by decide)
    · cases List.mem_singleton.1 h
  · rw [chars, trim, trim, String.toList_ofList, String.toList_ofList, trimmed,
      String.ofList_append]
  · rw [ne_eq, String.ofList_eq_empty_iff]
    simp

lemma sentencesOf_cut (body : List UInt8) : ∃ (s t : String), ',' ∉ t.toList ∧
    sentencesOf [body] = (if s = "" then [] else [s]) ∧
      sentencesOf [body ++ [endMark]] = [s ++ t] := by
  obtain ⟨t, ht, same, filled⟩ := sentence_terminated body
  refine ⟨trim (String.ofList (body.map asciiChar)), t, ht, ?_, ?_⟩
  · rw [sentencesOf_singleton, sentence?_eq]
    split_ifs <;> rfl
  · rw [sentencesOf_singleton, sentence?_eq, same, if_neg]
    · rfl
    · exact fun h => filled (String.append_eq_empty_iff.1 h).2

/-- An end mark at the end of a stream is the end of its last frame, unless the stream has overrun
the reader before. -/
lemma framing_terminated (limit : Nat) (bytes : List UInt8) : ∃ front,
    (framing limit true bytes = (front, .overrun) ∧
      framing limit true (bytes ++ [endMark]) = (front, .overrun)) ∨
    ∃ s t : String, ',' ∉ t.toList ∧
      framing limit true bytes = (front ++ (if s = "" then [] else [s]), .ended) ∧
      framing limit true (bytes ++ [endMark]) = (front ++ [s ++ t], .ended) := by
  -- on the length, as the first end mark splits off a frame and leaves a shorter stream
  induction hn : bytes.length using Nat.strong_induction_on generalizing bytes with
  | h n ih =>
    by_cases hm : endMark ∈ bytes
    · obtain ⟨body, back, rfl, hb⟩ := List.eq_append_cons_of_mem hm
      rw [List.append_assoc, List.cons_append]
      by_cases hl : limit < body.length
      · exact ⟨[], .inl ⟨framing_of_long hb hl _, framing_of_long hb hl _⟩⟩
      · have fits : body.length ≤ limit := Nat.le_of_not_lt hl
        have shorter : back.length < n := by
          rw [← hn, List.length_append, List.length_cons]
          omega
        rw [framing_cons hb fits, framing_cons hb fits]
        obtain ⟨front, ⟨h₁, h₂⟩ | ⟨s, t, ht, h₁, h₂⟩⟩ := ih _ shorter back rfl
        · exact ⟨_, .inl ⟨by rw [h₁], by rw [h₂]⟩⟩
        · refine ⟨sentencesOf [body ++ [endMark]] ++ front, .inr ⟨s, t, ht, ?_, ?_⟩⟩
          · rw [h₁, List.append_assoc]
          · rw [h₂, List.append_assoc]
    · by_cases hl : limit < bytes.length
      · have whole : framing limit true (bytes ++ []) = ([], .overrun) := framing_of_long hm hl []
        rw [List.append_nil] at whole
        exact ⟨[], .inl ⟨whole, framing_of_long hm hl _⟩⟩
      · have fits : bytes.length ≤ limit := Nat.le_of_not_lt hl
        obtain ⟨s, t, ht, h₁, h₂⟩ := sentencesOf_cut bytes
        refine ⟨[], .inr ⟨s, t, ht, ?_, ?_⟩⟩
        · rw [framing_of_not_mem hm fits, if_pos rfl, h₁, List.nil_append]
        · rw [framing_cons hm fits, framing_nil, h₂, List.append_nil, List.nil_append]

def preceded (effects : List Effect) (p : Progress) : Progress :=
  { p with effects := effects ++ p.effects }

lemma play_chunked (channel : Channel) (limit : Nat) (registry : Registry) (closed : Bool)
    (chunks : List (List UInt8)) :
    play channel limit registry (chunked chunks closed) =
      preceded (opened channel) (conclude channel (framing limit closed chunks.flatten).2
        (serve channel registry (framing limit closed chunks.flatten).1)) := by
  have clean : endMark ∉ ([] : List UInt8) := by simp
  have read : handed limit [] (chunked chunks closed) =
      framing limit closed ([] ++ chunks.flatten) :=
    handed_chunked clean (Nat.zero_le limit) chunks
  rw [List.nil_append] at read
  rw [play, run_eq, read]
  rfl

structure Alike (p q : Progress) : Prop where
  registry : p.registry = q.registry
  connection : p.connection = q.connection
  effects : outward p.effects = outward q.effects

lemma Alike.preceded {p q : Progress} (h : Alike p q) (effects : List Effect) :
    Alike (preceded effects p) (preceded effects q) := by
  refine ⟨h.registry, h.connection, ?_⟩
  rw [Connection.preceded, Connection.preceded, outward_append, outward_append, h.effects]

lemma alike_conclude {ending : Ending} {x y : Registry × List Effect × Option Failure}
    (h : noticed x = noticed y) :
    Alike (conclude channel ending x) (conclude channel ending y) := by
  obtain ⟨registry, effects, failure⟩ := x
  obtain ⟨later, others, cause⟩ := y
  simp only [noticed, Prod.mk.injEq] at h
  obtain ⟨rfl, same, rfl⟩ := h
  cases failure with
  | none => exact ⟨rfl, rfl, by simp only [conclude, outward_append, same]⟩
  | some failure => exact ⟨rfl, rfl, by simp only [conclude, outward_append, same]⟩

lemma alike_play (channel : Channel) (limit : Nat) (registry : Registry)
    {chunks terminated : List (List UInt8)} (h : terminated.flatten = chunks.flatten ++ [endMark]) :
    Alike (play channel limit registry (chunked terminated true))
      (play channel limit registry (chunked chunks true)) := by
  rw [play_chunked, play_chunked, h]
  apply Alike.preceded
  obtain ⟨front, ⟨h₁, h₂⟩ | ⟨s, t, ht, h₁, h₂⟩⟩ := framing_terminated limit chunks.flatten
  · rw [h₁, h₂]
    exact ⟨rfl, rfl, rfl⟩
  · rw [h₁, h₂]
    apply alike_conclude
    apply noticed_serve_append
    exact fun registry => noticed_serve_longer channel registry s ht

end Connection

end Telematics.Terminal

namespace Telematics.Service

open Sentence Terminal Terminal.Connection

/-- Text without a comma behind a sentence changes nothing but what a log line quotes. So a stream
is served alike with and without an end mark behind its last frame, however it comes in chunks. -/
theorem serve_cut_off :
    (∀ (s t : String), ',' ∉ t.toList →
      Report.ofText? (s ++ t) = Report.ofText? s ∧
      opensSession (s ++ t) = opensSession s ∧
      (∀ resolve, recordBy resolve (s ++ t) = recordBy resolve s) ∧
      ∀ channel registry, decode channel registry (s ++ t) =
        (decode channel registry s).requoted (s ++ t)) ∧
    ∀ (s : Service) (channel : Channel) (limit : Nat) (chunks terminated : List (List UInt8)),
      terminated.flatten = chunks.flatten ++ [endMark] →
      let short := s.serve channel limit (chunked chunks true)
      let long := s.serve channel limit (chunked terminated true)
      long.1.registry = short.1.registry ∧
      long.2.1 = short.2.1 ∧
      outward long.2.2 = outward short.2.2 ∧
      replies long.2.2 = replies short.2.2 ∧
      messages long.2.2 = messages short.2.2 ∧
      loud long.2.2 = loud short.2.2 := by
  constructor
  · intro s t ht
    refine ⟨ofText?_append s ht, opensSession_append s ht, ?_, ?_⟩
    · intro resolve
      rw [recordBy, recordBy, ofText?_append s ht]
    · exact fun channel registry => decode_append channel registry s ht
  · intro s channel limit chunks terminated h short long
    obtain ⟨registry, connection, effects⟩ := alike_play channel limit s.registry h
    obtain ⟨shortRegistry, shortEnd⟩ := serve_eq_play channel limit s (chunked chunks true)
    obtain ⟨longRegistry, longEnd⟩ := serve_eq_play channel limit s (chunked terminated true)
    have same : outward long.2.2 = outward short.2.2 := by
      rw [shortEnd, longEnd]
      exact effects
    refine ⟨?_, ?_, same, ?_, ?_, ?_⟩
    · rw [shortRegistry, longRegistry, registry]
    · rw [shortEnd, longEnd]
      exact connection
    · rw [← replies_outward, same, replies_outward]
    · rw [← messages_outward, same, messages_outward]
    · rw [← loud_outward, same, loud_outward]

end Telematics.Service
