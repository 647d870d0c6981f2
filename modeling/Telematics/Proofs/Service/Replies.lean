import Telematics.Proofs.Service.Burst
import Telematics.Proofs.Terminal.Handshake

namespace Telematics

open Terminal Terminal.Connection

namespace Terminal.Connection

variable {channel : Channel} {registry : Registry} {sentences : List String}

lemma linesOf_channel (channel other : Channel) (registry : Registry) (sentences : List String) :
    linesOf channel registry sentences = linesOf other registry sentences := by
  induction sentences generalizing registry with
  | nil => simp only [linesOf]
  | cons s r ih =>
    have same : line? (some channel) registry s = line? (some other) registry s := by
      rw [line?, line?, decode_result_channel (some channel) (some other)]
    rw [linesOf, linesOf, same, process_registry_channel channel other, ih]

lemma replies_effectsOf (channel : Channel) (registry : Registry) (sentences : List String) :
    replies (effectsOf channel registry sentences) = sentences.flatMap (answer channel) := by
  induction sentences generalizing registry with
  | nil => rfl
  | cons s r ih =>
    rw [effectsOf, replies_append, (attended channel registry s).replies, ih, List.flatMap_cons]

lemma flatMap_answer (channel : Channel) (sentences : List String) :
    sentences.flatMap (answer channel) = if channel.closing then []
      else List.replicate (sentences.countP opensSession) handshakeReply := by
  cases closing : channel.closing with
  | true => simp [answer, closing]
  | false =>
    induction sentences with
    | nil => rfl
    | cons s r ih =>
      rw [if_neg Bool.false_ne_true] at ih ⊢
      rw [List.flatMap_cons, ih, answer, closing, if_neg Bool.false_ne_true]
      by_cases opens : opensSession s
      · rw [if_pos opens, List.countP_cons_of_pos opens, List.replicate_succ]
        rfl
      · rw [if_neg opens, List.countP_cons_of_neg opens]
        rfl

lemma unspoken_ending (channel : Channel) (ending : Ending) :
    replies (ending.effects channel) = [] ∧ messages (ending.effects channel) = [] := by
  have released : replies (release channel) = [] ∧ messages (release channel) = [] := by
    rw [release, finish_eq]
    exact ⟨rfl, rfl⟩
  cases ending with
  | waiting => exact ⟨rfl, rfl⟩
  | ended | overrun | lost => exact released

lemma endures_of_served (h : (Connection.serve channel registry sentences).2.2.isNone) :
    Endures channel registry sentences := by
  by_contra breaks
  obtain ⟨after, effects, failure, served⟩ := serve_of_not_endures breaks
  rw [served] at h
  cases h

end Terminal.Connection

namespace Service

variable {s : Service} {channel : Channel} {limit : Nat} {inputs : List Input}

lemma serve_of_endures (h : Endures channel s.registry (handed limit [] inputs).1) :
    (s.serve channel limit inputs).1.registry =
      registryAfter channel s.registry (handed limit [] inputs).1 ∧
    (s.serve channel limit inputs).2.2 = opened channel ++
      (effectsOf channel s.registry (handed limit [] inputs).1 ++
        (handed limit [] inputs).2.effects channel) := by
  obtain ⟨registry, rest⟩ := serve_eq_play channel limit s inputs
  rw [registry, rest, play_of_endures h]
  exact ⟨rfl, rfl⟩

lemma messages_served (h : Endures channel s.registry (handed limit [] inputs).1) :
    messages (s.serve channel limit inputs).2.2 =
      linesOf channel s.registry (handed limit [] inputs).1 := by
  rw [(serve_of_endures h).2, messages_append, messages_append, messages_effectsOf,
    (unspoken_ending channel _).2, List.append_nil]
  rfl

lemma replies_served (h : Endures channel s.registry (handed limit [] inputs).1) :
    replies (s.serve channel limit inputs).2.2 =
      (handed limit [] inputs).1.flatMap (answer channel) := by
  rw [(serve_of_endures h).2, replies_append, replies_append, replies_effectsOf,
    (unspoken_ending channel _).1, List.append_nil]
  rfl

/-- Every sentence of a stream that opens a session is answered once, before its device is looked
up, and nothing else is sent; a connection that takes no more replies is served alike otherwise. -/
theorem serve_replies (h : Endures channel s.registry (handed limit [] inputs).1) :
    let sentences := (handed limit [] inputs).1
    let served := s.serve channel limit inputs
    (∀ chunks closed, inputs = chunked chunks closed →
      sentences = (framing limit closed chunks.flatten).1) ∧
    replies served.2.2 = (if channel.closing then []
      else List.replicate (sentences.countP opensSession) handshakeReply) ∧
    (∀ closing, let other := s.serve { channel with closing } limit inputs
      other.1.registry = served.1.registry ∧ messages other.2.2 = messages served.2.2 ∧
      ∀ before sentence after, sentences = before ++ sentence :: after →
        (decode (some { channel with closing })
          (registryAfter { channel with closing } s.registry before) sentence).result =
        (decode (some channel) (registryAfter channel s.registry before) sentence).result) ∧
    ∀ before sentence after, sentences = before ++ sentence :: after →
      Attended channel (registryAfter channel s.registry before) sentence := by
  intro sentences served
  refine ⟨?_, ?_, ?_, fun before sentence after _ => attended channel _ sentence⟩
  · rintro chunks closed rfl
    exact congrArg Prod.fst (handed_chunked (by simp) (Nat.zero_le _) chunks)
  · exact (replies_served h).trans (flatMap_answer channel sentences)
  · intro closing other
    have endures := h.of_channel { channel with closing }
    refine ⟨?_, ?_, ?_⟩
    · rw [(serve_of_endures endures).1, (serve_of_endures h).1]
      exact registryAfter_channel _ _ _ _
    · rw [messages_served endures, messages_served h]
      exact linesOf_channel _ _ _ _
    · intro before sentence after _
      rw [registryAfter_channel _ channel]
      exact decode_result_channel _ _ _ _

def idle (registry : Registry) : Service where
  settings := .ofEnvironment []
  registry
  hub := .empty
  watchers := []
  output := .initial
  clock := 0

def greetings : List (List UInt8) :=
  ["$,01,hel", "lo* $,02,hello* $,01,EMR,861693034634154,NR,09112018,083542,A," ++
    "12.975095,N,077.668045,E,36.0,271.5,12,*"].map fun text => bytesOf text.toList

theorem greetings_replied :
    replies ((idle ⟨false, []⟩).serve { peer := .unknown } frameLimit
      (chunked greetings true)).2.2 = ["$,1,*", "$,1,*"] := by
  have served : (Connection.serve { peer := .unknown } ⟨false, []⟩
      (handed frameLimit [] (chunked greetings true)).1).2.2.isNone := by
    decide +kernel
  have two : ((handed frameLimit [] (chunked greetings true)).1).countP opensSession = 2 := by
    decide +kernel
  obtain ⟨-, replied, -⟩ := serve_replies (s := idle ⟨false, []⟩) (endures_of_served served)
  rw [replied, two]
  rfl

end Service

end Telematics
