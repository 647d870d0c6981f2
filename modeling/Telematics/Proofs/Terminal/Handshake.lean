import Telematics.Proofs.Terminal.Conduct
import Telematics.Proofs.Terminal.Endurance

namespace Telematics.Terminal

open Sentence

variable {c : Channel} {registry : Registry} {s : String} {closing : Bool}

def answer (c : Channel) (s : String) : List String :=
  if c.closing then [] else if opensSession s then [handshakeReply] else []

lemma replies_append (xs ys : List Effect) : replies (xs ++ ys) = replies xs ++ replies ys :=
  List.filterMap_append

lemma lookUps_append (xs ys : List Effect) : lookUps (xs ++ ys) = lookUps xs ++ lookUps ys :=
  List.filterMap_append

lemma replies_greet (c : Channel) (s : String) : replies (greet (some c) s) = answer c s := by
  simp only [greet, Channel.send, answer]
  split_ifs <;> rfl

lemma lookUps_greet (c : Channel) (s : String) : lookUps (greet (some c) s) = [] := by
  simp only [greet, Channel.send]
  split_ifs <;> rfl

lemma replies_logs (events : List Log.Event) : replies (events.map .log) = [] := by
  rw [replies, List.filterMap_map, List.filterMap_eq_nil_iff]
  exact fun _ _ => rfl

lemma lookUps_logs (events : List Log.Event) : lookUps (events.map .log) = [] := by
  rw [lookUps, List.filterMap_map, List.filterMap_eq_nil_iff]
  exact fun _ _ => rfl

lemma replies_inquiry (c : Channel) (registry : Registry) (x : String) :
    replies (inquiry c registry x) = [] :=
  replies_logs _

lemma lookUps_inquiry (c : Channel) (registry : Registry) (x : String) :
    lookUps (inquiry c registry x) = [(some c, x)] :=
  congrArg ((some c, x) :: ·) (lookUps_logs _)

lemma Concludes.unspoken {x : String} {rest : List Effect}
    {result : Except Failure (Option Position)} (h : Concludes c registry s x rest result) :
    replies rest = [] ∧ lookUps rest = [] := by
  cases h <;> exact ⟨rfl, rfl⟩

structure Attended (c : Channel) (registry : Registry) (s : String) : Prop where
  order : ∃ asked, (process c registry s).effects = greet (some c) s ++ asked ∧
    lookUps (greet (some c) s) = [] ∧ replies asked = []
  replies : replies (process c registry s).effects = answer c s
  lookUps : lookUps (process c registry s).effects = (identifier? s).toList.map (some c, ·)
  inquiry : ∀ x ∈ identifier? s, inquiry c registry x <:+: (process c registry s).effects
  registry : (process c registry s).registry = (identifier? s).elim registry fun x =>
    if registry.admitsUnknown ∧ x ∉ registry.identifiers then registry.add x else registry

theorem attended (c : Channel) (registry : Registry) (s : String) : Attended c registry s := by
  obtain ⟨unread, same⟩ | ⟨x, rest, result, named, concludes, same⟩ := process_conduct c registry s
  · have nameless := identifier?_of_none unread
    constructor
    · rw [same]
      exact ⟨_, rfl, lookUps_greet c s, rfl⟩
    · rw [same, replies_append, replies_greet]
      exact List.append_nil _
    · rw [same, lookUps_append, lookUps_greet, nameless]
      rfl
    · rw [nameless]
      rintro x ⟨⟩
    · rw [same, nameless]
      rfl
  · obtain ⟨unreplied, unasked⟩ := concludes.unspoken
    have silent : replies (inquiry c registry x ++ rest) = [] := by
      rw [replies_append, replies_inquiry, unreplied, List.append_nil]
    constructor
    · rw [same]
      exact ⟨_, rfl, lookUps_greet c s, silent⟩
    · rw [same, replies_append, replies_greet, silent, List.append_nil]
    · rw [same, lookUps_append, lookUps_append, lookUps_greet, lookUps_inquiry, unasked, named]
      rfl
    · rw [named]
      rintro _ ⟨⟩
      rw [same]
      exact ⟨_, rest, List.append_assoc _ _ _⟩
    · rw [same, named]
      exact Registry.resolve_registry_eq registry x

lemma decode_result_channel (c d : Option Channel) (registry : Registry) (s : String) :
    (decode c registry s).result = (decode d registry s).result := by
  rw [decode_eq_recordBy, decode_eq_recordBy]

lemma process_registry_channel (c d : Channel) (registry : Registry) (s : String) :
    (process c registry s).registry = (process d registry s).registry := by
  rw [(attended c registry s).registry, (attended d registry s).registry]

namespace Connection

variable {channel other : Channel} {limit : Nat} {sentences : List String}

lemma registryAfter_channel (channel other : Channel) (registry : Registry)
    (sentences : List String) :
    registryAfter channel registry sentences = registryAfter other registry sentences := by
  induction sentences generalizing registry with
  | nil => simp only [registryAfter, List.foldl_nil]
  | cons s r ih =>
    rw [registryAfter_cons, registryAfter_cons, process_registry_channel channel other, ih]

lemma Endures.of_channel (h : Endures channel registry sentences) (other : Channel) :
    Endures other registry sentences := by
  rintro before s after split ⟨p, decoded, unwritable⟩
  rw [decode_result_channel _ (some channel), registryAfter_channel other channel] at decoded
  exact h before s after split ⟨p, decoded, unwritable⟩

end Connection

end Telematics.Terminal
