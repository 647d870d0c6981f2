import Telematics.Proofs.Terminal.Handshake
import Telematics.Proofs.Terminal.Message

namespace Telematics.Terminal

open Sentence Log

variable {c : Channel} {registry : Registry} {s x line : String} {p : Position}

inductive Fate where
  | unread
  | unknown (identifier : String)
  | unconverted (error : ConversionError)
  | broadcast (record : Position) (line : String)

def loud (effects : List Effect) : List Entry :=
  ((events effects).map Event.entry).filter (Level.warning ≤ ·.level)

namespace Fate

def messages : Fate → List String
  | broadcast _ line => [line]
  | _ => []

def entries (peer : Peer) : Fate → List Entry
  | unknown identifier => [⟨Level.warning, "tracking.devices",
      .ofString ("Unknown device " ++ identifier ++ " from " ++ peer.shown)⟩]
  | unconverted _ => [⟨Level.error, "server.listener",
      .ofString ("Failed to decode sentence from " ++ peer.shown)⟩]
  | _ => []

def result : Fate → Except Failure (Option Position)
  | unread | unknown _ => .ok none
  | unconverted e => .error (.conversion e)
  | broadcast p _ => .ok (some p)

def Cause (c : Channel) (registry : Registry) (s : String) : Fate → Prop
  | unread => Report.ofText? s = .ok none
  | unknown x => identifier? s = some x ∧ registry.number? x = none
  | unconverted e => (decode (some c) registry s).result = .error (.conversion e)
  | broadcast p line =>
    (decode (some c) registry s).result = .ok (some p) ∧ p.message? = some line

end Fate

structure Ends (c : Channel) (registry : Registry) (s : String) (fate : Fate) : Prop where
  cause : fate.Cause c registry s
  messages : messages (process c registry s).effects = fate.messages
  entries : loud (process c registry s).effects = fate.entries c.peer

lemma recordBy_of_unread {resolve : String → Option Int} (h : Report.ofText? s = .ok none) :
    recordBy resolve s = .ok none := by
  simp only [recordBy, h]

lemma recordBy_of_identifier {resolve : String → Option Int} (h : identifier? s = some x)
    (unknown : resolve x = none) : recordBy resolve s = .ok none := by
  obtain ⟨r, hr, rfl⟩ := Option.map_eq_some_iff.1 h
  have read : Report.ofText? s = .ok (some r) := by
    cases ho : Report.ofText? s with
    | error e =>
      rw [ho] at hr
      cases hr
    | ok o =>
      rw [ho] at hr
      exact congrArg Except.ok hr
  exact recordBy_of_unknown read unknown

lemma Fate.Cause.result {fate : Fate} (h : fate.Cause c registry s) :
    (decode (some c) registry s).result = fate.result := by
  cases fate with
  | unread => exact (decode_eq_recordBy _ _ _).trans (recordBy_of_unread h)
  | unknown x => exact (decode_eq_recordBy _ _ _).trans (recordBy_of_identifier h.1 h.2)
  | unconverted e => exact h
  | broadcast p line => exact h.1

lemma Fate.Cause.unique {f g : Fate} (hf : f.Cause c registry s) (hg : g.Cause c registry s) :
    f = g := by
  have same : f.result = g.result := hf.result.symm.trans hg.result
  -- only the first two fates share their result
  cases f with
  | unread =>
    cases g with
    | unread => rfl
    | unknown y =>
      have nameless := identifier?_of_none hf
      rw [hg.1] at nameless
      cases nameless
    | unconverted e => cases same
    | broadcast p line => cases same
  | unknown x =>
    cases g with
    | unread =>
      have nameless := identifier?_of_none hg
      rw [hf.1] at nameless
      cases nameless
    | unknown y => exact congrArg Fate.unknown (Option.some.inj (hf.1.symm.trans hg.1))
    | unconverted e => cases same
    | broadcast p line => cases same
  | unconverted e =>
    cases g with
    | unread => cases same
    | unknown y => cases same
    | unconverted e' =>
      cases same
      rfl
    | broadcast p line => cases same
  | broadcast p line =>
    cases g with
    | unread => cases same
    | unknown y => cases same
    | unconverted e => cases same
    | broadcast q text =>
      cases same
      exact congrArg (Fate.broadcast p) (Option.some.inj (hf.2.symm.trans hg.2))

lemma loud_append (xs ys : List Effect) : loud (xs ++ ys) = loud xs ++ loud ys := by
  rw [loud, events, List.filterMap_append, List.map_append, List.filter_append]
  rfl

lemma loud_greet (c : Channel) (s : String) : loud (greet (some c) s) = [] := by
  simp only [greet, Channel.send]
  split_ifs <;> rfl

lemma loud_inquiry_unknown (h : registry.number? x = none) :
    loud (inquiry c registry x) = (Fate.unknown x).entries c.peer := by
  rw [Registry.number?] at h
  rw [inquiry]
  cases answer : (registry.resolve x).2 with
  | refused => rfl
  | known session =>
    rw [answer] at h
    cases h
  | registered session =>
    rw [answer] at h
    cases h

lemma loud_inquiry_known {n : Int} (h : registry.number? x = some n) :
    loud (inquiry c registry x) = [] := by
  rw [Registry.number?] at h
  rw [inquiry]
  cases answer : (registry.resolve x).2 with
  | refused =>
    rw [answer] at h
    cases h
  | known session => rfl
  | registered session => rfl

lemma exists_number (named : identifier? s = some x)
    (h : (decode (some c) registry s).result ≠ .ok none) : ∃ n, registry.number? x = some n := by
  rw [← Option.ne_none_iff_exists']
  rw [decode_eq_recordBy] at h
  exact fun unknown => h (recordBy_of_identifier named unknown)

lemma Fate.Cause.messages {fate : Fate} (h : fate.Cause c registry s) :
    Terminal.messages (process c registry s).effects = fate.messages := by
  rw [messages_process, line?, h.result]
  cases fate with
  | unread => rfl
  | unknown x => rfl
  | unconverted e => rfl
  | broadcast p line => exact congrArg Option.toList h.2

lemma exists_ends (h : ¬ Breaks c registry s) : ∃ fate, Ends c registry s fate := by
  obtain ⟨unread, same⟩ | ⟨x, rest, result, named, concludes, same⟩ := process_conduct c registry s
  · have cause : Fate.unread.Cause c registry s := unread
    refine ⟨.unread, cause, cause.messages, ?_⟩
    rw [same, loud_append, loud_greet]
    rfl
  · have logged : loud (process c registry s).effects =
        loud (inquiry c registry x) ++ loud rest := by
      rw [same, loud_append, loud_append, loud_greet, List.nil_append]
    cases concludes with
    | refused unknown =>
      have cause : (Fate.unknown x).Cause c registry s := ⟨named, unknown⟩
      refine ⟨.unknown x, cause, cause.messages, ?_⟩
      rw [logged, loud_inquiry_unknown unknown]
      rfl
    | unconverted e failed =>
      have cause : (Fate.unconverted e).Cause c registry s := failed
      obtain ⟨n, known⟩ := exists_number named (by rw [failed]; rintro ⟨⟩)
      refine ⟨.unconverted e, cause, cause.messages, ?_⟩
      rw [logged, loud_inquiry_known known]
      rfl
    | published p line record text =>
      have cause : (Fate.broadcast p line).Cause c registry s := ⟨record, text⟩
      obtain ⟨n, known⟩ := exists_number named (by rw [record]; rintro ⟨⟩)
      refine ⟨.broadcast p line, cause, cause.messages, ?_⟩
      rw [logged, loud_inquiry_known known]
      rfl
    | unwritable p record silent =>
      exact absurd ⟨p, record, (Position.message?_eq_none (decode_bounded record)).1 silent⟩ h

theorem existsUnique_ends (h : ¬ Breaks c registry s) : ∃! fate, Ends c registry s fate := by
  obtain ⟨fate, ends⟩ := exists_ends h
  exact ⟨fate, ends, fun _ other => other.cause.unique ends.cause⟩

end Telematics.Terminal
