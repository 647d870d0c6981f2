import Telematics.Proofs.Terminal.Cutoff
import Telematics.Proofs.Terminal.Handover

/-! The release of a connection. -/

namespace Telematics.Terminal

open Sentence Log

variable {c : Channel} {registry : Registry} {s : String} {effects : List Effect}

def Effect.isRelease : Effect → Bool
  | .close | .awaitClose _ => true
  | _ => false

def Effect.on (c : Channel) : Effect → Effect
  | .lookUp _ identifier => .lookUp (some c) identifier
  | e => e

def releases (effects : List Effect) : List Effect :=
  effects.filter Effect.isRelease

def warnings (effects : List Effect) : List Entry :=
  ((events effects).map Event.entry).filter fun e =>
    e.level = Level.warning ∧ e.logger = "server.listener"

def Effect.InExchange : Effect → Prop
  | .close | .awaitClose _ | .log (.frameTooLong _) => False
  | _ => True

lemma releases_append (xs ys : List Effect) : releases (xs ++ ys) = releases xs ++ releases ys :=
  List.filter_append xs ys

lemma close_not_mem (h : releases effects = []) : Effect.close ∉ effects := by
  intro mem
  exact List.filter_eq_nil_iff.1 h .close mem rfl

lemma warnings_append (xs ys : List Effect) : warnings (xs ++ ys) = warnings xs ++ warnings ys := by
  simp only [warnings, events, List.filterMap_append, List.map_append, List.filter_append]

lemma releases_of_exchange (h : ∀ e ∈ effects, e.InExchange) : releases effects = [] := by
  apply List.filter_eq_nil_iff.2
  intro e he release
  have within := h e he
  cases e with
  | close | awaitClose => exact within
  | reply | lookUp | log | publish => cases release

lemma not_warning {event : Event} (h : (Effect.log event).InExchange) :
    ¬ (event.entry.level = Level.warning ∧ event.entry.logger = "server.listener") := by
  rintro ⟨level, logger⟩
  cases event with
  | frameTooLong peer => exact h
  | unknownDevice | invalidPort | stopTimedOut =>
    exact absurd logger (by simp [Event.entry, Event.logger])
  | _ =>
    exact absurd level (by
      simp [Event.entry, Event.level, Level.warning, Level.info, Level.debug, Level.error])

lemma warnings_of_exchange (h : ∀ e ∈ effects, e.InExchange) : warnings effects = [] := by
  apply List.filter_eq_nil_iff.2
  intro entry he
  obtain ⟨event, shown, rfl⟩ := List.mem_map.1 he
  obtain ⟨e, mem, same⟩ := List.mem_filterMap.1 shown
  have within := h e mem
  cases e with
  | log logged =>
    obtain rfl := Option.some.inj same
    rw [decide_eq_true_eq]
    exact not_warning within
  | reply | lookUp | publish | close | awaitClose => cases same

/-! Exchanges. -/

lemma greet_inExchange (c : Channel) (s : String) : ∀ e ∈ greet (some c) s, e.InExchange := by
  intro e he
  simp only [greet, Channel.send] at he
  split_ifs at he
  · cases List.mem_singleton.1 he
    trivial
  · cases List.mem_singleton.1 he
    trivial
  · cases he

lemma inquiry_inExchange (c : Channel) (registry : Registry) (x : String) :
    ∀ e ∈ inquiry c registry x, e.InExchange := by
  intro e he
  rw [inquiry] at he
  rcases List.mem_cons.1 he with rfl | he
  · trivial
  · obtain ⟨event, mem, rfl⟩ := List.mem_map.1 he
    cases answer : (registry.resolve x).2 with
    | known session =>
      rw [answer] at mem
      cases mem
    | registered session =>
      rw [answer] at mem
      cases List.mem_singleton.1 mem
      trivial
    | refused =>
      rw [answer] at mem
      cases List.mem_singleton.1 mem
      trivial

lemma Concludes.inExchange {x : String} {rest : List Effect}
    {result : Except Failure (Option Position)} (h : Concludes c registry s x rest result) :
    ∀ e ∈ rest, e.InExchange := by
  intro e he
  cases h with
  | refused | unconverted | published =>
    cases List.mem_singleton.1 he
    trivial
  | unwritable => cases he

lemma process_inExchange (c : Channel) (registry : Registry) (s : String) :
    ∀ e ∈ (process c registry s).effects, e.InExchange := by
  intro e he
  rcases process_conduct c registry s with ⟨-, same⟩ | ⟨x, rest, result, -, concludes, same⟩
  · rw [same] at he
    rcases List.mem_append.1 he with he | he
    · exact greet_inExchange c s e he
    · cases List.mem_singleton.1 he
      trivial
  · rw [same] at he
    rcases List.mem_append.1 he with he | he
    · exact greet_inExchange c s e he
    · rcases List.mem_append.1 he with he | he
      · exact inquiry_inExchange c registry x e he
      · exact concludes.inExchange e he

namespace Connection

variable {channel : Channel} {limit : Nat} {closed : Bool} {sentences : List String}

lemma effectsOf_inExchange (channel : Channel) (registry : Registry) (sentences : List String) :
    ∀ e ∈ effectsOf channel registry sentences, e.InExchange := by
  induction sentences generalizing registry with
  | nil =>
    intro e he
    cases he
  | cons s r ih =>
    intro e he
    rcases List.mem_append.1 he with he | he
    · exact process_inExchange channel registry s e he
    · exact ih _ e he

/-- How the service of some sentences is left: by all of them, or by the first one that fails. -/
inductive Leaves (channel : Channel) (registry : Registry) (sentences : List String) :
    Option Failure → Prop
  | orderly : Endures channel registry sentences → Leaves channel registry sentences none
  | failed {before after : List String} {s : String} {failure : Failure} :
      sentences = before ++ s :: after → Endures channel registry before →
      (process channel (registryAfter channel registry before) s).result = .error failure →
      Leaves channel registry sentences (some failure)

lemma endures_nil (channel : Channel) (registry : Registry) : Endures channel registry [] := by
  intro before s after h
  simp at h

lemma serve_leaves (channel : Channel) (registry : Registry) (sentences : List String) :
    Leaves channel registry sentences (serve channel registry sentences).2.2 := by
  induction sentences generalizing registry with
  | nil => exact .orderly (endures_nil channel registry)
  | cons s r ih =>
    rw [serve]
    cases result : (process channel registry s).result with
    | error failure =>
      have split : s :: r = [] ++ s :: r := rfl
      exact .failed split (endures_nil channel registry) result
    | ok record =>
      have holds : ¬ Breaks channel registry s := by
        rw [← process_error_iff, result]
        rintro ⟨failure, ⟨⟩⟩
      have rest := ih (process channel registry s).registry
      simp only
      generalize (serve channel (process channel registry s).registry r).2.2 = left at rest
      cases rest with
      | orderly endures => exact .orderly (endures_cons.2 ⟨holds, endures⟩)
      | failed split endures failed =>
        rw [← registryAfter_cons] at failed
        exact .failed (congrArg (s :: ·) split) (endures_cons.2 ⟨holds, endures⟩) failed

lemma serve_exchanges (channel : Channel) (registry : Registry) (sentences : List String) :
    ∃ after effects failure, serve channel registry sentences = (after, effects, failure) ∧
      (∀ e ∈ effects, e.InExchange) ∧ Leaves channel registry sentences failure := by
  have leaves := serve_leaves channel registry sentences
  obtain ⟨failure, served⟩ := serve_attempted channel registry sentences
  rw [served] at leaves
  exact ⟨_, _, failure, served, effectsOf_inExchange channel registry _, leaves⟩

/-! The wait for the end of a connection. -/

lemma greet_on (closeFails : Bool) (s : String) :
    greet (some { channel with closeFails }) s =
      (greet (some channel) s).map (.on { channel with closeFails }) := by
  simp only [greet, Channel.send]
  split_ifs <;> rfl

lemma logs_on (channel : Channel) (events : List Event) :
    (events.map Effect.log).map (.on channel) = events.map Effect.log := by
  rw [List.map_map]
  rfl

lemma locate_on (closeFails : Bool) (registry : Registry) (report : Report) :
    locate (some { channel with closeFails }) registry report =
      { locate (some channel) registry report with
        effects := (locate (some channel) registry report).effects.map
          (.on { channel with closeFails }) } := by
  cases known : (registry.resolve (report.imei.getD "")).2.session? with
  | none =>
    simp only [locate, peerOf, known, List.map_append, List.map_cons, List.map_nil, logs_on,
      Effect.on]
  | some session => simp only [locate, peerOf, known, List.map_cons, logs_on, Effect.on]

lemma decode_on (closeFails : Bool) (registry : Registry) (s : String) :
    decode (some { channel with closeFails }) registry s =
      { decode (some channel) registry s with
        effects := (decode (some channel) registry s).effects.map
          (.on { channel with closeFails }) } := by
  obtain ⟨-, unread⟩ | ⟨d, rest, -, -, read⟩ := ofText?_cases s
  · simp only [decode, unread, greet_on, List.map_append, List.map_cons, List.map_nil, Effect.on]
  · simp only [decode, read, greet_on, locate_on, List.map_append]

lemma process_on (closeFails : Bool) (registry : Registry) (s : String) :
    process { channel with closeFails } registry s =
      { process channel registry s with
        effects := (process channel registry s).effects.map (.on { channel with closeFails }) } := by
  simp only [process, decode_on]
  generalize decode (some channel) registry s = o
  obtain ⟨after, effects, result⟩ := o
  cases result with
  | error failure =>
    cases failure with
    | conversion e => simp only [List.map_append, List.map_cons, List.map_nil, Effect.on]
    | tooLarge | layout | unwritable => rfl
  | ok o =>
    cases o with
    | none => rfl
    | some p =>
      cases written : p.message? with
      | none => simp only [written]
      | some line => simp only [written, List.map_append, List.map_cons, List.map_nil, Effect.on]

lemma serve_on (closeFails : Bool) (registry : Registry) (sentences : List String) :
    serve { channel with closeFails } registry sentences =
      ((serve channel registry sentences).1,
        (serve channel registry sentences).2.1.map (.on { channel with closeFails }),
        (serve channel registry sentences).2.2) := by
  induction sentences generalizing registry with
  | nil => rfl
  | cons s r ih =>
    rw [serve, serve, process_on]
    generalize process channel registry s = o
    obtain ⟨after, effects, result⟩ := o
    cases result with
    | error failure => rfl
    | ok o => simp only [ih, List.map_append]

def Ending.notice (channel : Channel) : Ending → List Effect
  | waiting _ | ended => []
  | overrun => [.log (.frameTooLong channel.peer)]
  | lost => [.log (.lost channel.peer resetCause)]

lemma framing_settled (limit : Nat) (closed : Bool) (bytes : List UInt8) :
    (framing limit closed bytes).2.connection = .finished none ∧
      ∀ channel, (framing limit closed bytes).2.effects channel =
        (framing limit closed bytes).2.notice channel ++ release channel := by
  rw [framing]
  split_ifs
  · exact ⟨rfl, fun _ => rfl⟩
  · exact ⟨rfl, fun _ => rfl⟩
  · exact ⟨rfl, fun _ => rfl⟩

/-- What is done between the last sentence and the release. -/
def parting (channel : Channel) (ending : Ending) : Option Failure → List Effect
  | none => ending.notice channel
  | some _ => []

lemma conclude_parting (channel : Channel) {ending : Ending}
    (settled : ending.connection = .finished none)
    (last : ending.effects channel = ending.notice channel ++ release channel)
    (registry : Registry) (effects : List Effect) (failure : Option Failure) :
    conclude channel ending (registry, effects, failure) =
      ⟨registry, .finished (failure.map .exchange),
        effects ++ (parting channel ending failure ++ release channel)⟩ := by
  cases failure with
  | none => simp only [conclude, settled, last, parting, Option.map_none]
  | some failure => simp only [conclude, parting, Option.map_some, List.nil_append]

lemma play_parting (channel : Channel) (limit : Nat) (registry : Registry) (closed : Bool)
    (chunks : List (List UInt8)) : ∃ served failure after,
      (∀ e ∈ served, e.InExchange) ∧
      Leaves channel registry (framing limit closed chunks.flatten).1 failure ∧
      play channel limit registry (chunked chunks closed) =
        ⟨after, .finished (failure.map .exchange), served ++
          (parting channel (framing limit closed chunks.flatten).2 failure ++ release channel)⟩ ∧
      ∀ closeFails, play { channel with closeFails } limit registry (chunked chunks closed) =
        ⟨after, .finished (failure.map .exchange), served.map (.on { channel with closeFails }) ++
          (parting channel (framing limit closed chunks.flatten).2 failure ++
            release { channel with closeFails })⟩ := by
  obtain ⟨settled, last⟩ := framing_settled limit closed chunks.flatten
  obtain ⟨after, effects, failure, served, within, leaves⟩ :=
    serve_exchanges channel registry (framing limit closed chunks.flatten).1
  refine ⟨opened channel ++ effects, failure, after, ?_, leaves, ?_, ?_⟩
  · intro e he
    rcases List.mem_append.1 he with he | he
    · cases List.mem_singleton.1 he
      trivial
    · exact within e he
  · rw [play_chunked, served, conclude_parting channel settled (last channel), preceded,
      List.append_assoc]
  · intro closeFails
    rw [play_chunked, serve_on, served, conclude_parting _ settled (last _), preceded,
      List.map_append, List.append_assoc]
    rfl

/-! What stands around the release. -/

lemma releases_parting (channel : Channel) (ending : Ending) (failure : Option Failure) :
    releases (parting channel ending failure) = [] := by
  cases failure with
  | some failure => rfl
  | none =>
    cases ending with
    | waiting | ended | overrun | lost => rfl

lemma warnings_notice (channel : Channel) (ending : Ending) : warnings (ending.notice channel) =
    if ending = .overrun then [(Event.frameTooLong channel.peer).entry] else [] := by
  cases ending with
  | overrun =>
    simp [warnings, Ending.notice, events, Effect.event?, Event.entry, Event.level, Event.logger]
  | waiting | ended | lost => rfl

lemma leaves_none_iff {failure : Option Failure} (h : Leaves channel registry sentences failure) :
    failure = none ↔ Endures channel registry sentences := by
  cases h with
  | orderly endures => exact ⟨fun _ => endures, fun _ => rfl⟩
  | @failed before after s failure split endures failed =>
    refine ⟨fun same => (by cases same), ?_⟩
    intro all
    exact absurd (process_error_iff.1 ⟨failure, failed⟩) (all before s after split)

lemma parting_on (channel : Channel) (closeFails : Bool) (ending : Ending)
    (failure : Option Failure) :
    (parting channel ending failure).map (.on { channel with closeFails }) =
      parting channel ending failure := by
  cases failure with
  | some failure => rfl
  | none => cases ending <;> rfl

/-- However a stream ends and whatever its sentences do, the connection is closed once and then
awaited once, and nothing is sent after that. What comes of it is settled by its sentences, also if
the wait raises. It is warned of an overrun that is met, and of nothing else. -/
theorem play_releases (channel : Channel) (limit : Nat) (registry : Registry) (closed : Bool)
    (chunks : List (List UInt8)) :
    let framed := framing limit closed chunks.flatten
    let played := play channel limit registry (chunked chunks closed)
    (∃ failure, Leaves channel registry framed.1 failure ∧ ∀ closeFails,
      (play { channel with closeFails } limit registry (chunked chunks closed)).connection =
        .finished (failure.map .exchange)) ∧
    (∀ closeFails, (awaitClosed { channel with closeFails }).raised =
      if closeFails then some (.lost resetCause) else none) ∧
    releases played.effects = [.close, .awaitClose channel.closeFails] ∧
    (∀ before after, played.effects = before ++ .close :: after → replies after = []) ∧
    (∃ before : List Effect, ∀ closeFails,
      (play { channel with closeFails } limit registry (chunked chunks closed)).effects =
        before.map (.on { channel with closeFails }) ++ release { channel with closeFails }) ∧
    (framed.2 = .overrun ∧ Endures channel registry framed.1 →
      warnings played.effects = [(Event.frameTooLong channel.peer).entry]) ∧
    (¬ (framed.2 = .overrun ∧ Endures channel registry framed.1) →
      warnings played.effects = []) := by
  intro framed played
  obtain ⟨served, failure, after, within, leaves, run, runs⟩ :=
    play_parting channel limit registry closed chunks
  have here : played.effects = served ++ (parting channel framed.2 failure ++ release channel) :=
    congrArg Progress.effects run
  have none_iff := leaves_none_iff leaves
  have unreleased : releases (served ++ parting channel framed.2 failure) = [] := by
    rw [releases_append, releases_of_exchange within, releases_parting, List.append_nil]
  have released : release channel =
      [.close, .awaitClose channel.closeFails, .log (.disconnected channel.peer)] := by
    rw [release, finish_eq]
  have warned : warnings played.effects = warnings (parting channel framed.2 failure) := by
    rw [here, released, warnings_append, warnings_append, warnings_of_exchange within]
    exact List.append_nil _
  refine ⟨⟨failure, leaves, ?_⟩, fun _ => rfl, ?_, ?_,
    ⟨served ++ parting channel framed.2 failure, ?_⟩, ?_, ?_⟩
  · intro closeFails
    rw [runs]
  · rw [here, ← List.append_assoc, releases_append, unreleased, released]
    rfl
  · intro before after' split
    rw [here, released, ← List.append_assoc] at split
    have none_behind : Effect.close ∉
        [Effect.awaitClose channel.closeFails, .log (.disconnected channel.peer)] := by simp
    obtain ⟨-, -, rfl⟩ :=
      (List.append_cons_inj_of_notMem (close_not_mem unreleased) none_behind).1 split
    rfl
  · intro closeFails
    rw [runs, List.map_append, parting_on, List.append_assoc]
  · rintro ⟨overrun, endures⟩
    rw [warned, none_iff.2 endures, parting, warnings_notice, if_pos overrun]
  · intro other
    rw [warned]
    cases failure with
    | some failure => rfl
    | none =>
      have orderly : framed.2 ≠ .overrun := fun overrun => other ⟨overrun, none_iff.1 rfl⟩
      rw [parting, warnings_notice, if_neg orderly]

-- without the suppression, a wait that fails hides why the connection came to its end
example (failure : Failure) (peer : Peer) :
    ((⟨[], some (.exchange failure)⟩ : Attempt).ensure
      (awaitClosed { peer, closeFails := true })).raised = some (.lost resetCause) :=
  rfl

end Connection

end Telematics.Terminal
