import Telematics.Proofs.Service.Schedule
import Telematics.Proofs.Terminal.Handover

namespace Telematics

open Feed Terminal

namespace Terminal.Connection

variable {channel : Channel} {limit : Nat} {registry : Registry} {sentences : List String}
  {pending bytes : List UInt8}

def linesOf (channel : Channel) : Registry → List String → List String
  | _, [] => []
  | registry, s :: r => (line? (some channel) registry s).toList ++
      linesOf channel (process channel registry s).registry r

def sentencesIn (limit : Nat) (pending bytes : List UInt8) : List String :=
  (cutChunk limit pending bytes).1.filterMap sentence?

lemma messages_effectsOf (registry : Registry) (sentences : List String) :
    messages (effectsOf channel registry sentences) = linesOf channel registry sentences := by
  induction sentences generalizing registry with
  | nil => rfl
  | cons s r ih => rw [effectsOf, messages_append, messages_process, ih, linesOf]

lemma messages_notice {raised : Raised} {noticed : Attempt}
    (h : notice channel raised = some noticed) : messages noticed.effects = [] := by
  cases raised with
  | tooLong | lost =>
    obtain rfl := Option.some.inj h
    rfl
  | exchange failure => cases h

lemma messages_leave (registry : Registry) (served : Attempt) :
    messages (leave channel registry served).effects = messages served.effects := by
  have silent : messages (finish channel).effects = [] := by
    rw [finish_eq]
    rfl
  have noticed : messages (served.rescue (notice channel)).effects = messages served.effects := by
    rw [Attempt.rescue]
    cases handled : served.raised.bind (notice channel) with
    | none => rfl
    | some a =>
      obtain ⟨raised, -, known⟩ := Option.bind_eq_some_iff.1 handled
      simp only [messages_append, messages_notice known, List.append_nil]
  simp only [leave, Attempt.ensure, messages_append, silent, noticed, List.append_nil]

lemma messages_serveFrames (frames : List (List UInt8)) (outlook : Outlook)
    (h : Endures channel registry (frames.filterMap sentence?).dropLast) :
    messages (serveFrames channel registry frames outlook).effects =
      linesOf channel registry (frames.filterMap sentence?) := by
  obtain ⟨failure, served⟩ := serve_attempted channel registry (frames.filterMap sentence?)
  rw [attempted_eq_iff.2 h] at served
  rw [serveFrames, served]
  cases failure with
  | some failure => exact (messages_leave _ _).trans (messages_effectsOf _ _)
  | none =>
    cases outlook with
    | more rest => exact messages_effectsOf _ _
    | leaving raised => exact (messages_leave _ _).trans (messages_effectsOf _ _)

lemma messages_chunk (h : Endures channel registry (sentencesIn limit pending bytes).dropLast) :
    messages (step channel limit registry (.reading pending) (.chunk bytes)).effects =
      linesOf channel registry (sentencesIn limit pending bytes) := by
  unfold sentencesIn at h ⊢
  simp only [step]
  cases hc : cutChunk limit pending bytes with
  | mk frames tail =>
    rw [hc] at h
    cases tail with
    | pending rest => exact messages_serveFrames frames _ h
    | overrun => exact messages_serveFrames frames _ h

end Terminal.Connection

open Terminal.Connection

namespace Loop

variable {l : Loop} {key index : Nat} {w : Watcher} {m : Mailbox} {k : Link}
  {pending bytes : List UInt8} {t : Turn} {later : List Turn}

lemma heard_chunk (hk : l.links[index]? = some k) (reading : k.connection = .reading pending)
    (h : Endures k.channel l.service.registry (sentencesIn k.limit pending bytes).dropLast) :
    l.heard (.receive index (.chunk bytes)) =
      linesOf k.channel l.service.registry (sentencesIn k.limit pending bytes) := by
  simp only [heard, hk, progress, reading]
  exact messages_chunk h

lemma sent_of_play (sound : l.service.Sound) (holds : l.service.Holds key w m)
    (prompt : w.Prompt) (empty : m.messages = []) {turns : List Turn}
    (undisturbed : ∀ t ∈ turns, ¬ t.Runs key ∧ ¬ t.Changes key) (runs : t.Runs key) :
    ∃ x, ((l.play turns).take t).service.watchers[key]? = some x ∧
      x.sent = w.sent ++ (l.heardIn turns).rtake 10 := by
  have capacity : m.capacity = (10 : Nat) := by
    obtain ⟨n, hn, hc⟩ := sound.provided key w holds.watcher
    obtain rfl := Option.some.inj (holds.mailbox.symm.trans hn)
    exact hc
  have kept : (m.putAll (l.heardIn turns)).messages = (l.heardIn turns).rtake 10 := by
    rw [Mailbox.putAll_messages capacity (by decide) (by simp [empty]), empty, List.nil_append]
  have waiting := play_holds sound holds prompt.not_hasEnded turns undisturbed
  obtain ⟨x, sent, ran⟩ := take_runs waiting prompt runs
  exact ⟨x, ran.watcher, by rw [sent, kept]⟩

/-- A watcher that is prompt and has no message waiting when a chunk arrives sends the last ten of
the messages that are broadcast until it runs: first one for each sentence of the chunk whose record
has a line, in the order of the frames. It sends all of them if there are no more than ten. -/
theorem prompt_watcher_sends {env : Settings.Environment} {started : Service}
    (hs : Service.start env = .ok started) {turns : List Turn}
    (hl : l = ({ service := started, links := [] } : Loop).play turns)
    (holds : l.service.Holds key w m) (prompt : w.Prompt) (empty : m.messages = [])
    (hk : l.links[index]? = some k) (reading : k.connection = .reading pending)
    (endures : Endures k.channel l.service.registry (sentencesIn k.limit pending bytes).dropLast)
    (undisturbed : ∀ t ∈ later, ¬ t.Runs key ∧ ¬ t.Changes key) (runs : t.Runs key) :
    let lines := linesOf k.channel l.service.registry (sentencesIn k.limit pending bytes)
    let arrival := Turn.receive index (.chunk bytes)
    let broadcast := lines ++ (l.take arrival).heardIn later
    ∃ x, ((l.play (arrival :: later)).take t).service.watchers[key]? = some x ∧
      x.sent = w.sent ++ broadcast.rtake 10 ∧
      (broadcast.length ≤ 10 → x.sent = w.sent ++ broadcast) := by
  intro lines arrival broadcast
  have sound : l.service.Sound := hl ▸ play_sound (Service.sound_of_start hs) turns
  have quiet : ∀ t ∈ arrival :: later, ¬ t.Runs key ∧ ¬ t.Changes key :=
    List.forall_mem_cons.2 ⟨⟨id, id⟩, undisturbed⟩
  obtain ⟨x, hx, sent⟩ := sent_of_play sound holds prompt empty quiet runs
  rw [heardIn, heard_chunk hk reading endures] at sent
  refine ⟨x, hx, sent, fun few => ?_⟩
  rw [sent, Mailbox.rtake_of_length_le few]

end Loop

/-! A burst of frames. -/

namespace Terminal.Connection

variable {registry : Registry} {limit n : Nat} {seen body : List UInt8} {text : List Char}
  {s line : String} {c : Channel}

lemma cut_body (hb : endMark ∉ body) (hl : seen.length + body.length ≤ limit)
    (more : List UInt8) : cut limit seen seen.length (body ++ endMark :: more) =
      ((seen.reverse ++ (body ++ [endMark])) :: (cut limit [] 0 more).1,
        (cut limit [] 0 more).2) := by
  induction body generalizing seen with
  | nil =>
    have fits : ¬ limit < seen.length := by
      rw [List.length_nil] at hl
      omega
    rw [List.nil_append, cut, if_pos rfl, if_neg fits, List.reverse_cons, List.nil_append]
  | cons b r ih =>
    rw [List.mem_cons, not_or] at hb
    have longer : (b :: seen).length + r.length ≤ limit := by
      rw [List.length_cons] at hl ⊢
      omega
    have next := ih hb.2 longer
    rw [List.cons_append, cut, if_neg (Ne.symm hb.1)]
    rw [List.length_cons] at next
    rw [next, List.reverse_cons, List.append_assoc, List.singleton_append, List.cons_append]

lemma sentencesIn_text (h : IsFrameText text) (hl : text.length ≤ limit) (more : List UInt8) :
    sentencesIn limit [] (bytesOf text ++ endMark :: more) =
      String.ofList (text ++ ['*']) :: sentencesIn limit [] more := by
  have fits : ([] : List UInt8).length + (bytesOf text).length ≤ limit := by
    rw [List.length_nil, Nat.zero_add, bytesOf, List.length_map]
    exact hl
  have cut := cut_body h.free fits more
  simp only [sentencesIn, cutChunk, List.reverse_nil]
  rw [cut, List.reverse_nil, List.nil_append, List.filterMap_cons, h.sentence]
  rfl

def repeated (text : List Char) (n : Nat) : List UInt8 :=
  (List.replicate n (bytesOf text ++ [endMark])).flatten

lemma sentencesIn_repeated (h : IsFrameText text) (hl : text.length ≤ limit) (n : Nat) :
    sentencesIn limit [] (repeated text n) = List.replicate n (String.ofList (text ++ ['*'])) := by
  induction n with
  | zero =>
    simp [sentencesIn, repeated, cutChunk, cut]
  | succ n ih =>
    have next : repeated text (n + 1) = bytesOf text ++ endMark :: repeated text n := by
      simp [repeated, List.replicate_succ]
    rw [next, sentencesIn_text h hl, ih, List.replicate_succ]

lemma linesOf_replicate (hr : (process c registry s).registry = registry)
    (hl : line? (some c) registry s = some line) (n : Nat) :
    linesOf c registry (List.replicate n s) = List.replicate n line := by
  induction n with
  | zero => rfl
  | succ n ih => rw [List.replicate_succ, linesOf, hl, hr, ih, List.replicate_succ]; rfl

lemma not_breaks_of_line (hl : line? (some c) registry s = some line) :
    ¬ Breaks c registry s := by
  obtain ⟨p, hd, hm⟩ := line?_eq_some.1 hl
  rintro ⟨q, hq, hu⟩
  rw [hd] at hq
  cases hq
  rw [(Position.message?_eq_none (decode_bounded hd)).2 hu] at hm
  cases hm

lemma endures_replicate (hr : (process c registry s).registry = registry)
    (hl : line? (some c) registry s = some line) (n : Nat) :
    Endures c registry (List.replicate n s) := by
  induction n with
  | zero =>
    intro before x after h
    simp at h
  | succ n ih =>
    rw [List.replicate_succ, endures_cons, hr]
    exact ⟨not_breaks_of_line hl, ih⟩

end Terminal.Connection

namespace Loop

open Sentence Sentence.Draft Grammar Pattern

def oneDevice : Settings.Environment :=
  [("ITS_DEVICES", "861693034634154")]

def opening : List Turn :=
  [.connect { peer := .unknown } frameLimit, .join false]

lemma open_loop : ∃ started, Service.start oneDevice = .ok started ∧
    let l := ({ service := started, links := [] } : Loop).play opening
    (∃ now m, l.service.Holds 0 (.start now false) m ∧ m.messages = []) ∧
    l.links[0]? = some ⟨{ peer := .unknown }, frameLimit, .reading []⟩ ∧
    l.service.registry = ⟨false, ["861693034634154"]⟩ := by
  have starts : (Service.start oneDevice).toOption.isSome := by decide +kernel
  obtain ⟨started, hs⟩ := exists_ok starts
  obtain ⟨watchers, hub, registry⟩ := Service.start_eq hs
  let connected := (Connection.opened { peer := .unknown }).foldl Service.apply started
  have nobody : connected.watchers = [] := (Service.foldl_apply_watchers _ _).trans watchers
  have idle : connected.hub = .empty := by
    rw [Service.foldl_apply_hub, hub]
    rfl
  have known : connected.registry = ⟨false, ["861693034634154"]⟩ := by
    have closed : (Settings.ofEnvironment oneDevice).registerUnknown = false := by decide +kernel
    have devices : (Settings.ofEnvironment oneDevice).devices = ["861693034634154"] := by
      decide +kernel
    rw [Service.foldl_apply_registry, registry, closed, devices]
    rfl
  refine ⟨started, hs, ⟨connected.clock, .empty Watcher.capacity, ⟨?_, ?_⟩, rfl⟩, rfl, known⟩
  · change (connected.join false).watchers[0]? = _
    rw [Service.join_watcher, nobody]
    rfl
  · change (connected.join false).hub.mailbox? 0 = _
    rw [Service.join_mailbox, nobody, idle]
    rfl

lemma racing_burst (n : Nat) : ∃ line,
    let bytes := repeated (racing (speedOf 1)).text n
    let registry : Registry := ⟨false, ["861693034634154"]⟩
    Endures { peer := .unknown } registry (sentencesIn frameLimit [] bytes).dropLast ∧
    linesOf { peer := .unknown } registry (sentencesIn frameLimit [] bytes) =
      List.replicate n line := by
  have text : IsFrameText (racing (speedOf 1)).text := ⟨by decide +kernel, by decide⟩
  have short : (racing (speedOf 1)).text.length ≤ frameLimit := by decide +kernel
  have ends : ¬ (kept digits).Starts ['*'] := by decide
  obtain ⟨p, line, hd, hm⟩ := racing_line (some { peer := .unknown }) (speedOf 1) ends
  have lined := line?_eq_some.2 ⟨p, hd, hm⟩
  have same : (process { peer := .unknown } ⟨false, ["861693034634154"]⟩
      (String.ofList ((racing (speedOf 1)).text ++ ['*']))).registry =
        ⟨false, ["861693034634154"]⟩ := by
    obtain h | ⟨identifier, admits, -⟩ := process_registry { peer := .unknown }
      ⟨false, ["861693034634154"]⟩ (String.ofList ((racing (speedOf 1)).text ++ ['*']))
    · exact h
    · cases admits
  refine ⟨line, ?_, ?_⟩
  · rw [sentencesIn_repeated text short, List.dropLast_replicate]
    exact endures_replicate same lined _
  · rw [sentencesIn_repeated text short]
    exact linesOf_replicate same lined n

lemma start_prompt (now : Nat) : (Watcher.start now false).Prompt :=
  ⟨rfl, rfl, rfl⟩

theorem two_frames_sent : ∃ started line x, Service.start oneDevice = .ok started ∧
    let l := ({ service := started, links := [] } : Loop).play opening
    let arrival := Turn.receive 0 (.chunk (repeated (racing (speedOf 1)).text 2))
    ((l.play [arrival]).take (.run 0)).service.watchers[0]? = some x ∧ x.sent = [line, line] := by
  obtain ⟨started, hs, ⟨now, m, holds, empty⟩, links, registry⟩ := open_loop
  obtain ⟨line, endures, lines⟩ := racing_burst 2
  rw [← registry] at endures lines
  have alone : ∀ t ∈ ([] : List Turn), ¬ t.Runs 0 ∧ ¬ t.Changes 0 := by simp
  have runs : (Turn.run 0).Runs 0 := rfl
  obtain ⟨x, hx, -, sent⟩ := prompt_watcher_sends hs rfl holds (start_prompt now) empty links rfl
    endures alone runs
  have few : (List.replicate 2 line ++ []).length ≤ 10 := by simp
  have broadcast := sent (by rw [lines]; exact few)
  rw [lines] at broadcast
  exact ⟨started, line, x, hs, hx, broadcast⟩

theorem eleven_frames_overrun : ∃ started, Service.start oneDevice = .ok started ∧
    let l := ({ service := started, links := [] } : Loop).play opening
    let chunk := repeated (racing (speedOf 1)).text 11
    let sentences := sentencesIn frameLimit [] chunk
    (∃ w m, l.service.Holds 0 w m ∧ w.Prompt ∧ w.sent = [] ∧ m.messages = []) ∧
    l.links[0]? = some ⟨{ peer := .unknown }, frameLimit, .reading []⟩ ∧
    Endures { peer := .unknown } l.service.registry sentences.dropLast ∧
    (linesOf { peer := .unknown } l.service.registry sentences).length = 11 ∧
    ∃ x, ((l.play [.receive 0 (.chunk chunk)]).take (.run 0)).service.watchers[0]? = some x ∧
      x.sent.length = 10 := by
  obtain ⟨started, hs, ⟨now, m, holds, empty⟩, links, registry⟩ := open_loop
  obtain ⟨line, endures, lines⟩ := racing_burst 11
  rw [← registry] at endures lines
  have sound := play_sound (l := ⟨started, []⟩) (Service.sound_of_start hs) opening
  have quiet : ∀ t ∈ [Turn.receive 0 (.chunk (repeated (racing (speedOf 1)).text 11))],
      ¬ t.Runs 0 ∧ ¬ t.Changes 0 := by
    simp [Turn.Runs, Turn.Changes]
  have runs : (Turn.run 0).Runs 0 := rfl
  obtain ⟨x, hx, sent⟩ := sent_of_play sound holds (start_prompt now) empty quiet runs
  refine ⟨started, hs, ⟨_, m, holds, start_prompt now, rfl, empty⟩, links, endures, ?_, x, hx, ?_⟩
  · rw [lines, List.length_replicate]
  · rw [sent, heardIn, heard_chunk links rfl endures, lines]
    rfl

end Loop

end Telematics
