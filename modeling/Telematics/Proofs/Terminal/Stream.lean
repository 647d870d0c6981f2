import Mathlib.Tactic.Common
import Telematics.Terminal.Connection

namespace Telematics.Terminal.Connection

variable {channel : Channel} {limit : Nat} {registry : Registry} {pending : List UInt8}

/-- How a stream stands after its inputs, as long as no exchange has failed. -/
inductive Ending where
  | waiting (pending : List UInt8)
  | ended
  | overrun
  | lost
deriving DecidableEq

def Ending.connection : Ending → Connection
  | waiting pending => .reading pending
  | ended | overrun | lost => .finished none

def Ending.effects (channel : Channel) : Ending → List Effect
  | waiting _ => []
  | ended => release channel
  | overrun => .log (.frameTooLong channel.peer) :: release channel
  | lost => .log (.lost channel.peer resetCause) :: release channel

def handed (limit : Nat) : List UInt8 → List Input → List String × Ending
  | pending, [] => ([], .waiting pending)
  | pending, .chunk bytes :: is =>
    match cutChunk limit pending bytes with
    | (frames, .pending rest) =>
      (frames.filterMap sentence? ++ (handed limit rest is).1, (handed limit rest is).2)
    | (frames, .overrun) => (frames.filterMap sentence?, .overrun)
  | pending, .endOfStream :: _ => ([pending].filterMap sentence?, .ended)
  | _, .reset :: _ => ([], .lost)

def conclude (channel : Channel) (ending : Ending) :
    Registry × List Effect × Option Failure → Progress
  | (registry, effects, some failure) =>
    ⟨registry, .finished (some (.exchange failure)), effects ++ release channel⟩
  | (registry, effects, none) => ⟨registry, ending.connection, effects ++ ending.effects channel⟩

lemma run_finished (registry : Registry) (raised : Option Raised) (inputs : List Input) :
    run channel limit registry (.finished raised) inputs = ⟨registry, .finished raised, []⟩ := by
  induction inputs with
  | nil => rfl
  | cons i is ih =>
    have hs : step channel limit registry (.finished raised) i =
        ⟨registry, .finished raised, []⟩ := by
      cases i <;> rfl
    simp only [run, hs, ih, List.append_nil]

lemma finish_eq (channel : Channel) : finish channel =
    ⟨[.close, .awaitClose channel.closeFails, .log (.disconnected channel.peer)], none⟩ := by
  -- a wait that fails raises what is suppressed around it
  cases h : channel.closeFails <;> simp [finish, awaitClosed, Attempt.andThen, Attempt.suppress,
    Attempt.rescue, Attempt.perform, Attempt.nothing, Raised.isLost, h]

lemma leave_done (channel : Channel) (registry : Registry) (effects : List Effect) :
    leave channel registry ⟨effects, none⟩ =
      ⟨registry, .finished none, effects ++ release channel⟩ := by
  simp only [leave, release, finish_eq, Attempt.rescue, Attempt.ensure, Option.bind_none,
    Option.or_none]

lemma leave_noticed {raised : Raised} {e : Effect}
    (h : notice channel raised = some (.perform e)) (registry : Registry) (effects : List Effect) :
    leave channel registry ⟨effects, some raised⟩ =
      ⟨registry, .finished none, effects ++ e :: release channel⟩ := by
  simp only [leave, release, finish_eq, Attempt.rescue, Attempt.ensure, Attempt.perform,
    Option.bind_some, h, Option.or_none, List.append_assoc, List.cons_append, List.nil_append]

/-- The failure of an exchange has no handler, and releasing the connection does not replace it. -/
lemma leave_failed (channel : Channel) (registry : Registry) (effects : List Effect)
    (failure : Failure) : leave channel registry ⟨effects, some (.exchange failure)⟩ =
      ⟨registry, .finished (some (.exchange failure)), effects ++ release channel⟩ := by
  simp only [leave, release, finish_eq, Attempt.rescue, Attempt.ensure, Option.bind_some, notice,
    Option.none_or]

lemma serve_append (registry : Registry) (xs ys : List String) :
    serve channel registry (xs ++ ys) = match serve channel registry xs with
      | (after, effects, some failure) => (after, effects, some failure)
      | (after, effects, none) =>
        ((serve channel after ys).1, effects ++ (serve channel after ys).2.1,
          (serve channel after ys).2.2) := by
  induction xs generalizing registry with
  | nil => rfl
  | cons x xs ih =>
    rw [List.cons_append, serve, serve]
    cases (process channel registry x).result with
    | error failure => rfl
    | ok o =>
      simp only [ih]
      generalize serve channel (process channel registry x).registry xs = served
      obtain ⟨after, effects, failure⟩ := served
      cases failure with
      | none => simp only [List.append_assoc]
      | some failure => rfl

lemma run_over (ending : Ending) {c : Connection} {i : Input} {frames : List (List UInt8)}
    {raised : Option Raised} (hs : step channel limit registry c i =
      serveFrames channel registry frames (.leaving raised))
    (hl : ∀ registry effects, leave channel registry ⟨effects, raised⟩ =
      ⟨registry, .finished none, effects ++ ending.effects channel⟩)
    (he : ending.connection = .finished none) (inputs : List Input) :
    run channel limit registry c (i :: inputs) =
      conclude channel ending (serve channel registry (frames.filterMap sentence?)) := by
  rw [serveFrames] at hs
  generalize serve channel registry (frames.filterMap sentence?) = served at hs ⊢
  obtain ⟨after, effects, failure⟩ := served
  cases failure with
  | none => simp only [run, hs, hl, run_finished, conclude, he, List.append_nil]
  | some failure => simp only [run, hs, leave_failed, run_finished, conclude, List.append_nil]

theorem run_eq (registry : Registry) (pending : List UInt8) (inputs : List Input) :
    run channel limit registry (.reading pending) inputs =
      conclude channel (handed limit pending inputs).2
        (serve channel registry (handed limit pending inputs).1) := by
  induction inputs generalizing registry pending with
  | nil => rfl
  | cons i is ih =>
    cases i with
    | chunk bytes =>
      cases hc : cutChunk limit pending bytes with
      | mk frames tail =>
        cases tail with
        | pending rest =>
          simp only [run, step, handed, hc, serveFrames, serve_append]
          generalize serve channel registry (frames.filterMap sentence?) = served
          obtain ⟨after, effects, failure⟩ := served
          cases failure with
          | none =>
            simp only [ih]
            generalize serve channel after (handed limit rest is).1 = further
            obtain ⟨last, more, failure⟩ := further
            cases failure <;> simp only [conclude, List.append_assoc]
          -- a failed exchange closes the connection, and the inputs behind it do nothing
          | some failure => simp only [leave_failed, run_finished, conclude, List.append_nil]
        | overrun =>
          have leaves : step channel limit registry (.reading pending) (.chunk bytes) =
              serveFrames channel registry frames (.leaving (some .tooLong)) := by
            simp only [step, hc]
          simp only [handed, hc]
          exact run_over .overrun leaves (leave_noticed rfl) rfl is
    | endOfStream =>
      have leaves : step channel limit registry (.reading pending) .endOfStream =
        serveFrames channel registry [pending] (.leaving none) := rfl
      simp only [handed]
      exact run_over .ended leaves (leave_done channel) rfl is
    | reset =>
      have leaves : step channel limit registry (.reading pending) .reset =
        serveFrames channel registry [] (.leaving (some (.lost resetCause))) := rfl
      simp only [handed]
      exact run_over .lost leaves (leave_noticed rfl) rfl is

def received : List Input → List UInt8
  | .chunk bytes :: is => bytes ++ received is
  | _ => []

def Within (limit : Nat) (bytes : List UInt8) : Prop :=
  ∀ block, block <:+: bytes → endMark ∉ block → block.length ≤ limit

lemma Within.of_infix {xs ys : List UInt8} (h : Within limit ys) (hx : xs <:+: ys) :
    Within limit xs :=
  fun block hb hm => h block (hb.trans hx) hm

lemma Within.length_le {block more : List UInt8} (h : Within limit (block ++ more))
    (hb : endMark ∉ block) : block.length ≤ limit :=
  h block (List.prefix_append _ _).isInfix hb

lemma cut_within {seen bytes more : List UInt8}
    (h : Within limit (seen.reverse ++ (bytes ++ more))) (hs : endMark ∉ seen) :
    ∃ frames rest, cut limit seen seen.length bytes = (frames, .pending rest) ∧
      endMark ∉ rest ∧ Within limit (rest ++ more) := by
  have fits : ¬ limit < seen.length := by
    have hl := h.length_le (by rwa [List.mem_reverse])
    rw [List.length_reverse] at hl
    omega
  induction bytes generalizing seen with
  | nil =>
    refine ⟨[], seen.reverse, ?_, by rwa [List.mem_reverse], h⟩
    simp only [cut, fits, if_false]
  | cons b r ih =>
    by_cases hb : b = endMark
    · have tail : Within limit (([] : List UInt8).reverse ++ (r ++ more)) := by
        refine h.of_infix (List.IsSuffix.isInfix ⟨seen.reverse ++ [b], ?_⟩)
        simp
      obtain ⟨frames, rest, hc, hm, hw⟩ := ih tail (by simp) (by simp)
      refine ⟨(b :: seen).reverse :: frames, rest, ?_, hm, hw⟩
      rw [List.length_nil] at hc
      simp only [cut, hb, if_true, fits, if_false, hc]
    · have step : Within limit ((b :: seen).reverse ++ (r ++ more)) := by
        simpa using h
      have hs' : endMark ∉ b :: seen := by
        simpa [hs] using Ne.symm hb
      have fits' : ¬ limit < (b :: seen).length := by
        have hl := step.length_le (by rwa [List.mem_reverse])
        rw [List.length_reverse] at hl
        omega
      obtain ⟨frames, rest, hc, hm, hw⟩ := ih step hs' fits'
      refine ⟨frames, rest, ?_, hm, hw⟩
      simpa only [cut, hb, if_false, List.length_cons] using hc

theorem handed_ne_overrun {inputs : List Input} (h : Within limit (pending ++ received inputs))
    (hp : endMark ∉ pending) : (handed limit pending inputs).2 ≠ .overrun := by
  induction inputs generalizing pending with
  | nil => simp [handed]
  | cons i is ih =>
    cases i with
    | chunk bytes =>
      have hw : Within limit (pending.reverse.reverse ++ (bytes ++ received is)) := by
        rw [List.reverse_reverse]
        exact h
      obtain ⟨frames, rest, hc, hm, hw'⟩ := cut_within hw (by rwa [List.mem_reverse])
      rw [List.length_reverse] at hc
      simp only [handed, cutChunk, hc]
      exact ih hw' hm
    | endOfStream => simp [handed]
    | reset => simp [handed]

end Telematics.Terminal.Connection
