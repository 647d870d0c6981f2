/-! Text patterns with capture slots, whose readings are tried in order. -/

namespace Telematics.Sentence

inductive Pattern where
  | empty
  | one (accepts : Char → Bool)
  | many (accepts : Char → Bool)
  | seq (first second : Pattern)
  | alt (first second : Pattern)
  | slot (inner : Pattern)

/-- A captured piece of one text, kept as what remains of the text at its start and at its end. -/
structure Span where
  start : List Char
  stop : List Char

def Span.text (s : Span) : List Char :=
  s.start.take (s.start.length - s.stop.length)

structure Reading where
  slots : List (Option Span)
  rest : List Char

namespace Pattern

instance : Append Pattern := ⟨seq⟩

instance : OrElse Pattern := ⟨fun p q => alt p (q ())⟩

def width : Pattern → Nat
  | empty | one _ | many _ => 0
  | seq p q | alt p q => p.width + q.width
  | slot p => p.width + 1

/-- What remains after each run of accepted characters at the start of the text, the longest run
first, put in front of `shorter`. -/
def remainders (accepts : Char → Bool) : List Char → List (List Char) → List (List Char)
  | [], shorter => [] :: shorter
  | c :: r, shorter =>
    if accepts c then remainders accepts r ((c :: r) :: shorter) else (c :: r) :: shorter

def absent (n : Nat) : List (Option Span) :=
  List.replicate n none

def readings : Pattern → List Char → List Reading
  | empty, s => [⟨[], s⟩]
  | one _, [] => []
  | one accepts, c :: r => if accepts c then [⟨[], r⟩] else []
  | many accepts, s => (remainders accepts s []).map fun r => ⟨[], r⟩
  | seq p q, s => (p.readings s).flatMap fun x =>
      (q.readings x.rest).map fun y => ⟨x.slots ++ y.slots, y.rest⟩
  | alt p q, s =>
      (p.readings s).map (fun x => ⟨x.slots ++ absent q.width, x.rest⟩) ++
        (q.readings s).map fun y => ⟨absent p.width ++ y.slots, y.rest⟩
  | slot p, s => (p.readings s).map fun x => ⟨some ⟨s, x.rest⟩ :: x.slots, x.rest⟩

def capture? (p : Pattern) (s : String) : Option (List (Option String)) :=
  (p.readings s.toList).head?.map fun x => x.slots.map fun y => y.map fun z => String.ofList z.text

def optional (p : Pattern) : Pattern :=
  p <|> empty

def several (accepts : Char → Bool) : Pattern :=
  one accepts ++ many accepts

def times : Nat → Pattern → Pattern
  | 0, _ => empty
  | 1, p => p
  | n + 1, p => p ++ times n p

theorem length_slots {p : Pattern} {s : List Char} {x : Reading} (h : x ∈ p.readings s) :
    x.slots.length = p.width := by
  induction p generalizing s x with
  | empty => simp_all [readings, width]
  | one accepts =>
    cases s with
    | nil => simp [readings] at h
    | cons c r =>
      simp only [readings] at h
      split at h <;> simp_all [width]
  | many accepts =>
    simp only [readings, List.mem_map] at h
    obtain ⟨r, -, rfl⟩ := h
    rfl
  | seq p q ihp ihq =>
    simp only [readings, List.mem_flatMap, List.mem_map] at h
    obtain ⟨y, hy, z, hz, rfl⟩ := h
    simp [width, ihp hy, ihq hz]
  | alt p q ihp ihq =>
    simp only [readings, List.mem_append, List.mem_map] at h
    rcases h with ⟨y, hy, rfl⟩ | ⟨y, hy, rfl⟩
    · simp [width, absent, ihp hy]
    · simp [width, absent, ihq hy]
  | slot p ih =>
    simp only [readings, List.mem_map] at h
    obtain ⟨y, hy, rfl⟩ := h
    simp [width, ih hy]

end Pattern

end Telematics.Sentence
