import Telematics.Text.Blank

namespace Telematics.Terminal

def endMark : UInt8 := 42

def frameLimit : Nat := 4096

inductive Tail where
  | pending (bytes : List UInt8)
  | overrun

/-- Cuts bytes into complete frames. `seen` holds the bytes of the frame so far, the last one first,
and `size` is their number. -/
def cut (limit : Nat) (seen : List UInt8) (size : Nat) : List UInt8 → List (List UInt8) × Tail
  | [] => if limit < size then ([], .overrun) else ([], .pending seen.reverse)
  | b :: r =>
    if b = endMark then
      if limit < size then ([], .overrun)
      else
        let (frames, tail) := cut limit [] 0 r
        ((b :: seen).reverse :: frames, tail)
    else cut limit (b :: seen) (size + 1) r

def cutChunk (limit : Nat) (pending chunk : List UInt8) : List (List UInt8) × Tail :=
  cut limit pending.reverse pending.length chunk

def asciiChar (b : UInt8) : Char :=
  if b < 128 then Char.ofNat b.toNat else '\ufffd'

def sentence? (frame : List UInt8) : Option String :=
  match Text.trim (String.ofList (frame.map asciiChar)) with
  | "" => none
  | s => some s

end Telematics.Terminal
