import Telematics.Terminal.Exchange

/-! Parts of the service of a connection that may raise, and what still runs once they have. -/

namespace Telematics.Terminal

inductive Raised where
  | exchange (failure : Failure)
  | tooLong
  | lost (cause : String)

def Raised.isLost : Raised → Bool
  | lost _ => true
  | _ => false

structure Attempt where
  effects : List Effect
  raised : Option Raised := none

namespace Attempt

def nothing : Attempt := ⟨[], none⟩

def perform (e : Effect) : Attempt := ⟨[e], none⟩

def andThen (a b : Attempt) : Attempt :=
  match a.raised with
  | some _ => a
  | none => ⟨a.effects ++ b.effects, b.raised⟩

def rescue (a : Attempt) (handler : Raised → Option Attempt) : Attempt :=
  match a.raised.bind handler with
  | some b => ⟨a.effects ++ b.effects, b.raised⟩
  | none => a

def suppress (a : Attempt) (kind : Raised → Bool) : Attempt :=
  a.rescue fun r => if kind r then some nothing else none

/-- Runs `b` whatever became of `a`. What `b` raises takes the place of what `a` raised. -/
def ensure (a b : Attempt) : Attempt :=
  ⟨a.effects ++ b.effects, b.raised.or a.raised⟩

end Attempt

end Telematics.Terminal
