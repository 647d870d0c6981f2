import Telematics.Field

namespace Telematics

structure Tower where
  country : Int
  network : Int
  area : Int
  cell : Int
  signal : Option Int
deriving DecidableEq

structure Network where
  serving : Tower
  neighbors : List Tower
deriving DecidableEq

namespace Network

def towers (n : Network) : List Tower :=
  n.serving :: n.neighbors

def tokenCount : Nat := 17

def servingTower (signal mcc mnc lac cid : String) : Field.Result Tower := do
  let country ← Field.integer "mcc" mcc
  let network ← Field.integer "mnc" mnc
  let area ← Field.hexadecimal "lac" lac
  let cell ← Field.hexadecimal "cid" cid
  let signal ← Field.integer "signal" signal
  return ⟨country, network, area, cell, some signal⟩

def neighborTokens : List String → List (String × String)
  | _ :: lac :: cid :: r => (lac, cid) :: neighborTokens r
  | _ => []

def neighborTower (serving : Tower) (lac cid : String) : Field.Result (Option Tower) := do
  let area ← Field.hexadecimal "lac" lac
  let cell ← Field.hexadecimal "cid" cid
  if 0 < area ∧ 0 < cell then return some ⟨serving.country, serving.network, area, cell, none⟩
  else return none

def joined (tokens : List String) : String :=
  ",".intercalate tokens

def ofTokens (tokens : List String) : Field.Result Network :=
  match tokens with
  | signal :: mcc :: mnc :: lac :: cid :: rest =>
    if tokens.length = tokenCount then do
      let tower ← servingTower signal mcc mnc lac cid
      let slots ← (neighborTokens rest).mapM fun t => neighborTower tower t.1 t.2
      return ⟨tower, slots.filterMap id⟩
    else Field.refuse "network" (joined tokens) (.tokenCount tokenCount)
  | _ => Field.refuse "network" (joined tokens) (.tokenCount tokenCount)

end Network

end Telematics
