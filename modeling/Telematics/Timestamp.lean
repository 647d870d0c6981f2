namespace Telematics

def isLeapYear (year : Nat) : Bool :=
  year % 4 = 0 && (year % 100 ≠ 0 || year % 400 = 0)

def daysInMonth (year month : Nat) : Nat :=
  if month = 2 then if isLeapYear year then 29 else 28
  else if month = 4 ∨ month = 6 ∨ month = 9 ∨ month = 11 then 30
  else 31

structure Timestamp where
  year : Nat
  month : Nat
  day : Nat
  hour : Nat
  minute : Nat
  second : Nat
  microsecond : Nat
  year_mem : 1 ≤ year ∧ year ≤ 9999
  month_mem : 1 ≤ month ∧ month ≤ 12
  day_mem : 1 ≤ day ∧ day ≤ daysInMonth year month
  hour_lt : hour < 24
  minute_lt : minute < 60
  second_lt : second < 60
  microsecond_lt : microsecond < 1000000
deriving DecidableEq

namespace Timestamp

inductive Defect where
  | year (value : Int)
  | month
  | day
  | hour
  | minute
  | second
deriving DecidableEq

def Defect.message : Defect → String
  | year value => "year " ++ toString value ++ " is out of range"
  | month => "month must be in 1..12"
  | day => "day is out of range for month"
  | hour => "hour must be in 0..23"
  | minute => "minute must be in 0..59"
  | second => "second must be in 0..59"

def ofParts (year month day hour minute second : Int) : Except Defect Timestamp :=
  if hy : 1 ≤ year ∧ year ≤ 9999 then
    if hm : 1 ≤ month ∧ month ≤ 12 then
      if hd : 1 ≤ day ∧ day ≤ daysInMonth year.toNat month.toNat then
        if hh : 0 ≤ hour ∧ hour < 24 then
          if hi : 0 ≤ minute ∧ minute < 60 then
            if hs : 0 ≤ second ∧ second < 60 then
              .ok ⟨year.toNat, month.toNat, day.toNat, hour.toNat, minute.toNat, second.toNat,
                0, by omega, by omega, by omega, by omega, by omega, by omega, by decide⟩
            else .error .second
          else .error .minute
        else .error .hour
      else .error .day
    else .error .month
  else .error (.year year)

def padded (width n : Nat) : String :=
  let ds := (toString n).toList
  String.ofList (List.replicate (width - ds.length) '0' ++ ds)

def fraction (t : Timestamp) : String :=
  if t.microsecond = 0 then "" else "." ++ padded 6 t.microsecond

def isoText (t : Timestamp) : String :=
  padded 4 t.year ++ "-" ++ padded 2 t.month ++ "-" ++ padded 2 t.day ++ "T" ++
    padded 2 t.hour ++ ":" ++ padded 2 t.minute ++ ":" ++ padded 2 t.second ++ t.fraction ++
    "+00:00"

end Timestamp

end Telematics
