import Telematics.Position
import Telematics.Proofs.Numeral
import Telematics.Proofs.Result

namespace Telematics

open Sentence

namespace Field

variable {α β : Type} {name : String} {token : Option String} {n : Int}

def OnlyConverts (x : Except TimeError α) : Prop :=
  ∀ e, x = .error e → ∃ c, e = .conversion c

lemma OnlyConverts.bind {x : Except TimeError α} {f : α → Except TimeError β}
    (hx : OnlyConverts x) (hf : ∀ a, x = .ok a → OnlyConverts (f a)) : OnlyConverts (x >>= f) := by
  intro e h
  obtain h | ⟨a, ha, h⟩ := bind_eq_error.1 h
  · exact hx e h
  · exact hf a ha e h

lemma onlyConverts_mapError (x : Result α) : OnlyConverts (x.mapError .conversion) := by
  intro e h
  cases x with
  | ok a => cases h
  | error c => cases h; exact ⟨c, rfl⟩

def Brief (token : Option String) : Prop :=
  ∀ t ∈ token, t.toList.length ≤ 4

lemma natAbs_lt_of_part (ht : Brief token) (h : part name token = .ok n) : n.natAbs < 10000 := by
  obtain h := mapError_eq_ok.1 h
  rw [integer, convert] at h
  cases hr : token.bind (Numeral.integer? 10) with
  | none => rw [hr] at h; cases h
  | some m =>
    rw [hr] at h
    cases h
    obtain ⟨t, rfl, hm⟩ := Option.bind_eq_some_iff.1 hr
    have hlt := Numeral.natAbs_lt_pow (by decide) hm
    have hle : 10 ^ t.toList.length ≤ 10 ^ 4 := Nat.pow_le_pow_right (by decide) (ht t rfl)
    omega

lemma fitsWord_of_lt {m : Int} (h : m.natAbs < 20000) : fitsWord m := by
  simp only [fitsWord, Bool.and_eq_true, decide_eq_true_eq]
  omega

lemma fitsWord_fullYear (h : n.natAbs < 10000) : fitsWord (fullYear token n) := by
  apply fitsWord_of_lt
  rw [fullYear]
  split <;> omega

lemma onlyConverts_time {day month year hour minute second : Option String} (hy : Brief year)
    (hmo : Brief month) (hd : Brief day) (hh : Brief hour) (hmi : Brief minute)
    (hs : Brief second) : OnlyConverts (time day month year hour minute second) := by
  have converts := fun name token => onlyConverts_mapError (integer name token)
  refine (converts _ _).bind fun y h₁ => ?_
  refine (converts _ _).bind fun mo h₂ => ?_
  refine (converts _ _).bind fun d h₃ => ?_
  refine (converts _ _).bind fun h h₄ => ?_
  refine (converts _ _).bind fun mi h₅ => ?_
  refine (converts _ _).bind fun s h₆ => ?_
  have small {m : Int} (h : m.natAbs < 10000) : fitsWord m := fitsWord_of_lt (by omega)
  have fits : [fullYear year y, mo, d, h, mi, s].all fitsWord := by
    simp [fitsWord_fullYear (natAbs_lt_of_part hy h₁), small (natAbs_lt_of_part hmo h₂),
      small (natAbs_lt_of_part hd h₃), small (natAbs_lt_of_part hh h₄),
      small (natAbs_lt_of_part hmi h₅), small (natAbs_lt_of_part hs h₆)]
  rw [if_pos fits]
  intro e he
  cases hp : Timestamp.ofParts (fullYear year y) mo d h mi s with
  | ok t =>
    rw [hp] at he
    cases he
  | error defect =>
    rw [hp] at he
    cases he
    exact ⟨_, rfl⟩

end Field

namespace Position

variable {r : Report} {n : Int}

structure BriefDate (r : Report) : Prop where
  day : Field.Brief r.day
  month : Field.Brief r.month
  year : Field.Brief r.year
  hour : Field.Brief r.hour
  minute : Field.Brief r.minute
  second : Field.Brief r.second

theorem onlyConverts_ofReport (h : BriefDate r) : Field.OnlyConverts (ofReport n r) := by
  have time := Field.onlyConverts_time h.year h.month h.day h.hour h.minute h.second
  refine (Field.onlyConverts_mapError _).bind fun p₁ _ => ?_
  refine (Field.onlyConverts_mapError _).bind fun p₂ _ => ?_
  refine time.bind fun t _ => ?_
  refine (Field.onlyConverts_mapError _).bind fun latitude _ => ?_
  refine (Field.onlyConverts_mapError _).bind fun longitude _ => ?_
  exact Field.onlyConverts_mapError _

end Position

end Telematics
