import Telematics.Proofs.Binary64.Token
import Telematics.Proofs.Position.Conversion
import Telematics.Proofs.Sentence.Choice

namespace Telematics.Field

open Sentence Sentence.Draft Grammar Pattern Text

variable {name : String} {n : Nat} {t : List Char} {a : Char → Bool}

lemma convert_some {α : Type} (read : String → Option α) (name : String) (t : List Char) :
    convert read name (shown t) = match read (String.ofList t) with
      | some a => .ok a
      | none => .error ⟨name, shown t, none⟩ := rfl

lemma integer_digits (name : String) (x : Token digits) : integer name (shown x.1) =
    if Numeral.digitLimit < x.1.length then .error ⟨name, shown x.1, none⟩
    else .ok (Numeral.value x.1 : Int) := by
  obtain ⟨-, hx, hd⟩ := matches_several.1 x.2
  rw [integer, convert_some, Numeral.integer?_decimal hx hd]
  split_ifs <;> rfl

lemma integer_fixedDigits (hn : 0 < n ∧ n ≤ Numeral.digitLimit) (name : String)
    (x : Token (fixedDigits n)) : integer name (shown x.1) = .ok (Numeral.value x.1 : Int) := by
  obtain ⟨-, hl, hd⟩ := matches_fixedDigits.1 x.2
  have hx : x.1 ≠ [] := by
    rintro h
    rw [h] at hl
    exact absurd hl hn.1.ne
  rw [integer, convert_some, Numeral.integer?_decimal hx hd, if_neg (by omega)]

lemma integer_hex (name : String) (x : Token (several isHexDigit)) :
    (∃ m, integer name (shown x.1) = .ok m) ∧
        ¬ ((∃ c ∈ x.1, c.isAlpha) ∨ Numeral.digitLimit < x.1.length) ∨
      integer name (shown x.1) = .error ⟨name, shown x.1, none⟩ ∧
        ((∃ c ∈ x.1, c.isAlpha) ∨ Numeral.digitLimit < x.1.length) := by
  obtain ⟨-, hx, hd⟩ := matches_several.1 x.2
  have refused := Numeral.integer?_hex hx hd
  rw [integer, convert_some]
  cases h : Numeral.integer? 10 (String.ofList x.1) with
  | none => exact .inr ⟨rfl, refused.1 h⟩
  | some m =>
    refine .inl ⟨⟨m, rfl⟩, fun hb => ?_⟩
    rw [refused.2 hb] at h
    cases h

lemma hexadecimal_group (name : String) (x : Token (several isHexDigit)) :
    hexadecimal name (shown x.1) = .ok (Numeral.valueIn 16 x.1 : Int) := by
  obtain ⟨-, hx, hd⟩ := matches_several.1 x.2
  rw [hexadecimal, convert_some, (Numeral.integer?_radix (by decide) hx hd).1]

lemma hexadecimal_signedGroup (name : String)
    (x : Token (Pattern.optional (literal '-') ++ several isHexDigit)) :
    ∃ m, hexadecimal name (shown x.1) = .ok m := by
  obtain ⟨t, h⟩ := x
  obtain ⟨_, _, sign, u, h₁, h₂, -, rfl⟩ := matches_seq.1 h
  obtain rfl := h₂.nil_of_width rfl
  obtain ⟨-, hu, hd⟩ := matches_several.1 h₂
  obtain ⟨plus, minus⟩ := Numeral.integer?_radix (show 16 ≠ 10 by decide) hu hd
  obtain ⟨_, hs, -⟩ | ⟨_, hs, -⟩ := matches_alt.1 h₁
  · obtain ⟨-, c, hc, rfl⟩ := matches_one.1 hs
    obtain rfl := of_decide_eq_true hc
    refine ⟨-(Numeral.valueIn 16 u : Int), ?_⟩
    rw [hexadecimal, convert_some]
    simp only [List.singleton_append, minus]
  · obtain ⟨-, rfl⟩ := matches_empty.1 hs
    refine ⟨(Numeral.valueIn 16 u : Int), ?_⟩
    rw [hexadecimal, convert_some]
    simp only [List.nil_append, plus]

lemma brief_of_fixedDigits (hn : n ≤ 4) (x : Token (fixedDigits n)) :
    Brief (shown x.1) := by
  obtain ⟨-, hl, -⟩ := matches_fixedDigits.1 x.2
  rintro t ⟨⟩
  rw [String.toList_ofList, hl]
  exact hn

lemma brief_year (x : Token (fixedDigits 4 <|> fixedDigits 2)) :
    Brief (shown x.1) := by
  rintro t ⟨⟩
  rw [String.toList_ofList]
  obtain ⟨_, h, -⟩ | ⟨_, h, -⟩ := matches_alt.1 x.2
  · exact (matches_fixedDigits.1 h).2.1.le
  · exact (matches_fixedDigits.1 h).2.1.le.trans (by decide)

lemma integer_bit (name : String) (x : Token bit) :
    integer name (shown x.1) = .ok (if x.1 = ['1'] then 1 else 0) := by
  obtain h | h := bit_cases x <;> rw [h] <;> rfl

lemma flag_bit (name : String) (x : Token bit) :
    flag name (shown x.1) = .ok (decide (x.1 = ['1'])) := by
  obtain h | h := bit_cases x <;> rw [h] <;> rfl

lemma binary_bits (hn : 0 < n) (name : String) (x : Token (times n bit)) :
    binary name (shown x.1) = .ok (Numeral.valueIn 2 x.1 : Int) := by
  obtain ⟨-, hl, hb⟩ := matches_times_one.1 x.2
  have digits : ∀ c ∈ x.1, (digitValue? 2 c).isSome := by
    intro c hc
    obtain rfl | hc := List.mem_cons.1 (List.contains_iff_mem.1 (hb c hc))
    · decide
    · obtain rfl := List.mem_singleton.1 hc
      decide
  have hx : x.1 ≠ [] := by
    intro h
    rw [h] at hl
    exact absurd hl hn.ne
  obtain ⟨c, r, hr⟩ := List.exists_cons_of_ne_nil hx
  have hc := (Numeral.ascii_of_digit (digits c (by rw [hr]; exact List.mem_cons_self))).1
  have read : convert (Numeral.integer? 2) name (shown x.1) = .ok (Numeral.valueIn 2 x.1 : Int) := by
    rw [convert_some, (Numeral.integer?_radix (by decide) hx digits).1]
  have text : ((shown x.1).getD "").toList = c :: r := by
    rw [shown, Option.getD_some, String.toList_ofList, hr]
  unfold binary
  rw [text]
  split
  · rename_i h
    cases h
  · rename_i h
    obtain ⟨rfl, -⟩ := List.cons.inj h
    exact absurd hc (by decide)
  · rename_i h
    obtain ⟨rfl, -⟩ := List.cons.inj h
    exact absurd hc (by decide)
  · exact read

lemma matches_decimal (x : Token Grammar.decimal) : ∃ whole part, whole ≠ [] ∧
    (∀ c ∈ whole, isDecimalDigit c) ∧ (∀ c ∈ part, isDecimalDigit c) ∧
      Binary64.Pointed whole part x.1 := by
  obtain ⟨t, h⟩ := x
  obtain ⟨_, _, whole, tail, h₁, h₂, -, rfl⟩ := matches_seq.1 h
  obtain ⟨-, hw, hd⟩ := matches_digits.1 h₁
  obtain ⟨_, ht, -⟩ | ⟨_, ht, -⟩ := matches_alt.1 h₂
  · obtain ⟨_, _, point, part, hp, hm, -, rfl⟩ := matches_seq.1 ht
    obtain ⟨-, c, hc, rfl⟩ := matches_one.1 hp
    obtain rfl := of_decide_eq_true hc
    exact ⟨whole, part, hw, hd, (matches_many.1 hm).2, .inr rfl⟩
  · obtain ⟨-, rfl⟩ := matches_empty.1 ht
    exact ⟨whole, [], hw, hd, by simp, .inl ⟨List.append_nil _, rfl⟩⟩

lemma decimal_token (x : Token Grammar.decimal) : ∃ step,
    Binary64.ofText? (String.ofList x.1) = some (.number false step) ∧
    Binary64.ofText? (String.ofList ('-' :: x.1)) = some (.number true step) := by
  obtain ⟨whole, part, hw, hd, hp, h⟩ := matches_decimal x
  obtain ⟨plus, minus⟩ := Binary64.ofText?_decimal hw hd hp h
  obtain ⟨step, hs⟩ := Binary64.exists_step (Numeral.value (whole ++ part)) (-(part.length : Int))
  exact ⟨step, plus.trans (congrArg some (hs false)), minus.trans (congrArg some (hs true))⟩

lemma decimal_decimal (name : String) (x : Token Grammar.decimal) :
    ∃ step, decimal name (shown x.1) = .ok (.number false step) := by
  obtain ⟨step, plus, -⟩ := decimal_token x
  exact ⟨step, by rw [decimal, convert_some, plus]⟩

lemma decimal_fraction (name : String) (x : Token fraction) :
    ∃ step, decimal name (shown x.1) = .ok (.number false step) :=
  decimal_decimal name ⟨x.1, decimal_of_fraction x.2⟩

lemma decimal_signed (name : String) (x : Token (Pattern.optional (literal '-') ++ fraction)) :
    ∃ negative step, decimal name (shown x.1) = .ok (.number negative step) := by
  obtain ⟨t, h⟩ := x
  obtain ⟨_, _, sign, u, h₁, h₂, -, rfl⟩ := matches_seq.1 h
  obtain ⟨step, plus, minus⟩ := decimal_token ⟨u, decimal_of_fraction h₂⟩
  obtain ⟨_, hs, -⟩ | ⟨_, hs, -⟩ := matches_alt.1 h₁
  · obtain ⟨-, c, hc, rfl⟩ := matches_one.1 hs
    obtain rfl := of_decide_eq_true hc
    refine ⟨true, step, ?_⟩
    rw [decimal, convert_some]
    simp only [List.singleton_append, minus]
  · obtain ⟨-, rfl⟩ := matches_empty.1 hs
    refine ⟨false, step, ?_⟩
    rw [decimal, convert_some]
    simp only [List.nil_append, plus]

end Telematics.Field
