import Telematics.Proofs.Json
import Telematics.Proofs.Json.Reader

namespace Telematics.Json

variable {t : List Char}

def isPlain (c : Char) : Bool :=
  ' ' ≤ c && c ≤ '~'

def Plain (t : List Char) : Prop :=
  ∀ c ∈ t, isPlain c

lemma Plain.nil : Plain [] :=
  List.forall_mem_nil _

lemma Plain.cons {c : Char} (hc : isPlain c) (ht : Plain t) : Plain (c :: t) :=
  List.forall_mem_cons.2 ⟨hc, ht⟩

lemma Plain.append {s : List Char} (hs : Plain s) (ht : Plain t) : Plain (s ++ t) :=
  List.forall_mem_append.2 ⟨hs, ht⟩

lemma plain_unit (n : Nat) : Plain (unitEscape n) := by
  have digit (m : Nat) : isPlain (Text.hexDigit (m % 16)) := by
    have digits : ∀ m < 16, isPlain (Text.hexDigit m) = true := by decide
    exact digits _ (Nat.mod_lt m (by decide))
  exact .cons rfl (.cons rfl (.cons (digit _) (.cons (digit _) (.cons (digit _)
    (.cons (digit n) .nil)))))

lemma plain_escape (n : Nat) : Plain (escape n) := by
  have short {d : Char} (hd : isPlain d) : Plain ['\\', d] := .cons rfl (.cons hd .nil)
  unfold escape
  split_ifs with _ _ _ _ _ _ _ plain
  · exact short rfl
  · exact short rfl
  · exact short rfl
  · exact short rfl
  · exact short rfl
  · exact short rfl
  · exact short rfl
  · obtain ⟨c, rfl⟩ := exists_char (Nat.lt_of_le_of_lt plain.2 (by decide))
    rw [Char.ofNat_toNat]
    have between : isPlain c := Bool.and_eq_true_iff.2
      ⟨decide_eq_true plain.1, decide_eq_true plain.2⟩
    exact .cons between .nil
  · exact plain_unit _
  · exact (plain_unit _).append (plain_unit _)

lemma plain_stringChars (s : Points) : Plain (stringChars s) := by
  have escapes : Plain (s.flatMap fun p => escape p.val) := by
    intro c hc
    obtain ⟨p, -, hp⟩ := List.mem_flatMap.1 hc
    exact plain_escape p.val c hp
  exact .cons rfl (escapes.append (.cons rfl .nil))

lemma plain_number (h : IsNumber t) : Plain t := by
  intro c hc
  obtain digit | sign := Bool.or_eq_true_iff.1 ((Reader.isNumberChar_number h).2 c hc)
  · obtain ⟨low, high⟩ := Char.isDigit_iff_toNat.1 digit
    have range : (' ').toNat ≤ c.toNat ∧ c.toNat ≤ ('~').toNat :=
      ⟨le_trans (by decide) low, le_trans high (by decide)⟩
    exact Bool.and_eq_true_iff.2 ⟨decide_eq_true range.1, decide_eq_true range.2⟩
  · have sign := List.contains_iff_mem.1 sign
    simp only [List.mem_cons, List.not_mem_nil, or_false] at sign
    obtain rfl | rfl | rfl | rfl | rfl := sign <;> rfl

lemma plain_float (x : Binary64) : Plain (x.textWith numberWords).toList := by
  by_cases finite : x.isFinite
  · exact plain_number (isNumber_float finite)
  · cases x with
    | nan => exact List.all_eq_true.1 rfl
    | number negative step =>
      rw [Binary64.isFinite_number] at finite
      simp only [Binary64.textWith, String.toList_ofList, magnitudeText_infinite finite]
      cases negative with
      | true => exact List.all_eq_true.1 rfl
      | false => exact List.all_eq_true.1 rfl

lemma plain_separated {ps : List (List Char)} (h : ∀ p ∈ ps, Plain p) : Plain (separated ps) := by
  induction ps with
  | nil => exact .nil
  | cons p ps ih =>
    obtain ⟨first, rest⟩ := List.forall_mem_cons.1 h
    cases ps with
    | nil => exact first
    | cons q ps => exact first.append (.cons rfl (.cons rfl (ih rest)))

mutual

theorem plain_chars? {j : Json} {cs : List Char} (hc : j.chars? = some cs) : Plain cs := by
  cases j with
  | null =>
    cases hc
    exact List.all_eq_true.1 rfl
  | bool b =>
    cases hc
    cases b with
    | true => exact List.all_eq_true.1 rfl
    | false => exact List.all_eq_true.1 rfl
  | int n =>
    rw [chars?] at hc
    obtain ⟨t, ht, rfl⟩ := Option.map_eq_some_iff.1 hc
    rw [toString_of_text? ht]
    exact plain_number (isNumber_int n)
  | float x =>
    cases hc
    exact plain_float x
  | str s =>
    cases hc
    exact plain_stringChars s
  | arr items =>
    rw [chars?] at hc
    obtain ⟨ps, hp, rfl⟩ := Option.map_eq_some_iff.1 hc
    exact .cons rfl ((plain_separated (plain_itemChars? hp)).append (.cons rfl .nil))
  | obj members =>
    rw [chars?] at hc
    obtain ⟨ps, hp, rfl⟩ := Option.map_eq_some_iff.1 hc
    exact .cons rfl ((plain_separated (plain_memberChars? hp)).append (.cons rfl .nil))

lemma plain_itemChars? {js : List Json} {ps : List (List Char)} (hc : itemChars? js = some ps) :
    ∀ p ∈ ps, Plain p := by
  cases js with
  | nil =>
    cases hc
    exact List.forall_mem_nil _
  | cons j js =>
    obtain ⟨p, hp, hc⟩ := Option.bind_eq_some_iff.1 hc
    obtain ⟨qs, hq, hc⟩ := Option.bind_eq_some_iff.1 hc
    cases hc
    exact List.forall_mem_cons.2 ⟨plain_chars? hp, plain_itemChars? hq⟩

lemma plain_memberChars? {ms : List (String × Json)} {ps : List (List Char)}
    (hc : memberChars? ms = some ps) : ∀ p ∈ ps, Plain p := by
  match ms with
  | [] =>
    cases hc
    exact List.forall_mem_nil _
  | (name, j) :: ms =>
    obtain ⟨p, hp, hc⟩ := Option.bind_eq_some_iff.1 hc
    obtain ⟨qs, hq, hc⟩ := Option.bind_eq_some_iff.1 hc
    cases hc
    refine List.forall_mem_cons.2 ⟨?_, plain_memberChars? hq⟩
    exact (plain_stringChars name).append (.cons rfl (.cons rfl (plain_chars? hp)))

end

theorem plain_text? {j : Json} {line : String} (h : j.text? = some line) :
    ∀ c ∈ line.toList, ' ' ≤ c ∧ c ≤ '~' := by
  intro c mem
  obtain ⟨low, high⟩ := Bool.and_eq_true_iff.1 (plain_chars? (chars?_of_text? h) c mem)
  exact ⟨of_decide_eq_true low, of_decide_eq_true high⟩

end Telematics.Json
