import Mathlib.Data.List.Chain
import Telematics.Proofs.Json.Text

/-! Texts that are written alike. They differ at most by pairs of surrogates for code points. -/

namespace Telematics

namespace Points

def Unpaired (s : Points) : Prop :=
  (s.map Fin.val).IsChain fun n m => Json.isHigh n → Json.isLow m = false

instance (s : Points) : Decidable s.Unpaired :=
  inferInstanceAs (Decidable (List.IsChain _ (s.map Fin.val)))

end Points

namespace Json

variable {s t : Points} {n : Nat} {ms ns : List (String × Json)}

lemma joined_chain {ns : List Nat} (h : ns.IsChain fun n m => isHigh n → isLow m = false) :
    joined ns = ns := by
  induction ns with
  | nil => rfl
  | cons n ns ih =>
    obtain ⟨apart, rest⟩ := List.isChain_cons.1 h
    rw [joined_cons fun high m hm => apart m hm high, ih rest]

/-- Texts are read apart unless a pair of surrogates stands across their border. -/
lemma joined_append {xs ys : List Nat}
    (h : ∀ n ∈ xs.getLast?, isHigh n → ∀ m ∈ ys.head?, isLow m = false) :
    joined (xs ++ ys) = joined xs ++ joined ys := by
  have shorter {n m : Nat} {r : List Nat} (hm : m ∈ r.getLast?) : m ∈ (n :: r).getLast? := by
    rw [List.getLast?_cons, Option.mem_def.1 hm]
    rfl
  induction xs using joined.induct with
  | case1 high low r pair ih =>
    rw [List.cons_append, List.cons_append, joined_of_pair pair, joined_of_pair pair,
      List.cons_append, ih fun n hn => h n (shorter (shorter hn))]
  | case2 high low r apart ih =>
    rw [List.cons_append, List.cons_append, joined_of_apart apart, joined_of_apart apart,
      List.cons_append, ← List.cons_append, ih fun n hn => h n (shorter hn)]
  | case3 r short =>
    cases r with
    | nil => rfl
    | cons n r =>
      cases r with
      | cons m r => exact absurd rfl (short n m r)
      | nil => exact joined_cons (h n rfl)

lemma readPoints_append (h : ∀ p ∈ s.getLast?, isHigh p.val → ∀ q ∈ t.head?, isLow q.val = false) :
    readPoints (s ++ t) = readPoints s ++ readPoints t := by
  rw [readPoints, List.map_append]
  apply joined_append
  rw [List.getLast?_map, List.head?_map]
  intro n hn high m hm
  obtain ⟨p, hp, rfl⟩ := Option.map_eq_some_iff.1 hn
  obtain ⟨q, hq, rfl⟩ := Option.map_eq_some_iff.1 hm
  exact h p hp high q hq

lemma readPoints_unpaired (h : s.Unpaired) : readPoints s = s.map Fin.val :=
  joined_chain h

lemma eq_of_readPoints (hs : s.Unpaired) (ht : t.Unpaired) (h : readPoints s = readPoints t) :
    s = t := by
  rw [readPoints_unpaired hs, readPoints_unpaired ht] at h
  exact List.map_injective_iff.2 (fun _ _ => Fin.ext) h

lemma escape_unit (low : '~'.toNat < n) (high : n < 0x10000) : escape n = unitEscape n := by
  have above : 126 < n := low
  simp only [escape, Char.reduceToNat]
  rw [if_neg (by omega), if_neg (by omega), if_neg (by omega), if_neg (by omega),
    if_neg (by omega), if_neg (by omega), if_neg (by omega), if_neg (by omega), if_pos high]

lemma escape_pair (h : 0x10000 ≤ n) : escape n =
    unitEscape (0xd800 + (n - 0x10000) / 0x400) ++ unitEscape (0xdc00 + (n - 0x10000) % 0x400) := by
  simp only [escape, Char.reduceToNat]
  rw [if_neg (by omega), if_neg (by omega), if_neg (by omega), if_neg (by omega),
    if_neg (by omega), if_neg (by omega), if_neg (by omega), if_neg (by omega),
    if_neg (by omega)]

lemma flatMap_escape_joined (ns : List Nat) : (joined ns).flatMap escape = ns.flatMap escape := by
  induction ns using joined.induct with
  | case1 high low r pair ih =>
    rw [joined_of_pair pair, List.flatMap_cons, ih, List.flatMap_cons, List.flatMap_cons,
      ← List.append_assoc]
    simp only [isHigh, isLow, Bool.and_eq_true, decide_eq_true_eq] at pair
    obtain ⟨⟨high_ge, high_lt⟩, low_ge, low_lt⟩ := pair
    have first : 0xd800 + (0x10000 + (high - 0xd800) * 0x400 + (low - 0xdc00) - 0x10000) / 0x400 =
      high := by omega
    have second : 0xdc00 + (0x10000 + (high - 0xd800) * 0x400 + (low - 0xdc00) - 0x10000) % 0x400 =
      low := by omega
    rw [escape_pair (by omega), first, second,
      escape_unit (Nat.lt_of_lt_of_le (by decide) high_ge) (by omega),
      escape_unit (Nat.lt_of_lt_of_le (by decide) low_ge) (by omega)]
  | case2 high low r apart ih =>
    rw [joined_of_apart apart, List.flatMap_cons, ih]
    rfl
  | case3 r short =>
    rw [joined]
    exact short

lemma stringChars_eq (s : Points) :
    stringChars s = '\x22' :: (readPoints s).flatMap escape ++ ['\x22'] := by
  rw [readPoints, flatMap_escape_joined, List.flatMap_map]
  rfl

lemma stringChars_congr (h : readPoints s = readPoints t) : stringChars s = stringChars t := by
  rw [stringChars_eq, stringChars_eq, h]

lemma chars?_str_congr (h : readPoints s = readPoints t) : (str s).chars? = (str t).chars? :=
  congrArg some (stringChars_congr h)

lemma chars?_ofOption_congr {o o' : Option Points} (h : o.map readPoints = o'.map readPoints) :
    (ofOption str o).chars? = (ofOption str o').chars? := by
  cases o with
  | none =>
    rw [Option.map_eq_none_iff.1 h.symm]
  | some s =>
    obtain ⟨t, rfl, read⟩ := Option.map_eq_some_iff.1 h.symm
    exact chars?_str_congr read.symm

lemma memberChars?_congr (h : ms.map (fun m => (m.1, m.2.chars?)) =
    ns.map fun m => (m.1, m.2.chars?)) : memberChars? ms = memberChars? ns := by
  induction ms generalizing ns with
  | nil =>
    rw [List.map_eq_nil_iff.1 h.symm]
  | cons m ms ih =>
    obtain ⟨k, ks, rfl, same, rest⟩ := List.map_eq_cons_iff.1 h.symm
    obtain ⟨name, written⟩ := Prod.mk.inj same
    rw [memberChars?, memberChars?, name, written, ih rest.symm]

lemma chars?_obj_congr (h : ms.map (fun m => (m.1, m.2.chars?)) =
    ns.map fun m => (m.1, m.2.chars?)) : (obj ms).chars? = (obj ns).chars? := by
  rw [chars?, chars?, memberChars?_congr h]

end Json

end Telematics
