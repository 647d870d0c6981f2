import Telematics.Proofs.Json.Value

namespace Telematics.Json

mutual

def floats : Json → List Binary64
  | null | bool _ | int _ | str _ => []
  | float x => [x]
  | arr items => itemFloats items
  | obj members => memberFloats members

def itemFloats : List Json → List Binary64
  | [] => []
  | j :: js => floats j ++ itemFloats js

def memberFloats : List (String × Json) → List Binary64
  | [] => []
  | (_, j) :: ms => floats j ++ memberFloats ms

end

/-! What a value looks like to a reader. -/

def points (s : String) : List Nat :=
  s.toList.map Char.toNat

/-- The code points that a reader makes of a text, in which surrogate pairs are joined. -/
def readPoints (s : Points) : List Nat :=
  joined (s.map Fin.val)

mutual

def seen : Json → Value
  | null => .null
  | bool b => .bool b
  | int n => .int n
  | float x => .decimal (x.textWith numberWords).toList
  | str s => .str (readPoints s)
  | arr items => .arr (seenItems items)
  | obj members => .obj (seenMembers members)

def seenItems : List Json → List Value
  | [] => []
  | j :: js => seen j :: seenItems js

def seenMembers : List (String × Json) → List (List Nat × Value)
  | [] => []
  | (name, j) :: ms => (points name, seen j) :: seenMembers ms

end

/-! Strings. -/

variable {t : List Char} {ns : List Nat}

def units (n : Nat) : List Nat :=
  if n < 0x10000 then [n]
  else [0xd800 + (n - 0x10000) / 0x400, 0xdc00 + (n - 0x10000) % 0x400]

lemma digitValue?_hexDigit (n : Nat) :
    Text.digitValue? 16 (Text.hexDigit (n % 16)) = some (n % 16) := by
  have digits : ∀ m < 16, Text.digitValue? 16 (Text.hexDigit m) = some m := by decide
  exact digits _ (Nat.mod_lt n (by decide))

lemma spells_unit {n : Nat} (h : n < 0x10000) (ht : Spells t ns) :
    Spells (unitEscape n ++ t) (n :: ns) := by
  have value : Numeral.ofDigits 16 [n / 4096 % 16, n / 256 % 16, n / 16 % 16, n % 16] = n := by
    simp only [Numeral.ofDigits, List.foldl_cons, List.foldl_nil]
    omega
  have spells := Spells.unit (digitValue?_hexDigit (n / 4096)) (digitValue?_hexDigit (n / 256))
    (digitValue?_hexDigit (n / 16)) (digitValue?_hexDigit n) ht
  rwa [value] at spells

lemma exists_char {n : Nat} (h : n < 0xd800) : ∃ c : Char, c.toNat = n := by
  refine ⟨.ofNat n, ?_⟩
  rw [Char.ofNat, dif_pos (.inl h)]
  rfl

lemma spells_escape {n : Nat} (hn : n < 0x110000) (ht : Spells t ns) :
    Spells (escape n ++ t) (units n ++ ns) := by
  unfold escape
  split_ifs with quote backslash newline ret tab backspace feed plain low
  · subst quote
    exact .escape rfl ht
  · subst backslash
    exact .escape rfl ht
  · subst newline
    exact .escape rfl ht
  · subst ret
    exact .escape rfl ht
  · subst tab
    exact .escape rfl ht
  · subst backspace
    exact .escape rfl ht
  · subst feed
    exact .escape rfl ht
  · obtain ⟨c, rfl⟩ := exists_char (Nat.lt_of_le_of_lt plain.2 (by decide))
    have low : c.toNat < 0x10000 := Nat.lt_of_le_of_lt plain.2 (by decide)
    rw [units, if_pos low, Char.ofNat_toNat]
    exact .plain plain.1 (fun same => quote (congrArg Char.toNat same))
      (fun same => backslash (congrArg Char.toNat same)) ht
  · rw [units, if_pos low]
    exact spells_unit low ht
  · rw [units, if_neg low, List.append_assoc]
    exact spells_unit (by omega) (spells_unit (by omega) ht)

/-! Surrogate pairs. -/

lemma joined_of_pair {high low : Nat} (h : isHigh high && isLow low) (ns : List Nat) :
    joined (high :: low :: ns) =
      (0x10000 + (high - 0xd800) * 0x400 + (low - 0xdc00)) :: joined ns :=
  if_pos h

lemma joined_of_apart {n m : Nat} (h : ¬ (isHigh n && isLow m)) (ns : List Nat) :
    joined (n :: m :: ns) = n :: joined (m :: ns) :=
  if_neg h

lemma joined_cons {n : Nat} (h : isHigh n → ∀ m ∈ ns.head?, isLow m = false) :
    joined (n :: ns) = n :: joined ns := by
  cases ns with
  | nil => rfl
  | cons m ns =>
    apply joined_of_apart
    rw [Bool.and_eq_true, not_and]
    intro high
    rw [h high m rfl]
    exact Bool.false_ne_true

lemma joined_eq_self (h : ∀ n ∈ ns, isHigh n = false) : joined ns = ns := by
  induction ns with
  | nil => rfl
  | cons n ns ih =>
    obtain ⟨first, rest⟩ := List.forall_mem_cons.1 h
    rw [joined_cons fun high => absurd high (Bool.eq_false_iff.1 first), ih rest]

lemma joined_points (s : String) : joined (points s) = points s := by
  apply joined_eq_self
  intro n hn
  obtain ⟨c, -, rfl⟩ := List.mem_map.1 hn
  have scalar : c.toNat < 0xd800 ∨ 0xdfff < c.toNat ∧ c.toNat < 0x110000 := c.valid
  rw [isHigh, Bool.and_eq_false_iff, decide_eq_false_iff_not, decide_eq_false_iff_not]
  omega

lemma readPoints_ofString (s : String) : readPoints s = points s := by
  have values : (Points.ofString s).map Fin.val = points s := List.map_map
  rw [readPoints, values, joined_points]

lemma joined_pair {n : Nat} (h : ¬ n < 0x10000) (hn : n < 0x110000) (ns : List Nat) :
    joined (units n ++ ns) = n :: joined ns := by
  have pair : isHigh (0xd800 + (n - 0x10000) / 0x400) &&
      isLow (0xdc00 + (n - 0x10000) % 0x400) := by
    simp only [isHigh, isLow, Bool.and_eq_true, decide_eq_true_eq]
    omega
  have point : 0x10000 + (0xd800 + (n - 0x10000) / 0x400 - 0xd800) * 0x400 +
      (0xdc00 + (n - 0x10000) % 0x400 - 0xdc00) = n := by omega
  rw [units, if_neg h, List.cons_append, List.singleton_append, joined_of_pair pair, point]

lemma head?_units {n : Nat} (h : isLow n = false) (hn : n < 0x110000) (ms : List Nat) :
    ∀ m ∈ (units n ++ ms).head?, isLow m = false := by
  intro m hm
  rw [units] at hm
  split_ifs at hm with low
  · obtain rfl := Option.some.inj hm
    exact h
  · obtain rfl := Option.some.inj hm
    rw [isLow, Bool.and_eq_false_iff, decide_eq_false_iff_not]
    omega

lemma joined_units (h : ∀ n ∈ ns, n < 0x110000) : joined (ns.flatMap units) = joined ns := by
  induction ns using joined.induct with
  | case1 high low r pair ih =>
    have rest := ih fun n hn => h n (List.mem_cons_of_mem _ (List.mem_cons_of_mem _ hn))
    have parts := pair
    simp only [isHigh, isLow, Bool.and_eq_true, decide_eq_true_eq] at parts
    have small : units high = [high] ∧ units low = [low] :=
      ⟨if_pos (by omega), if_pos (by omega)⟩
    rw [List.flatMap_cons, List.flatMap_cons, small.1, small.2, List.singleton_append,
      List.singleton_append, joined_of_pair pair, rest, joined_of_pair pair]
  | case2 high low r apart ih =>
    obtain ⟨first, more⟩ := List.forall_mem_cons.1 h
    have next := (List.forall_mem_cons.1 more).1
    have alone : isHigh high → isLow low = false := by
      intro hh
      rw [hh, Bool.true_and] at apart
      exact Bool.eq_false_iff.2 apart
    rw [joined_of_apart apart, ← ih more]
    by_cases small : high < 0x10000
    · have unit : units high = [high] := if_pos small
      rw [List.flatMap_cons, unit, List.singleton_append, List.flatMap_cons]
      exact joined_cons fun hh => head?_units (alone hh) next _
    · rw [List.flatMap_cons, joined_pair small first]
  | case3 r short =>
    cases r with
    | nil => rfl
    | cons n r =>
      cases r with
      | cons m r => exact absurd rfl (short n m r)
      | nil =>
        have bound := h n List.mem_cons_self
        rw [List.flatMap_singleton]
        by_cases small : n < 0x10000
        · rw [units, if_pos small]
        · have single := joined_pair small bound []
          rwa [List.append_nil] at single

lemma quotes_stringChars (s : Points) : Quotes (stringChars s) (readPoints s) := by
  have spells (ps : Points) :
      Spells (ps.flatMap fun p => escape p.val) ((ps.map Fin.val).flatMap units) := by
    induction ps with
    | nil => exact .nil
    | cons p ps ih => exact spells_escape p.isLt ih
  have bound : ∀ n ∈ s.map Fin.val, n < 0x110000 := by
    intro n hn
    obtain ⟨p, -, rfl⟩ := List.mem_map.1 hn
    exact p.isLt
  rw [readPoints, ← joined_units bound]
  exact .quoted (spells s)

lemma quotes_name (name : String) : Quotes (stringChars name) (points name) := by
  rw [← readPoints_ofString]
  exact quotes_stringChars name

/-! Lists. -/

def Padded.bare (t : List Char) : Padded :=
  ⟨[], t, [], by simp [Blanks], by simp [Blanks]⟩

def Padded.spaced (t : List Char) : Padded :=
  ⟨[' '], t, [], by simp [Blanks], by simp [Blanks]⟩

lemma bare_text (t : List Char) : (Padded.bare t).text = t := by
  rw [Padded.text, Padded.bare, List.nil_append, List.append_nil]

lemma spaced_text (t : List Char) : (Padded.spaced t).text = ' ' :: t := by
  rw [Padded.text, Padded.spaced, List.append_nil, List.singleton_append]

lemma commas_cons_cons (c : Char) (p : List Char) (ps : List (List Char)) :
    commas ((c :: p) :: ps) = c :: commas (p :: ps) := by
  cases ps with
  | nil => rfl
  | cons q ps => rfl

lemma separated_cons (p : List Char) (ps : List (List Char)) :
    separated (p :: ps) = commas (p :: ps.map (' ' :: ·)) := by
  induction ps generalizing p with
  | nil => rfl
  | cons q ps ih =>
    change p ++ ',' :: ' ' :: separated (q :: ps) = p ++ ',' :: commas ((' ' :: q) :: _)
    rw [ih, commas_cons_cons]

structure Item where
  text : List Char
  value : Value
  denotes : Denotes text value

lemma denotes_array (ws : List Item) :
    Denotes ('[' :: (separated (ws.map Item.text) ++ [']'])) (.arr (ws.map Item.value)) := by
  cases ws with
  | nil => exact .emptyArray (by simp [Blanks, separated])
  | cons w ws =>
    have items := Denotes.array ((.bare w.text, w.value) ::
      ws.map fun v => (.spaced v.text, v.value)) (List.cons_ne_nil _ _) (by
        rw [List.forall_mem_cons]
        refine ⟨w.denotes, fun x hx => ?_⟩
        obtain ⟨v, -, rfl⟩ := List.mem_map.1 hx
        exact v.denotes)
    have texts : ws.map ((·.1.text) ∘ fun v => (Padded.spaced v.text, v.value)) =
        ws.map ((' ' :: ·) ∘ Item.text) := List.map_congr_left fun v _ => spaced_text v.text
    rw [List.map_cons, List.map_map, texts, bare_text, List.map_cons, List.map_map] at items
    rw [List.map_cons, separated_cons, List.map_map]
    exact items

structure Written where
  name : List Char
  points : List Nat
  item : Item
  quotes : Quotes name points

namespace Written

def text (w : Written) : List Char :=
  w.name ++ ':' :: ' ' :: w.item.text

def named (w : Written) (padding : List Char → Padded) : NamedValue :=
  ⟨⟨padding w.name, .spaced w.item.text⟩, w.points, w.item.value⟩

lemma bare_text (w : Written) : (w.named .bare).member.text = w.text := by
  rw [named, Member.text, Json.bare_text, spaced_text, text]

lemma spaced_text (w : Written) : (w.named .spaced).member.text = ' ' :: w.text := by
  rw [named, Member.text, Json.spaced_text, Json.spaced_text, text, List.cons_append]

end Written

lemma denotes_object (ws : List Written) :
    Denotes ('\x7b' :: (separated (ws.map Written.text) ++ ['\x7d']))
      (.obj (ws.map fun w => (w.points, w.item.value))) := by
  cases ws with
  | nil => exact .emptyObject (by simp [Blanks, separated])
  | cons w ws =>
    have members := Denotes.object (w.named .bare :: ws.map fun v => v.named .spaced)
      (List.cons_ne_nil _ _) (by
        rw [List.forall_mem_cons]
        refine ⟨w.quotes, fun m hm => ?_⟩
        obtain ⟨v, -, rfl⟩ := List.mem_map.1 hm
        exact v.quotes) (by
        rw [List.forall_mem_cons]
        refine ⟨w.item.denotes, fun m hm => ?_⟩
        obtain ⟨v, -, rfl⟩ := List.mem_map.1 hm
        exact v.item.denotes)
    have texts : ws.map ((·.member.text) ∘ fun v => v.named .spaced) =
        ws.map ((' ' :: ·) ∘ Written.text) := List.map_congr_left fun v _ => v.spaced_text
    rw [List.map_cons, List.map_map, texts, w.bare_text, List.map_cons, List.map_map] at members
    rw [List.map_cons, separated_cons, List.map_map]
    exact members

/-! Values whose numbers are finite. -/

lemma toString_of_text? {n : Int} {t : String} (h : Numeral.text? n = some t) : t = toString n := by
  unfold Numeral.text? at h
  generalize Numeral.textBound = bound at h
  split_ifs at h
  exact (Option.some.inj h).symm

lemma denotes_int (n : Int) : Denotes (toString n).toList (.int n) := by
  have value (m : Nat) : Nat.ofDigitChars 10 (toString m).toList 0 = m := by
    have text : (toString m).toList = Nat.toDigits 10 m := Nat.toList_repr
    rw [text, Nat.ofDigitChars_ten_toDigits]
  cases n with
  | ofNat n =>
    have integer := Denotes.integer (integral_toString n)
    rwa [value] at integer
  | negSucc n =>
    have text : (toString (Int.negSucc n)).toList = '-' :: (toString (n + 1)).toList :=
      String.toList_append
    have negative := Denotes.negative (integral_toString (n + 1))
    rw [value] at negative
    rwa [text]

mutual

theorem denotes_chars? {j : Json} {cs : List Char} (hc : j.chars? = some cs)
    (hf : ∀ x ∈ j.floats, x.isFinite) : Denotes cs j.seen := by
  cases j with
  | null =>
    cases hc
    exact .null
  | bool b =>
    cases hc
    cases b with
    | true => exact .true
    | false => exact .false
  | int n =>
    rw [chars?] at hc
    obtain ⟨t, ht, rfl⟩ := Option.map_eq_some_iff.1 hc
    rw [toString_of_text? ht]
    exact denotes_int n
  | float x =>
    cases hc
    have finite := hf x List.mem_cons_self
    exact .decimal (isNumber_float finite) (marked_float finite)
  | str s =>
    cases hc
    exact .string (quotes_stringChars s)
  | arr items =>
    rw [chars?] at hc
    obtain ⟨ps, hp, rfl⟩ := Option.map_eq_some_iff.1 hc
    obtain ⟨ws, rfl, values⟩ := items_itemChars? hp hf
    rw [seen, values]
    exact denotes_array ws
  | obj members =>
    rw [chars?] at hc
    obtain ⟨ps, hp, rfl⟩ := Option.map_eq_some_iff.1 hc
    obtain ⟨ws, rfl, values⟩ := written_memberChars? hp hf
    rw [seen, values]
    exact denotes_object ws

lemma items_itemChars? {js : List Json} {ps : List (List Char)} (hc : itemChars? js = some ps)
    (hf : ∀ x ∈ itemFloats js, x.isFinite) :
    ∃ ws : List Item, ps = ws.map Item.text ∧ seenItems js = ws.map Item.value := by
  cases js with
  | nil =>
    cases hc
    exact ⟨[], rfl, rfl⟩
  | cons j js =>
    obtain ⟨p, hp, hc⟩ := Option.bind_eq_some_iff.1 hc
    obtain ⟨qs, hq, hc⟩ := Option.bind_eq_some_iff.1 hc
    cases hc
    rw [itemFloats, List.forall_mem_append] at hf
    obtain ⟨ws, rfl, values⟩ := items_itemChars? hq hf.2
    exact ⟨⟨p, j.seen, denotes_chars? hp hf.1⟩ :: ws, rfl, by rw [seenItems, values]; rfl⟩

lemma written_memberChars? {ms : List (String × Json)} {ps : List (List Char)}
    (hc : memberChars? ms = some ps) (hf : ∀ x ∈ memberFloats ms, x.isFinite) :
    ∃ ws : List Written, ps = ws.map Written.text ∧
      seenMembers ms = ws.map fun w => (w.points, w.item.value) := by
  match ms with
  | [] =>
    cases hc
    exact ⟨[], rfl, rfl⟩
  | (name, j) :: ms =>
    obtain ⟨p, hp, hc⟩ := Option.bind_eq_some_iff.1 hc
    obtain ⟨qs, hq, hc⟩ := Option.bind_eq_some_iff.1 hc
    cases hc
    rw [memberFloats, List.forall_mem_append] at hf
    obtain ⟨ws, rfl, values⟩ := written_memberChars? hq hf.2
    exact ⟨⟨stringChars name, points name, ⟨p, j.seen, denotes_chars? hp hf.1⟩,
      quotes_name name⟩ :: ws, rfl, by rw [seenMembers, values]; rfl⟩

end

/-! Values with a number that is not finite. -/

def Stops (t : List Char) : Prop :=
  t.foldl scan (some .outside) = none

lemma foldl_scan_none (t : List Char) : t.foldl scan none = none := by
  induction t with
  | nil => rfl
  | cons c t ih => exact ih

lemma Stops.append {s : List Char} (h : Stops s) (t : List Char) : Stops (s ++ t) := by
  rw [Stops, List.foldl_append, h, foldl_scan_none]

lemma Passes.append_stops {s t : List Char} (hs : Passes s) (ht : Stops t) : Stops (s ++ t) := by
  rw [Stops, List.foldl_append, hs, ht]

lemma stops_separated {p : List Char} {ps : List (List Char)}
    (h : Stops p ∨ Passes p ∧ Stops (separated ps)) : Stops (separated (p :: ps)) := by
  cases ps with
  | nil =>
    obtain h | ⟨-, h⟩ := h
    · exact h
    · cases h
  | cons q ps =>
    obtain h | ⟨hp, h⟩ := h
    · exact h.append _
    · exact hp.append_stops (Passes.append_stops (s := [',', ' ']) rfl h)

mutual

lemma stops_chars? {j : Json} {cs : List Char} (hc : j.chars? = some cs)
    (hf : ¬ ∀ x ∈ j.floats, x.isFinite) : Stops cs := by
  cases j with
  | null | bool b | int n | str s => simp [floats] at hf
  | float x =>
    cases hc
    simp only [floats, List.mem_singleton, forall_eq] at hf
    exact scan_float hf
  | arr items =>
    rw [chars?] at hc
    obtain ⟨ps, hp, rfl⟩ := Option.map_eq_some_iff.1 hc
    exact Passes.append_stops (s := ['[']) rfl ((stops_itemChars? hp hf).append _)
  | obj members =>
    rw [chars?] at hc
    obtain ⟨ps, hp, rfl⟩ := Option.map_eq_some_iff.1 hc
    exact Passes.append_stops (s := ['\x7b']) rfl ((stops_memberChars? hp hf).append _)

lemma stops_itemChars? {js : List Json} {ps : List (List Char)} (hc : itemChars? js = some ps)
    (hf : ¬ ∀ x ∈ itemFloats js, x.isFinite) : Stops (separated ps) := by
  cases js with
  | nil => simp [itemFloats] at hf
  | cons j js =>
    obtain ⟨p, hp, hc⟩ := Option.bind_eq_some_iff.1 hc
    obtain ⟨qs, hq, hc⟩ := Option.bind_eq_some_iff.1 hc
    cases hc
    rw [itemFloats, List.forall_mem_append, not_and] at hf
    apply stops_separated
    by_cases first : ∀ x ∈ j.floats, x.isFinite
    · have value := isValue_of_denotes (denotes_chars? hp first)
      exact .inr ⟨passes_value value, stops_itemChars? hq (hf first)⟩
    · exact .inl (stops_chars? hp first)

lemma stops_memberChars? {ms : List (String × Json)} {ps : List (List Char)}
    (hc : memberChars? ms = some ps) (hf : ¬ ∀ x ∈ memberFloats ms, x.isFinite) :
    Stops (separated ps) := by
  match ms with
  | [] => simp [memberFloats] at hf
  | (name, j) :: ms =>
    obtain ⟨p, hp, hc⟩ := Option.bind_eq_some_iff.1 hc
    obtain ⟨qs, hq, hc⟩ := Option.bind_eq_some_iff.1 hc
    cases hc
    rw [memberFloats, List.forall_mem_append, not_and] at hf
    have front : Passes (stringChars name) :=
      passes_string (isString_of_quotes (quotes_name name))
    have colon : Passes [':', ' '] := rfl
    apply stops_separated
    by_cases first : ∀ x ∈ j.floats, x.isFinite
    · refine .inr ⟨front.append (colon.append ?_), stops_memberChars? hq (hf first)⟩
      exact passes_value (isValue_of_denotes (denotes_chars? hp first))
    · exact .inl (front.append_stops (colon.append_stops (stops_chars? hp first)))

end

lemma isText_of_isValue {t : List Char} (h : IsValue t) : IsText t :=
  ⟨.bare t, h, (bare_text t).symm⟩

theorem isText_chars?_iff {j : Json} {cs : List Char} (hc : j.chars? = some cs) :
    IsText cs ↔ ∀ x ∈ j.floats, x.isFinite := by
  constructor
  · intro h
    by_contra hf
    have stop := stops_chars? hc hf
    rw [Stops, passes_of_isText h] at stop
    cases stop
  · exact fun hf => isText_of_isValue (isValue_of_denotes (denotes_chars? hc hf))

end Telematics.Json
