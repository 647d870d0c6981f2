import Telematics.Proofs.Field.Time
import Telematics.Proofs.Position.Lossless
import Telematics.Proofs.Position.Shape

namespace Telematics

open Sentence Sentence.Draft

namespace Json

variable {t : List Char} {ts cs : List (List Char)} {ms : List (String × Json)} {name : String}
  {j : Json}

lemma infix_separated (h : t ∈ ts) : t <:+: separated ts := by
  fun_induction separated ts with
  | case1 => cases h
  | case2 p =>
    obtain rfl := List.mem_singleton.1 h
    exact List.infix_rfl
  | case3 p ps _ ih =>
    obtain rfl | h := List.mem_cons.1 h
    · exact List.infix_append' [] t _
    · exact ((ih h).trans (List.suffix_cons ' ' _).isInfix).trans
        ((List.suffix_cons ',' _).trans (List.suffix_append p _)).isInfix

lemma mem_memberChars? (h : memberChars? ms = some ts) (hm : (name, j) ∈ ms) :
    ∃ cs, j.chars? = some cs ∧ stringChars name ++ ':' :: ' ' :: cs ∈ ts := by
  induction ms generalizing ts with
  | nil => cases hm
  | cons m ms ih =>
    obtain ⟨other, k⟩ := m
    obtain ⟨p, hp, h⟩ := Option.bind_eq_some_iff.1 h
    obtain ⟨ps, hps, h⟩ := Option.bind_eq_some_iff.1 h
    obtain rfl := Option.some.inj h
    obtain same | hm := List.mem_cons.1 hm
    · cases same
      exact ⟨p, hp, List.mem_cons_self⟩
    · obtain ⟨cs, hc, mem⟩ := ih hps hm
      exact ⟨cs, hc, List.mem_cons_of_mem _ mem⟩

lemma infix_of_member {cs : List Char} (h : (obj ms).chars? = some cs) (hm : (name, j) ∈ ms) :
    ∃ v, j.chars? = some v ∧ (stringChars name ++ ':' :: ' ' :: v) <:+: cs := by
  rw [chars?, Option.map_eq_some_iff] at h
  obtain ⟨ts, ht, rfl⟩ := h
  obtain ⟨v, hv, mem⟩ := mem_memberChars? ht hm
  refine ⟨v, hv, (infix_separated mem).trans ?_⟩
  exact ⟨['\x7b'], ['\x7d'], rfl⟩

lemma stringChars_of_plain {s : String} (h : ∀ c ∈ s.toList, escape c.toNat = [c]) :
    stringChars s = '\x22' :: s.toList ++ ['\x22'] := by
  have same : (s.toList.map CodePoint.ofChar).flatMap (fun p => escape p.val) =
      s.toList.flatMap fun c => [c] := by
    rw [List.flatMap_map]
    exact List.flatMap_congr h
  rw [stringChars, Points.ofString, same, List.flatMap_singleton']

end Json

namespace Moment

lemma ShownBy.escape {m : Moment} {text : String} (h : m.ShownBy text) :
    ∀ c ∈ text.toList, Json.escape c.toNat = [c] := by
  have digit (c : Char) (hc : c.isDigit) : Json.escape c.toNat = [c] := by
    have ascii : c.toNat < 128 :=
      Nat.lt_of_le_of_lt (Char.isDigit_iff_toNat.1 hc).2 (by decide)
    refine Numeral.forall_ascii (P := fun c => c.isDigit → Json.escape c.toNat = [c]) ?_ c ascii hc
    decide +kernel
  have shown {width k : Nat} {t : List Char} (ht : Shows width k t) :
      ∀ c ∈ t, Json.escape c.toNat = [c] := fun c hc => digit c (ht.digits c hc)
  have offset : ∀ c ∈ "+00:00".toList, Json.escape c.toNat = [c] := by
    have whole : ("+00:00".toList.all fun c => Json.escape c.toNat = [c]) = true := rfl
    simpa using whole
  obtain ⟨y, mo, d, h, mi, s, chars, hy, hmo, hd, hh, hmi, hs⟩ := h
  rw [chars]
  simp only [List.forall_mem_append, List.forall_mem_cons]
  exact ⟨shown hy, by decide, shown hmo, by decide, shown hd, by decide, shown hh, by decide,
    shown hmi, by decide, shown hs, offset⟩

end Moment

namespace Position

open Telematics.Field

variable {p : Position} {n : Int} {t : Timestamp} {date date' : Date} {clock clock' : Clock}

lemma shown_in_message {m : Moment} (hm : m.ShownBy t.isoText) (ht : p.time = some t)
    {line : String} (h : p.message? = some line) :
    ("\"time\": \"" ++ t.isoText ++ "\"").toList <:+: line.toList := by
  have member : ("time", Json.str t.isoText) ∈ p.json.members := by
    simp [json, Json.members, ht, Json.ofOption]
  have written : (Json.obj p.json.members).chars? = some line.toList := chars?_of_message? h
  obtain ⟨v, hv, mem⟩ := Json.infix_of_member written member
  obtain rfl := Option.some.inj hv
  rw [Json.stringChars_of_plain hm.escape] at mem
  rw [String.toList_append, String.toList_append]
  exact mem

open Json in
structure ShowsTime (p : Position) (m : Moment) : Prop where
  time : ∃ h : m.Real, p.time = some (m.timestamp h)
  message : ∃ text, (∀ n : Moment, n.ShownBy text ↔ n = m) ∧ ∀ line, p.message? = some line →
    ("\"time\": \"" ++ text ++ "\"").toList <:+: line.toList ∧
    (p.Finite → ∃ members, Reader.read? line.toList = some (.obj members) ∧
      member? members "time" = some (.str (points text)))

lemma showsTime {m : Moment} (h : m.Real) (ht : p.time = some (m.timestamp h)) :
    p.ShowsTime m := by
  have shown := Moment.shownBy_isoText h
  refine ⟨⟨h, ht⟩, (m.timestamp h).isoText, fun n => ?_, fun line hl => ⟨?_, fun finite => ?_⟩⟩
  · constructor
    · exact fun hn => hn.unique shown
    · rintro rfl
      exact shown
  · exact shown_in_message shown ht hl
  · obtain ⟨members, -, read, tells⟩ := read_message? finite hl
    have told := tells.time
    rw [ht, Json.Value.orNull, shownText, Json.readPoints_ofString] at told
    exact ⟨members, read, told⟩

def undatedChecks (r : Report) : Checks :=
  headerChecks r.header ++ [("latitude", Above 90 r.latitude.1), ("longitude", Above 180 r.longitude.1)] ++
    trailerChecks r.trailer

lemma clear_checks_iff {r : Report} : (checks r).Clear ↔ (undatedChecks r).Clear ∧ HasDate r := by
  simp only [checks, undatedChecks, Checks.Clear, List.forall_mem_append, List.forall_mem_cons, not_not]
  tauto

lemma ofReport_time {d : Draft} (hp : ofReport n d.report = .ok p)
    (ht : timeOf d.remainder.date d.remainder.clock = .ok t) : p.time = some t := by
  simp only [ofReport, bind_eq_ok, mapError_eq_ok] at hp
  obtain ⟨p₁, h₁, p₂, h₂, time, read, latitude, -, longitude, -, hp⟩ := hp
  have same : timeOf d.remainder.date d.remainder.clock = .ok time := read
  rw [ht] at same
  cases same
  have untrailed := (headed_withHeader d.header h₁).2.withStatus
    (effectiveStatus d.report.header d.report.identity)
  obtain ⟨valid, rfl⟩ := withValidity_valid h₂
  obtain ⟨-, passed⟩ := trailed_withTrailer d.remainder.trailer hp { untrailed with }
  simp only [leading, Prod.mk.injEq] at passed
  exact passed.2.2.2.1

end Position

namespace Sentence.Draft

def dated (d : Draft) (date : Date) (clock : Clock) : Draft :=
  { d with remainder := { d.remainder with date, clock } }

end Sentence.Draft

namespace Position

open Telematics.Field

variable {p : Position} {d : Draft} {n : Int} {t : Timestamp} {date date' : Date}
  {clock clock' : Clock}

lemma ofReport_dated (same : timeOf date clock = timeOf date' clock') :
    ofReport n (d.dated date clock).report = ofReport n (d.dated date' clock').report := by
  have read : Field.time (d.dated date clock).report.day (d.dated date clock).report.month
      (d.dated date clock).report.year (d.dated date clock).report.hour
      (d.dated date clock).report.minute (d.dated date clock).report.second =
        timeOf date' clock' := same
  rw [ofReport, read]
  rfl

lemma clear_dated (h : (undatedChecks d.report).Clear) (hr : (momentOf date clock).Real) :
    (checks (d.dated date clock).report).Clear :=
  clear_checks_iff.2 ⟨h, (momentOf date clock).timestamp hr, rfl, rfl, rfl, rfl, rfl, rfl⟩

lemma exists_timed {m : Moment} (n : Int) (h : (undatedChecks d.report).Clear) (hm : m.Real) :
    ∃ p, p.time = some (m.timestamp hm) ∧
      ∀ date clock, momentOf date clock = m → ofReport n (d.dated date clock).report = .ok p := by
  have converted : ∀ date clock, momentOf date clock = m →
      timeOf date clock = .ok (m.timestamp hm) := by
    rintro date clock rfl
    exact timeOf_of_real hm
  obtain ⟨year, -, hy⟩ := exists_year hm
  obtain ⟨date, clock, -, denoted⟩ := exists_written hm year hy ⟨false, false, false, false⟩
  obtain ⟨p, hp⟩ := (obeys_ofReport n (d.dated date clock)).ok (clear_dated h (denoted ▸ hm))
  refine ⟨p, ofReport_time hp (converted date clock denoted), ?_⟩
  intro date' clock' denoted'
  have same := (converted date' clock' denoted').trans (converted date clock denoted).symm
  rw [ofReport_dated same, hp]

end Position

end Telematics
