import Telematics.Proofs.Check
import Telematics.Proofs.Position.Token

/-! When a record is refused, and for which field. -/

namespace Telematics

open Sentence Sentence.Draft Grammar Pattern Text

namespace Timestamp

def IsDate (year month day hour minute second : Nat) : Prop :=
  ∃ t : Timestamp, t.year = year ∧ t.month = month ∧ t.day = day ∧ t.hour = hour ∧
    t.minute = minute ∧ t.second = second

lemma ofParts_ok_iff {year month day hour minute second : Nat} :
    (∃ t, ofParts year month day hour minute second = .ok t) ↔
      IsDate year month day hour minute second := by
  constructor
  · rintro ⟨t, h⟩
    unfold ofParts at h
    split_ifs at h with hy hm hd hh hi hs
    simp only [Int.toNat_natCast] at hd
    exact ⟨⟨year, month, day, hour, minute, second, 0, by omega, by omega, by omega, by omega,
      by omega, by omega, by omega⟩, rfl, rfl, rfl, rfl, rfl, rfl⟩
  · rintro ⟨t, rfl, rfl, rfl, rfl, rfl, rfl⟩
    have hy := t.year_mem
    have hm := t.month_mem
    have hd := t.day_mem
    have hh := t.hour_lt
    have hi := t.minute_lt
    have hs := t.second_lt
    unfold ofParts
    simp only [Int.toNat_natCast]
    rw [dif_pos (by omega), dif_pos (by omega), dif_pos (by omega), dif_pos (by omega),
      dif_pos (by omega), dif_pos (by omega)]
    exact ⟨_, rfl⟩

end Timestamp

namespace Field

variable {α : Type} {name : String}

def names (e : ConversionError) (name : String) : Prop :=
  e.field = name

def timeNames (e : TimeError) (name : String) : Prop :=
  ∃ c, e = .conversion c ∧ c.field = name

lemma obeys_conversion {x : Result α} {c : Checks} (h : Obeys names x c) :
    Obeys timeNames (x.mapError .conversion) c :=
  h.mapError fun e _ he => ⟨e, rfl, he⟩

def Long (token : Slot) : Prop :=
  ∃ t ∈ token, Numeral.digitLimit < t.length

lemma long_shown {t : List Char} : Long (shown t) ↔ Numeral.digitLimit < t.length := by
  simp [Long, shown]

lemma obeys_digits (name : String) (x : Token digits) :
    Obeys names (integer name (shown x.1)) [(name, Long (shown x.1))] := by
  apply Obeys.of_cases
  rw [long_shown, integer_digits]
  split_ifs with h
  · exact .inr ⟨⟨_, rfl, rfl⟩, h⟩
  · exact .inl ⟨⟨_, rfl⟩, h⟩

/-- A token that is no decimal number, since it has a letter or too many digits. -/
def NoDecimal (token : String) : Prop :=
  (∃ c ∈ token.toList, c.isAlpha) ∨ Numeral.digitLimit < token.length

lemma obeys_hex (name : String) (x : Token (several isHexDigit)) :
    Obeys names (integer name (some (String.ofList x.1)))
      [(name, NoDecimal (String.ofList x.1))] := by
  apply Obeys.of_cases
  rw [NoDecimal, String.toList_ofList, String.length_ofList]
  obtain ⟨h, hn⟩ | ⟨h, hn⟩ := integer_hex name x
  · exact .inl ⟨h, hn⟩
  · exact .inr ⟨⟨_, h, rfl⟩, hn⟩

def Above (limit : Nat) (token : Slot) : Prop :=
  ∃ t ∈ token, ∃ x ∈ Binary64.ofText? t, x.exceeds limit

lemma not_above {limit : Nat} {token : Slot}
    (h : (token.bind Binary64.ofText?).all fun x => !x.exceeds limit) : ¬ Above limit token := by
  rintro ⟨t, rfl, x, hx, above⟩
  rw [Option.bind_some, hx, Option.all_some, above] at h
  cases h

lemma obeys_degrees (name negative : String) (limit : Nat) (x : Token fraction) (letter : Slot) :
    Obeys names (degrees name negative limit (shown x.1) letter)
      [(name, Above limit (shown x.1))] := by
  obtain ⟨y, read⟩ : ∃ y, Binary64.ofText? (String.ofList x.1) = some y := by
    obtain ⟨step, read, -⟩ := decimal_token ⟨x.1, decimal_of_fraction x.2⟩
    exact ⟨_, read⟩
  have above : Above limit (shown x.1) ↔ y.exceeds limit := by
    simp [Above, shown, read]
  have converted : decimal name (shown x.1) = .ok y := by
    rw [decimal, convert_some, read]
  apply Obeys.of_cases
  rw [above, degrees, converted]
  cases h : y.exceeds limit with
  | true => exact .inr ⟨⟨_, if_pos h, rfl⟩, rfl⟩
  | false =>
    refine .inl ⟨?_, Bool.false_ne_true⟩
    rw [← Bool.not_eq_true] at h
    by_cases hl : letter = some negative
    · exact ⟨_, (if_neg h).trans (if_pos hl)⟩
    · exact ⟨_, (if_neg h).trans (if_neg hl)⟩

lemma obeys_decimal (name : String) (x : Token Grammar.decimal) :
    Obeys names (decimal name (shown x.1)) [] := by
  obtain ⟨step, h⟩ := decimal_decimal name x
  exact .of_ok ⟨_, h⟩

lemma obeys_fraction (name : String) (x : Token fraction) :
    Obeys names (decimal name (shown x.1)) [] :=
  obeys_decimal name ⟨x.1, decimal_of_fraction x.2⟩

lemma obeys_flag (name : String) (x : Token bit) : Obeys names (flag name (shown x.1)) [] :=
  .of_ok ⟨_, flag_bit name x⟩

/-! Date and time. -/

def number (token : Slot) : Nat :=
  Numeral.value (token.getD "").toList

def yearNumber (token : Slot) : Nat :=
  if (token.getD "").length = 2 then 2000 + number token else number token

lemma number_shown (t : List Char) : number (shown t) = Numeral.value t := by
  rw [number, shown, Option.getD_some, String.toList_ofList]

lemma fullYear_number (token : Slot) : fullYear token (number token : Int) = yearNumber token := by
  rw [fullYear, yearNumber]
  split_ifs <;> omega

structure IsPart (name : String) (token : Slot) : Prop where
  eq : part name token = .ok (number token : Int)
  brief : Brief token

lemma isPart_fixedDigits {n : Nat} (hn : 0 < n ∧ n ≤ 4) (name : String)
    (x : Token (fixedDigits n)) : IsPart name (shown x.1) where
  eq := by
    have few : n ≤ Numeral.digitLimit := hn.2.trans (by decide)
    rw [part, integer_fixedDigits ⟨hn.1, few⟩, number_shown]
    rfl
  brief := brief_of_fixedDigits hn.2 x

lemma isPart_year (x : Token (fixedDigits 4 <|> fixedDigits 2)) : IsPart "year" (shown x.1) := by
  obtain ⟨t, h⟩ := x
  obtain ⟨w, h, -⟩ | ⟨w, h, -⟩ := matches_alt.1 h
  · obtain rfl := h.nil_of_width rfl
    exact isPart_fixedDigits (by decide) "year" ⟨t, h⟩
  · obtain rfl := h.nil_of_width rfl
    exact isPart_fixedDigits (by decide) "year" ⟨t, h⟩

lemma IsPart.lt {token : Slot} (h : IsPart name token) : number token < 10000 := by
  have hn := natAbs_lt_of_part h.brief h.eq
  omega

def timeText (day month year hour minute second : Slot) : String :=
  String.join ([day, month, year, some " ", hour, minute, second].map (·.getD ""))

def ofDefect (text : String) (defect : Timestamp.Defect) : TimeError :=
  .conversion ⟨"time", some text, some (.calendar defect)⟩

lemma IsPart.fits {token : Slot} (h : IsPart name token) : fitsWord (number token : Int) := by
  have hlt := h.lt
  exact fitsWord_of_lt (by omega)

lemma time_eq_ofParts {day month year hour minute second : Slot} (hy : IsPart "year" year)
    (hmo : IsPart "month" month) (hd : IsPart "day" day) (hh : IsPart "hour" hour)
    (hmi : IsPart "minute" minute) (hs : IsPart "second" second) :
    time day month year hour minute second =
      (Timestamp.ofParts (yearNumber year) (number month) (number day) (number hour)
        (number minute) (number second)).mapError
          (ofDefect (timeText day month year hour minute second)) := by
  have fits : [fullYear year (number year : Int), (number month : Int), (number day : Int),
      (number hour : Int), (number minute : Int), (number second : Int)].all fitsWord := by
    have hlt := hy.lt
    have full : fitsWord (fullYear year (number year : Int)) := fitsWord_fullYear (by omega)
    simp [full, hmo.fits, hd.fits, hh.fits, hmi.fits, hs.fits]
  rw [time, hy.eq, hmo.eq, hd.eq, hh.eq, hmi.eq, hs.eq]
  refine (if_pos fits).trans ?_
  rw [fullYear_number]
  cases Timestamp.ofParts (yearNumber year : Int) (number month : Int) (number day : Int)
      (number hour : Int) (number minute : Int) (number second : Int) with
  | ok t => rfl
  | error defect => rfl

lemma obeys_time {day month year hour minute second : Slot} (hy : IsPart "year" year)
    (hmo : IsPart "month" month) (hd : IsPart "day" day) (hh : IsPart "hour" hour)
    (hmi : IsPart "minute" minute) (hs : IsPart "second" second) :
    Obeys timeNames (time day month year hour minute second)
      [("time", ¬ Timestamp.IsDate (yearNumber year) (number month) (number day) (number hour)
        (number minute) (number second))] := by
  apply Obeys.of_cases
  rw [time_eq_ofParts hy hmo hd hh hmi hs, ← Timestamp.ofParts_ok_iff]
  cases Timestamp.ofParts (yearNumber year : Int) (number month : Int) (number day : Int)
      (number hour : Int) (number minute : Int) (number second : Int) with
  | ok t => exact .inl ⟨⟨t, rfl⟩, by simp⟩
  | error defect => exact .inr ⟨⟨_, rfl, _, rfl, rfl⟩, by simp⟩

end Field

namespace Network

open Telematics.Field

def checks : List String → Checks
  | signal :: mcc :: mnc :: _ =>
    [("mcc", NoDecimal mcc), ("mnc", NoDecimal mnc), ("signal", NoDecimal signal)]
  | _ => []

lemma obeys_servingTower (signal mcc mnc lac cid : Token (several isHexDigit)) :
    Obeys names (servingTower (String.ofList signal.1) (String.ofList mcc.1) (String.ofList mnc.1)
        (String.ofList lac.1) (String.ofList cid.1))
      [("mcc", NoDecimal (String.ofList mcc.1)), ("mnc", NoDecimal (String.ofList mnc.1)),
        ("signal", NoDecimal (String.ofList signal.1))] := by
  refine (obeys_hex "mcc" mcc).bind fun country _ => ?_
  refine (obeys_hex "mnc" mnc).bind fun network _ => ?_
  refine (Obeys.of_ok ⟨_, hexadecimal_group "lac" lac⟩).bind fun area _ => ?_
  refine (Obeys.of_ok ⟨_, hexadecimal_group "cid" cid⟩).bind fun cell _ => ?_
  exact (obeys_hex "signal" signal).bind_pure fun strength _ => .pure _

def IsSignedHex (s : String) : Prop :=
  ∃ x : Token (Pattern.optional (literal '-') ++ several isHexDigit), s = String.ofList x.1

lemma neighborTower_ok (serving : Tower) {lac cid : String} (hl : IsSignedHex lac)
    (hc : IsSignedHex cid) : ∃ o, neighborTower serving lac cid = .ok o := by
  obtain ⟨l, rfl⟩ := hl
  obtain ⟨c, rfl⟩ := hc
  obtain ⟨area, ha⟩ := hexadecimal_signedGroup "lac" l
  obtain ⟨cell, hc⟩ := hexadecimal_signedGroup "cid" c
  by_cases h : 0 < area ∧ 0 < cell
  · exact ⟨_, bind_eq_ok.2 ⟨area, ha, bind_eq_ok.2 ⟨cell, hc, if_pos h⟩⟩⟩
  · exact ⟨_, bind_eq_ok.2 ⟨area, ha, bind_eq_ok.2 ⟨cell, hc, if_neg h⟩⟩⟩

lemma mem_of_neighborTokens {tokens : List String} :
    ∀ t ∈ neighborTokens tokens, t.1 ∈ tokens ∧ t.2 ∈ tokens := by
  fun_induction neighborTokens tokens with
  | case1 x lac cid r ih =>
    intro t ht
    obtain rfl | ht := List.mem_cons.1 ht
    · simp
    · simp [ih t ht]
  | case2 => simp

lemma mapM_ok {β γ ε : Type} {f : β → Except ε γ} {xs : List β}
    (h : ∀ x ∈ xs, ∃ y, f x = .ok y) : ∃ ys, xs.mapM f = .ok ys := by
  induction xs with
  | nil => exact ⟨[], rfl⟩
  | cons x xs ih =>
    obtain ⟨y, hy⟩ := h x List.mem_cons_self
    obtain ⟨ys, hys⟩ := ih fun z hz => h z (List.mem_cons_of_mem x hz)
    refine ⟨y :: ys, ?_⟩
    rw [List.mapM_cons, hy, hys]
    rfl

lemma obeys_ofTokens (c : Draft.Cells) :
    Obeys names (ofTokens (c.groups.map String.ofList)) (checks (c.groups.map String.ofList)) := by
  have signed : ∀ s ∈ (c.neighbors.toList.map (·.1)).map String.ofList, IsSignedHex s := by
    intro s hs
    obtain ⟨t, ht, rfl⟩ := List.mem_map.1 hs
    obtain ⟨x, -, rfl⟩ := List.mem_map.1 ht
    exact ⟨x, rfl⟩
  have count : ((c.neighbors.toList.map (·.1)).map String.ofList).length = 12 := by simp
  match hs : c.serving.toList, c.serving.length_toList with
  | [signal, mcc, mnc, lac, cid], _ =>
    rw [Draft.Cells.groups, hs, List.map_append]
    simp only [List.map_cons, List.map_nil, List.cons_append, List.nil_append]
    generalize (c.neighbors.toList.map (·.1)).map String.ofList = others at signed count
    have whole : (String.ofList signal.1 :: String.ofList mcc.1 :: String.ofList mnc.1 ::
        String.ofList lac.1 :: String.ofList cid.1 :: others).length = tokenCount := by
      simp [count, tokenCount]
    have neighbors (tower : Tower) : ∃ slots, (neighborTokens others).mapM
        (fun t => neighborTower tower t.1 t.2) = .ok slots := by
      apply mapM_ok
      intro t ht
      obtain ⟨hl, hc⟩ := mem_of_neighborTokens t ht
      exact neighborTower_ok tower (signed _ hl) (signed _ hc)
    rw [ofTokens, if_pos whole]
    refine (obeys_servingTower signal mcc mnc lac cid).bind_pure fun tower _ => ?_
    exact (Obeys.of_ok (neighbors tower)).bind_pure fun slots _ => .pure _

end Network

namespace Position

open Telematics.Field

def headerChecks : Sentence.Header → Checks
  | .telemetry _ event _ => [("event", Long event)]
  | .kind _ => []

def blockChecks : Option Sentence.Extended → Checks
  | some e => Network.checks e.cells
  | none => []

def trailerChecks : Sentence.Trailer → Checks
  | .rich _ _ satellites e => ("satellites", Long satellites) :: blockChecks e
  | .simple _ _ => []

def HasDate (r : Report) : Prop :=
  Timestamp.IsDate (yearNumber r.year) (number r.month) (number r.day) (number r.hour)
    (number r.minute) (number r.second)

def checks (r : Report) : Checks :=
  headerChecks r.header ++ [("time", ¬ HasDate r), ("latitude", Above 90 r.latitude.1),
    ("longitude", Above 180 r.longitude.1)] ++ trailerChecks r.trailer

variable {p : Position}

lemma obeys_withHeader (h : Draft.Header) :
    Obeys names (p.withHeader h.report) (headerChecks h.report) := by
  cases h with
  | telemetry vendor firmware status event history =>
    exact (obeys_digits "event" event).bind_pure fun n _ => .pure _
  | kind name => exact .pure _

lemma obeys_withValidity (i : Draft.Identity) (letter : Slot) :
    Obeys names (p.withValidity i.report letter) [] := by
  apply Obeys.of_ok
  cases i with
  | status code => exact ⟨_, rfl⟩
  | validity registration digit =>
    rw [Identity.report, withValidity, integer_bit]
    exact ⟨_, rfl⟩

lemma obeys_withAnalog (a : Option Draft.Analog) :
    Obeys names (p.withAnalog (a.map Draft.Analog.report)) [] := by
  cases a with
  | none => exact .pure _
  | some a =>
    refine (obeys_fraction "adc1" a.first).bind fun first _ => ?_
    exact (obeys_fraction "adc2" a.second).bind_pure fun second _ => .pure _

lemma obeys_withExtended (e : Draft.Extended) :
    Obeys names (p.withExtended e.report) (Network.checks e.report.cells) := by
  refine (obeys_decimal "altitude" e.altitude).bind fun altitude _ => ?_
  refine (obeys_flag "ignition" e.ignition).bind fun ignition _ => ?_
  refine (obeys_flag "charge" e.charge).bind fun charge _ => ?_
  refine (obeys_decimal "power" e.power).bind fun power _ => ?_
  refine (obeys_decimal "battery" e.battery).bind fun battery _ => ?_
  refine (obeys_flag "emergency" e.emergency).bind fun emergency _ => ?_
  refine (Network.obeys_ofTokens e.cells).bind_pure fun network _ => ?_
  refine (Obeys.of_ok ⟨_, binary_bits (by decide) "input" e.inputs⟩).bind fun input _ => ?_
  refine (Obeys.of_ok ⟨_, binary_bits (by decide) "output" e.outputs⟩).bind fun output _ => ?_
  exact obeys_withAnalog e.analog

lemma obeys_withTrailer (t : Draft.Trailer) :
    Obeys names (p.withTrailer t.report) (trailerChecks t.report) := by
  cases t with
  | rich speed course satellites e =>
    refine (obeys_decimal "speed" speed).bind fun kph _ => ?_
    refine (obeys_decimal "course" course).bind fun course _ => ?_
    refine (obeys_digits "satellites" satellites).bind fun count _ => ?_
    cases e with
    | none => exact .pure _
    | some e => exact obeys_withExtended e
  | simple altitude speed =>
    refine (Obeys.of_ok ?_).bind fun altitude _ => ?_
    · obtain ⟨negative, step, h⟩ := decimal_signed "altitude" altitude
      exact ⟨_, h⟩
    · exact (obeys_fraction "speed" speed).bind_pure fun kph _ => .pure _

lemma obeys_ofReport (n : Int) (d : Draft) :
    Obeys timeNames (ofReport n d.report) (checks d.report) := by
  have date : Obeys timeNames (Field.time d.report.day d.report.month d.report.year d.report.hour
      d.report.minute d.report.second) [("time", ¬ HasDate d.report)] := by
    apply obeys_time
    · exact isPart_year d.remainder.date.year
    · exact isPart_fixedDigits (by decide) "month" d.remainder.date.month
    · exact isPart_fixedDigits (by decide) "day" d.remainder.date.day
    · exact isPart_fixedDigits (by decide) "hour" d.remainder.clock.hour
    · exact isPart_fixedDigits (by decide) "minute" d.remainder.clock.minute
    · exact isPart_fixedDigits (by decide) "second" d.remainder.clock.second
  rw [checks, List.append_assoc]
  refine (obeys_conversion (obeys_withHeader d.header)).bind fun p _ => ?_
  refine (obeys_conversion (obeys_withValidity d.identity _)).bind fun p _ => ?_
  refine date.bind fun t _ => ?_
  refine (obeys_conversion (obeys_degrees _ _ _ d.remainder.fix.latitude _)).bind fun y _ => ?_
  refine (obeys_conversion (obeys_degrees _ _ _ d.remainder.fix.longitude _)).bind fun x _ => ?_
  exact obeys_conversion (obeys_withTrailer d.remainder.trailer)

end Position

end Telematics
