import Telematics.Proofs.Terminal.Resolver

namespace Telematics.Terminal

open Sentence Sentence.Draft

variable {c : Channel} {registry : Registry} {s x : String}

def inquiry (c : Channel) (registry : Registry) (identifier : String) : List Effect :=
  .lookUp (some c) identifier ::
    (answerEvents c.peer identifier (registry.resolve identifier).2).map .log

/-- What an exchange does when the registry has answered, and its result. -/
inductive Concludes (c : Channel) (registry : Registry) (s x : String) :
    List Effect → Except Failure (Option Position) → Prop
  | refused : registry.number? x = none →
      Concludes c registry s x [.log (.sentenceDropped x)] (.ok none)
  | unconverted (e : ConversionError) :
      (decode (some c) registry s).result = .error (.conversion e) →
      Concludes c registry s x [.log (.decodeFailed c.peer)] (.ok none)
  | published (p : Position) (line : String) :
      (decode (some c) registry s).result = .ok (some p) → p.message? = some line →
      Concludes c registry s x [.publish line] (.ok (some p))
  | unwritable (p : Position) :
      (decode (some c) registry s).result = .ok (some p) → p.message? = none →
      Concludes c registry s x [] (.error .unwritable)

lemma identifier?_of_none (h : Report.ofText? s = .ok none) : identifier? s = none := by
  rw [identifier?, h]
  rfl

lemma identifier?_of_some {r : Report} (h : Report.ofText? s = .ok (some r)) :
    identifier? s = some (r.imei.getD "") := by
  rw [identifier?, h]
  rfl

lemma process_of_not_read (h : Report.ofText? s = .ok none) : process c registry s =
    ⟨registry, greet (some c) s ++ [.log (.notASentence s)], .ok none⟩ := by
  simp only [process, decode, h]

lemma decode_of_read {r : Report} (h : Report.ofText? s = .ok (some r)) :
    decode (some c) registry s =
      ⟨(registry.resolve (r.imei.getD "")).1,
        greet (some c) s ++ (inquiry c registry (r.imei.getD "") ++
          if (registry.number? (r.imei.getD "")).isNone
            then [.log (.sentenceDropped (r.imei.getD ""))] else []),
        recordBy registry.number? s⟩ := by
  rw [← decode_eq_recordBy (some c)]
  simp only [decode, h, locate, Registry.number?, Option.isNone_map]
  cases (registry.resolve (r.imei.getD "")).2.session? with
  | none => rfl
  | some session =>
    simp only [Option.isNone_some, Bool.false_eq_true, if_false, List.append_nil]
    rfl

lemma recordBy_of_unknown {resolve : String → Option Int} {r : Report}
    (h : Report.ofText? s = .ok (some r)) (unknown : resolve (r.imei.getD "") = none) :
    recordBy resolve s = .ok none := by
  simp only [recordBy, h, unknown]

lemma recordBy_of_known {resolve : String → Option Int} {r : Report} {n : Int}
    (h : Report.ofText? s = .ok (some r)) (known : resolve (r.imei.getD "") = some n) :
    recordBy resolve s = ((Position.ofReport n r).mapError Failure.ofTime).map some := by
  simp only [recordBy, h, known]

lemma process_of_read (c : Channel) (registry : Registry) {r : Report}
    (h : Report.ofText? s = .ok (some r)) :
    ∃ rest result, Concludes c registry s (r.imei.getD "") rest result ∧
      process c registry s = ⟨(registry.resolve (r.imei.getD "")).1,
        greet (some c) s ++ (inquiry c registry (r.imei.getD "") ++ rest), result⟩ := by
  have result := decode_eq_recordBy (some c) registry s
  cases hn : registry.number? (r.imei.getD "") with
  | none =>
    refine ⟨_, _, .refused hn, ?_⟩
    simp only [process, decode_of_read h, hn, recordBy_of_unknown h hn, Option.isNone_none,
      if_true]
  | some n =>
    have decoded : decode (some c) registry s =
        ⟨(registry.resolve (r.imei.getD "")).1, greet (some c) s ++
          inquiry c registry (r.imei.getD ""), recordBy registry.number? s⟩ := by
      rw [decode_of_read h, hn, Option.isNone_some, if_neg Bool.false_ne_true, List.append_nil]
    cases hr : recordBy registry.number? s with
    | error failure =>
      rw [hr] at result
      obtain ⟨e, rfl⟩ := decode_error result
      refine ⟨_, _, .unconverted e result, ?_⟩
      simp only [process, decoded, hr, List.append_assoc]
    | ok o =>
      rw [hr] at result
      cases o with
      | none =>
        rw [recordBy_of_known h hn] at hr
        obtain ⟨p, -, hp⟩ := map_eq_ok.1 hr
        cases hp
      | some p =>
        cases hm : p.message? with
        | none =>
          refine ⟨_, _, .unwritable p result hm, ?_⟩
          simp only [process, decoded, hr, hm, List.append_nil]
        | some line =>
          refine ⟨_, _, .published p line result hm, ?_⟩
          simp only [process, decoded, hr, hm, List.append_assoc]

theorem process_conduct (c : Channel) (registry : Registry) (s : String) :
    (Report.ofText? s = .ok none ∧ process c registry s =
      ⟨registry, greet (some c) s ++ [.log (.notASentence s)], .ok none⟩) ∨
    ∃ x rest result, identifier? s = some x ∧ Concludes c registry s x rest result ∧
      process c registry s = ⟨(registry.resolve x).1,
        greet (some c) s ++ (inquiry c registry x ++ rest), result⟩ := by
  obtain ⟨-, ho⟩ | ⟨d, rest, -, -, ho⟩ := ofText?_cases s
  · exact .inl ⟨ho, process_of_not_read ho⟩
  · obtain ⟨rest, result, concludes, same⟩ := process_of_read c registry ho
    exact .inr ⟨_, rest, result, identifier?_of_some ho, concludes, same⟩

end Telematics.Terminal
