import Telematics.Proofs.Sentence.RoundTrip

namespace Telematics.Sentence

namespace Pattern

variable {p q : Pattern} {s t u : List Char} {c : Char}

def EndsWith (p : Pattern) (c : Char) : Prop :=
  ∀ ⦃v t⦄, p.Matches v t → ∃ u, t = u ++ [c]

namespace EndsWith

lemma seq (hq : q.EndsWith c) (p : Pattern) : (p ++ q).EndsWith c := by
  intro v t h
  obtain ⟨_, _, t₁, _, -, h₂, -, rfl⟩ := matches_seq.1 h
  obtain ⟨u, rfl⟩ := hq h₂
  exact ⟨t₁ ++ u, (List.append_assoc _ _ _).symm⟩

lemma alt (hp : p.EndsWith c) (hq : q.EndsWith c) : (p <|> q).EndsWith c := by
  intro v t h
  obtain ⟨_, h, -⟩ | ⟨_, h, -⟩ := matches_alt.1 h
  · exact hp h
  · exact hq h

lemma append_optional (hp : p.EndsWith c) (hq : q.EndsWith c) :
    (p ++ optional q).EndsWith c := by
  intro v t h
  obtain ⟨_, _, t₁, _, h₁, h₂, -, rfl⟩ := matches_seq.1 h
  obtain ⟨_, h₂, -⟩ | ⟨_, h₂, -⟩ := matches_alt.1 h₂
  · obtain ⟨u, rfl⟩ := hq h₂
    exact ⟨t₁ ++ u, (List.append_assoc _ _ _).symm⟩
  · obtain ⟨-, rfl⟩ := matches_empty.1 h₂
    rw [List.append_nil]
    exact hp h₁

end EndsWith

lemma prefix_append_iff (ht : c ∉ t) : u ++ [c] <+: s ++ t ↔ u ++ [c] <+: s := by
  constructor
  · rintro ⟨r, h⟩
    rw [List.append_eq_append_iff] at h
    obtain ⟨m, hs, -⟩ | ⟨m, hu, rfl⟩ := h
    · exact ⟨m, hs.symm⟩
    · -- the last character is not in the text behind, so nothing of that text is in front of it
      obtain rfl | ⟨m, d, rfl⟩ := List.eq_nil_or_concat' m
      · exact ⟨[], by rw [hu, List.append_nil, List.append_nil]⟩
      · rw [← List.append_assoc] at hu
        obtain ⟨-, hd⟩ := List.append_inj' hu rfl
        obtain rfl := List.singleton_inj.1 hd
        simp at ht
  · exact fun h => h.trans (List.prefix_append s t)

lemma EndsWith.starts_append (hp : p.EndsWith c) (ht : c ∉ t) :
    p.Starts (s ++ t) ↔ p.Starts s := by
  constructor
  · rintro ⟨x, hx, v, hm⟩
    obtain ⟨u, rfl⟩ := hp hm
    exact ⟨_, (prefix_append_iff ht).1 hx, v, hm⟩
  · rintro ⟨x, hx, hm⟩
    exact ⟨x, hx.trans (List.prefix_append s t), hm⟩

end Pattern

namespace Draft

open Grammar Pattern

variable {k t : List Char}

lemma endsWith_comma : comma.EndsWith ',' := by
  intro v t h
  obtain ⟨-, rfl⟩ := matches_comma.1 h
  exact ⟨[], rfl⟩

lemma endsWith_kept (p : Pattern) : (kept p).EndsWith ',' :=
  endsWith_comma.seq (slot p)

lemma endsWith_analog : analog.EndsWith ',' :=
  (endsWith_kept fraction).seq _

lemma endsWith_extended : extended.EndsWith ',' :=
  ((endsWith_kept (times 2 bit)).seq _).append_optional endsWith_analog

lemma endsWith_trailer : trailer.EndsWith ',' :=
  (((endsWith_kept digits).seq _).append_optional endsWith_extended).alt
    ((endsWith_kept fraction).seq _)

lemma endsWith_sentence : sentence.EndsWith ',' :=
  endsWith_trailer.seq _

lemma Trailer.Ends.append {b : Trailer} (h : b.Ends k) (ht : ',' ∉ t) : b.Ends (k ++ t) := by
  cases b with
  | simple altitude speed =>
    exact fun unsigned => mt ((endsWith_kept digits).starts_append ht).1 (h unsigned)
  | rich speed course satellites e =>
    cases e with
    | none => exact mt (endsWith_extended.starts_append ht).1 h
    | some e => exact fun missing => mt (endsWith_analog.starts_append ht).1 (h missing)

lemma Foremost.append {d : Draft} (h : d.Foremost k) (ht : ',' ∉ t) : d.Foremost (k ++ t) :=
  ⟨h.identity, h.trailer.append ht⟩

end Draft

theorem ofText?_append (s : String) {t : String} (ht : ',' ∉ t.toList) :
    Report.ofText? (s ++ t) = Report.ofText? s := by
  have whole : (s ++ t).toList = s.toList ++ t.toList := String.toList_append
  obtain ⟨h, ho⟩ | ⟨d, rest, hs, hd, ho⟩ := ofText?_cases s
  · rw [ho]
    apply ofText?_of_not_starts
    rwa [whole, Draft.endsWith_sentence.starts_append ht]
  · rw [ho]
    apply (hd.append ht).ofText?_eq
    rw [whole, hs, List.append_assoc]

end Telematics.Sentence
