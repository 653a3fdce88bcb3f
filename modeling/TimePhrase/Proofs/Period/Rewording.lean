import TimePhrase.Proofs.Period.Joined
import TimePhrase.Proofs.Phrase.Clock

namespace TimePhrase

theorem Endpoint.read_of_mem_phrases {t p : Text} (h : p ∈ t.phrases) (now : Moment) :
    Endpoint.read p now = Wording.readFirst p now none Wording.all := by
  rw [Endpoint.read, Text.phrase_of_mem_phrases h]

theorem Endpoints.read_of_single_text {t p : Text} (h : t.phrases = [p]) {now : Moment}
    {es : Endpoints} : Endpoints.read t now = .ok es ↔
      ∃ e, Endpoint.read p now = .ok e ∧ e.text = p ∧ es = ofSingle e.text e now := by
  have hp : p ∈ t.phrases := by
    rw [h]
    exact List.mem_cons_self
  rw [read_of_single h]
  constructor
  · rintro ⟨e, he, rfl⟩
    have htext := Endpoint.text_of_mem_phrases hp he
    exact ⟨e, he, htext, by rw [htext]⟩
  · rintro ⟨e, he, htext, rfl⟩
    exact ⟨e, he, by rw [htext]⟩

namespace Text

/-- What is lower-cased and rewritten once is not changed by doing it again. -/
theorem plainWords_stable (t : Text) :
    t.plainWords.plainWords = t.plainWords ∧
    (∀ p ∈ t.phrases, p.plainWords = p ∧ p.phrase = p ∧
      ∀ now, Endpoint.read p now = Wording.readFirst p now none Wording.all) ∧
    ∀ p, t.phrases = [p] → ∀ now es, Endpoints.read t now = .ok es ↔
      ∃ e, Endpoint.read p now = .ok e ∧ e.text = p ∧ es = .ofSingle e.text e now := by
  refine ⟨t.isPlain_plainWords.plainWords_eq, ?_, fun p hp now es => ?_⟩
  · intro p hp
    exact ⟨(isPlain_of_mem_phrases hp).plainWords_eq, phrase_of_mem_phrases hp,
      Endpoint.read_of_mem_phrases hp⟩
  · exact Endpoints.read_of_single_text hp

theorem plainWords_stable_past_weeks : ∃ e : Endpoint,
    phrases "\t Past 3 wee\u212As\u00A0".toList = ["last 3 week".toList] ∧
      phrase "last 3 week".toList = "last 3 week".toList ∧ e.text = "last 3 week".toList ∧
      Endpoints.read "\t Past 3 wee\u212As\u00A0".toList
          ⟨⟨⟨2024, 5, 15, by decide⟩, ⟨13, 45, 30, 7, by decide⟩⟩, .zone .utc, false⟩ =
        .ok (.ofSingle e.text e
          ⟨⟨⟨2024, 5, 15, by decide⟩, ⟨13, 45, 30, 7, by decide⟩⟩, .zone .utc, false⟩) := by
  have hsingle : phrases "\t Past 3 wee\u212As\u00A0".toList = ["last 3 week".toList] := by
    decide +kernel
  obtain ⟨_, hphrases, hread⟩ := plainWords_stable "\t Past 3 wee\u212As\u00A0".toList
  have hmem : "last 3 week".toList ∈ phrases "\t Past 3 wee\u212As\u00A0".toList := by
    rw [hsingle]
    exact List.mem_cons_self
  refine ⟨⟨"last 3 week".toList, .relative, .week, 3, .backward,
      ⟨⟨⟨2024, 5, 15, by decide⟩, ⟨13, 45, 30, 7, by decide⟩⟩, .zone .utc, false⟩⟩, hsingle,
    (hphrases _ hmem).2.1, rfl, ?_⟩
  exact (hread _ hsingle _ _).mpr ⟨_, by decide +kernel, rfl, rfl⟩

end Text

namespace Endpoint

theorem read_of_relative {t : Text} {now : Moment} {e : Endpoint}
    (h : Wording.relative.read t.phrase now = .ok (some e)) : Endpoint.read t now = .ok e := by
  have hne : Wording.relative.read t.phrase now ≠ .ok none := by
    rw [h]
    exact nofun
  rw [Endpoint.read, Wording.all, Wording.readFirst, Wording.read_of_relative hne (by decide)]
  simp only [Wording.readFirst, h]

/-- A phrase that counts from one moment counts alike from any other, whatever its frame. -/
theorem read_of_counts {t : Text} {now : Moment} {e : Endpoint} (h : Endpoint.read t now = .ok e)
    {d : Direction} (he : e.Counts d) (now' : Moment) :
    Endpoint.read t now' = .ok (e.seenFrom now') := by
  obtain ⟨way, _, hread⟩ := Wording.exists_of_readFirst h
  obtain rfl : way = .relative := (Wording.wording_of_read hread).symm.trans he.1
  apply read_of_relative
  have hseen : Wording.relative.read t.phrase now' =
      (Wording.relative.read t.phrase now).map (·.map (·.seenFrom now')) :=
    Wording.read_seenFrom t.phrase .relative nofun
  rw [hread] at hseen
  exact hseen

theorem wording_ne_relative {t : Text} {now now' : Moment} {e e' : Endpoint}
    (h : Endpoint.read t now = .ok e) (h' : Endpoint.read t now' = .ok e')
    (he : e.wording ≠ .relative) : e'.wording ≠ .relative := by
  intro hrelative
  have hsame := read_of_counts h' (d := e'.direction) ⟨hrelative, rfl⟩ now
  rw [h] at hsame
  cases hsame
  exact he hrelative

theorem find?_now : FixedPhrase.find? "now".toList = some ⟨"now", .second, 0, .forward⟩ := by
  decide +kernel

theorem read_now (now : Moment) : Endpoint.read "now".toList now = .ok (.present now) := by
  have hphrase : Text.phrase "now".toList = "now".toList := by decide +kernel
  have hfound := find?_now
  rw [← hphrase] at hfound
  rw [read_of_find? hfound, hphrase]
  rfl

end Endpoint

namespace Endpoints

section Relative

variable {p : Text} {m : Moment} {e : Endpoint} (h : Endpoint.read p m = .ok e) (c : Moment)
include h

theorem read_of_backward (he : e.Counts .backward) :
    Endpoints.read p c = Endpoints.read (p ++ joiner.toList ++ "now".toList) c := by
  have hc := Endpoint.read_of_counts h he c
  have hcounts : (e.seenFrom c).Counts .backward := he
  rw [read_of_read hc, ofSingle_of_counts hc hcounts,
    read_of_joined hc (Endpoint.read_now c) (by decide)]

theorem read_of_forward (he : e.Counts .forward) :
    Endpoints.read p c = Endpoints.read ("now".toList ++ joiner.toList ++ p) c := by
  have hc := Endpoint.read_of_counts h he c
  have hcounts : (e.seenFrom c).Counts .forward := he
  rw [read_of_read hc, ofSingle_of_counts hc hcounts,
    read_of_joined (Endpoint.read_now c) hc (by decide)]

theorem read_of_other (he : e.wording ≠ .relative) :
    Endpoints.read p c = Endpoints.read (p ++ joiner.toList ++ p) c := by
  have hto := Endpoint.to_not_mem_words h
  rw [read, Text.phrases_of_single hto, read, Text.phrases_of_joined hto hto (by decide)]
  simp only [Endpoint.read_phrase]
  cases hc : Endpoint.read p c with
  | error x => rfl
  | ok e' =>
    have hsingle : ofSingle p.phrase e' c = ⟨e', e'⟩ :=
      if_neg (Endpoint.wording_ne_relative h hc he)
    exact congrArg Except.ok hsingle

end Relative

end Endpoints

namespace Period

theorem read_congr {t t' : Text} (h : ∀ c, Endpoints.read t c = Endpoints.read t' c) (w : Week)
    (z : Zone) (now : Moment) : Period.read t w z now = Period.read t' w z now := by
  simp only [Period.read, h]

/-- A phrase alone stands for two: itself twice, or itself and the present. -/
theorem read_shorthand {p : Text} {m : Moment} {e : Endpoint} (h : Endpoint.read p m = .ok e)
    (w : Week) (z : Zone) (now : Moment) :
    (e.wording = .relative → e.direction = .backward →
      Period.read p w z now = Period.read (p ++ " to ".toList ++ "now".toList) w z now) ∧
    (e.wording = .relative → e.direction = .forward →
      Period.read p w z now = Period.read ("now".toList ++ " to ".toList ++ p) w z now) ∧
    (e.wording ≠ .relative →
      Period.read p w z now = Period.read (p ++ " to ".toList ++ p) w z now) ∧
    p.phrases = [p.phrase] ∧
    (e.wording = .relative → Direction.leading? p.phrase = some e.direction) ∧
    FixedPhrase.read? "now".toList now = some (.present now) := by
  refine ⟨?_, ?_, ?_, Text.phrases_of_single (Endpoint.to_not_mem_words h), ?_, ?_⟩
  · exact fun hrelative hd => read_congr (Endpoints.read_of_backward h · ⟨hrelative, hd⟩) w z now
  · exact fun hrelative hd => read_congr (Endpoints.read_of_forward h · ⟨hrelative, hd⟩) w z now
  · exact fun hother => read_congr (Endpoints.read_of_other h · hother) w z now
  · exact fun hrelative => Endpoints.leading?_of_counts h ⟨hrelative, rfl⟩
  · rw [FixedPhrase.read?, Endpoint.find?_now]
    rfl

theorem read_shorthand_offCalendar :
    Period.read "FUTURE 9999999 days ".toList Week.sunday .newYork
        ⟨⟨⟨2024, 5, 15, by decide⟩, .midnight⟩, .zone .utc, false⟩ =
      Period.read ("now".toList ++ " to ".toList ++ "FUTURE 9999999 days ".toList) Week.sunday
        .newYork ⟨⟨⟨2024, 5, 15, by decide⟩, .midnight⟩, .zone .utc, false⟩ := by
  have hread : Endpoint.read "FUTURE 9999999 days ".toList
      ⟨⟨⟨2024, 5, 15, by decide⟩, .midnight⟩, .zone .utc, false⟩ =
        .ok ⟨"next 9999999 day".toList, .relative, .day, 9999999, .forward,
          ⟨⟨⟨2024, 5, 15, by decide⟩, .midnight⟩, .zone .utc, false⟩⟩ :=
    eq_ok_of_toOption (by decide +kernel)
  exact (read_shorthand hread Week.sunday .newYork _).2.1 rfl rfl

end Period

end TimePhrase
