import TimePhrase.Proofs.Period.FirstFailure
import TimePhrase.Proofs.Phrase.Clock
import TimePhrase.Proofs.Phrase.WrittenMoment

namespace TimePhrase

/-- What a layout with a year leaves out has no trace in the edges of its unit. -/
theorem Layout.edgeOf?_complete {l : Layout} (hl : l ≠ time) (parsed : Civil) (edge : Edge) :
    ∃ c, ∀ w now, (l.complete parsed now).wall.edgeOf? l.unit w edge = some c := by
  cases l with
  | year =>
    cases edge with
    | start => exact ⟨⟨parsed.date.firstOf 1 (by decide), .midnight⟩, fun _ _ => rfl⟩
    | finish => exact ⟨⟨parsed.date.lastOf 12 (by decide), .lastSecond⟩, fun _ _ => rfl⟩
  | date =>
    have hdate (now : Moment) : (date.complete parsed now).wall.date = parsed.date :=
      Date.clamped_self parsed.date
    cases edge with
    | start =>
      refine ⟨⟨parsed.date, .midnight⟩, fun w now => ?_⟩
      rw [← hdate now]
      rfl
    | finish =>
      refine ⟨⟨parsed.date, .lastSecond⟩, fun w now => ?_⟩
      rw [← hdate now]
      rfl
  | dateTime =>
    refine ⟨parsed.wholeSecond, fun w now => ?_⟩
    rw [complete_dateTime]
    cases edge <;> rfl
  | time => exact absurd rfl hl

namespace Endpoint

/-- The endpoint is spelled out with its year, or as a number of seconds. -/
def Explicit (e : Endpoint) : Prop :=
  e.wording = .unix ∨
    e.wording = .spelled ∧ ∃ (l : Layout) (c : Civil), l ≠ .time ∧ l.read? e.text = some c

theorem Explicit.ne_relative {e : Endpoint} (h : e.Explicit) : e.wording ≠ .relative := by
  intro hrelative
  rcases h with hunix | ⟨hspelled, _⟩
  · cases hrelative.symm.trans hunix
  · cases hrelative.symm.trans hspelled

theorem Explicit.place_seenFrom {p : Text} {m : Moment} {e : Endpoint}
    (h : Endpoint.read p m = .ok e) (he : e.Explicit) (edge : Edge) :
    ∃ r, ∀ w c, c.frame = m.frame → (e.seenFrom c).place w edge = .ok r := by
  obtain ⟨way, _, hread⟩ := Wording.exists_of_readFirst h
  obtain ⟨htext, hway, _⟩ := Wording.heading_of_read hread
  rcases he with hunix | ⟨hspelled, l, parsed, hl, hlayout⟩
  · obtain rfl := hway.symm.trans hunix
    obtain ⟨n, base, _, _, rfl⟩ := UnixTime.read_eq_some hread
    exact ⟨⟨base.wall.wholeSecond, base.frame, false⟩, fun w c _ => place_second rfl rfl w edge⟩
  · obtain rfl := hway.symm.trans hspelled
    obtain ⟨l', parsed', hlayout', rfl⟩ := Spelled.read_eq_some hread
    rw [htext] at hlayout
    obtain rfl := Layout.eq_of_read? hlayout hlayout'
    obtain ⟨wall, hwall⟩ := Layout.edgeOf?_complete hl parsed' edge
    refine ⟨⟨wall, m.frame, false⟩, fun w c hc => ?_⟩
    have hbase : (seenFrom c ⟨p.phrase, .spelled, l.unit, 0, .forward, l.complete parsed' m⟩).base =
        l.complete parsed' c := by
      simp only [seenFrom, Layout.layoutIn?_eq_some_iff.mpr hlayout']
    rw [place_of_amount_zero rfl (hbase ▸ hwall w c), hbase, ← hc]
    rfl

end Endpoint

theorem Endpoints.read_of_explicit {t : Text} {m : Moment} (hlength : t.phrases.length ≤ 2)
    (hparts : ∀ p ∈ t.phrases, ∃ e, Endpoint.read p m = .ok e ∧ e.Explicit) :
    ∃ p q e e', Endpoint.read p m = .ok e ∧ e.Explicit ∧ Endpoint.read q m = .ok e' ∧ e'.Explicit ∧
      ∀ c, c.frame = m.frame → Endpoints.read t c = .ok ⟨e.seenFrom c, e'.seenFrom c⟩ := by
  have hseen {p : Text} {e : Endpoint} (he : Endpoint.read p m = .ok e) {c : Moment}
      (hc : c.frame = m.frame) : Endpoint.read p c = .ok (e.seenFrom c) := by
    rw [Endpoint.read_seenFrom p hc, he]
    rfl
  match ht : t.phrases with
  | [] => exact absurd ht t.phrases_ne_nil
  | [p] =>
    obtain ⟨e, he, hexplicit⟩ := hparts p (ht ▸ List.mem_cons_self)
    refine ⟨p, p, e, e, he, hexplicit, he, hexplicit, fun c hc => ?_⟩
    have hsingle : ofSingle p (e.seenFrom c) c = ⟨e.seenFrom c, e.seenFrom c⟩ :=
      if_neg hexplicit.ne_relative
    exact (read_of_single ht).mpr ⟨_, hseen he hc, hsingle.symm⟩
  | [p, q] =>
    obtain ⟨e, he, hexplicit⟩ := hparts p (ht ▸ List.mem_cons_self)
    obtain ⟨e', he', hexplicit'⟩ := hparts q (ht ▸ List.mem_cons_of_mem p List.mem_cons_self)
    refine ⟨p, q, e, e', he, hexplicit, he', hexplicit', fun c hc => ?_⟩
    rw [read, ht]
    simp only [hseen he hc, hseen he' hc]
    rfl
  | p :: q :: r :: rest =>
    rw [ht] at hlength
    exact absurd hlength (Nat.not_le.mpr (Nat.le_add_left 3 rest.length))

namespace Period

/-- Explicit phrases mean one period from every moment, whatever day begins a week. -/
theorem read_explicit {t : Text} {z : Zone} {m : Moment} (hm : m.frame = .zone z)
    (hlength : t.phrases.length ≤ 2)
    (hparts : ∀ p ∈ t.phrases, ∃ e, Endpoint.read p m = .ok e ∧ e.Explicit) :
    ∃ p, ∀ (first : Int) (now c : Moment), now.current z = .ok c →
      Period.read t (.ofFirstDay first) z now = .ok p := by
  obtain ⟨_, _, e, e', he, hexplicit, he', hexplicit', hread⟩ :=
    Endpoints.read_of_explicit hlength hparts
  obtain ⟨start, hstart⟩ := hexplicit.place_seenFrom he .start
  obtain ⟨finish, hfinish⟩ := hexplicit'.place_seenFrom he' .finish
  refine ⟨⟨start, finish⟩, fun first now c hc => ?_⟩
  have hframe : c.frame = m.frame := (Moment.frame_of_current hc).trans hm.symm
  exact (read_iff_place (hread c hframe) hc).mpr ⟨hstart _ c hframe, hfinish _ c hframe⟩

theorem read_explicit_2016 : ∃ p, ∀ (first : Int) (now c : Moment), now.current .newYork = .ok c →
    Period.read "2016 to 1700000000".toList (.ofFirstDay first) .newYork now = .ok p := by
  have hphrases : Text.phrases "2016 to 1700000000".toList =
      ["2016".toList, "1700000000".toList] := by
    decide +kernel
  refine read_explicit (m := ⟨⟨⟨2024, 2, 29, by decide⟩, .midnight⟩, .zone .newYork, false⟩) rfl
    ?_ ?_
  · rw [hphrases]
    decide
  · rw [hphrases, List.forall_mem_cons, List.forall_mem_singleton]
    constructor
    · have hread : Endpoint.read "2016".toList
          ⟨⟨⟨2024, 2, 29, by decide⟩, .midnight⟩, .zone .newYork, false⟩ =
            .ok ⟨"2016".toList, .spelled, .year, 0, .forward,
              ⟨⟨⟨2016, 2, 29, by decide⟩, .midnight⟩, .zone .newYork, false⟩⟩ := by
        decide +kernel
      exact ⟨_, hread, .inr ⟨rfl, .year, ⟨⟨2016, 1, 1, by decide⟩, .midnight⟩, by decide,
        by decide +kernel⟩⟩
    · have hread : Endpoint.read "1700000000".toList
          ⟨⟨⟨2024, 2, 29, by decide⟩, .midnight⟩, .zone .newYork, false⟩ =
            .ok ⟨"1700000000".toList, .unix, .second, 0, .forward,
              ⟨⟨⟨2023, 11, 14, by decide⟩, ⟨17, 13, 20, 0, by decide⟩⟩, .zone .newYork,
                false⟩⟩ := by
        decide +kernel
      exact ⟨_, hread, .inl rfl⟩

end Period

end TimePhrase
