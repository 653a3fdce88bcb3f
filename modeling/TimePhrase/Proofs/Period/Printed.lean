import TimePhrase.Proofs.Period.Alignment
import TimePhrase.Proofs.Phrase.WrittenMoment

namespace TimePhrase

namespace Moment.Settled

variable {m : Moment} {z : Zone}

theorem microsecond_eq_zero (h : m.Settled z) : m.wall.clock.microsecond = 0 :=
  congrArg (fun c : Civil => c.clock.microsecond) h.wholeSecond.symm

theorem microseconds_eq (h : m.Settled z) : m.wall.microseconds = 1000000 * m.wall.seconds := by
  rw [Civil.microseconds, h.microsecond_eq_zero]
  exact Int.add_zero _

theorem offset?_eq (h : m.Settled z) : m.offset? = some (z.history.wallOffset m.wall false) := by
  rw [offset?, h.frame, h.fold]

theorem unixSeconds_eq (h : m.Settled z) :
    m.unixSeconds = .ok (m.wall.seconds - z.history.wallOffset m.wall false) :=
  unixSeconds_of_zone h.frame h.fold h.microsecond_eq_zero

end Moment.Settled

namespace Period

/-- A period in writing, with a duration of `n` seconds. -/
def described (p : Period) (n : Int) : String :=
  "TimeRange(" ++ String.ofList (p.write Moment.plainPattern).1 ++ "→"
    ++ String.ofList (p.write Moment.plainPattern).2 ++ ", " ++ String.ofList (Text.signed n)
    ++ "s)"

theorem described_injective {p : Period} {m n : Int} (h : p.described m = p.described n) :
    m = n := by
  have hnumber := (String.append_right_inj _).mp ((String.append_left_inj _).mp h)
  apply Text.signed_injective
  exact String.ofList_injective hnumber

section Duration

variable {p : Period} {z : Zone}

theorem duration_of_settled (hstart : p.start.Settled z) (hfinish : p.finish.Settled z) :
    p.duration = .ok (p.finish.wall.seconds - p.start.wall.seconds + 1) := by
  have hframe : p.start.frame = p.finish.frame := hstart.frame.trans hfinish.frame.symm
  rw [duration, Moment.elapsed, if_pos hframe, hstart.microseconds_eq, hfinish.microseconds_eq,
    ← Int.mul_sub]
  exact congrArg (fun n : Int => Except.ok (n + 1)) (wholeSeconds_mul _)

theorem describe_of_duration {n : Int} (h : p.duration = .ok n) :
    p.describe = .ok (p.described n) := by
  rw [describe, h]
  rfl

/-- The printed duration exceeds the elapsed one by what the offset of the clock has gained. -/
theorem described_offset_gain {t : Text} {w : Week} {now : Moment}
    (h : Period.read t w z now = .ok p) :
    ∃ s f a b, p.unixSeconds = .ok (s, f) ∧ p.start.offset? = some a ∧
      p.finish.offset? = some b ∧
      (∀ n, p.describe = .ok (p.described n) ↔ n = f - s + 1 + (b - a)) ∧
      (p.describe = .ok (p.described (f - s + 1)) ↔ a = b) := by
  obtain ⟨hstart, hfinish⟩ := settled_of_read h
  have hdescribe := describe_of_duration (duration_of_settled hstart hfinish)
  have hprinted (n : Int) : p.describe = .ok (p.described n) ↔
      p.finish.wall.seconds - p.start.wall.seconds + 1 = n := by
    rw [hdescribe, Except.ok.injEq]
    constructor
    · intro hsame
      exact described_injective hsame
    · intro hsame
      rw [hsame]
  refine ⟨_, _, _, _, unixSeconds_eq hstart.unixSeconds_eq hfinish.unixSeconds_eq,
    hstart.offset?_eq, hfinish.offset?_eq, ?_, ?_⟩
  · intro n
    rw [hprinted]
    omega
  · rw [hprinted]
    omega

theorem described_day_of_change : ∃ p s f,
    Period.read "today".toList Week.sunday .newYork
        ⟨⟨⟨2023, 3, 12, by decide⟩, ⟨12, 0, 0, 0, by decide⟩⟩, .zone .newYork, false⟩ = .ok p ∧
      p.unixSeconds = .ok (s, f) ∧ f - s + 1 = 82800 ∧ p.describe = .ok (p.described 86400) ∧
      p.describe ≠ .ok (p.described 82800) := by
  have hread : Period.read "today".toList Week.sunday .newYork
      ⟨⟨⟨2023, 3, 12, by decide⟩, ⟨12, 0, 0, 0, by decide⟩⟩, .zone .newYork, false⟩ =
        .ok ⟨⟨⟨⟨2023, 3, 12, by decide⟩, .midnight⟩, .zone .newYork, false⟩,
          ⟨⟨⟨2023, 3, 12, by decide⟩, .lastSecond⟩, .zone .newYork, false⟩⟩ := by
    decide +kernel
  obtain ⟨s, f, a, b, hunix, ha, hb, hprinted, hiff⟩ := described_offset_gain hread
  have hinstants := hunix.symm.trans
    (show _ = Except.ok (1678597200, 1678679999) by decide +kernel)
  have hwinter := ha.symm.trans (show _ = some (-18000) by decide +kernel)
  have hsummer := hb.symm.trans (show _ = some (-14400) by decide +kernel)
  cases hinstants
  cases hwinter
  cases hsummer
  refine ⟨_, _, _, hread, hunix, rfl, (hprinted 86400).mpr rfl, ?_⟩
  intro hsame
  exact absurd (hiff.mp hsame) (by decide)

end Duration

/-- Both edges by the plain pattern, as two phrases. -/
def writtenOut (p : Period) : Text :=
  (p.write Moment.plainPattern).1 ++ joiner.toList ++ (p.write Moment.plainPattern).2

variable {t : Text} {w : Week} {z : Zone} {now c : Moment} {p : Period}

theorem place_write {m : Moment} (hm : m.Settled z) (hc : c.frame = .zone z) (w : Week)
    (edge : Edge) : Endpoint.place ⟨m.write Moment.plainPattern, .spelled, .second, 0, .forward,
      ⟨m.wall.wholeSecond, c.frame, false⟩⟩ w edge = .ok m := by
  rw [Endpoint.place_second rfl rfl, hm.wholeSecond, hm.wholeSecond, hc, ← hm.frame, ← hm.fold]

theorem lower_joiner : Text.lower joiner.toList = joiner.toList := by
  decide

theorem phrases_writtenOut (p : Period) : p.writtenOut.phrases =
    [p.start.write Moment.plainPattern, p.finish.write Moment.plainPattern] := by
  have hto (m : Moment) : "to".toList ∉ (m.write Moment.plainPattern).phrase.words := by
    rw [m.phrase_write]
    exact m.inFigures_write.to_not_mem_words
  rw [← p.start.phrase_write, ← p.finish.phrase_write]
  exact Text.phrases_of_joined (hto _) (hto _) lower_joiner

/-- Years are read in four digits but written without padding, so early ones are refused. -/
theorem read_writtenOut_iff (h : Period.read t w z now = .ok p) :
    (Period.read p.writtenOut w z now = .ok p ↔
      1000 ≤ p.start.wall.date.year ∧ 1000 ≤ p.finish.wall.date.year) ∧
    (p.start.wall.date.year < 1000 → Period.read p.writtenOut w z now =
      .error (.phrase (.unreadable (p.write Moment.plainPattern).1))) ∧
    (1000 ≤ p.start.wall.date.year → p.finish.wall.date.year < 1000 →
      Period.read p.writtenOut w z now =
        .error (.phrase (.unreadable (p.write Moment.plainPattern).2))) := by
  obtain ⟨c, es, hc, _, _⟩ := read_eq_ok_iff.mp h
  obtain ⟨hstart, hfinish⟩ := settled_of_read h
  have hframe := Moment.frame_of_current hc
  have hphrases := p.phrases_writtenOut
  have hfirst (hs : p.start.wall.date.year < 1000) := read_of_fails (w := w) hc
    (.first hphrases (Nat.le_refl 1) (Endpoint.read_write_early p.start c hs))
  have hlast (hs : 1000 ≤ p.start.wall.date.year) (he : p.finish.wall.date.year < 1000) :=
    read_of_fails (w := w) hc (.last hphrases (Endpoint.read_write p.start c hs)
      (Endpoint.read_write_early p.finish c he))
  refine ⟨⟨?_, ?_⟩, hfirst, hlast⟩
  · intro hread
    rcases Nat.lt_or_ge p.start.wall.date.year 1000 with hs | hs
    · rw [hfirst hs] at hread
      cases hread
    rcases Nat.lt_or_ge p.finish.wall.date.year 1000 with he | he
    · rw [hlast hs he] at hread
      cases hread
    · exact ⟨hs, he⟩
  · rintro ⟨hs, he⟩
    have hjoined := Endpoints.read_of_joined (Endpoint.read_write p.start c hs)
      (Endpoint.read_write p.finish c he) lower_joiner
    exact (read_iff_place hjoined hc).mpr
      ⟨place_write hstart hframe w .start, place_write hfinish hframe w .finish⟩

theorem read_writtenOut_year_524 : ∃ p,
    Period.read "last 1500 years".toList Week.sunday .utc
        ⟨⟨⟨2024, 5, 15, by decide⟩, ⟨13, 45, 30, 0, by decide⟩⟩, .zone .utc, false⟩ = .ok p ∧
      p.writtenOut = "524-01-01 00:00:00 to 2024-05-15 13:45:30".toList ∧
      Period.read p.writtenOut Week.sunday .utc
        ⟨⟨⟨2024, 5, 15, by decide⟩, ⟨13, 45, 30, 0, by decide⟩⟩, .zone .utc, false⟩ =
          .error (.phrase (.unreadable "524-01-01 00:00:00".toList)) := by
  have hread : Period.read "last 1500 years".toList Week.sunday .utc
      ⟨⟨⟨2024, 5, 15, by decide⟩, ⟨13, 45, 30, 0, by decide⟩⟩, .zone .utc, false⟩ =
        .ok ⟨⟨⟨⟨524, 1, 1, by decide⟩, .midnight⟩, .zone .utc, false⟩,
          ⟨⟨⟨2024, 5, 15, by decide⟩, ⟨13, 45, 30, 0, by decide⟩⟩, .zone .utc, false⟩⟩ := by
    decide +kernel
  exact ⟨_, hread, by decide +kernel, (read_writtenOut_iff hread).2.1 (by decide)⟩

end Period

end TimePhrase
