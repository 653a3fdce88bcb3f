import TimePhrase.Proofs.Calendar.UnitSequence
import TimePhrase.Proofs.Zone.Passes
import TimePhrase.Proofs.Zone.Timeline

namespace TimePhrase

namespace Zone

def changes (z : Zone) : List Change := z.history.timeline 10000

def shown (z : Zone) (n : Int) : Int := History.shown z.history.first z.changes n

/-- The instant that the zone's clock reads `w` for the first time, if it ever does. -/
def firstInstant (z : Zone) (w : Civil) : Int := w.seconds - z.history.wallOffset w false

def gapAt (z : Zone) (w : Civil) : Int :=
  max 0 (z.history.wallOffset w true - z.history.wallOffset w false)

/-- What the zone's clock reads at instant `n`. -/
def readingAt? (z : Zone) (n : Int) : Option Civil :=
  (Moment.ofUnix? (.zone z) n 0 Clock.zero_microsecond_lt).map (·.wall)

/-- No instant before `n` has the reading of `n`. -/
def FirstPass (z : Zone) (n : Int) : Prop := ∀ v < n, z.readingAt? v ≠ z.readingAt? n

theorem spaced_changes (z : Zone) : History.Spaced (yearSecond 1) z.changes :=
  z.regular.spaced_timeline 10000

theorem wallOffset_eq (z : Zone) (w : Civil) (fold : Bool) : z.history.wallOffset w fold =
    History.offsetOnWall fold w.seconds z.history.first z.changes :=
  z.regular.wallOffset_eq (Nat.lt_succ_of_le w.date.year_bounds.2) fold

theorem utcOffset_eq (z : Zone) (utc : Civil) : z.history.utcOffset utc =
    History.offsetAt utc.seconds z.history.first false z.changes :=
  z.regular.utcOffset_eq (Nat.lt_succ_of_le utc.date.year_bounds.2)

theorem firstInstant_eq (z : Zone) (w : Civil) :
    z.firstInstant w = History.firstShown z.history.first z.changes w.seconds := by
  rw [firstInstant, wallOffset_eq, History.firstShown]

theorem gapAt_eq (z : Zone) (w : Civil) :
    z.gapAt w = History.swallowed z.history.first z.changes w.seconds := by
  rw [gapAt, wallOffset_eq, wallOffset_eq, History.swallowed]

theorem ofUnix?_eq_some_iff {z : Zone} {n : Int} {us : Nat} {hus : us < 1000000} {m : Moment} :
    Moment.ofUnix? (.zone z) n us hus = some m ↔ OnCalendar n ∧ m.wall.seconds = z.shown n ∧
      m.wall.clock.microsecond = us ∧ m.frame = .zone z ∧
      m.fold = (History.offsetAt n z.history.first false z.changes).2 := by
  simp only [Moment.ofUnix?, Option.bind_eq_bind, Option.bind_eq_some_iff, utcOffset_eq]
  constructor
  · rintro ⟨utc, hutc, c, hc, hm⟩
    cases hm
    have ⟨hn, _⟩ := (Civil.ofSeconds?_eq_some_iff hus).mp hutc
    have ⟨hseconds, hmicro⟩ := (Civil.ofSeconds?_eq_some_iff hus).mp hc
    rw [hn] at hseconds ⊢
    exact ⟨⟨utc, hn⟩, hseconds, hmicro, rfl, rfl⟩
  · obtain ⟨c, frame, fold⟩ := m
    rintro ⟨hcalendar, hseconds, hmicro, rfl, rfl⟩
    have hsome := (Civil.isSome_ofSeconds? hus).mpr (onCalendar_iff.mp hcalendar)
    obtain ⟨utc, hutc⟩ := Option.isSome_iff_exists.mp hsome
    have ⟨hn, _⟩ := (Civil.ofSeconds?_eq_some_iff hus).mp hutc
    refine ⟨utc, hutc, c, ?_, ?_⟩
    · rw [hn]
      exact (Civil.ofSeconds?_eq_some_iff hus).mpr ⟨hseconds, hmicro⟩
    · rw [hn]
      rfl

theorem readingAt?_eq_some_iff {z : Zone} {n : Int} {c : Civil} : z.readingAt? n = some c ↔
    OnCalendar n ∧ c.seconds = z.shown n ∧ c.clock.microsecond = 0 := by
  rw [readingAt?, Option.map_eq_some_iff]
  constructor
  · rintro ⟨m, hm, rfl⟩
    have ⟨hcalendar, hseconds, hmicro, _⟩ := ofUnix?_eq_some_iff.mp hm
    exact ⟨hcalendar, hseconds, hmicro⟩
  · rintro ⟨hcalendar, hseconds, hmicro⟩
    exact ⟨⟨c, .zone z, _⟩,
      ofUnix?_eq_some_iff.mpr ⟨hcalendar, hseconds, hmicro, rfl, rfl⟩, rfl⟩

section Instant

variable {z : Zone} {n : Int}

theorem readingAt?_of_ofUnix? {us : Nat} {hus : us < 1000000} {m : Moment}
    (h : Moment.ofUnix? (.zone z) n us hus = some m) :
    z.readingAt? n = some m.wall.wholeSecond := by
  have ⟨hcalendar, hseconds, _⟩ := ofUnix?_eq_some_iff.mp h
  exact readingAt?_eq_some_iff.mpr ⟨hcalendar, hseconds, rfl⟩

theorem offset?_of_ofUnix? {us : Nat} {hus : us < 1000000} {m : Moment}
    (h : Moment.ofUnix? (.zone z) n us hus = some m) : m.offset? = some (m.wall.seconds - n) := by
  have ⟨_, hseconds, _, hframe, hfold⟩ := ofUnix?_eq_some_iff.mp h
  have hoffset := z.spaced_changes.offsetOnWall_shown z.regular.first n
  have hshown : z.shown n = n + (History.offsetAt n z.history.first false z.changes).1 := rfl
  rw [Moment.offset?, hframe]
  simp only [wallOffset_eq]
  rw [hseconds, hfold, Option.some.injEq]
  exact hoffset.trans (by omega)

theorem onCalendar_of_change {v : Int} (hvn : v < n) (hle : z.shown n ≤ z.shown v)
    (hn : OnCalendar n) : OnCalendar v := by
  have ⟨hnear, hlate⟩ := z.spaced_changes.change_between z.regular.first hvn hle
  have hyear : yearSecond 1 = -62135596800 := by decide
  rw [onCalendar_iff] at hn ⊢
  omega

variable {c : Civil} (h : z.readingAt? n = some c)
include h

theorem readingAt?_firstInstant :
    z.firstInstant c ≤ n ∧ z.readingAt? (z.firstInstant c) = some c := by
  obtain ⟨hcalendar, hseconds, hmicro⟩ := readingAt?_eq_some_iff.mp h
  have hle : z.firstInstant c ≤ n := by
    rw [firstInstant_eq, hseconds]
    exact (z.spaced_changes.firstShown_shown_le z.regular.first n).1
  have hshown : z.shown (z.firstInstant c) = c.seconds := by
    rw [firstInstant_eq, hseconds]
    exact z.spaced_changes.shown_firstShown z.regular.first n
  refine ⟨hle, readingAt?_eq_some_iff.mpr ⟨?_, hshown.symm, hmicro⟩⟩
  rcases Int.lt_or_eq_of_le hle with hlt | heq
  · have hsame : z.shown n = z.shown (z.firstInstant c) := hseconds.symm.trans hshown.symm
    exact onCalendar_of_change hlt (Int.le_of_eq hsame) hcalendar
  · rw [heq]
    exact hcalendar

theorem le_firstInstant_iff {w : Civil} (hle : c.seconds ≤ w.seconds)
    (hw : w.clock.microsecond = 0) :
    n ≤ z.firstInstant w ↔ ∀ v < n, z.readingAt? v ≠ some w := by
  obtain ⟨hcalendar, hseconds, _⟩ := readingAt?_eq_some_iff.mp h
  rw [hseconds] at hle
  rw [firstInstant_eq, z.spaced_changes.le_firstShown_iff z.regular.first hle]
  constructor
  · intro hnew v hv hreading
    exact hnew v hv (readingAt?_eq_some_iff.mp hreading).2.1.symm
  · intro hnew v hv hshown
    apply hnew v hv
    apply readingAt?_eq_some_iff.mpr
    rw [← hshown] at hle
    exact ⟨onCalendar_of_change hv hle hcalendar, hshown.symm, hw⟩

theorem firstInstant_le_iff {w : Civil} (hle : w.seconds ≤ c.seconds) :
    z.firstInstant w ≤ n ↔ w.seconds + z.gapAt w ≤ c.seconds := by
  obtain ⟨_, hseconds, _⟩ := readingAt?_eq_some_iff.mp h
  rw [hseconds] at hle ⊢
  rw [firstInstant_eq, gapAt_eq]
  exact z.spaced_changes.firstShown_le_iff z.regular.first hle

theorem firstInstant_eq_iff : z.firstInstant c = n ↔ z.FirstPass n := by
  have hle := (readingAt?_firstInstant h).1
  have hmicro := (readingAt?_eq_some_iff.mp h).2.2
  have hiff := le_firstInstant_iff h (Int.le_refl _) hmicro
  rw [FirstPass, h, ← hiff]
  omega

theorem FirstPass.not_shown_before (hfirst : z.FirstPass n) {w : Civil}
    (hle : c.seconds ≤ w.seconds) : ∀ v < n, z.readingAt? v ≠ some w := by
  intro v hv hw
  have hseconds := (readingAt?_eq_some_iff.mp h).2.1
  rw [(readingAt?_eq_some_iff.mp hw).2.1, hseconds] at hle
  have hlt := z.spaced_changes.firstShown_lt z.regular.first hv hle
  have heq := (firstInstant_eq_iff h).mpr hfirst
  rw [firstInstant_eq, hseconds] at heq
  exact Int.ne_of_lt hlt heq

end Instant

end Zone

end TimePhrase
