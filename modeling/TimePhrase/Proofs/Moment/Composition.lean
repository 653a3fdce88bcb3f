import TimePhrase.Proofs.Moment.Partition

namespace TimePhrase

theorem TimeUnit.secondCount_nonneg (u : TimeUnit) : 0 ≤ u.secondCount := by
  cases u <;> decide

theorem TimeUnit.monthCount_nonneg (u : TimeUnit) : 0 ≤ u.monthCount := by
  cases u <;> decide

namespace Civil

variable {c p q : Civil} {u : TimeUnit} {a b n : Int}

theorem addSeconds?_congr {d : Civil} {k : Int} (hseconds : c.seconds + n = d.seconds + k)
    (hmicro : c.clock.microsecond = d.clock.microsecond) :
    c.addSeconds? n = d.addSeconds? k := by
  simp only [addSeconds?, hseconds, hmicro]

theorem microseconds_lt_of_seconds_lt (h : c.seconds < p.seconds) :
    c.microseconds < p.microseconds := by
  have hc := c.clock.valid.2.2.2
  simp only [microseconds]
  omega

theorem exists_advance_iff_of_seconds (hu : u.monthCount = 0) :
    (∃ p, c.advance u n = .ok p) ↔ OnCalendar (c.seconds + u.secondCount * n) := by
  constructor
  · rintro ⟨p, hp⟩
    exact ⟨p, ((advance_eq_ok_iff_of_seconds hu).mp hp).1⟩
  · intro h
    cases hp : c.advance u n with
    | ok p => exact ⟨p, rfl⟩
    | error f => exact absurd h ((advance_eq_error_iff_of_seconds hu).mp hp).1

theorem exists_advance_iff_of_months (hu : u.secondCount = 0) :
    (∃ p, c.advance u n = .ok p) ↔ 12 ≤ c.date.monthNumber + u.monthCount * n ∧
      c.date.monthNumber + u.monthCount * n < 120000 := by
  constructor
  · rintro ⟨p, hp⟩
    have hyear := p.date.year_bounds
    have hmonth := p.date.month_bounds
    rw [← ((advance_eq_ok_iff_of_months hu).mp hp).1, Date.monthNumber]
    omega
  · intro h
    cases hp : c.advance u n with
    | ok p => exact ⟨p, rfl⟩
    | error f =>
      have hyear := ((advance_eq_error_iff_of_months hu).mp hp).1
      omega

theorem advance_advance_of_seconds (hu : u.monthCount = 0) (h : c.advance u a = .ok p) (b : Int) :
    p.advance u b = c.advance u (a + b) := by
  obtain ⟨hseconds, hmicro⟩ := (advance_eq_ok_iff_of_seconds hu).mp h
  have hsum : p.seconds + u.secondCount * b = c.seconds + u.secondCount * (a + b) := by
    rw [hseconds, Int.mul_add, Int.add_assoc]
  rw [advance_eq_of_seconds hu, advance_eq_of_seconds hu, addSeconds?_congr hsum hmicro]

theorem advance_neg_of_seconds (hu : u.monthCount = 0) (h : c.advance u a = .ok p) :
    p.advance u (-a) = .ok c := by
  obtain ⟨hseconds, hmicro⟩ := (advance_eq_ok_iff_of_seconds hu).mp h
  refine (advance_eq_ok_iff_of_seconds hu).mpr ⟨?_, hmicro.symm⟩
  rw [hseconds, Int.mul_neg, Int.add_neg_cancel_right]

section Months

variable (hu : u.secondCount = 0) (h : c.advance u a = .ok p)
include hu h

theorem exists_advance_advance_iff :
    (∃ r, p.advance u b = .ok r) ↔ ∃ q, c.advance u (a + b) = .ok q := by
  rw [exists_advance_iff_of_months hu, exists_advance_iff_of_months hu,
    ((advance_eq_ok_iff_of_months hu).mp h).1, Int.mul_add, Int.add_assoc]

theorem advance_advance_of_months {r : Civil} (hr : p.advance u b = .ok r)
    (hq : c.advance u (a + b) = .ok q) :
    r.date.monthNumber = q.date.monthNumber ∧ r.clock = q.clock ∧ r.date.day ≤ q.date.day ∧
      (c.date.day ≤ daysInMonth p.date.year p.date.month → r = q) := by
  obtain ⟨hmonth, hday, hclock⟩ := (advance_eq_ok_iff_of_months hu).mp h
  obtain ⟨hmonthr, hdayr, hclockr⟩ := (advance_eq_ok_iff_of_months hu).mp hr
  obtain ⟨hmonthq, hdayq, hclockq⟩ := (advance_eq_ok_iff_of_months hu).mp hq
  have hsame : r.date.monthNumber = q.date.monthNumber := by
    rw [hmonthr, hmonthq, hmonth, Int.mul_add, Int.add_assoc]
  have hlength : daysInMonth r.date.year r.date.month = daysInMonth q.date.year q.date.month := by
    rw [← Date.monthLength_monthNumber, ← Date.monthLength_monthNumber, hsame]
  have hclocks : r.clock = q.clock := by
    rw [hclockr, hclock, hclockq]
  refine ⟨hsame, hclocks, by omega, ?_⟩
  intro hexists
  have hdate : r.date = q.date := Date.ext_monthNumber hsame (by omega)
  cases r
  cases q
  cases hdate
  cases hclocks
  rfl

end Months

/-- A longer move leads further, since it leads to a later unit. -/
theorem advance_strictMono (hlt : a < b) (hp : c.advance u a = .ok p) (hq : c.advance u b = .ok q) :
    p.seconds < q.seconds := by
  have hpunit := unitNumber_advance (congrArg Except.toOption hp) .sunday
  have hqunit := unitNumber_advance (congrArg Except.toOption hq) .sunday
  apply Int.not_le.mp
  intro hle
  have hunit := unitNumber_mono .sunday u hle
  omega

theorem exists_advance_between (han : a ≤ n) (hnb : n ≤ b) (hp : c.advance u a = .ok p)
    (hq : c.advance u b = .ok q) : ∃ r, c.advance u n = .ok r := by
  rcases u.count_eq_zero with hu | hu
  · have hlow := Int.mul_le_mul_of_nonneg_left han u.secondCount_nonneg
    have hhigh := Int.mul_le_mul_of_nonneg_left hnb u.secondCount_nonneg
    have ha := (exists_advance_iff_of_seconds hu).mp ⟨p, hp⟩
    have hb := (exists_advance_iff_of_seconds hu).mp ⟨q, hq⟩
    exact (exists_advance_iff_of_seconds hu).mpr (ha.between hb (by omega) (by omega))
  · have hlow := Int.mul_le_mul_of_nonneg_left han u.monthCount_nonneg
    have hhigh := Int.mul_le_mul_of_nonneg_left hnb u.monthCount_nonneg
    have ha := (exists_advance_iff_of_months hu).mp ⟨p, hp⟩
    have hb := (exists_advance_iff_of_months hu).mp ⟨q, hq⟩
    exact (exists_advance_iff_of_months hu).mpr (by omega)

end Civil

namespace Moment

variable {m m' p q : Moment} {u : TimeUnit} {a b n : Int}

theorem exists_advance_iff :
    (∃ r, m.advance u n = .ok r) ↔ ∃ wall, m.wall.advance u n = .ok wall := by
  constructor
  · rintro ⟨r, hr⟩
    exact ⟨r.wall, (advance_eq_ok_iff.mp hr).1⟩
  · rintro ⟨wall, hwall⟩
    exact ⟨⟨wall, m.frame, false⟩, advance_eq_ok_iff.mpr ⟨hwall, rfl, rfl⟩⟩

theorem advance_advance_of_seconds (hu : u.monthCount = 0) (h : m.advance u a = .ok m') (b : Int) :
    m'.advance u b = m.advance u (a + b) := by
  obtain ⟨hwall, hframe, _⟩ := advance_eq_ok_iff.mp h
  rw [advance, advance, Civil.advance_advance_of_seconds hu hwall, hframe]

theorem advance_advance_of_months (hu : u.secondCount = 0) (h : m.advance u a = .ok m')
    (hp : m'.advance u b = .ok p) (hq : m.advance u (a + b) = .ok q) :
    p.wall.date.year = q.wall.date.year ∧ p.wall.date.month = q.wall.date.month ∧
      p.wall.clock = q.wall.clock ∧ p.wall.date.day ≤ q.wall.date.day ∧
      (m.wall.date.day ≤ daysInMonth m'.wall.date.year m'.wall.date.month → p = q) := by
  obtain ⟨hwall, hframe, _⟩ := advance_eq_ok_iff.mp h
  obtain ⟨hwallp, hframep, hfoldp⟩ := advance_eq_ok_iff.mp hp
  obtain ⟨hwallq, hframeq, hfoldq⟩ := advance_eq_ok_iff.mp hq
  obtain ⟨hmonth, hclock, hday, hexact⟩ :=
    Civil.advance_advance_of_months hu hwall hwallp hwallq
  obtain ⟨hyear, hmonth⟩ := Date.monthNumber_eq_iff.mp hmonth
  obtain ⟨hyearq, hmonthq⟩ := Date.monthNumber_eq_iff.mp (rfl : q.wall.date.monthNumber = _)
  refine ⟨by omega, by omega, hclock, hday, ?_⟩
  intro hexists
  have hwalls : p.wall = q.wall := hexact hexists
  have hframes : p.frame = q.frame := hframep.trans (hframe.trans hframeq.symm)
  have hfolds : p.fold = q.fold := hfoldp.trans hfoldq.symm
  cases p
  cases q
  cases hwalls
  cases hframes
  cases hfolds
  rfl

/-- Two moves are one move for fixed units; for months they may differ in the day. -/
theorem advance_composes (m : Moment) (u : TimeUnit) :
    (∀ a b m', m.advance u a = .ok m' →
      (u.monthCount = 0 → m'.advance u b = m.advance u (a + b) ∧
        m'.advance u (-a) = .ok ⟨m.wall, m.frame, false⟩) ∧
      (u.monthCount ≠ 0 →
        ((∃ p, m'.advance u b = .ok p) ↔ ∃ q, m.advance u (a + b) = .ok q) ∧
        ∀ p q, m'.advance u b = .ok p → m.advance u (a + b) = .ok q →
          p.wall.date.year = q.wall.date.year ∧ p.wall.date.month = q.wall.date.month ∧
            p.wall.clock = q.wall.clock ∧ p.wall.date.day ≤ q.wall.date.day ∧
            (m.wall.date.day ≤ daysInMonth m'.wall.date.year m'.wall.date.month → p = q))) ∧
    (∀ a b p q, a < b → m.advance u a = .ok p → m.advance u b = .ok q →
      p.wall.microseconds < q.wall.microseconds) ∧
    ∀ a b n p q, a ≤ n → n ≤ b → m.advance u a = .ok p → m.advance u b = .ok q →
      ∃ r, m.advance u n = .ok r := by
  refine ⟨?_, ?_, ?_⟩
  · intro a b m' h
    obtain ⟨hwall, hframe, _⟩ := advance_eq_ok_iff.mp h
    constructor
    · intro hu
      refine ⟨advance_advance_of_seconds hu h b, advance_eq_ok_iff.mpr ⟨?_, hframe.symm, rfl⟩⟩
      exact Civil.advance_neg_of_seconds hu hwall
    · intro hu
      have hu' := u.count_eq_zero.resolve_left hu
      refine ⟨?_, fun p q => advance_advance_of_months hu' h⟩
      rw [exists_advance_iff, exists_advance_iff]
      exact Civil.exists_advance_advance_iff hu' hwall
  · intro a b p q hlt hp hq
    apply Civil.microseconds_lt_of_seconds_lt
    exact Civil.advance_strictMono hlt (advance_eq_ok_iff.mp hp).1 (advance_eq_ok_iff.mp hq).1
  · intro a b n p q han hnb hp hq
    rw [exists_advance_iff]
    exact Civil.exists_advance_between han hnb (advance_eq_ok_iff.mp hp).1
      (advance_eq_ok_iff.mp hq).1

theorem advance_composes_past_leap_day : ∃ m m' p q : Moment,
    m.advance .month 1 = .ok m' ∧ m'.advance .month 1 = .ok p ∧ m.advance .month 2 = .ok q ∧
      m.wall.date.day = 31 ∧ p.wall.date.day = 29 ∧ p.wall.date.month = q.wall.date.month ∧
      p.wall.date.day ≤ q.wall.date.day ∧ m'.wall.microseconds < q.wall.microseconds := by
  let m : Moment := ⟨⟨⟨2024, 1, 31, by decide⟩, ⟨13, 45, 30, 7, by decide⟩⟩, .zone .newYork, true⟩
  let m' : Moment :=
    ⟨⟨⟨2024, 2, 29, by decide⟩, ⟨13, 45, 30, 7, by decide⟩⟩, .zone .newYork, false⟩
  have hm' : m.advance .month 1 = .ok m' := eq_ok_of_toOption (by decide +kernel)
  have hp : m'.advance .month 1 =
      .ok ⟨⟨⟨2024, 3, 29, by decide⟩, ⟨13, 45, 30, 7, by decide⟩⟩, .zone .newYork, false⟩ :=
    eq_ok_of_toOption (by decide +kernel)
  have hq : m.advance .month 2 =
      .ok ⟨⟨⟨2024, 3, 31, by decide⟩, ⟨13, 45, 30, 7, by decide⟩⟩, .zone .newYork, false⟩ :=
    eq_ok_of_toOption (by decide +kernel)
  obtain ⟨hmoves, hlonger, _⟩ := advance_composes m .month
  obtain ⟨_, hmonth, _, hday, _⟩ := ((hmoves 1 1 m' hm').2 (by decide)).2 _ _ hp hq
  exact ⟨m, m', _, _, hm', hp, hq, rfl, rfl, hmonth, hday, hlonger 1 2 _ _ (by decide) hm' hq⟩

end Moment

end TimePhrase
