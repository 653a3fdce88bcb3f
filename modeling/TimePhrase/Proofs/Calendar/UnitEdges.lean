import TimePhrase.Proofs.Calendar.UnitSequence

namespace TimePhrase

/-- The wall time at second `n`, without microseconds. -/
def Civil.atSecond? (n : Int) : Option Civil := ofSeconds? n 0 Clock.zero_microsecond_lt

namespace Civil

theorem wholeSecond_eq_self {c : Civil} (h : c.clock.microsecond = 0) : c.wholeSecond = c :=
  ext_seconds rfl h.symm

theorem atSecond?_eq_some_iff {n : Int} {c : Civil} :
    atSecond? n = some c ↔ c.seconds = n ∧ c.clock.microsecond = 0 :=
  ofSeconds?_eq_some_iff _

theorem isSome_atSecond? {n : Int} : (atSecond? n).isSome ↔ OnCalendar n := by
  rw [onCalendar_iff]
  exact isSome_ofSeconds? _

theorem atSecond?_eq_none_iff {n : Int} : atSecond? n = none ↔ ¬ OnCalendar n := by
  rw [← isSome_atSecond?, Option.not_isSome_iff_eq_none]

theorem atSecond?_onDay (n : Int) {k : Clock} (hk : k.microsecond = 0) :
    atSecond? (86400 * (n - epochDay) + k.seconds) = (Date.ofNumber? n).map (⟨·, k⟩) := by
  have hlt := k.seconds_lt
  have hday : (86400 * (n - epochDay) + k.seconds) / 86400 + epochDay = n := by omega
  have hclock : ((86400 * (n - epochDay) + k.seconds) % 86400).toNat = k.seconds := by omega
  rw [atSecond?, ofSeconds?, hday]
  congr 1
  funext d
  congr 1
  apply Clock.ext_seconds
  · rw [Clock.seconds_ofSeconds, hclock]
  · exact hk.symm

theorem atSecond?_midnight (n : Int) :
    atSecond? (86400 * (n - epochDay)) = (Date.ofNumber? n).map (⟨·, .midnight⟩) := by
  rw [← atSecond?_onDay n (k := .midnight) rfl]
  exact congrArg atSecond? (Int.add_zero _).symm

theorem atSecond?_lastSecond (n : Int) :
    atSecond? (86400 * (n + 1 - epochDay) - 1) = (Date.ofNumber? n).map (⟨·, .lastSecond⟩) := by
  have hseconds : (Clock.lastSecond.seconds : Int) = 86399 := rfl
  rw [← atSecond?_onDay n (k := .lastSecond) rfl, hseconds]
  congr 1
  omega

theorem some_midnight_eq {d : Date} {n : Int} (h : (d.number : Int) = n) :
    some ⟨d, .midnight⟩ = atSecond? (86400 * (n - epochDay)) := by
  rw [atSecond?_midnight, ← h, Date.ofNumber?_number, Option.map_some]

theorem some_lastSecond_eq {d : Date} {n : Int} (h : (d.number : Int) + 1 = n) :
    some ⟨d, .lastSecond⟩ = atSecond? (86400 * (n - epochDay) - 1) := by
  rw [← h, atSecond?_lastSecond, Date.ofNumber?_number, Option.map_some]

end Civil

namespace Date

theorem number_firstOf (d : Date) (m : Nat) (hm : 1 ≤ m ∧ m ≤ 12) :
    ((d.firstOf m hm).number : Int) = daysToMonth (12 * d.year + m - 1) + 1 :=
  (d.firstOf m hm).number_eq

theorem number_lastOf (d : Date) (m : Nat) (hm : 1 ≤ m ∧ m ≤ 12) :
    ((d.lastOf m hm).number : Int) + 1 = daysToMonth (12 * d.year + m - 1 + 1) + 1 := by
  have h := (d.lastOf m hm).number_eq
  have hlength := (d.lastOf m hm).monthLength_monthNumber
  have hnext := daysToMonth_succ (d.lastOf m hm).monthNumber
  simp only [monthNumber, lastOf] at h hlength hnext ⊢
  omega

end Date

/-- Days are counted from a Monday, so weekdays follow from the seconds on the wall. -/
theorem Civil.weekday_eq (c : Civil) :
    (c.date.weekday : Int) = (c.seconds / 86400 + 3) % 7 := by
  have h := c.seconds_ediv
  simp only [Date.weekday, Date.weekdayOf, epochDay] at *
  omega

namespace Civil

/-- The number of the day on which the week begins, also where the calendar does not reach. -/
def weekStart (c : Civil) (w : Week) : Int := 7 * c.unitNumber w .week + w.firstDay - 3 + epochDay

theorem number_sub_daysSince (c : Civil) (w : Week) :
    (c.date.number : Int) - w.daysSince c.date.weekday = c.weekStart w := by
  have hday := c.seconds_ediv
  have hweekday := c.weekday_eq
  have hfirst := w.firstDay.isLt
  simp only [weekStart, unitNumber, Week.daysSince]
  omega

theorem number_add_daysUntil (c : Civil) (w : Week) :
    (c.date.number : Int) + w.daysUntil c.date.weekday = c.weekStart w + 6 := by
  have hday := c.seconds_ediv
  have hweekday := c.weekday_eq
  have hfirst := w.firstDay.isLt
  simp only [weekStart, unitNumber, Week.daysUntil, Week.lastDay, Fin.val_add]
  omega

theorem firstSecond_week (c : Civil) (w : Week) :
    TimeUnit.week.firstSecond w (c.unitNumber w .week) = 86400 * (c.weekStart w - epochDay) := by
  simp only [TimeUnit.firstSecond, weekStart]
  omega

theorem lastSecond_week (c : Civil) (w : Week) :
    TimeUnit.week.lastSecond w (c.unitNumber w .week) =
      86400 * (c.weekStart w + 6 + 1 - epochDay) - 1 := by
  simp only [TimeUnit.lastSecond, TimeUnit.firstSecond, weekStart]
  omega

theorem firstIn?_eq (c : Civil) (w : Week) (u : TimeUnit) :
    c.firstIn? w u = atSecond? (u.firstSecond w (c.unitNumber w u)) := by
  have hclock := c.clock.valid
  have hmonth := c.date.month_bounds
  simp only [IsClock] at hclock
  cases u with
  | second => exact (atSecond?_eq_some_iff.mpr ⟨rfl, rfl⟩).symm
  | minute =>
    refine (atSecond?_eq_some_iff.mpr ⟨?_, rfl⟩).symm
    simp only [TimeUnit.firstSecond, unitNumber, seconds, Clock.seconds, Clock.atSecond]
    omega
  | hour =>
    refine (atSecond?_eq_some_iff.mpr ⟨?_, rfl⟩).symm
    simp only [TimeUnit.firstSecond, unitNumber, seconds, Clock.seconds, Clock.atMinute]
    omega
  | day =>
    have hday := c.seconds_ediv
    rw [firstIn?, some_midnight_eq rfl]
    congr 2
    simp only [unitNumber]
    omega
  | week =>
    rw [firstIn?, number_sub_daysSince, firstSecond_week, atSecond?_midnight]
    cases Date.ofNumber? _ <;> rfl
  | month => rw [firstIn?, some_midnight_eq (Date.number_firstOf _ _ _)]; rfl
  | quarter =>
    have hnumber : 12 * (c.date.year : Int) + (3 * c.date.quarter - 2 : Nat) - 1 =
        3 * c.unitNumber w .quarter := by
      simp only [unitNumber, Date.monthNumber, Date.quarter]
      omega
    rw [firstIn?, some_midnight_eq (Date.number_firstOf _ _ _), hnumber]
    rfl
  | year =>
    have hnumber : 12 * (c.date.year : Int) + (1 : Nat) - 1 = 12 * c.unitNumber w .year := by
      simp only [unitNumber, Date.monthNumber]
      omega
    rw [firstIn?, some_midnight_eq (Date.number_firstOf _ _ _), hnumber]
    rfl

theorem lastIn?_eq (c : Civil) (w : Week) (u : TimeUnit) :
    c.lastIn? w u = atSecond? (u.lastSecond w (c.unitNumber w u)) := by
  have hclock := c.clock.valid
  have hmonth := c.date.month_bounds
  simp only [IsClock] at hclock
  cases u with
  | second =>
    refine (atSecond?_eq_some_iff.mpr ⟨?_, rfl⟩).symm
    exact (Int.add_sub_cancel c.seconds 1).symm
  | minute =>
    refine (atSecond?_eq_some_iff.mpr ⟨?_, rfl⟩).symm
    simp only [TimeUnit.lastSecond, TimeUnit.firstSecond, unitNumber, seconds, Clock.seconds,
      Clock.atSecond]
    omega
  | hour =>
    refine (atSecond?_eq_some_iff.mpr ⟨?_, rfl⟩).symm
    simp only [TimeUnit.lastSecond, TimeUnit.firstSecond, unitNumber, seconds, Clock.seconds,
      Clock.atMinute]
    omega
  | day =>
    have hday := c.seconds_ediv
    rw [lastIn?, some_lastSecond_eq rfl]
    congr 1
    simp only [TimeUnit.lastSecond, TimeUnit.firstSecond, unitNumber]
    omega
  | week =>
    rw [lastIn?, number_add_daysUntil, lastSecond_week, atSecond?_lastSecond]
    cases Date.ofNumber? _ <;> rfl
  | month => rw [lastIn?, some_lastSecond_eq (Date.number_lastOf _ _ _)]; rfl
  | quarter =>
    have hnumber : 12 * (c.date.year : Int) + (3 * c.date.quarter : Nat) - 1 + 1 =
        3 * (c.unitNumber w .quarter + 1) := by
      simp only [unitNumber, Date.monthNumber, Date.quarter]
      omega
    rw [lastIn?, some_lastSecond_eq (Date.number_lastOf _ _ _), hnumber]
    rfl
  | year =>
    have hnumber : 12 * (c.date.year : Int) + (12 : Nat) - 1 + 1 =
        12 * (c.unitNumber w .year + 1) := by
      simp only [unitNumber, Date.monthNumber]
      omega
    rw [lastIn?, some_lastSecond_eq (Date.number_lastOf _ _ _), hnumber]
    rfl

theorem edgeOf?_eq (c : Civil) (u : TimeUnit) (w : Week) (edge : Edge) :
    c.edgeOf? u w edge = atSecond? (u.edgeSecond w (c.unitNumber w u) edge) := by
  cases edge with
  | start => exact c.firstIn?_eq w u
  | finish => exact c.lastIn?_eq w u

end Civil

end TimePhrase
