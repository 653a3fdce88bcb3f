import TimePhrase.Proofs.Calendar.Advance

namespace TimePhrase

theorem Date.monthNumber_eq_iff {d : Date} {t : Int} :
    d.monthNumber = t ↔ (d.year : Int) = t / 12 ∧ (d.month : Int) = t % 12 + 1 := by
  have hmonth := d.month_bounds
  simp only [monthNumber]
  omega

namespace Civil

variable {c r : Civil} {u : TimeUnit} {n : Int} {f : Fault}

theorem advance_eq_ok_iff_of_seconds (hu : u.monthCount = 0) : c.advance u n = .ok r ↔
    r.seconds = c.seconds + u.secondCount * n ∧ r.clock.microsecond = c.clock.microsecond := by
  rw [← addSeconds?_eq_some_iff, ← advance_of_seconds hu]
  exact ⟨fun h => congrArg Except.toOption h, eq_ok_of_toOption⟩

theorem advance_eq_ok_iff_of_months (hu : u.secondCount = 0) : c.advance u n = .ok r ↔
    r.date.monthNumber = c.date.monthNumber + u.monthCount * n ∧
      r.date.day = min c.date.day (daysInMonth r.date.year r.date.month) ∧ r.clock = c.clock := by
  rw [advance_eq_of_months hu, ← Span.months_ofUnits, ← Date.monthLength_monthNumber, ← and_assoc,
    ← Date.addMonths_eq_ok_iff]
  cases c.date.addMonths _ _ with
  | error f => exact ⟨nofun, nofun⟩
  | ok d =>
    obtain ⟨d', clock⟩ := r
    simp only [Except.map, Except.ok.injEq, mk.injEq, eq_comm]

theorem advance_eq_error_iff_of_seconds (hu : u.monthCount = 0) : c.advance u n = .error f ↔
    ¬ OnCalendar (c.seconds + u.secondCount * n) ∧ f = .pastCalendar := by
  have hsome : (c.addSeconds? (u.secondCount * n)).isSome ↔
      OnCalendar (c.seconds + u.secondCount * n) := by
    rw [onCalendar_iff]
    exact isSome_ofSeconds? _
  rw [advance_eq_of_seconds hu, ← hsome]
  cases c.addSeconds? (u.secondCount * n) with
  | none => simp only [Except.error.injEq, Option.isSome_none, Bool.false_eq_true,
      not_false_eq_true, true_and, eq_comm]
  | some moved => exact ⟨nofun, fun h => absurd rfl h.1⟩

theorem advance_eq_error_iff_of_months (hu : u.secondCount = 0) : c.advance u n = .error f ↔
    ¬ (1 ≤ (c.date.monthNumber + u.monthCount * n) / 12 ∧
        (c.date.monthNumber + u.monthCount * n) / 12 ≤ 9999) ∧
      f = if -2147483648 ≤ (c.date.monthNumber + u.monthCount * n) / 12 ∧
          (c.date.monthNumber + u.monthCount * n) / 12 < 2147483648
        then .noSuchYear else .pastCalendar := by
  rw [advance_eq_of_months hu, ← Span.months_ofUnits, ← Date.addMonths_eq_error_iff]
  cases c.date.addMonths _ _ with
  | error f' => simp only [Except.map, Except.error.injEq]
  | ok d => exact ⟨nofun, nofun⟩

end Civil

namespace Moment

variable {m r : Moment} {u : TimeUnit} {n : Int} {f : Fault}

theorem advance_eq_ok_iff : m.advance u n = .ok r ↔
    m.wall.advance u n = .ok r.wall ∧ r.frame = m.frame ∧ r.fold = false := by
  rw [advance, bind_eq_ok_iff]
  constructor
  · rintro ⟨wall, hwall, hr⟩
    cases hr
    exact ⟨hwall, rfl, rfl⟩
  · obtain ⟨wall, frame, fold⟩ := r
    rintro ⟨hwall, rfl, rfl⟩
    exact ⟨wall, hwall, rfl⟩

theorem advance_eq_error_iff : m.advance u n = .error f ↔ m.wall.advance u n = .error f := by
  rw [advance, bind_eq_error_iff]
  exact ⟨fun h => h.resolve_right nofun, .inl⟩

theorem advance_eq_error (h : m.advance u n = .error f) : f = .noSuchYear ∨ f = .pastCalendar := by
  rw [advance_eq_error_iff] at h
  rcases u.count_eq_zero with hu | hu
  · exact .inr (Civil.advance_eq_error_iff_of_seconds hu |>.mp h).2
  · have hf := (Civil.advance_eq_error_iff_of_months hu |>.mp h).2
    split at hf
    · exact .inl hf
    · exact .inr hf

theorem advance_congr {u' : TimeUnit} {n' : Int}
    (hseconds : u.secondCount * n = u'.secondCount * n')
    (hmonths : u.monthCount * n = u'.monthCount * n') : m.advance u n = m.advance u' n' := by
  rw [advance, advance, Civil.advance_congr hseconds hmonths]

/-- Fixed units add their seconds on the wall clock; months keep the day where they have it. -/
theorem advance_by_addition (m : Moment) (u : TimeUnit) (n : Int) :
    (u.monthCount = 0 →
      (∀ r, m.advance u n = .ok r ↔
        r.wall.microseconds = m.wall.microseconds + 1000000 * (n * u.secondCount) ∧
          r.frame = m.frame ∧ r.fold = false) ∧
      ∀ f, m.advance u n = .error f ↔
        ¬ OnCalendar (m.wall.seconds + n * u.secondCount) ∧ f = .pastCalendar) ∧
    (u.monthCount ≠ 0 →
      ∀ t, t = 12 * (m.wall.date.year : Int) + (m.wall.date.month - 1) + n * u.monthCount →
      (∀ r, m.advance u n = .ok r ↔
        ((r.wall.date.year : Int) = t / 12 ∧ (r.wall.date.month : Int) = t % 12 + 1 ∧
          r.wall.date.day =
            min m.wall.date.day (daysInMonth r.wall.date.year r.wall.date.month) ∧
          r.wall.clock = m.wall.clock) ∧ r.frame = m.frame ∧ r.fold = false) ∧
      ∀ f, m.advance u n = .error f ↔ ¬ (1 ≤ t / 12 ∧ t / 12 ≤ 9999) ∧
        f = if -2147483648 ≤ t / 12 ∧ t / 12 < 2147483648 then .noSuchYear else .pastCalendar) ∧
    m.advance .year n = m.advance .month (12 * n) ∧
    m.advance .quarter n = m.advance .month (3 * n) ∧
    m.advance .week n = m.advance .day (7 * n) ∧
    m.advance .day n = m.advance .hour (24 * n) ∧
    m.advance .hour n = m.advance .minute (60 * n) ∧
    m.advance .minute n = m.advance .second (60 * n) := by
  refine ⟨?_, ?_, ?_⟩
  · intro hu
    rw [Int.mul_comm n]
    refine ⟨fun r => ?_, fun f => ?_⟩
    · rw [advance_eq_ok_iff, Civil.advance_eq_ok_iff_of_seconds hu]
      have hr := r.wall.clock.valid.2.2.2
      have hm := m.wall.clock.valid.2.2.2
      refine and_congr_left' ?_
      simp only [Civil.microseconds]
      omega
    · rw [advance_eq_error_iff, Civil.advance_eq_error_iff_of_seconds hu]
  · intro hu t ht
    have hu' : u.secondCount = 0 := u.count_eq_zero.resolve_left hu
    have ht' : m.wall.date.monthNumber + u.monthCount * n = t := by
      rw [ht, Int.mul_comm n, Date.monthNumber]
      omega
    refine ⟨fun r => ?_, fun f => ?_⟩
    · rw [advance_eq_ok_iff, Civil.advance_eq_ok_iff_of_months hu', ht', Date.monthNumber_eq_iff]
      simp only [and_assoc]
    · rw [advance_eq_error_iff, Civil.advance_eq_error_iff_of_months hu', ht']
  · refine ⟨advance_congr ?_ ?_, advance_congr ?_ ?_, advance_congr ?_ ?_, advance_congr ?_ ?_,
      advance_congr ?_ ?_, advance_congr ?_ ?_⟩ <;>
      simp only [TimeUnit.secondCount, TimeUnit.monthCount] <;> omega

theorem advance_by_addition_backward :
    advance ⟨⟨⟨2024, 3, 31, by decide⟩, ⟨13, 45, 30, 7, by decide⟩⟩, .zone .newYork, true⟩ .month
        (-13) =
      .ok ⟨⟨⟨2023, 2, 28, by decide⟩, ⟨13, 45, 30, 7, by decide⟩⟩, .zone .newYork, false⟩ ∧
    advance ⟨⟨⟨2024, 3, 31, by decide⟩, .midnight⟩, .zone .newYork, true⟩ .year (-3000) =
      .error .noSuchYear :=
  ⟨(((advance_by_addition _ .month (-13)).2.1 (by decide) _ rfl).1 _).mpr
      ⟨by decide, rfl, rfl⟩,
    (((advance_by_addition _ .year (-3000)).2.1 (by decide) _ rfl).2 _).mpr (by decide)⟩

end Moment

end TimePhrase
