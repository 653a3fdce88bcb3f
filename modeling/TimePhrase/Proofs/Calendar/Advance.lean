import TimePhrase.Proofs.Calendar.UnitEdges

namespace TimePhrase

namespace TimeUnit

/-- The seconds in a unit of fixed length; none in one that is made of months. -/
def secondCount : TimeUnit → Int
  | second => 1
  | minute => 60
  | hour => 3600
  | day => 86400
  | week => 604800
  | _ => 0

/-- The months in a unit that is made of months. -/
def monthCount : TimeUnit → Int
  | month => 1
  | quarter => 3
  | year => 12
  | _ => 0

theorem count_eq_zero (u : TimeUnit) : u.monthCount = 0 ∨ u.secondCount = 0 := by
  cases u <;> decide

theorem edgeSecond_add {u : TimeUnit} (hu : u.monthCount = 0) (w : Week) (k n : Int)
    (edge : Edge) :
    u.edgeSecond w (k + n) edge = u.edgeSecond w k edge + u.secondCount * n := by
  cases u <;> cases edge <;> cases hu <;>
    simp only [edgeSecond, lastSecond, firstSecond, secondCount] <;> omega

theorem edgeSecond_start_of_months {u : TimeUnit} (hu : u.secondCount = 0) (w : Week)
    (k : Int) :
    u.edgeSecond w k .start = monthSecond (u.monthCount * k) := by
  cases u <;> cases hu <;> simp only [edgeSecond, firstSecond, monthCount, Int.one_mul]

theorem edgeSecond_finish_of_months {u : TimeUnit} (hu : u.secondCount = 0) (w : Week)
    (k : Int) :
    u.edgeSecond w k .finish = monthSecond (u.monthCount * (k + 1) - 1 + 1) - 1 := by
  rw [Int.sub_add_cancel, ← edgeSecond_start_of_months hu w]
  rfl

end TimeUnit

theorem onCalendar_monthSecond_iff {k : Int} :
    OnCalendar (monthSecond k) ↔ 12 ≤ k ∧ k < 120000 := by
  have hlow : monthSecond 12 = -62135596800 := by decide
  have hhigh : monthSecond 120000 = 253402300800 := by decide
  have hfirst : monthSecond k < monthSecond 12 ↔ k < 12 := monthSecond_lt_iff
  have hlast : monthSecond k < monthSecond 120000 ↔ k < 120000 := monthSecond_lt_iff
  rw [onCalendar_iff]
  omega

theorem onCalendar_before_monthSecond_iff {k : Int} :
    OnCalendar (monthSecond k - 1) ↔ 12 < k ∧ k ≤ 120000 := by
  have hlow : monthSecond 12 = -62135596800 := by decide
  have hhigh : monthSecond 120000 = 253402300800 := by decide
  have hfirst : monthSecond 12 < monthSecond k ↔ 12 < k := monthSecond_lt_iff
  have hlast : monthSecond 120000 < monthSecond k ↔ 120000 < k := monthSecond_lt_iff
  rw [onCalendar_iff]
  omega

/-- A unit made of months lies on the calendar as a whole, since years begin with one. -/
theorem TimeUnit.onCalendar_edgeSecond_iff {u : TimeUnit} (hu : u.secondCount = 0) (w : Week)
    (k : Int) (edge : Edge) :
    OnCalendar (u.edgeSecond w k edge) ↔ 12 ≤ u.monthCount * k ∧ u.monthCount * k < 120000 := by
  cases edge with
  | start => rw [edgeSecond_start_of_months hu, onCalendar_monthSecond_iff]
  | finish =>
    rw [edgeSecond_finish_of_months hu, Int.sub_add_cancel, onCalendar_before_monthSecond_iff]
    cases u with
    | month | quarter | year =>
      simp only [monthCount]
      omega
    | _ => cases hu

namespace Span

theorem clockSeconds_ofUnits (n : Int) (u : TimeUnit) :
    (ofUnits n u).carried.clockSeconds = u.secondCount * n := by
  rw [clockSeconds_carried]
  cases u <;> simp only [ofUnits, clockSeconds, zero, TimeUnit.secondCount] <;> omega

theorem months_ofUnits (n : Int) (u : TimeUnit) :
    12 * (ofUnits n u).carried.years + (ofUnits n u).carried.months = u.monthCount * n := by
  rw [months_carried]
  cases u <;> simp only [ofUnits, zero, TimeUnit.monthCount] <;> omega

end Span

namespace Date

theorem addMonths_eq_ok_iff {d d' : Date} {years months : Int} :
    d.addMonths years months = .ok d' ↔
      d'.monthNumber = d.monthNumber + (12 * years + months) ∧
        d'.day = min d.day (monthLength d'.monthNumber) := by
  constructor
  · intro h
    simp only [addMonths] at h
    split at h
    · cases h
      refine ⟨?_, ?_⟩
      · simp only [monthNumber, clamped]
        omega
      · rw [monthLength_monthNumber]
        rfl
    · split at h <;> cases h
  · rintro ⟨hnumber, hday⟩
    have hyear := d'.year_bounds
    have hmonth := d'.month_bounds
    have hcount : 12 * ((d.year : Int) + years) + (d.month - 1) + months = d'.monthNumber := by
      rw [hnumber]
      simp only [monthNumber]
      omega
    simp only [addMonths]
    rw [dif_pos (by rw [hcount, monthNumber_ediv]; omega)]
    congr 1
    apply ext_monthNumber
    · simp only [monthNumber, clamped, hcount]
      omega
    · rw [hday, monthLength_monthNumber]
      simp only [clamped, hcount, monthNumber_ediv, monthNumber_emod, Int.toNat_natCast]

/-- Outside the years 1 to 9999 the fault tells whether the year has a place in 32 bits. -/
theorem addMonths_eq_error_iff {d : Date} {years months : Int} {f : Fault} :
    d.addMonths years months = .error f ↔
      ¬ (1 ≤ (d.monthNumber + (12 * years + months)) / 12 ∧
          (d.monthNumber + (12 * years + months)) / 12 ≤ 9999) ∧
        f = if -2147483648 ≤ (d.monthNumber + (12 * years + months)) / 12 ∧
            (d.monthNumber + (12 * years + months)) / 12 < 2147483648
          then .noSuchYear else .pastCalendar := by
  have hcount : 12 * ((d.year : Int) + years) + (d.month - 1) + months =
      d.monthNumber + (12 * years + months) := by
    simp only [monthNumber]
    omega
  simp only [addMonths, hcount]
  split
  · rename_i hyear
    constructor
    · intro h
      cases h
    · intro h
      exact absurd hyear h.1
  · rename_i hyear
    split <;> simp only [Except.error.injEq, hyear, not_false_eq_true, true_and, eq_comm]

theorem isSome_addMonths {d : Date} {years months : Int} :
    (d.addMonths years months).toOption.isSome ↔
      12 ≤ d.monthNumber + (12 * years + months) ∧
        d.monthNumber + (12 * years + months) < 120000 := by
  simp only [addMonths, monthNumber]
  split
  · simp only [Except.toOption, Option.isSome_some, true_iff]
    omega
  · split <;> simp only [Except.toOption, Option.isSome_none, Bool.false_eq_true, false_iff] <;>
      omega

theorem addMonths_congr {years months years' months' : Int}
    (h : 12 * years + months = 12 * years' + months') (d : Date) :
    d.addMonths years months = d.addMonths years' months' := by
  have hcount : 12 * ((d.year : Int) + years) + (d.month - 1) + months =
      12 * ((d.year : Int) + years') + (d.month - 1) + months' := by
    omega
  simp only [addMonths, hcount]

theorem addMonths_zero {d : Date} {years months : Int} (h : 12 * years + months = 0) :
    d.addMonths years months = .ok d := by
  rw [addMonths_eq_ok_iff, h, monthLength_monthNumber]
  have := d.day_bounds
  omega

end Date

namespace Civil

theorem advance_eq_of_seconds {u : TimeUnit} (hu : u.monthCount = 0) (c : Civil) (n : Int) :
    c.advance u n = match c.addSeconds? (u.secondCount * n) with
      | some moved => .ok moved
      | none => .error .pastCalendar := by
  have hmonths := Span.months_ofUnits n u
  rw [hu, Int.zero_mul] at hmonths
  rw [advance, add, Date.addMonths_zero hmonths, Span.clockSeconds_ofUnits]
  rfl

theorem advance_eq_of_months {u : TimeUnit} (hu : u.secondCount = 0) (c : Civil) (n : Int) :
    c.advance u n = (c.date.addMonths (Span.ofUnits n u).carried.years
      (Span.ofUnits n u).carried.months).map (⟨·, c.clock⟩) := by
  rw [advance, add, Span.clockSeconds_ofUnits, hu, Int.zero_mul]
  cases c.date.addMonths _ _ with
  | error f => rfl
  | ok d =>
    have hsame : (⟨d, c.clock⟩ : Civil).addSeconds? 0 = some ⟨d, c.clock⟩ :=
      addSeconds?_eq_some_iff.mpr ⟨(Int.add_zero _).symm, rfl⟩
    simp only [bind, Except.bind, Except.map, hsame]

theorem advance_of_seconds {u : TimeUnit} (hu : u.monthCount = 0) (c : Civil) (n : Int) :
    (c.advance u n).toOption = c.addSeconds? (u.secondCount * n) := by
  rw [advance_eq_of_seconds hu]
  cases c.addSeconds? (u.secondCount * n) <;> rfl

theorem advance_of_months {u : TimeUnit} (hu : u.secondCount = 0) (c : Civil) (n : Int) :
    (c.advance u n).toOption =
      (c.date.addMonths (Span.ofUnits n u).carried.years
        (Span.ofUnits n u).carried.months).toOption.map (⟨·, c.clock⟩) := by
  rw [advance_eq_of_months hu]
  cases c.date.addMonths _ _ <;> rfl

/-- Units are moved by alike if they come to the same seconds and to the same months. -/
theorem advance_congr {u u' : TimeUnit} {n n' : Int}
    (hseconds : u.secondCount * n = u'.secondCount * n')
    (hmonths : u.monthCount * n = u'.monthCount * n') (c : Civil) :
    c.advance u n = c.advance u' n' := by
  rw [← Span.months_ofUnits, ← Span.months_ofUnits] at hmonths
  rw [advance, advance, add, add, Span.clockSeconds_ofUnits, Span.clockSeconds_ofUnits, hseconds,
    Date.addMonths_congr hmonths]

theorem unitNumber_advance {c c' : Civil} {u : TimeUnit} {n : Int}
    (h : (c.advance u n).toOption = some c') (w : Week) :
    c'.unitNumber w u = c.unitNumber w u + n := by
  rcases u.count_eq_zero with hu | hu
  · rw [advance_of_seconds hu, addSeconds?_eq_some_iff] at h
    cases u <;> cases hu <;> simp only [TimeUnit.secondCount] at h <;>
      simp only [unitNumber] <;> omega
  · rw [advance_of_months hu, Option.map_eq_some_iff] at h
    obtain ⟨d, hd, rfl⟩ := h
    have hmonth := (Date.addMonths_eq_ok_iff.mp (eq_ok_of_toOption hd)).1
    rw [Span.months_ofUnits] at hmonth
    cases u <;> cases hu <;> simp only [TimeUnit.monthCount] at hmonth <;>
      simp only [unitNumber] <;> omega

theorem isSome_advance {c : Civil} {u : TimeUnit} {w : Week} {k : Int} {edge : Edge}
    (hc : c.seconds = u.edgeSecond w k edge) (n : Int) :
    (c.advance u n).toOption.isSome ↔ OnCalendar (u.edgeSecond w (k + n) edge) := by
  rcases u.count_eq_zero with hu | hu
  · rw [advance_of_seconds hu, TimeUnit.edgeSecond_add hu, ← hc, onCalendar_iff]
    exact isSome_ofSeconds? _
  · have hk := unitNumber_of_edge hc
    rw [advance_of_months hu, Option.isSome_map, Date.isSome_addMonths, Span.months_ofUnits,
      TimeUnit.onCalendar_edgeSecond_iff hu]
    cases u <;> cases hu <;> simp only [unitNumber, TimeUnit.monthCount] at hk ⊢ <;> omega

/-- Moving an edge of a unit and taking the edge again gives the same edge `n` units away. -/
theorem advance_edge {c : Civil} {u : TimeUnit} {w : Week} {k : Int} {edge : Edge}
    (hc : c.seconds = u.edgeSecond w k edge) (n : Int) :
    ((c.advance u n).toOption.bind (·.edgeOf? u w edge)) =
      atSecond? (u.edgeSecond w (k + n) edge) := by
  have hsome := isSome_advance hc n
  cases h : (c.advance u n).toOption with
  | none =>
    rw [h] at hsome
    exact (atSecond?_eq_none_iff.mpr (mt hsome.mpr (by decide))).symm
  | some c' =>
    rw [Option.bind_some, edgeOf?_eq, unitNumber_advance h w, unitNumber_of_edge hc]

end Civil

end TimePhrase
