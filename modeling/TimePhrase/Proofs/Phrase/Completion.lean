import TimePhrase.Phrase.Layout

namespace TimePhrase

/-- What the wall shows in a field. -/
def Civil.value (c : Civil) : Field → Nat
  | .year => c.date.year
  | .month => c.date.month
  | .day => c.date.day
  | .hour => c.clock.hour
  | .minute => c.clock.minute
  | .second => c.clock.second

theorem Civil.of?_self (c : Civil) : of? c.date.year c.date.month c.date.day c.clock.hour
    c.clock.minute c.clock.second c.clock.microsecond = some c := by
  rw [of?, Date.of?, Clock.of?, dif_pos c.date.valid, dif_pos c.clock.valid]
  rfl

namespace Moment

def onDate (m : Moment) (d : Date) : Moment := ⟨⟨d, m.wall.wholeSecond.clock⟩, m.frame, false⟩

/-- The second of the moment in another year; a missing 29th of February becomes the 28th. -/
def inYear (m : Moment) (y : Nat) (hy : 1 ≤ y ∧ y ≤ 9999) : Moment :=
  m.onDate (.clamped y m.wall.date.month m.wall.date.day hy m.wall.date.month_bounds
    m.wall.date.day_bounds.1)

def atClock (m : Moment) (k : Clock) : Moment := ⟨⟨m.wall.date, k⟩, m.frame, false⟩

end Moment

theorem Date.clamped_self (d : Date) :
    clamped d.year d.month d.day d.year_bounds d.month_bounds d.day_bounds.1 = d := by
  have hday : min d.day (daysInMonth d.year d.month) = d.day := Nat.min_eq_left d.day_bounds.2
  simp only [clamped, hday]

/-- A day is missing from the same month of another year only if it is the 29th of February. -/
theorem Date.daysInMonth_lt_day_iff (d : Date) (y : Nat) :
    daysInMonth y d.month < d.day ↔ d.month = 2 ∧ d.day = 29 ∧ isLeap y = false := by
  have hday := d.day_bounds.2
  by_cases hmonth : d.month = 2
  · have hfebruary (z : Nat) : daysInMonth z d.month = if isLeap z then 29 else 28 := by
      rw [daysInMonth, if_pos hmonth]
    rw [hfebruary] at hday ⊢
    have hlast : d.day ≤ 29 := by
      split at hday
      · exact hday
      · omega
    cases isLeap y with
    | false =>
      simp only [Bool.false_eq_true, if_false, and_true]
      omega
    | true =>
      simp only [if_true, Bool.true_eq_false, and_false, iff_false]
      omega
  · have hsame : daysInMonth y d.month = daysInMonth d.year d.month := by
      rw [daysInMonth, daysInMonth, if_neg hmonth, if_neg hmonth]
    omega

namespace Layout

/-- The spelled fields and the other ones of `now`, with the day brought within the month. -/
def fill? (l : Layout) (parsed now : Civil) : Option Civil :=
  let value (f : Field) : Nat := (if f ∈ l.fields then parsed else now).value f
  Civil.of? (value .year) (value .month)
    (min (value .day) (daysInMonth (value .year) (value .month)))
    (value .hour) (value .minute) (value .second) 0

theorem fill?_eq (l : Layout) (parsed : Civil) (now : Moment) :
    l.fill? parsed now.wall = some (l.complete parsed now).wall := by
  have hself := Civil.of?_self (l.complete parsed now).wall
  simp only [complete, Date.clamped] at hself
  simp only [fill?, Civil.value, hself, complete, Date.clamped]

theorem mem_fields_year {f : Field} : f ∈ year.fields ↔ f = .year := by
  cases f <;> decide

theorem mem_fields_date {f : Field} : f ∈ date.fields ↔ f = .year ∨ f = .month ∨ f = .day := by
  cases f <;> decide

theorem mem_fields_dateTime (f : Field) : f ∈ dateTime.fields := by
  cases f <;> decide

theorem mem_fields_time {f : Field} : f ∈ time.fields ↔ f = .hour ∨ f = .minute ∨ f = .second := by
  cases f <;> decide

variable (c : Civil) (now : Moment)

theorem complete_year : year.complete c now = now.inYear c.date.year c.date.year_bounds := by
  simp only [complete, mem_fields_year, reduceCtorEq, if_true, if_false]
  rfl

theorem complete_date : date.complete c now = now.onDate c.date := by
  simp only [complete, mem_fields_date, reduceCtorEq, true_or, or_true, or_self, if_true, if_false,
    Date.clamped_self]
  rfl

theorem complete_dateTime : dateTime.complete c now = ⟨c.wholeSecond, now.frame, false⟩ := by
  simp only [complete, mem_fields_dateTime, if_true, Date.clamped_self]
  rfl

theorem complete_time : time.complete c now = now.atClock c.wholeSecond.clock := by
  simp only [complete, mem_fields_time, reduceCtorEq, true_or, or_true, or_self, if_true, if_false,
    Date.clamped_self]
  rfl

/-- The one of two wall times that a layout takes a field from. -/
def source (l : Layout) (parsed now : Civil) (f : Field) : Civil :=
  if f ∈ l.fields then parsed else now

theorem source_of_mem {l : Layout} {f : Field} (hf : f ∈ l.fields) (parsed now : Civil) :
    l.source parsed now f = parsed := if_pos hf

theorem source_of_not_mem {l : Layout} {f : Field} (hf : f ∉ l.fields) (parsed now : Civil) :
    l.source parsed now f = now := if_neg hf

/-- Apart from a year alone, a layout has all the fields of a date or none of them. -/
theorem source_date {l : Layout} (hl : l ≠ .year) (parsed now : Civil) :
    l.source parsed now .year = l.source parsed now .day ∧
      l.source parsed now .month = l.source parsed now .day := by
  cases l with
  | year => exact absurd rfl hl
  | date => exact ⟨rfl, rfl⟩
  | dateTime => exact ⟨rfl, rfl⟩
  | time => exact ⟨rfl, rfl⟩

theorem value_complete {l : Layout} {f : Field} (h : ¬(l = .year ∧ f = .day)) (parsed : Civil)
    (now : Moment) :
    (l.complete parsed now).wall.value f = (l.source parsed now.wall f).value f := by
  cases f with
  | day =>
    have hl : l ≠ .year := fun hl => h ⟨hl, rfl⟩
    obtain ⟨hyear, hmonth⟩ := source_date hl parsed now.wall
    have hday : (l.complete parsed now).wall.value .day =
        min (l.source parsed now.wall .day).date.day
          (daysInMonth (l.source parsed now.wall .year).date.year
            (l.source parsed now.wall .month).date.month) := rfl
    rw [hday, hyear, hmonth]
    exact Nat.min_eq_left (l.source parsed now.wall .day).date.day_bounds.2
  | year => simp only [complete, Date.clamped, Civil.value, source]
  | month => simp only [complete, Date.clamped, Civil.value, source]
  | hour => simp only [complete, Civil.value, source]
  | minute => simp only [complete, Civil.value, source]
  | second => simp only [complete, Civil.value, source]

theorem value_complete_year_day (parsed : Civil) (now : Moment) :
    (year.complete parsed now).wall.value .day =
      min now.wall.date.day (daysInMonth parsed.date.year now.wall.date.month) := by
  rw [complete_year]
  rfl

/-- Each field keeps its value, but the day of a year alone is brought within its month. -/
theorem complete_keeps_fields (l : Layout) (parsed now : Moment) :
    ∃ c, l.fill? parsed.wall now.wall = some c ∧
      l.complete parsed.wall now = ⟨c, now.frame, false⟩ ∧ c.clock.microsecond = 0 ∧
      (∀ f ∈ l.fields, c.value f = parsed.wall.value f) ∧
      (∀ f ∉ l.fields, c.value f =
        if l = .year ∧ f = .day then
          min now.wall.date.day (daysInMonth parsed.wall.date.year now.wall.date.month)
        else now.wall.value f) ∧
      ∀ f ∉ l.fields, c.value f ≠ now.wall.value f ↔
        (l = .year ∧ f = .day) ∧ now.wall.date.month = 2 ∧ now.wall.date.day = 29 ∧
          isLeap parsed.wall.date.year = false := by
  refine ⟨_, l.fill?_eq parsed.wall now, rfl, rfl, ?_, ?_, ?_⟩
  · intro f hf
    have hne : ¬(l = .year ∧ f = .day) := by
      rintro ⟨rfl, rfl⟩
      exact absurd hf (by decide)
    rw [value_complete hne, source_of_mem hf]
  · intro f hf
    split
    case isTrue h =>
      obtain ⟨rfl, rfl⟩ := h
      exact value_complete_year_day parsed.wall now
    case isFalse h =>
      rw [value_complete h, source_of_not_mem hf]
  · intro f hf
    by_cases h : l = .year ∧ f = .day
    · obtain ⟨rfl, rfl⟩ := h
      rw [value_complete_year_day, ← Date.daysInMonth_lt_day_iff]
      simp only [Civil.value, and_self, true_and]
      omega
    · simp only [value_complete h, source_of_not_mem hf, h, ne_eq, not_true_eq_false, false_and]

theorem complete_keeps_fields_leap_day :
    ∃ c, year.fill? ⟨⟨2100, 1, 1, by decide⟩, .midnight⟩
        ⟨⟨2024, 2, 29, by decide⟩, ⟨13, 45, 30, 7, by decide⟩⟩ = some c ∧
      c.clock.microsecond = 0 ∧ Field.year ∈ year.fields ∧ c.date.year = 2100 ∧
      Field.second ∉ year.fields ∧ c.clock.second = 30 ∧
      Field.day ∉ year.fields ∧ c.date.day = 28 ∧ c.date.day ≠ 29 := by
  obtain ⟨c, hfill, _, hmicrosecond, hspelled, htaken, hmoved⟩ := complete_keeps_fields .year
    ⟨⟨⟨2100, 1, 1, by decide⟩, .midnight⟩, .floating, false⟩
    ⟨⟨⟨2024, 2, 29, by decide⟩, ⟨13, 45, 30, 7, by decide⟩⟩, .zone .newYork, true⟩
  have hyear := hspelled .year (by decide)
  have hsecond := htaken .second (by decide)
  have hday := htaken .day (by decide)
  have hne := (hmoved .day (by decide)).mpr ⟨⟨rfl, rfl⟩, rfl, rfl, rfl⟩
  exact ⟨c, hfill, hmicrosecond, by decide, hyear, by decide, hsecond, by decide, hday, hne⟩

end Layout

end TimePhrase
