import TimePhrase.Text.Basic

namespace TimePhrase

inductive TimeUnit
  | second | minute | hour | day | week | month | quarter | year
deriving DecidableEq, Repr

namespace TimeUnit

def all : List TimeUnit := [second, minute, hour, day, week, month, quarter, year]

def name : TimeUnit → String
  | second => "second"
  | minute => "minute"
  | hour => "hour"
  | day => "day"
  | week => "week"
  | month => "month"
  | quarter => "quarter"
  | year => "year"

def ofName? (t : Text) : Option TimeUnit := all.find? (·.name.toList = t)

end TimeUnit

/-- The weekday that begins a week, with 0 for Monday. -/
structure Week where
  firstDay : Fin 7
deriving DecidableEq

namespace Week

/-- The week that begins on day `i`, with 0 for Sunday; a number out of range means Sunday. -/
def ofFirstDay (i : Int) : Week :=
  if 0 ≤ i ∧ i ≤ 6 then ⟨Fin.ofNat 7 (i.toNat + 6)⟩ else ⟨6⟩

def sunday : Week := ofFirstDay 0

def lastDay (w : Week) : Fin 7 := w.firstDay + 6

def dayNames : List String :=
  ["Monday", "Tuesday", "Wednesday", "Thursday", "Friday", "Saturday", "Sunday"]

def dayName (n : Nat) : String := dayNames.getD n ""

def describe (w : Week) : String :=
  "WeekConvention(" ++ dayName w.firstDay ++ "→" ++ dayName w.lastDay ++ ")"

def daysSince (w : Week) (d : Nat) : Nat := (d + 7 - w.firstDay) % 7

def daysUntil (w : Week) (d : Nat) : Nat := (w.lastDay + 7 - d) % 7

end Week

namespace Civil

/-- The first second of the unit; only a week can reach over the ends of the calendar. -/
def firstIn? (c : Civil) (w : Week) : TimeUnit → Option Civil
  | .second => some c.wholeSecond
  | .minute => some ⟨c.date, c.clock.atSecond 0 (by decide)⟩
  | .hour => some ⟨c.date, c.clock.atMinute 0 0 (by decide) (by decide)⟩
  | .day => some ⟨c.date, .midnight⟩
  | .week => do
    return ⟨← Date.ofNumber? (c.date.number - w.daysSince c.date.weekday), .midnight⟩
  | .month => some ⟨c.date.firstOf c.date.month c.date.month_bounds, .midnight⟩
  | .quarter => some
    ⟨c.date.firstOf (3 * c.date.quarter - 2) c.date.quarter_start_bounds, .midnight⟩
  | .year => some ⟨c.date.firstOf 1 (by decide), .midnight⟩

def lastIn? (c : Civil) (w : Week) : TimeUnit → Option Civil
  | .second => some c.wholeSecond
  | .minute => some ⟨c.date, c.clock.atSecond 59 (by decide)⟩
  | .hour => some ⟨c.date, c.clock.atMinute 59 59 (by decide) (by decide)⟩
  | .day => some ⟨c.date, .lastSecond⟩
  | .week => do
    return ⟨← Date.ofNumber? (c.date.number + w.daysUntil c.date.weekday), .lastSecond⟩
  | .month => some ⟨c.date.lastOf c.date.month c.date.month_bounds, .lastSecond⟩
  | .quarter => some
    ⟨c.date.lastOf (3 * c.date.quarter) c.date.quarter_finish_bounds, .lastSecond⟩
  | .year => some ⟨c.date.lastOf 12 (by decide), .lastSecond⟩

end Civil

structure Span where
  years : Int
  months : Int
  days : Int
  hours : Int
  minutes : Int
  seconds : Int
deriving DecidableEq

namespace Span

def zero : Span := ⟨0, 0, 0, 0, 0, 0⟩

def ofUnits (n : Int) : TimeUnit → Span
  | .second => { zero with seconds := n }
  | .minute => { zero with minutes := n }
  | .hour => { zero with hours := n }
  | .day => { zero with days := n }
  | .week => { zero with days := 7 * n }
  | .month => { zero with months := n }
  | .quarter => { zero with months := 3 * n }
  | .year => { zero with years := n }

/-- Carrying goes by magnitude: minus 90 seconds are minus one minute and minus 30 seconds. -/
def carried (p : Span) : Span :=
  let minutes := p.minutes + p.seconds.tdiv 60
  let hours := p.hours + minutes.tdiv 60
  { years := p.years + p.months.tdiv 12
    months := p.months.tmod 12
    days := p.days + hours.tdiv 24
    hours := hours.tmod 24
    minutes := minutes.tmod 60
    seconds := p.seconds.tmod 60 }

def clockSeconds (p : Span) : Int :=
  86400 * p.days + 3600 * p.hours + 60 * p.minutes + p.seconds

theorem clockSeconds_carried (p : Span) : p.carried.clockSeconds = p.clockSeconds := by
  have hs := Int.mul_tdiv_add_tmod p.seconds 60
  have hm := Int.mul_tdiv_add_tmod (p.minutes + p.seconds.tdiv 60) 60
  have hh := Int.mul_tdiv_add_tmod (p.hours + (p.minutes + p.seconds.tdiv 60).tdiv 60) 24
  simp only [clockSeconds, carried]
  omega

theorem months_carried (p : Span) :
    12 * p.carried.years + p.carried.months = 12 * p.years + p.months := by
  have hm := Int.mul_tdiv_add_tmod p.months 12
  simp only [carried]
  omega

end Span

/-- The same day of the month some years and months away, or the last one of a shorter month. -/
def Date.addMonths (d : Date) (years months : Int) : Except Fault Date :=
  let count := 12 * (d.year + years) + (d.month - 1) + months
  let y := count / 12
  if hy : 1 ≤ y ∧ y ≤ 9999 then
    .ok <| Date.clamped y.toNat ((count % 12).toNat + 1) d.day
      (by omega) (by omega) d.day_bounds.1
  else if -2147483648 ≤ y ∧ y < 2147483648 then .error .noSuchYear
  else .error .pastCalendar

namespace Civil

def add (c : Civil) (p : Span) : Except Fault Civil := do
  let date ← c.date.addMonths p.years p.months
  match Civil.addSeconds? ⟨date, c.clock⟩ p.clockSeconds with
  | some moved => .ok moved
  | none => .error .pastCalendar

def advance (c : Civil) (u : TimeUnit) (n : Int) : Except Fault Civil :=
  c.add (Span.ofUnits n u).carried

end Civil

end TimePhrase
