import TimePhrase.Calendar.Civil

namespace TimePhrase

/-- From `instant` on, in seconds since 1970 UTC, clocks are `offset` seconds ahead of UTC. -/
structure Change where
  instant : Int
  offset : Int
deriving DecidableEq

/-- A Sunday of a month, with 5 for its last one, and a second of that day. -/
structure SundayRule where
  month : Nat
  nth : Nat
  second : Int
deriving DecidableEq

/-- Daylight saving time: it starts by the standard clock and ends by the daylight clock. -/
structure YearlyRule where
  standard : Int
  daylight : Int
  starts : SundayRule
  ends : SundayRule
deriving DecidableEq

structure History where
  first : Int
  changes : List Change
  /-- What continues the changes after the last one. -/
  rule : Option YearlyRule
deriving DecidableEq

def SundayRule.day (r : SundayRule) (y : Nat) : Nat :=
  let sunday := 7 - Date.weekdayOf (dayNumber y r.month 1)
  let day := sunday + 7 * (r.nth - 1)
  if daysInMonth y r.month < day then day - 7 else day

def SundayRule.seconds (r : SundayRule) (y : Nat) : Int :=
  86400 * ((dayNumber y r.month (r.day y) : Int) - epochDay) + r.second

def YearlyRule.changesOf (r : YearlyRule) (y : Nat) : List Change :=
  let start := ⟨r.starts.seconds y - r.standard, r.daylight⟩
  let finish := ⟨r.ends.seconds y - r.daylight, r.standard⟩
  if r.starts.month < r.ends.month then [start, finish] else [finish, start]

namespace History

/-- The rule adds only changes after all listed ones; the year before settles how one begins. -/
def changesFor (h : History) (y : Nat) : List Change :=
  match h.rule with
  | none => h.changes
  | some r =>
    let added := r.changesOf (y - 1) ++ r.changesOf y
    h.changes ++ added.filter fun c => h.changes.all (·.instant < c.instant)

/-- On the first pass a change is past after its gap or repeated hour, else from its start. -/
def offsetOnWall (fold : Bool) (w : Int) (offset : Int) : List Change → Int
  | [] => offset
  | c :: rest =>
    if c.instant + (if fold then min offset c.offset else max offset c.offset) ≤ w then
      offsetOnWall fold w c.offset rest
    else offset

/-- The offset at instant `u`, and whether the clock then repeats a time it has shown before. -/
def offsetAt (u : Int) (offset : Int) (fold : Bool) : List Change → Int × Bool
  | [] => (offset, fold)
  | c :: rest =>
    if c.instant ≤ u then
      offsetAt u c.offset (u < c.instant + (offset - c.offset)) rest
    else (offset, fold)

def wallOffset (h : History) (wall : Civil) (fold : Bool) : Int :=
  offsetOnWall fold wall.seconds h.first (h.changesFor wall.date.year)

def utcOffset (h : History) (utc : Civil) : Int × Bool :=
  offsetAt utc.seconds h.first false (h.changesFor utc.date.year)

end History

/-- No clock is more than 16 hours off UTC. -/
def OffsetBounded (o : Int) : Prop := -57600 ≤ o ∧ o ≤ 57600

instance (o : Int) : Decidable (OffsetBounded o) := inferInstanceAs (Decidable (_ ∧ _))

def yearSecond (y : Nat) : Int := 86400 * ((daysBeforeYear y : Int) + 1 - epochDay)

namespace SundayRule

structure Regular (r : SundayRule) : Prop where
  month : 2 ≤ r.month ∧ r.month ≤ 11
  nth : 1 ≤ r.nth ∧ r.nth ≤ 5
  second : 0 ≤ r.second ∧ r.second ≤ 86400

instance (r : SundayRule) : Decidable r.Regular :=
  decidable_of_iff ((2 ≤ r.month ∧ r.month ≤ 11) ∧ (1 ≤ r.nth ∧ r.nth ≤ 5) ∧
      0 ≤ r.second ∧ r.second ≤ 86400)
    ⟨fun ⟨hmonth, hnth, hsecond⟩ => ⟨hmonth, hnth, hsecond⟩,
      fun ⟨hmonth, hnth, hsecond⟩ => ⟨hmonth, hnth, hsecond⟩⟩

end SundayRule

namespace YearlyRule

structure Regular (r : YearlyRule) : Prop where
  starts : r.starts.Regular
  ends : r.ends.Regular
  /-- A whole month lies between the two days. -/
  apart : r.starts.month + 2 ≤ r.ends.month ∨ r.ends.month + 2 ≤ r.starts.month
  standard : OffsetBounded r.standard
  daylight : OffsetBounded r.daylight

instance (r : YearlyRule) : Decidable r.Regular :=
  decidable_of_iff (r.starts.Regular ∧ r.ends.Regular ∧
      (r.starts.month + 2 ≤ r.ends.month ∨ r.ends.month + 2 ≤ r.starts.month) ∧
      OffsetBounded r.standard ∧ OffsetBounded r.daylight)
    ⟨fun ⟨hs, he, hapart, hstandard, hdaylight⟩ => ⟨hs, he, hapart, hstandard, hdaylight⟩,
      fun ⟨hs, he, hapart, hstandard, hdaylight⟩ => ⟨hs, he, hapart, hstandard, hdaylight⟩⟩

end YearlyRule

namespace History

/-- Changes in order and a week or more apart, the first one a week after second `t`. -/
def Spaced (t : Int) : List Change → Prop
  | [] => True
  | c :: rest => t + 604800 ≤ c.instant ∧ OffsetBounded c.offset ∧ Spaced c.instant rest

instance decidableSpaced : (t : Int) → (l : List Change) → Decidable (Spaced t l)
  | _, [] => isTrue trivial
  | t, c :: rest =>
    have := decidableSpaced c.instant rest
    inferInstanceAs (Decidable (t + 604800 ≤ c.instant ∧ OffsetBounded c.offset ∧
      Spaced c.instant rest))

def lastInstant (t : Int) (l : List Change) : Int := l.foldl (fun _ c => c.instant) t

def lastListed (h : History) : Int := lastInstant (yearSecond 1) h.changes

/-- The rule takes over in year `y`, a week or more after the last listed change. -/
structure JoinsIn (h : History) (r : YearlyRule) (y : Nat) : Prop where
  year : 2 ≤ y
  low : yearSecond y ≤ h.lastListed
  high : h.lastListed < yearSecond (y + 1)
  week : ∀ c ∈ r.changesOf y, h.lastListed < c.instant → h.lastListed + 604800 ≤ c.instant

instance (h : History) (r : YearlyRule) (y : Nat) : Decidable (h.JoinsIn r y) :=
  decidable_of_iff (2 ≤ y ∧ yearSecond y ≤ h.lastListed ∧ h.lastListed < yearSecond (y + 1) ∧
      ∀ c ∈ r.changesOf y, h.lastListed < c.instant → h.lastListed + 604800 ≤ c.instant)
    ⟨fun ⟨hy, hlow, hhigh, hweek⟩ => ⟨hy, hlow, hhigh, hweek⟩,
      fun ⟨hy, hlow, hhigh, hweek⟩ => ⟨hy, hlow, hhigh, hweek⟩⟩

/-- Offsets are bounded and changes well apart, also where the rule takes over. -/
structure Regular (h : History) : Prop where
  first : OffsetBounded h.first
  spaced : Spaced (yearSecond 1) h.changes
  rule : ∀ r, h.rule = some r → r.Regular ∧ ∃ y, h.JoinsIn r y

theorem Regular.of_no_rule {h : History} (hnone : h.rule = none) (hfirst : OffsetBounded h.first)
    (hspaced : Spaced (yearSecond 1) h.changes) : h.Regular where
  first := hfirst
  spaced := hspaced
  rule r hr := by rw [hnone] at hr; cases hr

theorem Regular.of_rule {h : History} {r : YearlyRule} (hrule : h.rule = some r) {y : Nat}
    (hfirst : OffsetBounded h.first) (hspaced : Spaced (yearSecond 1) h.changes)
    (hr : r.Regular) (hj : h.JoinsIn r y) : h.Regular where
  first := hfirst
  spaced := hspaced
  rule r' hr' := by
    rw [hrule] at hr'
    cases hr'
    exact ⟨hr, y, hj⟩

end History

end TimePhrase
