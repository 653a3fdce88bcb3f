import TimePhrase.Moment.Basic

namespace TimePhrase

/-- The year that stands at the same place of the 400-year cycle. -/
def cycleYear (y : Int) : Nat := (y % 400).toNat

def daysToYear (y : Int) : Int := 365 * (y - 1) + (y - 1) / 4 - (y - 1) / 100 + (y - 1) / 400

/-- The days from the start of the year 1 to the start of month `k`. -/
def daysToMonth (k : Int) : Int :=
  daysToYear (k / 12) + daysBeforeMonth (cycleYear (k / 12)) ((k % 12).toNat + 1)

def monthLength (k : Int) : Nat := daysInMonth (cycleYear (k / 12)) ((k % 12).toNat + 1)

def Date.monthNumber (d : Date) : Int := 12 * d.year + d.month - 1

theorem isLeap_cycleYear_iff (y : Int) :
    isLeap (cycleYear y) = true ↔ y % 4 = 0 ∧ (y % 100 ≠ 0 ∨ y % 400 = 0) := by
  rw [isLeap, decide_eq_true_iff, cycleYear]
  omega

theorem isLeap_cycleYear (y : Nat) : isLeap (cycleYear y) = isLeap y := by
  rw [Bool.eq_iff_iff, isLeap_cycleYear_iff, isLeap, decide_eq_true_iff]
  omega

theorem daysInMonth_congr {y z : Nat} (h : isLeap y = isLeap z) (m : Nat) :
    daysInMonth y m = daysInMonth z m := by
  simp only [daysInMonth, h]

theorem daysBeforeMonth_congr {y z : Nat} (h : isLeap y = isLeap z) (m : Nat) :
    daysBeforeMonth y m = daysBeforeMonth z m := by
  induction m with
  | zero => rfl
  | succ m ih =>
    cases m with
    | zero => rfl
    | succ m => simp only [daysBeforeMonth, ih, daysInMonth_congr h]

theorem daysToYear_natCast {y : Nat} (h : 1 ≤ y) : daysToYear y = daysBeforeYear y := by
  simp only [daysToYear, daysBeforeYear]
  omega

theorem daysToYear_succ (y : Int) :
    daysToYear (y + 1) = daysToYear y + daysBeforeMonth (cycleYear y) 13 := by
  rw [daysBeforeMonth_thirteen]
  simp only [daysToYear]
  split <;> rename_i h <;> rw [isLeap_cycleYear_iff] at h <;> omega

theorem monthLength_bounds (k : Int) : 28 ≤ monthLength k ∧ monthLength k ≤ 31 :=
  daysInMonth_bounds _ _

/-- The months follow each other without a gap, also where the year ends. -/
theorem daysToMonth_succ (k : Int) : daysToMonth (k + 1) = daysToMonth k + monthLength k := by
  by_cases hlast : k % 12 = 11
  · have hdiv : (k + 1) / 12 = k / 12 + 1 := by omega
    have hmod : ((k + 1) % 12).toNat + 1 = 1 := by omega
    have hmonth : (k % 12).toNat + 1 = 12 := by omega
    have hyear := daysToYear_succ (k / 12)
    have hfirst : daysBeforeMonth (cycleYear (k / 12 + 1)) 1 = 0 := rfl
    rw [daysBeforeMonth_succ _ (by decide : 1 ≤ 12)] at hyear
    simp only [daysToMonth, monthLength, hdiv, hmod, hmonth, hyear, hfirst]
    omega
  · have hdiv : (k + 1) / 12 = k / 12 := by omega
    have hmod : ((k + 1) % 12).toNat + 1 = (k % 12).toNat + 1 + 1 := by omega
    have hnext := daysBeforeMonth_succ (cycleYear (k / 12)) (Nat.le_add_left 1 (k % 12).toNat)
    simp only [daysToMonth, monthLength, hdiv, hmod, hnext]
    omega

theorem daysToMonth_mono {k l : Int} (h : k ≤ l) : daysToMonth k ≤ daysToMonth l := by
  obtain ⟨n, rfl⟩ : ∃ n : Nat, l = k + n := ⟨(l - k).toNat, by omega⟩
  induction n with
  | zero => simp
  | succ n ih =>
    have hstep := daysToMonth_succ (k + n)
    have hle := ih (by omega)
    rw [Int.natCast_succ, ← Int.add_assoc]
    omega

theorem daysToMonth_lt_iff {k l : Int} : daysToMonth k < daysToMonth l ↔ k < l := by
  constructor
  · intro h
    apply Int.not_le.mp
    intro hle
    have hmono := daysToMonth_mono hle
    omega
  · intro h
    have hstep := daysToMonth_succ k
    have hlength := monthLength_bounds k
    have hmono := daysToMonth_mono (Int.add_one_le_of_lt h)
    omega

namespace Date

theorem monthNumber_ediv (d : Date) : d.monthNumber / 12 = d.year := by
  have := d.month_bounds
  simp only [monthNumber]
  omega

theorem monthNumber_emod (d : Date) : (d.monthNumber % 12).toNat + 1 = d.month := by
  have := d.month_bounds
  simp only [monthNumber]
  omega

theorem monthLength_monthNumber (d : Date) :
    monthLength d.monthNumber = daysInMonth d.year d.month := by
  simp only [monthLength, monthNumber_ediv, monthNumber_emod]
  exact daysInMonth_congr (isLeap_cycleYear d.year) d.month

theorem number_eq (d : Date) : (d.number : Int) = daysToMonth d.monthNumber + d.day := by
  have hmonth := daysBeforeMonth_congr (isLeap_cycleYear d.year) d.month
  simp only [daysToMonth, monthNumber_ediv, monthNumber_emod, hmonth,
    daysToYear_natCast d.year_bounds.1, number, dayNumber]
  omega

theorem daysToMonth_lt_number_iff (d : Date) (k : Int) :
    daysToMonth k < d.number ↔ k ≤ d.monthNumber := by
  have hnumber := d.number_eq
  have hday := d.day_bounds
  rw [← monthLength_monthNumber] at hday
  constructor
  · intro h
    apply Int.lt_add_one_iff.mp
    rw [← daysToMonth_lt_iff, daysToMonth_succ]
    omega
  · intro h
    have hmono := daysToMonth_mono h
    omega

theorem ext_monthNumber {d d' : Date} (hm : d.monthNumber = d'.monthNumber)
    (hd : d.day = d'.day) : d = d' := by
  apply number_injective
  have h := d.number_eq
  have h' := d'.number_eq
  rw [hm, hd] at h
  omega

end Date

theorem Clock.zero_microsecond_lt : 0 < 1000000 := by decide

/-- Some wall time of the years 1 to 9999 shows second `n`. -/
def OnCalendar (n : Int) : Prop := ∃ c : Civil, c.seconds = n

def monthSecond (k : Int) : Int := 86400 * (daysToMonth k + 1 - epochDay)

namespace TimeUnit

/-- The first second of unit `k`: days count from 1970, months and years from the year 0. -/
def firstSecond (w : Week) (k : Int) : TimeUnit → Int
  | second => k
  | minute => 60 * k
  | hour => 3600 * k
  | day => 86400 * k
  | week => 86400 * (7 * k + w.firstDay - 3)
  | month => monthSecond k
  | quarter => monthSecond (3 * k)
  | year => monthSecond (12 * k)

/-- The last second of unit `k`, the one before the next unit begins. -/
def lastSecond (u : TimeUnit) (w : Week) (k : Int) : Int := u.firstSecond w (k + 1) - 1

def edgeSecond (u : TimeUnit) (w : Week) (k : Int) : Edge → Int
  | .start => u.firstSecond w k
  | .finish => u.lastSecond w k

end TimeUnit

namespace Civil

/-- The number of the unit that contains the wall time. -/
def unitNumber (c : Civil) (w : Week) : TimeUnit → Int
  | .second => c.seconds
  | .minute => c.seconds / 60
  | .hour => c.seconds / 3600
  | .day => c.seconds / 86400
  | .week => (c.seconds / 86400 + 3 - w.firstDay) / 7
  | .month => c.date.monthNumber
  | .quarter => c.date.monthNumber / 3
  | .year => c.date.monthNumber / 12

def edgeOf? (c : Civil) (u : TimeUnit) (w : Week) : Edge → Option Civil
  | .start => c.firstIn? w u
  | .finish => c.lastIn? w u

end Civil

theorem onCalendar_iff {n : Int} : OnCalendar n ↔ -62135596800 ≤ n ∧ n < 253402300800 := by
  rw [← Civil.isSome_ofSeconds? (by decide : 0 < 1000000), Option.isSome_iff_exists]
  constructor
  · rintro ⟨c, rfl⟩
    exact ⟨c.wholeSecond, (Civil.ofSeconds?_eq_some_iff _).mpr ⟨rfl, rfl⟩⟩
  · rintro ⟨c, hc⟩
    exact ⟨c, ((Civil.ofSeconds?_eq_some_iff _).mp hc).1⟩

instance (n : Int) : Decidable (OnCalendar n) := decidable_of_iff _ onCalendar_iff.symm

theorem OnCalendar.between {a b n : Int} (ha : OnCalendar a) (hb : OnCalendar b) (han : a ≤ n)
    (hnb : n ≤ b) : OnCalendar n := by
  rw [onCalendar_iff] at ha hb ⊢
  omega

theorem Civil.onCalendar (c : Civil) : OnCalendar c.seconds := ⟨c, rfl⟩

namespace Civil

theorem monthSecond_le_seconds_iff (c : Civil) (k : Int) :
    monthSecond k ≤ c.seconds ↔ k ≤ c.date.monthNumber := by
  rw [← c.date.daysToMonth_lt_number_iff]
  have := c.clock.seconds_lt
  simp only [monthSecond, seconds]
  omega

/-- A wall time lies in the unit with its number and in no other. -/
theorem firstSecond_le_seconds_iff (c : Civil) (w : Week) (u : TimeUnit) (k : Int) :
    u.firstSecond w k ≤ c.seconds ↔ k ≤ c.unitNumber w u := by
  cases u with
  | second => exact Iff.rfl
  | minute => simp only [TimeUnit.firstSecond, unitNumber]; omega
  | hour => simp only [TimeUnit.firstSecond, unitNumber]; omega
  | day => simp only [TimeUnit.firstSecond, unitNumber]; omega
  | week => simp only [TimeUnit.firstSecond, unitNumber]; omega
  | month => exact c.monthSecond_le_seconds_iff k
  | quarter =>
    simp only [TimeUnit.firstSecond, unitNumber, monthSecond_le_seconds_iff]
    omega
  | year =>
    simp only [TimeUnit.firstSecond, unitNumber, monthSecond_le_seconds_iff]
    omega

theorem firstSecond_le_seconds (c : Civil) (w : Week) (u : TimeUnit) :
    u.firstSecond w (c.unitNumber w u) ≤ c.seconds :=
  (c.firstSecond_le_seconds_iff w u _).mpr (Int.le_refl _)

theorem seconds_le_lastSecond (c : Civil) (w : Week) (u : TimeUnit) :
    c.seconds ≤ u.lastSecond w (c.unitNumber w u) := by
  have h := c.firstSecond_le_seconds_iff w u (c.unitNumber w u + 1)
  simp only [TimeUnit.lastSecond]
  omega

theorem eq_unitNumber {c : Civil} {w : Week} {u : TimeUnit} {k : Int}
    (hfirst : u.firstSecond w k ≤ c.seconds) (hlast : c.seconds ≤ u.lastSecond w k) :
    c.unitNumber w u = k := by
  have hk := (c.firstSecond_le_seconds_iff w u k).mp hfirst
  have hnext := c.firstSecond_le_seconds_iff w u (k + 1)
  simp only [TimeUnit.lastSecond] at hlast
  omega

end Civil

theorem monthSecond_lt_iff {k l : Int} : monthSecond k < monthSecond l ↔ k < l := by
  have h : daysToMonth k < daysToMonth l ↔ k < l := daysToMonth_lt_iff
  simp only [monthSecond]
  omega

namespace TimeUnit

theorem firstSecond_lt_iff {u : TimeUnit} {w : Week} {k l : Int} :
    u.firstSecond w k < u.firstSecond w l ↔ k < l := by
  cases u with
  | second => exact Iff.rfl
  | minute => simp only [firstSecond]; omega
  | hour => simp only [firstSecond]; omega
  | day => simp only [firstSecond]; omega
  | week => simp only [firstSecond]; omega
  | month => exact monthSecond_lt_iff
  | quarter => simp only [firstSecond, monthSecond_lt_iff]; omega
  | year => simp only [firstSecond, monthSecond_lt_iff]; omega

theorem firstSecond_lt_succ (u : TimeUnit) (w : Week) (k : Int) :
    u.firstSecond w k < u.firstSecond w (k + 1) :=
  firstSecond_lt_iff.mpr (Int.lt_add_one_of_le (Int.le_refl k))

theorem edgeSecond_lt_iff {u : TimeUnit} {w : Week} {k l : Int} {edge : Edge} :
    u.edgeSecond w k edge < u.edgeSecond w l edge ↔ k < l := by
  cases edge with
  | start => exact firstSecond_lt_iff
  | finish =>
    have h : u.firstSecond w (k + 1) < u.firstSecond w (l + 1) ↔ k + 1 < l + 1 :=
      firstSecond_lt_iff
    simp only [edgeSecond, lastSecond]
    omega

theorem edgeSecond_le_iff {u : TimeUnit} {w : Week} {k l : Int} {edge : Edge} :
    u.edgeSecond w k edge ≤ u.edgeSecond w l edge ↔ k ≤ l := by
  rw [← Int.not_lt, edgeSecond_lt_iff, Int.not_lt]

theorem edgeSecond_bounds (u : TimeUnit) (w : Week) (k : Int) (edge : Edge) :
    u.firstSecond w k ≤ u.edgeSecond w k edge ∧ u.edgeSecond w k edge ≤ u.lastSecond w k := by
  have h := u.firstSecond_lt_succ w k
  cases edge with
  | start => simp only [edgeSecond, lastSecond]; omega
  | finish => simp only [edgeSecond, lastSecond]; omega

end TimeUnit

theorem Civil.unitNumber_of_edge {c : Civil} {w : Week} {u : TimeUnit} {k : Int} {edge : Edge}
    (h : c.seconds = u.edgeSecond w k edge) : c.unitNumber w u = k := by
  have hedge := u.edgeSecond_bounds w k edge
  rw [← h] at hedge
  exact eq_unitNumber hedge.1 hedge.2

end TimePhrase
