namespace TimePhrase

def isLeap (y : Nat) : Bool := decide (y % 4 = 0 ∧ (y % 100 ≠ 0 ∨ y % 400 = 0))

def daysInMonth (y m : Nat) : Nat :=
  if m = 2 then (if isLeap y then 29 else 28)
  else if m = 4 ∨ m = 6 ∨ m = 9 ∨ m = 11 then 30
  else 31

/-- The days of the year before the first of month `m`. -/
def daysBeforeMonth (y : Nat) : Nat → Nat
  | 0 => 0
  | 1 => 0
  | m + 2 => daysBeforeMonth y (m + 1) + daysInMonth y (m + 1)

/-- The days from the start of the year 1 to the start of year `y`. -/
def daysBeforeYear (y : Nat) : Nat :=
  365 * (y - 1) + (y - 1) / 4 - (y - 1) / 100 + (y - 1) / 400

/-- The number of a day; day 1 is the first of January of the year 1, a Monday. -/
def dayNumber (y m d : Nat) : Nat := daysBeforeYear y + daysBeforeMonth y m + d

def IsDate (y m d : Nat) : Prop :=
  1 ≤ y ∧ y ≤ 9999 ∧ 1 ≤ m ∧ m ≤ 12 ∧ 1 ≤ d ∧ d ≤ daysInMonth y m

instance (y m d : Nat) : Decidable (IsDate y m d) :=
  inferInstanceAs (Decidable (_ ∧ _))

/-- A date of the Gregorian calendar in the years 1 to 9999. -/
structure Date where
  year : Nat
  month : Nat
  day : Nat
  valid : IsDate year month day
deriving DecidableEq

theorem daysInMonth_bounds (y m : Nat) : 28 ≤ daysInMonth y m ∧ daysInMonth y m ≤ 31 := by
  unfold daysInMonth
  split
  · split <;> omega
  · split <;> omega

theorem daysBeforeMonth_succ (y : Nat) {m : Nat} (h : 1 ≤ m) :
    daysBeforeMonth y (m + 1) = daysBeforeMonth y m + daysInMonth y m := by
  obtain ⟨k, rfl⟩ : ∃ k, m = k + 1 := ⟨m - 1, by omega⟩
  rfl

theorem daysBeforeYear_succ {y : Nat} (h : 1 ≤ y) :
    daysBeforeYear (y + 1) = daysBeforeYear y + (if isLeap y then 366 else 365) := by
  obtain ⟨k, rfl⟩ : ∃ k, y = k + 1 := ⟨y - 1, by omega⟩
  have h4 := Nat.succ_div (a := k) (b := 4)
  have h100 := Nat.succ_div (a := k) (b := 100)
  have h400 := Nat.succ_div (a := k) (b := 400)
  simp only [Nat.dvd_iff_mod_eq_zero] at h4 h100 h400
  simp only [daysBeforeYear, isLeap, decide_eq_true_eq, Nat.add_sub_cancel]
  split at h4 <;> split at h100 <;> split at h400 <;> split <;> omega

theorem daysBeforeMonth_thirteen (y : Nat) :
    daysBeforeMonth y 13 = if isLeap y then 366 else 365 := by
  cases h : isLeap y <;> simp [daysBeforeMonth, daysInMonth, h]

namespace Date

def of? (y m d : Nat) : Option Date := if h : IsDate y m d then some ⟨y, m, d, h⟩ else none

def number (d : Date) : Nat := dayNumber d.year d.month d.day

/-- The weekday of a day number, with 0 for Monday. -/
def weekdayOf (n : Nat) : Nat := (n + 6) % 7

def weekday (d : Date) : Nat := weekdayOf d.number

/-- The year `n` days into the calendar; the mean length of a year gives it up to one. -/
def yearAt (n : Nat) : Nat :=
  let guess := 400 * n / 146097 + 1
  if n < daysBeforeYear guess then guess - 1
  else if daysBeforeYear (guess + 1) ≤ n then guess + 1
  else guess

/-- The last of the months 1 to `last` that starts within the first `n` days of the year. -/
def monthAt (y n : Nat) : Nat → Nat
  | 0 => 0
  | last + 1 => if daysBeforeMonth y (last + 1) ≤ n then last + 1 else monthAt y n last

def ofNumber? (n : Int) : Option Date :=
  if n < 1 then none
  else
    let days := n.toNat - 1
    let y := yearAt days
    let m := monthAt y (days - daysBeforeYear y) 12
    of? y m (days - daysBeforeYear y - daysBeforeMonth y m + 1)

def dayOfYear (d : Date) : Nat := daysBeforeMonth d.year d.month + d.day

theorem year_bounds (d : Date) : 1 ≤ d.year ∧ d.year ≤ 9999 := ⟨d.valid.1, d.valid.2.1⟩

theorem month_bounds (d : Date) : 1 ≤ d.month ∧ d.month ≤ 12 := ⟨d.valid.2.2.1, d.valid.2.2.2.1⟩

theorem day_bounds (d : Date) : 1 ≤ d.day ∧ d.day ≤ daysInMonth d.year d.month :=
  d.valid.2.2.2.2

def quarter (d : Date) : Nat := (d.month - 1) / 3 + 1

theorem quarter_bounds (d : Date) : 1 ≤ d.quarter ∧ d.quarter ≤ 4 := by
  have := d.month_bounds
  unfold quarter
  omega

theorem quarter_start_bounds (d : Date) : 1 ≤ 3 * d.quarter - 2 ∧ 3 * d.quarter - 2 ≤ 12 := by
  have := d.quarter_bounds
  omega

theorem quarter_finish_bounds (d : Date) : 1 ≤ 3 * d.quarter ∧ 3 * d.quarter ≤ 12 := by
  have := d.quarter_bounds
  omega

/-- Day `d` of a month, or its last day where the month is shorter. -/
def clamped (y m d : Nat) (hy : 1 ≤ y ∧ y ≤ 9999) (hm : 1 ≤ m ∧ m ≤ 12) (hd : 1 ≤ d) : Date where
  year := y
  month := m
  day := min d (daysInMonth y m)
  valid := by
    have := daysInMonth_bounds y m
    unfold IsDate
    omega

def firstOf (d : Date) (m : Nat) (hm : 1 ≤ m ∧ m ≤ 12) : Date where
  year := d.year
  month := m
  day := 1
  valid := by
    have := daysInMonth_bounds d.year m
    exact ⟨d.valid.1, d.valid.2.1, hm.1, hm.2, by omega, by omega⟩

def lastOf (d : Date) (m : Nat) (hm : 1 ≤ m ∧ m ≤ 12) : Date where
  year := d.year
  month := m
  day := daysInMonth d.year m
  valid := by
    have := daysInMonth_bounds d.year m
    exact ⟨d.valid.1, d.valid.2.1, hm.1, hm.2, by omega, by omega⟩

end Date

theorem daysBeforeYear_mono {y z : Nat} (h : 1 ≤ y) (hyz : y ≤ z) :
    daysBeforeYear y ≤ daysBeforeYear z := by
  induction hyz with
  | refl => exact Nat.le_refl _
  | @step z hz ih =>
    rw [Nat.succ_eq_add_one, daysBeforeYear_succ (Nat.le_trans h hz)]
    exact Nat.le_add_right_of_le ih

theorem daysBeforeMonth_mono (y : Nat) {m k : Nat} (hm : 1 ≤ m) (h : m ≤ k) :
    daysBeforeMonth y m ≤ daysBeforeMonth y k := by
  induction h with
  | refl => exact Nat.le_refl _
  | @step k hk ih =>
    rw [Nat.succ_eq_add_one, daysBeforeMonth_succ y (Nat.le_trans hm hk)]
    exact Nat.le_add_right_of_le ih

namespace Date

theorem yearAt_eq {y n : Nat} (hy : 1 ≤ y) (h : daysBeforeYear y ≤ n)
    (h' : n < daysBeforeYear (y + 1)) : yearAt n = y := by
  have hguess : y ≤ 400 * n / 146097 + 2 ∧ 400 * n / 146097 ≤ y := by
    unfold daysBeforeYear at h h'
    omega
  generalize hg : 400 * n / 146097 = g at hguess
  simp only [yearAt, hg]
  obtain rfl | rfl | hlow : g = y ∨ y = g + 1 ∨ y = g + 2 := by omega
  · simp [h']
  · simp [Nat.not_lt.mpr h, Nat.not_le.mpr h']
  · subst hlow
    have := daysBeforeYear_mono (Nat.le_add_left 1 g) (Nat.le_succ (g + 1))
    simp [Nat.not_lt.mpr (Nat.le_trans this h), h]

theorem monthAt_eq {y m n last : Nat} (hm : 1 ≤ m) (hl : m ≤ last) (h : daysBeforeMonth y m ≤ n)
    (h' : n < daysBeforeMonth y (m + 1)) : monthAt y n last = m := by
  induction last with
  | zero => omega
  | succ last ih =>
    obtain rfl | hlt : m = last + 1 ∨ m ≤ last := by omega
    · simp [monthAt, h]
    · have := daysBeforeMonth_mono y (Nat.le_add_left 1 m) (Nat.succ_le_succ hlt)
      simp [monthAt, Nat.not_le.mpr (Nat.lt_of_lt_of_le h' this), ih hlt]

theorem daysBeforeMonth_add_day_le {y m d : Nat} (h : IsDate y m d) :
    daysBeforeMonth y m + d ≤ if isLeap y then 366 else 365 := by
  obtain ⟨_, _, hm, hm', _, hd⟩ := h
  have := daysBeforeMonth_mono y (Nat.le_add_left 1 m) (Nat.succ_le_succ hm')
  rw [daysBeforeMonth_thirteen, daysBeforeMonth_succ y hm] at this
  omega

theorem dayNumber_bounds {y m d : Nat} (h : IsDate y m d) :
    daysBeforeYear y < dayNumber y m d ∧ dayNumber y m d ≤ daysBeforeYear (y + 1) := by
  have := daysBeforeMonth_add_day_le h
  rw [daysBeforeYear_succ h.1]
  have := h.2.2.2.2.1
  unfold dayNumber
  omega

theorem ofNumber?_dayNumber {y m d : Nat} (h : IsDate y m d) :
    ofNumber? (dayNumber y m d) = some ⟨y, m, d, h⟩ := by
  have ⟨hlow, hhigh⟩ := dayNumber_bounds h
  have ⟨hy, _, hm, hm', hd, hd'⟩ := h
  have hyear : yearAt (dayNumber y m d - 1) = y := yearAt_eq hy (by omega) (by omega)
  have hmonth : monthAt y (dayNumber y m d - 1 - daysBeforeYear y) 12 = m := by
    apply monthAt_eq hm hm'
    · unfold dayNumber
      omega
    · rw [daysBeforeMonth_succ y hm]
      unfold dayNumber
      omega
  have hday : dayNumber y m d - 1 - daysBeforeYear y - daysBeforeMonth y m + 1 = d := by
    unfold dayNumber
    omega
  have hpos : ¬ (dayNumber y m d : Int) < 1 := by omega
  simp only [ofNumber?, if_neg hpos, Int.toNat_natCast, hyear, hmonth, hday, of?, dif_pos h]

@[simp] theorem ofNumber?_number (d : Date) : ofNumber? d.number = some d :=
  ofNumber?_dayNumber d.valid

theorem number_injective {d d' : Date} (h : d.number = d'.number) : d = d' := by
  have := ofNumber?_number d
  rw [h, ofNumber?_number] at this
  exact (Option.some.inj this).symm

theorem daysBeforeYear_tenThousand : daysBeforeYear 10000 = 3652059 := by decide

theorem number_bounds (d : Date) : 1 ≤ d.number ∧ d.number ≤ 3652059 := by
  have ⟨hlow, hhigh⟩ := dayNumber_bounds d.valid
  have hyear : d.year + 1 ≤ 10000 := Nat.succ_le_succ d.year_bounds.2
  have := daysBeforeYear_mono (Nat.le_add_left 1 d.year) hyear
  rw [daysBeforeYear_tenThousand] at this
  unfold number
  omega

theorem yearAt_spec (n : Nat) : 1 ≤ yearAt n ∧ daysBeforeYear (yearAt n) ≤ n ∧
    n < daysBeforeYear (yearAt n + 1) := by
  simp only [yearAt]
  split
  · rename_i h
    unfold daysBeforeYear at *
    omega
  · split
    · rename_i h h'
      refine ⟨by omega, h', ?_⟩
      unfold daysBeforeYear
      omega
    · omega

theorem monthAt_spec {y n : Nat} (last : Nat) (h : n < daysBeforeMonth y (last + 1)) :
    monthAt y n last ≤ last ∧ daysBeforeMonth y (monthAt y n last) ≤ n ∧
      n < daysBeforeMonth y (monthAt y n last + 1) := by
  induction last with
  | zero => simp [daysBeforeMonth] at h
  | succ last ih =>
    by_cases hm : daysBeforeMonth y (last + 1) ≤ n
    · simp [monthAt, hm, h]
    · obtain ⟨hl, hs⟩ := ih (Nat.lt_of_not_le hm)
      simp only [monthAt, if_neg hm]
      exact ⟨Nat.le_succ_of_le hl, hs⟩

theorem monthAt_of_year {y n : Nat} (hy : 1 ≤ y) (hlow : daysBeforeYear y ≤ n)
    (hhigh : n < daysBeforeYear (y + 1)) :
    ∃ m, monthAt y (n - daysBeforeYear y) 12 = m ∧ 1 ≤ m ∧ m ≤ 12 ∧
      daysBeforeYear y + daysBeforeMonth y m ≤ n ∧
      n < daysBeforeYear y + daysBeforeMonth y m + daysInMonth y m := by
  rw [daysBeforeYear_succ hy, ← daysBeforeMonth_thirteen] at hhigh
  have hdays : n - daysBeforeYear y < daysBeforeMonth y 13 := by omega
  have ⟨hml, hmonth, hnext⟩ := monthAt_spec 12 hdays
  generalize monthAt y (n - daysBeforeYear y) 12 = m at hml hmonth hnext
  have hm : 1 ≤ m := by
    cases m with
    | zero => simp [daysBeforeMonth] at hnext
    | succ m => exact Nat.le_add_left 1 m
  rw [daysBeforeMonth_succ y hm] at hnext
  exact ⟨m, rfl, hm, hml, by omega, by omega⟩

theorem number_of_ofNumber? {n : Int} {d : Date} (h : ofNumber? n = some d) :
    (d.number : Int) = n := by
  unfold ofNumber? at h
  split at h
  · cases h
  · have ⟨hy, hyear, hyear'⟩ := yearAt_spec (n.toNat - 1)
    obtain ⟨m, hm, _, _, hlow, _⟩ := monthAt_of_year hy hyear hyear'
    simp only [of?, hm] at h
    split at h
    · cases h
      simp only [number, dayNumber]
      omega
    · cases h

theorem ofNumber?_eq_some_iff {n : Int} {d : Date} :
    ofNumber? n = some d ↔ (d.number : Int) = n := by
  constructor
  · exact number_of_ofNumber?
  · rintro rfl
    exact ofNumber?_number d

theorem isSome_ofNumber? {n : Int} : (ofNumber? n).isSome ↔ 1 ≤ n ∧ n ≤ 3652059 := by
  constructor
  · intro h
    obtain ⟨d, hd⟩ := Option.isSome_iff_exists.mp h
    have := number_of_ofNumber? hd
    have := d.number_bounds
    omega
  · rintro ⟨hlow, hhigh⟩
    have ⟨hy, hyear, hyear'⟩ := yearAt_spec (n.toNat - 1)
    obtain ⟨m, hm, hm₁, hm₁₂, hday, hday'⟩ := monthAt_of_year hy hyear hyear'
    have hend : yearAt (n.toNat - 1) ≤ 9999 := by
      apply Nat.le_of_not_lt
      intro hlate
      have := daysBeforeYear_mono (by decide) hlate
      rw [daysBeforeYear_tenThousand] at this
      omega
    generalize yearAt (n.toNat - 1) = y at *
    have hdate : IsDate y m (n.toNat - 1 - daysBeforeYear y - daysBeforeMonth y m + 1) :=
      ⟨hy, hend, hm₁, hm₁₂, Nat.le_add_left 1 _, by omega⟩
    have hn : n = dayNumber y m (n.toNat - 1 - daysBeforeYear y - daysBeforeMonth y m + 1) := by
      unfold dayNumber
      omega
    rw [hn, ofNumber?_dayNumber hdate]
    rfl

end Date

end TimePhrase
