import TimePhrase.Calendar.Date

namespace TimePhrase

def IsClock (h m s us : Nat) : Prop := h < 24 ∧ m < 60 ∧ s < 60 ∧ us < 1000000

instance (h m s us : Nat) : Decidable (IsClock h m s us) :=
  inferInstanceAs (Decidable (_ ∧ _))

structure Clock where
  hour : Nat
  minute : Nat
  second : Nat
  microsecond : Nat
  valid : IsClock hour minute second microsecond
deriving DecidableEq

namespace Clock

def of? (h m s us : Nat) : Option Clock :=
  if v : IsClock h m s us then some ⟨h, m, s, us, v⟩ else none

def midnight : Clock := ⟨0, 0, 0, 0, by decide⟩

def lastSecond : Clock := ⟨23, 59, 59, 0, by decide⟩

def seconds (c : Clock) : Nat := 3600 * c.hour + 60 * c.minute + c.second

def ofSeconds (n us : Nat) (hn : n < 86400) (hus : us < 1000000) : Clock where
  hour := n / 3600
  minute := n / 60 % 60
  second := n % 60
  microsecond := us
  valid := by
    unfold IsClock
    omega

def atSecond (c : Clock) (s : Nat) (h : s < 60) : Clock :=
  ⟨c.hour, c.minute, s, 0, c.valid.1, c.valid.2.1, h, by decide⟩

def atMinute (c : Clock) (m s : Nat) (hm : m < 60) (hs : s < 60) : Clock :=
  ⟨c.hour, m, s, 0, c.valid.1, hm, hs, by decide⟩

theorem seconds_lt (c : Clock) : c.seconds < 86400 := by
  obtain ⟨h, m, s, us, hh, hm, hs, hus⟩ := c
  simp only [seconds]
  omega

@[simp] theorem seconds_ofSeconds {n us : Nat} (hn : n < 86400) (hus : us < 1000000) :
    (ofSeconds n us hn hus).seconds = n := by
  simp only [seconds, ofSeconds]
  omega

theorem ext_seconds {c c' : Clock} (hs : c.seconds = c'.seconds)
    (hus : c.microsecond = c'.microsecond) : c = c' := by
  obtain ⟨h, m, s, us, v⟩ := c
  obtain ⟨h', m', s', us', v'⟩ := c'
  have ⟨_, hm, hs₁, _⟩ := v
  have ⟨_, hm', hs₁', _⟩ := v'
  simp only [seconds] at hs
  obtain rfl : h = h' := by omega
  obtain rfl : m = m' := by omega
  obtain rfl : s = s' := by omega
  subst hus
  rfl

end Clock

/-- What a calendar and a clock on the wall show. -/
structure Civil where
  date : Date
  clock : Clock
deriving DecidableEq

/-- The number of the day 1970-01-01. -/
def epochDay : Nat := 719163

namespace Civil

def of? (y m d h mi s us : Nat) : Option Civil := do
  return ⟨← Date.of? y m d, ← Clock.of? h mi s us⟩

/-- Seconds on the wall since 1970-01-01 00:00:00. -/
def seconds (c : Civil) : Int := 86400 * ((c.date.number : Int) - epochDay) + c.clock.seconds

def microseconds (c : Civil) : Int := 1000000 * c.seconds + c.clock.microsecond

def ofSeconds? (n : Int) (us : Nat) (hus : us < 1000000) : Option Civil :=
  (Date.ofNumber? (n / 86400 + epochDay)).map fun d =>
    ⟨d, Clock.ofSeconds (n % 86400).toNat us (by omega) hus⟩

def addSeconds? (c : Civil) (n : Int) : Option Civil :=
  ofSeconds? (c.seconds + n) c.clock.microsecond c.clock.valid.2.2.2

def wholeSecond (c : Civil) : Civil := ⟨c.date, c.clock.atSecond c.clock.second c.clock.valid.2.2.1⟩

theorem seconds_ediv (c : Civil) : c.seconds / 86400 + epochDay = c.date.number := by
  have := c.clock.seconds_lt
  unfold seconds epochDay
  omega

theorem seconds_emod (c : Civil) : (c.seconds % 86400).toNat = c.clock.seconds := by
  have := c.clock.seconds_lt
  unfold seconds epochDay
  omega

theorem ofSeconds?_eq_some_iff {n : Int} {us : Nat} (hus : us < 1000000) {c : Civil} :
    ofSeconds? n us hus = some c ↔ c.seconds = n ∧ c.clock.microsecond = us := by
  constructor
  · intro h
    obtain ⟨d, hd, rfl⟩ := Option.map_eq_some_iff.mp h
    have := Date.number_of_ofNumber? hd
    refine ⟨?_, rfl⟩
    simp only [seconds, Clock.seconds_ofSeconds]
    unfold epochDay at *
    omega
  · rintro ⟨rfl, rfl⟩
    rw [ofSeconds?, seconds_ediv, Date.ofNumber?_number, Option.map_some]
    congr
    exact Clock.ext_seconds (by simp [seconds_emod]) rfl

@[simp] theorem ofSeconds?_seconds (c : Civil) :
    ofSeconds? c.seconds c.clock.microsecond c.clock.valid.2.2.2 = some c :=
  (ofSeconds?_eq_some_iff _).mpr ⟨rfl, rfl⟩

theorem isSome_ofSeconds? {n : Int} {us : Nat} (hus : us < 1000000) :
    (ofSeconds? n us hus).isSome ↔ -62135596800 ≤ n ∧ n < 253402300800 := by
  rw [ofSeconds?, Option.isSome_map, Date.isSome_ofNumber?]
  unfold epochDay
  omega

theorem addSeconds?_eq_some_iff {c c' : Civil} {n : Int} : c.addSeconds? n = some c' ↔
    c'.seconds = c.seconds + n ∧ c'.clock.microsecond = c.clock.microsecond :=
  ofSeconds?_eq_some_iff _

theorem ext_seconds {c c' : Civil} (hs : c.seconds = c'.seconds)
    (hus : c.clock.microsecond = c'.clock.microsecond) : c = c' := by
  have h := (ofSeconds?_eq_some_iff c.clock.valid.2.2.2).mpr ⟨hs.symm, hus.symm⟩
  rw [ofSeconds?_seconds] at h
  exact Option.some.inj h

end Civil

/-- The quotient rounded to the nearest integer, a half to the even one. -/
def roundHalfEven (n d : Nat) : Nat :=
  let q := n / d
  let r := n % d
  if 2 * r < d then q
  else if d < 2 * r then q + 1
  else q + q % 2

def wholeMagnitude (n : Nat) : Nat :=
  let bits := 53 - ((n / 1000000).log2 + 1)
  roundHalfEven (n <<< bits) 1000000 >>> bits

/-- The seconds in `us` microseconds to 53 significant bits, truncated toward zero. -/
def wholeSeconds (us : Int) : Int := us.sign * wholeMagnitude us.natAbs

end TimePhrase
