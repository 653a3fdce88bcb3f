import TimePhrase.Period
import TimePhrase.Proofs.Phrase.LayoutForms

namespace TimePhrase

/-- A date in writing: the year in four digits, the month and the day in one or two. -/
inductive Date.Written (d : Date) : Text → Prop
  | mk {month day : Text} (hmonth : Field.month.Form d.month month)
    (hday : Field.day.Form d.day day) :
    Written d (Text.padded 4 d.year ++ '-' :: (month ++ '-' :: day))

/-- A time of day in writing, up to its second: each field in one digit or in two. -/
inductive Clock.Written (k : Clock) : Text → Prop
  | mk {hour minute second : Text} (hhour : Field.hour.Form k.hour hour)
    (hminute : Field.minute.Form k.minute minute)
    (hsecond : Field.second.Form k.second second) :
    Written k (hour ++ ':' :: (minute ++ ':' :: second))

theorem blanks_space : [' '] ≠ [] ∧ ∀ b ∈ [' '], isBlank b :=
  ⟨List.cons_ne_nil ' ' [], List.forall_mem_singleton.mpr rfl⟩

theorem Date.written_dateText (d : Date) : d.Written (Civil.dateText d) := by
  rw [Civil.dateText, List.append_assoc, List.cons_append]
  exact .mk (.inr rfl) (.inl (.inr rfl))

theorem Clock.written_clockText (k : Clock) : k.Written (Civil.clockText k) := by
  rw [Civil.clockText, List.append_assoc, List.cons_append]
  exact .mk (.inr rfl) (.inr rfl) (.inr rfl)

namespace Layout

theorem pieces_year : year.pieces = [.field .year] := by
  decide

theorem pieces_date : date.pieces =
    [.field .year, .literal '-', .field .month, .literal '-', .field .day] := by
  decide

theorem pieces_dateTime : dateTime.pieces = date.pieces ++ .blanks :: time.pieces := by
  decide

theorem pieces_time : time.pieces =
    [.field .hour, .literal ':', .field .minute, .literal ':', .field .second] := by
  decide

variable {c : Civil} {t : Text}

theorem forms_year : Piece.Forms c.value year.pieces t ↔ t = Text.padded 4 c.date.year := by
  rw [pieces_year, Piece.forms_singleton]
  rfl

theorem forms_date : Piece.Forms c.value date.pieces t ↔ c.date.Written t := by
  rw [pieces_date, Piece.forms_separated]
  constructor
  · rintro ⟨_, _, _, rfl, rfl, hmonth, hday⟩
    exact .mk hmonth hday
  · rintro ⟨hmonth, hday⟩
    exact ⟨_, _, _, rfl, rfl, hmonth, hday⟩

theorem forms_time : Piece.Forms c.value time.pieces t ↔ c.clock.Written t := by
  rw [pieces_time, Piece.forms_separated]
  constructor
  · rintro ⟨_, _, _, rfl, hhour, hminute, hsecond⟩
    exact .mk hhour hminute hsecond
  · rintro ⟨hhour, hminute, hsecond⟩
    exact ⟨_, _, _, rfl, hhour, hminute, hsecond⟩

theorem forms_dateTime : Piece.Forms c.value dateTime.pieces t ↔
    ∃ date blanks time, t = date ++ (blanks ++ time) ∧ c.date.Written date ∧
      (blanks ≠ [] ∧ ∀ b ∈ blanks, isBlank b) ∧ c.clock.Written time := by
  rw [pieces_dateTime, Piece.forms_append]
  constructor
  · rintro ⟨date, rest, rfl, hdate, hrest⟩
    obtain _ | ⟨hblanks, htime⟩ := hrest
    exact ⟨date, _, _, rfl, forms_date.mp hdate, hblanks, forms_time.mp htime⟩
  · rintro ⟨date, blanks, time, rfl, hdate, hblanks, htime⟩
    exact ⟨date, _, rfl, forms_date.mpr hdate, .cons hblanks (forms_time.mpr htime)⟩

theorem spells_year {y : Nat} (hy : 1 ≤ y ∧ y ≤ 9999) : year.Spells (Text.padded 4 y)
    ⟨.clamped y 1 1 hy (by decide) (by decide), .midnight⟩ where
  forms := forms_year.mpr rfl
  default f hf := by
    cases f with
    | year => exact absurd (mem_fields_year.mpr rfl) hf
    | month => rfl
    | day => rfl
    | hour => rfl
    | minute => rfl
    | second => rfl
  microsecond := rfl

theorem spells_date {d : Date} (h : d.Written t) : date.Spells t ⟨d, .midnight⟩ where
  forms := forms_date.mpr h
  default _ hf := Civil.value_midnight d (mt mem_fields_date.mpr hf)
  microsecond := rfl

theorem spells_dateTime {date blanks time : Text} (hdate : c.date.Written date)
    (hblanks : blanks ≠ [] ∧ ∀ b ∈ blanks, isBlank b) (htime : c.clock.Written time)
    (hmicro : c.clock.microsecond = 0) : dateTime.Spells (date ++ (blanks ++ time)) c where
  forms := forms_dateTime.mpr ⟨date, blanks, time, rfl, hdate, hblanks, htime⟩
  default f hf := absurd (mem_fields_dateTime f) hf
  microsecond := hmicro

theorem spells_time {k : Clock} (h : k.Written t) (hmicro : k.microsecond = 0) :
    time.Spells t ⟨⟨1900, 1, 1, by decide⟩, k⟩ where
  forms := forms_time.mpr h
  default f hf := by
    rw [mem_fields_time, not_or, not_or] at hf
    obtain ⟨hhour, hminute, hsecond⟩ := hf
    cases f with
    | year => rfl
    | month => rfl
    | day => rfl
    | hour => exact absurd rfl hhour
    | minute => exact absurd rfl hminute
    | second => exact absurd rfl hsecond
  microsecond := hmicro

theorem read?_text (c : Civil) : dateTime.read? c.text = some c.wholeSecond :=
  read?_of_spells (spells_dateTime (c := c.wholeSecond) c.date.written_dateText blanks_space
    c.wholeSecond.clock.written_clockText rfl)

end Layout

/-- Written out and read back, a moment keeps its second and its frame and loses all else. -/
theorem Moment.reread?_eq (m : Moment) : m.reread? = some ⟨m.wall.wholeSecond, m.frame, false⟩ := by
  rw [reread?, Layout.read?_text, Option.map_some]

end TimePhrase
