import TimePhrase.Proofs.Moment.Partition
import TimePhrase.Proofs.Period.Placement

namespace TimePhrase

/-- The last day of a month or of a quarter has moved into a longer month, short of its last day. -/
structure FallsShort (u : TimeUnit) (edge : Edge) (first moved : Date) : Prop where
  edge : edge = .finish
  unit : u = .month ∨ u = .quarter
  shorter : first.day < daysInMonth moved.year moved.month

def Date.endOfMonth (d : Date) : Date := d.lastOf d.month d.month_bounds

theorem monthLength_december (k : Int) : monthLength (12 * k - 1) = 31 := by
  have hmonth : ((12 * k - 1) % 12).toNat + 1 = 12 := by omega
  rw [monthLength, hmonth]
  rfl

namespace FallsShort

variable {u : TimeUnit} {edge : Edge} {first moved : Date}

theorem secondCount_eq_zero (h : FallsShort u edge first moved) : u.secondCount = 0 := by
  rcases h.unit with rfl | rfl <;> rfl

/-- A year ends in December, which no month is longer than, so only months fall short. -/
theorem le_day (hnot : ¬ FallsShort u .finish first moved) (hu : u.secondCount = 0) {k : Int}
    (hfirst : first.day = monthLength (u.monthCount * (k + 1) - 1)) :
    daysInMonth moved.year moved.month ≤ first.day := by
  apply Nat.not_lt.mp
  intro hshorter
  cases u with
  | month => exact hnot ⟨rfl, .inl rfl, hshorter⟩
  | quarter => exact hnot ⟨rfl, .inr rfl, hshorter⟩
  | year =>
    have hdecember : first.day = 31 := hfirst.trans (monthLength_december (k + 1))
    have hlength := daysInMonth_bounds moved.year moved.month
    omega
  | _ => cases hu

end FallsShort

namespace Civil

variable {c p : Civil} {u : TimeUnit} {w : Week} {edge : Edge} {k n : Int}

theorem seconds_eq_month (c : Civil) : c.seconds =
    monthSecond c.date.monthNumber + 86400 * ((c.date.day : Int) - 1) + c.clock.seconds := by
  have hnumber := c.date.number_eq
  simp only [seconds, monthSecond]
  omega

theorem seconds_eq_monthSecond_iff : c.seconds = monthSecond k ↔
    c.date.monthNumber = k ∧ c.date.day = 1 ∧ c.clock.seconds = 0 := by
  have hseconds := c.seconds_eq_month
  have hday := c.date.day_bounds
  constructor
  · intro h
    have hedge : c.seconds = TimeUnit.month.edgeSecond .sunday k .start := h
    have hmonth : c.date.monthNumber = k := unitNumber_of_edge hedge
    rw [hmonth] at hseconds
    omega
  · rintro ⟨rfl, hfirst, hclock⟩
    omega

theorem seconds_eq_before_monthSecond_iff : c.seconds = monthSecond (k + 1) - 1 ↔
    c.date.monthNumber = k ∧ c.date.day = monthLength k ∧ c.clock.seconds = 86399 := by
  have hseconds := c.seconds_eq_month
  have hday := c.date.day_bounds
  have hclock := c.clock.seconds_lt
  have hnext : monthSecond (k + 1) = monthSecond k + 86400 * monthLength k := by
    simp only [monthSecond, daysToMonth_succ]
    omega
  rw [← Date.monthLength_monthNumber] at hday
  constructor
  · intro h
    have hedge : c.seconds = TimeUnit.month.edgeSecond .sunday k .finish := h
    have hmonth : c.date.monthNumber = k := unitNumber_of_edge hedge
    rw [hmonth] at hseconds hday
    omega
  · rintro ⟨rfl, hlast, hclock⟩
    omega

theorem microsecond_advance (hp : c.advance u n = .ok p) :
    p.clock.microsecond = c.clock.microsecond := by
  rcases u.count_eq_zero with hu | hu
  · exact ((advance_eq_ok_iff_of_seconds hu).mp hp).2
  · rw [((advance_eq_ok_iff_of_months hu).mp hp).2.2]

theorem monthNumber_of_finish (hu : u.secondCount = 0) (hp : c.advance u n = .ok p)
    (hc : c.date.monthNumber = u.monthCount * (k + 1) - 1) :
    p.date.monthNumber = u.monthCount * (k + n + 1) - 1 := by
  rw [((advance_eq_ok_iff_of_months hu).mp hp).1, hc]
  simp only [Int.mul_add]
  omega

theorem seconds_of_advance (hc : c.seconds = u.edgeSecond w k edge) (hp : c.advance u n = .ok p)
    (hnot : ¬ FallsShort u edge c.date p.date) : p.seconds = u.edgeSecond w (k + n) edge := by
  rcases u.count_eq_zero with hu | hu
  · rw [TimeUnit.edgeSecond_add hu, ← hc]
    exact ((advance_eq_ok_iff_of_seconds hu).mp hp).1
  obtain ⟨hmonth, hday, hclock⟩ := (advance_eq_ok_iff_of_months hu).mp hp
  have hbounds := p.date.day_bounds
  cases edge with
  | start =>
    rw [TimeUnit.edgeSecond_start_of_months hu, seconds_eq_monthSecond_iff] at hc ⊢
    obtain ⟨hnumber, hfirst, hmidnight⟩ := hc
    refine ⟨?_, by omega, hclock ▸ hmidnight⟩
    rw [hmonth, hnumber, Int.mul_add]
  | finish =>
    rw [TimeUnit.edgeSecond_finish_of_months hu, seconds_eq_before_monthSecond_iff] at hc ⊢
    obtain ⟨hnumber, hlast, hend⟩ := hc
    have hreached := monthNumber_of_finish hu hp hnumber
    have hlong := FallsShort.le_day hnot hu hlast
    refine ⟨hreached, ?_, hclock ▸ hend⟩
    rw [hday, Nat.min_eq_right hlong, ← Date.monthLength_monthNumber, hreached]

theorem edgeOf?_of_fallsShort (hc : c.seconds = u.edgeSecond w k edge)
    (hmicro : c.clock.microsecond = 0) (hp : c.advance u n = .ok p)
    (hshort : FallsShort u edge c.date p.date) : p.edgeOf? u w edge =
      some ⟨p.date.endOfMonth, p.clock⟩ := by
  have hunit := unitNumber_advance (congrArg Except.toOption hp) w
  rw [unitNumber_of_edge hc] at hunit
  have hu := hshort.secondCount_eq_zero
  obtain ⟨rfl, _, _⟩ := hshort
  obtain ⟨_, _, hclock⟩ := (advance_eq_ok_iff_of_months hu).mp hp
  rw [TimeUnit.edgeSecond_finish_of_months hu, seconds_eq_before_monthSecond_iff] at hc
  obtain ⟨hnumber, _, hend⟩ := hc
  have hreached := monthNumber_of_finish hu hp hnumber
  rw [edgeOf?_eq, hunit, TimeUnit.edgeSecond_finish_of_months hu, atSecond?_eq_some_iff,
    seconds_eq_before_monthSecond_iff]
  refine ⟨⟨hreached, ?_, hclock ▸ hend⟩, hclock ▸ hmicro⟩
  rw [← hreached, Date.monthLength_monthNumber]
  rfl

end Civil

namespace Moment

/-- The same time on the last day of the month. -/
def onLastDay (m : Moment) : Moment :=
  ⟨⟨m.wall.date.endOfMonth, m.wall.clock⟩, m.frame, m.fold⟩

theorem foldIn_of_firstPass {m : Moment} (h : m.fold = false) (u : TimeUnit) :
    m.foldIn u = m.fold := by
  cases u with
  | week => exact h.symm
  | _ => rfl

section Moved

variable {m first moved : Moment} {u : TimeUnit} {w : Week} {edge : Edge} {n : Int}
  (hfirst : m.edgeOf u w edge = .ok first) (hmoved : first.advance u n = .ok moved)
include hfirst hmoved

theorem edgeOf_of_advance (hnot : ¬ FallsShort u edge first.wall.date moved.wall.date) :
    moved.edgeOf u w edge = .ok moved := by
  obtain ⟨hseconds, hmicro⟩ := wall_of_edgeOf edge hfirst
  obtain ⟨hwall, _, hfold⟩ := advance_eq_ok_iff.mp hmoved
  have hedge := Civil.seconds_of_advance hseconds hwall hnot
  have hmicro' : moved.wall.clock.microsecond = 0 := (Civil.microsecond_advance hwall).trans hmicro
  exact (edgeOf_eq_ok_iff edge).mpr
    ⟨Civil.edgeOf?_self hedge hmicro', rfl, (foldIn_of_firstPass hfold u).symm⟩

theorem edgeOf_of_fallsShort (hshort : FallsShort u edge first.wall.date moved.wall.date) :
    moved.edgeOf u w edge = .ok moved.onLastDay := by
  obtain ⟨hseconds, hmicro⟩ := wall_of_edgeOf edge hfirst
  obtain ⟨hwall, _, hfold⟩ := advance_eq_ok_iff.mp hmoved
  exact (edgeOf_eq_ok_iff edge).mpr ⟨Civil.edgeOf?_of_fallsShort hseconds hmicro hwall hshort, rfl,
    (foldIn_of_firstPass hfold u).symm⟩

omit hfirst in
theorem onLastDay_ne (hshort : FallsShort u edge first.wall.date moved.wall.date) :
    moved.onLastDay ≠ moved := by
  intro hsame
  have hu := hshort.secondCount_eq_zero
  have hday := ((Civil.advance_eq_ok_iff_of_months hu).mp (advance_eq_ok_iff.mp hmoved).1).2.1
  have hlast : daysInMonth moved.wall.date.year moved.wall.date.month = moved.wall.date.day :=
    congrArg (fun m : Moment => m.wall.date.day) hsame
  have hshorter := hshort.shorter
  omega

theorem exists_edgeOf_of_advance : ∃ last, moved.edgeOf u w edge = .ok last := by
  by_cases hshort : FallsShort u edge first.wall.date moved.wall.date
  · exact ⟨_, edgeOf_of_fallsShort hfirst hmoved hshort⟩
  · exact ⟨_, edgeOf_of_advance hfirst hmoved hshort⟩

end Moved

end Moment

namespace Endpoint

variable {e : Endpoint} {w : Week} {edge : Edge} {base first moved last : Moment}

/-- From `base` the endpoint leaves the calendar, at the first edge or by the move. -/
inductive LeavesFrom (e : Endpoint) (w : Week) (edge : Edge) (base : Moment) : Prop
  | edge {f : Fault} (hfirst : base.edgeOf e.unit w edge = .error f) : LeavesFrom e w edge base
  | move {first : Moment} {f : Fault} (hfirst : base.edgeOf e.unit w edge = .ok first)
    (hmoved : first.advance e.unit e.amount = .error f) : LeavesFrom e w edge base

theorem place_of_steps (hbase : e.base.reread? = some base)
    (hfirst : base.edgeOf e.unit w edge = .ok first)
    (hmoved : first.advance e.unit e.amount = .ok moved)
    (hlast : moved.edgeOf e.unit w edge = .ok last) : e.place w edge = .ok last := by
  rw [place, place?, hbase]
  simp only [Option.bind_eq_bind, Option.bind_some, hfirst, hmoved, hlast, Except.toOption]

theorem LeavesFrom.place_eq (h : e.LeavesFrom w edge base) (hbase : e.base.reread? = some base) :
    e.place w edge = .error (.offCalendar e.text) := by
  rw [place, place?, hbase]
  cases h with
  | edge hfirst =>
    simp only [Option.bind_eq_bind, Option.bind_some, Option.bind_none, hfirst, Except.toOption]
  | move hfirst hmoved =>
    simp only [Option.bind_eq_bind, Option.bind_some, Option.bind_none, hfirst, hmoved,
      Except.toOption]

theorem place_eq_error_iff_leavesFrom {x : PhraseError} (hbase : e.base.reread? = some base) :
    e.place w edge = .error x ↔ x = .offCalendar e.text ∧ e.LeavesFrom w edge base := by
  constructor
  · intro h
    refine ⟨(place_eq_error_iff.mp h).2, ?_⟩
    cases hfirst : base.edgeOf e.unit w edge with
    | error f => exact .edge hfirst
    | ok first =>
      cases hmoved : first.advance e.unit e.amount with
      | error f => exact .move hfirst hmoved
      | ok moved =>
        obtain ⟨last, hlast⟩ := Moment.exists_edgeOf_of_advance hfirst hmoved
        rw [place_of_steps hbase hfirst hmoved hlast] at h
        cases h
  · rintro ⟨rfl, h⟩
    exact h.place_eq hbase

end Endpoint

theorem Layout.read?_text_eq_some_iff {c c' : Civil} :
    dateTime.read? c.text = some c' ↔ c'.text = c.text ∧ c'.clock.microsecond = 0 := by
  constructor
  · intro h
    rw [read?_text, Option.some.injEq] at h
    subst h
    exact ⟨rfl, rfl⟩
  · rintro ⟨htext, hmicro⟩
    rw [← htext, read?_text, Civil.wholeSecond_eq_self hmicro]

/-- A moment that is written out and read back keeps its second, so it is never off the calendar. -/
theorem Moment.reread_keeps_second :
    (∀ c c' : Civil, Layout.dateTime.read? c.text = some c' ↔
      c'.text = c.text ∧ c'.clock.microsecond = 0) ∧
    ∀ m : Moment, ∃ m', m.reread? = some m' ∧ m'.wall.date = m.wall.date ∧
      m'.wall.clock.hour = m.wall.clock.hour ∧ m'.wall.clock.minute = m.wall.clock.minute ∧
      m'.wall.clock.second = m.wall.clock.second ∧ m'.wall.clock.microsecond = 0 ∧
      m'.frame = m.frame ∧ m'.fold = false ∧
      ∀ (e : Endpoint) (w : Week) (edge : Edge) (x : PhraseError), e.base = m →
        (e.place w edge = .error x ↔ x = .offCalendar e.text ∧ e.LeavesFrom w edge m') := by
  refine ⟨fun _ _ => Layout.read?_text_eq_some_iff, ?_⟩
  intro m
  refine ⟨_, m.reread?_eq, rfl, rfl, rfl, rfl, rfl, rfl, rfl, ?_⟩
  intro e w edge x hbase
  subst hbase
  exact Endpoint.place_eq_error_iff_leavesFrom e.base.reread?_eq

theorem Moment.reread_first_day : ∃ (e : Endpoint) (m : Moment),
    e.base = ⟨⟨⟨1, 1, 1, by decide⟩, ⟨1, 30, 59, 7, by decide⟩⟩, .zone .newYork, true⟩ ∧
      e.base.reread? = some m ∧ m.wall.date.year = 1 ∧ m.wall.clock.second = 59 ∧
      m.fold = false ∧ e.place Week.sunday .start = .error (.offCalendar e.text) ∧
      e.LeavesFrom Week.sunday .start m := by
  let base : Moment :=
    ⟨⟨⟨1, 1, 1, by decide⟩, ⟨1, 30, 59, 7, by decide⟩⟩, .zone .newYork, true⟩
  let e : Endpoint := ⟨"this week".toList, .fixed, .week, 0, .forward, base⟩
  have herror : e.place Week.sunday .start = .error (.offCalendar e.text) := by
    decide +kernel
  obtain ⟨_, hreread⟩ := reread_keeps_second
  obtain ⟨m, hm, hdate, _, _, hsecond, _, _, hfold, hplace⟩ := hreread base
  have hleaves := ((hplace e Week.sunday .start _ rfl).mp herror).2
  exact ⟨e, m, rfl, hm, congrArg Date.year hdate, hsecond, hfold, herror, hleaves⟩

namespace Moment

/-- The second edge moves only a day short of the end of its month, and always succeeds. -/
theorem second_edge_restores_day {m first moved : Moment} {u : TimeUnit} {w : Week} {edge : Edge}
    {n : Int} (hfirst : m.edgeOf u w edge = .ok first) (hmoved : first.advance u n = .ok moved) :
    ∃ last, moved.edgeOf u w edge = .ok last ∧
      (last = moved ↔ ¬ FallsShort u edge first.wall.date moved.wall.date) ∧
      (FallsShort u edge first.wall.date moved.wall.date → last = moved.onLastDay) ∧
      ∀ e : Endpoint, e.base.reread? = some m → e.unit = u → e.amount = n →
        e.place w edge = .ok last := by
  have hplace : ∀ last, moved.edgeOf u w edge = .ok last → ∀ e : Endpoint,
      e.base.reread? = some m → e.unit = u → e.amount = n → e.place w edge = .ok last := by
    intro last hlast e hbase hunit hamount
    subst hunit hamount
    exact Endpoint.place_of_steps hbase hfirst hmoved hlast
  by_cases hshort : FallsShort u edge first.wall.date moved.wall.date
  · have hlast := edgeOf_of_fallsShort hfirst hmoved hshort
    refine ⟨moved.onLastDay, hlast, ?_, fun _ => rfl, hplace _ hlast⟩
    exact iff_of_false (onLastDay_ne hmoved hshort) (fun hnot => hnot hshort)
  · have hlast := edgeOf_of_advance hfirst hmoved hshort
    refine ⟨moved, hlast, iff_of_true rfl hshort, ?_, hplace _ hlast⟩
    intro h
    exact absurd h hshort

theorem second_edge_restores_march : ∃ m first moved last : Moment,
    m.edgeOf .quarter Week.sunday .finish = .ok first ∧
      first.advance .quarter (-1) = .ok moved ∧
      moved.wall = ⟨⟨2024, 3, 30, by decide⟩, .lastSecond⟩ ∧
      moved.edgeOf .quarter Week.sunday .finish = .ok last ∧
      last.wall = ⟨⟨2024, 3, 31, by decide⟩, .lastSecond⟩ := by
  let m : Moment := ⟨⟨⟨2024, 5, 20, by decide⟩, .midnight⟩, .zone .utc, false⟩
  let first : Moment := ⟨⟨⟨2024, 6, 30, by decide⟩, .lastSecond⟩, .zone .utc, false⟩
  let moved : Moment := ⟨⟨⟨2024, 3, 30, by decide⟩, .lastSecond⟩, .zone .utc, false⟩
  have hfirst : m.edgeOf .quarter Week.sunday .finish = .ok first :=
    eq_ok_of_toOption (by decide +kernel)
  have hmoved : first.advance .quarter (-1) = .ok moved :=
    eq_ok_of_toOption (by decide +kernel)
  obtain ⟨last, hlast, _, hday, _⟩ := second_edge_restores_day hfirst hmoved
  have hshort : FallsShort .quarter .finish first.wall.date moved.wall.date :=
    ⟨rfl, .inr rfl, by decide⟩
  exact ⟨m, first, moved, last, hfirst, hmoved, rfl, hlast, by rw [hday hshort]; rfl⟩

end Moment

end TimePhrase
