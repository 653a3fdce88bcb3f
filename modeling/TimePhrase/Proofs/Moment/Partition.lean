import TimePhrase.Proofs.Moment.Advance

namespace TimePhrase

namespace Civil

variable {c d : Civil} {u : TimeUnit} {w : Week}

theorem microseconds_le_iff (hc : c.clock.microsecond = 0) :
    c.microseconds ≤ d.microseconds ↔ c.seconds ≤ d.seconds := by
  have hd := d.clock.valid.2.2.2
  simp only [microseconds, hc]
  omega

theorem microseconds_lt_next_iff (hc : c.clock.microsecond = 0) :
    d.microseconds < c.microseconds + 1000000 ↔ d.seconds ≤ c.seconds := by
  have hd := d.clock.valid.2.2.2
  simp only [microseconds, hc]
  omega

theorem seconds_le_of_microseconds_le (h : c.microseconds ≤ d.microseconds) :
    c.seconds ≤ d.seconds := by
  have hd := d.clock.valid.2.2.2
  simp only [microseconds] at h
  omega

theorem unitNumber_mono (w : Week) (u : TimeUnit) (h : c.seconds ≤ d.seconds) :
    c.unitNumber w u ≤ d.unitNumber w u :=
  (d.firstSecond_le_seconds_iff w u _).mp (Int.le_trans (c.firstSecond_le_seconds w u) h)

theorem exists_edgeOf? (hu : u ≠ .week) (c : Civil) (w : Week) (edge : Edge) :
    ∃ c', c.edgeOf? u w edge = some c' := by
  cases u with
  | week => exact absurd rfl hu
  | _ => cases edge <;> exact ⟨_, rfl⟩

theorem edgeOf?_self {k : Int} {edge : Edge} (hseconds : c.seconds = u.edgeSecond w k edge)
    (hmicro : c.clock.microsecond = 0) : c.edgeOf? u w edge = some c := by
  rw [edgeOf?_eq, unitNumber_of_edge hseconds]
  exact atSecond?_eq_some_iff.mpr ⟨hseconds, hmicro⟩

theorem weekStart_bounds (c : Civil) (w : Week) :
    c.weekStart w ≤ c.date.number ∧ (c.date.number : Int) ≤ c.weekStart w + 6 := by
  have hday := c.seconds_ediv
  simp only [weekStart, unitNumber]
  omega

theorem weekStart_weekday (c : Civil) (w : Week) : (c.weekStart w + 6) % 7 = w.firstDay := by
  have hfirst := w.firstDay.isLt
  simp only [weekStart, epochDay]
  omega

theorem number_of_map_ofNumber? {n : Int} {k : Clock}
    (h : (Date.ofNumber? n).map (⟨·, k⟩) = some c) : (c.date.number : Int) = n ∧ c.clock = k := by
  obtain ⟨d, hd, rfl⟩ := Option.map_eq_some_iff.mp h
  exact ⟨Date.ofNumber?_eq_some_iff.mp hd, rfl⟩

theorem edgeOf?_week_start (c : Civil) (w : Week) :
    c.edgeOf? .week w .start = (Date.ofNumber? (c.weekStart w)).map (⟨·, .midnight⟩) := by
  rw [edgeOf?_eq, TimeUnit.edgeSecond, firstSecond_week, atSecond?_midnight]

theorem edgeOf?_week_finish (c : Civil) (w : Week) :
    c.edgeOf? .week w .finish = (Date.ofNumber? (c.weekStart w + 6)).map (⟨·, .lastSecond⟩) := by
  rw [edgeOf?_eq, TimeUnit.edgeSecond, lastSecond_week, atSecond?_lastSecond]

end Civil

theorem Date.ofNumber?_eq_none_iff {n : Int} :
    ofNumber? n = none ↔ ∀ d : Date, (d.number : Int) ≠ n := by
  rw [Option.eq_none_iff_forall_ne_some]
  exact forall_congr' fun d => not_congr ofNumber?_eq_some_iff

namespace Moment

variable {m x e : Moment} {u : TimeUnit} {w : Week} {c : Civil} {f : Fault} (edge : Edge)

theorem edgeOf_eq (m : Moment) (u : TimeUnit) (w : Week) : m.edgeOf u w edge =
    match m.wall.edgeOf? u w edge with
    | some wall => .ok ⟨wall, m.frame, m.foldIn u⟩
    | none => .error .pastCalendar := by
  cases edge <;> rfl

theorem edgeOf_eq_ok_iff : m.edgeOf u w edge = .ok e ↔
    m.wall.edgeOf? u w edge = some e.wall ∧ e.frame = m.frame ∧ e.fold = m.foldIn u := by
  rw [edgeOf_eq]
  constructor
  · intro h
    split at h <;> cases h
    rename_i hwall
    exact ⟨hwall, rfl, rfl⟩
  · obtain ⟨wall, frame, fold⟩ := e
    rintro ⟨hwall, rfl, rfl⟩
    rw [hwall]

theorem edgeOf_of_wall {wall : Civil} (h : m.wall.edgeOf? u w edge = some wall) :
    m.edgeOf u w edge = .ok ⟨wall, m.frame, m.foldIn u⟩ :=
  (edgeOf_eq_ok_iff edge).mpr ⟨h, rfl, rfl⟩

theorem edgeOf_eq_error_iff : m.edgeOf u w edge = .error f ↔
    m.wall.edgeOf? u w edge = none ∧ f = .pastCalendar := by
  rw [edgeOf_eq]
  cases m.wall.edgeOf? u w edge with
  | none => simp only [Except.error.injEq, true_and, eq_comm]
  | some wall => exact ⟨nofun, nofun⟩

theorem wall_of_edgeOf (h : m.edgeOf u w edge = .ok e) :
    e.wall.seconds = u.edgeSecond w (m.wall.unitNumber w u) edge ∧
      e.wall.clock.microsecond = 0 := by
  have hwall := ((edgeOf_eq_ok_iff edge).mp h).1
  rw [Civil.edgeOf?_eq] at hwall
  exact Civil.atSecond?_eq_some_iff.mp hwall

theorem exists_edgeOf_iff : (∃ e, m.edgeOf u w edge = .ok e) ↔
    OnCalendar (u.edgeSecond w (m.wall.unitNumber w u) edge) := by
  rw [← Civil.isSome_atSecond?, ← Civil.edgeOf?_eq, Option.isSome_iff_exists]
  constructor
  · rintro ⟨e, he⟩
    exact ⟨e.wall, ((edgeOf_eq_ok_iff edge).mp he).1⟩
  · rintro ⟨wall, hwall⟩
    exact ⟨_, edgeOf_of_wall edge hwall⟩

/-- Between the edges of the unit that contains the moment, as far as the calendar has them. -/
def UnitHolds (m : Moment) (u : TimeUnit) (w : Week) (c : Civil) : Prop :=
  (∀ s, m.firstIn u w = .ok s → s.wall.microseconds ≤ c.microseconds) ∧
    ∀ f, m.lastIn u w = .ok f → c.microseconds < f.wall.microseconds + 1000000

theorem UnitHolds.firstSecond_le (h : m.UnitHolds u w c) :
    u.firstSecond w (m.wall.unitNumber w u) ≤ c.seconds := by
  by_cases hedge : OnCalendar (u.firstSecond w (m.wall.unitNumber w u))
  · obtain ⟨s, hs⟩ := (exists_edgeOf_iff .start).mpr hedge
    obtain ⟨hseconds, hmicro⟩ := wall_of_edgeOf .start hs
    have hle := (Civil.microseconds_le_iff hmicro).mp (h.1 s hs)
    rw [hseconds] at hle
    exact hle
  · apply Int.not_lt.mp
    intro hlt
    have hfirst := m.wall.firstSecond_le_seconds w u
    exact hedge (c.onCalendar.between m.wall.onCalendar (Int.le_of_lt hlt) hfirst)

theorem UnitHolds.le_lastSecond (h : m.UnitHolds u w c) :
    c.seconds ≤ u.lastSecond w (m.wall.unitNumber w u) := by
  by_cases hedge : OnCalendar (u.lastSecond w (m.wall.unitNumber w u))
  · obtain ⟨f, hf⟩ := (exists_edgeOf_iff .finish).mpr hedge
    obtain ⟨hseconds, hmicro⟩ := wall_of_edgeOf .finish hf
    have hle := (Civil.microseconds_lt_next_iff hmicro).mp (h.2 f hf)
    rw [hseconds] at hle
    exact hle
  · apply Int.not_lt.mp
    intro hlt
    have hlast := m.wall.seconds_le_lastSecond w u
    exact hedge (m.wall.onCalendar.between c.onCalendar hlast (Int.le_of_lt hlt))

theorem unitHolds_iff : m.UnitHolds u w c ↔ c.unitNumber w u = m.wall.unitNumber w u := by
  constructor
  · exact fun h => Civil.eq_unitNumber h.firstSecond_le h.le_lastSecond
  · intro h
    constructor
    · intro s hs
      obtain ⟨hseconds, hmicro⟩ := wall_of_edgeOf .start hs
      rw [Civil.microseconds_le_iff hmicro, hseconds, ← h]
      exact c.firstSecond_le_seconds w u
    · intro f hf
      obtain ⟨hseconds, hmicro⟩ := wall_of_edgeOf .finish hf
      rw [Civil.microseconds_lt_next_iff hmicro, hseconds, ← h]
      exact c.seconds_le_lastSecond w u

variable {edge}

/-- Moments share an edge exactly if they lie in one unit. -/
theorem edge_shared_iff (h : m.edgeOf u w edge = .ok e) :
    (∃ e', x.edgeOf u w edge = .ok e' ∧ e'.wall = e.wall) ↔ m.UnitHolds u w x.wall := by
  obtain ⟨hseconds, _⟩ := wall_of_edgeOf edge h
  have hunit := Civil.unitNumber_of_edge hseconds
  rw [unitHolds_iff]
  constructor
  · rintro ⟨e', he', heq⟩
    rw [← hunit, ← heq]
    exact (Civil.unitNumber_of_edge (wall_of_edgeOf edge he').1).symm
  · intro hx
    have hwall := ((edgeOf_eq_ok_iff edge).mp h).1
    rw [Civil.edgeOf?_eq, ← hx, ← Civil.edgeOf?_eq] at hwall
    exact ⟨_, edgeOf_of_wall edge hwall, rfl⟩

theorem foldIn_of_edgeOf (h : m.edgeOf u w edge = .ok e) : e.foldIn u = e.fold := by
  rw [((edgeOf_eq_ok_iff edge).mp h).2.2]
  cases u with
  | week => rfl
  | _ => exact ((edgeOf_eq_ok_iff edge).mp h).2.2

theorem edgeOf_edgeOf (h : m.edgeOf u w edge = .ok e) : e.edgeOf u w edge = .ok e := by
  obtain ⟨hseconds, hmicro⟩ := wall_of_edgeOf edge h
  exact (edgeOf_eq_ok_iff edge).mpr
    ⟨Civil.edgeOf?_self hseconds hmicro, rfl, (foldIn_of_edgeOf h).symm⟩

theorem edgeOf_mono {e' : Moment} (h : m.edgeOf u w edge = .ok e) (h' : x.edgeOf u w edge = .ok e')
    (hle : m.wall.microseconds ≤ x.wall.microseconds) :
    e.wall.microseconds ≤ e'.wall.microseconds := by
  obtain ⟨hseconds, hmicro⟩ := wall_of_edgeOf edge h
  have hunit := Civil.unitNumber_mono w u (Civil.seconds_le_of_microseconds_le hle)
  rw [Civil.microseconds_le_iff hmicro, hseconds, (wall_of_edgeOf edge h').1]
  exact Int.not_lt.mp (mt TimeUnit.edgeSecond_lt_iff.mp (Int.not_lt.mpr hunit))

theorem firstIn_week (h : m.firstIn .week w = .ok e) :
    (e.wall.date.number : Int) = m.wall.weekStart w ∧ e.wall.date.weekday = w.firstDay ∧
      e.wall.clock = .midnight := by
  have hwall := ((edgeOf_eq_ok_iff .start).mp h).1
  rw [Civil.edgeOf?_week_start] at hwall
  obtain ⟨hnumber, hclock⟩ := Civil.number_of_map_ofNumber? hwall
  have hweekday := m.wall.weekStart_weekday w
  refine ⟨hnumber, ?_, hclock⟩
  simp only [Date.weekday, Date.weekdayOf]
  omega

theorem lastIn_week (h : m.lastIn .week w = .ok e) :
    (e.wall.date.number : Int) = m.wall.weekStart w + 6 ∧ e.wall.date.weekday = w.lastDay ∧
      e.wall.clock = .lastSecond := by
  have hwall := ((edgeOf_eq_ok_iff .finish).mp h).1
  rw [Civil.edgeOf?_week_finish] at hwall
  obtain ⟨hnumber, hclock⟩ := Civil.number_of_map_ofNumber? hwall
  have hweekday := m.wall.weekStart_weekday w
  refine ⟨hnumber, ?_, hclock⟩
  simp only [Date.weekday, Date.weekdayOf, Week.lastDay, Fin.val_add]
  omega

theorem firstIn_week_eq_error_iff : m.firstIn .week w = .error f ↔
    (∀ d : Date, (d.number : Int) ≠ m.wall.weekStart w) ∧ f = .pastCalendar := by
  rw [← Date.ofNumber?_eq_none_iff, ← Option.map_eq_none_iff, ← Civil.edgeOf?_week_start]
  exact edgeOf_eq_error_iff .start

theorem lastIn_week_eq_error_iff : m.lastIn .week w = .error f ↔
    (∀ d : Date, (d.number : Int) ≠ m.wall.weekStart w + 6) ∧ f = .pastCalendar := by
  rw [← Date.ofNumber?_eq_none_iff, ← Option.map_eq_none_iff, ← Civil.edgeOf?_week_finish]
  exact edgeOf_eq_error_iff .finish

theorem firstIn_after_lastIn {n : Moment} (h : m.lastIn u w = .ok e)
    (hn : e.advance .second 1 = .ok n) : n.firstIn u w = .ok n := by
  obtain ⟨hseconds, hmicro⟩ := wall_of_edgeOf .finish h
  obtain ⟨hwall, _, hfold⟩ := advance_eq_ok_iff.mp hn
  obtain ⟨hnext, hmicro'⟩ := (Civil.advance_eq_ok_iff_of_seconds rfl).mp hwall
  have hstart : n.wall.seconds = u.edgeSecond w (m.wall.unitNumber w u + 1) .start := by
    rw [hnext, hseconds]
    simp only [TimeUnit.edgeSecond, TimeUnit.lastSecond, TimeUnit.secondCount]
    omega
  have hkept : n.fold = n.foldIn u := by
    cases u with
    | week => exact hfold
    | _ => rfl
  exact (edgeOf_eq_ok_iff .start).mpr
    ⟨Civil.edgeOf?_self hstart (hmicro'.trans hmicro), rfl, hkept⟩

/-- The units of one kind cut the wall clock into stretches; only a week may lack an edge. -/
theorem edges_partition (m : Moment) (u : TimeUnit) (w : Week) :
    m.UnitHolds u w m.wall ∧
    (∀ edge e, m.edgeOf u w edge = .ok e →
      (∀ x : Moment, (∃ e', x.edgeOf u w edge = .ok e' ∧ e'.wall = e.wall) ↔
        m.UnitHolds u w x.wall) ∧
      e.edgeOf u w edge = .ok e ∧
      ∀ x e' : Moment, x.edgeOf u w edge = .ok e' →
        m.wall.microseconds ≤ x.wall.microseconds → e.wall.microseconds ≤ e'.wall.microseconds) ∧
    (∀ f n, m.lastIn u w = .ok f → f.advance .second 1 = .ok n → n.firstIn u w = .ok n) ∧
    (u ≠ .week → ∀ edge, ∃ e, m.edgeOf u w edge = .ok e) ∧
    ∃ first : Int, first ≤ m.wall.date.number ∧ (m.wall.date.number : Int) ≤ first + 6 ∧
      (first + 6) % 7 = w.firstDay ∧
      (∀ s, m.firstIn .week w = .ok s → (s.wall.date.number : Int) = first ∧
        s.wall.date.weekday = w.firstDay ∧ s.wall.clock = .midnight) ∧
      (∀ f, m.lastIn .week w = .ok f → (f.wall.date.number : Int) = first + 6 ∧
        f.wall.date.weekday = w.lastDay ∧ f.wall.clock = .lastSecond) ∧
      (∀ x, m.firstIn .week w = .error x ↔
        (∀ d : Date, (d.number : Int) ≠ first) ∧ x = .pastCalendar) ∧
      ∀ x, m.lastIn .week w = .error x ↔
        (∀ d : Date, (d.number : Int) ≠ first + 6) ∧ x = .pastCalendar := by
  refine ⟨unitHolds_iff.mpr rfl, ?_, fun f n => firstIn_after_lastIn, ?_, m.wall.weekStart w, ?_⟩
  · exact fun edge e he =>
      ⟨fun x => edge_shared_iff he, edgeOf_edgeOf he, fun x e' => edgeOf_mono he⟩
  · intro hu edge
    obtain ⟨wall, hwall⟩ := Civil.exists_edgeOf? hu m.wall w edge
    exact ⟨_, edgeOf_of_wall edge hwall⟩
  · have ⟨hlow, hhigh⟩ := m.wall.weekStart_bounds w
    exact ⟨hlow, hhigh, m.wall.weekStart_weekday w, fun s => firstIn_week, fun f => lastIn_week,
      fun x => firstIn_week_eq_error_iff, fun x => lastIn_week_eq_error_iff⟩

theorem edges_partition_last_week : ∃ s : Moment,
    firstIn ⟨⟨⟨9999, 12, 31, by decide⟩, ⟨12, 30, 0, 7, by decide⟩⟩, .zone .utc, true⟩ .week
        Week.sunday = .ok s ∧
      s.wall.date.weekday = Week.sunday.firstDay ∧ s.firstIn .week Week.sunday = .ok s ∧
      lastIn ⟨⟨⟨9999, 12, 31, by decide⟩, ⟨12, 30, 0, 7, by decide⟩⟩, .zone .utc, true⟩ .week
        Week.sunday = .error .pastCalendar := by
  have hs : firstIn ⟨⟨⟨9999, 12, 31, by decide⟩, ⟨12, 30, 0, 7, by decide⟩⟩, .zone .utc, true⟩
      .week Week.sunday = .ok ⟨⟨⟨9999, 12, 26, by decide⟩, .midnight⟩, .zone .utc, false⟩ := by
    decide +kernel
  obtain ⟨_, hedge, _, _, first, _, _, _, hfirst, _, _, hlast⟩ := edges_partition
    ⟨⟨⟨9999, 12, 31, by decide⟩, ⟨12, 30, 0, 7, by decide⟩⟩, .zone .utc, true⟩ .week Week.sunday
  obtain ⟨hnumber, hweekday, _⟩ := hfirst _ hs
  refine ⟨_, hs, hweekday, (hedge .start _ hs).2.1, (hlast _).mpr ⟨?_, rfl⟩⟩
  intro d hd
  have hday : first = 3652054 := hnumber.symm.trans (by decide)
  have hbounds := d.number_bounds
  omega

end Moment

end TimePhrase
