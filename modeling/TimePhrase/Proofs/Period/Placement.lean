import TimePhrase.Proofs.Calendar.Advance
import TimePhrase.Proofs.Phrase.WrittenLayout

namespace TimePhrase

namespace Moment

/-- The moment of a frame at second `n` on the wall, on the first pass of the clock. -/
def atSecond? (frame : Frame) (n : Int) : Option Moment :=
  (Civil.atSecond? n).map (⟨·, frame, false⟩)

theorem atSecond?_eq_some_iff {frame : Frame} {n : Int} {m : Moment} :
    atSecond? frame n = some m ↔
      m.wall.seconds = n ∧ m.wall.clock.microsecond = 0 ∧ m.frame = frame ∧ m.fold = false := by
  rw [atSecond?, Option.map_eq_some_iff]
  constructor
  · rintro ⟨c, hc, rfl⟩
    have ⟨hn, hus⟩ := Civil.atSecond?_eq_some_iff.mp hc
    exact ⟨hn, hus, rfl, rfl⟩
  · obtain ⟨c, f, fold⟩ := m
    rintro ⟨hn, hus, rfl, rfl⟩
    exact ⟨c, Civil.atSecond?_eq_some_iff.mpr ⟨hn, hus⟩, rfl⟩

theorem toOption_edgeOf {m : Moment} (hm : m.fold = false) (u : TimeUnit) (w : Week)
    (edge : Edge) :
    (m.edgeOf u w edge).toOption = (m.wall.edgeOf? u w edge).map (⟨·, m.frame, false⟩) := by
  have hfold : m.foldIn u = false := by
    cases u with
    | week => rfl
    | _ => exact hm
  cases edge with
  | start =>
    simp only [edgeOf, firstIn, Civil.edgeOf?, hfold]
    cases m.wall.firstIn? w u <;> rfl
  | finish =>
    simp only [edgeOf, lastIn, Civil.edgeOf?, hfold]
    cases m.wall.lastIn? w u <;> rfl

theorem toOption_advance (m : Moment) (u : TimeUnit) (n : Int) :
    (m.advance u n).toOption = (m.wall.advance u n).toOption.map (⟨·, m.frame, false⟩) := by
  rw [advance]
  cases m.wall.advance u n <;> rfl

end Moment

namespace Endpoint

def baseUnit (e : Endpoint) (w : Week) : Int := e.base.wall.unitNumber w e.unit

/-- The number of the unit that is meant. -/
def meantUnit (e : Endpoint) (w : Week) : Int := e.baseUnit w + e.amount

/-- The edge of both units, that of the base and the one that is meant, lies on the calendar. -/
def Placeable (e : Endpoint) (w : Week) (edge : Edge) : Prop :=
  OnCalendar (e.unit.edgeSecond w (e.baseUnit w) edge) ∧
    OnCalendar (e.unit.edgeSecond w (e.meantUnit w) edge)

theorem place?_eq (e : Endpoint) (w : Week) (edge : Edge) :
    e.place? w edge =
      (Civil.atSecond? (e.unit.edgeSecond w (e.baseUnit w) edge)).bind fun _ =>
        Moment.atSecond? e.base.frame (e.unit.edgeSecond w (e.meantUnit w) edge) := by
  have hunit : e.base.wall.wholeSecond.unitNumber w e.unit = e.baseUnit w := by
    rw [baseUnit]
    cases e.unit <;> rfl
  rw [place?, Moment.reread?_eq]
  simp only [Option.bind_eq_bind, Option.bind_some, Moment.toOption_edgeOf, Civil.edgeOf?_eq,
    hunit]
  cases hfirst : Civil.atSecond? (e.unit.edgeSecond w (e.baseUnit w) edge) with
  | none => rfl
  | some c =>
    have hmoved := Civil.advance_edge (Civil.atSecond?_eq_some_iff.mp hfirst).1 e.amount
    rw [meantUnit, Moment.atSecond?, ← hmoved]
    simp only [Option.map_some, Option.bind_some, Moment.toOption_advance]
    cases (c.advance e.unit e.amount).toOption with
    | none => rfl
    | some c' => exact Moment.toOption_edgeOf rfl e.unit w edge

theorem place?_eq_some_iff {e : Endpoint} {w : Week} {edge : Edge} {m : Moment} :
    e.place? w edge = some m ↔ e.Placeable w edge ∧
      m.wall.seconds = e.unit.edgeSecond w (e.meantUnit w) edge ∧
      m.wall.clock.microsecond = 0 ∧ m.frame = e.base.frame ∧ m.fold = false := by
  rw [place?_eq, Option.bind_eq_some_iff]
  constructor
  · rintro ⟨c, hc, hm⟩
    have hm := Moment.atSecond?_eq_some_iff.mp hm
    exact ⟨⟨⟨c, (Civil.atSecond?_eq_some_iff.mp hc).1⟩, ⟨m.wall, hm.1⟩⟩, hm⟩
  · rintro ⟨⟨hbase, _⟩, hm⟩
    obtain ⟨c, hc⟩ := Option.isSome_iff_exists.mp (Civil.isSome_atSecond?.mpr hbase)
    exact ⟨c, hc, Moment.atSecond?_eq_some_iff.mpr hm⟩

theorem place?_eq_none_iff {e : Endpoint} {w : Week} {edge : Edge} :
    e.place? w edge = none ↔ ¬ e.Placeable w edge := by
  constructor
  · rintro hnone ⟨hbase, hmeant⟩
    obtain ⟨c, hc⟩ := Option.isSome_iff_exists.mp (Civil.isSome_atSecond?.mpr hmeant)
    have hm : e.place? w edge = some ⟨c, e.base.frame, false⟩ := by
      have ⟨hseconds, hus⟩ := Civil.atSecond?_eq_some_iff.mp hc
      exact place?_eq_some_iff.mpr ⟨⟨hbase, hmeant⟩, hseconds, hus, rfl, rfl⟩
    rw [hnone] at hm
    cases hm
  · intro h
    cases hm : e.place? w edge with
    | none => rfl
    | some m => exact absurd (place?_eq_some_iff.mp hm).1 h

theorem place_eq_ok_iff {e : Endpoint} {w : Week} {edge : Edge} {m : Moment} :
    e.place w edge = .ok m ↔ e.Placeable w edge ∧
      m.wall.seconds = e.unit.edgeSecond w (e.meantUnit w) edge ∧
      m.wall.clock.microsecond = 0 ∧ m.frame = e.base.frame ∧ m.fold = false := by
  rw [← place?_eq_some_iff, place]
  cases e.place? w edge with
  | none => exact ⟨nofun, nofun⟩
  | some m' => rw [Except.ok.injEq, Option.some.injEq]

theorem place_eq_error_iff {e : Endpoint} {w : Week} {edge : Edge} {x : PhraseError} :
    e.place w edge = .error x ↔ ¬ e.Placeable w edge ∧ x = .offCalendar e.text := by
  rw [← place?_eq_none_iff, place]
  cases e.place? w edge with
  | none => simp only [Except.error.injEq, true_and, eq_comm]
  | some m' => exact ⟨nofun, nofun⟩

theorem place_start_le {e : Endpoint} {w : Week} {m : Moment} (hamount : e.amount ≤ 0)
    (h : e.place w .start = .ok m) : m.wall.seconds ≤ e.base.wall.seconds := by
  rw [(place_eq_ok_iff.mp h).2.1]
  apply (e.base.wall.firstSecond_le_seconds_iff w e.unit _).mpr
  rw [meantUnit, baseUnit]
  omega

theorem le_place_finish {e : Endpoint} {w : Week} {m : Moment} (hamount : 0 ≤ e.amount)
    (h : e.place w .finish = .ok m) : e.base.wall.seconds ≤ m.wall.seconds := by
  rw [(place_eq_ok_iff.mp h).2.1, TimeUnit.edgeSecond, TimeUnit.lastSecond]
  have hnext := e.base.wall.firstSecond_le_seconds_iff w e.unit (e.meantUnit w + 1)
  rw [meantUnit, baseUnit] at *
  omega

/-- An endpoint is placed at the edge of the unit it means, unless that is off the calendar. -/
theorem place_edge_of_meantUnit (e : Endpoint) (w : Week) :
    (e.unit.firstSecond w (e.baseUnit w) ≤ e.base.wall.seconds ∧
      e.base.wall.seconds ≤ e.unit.lastSecond w (e.baseUnit w)) ∧
    (∀ edge m, e.place w edge = .ok m ↔ e.Placeable w edge ∧
      m.wall.seconds = e.unit.edgeSecond w (e.baseUnit w + e.amount) edge ∧
      m.wall.clock.microsecond = 0 ∧ m.frame = e.base.frame ∧ m.fold = false) ∧
    (∀ edge x, e.place w edge = .error x ↔ ¬ e.Placeable w edge ∧ x = .offCalendar e.text) ∧
    ∀ (e' : Endpoint) (m m' : Moment), e'.unit = e.unit → e'.base = e.base →
      e'.amount = e.amount + 1 → e.place w .finish = .ok m → e'.place w .start = .ok m' →
      m.wall.addSeconds? 1 = some m'.wall := by
  refine ⟨⟨e.base.wall.firstSecond_le_seconds w e.unit, e.base.wall.seconds_le_lastSecond w e.unit⟩,
    fun _ _ => place_eq_ok_iff, fun _ _ => place_eq_error_iff, ?_⟩
  intro e' m m' hunit hbase hamount hm hm'
  obtain ⟨_, hfinish, hus, _⟩ := place_eq_ok_iff.mp hm
  obtain ⟨_, hstart, hus', _⟩ := place_eq_ok_iff.mp hm'
  have hmeant : e'.meantUnit w = e.meantUnit w + 1 := by
    simp only [meantUnit, baseUnit, hunit, hbase, hamount, Int.add_assoc]
  rw [hmeant, hunit] at hstart
  simp only [TimeUnit.edgeSecond, TimeUnit.lastSecond] at hfinish hstart
  exact Civil.addSeconds?_eq_some_iff.mpr ⟨by omega, by rw [hus, hus']⟩

theorem place_before_march : ∃ (e e' : Endpoint) (m m' : Moment),
    e.base = ⟨⟨⟨2024, 3, 31, by decide⟩, .midnight⟩, .zone .utc, false⟩ ∧
      e.place Week.sunday .finish = .ok m ∧ e'.place Week.sunday .start = .ok m' ∧
      m.wall.addSeconds? 1 = some m'.wall ∧ m.wall = ⟨⟨2024, 2, 29, by decide⟩, .lastSecond⟩ := by
  let base : Moment := ⟨⟨⟨2024, 3, 31, by decide⟩, .midnight⟩, .zone .utc, false⟩
  let e : Endpoint := ⟨"last 1 month".toList, .relative, .month, 1, .backward, base⟩
  let e' : Endpoint := ⟨"this month".toList, .fixed, .month, 0, .forward, base⟩
  have hm : e.place Week.sunday .finish =
      .ok ⟨⟨⟨2024, 2, 29, by decide⟩, .lastSecond⟩, .zone .utc, false⟩ :=
    eq_ok_of_toOption (by decide +kernel)
  have hm' : e'.place Week.sunday .start =
      .ok ⟨⟨⟨2024, 3, 1, by decide⟩, .midnight⟩, .zone .utc, false⟩ :=
    eq_ok_of_toOption (by decide +kernel)
  exact ⟨e, e', _, _, rfl, hm, hm',
    (place_edge_of_meantUnit e Week.sunday).2.2.2 e' _ _ rfl rfl rfl hm hm', rfl⟩

end Endpoint

end TimePhrase
