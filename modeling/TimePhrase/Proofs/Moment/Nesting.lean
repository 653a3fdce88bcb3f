import Mathlib.Data.List.Chain
import TimePhrase.Proofs.Moment.Partition

namespace TimePhrase

namespace TimeUnit

/-- The units by size; a week may lie in two months, so it has a row of its own. -/
def rows : List (List TimeUnit) :=
  [[second, minute, hour, day, month, quarter, year], [second, minute, hour, day, week]]

/-- The unit `u` comes before `v` in a row. -/
def Below (u v : TimeUnit) : Prop := ∃ row ∈ rows, [u, v].Sublist row

instance (u v : TimeUnit) : Decidable (u.Below v) :=
  inferInstanceAs (Decidable (∃ row ∈ rows, _))

/-- Wherever a unit `v` begins, a unit `u` begins too. -/
def Fills (w : Week) (u v : TimeUnit) : Prop := ∀ k, ∃ j, u.firstSecond w j = v.firstSecond w k

variable {w : Week} {u v : TimeUnit}

theorem Fills.trans {v' : TimeUnit} (h : Fills w u v) (h' : Fills w v v') : Fills w u v' := by
  intro k
  obtain ⟨j, hj⟩ := h' k
  obtain ⟨i, hi⟩ := h j
  exact ⟨i, hi.trans hj⟩

instance (w : Week) : Trans (Fills w) (Fills w) (Fills w) := ⟨Fills.trans⟩

theorem isChain_fills (w : Week) {row : List TimeUnit} (h : row ∈ rows) :
    row.IsChain (Fills w) := by
  have hminute : Fills w second minute := fun k => ⟨60 * k, rfl⟩
  have hhour : Fills w minute hour := by
    intro k
    refine ⟨60 * k, ?_⟩
    simp only [firstSecond]
    omega
  have hday : Fills w hour day := by
    intro k
    refine ⟨24 * k, ?_⟩
    simp only [firstSecond]
    omega
  have hweek : Fills w day week := fun k => ⟨7 * k + w.firstDay - 3, rfl⟩
  have hmonth : Fills w day month := fun k => ⟨daysToMonth k + 1 - epochDay, rfl⟩
  have hquarter : Fills w month quarter := fun k => ⟨3 * k, rfl⟩
  have hyear : Fills w quarter year := by
    intro k
    refine ⟨4 * k, congrArg monthSecond ?_⟩
    omega
  rw [rows, List.mem_cons, List.mem_singleton] at h
  rcases h with rfl | rfl
  · exact .cons_cons hminute (.cons_cons hhour (.cons_cons hday (.cons_cons hmonth
      (.cons_cons hquarter (.cons_cons hyear (.singleton _))))))
  · exact .cons_cons hminute (.cons_cons hhour (.cons_cons hday (.cons_cons hweek
      (.singleton _))))

theorem Below.fills (h : u.Below v) (w : Week) : Fills w u v := by
  obtain ⟨row, hrow, hpair⟩ := h
  have hordered := (isChain_fills w hrow).pairwise.sublist hpair
  exact List.rel_of_pairwise_cons hordered List.mem_cons_self

theorem Below.ne_week (h : u.Below v) : u ≠ week := by
  rintro rfl
  cases v <;> exact absurd h (by decide)

theorem Fills.edgeSecond (h : Fills w u v) (k : Int) (edge : Edge) :
    ∃ j, u.edgeSecond w j edge = v.edgeSecond w k edge := by
  cases edge with
  | start => exact h k
  | finish =>
    obtain ⟨j, hj⟩ := h (k + 1)
    refine ⟨j - 1, ?_⟩
    simp only [TimeUnit.edgeSecond, lastSecond, Int.sub_add_cancel, hj]

end TimeUnit

namespace Civil

variable {c d : Civil} {w : Week} {u v : TimeUnit}

theorem unitNumber_le_of_fills (h : TimeUnit.Fills w u v)
    (hle : c.unitNumber w u ≤ d.unitNumber w u) : c.unitNumber w v ≤ d.unitNumber w v := by
  obtain ⟨j, hj⟩ := h (c.unitNumber w v)
  have hfirst := c.firstSecond_le_seconds w v
  rw [← hj, firstSecond_le_seconds_iff] at hfirst
  rw [← firstSecond_le_seconds_iff, ← hj, firstSecond_le_seconds_iff]
  exact Int.le_trans hfirst hle

theorem unitNumber_eq_of_fills (h : TimeUnit.Fills w u v)
    (heq : c.unitNumber w u = d.unitNumber w u) : c.unitNumber w v = d.unitNumber w v :=
  Int.le_antisymm (unitNumber_le_of_fills h (Int.le_of_eq heq))
    (unitNumber_le_of_fills h (Int.le_of_eq heq.symm))

end Civil

namespace Moment

variable {m e : Moment} {u v : TimeUnit} {w : Week}

theorem foldIn_of_ne_week (hu : u ≠ .week) (m : Moment) : m.foldIn u = m.fold := by
  cases u with
  | week => exact absurd rfl hu
  | _ => rfl

theorem edgeOf_congr (hunit : e.wall.unitNumber w v = m.wall.unitNumber w v)
    (hframe : e.frame = m.frame) (hfold : e.foldIn v = m.foldIn v) (edge : Edge) :
    e.edgeOf v w edge = m.edgeOf v w edge := by
  rw [edgeOf_eq, edgeOf_eq, Civil.edgeOf?_eq, Civil.edgeOf?_eq, hunit, hframe, hfold]

theorem edgeOf_of_edgeOf_below (h : u.Below v) {inner : Edge} (he : m.edgeOf u w inner = .ok e)
    (outer : Edge) : e.edgeOf v w outer = m.edgeOf v w outer := by
  obtain ⟨_, hframe, hfold⟩ := (edgeOf_eq_ok_iff inner).mp he
  rw [foldIn_of_ne_week h.ne_week] at hfold
  have hunit := Civil.unitNumber_of_edge (wall_of_edgeOf inner he).1
  apply edgeOf_congr (Civil.unitNumber_eq_of_fills (h.fills w) hunit) hframe
  cases v with
  | week => rfl
  | _ => exact hfold

theorem edgeOf_below_of_edgeOf (h : u.Below v) {edge : Edge} (he : m.edgeOf v w edge = .ok e) :
    e.edgeOf u w edge = .ok e := by
  obtain ⟨hseconds, hmicro⟩ := wall_of_edgeOf edge he
  obtain ⟨j, hj⟩ := (h.fills w).edgeSecond (m.wall.unitNumber w v) edge
  rw [← hj] at hseconds
  exact (edgeOf_eq_ok_iff edge).mpr
    ⟨Civil.edgeOf?_self hseconds hmicro, rfl, (foldIn_of_ne_week h.ne_week e).symm⟩

/-- The edges of a unit are found alike from the moment and from either edge of a smaller unit. -/
theorem edges_nested {fine coarse : TimeUnit} (h : fine.Below coarse) (m : Moment) (w : Week) :
    (∀ inner outer, (m.edgeOf fine w inner >>= (·.edgeOf coarse w outer)) =
      m.edgeOf coarse w outer) ∧
    ∀ edge, (m.edgeOf coarse w edge >>= (·.edgeOf fine w edge)) = m.edgeOf coarse w edge := by
  constructor
  · intro inner outer
    obtain ⟨wall, hwall⟩ := Civil.exists_edgeOf? h.ne_week m.wall w inner
    have he := edgeOf_of_wall inner hwall
    rw [he]
    exact edgeOf_of_edgeOf_below h he outer
  · intro edge
    cases he : m.edgeOf coarse w edge with
    | error f => rfl
    | ok e => exact edgeOf_below_of_edgeOf h he

theorem edges_nested_last_week : TimeUnit.hour.Below .week ∧
    ∃ hour start : Moment,
      firstIn ⟨⟨⟨9999, 12, 31, by decide⟩, ⟨12, 30, 0, 7, by decide⟩⟩, .zone .utc, true⟩ .hour
        Week.sunday = .ok hour ∧
      hour.firstIn .week Week.sunday = .ok start ∧ start.firstIn .hour Week.sunday = .ok start ∧
      hour.lastIn .week Week.sunday = .error .pastCalendar := by
  have hbelow : TimeUnit.hour.Below .week := by decide
  have ⟨hfine, hcoarse⟩ := edges_nested hbelow
    ⟨⟨⟨9999, 12, 31, by decide⟩, ⟨12, 30, 0, 7, by decide⟩⟩, .zone .utc, true⟩ Week.sunday
  have hstart : firstIn ⟨⟨⟨9999, 12, 31, by decide⟩, ⟨12, 30, 0, 7, by decide⟩⟩, .zone .utc, true⟩
      .week Week.sunday = .ok ⟨⟨⟨9999, 12, 26, by decide⟩, .midnight⟩, .zone .utc, false⟩ := by
    decide +kernel
  have hlast : lastIn ⟨⟨⟨9999, 12, 31, by decide⟩, ⟨12, 30, 0, 7, by decide⟩⟩, .zone .utc, true⟩
      .week Week.sunday = .error .pastCalendar := by
    decide +kernel
  refine ⟨hbelow, _, _, rfl, (hfine .start .start).trans hstart, ?_,
    (hfine .start .finish).trans hlast⟩
  have hself := hcoarse .start
  rw [edgeOf, hstart] at hself
  exact hself

end Moment

end TimePhrase
