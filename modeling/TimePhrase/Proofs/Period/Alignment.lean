import TimePhrase.Proofs.Moment.Partition
import TimePhrase.Proofs.Period.FirstFailure

namespace TimePhrase

/-- The numbers of units that a phrase may count if it is written in the given way. -/
def Wording.Allows (n : Int) : Wording → Prop
  | fixed => 0 ≤ n ∧ n ≤ 2
  | relative => 1 ≤ n
  | spelled => n = 0
  | unix => n = 0

namespace Endpoint

structure WellFormed (e : Endpoint) (frame : Frame) : Prop where
  unit : e.unit ∈ TimeUnit.all
  count : e.wording.Allows e.count
  direction : e.direction ∈ Direction.all
  frame : e.base.frame = frame

/-- Some phrase has this endpoint in one of the ways of writing. -/
def ReadAt (e : Endpoint) (now : Moment) : Prop :=
  ∃ (way : Wording) (t : Text), way.read t now = .ok (some e)

theorem readAt_of_read {t : Text} {now : Moment} {e : Endpoint}
    (h : Endpoint.read t now = .ok e) : e.ReadAt now := by
  obtain ⟨way, _, hread⟩ := Wording.exists_of_readFirst h
  exact ⟨way, t.phrase, hread⟩

theorem readAt_present (now : Moment) : (present now).ReadAt now :=
  ⟨.fixed, "now".toList, rfl⟩

section Read

variable {e : Endpoint} {now : Moment}

theorem ReadAt.allows_count (h : e.ReadAt now) : e.wording.Allows e.count := by
  obtain ⟨way, t, h⟩ := h
  cases way with
  | fixed =>
    obtain ⟨f, hf, rfl⟩ := Option.map_eq_some_iff.mp (Except.ok.inj h)
    have hcount : ∀ f ∈ FixedPhrase.table, f.count ≤ 2 := by decide
    have hle := hcount f (FixedPhrase.find?_eq_some_iff.mp hf).1
    simp only [Wording.Allows]
    omega
  | relative =>
    obtain ⟨_, _, _, _, _, hpos, rfl⟩ := Relative.read_eq_some h
    exact Int.ofNat_le.mpr hpos
  | spelled =>
    obtain ⟨_, _, _, rfl⟩ := Spelled.read_eq_some h
    rfl
  | unix =>
    obtain ⟨_, _, _, _, rfl⟩ := UnixTime.read_eq_some h
    rfl

theorem ReadAt.frame_eq (h : e.ReadAt now) : e.base.frame = now.frame := by
  obtain ⟨way, t, h⟩ := h
  exact (Wording.heading_of_read h).2.2

theorem ReadAt.base_of_relative (h : e.ReadAt now) (he : e.wording = .relative) :
    e.base = now := by
  obtain ⟨way, t, h⟩ := h
  obtain rfl : way = .relative := (Wording.wording_of_read h).symm.trans he
  obtain ⟨_, _, _, _, _, _, rfl⟩ := Relative.read_eq_some h
  rfl

theorem ReadAt.wellFormed (h : e.ReadAt now) : e.WellFormed now.frame where
  unit := e.unit.mem_all
  count := h.allows_count
  direction := e.direction.mem_all
  frame := h.frame_eq

/-- Dates and times are never counted in weeks, and neither are seconds since 1970. -/
theorem ReadAt.unit_ne_week (h : e.ReadAt now) (hway : e.wording = .spelled ∨ e.wording = .unix) :
    e.unit ≠ .week := by
  obtain ⟨way, t, h⟩ := h
  rw [Wording.wording_of_read h] at hway
  rcases hway with rfl | rfl
  · obtain ⟨l, _, _, rfl⟩ := Spelled.read_eq_some h
    cases l <;> exact nofun
  · obtain ⟨_, _, _, _, rfl⟩ := UnixTime.read_eq_some h
    exact nofun

end Read

variable {e : Endpoint} {w : Week} {edge : Edge} {m c : Moment}

/-- A step of placing the endpoint fails: an edge of its unit, or the move by its amount. -/
inductive StepFails (e : Endpoint) (w : Week) (edge : Edge) : Fault → Prop
  | edge {m : Moment} {f : Fault} (h : m.edgeOf e.unit w edge = .error f) : StepFails e w edge f
  | move {m : Moment} {f : Fault} (h : m.advance e.unit e.amount = .error f) : StepFails e w edge f

theorem StepFails.offCalendar {f : Fault} (h : e.StepFails w edge f) :
    f = .noSuchYear ∨ f = .pastCalendar := by
  cases h with
  | edge h => exact .inr ((Moment.edgeOf_eq_error_iff _).mp h).2
  | move h => exact Moment.advance_eq_error h

theorem edgeOf_of_place (h : e.place w edge = .ok m) : m.edgeOf e.unit w edge = .ok m := by
  obtain ⟨_, hseconds, hmicro, _, hfold⟩ := place_eq_ok_iff.mp h
  have hedge := Civil.edgeOf?_self hseconds hmicro
  apply eq_ok_of_toOption
  rw [Moment.toOption_edgeOf hfold, hedge, Option.map_some, ← hfold]

theorem place_cases (e : Endpoint) (w : Week) (edge : Edge) :
    (∃ m, e.place w edge = .ok m) ∨ e.place w edge = .error (.offCalendar e.text) := by
  cases h : e.place w edge with
  | ok m => exact .inl ⟨m, rfl⟩
  | error x =>
    rw [(place_eq_error_iff.mp h).2]
    exact .inr rfl

/-- What spells out its moment always has a place. -/
theorem ReadAt.exists_place (h : e.ReadAt c) (hway : e.wording = .spelled ∨ e.wording = .unix)
    (w : Week) (edge : Edge) : ∃ m, e.place w edge = .ok m := by
  have hcount : e.count = 0 := by
    have hallows := h.allows_count
    rcases hway with hway | hway <;>
      · rw [hway] at hallows
        exact hallows
  obtain ⟨c', hedge⟩ := Civil.exists_edgeOf? (h.unit_ne_week hway) e.base.wall w edge
  exact ⟨_, place_of_amount_zero (amount_eq_zero hcount) hedge⟩

end Endpoint

theorem Endpoints.readAt_of_read {t : Text} {c : Moment} {es : Endpoints}
    (h : Endpoints.read t c = .ok es) : es.start.ReadAt c ∧ es.finish.ReadAt c := by
  have hside {phrase : Text} {e : Endpoint}
      (he : Endpoint.read phrase c = .ok e ∨ e = .present c) : e.ReadAt c := by
    rcases he with he | rfl
    · exact Endpoint.readAt_of_read he
    · exact Endpoint.readAt_present c
  obtain ⟨⟨_, _, _, hfirst⟩, _, _, _, hlast⟩ := sides_of_read h
  exact ⟨hside hfirst, hside hlast⟩

/-- A whole second of a zone's clock, on the first pass. -/
structure Moment.Settled (m : Moment) (z : Zone) : Prop where
  wholeSecond : m.wall.wholeSecond = m.wall
  frame : m.frame = .zone z
  fold : m.fold = false

theorem Endpoint.settled_of_place {e : Endpoint} {w : Week} {edge : Edge} {m : Moment} {z : Zone}
    (hzone : e.base.frame = .zone z) (h : e.place w edge = .ok m) : m.Settled z := by
  obtain ⟨_, _, hmicro, hframe, hfold⟩ := place_eq_ok_iff.mp h
  exact ⟨Civil.wholeSecond_eq_self hmicro, hframe.trans hzone, hfold⟩

namespace Period

variable {t : Text} {w : Week} {z : Zone} {now : Moment} {p : Period}

theorem settled_of_read (h : Period.read t w z now = .ok p) :
    p.start.Settled z ∧ p.finish.Settled z := by
  obtain ⟨c, es, hc, hread, hplace⟩ := read_eq_ok_iff.mp h
  obtain ⟨hstart, hfinish⟩ := Endpoints.place_eq_ok_iff.mp hplace
  obtain ⟨hfirst, hlast⟩ := Endpoints.readAt_of_read hread
  have hzone := Moment.frame_of_current hc
  exact ⟨Endpoint.settled_of_place (hfirst.frame_eq.trans hzone) hstart,
    Endpoint.settled_of_place (hlast.frame_eq.trans hzone) hfinish⟩

/-- The edges are whole seconds of the zone's clock on the first pass, each its own edge. -/
theorem read_aligned {t : Text} {w : Week} {z : Zone} {now c : Moment}
    (hc : now.current z = .ok c) :
    (∀ p, Period.read t w z now = .ok p → ∃ es, Endpoints.read t c = .ok es ∧
      p.start.Settled z ∧ p.finish.Settled z ∧
      p.start.firstIn es.start.unit w = .ok p.start ∧
      p.finish.lastIn es.finish.unit w = .ok p.finish) ∧
    (∀ es, Endpoints.read t c = .ok es → es.start.ReadAt c ∧ es.finish.ReadAt c) ∧
    (∀ phrase e, Endpoint.read phrase c = .ok e → e.ReadAt c) ∧
    ∀ e : Endpoint, e.ReadAt c → e.WellFormed (.zone z) ∧ (∃ m, e.base.reread? = some m) ∧
      ∀ edge, (∀ f, e.StepFails w edge f → f = .noSuchYear ∨ f = .pastCalendar) ∧
        ((∃ m, e.place w edge = .ok m) ∨ e.place w edge = .error (.offCalendar e.text)) ∧
        (e.wording = .spelled ∨ e.wording = .unix → ∃ m, e.place w edge = .ok m) := by
  refine ⟨?_, fun _ => Endpoints.readAt_of_read, fun _ _ => Endpoint.readAt_of_read, ?_⟩
  · intro p hp
    obtain ⟨c', es, hc', hread, hplace⟩ := read_eq_ok_iff.mp hp
    cases hc.symm.trans hc'
    obtain ⟨hstart, hfinish⟩ := Endpoints.place_eq_ok_iff.mp hplace
    obtain ⟨hfirst, hlast⟩ := settled_of_read hp
    exact ⟨es, hread, hfirst, hlast, Endpoint.edgeOf_of_place hstart,
      Endpoint.edgeOf_of_place hfinish⟩
  · intro e he
    have hformed := he.wellFormed
    rw [Moment.frame_of_current hc] at hformed
    refine ⟨hformed, ⟨_, e.base.reread?_eq⟩, ?_⟩
    exact fun edge => ⟨fun _ hf => hf.offCalendar, e.place_cases w edge,
      fun hway => he.exists_place hway w edge⟩

theorem read_aligned_weeks_to_months : ∃ p es,
    Period.read "last week to next 3 months".toList Week.sunday .utc
        ⟨⟨⟨2024, 5, 15, by decide⟩, ⟨13, 45, 30, 7, by decide⟩⟩, .zone .utc, false⟩ = .ok p ∧
      Endpoints.read "last week to next 3 months".toList
        ⟨⟨⟨2024, 5, 15, by decide⟩, ⟨13, 45, 30, 7, by decide⟩⟩, .zone .utc, false⟩ = .ok es ∧
      p.start.firstIn es.start.unit Week.sunday = .ok p.start ∧
      p.finish.lastIn es.finish.unit Week.sunday = .ok p.finish := by
  have hcurrent : Moment.current
      ⟨⟨⟨2024, 5, 15, by decide⟩, ⟨13, 45, 30, 7, by decide⟩⟩, .zone .utc, false⟩ .utc =
        .ok _ := Moment.current_of_frame rfl
  have hread : Period.read "last week to next 3 months".toList Week.sunday .utc
      ⟨⟨⟨2024, 5, 15, by decide⟩, ⟨13, 45, 30, 7, by decide⟩⟩, .zone .utc, false⟩ =
        .ok ⟨⟨⟨⟨2024, 5, 5, by decide⟩, .midnight⟩, .zone .utc, false⟩,
          ⟨⟨⟨2024, 8, 31, by decide⟩, .lastSecond⟩, .zone .utc, false⟩⟩ := by
    decide +kernel
  obtain ⟨es, hes, _, _, hstart, hfinish⟩ := (read_aligned hcurrent).1 _ hread
  exact ⟨_, es, hread, hes, hstart, hfinish⟩

end Period

end TimePhrase
