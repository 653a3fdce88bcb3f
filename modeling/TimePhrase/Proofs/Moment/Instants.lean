import TimePhrase.Period
import TimePhrase.Proofs.Zone.Reading

namespace TimePhrase

theorem wholeMagnitude_mul (n : Nat) : wholeMagnitude (1000000 * n) = n := by
  have hquotient : 1000000 * n / 1000000 = n := Nat.mul_div_cancel_left n (by decide)
  simp only [wholeMagnitude, hquotient]
  generalize 53 - (n.log2 + 1) = bits
  have hshift : (1000000 * n) <<< bits = 1000000 * (n <<< bits) := by
    rw [Nat.shiftLeft_eq, Nat.shiftLeft_eq, Nat.mul_assoc]
  have hround : roundHalfEven (1000000 * (n <<< bits)) 1000000 = n <<< bits := by
    have hdiv : 1000000 * (n <<< bits) / 1000000 = n <<< bits :=
      Nat.mul_div_cancel_left _ (by decide)
    simp only [roundHalfEven, Nat.mul_mod_right, hdiv]
    exact if_pos (by decide)
  rw [hshift, hround, Nat.shiftLeft_shiftRight]

theorem wholeSeconds_mul (n : Int) : wholeSeconds (1000000 * n) = n := by
  have hsign : (1000000 * n).sign = n.sign := by
    rw [Int.sign_mul]
    exact Int.one_mul _
  rw [wholeSeconds, hsign, Int.natAbs_mul]
  exact (congrArg (fun k : Nat => n.sign * (k : Int)) (wholeMagnitude_mul n.natAbs)).trans
    (Int.sign_mul_natAbs n)

/-- The frame has a wall time for instant `n`; a floating one, not on the first day of all. -/
def Frame.Shows : Frame → Int → Prop
  | .floating, n => OnCalendar n ∧ OnCalendar (n - 86400)
  | .fixed o, n => OnCalendar n ∧ OnCalendar (n + o)
  | .zone z, n =>
    ∃ utc : Civil, utc.seconds = n ∧ OnCalendar (n + (z.history.utcOffset utc).1)

/-- A constant offset is shorter than a day. -/
def Frame.WithinDay : Frame → Prop
  | .fixed o => -86400 < o ∧ o < 86400
  | _ => True

theorem Frame.WithinDay.shows {frame : Frame} (h : frame.WithinDay) {n : Int}
    (hlow : -62135510400 ≤ n) (hhigh : n < 253402214400) : frame.Shows n := by
  cases frame with
  | floating => exact ⟨onCalendar_iff.mpr (by omega), onCalendar_iff.mpr (by omega)⟩
  | fixed o =>
    obtain ⟨hbehind, hahead⟩ := h
    exact ⟨onCalendar_iff.mpr (by omega), onCalendar_iff.mpr (by omega)⟩
  | zone z =>
    obtain ⟨utc, rfl⟩ : OnCalendar n := onCalendar_iff.mpr (by omega)
    have hshown := z.spaced_changes.shown_bounds z.regular.first utc.seconds
    refine ⟨utc, rfl, onCalendar_iff.mpr ?_⟩
    rw [z.utcOffset_eq]
    rw [History.shown] at hshown
    omega

namespace Moment

variable {n : Int} {us : Nat} {hus : us < 1000000}

theorem onCalendar_iff_ofSeconds? : OnCalendar n ↔ ∃ c, Civil.ofSeconds? n us hus = some c := by
  rw [← Option.isSome_iff_exists, Civil.isSome_ofSeconds?, onCalendar_iff]

theorem isSome_ofUnix?_iff {frame : Frame} :
    (ofUnix? frame n us hus).isSome ↔ frame.Shows n := by
  rw [Option.isSome_iff_exists]
  simp only [ofUnix?, Option.bind_eq_bind, Option.bind_eq_some_iff]
  constructor
  · rintro ⟨m, utc, hutc, hm⟩
    have hn := ((Civil.ofSeconds?_eq_some_iff hus).mp hutc).1
    cases frame with
    | floating =>
      obtain ⟨c, hc, _⟩ := Option.bind_eq_some_iff.mp hm
      exact ⟨⟨utc, hn⟩, onCalendar_iff_ofSeconds?.mpr ⟨c, hc⟩⟩
    | fixed o =>
      obtain ⟨c, hc, _⟩ := Option.bind_eq_some_iff.mp hm
      exact ⟨⟨utc, hn⟩, onCalendar_iff_ofSeconds?.mpr ⟨c, hc⟩⟩
    | zone z =>
      obtain ⟨c, hc, _⟩ := Option.bind_eq_some_iff.mp hm
      exact ⟨utc, hn, onCalendar_iff_ofSeconds?.mpr ⟨c, hc⟩⟩
  · intro h
    cases frame with
    | floating =>
      obtain ⟨utc, hutc⟩ := onCalendar_iff_ofSeconds?.mp h.1
      obtain ⟨c, hc⟩ := onCalendar_iff_ofSeconds?.mp h.2
      exact ⟨_, utc, hutc, Option.bind_eq_some_iff.mpr ⟨c, hc, rfl⟩⟩
    | fixed o =>
      obtain ⟨utc, hutc⟩ := onCalendar_iff_ofSeconds?.mp h.1
      obtain ⟨c, hc⟩ := onCalendar_iff_ofSeconds?.mp h.2
      exact ⟨_, utc, hutc, Option.bind_eq_some_iff.mpr ⟨c, hc, rfl⟩⟩
    | zone z =>
      obtain ⟨utc', rfl, hwall⟩ := h
      obtain ⟨utc, hutc⟩ := onCalendar_iff_ofSeconds?.mp utc'.onCalendar
      have hsame : z.history.utcOffset utc = z.history.utcOffset utc' := by
        rw [z.utcOffset_eq, z.utcOffset_eq, ((Civil.ofSeconds?_eq_some_iff hus).mp hutc).1]
      rw [← hsame] at hwall
      obtain ⟨c, hc⟩ := onCalendar_iff_ofSeconds?.mp hwall
      exact ⟨_, utc, hutc, Option.bind_eq_some_iff.mpr ⟨c, hc, rfl⟩⟩

theorem frame_of_ofUnix? {frame : Frame} {m : Moment} (h : ofUnix? frame n us hus = some m) :
    m.frame = frame := by
  simp only [ofUnix?, Option.bind_eq_bind, Option.bind_eq_some_iff] at h
  obtain ⟨_, _, h⟩ := h
  cases frame with
  | floating =>
    obtain ⟨_, _, hm⟩ := Option.bind_eq_some_iff.mp h
    cases hm
    rfl
  | fixed o =>
    obtain ⟨_, _, hm⟩ := Option.bind_eq_some_iff.mp h
    cases hm
    rfl
  | zone z =>
    obtain ⟨_, _, hm⟩ := Option.bind_eq_some_iff.mp h
    cases hm
    rfl

theorem ofUnix?_fixed {o : Int} {m : Moment} (h : ofUnix? (.fixed o) n us hus = some m) :
    m.wall.seconds = n + o ∧ m.wall.clock.microsecond = us ∧ m.frame = .fixed o := by
  simp only [ofUnix?, Option.bind_eq_bind, Option.bind_eq_some_iff] at h
  obtain ⟨_, _, c, hc, hm⟩ := h
  cases hm
  obtain ⟨hseconds, hmicro⟩ := (Civil.ofSeconds?_eq_some_iff hus).mp hc
  exact ⟨hseconds, hmicro, rfl⟩

theorem ofUnix?_offset {frame : Frame} (hframe : frame ≠ .floating) {m : Moment}
    (h : ofUnix? frame n us hus = some m) :
    m.offset? = some (m.wall.seconds - n) ∧ m.wall.clock.microsecond = us ∧ m.frame = frame := by
  cases frame with
  | floating => exact absurd rfl hframe
  | fixed o =>
    obtain ⟨hseconds, hmicro, hm⟩ := ofUnix?_fixed h
    refine ⟨?_, hmicro, hm⟩
    rw [offset?, hm, hseconds]
    simp only [Option.some.injEq]
    omega
  | zone z =>
    obtain ⟨_, _, hmicro, hm, _⟩ := Zone.ofUnix?_eq_some_iff.mp h
    exact ⟨Zone.offset?_of_ofUnix? h, hmicro, hm⟩

/-- The moment of an instant shows it, in the place of the frame or, without one, as UTC does. -/
theorem seconds_of_ofUnix? {frame : Frame} {m : Moment} (h : ofUnix? frame n us hus = some m) :
    m.wall.seconds = n + m.offset?.getD 0 ∧ m.wall.clock.microsecond = us ∧ m.frame = frame := by
  by_cases hframe : frame = .floating
  · subst hframe
    simp only [ofUnix?, Option.bind_eq_bind, Option.bind_eq_some_iff] at h
    obtain ⟨utc, hutc, _, _, hm⟩ := h
    cases hm
    obtain ⟨hseconds, hmicro⟩ := (Civil.ofSeconds?_eq_some_iff hus).mp hutc
    exact ⟨hseconds.trans (Int.add_zero n).symm, hmicro, rfl⟩
  · obtain ⟨hoffset, hmicro, hm⟩ := ofUnix?_offset hframe h
    refine ⟨?_, hmicro, hm⟩
    rw [hoffset, Option.getD_some]
    omega

theorem current_of_ofUnix? {frame : Frame} (hframe : frame ≠ .floating) {now c : Moment}
    (hnow : ofUnix? frame n us hus = some now) {z : Zone} (h : now.current z = .ok c) :
    ofUnix? (.zone z) n us hus = some c := by
  obtain ⟨hoffset, hmicro, hm⟩ := ofUnix?_offset hframe hnow
  rw [current, if_neg (hm ▸ hframe), inZone] at h
  by_cases hzone : now.frame = .zone z
  · rw [if_pos hzone] at h
    cases h
    rw [← hzone, hm]
    exact hnow
  · have hback : now.wall.seconds - (now.wall.seconds - n) = n := by omega
    simp only [if_neg hzone, hoffset, hback, hmicro] at h
    split at h
    · rename_i moved hmoved
      cases h
      exact hmoved
    · cases h

/-- A moment on the first pass stands for the first instant with its reading. -/
theorem unixSeconds_of_zone {z : Zone} {m : Moment} (hframe : m.frame = .zone z)
    (hfold : m.fold = false) (hmicro : m.wall.clock.microsecond = 0) :
    m.unixSeconds = .ok (z.firstInstant m.wall) := by
  have hinstant : m.instant? = some (1000000 * z.firstInstant m.wall) := by
    rw [instant?, offset?, hframe, hfold, Option.map_some, Option.some.injEq, Zone.firstInstant,
      Civil.microseconds, hmicro]
    omega
  rw [unixSeconds, hinstant]
  exact congrArg Except.ok (wholeSeconds_mul _)

end Moment

end TimePhrase
