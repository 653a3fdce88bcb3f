import TimePhrase.Proofs.Period.Instants
import TimePhrase.Proofs.Phrase.Clock

namespace TimePhrase

namespace Moment

/-- The same reading of the same clock without its fold. -/
def unfolded (m : Moment) : Moment := { m with fold := false }

theorem microsecond_lt (m : Moment) : m.wall.clock.microsecond < 1000000 :=
  m.wall.clock.valid.2.2.2

/-- The wall time survives the way to UTC and back, which fails in a gap. -/
def ComesBack (m : Moment) : Prop :=
  ∃ (n : Int) (m' : Moment), m.offset? = some (m.wall.seconds - n) ∧
    ofUnix? m.frame n m.wall.clock.microsecond m.microsecond_lt = some m' ∧
      m'.wall = m.wall

theorem instant?_of_offset? {m : Moment} {n : Int} (h : m.offset? = some (m.wall.seconds - n)) :
    m.instant? = some (1000000 * n + m.wall.clock.microsecond) := by
  rw [instant?, h, Option.map_some, Civil.microseconds, Option.some.injEq]
  omega

theorem ne_floating_of_offset? {m : Moment} {o : Int} (h : m.offset? = some o) :
    m.frame ≠ .floating := by
  intro hframe
  rw [offset?, hframe] at h
  cases h

/-- A moment that has the zone already keeps the fold that it was given. -/
theorem map_unfolded_current {m m' : Moment} {n : Int} {us : Nat} {hus : us < 1000000}
    (hoffset : m.offset? = some (m.wall.seconds - n)) (hmicro : m.wall.clock.microsecond = us)
    (hback : ofUnix? m.frame n us hus = some m') (hwall : m'.wall = m.wall) (z : Zone) :
    (m.current z).map unfolded =
      match ofUnix? (.zone z) n us hus with
      | some c => .ok c.unfolded
      | none => .error .pastCalendar := by
  subst hmicro
  rw [current, if_neg (ne_floating_of_offset? hoffset), inZone]
  by_cases hzone : m.frame = .zone z
  · have hsame : m'.unfolded = m.unfolded := by
      rw [unfolded, unfolded, hwall, frame_of_ofUnix? hback]
    rw [if_pos hzone, ← hzone, hback]
    exact congrArg Except.ok hsame.symm
  · have hn : m.wall.seconds - (m.wall.seconds - n) = n := by omega
    simp only [if_neg hzone, hoffset, hn]
    cases ofUnix? (.zone z) n m.wall.clock.microsecond hus <;> rfl

theorem current_of_same_instant {m₁ m₂ : Moment} (h₁ : m₁.ComesBack) (h₂ : m₂.ComesBack)
    (hinstant : m₁.instant? = m₂.instant?) (z : Zone) :
    (m₁.current z).map unfolded = (m₂.current z).map unfolded := by
  obtain ⟨n₁, m₁', hoffset₁, hback₁, hwall₁⟩ := h₁
  obtain ⟨n₂, m₂', hoffset₂, hback₂, hwall₂⟩ := h₂
  rw [instant?_of_offset? hoffset₁, instant?_of_offset? hoffset₂, Option.some.injEq] at hinstant
  have hus₁ := m₁.microsecond_lt
  have hus₂ := m₂.microsecond_lt
  obtain rfl : n₁ = n₂ := by omega
  have hmicro : m₂.wall.clock.microsecond = m₁.wall.clock.microsecond := by omega
  rw [map_unfolded_current hoffset₁ rfl hback₁ hwall₁]
  simp only [hmicro] at hback₂
  rw [map_unfolded_current hoffset₂ hmicro hback₂ hwall₂]

end Moment

namespace Endpoint

theorem place_congr {e e' : Endpoint} (htext : e.text = e'.text) (hunit : e.unit = e'.unit)
    (hamount : e.amount = e'.amount) (hwall : e.base.wall = e'.base.wall)
    (hframe : e.base.frame = e'.base.frame) (w : Week) (edge : Edge) :
    e.place w edge = e'.place w edge := by
  rw [place, place, place?_eq, place?_eq, meantUnit, meantUnit, baseUnit, baseUnit, htext, hunit,
    hamount, hwall, hframe]

theorem place_seenFrom_unfolded (e : Endpoint) (c : Moment) (w : Week) (edge : Edge) :
    (e.seenFrom c.unfolded).place w edge = (e.seenFrom c).place w edge := by
  have hbase : (e.seenFrom c.unfolded).base.wall = (e.seenFrom c).base.wall ∧
      (e.seenFrom c.unfolded).base.frame = (e.seenFrom c).base.frame := by
    obtain ⟨text, wording, unit, count, direction, base⟩ := e
    cases wording with
    | fixed => exact ⟨rfl, rfl⟩
    | relative => exact ⟨rfl, rfl⟩
    | spelled =>
      simp only [seenFrom]
      split <;> exact ⟨rfl, rfl⟩
    | unix => exact ⟨rfl, rfl⟩
  apply place_congr
  · rfl
  · rfl
  · rfl
  · exact hbase.1
  · exact hbase.2

end Endpoint

namespace Endpoints

/-- The endpoints that the same text means at the moment `now`. -/
def seenFrom (now : Moment) (es : Endpoints) : Endpoints :=
  ⟨es.start.seenFrom now, es.finish.seenFrom now⟩

variable {now now' : Moment}

theorem ofSingle_seenFrom (t : Text) (e : Endpoint) :
    ofSingle t (e.seenFrom now') now' = (ofSingle t e now).seenFrom now' := by
  have hwording : (e.seenFrom now').wording = e.wording := rfl
  rw [ofSingle, ofSingle, hwording]
  split
  · split <;> rfl
  · rfl

theorem read_seenFrom (t : Text) (hframe : now'.frame = now.frame) :
    Endpoints.read t now' = (Endpoints.read t now).map (·.seenFrom now') := by
  rw [read, read]
  split
  · rename_i phrase _
    rw [Endpoint.read_seenFrom phrase hframe]
    cases Endpoint.read phrase now with
    | error x => rfl
    | ok e => exact congrArg Except.ok (ofSingle_seenFrom phrase e)
  · rename_i first last _
    rw [Endpoint.read_seenFrom first hframe, Endpoint.read_seenFrom last hframe]
    cases Endpoint.read first now with
    | error x => rfl
    | ok e => cases Endpoint.read last now <;> rfl
  · rfl

theorem place_seenFrom_unfolded (es : Endpoints) (c : Moment) (w : Week) :
    (es.seenFrom c.unfolded).place w = (es.seenFrom c).place w := by
  simp only [place, seenFrom, Endpoint.place_seenFrom_unfolded]

end Endpoints

namespace Period

theorem place_read_unfolded (t : Text) (w : Week) (c : Moment) :
    (Endpoints.read t c.unfolded >>= fun es => (es.place w).mapError Failure.phrase) =
      Endpoints.read t c >>= fun es => (es.place w).mapError Failure.phrase := by
  have hunfolded : Endpoints.read t c.unfolded =
      (Endpoints.read t c).map (·.seenFrom c.unfolded) := Endpoints.read_seenFrom t rfl
  have hself : Endpoints.read t c = (Endpoints.read t c).map (·.seenFrom c) :=
    Endpoints.read_seenFrom t rfl
  let place (es : Endpoints) : Except Failure Period := (es.place w).mapError .phrase
  calc Endpoints.read t c.unfolded >>= place
    _ = (Endpoints.read t c).map (·.seenFrom c.unfolded) >>= place := by rw [hunfolded]
    _ = Endpoints.read t c >>= fun es => place (es.seenFrom c.unfolded) := map_bind ..
    _ = Endpoints.read t c >>= fun es => place (es.seenFrom c) := by
      simp only [place, Endpoints.place_seenFrom_unfolded]
    _ = (Endpoints.read t c).map (·.seenFrom c) >>= place := (map_bind ..).symm
    _ = Endpoints.read t c >>= place := by rw [← hself]

theorem read_congr_current {now₁ now₂ : Moment} {z : Zone}
    (h : (now₁.current z).map Moment.unfolded = (now₂.current z).map Moment.unfolded) (t : Text)
    (w : Week) : Period.read t w z now₁ = Period.read t w z now₂ := by
  cases h₁ : now₁.current z with
  | error f =>
    cases h₂ : now₂.current z with
    | error f' =>
      rw [h₁, h₂] at h
      cases h
      rw [Period.read, Period.read, h₁, h₂]
    | ok c' =>
      rw [h₁, h₂] at h
      cases h
  | ok c =>
    cases h₂ : now₂.current z with
    | error f' =>
      rw [h₁, h₂] at h
      cases h
    | ok c' =>
      rw [h₁, h₂] at h
      have hc : c.unfolded = c'.unfolded := Except.ok.inj h
      rw [read_eq_bind h₁, read_eq_bind h₂, ← place_read_unfolded t w c, hc, place_read_unfolded]

/-- Moments of one instant that come back from UTC see the same period of every text. -/
theorem read_of_same_instant {now₁ now₂ : Moment} (h₁ : now₁.ComesBack) (h₂ : now₂.ComesBack)
    (hinstant : now₁.instant? = now₂.instant?) (t : Text) (w : Week) (z : Zone) :
    Period.read t w z now₁ = Period.read t w z now₂ :=
  read_congr_current (Moment.current_of_same_instant h₁ h₂ hinstant z) t w

theorem read_of_needless_fold :
    Period.read "13:00:00 to now".toList Week.sunday .newYork
        ⟨⟨⟨2024, 5, 15, by decide⟩, ⟨13, 45, 30, 7, by decide⟩⟩, .zone .newYork, true⟩ =
      Period.read "13:00:00 to now".toList Week.sunday .newYork
        ⟨⟨⟨2024, 5, 15, by decide⟩, ⟨17, 45, 30, 7, by decide⟩⟩, .fixed 0, false⟩ := by
  have hzone : Moment.ComesBack
      ⟨⟨⟨2024, 5, 15, by decide⟩, ⟨13, 45, 30, 7, by decide⟩⟩, .zone .newYork, true⟩ :=
    ⟨1715795130, ⟨⟨⟨2024, 5, 15, by decide⟩, ⟨13, 45, 30, 7, by decide⟩⟩, .zone .newYork, false⟩,
      by decide +kernel, by decide +kernel, rfl⟩
  have hutc : Moment.ComesBack
      ⟨⟨⟨2024, 5, 15, by decide⟩, ⟨17, 45, 30, 7, by decide⟩⟩, .fixed 0, false⟩ :=
    ⟨1715795130, _, by decide +kernel, by decide +kernel, rfl⟩
  exact read_of_same_instant hzone hutc (by decide +kernel) _ Week.sunday .newYork

end Period

end TimePhrase
