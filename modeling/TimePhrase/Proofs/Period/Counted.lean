import TimePhrase.Proofs.Period.Order

namespace TimePhrase

namespace Endpoint

/-- The endpoints count units of the same kind from the same moment. -/
structure SameUnits (e e' : Endpoint) : Prop where
  unit : e'.unit = e.unit
  base : e'.base = e.base

namespace SameUnits

variable {e e' : Endpoint} (hsame : e.SameUnits e') {w : Week} {edge : Edge} {m m' : Moment}
include hsame

theorem baseUnit : e'.baseUnit w = e.baseUnit w := by
  rw [Endpoint.baseUnit, Endpoint.baseUnit, hsame.unit, hsame.base]

theorem meantUnit : e'.meantUnit w = e.meantUnit w + (e'.amount - e.amount) := by
  rw [Endpoint.meantUnit, Endpoint.meantUnit, hsame.baseUnit]
  omega

theorem exists_place (hfewer : e.amount ≤ e'.amount ∧ e'.amount ≤ 0 ∨
    0 ≤ e'.amount ∧ e'.amount ≤ e.amount) (h : e.place w edge = .ok m) :
    ∃ m', e'.place w edge = .ok m' := by
  obtain ⟨hfirst, hlast⟩ := (place_eq_ok_iff.mp h).1
  have hmeant : e.meantUnit w = e.baseUnit w + e.amount := rfl
  have hplaceable : e'.Placeable w edge := by
    rw [Placeable, hsame.unit, hsame.baseUnit, hsame.meantUnit]
    refine ⟨hfirst, ?_⟩
    rcases hfewer with ⟨hmore, hpast⟩ | ⟨hahead, hmore⟩
    · apply hlast.between hfirst <;>
        exact TimeUnit.edgeSecond_le_iff.mpr (by omega)
    · apply hfirst.between hlast <;>
        exact TimeUnit.edgeSecond_le_iff.mpr (by omega)
  rcases e'.place_cases w edge with hplace | herror
  · exact hplace
  · exact absurd hplaceable (place_eq_error_iff.mp herror).1

theorem place_lt_place (hlt : e.amount < e'.amount) (h : e.place w edge = .ok m)
    (h' : e'.place w edge = .ok m') : m.wall.microseconds < m'.wall.microseconds := by
  have hseconds : e.unit.edgeSecond w (e.meantUnit w) edge <
      e.unit.edgeSecond w (e.meantUnit w + (e'.amount - e.amount)) edge :=
    TimeUnit.edgeSecond_lt_iff.mpr (by omega)
  rw [microseconds_of_place h, microseconds_of_place h', (place_eq_ok_iff.mp h).2.1,
    (place_eq_ok_iff.mp h').2.1, hsame.unit, hsame.meantUnit]
  omega

theorem advance_of_place (hnext : e'.amount = e.amount + 1) (h : e.place w .finish = .ok m)
    (h' : e'.place w .start = .ok m') : m.advance .second 1 = .ok m' := by
  obtain ⟨_, hfinish, hmicro, hframe, _⟩ := place_eq_ok_iff.mp h
  obtain ⟨_, hstart, hmicro', hframe', hfold'⟩ := place_eq_ok_iff.mp h'
  have hmeant : e'.meantUnit w = e.meantUnit w + 1 := by
    rw [hsame.meantUnit]
    omega
  have hsecond : m'.wall.seconds = m.wall.seconds + 1 := by
    rw [hstart, hfinish, hmeant, hsame.unit, TimeUnit.edgeSecond, TimeUnit.edgeSecond,
      TimeUnit.lastSecond]
    omega
  refine Moment.advance_eq_ok_iff.mpr ⟨?_, ?_, hfold'⟩
  · exact (Civil.advance_eq_ok_iff_of_seconds rfl).mpr ⟨hsecond, hmicro'.trans hmicro.symm⟩
  · rw [hframe', hframe, hsame.base]

end SameUnits

end Endpoint

/-- A number of units as a phrase gives it: positive, and with no more digits than are read. -/
structure Tally where
  digits : Text
  natural : digits.isNatural
  positive : 0 < digits.value
  supported : digits.length ≤ Text.maxDigits

namespace Tally

variable (k : Tally) (d : Direction) (u : TimeUnit)

def value : Nat := k.digits.value

def phrase : PresentPhrase := .counted d k.digits u k.natural k.positive

def text : Text := (k.phrase d u).text

def endpoint (c : Moment) : Endpoint := ⟨k.text d u, .relative, u, k.value, d, c⟩

theorem sameUnits (l : Tally) (d' : Direction) (c : Moment) :
    (k.endpoint d u c).SameUnits (l.endpoint d' u c) := ⟨rfl, rfl⟩

theorem amount_backward (c : Moment) : (k.endpoint .backward u c).amount = -k.value := rfl

theorem amount_forward (c : Moment) : (k.endpoint .forward u c).amount = k.value := rfl

theorem phrases_text : (k.text d u).phrases = [k.text d u] := (k.phrase d u).phrases_text

theorem read_text (c : Moment) : Endpoint.read (k.text d u) c = .ok (k.endpoint d u c) := by
  have hphrase : (k.text d u).phrase = k.text d u := (k.phrase d u).phrase_text
  apply Endpoint.read_of_means
  · rw [hphrase, text, phrase, PresentPhrase.countP_counted]
    exact k.supported
  · rw [hphrase]
    exact .relative k.natural k.positive rfl

theorem phrases_joined (l : Tally) (d' : Direction) :
    (k.text d u ++ joiner.toList ++ l.text d' u).phrases = [k.text d u, l.text d' u] := by
  have hto (k : Tally) (d : Direction) : "to".toList ∉ (k.text d u).phrase.words := by
    rw [text, PresentPhrase.phrase_text, PresentPhrase.words_text]
    exact (k.phrase d u).to_not_mem_words
  rw [Text.phrases_of_joined (hto k d) (hto l d') (by decide)]
  simp only [text, PresentPhrase.phrase_text]

end Tally

namespace Endpoints

variable {t : Text} {d d' : Direction} {u : TimeUnit} {k l : Tally}

theorem read_of_tally (ht : t.phrases = [k.text d u]) (c : Moment) :
    Endpoints.read t c = .ok ((k.phrase d u).endpoints c (k.endpoint d u c)) := by
  have he := k.read_text d u c
  rw [(read_of_single ht).mpr ⟨_, he, rfl⟩]
  exact congrArg Except.ok (PresentPhrase.ofSingle_eq he)

theorem read_of_tallies (ht : t.phrases = [k.text d u, l.text d' u]) (c : Moment) :
    Endpoints.read t c = .ok ⟨k.endpoint d u c, l.endpoint d' u c⟩ := by
  rw [read, ht]
  simp only [Tally.read_text]
  rfl

end Endpoints

namespace Period

section Fewer

variable {few many : Tally} (hlt : few.value < many.value) {s t : Text} {u : TimeUnit} {w : Week}
  {z : Zone} {now : Moment} {p : Period}
include hlt

theorem read_fewer_backward (hs : s.phrases = [many.text .backward u])
    (ht : t.phrases = [few.text .backward u]) (hp : Period.read s w z now = .ok p) :
    ∃ q, Period.read t w z now = .ok q ∧ q.finish = p.finish ∧
      p.start.wall.microseconds < q.start.wall.microseconds := by
  obtain ⟨c, _, hc, _⟩ := read_eq_ok_iff.mp hp
  obtain ⟨hstart, hfinish⟩ := (read_iff_place (Endpoints.read_of_tally hs c) hc).mp hp
  have hsame := many.sameUnits .backward u few .backward c
  have hamount : (many.endpoint .backward u c).amount < (few.endpoint .backward u c).amount ∧
      (few.endpoint .backward u c).amount ≤ 0 := by
    rw [Tally.amount_backward, Tally.amount_backward]
    omega
  obtain ⟨m, hm⟩ := hsame.exists_place (.inl ⟨Int.le_of_lt hamount.1, hamount.2⟩) hstart
  refine ⟨⟨m, p.finish⟩, ?_, rfl, hsame.place_lt_place hamount.1 hstart hm⟩
  exact (read_iff_place (Endpoints.read_of_tally ht c) hc).mpr ⟨hm, hfinish⟩

theorem read_fewer_forward (hs : s.phrases = [many.text .forward u])
    (ht : t.phrases = [few.text .forward u]) (hp : Period.read s w z now = .ok p) :
    ∃ q, Period.read t w z now = .ok q ∧ q.start = p.start ∧
      q.finish.wall.microseconds < p.finish.wall.microseconds := by
  obtain ⟨c, _, hc, _⟩ := read_eq_ok_iff.mp hp
  obtain ⟨hstart, hfinish⟩ := (read_iff_place (Endpoints.read_of_tally hs c) hc).mp hp
  have hfewer := many.sameUnits .forward u few .forward c
  have hmore := few.sameUnits .forward u many .forward c
  have hamount : 0 ≤ (few.endpoint .forward u c).amount ∧
      (few.endpoint .forward u c).amount < (many.endpoint .forward u c).amount := by
    rw [Tally.amount_forward, Tally.amount_forward]
    omega
  obtain ⟨m, hm⟩ := hfewer.exists_place (.inr ⟨hamount.1, Int.le_of_lt hamount.2⟩) hfinish
  refine ⟨⟨p.start, m⟩, ?_, rfl, hmore.place_lt_place hamount.2 hm hfinish⟩
  exact (read_iff_place (Endpoints.read_of_tally ht c) hc).mpr ⟨hstart, hm⟩

end Fewer

theorem read_cut {few more many : Tally} (hmore : more.value = few.value + 1) {r s t : Text}
    {u : TimeUnit} {w : Week} {z : Zone} {now : Moment} {p q : Period}
    (hr : r.phrases = [many.text .backward u])
    (hs : s.phrases = [many.text .backward u, more.text .backward u])
    (ht : t.phrases = [few.text .backward u]) (hp : Period.read s w z now = .ok p)
    (hq : Period.read t w z now = .ok q) :
    p.finish.advance .second 1 = .ok q.start ∧
      Period.read r w z now = .ok ⟨p.start, q.finish⟩ := by
  obtain ⟨c, _, hc, _⟩ := read_eq_ok_iff.mp hp
  obtain ⟨hstart, hend⟩ := (read_iff_place (Endpoints.read_of_tallies hs c) hc).mp hp
  obtain ⟨hnext, hfinish⟩ := (read_iff_place (Endpoints.read_of_tally ht c) hc).mp hq
  have hsame := more.sameUnits .backward u few .backward c
  have hamount : (few.endpoint .backward u c).amount =
      (more.endpoint .backward u c).amount + 1 := by
    rw [Tally.amount_backward, Tally.amount_backward]
    omega
  refine ⟨hsame.advance_of_place hamount hend hnext, ?_⟩
  exact (read_iff_place (Endpoints.read_of_tally hr c) hc).mpr ⟨hstart, hfinish⟩

/-- Fewer units lie within more, and those beyond them have a period of their own. -/
theorem read_counted {few many : Tally} (hlt : few.value < many.value) (u : TimeUnit) (w : Week)
    (z : Zone) (now : Moment) :
    (∀ s t p, s.phrases = [many.text .backward u] → t.phrases = [few.text .backward u] →
      Period.read s w z now = .ok p → ∃ q, Period.read t w z now = .ok q ∧
        q.finish = p.finish ∧ p.start.wall.microseconds < q.start.wall.microseconds) ∧
    (∀ s t p, s.phrases = [many.text .forward u] → t.phrases = [few.text .forward u] →
      Period.read s w z now = .ok p → ∃ q, Period.read t w z now = .ok q ∧
        q.start = p.start ∧ q.finish.wall.microseconds < p.finish.wall.microseconds) ∧
    (∀ more : Tally, more.value = few.value + 1 → ∀ r s t p q,
      r.phrases = [many.text .backward u] →
      s.phrases = [many.text .backward u, more.text .backward u] →
      t.phrases = [few.text .backward u] → Period.read s w z now = .ok p →
      Period.read t w z now = .ok q →
        p.finish.advance .second 1 = .ok q.start ∧
          Period.read r w z now = .ok ⟨p.start, q.finish⟩) ∧
    ∀ (k l : Tally) (d d' : Direction), (k.text d u).phrases = [k.text d u] ∧
      (k.text d u ++ joiner.toList ++ l.text d' u).phrases = [k.text d u, l.text d' u] := by
  refine ⟨?_, ?_, ?_, fun k l d d' => ⟨k.phrases_text d u, k.phrases_joined d u l d'⟩⟩
  · exact fun s t p => read_fewer_backward hlt
  · exact fun s t p => read_fewer_forward hlt
  · exact fun more hmore r s t p q => read_cut hmore

theorem read_counted_months : ∃ now p q r,
    Period.read "last 3 months".toList Week.sunday .newYork now = .ok p ∧
      Period.read "last 1 month".toList Week.sunday .newYork now = .ok q ∧
      Period.read "last 3 months to last 2 months".toList Week.sunday .newYork now = .ok r ∧
      q.finish = p.finish ∧ p.start.wall.microseconds < q.start.wall.microseconds ∧
      r.finish.advance .second 1 = .ok q.start := by
  let now : Moment :=
    ⟨⟨⟨2024, 5, 31, by decide⟩, ⟨13, 45, 30, 7, by decide⟩⟩, .zone .newYork, false⟩
  let one : Tally := ⟨"1".toList, by decide, by decide, by decide⟩
  let two : Tally := ⟨"2".toList, by decide, by decide, by decide⟩
  let three : Tally := ⟨"3".toList, by decide, by decide, by decide⟩
  have hthree : Text.phrases "last 3 months".toList = [three.text .backward .month] := by
    decide +kernel
  have hone : Text.phrases "last 1 month".toList = [one.text .backward .month] := by
    decide +kernel
  have hcut : Text.phrases "last 3 months to last 2 months".toList =
      [three.text .backward .month, two.text .backward .month] := by
    decide +kernel
  have hcurrent : now.current .newYork = .ok now := Moment.current_of_frame rfl
  have hwhole : Period.read "last 3 months".toList Week.sunday .newYork now =
      .ok ⟨⟨⟨⟨2024, 2, 1, by decide⟩, .midnight⟩, .zone .newYork, false⟩,
        ⟨⟨⟨2024, 5, 31, by decide⟩, ⟨13, 45, 30, 0, by decide⟩⟩, .zone .newYork, false⟩⟩ :=
    (read_iff_place (Endpoints.read_of_tally hthree now) hcurrent).mpr
      ⟨eq_ok_of_toOption (by decide +kernel), eq_ok_of_toOption (by decide +kernel)⟩
  have hfirst : Period.read "last 3 months to last 2 months".toList Week.sunday .newYork now =
      .ok ⟨⟨⟨⟨2024, 2, 1, by decide⟩, .midnight⟩, .zone .newYork, false⟩,
        ⟨⟨⟨2024, 3, 31, by decide⟩, .lastSecond⟩, .zone .newYork, false⟩⟩ :=
    (read_iff_place (Endpoints.read_of_tallies hcut now) hcurrent).mpr
      ⟨eq_ok_of_toOption (by decide +kernel), eq_ok_of_toOption (by decide +kernel)⟩
  have hlt : one.value < three.value := by decide
  obtain ⟨hbackward, _, hcuts, _⟩ := read_counted hlt .month Week.sunday .newYork now
  obtain ⟨q, hq, hfinish, hstart⟩ := hbackward _ _ _ hthree hone hwhole
  have hnext := hcuts two (by decide) _ _ _ _ q hthree hcut hone hfirst hq
  exact ⟨now, _, q, _, hwhole, hq, hfirst, hfinish, hstart, hnext.1⟩

end Period

end TimePhrase
