import TimePhrase.Proofs.Calendar.UnitEdges
import TimePhrase.Proofs.Phrase.BareYear
import TimePhrase.Proofs.Phrase.Figures

namespace TimePhrase

namespace Spelled

/-- What a text spells out at the moment `now`. -/
inductive Means (t : Text) (now : Moment) : Endpoint → Prop
  | year {y : Nat} (hy : 1 ≤ y ∧ y ≤ 9999) (hfirst : firstBareYear ≤ y)
    (ht : t = Text.padded 4 y) :
    Means t now ⟨t, .spelled, .year, 0, .forward, now.inYear y hy⟩
  | date {d : Date} (ht : d.Written t) :
    Means t now ⟨t, .spelled, .day, 0, .forward, now.onDate d⟩
  | dateTime {c : Civil} {date blanks time : Text} (hdate : c.date.Written date)
    (hblanks : blanks ≠ [] ∧ ∀ b ∈ blanks, isBlank b) (htime : c.clock.Written time)
    (hmicro : c.clock.microsecond = 0) (ht : t = date ++ (blanks ++ time)) :
    Means t now ⟨t, .spelled, .second, 0, .forward, ⟨c, now.frame, false⟩⟩
  | time {k : Clock} (ht : k.Written t) (hmicro : k.microsecond = 0) :
    Means t now ⟨t, .spelled, .second, 0, .forward, now.atClock k⟩

variable {t : Text} {now : Moment} {e : Endpoint}

theorem means_of_read? (hascii : ∀ c ∈ t, c.toNat < 0x80) {l : Layout} {c : Civil}
    (h : l.read? t = some c) (hyear : ∀ n, t.Spells n → firstBareYear ≤ n) :
    Means t now ⟨t, .spelled, l.unit, 0, .forward, l.complete c now⟩ := by
  obtain ⟨hforms, _, hmicro⟩ := (Layout.read?_eq_some_iff hascii).mp h
  cases l with
  | year =>
    obtain rfl := Layout.forms_year.mp hforms
    rw [Layout.complete_year]
    exact .year c.date.year_bounds (Int.ofNat_le.mp (hyear _ (Text.spells_padded 4 _))) rfl
  | date =>
    rw [Layout.complete_date]
    exact .date (Layout.forms_date.mp hforms)
  | dateTime =>
    obtain ⟨date, blanks, time, rfl, hdate, hblanks, htime⟩ := Layout.forms_dateTime.mp hforms
    rw [Layout.complete_dateTime, Civil.wholeSecond_eq_self hmicro]
    exact .dateTime hdate hblanks htime hmicro rfl
  | time =>
    rw [Layout.complete_time, Civil.wholeSecond_eq_self hmicro]
    exact .time (Layout.forms_time.mp hforms) hmicro

theorem read_of_spells {l : Layout} {c : Civil} (h : l.Spells t c) (hl : l ≠ .year) :
    Spelled.read t now = .ok (some ⟨t, .spelled, l.unit, 0, .forward, l.complete c now⟩) := by
  have hread := Layout.read?_of_spells h
  exact read_eq_some_iff.mpr
    ⟨l, c, hread, fun _ hn => absurd (Layout.eq_year_of_spells hn hread).1 hl, rfl⟩

theorem read_of_means (h : Means t now e) : Spelled.read t now = .ok (some e) := by
  cases h with
  | @year y hy hfirst ht =>
    subst ht
    have hread := Layout.read?_of_spells (Layout.spells_year hy)
    refine read_eq_some_iff.mpr ⟨.year, _, hread, fun n hn => ?_, ?_⟩
    · rw [hn.unique (Text.spells_padded 4 y)]
      exact Int.ofNat_le.mpr hfirst
    · rw [Layout.complete_year]
      rfl
  | @date d ht =>
    rw [read_of_spells (Layout.spells_date ht) nofun, Layout.complete_date]
    rfl
  | @dateTime c date blanks time hdate hblanks htime hmicro ht =>
    subst ht
    rw [read_of_spells (Layout.spells_dateTime hdate hblanks htime hmicro) nofun,
      Layout.complete_dateTime, Civil.wholeSecond_eq_self hmicro]
    rfl
  | @time k ht hmicro =>
    rw [read_of_spells (Layout.spells_time ht hmicro) nofun, Layout.complete_time,
      Civil.wholeSecond_eq_self hmicro]
    rfl

/-- An ASCII text is read exactly as what it spells out, and padded texts are read back. -/
theorem read_ascii_iff_means (t : Text) (hascii : ∀ c ∈ t, c.toNat < 0x80) (now : Moment) :
    (∀ e, Spelled.read t now = .ok (some e) ↔ Means t now e) ∧
    ∀ c : Civil,
      Spelled.read c.text now =
        .ok (some ⟨c.text, .spelled, .second, 0, .forward, ⟨c.wholeSecond, now.frame, false⟩⟩) ∧
      Spelled.read (Civil.dateText c.date) now =
        .ok (some ⟨Civil.dateText c.date, .spelled, .day, 0, .forward, now.onDate c.date⟩) := by
  refine ⟨fun e => ⟨fun h => ?_, read_of_means⟩, fun c => ⟨?_, ?_⟩⟩
  · obtain ⟨l, c, hread, hyear, rfl⟩ := read_eq_some_iff.mp h
    exact means_of_read? hascii hread hyear
  · exact read_of_means (.dateTime c.date.written_dateText blanks_space
      c.wholeSecond.clock.written_clockText rfl rfl)
  · exact read_of_means (.date c.date.written_dateText)

theorem read_short_fields :
    Spelled.read "2016-2- 5 \t7:08:9".toList
        ⟨⟨⟨2024, 5, 15, by decide⟩, ⟨13, 45, 30, 7, by decide⟩⟩, .zone .utc, true⟩ =
      .ok (some ⟨"2016-2- 5 \t7:08:9".toList, .spelled, .second, 0, .forward,
        ⟨⟨⟨2016, 2, 5, by decide⟩, ⟨7, 8, 9, 0, by decide⟩⟩, .zone .utc, false⟩⟩) := by
  have hall : ("2016-2- 5 \t7:08:9".toList.all fun c => c.toNat < 0x80) = true := rfl
  have hascii : ∀ c ∈ "2016-2- 5 \t7:08:9".toList, c.toNat < 0x80 :=
    fun c hc => of_decide_eq_true (List.all_eq_true.mp hall c hc)
  have hblanks : [' ', '\t'] ≠ [] ∧ ∀ b ∈ [' ', '\t'], isBlank b :=
    ⟨List.cons_ne_nil ' ' _, List.all_eq_true.mp rfl⟩
  apply ((read_ascii_iff_means _ hascii _).1 _).mpr
  exact .dateTime (.mk (.inl rfl) (.inr ⟨by decide, rfl⟩)) hblanks
    (.mk (.inl rfl) (.inr rfl) (.inl rfl)) rfl rfl

end Spelled

namespace Endpoint

variable {p : Text} {v : Int} (hp : p.Spells v) {now : Moment}
include hp

theorem lt_or_read?_eq_none (hyear : ¬ p.IsBareYear) :
    v < firstBareYear ∨ ∀ l : Layout, l.read? p = none := by
  rcases Int.lt_or_le v firstBareYear with hearly | hlate
  · exact .inl hearly
  · refine .inr fun l => Option.eq_none_iff_forall_ne_some.mpr fun c hread => ?_
    exact hyear (hp.isBareYear_of_read? hlate hread).2

theorem bareYear_or_unix_of_means {e : Endpoint} (h : p.Means now e) :
    p.IsBareYear ∨ p = Text.signed v ∧ now.frame.Shows v := by
  cases h with
  | fixed hf hspelling =>
    have hfound := FixedPhrase.find?_eq_some_iff.mpr ⟨hf, hspelling⟩
    rw [FixedPhrase.find?_of_spells hp] at hfound
    cases hfound
  | relative hdigits _ heq =>
    exact absurd ⟨Text.words_relative hdigits heq, .inl ⟨_, rfl⟩⟩
      (Text.not_likeRelative_of_spells hp _ _ _)
  | spelled hyear hread => exact .inl (hp.isBareYear_of_read? (hyear v hp) hread).2
  | unix heq _ hbase =>
    subst heq
    obtain rfl := hp.unique (Text.spells_signed _)
    exact .inr ⟨rfl, Moment.isSome_ofUnix?_iff.mp (Option.isSome_of_eq_some hbase)⟩

theorem refused_of_spells :
    p.Refused (if v < firstBareYear then .yearTooEarly p else .unreadable p) := by
  split
  · rename_i hearly
    exact .early hp hearly
  · rename_i hlate
    refine .unreadable (Text.not_likeRelative_of_spells hp) fun n hn => ?_
    rw [hn.unique hp]
    exact Int.not_lt.mp hlate

/-- A number is a bare year, seconds in their shortest form, or refused. -/
theorem read_number (hdigits : p.countP isAsciiDigit ≤ 4300) (now : Moment) :
    (p.IsBareYear → ∃ (y : Nat) (hy : 1 ≤ y ∧ y ≤ 9999), v = y ∧
      Endpoint.read p now = .ok ⟨p, .spelled, .year, 0, .forward, now.inYear y hy⟩) ∧
    (¬ p.IsBareYear → p = Text.signed v → now.frame.Shows v → ∃ base : Moment,
      base.frame = now.frame ∧ base.wall.seconds = v + base.offset?.getD 0 ∧
      base.wall.clock.microsecond = 0 ∧
      Endpoint.read p now = .ok ⟨p, .unix, .second, 0, .forward, base⟩) ∧
    (¬ p.IsBareYear → ¬ (p = Text.signed v ∧ now.frame.Shows v) → Endpoint.read p now =
      .error (.phrase (if v < firstBareYear then .yearTooEarly p else .unreadable p))) ∧
    Wording.fixed.read p now = .ok none ∧ Wording.relative.read p now = .ok none ∧
    ∀ l : Layout, l ≠ .year → l.read? p = none := by
  have hphrase := hp.phrase_eq
  have hshort : (Text.phrase p).countP isAsciiDigit ≤ Text.maxDigits := by
    rw [hphrase]
    exact hdigits
  refine ⟨fun hyear => ?_, fun hyear hsigned hshown => ?_, fun hyear hunix => ?_, ?_, ?_, ?_⟩
  · obtain ⟨c, hread, hvalue⟩ := hyear.exists_read?
    have hmeans : p.Means now _ := .spelled (fun _ => hyear.le_of_spells) hread
    rw [← hphrase] at hmeans
    refine ⟨c.date.year, c.date.year_bounds, ?_, ?_⟩
    · rw [hvalue]
      exact hp.unique (.plain hyear.signed_value.1)
    · rw [read_of_means hshort hmeans, hphrase, Layout.complete_year]
      rfl
  · obtain ⟨base, hbase⟩ := Option.isSome_iff_exists.mp (Moment.isSome_ofUnix?_iff.mpr hshown)
    have hmeans : p.Means now _ := .unix hsigned (lt_or_read?_eq_none hp hyear) hbase
    rw [← hphrase] at hmeans
    obtain ⟨hseconds, hmicro, hframe⟩ := Moment.seconds_of_ofUnix? hbase
    refine ⟨base, hframe, hseconds, hmicro, ?_⟩
    rw [read_of_means hshort hmeans, hphrase]
  · have hnone (e : Endpoint) : ¬ p.Means now e :=
      fun hmeans => (bareYear_or_unix_of_means hp hmeans).elim hyear hunix
    have hrefused := refused_of_spells hp
    rw [← hphrase] at hnone hrefused
    rw [read_of_refused hshort hnone hrefused, hphrase]
  · rw [Wording.read, FixedPhrase.read?, FixedPhrase.find?_of_spells hp, Option.map_none]
  · exact Relative.read_eq_none (Text.not_likeRelative_of_spells hp)
  · intro l hl
    exact Option.eq_none_iff_forall_ne_some.mpr fun c hread =>
      hl (Layout.eq_year_of_spells hp hread).1

omit hp

theorem read_leading_zero :
    Endpoint.read "01500".toList
        ⟨⟨⟨2024, 5, 15, by decide⟩, ⟨13, 45, 30, 0, by decide⟩⟩, .zone .utc, false⟩ =
      .error (.phrase (.yearTooEarly "01500".toList)) := by
  have hspells : Text.Spells "01500".toList 1500 := .plain (by decide)
  obtain ⟨_, _, hrefused, _⟩ := read_number hspells (by decide)
    ⟨⟨⟨2024, 5, 15, by decide⟩, ⟨13, 45, 30, 0, by decide⟩⟩, .zone .utc, false⟩
  exact hrefused (fun h => absurd h.1 (by decide)) (fun h => absurd h.1 (by decide))

theorem first_noon_not_read :
    Text.Spells "-62135553600".toList (-62135553600) ∧
    "-62135553600".toList = Text.signed (-62135553600) ∧ OnCalendar (-62135553600) ∧
    ¬ Text.IsBareYear "-62135553600".toList ∧
    Endpoint.read "-62135553600".toList
        ⟨⟨⟨2024, 1, 1, by decide⟩, .midnight⟩, .floating, false⟩ =
      .error (.phrase (.yearTooEarly "-62135553600".toList)) := by
  refine ⟨.negated (by decide), by decide +kernel, by decide, fun h => absurd h.1 (by decide), rfl⟩

end Endpoint

end TimePhrase
