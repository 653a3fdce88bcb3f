import TimePhrase.Proofs.Phrase.YearDigits

namespace TimePhrase

namespace Layout

theorem exists_year_of_read? {l : Layout} {pieces : List Piece}
    (hpieces : l.pieces = .field .year :: pieces) {t : Text} {c : Civil}
    (h : l.read? t = some c) : ∃ used rest, t = used ++ rest ∧ used.length = 4 ∧
      (∀ d ∈ used, isFieldChar d) ∧ ∃ v v', (v', []) ∈ Piece.readAll v rest pieces := by
  obtain ⟨v', hmem, _⟩ := Piece.exists_readAll_of_read? h
  rw [hpieces, Piece.readAll, List.mem_flatMap] at hmem
  obtain ⟨r, hr, hrest⟩ := hmem
  obtain ⟨⟨n, rest⟩, hreading, rfl⟩ := List.mem_map.mp hr
  obtain ⟨slots, hslots, hread⟩ := List.mem_filterMap.mp hreading
  obtain ⟨used, rfl, hused⟩ := Slot.read?_used (Field.decimal_of_mem_spellings hslots) hread
  have hlength := Slot.length_of_read? hread
  rw [List.mem_singleton.mp hslots, List.length_append, Nat.add_right_cancel_iff] at hlength
  exact ⟨used, rest, rfl, hlength, hused, _, v', hrest⟩

/-- A run of digits has no marks, so it is in no other layout. -/
theorem eq_year_of_read? {t : Text} (ht : t.isNatural) {l : Layout} {c : Civil}
    (h : l.read? t = some c) : l = year := by
  have hmarks (d : Char) (hd : d ∈ marks) : l.pieces.count (.literal d) = 0 := by
    rw [← (marked_of_read? h).count_eq d hd]
    exact List.count_eq_zero_of_not_mem
      (not_mem_of_mem_marks (Text.isNatural_iff.mp ht).2 (by decide) hd)
  have hdash := hmarks '-' (by decide)
  have hcolon := hmarks ':' (by decide)
  revert hdash hcolon
  cases l <;> decide

/-- No layout has a single dash, so a number that is read has no minus sign. -/
theorem eq_year_of_spells {t : Text} {n : Int} (ht : t.Spells n) {l : Layout} {c : Civil}
    (h : l.read? t = some c) : l = year ∧ t.isNatural := by
  cases ht with
  | plain hnat => exact ⟨eq_year_of_read? hnat h, hnat⟩
  | @negated digits hnat =>
    have hdash := (marked_of_read? h).count_eq '-' (by decide)
    have hnone := not_mem_of_mem_marks (Text.isNatural_iff.mp hnat).2 (by decide)
      (by decide : '-' ∈ marks)
    rw [List.count_cons_self, List.count_eq_zero_of_not_mem hnone] at hdash
    refine absurd hdash ?_
    cases l <;> decide

end Layout

/-- Four ASCII digits that spell no number below the first bare year. -/
def Text.IsBareYear (t : Text) : Prop :=
  t.length = 4 ∧ (∀ c ∈ t, isAsciiDigit c) ∧ firstBareYear ≤ t.value

section BareYear

variable {t : Text} {now : Moment}

theorem Text.Spells.isBareYear_of_read? {n : Int} (hn : t.Spells n) (hyear : firstBareYear ≤ n)
    {l : Layout} {c : Civil} (h : l.read? t = some c) : l = .year ∧ t.IsBareYear := by
  obtain ⟨rfl, hnat⟩ := Layout.eq_year_of_spells hn h
  obtain ⟨_, hvalues, hlength, _⟩ := Layout.exists_read?_year_iff.mp ⟨c, h, rfl⟩
  refine ⟨rfl, hvalues.length_eq.trans hlength, (isNatural_iff.mp hnat).2, ?_⟩
  rw [hn.unique (.plain hnat)] at hyear
  exact Int.ofNat_le.mp hyear

namespace Spelled

theorem le_of_read {e : Endpoint} {n : Int} (hn : t.Spells n)
    (h : Spelled.read t now = .ok (some e)) :
    t.countP isAsciiDigit ≤ Text.maxDigits ∧ firstBareYear ≤ n := by
  have hdigits : t.countP isAsciiDigit ≤ Text.maxDigits := by
    apply Nat.not_lt.mp
    intro hlong
    rw [Spelled.read, readIn, hn.integer?_too_long hlong] at h
    cases h
  refine ⟨hdigits, Int.not_lt.mp fun hearly => ?_⟩
  rw [read_early hdigits hn hearly] at h
  cases h

theorem read_eq_some_iff {e : Endpoint} : Spelled.read t now = .ok (some e) ↔
    ∃ (l : Layout) (c : Civil), l.read? t = some c ∧ (∀ n, t.Spells n → firstBareYear ≤ n) ∧
      e = ⟨t, .spelled, l.unit, 0, .forward, l.complete c now⟩ := by
  constructor
  · intro h
    obtain ⟨l, c, hread, he⟩ := read_eq_some h
    exact ⟨l, c, hread, fun n hn => (le_of_read hn h).2, he⟩
  · rintro ⟨l, c, hread, hyear, rfl⟩
    have hlayout := Layout.layoutIn?_eq_some_iff.mpr hread
    by_cases ht : ∃ n, t.Spells n
    · obtain ⟨n, hn⟩ := ht
      obtain ⟨rfl, hlength, _⟩ := hn.isBareYear_of_read? (hyear n hn) hread
      have hshort : t.countP isAsciiDigit ≤ Text.maxDigits := by
        refine Nat.le_trans List.countP_le_length ?_
        rw [hlength]
        decide
      rw [read_eq hshort hyear, hlayout]
      rfl
    · rw [Spelled.read, readIn, Text.integer?_eq_none (not_exists.mp ht), hlayout]
      rfl

end Spelled

theorem isBareYear_of_read {e e' : Endpoint} (h : Spelled.read t now = .ok (some e))
    (h' : UnixTime.read t now = .ok (some e')) : t.IsBareYear := by
  obtain ⟨n, _, rfl, _⟩ := UnixTime.read_eq_some h'
  obtain ⟨_, _, hread, hyear, _⟩ := Spelled.read_eq_some_iff.mp h
  have hn := Text.spells_signed n
  exact (hn.isBareYear_of_read? (hyear n hn) hread).2

namespace Text.IsBareYear

variable (h : t.IsBareYear)
include h

theorem signed_value : t.isNatural ∧ Text.signed t.value = t := by
  obtain ⟨hlength, hdigits, hvalue⟩ := h
  have hnat : t.isNatural := by
    rw [isNatural_iff]
    refine ⟨?_, hdigits⟩
    rintro rfl
    cases hlength
  refine ⟨hnat, decimal_value hnat ?_⟩
  rw [hlength]
  exact Nat.le_trans (by decide) hvalue

theorem exists_read? : ∃ c, Layout.year.read? t = some c ∧ c.date.year = t.value := by
  obtain ⟨hlength, hascii, hvalue⟩ := h
  have hvalues := hasDigits_of_ascii hascii
  exact Layout.exists_read?_year_iff.mpr
    ⟨_, hvalues, hvalues.length_eq.symm.trans hlength, rfl, Nat.le_trans (by decide) hvalue⟩

theorem le_of_spells {n : Int} (hn : t.Spells n) : firstBareYear ≤ n := by
  rw [hn.unique (.plain h.signed_value.1)]
  exact Int.ofNat_le.mpr h.2.2

theorem read (hnow : now.frame.WithinDay) :
    ∃ e e', Spelled.read t now = .ok (some e) ∧ UnixTime.read t now = .ok (some e') := by
  obtain ⟨hnat, hsigned⟩ := h.signed_value
  obtain ⟨c, hc, hyear⟩ := h.exists_read?
  have hlow : 1753 ≤ t.value := h.2.2
  have hhigh : t.value ≤ 9999 := by
    rw [← hyear]
    exact c.date.year_bounds.2
  have hshown : (Moment.ofUnix? now.frame t.value 0 (by decide)).isSome :=
    Moment.isSome_ofUnix?_iff.mpr (hnow.shows (by omega) (by omega))
  obtain ⟨base, hbase⟩ := Option.isSome_iff_exists.mp hshown
  have hdigits : t.countP isAsciiDigit ≤ Text.maxDigits := by
    rw [← Text.length_le_countP hnat, h.1]
    decide
  exact ⟨_, _, Spelled.read_eq_some_iff.mpr ⟨_, c, hc, fun _ => h.le_of_spells, rfl⟩,
    UnixTime.read_of_signed hdigits hsigned.symm hbase⟩

end Text.IsBareYear

end BareYear

end TimePhrase
