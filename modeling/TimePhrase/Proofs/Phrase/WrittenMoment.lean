import TimePhrase.Proofs.Phrase.BareYear
import TimePhrase.Proofs.Phrase.Figures

namespace TimePhrase

def Civil.textAfterYear (c : Civil) : Text :=
  '-' :: (Text.padded 2 c.date.month ++ '-' :: (Text.padded 2 c.date.day ++ ' ' ::
    clockText c.clock))

theorem Civil.text_eq (c : Civil) : c.text = Text.padded 4 c.date.year ++ c.textAfterYear := by
  simp only [text, dateText, textAfterYear, List.append_assoc, List.cons_append]

namespace Layout

theorem pieces_of_ne_time {l : Layout} (hl : l ≠ time) :
    ∃ pieces, l.pieces = .field .year :: pieces := by
  cases l with
  | year => exact ⟨_, pieces_year⟩
  | date => exact ⟨_, rfl⟩
  | dateTime => exact ⟨_, rfl⟩
  | time => exact absurd rfl hl

/-- No layout reads a year of fewer than four digits. -/
theorem read?_of_short_year {digits rest : Text} (h : digits.length ≤ 3) (l : Layout) :
    l.read? (digits ++ '-' :: rest) = none := by
  rw [Option.eq_none_iff_forall_ne_some]
  intro c hread
  by_cases hl : l = time
  · subst hl
    have hcount := (marked_of_read? hread).count_eq '-' (by decide)
    have hnone : time.pieces.count (.literal '-') = 0 := by decide
    rw [hnone, List.count_eq_zero] at hcount
    exact hcount (List.mem_append_right digits List.mem_cons_self)
  · obtain ⟨pieces, hpieces⟩ := pieces_of_ne_time hl
    obtain ⟨used, rest', heq, hlength, hused, _⟩ := exists_year_of_read? hpieces hread
    have hdash : '-' ∈ used := by
      rcases List.append_eq_append_iff.mp heq with ⟨between, rfl, hrest⟩ | ⟨between, rfl, _⟩
      · cases between with
        | nil =>
          rw [List.append_nil] at hlength
          omega
        | cons d between =>
          cases hrest
          exact List.mem_append_right digits List.mem_cons_self
      · rw [List.length_append] at h
        omega
    exact absurd (hused '-' hdash) (by decide)

end Layout

namespace Moment

theorem writeDirectives_cons {c : Char} (hc : c ≠ '%') (m : Moment) (rest : Text) :
    m.writeDirectives (c :: rest) = c :: m.writeDirectives rest := by
  rw [writeDirectives]
  rintro d rest' rfl
  exact absurd rfl hc

theorem write_plain (m : Moment) :
    m.write plainPattern = Text.decimal m.wall.date.year ++ m.wall.textAfterYear := by
  have hpattern : plainPattern.takeWhile (· ≠ '\x00') =
      ['%', 'Y', '-', '%', 'm', '-', '%', 'd', ' ', '%', 'H', ':', '%', 'M', ':', '%', 'S'] := by
    decide
  rw [write, hpattern]
  have hdash := writeDirectives_cons (by decide : '-' ≠ '%') m
  have hspace := writeDirectives_cons (by decide : ' ' ≠ '%') m
  have hcolon := writeDirectives_cons (by decide : ':' ≠ '%') m
  simp only [writeDirectives, hdash, hspace, hcolon, directive, Civil.textAfterYear,
    Civil.clockText, List.append_assoc, List.cons_append, List.append_nil]

theorem write_plain_of_le {m : Moment} (h : 1000 ≤ m.wall.date.year) :
    m.write plainPattern = m.wall.text := by
  rw [write_plain, Civil.text_eq, Text.padded_of_le (k := 2) h]

theorem inFigures_write (m : Moment) : (m.write plainPattern).InFigures := by
  have hpadded (n : Nat) : (Text.padded 2 n).InFigures :=
    Text.inFigures_of_isNatural (Text.isNatural_padded 2 n)
  rw [write_plain, Civil.textAfterYear, Civil.clockText]
  refine (Text.inFigures_of_isNatural (Text.isNatural_decimal _)).append (.cons (by decide) ?_)
  refine (hpadded _).append (.cons (by decide) ((hpadded _).append (.cons (by decide) ?_)))
  rw [List.append_assoc]
  exact (hpadded _).append (.cons (by decide) ((hpadded _).append (.cons (by decide) (hpadded _))))

theorem phrase_write (m : Moment) : (m.write plainPattern).phrase = m.write plainPattern := by
  apply m.inFigures_write.phrase_eq
  · rw [write_plain]
    exact Text.head?_of_isNatural (Text.isNatural_decimal _) _
  · obtain ⟨front, hfront⟩ : ∃ front : Text,
        m.wall.textAfterYear = front ++ Text.padded 2 m.wall.clock.second := by
      refine ⟨'-' :: (Text.padded 2 m.wall.date.month ++ '-' :: (Text.padded 2 m.wall.date.day ++
        ' ' :: (Text.padded 2 m.wall.clock.hour ++ ':' :: (Text.padded 2 m.wall.clock.minute ++
          [':'])))), ?_⟩
      simp only [Civil.textAfterYear, Civil.clockText, List.append_assoc, List.cons_append,
        List.nil_append]
    rw [write_plain, hfront, ← List.append_assoc]
    exact Text.getLast?_of_isNatural (Text.isNatural_padded 2 _) _

theorem length_write_le (m : Moment) : (m.write plainPattern).length ≤ 19 := by
  have hyear : (Text.decimal m.wall.date.year).length ≤ 4 :=
    Text.length_decimal_le_iff.mpr (Nat.lt_succ_of_le m.wall.date.year_bounds.2)
  have hpadded {n : Nat} (h : n < 100) : (Text.padded 2 n).length = 2 := by
    rw [Text.padded_two h]
    rfl
  have hmonth := m.wall.date.month_bounds
  have hday := m.wall.date.day_bounds
  have hlength := daysInMonth_bounds m.wall.date.year m.wall.date.month
  obtain ⟨hhour, hminute, hsecond, _⟩ := m.wall.clock.valid
  rw [write_plain, Civil.textAfterYear, Civil.clockText]
  simp only [List.length_append, List.length_cons, hpadded (show m.wall.date.month < 100 by omega),
    hpadded (show m.wall.date.day < 100 by omega), hpadded (show m.wall.clock.hour < 100 by omega),
    hpadded (show m.wall.clock.minute < 100 by omega),
    hpadded (show m.wall.clock.second < 100 by omega)]
  omega

theorem not_spells_write (m : Moment) (n : Int) : ¬ (m.write plainPattern).Spells n := by
  have hcolon : ':' ∈ m.write plainPattern := by
    rw [write_plain, Civil.textAfterYear, Civil.clockText]
    simp only [List.mem_append, List.mem_cons, true_or, or_true]
  exact Text.not_spells_of_mem hcolon (by decide) (by decide) n

end Moment

namespace Endpoint

variable (m now : Moment)

theorem countP_phrase_write_le :
    (m.write Moment.plainPattern).phrase.countP isAsciiDigit ≤ Text.maxDigits := by
  rw [m.phrase_write]
  exact Nat.le_trans List.countP_le_length (Nat.le_trans m.length_write_le (by decide))

theorem read_write (h : 1000 ≤ m.wall.date.year) :
    Endpoint.read (m.write Moment.plainPattern) now =
      .ok ⟨m.write Moment.plainPattern, .spelled, .second, 0, .forward,
        ⟨m.wall.wholeSecond, now.frame, false⟩⟩ := by
  apply read_of_means (countP_phrase_write_le m)
  have hread : Layout.dateTime.read? (m.write Moment.plainPattern) = some m.wall.wholeSecond := by
    rw [Moment.write_plain_of_le h, Layout.read?_text]
  have hmeans : Text.Means (m.write Moment.plainPattern) now _ :=
    .spelled (fun n hn => absurd hn (m.not_spells_write n)) hread
  rw [Layout.complete_dateTime] at hmeans
  rw [m.phrase_write]
  exact hmeans

theorem read_write_early (h : m.wall.date.year < 1000) :
    Endpoint.read (m.write Moment.plainPattern) now =
      .error (.phrase (.unreadable (m.write Moment.plainPattern))) := by
  have hyear : (Text.decimal m.wall.date.year).length ≤ 3 := Text.length_decimal_le_iff.mpr h
  have hlayout (l : Layout) : l.read? (m.write Moment.plainPattern) = none := by
    rw [Moment.write_plain, Civil.textAfterYear]
    exact Layout.read?_of_short_year hyear l
  have hnone := m.inFigures_write.not_means hlayout m.not_spells_write now
  have hrefused := m.inFigures_write.refused m.not_spells_write
  rw [← m.phrase_write] at hnone hrefused
  rw [read_of_refused (countP_phrase_write_le m) hnone hrefused, m.phrase_write]

end Endpoint

end TimePhrase
