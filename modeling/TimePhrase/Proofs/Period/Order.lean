import TimePhrase.Proofs.Period.Alignment
import TimePhrase.Proofs.Period.Present

namespace TimePhrase

theorem Civil.microseconds_wholeSecond (c : Civil) :
    c.wholeSecond.microseconds = 1000000 * c.seconds :=
  Int.add_zero _

namespace Endpoint

variable {e : Endpoint} {w : Week} {edge : Edge} {m s f : Moment}

theorem microseconds_of_place (h : e.place w edge = .ok m) :
    m.wall.microseconds = 1000000 * m.wall.seconds := by
  rw [Civil.microseconds, (place_eq_ok_iff.mp h).2.2.1]
  exact Int.add_zero _

theorem start_le_base (hamount : e.amount ≤ 0) (h : e.place w .start = .ok m) :
    m.wall.microseconds ≤ e.base.wall.wholeSecond.microseconds := by
  have hle := place_start_le hamount h
  rw [microseconds_of_place h, Civil.microseconds_wholeSecond]
  omega

theorem base_le_finish (hamount : 0 ≤ e.amount) (h : e.place w .finish = .ok m) :
    e.base.wall.wholeSecond.microseconds ≤ m.wall.microseconds := by
  have hle := le_place_finish hamount h
  rw [microseconds_of_place h, Civil.microseconds_wholeSecond]
  omega

theorem around_base (hamount : e.amount = 0) (hs : e.place w .start = .ok s)
    (hf : e.place w .finish = .ok f) :
    s.wall.microseconds ≤ e.base.wall.wholeSecond.microseconds ∧
      e.base.wall.wholeSecond.microseconds ≤ f.wall.microseconds :=
  ⟨start_le_base (Int.le_of_eq hamount) hs, base_le_finish (Int.le_of_eq hamount.symm) hf⟩

theorem start_le_finish (hs : e.place w .start = .ok s) (hf : e.place w .finish = .ok f) :
    s.wall.microseconds ≤ f.wall.microseconds := by
  have hnext := e.unit.firstSecond_lt_succ w (e.meantUnit w)
  have hstart := (place_eq_ok_iff.mp hs).2.1
  have hfinish := (place_eq_ok_iff.mp hf).2.1
  simp only [TimeUnit.edgeSecond, TimeUnit.lastSecond] at hstart hfinish
  rw [microseconds_of_place hs, microseconds_of_place hf]
  omega

theorem wall_of_place_present {c : Moment} (h : (present c).place w edge = .ok m) :
    m.wall = c.wall.wholeSecond := by
  rw [place_second rfl rfl] at h
  cases h
  rfl

end Endpoint

theorem Endpoints.start_le_finish {t : Text} {w : Week} {c : Moment} {e : Endpoint} {p : Period}
    (he : Endpoint.read t c = .ok e) (h : (ofSingle t.phrase e c).place w = .ok p) :
    p.start.wall.microseconds ≤ p.finish.wall.microseconds := by
  obtain ⟨hstart, hfinish⟩ := place_eq_ok_iff.mp h
  by_cases hrelative : e.wording = .relative
  · have hread := Endpoint.readAt_of_read he
    have hbase := hread.base_of_relative hrelative
    have hcount := hread.allows_count
    rw [hrelative] at hcount
    cases hd : e.direction with
    | forward =>
      have hamount : 0 ≤ e.amount := by
        rw [Endpoint.amount, hd]
        exact Int.le_trans (by decide) hcount
      rw [ofSingle_of_counts he ⟨hrelative, hd⟩] at hstart hfinish
      rw [Endpoint.wall_of_place_present hstart, ← hbase]
      exact Endpoint.base_le_finish hamount hfinish
    | backward =>
      have hamount : e.amount ≤ 0 := by
        rw [Endpoint.amount, hd]
        exact Int.neg_nonpos_of_nonneg (Int.le_trans (by decide) hcount)
      rw [ofSingle_of_counts he ⟨hrelative, hd⟩] at hstart hfinish
      rw [Endpoint.wall_of_place_present hfinish, ← hbase]
      exact Endpoint.start_le_base hamount hstart
  · rw [ofSingle, if_neg hrelative] at hstart hfinish
    exact Endpoint.start_le_finish hstart hfinish

theorem Endpoints.exists_of_fixed {t spelling : Text} {f : FixedPhrase} {c : Moment}
    {es : Endpoints} (hf : f ∈ FixedPhrase.table) (hspelling : spelling ∈ f.spellings)
    (ht : t.phrases = [spelling]) (h : Endpoints.read t c = .ok es) :
    ∃ e : Endpoint, es = ⟨e, e⟩ ∧ e.base = c ∧ e.count = f.count := by
  have hphrase := Text.phrase_of_mem_phrases (ht ▸ List.mem_singleton_self spelling)
  have hfound := FixedPhrase.find?_eq_some_iff.mpr ⟨hf, hspelling⟩
  rw [← hphrase] at hfound
  obtain ⟨e, he, rfl⟩ := (read_of_single ht).mp h
  rw [Endpoint.read_of_find? hfound, Except.ok.injEq] at he
  have hside : ofSingle spelling e c = ⟨e, e⟩ := by
    rw [ofSingle, if_neg]
    rw [← he]
    intro hrelative
    cases hrelative
  rw [← he] at hside ⊢
  exact ⟨_, hside, rfl, rfl⟩

namespace PresentPhrase

theorem expected_of_place (φ : PresentPhrase) {w : Week} {c : Moment} {e : Endpoint} {p : Period}
    (he : Endpoint.read φ.text c = .ok e) (h : (φ.endpoints c e).place w = .ok p) :
    φ.Expected c.wall.wholeSecond.microseconds p.start.wall.microseconds
      p.finish.wall.microseconds := by
  obtain ⟨hstart, hfinish⟩ := Endpoints.place_eq_ok_iff.mp h
  obtain ⟨rfl, hunit, hamount, _⟩ := endpoint_of_read he
  cases φ with
  | now =>
    simp only [endpoints, Endpoint.place_second hunit hamount, Except.ok.injEq] at hstart hfinish
    rw [Expected, ← hstart, ← hfinish]
    exact ⟨rfl, rfl⟩
  | today => exact Endpoint.around_base hamount hstart hfinish
  | this u => exact Endpoint.around_base hamount hstart hfinish
  | counted d digits u natural positive =>
    cases d with
    | backward =>
      have hpast : e.amount ≤ 0 := by
        rw [hamount, amount]
        omega
      rw [Expected, Endpoint.wall_of_place_present hfinish]
      exact ⟨Endpoint.start_le_base hpast hstart, rfl⟩
    | forward =>
      have hahead : 0 ≤ e.amount := by
        rw [hamount, amount]
        omega
      rw [Expected, Endpoint.wall_of_place_present hstart]
      exact ⟨rfl, Endpoint.base_le_finish hahead hfinish⟩

end PresentPhrase

namespace Period

/-- Only two joined phrases can end before they start on the wall clock. -/
theorem read_ordered {t : Text} {w : Week} {z : Zone} {now : Moment} {p : Period}
    (h : Period.read t w z now = .ok p) :
    (t.phrases.length ≠ 2 → p.start.wall.microseconds ≤ p.finish.wall.microseconds) ∧
    ∃ c, now.current z = .ok c ∧
      (∀ φ : PresentPhrase, φ.text.phrases = [φ.text] ∧
        (t.phrases = [φ.text] → φ.Expected c.wall.wholeSecond.microseconds
          p.start.wall.microseconds p.finish.wall.microseconds)) ∧
      ∀ f ∈ FixedPhrase.table, f.count = 0 → ∀ spelling ∈ f.spellings, t.phrases = [spelling] →
        p.start.wall.microseconds ≤ c.wall.wholeSecond.microseconds ∧
          c.wall.wholeSecond.microseconds ≤ p.finish.wall.microseconds := by
  obtain ⟨c, es, hc, hes, hplace⟩ := read_eq_ok_iff.mp h
  refine ⟨?_, c, hc, fun φ => ⟨φ.phrases_text, ?_⟩, ?_⟩
  · intro hlength
    obtain ⟨phrase, ht⟩ : ∃ phrase, t.phrases = [phrase] := by
      have hle := Endpoints.length_le_of_read hes
      have hpos := List.length_pos_iff.mpr t.phrases_ne_nil
      exact List.length_eq_one_iff.mp (by omega)
    obtain ⟨e, he, rfl⟩ := (Endpoints.read_of_single ht).mp hes
    have hphrase := Text.phrase_of_mem_phrases (ht ▸ List.mem_singleton_self phrase)
    rw [← hphrase] at hplace
    exact Endpoints.start_le_finish he hplace
  · intro ht
    obtain ⟨e, he, rfl⟩ := (Endpoints.read_of_single ht).mp hes
    rw [PresentPhrase.ofSingle_eq he] at hplace
    exact φ.expected_of_place he hplace
  · intro f hf hcount spelling hspelling ht
    obtain ⟨e, rfl, rfl, hsame⟩ := Endpoints.exists_of_fixed hf hspelling ht hes
    obtain ⟨hstart, hfinish⟩ := Endpoints.place_eq_ok_iff.mp hplace
    rw [hcount] at hsame
    exact Endpoint.around_base (Endpoint.amount_eq_zero hsame) hstart hfinish

theorem read_ordered_weeks_ahead : ∃ p,
    Period.read "next 2 weeks".toList Week.sunday .utc
        ⟨⟨⟨2024, 5, 15, by decide⟩, ⟨13, 45, 30, 7, by decide⟩⟩, .zone .utc, false⟩ = .ok p ∧
      p.start.wall.microseconds ≤ p.finish.wall.microseconds := by
  have hread : Period.read "next 2 weeks".toList Week.sunday .utc
      ⟨⟨⟨2024, 5, 15, by decide⟩, ⟨13, 45, 30, 7, by decide⟩⟩, .zone .utc, false⟩ =
        .ok ⟨⟨⟨⟨2024, 5, 15, by decide⟩, ⟨13, 45, 30, 0, by decide⟩⟩, .zone .utc, false⟩,
          ⟨⟨⟨2024, 6, 1, by decide⟩, .lastSecond⟩, .zone .utc, false⟩⟩ := by
    decide +kernel
  exact ⟨_, hread, (read_ordered hread).1 (by decide +kernel)⟩

example : (Period.read "tomorrow to yesterday".toList Week.sunday .utc
    ⟨⟨⟨2024, 5, 15, by decide⟩, .midnight⟩, .zone .utc, false⟩).toOption.any
      fun p => decide (p.finish.wall.microseconds < p.start.wall.microseconds) := by
  decide +kernel

end Period

end TimePhrase
