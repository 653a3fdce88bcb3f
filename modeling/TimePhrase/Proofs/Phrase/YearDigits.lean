import TimePhrase.Proofs.Phrase.Language
import TimePhrase.Proofs.Phrase.WrittenLayout

namespace TimePhrase

theorem foldl_digits_lt {ds : List Nat} (h : ∀ d ∈ ds, d < 10) (n : Nat) :
    ds.foldl (fun n d => 10 * n + d) n < (n + 1) * 10 ^ ds.length := by
  induction ds generalizing n with
  | nil => simp only [List.foldl_nil, List.length_nil, Nat.pow_zero]; omega
  | cons d ds ih =>
    have hd := h d List.mem_cons_self
    have hrest := ih (fun d' hd' => h d' (List.mem_cons_of_mem d hd')) (10 * n + d)
    have hstep : (10 * n + d + 1) * 10 ^ ds.length ≤ (10 * (n + 1)) * 10 ^ ds.length :=
      Nat.mul_le_mul_right _ (by omega)
    rw [List.foldl_cons, List.length_cons, Nat.pow_succ', ← Nat.mul_assoc, Nat.mul_comm (n + 1)]
    exact Nat.lt_of_lt_of_le hrest hstep

namespace Text

/-- The characters of the text are decimal digits, of whatever scripts, with the values `ds`. -/
def HasDigits (t : Text) (ds : List Nat) : Prop := t.map digitValue? = ds.map some

instance (t : Text) (ds : List Nat) : Decidable (t.HasDigits ds) :=
  inferInstanceAs (Decidable (_ = _))

theorem hasDigits_cons {c : Char} {t : Text} {d : Nat} {ds : List Nat} :
    HasDigits (c :: t) (d :: ds) ↔ digitValue? c = some d ∧ t.HasDigits ds := by
  rw [HasDigits, List.map_cons, List.map_cons, List.cons.injEq]
  rfl

variable {t : Text} {ds : List Nat}

theorem HasDigits.length_eq (h : t.HasDigits ds) : t.length = ds.length := by
  have hlength := congrArg List.length h
  rw [List.length_map, List.length_map] at hlength
  exact hlength

theorem HasDigits.lt (h : t.HasDigits ds) : ∀ d ∈ ds, d < 10 := by
  intro d hd
  have hmem : some d ∈ t.map digitValue? := by
    rw [h]
    exact List.mem_map_of_mem hd
  obtain ⟨c, _, hc⟩ := List.mem_map.mp hmem
  obtain ⟨_, _, hlt, _⟩ := exists_zero_of_digitValue? hc
  exact hlt

theorem HasDigits.not_mem (h : t.HasDigits ds) {c : Char} (hc : digitValue? c = none) : c ∉ t := by
  intro hmem
  have hnone := List.mem_map_of_mem (f := digitValue?) hmem
  rw [h, hc] at hnone
  obtain ⟨_, _, hsome⟩ := List.mem_map.mp hnone
  cases hsome

theorem HasDigits.unique {ds' : List Nat} (h : t.HasDigits ds) (h' : t.HasDigits ds') :
    ds = ds' :=
  (List.map_inj_right fun _ _ => Option.some.inj).mp (h.symm.trans h')

theorem HasDigits.ofDigits_lt (h : t.HasDigits ds) : ofDigits ds < 10 ^ t.length := by
  have hlt := foldl_digits_lt h.lt 0
  rw [Nat.zero_add, Nat.one_mul, ← h.length_eq] at hlt
  exact hlt

theorem hasDigits_of_ascii (h : ∀ c ∈ t, isAsciiDigit c) :
    t.HasDigits (t.map fun c => c.toNat - '0'.toNat) := by
  rw [HasDigits, List.map_map]
  exact List.map_congr_left fun c hc => digitValue?_of_isAsciiDigit (h c hc)

theorem HasDigits.ofDigits_eq (h : t.HasDigits ds) (hascii : ∀ c ∈ t, isAsciiDigit c) :
    ofDigits ds = t.value := by
  rw [h.unique (hasDigits_of_ascii hascii), value]

end Text

theorem Slot.read?_anyDigit_iff {k n y : Nat} {t : Text} :
    Slot.read? n (List.replicate k .anyDigit) t = some (y, []) ↔
      ∃ ds, t.HasDigits ds ∧ ds.length = k ∧ ds.foldl (fun n d => 10 * n + d) n = y := by
  induction k generalizing n t with
  | zero =>
    constructor
    · intro h
      cases h
      exact ⟨[], rfl, rfl, rfl⟩
    · rintro ⟨ds, hds, hlength, rfl⟩
      obtain rfl := List.length_eq_zero_iff.mp hlength
      obtain rfl := List.length_eq_zero_iff.mp hds.length_eq
      rfl
  | succ k ih =>
    cases t with
    | nil =>
      refine ⟨nofun, ?_⟩
      rintro ⟨ds, hds, hlength, _⟩
      rw [← hds.length_eq] at hlength
      cases hlength
    | cons c t =>
      rw [List.replicate_succ, Slot.read?, Option.bind_eq_bind, Option.bind_eq_some_iff]
      simp only [ih]
      constructor
      · rintro ⟨d, hd, ds, hds, hlength, hy⟩
        exact ⟨d :: ds, Text.hasDigits_cons.mpr ⟨hd, hds⟩, congrArg Nat.succ hlength, hy⟩
      · rintro ⟨ds, hds, hlength, hy⟩
        cases ds with
        | nil => cases hlength
        | cons d ds =>
          obtain ⟨hd, hds⟩ := Text.hasDigits_cons.mp hds
          exact ⟨d, hd, ds, hds, Nat.succ.inj hlength, hy⟩

theorem FieldValues.year_of_civil? {v : FieldValues} {c : Civil} (h : v.civil? = some c) :
    c.date.year = v.year :=
  ((civil?_eq_some_iff.mp h).1 .year).symm

namespace Layout

theorem exists_civil?_year {n : Nat} (h : 1 ≤ n ∧ n ≤ 9999) :
    ∃ c, (FieldValues.default.set n .year).civil? = some c := by
  have hdate : IsDate n 1 1 := ⟨h.1, h.2, by decide, by decide, by decide, by
    have := daysInMonth_bounds n 1
    omega⟩
  refine ⟨⟨⟨n, 1, 1, hdate⟩, .midnight⟩, FieldValues.civil?_eq_some_iff.mpr ⟨fun f => ?_, rfl⟩⟩
  cases f <;> rfl

theorem readAll_year (t : Text) : Piece.readAll .default t year.pieces =
    (Slot.read? 0 (List.replicate 4 .anyDigit) t).toList.map
      fun r => (FieldValues.default.set r.1 .year, r.2) := by
  rw [pieces_year]
  simp only [Piece.readAll, Piece.readings, Field.readings, Field.spellings, List.filterMap_cons,
    List.filterMap_nil, List.replicate]
  cases Slot.read? 0 [.anyDigit, .anyDigit, .anyDigit, .anyDigit] t <;> rfl

theorem read?_year_eq_some_iff {t : Text} {c : Civil} : year.read? t = some c ↔
    ∃ n, Slot.read? 0 (List.replicate 4 .anyDigit) t = some (n, []) ∧
      (FieldValues.default.set n .year).civil? = some c := by
  rw [read?, Piece.read?, readAll_year]
  cases Slot.read? 0 (List.replicate 4 .anyDigit) t with
  | none => simp only [Option.toList_none, List.map_nil, reduceCtorEq, false_and, exists_false]
  | some r =>
    obtain ⟨n, rest⟩ := r
    cases rest with
    | nil =>
      constructor
      · intro h
        exact ⟨n, rfl, h⟩
      · rintro ⟨_, hn, h⟩
        cases hn
        exact h
    | cons d rest =>
      simp only [Option.toList_some, List.map_cons, List.map_nil, Option.some.injEq, Prod.mk.injEq,
        reduceCtorEq, and_false, false_and, exists_false]

theorem exists_read?_year_iff {t : Text} {y : Nat} :
    (∃ c, year.read? t = some c ∧ c.date.year = y) ↔
      ∃ ds, t.HasDigits ds ∧ ds.length = 4 ∧ ofDigits ds = y ∧ 1 ≤ y := by
  constructor
  · rintro ⟨c, hc, rfl⟩
    obtain ⟨n, hn, hcivil⟩ := read?_year_eq_some_iff.mp hc
    obtain ⟨ds, hds, hlength, rfl⟩ := Slot.read?_anyDigit_iff.mp hn
    exact ⟨ds, hds, hlength, (FieldValues.year_of_civil? hcivil).symm, c.date.year_bounds.1⟩
  · rintro ⟨ds, hds, hlength, rfl, hpos⟩
    have hlt := hds.ofDigits_lt
    rw [hds.length_eq, hlength] at hlt
    obtain ⟨c, hc⟩ := exists_civil?_year ⟨hpos, Nat.le_of_lt_succ hlt⟩
    have hread : Slot.read? 0 (List.replicate 4 .anyDigit) t = some (ofDigits ds, []) :=
      Slot.read?_anyDigit_iff.mpr ⟨ds, hds, hlength, rfl⟩
    exact ⟨c, read?_year_eq_some_iff.mpr ⟨_, hread, hc⟩, FieldValues.year_of_civil? hc⟩

end Layout

theorem Text.HasDigits.value_of_spells {t : Text} {ds : List Nat} (h : t.HasDigits ds) {n : Int}
    (hn : t.Spells n) : (∀ c ∈ t, isAsciiDigit c) ∧ n = ofDigits ds := by
  cases hn with
  | plain hnat =>
    have hascii := (isNatural_iff.mp hnat).2
    exact ⟨hascii, by rw [h.ofDigits_eq hascii]⟩
  | negated => exact absurd List.mem_cons_self (h.not_mem (by decide))

namespace Endpoint

/-- The guard against early years knows ASCII digits only, and the layout knows them all. -/
theorem read_year_iff (t : Text) (now : Moment) (y : Nat) :
    (∃ e, Endpoint.read t now = .ok e ∧ e.wording = .spelled ∧ e.unit = .year ∧
      e.base.wall.date.year = y) ↔
    ∃ ds, t.phrase.HasDigits ds ∧ ds.length = 4 ∧ ofDigits ds = y ∧ 1 ≤ y ∧
      ((∀ c ∈ t.phrase, isAsciiDigit c) → firstBareYear ≤ y) := by
  have hshort {ds : List Nat} (hds : t.phrase.HasDigits ds) (hlength : ds.length = 4) :
      t.phrase.countP isAsciiDigit ≤ Text.maxDigits := by
    have hle : t.phrase.countP isAsciiDigit ≤ t.phrase.length := List.countP_le_length
    rw [hds.length_eq, hlength] at hle
    exact Nat.le_trans hle (by decide)
  constructor
  · rintro ⟨e, he, hspelled, hunit, rfl⟩
    obtain ⟨way, _, hread⟩ := Wording.exists_of_readFirst he
    obtain rfl : way = .spelled := (Wording.wording_of_read hread).symm.trans hspelled
    obtain ⟨l, parsed, hl, rfl⟩ := Spelled.read_eq_some hread
    obtain rfl : l = .year := by
      cases l <;> first | rfl | cases hunit
    obtain ⟨ds, hds, hlength, hvalue, hpos⟩ := Layout.exists_read?_year_iff.mp ⟨parsed, hl, rfl⟩
    refine ⟨ds, hds, hlength, hvalue, hpos, fun hascii => Nat.not_lt.mp fun hearly => ?_⟩
    have hnat : t.phrase.isNatural := by
      refine Text.isNatural_iff.mpr ⟨?_, hascii⟩
      rw [← List.length_pos_iff, hds.length_eq, hlength]
      decide
    have hn : ((t.phrase.value : Nat) : Int) < firstBareYear := by
      rw [← hds.ofDigits_eq hascii, hvalue]
      exact Int.ofNat_lt.mpr hearly
    rw [Wording.read, Spelled.read_early (hshort hds hlength) (.plain hnat) hn] at hread
    cases hread
  · rintro ⟨ds, hds, hlength, rfl, hpos, hearly⟩
    obtain ⟨c, hc, hyear⟩ := Layout.exists_read?_year_iff.mpr ⟨ds, hds, hlength, rfl, hpos⟩
    refine ⟨_, read_of_means (hshort hds hlength) (.spelled ?_ hc), rfl, rfl, hyear⟩
    intro n hn
    obtain ⟨hascii, rfl⟩ := hds.value_of_spells hn
    exact Int.ofNat_le.mpr (hearly hascii)

theorem read_year_1500 :
    (∃ e, Endpoint.read "\u0661\u0665\u0660\u0660".toList
        ⟨⟨⟨2024, 5, 15, by decide⟩, ⟨13, 45, 30, 0, by decide⟩⟩, .zone .utc, false⟩ = .ok e ∧
      e.wording = .spelled ∧ e.unit = .year ∧ e.base.wall.date.year = 1500) ∧
    ¬ ∃ e, Endpoint.read "1500".toList
        ⟨⟨⟨2024, 5, 15, by decide⟩, ⟨13, 45, 30, 0, by decide⟩⟩, .zone .utc, false⟩ = .ok e ∧
      e.wording = .spelled ∧ e.unit = .year ∧ e.base.wall.date.year = 1500 := by
  have harabic : Text.phrase "\u0661\u0665\u0660\u0660".toList =
      "\u0661\u0665\u0660\u0660".toList := by
    decide +kernel
  have hascii : Text.phrase "1500".toList = "1500".toList := by
    decide +kernel
  constructor
  · rw [read_year_iff, harabic]
    refine ⟨[1, 5, 0, 0], by decide, rfl, rfl, by decide, fun h => ?_⟩
    exact absurd (h '\u0661' (by decide)) (by decide)
  · rw [read_year_iff, hascii]
    rintro ⟨_, _, _, _, _, hearly⟩
    exact absurd (hearly (List.all_eq_true.mp (by decide))) (by decide)

end Endpoint

end TimePhrase
