import TimePhrase.Proofs.NumericDate.FirstReal

namespace TimePhrase

namespace FieldOrder

/-- The order with the day and the month in each other's place, where these two come first. -/
def mirrored : FieldOrder → FieldOrder
  | yearMonthDay => yearMonthDay
  | dayMonthYear => monthDayYear
  | monthDayYear => dayMonthYear

variable {a b c : Nat} {d : Date} {o : FieldOrder}

theorem date?_eq_none_iff : o.date? a b c = none ↔ ∀ d, ¬ o.Shows a b c d := by
  rw [Option.eq_none_iff_forall_ne_some]
  exact forall_congr' fun d => not_congr date?_eq_some_iff

theorem date?_mirrored (h : ∀ d, ¬ yearMonthDay.Shows a b c d)
    (h' : ∀ d, ¬ yearMonthDay.Shows b a c d) (o : FieldOrder) :
    o.mirrored.date? b a c = o.date? a b c := by
  cases o with
  | yearMonthDay => exact (date?_eq_none_iff.mpr h').trans (date?_eq_none_iff.mpr h).symm
  | dayMonthYear => rfl
  | monthDayYear => rfl

theorem date?_monthDayYear_iff (hd : dayMonthYear.Shows a b c d) :
    monthDayYear.date? a b c = some d ↔ a = b := by
  obtain ⟨ha, hb, hc⟩ := hd
  rw [date?_eq_some_iff]
  constructor
  · rintro ⟨_, hb', _⟩
    exact ha.trans hb'.symm
  · intro hab
    exact ⟨hab.trans hb, hab.symm.trans ha, hc⟩

end FieldOrder

namespace Preference

def front : Preference → FieldOrder
  | dayFirst => .dayMonthYear
  | monthFirst => .monthDayYear

theorem orders_eq (p : Preference) : p.orders = [.yearMonthDay, p.front, p.front.mirrored] := by
  cases p <;> rfl

theorem orders_mirrored : monthFirst.orders = dayFirst.orders.map FieldOrder.mirrored := rfl

end Preference

theorem or_ne_or_comm_iff {α : Type} {x y z : Option α} :
    x.or (y.or z) ≠ x.or (z.or y) ↔ x = none ∧ y.isSome ∧ z.isSome ∧ y ≠ z := by
  cases x with
  | some _ => simp
  | none => cases y <;> cases z <;> simp

namespace NumericDate

section Choice

variable {p : Preference} {a b c : Nat}

theorem orderOf?_mirrored (h : ∀ d, ¬ FieldOrder.yearMonthDay.Shows a b c d)
    (h' : ∀ d, ¬ FieldOrder.yearMonthDay.Shows b a c d) :
    orderOf? .monthFirst b a c = (orderOf? .dayFirst a b c).map FieldOrder.mirrored := by
  rw [orderOf?, orderOf?, Preference.orders_mirrored, List.find?_map]
  simp only [Function.comp_def, FieldOrder.date?_mirrored h h']

theorem orderOf?_date?_mirrored (h : ∀ d, ¬ FieldOrder.yearMonthDay.Shows a b c d)
    (h' : ∀ d, ¬ FieldOrder.yearMonthDay.Shows b a c d) :
    (orderOf? .monthFirst b a c).bind (·.date? b a c) =
      (orderOf? .dayFirst a b c).bind (·.date? a b c) := by
  rw [orderOf?_mirrored h h', Option.bind_map]
  simp only [Function.comp_def, FieldOrder.date?_mirrored h h']

theorem orderOf?_date?_eq_or : (orderOf? p a b c).bind (·.date? a b c) =
    (FieldOrder.yearMonthDay.date? a b c).or
      ((p.front.date? a b c).or (p.front.mirrored.date? a b c)) := by
  rw [orderOf?, p.orders_eq]
  simp only [List.find?_cons, List.find?_nil]
  cases hyear : FieldOrder.yearMonthDay.date? a b c with
  | some d => simp [hyear]
  | none =>
    cases hfront : p.front.date? a b c with
    | some d => simp [hfront]
    | none => cases hback : p.front.mirrored.date? a b c <;> simp [hback]

/-- No date has its year in front, but one has its day there and another one its month. -/
structure Ambiguous (a b c : Nat) : Prop where
  year : ∀ d, ¬ FieldOrder.yearMonthDay.Shows a b c d
  day : ∃ d, FieldOrder.dayMonthYear.Shows a b c d
  month : ∃ d, FieldOrder.monthDayYear.Shows a b c d
  ne : a ≠ b

theorem orderOf?_date?_ne_iff : (orderOf? .dayFirst a b c).bind (·.date? a b c) ≠
    (orderOf? .monthFirst a b c).bind (·.date? a b c) ↔ Ambiguous a b c := by
  rw [orderOf?_date?_eq_or, orderOf?_date?_eq_or]
  refine or_ne_or_comm_iff.trans ?_
  rw [FieldOrder.date?_eq_none_iff, FieldOrder.isSome_date?_iff, FieldOrder.isSome_date?_iff]
  have hne {d : Date} (hd : FieldOrder.dayMonthYear.Shows a b c d) :
      FieldOrder.dayMonthYear.date? a b c ≠ FieldOrder.monthDayYear.date? a b c ↔ a ≠ b := by
    rw [FieldOrder.date?_eq_some_iff.mpr hd, ne_comm, ne_eq, FieldOrder.date?_monthDayYear_iff hd]
  constructor
  · rintro ⟨hyear, ⟨d, hd⟩, hmonth, hdates⟩
    exact ⟨hyear, ⟨d, hd⟩, hmonth, (hne hd).mp hdates⟩
  · rintro ⟨hyear, ⟨d, hd⟩, hmonth, hab⟩
    exact ⟨hyear, ⟨d, hd⟩, hmonth, (hne hd).mpr hab⟩

end Choice

section Texts

variable {t t' x y z : Text}

theorem date?_of_not_supported (ht : ¬ Supported t) (p : Preference) :
    date? t p = .error .numeralTooLong := by
  simp only [Supported, not_forall, not_not] at ht
  exact date?_eq_error_iff.mpr (fields?_eq_error_iff.mpr ⟨rfl, ht⟩)

theorem Fields.order?_eq (h : Fields t x y z) (ht : Supported t) (p : Preference) :
    order? t p = .ok (orderOf? p x.value y.value z.value) :=
  h.lookup_eq ht

theorem Fields.date?_eq (h : Fields t x y z) (ht : Supported t) (p : Preference) :
    date? t p = .ok ((orderOf? p x.value y.value z.value).bind
      (·.date? x.value y.value z.value)) :=
  h.lookup_eq ht

theorem Fields.mirrored {x' y' z' : Text} (h : Fields t x y z) (h' : Fields t' x' y' z')
    (ht : Supported t) (ht' : Supported t') (hx : x'.value = y.value) (hy : y'.value = x.value)
    (hz : z'.value = z.value)
    (hyear : ∀ d, ¬ FieldOrder.yearMonthDay.Shows x.value y.value z.value d)
    (hyear' : ∀ d, ¬ FieldOrder.yearMonthDay.Shows y.value x.value z.value d) :
    date? t' .monthFirst = date? t .dayFirst ∧
      order? t' .monthFirst = (order? t .dayFirst).map (·.map FieldOrder.mirrored) := by
  constructor
  · rw [h.date?_eq ht, h'.date?_eq ht', hx, hy, hz, orderOf?_date?_mirrored hyear hyear']
  · rw [h.order?_eq ht, h'.order?_eq ht', hx, hy, hz, orderOf?_mirrored hyear hyear']
    rfl

theorem date?_ne_iff : date? t .dayFirst ≠ date? t .monthFirst ↔
    Supported t ∧ ∃ x y z, Fields t x y z ∧ Ambiguous x.value y.value z.value := by
  by_cases ht : Supported t
  · by_cases hfields : ∃ x y z, Fields t x y z
    · obtain ⟨x, y, z, hfields⟩ := hfields
      rw [hfields.date?_eq ht, hfields.date?_eq ht, ne_eq, Except.ok.injEq, ← ne_eq,
        orderOf?_date?_ne_iff]
      constructor
      · intro h
        exact ⟨ht, x, y, z, hfields, h⟩
      · rintro ⟨_, x', y', z', hfields', h⟩
        obtain ⟨rfl, rfl, rfl⟩ := hfields.unique hfields'
        exact h
    · have hnone (p : Preference) : date? t p = .ok none := by
        simp only [not_exists] at hfields
        exact lookup_eq_none hfields
      rw [hnone, hnone]
      constructor
      · intro h
        exact absurd rfl h
      · rintro ⟨_, x, y, z, hfields', _⟩
        exact absurd ⟨x, y, z, hfields'⟩ hfields
  · rw [date?_of_not_supported ht, date?_of_not_supported ht]
    exact ⟨fun h => absurd rfl h, fun h => absurd h.1 ht⟩

theorem exists_date?_iff (ht : Supported t) (p : Preference) :
    (∃ d, date? t p = .ok (some d)) ↔
      ∃ x y z, Fields t x y z ∧ ∃ o d, FieldOrder.Shows x.value y.value z.value d o := by
  constructor
  · rintro ⟨d, hd⟩
    obtain ⟨x, y, z, hfields, o, hfirst⟩ := (date?_eq_some_iff ht).mp hd
    exact ⟨x, y, z, hfields, o, d, hfirst.shows⟩
  · rintro ⟨x, y, z, hfields, o, d, hshows⟩
    obtain ⟨d?, hd⟩ : ∃ d?, date? t p = .ok d? := ⟨_, hfields.date?_eq ht p⟩
    cases d? with
    | none =>
      have hnone := (order?_eq_none_iff ht).mp ((date?_eq_none_iff ht).mp hd)
      exact absurd hshows (hnone x y z hfields o d)
    | some d' => exact ⟨d', hd⟩

def slashed (a b c : Nat) : Text :=
  Text.decimal a ++ '/' :: (Text.decimal b ++ '/' :: Text.decimal c)

theorem fields_slashed (a b c : Nat) :
    Fields (slashed a b c) (Text.decimal a) (Text.decimal b) (Text.decimal c) :=
  .mk rfl rfl (Text.isNatural_decimal a) (Text.isNatural_decimal b) (Text.isNatural_decimal c)

theorem supported_slashed {a b c : Nat} (ha : (Text.decimal a).length ≤ Text.maxDigits)
    (hb : (Text.decimal b).length ≤ Text.maxDigits)
    (hc : (Text.decimal c).length ≤ Text.maxDigits) : Supported (slashed a b c) := by
  intro x y z hlong
  obtain ⟨rfl, rfl, rfl⟩ :=
    (fields_slashed a b c).unique (fields_iff.mpr ⟨hlong.fields, hlong.natural⟩)
  have hdigits := hlong.digits
  omega

end Texts

/-- Mirrored numbers have mirrored orders, and the preferences differ on ambiguous numbers only. -/
theorem preferences_mirrored :
    (∀ a b c, (Text.decimal a).length ≤ Text.maxDigits →
      (Text.decimal b).length ≤ Text.maxDigits → (Text.decimal c).length ≤ Text.maxDigits →
      (∀ d, ¬ FieldOrder.yearMonthDay.Shows a b c d) →
      (∀ d, ¬ FieldOrder.yearMonthDay.Shows b a c d) →
      date? (slashed b a c) (.ofName "MDY".toList) =
          date? (slashed a b c) (.ofName "DMY".toList) ∧
        order? (slashed b a c) (.ofName "MDY".toList) =
          (order? (slashed a b c) (.ofName "DMY".toList)).map (·.map FieldOrder.mirrored)) ∧
    ∀ t, (date? t (.ofName "DMY".toList) ≠ date? t (.ofName "MDY".toList) ↔
        Supported t ∧ ∃ x y z, Fields t x y z ∧ Ambiguous x.value y.value z.value) ∧
      ((∃ d, date? t (.ofName "DMY".toList) = .ok (some d)) ↔
        ∃ d, date? t (.ofName "MDY".toList) = .ok (some d)) := by
  have hday : Preference.ofName "DMY".toList = .dayFirst := by decide
  have hmonth : Preference.ofName "MDY".toList = .monthFirst := by decide
  rw [hday, hmonth]
  constructor
  · intro a b c ha hb hc hyear hyear'
    apply (fields_slashed a b c).mirrored (fields_slashed b a c) (supported_slashed ha hb hc)
      (supported_slashed hb ha hc) rfl rfl rfl
    · simp only [Text.value_decimal]
      exact hyear
    · simp only [Text.value_decimal]
      exact hyear'
  · intro t
    refine ⟨date?_ne_iff, ?_⟩
    by_cases ht : Supported t
    · rw [exists_date?_iff ht, exists_date?_iff ht]
    · rw [date?_of_not_supported ht, date?_of_not_supported ht]

theorem preferences_mirrored_april :
    (∀ d, ¬ FieldOrder.yearMonthDay.Shows 3 4 2017 d) ∧
      (∀ d, ¬ FieldOrder.yearMonthDay.Shows 4 3 2017 d) ∧
      date? (slashed 4 3 2017) (.ofName "MDY".toList) =
        date? (slashed 3 4 2017) (.ofName "DMY".toList) ∧
      date? (slashed 3 4 2017) (.ofName "DMY".toList) ≠
        date? (slashed 3 4 2017) (.ofName "MDY".toList) := by
  have hyear : ∀ d, ¬ FieldOrder.yearMonthDay.Shows 3 4 2017 d :=
    FieldOrder.date?_eq_none_iff.mp (by decide)
  have hyear' : ∀ d, ¬ FieldOrder.yearMonthDay.Shows 4 3 2017 d :=
    FieldOrder.date?_eq_none_iff.mp (by decide)
  obtain ⟨hmirrored, hties⟩ := preferences_mirrored
  have hsame := hmirrored 3 4 2017 (by decide) (by decide) (by decide) hyear hyear'
  refine ⟨hyear, hyear', hsame.1, (hties _).1.mpr ?_⟩
  refine ⟨supported_slashed (by decide) (by decide) (by decide), _, _, _,
    fields_slashed 3 4 2017, ?_⟩
  simp only [Text.value_decimal]
  exact {
    year := hyear
    day := ⟨⟨2017, 4, 3, by decide⟩, rfl, rfl, rfl⟩
    month := ⟨⟨2017, 3, 4, by decide⟩, rfl, rfl, rfl⟩
    ne := by decide }

end NumericDate

end TimePhrase
