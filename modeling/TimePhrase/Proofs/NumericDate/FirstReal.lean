import TimePhrase.Proofs.Faults

namespace TimePhrase

theorem Date.of?_eq_some_iff {y m d : Nat} {x : Date} :
    of? y m d = some x ↔ y = x.year ∧ m = x.month ∧ d = x.day := by
  rw [of?, Option.dite_none_right_eq_some]
  constructor
  · rintro ⟨_, h⟩
    cases h
    exact ⟨rfl, rfl, rfl⟩
  · rintro ⟨rfl, rfl, rfl⟩
    exact ⟨x.valid, rfl⟩

namespace FieldOrder

/-- The numbers show the date in this order. -/
def Shows (a b c : Nat) (d : Date) : FieldOrder → Prop
  | yearMonthDay => a = d.year ∧ b = d.month ∧ c = d.day
  | dayMonthYear => a = d.day ∧ b = d.month ∧ c = d.year
  | monthDayYear => a = d.month ∧ b = d.day ∧ c = d.year

variable {a b c : Nat} {d : Date} {o : FieldOrder}

theorem date?_eq_some_iff : o.date? a b c = some d ↔ o.Shows a b c d := by
  cases o with
  | yearMonthDay => exact Date.of?_eq_some_iff
  | dayMonthYear =>
    rw [date?, Date.of?_eq_some_iff, Shows, and_comm, and_assoc]
    exact and_left_comm
  | monthDayYear =>
    rw [date?, Date.of?_eq_some_iff, Shows, and_comm, and_assoc]

theorem isSome_date?_iff : (o.date? a b c).isSome ↔ ∃ d, o.Shows a b c d := by
  simp only [Option.isSome_iff_exists, date?_eq_some_iff]

/-- The first of the orders in which the numbers show a date, and that date. -/
structure FirstReal (orders : List FieldOrder) (a b c : Nat) (o : FieldOrder) (d : Date) :
    Prop where
  shows : o.Shows a b c d
  first : ∃ before after, orders = before ++ o :: after ∧ ∀ o' ∈ before, ∀ d', ¬ o'.Shows a b c d'

end FieldOrder

theorem Preference.mem_orders (p : Preference) (o : FieldOrder) : o ∈ p.orders := by
  cases p <;> cases o <;> decide

namespace NumericDate

section Choice

variable {p : Preference} {a b c : Nat} {o : FieldOrder} {d : Date}

theorem orderOf?_eq_some_iff :
    orderOf? p a b c = some o ↔ ∃ d, FieldOrder.FirstReal p.orders a b c o d := by
  rw [orderOf?, List.find?_eq_some_iff_append, FieldOrder.isSome_date?_iff]
  simp only [Bool.not_eq_true', Option.isSome_eq_false_iff, Option.isNone_iff_eq_none,
    Option.eq_none_iff_forall_ne_some, ne_eq, FieldOrder.date?_eq_some_iff]
  constructor
  · rintro ⟨⟨d, hd⟩, hfirst⟩
    exact ⟨d, hd, hfirst⟩
  · rintro ⟨d, hd, hfirst⟩
    exact ⟨⟨d, hd⟩, hfirst⟩

theorem orderOf?_eq_none_iff : orderOf? p a b c = none ↔ ∀ o d, ¬ FieldOrder.Shows a b c d o := by
  rw [orderOf?, List.find?_eq_none]
  simp only [FieldOrder.isSome_date?_iff, not_exists]
  exact ⟨fun h o => h o (p.mem_orders o), fun h o _ => h o⟩

theorem orderOf?_date?_eq_some_iff : (orderOf? p a b c).bind (·.date? a b c) = some d ↔
    ∃ o, FieldOrder.FirstReal p.orders a b c o d := by
  rw [Option.bind_eq_some_iff]
  simp only [FieldOrder.date?_eq_some_iff, orderOf?_eq_some_iff]
  constructor
  · rintro ⟨o, ⟨_, hfirst⟩, hd⟩
    exact ⟨o, hd, hfirst.first⟩
  · rintro ⟨o, hfirst⟩
    exact ⟨o, ⟨d, hfirst⟩, hfirst.shows⟩

theorem orderOf?_date?_eq_none_iff :
    (orderOf? p a b c).bind (·.date? a b c) = none ↔ orderOf? p a b c = none := by
  rw [Option.bind_eq_none_iff]
  constructor
  · intro h
    rw [Option.eq_none_iff_forall_ne_some]
    intro o ho
    have hsome := List.find?_some ho
    rw [h o ho] at hsome
    cases hsome
  · intro h o ho
    rw [h] at ho
    cases ho

end Choice

section Numbers

/-- The text is three numbers with a separator after the first one and after the second. -/
inductive Fields : Text → Text → Text → Text → Prop
  | mk {x y z : Text} {s s' : Char} (hs : isSeparator s) (hs' : isSeparator s')
    (hx : x.isNatural) (hy : y.isNatural) (hz : z.isNatural) :
    Fields (x ++ s :: (y ++ s' :: z)) x y z

variable {t x y z : Text}

theorem isSeparator_of_isAsciiDigit {c : Char} (h : isAsciiDigit c) : isSeparator c = false :=
  Text.of_isAsciiDigit (P := fun c => isSeparator c = false) (by decide) h

theorem isSeparator_of_isNatural (hx : x.isNatural) : ∀ c ∈ x, isSeparator c = false :=
  fun c hc => isSeparator_of_isAsciiDigit ((Text.isNatural_iff.mp hx).2 c hc)

theorem fields_iff : Fields t x y z ↔
    t.splitWhere isSeparator = [x, y, z] ∧ x.isNatural ∧ y.isNatural ∧ z.isNatural := by
  rw [Text.splitWhere_eq_three_iff]
  constructor
  · rintro ⟨hs, hs', hx, hy, hz⟩
    exact ⟨⟨_, _, rfl, hs, hs', isSeparator_of_isNatural hx, isSeparator_of_isNatural hy,
      isSeparator_of_isNatural hz⟩, hx, hy, hz⟩
  · rintro ⟨⟨s, s', rfl, hs, hs', _⟩, hx, hy, hz⟩
    exact .mk hs hs' hx hy hz

/-- No number of a numeric date has more digits than supported. -/
def Supported (t : Text) : Prop := ∀ x y z, ¬ Overlong t x y z

theorem Fields.length_le (h : Fields t x y z) (ht : Supported t) :
    x.length ≤ Text.maxDigits ∧ y.length ≤ Text.maxDigits ∧ z.length ≤ Text.maxDigits := by
  obtain ⟨hsplit, hnat⟩ := fields_iff.mp h
  have hdigits : ¬ (Text.maxDigits < x.length ∨ Text.maxDigits < y.length ∨
      Text.maxDigits < z.length) := fun hlong => ht x y z ⟨hsplit, hnat, hlong⟩
  rw [not_or, not_or, Nat.not_lt, Nat.not_lt, Nat.not_lt] at hdigits
  exact hdigits

theorem Fields.fields?_eq (h : Fields t x y z) (ht : Supported t) :
    fields? t = .ok (some (x.value, y.value, z.value)) := by
  obtain ⟨hsplit, hx, hy, hz⟩ := fields_iff.mp h
  obtain ⟨hxlen, hylen, hzlen⟩ := h.length_le ht
  simp only [fields?, hsplit, hx, hy, hz, Text.natural_eq hxlen, Text.natural_eq hylen,
    Text.natural_eq hzlen]
  rfl

theorem fields?_eq_none (h : ∀ x y z, ¬ Fields t x y z) : fields? t = .ok none := by
  rw [fields?]
  split
  · rename_i x y z hsplit
    rw [if_neg]
    · rfl
    · intro hnat
      rw [Bool.and_eq_true, Bool.and_eq_true, and_assoc] at hnat
      exact h x y z (fields_iff.mpr ⟨hsplit, hnat⟩)
  · rfl

theorem Fields.unique {x' y' z' : Text} (h : Fields t x y z) (h' : Fields t x' y' z') :
    x = x' ∧ y = y' ∧ z = z' := by
  have hpieces := (fields_iff.mp h).1.symm.trans (fields_iff.mp h').1
  simp only [List.cons.injEq, and_true] at hpieces
  exact hpieces

end Numbers

section Lookup

variable {t x y z : Text} {α : Type} {g : Nat × Nat × Nat → Option α}

theorem Fields.lookup_eq (h : Fields t x y z) (ht : Supported t) :
    (do return (← fields? t).bind g) = Except.ok (g (x.value, y.value, z.value)) := by
  rw [h.fields?_eq ht]
  rfl

theorem lookup_eq_none (h : ∀ x y z, ¬ Fields t x y z) :
    (do return (← fields? t).bind g) = Except.ok none := by
  rw [fields?_eq_none h]
  rfl

theorem lookup_eq_some_iff (ht : Supported t) {a : α} :
    (do return (← fields? t).bind g) = Except.ok (some a) ↔
      ∃ x y z, Fields t x y z ∧ g (x.value, y.value, z.value) = some a := by
  constructor
  · intro h
    by_cases hfields : ∃ x y z, Fields t x y z
    · obtain ⟨x, y, z, hfields⟩ := hfields
      rw [hfields.lookup_eq ht] at h
      exact ⟨x, y, z, hfields, Except.ok.inj h⟩
    · simp only [not_exists] at hfields
      rw [lookup_eq_none hfields] at h
      cases h
  · rintro ⟨x, y, z, hfields, ha⟩
    rw [hfields.lookup_eq ht, ha]

theorem lookup_eq_none_iff (ht : Supported t) :
    (do return (← fields? t).bind g) = Except.ok none ↔
      ∀ x y z, Fields t x y z → g (x.value, y.value, z.value) = none := by
  constructor
  · intro h x y z hfields
    rw [hfields.lookup_eq ht] at h
    exact Except.ok.inj h
  · intro h
    by_cases hfields : ∃ x y z, Fields t x y z
    · obtain ⟨x, y, z, hfields⟩ := hfields
      rw [hfields.lookup_eq ht, h x y z hfields]
    · simp only [not_exists] at hfields
      exact lookup_eq_none hfields

end Lookup

section Answers

variable {t : Text} {p : Preference}

theorem order_eq_ok_iff {o : FieldOrder} : order t p = .ok o ↔ order? t p = .ok (some o) := by
  rw [order]
  rcases order? t p with f | _ | o' <;>
    simp only [reduceCtorEq, Except.ok.injEq, Option.some.injEq]

variable (ht : Supported t)
include ht

theorem order?_eq_some_iff {o : FieldOrder} : order? t p = .ok (some o) ↔
    ∃ x y z, Fields t x y z ∧
      ∃ d, FieldOrder.FirstReal p.orders x.value y.value z.value o d := by
  simp only [← orderOf?_eq_some_iff]
  exact lookup_eq_some_iff ht

theorem order?_eq_none_iff : order? t p = .ok none ↔
    ∀ x y z, Fields t x y z → ∀ o d, ¬ FieldOrder.Shows x.value y.value z.value d o := by
  simp only [← orderOf?_eq_none_iff (p := p)]
  exact lookup_eq_none_iff ht

theorem date?_eq_some_iff {d : Date} : date? t p = .ok (some d) ↔
    ∃ x y z, Fields t x y z ∧
      ∃ o, FieldOrder.FirstReal p.orders x.value y.value z.value o d := by
  simp only [← orderOf?_date?_eq_some_iff]
  exact lookup_eq_some_iff ht

theorem date?_eq_none_iff : date? t p = .ok none ↔ order? t p = .ok none := by
  have horder := lookup_eq_none_iff ht (g := fun n => orderOf? p n.1 n.2.1 n.2.2)
  have hdate := lookup_eq_none_iff ht (g := fun n => (orderOf? p n.1 n.2.1 n.2.2).bind
    (·.date? n.1 n.2.1 n.2.2))
  simp only [orderOf?_date?_eq_none_iff] at hdate
  exact hdate.trans horder.symm

end Answers

end NumericDate

end TimePhrase
