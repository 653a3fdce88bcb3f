import TimePhrase.Proofs.NumericDate.FirstReal

namespace TimePhrase

namespace FieldOrder

def first : FieldOrder → Field
  | yearMonthDay => .year
  | dayMonthYear => .day
  | monthDayYear => .month

def second : FieldOrder → Field
  | yearMonthDay => .month
  | dayMonthYear => .month
  | monthDayYear => .day

def third : FieldOrder → Field
  | yearMonthDay => .day
  | dayMonthYear => .year
  | monthDayYear => .year

def separator : FieldOrder → Char
  | yearMonthDay => '-'
  | dayMonthYear => '/'
  | monthDayYear => '/'

def pieces (o : FieldOrder) : List Piece := Piece.ofPattern o.pattern.toList

def read? (o : FieldOrder) (t : Text) : Option Civil := Piece.read? o.pieces t

/-- The text with the separator of the pattern in the place of its own ones. -/
def withSeparator (o : FieldOrder) (t : Text) : Text :=
  t.map fun c => if NumericDate.isSeparator c then o.separator else c

/-- Each numeral has as many digits as it may have in its field. -/
def Fits (o : FieldOrder) (x y z : Text) : Prop :=
  o.first.Fits x ∧ o.second.Fits y ∧ o.third.Fits z

instance (o : FieldOrder) (x y z : Text) : Decidable (o.Fits x y z) :=
  inferInstanceAs (Decidable (_ ∧ _))

theorem pieces_eq (o : FieldOrder) : o.pieces = [.field o.first, .literal o.separator,
    .field o.second, .literal o.separator, .field o.third] := by
  cases o <;> decide

theorem mem_pieces_iff {o : FieldOrder} {f : Field} :
    .field f ∈ o.pieces ↔ f = .year ∨ f = .month ∨ f = .day := by
  cases o <;> cases f <;> decide

theorem shows_iff {o : FieldOrder} {a b c : Nat} {d : Date} : o.Shows a b c d ↔
    a = Civil.value ⟨d, .midnight⟩ o.first ∧ b = Civil.value ⟨d, .midnight⟩ o.second ∧
      c = Civil.value ⟨d, .midnight⟩ o.third := by
  cases o <;> exact Iff.rfl

theorem separator_ascii (o : FieldOrder) : o.separator.toNat < 0x80 := by
  cases o <;> decide

theorem separator_ne {o : FieldOrder} {c : Char} (h : isAsciiDigit c ∨ c = ' ') :
    (c == o.separator) = false := by
  have hspace : isAsciiDigit o.separator = false ∧ ' ' ≠ o.separator := by
    cases o <;> decide
  rw [beq_eq_false_iff_ne]
  rintro rfl
  rcases h with h | h
  · rw [hspace.1] at h
    cases h
  · exact hspace.2 h.symm

theorem splitWhere_separator (o : FieldOrder) {x y z : Text}
    (hx : ∀ c ∈ x, isAsciiDigit c ∨ c = ' ') (hy : ∀ c ∈ y, isAsciiDigit c ∨ c = ' ')
    (hz : ∀ c ∈ z, isAsciiDigit c ∨ c = ' ') :
    Text.splitWhere (· == o.separator) (x ++ o.separator :: (y ++ o.separator :: z)) = [x, y, z] :=
  Text.splitWhere_eq_three_iff.mpr ⟨_, _, rfl, beq_self_eq_true _, beq_self_eq_true _,
    fun c hc => separator_ne (hx c hc), fun c hc => separator_ne (hy c hc),
    fun c hc => separator_ne (hz c hc)⟩

section Numerals

variable {o : FieldOrder} {x y z : Text} (hx : x.isNatural) (hy : y.isNatural) (hz : z.isNatural)
include hx hy hz

theorem withSeparator_eq {s s' : Char} (hs : NumericDate.isSeparator s)
    (hs' : NumericDate.isSeparator s') : o.withSeparator (x ++ s :: (y ++ s' :: z)) =
      x ++ o.separator :: (y ++ o.separator :: z) := by
  have hkept {w : Text} (hw : w.isNatural) :
      w.map (fun c => if NumericDate.isSeparator c then o.separator else c) = w := by
    refine (List.map_congr_left fun c hc => ?_).trans (List.map_id w)
    rw [NumericDate.isSeparator_of_isNatural hw c hc]
    rfl
  rw [withSeparator, List.map_append, List.map_cons, List.map_append, List.map_cons, hkept hx,
    hkept hy, hkept hz, if_pos hs, if_pos hs']

theorem read?_of_fits {d : Date} (hfits : o.Fits x y z)
    (hd : o.Shows x.value y.value z.value d) :
    o.read? (x ++ o.separator :: (y ++ o.separator :: z)) = some ⟨d, .midnight⟩ := by
  obtain ⟨hfirst, hsecond, hthird⟩ := shows_iff.mp hd
  have hform {f : Field} {w : Text} (hw : w.isNatural) (hf : f.Fits w)
      (hvalue : w.value = Civil.value ⟨d, .midnight⟩ f) :
      f.Form (Civil.value ⟨d, .midnight⟩ f) w :=
    (Field.form_iff_of_isNatural (Civil.inRange_value _ f) hw).mpr ⟨hf, hvalue⟩
  apply Piece.read?_of_forms
  · cases o <;> decide
  · rw [pieces_eq, Piece.forms_separated]
    exact ⟨x, y, z, rfl, hform hx hfits.1 hfirst, hform hy hfits.2.1 hsecond,
      hform hz hfits.2.2 hthird⟩
  · exact fun f hf => Civil.value_midnight d (mt mem_pieces_iff.mpr hf)
  · rfl

theorem fits_of_read? {c : Civil}
    (h : o.read? (x ++ o.separator :: (y ++ o.separator :: z)) = some c) : o.Fits x y z := by
  have hdigits {w : Text} (hw : w.isNatural) : ∀ d ∈ w, isAsciiDigit d ∨ d = ' ' :=
    fun d hd => .inl ((Text.isNatural_iff.mp hw).2 d hd)
  have hascii : ∀ d ∈ x ++ o.separator :: (y ++ o.separator :: z), d.toNat < 0x80 := by
    have hfield {w : Text} (hw : w.isNatural) : ∀ d ∈ w, d.toNat < 0x80 :=
      fun d hd => Text.toNat_lt_of_isAsciiDigit ((Text.isNatural_iff.mp hw).2 d hd)
    rw [List.forall_mem_append, List.forall_mem_cons, List.forall_mem_append, List.forall_mem_cons]
    exact ⟨hfield hx, o.separator_ascii, hfield hy, o.separator_ascii, hfield hz⟩
  have hpieces : o.pieces.Pairwise Piece.Distinct := by
    cases o <;> decide
  obtain ⟨hforms, _, _⟩ := Piece.forms_of_read? hpieces hascii h
  rw [pieces_eq, Piece.forms_separated] at hforms
  obtain ⟨x', y', z', heq, hx', hy', hz'⟩ := hforms
  have hsplit := o.splitWhere_separator (Field.chars_of_form hx') (Field.chars_of_form hy')
    (Field.chars_of_form hz')
  rw [← heq, o.splitWhere_separator (hdigits hx) (hdigits hy) (hdigits hz)] at hsplit
  cases hsplit
  have hfits {f : Field} {w : Text} (hw : w.isNatural) (hf : f.Form (c.value f) w) : f.Fits w :=
    ((Field.form_iff_of_isNatural (c.inRange_value f) hw).mp hf).1
  exact ⟨hfits hx hx', hfits hy hy', hfits hz hz'⟩

end Numerals

end FieldOrder

namespace NumericDate

theorem supported_of_order?_eq_ok {t : Text} {p : Preference} {o? : Option FieldOrder}
    (h : order? t p = .ok o?) : Supported t := by
  intro x y z hlong
  rw [order?_eq_error_iff.mpr (fields?_eq_error_iff.mpr ⟨rfl, x, y, z, hlong⟩)] at h
  cases h

/-- The pattern of an order reads a year in four digits, and a month and a day in two at most. -/
theorem pattern_reads_iff_fits {t name : Text} {o : FieldOrder}
    (h : order t (.ofName name) = .ok o) : ∃ x y z d, Fields t x y z ∧
      date? t (.ofName name) = .ok (some d) ∧
      ∀ c, o.read? (o.withSeparator t) = some c ↔ o.Fits x y z ∧ c = ⟨d, .midnight⟩ := by
  rw [order_eq_ok_iff] at h
  have ht := supported_of_order?_eq_ok h
  obtain ⟨x, y, z, hfields, d, hd⟩ := (order?_eq_some_iff ht).mp h
  refine ⟨x, y, z, d, hfields, (date?_eq_some_iff ht).mpr ⟨x, y, z, hfields, o, hd⟩, fun c => ?_⟩
  obtain ⟨hs, hs', hx, hy, hz⟩ := hfields
  rw [FieldOrder.withSeparator_eq hx hy hz hs hs']
  constructor
  · intro hread
    have hfits := FieldOrder.fits_of_read? hx hy hz hread
    rw [FieldOrder.read?_of_fits hx hy hz hfits hd.shows, Option.some.injEq] at hread
    exact ⟨hfits, hread.symm⟩
  · rintro ⟨hfits, rfl⟩
    exact FieldOrder.read?_of_fits hx hy hz hfits hd.shows

theorem pattern_reads_single_digits :
    order "3.4.2017".toList (.ofName "DMY".toList) = .ok .dayMonthYear ∧
      FieldOrder.dayMonthYear.withSeparator "3.4.2017".toList = "3/4/2017".toList ∧
      FieldOrder.dayMonthYear.read? "3/4/2017".toList =
        some ⟨⟨2017, 4, 3, by decide⟩, .midnight⟩ := by
  have horder : order "3.4.2017".toList (.ofName "DMY".toList) = .ok .dayMonthYear := by
    decide +kernel
  have hdate : date? "3.4.2017".toList (.ofName "DMY".toList) =
      .ok (some ⟨2017, 4, 3, by decide⟩) := by
    decide +kernel
  have hfields : Fields "3.4.2017".toList "3".toList "4".toList "2017".toList :=
    fields_iff.mpr (by decide)
  obtain ⟨x, y, z, d, hxyz, hd, hread⟩ := pattern_reads_iff_fits horder
  obtain ⟨rfl, rfl, rfl⟩ := hfields.unique hxyz
  cases hdate.symm.trans hd
  refine ⟨horder, by decide, (hread _).mpr ⟨?_, rfl⟩⟩
  decide

theorem pattern_reads_no_short_year :
    order "08/09/10".toList (.ofName "DMY".toList) = .ok .yearMonthDay ∧
      date? "08/09/10".toList (.ofName "DMY".toList) = .ok (some ⟨8, 9, 10, by decide⟩) ∧
      FieldOrder.yearMonthDay.withSeparator "08/09/10".toList = "08-09-10".toList ∧
      FieldOrder.yearMonthDay.read? "08-09-10".toList = none := by
  decide +kernel

end NumericDate

end TimePhrase
