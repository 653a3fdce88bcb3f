import Mathlib.Data.List.Basic
import TimePhrase.Proofs.Phrase.LayoutMarks
import TimePhrase.Proofs.Text.Integers

namespace TimePhrase

theorem digitValue?_digitChar {d : Nat} (h : d < 10) : digitValue? d.digitChar = some d := by
  revert d
  decide

theorem exists_zero_of_digitValue? {c : Char} {d : Nat} (h : digitValue? c = some d) :
    ∃ z ∈ digitZeros, d < 10 ∧ c.toNat = z + d := by
  obtain ⟨z, hz, rfl⟩ := Option.map_eq_some_iff.mp h
  have hbounds := List.find?_some hz
  rw [Bool.and_eq_true, decide_eq_true_iff, decide_eq_true_iff] at hbounds
  exact ⟨z, List.mem_of_find?_eq_some hz, by omega⟩

theorem digitValue?_of_isAsciiDigit {c : Char} (h : isAsciiDigit c) :
    digitValue? c = some (c.toNat - '0'.toNat) := by
  obtain ⟨hlt, hchar⟩ := Text.digitChar_of_isAsciiDigit h
  have hvalue := digitValue?_digitChar hlt
  rw [hchar] at hvalue
  exact hvalue

theorem digitChar_of_digitValue? {c : Char} (hc : c.toNat < 0x80) {d : Nat}
    (h : digitValue? c = some d) : d < 10 ∧ c = d.digitChar := by
  have hzeros : ∀ z ∈ digitZeros, z = '0'.toNat ∨ 0x80 ≤ z := by decide
  obtain ⟨z, hz, hlt, hchar⟩ := exists_zero_of_digitValue? h
  refine ⟨hlt, ?_⟩
  rw [← Char.toNat_inj, toNat_digitChar hlt, hchar]
  have hzero := hzeros z hz
  omega

/-- The number in its shortest form, or padded to two digits. -/
def Text.ShortOrPadded (w : Text) (n : Nat) : Prop := w = decimal n ∨ w = padded 2 n

namespace Field

/-- The forms that the number `n` may have in a field. -/
def Form (n : Nat) (w : Text) : Field → Prop
  | year => w = Text.padded 4 n
  | day => w.ShortOrPadded n ∨ n < 10 ∧ w = ' ' :: Text.decimal n
  | _ => w.ShortOrPadded n

/-- The numbers that a field of a date or a time may have. -/
def InRange (n : Nat) : Field → Prop
  | year => n < 10000
  | month => 1 ≤ n ∧ n ≤ 12
  | day => 1 ≤ n ∧ n ≤ 31
  | hour => n < 24
  | minute => n < 60
  | second => n < 60

instance (n : Nat) : DecidablePred (InRange n)
  | year => inferInstanceAs (Decidable (n < 10000))
  | month => inferInstanceAs (Decidable (1 ≤ n ∧ n ≤ 12))
  | day => inferInstanceAs (Decidable (1 ≤ n ∧ n ≤ 31))
  | hour => inferInstanceAs (Decidable (n < 24))
  | minute => inferInstanceAs (Decidable (n < 60))
  | second => inferInstanceAs (Decidable (n < 60))

end Field

namespace Slot

theorem length_of_read? {slots : List Slot} {n k : Nat} {t rest : Text}
    (h : Slot.read? n slots t = some (k, rest)) : t.length = slots.length + rest.length := by
  induction slots generalizing n t with
  | nil =>
    cases h
    exact (Nat.zero_add _).symm
  | cons s slots ih =>
    obtain ⟨c, t, d, rfl, _, htail⟩ := read?_cons_eq_some_iff.mp h
    rw [List.length_cons, List.length_cons, ih htail]
    omega

theorem read?_append {slots : List Slot} {t : Text} (hlength : slots.length ≤ t.length) (n : Nat)
    (rest : Text) :
    Slot.read? n slots (t ++ rest) = (Slot.read? n slots t).map fun r => (r.1, r.2 ++ rest) := by
  induction slots generalizing n t with
  | nil => rfl
  | cons s slots ih =>
    cases t with
    | nil => cases hlength
    | cons c t =>
      rw [List.cons_append, read?, read?]
      cases s.value? c with
      | none => rfl
      | some d => exact ih (Nat.le_of_succ_le_succ hlength) _

def IsDigit : Slot → Prop
  | digit _ hi => hi ≤ 9
  | anyDigit => True
  | space => False

instance : DecidablePred IsDigit
  | digit _ hi => inferInstanceAs (Decidable (hi ≤ 9))
  | anyDigit => isTrue trivial
  | space => isFalse id

theorem digitValue?_of_value? {s : Slot} (hs : s.IsDigit) {c : Char} {d : Nat}
    (h : s.value? c = some d) : digitValue? c = some d := by
  cases s with
  | digit lo hi =>
    simp only [IsDigit] at hs
    simp only [value?, Option.ite_none_right_eq_some, Option.some.injEq] at h
    obtain ⟨hbounds, rfl⟩ := h
    apply digitValue?_of_isAsciiDigit
    rw [isAsciiDigit, Bool.and_eq_true, decide_eq_true_iff, decide_eq_true_iff]
    have hlow : '0'.toNat ≤ c.toNat := by omega
    have hhigh : c.toNat ≤ '9'.toNat := by
      have hnine : '9'.toNat = '0'.toNat + 9 := rfl
      omega
    exact ⟨hlow, hhigh⟩
  | anyDigit => exact h
  | space => exact hs.elim

theorem value?_eq_none {s : Slot} (hs : s.IsDigit) {c : Char} (h : digitValue? c = none) :
    s.value? c = none := by
  rw [Option.eq_none_iff_forall_ne_some]
  intro d hd
  rw [digitValue?_of_value? hs hd] at h
  cases h

theorem value?_anyDigit {d : Nat} (h : d < 10) : anyDigit.value? d.digitChar = some d :=
  digitValue?_digitChar h

theorem value?_digit_of_mem {d lo hi : Nat} (h : d < 10) (hd : lo ≤ d ∧ d ≤ hi) :
    (digit lo hi).value? d.digitChar = some d := by
  have hchar := toNat_digitChar h
  simp only [value?, hchar, Nat.add_le_add_iff_left, Nat.add_sub_cancel_left, if_pos hd]

theorem read?_one {s : Slot} {c : Char} {n : Nat} (h : s.value? c = some n) (rest : Text) :
    Slot.read? 0 [s] (c :: rest) = some (n, rest) := by
  simp only [read?, h, Option.bind_eq_bind, Option.bind_some, Nat.mul_zero, Nat.zero_add]

theorem read?_refused {s : Slot} {c : Char} (h : s.value? c = none) (n : Nat)
    (slots : List Slot) (t : Text) : Slot.read? n (s :: slots) (c :: t) = none := by
  simp only [read?, h, Option.bind_eq_bind, Option.bind_none]

theorem read?_two_refused {s s' : Slot} (hs' : s'.IsDigit) {c : Char} {rest : Text}
    (hrest : rest.head?.any (fun c => (digitValue? c).isSome) = false) :
    Slot.read? 0 [s, s'] (c :: rest) = none := by
  rw [read?, Option.bind_eq_bind, Option.bind_eq_none_iff]
  intro d _
  cases rest with
  | nil => rfl
  | cons c' rest =>
    have hc' : (digitValue? c').isSome = false := hrest
    rw [Option.isSome_eq_false_iff, Option.isNone_iff_eq_none] at hc'
    exact read?_refused (value?_eq_none hs' hc') _ _ _

section Ascii

variable {t : Text} (ht : ∀ c ∈ t, c.toNat < 0x80)
include ht

theorem exists_digitChar_of_read? {s : Slot} (hs : s.IsDigit) {slots : List Slot} {n : Nat}
    {r : Nat × Text} (h : read? n (s :: slots) t = some r) :
    ∃ d rest, d < 10 ∧ t = d.digitChar :: rest ∧ read? (10 * n + d) slots rest = some r := by
  obtain ⟨c, rest, d, rfl, hd, htail⟩ := read?_cons_eq_some_iff.mp h
  obtain ⟨hlt, rfl⟩ :=
    digitChar_of_digitValue? (ht c List.mem_cons_self) (digitValue?_of_value? hs hd)
  exact ⟨d, rest, hlt, rfl, htail⟩

theorem padded_of_read? {slots : List Slot} (hslots : ∀ s ∈ slots, s.IsDigit) {k n m : Nat}
    (hk : 0 < k) {rest : Text} (h : read? n slots t = some (m, rest)) :
    ∃ w, t = w ++ rest ∧ Text.padded (k + slots.length) m = Text.padded k n ++ w := by
  induction slots generalizing k n t with
  | nil =>
    cases h
    exact ⟨[], rfl, (List.append_nil _).symm⟩
  | cons s slots ih =>
    obtain ⟨d, t, hlt, rfl, htail⟩ := exists_digitChar_of_read? ht (hslots s List.mem_cons_self) h
    obtain ⟨w, rfl, hw⟩ := ih (fun c hc => ht c (List.mem_cons_of_mem _ hc))
      (fun s hs => hslots s (List.mem_cons_of_mem _ hs)) (Nat.succ_pos k) htail
    have hdiv : (10 * n + d) / 10 = n := by omega
    have hmod : (10 * n + d) % 10 = d := by omega
    rw [Text.padded_succ hk, hdiv, hmod, List.append_assoc] at hw
    refine ⟨d.digitChar :: w, rfl, ?_⟩
    rw [List.length_cons, Nat.add_comm slots.length, ← Nat.add_assoc]
    exact hw

theorem text_of_read? {slots : List Slot} (hslots : ∀ s ∈ slots, s.IsDigit) (hne : slots ≠ [])
    {m : Nat} {rest : Text} (h : read? 0 slots t = some (m, rest)) :
    t = Text.padded slots.length m ++ rest := by
  obtain ⟨s, slots, rfl⟩ := List.exists_cons_of_ne_nil hne
  obtain ⟨d, t, hlt, rfl, htail⟩ := exists_digitChar_of_read? ht (hslots s List.mem_cons_self) h
  obtain ⟨w, rfl, hw⟩ := padded_of_read? (fun c hc => ht c (List.mem_cons_of_mem _ hc))
    (fun s hs => hslots s (List.mem_cons_of_mem _ hs)) Nat.one_pos htail
  rw [Nat.mul_zero, Nat.zero_add, Text.padded_one hlt] at hw
  rw [List.length_cons, Nat.add_comm, hw]
  rfl

end Ascii

end Slot

namespace Field

theorem form_iff {f : Field} (hf : f ≠ year) {n : Nat} {w : Text} :
    f.Form n w ↔ w.ShortOrPadded n ∨ f = day ∧ n < 10 ∧ w = ' ' :: Text.decimal n := by
  cases f with
  | year => exact absurd rfl hf
  | day => simp only [Form, true_and]
  | month => simp only [Form, reduceCtorEq, false_and, or_false]
  | hour => simp only [Form, reduceCtorEq, false_and, or_false]
  | minute => simp only [Form, reduceCtorEq, false_and, or_false]
  | second => simp only [Form, reduceCtorEq, false_and, or_false]

theorem chars_of_form {f : Field} {n : Nat} {w : Text} (h : f.Form n w) :
    ∀ c ∈ w, isAsciiDigit c ∨ c = ' ' := by
  intro c hc
  by_cases hf : f = year
  · subst hf
    rw [show w = Text.padded 4 n from h] at hc
    exact .inl ((Text.isNatural_iff.mp (Text.isNatural_padded 4 n)).2 c hc)
  · rcases (form_iff hf).mp h with (rfl | rfl) | ⟨_, _, rfl⟩
    · exact .inl (Text.isAsciiDigit_of_mem_decimal hc)
    · exact .inl ((Text.isNatural_iff.mp (Text.isNatural_padded 2 n)).2 c hc)
    · rcases List.mem_cons.mp hc with hc | hc
      · exact .inr hc
      · exact .inl (Text.isAsciiDigit_of_mem_decimal hc)

theorem digits_or_space {f : Field} (hf : f ≠ year) {slots : List Slot}
    (h : slots ∈ f.spellings) :
    ((slots.length = 1 ∨ slots.length = 2) ∧ ∀ s ∈ slots, s.IsDigit) ∨
      f = day ∧ slots = [.space, .digit 1 9] := by
  have hdigits : ∀ f ∈ all, f ≠ year → ∀ slots ∈ f.spellings.take 4,
      (slots.length = 1 ∨ slots.length = 2) ∧ ∀ s ∈ slots, s.IsDigit := by decide
  rw [← List.take_append_drop 4 f.spellings, List.mem_append] at h
  rcases h with h | h
  · exact .inl (hdigits f f.mem_all hf slots h)
  · cases f with
    | day => exact .inr ⟨rfl, List.mem_singleton.mp h⟩
    | year => cases h
    | month => cases h
    | hour => cases h
    | minute => cases h
    | second => cases h

section Ascii

variable {t : Text} (ht : ∀ c ∈ t, c.toNat < 0x80) {n : Nat} {rest : Text}
include ht

theorem text_of_read?_space (h : Slot.read? 0 [.space, .digit 1 9] t = some (n, rest)) :
    n < 10 ∧ t = ' ' :: Text.decimal n ++ rest := by
  obtain ⟨c, t, d, rfl, hd, htail⟩ := Slot.read?_cons_eq_some_iff.mp h
  simp only [Slot.value?, Option.ite_none_right_eq_some, Option.some.injEq] at hd
  obtain ⟨rfl, rfl⟩ := hd
  have hlength := Slot.length_of_read? htail
  obtain rfl := Slot.text_of_read? (fun c hc => ht c (List.mem_cons_of_mem _ hc)) (by decide)
    (List.cons_ne_nil _ _) htail
  rw [List.length_singleton, Text.padded_one_eq] at hlength ⊢
  rw [List.length_append, Nat.add_right_cancel_iff] at hlength
  exact ⟨Text.length_decimal_le_iff.mp (Nat.le_of_eq hlength), rfl⟩

theorem form_of_mem_readings {f : Field} (h : (n, rest) ∈ f.readings t) :
    ∃ w, t = w ++ rest ∧ f.Form n w := by
  obtain ⟨slots, hslots, hread⟩ := List.mem_filterMap.mp h
  by_cases hf : f = year
  · subst hf
    obtain rfl := List.mem_singleton.mp hslots
    exact ⟨_, Slot.text_of_read? ht (by decide) (List.cons_ne_nil _ _) hread, rfl⟩
  · simp only [form_iff hf]
    rcases digits_or_space hf hslots with ⟨hlength, hdigits⟩ | ⟨rfl, rfl⟩
    · have hne : slots ≠ [] := by
        rintro rfl
        rcases hlength with hlength | hlength <;> cases hlength
      refine ⟨_, Slot.text_of_read? ht hdigits hne hread, .inl ?_⟩
      rcases hlength with hlength | hlength
      · rw [hlength]
        exact .inl (Text.padded_one_eq n)
      · rw [hlength]
        exact .inr rfl
    · obtain ⟨hn, heq⟩ := text_of_read?_space ht hread
      exact ⟨_, heq, .inr ⟨rfl, hn, rfl⟩⟩

end Ascii

/-- Whether the text `t` is read as `n` in the preferred way, whatever follows it. -/
def ReadsFirst (f : Field) (t : Text) (n : Nat) : Prop :=
  ∀ rest, (f.readings (t ++ rest)).head? = some (n, rest)

theorem readsFirst_year {n : Nat} (h : n < 10000) : year.ReadsFirst (Text.padded 4 n) n := by
  intro rest
  have hlow (k : Nat) : k % 10 < 10 := Nat.mod_lt _ (by decide)
  have hhigh : n / 10 / 10 / 10 < 10 := by omega
  have hvalue : 10 * (10 * (10 * (10 * 0 + n / 10 / 10 / 10) + n / 10 / 10 % 10) + n / 10 % 10)
      + n % 10 = n := by omega
  rw [Text.padded_four h]
  simp only [readings, spellings, List.cons_append, List.nil_append, List.filterMap_cons,
    List.filterMap_nil, Slot.read?, Slot.value?_anyDigit hhigh, Slot.value?_anyDigit (hlow _),
    Option.bind_eq_bind, Option.bind_some, List.head?_cons, hvalue]

/-- A text that no spelling goes beyond is read on its own, whatever follows it. -/
theorem readsFirst_of_head? {f : Field} {t : Text}
    (hlength : ∀ slots ∈ f.spellings, slots.length ≤ t.length) {n : Nat}
    (h : (f.readings t).head? = some (n, [])) : f.ReadsFirst t n := by
  intro rest
  have hreadings : f.readings (t ++ rest) = (f.readings t).map fun r => (r.1, r.2 ++ rest) := by
    rw [readings, readings, List.map_filterMap]
    exact List.filterMap_congr fun slots hslots => Slot.read?_append (hlength slots hslots) 0 rest
  rw [hreadings, List.head?_map, h]
  rfl

theorem InRange.lt {f : Field} (hf : f ≠ year) {n : Nat} (h : f.InRange n) : n < 100 := by
  cases f with
  | year => exact absurd rfl hf
  | month => exact Nat.lt_of_le_of_lt h.2 (by decide)
  | day => exact Nat.lt_of_le_of_lt h.2 (by decide)
  | hour => exact Nat.lt_of_lt_of_le h (by decide)
  | minute => exact Nat.lt_of_lt_of_le h (by decide)
  | second => exact Nat.lt_of_lt_of_le h (by decide)

theorem length_le_of_mem_spellings {f : Field} (hf : f ≠ year) {slots : List Slot}
    (h : slots ∈ f.spellings) : slots.length ≤ 2 := by
  rcases digits_or_space hf h with ⟨hone | htwo, _⟩ | ⟨_, rfl⟩
  · exact Nat.le_trans (Nat.le_of_eq hone) (by decide)
  · exact Nat.le_of_eq htwo
  · exact Nat.le_refl 2

theorem readsFirst_padded {f : Field} (hf : f ≠ year) {n : Nat} (h : f.InRange n) :
    f.ReadsFirst (Text.padded 2 n) n := by
  have hread : ∀ f ∈ all, f ≠ year → ∀ n < 100, f.InRange n →
      (f.readings (Text.padded 2 n)).head? = some (n, []) := by decide +kernel
  apply readsFirst_of_head?
  · intro slots hslots
    rw [Text.padded_two (h.lt hf)]
    exact length_le_of_mem_spellings hf hslots
  · exact hread f f.mem_all hf n (h.lt hf) h

theorem readsFirst_day_space {n : Nat} (h : 1 ≤ n) (hn : n < 10) :
    day.ReadsFirst (' ' :: Text.decimal n) n := by
  have hread : ∀ n < 10, 1 ≤ n → (day.readings (' ' :: Text.decimal n)).head? = some (n, []) := by
    decide +kernel
  apply readsFirst_of_head?
  · intro slots hslots
    rw [Text.decimal_of_lt_ten hn]
    exact length_le_of_mem_spellings (f := day) (by decide) hslots
  · exact hread n hn h

section Alone

variable {f : Field} (hf : f ≠ year) {n : Nat} (h : f.InRange n) {rest : Text}
  (hrest : rest.head?.any (fun c => (digitValue? c).isSome) = false)

include hf h in
theorem exists_spellings_one (hn : n < 10) :
    ∃ s : Slot, f.spellings.filter (·.length = 1) = [[s]] ∧ s.value? n.digitChar = some n := by
  cases f with
  | year => exact absurd rfl hf
  | month => exact ⟨_, rfl, Slot.value?_digit_of_mem hn ⟨h.1, Nat.le_of_lt_succ hn⟩⟩
  | day => exact ⟨_, rfl, Slot.value?_digit_of_mem hn ⟨h.1, Nat.le_of_lt_succ hn⟩⟩
  | hour => exact ⟨_, rfl, Slot.value?_anyDigit hn⟩
  | minute => exact ⟨_, rfl, Slot.value?_anyDigit hn⟩
  | second => exact ⟨_, rfl, Slot.value?_anyDigit hn⟩

include hf h hrest

theorem readings_digit (hn : n < 10) : f.readings (n.digitChar :: rest) = [(n, rest)] := by
  obtain ⟨s, hone, hs⟩ := exists_spellings_one hf h hn
  have hfilter : f.readings (n.digitChar :: rest) =
      (f.spellings.filter (·.length = 1)).filterMap (Slot.read? 0 · (n.digitChar :: rest)) := by
    rw [readings, List.filterMap_filter]
    apply List.filterMap_congr
    intro slots hslots
    by_cases hlength : slots.length = 1
    · rw [if_pos (decide_eq_true hlength)]
    · rw [if_neg fun h => hlength (of_decide_eq_true h)]
      rcases digits_or_space hf hslots with ⟨htwo, hdigits⟩ | ⟨_, rfl⟩
      · obtain ⟨s, s', rfl⟩ := List.length_eq_two.mp (htwo.resolve_left hlength)
        exact Slot.read?_two_refused (hdigits s' (List.mem_cons_of_mem s List.mem_cons_self)) hrest
      · exact Slot.read?_two_refused (by decide) hrest
  rw [hfilter, hone, List.filterMap_cons, Slot.read?_one hs rest]
  rfl

theorem head?_readings_decimal :
    (f.readings (Text.decimal n ++ rest)).head? = some (n, rest) := by
  by_cases hn : n < 10
  · rw [Text.decimal_of_lt_ten hn, List.singleton_append, readings_digit hf h hrest hn]
    rfl
  · rw [← Text.padded_of_le (k := 0) (Nat.not_lt.mp hn)]
    exact readsFirst_padded hf h rest

end Alone

/-- Every form of a number is read as it first, if no digit follows. -/
theorem head?_readings_of_form {f : Field} {n : Nat} {w : Text} (h : f.InRange n)
    (hw : f.Form n w) {rest : Text}
    (hrest : rest.head?.any (fun c => (digitValue? c).isSome) = false) :
    (f.readings (w ++ rest)).head? = some (n, rest) := by
  by_cases hf : f = year
  · subst hf
    rw [show w = Text.padded 4 n from hw]
    exact readsFirst_year h rest
  · rcases (form_iff hf).mp hw with (rfl | rfl) | ⟨rfl, hn, rfl⟩
    · exact head?_readings_decimal hf h hrest
    · exact readsFirst_padded hf h rest
    · exact readsFirst_day_space h.1 hn rest

/-- As many digits as a number without blanks may have in the field. -/
def Fits (w : Text) : Field → Prop
  | year => w.length = 4
  | _ => w.length ≤ 2

instance (w : Text) : DecidablePred (Fits w)
  | year => inferInstanceAs (Decidable (w.length = 4))
  | month => inferInstanceAs (Decidable (w.length ≤ 2))
  | day => inferInstanceAs (Decidable (w.length ≤ 2))
  | hour => inferInstanceAs (Decidable (w.length ≤ 2))
  | minute => inferInstanceAs (Decidable (w.length ≤ 2))
  | second => inferInstanceAs (Decidable (w.length ≤ 2))

theorem fits_iff {f : Field} (hf : f ≠ year) {w : Text} : f.Fits w ↔ w.length ≤ 2 := by
  cases f with
  | year => exact absurd rfl hf
  | _ => exact Iff.rfl

theorem form_iff_of_isNatural {f : Field} {n : Nat} {w : Text} (h : f.InRange n)
    (hw : w.isNatural) : f.Form n w ↔ f.Fits w ∧ w.value = n := by
  have hpadded := Text.padded_value hw
  by_cases hf : f = year
  · subst hf
    show w = Text.padded 4 n ↔ w.length = 4 ∧ w.value = n
    constructor
    · rintro rfl
      exact ⟨Text.length_padded (k := 3) h, Text.value_padded 4 n⟩
    · rintro ⟨hlength, rfl⟩
      rw [hlength] at hpadded
      exact hpadded.symm
  · have hlt := h.lt hf
    have hpos := List.length_pos_iff.mpr (Text.isNatural_iff.mp hw).1
    rw [form_iff hf, fits_iff hf]
    constructor
    · rintro ((rfl | rfl) | ⟨_, _, rfl⟩)
      · exact ⟨Text.length_decimal_le_iff.mpr hlt, Text.value_decimal n⟩
      · exact ⟨Nat.le_of_eq (Text.length_padded (k := 1) hlt), Text.value_padded 2 n⟩
      · cases hw
    · rintro ⟨hlength, rfl⟩
      left
      by_cases hone : w.length = 1
      · rw [hone, Text.padded_one_eq] at hpadded
        exact .inl hpadded.symm
      · rw [show w.length = 2 by omega] at hpadded
        exact .inr hpadded.symm

end Field

end TimePhrase
