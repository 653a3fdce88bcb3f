import Mathlib.Algebra.Group.Nat.Defs
import TimePhrase.Text.Basic

namespace TimePhrase

theorem toNat_digitChar {d : Nat} (h : d < 10) : d.digitChar.toNat = '0'.toNat + d := by
  revert d
  decide

namespace Text

theorem decimal_of_lt_ten {n : Nat} (h : n < 10) : decimal n = [n.digitChar] :=
  Nat.toDigits_of_lt_base h

theorem decimal_of_ten_le {n : Nat} (h : 10 ≤ n) :
    decimal n = decimal (n / 10) ++ [(n % 10).digitChar] :=
  Nat.toDigits_of_base_le (by decide) h

theorem padded_one_eq (n : Nat) : padded 1 n = decimal n := by
  have hpos : 1 ≤ (decimal n).length := List.length_pos_iff.mpr Nat.toDigits_ne_nil
  rw [padded, List.leftpad, Nat.sub_eq_zero_of_le hpos]
  rfl

theorem padded_one {n : Nat} (h : n < 10) : padded 1 n = [n.digitChar] := by
  rw [padded_one_eq, decimal_of_lt_ten h]

theorem padded_succ {width : Nat} (hw : 0 < width) (n : Nat) :
    padded (width + 1) n = padded width (n / 10) ++ [(n % 10).digitChar] := by
  by_cases h : n < 10
  · have hdiv : n / 10 = 0 := Nat.div_eq_of_lt h
    have hmod : n % 10 = n := Nat.mod_eq_of_lt h
    rw [padded, padded, hdiv, hmod, decimal_of_lt_ten h, decimal_of_lt_ten (by decide : 0 < 10)]
    obtain ⟨w, rfl⟩ : ∃ w, width = w + 1 := ⟨width - 1, by omega⟩
    simp only [List.leftpad, List.length_singleton, Nat.add_sub_cancel, List.replicate_succ']
    rfl
  · rw [padded, padded, decimal_of_ten_le (Nat.not_lt.mp h)]
    simp only [List.leftpad, List.length_append, List.length_singleton, Nat.add_sub_add_right,
      List.append_assoc]

theorem padded_two {n : Nat} (h : n < 100) :
    padded 2 n = [(n / 10).digitChar, (n % 10).digitChar] := by
  rw [padded_succ (by decide), padded_one (by omega)]
  rfl

theorem padded_four {n : Nat} (h : n < 10000) :
    padded 4 n = [(n / 10 / 10 / 10).digitChar, (n / 10 / 10 % 10).digitChar,
      (n / 10 % 10).digitChar, (n % 10).digitChar] := by
  rw [padded_succ (by decide), padded_succ (by decide), padded_two (by omega)]
  rfl

theorem length_decimal_le_iff {n k : Nat} : (decimal n).length ≤ k + 1 ↔ n < 10 ^ (k + 1) := by
  induction k generalizing n with
  | zero =>
    by_cases h : n < 10
    · rw [decimal_of_lt_ten h]
      exact iff_of_true (Nat.le_refl 1) h
    · have hne := List.length_pos_iff.mpr (Nat.toDigits_ne_nil (b := 10) (n := n / 10))
      rw [decimal_of_ten_le (Nat.not_lt.mp h), List.length_append, List.length_singleton]
      exact iff_of_false (by rw [decimal]; omega) h
  | succ k ih =>
    by_cases h : n < 10
    · rw [decimal_of_lt_ten h]
      refine iff_of_true (Nat.le_add_left 1 _) (Nat.lt_of_lt_of_le h ?_)
      exact Nat.pow_le_pow_right (n := 10) (by decide) (Nat.le_add_left 1 _)
    · rw [decimal_of_ten_le (Nat.not_lt.mp h), List.length_append, List.length_singleton,
        Nat.add_le_add_iff_right, ih, Nat.div_lt_iff_lt_mul (by decide), ← Nat.pow_succ]

theorem length_padded {n k : Nat} (h : n < 10 ^ (k + 1)) : (padded (k + 1) n).length = k + 1 := by
  rw [padded, List.length_leftpad, Nat.max_eq_left (length_decimal_le_iff.mpr h)]

theorem padded_of_le {n k : Nat} (h : 10 ^ (k + 1) ≤ n) : padded (k + 2) n = decimal n := by
  have hlength : k + 2 ≤ (decimal n).length := by
    refine Nat.lt_of_not_le fun hle => ?_
    exact absurd (length_decimal_le_iff.mp hle) (Nat.not_lt.mpr h)
  rw [padded, List.leftpad, Nat.sub_eq_zero_of_le hlength]
  rfl

/-- The number that a run of ASCII digits spells. -/
def value (digits : Text) : Nat := ofDigits (digits.map fun c => c.toNat - '0'.toNat)

/-- ASCII digits, after a minus sign or without one, spell an integer. -/
inductive Spells : Text → Int → Prop
  | plain {digits : Text} (h : digits.isNatural) : Spells digits (digits.value : Int)
  | negated {digits : Text} (h : digits.isNatural) : Spells ('-' :: digits) (-(digits.value : Int))

theorem isNatural_iff {t : Text} : t.isNatural ↔ t ≠ [] ∧ ∀ c ∈ t, isAsciiDigit c := by
  cases t with
  | nil => exact ⟨nofun, fun h => absurd rfl h.1⟩
  | cons c rest =>
    rw [isNatural, Bool.and_eq_true, List.all_eq_true]
    exact ⟨fun h => ⟨nofun, h.2⟩, fun h => ⟨rfl, h.2⟩⟩

theorem integer_of_isNatural {t : Text} (h : t.isNatural) :
    t.isInteger = true ∧ t.integer = (t.natural).map Int.ofNat := by
  cases t with
  | nil => cases h
  | cons c rest =>
    by_cases hc : c = '-'
    · subst hc
      cases h
    · have hinteger : isInteger (c :: rest) = isNatural (c :: rest) := by
        rw [isInteger.eq_def]
        split
        · rename_i heq
          cases heq
          exact absurd rfl hc
        · rfl
      refine ⟨hinteger.trans h, ?_⟩
      rw [integer.eq_def]
      split
      · rename_i heq
        cases heq
        exact absurd rfl hc
      · cases natural (c :: rest) <;> rfl

theorem natural_eq {t : Text} (h : t.length ≤ maxDigits) : t.natural = .ok t.value := if_pos h

theorem natural_too_long {t : Text} (h : maxDigits < t.length) :
    t.natural = .error .numeralTooLong := if_neg (Nat.not_le.mpr h)

theorem natural_eq_error_iff {t : Text} {f : Fault} :
    t.natural = .error f ↔ f = .numeralTooLong ∧ maxDigits < t.length := by
  rcases Nat.lt_or_ge maxDigits t.length with hlong | hshort
  · rw [natural_too_long hlong, Except.error.injEq]
    exact ⟨fun h => ⟨h.symm, hlong⟩, fun h => h.1.symm⟩
  · rw [natural_eq hshort]
    exact ⟨nofun, fun h => absurd h.2 (Nat.not_lt.mpr hshort)⟩

theorem length_le_countP {t : Text} (h : t.isNatural) : t.length = t.countP isAsciiDigit :=
  (List.countP_eq_length.mpr (isNatural_iff.mp h).2).symm

theorem countP_negated {digits : Text} (h : digits.isNatural) :
    ('-' :: digits).countP isAsciiDigit = digits.length := by
  rw [length_le_countP h]
  rfl

theorem Spells.integer?_eq {t : Text} {n : Int} (h : Spells t n)
    (hdigits : t.countP isAsciiDigit ≤ maxDigits) : t.integer? = .ok (some n) := by
  cases h with
  | plain hnat =>
    obtain ⟨hinteger, hread⟩ := integer_of_isNatural hnat
    rw [← length_le_countP hnat] at hdigits
    rw [integer?, if_pos hinteger, hread, natural_eq hdigits]
    rfl
  | @negated digits hnat =>
    rw [countP_negated hnat] at hdigits
    rw [integer?, if_pos (show isInteger ('-' :: digits) = true from hnat), integer,
      natural_eq hdigits]
    rfl

theorem Spells.integer?_too_long {t : Text} {n : Int} (h : Spells t n)
    (hdigits : maxDigits < t.countP isAsciiDigit) : t.integer? = .error .numeralTooLong := by
  cases h with
  | plain hnat =>
    obtain ⟨hinteger, hread⟩ := integer_of_isNatural hnat
    rw [← length_le_countP hnat] at hdigits
    rw [integer?, if_pos hinteger, hread, natural_too_long hdigits]
    rfl
  | @negated digits hnat =>
    rw [countP_negated hnat] at hdigits
    rw [integer?, if_pos (show isInteger ('-' :: digits) = true from hnat), integer,
      natural_too_long hdigits]
    rfl

theorem not_spells_of_mem {t : Text} {c : Char} (hc : c ∈ t) (hdigit : isAsciiDigit c = false)
    (hsign : c ≠ '-') (n : Int) : ¬ Spells t n := by
  intro h
  cases h with
  | plain h =>
    rw [(isNatural_iff.mp h).2 c hc] at hdigit
    cases hdigit
  | negated h =>
    rw [(isNatural_iff.mp h).2 c ((List.mem_cons.mp hc).resolve_left hsign)] at hdigit
    cases hdigit

theorem integer?_eq_none {t : Text} (h : ∀ n, ¬ Spells t n) : t.integer? = .ok none := by
  rw [integer?, if_neg]
  · rfl
  · intro hinteger
    rw [isInteger.eq_def] at hinteger
    split at hinteger
    · exact h _ (.negated hinteger)
    · exact h _ (.plain hinteger)

theorem integer?_eq_error_iff {t : Text} {f : Fault} : t.integer? = .error f ↔
    f = .numeralTooLong ∧ (∃ n, Spells t n) ∧ maxDigits < t.countP isAsciiDigit := by
  by_cases ht : ∃ n, Spells t n
  · obtain ⟨n, hn⟩ := ht
    rcases Nat.lt_or_ge maxDigits (t.countP isAsciiDigit) with hlong | hshort
    · rw [hn.integer?_too_long hlong, Except.error.injEq]
      exact ⟨fun h => ⟨h.symm, ⟨n, hn⟩, hlong⟩, fun h => h.1.symm⟩
    · rw [hn.integer?_eq hshort]
      exact ⟨nofun, fun h => absurd h.2.2 (Nat.not_lt.mpr hshort)⟩
  · rw [integer?_eq_none (not_exists.mp ht)]
    exact ⟨nofun, fun h => absurd h.2.1 ht⟩

theorem isAsciiDigit_of_mem_decimal {n : Nat} {c : Char} (hc : c ∈ decimal n) :
    isAsciiDigit c = true := by
  have hdigit := Nat.isDigit_of_mem_toDigits (by decide) (by decide) hc
  rw [isAsciiDigit, Bool.and_eq_true, decide_eq_true_iff, decide_eq_true_iff]
  rw [Char.isDigit, Bool.and_eq_true, decide_eq_true_iff, decide_eq_true_iff] at hdigit
  exact hdigit

theorem isNatural_decimal (n : Nat) : (decimal n).isNatural :=
  isNatural_iff.mpr ⟨Nat.toDigits_ne_nil, fun _ => isAsciiDigit_of_mem_decimal⟩

theorem isNatural_padded (width n : Nat) : (padded width n).isNatural := by
  obtain ⟨hne, hdigits⟩ := isNatural_iff.mp (isNatural_decimal n)
  rw [padded, List.leftpad, isNatural_iff]
  refine ⟨List.append_ne_nil_of_right_ne_nil _ hne, ?_⟩
  intro c hc
  rcases List.mem_append.mp hc with hc | hc
  · rw [List.eq_of_mem_replicate hc]
    decide
  · exact hdigits c hc

theorem value_decimal (n : Nat) : (decimal n).value = n := by
  have h := Nat.ofDigitChars_ten_toDigits (n := n)
  rw [Nat.ofDigitChars_eq_foldl] at h
  rw [value, ofDigits, List.foldl_map]
  exact h

theorem value_zeros_append (zeros : Nat) (t : Text) :
    value (List.replicate zeros '0' ++ t) = t.value := by
  induction zeros with
  | zero => rfl
  | succ zeros ih => exact ih

theorem value_padded (width n : Nat) : (padded width n).value = n := by
  rw [padded, List.leftpad, value_zeros_append, value_decimal]

theorem value_append_singleton (t : Text) (c : Char) :
    value (t ++ [c]) = 10 * t.value + (c.toNat - '0'.toNat) := by
  rw [value, ofDigits, List.map_append, List.foldl_append]
  rfl

theorem digitChar_of_isAsciiDigit {c : Char} (h : isAsciiDigit c) :
    c.toNat - '0'.toNat < 10 ∧ (c.toNat - '0'.toNat).digitChar = c := by
  rw [isAsciiDigit, Bool.and_eq_true, decide_eq_true_iff, decide_eq_true_iff] at h
  have hlow : '0'.toNat ≤ c.toNat := h.1
  have hhigh : c.toNat ≤ '9'.toNat := h.2
  have hnine : '9'.toNat = '0'.toNat + 9 := rfl
  refine ⟨by omega, ?_⟩
  rw [← Char.toNat_inj, toNat_digitChar (by omega)]
  omega

theorem of_isAsciiDigit {P : Char → Prop} (hP : ∀ d < 10, P d.digitChar) {c : Char}
    (h : isAsciiDigit c) : P c := by
  obtain ⟨hlt, hchar⟩ := digitChar_of_isAsciiDigit h
  rw [← hchar]
  exact hP _ hlt

theorem toNat_lt_of_isAsciiDigit {c : Char} (h : isAsciiDigit c) : c.toNat < 0x80 :=
  of_isAsciiDigit (P := fun c => c.toNat < 0x80) (by decide) h

theorem isBlank_of_isAsciiDigit {c : Char} (h : isAsciiDigit c) : isBlank c = false :=
  of_isAsciiDigit (P := fun c => isBlank c = false) (by decide) h

theorem head?_of_isNatural {t : Text} (h : t.isNatural) (rest : Text) :
    (t ++ rest).head?.any isBlank = false := by
  obtain ⟨hne, hdigits⟩ := isNatural_iff.mp h
  obtain ⟨c, t, rfl⟩ := List.exists_cons_of_ne_nil hne
  exact isBlank_of_isAsciiDigit (hdigits c List.mem_cons_self)

theorem getLast?_of_isNatural {t : Text} (h : t.isNatural) (front : Text) :
    (front ++ t).getLast?.any isBlank = false := by
  obtain ⟨hne, hdigits⟩ := isNatural_iff.mp h
  rw [List.getLast?_append, List.getLast?_eq_some_getLast hne]
  exact isBlank_of_isAsciiDigit (hdigits _ (List.getLast_mem hne))

theorem padded_value {t : Text} (h : t.isNatural) : padded t.length t.value = t := by
  obtain ⟨hne, hdigits⟩ := isNatural_iff.mp h
  obtain ⟨s, c, rfl⟩ : ∃ (s : Text) (c : Char), t = s ++ [c] :=
    ⟨t.dropLast, t.getLast hne, (List.dropLast_concat_getLast hne).symm⟩
  obtain ⟨hlt, hchar⟩ := digitChar_of_isAsciiDigit (hdigits c (List.mem_append_right s (.head _)))
  rw [List.length_append, List.length_singleton, value_append_singleton]
  by_cases hs : s = []
  · subst hs
    rw [show value [] = 0 from rfl, Nat.mul_zero, Nat.zero_add]
    exact (padded_one hlt).trans (congrArg List.singleton hchar)
  · have hnat : s.isNatural := isNatural_iff.mpr ⟨hs, fun d hd =>
      hdigits d (List.mem_append_left _ hd)⟩
    have hdiv : (10 * s.value + (c.toNat - '0'.toNat)) / 10 = s.value := by omega
    have hmod : (10 * s.value + (c.toNat - '0'.toNat)) % 10 = c.toNat - '0'.toNat := by omega
    rw [padded_succ (List.length_pos_iff.mpr hs), hdiv, hmod, padded_value hnat, hchar]
termination_by t.length

theorem decimal_value {t : Text} (h : t.isNatural) (hvalue : 10 ^ (t.length - 1) ≤ t.value) :
    decimal t.value = t := by
  have hpadded := padded_value h
  have hpos := List.length_pos_iff.mpr (isNatural_iff.mp h).1
  cases hlength : t.length - 1 with
  | zero =>
    rw [show t.length = 1 by omega, padded_one_eq] at hpadded
    exact hpadded
  | succ k =>
    rw [hlength] at hvalue
    rw [show t.length = k + 2 by omega, padded_of_le hvalue] at hpadded
    exact hpadded

theorem spells_signed (n : Int) : Spells (signed n) n := by
  cases n with
  | ofNat n =>
    have h := Spells.plain (isNatural_decimal n)
    rw [value_decimal] at h
    exact h
  | negSucc n =>
    have h := Spells.negated (isNatural_decimal (n + 1))
    rw [value_decimal] at h
    exact h

theorem spells_padded (width n : Nat) : Spells (padded width n) n := by
  have h := Spells.plain (isNatural_padded width n)
  rw [value_padded] at h
  exact h

theorem Spells.unique {t : Text} {m n : Int} (hm : Spells t m) (hn : Spells t n) : m = n := by
  cases hm with
  | plain h =>
    cases hn with
    | plain => rfl
    | negated => cases h
  | negated h =>
    cases hn with
    | plain h' => cases h'
    | negated => rfl

theorem signed_injective {m n : Int} (h : signed m = signed n) : m = n := by
  have hm := spells_signed m
  rw [h] at hm
  exact hm.unique (spells_signed n)

end Text

end TimePhrase
