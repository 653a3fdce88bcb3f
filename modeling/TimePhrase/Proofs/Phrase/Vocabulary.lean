import TimePhrase.Proofs.Phrase.LayoutMarks
import TimePhrase.Proofs.Phrase.PlainWords

namespace TimePhrase

/-- The letters in which the words of phrases are written. -/
def isLetter (c : Char) : Bool := 'a' ≤ c && c ≤ 'z'

theorem toNat_of_isLetter {c : Char} (h : isLetter c) : 0x61 ≤ c.toNat ∧ c.toNat ≤ 0x7A := by
  rw [isLetter, Bool.and_eq_true, decide_eq_true_iff, decide_eq_true_iff] at h
  exact h

theorem isWordChar_of_isLetter {c : Char} (h : isLetter c) : isWordChar c = true := by
  rw [isLetter] at h
  rw [isWordChar, h, Bool.true_or]

theorem isLayoutChar_of_isLetter {c : Char} (h : isLetter c) : isLayoutChar c = false := by
  have hc := toNat_of_isLetter h
  have hzeros : ∀ z ∈ digitZeros, z + 10 ≤ 0x61 ∨ 0x7A < z := by decide
  have hdigit : digitValue? c = none := by
    rw [digitValue?, Option.map_eq_none_iff, List.find?_eq_none]
    intro z hz hdigit
    rw [Bool.and_eq_true, decide_eq_true_iff, decide_eq_true_iff] at hdigit
    have := hzeros z hz
    omega
  have hblank := isBlank_of_isWordChar (isWordChar_of_isLetter h)
  have hmark : c ∉ ' ' :: marks := by
    intro hmem
    have hall : (' ' :: marks).all (·.toNat < 0x61) = true := by decide
    have hlow := List.all_eq_true.mp hall c hmem
    rw [decide_eq_true_iff] at hlow
    omega
  rw [List.mem_cons, not_or] at hmark
  have hcontains : marks.contains c = false := by
    rw [Bool.eq_false_iff]
    exact fun hmem => hmark.2 (List.contains_iff_mem.mp hmem)
  rw [isLayoutChar, isFieldChar, hdigit, hblank, hcontains, beq_false_of_ne hmark.1]
  rfl

theorem not_isAsciiDigit_of_isLetter {c : Char} (h : isLetter c) : isAsciiDigit c = false := by
  have hc := toNat_of_isLetter h
  rw [isAsciiDigit, Bool.and_eq_false_iff, decide_eq_false_iff_not, decide_eq_false_iff_not]
  right
  intro hle
  have : c.toNat ≤ 0x39 := hle
  omega

section Letters

variable {p : Text} {c : Char} (hc : c ∈ p) (hletter : isLetter c)
include hc hletter

theorem Layout.read?_of_letter (l : Layout) : l.read? p = none := by
  cases hread : l.read? p with
  | none => rfl
  | some d =>
    have h := (marked_of_read? hread).layoutChar c hc
    rw [isLayoutChar_of_isLetter hletter] at h
    cases h

theorem Text.not_spells_of_letter (n : Int) : ¬ p.Spells n := by
  refine not_spells_of_mem hc (not_isAsciiDigit_of_isLetter hletter) ?_ n
  rintro rfl
  cases hletter

end Letters

namespace FixedPhrase

theorem find?_eq_some_iff {t : Text} {f : FixedPhrase} :
    find? t = some f ↔ f ∈ table ∧ t ∈ f.spellings := by
  have hdistinct : ∀ f ∈ table, ∀ s ∈ f.spellings, find? s = some f := by decide +kernel
  constructor
  · intro h
    have ht := List.find?_some h
    rw [decide_eq_true_iff] at ht
    exact ⟨List.mem_of_find?_eq_some h, ht⟩
  · rintro ⟨hf, ht⟩
    exact hdistinct f hf t ht

theorem mem_allSpellings {t : Text} : t ∈ allSpellings ↔ ∃ f ∈ table, t ∈ f.spellings := by
  rw [allSpellings, List.mem_mergeSort, List.mem_eraseDups, List.mem_flatMap]

theorem letters_of_find? {t : Text} {f : FixedPhrase} (h : find? t = some f) :
    (∃ c ∈ t, isLetter c) ∧ ∀ c ∈ t, isAsciiDigit c = false := by
  have hall : ∀ f ∈ table, ∀ s ∈ f.spellings,
      s.any isLetter = true ∧ s.any isAsciiDigit = false := by decide +kernel
  have ⟨hf, ht⟩ := find?_eq_some_iff.mp h
  obtain ⟨hletter, hdigit⟩ := hall f hf t ht
  refine ⟨List.any_eq_true.mp hletter, ?_⟩
  exact fun c hc => Bool.eq_false_iff.mpr (List.any_eq_false.mp hdigit c hc)

theorem find?_of_digit {t : Text} {c : Char} (hc : c ∈ t) (hdigit : isAsciiDigit c) :
    find? t = none := by
  cases h : find? t with
  | none => rfl
  | some f =>
    rw [(letters_of_find? h).2 c hc] at hdigit
    cases hdigit

theorem find?_of_numeral {t digits : Text} (hpart : digits <:+: t) (hnat : digits.isNatural) :
    find? t = none := by
  obtain ⟨hne, hdigits⟩ := Text.isNatural_iff.mp hnat
  obtain ⟨c, hc⟩ := List.exists_mem_of_ne_nil _ hne
  exact find?_of_digit (hpart.subset hc) (hdigits c hc)

theorem find?_of_spells {t : Text} {n : Int} (hn : t.Spells n) : find? t = none := by
  cases h : find? t with
  | none => rfl
  | some f =>
    obtain ⟨⟨c, hc, hletter⟩, _⟩ := letters_of_find? h
    exact absurd hn (Text.not_spells_of_letter hc hletter n)

theorem find?_of_read? {t : Text} {l : Layout} {c : Civil} (hl : l.read? t = some c) :
    find? t = none := by
  cases h : find? t with
  | none => rfl
  | some f =>
    obtain ⟨⟨c, hc, hletter⟩, _⟩ := letters_of_find? h
    rw [l.read?_of_letter hc hletter] at hl
    cases hl

end FixedPhrase

theorem Direction.mem_all (d : Direction) : d ∈ all := by
  cases d <;> decide

theorem Direction.ofModifier?_eq_some_iff {t : Text} {d : Direction} :
    ofModifier? t = some d ↔ t = d.modifier.toList := by
  constructor
  · intro h
    have ht := List.find?_some h
    rw [decide_eq_true_iff] at ht
    exact ht.symm
  · rintro rfl
    cases d <;> decide

theorem Direction.leading?_of_words {t : Text} {d : Direction} {ws : List Text}
    (h : t.words = d.modifier.toList :: ws) : leading? t = some d := by
  rw [leading?, Text.takeWhile_of_words h]
  exact ofModifier?_eq_some_iff.mpr rfl

theorem Direction.modifier_injective {d d' : Direction}
    (h : d.modifier.toList = d'.modifier.toList) : d = d' := by
  have hd := ofModifier?_eq_some_iff.mpr h
  rw [ofModifier?_eq_some_iff.mpr rfl] at hd
  exact Option.some.inj hd

theorem Direction.ofModifier?_eq_none_iff {t : Text} :
    ofModifier? t = none ↔ ∀ d : Direction, t ≠ d.modifier.toList := by
  rw [← Option.not_isSome_iff_eq_none, Option.isSome_iff_exists, not_exists]
  exact forall_congr' fun d => not_congr ofModifier?_eq_some_iff

theorem TimeUnit.mem_all (u : TimeUnit) : u ∈ all := by
  cases u <;> decide

theorem TimeUnit.ofName?_eq_some_iff {t : Text} {u : TimeUnit} :
    ofName? t = some u ↔ t = u.name.toList := by
  constructor
  · intro h
    have ht := List.find?_some h
    rw [decide_eq_true_iff] at ht
    exact ht.symm
  · rintro rfl
    cases u <;> decide

theorem TimeUnit.name_injective {u u' : TimeUnit} (h : u.name.toList = u'.name.toList) :
    u = u' := by
  have hu := ofName?_eq_some_iff.mpr h
  rw [ofName?_eq_some_iff.mpr rfl] at hu
  exact Option.some.inj hu

theorem TimeUnit.ofName?_eq_none_iff {t : Text} :
    ofName? t = none ↔ ∀ u : TimeUnit, t ≠ u.name.toList := by
  rw [← Option.not_isSome_iff_eq_none, Option.isSome_iff_exists, not_exists]
  exact forall_congr' fun u => not_congr ofName?_eq_some_iff

end TimePhrase
