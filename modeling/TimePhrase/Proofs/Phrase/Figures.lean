import TimePhrase.Proofs.Phrase.Language
import TimePhrase.Proofs.Phrase.Runs

namespace TimePhrase

namespace Text

/-- All characters come before the first letter. -/
def InFigures (t : Text) : Prop := ∀ c ∈ t, c.toNat < 0x41

theorem InFigures.append {t t' : Text} (h : t.InFigures) (h' : t'.InFigures) :
    (t ++ t').InFigures := by
  intro c hc
  exact (List.mem_append.mp hc).elim (h c) (h' c)

theorem InFigures.cons {c : Char} {t : Text} (hc : c.toNat < 0x41) (h : t.InFigures) :
    InFigures (c :: t) :=
  List.forall_mem_cons.mpr ⟨hc, h⟩

theorem InFigures.not_isLetter {t : Text} (h : t.InFigures) {c : Char} (hc : c ∈ t) :
    isLetter c = false := by
  rw [Bool.eq_false_iff]
  intro hletter
  have hlow := h c hc
  have hhigh := toNat_of_isLetter hletter
  omega

theorem inFigures_of_isNatural {t : Text} (h : t.isNatural) : t.InFigures := by
  intro c hc
  have hdigit := (isNatural_iff.mp h).2 c hc
  rw [isAsciiDigit, Bool.and_eq_true, decide_eq_true_iff, decide_eq_true_iff] at hdigit
  exact Nat.lt_of_le_of_lt hdigit.2 (by decide)

end Text

theorem Synonym.replaceTable_of_inFigures {t : Text} (h : t.InFigures) :
    replaceAll table t = t := by
  have hrun {w : Text} (hw : ∀ c ∈ w, isWordChar c) (hfigures : w.InFigures) :
      substituteAll w = w := by
    by_cases hne : w = []
    · subst hne
      rfl
    · refine Text.substituteAll_of_isNatural (Text.isNatural_iff.mpr ⟨hne, ?_⟩)
      intro c hc
      have hchar := hw c hc
      rw [isWordChar, Bool.or_eq_true] at hchar
      refine hchar.resolve_left fun hletter => ?_
      rw [← isLetter, hfigures.not_isLetter hc] at hletter
      cases hletter
  induction t using Text.run_induction with
  | run w hw => rw [replaceTable_run hw, hrun hw h]
  | cut w c rest hw hc ih =>
    have hfirst : w.InFigures := fun d hd => h d (List.mem_append_left _ hd)
    have hlast : rest.InFigures :=
      fun d hd => h d (List.mem_append_right w (List.mem_cons_of_mem c hd))
    rw [replaceTable_cut hw hc, hrun hw hfirst, ih hlast]

namespace Text

section InFigures

variable {t : Text} (h : t.InFigures)
include h

theorem InFigures.isPlain : t.IsPlain where
  settled c hc := IsLower.isSettled (.inl (h c hc))
  replaced := Synonym.replaceTable_of_inFigures h

theorem InFigures.to_not_mem_words : "to".toList ∉ t.words := by
  intro hto
  have hlow := h 't' ((infix_of_mem_words hto).subset List.mem_cons_self)
  exact absurd hlow (by decide)

section Ends

variable (hfirst : t.head?.any isBlank = false) (hlast : t.getLast?.any isBlank = false)
include hfirst hlast

theorem InFigures.phrase_eq : t.phrase = t := by
  rw [phrase, h.isPlain.plainWords_eq, strip_eq_self hfirst hlast]

theorem InFigures.phrases_eq : t.phrases = [t] := by
  have hto := fun hmem => h.to_not_mem_words (List.mem_of_mem_tail hmem)
  rw [phrases, h.isPlain.plainWords_eq, splitAtJoiner_eq_self hto, List.map_singleton,
    strip_eq_self hfirst hlast]

end Ends

theorem InFigures.not_likeRelative (modifier digits unit : Text) :
    ¬ t.LikeRelative modifier digits unit := by
  intro hrelative
  obtain ⟨c, hc, hletter⟩ := hrelative.exists_letter
  rw [h.not_isLetter hc] at hletter
  cases hletter

theorem InFigures.refused (hspells : ∀ n, ¬ t.Spells n) : t.Refused (.unreadable t) :=
  .unreadable h.not_likeRelative fun n hn => absurd hn (hspells n)

theorem InFigures.not_means (hlayout : ∀ l : Layout, l.read? t = none)
    (hspells : ∀ n, ¬ t.Spells n) (now : Moment) (e : Endpoint) : ¬ t.Means now e := by
  intro hmeans
  cases hmeans with
  | fixed hf hp =>
    obtain ⟨⟨c, hc, hletter⟩, _⟩ :=
      FixedPhrase.letters_of_find? (FixedPhrase.find?_eq_some_iff.mpr ⟨hf, hp⟩)
    rw [h.not_isLetter hc] at hletter
    cases hletter
  | relative hdigits _ hp =>
    exact h.not_likeRelative _ _ _ ⟨words_relative hdigits hp, .inl ⟨_, rfl⟩⟩
  | @spelled l _ _ hp =>
    rw [hlayout l] at hp
    cases hp
  | unix hp => exact hspells _ (hp ▸ spells_signed _)

end InFigures

section Numbers

variable {t : Text} {n : Int} (h : t.Spells n)
include h

theorem Spells.inFigures : t.InFigures := by
  cases h with
  | plain h => exact inFigures_of_isNatural h
  | negated h => exact (inFigures_of_isNatural h).cons (by decide)

theorem Spells.head? : t.head?.any isBlank = false := by
  cases h with
  | plain h =>
    have hfirst := head?_of_isNatural h []
    rwa [List.append_nil] at hfirst
  | negated h => rfl

theorem Spells.getLast? : t.getLast?.any isBlank = false := by
  cases h with
  | plain h => exact getLast?_of_isNatural h []
  | negated h => exact getLast?_of_isNatural h ['-']

theorem Spells.phrase_eq : t.phrase = t := h.inFigures.phrase_eq h.head? h.getLast?

theorem Spells.phrases_eq : t.phrases = [t] := h.inFigures.phrases_eq h.head? h.getLast?

end Numbers

theorem phrase_signed (n : Int) : (signed n).phrase = signed n := (spells_signed n).phrase_eq

theorem phrases_signed (n : Int) : (signed n).phrases = [signed n] := (spells_signed n).phrases_eq

end Text

end TimePhrase
