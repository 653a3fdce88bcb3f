import Mathlib.Data.List.SplitBy
import TimePhrase.Proofs.Phrase.Runs

namespace TimePhrase

def isAsciiAlnum (c : Char) : Bool := ('A' ≤ c && c ≤ 'Z') || isWordChar c

/-- The rows of ASCII letters and digits, each at its longest, and the other characters alone. -/
def Text.tokens (t : Text) : List Text := t.splitBy fun a b => isAsciiAlnum a && isAsciiAlnum b

/-- The word that a token stands for, which is the token itself unless it is a variant. -/
def Synonym.wordFor (synonyms : List Synonym) (w : Text) : Text :=
  (synonyms.find? (·.variants.contains w)).elim w (·.word)

theorem isAsciiAlnum_of_isWordChar {c : Char} (h : isWordChar c) : isAsciiAlnum c = true := by
  rw [isAsciiAlnum, h, Bool.or_true]

theorem isAsciiAlnum_of_isSettled {c : Char} (h : IsSettled c) :
    isAsciiAlnum c = isWordChar c := by
  have hmoved : ∀ n < 26, lowerChar (Char.ofNat (0x41 + n)) ≠ Char.ofNat (0x41 + n) := by
    decide +kernel
  have hcapital : ('A' ≤ c && c ≤ 'Z') = false := by
    rw [Bool.eq_false_iff]
    intro hc
    rw [Bool.and_eq_true, decide_eq_true_iff, decide_eq_true_iff] at hc
    have hlow : 0x41 ≤ c.toNat := hc.1
    have hhigh : c.toNat ≤ 0x5A := hc.2
    have hcode : 0x41 + (c.toNat - 0x41) = c.toNat := Nat.add_sub_cancel' hlow
    have hne := hmoved (c.toNat - 0x41) (by omega)
    rw [hcode, Char.ofNat_toNat] at hne
    exact hne h.lower_eq
  rw [isAsciiAlnum, hcapital, Bool.false_or]

namespace Text

theorem tokens_cut {c : Char} (hc : isAsciiAlnum c = false) (t rest : Text) :
    tokens (t ++ c :: rest) = t.tokens ++ [c] :: rest.tokens := by
  have hfirst : tokens (t ++ c :: rest) = t.tokens ++ tokens (c :: rest) := by
    apply List.splitBy_append_cons
    intro a _
    rw [hc, Bool.and_false]
  have hlast : tokens ([c] ++ rest) = tokens [c] ++ rest.tokens := by
    apply List.splitBy_append
    intro a ha b _
    obtain rfl : c = a := Option.some.inj ha
    rw [hc, Bool.false_and]
  rw [hfirst]
  exact congrArg (t.tokens ++ ·) hlast

section Run

variable {w : Text} (hw : ∀ c ∈ w, isAsciiAlnum c)
include hw

theorem tokens_run (hne : w ≠ []) : w.tokens = [w] := by
  apply List.splitBy_of_isChain hne
  apply List.Pairwise.isChain
  apply List.pairwise_of_forall_mem_list
  intro a ha b hb
  rw [hw a ha, hw b hb]
  rfl

theorem flatMap_tokens_run {f : Text → Text} (hnil : f [] = []) : w.tokens.flatMap f = f w := by
  by_cases hne : w = []
  · subst hne
    exact hnil.symm
  · rw [tokens_run hw hne]
    exact List.append_nil (f w)

end Run

end Text

namespace Synonym

theorem wordFor_eq_self {synonyms : List Synonym} {w : Text}
    (h : ∀ s ∈ synonyms, w ∉ s.variants) : wordFor synonyms w = w := by
  have hnone : synonyms.find? (·.variants.contains w) = none := by
    rw [List.find?_eq_none]
    exact fun s hs hw => h s hs (List.contains_iff_mem.mp hw)
  rw [wordFor, hnone]
  rfl

section Table

variable {synonyms : List Synonym} (hs : ∀ s ∈ synonyms, s ∈ table)
include hs

/-- No variant stands for two words. -/
theorem wordFor_of_mem {s : Synonym} (h : s ∈ synonyms) {w : Text} (hw : w ∈ s.variants) :
    wordFor synonyms w = s.word := by
  have hdistinct : ∀ s ∈ table, ∀ s' ∈ table, ∀ v ∈ s.variants, v ∈ s'.variants →
      s'.word = s.word := by decide
  cases hfound : synonyms.find? (·.variants.contains w) with
  | none => exact absurd (List.contains_iff_mem.mpr hw) (List.find?_eq_none.mp hfound s h)
  | some s' =>
    have hmem := List.mem_of_find?_eq_some hfound
    have hvariant := List.find?_some hfound
    rw [wordFor, hfound]
    exact hdistinct s (hs s h) s' (hs s' hmem) w hw (List.contains_iff_mem.mp hvariant)

/-- One substitution after another finds the word, since no word is itself a variant. -/
theorem foldl_substitute (w : Text) :
    synonyms.foldl (fun w s => s.substitute w) w = wordFor synonyms w := by
  have hword : ∀ s ∈ table, ∀ s' ∈ table, s.word ∉ s'.variants := by decide
  induction synonyms generalizing w with
  | nil => rfl
  | cons s rest ih =>
    have hrest (s' : Synonym) (h : s' ∈ rest) : s' ∈ table := hs s' (List.mem_cons_of_mem s h)
    have hfirst := hs s List.mem_cons_self
    rw [List.foldl_cons, ih hrest]
    by_cases hw : w ∈ s.variants
    · rw [substitute_of_mem hw, wordFor_of_mem hs List.mem_cons_self hw]
      exact wordFor_eq_self fun s' h => hword s hfirst s' (hrest s' h)
    · rw [substitute_eq_self hw, wordFor, wordFor, List.find?_cons_of_neg]
      exact fun h => hw (List.contains_iff_mem.mp h)

theorem wordFor_of_not_isWord {w : Text} (hw : ¬ w.IsWord) : wordFor synonyms w = w := by
  apply wordFor_eq_self
  exact fun s h hvariant => hw ((proper_of_mem_table (hs s h)).variants w hvariant)

theorem replaceAll_eq_flatMap {t : Text} (ht : ∀ c ∈ t, isAsciiAlnum c = isWordChar c) :
    replaceAll synonyms t = t.tokens.flatMap (wordFor synonyms) := by
  have hproper (s : Synonym) (h : s ∈ synonyms) : s.Proper := proper_of_mem_table (hs s h)
  have hnil : wordFor synonyms [] = [] := wordFor_of_not_isWord hs fun h => h.1 rfl
  have hrun {w : Text} (hw : ∀ c ∈ w, isWordChar c) :
      w.tokens.flatMap (wordFor synonyms) = wordFor synonyms w :=
    Text.flatMap_tokens_run (fun c hc => isAsciiAlnum_of_isWordChar (hw c hc)) hnil
  induction t using Text.run_induction with
  | run w hw => rw [replaceAll_run hproper hw, foldl_substitute hs, hrun hw]
  | cut w c rest hw hc ih =>
    have hcut : isAsciiAlnum c = false := by
      rw [ht c (List.mem_append_right w List.mem_cons_self), hc]
    have hchar : wordFor synonyms [c] = [c] := by
      apply wordFor_of_not_isWord hs
      intro h
      rw [h.2 c List.mem_cons_self] at hc
      cases hc
    have hrest (d : Char) (hd : d ∈ rest) : isAsciiAlnum d = isWordChar d :=
      ht d (List.mem_append_right w (List.mem_cons_of_mem c hd))
    rw [replaceAll_cut hproper hw hc, foldl_substitute hs, ih hrest, Text.tokens_cut hcut,
      List.flatMap_append, hrun hw, List.flatMap_cons, hchar]
    rfl

end Table

theorem wordFor_of_perm {synonyms : List Synonym} (h : synonyms.Perm table) (w : Text) :
    wordFor synonyms w = wordFor table w := by
  have hs (s : Synonym) (hmem : s ∈ synonyms) : s ∈ table := h.mem_iff.mp hmem
  by_cases hw : ∃ s ∈ table, w ∈ s.variants
  · obtain ⟨s, hmem, hvariant⟩ := hw
    rw [wordFor_of_mem hs (h.mem_iff.mpr hmem) hvariant,
      wordFor_of_mem (fun _ h => h) hmem hvariant]
  · have hnone (s : Synonym) (hmem : s ∈ table) : w ∉ s.variants :=
      fun hvariant => hw ⟨s, hmem, hvariant⟩
    rw [wordFor_eq_self fun s hmem => hnone s (hs s hmem), wordFor_eq_self hnone]

end Synonym

namespace Text

/-- Synonyms are replaced token by token, in whatever order their table comes. -/
theorem plainWords_eq_flatMap_tokens (t : Text) :
    t.plainWords = t.lower.tokens.flatMap (Synonym.wordFor Synonym.table) ∧
    (∀ synonyms, synonyms.Perm Synonym.table →
      Synonym.replaceAll synonyms t.lower = t.plainWords) ∧
    ∀ w, Synonym.wordFor Synonym.table w ≠ w ↔ ∃ s ∈ Synonym.table, w ∈ s.variants := by
  have hlower (c : Char) (hc : c ∈ t.lower) : isAsciiAlnum c = isWordChar c :=
    isAsciiAlnum_of_isSettled (isSettled_of_mem_lowerFrom hc)
  have hplain : t.plainWords = t.lower.tokens.flatMap (Synonym.wordFor Synonym.table) :=
    Synonym.replaceAll_eq_flatMap (fun _ h => h) hlower
  refine ⟨hplain, ?_, ?_⟩
  · intro synonyms hperm
    have hword := funext (Synonym.wordFor_of_perm hperm)
    rw [Synonym.replaceAll_eq_flatMap (fun s h => hperm.mem_iff.mp h) hlower, hword, hplain]
  · have hother : ∀ s ∈ Synonym.table, s.word ∉ s.variants := by decide
    intro w
    constructor
    · intro hne
      by_contra hnone
      exact hne (Synonym.wordFor_eq_self fun s hs hw => hnone ⟨s, hs, hw⟩)
    · rintro ⟨s, hs, hw⟩ hself
      rw [Synonym.wordFor_of_mem (fun _ h => h) hs hw] at hself
      rw [← hself] at hw
      exact hother s hs hw

theorem plainWords_past_weeks : Synonym.table.reverse.Perm Synonym.table ∧
    Synonym.replaceAll Synonym.table.reverse (lower "Past_wee\u212As, mondays".toList) =
      "last_week, mondays".toList := by
  have hperm := List.reverse_perm Synonym.table
  have horder := (plainWords_eq_flatMap_tokens "Past_wee\u212As, mondays".toList).2.1 _ hperm
  exact ⟨hperm, horder.trans (by decide +kernel)⟩

end Text

end TimePhrase
