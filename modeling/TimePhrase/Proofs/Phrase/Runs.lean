import TimePhrase.Proofs.Phrase.PlainWords

namespace TimePhrase

namespace Text

theorem exists_blanks_strip (t : Text) : ∃ before after : Text,
    t = before ++ (t.strip ++ after.reverse) ∧
      (∀ c ∈ before, isBlank c) ∧ ∀ c ∈ after, isBlank c := by
  have hmem (l : Text) : ∀ c ∈ l.takeWhile isBlank, isBlank c :=
    List.all_eq_true.mp List.all_takeWhile
  have hfirst := List.takeWhile_append_dropWhile (p := isBlank) (l := t)
  have hlast := List.takeWhile_append_dropWhile (p := isBlank) (l := (t.dropWhile isBlank).reverse)
  refine ⟨_, (t.dropWhile isBlank).reverse.takeWhile isBlank, ?_, hmem t, hmem _⟩
  rw [strip, ← List.reverse_append, hlast, List.reverse_reverse, hfirst]

/-- What survives the removal of a blank from either end holds of the stripped text. -/
theorem strip_of_blanks {P : Text → Prop} (first : ∀ c t, isBlank c → P (c :: t) → P t)
    (last : ∀ c t, isBlank c → P (t ++ [c]) → P t) {t : Text} (h : P t) : P t.strip := by
  have hfirst {before rest : Text} (hbefore : ∀ c ∈ before, isBlank c)
      (h : P (before ++ rest)) : P rest := by
    induction before with
    | nil => exact h
    | cons c before ih =>
      have hc := hbefore c List.mem_cons_self
      exact ih (fun d hd => hbefore d (List.mem_cons_of_mem c hd)) (first c _ hc h)
  have hlast {after rest : Text} (hafter : ∀ c ∈ after, isBlank c)
      (h : P (rest ++ after.reverse)) : P rest := by
    induction after with
    | nil => rwa [List.reverse_nil, List.append_nil] at h
    | cons c after ih =>
      rw [List.reverse_cons, ← List.append_assoc] at h
      have hc := hafter c List.mem_cons_self
      exact ih (fun d hd => hafter d (List.mem_cons_of_mem c hd)) (last c _ hc h)
  obtain ⟨before, after, heq, hbefore, hafter⟩ := t.exists_blanks_strip
  rw [heq] at h
  exact hlast hafter (hfirst hbefore h)

theorem strip_strip (t : Text) : t.strip.strip = t.strip := by
  have hdrop (l : Text) : (l.dropWhile isBlank).head?.any isBlank = false := by
    have h := List.head?_dropWhile_not isBlank l
    cases hhead : (l.dropWhile isBlank).head? with
    | none => rfl
    | some c =>
      rw [hhead] at h
      exact h
  apply strip_eq_self
  · have hsuffix := List.dropWhile_suffix isBlank (l := (t.dropWhile isBlank).reverse)
    have hprefix := List.reverse_prefix.mpr hsuffix
    rw [List.reverse_reverse] at hprefix
    have hhead := hdrop t
    rw [strip]
    cases hs : ((t.dropWhile isBlank).reverse.dropWhile isBlank).reverse with
    | nil => rfl
    | cons c rest =>
      rw [hs] at hprefix
      obtain ⟨tail, htail⟩ := hprefix
      rw [← htail] at hhead
      exact hhead
  · rw [strip, List.getLast?_reverse]
    exact hdrop _

section Words

variable {w : Text} (hne : w ≠ []) (hw : ∀ c ∈ w, isBlank c = false)
include hne hw

theorem mem_words_of_blank_first {c : Char} (hc : isBlank c) {t : Text} (h : w ∈ words (c :: t)) :
    w ∈ t.words := by
  by_cases hspace : c = ' '
  · subst hspace
    exact (List.mem_cons.mp h).resolve_left hne
  · rw [words_cons hspace] at h
    obtain ⟨v, vs, hv⟩ := List.exists_cons_of_ne_nil (words_ne_nil t)
    rw [hv] at h ⊢
    rcases List.mem_cons.mp h with rfl | h
    · have hblank := hw c List.mem_cons_self
      rw [hc] at hblank
      cases hblank
    · exact List.mem_cons_of_mem v h

omit hne hw in
theorem words_append_singleton {c : Char} (hc : c ≠ ' ') (t : Text) :
    ∃ ws v, t.words = ws ++ [v] ∧ words (t ++ [c]) = ws ++ [v ++ [c]] := by
  induction t with
  | nil => exact ⟨[], [], rfl, words_cons hc []⟩
  | cons d t ih =>
    obtain ⟨ws, v, hwords, hlonger⟩ := ih
    by_cases hd : d = ' '
    · subst hd
      refine ⟨[] :: ws, v, ?_, ?_⟩
      · rw [words_space, hwords, List.cons_append]
      · rw [List.cons_append, words_space, hlonger, List.cons_append]
    · rw [List.cons_append, words_cons hd, words_cons hd, hwords, hlonger]
      cases ws with
      | nil => exact ⟨[], d :: v, rfl, rfl⟩
      | cons u ws => exact ⟨(d :: u) :: ws, v, rfl, rfl⟩

theorem mem_words_of_blank_last {c : Char} (hc : isBlank c) {t : Text}
    (h : w ∈ words (t ++ [c])) : w ∈ t.words := by
  by_cases hspace : c = ' '
  · subst hspace
    rw [words_append_space, List.mem_append] at h
    exact h.resolve_right fun hnil => hne (List.mem_singleton.mp hnil)
  · obtain ⟨ws, v, hwords, hlonger⟩ := words_append_singleton hspace t
    rw [hlonger, List.mem_append, List.mem_singleton] at h
    rw [hwords]
    rcases h with h | rfl
    · exact List.mem_append_left _ h
    · have hblank := hw c (List.mem_append_right v List.mem_cons_self)
      rw [hc] at hblank
      cases hblank

theorem mem_words_strip {t : Text} (h : w ∈ t.words) : w ∈ t.strip.words :=
  strip_of_blanks (P := fun t => w ∈ t.words)
    (fun _ _ hc => mem_words_of_blank_first hne hw hc)
    (fun _ _ hc => mem_words_of_blank_last hne hw hc) h

end Words

end Text

theorem isWordChar_of_isBlank {c : Char} (h : isBlank c) : isWordChar c = false := by
  rw [Bool.eq_false_iff]
  intro hword
  rw [isBlank_of_isWordChar hword] at h
  cases h

namespace Text

/-- A text is a run, or a run that another character divides from the rest. -/
theorem run_induction {P : Text → Prop} (run : ∀ w, (∀ c ∈ w, isWordChar c) → P w)
    (cut : ∀ w c rest, (∀ d ∈ w, isWordChar d) → isWordChar c = false → P rest →
      P (w ++ c :: rest)) (t : Text) : P t := by
  have hword : ∀ c ∈ t.takeWhile isWordChar, isWordChar c :=
    List.all_eq_true.mp List.all_takeWhile
  have heq := List.takeWhile_append_dropWhile (p := isWordChar) (l := t)
  have hhead := List.head?_dropWhile_not isWordChar t
  cases hrest : t.dropWhile isWordChar with
  | nil =>
    rw [hrest, List.append_nil] at heq
    rw [← heq]
    exact run _ hword
  | cons c rest =>
    rw [hrest] at heq hhead
    have hcut := cut _ c rest hword hhead (run_induction run cut rest)
    rwa [heq] at hcut
termination_by t.length
decreasing_by
  have hlength := (List.dropWhile_suffix isWordChar (l := t)).length_le
  rw [hrest] at hlength
  exact hlength

end Text

namespace Synonym

section Proper

variable {s : Synonym} (hs : s.Proper)
include hs

theorem substitute_run {w : Text} (hw : ∀ c ∈ w, isWordChar c) :
    ∀ c ∈ s.substitute w, isWordChar c := by
  rw [substitute]
  split
  · exact hs.word.2
  · exact hw

theorem replaceFrom_run {w rest : Text} (hw : ∀ c ∈ w, isWordChar c)
    (hrest : rest.head?.any isWordChar = false) :
    s.replaceFrom 0 false (w ++ rest) = s.substitute w ++ s.replaceFrom 0 false rest := by
  by_cases hne : w = []
  · subst hne
    have hnil : ([] : Text) ∉ s.variants := fun h => (hs.variants [] h).1 rfl
    rw [substitute_eq_self hnil]
    rfl
  · exact replaceFrom_word hs ⟨hne, hw⟩ hrest

theorem replace_run {w : Text} (hw : ∀ c ∈ w, isWordChar c) : s.replace w = s.substitute w := by
  have hrun : s.replaceFrom 0 false (w ++ []) = _ := replaceFrom_run hs hw rfl
  rw [List.append_nil] at hrun
  exact hrun.trans (List.append_nil _)

theorem replace_cut {w : Text} (hw : ∀ c ∈ w, isWordChar c) {c : Char}
    (hc : isWordChar c = false) (rest : Text) :
    s.replace (w ++ c :: rest) = s.substitute w ++ c :: s.replace rest := by
  have hcut : s.replaceFrom 0 false (w ++ c :: rest) = _ := replaceFrom_run hs hw hc
  rw [replaceFrom_nonword hs hc] at hcut
  exact hcut

end Proper

theorem replaceAll_run {synonyms : List Synonym} (hs : ∀ s ∈ synonyms, s.Proper) {w : Text}
    (hw : ∀ c ∈ w, isWordChar c) :
    replaceAll synonyms w = synonyms.foldl (fun w s => s.substitute w) w := by
  induction synonyms generalizing w with
  | nil => rfl
  | cons s rest ih =>
    have hproper := hs s List.mem_cons_self
    have hrest := ih (fun s hs' => hs s (List.mem_cons_of_mem _ hs')) (substitute_run hproper hw)
    rw [← replace_run hproper hw] at hrest
    rw [List.foldl_cons, ← replace_run hproper hw]
    exact hrest

theorem replaceAll_cut {synonyms : List Synonym} (hs : ∀ s ∈ synonyms, s.Proper) {w : Text}
    (hw : ∀ c ∈ w, isWordChar c) {c : Char} (hc : isWordChar c = false) (rest : Text) :
    replaceAll synonyms (w ++ c :: rest) =
      synonyms.foldl (fun w s => s.substitute w) w ++ c :: replaceAll synonyms rest := by
  induction synonyms generalizing w rest with
  | nil => rfl
  | cons s others ih =>
    have hproper := hs s List.mem_cons_self
    have hothers := ih (fun s hs' => hs s (List.mem_cons_of_mem _ hs'))
      (substitute_run hproper hw) (s.replace rest)
    rw [← replace_cut hproper hw hc] at hothers
    exact hothers

theorem substituteAll_run {w : Text} (hw : ∀ c ∈ w, isWordChar c) :
    ∀ c ∈ substituteAll w, isWordChar c := by
  by_cases hne : w = []
  · subst hne
    exact nofun
  · exact (substituteAll_isWord ⟨hne, hw⟩).2

theorem substituteAll_substituteAll (w : Text) :
    substituteAll (substituteAll w) = substituteAll w := by
  have hvariants : ∀ v ∈ table.flatMap (·.variants),
      substituteAll (substituteAll v) = substituteAll v := by decide
  by_cases hw : w ∈ table.flatMap (·.variants)
  · exact hvariants w hw
  · have hself : substituteAll w = w := by
      apply substituteAll_eq_self
      exact fun s hs hv => hw (List.mem_flatMap.mpr ⟨s, hs, hv⟩)
    rw [hself, hself]

section Table

variable {c : Char}

theorem replaceTable_run {w : Text} (hw : ∀ c ∈ w, isWordChar c) :
    replaceAll table w = substituteAll w :=
  replaceAll_run (fun _ => proper_of_mem_table) hw

theorem replaceTable_cut {w : Text} (hw : ∀ c ∈ w, isWordChar c) (hc : isWordChar c = false)
    (rest : Text) :
    replaceAll table (w ++ c :: rest) = substituteAll w ++ c :: replaceAll table rest :=
  replaceAll_cut (fun _ => proper_of_mem_table) hw hc rest

theorem replaceTable_append (hc : isWordChar c = false) (t rest : Text) :
    replaceAll table (t ++ c :: rest) = replaceAll table t ++ c :: replaceAll table rest := by
  induction t using Text.run_induction with
  | run w hw => rw [replaceTable_cut hw hc, replaceTable_run hw]
  | cut w d t hw hd ih =>
    rw [List.append_assoc, List.cons_append, replaceTable_cut hw hd, replaceTable_cut hw hd, ih,
      List.append_assoc, List.cons_append]

theorem replaceTable_replaceTable (t : Text) :
    replaceAll table (replaceAll table t) = replaceAll table t := by
  induction t using Text.run_induction with
  | run w hw =>
    rw [replaceTable_run hw, replaceTable_run (substituteAll_run hw), substituteAll_substituteAll]
  | cut w c rest hw hc ih =>
    rw [replaceTable_cut hw hc, replaceTable_cut (substituteAll_run hw) hc,
      substituteAll_substituteAll, ih]

theorem mem_replaceTable {t : Text} (h : c ∈ replaceAll table t) : c ∈ t ∨ isWordChar c := by
  induction t using Text.run_induction with
  | run w hw =>
    rw [replaceTable_run hw] at h
    exact .inr (substituteAll_run hw c h)
  | cut w d rest hw hd ih =>
    rw [replaceTable_cut hw hd, List.mem_append, List.mem_cons] at h
    rcases h with h | rfl | h
    · exact .inr (substituteAll_run hw c h)
    · exact .inl (List.mem_append_right w List.mem_cons_self)
    · apply (ih h).imp_left
      exact fun hc => List.mem_append_right w (List.mem_cons_of_mem d hc)

end Table

end Synonym

namespace Text

/-- Lower-casing and rewriting synonyms leave the text as it is. -/
structure IsPlain (t : Text) : Prop where
  settled : ∀ c ∈ t, IsSettled c
  replaced : Synonym.replaceAll Synonym.table t = t

theorem IsPlain.plainWords_eq {t : Text} (h : t.IsPlain) : t.plainWords = t := by
  have hlower : t.lower = t := lowerFrom_eq_self_of_settled h.settled false
  rw [plainWords, hlower, h.replaced]

theorem isPlain_plainWords (t : Text) : t.plainWords.IsPlain where
  settled c hc := by
    rcases Synonym.mem_replaceTable hc with hc | hc
    · exact isSettled_of_mem_lowerFrom hc
    · exact (isLower_of_isWordChar hc).isSettled
  replaced := Synonym.replaceTable_replaceTable t.lower

theorem IsPlain.strip {t : Text} (h : t.IsPlain) : t.strip.IsPlain := by
  refine strip_of_blanks ?_ ?_ h
  · intro c t hc h
    have hreplaced := h.replaced
    rw [Synonym.replaceAll_cons (fun s => Synonym.proper_of_mem_table)
      (isWordChar_of_isBlank hc)] at hreplaced
    exact ⟨fun d hd => h.settled d (List.mem_cons_of_mem c hd), List.tail_eq_of_cons_eq hreplaced⟩
  · intro c t hc h
    have hreplaced := h.replaced
    rw [Synonym.replaceTable_append (isWordChar_of_isBlank hc)] at hreplaced
    exact ⟨fun d hd => h.settled d (List.mem_append_left _ hd), List.append_cancel_right hreplaced⟩

theorem phrase_phrase (t : Text) : t.phrase.phrase = t.phrase := by
  have hplain : t.phrase.plainWords = t.phrase := t.isPlain_plainWords.strip.plainWords_eq
  rw [phrase, hplain, phrase, strip_strip]

theorem plainWords_append_space (t rest : Text) :
    plainWords (t ++ ' ' :: rest) = t.plainWords ++ ' ' :: rest.plainWords := by
  rw [plainWords, lower_append_space]
  exact Synonym.replaceTable_append (by decide) t.lower rest.lower

end Text

end TimePhrase
