import TimePhrase.Phrase.Reader
import TimePhrase.Proofs.Text.Integers
import TimePhrase.Proofs.Text.Words

namespace TimePhrase

theorem toNat_of_isWordChar {c : Char} (h : isWordChar c) :
    (0x61 ≤ c.toNat ∧ c.toNat ≤ 0x7A) ∨ (0x30 ≤ c.toNat ∧ c.toNat ≤ 0x39) := by
  rw [isWordChar, Bool.or_eq_true, Bool.and_eq_true, Bool.and_eq_true, decide_eq_true_iff,
    decide_eq_true_iff, decide_eq_true_iff, decide_eq_true_iff] at h
  exact h

theorem isLower_of_isWordChar {c : Char} (h : isWordChar c) : Text.IsLower c := by
  have hc := toNat_of_isWordChar h
  rw [Text.IsLower]
  omega

theorem isBlank_of_isWordChar {c : Char} (h : isWordChar c) : isBlank c = false := by
  have hc := toNat_of_isWordChar h
  simp only [isBlank, Bool.or_eq_false_iff, Bool.and_eq_false_iff, decide_eq_false_iff_not,
    beq_eq_false_iff_ne]
  omega

theorem isWordChar_of_isAsciiDigit {c : Char} (h : isAsciiDigit c) : isWordChar c = true := by
  rw [isAsciiDigit] at h
  rw [isWordChar, h, Bool.or_true]

namespace Text

/-- A run of letters and digits. -/
def IsWord (w : Text) : Prop := w ≠ [] ∧ ∀ c ∈ w, isWordChar c

instance (w : Text) : Decidable w.IsWord :=
  decidable_of_iff (w ≠ [] ∧ w.all isWordChar) (and_congr_right fun _ => List.all_eq_true)

theorem IsWord.not_mem_space {w : Text} (h : w.IsWord) : ' ' ∉ w := by
  intro hspace
  exact absurd (h.2 ' ' hspace) (by decide)

theorem isWord_of_isNatural {t : Text} (h : t.isNatural) : t.IsWord :=
  have ⟨hne, hdigits⟩ := isNatural_iff.mp h
  ⟨hne, fun c hc => isWordChar_of_isAsciiDigit (hdigits c hc)⟩

theorem takeWhile_word {w rest : Text} (hw : ∀ c ∈ w, isWordChar c)
    (hrest : rest.head?.any isWordChar = false) : (w ++ rest).takeWhile isWordChar = w := by
  rw [List.takeWhile_append_of_pos hw]
  cases rest with
  | nil => exact List.append_nil w
  | cons c rest =>
    have hc : isWordChar c = false := hrest
    rw [List.takeWhile_cons_of_neg (Bool.eq_false_iff.mp hc)]
    exact List.append_nil w

end Text

namespace Synonym

structure Proper (s : Synonym) : Prop where
  word : s.word.IsWord
  variants : ∀ v ∈ s.variants, v.IsWord

theorem proper_of_mem_table {s : Synonym} (h : s ∈ table) : s.Proper := by
  have hall : ∀ s ∈ table, s.word.IsWord ∧ ∀ v ∈ s.variants, v.IsWord := by decide
  exact ⟨(hall s h).1, (hall s h).2⟩

def substitute (s : Synonym) (w : Text) : Text := if s.variants.contains w then s.word else w

variable {s : Synonym}

theorem substitute_of_mem {w : Text} (h : w ∈ s.variants) : s.substitute w = s.word :=
  if_pos (List.contains_iff_mem.mpr h)

theorem substitute_eq_self {w : Text} (h : w ∉ s.variants) : s.substitute w = w :=
  if_neg (mt List.contains_iff_mem.mp h)

variable (hs : s.Proper)
include hs

theorem substitute_isWord {w : Text} (hw : w.IsWord) : (s.substitute w).IsWord := by
  rw [substitute]
  split
  · exact hs.word
  · exact hw

theorem variantAt?_word {w rest : Text} (hw : ∀ c ∈ w, isWordChar c)
    (hrest : rest.head?.any isWordChar = false) :
    s.variantAt? (w ++ rest) = if w ∈ s.variants then some w else none := by
  have hiff (v : Text) (hv : v ∈ s.variants) :
      (v.isPrefixOf (w ++ rest) && !((w ++ rest).drop v.length).head?.any isWordChar) = true ↔
        v = w := by
    rw [Bool.and_eq_true, Bool.not_eq_true', List.isPrefixOf_iff_prefix]
    constructor
    · rintro ⟨⟨rest', heq⟩, hend⟩
      rw [← heq, List.drop_left] at hend
      rw [← Text.takeWhile_word (hs.variants v hv).2 hend, heq, Text.takeWhile_word hw hrest]
    · rintro rfl
      rw [List.drop_left]
      exact ⟨List.prefix_append v rest, hrest⟩
  rw [variantAt?]
  by_cases hmem : w ∈ s.variants
  · rw [if_pos hmem]
    cases hfound : s.variants.find? _ with
    | none => exact absurd ((hiff w hmem).mpr rfl) (List.find?_eq_none.mp hfound w hmem)
    | some v =>
      have hv := List.find?_some hfound
      rw [(hiff v (List.mem_of_find?_eq_some hfound)).mp hv]
  · rw [if_neg hmem, List.find?_eq_none]
    intro v hv hfound
    rw [(hiff v hv).mp hfound] at hv
    exact hmem hv

omit hs in
theorem replaceFrom_skip {w : Text} (hw : ∀ c ∈ w, isWordChar c) (rest : Text) :
    s.replaceFrom w.length true (w ++ rest) = s.replaceFrom 0 true rest := by
  induction w with
  | nil => rfl
  | cons c w ih =>
    rw [List.length_cons, List.cons_append, replaceFrom, hw c List.mem_cons_self]
    exact ih fun d hd => hw d (List.mem_cons_of_mem c hd)

omit hs in
theorem replaceFrom_inWord {w : Text} (hw : ∀ c ∈ w, isWordChar c) (rest : Text) :
    s.replaceFrom 0 true (w ++ rest) = w ++ s.replaceFrom 0 true rest := by
  induction w with
  | nil => rfl
  | cons c w ih =>
    rw [List.cons_append, replaceFrom, if_pos rfl, hw c List.mem_cons_self]
    exact congrArg (c :: ·) (ih fun d hd => hw d (List.mem_cons_of_mem c hd))

theorem replaceFrom_nonword {c : Char} (hc : isWordChar c = false) (inWord : Bool) (rest : Text) :
    s.replaceFrom 0 inWord (c :: rest) = c :: s.replaceFrom 0 false rest := by
  have hnil : ([] : Text) ∉ s.variants := fun h => (hs.variants [] h).1 rfl
  have hnone : s.variantAt? (c :: rest) = none := by
    have h : s.variantAt? ([] ++ c :: rest) = _ := variantAt?_word hs nofun hc
    rw [if_neg hnil] at h
    exact h
  rw [replaceFrom, hnone, ite_self, hc]

theorem replaceFrom_boundary {rest : Text} (hrest : rest.head?.any isWordChar = false) :
    s.replaceFrom 0 true rest = s.replaceFrom 0 false rest := by
  cases rest with
  | nil => rfl
  | cons c rest => rw [replaceFrom_nonword hs hrest, replaceFrom_nonword hs hrest]

theorem replaceFrom_word {w rest : Text} (hw : w.IsWord)
    (hrest : rest.head?.any isWordChar = false) :
    s.replaceFrom 0 false (w ++ rest) = s.substitute w ++ s.replaceFrom 0 false rest := by
  obtain ⟨hne, hchars⟩ := hw
  obtain ⟨c, w, rfl⟩ := List.exists_cons_of_ne_nil hne
  have hc := hchars c List.mem_cons_self
  have hw (d : Char) (hd : d ∈ w) : isWordChar d = true := hchars d (List.mem_cons_of_mem c hd)
  have hvariant := variantAt?_word hs hchars hrest
  rw [List.cons_append] at hvariant ⊢
  rw [replaceFrom, if_neg Bool.false_ne_true, hvariant, ← replaceFrom_boundary hs hrest, hc]
  by_cases hmem : c :: w ∈ s.variants
  · rw [if_pos hmem, substitute_of_mem hmem, ← replaceFrom_skip hw rest]
    rfl
  · rw [if_neg hmem, substitute_eq_self hmem, List.cons_append, ← replaceFrom_inWord hw rest]

theorem replace_joined {ws : List Text} (h : ∀ w ∈ ws, w.IsWord) :
    s.replace (Text.joined ws) = Text.joined (ws.map s.substitute) := by
  induction ws with
  | nil => rfl
  | cons w rest ih =>
    have hw := h w List.mem_cons_self
    by_cases hrest : rest = []
    · subst hrest
      have hword : s.replaceFrom 0 false (w ++ []) = _ := replaceFrom_word hs hw rfl
      rw [List.append_nil] at hword
      exact hword.trans (List.append_nil _)
    · have hmap : rest.map s.substitute ≠ [] := fun h => hrest (List.map_eq_nil_iff.mp h)
      rw [List.map_cons, Text.joined_cons hrest, Text.joined_cons hmap,
        ← ih fun v hv => h v (List.mem_cons_of_mem w hv), replace, replaceFrom_word hs hw rfl,
        replaceFrom_nonword hs rfl]
      rfl

/-- The word that `w` gives way to after all synonyms. -/
def substituteAll (w : Text) : Text := table.foldl (fun w s => s.substitute w) w

omit hs in
theorem replaceAll_joined {synonyms : List Synonym} (hs : ∀ s ∈ synonyms, s.Proper)
    {ws : List Text} (h : ∀ w ∈ ws, w.IsWord) : replaceAll synonyms (Text.joined ws) =
      Text.joined (ws.map fun w => synonyms.foldl (fun w s => s.substitute w) w) := by
  induction synonyms generalizing ws with
  | nil => exact congrArg Text.joined (List.map_id ws).symm
  | cons s rest ih =>
    have hproper := hs s List.mem_cons_self
    have hwords (v : Text) (hv : v ∈ ws.map s.substitute) : v.IsWord := by
      obtain ⟨w, hw, rfl⟩ := List.mem_map.mp hv
      exact substitute_isWord hproper (h w hw)
    have hrest := ih (fun s hs' => hs s (List.mem_cons_of_mem _ hs')) hwords
    rw [List.map_map, ← replace_joined hproper h] at hrest
    exact hrest

omit hs in
theorem substituteAll_isWord {w : Text} (hw : w.IsWord) : (substituteAll w).IsWord := by
  have hfold {synonyms : List Synonym} (hs : ∀ s ∈ synonyms, s.Proper) {w : Text} (hw : w.IsWord) :
      (synonyms.foldl (fun w s => s.substitute w) w).IsWord := by
    induction synonyms generalizing w with
    | nil => exact hw
    | cons s rest ih =>
      exact ih (fun s hs' => hs s (List.mem_cons_of_mem _ hs'))
        (substitute_isWord (hs s List.mem_cons_self) hw)
  exact hfold (fun s => proper_of_mem_table) hw

omit hs in
theorem substituteAll_eq_self {w : Text} (h : ∀ s ∈ table, w ∉ s.variants) :
    substituteAll w = w := by
  have hfold {synonyms : List Synonym} (hs : ∀ s ∈ synonyms, w ∉ s.variants) :
      synonyms.foldl (fun w s => s.substitute w) w = w := by
    induction synonyms with
    | nil => rfl
    | cons s rest ih =>
      rw [List.foldl_cons, substitute_eq_self (hs s List.mem_cons_self)]
      exact ih fun s hs' => hs s (List.mem_cons_of_mem _ hs')
  exact hfold h

omit hs in
theorem replaceAll_cons {synonyms : List Synonym} (hs : ∀ s ∈ synonyms, s.Proper) {c : Char}
    (hc : isWordChar c = false) (t : Text) :
    replaceAll synonyms (c :: t) = c :: replaceAll synonyms t := by
  induction synonyms generalizing t with
  | nil => rfl
  | cons s rest ih =>
    have hfirst : s.replace (c :: t) = c :: s.replace t :=
      replaceFrom_nonword (hs s List.mem_cons_self) hc false t
    have hrest := ih (fun s hs' => hs s (List.mem_cons_of_mem _ hs')) (s.replace t)
    rw [← hfirst] at hrest
    exact hrest

end Synonym

namespace Text

theorem substituteAll_of_isNatural {t : Text} (h : t.isNatural) : Synonym.substituteAll t = t := by
  have hletter : ∀ s ∈ Synonym.table, ∀ v ∈ s.variants, v.all isAsciiDigit = false := by
    decide
  apply Synonym.substituteAll_eq_self
  intro s hs hmem
  have hnot := hletter s hs t hmem
  rw [List.all_eq_true.mpr (isNatural_iff.mp h).2] at hnot
  cases hnot

theorem plainWords_joined {ws : List Text} (h : ∀ w ∈ ws, w.IsWord) :
    (joined ws).plainWords = joined (ws.map Synonym.substituteAll) := by
  have hlower : ∀ c ∈ joined ws, IsLower c := by
    intro c hc
    rcases mem_joined hc with rfl | ⟨w, hw, hc⟩
    · decide
    · exact isLower_of_isWordChar ((h w hw).2 c hc)
  rw [plainWords, lower_eq_self hlower]
  exact Synonym.replaceAll_joined (fun s => Synonym.proper_of_mem_table) h

theorem splitAtJoiner_eq_self {t : Text} (h : "to".toList ∉ t.words.tail) :
    t.splitAtJoiner = [t] := by
  induction t using splitAtJoiner.induct with
  | case1 => rfl
  | case2 rest => exact absurd List.mem_cons_self h
  | case3 c rest hnot ih =>
    have hrest : "to".toList ∉ (words rest).tail := fun hmem => h (mem_tail_words_cons hmem c)
    rw [splitAtJoiner, ih hrest]
    · rfl
    · exact hnot

section Joined

variable {ws : List Text} (h : ∀ w ∈ ws, w.IsWord)
include h

theorem substituted_isWord : ∀ w ∈ ws.map Synonym.substituteAll, w.IsWord := by
  intro v hv
  obtain ⟨w, hw, rfl⟩ := List.mem_map.mp hv
  exact Synonym.substituteAll_isWord (h w hw)

theorem strip_words : (joined ws).strip = joined ws :=
  strip_joined fun w hw => ⟨(h w hw).1, fun c hc => isBlank_of_isWordChar ((h w hw).2 c hc)⟩

theorem phrase_joined : (joined ws).phrase = joined (ws.map Synonym.substituteAll) := by
  rw [phrase, plainWords_joined h, strip_words (substituted_isWord h)]

theorem phrases_joined (hne : ws ≠ []) (hto : "to".toList ∉ ws.map Synonym.substituteAll) :
    (joined ws).phrases = [joined (ws.map Synonym.substituteAll)] := by
  have hwords := substituted_isWord h
  have hmap : ws.map Synonym.substituteAll ≠ [] := fun hnil => hne (List.map_eq_nil_iff.mp hnil)
  have hsplit := splitAtJoiner_eq_self (t := joined (ws.map Synonym.substituteAll))
  rw [words_joined hmap fun w hw => (hwords w hw).not_mem_space] at hsplit
  rw [phrases, plainWords_joined h, hsplit fun hmem => hto (List.mem_of_mem_tail hmem),
    List.map_singleton, strip_words hwords]

end Joined

end Text

end TimePhrase
