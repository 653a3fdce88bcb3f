import TimePhrase.Proofs.Phrase.Runs
import TimePhrase.Proofs.Phrase.Ways

namespace TimePhrase

theorem Endpoint.to_not_mem_words {t : Text} {now : Moment} {e : Endpoint}
    (h : Endpoint.read t now = .ok e) : "to".toList ∉ t.phrase.words := by
  have hletter (hto : "to".toList ∈ t.phrase.words) : 't' ∈ t.phrase :=
    (Text.infix_of_mem_words hto).subset List.mem_cons_self
  obtain ⟨way, _, hread⟩ := Wording.exists_of_readFirst h
  intro hto
  cases way with
  | fixed =>
    have hall : ∀ f ∈ FixedPhrase.table, ∀ s ∈ f.spellings, "to".toList ∉ s.words := by
      decide +kernel
    obtain ⟨f, hf, _⟩ := Option.map_eq_some_iff.mp (Except.ok.inj hread)
    obtain ⟨hmem, hp⟩ := FixedPhrase.find?_eq_some_iff.mp hf
    exact hall f hmem _ hp hto
  | relative =>
    obtain ⟨d, digits, u, hwords, hdigits, _⟩ := Relative.read_eq_some hread
    rw [hwords, List.mem_cons, List.mem_cons, List.mem_singleton] at hto
    rcases hto with hto | rfl | hto
    · cases d <;> exact absurd hto (by decide)
    · cases hdigits
    · cases u <;> exact absurd hto (by decide)
  | spelled =>
    rw [Wording.read, Spelled.read_of_letter (hletter hto) (by decide)] at hread
    cases hread
  | unix =>
    rw [Wording.read, UnixTime.read_of_letter (hletter hto) (by decide)] at hread
    cases hread

theorem Endpoint.read_phrase (t : Text) (now : Moment) :
    Endpoint.read t.phrase now = Endpoint.read t now := by
  rw [Endpoint.read, Text.phrase_phrase, Endpoint.read]

namespace Text

theorem splitAtJoiner_append {t : Text} (h : "to".toList ∉ t.words.tail) (rest : Text) :
    splitAtJoiner (t ++ (joiner.toList ++ rest)) = t :: rest.splitAtJoiner := by
  induction t with
  | nil => rfl
  | cons c t ih =>
    have htail : "to".toList ∉ (words t).tail := fun hmem => h (mem_tail_words_cons hmem c)
    rw [List.cons_append, splitAtJoiner, ih htail]
    · rfl
    · rintro rest' rfl heq
      have hwords := congrArg words heq
      rw [show joiner.toList ++ rest = ' ' :: ("to ".toList ++ rest) from rfl,
        words_append_space, show 't' :: 'o' :: ' ' :: rest' = "to".toList ++ ' ' :: rest' from rfl,
        words_append_space] at hwords
      obtain ⟨v, vs, hv⟩ := List.exists_cons_of_ne_nil (words_ne_nil t)
      rw [hv] at hwords
      have hto : v = "to".toList := (List.cons.inj hwords).1
      rw [words_space, List.tail_cons, hv, hto] at h
      exact h List.mem_cons_self

theorem joiner_toList : joiner.toList = ' ' :: ("to".toList ++ [' ']) := by
  decide

/-- However it is written, the joiner is the word "to" between two spaces. -/
theorem plainWords_joiner {delimiter : Text} (h : delimiter.lower = joiner.toList) (t rest : Text) :
    plainWords (t ++ delimiter ++ rest) = t.plainWords ++ (joiner.toList ++ rest.plainWords) := by
  have hwords : delimiter.words.map lower = [[], "to".toList, []] := by
    rw [← words_lower, h]
    rfl
  obtain ⟨u, us, hus, hu, hrest⟩ := List.map_eq_cons_iff.mp hwords
  obtain ⟨v, vs, hvs, hv, hrest⟩ := List.map_eq_cons_iff.mp hrest
  obtain ⟨w, ws, hws, hw, hrest⟩ := List.map_eq_cons_iff.mp hrest
  obtain rfl := List.map_eq_nil_iff.mp hrest
  obtain rfl := lower_eq_nil_iff.mp hu
  obtain rfl := lower_eq_nil_iff.mp hw
  have hdelimiter : delimiter = ' ' :: (v ++ [' ']) := by
    rw [← joined_words delimiter, hus, hvs, hws]
    rfl
  have hto : v.plainWords = "to".toList := by
    rw [plainWords, hv]
    decide
  simp only [hdelimiter, joiner_toList, List.append_assoc, List.cons_append, List.nil_append,
    plainWords_append_space, hto]

section Phrases

variable {a : Text} (ha : "to".toList ∉ a.phrase.words)
include ha

theorem to_not_mem_tail : "to".toList ∉ a.plainWords.words.tail := by
  have hto : IsWord "to".toList := by decide
  intro h
  apply ha
  apply mem_words_strip hto.1 _ (List.mem_of_mem_tail h)
  exact fun c hc => isBlank_of_isWordChar (hto.2 c hc)

theorem phrases_of_single : a.phrases = [a.phrase] := by
  rw [phrases, splitAtJoiner_eq_self (to_not_mem_tail ha)]
  rfl

theorem phrases_of_joined {b : Text} (hb : "to".toList ∉ b.phrase.words) {delimiter : Text}
    (h : delimiter.lower = joiner.toList) :
    (a ++ delimiter ++ b).phrases = [a.phrase, b.phrase] := by
  rw [phrases, plainWords_joiner h, splitAtJoiner_append (to_not_mem_tail ha),
    splitAtJoiner_eq_self (to_not_mem_tail hb)]
  rfl

end Phrases

end Text

theorem Text.run_append_eq_iff {w w' rest rest' : Text} {c : Char} (hw : ∀ d ∈ w, isWordChar d)
    (hw' : ∀ d ∈ w', isWordChar d) (hc : isWordChar c = false) :
    w ++ c :: rest = w' ++ c :: rest' ↔ w = w' ∧ rest = rest' := by
  have hhead (s : Text) : (c :: s).head?.any isWordChar = false := hc
  constructor
  · intro h
    have hrun := congrArg (List.takeWhile isWordChar) h
    rw [takeWhile_word hw (hhead rest), takeWhile_word hw' (hhead rest')] at hrun
    rw [hrun] at h
    exact ⟨hrun, List.tail_eq_of_cons_eq (List.append_cancel_left h)⟩
  · rintro ⟨rfl, rfl⟩
    rfl

theorem Synonym.replaceTable_append_eq_iff {c : Char} (hc : isWordChar c = false) {t rest : Text} :
    replaceAll table (t ++ c :: rest) = t ++ c :: rest ↔
      replaceAll table t = t ∧ replaceAll table rest = rest := by
  rw [replaceTable_append hc]
  induction t using Text.run_induction with
  | run w hw => rw [replaceTable_run hw, Text.run_append_eq_iff (substituteAll_run hw) hw hc]
  | cut w d t hw hd ih =>
    rw [replaceTable_cut hw hd, List.append_assoc, List.append_assoc, List.cons_append,
      List.cons_append, Text.run_append_eq_iff (substituteAll_run hw) hw hd,
      Text.run_append_eq_iff (substituteAll_run hw) hw hd, and_assoc]
    exact and_congr_right fun _ => ih

namespace Text

theorem IsPlain.of_append_space {t rest : Text} (h : (t ++ ' ' :: rest).IsPlain) :
    t.IsPlain ∧ rest.IsPlain := by
  have ⟨hfirst, hlast⟩ := (Synonym.replaceTable_append_eq_iff (by decide)).mp h.replaced
  constructor
  · exact ⟨fun c hc => h.settled c (List.mem_append_left _ hc), hfirst⟩
  · exact ⟨fun c hc => h.settled c (List.mem_append_right _ (List.mem_cons_of_mem _ hc)), hlast⟩

theorem splitAtJoiner_cases (t : Text) : t.splitAtJoiner = [t] ∨
    ∃ piece rest, t = piece ++ (joiner.toList ++ rest) ∧
      t.splitAtJoiner = piece :: rest.splitAtJoiner := by
  induction t using splitAtJoiner.induct with
  | case1 => exact .inl rfl
  | case2 rest => exact .inr ⟨[], rest, rfl, rfl⟩
  | case3 c t hnot ih =>
    have hcons : splitAtJoiner (c :: t) = (splitAtJoiner t).modifyHead (c :: ·) := by
      rw [splitAtJoiner]
      exact hnot
    rw [hcons]
    rcases ih with hself | ⟨piece, rest, rfl, hsplit⟩
    · exact .inl (by rw [hself]; rfl)
    · exact .inr ⟨c :: piece, rest, rfl, by rw [hsplit]; rfl⟩

theorem IsPlain.of_mem_splitAtJoiner {t piece : Text} (h : t.IsPlain)
    (hpiece : piece ∈ t.splitAtJoiner) : piece.IsPlain := by
  rcases t.splitAtJoiner_cases with hself | ⟨first, rest, rfl, hsplit⟩
  · rw [hself] at hpiece
    rwa [List.mem_singleton.mp hpiece]
  · obtain ⟨hfirst, hjoiner⟩ := h.of_append_space
    rw [hsplit] at hpiece
    rcases List.mem_cons.mp hpiece with rfl | hpiece
    · exact hfirst
    · exact of_mem_splitAtJoiner (of_append_space (t := "to".toList) hjoiner).2 hpiece
termination_by t.length
decreasing_by
  rename_i heq _ _
  rw [heq, List.length_append, List.length_append]
  exact Nat.lt_of_lt_of_le (Nat.lt_add_of_pos_left (by decide)) (Nat.le_add_left _ _)

theorem isPlain_of_mem_phrases {t p : Text} (h : p ∈ t.phrases) : p.IsPlain := by
  obtain ⟨piece, hpiece, rfl⟩ := List.mem_map.mp h
  exact (t.isPlain_plainWords.of_mem_splitAtJoiner hpiece).strip

theorem phrase_of_mem_phrases {t p : Text} (h : p ∈ t.phrases) : p.phrase = p := by
  have hplain := isPlain_of_mem_phrases h
  obtain ⟨piece, _, rfl⟩ := List.mem_map.mp h
  rw [phrase, hplain.plainWords_eq, strip_strip]

theorem phrases_ne_nil (t : Text) : t.phrases ≠ [] := by
  rw [phrases]
  intro h
  have hnil := List.map_eq_nil_iff.mp h
  rcases t.plainWords.splitAtJoiner_cases with hself | ⟨_, _, _, hsplit⟩
  · rw [hself] at hnil
    cases hnil
  · rw [hsplit] at hnil
    cases hnil

end Text

/-- The error finds fault with how a single phrase is worded. -/
def PhraseError.OfWording : PhraseError → Prop
  | tooManyPhrases _ _ => False
  | noRealDate _ => False
  | offCalendar _ => False
  | _ => True

variable {t : Text} {now : Moment} {x : PhraseError}

theorem Relative.refusal (h : Relative.read t now = .error (.phrase x)) :
    x.text = t ∧ x.OfWording := by
  rw [Relative.read] at h
  split at h
  · split at h
    · cases h
    · cases h
      exact ⟨rfl, trivial⟩
    · split at h
      · cases h
      · cases h
        exact ⟨rfl, trivial⟩
      · cases h
        exact ⟨rfl, trivial⟩
      · cases h
  · cases h

theorem Spelled.refusal (h : Spelled.read t now = .error (.phrase x)) :
    x.text = t ∧ x.OfWording := by
  rw [Spelled.read, readIn] at h
  split at h
  · cases h
  · split at h
    · cases h
      exact ⟨rfl, trivial⟩
    · cases h

theorem UnixTime.not_refused : UnixTime.read t now ≠ .error (.phrase x) := by
  intro h
  rw [UnixTime.read] at h
  split at h <;> cases h

namespace Wording

theorem refusal {way : Wording} (h : way.read t now = .error (.phrase x)) :
    x.text = t ∧ x.OfWording := by
  cases way with
  | fixed => cases h
  | relative => exact Relative.refusal h
  | spelled => exact Spelled.refusal h
  | unix => exact absurd h UnixTime.not_refused

/-- The refusal that is remembered while later ways are tried names the phrase as well. -/
theorem refusal_of_readFirst {ways : List Wording} {refusal : Option PhraseError}
    (hrefusal : ∀ y ∈ refusal, y.text = t ∧ y.OfWording)
    (h : readFirst t now refusal ways = .error (.phrase x)) : x.text = t ∧ x.OfWording := by
  induction ways generalizing refusal with
  | nil =>
    cases h
    cases refusal with
    | none => exact ⟨rfl, trivial⟩
    | some y => exact hrefusal y rfl
  | cons way rest ih =>
    rw [readFirst] at h
    split at h
    · cases h
    · exact ih hrefusal h
    · rename_i y hway
      refine ih ?_ h
      cases refusal with
      | none =>
        intro y' hy'
        cases hy'
        exact Wording.refusal hway
      | some y' => exact hrefusal
    · cases h

end Wording

namespace Endpoint

theorem refusal (h : Endpoint.read t now = .error (.phrase x)) :
    x.text = t.phrase ∧ x.OfWording := by
  refine Wording.refusal_of_readFirst ?_ h
  intro y hy
  cases hy

theorem text_of_read {e : Endpoint} (h : Endpoint.read t now = .ok e) : e.text = t.phrase := by
  obtain ⟨way, _, hread⟩ := Wording.exists_of_readFirst h
  exact (Wording.heading_of_read hread).1

section Parts

variable {p : Text} (hp : p ∈ t.phrases)
include hp

theorem refusal_of_mem_phrases (h : Endpoint.read p now = .error (.phrase x)) :
    x.text = p ∧ x.OfWording := by
  have hrefusal := refusal h
  rwa [Text.phrase_of_mem_phrases hp] at hrefusal

theorem text_of_mem_phrases {e : Endpoint} (h : Endpoint.read p now = .ok e) : e.text = p := by
  rw [text_of_read h, Text.phrase_of_mem_phrases hp]

end Parts

end Endpoint

end TimePhrase
