import TimePhrase.Proofs.Text.LowerCase

namespace TimePhrase

namespace Text

section Pieces

variable {p : Char → Bool} {s : Char} {t t' x y : Text} {rest : List Text}

theorem splitWhere_cut (hs : p s) (t t' : Text) :
    splitWhere p (t ++ s :: t') = splitWhere p t ++ splitWhere p t' := by
  induction t with
  | nil => exact if_pos hs
  | cons c t ih =>
    rw [List.cons_append, splitWhere, splitWhere, ih]
    by_cases hc : p c
    · rw [if_pos hc, if_pos hc, List.cons_append]
    · rw [if_neg hc, if_neg hc]
      obtain ⟨v, vs, hv⟩ := List.exists_cons_of_ne_nil (splitWhere_ne_nil p t)
      rw [hv]
      rfl

theorem splitWhere_eq_singleton_iff :
    splitWhere p t = [x] ↔ t = x ∧ ∀ c ∈ x, p c = false := by
  constructor
  · intro h
    induction t generalizing x with
    | nil =>
      cases h
      exact ⟨rfl, List.forall_mem_nil _⟩
    | cons c t ih =>
      rw [splitWhere] at h
      split at h
      · exact absurd (List.cons.inj h).2 (splitWhere_ne_nil p t)
      · rename_i hc
        obtain ⟨v, vs, hv⟩ := List.exists_cons_of_ne_nil (splitWhere_ne_nil p t)
        rw [hv, List.modifyHead_cons] at h
        obtain ⟨rfl, rfl⟩ := List.cons.inj h
        obtain ⟨rfl, hclean⟩ := ih hv
        exact ⟨rfl, List.forall_mem_cons.mpr ⟨Bool.eq_false_iff.mpr hc, hclean⟩⟩
  · rintro ⟨rfl, hclean⟩
    exact splitWhere_of_forall hclean

theorem splitWhere_eq_cons_iff (hrest : rest ≠ []) : splitWhere p t = x :: rest ↔
    ∃ s t', t = x ++ s :: t' ∧ p s ∧ (∀ c ∈ x, p c = false) ∧ splitWhere p t' = rest := by
  constructor
  · intro h
    induction t generalizing x with
    | nil => exact absurd (List.cons.inj h).2.symm hrest
    | cons c t ih =>
      rw [splitWhere] at h
      split at h
      · rename_i hc
        obtain ⟨rfl, hpieces⟩ := List.cons.inj h
        exact ⟨c, t, rfl, hc, List.forall_mem_nil _, hpieces⟩
      · rename_i hc
        obtain ⟨v, vs, hv⟩ := List.exists_cons_of_ne_nil (splitWhere_ne_nil p t)
        rw [hv, List.modifyHead_cons] at h
        obtain ⟨rfl, rfl⟩ := List.cons.inj h
        obtain ⟨s, t', rfl, hs, hclean, hpieces⟩ := ih hv
        exact ⟨s, t', rfl, hs, List.forall_mem_cons.mpr ⟨Bool.eq_false_iff.mpr hc, hclean⟩, hpieces⟩
  · rintro ⟨s, t', rfl, hs, hclean, hpieces⟩
    rw [splitWhere_cut hs, splitWhere_of_forall hclean, hpieces, List.singleton_append]

theorem splitWhere_eq_three_iff {z : Text} : splitWhere p t = [x, y, z] ↔
    ∃ s s', t = x ++ s :: (y ++ s' :: z) ∧ p s ∧ p s' ∧
      (∀ c ∈ x, p c = false) ∧ (∀ c ∈ y, p c = false) ∧ ∀ c ∈ z, p c = false := by
  simp only [splitWhere_eq_cons_iff (List.cons_ne_nil _ _), splitWhere_eq_singleton_iff]
  constructor
  · rintro ⟨s, _, rfl, hs, hx, s', _, rfl, hs', hy, rfl, hz⟩
    exact ⟨s, s', rfl, hs, hs', hx, hy, hz⟩
  · rintro ⟨s, s', rfl, hs, hs', hx, hy, hz⟩
    exact ⟨s, _, rfl, hs, hx, s', _, rfl, hs', hy, rfl, hz⟩

end Pieces

/-- The words with single spaces between them. -/
def joined : List Text → Text
  | [] => []
  | [w] => w
  | w :: ws => w ++ ' ' :: joined ws

def words (t : Text) : List Text := t.splitWhere (· = ' ')

theorem joined_cons {w : Text} {ws : List Text} (h : ws ≠ []) :
    joined (w :: ws) = w ++ ' ' :: joined ws := by
  cases ws with
  | nil => exact absurd rfl h
  | cons w' ws => rfl

theorem words_ne_nil (t : Text) : t.words ≠ [] := splitWhere_ne_nil _ t

theorem words_space (t : Text) : words (' ' :: t) = [] :: t.words := rfl

theorem words_cons {c : Char} (hc : c ≠ ' ') (t : Text) :
    words (c :: t) = t.words.modifyHead (c :: ·) := by
  rw [words, splitWhere, if_neg]
  · rfl
  · rw [decide_eq_true_iff]
    exact hc

theorem mem_tail_words_cons {w t : Text} (h : w ∈ t.words.tail) (c : Char) :
    w ∈ (words (c :: t)).tail := by
  by_cases hc : c = ' '
  · subst hc
    exact List.mem_of_mem_tail h
  · rwa [words_cons hc, List.tail_modifyHead]

theorem joined_modifyHead {c : Char} {ws : List Text} (h : ws ≠ []) :
    joined (ws.modifyHead (c :: ·)) = c :: joined ws := by
  cases ws with
  | nil => exact absurd rfl h
  | cons w rest => cases rest <;> rfl

theorem joined_words (t : Text) : joined t.words = t := by
  induction t with
  | nil => rfl
  | cons c rest ih =>
    by_cases hc : c = ' '
    · subst hc
      rw [words_space, joined_cons (words_ne_nil rest), ih]
      rfl
    · rw [words_cons hc, joined_modifyHead (words_ne_nil rest), ih]

theorem words_eq_self {w : Text} (h : ' ' ∉ w) : w.words = [w] := by
  apply splitWhere_of_forall
  intro c hc
  rw [decide_eq_false_iff_not]
  rintro rfl
  exact h hc

theorem words_append_space (t t' : Text) : words (t ++ ' ' :: t') = t.words ++ t'.words :=
  splitWhere_cut (by decide) t t'

theorem words_joined {ws : List Text} (hne : ws ≠ []) (h : ∀ w ∈ ws, ' ' ∉ w) :
    (joined ws).words = ws := by
  induction ws with
  | nil => exact absurd rfl hne
  | cons w rest ih =>
    have hw := h w List.mem_cons_self
    by_cases hrest : rest = []
    · subst hrest
      exact words_eq_self hw
    · rw [joined_cons hrest, words_append_space, words_eq_self hw,
        ih hrest fun v hv => h v (List.mem_cons_of_mem w hv)]
      rfl

theorem not_mem_of_mem_words {t w : Text} (h : w ∈ t.words) : ' ' ∉ w := by
  induction t generalizing w with
  | nil =>
    rw [List.mem_singleton.mp h]
    exact List.not_mem_nil
  | cons c rest ih =>
    by_cases hc : c = ' '
    · subst hc
      rw [words_space] at h
      rcases List.mem_cons.mp h with rfl | h
      · exact List.not_mem_nil
      · exact ih h
    · rw [words_cons hc] at h
      obtain ⟨v, vs, hv⟩ := List.exists_cons_of_ne_nil (words_ne_nil rest)
      rw [hv] at h ih
      rcases List.mem_cons.mp h with rfl | h
      · rw [List.mem_cons, not_or]
        exact ⟨Ne.symm hc, ih List.mem_cons_self⟩
      · exact ih (List.mem_cons_of_mem v h)

theorem words_eq_iff {t : Text} {ws : List Text} :
    t.words = ws ↔ ws ≠ [] ∧ t = joined ws ∧ ∀ w ∈ ws, ' ' ∉ w := by
  constructor
  · rintro rfl
    exact ⟨t.words_ne_nil, t.joined_words.symm, fun w => not_mem_of_mem_words⟩
  · rintro ⟨hne, rfl, h⟩
    exact words_joined hne h

theorem takeWhile_of_words {t w : Text} {ws : List Text} (h : t.words = w :: ws) :
    t.takeWhile (· ≠ ' ') = w := by
  obtain ⟨_, rfl, hspace⟩ := words_eq_iff.mp h
  have hw : ∀ c ∈ w, decide (c ≠ ' ') = true := by
    intro c hc
    rw [decide_eq_true_iff]
    rintro rfl
    exact hspace w List.mem_cons_self hc
  by_cases hws : ws = []
  · subst hws
    rw [joined, ← List.append_nil w, List.takeWhile_append_of_pos hw]
    rfl
  · rw [joined_cons hws, List.takeWhile_append_of_pos hw, List.takeWhile_cons_of_neg (by decide),
      List.append_nil]

theorem mem_joined {ws : List Text} {c : Char} (h : c ∈ joined ws) :
    c = ' ' ∨ ∃ w ∈ ws, c ∈ w := by
  induction ws with
  | nil => cases h
  | cons w rest ih =>
    by_cases hrest : rest = []
    · subst hrest
      exact .inr ⟨w, List.mem_cons_self, h⟩
    · rw [joined_cons hrest, List.mem_append, List.mem_cons] at h
      rcases h with hc | hc | hc
      · exact .inr ⟨w, List.mem_cons_self, hc⟩
      · exact .inl hc
      · rcases ih hc with hc | ⟨v, hv, hc⟩
        · exact .inl hc
        · exact .inr ⟨v, List.mem_cons_of_mem w hv, hc⟩

theorem infix_joined {ws : List Text} {w : Text} (h : w ∈ ws) : w <:+: joined ws := by
  induction ws with
  | nil => cases h
  | cons v rest ih =>
    by_cases hrest : rest = []
    · subst hrest
      rw [List.mem_singleton.mp h]
      exact List.infix_rfl
    · rw [joined_cons hrest]
      rcases List.mem_cons.mp h with rfl | h
      · exact (List.prefix_append w _).isInfix
      · exact (ih h).trans ((List.suffix_cons ' ' _).trans (List.suffix_append v _)).isInfix

theorem infix_of_mem_words {t w : Text} (h : w ∈ t.words) : w <:+: t := by
  have hinfix := infix_joined h
  rw [joined_words] at hinfix
  exact hinfix

/-- Neither a capital of ASCII nor a character beyond ASCII that has another lower-case form. -/
def IsLower (c : Char) : Prop := c.toNat < 0x41 ∨ 0x5B ≤ c.toNat ∧ c.toNat < 0xC0

instance (c : Char) : Decidable (IsLower c) := inferInstanceAs (Decidable (_ ∨ _))

theorem IsLower.isSettled {c : Char} (h : IsLower c) : IsSettled c := by
  have houtside : ∀ r ∈ lowerRanges, 0xC0 ≤ r.first ∨ (0x41 ≤ r.first ∧ r.last < 0x5B) := by
    decide +kernel
  refine ⟨lowerChar_eq_self_of_not_covers ?_, ?_, ?_⟩
  · intro r hr
    rw [Bool.eq_false_iff]
    intro hcovers
    obtain ⟨hfirst, hlast, _⟩ := CaseRange.covers_iff.mp hcovers
    have hr := houtside r hr
    rw [IsLower] at h
    omega
  · rintro rfl
    exact absurd h (by decide)
  · rintro rfl
    exact absurd h (by decide)

theorem lower_eq_self {t : Text} (h : ∀ c ∈ t, IsLower c) : t.lower = t :=
  lowerFrom_eq_self_of_settled (fun c hc => (h c hc).isSettled) false

theorem lower_joined (ws : List Text) : (joined ws).lower = joined (ws.map lower) := by
  induction ws with
  | nil => rfl
  | cons w rest ih =>
    by_cases hrest : rest = []
    · subst hrest
      rfl
    · have hmap : rest.map lower ≠ [] := fun hnil => hrest (List.map_eq_nil_iff.mp hnil)
      rw [joined_cons hrest, lower_append_space, ih, List.map_cons, joined_cons hmap]

theorem words_lower (t : Text) : t.lower.words = t.words.map lower := by
  have hne : t.words.map lower ≠ [] := fun hnil => t.words_ne_nil (List.map_eq_nil_iff.mp hnil)
  rw [words_eq_iff]
  refine ⟨hne, ?_, ?_⟩
  · rw [← lower_joined, joined_words]
  · intro v hv hspace
    obtain ⟨w, hw, rfl⟩ := List.mem_map.mp hv
    exact not_mem_of_mem_words hw (space_mem_of_lowerFrom hspace)

theorem strip_eq_self {t : Text} (hfirst : t.head?.any isBlank = false)
    (hlast : t.getLast?.any isBlank = false) : t.strip = t := by
  have hdrop {s : Text} (hs : s.head?.any isBlank = false) : s.dropWhile isBlank = s := by
    cases s with
    | nil => rfl
    | cons c rest => exact List.dropWhile_cons_of_neg (Bool.eq_false_iff.mp hs)
  rw [strip, hdrop hfirst, hdrop, List.reverse_reverse]
  rw [List.head?_reverse]
  exact hlast

theorem ends_joined {ws : List Text} (hne : ws ≠ []) (h : ∀ w ∈ ws, w ≠ []) :
    (∃ w ∈ ws, (joined ws).head? = w.head?) ∧ ∃ w ∈ ws, (joined ws).getLast? = w.getLast? := by
  induction ws with
  | nil => exact absurd rfl hne
  | cons w rest ih =>
    have hw := h w List.mem_cons_self
    by_cases hrest : rest = []
    · subst hrest
      exact ⟨⟨w, List.mem_cons_self, rfl⟩, w, List.mem_cons_self, rfl⟩
    · obtain ⟨_, v, hv, hlast⟩ := ih hrest fun v hv => h v (List.mem_cons_of_mem w hv)
      rw [joined_cons hrest]
      refine ⟨⟨w, List.mem_cons_self, ?_⟩, v, List.mem_cons_of_mem w hv, ?_⟩
      · rw [List.head?_append, List.head?_eq_some_head hw]
        rfl
      have hsome : v.getLast?.isSome :=
        List.getLast?_isSome.mpr (h v (List.mem_cons_of_mem w hv))
      obtain ⟨c, hc⟩ := Option.isSome_iff_exists.mp hsome
      rw [List.getLast?_append, List.getLast?_cons, hlast, hc]
      rfl

theorem strip_joined {ws : List Text} (h : ∀ w ∈ ws, w ≠ [] ∧ ∀ c ∈ w, isBlank c = false) :
    (joined ws).strip = joined ws := by
  by_cases hne : ws = []
  · subst hne
    rfl
  · obtain ⟨⟨w, hw, hfirst⟩, v, hv, hlast⟩ := ends_joined hne fun w hw => (h w hw).1
    apply strip_eq_self
    · rw [hfirst, Option.any_eq_false]
      exact fun c hc => (h w hw).2 c (List.mem_of_mem_head? hc)
    · rw [hlast, Option.any_eq_false]
      exact fun c hc => (h v hv).2 c (List.mem_of_mem_getLast? hc)

end Text

end TimePhrase
