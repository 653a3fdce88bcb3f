import TimePhrase.Phrase.Reader

namespace TimePhrase

/-- The characters that separate the fields of a layout. -/
def marks : List Char := ['-', ':']

def isFieldChar (c : Char) : Bool := (digitValue? c).isSome || c == ' '

def isLayoutChar (c : Char) : Bool := isFieldChar c || isBlank c || marks.contains c

/-- A part `used` of a text has the characters of a layout, and the marks of the given pieces. -/
structure Marked (used : Text) (pieces : List Piece) : Prop where
  layoutChar : ∀ c ∈ used, isLayoutChar c
  count_eq : ∀ c ∈ marks, used.count c = pieces.count (.literal c)

theorem Marked.nil : Marked [] [] := ⟨nofun, fun _ _ => rfl⟩

theorem Marked.append {used used' : Text} {pieces pieces' : List Piece} (h : Marked used pieces)
    (h' : Marked used' pieces') : Marked (used ++ used') (pieces ++ pieces') where
  layoutChar c hc := (List.mem_append.mp hc).elim (h.layoutChar c) (h'.layoutChar c)
  count_eq c hc := by
    rw [List.count_append, List.count_append, h.count_eq c hc, h'.count_eq c hc]

theorem marked_of_forall {used : Text} {p : Piece} (h : ∀ c ∈ used, isLayoutChar c)
    (hmark : ∀ c ∈ marks, c ∉ used ∧ p ≠ .literal c) : Marked used [p] where
  layoutChar := h
  count_eq c hc := by
    rw [List.count_eq_zero_of_not_mem (hmark c hc).1, List.count_eq_zero_of_not_mem]
    rw [List.mem_singleton]
    exact Ne.symm (hmark c hc).2

theorem not_mem_of_mem_marks {p : Char → Bool} {used : Text} (h : ∀ c ∈ used, p c)
    (hp : marks.all (!p ·)) {c : Char} (hc : c ∈ marks) : c ∉ used := by
  intro hused
  have hfalse := List.all_eq_true.mp hp c hc
  rw [h c hused] at hfalse
  cases hfalse

namespace Slot

def Decimal : Slot → Prop
  | digit _ hi => hi ≤ 9
  | _ => True

instance : DecidablePred Decimal
  | digit _ hi => inferInstanceAs (Decidable (hi ≤ 9))
  | anyDigit => isTrue trivial
  | space => isTrue trivial

theorem isFieldChar_of_value? {s : Slot} (hs : s.Decimal) {c : Char} {d : Nat}
    (h : s.value? c = some d) : isFieldChar c = true := by
  rw [isFieldChar, Bool.or_eq_true]
  cases s with
  | digit lo hi =>
    simp only [value?, Option.ite_none_right_eq_some] at h
    simp only [Decimal] at hs
    have hzero : '0'.toNat = 0x30 := rfl
    rw [digitValue?, digitZeros, List.find?_cons_of_pos]
    · exact .inl rfl
    · rw [Bool.and_eq_true, decide_eq_true_iff, decide_eq_true_iff]
      omega
  | anyDigit =>
    simp only [value?] at h
    exact .inl (by rw [h]; rfl)
  | space =>
    simp only [value?, Option.ite_none_right_eq_some] at h
    exact .inr (beq_iff_eq.mpr h.1)

theorem read?_cons_eq_some_iff {n : Nat} {s : Slot} {slots : List Slot} {t : Text}
    {r : Nat × Text} : Slot.read? n (s :: slots) t = some r ↔ ∃ c rest d, t = c :: rest ∧
      s.value? c = some d ∧ Slot.read? (10 * n + d) slots rest = some r := by
  cases t with
  | nil =>
    constructor
    · intro h
      cases h
    · rintro ⟨_, _, _, h, _⟩
      cases h
  | cons c t =>
    rw [Slot.read?, Option.bind_eq_bind, Option.bind_eq_some_iff]
    constructor
    · rintro ⟨d, hd, h⟩
      exact ⟨c, t, d, rfl, hd, h⟩
    · rintro ⟨_, _, d, ht, hd, h⟩
      cases ht
      exact ⟨d, hd, h⟩

theorem read?_used {slots : List Slot} (hslots : ∀ s ∈ slots, s.Decimal) {n k : Nat}
    {t rest : Text} (h : Slot.read? n slots t = some (k, rest)) :
    ∃ used, t = used ++ rest ∧ ∀ c ∈ used, isFieldChar c := by
  induction slots generalizing n t with
  | nil =>
    cases h
    exact ⟨[], rfl, nofun⟩
  | cons s slots ih =>
    obtain ⟨c, t, d, rfl, hd, htail⟩ := read?_cons_eq_some_iff.mp h
    obtain ⟨used, rfl, hused⟩ := ih (fun s hs => hslots s (List.mem_cons_of_mem _ hs)) htail
    refine ⟨c :: used, rfl, ?_⟩
    intro c' hc'
    rcases List.mem_cons.mp hc' with rfl | hc'
    · exact isFieldChar_of_value? (hslots s List.mem_cons_self) hd
    · exact hused c' hc'

end Slot

theorem Field.mem_all (f : Field) : f ∈ all := by
  cases f <;> decide

theorem Field.decimal_of_mem_spellings {f : Field} {slots : List Slot} (h : slots ∈ f.spellings) :
    ∀ s ∈ slots, s.Decimal := by
  have hall : ∀ f ∈ Field.all, ∀ slots ∈ f.spellings, ∀ s ∈ slots, s.Decimal := by decide
  exact hall f f.mem_all slots h

theorem mem_blankRests {longer : List Text} {t rest : Text} (h : rest ∈ blankRests longer t) :
    rest ∈ longer ∨ ∃ used, t = used ++ rest ∧ used ≠ [] ∧ ∀ c ∈ used, isBlank c := by
  induction t generalizing longer with
  | nil => exact .inl h
  | cons c t ih =>
    rw [blankRests] at h
    by_cases hc : isBlank c
    · rw [if_pos hc] at h
      rcases ih h with hlonger | ⟨used, rfl, _, hused⟩
      · rcases List.mem_cons.mp hlonger with rfl | hlonger
        · exact .inr ⟨[c], rfl, List.cons_ne_nil c _, fun d hd => List.mem_singleton.mp hd ▸ hc⟩
        · exact .inl hlonger
      · refine .inr ⟨c :: used, rfl, List.cons_ne_nil c _, ?_⟩
        intro d hd
        rcases List.mem_cons.mp hd with rfl | hd
        · exact hc
        · exact hused d hd
    · rw [if_neg hc] at h
      exact .inl h

namespace Piece

def Plain : Piece → Prop
  | literal c => c ∈ marks
  | _ => True

instance : DecidablePred Plain
  | literal c => inferInstanceAs (Decidable (c ∈ marks))
  | field _ => isTrue trivial
  | blanks => isTrue trivial

theorem marked_literal {c : Char} (hc : c ∈ marks) : Marked [c] [literal c] where
  layoutChar c' hc' := by
    rw [List.mem_singleton.mp hc', isLayoutChar, List.contains_iff_mem.mpr hc, Bool.or_true]
  count_eq c' _ := by
    by_cases heq : c = c'
    · subst heq
      rw [List.count_singleton_self, List.count_singleton_self]
    · rw [List.count_singleton, List.count_singleton, if_neg, if_neg]
      · rw [beq_iff_eq, literal.injEq]
        exact heq
      · rw [beq_iff_eq]
        exact heq

theorem mem_readings {p : Piece} (hp : p.Plain) {v : FieldValues} {t : Text}
    {r : FieldValues × Text} (h : r ∈ p.readings v t) :
    ∃ used, t = used ++ r.2 ∧ Marked used [p] := by
  cases p with
  | field f =>
    obtain ⟨⟨n, rest⟩, hr, rfl⟩ := List.mem_map.mp h
    obtain ⟨slots, hslots, hread⟩ := List.mem_filterMap.mp hr
    obtain ⟨used, rfl, hused⟩ := Slot.read?_used (Field.decimal_of_mem_spellings hslots) hread
    refine ⟨used, rfl, marked_of_forall ?_ ?_⟩
    · intro c hc
      rw [isLayoutChar, hused c hc]
      rfl
    · exact fun c hc => ⟨not_mem_of_mem_marks hused (by decide) hc, nofun⟩
  | blanks =>
    obtain ⟨rest, hrest, rfl⟩ := List.mem_map.mp h
    rcases mem_blankRests hrest with hnone | ⟨used, rfl, _, hused⟩
    · cases hnone
    · refine ⟨used, rfl, marked_of_forall ?_ ?_⟩
      · intro c hc
        rw [isLayoutChar, hused c hc, Bool.or_true]
        rfl
      · exact fun c hc => ⟨not_mem_of_mem_marks hused (by decide) hc, nofun⟩
  | literal c =>
    have hc : c ∈ marks := hp
    cases t with
    | nil => cases h
    | cons d rest =>
      rw [readings] at h
      by_cases hd : d = c
      · subst hd
        rw [if_pos rfl, List.mem_singleton] at h
        subst h
        exact ⟨[d], rfl, marked_literal hc⟩
      · rw [if_neg hd] at h
        cases h

theorem mem_readAll {pieces : List Piece} (hpieces : ∀ p ∈ pieces, p.Plain) {v : FieldValues}
    {t : Text} {r : FieldValues × Text} (h : r ∈ readAll v t pieces) :
    ∃ used, t = used ++ r.2 ∧ Marked used pieces := by
  induction pieces generalizing v t with
  | nil =>
    rw [List.mem_singleton.mp h]
    exact ⟨[], rfl, .nil⟩
  | cons p pieces ih =>
    rw [readAll, List.mem_flatMap] at h
    obtain ⟨r', hr', h⟩ := h
    obtain ⟨used, rfl, hused⟩ := mem_readings (hpieces p List.mem_cons_self) hr'
    obtain ⟨used', heq, hused'⟩ := ih (fun q hq => hpieces q (List.mem_cons_of_mem p hq)) h
    refine ⟨used ++ used', ?_, hused.append hused'⟩
    rw [heq, List.append_assoc]

theorem exists_readAll_of_read? {pieces : List Piece} {t : Text} {c : Civil}
    (h : read? pieces t = some c) :
    ∃ v, (v, []) ∈ readAll .default t pieces ∧ v.civil? = some c := by
  rw [read?] at h
  split at h
  · rename_i v later heq
    refine ⟨v, ?_, h⟩
    rw [heq]
    exact List.mem_cons_self
  · cases h

end Piece

namespace Layout

theorem plain_of_mem_pieces (l : Layout) : ∀ p ∈ l.pieces, p.Plain := by
  cases l <;> decide

theorem marked_of_read? {l : Layout} {t : Text} {c : Civil} (h : l.read? t = some c) :
    Marked t l.pieces := by
  obtain ⟨v, hmem, _⟩ := Piece.exists_readAll_of_read? h
  obtain ⟨used, rfl, hused⟩ := Piece.mem_readAll l.plain_of_mem_pieces hmem
  rw [List.append_nil]
  exact hused

/-- No two layouts read the same text. -/
theorem eq_of_read? {l l' : Layout} {t : Text} {c c' : Civil} (h : l.read? t = some c)
    (h' : l'.read? t = some c') : l = l' := by
  have hcount (d : Char) (hd : d ∈ marks) :
      l.pieces.count (.literal d) = l'.pieces.count (.literal d) :=
    ((marked_of_read? h).count_eq d hd).symm.trans ((marked_of_read? h').count_eq d hd)
  have hdash := hcount '-' (by decide)
  have hcolon := hcount ':' (by decide)
  revert hdash hcolon
  cases l <;> cases l' <;> decide

section AllLayouts

variable {layouts : List Layout} (hall : ∀ l, l ∈ layouts) {t : Text}
include hall

theorem layoutIn?_eq_some_iff_of_mem {l : Layout} {c : Civil} :
    Spelled.layoutIn? layouts t = some (l, c) ↔ l.read? t = some c := by
  constructor
  · intro h
    obtain ⟨l', _, hl'⟩ := List.exists_of_findSome?_eq_some h
    obtain ⟨c', hread, heq⟩ := Option.map_eq_some_iff.mp hl'
    cases heq
    exact hread
  · intro h
    cases hfound : Spelled.layoutIn? layouts t with
    | none =>
      have hl := List.findSome?_eq_none_iff.mp hfound l (hall l)
      rw [h] at hl
      cases hl
    | some found =>
      obtain ⟨l', _, hl'⟩ := List.exists_of_findSome?_eq_some hfound
      obtain ⟨c', hread, rfl⟩ := Option.map_eq_some_iff.mp hl'
      have heq := eq_of_read? h hread
      subst heq
      rw [h] at hread
      cases hread
      rfl

theorem layoutIn?_eq_none_iff_of_mem :
    Spelled.layoutIn? layouts t = none ↔ ∀ l : Layout, l.read? t = none := by
  rw [Spelled.layoutIn?, List.findSome?_eq_none_iff]
  constructor
  · intro h l
    exact Option.map_eq_none_iff.mp (h l (hall l))
  · intro h l _
    rw [h l]
    rfl

end AllLayouts

theorem mem_all (l : Layout) : l ∈ all := by
  cases l <;> decide

theorem layoutIn?_eq_some_iff {l : Layout} {t : Text} {c : Civil} :
    Spelled.layoutIn? all t = some (l, c) ↔ l.read? t = some c :=
  layoutIn?_eq_some_iff_of_mem mem_all

theorem layoutIn?_eq_none_iff {t : Text} :
    Spelled.layoutIn? all t = none ↔ ∀ l : Layout, l.read? t = none :=
  layoutIn?_eq_none_iff_of_mem mem_all

end Layout

end TimePhrase
