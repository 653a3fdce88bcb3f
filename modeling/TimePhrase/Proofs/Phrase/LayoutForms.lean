import Mathlib.Data.List.Chain
import TimePhrase.Proofs.Phrase.Completion
import TimePhrase.Proofs.Phrase.FieldForms

namespace TimePhrase

theorem digitValue?_of_isBlank {c : Char} (h : isBlank c) : digitValue? c = none := by
  have hdigits : ∀ z ∈ digitZeros, ∀ k < 10, isBlank (Char.ofNat (z + k)) = false := by
    decide +kernel
  rw [Option.eq_none_iff_forall_ne_some]
  intro d hd
  obtain ⟨z, hz, hlt, hchar⟩ := exists_zero_of_digitValue? hd
  have hfalse := hdigits z hz d hlt
  rw [← hchar, Char.ofNat_toNat, h] at hfalse
  cases hfalse

namespace FieldValues

def get (v : FieldValues) : Field → Nat
  | .year => v.year
  | .month => v.month
  | .day => v.day
  | .hour => v.hour
  | .minute => v.minute
  | .second => v.second

theorem get_set (v : FieldValues) (n : Nat) (f g : Field) :
    (v.set n f).get g = if f = g then n else v.get g := by
  cases f <;> cases g <;> rfl

theorem civil?_eq_some_iff {v : FieldValues} {c : Civil} :
    v.civil? = some c ↔ (∀ f, v.get f = c.value f) ∧ c.clock.microsecond = 0 := by
  constructor
  · intro h
    simp only [civil?, Civil.of?, Option.bind_eq_bind, Option.bind_eq_some_iff] at h
    obtain ⟨d, hd, k, hk, hc⟩ := h
    cases hc
    rw [Date.of?, Option.dite_none_right_eq_some] at hd
    rw [Clock.of?, Option.dite_none_right_eq_some] at hk
    obtain ⟨_, hd⟩ := hd
    obtain ⟨_, hk⟩ := hk
    cases hd
    cases hk
    refine ⟨fun f => ?_, rfl⟩
    cases f <;> rfl
  · rintro ⟨hvalue, hmicro⟩
    have hfields : v = ⟨c.date.year, c.date.month, c.date.day, c.clock.hour, c.clock.minute,
        c.clock.second⟩ := by
      cases v
      simp only [mk.injEq]
      exact ⟨hvalue .year, hvalue .month, hvalue .day, hvalue .hour, hvalue .minute,
        hvalue .second⟩
    have hself := c.of?_self
    rw [hmicro] at hself
    rw [hfields, civil?]
    exact hself

end FieldValues

theorem Civil.inRange_value (c : Civil) (f : Field) : f.InRange (c.value f) := by
  have hlength := daysInMonth_bounds c.date.year c.date.month
  have hday := c.date.day_bounds
  obtain ⟨hhour, hminute, hsecond, _⟩ := c.clock.valid
  cases f with
  | year => exact Nat.lt_succ_of_le c.date.year_bounds.2
  | month => exact c.date.month_bounds
  | day => exact ⟨hday.1, Nat.le_trans hday.2 hlength.2⟩
  | hour => exact hhour
  | minute => exact hminute
  | second => exact hsecond

theorem Civil.value_midnight (d : Date) {f : Field} (hf : ¬ (f = .year ∨ f = .month ∨ f = .day)) :
    value ⟨d, .midnight⟩ f = FieldValues.default.get f := by
  rw [not_or, not_or] at hf
  obtain ⟨hyear, hmonth, hday⟩ := hf
  cases f with
  | year => exact absurd rfl hyear
  | month => exact absurd rfl hmonth
  | day => exact absurd rfl hday
  | hour => rfl
  | minute => rfl
  | second => rfl

namespace Piece

/-- The text is a form of the piece, where the fields have the given numbers. -/
def Form (value : Field → Nat) (w : Text) : Piece → Prop
  | field f => f.Form (value f) w
  | blanks => w ≠ [] ∧ ∀ c ∈ w, isBlank c
  | literal c => w = [c]

/-- The text is put together from forms of the pieces. -/
inductive Forms (value : Field → Nat) : List Piece → Text → Prop
  | nil : Forms value [] []
  | cons {p : Piece} {pieces : List Piece} {w rest : Text} (hp : p.Form value w)
    (h : Forms value pieces rest) : Forms value (p :: pieces) (w ++ rest)

theorem Forms.literal {value : Field → Nat} {pieces : List Piece} {c : Char} {rest : Text}
    (h : Forms value pieces rest) : Forms value (.literal c :: pieces) (c :: rest) :=
  .cons (p := .literal c) (w := [c]) rfl h

theorem forms_singleton {value : Field → Nat} {p : Piece} {w : Text} :
    Forms value [p] w ↔ p.Form value w := by
  constructor
  · intro h
    obtain _ | ⟨hp, _ | _⟩ := h
    rw [List.append_nil]
    exact hp
  · intro hp
    rw [← List.append_nil w]
    exact .cons hp .nil

theorem forms_separated {value : Field → Nat} {f g h : Field} {s s' : Char} {t : Text} :
    Forms value [.field f, .literal s, .field g, .literal s', .field h] t ↔
      ∃ x y z, t = x ++ s :: (y ++ s' :: z) ∧ f.Form (value f) x ∧ g.Form (value g) y ∧
        h.Form (value h) z := by
  constructor
  · intro hforms
    obtain _ | ⟨hx, _ | ⟨rfl, _ | ⟨hy, _ | ⟨rfl, hz⟩⟩⟩⟩ := hforms
    exact ⟨_, _, _, rfl, hx, hy, forms_singleton.mp hz⟩
  · rintro ⟨x, y, z, rfl, hx, hy, hz⟩
    exact .cons hx (.literal (.cons hy (.literal (forms_singleton.mpr hz))))

theorem forms_append {value : Field → Nat} {pieces pieces' : List Piece} {t : Text} :
    Forms value (pieces ++ pieces') t ↔
      ∃ w w', t = w ++ w' ∧ Forms value pieces w ∧ Forms value pieces' w' := by
  induction pieces generalizing t with
  | nil =>
    constructor
    · exact fun h => ⟨[], t, rfl, .nil, h⟩
    · rintro ⟨_, w', rfl, _ | _, h⟩
      exact h
  | cons p pieces ih =>
    constructor
    · intro h
      obtain _ | ⟨hp, h⟩ := h
      obtain ⟨w, w', rfl, hw, hw'⟩ := ih.mp h
      exact ⟨_, w', (List.append_assoc _ _ _).symm, .cons hp hw, hw'⟩
    · rintro ⟨_, w', rfl, _ | ⟨hp, hw⟩, hw'⟩
      rw [List.append_assoc]
      exact .cons hp (ih.mpr ⟨_, w', rfl, hw, hw'⟩)

def Distinct : Piece → Piece → Prop
  | field f, q => q ≠ field f
  | _, _ => True

instance : DecidableRel Distinct
  | field f, q => inferInstanceAs (Decidable (q ≠ field f))
  | blanks, _ => isTrue trivial
  | literal _, _ => isTrue trivial

theorem Form.congr {value value' : Field → Nat} {p : Piece} {w : Text} (h : p.Form value w)
    (heq : ∀ f, p = field f → value' f = value f) : p.Form value' w := by
  cases p with
  | field f =>
    rw [Form, heq f rfl]
    exact h
  | blanks => exact h
  | literal c => exact h

section Ascii

variable {t : Text} (ht : ∀ c ∈ t, c.toNat < 0x80) {v : FieldValues} {r : FieldValues × Text}
include ht

theorem form_of_mem_readings {p : Piece} (h : r ∈ p.readings v t) :
    ∃ w, t = w ++ r.2 ∧ p.Form r.1.get w ∧ ∀ f, p ≠ field f → r.1.get f = v.get f := by
  cases p with
  | field f =>
    obtain ⟨⟨n, rest⟩, hreading, rfl⟩ := List.mem_map.mp h
    obtain ⟨w, rfl, hw⟩ := Field.form_of_mem_readings ht hreading
    refine ⟨w, rfl, ?_, ?_⟩
    · rw [Form, FieldValues.get_set, if_pos rfl]
      exact hw
    · intro g hg
      rw [FieldValues.get_set, if_neg fun heq => hg (congrArg field heq)]
  | blanks =>
    obtain ⟨rest, hrest, rfl⟩ := List.mem_map.mp h
    rcases mem_blankRests hrest with hnone | ⟨w, rfl, hw⟩
    · cases hnone
    · exact ⟨w, rfl, hw, fun _ _ => rfl⟩
  | literal c =>
    cases t with
    | nil => cases h
    | cons d rest =>
      rw [readings] at h
      split at h
      · rename_i hd
        rw [List.mem_singleton.mp h, hd]
        exact ⟨[c], rfl, rfl, fun _ _ => rfl⟩
      · cases h

theorem forms_of_mem_readAll {pieces : List Piece} (hpieces : pieces.Pairwise Distinct)
    (h : r ∈ readAll v t pieces) : ∃ w, t = w ++ r.2 ∧ Forms r.1.get pieces w ∧
      ∀ f, field f ∉ pieces → r.1.get f = v.get f := by
  induction pieces generalizing v t with
  | nil =>
    rw [List.mem_singleton.mp h]
    exact ⟨[], rfl, .nil, fun _ _ => rfl⟩
  | cons p pieces ih =>
    obtain ⟨hp, hpieces⟩ := List.pairwise_cons.mp hpieces
    rw [readAll, List.mem_flatMap] at h
    obtain ⟨r', hr', h⟩ := h
    obtain ⟨w, rfl, hw, hkept⟩ := form_of_mem_readings ht hr'
    obtain ⟨w', hrest, hw', hkept'⟩ := ih (fun c hc => ht c (List.mem_append_right w hc)) hpieces h
    refine ⟨w ++ w', by rw [hrest, List.append_assoc], .cons (hw.congr ?_) hw', ?_⟩
    · rintro f rfl
      exact hkept' f fun hmem => hp _ hmem rfl
    · intro f hf
      rw [hkept' f fun hmem => hf (List.mem_cons_of_mem p hmem)]
      exact hkept f fun heq => hf (heq ▸ List.mem_cons_self)

end Ascii

section Apart

/-- The end of a form of the first piece can be told from a form of the second one after it. -/
def Apart : Piece → Piece → Prop
  | field _, field _ => False
  | field _, blanks => True
  | field _, literal c => digitValue? c = none
  | blanks, field f => f ≠ .day
  | blanks, blanks => False
  | blanks, literal c => isBlank c = false
  | literal _, _ => True

instance : DecidableRel Apart
  | field _, field _ => isFalse id
  | field _, blanks => isTrue trivial
  | field _, literal c => inferInstanceAs (Decidable (digitValue? c = none))
  | blanks, field f => inferInstanceAs (Decidable (f ≠ .day))
  | blanks, blanks => isFalse id
  | blanks, literal c => inferInstanceAs (Decidable (isBlank c = false))
  | literal _, _ => isTrue trivial

def goesOn : Piece → Char → Bool
  | field _, c => (digitValue? c).isSome
  | blanks, c => isBlank c
  | literal _, _ => false

theorem isNatural_of_form {f : Field} (hf : f ≠ .day) {n : Nat} {w : Text} (h : f.Form n w) :
    w.isNatural := by
  by_cases hyear : f = .year
  · subst hyear
    rw [show w = Text.padded 4 n from h]
    exact Text.isNatural_padded 4 n
  · rcases (Field.form_iff hyear).mp h with (rfl | rfl) | ⟨hday, _⟩
    · exact Text.isNatural_decimal n
    · exact Text.isNatural_padded 2 n
    · exact absurd hday hf

variable {value : Field → Nat}

theorem not_goesOn_of_forms {p : Piece} {pieces : List Piece}
    (hapart : ∀ q ∈ pieces.head?, p.Apart q) {t : Text} (h : Forms value pieces t) :
    t.head?.any p.goesOn = false := by
  cases h with
  | nil => rfl
  | @cons q pieces w rest hq _ =>
    have hpq := hapart q rfl
    cases p with
    | field f =>
      cases q with
      | field g => exact hpq.elim
      | blanks =>
        obtain ⟨b, w, rfl⟩ := List.exists_cons_of_ne_nil hq.1
        show (digitValue? b).isSome = false
        rw [digitValue?_of_isBlank (hq.2 b List.mem_cons_self)]
        rfl
      | literal c =>
        subst hq
        show (digitValue? c).isSome = false
        rw [show digitValue? c = none from hpq]
        rfl
    | blanks =>
      cases q with
      | field g => exact Text.head?_of_isNatural (isNatural_of_form hpq hq) rest
      | blanks => exact hpq.elim
      | literal c =>
        subst hq
        exact hpq
    | literal c =>
      cases hhead : (w ++ rest).head? <;> rfl

theorem head?_blankRests {c : Char} {w rest : Text} (hw : ∀ b ∈ c :: w, isBlank b)
    (hrest : rest.head?.any isBlank = false) (longer : List Text) :
    (blankRests longer (c :: w ++ rest)).head? = some rest := by
  induction w generalizing c longer with
  | nil =>
    rw [List.singleton_append, blankRests, if_pos (hw c List.mem_cons_self)]
    cases rest with
    | nil => rfl
    | cons d rest =>
      have hd : isBlank d = false := hrest
      rw [blankRests, if_neg (Bool.eq_false_iff.mp hd)]
      rfl
  | cons d w ih =>
    rw [List.cons_append, blankRests, if_pos (hw c List.mem_cons_self)]
    exact ih (fun b hb => hw b (List.mem_cons_of_mem c hb)) _

theorem head?_readings_of_form (hvalue : ∀ f : Field, f.InRange (value f)) {p : Piece}
    {w rest : Text} (hp : p.Form value w) (hrest : rest.head?.any p.goesOn = false)
    (v : FieldValues) :
    ∃ v', (p.readings v (w ++ rest)).head? = some (v', rest) ∧
      ∀ f, v'.get f = if p = field f then value f else v.get f := by
  cases p with
  | field f =>
    refine ⟨v.set (value f) f, ?_, ?_⟩
    · rw [readings, List.head?_map, Field.head?_readings_of_form (hvalue f) hp hrest,
        Option.map_some]
    · intro g
      rw [FieldValues.get_set]
      by_cases hg : f = g
      · subst hg
        rw [if_pos rfl, if_pos rfl]
      · rw [if_neg hg, if_neg fun heq => hg (field.inj heq)]
  | blanks =>
    obtain ⟨hne, hblank⟩ := hp
    obtain ⟨c, w, rfl⟩ := List.exists_cons_of_ne_nil hne
    refine ⟨v, ?_, fun f => ?_⟩
    · rw [readings, List.head?_map, head?_blankRests hblank hrest, Option.map_some]
    · simp only [reduceCtorEq, if_false]
  | literal c =>
    rw [Form] at hp
    subst hp
    refine ⟨v, ?_, fun f => ?_⟩
    · rw [List.singleton_append, readings, if_pos rfl, List.head?_cons]
    · simp only [reduceCtorEq, if_false]

theorem head?_readAll_cons {v v' : FieldValues} {t t' : Text} {p : Piece} {pieces : List Piece}
    {r : FieldValues × Text} (h : (p.readings v t).head? = some (v', t'))
    (hrest : (readAll v' t' pieces).head? = some r) :
    (readAll v t (p :: pieces)).head? = some r := by
  rw [List.head?_eq_some_iff] at h
  obtain ⟨later, hreadings⟩ := h
  rw [readAll, hreadings, List.flatMap_cons, List.head?_append, hrest, Option.some_or]

/-- Forms of pieces that can be told apart are read off first, so nothing is tried again. -/
theorem head?_readAll_of_forms (hvalue : ∀ f : Field, f.InRange (value f)) {pieces : List Piece}
    (hpieces : pieces.IsChain Apart) {t : Text} (h : Forms value pieces t) (v : FieldValues) :
    ∃ v', (readAll v t pieces).head? = some (v', []) ∧
      ∀ f, v'.get f = if field f ∈ pieces then value f else v.get f := by
  induction h generalizing v with
  | nil => exact ⟨v, rfl, fun f => (if_neg List.not_mem_nil).symm⟩
  | @cons p pieces w rest hp h ih =>
    obtain ⟨hapart, hpieces⟩ := List.isChain_cons.mp hpieces
    obtain ⟨v₁, hfirst, hv₁⟩ := head?_readings_of_form hvalue hp (not_goesOn_of_forms hapart h) v
    obtain ⟨v₂, hlater, hv₂⟩ := ih hpieces v₁
    refine ⟨v₂, head?_readAll_cons hfirst hlater, fun f => ?_⟩
    rw [hv₂, hv₁]
    by_cases hmem : field f ∈ pieces
    · rw [if_pos hmem, if_pos (List.mem_cons_of_mem p hmem)]
    · rw [if_neg hmem]
      by_cases hf : p = field f
      · subst hf
        rw [if_pos rfl, if_pos List.mem_cons_self]
      · rw [if_neg hf, if_neg fun h => (List.mem_cons.mp h).elim (fun h => hf h.symm) hmem]

end Apart

section Read

variable {pieces : List Piece} {t : Text} {c : Civil}

theorem read?_of_forms (hpieces : pieces.IsChain Apart) (h : Forms c.value pieces t)
    (hdefault : ∀ f, field f ∉ pieces → c.value f = FieldValues.default.get f)
    (hmicro : c.clock.microsecond = 0) : read? pieces t = some c := by
  obtain ⟨v, hhead, hv⟩ := head?_readAll_of_forms c.inRange_value hpieces h .default
  obtain ⟨later, hreadings⟩ := List.head?_eq_some_iff.mp hhead
  rw [read?, hreadings]
  refine FieldValues.civil?_eq_some_iff.mpr ⟨fun f => ?_, hmicro⟩
  rw [hv]
  split
  · rfl
  · rename_i hmem
    exact (hdefault f hmem).symm

theorem forms_of_read? (hpieces : pieces.Pairwise Distinct) (ht : ∀ c ∈ t, c.toNat < 0x80)
    (h : read? pieces t = some c) : Forms c.value pieces t ∧
      (∀ f, field f ∉ pieces → c.value f = FieldValues.default.get f) ∧
      c.clock.microsecond = 0 := by
  obtain ⟨v, hmem, hcivil⟩ := exists_readAll_of_read? h
  obtain ⟨hvalue, hmicro⟩ := FieldValues.civil?_eq_some_iff.mp hcivil
  obtain ⟨w, rfl, hforms, hkept⟩ := forms_of_mem_readAll ht hpieces hmem
  rw [List.append_nil]
  rw [funext hvalue] at hforms
  refine ⟨hforms, fun f hf => ?_, hmicro⟩
  rw [← hvalue, hkept f hf]

end Read

end Piece

namespace Layout

theorem mem_fields {l : Layout} {f : Field} : f ∈ l.fields ↔ .field f ∈ l.pieces := by
  rw [fields, List.mem_filter, decide_eq_true_iff, and_iff_right f.mem_all]

/-- The text is in the form of the layout, where it spells the wall time `c`. -/
structure Spells (l : Layout) (t : Text) (c : Civil) : Prop where
  forms : Piece.Forms c.value l.pieces t
  default : ∀ f, f ∉ l.fields → c.value f = FieldValues.default.get f
  microsecond : c.clock.microsecond = 0

theorem read?_of_spells {l : Layout} {t : Text} {c : Civil} (h : l.Spells t c) :
    l.read? t = some c :=
  Piece.read?_of_forms (by cases l <;> decide) h.forms
    (fun f hf => h.default f fun hmem => hf (mem_fields.mp hmem)) h.microsecond

theorem read?_eq_some_iff {l : Layout} {t : Text} (ht : ∀ c ∈ t, c.toNat < 0x80) {c : Civil} :
    l.read? t = some c ↔ l.Spells t c := by
  refine ⟨fun h => ?_, read?_of_spells⟩
  have hpieces : l.pieces.Pairwise Piece.Distinct := by
    cases l <;> decide
  obtain ⟨hforms, hdefault, hmicro⟩ := Piece.forms_of_read? hpieces ht h
  exact ⟨hforms, fun f hf => hdefault f fun hmem => hf (mem_fields.mpr hmem), hmicro⟩

end Layout

end TimePhrase
