import TimePhrase.Text.Basic

namespace TimePhrase

namespace CaseRange

theorem covers_iff {r : CaseRange} {n : Nat} :
    r.covers n = true ↔ r.first ≤ n ∧ n ≤ r.last ∧ (n - r.first) % r.stride = 0 := by
  rw [covers, Bool.and_eq_true, Bool.and_eq_true, decide_eq_true_iff, decide_eq_true_iff,
    beq_iff_eq, and_assoc]

def firstForm (r : CaseRange) : Nat := ((r.first : Int) + r.shift).toNat

def lastForm (r : CaseRange) : Nat := ((r.last : Int) + r.shift).toNat

/-- No lower-case form of this range is covered by the other one. -/
def avoids (r s : CaseRange) : Bool :=
  r.lastForm.blt s.first || s.last.blt r.firstForm ||
    ((r.stride == 2 || r.first == r.last) && s.stride == 2 &&
      ((r.first : Int) + r.shift - s.first) % 2 == 1)

theorem avoids_iff {r s : CaseRange} : r.avoids s = true ↔
    r.lastForm < s.first ∨ s.last < r.firstForm ∨
      (r.stride = 2 ∨ r.first = r.last) ∧ s.stride = 2 ∧
        ((r.first : Int) + r.shift - s.first) % 2 = 1 := by
  simp only [avoids, Bool.or_eq_true, Bool.and_eq_true, Nat.blt_eq, beq_iff_eq, or_assoc, and_assoc]

theorem not_covers_of_avoids {r s : CaseRange} (h : r.avoids s) {n m : Nat} (hn : r.covers n)
    (hm : (m : Int) = n + r.shift) : s.covers m = false := by
  rw [Bool.eq_false_iff]
  intro hcovers
  obtain ⟨hfirst, hlast, hstep⟩ := covers_iff.mp hn
  obtain ⟨hfirst', hlast', hstep'⟩ := covers_iff.mp hcovers
  rw [avoids_iff, firstForm, lastForm] at h
  rcases h with hbelow | habove | ⟨hevery, hstride, hodd⟩
  · omega
  · omega
  · rw [hstride] at hstep'
    rcases hevery with hr | hr
    · rw [hr] at hstep
      omega
    · omega

end CaseRange

/-- The character is its own lower-case form in every text. -/
structure IsSettled (c : Char) : Prop where
  lower_eq : lowerChar c = c
  not_sigma : c ≠ 'Σ'
  not_dotted : c ≠ '\u0130'

theorem lowerChar_eq_self_of_not_covers {c : Char}
    (h : ∀ r ∈ lowerRanges, r.covers c.toNat = false) : lowerChar c = c := by
  have hnone : lowerRanges.find? (·.covers c.toNat) = none := by
    rw [List.find?_eq_none]
    intro r hr
    rw [h r hr]
    exact Bool.false_ne_true
  rw [lowerChar, hnone]

theorem lowerChar_cases (c : Char) : lowerChar c = c ∨
    ∃ r ∈ lowerRanges, r.covers c.toNat = true ∧
      ((lowerChar c).toNat : Int) = c.toNat + r.shift := by
  have hvalid : ∀ r ∈ lowerRanges, 0 < (r.first : Int) + r.shift ∧
      ((r.last : Int) + r.shift < 0xD800 ∨
        0xDFFF < (r.first : Int) + r.shift ∧ (r.last : Int) + r.shift < 0x110000) := by
    decide +kernel
  cases hfound : lowerRanges.find? (·.covers c.toNat) with
  | none => exact .inl (by rw [lowerChar, hfound])
  | some r =>
    have hr := List.mem_of_find?_eq_some hfound
    have hcovers := List.find?_some hfound
    obtain ⟨hfirst, hlast, _⟩ := CaseRange.covers_iff.mp hcovers
    have hvalid := hvalid r hr
    refine .inr ⟨r, hr, hcovers, ?_⟩
    have hscalar : ((c.toNat : Int) + r.shift).toNat.isValidChar := by
      rw [Nat.isValidChar]
      omega
    have hform : (lowerChar c).toNat = ((c.toNat : Int) + r.shift).toNat := by
      rw [lowerChar, hfound]
      exact congrArg Char.toNat (dif_pos hscalar)
    omega

theorem isSettled_lowerChar {c : Char} (hsigma : c ≠ 'Σ') (hdotted : c ≠ '\u0130') :
    IsSettled (lowerChar c) := by
  have havoids : lowerRanges.all (fun r => lowerRanges.all r.avoids) = true := by decide +kernel
  have hdot : ∀ r ∈ lowerRanges, (r.last : Int) + r.shift < 0x130 ∨
      0x130 < (r.first : Int) + r.shift := by decide +kernel
  rcases lowerChar_cases c with heq | ⟨r, hr, hcovers, hform⟩
  · rw [heq]
    exact ⟨heq, hsigma, hdotted⟩
  · have huncovered : ∀ s ∈ lowerRanges, s.covers (lowerChar c).toNat = false := by
      intro s hs
      have hr := List.all_eq_true.mp (List.all_eq_true.mp havoids r hr) s hs
      exact CaseRange.not_covers_of_avoids hr hcovers hform
    refine ⟨lowerChar_eq_self_of_not_covers huncovered, ?_, ?_⟩
    · intro heq
      rw [heq] at huncovered
      exact absurd huncovered (by decide +kernel)
    · intro heq
      have hbounds := CaseRange.covers_iff.mp hcovers
      have hr := hdot r hr
      rw [heq] at hform
      have hcode : (('\u0130'.toNat : Nat) : Int) = 0x130 := rfl
      omega

theorem lowerChar_eq_space {c : Char} (h : lowerChar c = ' ') : c = ' ' := by
  have hfar : ∀ r ∈ lowerRanges, 0x20 < (r.first : Int) + r.shift := by decide +kernel
  rcases lowerChar_cases c with heq | ⟨r, hr, hcovers, hform⟩
  · rw [← heq, h]
  · have hbounds := CaseRange.covers_iff.mp hcovers
    have hfar := hfar r hr
    have hcode : ((' '.toNat : Nat) : Int) = 0x20 := rfl
    rw [h] at hform
    omega

namespace Text

theorem lowerFrom_eq_self_of_settled {t : Text} (h : ∀ c ∈ t, IsSettled c) (inWord : Bool) :
    t.lowerFrom inWord = t := by
  induction t generalizing inWord with
  | nil => rfl
  | cons c rest ih =>
    have hc := h c List.mem_cons_self
    rw [lowerFrom, ih fun d hd => h d (List.mem_cons_of_mem c hd), if_neg hc.not_sigma,
      if_neg hc.not_dotted, hc.lower_eq]
    rfl

theorem isSettled_of_mem_lowerFrom {t : Text} {inWord : Bool} {c : Char}
    (h : c ∈ t.lowerFrom inWord) : IsSettled c := by
  have hspecial : ['ς', 'σ', 'i', '\u0307'].all (fun d =>
      lowerRanges.all (!·.covers d.toNat) && d != 'Σ' && d != '\u0130') = true := by
    decide +kernel
  have hsettled {d : Char} (hd : d ∈ ['ς', 'σ', 'i', '\u0307']) : IsSettled d := by
    have hd := List.all_eq_true.mp hspecial d hd
    rw [Bool.and_eq_true, Bool.and_eq_true, List.all_eq_true, bne_iff_ne, bne_iff_ne] at hd
    obtain ⟨⟨huncovered, hsigma⟩, hdotted⟩ := hd
    refine ⟨lowerChar_eq_self_of_not_covers ?_, hsigma, hdotted⟩
    exact fun r hr => (Bool.not_eq_true' _).mp (huncovered r hr)
  induction t generalizing inWord with
  | nil => cases h
  | cons d rest ih =>
    rw [lowerFrom] at h
    rcases List.mem_append.mp h with h | h
    · split at h
      · rw [List.mem_singleton] at h
        subst h
        split
        · exact hsettled (by decide)
        · exact hsettled (by decide)
      · rename_i hsigma
        split at h
        · apply hsettled
          rw [List.mem_cons, List.mem_singleton] at h
          rcases h with rfl | rfl
          · decide
          · decide
        · rename_i hdotted
          rw [List.mem_singleton.mp h]
          exact isSettled_lowerChar hsigma hdotted
    · exact ih h

/-- The final form of a sigma is settled before the space that follows its word. -/
theorem startsCased_append_space (t rest : Text) :
    startsCased (t ++ ' ' :: rest) = startsCased t := by
  have hspace : isCaseIgnorable ' ' = false ∧ isCased ' ' = false := by decide +kernel
  rw [startsCased, startsCased, List.find?_append]
  cases t.find? (!isCaseIgnorable ·) with
  | none =>
    rw [List.find?_cons_of_pos (by rw [hspace.1]; rfl), Option.none_or]
    exact hspace.2
  | some c => rfl

theorem lowerFrom_append_space (t rest : Text) (inWord : Bool) :
    lowerFrom inWord (t ++ ' ' :: rest) = lowerFrom inWord t ++ ' ' :: lowerFrom false rest := by
  have hspace : lowerChar ' ' = ' ' ∧ isCaseIgnorable ' ' = false ∧ isCased ' ' = false := by
    decide +kernel
  induction t generalizing inWord with
  | nil =>
    simp only [List.nil_append, lowerFrom, hspace.1, hspace.2.1, hspace.2.2]
    rfl
  | cons c t ih =>
    rw [List.cons_append, lowerFrom, lowerFrom, ih, startsCased_append_space, List.append_assoc]

theorem lower_eq_nil_iff {t : Text} : t.lower = [] ↔ t = [] := by
  constructor
  · intro h
    cases t with
    | nil => rfl
    | cons c rest =>
      rw [lower, lowerFrom, List.append_eq_nil_iff] at h
      have hform := h.1
      split at hform
      · cases hform
      · split at hform <;> cases hform
  · rintro rfl
    rfl

theorem space_mem_of_lowerFrom {t : Text} {inWord : Bool} (h : ' ' ∈ t.lowerFrom inWord) :
    ' ' ∈ t := by
  induction t generalizing inWord with
  | nil => cases h
  | cons c rest ih =>
    rw [lowerFrom, List.mem_append] at h
    rcases h with h | h
    · split at h
      · rw [List.mem_singleton] at h
        split at h
        · exact absurd h (by decide)
        · exact absurd h (by decide)
      · split at h
        · exact absurd h (by decide)
        · rw [lowerChar_eq_space (List.mem_singleton.mp h).symm]
          exact List.mem_cons_self
    · exact List.mem_cons_of_mem c (ih h)

theorem lower_append_space (t rest : Text) :
    lower (t ++ ' ' :: rest) = t.lower ++ ' ' :: rest.lower :=
  lowerFrom_append_space t rest false

end Text

end TimePhrase
