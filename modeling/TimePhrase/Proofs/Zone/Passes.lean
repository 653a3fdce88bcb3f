import TimePhrase.Proofs.Zone.Changes

namespace TimePhrase.History

/-- The second on the wall at instant `u`. -/
def shown (offset : Int) (l : List Change) (u : Int) : Int := u + (offsetAt u offset false l).1

/-- The instant of second `v` on the wall, on the first pass. -/
def firstShown (offset : Int) (l : List Change) (v : Int) : Int :=
  v - offsetOnWall false v offset l

/-- The length of the gap that swallows second `v`, and zero if none does. -/
def swallowed (offset : Int) (l : List Change) (v : Int) : Int :=
  max 0 (offsetOnWall true v offset l - offsetOnWall false v offset l)

namespace OneChangeNear

variable {offset x before : Int} {l : List Change} {c : Change}

theorem offsetAt_cases (h : OneChangeNear offset l x before c) {u : Int}
    (hlow : x - 172800 ≤ u) (hhigh : u ≤ x + 172800) :
    (u < c.instant ∧ offsetAt u offset false l = (before, false)) ∨
      (c.instant ≤ u ∧ offsetAt u offset false l =
        (c.offset, decide (u < c.instant + (before - c.offset)))) := by
  rw [h.atInstant u hlow hhigh]
  by_cases hu : c.instant ≤ u
  · exact .inr ⟨hu, by rw [offsetAt, if_pos hu, offsetAt]⟩
  · exact .inl ⟨by omega, by rw [offsetAt, if_neg hu]⟩

theorem shown_cases (h : OneChangeNear offset l x before c) {u : Int}
    (hlow : x - 172800 ≤ u) (hhigh : u ≤ x + 172800) :
    (u < c.instant ∧ shown offset l u = u + before) ∨
      (c.instant ≤ u ∧ shown offset l u = u + c.offset) := by
  rcases h.offsetAt_cases hlow hhigh with ⟨hu, hat⟩ | ⟨hu, hat⟩
  · exact .inl ⟨hu, by rw [shown, hat]⟩
  · exact .inr ⟨hu, by rw [shown, hat]⟩

theorem firstPass_cases (h : OneChangeNear offset l x before c) {v : Int}
    (hlow : x - 172800 ≤ v) (hhigh : v ≤ x + 172800) :
    (v < c.instant + max before c.offset ∧ offsetOnWall false v offset l = before) ∨
      (c.instant + max before c.offset ≤ v ∧ offsetOnWall false v offset l = c.offset) := by
  rw [h.onWall v hlow hhigh]
  by_cases hv : c.instant + max before c.offset ≤ v
  · exact .inr ⟨hv, by rw [offsetOnWall, if_neg Bool.false_ne_true, if_pos hv, offsetOnWall]⟩
  · exact .inl ⟨by omega, by rw [offsetOnWall, if_neg Bool.false_ne_true, if_neg hv]⟩

theorem secondPass_cases (h : OneChangeNear offset l x before c) {v : Int}
    (hlow : x - 172800 ≤ v) (hhigh : v ≤ x + 172800) :
    (v < c.instant + min before c.offset ∧ offsetOnWall true v offset l = before) ∨
      (c.instant + min before c.offset ≤ v ∧ offsetOnWall true v offset l = c.offset) := by
  rw [h.onWall v hlow hhigh]
  by_cases hv : c.instant + min before c.offset ≤ v
  · exact .inr ⟨hv, by rw [offsetOnWall, if_pos rfl, if_pos hv, offsetOnWall]⟩
  · exact .inl ⟨by omega, by rw [offsetOnWall, if_pos rfl, if_neg hv]⟩

theorem firstShown_cases (h : OneChangeNear offset l x before c) {v : Int}
    (hlow : x - 172800 ≤ v) (hhigh : v ≤ x + 172800) :
    (v < c.instant + max before c.offset ∧ firstShown offset l v = v - before) ∨
      (c.instant + max before c.offset ≤ v ∧ firstShown offset l v = v - c.offset) := by
  rcases h.firstPass_cases hlow hhigh with ⟨hv, hoffset⟩ | ⟨hv, hoffset⟩
  · exact .inl ⟨hv, by rw [firstShown, hoffset]⟩
  · exact .inr ⟨hv, by rw [firstShown, hoffset]⟩

theorem swallowed_cases (h : OneChangeNear offset l x before c) {v : Int}
    (hlow : x - 172800 ≤ v) (hhigh : v ≤ x + 172800) :
    (c.instant + before ≤ v ∧ v < c.instant + c.offset ∧
        swallowed offset l v = c.offset - before) ∨
      (¬ (c.instant + before ≤ v ∧ v < c.instant + c.offset) ∧ swallowed offset l v = 0) := by
  rw [swallowed]
  rcases h.firstPass_cases hlow hhigh with ⟨_, hfirst⟩ | ⟨_, hfirst⟩
  · rcases h.secondPass_cases hlow hhigh with ⟨_, hsecond⟩ | ⟨_, hsecond⟩
    · omega
    · omega
  · rcases h.secondPass_cases hlow hhigh with ⟨_, hsecond⟩ | ⟨_, hsecond⟩
    · omega
    · omega

end OneChangeNear

section Spaced

variable {t offset : Int} {l : List Change}

theorem Spaced.shown_bounds (h : Spaced t l) (ho : OffsetBounded offset) (u : Int) :
    u - 57600 ≤ shown offset l u ∧ shown offset l u ≤ u + 57600 := by
  obtain ⟨before, c, hnear, _⟩ := h.oneChangeNear ho u
  have ⟨hb, hb'⟩ := hnear.before_bounded
  have ⟨ha, ha'⟩ := hnear.after_bounded
  rcases hnear.shown_cases (u := u) (by omega) (by omega) with ⟨_, hu⟩ | ⟨_, hu⟩
  · omega
  · omega

theorem Spaced.firstShown_bounds (h : Spaced t l) (ho : OffsetBounded offset) (v : Int) :
    v - 57600 ≤ firstShown offset l v ∧ firstShown offset l v ≤ v + 57600 := by
  obtain ⟨before, c, hnear, _⟩ := h.oneChangeNear ho v
  have ⟨hb, hb'⟩ := hnear.before_bounded
  have ⟨ha, ha'⟩ := hnear.after_bounded
  rcases hnear.firstShown_cases (v := v) (by omega) (by omega) with ⟨_, hv⟩ | ⟨_, hv⟩
  · omega
  · omega

theorem Spaced.swallowed_bounds (h : Spaced t l) (ho : OffsetBounded offset) (v : Int) :
    0 ≤ swallowed offset l v ∧ swallowed offset l v ≤ 115200 := by
  obtain ⟨before, c, hnear, _⟩ := h.oneChangeNear ho v
  have ⟨hb, hb'⟩ := hnear.before_bounded
  have ⟨ha, ha'⟩ := hnear.after_bounded
  rcases hnear.swallowed_cases (v := v) (by omega) (by omega) with ⟨_, _, hv⟩ | ⟨_, hv⟩
  · omega
  · omega

theorem Spaced.offsetOnWall_shown (h : Spaced t l) (ho : OffsetBounded offset) (u : Int) :
    offsetOnWall (offsetAt u offset false l).2 (shown offset l u) offset l =
      (offsetAt u offset false l).1 := by
  obtain ⟨before, c, hnear, _⟩ := h.oneChangeNear ho u
  have hshown := h.shown_bounds ho u
  have hfirst := hnear.firstPass_cases (v := shown offset l u) (by omega) (by omega)
  have hsecond := hnear.secondPass_cases (v := shown offset l u) (by omega) (by omega)
  have hat := hnear.offsetAt_cases (u := u) (by omega) (by omega)
  have heq : shown offset l u = u + (offsetAt u offset false l).1 := rfl
  rcases hat with ⟨hu, hat⟩ | ⟨hu, hat⟩
  · rw [hat] at heq ⊢
    rcases hfirst with ⟨_, hv⟩ | ⟨hpast, hv⟩
    · exact hv
    · omega
  · rw [hat] at heq ⊢
    by_cases hrepeat : u < c.instant + (before - c.offset)
    · rw [decide_eq_true hrepeat]
      rcases hsecond with ⟨hahead, _⟩ | ⟨_, hv⟩
      · omega
      · exact hv
    · rw [decide_eq_false hrepeat]
      rcases hfirst with ⟨hahead, _⟩ | ⟨_, hv⟩
      · omega
      · exact hv

theorem Spaced.firstShown_shown_le (h : Spaced t l) (ho : OffsetBounded offset) (u : Int) :
    firstShown offset l (shown offset l u) ≤ u ∧
      (firstShown offset l (shown offset l u) = u ↔ (offsetAt u offset false l).2 = false) := by
  obtain ⟨before, c, hnear, _⟩ := h.oneChangeNear ho u
  have hshown := h.shown_bounds ho u
  have hfirst := hnear.firstShown_cases (v := shown offset l u) (by omega) (by omega)
  have hat := hnear.offsetAt_cases (u := u) (by omega) (by omega)
  have heq : shown offset l u = u + (offsetAt u offset false l).1 := rfl
  rcases hat with ⟨hu, hat⟩ | ⟨hu, hat⟩
  · rw [hat] at heq ⊢
    simp only [iff_true]
    rcases hfirst with ⟨_, hv⟩ | ⟨_, hv⟩
    · omega
    · omega
  · rw [hat] at heq ⊢
    simp only [decide_eq_false_iff_not]
    rcases hfirst with ⟨_, hv⟩ | ⟨_, hv⟩
    · omega
    · omega

theorem Spaced.shown_firstShown (h : Spaced t l) (ho : OffsetBounded offset) (u : Int) :
    shown offset l (firstShown offset l (shown offset l u)) = shown offset l u := by
  obtain ⟨before, c, hnear, _⟩ := h.oneChangeNear ho u
  have hshown := h.shown_bounds ho u
  have hbound := h.firstShown_bounds ho (shown offset l u)
  have hfirst := hnear.firstShown_cases (v := shown offset l u) (by omega) (by omega)
  have hu := hnear.shown_cases (u := u) (by omega) (by omega)
  have hat := hnear.shown_cases (u := firstShown offset l (shown offset l u)) (by omega) (by omega)
  omega

theorem Spaced.change_between (h : Spaced t l) (ho : OffsetBounded offset) {v u : Int}
    (hvu : v < u) (hle : shown offset l u ≤ shown offset l v) :
    u ≤ v + 115200 ∧ t + 604800 ≤ u := by
  obtain ⟨before, c, hnear, hlate⟩ := h.oneChangeNear ho u
  have hu := h.shown_bounds ho u
  have hv := h.shown_bounds ho v
  have hcu := hnear.shown_cases (u := u) (by omega) (by omega)
  have hcv := hnear.shown_cases (u := v) (by omega) (by omega)
  have hne : before ≠ c.offset := by omega
  have := hlate hne
  omega

theorem Spaced.firstShown_lt (h : Spaced t l) (ho : OffsetBounded offset) {v u : Int}
    (hvu : v < u) (hle : shown offset l u ≤ shown offset l v) :
    firstShown offset l (shown offset l u) < u := by
  obtain ⟨before, c, hnear, _⟩ := h.oneChangeNear ho u
  have hu := h.shown_bounds ho u
  have hv := h.shown_bounds ho v
  have hcu := hnear.shown_cases (u := u) (by omega) (by omega)
  have hcv := hnear.shown_cases (u := v) (by omega) (by omega)
  have hfirst := hnear.firstShown_cases (v := shown offset l u) (by omega) (by omega)
  omega

/-- A second ahead on the wall comes later on the first pass, unless it was shown before. -/
theorem Spaced.le_firstShown_iff (h : Spaced t l) (ho : OffsetBounded offset) {u w : Int}
    (hw : shown offset l u ≤ w) :
    u ≤ firstShown offset l w ↔ ∀ v < u, shown offset l v ≠ w := by
  obtain ⟨before, c, hnear, _⟩ := h.oneChangeNear ho u
  have hu := h.shown_bounds ho u
  have hwbound := h.firstShown_bounds ho w
  have hcu := hnear.shown_cases (u := u) (by omega) (by omega)
  constructor
  · rintro hle v hv rfl
    have hvbound := h.shown_bounds ho v
    have hcv := hnear.shown_cases (u := v) (by omega) (by omega)
    have hfirst := hnear.firstShown_cases (v := shown offset l v) (by omega) (by omega)
    omega
  · intro hnew
    by_cases hfar : u + 57600 < w - 57600
    · omega
    · rw [← Int.not_lt]
      intro hlt
      apply hnew _ hlt
      have hfirst := hnear.firstShown_cases (v := w) (by omega) (by omega)
      have hcv := hnear.shown_cases (u := firstShown offset l w) (by omega) (by omega)
      omega

/-- A second past on the wall came earlier on the first pass, unless a gap swallows it. -/
theorem Spaced.firstShown_le_iff (h : Spaced t l) (ho : OffsetBounded offset) {u w : Int}
    (hw : w ≤ shown offset l u) :
    firstShown offset l w ≤ u ↔ w + swallowed offset l w ≤ shown offset l u := by
  obtain ⟨before, c, hnear, _⟩ := h.oneChangeNear ho u
  have hu := h.shown_bounds ho u
  have hwbound := h.firstShown_bounds ho w
  have hbounds := h.swallowed_bounds ho w
  by_cases hfar : w + 115200 ≤ shown offset l u
  · constructor
    · intro _
      omega
    · intro _
      omega
  · have hcu := hnear.shown_cases (u := u) (by omega) (by omega)
    have hfirst := hnear.firstShown_cases (v := w) (by omega) (by omega)
    have hgap := hnear.swallowed_cases (v := w) (by omega) (by omega)
    omega

end Spaced

end TimePhrase.History
