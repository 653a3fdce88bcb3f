import TimePhrase.Proofs.Zone.Changes
import TimePhrase.Zone.Known

namespace TimePhrase

namespace History

def isLate (h : History) (c : Change) : Bool := h.changes.all (·.instant < c.instant)

/-- The listed changes and those of the rule in the first `years` years, from the year 0 on. -/
def timeline (h : History) (years : Nat) : List Change :=
  match h.rule with
  | none => h.changes
  | some r => h.changes ++ (r.changesFrom 0 years).filter h.isLate

theorem lastInstant_mem {t : Int} {l : List Change} :
    lastInstant t l = t ∨ ∃ c ∈ l, c.instant = lastInstant t l := by
  induction l generalizing t with
  | nil => exact .inl rfl
  | cons c rest ih =>
    refine .inr ?_
    rcases ih (t := c.instant) with hlast | ⟨d, hd, hlast⟩
    · exact ⟨c, List.mem_cons_self, hlast.symm⟩
    · exact ⟨d, List.mem_cons_of_mem c hd, hlast⟩

section Late

variable {h : History} {r : YearlyRule} {y : Nat}

theorem JoinsIn.lt_of_isLate (hj : h.JoinsIn r y) {c : Change} (hc : h.isLate c = true) :
    h.lastListed < c.instant := by
  have hstart : yearSecond 1 + 31536000 ≤ yearSecond 2 := yearSecond_succ (by decide)
  have hyear : yearSecond 2 ≤ yearSecond y := yearSecond_mono (by decide) hj.year
  have hlow := hj.low
  rcases lastInstant_mem (t := yearSecond 1) (l := h.changes) with hlast | ⟨d, hd, hlast⟩
  · rw [lastListed, hlast] at hlow
    omega
  · rw [lastListed, ← hlast]
    exact of_decide_eq_true (List.all_eq_true.mp hc d hd)

theorem Regular.isLate_of_lt (hr : h.Regular) {c : Change} (hc : h.lastListed < c.instant) :
    h.isLate c = true := by
  refine List.all_eq_true.mpr fun d hd => decide_eq_true ?_
  have hlast := (hr.spaced.bounds hd).2.1
  simp only [lastListed] at hc
  omega

theorem JoinsIn.year_le (hj : h.JoinsIn r y) {z : Nat} {c : Change}
    (hc : YearlyRule.Within z c) (hlate : h.isLate c = true) : y ≤ z := by
  have hlow := hj.low
  have hlast := hj.lt_of_isLate hlate
  have hhigh := hc.high
  apply Nat.le_of_not_lt
  intro hz
  have hyear := hj.year
  rcases Nat.eq_zero_or_pos z with rfl | hpos
  · have hzero : yearSecond 0 = yearSecond 1 := rfl
    have hstart : yearSecond 1 + 31536000 ≤ yearSecond 2 := yearSecond_succ (by decide)
    have hmono : yearSecond 2 ≤ yearSecond y := yearSecond_mono (by decide) hyear
    omega
  · have hsucc := yearSecond_succ hpos
    have hmono : yearSecond (z + 1) ≤ yearSecond y := yearSecond_mono (Nat.le_add_left 1 z) hz
    omega

theorem JoinsIn.week_of_isLate (hj : h.JoinsIn r y) (hrule : r.Regular) {z : Nat} {c : Change}
    (hc : c ∈ r.changesOf z) (hlate : h.isLate c = true) : h.lastListed + 604800 ≤ c.instant := by
  have hlast := hj.lt_of_isLate hlate
  have hwithin := hrule.within hc
  rcases Nat.eq_or_lt_of_le (hj.year_le hwithin hlate) with rfl | hz
  · exact hj.week c hc hlast
  · have hmono : yearSecond (y + 1) ≤ yearSecond z := yearSecond_mono (Nat.le_add_left 1 y) hz
    have hhigh := hj.high
    have hlow := hwithin.low
    omega

theorem JoinsIn.longPast (hj : h.JoinsIn r y) {x z : Nat} (hxz : x < z) {c : Change}
    (hc : YearlyRule.Within x c) (hlate : h.isLate c = true) {v : Int} (hv : yearSecond z ≤ v) :
    LongPast v c := by
  have hyear := hj.year
  have hx := hj.year_le hc hlate
  have hsucc := yearSecond_succ (show 1 ≤ x by omega)
  have hmono : yearSecond (x + 1) ≤ yearSecond z := yearSecond_mono (Nat.le_add_left 1 x) hxz
  have hhigh := hc.high
  exact ⟨by omega, hc.offset⟩

theorem changesFrom_around (r : YearlyRule) {years : Nat} (hy : 1 ≤ y) (hyears : y < years) :
    r.changesFrom 0 years = r.changesFrom 0 (y - 1) ++
      (r.changesOf (y - 1) ++ (r.changesOf y ++ r.changesFrom (y + 1) (years - y - 1))) := by
  have hsucc : y - 1 + 1 = y := by omega
  obtain ⟨n, rfl⟩ : ∃ n, years = y - 1 + (n + 1 + 1) := ⟨years - y - 1, by omega⟩
  have hcount : y - 1 + (n + 1 + 1) - y - 1 = n := by omega
  rw [YearlyRule.changesFrom_add, Nat.zero_add, YearlyRule.changesFrom,
    YearlyRule.changesFrom, hsucc, hcount]

theorem farAhead_changesFrom (hrule : r.Regular) (p : Change → Bool) (n : Nat) {v : Int}
    (hv : v < yearSecond (y + 1)) : FarAhead v ((r.changesFrom (y + 1) n).filter p) := by
  intro c hc
  obtain ⟨x, hx, _, hc⟩ :=
    YearlyRule.mem_changesFrom (List.mem_filter.mp (List.mem_of_mem_head? hc)).1
  have hwithin := hrule.within hc
  have hmono := yearSecond_mono (Nat.le_add_left 1 y) hx
  have hlow := hwithin.low
  exact ⟨by omega, hwithin.offset⟩

end Late

theorem Regular.spaced_timeline {h : History} (hr : h.Regular) (years : Nat) :
    Spaced (yearSecond 1) (h.timeline years) := by
  simp only [timeline]
  split
  · exact hr.spaced
  · rename_i r heq
    obtain ⟨hrule, y, hj⟩ := hr.rule r heq
    have hyear := hj.year
    have hzero : (r.changesOf 0).filter h.isLate = [] := by
      refine List.filter_eq_nil_iff.mpr fun c hc hlate => ?_
      have := hj.year_le (hrule.within hc) hlate
      omega
    apply hr.spaced.append
    cases years with
    | zero => trivial
    | succ n =>
      rw [YearlyRule.changesFrom, List.filter_append, hzero, List.nil_append]
      apply hrule.spaced_filter h.isLate (by decide)
      intro z _ c hc hlate
      exact hj.week_of_isLate hrule hc hlate

/-- The changes for a year and those of all years differ only long ago and far ahead. -/
structure SameIn (h : History) (years y : Nat) (past past' near ahead : List Change) : Prop where
  changesFor_eq : h.changesFor y = past ++ near
  timeline_eq : h.timeline years = past' ++ near ++ ahead
  past_eq : past = past' ∨ lastOffset h.first past = lastOffset h.first past' ∧
    ∀ v, yearSecond y ≤ v → ∀ c, c ∈ past ∨ c ∈ past' → LongPast v c
  farAhead : ∀ v, v < yearSecond (y + 1) → FarAhead v ahead

theorem changesFor_of_rule {h : History} {r : YearlyRule} (heq : h.rule = some r) (y : Nat) :
    h.changesFor y = h.changes ++ ((r.changesOf (y - 1)).filter h.isLate ++
      (r.changesOf y).filter h.isLate) := by
  rw [← List.filter_append]
  simp only [changesFor, heq]
  rfl

theorem timeline_of_rule {h : History} {r : YearlyRule} (heq : h.rule = some r) {years y : Nat}
    (hy : 1 ≤ y) (hyears : y < years) :
    h.timeline years = h.changes ++ ((r.changesFrom 0 (y - 1)).filter h.isLate ++
      ((r.changesOf (y - 1)).filter h.isLate ++ ((r.changesOf y).filter h.isLate ++
        (r.changesFrom (y + 1) (years - y - 1)).filter h.isLate))) := by
  rw [← List.filter_append, ← List.filter_append, ← List.filter_append,
    ← changesFrom_around r hy hyears]
  simp only [timeline, heq]

theorem Regular.sameIn_of_late {h : History} (hr : h.Regular) {r : YearlyRule}
    (heq : h.rule = some r) {years y x : Nat} (hyears : y < years) (hx : x < y - 1)
    {c : Change} (hc : c ∈ r.changesOf x) (hlate : h.isLate c = true) :
    ∃ past past' near ahead, h.SameIn years y past past' near ahead := by
  obtain ⟨hrule, z, hj⟩ := hr.rule r heq
  have hyear := hj.year
  have hxz := hj.year_le (hrule.within hc) hlate
  have hlast := hj.lt_of_isLate hlate
  obtain ⟨d, e, hde, hd, he, hbetween⟩ := hrule.changesOf_eq (y - 1)
  have hcd := YearlyRule.Within.lt_of_year_lt (by omega) hx (hrule.within hc) hd
  have hdlate : h.isLate d = true := hr.isLate_of_lt (by omega)
  have helate : h.isLate e = true := hr.isLate_of_lt (by omega)
  have hprevious : (r.changesOf (y - 1)).filter h.isLate = [d, e] := by
    simp only [hde, List.filter_cons, hdlate, helate, if_true, List.filter_nil]
  have hlisted (v : Int) (hv : yearSecond y ≤ v) (f : Change) (hf : f ∈ h.changes) :
      LongPast v f := by
    have hbounds := hr.spaced.bounds hf
    have hcpast := (hj.longPast (show x < y by omega) (hrule.within hc) hlate hv).1
    simp only [lastListed] at hlast
    exact ⟨by omega, hbounds.2.2⟩
  have hpair (v : Int) (hv : yearSecond y ≤ v) (f : Change) (hf : f ∈ [d, e]) : LongPast v f := by
    rcases List.mem_cons.mp hf with rfl | hf
    · exact hj.longPast (by omega) hd hdlate hv
    · rw [List.mem_singleton.mp hf]
      exact hj.longPast (by omega) he helate hv
  refine ⟨h.changes ++ [d, e], h.changes ++ (r.changesFrom 0 (y - 1)).filter h.isLate ++ [d, e],
    (r.changesOf y).filter h.isLate, (r.changesFrom (y + 1) (years - y - 1)).filter h.isLate,
    ⟨?_, ?_, .inr ⟨?_, ?_⟩, fun v hv => farAhead_changesFrom hrule h.isLate _ hv⟩⟩
  · rw [changesFor_of_rule heq, hprevious, List.append_assoc]
  · rw [timeline_of_rule heq (show 1 ≤ y by omega) hyears, hprevious]
    simp only [List.append_assoc]
  · simp only [lastOffset, List.foldl_append, List.foldl_cons, List.foldl_nil]
  · intro v hv f hf
    simp only [List.mem_append] at hf
    rcases hf with (hf | hf) | (hf | hf) | hf
    · exact hlisted v hv f hf
    · exact hpair v hv f hf
    · exact hlisted v hv f hf
    · obtain ⟨hf, hflate⟩ := List.mem_filter.mp hf
      obtain ⟨u, _, hu, hf⟩ := YearlyRule.mem_changesFrom hf
      exact hj.longPast (show u < y by omega) (hrule.within hf) hflate hv
    · exact hpair v hv f hf

theorem Regular.sameIn {h : History} (hr : h.Regular) {years y : Nat} (hy : 1 ≤ y)
    (hyears : y < years) : ∃ past past' near ahead, h.SameIn years y past past' near ahead := by
  cases heq : h.rule with
  | none =>
    refine ⟨[], [], h.changes, [], ⟨?_, ?_, .inl rfl, ?_⟩⟩
    · simp only [changesFor, heq, List.nil_append]
    · simp only [timeline, heq, List.nil_append, List.append_nil]
    · intro v _ c hc
      cases hc
  | some r =>
    cases hearly : (r.changesFrom 0 (y - 1)).filter h.isLate with
    | nil =>
      refine ⟨h.changes, h.changes, (r.changesOf (y - 1)).filter h.isLate ++
        (r.changesOf y).filter h.isLate, (r.changesFrom (y + 1) (years - y - 1)).filter h.isLate,
        ⟨changesFor_of_rule heq y, ?_, .inl rfl, ?_⟩⟩
      · rw [timeline_of_rule heq hy hyears, hearly, List.nil_append]
        simp only [List.append_assoc]
      · exact fun v hv => farAhead_changesFrom (hr.rule r heq).1 h.isLate _ hv
    | cons c rest =>
      have hc : c ∈ (r.changesFrom 0 (y - 1)).filter h.isLate := by
        rw [hearly]
        exact List.mem_cons_self
      obtain ⟨hc, hlate⟩ := List.mem_filter.mp hc
      obtain ⟨x, _, hx, hc⟩ := YearlyRule.mem_changesFrom hc
      exact hr.sameIn_of_late heq hyears (by omega) hc hlate

section Lookup

variable {h : History} {years : Nat}

theorem Regular.bounded (hr : h.Regular) {c : Change} (hc : c ∈ h.timeline years) :
    OffsetBounded c.offset :=
  ((hr.spaced_timeline years).bounds hc).2.2

/-- A clock reading is looked up as if along the changes of all years. -/
theorem Regular.wallOffset_eq (hr : h.Regular) {c : Civil} (hc : c.date.year < years)
    (fold : Bool) :
    h.wallOffset c fold = offsetOnWall fold c.seconds h.first (h.timeline years) := by
  obtain ⟨past, past', near, ahead, hsame⟩ := hr.sameIn c.date.year_bounds.1 hc
  have hyear := c.seconds_of_year
  rw [wallOffset, hsame.changesFor_eq, hsame.timeline_eq,
    offsetOnWall_farAhead (hsame.farAhead _ hyear.2) hr.first ?_ fold]
  · rcases hsame.past_eq with rfl | ⟨hoffset, hlong⟩
    · rfl
    · rw [offsetOnWall_append hr.first (fun d hd => hlong _ hyear.1 d (.inl hd)), hoffset,
        offsetOnWall_append hr.first (fun d hd => hlong _ hyear.1 d (.inr hd))]
  · intro d hd
    have hmem : d ∈ h.timeline years := by
      rw [hsame.timeline_eq]
      exact List.mem_append_left ahead hd
    exact hr.bounded hmem

theorem Regular.utcOffset_eq (hr : h.Regular) {c : Civil} (hc : c.date.year < years) :
    h.utcOffset c = offsetAt c.seconds h.first false (h.timeline years) := by
  obtain ⟨past, past', near, ahead, hsame⟩ := hr.sameIn c.date.year_bounds.1 hc
  have hyear := c.seconds_of_year
  rw [utcOffset, hsame.changesFor_eq, hsame.timeline_eq,
    offsetAt_farAhead (hsame.farAhead _ hyear.2)]
  rcases hsame.past_eq with rfl | ⟨hoffset, hlong⟩
  · rfl
  · rw [offsetAt_append hr.first (fun d hd => hlong _ hyear.1 d (.inl hd)), hoffset,
      offsetAt_append hr.first (fun d hd => hlong _ hyear.1 d (.inr hd))]

end Lookup

end History

end TimePhrase
