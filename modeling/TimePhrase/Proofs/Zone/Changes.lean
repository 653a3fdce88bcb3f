import TimePhrase.Zone.History

namespace TimePhrase

namespace History

def lastOffset (offset : Int) (l : List Change) : Int := l.foldl (fun _ c => c.offset) offset

theorem Spaced.le_lastInstant {t : Int} {l : List Change} (h : Spaced t l) :
    t ≤ lastInstant t l := by
  induction l generalizing t with
  | nil => exact Int.le_refl t
  | cons c rest ih =>
    obtain ⟨hc, _, hrest⟩ := h
    have hlast := ih hrest
    simp only [lastInstant, List.foldl_cons] at hlast ⊢
    omega

theorem Spaced.bounds {t : Int} {l : List Change} (h : Spaced t l) {c : Change} (hc : c ∈ l) :
    t + 604800 ≤ c.instant ∧ c.instant ≤ lastInstant t l ∧ OffsetBounded c.offset := by
  induction l generalizing t with
  | nil => cases hc
  | cons d rest ih =>
    obtain ⟨hd, hoffset, hrest⟩ := h
    have hlast := hrest.le_lastInstant
    rcases List.mem_cons.mp hc with rfl | hc
    · exact ⟨hd, hlast, hoffset⟩
    · obtain ⟨hlow, hhigh⟩ := ih hrest hc
      exact ⟨by omega, hhigh⟩

theorem Spaced.append {t : Int} {l l' : List Change} (h : Spaced t l)
    (h' : Spaced (lastInstant t l) l') : Spaced t (l ++ l') := by
  induction l generalizing t with
  | nil => exact h'
  | cons c rest ih =>
    obtain ⟨hc, hoffset, hrest⟩ := h
    exact ⟨hc, hoffset, ih hrest h'⟩

/-- A change long past has had its effect, and no reading is repeated because of it. -/
def LongPast (v : Int) (c : Change) : Prop := c.instant + 115200 ≤ v ∧ OffsetBounded c.offset

theorem offsetOnWall_append {v offset : Int} (ho : OffsetBounded offset) {l : List Change}
    (h : ∀ c ∈ l, LongPast v c) (fold : Bool) (l' : List Change) :
    offsetOnWall fold v offset (l ++ l') = offsetOnWall fold v (lastOffset offset l) l' := by
  induction l generalizing offset with
  | nil => rfl
  | cons c rest ih =>
    obtain ⟨hpast, hc⟩ := h c List.mem_cons_self
    rw [List.cons_append, offsetOnWall, if_pos]
    · exact ih hc fun d hd => h d (List.mem_cons_of_mem c hd)
    · obtain ⟨_, ho⟩ := ho
      obtain ⟨_, hc⟩ := hc
      cases fold
      · simp only [Bool.false_eq_true, if_false]
        omega
      · simp only [if_true]
        omega

theorem offsetAt_append {u offset : Int} (ho : OffsetBounded offset) {l : List Change}
    (h : ∀ c ∈ l, LongPast u c) (l' : List Change) :
    offsetAt u offset false (l ++ l') = offsetAt u (lastOffset offset l) false l' := by
  induction l generalizing offset with
  | nil => rfl
  | cons c rest ih =>
    obtain ⟨hpast, hc⟩ := h c List.mem_cons_self
    have hfold : decide (u < c.instant + (offset - c.offset)) = false := by
      obtain ⟨_, ho⟩ := ho
      obtain ⟨hc, _⟩ := hc
      rw [decide_eq_false_iff_not]
      omega
    rw [List.cons_append, offsetAt, if_pos (by omega), hfold]
    exact ih hc fun d hd => h d (List.mem_cons_of_mem c hd)

/-- The first change after a walk lies so far ahead that it has no effect yet. -/
def FarAhead (v : Int) (l : List Change) : Prop :=
  ∀ c ∈ l.head?, v + 57600 < c.instant ∧ OffsetBounded c.offset

theorem offsetOnWall_farAhead {v : Int} {l' : List Change} (h : FarAhead v l') {offset : Int}
    (ho : OffsetBounded offset) {l : List Change} (hl : ∀ c ∈ l, OffsetBounded c.offset)
    (fold : Bool) : offsetOnWall fold v offset (l ++ l') = offsetOnWall fold v offset l := by
  induction l generalizing offset with
  | nil =>
    cases l' with
    | nil => rfl
    | cons c rest =>
      obtain ⟨hahead, hc, _⟩ := h c rfl
      obtain ⟨ho, _⟩ := ho
      rw [List.nil_append, offsetOnWall, offsetOnWall, if_neg]
      cases fold
      · simp only [Bool.false_eq_true, if_false]
        omega
      · simp only [if_true]
        omega
  | cons c rest ih =>
    have hrest := ih (hl c List.mem_cons_self) fun d hd => hl d (List.mem_cons_of_mem c hd)
    rw [List.cons_append, offsetOnWall, offsetOnWall, hrest]

theorem offsetAt_farAhead {u : Int} {l' : List Change} (h : FarAhead u l') (offset : Int)
    (fold : Bool) (l : List Change) :
    offsetAt u offset fold (l ++ l') = offsetAt u offset fold l := by
  induction l generalizing offset fold with
  | nil =>
    cases l' with
    | nil => rfl
    | cons c rest =>
      obtain ⟨hahead, _⟩ := h c rfl
      rw [List.nil_append, offsetAt, offsetAt, if_neg (by omega)]
  | cons c rest ih => rw [List.cons_append, offsetAt, offsetAt, ih]

/-- Within two days of second `x` the clock shows the same as one that changes only once. -/
structure OneChangeNear (offset : Int) (l : List Change) (x before : Int) (c : Change) : Prop where
  before_bounded : OffsetBounded before
  after_bounded : OffsetBounded c.offset
  onWall : ∀ v, x - 172800 ≤ v → v ≤ x + 172800 → ∀ fold,
    offsetOnWall fold v offset l = offsetOnWall fold v before [c]
  atInstant : ∀ u, x - 172800 ≤ u → u ≤ x + 172800 →
    offsetAt u offset false l = offsetAt u before false [c]

/-- A change that changes nothing stands for the lack of changes. -/
theorem oneChangeNear_of_farAhead {offset : Int} (ho : OffsetBounded offset) {l : List Change}
    {x : Int} (h : ∀ v, v ≤ x + 172800 → FarAhead v l) :
    OneChangeNear offset l x offset ⟨x, offset⟩ where
  before_bounded := ho
  after_bounded := ho
  onWall v _ hv fold := by
    have hnone := offsetOnWall_farAhead (h v hv) ho (List.forall_mem_nil _) fold
    rw [List.nil_append] at hnone
    rw [hnone]
    simp only [offsetOnWall, ite_self]
  atInstant u _ hu := by
    have hnone := offsetAt_farAhead (h u hu) offset false []
    rw [List.nil_append] at hnone
    rw [hnone]
    simp only [offsetAt, Int.sub_self, Int.add_zero]
    split
    · rename_i hx
      rw [decide_eq_false (Int.not_lt.mpr hx)]
    · rfl

theorem Spaced.oneChangeNear {t : Int} {l : List Change} (h : Spaced t l) {offset : Int}
    (ho : OffsetBounded offset) (x : Int) :
    ∃ before c, OneChangeNear offset l x before c ∧
      (before ≠ c.offset → t + 604800 ≤ c.instant) := by
  induction l generalizing t offset with
  | nil =>
    refine ⟨offset, ⟨x, offset⟩, oneChangeNear_of_farAhead ho ?_, fun hne => absurd rfl hne⟩
    intro v _ c hc
    cases hc
  | cons c rest ih =>
    obtain ⟨hc, hoffset, hrest⟩ := h
    by_cases hpast : c.instant + 288000 ≤ x
    · obtain ⟨before, d, hnear, hd⟩ := ih hrest hoffset
      have hlong (v : Int) (hv : x - 172800 ≤ v) : ∀ e ∈ [c], LongPast v e := by
        intro e he
        rw [List.mem_singleton.mp he]
        exact ⟨by omega, hoffset⟩
      refine ⟨before, d, ⟨hnear.before_bounded, hnear.after_bounded, ?_, ?_⟩, fun hne => ?_⟩
      · intro v hlow hhigh fold
        rw [← hnear.onWall v hlow hhigh fold]
        exact offsetOnWall_append ho (hlong v hlow) fold rest
      · intro u hlow hhigh
        rw [← hnear.atInstant u hlow hhigh]
        exact offsetAt_append ho (hlong u hlow) rest
      · have := hd hne
        omega
    · by_cases hahead : x + 230400 < c.instant
      · refine ⟨offset, ⟨x, offset⟩, oneChangeNear_of_farAhead ho ?_, fun hne => absurd rfl hne⟩
        intro v hv d hd
        cases hd
        exact ⟨by omega, hoffset⟩
      · have hfar (v : Int) (hv : v ≤ x + 172800) : FarAhead v rest := by
          intro d hd
          have hbounds := hrest.bounds (List.mem_of_mem_head? hd)
          exact ⟨by omega, hbounds.2.2⟩
        refine ⟨offset, c, ⟨ho, hoffset, ?_, ?_⟩, fun _ => hc⟩
        · intro v _ hv fold
          refine offsetOnWall_farAhead (hfar v hv) ho ?_ fold (l := [c])
          intro e he
          rw [List.mem_singleton.mp he]
          exact hoffset
        · intro u _ hu
          exact offsetAt_farAhead (hfar u hu) offset false [c]

end History

theorem yearSecond_succ {y : Nat} (h : 1 ≤ y) : yearSecond y + 31536000 ≤ yearSecond (y + 1) := by
  have hdays := daysBeforeYear_succ h
  simp only [yearSecond]
  split at hdays <;> omega

theorem yearSecond_mono {y z : Nat} (h : 1 ≤ y) (hyz : y ≤ z) : yearSecond y ≤ yearSecond z := by
  have hdays := daysBeforeYear_mono h hyz
  simp only [yearSecond]
  omega

theorem Civil.seconds_of_year (c : Civil) :
    yearSecond c.date.year ≤ c.seconds ∧ c.seconds < yearSecond (c.date.year + 1) := by
  have ⟨hlow, hhigh⟩ := Date.dayNumber_bounds c.date.valid
  have hclock := c.clock.seconds_lt
  simp only [yearSecond, seconds, Date.number]
  omega

namespace SundayRule

theorem Regular.day_bounds {r : SundayRule} (h : r.Regular) (y : Nat) :
    1 ≤ r.day y ∧ r.day y ≤ daysInMonth y r.month := by
  have hnth := h.nth
  have hlength := daysInMonth_bounds y r.month
  have hweekday : Date.weekdayOf (dayNumber y r.month 1) < 7 := Nat.mod_lt _ (by decide)
  simp only [day]
  split <;> omega

theorem Regular.seconds_bounds {r : SundayRule} (h : r.Regular) (y : Nat) :
    yearSecond y + 86400 * daysBeforeMonth y r.month ≤ r.seconds y ∧
      r.seconds y ≤ yearSecond y + 86400 * daysBeforeMonth y (r.month + 1) := by
  have hday := h.day_bounds y
  have hsecond := h.second
  have hmonth := daysBeforeMonth_succ y (show 1 ≤ r.month by have := h.month; omega)
  simp only [seconds, yearSecond, dayNumber]
  omega

end SundayRule

namespace YearlyRule

def changesFrom (r : YearlyRule) (y : Nat) : Nat → List Change
  | 0 => []
  | n + 1 => r.changesOf y ++ r.changesFrom (y + 1) n

/-- A change between two instants of the year, both well away from its ends. -/
structure Within (y : Nat) (c : Change) : Prop where
  low : yearSecond y + 2592000 ≤ c.instant
  high : c.instant ≤ yearSecond y + 29116800
  offset : OffsetBounded c.offset

theorem within_of_rule {r : SundayRule} (h : r.Regular) {before after : Int}
    (hb : OffsetBounded before) (ha : OffsetBounded after) (y : Nat) :
    Within y ⟨r.seconds y - before, after⟩ := by
  have hseconds := h.seconds_bounds y
  have hfirst := daysBeforeMonth_mono y (by decide) h.month.1
  have hlast : daysBeforeMonth y (r.month + 1) ≤ daysBeforeMonth y 12 :=
    daysBeforeMonth_mono y (by omega) (Nat.succ_le_succ h.month.2)
  have hfebruary : daysBeforeMonth y 2 = 31 := rfl
  have hyear := daysBeforeMonth_thirteen y
  have hdecember : daysInMonth y 12 = 31 := rfl
  rw [daysBeforeMonth_succ y (by decide)] at hyear
  obtain ⟨hb, hb'⟩ := hb
  refine ⟨?_, ?_, ha⟩
  · simp only
    omega
  · simp only
    split at hyear <;> omega

theorem week_between {r r' : SundayRule} (h : r.Regular) (h' : r'.Regular)
    (hmonths : r.month + 2 ≤ r'.month) {o o' : Int} (ho : OffsetBounded o)
    (ho' : OffsetBounded o') (y : Nat) : r.seconds y - o + 604800 ≤ r'.seconds y - o' := by
  have hseconds := h.seconds_bounds y
  have hseconds' := h'.seconds_bounds y
  have hnext := daysBeforeMonth_succ y (show 1 ≤ r.month + 1 by omega)
  have hmono := daysBeforeMonth_mono y (show 1 ≤ r.month + 1 + 1 by omega) hmonths
  have hlength := daysInMonth_bounds y (r.month + 1)
  obtain ⟨ho, _⟩ := ho
  obtain ⟨_, ho'⟩ := ho'
  omega

variable {r : YearlyRule}

theorem Regular.changesOf_eq (h : r.Regular) (y : Nat) : ∃ c d, r.changesOf y = [c, d] ∧
    Within y c ∧ Within y d ∧ c.instant + 604800 ≤ d.instant := by
  have hstart := within_of_rule h.starts h.standard h.daylight y
  have hend := within_of_rule h.ends h.daylight h.standard y
  simp only [changesOf]
  rcases h.apart with hmonths | hmonths
  · rw [if_pos (by omega)]
    exact ⟨_, _, rfl, hstart, hend,
      week_between h.starts h.ends hmonths h.standard h.daylight y⟩
  · rw [if_neg (by omega)]
    exact ⟨_, _, rfl, hend, hstart,
      week_between h.ends h.starts hmonths h.daylight h.standard y⟩

theorem Regular.within (h : r.Regular) {y : Nat} {c : Change} (hc : c ∈ r.changesOf y) :
    Within y c := by
  obtain ⟨d, e, heq, hd, he, _⟩ := h.changesOf_eq y
  rw [heq] at hc
  rcases List.mem_cons.mp hc with rfl | hc
  · exact hd
  · rw [List.mem_singleton.mp hc]
    exact he

theorem mem_changesFrom {y n : Nat} {c : Change} (h : c ∈ r.changesFrom y n) :
    ∃ z, y ≤ z ∧ z < y + n ∧ c ∈ r.changesOf z := by
  induction n generalizing y with
  | zero => cases h
  | succ n ih =>
    rcases List.mem_append.mp h with h | h
    · exact ⟨y, Nat.le_refl y, by omega, h⟩
    · obtain ⟨z, hlow, hhigh, hz⟩ := ih h
      exact ⟨z, by omega, by omega, hz⟩

theorem changesFrom_add (r : YearlyRule) (y m n : Nat) :
    r.changesFrom y (m + n) = r.changesFrom y m ++ r.changesFrom (y + m) n := by
  induction m generalizing y with
  | zero => rw [Nat.zero_add]; rfl
  | succ m ih =>
    rw [Nat.succ_add, changesFrom, changesFrom, ih, List.append_assoc, Nat.succ_add y m,
      Nat.add_succ y m]

theorem Within.lt_of_year_lt {y z : Nat} {c d : Change} (hy : 1 ≤ y) (hyz : y < z)
    (hc : Within y c) (hd : Within z d) : c.instant + 604800 ≤ d.instant := by
  have hsucc := yearSecond_succ hy
  have hmono : yearSecond (y + 1) ≤ yearSecond z := yearSecond_mono (Nat.le_add_left 1 y) hyz
  have hhigh := hc.high
  have hlow := hd.low
  omega

theorem Regular.spaced_filter (h : r.Regular) (p : Change → Bool) {y : Nat} (hy : 1 ≤ y) (n : Nat)
    {t : Int} (ht : ∀ z, y ≤ z → ∀ c ∈ r.changesOf z, p c → t + 604800 ≤ c.instant) :
    History.Spaced t ((r.changesFrom y n).filter p) := by
  induction n generalizing y t with
  | zero => trivial
  | succ n ih =>
    obtain ⟨c, d, heq, hc, hd, hcd⟩ := h.changesOf_eq y
    have hct := ht y (Nat.le_refl y) c (by simp only [heq, List.mem_cons, true_or])
    have hdt := ht y (Nat.le_refl y) d (by simp only [heq, List.mem_cons, true_or, or_true])
    have hlater (e : Change) (he : Within y e) :
        History.Spaced e.instant ((r.changesFrom (y + 1) n).filter p) := by
      apply ih (by omega)
      intro z hz f hf _
      exact Within.lt_of_year_lt hy hz he (h.within hf)
    have hnone : History.Spaced t ((r.changesFrom (y + 1) n).filter p) :=
      ih (by omega) fun z hz => ht z (by omega)
    rw [changesFrom, heq, List.filter_append, List.filter_cons, List.filter_cons,
      List.filter_nil]
    cases hpc : p c <;> cases hpd : p d
    · exact hnone
    · exact ⟨hdt hpd, hd.offset, hlater d hd⟩
    · exact ⟨hct hpc, hc.offset, hlater c hc⟩
    · exact ⟨hct hpc, hc.offset, hcd, hd.offset, hlater d hd⟩

end YearlyRule

end TimePhrase
