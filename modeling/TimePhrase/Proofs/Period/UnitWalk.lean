import TimePhrase.Proofs.Period.Joined

namespace TimePhrase

inductive UnitStep
  | last | this | next
deriving DecidableEq

namespace UnitStep

def all : List UnitStep := [last, this, next]

def word : UnitStep → String
  | last => "last"
  | this => "this"
  | next => "next"

def dayWord : UnitStep → String
  | last => "yesterday"
  | this => "today"
  | next => "tomorrow"

def words (s : UnitStep) : TimeUnit → List Text
  | .day => [s.dayWord.toList]
  | u => [s.word.toList, u.name.toList]

def text (s : UnitStep) (u : TimeUnit) : Text := Text.joined (s.words u)

def amount : UnitStep → Int
  | last => -1
  | this => 0
  | next => 1

/-- The number of units that several steps lead ahead. -/
def total (steps : List UnitStep) : Int := (steps.count next : Int) - steps.count last

theorem total_cons (s : UnitStep) (steps : List UnitStep) :
    total (s :: steps) = s.amount + total steps := by
  rw [total, total]
  cases s with
  | last =>
    rw [List.count_cons_self, List.count_cons_of_ne (by decide), amount]
    omega
  | this =>
    rw [List.count_cons_of_ne (by decide), List.count_cons_of_ne (by decide), amount]
    omega
  | next =>
    rw [List.count_cons_self, List.count_cons_of_ne (by decide), amount]
    omega

theorem total_perm {steps steps' : List UnitStep} (h : steps.Perm steps') :
    total steps = total steps' := by
  rw [total, total, h.count_eq, h.count_eq]

section Read

variable (s : UnitStep) {u : TimeUnit} (hu : u ≠ .second)
include hu

theorem phrase_text : (s.text u).phrase = s.text u := by
  have hall : ∀ s ∈ all, ∀ u ∈ TimeUnit.all, ∀ w ∈ s.words u,
      w.IsWord ∧ Synonym.substituteAll w = w := by
    decide
  have hwords := hall s (by cases s <;> decide) u (by cases u <;> decide)
  have hself : (s.words u).map Synonym.substituteAll = s.words u :=
    (List.map_congr_left fun w hw => (hwords w hw).2).trans (List.map_id _)
  rw [text, Text.phrase_joined fun w hw => (hwords w hw).1, hself]

theorem read_text (c : Moment) : ∃ e, Endpoint.read (s.text u) c = .ok e ∧ e.wording = .fixed ∧
    e.unit = u ∧ e.amount = s.amount ∧ e.base = c := by
  have hall : ∀ s ∈ all, ∀ u ∈ TimeUnit.all, u ≠ .second → ∃ f ∈ FixedPhrase.table,
      s.text u ∈ f.spellings ∧ f.unit = u ∧
        (if f.direction = .forward then (f.count : Int) else -f.count) = s.amount := by
    decide +kernel
  obtain ⟨f, hf, hp, hunit, hamount⟩ := hall s (by cases s <;> decide) u (by cases u <;> decide) hu
  have hfound := FixedPhrase.find?_eq_some_iff.mpr ⟨hf, hp⟩
  rw [← s.phrase_text hu] at hfound
  refine ⟨_, Endpoint.read_of_find? hfound c, rfl, hunit, ?_, rfl⟩
  rw [← hamount, Endpoint.amount]
  cases f.direction <;> rfl

end Read

end UnitStep

namespace Moment

/-- The moment is the edge of unit `k` on the zone's clock, on its first pass. -/
def StandsAt (z : Zone) (w : Week) (u : TimeUnit) (edge : Edge) (k : Int) (m : Moment) : Prop :=
  Moment.atSecond? (.zone z) (u.edgeSecond w k edge) = some m

section Standing

variable {z : Zone} {w : Week} {u : TimeUnit} {edge : Edge} {k : Int} {m : Moment}
  (h : m.StandsAt z w u edge k)
include h

theorem StandsAt.unique {m' : Moment} (h' : m'.StandsAt z w u edge k) : m = m' :=
  Option.some.inj (h.symm.trans h')

theorem StandsAt.current : m.current z = .ok m := by
  obtain ⟨_, _, hframe, _⟩ := atSecond?_eq_some_iff.mp h
  have hknown : Frame.zone z ≠ .floating := by
    intro hfloating
    cases hfloating
  rw [Moment.current, inZone, hframe, if_neg hknown, if_pos rfl]

theorem StandsAt.unitNumber : m.wall.unitNumber w u = k :=
  Civil.unitNumber_of_edge (atSecond?_eq_some_iff.mp h).1

end Standing

end Moment

namespace Period

section Walk

variable {z : Zone} {w : Week} {u : TimeUnit} (hu : u ≠ .second) (edge : Edge)
include hu

/-- A step from a moment in unit `k` leads to the edge of the unit that it says. -/
theorem standsAt_of_read {s : UnitStep} {now c : Moment} (hc : now.current z = .ok c) {p : Period}
    (hp : Period.read (s.text u) w z now = .ok p) :
    (p.edge edge).StandsAt z w u edge (c.wall.unitNumber w u + s.amount) := by
  obtain ⟨e, he, hwording, hunit, hamount, hbase⟩ := s.read_text hu c
  have hcounts (d : Direction) : ¬ e.Counts d := by
    rintro ⟨hrelative, _⟩
    rw [hwording] at hrelative
    cases hrelative
  obtain ⟨hstart, hfinish⟩ := (read_iff_place (Endpoints.read_of_read he) hc).mp hp
  rw [Endpoints.ofSingle_start he (hcounts _)] at hstart
  rw [Endpoints.ofSingle_finish he (hcounts _)] at hfinish
  have hplace : e.place w edge = .ok (p.edge edge) := by
    cases edge with
    | start => exact hstart
    | finish => exact hfinish
  obtain ⟨_, hseconds, hmicro, hframe, hfold⟩ := Endpoint.place_eq_ok_iff.mp hplace
  rw [Endpoint.meantUnit, Endpoint.baseUnit, hunit, hamount, hbase] at hseconds
  rw [hbase, Moment.frame_of_current hc] at hframe
  exact Moment.atSecond?_eq_some_iff.mpr ⟨hseconds, hmicro, hframe, hfold⟩

end Walk

def stepAnswers (w : Week) (z : Zone) (edge : Edge) (u : TimeUnit) (now : Moment)
    (steps : List UnitStep) : List (Except Failure Period) :=
  walk w z edge now (steps.map (·.text u))

def walkEnd (w : Week) (z : Zone) (edge : Edge) (u : TimeUnit) (now : Moment)
    (steps : List UnitStep) : Moment :=
  (stepAnswers w z edge u now steps).foldl (fun m answer => nextMoment m edge answer) now

/-- The steps whose phrases have a period when their turn comes. -/
def stepsTaken (w : Week) (z : Zone) (edge : Edge) (u : TimeUnit) (now : Moment)
    (steps : List UnitStep) : List UnitStep :=
  ((steps.zip (stepAnswers w z edge u now steps)).filter (·.2.toOption.isSome)).map (·.1)

section Runs

variable (w : Week) (z : Zone) (edge : Edge) (u : TimeUnit) {now : Moment} {s : UnitStep}
  (rest : List UnitStep)

theorem walk_of_error {x : Failure} (h : Period.read (s.text u) w z now = .error x) :
    walkEnd w z edge u now (s :: rest) = walkEnd w z edge u now rest ∧
      stepsTaken w z edge u now (s :: rest) = stepsTaken w z edge u now rest := by
  simp only [walkEnd, stepsTaken, stepAnswers, List.map_cons, walk, h, nextMoment]
  exact ⟨rfl, rfl⟩

theorem walk_of_ok {p : Period} (h : Period.read (s.text u) w z now = .ok p) :
    walkEnd w z edge u now (s :: rest) = walkEnd w z edge u (p.edge edge) rest ∧
      stepsTaken w z edge u now (s :: rest) = s :: stepsTaken w z edge u (p.edge edge) rest := by
  simp only [walkEnd, stepsTaken, stepAnswers, List.map_cons, walk, h, nextMoment]
  exact ⟨rfl, rfl⟩

end Runs

section Run

variable {z : Zone} {w : Week} {u : TimeUnit} (hu : u ≠ .second) {edge : Edge}
include hu

theorem walkEnd_of_standsAt {m : Moment} {k : Int} (h : m.StandsAt z w u edge k)
    (steps : List UnitStep) : (walkEnd w z edge u m steps).StandsAt z w u edge
      (k + UnitStep.total (stepsTaken w z edge u m steps)) := by
  induction steps generalizing m k with
  | nil =>
    rw [show k + UnitStep.total (stepsTaken w z edge u m []) = k from Int.add_zero k]
    exact h
  | cons s rest ih =>
    cases hread : Period.read (s.text u) w z m with
    | error x =>
      obtain ⟨hend, htaken⟩ := walk_of_error w z edge u rest hread
      rw [hend, htaken]
      exact ih h
    | ok p =>
      obtain ⟨hend, htaken⟩ := walk_of_ok w z edge u rest hread
      have hstep := standsAt_of_read hu edge h.current hread
      rw [h.unitNumber] at hstep
      rw [hend, htaken, UnitStep.total_cons, ← Int.add_assoc]
      exact ih hstep

theorem walkEnd_of_current {now c : Moment} (hc : now.current z = .ok c) {steps : List UnitStep}
    (htaken : stepsTaken w z edge u now steps ≠ []) :
    (walkEnd w z edge u now steps).StandsAt z w u edge
      (c.wall.unitNumber w u + UnitStep.total (stepsTaken w z edge u now steps)) := by
  induction steps with
  | nil => exact absurd rfl htaken
  | cons s rest ih =>
    cases hread : Period.read (s.text u) w z now with
    | error x =>
      obtain ⟨hend, hsame⟩ := walk_of_error w z edge u rest hread
      rw [hsame] at htaken ⊢
      rw [hend]
      exact ih htaken
    | ok p =>
      obtain ⟨hend, hcons⟩ := walk_of_ok w z edge u rest hread
      rw [hend, hcons, UnitStep.total_cons, ← Int.add_assoc]
      exact walkEnd_of_standsAt hu (standsAt_of_read hu edge hc hread) rest

end Run

/-- Steps that succeed lead to the edge of the unit they add up to, whatever their order. -/
theorem walk_by_unit (w : Week) (z : Zone) (edge : Edge) {u : TimeUnit} (hu : u ≠ .second)
    {now c : Moment} (hc : now.current z = .ok c) (steps : List UnitStep)
    (htaken : stepsTaken w z edge u now steps ≠ []) :
    (walkEnd w z edge u now steps).StandsAt z w u edge (c.wall.unitNumber w u +
      ((stepsTaken w z edge u now steps).count .next : Int) -
        (stepsTaken w z edge u now steps).count .last) ∧
    (∀ steps', (stepsTaken w z edge u now steps).Perm (stepsTaken w z edge u now steps') →
      walkEnd w z edge u now steps' = walkEnd w z edge u now steps) ∧
    ∀ p q, Period.read (UnitStep.next.text u) w z (walkEnd w z edge u now steps) = .ok p →
      Period.read (UnitStep.last.text u) w z (p.edge edge) = .ok q →
      q.edge edge = walkEnd w z edge u now steps := by
  have hend := walkEnd_of_current hu hc htaken
  refine ⟨?_, ?_, ?_⟩
  · rw [UnitStep.total, ← Int.add_sub_assoc] at hend
    exact hend
  · intro steps' hperm
    have htaken' : stepsTaken w z edge u now steps' ≠ [] := by
      intro hnil
      rw [hnil] at hperm
      exact htaken hperm.eq_nil
    have hend' := walkEnd_of_current hu hc htaken'
    rw [← UnitStep.total_perm hperm] at hend'
    exact hend'.unique hend
  · intro p q hp hq
    have hahead := standsAt_of_read hu edge hend.current hp
    have hback := standsAt_of_read hu edge hahead.current hq
    have hnone : UnitStep.next.amount + UnitStep.last.amount = 0 := rfl
    rw [hahead.unitNumber, hend.unitNumber, Int.add_assoc, hnone, Int.add_zero] at hback
    exact hback.unique hend

theorem walk_to_leap_day : (walkEnd Week.sunday .newYork .finish .month
    ⟨⟨⟨2024, 1, 31, by decide⟩, .midnight⟩, .zone .newYork, false⟩ [.last, .next, .next]).StandsAt
      .newYork Week.sunday .month .finish 24289 := by
  have htaken : stepsTaken Week.sunday .newYork .finish .month
      ⟨⟨⟨2024, 1, 31, by decide⟩, .midnight⟩, .zone .newYork, false⟩ [.last, .next, .next] =
        [.last, .next, .next] := by
    decide +kernel
  have hcurrent : Moment.current
      ⟨⟨⟨2024, 1, 31, by decide⟩, .midnight⟩, .zone .newYork, false⟩ .newYork = .ok _ :=
    Moment.current_of_frame rfl
  have hend := (walk_by_unit Week.sunday .newYork .finish (u := .month) (by decide) hcurrent
    [.last, .next, .next] (by rw [htaken]; exact List.cons_ne_nil _ _)).1
  rw [htaken] at hend
  exact hend

end Period

end TimePhrase
