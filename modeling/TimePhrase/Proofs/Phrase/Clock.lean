import TimePhrase.Proofs.Phrase.Ways

namespace TimePhrase

namespace Endpoint

/-- The endpoint that the same phrase means at the moment `now`. -/
def seenFrom (now : Moment) (e : Endpoint) : Endpoint where
  text := e.text
  wording := e.wording
  unit := e.unit
  count := e.count
  direction := e.direction
  base :=
    match e.wording with
    | .fixed => now
    | .relative => now
    | .spelled =>
      match Spelled.layoutIn? Layout.all e.text with
      | some (l, parsed) => l.complete parsed now
      | none => e.base
    | .unix => e.base

end Endpoint

variable {now now' : Moment}

theorem Relative.read_seenFrom (t : Text) :
    Relative.read t now' = (Relative.read t now).map (·.map (·.seenFrom now')) := by
  rw [Relative.read, Relative.read]
  split
  · split
    · rfl
    · rfl
    · split <;> rfl
  · rfl

theorem Spelled.read_seenFrom (t : Text) :
    Spelled.read t now' = (Spelled.read t now).map (·.map (·.seenFrom now')) := by
  rw [Spelled.read, Spelled.read, readIn, readIn]
  split
  · rfl
  · split
    · rfl
    · cases hlayout : layoutIn? Layout.all t with
      | none => rfl
      | some found =>
        simp only [Option.map_some, Except.map, Endpoint.seenFrom, hlayout]

theorem UnixTime.read_seenFrom (t : Text) (hframe : now'.frame = now.frame) :
    UnixTime.read t now' = (UnixTime.read t now).map (·.map (·.seenFrom now')) := by
  rw [UnixTime.read, UnixTime.read, hframe]
  split
  · rfl
  · rfl
  · rename_i n _
    split
    · cases Moment.ofUnix? now.frame n 0 (by decide) <;> rfl
    · rfl

namespace Wording

theorem read_seenFrom (t : Text) (way : Wording) (hframe : way = unix → now'.frame = now.frame) :
    way.read t now' = (way.read t now).map (·.map (·.seenFrom now')) := by
  cases way with
  | fixed =>
    rw [read, read, FixedPhrase.read?, FixedPhrase.read?]
    cases FixedPhrase.find? t <;> rfl
  | relative => exact Relative.read_seenFrom t
  | spelled => exact Spelled.read_seenFrom t
  | unix => exact UnixTime.read_seenFrom t (hframe rfl)

theorem readFirst_seenFrom (t : Text) (hframe : now'.frame = now.frame)
    (refusal : Option PhraseError) (ways : List Wording) :
    readFirst t now' refusal ways = (readFirst t now refusal ways).map (·.seenFrom now') := by
  induction ways generalizing refusal with
  | nil => rfl
  | cons way rest ih =>
    rw [readFirst, readFirst, read_seenFrom t way fun _ => hframe]
    cases way.read t now with
    | error x =>
      cases x with
      | phrase e => exact ih _
      | fault f => rfl
    | ok e? =>
      cases e? with
      | none => exact ih _
      | some e => rfl

end Wording

theorem Endpoint.read_seenFrom (t : Text) (hframe : now'.frame = now.frame) :
    Endpoint.read t now' = (Endpoint.read t now).map (·.seenFrom now') :=
  Wording.readFirst_seenFrom t.phrase hframe none Wording.all

namespace Endpoint

/-- At two moments of one frame a phrase means the same but for the base, or is refused alike. -/
theorem read_alike_apart_from_base (t : Text) (hframe : now'.frame = now.frame) :
    ((∃ e e', Endpoint.read t now = .ok e ∧ Endpoint.read t now' = .ok e' ∧ e'.text = e.text ∧
        e'.wording = e.wording ∧ e'.unit = e.unit ∧ e'.count = e.count ∧
        e'.direction = e.direction) ∨
      ∃ x, Endpoint.read t now = .error x ∧ Endpoint.read t now' = .error x) ∧
    ∀ (l : Layout) (parsed : Civil) (m : Moment),
      l.fill? parsed m.wall = some (l.complete parsed m).wall := by
  refine ⟨?_, Layout.fill?_eq⟩
  have hseen := read_seenFrom t hframe
  cases hread : Endpoint.read t now with
  | ok e =>
    rw [hread] at hseen
    exact .inl ⟨e, e.seenFrom now', rfl, hseen, rfl, rfl, rfl, rfl, rfl⟩
  | error x =>
    rw [hread] at hseen
    exact .inr ⟨x, rfl, hseen⟩

theorem read_2023_from_leap_day :
    ∃ e e', Endpoint.read "2023".toList
        ⟨⟨⟨2024, 2, 29, by decide⟩, .midnight⟩, .zone .utc, false⟩ = .ok e ∧
      Endpoint.read "2023".toList
        ⟨⟨⟨2024, 5, 15, by decide⟩, .midnight⟩, .zone .utc, true⟩ = .ok e' ∧
      e'.unit = e.unit ∧ e.base.wall.date = ⟨2023, 2, 28, by decide⟩ := by
  obtain ⟨halike, _⟩ := @read_alike_apart_from_base
    ⟨⟨⟨2024, 2, 29, by decide⟩, .midnight⟩, .zone .utc, false⟩
    ⟨⟨⟨2024, 5, 15, by decide⟩, .midnight⟩, .zone .utc, true⟩ "2023".toList rfl
  rcases halike with ⟨e, e', he, he', _, _, hunit, _⟩ | ⟨x, hx, _⟩
  · refine ⟨e, e', he, he', hunit, ?_⟩
    cases he
    rfl
  · cases hx

end Endpoint

end TimePhrase
