import TimePhrase.Proofs.Phrase.BareYear

namespace TimePhrase

theorem FixedPhrase.not_likeRelative {t : Text} {f : FixedPhrase} (h : find? t = some f)
    (modifier digits unit : Text) : ¬ t.LikeRelative modifier digits unit := by
  have hall : ∀ f ∈ table, ∀ s ∈ f.spellings, s.words.length = 3 →
      (∀ d ∈ Direction.all, s.words.head? ≠ some d.modifier.toList) ∧
        ∀ u ∈ TimeUnit.all, s.words.getLast? ≠ some u.name.toList := by
    decide +kernel
  have ⟨hf, ht⟩ := find?_eq_some_iff.mp h
  intro hrelative
  have hwords := hrelative.words_eq
  have hthree := hall f hf t ht
  rw [hwords] at hthree
  obtain ⟨hmodifier, hunit⟩ := hthree rfl
  rcases hrelative.known with ⟨d, rfl⟩ | ⟨u, rfl⟩
  · exact hmodifier d (by cases d <;> decide) rfl
  · exact hunit u (by cases u <;> decide) rfl

theorem Relative.exists_likeRelative {t : Text} {now : Moment}
    (h : Relative.read t now ≠ .ok none) :
    ∃ modifier digits unit, t.LikeRelative modifier digits unit := by
  apply Classical.byContradiction
  intro hnone
  apply h
  apply Relative.read_eq_none
  exact fun modifier digits unit hp => hnone ⟨modifier, digits, unit, hp⟩

namespace Wording

variable {t : Text} {now : Moment}

theorem read_of_find? {f : FixedPhrase} (h : FixedPhrase.find? t = some f) {way : Wording}
    (hway : way ≠ .fixed) : way.read t now = .ok none := by
  obtain ⟨⟨c, hc, hletter⟩, _⟩ := FixedPhrase.letters_of_find? h
  cases way with
  | fixed => exact absurd rfl hway
  | relative => exact Relative.read_eq_none (FixedPhrase.not_likeRelative h)
  | spelled => exact Spelled.read_of_letter hc hletter
  | unix => exact UnixTime.read_of_letter hc hletter

theorem read_of_likeRelative {modifier digits unit : Text}
    (h : t.LikeRelative modifier digits unit) {way : Wording} (hway : way ≠ .relative) :
    way.read t now = .ok none := by
  cases way with
  | fixed =>
    have hnone : FixedPhrase.find? t = none := by
      rw [Option.eq_none_iff_forall_ne_some]
      exact fun f hf => FixedPhrase.not_likeRelative hf modifier digits unit h
    rw [read, FixedPhrase.read?, hnone, Option.map_none]
  | relative => exact absurd rfl hway
  | spelled => exact (h.not_spelled now).1
  | unix => exact (h.not_spelled now).2

theorem read_of_fixed {e : Endpoint} (h : Wording.fixed.read t now = .ok (some e)) {way : Wording}
    (hway : way ≠ .fixed) : way.read t now = .ok none := by
  obtain ⟨f, hf, _⟩ := Option.map_eq_some_iff.mp (Except.ok.inj h)
  exact read_of_find? hf hway

theorem read_of_relative (h : Wording.relative.read t now ≠ .ok none) {way : Wording}
    (hway : way ≠ .relative) : way.read t now = .ok none := by
  obtain ⟨modifier, digits, unit, hp⟩ := Relative.exists_likeRelative h
  exact read_of_likeRelative hp hway

/-- At most one way takes up a text, unless it is a date, a time or a number. -/
theorem alone_or_spelled (t : Text) (now : Moment) :
    (∃ way, ∀ other : Wording, other ≠ way → other.read t now = .ok none) ∨
      Wording.fixed.read t now = .ok none ∧ Wording.relative.read t now = .ok none := by
  by_cases hrelative : Wording.relative.read t now = .ok none
  · cases hfound : FixedPhrase.find? t with
    | none =>
      refine .inr ⟨?_, hrelative⟩
      rw [read, FixedPhrase.read?, hfound, Option.map_none]
    | some f => exact .inl ⟨.fixed, fun _ => read_of_find? hfound⟩
  · exact .inl ⟨.relative, fun _ => read_of_relative hrelative⟩

theorem eq_of_read {a b : Wording} (ha : a ≠ .unix) (hb : b ≠ .unix) {e e' : Endpoint}
    (h : a.read t now = .ok (some e)) (h' : b.read t now = .ok (some e')) : a = b := by
  rcases alone_or_spelled t now with ⟨way, hway⟩ | ⟨hfixed, hrelative⟩
  · have heq {c : Wording} {e : Endpoint} (h : c.read t now = .ok (some e)) : c = way := by
      apply Classical.byContradiction
      intro hc
      rw [hway c hc] at h
      cases h
    exact (heq h).trans (heq h').symm
  · have heq {c : Wording} (hc : c ≠ .unix) {e : Endpoint} (h : c.read t now = .ok (some e)) :
        c = .spelled := by
      cases c with
      | fixed =>
        rw [hfixed] at h
        cases h
      | relative =>
        rw [hrelative] at h
        cases h
      | spelled => rfl
      | unix => exact absurd rfl hc
    exact (heq ha h).trans (heq hb h').symm

def readIn (layouts : List Layout) (t : Text) (now : Moment) :
    Wording → Except Failure (Option Endpoint)
  | .spelled => Spelled.readIn layouts t now
  | way => way.read t now

theorem readIn_eq_read {layouts : List Layout} (h : layouts.Perm Layout.all) (t : Text)
    (now : Moment) (way : Wording) : way.readIn layouts t now = way.read t now := by
  have hall (l : Layout) : l ∈ layouts := h.mem_iff.mpr l.mem_all
  have hlayout : Spelled.layoutIn? layouts t = Spelled.layoutIn? Layout.all t := by
    apply Option.ext
    rintro ⟨l, c⟩
    rw [Layout.layoutIn?_eq_some_iff_of_mem hall, Layout.layoutIn?_eq_some_iff]
  cases way with
  | fixed => rfl
  | relative => rfl
  | spelled => rw [readIn, read, Spelled.read, Spelled.readIn, Spelled.readIn, hlayout]
  | unix => rfl

/-- What comes of the readings of a text in turn: the first endpoint, or else the first refusal. -/
def firstOutcome (t : Text) (refusal : Option PhraseError) :
    List (Except Failure (Option Endpoint)) → Except Failure Endpoint
  | [] => .error (.phrase (refusal.getD (.unreadable t)))
  | .ok (some e) :: _ => .ok e
  | .ok none :: rest => firstOutcome t refusal rest
  | .error (.phrase e) :: rest => firstOutcome t (refusal <|> some e) rest
  | .error (.fault f) :: _ => .error (.fault f)

theorem readFirst_eq_firstOutcome (refusal : Option PhraseError) (ways : List Wording) :
    readFirst t now refusal ways = firstOutcome t refusal (ways.map (·.read t now)) := by
  induction ways generalizing refusal with
  | nil => rfl
  | cons way rest ih =>
    rw [readFirst, List.map_cons]
    cases way.read t now with
    | error x =>
      cases x with
      | phrase e => exact ih _
      | fault f => rfl
    | ok e? =>
      cases e? with
      | none => exact ih _
      | some e => rfl

/-- Whether the text is read or refused, and not just written differently. -/
def takesUp (t : Text) (now : Moment) (way : Wording) : Bool :=
  match way.read t now with
  | .ok none => false
  | _ => true

theorem takesUp_eq_false {way : Wording} (h : way.read t now = .ok none) :
    way.takesUp t now = false := by
  rw [takesUp, h]

theorem readFirst_filter (refusal : Option PhraseError) (ways : List Wording) :
    readFirst t now refusal (ways.filter (·.takesUp t now)) = readFirst t now refusal ways := by
  induction ways generalizing refusal with
  | nil => rfl
  | cons way rest ih =>
    cases hread : way.read t now with
    | error x =>
      rw [List.filter_cons_of_pos (by rw [takesUp, hread]), readFirst, readFirst, hread]
      cases x with
      | phrase e => exact ih _
      | fault f => rfl
    | ok e? =>
      cases e? with
      | none =>
        rw [List.filter_cons_of_neg (by rw [takesUp_eq_false hread]; exact Bool.false_ne_true), ih,
          readFirst, hread]
      | some e => rw [List.filter_cons_of_pos (by rw [takesUp, hread]), readFirst, readFirst, hread]

section Orders

variable {ways : List Wording} (hways : ways.Perm all)
include hways

theorem filter_eq_of_alone {p : Wording → Bool} {way : Wording}
    (h : ∀ other, other ≠ way → p other = false) : ways.filter p = all.filter p := by
  have hp (other : Wording) : p other = (p way && other == way) := by
    by_cases heq : other = way
    · rw [heq, beq_self_eq_true, Bool.and_true]
    · rw [h other heq, beq_false_of_ne heq, Bool.and_false]
  have hfilter (l : List Wording) : l.filter p = if p way then l.filter (· == way) else [] := by
    rw [List.filter_congr fun other _ => hp other]
    cases p way with
    | false => exact List.filter_eq_nil_iff.mpr fun _ _ => Bool.false_ne_true
    | true => rfl
  rw [hfilter, hfilter, List.filter_beq, List.filter_beq, hways.count_eq]

theorem filter_eq_of_late {p : Wording → Bool} (horder : [spelled, unix].Sublist ways)
    (hfixed : p fixed = false) (hrelative : p relative = false) : ways.filter p = all.filter p := by
  let late (way : Wording) : Bool := way == spelled || way == unix
  have hlate : ways.filter late = [spelled, unix] := by
    have hlength : (ways.filter late).length = 2 := (hways.filter late).length_eq
    exact ((horder.filter late).eq_of_length hlength.symm).symm
  have hfilter (l : List Wording) : l.filter p = (l.filter late).filter p := by
    rw [List.filter_filter]
    apply List.filter_congr
    intro way _
    cases way with
    | fixed => rw [hfixed, Bool.false_and]
    | relative => rw [hrelative, Bool.false_and]
    | spelled => exact (Bool.and_true _).symm
    | unix => exact (Bool.and_true _).symm
  rw [hfilter ways, hlate, hfilter all]
  rfl

theorem filter_takesUp_eq (horder : [spelled, unix].Sublist ways) (t : Text) (now : Moment) :
    ways.filter (·.takesUp t now) = all.filter (·.takesUp t now) := by
  rcases alone_or_spelled t now with ⟨way, hway⟩ | ⟨hfixed, hrelative⟩
  · exact filter_eq_of_alone hways fun other hne => takesUp_eq_false (hway other hne)
  · exact filter_eq_of_late hways horder (takesUp_eq_false hfixed) (takesUp_eq_false hrelative)

end Orders

/-- The order of the ways matters only between bare years and numbers of seconds. -/
theorem read_in_any_order (t : Text) (now : Moment) (hnow : now.frame.WithinDay) :
    (∀ a b e e', a ≠ unix → b ≠ unix → read t now a = .ok (some e) →
      read t now b = .ok (some e') → a = b) ∧
    (∀ way e, way = fixed ∨ way = relative → read t now way = .ok (some e) →
      ∀ other, other ≠ way → read t now other = .ok none) ∧
    (∀ x y, ¬ (read t now relative = .error x ∧ read t now spelled = .error y)) ∧
    ((∃ e e', read t now spelled = .ok (some e) ∧ read t now unix = .ok (some e')) ↔
      t.IsBareYear) ∧
    (∀ (l l' : Layout) c c', l.read? t = some c → l'.read? t = some c' → l = l') ∧
    ∀ ways layouts, ways.Perm all → [spelled, unix].Sublist ways → layouts.Perm Layout.all →
      firstOutcome t.phrase none (ways.map (readIn layouts t.phrase now)) =
        Endpoint.read t now := by
  refine ⟨fun _ _ _ _ ha hb => eq_of_read ha hb, ?_, ?_, ?_, fun _ _ _ _ => Layout.eq_of_read?, ?_⟩
  · rintro way e (rfl | rfl) hread other hother
    · exact read_of_fixed hread hother
    · apply read_of_relative _ hother
      rw [hread]
      exact nofun
  · rintro x y ⟨hrelative, hspelled⟩
    have hne : read t now relative ≠ .ok none := by
      rw [hrelative]
      exact nofun
    have hnone : read t now spelled = .ok none := read_of_relative hne (by decide)
    rw [hnone] at hspelled
    cases hspelled
  · exact ⟨fun ⟨_, _, hspelled, hunix⟩ => isBareYear_of_read hspelled hunix,
      fun h => h.read hnow⟩
  · intro ways layouts hways horder hlayouts
    have hread : ways.map (readIn layouts t.phrase now) = ways.map (·.read t.phrase now) :=
      List.map_congr_left fun way _ => readIn_eq_read hlayouts t.phrase now way
    rw [hread, ← readFirst_eq_firstOutcome, ← readFirst_filter, filter_takesUp_eq hways horder,
      readFirst_filter]
    rfl

theorem read_2016_twice :
    (∃ e e', read "2016".toList
        ⟨⟨⟨2024, 5, 17, by decide⟩, .midnight⟩, .fixed 3600, false⟩ spelled = .ok (some e) ∧
      read "2016".toList
        ⟨⟨⟨2024, 5, 17, by decide⟩, .midnight⟩, .fixed 3600, false⟩ unix = .ok (some e')) ∧
    firstOutcome "2016".toList none ([spelled, relative, unix, fixed].map
        (readIn [.time, .year, .dateTime, .date] "2016".toList
          ⟨⟨⟨2024, 5, 17, by decide⟩, .midnight⟩, .fixed 3600, false⟩)) =
      Endpoint.read "2016".toList
        ⟨⟨⟨2024, 5, 17, by decide⟩, .midnight⟩, .fixed 3600, false⟩ := by
  obtain ⟨_, _, _, hyear, _, horder⟩ := read_in_any_order "2016".toList
    ⟨⟨⟨2024, 5, 17, by decide⟩, .midnight⟩, .fixed 3600, false⟩ ⟨by decide, by decide⟩
  have hphrase : Text.phrase "2016".toList = "2016".toList := by decide +kernel
  rw [hphrase] at horder
  have hread := horder [spelled, relative, unix, fixed] [.time, .year, .dateTime, .date]
    (by decide) (by decide) (by decide)
  have hdigits : List.all "2016".toList isAsciiDigit = true := by decide
  exact ⟨hyear.mpr ⟨by decide, List.all_eq_true.mp hdigits, by decide⟩, hread⟩

end Wording

end TimePhrase
