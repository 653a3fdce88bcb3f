import TimePhrase.Proofs.Period.Joined

namespace TimePhrase

/-- The first failing step: the part of the text that it is about, and the error. -/
inductive Text.Fails (t : Text) (w : Week) (c : Moment) : Text → PhraseError → Prop
  | split (h : 3 ≤ t.phrases.length) : Fails t w c t (.tooManyPhrases t t.phrases.length)
  | first {p : Text} {rest : List Text} {x : PhraseError} (ht : t.phrases = p :: rest)
    (hrest : rest.length ≤ 1) (hp : Endpoint.read p c = .error (.phrase x)) : Fails t w c p x
  | last {p q : Text} {e : Endpoint} {x : PhraseError} (ht : t.phrases = [p, q])
    (hp : Endpoint.read p c = .ok e) (hq : Endpoint.read q c = .error (.phrase x)) :
    Fails t w c q x
  | start {p : Text} {rest : List Text} {es : Endpoints} (ht : t.phrases = p :: rest)
    (hread : Endpoints.read t c = .ok es) (hstart : ¬ es.start.Placeable w .start) :
    Fails t w c p (.offCalendar p)
  | finish {rest : List Text} {q : Text} {es : Endpoints} (ht : t.phrases = rest ++ [q])
    (hread : Endpoints.read t c = .ok es) (hstart : es.start.Placeable w .start)
    (hfinish : ¬ es.finish.Placeable w .finish) : Fails t w c q (.offCalendar q)

theorem Endpoint.placeable_present (c : Moment) (w : Week) (edge : Edge) :
    (present c).Placeable w edge :=
  (place_eq_ok_iff.mp (place_second rfl rfl w edge)).1

namespace Endpoints

variable {t : Text} {w : Week} {c : Moment} {es : Endpoints} {x : PhraseError}

theorem sides_of_read (h : Endpoints.read t c = .ok es) :
    (∃ p rest, t.phrases = p :: rest ∧
      (Endpoint.read p c = .ok es.start ∨ es.start = .present c)) ∧
    ∃ rest q, t.phrases = rest ++ [q] ∧
      (Endpoint.read q c = .ok es.finish ∨ es.finish = .present c) := by
  rw [read] at h
  split at h
  · rename_i p ht
    obtain ⟨e, he, hes⟩ := bind_eq_ok_iff.mp h
    cases hes
    rcases ofSingle_cases p e c with hsides | hsides | hsides
    · rw [hsides]
      exact ⟨⟨p, [], ht, .inl he⟩, [], p, ht, .inl he⟩
    · rw [hsides]
      exact ⟨⟨p, [], ht, .inr rfl⟩, [], p, ht, .inl he⟩
    · rw [hsides]
      exact ⟨⟨p, [], ht, .inl he⟩, [], p, ht, .inr rfl⟩
  · rename_i p q ht
    obtain ⟨e, he, h⟩ := bind_eq_ok_iff.mp h
    obtain ⟨e', he', hes⟩ := bind_eq_ok_iff.mp h
    cases hes
    exact ⟨⟨p, [q], ht, .inl he⟩, [p], q, ht, .inl he'⟩
  · cases h

theorem start_text_of_read (h : Endpoints.read t c = .ok es) {p : Text} {rest : List Text}
    (ht : t.phrases = p :: rest) (hstart : ¬ es.start.Placeable w .start) : es.start.text = p := by
  obtain ⟨⟨p', rest', ht', hread⟩, _⟩ := sides_of_read h
  cases ht.symm.trans ht'
  rcases hread with hread | hpresent
  · exact Endpoint.text_of_mem_phrases (ht ▸ List.mem_cons_self) hread
  · rw [hpresent] at hstart
    exact absurd (Endpoint.placeable_present c w .start) hstart

theorem finish_text_of_read (h : Endpoints.read t c = .ok es) {rest : List Text} {q : Text}
    (ht : t.phrases = rest ++ [q]) (hfinish : ¬ es.finish.Placeable w .finish) :
    es.finish.text = q := by
  obtain ⟨_, rest', q', ht', hread⟩ := sides_of_read h
  obtain ⟨_, hlast⟩ := List.append_inj' (ht.symm.trans ht') rfl
  obtain rfl := List.singleton_inj.mp hlast
  rcases hread with hread | hpresent
  · exact Endpoint.text_of_mem_phrases (ht ▸ List.mem_append_right rest List.mem_cons_self) hread
  · rw [hpresent] at hfinish
    exact absurd (Endpoint.placeable_present c w .finish) hfinish

theorem read_of_split (h : 3 ≤ t.phrases.length) :
    Endpoints.read t c = .error (.phrase (.tooManyPhrases t t.phrases.length)) := by
  rw [read]
  split
  · rename_i ht
    rw [ht] at h
    cases Nat.le_of_succ_le_succ h
  · rename_i ht
    rw [ht] at h
    cases Nat.le_of_succ_le_succ (Nat.le_of_succ_le_succ h)
  · rfl

theorem length_le_of_read (h : Endpoints.read t c = .ok es) : t.phrases.length ≤ 2 := by
  refine Nat.le_of_lt_succ (Nat.lt_of_not_le fun hlength => ?_)
  rw [read_of_split hlength] at h
  cases h

theorem read_of_first {p : Text} {rest : List Text} (ht : t.phrases = p :: rest)
    (hrest : rest.length ≤ 1) (hp : Endpoint.read p c = .error (.phrase x)) :
    Endpoints.read t c = .error (.phrase x) := by
  rw [read, ht]
  cases rest with
  | nil =>
    simp only [hp]
    rfl
  | cons q rest =>
    obtain rfl := List.length_eq_zero_iff.mp (Nat.le_zero.mp (Nat.le_of_succ_le_succ hrest))
    simp only [hp]
    rfl

theorem read_of_last {p q : Text} {e : Endpoint} (ht : t.phrases = [p, q])
    (hp : Endpoint.read p c = .ok e) (hq : Endpoint.read q c = .error (.phrase x)) :
    Endpoints.read t c = .error (.phrase x) := by
  rw [read, ht]
  simp only [hp, hq]
  rfl

theorem exists_fails_of_read (w : Week) (h : Endpoints.read t c = .error (.phrase x)) :
    ∃ part, t.Fails w c part x := by
  rw [read] at h
  split at h
  · rename_i p ht
    rcases bind_eq_error_iff.mp h with hp | ⟨_, _, h⟩
    · exact ⟨p, .first ht (Nat.zero_le 1) hp⟩
    · cases h
  · rename_i p q ht
    rcases bind_eq_error_iff.mp h with hp | ⟨e, hp, h⟩
    · exact ⟨p, .first ht (Nat.le_refl 1) hp⟩
    rcases bind_eq_error_iff.mp h with hq | ⟨_, _, h⟩
    · exact ⟨q, .last ht hp hq⟩
    · cases h
  · rename_i hnotOne hnotTwo
    cases h
    refine ⟨t, .split ?_⟩
    rcases ht : t.phrases with _ | ⟨p, _ | ⟨q, _ | ⟨r, rest⟩⟩⟩
    · exact absurd ht t.phrases_ne_nil
    · exact absurd ht (hnotOne p)
    · exact absurd ht (hnotTwo p q)
    · exact Nat.le_add_left 3 rest.length

theorem place_eq_error_iff : es.place w = .error x ↔
    (¬ es.start.Placeable w .start ∧ x = .offCalendar es.start.text) ∨
    (es.start.Placeable w .start ∧ ¬ es.finish.Placeable w .finish ∧
      x = .offCalendar es.finish.text) := by
  rw [place, bind_eq_error_iff, Endpoint.place_eq_error_iff]
  refine or_congr_right ?_
  constructor
  · rintro ⟨m, hm, h⟩
    rcases bind_eq_error_iff.mp h with hfinish | ⟨_, _, h⟩
    · exact ⟨(Endpoint.place_eq_ok_iff.mp hm).1, Endpoint.place_eq_error_iff.mp hfinish⟩
    · cases h
  · rintro ⟨hstart, hfinish⟩
    cases hm : es.start.place w .start with
    | error y => exact absurd hstart (Endpoint.place_eq_error_iff.mp hm).1
    | ok m => exact ⟨m, rfl, bind_eq_error_iff.mpr (.inl (Endpoint.place_eq_error_iff.mpr hfinish))⟩

end Endpoints

namespace Text.Fails

variable {t part : Text} {w : Week} {c : Moment} {x : PhraseError} (h : t.Fails w c part x)
include h

theorem kinds : (3 ≤ t.phrases.length ∧ part = t ∧ x = .tooManyPhrases t t.phrases.length) ∨
    (t.phrases.length ≤ 2 ∧ Endpoints.read t c = .error (.phrase x) ∧ x.text = part ∧
      x.OfWording) ∨
    (t.phrases.length ≤ 2 ∧ (∃ es, Endpoints.read t c = .ok es) ∧ x = .offCalendar part) := by
  cases h with
  | split hlength => exact .inl ⟨hlength, rfl, rfl⟩
  | first ht hrest hp =>
    have hlength : t.phrases.length ≤ 2 := by
      rw [ht]
      exact Nat.succ_le_succ hrest
    have hrefusal := Endpoint.refusal_of_mem_phrases (ht ▸ List.mem_cons_self) hp
    exact .inr (.inl ⟨hlength, Endpoints.read_of_first ht hrest hp, hrefusal⟩)
  | @last p _ e x ht hp hq =>
    have hlength : t.phrases.length ≤ 2 := by
      rw [ht]
      exact Nat.le_refl 2
    have hlast : part ∈ t.phrases := ht ▸ List.mem_cons_of_mem p List.mem_cons_self
    have hrefusal := Endpoint.refusal_of_mem_phrases hlast hq
    exact .inr (.inl ⟨hlength, Endpoints.read_of_last ht hp hq, hrefusal⟩)
  | start _ hread => exact .inr (.inr ⟨Endpoints.length_le_of_read hread, ⟨_, hread⟩, rfl⟩)
  | finish _ hread => exact .inr (.inr ⟨Endpoints.length_le_of_read hread, ⟨_, hread⟩, rfl⟩)

theorem text_eq : x.text = part := by
  rcases h.kinds with ⟨_, rfl, rfl⟩ | ⟨_, _, htext, _⟩ | ⟨_, _, rfl⟩
  · rfl
  · exact htext
  · rfl

theorem eq_tooManyPhrases_iff (t' : Text) (n : Nat) : x = .tooManyPhrases t' n ↔
    3 ≤ t.phrases.length ∧ t' = t ∧ n = t.phrases.length := by
  rcases h.kinds with ⟨hlength, _, rfl⟩ | ⟨hlength, _, _, hwording⟩ | ⟨hlength, _, rfl⟩
  · rw [PhraseError.tooManyPhrases.injEq, eq_comm, @eq_comm _ n, and_iff_right hlength]
  · refine ⟨?_, fun hmany => absurd hmany.1 (Nat.not_le.mpr (Nat.lt_succ_of_le hlength))⟩
    rintro rfl
    exact hwording.elim
  · exact ⟨nofun, fun hmany => absurd hmany.1 (Nat.not_le.mpr (Nat.lt_succ_of_le hlength))⟩

theorem eq_offCalendar_iff (t' : Text) :
    x = .offCalendar t' ↔ t' = part ∧ ∃ es, Endpoints.read t c = .ok es := by
  rcases h.kinds with ⟨hlength, _, rfl⟩ | ⟨_, hread, _, hwording⟩ | ⟨_, hread, rfl⟩
  · refine ⟨nofun, ?_⟩
    rintro ⟨_, es, hread⟩
    rw [Endpoints.read_of_split hlength] at hread
    cases hread
  · constructor
    · rintro rfl
      exact hwording.elim
    · rintro ⟨_, es, hok⟩
      rw [hread] at hok
      cases hok
  · rw [PhraseError.offCalendar.injEq, eq_comm, and_iff_left hread]

end Text.Fails

namespace Period

variable {t : Text} {w : Week} {z : Zone} {now c : Moment} {x : PhraseError}

theorem read_eq_refusal_iff (hc : now.current z = .ok c) :
    Period.read t w z now = .error (.phrase x) ↔ Endpoints.read t c = .error (.phrase x) ∨
      ∃ es, Endpoints.read t c = .ok es ∧ es.place w = .error x := by
  simp only [read_eq_bind hc, bind_eq_error_iff, mapError_eq_error_iff, Failure.phrase.injEq,
    exists_eq_right]

theorem exists_fails (hc : now.current z = .ok c)
    (h : Period.read t w z now = .error (.phrase x)) : ∃ part, t.Fails w c part x := by
  rcases (read_eq_refusal_iff hc).mp h with h | ⟨es, hread, h⟩
  · exact Endpoints.exists_fails_of_read w h
  · obtain ⟨⟨p, rest, hp, _⟩, rest', q, hq, _⟩ := Endpoints.sides_of_read hread
    rcases Endpoints.place_eq_error_iff.mp h with ⟨hstart, rfl⟩ | ⟨hstart, hfinish, rfl⟩
    · rw [Endpoints.start_text_of_read hread hp hstart]
      exact ⟨p, .start hp hread hstart⟩
    · rw [Endpoints.finish_text_of_read hread hq hfinish]
      exact ⟨q, .finish hq hread hstart hfinish⟩

theorem read_of_fails (hc : now.current z = .ok c) {part : Text} (h : t.Fails w c part x) :
    Period.read t w z now = .error (.phrase x) := by
  rw [read_eq_refusal_iff hc]
  cases h with
  | split hlength => exact .inl (Endpoints.read_of_split hlength)
  | first ht hrest hp => exact .inl (Endpoints.read_of_first ht hrest hp)
  | last ht hp hq => exact .inl (Endpoints.read_of_last ht hp hq)
  | @start p rest es ht hread hstart =>
    refine .inr ⟨es, hread, Endpoints.place_eq_error_iff.mpr (.inl ⟨hstart, ?_⟩)⟩
    rw [Endpoints.start_text_of_read hread ht hstart]
  | @finish rest q es ht hread hstart hfinish =>
    refine .inr ⟨es, hread, Endpoints.place_eq_error_iff.mpr (.inr ⟨hstart, hfinish, ?_⟩)⟩
    rw [Endpoints.finish_text_of_read hread ht hfinish]

/-- A text without a period is refused at its first failing step, which the error names. -/
theorem read_refused_iff {t : Text} {w : Week} {z : Zone} {now c : Moment}
    (hc : now.current z = .ok c) :
    (∀ x, Period.read t w z now = .error (.phrase x) ↔ ∃ part, t.Fails w c part x) ∧
    (∀ part x, t.Fails w c part x → x.text = part ∧
      (∀ t' n, x = .tooManyPhrases t' n ↔
        3 ≤ t.phrases.length ∧ t' = t ∧ n = t.phrases.length) ∧
      (∀ t', x = .offCalendar t' ↔ t' = part ∧ ∃ es, Endpoints.read t c = .ok es)) ∧
    ∀ edge, (Endpoint.present c).Placeable w edge := by
  refine ⟨fun x => ⟨exists_fails hc, fun ⟨_, h⟩ => read_of_fails hc h⟩, ?_,
    Endpoint.placeable_present c w⟩
  exact fun part x h => ⟨h.text_eq, h.eq_tooManyPhrases_iff, h.eq_offCalendar_iff⟩

theorem read_refused_far_ahead :
    ∃ part, Text.Fails "now to next 9000 years".toList Week.sunday
      ⟨⟨⟨2024, 5, 15, by decide⟩, .midnight⟩, .zone .utc, false⟩ part
      (.offCalendar "next 9000 year".toList) := by
  have hcurrent : Moment.current
      ⟨⟨⟨2024, 5, 15, by decide⟩, .midnight⟩, .zone .utc, false⟩ .utc = .ok _ :=
    Moment.current_of_frame rfl
  have hread : Period.read "now to next 9000 years".toList Week.sunday .utc
      ⟨⟨⟨2024, 5, 15, by decide⟩, .midnight⟩, .zone .utc, false⟩ =
        .error (.phrase (.offCalendar "next 9000 year".toList)) := by
    decide +kernel
  exact ((read_refused_iff hcurrent).1 _).mp hread

end Period

end TimePhrase
