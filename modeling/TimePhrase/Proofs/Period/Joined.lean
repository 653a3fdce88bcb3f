import TimePhrase.Proofs.Period.Instants
import TimePhrase.Proofs.Phrase.Parts

namespace TimePhrase

/-- The endpoint is so many units before or after the present. -/
def Endpoint.Counts (e : Endpoint) (d : Direction) : Prop :=
  e.wording = .relative ∧ e.direction = d

namespace Endpoints

section Read

variable {t : Text} {now : Moment} {e : Endpoint} (h : Endpoint.read t now = .ok e)
include h

theorem leading?_of_counts {d : Direction} (he : e.Counts d) :
    Direction.leading? t.phrase = some d := by
  obtain ⟨way, _, hread⟩ := Wording.exists_of_readFirst h
  obtain rfl : way = .relative := (Wording.wording_of_read hread).symm.trans he.1
  obtain ⟨d', _, _, hwords, _, _, rfl⟩ := Relative.read_eq_some hread
  obtain rfl : d' = d := he.2
  exact Direction.leading?_of_words hwords

theorem ofSingle_of_counts {d : Direction} (he : e.Counts d) : ofSingle t.phrase e now =
    match d with
    | .forward => ⟨.present now, e⟩
    | .backward => ⟨e, .present now⟩ := by
  rw [ofSingle, if_pos he.1, leading?_of_counts h he]
  cases d <;> rfl

theorem ofSingle_start (he : ¬ e.Counts .forward) : (ofSingle t.phrase e now).start = e := by
  by_cases hrelative : e.wording = .relative
  · cases hd : e.direction with
    | forward => exact absurd ⟨hrelative, hd⟩ he
    | backward => rw [ofSingle_of_counts h ⟨hrelative, hd⟩]
  · rw [ofSingle, if_neg hrelative]

theorem ofSingle_finish (he : ¬ e.Counts .backward) : (ofSingle t.phrase e now).finish = e := by
  by_cases hrelative : e.wording = .relative
  · cases hd : e.direction with
    | forward => rw [ofSingle_of_counts h ⟨hrelative, hd⟩]
    | backward => exact absurd ⟨hrelative, hd⟩ he
  · rw [ofSingle, if_neg hrelative]

theorem ofSingle_start_of_counts (he : e.Counts .forward) :
    (ofSingle t.phrase e now).start = .present now := by
  rw [ofSingle_of_counts h he]

theorem ofSingle_finish_of_counts (he : e.Counts .backward) :
    (ofSingle t.phrase e now).finish = .present now := by
  rw [ofSingle_of_counts h he]

theorem read_of_read : Endpoints.read t now = .ok (ofSingle t.phrase e now) := by
  rw [read_of_single (Text.phrases_of_single (Endpoint.to_not_mem_words h))]
  exact ⟨e, by rw [Endpoint.read_phrase, h], rfl⟩

theorem read_of_joined {t' delimiter : Text} {e' : Endpoint}
    (h' : Endpoint.read t' now = .ok e') (hdelimiter : delimiter.lower = joiner.toList) :
    Endpoints.read (t ++ delimiter ++ t') now = .ok ⟨e, e'⟩ := by
  rw [read, Text.phrases_of_joined (Endpoint.to_not_mem_words h) (Endpoint.to_not_mem_words h')
    hdelimiter]
  simp only [Endpoint.read_phrase, h, h']
  rfl

end Read

end Endpoints

namespace Period

theorem read_iff_place {t : Text} {c : Moment} {es : Endpoints}
    (h : Endpoints.read t c = .ok es) {w : Week} {z : Zone} {now : Moment}
    (hc : now.current z = .ok c) {p : Period} : Period.read t w z now = .ok p ↔
      es.start.place w .start = .ok p.start ∧ es.finish.place w .finish = .ok p.finish := by
  rw [read_eq_ok_iff, ← Endpoints.place_eq_ok_iff]
  constructor
  · rintro ⟨c', es', hc', hes, hp⟩
    rw [hc] at hc'
    cases hc'
    rw [h] at hes
    cases hes
    exact hp
  · exact fun hp => ⟨c, es, hc, h, hp⟩

/-- Joined phrases keep their endpoints; alone, one that counts has the present on one side. -/
theorem read_joined {a b delimiter : Text} (hdelimiter : delimiter.lower = joiner.toList)
    {c : Moment} {e e' : Endpoint} (ha : Endpoint.read a c = .ok e)
    (hb : Endpoint.read b c = .ok e') :
    Endpoints.read (a ++ delimiter ++ b) c = .ok ⟨e, e'⟩ ∧
    ∀ w z now, now.current z = .ok c →
      (∀ p, Period.read (a ++ delimiter ++ b) w z now = .ok p ↔
        e.place w .start = .ok p.start ∧ e'.place w .finish = .ok p.finish) ∧
      (∀ q, Period.read a w z now = .ok q →
        (¬ e.Counts .forward → e.place w .start = .ok q.start) ∧
        (e.Counts .forward → (Endpoint.present c).place w .start = .ok q.start)) ∧
      (∀ q, Period.read b w z now = .ok q →
        (¬ e'.Counts .backward → e'.place w .finish = .ok q.finish) ∧
        (e'.Counts .backward → (Endpoint.present c).place w .finish = .ok q.finish)) := by
  have hjoined := Endpoints.read_of_joined ha hb hdelimiter
  refine ⟨hjoined, fun w z now hc => ⟨fun p => read_iff_place hjoined hc, ?_, ?_⟩⟩
  · intro q hq
    have hplace := ((read_iff_place (Endpoints.read_of_read ha) hc).mp hq).1
    constructor
    · intro he
      rw [Endpoints.ofSingle_start ha he] at hplace
      exact hplace
    · intro he
      rw [Endpoints.ofSingle_start_of_counts ha he] at hplace
      exact hplace
  · intro q hq
    have hplace := ((read_iff_place (Endpoints.read_of_read hb) hc).mp hq).2
    constructor
    · intro he
      rw [Endpoints.ofSingle_finish hb he] at hplace
      exact hplace
    · intro he
      rw [Endpoints.ofSingle_finish_of_counts hb he] at hplace
      exact hplace

theorem read_yesterday_to_now : ∃ e e',
    Endpoint.read "Yesterday".toList
        ⟨⟨⟨2024, 5, 15, by decide⟩, .midnight⟩, .zone .utc, false⟩ = .ok e ∧
      Endpoint.read "now".toList
        ⟨⟨⟨2024, 5, 15, by decide⟩, .midnight⟩, .zone .utc, false⟩ = .ok e' ∧
      Endpoints.read ("Yesterday".toList ++ " TO ".toList ++ "now".toList)
        ⟨⟨⟨2024, 5, 15, by decide⟩, .midnight⟩, .zone .utc, false⟩ = .ok ⟨e, e'⟩ := by
  have hfirst : Endpoint.read "Yesterday".toList
      ⟨⟨⟨2024, 5, 15, by decide⟩, .midnight⟩, .zone .utc, false⟩ =
        .ok ⟨"yesterday".toList, .fixed, .day, 1, .backward,
          ⟨⟨⟨2024, 5, 15, by decide⟩, .midnight⟩, .zone .utc, false⟩⟩ :=
    eq_ok_of_toOption (by decide +kernel)
  have hlast : Endpoint.read "now".toList
      ⟨⟨⟨2024, 5, 15, by decide⟩, .midnight⟩, .zone .utc, false⟩ =
        .ok (.present ⟨⟨⟨2024, 5, 15, by decide⟩, .midnight⟩, .zone .utc, false⟩) :=
    eq_ok_of_toOption (by decide +kernel)
  exact ⟨_, _, hfirst, hlast, (read_joined (by decide +kernel) hfirst hlast).1⟩

theorem last_ten_days_joined : ∃ e e' p q,
    Endpoint.read "last 300 days".toList
        ⟨⟨⟨2024, 5, 15, by decide⟩, ⟨13, 45, 30, 0, by decide⟩⟩, .zone .utc, false⟩ = .ok e ∧
      Endpoint.read "last 10 days".toList
        ⟨⟨⟨2024, 5, 15, by decide⟩, ⟨13, 45, 30, 0, by decide⟩⟩, .zone .utc, false⟩ = .ok e' ∧
      Period.read ("last 300 days".toList ++ " to ".toList ++ "last 10 days".toList) Week.sunday
        .utc ⟨⟨⟨2024, 5, 15, by decide⟩, ⟨13, 45, 30, 0, by decide⟩⟩, .zone .utc, false⟩ = .ok p ∧
      Period.read "last 10 days".toList Week.sunday .utc
        ⟨⟨⟨2024, 5, 15, by decide⟩, ⟨13, 45, 30, 0, by decide⟩⟩, .zone .utc, false⟩ = .ok q ∧
      p.finish ≠ q.finish := by
  have hfirst : Endpoint.read "last 300 days".toList
      ⟨⟨⟨2024, 5, 15, by decide⟩, ⟨13, 45, 30, 0, by decide⟩⟩, .zone .utc, false⟩ =
        .ok ⟨"last 300 day".toList, .relative, .day, 300, .backward,
          ⟨⟨⟨2024, 5, 15, by decide⟩, ⟨13, 45, 30, 0, by decide⟩⟩, .zone .utc, false⟩⟩ :=
    eq_ok_of_toOption (by decide +kernel)
  have hlast : Endpoint.read "last 10 days".toList
      ⟨⟨⟨2024, 5, 15, by decide⟩, ⟨13, 45, 30, 0, by decide⟩⟩, .zone .utc, false⟩ =
        .ok ⟨"last 10 day".toList, .relative, .day, 10, .backward,
          ⟨⟨⟨2024, 5, 15, by decide⟩, ⟨13, 45, 30, 0, by decide⟩⟩, .zone .utc, false⟩⟩ :=
    eq_ok_of_toOption (by decide +kernel)
  have hjoined : Period.read ("last 300 days".toList ++ " to ".toList ++ "last 10 days".toList)
      Week.sunday .utc
      ⟨⟨⟨2024, 5, 15, by decide⟩, ⟨13, 45, 30, 0, by decide⟩⟩, .zone .utc, false⟩ =
        .ok ⟨⟨⟨⟨2023, 7, 20, by decide⟩, .midnight⟩, .zone .utc, false⟩,
          ⟨⟨⟨2024, 5, 5, by decide⟩, .lastSecond⟩, .zone .utc, false⟩⟩ :=
    eq_ok_of_toOption (by decide +kernel)
  have halone : Period.read "last 10 days".toList Week.sunday .utc
      ⟨⟨⟨2024, 5, 15, by decide⟩, ⟨13, 45, 30, 0, by decide⟩⟩, .zone .utc, false⟩ =
        .ok ⟨⟨⟨⟨2024, 5, 5, by decide⟩, .midnight⟩, .zone .utc, false⟩,
          ⟨⟨⟨2024, 5, 15, by decide⟩, ⟨13, 45, 30, 0, by decide⟩⟩, .zone .utc, false⟩⟩ :=
    eq_ok_of_toOption (by decide +kernel)
  exact ⟨_, _, _, _, hfirst, hlast, hjoined, halone, by decide⟩

end Period

end TimePhrase
