import TimePhrase.Proofs.Period.Placement
import TimePhrase.Proofs.Phrase.Figures

namespace TimePhrase

namespace Endpoints

theorem place_eq_ok_iff {es : Endpoints} {w : Week} {p : Period} : es.place w = .ok p ↔
    es.start.place w .start = .ok p.start ∧ es.finish.place w .finish = .ok p.finish := by
  simp only [place, bind_eq_ok_iff]
  constructor
  · rintro ⟨a, ha, b, hb, hp⟩
    cases hp
    exact ⟨ha, hb⟩
  · rintro ⟨ha, hb⟩
    exact ⟨p.start, ha, p.finish, hb, rfl⟩

theorem read_of_single {t phrase : Text} (h : t.phrases = [phrase]) {now : Moment}
    {es : Endpoints} : Endpoints.read t now = .ok es ↔
      ∃ e, Endpoint.read phrase now = .ok e ∧ es = ofSingle phrase e now := by
  rw [read, h]
  simp only [bind_eq_ok_iff]
  constructor
  · rintro ⟨e, he, hes⟩
    cases hes
    exact ⟨e, he, rfl⟩
  · rintro ⟨e, he, rfl⟩
    exact ⟨e, he, rfl⟩

theorem ofSingle_cases (t : Text) (e : Endpoint) (now : Moment) :
    ofSingle t e now = ⟨e, e⟩ ∨ ofSingle t e now = ⟨.present now, e⟩ ∨
      ofSingle t e now = ⟨e, .present now⟩ := by
  rw [ofSingle]
  split
  · split
    · exact .inr (.inl rfl)
    · exact .inr (.inr rfl)
    · exact .inl rfl
  · exact .inl rfl

end Endpoints

namespace Period

theorem read_eq_bind {t : Text} {w : Week} {z : Zone} {now c : Moment}
    (hc : now.current z = .ok c) : Period.read t w z now =
      Endpoints.read t c >>= fun es => (es.place w).mapError .phrase := by
  rw [Period.read, hc]
  exact pure_bind c _

theorem read_eq_ok_iff {t : Text} {w : Week} {z : Zone} {now : Moment} {p : Period} :
    Period.read t w z now = .ok p ↔ ∃ c es, now.current z = .ok c ∧
      Endpoints.read t c = .ok es ∧ es.place w = .ok p := by
  simp only [Period.read, bind_eq_ok_iff, mapError_eq_ok_iff]
  constructor
  · rintro ⟨c, hc, es, hes, hp⟩
    exact ⟨c, es, hc, hes, hp⟩
  · rintro ⟨c, es, hc, hes, hp⟩
    exact ⟨c, hc, es, hes, hp⟩

theorem unixSeconds_eq {p : Period} {s f : Int} (hs : p.start.unixSeconds = .ok s)
    (hf : p.finish.unixSeconds = .ok f) : p.unixSeconds = .ok (s, f) := by
  rw [unixSeconds, hs, hf]
  rfl

end Period

theorem Moment.current_of_frame {m : Moment} {z : Zone} (h : m.frame = .zone z) :
    m.current z = .ok m := by
  have hne : m.frame ≠ .floating := by simp [h]
  rw [current, if_neg hne, inZone, if_pos h]

theorem Moment.frame_of_current {now c : Moment} {z : Zone} (h : now.current z = .ok c) :
    c.frame = .zone z := by
  rw [current] at h
  split at h
  · cases h
  · rw [inZone] at h
    split at h
    · rename_i hzone
      cases h
      exact hzone
    · split at h
      · cases h
      · split at h
        · rename_i hmoved
          cases h
          exact (Zone.ofUnix?_eq_some_iff.mp hmoved).2.2.2.1
        · cases h

namespace Endpoint

theorem unixSeconds_of_place {e : Endpoint} {w : Week} {edge : Edge} {m : Moment} {z : Zone}
    (hzone : e.base.frame = .zone z) (h : e.place w edge = .ok m) :
    m.unixSeconds = .ok (z.firstInstant m.wall) := by
  obtain ⟨_, _, hmicro, hframe, hfold⟩ := place_eq_ok_iff.mp h
  exact Moment.unixSeconds_of_zone (hframe.trans hzone) hfold hmicro

theorem amount_eq_zero {e : Endpoint} (h : e.count = 0) : e.amount = 0 := by
  rw [amount, h]
  cases e.direction <;> rfl

theorem place_of_amount_zero {e : Endpoint} (hamount : e.amount = 0) {w : Week} {edge : Edge}
    {c : Civil} (h : e.base.wall.edgeOf? e.unit w edge = some c) :
    e.place w edge = .ok ⟨c, e.base.frame, false⟩ := by
  rw [Civil.edgeOf?_eq] at h
  have hmeant : e.meantUnit w = e.base.wall.unitNumber w e.unit := by
    rw [meantUnit, baseUnit, hamount, Int.add_zero]
  have hplace : e.place? w edge = some ⟨c, e.base.frame, false⟩ := by
    rw [place?_eq, hmeant, baseUnit, Moment.atSecond?, h]
    rfl
  rw [place, hplace]

theorem place_second {e : Endpoint} (hunit : e.unit = .second) (hamount : e.amount = 0) (w : Week)
    (edge : Edge) : e.place w edge = .ok ⟨e.base.wall.wholeSecond, e.base.frame, false⟩ := by
  apply place_of_amount_zero hamount
  rw [hunit]
  cases edge <;> rfl

end Endpoint

namespace Period

/-- A number of seconds means the first instant with its reading, itself on the first pass only. -/
theorem read_signed {s : Int} (w : Week) {z : Zone} {now c : Moment} {e : Endpoint}
    (hc : now.current z = .ok c) (he : Endpoint.read (Text.signed s) c = .ok e)
    (hunix : e.wording = .unix) :
    ∃ p u, Period.read (Text.signed s) w z now = .ok p ∧ p.unixSeconds = .ok (u, u) ∧
      (∃ r, z.readingAt? s = some r ∧ z.readingAt? u = some r) ∧
      (∀ v, z.readingAt? v = z.readingAt? s → u ≤ v) ∧
      (p.unixSeconds = .ok (s, s) ↔ z.FirstPass s) := by
  obtain ⟨way, _, hway⟩ := Wording.exists_of_readFirst he
  obtain rfl : way = .unix := (Wording.wording_of_read hway).symm.trans hunix
  obtain ⟨n, base, hn, hbase, heq⟩ := UnixTime.read_eq_some hway
  rw [Text.phrase_signed] at hn
  obtain rfl : n = s := Text.signed_injective hn
  have hzone := Moment.frame_of_current hc
  rw [hzone] at hbase
  have hreading := Zone.readingAt?_of_ofUnix? hbase
  obtain ⟨_, _, _, hframe, _⟩ := Zone.ofUnix?_eq_some_iff.mp hbase
  let m : Moment := ⟨base.wall.wholeSecond, .zone z, false⟩
  have hplace (edge : Edge) : e.place w edge = .ok m := by
    have h := e.place_second (by rw [heq]) (Endpoint.amount_eq_zero (by rw [heq])) w edge
    rw [heq, hframe] at h
    rw [heq]
    exact h
  have hm : m.unixSeconds = .ok (z.firstInstant m.wall) := Moment.unixSeconds_of_zone rfl rfl rfl
  have hread : Period.read (Text.signed n) w z now = .ok ⟨m, m⟩ := by
    rw [read_eq_ok_iff]
    refine ⟨c, ⟨e, e⟩, hc, ?_, Endpoints.place_eq_ok_iff.mpr ⟨hplace .start, hplace .finish⟩⟩
    rw [Endpoints.read_of_single (Text.phrases_signed n)]
    refine ⟨e, he, ?_⟩
    rw [Endpoints.ofSingle, if_neg]
    rw [hunix]
    exact nofun
  have hunixSeconds := unixSeconds_eq (p := ⟨m, m⟩) hm hm
  refine ⟨⟨m, m⟩, z.firstInstant m.wall, hread, hunixSeconds,
    ⟨m.wall, hreading, (Zone.readingAt?_firstInstant hreading).2⟩, ?_, ?_⟩
  · intro v hv
    rw [hreading] at hv
    exact (Zone.readingAt?_firstInstant hv).1
  · rw [hunixSeconds, ← Zone.firstInstant_eq_iff hreading, Except.ok.injEq, Prod.mk.injEq,
      and_self]

theorem read_signed_second_pass :
    ∃ p u, Period.read (Text.signed 1699165800) Week.sunday .newYork
        ⟨⟨⟨2023, 11, 6, by decide⟩, .midnight⟩, .zone .newYork, false⟩ = .ok p ∧
      p.unixSeconds = .ok (u, u) ∧ u ≤ 1699162200 := by
  have hcurrent : Moment.current
      ⟨⟨⟨2023, 11, 6, by decide⟩, .midnight⟩, .zone .newYork, false⟩ .newYork = .ok _ :=
    Moment.current_of_frame rfl
  have hread : Endpoint.read (Text.signed 1699165800)
      ⟨⟨⟨2023, 11, 6, by decide⟩, .midnight⟩, .zone .newYork, false⟩ =
        .ok ⟨"1699165800".toList, .unix, .second, 0, .forward,
          ⟨⟨⟨2023, 11, 5, by decide⟩, ⟨1, 30, 0, 0, by decide⟩⟩, .zone .newYork, true⟩⟩ :=
    eq_ok_of_toOption (by decide +kernel)
  obtain ⟨p, u, hp, hu, _, hleast, _⟩ := read_signed Week.sunday hcurrent hread rfl
  exact ⟨p, u, hp, hu, hleast 1699162200 (by decide +kernel)⟩

end Period

end TimePhrase
