import TimePhrase.Proofs.Moment.Instants
import TimePhrase.Proofs.Phrase.Vocabulary

namespace TimePhrase

namespace Text

/-- What a phrase `p` means at the moment `now`. -/
inductive Means (p : Text) (now : Moment) : Endpoint → Prop
  | fixed {f : FixedPhrase} (hf : f ∈ FixedPhrase.table) (hp : p ∈ f.spellings) :
    Means p now ⟨p, .fixed, f.unit, f.count, f.direction, now⟩
  | relative {d : Direction} {digits : Text} {u : TimeUnit} (hdigits : digits.isNatural)
    (hpos : 0 < digits.value) (hp : p = joined [d.modifier.toList, digits, u.name.toList]) :
    Means p now ⟨p, .relative, u, digits.value, d, now⟩
  | spelled {l : Layout} {c : Civil} (hyear : ∀ n, p.Spells n → firstBareYear ≤ n)
    (hp : l.read? p = some c) :
    Means p now ⟨p, .spelled, l.unit, 0, .forward, l.complete c now⟩
  | unix {n : Int} {base : Moment} (hp : p = signed n)
    (hlayout : n < firstBareYear ∨ ∀ l : Layout, l.read? p = none)
    (hbase : Moment.ofUnix? now.frame n 0 (by decide) = some base) :
    Means p now ⟨p, .unix, .second, 0, .forward, base⟩

/-- The text has the three parts of a relative phrase, of which the first or the last is known. -/
structure LikeRelative (p modifier digits unit : Text) : Prop where
  words_eq : p.words = [modifier, digits, unit]
  known : (∃ d : Direction, modifier = d.modifier.toList) ∨ ∃ u : TimeUnit, unit = u.name.toList

/-- Why a phrase `p` is refused if it means nothing. -/
inductive Refused (p : Text) : PhraseError → Prop
  | modifier {modifier digits unit : Text} (hp : LikeRelative p modifier digits unit)
    (hmodifier : ∀ d : Direction, modifier ≠ d.modifier.toList) :
    Refused p (.badModifier p modifier)
  | count {d : Direction} {digits unit : Text}
    (hp : LikeRelative p d.modifier.toList digits unit)
    (hdigits : ¬ (digits.isNatural ∧ 0 < digits.value)) : Refused p (.badCount p digits)
  | unit {d : Direction} {digits unit : Text}
    (hp : LikeRelative p d.modifier.toList digits unit)
    (hdigits : digits.isNatural ∧ 0 < digits.value)
    (hunit : ∀ u : TimeUnit, unit ≠ u.name.toList) : Refused p (.badUnit p unit)
  | early {n : Int} (hp : p.Spells n) (hn : n < firstBareYear) : Refused p (.yearTooEarly p)
  | unreadable (hrelative : ∀ modifier digits unit, ¬ LikeRelative p modifier digits unit)
    (hyear : ∀ n, p.Spells n → firstBareYear ≤ n) : Refused p (.unreadable p)

theorem LikeRelative.exists_letter {p modifier digits unit : Text}
    (h : p.LikeRelative modifier digits unit) : ∃ c ∈ p, isLetter c := by
  have hmem {w : Text} {c : Char} (hw : w ∈ [modifier, digits, unit]) (hc : c ∈ w) : c ∈ p := by
    rw [← h.words_eq] at hw
    exact (infix_of_mem_words hw).subset hc
  rcases h.known with ⟨d, rfl⟩ | ⟨u, rfl⟩
  · have hletter : d.modifier.toList.any isLetter = true := by
      cases d <;> decide
    obtain ⟨c, hc, hletter⟩ := List.any_eq_true.mp hletter
    exact ⟨c, hmem List.mem_cons_self hc, hletter⟩
  · have hletter : u.name.toList.any isLetter = true := by
      cases u <;> decide
    obtain ⟨c, hc, hletter⟩ := List.any_eq_true.mp hletter
    exact ⟨c, hmem (List.mem_cons_of_mem _ (List.mem_cons_of_mem _ List.mem_cons_self)) hc, hletter⟩

theorem not_likeRelative_of_spells {p : Text} {n : Int} (h : p.Spells n)
    (modifier digits unit : Text) : ¬ p.LikeRelative modifier digits unit := by
  intro hrelative
  obtain ⟨c, hc, hletter⟩ := hrelative.exists_letter
  exact not_spells_of_letter hc hletter n h

theorem not_likeRelative_of_read? {p : Text} {l : Layout} {c : Civil} (h : l.read? p = some c)
    (modifier digits unit : Text) : ¬ p.LikeRelative modifier digits unit := by
  intro hrelative
  obtain ⟨d, hd, hletter⟩ := hrelative.exists_letter
  rw [l.read?_of_letter hd hletter] at h
  cases h

end Text

theorem Wording.exists_of_readFirst {t : Text} {now : Moment} {e : Endpoint} {ways : List Wording}
    {refusal : Option PhraseError} (h : readFirst t now refusal ways = .ok e) :
    ∃ way ∈ ways, way.read t now = .ok (some e) := by
  induction ways generalizing refusal with
  | nil => cases h
  | cons way rest ih =>
    have hrest {refusal : Option PhraseError} (h : readFirst t now refusal rest = .ok e) :
        ∃ w ∈ way :: rest, w.read t now = .ok (some e) := by
      obtain ⟨w, hw, hread⟩ := ih h
      exact ⟨w, List.mem_cons_of_mem way hw, hread⟩
    rw [readFirst] at h
    split at h
    · rename_i hread
      cases h
      exact ⟨way, List.mem_cons_self, hread⟩
    · exact hrest h
    · exact hrest h
    · cases h

theorem UnixTime.read_eq_some {t : Text} {now : Moment} {e : Endpoint}
    (h : Wording.unix.read t now = .ok (some e)) : ∃ n base, Text.signed n = t ∧
      Moment.ofUnix? now.frame n 0 (by decide) = some base ∧
      e = ⟨t, .unix, .second, 0, .forward, base⟩ := by
  rw [Wording.read, UnixTime.read] at h
  split at h
  · cases h
  · cases h
  · rename_i n hn
    rw [Except.ok.injEq, Option.ite_none_right_eq_some, Option.map_eq_some_iff] at h
    obtain ⟨hsigned, base, hbase, rfl⟩ := h
    exact ⟨n, base, hsigned, hbase, rfl⟩

theorem Spelled.read_eq_some {t : Text} {now : Moment} {e : Endpoint}
    (h : Wording.spelled.read t now = .ok (some e)) : ∃ (l : Layout) (parsed : Civil),
      l.read? t = some parsed ∧
      e = ⟨t, .spelled, l.unit, 0, .forward, l.complete parsed now⟩ := by
  rw [Wording.read, Spelled.read, Spelled.readIn] at h
  split at h
  · cases h
  · split at h
    · cases h
    · obtain ⟨⟨l, parsed⟩, hlayout, rfl⟩ := Option.map_eq_some_iff.mp (Except.ok.inj h)
      exact ⟨l, parsed, Layout.layoutIn?_eq_some_iff.mp hlayout, rfl⟩

theorem Relative.count?_eq_some {digits : Text} {n : Nat} (h : count? digits = .ok (some n)) :
    digits.isNatural ∧ digits.value = n ∧ 0 < n := by
  rw [count?] at h
  split at h
  · rename_i hnat
    rw [Text.natural] at h
    split at h
    · have hn := Except.ok.inj h
      rw [Option.ite_none_left_eq_some] at hn
      obtain ⟨hzero, hn⟩ := hn
      cases hn
      exact ⟨hnat, rfl, Nat.pos_of_ne_zero hzero⟩
    · cases h
  · cases h

theorem Relative.read_eq_some {t : Text} {now : Moment} {e : Endpoint}
    (h : Wording.relative.read t now = .ok (some e)) :
    ∃ (d : Direction) (digits : Text) (u : TimeUnit),
      t.words = [d.modifier.toList, digits, u.name.toList] ∧ digits.isNatural ∧
        0 < digits.value ∧ e = ⟨t, .relative, u, digits.value, d, now⟩ := by
  rw [Wording.read, Relative.read] at h
  split at h
  · rename_i modifier digits unit hwords
    split at h
    · cases h
    · cases h
    · rename_i unit? d hmodifier
      split at h
      · cases h
      · cases h
      · cases h
      · rename_i n u hcount hunit
        cases h
        obtain rfl := Direction.ofModifier?_eq_some_iff.mp hmodifier
        obtain rfl := TimeUnit.ofName?_eq_some_iff.mp hunit
        obtain ⟨hnat, rfl, hpos⟩ := Relative.count?_eq_some hcount
        exact ⟨d, digits, u, hwords, hnat, hpos, rfl⟩
  · cases h

theorem Wording.heading_of_read {t : Text} {now : Moment} {e : Endpoint} {way : Wording}
    (h : way.read t now = .ok (some e)) :
    e.text = t ∧ e.wording = way ∧ e.base.frame = now.frame := by
  cases way with
  | fixed =>
    obtain ⟨f, _, rfl⟩ := Option.map_eq_some_iff.mp (Except.ok.inj h)
    exact ⟨rfl, rfl, rfl⟩
  | relative =>
    obtain ⟨_, _, _, _, _, _, rfl⟩ := Relative.read_eq_some h
    exact ⟨rfl, rfl, rfl⟩
  | spelled =>
    obtain ⟨_, _, _, rfl⟩ := Spelled.read_eq_some h
    exact ⟨rfl, rfl, rfl⟩
  | unix =>
    obtain ⟨_, _, _, hbase, rfl⟩ := UnixTime.read_eq_some h
    exact ⟨rfl, rfl, Moment.frame_of_ofUnix? hbase⟩

theorem Wording.wording_of_read {t : Text} {now : Moment} {e : Endpoint} {way : Wording}
    (h : way.read t now = .ok (some e)) : e.wording = way :=
  (heading_of_read h).2.1

section Readers

variable {p : Text} {now : Moment} (hdigits : p.countP isAsciiDigit ≤ Text.maxDigits)

theorem Relative.count?_eq {digits : Text} (h : digits.countP isAsciiDigit ≤ Text.maxDigits) :
    count? digits =
      .ok (if digits.isNatural ∧ 0 < digits.value then some digits.value else none) := by
  by_cases hnat : digits.isNatural
  · rw [← Text.length_le_countP hnat] at h
    rw [count?, if_pos hnat, Text.natural_eq h]
    by_cases hzero : digits.value = 0
    · rw [if_neg fun hpos => absurd hzero (Nat.ne_of_gt hpos.2)]
      exact congrArg Except.ok (if_pos hzero)
    · rw [if_pos ⟨hnat, Nat.pos_of_ne_zero hzero⟩]
      exact congrArg Except.ok (if_neg hzero)
  · rw [count?, if_neg hnat, if_neg fun h => hnat h.1]
    rfl

theorem Relative.read_eq_none
    (h : ∀ modifier digits unit, ¬ p.LikeRelative modifier digits unit) :
    Relative.read p now = .ok none := by
  rw [Relative.read]
  split
  · rename_i modifier digits unit hwords
    have hmodifier : Direction.ofModifier? modifier = none := by
      rw [Direction.ofModifier?_eq_none_iff]
      exact fun d hd => h modifier digits unit ⟨hwords, .inl ⟨d, hd⟩⟩
    have hunit : TimeUnit.ofName? unit = none := by
      rw [TimeUnit.ofName?_eq_none_iff]
      exact fun u hu => h modifier digits unit ⟨hwords, .inr ⟨u, hu⟩⟩
    rw [hmodifier, hunit]
  · rfl

include hdigits

theorem Relative.count?_of_words {modifier digits unit : Text}
    (h : p.words = [modifier, digits, unit]) : count? digits =
      .ok (if digits.isNatural ∧ 0 < digits.value then some digits.value else none) := by
  have hmem : digits ∈ p.words := by
    rw [h]
    exact List.mem_cons_of_mem _ List.mem_cons_self
  have hle := (Text.infix_of_mem_words hmem).sublist.countP_le (p := isAsciiDigit)
  exact count?_eq (Nat.le_trans hle hdigits)

theorem Relative.read_of_words {d : Direction} {digits unit : Text}
    (h : p.words = [d.modifier.toList, digits, unit]) : Relative.read p now =
      if digits.isNatural ∧ 0 < digits.value then
        match TimeUnit.ofName? unit with
        | some u => .ok (some ⟨p, .relative, u, digits.value, d, now⟩)
        | none => .error (.phrase (.badUnit p unit))
      else .error (.phrase (.badCount p digits)) := by
  rw [Relative.read, ← Text.words, h]
  simp only [Direction.ofModifier?_eq_some_iff.mpr rfl, count?_of_words hdigits h]
  by_cases hgood : digits.isNatural ∧ 0 < digits.value
  · rw [if_pos hgood, if_pos hgood]
    cases TimeUnit.ofName? unit <;> rfl
  · rw [if_neg hgood, if_neg hgood]

theorem Spelled.read_early {n : Int} (h : p.Spells n) (hn : n < firstBareYear) :
    Spelled.read p now = .error (.phrase (.yearTooEarly p)) := by
  rw [Spelled.read, readIn, h.integer?_eq hdigits]
  exact if_pos (decide_eq_true hn)

theorem Spelled.read_eq (h : ∀ n, p.Spells n → firstBareYear ≤ n) : Spelled.read p now =
    .ok ((layoutIn? Layout.all p).map fun (l, parsed) =>
      ⟨p, .spelled, l.unit, 0, .forward, l.complete parsed now⟩) := by
  rw [Spelled.read, readIn]
  by_cases hp : ∃ n, p.Spells n
  · obtain ⟨n, hn⟩ := hp
    rw [hn.integer?_eq hdigits]
    exact if_neg fun hearly => absurd (h n hn) (Int.not_le.mpr (of_decide_eq_true hearly))
  · rw [Text.integer?_eq_none (not_exists.mp hp)]
    rfl

theorem UnixTime.read_of_signed {n : Int} {base : Moment} (hp : p = Text.signed n)
    (hbase : Moment.ofUnix? now.frame n 0 (by decide) = some base) :
    UnixTime.read p now = .ok (some ⟨p, .unix, .second, 0, .forward, base⟩) := by
  have hn : p.Spells n := by
    rw [hp]
    exact Text.spells_signed n
  rw [UnixTime.read, hn.integer?_eq hdigits]
  simp only [if_pos hp.symm, hbase, Option.map_some]

theorem UnixTime.read_eq_none (h : ∀ n base, p = Text.signed n →
    Moment.ofUnix? now.frame n 0 (by decide) ≠ some base) : UnixTime.read p now = .ok none := by
  rw [UnixTime.read]
  by_cases hp : ∃ n, p.Spells n
  · obtain ⟨n, hn⟩ := hp
    rw [hn.integer?_eq hdigits]
    by_cases hsigned : Text.signed n = p
    · have hnone : Moment.ofUnix? now.frame n 0 (by decide) = none := by
        rw [Option.eq_none_iff_forall_ne_some]
        exact fun base => h n base hsigned.symm
      simp only [if_pos hsigned, hnone, Option.map_none]
    · simp only [if_neg hsigned]
  · rw [Text.integer?_eq_none (not_exists.mp hp)]

/-- A number that no layout reads has no wall time, or else it would mean an instant. -/
theorem UnixTime.read_of_not_means (hnone : ∀ e, ¬ p.Means now e)
    (hlayout : ∀ n, p.Spells n → firstBareYear ≤ n → ∀ l : Layout, l.read? p = none) :
    UnixTime.read p now = .ok none := by
  apply UnixTime.read_eq_none hdigits
  intro n base hp hbase
  apply hnone _ (.unix hp ?_ hbase)
  by_cases hearly : n < firstBareYear
  · exact .inl hearly
  · exact .inr (hlayout n (hp ▸ Text.spells_signed n) (Int.not_lt.mp hearly))

end Readers

section Letters

variable {t : Text} {now : Moment} {c : Char} (hc : c ∈ t) (hletter : isLetter c)
include hc hletter

theorem Spelled.read_of_letter : Spelled.read t now = .ok none := by
  have hlayout := Layout.layoutIn?_eq_none_iff.mpr fun l => l.read?_of_letter hc hletter
  rw [Spelled.read, readIn, Text.integer?_eq_none (Text.not_spells_of_letter hc hletter), hlayout]
  rfl

theorem UnixTime.read_of_letter : UnixTime.read t now = .ok none := by
  rw [UnixTime.read, Text.integer?_eq_none (Text.not_spells_of_letter hc hletter)]

end Letters

theorem Text.LikeRelative.not_spelled {t modifier digits unit : Text}
    (h : t.LikeRelative modifier digits unit) (now : Moment) :
    Spelled.read t now = .ok none ∧ UnixTime.read t now = .ok none := by
  obtain ⟨c, hc, hletter⟩ := h.exists_letter
  exact ⟨Spelled.read_of_letter hc hletter, UnixTime.read_of_letter hc hletter⟩

theorem Text.words_relative {p digits : Text} {d : Direction} {u : TimeUnit}
    (hdigits : digits.isNatural) (hp : p = joined [d.modifier.toList, digits, u.name.toList]) :
    p.words = [d.modifier.toList, digits, u.name.toList] := by
  rw [words_eq_iff]
  refine ⟨List.cons_ne_nil _ _, hp, ?_⟩
  simp only [List.forall_mem_cons]
  refine ⟨by cases d <;> decide, ?_, by cases u <;> decide, nofun⟩
  intro hspace
  exact absurd ((isNatural_iff.mp hdigits).2 ' ' hspace) (by decide)

theorem Endpoint.read_of_find? {t : Text} {f : FixedPhrase}
    (h : FixedPhrase.find? t.phrase = some f) (now : Moment) :
    Endpoint.read t now = .ok ⟨t.phrase, .fixed, f.unit, f.count, f.direction, now⟩ := by
  simp only [Endpoint.read, Wording.all, Wording.readFirst, Wording.read, FixedPhrase.read?, h,
    Option.map_some]

namespace Endpoint

variable {t : Text} {now : Moment} (hdigits : t.phrase.countP isAsciiDigit ≤ Text.maxDigits)
include hdigits

theorem read_of_means {e : Endpoint} (h : t.phrase.Means now e) : Endpoint.read t now = .ok e := by
  simp only [Endpoint.read, Wording.all, Wording.readFirst, Wording.read, FixedPhrase.read?]
  cases h with
  | fixed hf hp =>
    rw [FixedPhrase.find?_eq_some_iff.mpr ⟨hf, hp⟩]
    rfl
  | @relative d digits u hnat hpos hp =>
    have hwords := Text.words_relative hnat hp
    have hmem : digits ∈ t.phrase.words := by
      rw [hwords]
      exact List.mem_cons_of_mem _ List.mem_cons_self
    have hfixed := FixedPhrase.find?_of_numeral (Text.infix_of_mem_words hmem) hnat
    have hread : Relative.read t.phrase now =
        .ok (some ⟨t.phrase, .relative, u, digits.value, d, now⟩) := by
      rw [Relative.read_of_words hdigits hwords, if_pos ⟨hnat, hpos⟩,
        TimeUnit.ofName?_eq_some_iff.mpr rfl]
    rw [hfixed, hread]
    rfl
  | spelled hyear hp =>
    rw [FixedPhrase.find?_of_read? hp,
      Relative.read_eq_none (Text.not_likeRelative_of_read? hp), Spelled.read_eq hdigits hyear,
      Layout.layoutIn?_eq_some_iff.mpr hp]
    rfl
  | @unix n base hp hlayout hbase =>
    have hn : t.phrase.Spells n := by
      rw [hp]
      exact Text.spells_signed n
    rw [FixedPhrase.find?_of_spells hn, Relative.read_eq_none (Text.not_likeRelative_of_spells hn),
      UnixTime.read_of_signed hdigits hp hbase]
    by_cases hearly : n < firstBareYear
    · rw [Spelled.read_early hdigits hn hearly]
      rfl
    · have hnone := Layout.layoutIn?_eq_none_iff.mpr (hlayout.resolve_left hearly)
      rw [Spelled.read_eq hdigits, hnone]
      · rfl
      · intro m hm
        rw [hm.unique hn]
        exact Int.not_lt.mp hearly

theorem read_of_refused {x : PhraseError} (hnone : ∀ e, ¬ t.phrase.Means now e)
    (h : t.phrase.Refused x) : Endpoint.read t now = .error (.phrase x) := by
  have hfixed : FixedPhrase.find? t.phrase = none := by
    rw [Option.eq_none_iff_forall_ne_some]
    intro f hf
    have ⟨hmem, hp⟩ := FixedPhrase.find?_eq_some_iff.mp hf
    exact hnone _ (.fixed hmem hp)
  simp only [Endpoint.read, Wording.all, Wording.readFirst, Wording.read, FixedPhrase.read?, hfixed,
    Option.map_none]
  cases h with
  | @modifier modifier digits unit hp hmodifier =>
    obtain ⟨u, rfl⟩ := hp.known.resolve_left fun ⟨d, hd⟩ => hmodifier d hd
    have hread : Relative.read t.phrase now =
        .error (.phrase (.badModifier t.phrase modifier)) := by
      rw [Relative.read, ← Text.words, hp.words_eq]
      simp only [Direction.ofModifier?_eq_none_iff.mpr hmodifier,
        TimeUnit.ofName?_eq_some_iff.mpr rfl]
    rw [hread, (hp.not_spelled now).1, (hp.not_spelled now).2]
    rfl
  | @count d digits unit hp hbad =>
    have hread : Relative.read t.phrase now = .error (.phrase (.badCount t.phrase digits)) := by
      rw [Relative.read_of_words hdigits hp.words_eq, if_neg hbad]
    rw [hread, (hp.not_spelled now).1, (hp.not_spelled now).2]
    rfl
  | @unit d digits unit hp hgood hunit =>
    have hread : Relative.read t.phrase now = .error (.phrase (.badUnit t.phrase unit)) := by
      rw [Relative.read_of_words hdigits hp.words_eq, if_pos hgood,
        TimeUnit.ofName?_eq_none_iff.mpr hunit]
    rw [hread, (hp.not_spelled now).1, (hp.not_spelled now).2]
    rfl
  | @early n hp hn =>
    rw [Relative.read_eq_none (Text.not_likeRelative_of_spells hp),
      Spelled.read_early hdigits hp hn,
      UnixTime.read_of_not_means hdigits hnone]
    · rfl
    · intro m hm hyear
      rw [hm.unique hp] at hyear
      exact absurd hn (Int.not_lt.mpr hyear)
  | unreadable hrelative hyear =>
    have hlayout (l : Layout) : l.read? t.phrase = none := by
      rw [Option.eq_none_iff_forall_ne_some]
      exact fun c hc => hnone _ (.spelled hyear hc)
    rw [Relative.read_eq_none hrelative, Spelled.read_eq hdigits hyear,
      Layout.layoutIn?_eq_none_iff.mpr hlayout,
      UnixTime.read_of_not_means hdigits hnone fun _ _ _ => hlayout]
    rfl

end Endpoint

theorem Text.exists_refused {p : Text} {now : Moment} (hnone : ∀ e, ¬ p.Means now e) :
    ∃ x, p.Refused x := by
  by_cases hrelative : ∃ modifier digits unit, p.LikeRelative modifier digits unit
  · obtain ⟨modifier, digits, unit, hp⟩ := hrelative
    by_cases hmodifier : ∃ d : Direction, modifier = d.modifier.toList
    · obtain ⟨d, rfl⟩ := hmodifier
      by_cases hdigits : digits.isNatural ∧ 0 < digits.value
      · refine ⟨_, .unit hp hdigits ?_⟩
        rintro u rfl
        exact hnone _ (.relative hdigits.1 hdigits.2 (words_eq_iff.mp hp.words_eq).2.1)
      · exact ⟨_, .count hp hdigits⟩
    · exact ⟨_, .modifier hp (not_exists.mp hmodifier)⟩
  · by_cases hearly : ∃ n, p.Spells n ∧ n < firstBareYear
    · obtain ⟨n, hn, hlt⟩ := hearly
      exact ⟨_, .early hn hlt⟩
    · refine ⟨_, .unreadable ?_ ?_⟩
      · exact fun modifier digits unit hp => hrelative ⟨modifier, digits, unit, hp⟩
      · exact fun n hn => Int.not_lt.mp fun hlt => hearly ⟨n, hn, hlt⟩

namespace Endpoint

theorem means_of_read {t : Text} {now : Moment}
    (hdigits : t.phrase.countP isAsciiDigit ≤ Text.maxDigits) {e : Endpoint}
    (h : Endpoint.read t now = .ok e) : t.phrase.Means now e := by
  by_cases hmeans : ∃ e, t.phrase.Means now e
  · obtain ⟨e', hmeans⟩ := hmeans
    rw [read_of_means hdigits hmeans] at h
    cases h
    exact hmeans
  · have hnone := not_exists.mp hmeans
    obtain ⟨y, hrefused⟩ := Text.exists_refused hnone
    rw [read_of_refused hdigits hnone hrefused] at h
    cases h

/-- A phrase is read as what it means, or refused for the one reason that the language gives. -/
theorem read_eq_iff_means (t : Text) (now : Moment)
    (hdigits : t.phrase.countP isAsciiDigit ≤ 4300) :
    (∀ e, Endpoint.read t now = .ok e ↔ t.phrase.Means now e) ∧
    (∀ x, Endpoint.read t now = .error x ↔ (∀ e, ¬ t.phrase.Means now e) ∧
      ∃ y, x = .phrase y ∧ t.phrase.Refused y) ∧
    (∀ n, (Moment.ofUnix? now.frame n 0 (by decide)).isSome ↔ now.frame.Shows n) ∧
    (t.phrase ∈ FixedPhrase.allSpellings ↔ ∃ f ∈ FixedPhrase.table, t.phrase ∈ f.spellings) := by
  refine ⟨?_, ?_, fun n => Moment.isSome_ofUnix?_iff, FixedPhrase.mem_allSpellings⟩
  · exact fun e => ⟨means_of_read hdigits, read_of_means hdigits⟩
  · intro x
    constructor
    · intro hread
      have hnone (e : Endpoint) : ¬ t.phrase.Means now e := by
        intro hmeans
        rw [read_of_means hdigits hmeans] at hread
        cases hread
      obtain ⟨y, hrefused⟩ := Text.exists_refused hnone
      rw [read_of_refused hdigits hnone hrefused] at hread
      cases hread
      exact ⟨hnone, y, rfl, hrefused⟩
    · rintro ⟨hnone, y, rfl, hrefused⟩
      exact read_of_refused hdigits hnone hrefused

theorem read_three_days_ago :
    Endpoint.read "past 3 days".toList ⟨⟨⟨2024, 5, 17, by decide⟩, .midnight⟩, .zone .utc, false⟩ =
      .ok ⟨"last 3 day".toList, .relative, .day, 3, .backward,
        ⟨⟨⟨2024, 5, 17, by decide⟩, .midnight⟩, .zone .utc, false⟩⟩ :=
  ((read_eq_iff_means "past 3 days".toList _ (by decide +kernel)).1 _).mpr
    (@Text.Means.relative _ _ .backward ['3'] .day rfl (by decide) (by decide +kernel))

theorem first_day_not_read :
    Text.phrase "-62135596800".toList = Text.signed (-62135596800) ∧ OnCalendar (-62135596800) ∧
    (∀ l : Layout, l.read? (Text.phrase "-62135596800".toList) = none) ∧
    Endpoint.read "-62135596800".toList
        ⟨⟨⟨2024, 1, 1, by decide⟩, .midnight⟩, .floating, false⟩ =
      .error (.phrase (.yearTooEarly "-62135596800".toList)) := by
  refine ⟨by decide +kernel, by decide, ?_, ?_⟩
  · intro l
    cases l <;> decide +kernel
  · rfl

end Endpoint

end TimePhrase
