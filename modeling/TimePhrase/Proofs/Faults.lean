import TimePhrase.NumericDate
import TimePhrase.Proofs.Period.Instants
import TimePhrase.Proofs.Phrase.Ways

namespace TimePhrase

/-- The phrase has more digits than supported where its number stands. -/
inductive Text.Overlong (p : Text) : Prop
  | number {n : Int} (hp : p.Spells n) (hdigits : maxDigits < p.countP isAsciiDigit)
  | count {d : Direction} {digits unit : Text} (hp : p.words = [d.modifier.toList, digits, unit])
    (hnat : digits.isNatural) (hdigits : maxDigits < digits.length)

section Readers

variable {t : Text} {now : Moment} {f : Fault}

theorem Relative.count?_eq_error_iff {digits : Text} : count? digits = .error f ↔
    f = .numeralTooLong ∧ digits.isNatural ∧ Text.maxDigits < digits.length := by
  rw [count?]
  by_cases hnat : digits.isNatural
  · rw [if_pos hnat, bind_eq_error_iff, Text.natural_eq_error_iff]
    constructor
    · rintro (⟨hf, hdigits⟩ | ⟨n, _, h⟩)
      · exact ⟨hf, hnat, hdigits⟩
      · cases h
    · rintro ⟨hf, _, hdigits⟩
      exact .inl ⟨hf, hdigits⟩
  · rw [if_neg hnat]
    constructor
    · intro h
      cases h
    · intro h
      exact absurd h.2.1 hnat

theorem Relative.read_eq_fault_iff : Relative.read t now = .error (.fault f) ↔
    f = .numeralTooLong ∧ ∃ (d : Direction) (digits unit : Text),
      t.words = [d.modifier.toList, digits, unit] ∧ digits.isNatural ∧
        Text.maxDigits < digits.length := by
  constructor
  · intro h
    rw [Relative.read] at h
    split at h
    · rename_i modifier digits unit hwords
      split at h
      · cases h
      · cases h
      · rename_i unit? d hmodifier
        split at h
        · rename_i g hcount
          cases h
          obtain ⟨rfl, hnat, hdigits⟩ := Relative.count?_eq_error_iff.mp hcount
          obtain rfl := Direction.ofModifier?_eq_some_iff.mp hmodifier
          exact ⟨rfl, d, digits, unit, hwords, hnat, hdigits⟩
        · cases h
        · cases h
        · cases h
    · cases h
  · rintro ⟨rfl, d, digits, unit, hwords, hnat, hdigits⟩
    have hcount := Relative.count?_eq_error_iff.mpr ⟨rfl, hnat, hdigits⟩
    rw [Relative.read, ← Text.words, hwords]
    simp only [Direction.ofModifier?_eq_some_iff.mpr rfl, hcount]

theorem Spelled.read_eq_fault_iff :
    Spelled.read t now = .error (.fault f) ↔ t.integer? = .error f := by
  rw [Spelled.read, Spelled.readIn]
  cases t.integer? with
  | error g => simp only [Except.error.injEq, Failure.fault.injEq]
  | ok n? =>
    simp only
    split <;> simp only [Except.error.injEq, reduceCtorEq]

theorem UnixTime.read_eq_fault_iff :
    UnixTime.read t now = .error (.fault f) ↔ t.integer? = .error f := by
  rw [UnixTime.read]
  cases t.integer? with
  | error g => simp only [Except.error.injEq, Failure.fault.injEq]
  | ok n? =>
    cases n? with
    | none => simp only [reduceCtorEq]
    | some n => simp only [reduceCtorEq]

theorem Wording.exists_of_readFirst_fault {ways : List Wording} {refusal : Option PhraseError}
    (h : readFirst t now refusal ways = .error (.fault f)) :
    ∃ way ∈ ways, way.read t now = .error (.fault f) := by
  induction ways generalizing refusal with
  | nil => cases h
  | cons way rest ih =>
    have hrest {refusal : Option PhraseError}
        (h : readFirst t now refusal rest = .error (.fault f)) :
        ∃ w ∈ way :: rest, w.read t now = .error (.fault f) := by
      obtain ⟨w, hw, hread⟩ := ih h
      exact ⟨w, List.mem_cons_of_mem way hw, hread⟩
    rw [readFirst] at h
    split at h
    · cases h
    · exact hrest h
    · exact hrest h
    · rename_i hread
      cases h
      exact ⟨way, List.mem_cons_self, hread⟩

end Readers

/-- Only a numeral that is too long ends the reading of a phrase in a fault. -/
theorem Endpoint.read_eq_fault_iff {t : Text} {now : Moment} {f : Fault} :
    Endpoint.read t now = .error (.fault f) ↔ f = .numeralTooLong ∧ t.phrase.Overlong := by
  constructor
  · intro h
    have hnumber (h : t.phrase.integer? = .error f) :
        f = .numeralTooLong ∧ t.phrase.Overlong := by
      obtain ⟨hf, ⟨n, hn⟩, hdigits⟩ := Text.integer?_eq_error_iff.mp h
      exact ⟨hf, .number hn hdigits⟩
    obtain ⟨way, _, hread⟩ := Wording.exists_of_readFirst_fault h
    cases way with
    | fixed => cases hread
    | relative =>
      rw [Wording.read, Relative.read_eq_fault_iff] at hread
      obtain ⟨hf, d, digits, unit, hwords, hnat, hdigits⟩ := hread
      exact ⟨hf, .count hwords hnat hdigits⟩
    | spelled =>
      rw [Wording.read, Spelled.read_eq_fault_iff] at hread
      exact hnumber hread
    | unix =>
      rw [Wording.read, UnixTime.read_eq_fault_iff] at hread
      exact hnumber hread
  · rintro ⟨rfl, hlong⟩
    rw [Endpoint.read, Wording.all, Wording.readFirst]
    cases hlong with
    | number hp hdigits =>
      have hread : Spelled.read t.phrase now = .error (.fault .numeralTooLong) :=
        Spelled.read_eq_fault_iff.mpr (hp.integer?_too_long hdigits)
      simp only [Wording.read, FixedPhrase.read?, FixedPhrase.find?_of_spells hp, Option.map_none,
        Wording.readFirst, Relative.read_eq_none (Text.not_likeRelative_of_spells hp), hread]
    | @count d digits unit hp hnat hdigits =>
      have hlike : t.phrase.LikeRelative d.modifier.toList digits unit := ⟨hp, .inl ⟨d, rfl⟩⟩
      have hfixed : Wording.fixed.read t.phrase now = .ok none :=
        Wording.read_of_likeRelative hlike (by decide)
      have hread : Relative.read t.phrase now = .error (.fault .numeralTooLong) :=
        Relative.read_eq_fault_iff.mpr ⟨rfl, d, digits, unit, hp, hnat, hdigits⟩
      rw [hfixed]
      simp only [Wording.readFirst, Wording.read, hread]

theorem unlessPhraseError_eq_error_iff {α : Type} {x : Except Failure α} {f : Fault} :
    unlessPhraseError x = .error f ↔ x = .error (.fault f) := by
  cases x with
  | ok a => exact ⟨nofun, nofun⟩
  | error y =>
    cases y with
    | phrase e => exact ⟨nofun, nofun⟩
    | fault g =>
      rw [unlessPhraseError, Except.error.injEq, Except.error.injEq, Failure.fault.injEq]

/-- In reading the phrases of the text a number comes up that is too long. -/
inductive Text.StopsAtNumeral (t : Text) (now : Moment) : Prop
  | single {p : Text} (ht : t.phrases = [p]) (hp : p.phrase.Overlong)
  | first {p q : Text} (ht : t.phrases = [p, q]) (hp : p.phrase.Overlong)
  | last {p q : Text} {e : Endpoint} (ht : t.phrases = [p, q]) (hp : Endpoint.read p now = .ok e)
    (hq : q.phrase.Overlong)

section Periods

variable {t : Text} {f : Fault}

theorem Endpoints.read_eq_fault_iff {now : Moment} : Endpoints.read t now = .error (.fault f) ↔
    f = .numeralTooLong ∧ t.StopsAtNumeral now := by
  rw [Endpoints.read]
  split
  · rename_i p ht
    rw [bind_eq_error_iff, Endpoint.read_eq_fault_iff]
    constructor
    · rintro (⟨hf, hp⟩ | ⟨e, _, h⟩)
      · exact ⟨hf, .single ht hp⟩
      · cases h
    · rintro ⟨hf, hstops⟩
      cases hstops with
      | single ht' hp =>
        obtain rfl := List.singleton_inj.mp (ht.symm.trans ht')
        exact .inl ⟨hf, hp⟩
      | first ht' => cases ht.symm.trans ht'
      | last ht' => cases ht.symm.trans ht'
  · rename_i p q ht
    simp only [bind_eq_error_iff, Endpoint.read_eq_fault_iff]
    constructor
    · rintro (⟨hf, hp⟩ | ⟨e, hp, ⟨hf, hq⟩ | ⟨e', _, h⟩⟩)
      · exact ⟨hf, .first ht hp⟩
      · exact ⟨hf, .last ht hp hq⟩
      · cases h
    · rintro ⟨hf, hstops⟩
      cases hstops with
      | single ht' => cases ht.symm.trans ht'
      | first ht' hp =>
        cases ht.symm.trans ht'
        exact .inl ⟨hf, hp⟩
      | last ht' hp hq =>
        cases ht.symm.trans ht'
        exact .inr ⟨_, hp, .inl ⟨hf, hq⟩⟩
  · rename_i hnotOne hnotTwo
    constructor
    · intro h
      cases h
    · rintro ⟨_, hstops⟩
      cases hstops with
      | single ht => exact absurd ht (hnotOne _)
      | first ht => exact absurd ht (hnotTwo _ _)
      | last ht => exact absurd ht (hnotTwo _ _)

theorem Period.read_eq_fault_iff {w : Week} {z : Zone} {now c : Moment}
    (hc : now.current z = .ok c) : Period.read t w z now = .error (.fault f) ↔
      f = .numeralTooLong ∧ t.StopsAtNumeral c := by
  simp only [Period.read_eq_bind hc, bind_eq_error_iff, mapError_eq_error_iff,
    ← Endpoints.read_eq_fault_iff]
  constructor
  · rintro (h | ⟨_, _, _, _, h⟩)
    · exact h
    · cases h
  · exact .inl

end Periods

namespace NumericDate

/-- Three numbers, of which one has more digits than supported. -/
structure Overlong (t a b c : Text) : Prop where
  fields : t.splitWhere isSeparator = [a, b, c]
  natural : a.isNatural ∧ b.isNatural ∧ c.isNatural
  digits : Text.maxDigits < a.length ∨ Text.maxDigits < b.length ∨ Text.maxDigits < c.length

theorem fields?_eq_error_iff {t : Text} {f : Fault} :
    fields? t = .error f ↔ f = .numeralTooLong ∧ ∃ a b c, Overlong t a b c := by
  rw [fields?]
  split
  · rename_i a b c ht
    have heq {a' b' c' : Text} (h : Overlong t a' b' c') : a = a' ∧ b = b' ∧ c = c' := by
      have hfields := ht.symm.trans h.fields
      simp only [List.cons.injEq, and_true] at hfields
      exact hfields
    split
    · rename_i hnat
      rw [Bool.and_eq_true, Bool.and_eq_true, and_assoc] at hnat
      simp only [bind_eq_error_iff, Text.natural_eq_error_iff]
      constructor
      · rintro (⟨hf, ha⟩ | ⟨_, _, ⟨hf, hb⟩ | ⟨_, _, ⟨hf, hc⟩ | ⟨_, _, h⟩⟩⟩)
        · exact ⟨hf, a, b, c, ht, hnat, .inl ha⟩
        · exact ⟨hf, a, b, c, ht, hnat, .inr (.inl hb)⟩
        · exact ⟨hf, a, b, c, ht, hnat, .inr (.inr hc)⟩
        · cases h
      · rintro ⟨hf, _, _, _, hlong⟩
        obtain ⟨rfl, rfl, rfl⟩ := heq hlong
        rcases Nat.lt_or_ge Text.maxDigits a.length with ha | ha
        · exact .inl ⟨hf, ha⟩
        rcases Nat.lt_or_ge Text.maxDigits b.length with hb | hb
        · exact .inr ⟨_, Text.natural_eq ha, .inl ⟨hf, hb⟩⟩
        have hc := (hlong.digits.resolve_left (Nat.not_lt.mpr ha)).resolve_left (Nat.not_lt.mpr hb)
        exact .inr ⟨_, Text.natural_eq ha, .inr ⟨_, Text.natural_eq hb, .inl ⟨hf, hc⟩⟩⟩
    · rename_i hnat
      refine ⟨nofun, ?_⟩
      rintro ⟨_, _, _, _, hlong⟩
      obtain ⟨rfl, rfl, rfl⟩ := heq hlong
      rw [Bool.and_eq_true, Bool.and_eq_true, and_assoc] at hnat
      exact absurd hlong.natural hnat
  · rename_i hnot
    refine ⟨nofun, ?_⟩
    rintro ⟨_, a, b, c, hlong⟩
    exact absurd hlong.fields (hnot a b c)

variable {t : Text} {p : Preference} {f : Fault}

theorem order?_eq_error_iff : order? t p = .error f ↔ fields? t = .error f := by
  rw [order?, bind_eq_error_iff]
  refine ⟨?_, .inl⟩
  rintro (h | ⟨_, _, h⟩)
  · exact h
  · cases h

theorem date?_eq_error_iff : date? t p = .error f ↔ fields? t = .error f := by
  rw [date?, bind_eq_error_iff]
  refine ⟨?_, .inl⟩
  rintro (h | ⟨_, _, h⟩)
  · exact h
  · cases h

theorem order_eq_fault_iff : order t p = .error (.fault f) ↔ fields? t = .error f := by
  rw [← @order?_eq_error_iff t p, order]
  cases order? t p with
  | error g => simp only [Except.error.injEq, Failure.fault.injEq]
  | ok o? =>
    cases o? with
    | none => exact ⟨nofun, nofun⟩
    | some o => exact ⟨nofun, nofun⟩

end NumericDate

/-- Answers fail only by a number that is too long, and exactly if one has to be read. -/
theorem fault_iff_overlong (t name : Text) (first : Int) (m : Moment) {z : Zone}
    {now c : Moment} (hc : now.current z = .ok c) (f : Fault) :
    (Endpoint.read t m = .error (.fault f) ↔ f = .numeralTooLong ∧ t.phrase.Overlong) ∧
    (Endpoint.read? t m = .error f ↔ f = .numeralTooLong ∧ t.phrase.Overlong) ∧
    (Period.read t (.ofFirstDay first) z now = .error (.fault f) ↔
      f = .numeralTooLong ∧ t.StopsAtNumeral c) ∧
    (Period.read? t (.ofFirstDay first) z now = .error f ↔
      f = .numeralTooLong ∧ t.StopsAtNumeral c) ∧
    (NumericDate.order t (.ofName name) = .error (.fault f) ↔
      f = .numeralTooLong ∧ ∃ a b c, NumericDate.Overlong t a b c) ∧
    (NumericDate.order? t (.ofName name) = .error f ↔
      f = .numeralTooLong ∧ ∃ a b c, NumericDate.Overlong t a b c) ∧
    (NumericDate.date? t (.ofName name) = .error f ↔
      f = .numeralTooLong ∧ ∃ a b c, NumericDate.Overlong t a b c) := by
  refine ⟨Endpoint.read_eq_fault_iff, ?_, Period.read_eq_fault_iff hc, ?_, ?_, ?_, ?_⟩
  · rw [Endpoint.read?, unlessPhraseError_eq_error_iff]
    exact Endpoint.read_eq_fault_iff
  · rw [Period.read?, unlessPhraseError_eq_error_iff]
    exact Period.read_eq_fault_iff hc
  · rw [NumericDate.order_eq_fault_iff, NumericDate.fields?_eq_error_iff]
  · rw [NumericDate.order?_eq_error_iff, NumericDate.fields?_eq_error_iff]
  · rw [NumericDate.date?_eq_error_iff, NumericDate.fields?_eq_error_iff]

theorem long_numeral_faults :
    Endpoint.read? (List.replicate 4301 '1')
        ⟨⟨⟨2024, 5, 15, by decide⟩, .midnight⟩, .zone .utc, false⟩ = .error .numeralTooLong ∧
      Period.read? (List.replicate 4301 '1') Week.sunday .utc
        ⟨⟨⟨2024, 5, 15, by decide⟩, .midnight⟩, .zone .utc, false⟩ = .error .numeralTooLong := by
  have hnat : Text.isNatural (List.replicate 4301 '1') := by
    rw [Text.isNatural_iff]
    refine ⟨List.cons_ne_nil _ _, ?_⟩
    intro c hc
    rw [List.eq_of_mem_replicate hc]
    decide
  have hlong : Text.Overlong (List.replicate 4301 '1') := by
    apply Text.Overlong.number (.plain hnat)
    rw [← Text.length_le_countP hnat, List.length_replicate]
    decide
  have hphrase := (Text.Spells.plain hnat).phrase_eq
  have hcurrent : Moment.current
      ⟨⟨⟨2024, 5, 15, by decide⟩, .midnight⟩, .zone .utc, false⟩ .utc = .ok _ :=
    Moment.current_of_frame rfl
  obtain ⟨_, hread, _, hperiod, _⟩ := fault_iff_overlong (List.replicate 4301 '1') [] 0
    ⟨⟨⟨2024, 5, 15, by decide⟩, .midnight⟩, .zone .utc, false⟩ hcurrent .numeralTooLong
  constructor
  · apply hread.mpr
    rw [hphrase]
    exact ⟨rfl, hlong⟩
  · apply hperiod.mpr
    refine ⟨rfl, .single (Text.Spells.plain hnat).phrases_eq ?_⟩
    rw [hphrase]
    exact hlong

end TimePhrase
