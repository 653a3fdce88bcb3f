import TimePhrase.Proofs.Faults

namespace TimePhrase

/-- The phrases that speak of the present and those that count units from it. -/
inductive PresentPhrase
  | now
  | today
  | this (u : TimeUnit)
  | counted (d : Direction) (digits : Text) (u : TimeUnit) (natural : digits.isNatural)
    (positive : 0 < digits.value)

namespace PresentPhrase

def words : PresentPhrase → List Text
  | now => ["now".toList]
  | today => ["today".toList]
  | this u => ["this".toList, u.name.toList]
  | counted d digits u _ _ => [d.modifier.toList, digits, u.name.toList]

def text (φ : PresentPhrase) : Text := Text.joined φ.words

def unit : PresentPhrase → TimeUnit
  | now => .second
  | today => .day
  | this u => u
  | counted _ _ u _ _ => u

def amount : PresentPhrase → Int
  | counted .forward digits _ _ _ => digits.value
  | counted .backward digits _ _ _ => -digits.value
  | _ => 0

def wording : PresentPhrase → Wording
  | counted _ _ _ _ _ => .relative
  | _ => .fixed

/-- Where the instants `s` and `f` should lie as seen from the present instant `n`. -/
def Expected (n s f : Int) : PresentPhrase → Prop
  | now => s = n ∧ f = n
  | today => s ≤ n ∧ n ≤ f
  | this _ => s ≤ n ∧ n ≤ f
  | counted .backward _ _ _ _ => s ≤ f ∧ f = n
  | counted .forward _ _ _ _ => s = n ∧ n ≤ f

/-- The clock that shows `c` has passed the start, and the gap that swallows it if one does. -/
def StartPassed (z : Zone) (c : Civil) (p : Period) : Prop :=
  p.start.wall.seconds + z.gapAt p.start.wall ≤ c.seconds

/-- What the clock has to have done until instant `n`, when it shows `c`. -/
def ClockKept (z : Zone) (n : Int) (c : Civil) (p : Period) : PresentPhrase → Prop
  | now => z.FirstPass n
  | today => StartPassed z c p ∧ ∀ v < n, z.readingAt? v ≠ some p.finish.wall
  | this _ => StartPassed z c p ∧ ∀ v < n, z.readingAt? v ≠ some p.finish.wall
  | counted .backward _ _ _ _ => z.FirstPass n ∧ StartPassed z c p
  | counted .forward _ _ _ _ => z.FirstPass n

section Words

variable (φ : PresentPhrase)

theorem isWord_of_mem_words : ∀ w ∈ φ.words, w.IsWord := by
  cases φ with
  | now => decide
  | today => decide
  | this u => cases u <;> decide
  | counted d digits u natural _ =>
    simp only [words, List.forall_mem_cons]
    exact ⟨by cases d <;> decide, Text.isWord_of_isNatural natural, by cases u <;> decide, nofun⟩

theorem substituteAll_words : φ.words.map Synonym.substituteAll = φ.words := by
  cases φ with
  | now => decide
  | today => decide
  | this u => cases u <;> decide
  | counted d digits u natural _ =>
    have hd : Synonym.substituteAll d.modifier.toList = d.modifier.toList := by
      cases d <;> decide
    have hu : Synonym.substituteAll u.name.toList = u.name.toList := by
      cases u <;> decide
    simp only [words, List.map_cons, List.map_nil, hd, Text.substituteAll_of_isNatural natural, hu]

theorem to_not_mem_words : "to".toList ∉ φ.words := by
  cases φ with
  | now => decide
  | today => decide
  | this u => cases u <;> decide
  | counted d digits u natural _ =>
    simp only [words, List.mem_cons, not_or]
    refine ⟨by cases d <;> decide, ?_, by cases u <;> decide, List.not_mem_nil⟩
    rintro rfl
    cases natural

theorem phrase_text : φ.text.phrase = φ.text := by
  rw [text, Text.phrase_joined φ.isWord_of_mem_words, substituteAll_words]

theorem phrases_text : φ.text.phrases = [φ.text] := by
  have hto := φ.to_not_mem_words
  rw [← substituteAll_words] at hto
  rw [text, Text.phrases_joined φ.isWord_of_mem_words (by cases φ <;> exact nofun) hto,
    substituteAll_words]

theorem words_text : φ.text.words = φ.words := by
  rw [text, Text.words_joined (by cases φ <;> exact nofun)]
  exact fun w hw => (φ.isWord_of_mem_words w hw).not_mem_space

theorem exists_letter : ∃ c ∈ φ.text, isLetter c := by
  have hfirst : ∃ w ∈ φ.words, w.any isLetter = true := by
    cases φ with
    | now => exact ⟨_, List.mem_cons_self, by decide⟩
    | today => exact ⟨_, List.mem_cons_self, by decide⟩
    | this u => exact ⟨_, List.mem_cons_self, by decide⟩
    | counted d => exact ⟨_, List.mem_cons_self, by cases d <;> decide⟩
  obtain ⟨w, hw, hany⟩ := hfirst
  obtain ⟨c, hc, hletter⟩ := List.any_eq_true.mp hany
  exact ⟨c, (Text.infix_joined hw).subset hc, hletter⟩

end Words

theorem countP_counted {d : Direction} {digits : Text} {u : TimeUnit} (natural : digits.isNatural)
    (positive : 0 < digits.value) :
    (counted d digits u natural positive).text.countP isAsciiDigit = digits.length := by
  have hd : d.modifier.toList.countP isAsciiDigit = 0 := by
    cases d <;> decide
  have hu : u.name.toList.countP isAsciiDigit = 0 := by
    cases u <;> decide
  have htext : (counted d digits u natural positive).text =
      d.modifier.toList ++ ' ' :: (digits ++ ' ' :: u.name.toList) := rfl
  rw [htext, List.countP_append, List.countP_cons_of_neg (by decide), List.countP_append,
    List.countP_cons_of_neg (by decide), hd, hu, Text.length_le_countP natural]
  omega

theorem find?_counted {d : Direction} {digits : Text} {u : TimeUnit} (natural : digits.isNatural)
    (positive : 0 < digits.value) :
    FixedPhrase.find? (counted d digits u natural positive).text = none := by
  have hmem : digits ∈ (counted d digits u natural positive).words :=
    List.mem_cons_of_mem _ List.mem_cons_self
  exact FixedPhrase.find?_of_numeral (Text.infix_joined hmem) natural

theorem countP_le_of_read {φ : PresentPhrase} {c : Moment} {e : Endpoint}
    (h : Endpoint.read φ.text c = .ok e) : φ.text.countP isAsciiDigit ≤ Text.maxDigits := by
  cases φ with
  | now => decide
  | today => decide
  | this u => cases u <;> decide
  | counted d digits u natural positive =>
    rw [countP_counted]
    apply Nat.not_lt.mp
    intro hlong
    have hwords := (counted d digits u natural positive).words_text
    rw [← phrase_text] at hwords
    rw [Endpoint.read_eq_fault_iff.mpr ⟨rfl, .count hwords natural hlong⟩] at h
    cases h

theorem fixed_of_mem_spellings {φ : PresentPhrase} {f : FixedPhrase} (hf : f ∈ FixedPhrase.table)
    (hp : φ.text ∈ f.spellings) :
    f.unit = φ.unit ∧ f.count = 0 ∧ φ.amount = 0 ∧ φ.wording = .fixed := by
  have hall : ∀ ψ ∈ now :: today :: TimeUnit.all.map this, ∀ f ∈ FixedPhrase.table,
      ψ.text ∈ f.spellings → f.unit = ψ.unit ∧ f.count = 0 := by decide +kernel
  have htail {ψ : PresentPhrase} {rest : List PresentPhrase} (h : φ ∈ rest) : φ ∈ ψ :: rest :=
    List.mem_cons_of_mem ψ h
  cases φ with
  | now =>
    obtain ⟨hunit, hcount⟩ := hall now List.mem_cons_self f hf hp
    exact ⟨hunit, hcount, rfl, rfl⟩
  | today =>
    obtain ⟨hunit, hcount⟩ := hall today (htail List.mem_cons_self) f hf hp
    exact ⟨hunit, hcount, rfl, rfl⟩
  | this u =>
    have hmem : this u ∈ now :: today :: TimeUnit.all.map this :=
      htail (htail (List.mem_map_of_mem u.mem_all))
    obtain ⟨hunit, hcount⟩ := hall (this u) hmem f hf hp
    exact ⟨hunit, hcount, rfl, rfl⟩
  | counted d digits u natural positive =>
    have hfound := FixedPhrase.find?_eq_some_iff.mpr ⟨hf, hp⟩
    rw [find?_counted] at hfound
    cases hfound

theorem endpoint_of_read {φ : PresentPhrase} {c : Moment} {e : Endpoint}
    (h : Endpoint.read φ.text c = .ok e) :
    e.base = c ∧ e.unit = φ.unit ∧ e.amount = φ.amount ∧ e.wording = φ.wording := by
  have hdigits := countP_le_of_read h
  rw [← φ.phrase_text] at hdigits
  have hmeans := Endpoint.means_of_read hdigits h
  rw [phrase_text] at hmeans
  obtain ⟨letter, hmem, hletter⟩ := φ.exists_letter
  cases hmeans with
  | @fixed f hf hp =>
    obtain ⟨hunit, hcount, hamount, hwording⟩ := fixed_of_mem_spellings hf hp
    rw [hamount, hwording]
    exact ⟨rfl, hunit, Endpoint.amount_eq_zero (congrArg Nat.cast hcount), rfl⟩
  | @relative d digits u natural positive hp =>
    have hwords := Text.words_relative natural hp
    rw [words_text] at hwords
    cases φ with
    | now =>
      have hlength : 1 = 3 := congrArg List.length hwords
      cases hlength
    | today =>
      have hlength : 1 = 3 := congrArg List.length hwords
      cases hlength
    | this u =>
      have hlength : 2 = 3 := congrArg List.length hwords
      cases hlength
    | counted d' digits' u' natural' positive' =>
      simp only [words, List.cons.injEq] at hwords
      obtain ⟨hd, rfl, hu, _⟩ := hwords
      obtain rfl := Direction.modifier_injective hd
      obtain rfl := TimeUnit.name_injective hu
      refine ⟨rfl, rfl, ?_, rfl⟩
      cases d' <;> rfl
  | spelled _ hread =>
    rw [Layout.read?_of_letter hmem hletter] at hread
    cases hread
  | @unix n _ hn =>
    exact absurd (hn ▸ Text.spells_signed n) (Text.not_spells_of_letter hmem hletter n)

theorem leading?_counted {d : Direction} {digits : Text} {u : TimeUnit}
    (natural : digits.isNatural) (positive : 0 < digits.value) :
    Direction.leading? (counted d digits u natural positive).text = some d :=
  Direction.leading?_of_words (counted d digits u natural positive).words_text

/-- The two endpoints of a phrase about the present that means `e` at the moment `c`. -/
def endpoints (c : Moment) (e : Endpoint) : PresentPhrase → Endpoints
  | counted .forward _ _ _ _ => ⟨.present c, e⟩
  | counted .backward _ _ _ _ => ⟨e, .present c⟩
  | _ => ⟨e, e⟩

theorem ofSingle_eq {φ : PresentPhrase} {c : Moment} {e : Endpoint}
    (h : Endpoint.read φ.text c = .ok e) : Endpoints.ofSingle φ.text e c = φ.endpoints c e := by
  have hwording := (endpoint_of_read h).2.2.2
  rw [Endpoints.ofSingle, hwording]
  cases φ with
  | now => exact if_neg (by decide)
  | today => exact if_neg (by decide)
  | this u => exact if_neg (by cases u <;> decide)
  | counted d digits u natural positive =>
    rw [wording, if_pos rfl, leading?_counted]
    cases d <;> rfl

theorem base_endpoints {φ : PresentPhrase} {c : Moment} {e : Endpoint} (h : e.base = c) :
    (φ.endpoints c e).start.base = c ∧ (φ.endpoints c e).finish.base = c := by
  cases φ with
  | now => exact ⟨h, h⟩
  | today => exact ⟨h, h⟩
  | this u => exact ⟨h, h⟩
  | counted d =>
    cases d with
    | forward => exact ⟨rfl, h⟩
    | backward => exact ⟨h, rfl⟩

end PresentPhrase

namespace Period

section Placed

variable {z : Zone} {w : Week} {n : Int} {c : Civil} (hreading : z.readingAt? n = some c)
  {e : Endpoint} (hbase : e.base.wall.wholeSecond = c)
include hreading hbase

theorem start_le_iff {p : Period} (hamount : e.amount ≤ 0) (h : e.place w .start = .ok p.start) :
    z.firstInstant p.start.wall ≤ n ↔ PresentPhrase.StartPassed z c p := by
  have hle := Endpoint.place_start_le hamount h
  apply Zone.firstInstant_le_iff hreading
  rw [← hbase]
  exact hle

theorem le_finish_iff {m : Moment} (hamount : 0 ≤ e.amount) (h : e.place w .finish = .ok m) :
    n ≤ z.firstInstant m.wall ↔ ∀ v < n, z.readingAt? v ≠ some m.wall := by
  have hle := Endpoint.le_place_finish hamount h
  apply Zone.le_firstInstant_iff hreading
  · rw [← hbase]
    exact hle
  · exact (Endpoint.place_eq_ok_iff.mp h).2.2.1

theorem le_finish_of_firstPass {m : Moment} (hfirst : z.FirstPass n) (hamount : 0 ≤ e.amount)
    (h : e.place w .finish = .ok m) : n ≤ z.firstInstant m.wall := by
  have hle := Endpoint.le_place_finish hamount h
  rw [le_finish_iff hreading hbase hamount h]
  apply hfirst.not_shown_before hreading
  rw [← hbase]
  exact hle

theorem present_eq_iff {edge : Edge} {m : Moment} (hunit : e.unit = .second)
    (hamount : e.amount = 0) (h : e.place w edge = .ok m) :
    z.firstInstant m.wall = n ↔ z.FirstPass n := by
  rw [e.place_second hunit hamount] at h
  cases h
  rw [hbase]
  exact Zone.firstInstant_eq_iff hreading

end Placed

/-- The period lies as the phrase says exactly if the clock has kept to it. -/
theorem expected_iff_clockKept (φ : PresentPhrase) {frame : Frame} {n : Int} {us : Nat}
    {hus : us < 1000000} {now : Moment} (hframe : frame ≠ .floating)
    (hnow : Moment.ofUnix? frame n us hus = some now) (z : Zone) (w : Week) {t : Text} {p : Period}
    (ht : t.phrases = [φ.text]) (hp : Period.read t w z now = .ok p) :
    φ.text.phrases = [φ.text] ∧ ∃ c s f, z.readingAt? n = some c ∧ p.unixSeconds = .ok (s, f) ∧
      (φ.Expected n s f ↔ φ.ClockKept z n c p) := by
  obtain ⟨c, es, hc, hes, hplace⟩ := read_eq_ok_iff.mp hp
  obtain ⟨e, he, rfl⟩ := (Endpoints.read_of_single ht).mp hes
  rw [PresentPhrase.ofSingle_eq he] at hplace
  obtain ⟨hbase, hunit, hamount, _⟩ := PresentPhrase.endpoint_of_read he
  obtain ⟨hstart, hfinish⟩ := Endpoints.place_eq_ok_iff.mp hplace
  have hreading := Zone.readingAt?_of_ofUnix? (Moment.current_of_ofUnix? hframe hnow hc)
  have hwall : e.base.wall.wholeSecond = c.wall.wholeSecond := by
    rw [hbase]
  refine ⟨φ.phrases_text, c.wall.wholeSecond, z.firstInstant p.start.wall,
    z.firstInstant p.finish.wall, hreading, ?_, ?_⟩
  · have hzone := Moment.frame_of_current hc
    obtain ⟨hbase, hbase'⟩ := φ.base_endpoints hbase
    apply unixSeconds_eq
    · exact Endpoint.unixSeconds_of_place (by rw [hbase, hzone]) hstart
    · exact Endpoint.unixSeconds_of_place (by rw [hbase', hzone]) hfinish
  · cases φ with
    | now =>
      have hs := present_eq_iff hreading hwall hunit hamount hstart
      have hf := present_eq_iff hreading hwall hunit hamount hfinish
      rw [PresentPhrase.Expected, PresentPhrase.ClockKept, hs, hf, and_self]
    | today =>
      exact and_congr (start_le_iff hreading hwall (Int.le_of_eq hamount) hstart)
        (le_finish_iff hreading hwall (Int.le_of_eq hamount.symm) hfinish)
    | this u =>
      exact and_congr (start_le_iff hreading hwall (Int.le_of_eq hamount) hstart)
        (le_finish_iff hreading hwall (Int.le_of_eq hamount.symm) hfinish)
    | counted d digits u natural positive =>
      cases d with
      | backward =>
        have hpast : e.amount ≤ 0 := by
          rw [hamount, PresentPhrase.amount]
          omega
        have hs := start_le_iff hreading hwall hpast hstart
        have hf := present_eq_iff hreading rfl rfl rfl hfinish
        rw [PresentPhrase.Expected, PresentPhrase.ClockKept, ← hs, ← hf]
        constructor
        · rintro ⟨hle, heq⟩
          exact ⟨heq, heq ▸ hle⟩
        · rintro ⟨heq, hle⟩
          exact ⟨heq ▸ hle, heq⟩
      | forward =>
        have hahead : 0 ≤ e.amount := by
          rw [hamount, PresentPhrase.amount]
          omega
        have hs := present_eq_iff hreading rfl rfl rfl hstart
        rw [PresentPhrase.Expected, PresentPhrase.ClockKept, hs]
        constructor
        · exact And.left
        · intro hfirst
          exact ⟨hfirst, le_finish_of_firstPass hreading hwall hfirst hahead hfinish⟩

theorem now_second_pass : ∃ p s f,
    Period.read "now".toList Week.sunday .newYork
        ⟨⟨⟨2023, 11, 5, by decide⟩, ⟨1, 30, 0, 0, by decide⟩⟩, .zone .newYork, true⟩ = .ok p ∧
      p.unixSeconds = .ok (s, f) ∧ ¬ (s = 1699165800 ∧ f = 1699165800) := by
  have hnow : Moment.ofUnix? (.zone .newYork) 1699165800 0 (by decide) =
      some ⟨⟨⟨2023, 11, 5, by decide⟩, ⟨1, 30, 0, 0, by decide⟩⟩, .zone .newYork, true⟩ := by
    decide +kernel
  have hread : Period.read "now".toList Week.sunday .newYork
      ⟨⟨⟨2023, 11, 5, by decide⟩, ⟨1, 30, 0, 0, by decide⟩⟩, .zone .newYork, true⟩ =
        .ok ⟨⟨⟨⟨2023, 11, 5, by decide⟩, ⟨1, 30, 0, 0, by decide⟩⟩, .zone .newYork, false⟩,
          ⟨⟨⟨2023, 11, 5, by decide⟩, ⟨1, 30, 0, 0, by decide⟩⟩, .zone .newYork, false⟩⟩ :=
    eq_ok_of_toOption (by decide +kernel)
  have hframe : Frame.zone .newYork ≠ .floating := nofun
  obtain ⟨_, _, s, f, _, hunix, hiff⟩ := expected_iff_clockKept .now hframe hnow .newYork
    Week.sunday PresentPhrase.now.phrases_text hread
  refine ⟨_, s, f, hread, hunix, ?_⟩
  intro heq
  exact hiff.mp heq 1699162200 (by decide) (by decide +kernel)

end Period

end TimePhrase
