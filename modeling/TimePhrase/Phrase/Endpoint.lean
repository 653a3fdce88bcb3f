import TimePhrase.Moment.Basic

namespace TimePhrase

/-- A smaller number alone is no year: the Gregorian calendar was adopted in 1752. -/
def firstBareYear : Nat := 1753

/-- Why a phrase cannot be read or placed; each error keeps the text that it is about. -/
inductive PhraseError
  | tooManyPhrases (text : Text) (count : Nat)
  | unreadable (text : Text)
  | badModifier (text modifier : Text)
  | badCount (text count : Text)
  | badUnit (text unit : Text)
  | yearTooEarly (text : Text)
  | noRealDate (text : Text)
  | offCalendar (text : Text)
deriving DecidableEq

namespace PhraseError

def text : PhraseError → Text
  | tooManyPhrases t _ => t
  | unreadable t => t
  | badModifier t _ => t
  | badCount t _ => t
  | badUnit t _ => t
  | yearTooEarly t => t
  | noRealDate t => t
  | offCalendar t => t

private def quote (t : Text) : String := String.ofList t.quoted

def message : PhraseError → String
  | tooManyPhrases t count =>
    "Expected one phrase or two phrases joined by ' to ', got " ++ toString count
      ++ " parts in " ++ quote t ++ ".\nExamples: 'last month', 'last month to now'"
  | unreadable t =>
    "Could not interpret " ++ quote t ++ " as a time expression.\n"
      ++ "Accepted: fixed phrases ('today', 'last week'), '<last|next> <n> <unit>', 'YYYY', "
      ++ "'YYYY-MM-DD', 'YYYY-MM-DD HH:MM:SS', 'HH:MM:SS' or a Unix timestamp"
  | badModifier t modifier =>
    "Unknown modifier " ++ quote modifier ++ " in " ++ quote t
      ++ ".\nRelative phrases start with 'last' or 'next', e.g. 'next 3 weeks'"
  | badCount t count =>
    "Offset " ++ quote count ++ " in " ++ quote t
      ++ " must be a positive whole number.\nExample: 'last 10 days'"
  | badUnit t unit =>
    "Unknown unit " ++ quote unit ++ " in " ++ quote t
      ++ ".\nValid units: second, minute, hour, day, week, month, quarter, year"
  | yearTooEarly t =>
    quote t ++ " is below " ++ toString firstBareYear ++ " and is not treated as a year"
  | noRealDate t =>
    "No year/month/day ordering of " ++ quote t ++ " forms a valid calendar date"
  | offCalendar t => quote t ++ " lands outside the representable years 1..9999"

end PhraseError

inductive Failure
  | phrase (e : PhraseError)
  | fault (f : Fault)
deriving DecidableEq

/-- The answer, or none where the phrase is at fault. -/
def unlessPhraseError {α : Type} : Except Failure α → Except Fault (Option α)
  | .ok a => .ok (some a)
  | .error (.phrase _) => .ok none
  | .error (.fault f) => .error f

inductive Direction
  | forward | backward
deriving DecidableEq

namespace Direction

def all : List Direction := [backward, forward]

def name : Direction → String
  | forward => "forward"
  | backward => "backward"

/-- The word that opens a relative phrase. -/
def modifier : Direction → String
  | forward => "next"
  | backward => "last"

def ofModifier? (t : Text) : Option Direction := all.find? (·.modifier.toList = t)

def sign : Direction → Char
  | forward => '+'
  | backward => '-'

end Direction

inductive Wording
  | fixed
  /-- A number of units before or after the present. -/
  | relative
  /-- A date or a time. -/
  | spelled
  | unix
deriving DecidableEq

namespace Wording

/-- In the order in which a phrase is tried. -/
def all : List Wording := [fixed, relative, spelled, unix]

def name : Wording → String
  | fixed => "static"
  | relative => "dynamic"
  | spelled => "format"
  | unix => "timestamp"

end Wording

/-- What one phrase says: so many units before or after that of a base moment. -/
structure Endpoint where
  text : Text
  wording : Wording
  unit : TimeUnit
  count : Int
  direction : Direction
  base : Moment
deriving DecidableEq

namespace Endpoint

def amount (e : Endpoint) : Int :=
  match e.direction with
  | .forward => e.count
  | .backward => -e.count

def present (now : Moment) : Endpoint := ⟨"now".toList, .fixed, .second, 0, .forward, now⟩

def describe (e : Endpoint) : String :=
  "Expression(" ++ e.wording.name ++ " " ++ String.ofList e.text.quoted ++ ": "
    ++ String.ofList (e.base.write Moment.plainPattern) ++ " "
    ++ String.ofList (e.direction.sign :: Text.signed e.count) ++ " " ++ e.unit.name ++ ")"

end Endpoint

structure FixedPhrase where
  words : String
  unit : TimeUnit
  count : Nat
  direction : Direction
deriving DecidableEq

namespace FixedPhrase

def table : List FixedPhrase :=
  [⟨"last year", .year, 1, .backward⟩, ⟨"this year", .year, 0, .forward⟩,
   ⟨"next year", .year, 1, .forward⟩, ⟨"last quarter", .quarter, 1, .backward⟩,
   ⟨"this quarter", .quarter, 0, .forward⟩, ⟨"next quarter", .quarter, 1, .forward⟩,
   ⟨"last month", .month, 1, .backward⟩, ⟨"this month", .month, 0, .forward⟩,
   ⟨"next month", .month, 1, .forward⟩, ⟨"last week", .week, 1, .backward⟩,
   ⟨"this week", .week, 0, .forward⟩, ⟨"next week", .week, 1, .forward⟩,
   ⟨"day before yesterday", .day, 2, .backward⟩, ⟨"yesterday", .day, 1, .backward⟩,
   ⟨"today", .day, 0, .forward⟩, ⟨"tomorrow", .day, 1, .forward⟩,
   ⟨"day after tomorrow", .day, 2, .forward⟩, ⟨"last hour", .hour, 1, .backward⟩,
   ⟨"this hour", .hour, 0, .forward⟩, ⟨"next hour", .hour, 1, .forward⟩,
   ⟨"last minute", .minute, 1, .backward⟩, ⟨"this minute", .minute, 0, .forward⟩,
   ⟨"next minute", .minute, 1, .forward⟩, ⟨"now", .second, 0, .forward⟩]

def joinedBy (p : FixedPhrase) (c : Char) : Text :=
  p.words.toList.map fun d => if d = ' ' then c else d

/-- The words may be joined by spaces, dashes or underscores. -/
def spellings (p : FixedPhrase) : List Text := [p.joinedBy ' ', p.joinedBy '-', p.joinedBy '_']

def find? (t : Text) : Option FixedPhrase := table.find? (t ∈ ·.spellings)

def allSpellings : List Text :=
  (table.flatMap spellings).eraseDups.mergeSort fun a b =>
    !(b.lex a fun c d => decide (c.toNat < d.toNat))

def read? (t : Text) (now : Moment) : Option Endpoint :=
  (find? t).map fun p => ⟨t, .fixed, p.unit, p.count, p.direction, now⟩

end FixedPhrase

namespace Relative

/-- The number of a relative phrase, in ASCII digits and not zero. -/
def count? (t : Text) : Except Fault (Option Nat) :=
  if t.isNatural then do
    let n ← t.natural
    return if n = 0 then none else some n
  else return none

/-- A text of three parts is relative if its modifier or its unit is known; faults go in order. -/
def read (t : Text) (now : Moment) : Except Failure (Option Endpoint) :=
  match t.splitWhere (· = ' ') with
  | [modifier, count, unit] =>
    match Direction.ofModifier? modifier, TimeUnit.ofName? unit with
    | none, none => .ok none
    | none, some _ => .error (.phrase (.badModifier t modifier))
    | some direction, unit? =>
      match count? count, unit? with
      | .error f, _ => .error (.fault f)
      | .ok none, _ => .error (.phrase (.badCount t count))
      | .ok (some _), none => .error (.phrase (.badUnit t unit))
      | .ok (some n), some u => .ok (some ⟨t, .relative, u, n, direction, now⟩)
  | _ => .ok none

end Relative

end TimePhrase
