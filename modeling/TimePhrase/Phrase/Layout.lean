import TimePhrase.Moment.Basic

namespace TimePhrase

inductive Field
  | year | month | day | hour | minute | second
deriving DecidableEq

/-- What may stand at one place of a number. -/
inductive Slot
  | digit (lo hi : Nat)
  /-- A digit of any script. -/
  | anyDigit
  /-- A space in the place of a leading zero. -/
  | space

def Slot.value? (c : Char) : Slot → Option Nat
  | .digit lo hi =>
    if '0'.toNat + lo ≤ c.toNat ∧ c.toNat ≤ '0'.toNat + hi then some (c.toNat - '0'.toNat) else none
  | .anyDigit => digitValue? c
  | .space => if c = ' ' then some 0 else none

/-- The number in the given slots at the start of the text, continued from `n`, and the rest. -/
def Slot.read? (n : Nat) : List Slot → Text → Option (Nat × Text)
  | [], t => some (n, t)
  | _ :: _, [] => none
  | s :: slots, c :: t => do Slot.read? (10 * n + (← s.value? c)) slots t

namespace Field

def all : List Field := [year, month, day, hour, minute, second]

def name : Field → String
  | year => "year"
  | month => "month"
  | day => "day"
  | hour => "hour"
  | minute => "minute"
  | second => "second"

/-- The ways to spell the field, the preferred one first. -/
def spellings : Field → List (List Slot)
  | year => [[.anyDigit, .anyDigit, .anyDigit, .anyDigit]]
  | month => [[.digit 1 1, .digit 0 2], [.digit 0 0, .digit 1 9], [.digit 1 9]]
  | day =>
    [[.digit 3 3, .digit 0 1], [.digit 1 2, .anyDigit], [.digit 0 0, .digit 1 9], [.digit 1 9],
     [.space, .digit 1 9]]
  | hour => [[.digit 2 2, .digit 0 3], [.digit 0 1, .anyDigit], [.anyDigit]]
  | minute => [[.digit 0 5, .anyDigit], [.anyDigit]]
  | second => [[.digit 6 6, .digit 0 1], [.digit 0 5, .anyDigit], [.anyDigit]]

def readings (f : Field) (t : Text) : List (Nat × Text) := f.spellings.filterMap (Slot.read? 0 · t)

def ofDirective? : Char → Option Field
  | 'Y' => some year
  | 'm' => some month
  | 'd' => some day
  | 'H' => some hour
  | 'M' => some minute
  | 'S' => some second
  | _ => none

end Field

/-- The fields of a date and time, real or not. -/
structure FieldValues where
  year : Nat
  month : Nat
  day : Nat
  hour : Nat
  minute : Nat
  second : Nat

namespace FieldValues

/-- The values of the fields that a layout does not have. -/
def default : FieldValues := ⟨1900, 1, 1, 0, 0, 0⟩

def set (v : FieldValues) (n : Nat) : Field → FieldValues
  | .year => { v with year := n }
  | .month => { v with month := n }
  | .day => { v with day := n }
  | .hour => { v with hour := n }
  | .minute => { v with minute := n }
  | .second => { v with second := n }

def civil? (v : FieldValues) : Option Civil :=
  Civil.of? v.year v.month v.day v.hour v.minute v.second 0

end FieldValues

inductive Piece
  | field (f : Field)
  | blanks
  | literal (c : Char)
deriving DecidableEq

/-- What is left after one or more blanks at the start, the shortest first, before `longer`. -/
def blankRests (longer : List Text) : Text → List Text
  | [] => longer
  | c :: rest => if isBlank c then blankRests (rest :: longer) rest else longer

namespace Piece

def readings (v : FieldValues) (t : Text) : Piece → List (FieldValues × Text)
  | field f => (f.readings t).map fun r => (v.set r.1 f, r.2)
  | blanks => (blankRests [] t).map (v, ·)
  | literal c =>
    match t with
    | [] => []
    | d :: rest => if d = c then [(v, rest)] else []

def ofPattern : Text → List Piece
  | [] => []
  | '%' :: c :: rest =>
    match Field.ofDirective? c with
    | some f => field f :: ofPattern rest
    | none => literal c :: ofPattern rest
  | ' ' :: rest => blanks :: ofPattern rest
  | c :: rest => literal c :: ofPattern rest

/-- The ways to read pieces in order, the preferred one first. -/
def readAll (v : FieldValues) (t : Text) : List Piece → List (FieldValues × Text)
  | [] => [(v, t)]
  | p :: pieces => (p.readings v t).flatMap fun r => readAll r.1 r.2 pieces

/-- Only the preferred way to read the pieces counts, also where another one would fit. -/
def read? (pieces : List Piece) (t : Text) : Option Civil :=
  match readAll .default t pieces with
  | (v, []) :: _ => v.civil?
  | _ => none

end Piece

inductive Layout
  | year | date | dateTime | time
deriving DecidableEq

namespace Layout

def all : List Layout := [year, date, dateTime, time]

def name : Layout → String
  | year => "year"
  | date => "year-month-day"
  | dateTime => "year-month-day hour:minute:second"
  | time => "hour:minute:second"

def pattern : Layout → String
  | year => "%Y"
  | date => "%Y-%m-%d"
  | dateTime => "%Y-%m-%d %H:%M:%S"
  | time => "%H:%M:%S"

def unit : Layout → TimeUnit
  | year => .year
  | date => .day
  | dateTime => .second
  | time => .second

def pieces (l : Layout) : List Piece := Piece.ofPattern l.pattern.toList

def fields (l : Layout) : List Field := Field.all.filter (.field · ∈ l.pieces)

def read? (l : Layout) (t : Text) : Option Civil := Piece.read? l.pieces t

/-- The spelled fields of `parsed`, the others of `now`, and a day that the month has. -/
def complete (l : Layout) (parsed : Civil) (now : Moment) : Moment :=
  let source (f : Field) : Civil := if f ∈ l.fields then parsed else now.wall
  { wall :=
      { date := .clamped (source .year).date.year (source .month).date.month (source .day).date.day
          (source .year).date.year_bounds (source .month).date.month_bounds
          (source .day).date.day_bounds.1
        clock :=
          { hour := (source .hour).clock.hour
            minute := (source .minute).clock.minute
            second := (source .second).clock.second
            microsecond := 0
            valid := ⟨(source .hour).clock.valid.1, (source .minute).clock.valid.2.1,
              (source .second).clock.valid.2.2.1, by decide⟩ } }
    frame := now.frame
    fold := false }

end Layout

end TimePhrase
