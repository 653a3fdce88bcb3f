import TimePhrase.Calendar.TimeUnit
import TimePhrase.Zone.Known

namespace TimePhrase

namespace Civil

def dateText (d : Date) : Text :=
  Text.padded 4 d.year ++ '-' :: Text.padded 2 d.month ++ '-' :: Text.padded 2 d.day

def clockText (c : Clock) : Text :=
  Text.padded 2 c.hour ++ ':' :: Text.padded 2 c.minute ++ ':' :: Text.padded 2 c.second

/-- Date and time of day joined by a space, without microseconds. -/
def text (c : Civil) : Text := dateText c.date ++ ' ' :: clockText c.clock

def stamp (c : Civil) : Text :=
  dateText c.date ++ 'T' :: clockText c.clock ++ '.' :: Text.padded 6 c.clock.microsecond

end Civil

inductive Frame
  /-- A clock of unknown place; the machine that reads it is assumed to keep UTC. -/
  | floating
  | fixed (offset : Int)
  | zone (z : Zone)
deriving DecidableEq

/-- In a zone the fold tells the second pass of a repeated hour from the first. -/
structure Moment where
  wall : Civil
  frame : Frame
  fold : Bool
deriving DecidableEq

namespace Moment

/-- Seconds ahead of UTC. -/
def offset? (m : Moment) : Option Int :=
  match m.frame with
  | .floating => none
  | .fixed o => some o
  | .zone z => some (z.history.wallOffset m.wall m.fold)

/-- The instant in microseconds since 1970-01-01 00:00:00 UTC. -/
def instant? (m : Moment) : Option Int :=
  m.offset?.map fun o => m.wall.microseconds - 1000000 * o

/-- A floating moment is made by a machine on UTC, which probes a day back for a repeated hour. -/
def ofUnix? (frame : Frame) (n : Int) (us : Nat) (hus : us < 1000000) : Option Moment := do
  let utc ← Civil.ofSeconds? n us hus
  match frame with
  | .floating =>
    let _ ← Civil.ofSeconds? (n - 86400) us hus
    return ⟨utc, .floating, false⟩
  | .fixed o => return ⟨← Civil.ofSeconds? (n + o) us hus, .fixed o, false⟩
  | .zone z =>
    let (o, fold) := z.history.utcOffset utc
    return ⟨← Civil.ofSeconds? (n + o) us hus, .zone z, fold⟩

/-- The same instant in a zone; a moment that has the zone already stays as it is. -/
def inZone (m : Moment) (z : Zone) : Except Fault Moment :=
  if m.frame = .zone z then .ok m
  else match m.offset? with
    | none => .error (.floatingNow m.wall m.fold)
    | some o =>
      match ofUnix? (.zone z) (m.wall.seconds - o) m.wall.clock.microsecond
          m.wall.clock.valid.2.2.2 with
      | some moved => .ok moved
      | none => .error .pastCalendar

/-- A floating moment has no neighbour one day away, on the side its fold asks for. -/
def AtEdge (m : Moment) : Prop :=
  m.wall.addSeconds? (if m.fold then 86400 else -86400) = none

instance (m : Moment) : Decidable m.AtEdge := inferInstanceAs (Decidable (_ = _))

/-- Seconds since 1970-01-01 00:00:00 UTC; a floating moment is read by a machine on UTC. -/
def unixSeconds (m : Moment) : Except Fault Int :=
  match m.instant? with
  | some us => .ok (wholeSeconds us)
  | none => if m.AtEdge then .error .edgeOfCalendar else .ok (wholeSeconds m.wall.microseconds)

/-- Microseconds on the wall where both have one frame, between the instants otherwise. -/
def elapsed (start finish : Moment) : Except Fault Int :=
  if start.frame = finish.frame then .ok (finish.wall.microseconds - start.wall.microseconds)
  else match start.instant?, finish.instant? with
    | some a, some b => .ok (b - a)
    | _, _ => .error .mixedFrames

end Moment

inductive Edge
  | start | finish
deriving DecidableEq

namespace Moment

/-- The edges of a week are found by counting days, which drops the fold. -/
def foldIn (m : Moment) : TimeUnit → Bool
  | .week => false
  | _ => m.fold

def firstIn (m : Moment) (u : TimeUnit) (w : Week) : Except Fault Moment :=
  match m.wall.firstIn? w u with
  | some wall => .ok ⟨wall, m.frame, m.foldIn u⟩
  | none => .error .pastCalendar

def lastIn (m : Moment) (u : TimeUnit) (w : Week) : Except Fault Moment :=
  match m.wall.lastIn? w u with
  | some wall => .ok ⟨wall, m.frame, m.foldIn u⟩
  | none => .error .pastCalendar

def edgeOf (m : Moment) (u : TimeUnit) (w : Week) : Edge → Except Fault Moment
  | .start => m.firstIn u w
  | .finish => m.lastIn u w

def advance (m : Moment) (u : TimeUnit) (n : Int) : Except Fault Moment := do
  return ⟨← m.wall.advance u n, m.frame, false⟩

end Moment

def monthNames : List String :=
  ["January", "February", "March", "April", "May", "June", "July", "August", "September",
   "October", "November", "December"]

def Date.monthName (d : Date) : Text := (monthNames.getD (d.month - 1) "").toList

def Date.dayName (d : Date) : Text := (Week.dayName d.weekday).toList

def Clock.faceHour (c : Clock) : Nat := (c.hour + 11) % 12 + 1

def offsetText (o : Int) : Text :=
  let n := o.natAbs
  (if o < 0 then '-' else '+') :: Text.padded 2 (n / 3600) ++ Text.padded 2 (n / 60 % 60)
    ++ if n % 60 = 0 then [] else Text.padded 2 (n % 60)

namespace Moment

/-- What one directive stands for; an unknown one stands for itself. -/
def directive (m : Moment) (c : Char) : Text :=
  let date := m.wall.date
  let clock := m.wall.clock
  match c with
  | 'Y' => Text.decimal date.year
  | 'm' => Text.padded 2 date.month
  | 'd' => Text.padded 2 date.day
  | 'H' => Text.padded 2 clock.hour
  | 'M' => Text.padded 2 clock.minute
  | 'S' => Text.padded 2 clock.second
  | 'j' => Text.padded 3 date.dayOfYear
  | 'y' => Text.padded 2 (date.year % 100)
  | 'f' => Text.padded 6 clock.microsecond
  | 'a' => date.dayName.take 3
  | 'A' => date.dayName
  | 'b' => date.monthName.take 3
  | 'B' => date.monthName
  | 'I' => Text.padded 2 clock.faceHour
  | 'p' => if clock.hour < 12 then ['A', 'M'] else ['P', 'M']
  | 'z' => (m.offset?.map offsetText).getD []
  | '%' => ['%']
  | _ => ['%', c]

def writeDirectives (m : Moment) : Text → Text
  | [] => []
  | '%' :: c :: rest => m.directive c ++ m.writeDirectives rest
  | c :: rest => c :: m.writeDirectives rest

/-- The moment by a pattern, which ends at its first NUL. -/
def write (m : Moment) (pattern : Text) : Text :=
  m.writeDirectives (pattern.takeWhile (· ≠ '\x00'))

def plainPattern : Text := "%Y-%m-%d %H:%M:%S".toList

end Moment

end TimePhrase
