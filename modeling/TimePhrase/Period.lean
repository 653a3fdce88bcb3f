import TimePhrase.Phrase.Reader

namespace TimePhrase

structure Period where
  start : Moment
  finish : Moment
deriving DecidableEq

namespace Period

def edge (p : Period) : Edge → Moment
  | .start => p.start
  | .finish => p.finish

def unixSeconds (p : Period) : Except Fault (Int × Int) := do
  return (← p.start.unixSeconds, ← p.finish.unixSeconds)

def write (p : Period) (pattern : Text) : Text × Text :=
  (p.start.write pattern, p.finish.write pattern)

/-- The length in seconds, the last second included. -/
def duration (p : Period) : Except Fault Int := do
  return wholeSeconds (← p.start.elapsed p.finish) + 1

def describe (p : Period) : Except Fault String := do
  let (start, finish) := p.write Moment.plainPattern
  return "TimeRange(" ++ String.ofList start ++ "→" ++ String.ofList finish ++ ", "
    ++ String.ofList (Text.signed (← p.duration)) ++ "s)"

end Period

/-- The moment as its written date and time tell it: a whole second on the first pass. -/
def Moment.reread? (m : Moment) : Option Moment :=
  (Layout.dateTime.read? m.wall.text).map fun wall => ⟨wall, m.frame, false⟩

namespace Endpoint

/-- The base moves to the edge of its unit, by its amount, and to the edge of the unit reached. -/
def place? (e : Endpoint) (w : Week) (edge : Edge) : Option Moment := do
  let base ← e.base.reread?
  let first ← (base.edgeOf e.unit w edge).toOption
  let moved ← (first.advance e.unit e.amount).toOption
  (moved.edgeOf e.unit w edge).toOption

def place (e : Endpoint) (w : Week) (edge : Edge) : Except PhraseError Moment :=
  match e.place? w edge with
  | some m => .ok m
  | none => .error (.offCalendar e.text)

end Endpoint

/-- The current moment in the zone of the answer; it has to know its own offset. -/
def Moment.current (now : Moment) (z : Zone) : Except Fault Moment :=
  if now.frame = .floating then .error (.floatingNow now.wall now.fold) else now.inZone z

def Endpoints.place (p : Endpoints) (w : Week) : Except PhraseError Period := do
  return ⟨← p.start.place w .start, ← p.finish.place w .finish⟩

namespace Period

def read (t : Text) (w : Week) (z : Zone) (now : Moment) : Except Failure Period := do
  let current ← (now.current z).mapError .fault
  let endpoints ← Endpoints.read t current
  (endpoints.place w).mapError .phrase

def read? (t : Text) (w : Week) (z : Zone) (now : Moment) : Except Fault (Option Period) :=
  unlessPhraseError (read t w z now)

def nextMoment (now : Moment) (edge : Edge) : Except Failure Period → Moment
  | .ok p => p.edge edge
  | .error _ => now

/-- The answers to the texts in turn; a period moves the current moment to one edge of it. -/
def walk (w : Week) (z : Zone) (edge : Edge) (now : Moment) :
    List Text → List (Except Failure Period)
  | [] => []
  | t :: rest =>
    let answer := read t w z now
    answer :: walk w z edge (nextMoment now edge answer) rest

end Period

end TimePhrase
