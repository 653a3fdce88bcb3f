import TimePhrase.Phrase.Endpoint
import TimePhrase.Phrase.Layout

namespace TimePhrase

namespace Spelled

def layoutIn? (layouts : List Layout) (t : Text) : Option (Layout × Civil) :=
  layouts.findSome? fun l => (l.read? t).map (l, ·)

/-- A number that is too small for a year is refused before any layout is tried. -/
def readIn (layouts : List Layout) (t : Text) (now : Moment) : Except Failure (Option Endpoint) :=
  match t.integer? with
  | .error f => .error (.fault f)
  | .ok n? =>
    if n?.any (· < (firstBareYear : Int)) then .error (.phrase (.yearTooEarly t))
    else .ok <| (layoutIn? layouts t).map fun (l, parsed) =>
      ⟨t, .spelled, l.unit, 0, .forward, l.complete parsed now⟩

def read (t : Text) (now : Moment) : Except Failure (Option Endpoint) := readIn Layout.all t now

end Spelled

namespace UnixTime

/-- An integer in its shortest form, as seconds since 1970 in the frame of `now`. -/
def read (t : Text) (now : Moment) : Except Failure (Option Endpoint) :=
  match t.integer? with
  | .error f => .error (.fault f)
  | .ok none => .ok none
  | .ok (some n) =>
    .ok <| if Text.signed n = t then
      (Moment.ofUnix? now.frame n 0 (by decide)).map fun base =>
        ⟨t, .unix, .second, 0, .forward, base⟩
    else none

end UnixTime

/-- Reads a text that is written in the given way; there is none if it is written differently. -/
def Wording.read (t : Text) (now : Moment) : Wording → Except Failure (Option Endpoint)
  | .fixed => .ok (FixedPhrase.read? t now)
  | .relative => Relative.read t now
  | .spelled => Spelled.read t now
  | .unix => UnixTime.read t now

/-- The first accepting way decides; a refusal counts only if none accepts. -/
def Wording.readFirst (t : Text) (now : Moment) (refusal : Option PhraseError) :
    List Wording → Except Failure Endpoint
  | [] => .error (.phrase (refusal.getD (.unreadable t)))
  | way :: rest =>
    match way.read t now with
    | .ok (some e) => .ok e
    | .ok none => readFirst t now refusal rest
    | .error (.phrase e) => readFirst t now (refusal <|> some e) rest
    | .error (.fault f) => .error (.fault f)

namespace Endpoint

def read (t : Text) (now : Moment) : Except Failure Endpoint :=
  Wording.readFirst t.phrase now none Wording.all

def read? (t : Text) (now : Moment) : Except Fault (Option Endpoint) :=
  unlessPhraseError (read t now)

end Endpoint

def joiner : String := " to "

def Text.splitAtJoiner : Text → List Text
  | [] => [[]]
  | ' ' :: 't' :: 'o' :: ' ' :: rest => [] :: splitAtJoiner rest
  | c :: rest => (splitAtJoiner rest).modifyHead (c :: ·)

def Text.phrases (t : Text) : List Text := t.plainWords.splitAtJoiner.map strip

def Direction.leading? (t : Text) : Option Direction := ofModifier? (t.takeWhile (· ≠ ' '))

structure Endpoints where
  start : Endpoint
  finish : Endpoint

namespace Endpoints

/-- A relative phrase reaches from the present to its far end, any other over its own unit. -/
def ofSingle (t : Text) (e : Endpoint) (now : Moment) : Endpoints :=
  if e.wording = .relative then
    match Direction.leading? t with
    | some .forward => ⟨.present now, e⟩
    | some .backward => ⟨e, .present now⟩
    | none => ⟨e, e⟩
  else ⟨e, e⟩

def read (t : Text) (now : Moment) : Except Failure Endpoints :=
  match t.phrases with
  | [phrase] => do return .ofSingle phrase (← Endpoint.read phrase now) now
  | [first, last] => do return ⟨← Endpoint.read first now, ← Endpoint.read last now⟩
  | phrases => .error (.phrase (.tooManyPhrases t phrases.length))

end Endpoints

end TimePhrase
