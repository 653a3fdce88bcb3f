import TimePhrase.NumericDate
import TimePhrase.Period

namespace TimePhrase

/-- The debugging notes that accompany an answer. -/
inductive Note
  | refused (way : Wording) (text : Text) (error : PhraseError)
  | accepted (e : Endpoint)
  | found (text : Text) (period : String) (week : Week)
  | notFound (text : Text) (error : PhraseError)
  | unordered (error : PhraseError)

def Wording.noteName : Wording → String
  | fixed => "StaticParser"
  | relative => "DynamicParser"
  | spelled => "FormatParser"
  | unix => "TimestampParser"

def Note.message : Note → String
  | refused way t e => way.noteName ++ " rejected " ++ String.ofList t.quoted ++ ": " ++ e.message
  | accepted e => "Classified " ++ String.ofList e.text.quoted ++ " as " ++ e.describe
  | found t period w =>
    "Resolved " ++ String.ofList t.quoted ++ " to " ++ period ++ " (" ++ w.describe ++ ")"
  | notFound t e => "Could not resolve " ++ String.ofList t.quoted ++ ": " ++ e.message
  | unordered e => e.message

namespace Journal

def ofWordings (t : Text) (now : Moment) : List Wording → List Note
  | [] => []
  | way :: rest =>
    match way.read t now with
    | .ok (some e) => [.accepted e]
    | .ok none => ofWordings t now rest
    | .error (.phrase e) => .refused way t e :: ofWordings t now rest
    | .error (.fault _) => []

def ofEndpoint (t : Text) (now : Moment) : List Note := ofWordings t.phrase now Wording.all

/-- The second endpoint is left alone if the first cannot be read. -/
def ofEndpoints (t : Text) (now : Moment) : List Note :=
  match t.phrases with
  | [phrase] => ofEndpoint phrase now
  | [first, last] =>
    ofEndpoint first now ++ if (Endpoint.read first now).isOk then ofEndpoint last now else []
  | _ => []

def ofPeriod (t : Text) (w : Week) (z : Zone) (now : Moment) : List Note :=
  match now.current z with
  | .error _ => []
  | .ok current =>
    let period? := (Period.read t w z now).toOption.bind (·.describe.toOption)
    ofEndpoints t current ++ (period?.map (.found t · w)).toList

def ofPeriod? (t : Text) (w : Week) (z : Zone) (now : Moment) : List Note :=
  ofPeriod t w z now ++
    match Period.read t w z now with
    | .error (.phrase e) => [.notFound t e]
    | _ => []

def ofWalk (w : Week) (z : Zone) (edge : Edge) (now : Moment) : List Text → List Note
  | [] => []
  | t :: rest =>
    ofPeriod t w z now ++ ofWalk w z edge (Period.nextMoment now edge (Period.read t w z now)) rest

def ofOrder (t : Text) (p : Preference) : List Note :=
  match NumericDate.order t p with
  | .error (.phrase e) => [.unordered e]
  | _ => []

end Journal

end TimePhrase
