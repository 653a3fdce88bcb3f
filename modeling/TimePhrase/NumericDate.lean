import TimePhrase.Phrase.Endpoint

namespace TimePhrase

inductive FieldOrder
  | yearMonthDay | dayMonthYear | monthDayYear
deriving DecidableEq

namespace FieldOrder

def all : List FieldOrder := [yearMonthDay, dayMonthYear, monthDayYear]

def pattern : FieldOrder → String
  | yearMonthDay => "%Y-%m-%d"
  | dayMonthYear => "%d/%m/%Y"
  | monthDayYear => "%m/%d/%Y"

def date? (a b c : Nat) : FieldOrder → Option Date
  | yearMonthDay => Date.of? a b c
  | dayMonthYear => Date.of? c b a
  | monthDayYear => Date.of? c a b

end FieldOrder

inductive Preference
  | dayFirst | monthFirst
deriving DecidableEq

namespace Preference

/-- Any name but `MDY` in upper or lower case asks for the day first. -/
def ofName (t : Text) : Preference :=
  if t.map Char.toUpper = ['M', 'D', 'Y'] then monthFirst else dayFirst

def orders : Preference → List FieldOrder
  | dayFirst => [.yearMonthDay, .dayMonthYear, .monthDayYear]
  | monthFirst => [.yearMonthDay, .monthDayYear, .dayMonthYear]

end Preference

namespace NumericDate

def isSeparator (c : Char) : Bool := [' ', '-', '_', '/', '.', ',', '\\'].contains c

def fields? (t : Text) : Except Fault (Option (Nat × Nat × Nat)) :=
  match t.splitWhere isSeparator with
  | [a, b, c] =>
    if a.isNatural && b.isNatural && c.isNatural then do
      return some (← a.natural, ← b.natural, ← c.natural)
    else return none
  | _ => return none

/-- The first order that makes the fields a real date. -/
def orderOf? (p : Preference) (a b c : Nat) : Option FieldOrder :=
  p.orders.find? fun o => (o.date? a b c).isSome

def order? (t : Text) (p : Preference) : Except Fault (Option FieldOrder) := do
  return (← fields? t).bind fun (a, b, c) => orderOf? p a b c

def order (t : Text) (p : Preference) : Except Failure FieldOrder :=
  match order? t p with
  | .error f => .error (.fault f)
  | .ok none => .error (.phrase (.noRealDate t))
  | .ok (some o) => .ok o

def date? (t : Text) (p : Preference) : Except Fault (Option Date) := do
  return (← fields? t).bind fun (a, b, c) => (orderOf? p a b c).bind (·.date? a b c)

end NumericDate

end TimePhrase
