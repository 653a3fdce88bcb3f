import TimePhrase.Fault
import TimePhrase.Text.UnicodeData

namespace TimePhrase

abbrev Text := List Char

/-- White space in the Unicode sense, with the four information separators U+001C to U+001F. -/
def isBlank (c : Char) : Bool :=
  let n := c.toNat
  (0x9 ≤ n && n ≤ 0xD) || (0x1C ≤ n && n ≤ 0x20) || n == 0x85 || n == 0xA0 || n == 0x1680
    || (0x2000 ≤ n && n ≤ 0x200A) || n == 0x2028 || n == 0x2029 || n == 0x202F || n == 0x205F
    || n == 0x3000

namespace Text

def strip (t : Text) : Text :=
  ((t.dropWhile isBlank).reverse.dropWhile isBlank).reverse

/-- The pieces between the characters that satisfy `p`, empty ones included. -/
def splitWhere (p : Char → Bool) : Text → List Text
  | [] => [[]]
  | c :: rest =>
    if p c then [] :: splitWhere p rest else (splitWhere p rest).modifyHead (c :: ·)

theorem splitWhere_ne_nil (p : Char → Bool) (t : Text) : splitWhere p t ≠ [] := by
  cases t with
  | nil => simp [splitWhere]
  | cons c rest =>
    have := splitWhere_ne_nil p rest
    unfold splitWhere
    split
    · simp
    · simpa using this

theorem splitWhere_of_forall {p : Char → Bool} {t : Text} (h : ∀ c ∈ t, p c = false) :
    splitWhere p t = [t] := by
  induction t with
  | nil => rfl
  | cons c rest ih =>
    simp [splitWhere, h c (by simp), ih fun d hd => h d (by simp [hd])]

end Text

def isAsciiDigit (c : Char) : Bool := '0' ≤ c && c ≤ '9'

/-- The value of a decimal digit of any script. -/
def digitValue? (c : Char) : Option Nat :=
  (digitZeros.find? fun z => z ≤ c.toNat && c.toNat < z + 10).map (c.toNat - ·)

def ofDigits (ds : List Nat) : Nat := ds.foldl (fun n d => 10 * n + d) 0

namespace Text

def decimal (n : Nat) : Text := Nat.toDigits 10 n

def padded (width n : Nat) : Text := (decimal n).leftpad width '0'

def signed : Int → Text
  | .ofNat n => decimal n
  | .negSucc n => '-' :: decimal (n + 1)

def isNatural (t : Text) : Bool := !t.isEmpty && t.all isAsciiDigit

def isInteger : Text → Bool
  | '-' :: digits => isNatural digits
  | digits => isNatural digits

/-- Longer numerals are refused, even if they are zeros. -/
def maxDigits : Nat := 4300

def natural (digits : Text) : Except Fault Nat :=
  if digits.length ≤ maxDigits then .ok (ofDigits (digits.map fun c => c.toNat - '0'.toNat))
  else .error .numeralTooLong

def integer : Text → Except Fault Int
  | '-' :: digits => do return -(← natural digits)
  | digits => do return ← natural digits

def integer? (t : Text) : Except Fault (Option Int) :=
  if t.isInteger then some <$> t.integer else return none

end Text

def inRanges (ranges : List (Nat × Nat)) (c : Char) : Bool :=
  ranges.any fun r => r.1 ≤ c.toNat && c.toNat ≤ r.2

def isCased (c : Char) : Bool := inRanges casedRanges c

def isCaseIgnorable (c : Char) : Bool := inRanges caseIgnorableRanges c

def isPrintable (c : Char) : Bool :=
  let n := c.toNat
  (0x20 ≤ n && n ≤ 0x7E) || printableRanges.any fun r => r.1 ≤ n && n ≤ r.2

def CaseRange.covers (r : CaseRange) (n : Nat) : Bool :=
  r.first ≤ n && n ≤ r.last && (n - r.first) % r.stride == 0

def lowerChar (c : Char) : Char :=
  match lowerRanges.find? (·.covers c.toNat) with
  | some r => Char.ofNat ((c.toNat : Int) + r.shift).toNat
  | none => c

namespace Text

def startsCased (t : Text) : Bool := (t.find? (!isCaseIgnorable ·)).any isCased

/-- `inWord`: the last character before that is not case-ignorable is a cased one. -/
def lowerFrom (inWord : Bool) : Text → Text
  | [] => []
  | c :: rest =>
    let form :=
      if c = 'Σ' then [if inWord && !startsCased rest then 'ς' else 'σ']
      else if c = '\u0130' then ['i', '\u0307']
      else [lowerChar c]
    form ++ lowerFrom (if isCaseIgnorable c then inWord else isCased c) rest

def lower (t : Text) : Text := lowerFrom false t

end Text

def isWordChar (c : Char) : Bool := ('a' ≤ c && c ≤ 'z') || ('0' ≤ c && c ≤ '9')

/-- A word and the variants that stand for it. -/
structure Synonym where
  word : Text
  variants : List Text

namespace Synonym

def table : List Synonym :=
  [⟨"last".toList, ["previous".toList, "past".toList]⟩,
   ⟨"this".toList, ["current".toList, "present".toList]⟩,
   ⟨"next".toList, ["forward".toList, "future".toList]⟩,
   ⟨"second".toList, ["seconds".toList, "secs".toList]⟩,
   ⟨"minute".toList, ["minutes".toList, "mins".toList]⟩,
   ⟨"hour".toList, ["hours".toList]⟩,
   ⟨"day".toList, ["days".toList]⟩,
   ⟨"month".toList, ["months".toList]⟩,
   ⟨"year".toList, ["years".toList]⟩,
   ⟨"week".toList, ["weeks".toList]⟩,
   ⟨"quarter".toList, ["quarters".toList]⟩]

/-- The variant with which the text starts as a whole word. -/
def variantAt? (s : Synonym) (t : Text) : Option Text :=
  s.variants.find? fun v => v.isPrefixOf t && !(t.drop v.length).head?.any isWordChar

/-- Leaves out `skip` characters first; `inWord`: the one before belongs to a word. -/
def replaceFrom (s : Synonym) : (skip : Nat) → (inWord : Bool) → Text → Text
  | _, _, [] => []
  | skip + 1, _, c :: rest => s.replaceFrom skip (isWordChar c) rest
  | 0, inWord, c :: rest =>
    match if inWord then none else s.variantAt? (c :: rest) with
    | some v => s.word ++ s.replaceFrom (v.length - 1) (isWordChar c) rest
    | none => c :: s.replaceFrom 0 (isWordChar c) rest

def replace (s : Synonym) (t : Text) : Text := s.replaceFrom 0 false t

def replaceAll (synonyms : List Synonym) (t : Text) : Text :=
  synonyms.foldl (fun t s => s.replace t) t

end Synonym

namespace Text

def plainWords (t : Text) : Text := Synonym.replaceAll Synonym.table t.lower

/-- The form in which a phrase is read. -/
def phrase (t : Text) : Text := t.plainWords.strip

/-- The quote that needs fewer escapes; the single one where both need some. -/
def quoteFor (t : Text) : Char :=
  if t.contains '\'' && !t.contains '"' then '"' else '\''

def hex (width n : Nat) : Text := (Nat.toDigits 16 n).leftpad width '0'

def hexEscape (c : Char) : Text :=
  let n := c.toNat
  if n < 0x100 then '\\' :: 'x' :: hex 2 n
  else if n < 0x10000 then '\\' :: 'u' :: hex 4 n
  else '\\' :: 'U' :: hex 8 n

def quotedChar (quote c : Char) : Text :=
  if c = quote || c = '\\' then ['\\', c]
  else if c = '\n' then ['\\', 'n']
  else if c = '\r' then ['\\', 'r']
  else if c = '\t' then ['\\', 't']
  else if isPrintable c then [c]
  else hexEscape c

def quoted (t : Text) : Text :=
  let quote := quoteFor t
  quote :: t.flatMap (quotedChar quote) ++ [quote]

end Text

end TimePhrase
