import Tabular.Text

namespace Tabular
namespace Integer

/-!
# Integers of sixty-four bits

Number cells hold signed integers of sixty-four bits, which are called words.
Arithmetic on them never wraps: every step is taken in the unbounded integers
and checked against the range, and a value that has left the range once does not
come back.  Words are printed in decimal and read in two ways.  A text is parsed
from end to end, and a literal is what a text starts with.
-/

/-! ## Decimal texts -/

def naturalText (number : Nat) : String :=
  String.ofList (Nat.toDigits 10 number)

/-- The decimal text of a word, as characters. -/
def decimal (word : Int64) : List Char :=
  let digits := Nat.toDigits 10 word.toInt.natAbs
  if word.toInt < 0 then '-' :: digits else digits

def decimalText (word : Int64) : String :=
  String.ofList (decimal word)

/-! ## The range -/

/-- The word with the given value, when the value lies within the range. -/
def ofInt? (value : Int) : Option Int64 :=
  if Int64.minValue.toInt ≤ value ∧ value ≤ Int64.maxValue.toInt then
    some (Int64.ofInt value)
  else
    none

/-- The value of an ASCII digit. -/
def digitValue (digit : Char) : Int :=
  digit.toNat - '0'.toNat

/-- Append one digit to a running value.  A negative value grows downwards,
so that the least word is reached without passing its absent negation. -/
def appendDigit (negative : Bool) (running : Option Int64) (digit : Char) : Option Int64 := do
  let shifted ← ofInt? ((← running).toInt * 10)
  ofInt? (if negative then shifted.toInt - digitValue digit else shifted.toInt + digitValue digit)

/-- The word written by a run of digits under a sign, or `none` when the
range is left on the way. -/
def ofDigits? (negative : Bool) (digits : List Char) : Option Int64 :=
  digits.foldl (appendDigit negative) (some 0)

theorem ofInt?_eq_some {value : Int} {word : Int64} :
    ofInt? value = some word ↔ word.toInt = value := by
  unfold ofInt?
  constructor
  · intro found
    split at found
    · next bounds =>
        cases found
        exact Int64.toInt_ofInt_of_le bounds.1 (Int.lt_of_le_of_lt bounds.2 (by decide))
    · cases found
  · intro same
    subst same
    rw [if_pos ⟨word.minValue_le_toInt, word.toInt_le⟩, Int64.ofInt_toInt]

theorem ofInt?_eq_none {value : Int} :
    ofInt? value = none ↔ value < Int64.minValue.toInt ∨ Int64.maxValue.toInt < value := by
  unfold ofInt?
  constructor
  · intro missing
    split at missing
    · cases missing
    · next outside => omega
  · intro outside
    exact if_neg (by omega)

/-! ## Words

A text is parsed as a word from end to end.  The first character that does not
fit ends the parsing, be it no digit or one digit too many. -/

/-- Why a text is not parsed as a word. -/
inductive WordError where
  | empty
  | invalidDigit
  | tooLarge
  | tooSmall
  deriving DecidableEq, Repr

def WordError.message : WordError → String
  | .empty => "cannot parse integer from empty string"
  | .invalidDigit => "invalid digit found in string"
  | .tooLarge => "number too large to fit in target type"
  | .tooSmall => "number too small to fit in target type"

/-- Take one sign off a text.  `true` stands for minus. -/
def takeSign : List Char → Bool × List Char
  | '-' :: rest => (true, rest)
  | '+' :: rest => (false, rest)
  | text => (false, text)

/-- Append one character to the word that was written so far. -/
def appendCharacter (negative : Bool) (running : Int64) (character : Char) :
    Except WordError Int64 :=
  if character.isDigit then
    match appendDigit negative (some running) character with
    | some word => .ok word
    | none => .error (if negative then .tooSmall else .tooLarge)
  else
    .error .invalidDigit

/-- The word that a text writes by at most one sign and at least one digit. -/
def parse (text : List Char) : Except WordError Int64 :=
  if text.isEmpty then
    .error .empty
  else
    let signed := takeSign text
    if signed.2.isEmpty then .error .invalidDigit
    else signed.2.foldlM (appendCharacter signed.1) 0

def isDigitRun (text : List Char) : Bool :=
  !text.isEmpty && text.all Char.isDigit

/-! ## Literals

Blanks in front are skipped, one sign may come, and the longest run of ASCII
digits counts.  A run whose value is no word still has an order relative to every
word, and that is all a comparison needs. -/

/-- What a lenient reading yields. -/
inductive Literal where
  /-- A value that fits sixty-four bits. -/
  | exact (word : Int64)
  | aboveRange
  | belowRange
  deriving DecidableEq, Repr

/-- The lenient reading of a text, or `none` when it has no digits. -/
def Literal.read? (text : List Char) : Option Literal :=
  let signed := takeSign (Text.trimStart text)
  let digits := signed.2.takeWhile Char.isDigit
  if digits.isEmpty then
    none
  else
    match ofDigits? signed.1 digits with
    | some word => some (.exact word)
    | none => some (if signed.1 then .belowRange else .aboveRange)

/-- The order of a word relative to a literal. -/
def Literal.order (word : Int64) : Literal → Ordering
  | .exact value => compare word value
  | .aboveRange => .lt
  | .belowRange => .gt

end Integer
end Tabular
