import Mathlib.Algebra.Group.Int.Defs
import Tabular.Proofs.Integer.Unbounded
import Tabular.Proofs.Text.Trim

namespace Tabular
namespace Integer

/-!
# Literals by their digits

Every text is divided into blanks, at most one sign, the longest run of digits
that follows, and a rest.  The literal is absent when the run is empty.
Otherwise it is the integer that the run writes under the sign, or it says on
which side of the range that integer lies.
-/

/-- The sign that may stand in front of the digits. -/
inductive Sign where
  | absent
  | plus
  | minus
  deriving DecidableEq

namespace Sign

def written : Sign → List Char
  | .absent => []
  | .plus => ['+']
  | .minus => ['-']

def isMinus : Sign → Bool
  | .minus => true
  | _ => false

end Sign

/-- A text that does not begin with a sign. -/
def Unsigned (text : List Char) : Prop :=
  ∀ head ∈ text.head?, head ≠ '-' ∧ head ≠ '+'

/-- A text divided for the reading of a literal. -/
structure Division (text : List Char) where
  blanks : List Char
  sign : Sign
  digits : List Char
  rest : List Char
  whole : text = blanks ++ (sign.written ++ (digits ++ rest))
  blank : ∀ character ∈ blanks, Text.isBlank character = true
  /-- No blank is left behind the blanks. -/
  visible : ∀ head ∈ (sign.written ++ (digits ++ rest)).head?, Text.isBlank head = false
  /-- No sign is passed over. -/
  unsigned : sign = .absent → Unsigned (digits ++ rest)
  digit : ∀ character ∈ digits, character.isDigit = true
  /-- No digit is left behind the digits. -/
  longest : ∀ head ∈ rest.head?, head.isDigit = false

/-- The integer that the digits write under the sign, of any size. -/
def Division.value {text : List Char} (division : Division text) : Int :=
  signed division.sign.isMinus (Nat.ofDigitChars 10 division.digits 0)

variable {text blanks digits rest body : List Char} {sign : Sign} {value : Int} {word : Int64}

/-! ## Divisions -/

theorem head?_dropWhile_eq_false {α : Type} (test : α → Bool) (values : List α) :
    ∀ head ∈ (values.dropWhile test).head?, test head = false := by
  intro head first
  have stopped := List.head?_dropWhile_not test values
  rw [Option.mem_def.mp first] at stopped
  exact stopped

theorem exists_sign (text : List Char) : ∃ (sign : Sign) (body : List Char),
    text = sign.written ++ body ∧ (sign = .absent → Unsigned body) := by
  by_cases minus : text.head? = some '-'
  · rcases List.head?_eq_some_iff.mp minus with ⟨body, rfl⟩
    exact ⟨.minus, body, rfl, nofun⟩
  · by_cases plus : text.head? = some '+'
    · rcases List.head?_eq_some_iff.mp plus with ⟨body, rfl⟩
      exact ⟨.plus, body, rfl, nofun⟩
    · refine ⟨.absent, text, rfl, ?_⟩
      intro _ head first
      rw [Option.mem_def.mp first, Option.some.injEq] at minus plus
      exact ⟨minus, plus⟩

/-- Every text can be divided. -/
theorem exists_division (text : List Char) : Nonempty (Division text) := by
  rcases exists_sign (Text.trimStart text) with ⟨sign, body, split, unsigned⟩
  have run : body = body.takeWhile Char.isDigit ++ body.dropWhile Char.isDigit :=
    List.takeWhile_append_dropWhile.symm
  exact ⟨
    { blanks := text.takeWhile Text.isBlank
      sign := sign
      digits := body.takeWhile Char.isDigit
      rest := body.dropWhile Char.isDigit
      whole := by
        rw [← run, ← split]
        exact List.takeWhile_append_dropWhile.symm
      blank := List.all_eq_true.mp List.all_takeWhile
      visible := by
        rw [← run, ← split]
        exact head?_dropWhile_eq_false Text.isBlank text
      unsigned := by rwa [← run]
      digit := List.all_eq_true.mp List.all_takeWhile
      longest := head?_dropWhile_eq_false Char.isDigit body }⟩

theorem isDigit_of_mem_head? (filled : digits ≠ [])
    (digit : ∀ character ∈ digits, character.isDigit = true) :
    ∀ head ∈ (digits ++ rest).head?, head.isDigit = true := by
  intro head first
  rw [List.head?_append_of_ne_nil digits filled] at first
  exact digit head (List.mem_of_mem_head? first)

theorem unsigned_of_isDigit (digit : ∀ head ∈ text.head?, head.isDigit = true) :
    Unsigned text := by
  intro head first
  have isDigit := digit head first
  constructor
  · intro same
    rw [same] at isDigit
    exact absurd isDigit (by decide)
  · intro same
    rw [same] at isDigit
    exact absurd isDigit (by decide)

/-- A run of digits that is not empty cannot be mistaken for blanks or a sign. -/
def Division.ofDigits (sign : Sign) (filled : digits ≠ [])
    (blank : ∀ character ∈ blanks, Text.isBlank character = true)
    (digit : ∀ character ∈ digits, character.isDigit = true)
    (longest : ∀ head ∈ rest.head?, head.isDigit = false) :
    Division (blanks ++ (sign.written ++ (digits ++ rest))) where
  blanks := blanks
  sign := sign
  digits := digits
  rest := rest
  whole := rfl
  blank := blank
  visible := by
    intro head first
    cases sign with
    | absent => exact isBlank_of_isDigit (isDigit_of_mem_head? filled digit head first)
    | plus =>
        cases first
        decide
    | minus =>
        cases first
        decide
  unsigned _ := unsigned_of_isDigit (isDigit_of_mem_head? filled digit)
  digit := digit
  longest := longest

/-! ## Reading a divided text -/

theorem takeSign_written (unsigned : sign = .absent → Unsigned body) :
    takeSign (sign.written ++ body) = (sign.isMinus, body) := by
  cases sign with
  | plus => rfl
  | minus => rfl
  | absent =>
      change takeSign body = (false, body)
      apply takeSign.eq_3
      · intro others same
        rw [same] at unsigned
        exact (unsigned rfl '-' rfl).1 rfl
      · intro others same
        rw [same] at unsigned
        exact (unsigned rfl '+' rfl).2 rfl

/-- A divided text is read as the integer that its digits write, brought into range. -/
theorem read?_of_division (division : Division text) : Literal.read? text =
    if division.digits = [] then none else some (Literal.ofInt division.value) := by
  have trimmed : Text.trimStart text =
      division.sign.written ++ (division.digits ++ division.rest) := by
    conv_lhs => rw [division.whole, Text.trimStart_append_of_blank division.blank]
    exact Text.trimStart_eq_self_iff.mpr division.visible
  have sign := takeSign_written division.unsigned
  rw [← trimmed] at sign
  rw [read?_eq_of_takeSign sign, leadingNatural?,
    takeWhile_isDigit_append division.digit division.longest, apply_ite (Option.map _)]
  rfl

theorem read?_of_digits (filled : digits ≠ [])
    (blank : ∀ character ∈ blanks, Text.isBlank character = true)
    (digit : ∀ character ∈ digits, character.isDigit = true)
    (longest : ∀ head ∈ rest.head?, head.isDigit = false) :
    Literal.read? (blanks ++ (sign.written ++ (digits ++ rest))) =
      some (Literal.ofInt (signed sign.isMinus (Nat.ofDigitChars 10 digits 0))) := by
  have divided := read?_of_division (Division.ofDigits sign filled blank digit longest)
  rw [divided]
  exact if_neg filled

/-- Zeros in front of the digits do not change what is read. -/
theorem read?_zeros (division : Division text) (filled : division.digits ≠ []) (count : Nat) :
    Literal.read? (division.blanks ++ (division.sign.written ++
      (List.replicate count '0' ++ (division.digits ++ division.rest)))) = Literal.read? text := by
  have digit : ∀ character ∈ List.replicate count '0' ++ division.digits,
      character.isDigit = true := by
    intro character member
    rcases List.mem_append.mp member with zero | digit
    · rw [List.eq_of_mem_replicate zero]
      decide
    · exact division.digit character digit
  rw [read?_of_division division, if_neg filled, ← List.append_assoc (List.replicate count '0'),
    read?_of_digits (List.append_ne_nil_of_right_ne_nil _ filled) division.blank digit
      division.longest, Nat.ofDigitChars_append, Nat.ofDigitChars_replicate_zero, Nat.mul_zero]
  rfl

/-- A printed word is read back, whatever follows it that is not a digit. -/
theorem read?_decimal (word : Int64) (apart : ∀ head ∈ rest.head?, head.isDigit = false) :
    Literal.read? (decimal word ++ rest) = some (.exact word) := by
  rw [read?_eq, leadingInteger?_decimal word apart, Option.map_some, Literal.ofInt,
    ofInt?_eq_some.mpr rfl]

/-! ## The literal of an integer -/

/-- What a literal says of the integer it was read from. -/
def Literal.Denotes (value : Int) : Literal → Prop
  | .exact word => word.toInt = value
  | .aboveRange => 2 ^ 63 - 1 < value
  | .belowRange => value < -2 ^ 63

theorem ofInt_denotes (value : Int) : (Literal.ofInt value).Denotes value := by
  rw [Literal.ofInt]
  cases checked : ofInt? value with
  | some word => exact ofInt?_eq_some.mp checked
  | none =>
      have outside := ofInt?_eq_none_iff.mp checked
      by_cases negative : value < 0
      · rw [if_pos negative]
        change value < -2 ^ 63
        omega
      · rw [if_neg negative]
        change 2 ^ 63 - 1 < value
        omega

/-- The range lies between the two sides, so a literal says enough to be told from others. -/
theorem Literal.Denotes.unique {left right : Literal} (one : left.Denotes value)
    (two : right.Denotes value) : left = right := by
  have bounds (word : Int64) : -2 ^ 63 ≤ word.toInt ∧ word.toInt ≤ 2 ^ 63 - 1 := by
    have least := word.le_toInt
    have greatest := word.toInt_lt
    omega
  cases left with
  | exact word =>
      have within := bounds word
      cases right with
      | exact other => rw [Int64.toInt_inj.mp (one.trans two.symm)]
      | aboveRange => simp only [Denotes] at one two; omega
      | belowRange => simp only [Denotes] at one two; omega
  | aboveRange =>
      cases right with
      | exact other => have within := bounds other; simp only [Denotes] at one two; omega
      | aboveRange => rfl
      | belowRange => simp only [Denotes] at one two; omega
  | belowRange =>
      cases right with
      | exact other => have within := bounds other; simp only [Denotes] at one two; omega
      | aboveRange => simp only [Denotes] at one two; omega
      | belowRange => rfl

theorem ofInt_eq_iff {literal : Literal} : Literal.ofInt value = literal ↔ literal.Denotes value := by
  constructor
  · intro same
    exact same ▸ ofInt_denotes value
  · exact (ofInt_denotes value).unique

theorem exists_toInt_eq_iff :
    (∃ word : Int64, word.toInt = value) ↔ -2 ^ 63 ≤ value ∧ value ≤ 2 ^ 63 - 1 := by
  constructor
  · intro written
    rcases written with ⟨word, rfl⟩
    have least := word.le_toInt
    have greatest := word.toInt_lt
    omega
  · intro bounds
    exact ⟨Int64.ofInt value, Int64.toInt_ofInt_of_le (by omega) (by omega)⟩

/-- The reading of every text, by the digits in it.  There is no literal where there
are no digits.  Else the literal is the integer they write, when it is a word, and
the side on which it lies outside the range, when it is not.  Zeros in front of the
digits do not matter, and printed words are read back. -/
theorem read?_classifies (text : List Char) :
    Nonempty (Division text) ∧
    (∀ division : Division text,
      (Literal.read? text = none ↔ division.digits = []) ∧
      (division.digits ≠ [] →
        (∀ word, Literal.read? text = some (.exact word) ↔ word.toInt = division.value) ∧
        ((∃ word, Literal.read? text = some (.exact word)) ↔
          -2 ^ 63 ≤ division.value ∧ division.value ≤ 2 ^ 63 - 1) ∧
        (Literal.read? text = some .aboveRange ↔ 2 ^ 63 - 1 < division.value) ∧
        (Literal.read? text = some .belowRange ↔ division.value < -2 ^ 63) ∧
        ∀ count, Literal.read? (division.blanks ++ (division.sign.written ++
          (List.replicate count '0' ++ (division.digits ++ division.rest)))) =
            Literal.read? text)) ∧
    ∀ word behind, (∀ head ∈ behind.head?, head.isDigit = false) →
      Literal.read? ((decimalText word).toList ++ behind) = some (.exact word) := by
  refine ⟨exists_division text, ?_, ?_⟩
  · intro division
    have reads := read?_of_division division
    constructor
    · rw [reads, ite_eq_left_iff]
      simp
    · intro filled
      rw [if_neg filled] at reads
      refine ⟨?_, ?_, ?_, ?_, read?_zeros division filled⟩
      · simp only [reads, Option.some.injEq, ofInt_eq_iff, Literal.Denotes, implies_true]
      · simp only [reads, Option.some.injEq, ofInt_eq_iff, Literal.Denotes, exists_toInt_eq_iff]
      · rw [reads, Option.some.injEq, ofInt_eq_iff, Literal.Denotes]
      · rw [reads, Option.some.injEq, ofInt_eq_iff, Literal.Denotes]
  · intro word behind apart
    rw [decimalText, String.toList_ofList]
    exact read?_decimal word apart

/-- The least word is reached from above, and a digit more leaves the range below. -/
example : Literal.read? "\u2003-009223372036854775808.5".toList = some (.exact Int64.minValue) ∧
    Literal.read? "-92233720368547758080".toList = some .belowRange ∧
    Literal.read? "-0".toList = some (.exact 0) ∧ Literal.read? "+-5".toList = none := by
  decide +kernel

end Integer
end Tabular
