import Mathlib.Algebra.Group.Nat.Defs
import Mathlib.Data.List.TakeWhile
import Tabular.Integer

namespace Tabular
namespace Integer

/-!
# Literals as unbounded integers

The lenient reading accumulates digits in sixty-four bits and gives up at the
first step that leaves the range.  Here it is compared with the reading of the
same text in the unbounded integers.  The invariant of the digit loop is that
the running word is the checked form of the unbounded running value: once
outside the range that value stays there, on the same side.

A printed word is read back, as long as what follows it is no digit.
-/

variable {negative : Bool} {magnitude : Nat} {digit : Char} {digits text : List Char}

/-! ## Unbounded readings -/

/-- The integer with the given sign and magnitude. -/
def signed : Bool → Nat → Int
  | true, magnitude => -magnitude
  | false, magnitude => magnitude

@[simp]
theorem signed_true (magnitude : Nat) : signed true magnitude = -magnitude :=
  rfl

@[simp]
theorem signed_false (magnitude : Nat) : signed false magnitude = magnitude :=
  rfl

/-- The value of the longest run of digits at the start of a text, or `none`
when there is no digit. -/
def leadingNatural? (text : List Char) : Option Nat :=
  if text.takeWhile Char.isDigit = [] then
    none
  else
    some (Nat.ofDigitChars 10 (text.takeWhile Char.isDigit) 0)

/-- The integer a text starts with, of any size: blanks are skipped, then at
most one sign counts, then the longest run of digits. -/
def leadingInteger? (text : List Char) : Option Int :=
  match text.dropWhile Text.isBlank with
  | '-' :: rest => (leadingNatural? rest).map (signed true)
  | '+' :: rest => (leadingNatural? rest).map (signed false)
  | rest => (leadingNatural? rest).map (signed false)

/-- The literal for an unbounded integer. -/
def Literal.ofInt (value : Int) : Literal :=
  match ofInt? value with
  | some word => .exact word
  | none => if value < 0 then .belowRange else .aboveRange

/-! ## The digit loop -/

theorem digitValue_eq (digit : Char) (isDigit : digit.isDigit = true) :
    digitValue digit = ((digit.toNat - '0'.toNat : Nat) : Int) := by
  have bounds := Char.isDigit_iff_toNat.mp isDigit
  have zero : '0'.toNat = 48 := rfl
  rw [digitValue, zero]
  omega

theorem ofInt?_eq_none_iff {value : Int} :
    ofInt? value = none ↔ value < -9223372036854775808 ∨ 9223372036854775807 < value :=
  ofInt?_eq_none

theorem appendDigit_some (word : Int64) (digit : Char) :
    appendDigit negative (some word) digit =
      (ofInt? (word.toInt * 10)).bind fun shifted =>
        ofInt? (if negative then shifted.toInt - digitValue digit
          else shifted.toInt + digitValue digit) :=
  rfl

theorem signed_mul_ten (negative : Bool) (magnitude : Nat) :
    signed negative magnitude * 10 = signed negative (10 * magnitude) := by
  cases negative with
  | true =>
      rw [signed_true, signed_true]
      omega
  | false =>
      rw [signed_false, signed_false]
      omega

/-- Outside the range, more digits lead further outside. -/
theorem ofInt?_signed_eq_none {later : Nat} (outside : ofInt? (signed negative magnitude) = none)
    (larger : magnitude ≤ later) : ofInt? (signed negative later) = none := by
  rw [ofInt?_eq_none_iff] at outside ⊢
  cases negative <;> simp only [signed_true, signed_false] at outside ⊢ <;> omega

/-- One digit keeps the invariant of the loop. -/
theorem appendDigit_ofInt? (isDigit : digit.isDigit = true) :
    appendDigit negative (ofInt? (signed negative magnitude)) digit =
      ofInt? (signed negative (10 * magnitude + (digit.toNat - '0'.toNat))) := by
  have value := digitValue_eq digit isDigit
  generalize digit.toNat - '0'.toNat = added at value
  cases running : ofInt? (signed negative magnitude) with
  | none =>
      rw [ofInt?_signed_eq_none running (by omega)]
      rfl
  | some word =>
      rw [appendDigit_some, ofInt?_eq_some.mp running, value, signed_mul_ten]
      cases shifted : ofInt? (signed negative (10 * magnitude)) with
      | none =>
          rw [ofInt?_signed_eq_none shifted (Nat.le_add_right _ added)]
          rfl
      | some scaled =>
          rw [Option.bind_some, ofInt?_eq_some.mp shifted]
          congr 1
          cases negative with
          | true =>
              rw [if_pos rfl, signed_true, signed_true]
              omega
          | false =>
              rw [if_neg Bool.false_ne_true, signed_false, signed_false]
              omega

/-- The whole loop computes the checked form of the unbounded value. -/
theorem foldl_appendDigit (all : ∀ digit ∈ digits, digit.isDigit = true) :
    digits.foldl (appendDigit negative) (ofInt? (signed negative magnitude)) =
      ofInt? (signed negative (Nat.ofDigitChars 10 digits magnitude)) := by
  induction digits generalizing magnitude with
  | nil => rw [List.foldl_nil, Nat.ofDigitChars_nil]
  | cons digit rest inductionHypothesis =>
      rw [List.foldl_cons, appendDigit_ofInt? (all digit List.mem_cons_self),
        inductionHypothesis fun other member => all other (List.mem_cons_of_mem digit member),
        Nat.ofDigitChars_cons]

theorem ofDigits?_eq (all : ∀ digit ∈ digits, digit.isDigit = true) :
    ofDigits? negative digits = ofInt? (signed negative (Nat.ofDigitChars 10 digits 0)) := by
  have start : some 0 = ofInt? (signed negative 0) := by
    cases negative <;> rfl
  rw [ofDigits?, start, foldl_appendDigit all]

/-! ## Literals -/

/-- A value that is not a word is below the range exactly when it has a minus sign. -/
theorem ofInt_signed (negative : Bool) (magnitude : Nat) :
    Literal.ofInt (signed negative magnitude) =
      match ofInt? (signed negative magnitude) with
      | some word => .exact word
      | none => if negative then .belowRange else .aboveRange := by
  rw [Literal.ofInt]
  cases checked : ofInt? (signed negative magnitude) with
  | some word => rfl
  | none =>
      have outside := ofInt?_eq_none_iff.mp checked
      have side : signed negative magnitude < 0 ↔ negative = true := by
        cases negative with
        | true => simp [signed_true] at outside ⊢; omega
        | false => simp [signed_false]
      simp only [side]

/-- Reading behind a sign is reading the unbounded magnitude. -/
theorem read?_eq_of_takeSign {rest : List Char}
    (sign : takeSign (Text.trimStart text) = (negative, rest)) :
    Literal.read? text = (leadingNatural? rest).map (Literal.ofInt ∘ signed negative) := by
  have all : ∀ digit ∈ rest.takeWhile Char.isDigit, digit.isDigit = true :=
    List.all_eq_true.mp List.all_takeWhile
  rw [Literal.read?, leadingNatural?, sign]
  simp only [List.isEmpty_iff]
  split
  · rfl
  · rw [Option.map_some, Function.comp_apply, ofInt_signed, ofDigits?_eq all]
    cases ofInt? (signed negative _) <;> rfl

/-- The lenient reading is the unbounded reading, brought into range. -/
theorem read?_eq (text : List Char) :
    Literal.read? text = (leadingInteger? text).map Literal.ofInt := by
  rw [leadingInteger?, ← Text.trimStart]
  split
  all_goals
    rw [Option.map_map]
    apply read?_eq_of_takeSign
  · next same => rw [same, takeSign]
  · next same => rw [same, takeSign]
  · next minus plus => exact takeSign.eq_3 _ minus plus

example : leadingInteger? "\u00a0 -00012x3".toList = some (-12) := by decide

/-! ## Order -/

/-- Words are ordered as their values. -/
theorem compare_word (left right : Int64) :
    compare left right = compare left.toInt right.toInt := by
  have words : compare left right = compareOfLessAndEq left right := rfl
  have values : compare left.toInt right.toInt =
      compareOfLessAndEq left.toInt right.toInt := rfl
  rw [words, values, compareOfLessAndEq, compareOfLessAndEq]
  simp only [Int64.lt_iff_toInt_lt, Int64.toInt_inj]

/-- The order of a word relative to a literal is the order of the integers. -/
theorem order_ofInt (word : Int64) (value : Int) :
    Literal.order word (Literal.ofInt value) = compare word.toInt value := by
  rw [Literal.ofInt]
  cases checked : ofInt? value with
  | some exact =>
      rw [← ofInt?_eq_some.mp checked]
      exact compare_word word exact
  | none =>
      have aboveLeast := word.le_toInt
      have belowGreatest := word.toInt_lt
      rcases ofInt?_eq_none_iff.mp checked with below | above
      · have smaller : value < word.toInt := by omega
        have negative : value < 0 := by omega
        simp only [if_pos negative, Int.compare_eq_gt.mpr smaller]
        rfl
      · have greater : word.toInt < value := by omega
        have positive : ¬ value < 0 := by omega
        simp only [if_neg positive, Int.compare_eq_lt.mpr greater]
        rfl

/-! ## Printed words -/

variable {rest : List Char}

theorem isBlank_of_isDigit (isDigit : digit.isDigit = true) : Text.isBlank digit = false := by
  have bounds := Char.isDigit_iff_toNat.mp isDigit
  have least : '0'.toNat = 48 := rfl
  have greatest : '9'.toNat = 57 := rfl
  -- No range of blanks meets the range of the digits.
  simp only [Text.isBlank, Text.blankRanges, List.any_cons, List.any_nil, Bool.or_false,
    Bool.or_eq_false_iff, Bool.and_eq_false_iff, decide_eq_false_iff_not]
  omega

/-- A run of digits ends where no digit follows. -/
theorem takeWhile_isDigit_append {digits : List Char}
    (all : ∀ digit ∈ digits, digit.isDigit = true)
    (apart : ∀ head ∈ rest.head?, head.isDigit = false) :
    (digits ++ rest).takeWhile Char.isDigit = digits := by
  have stops : rest.takeWhile Char.isDigit = [] := by
    cases rest with
    | nil => rfl
    | cons head others => exact List.takeWhile_cons_of_neg (by simp [apart head rfl])
  rw [List.takeWhile_append_of_pos all, stops, List.append_nil]

/-- A number is read from its digits. -/
theorem leadingNatural?_toDigits (number : Nat)
    (apart : ∀ head ∈ rest.head?, head.isDigit = false) :
    leadingNatural? (Nat.toDigits 10 number ++ rest) = some number := by
  have digits : ∀ digit ∈ Nat.toDigits 10 number, digit.isDigit = true := fun digit member =>
    Nat.isDigit_of_mem_toDigits (by decide) (by decide) member
  rw [leadingNatural?, takeWhile_isDigit_append digits apart, if_neg Nat.toDigits_ne_nil,
    Nat.ofDigitChars_ten_toDigits]

/-- A text that starts with a digit is read without a sign. -/
theorem leadingInteger?_of_isDigit (isDigit : digit.isDigit = true) :
    leadingInteger? (digit :: rest) = (leadingNatural? (digit :: rest)).map (signed false) := by
  have kept : (digit :: rest).dropWhile Text.isBlank = digit :: rest :=
    List.dropWhile_cons_of_neg (by simp [isBlank_of_isDigit isDigit])
  rw [leadingInteger?, kept]
  split
  · next same =>
      rw [(List.cons.inj same).1] at isDigit
      exact absurd isDigit (by decide)
  · next same =>
      rw [(List.cons.inj same).1] at isDigit
      exact absurd isDigit (by decide)
  · rfl

/-- A printed word is read back with its value. -/
theorem leadingInteger?_decimal (word : Int64)
    (apart : ∀ head ∈ rest.head?, head.isDigit = false) :
    leadingInteger? (decimal word ++ rest) = some word.toInt := by
  have magnitude := leadingNatural?_toDigits word.toInt.natAbs apart
  by_cases negative : word.toInt < 0
  · have minus : (decimal word ++ rest).dropWhile Text.isBlank =
        '-' :: (Nat.toDigits 10 word.toInt.natAbs ++ rest) := by
      rw [decimal, if_pos negative]
      rfl
    have value : -(word.toInt.natAbs : Int) = word.toInt := by omega
    rw [leadingInteger?, minus]
    simp only [magnitude, Option.map_some, signed_true, value]
  · have plain : decimal word = Nat.toDigits 10 word.toInt.natAbs := if_neg negative
    have value : (word.toInt.natAbs : Int) = word.toInt := by omega
    rw [plain]
    cases digits : Nat.toDigits 10 word.toInt.natAbs with
    | nil => exact absurd digits Nat.toDigits_ne_nil
    | cons digit others =>
        have member : digit ∈ Nat.toDigits 10 word.toInt.natAbs := by
          rw [digits]
          exact List.mem_cons_self
        have isDigit : digit.isDigit = true :=
          Nat.isDigit_of_mem_toDigits (by decide) (by decide) member
        rw [digits, List.cons_append] at magnitude
        rw [List.cons_append, leadingInteger?_of_isDigit isDigit, magnitude, Option.map_some,
          signed_false, value]

/-! ## The characters of a decimal -/

theorem mem_decimal {word : Int64} {character : Char} (member : character ∈ decimal word) :
    character = '-' ∨ character.isDigit = true := by
  have digits : ∀ digit ∈ Nat.toDigits 10 word.toInt.natAbs, digit.isDigit = true :=
    fun digit present => Nat.isDigit_of_mem_toDigits (by decide) (by decide) present
  unfold decimal at member
  split at member
  · rcases List.mem_cons.mp member with sign | present
    · exact Or.inl sign
    · exact Or.inr (digits character present)
  · exact Or.inr (digits character member)

theorem decimal_ne_nil (word : Int64) : decimal word ≠ [] := by
  unfold decimal
  split
  · exact List.cons_ne_nil _ _
  · exact Nat.toDigits_ne_nil

/-- A decimal opens with a sign or a digit, which no bracket and no quotation mark is. -/
theorem head?_decimal_append {mark : Char} (word : Int64) (rest : List Char)
    (sign : mark ≠ '-') (digit : mark.isDigit = false) :
    (decimal word ++ rest).head? ≠ some mark := by
  cases written : decimal word with
  | nil => exact absurd written (decimal_ne_nil word)
  | cons head others =>
      intro same
      have member : head ∈ decimal word := written ▸ List.mem_cons_self
      rw [Option.some.inj same] at member
      rcases mem_decimal member with isSign | isDigit
      · exact sign isSign
      · exact absurd (isDigit.symm.trans digit) (by decide)

end Integer
end Tabular
