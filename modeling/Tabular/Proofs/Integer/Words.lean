import Tabular.Proofs.Integer.Classification

namespace Tabular
namespace Integer

/-!
# Texts that write words

A text is parsed exactly when it is a sign, or none, and a run of digits with a
word for its value.  Among the texts without a sign these are the runs of digits
that are not too large.  Only such texts are accepted for a column of numbers,
so parsing never meets anything else there.
-/

variable {text digits : List Char} {sign : Sign} {negative : Bool} {word running : Int64}
  {character : Char}

/-- What parsing makes of a value that was checked against the range. -/
def checked (negative : Bool) : Option Int64 → Except WordError Int64
  | some word => .ok word
  | none => .error (if negative then .tooSmall else .tooLarge)

theorem isDigitRun_iff : isDigitRun text = true ↔
    text ≠ [] ∧ ∀ character ∈ text, character.isDigit = true := by
  simp [isDigitRun]

/-! ## One character -/

theorem appendCharacter_of_isDigit (isDigit : character.isDigit = true) :
    appendCharacter negative running character =
      checked negative (appendDigit negative (some running) character) := by
  rw [appendCharacter, if_pos isDigit]
  cases appendDigit negative (some running) character <;> rfl

theorem isDigit_of_appendCharacter
    (appended : appendCharacter negative running character = .ok word) :
    character.isDigit = true := by
  unfold appendCharacter at appended
  split at appended
  · assumption
  · cases appended

/-! ## All characters -/

theorem foldl_appendDigit_none (negative : Bool) (digits : List Char) :
    digits.foldl (appendDigit negative) none = none := by
  induction digits with
  | nil => rfl
  | cons digit digits inductionHypothesis => exact inductionHypothesis

/-- On digits, parsing is the digit loop with a reason where that has none. -/
theorem foldlM_appendCharacter (digit : ∀ character ∈ digits, character.isDigit = true) :
    digits.foldlM (appendCharacter negative) running =
      checked negative (digits.foldl (appendDigit negative) (some running)) := by
  induction digits generalizing running with
  | nil => rfl
  | cons first digits inductionHypothesis =>
      rw [List.forall_mem_cons] at digit
      rw [List.foldlM_cons, List.foldl_cons, appendCharacter_of_isDigit digit.1]
      cases appendDigit negative (some running) first with
      | none =>
          rw [foldl_appendDigit_none]
          rfl
      | some next => exact inductionHypothesis digit.2

theorem isDigit_of_foldlM (parsed : digits.foldlM (appendCharacter negative) running = .ok word) :
    ∀ character ∈ digits, character.isDigit = true := by
  induction digits generalizing running with
  | nil => exact List.forall_mem_nil _
  | cons first digits inductionHypothesis =>
      rw [List.foldlM_cons] at parsed
      cases appended : appendCharacter negative running first with
      | error reason =>
          rw [appended] at parsed
          cases parsed
      | ok next =>
          rw [appended] at parsed
          exact List.forall_mem_cons.mpr
            ⟨isDigit_of_appendCharacter appended, inductionHypothesis parsed⟩

/-! ## Texts -/

theorem parse_written_append (unsigned : sign = .absent → Unsigned digits) (filled : digits ≠ []) :
    parse (sign.written ++ digits) = digits.foldlM (appendCharacter sign.isMinus) 0 := by
  have text : (sign.written ++ digits).isEmpty = false :=
    List.isEmpty_eq_false_iff.mpr (List.append_ne_nil_of_right_ne_nil _ filled)
  rw [parse, text, takeSign_written unsigned]
  simp only [List.isEmpty_eq_false_iff.mpr filled, Bool.false_eq_true, if_false]

/-- A sign and digits are parsed as their value, when that is a word. -/
theorem parse_of_digits (sign : Sign) (filled : digits ≠ [])
    (digit : ∀ character ∈ digits, character.isDigit = true) :
    parse (sign.written ++ digits) =
      checked sign.isMinus (ofInt? (signed sign.isMinus (Nat.ofDigitChars 10 digits 0))) := by
  have unsigned : sign = .absent → Unsigned digits := by
    intro _
    apply unsigned_of_isDigit
    intro head first
    exact digit head (List.mem_of_mem_head? first)
  rw [parse_written_append unsigned filled, foldlM_appendCharacter digit, ← ofDigits?_eq digit]
  rfl

theorem checked_eq_ok {value : Option Int64} :
    checked negative value = .ok word ↔ value = some word := by
  cases value with
  | none => simp [checked]
  | some other => simp [checked]

/-- Nothing but a sign and digits is parsed. -/
theorem parse_eq_ok_iff : parse text = .ok word ↔
    ∃ (sign : Sign) (digits : List Char), text = sign.written ++ digits ∧ digits ≠ [] ∧
      (∀ character ∈ digits, character.isDigit = true) ∧
      word.toInt = signed sign.isMinus (Nat.ofDigitChars 10 digits 0) := by
  constructor
  · intro parsed
    rcases exists_sign text with ⟨sign, digits, rfl, unsigned⟩
    have filled : digits ≠ [] := by
      rintro rfl
      cases sign <;> cases parsed
    have digit : ∀ character ∈ digits, character.isDigit = true := by
      rw [parse_written_append unsigned filled] at parsed
      exact isDigit_of_foldlM parsed
    rw [parse_of_digits sign filled digit, checked_eq_ok, ofInt?_eq_some] at parsed
    exact ⟨sign, digits, rfl, filled, digit, parsed⟩
  · rintro ⟨sign, digits, rfl, filled, digit, value⟩
    rw [parse_of_digits sign filled digit, checked_eq_ok, ofInt?_eq_some]
    exact value

/-- What is parsed is read as a literal of the same value. -/
theorem read?_of_parse (parsed : parse text = .ok word) :
    Literal.read? text = some (.exact word) := by
  rcases parse_eq_ok_iff.mp parsed with ⟨sign, digits, rfl, filled, digit, value⟩
  have read : Literal.read? ([] ++ (sign.written ++ (digits ++ []))) = _ :=
    read?_of_digits filled (List.forall_mem_nil _) digit nofun
  rw [List.nil_append, List.append_nil, ← value] at read
  rw [read, Option.some.injEq, ofInt_eq_iff]
  rfl

theorem parse_decimal (word : Int64) : parse (decimal word) = .ok word := by
  have filled : Nat.toDigits 10 word.toInt.natAbs ≠ [] := Nat.toDigits_ne_nil
  have digit : ∀ character ∈ Nat.toDigits 10 word.toInt.natAbs, character.isDigit = true :=
    fun character member => Nat.isDigit_of_mem_toDigits (by decide) (by decide) member
  rw [parse_eq_ok_iff]
  by_cases negative : word.toInt < 0
  · refine ⟨.minus, Nat.toDigits 10 word.toInt.natAbs, if_pos negative, filled, digit, ?_⟩
    rw [Nat.ofDigitChars_ten_toDigits]
    change word.toInt = -(word.toInt.natAbs : Int)
    omega
  · refine ⟨.absent, Nat.toDigits 10 word.toInt.natAbs, if_neg negative, filled, digit, ?_⟩
    rw [Nat.ofDigitChars_ten_toDigits]
    change word.toInt = (word.toInt.natAbs : Int)
    omega

/-! ## Runs of digits -/

theorem parse_of_isDigitRun (run : isDigitRun text = true) :
    parse text = checked false (ofInt? (Nat.ofDigitChars 10 text 0)) := by
  rcases isDigitRun_iff.mp run with ⟨filled, digit⟩
  exact parse_of_digits .absent filled digit

/-- Of a run of digits only the size is in question. -/
theorem parse_isOk_iff (run : isDigitRun text = true) :
    (parse text).isOk = true ↔ Nat.ofDigitChars 10 text 0 ≤ 2 ^ 63 - 1 := by
  rw [parse_of_isDigitRun run]
  cases value : ofInt? (Nat.ofDigitChars 10 text 0) with
  | some word =>
      have bound := word.toInt_lt
      rw [ofInt?_eq_some.mp value] at bound
      simp only [checked, Except.isOk, Except.toBool, true_iff]
      omega
  | none =>
      have outside := ofInt?_eq_none_iff.mp value
      simp only [checked, Except.isOk, Except.toBool, Bool.false_eq_true, false_iff]
      omega

theorem value_of_parse (run : isDigitRun text = true) (parsed : parse text = .ok word) :
    word.toInt = Nat.ofDigitChars 10 text 0 := by
  rw [parse_of_isDigitRun run, checked_eq_ok, ofInt?_eq_some] at parsed
  exact parsed

/-- A digit too many is met before the letter behind it, and a lone sign writes nothing. -/
example : parse "-9223372036854775808".toList = .ok Int64.minValue ∧
    parse "92233720368547758080x".toList = .error .tooLarge ∧
    parse "+".toList = .error .invalidDigit ∧ parse [] = .error .empty := by
  decide +kernel

end Integer
end Tabular
