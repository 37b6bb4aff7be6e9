import Tabular.Proofs.Table.Positions
import Tabular.Proofs.Table.Reordering

namespace Tabular
namespace Schema

open Log

/-!
# Columns of digits

A position that some record reaches, and at which there are only runs of digits,
holds numbers when all values fit.  Otherwise it holds texts, and inference
warns of it.  All other positions hold texts without a warning.

The pass that decides on the warning stops early, so how far it gets depends on
the order of the records.  Its flag counts only when the pass came to the end,
and then every value has been seen.
-/

variable {ε : Type} {header : List String} {records others : List (List String)}
  {fields : List String} {field padded name : String} {position : Nat}

/-- A position at which there are fields, and only runs of digits. -/
structure DigitsAt (records : List (List String)) (position : Nat) : Prop where
  reached : ∃ record ∈ records, position < record.length
  runs : ∀ record ∈ records, ∀ field, record[position]? = some field → DigitRun field

/-- A position of runs of digits, one of them with a value outside the range. -/
structure OversizedAt (records : List (List String)) (position : Nat) : Prop
    extends DigitsAt records position where
  large : ∃ record ∈ records, ∃ field, record[position]? = some field ∧
    2 ^ 63 - 1 < Nat.ofDigitChars 10 field.toList 0

/-! ## One column -/

/-- A run of digits does not stop the pass and adds its size to the flag. -/
theorem DigitRun.scanDigits_cons (run : DigitRun field) (large : Bool) (rest : List String) :
    scanDigits large (field :: rest) = scanDigits (large || !isNumeral field) rest := by
  simp only [scanDigits, isDigitRun_iff.mpr run, Bool.true_and, if_true]

/-- Any other field stops the pass and leaves the flag as it is. -/
theorem scanDigits_cons_of_not (mixed : ¬ DigitRun field) (large : Bool) (rest : List String) :
    scanDigits large (field :: rest) = (false, large) := by
  simp only [scanDigits, Bool.eq_false_iff.mpr (mt isDigitRun_iff.mp mixed), Bool.false_and,
    Bool.or_false, Bool.false_eq_true, if_false]

/-- A pass that comes to the end has seen every value, so its flag is about all of them. -/
theorem scanDigits_iff {large : Bool} :
    (scanDigits large fields).1 = true ∧ (scanDigits large fields).2 = true ↔
      (∀ field ∈ fields, DigitRun field) ∧
        (large = true ∨ ∃ field ∈ fields, 2 ^ 63 - 1 < Nat.ofDigitChars 10 field.toList 0) := by
  induction fields generalizing large with
  | nil => simp [scanDigits]
  | cons field rest inductionHypothesis =>
      rw [List.forall_mem_cons, List.exists_mem_cons_iff]
      by_cases run : DigitRun field
      · have size : (!isNumeral field) = true ↔
            2 ^ 63 - 1 < Nat.ofDigitChars 10 field.toList 0 := by
          rw [Bool.not_eq_true', ← Bool.not_eq_true, run.isNumeral_iff, Nat.not_le]
        rw [run.scanDigits_cons, inductionHypothesis, Bool.or_eq_true, size, or_assoc,
          and_iff_right run]
      · rw [scanDigits_cons_of_not run]
        simp only [run, Bool.false_eq_true, false_and]

theorem overflows_iff : overflows fields = true ↔
    (∀ field ∈ fields, DigitRun field) ∧
      ∃ field ∈ fields, 2 ^ 63 - 1 < Nat.ofDigitChars 10 field.toList 0 := by
  simp only [overflows, Bool.and_eq_true, scanDigits_iff, Bool.false_eq_true, false_or]

theorem overflows_fieldsAt_iff :
    overflows (fieldsAt position records) = true ↔ OversizedAt records position := by
  rw [overflows_iff]
  simp only [mem_fieldsAt_iff]
  constructor
  · rintro ⟨runs, field, ⟨record, member, found⟩, large⟩
    exact
      { reached := ⟨record, member, (List.getElem?_eq_some_iff.mp found).1⟩
        runs := fun record member field found => runs field ⟨record, member, found⟩
        large := ⟨record, member, field, found, large⟩ }
  · rintro ⟨⟨-, runs⟩, record, member, field, found, large⟩
    refine ⟨?_, field, ⟨record, member, found⟩, large⟩
    rintro field ⟨record, member, found⟩
    exact runs record member field found

instance : Decidable (OversizedAt records position) :=
  decidable_of_iff _ overflows_fieldsAt_iff

theorem NumericAt.digitsAt (numeric : NumericAt records position) : DigitsAt records position where
  reached := numeric.reached
  runs record member field found := (numeric.fits record member field found).toDigitRun

/-- Among runs of digits the two questions have opposite answers. -/
theorem DigitsAt.numericAt_iff (digits : DigitsAt records position) :
    NumericAt records position ↔ ¬ OversizedAt records position := by
  constructor
  · rintro numeric ⟨-, record, member, field, found, large⟩
    exact Nat.not_le_of_lt large (numeric.fits record member field found).bounded
  · intro small
    refine ⟨digits.reached, ?_⟩
    intro record member field found
    refine ⟨digits.runs record member field found, ?_⟩
    by_contra large
    exact small ⟨digits, record, member, field, found, Nat.lt_of_not_le large⟩

/-- The kind of a column, and whether there is a warning of it. -/
theorem kindOf_fieldsAt_split (records : List (List String)) (position : Nat) :
    (DigitsAt records position →
      (kindOf (fieldsAt position records) = .number ↔ ¬ OversizedAt records position)) ∧
    (¬ DigitsAt records position →
      kindOf (fieldsAt position records) = .text ∧ ¬ OversizedAt records position) := by
  rw [kindOf_fieldsAt_eq_number_iff]
  refine ⟨DigitsAt.numericAt_iff, ?_⟩
  intro mixed
  refine ⟨?_, fun oversized => mixed oversized.toDigitsAt⟩
  cases kind : kindOf (fieldsAt position records) with
  | text => rfl
  | number => exact absurd (kindOf_fieldsAt_eq_number_iff.mp kind).digitsAt mixed

/-! ## Warnings -/

theorem inferColumn_events (name : String) (records : List (List String)) (position : Nat) :
    (inferColumn name (fieldsAt position records) : Logged ε (String × Kind)).events =
      if OversizedAt records position then [.digitsOutOfRange name] else [] := by
  have condition : kindOf (fieldsAt position records) = .text ∧
      overflows (fieldsAt position records) = true ↔ OversizedAt records position := by
    rw [overflows_fieldsAt_iff, and_iff_right_iff_imp]
    intro oversized
    have split := (kindOf_fieldsAt_split records position).1 oversized.toDigitsAt
    cases kind : kindOf (fieldsAt position records) with
    | text => rfl
    | number => exact absurd oversized (split.mp kind)
  simp only [inferColumn, condition]
  split <;> rfl

/-- Results of the values that pass a test, each in a list of its own. -/
theorem flatMap_ite_singleton {α β : Type} (test : α → Prop) [DecidablePred test] (result : α → β)
    (values : List α) : (values.flatMap fun value => if test value then [result value] else []) =
      (values.filter test).map result := by
  induction values with
  | nil => rfl
  | cons value values inductionHypothesis =>
      rw [List.flatMap_cons, inductionHypothesis]
      by_cases passes : test value <;> simp [passes]

/-- Warnings come in the order of the positions, one for each that is oversized. -/
theorem infer_events (header : List String) (records : List (List String)) :
    (infer header records : Logged ε Schema).events =
      (header.zipIdx.filter fun named => OversizedAt records named.2).map fun named =>
        .digitsOutOfRange named.1 := by
  have succeeds : ∀ named ∈ header.zipIdx, ∃ column,
      (inferColumn named.1 (fieldsAt named.2 records) : Logged ε (String × Kind)).outcome =
        .ok column :=
    fun named _ => ⟨_, inferColumn_outcome named.1 (fieldsAt named.2 records)⟩
  have columns : (infer header records : Logged ε Schema).events =
      (header.zipIdx.mapM fun named =>
        (inferColumn named.1 (fieldsAt named.2 records) : Logged ε (String × Kind))).events := by
    rw [infer, Logged.bind_events]
    split <;> simp
  rw [columns, Logged.mapM_events succeeds]
  simp only [inferColumn_events]
  exact flatMap_ite_singleton (fun named => OversizedAt records named.2)
    (fun named => Event.digitsOutOfRange named.1) header.zipIdx

/-! ## What makes no difference -/

/-- Inference goes by two answers about each position. -/
theorem infer_congr (kinds : ∀ position,
      kindOf (fieldsAt position records) = kindOf (fieldsAt position others))
    (sizes : ∀ position,
      overflows (fieldsAt position records) = overflows (fieldsAt position others)) :
    (infer header records : Logged ε Schema) = infer header others := by
  simp only [infer, inferColumn, kinds, sizes]

theorem overflows_perm {columns : List String} (perm : fields.Perm columns) :
    overflows fields = overflows columns := by
  rw [Bool.eq_iff_iff, overflows_iff, overflows_iff]
  simp only [perm.mem_iff]

theorem infer_perm (perm : records.Perm others) :
    (infer header records : Logged ε Schema) = infer header others := by
  have samePosition (position : Nat) :
      (fieldsAt position records).Perm (fieldsAt position others) :=
    perm.filterMap fun record => record[position]?
  exact infer_congr (fun position => kindOf_perm (samePosition position))
    (fun position => overflows_perm (samePosition position))

/-- A field and what may stand in its place, with zeros in front if it is a run of digits. -/
inductive ZeroPadded : String → String → Prop where
  | same (field : String) : ZeroPadded field field
  | zeros {field : String} (run : DigitRun field) (count : Nat) :
      ZeroPadded field (String.ofList (List.replicate count '0' ++ field.toList))

theorem ZeroPadded.digitRun_iff (pads : ZeroPadded field padded) :
    DigitRun padded ↔ DigitRun field := by
  cases pads with
  | same => rfl
  | zeros run count =>
      refine iff_of_true ?_ run
      have filled := mt String.toList_eq_nil_iff.mp run.filled
      refine ⟨?_, ?_⟩
      · rw [Ne, String.ofList_eq_empty_iff]
        exact List.append_ne_nil_of_right_ne_nil _ filled
      · rw [String.toList_ofList]
        intro character member
        rcases List.mem_append.mp member with zero | digit
        · rw [List.eq_of_mem_replicate zero]
          rfl
        · exact run.digits character digit

theorem ZeroPadded.value_eq (pads : ZeroPadded field padded) :
    Nat.ofDigitChars 10 padded.toList 0 = Nat.ofDigitChars 10 field.toList 0 := by
  cases pads with
  | same => rfl
  | zeros run count =>
      rw [String.toList_ofList, Nat.ofDigitChars_append, Nat.ofDigitChars_replicate_zero,
        Nat.mul_zero]

theorem ZeroPadded.isDigitRun_eq (pads : ZeroPadded field padded) :
    Integer.isDigitRun padded.toList = Integer.isDigitRun field.toList := by
  rw [Bool.eq_iff_iff, isDigitRun_iff, isDigitRun_iff, pads.digitRun_iff]

theorem ZeroPadded.isNumeral_eq (pads : ZeroPadded field padded) :
    isNumeral padded = isNumeral field := by
  rw [Bool.eq_iff_iff, isNumeral_iff, isNumeral_iff]
  constructor
  · intro fits
    exact ⟨pads.digitRun_iff.mp fits.toDigitRun, pads.value_eq ▸ fits.bounded⟩
  · intro fits
    exact ⟨pads.digitRun_iff.mpr fits.toDigitRun, pads.value_eq ▸ fits.bounded⟩

theorem kindOf_zeroPadded {written : List String}
    (pads : List.Forall₂ ZeroPadded fields written) : kindOf fields = kindOf written := by
  have numerals : fields.all isNumeral = written.all isNumeral := by
    induction pads with
    | nil => rfl
    | cons pads _ inductionHypothesis =>
        rw [List.all_cons, List.all_cons, pads.isNumeral_eq, inductionHypothesis]
  have empty : fields.isEmpty = written.isEmpty := by
    cases pads <;> rfl
  rw [kindOf, kindOf, numerals, empty]

theorem scanDigits_zeroPadded {written : List String} (large : Bool)
    (pads : List.Forall₂ ZeroPadded fields written) :
    scanDigits large fields = scanDigits large written := by
  induction pads generalizing large with
  | nil => rfl
  | cons pads _ inductionHypothesis =>
      simp only [scanDigits, pads.isDigitRun_eq, pads.isNumeral_eq, inductionHypothesis]

theorem getElem?_rel_of_forall₂ {α : Type} {relation : α → α → Prop} {left right : List α}
    (each : List.Forall₂ relation left right) (position : Nat) :
    Option.Rel relation left[position]? right[position]? := by
  induction each generalizing position with
  | nil => exact .none
  | cons first _ inductionHypothesis =>
      cases position with
      | zero => exact .some first
      | succ position => exact inductionHypothesis position

theorem infer_zeroPadded (pads : List.Forall₂ (List.Forall₂ ZeroPadded) records others) :
    (infer header records : Logged ε Schema) = infer header others := by
  have samePosition (position : Nat) :
      List.Forall₂ ZeroPadded (fieldsAt position records) (fieldsAt position others) :=
    List.rel_filterMap (fun _ _ each => getElem?_rel_of_forall₂ each position) pads
  refine infer_congr (fun position => kindOf_zeroPadded (samePosition position)) ?_
  intro position
  rw [overflows, overflows, scanDigits_zeroPadded false (samePosition position)]

/-- A schema always comes out, with the columns that the header names.  Where
there are only runs of digits, the column holds numbers or there is a warning
of it, never both; everywhere else it holds texts without a warning.  The
order of the records and zeros in front of digits do not matter. -/
theorem infer_oversized (header : List String) (records : List (List String)) :
    (∃ schema, (infer header records : Logged ε Schema).outcome = .ok schema ∧
      schema.names = header ∧
      ∀ position name kind, schema.columns[position]? = some (name, kind) →
        (DigitsAt records position → (kind = .number ↔ ¬ OversizedAt records position)) ∧
        (¬ DigitsAt records position → kind = .text ∧ ¬ OversizedAt records position)) ∧
    (infer header records : Logged ε Schema).events =
      ((header.zipIdx.filter fun named => OversizedAt records named.2).map fun named =>
        .digitsOutOfRange named.1) ∧
    (∀ others, records.Perm others →
      (infer header others : Logged ε Schema) = infer header records) ∧
    (∀ others, List.Forall₂ (List.Forall₂ ZeroPadded) records others →
      (infer header others : Logged ε Schema) = infer header records) := by
  refine ⟨⟨inferred header records, infer_outcome header records,
      inferred_names header records, ?_⟩, infer_events header records,
    fun _ perm => (infer_perm perm).symm, fun _ pads => (infer_zeroPadded pads).symm⟩
  intro position name kind column
  rw [inferred_columns_getElem?] at column
  rcases Option.map_eq_some_iff.mp column with ⟨_, -, same⟩
  obtain ⟨-, rfl⟩ := Prod.mk.inj same
  exact kindOf_fieldsAt_split records position

/-- The largest value fits, and the sign of the last column rules out a warning. -/
example : (infer ["at", "over", "signed"] [["9223372036854775807", "9223372036854775808", "9"],
    ["0", "007", "-9223372036854775808"]] : Logged Unit Schema).events =
      [.digitsOutOfRange "over"] := by
  decide +kernel

end Schema
end Tabular
