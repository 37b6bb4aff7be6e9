import Mathlib.Data.List.Nodup
import Tabular.Proofs.Schema.Collecting

namespace Tabular
namespace Schema

/-!
# Schemas of typed rows

A cell changes only what is known of its own name.  A text settles the kind
under its name for good, and a number says something only when the name is new.
So a column holds texts exactly when some row has a text in it.  Only the order
of the columns depends on the order of the rows.
-/

variable {schema : Schema} {columns : List (String × Kind)} {cells : List (String × Cell)}
  {name other : String} {kind : Kind} {rows others : List Row}

/-- What a schema says of rows that it was collected from. -/
structure Describes (schema : Schema) (rows : List Row) : Prop where
  distinct : schema.names.Nodup
  /-- A name that occurs earlier is listed earlier. -/
  ordered : schema.names.Pairwise fun early late =>
    (rows.flatMap Row.columns).idxOf early < (rows.flatMap Row.columns).idxOf late
  listed : ∀ name, name ∈ schema.names ↔ ∃ row ∈ rows, name ∈ row.columns
  number : ∀ name, schema.kind? name = some .number ↔
    (∃ row ∈ rows, name ∈ row.columns) ∧
      ∀ row ∈ rows, name ∈ row.columns → ∃ word, row.get? name = some (.number word)
  text : ∀ name, schema.kind? name = some .text ↔
    ∃ row ∈ rows, ∃ content, row.get? name = some (.text content)

/-! ## The order of the names -/

theorem pairwise_idxOf_eraseDups (names : List String) :
    names.eraseDups.Pairwise fun early late => names.idxOf early < names.idxOf late := by
  induction names using List.reverseRecOn with
  | nil => exact .nil
  | append_singleton names name inductionHypothesis =>
      -- A further name does not move the first places of the names in front of it.
      have kept : names.eraseDups.Pairwise fun early late =>
          (names ++ [name]).idxOf early < (names ++ [name]).idxOf late := by
        apply inductionHypothesis.imp_of_mem
        intro early late memberEarly memberLate before
        rw [List.mem_eraseDups] at memberEarly memberLate
        rwa [List.idxOf_append_of_mem memberEarly, List.idxOf_append_of_mem memberLate]
      rw [Row.eraseDups_concat]
      split
      · exact kept
      · next absent =>
          refine List.pairwise_append.mpr ⟨kept, List.pairwise_singleton .., ?_⟩
          intro early memberEarly late memberLate
          rw [List.mem_eraseDups] at memberEarly
          rw [List.mem_singleton.mp memberLate, List.idxOf_append_of_mem memberEarly,
            List.idxOf_append_of_notMem absent]
          exact Nat.lt_of_lt_of_le (List.idxOf_lt_length_of_mem memberEarly) (Nat.le_add_right ..)

theorem nodup_of_pairwise_idxOf {names sources : List String}
    (ordered : names.Pairwise fun early late => sources.idxOf early < sources.idxOf late) :
    names.Nodup := by
  apply ordered.imp
  intro early late before same
  rw [same] at before
  exact Nat.lt_irrefl _ before

/-! ## One cell -/

/-- A cell settles what is known of its name, or leaves it, and changes nothing else. -/
theorem lookup_note (name other : String) (kind : Kind) (columns : List (String × Kind)) :
    (note name kind columns).lookup other =
      if other = name then
        some (if kind = .text then .text else (columns.lookup name).getD kind)
      else columns.lookup other := by
  induction columns with
  | nil =>
      rw [note, Row.lookup_cons_eq_ite]
      cases kind <;> rfl
  | cons column rest inductionHypothesis =>
      rw [note]
      by_cases same : column.1 = name
      · rw [if_pos same, Row.lookup_cons_eq_ite, Row.lookup_cons_eq_ite, Row.lookup_cons_eq_ite,
          if_pos same.symm, same]
        by_cases asked : other = name
        · rw [if_pos asked, if_pos asked]
          rfl
        · rw [if_neg asked, if_neg asked, if_neg asked]
      · rw [if_neg same, Row.lookup_cons_eq_ite, inductionHypothesis, Row.lookup_cons_eq_ite,
          Row.lookup_cons_eq_ite, if_neg (Ne.symm same)]
        by_cases asked : other = column.1
        · have different : other ≠ name := fun equal => same (asked.symm.trans equal)
          rw [if_pos asked, if_neg different, if_pos asked]
        · rw [if_neg asked, if_neg asked]

/-- A name becomes a column of texts by a text, and does not cease to be one. -/
theorem lookup_note_eq_text_iff : (note name kind columns).lookup other = some .text ↔
    columns.lookup other = some .text ∨ other = name ∧ kind = .text := by
  rw [lookup_note]
  by_cases asked : other = name
  · subst asked
    rw [if_pos rfl, Option.some.injEq]
    cases kind with
    | text => simp
    | number => cases columns.lookup other <;> simp
  · rw [if_neg asked]
    simp only [asked, false_and, or_false]

/-! ## All cells -/

theorem lookup_foldl_note_eq_text_iff :
    (cells.foldl (fun columns entry => note entry.1 entry.2.kind columns) []).lookup name =
        some .text ↔
      ∃ content, (name, .text content) ∈ cells := by
  induction cells using List.reverseRecOn with
  | nil => simp
  | append_singleton cells entry inductionHypothesis =>
      have last : name = entry.1 ∧ entry.2.kind = .text ↔
          ∃ content, (name, .text content) = entry := by
        rcases entry with ⟨other, cell⟩
        cases cell <;> simp [Cell.kind, eq_comm]
      rw [List.foldl_concat, lookup_note_eq_text_iff, inductionHypothesis, last]
      simp only [List.mem_append, List.mem_singleton, exists_or]

theorem kind?_ofRows_eq_text_iff : (ofRows rows).kind? name = some .text ↔
    ∃ row ∈ rows, ∃ content, row.get? name = some (.text content) := by
  rw [kind?, ofRows, lookup_foldl_note_eq_text_iff]
  simp only [List.mem_flatMap, Row.mem_cells_iff]
  constructor
  · intro seen
    rcases seen with ⟨content, row, member, found⟩
    exact ⟨row, member, content, found⟩
  · intro seen
    rcases seen with ⟨row, member, content, found⟩
    exact ⟨content, row, member, found⟩

theorem mem_names_ofRows_iff : name ∈ (ofRows rows).names ↔ ∃ row ∈ rows, name ∈ row.columns := by
  rw [names_ofRows, List.mem_eraseDups, List.mem_flatMap]

/-- A listed name has a kind, and it is one of two. -/
theorem kind?_eq_number_iff :
    schema.kind? name = some .number ↔ name ∈ schema.names ∧ schema.kind? name ≠ some .text := by
  have listed : name ∈ schema.names ↔ (schema.kind? name).isSome = true := by
    rw [kind?, List.lookup_isSome_iff, names, List.mem_map]
    simp only [beq_iff_eq, @eq_comm _ name]
  rw [listed]
  cases schema.kind? name with
  | none => simp
  | some kind => cases kind <;> simp

theorem kind?_ofRows_eq_number_iff : (ofRows rows).kind? name = some .number ↔
    (∃ row ∈ rows, name ∈ row.columns) ∧
      ∀ row ∈ rows, name ∈ row.columns → ∃ word, row.get? name = some (.number word) := by
  rw [kind?_eq_number_iff, mem_names_ofRows_iff, Ne, kind?_ofRows_eq_text_iff]
  refine and_congr_right fun _ => ⟨?_, ?_⟩
  · intro textless row member held
    rcases Row.mem_columns_iff.mp held with ⟨cell, found⟩
    cases cell with
    | number word => exact ⟨word, found⟩
    | text content => exact absurd ⟨row, member, content, found⟩ textless
  · intro numeric seen
    rcases seen with ⟨row, member, content, found⟩
    rcases numeric row member (Row.mem_columns_iff.mpr ⟨_, found⟩) with ⟨word, number⟩
    cases found.symm.trans number

/-! ## The schema as a whole -/

theorem describes_ofRows (rows : List Row) : Describes (ofRows rows) rows where
  distinct := by
    rw [names_ofRows]
    exact nodup_of_pairwise_idxOf (pairwise_idxOf_eraseDups _)
  ordered := by
    rw [names_ofRows]
    exact pairwise_idxOf_eraseDups _
  listed _ := mem_names_ofRows_iff
  number _ := kind?_ofRows_eq_number_iff
  text _ := kind?_ofRows_eq_text_iff

/-- The kinds of the columns depend on which rows there are, and on nothing else. -/
theorem kind?_ofRows_congr (same : ∀ row, row ∈ rows ↔ row ∈ others) (name : String) :
    (ofRows rows).kind? name = (ofRows others).kind? name := by
  apply Option.ext
  intro kind
  cases kind with
  | number => simp only [kind?_ofRows_eq_number_iff, same]
  | text => simp only [kind?_ofRows_eq_text_iff, same]

theorem mem_columns_iff (distinct : schema.names.Nodup) :
    (name, kind) ∈ schema.columns ↔ schema.kind? name = some kind :=
  ⟨Row.lookup_of_mem distinct, Row.mem_of_lookup⟩

/-- There is no other schema that the description fits. -/
theorem Describes.unique {left right : Schema} (one : Describes left rows)
    (two : Describes right rows) : left = right := by
  have kinds : ∀ name, left.kind? name = right.kind? name := by
    intro name
    apply Option.ext
    intro kind
    cases kind with
    | number => exact (one.number name).trans (two.number name).symm
    | text => exact (one.text name).trans (two.text name).symm
  have perm : left.columns.Perm right.columns := by
    rw [List.perm_ext_iff_of_nodup (List.Nodup.of_map Prod.fst one.distinct)
      (List.Nodup.of_map Prod.fst two.distinct)]
    intro column
    rcases column with ⟨name, kind⟩
    rw [mem_columns_iff one.distinct, mem_columns_iff two.distinct, kinds]
  -- Of two columns one precedes the other, so the same columns stand in the same order.
  have orderedLeft := List.pairwise_map.mp one.ordered
  have orderedRight := List.pairwise_map.mp two.ordered
  have same : left.columns = right.columns := by
    apply perm.eq_of_pairwise _ orderedLeft orderedRight
    intro column other _ _ before after
    exact absurd before (Nat.lt_asymm after)
  cases left
  cases right
  cases same
  rfl

/-- The schema of rows lists the names they hold as they first occur, without
repetition, and each with the kind of its cells.  There is one such schema.  The
kinds stay when the rows are put into another order, and of rows that are joined
either part can make a column one of texts. -/
theorem ofRows_describes (rows : List Row) :
    Describes (ofRows rows) rows ∧
    (∀ schema, Describes schema rows → schema = ofRows rows) ∧
    (∀ others, rows.Perm others →
      ∀ name, (ofRows others).kind? name = (ofRows rows).kind? name) ∧
    (∀ later name, (ofRows (rows ++ later)).kind? name = some .text ↔
      (ofRows rows).kind? name = some .text ∨ (ofRows later).kind? name = some .text) := by
  refine ⟨describes_ofRows rows, ?_, ?_, ?_⟩
  · intro schema described
    exact described.unique (describes_ofRows rows)
  · intro others perm name
    exact kind?_ofRows_congr (fun row => perm.symm.mem_iff) name
  · intro later name
    simp only [kind?_ofRows_eq_text_iff, List.mem_append, or_and_right, exists_or]

/-- A number in the last row does not undo the text of the first. -/
example : (ofRows [.ofCells [("id", .text "x")], .ofCells [("age", .number 30), ("id", .number 1)],
    .ofCells [("id", .number 2), ("name", .text "John")]]).columns =
      [("id", .text), ("age", .number), ("name", .text)] := by
  decide

end Schema
end Tabular
