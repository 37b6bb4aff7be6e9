import Tabular.Proofs.Delimited.Records
import Tabular.Proofs.Table.Typing

namespace Tabular

open Log Delimited

/-!
# Records in another order

The kind of a column is settled by the fields that stand in it, in whatever
order they come, and whether a line offends by the line and the header.  Hence
one function from lines to rows serves all orders of the records: the rows of a
table are what it makes of the lines, each in its place.
-/

namespace Schema

variable {fields others : List String} {records otherRecords : List (List String)}

theorem kindOf_perm (perm : fields.Perm others) : kindOf fields = kindOf others := by
  rw [kindOf, kindOf, perm.isEmpty_eq, perm.all_eq]

/-- The order of the records does not get into the schema. -/
theorem inferred_perm (perm : records.Perm otherRecords) (header : List String) :
    inferred header records = inferred header otherRecords := by
  rw [inferred, inferred]
  congr 1
  apply List.map_congr_left
  intro named _
  have samePosition := perm.filterMap fun record => record[named.2]?
  exact congrArg (Prod.mk named.1) (kindOf_perm samePosition)

end Schema

/-- When a partial function answers everywhere along a list, its answers are
those that filtering collects. -/
theorem map_eq_map_some_iff {α β : Type} {values : List α} {results : List β}
    {answer? : α → Option β} : values.map answer? = results.map some ↔
      results = values.filterMap answer? ∧ ∀ value ∈ values, (answer? value).isSome = true := by
  constructor
  · intro each
    have collected := congrArg (List.filterMap id) each
    rw [List.filterMap_map, List.filterMap_map, Function.id_comp, Function.id_comp,
      List.filterMap_some] at collected
    refine ⟨collected.symm, ?_⟩
    intro value member
    have among : answer? value ∈ results.map some := each ▸ List.mem_map_of_mem member
    rcases List.mem_map.mp among with ⟨result, -, same⟩
    rw [← same]
    rfl
  · rintro ⟨rfl, answered⟩
    rw [List.map_filterMap]
    induction values with
    | nil => rfl
    | cons value others inductionHypothesis =>
        rw [List.forall_mem_cons] at answered
        rcases Option.isSome_iff_exists.mp answered.1 with ⟨result, found⟩
        rw [List.map_cons, List.filterMap_cons, found, inductionHypothesis answered.2]
        rfl

namespace Table

variable {format : Format} {text otherText : String} {table other : Table}
  {header content : List Char} {lines others rest otherRest : List (List Char)}
  {names : List String}

/-- The row of a line, or nothing when the line is blank. -/
def rowOfLine? (format : Format) (width : Nat) (schema : Schema) (line : List Char) : Option Row :=
  if Text.trim line = [] then none
  else (format.recordOf? width line).bind fun record => (rowOf schema record).toOption

/-- The table of a header and records, each of them from one line. -/
structure MadeFromLines (format : Format) (names : List String) (rest : List (List Char))
    (table : Table) : Prop where
  answered : ∀ line ∈ rest, (format.recordOf? names.length line).isSome = true
  made : (ofDocument ⟨names.map trimmedName,
    rest.filterMap (format.recordOf? names.length)⟩).outcome = .ok table

/-- Behind a header line that is not blank, loading is reading the other lines one by one. -/
theorem ofText_eq_ok_iff_madeFromLines (shown : visibleLines (Text.lines text) = content :: rest) :
    (ofText format text).outcome = .ok table ↔
      ∃ names, fields? format.delimiter content = some names ∧
        MadeFromLines format names rest table := by
  rw [ofText, ofLines_eq_ok]
  constructor
  · rintro (⟨document, read, made⟩ | ⟨read, -⟩)
    · rcases readDocument_eq_some.mp read with ⟨_, _, names, same, named, renamed, each⟩
      cases shown.symm.trans same
      rcases map_eq_map_some_iff.mp each with ⟨records, answered⟩
      refine ⟨names, named, answered, ?_⟩
      rw [← renamed, ← records]
      exact made
    · cases shown.symm.trans (visibleLines_eq_nil read)
  · rintro ⟨names, named, table⟩
    have each := map_eq_map_some_iff.mpr ⟨rfl, table.answered⟩
    exact Or.inl ⟨_, readDocument_eq_some.mpr ⟨content, rest, names, shown, named, rfl, each⟩,
      table.made⟩

/-! ## Rows from lines -/

/-- The rows are what the lines are made into, each by itself. -/
theorem MadeFromLines.rows_eq (made : MadeFromLines format names rest table) :
    table.rows = rest.filterMap fun line =>
      (format.recordOf? names.length line).bind fun record =>
        (rowOf table.schema record).toOption := by
  have typed := congrArg (List.filterMap Except.toOption) (ofDocument_eq_ok.mp made.made).2
  rw [List.filterMap_map, List.filterMap_filterMap, List.filterMap_map] at typed
  calc
    table.rows = table.rows.filterMap (Except.toOption ∘ Except.ok) := List.filterMap_some.symm
    _ = _ := typed.symm

/-- Every line has a row. -/
theorem MadeFromLines.isSome_row (made : MadeFromLines format names rest table)
    {line : List Char} (member : line ∈ rest) :
    ((format.recordOf? names.length line).bind fun record =>
      (rowOf table.schema record).toOption).isSome = true := by
  rcases Option.isSome_iff_exists.mp (made.answered line member) with ⟨record, found⟩
  have among : record ∈ rest.filterMap (format.recordOf? names.length) :=
    List.mem_filterMap.mpr ⟨line, member, found⟩
  have typed : rowOf table.schema record ∈ table.rows.map .ok := by
    rw [← (ofDocument_eq_ok.mp made.made).2]
    exact List.mem_map_of_mem among
  rcases List.mem_map.mp typed with ⟨row, -, same⟩
  rw [found, Option.bind_some, ← same]
  rfl

theorem MadeFromLines.rows_eq_filterMap_rowOfLine?
    (made : MadeFromLines format names (lines.filter (Text.trim · ≠ [])) table) :
    table.rows = lines.filterMap (rowOfLine? format names.length table.schema) := by
  rw [made.rows_eq, List.filterMap_filter]
  apply List.filterMap_congr
  intro line _
  by_cases blank : Text.trim line = []
  · simp [rowOfLine?, blank]
  · simp [rowOfLine?, blank]

theorem MadeFromLines.rowOfLine?_eq_none_iff
    (made : MadeFromLines format names (lines.filter (Text.trim · ≠ [])) table)
    {line : List Char} (member : line ∈ lines) :
    rowOfLine? format names.length table.schema line = none ↔
      ∀ character ∈ line, Text.isBlank character = true := by
  rw [← Text.trim_eq_nil_iff, rowOfLine?]
  constructor
  · intro nothing
    by_contra visible
    rw [if_neg visible] at nothing
    have row := made.isSome_row (List.mem_filter.mpr ⟨member, decide_eq_true visible⟩)
    rw [nothing] at row
    cases row
  · exact fun blank => if_pos blank

/-! ## Lines in another order -/

/-- Of the same lines in another order a table is made that has the same schema. -/
theorem MadeFromLines.exists_of_perm (made : MadeFromLines format names rest table)
    (perm : rest.Perm otherRest) : ∃ other, MadeFromLines format names otherRest other := by
  rcases exists_ofDocument_eq_ok
    ⟨names.map trimmedName, otherRest.filterMap (format.recordOf? names.length)⟩ with ⟨other, typed⟩
  exact ⟨other, fun line member => made.answered line (perm.mem_iff.mpr member), typed⟩

theorem MadeFromLines.schema_eq_of_perm (made : MadeFromLines format names rest table)
    (remade : MadeFromLines format names otherRest other) (perm : rest.Perm otherRest) :
    table.schema = other.schema := by
  have schema := (ofDocument_eq_ok.mp made.made).1
  have otherSchema := (ofDocument_eq_ok.mp remade.made).1
  rw [schema, otherSchema]
  exact Schema.inferred_perm (perm.filterMap _) (names.map trimmedName)

theorem exists_ofText_eq_ok_of_perm (shown : visibleLines (Text.lines text) = content :: rest)
    (otherShown : visibleLines (Text.lines otherText) = content :: otherRest)
    (perm : rest.Perm otherRest) (loaded : ∃ table, (ofText format text).outcome = .ok table) :
    ∃ other, (ofText format otherText).outcome = .ok other := by
  rcases loaded with ⟨table, loaded⟩
  rcases (ofText_eq_ok_iff_madeFromLines shown).mp loaded with ⟨names, named, made⟩
  rcases made.exists_of_perm perm with ⟨other, remade⟩
  exact ⟨other, (ofText_eq_ok_iff_madeFromLines otherShown).mpr ⟨names, named, remade⟩⟩

/-- Lines behind a header can be put in any order.  Loading succeeds as it did,
with the same schema, and one function of lines yields the rows of both tables,
each at the place of its line.  It passes over the blank lines and no others. -/
theorem ofText_perm (format : Format) (finalFeed : Bool) (free : '\n' ∉ header)
    (visible : ∃ character ∈ header, Text.isBlank character = false)
    (plain : ∀ line ∈ lines, '\n' ∉ line ∧ '\r' ∉ line) (perm : lines.Perm others) :
    ((∃ table, (ofText format (joined (header :: lines) finalFeed)).outcome = .ok table) ↔
      ∃ other, (ofText format (joined (header :: others) finalFeed)).outcome = .ok other) ∧
    ∀ table other, (ofText format (joined (header :: lines) finalFeed)).outcome = .ok table →
      (ofText format (joined (header :: others) finalFeed)).outcome = .ok other →
        table.schema = other.schema ∧
          ∃ rowOf? : List Char → Option Row,
            (∀ line ∈ lines, rowOf? line = none ↔
              ∀ character ∈ line, Text.isBlank character = true) ∧
            table.rows = lines.filterMap rowOf? ∧ other.rows = others.filterMap rowOf? := by
  rcases exists_visibleLines_joined_cons free visible finalFeed lines.isEmpty with ⟨content, read⟩
  have otherPlain : ∀ line ∈ others, '\n' ∉ line ∧ '\r' ∉ line := fun line member =>
    plain line (perm.mem_iff.mpr member)
  have shown := read lines rfl (fun line member => (plain line member).1)
    fun line member => (plain line member).2
  have otherShown := read others perm.isEmpty_eq.symm (fun line member => (otherPlain line member).1)
    fun line member => (otherPlain line member).2
  have seen := perm.filter (Text.trim · ≠ [])
  constructor
  · constructor
    · exact exists_ofText_eq_ok_of_perm shown otherShown seen
    · exact exists_ofText_eq_ok_of_perm otherShown shown seen.symm
  · intro table other loaded otherLoaded
    rcases (ofText_eq_ok_iff_madeFromLines shown).mp loaded with ⟨names, named, made⟩
    rcases (ofText_eq_ok_iff_madeFromLines otherShown).mp otherLoaded with ⟨_, again, remade⟩
    cases named.symm.trans again
    have schema := made.schema_eq_of_perm remade seen
    refine ⟨schema, rowOfLine? format names.length table.schema, ?_, ?_, ?_⟩
    · exact fun line member => made.rowOfLine?_eq_none_iff member
    · exact made.rows_eq_filterMap_rowOfLine?
    · rw [schema]
      exact remade.rows_eq_filterMap_rowOfLine?

/-- A header that ends in a carriage return, a blank line, a line that occurs
twice and one that alone reaches the second column. -/
theorem ofText_perm_repeatedLine :
    '\n' ∉ "a,b\r".toList ∧ (∃ character ∈ "a,b\r".toList, Text.isBlank character = false) ∧
      (∀ line ∈ [['1'], [' '], ['x', ',', '2'], ['1']], '\n' ∉ line ∧ '\r' ∉ line) ∧
      [['1'], [' '], ['x', ',', '2'], ['1']].Perm [['x', ',', '2'], ['1'], ['1'], [' ']] ∧
      (ofText {} "a,b\r\n1\n \nx,2\n1").outcome = .ok
        { schema := ⟨[("a", .text), ("b", .number)]⟩
          rows := [Row.ofCells [("a", .text "1")],
            Row.ofCells [("a", .text "x"), ("b", .number 2)], Row.ofCells [("a", .text "1")]] } ∧
      (ofText {} "a,b\r\nx,2\n1\n1\n ").outcome = .ok
        { schema := ⟨[("a", .text), ("b", .number)]⟩
          rows := [Row.ofCells [("a", .text "x"), ("b", .number 2)],
            Row.ofCells [("a", .text "1")], Row.ofCells [("a", .text "1")]] } ∧
      ∃ rowOf? : List Char → Option Row, rowOf? [' '] = none ∧
        [Row.ofCells [("a", .text "1")], Row.ofCells [("a", .text "x"), ("b", .number 2)],
          Row.ofCells [("a", .text "1")]] =
            [['1'], [' '], ['x', ',', '2'], ['1']].filterMap rowOf? ∧
        [Row.ofCells [("a", .text "x"), ("b", .number 2)], Row.ofCells [("a", .text "1")],
          Row.ofCells [("a", .text "1")]] =
            [['x', ',', '2'], ['1'], ['1'], [' ']].filterMap rowOf? := by
  have free : '\n' ∉ "a,b\r".toList := by decide
  have visible : ∃ character ∈ "a,b\r".toList, Text.isBlank character = false :=
    ⟨'a', by decide, rfl⟩
  have plain : ∀ line ∈ [['1'], [' '], ['x', ',', '2'], ['1']], '\n' ∉ line ∧ '\r' ∉ line := by
    decide
  have perm : [['1'], [' '], ['x', ',', '2'], ['1']].Perm [['x', ',', '2'], ['1'], ['1'], [' ']] := by
    decide
  have loaded : (ofText {} "a,b\r\n1\n \nx,2\n1").outcome = .ok
      { schema := ⟨[("a", .text), ("b", .number)]⟩
        rows := [Row.ofCells [("a", .text "1")],
          Row.ofCells [("a", .text "x"), ("b", .number 2)], Row.ofCells [("a", .text "1")]] } := by
    rfl
  have otherLoaded : (ofText {} "a,b\r\nx,2\n1\n1\n ").outcome = .ok
      { schema := ⟨[("a", .text), ("b", .number)]⟩
        rows := [Row.ofCells [("a", .text "x"), ("b", .number 2)],
          Row.ofCells [("a", .text "1")], Row.ofCells [("a", .text "1")]] } := by
    rfl
  rcases (ofText_perm {} false free visible plain perm).2 _ _ loaded otherLoaded with
    ⟨-, rowOf?, nothing, rows, otherRows⟩
  have blank : ∀ character ∈ [' '], Text.isBlank character = true := by
    intro character member
    rw [List.mem_singleton.mp member]
    rfl
  exact ⟨free, visible, plain, perm, loaded, otherLoaded, rowOf?,
    (nothing [' '] (by decide)).mpr blank, rows, otherRows⟩

end Table
end Tabular
