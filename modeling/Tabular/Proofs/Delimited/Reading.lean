import Mathlib.Data.List.Basic
import Tabular.Delimited
import Tabular.Proofs.Log.Outcome

namespace Tabular
namespace Delimited

open Log

/-!
# What the reader of documents yields

The numbers of lines are those of the physical lines, and they grow from one
line that is not blank to the next.  A document is read when its header and all
its records are, and then nothing but the fields that are too many is lost.
-/

variable {format : Format} {lines : List String} {number width : Nat} {content : List Char}
  {line : Nat × List Char} {record : List String} {fault : Fault}

/-! ## Numbered lines -/

/-- The line with the given number, counted from one, is not blank.  Its
content is given without the return at its end. -/
structure ContentAt (lines : List String) (number : Nat) (content : List Char) : Prop where
  placed : ∃ index line, number = index + 1 ∧ lines[index]? = some line ∧
    content = withoutReturn line
  visible : Text.trim content ≠ []

theorem ContentAt.unique {other : List Char} (one : ContentAt lines number content)
    (two : ContentAt lines number other) : content = other := by
  rcases one.placed with ⟨index, line, rfl, found, rfl⟩
  rcases two.placed with ⟨_, _, same, again, rfl⟩
  rw [← Nat.succ.inj same, found] at again
  rw [Option.some.inj again]

theorem contentLines_eq_filter (lines : List String) : contentLines lines =
    ((lines.zipIdx 1).map fun numbered => (numbered.2, withoutReturn numbered.1)).filter
      fun line => Text.trim line.2 ≠ [] := by
  rw [contentLines]
  induction lines.zipIdx 1 with
  | nil => rfl
  | cons numbered others inductionHypothesis =>
      rw [List.map_cons, List.filterMap_cons, List.filter_cons, inductionHypothesis]
      by_cases blank : Text.trim (withoutReturn numbered.1) = []
      · simp [blank]
      · simp [blank]

theorem mem_contentLines_iff :
    (number, content) ∈ contentLines lines ↔ ContentAt lines number content := by
  rw [contentLines_eq_filter, List.mem_filter, decide_eq_true_iff, List.mem_map]
  constructor
  · rintro ⟨⟨⟨line, place⟩, member, same⟩, visible⟩
    cases same
    rcases List.mk_mem_zipIdx_iff_le_and_getElem?_sub.mp member with ⟨positive, found⟩
    exact ⟨⟨place - 1, line, (Nat.sub_add_cancel positive).symm, found, rfl⟩, visible⟩
  · rintro ⟨⟨index, line, rfl, found, rfl⟩, visible⟩
    refine ⟨⟨(line, index + 1), ?_, rfl⟩, visible⟩
    rw [List.mk_mem_zipIdx_iff_le_and_getElem?_sub]
    exact ⟨Nat.le_add_left 1 index, found⟩

/-- The lines that are not blank stand in the order of their numbers. -/
theorem contentLines_pairwise (lines : List String) :
    (contentLines lines).Pairwise fun earlier later => earlier.1 < later.1 := by
  have numbers : ((lines.zipIdx 1).map Prod.snd).Pairwise (· < ·) := by
    rw [List.zipIdx_map_snd]
    exact List.pairwise_lt_range'
  rw [contentLines_eq_filter]
  exact List.Pairwise.filter _ (List.pairwise_map.mpr (List.pairwise_map.mp numbers))

/-- The lines that are not blank, without the returns at their ends. -/
def visibleLines (lines : List String) : List (List Char) :=
  (lines.map withoutReturn).filter (Text.trim · ≠ [])

theorem map_snd_contentLines (lines : List String) :
    (contentLines lines).map Prod.snd = visibleLines lines := by
  have contents : lines.map withoutReturn =
      (lines.zipIdx 1).map fun numbered => withoutReturn numbered.1 := by
    conv_lhs => rw [← List.zipIdx_map_fst 1 lines, List.map_map]
    rfl
  rw [contentLines_eq_filter, visibleLines, contents, List.filter_map, List.filter_map,
    List.map_map]
  rfl

/-! ## Records -/

theorem readFields_eq_ok {delimiter : Char} {fields : List String} :
    readFields delimiter number content = .ok fields ↔
      fields? delimiter content = some fields := by
  unfold readFields
  cases fields? delimiter content <;> simp

theorem readFields_eq_error {delimiter : Char} :
    readFields delimiter number content = .error fault ↔
      fields? delimiter content = none ∧ fault = ⟨number, .unterminatedQuote⟩ := by
  unfold readFields
  cases fields? delimiter content <;> simp [eq_comm]

theorem fit_eq_ok {fields : List String} :
    (format.fit width number fields).outcome = .ok record ↔
      (format.strict = true → fields.length ≤ width) ∧ record = fields.take width := by
  unfold Format.fit
  by_cases narrow : fields.length ≤ width
  · simp [narrow, List.take_of_length_le narrow, eq_comm (a := fields)]
  · by_cases strict : format.strict = true
    · simp [narrow, strict]
    · simp [narrow, strict, eq_comm (a := record)]

theorem fit_eq_error {fields : List String} :
    (format.fit width number fields).outcome = .error fault ↔
      format.strict = true ∧ width < fields.length ∧
        fault = ⟨number, .tooManyFields width fields.length⟩ := by
  unfold Format.fit
  by_cases narrow : fields.length ≤ width
  · simp [narrow, Nat.not_lt.mpr narrow]
  · by_cases strict : format.strict = true
    · simp [narrow, strict, Nat.not_le.mp narrow, eq_comm (a := fault)]
    · simp [narrow, strict]

/-- A record is what its line is split into, cut to the width of the header.
In a strict format there was nothing to cut. -/
theorem readRecord_eq_ok : (format.readRecord width line).outcome = .ok record ↔
    ∃ fields, fields? format.delimiter line.2 = some fields ∧
      (format.strict = true → fields.length ≤ width) ∧ record = fields.take width := by
  rw [Format.readRecord, Logged.bind_outcome, Logged.ofExcept_outcome, bind_eq_ok]
  simp only [readFields_eq_ok, fit_eq_ok]

theorem readRecord_eq_error : (format.readRecord width line).outcome = .error fault ↔
    (fields? format.delimiter line.2 = none ∧ fault = ⟨line.1, .unterminatedQuote⟩) ∨
      ∃ fields, fields? format.delimiter line.2 = some fields ∧ format.strict = true ∧
        width < fields.length ∧ fault = ⟨line.1, .tooManyFields width fields.length⟩ := by
  rw [Format.readRecord, Logged.bind_outcome, Logged.ofExcept_outcome, bind_eq_error]
  simp only [readFields_eq_ok, readFields_eq_error, fit_eq_error]

/-! ## Documents -/

theorem readDocument_of_nil (nothing : contentLines lines = []) :
    (format.readDocument lines).outcome = .ok none := by
  rw [Format.readDocument, nothing]
  rfl

theorem readDocument_of_cons {first : Nat × List Char} {rest : List (Nat × List Char)}
    (found : contentLines lines = first :: rest) : (format.readDocument lines).outcome =
      readFields format.delimiter first.1 first.2 >>= fun names =>
        (rest.mapM fun line => (format.readRecord names.length line).outcome).map fun records =>
          some { header := names.map fun name => String.ofList (Text.trim name.toList)
                 records := records } := by
  rw [Format.readDocument, found]
  simp only [Logged.bind_outcome, Logged.ofExcept_outcome, Logged.mapM_outcome,
    Logged.pure_outcome]
  cases readFields format.delimiter first.1 first.2 with
  | error fault => rfl
  | ok names =>
      rw [ok_bind, ok_bind]
      cases rest.mapM fun line => (format.readRecord names.length line).outcome <;> rfl

theorem visibleLines_eq_nil (read : (format.readDocument lines).outcome = .ok none) :
    visibleLines lines = [] := by
  rw [← map_snd_contentLines]
  cases found : contentLines lines with
  | nil => rfl
  | cons first rest =>
      rw [readDocument_of_cons found, bind_eq_ok] at read
      rcases read with ⟨names, -, read⟩
      rcases map_eq_ok.mp read with ⟨records, -, same⟩
      cases same

/-- Records that were read are split lines, cut to the width of the header. -/
theorem exists_split_of_records {rest : List (Nat × List Char)} {records : List (List String)}
    (read : rest.map (fun line => (format.readRecord width line).outcome) = records.map .ok) :
    ∃ split : List (List String),
      rest.map (fun line => fields? format.delimiter line.2) = split.map some ∧
        records = split.map (List.take width) := by
  induction rest generalizing records with
  | nil => cases records with
    | nil => exact ⟨[], rfl, rfl⟩
    | cons record records => cases read
  | cons line rest inductionHypothesis => cases records with
    | nil => cases read
    | cons record records =>
        rcases List.cons.inj read with ⟨now, later⟩
        rcases readRecord_eq_ok.mp now with ⟨fields, found, -, rfl⟩
        rcases inductionHypothesis later with ⟨split, splitLines, rfl⟩
        refine ⟨fields :: split, ?_, rfl⟩
        rw [List.map_cons, List.map_cons, found, splitLines]

/-- A document that was read comes from lines that can all be split. -/
theorem exists_split_of_document {document : Document}
    (read : (format.readDocument lines).outcome = .ok (some document)) :
    ∃ (header : List String) (records : List (List String)),
      (visibleLines lines).map (fields? format.delimiter) = (header :: records).map some ∧
        document.header = header.map (fun name => String.ofList (Text.trim name.toList)) ∧
        document.records = records.map (List.take header.length) := by
  cases found : contentLines lines with
  | nil =>
      rw [readDocument_of_nil found] at read
      cases read
  | cons first rest =>
      rw [readDocument_of_cons found, bind_eq_ok] at read
      rcases read with ⟨header, named, read⟩
      rcases map_eq_ok.mp read with ⟨records, typed, same⟩
      rcases exists_split_of_records (mapM_eq_ok.mp typed) with ⟨split, splitLines, rfl⟩
      cases same
      refine ⟨header, split, ?_, rfl, rfl⟩
      rw [← map_snd_contentLines, found, List.map_map, List.map_cons, List.map_cons]
      exact congrArg₂ List.cons (readFields_eq_ok.mp named) splitLines

end Delimited
end Tabular
