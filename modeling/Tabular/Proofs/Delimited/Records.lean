import Mathlib.Data.List.Forall2
import Tabular.Proofs.Delimited.BlankLines

namespace Tabular
namespace Delimited

open Log

/-!
# Records that come from one line each

Behind the header, a record depends on its line, on the format and on the
width of the header.  No line is read differently because of another one, and
the number of a line does not get into its record.  A document is therefore
read exactly when its header can be split and each further line that is not
blank has a record, and its records are those, in order.
-/

variable {format : Format} {lines : List String} {document : Document} {width : Nat}
  {line : Nat × List Char} {record : List String} {content header : List Char}

/-- The record of a line under a header of the given width, if the format admits it. -/
def Format.recordOf? (format : Format) (width : Nat) (content : List Char) :
    Option (List String) :=
  ((fields? format.delimiter content).filter fun fields =>
    !format.strict || fields.length ≤ width).map (List.take width)

theorem recordOf?_eq_some : format.recordOf? width content = some record ↔
    ∃ fields, fields? format.delimiter content = some fields ∧
      (format.strict = true → fields.length ≤ width) ∧ record = fields.take width := by
  have admitted : ∀ fields : List String, (!format.strict || decide (fields.length ≤ width)) = true ↔
      (format.strict = true → fields.length ≤ width) := by
    intro fields
    cases format.strict <;> simp
  simp only [Format.recordOf?, Option.map_eq_some_iff, Option.filter_eq_some_iff, admitted,
    and_assoc, eq_comm (a := record)]

/-- The number of a line does not get into its record. -/
theorem readRecord_eq_ok_iff_recordOf? : (format.readRecord width line).outcome = .ok record ↔
    format.recordOf? width line.2 = some record := by
  rw [readRecord_eq_ok, recordOf?_eq_some]

theorem mapM_readRecord_eq_ok {rest : List (Nat × List Char)} {records : List (List String)} :
    (rest.mapM fun line => (format.readRecord width line).outcome) = .ok records ↔
      (rest.map Prod.snd).map (format.recordOf? width) = records.map some := by
  rw [mapM_eq_ok, List.map_map, ← List.forall₂_eq_eq_eq, ← List.forall₂_eq_eq_eq,
    List.forall₂_map_left_iff, List.forall₂_map_right_iff, List.forall₂_map_left_iff,
    List.forall₂_map_right_iff]
  simp only [readRecord_eq_ok_iff_recordOf?, Function.comp_apply]

/-- A document is read from a header that can be split and lines that all have a record. -/
theorem readDocument_eq_some : (format.readDocument lines).outcome = .ok (some document) ↔
    ∃ header rest names, visibleLines lines = header :: rest ∧
      fields? format.delimiter header = some names ∧ document.header = names.map trimmedName ∧
      rest.map (format.recordOf? names.length) = document.records.map some := by
  cases found : contentLines lines with
  | nil =>
      have nothing : visibleLines lines = [] := by rw [← map_snd_contentLines, found]; rfl
      rw [readDocument_of_nil found, nothing]
      simp
  | cons first rest =>
      have visible : visibleLines lines = first.2 :: rest.map Prod.snd := by
        rw [← map_snd_contentLines, found]
        rfl
      rw [readDocument_of_cons found, bind_eq_ok, visible]
      constructor
      · rintro ⟨names, named, read⟩
        rcases map_eq_ok.mp read with ⟨records, each, same⟩
        cases same
        exact ⟨_, _, names, rfl, readFields_eq_ok.mp named, rfl, mapM_readRecord_eq_ok.mp each⟩
      · rintro ⟨header, others, names, same, named, renamed, each⟩
        cases same
        refine ⟨names, readFields_eq_ok.mpr named, ?_⟩
        apply map_eq_ok.mpr
        refine ⟨document.records, mapM_readRecord_eq_ok.mpr each, ?_⟩
        cases document
        cases renamed
        rfl

/-! ## Lines behind a header -/

theorem visibleLines_eq_filterMap (lines : List String) :
    visibleLines lines = lines.filterMap contentOf? := by
  rw [← map_snd_contentLines, contentLines_eq_contentFrom, contentFrom, List.map_filterMap]
  simp only [Option.map_map, Function.comp_def, Option.map_id']
  conv_rhs => rw [← List.zipIdx_map_fst 1 lines, List.filterMap_map]
  rfl

/-- A carriage return at the end of a line is blank, so no other character is lost with it. -/
theorem exists_visible_withoutReturn {line : List Char}
    (visible : ∃ character ∈ line, Text.isBlank character = false) :
    ∃ character ∈ Text.dropLastIf (decide <| · = '\r') line, Text.isBlank character = false := by
  rcases visible with ⟨character, member, notBlank⟩
  refine ⟨character, ?_, notBlank⟩
  cases List.eq_nil_or_concat line with
  | inl empty =>
      rw [empty] at member
      cases member
  | inr split =>
      rcases split with ⟨front, last, rfl⟩
      rw [List.concat_eq_append] at member ⊢
      rw [Text.dropLastIf_concat]
      split
      · next isReturn =>
          rcases List.mem_append.mp member with early | final
          · exact early
          · rw [List.mem_singleton.mp final, of_decide_eq_true isReturn] at notBlank
            exact absurd notBlank (by decide)
      · exact member

theorem contentOf?_of_not_mem {line : List Char} (returnFree : '\r' ∉ line) :
    contentOf? (String.ofList line) = Option.guard (fun line => Text.trim line ≠ []) line := by
  have closed := Text.getLast?_ne_some_of_not_mem returnFree
  rw [contentOf?, withoutReturn_of_closed closed, Option.guard]
  by_cases blank : Text.trim line = []
  · simp [blank]
  · simp [blank]

/-- Of joined lines without feeds and returns, those that are not blank are read as they are. -/
theorem visibleLines_joined {lines : List (List Char)} (feedFree : ∀ line ∈ lines, '\n' ∉ line)
    (returnFree : ∀ line ∈ lines, '\r' ∉ line) (finalFeed : Bool) :
    visibleLines (Text.lines (joined lines finalFeed)) = lines.filter (Text.trim · ≠ []) := by
  have settled : ∀ line ∈ lines, Settled line := fun line member =>
    settled_of_not_mem (returnFree line member)
  have read : visibleLines (Text.lines (joined lines finalFeed)) =
      visibleLines (lines.map String.ofList) := by
    rw [← map_snd_contentLines, contentLines_eq_contentFrom, contentFrom_joined feedFree settled,
      ← contentLines_eq_contentFrom, map_snd_contentLines]
  rw [read, visibleLines_eq_filterMap, List.filterMap_map, ← List.filterMap_eq_filter]
  apply List.filterMap_congr
  intro line member
  exact contentOf?_of_not_mem (returnFree line member)

theorem contentOf?_of_visible {line : List Char}
    (visible : ∃ character ∈ line, Text.isBlank character = false) :
    contentOf? (String.ofList line) = some (withoutReturn (String.ofList line)) := by
  apply if_neg
  apply Text.trim_ne_nil_of_visible
  rw [withoutReturn, String.toList_ofList]
  exact exists_visible_withoutReturn visible

/-- What is read of a line in front of others depends on the line, and on
whether a feed stands behind it. -/
theorem exists_visibleLines_joined_cons (free : '\n' ∉ header)
    (visible : ∃ character ∈ header, Text.isBlank character = false) (finalFeed alone : Bool) :
    ∃ content, ∀ lines : List (List Char), lines.isEmpty = alone →
      (∀ line ∈ lines, '\n' ∉ line) → (∀ line ∈ lines, '\r' ∉ line) →
        visibleLines (Text.lines (joined (header :: lines) finalFeed)) =
          content :: lines.filter (Text.trim · ≠ []) := by
  obtain ⟨content, ended⟩ : ∃ content, contentOf? (String.ofList
      (Text.dropLastIf (decide <| · = '\r') header)) = some content :=
    ⟨_, contentOf?_of_visible (exists_visible_withoutReturn visible)⟩
  cases alone with
  | false =>
      refine ⟨content, ?_⟩
      intro lines filled feedFree returnFree
      have others := visibleLines_joined feedFree returnFree finalFeed
      cases lines with
      | nil => cases filled
      | cons next rest =>
          rw [visibleLines_eq_filterMap, lines_joined_cons_cons free, List.filterMap_cons_some ended,
            ← visibleLines_eq_filterMap, others]
  | true =>
      cases finalFeed with
      | true =>
          refine ⟨content, ?_⟩
          intro lines empty _ _
          rw [List.isEmpty_iff.mp empty, visibleLines_eq_filterMap,
            lines_joined_singleton_feed free, List.filterMap_cons_some ended]
          rfl
      | false =>
          refine ⟨withoutReturn (String.ofList header), ?_⟩
          intro lines empty _ _
          have filled : header.isEmpty = false := by
            rcases visible with ⟨character, inside, -⟩
            exact List.isEmpty_eq_false_iff.mpr (List.ne_nil_of_mem inside)
          rw [List.isEmpty_iff.mp empty, visibleLines_eq_filterMap, lines_joined_singleton free,
            if_neg (by simp [filled]), List.filterMap_cons_some (contentOf?_of_visible visible)]
          rfl

end Delimited
end Tabular
