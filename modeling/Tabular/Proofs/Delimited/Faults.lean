import Tabular.Proofs.Delimited.Reading

namespace Tabular
namespace Delimited

open Log

/-!
# Offending lines

A line that is not blank offends when its quotation marks do not close or, in a
strict format and behind the header, when it holds more fields than the header.
Reading a document fails exactly when some line offends, and reports the first.
-/

variable {format : Format} {lines : List String} {number other : Nat}
  {content text : List Char} {defect : Defect} {message : String} {fault : Fault}
  {line first : Nat × List Char} {rest : List (Nat × List Char)} {names : List String}

/-- The header is the first line that is not blank. -/
structure HeaderAt (lines : List String) (number : Nat) (content : List Char) : Prop where
  here : ContentAt lines number content
  first : ∀ other text, ContentAt lines other text → number ≤ other

/-- What is wrong with a line, and the words for it. -/
inductive Offends (format : Format) (lines : List String) (number : Nat) :
    Defect → String → Prop where
  | unterminated {content : List Char} (here : ContentAt lines number content)
      (rejected : fields? format.delimiter content = none) :
      Offends format lines number .unterminatedQuote "unterminated quoted field"
  | tooWide {header content : List Char} {first : Nat} {names fields : List String}
      (strict : format.strict = true) (above : HeaderAt lines first header)
      (named : fields? format.delimiter header = some names)
      (here : ContentAt lines number content) (behind : first < number)
      (split : fields? format.delimiter content = some fields)
      (wide : names.length < fields.length) :
      Offends format lines number (.tooManyFields names.length fields.length)
        ("expected at most " ++ toString names.length ++ " fields, found " ++
          toString fields.length)

/-- The fault of the first line that offends. -/
structure FirstOffence (format : Format) (lines : List String) (fault : Fault) : Prop where
  offends : Offends format lines fault.line fault.defect fault.defect.message
  first : ∀ number defect message, Offends format lines number defect message →
    fault.line ≤ number

/-! ## One line -/

theorem HeaderAt.unique (one : HeaderAt lines number content) (two : HeaderAt lines other text) :
    number = other ∧ content = text := by
  have same : number = other :=
    Nat.le_antisymm (one.first other text two.here) (two.first number content one.here)
  cases same
  exact ⟨rfl, one.here.unique two.here⟩

theorem Offends.message_eq (offends : Offends format lines number defect message) :
    message = defect.message := by
  cases offends <;> rfl

theorem Offends.mem_contentLines (offends : Offends format lines number defect message) :
    ∃ content, (number, content) ∈ contentLines lines := by
  cases offends with
  | unterminated here rejected => exact ⟨_, mem_contentLines_iff.mpr here⟩
  | tooWide strict above named here behind split wide =>
      exact ⟨_, mem_contentLines_iff.mpr here⟩

/-- What is wrong with a line is settled by its number. -/
theorem Offends.unique {another : Defect} {words : String}
    (one : Offends format lines number defect message)
    (two : Offends format lines number another words) : defect = another := by
  cases one with
  | unterminated here rejected =>
      cases two with
      | unterminated there again => rfl
      | tooWide strict above named there behind split wide =>
          rw [here.unique there, split] at rejected
          cases rejected
  | tooWide strict above named here behind split wide =>
      cases two with
      | unterminated there rejected =>
          rw [there.unique here, split] at rejected
          cases rejected
      | tooWide strict' top again there behind' other wide' =>
          rw [here.unique there, other] at split
          rw [(above.unique top).2, again] at named
          cases split
          cases named
          rfl

theorem lt_of_mem_rest (found : contentLines lines = first :: rest) (member : line ∈ rest) :
    first.1 < line.1 := by
  have ordered := contentLines_pairwise lines
  rw [found, List.pairwise_cons] at ordered
  exact ordered.1 line member

/-- In a list of lines, those with smaller numbers than a given one stand in front of it. -/
theorem mem_front_of_lt {front after : List (Nat × List Char)}
    (found : contentLines lines = front ++ line :: after)
    (member : (number, content) ∈ contentLines lines) (earlier : number < line.1) :
    (number, content) ∈ front := by
  have ordered := contentLines_pairwise lines
  rw [found, List.pairwise_append, List.pairwise_cons] at ordered
  rw [found, List.mem_append, List.mem_cons] at member
  rcases member with inFront | rfl | behind
  · exact inFront
  · exact absurd earlier (Nat.lt_irrefl number)
  · exact absurd earlier (Nat.lt_asymm (ordered.2.1.1 _ behind))

theorem headerAt_of_cons (found : contentLines lines = first :: rest) :
    HeaderAt lines first.1 first.2 where
  here := by
    rw [← mem_contentLines_iff, found]
    exact List.mem_cons_self
  first := by
    intro other text here
    rw [← mem_contentLines_iff, found] at here
    rcases List.mem_cons.mp here with same | later
    · exact Nat.le_of_eq (congrArg Prod.fst same).symm
    · exact Nat.le_of_lt (lt_of_mem_rest found later)

/-- A header that can be split does not offend. -/
theorem not_offends_header (found : contentLines lines = first :: rest)
    (named : fields? format.delimiter first.2 = some names) :
    ¬ Offends format lines first.1 defect message := by
  intro offends
  have header := headerAt_of_cons found
  cases offends with
  | unterminated here rejected =>
      rw [here.unique header.here, named] at rejected
      cases rejected
  | tooWide strict above named here behind split wide =>
      rw [(above.unique header).1] at behind
      exact Nat.lt_irrefl first.1 behind

/-- A line behind the header is refused with the fault by which it offends. -/
theorem readRecord_eq_error_iff_offends (found : contentLines lines = first :: rest)
    (named : fields? format.delimiter first.2 = some names) (member : line ∈ rest) :
    (format.readRecord names.length line).outcome = .error fault ↔
      fault.line = line.1 ∧ Offends format lines line.1 fault.defect fault.defect.message := by
  have header := headerAt_of_cons found
  have present : ContentAt lines line.1 line.2 := by
    rw [← mem_contentLines_iff, found]
    exact List.mem_cons_of_mem first member
  rw [readRecord_eq_error]
  constructor
  · rintro (⟨rejected, rfl⟩ | ⟨fields, split, strict, wide, rfl⟩)
    · exact ⟨rfl, .unterminated present rejected⟩
    · exact ⟨rfl, .tooWide strict header named present (lt_of_mem_rest found member) split wide⟩
  · rcases fault with ⟨number, defect⟩
    rintro ⟨rfl, offends⟩
    -- The cases fix the words as well, which stand here as a function of the defect.
    generalize defect.message = message at offends
    cases offends with
    | unterminated here rejected =>
        rw [here.unique present] at rejected
        exact Or.inl ⟨rejected, rfl⟩
    | tooWide strict above again here behind split wide =>
        rw [here.unique present] at split
        rw [(above.unique header).2, named] at again
        cases again
        exact Or.inr ⟨_, split, strict, wide, rfl⟩

/-! ## All lines -/

/-- Behind a header that can be split, what was read does not offend. -/
theorem not_offends_of_read {record : List String} (found : contentLines lines = first :: rest)
    (named : fields? format.delimiter first.2 = some names) (member : line ∈ rest)
    (read : (format.readRecord names.length line).outcome = .ok record) :
    ¬ Offends format lines line.1 defect message := by
  intro offends
  have refused : (format.readRecord names.length line).outcome = .error ⟨line.1, defect⟩ := by
    rw [readRecord_eq_error_iff_offends found named member]
    exact ⟨rfl, offends.message_eq ▸ offends⟩
  rw [read] at refused
  cases refused

theorem not_offends_of_readDocument {document? : Option Document}
    (read : (format.readDocument lines).outcome = .ok document?) :
    ¬ Offends format lines number defect message := by
  intro offends
  rcases offends.mem_contentLines with ⟨content, member⟩
  cases found : contentLines lines with
  | nil =>
      rw [found] at member
      cases member
  | cons first rest =>
      rw [readDocument_of_cons found, bind_eq_ok] at read
      rcases read with ⟨names, named, read⟩
      rw [readFields_eq_ok] at named
      rcases map_eq_ok.mp read with ⟨records, read, -⟩
      rw [found] at member
      rcases List.mem_cons.mp member with rfl | later
      · exact not_offends_header found named offends
      · rcases exists_step_of_mapM_eq_ok read later with ⟨record, kept⟩
        exact not_offends_of_read found named later kept offends

/-- What is read up to the refused line is all that could offend earlier. -/
theorem firstOffence_of_refused {front after : List (Nat × List Char)}
    (found : contentLines lines = first :: (front ++ line :: after))
    (named : fields? format.delimiter first.2 = some names)
    (read : ∀ earlier ∈ front, ∃ record,
      (format.readRecord names.length earlier).outcome = .ok record)
    (refused : (format.readRecord names.length line).outcome = .error fault) :
    FirstOffence format lines fault := by
  have member : line ∈ front ++ line :: after := List.mem_append_right front List.mem_cons_self
  rcases (readRecord_eq_error_iff_offends found named member).mp refused with ⟨same, offends⟩
  refine ⟨same.symm ▸ offends, ?_⟩
  intro number defect message earlier
  rw [same]
  apply Nat.le_of_not_lt
  intro before
  rcases earlier.mem_contentLines with ⟨content, present⟩
  -- A smaller number belongs to the header or to a line that was read, and neither offends.
  rw [← List.cons_append] at found
  rcases List.mem_cons.mp (mem_front_of_lt found present before) with rfl | inFront
  · exact not_offends_header found named earlier
  · rcases read _ inFront with ⟨record, kept⟩
    have among := List.mem_append_left (line :: after) inFront
    exact not_offends_of_read found named among kept earlier

theorem firstOffence_of_readDocument (fails : (format.readDocument lines).outcome = .error fault) :
    FirstOffence format lines fault := by
  cases found : contentLines lines with
  | nil =>
      rw [readDocument_of_nil found] at fails
      cases fails
  | cons header rest =>
      have above := headerAt_of_cons found
      rw [readDocument_of_cons found, bind_eq_error] at fails
      rcases fails with unreadable | ⟨names, named, fails⟩
      · rcases readFields_eq_error.mp unreadable with ⟨rejected, rfl⟩
        refine ⟨.unterminated above.here rejected, ?_⟩
        intro number defect message offends
        rcases offends.mem_contentLines with ⟨content, member⟩
        exact above.first number content (mem_contentLines_iff.mp member)
      · rcases mapM_eq_error.mp (map_eq_error.mp fails) with
          ⟨front, line, after, rfl, read, refused⟩
        exact firstOffence_of_refused found (readFields_eq_ok.mp named) read refused

/-- Reading fails with the fault of the first offending line, and only so. -/
theorem readDocument_eq_error :
    (format.readDocument lines).outcome = .error fault ↔ FirstOffence format lines fault := by
  constructor
  · exact firstOffence_of_readDocument
  · intro offence
    cases outcome : (format.readDocument lines).outcome with
    | ok document? => exact absurd offence.offends (not_offends_of_readDocument outcome)
    | error other =>
        have first := firstOffence_of_readDocument outcome
        have sameLine : other.line = fault.line :=
          Nat.le_antisymm (first.first _ _ _ offence.offends) (offence.first _ _ _ first.offends)
        rcases fault with ⟨line, defect⟩
        rcases other with ⟨_, another⟩
        cases sameLine
        have sameDefect : another = defect := first.offends.unique offence.offends
        rw [sameDefect]

end Delimited
end Tabular
