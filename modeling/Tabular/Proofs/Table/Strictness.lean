import Tabular.Proofs.Delimited.Faults
import Tabular.Proofs.Log.Drops
import Tabular.Table

namespace Tabular

open Log Delimited

/-!
# Loading strictly

Reading strictly is reading leniently, stopped at the first report of a cut
line.  The report says by how much the line was too wide, so that together with
the width of the header it determines the refusal.  What is made of a document
afterwards is the same in both formats.
-/

/-! ## Documents -/

namespace Delimited

/-- The fault of a line that lost fields, under a header of the given width. -/
def dropFault (width : Nat) (drop : Nat × Nat) : Fault where
  line := drop.1
  defect := .tooManyFields width (width + drop.2)

variable {format : Format} {lines : List String} {delimiter : Char} {width number : Nat}
  {fields names : List String} {line first : Nat × List Char} {rest : List (Nat × List Char)}

/-! ## One line -/

theorem fit_of_narrow (narrow : fields.length ≤ width) :
    format.fit width number fields = pure fields :=
  if_pos narrow

theorem fit_lenient_of_wide (wide : ¬ fields.length ≤ width) :
    Format.fit ⟨delimiter, false⟩ width number fields =
      ⟨[.fieldsDropped number (fields.length - width)], .ok (fields.take width)⟩ := by
  rw [Format.fit, if_neg wide]
  rfl

theorem fit_strict (delimiter : Char) (width number : Nat) (fields : List String) :
    Format.fit ⟨delimiter, true⟩ width number fields =
      (Format.fit ⟨delimiter, false⟩ width number fields).stopAtDrop (dropFault width) := by
  by_cases narrow : fields.length ≤ width
  · rw [fit_of_narrow narrow, fit_of_narrow narrow]
    rfl
  · have found : width + (fields.length - width) = fields.length := by omega
    calc
      Format.fit ⟨delimiter, true⟩ width number fields =
          ⟨[], .error ⟨number, .tooManyFields width fields.length⟩⟩ := by
        rw [Format.fit, if_neg narrow]
        rfl
      _ = ⟨[], .error (dropFault width (number, fields.length - width))⟩ := by
        rw [dropFault, found]
      _ = (Format.fit ⟨delimiter, false⟩ width number fields).stopAtDrop (dropFault width) := by
        rw [fit_lenient_of_wide narrow]
        rfl

theorem readRecord_of_fields? (split : fields? format.delimiter line.2 = some fields) :
    format.readRecord width line = format.fit width line.1 fields := by
  rw [Format.readRecord, readFields_eq_ok.mpr split]
  exact pure_bind fields _

theorem readRecord_strict (delimiter : Char) (width : Nat) (line : Nat × List Char) :
    Format.readRecord ⟨delimiter, true⟩ width line =
      (Format.readRecord ⟨delimiter, false⟩ width line).stopAtDrop (dropFault width) := by
  rw [Format.readRecord, Format.readRecord, Logged.stopAtDrop_bind, Logged.stopAtDrop_of_nil rfl]
  simp only [fit_strict]

/-- A line is reported at most once, and then for at least one field. -/
theorem drops_readRecord (delimiter : Char) (width : Nat) (line : Nat × List Char) :
    (Format.readRecord ⟨delimiter, false⟩ width line).drops = [] ∨
      ∃ extra, 1 ≤ extra ∧
        (Format.readRecord ⟨delimiter, false⟩ width line).drops = [(line.1, extra)] := by
  cases split : fields? delimiter line.2 with
  | none =>
      left
      rw [Format.readRecord, readFields_eq_error.mpr ⟨split, rfl⟩]
      rfl
  | some fields =>
      rw [readRecord_of_fields? split]
      by_cases narrow : fields.length ≤ width
      · left
        rw [fit_of_narrow narrow]
        rfl
      · right
        refine ⟨fields.length - width, by omega, ?_⟩
        rw [fit_lenient_of_wide narrow]
        rfl

theorem of_mem_drops_readRecord {drop : Nat × Nat}
    (member : drop ∈ (Format.readRecord ⟨delimiter, false⟩ width line).drops) :
    drop.1 = line.1 ∧ 1 ≤ drop.2 := by
  rcases drops_readRecord delimiter width line with none | ⟨extra, positive, one⟩
  · rw [none] at member
    cases member
  · rw [one] at member
    cases List.mem_singleton.mp member
    exact ⟨rfl, positive⟩

/-! ## All lines -/

theorem readDocument_of_unreadable (found : contentLines lines = first :: rest)
    (rejected : fields? format.delimiter first.2 = none) :
    format.readDocument lines = Logged.fail ⟨first.1, .unterminatedQuote⟩ := by
  rw [Format.readDocument, found]
  dsimp only
  rw [readFields_eq_error.mpr ⟨rejected, rfl⟩]
  rfl

/-- Behind a header that can be split, a document is read record by record. -/
theorem readDocument_of_header (found : contentLines lines = first :: rest)
    (named : fields? format.delimiter first.2 = some names) :
    format.readDocument lines = rest.mapM (format.readRecord names.length) >>= fun records =>
      pure (some { header := names.map fun name => String.ofList (Text.trim name.toList)
                   records := records }) := by
  rw [Format.readDocument, found]
  dsimp only
  rw [readFields_eq_ok.mpr named]
  exact pure_bind names _

theorem readDocument_strict (found : contentLines lines = first :: rest)
    (named : fields? delimiter first.2 = some names) :
    Format.readDocument ⟨delimiter, true⟩ lines =
      (Format.readDocument ⟨delimiter, false⟩ lines).stopAtDrop (dropFault names.length) := by
  have records : Format.readRecord ⟨delimiter, true⟩ names.length = fun line =>
      (Format.readRecord ⟨delimiter, false⟩ names.length line).stopAtDrop
        (dropFault names.length) :=
    funext (readRecord_strict delimiter names.length)
  rw [readDocument_of_header found named, readDocument_of_header found named,
    Logged.stopAtDrop_bind, Logged.stopAtDrop_mapM, records]
  rfl

/-- Unless a header can be split, nothing is cut and strictness makes no difference. -/
theorem exists_header_or_alike (delimiter : Char) (lines : List String) :
    (∃ first rest names, contentLines lines = first :: rest ∧
      fields? delimiter first.2 = some names) ∨
    (Format.readDocument ⟨delimiter, false⟩ lines).drops = [] ∧
      Format.readDocument ⟨delimiter, true⟩ lines =
        Format.readDocument ⟨delimiter, false⟩ lines := by
  cases found : contentLines lines with
  | nil =>
      right
      rw [Format.readDocument, Format.readDocument, found]
      exact ⟨rfl, rfl⟩
  | cons first rest =>
      cases named : fields? delimiter first.2 with
      | none =>
          right
          rw [readDocument_of_unreadable found named, readDocument_of_unreadable found named]
          exact ⟨rfl, rfl⟩
      | some names => exact Or.inl ⟨first, rest, names, rfl, named⟩

/-- Lines are reported in their order, each for at least one field. -/
theorem drops_readDocument (delimiter : Char) (lines : List String) :
    (∀ drop ∈ (Format.readDocument ⟨delimiter, false⟩ lines).drops, 1 ≤ drop.2) ∧
      (Format.readDocument ⟨delimiter, false⟩ lines).drops.Pairwise
        fun earlier later => earlier.1 < later.1 := by
  rcases exists_header_or_alike delimiter lines with ⟨first, rest, names, found, named⟩ | alike
  · have reported : (Format.readDocument ⟨delimiter, false⟩ lines).drops <+:
        rest.flatMap fun line =>
          (Format.readRecord ⟨delimiter, false⟩ names.length line).drops := by
      rw [readDocument_of_header found named, Logged.drops_bind_of_silent fun _ => rfl]
      exact Logged.drops_mapM_isPrefix ..
    constructor
    · intro drop member
      rcases List.mem_flatMap.mp (reported.subset member) with ⟨line, -, own⟩
      exact (of_mem_drops_readRecord own).2
    · apply List.Pairwise.sublist reported.sublist
      rw [List.pairwise_flatMap]
      constructor
      · intro line _
        rcases drops_readRecord delimiter names.length line with none | ⟨extra, -, one⟩
        · rw [none]
          exact List.Pairwise.nil
        · rw [one]
          exact List.pairwise_singleton _ _
      · have ordered := contentLines_pairwise lines
        rw [found, List.pairwise_cons] at ordered
        apply ordered.2.imp
        intro earlier later before drop own other foreign
        rw [(of_mem_drops_readRecord own).1, (of_mem_drops_readRecord foreign).1]
        exact before
  · rw [alike.1]
    exact ⟨List.forall_mem_nil _, List.Pairwise.nil⟩

end Delimited

/-! ## Tables -/

theorem Schema.drops_infer {ε : Type} (header : List String) (records : List (List String)) :
    (infer header records : Logged ε Schema).drops = [] := by
  have columns : (header.zipIdx.mapM fun named =>
      (inferColumn named.1 (fieldsAt named.2 records) : Logged ε (String × Kind))).drops = [] := by
    apply List.prefix_nil.mp
    apply (Logged.drops_mapM_isPrefix _ _).trans
    rw [List.prefix_nil, List.flatMap_eq_nil_iff]
    intro named _
    unfold inferColumn
    split <;> rfl
  rw [infer, Logged.drops_bind_of_silent fun _ => rfl, columns]

namespace Table

variable {lines : List String} {delimiter : Char} {first : Nat × List Char}
  {rest : List (Nat × List Char)} {names : List String}

theorem drops_ofDocument (document : Document) : (ofDocument document).drops = [] := by
  have rows : ∀ schema, (do
      let rows ← Logged.ofExcept (document.records.mapM (rowOf schema))
      Logged.emit (.dataLoaded schema.size rows.length)
      pure { schema := schema, rows := rows } : Logged Error Table).drops = [] := fun schema =>
    Logged.drops_bind_of_silent fun _ => rfl
  rw [ofDocument, Logged.drops_bind_of_silent rows, Schema.drops_infer]

/-- The table of a document, which is empty without one. -/
def ofDocument? : Option Document → Logged Error Table
  | some document => ofDocument document
  | none => do
      Logged.emit .headerMissing
      pure empty

theorem drops_ofDocument? (document? : Option Document) : (ofDocument? document?).drops = [] := by
  cases document? with
  | some document => exact drops_ofDocument document
  | none => rfl

theorem ofLines_eq_bind (format : Format) (lines : List String) : ofLines format lines =
    (format.readDocument lines).mapError Error.data >>= ofDocument? :=
  rfl

theorem drops_ofLines (format : Format) (lines : List String) :
    (ofLines format lines).drops = (format.readDocument lines).drops := by
  rw [ofLines_eq_bind, Logged.drops_bind_of_silent drops_ofDocument?]
  rfl

theorem ofLines_strict (found : contentLines lines = first :: rest)
    (named : fields? delimiter first.2 = some names) :
    ofLines ⟨delimiter, true⟩ lines =
      (ofLines ⟨delimiter, false⟩ lines).stopAtDrop (Error.data ∘ dropFault names.length) := by
  have silent : (fun document? =>
      (ofDocument? document?).stopAtDrop (Error.data ∘ dropFault names.length)) = ofDocument? :=
    funext fun document? => Logged.stopAtDrop_of_nil (drops_ofDocument? document?)
  rw [ofLines_eq_bind, ofLines_eq_bind, readDocument_strict found named, Logged.stopAtDrop_bind,
    Logged.stopAtDrop_mapError, silent]

/-- A strict load is determined by the lenient one.  When that cuts no line the
two are the same.  Otherwise the strict load fails at the first line that is
cut, and the number of lost fields says how wide that line was. -/
theorem ofText_strict (delimiter : Char) (text : String) :
    ((ofText ⟨delimiter, false⟩ text).drops = [] →
      ofText ⟨delimiter, true⟩ text = ofText ⟨delimiter, false⟩ text) ∧
    (∀ line extra others, (ofText ⟨delimiter, false⟩ text).drops = (line, extra) :: others →
      ∃ number content header fault, HeaderAt (Text.lines text) number content ∧
        fields? delimiter content = some header ∧
        (ofText ⟨delimiter, true⟩ text).outcome = .error (.data fault) ∧ fault.line = line ∧
        fault.defect.message = "expected at most " ++ toString header.length ++
          " fields, found " ++ toString (header.length + extra)) ∧
    (∀ drop ∈ (ofText ⟨delimiter, false⟩ text).drops, 1 ≤ drop.2) ∧
    (ofText ⟨delimiter, false⟩ text).drops.Pairwise fun earlier later => earlier.1 < later.1 := by
  have ordered := drops_readDocument delimiter (Text.lines text)
  rw [← drops_ofLines] at ordered
  refine ⟨?_, ?_, ordered⟩
  · intro none
    rcases exists_header_or_alike delimiter (Text.lines text) with
      ⟨first, rest, names, found, named⟩ | ⟨-, same⟩
    · exact (ofLines_strict found named).trans (Logged.stopAtDrop_of_nil none)
    · rw [ofText, ofLines_eq_bind, same, ← ofLines_eq_bind, ofText]
  · intro line extra others reported
    rcases exists_header_or_alike delimiter (Text.lines text) with
      ⟨first, rest, names, found, named⟩ | ⟨none, -⟩
    · refine ⟨first.1, first.2, names, dropFault names.length (line, extra),
        headerAt_of_cons found, named, ?_, rfl, rfl⟩
      have stopped := (ofLines_strict found named).trans (Logged.stopAtDrop_of_cons reported)
      exact congrArg Logged.outcome stopped
    · rw [ofText, drops_ofLines, none] at reported
      cases reported

/-- A load without a cut, and one that cuts a line and goes on to a quotation
mark that never closes. -/
theorem ofText_strict_openQuote :
    (ofText ⟨',', false⟩ "a\n1").drops = [] ∧
      ofText ⟨',', true⟩ "a\n1" = ofText ⟨',', false⟩ "a\n1" ∧
      (ofText ⟨',', false⟩ "a\n\n1,2\n\"").drops = [(3, 1)] ∧
      (ofText ⟨',', false⟩ "a\n\n1,2\n\"").outcome = .error (.data ⟨4, .unterminatedQuote⟩) ∧
      (ofText ⟨',', true⟩ "a\n\n1,2\n\"").outcome = .error (.data ⟨3, .tooManyFields 1 2⟩) ∧
      (Defect.tooManyFields 1 2).message = "expected at most 1 fields, found 2" := by
  have reported : (ofText ⟨',', false⟩ "a\n\n1,2\n\"").drops = [(3, 1)] := rfl
  rcases (ofText_strict ',' "a\n\n1,2\n\"").2.1 3 1 [] reported with
    ⟨number, content, header, fault, -, -, stops, line, -⟩
  have known : fault = ⟨3, .tooManyFields 1 2⟩ := by
    cases stops
    rfl
  exact ⟨rfl, (ofText_strict ',' "a\n1").1 rfl, reported, rfl, known ▸ stops, rfl⟩

end Table

end Tabular
