import Mathlib.Data.List.Basic
import Tabular.Text

namespace Tabular
namespace Text

/-!
# Divisions of texts

`pieces` is the division at every separator of the standard list library, so
it undoes joining and joining undoes it.  `cut?` is described by occurrences
alone: it fails exactly on texts without the mark, and among the occurrences it
finds the one with the shortest text in front.  What follows the mark can be
exchanged freely, a fact that re-reading a printed text depends on throughout.
-/

variable {α : Type} [DecidableEq α] {element separator : α} {mark text front behind : List α}

/-! ## Pieces -/

theorem pieces_eq_splitOn (separator : α) (text : List α) :
    pieces separator text = text.splitOn separator := by
  induction text with
  | nil => rfl
  | cons head rest inductionHypothesis =>
      rw [List.splitOn_cons_eq_if_modifyHead, pieces, inductionHypothesis]
      simp only [beq_iff_eq]

theorem intercalate_pieces (separator : α) (text : List α) :
    [separator].intercalate (pieces separator text) = text := by
  rw [pieces_eq_splitOn, List.intercalate_splitOn]

theorem pieces_intercalate {parts : List (List α)} (free : ∀ part ∈ parts, separator ∉ part)
    (nonempty : parts ≠ []) : pieces separator ([separator].intercalate parts) = parts := by
  rw [pieces_eq_splitOn, List.splitOn_intercalate separator free nonempty]

theorem not_mem_of_mem_pieces {piece : List α} (member : piece ∈ pieces separator text) :
    separator ∉ piece := by
  induction text generalizing piece with
  | nil => simp_all [pieces]
  | cons head rest inductionHypothesis =>
      rw [pieces] at member
      split at member
      · rcases List.mem_cons.mp member with rfl | later
        · exact List.not_mem_nil
        · exact inductionHypothesis later
      · next different =>
          cases found : pieces separator rest with
          | nil => exact absurd found (pieces_ne_nil separator rest)
          | cons first others =>
              rw [found] at member inductionHypothesis
              rcases List.mem_cons.mp member with rfl | later
              · rw [List.mem_cons, not_or]
                exact ⟨Ne.symm different, inductionHypothesis List.mem_cons_self⟩
              · exact inductionHypothesis (List.mem_cons_of_mem _ later)

/-- Text without a separator, added in front, belongs to the first piece. -/
theorem pieces_append_left (free : separator ∉ front) (behind : List α) :
    pieces separator (front ++ behind) = (pieces separator behind).modifyHead (front ++ ·) := by
  induction front with
  | nil => exact (congrFun List.modifyHead_id (pieces separator behind)).symm
  | cons head rest inductionHypothesis =>
      rw [List.mem_cons, not_or] at free
      rw [List.cons_append, pieces, if_neg (Ne.symm free.1), inductionHypothesis free.2,
        List.modifyHead_modifyHead]
      rfl

/-- Text without a separator, added at the end, belongs to the last piece. -/
theorem pieces_append (free : separator ∉ behind) (front : List α) :
    ∃ early last, pieces separator front = early ++ [last] ∧
      pieces separator (front ++ behind) = early ++ [last ++ behind] := by
  induction front with
  | nil => exact ⟨[], [], rfl, by rw [pieces_eq_splitOn]; exact List.splitOn_eq_singleton free⟩
  | cons head rest inductionHypothesis =>
      rcases inductionHypothesis with ⟨early, last, short, long⟩
      by_cases same : head = separator
      · exact ⟨[] :: early, last, by simp [pieces, same, short], by simp [pieces, same, long]⟩
      · cases early with
        | nil =>
            exact ⟨[], head :: last, by simp [pieces, same, short], by simp [pieces, same, long]⟩
        | cons first others =>
            exact ⟨(head :: first) :: others, last, by simp [pieces, same, short],
              by simp [pieces, same, long]⟩

/-- Joining adds no element but those of the separator. -/
theorem count_intercalate (absent : element ∉ mark) (parts : List (List α)) :
    (mark.intercalate parts).count element = parts.flatten.count element := by
  induction parts with
  | nil => rfl
  | cons part others inductionHypothesis =>
      cases others with
      | nil => simp
      | cons next others =>
          rw [List.intercalate_cons_cons, List.count_append, List.count_append,
            inductionHypothesis, List.count_eq_zero.mpr absent, Nat.add_zero]
          exact List.count_append.symm

omit [DecidableEq α] in
/-- A separator behind the joined parts is a separator before one empty part more. -/
theorem intercalate_concat_nil {parts : List (List α)} (nonempty : parts ≠ []) :
    mark.intercalate (parts ++ [[]]) = mark.intercalate parts ++ mark := by
  induction parts with
  | nil => exact absurd rfl nonempty
  | cons part others inductionHypothesis =>
      cases others with
      | nil => simp
      | cons next others =>
          rw [List.cons_append, List.cons_append, List.intercalate_cons_cons,
            List.intercalate_cons_cons, ← List.cons_append,
            inductionHypothesis (List.cons_ne_nil _ _), List.append_assoc]
          simp only [List.append_assoc]

/-! ## Cuts at the leftmost mark -/

theorem afterMark?_eq_none : afterMark? mark text = none ↔ ¬ mark <+: text := by
  rw [Option.eq_none_iff_forall_ne_some, List.prefix_iff_exists_eq_append, not_exists]
  exact forall_congr' fun rest => not_congr afterMark?_eq_some

theorem cut?_eq_none_iff : cut? mark text = none ↔ ¬ mark <:+: text := by
  induction text with
  | nil => rw [cut?, Option.map_eq_none_iff, afterMark?_eq_none, List.prefix_nil, List.infix_nil]
  | cons head rest inductionHypothesis =>
      rw [List.infix_cons_iff, not_or, ← inductionHypothesis, ← afterMark?_eq_none, cut?]
      cases found : afterMark? mark (head :: rest) <;> simp

omit [DecidableEq α] in
/-- An occurrence that begins earlier than a given one also ends earlier. -/
theorem infix_dropLast_of_prefix {head : α} {rest : List α}
    (early : mark <+: head :: front ++ mark ++ rest) :
    mark <:+: (head :: front ++ mark).dropLast := by
  have short : mark.length ≤ (head :: front ++ mark).dropLast.length := by
    simp
  have shorter : (head :: front ++ mark).dropLast <+: head :: front ++ mark ++ rest :=
    (List.dropLast_prefix _).trans (List.prefix_append _ _)
  exact (List.prefix_of_prefix_length_le early shorter short).isInfix

/-- Whether a given occurrence is the leftmost one is decided by the text up
to the last element of the mark, without that element. -/
theorem cut?_append_iff (nonempty : mark ≠ []) (front behind : List α) :
    cut? mark (front ++ mark ++ behind) = some (front, behind) ↔
      ¬ mark <:+: (front ++ mark).dropLast := by
  induction front with
  | nil =>
      have tooLong : ¬ mark <:+: mark.dropLast := by
        intro inside
        have bound := inside.length_le
        have positive := List.length_pos_of_ne_nil nonempty
        rw [List.length_dropLast] at bound
        omega
      have found : afterMark? mark (mark ++ behind) = some behind := afterMark?_eq_some.mpr rfl
      rcases List.exists_cons_of_ne_nil nonempty with ⟨first, others, rfl⟩
      simp only [List.nil_append, tooLong, not_false_eq_true, iff_true]
      rw [List.cons_append, cut?, ← List.cons_append, found]
  | cons head front inductionHypothesis =>
      by_cases early : mark <+: head :: front ++ mark ++ behind
      · rcases List.prefix_iff_exists_eq_append.mp early with ⟨rest, same⟩
        have found := afterMark?_eq_some.mpr same
        simp only [List.cons_append] at found
        simp only [List.cons_append, cut?, found, Option.some.injEq, Prod.mk.injEq,
          List.nil_eq, reduceCtorEq, false_and, false_iff, not_not]
        exact infix_dropLast_of_prefix early
      · have missing := afterMark?_eq_none.mpr early
        have late : ¬ mark <+: head :: (front ++ mark).dropLast := by
          intro inside
          apply early
          refine inside.trans ?_
          rw [List.cons_append, List.cons_append, List.prefix_cons_inj]
          exact (List.dropLast_prefix _).trans (List.prefix_append _ _)
        rw [List.cons_append, List.dropLast_cons_of_ne_nil (by simp [nonempty]),
          List.infix_cons_iff, not_or, ← inductionHypothesis]
        simp only [List.cons_append] at missing
        simp only [List.cons_append, cut?, missing, late, not_false_eq_true, true_and]
        cases cut? mark (front ++ mark ++ behind) <;> simp [Prod.ext_iff]

/-- No other occurrence has a shorter text in front of it. -/
theorem front_prefix_of_cut? {otherFront otherBehind : List α}
    (found : cut? mark text = some (front, behind))
    (other : text = otherFront ++ mark ++ otherBehind) : front <+: otherFront := by
  induction text generalizing front otherFront with
  | nil =>
      rcases Option.map_eq_some_iff.1 found with ⟨_rest, _hit, same⟩
      cases same
      exact List.nil_prefix
  | cons head rest inductionHypothesis =>
      rw [cut?] at found
      split at found
      · cases found
        exact List.nil_prefix
      · next missing =>
          rcases Option.map_eq_some_iff.1 found with ⟨parts, later, same⟩
          cases same
          cases otherFront with
          | nil => exact absurd ⟨otherBehind, other.symm⟩ (afterMark?_eq_none.mp missing)
          | cons first others =>
              rcases List.cons.inj other with ⟨rfl, same⟩
              exact (List.prefix_cons_inj head).mpr (inductionHypothesis later same)

theorem not_infix_front (nonempty : mark ≠ [])
    (found : cut? mark text = some (front, behind)) : ¬ mark <:+: front := by
  intro inside
  rw [eq_append_of_cut? found, cut?_append_iff nonempty] at found
  apply found
  rw [List.dropLast_append_of_ne_nil nonempty]
  exact inside.trans List.infix_append_left

omit [DecidableEq α] in
/-- A mark cannot reach across an element that it does not hold. -/
theorem infix_append_cons_iff (absent : element ∉ mark) :
    mark <:+: front ++ element :: behind ↔ mark <:+: front ∨ mark <:+: behind := by
  constructor
  · intro inside
    rcases List.infix_append_iff.mp inside with left | right | ⟨start, rest, rfl, early, late⟩
    · exact Or.inl left
    · rcases List.infix_cons_iff.mp right with now | later
      · rcases List.prefix_cons_iff.mp now with rfl | ⟨rest, rfl, -⟩
        · exact Or.inl List.nil_infix
        · exact absurd List.mem_cons_self absent
      · exact Or.inr later
    · rcases List.prefix_cons_iff.mp late with rfl | ⟨others, rfl, -⟩
      · rw [List.append_nil]
        exact Or.inl early.isInfix
      · exact absurd (List.mem_append_right start List.mem_cons_self) absent
  · rintro (left | right)
    · exact left.trans List.infix_append_left
    · exact right.trans ((List.suffix_cons element behind).isInfix.trans List.infix_append_right)

/-! ## Text in front of a mark -/

theorem before_eq_self (absent : ¬ mark <:+: text) : before mark text = text := by
  rw [before, cut?_eq_none_iff.mpr absent]

theorem not_infix_before (nonempty : mark ≠ []) (text : List α) :
    ¬ mark <:+: before mark text := by
  unfold before
  split
  · next found => exact not_infix_front nonempty found
  · next missing => exact cut?_eq_none_iff.mp missing

theorem eraseFirst_append_left (mark behind : List α) :
    eraseFirst mark (mark ++ behind) = behind := by
  have found : afterMark? mark (mark ++ behind) = some behind := afterMark?_eq_some.mpr rfl
  unfold eraseFirst
  cases same : mark ++ behind with
  | nil => simp_all [cut?, afterMark?]
  | cons head rest =>
      rw [same] at found
      simp [cut?, found]

theorem count_eraseFirst (absent : element ∉ mark) (text : List α) :
    (eraseFirst mark text).count element = text.count element := by
  unfold eraseFirst
  split
  · next found =>
      conv_rhs => rw [eq_append_of_cut? found]
      rw [List.count_append, List.count_append, List.count_append,
        List.count_eq_zero.mpr absent, Nat.add_zero]
  · rfl

/-! ## Single elements at the ends -/

omit [DecidableEq α] in
theorem dropFirstIf_isSuffix (test : α → Bool) (text : List α) :
    dropFirstIf test text <:+ text := by
  cases text with
  | nil => exact List.suffix_rfl
  | cons head rest =>
      rw [dropFirstIf]
      split
      · exact List.suffix_cons head rest
      · exact List.suffix_rfl

omit [DecidableEq α] in
theorem dropLastIf_isPrefix (test : α → Bool) (text : List α) : dropLastIf test text <+: text := by
  have suffix := dropFirstIf_isSuffix test text.reverse
  rw [← List.reverse_prefix, List.reverse_reverse] at suffix
  exact suffix

omit [DecidableEq α] in
theorem dropLastIf_concat {test : α → Bool} {last : α} (text : List α) :
    dropLastIf test (text ++ [last]) = if test last then text else text ++ [last] := by
  rw [dropLastIf, List.reverse_append, List.reverse_singleton, List.singleton_append, dropFirstIf]
  split <;> simp

omit [DecidableEq α] in
theorem getLast?_ne_some_of_not_mem (absent : element ∉ text) : text.getLast? ≠ some element :=
  fun final => absent (List.mem_of_getLast? final)

omit [DecidableEq α] in
theorem dropFirstIf_eq_iff {test : α → Bool} {result : List α} :
    dropFirstIf test text = result ↔
      (∃ head, test head = true ∧ text = head :: result) ∨
        (∀ head ∈ text.head?, test head = false) ∧ text = result := by
  cases text with
  | nil => simp [dropFirstIf]
  | cons head rest =>
      rw [dropFirstIf]
      cases suited : test head with
      | true => simp [suited]
      | false => simp [suited]

omit [DecidableEq α] in
theorem dropLastIf_eq_iff {test : α → Bool} {result : List α} :
    dropLastIf test text = result ↔
      (∃ last, test last = true ∧ text = result ++ [last]) ∨
        (∀ last ∈ text.getLast?, test last = false) ∧ text = result := by
  rw [dropLastIf, List.reverse_eq_iff, dropFirstIf_eq_iff]
  simp only [List.reverse_eq_cons_iff, List.reverse_reverse, List.head?_reverse,
    List.reverse_inj]

theorem dropLastIf_eq_self (closed : text.getLast? ≠ some element) :
    dropLastIf (decide <| · = element) text = text := by
  refine dropLastIf_eq_iff.mpr (Or.inr ⟨?_, rfl⟩)
  rintro last final
  apply decide_eq_false
  rintro rfl
  exact closed final

/-! ## Leftmost occurrences -/

variable {behind? : Option (List α)} {parts : List (List α)}

/-- The occurrence of a mark that has the shortest text in front of it. -/
structure Leftmost (mark text front behind : List α) : Prop where
  whole : text = front ++ mark ++ behind
  first : ∀ otherFront otherBehind, text = otherFront ++ mark ++ otherBehind →
    front.length ≤ otherFront.length

/-- What stands in front of the leftmost mark, and what stands behind it.
Without a mark everything stands in front, and nothing is behind. -/
inductive Divides (mark text : List α) : List α → Option (List α) → Prop where
  | absent (free : ¬ mark <:+: text) : Divides mark text text none
  | found {front behind : List α} (leftmost : Leftmost mark text front behind) :
      Divides mark text front (some behind)

omit [DecidableEq α] in
theorem Leftmost.unique {otherFront otherBehind : List α}
    (one : Leftmost mark text front behind) (two : Leftmost mark text otherFront otherBehind) :
    front = otherFront ∧ behind = otherBehind := by
  have sameLength : front.length = otherFront.length :=
    Nat.le_antisymm (one.first _ _ two.whole) (two.first _ _ one.whole)
  have whole := one.whole.symm.trans two.whole
  rw [List.append_assoc, List.append_assoc] at whole
  rcases List.append_inj whole sameLength with ⟨same, rest⟩
  exact ⟨same, List.append_cancel_left rest⟩

theorem leftmost_of_cut? (found : cut? mark text = some (front, behind)) :
    Leftmost mark text front behind where
  whole := eq_append_of_cut? found
  first := fun _ _ other => (front_prefix_of_cut? found other).length_le

theorem cut?_eq_some_iff :
    cut? mark text = some (front, behind) ↔ Leftmost mark text front behind := by
  constructor
  · exact leftmost_of_cut?
  · intro leftmost
    cases found : cut? mark text with
    | none => exact absurd ⟨front, behind, leftmost.whole.symm⟩ (cut?_eq_none_iff.mp found)
    | some parts =>
        rcases leftmost.unique (leftmost_of_cut? found) with ⟨rfl, rfl⟩
        rfl

/-- What stands behind the leftmost mark can be exchanged. -/
theorem Leftmost.exchange (nonempty : mark ≠ []) (leftmost : Leftmost mark text front behind)
    (other : List α) : Leftmost mark (front ++ mark ++ other) front other := by
  have found := cut?_eq_some_iff.mpr leftmost
  rw [leftmost.whole, cut?_append_iff nonempty] at found
  exact leftmost_of_cut? ((cut?_append_iff nonempty front other).mpr found)

theorem divides_iff : Divides mark text front behind? ↔
    (cut? mark text = none ∧ front = text ∧ behind? = none) ∨
      ∃ behind, cut? mark text = some (front, behind) ∧ behind? = some behind := by
  constructor
  · intro divides
    cases divides with
    | absent free => exact Or.inl ⟨cut?_eq_none_iff.mpr free, rfl, rfl⟩
    | found leftmost => exact Or.inr ⟨_, cut?_eq_some_iff.mpr leftmost, rfl⟩
  · rintro (⟨missing, rfl, rfl⟩ | ⟨behind, found, rfl⟩)
    · exact .absent (cut?_eq_none_iff.mp missing)
    · exact .found (leftmost_of_cut? found)

theorem before_eq_iff : before mark text = front ↔ ∃ behind?, Divides mark text front behind? := by
  simp only [divides_iff, before]
  cases cut? mark text with
  | none => simp [eq_comm]
  | some parts => simp [Prod.ext_iff]

/-- Every text is divided by every mark. -/
theorem divides_before (mark text : List α) :
    ∃ behind?, Divides mark text (before mark text) behind? :=
  before_eq_iff.mp rfl

theorem eraseFirst_eq_iff {result : List α} : eraseFirst mark text = result ↔
    ∃ front behind?, Divides mark text front behind? ∧ result = front ++ behind?.getD [] := by
  simp only [divides_iff, eraseFirst]
  cases cut? mark text with
  | none => simp [eq_comm]
  | some parts => simp [Prod.ext_iff, eq_comm]

/-- The pieces are the only parts without a separator that can be joined to the text. -/
theorem pieces_eq_iff : pieces separator text = parts ↔
    parts ≠ [] ∧ (∀ part ∈ parts, separator ∉ part) ∧ text = [separator].intercalate parts := by
  constructor
  · rintro rfl
    exact ⟨pieces_ne_nil separator text, fun _ => not_mem_of_mem_pieces,
      (intercalate_pieces separator text).symm⟩
  · rintro ⟨nonempty, free, rfl⟩
    exact pieces_intercalate free nonempty

end Text
end Tabular
