import Tabular.Proofs.Query.Printed

namespace Tabular
namespace Query

open Log Text

/-!
# Blanks around a query text

Blanks around a query text are dropped as long as the text is divided where it
was before.  The filter mark ends in a space, so a text without a mark that ends
in the word of the mark is divided once a space follows it.  In this one case
the query becomes a different one: the names lose a letter `F`.
-/

variable {text early late front behind : List Char}

/-- Blanks behind a text make its last word a filter mark, the first one. -/
structure Completes (text late : List Char) : Prop where
  word : filterWord <:+ text
  unmarked : ¬ filterMark <:+: text
  space : late.head? = some ' '

/-! ## Marks among blanks -/

theorem not_mem_of_blank (blank : ∀ character ∈ late, isBlank character = true) : 'F' ∉ late := by
  intro inside
  exact absurd (blank 'F' inside) (by decide)

theorem filterMark_infix_blank_append (blank : ∀ character ∈ early, isBlank character = true)
    (text : List Char) : filterMark <:+: early ++ text ↔ filterMark <:+: text := by
  induction early with
  | nil => rfl
  | cons head rest inductionHypothesis =>
      rw [List.forall_mem_cons] at blank
      have other : head ≠ 'F' := by
        rintro rfl
        exact absurd blank.1 (by decide)
      rw [List.cons_append, filterMark_infix_cons other, inductionHypothesis blank.2]

theorem eq_space_of_mem_filterMark {letter : Char} (member : letter ∈ filterMark)
    (blank : isBlank letter = true) : letter = ' ' := by
  have blanks : filterMark.filter isBlank = [' '] := rfl
  have among := List.mem_filter.mpr ⟨member, blank⟩
  rw [blanks] at among
  exact List.mem_singleton.mp among

/-- Blanks behind a text bring a mark about only by their first character. -/
theorem filterMark_infix_append_blank (blank : ∀ character ∈ late, isBlank character = true)
    (text : List Char) : filterMark <:+: text ++ late ↔
      filterMark <:+: text ∨ filterWord <:+ text ∧ late.head? = some ' ' := by
  cases late with
  | nil => simp
  | cons head rest =>
      have free : ¬ filterMark <:+: rest := by
        intro inside
        exact not_mem_of_blank blank (List.mem_cons_of_mem head (inside.subset (by decide)))
      rw [List.forall_mem_cons] at blank
      by_cases space : head = ' '
      · rw [space, filterMark_infix_append_space, or_iff_left free, List.head?_cons]
        simp only [and_true]
      · have absent : head ∉ filterMark := by
          intro inside
          exact space (eq_space_of_mem_filterMark inside blank.1)
        rw [infix_append_cons_iff absent, or_iff_left free, List.head?_cons]
        simp only [Option.some.injEq, space, and_false, or_false]

/-! ## The division of a text with blanks around it -/

/-- A mark that is there is found again. -/
theorem cut?_surrounded (blank : ∀ character ∈ early, isBlank character = true)
    (found : cut? filterMark text = some (front, behind)) (late : List Char) :
    cut? filterMark (early ++ text ++ late) = some (early ++ front, behind ++ late) := by
  have whole : early ++ text ++ late = early ++ front ++ filterMark ++ (behind ++ late) := by
    rw [eq_append_of_cut? found]
    simp only [List.append_assoc]
  rw [eq_append_of_cut? found, cut?_append_iff filterMark_ne_nil] at found
  rw [whole, cut?_append_iff filterMark_ne_nil, List.append_assoc,
    List.dropLast_append_of_ne_nil (List.append_ne_nil_of_right_ne_nil _ filterMark_ne_nil),
    filterMark_infix_blank_append blank]
  exact found

theorem divide_surrounded (earlyBlank : ∀ character ∈ early, isBlank character = true)
    (lateBlank : ∀ character ∈ late, isBlank character = true)
    (incomplete : ¬ Completes text late) : divide (early ++ text ++ late) = divide text := by
  cases found : cut? filterMark text with
  | some parts =>
      rw [divide, cut?_surrounded earlyBlank found late, divide, found]
      simp only [trim_blank_append earlyBlank, trim_append_of_blank lateBlank]
  | none =>
      have unmarked := cut?_eq_none_iff.mp found
      have still : cut? filterMark (early ++ text ++ late) = none := by
        rw [cut?_eq_none_iff, List.append_assoc, filterMark_infix_blank_append earlyBlank,
          filterMark_infix_append_blank lateBlank]
        rintro (inside | ⟨word, space⟩)
        · exact unmarked inside
        · exact incomplete ⟨word, unmarked, space⟩
      rw [divide, still, divide, found]
      simp only [trim_blank_append earlyBlank, trim_append_of_blank lateBlank, List.append_assoc]

/-- A completed mark divides a text behind which there are only blanks. -/
theorem divide_of_completes (earlyBlank : ∀ character ∈ early, isBlank character = true)
    (lateBlank : ∀ character ∈ late, isBlank character = true) (completes : Completes text late) :
    ∃ front, text = front ++ filterWord ∧
      divide (early ++ text ++ late) = (trim (early ++ front), []) := by
  rcases completes.word with ⟨front, rfl⟩
  rcases List.head?_eq_some_iff.mp completes.space with ⟨rest, rfl⟩
  have whole : early ++ (front ++ filterWord) ++ ' ' :: rest =
      early ++ front ++ filterMark ++ rest := by
    simp [filterMark_eq]
  have upTo : (early ++ front ++ filterMark).dropLast = early ++ (front ++ filterWord) := by
    rw [filterMark_eq, ← List.append_assoc, List.dropLast_concat, List.append_assoc]
  have found := (cut?_append_iff filterMark_ne_nil (early ++ front) rest).mpr (by
    rw [upTo, filterMark_infix_blank_append earlyBlank]
    exact completes.unmarked)
  refine ⟨front, rfl, ?_⟩
  rw [whole, divide, found]
  simp only [trim_eq_nil_iff.mpr (List.forall_mem_cons.mp lateBlank).2]

/-- Texts with different numbers of the letter `F` are not read as the same names. -/
theorem readNames_trim_ne (different : front.count 'F' ≠ behind.count 'F') :
    readNames (trim front) ≠ readNames (trim behind) := by
  intro same
  have kept : ∀ part, ((readNames (trim part)).map String.toList).flatten.count 'F' =
      part.count 'F' := by
    intro part
    rw [count_readNames (by decide) (by decide) (by decide), count_trim (by decide)]
  exact different (by rw [← kept front, same, kept behind])

/-- Blanks around a text leave what it is read as alone, unless those behind it
complete a filter mark.  Then it is never read as the same query. -/
theorem parse_surrounded_iff {early late : String}
    (earlyBlank : ∀ character ∈ early.toList, isBlank character = true)
    (lateBlank : ∀ character ∈ late.toList, isBlank character = true) (text : String) :
    (parse (early ++ text ++ late)).outcome = (parse text).outcome ↔
      ¬ Completes text.toList late.toList := by
  have whole : (early ++ text ++ late).toList = early.toList ++ text.toList ++ late.toList := by
    simp only [String.toList_append]
  constructor
  · intro same completes
    rcases divide_of_completes earlyBlank lateBlank completes with ⟨front, split, divided⟩
    rw [parse_of_unmarked completes.unmarked, parse_outcome, whole, divided, split] at same
    have names : readNames (trim (early.toList ++ front)) =
        readNames (trim (front ++ filterWord)) :=
      congrArg Query.projection (Except.ok.inj same)
    refine readNames_trim_ne ?_ names
    have none := List.count_eq_zero.mpr (not_mem_of_blank earlyBlank)
    have one : filterWord.count 'F' = 1 := rfl
    rw [List.count_append, List.count_append, none, one]
    omega
  · intro incomplete
    rw [parse_outcome, parse_outcome, whole, divide_surrounded earlyBlank lateBlank incomplete]

/-- The second word is no mark in spite of the space behind it, because the first one is. -/
theorem parse_surrounded_iff_twoWords :
    (∀ character ∈ "\u3000\n".toList, isBlank character = true) ∧
      (∀ character ∈ " \u2028".toList, isBlank character = true) ∧
      ((parse ("\u3000\n" ++ "a FILTER b=FILTER" ++ " \u2028")).outcome =
          (parse "a FILTER b=FILTER").outcome ↔
        ¬ Completes "a FILTER b=FILTER".toList " \u2028".toList) := by
  have earlyBlank : ∀ character ∈ "\u3000\n".toList, isBlank character = true :=
    List.all_eq_true.mp (by decide)
  have lateBlank : ∀ character ∈ " \u2028".toList, isBlank character = true :=
    List.all_eq_true.mp (by decide)
  exact ⟨earlyBlank, lateBlank, parse_surrounded_iff earlyBlank lateBlank _⟩

/-- The word is a name without the space and a part of the mark with it. -/
example : (parse "a, FILTER").outcome = .ok (.mk ["a", "FILTER"] .absent) ∧
    (parse "a, FILTER ").outcome = .ok (.mk ["a", ""] .absent) :=
  ⟨rfl, rfl⟩

end Query
end Tabular
