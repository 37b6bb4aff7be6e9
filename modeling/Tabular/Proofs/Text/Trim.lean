import Mathlib.Data.List.DropRight
import Tabular.Text

namespace Tabular
namespace Text

/-!
# What trimming keeps

A text is its own trim exactly when neither of its ends is blank.  Everything
else here follows from that criterion or from the fact that only blanks are
taken away: trimming twice is trimming once, blanks added at an end disappear
again, and every character that is not blank is kept as often as it occurs.
-/

variable {character : Char} {text front behind blanks : List Char}

theorem trimEnd_eq_rdropWhile (text : List Char) : trimEnd text = text.rdropWhile isBlank :=
  rfl

theorem trimStart_eq_self_iff :
    trimStart text = text ↔ ∀ head ∈ text.head?, isBlank head = false := by
  cases text with
  | nil => simp [trimStart]
  | cons head rest =>
      by_cases blank : isBlank head = true
      · have shorter : (rest.dropWhile isBlank).length < (head :: rest).length :=
          Nat.lt_succ_of_le (List.dropWhile_suffix isBlank).length_le
        have different : rest.dropWhile isBlank ≠ head :: rest := by
          intro equal
          rw [equal] at shorter
          exact Nat.lt_irrefl _ shorter
        simp [trimStart, blank, different]
      · simp [trimStart, blank]

theorem trimEnd_eq_self_iff :
    trimEnd text = text ↔ ∀ last ∈ text.getLast?, isBlank last = false := by
  rw [trimEnd_eq_rdropWhile, List.rdropWhile_eq_self_iff]
  constructor
  · intro visible last final
    rcases List.mem_getLast?_eq_getLast final with ⟨nonempty, rfl⟩
    simpa using visible nonempty
  · intro visible nonempty
    simpa using visible _ (List.getLast?_eq_some_getLast nonempty)

theorem trimEnd_isPrefix (text : List Char) : trimEnd text <+: text :=
  List.rdropWhile_prefix isBlank text

theorem trim_subset (text : List Char) : trim text ⊆ text :=
  fun _ member => (List.dropWhile_suffix isBlank).subset
    ((trimEnd_isPrefix (trimStart text)).subset member)

/-- The trim never begins with a blank, even where the end was cut as well. -/
theorem trimStart_trim (text : List Char) : trimStart (trim text) = trim text := by
  rw [trimStart_eq_self_iff]
  intro head first
  have start : ∀ head ∈ (trimStart text).head?, isBlank head = false := by
    rw [← trimStart_eq_self_iff]
    exact List.dropWhile_idempotent isBlank text
  apply start head
  rcases trimEnd_isPrefix (trimStart text) with ⟨rest, same⟩
  rw [← same]
  exact List.mem_head?_append_of_mem_head? first

theorem trimEnd_trim (text : List Char) : trimEnd (trim text) = trim text :=
  List.rdropWhile_idempotent isBlank (trimStart text)

theorem trim_trim (text : List Char) : trim (trim text) = trim text := by
  rw [trim, trimStart_trim, trimEnd_trim]

/-- A text is trimmed exactly when it neither begins nor ends with a blank. -/
theorem trim_eq_self_iff : trim text = text ↔
    (∀ head ∈ text.head?, isBlank head = false) ∧ ∀ last ∈ text.getLast?, isBlank last = false := by
  rw [← trimStart_eq_self_iff, ← trimEnd_eq_self_iff]
  constructor
  · intro same
    rw [← same]
    exact ⟨trimStart_trim text, trimEnd_trim text⟩
  · rintro ⟨start, final⟩
    rw [trim, start, final]

theorem trim_eq_nil_iff : trim text = [] ↔ ∀ character ∈ text, isBlank character = true := by
  rw [trim, trimEnd_eq_rdropWhile, List.rdropWhile_eq_nil_iff]
  constructor
  · intro blank character member
    rw [← List.takeWhile_append_dropWhile (p := isBlank) (l := text)] at member
    rcases List.mem_append.mp member with early | late
    · exact List.mem_takeWhile_imp early
    · exact blank character late
  · intro blank character member
    exact blank character ((List.dropWhile_suffix isBlank).subset member)

theorem trim_ne_nil_of_visible (visible : ∃ character ∈ text, isBlank character = false) :
    trim text ≠ [] := by
  rw [Ne, trim_eq_nil_iff]
  intro blank
  rcases visible with ⟨character, inside, notBlank⟩
  rw [blank character inside] at notBlank
  cases notBlank

/-! ## Blanks at the ends -/

theorem trimStart_append_of_blank (blank : ∀ character ∈ blanks, isBlank character = true) :
    trimStart (blanks ++ text) = trimStart text :=
  List.dropWhile_append_of_pos blank

theorem trimEnd_append_of_blank (blank : ∀ character ∈ blanks, isBlank character = true) :
    trimEnd (text ++ blanks) = trimEnd text := by
  rw [trimEnd, List.reverse_append, List.dropWhile_append_of_pos, trimEnd]
  intro character member
  exact blank character (List.mem_reverse.mp member)

/-- Blanks behind a text do not change its trim.  The trim of a blank text is
empty, so the text in front may be blank as well. -/
theorem trim_append_of_blank (blank : ∀ character ∈ blanks, isBlank character = true) :
    trim (text ++ blanks) = trim text := by
  by_cases empty : trimStart text = []
  · have allBlank : ∀ character ∈ text, isBlank character = true := by
      simpa [trimStart] using empty
    rw [trim, trimStart_append_of_blank allBlank, trim, empty]
    exact trim_eq_nil_iff.mpr blank
  · have kept : trimStart (text ++ blanks) = trimStart text ++ blanks := by
      exact List.dropWhile_append.trans (if_neg (mt List.isEmpty_iff.mp empty))
    rw [trim, kept, trimEnd_append_of_blank blank, trim]

theorem trim_blank_append (blank : ∀ character ∈ blanks, isBlank character = true) :
    trim (blanks ++ text) = trim text := by
  rw [trim, trimStart_append_of_blank blank, trim]

theorem trim_cons_of_blank (blank : isBlank character = true) :
    trim (character :: text) = trim text := by
  rw [trim, trimStart, List.dropWhile_cons_of_pos blank, trim, trimStart]

theorem trimStart_cons_of_visible (visible : isBlank character = false) :
    trimStart (character :: text) = character :: text :=
  List.dropWhile_cons_of_neg (by simp [visible])

/-- The end of a text is cut alone when something behind a given place is not blank. -/
theorem trimEnd_append_of_visible (visible : ∃ character ∈ behind, isBlank character = false) :
    trimEnd (front ++ behind) = front ++ trimEnd behind := by
  have reached : behind.reverse.dropWhile isBlank ≠ [] := by
    rw [Ne, List.dropWhile_eq_nil_iff]
    rcases visible with ⟨character, member, notBlank⟩
    intro blank
    simp [blank character (List.mem_reverse.mpr member)] at notBlank
  rw [trimEnd, List.reverse_append, List.dropWhile_append, if_neg (by simpa using reached),
    List.reverse_append, List.reverse_reverse, trimEnd]

/-- What trimming at the end takes away is blank. -/
theorem exists_blanks_behind (text : List Char) :
    ∃ blanks, (∀ character ∈ blanks, isBlank character = true) ∧
      text = trimEnd text ++ blanks := by
  refine ⟨(text.reverse.takeWhile isBlank).reverse, ?_, ?_⟩
  · intro character member
    exact List.mem_takeWhile_imp (List.mem_reverse.mp member)
  · rw [trimEnd, ← List.reverse_append, List.takeWhile_append_dropWhile, List.reverse_reverse]

/-! ## Counting what is kept -/

theorem count_dropWhile_isBlank (visible : isBlank character = false) (text : List Char) :
    (text.dropWhile isBlank).count character = text.count character := by
  have absent : (text.takeWhile isBlank).count character = 0 := by
    rw [List.count_eq_zero]
    intro member
    simp [List.mem_takeWhile_imp member] at visible
  conv_rhs => rw [← List.takeWhile_append_dropWhile (p := isBlank) (l := text)]
  rw [List.count_append, absent, Nat.zero_add]

/-- A character that is not blank occurs in the trim as often as in the text. -/
theorem count_trim (visible : isBlank character = false) (text : List Char) :
    (trim text).count character = text.count character := by
  rw [trim, trimEnd, List.count_reverse, count_dropWhile_isBlank visible, List.count_reverse,
    trimStart, count_dropWhile_isBlank visible]

end Text
end Tabular
