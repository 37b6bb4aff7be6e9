import Tabular.Proofs.Text.Split
import Tabular.Text

namespace Tabular
namespace Text

/-!
# Lines of texts

A text is a last line, or a line, a feed and a text.  Facts about its lines are
proved by this induction.

Lines that hold no line feed, end in no carriage return and are not empty are
found again in the text that joins them.  A text without carriage returns has
the same lines when it is written with a return in front of every feed.
-/

/-! ## Joined lines -/

variable {α : Type} [DecidableEq α] {lineFeed carriageReturn : α} {lines : List (List α)}
  {line : List α}

theorem linesOf_of_not_mem (free : lineFeed ∉ line) :
    linesOf lineFeed carriageReturn line = if line.isEmpty then [] else [line] := by
  have whole : pieces lineFeed line = [line] := by
    rw [pieces_eq_splitOn]
    exact List.splitOn_eq_singleton free
  rw [linesOf, whole, closeLines]

/-- The first line ends at the first feed, and does not affect the others. -/
theorem linesOf_append_feed (free : lineFeed ∉ line) (rest : List α) :
    linesOf lineFeed carriageReturn (line ++ lineFeed :: rest) =
      dropLastIf (decide <| · = carriageReturn) line :: linesOf lineFeed carriageReturn rest := by
  have first : pieces lineFeed (line ++ lineFeed :: rest) = line :: pieces lineFeed rest := by
    rw [pieces_append_left free, pieces, if_pos rfl, List.modifyHead_cons, List.append_nil]
  rw [linesOf, first, linesOf]
  cases others : pieces lineFeed rest with
  | nil => exact absurd others (pieces_ne_nil lineFeed rest)
  | cons next others => rw [closeLines]

/-- Only the last piece needs a closer look: without a feed behind it, it is a
line when there is something in it. -/
theorem closeLines_concat (closed : ∀ line ∈ lines, line.getLast? ≠ some carriageReturn)
    (last : List α) : closeLines carriageReturn (lines ++ [last]) =
      lines ++ if last.isEmpty then [] else [last] := by
  induction lines with
  | nil => rfl
  | cons line others inductionHypothesis =>
      have kept : dropLastIf (decide <| · = carriageReturn) line = line :=
        dropLastIf_eq_self (closed line List.mem_cons_self)
      have later := inductionHypothesis fun other member =>
        closed other (List.mem_cons_of_mem line member)
      cases others with
      | nil => rw [List.singleton_append, closeLines, kept]; rfl
      | cons next others =>
          rw [List.cons_append, List.cons_append, closeLines, kept, ← List.cons_append, later]
          rfl

theorem linesOf_intercalate (free : ∀ line ∈ lines, lineFeed ∉ line)
    (closed : ∀ line ∈ lines, line.getLast? ≠ some carriageReturn)
    (filled : ∀ line ∈ lines, line ≠ []) :
    linesOf lineFeed carriageReturn ([lineFeed].intercalate lines) = lines := by
  cases List.eq_nil_or_concat lines with
  | inl empty => rw [empty]; rfl
  | inr split =>
      rcases split with ⟨front, last, rfl⟩
      rw [List.concat_eq_append] at free closed filled ⊢
      have filledLast := filled last (List.mem_append_right front List.mem_cons_self)
      rw [linesOf, pieces_intercalate free (by simp), closeLines_concat, if_neg]
      · rwa [List.isEmpty_iff]
      · exact fun line member => closed line (List.mem_append_left [last] member)

theorem linesOf_intercalate_feed (nonempty : lines ≠ []) (free : ∀ line ∈ lines, lineFeed ∉ line)
    (closed : ∀ line ∈ lines, line.getLast? ≠ some carriageReturn) :
    linesOf lineFeed carriageReturn ([lineFeed].intercalate lines ++ [lineFeed]) = lines := by
  have freeMore : ∀ line ∈ lines ++ [[]], lineFeed ∉ line := by
    intro line member
    rcases List.mem_append.mp member with present | single
    · exact free line present
    · rw [List.mem_singleton.mp single]
      exact List.not_mem_nil
  rw [linesOf, ← intercalate_concat_nil nonempty, pieces_intercalate freeMore (by simp),
    closeLines_concat closed]
  exact List.append_nil lines

/-! ## Line ends -/

variable {text ending : List α}

/-- A text is a last line, or a line, a feed and a text. -/
theorem lineInduction {motive : List α → Prop} (lineFeed : α)
    (last : ∀ line, lineFeed ∉ line → motive line)
    (next : ∀ line rest, lineFeed ∉ line → motive rest → motive (line ++ lineFeed :: rest))
    (text : List α) : motive text := by
  have joined : ∀ parts : List (List α), parts ≠ [] → (∀ part ∈ parts, lineFeed ∉ part) →
      motive ([lineFeed].intercalate parts) := by
    intro parts
    induction parts with
    | nil => exact fun nonempty => absurd rfl nonempty
    | cons part others inductionHypothesis =>
        intro _ free
        rw [List.forall_mem_cons] at free
        cases others with
        | nil =>
            rw [List.intercalate_singleton]
            exact last part free.1
        | cons second others =>
            rw [List.intercalate_cons_cons, List.append_assoc]
            exact next part _ free.1 (inductionHypothesis (List.cons_ne_nil second others) free.2)
  rw [← intercalate_pieces lineFeed text]
  exact joined _ (pieces_ne_nil lineFeed text) fun part member => not_mem_of_mem_pieces member

/-- A text with a carriage return in front of every feed. -/
def withReturns (lineFeed carriageReturn : α) (text : List α) : List α :=
  text.flatMap fun letter => if letter = lineFeed then [carriageReturn, lineFeed] else [letter]

/-! ## Returns in front of the feeds -/

theorem withReturns_of_not_mem (free : lineFeed ∉ line) :
    withReturns lineFeed carriageReturn line = line := by
  induction line with
  | nil => rfl
  | cons letter rest inductionHypothesis =>
      rw [List.mem_cons, not_or] at free
      rw [withReturns, List.flatMap_cons, if_neg (Ne.symm free.1)]
      exact congrArg (letter :: ·) (inductionHypothesis free.2)

theorem withReturns_append_feed (free : lineFeed ∉ line) (rest : List α) :
    withReturns lineFeed carriageReturn (line ++ lineFeed :: rest) =
      line ++ [carriageReturn] ++ lineFeed :: withReturns lineFeed carriageReturn rest := by
  have front : withReturns lineFeed carriageReturn line = line := withReturns_of_not_mem free
  rw [withReturns] at front ⊢
  rw [List.flatMap_append, front, List.flatMap_cons, if_pos rfl, List.append_assoc]
  rfl

/-- A line that is ended by a return and a feed loses both. -/
theorem linesOf_append_return_feed (free : lineFeed ∉ line) (different : carriageReturn ≠ lineFeed)
    (rest : List α) :
    linesOf lineFeed carriageReturn (line ++ [carriageReturn] ++ lineFeed :: rest) =
      line :: linesOf lineFeed carriageReturn rest := by
  have longer : lineFeed ∉ line ++ [carriageReturn] := by
    rw [List.mem_append, List.mem_singleton, not_or]
    exact ⟨free, Ne.symm different⟩
  rw [linesOf_append_feed longer, dropLastIf_concat, if_pos (decide_eq_true rfl)]

/-- A line that holds no return is ended by the feed alone. -/
theorem linesOf_append_feed_of_not_mem (free : lineFeed ∉ line) (returnFree : carriageReturn ∉ line)
    (rest : List α) :
    linesOf lineFeed carriageReturn (line ++ lineFeed :: rest) =
      line :: linesOf lineFeed carriageReturn rest := by
  rw [linesOf_append_feed free, dropLastIf_eq_self (getLast?_ne_some_of_not_mem returnFree)]

theorem linesOf_withReturns (different : carriageReturn ≠ lineFeed)
    (returnFree : carriageReturn ∉ text) :
    linesOf lineFeed carriageReturn (withReturns lineFeed carriageReturn text) =
      linesOf lineFeed carriageReturn text := by
  induction text using lineInduction lineFeed with
  | last line free => rw [withReturns_of_not_mem free]
  | next line rest free inductionHypothesis =>
      rw [List.mem_append, List.mem_cons, not_or, not_or] at returnFree
      rw [withReturns_append_feed free, linesOf_append_return_feed free different,
        linesOf_append_feed_of_not_mem free returnFree.1, inductionHypothesis returnFree.2.2]

/-! ## A further end -/

/-- Behind a text without returns an end of either kind adds nothing, or one empty line. -/
theorem linesOf_append_ending (different : carriageReturn ≠ lineFeed)
    (returnFree : carriageReturn ∉ text)
    (ended : ending = [lineFeed] ∨ ending = [carriageReturn, lineFeed]) :
    linesOf lineFeed carriageReturn (text ++ ending) = linesOf lineFeed carriageReturn text ∨
      linesOf lineFeed carriageReturn (text ++ ending) =
        linesOf lineFeed carriageReturn text ++ [[]] := by
  induction text using lineInduction lineFeed with
  | last line free =>
      have closed : linesOf lineFeed carriageReturn (line ++ ending) = [line] := by
        rcases ended with rfl | rfl
        · exact linesOf_append_feed_of_not_mem free returnFree []
        · have joined := linesOf_append_return_feed free different []
          rw [List.append_assoc] at joined
          exact joined
      rw [closed, linesOf_of_not_mem free]
      cases line with
      | nil => exact Or.inr rfl
      | cons letter rest => exact Or.inl rfl
  | next line rest free inductionHypothesis =>
      rw [List.mem_append, List.mem_cons, not_or, not_or] at returnFree
      rw [List.append_assoc, List.cons_append, linesOf_append_feed_of_not_mem free returnFree.1,
        linesOf_append_feed_of_not_mem free returnFree.1]
      rcases inductionHypothesis returnFree.2.2 with same | longer
      · exact Or.inl (congrArg (line :: ·) same)
      · exact Or.inr (congrArg (line :: ·) longer)

/-! ## The letters of a line -/

/-- No line holds a feed, nor a letter that the text does not hold. -/
theorem not_mem_and_subset_of_mem_linesOf (member : line ∈ linesOf lineFeed carriageReturn text) :
    lineFeed ∉ line ∧ line ⊆ text := by
  induction text using lineInduction lineFeed with
  | last whole free =>
      rw [linesOf_of_not_mem free] at member
      split at member
      · cases member
      · rw [List.mem_singleton.mp member]
        exact ⟨free, List.Subset.refl whole⟩
  | next first rest free inductionHypothesis =>
      rw [linesOf_append_feed free] at member
      rcases List.mem_cons.mp member with rfl | later
      · have within := (dropLastIf_isPrefix (decide <| · = carriageReturn) first).subset
        exact ⟨fun inside => free (within inside),
          List.Subset.trans within (List.subset_append_left first _)⟩
      · rcases inductionHypothesis later with ⟨feedFree, within⟩
        refine ⟨feedFree, ?_⟩
        intro letter inside
        exact List.mem_append_right first (List.mem_cons_of_mem lineFeed (within inside))

end Text
end Tabular
