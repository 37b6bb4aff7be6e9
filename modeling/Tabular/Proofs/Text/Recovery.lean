import Mathlib.Data.List.Basic

namespace Tabular
namespace Text

/-!
# Written forms that give their value back

A written form is recoverable when its value is settled by any text that starts
with it, provided that what comes behind is of a kind that may come there.  A
quoted text needs no such proviso; a decimal does, because another digit would
go on with it.  Pairs of recoverable forms are recoverable, and so are lists
that are closed by a mark with which no item starts.
-/

variable {α β γ : Type} {follows : List γ → Prop} {write : α → List γ}

/-- The value can be told from any text that starts with its written form and
goes on with something that may follow. -/
def Recoverable (follows : List γ → Prop) (write : α → List γ) : Prop :=
  ∀ ⦃left right : α⦄ ⦃rest other : List γ⦄, follows rest → follows other →
    write left ++ rest = write right ++ other → left = right

namespace Recoverable

/-- With the value, what comes behind its written form is known as well. -/
theorem rest_eq (recoverable : Recoverable follows write) {left right : α} {rest other : List γ}
    (here : follows rest) (there : follows other)
    (same : write left ++ rest = write right ++ other) : left = right ∧ rest = other := by
  have equal := recoverable here there same
  rw [equal] at same
  exact ⟨equal, List.append_cancel_left same⟩

theorem injective (recoverable : Recoverable follows write) (atEnd : follows []) :
    Function.Injective write := by
  intro left right same
  apply recoverable atEnd atEnd
  rw [same]

/-- A reader that finds a value whatever follows tells it. -/
theorem of_read {view : α → β} (read : List γ → β) (injective : Function.Injective view)
    (reads : ∀ value rest, follows rest → read (write value ++ rest) = view value) :
    Recoverable follows write := by
  intro left right rest other here there same
  apply injective
  rw [← reads left rest here, ← reads right other there, same]

theorem restrict {fewer : List γ → Prop} (recoverable : Recoverable follows write)
    (may : ∀ rest, fewer rest → follows rest) : Recoverable fewer write := by
  intro left right rest other here there same
  exact recoverable (may rest here) (may other there) same

theorem comp {view : β → α} (recoverable : Recoverable follows write)
    (injective : Function.Injective view) : Recoverable follows (write ∘ view) := by
  intro left right rest other here there same
  exact injective (recoverable here there same)

/-- A constant text in front tells nothing and takes nothing away. -/
theorem prepend (recoverable : Recoverable follows write) (front : List γ) :
    Recoverable follows fun value => front ++ write value := by
  intro left right rest other here there same
  rw [List.append_assoc, List.append_assoc] at same
  exact recoverable here there (List.append_cancel_left same)

/-- Two values behind one another, when the second is something that may follow the first. -/
theorem append {second : β → List γ} {between : List γ → Prop}
    (first : Recoverable between write) (last : Recoverable follows second)
    (joins : ∀ value rest, follows rest → between (second value ++ rest)) :
    Recoverable follows fun pair : α × β => write pair.1 ++ second pair.2 := by
  intro left right rest other here there same
  rw [List.append_assoc, List.append_assoc] at same
  rcases first.rest_eq (joins left.2 rest here) (joins right.2 other there) same with
    ⟨early, behind⟩
  exact Prod.ext early (last here there behind)

/-- A constant text behind is the first thing that follows. -/
theorem close {within : List γ → Prop} (recoverable : Recoverable within write) (back : List γ)
    (joins : ∀ rest, follows rest → within (back ++ rest)) :
    Recoverable follows fun value => write value ++ back := by
  intro left right rest other here there same
  rw [List.append_assoc, List.append_assoc] at same
  exact recoverable (joins rest here) (joins other there) same

/-! ## Lists -/

/-- Values behind one another and a mark that starts none of them. -/
theorem flatMap {mark : γ} (recoverable : Recoverable follows write)
    (opens : ∀ value rest, (write value ++ rest).head? ≠ some mark)
    (joins : ∀ (values : List α) rest, follows (values.flatMap write ++ mark :: rest)) :
    Recoverable (fun _ => True) fun values : List α => values.flatMap write ++ [mark] := by
  intro left right rest other _ _ same
  rw [List.append_assoc, List.append_assoc, List.singleton_append, List.singleton_append] at same
  induction left generalizing right with
  | nil =>
      cases right with
      | nil => rfl
      | cons value others =>
          rw [List.flatMap_cons, List.append_assoc] at same
          exact absurd (congrArg List.head? same.symm) (opens value _)
  | cons value values inductionHypothesis =>
      cases right with
      | nil =>
          rw [List.flatMap_cons, List.append_assoc] at same
          exact absurd (congrArg List.head? same) (opens value _)
      | cons first others =>
          rw [List.flatMap_cons, List.flatMap_cons, List.append_assoc, List.append_assoc] at same
          rcases recoverable.rest_eq (joins values rest) (joins others other) same with
            ⟨heads, behind⟩
          rw [heads, inductionHypothesis behind]

end Recoverable

theorem intercalate_cons_eq (separator : γ) (first : List γ) (others : List (List γ)) :
    [separator].intercalate (first :: others) =
      first ++ others.flatMap fun part => separator :: part := by
  induction others generalizing first with
  | nil => simp
  | cons second others inductionHypothesis =>
      rw [List.intercalate_cons_cons, inductionHypothesis, List.flatMap_cons, List.append_assoc]
      rfl

/-- Values with a separator in between, and a mark that is neither the
separator nor the start of a value. -/
theorem Recoverable.intercalate {mark : γ} (separator : γ) (apart : separator ≠ mark)
    (recoverable : Recoverable follows write)
    (opens : ∀ value rest, (write value ++ rest).head? ≠ some mark)
    (separates : ∀ rest, follows (separator :: rest)) (closes : ∀ rest, follows (mark :: rest)) :
    Recoverable (fun _ => True) fun values : List α =>
      [separator].intercalate (values.map write) ++ [mark] := by
  have joins : ∀ (values : List α) rest,
      follows (values.flatMap (fun value => separator :: write value) ++ mark :: rest) := by
    intro values rest
    cases values with
    | nil => exact closes rest
    | cons value others => exact separates _
  have tails : Recoverable (fun _ => True) fun values : List α =>
      values.flatMap (fun value => separator :: write value) ++ [mark] := by
    refine (recoverable.prepend [separator]).flatMap ?_ joins
    intro value rest same
    exact apart (Option.some.inj same)
  have whole : ∀ value (values : List α) rest,
      [separator].intercalate ((value :: values).map write) ++ [mark] ++ rest =
        write value ++ (values.flatMap (fun value => separator :: write value) ++ mark :: rest) := by
    intro value values rest
    rw [List.map_cons, intercalate_cons_eq, List.flatMap_map, List.append_assoc,
      List.append_assoc]
    rfl
  -- Only the first value has no separator in front of it.
  intro left right rest other _ _ same
  cases left with
  | nil =>
      cases right with
      | nil => rfl
      | cons value others =>
          rw [whole] at same
          exact absurd (congrArg List.head? same.symm) (opens value _)
  | cons value values =>
      cases right with
      | nil =>
          rw [whole] at same
          exact absurd (congrArg List.head? same) (opens value _)
      | cons first others =>
          rw [whole, whole] at same
          rcases recoverable.rest_eq (joins values rest) (joins others other) same with
            ⟨heads, behind⟩
          have equal : values = others := by
            refine @tails values others rest other trivial trivial ?_
            rw [List.append_assoc, List.append_assoc]
            exact behind
          rw [heads, equal]

end Text
end Tabular
