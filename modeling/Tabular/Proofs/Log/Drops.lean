import Mathlib.Data.List.TakeWhile
import Tabular.Log.Logged

namespace Tabular
namespace Log

/-!
# Dropped fields in a trail

A computation can be stopped at the first report of a cut line: it keeps the
trail in front of the report, and fails with a reason made of it.  A sequence is
stopped by stopping its steps.
-/

/-- The line that was cut and the number of fields it lost, when an event
reports this. -/
def Event.drop? : Event → Option (Nat × Nat)
  | .fieldsDropped line extra => some (line, extra)
  | _ => none

namespace Logged

variable {α β ε ε' : Type} {computation first : Logged ε α} {next : α → Logged ε β}
  {refusal : Nat × Nat → ε} {drop : Nat × Nat} {others : List (Nat × Nat)}

/-- The lines that were cut, each with the number of fields it lost, in order. -/
def drops (computation : Logged ε α) : List (Nat × Nat) :=
  computation.events.filterMap Event.drop?

/-- A computation that fails at the first report of a cut line. -/
def stopAtDrop (refusal : Nat × Nat → ε) (computation : Logged ε α) : Logged ε α :=
  match computation.drops with
  | [] => computation
  | drop :: _ =>
      ⟨computation.events.takeWhile fun event => event.drop?.isNone, .error (refusal drop)⟩

theorem stopAtDrop_of_nil (none : computation.drops = []) :
    computation.stopAtDrop refusal = computation := by
  rw [stopAtDrop, none]

theorem stopAtDrop_of_cons (found : computation.drops = drop :: others) :
    computation.stopAtDrop refusal =
      ⟨computation.events.takeWhile fun event => event.drop?.isNone, .error (refusal drop)⟩ := by
  rw [stopAtDrop, found]

/-! ## Reports of a sequence -/

theorem bind_of_error {failure : ε} (fails : first.outcome = .error failure) :
    first >>= next = ⟨first.events, .error failure⟩ := by
  change andThen first next = _
  rw [andThen, fails]

theorem bind_of_ok {value : α} (succeeds : first.outcome = .ok value) :
    first >>= next = ⟨first.events ++ (next value).events, (next value).outcome⟩ := by
  change andThen first next = _
  rw [andThen, succeeds]

theorem drops_bind_of_error {failure : ε} (fails : first.outcome = .error failure) :
    (first >>= next).drops = first.drops := by
  rw [bind_of_error fails]
  rfl

theorem drops_bind_of_ok {value : α} (succeeds : first.outcome = .ok value) :
    (first >>= next).drops = first.drops ++ (next value).drops := by
  rw [bind_of_ok succeeds]
  exact List.filterMap_append

/-- What reports nothing can be left out behind a computation. -/
theorem drops_bind_of_silent (silent : ∀ value, (next value).drops = []) :
    (first >>= next).drops = first.drops := by
  cases outcome : first.outcome with
  | error failure => exact drops_bind_of_error outcome
  | ok value => rw [drops_bind_of_ok outcome, silent value, List.append_nil]

/-- A traversal reports what its steps report, as far as it gets. -/
theorem drops_mapM_isPrefix (step : α → Logged ε β) (values : List α) :
    (values.mapM step).drops <+: values.flatMap fun value => (step value).drops := by
  induction values with
  | nil => exact List.prefix_rfl
  | cons value values inductionHypothesis =>
      rw [List.mapM_cons, List.flatMap_cons]
      cases outcome : (step value).outcome with
      | error failure =>
          rw [drops_bind_of_error outcome]
          exact List.prefix_append ..
      | ok result =>
          have collected : (values.mapM step >>= fun results => pure (result :: results)).drops =
              (values.mapM step).drops :=
            drops_bind_of_silent fun _ => rfl
          rw [drops_bind_of_ok outcome, collected, List.prefix_append_right_inj]
          exact inductionHypothesis

/-! ## Stopping a sequence -/

theorem drops_eq_nil_iff :
    computation.drops = [] ↔ ∀ event ∈ computation.events, event.drop?.isNone = true := by
  simp only [drops, List.filterMap_eq_nil_iff, Option.isNone_iff_eq_none]

theorem takeWhile_append_of_drops (reported : computation.drops = drop :: others)
    (later : List Event) :
    (computation.events ++ later).takeWhile (fun event => event.drop?.isNone) =
      computation.events.takeWhile fun event => event.drop?.isNone := by
  have stops : ¬ (computation.events.takeWhile fun event => event.drop?.isNone).length =
      computation.events.length := by
    intro whole
    have passed := (List.takeWhile_prefix fun event : Event => event.drop?.isNone).eq_of_length whole
    rw [List.takeWhile_eq_self_iff, ← drops_eq_nil_iff, reported] at passed
    cases passed
  rw [List.takeWhile_append, if_neg stops]

/-- A sequence is stopped by stopping its two parts. -/
theorem stopAtDrop_bind (first : Logged ε α) (next : α → Logged ε β) :
    (first >>= next).stopAtDrop refusal =
      first.stopAtDrop refusal >>= fun value => (next value).stopAtDrop refusal := by
  cases reported : first.drops with
  | cons drop others =>
      have longer : ∃ later, (first >>= next).events = first.events ++ later :=
        ⟨_, bind_events first next⟩
      rcases longer with ⟨later, events⟩
      have whole : (first >>= next).drops = drop :: (others ++ later.filterMap Event.drop?) := by
        rw [drops, events, List.filterMap_append, ← drops, reported, List.cons_append]
      rw [stopAtDrop_of_cons whole, events, takeWhile_append_of_drops reported,
        stopAtDrop_of_cons reported, bind_of_error rfl]
  | nil =>
      rw [stopAtDrop_of_nil reported]
      cases outcome : first.outcome with
      | error failure =>
          rw [bind_of_error outcome, bind_of_error outcome]
          exact stopAtDrop_of_nil reported
      | ok value =>
          have whole : (first >>= next).drops = (next value).drops := by
            rw [drops_bind_of_ok outcome, reported, List.nil_append]
          rw [bind_of_ok outcome] at whole ⊢
          rw [bind_of_ok outcome]
          cases later : (next value).drops with
          | nil => rw [stopAtDrop_of_nil (whole.trans later), stopAtDrop_of_nil later]
          | cons drop others =>
              rw [stopAtDrop_of_cons (whole.trans later), stopAtDrop_of_cons later,
                List.takeWhile_append_of_pos (drops_eq_nil_iff.mp reported)]

theorem stopAtDrop_mapM (step : α → Logged ε β) (values : List α) :
    (values.mapM step).stopAtDrop refusal =
      values.mapM fun value => (step value).stopAtDrop refusal := by
  induction values with
  | nil => rfl
  | cons value values inductionHypothesis =>
      simp only [List.mapM_cons, stopAtDrop_bind, inductionHypothesis]
      rfl

theorem stopAtDrop_mapError (restate : ε → ε') (computation : Logged ε α) :
    (computation.mapError restate).stopAtDrop (restate ∘ refusal) =
      (computation.stopAtDrop refusal).mapError restate := by
  cases reported : computation.drops with
  | nil => rw [stopAtDrop_of_nil reported]; exact stopAtDrop_of_nil reported
  | cons drop others => rw [stopAtDrop_of_cons reported]; exact stopAtDrop_of_cons reported

end Logged
end Log
end Tabular
