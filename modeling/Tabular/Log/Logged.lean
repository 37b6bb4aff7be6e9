import Tabular.Log.Event

namespace Tabular
namespace Log

/-!
# Computations that leave a trail

A `Logged ε α` is the trail of events a computation emitted, in order, and its
outcome: a value or a failure.  Nothing is emitted after a failure.  Forgetting
the trail sends sequencing to sequencing.
-/

/-- A trail of events and an outcome. -/
structure Logged (ε α : Type) where
  /-- The events, in the order of their emission. -/
  events : List Event
  /-- The value, or the reason of the failure. -/
  outcome : Except ε α

namespace Logged

variable {ε ε' α β : Type}

/-- Run a computation, then the one its value selects.  A failure ends the
whole and keeps the trail up to it. -/
def andThen (first : Logged ε α) (next : α → Logged ε β) : Logged ε β :=
  match first.outcome with
  | .error failure => ⟨first.events, .error failure⟩
  | .ok value =>
      let later := next value
      ⟨first.events ++ later.events, later.outcome⟩

instance : Monad (Logged ε) where
  pure value := ⟨[], .ok value⟩
  bind := andThen

def emit (event : Event) : Logged ε Unit :=
  ⟨[event], .ok ()⟩

def fail (failure : ε) : Logged ε α :=
  ⟨[], .error failure⟩

/-- An outcome without a trail. -/
def ofExcept (outcome : Except ε α) : Logged ε α :=
  ⟨[], outcome⟩

/-- Restate the reason of a failure.  The trail is not touched. -/
def mapError (restate : ε → ε') (computation : Logged ε α) : Logged ε' α :=
  ⟨computation.events, computation.outcome.mapError restate⟩

@[simp] theorem pure_events (value : α) : (pure value : Logged ε α).events = [] := rfl

@[simp] theorem pure_outcome (value : α) : (pure value : Logged ε α).outcome = .ok value := rfl

@[simp] theorem emit_outcome (event : Event) : (emit event : Logged ε Unit).outcome = .ok () := rfl

@[simp] theorem fail_outcome (failure : ε) : (fail failure : Logged ε α).outcome = .error failure :=
  rfl

@[simp] theorem ofExcept_outcome (outcome : Except ε α) : (ofExcept outcome).outcome = outcome :=
  rfl

@[simp] theorem mapError_outcome (restate : ε → ε') (computation : Logged ε α) :
    (computation.mapError restate).outcome = computation.outcome.mapError restate := rfl

@[simp] theorem bind_outcome (first : Logged ε α) (next : α → Logged ε β) :
    (first >>= next).outcome = first.outcome >>= fun value => (next value).outcome := by
  change (andThen first next).outcome = _
  unfold andThen
  cases first.outcome <;> rfl

theorem bind_events (first : Logged ε α) (next : α → Logged ε β) :
    (first >>= next).events = first.events ++
      match first.outcome with
      | .ok value => (next value).events
      | .error _ => [] := by
  change (andThen first next).events = _
  unfold andThen
  cases first.outcome <;> simp

/-- Two computations with the same trail and the same outcome are the same. -/
theorem ext_of_parts {left right : Logged ε α} (events : left.events = right.events)
    (outcome : left.outcome = right.outcome) : left = right := by
  cases left
  cases right
  cases events
  cases outcome
  rfl

theorem map_pure_id (computation : Logged ε α) : id <$> computation = computation := by
  change andThen computation (fun value => pure value) = computation
  refine ext_of_parts ?_ ?_ <;> unfold andThen <;> cases computation.outcome <;> simp

theorem pure_andThen (value : α) (next : α → Logged ε β) : pure value >>= next = next value :=
  ext_of_parts (List.nil_append _) rfl

theorem andThen_assoc {γ : Type} (computation : Logged ε α) (next : α → Logged ε β)
    (last : β → Logged ε γ) :
    computation >>= next >>= last = computation >>= fun value => next value >>= last := by
  refine ext_of_parts ?_ ?_
  · simp only [bind_events, bind_outcome]
    cases computation.outcome with
    | error failure => simp [bind, Except.bind]
    | ok value => simp [bind, Except.bind]
  · simp only [bind_outcome]
    cases computation.outcome <;> rfl

instance : LawfulMonad (Logged ε) :=
  LawfulMonad.mk' _ map_pure_id pure_andThen andThen_assoc

end Logged
end Log
end Tabular
