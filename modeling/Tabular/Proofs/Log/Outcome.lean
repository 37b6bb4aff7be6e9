import Tabular.Log.Logged

namespace Tabular
namespace Log

/-!
# Outcomes without trails

The outcome of a traversal is the traversal of the outcomes.  It succeeds
exactly when every step does, and otherwise fails as the first step that fails.
The trail is that of all steps, one behind the other, up to a failure.
-/

variable {α β ε ε' : Type} {values : List α} {results : List β} {step : α → Except ε β}

@[simp] theorem ok_bind (value : α) (next : α → Except ε β) : .ok value >>= next = next value := rfl

@[simp] theorem error_bind (failure : ε) (next : α → Except ε β) :
    .error failure >>= next = .error failure := rfl

@[simp] theorem ok_map (value : α) (change : α → β) :
    (Except.ok value : Except ε α).map change = .ok (change value) := rfl

@[simp] theorem ok_mapError (value : α) (restate : ε → ε') :
    (Except.ok value : Except ε α).mapError restate = .ok value := rfl

@[simp] theorem error_mapError (failure : ε) (restate : ε → ε') :
    (Except.error failure : Except ε α).mapError restate = .error (restate failure) := rfl

theorem map_eq_ok {outcome : Except ε α} {result : β} {change : α → β} :
    outcome.map change = .ok result ↔ ∃ value, outcome = .ok value ∧ change value = result := by
  cases outcome <;> simp [Except.map]

theorem bind_eq_ok {outcome : Except ε α} {result : β} {next : α → Except ε β} :
    outcome >>= next = .ok result ↔ ∃ value, outcome = .ok value ∧ next value = .ok result := by
  cases outcome <;> simp

theorem map_eq_error {outcome : Except ε α} {failure : ε} {change : α → β} :
    outcome.map change = .error failure ↔ outcome = .error failure := by
  cases outcome <;> simp [Except.map]

theorem bind_eq_error {outcome : Except ε α} {failure : ε} {next : α → Except ε β} :
    outcome >>= next = .error failure ↔
      outcome = .error failure ∨ ∃ value, outcome = .ok value ∧ next value = .error failure := by
  cases outcome <;> simp

theorem mapError_eq_ok {outcome : Except ε α} {value : α} {restate : ε → ε'} :
    outcome.mapError restate = .ok value ↔ outcome = .ok value := by
  cases outcome <;> simp

theorem mapError_eq_error {outcome : Except ε α} {failure : ε'} {restate : ε → ε'} :
    outcome.mapError restate = .error failure ↔
      ∃ cause, outcome = .error cause ∧ restate cause = failure := by
  cases outcome <;> simp

/-- A traversal succeeds with the values of its steps, and only with them. -/
theorem mapM_eq_ok : values.mapM step = .ok results ↔ values.map step = results.map .ok := by
  induction values generalizing results with
  | nil => cases results <;> simp [pure, Except.pure]
  | cons value values inductionHypothesis =>
      rw [List.mapM_cons, bind_eq_ok]
      constructor
      · rintro ⟨result, first, rest⟩
        rcases bind_eq_ok.mp rest with ⟨others, later, same⟩
        cases same
        rw [List.map_cons, List.map_cons, first, inductionHypothesis.mp later]
      · intro same
        cases results with
        | nil => cases same
        | cons result others =>
            rcases List.cons.inj same with ⟨first, later⟩
            refine ⟨result, first, bind_eq_ok.mpr ⟨others, ?_, rfl⟩⟩
            exact inductionHypothesis.mpr later

theorem exists_step_of_mapM_eq_ok {value : α} (done : values.mapM step = .ok results)
    (member : value ∈ values) : ∃ result, step value = .ok result := by
  have among : step value ∈ values.map step := List.mem_map_of_mem member
  rw [mapM_eq_ok.mp done] at among
  rcases List.mem_map.mp among with ⟨result, -, same⟩
  exact ⟨result, same.symm⟩

/-- A traversal fails as its first failing step does. -/
theorem mapM_eq_error {failure : ε} : values.mapM step = .error failure ↔
    ∃ front value rest, values = front ++ value :: rest ∧
      (∀ earlier ∈ front, ∃ result, step earlier = .ok result) ∧ step value = .error failure := by
  induction values with
  | nil => simp [pure, Except.pure]
  | cons value values inductionHypothesis =>
      rw [List.mapM_cons, bind_eq_error]
      constructor
      · rintro (first | ⟨result, first, later⟩)
        · exact ⟨[], value, values, rfl, List.forall_mem_nil _, first⟩
        · rcases bind_eq_error.mp later with fails | ⟨others, -, impossible⟩
          · rcases inductionHypothesis.mp fails with ⟨front, failing, rest, rfl, succeed, fails⟩
            refine ⟨value :: front, failing, rest, rfl, ?_, fails⟩
            exact List.forall_mem_cons.mpr ⟨⟨result, first⟩, succeed⟩
          · cases impossible
      · rintro ⟨front, failing, rest, split, succeed, fails⟩
        cases front with
        | nil =>
            cases split
            exact Or.inl fails
        | cons early front =>
            cases split
            rw [List.forall_mem_cons] at succeed
            rcases succeed.1 with ⟨result, first⟩
            refine Or.inr ⟨result, first, bind_eq_error.mpr (Or.inl ?_)⟩
            exact inductionHypothesis.mpr ⟨front, failing, rest, rfl, succeed.2, fails⟩

/-- What holds of every successful step holds along a successful traversal. -/
theorem map_of_mapM_eq_ok {γ : Type} {view : β → γ} {key : α → γ}
    (steps : ∀ value result, step value = .ok result → view result = key value)
    (done : values.mapM step = .ok results) : results.map view = values.map key := by
  rw [mapM_eq_ok] at done
  induction values generalizing results with
  | nil => cases results with
    | nil => rfl
    | cons result others => cases done
  | cons value values inductionHypothesis => cases results with
    | nil => cases done
    | cons result others =>
        rcases List.cons.inj done with ⟨first, later⟩
        rw [List.map_cons, List.map_cons, steps value result first, inductionHypothesis later]

theorem exists_mapM_eq_ok (succeeds : ∀ value ∈ values, ∃ result, step value = .ok result) :
    ∃ results, values.mapM step = .ok results := by
  induction values with
  | nil => exact ⟨[], rfl⟩
  | cons value values inductionHypothesis =>
      rcases succeeds value List.mem_cons_self with ⟨result, first⟩
      rcases inductionHypothesis fun other member =>
        succeeds other (List.mem_cons_of_mem value member) with ⟨others, later⟩
      refine ⟨result :: others, ?_⟩
      rw [mapM_eq_ok] at later ⊢
      rw [List.map_cons, List.map_cons, first, later]

/-- Restating the failures of all steps restates the failure of the traversal. -/
theorem mapM_mapError (restate : ε → ε') (step : α → Except ε β) (values : List α) :
    (values.mapM fun value => (step value).mapError restate) =
      (values.mapM step).mapError restate := by
  induction values with
  | nil => rfl
  | cons value values inductionHypothesis =>
      rw [List.mapM_cons, List.mapM_cons, inductionHypothesis]
      cases step value with
      | error failure => rfl
      | ok result => cases values.mapM step <;> rfl

@[simp] theorem Logged.map_outcome (change : α → β) (computation : Logged ε α) :
    (change <$> computation).outcome = computation.outcome.map change := by
  rw [← bind_pure_comp, Logged.bind_outcome]
  cases computation.outcome <;> rfl

theorem Logged.mapM_outcome (step : α → Logged ε β) (values : List α) :
    (values.mapM step).outcome = values.mapM fun value => (step value).outcome := by
  induction values with
  | nil => rfl
  | cons value values inductionHypothesis =>
      simp only [List.mapM_cons, Logged.bind_outcome, inductionHypothesis]
      rfl

/-- Where no step fails, no event of any step is missing. -/
theorem Logged.mapM_events {step : α → Logged ε β} {values : List α}
    (succeeds : ∀ value ∈ values, ∃ result, (step value).outcome = .ok result) :
    (values.mapM step).events = values.flatMap fun value => (step value).events := by
  induction values with
  | nil => rfl
  | cons value values inductionHypothesis =>
      rw [List.forall_mem_cons] at succeeds
      rcases succeeds with ⟨⟨result, first⟩, later⟩
      have others : ∃ results, (values.mapM step).outcome = .ok results := by
        rw [Logged.mapM_outcome]
        exact exists_mapM_eq_ok later
      rcases others with ⟨results, rest⟩
      simp only [List.mapM_cons, Logged.bind_events, first, rest, Logged.pure_events,
        List.append_nil, List.flatMap_cons, inductionHypothesis later]

/-- Where a step fails, its events are the last, and the later steps emit nothing. -/
theorem Logged.mapM_events_of_error {step : α → Logged ε β} {front rest : List α} {value : α}
    {failure : ε} (succeeds : ∀ earlier ∈ front, ∃ result, (step earlier).outcome = .ok result)
    (fails : (step value).outcome = .error failure) :
    ((front ++ value :: rest).mapM step).events =
      (front.flatMap fun earlier => (step earlier).events) ++ (step value).events := by
  have early : ∃ results, (front.mapM step).outcome = .ok results := by
    rw [Logged.mapM_outcome]
    exact exists_mapM_eq_ok succeeds
  rcases early with ⟨results, done⟩
  have late : ((value :: rest).mapM step).events = (step value).events := by
    simp only [List.mapM_cons, Logged.bind_events, fails, List.append_nil]
  have failing : ((value :: rest).mapM step).outcome = .error failure := by
    simp only [List.mapM_cons, Logged.bind_outcome, fails, error_bind]
  rw [List.mapM_append, Logged.bind_events, done, Logged.mapM_events succeeds]
  simp only [Logged.bind_events, failing, late, List.append_nil]

end Log
end Tabular
