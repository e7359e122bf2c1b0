import LispData.Script
/-!
# Failed steps — a script goes on as if they were not in it

A step that fails says so and leaves the registers as they are
(`Step.perform_of_error`), and a step that does not fail never answers that it
did (`isFailure_of_outcome`). So a script can be cut anywhere (`run_append`), and
its failing steps can be left out (`succeeding`): it ends with the same
registers, and the other answers stay as they are (`run_succeeding`).
-/

namespace LispData

namespace Script

/-- Whether an answer says that its step came to nothing. -/
def Answer.isFailure : Answer → Bool
  | .failed _ => true
  | _ => false

/-- The registers after steps. -/
def after (r : Registers) : List Step → Registers
  | [] => r
  | s :: rest => after (s.perform r).2 rest

/-- The steps that do not fail when they are carried out in order. -/
def succeeding (r : Registers) : List Step → List Step
  | [] => []
  | s :: rest =>
    match s.outcome r with
    | .ok done => s :: succeeding done.2 rest
    | .error _ => succeeding r rest

variable {r : Registers}

/-! ## One step -/

theorem bind_eq_ok {α β : Type} {x : Except Failure α} {f : α → Except Failure β} {b : β}
    (h : (x >>= f) = .ok b) : ∃ a, x = .ok a ∧ f a = .ok b := by
  cases x with
  | error e => cases h
  | ok a => exact ⟨a, rfl, h⟩

/-- No answer to a question is a failure. -/
theorem isFailure_of_answer {q : Question} {a : Answer} (h : q.answer r = .ok a) :
    a.isFailure = false := by
  cases q with
  | chain operand =>
    obtain ⟨p, -, hp⟩ := bind_eq_ok h
    cases hp
    rfl
  | expect operand wanted =>
    obtain ⟨v, -, hv⟩ := bind_eq_ok h
    obtain ⟨x, -, hx⟩ := bind_eq_ok hv
    cases hx
    rfl
  | identify left right =>
    obtain ⟨v, -, hv⟩ := bind_eq_ok h
    obtain ⟨w, -, hw⟩ := bind_eq_ok hv
    cases hw
    rfl
  | _ =>
    obtain ⟨v, -, hv⟩ := bind_eq_ok h
    cases hv
    rfl

/-- **A step that does not fail never answers that it did.** -/
theorem isFailure_of_outcome {s : Step} {done : Answer × Registers}
    (h : s.outcome r = .ok done) : done.1.isFailure = false := by
  cases s with
  | store name how =>
    obtain ⟨v, -, hv⟩ := bind_eq_ok h
    cases hv
    rfl
  | drop name =>
    obtain ⟨v, -, hv⟩ := bind_eq_ok h
    cases hv
    rfl
  | ask question =>
    obtain ⟨a, ha, hdone⟩ := bind_eq_ok h
    cases hdone
    exact isFailure_of_answer ha

/-! ## A whole script -/

/-- A script answers for its first step, then goes on with what that leaves. -/
theorem run_cons (r : Registers) (s : Step) (rest : List Step) :
    run r (s :: rest) = (s.perform r).1 :: run (s.perform r).2 rest := rfl

theorem succeeding_of_ok {s : Step} {done : Answer × Registers} (h : s.outcome r = .ok done)
    (rest : List Step) : succeeding r (s :: rest) = s :: succeeding done.2 rest := by
  rw [succeeding, h]

theorem succeeding_of_error {s : Step} {f : Failure} (h : s.outcome r = .error f)
    (rest : List Step) : succeeding r (s :: rest) = succeeding r rest := by
  rw [succeeding, h]

/-- **A script can be cut anywhere**: what comes behind the cut is carried out on
the registers that the part before it leaves. -/
theorem run_append (r : Registers) (steps rest : List Step) :
    run r (steps ++ rest) = run r steps ++ run (after r steps) rest := by
  induction steps generalizing r with
  | nil => rfl
  | cons s steps ih => rw [List.cons_append, run_cons, run_cons, after, ih, List.cons_append]

/-- **Failed steps leave no trace but their answers.** Without them a script ends
with the same registers and gives the same other answers, in the same order. -/
theorem run_succeeding (r : Registers) (steps : List Step) :
    after r (succeeding r steps) = after r steps ∧
      run r (succeeding r steps) = (run r steps).filter fun a => !a.isFailure := by
  -- by induction on the steps, for any registers
  induction steps generalizing r with
  | nil => exact ⟨rfl, rfl⟩
  | cons s steps ih =>
    rw [after, run_cons]
    cases h : s.outcome r with
    | error f =>
      rw [succeeding_of_error h, Step.perform_of_error h]
      exact ih r
    | ok done =>
      have hkept : (!done.1.isFailure) = true := by rw [isFailure_of_outcome h, Bool.not_false]
      rw [succeeding_of_ok h, after, run_cons, Step.perform_of_ok h, List.filter_cons, if_pos hkept,
        (ih done.2).2]
      exact ⟨(ih done.2).1, rfl⟩

/-- Behind steps that all fail a script goes on as from its start. -/
theorem run_append_of_failing {steps : List Step} (h : succeeding r steps = [])
    (rest : List Step) : run r (steps ++ rest) = run r steps ++ run r rest := by
  have hafter : r = after r steps := by
    rw [← (run_succeeding r steps).1, h]
    rfl
  rw [run_append, ← hafter]

end Script

end LispData
