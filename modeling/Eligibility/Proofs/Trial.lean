import Eligibility.Proofs.Basic
import Eligibility.Rule.Basic

/-!
# Outcomes of trials

A trial has an outcome and leaves a state.  It is steady when the state it starts from has no
bearing on the outcome.  The outcome of steady trials follows the sequence of their steps, and the
states between the steps can be left out of account.
-/

set_option autoImplicit false

namespace Eligibility

namespace Trial

variable {State Kind Other : Type}

/-- What a trial comes to, apart from the state that it leaves. -/
def outcome (trial : Trial State Kind) (state : State) : Except Fault Kind :=
  (trial.run.run state).1

def after (trial : Trial State Kind) (state : State) : State :=
  (trial.run.run state).2

/-- The outcome does not depend on the state. -/
def IsSteady (trial : Trial State Kind) : Prop :=
  ∀ earlier later, trial.outcome earlier = trial.outcome later

@[simp]
theorem outcome_throw (fault : Fault) (state : State) :
    outcome (throw fault : Trial State Kind) state = .error fault :=
  rfl

theorem run_bind (first : Trial State Kind) (next : Kind → Trial State Other) (state : State) :
    (first >>= next).run.run state =
      match first.outcome state with
      | .ok value => (next value).run.run (first.after state)
      | .error fault => (.error fault, first.after state) := by
  rw [ExceptT.run_bind, StateT.run_bind, outcome, after]
  rcases first.run.run state with ⟨result, left⟩
  cases result <;> rfl

theorem outcome_bind (first : Trial State Kind) (next : Kind → Trial State Other)
    (state : State) :
    outcome (first >>= next) state =
      (first.outcome state).bind fun value => (next value).outcome (first.after state) := by
  rw [outcome, run_bind]
  cases first.outcome state <;> rfl

theorem after_bind (first : Trial State Kind) (next : Kind → Trial State Other) (state : State) :
    after (first >>= next) state =
      match first.outcome state with
      | .ok value => (next value).after (first.after state)
      | .error _ => first.after state := by
  rw [after, run_bind]
  cases first.outcome state <;> rfl

section

variable (first : Trial State Kind) (next : Kind → Trial State Other) (state : State) (value : Kind)

theorem outcome_bind_of_ok (found : first.outcome state = .ok value) :
    outcome (first >>= next) state = (next value).outcome (first.after state) := by
  rw [outcome_bind, found]
  rfl

theorem after_bind_of_ok (found : first.outcome state = .ok value) :
    after (first >>= next) state = (next value).after (first.after state) := by
  rw [after_bind, found]

end

theorem outcome_bind_eq_ok_iff (first : Trial State Kind) (next : Kind → Trial State Other)
    (state : State) (result : Other) :
    outcome (first >>= next) state = .ok result ↔
      ∃ value, first.outcome state = .ok value ∧
        (next value).outcome (first.after state) = .ok result := by
  rw [outcome_bind]
  exact bind_eq_ok_iff _ _ result

/-! ## Steady trials -/

theorem steady_pure (value : Kind) : IsSteady (pure value : Trial State Kind) :=
  fun _ _ => rfl

theorem steady_throw (fault : Fault) : IsSteady (throw fault : Trial State Kind) :=
  fun _ _ => rfl

/-- When the later steps are steady, they may be taken from the state at the start. -/
theorem outcome_bind_of_steady (first : Trial State Kind) (next : Kind → Trial State Other)
    (nextSteady : ∀ value, (next value).IsSteady) (state : State) :
    outcome (first >>= next) state =
      (first.outcome state).bind fun value => (next value).outcome state := by
  rw [outcome_bind]
  congr 1
  funext value
  exact nextSteady value (first.after state) state

theorem steady_bind (first : Trial State Kind) (next : Kind → Trial State Other)
    (firstSteady : first.IsSteady) (nextSteady : ∀ value, (next value).IsSteady) :
    IsSteady (first >>= next) := by
  intro earlier later
  rw [outcome_bind_of_steady first next nextSteady,
    outcome_bind_of_steady first next nextSteady, firstSteady earlier later]
  congr 1
  funext value
  exact nextSteady value earlier later

end Trial

end Eligibility
