/-
The state store as one caller sees it: a closure edits the state in place, the
revision is advanced when the closure succeeds, and the result is stored.

The two backends differ in what an unsuccessful write leaves behind.  The file
backend edits the shared state itself, so whatever a failing closure has changed
stays, and so does a change that could not be stored.  The database backend edits
a copy inside a transaction, so both are rolled back.
-/

import Lightscale.Foundation.Text
import Lightscale.ControlPlane.Model

namespace Lightscale.ControlPlane

open Foundation

/-- A computation that edits the state in place and may fail on the way. -/
abbrev Handler (Result : Type) := State → Except ApiError Result × State

inductive Backend where
  | file
  | db
  deriving DecidableEq

/-- The revision counts successful closures and stops at its largest value. -/
def State.bump (state : State) : State :=
  { state with revision := saturatingAddU64 state.revision 1 }

@[simp] theorem State.bump_nodes (state : State) : state.bump.nodes = state.nodes := rfl

@[simp] theorem State.bump_tokens (state : State) : state.bump.tokens = state.tokens := rfl

variable {Result Response : Type}

/-- One write: `stored` says whether the storage accepted the new state. -/
def Backend.write (backend : Backend) (stored : Bool) (closure : Handler Result) :
    Handler Result :=
  fun state =>
    match backend, closure state with
    | .file, (.error error, left) => (.error error, left)
    | .file, (.ok result, left) =>
        if stored then (.ok result, left.bump) else (.error .internal, left.bump)
    | .db, (.error error, _) => (.error error, state)
    | .db, (.ok result, left) =>
        if stored then (.ok result, left.bump) else (.error .internal, state)

/-- The value of a closure whose changes later requests see. -/
def Backend.applied (backend : Backend) (stored : Bool) (closure : Handler Result)
    (state : State) : Option Result :=
  match closure state with
  | (.error _, _) => none
  | (.ok result, _) => if backend = .file ∨ stored = true then some result else none

/-- A check in front of the state: on an error nothing has been touched. -/
def check {Checked : Type} (checked : Except ApiError Checked)
    (next : Checked → Handler Result) : Handler Result :=
  fun state =>
    match checked with
    | .error error => (.error error, state)
    | .ok value => next value state

def Handler.respond (handler : Handler Result) (response : Result → Response) :
    Handler Response :=
  fun state => ((handler state).1.map response, (handler state).2)

def Handler.andRead (handler : Handler Result)
    (read : Result → State → Except ApiError Response) : Handler Response :=
  fun state =>
    match handler state with
    | (.error error, left) => (.error error, left)
    | (.ok result, left) => (read result left, left)

/-! ### What a write can leave behind -/

/-- Everything one write can do to the state. -/
inductive WriteOutcome (backend : Backend) (stored : Bool) (closure : Handler Result)
    (before after : State) : Prop where
  /-- The state is as it was. -/
  | kept (same : after = before)
      (notApplied : backend.applied stored closure before = none)
  /-- The closure failed after editing the shared state of the file backend. -/
  | failed (error : ApiError) (onFile : backend = .file)
      (ran : closure before = (.error error, after))
      (notApplied : backend.applied stored closure before = none)
  /-- The closure succeeded and its changes are visible. -/
  | done (result : Result) (left : State)
      (ran : closure before = (.ok result, left))
      (bumped : after = left.bump)
      (isApplied : backend.applied stored closure before = some result)

theorem Backend.write_outcome (backend : Backend) (stored : Bool)
    (closure : Handler Result) (state : State) :
    WriteOutcome backend stored closure state (backend.write stored closure state).2 := by
  rcases ran : closure state with ⟨result, left⟩
  cases result with
  | error error =>
      have notApplied : backend.applied stored closure state = none := by
        unfold Backend.applied
        rw [ran]
      cases backend with
      | file =>
          refine .failed error rfl ?_ notApplied
          unfold Backend.write
          rw [ran]
      | db =>
          refine .kept ?_ notApplied
          unfold Backend.write
          rw [ran]
  | ok result =>
      cases stored with
      | true =>
          refine .done result left ran ?_ ?_
          · cases backend <;> simp only [Backend.write, ran, if_true]
          · simp only [Backend.applied, ran, or_true, if_true]
      | false =>
          cases backend with
          | file =>
              refine .done result left ran ?_ ?_
              · simp only [Backend.write, ran, Bool.false_eq_true, if_false]
              · simp only [Backend.applied, ran, true_or, if_true]
          | db =>
              refine .kept ?_ ?_
              · simp only [Backend.write, ran, Bool.false_eq_true, if_false]
              · simp only [Backend.applied, ran, reduceCtorEq, Bool.false_eq_true,
                  or_self, if_false]

theorem Backend.write_of_applied {backend : Backend} {stored : Bool} {closure : Handler Result}
    {state : State} (isApplied : (backend.applied stored closure state).isSome = true) :
    ∃ result left, closure state = (.ok result, left) ∧
      (backend.write stored closure state).2 = left.bump := by
  cases backend.write_outcome stored closure state with
  | kept same notApplied =>
      rw [notApplied] at isApplied
      cases isApplied
  | failed error onFile ran notApplied =>
      rw [notApplied] at isApplied
      cases isApplied
  | done result left ran bumped _ => exact ⟨result, left, ran, bumped⟩

theorem Backend.kept_of_applied {backend : Backend} {stored : Bool} {closure : Handler Result}
    {state : State} (isApplied : (backend.applied stored closure state).isSome = true) :
    backend = .file ∨ stored = true := by
  unfold Backend.applied at isApplied
  split at isApplied
  · cases isApplied
  · by_contra lost
    rw [if_neg lost] at isApplied
    cases isApplied

@[simp] theorem Handler.respond_state (handler : Handler Result)
    (response : Result → Response) (state : State) :
    (handler.respond response state).2 = (handler state).2 := rfl

@[simp] theorem Handler.andRead_state (handler : Handler Result)
    (read : Result → State → Except ApiError Response) (state : State) :
    (handler.andRead read state).2 = (handler state).2 := by
  unfold Handler.andRead
  rcases handler state with ⟨result, left⟩
  cases result <;> rfl

theorem check_state {Checked : Type} (checked : Except ApiError Checked)
    (next : Checked → Handler Result) (state : State) :
    (check checked next state).2 = state ∨
      ∃ value, checked = .ok value ∧ (check checked next state).2 = (next value state).2 := by
  cases checked with
  | error error => exact Or.inl rfl
  | ok value => exact Or.inr ⟨value, rfl, rfl⟩

/-! ### What a success says -/

theorem check_eq_ok {Checked : Type} {checked : Except ApiError Checked}
    {next : Checked → Handler Result} {state left : State} {result : Result}
    (ran : check checked next state = (.ok result, left)) :
    ∃ value, checked = .ok value ∧ next value state = (.ok result, left) := by
  cases checked with
  | error error => cases ran
  | ok value => exact ⟨value, rfl, ran⟩

theorem Handler.respond_eq_ok {handler : Handler Result} {response : Result → Response}
    {state left : State} {answer : Response}
    (ran : handler.respond response state = (.ok answer, left)) :
    ∃ result, handler state = (.ok result, left) ∧ answer = response result := by
  unfold Handler.respond at ran
  rcases outcome : handler state with ⟨_ | result, after⟩
  · rw [outcome] at ran
    cases ran
  · rw [outcome] at ran
    cases ran
    exact ⟨result, rfl, rfl⟩

theorem Handler.andRead_eq_ok {handler : Handler Result}
    {read : Result → State → Except ApiError Response} {state left : State} {answer : Response}
    (ran : handler.andRead read state = (.ok answer, left)) :
    ∃ result, handler state = (.ok result, left) ∧ read result left = .ok answer := by
  unfold Handler.andRead at ran
  rcases outcome : handler state with ⟨_ | result, after⟩
  · rw [outcome] at ran
    cases ran
  · rw [outcome] at ran
    obtain ⟨answered, same⟩ := Prod.mk.inj ran
    subst same
    exact ⟨result, rfl, answered⟩

theorem Backend.write_eq_ok {backend : Backend} {stored : Bool} {closure : Handler Result}
    {state left : State} {result : Result}
    (ran : backend.write stored closure state = (.ok result, left)) :
    ∃ edited, closure state = (.ok result, edited) ∧ left = edited.bump := by
  unfold Backend.write at ran
  rcases outcome : closure state with ⟨_ | value, edited⟩
  · cases backend <;> rw [outcome] at ran <;> cases ran
  · cases backend <;> cases stored <;> rw [outcome] at ran <;> cases ran <;>
      exact ⟨edited, rfl, rfl⟩

end Lightscale.ControlPlane
