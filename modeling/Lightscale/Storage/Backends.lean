/-
The two backends of the store under storage failures.

Both answer a write alike: with the error of the closure, with an internal error when
the result could not be stored, or with the value of the closure.  They differ in what
an unstored result leaves behind.  The database rolls it back, while the file backend
has edited the shared state before it writes the file and goes on serving the edit.
-/

import Lightscale.ControlPlane.Server

namespace Lightscale.Storage

open Foundation ControlPlane

variable {Result : Type}

/-- One call of `write`, and whether the storage accepts what it leaves. -/
structure Attempt (Result : Type) where
  closure : Handler Result
  stored : Bool

def Attempt.Careful (attempt : Attempt Result) : Prop :=
  ∀ state error left, attempt.closure state = (.error error, left) → left = state

def Attempt.answer (attempt : Attempt Result) (backend : Backend) (state : State) :
    Except ApiError Result × State :=
  backend.write attempt.stored attempt.closure state

def observe (backend : Backend) : State → List (Attempt Result) →
    List (Except ApiError Result × State)
  | _, [] => []
  | state, attempt :: rest =>
      attempt.answer backend state :: observe backend (attempt.answer backend state).2 rest

def attemptStep (backend : Backend) (state : State) (attempt : Attempt Result) : State :=
  (attempt.answer backend state).2

/-- If the storage fails, so does the closure, or what it leaves is the state it was
given once the revision has been advanced. -/
def Attempt.Harmless (attempt : Attempt Result) (state : State) : Prop :=
  attempt.stored = false → ∀ result left, attempt.closure state = (.ok result, left) →
    left.bump = state

section

variable {attempt : Attempt Result} {state : State}

theorem answer_result (attempt : Attempt Result) (state : State) :
    (attempt.answer .file state).1 = (attempt.answer .db state).1 := by
  unfold Attempt.answer Backend.write
  rcases attempt.closure state with ⟨outcome, left⟩
  cases outcome with
  | error error => rfl
  | ok result => cases attempt.stored <;> rfl

theorem answer_state_iff (careful : attempt.Careful) :
    (attempt.answer .file state).2 = (attempt.answer .db state).2 ↔
      attempt.Harmless state := by
  rcases ran : attempt.closure state with ⟨outcome, left⟩
  cases outcome with
  | error error =>
      have same : left = state := careful state error left ran
      simp only [Attempt.answer, Backend.write, Attempt.Harmless, ran, same, Prod.mk.injEq,
        reduceCtorEq, false_and, false_implies, implies_true]
  | ok result =>
      cases stored : attempt.stored with
      | true =>
          simp only [Attempt.answer, Backend.write, Attempt.Harmless, ran, stored, if_true,
            Bool.true_eq_false, false_implies]
      | false =>
          simp only [Attempt.answer, Backend.write, Attempt.Harmless, ran, stored,
            Bool.false_eq_true, if_false, true_implies, Prod.mk.injEq, Except.ok.injEq]
          constructor
          · rintro restored _ _ ⟨_, same⟩
            rw [← same]
            exact restored
          · intro harmless
            exact harmless result left ⟨rfl, rfl⟩

theorem answer_error (careful : attempt.Careful) (harmless : attempt.Harmless state)
    (backend : Backend) {error : ApiError}
    (refused : (attempt.answer backend state).1 = .error error) :
    (attempt.answer backend state).2 = state := by
  have onDb : (attempt.answer .db state).1 = .error error →
      (attempt.answer .db state).2 = state := by
    intro failed
    unfold Attempt.answer Backend.write at failed ⊢
    rcases ran : attempt.closure state with ⟨outcome, left⟩
    rw [ran] at failed
    cases outcome with
    | error error => rfl
    | ok result =>
        cases stored : attempt.stored with
        | true =>
            rw [stored] at failed
            cases failed
        | false => rfl
  cases backend with
  | db => exact onDb refused
  | file =>
      rw [answer_result] at refused
      rw [(answer_state_iff careful).mpr harmless]
      exact onDb refused

end

theorem observe_eq_iff (attempts : List (Attempt Result)) (state : State)
    (careful : ∀ attempt ∈ attempts, attempt.Careful) :
    observe .file state attempts = observe .db state attempts ↔
      ∀ event ∈ trace (attemptStep .db) state attempts,
        event.input.Harmless event.before := by
  induction attempts generalizing state with
  | nil => simp [observe, trace]
  | cons attempt rest ih =>
      have first : (attempt.answer .file state).2 = (attempt.answer .db state).2 ↔
          attempt.Harmless state := answer_state_iff (careful attempt List.mem_cons_self)
      have later := ih (attempt.answer .db state).2
        fun other member => careful other (List.mem_cons_of_mem _ member)
      simp only [observe, trace, List.cons.injEq, List.forall_mem_cons]
      constructor
      · rintro ⟨sameAnswer, sameRest⟩
        rw [sameAnswer] at sameRest
        exact ⟨first.mp (congrArg Prod.snd sameAnswer), later.mp sameRest⟩
      · rintro ⟨harmless, restHarmless⟩
        have sameState := first.mpr harmless
        refine ⟨Prod.ext (answer_result attempt state) sameState, ?_⟩
        rw [sameState]
        exact later.mpr restHarmless

theorem trace_file_eq_trace_db (attempts : List (Attempt Result)) (state : State)
    (careful : ∀ attempt ∈ attempts, attempt.Careful)
    (harmless : ∀ event ∈ trace (attemptStep .db) state attempts,
      event.input.Harmless event.before) :
    trace (attemptStep .file) state attempts = trace (attemptStep .db) state attempts := by
  induction attempts generalizing state with
  | nil => rfl
  | cons attempt rest ih =>
      simp only [trace, List.forall_mem_cons] at harmless ⊢
      have sameState : attemptStep .file state attempt = attemptStep .db state attempt :=
        (answer_state_iff (careful attempt List.mem_cons_self)).mpr harmless.1
      have later := ih (attemptStep .db state attempt)
        (fun other member => careful other (List.mem_cons_of_mem _ member)) harmless.2
      rw [sameState, later]
      unfold eventAt
      rw [sameState]

/-- The backends give the same answers and the same states to every read, and a write
that fails leaves the state as it was, exactly when no result that changes the state is
refused by the storage. -/
theorem backends_agree_iff (attempts : List (Attempt Result)) (state : State)
    (careful : ∀ attempt ∈ attempts, attempt.Careful) :
    (observe .file state attempts = observe .db state attempts ∧
      ∀ backend, ∀ event ∈ trace (attemptStep backend) state attempts, ∀ error,
        (event.input.answer backend event.before).1 = .error error →
          event.after = event.before) ↔
      ∀ event ∈ trace (attemptStep .db) state attempts,
        event.input.Harmless event.before := by
  constructor
  · rintro ⟨same, _⟩
    exact (observe_eq_iff attempts state careful).mp same
  · intro harmless
    refine ⟨(observe_eq_iff attempts state careful).mpr harmless, ?_⟩
    intro backend event member error refused
    have onDb : event ∈ trace (attemptStep .db) state attempts := by
      cases backend with
      | db => exact member
      | file =>
          rw [trace_file_eq_trace_db attempts state careful harmless] at member
          exact member
    rw [after_of_mem_trace _ member]
    exact answer_error (careful _ (input_of_mem_trace _ member)) (harmless event onDb) backend
      refused

/-! ### A network whose creation cannot be stored -/

theorem createNetworkWrite_error {externals : Externals} {draws : Draws}
    {request : CreateNetworkRequest} {planned : PlannedNetwork} {state left : State}
    {error : ApiError} (plain : request.bootstrapTokenTtlSeconds = none)
    (ran : createNetworkWrite externals draws request planned state = (.error error, left)) :
    left = state := by
  unfold createNetworkWrite at ran
  dsimp only at ran
  rw [plain] at ran
  split at ran
  · cases ran
    rfl
  · split at ran
    · cases ran
      rfl
    · cases ran

def createAttempt (stored : Bool) : Attempt (Option TokenState) where
  closure :=
    check (planNetwork sampleExternals (sampleDraws 0 "net")
        { sampleNetworkRequest with bootstrapTokenTtlSeconds := none }) fun planned =>
      createNetworkWrite sampleExternals (sampleDraws 0 "net")
        { sampleNetworkRequest with bootstrapTokenTtlSeconds := none } planned
  stored := stored

theorem createAttempt_careful (stored : Bool) : (createAttempt stored).Careful := by
  intro state error left ran
  unfold createAttempt check at ran
  dsimp only at ran
  split at ran
  · cases ran
    rfl
  · exact createNetworkWrite_error rfl ran

/-- A second creation fails by itself, so it does no harm that nothing can be stored. -/
theorem sample_backends_agree :
    observe .file State.default [createAttempt true, createAttempt false] =
      observe .db State.default [createAttempt true, createAttempt false] := by
  refine ((backends_agree_iff [createAttempt true, createAttempt false] State.default ?_).mpr
    ?_).1
  · intro attempt member
    rcases List.mem_pair.mp member with same | same
    · rw [same]
      exact createAttempt_careful true
    · rw [same]
      exact createAttempt_careful false
  · simp only [trace, List.forall_mem_cons, List.not_mem_nil, false_implies, implies_true,
      and_true]
    constructor
    · intro unstored
      cases unstored
    intro _ result left ran
    have refused : ((createAttempt false).closure
        (attemptStep .db State.default (createAttempt true))).1.isOk = false := by
      decide +kernel
    rw [eventAt] at ran
    rw [ran] at refused
    cases refused

/-- The file could not be written and the request was refused, but the network is there;
the database has rolled it back. -/
theorem unstored_network_served :
    (createAttempt false).Careful ∧
      ((createAttempt false).answer .file State.default).1 = .error .internal ∧
      ((createAttempt false).answer .db State.default).1 = .error .internal ∧
      ((createAttempt false).answer .file State.default).2.networks.lookup "net" ≠ none ∧
      ((createAttempt false).answer .db State.default).2.networks.lookup "net" = none ∧
      observe .file State.default [createAttempt false] ≠
        observe .db State.default [createAttempt false] := by
  have served : ((createAttempt false).answer .file State.default).2.networks.lookup "net" ≠
      none := by
    decide +kernel
  have rolledBack : ((createAttempt false).answer .db State.default).2.networks.lookup "net" =
      none := by
    decide +kernel
  have refused : ∀ backend,
      ((createAttempt false).answer backend State.default).1 = .error .internal := by
    intro backend
    cases backend <;> rfl
  refine ⟨createAttempt_careful false, refused .file, refused .db, served, rolledBack, ?_⟩
  intro same
  have sameAnswer := (List.cons.inj same).1
  rw [sameAnswer] at served
  exact served rolledBack

end Lightscale.Storage
