/-
The long poll of a netmap.

A client that holds the netmap of a revision asks for a later one.  The revision counts the
writes that succeed, so a poll that finds it unchanged has missed at most what requests have
left that failed on the shared state of the file backend, and a poll that finds it changed
answers at once.
-/

import Lightscale.ControlPlane.Edit

namespace Lightscale.ControlPlane

open Foundation

/-! ### What the revision counts -/

/-- A request that the revision does not count: it has changed nothing, or its closure has
failed on the shared state of the file backend. -/
inductive Uncounted (config : Config) (event : Event State Call) : Prop
  | unchanged (same : event.after = event.before)
  | refused (onFile : config.backend = .file) (edit : Edit) (error : ApiError)
      (asked : requestEdit config event.input = some edit)
      (ran : edit.run event.before = (.error error, event.after))

theorem step_counted (config : Config) (state : State) (call : Call) :
    (Uncounted config (eventAt (step config) state call) ∧
        (step config state call).revision = state.revision) ∨
      (step config state call).revision = saturatingAddU64 state.revision 1 := by
  have stepped := step_eq_applyEdit config state call
  cases asked : requestEdit config call with
  | none =>
      rw [asked] at stepped
      exact Or.inl ⟨.unchanged stepped, congrArg State.revision stepped⟩
  | some edit =>
      rw [asked] at stepped
      change _ = (config.backend.write call.draws.stored edit.run state).2 at stepped
      have keeps := edit.keepsRevision state
      cases config.backend.write_outcome call.draws.stored edit.run state with
      | kept same =>
          have unchanged := stepped.trans same
          exact Or.inl ⟨.unchanged unchanged, congrArg State.revision unchanged⟩
      | failed error onFile ran =>
          rw [← stepped] at ran
          rw [ran] at keeps
          exact Or.inl ⟨.refused onFile edit error asked ran, keeps⟩
      | done result left ran bumped =>
          rw [ran] at keeps
          right
          rw [stepped, bumped, ← keeps]
          rfl

def lastRevision : Nat := 2 ^ 64 - 1

theorem revision_le_step (config : Config) {state : State} (call : Call) {bound : Nat}
    (least : bound ≤ state.revision) (small : bound ≤ lastRevision) :
    bound ≤ (step config state call).revision := by
  rcases step_counted config state call with ⟨-, same⟩ | counted
  · omega
  · rw [counted]
    unfold saturatingAddU64 lastRevision at *
    omega

theorem revision_le_exec (config : Config) {state : State} (calls : List Call) {bound : Nat}
    (least : bound ≤ state.revision) (small : bound ≤ lastRevision) :
    bound ≤ (exec (step config) state calls).revision :=
  exec_invariant (step config) (fun state => bound ≤ state.revision)
    (fun _ call least => revision_le_step config call least small) state least calls

theorem uncounted_of_same_revision (config : Config) {state : State}
    (small : state.revision < lastRevision) (calls : List Call)
    (same : (exec (step config) state calls).revision = state.revision) :
    ∀ event ∈ trace (step config) state calls, Uncounted config event := by
  induction calls generalizing state with
  | nil =>
      intro event member
      cases member
  | cons call rest ih =>
      change (exec (step config) (step config state call) rest).revision = _ at same
      rcases step_counted config state call with ⟨uncounted, kept⟩ | counted
      · intro event member
        rcases List.mem_cons.mp member with rfl | later
        · exact uncounted
        · exact ih (kept ▸ small) (same.trans kept.symm) event later
      · -- A counted request raises the revision, which never falls again.
        have raised : state.revision + 1 ≤ (step config state call).revision := by
          rw [counted]
          unfold saturatingAddU64 lastRevision at *
          omega
        have later := revision_le_exec config rest raised small
        omega

/-! ### Polls between requests -/

structure PollTurn where
  calls : List Call
  draws : Draws
  expired : Bool

def pollsOf (config : Config) : State → List PollTurn → List Poll
  | _, [] => []
  | state, turn :: rest =>
      let now := exec (step config) state turn.calls
      { state := now, draws := turn.draws, expired := turn.expired } :: pollsOf config now rest

def polledNetmap (config : Config) (headers : Headers) (nodeId : String) (state : State)
    (draws : Draws) : Except ApiError NetMap :=
  (readNode config headers state nodeId).bind fun _ =>
    buildNetmap state nodeId (relayOrNone config.relay) draws.netmapNow draws.generatedAt

/-- How a long poll is answered at one of its turns. -/
structure AnsweredAt (config : Config) (headers : Headers) (nodeId : String) (start : State)
    (turns : List PollTurn) (answer : Except ApiError NetMap) (quiet : List PollTurn)
    (turn : PollTurn) (later : List PollTurn) : Prop where
  isTurn : turns = quiet ++ turn :: later
  untilThen : ∀ event ∈ trace (step config) start (quiet.flatMap PollTurn.calls),
    Uncounted config event
  isNetmap : answer = polledNetmap config headers nodeId
    (exec (step config) start ((quiet ++ [turn]).flatMap PollTurn.calls)) turn.draws
  reason : (∃ error, answer = .error error) ∨
    start.revision <
      (exec (step config) start ((quiet ++ [turn]).flatMap PollTurn.calls)).revision ∨
    turn.expired = true ∧
      ∀ event ∈ trace (step config) start ((quiet ++ [turn]).flatMap PollTurn.calls),
        Uncounted config event

theorem netmapLongpoll_cons (config : Config) (headers : Headers) (nodeId : String)
    (since : Nat) (poll : Poll) (rest : List Poll) :
    netmapLongpoll config headers nodeId (some since) (poll :: rest) =
      match polledNetmap config headers nodeId poll.state poll.draws with
      | .error error => some (.error error)
      | .ok netmap =>
          if since < poll.state.revision ∨ poll.expired = true then some (.ok netmap)
          else netmapLongpoll config headers nodeId (some since) rest := rfl

section

variable {config : Config} {headers : Headers} {nodeId : String} {start : State}

theorem AnsweredAt.after_quiet {turns quiet later : List PollTurn} {turn first : PollTurn}
    {answer : Except ApiError NetMap}
    (uncounted : ∀ event ∈ trace (step config) start first.calls, Uncounted config event)
    (same : (exec (step config) start first.calls).revision = start.revision)
    (answered : AnsweredAt config headers nodeId (exec (step config) start first.calls) turns
      answer quiet turn later) :
    AnsweredAt config headers nodeId start (first :: turns) answer (first :: quiet) turn later := by
  have joined : ∀ more : List PollTurn,
      (∀ event ∈ trace (step config) (exec (step config) start first.calls)
        (more.flatMap PollTurn.calls), Uncounted config event) →
      ∀ event ∈ trace (step config) start ((first :: more).flatMap PollTurn.calls),
        Uncounted config event := by
    intro more later event member
    rw [List.flatMap_cons, trace_append] at member
    rcases List.mem_append.mp member with early | late
    · exact uncounted event early
    · exact later event late
  have reached : exec (step config) start ((first :: quiet ++ [turn]).flatMap PollTurn.calls) =
      exec (step config) (exec (step config) start first.calls)
        ((quiet ++ [turn]).flatMap PollTurn.calls) := by
    rw [List.cons_append, List.flatMap_cons, exec_append]
  refine ⟨congrArg (first :: ·) answered.isTurn, joined quiet answered.untilThen, ?_, ?_⟩
  · rw [reached]
    exact answered.isNetmap
  · rw [reached, ← same]
    rcases answered.reason with failed | past | ⟨expired, quietToo⟩
    · exact Or.inl failed
    · exact Or.inr (Or.inl past)
    · exact Or.inr (Or.inr ⟨expired, joined _ quietToo⟩)

theorem answeredAt_first {turn : PollTurn} (rest : List PollTurn)
    {answer : Except ApiError NetMap}
    (isNetmap : answer = polledNetmap config headers nodeId
      (exec (step config) start turn.calls) turn.draws)
    (reason : (∃ error, answer = .error error) ∨
      start.revision < (exec (step config) start turn.calls).revision ∨
      turn.expired = true ∧
        ∀ event ∈ trace (step config) start turn.calls, Uncounted config event) :
    AnsweredAt config headers nodeId start (turn :: rest) answer [] turn rest := by
  have only : ([] ++ [turn]).flatMap PollTurn.calls = turn.calls := by
    rw [List.nil_append, List.flatMap_singleton]
  refine ⟨rfl, ?_, ?_, ?_⟩
  · intro event member
    cases member
  · rw [only]
    exact isNetmap
  · rw [only]
    exact reason

theorem longpoll_turns (small : start.revision < lastRevision) (turns : List PollTurn) :
    (netmapLongpoll config headers nodeId (some start.revision) (pollsOf config start turns) =
        none →
      ∀ event ∈ trace (step config) start (turns.flatMap PollTurn.calls),
        Uncounted config event) ∧
    ∀ answer, netmapLongpoll config headers nodeId (some start.revision)
        (pollsOf config start turns) = some answer →
      ∃ quiet turn later, AnsweredAt config headers nodeId start turns answer quiet turn later := by
  induction turns generalizing start with
  | nil =>
      constructor
      · intro _ event member
        cases member
      · intro answer impossible
        cases impossible
  | cons turn rest ih =>
      have least := revision_le_exec config turn.calls (Nat.le_refl start.revision)
        (Nat.le_of_lt small)
      have uncounted := uncounted_of_same_revision config small turn.calls
      rw [pollsOf, netmapLongpoll_cons]
      dsimp only
      cases read : polledNetmap config headers nodeId (exec (step config) start turn.calls)
          turn.draws with
      | error error =>
          refine ⟨fun waiting => (by cases waiting), ?_⟩
          intro answer answered
          cases answered
          exact ⟨[], turn, rest, answeredAt_first rest read.symm (Or.inl ⟨error, rfl⟩)⟩
      | ok netmap =>
          dsimp only
          split
          · rename_i past
            refine ⟨fun waiting => (by cases waiting), ?_⟩
            intro answer answered
            cases answered
            refine ⟨[], turn, rest, answeredAt_first rest read.symm (Or.inr ?_)⟩
            rcases Nat.lt_or_eq_of_le least with newer | same
            · exact Or.inl newer
            · rcases past with newer | expired
              · exact Or.inl newer
              · exact Or.inr ⟨expired, uncounted same.symm⟩
          · rename_i notPast
            have same : (exec (step config) start turn.calls).revision = start.revision := by
              rcases Nat.lt_or_eq_of_le least with newer | same
              · exact absurd (Or.inl newer) notPast
              · exact same.symm
            have later := @ih (exec (step config) start turn.calls) (same ▸ small)
            rw [same] at later
            constructor
            · intro waiting event member
              rw [List.flatMap_cons, trace_append] at member
              rcases List.mem_append.mp member with early | late
              · exact uncounted same event early
              · exact later.1 waiting event late
            · intro answer answered
              obtain ⟨quiet, answering, others, there⟩ := later.2 answer answered
              exact ⟨turn :: quiet, answering, others, there.after_quiet (uncounted same) same⟩

end

/-- A long poll from the revision of a state is still asleep only while nothing that the
revision counts has happened since that state.  It is answered with the netmap of its own turn,
at the first turn at which the revision has changed, or when its time is up. -/
theorem longpoll_misses_no_counted_change (config : Config) (headers : Headers) (nodeId : String)
    (early : List Call) (turns : List PollTurn)
    (small : (run config early).revision < lastRevision) :
    let start := run config early
    let outcome := netmapLongpoll config headers nodeId (some start.revision)
      (pollsOf config start turns)
    (outcome = none →
      ∀ event ∈ trace (step config) start (turns.flatMap PollTurn.calls),
        Uncounted config event) ∧
    ∀ answer, outcome = some answer →
      ∃ quiet turn later, AnsweredAt config headers nodeId start turns answer quiet turn later :=
  longpoll_turns small turns

/-- A poll by the node `a`, and a registration under a name that is taken. -/
theorem sample_longpoll_asleep :
    let start := run sampleConfig
      [createSample 0, registerSample 1 "a" "alpha", registerSample 2 "b" "beta"]
    ∀ event ∈ trace (step sampleConfig) start [registerSample 3 "c" "alpha"],
      Uncounted sampleConfig event := by
  refine (longpoll_misses_no_counted_change sampleConfig
    (nodeCall 4 "a" (.read (.netmap "a"))).headers "a" _
    [⟨[registerSample 3 "c" "alpha"], sampleDraws 4 "a", false⟩] (by decide)).1 ?_
  rfl

end Lightscale.ControlPlane
