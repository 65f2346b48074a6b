/-
Runs of a deterministic transition function, with the events they leave behind.

The state after a run forgets how it was reached.  The trace keeps, for every
input, the state before and after it, so that a property can speak about the
history of a run.  The two induction rules are the only place where a run is
taken apart.
-/

import Mathlib.Data.List.Induction
import Mathlib.Order.WellFounded

namespace Lightscale.Foundation

variable {State Input : Type}

structure Event (State Input : Type) where
  before : State
  input : Input
  after : State

variable (step : State → Input → State)

/-- The state reached by feeding the inputs from left to right. -/
def exec (start : State) (inputs : List Input) : State :=
  inputs.foldl step start

def eventAt (state : State) (input : Input) : Event State Input :=
  { before := state
    input := input
    after := step state input }

def trace : State → List Input → List (Event State Input)
  | _, [] => []
  | start, input :: rest => eventAt step start input :: trace (step start input) rest

theorem exec_append (start : State) (first second : List Input) :
    exec step start (first ++ second) = exec step (exec step start first) second :=
  List.foldl_append

theorem exec_snoc (start : State) (inputs : List Input) (input : Input) :
    exec step start (inputs ++ [input]) = step (exec step start inputs) input := by
  rw [exec_append]
  rfl

theorem trace_append (start : State) (first second : List Input) :
    trace step start (first ++ second) =
      trace step start first ++ trace step (exec step start first) second := by
  induction first generalizing start with
  | nil => rfl
  | cons input rest ih =>
      change eventAt step start input :: trace step (step start input) (rest ++ second) = _
      rw [ih]
      rfl

theorem trace_snoc (start : State) (inputs : List Input) (input : Input) :
    trace step start (inputs ++ [input]) =
      trace step start inputs ++ [eventAt step (exec step start inputs) input] := by
  rw [trace_append]
  rfl

theorem map_input_trace (start : State) (inputs : List Input) :
    (trace step start inputs).map Event.input = inputs := by
  induction inputs generalizing start with
  | nil => rfl
  | cons input rest ih =>
      change input :: (trace step (step start input) rest).map Event.input = input :: rest
      rw [ih]

/-- A property kept by every step holds after every run. -/
theorem exec_invariant (property : State → Prop)
    (preserved : ∀ state input, property state → property (step state input))
    (start : State) (initial : property start) (inputs : List Input) :
    property (exec step start inputs) := by
  induction inputs using List.reverseRecOn with
  | nil => exact initial
  | append_singleton inputs input ih =>
      rw [exec_snoc]
      exact preserved _ input ih

/-- The same rule for the runs whose every step meets a condition. -/
theorem exec_invariant_when (condition : State → Input → Prop) (property : State → Prop)
    (preserved : ∀ state input, condition state input → property state →
      property (step state input))
    (start : State) (initial : property start) (inputs : List Input)
    (met : ∀ event ∈ trace step start inputs, condition event.before event.input) :
    property (exec step start inputs) := by
  induction inputs generalizing start with
  | nil => exact initial
  | cons input rest ih =>
      have first := met (eventAt step start input) List.mem_cons_self
      exact ih (step start input) (preserved start input first initial)
        (fun event member => met event (List.mem_cons_of_mem _ member))

/-- A property of the history and the state, kept when one event is appended,
holds of every run together with its trace. -/
theorem trace_invariant (property : List (Event State Input) → State → Prop)
    (start : State) (initial : property [] start)
    (preserved : ∀ past state input, property past state →
      property (past ++ [eventAt step state input]) (step state input))
    (inputs : List Input) :
    property (trace step start inputs) (exec step start inputs) := by
  induction inputs using List.reverseRecOn with
  | nil => exact initial
  | append_singleton inputs input ih =>
      rw [trace_snoc, exec_snoc]
      exact preserved _ _ input ih

theorem trace_split (start : State) (inputs : List Input)
    (past rest : List (Event State Input)) (event : Event State Input)
    (split : trace step start inputs = past ++ event :: rest) :
    ∃ early late, inputs = early ++ event.input :: late ∧
      trace step start early = past ∧
      event = eventAt step (exec step start early) event.input := by
  induction past generalizing start inputs with
  | nil =>
      cases inputs with
      | nil => cases split
      | cons input late =>
          have both := List.cons.inj split
          refine ⟨[], late, ?_, rfl, ?_⟩
          · rw [← both.1]
            rfl
          · rw [← both.1]
            rfl
  | cons first past ih =>
      cases inputs with
      | nil => cases split
      | cons input inputs =>
          have both := List.cons.inj split
          obtain ⟨early, late, inputsEq, pastEq, eventEq⟩ :=
            ih (step start input) inputs both.2
          refine ⟨input :: early, late, ?_, ?_, ?_⟩
          · rw [inputsEq]
            rfl
          · change eventAt step start input :: trace step (step start input) early =
              first :: past
            rw [pastEq, both.1]
          · exact eventEq

theorem trace_after {start : State} {inputs : List Input} {past rest : List (Event State Input)}
    {event : Event State Input} (split : trace step start inputs = past ++ event :: rest) :
    ∃ early late, inputs = early ++ event.input :: late ∧
      past = trace step start early ∧
      event = eventAt step (exec step start early) event.input ∧
      exec step start inputs = exec step event.after late ∧
      rest = trace step event.after late := by
  obtain ⟨early, late, inputsEq, pastEq, eventEq⟩ :=
    trace_split step start inputs past rest event split
  have afterEq : event.after = step (exec step start early) event.input := by
    rw [eventEq]
    rfl
  refine ⟨early, late, inputsEq, pastEq.symm, eventEq, ?_, ?_⟩
  · rw [inputsEq, exec_append, afterEq]
    rfl
  · have whole : trace step start inputs = past ++ event :: trace step event.after late := by
      rw [inputsEq, trace_append, pastEq, afterEq]
      change past ++ eventAt step (exec step start early) event.input :: _ = _
      rw [← eventEq]
    exact (List.cons.inj (List.append_cancel_left (split.symm.trans whole))).2

theorem before_of_mem_trace {start : State} {inputs : List Input} {event : Event State Input}
    (member : event ∈ trace step start inputs) :
    ∃ early late, inputs = early ++ event.input :: late ∧
      event.before = exec step start early := by
  obtain ⟨past, rest, split⟩ := List.append_of_mem member
  obtain ⟨early, late, inputsEq, _, eventEq⟩ :=
    trace_split step start inputs past rest event split
  exact ⟨early, late, inputsEq, by rw [eventEq]; rfl⟩

theorem after_of_mem_trace {start : State} {inputs : List Input} {event : Event State Input}
    (member : event ∈ trace step start inputs) : event.after = step event.before event.input := by
  obtain ⟨past, rest, split⟩ := List.append_of_mem member
  obtain ⟨early, late, _, _, eventEq⟩ := trace_split step start inputs past rest event split
  rw [eventEq]
  rfl

theorem input_of_mem_trace {start : State} {inputs : List Input} {event : Event State Input}
    (member : event ∈ trace step start inputs) : event.input ∈ inputs := by
  rw [← map_input_trace step start inputs]
  exact List.mem_map_of_mem member

theorem snoc_split {Entry : Type} {past early late : List Entry} {new entry : Entry}
    (split : past ++ [new] = early ++ entry :: late) :
    (late = [] ∧ past = early ∧ new = entry) ∨
      ∃ shorter, late = shorter ++ [new] ∧ past = early ++ entry :: shorter := by
  rcases List.eq_nil_or_concat late with empty | ⟨shorter, last, lateEq⟩
  · subst empty
    have both := List.append_inj' split rfl
    exact Or.inl ⟨rfl, both.1, (List.cons.inj both.2).1⟩
  · rw [List.concat_eq_append] at lateEq
    subst lateEq
    have regrouped : past ++ [new] = (early ++ entry :: shorter) ++ [last] := by
      rw [split, List.append_assoc]
      rfl
    have both := List.append_inj' regrouped rfl
    have same : new = last := (List.cons.inj both.2).1
    subst same
    exact Or.inr ⟨shorter, rfl, both.1⟩

/-- If a condition says exactly when a step keeps a property, then the property holds all
along a run exactly if every step of the run meets the condition. -/
theorem exec_always_iff (invariant property : State → Prop) (allowed : Input → Prop)
    (condition : State → Input → Prop)
    (kept : ∀ state input, invariant state → invariant (step state input))
    (exactly : ∀ state input, allowed input → invariant state → property state →
      (property (step state input) ↔ condition state input))
    (start : State) (holds : invariant start) (initial : property start) (inputs : List Input)
    (all : ∀ input ∈ inputs, allowed input) :
    (∀ early late, inputs = early ++ late → property (exec step start early)) ↔
      ∀ event ∈ trace step start inputs, condition event.before event.input := by
  induction inputs generalizing start with
  | nil =>
      constructor
      · intro _ event member
        cases member
      · intro _ early late split
        rw [(List.append_eq_nil_iff.mp split.symm).1]
        exact initial
  | cons input rest ih =>
      have here := exactly start input (all input List.mem_cons_self) holds initial
      have later := fun first : property (step start input) =>
        ih (step start input) (kept start input holds) first
          (fun other member => all other (List.mem_cons_of_mem _ member))
      constructor
      · intro always event member
        have first : property (step start input) := always [input] rest rfl
        rcases List.mem_cons.mp member with isFirst | isLater
        · rw [isFirst]
          exact here.mp first
        · apply (later first).mp _ event isLater
          intro early late split
          apply always (input :: early) late
          rw [split]
          rfl
      · intro met early late split
        cases early with
        | nil => exact initial
        | cons head early =>
            obtain ⟨isHead, restIs⟩ := List.cons.inj split
            subst isHead
            have first := here.mpr (met _ List.mem_cons_self)
            exact (later first).mpr
              (fun event member => met event (List.mem_cons_of_mem _ member)) early late restIs

/-! ### Endless runs -/

/-- The state before the input with the given number. -/
def stateAt (start : State) (inputs : Nat → Input) : Nat → State
  | 0 => start
  | count + 1 => step (stateAt start inputs count) (inputs count)

/-- What holds of every step that leaves a well-founded measure alone holds from some step
on, if no step lets the measure grow. -/
theorem eventually_of_wellFounded {Measure : Type} {less : Measure → Measure → Prop}
    (wellFounded : WellFounded less) (measure : Nat → Measure) (property : Nat → Prop)
    (first : Nat)
    (steps : ∀ count, first ≤ count →
      (measure (count + 1) = measure count ∧ property count) ∨
        less (measure (count + 1)) (measure count)) :
    ∃ last, ∀ count, last ≤ count → property count := by
  let reached : Set Measure := fun value => ∃ count, first ≤ count ∧ measure count = value
  have nonempty : reached.Nonempty := ⟨measure first, first, Nat.le_refl first, rfl⟩
  obtain ⟨last, afterFirst, isLeast⟩ := wellFounded.min_mem reached nonempty
  have notLess : ∀ count, first ≤ count → ¬ less (measure count) (measure last) := by
    intro count later
    rw [isLeast]
    exact wellFounded.not_lt_min reached ⟨count, later, rfl⟩
  -- From its least value on the measure cannot move any more.
  have settled : ∀ more, measure (last + more) = measure last := by
    intro more
    induction more with
    | zero => rfl
    | succ more ih =>
        rcases steps (last + more) (by omega) with ⟨same, _⟩ | lower
        · exact same.trans ih
        · rw [ih] at lower
          exact absurd lower (notLess (last + more + 1) (by omega))
  refine ⟨last, ?_⟩
  intro count later
  rcases steps count (by omega) with ⟨_, holds⟩ | lower
  · exact holds
  · have here := settled (count - last)
    rw [Nat.add_sub_cancel' later] at here
    rw [here] at lower
    exact absurd lower (notLess (count + 1) (by omega))

/-- What holds at one moment and not at a later one is lost at a moment in between. -/
theorem exists_loss (holds : Nat → Prop) {first last : Nat} (ordered : first ≤ last)
    (before : holds first) (after : ¬ holds last) :
    ∃ moment, first ≤ moment ∧ moment < last ∧ holds moment ∧ ¬ holds (moment + 1) := by
  induction last with
  | zero =>
      cases Nat.le_zero.mp ordered
      exact absurd before after
  | succ last ih =>
      rcases Nat.lt_or_eq_of_le ordered with earlier | same
      · by_cases still : holds last
        · exact ⟨last, by omega, Nat.lt_succ_self last, still, after⟩
        · obtain ⟨moment, low, high, lost⟩ := ih (by omega) still
          exact ⟨moment, low, by omega, lost⟩
      · rw [same] at before
        exact absurd before after

end Lightscale.Foundation
