/-
The queues between the mesh and the relays of a server.

A dispatcher puts every packet of the mesh into the queue of the relay of its transport, and
refuses it if the receiving end of the queue is gone.  It is started before the relays, when
the receiving ends are in variables of `main`; a relay that is enabled is given its receiver
when `main` starts it.  Packets stand in a queue in the order of their arrival.
-/

import Mathlib.Data.List.Basic
import Lightscale.Foundation.Execution
import Lightscale.Mesh.Relay

namespace Lightscale.Relay

open Foundation Mesh

/-- A packet with the number of its arrival, under which it is answered. -/
structure Incoming where
  number : Nat
  packet : Packet
  deriving DecidableEq

inductive Holder where
  | main
  /-- The task of the relay, which has not bound its socket. -/
  | relay
  | handleMeshDeliveries
  | dropped
  deriving DecidableEq

structure Channel where
  holder : Holder
  queue : List Incoming
  deriving DecidableEq

/-- How far `main` has got after the start of the dispatcher. -/
inductive MainPhase where
  | binding
  | startingUdp
  | startingStream
  | startingDns
  | serving
  | exited
  deriving DecidableEq

inductive Answer where
  /-- The dispatcher answers that the packet was not delivered. -/
  | refused
  | relayed (delivered : Bool)
  /-- The packet was dropped together with its queue. -/
  | lost
  deriving DecidableEq

structure Dispatch where
  main : MainPhase
  channel : MeshTransport → Channel
  arrived : Nat
  /-- What the dispatcher has not taken yet. -/
  pending : List Incoming
  answers : List (Nat × Answer)

def Dispatch.initial : Dispatch where
  main := .binding
  channel _ := { holder := .main, queue := [] }
  arrived := 0
  pending := []
  answers := []

inductive DispatchAction where
  /-- A frame of the mesh is handed to the local relays. -/
  | arrive (packet : Packet)
  | dispatch
  /-- The function `main` goes on, or returns with an error. -/
  | main (ok : Bool)
  /-- The relay binds its socket, or returns with an error. -/
  | bind (transport : MeshTransport) (ok : Bool)
  /-- The relay takes a packet from its queue and answers it. -/
  | read (transport : MeshTransport) (delivered : Bool)
  deriving DecidableEq

def Dispatch.setChannel (state : Dispatch) (transport : MeshTransport) (channel : Channel) :
    Dispatch :=
  { state with channel := Function.update state.channel transport channel }

def Channel.take (channel : Channel) : Channel :=
  { channel with holder := if channel.holder = .main then .relay else channel.holder }

/-- The part of `main` that starts a relay if it is enabled. -/
def Dispatch.startRelay (enabled : MeshTransport → Bool) (state : Dispatch)
    (transport : MeshTransport) (next : MainPhase) (ok : Bool) : Dispatch :=
  if enabled transport = false then { state with main := next }
  else if ok = false then { state with main := .exited }
  else
    { state.setChannel transport (state.channel transport).take with main := next }

def Dispatch.advance (enabled : MeshTransport → Bool) (state : Dispatch) (ok : Bool) :
    Dispatch :=
  match state.main with
  | .binding => { state with main := if ok then .startingUdp else .exited }
  | .startingUdp => state.startRelay enabled .udp .startingStream ok
  | .startingStream => state.startRelay enabled .stream .startingDns ok
  | .startingDns => { state with main := if ok then .serving else .exited }
  | .serving => { state with main := if ok then .serving else .exited }
  | .exited => state

/-- One step of one task.  A step that the task is not ready for changes nothing. -/
def Dispatch.act (enabled : MeshTransport → Bool) (state : Dispatch) :
    DispatchAction → Dispatch
  | .arrive packet =>
      { state with
        arrived := state.arrived + 1
        pending := state.pending ++ [{ number := state.arrived, packet := packet }] }
  | .dispatch =>
      match state.pending with
      | [] => state
      | incoming :: rest =>
          let channel := state.channel incoming.packet.transport
          -- A send fails only if the receiver is gone.
          if channel.holder = .dropped then
            { state with
              pending := rest
              answers := state.answers ++ [(incoming.number, .refused)] }
          else
            { state.setChannel incoming.packet.transport
                { channel with queue := channel.queue ++ [incoming] } with
              pending := rest }
  | .main ok => state.advance enabled ok
  | .bind transport ok =>
      match state.channel transport with
      | ⟨.relay, queue⟩ =>
          if ok then state.setChannel transport ⟨.handleMeshDeliveries, queue⟩
          else
            { state.setChannel transport ⟨.dropped, []⟩ with
              answers := state.answers ++
                queue.map fun incoming => (incoming.number, Answer.lost) }
      | _ => state
  | .read transport delivered =>
      match state.channel transport with
      | ⟨.handleMeshDeliveries, incoming :: rest⟩ =>
          { state.setChannel transport ⟨.handleMeshDeliveries, rest⟩ with
            answers := state.answers ++ [(incoming.number, .relayed delivered)] }
      | _ => state

/-- When `main` has returned, all tasks have ended. -/
def Dispatch.step (enabled : MeshTransport → Bool) (state : Dispatch)
    (action : DispatchAction) : Dispatch :=
  if state.main = .exited then state else state.act enabled action

/-! ### What one step does -/

inductive DispatchStep (enabled : MeshTransport → Bool) (state : Dispatch) :
    DispatchAction → Dispatch → Prop
  /-- The task is not ready, or all tasks have ended. -/
  | idle (action : DispatchAction) : DispatchStep enabled state action state
  | arrived (packet : Packet) :
      DispatchStep enabled state (.arrive packet)
        { state with
          arrived := state.arrived + 1
          pending := state.pending ++ [{ number := state.arrived, packet := packet }] }
  | refused (incoming : Incoming) (rest : List Incoming)
      (isPending : state.pending = incoming :: rest)
      (gone : (state.channel incoming.packet.transport).holder = .dropped) :
      DispatchStep enabled state .dispatch
        { state with
          pending := rest
          answers := state.answers ++ [(incoming.number, .refused)] }
  | queued (incoming : Incoming) (rest : List Incoming)
      (isPending : state.pending = incoming :: rest)
      (alive : (state.channel incoming.packet.transport).holder ≠ .dropped) :
      DispatchStep enabled state .dispatch
        { state.setChannel incoming.packet.transport
            { state.channel incoming.packet.transport with
              queue := (state.channel incoming.packet.transport).queue ++ [incoming] } with
          pending := rest }
  | advanced (ok : Bool) : DispatchStep enabled state (.main ok) (state.advance enabled ok)
  | bound (transport : MeshTransport) (queue : List Incoming)
      (isRelay : state.channel transport = ⟨.relay, queue⟩) :
      DispatchStep enabled state (.bind transport true)
        (state.setChannel transport ⟨.handleMeshDeliveries, queue⟩)
  | failed (transport : MeshTransport) (queue : List Incoming)
      (isRelay : state.channel transport = ⟨.relay, queue⟩) :
      DispatchStep enabled state (.bind transport false)
        { state.setChannel transport ⟨.dropped, []⟩ with
          answers := state.answers ++ queue.map fun incoming => (incoming.number, Answer.lost) }
  | taken (transport : MeshTransport) (delivered : Bool) (incoming : Incoming)
      (rest : List Incoming)
      (isReader : state.channel transport = ⟨.handleMeshDeliveries, incoming :: rest⟩) :
      DispatchStep enabled state (.read transport delivered)
        { state.setChannel transport ⟨.handleMeshDeliveries, rest⟩ with
          answers := state.answers ++ [(incoming.number, .relayed delivered)] }

theorem dispatchStep (enabled : MeshTransport → Bool) (state : Dispatch)
    (action : DispatchAction) :
    DispatchStep enabled state action (state.step enabled action) := by
  unfold Dispatch.step
  split
  · exact .idle action
  cases action with
  | arrive packet => exact .arrived packet
  | dispatch =>
      dsimp only [Dispatch.act]
      split
      · exact .idle .dispatch
      · rename_i incoming rest isPending
        split
        · rename_i gone
          exact .refused incoming rest isPending gone
        · rename_i alive
          exact .queued incoming rest isPending alive
  | main ok => exact .advanced ok
  | bind transport ok =>
      dsimp only [Dispatch.act]
      split
      · rename_i queue isRelay
        cases ok with
        | false => exact .failed transport queue isRelay
        | true => exact .bound transport queue isRelay
      · exact .idle _
  | read transport delivered =>
      dsimp only [Dispatch.act]
      split
      · rename_i incoming rest isReader
        exact .taken transport delivered incoming rest isReader
      · exact .idle _


inductive ChannelStep (enabled : MeshTransport → Bool) (transport : MeshTransport)
    (action : DispatchAction) (before after : Channel) : Prop where
  | kept (same : after = before)
  | queued (incoming : Incoming) (asked : action = .dispatch) (alive : before.holder ≠ .dropped)
      (appended : after = { before with queue := before.queue ++ [incoming] })
  | started (ok : Bool) (asked : action = .main ok) (isEnabled : enabled transport = true)
      (byMain : before.holder = .main) (handed : after = { before with holder := .relay })
  | bound (ok : Bool) (asked : action = .bind transport ok) (byRelay : before.holder = .relay)
      (handed : after = { before with holder := .handleMeshDeliveries })
  | failed (ok : Bool) (asked : action = .bind transport ok) (byRelay : before.holder = .relay)
      (gone : after = ⟨.dropped, []⟩)
  | taken (delivered : Bool) (asked : action = .read transport delivered) (incoming : Incoming)
      (byReader : before.holder = .handleMeshDeliveries)
      (first : before.queue = incoming :: after.queue) (sameHolder : after.holder = before.holder)

section

variable {enabled : MeshTransport → Bool} {action : DispatchAction} (state : Dispatch)

theorem setChannel_channel (changed transport : MeshTransport) (channel : Channel) :
    (state.setChannel changed channel).channel transport =
      if transport = changed then channel else state.channel transport :=
  Function.update_apply state.channel changed channel transport

theorem channelStep_set {changed : MeshTransport} {channel : Channel}
    (here : ChannelStep enabled changed action (state.channel changed) channel)
    (transport : MeshTransport) :
    ChannelStep enabled transport action (state.channel transport)
      ((state.setChannel changed channel).channel transport) := by
  rw [setChannel_channel]
  by_cases same : transport = changed
  · rw [if_pos same, same]
    exact here
  · rw [if_neg same]
    exact .kept rfl

theorem channelStep_startRelay (started transport : MeshTransport) (next : MainPhase)
    (ok : Bool) :
    ChannelStep enabled transport (.main ok) (state.channel transport)
      ((state.startRelay enabled started next ok).channel transport) := by
  unfold Dispatch.startRelay
  split
  · exact .kept rfl
  · rename_i notDisabled
    split
    · exact .kept rfl
    · refine channelStep_set state ?_ transport
      unfold Channel.take
      by_cases byMain : (state.channel started).holder = .main
      · rw [if_pos byMain]
        exact .started ok rfl (Bool.eq_true_of_not_eq_false notDisabled) byMain rfl
      · rw [if_neg byMain]
        exact .kept rfl

theorem channelStep (action : DispatchAction) (transport : MeshTransport) :
    ChannelStep enabled transport action (state.channel transport)
      ((state.step enabled action).channel transport) := by
  have moved := dispatchStep enabled state action
  generalize state.step enabled action = after at moved ⊢
  cases moved with
  | idle => exact .kept rfl
  | arrived packet => exact .kept rfl
  | refused incoming rest isPending gone => exact .kept rfl
  | queued incoming rest isPending alive =>
      exact channelStep_set state (.queued incoming rfl alive rfl) transport
  | advanced ok =>
      unfold Dispatch.advance
      split
      · exact .kept rfl
      · exact channelStep_startRelay state .udp transport _ ok
      · exact channelStep_startRelay state .stream transport _ ok
      · exact .kept rfl
      · exact .kept rfl
      · exact .kept rfl
  | bound changed queue isRelay =>
      refine channelStep_set state ?_ transport
      rw [isRelay]
      exact .bound true rfl rfl rfl
  | failed changed queue isRelay =>
      refine channelStep_set state ?_ transport
      rw [isRelay]
      exact .failed false rfl rfl rfl
  | taken changed delivered incoming rest isReader =>
      refine channelStep_set state ?_ transport
      rw [isReader]
      exact .taken delivered rfl incoming rfl rfl rfl

end

/-! ### The start of the relays -/

def MainPhase.next : MainPhase → MainPhase
  | .binding => .startingUdp
  | .startingUdp => .startingStream
  | .startingStream => .startingDns
  | .startingDns => .serving
  | .serving => .serving
  | .exited => .exited

def MainPhase.stepsUntil : MainPhase → MeshTransport → Nat
  | .binding, .udp => 2
  | .binding, .stream => 3
  | .startingUdp, .udp => 1
  | .startingUdp, .stream => 2
  | .startingStream, .stream => 1
  | _, _ => 0

theorem MainPhase.stepsUntil_next (phase : MainPhase) (transport : MeshTransport) :
    phase.next.stepsUntil transport = phase.stepsUntil transport - 1 := by
  cases phase <;> cases transport <;> rfl

section

variable {enabled : MeshTransport → Bool} {state : Dispatch}

theorem main_startRelay (transport : MeshTransport) (next : MainPhase) (ok : Bool) :
    (state.startRelay enabled transport next ok).main = .exited ∨
      (state.startRelay enabled transport next ok).main = next := by
  unfold Dispatch.startRelay
  split
  · exact Or.inr rfl
  · split
    · exact Or.inl rfl
    · exact Or.inr rfl

theorem main_advance (ok : Bool) :
    (state.advance enabled ok).main = .exited ∨
      (state.advance enabled ok).main = state.main.next := by
  unfold Dispatch.advance
  cases phase : state.main with
  | binding => cases ok <;> simp [MainPhase.next]
  | startingUdp => exact main_startRelay .udp .startingStream ok
  | startingStream => exact main_startRelay .stream .startingDns ok
  | startingDns => cases ok <;> simp [MainPhase.next]
  | serving => cases ok <;> simp [MainPhase.next]
  | exited => exact Or.inl phase

theorem holder_advance {transport : MeshTransport} (isEnabled : enabled transport = true)
    {ok : Bool} (goesOn : (state.advance enabled ok).main ≠ .exited)
    (isNext : state.main.stepsUntil transport = 1) :
    ((state.advance enabled ok).channel transport).holder ≠ .main := by
  have start : ∀ next, (state.startRelay enabled transport next ok).main ≠ .exited →
      ((state.startRelay enabled transport next ok).channel transport).holder ≠ .main := by
    intro next started
    unfold Dispatch.startRelay at started ⊢
    rw [isEnabled] at started ⊢
    cases ok with
    | false => exact absurd rfl started
    | true =>
        change ((state.setChannel transport (state.channel transport).take).channel
          transport).holder ≠ .main
        rw [setChannel_channel, if_pos rfl]
        unfold Channel.take
        dsimp only
        split
        · exact nofun
        · rename_i notMain
          exact notMain
  unfold Dispatch.advance at goesOn ⊢
  cases phase : state.main with
  | startingUdp =>
      rw [phase] at goesOn isNext
      cases transport with
      | udp => exact start .startingStream goesOn
      | stream => cases isNext
  | startingStream =>
      rw [phase] at goesOn isNext
      cases transport with
      | udp => cases isNext
      | stream => exact start .startingDns goesOn
  | binding =>
      rw [phase] at isNext
      cases transport <;> cases isNext
  | startingDns =>
      rw [phase] at isNext
      cases isNext
  | serving =>
      rw [phase] at isNext
      cases isNext
  | exited =>
      rw [phase] at isNext
      cases isNext

theorem main_step_of_ne {action : DispatchAction} (notMain : ∀ ok, action ≠ .main ok) :
    (state.step enabled action).main = state.main := by
  have moved := dispatchStep enabled state action
  generalize state.step enabled action = after at moved ⊢
  cases moved with
  | advanced ok => exact absurd rfl (notMain ok)
  | _ => rfl

theorem step_of_running (running : state.main ≠ .exited) (action : DispatchAction) :
    state.step enabled action = state.act enabled action :=
  if_neg running

theorem running_of_step {action : DispatchAction}
    (goesOn : (state.step enabled action).main ≠ .exited) : state.main ≠ .exited := by
  intro stopped
  unfold Dispatch.step at goesOn
  rw [if_pos stopped] at goesOn
  exact goesOn stopped

theorem stepsUntil_step_main (ok : Bool) (transport : MeshTransport)
    (goesOn : (state.step enabled (.main ok)).main ≠ .exited) :
    (state.step enabled (.main ok)).main.stepsUntil transport =
      state.main.stepsUntil transport - 1 := by
  have running := running_of_step goesOn
  rw [step_of_running running] at goesOn ⊢
  rcases main_advance ok with ends | isNext
  · exact absurd ends goesOn
  · exact (congrArg (fun phase => phase.stepsUntil transport) isNext).trans
      (state.main.stepsUntil_next transport)

end

/-! ### The order of arrival -/

/-- What has been or may be put into the queue of a transport and was not taken from it. -/
def Dispatch.line (state : Dispatch) (transport : MeshTransport) : List Incoming :=
  (state.channel transport).queue ++ state.pending

theorem pending_startRelay (enabled : MeshTransport → Bool) (state : Dispatch)
    (transport : MeshTransport) (next : MainPhase) (ok : Bool) :
    (state.startRelay enabled transport next ok).pending = state.pending ∧
      (state.startRelay enabled transport next ok).arrived = state.arrived := by
  unfold Dispatch.startRelay
  split
  · exact ⟨rfl, rfl⟩
  · split
    · exact ⟨rfl, rfl⟩
    · exact ⟨rfl, rfl⟩

theorem pending_step_of_ne {enabled : MeshTransport → Bool} {state : Dispatch}
    {action : DispatchAction} (notArrive : ∀ packet, action ≠ .arrive packet)
    (notDispatch : action ≠ .dispatch) :
    (state.step enabled action).pending = state.pending ∧
      (state.step enabled action).arrived = state.arrived := by
  have moved := dispatchStep enabled state action
  generalize state.step enabled action = after at moved ⊢
  cases moved with
  | arrived packet => exact absurd rfl (notArrive packet)
  | refused => exact absurd rfl notDispatch
  | queued => exact absurd rfl notDispatch
  | advanced ok =>
      unfold Dispatch.advance
      split
      · exact ⟨rfl, rfl⟩
      · exact pending_startRelay enabled state .udp _ ok
      · exact pending_startRelay enabled state .stream _ ok
      · exact ⟨rfl, rfl⟩
      · exact ⟨rfl, rfl⟩
      · exact ⟨rfl, rfl⟩
  | _ => exact ⟨rfl, rfl⟩

theorem ChannelStep.queue_sublist {enabled : MeshTransport → Bool} {transport : MeshTransport}
    {action : DispatchAction} {before after : Channel}
    (moved : ChannelStep enabled transport action before after)
    (notDispatch : action ≠ .dispatch) : List.Sublist after.queue before.queue := by
  cases moved with
  | kept same => rw [same]
  | queued incoming asked alive appended => exact absurd asked notDispatch
  | started ok asked isEnabled byMain handed => rw [handed]
  | bound ok asked byRelay handed => rw [handed]
  | failed ok asked byRelay gone =>
      rw [gone]
      exact List.nil_sublist _
  | taken delivered asked incoming byReader first sameHolder =>
      rw [first]
      exact List.sublist_cons_self incoming after.queue

theorem line_step (enabled : MeshTransport → Bool) (state : Dispatch) (action : DispatchAction)
    (transport : MeshTransport) :
    (List.Sublist ((state.step enabled action).line transport) (state.line transport) ∧
        (state.step enabled action).arrived = state.arrived) ∨
      ∃ packet, (state.step enabled action).line transport =
          state.line transport ++ [⟨state.arrived, packet⟩] ∧
        (state.step enabled action).arrived = state.arrived + 1 := by
  have elsewhere (notArrive : ∀ packet, action ≠ .arrive packet)
      (notDispatch : action ≠ .dispatch) :
      List.Sublist ((state.step enabled action).line transport) (state.line transport) ∧
        (state.step enabled action).arrived = state.arrived := by
    obtain ⟨samePending, sameArrived⟩ :=
      pending_step_of_ne notArrive notDispatch
    refine ⟨?_, sameArrived⟩
    unfold Dispatch.line
    rw [samePending]
    exact ((channelStep state action transport).queue_sublist notDispatch).append
      (List.Sublist.refl _)
  have moved := dispatchStep enabled state action
  generalize state.step enabled action = after at moved elsewhere ⊢
  cases moved with
  | idle => exact Or.inl ⟨List.Sublist.refl _, rfl⟩
  | arrived packet => exact Or.inr ⟨packet, (List.append_assoc _ _ _).symm, rfl⟩
  | refused incoming rest isPending gone =>
      refine Or.inl ⟨?_, rfl⟩
      unfold Dispatch.line
      rw [isPending]
      exact (List.Sublist.refl _).append (List.sublist_cons_self incoming rest)
  | queued incoming rest isPending alive =>
      refine Or.inl ⟨?_, rfl⟩
      unfold Dispatch.line
      rw [isPending]
      dsimp only
      rw [setChannel_channel]
      by_cases same : transport = incoming.packet.transport
      · rw [if_pos same, same, List.append_assoc]
        exact List.Sublist.refl _
      · rw [if_neg same]
        exact (List.Sublist.refl _).append (List.sublist_cons_self incoming rest)
  | advanced ok => exact Or.inl (elsewhere nofun nofun)
  | bound changed queue isRelay => exact Or.inl (elsewhere nofun nofun)
  | failed changed queue isRelay => exact Or.inl (elsewhere nofun nofun)
  | taken changed delivered incoming rest isReader => exact Or.inl (elsewhere nofun nofun)

/-! ### Every run -/

/-- Who holds the receivers, and in which order the packets stand in the lines. -/
structure Dispatch.Sound (enabled : MeshTransport → Bool) (state : Dispatch) : Prop where
  /-- The receiver of a relay that is not enabled stays with `main`. -/
  disabled : ∀ transport, enabled transport = false → (state.channel transport).holder = .main
  /-- The receiver of a relay that is enabled is with `main` only before the relay starts. -/
  starting : state.main ≠ .exited → ∀ transport, enabled transport = true →
    (state.channel transport).holder = .main → 1 ≤ state.main.stepsUntil transport
  dropped : ∀ transport, (state.channel transport).holder = .dropped →
    (state.channel transport).queue = []
  ordered : ∀ transport,
    (state.line transport).Pairwise fun left right => left.number < right.number
  numbered : ∀ transport, ∀ incoming ∈ state.line transport, incoming.number < state.arrived

theorem Dispatch.Sound.initial (enabled : MeshTransport → Bool) :
    Dispatch.initial.Sound enabled where
  disabled _ _ := rfl
  starting _ transport _ _ := by cases transport <;> decide
  dropped := nofun
  ordered _ := List.Pairwise.nil
  numbered := nofun

section

variable {enabled : MeshTransport → Bool} {state : Dispatch}

theorem Dispatch.Sound.starting_step (sound : state.Sound enabled) {action : DispatchAction}
    (goesOn : (state.step enabled action).main ≠ .exited) {transport : MeshTransport}
    (isEnabled : enabled transport = true)
    (byMain : ((state.step enabled action).channel transport).holder = .main) :
    1 ≤ (state.step enabled action).main.stepsUntil transport := by
  have running := running_of_step goesOn
  -- Nobody gives a receiver back to `main`.
  have wasMain : (state.channel transport).holder = .main := by
    cases channelStep state action transport with
    | kept same => rwa [same] at byMain
    | queued incoming asked alive appended => rwa [appended] at byMain
    | started ok asked isEnabled byMain handed => exact byMain
    | bound ok asked byRelay handed =>
        rw [handed] at byMain
        cases byMain
    | failed ok asked byRelay gone =>
        rw [gone] at byMain
        cases byMain
    | taken delivered asked incoming byReader first sameHolder => rwa [sameHolder] at byMain
  have before := sound.starting running transport isEnabled wasMain
  by_cases isMain : ∃ ok, action = .main ok
  · obtain ⟨ok, rfl⟩ := isMain
    rw [stepsUntil_step_main ok transport goesOn]
    by_cases isNext : state.main.stepsUntil transport = 1
    · rw [step_of_running running] at goesOn byMain
      exact absurd byMain (holder_advance isEnabled goesOn isNext)
    · omega
  · rw [main_step_of_ne fun ok isMainAction => isMain ⟨ok, isMainAction⟩]
    exact before

theorem Dispatch.Sound.step (sound : state.Sound enabled) (action : DispatchAction) :
    (state.step enabled action).Sound enabled where
  disabled := by
    intro transport isDisabled
    have byMain := sound.disabled transport isDisabled
    cases channelStep state action transport with
    | kept same => rwa [same]
    | queued incoming asked alive appended => rwa [appended]
    | started ok asked isEnabled byMain handed =>
        rw [isDisabled] at isEnabled
        cases isEnabled
    | bound ok asked byRelay handed =>
        rw [byMain] at byRelay
        cases byRelay
    | failed ok asked byRelay gone =>
        rw [byMain] at byRelay
        cases byRelay
    | taken delivered asked incoming byReader first sameHolder => rwa [sameHolder]
  starting goesOn transport isEnabled byMain := sound.starting_step goesOn isEnabled byMain
  dropped := by
    intro transport isDropped
    cases channelStep state action transport with
    | kept same =>
        rw [same] at isDropped ⊢
        exact sound.dropped transport isDropped
    | queued incoming asked alive appended =>
        rw [appended] at isDropped
        exact absurd isDropped alive
    | started ok asked isEnabled byMain handed =>
        rw [handed] at isDropped
        cases isDropped
    | bound ok asked byRelay handed =>
        rw [handed] at isDropped
        cases isDropped
    | failed ok asked byRelay gone => rw [gone]
    | taken delivered asked incoming byReader first sameHolder =>
        rw [sameHolder, byReader] at isDropped
        cases isDropped
  ordered := by
    intro transport
    rcases line_step enabled state action transport with ⟨shorter, -⟩ | ⟨packet, longer, -⟩
    · exact (sound.ordered transport).sublist shorter
    · rw [longer]
      refine List.pairwise_append.mpr ⟨sound.ordered transport, List.pairwise_singleton _ _, ?_⟩
      intro incoming member new isNew
      rw [List.mem_singleton.mp isNew]
      exact sound.numbered transport incoming member
  numbered := by
    intro transport incoming member
    rcases line_step enabled state action transport with
      ⟨shorter, sameArrived⟩ | ⟨packet, longer, oneMore⟩
    · rw [sameArrived]
      exact sound.numbered transport incoming (shorter.subset member)
    · rw [oneMore]
      rw [longer] at member
      rcases List.mem_append.mp member with old | new
      · exact Nat.lt_succ_of_lt (sound.numbered transport incoming old)
      · rw [List.mem_singleton.mp new]
        exact Nat.lt_succ_self state.arrived

theorem Dispatch.Sound.queue_nodup (sound : state.Sound enabled) (transport : MeshTransport) :
    (state.channel transport).queue.Nodup := by
  have ordered := (sound.ordered transport).sublist (List.sublist_append_left _ _)
  refine ordered.imp ?_
  intro left right less same
  rw [same] at less
  exact Nat.lt_irrefl _ less

end

theorem dispatch_sound (enabled : MeshTransport → Bool) (actions : List DispatchAction) :
    (exec (Dispatch.step enabled) Dispatch.initial actions).Sound enabled :=
  exec_invariant (Dispatch.step enabled) (Dispatch.Sound enabled)
    (fun _ action sound => sound.step action) Dispatch.initial (.initial enabled) actions

end Lightscale.Relay
