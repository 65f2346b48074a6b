/-
Which packets of the mesh wait for nobody.

A packet in the queue of a relay that is enabled waits for a known step: for `main` to start
the relay, for the relay to bind its socket, or for the relay to read.  If every task gets its
turns, the packet leaves the queue.  The receiver of a relay that is not enabled stays in a
variable of `main` for as long as the server runs.  Nothing is read from it, and nothing is
refused either, because it exists.
-/

import Lightscale.Relay.Dispatch

namespace Lightscale.Relay

open Foundation Mesh

/-! ### Queues that are read -/

/-- The step that the packets of a queue wait for. -/
def Dispatch.Awaits (state : Dispatch) (transport : MeshTransport) (action : DispatchAction) :
    Prop :=
  match (state.channel transport).holder with
  | .main => ∃ ok, action = .main ok
  | .relay => ∃ ok, action = .bind transport ok
  | .handleMeshDeliveries => ∃ delivered, action = .read transport delivered
  | .dropped => False

def Dispatch.handOvers (state : Dispatch) (transport : MeshTransport) : Nat :=
  match (state.channel transport).holder with
  | .main => state.main.stepsUntil transport + 1
  | .relay => 1
  | _ => 0

/-- The steps that a packet in a queue has to wait for. -/
def Dispatch.delay (state : Dispatch) (transport : MeshTransport) (incoming : Incoming) : Nat :=
  state.handOvers transport + (state.channel transport).queue.idxOf incoming

section

variable {enabled : MeshTransport → Bool} {state : Dispatch} {action : DispatchAction}
  {transport : MeshTransport}

theorem channel_step_ne (running : state.main ≠ .exited)
    (notMain : (state.channel transport).holder ≠ .main)
    (present : (state.channel transport).queue ≠ []) (awaited : state.Awaits transport action) :
    (state.step enabled action).channel transport ≠ state.channel transport := by
  rw [step_of_running running]
  unfold Dispatch.Awaits at awaited
  rcases isChannel : state.channel transport with ⟨holder, queue⟩
  rw [isChannel] at awaited notMain present
  cases holder with
  | main => exact absurd rfl notMain
  | relay =>
      obtain ⟨ok, rfl⟩ := awaited
      dsimp only [Dispatch.act]
      rw [isChannel]
      cases ok <;> simp [Dispatch.setChannel]
  | handleMeshDeliveries =>
      obtain ⟨delivered, rfl⟩ := awaited
      cases queue with
      | nil => exact absurd rfl present
      | cons first rest =>
          dsimp only [Dispatch.act]
          rw [isChannel]
          simp [Dispatch.setChannel]
  | dropped => exact awaited.elim

/-- No step makes a packet of a relay that is enabled wait longer, and the step that it waits
for brings it nearer to its end. -/
theorem Dispatch.Sound.delay_step (sound : state.Sound enabled)
    (goesOn : (state.step enabled action).main ≠ .exited)
    (isEnabled : enabled transport = true) {incoming : Incoming}
    (present : incoming ∈ (state.channel transport).queue)
    (still : incoming ∈ ((state.step enabled action).channel transport).queue) :
    ((state.step enabled action).delay transport incoming = state.delay transport incoming ∧
        ¬ state.Awaits transport action ∧
        ((state.step enabled action).channel transport).holder =
          (state.channel transport).holder) ∨
      (state.step enabled action).delay transport incoming < state.delay transport incoming := by
  have running := running_of_step goesOn
  have starting := sound.starting running transport isEnabled
  unfold Dispatch.delay Dispatch.handOvers
  cases channelStep state action transport with
  | kept same =>
      rw [same]
      by_cases awaited : state.Awaits transport action
      · -- Only a step of `main` can leave the queue as it was.
        have byMain : (state.channel transport).holder = .main := by
          by_contra notMain
          exact channel_step_ne running notMain (List.ne_nil_of_mem present) awaited same
        have nearer := starting byMain
        unfold Dispatch.Awaits at awaited
        rw [byMain] at awaited ⊢
        obtain ⟨ok, rfl⟩ := awaited
        rw [stepsUntil_step_main ok transport goesOn]
        dsimp only
        omega
      · refine Or.inl ⟨?_, awaited, rfl⟩
        unfold Dispatch.Awaits at awaited
        cases isHolder : (state.channel transport).holder with
        | main =>
            rw [isHolder] at awaited
            rw [main_step_of_ne fun ok isMain => awaited ⟨ok, isMain⟩]
        | relay => rfl
        | handleMeshDeliveries => rfl
        | dropped => rfl
  | queued new asked alive appended =>
      refine Or.inl ⟨?_, ?_, by rw [appended]⟩
      · rw [appended, main_step_of_ne (by rw [asked]; exact nofun)]
        dsimp only
        rw [List.idxOf_append_of_mem present]
      · unfold Dispatch.Awaits
        rw [asked]
        split
        · exact nofun
        · exact nofun
        · exact nofun
        · exact not_false
  | started ok asked isEnabled byMain handed =>
      have nearer := starting byMain
      rw [handed, byMain]
      dsimp only
      omega
  | bound ok asked byRelay handed =>
      rw [handed, byRelay]
      dsimp only
      omega
  | failed ok asked byRelay gone =>
      rw [gone] at still
      cases still
  | taken delivered asked first byReader isFirst sameHolder =>
      have nodup := sound.queue_nodup transport
      rw [isFirst] at nodup
      have different : first ≠ incoming := by
        intro same
        rw [same] at nodup
        exact (List.nodup_cons.mp nodup).1 still
      rw [sameHolder, byReader, isFirst, List.idxOf_cons_ne _ different]
      dsimp only
      omega

end

/-- An endless run from a state in which `main` does not return and the tasks of the server
and of a relay are given their turns again and again. -/
structure KeepsGoing (enabled : MeshTransport → Bool) (transport : MeshTransport)
    (state : Dispatch) (inputs : Nat → DispatchAction) : Prop where
  running : ∀ count, (stateAt (Dispatch.step enabled) state inputs count).main ≠ .exited
  main : ∀ count, ∃ later ok, count ≤ later ∧ inputs later = .main ok
  bind : ∀ count, ∃ later ok, count ≤ later ∧ inputs later = .bind transport ok
  read : ∀ count, ∃ later delivered, count ≤ later ∧ inputs later = .read transport delivered

theorem Dispatch.Sound.along {enabled : MeshTransport → Bool} {state : Dispatch}
    (sound : state.Sound enabled) (inputs : Nat → DispatchAction) (count : Nat) :
    (stateAt (Dispatch.step enabled) state inputs count).Sound enabled := by
  induction count with
  | zero => exact sound
  | succ count ih => exact ih.step (inputs count)

theorem Dispatch.Sound.leaves_queue {enabled : MeshTransport → Bool} {state : Dispatch}
    (sound : state.Sound enabled) {transport : MeshTransport}
    (isEnabled : enabled transport = true) {inputs : Nat → DispatchAction}
    (keepsGoing : KeepsGoing enabled transport state inputs) (incoming : Incoming) :
    ∃ count, incoming ∉
      ((stateAt (Dispatch.step enabled) state inputs count).channel transport).queue := by
  by_contra stays
  rw [not_exists] at stays
  replace stays := fun count => not_not.mp (stays count)
  -- The delay cannot sink for ever, so from some step on nobody is awaited.
  obtain ⟨last, settled⟩ := eventually_of_wellFounded Nat.lt_wfRel.wf
    (fun count => (stateAt (Dispatch.step enabled) state inputs count).delay transport incoming)
    (fun count =>
      ¬ (stateAt (Dispatch.step enabled) state inputs count).Awaits transport (inputs count) ∧
        ((stateAt (Dispatch.step enabled) state inputs (count + 1)).channel transport).holder =
          ((stateAt (Dispatch.step enabled) state inputs count).channel transport).holder)
    0
    (fun count _ => (sound.along inputs count).delay_step (keepsGoing.running (count + 1))
      isEnabled (stays count) (stays (count + 1)))
  have sameHolder : ∀ count, last ≤ count →
      ((stateAt (Dispatch.step enabled) state inputs count).channel transport).holder =
        ((stateAt (Dispatch.step enabled) state inputs last).channel transport).holder := by
    intro count later
    induction count, later using Nat.le_induction with
    | base => rfl
    | succ count later ih => exact (settled count later).2.trans ih
  have never : ∀ later, last ≤ later →
      ¬ (stateAt (Dispatch.step enabled) state inputs last).Awaits transport (inputs later) := by
    intro later isLater awaited
    apply (settled later isLater).1
    unfold Dispatch.Awaits at awaited ⊢
    rw [sameHolder later isLater]
    exact awaited
  unfold Dispatch.Awaits at never
  cases isHolder :
      ((stateAt (Dispatch.step enabled) state inputs last).channel transport).holder with
  | main =>
      obtain ⟨later, ok, isLater, asked⟩ := keepsGoing.main last
      rw [isHolder] at never
      exact never later isLater ⟨ok, asked⟩
  | relay =>
      obtain ⟨later, ok, isLater, asked⟩ := keepsGoing.bind last
      rw [isHolder] at never
      exact never later isLater ⟨ok, asked⟩
  | handleMeshDeliveries =>
      obtain ⟨later, delivered, isLater, asked⟩ := keepsGoing.read last
      rw [isHolder] at never
      exact never later isLater ⟨delivered, asked⟩
  | dropped =>
      have empty := (sound.along inputs last).dropped transport isHolder
      have present := stays last
      rw [empty] at present
      cases present

/-! ### Queues that nobody reads -/

/-- Whatever happens, the packet stays in the queue. -/
def Parked (enabled : MeshTransport → Bool) (transport : MeshTransport) (state : Dispatch)
    (incoming : Incoming) : Prop :=
  ∀ actions, incoming ∈
    ((exec (Dispatch.step enabled) state actions).channel transport).queue

theorem Dispatch.Sound.mem_queue_step {enabled : MeshTransport → Bool} {state : Dispatch}
    (sound : state.Sound enabled) {transport : MeshTransport}
    (isDisabled : enabled transport = false) {incoming : Incoming}
    (present : incoming ∈ (state.channel transport).queue) (action : DispatchAction) :
    incoming ∈ ((state.step enabled action).channel transport).queue := by
  have byMain := sound.disabled transport isDisabled
  cases channelStep state action transport with
  | kept same => rwa [same]
  | queued new asked alive appended =>
      rw [appended]
      exact List.mem_append_left _ present
  | started ok asked isEnabled byMain handed => rwa [handed]
  | bound ok asked byRelay handed => rwa [handed]
  | failed ok asked byRelay gone =>
      rw [byMain] at byRelay
      cases byRelay
  | taken delivered asked first byReader isFirst sameHolder =>
      rw [byMain] at byReader
      cases byReader

theorem Dispatch.Sound.parked {enabled : MeshTransport → Bool} {state : Dispatch}
    (sound : state.Sound enabled) {transport : MeshTransport}
    (isDisabled : enabled transport = false) {incoming : Incoming}
    (present : incoming ∈ (state.channel transport).queue) :
    Parked enabled transport state incoming := by
  intro actions
  exact (exec_invariant (Dispatch.step enabled)
    (fun later => later.Sound enabled ∧ incoming ∈ (later.channel transport).queue)
    (fun later action both =>
      ⟨both.1.step action, both.1.mem_queue_step isDisabled both.2 action⟩)
    state ⟨sound, present⟩ actions).2

/-- A relay has the receiver of the queue, or is enabled and gets it when `main` starts it. -/
def Dispatch.Attended (enabled : MeshTransport → Bool) (transport : MeshTransport)
    (state : Dispatch) : Prop :=
  (state.channel transport).holder = .relay ∨
    (state.channel transport).holder = .handleMeshDeliveries ∨
    (enabled transport = true ∧ (state.channel transport).holder = .main ∧
      1 ≤ state.main.stepsUntil transport)

/-- The packets of a transport are refused or are in a queue that is read. -/
structure Dispatch.Served (enabled : MeshTransport → Bool) (transport : MeshTransport)
    (state : Dispatch) : Prop where
  dispatched : ∀ incoming rest, state.pending = incoming :: rest →
    incoming.packet.transport = transport →
    (state.step enabled .dispatch).answers = state.answers ++ [(incoming.number, .refused)] ∨
      (incoming ∈ ((state.step enabled .dispatch).channel transport).queue ∧
        (state.step enabled .dispatch).Attended enabled transport)
  attended : (state.channel transport).queue ≠ [] → state.Attended enabled transport
  /-- If all tasks get their turns, the packets leave the queue. -/
  consumed : ∀ incoming ∈ (state.channel transport).queue, ∀ inputs,
    KeepsGoing enabled transport state inputs →
    ∃ count, incoming ∉
      ((stateAt (Dispatch.step enabled) state inputs count).channel transport).queue

section

variable {enabled : MeshTransport → Bool} {state : Dispatch} {transport : MeshTransport}

theorem Dispatch.Sound.attended (sound : state.Sound enabled) (running : state.main ≠ .exited)
    (isEnabled : enabled transport = true) (present : (state.channel transport).queue ≠ []) :
    state.Attended enabled transport := by
  unfold Dispatch.Attended
  cases isHolder : (state.channel transport).holder with
  | main => exact Or.inr (Or.inr ⟨isEnabled, rfl, sound.starting running _ isEnabled isHolder⟩)
  | relay => exact Or.inl rfl
  | handleMeshDeliveries => exact Or.inr (Or.inl rfl)
  | dropped => exact absurd (sound.dropped transport isHolder) present

theorem answers_or_queued (enabled : MeshTransport → Bool) (running : state.main ≠ .exited)
    {incoming : Incoming} {rest : List Incoming} (isPending : state.pending = incoming :: rest) :
    (state.step enabled .dispatch).answers = state.answers ++ [(incoming.number, .refused)] ∨
      incoming ∈
        ((state.step enabled .dispatch).channel incoming.packet.transport).queue := by
  rw [step_of_running running]
  dsimp only [Dispatch.act]
  rw [isPending]
  dsimp only
  split
  · exact Or.inl rfl
  · refine Or.inr ?_
    rw [setChannel_channel, if_pos rfl]
    exact List.mem_append_right _ (List.mem_singleton_self incoming)

theorem Dispatch.Sound.served (sound : state.Sound enabled) (running : state.main ≠ .exited)
    (isEnabled : enabled transport = true) : state.Served enabled transport where
  dispatched := by
    intro incoming rest isPending isTransport
    rcases answers_or_queued enabled running isPending with refused | queued
    · exact Or.inl refused
    · rw [isTransport] at queued
      have samePhase : (state.step enabled .dispatch).main = state.main := main_step_of_ne nofun
      have goesOn : (state.step enabled .dispatch).main ≠ .exited := by
        rw [samePhase]
        exact running
      exact Or.inr ⟨queued, (sound.step .dispatch).attended goesOn isEnabled
        (List.ne_nil_of_mem queued)⟩
  attended := sound.attended running isEnabled
  consumed incoming _ _ keepsGoing := sound.leaves_queue isEnabled keepsGoing incoming

end

def samplePacket (transport : MeshTransport) : Packet where
  transport := transport
  fromId := "a"
  toId := "b"
  payload := []

/-- The packets of a transport are refused or reach a relay, in every run and at every moment
of it, if and only if the relay of the transport is enabled. -/
theorem queue_served_iff (enabled : MeshTransport → Bool) (transport : MeshTransport) :
    (∀ actions,
      (exec (Dispatch.step enabled) Dispatch.initial actions).main ≠ .exited →
        (exec (Dispatch.step enabled) Dispatch.initial actions).Served enabled transport) ↔
      enabled transport = true := by
  constructor
  · intro served
    have isServed := served [.arrive (samplePacket transport), .dispatch] nofun
    have queue : ((exec (Dispatch.step enabled) Dispatch.initial
        [.arrive (samplePacket transport), .dispatch]).channel transport).queue =
          [⟨0, samplePacket transport⟩] := by
      simp [exec, Dispatch.step, Dispatch.act, Dispatch.initial, Dispatch.setChannel,
        samplePacket]
    have attended := isServed.attended (by rw [queue]; exact List.cons_ne_nil _ _)
    by_contra notEnabled
    have byMain := (dispatch_sound enabled [.arrive (samplePacket transport), .dispatch]).disabled
      transport (Bool.eq_false_of_not_eq_true notEnabled)
    rcases attended with byRelay | byReader | ⟨isEnabled, -⟩
    · rw [byMain] at byRelay
      cases byRelay
    · rw [byMain] at byReader
      cases byReader
    · exact notEnabled isEnabled
  · intro isEnabled actions running
    exact (dispatch_sound enabled actions).served running isEnabled

def onlyUdp (transport : MeshTransport) : Bool := decide (transport = .udp)

def sampleDispatchRun : List DispatchAction :=
  [.main true, .main true, .main true, .main true, .bind .udp true,
    .arrive (samplePacket .stream), .dispatch]

/-- With the UDP relay alone, a packet for the stream relay is neither refused nor ever
read. -/
theorem stream_packet_parked :
    (exec (Dispatch.step onlyUdp) Dispatch.initial sampleDispatchRun).main = .serving ∧
      (exec (Dispatch.step onlyUdp) Dispatch.initial sampleDispatchRun).answers = [] ∧
      Parked onlyUdp .stream (exec (Dispatch.step onlyUdp) Dispatch.initial sampleDispatchRun)
        ⟨0, samplePacket .stream⟩ := by
  refine ⟨by decide +kernel, by decide +kernel, ?_⟩
  exact (dispatch_sound onlyUdp sampleDispatchRun).parked rfl (by decide +kernel)

end Lightscale.Relay
