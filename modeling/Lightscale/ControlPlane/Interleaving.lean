/-
Requests that are handled at the same time.

A registration and a heartbeat write first and read the netmap afterwards, in a second visit
to the store.  Other requests may come in between, so the netmap they answer with is one of a
later state, and a node may even have been deleted by then.  The states are still those of a
run of the requests one after another, in the order of their writes.
-/

import Lightscale.ControlPlane.Noninterference

namespace Lightscale.ControlPlane

open Foundation

/-! ### The two visits to the store -/

structure Pending where
  nodeId : String
  nodeToken : Option String
  deriving DecidableEq

def Pending.read (config : Config) (draws : Draws) (pending : Pending) (state : State) :
    Except ApiError Response :=
  (buildNetmap state pending.nodeId (relayOrNone config.relay) draws.netmapNow
    draws.generatedAt).map fun netmap =>
      match pending.nodeToken with
      | some nodeToken => .registered { nodeToken := nodeToken, netmap := netmap }
      | none => .netmap netmap

inductive FirstVisit where
  | answered (answer : Except ApiError Response)
  | reading (pending : Pending)

def FirstVisit.ofWrite {Result : Type} (pending : Result → Pending) :
    Except ApiError Result → FirstVisit
  | .error error => .answered (.error error)
  | .ok result => .reading (pending result)

/-- The first visit of a request to the store. -/
def visit (config : Config) (call : Call) (state : State) : FirstVisit × State :=
  match call.request with
  | .register request =>
      let wrote := check (normalizeNodeName request.nodeName) (fun nodeName =>
        config.write call.draws (registerWrite config.externals call.draws request nodeName)) state
      (.ofWrite (fun nodeId => ⟨nodeId, some call.draws.nodeToken⟩) wrote.1, wrote.2)
  | .heartbeat request =>
      let wrote := config.write call.draws
        (heartbeatWrite config call.draws call.headers request) state
      (.ofWrite (fun _ => ⟨request.nodeId, none⟩) wrote.1, wrote.2)
  | _ => (.answered (handle config call state).1, (handle config call state).2)

def FirstVisit.finish (config : Config) (draws : Draws) (state : State) :
    FirstVisit → Except ApiError Response
  | .answered answer => answer
  | .reading pending => pending.read config draws state

theorem handle_eq_visit (config : Config) (call : Call) (state : State) :
    handle config call state =
      ((visit config call state).1.finish config call.draws (visit config call state).2,
        (visit config call state).2) := by
  unfold visit
  split
  · rename_i request asked
    simp only [handle, asked, Handler.respond, register, check]
    cases normalizeNodeName request.nodeName with
    | error error => rfl
    | ok nodeName =>
        dsimp only [Handler.andRead]
        rcases config.write call.draws
          (registerWrite config.externals call.draws request nodeName) state with ⟨wrote, left⟩
        cases wrote with
        | error error => rfl
        | ok nodeId =>
            refine Prod.ext ?_ rfl
            exact except_map_map _ _ _
  · rename_i request asked
    simp only [handle, asked, Handler.respond, heartbeat, Handler.andRead]
    rcases config.write call.draws
      (heartbeatWrite config call.draws call.headers request) state with ⟨wrote, left⟩
    cases wrote with
    | error error => rfl
    | ok result => rfl
  · rfl

theorem visit_state (config : Config) (call : Call) (state : State) :
    (visit config call state).2 = step config state call :=
  (congrArg Prod.snd (handle_eq_visit config call state)).symm

theorem stored_of_pending {config : Config} {call : Call} {state : State} {pending : Pending}
    (visited : (visit config call state).1 = .reading pending) :
    pending.nodeId ∈ (step config state call).nodes := by
  rw [← visit_state]
  revert visited
  unfold visit
  split
  · rename_i request asked
    dsimp only
    intro visited
    rcases ran : check (normalizeNodeName request.nodeName) (fun nodeName =>
      config.write call.draws (registerWrite config.externals call.draws request nodeName))
        state with ⟨wrote, left⟩
    rw [ran] at visited
    cases wrote with
    | error error => cases visited
    | ok nodeId =>
        cases visited
        obtain ⟨nodeName, -, ran⟩ := check_eq_ok ran
        obtain ⟨edited, wrote, rfl⟩ := Backend.write_eq_ok ran
        obtain ⟨_, _, _, _, _, _, _, _, leaves⟩ := registerWrite_eq_ok wrote
        change nodeId ∈ edited.nodes
        rw [leaves.nodes, registerWrite_id wrote]
        exact (AList.mem_insert _).mpr (Or.inl rfl)
  · rename_i request asked
    dsimp only
    intro visited
    rcases ran : config.write call.draws
      (heartbeatWrite config call.draws call.headers request) state with ⟨wrote, left⟩
    rw [ran] at visited
    cases wrote with
    | error error => cases visited
    | ok result =>
        cases visited
        obtain ⟨edited, wrote, rfl⟩ := Backend.write_eq_ok ran
        obtain ⟨node, _, _, _, _, nodeAt, leaves⟩ := heartbeatWrite_eq_ok wrote
        change request.nodeId ∈ edited.nodes
        rw [leaves.nodes, AList.mem_replace]
        exact AList.lookup_isSome.mp (Option.isSome_of_eq_some nodeAt)
  · intro visited
    cases visited

/-! ### Many requests at once -/

inductive TaskPhase where
  | arrived
  /-- The write is done, and the netmap is still to be read. -/
  | reading (pending : Pending)
  | answered (answer : Except ApiError Response)

structure Task where
  call : Call
  phase : TaskPhase

/-- The server with the requests it is handling, and those that have been at the store, in the
order of their first visits. -/
structure Crowd where
  state : State
  tasks : List Task
  order : List Call

def Crowd.initial : Crowd where
  state := State.default
  tasks := []
  order := []

inductive CrowdAction where
  | arrive (call : Call)
  | visit (index : Nat)
  | read (index : Nat)

def TaskPhase.ofVisit : FirstVisit → TaskPhase
  | .answered answer => .answered answer
  | .reading pending => .reading pending

/-- One visit of one request.  A step that the request is not ready for changes nothing. -/
def Crowd.step (config : Config) (crowd : Crowd) : CrowdAction → Crowd
  | .arrive call => { crowd with tasks := crowd.tasks ++ [⟨call, .arrived⟩] }
  | .visit index =>
      match crowd.tasks[index]? with
      | some ⟨call, .arrived⟩ =>
          let visited := visit config call crowd.state
          { state := visited.2
            tasks := crowd.tasks.set index ⟨call, .ofVisit visited.1⟩
            order := crowd.order ++ [call] }
      | _ => crowd
  | .read index =>
      match crowd.tasks[index]? with
      | some ⟨call, .reading pending⟩ =>
          { crowd with
            tasks := crowd.tasks.set index
              ⟨call, .answered (pending.read config call.draws crowd.state)⟩ }
      | _ => crowd

/-- The request was the one at this place of the order, and its first visit had this outcome. -/
structure VisitedAt (config : Config) (order : List Call) (call : Call) (place : Nat)
    (outcome : FirstVisit) : Prop where
  isCall : order[place]? = some call
  visited : (visit config call (run config (order.take place))).1 = outcome

structure DeletedAt (config : Config) (order : List Call) (place : Nat) (nodeId : String) :
    Prop where
  inside : place < order.length
  stored : nodeId ∈ (run config (order.take place)).nodes
  gone : nodeId ∉ (run config (order.take (place + 1))).nodes

/-- The answer is that of the first visit, or was read at a later moment of the run.  A read
fails only if another request has deleted the node in between. -/
inductive AnsweredIn (config : Config) (order : List Call) (call : Call)
    (answer : Except ApiError Response) : Prop
  | atOnce (place : Nat) (visited : VisitedAt config order call place (.answered answer))
  | later (place moment : Nat) (pending : Pending)
      (visited : VisitedAt config order call place (.reading pending)) (after : place < moment)
      (inside : moment ≤ order.length)
      (read : answer = pending.read config call.draws (run config (order.take moment)))
      (unharmed : (∃ response, answer = .ok response) ∨
        ∃ deletion, place < deletion ∧ deletion < moment ∧
          DeletedAt config order deletion pending.nodeId)

def Task.Explained (config : Config) (order : List Call) (task : Task) : Prop :=
  match task.phase with
  | .arrived => True
  | .reading pending => ∃ place, VisitedAt config order task.call place (.reading pending)
  | .answered answer => AnsweredIn config order task.call answer

section

variable {config : Config} {order : List Call} {call : Call}

theorem VisitedAt.append {place : Nat} {outcome : FirstVisit}
    (visited : VisitedAt config order call place outcome) (more : List Call) :
    VisitedAt config (order ++ more) call place outcome := by
  have inside := (List.getElem?_eq_some_iff.mp visited.isCall).1
  refine ⟨?_, ?_⟩
  · rw [List.getElem?_append_left inside]
    exact visited.isCall
  · rw [List.take_append_of_le_length (Nat.le_of_lt inside)]
    exact visited.visited

theorem DeletedAt.append {place : Nat} {nodeId : String}
    (deleted : DeletedAt config order place nodeId) (more : List Call) :
    DeletedAt config (order ++ more) place nodeId := by
  have inside := deleted.inside
  refine ⟨?_, ?_, ?_⟩
  · rw [List.length_append]
    omega
  · rw [List.take_append_of_le_length (Nat.le_of_lt inside)]
    exact deleted.stored
  · rw [List.take_append_of_le_length inside]
    exact deleted.gone

theorem Task.Explained.append {task : Task} (explained : task.Explained config order)
    (more : List Call) : task.Explained config (order ++ more) := by
  unfold Task.Explained at explained ⊢
  cases atPhase : task.phase with
  | arrived => trivial
  | reading pending =>
      rw [atPhase] at explained
      obtain ⟨place, visited⟩ := explained
      exact ⟨place, visited.append more⟩
  | answered answer =>
      rw [atPhase] at explained
      cases explained with
      | atOnce place visited => exact .atOnce place (visited.append more)
      | later place moment pending visited after inside read unharmed =>
          refine .later place moment pending (visited.append more) after ?_ ?_ ?_
          · rw [List.length_append]
            omega
          · rw [List.take_append_of_le_length inside]
            exact read
          · rcases unharmed with netmap | ⟨deletion, low, high, deleted⟩
            · exact Or.inl netmap
            · exact Or.inr ⟨deletion, low, high, deleted.append more⟩

theorem visitedAt_last (config : Config) (order : List Call) (call : Call) :
    VisitedAt config (order ++ [call]) call order.length
      (visit config call (run config order)).1 := by
  refine ⟨List.getElem?_concat_length, ?_⟩
  rw [List.take_left]

end

/-! ### Reads that come too late -/

theorem pending_read_error {config : Config} {draws : Draws} {pending : Pending}
    {calls : List Call} {error : ApiError}
    (failed : pending.read config draws (run config calls) = .error error) :
    pending.nodeId ∉ (run config calls).nodes := by
  intro stored
  have integrity := run_integrity config calls
  obtain ⟨node, nodeAt⟩ := Option.isSome_iff_exists.mp (AList.lookup_isSome.mpr stored)
  obtain ⟨network, networkAt⟩ := Option.isSome_iff_exists.mp
    (AList.lookup_isSome.mpr (integrity.nodeHomes _ node nodeAt))
  unfold Pending.read at failed
  rw [buildNetmap_of_stored nodeAt networkAt] at failed
  cases failed

theorem VisitedAt.read {config : Config} {order : List Call} {call : Call} {place : Nat}
    {pending : Pending} (visited : VisitedAt config order call place (.reading pending)) :
    (∃ response, pending.read config call.draws (run config order) = .ok response) ∨
      ∃ deletion, place < deletion ∧ deletion < order.length ∧
        DeletedAt config order deletion pending.nodeId := by
  have inside := (List.getElem?_eq_some_iff.mp visited.isCall).1
  have stored : pending.nodeId ∈ (run config (order.take (place + 1))).nodes := by
    rw [List.take_add_one, visited.isCall, Option.toList_some, run, exec_snoc]
    exact stored_of_pending visited.visited
  cases read : pending.read config call.draws (run config order) with
  | ok response => exact Or.inl ⟨response, rfl⟩
  | error error =>
      have gone := pending_read_error read
      rw [← List.take_length (l := order)] at gone
      obtain ⟨deletion, low, high, still, lost⟩ :=
        exists_loss (fun moment => pending.nodeId ∈ (run config (order.take moment)).nodes)
          inside stored gone
      exact Or.inr ⟨deletion, low, high, high, still, lost⟩

/-! ### Every interleaving -/

/-- The state is that of the run, and every request is explained by it. -/
structure Crowd.Serial (config : Config) (crowd : Crowd) : Prop where
  state : crowd.state = run config crowd.order
  tasks : ∀ task ∈ crowd.tasks, task.Explained config crowd.order

theorem Crowd.Serial.step {config : Config} {crowd : Crowd} (serial : crowd.Serial config)
    (action : CrowdAction) : (crowd.step config action).Serial config := by
  cases action with
  | arrive call =>
      refine ⟨serial.state, ?_⟩
      intro task member
      rcases List.mem_append.mp member with old | new
      · exact serial.tasks task old
      · rw [List.mem_singleton.mp new]
        trivial
  | visit index =>
      dsimp only [Crowd.step]
      split
      · rename_i call atIndex
        constructor
        · change (visit config call crowd.state).2 = run config (crowd.order ++ [call])
          rw [visit_state, serial.state, run, run, exec_snoc]
        · intro task member
          rcases List.mem_or_eq_of_mem_set member with old | new
          · exact (serial.tasks task old).append [call]
          · have visited := visitedAt_last config crowd.order call
            rw [new, serial.state]
            cases outcome : (visit config call (run config crowd.order)).1 with
            | answered answer =>
                rw [outcome] at visited
                exact .atOnce _ visited
            | reading pending =>
                rw [outcome] at visited
                exact ⟨_, visited⟩
      · exact serial
  | read index =>
      dsimp only [Crowd.step]
      split
      · rename_i call pending atIndex
        refine ⟨serial.state, ?_⟩
        intro task member
        rcases List.mem_or_eq_of_mem_set member with old | new
        · exact serial.tasks task old
        · obtain ⟨place, visited⟩ := serial.tasks _ (List.mem_of_getElem? atIndex)
          have inside := (List.getElem?_eq_some_iff.mp visited.isCall).1
          rw [new, serial.state]
          refine .later place crowd.order.length pending visited inside (Nat.le_refl _) ?_
            visited.read
          rw [List.take_length]
      · exact serial

end Lightscale.ControlPlane
