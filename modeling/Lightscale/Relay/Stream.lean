/-
The stream relay: one task a client connection, and one for the packets of the mesh.

A connection draws its number when it is accepted.  Its first frame must register a node
id, under which it enters the shared map; then it reads frames until the stream ends, and
removes itself.  A frame to another node is delivered to every connection of that node, or
handed to the mesh if there is none.  The lock on the map is awaited before each of the
three uses of it, and other tasks may run meanwhile.
-/

import Lightscale.Foundation.Execution
import Lightscale.Foundation.Tasks
import Lightscale.Mesh.Relay
import Lightscale.Relay.Codec

namespace Lightscale.Relay

open Foundation

/-- How far `handle_connection` has got. -/
inductive Phase where
  /-- The first frame has not been read. -/
  | waiting
  | registering (nodeId : String)
  | serving (nodeId : String)
  /-- A frame of the node itself was read; the map is awaited to deliver it. -/
  | delivering (nodeId toId : String) (payload : List UInt8)
  | leaving (nodeId : String)
  | returned (result : Except String Unit)
  | panicked
  deriving DecidableEq

structure Client where
  connId : Nat
  phase : Phase
  deriving DecidableEq

/-- What the relay gives to others: a frame to the writer of a connection, a packet to the
mesh, or an answer to the mesh.  The reader is the connection whose frame caused it. -/
inductive Emission where
  | frame (reader : Option Nat) (target : Nat) (bytes : List UInt8)
  | mesh (reader : Nat) (packet : Mesh.Packet)
  | answer (delivered : Bool)
  deriving DecidableEq

/-- The relay with everything it has emitted.  A sender in the map is named by the number
of its connection; it works while the writer of that connection runs. -/
structure StreamRelay where
  hasMesh : Bool
  nextConnId : Nat
  peers : Table String (List Nat)
  writers : List Nat
  clients : List Client
  emitted : List Emission

def StreamRelay.initial (hasMesh : Bool) : StreamRelay where
  hasMesh := hasMesh
  nextConnId := 1
  peers := ∅
  writers := []
  clients := []
  emitted := []

def firstPhase (frame : Except String (List UInt8)) : Phase :=
  match frame with
  | .error error => .returned (.error error)
  | .ok bytes =>
      match parsePacket streamMagic bytes with
      | .error _ => .panicked
      | .ok none => .returned (.error "invalid register frame")
      | .ok (some (.send _ _ _)) => .returned (.error "expected register frame")
      | .ok (some (.register nodeId)) => .registering nodeId

def nextPhase (nodeId : String) (frame : Except String (List UInt8)) : Phase :=
  match frame with
  | .error _ => .leaving nodeId
  | .ok bytes =>
      match parsePacket streamMagic bytes with
      | .error _ => .panicked
      | .ok none => .serving nodeId
      | .ok (some (.register _)) => .serving nodeId
      | .ok (some (.send fromId toId payload)) =>
          if fromId ≠ nodeId then .serving nodeId else .delivering nodeId toId payload

def pushConn (peers : Table String (List Nat)) (nodeId : String) (connId : Nat) :
    Table String (List Nat) :=
  match peers.lookup nodeId with
  | none => peers.insert nodeId [connId]
  | some list => peers.replace nodeId (list ++ [connId])

def dropConn (peers : Table String (List Nat)) (nodeId : String) (connId : Nat) :
    Table String (List Nat) :=
  match peers.lookup nodeId with
  | none => peers
  | some list =>
      let left := list.filter fun conn => decide (conn ≠ connId)
      if left = [] then peers.erase nodeId else peers.replace nodeId left

/-- The frames that reach a writer; the packet is delivered if there is one. -/
def StreamRelay.deliverLocal (relay : StreamRelay) (fromId toId : String)
    (payload : List UInt8) : Except String (List (Nat × List UInt8)) :=
  match relay.peers.lookup toId with
  | none => .ok []
  | some targets =>
      (buildPacket streamMagic typeDeliver fromId "" payload).map fun deliver =>
        (targets.filter fun target => decide (target ∈ relay.writers)).map
          fun target => (target, deliver)

inductive RelayAction where
  | accept
  | read (index : Nat) (frame : Except String (List UInt8))
  | register (index : Nat)
  | deliver (index : Nat)
  | leave (index : Nat)
  | writeFailed (connId : Nat)
  /-- A packet of the mesh is delivered. -/
  | meshDelivery (packet : Mesh.Packet)
  deriving DecidableEq

def StreamRelay.setPhase (relay : StreamRelay) (index connId : Nat) (phase : Phase) :
    StreamRelay :=
  { relay with clients := relay.clients.set index { connId := connId, phase := phase } }

def StreamRelay.stopWriter (relay : StreamRelay) (connId : Nat) : StreamRelay :=
  { relay with writers := relay.writers.filter fun writer => decide (writer ≠ connId) }

def StreamRelay.emissions (relay : StreamRelay) (connId : Nat) (nodeId toId : String)
    (payload : List UInt8) (sent : List (Nat × List UInt8)) : List Emission :=
  sent.map (fun target => .frame (some connId) target.1 target.2) ++
    if sent = [] ∧ relay.hasMesh = true then
      [.mesh connId { transport := .stream, fromId := nodeId, toId := toId, payload := payload }]
    else []

/-- One step of one task.  A step that the task is not ready for changes nothing. -/
def StreamRelay.step (relay : StreamRelay) : RelayAction → StreamRelay
  | .accept =>
      { relay with
        nextConnId := relay.nextConnId + 1
        writers := relay.nextConnId :: relay.writers
        clients := relay.clients ++ [{ connId := relay.nextConnId, phase := .waiting }] }
  | .read index frame =>
      match relay.clients[index]? with
      | some ⟨connId, .waiting⟩ =>
          match firstPhase frame with
          | .registering nodeId => relay.setPhase index connId (.registering nodeId)
          -- The sender is dropped with the task, which stops the writer.
          | phase => (relay.setPhase index connId phase).stopWriter connId
      | some ⟨connId, .serving nodeId⟩ => relay.setPhase index connId (nextPhase nodeId frame)
      | _ => relay
  | .register index =>
      match relay.clients[index]? with
      | some ⟨connId, .registering nodeId⟩ =>
          { relay.setPhase index connId (.serving nodeId) with
            peers := pushConn relay.peers nodeId connId }
      | _ => relay
  | .deliver index =>
      match relay.clients[index]? with
      | some ⟨connId, .delivering nodeId toId payload⟩ =>
          match relay.deliverLocal nodeId toId payload with
          | .error error => relay.setPhase index connId (.returned (.error error))
          | .ok sent =>
              { relay.setPhase index connId (.serving nodeId) with
                emitted := relay.emitted ++ relay.emissions connId nodeId toId payload sent }
      | _ => relay
  | .leave index =>
      match relay.clients[index]? with
      | some ⟨connId, .leaving nodeId⟩ =>
          ({ relay.setPhase index connId (.returned (.ok ())) with
            peers := dropConn relay.peers nodeId connId }).stopWriter connId
      | _ => relay
  | .writeFailed connId => relay.stopWriter connId
  | .meshDelivery packet =>
      match relay.deliverLocal packet.fromId packet.toId packet.payload with
      | .error _ => { relay with emitted := relay.emitted ++ [.answer false] }
      | .ok sent =>
          { relay with
            emitted := relay.emitted ++
              sent.map (fun target => .frame none target.1 target.2) ++
              [.answer (decide (sent ≠ []))] }

/-! ### The map of lists -/

theorem lookup_pushConn (peers : Table String (List Nat)) (nodeId key : String) (connId : Nat) :
    (pushConn peers nodeId connId).lookup key =
      if key = nodeId then some ((peers.lookup nodeId).getD [] ++ [connId])
      else peers.lookup key := by
  unfold pushConn
  cases found : peers.lookup nodeId with
  | none => exact Table.lookup_insert_eq peers nodeId key [connId]
  | some list => exact Table.lookup_replace_eq found (list ++ [connId]) key

theorem lookup_dropConn {peers : Table String (List Nat)} {nodeId key : String} {connId : Nat}
    {left : List Nat} (found : (dropConn peers nodeId connId).lookup key = some left) :
    (key ≠ nodeId ∧ peers.lookup key = some left) ∨
      (key = nodeId ∧ left ≠ [] ∧ ∃ list, peers.lookup nodeId = some list ∧
        left = list.filter fun conn => decide (conn ≠ connId)) := by
  unfold dropConn at found
  cases before : peers.lookup nodeId with
  | none =>
      rw [before] at found
      by_cases same : key = nodeId
      · subst same
        rw [before] at found
        cases found
      · exact Or.inl ⟨same, found⟩
  | some list =>
      rw [before] at found
      dsimp only at found
      by_cases empty : (list.filter fun conn => decide (conn ≠ connId)) = []
      · rw [if_pos empty] at found
        exact Or.inl (Table.lookup_of_lookup_erase found)
      · rw [if_neg empty, Table.lookup_replace_eq before] at found
        by_cases same : key = nodeId
        · rw [if_pos same, Option.some.injEq] at found
          refine Or.inr ⟨same, ?_, list, rfl, found.symm⟩
          rw [← found]
          exact empty
        · rw [if_neg same] at found
          exact Or.inl ⟨same, found⟩

/-! ### What one step does -/

theorem deliverLocal_ok (relay : StreamRelay) {nodeId : String}
    (short : (utf8Bytes nodeId).length ≤ maxIdLen) (toId : String) (payload : List UInt8) :
    ∃ sent, relay.deliverLocal nodeId toId payload = .ok sent ∧
      ∀ target ∈ sent,
        buildPacket streamMagic typeDeliver nodeId "" payload = .ok target.2 := by
  have built : buildPacket streamMagic typeDeliver nodeId "" payload =
      .ok (layout streamMagic typeDeliver 0 nodeId "" payload) :=
    buildPacket_eq_ok_iff.mpr ⟨short, Nat.zero_le _, rfl⟩
  unfold StreamRelay.deliverLocal
  cases relay.peers.lookup toId with
  | none => exact ⟨[], rfl, nofun⟩
  | some targets =>
      dsimp only
      rw [built]
      refine ⟨_, rfl, ?_⟩
      intro target member
      obtain ⟨connId, _, rfl⟩ := List.mem_map.mp member
      rfl

/-- The node id that a connection has read in its first frame. -/
def Phase.nodeId : Phase → Option String
  | .registering nodeId => some nodeId
  | .serving nodeId => some nodeId
  | .delivering nodeId _ _ => some nodeId
  | .leaving nodeId => some nodeId
  | _ => none

/-- The node id under which a connection is in the map. -/
def Phase.entered : Phase → Option String
  | .serving nodeId => some nodeId
  | .delivering nodeId _ _ => some nodeId
  | .leaving nodeId => some nodeId
  | _ => none

theorem Phase.nodeId_of_entered {phase : Phase} {nodeId : String}
    (entered : phase.entered = some nodeId) : phase.nodeId = some nodeId := by
  cases phase with
  | waiting => cases entered
  | registering other => cases entered
  | serving other => exact entered
  | delivering other toId payload => exact entered
  | leaving other => exact entered
  | returned result => cases entered
  | panicked => cases entered

def Emission.reader : Emission → Option Nat
  | .frame reader _ _ => reader
  | .mesh reader _ => some reader
  | .answer _ => none

/-- Everything a step can do to the connections, the map and the emissions. -/
inductive RelayStep (relay : StreamRelay) (action : RelayAction) (after : StreamRelay) :
    Prop where
  /-- No connection moves, and nothing is emitted on account of one. -/
  | kept (clients : after.clients = relay.clients) (peers : after.peers = relay.peers)
      (next : after.nextConnId = relay.nextConnId) (new : List Emission)
      (emitted : after.emitted = relay.emitted ++ new)
      (noReader : ∀ emission ∈ new, emission.reader = none)
  | accepted (clients : after.clients = relay.clients ++ [⟨relay.nextConnId, .waiting⟩])
      (peers : after.peers = relay.peers) (next : after.nextConnId = relay.nextConnId + 1)
      (emitted : after.emitted = relay.emitted)
  /-- A connection has read a frame. -/
  | moved (index connId : Nat) (phase moved : Phase)
      (atIndex : relay.clients[index]? = some ⟨connId, phase⟩)
      (clients : after.clients = relay.clients.set index ⟨connId, moved⟩)
      (peers : after.peers = relay.peers) (next : after.nextConnId = relay.nextConnId)
      (emitted : after.emitted = relay.emitted) (sameEntry : moved.entered = phase.entered)
      (named : ∀ nodeId, moved.nodeId = some nodeId → phase.nodeId = some nodeId ∨
        (phase = .waiting ∧ ∃ frame, action = .read index (.ok frame) ∧
          parsePacket streamMagic frame = .ok (some (.register nodeId))))
  | registered (index connId : Nat) (nodeId : String)
      (atIndex : relay.clients[index]? = some ⟨connId, .registering nodeId⟩)
      (clients : after.clients = relay.clients.set index ⟨connId, .serving nodeId⟩)
      (peers : after.peers = pushConn relay.peers nodeId connId)
      (next : after.nextConnId = relay.nextConnId) (emitted : after.emitted = relay.emitted)
  | delivered (index connId : Nat) (nodeId toId : String) (payload : List UInt8)
      (sent : List (Nat × List UInt8))
      (atIndex : relay.clients[index]? = some ⟨connId, .delivering nodeId toId payload⟩)
      (wasSent : relay.deliverLocal nodeId toId payload = .ok sent)
      (clients : after.clients = relay.clients.set index ⟨connId, .serving nodeId⟩)
      (peers : after.peers = relay.peers) (next : after.nextConnId = relay.nextConnId)
      (emitted : after.emitted = relay.emitted ++
        relay.emissions connId nodeId toId payload sent)
  /-- The early return: the connection ends without leaving the map. -/
  | failed (index connId : Nat) (nodeId toId : String) (payload : List UInt8) (error : String)
      (atIndex : relay.clients[index]? = some ⟨connId, .delivering nodeId toId payload⟩)
      (notSent : relay.deliverLocal nodeId toId payload = .error error)
  | left (index connId : Nat) (nodeId : String)
      (atIndex : relay.clients[index]? = some ⟨connId, .leaving nodeId⟩)
      (clients : after.clients = relay.clients.set index ⟨connId, .returned (.ok ())⟩)
      (peers : after.peers = dropConn relay.peers nodeId connId)
      (next : after.nextConnId = relay.nextConnId) (emitted : after.emitted = relay.emitted)

theorem firstPhase_entered (frame : Except String (List UInt8)) :
    (firstPhase frame).entered = none := by
  unfold firstPhase
  split
  · rfl
  · split
    · rfl
    · rfl
    · rfl
    · rfl

theorem firstPhase_nodeId {frame : Except String (List UInt8)} {nodeId : String}
    (named : (firstPhase frame).nodeId = some nodeId) :
    ∃ bytes, frame = .ok bytes ∧
      parsePacket streamMagic bytes = .ok (some (.register nodeId)) := by
  unfold firstPhase at named
  split at named
  · cases named
  · rename_i bytes
    split at named
    · cases named
    · cases named
    · cases named
    · rename_i registered parsed
      cases named
      exact ⟨bytes, rfl, parsed⟩

theorem nextPhase_nodeId (nodeId : String) (frame : Except String (List UInt8)) :
    (nextPhase nodeId frame).nodeId = some nodeId ∧
      (nextPhase nodeId frame).entered = some nodeId := by
  unfold nextPhase
  split
  · exact ⟨rfl, rfl⟩
  · rw [parsePacket_eq]
    split
    · rename_i panic
      cases panic
    · exact ⟨rfl, rfl⟩
    · exact ⟨rfl, rfl⟩
    · split
      · exact ⟨rfl, rfl⟩
      · exact ⟨rfl, rfl⟩

theorem relayStep (relay : StreamRelay) (action : RelayAction) :
    RelayStep relay action (relay.step action) := by
  have idle : ∀ after, after.clients = relay.clients → after.peers = relay.peers →
      after.nextConnId = relay.nextConnId → after.emitted = relay.emitted →
      RelayStep relay action after := by
    intro after clients peers next emitted
    apply RelayStep.kept clients peers next []
    · rw [emitted, List.append_nil]
    · exact nofun
  cases action with
  | accept => exact .accepted rfl rfl rfl rfl
  | read index frame =>
      dsimp only [StreamRelay.step]
      split
      · rename_i connId atIndex
        have moves : ∀ after, after.clients = relay.clients.set index ⟨connId, firstPhase frame⟩ →
            after.peers = relay.peers → after.nextConnId = relay.nextConnId →
            after.emitted = relay.emitted → RelayStep relay (.read index frame) after := by
          intro after clients peers next emitted
          apply RelayStep.moved index connId .waiting (firstPhase frame) atIndex clients peers next
            emitted (firstPhase_entered frame)
          intro nodeId named
          obtain ⟨bytes, isFrame, parsed⟩ := firstPhase_nodeId named
          rw [isFrame]
          exact Or.inr ⟨rfl, bytes, rfl, parsed⟩
        split
        · rename_i nodeId isRegistering
          apply moves
          · rw [isRegistering]
            rfl
          · rfl
          · rfl
          · rfl
        · exact moves _ rfl rfl rfl rfl
      · rename_i connId nodeId atIndex
        obtain ⟨sameName, sameEntry⟩ := nextPhase_nodeId nodeId frame
        refine .moved index connId (.serving nodeId) (nextPhase nodeId frame) atIndex rfl rfl rfl
          rfl sameEntry ?_
        intro other named
        rw [sameName] at named
        exact Or.inl named
      · exact idle _ rfl rfl rfl rfl
  | register index =>
      dsimp only [StreamRelay.step]
      split
      · rename_i connId nodeId atIndex
        exact .registered index connId nodeId atIndex rfl rfl rfl rfl
      · exact idle _ rfl rfl rfl rfl
  | deliver index =>
      dsimp only [StreamRelay.step]
      split
      · rename_i connId nodeId toId payload atIndex
        split
        · rename_i error notSent
          exact .failed index connId nodeId toId payload error atIndex notSent
        · rename_i sent wasSent
          exact .delivered index connId nodeId toId payload sent atIndex wasSent rfl rfl rfl rfl
      · exact idle _ rfl rfl rfl rfl
  | leave index =>
      dsimp only [StreamRelay.step]
      split
      · rename_i connId nodeId atIndex
        exact .left index connId nodeId atIndex rfl rfl rfl rfl
      · exact idle _ rfl rfl rfl rfl
  | writeFailed connId => exact idle _ rfl rfl rfl rfl
  | meshDelivery packet =>
      dsimp only [StreamRelay.step]
      split
      · refine .kept rfl rfl rfl [.answer false] rfl ?_
        intro emission member
        rw [List.mem_singleton.mp member]
        rfl
      · rename_i sent _
        refine .kept rfl rfl rfl
          (sent.map (fun target => .frame none target.1 target.2) ++
            [.answer (decide (sent ≠ []))]) ?_ ?_
        · exact List.append_assoc _ _ _
        · intro emission member
          rcases List.mem_append.mp member with isFrame | isAnswer
          · obtain ⟨target, _, rfl⟩ := List.mem_map.mp isFrame
            rfl
          · rw [List.mem_singleton.mp isAnswer]
            rfl

end Lightscale.Relay
