/-
Relaying packets between servers.

A packet enters the mesh at one server, which remembers a new message id for it and
sends a frame to the peer it has learned for the target, or to every peer.  A server
that receives a frame drops it when it has seen the message before.  Otherwise it
learns a route back to the sender, hands the packet to its local relay, and waits for
the answer; when the target is not there and hops are left, it forwards the frame.

Frames of different connections are handled concurrently, and the wait for the local
relay lies in the middle of a handler.  A handler is therefore cut into the part
before that wait and the part after it.
-/

import Lightscale.Foundation.Execution
import Lightscale.Mesh.Caches

namespace Lightscale.Mesh

open Foundation

inductive MeshTransport where
  | stream
  | udp
  deriving DecidableEq

structure Packet where
  transport : MeshTransport
  fromId : String
  toId : String
  payload : List UInt8
  deriving DecidableEq

structure RelayFrame where
  messageId : String
  transport : MeshTransport
  fromId : String
  toId : String
  payloadB64 : String
  hopsLeft : Nat
  deriving DecidableEq

inductive MeshFrame where
  | hello (serverId : String)
  | relay (frame : RelayFrame)
  deriving DecidableEq

/-- The library's base64 functions. -/
structure Base64 where
  encode : List UInt8 → String
  decode : String → Option (List UInt8)

def Base64.RoundTrips (base64 : Base64) : Prop :=
  ∀ payload, base64.decode (base64.encode payload) = some payload

/-- The decoder accepts no text but the one the encoder writes. -/
def Base64.Canonical (base64 : Base64) : Prop :=
  ∀ text payload, base64.decode text = some payload → base64.encode payload = text

/-- The sending end of a connection; a send succeeds while the other end is open. -/
structure PeerSender where
  connId : Nat
  isOpen : Bool
  deriving DecidableEq

structure MeshContext where
  maxHops : Nat
  peers : Table String PeerSender
  seenIds : Table String Nat
  routeHints : Table String RouteHint
  /-- Whether the receiving end of the channel to the local relays is open. -/
  localOpen : Bool

namespace MeshContext

/-- The peers a frame is sent to, without the excluded one; a closed sender loses
it. -/
def broadcast (context : MeshContext) (excludePeer : Option String) : List String :=
  ((context.peers.entries.filter (fun entry => decide (excludePeer ≠ some entry.1))).filter
    (fun entry => entry.2.isOpen)).map (fun entry => entry.1)

def sendToPeer (context : MeshContext) (peerId : String) : Bool :=
  match context.peers.lookup peerId with
  | none => false
  | some sender => sender.isOpen

theorem sendToPeer_iff (context : MeshContext) (peerId : String) :
    context.sendToPeer peerId = true ↔
      ∃ sender, context.peers.lookup peerId = some sender ∧ sender.isOpen = true := by
  unfold sendToPeer
  cases found : context.peers.lookup peerId with
  | none => simp
  | some sender => simp

/-- The peers that get the frame: the hinted one if it can be used, else all. -/
def forwardToTarget (context : MeshContext) (now : Nat) (excludePeer : Option String)
    (targetNodeId : String) : List String × MeshContext :=
  let looked := lookupRoute now targetNodeId context.routeHints
  let context := { context with routeHints := looked.2 }
  match looked.1 with
  | some peerId =>
      if excludePeer ≠ some peerId ∧ context.sendToPeer peerId = true then
        ([peerId], context)
      else (context.broadcast excludePeer, context)
  | none => (context.broadcast excludePeer, context)

end MeshContext

/-- The part of `handle_frame` before the wait: the packet to hand to the local
relay, unless the message was seen before or does not decode. -/
def receiveFrame (base64 : Base64) (scan : Scan) (rememberAt learnAt : Nat)
    (sourcePeer : String) (frame : RelayFrame) (context : MeshContext) :
    Option Packet × MeshContext :=
  let remembered := rememberMessage scan rememberAt frame.messageId context.seenIds
  if remembered.1 = false then (none, { context with seenIds := remembered.2 })
  else
    let learned :=
      { context with
        seenIds := remembered.2
        routeHints := learnRoute scan learnAt frame.fromId sourcePeer context.routeHints }
    match base64.decode frame.payloadB64 with
    | none => (none, learned)
    | some payload =>
        (some
          { transport := frame.transport
            fromId := frame.fromId
            toId := frame.toId
            payload := payload },
          learned)

def forwardedFrame (base64 : Base64) (frame : RelayFrame) (payload : List UInt8) :
    RelayFrame :=
  { frame with
    payloadB64 := base64.encode payload
    hopsLeft := frame.hopsLeft - 1 }

/-- The part of `handle_frame` after the wait: the peers the frame is forwarded to. -/
def finishFrame (now : Nat) (sourcePeer : String) (frame : RelayFrame) (delivered : Bool)
    (context : MeshContext) : List String × MeshContext :=
  if delivered = true ∨ frame.hopsLeft = 0 then ([], context)
  else context.forwardToTarget now (some sourcePeer) frame.toId

/-! ### A mesh of servers -/

/-- A frame on its way.  The number of links it crosses, this one included, is kept
for the proofs only. -/
structure Transit where
  source : String
  dest : String
  links : Nat
  frame : MeshFrame
  deriving DecidableEq

structure Accepted where
  server : String
  source : String
  links : Nat
  frame : RelayFrame
  packet : Packet
  deriving DecidableEq

/-- All servers, the frames between them, the handlers waiting for a local relay, the
packets taken out of frames so far, and those of them handed to a local relay. -/
structure World where
  server : String → MeshContext
  inFlight : List Transit
  awaiting : List Accepted
  accepted : List Accepted
  handed : List Accepted

inductive Action where
  /-- A local relay gives a packet to the mesh. -/
  | originate (server : String) (packet : Packet) (messageId : String) (scan : Scan)
      (rememberAt lookupAt : Nat)
  /-- A server handles the frame at this position up to the wait. -/
  | receive (index : Nat) (scan : Scan) (rememberAt learnAt : Nat)
  /-- The local relay has answered, or the wait has timed out. -/
  | resume (index : Nat) (delivered : Bool) (lookupAt : Nat)
  /-- Connections of a server have been opened or closed. -/
  | reconnect (server : String) (peers : Table String PeerSender)

def sendTo (source : String) (links : Nat) (frame : RelayFrame) (targets : List String) :
    List Transit :=
  targets.map fun target =>
    { source := source, dest := target, links := links, frame := .relay frame }

def originFrame (base64 : Base64) (maxHops : Nat) (messageId : String) (packet : Packet) :
    RelayFrame :=
  { messageId := messageId
    transport := packet.transport
    fromId := packet.fromId
    toId := packet.toId
    payloadB64 := base64.encode packet.payload
    hopsLeft := maxHops }

def World.originate (base64 : Base64) (world : World) (server : String) (packet : Packet)
    (messageId : String) (scan : Scan) (rememberAt lookupAt : Nat) : World :=
  let context := world.server server
  let remembered :=
    { context with
      seenIds := (rememberMessage scan rememberAt messageId context.seenIds).2 }
  let forwarded := remembered.forwardToTarget lookupAt none packet.toId
  { world with
    server := Function.update world.server server forwarded.2
    inFlight := world.inFlight ++
      sendTo server 1 (originFrame base64 context.maxHops messageId packet) forwarded.1 }

def World.receive (base64 : Base64) (world : World) (transit : Transit) (scan : Scan)
    (rememberAt learnAt : Nat) : World :=
  match transit.frame with
  | .hello _ => world
  | .relay frame =>
      let context := world.server transit.dest
      match receiveFrame base64 scan rememberAt learnAt transit.source frame context with
      | (none, left) =>
          { world with server := Function.update world.server transit.dest left }
      | (some packet, left) =>
          let entry : Accepted :=
            { server := transit.dest
              source := transit.source
              links := transit.links
              frame := frame
              packet := packet }
          { world with
            server := Function.update world.server transit.dest left
            awaiting := world.awaiting ++ [entry]
            accepted := world.accepted ++ [entry]
            handed := if context.localOpen then world.handed ++ [entry] else world.handed }

def World.resume (base64 : Base64) (world : World) (entry : Accepted) (delivered : Bool)
    (lookupAt : Nat) : World :=
  let finished := finishFrame lookupAt entry.source entry.frame delivered
    (world.server entry.server)
  { world with
    server := Function.update world.server entry.server finished.2
    inFlight := world.inFlight ++
      sendTo entry.server (entry.links + 1)
        (forwardedFrame base64 entry.frame entry.packet.payload) finished.1 }

def World.takeFrame (world : World) (index : Nat) : World :=
  { world with inFlight := world.inFlight.eraseIdx index }

def World.takeHandler (world : World) (index : Nat) : World :=
  { world with awaiting := world.awaiting.eraseIdx index }

/-- One step of the mesh.  An action without its frame or handler changes nothing. -/
def World.step (base64 : Base64) (world : World) : Action → World
  | .originate server packet messageId scan rememberAt lookupAt =>
      world.originate base64 server packet messageId scan rememberAt lookupAt
  | .receive index scan rememberAt learnAt =>
      match world.inFlight[index]? with
      | none => world
      | some transit =>
          (world.takeFrame index).receive base64 transit scan rememberAt learnAt
  | .resume index delivered lookupAt =>
      match world.awaiting[index]? with
      | none => world
      | some entry =>
          (world.takeHandler index).resume base64 entry delivered lookupAt
  | .reconnect server peers =>
      { world with
        server := Function.update world.server server
          { world.server server with peers := peers } }

/-! ### What one handler does -/

theorem receiveFrame_frame (base64 : Base64) (scan : Scan) (rememberAt learnAt : Nat)
    (source : String) (frame : RelayFrame) (context : MeshContext) :
    (receiveFrame base64 scan rememberAt learnAt source frame context).2.seenIds =
        (rememberMessage scan rememberAt frame.messageId context.seenIds).2 ∧
      (receiveFrame base64 scan rememberAt learnAt source frame context).2.peers =
        context.peers ∧
      (receiveFrame base64 scan rememberAt learnAt source frame context).2.maxHops =
        context.maxHops ∧
      (receiveFrame base64 scan rememberAt learnAt source frame context).2.localOpen =
        context.localOpen := by
  unfold receiveFrame
  dsimp only
  split
  · exact ⟨rfl, rfl, rfl, rfl⟩
  · split
    · exact ⟨rfl, rfl, rfl, rfl⟩
    · exact ⟨rfl, rfl, rfl, rfl⟩

theorem receiveFrame_hints (base64 : Base64) (scan : Scan) (rememberAt learnAt : Nat)
    (source : String) (frame : RelayFrame) (context : MeshContext) :
    (receiveFrame base64 scan rememberAt learnAt source frame context).2.routeHints =
        context.routeHints ∨
      (receiveFrame base64 scan rememberAt learnAt source frame context).2.routeHints =
        learnRoute scan learnAt frame.fromId source context.routeHints := by
  unfold receiveFrame
  dsimp only
  split
  · exact Or.inl rfl
  · split
    · exact Or.inr rfl
    · exact Or.inr rfl

section

variable {base64 : Base64} {scan : Scan} {rememberAt learnAt : Nat} {source : String}
  {frame : RelayFrame} {context : MeshContext}

theorem receiveFrame_refused
    (refused : (rememberMessage scan rememberAt frame.messageId context.seenIds).1 = false) :
    (receiveFrame base64 scan rememberAt learnAt source frame context).1 = none := by
  unfold receiveFrame
  dsimp only
  rw [if_pos refused]

theorem receiveFrame_new {payload : List UInt8}
    (new : context.seenIds.lookup frame.messageId = none)
    (decoded : base64.decode frame.payloadB64 = some payload) :
    (receiveFrame base64 scan rememberAt learnAt source frame context).1 =
      some
        { transport := frame.transport
          fromId := frame.fromId
          toId := frame.toId
          payload := payload } := by
  unfold receiveFrame
  dsimp only
  rw [rememberMessage_of_new scan rememberAt new, decoded]
  rfl

end

theorem World.receive_none {base64 : Base64} (world : World) {transit : Transit} {scan : Scan}
    {rememberAt learnAt : Nat} {frame : RelayFrame} (isRelay : transit.frame = .relay frame)
    (nothing : (receiveFrame base64 scan rememberAt learnAt transit.source frame
      (world.server transit.dest)).1 = none) :
    world.receive base64 transit scan rememberAt learnAt =
      { world with
        server := Function.update world.server transit.dest
          (receiveFrame base64 scan rememberAt learnAt transit.source frame
            (world.server transit.dest)).2 } := by
  unfold World.receive
  rw [isRelay]
  dsimp only
  rcases outcome : receiveFrame base64 scan rememberAt learnAt transit.source frame
    (world.server transit.dest) with ⟨result, left⟩
  rw [outcome] at nothing
  change result = none at nothing
  subst nothing
  rfl

def Transit.accept (transit : Transit) (frame : RelayFrame) (packet : Packet) : Accepted :=
  { server := transit.dest
    source := transit.source
    links := transit.links
    frame := frame
    packet := packet }

theorem World.receive_some {base64 : Base64} (world : World) {transit : Transit} {scan : Scan}
    {rememberAt learnAt : Nat} {frame : RelayFrame} {packet : Packet}
    (isRelay : transit.frame = .relay frame)
    (taken : (receiveFrame base64 scan rememberAt learnAt transit.source frame
      (world.server transit.dest)).1 = some packet) :
    world.receive base64 transit scan rememberAt learnAt =
      { world with
        server := Function.update world.server transit.dest
          (receiveFrame base64 scan rememberAt learnAt transit.source frame
            (world.server transit.dest)).2
        awaiting := world.awaiting ++ [transit.accept frame packet]
        accepted := world.accepted ++ [transit.accept frame packet]
        handed := if (world.server transit.dest).localOpen then
          world.handed ++ [transit.accept frame packet] else world.handed } := by
  unfold World.receive
  rw [isRelay]
  dsimp only
  rcases outcome : receiveFrame base64 scan rememberAt learnAt transit.source frame
    (world.server transit.dest) with ⟨result, left⟩
  rw [outcome] at taken
  change result = some packet at taken
  subst taken
  rfl

theorem forwardToTarget_frame (context : MeshContext) (now : Nat)
    (excludePeer : Option String) (targetNodeId : String) :
    (context.forwardToTarget now excludePeer targetNodeId).2 =
      { context with routeHints := (lookupRoute now targetNodeId context.routeHints).2 } := by
  unfold MeshContext.forwardToTarget
  dsimp only
  split
  · split
    · rfl
    · rfl
  · rfl

theorem finishFrame_frame (now : Nat) (source : String) (frame : RelayFrame)
    (delivered : Bool) (context : MeshContext) :
    ∃ hints, (finishFrame now source frame delivered context).2 =
      { context with routeHints := hints } := by
  unfold finishFrame
  split
  · exact ⟨context.routeHints, rfl⟩
  · exact ⟨_, forwardToTarget_frame context now (some source) frame.toId⟩

theorem finishFrame_targets {now : Nat} {source : String} {frame : RelayFrame}
    {delivered : Bool} {context : MeshContext} {peer : String}
    (sentTo : peer ∈ (finishFrame now source frame delivered context).1) :
    delivered = false ∧ frame.hopsLeft ≠ 0 ∧
      peer ∈ (context.forwardToTarget now (some source) frame.toId).1 := by
  unfold finishFrame at sentTo
  by_cases done : delivered = true ∨ frame.hopsLeft = 0
  · rw [if_pos done] at sentTo
    cases sentTo
  · rw [if_neg done] at sentTo
    rw [not_or, Bool.not_eq_true] at done
    exact ⟨done.1, done.2, sentTo⟩

theorem finishFrame_forwards {now : Nat} {source : String} {frame : RelayFrame}
    {context : MeshContext} (hopsLeft : frame.hopsLeft ≠ 0) :
    (finishFrame now source frame false context).1 =
      (context.forwardToTarget now (some source) frame.toId).1 := by
  unfold finishFrame
  rw [if_neg]
  rintro (isTrue | isZero)
  · cases isTrue
  · exact hopsLeft isZero

/-! ### What one step does to one server -/

inductive ServerStep (base64 : Base64) (world : World) (action : Action) (server : String)
    (after : MeshContext) : Prop where
  | kept (same : after = world.server server)
  | originated (packet : Packet) (messageId : String) (scan : Scan) (rememberAt lookupAt : Nat)
      (asked : action = .originate server packet messageId scan rememberAt lookupAt)
      (left : after =
        { world.server server with
          seenIds := (rememberMessage scan rememberAt messageId (world.server server).seenIds).2
          routeHints := (lookupRoute lookupAt packet.toId (world.server server).routeHints).2 })
  | received (index : Nat) (scan : Scan) (rememberAt learnAt : Nat) (transit : Transit)
      (frame : RelayFrame) (asked : action = .receive index scan rememberAt learnAt)
      (atIndex : world.inFlight[index]? = some transit)
      (isRelay : transit.frame = .relay frame) (toServer : transit.dest = server)
      (left : after = (receiveFrame base64 scan rememberAt learnAt transit.source frame
        (world.server server)).2)
  | looked (now : Nat) (target : String)
      (left : after =
        { world.server server with
          routeHints := (lookupRoute now target (world.server server).routeHints).2 })
  | reconnected (peers : Table String PeerSender) (asked : action = .reconnect server peers)
      (left : after = { world.server server with peers := peers })

section

variable {base64 : Base64} {world : World} {action : Action}

theorem ServerStep.of_update {changed server : String} {left : MeshContext}
    (here : ServerStep base64 world action changed left) :
    ServerStep base64 world action server (Function.update world.server changed left server) := by
  by_cases same : server = changed
  · subst same
    rw [Function.update_self]
    exact here
  · rw [Function.update_of_ne same]
    exact .kept rfl

theorem World.receive_server (world : World) (transit : Transit) (frame : RelayFrame)
    (scan : Scan) (rememberAt learnAt : Nat) (isRelay : transit.frame = .relay frame) :
    (world.receive base64 transit scan rememberAt learnAt).server =
      Function.update world.server transit.dest
        (receiveFrame base64 scan rememberAt learnAt transit.source frame
          (world.server transit.dest)).2 := by
  cases outcome : (receiveFrame base64 scan rememberAt learnAt transit.source frame
      (world.server transit.dest)).1 with
  | none => rw [world.receive_none isRelay outcome]
  | some packet => rw [world.receive_some isRelay outcome]

theorem serverStep (base64 : Base64) (world : World) (action : Action) (server : String) :
    ServerStep base64 world action server ((world.step base64 action).server server) := by
  cases action with
  | originate origin packet messageId scan rememberAt lookupAt =>
      refine ServerStep.of_update
        (.originated packet messageId scan rememberAt lookupAt rfl ?_)
      rw [forwardToTarget_frame]
  | receive index scan rememberAt learnAt =>
      cases atIndex : world.inFlight[index]? with
      | none =>
          simp only [World.step, atIndex]
          exact .kept rfl
      | some transit =>
          simp only [World.step, atIndex]
          cases isFrame : transit.frame with
          | hello serverId =>
              simp only [World.receive, isFrame]
              exact .kept rfl
          | relay frame =>
              rw [World.receive_server (world.takeFrame index) transit frame scan rememberAt
                learnAt isFrame]
              exact ServerStep.of_update
                (.received index scan rememberAt learnAt transit frame rfl atIndex isFrame rfl rfl)
  | resume index delivered lookupAt =>
      cases atIndex : world.awaiting[index]? with
      | none =>
          simp only [World.step, atIndex]
          exact .kept rfl
      | some entry =>
          simp only [World.step, atIndex]
          refine ServerStep.of_update ?_
          change ServerStep base64 world _ entry.server (finishFrame lookupAt entry.source
            entry.frame delivered (world.server entry.server)).2
          unfold finishFrame
          split
          · exact .kept rfl
          · exact .looked lookupAt entry.frame.toId (forwardToTarget_frame _ _ _ _)
  | reconnect changed peers => exact ServerStep.of_update (.reconnected peers rfl rfl)

structure SameServer (before after : MeshContext) : Prop where
  peers : after.peers = before.peers
  maxHops : after.maxHops = before.maxHops
  localOpen : after.localOpen = before.localOpen

theorem sameServer_step (base64 : Base64) (world : World) {action : Action}
    (fixed : ∀ server peers, action ≠ .reconnect server peers) (server : String) :
    SameServer (world.server server) ((world.step base64 action).server server) := by
  cases serverStep base64 world action server with
  | kept same =>
      rw [same]
      exact ⟨rfl, rfl, rfl⟩
  | originated packet messageId scan rememberAt lookupAt asked left =>
      rw [left]
      exact ⟨rfl, rfl, rfl⟩
  | received index scan rememberAt learnAt transit frame asked atIndex isRelay toServer left =>
      obtain ⟨_, peers, maxHops, localOpen⟩ := receiveFrame_frame base64 scan rememberAt
        learnAt transit.source frame (world.server server)
      rw [left]
      exact ⟨peers, maxHops, localOpen⟩
  | looked now target left =>
      rw [left]
      exact ⟨rfl, rfl, rfl⟩
  | reconnected peers asked left => exact absurd asked (fixed server peers)

theorem length_seenIds_step {bound : Nat} (small : bound < maxSeenIds)
    (room : ∀ server, (world.server server).seenIds.entries.length ≤ bound) (server : String) :
    ((world.step base64 action).server server).seenIds.entries.length ≤ bound + 1 := by
  have here := room server
  cases serverStep base64 world action server with
  | kept same =>
      rw [same]
      omega
  | originated packet messageId scan rememberAt lookupAt asked left =>
      have grown := length_rememberMessage_le scan rememberAt messageId
        (Nat.lt_of_le_of_lt here small)
      rw [left]
      exact grown.trans (Nat.succ_le_succ here)
  | received index scan rememberAt learnAt transit frame asked atIndex isRelay toServer left =>
      have grown := length_rememberMessage_le scan rememberAt frame.messageId
        (Nat.lt_of_le_of_lt here small)
      rw [left, (receiveFrame_frame base64 scan rememberAt learnAt transit.source frame
        (world.server server)).1]
      exact grown.trans (Nat.succ_le_succ here)
  | looked now target left =>
      rw [left]
      exact Nat.le_succ_of_le here
  | reconnected peers asked left =>
      rw [left]
      exact Nat.le_succ_of_le here

theorem length_seenIds_exec (base64 : Base64) {start : World}
    (empty : ∀ server, (start.server server).seenIds.entries.length = 0) (actions : List Action)
    (few : actions.length ≤ maxSeenIds) :
    ∀ server, ((exec (World.step base64) start actions).server server).seenIds.entries.length ≤
      actions.length := by
  induction actions using List.reverseRecOn with
  | nil =>
      intro server
      exact Nat.le_of_eq (empty server)
  | append_singleton earlier action ih =>
      rw [List.length_append, List.length_singleton] at few ⊢
      rw [exec_snoc]
      exact length_seenIds_step (by omega) (ih (by omega))

/-- The node has sent nothing that is still on its way, and no server has a hint for it. -/
structure Silent (target : String) (world : World) : Prop where
  inFlight : ∀ transit ∈ world.inFlight, ∀ frame, transit.frame = .relay frame →
    frame.fromId ≠ target
  awaiting : ∀ entry ∈ world.awaiting, entry.frame.fromId ≠ target
  noHint : ∀ server, (world.server server).routeHints.lookup target = none

theorem Silent.noHint_step {target : String} (silent : Silent target world) (server : String) :
    ((world.step base64 action).server server).routeHints.lookup target = none := by
  have here := silent.noHint server
  cases serverStep base64 world action server with
  | kept same =>
      rw [same]
      exact here
  | originated packet messageId scan rememberAt lookupAt asked left =>
      rw [left]
      exact lookup_lookupRoute_none here
  | received index scan rememberAt learnAt transit frame asked atIndex isRelay toServer left =>
      have different := silent.inFlight transit (List.mem_of_getElem? atIndex) frame isRelay
      rw [left]
      rcases receiveFrame_hints base64 scan rememberAt learnAt transit.source frame
        (world.server server) with same | learned
      · rw [same]
        exact here
      · rw [learned]
        exact lookup_learnRoute_none here different.symm
  | looked now looked left =>
      rw [left]
      exact lookup_lookupRoute_none here
  | reconnected peers asked left =>
      rw [left]
      exact here

theorem inFlight_receive (transit : Transit) (scan : Scan) (rememberAt learnAt : Nat) :
    (world.receive base64 transit scan rememberAt learnAt).inFlight = world.inFlight := by
  unfold World.receive
  split
  · rfl
  · dsimp only
    split
    · rfl
    · rfl

theorem entries_receive (base64 : Base64) (world : World) (transit : Transit) (scan : Scan)
    (rememberAt learnAt : Nat) :
    ∃ new : List Accepted,
      (world.receive base64 transit scan rememberAt learnAt).awaiting = world.awaiting ++ new ∧
      (world.receive base64 transit scan rememberAt learnAt).accepted = world.accepted ++ new ∧
      ∀ entry ∈ new, transit.frame = .relay entry.frame ∧
        entry = transit.accept entry.frame entry.packet := by
  unfold World.receive
  split
  · exact ⟨[], (List.append_nil _).symm, (List.append_nil _).symm, nofun⟩
  · rename_i frame isRelay
    dsimp only
    split
    · exact ⟨[], (List.append_nil _).symm, (List.append_nil _).symm, nofun⟩
    · rename_i packet left taken
      refine ⟨[transit.accept frame packet], rfl, rfl, ?_⟩
      intro entry member
      rw [List.mem_singleton.mp member]
      exact ⟨isRelay, rfl⟩

theorem fromId_of_mem_append_sendTo {target source : String} {links : Nat} {sent : RelayFrame}
    {targets : List String} {transits : List Transit}
    (old : ∀ transit ∈ transits, ∀ frame, transit.frame = .relay frame → frame.fromId ≠ target)
    (different : sent.fromId ≠ target) :
    ∀ transit ∈ transits ++ sendTo source links sent targets, ∀ frame,
      transit.frame = .relay frame → frame.fromId ≠ target := by
  intro transit member frame isRelay
  rcases List.mem_append.mp member with before | isNew
  · exact old transit before frame isRelay
  · obtain ⟨peer, _, same⟩ := List.mem_map.mp isNew
    rw [← same, MeshFrame.relay.injEq] at isRelay
    rw [← isRelay]
    exact different

theorem Silent.step {target : String} (silent : Silent target world)
    (quiet : ∀ server packet messageId scan rememberAt lookupAt,
      action = .originate server packet messageId scan rememberAt lookupAt →
      packet.fromId ≠ target) : Silent target (world.step base64 action) := by
  refine ⟨?_, ?_, silent.noHint_step⟩
  · cases action with
    | originate server packet messageId scan rememberAt lookupAt =>
        exact fromId_of_mem_append_sendTo silent.inFlight
          (quiet server packet messageId scan rememberAt lookupAt rfl)
    | receive index scan rememberAt learnAt =>
        simp only [World.step]
        split
        · exact silent.inFlight
        · intro transit member
          rw [inFlight_receive] at member
          exact silent.inFlight transit (List.mem_of_mem_eraseIdx member)
    | resume index delivered lookupAt =>
        simp only [World.step]
        split
        · exact silent.inFlight
        · rename_i entry atIndex
          exact fromId_of_mem_append_sendTo silent.inFlight
            (silent.awaiting entry (List.mem_of_getElem? atIndex))
    | reconnect server peers => exact silent.inFlight
  · cases action with
    | originate server packet messageId scan rememberAt lookupAt => exact silent.awaiting
    | receive index scan rememberAt learnAt =>
        simp only [World.step]
        split
        · exact silent.awaiting
        · rename_i transit atIndex
          obtain ⟨new, awaiting, _, fromFrame⟩ := entries_receive base64
            (world.takeFrame index) transit scan rememberAt learnAt
          intro entry member
          rw [awaiting] at member
          rcases List.mem_append.mp member with old | isNew
          · exact silent.awaiting entry old
          · exact silent.inFlight transit (List.mem_of_getElem? atIndex) entry.frame
              (fromFrame entry isNew).1
    | resume index delivered lookupAt =>
        simp only [World.step]
        split
        · exact silent.awaiting
        · intro entry member
          exact silent.awaiting entry (List.mem_of_mem_eraseIdx member)
    | reconnect server peers => exact silent.awaiting

theorem Silent.exec (base64 : Base64) {target : String} {start : World}
    (silent : Silent target start) (actions : List Action)
    (quiet : ∀ server packet messageId scan rememberAt lookupAt,
      .originate server packet messageId scan rememberAt lookupAt ∈ actions →
      packet.fromId ≠ target) : Silent target (exec (World.step base64) start actions) := by
  induction actions using List.reverseRecOn with
  | nil => exact silent
  | append_singleton earlier action ih =>
      rw [exec_snoc]
      refine Silent.step (ih ?_) ?_
      · intro server packet messageId scan rememberAt lookupAt member
        exact quiet server packet messageId scan rememberAt lookupAt
          (List.mem_append_left _ member)
      · rintro server packet messageId scan rememberAt lookupAt rfl
        exact quiet server packet messageId scan rememberAt lookupAt
          (List.mem_append_right _ List.mem_cons_self)

end

theorem mem_eraseIdx_or {Entry : Type} {entries : List Entry} {index : Nat}
    {entry removed : Entry} (atIndex : entries[index]? = some removed)
    (member : entry ∈ entries) : entry ∈ entries.eraseIdx index ∨ entry = removed := by
  obtain ⟨position, found⟩ := List.mem_iff_getElem?.mp member
  by_cases same : position = index
  · rw [same, atIndex, Option.some.injEq] at found
    exact Or.inr found.symm
  · exact Or.inl (List.mem_eraseIdx_iff_getElem?.mpr ⟨position, same, found⟩)

end Lightscale.Mesh
