/-
Where the frames of the mesh come from, and how far they can get.

Nothing here relies on the caches: between any two steps the seen ids and the route
hints of a server may be replaced by anything.  Every frame still goes back to a packet
that some server was given, unchanged but for its hops, and every link it crosses costs
it one hop.  Since a frame is replaced by frames and handlers with fewer hops only, a
message that is given to the mesh finitely often is sent finitely often.
-/

import Mathlib.Data.Multiset.DershowitzManna
import Lightscale.Mesh.Flooding

namespace Lightscale.Mesh

open Foundation

/-- A packet that a local relay gave to the mesh, and the id it was sent under. -/
structure Origination where
  server : String
  messageId : String
  packet : Packet
  deriving DecidableEq

/-- A step of the mesh, or a change to one of the caches of a server. -/
inductive Turn where
  | act (action : Action)
  | reroute (server : String) (hints : Table String RouteHint)
  | forget (server : String) (seen : Table String Nat)

def World.turn (base64 : Base64) (world : World) : Turn → World
  | .act action => world.step base64 action
  | .reroute server hints =>
      { world with
        server := Function.update world.server server
          { world.server server with routeHints := hints } }
  | .forget server seen =>
      { world with
        server := Function.update world.server server
          { world.server server with seenIds := seen } }

def Turn.origination : Turn → Option Origination
  | .act (.originate server packet messageId _ _ _) => some ⟨server, messageId, packet⟩
  | _ => none

/-! ### What a turn sends and takes -/

def World.sends (base64 : Base64) (world : World) : Turn → List Transit
  | .act (.originate server packet messageId _ _ lookupAt) =>
      sendTo server 1 (originFrame base64 (world.server server).maxHops messageId packet)
        ((world.server server).forwardToTarget lookupAt none packet.toId).1
  | .act (.resume index delivered lookupAt) =>
      match world.awaiting[index]? with
      | none => []
      | some entry =>
          sendTo entry.server (entry.links + 1)
            (forwardedFrame base64 entry.frame entry.packet.payload)
            (finishFrame lookupAt entry.source entry.frame delivered
              (world.server entry.server)).1
  | _ => []

def Transit.taken (base64 : Base64) (scan : Scan) (rememberAt learnAt : Nat)
    (context : MeshContext) (transit : Transit) : List Accepted :=
  match transit.frame with
  | .hello _ => []
  | .relay frame =>
      ((receiveFrame base64 scan rememberAt learnAt transit.source frame context).1.map
        (transit.accept frame)).toList

def World.takes (base64 : Base64) (world : World) : Turn → List Accepted
  | .act (.receive index scan rememberAt learnAt) =>
      match world.inFlight[index]? with
      | none => []
      | some transit =>
          transit.taken base64 scan rememberAt learnAt (world.server transit.dest)
  | _ => []

def World.leftInFlight (world : World) : Turn → List Transit
  | .act (.receive index _ _ _) => world.inFlight.eraseIdx index
  | _ => world.inFlight

def World.leftWaiting (world : World) : Turn → List Accepted
  | .act (.resume index _ _) => world.awaiting.eraseIdx index
  | _ => world.awaiting

theorem forwardToTarget_seenIds (context : MeshContext) (seen : Table String Nat) (now : Nat)
    (excludePeer : Option String) (targetNodeId : String) :
    ({ context with seenIds := seen }.forwardToTarget now excludePeer targetNodeId).1 =
      (context.forwardToTarget now excludePeer targetNodeId).1 := by
  unfold MeshContext.forwardToTarget
  dsimp only
  cases looked : (lookupRoute now targetNodeId context.routeHints).1 with
  | none => rfl
  | some peerId =>
      have same : ∀ hints, { context with seenIds := seen, routeHints := hints }.sendToPeer peerId =
          { context with routeHints := hints }.sendToPeer peerId := fun _ => rfl
      dsimp only
      rw [same]
      split
      · rfl
      · rfl

theorem World.leftInFlight_subset {world : World} {turn : Turn} {transit : Transit}
    (member : transit ∈ world.leftInFlight turn) : transit ∈ world.inFlight := by
  unfold World.leftInFlight at member
  split at member
  · exact List.mem_of_mem_eraseIdx member
  · exact member

theorem World.leftWaiting_subset {world : World} {turn : Turn} {entry : Accepted}
    (member : entry ∈ world.leftWaiting turn) : entry ∈ world.awaiting := by
  unfold World.leftWaiting at member
  split at member
  · exact List.mem_of_mem_eraseIdx member
  · exact member

theorem World.receive_lists (base64 : Base64) (world : World) (transit : Transit) (scan : Scan)
    (rememberAt learnAt : Nat) :
    let taken := transit.taken base64 scan rememberAt learnAt (world.server transit.dest)
    (world.receive base64 transit scan rememberAt learnAt).awaiting = world.awaiting ++ taken ∧
      (world.receive base64 transit scan rememberAt learnAt).accepted =
        world.accepted ++ taken ∧
      (world.receive base64 transit scan rememberAt learnAt).handed =
        world.handed ++ taken.filter (fun entry => (world.server entry.server).localOpen) := by
  dsimp only
  unfold Transit.taken
  cases isFrame : transit.frame with
  | hello serverId =>
      have same : world.receive base64 transit scan rememberAt learnAt = world := by
        unfold World.receive
        rw [isFrame]
      rw [same]
      simp only [List.filter_nil, List.append_nil, and_self]
  | relay frame =>
      dsimp only
      cases outcome : (receiveFrame base64 scan rememberAt learnAt transit.source frame
          (world.server transit.dest)).1 with
      | none =>
          rw [world.receive_none isFrame outcome]
          simp only [Option.map_none, Option.toList_none, List.filter_nil, List.append_nil,
            and_self]
      | some packet =>
          rw [world.receive_some isFrame outcome]
          refine ⟨rfl, rfl, ?_⟩
          change (if (world.server transit.dest).localOpen then _ else _) =
            world.handed ++ [transit.accept frame packet].filter _
          cases isOpen : (world.server transit.dest).localOpen with
          | true => simp [Transit.accept, isOpen]
          | false => simp [Transit.accept, isOpen]

section

variable (base64 : Base64) (world : World) (turn : Turn)

theorem inFlight_turn :
    (world.turn base64 turn).inFlight = world.leftInFlight turn ++ world.sends base64 turn := by
  cases turn with
  | act action =>
      cases action with
      | originate server packet messageId scan rememberAt lookupAt =>
          simp only [World.turn, World.step, World.originate, World.leftInFlight, World.sends,
            forwardToTarget_seenIds]
      | receive index scan rememberAt learnAt =>
          simp only [World.turn, World.step, World.leftInFlight, World.sends, List.append_nil]
          cases atIndex : world.inFlight[index]? with
          | none =>
              exact (List.eraseIdx_of_length_le (List.getElem?_eq_none_iff.mp atIndex)).symm
          | some transit => exact inFlight_receive transit scan rememberAt learnAt
      | resume index delivered lookupAt =>
          simp only [World.turn, World.step, World.leftInFlight, World.sends]
          cases atIndex : world.awaiting[index]? with
          | none => exact (List.append_nil _).symm
          | some entry => rfl
      | reconnect server peers => exact (List.append_nil _).symm
  | reroute server hints => exact (List.append_nil _).symm
  | forget server seen => exact (List.append_nil _).symm

theorem lists_turn :
    (world.turn base64 turn).awaiting = world.leftWaiting turn ++ world.takes base64 turn ∧
      (world.turn base64 turn).accepted = world.accepted ++ world.takes base64 turn ∧
      (world.turn base64 turn).handed = world.handed ++
        (world.takes base64 turn).filter (fun entry => (world.server entry.server).localOpen) := by
  cases turn with
  | act action =>
      cases action with
      | originate server packet messageId scan rememberAt lookupAt =>
          exact ⟨(List.append_nil _).symm, (List.append_nil _).symm, (List.append_nil _).symm⟩
      | receive index scan rememberAt learnAt =>
          simp only [World.turn, World.step, World.leftWaiting, World.takes]
          cases atIndex : world.inFlight[index]? with
          | none =>
              exact ⟨(List.append_nil _).symm, (List.append_nil _).symm,
                (List.append_nil _).symm⟩
          | some transit =>
              exact World.receive_lists base64 (world.takeFrame index) transit scan rememberAt
                learnAt
      | resume index delivered lookupAt =>
          simp only [World.turn, World.step, World.leftWaiting, World.takes, List.append_nil,
            List.filter_nil]
          cases atIndex : world.awaiting[index]? with
          | none =>
              exact ⟨(List.eraseIdx_of_length_le (List.getElem?_eq_none_iff.mp atIndex)).symm,
                rfl, rfl⟩
          | some entry => exact ⟨rfl, rfl, rfl⟩
      | reconnect server peers =>
          exact ⟨(List.append_nil _).symm, (List.append_nil _).symm, (List.append_nil _).symm⟩
  | reroute server hints =>
      exact ⟨(List.append_nil _).symm, (List.append_nil _).symm, (List.append_nil _).symm⟩
  | forget server seen =>
      exact ⟨(List.append_nil _).symm, (List.append_nil _).symm, (List.append_nil _).symm⟩

end

theorem maxHops_turn (base64 : Base64) (world : World) (turn : Turn) (server : String) :
    ((world.turn base64 turn).server server).maxHops = (world.server server).maxHops := by
  have update : ∀ (changed : String) (left : MeshContext),
      left.maxHops = (world.server changed).maxHops →
      (Function.update world.server changed left server).maxHops =
        (world.server server).maxHops := by
    intro changed left same
    by_cases here : server = changed
    · subst here
      rw [Function.update_self]
      exact same
    · rw [Function.update_of_ne here]
  cases turn with
  | act action =>
      change ((world.step base64 action).server server).maxHops = _
      cases serverStep base64 world action server with
      | kept same => rw [same]
      | originated packet messageId scan rememberAt lookupAt asked left => rw [left]
      | received index scan rememberAt learnAt transit frame asked atIndex isRelay toServer left =>
          rw [left]
          exact (receiveFrame_frame base64 scan rememberAt learnAt transit.source frame
            (world.server server)).2.2.1
      | looked now target left => rw [left]
      | reconnected peers asked left => rw [left]
  | reroute changed hints => exact update changed _ rfl
  | forget changed seen => exact update changed _ rfl

/-! ### Lineage -/

/-- The frame is a copy of a packet given to the mesh, one hop short for every link but
the first. -/
structure Lineage (base64 : Base64) (maxHops : String → Nat) (given : Origination)
    (frame : RelayFrame) (links : Nat) : Prop where
  shape : frame = originFrame base64 frame.hopsLeft given.messageId given.packet
  hops : frame.hopsLeft + links = maxHops given.server + 1
  positive : 1 ≤ links

structure Faithful (base64 : Base64) (maxHops : String → Nat) (Given : Origination → Prop)
    (world : World) : Prop where
  sameHops : ∀ server, (world.server server).maxHops = maxHops server
  inFlight : ∀ transit ∈ world.inFlight, ∀ frame, transit.frame = .relay frame →
    ∃ given, Given given ∧ Lineage base64 maxHops given frame transit.links
  awaiting : ∀ entry ∈ world.awaiting, ∃ given, Given given ∧
    Lineage base64 maxHops given entry.frame entry.links ∧ entry.packet = given.packet
  handed : ∀ entry ∈ world.handed, ∃ given, Given given ∧
    Lineage base64 maxHops given entry.frame entry.links ∧ entry.packet = given.packet

/-- No frame is on its way, and no packet has been taken out of one. -/
structure World.Blank (world : World) : Prop where
  inFlight : world.inFlight = []
  awaiting : world.awaiting = []
  accepted : world.accepted = []
  handed : world.handed = []

theorem World.Blank.faithful {base64 : Base64} {world : World} (blank : world.Blank)
    (Given : Origination → Prop) :
    Faithful base64 (fun server => (world.server server).maxHops) Given world := by
  refine ⟨fun _ => rfl, ?_, ?_, ?_⟩
  · rw [blank.inFlight]
    exact nofun
  · rw [blank.awaiting]
    exact nofun
  · rw [blank.handed]
    exact nofun

theorem receiveFrame_taken {base64 : Base64} {scan : Scan} {rememberAt learnAt : Nat}
    {source : String} {frame : RelayFrame} {context : MeshContext} {packet : Packet}
    (taken : (receiveFrame base64 scan rememberAt learnAt source frame context).1 =
      some packet) :
    (rememberMessage scan rememberAt frame.messageId context.seenIds).1 = true ∧
      base64.decode frame.payloadB64 = some packet.payload ∧
      packet.transport = frame.transport ∧ packet.fromId = frame.fromId ∧
      packet.toId = frame.toId := by
  unfold receiveFrame at taken
  dsimp only at taken
  cases remembered : (rememberMessage scan rememberAt frame.messageId context.seenIds).1 with
  | false =>
      rw [if_pos remembered] at taken
      cases taken
  | true =>
      rw [if_neg (by rw [remembered]; exact Bool.noConfusion)] at taken
      cases decoded : base64.decode frame.payloadB64 with
      | none =>
          rw [decoded] at taken
          cases taken
      | some payload =>
          rw [decoded] at taken
          dsimp only at taken
          rw [Option.some.injEq] at taken
          rw [← taken]
          exact ⟨rfl, rfl, rfl, rfl, rfl⟩

theorem Transit.mem_taken {base64 : Base64} {scan : Scan} {rememberAt learnAt : Nat}
    {context : MeshContext} {transit : Transit} {entry : Accepted}
    (member : entry ∈ transit.taken base64 scan rememberAt learnAt context) :
    transit.frame = .relay entry.frame ∧
      entry = transit.accept entry.frame entry.packet ∧
      (receiveFrame base64 scan rememberAt learnAt transit.source entry.frame context).1 =
        some entry.packet := by
  unfold Transit.taken at member
  cases isFrame : transit.frame with
  | hello serverId =>
      rw [isFrame] at member
      cases member
  | relay frame =>
      rw [isFrame] at member
      dsimp only at member
      rw [Option.mem_toList, Option.map_eq_some_iff] at member
      obtain ⟨packet, taken, rfl⟩ := member
      exact ⟨rfl, rfl, taken⟩

theorem mem_takes {base64 : Base64} {world : World} {turn : Turn} {entry : Accepted}
    (member : entry ∈ world.takes base64 turn) :
    ∃ index scan rememberAt learnAt transit,
      turn = .act (.receive index scan rememberAt learnAt) ∧
      world.inFlight[index]? = some transit ∧
      entry ∈ transit.taken base64 scan rememberAt learnAt (world.server transit.dest) := by
  unfold World.takes at member
  split at member
  · rename_i index scan rememberAt learnAt
    cases atIndex : world.inFlight[index]? with
    | none =>
        rw [atIndex] at member
        cases member
    | some transit =>
        rw [atIndex] at member
        exact ⟨index, scan, rememberAt, learnAt, transit, rfl, atIndex, member⟩
  · cases member

inductive Sending (base64 : Base64) (world : World) (turn : Turn) (transit : Transit) : Prop where
  | originated (server : String) (packet : Packet) (messageId : String) (scan : Scan)
      (rememberAt lookupAt : Nat)
      (asked : turn = .act (.originate server packet messageId scan rememberAt lookupAt))
      (sentFrame : transit.frame = .relay
        (originFrame base64 (world.server server).maxHops messageId packet))
      (oneLink : transit.links = 1)
  | forwarded (index : Nat) (delivered : Bool) (lookupAt : Nat) (entry : Accepted)
      (asked : turn = .act (.resume index delivered lookupAt))
      (atIndex : world.awaiting[index]? = some entry)
      (hopsLeft : entry.frame.hopsLeft ≠ 0)
      (isTarget : transit.dest ∈
        ((world.server entry.server).forwardToTarget lookupAt (some entry.source)
          entry.frame.toId).1)
      (sentFrame : transit.frame = .relay
        (forwardedFrame base64 entry.frame entry.packet.payload))
      (oneMore : transit.links = entry.links + 1)

theorem sending_of_mem_sends {base64 : Base64} {world : World} {turn : Turn} {transit : Transit}
    (member : transit ∈ world.sends base64 turn) : Sending base64 world turn transit := by
  unfold World.sends at member
  split at member
  · rename_i server packet messageId scan rememberAt lookupAt
    obtain ⟨target, _, rfl⟩ := List.mem_map.mp member
    exact .originated server packet messageId scan rememberAt lookupAt rfl rfl rfl
  · rename_i index delivered lookupAt
    cases atIndex : world.awaiting[index]? with
    | none =>
        rw [atIndex] at member
        cases member
    | some entry =>
        rw [atIndex] at member
        obtain ⟨target, isTarget, rfl⟩ := List.mem_map.mp member
        obtain ⟨_, hopsLeft, sentTo⟩ := finishFrame_targets isTarget
        exact .forwarded index delivered lookupAt entry rfl atIndex hopsLeft sentTo rfl rfl
  · cases member

section

variable {base64 : Base64} {maxHops : String → Nat} {Given Later : Origination → Prop}
  {world : World} {turn : Turn}

theorem Lineage.packet_eq (roundTrips : base64.RoundTrips) {given : Origination}
    {frame : RelayFrame} {links : Nat} {packet : Packet}
    (lineage : Lineage base64 maxHops given frame links)
    (decoded : base64.decode frame.payloadB64 = some packet.payload)
    (transport : packet.transport = frame.transport) (fromId : packet.fromId = frame.fromId)
    (toId : packet.toId = frame.toId) : packet = given.packet := by
  have shape := lineage.shape
  rcases packet with ⟨packetTransport, packetFrom, packetTo, payload⟩
  have sameText : frame.payloadB64 = base64.encode given.packet.payload :=
    congrArg RelayFrame.payloadB64 shape
  rw [sameText, roundTrips, Option.some.injEq] at decoded
  have sameTransport : frame.transport = given.packet.transport :=
    congrArg RelayFrame.transport shape
  have sameFrom : frame.fromId = given.packet.fromId := congrArg RelayFrame.fromId shape
  have sameTo : frame.toId = given.packet.toId := congrArg RelayFrame.toId shape
  dsimp only at transport fromId toId decoded
  rw [transport, fromId, toId, sameTransport, sameFrom, sameTo, ← decoded]

theorem Lineage.forwarded {given : Origination} {frame : RelayFrame} {links : Nat}
    (lineage : Lineage base64 maxHops given frame links) (hopsLeft : frame.hopsLeft ≠ 0) :
    Lineage base64 maxHops given (forwardedFrame base64 frame given.packet.payload)
      (links + 1) := by
  refine ⟨?_, ?_, Nat.le_add_left 1 links⟩
  · unfold forwardedFrame
    rw [lineage.shape]
    rfl
  · have hops := lineage.hops
    change frame.hopsLeft - 1 + (links + 1) = maxHops given.server + 1
    omega

theorem Faithful.mono (faithful : Faithful base64 maxHops Given world)
    (grown : ∀ given, Given given → Later given) : Faithful base64 maxHops Later world := by
  refine ⟨faithful.sameHops, ?_, ?_, ?_⟩
  · intro transit member frame isRelay
    obtain ⟨given, isGiven, lineage⟩ := faithful.inFlight transit member frame isRelay
    exact ⟨given, grown given isGiven, lineage⟩
  · intro entry member
    obtain ⟨given, isGiven, lineage⟩ := faithful.awaiting entry member
    exact ⟨given, grown given isGiven, lineage⟩
  · intro entry member
    obtain ⟨given, isGiven, lineage⟩ := faithful.handed entry member
    exact ⟨given, grown given isGiven, lineage⟩

theorem Faithful.sends (faithful : Faithful base64 maxHops Given world)
    (isNew : ∀ given, turn.origination = some given → Given given) {transit : Transit}
    (member : transit ∈ world.sends base64 turn) {frame : RelayFrame}
    (isRelay : transit.frame = .relay frame) :
    ∃ given, Given given ∧ Lineage base64 maxHops given frame transit.links := by
  cases sending_of_mem_sends member with
  | originated server packet messageId scan rememberAt lookupAt asked sentFrame oneLink =>
      rw [sentFrame, MeshFrame.relay.injEq] at isRelay
      rw [← isRelay, oneLink, faithful.sameHops server]
      refine ⟨⟨server, messageId, packet⟩, isNew _ ?_, rfl, rfl, Nat.le_refl 1⟩
      rw [asked]
      rfl
  | forwarded index delivered lookupAt entry asked atIndex hopsLeft isTarget sentFrame oneMore =>
      obtain ⟨given, isGiven, lineage, samePacket⟩ :=
        faithful.awaiting entry (List.mem_of_getElem? atIndex)
      rw [sentFrame, MeshFrame.relay.injEq] at isRelay
      rw [← isRelay, oneMore, samePacket]
      exact ⟨given, isGiven, lineage.forwarded hopsLeft⟩

theorem Faithful.takes (roundTrips : base64.RoundTrips)
    (faithful : Faithful base64 maxHops Given world) {entry : Accepted}
    (member : entry ∈ world.takes base64 turn) :
    ∃ given, Given given ∧ Lineage base64 maxHops given entry.frame entry.links ∧
      entry.packet = given.packet := by
  obtain ⟨index, scan, rememberAt, learnAt, transit, _, atIndex, taken⟩ := mem_takes member
  obtain ⟨isRelay, isEntry, received⟩ := Transit.mem_taken taken
  obtain ⟨_, decoded, transport, fromId, toId⟩ := receiveFrame_taken received
  obtain ⟨given, isGiven, lineage⟩ :=
    faithful.inFlight transit (List.mem_of_getElem? atIndex) entry.frame isRelay
  have sameLinks : entry.links = transit.links := congrArg Accepted.links isEntry
  rw [sameLinks]
  exact ⟨given, isGiven, lineage,
    lineage.packet_eq roundTrips decoded transport fromId toId⟩

theorem Faithful.step (roundTrips : base64.RoundTrips)
    (faithful : Faithful base64 maxHops Given world)
    (isNew : ∀ given, turn.origination = some given → Given given) :
    Faithful base64 maxHops Given (world.turn base64 turn) := by
  obtain ⟨awaiting, _, handed⟩ := lists_turn base64 world turn
  refine ⟨?_, ?_, ?_, ?_⟩
  · intro server
    rw [maxHops_turn]
    exact faithful.sameHops server
  · intro transit member frame isRelay
    rw [inFlight_turn] at member
    rcases List.mem_append.mp member with old | sent
    · exact faithful.inFlight transit (World.leftInFlight_subset old) frame isRelay
    · exact faithful.sends isNew sent isRelay
  · intro entry member
    rw [awaiting] at member
    rcases List.mem_append.mp member with old | taken
    · exact faithful.awaiting entry (World.leftWaiting_subset old)
    · exact faithful.takes roundTrips taken
  · intro entry member
    rw [handed] at member
    rcases List.mem_append.mp member with old | taken
    · exact faithful.handed entry old
    · exact faithful.takes roundTrips (List.mem_of_mem_filter taken)

end

/-! ### A message runs out of hops -/

def Transit.load (messageId : String) (transit : Transit) : Option Nat :=
  match transit.frame with
  | .hello _ => none
  | .relay frame => if frame.messageId = messageId then some (2 * frame.hopsLeft + 1) else none

/-- The load of a handler of the message: less than that of its frame, more than that of
the frames it may still send. -/
def Accepted.load (messageId : String) (entry : Accepted) : Option Nat :=
  if entry.frame.messageId = messageId then some (2 * entry.frame.hopsLeft) else none

def World.loads (messageId : String) (world : World) : Multiset Nat :=
  ↑(world.inFlight.filterMap (Transit.load messageId)) +
    ↑(world.awaiting.filterMap (Accepted.load messageId))

def World.unloads (messageId : String) (world : World) : Turn → Multiset Nat
  | .act (.receive index _ _ _) =>
      ↑((world.inFlight[index]?).bind (Transit.load messageId)).toList
  | .act (.resume index _ _) =>
      ↑((world.awaiting[index]?).bind (Accepted.load messageId)).toList
  | _ => 0

def World.reloads (base64 : Base64) (messageId : String) (world : World) (turn : Turn) :
    Multiset Nat :=
  ↑((world.sends base64 turn).filterMap (Transit.load messageId)) +
    ↑((world.takes base64 turn).filterMap (Accepted.load messageId))

def World.keptLoads (messageId : String) (world : World) (turn : Turn) : Multiset Nat :=
  ↑((world.leftInFlight turn).filterMap (Transit.load messageId)) +
    ↑((world.leftWaiting turn).filterMap (Accepted.load messageId))

theorem coe_filterMap_eraseIdx {Entry : Type} (load : Entry → Option Nat) (entries : List Entry)
    (index : Nat) :
    (↑(entries.filterMap load) : Multiset Nat) =
      ↑((entries.eraseIdx index).filterMap load) + ↑((entries[index]?).bind load).toList := by
  by_cases inside : index < entries.length
  · have perm := (List.getElem_cons_eraseIdx_perm inside).filterMap load
    rw [List.getElem?_eq_getElem inside, Option.bind_some]
    rw [← Multiset.coe_eq_coe.mpr perm, Multiset.coe_add, Multiset.coe_eq_coe]
    cases carried : load entries[index] with
    | none =>
        rw [List.filterMap_cons_none carried, Option.toList_none, List.append_nil]
    | some amount =>
        rw [List.filterMap_cons_some carried]
        exact (List.perm_append_singleton amount _).symm
  · rw [List.eraseIdx_of_length_le (Nat.le_of_not_lt inside),
      List.getElem?_eq_none_iff.mpr (Nat.le_of_not_lt inside)]
    exact (add_zero _).symm

section

variable (base64 : Base64) (messageId : String) (world : World) (turn : Turn)

theorem loads_before :
    world.loads messageId = world.keptLoads messageId turn + world.unloads messageId turn := by
  unfold World.loads World.keptLoads World.unloads World.leftInFlight World.leftWaiting
  cases turn with
  | act action =>
      cases action with
      | originate server packet givenId scan rememberAt lookupAt => exact (add_zero _).symm
      | receive index scan rememberAt learnAt =>
          dsimp only
          rw [coe_filterMap_eraseIdx (Transit.load messageId) world.inFlight index]
          exact add_right_comm _ _ _
      | resume index delivered lookupAt =>
          dsimp only
          rw [coe_filterMap_eraseIdx (Accepted.load messageId) world.awaiting index]
          exact (add_assoc _ _ _).symm
      | reconnect server peers => exact (add_zero _).symm
  | reroute server hints => exact (add_zero _).symm
  | forget server seen => exact (add_zero _).symm

theorem loads_after :
    (world.turn base64 turn).loads messageId =
      world.keptLoads messageId turn + world.reloads base64 messageId turn := by
  unfold World.loads World.keptLoads World.reloads
  rw [inFlight_turn, (lists_turn base64 world turn).1, List.filterMap_append,
    List.filterMap_append, ← Multiset.coe_add, ← Multiset.coe_add]
  exact add_add_add_comm _ _ _ _

end

theorem Accepted.load_eq_some {messageId : String} {entry : Accepted} {amount : Nat}
    (carried : entry.load messageId = some amount) :
    entry.frame.messageId = messageId ∧ amount = 2 * entry.frame.hopsLeft := by
  unfold Accepted.load at carried
  by_cases same : entry.frame.messageId = messageId
  · rw [if_pos same, Option.some.injEq] at carried
    exact ⟨same, carried.symm⟩
  · rw [if_neg same] at carried
    cases carried

theorem Transit.load_of_relay {messageId : String} {transit : Transit} {frame : RelayFrame}
    (isRelay : transit.frame = .relay frame) :
    transit.load messageId =
      if frame.messageId = messageId then some (2 * frame.hopsLeft + 1) else none := by
  unfold Transit.load
  rw [isRelay]

/-- Whatever load a turn puts on the mesh, it takes more off, unless it brings a new packet. -/
theorem reloads_lt_unloads {base64 : Base64} {messageId : String} {world : World} {turn : Turn}
    (notGiven : ∀ given, turn.origination = some given → given.messageId ≠ messageId)
    {amount : Nat} (member : amount ∈ world.reloads base64 messageId turn) :
    ∃ more ∈ world.unloads messageId turn, amount < more := by
  unfold World.reloads at member
  rcases Multiset.mem_add.mp member with isSent | isTaken
  · obtain ⟨transit, sent, carried⟩ := List.mem_filterMap.mp (Multiset.mem_coe.mp isSent)
    cases sending_of_mem_sends sent with
    | originated server packet givenId scan rememberAt lookupAt asked sentFrame oneLink =>
        have different : givenId ≠ messageId := by
          refine notGiven ⟨server, givenId, packet⟩ ?_
          rw [asked]
          rfl
        rw [Transit.load_of_relay sentFrame] at carried
        change (if givenId = messageId then _ else _) = _ at carried
        rw [if_neg different] at carried
        cases carried
    | forwarded index delivered lookupAt entry asked atIndex hopsLeft isTarget sentFrame oneMore =>
        rw [Transit.load_of_relay sentFrame] at carried
        change (if entry.frame.messageId = messageId then
          some (2 * (entry.frame.hopsLeft - 1) + 1) else none) = some amount at carried
        by_cases same : entry.frame.messageId = messageId
        · rw [if_pos same, Option.some.injEq] at carried
          refine ⟨2 * entry.frame.hopsLeft, ?_, by omega⟩
          rw [asked]
          unfold World.unloads Accepted.load
          simp only [atIndex, Option.bind_some, if_pos same, Option.toList_some,
            Multiset.coe_singleton, Multiset.mem_singleton]
        · rw [if_neg same] at carried
          cases carried
  · obtain ⟨entry, taken, carried⟩ := List.mem_filterMap.mp (Multiset.mem_coe.mp isTaken)
    obtain ⟨index, scan, rememberAt, learnAt, transit, asked, atIndex, inFrame⟩ :=
      mem_takes taken
    obtain ⟨same, isAmount⟩ := Accepted.load_eq_some carried
    refine ⟨2 * entry.frame.hopsLeft + 1, ?_, by omega⟩
    rw [asked]
    unfold World.unloads
    simp only [atIndex, Option.bind_some, Transit.load_of_relay (Transit.mem_taken inFrame).1,
      if_pos same, Option.toList_some, Multiset.coe_singleton, Multiset.mem_singleton]

theorem loads_turn {base64 : Base64} {messageId : String} {world : World} {turn : Turn}
    (notGiven : ∀ given, turn.origination = some given → given.messageId ≠ messageId) :
    ((world.turn base64 turn).loads messageId = world.loads messageId ∧
        ∀ transit ∈ world.sends base64 turn, transit.load messageId = none) ∨
      Multiset.IsDershowitzMannaLT ((world.turn base64 turn).loads messageId)
        (world.loads messageId) := by
  have smaller : ∀ amount ∈ world.reloads base64 messageId turn,
      ∃ more ∈ world.unloads messageId turn, amount < more :=
    fun amount member => reloads_lt_unloads notGiven member
  by_cases nothing : world.unloads messageId turn = 0
  · have noReload : world.reloads base64 messageId turn = 0 := by
      refine Multiset.eq_zero_of_forall_notMem ?_
      intro amount member
      obtain ⟨more, isMore, _⟩ := smaller amount member
      rw [nothing] at isMore
      exact Multiset.notMem_zero more isMore
    refine Or.inl ⟨?_, ?_⟩
    · rw [loads_after, loads_before messageId world turn, nothing, noReload]
    · intro transit sent
      cases carried : transit.load messageId with
      | none => rfl
      | some amount =>
          have isReload : amount ∈ world.reloads base64 messageId turn :=
            Multiset.mem_add.mpr (Or.inl
              (Multiset.mem_coe.mpr (List.mem_filterMap.mpr ⟨transit, sent, carried⟩)))
          rw [noReload] at isReload
          exact absurd isReload (Multiset.notMem_zero amount)
  · exact Or.inr ⟨_, _, _, nothing, loads_after base64 messageId world turn,
      loads_before messageId world turn, smaller⟩

/-! ### Every run -/

theorem ne_of_mem_forwardToTarget {context : MeshContext} {now : Nat} {source target peer : String}
    (sentTo : peer ∈ (context.forwardToTarget now (some source) target).1) : peer ≠ source := by
  unfold MeshContext.forwardToTarget at sentTo
  dsimp only at sentTo
  have notExcluded : some source ≠ some peer := by
    split at sentTo
    · rename_i hinted _
      split at sentTo
      · rename_i usable
        rw [List.mem_singleton.mp sentTo]
        exact usable.1
      · exact ((mem_broadcast _ _ peer).mp sentTo).1
    · exact ((mem_broadcast _ _ peer).mp sentTo).1
  intro same
  rw [same] at notExcluded
  exact notExcluded rfl

def GivenBefore (turns : Nat → Turn) (count : Nat) (given : Origination) : Prop :=
  ∃ earlier < count, (turns earlier).origination = some given

theorem stateAt_faithful {base64 : Base64} (roundTrips : base64.RoundTrips) {start : World}
    (blank : start.Blank) (turns : Nat → Turn) (count : Nat) :
    Faithful base64 (fun server => (start.server server).maxHops) (GivenBefore turns count)
      (stateAt (World.turn base64) start turns count) := by
  induction count with
  | zero => exact blank.faithful _
  | succ count ih =>
      refine Faithful.step roundTrips (ih.mono ?_) ?_
      · rintro given ⟨earlier, before, isGiven⟩
        exact ⟨earlier, Nat.lt_succ_of_lt before, isGiven⟩
      · intro given isGiven
        exact ⟨count, Nat.lt_succ_self count, isGiven⟩

structure Carries (base64 : Base64) (frame : RelayFrame) (packet : Packet) : Prop where
  transport : frame.transport = packet.transport
  fromId : frame.fromId = packet.fromId
  toId : frame.toId = packet.toId
  payload : base64.decode frame.payloadB64 = some packet.payload

theorem Lineage.carries {base64 : Base64} (roundTrips : base64.RoundTrips)
    {maxHops : String → Nat} {given : Origination} {frame : RelayFrame} {links : Nat}
    (lineage : Lineage base64 maxHops given frame links) :
    frame.messageId = given.messageId ∧ Carries base64 frame given.packet := by
  rw [lineage.shape]
  exact ⟨rfl, rfl, rfl, rfl, roundTrips given.packet.payload⟩

theorem eventually_not_sent (base64 : Base64) (start : World) (turns : Nat → Turn)
    {messageId : String} {first : Nat}
    (notGiven : ∀ count, first ≤ count → ∀ given, (turns count).origination = some given →
      given.messageId ≠ messageId) :
    ∃ last, ∀ count, last ≤ count →
      ∀ transit ∈ (stateAt (World.turn base64) start turns count).sends base64 (turns count),
        transit.load messageId = none := by
  refine eventually_of_wellFounded Multiset.wellFounded_isDershowitzMannaLT
    (fun count => (stateAt (World.turn base64) start turns count).loads messageId) _ first ?_
  intro count later
  exact loads_turn (notGiven count later)

/-- Whatever the caches do, frames are copies of packets that were given to the mesh, they
lose a hop a link, and no message is sent for ever. -/
theorem messages_faithful_and_bounded (base64 : Base64) (roundTrips : base64.RoundTrips)
    (start : World) (blank : start.Blank) (turns : Nat → Turn) :
    (∀ count,
      let world := stateAt (World.turn base64) start turns count
      (∀ transit ∈ world.inFlight, ∀ frame, transit.frame = .relay frame →
        ∃ given, GivenBefore turns count given ∧ frame.messageId = given.messageId ∧
          Carries base64 frame given.packet ∧ 1 ≤ transit.links ∧
          transit.links ≤ (start.server given.server).maxHops + 1 ∧
          frame.hopsLeft = (start.server given.server).maxHops + 1 - transit.links) ∧
      (∀ entry ∈ world.handed,
        ∃ given, GivenBefore turns count given ∧ entry.frame.messageId = given.messageId ∧
          entry.packet = given.packet) ∧
      (∀ index delivered lookupAt entry,
        turns count = .act (.resume index delivered lookupAt) →
        world.awaiting[index]? = some entry →
        ∀ transit ∈ world.sends base64 (turns count), transit.dest ≠ entry.source)) ∧
    ∀ messageId first,
      (∀ count, first ≤ count → ∀ given, (turns count).origination = some given →
        given.messageId ≠ messageId) →
      ∃ last, ∀ count, last ≤ count →
        ∀ transit ∈ (stateAt (World.turn base64) start turns count).sends base64 (turns count),
          ∀ frame, transit.frame = .relay frame → frame.messageId ≠ messageId := by
  refine ⟨?_, ?_⟩
  · intro count
    have faithful := stateAt_faithful roundTrips blank turns count
    refine ⟨?_, ?_, ?_⟩
    · intro transit member frame isRelay
      obtain ⟨given, isGiven, lineage⟩ := faithful.inFlight transit member frame isRelay
      obtain ⟨sameId, carries⟩ := lineage.carries roundTrips
      have hops := lineage.hops
      exact ⟨given, isGiven, sameId, carries, lineage.positive, by omega, by omega⟩
    · intro entry member
      obtain ⟨given, isGiven, lineage, samePacket⟩ := faithful.handed entry member
      exact ⟨given, isGiven, (lineage.carries roundTrips).1, samePacket⟩
    · intro index delivered lookupAt entry asked atIndex transit sent
      cases sending_of_mem_sends sent with
      | originated server packet messageId scan rememberAt now isOrigination _ _ =>
          rw [asked] at isOrigination
          cases isOrigination
      | forwarded position answer now other isResume atPosition _ isTarget _ _ =>
          rw [asked] at isResume
          cases isResume
          rw [atIndex, Option.some.injEq] at atPosition
          subst atPosition
          exact ne_of_mem_forwardToTarget isTarget
  · intro messageId first notGiven
    obtain ⟨last, silent⟩ := eventually_not_sent base64 start turns notGiven
    refine ⟨last, ?_⟩
    intro count later transit sent frame isRelay sameId
    have noLoad := silent count later transit sent
    rw [Transit.load_of_relay isRelay, if_pos sameId] at noLoad
    cases noLoad

def chainTurns (count : Nat) : Turn :=
  match (.originate "a" samplePacket "m" inOrder 0 0 :: chainActions)[count]? with
  | some action => .act action
  | none => .forget "a" ∅

theorem sample_messages_faithful_and_bounded :
    (∃ transit ∈
        (stateAt (World.turn standardBase64) (linkedMesh chainLinks 1) chainTurns 3).inFlight,
      transit.links = 2 ∧ transit.links ≤ 1 + 1) ∧
    ∃ last, ∀ count, last ≤ count →
      ∀ transit ∈ (stateAt (World.turn standardBase64) (linkedMesh chainLinks 1) chainTurns
          count).sends standardBase64 (chainTurns count),
        ∀ frame, transit.frame = .relay frame → frame.messageId ≠ "m" := by
  obtain ⟨always, eventually⟩ := messages_faithful_and_bounded standardBase64
    standardBase64_roundTrips (linkedMesh chainLinks 1) ⟨rfl, rfl, rfl, rfl⟩ chainTurns
  have second : (⟨"b", "c", 2, .relay (originFrame standardBase64 0 "m" samplePacket)⟩ : Transit) ∈
      (stateAt (World.turn standardBase64) (linkedMesh chainLinks 1) chainTurns 3).inFlight := by
    decide +kernel
  obtain ⟨given, _, _, _, _, short, _⟩ := (always 3).1 _ second _ rfl
  refine ⟨⟨_, second, rfl, short⟩, eventually "m" 1 ?_⟩
  intro count later given isGiven
  have noOrigination : (chainTurns count).origination = none := by
    rcases count with _ | _ | _ | _ | _ | more
    · omega
    · rfl
    · rfl
    · rfl
    · rfl
    · rfl
  rw [noOrigination] at isGiven
  cases isGiven

end Lightscale.Mesh
