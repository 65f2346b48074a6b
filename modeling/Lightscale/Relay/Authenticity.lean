/-
Who has sent what a stream client receives.

A stream relay takes packets only from connections that have registered under the id of the
sender, and gives them only to connections that have registered under the id of the target.
The mesh carries packets as they were given to it and keeps the transport of each apart.  So
over all servers no stream client receives a packet in the name of a node that has not sent
it, or one that was sent to another node; what is sent over UDP, where anyone can claim any
id, never reaches a stream client.
-/

import Lightscale.Relay.Fleet

namespace Lightscale.Relay

open Foundation

/-! ### What the connections of all servers have sent -/

/-- In this event a connection that is in the given phase sends a packet. -/
def Reads (event : Event Fleet FleetAction) (server : String) (connId : Nat) (phase : Phase)
    (packet : RelayPacket) : Prop :=
  ∃ index bytes frame rest, event.input = .stream server (.read index bytes) ∧
    (event.before.stream server).clients[index]? = some ⟨connId, phase⟩ ∧
    readFrame bytes = .ok (frame, rest) ∧ parsePacket streamMagic frame = .ok (some packet)

def Registered (past : List (Event Fleet FleetAction)) (server : String) (connId : Nat)
    (nodeId : String) : Prop :=
  ∃ event ∈ past, Reads event server connId .waiting (.register nodeId)

/-- A connection that has registered under the id of the sender sends the packet. -/
def Sent (past : List (Event Fleet FleetAction)) (packet : Mesh.Packet) : Prop :=
  ∃ event ∈ past, ∃ server connId, Registered past server connId packet.fromId ∧
    Reads event server connId (.serving packet.fromId)
      (.send packet.fromId packet.toId packet.payload)

theorem Registered.mono {past later : List (Event Fleet FleetAction)} (grown : past ⊆ later)
    {server nodeId : String} {connId : Nat} (registered : Registered past server connId nodeId) :
    Registered later server connId nodeId := by
  obtain ⟨event, member, reads⟩ := registered
  exact ⟨event, grown member, reads⟩

theorem Sent.mono {past later : List (Event Fleet FleetAction)} (grown : past ⊆ later)
    {packet : Mesh.Packet} (sent : Sent past packet) : Sent later packet := by
  obtain ⟨event, member, server, connId, registered, reads⟩ := sent
  exact ⟨event, grown member, server, connId, registered.mono grown, reads⟩

/-! ### One relay -/

section

variable (registered : Nat → String → Prop) (sent : Mesh.Packet → Prop)

def Phase.Known (connId : Nat) : Phase → Prop
  | .registering nodeId => registered connId nodeId
  | .serving nodeId => registered connId nodeId
  | .delivering nodeId toId payload => registered connId nodeId ∧
      sent { transport := .stream, fromId := nodeId, toId := toId, payload := payload }
  | .leaving nodeId => registered connId nodeId
  | _ => True

/-- The bytes deliver a packet to a connection that has registered under the id of its target. -/
structure DeliveredTo (target : Nat) (bytes : List UInt8) (packet : Mesh.Packet) : Prop where
  isStream : packet.transport = .stream
  isSent : sent packet
  isTarget : registered target packet.toId
  built : buildPacket streamMagic typeDeliver packet.fromId "" packet.payload = .ok bytes

def Emission.Authentic : Emission → Prop
  | .frame _ target bytes => ∃ packet, DeliveredTo registered sent target bytes packet
  | .mesh _ packet => packet.transport = .stream ∧ sent packet
  | .answer _ => True

structure StreamAuthentic (relay : StreamRelay) : Prop where
  clients : ∀ client ∈ relay.clients, client.phase.Known registered sent client.connId
  peers : ∀ nodeId list, relay.peers.lookup nodeId = some list →
    ∀ connId ∈ list, registered connId nodeId
  emitted : ∀ emission ∈ relay.emitted, emission.Authentic registered sent

def RelayAction.Known (relay : StreamRelay) : RelayAction → Prop
  | .read index (.ok frame) => ∀ connId,
      (relay.clients[index]? = some ⟨connId, .waiting⟩ →
        ∀ nodeId, parsePacket streamMagic frame = .ok (some (.register nodeId)) →
          registered connId nodeId) ∧
      ∀ nodeId, relay.clients[index]? = some ⟨connId, .serving nodeId⟩ →
        ∀ toId payload, parsePacket streamMagic frame = .ok (some (.send nodeId toId payload)) →
          sent { transport := .stream, fromId := nodeId, toId := toId, payload := payload }
  | .meshDelivery packet => packet.transport = .stream ∧ sent packet
  | _ => True

end

section

variable {registered : Nat → String → Prop} {sent : Mesh.Packet → Prop} {relay : StreamRelay}

theorem StreamAuthentic.initial (hasMesh : Bool) :
    StreamAuthentic registered sent (StreamRelay.initial hasMesh) :=
  ⟨nofun, nofun, nofun⟩

theorem StreamAuthentic.mono {registered' : Nat → String → Prop} {sent' : Mesh.Packet → Prop}
    (authentic : StreamAuthentic registered sent relay)
    (moreRegistered : ∀ connId nodeId, registered connId nodeId → registered' connId nodeId)
    (moreSent : ∀ packet, sent packet → sent' packet) :
    StreamAuthentic registered' sent' relay := by
  refine ⟨?_, fun nodeId list found connId member =>
    moreRegistered _ _ (authentic.peers nodeId list found connId member), ?_⟩
  · intro client member
    have known := authentic.clients client member
    revert known
    cases client.phase with
    | registering nodeId => exact moreRegistered _ _
    | serving nodeId => exact moreRegistered _ _
    | delivering nodeId toId payload =>
        exact fun known => ⟨moreRegistered _ _ known.1, moreSent _ known.2⟩
    | leaving nodeId => exact moreRegistered _ _
    | waiting => exact id
    | returned result => exact id
    | panicked => exact id
  · intro emission member
    have known := authentic.emitted emission member
    cases emission with
    | frame reader target bytes =>
        obtain ⟨packet, delivered⟩ := known
        exact ⟨packet, delivered.isStream, moreSent _ delivered.isSent,
          moreRegistered _ _ delivered.isTarget, delivered.built⟩
    | mesh reader packet => exact ⟨known.1, moreSent _ known.2⟩
    | answer delivered => trivial

theorem StreamAuthentic.setPhase (authentic : StreamAuthentic registered sent relay)
    {index connId : Nat} {phase : Phase} (known : phase.Known registered sent connId) :
    StreamAuthentic registered sent (relay.setPhase index connId phase) := by
  refine ⟨?_, authentic.peers, authentic.emitted⟩
  intro client member
  rcases List.mem_or_eq_of_mem_set member with old | new
  · exact authentic.clients client old
  · rw [new]
    exact known

theorem StreamAuthentic.emit (authentic : StreamAuthentic registered sent relay)
    {new : List Emission} (known : ∀ emission ∈ new, emission.Authentic registered sent) :
    StreamAuthentic registered sent { relay with emitted := relay.emitted ++ new } := by
  refine ⟨authentic.clients, authentic.peers, ?_⟩
  intro emission member
  rcases List.mem_append.mp member with old | isNew
  · exact authentic.emitted emission old
  · exact known emission isNew

theorem mem_deliverLocal {fromId toId : String} {payload : List UInt8}
    {frames : List (Nat × List UInt8)}
    (delivered : relay.deliverLocal fromId toId payload = .ok frames)
    {target : Nat × List UInt8} (member : target ∈ frames) :
    (∃ list, relay.peers.lookup toId = some list ∧ target.1 ∈ list) ∧
      buildPacket streamMagic typeDeliver fromId "" payload = .ok target.2 := by
  unfold StreamRelay.deliverLocal at delivered
  cases found : relay.peers.lookup toId with
  | none =>
      rw [found] at delivered
      cases delivered
      cases member
  | some targets =>
      rw [found] at delivered
      dsimp only at delivered
      cases built : buildPacket streamMagic typeDeliver fromId "" payload with
      | error error =>
          rw [built] at delivered
          cases delivered
      | ok deliver =>
          rw [built] at delivered
          cases delivered
          obtain ⟨conn, kept, rfl⟩ := List.mem_map.mp member
          exact ⟨⟨targets, rfl, (List.mem_filter.mp kept).1⟩, rfl⟩

theorem StreamAuthentic.delivery (authentic : StreamAuthentic registered sent relay)
    {packet : Mesh.Packet} (isStream : packet.transport = .stream) (isSent : sent packet)
    {frames : List (Nat × List UInt8)}
    (delivered : relay.deliverLocal packet.fromId packet.toId packet.payload = .ok frames)
    (reader : Option Nat) :
    ∀ emission ∈ frames.map (fun target => Emission.frame reader target.1 target.2),
      emission.Authentic registered sent := by
  intro emission member
  obtain ⟨target, isTarget, rfl⟩ := List.mem_map.mp member
  obtain ⟨⟨list, found, listed⟩, built⟩ := mem_deliverLocal delivered isTarget
  exact ⟨packet, isStream, isSent, authentic.peers _ list found _ listed, built⟩

theorem firstPhase_known {frame : Except String (List UInt8)} {connId : Nat}
    (brings : ∀ bytes, frame = .ok bytes → ∀ nodeId,
      parsePacket streamMagic bytes = .ok (some (.register nodeId)) → registered connId nodeId) :
    (firstPhase frame).Known registered sent connId := by
  unfold firstPhase
  cases frame with
  | error error => trivial
  | ok bytes =>
      dsimp only
      split
      · trivial
      · trivial
      · trivial
      · rename_i nodeId parsed
        exact brings bytes rfl nodeId parsed

theorem nextPhase_known {frame : Except String (List UInt8)} {connId : Nat} {nodeId : String}
    (known : registered connId nodeId)
    (brings : ∀ bytes, frame = .ok bytes → ∀ toId payload,
      parsePacket streamMagic bytes = .ok (some (.send nodeId toId payload)) →
      sent { transport := .stream, fromId := nodeId, toId := toId, payload := payload }) :
    (nextPhase nodeId frame).Known registered sent connId := by
  unfold nextPhase
  cases frame with
  | error error => exact known
  | ok bytes =>
      dsimp only
      split
      · trivial
      · exact known
      · exact known
      · rename_i fromId toId payload parsed
        split
        · exact known
        · rename_i sameId
          rw [ne_eq, not_not] at sameId
          subst sameId
          exact ⟨known, brings bytes rfl toId payload parsed⟩

theorem StreamAuthentic.step (authentic : StreamAuthentic registered sent relay)
    {action : RelayAction} (known : action.Known registered sent relay) :
    StreamAuthentic registered sent (relay.step action) := by
  cases action with
  | accept =>
      refine ⟨?_, authentic.peers, authentic.emitted⟩
      intro client member
      rcases List.mem_append.mp member with old | new
      · exact authentic.clients client old
      · rw [List.mem_singleton.mp new]
        trivial
  | read index frame =>
      have brings : ∀ bytes, frame = .ok bytes → ∀ connId,
          (relay.clients[index]? = some ⟨connId, .waiting⟩ →
            ∀ nodeId, parsePacket streamMagic bytes = .ok (some (.register nodeId)) →
              registered connId nodeId) ∧
          ∀ nodeId, relay.clients[index]? = some ⟨connId, .serving nodeId⟩ →
            ∀ toId payload,
              parsePacket streamMagic bytes = .ok (some (.send nodeId toId payload)) →
              sent
                { transport := .stream, fromId := nodeId, toId := toId, payload := payload } := by
        rintro bytes rfl
        exact known
      dsimp only [StreamRelay.step]
      split
      · rename_i connId atIndex
        have first : (firstPhase frame).Known registered sent connId :=
          firstPhase_known fun bytes isFrame => (brings bytes isFrame connId).1 atIndex
        have moved : StreamAuthentic registered sent
            (relay.setPhase index connId (firstPhase frame)) := authentic.setPhase first
        split
        · rename_i nodeId isRegistering
          rw [isRegistering] at moved
          exact moved
        · exact ⟨moved.clients, moved.peers, moved.emitted⟩
      · rename_i connId nodeId atIndex
        have serving := authentic.clients _ (List.mem_of_getElem? atIndex)
        refine authentic.setPhase (nextPhase_known serving ?_)
        exact fun bytes isFrame => (brings bytes isFrame connId).2 nodeId atIndex
      · exact authentic
  | register index =>
      dsimp only [StreamRelay.step]
      split
      · rename_i connId nodeId atIndex
        have registering : registered connId nodeId :=
          authentic.clients _ (List.mem_of_getElem? atIndex)
        have moved : StreamAuthentic registered sent
            (relay.setPhase index connId (.serving nodeId)) := authentic.setPhase registering
        refine ⟨moved.clients, ?_, moved.emitted⟩
        intro key list found conn member
        change (pushConn relay.peers nodeId connId).lookup key = some list at found
        rw [lookup_pushConn] at found
        split at found
        · rename_i here
          cases found
          rcases List.mem_append.mp member with old | new
          · rw [here]
            cases before : relay.peers.lookup nodeId with
            | none =>
                rw [before] at old
                cases old
            | some earlier =>
                rw [before] at old
                exact authentic.peers nodeId earlier before conn old
          · rw [List.mem_singleton.mp new, here]
            exact registering
        · exact authentic.peers key list found conn member
      · exact authentic
  | deliver index =>
      dsimp only [StreamRelay.step]
      split
      · rename_i connId nodeId toId payload atIndex
        obtain ⟨serving, isSent⟩ := authentic.clients _ (List.mem_of_getElem? atIndex)
        split
        · exact authentic.setPhase trivial
        · rename_i frames delivered
          have moved : StreamAuthentic registered sent
              (relay.setPhase index connId (.serving nodeId)) := authentic.setPhase serving
          refine moved.emit ?_
          intro emission member
          unfold StreamRelay.emissions at member
          rcases List.mem_append.mp member with isFrame | isMesh
          · have isStream :
                (Mesh.Packet.mk .stream nodeId toId payload).transport = .stream := rfl
            exact authentic.delivery isStream isSent delivered _ emission isFrame
          · split at isMesh
            · rw [List.mem_singleton.mp isMesh]
              exact ⟨rfl, isSent⟩
            · cases isMesh
      · exact authentic
  | leave index =>
      dsimp only [StreamRelay.step]
      split
      · rename_i connId nodeId atIndex
        have moved : StreamAuthentic registered sent
            (relay.setPhase index connId (.returned (.ok ()))) := authentic.setPhase trivial
        refine ⟨moved.clients, ?_, moved.emitted⟩
        intro key list found conn member
        rcases lookup_dropConn found with ⟨-, before⟩ | ⟨here, -, earlier, before, kept⟩
        · exact authentic.peers key list before conn member
        · rw [here]
          rw [kept] at member
          exact authentic.peers nodeId earlier before conn (List.mem_filter.mp member).1
      · exact authentic
  | writeFailed connId => exact ⟨authentic.clients, authentic.peers, authentic.emitted⟩
  | meshDelivery packet =>
      obtain ⟨isStream, isSent⟩ := known
      dsimp only [StreamRelay.step]
      split
      · refine authentic.emit ?_
        intro emission member
        rw [List.mem_singleton.mp member]
        trivial
      · rename_i frames delivered
        rw [List.append_assoc]
        refine authentic.emit ?_
        intro emission member
        rcases List.mem_append.mp member with isFrame | isAnswer
        · exact authentic.delivery isStream isSent delivered none emission isFrame
        · rw [List.mem_singleton.mp isAnswer]
          trivial

end

/-! ### All servers -/

/-- The relays deliver what was sent to them, and so does the mesh for their transport. -/
structure Fleet.Authentic (base64 : Mesh.Base64) (maxHops : String → Nat)
    (past : List (Event Fleet FleetAction)) (fleet : Fleet) : Prop where
  sound : fleet.Sound base64 maxHops
  stream : ∀ server, StreamAuthentic (Registered past server) (Sent past) (fleet.stream server)
  world : Mesh.Faithful base64 maxHops
    (fun given => given.packet.transport = .stream → Sent past given.packet) fleet.world

section

variable {base64 : Mesh.Base64} {maxHops : String → Nat} {fleet : Fleet}
  {past : List (Event Fleet FleetAction)}

theorem Fleet.Fresh.authentic (fresh : fleet.Fresh) (base64 : Mesh.Base64) :
    fleet.Authentic base64 (fun server => (fleet.world.server server).maxHops) [] := by
  refine ⟨fresh.sound base64, ?_, fresh.world.faithful _⟩
  intro server
  obtain ⟨hasMesh, isInitial⟩ := fresh.stream server
  rw [isInitial]
  exact .initial hasMesh

theorem Fleet.Authentic.toMesh (authentic : fleet.Authentic base64 maxHops past)
    {server : String} {packet : Mesh.Packet} (given : packet ∈ fleet.toMesh server)
    (isStream : packet.transport = .stream) : Sent past packet := by
  unfold Fleet.toMesh at given
  rcases List.mem_append.mp given with byStream | byUdp
  · obtain ⟨emission, member, isPacket⟩ := List.mem_filterMap.mp byStream
    have known := (authentic.stream server).emitted emission member
    cases emission with
    | mesh reader carried =>
        cases isPacket
        exact known.2
    | frame reader target bytes => cases isPacket
    | answer delivered => cases isPacket
  · obtain ⟨emission, member, isPacket⟩ := List.mem_filterMap.mp byUdp
    cases emission with
    | mesh cause carried =>
        cases isPacket
        obtain ⟨fromId, toId, payload, parsed, carries⟩ :=
          (authentic.sound.udp server).traced.emitted _ member cause rfl
        rw [show packet = _ from carries] at isStream
        cases isStream
    | datagram cause target bytes => cases isPacket
    | answer delivered => cases isPacket

theorem StreamInput.action_known (authentic : fleet.Authentic base64 maxHops past)
    (server : String) (input : StreamInput) :
    input.action.Known
      (Registered (past ++ [eventAt (Fleet.step base64) fleet (.stream server input)]) server)
      (Sent (past ++ [eventAt (Fleet.step base64) fleet (.stream server input)]))
      (fleet.stream server) := by
  cases input with
  | read index bytes =>
      dsimp only [StreamInput.action]
      split
      · trivial
      · rename_i frame rest read
        have latest : eventAt (Fleet.step base64) fleet (.stream server (.read index bytes)) ∈
            past ++ [eventAt (Fleet.step base64) fleet (.stream server (.read index bytes))] :=
          List.mem_append_right _ List.mem_cons_self
        intro connId
        constructor
        · intro atIndex nodeId parsed
          exact ⟨_, latest, index, bytes, frame, rest, rfl, atIndex, read, parsed⟩
        · intro nodeId atIndex toId payload parsed
          have serving : Registered past server connId nodeId :=
            (authentic.stream server).clients _ (List.mem_of_getElem? atIndex)
          exact ⟨_, latest, server, connId, serving.mono (List.subset_append_left _ _),
            index, bytes, frame, rest, rfl, atIndex, read, parsed⟩
  | accept => trivial
  | readFailed index error => trivial
  | register index => trivial
  | deliver index => trivial
  | leave index => trivial
  | writeFailed connId => trivial

theorem Fleet.Authentic.step (roundTrips : base64.RoundTrips)
    (authentic : fleet.Authentic base64 maxHops past) (action : FleetAction) :
    (fleet.step base64 action).Authentic base64 maxHops
      (past ++ [eventAt (Fleet.step base64) fleet action]) := by
  have grown : past ⊆ past ++ [eventAt (Fleet.step base64) fleet action] :=
    List.subset_append_left _ _
  have sound := authentic.sound.step roundTrips action
  have streams : ∀ server, StreamAuthentic
      (Registered (past ++ [eventAt (Fleet.step base64) fleet action]) server)
      (Sent (past ++ [eventAt (Fleet.step base64) fleet action])) (fleet.stream server) :=
    fun server => (authentic.stream server).mono (fun _ _ => .mono grown) fun _ => .mono grown
  have carried : Mesh.Faithful base64 maxHops (fun given => given.packet.transport = .stream →
      Sent (past ++ [eventAt (Fleet.step base64) fleet action]) given.packet) fleet.world :=
    authentic.world.mono fun _ sent isStream => (sent isStream).mono grown
  have updated : ∀ server relayAction,
      relayAction.Known
        (Registered (past ++ [eventAt (Fleet.step base64) fleet action]) server)
        (Sent (past ++ [eventAt (Fleet.step base64) fleet action])) (fleet.stream server) →
      ∀ other, StreamAuthentic
        (Registered (past ++ [eventAt (Fleet.step base64) fleet action]) other)
        (Sent (past ++ [eventAt (Fleet.step base64) fleet action]))
        ((fleet.updateStream server relayAction).stream other) := by
    intro server relayAction known other
    unfold Fleet.updateStream
    dsimp only
    by_cases here : other = server
    · subst here
      rw [Function.update_self]
      exact (streams other).step known
    · rw [Function.update_of_ne here]
      exact streams other
  refine ⟨sound, ?_, ?_⟩
  · cases action with
    | stream server input => exact updated server _ (input.action_known authentic server)
    | udp server input => exact streams
    | originate server index messageId scan rememberAt lookupAt =>
        dsimp only [Fleet.step]
        split <;> exact streams
    | mesh turn =>
        dsimp only [Fleet.step]
        split <;> exact streams
    | handOver index accepted =>
        dsimp only [Fleet.step]
        split
        · exact streams
        · rename_i entry atIndex
          obtain ⟨given, sent, -, isGiven⟩ :=
            carried.handed entry (List.mem_of_getElem? atIndex)
          split
          · rename_i isStream
            rw [← isGiven] at sent
            exact updated entry.server (.meshDelivery entry.packet) ⟨isStream, sent isStream⟩
          · exact streams
  · cases action with
    | stream server input => exact carried
    | udp server input => exact carried
    | originate server index messageId scan rememberAt lookupAt =>
        dsimp only [Fleet.step]
        split
        · exact carried
        · rename_i packet atIndex
          change Mesh.Faithful _ _ _ (fleet.world.turn base64 (.act (.originate server packet
            messageId scan rememberAt lookupAt)))
          refine carried.step roundTrips ?_
          intro given isGiven isStream
          cases isGiven
          exact (authentic.toMesh (List.mem_of_getElem? atIndex) isStream).mono grown
    | mesh turn =>
        dsimp only [Fleet.step]
        split
        · exact carried
        · rename_i notGiven
          refine carried.step roundTrips ?_
          intro given isGiven
          rw [notGiven] at isGiven
          cases isGiven
    | handOver index accepted =>
        dsimp only [Fleet.step]
        split
        · exact carried
        · split <;> exact carried

end

end Lightscale.Relay
