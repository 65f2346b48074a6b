/-
The relays of all servers, with the mesh between them.

What a relay has to deliver was read from bytes that some relay received, possibly another
one that gave the packet to the mesh.  The target id is there in those bytes and not in the
deliver packet, so the deliver packet is shorter than what was received, and the limits on
what is received are limits on what is sent.  Whatever bytes the clients send, no relay
stops for a packet that it cannot build or a frame that it cannot write.
-/

import Lightscale.Mesh.Lineage
import Lightscale.Relay.Framing
import Lightscale.Relay.Stream
import Lightscale.Relay.Udp

namespace Lightscale.Relay

open Foundation

def magicOf : Mesh.MeshTransport → List UInt8
  | .stream => streamMagic
  | .udp => udpMagic

/-- The bytes are a frame that was read, or what a datagram left in the buffer. -/
def Receivable : Mesh.MeshTransport → List UInt8 → Prop
  | .stream, bytes => ∃ input rest, readFrame input = .ok (bytes, rest)
  | .udp, bytes => ∃ datagram : List UInt8, bytes = datagram.take udpBufferLen

structure ReadFrom (packet : Mesh.Packet) (received : List UInt8) : Prop where
  receivable : Receivable packet.transport received
  parsed : parsePacket (magicOf packet.transport) received =
    .ok (some (.send packet.fromId packet.toId packet.payload))

/-- The deliver packet can be built and written, and is shorter than what was received. -/
structure Delivers (packet : Mesh.Packet) (received deliver : List UInt8) : Prop where
  built : buildPacket (magicOf packet.transport) typeDeliver packet.fromId "" packet.payload =
    .ok deliver
  nonempty : deliver ≠ []
  shorter : deliver.length < received.length
  written : ∃ wire, writeFrame deliver = .ok wire

theorem Receivable.length_le {transport : Mesh.MeshTransport} {bytes : List UInt8}
    (receivable : Receivable transport bytes) : bytes.length ≤ maxFrameLen := by
  cases transport with
  | stream =>
      obtain ⟨input, rest, read⟩ := receivable
      exact (length_of_readFrame read).2.1
  | udp =>
      obtain ⟨datagram, rfl⟩ := receivable
      have small : udpBufferLen ≤ maxFrameLen := by decide
      exact Nat.le_trans (List.length_take_le udpBufferLen datagram) small

theorem magicOf_length (transport : Mesh.MeshTransport) : (magicOf transport).length = 4 := by
  cases transport with
  | stream => rfl
  | udp => rfl

theorem ReadFrom.delivers {packet : Mesh.Packet} {received : List UInt8}
    (readFrom : ReadFrom packet received) : ∃ deliver, Delivers packet received deliver := by
  have four := magicOf_length packet.transport
  have limit := readFrom.receivable.length_le
  obtain ⟨fromIs, toIs, reserved, isLayout⟩ :=
    (parsePacket_send_iff four _ _ _ _).mp readFrom.parsed
  have receivedLength := layout_length four typeSend reserved packet.fromId packet.toId
    packet.payload
  rw [← isLayout] at receivedLength
  have deliverLength := layout_length four typeDeliver 0 packet.fromId "" packet.payload
  have noTarget : (utf8Bytes "").length = 0 := rfl
  have target := toIs.nonempty
  refine ⟨layout (magicOf packet.transport) typeDeliver 0 packet.fromId "" packet.payload,
    ?_, ?_, by omega, ?_⟩
  · exact buildPacket_eq_ok_iff.mpr ⟨fromIs.short, Nat.zero_le _, rfl⟩
  · intro empty
    rw [empty, List.length_nil] at deliverLength
    omega
  · exact ⟨_, writeFrame_eq_ok_iff.mpr ⟨by omega, by omega, rfl⟩⟩

/-! ### All servers -/

structure Fleet where
  world : Mesh.World
  stream : String → StreamRelay
  udp : String → UdpRelay

structure Fleet.Fresh (fleet : Fleet) : Prop where
  world : fleet.world.Blank
  stream : ∀ server, ∃ hasMesh, fleet.stream server = StreamRelay.initial hasMesh
  udp : ∀ server, ∃ hasMesh, fleet.udp server = UdpRelay.initial hasMesh

/-- What happens to a stream relay by itself.  A frame is read from the bytes that a client
has sent and that were not read before; they may be any bytes. -/
inductive StreamInput where
  | accept
  | read (index : Nat) (bytes : List UInt8)
  | readFailed (index : Nat) (error : String)
  | register (index : Nat)
  | deliver (index : Nat)
  | leave (index : Nat)
  | writeFailed (connId : Nat)

def StreamInput.action : StreamInput → RelayAction
  | .accept => .accept
  | .read index bytes =>
      match readFrame bytes with
      | .error error => .read index (.error error.message)
      | .ok (frame, _) => .read index (.ok frame)
  | .readFailed index error => .read index (.error error)
  | .register index => .register index
  | .deliver index => .deliver index
  | .leave index => .leave index
  | .writeFailed connId => .writeFailed connId

inductive UdpInput where
  | receive (outcome : Except String (List UInt8 × SocketAddr))
  | upsert (now : Nat)
  | deliver (accepted : Bool)
  | cleanup (now : Nat)

def UdpInput.action : UdpInput → UdpAction
  | .receive outcome => .receive outcome
  | .upsert now => .upsert now
  | .deliver accepted => .deliver accepted
  | .cleanup now => .cleanup now

def Emission.packet? : Emission → Option Mesh.Packet
  | .mesh _ packet => some packet
  | _ => none

def UdpEmission.packet? : UdpEmission → Option Mesh.Packet
  | .mesh _ packet => some packet
  | _ => none

def Fleet.toMesh (fleet : Fleet) (server : String) : List Mesh.Packet :=
  (fleet.stream server).emitted.filterMap Emission.packet? ++
    (fleet.udp server).emitted.filterMap UdpEmission.packet?

inductive FleetAction where
  | stream (server : String) (input : StreamInput)
  | udp (server : String) (input : UdpInput)
  /-- A packet that a relay has given to the mesh is sent on its way. -/
  | originate (server : String) (index : Nat) (messageId : String) (scan : Mesh.Scan)
      (rememberAt lookupAt : Nat)
  /-- The mesh does something else. -/
  | mesh (turn : Mesh.Turn)
  /-- A packet that has arrived is handed to the relay of its transport. -/
  | handOver (index : Nat) (accepted : Bool)

def Fleet.updateStream (fleet : Fleet) (server : String) (action : RelayAction) : Fleet :=
  { fleet with
    stream := Function.update fleet.stream server ((fleet.stream server).step action) }

def Fleet.updateUdp (fleet : Fleet) (server : String) (action : UdpAction) : Fleet :=
  { fleet with udp := Function.update fleet.udp server ((fleet.udp server).step action) }

def Fleet.step (base64 : Mesh.Base64) (fleet : Fleet) : FleetAction → Fleet
  | .stream server input => fleet.updateStream server input.action
  | .udp server input => fleet.updateUdp server input.action
  | .originate server index messageId scan rememberAt lookupAt =>
      match (fleet.toMesh server)[index]? with
      | none => fleet
      | some packet =>
          { fleet with
            world := fleet.world.turn base64
              (.act (.originate server packet messageId scan rememberAt lookupAt)) }
  | .mesh turn =>
      match turn.origination with
      | some _ => fleet
      | none => { fleet with world := fleet.world.turn base64 turn }
  | .handOver index accepted =>
      match fleet.world.handed[index]? with
      | none => fleet
      | some entry =>
          match entry.packet.transport with
          | .stream => fleet.updateStream entry.server (.meshDelivery entry.packet)
          | .udp => fleet.updateUdp entry.server (.meshDelivery entry.packet accepted)

/-! ### The stream relays -/

/-- The phases that do not end a connection against its will, with what they are about. -/
def Phase.Fits : Phase → Prop
  | .delivering nodeId toId payload =>
      ∃ received, ReadFrom
        { transport := .stream, fromId := nodeId, toId := toId, payload := payload } received
  | .panicked => False
  | _ => True

def Emission.Fits : Emission → Prop
  | .frame _ _ bytes => ∃ wire, writeFrame bytes = .ok wire
  | .mesh _ packet => ∃ received, ReadFrom packet received
  | .answer _ => True

def RelayAction.Fits : RelayAction → Prop
  | .read _ (.ok frame) => Receivable .stream frame
  | .meshDelivery packet => packet.transport = .stream ∧ ∃ received, ReadFrom packet received
  | _ => True

structure StreamFits (relay : StreamRelay) : Prop where
  clients : ∀ client ∈ relay.clients, client.phase.Fits
  emitted : ∀ emission ∈ relay.emitted, emission.Fits

theorem StreamFits.initial (hasMesh : Bool) : StreamFits (StreamRelay.initial hasMesh) :=
  ⟨nofun, nofun⟩

theorem StreamFits.setPhase {relay : StreamRelay} (fits : StreamFits relay) (phase : Phase)
    (phaseFits : phase.Fits) (index connId : Nat) :
    StreamFits (relay.setPhase index connId phase) := by
  refine ⟨?_, fits.emitted⟩
  intro client member
  rcases List.mem_or_eq_of_mem_set member with old | new
  · exact fits.clients client old
  · rw [new]
    exact phaseFits

theorem firstPhase_fits (frame : Except String (List UInt8)) : (firstPhase frame).Fits := by
  unfold firstPhase
  cases frame with
  | error error => trivial
  | ok bytes =>
      dsimp only
      rw [parsePacket_eq]
      split
      · rename_i panic
        cases panic
      · trivial
      · trivial
      · trivial

theorem nextPhase_fits (nodeId : String) {frame : Except String (List UInt8)}
    (received : ∀ bytes, frame = .ok bytes → Receivable .stream bytes) :
    (nextPhase nodeId frame).Fits := by
  unfold nextPhase
  cases frame with
  | error error => trivial
  | ok bytes =>
      dsimp only
      split
      · rename_i panic
        rw [parsePacket_eq] at panic
        cases panic
      · trivial
      · trivial
      · rename_i fromId toId payload parsed
        split
        · trivial
        · rename_i sameId
          rw [ne_eq, not_not] at sameId
          subst sameId
          exact ⟨bytes, received bytes rfl, parsed⟩

theorem StreamRelay.deliverLocal_of_readFrom (relay : StreamRelay) {packet : Mesh.Packet}
    {received : List UInt8} (readFrom : ReadFrom packet received)
    (isStream : packet.transport = .stream) :
    ∃ sent, relay.deliverLocal packet.fromId packet.toId packet.payload = .ok sent ∧
      ∀ target ∈ sent, ∃ wire, writeFrame target.2 = .ok wire := by
  obtain ⟨deliver, delivers⟩ := readFrom.delivers
  have built := delivers.built
  rw [isStream] at built
  obtain ⟨sent, isSent, frames⟩ :=
    deliverLocal_ok relay (buildPacket_eq_ok_iff.mp built).1 packet.toId packet.payload
  refine ⟨sent, isSent, ?_⟩
  intro target member
  have same := (frames target member).symm.trans built
  rw [Except.ok.injEq] at same
  rw [same]
  exact delivers.written

theorem StreamFits.emit {relay : StreamRelay} (fits : StreamFits relay) {new : List Emission}
    (newFits : ∀ emission ∈ new, emission.Fits) :
    StreamFits { relay with emitted := relay.emitted ++ new } := by
  refine ⟨fits.clients, ?_⟩
  intro emission member
  rcases List.mem_append.mp member with old | isNew
  · exact fits.emitted emission old
  · exact newFits emission isNew

theorem StreamFits.deliver {relay : StreamRelay} (fits : StreamFits relay) {index connId : Nat}
    {nodeId toId : String} {payload : List UInt8}
    (atIndex : relay.clients[index]? = some ⟨connId, .delivering nodeId toId payload⟩) :
    StreamFits (relay.step (.deliver index)) ∧
      (relay.step (.deliver index)).clients[index]? = some ⟨connId, .serving nodeId⟩ := by
  obtain ⟨received, readFrom⟩ := fits.clients _ (List.mem_of_getElem? atIndex)
  obtain ⟨sent, isSent, frames⟩ := relay.deliverLocal_of_readFrom readFrom rfl
  dsimp only [StreamRelay.step]
  rw [atIndex]
  dsimp only
  rw [isSent]
  constructor
  · refine (fits.setPhase (Phase.serving nodeId) trivial index connId).emit ?_
    intro emission member
    unfold StreamRelay.emissions at member
    rcases List.mem_append.mp member with isFrame | isMesh
    · obtain ⟨target, isTarget, rfl⟩ := List.mem_map.mp isFrame
      exact frames target isTarget
    · split at isMesh
      · rw [List.mem_singleton.mp isMesh]
        exact ⟨received, readFrom⟩
      · cases isMesh
  · exact List.getElem?_set_self (List.getElem?_eq_some_iff.mp atIndex).1

theorem StreamFits.step {relay : StreamRelay} (fits : StreamFits relay) {action : RelayAction}
    (actionFits : action.Fits) : StreamFits (relay.step action) := by
  cases action with
  | accept =>
      refine ⟨?_, fits.emitted⟩
      intro client member
      rcases List.mem_append.mp member with old | new
      · exact fits.clients client old
      · rw [List.mem_singleton.mp new]
        trivial
  | read index frame =>
      dsimp only [StreamRelay.step]
      split
      · rename_i connId _
        have moved := fits.setPhase _ (firstPhase_fits frame) index connId
        split
        · rename_i nodeId isRegistering
          rw [isRegistering] at moved
          exact moved
        · exact ⟨moved.clients, moved.emitted⟩
      · rename_i connId nodeId _
        refine fits.setPhase _ (nextPhase_fits nodeId ?_) index connId
        intro bytes isFrame
        subst isFrame
        exact actionFits
      · exact fits
  | register index =>
      dsimp only [StreamRelay.step]
      split
      · rename_i connId nodeId _
        have moved := fits.setPhase (Phase.serving nodeId) trivial index connId
        exact ⟨moved.clients, moved.emitted⟩
      · exact fits
  | deliver index =>
      by_cases ready : ∃ connId nodeId toId payload,
          relay.clients[index]? = some ⟨connId, .delivering nodeId toId payload⟩
      · obtain ⟨connId, nodeId, toId, payload, atIndex⟩ := ready
        exact (fits.deliver atIndex).1
      · dsimp only [StreamRelay.step]
        split
        · rename_i connId nodeId toId payload atIndex
          exact absurd ⟨connId, nodeId, toId, payload, atIndex⟩ ready
        · exact fits
  | leave index =>
      dsimp only [StreamRelay.step]
      split
      · rename_i connId nodeId _
        have moved := fits.setPhase (Phase.returned (.ok ())) trivial index connId
        exact ⟨moved.clients, moved.emitted⟩
      · exact fits
  | writeFailed connId => exact ⟨fits.clients, fits.emitted⟩
  | meshDelivery packet =>
      obtain ⟨isStream, received, readFrom⟩ := actionFits
      obtain ⟨sent, isSent, frames⟩ := relay.deliverLocal_of_readFrom readFrom isStream
      dsimp only [StreamRelay.step]
      rw [isSent]
      dsimp only
      rw [List.append_assoc]
      refine fits.emit ?_
      intro emission member
      rcases List.mem_append.mp member with isFrame | isAnswer
      · obtain ⟨target, isTarget, rfl⟩ := List.mem_map.mp isFrame
        exact frames target isTarget
      · rw [List.mem_singleton.mp isAnswer]
        trivial

/-! ### The UDP relays -/

/-- The receive loop ends only when the socket fails. -/
structure UdpFits (relay : UdpRelay) : Prop where
  traced : UdpTraced relay
  running : relay.phase ≠ .panicked
  returned : ∀ error, relay.phase = .returned error →
    ∃ reason, error = "udp relay recv failed: " ++ reason

theorem UdpFits.initial (hasMesh : Bool) : UdpFits (UdpRelay.initial hasMesh) :=
  ⟨UdpTraced.initial hasMesh, nofun, nofun⟩

theorem readFrom_of_datagram {datagram : List UInt8} {fromId toId : String}
    {payload : List UInt8}
    (parsed : parsePacket udpMagic (datagram.take udpBufferLen) =
      .ok (some (.send fromId toId payload))) :
    ReadFrom { transport := .udp, fromId := fromId, toId := toId, payload := payload }
      (datagram.take udpBufferLen) :=
  ⟨⟨datagram, rfl⟩, parsed⟩

theorem UdpTraced.deliver {relay : UdpRelay} (traced : UdpTraced relay) {datagram : List UInt8}
    {fromId toId : String} {payload : List UInt8}
    (atPhase : relay.phase = .delivering datagram fromId toId payload) (accepted : Bool) :
    (relay.step (.deliver accepted)).phase = .receiving := by
  have parsed := traced.command datagram (.send fromId toId payload) (by rw [atPhase]; rfl)
  obtain ⟨deliver, delivers⟩ := (readFrom_of_datagram parsed).delivers
  have built : buildPacket udpMagic typeDeliver fromId "" payload = .ok deliver := delivers.built
  have isSent : ∃ sent, relay.deliverLocal fromId toId payload accepted = .ok sent := by
    unfold UdpRelay.deliverLocal
    cases relay.peers.lookup toId with
    | none => exact ⟨none, rfl⟩
    | some peer =>
        dsimp only
        rw [built]
        exact ⟨_, rfl⟩
  obtain ⟨sent, isSent⟩ := isSent
  dsimp only [UdpRelay.step]
  rw [atPhase]
  dsimp only
  rw [isSent]

theorem receivedPhase_fits (outcome : Except String (List UInt8 × SocketAddr)) :
    receivedPhase outcome ≠ .panicked ∧
      ∀ error, receivedPhase outcome = .returned error →
        ∃ reason, error = "udp relay recv failed: " ++ reason := by
  unfold receivedPhase
  split
  · rename_i reason
    refine ⟨nofun, ?_⟩
    intro error isError
    cases isError
    exact ⟨reason, rfl⟩
  · rw [parsePacket_eq]
    split
    · rename_i panic
      cases panic
    · exact ⟨nofun, nofun⟩
    · exact ⟨nofun, nofun⟩

theorem UdpFits.step {relay : UdpRelay} (fits : UdpFits relay) (action : UdpAction) :
    UdpFits (relay.step action) := by
  suffices phases : (relay.step action).phase ≠ .panicked ∧
      ∀ error, (relay.step action).phase = .returned error →
        ∃ reason, error = "udp relay recv failed: " ++ reason from
    ⟨fits.traced.step action, phases.1, phases.2⟩
  have same := And.intro fits.running fits.returned
  cases action with
  | receive outcome =>
      dsimp only [UdpRelay.step]
      split
      · exact receivedPhase_fits outcome
      · exact same
  | upsert now =>
      dsimp only [UdpRelay.step]
      split
      · exact ⟨nofun, nofun⟩
      · exact ⟨nofun, nofun⟩
      · exact same
  | deliver accepted =>
      cases atPhase : relay.phase with
      | delivering datagram fromId toId payload =>
          rw [fits.traced.deliver atPhase accepted]
          exact ⟨nofun, nofun⟩
      | receiving => simpa only [UdpRelay.step, atPhase] using same
      | upserting datagram packet addr => simpa only [UdpRelay.step, atPhase] using same
      | returned error => simpa only [UdpRelay.step, atPhase] using same
      | panicked => exact absurd atPhase fits.running
  | cleanup now => exact same
  | meshDelivery packet accepted =>
      dsimp only [UdpRelay.step]
      split
      · exact same
      · split
        · exact same
        · exact same
        · exact same

/-! ### Every run -/

/-- The relays are in order, and the mesh carries packets that they have received. -/
structure Fleet.Sound (base64 : Mesh.Base64) (maxHops : String → Nat) (fleet : Fleet) :
    Prop where
  stream : ∀ server, StreamFits (fleet.stream server)
  udp : ∀ server, UdpFits (fleet.udp server)
  world : Mesh.Faithful base64 maxHops
    (fun given => ∃ received, ReadFrom given.packet received) fleet.world

theorem Fleet.Fresh.sound {fleet : Fleet} (fresh : fleet.Fresh) (base64 : Mesh.Base64) :
    fleet.Sound base64 (fun server => (fleet.world.server server).maxHops) := by
  refine ⟨?_, ?_, fresh.world.faithful _⟩
  · intro server
    obtain ⟨hasMesh, isInitial⟩ := fresh.stream server
    rw [isInitial]
    exact StreamFits.initial hasMesh
  · intro server
    obtain ⟨hasMesh, isInitial⟩ := fresh.udp server
    rw [isInitial]
    exact UdpFits.initial hasMesh

section

variable {base64 : Mesh.Base64} {maxHops : String → Nat} {fleet : Fleet}

theorem Fleet.Sound.updateStream (sound : fleet.Sound base64 maxHops) (server : String)
    {action : RelayAction} (actionFits : action.Fits) :
    (fleet.updateStream server action).Sound base64 maxHops := by
  refine ⟨?_, sound.udp, sound.world⟩
  intro other
  unfold Fleet.updateStream
  dsimp only
  by_cases here : other = server
  · subst here
    rw [Function.update_self]
    exact (sound.stream other).step actionFits
  · rw [Function.update_of_ne here]
    exact sound.stream other

theorem Fleet.Sound.updateUdp (sound : fleet.Sound base64 maxHops) (server : String)
    (action : UdpAction) : (fleet.updateUdp server action).Sound base64 maxHops := by
  refine ⟨sound.stream, ?_, sound.world⟩
  intro other
  unfold Fleet.updateUdp
  dsimp only
  by_cases here : other = server
  · subst here
    rw [Function.update_self]
    exact (sound.udp other).step action
  · rw [Function.update_of_ne here]
    exact sound.udp other

theorem StreamInput.action_fits (input : StreamInput) : input.action.Fits := by
  cases input with
  | read index bytes =>
      dsimp only [StreamInput.action]
      split
      · trivial
      · rename_i frame rest read
        exact ⟨bytes, rest, read⟩
  | accept => trivial
  | readFailed index error => trivial
  | register index => trivial
  | deliver index => trivial
  | leave index => trivial
  | writeFailed connId => trivial

theorem Fleet.Sound.toMesh (sound : fleet.Sound base64 maxHops) {server : String}
    {packet : Mesh.Packet} (given : packet ∈ fleet.toMesh server) :
    ∃ received, ReadFrom packet received := by
  unfold Fleet.toMesh at given
  rcases List.mem_append.mp given with byStream | byUdp
  · obtain ⟨emission, member, isPacket⟩ := List.mem_filterMap.mp byStream
    have fits := (sound.stream server).emitted emission member
    cases emission with
    | mesh reader carried =>
        cases isPacket
        exact fits
    | frame reader target bytes => cases isPacket
    | answer delivered => cases isPacket
  · obtain ⟨emission, member, isPacket⟩ := List.mem_filterMap.mp byUdp
    cases emission with
    | mesh cause carried =>
        cases isPacket
        obtain ⟨fromId, toId, payload, parsed, carries⟩ :=
          (sound.udp server).traced.emitted _ member cause rfl
        rw [show packet = _ from carries]
        exact ⟨_, readFrom_of_datagram parsed⟩
    | datagram cause target bytes => cases isPacket
    | answer delivered => cases isPacket

theorem Fleet.Sound.turn (roundTrips : base64.RoundTrips) (sound : fleet.Sound base64 maxHops)
    {turn : Mesh.Turn}
    (isNew : ∀ given, turn.origination = some given → ∃ received, ReadFrom given.packet received) :
    Fleet.Sound base64 maxHops { fleet with world := fleet.world.turn base64 turn } :=
  ⟨sound.stream, sound.udp, sound.world.step roundTrips isNew⟩

theorem Fleet.Sound.step (roundTrips : base64.RoundTrips) (sound : fleet.Sound base64 maxHops)
    (action : FleetAction) : (fleet.step base64 action).Sound base64 maxHops := by
  cases action with
  | stream server input => exact sound.updateStream server input.action_fits
  | udp server input => exact sound.updateUdp server input.action
  | originate server index messageId scan rememberAt lookupAt =>
      dsimp only [Fleet.step]
      split
      · exact sound
      · rename_i packet atIndex
        refine sound.turn roundTrips ?_
        intro given isGiven
        cases isGiven
        exact sound.toMesh (List.mem_of_getElem? atIndex)
  | mesh turn =>
      dsimp only [Fleet.step]
      split
      · exact sound
      · rename_i notGiven
        refine sound.turn roundTrips ?_
        intro given isGiven
        rw [notGiven] at isGiven
        cases isGiven
  | handOver index accepted =>
      dsimp only [Fleet.step]
      split
      · exact sound
      · rename_i entry atIndex
        obtain ⟨given, received, -, isGiven⟩ :=
          sound.world.handed entry (List.mem_of_getElem? atIndex)
        split
        · rename_i isStream
          rw [← isGiven] at received
          exact sound.updateStream entry.server ⟨isStream, received⟩
        · exact sound.updateUdp entry.server _

end

/-- No relay of the fleet stops on account of what a client has sent. -/
structure Fleet.Unharmed (fleet : Fleet) : Prop where
  /-- What has crossed the mesh can be delivered like what has not. -/
  crossed : ∀ entry ∈ fleet.world.handed, ∃ received deliver,
    ReadFrom entry.packet received ∧ Delivers entry.packet received deliver
  connection : ∀ server index connId nodeId toId payload,
    (fleet.stream server).clients[index]? = some ⟨connId, .delivering nodeId toId payload⟩ →
    ((fleet.stream server).step (.deliver index)).clients[index]? =
      some ⟨connId, .serving nodeId⟩
  noPanic : ∀ server, ∀ client ∈ (fleet.stream server).clients, client.phase ≠ .panicked
  writer : ∀ server reader target bytes,
    .frame reader target bytes ∈ (fleet.stream server).emitted →
    ∃ wire, writeFrame bytes = .ok wire
  receiveLoop : ∀ server datagram fromId toId payload accepted,
    (fleet.udp server).phase = .delivering datagram fromId toId payload →
    ((fleet.udp server).step (.deliver accepted)).phase = .receiving
  noUdpPanic : ∀ server, (fleet.udp server).phase ≠ .panicked
  /-- The receive loop returns only when the socket fails. -/
  returned : ∀ server error, (fleet.udp server).phase = .returned error →
    ∃ reason, error = "udp relay recv failed: " ++ reason

theorem Fleet.Sound.unharmed {base64 : Mesh.Base64} {maxHops : String → Nat} {fleet : Fleet}
    (sound : fleet.Sound base64 maxHops) : fleet.Unharmed where
  crossed := by
    intro entry member
    obtain ⟨given, ⟨received, readFrom⟩, -, isGiven⟩ := sound.world.handed entry member
    rw [← isGiven] at readFrom
    obtain ⟨deliver, delivers⟩ := readFrom.delivers
    exact ⟨received, deliver, readFrom, delivers⟩
  connection := fun server _ _ _ _ _ atIndex => ((sound.stream server).deliver atIndex).2
  noPanic := by
    intro server client member isPanicked
    have fits := (sound.stream server).clients client member
    rw [isPanicked] at fits
    exact fits
  writer := fun server _ _ _ member => (sound.stream server).emitted _ member
  receiveLoop := fun server _ _ _ _ accepted atPhase =>
    (sound.udp server).traced.deliver atPhase accepted
  noUdpPanic := fun server => (sound.udp server).running
  returned := fun server => (sound.udp server).returned

/-- Whatever the clients of any servers send, in whatever order the tasks of the relays and
of the mesh run, every packet that was received can be delivered, and no relay stops. -/
theorem clients_cannot_stop_relays (base64 : Mesh.Base64) (roundTrips : base64.RoundTrips)
    (start : Fleet) (fresh : start.Fresh) (actions : List FleetAction) :
    (∀ packet received, ReadFrom packet received → ∃ deliver, Delivers packet received deliver) ∧
      (exec (Fleet.step base64) start actions).Unharmed := by
  refine ⟨fun packet received readFrom => readFrom.delivers, ?_⟩
  have sound := exec_invariant (Fleet.step base64)
    (Fleet.Sound base64 fun server => (start.world.server server).maxHops)
    (fun _ action sound => sound.step roundTrips action) start (fresh.sound base64) actions
  exact sound.unharmed

def sampleFleet : Fleet where
  world := Mesh.linkedMesh [("left", "right")] 4
  stream _ := StreamRelay.initial true
  udp _ := UdpRelay.initial true

def sampleCrossing : List FleetAction :=
  [.udp "left" (.receive (.ok (sampleDatagram 3, sampleSender))), .udp "left" (.upsert 0),
    .udp "left" (.deliver true), .originate "left" 0 "message" Mesh.inOrder 0 0,
    .mesh (.act (.receive 0 Mesh.inOrder 0 0)), .handOver 0 true]

theorem crossing_stops_no_relay :
    (exec (Fleet.step Mesh.standardBase64) sampleFleet sampleCrossing).world.handed.map
        (fun entry => (entry.server, entry.packet.payload)) = [("right", [1, 1, 1])] ∧
      (exec (Fleet.step Mesh.standardBase64) sampleFleet sampleCrossing).Unharmed := by
  refine ⟨by decide +kernel, ?_⟩
  refine (clients_cannot_stop_relays Mesh.standardBase64 Mesh.standardBase64_roundTrips
    sampleFleet ?_ sampleCrossing).2
  exact ⟨⟨rfl, rfl, rfl, rfl⟩, fun _ => ⟨true, rfl⟩, fun _ => ⟨true, rfl⟩⟩

end Lightscale.Relay
