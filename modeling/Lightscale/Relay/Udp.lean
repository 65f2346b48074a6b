/-
The UDP relay: one task for the datagrams of the clients, one for the packets of the mesh,
and one that forgets the clients that have been silent.

A datagram is received into a buffer of fixed length, and the bytes that do not fit are
lost.  The payload of a packet has no length of its own and ends where the received bytes
end, so a datagram that is cut is still a packet, with less of the payload.  Its ids are
never cut: the longest two leave most of the buffer to the payload.
-/

import Mathlib.Data.List.TakeDrop
import Lightscale.Foundation.Execution
import Lightscale.Mesh.Relay
import Lightscale.Relay.Codec

namespace Lightscale.Relay

open Foundation

structure SocketAddr where
  ip : String
  port : UInt16
  deriving DecidableEq

structure Peer where
  addr : SocketAddr
  lastSeen : Nat
  deriving DecidableEq

def peerTtl : Nat := Mesh.seconds 300

def udpBufferLen : Nat := 2048

/-- How far the receive loop of `run_with_mesh` has got with a datagram.  The datagram is
kept as it was sent, for the proofs only. -/
inductive UdpPhase where
  | receiving
  /-- The map is awaited to enter the sender. -/
  | upserting (datagram : List UInt8) (packet : RelayPacket) (addr : SocketAddr)
  /-- The map is awaited to deliver the packet. -/
  | delivering (datagram : List UInt8) (fromId toId : String) (payload : List UInt8)
  | returned (error : String)
  | panicked
  deriving DecidableEq

/-- What the relay gives to others: a datagram to a client, a packet to the mesh, or an
answer to the mesh.  The cause is the datagram of a client that it is on account of. -/
inductive UdpEmission where
  | datagram (cause : Option (List UInt8)) (target : SocketAddr) (bytes : List UInt8)
  | mesh (cause : List UInt8) (packet : Mesh.Packet)
  | answer (delivered : Bool)
  deriving DecidableEq

structure UdpRelay where
  hasMesh : Bool
  peers : Table String Peer
  phase : UdpPhase
  emitted : List UdpEmission

def UdpRelay.initial (hasMesh : Bool) : UdpRelay where
  hasMesh := hasMesh
  peers := ∅
  phase := .receiving
  emitted := []

def receivedPhase : Except String (List UInt8 × SocketAddr) → UdpPhase
  | .error error => .returned ("udp relay recv failed: " ++ error)
  | .ok (datagram, addr) =>
      match parsePacket udpMagic (datagram.take udpBufferLen) with
      | .error _ => .panicked
      | .ok none => .receiving
      | .ok (some packet) => .upserting datagram packet addr

def upsertPeer (peers : Table String Peer) (nodeId : String) (addr : SocketAddr) (now : Nat) :
    Table String Peer :=
  peers.insert nodeId { addr := addr, lastSeen := now }

/-- The datagram that is sent; the packet is delivered if there is one.  The socket may
refuse it. -/
def UdpRelay.deliverLocal (relay : UdpRelay) (fromId toId : String) (payload : List UInt8)
    (accepted : Bool) : Except String (Option (SocketAddr × List UInt8)) :=
  match relay.peers.lookup toId with
  | none => .ok none
  | some peer =>
      (buildPacket udpMagic typeDeliver fromId "" payload).map fun deliver =>
        if accepted then some (peer.addr, deliver) else none

inductive UdpAction where
  | receive (outcome : Except String (List UInt8 × SocketAddr))
  | upsert (now : Nat)
  | deliver (accepted : Bool)
  | cleanup (now : Nat)
  /-- A packet of the mesh is delivered. -/
  | meshDelivery (packet : Mesh.Packet) (accepted : Bool)
  deriving DecidableEq

def UdpRelay.emissions (relay : UdpRelay) (datagram : List UInt8) (fromId toId : String)
    (payload : List UInt8) : Option (SocketAddr × List UInt8) → List UdpEmission
  | some (target, bytes) => [.datagram (some datagram) target bytes]
  | none =>
      if relay.hasMesh = true then
        [.mesh datagram
          { transport := .udp, fromId := fromId, toId := toId, payload := payload }]
      else []

/-- One step of one task.  A step that the task is not ready for changes nothing. -/
def UdpRelay.step (relay : UdpRelay) : UdpAction → UdpRelay
  | .receive outcome =>
      match relay.phase with
      | .receiving => { relay with phase := receivedPhase outcome }
      | _ => relay
  | .upsert now =>
      match relay.phase with
      | .upserting _ (.register nodeId) addr =>
          { relay with
            phase := .receiving
            peers := upsertPeer relay.peers nodeId addr now }
      | .upserting datagram (.send fromId toId payload) addr =>
          { relay with
            phase := .delivering datagram fromId toId payload
            peers := upsertPeer relay.peers fromId addr now }
      | _ => relay
  | .deliver accepted =>
      match relay.phase with
      | .delivering datagram fromId toId payload =>
          match relay.deliverLocal fromId toId payload accepted with
          | .error error => { relay with phase := .returned error }
          | .ok sent =>
              { relay with
                phase := .receiving
                emitted := relay.emitted ++
                  relay.emissions datagram fromId toId payload sent }
      | _ => relay
  | .cleanup now =>
      { relay with
        peers := relay.peers.retain fun _ peer => decide (now - peer.lastSeen < peerTtl) }
  | .meshDelivery packet accepted =>
      if packet.transport ≠ .udp then { relay with emitted := relay.emitted ++ [.answer false] }
      else
        match relay.deliverLocal packet.fromId packet.toId packet.payload accepted with
        | .error _ => { relay with emitted := relay.emitted ++ [.answer false] }
        | .ok none => { relay with emitted := relay.emitted ++ [.answer false] }
        | .ok (some (target, bytes)) =>
            { relay with
              emitted := relay.emitted ++ [.datagram none target bytes, .answer true] }

/-! ### What one step does -/

def UdpPhase.command : UdpPhase → Option (List UInt8 × RelayPacket)
  | .upserting datagram packet _ => some (datagram, packet)
  | .delivering datagram fromId toId payload => some (datagram, .send fromId toId payload)
  | _ => none

def UdpEmission.cause : UdpEmission → Option (List UInt8)
  | .datagram cause _ _ => cause
  | .mesh cause _ => some cause
  | .answer _ => none

def UdpEmission.Carries (fromId toId : String) (payload : List UInt8) : UdpEmission → Prop
  | .datagram _ _ bytes => bytes = layout udpMagic typeDeliver 0 fromId "" payload
  | .mesh _ packet =>
      packet = { transport := .udp, fromId := fromId, toId := toId, payload := payload }
  | .answer _ => False

inductive UdpStep (relay after : UdpRelay) : Prop where
  /-- No datagram is begun, and nothing is emitted on account of one. -/
  | kept (command : ∀ command, after.phase.command = some command →
        relay.phase.command = some command)
      (new : List UdpEmission) (emitted : after.emitted = relay.emitted ++ new)
      (noCause : ∀ emission ∈ new, emission.cause = none)
  | received (datagram : List UInt8) (packet : RelayPacket)
      (parsed : parsePacket udpMagic (datagram.take udpBufferLen) = .ok (some packet))
      (command : after.phase.command = some (datagram, packet))
      (emitted : after.emitted = relay.emitted)
  | delivered (datagram : List UInt8) (fromId toId : String) (payload : List UInt8)
      (command : relay.phase.command = some (datagram, .send fromId toId payload))
      (finished : after.phase.command = none)
      (new : List UdpEmission) (emitted : after.emitted = relay.emitted ++ new)
      (carries : ∀ emission ∈ new, emission.cause = some datagram ∧
        emission.Carries fromId toId payload)

theorem UdpStep.silent {relay after : UdpRelay}
    (command : ∀ command, after.phase.command = some command →
      relay.phase.command = some command)
    (emitted : after.emitted = relay.emitted) : UdpStep relay after :=
  .kept command [] (by rw [emitted, List.append_nil]) nofun

theorem receivedPhase_command {outcome : Except String (List UInt8 × SocketAddr)}
    {datagram : List UInt8} {packet : RelayPacket}
    (command : (receivedPhase outcome).command = some (datagram, packet)) :
    parsePacket udpMagic (datagram.take udpBufferLen) = .ok (some packet) := by
  unfold receivedPhase at command
  split at command
  · cases command
  · split at command
    · cases command
    · cases command
    · rename_i parsed
      cases command
      exact parsed

theorem UdpRelay.deliverLocal_eq_some {relay : UdpRelay} {fromId toId : String}
    {payload bytes : List UInt8} {accepted : Bool} {target : SocketAddr}
    (sent : relay.deliverLocal fromId toId payload accepted = .ok (some (target, bytes))) :
    ∃ peer, relay.peers.lookup toId = some peer ∧ peer.addr = target ∧
      bytes = layout udpMagic typeDeliver 0 fromId "" payload := by
  unfold UdpRelay.deliverLocal at sent
  cases found : relay.peers.lookup toId with
  | none =>
      rw [found] at sent
      cases sent
  | some peer =>
      rw [found] at sent
      dsimp only at sent
      cases built : buildPacket udpMagic typeDeliver fromId "" payload with
      | error error =>
          rw [built] at sent
          cases sent
      | ok deliver =>
          rw [built] at sent
          simp only [Except.map, Except.ok.injEq, Option.ite_none_right_eq_some, Option.some.injEq,
            Prod.mk.injEq] at sent
          obtain ⟨_, isTarget, rfl⟩ := sent
          exact ⟨peer, rfl, isTarget, (buildPacket_eq_ok_iff.mp built).2.2⟩

theorem UdpRelay.emissions_carry {relay : UdpRelay} {datagram : List UInt8}
    {fromId toId : String} {payload : List UInt8} {accepted : Bool}
    {sent : Option (SocketAddr × List UInt8)}
    (wasSent : relay.deliverLocal fromId toId payload accepted = .ok sent) :
    ∀ emission ∈ relay.emissions datagram fromId toId payload sent,
      emission.cause = some datagram ∧ emission.Carries fromId toId payload := by
  intro emission member
  unfold UdpRelay.emissions at member
  split at member
  · rename_i target bytes
    rw [List.mem_singleton.mp member]
    obtain ⟨peer, _, _, contents⟩ := UdpRelay.deliverLocal_eq_some wasSent
    exact ⟨rfl, contents⟩
  · split at member
    · rw [List.mem_singleton.mp member]
      exact ⟨rfl, rfl⟩
    · cases member

theorem udpStep_step (relay : UdpRelay) (action : UdpAction) :
    UdpStep relay (relay.step action) := by
  cases action with
  | receive outcome =>
      dsimp only [UdpRelay.step]
      split
      · cases isCommand : (receivedPhase outcome).command with
        | none =>
            refine UdpStep.silent ?_ rfl
            intro command present
            change (receivedPhase outcome).command = some command at present
            rw [isCommand] at present
            cases present
        | some command =>
            exact .received command.1 command.2 (receivedPhase_command isCommand) isCommand rfl
      · exact UdpStep.silent (fun _ present => present) rfl
  | upsert now =>
      dsimp only [UdpRelay.step]
      split
      · exact UdpStep.silent nofun rfl
      · rename_i datagram fromId toId payload addr atPhase
        refine UdpStep.silent ?_ rfl
        intro command present
        rw [atPhase]
        exact present
      · exact UdpStep.silent (fun _ present => present) rfl
  | deliver accepted =>
      dsimp only [UdpRelay.step]
      split
      · rename_i datagram fromId toId payload atPhase
        split
        · exact UdpStep.silent nofun rfl
        · rename_i sent wasSent
          refine .delivered datagram fromId toId payload ?_ rfl _ rfl
            (UdpRelay.emissions_carry wasSent)
          rw [atPhase]
          rfl
      · exact UdpStep.silent (fun _ present => present) rfl
  | cleanup now => exact UdpStep.silent (fun _ present => present) rfl
  | meshDelivery packet accepted =>
      dsimp only [UdpRelay.step]
      split
      · exact .kept (fun _ present => present) [.answer false] rfl (by simp [UdpEmission.cause])
      · split
        · exact .kept (fun _ present => present) [.answer false] rfl
            (by simp [UdpEmission.cause])
        · exact .kept (fun _ present => present) [.answer false] rfl
            (by simp [UdpEmission.cause])
        · exact .kept (fun _ present => present) _ rfl (by simp [UdpEmission.cause])

/-! ### Where the emissions come from -/

/-- What is at hand and what was emitted was read from the part of a datagram that fits into
the buffer. -/
structure UdpTraced (relay : UdpRelay) : Prop where
  command : ∀ datagram packet, relay.phase.command = some (datagram, packet) →
    parsePacket udpMagic (datagram.take udpBufferLen) = .ok (some packet)
  emitted : ∀ emission ∈ relay.emitted, ∀ datagram, emission.cause = some datagram →
    ∃ fromId toId payload,
      parsePacket udpMagic (datagram.take udpBufferLen) =
        .ok (some (.send fromId toId payload)) ∧
      emission.Carries fromId toId payload

theorem UdpTraced.initial (hasMesh : Bool) : UdpTraced (UdpRelay.initial hasMesh) :=
  ⟨nofun, nofun⟩

theorem UdpTraced.step {relay : UdpRelay} (traced : UdpTraced relay) (action : UdpAction) :
    UdpTraced (relay.step action) := by
  cases udpStep_step relay action with
  | kept command new emitted noCause =>
      refine ⟨fun datagram packet present => traced.command _ _ (command _ present), ?_⟩
      rw [emitted]
      intro emission member datagram isCause
      rcases List.mem_append.mp member with old | isNew
      · exact traced.emitted emission old datagram isCause
      · rw [noCause emission isNew] at isCause
        cases isCause
  | received datagram packet parsed command emitted =>
      refine ⟨?_, by rw [emitted]; exact traced.emitted⟩
      intro other otherPacket present
      rw [command, Option.some.injEq, Prod.mk.injEq] at present
      rw [← present.1, ← present.2]
      exact parsed
  | delivered datagram fromId toId payload command finished new emitted carries =>
      refine ⟨?_, ?_⟩
      · intro other packet present
        rw [finished] at present
        cases present
      · rw [emitted]
        intro emission member other isCause
        rcases List.mem_append.mp member with old | isNew
        · exact traced.emitted emission old other isCause
        · obtain ⟨hasCause, isCarried⟩ := carries emission isNew
          rw [hasCause, Option.some.injEq] at isCause
          subst isCause
          exact ⟨fromId, toId, payload, traced.command datagram _ command, isCarried⟩

theorem udpTraced (hasMesh : Bool) (actions : List UdpAction) :
    UdpTraced (exec UdpRelay.step (UdpRelay.initial hasMesh) actions) :=
  exec_invariant UdpRelay.step UdpTraced (fun _ action traced => traced.step action)
    (UdpRelay.initial hasMesh) (UdpTraced.initial hasMesh) actions

/-! ### Datagrams that are cut -/

/-- A packet that is cut behind its ids is the packet with a part of the payload. -/
theorem layout_cut {magic : List UInt8} (four : magic.length = 4) (msgType reserved : UInt8)
    {fromId toId : String} (payload : List UInt8) {kept : Nat}
    (long : 8 + (utf8Bytes fromId).length + (utf8Bytes toId).length ≤ kept) :
    (layout magic msgType reserved fromId toId payload).take kept =
      layout magic msgType reserved fromId toId
        (payload.take (kept - (8 + (utf8Bytes fromId).length + (utf8Bytes toId).length))) := by
  have headLength := layout_length four msgType reserved fromId toId []
  have split : ∀ rest, layout magic msgType reserved fromId toId rest =
      layout magic msgType reserved fromId toId [] ++ rest := by
    intro rest
    unfold layout
    rw [List.append_nil]
  rw [List.length_nil, Nat.add_zero] at headLength
  rw [split payload, List.take_append, List.take_of_length_le (by omega), headLength]
  exact (split _).symm

/-- The part of a payload that fits into the buffer behind the ids. -/
def keptPayload (fromId toId : String) (payload : List UInt8) : List UInt8 :=
  payload.take
    (udpBufferLen - (8 + (utf8Bytes fromId).length + (utf8Bytes toId).length))

theorem parsePacket_of_datagram {fromId toId : String} (fromIs : IsId fromId) (toIs : IsId toId)
    (reserved : UInt8) (payload : List UInt8) :
    parsePacket udpMagic
        ((layout udpMagic typeSend reserved fromId toId payload).take udpBufferLen) =
      .ok (some (.send fromId toId (keptPayload fromId toId payload))) := by
  have fromShort := fromIs.short
  have toShort := toIs.short
  unfold maxIdLen at fromShort toShort
  refine (parsePacket_send_iff rfl _ _ _ _).mpr ⟨fromIs, toIs, reserved, ?_⟩
  exact layout_cut rfl typeSend reserved payload (by unfold udpBufferLen; omega)

theorem keptPayload_eq_iff {fromId toId : String} (fromIs : IsId fromId) (toIs : IsId toId)
    (reserved : UInt8) (payload : List UInt8) :
    keptPayload fromId toId payload = payload ↔
      (layout udpMagic typeSend reserved fromId toId payload).length ≤ udpBufferLen := by
  have fromShort := fromIs.short
  have toShort := toIs.short
  unfold maxIdLen at fromShort toShort
  unfold keptPayload udpBufferLen
  rw [List.take_eq_self_iff, layout_length rfl]
  omega

theorem UdpEmission.Carries.payload_eq {emission : UdpEmission} {fromId toId : String}
    {left right : List UInt8} (carriesLeft : emission.Carries fromId toId left)
    (carriesRight : emission.Carries fromId toId right) : left = right := by
  cases emission with
  | datagram cause target bytes =>
      have same := carriesLeft.symm.trans carriesRight
      unfold layout at same
      exact List.append_cancel_left same
  | mesh cause packet => exact congrArg Mesh.Packet.payload (carriesLeft.symm.trans carriesRight)
  | answer delivered => exact carriesLeft.elim

/-- In every run, whatever is emitted on account of a datagram with a send packet carries
its ids and the part of its payload that fits into the buffer, which is the payload exactly
if the datagram is no longer than the buffer. -/
theorem payload_kept_iff (hasMesh : Bool) (actions : List UdpAction) (emission : UdpEmission)
    (emitted : emission ∈ (exec UdpRelay.step (UdpRelay.initial hasMesh) actions).emitted)
    (reserved : UInt8) (fromId toId : String) (payload : List UInt8) (fromIs : IsId fromId)
    (toIs : IsId toId)
    (onAccount : emission.cause = some (layout udpMagic typeSend reserved fromId toId payload)) :
    emission.Carries fromId toId (keptPayload fromId toId payload) ∧
      (emission.Carries fromId toId payload ↔
        (layout udpMagic typeSend reserved fromId toId payload).length ≤ udpBufferLen) := by
  obtain ⟨sender, target, carried, parsed, carries⟩ :=
    (udpTraced hasMesh actions).emitted emission emitted _ onAccount
  rw [parsePacket_of_datagram fromIs toIs, Except.ok.injEq, Option.some.injEq,
    RelayPacket.send.injEq] at parsed
  obtain ⟨rfl, rfl, rfl⟩ := parsed
  rw [← keptPayload_eq_iff fromIs toIs reserved payload]
  refine ⟨carries, ?_, ?_⟩
  · intro whole
    exact carries.payload_eq whole
  · intro fits
    rw [fits] at carries
    exact carries

def sampleSender : SocketAddr := ⟨"192.0.2.1", 4000⟩

def sampleReceiver : SocketAddr := ⟨"192.0.2.2", 4000⟩

def sampleDatagram (count : Nat) : List UInt8 :=
  layout udpMagic typeSend 0 "a" "b" (List.replicate count 1)

def sampleUdpRun (count : Nat) : List UdpAction :=
  [.receive (.ok (layout udpMagic typeRegister 0 "b" "" [], sampleReceiver)), .upsert 0,
    .receive (.ok (sampleDatagram count, sampleSender)), .upsert 0, .deliver true]

/-- A datagram that fits is delivered with its payload. -/
theorem fitting_payload_kept :
    ∃ emission ∈ (exec UdpRelay.step (UdpRelay.initial false) (sampleUdpRun 3)).emitted,
      emission.Carries "a" "b" (List.replicate 3 1) := by
  refine ⟨.datagram (some (sampleDatagram 3)) sampleReceiver
    (layout udpMagic typeDeliver 0 "a" "" (List.replicate 3 1)), by decide +kernel, ?_⟩
  exact (payload_kept_iff false (sampleUdpRun 3) _ (by decide +kernel) 0 "a" "b"
    (List.replicate 3 1) ⟨by decide, by decide⟩ ⟨by decide, by decide⟩ rfl).2.mpr (by decide)

/-- A datagram that is one byte longer than the buffer is delivered with the last byte of
its payload missing. -/
theorem long_payload_cut :
    (sampleDatagram 2039).length = 2049 ∧
      .datagram (some (sampleDatagram 2039)) sampleReceiver
        (layout udpMagic typeDeliver 0 "a" "" (List.replicate 2038 1)) ∈
        (exec UdpRelay.step (UdpRelay.initial false) (sampleUdpRun 2039)).emitted ∧
      ∀ emission ∈ (exec UdpRelay.step (UdpRelay.initial false) (sampleUdpRun 2039)).emitted,
        ¬ emission.Carries "a" "b" (List.replicate 2039 1) := by
  have emitted : (exec UdpRelay.step (UdpRelay.initial false) (sampleUdpRun 2039)).emitted =
      [.datagram (some (sampleDatagram 2039)) sampleReceiver
        (layout udpMagic typeDeliver 0 "a" "" (List.replicate 2038 1))] := by
    decide +kernel
  rw [emitted]
  refine ⟨by decide +kernel, List.mem_singleton_self _, ?_⟩
  intro emission member
  rw [List.mem_singleton.mp member]
  intro same
  have lengths := congrArg List.length same
  rw [layout_length rfl, layout_length rfl, List.length_replicate, List.length_replicate] at lengths
  omega

end Lightscale.Relay
