/-
Where the UDP relay sends a packet.

Every datagram of a client claims an id for the address that it came from: a registration the
id it names, a packet the id of its sender.  Nothing else is asked of the client.  The relay
sends a packet to the address that was the last to claim the target's id, unless that claim has
expired, so whoever claims an id receives what is sent to it from then on.
-/

import Lightscale.Relay.Udp

namespace Lightscale.Relay

open Foundation

section

variable {past : List (Event UdpRelay UdpAction)} {event : Event UdpRelay UdpAction}
  {nodeId : String} {peer : Peer}

end

/-! ### One step -/

section

variable {relay : UdpRelay} {nodeId : String} {peer : Peer}

end

/-! ### What is sent -/

section

variable {relay : UdpRelay} {cause : Option (List UInt8)} {target : SocketAddr}
  {bytes : List UInt8}

end

/-! ### Every run -/

/-- Another client claims the id of `b`, and what `a` sends to `b` goes to it. -/
example : (exec UdpRelay.step (UdpRelay.initial false)
    (sampleUdpRun 1 ++ [.receive (.ok (layout udpMagic typeRegister 0 "b" "" [], sampleSender)),
      .upsert 1, .receive (.ok (sampleDatagram 1, sampleSender)), .upsert 1,
      .deliver true])).emitted.map (fun emission =>
        match emission with
        | .datagram _ target _ => some target
        | _ => none) = [some sampleReceiver, some sampleSender] := by
  decide +kernel

end Lightscale.Relay
