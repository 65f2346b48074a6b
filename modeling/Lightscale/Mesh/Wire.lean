/-
What the servers of a mesh write on their connections.

A frame is written as one line: its JSON text and a newline.  The other side reads line by line
until the connection closes; the first line must be a hello, and later lines that are no frames
are skipped.  The JSON library and the reader of lines enter as a codec, with what is assumed
of them.

A connection can break off after any byte.  The other side has then handled exactly the frames
whose texts arrived, in the order they were sent.
-/

import Lightscale.Foundation.Documents
import Lightscale.Mesh.Connections
import Lightscale.Mesh.Lineage

namespace Lightscale.Mesh

open Foundation

/-! ### Writing to a connection -/

def writeFrame (wire : LineCodec MeshFrame) (frame : MeshFrame) : List UInt8 :=
  wire.toVec frame ++ [newline]

def connectionBytes (wire : LineCodec MeshFrame) (serverId : String) (frames : List MeshFrame) :
    List UInt8 :=
  (.hello serverId :: frames).flatMap (writeFrame wire)

def MeshFrame.Fits : MeshFrame → Prop
  | .hello _ => True
  | .relay frame => frame.hopsLeft < 2 ^ 8

/-! ### Reading a connection -/

def readLineOf : Option String → ReadLine
  | some text => .line text
  | none => .error

def handledFrames (membership : Membership) : List (Option String) → List MeshFrame
  | [] => []
  | none :: _ => []
  | some line :: rest =>
      match membership.parse line with
      | some frame => frame :: handledFrames membership rest
      | none => handledFrames membership rest

structure Received where
  greeting : Except String String
  frames : List MeshFrame

/-- What a connection makes of the bytes it gets until the other side closes. -/
def receiveBytes (wire : LineCodec MeshFrame) (membership : Membership)
    (expectedPeer : Option String) (bytes : List UInt8) : Received :=
  match wire.lines bytes with
  | [] => { greeting := greet membership expectedPeer true .eof, frames := [] }
  | first :: rest =>
      match greet membership expectedPeer true (readLineOf first) with
      | .error error => { greeting := .error error, frames := [] }
      | .ok peerId => { greeting := .ok peerId, frames := handledFrames membership rest }

theorem connectionBytes_eq (wire : LineCodec MeshFrame) (serverId : String)
    (frames : List MeshFrame) :
    connectionBytes wire serverId frames = wire.streamBytes (.hello serverId :: frames) := rfl

theorem handledFrames_eq (membership : Membership) (lines : List (Option String)) :
    handledFrames membership lines = LineCodec.lineValues membership.parse lines := by
  fun_induction handledFrames membership lines with
  | case1 => rfl
  | case2 => rfl
  | case3 line rest frame parsed ih => rw [LineCodec.lineValues, parsed, ih]
  | case4 line rest parsed ih => rw [LineCodec.lineValues, parsed, ih]

section

variable {wire : LineCodec MeshFrame} {membership : Membership}
  (faithful : wire.Faithful membership.parse MeshFrame.Fits)
  {expectedPeer : Option String} {serverId : String} {frames : List MeshFrame} {count : Nat}

include faithful

theorem receiveBytes_of_short (short : count < (wire.toVec (.hello serverId)).length) :
    ∃ error, receiveBytes wire membership expectedPeer
      ((connectionBytes wire serverId frames).take count) = ⟨.error error, []⟩ := by
  have isFit : MeshFrame.Fits (.hello serverId) := trivial
  unfold receiveBytes
  rw [connectionBytes_eq]
  rcases LineCodec.lines_of_cut faithful isFit frames short with none | ⟨_ | text, one, unread⟩
  · rw [none]
    exact ⟨_, rfl⟩
  · rw [one]
    exact ⟨_, rfl⟩
  · rw [Option.bind_some] at unread
    rw [one]
    simp only [readLineOf, greet, unread]
    exact ⟨_, rfl⟩

theorem receiveBytes_of_hello (allowed : validatePeer membership expectedPeer serverId = .ok ())
    (fits : ∀ frame ∈ frames, frame.Fits)
    (arrived : (wire.toVec (.hello serverId)).length ≤ count) :
    receiveBytes wire membership expectedPeer
        ((connectionBytes wire serverId frames).take count) =
      ⟨.ok serverId,
        wire.arrived frames (count - ((wire.toVec (.hello serverId)).length + 1))⟩ := by
  have isFit : MeshFrame.Fits (.hello serverId) := trivial
  obtain ⟨text, parsed, read⟩ := LineCodec.lines_of_arrived faithful isFit frames arrived
  have greeted : greet membership expectedPeer true (.line text) = .ok serverId := by
    simp only [greet, parsed, allowed]
    rfl
  unfold receiveBytes
  rw [connectionBytes_eq, read]
  dsimp only [readLineOf]
  rw [greeted, handledFrames_eq, LineCodec.lineValues_take faithful fits]

end

/-! ### Frames as lines of JSON

One codec with the assumed properties: a frame is an object with its kind as the first member.
-/

open Format (string unsigned bufferedEnum structJson structValues required splitTag)

def transportFormat : Format MeshTransport :=
  bufferedEnum [("stream", .stream), ("udp", .udp)] fun
    | .stream => "stream"
    | .udp => "udp"

def helloFields : List String := ["server_id"]

def relayFields : List String :=
  ["message_id", "transport", "from_id", "to_id", "payload_b64", "hops_left"]

def readHello (json : Json) : Option MeshFrame :=
  match structValues helloFields json with
  | some [serverId] => (required string serverId).map .hello
  | _ => none

def readRelay (json : Json) : Option MeshFrame :=
  match structValues relayFields json with
  | some [messageId, transport, fromId, toId, payloadB64, hopsLeft] => do
      return .relay {
        messageId := ← required string messageId
        transport := ← required transportFormat transport
        fromId := ← required string fromId
        toId := ← required string toId
        payloadB64 := ← required string payloadB64
        hopsLeft := ← required (unsigned 8) hopsLeft }
  | _ => none

def frameFormat : Format MeshFrame where
  toJson
    | .hello serverId =>
        structJson ("type" :: helloFields) [.text "hello", string.toJson serverId]
    | .relay frame =>
        structJson ("type" :: relayFields)
          [.text "relay", string.toJson frame.messageId, transportFormat.toJson frame.transport,
            string.toJson frame.fromId, string.toJson frame.toId,
            string.toJson frame.payloadB64, (unsigned 8).toJson frame.hopsLeft]
  fromJson json :=
    match splitTag "type" json with
    | some ("hello", content) => readHello content
    | some ("relay", content) => readRelay content
    | _ => none

theorem transportFormat_keeps (transport : MeshTransport) : transportFormat.Keeps transport := by
  cases transport <;> exact Format.bufferedEnum_keeps rfl

theorem frameFormat_keeps {frame : MeshFrame} (fits : frame.Fits) : frameFormat.Keeps frame := by
  cases frame with
  | hello serverId =>
      have name := Format.string_keeps serverId
      refine ⟨Format.whole_structJson (by simp [Json.areWhole, Json.isWhole, name.whole]), ?_⟩
      simp only [frameFormat]
      rw [Format.splitTag_structJson (by decide) rfl]
      simp only [readHello]
      rw [Format.structValues_structJson (by decide) rfl]
      simp [Format.required_keeps name]
  | relay frame =>
      have transport := transportFormat_keeps frame.transport
      have hops := Format.unsigned_keeps fits
      have text := Format.string_keeps
      refine ⟨Format.whole_structJson ?_, ?_⟩
      · simp [Json.areWhole, Json.isWhole, (text _).whole, transport.whole, hops.whole]
      · simp only [frameFormat]
        rw [Format.splitTag_structJson (by decide) rfl]
        simp only [readRelay]
        rw [Format.structValues_structJson (by decide) rfl]
        simp [Format.required_keeps (text _), Format.required_keeps transport,
          Format.required_keeps hops]

theorem frameFormat_closed (frame : MeshFrame) : frameFormat.Closed frame := by
  cases frame <;> exact trivial

theorem frameFormat_faithful :
    frameFormat.lineCodec.Faithful frameFormat.readDocument MeshFrame.Fits :=
  Format.lineCodec_faithful (fun _ => frameFormat_keeps) fun frame _ => frameFormat_closed frame

/-! ### Frames of the mesh -/

def SentBy (base64 : Base64) (start : World) (turns : Nat → Turn) (frame : MeshFrame) : Prop :=
  ∃ count, ∃ transit ∈
    (stateAt (World.turn base64) start turns count).sends base64 (turns count),
    transit.frame = frame

theorem SentBy.lineage {base64 : Base64} (roundTrips : base64.RoundTrips) {start : World}
    (blank : start.Blank) {turns : Nat → Turn} {frame : MeshFrame}
    (sent : SentBy base64 start turns frame) :
    ∃ relayed given turn links, frame = .relay relayed ∧ (turns turn).origination = some given ∧
      Lineage base64 (fun server => (start.server server).maxHops) given relayed links := by
  obtain ⟨count, transit, member, rfl⟩ := sent
  have faithful : Faithful base64 (fun server => (start.server server).maxHops)
      (GivenBefore turns (count + 1)) (stateAt (World.turn base64) start turns count) := by
    refine (stateAt_faithful roundTrips blank turns count).mono ?_
    rintro given ⟨earlier, before, isGiven⟩
    exact ⟨earlier, Nat.lt_succ_of_lt before, isGiven⟩
  have isRelay : ∃ relayed, transit.frame = .relay relayed := by
    cases sending_of_mem_sends member with
    | originated server packet messageId scan rememberAt lookupAt asked sentFrame oneLink =>
        exact ⟨_, sentFrame⟩
    | forwarded index delivered lookupAt entry asked atIndex hopsLeft isTarget sentFrame oneMore =>
        exact ⟨_, sentFrame⟩
  obtain ⟨relayed, isRelay⟩ := isRelay
  obtain ⟨given, ⟨turn, _, isGiven⟩, lineage⟩ :=
    faithful.sends (fun given isGiven => ⟨count, Nat.lt_succ_self count, isGiven⟩) member isRelay
  exact ⟨relayed, given, turn, transit.links, isRelay, isGiven, lineage⟩

/-- Wherever a connection breaks off, the other side has handled the frames of the mesh that
arrived whole, in order and no others, and each still carries a packet given to the mesh. -/
theorem connection_carries_mesh_frames (base64 : Base64) (roundTrips : base64.RoundTrips)
    (start : World) (blank : start.Blank)
    (hops : ∀ server, (start.server server).maxHops < 2 ^ 8) (turns : Nat → Turn)
    (frames : List MeshFrame) (sent : ∀ frame ∈ frames, SentBy base64 start turns frame)
    (wire : LineCodec MeshFrame) (membership : Membership)
    (faithful : wire.Faithful membership.parse MeshFrame.Fits)
    (expectedPeer : Option String) (serverId : String)
    (allowed : validatePeer membership expectedPeer serverId = .ok ()) (count : Nat) :
    let received := receiveBytes wire membership expectedPeer
      ((connectionBytes wire serverId frames).take count)
    let hello := (wire.toVec (.hello serverId)).length
    (count < hello → ∃ error, received = ⟨.error error, []⟩) ∧
      (hello ≤ count →
        received = ⟨.ok serverId, wire.arrived frames (count - (hello + 1))⟩) ∧
      ∀ frame ∈ received.frames, ∃ relayed given turn, frame = .relay relayed ∧
        (turns turn).origination = some given ∧ relayed.messageId = given.messageId ∧
        Carries base64 relayed given.packet := by
  have fits : ∀ frame ∈ frames, frame.Fits := by
    intro frame member
    obtain ⟨relayed, given, turn, links, rfl, _, lineage⟩ := (sent frame member).lineage roundTrips
      blank
    have whole := lineage.hops
    have first := lineage.positive
    have bound := hops given.server
    change relayed.hopsLeft < 2 ^ 8
    omega
  refine ⟨fun short => receiveBytes_of_short faithful short,
    fun arrived => receiveBytes_of_hello faithful allowed fits arrived, ?_⟩
  intro frame member
  have isSent : frame ∈ frames := by
    rcases Nat.lt_or_ge count (wire.toVec (.hello serverId)).length with short | arrived
    · obtain ⟨error, nothing⟩ := receiveBytes_of_short faithful short
      rw [nothing] at member
      cases member
    · rw [receiveBytes_of_hello faithful allowed fits arrived] at member
      exact (LineCodec.arrived_isPrefix frames _).subset member
  obtain ⟨relayed, given, turn, links, isRelay, isGiven, lineage⟩ :=
    (sent frame isSent).lineage roundTrips blank
  obtain ⟨sameId, carries⟩ := lineage.carries roundTrips
  exact ⟨relayed, given, turn, isRelay, isGiven, sameId, carries⟩

def sampleFrame : MeshFrame := .relay (originFrame standardBase64 1 "m" samplePacket)

def wireMembership : Membership where
  serverId := "b"
  allowedPeers := ["a"]
  parse := frameFormat.readDocument

/-- Two copies of the first frame of the chain, and then the connection breaks off. -/
theorem sample_connection_carries_frames :
    receiveBytes frameFormat.lineCodec wireMembership none
        ((connectionBytes frameFormat.lineCodec "a" [sampleFrame, sampleFrame]).take 200) =
      ⟨.ok "a", frameFormat.lineCodec.arrived [sampleFrame, sampleFrame]
        (200 - ((frameFormat.lineCodec.toVec (.hello "a")).length + 1))⟩ := by
  have sent : SentBy standardBase64 (linkedMesh chainLinks 1) chainTurns sampleFrame :=
    ⟨0, ⟨"a", "b", 1, sampleFrame⟩, by decide +kernel, rfl⟩
  have hops : ∀ server, ((linkedMesh chainLinks 1).server server).maxHops < 2 ^ 8 :=
    fun _ => (by decide : 1 < 2 ^ 8)
  have carried := connection_carries_mesh_frames standardBase64 standardBase64_roundTrips
    (linkedMesh chainLinks 1) ⟨rfl, rfl, rfl, rfl⟩ hops chainTurns [sampleFrame, sampleFrame]
    (by simp [sent]) frameFormat.lineCodec wireMembership
    frameFormat_faithful none "a" (by decide) 200
  exact carried.2.1 (by decide +kernel)

/-! ### Forwarding -/

/-- The same frame but for hops it has lost. -/
structure Copies (root frame : RelayFrame) : Prop where
  same : frame = { root with hopsLeft := frame.hopsLeft }
  hops : frame.hopsLeft ≤ root.hopsLeft

theorem Copies.refl (frame : RelayFrame) : Copies frame frame := ⟨rfl, Nat.le_refl _⟩

theorem Copies.forwarded {base64 : Base64} (canonical : base64.Canonical)
    {root frame : RelayFrame} (copies : Copies root frame)
    {payload : List UInt8} (decoded : base64.decode frame.payloadB64 = some payload) :
    Copies root (forwardedFrame base64 frame payload) := by
  have kept : forwardedFrame base64 frame payload =
      { frame with hopsLeft := frame.hopsLeft - 1 } := by
    rw [forwardedFrame, canonical frame.payloadB64 payload decoded]
  have fewer := copies.hops
  rw [kept]
  refine ⟨?_, by change frame.hopsLeft - 1 ≤ root.hopsLeft; omega⟩
  rw [copies.same]

/-- The frame was on its way at the start, whoever wrote it, or a server made it for a packet. -/
def IsRoot (base64 : Base64) (start : World) (turns : Nat → Turn) (root : RelayFrame) : Prop :=
  (∃ transit ∈ start.inFlight, transit.frame = .relay root) ∨
    ∃ given turn, (turns turn).origination = some given ∧
      root = originFrame base64 (start.server given.server).maxHops given.messageId
        given.packet

structure Verbatim (base64 : Base64) (start : World) (turns : Nat → Turn) (world : World) :
    Prop where
  sameHops : ∀ server, (world.server server).maxHops = (start.server server).maxHops
  inFlight : ∀ transit ∈ world.inFlight, ∀ frame, transit.frame = .relay frame →
    ∃ root, IsRoot base64 start turns root ∧ Copies root frame
  awaiting : ∀ entry ∈ world.awaiting,
    Carries base64 entry.frame entry.packet ∧
      ∃ root, IsRoot base64 start turns root ∧ Copies root entry.frame

theorem Verbatim.turn {base64 : Base64} (canonical : base64.Canonical) {start world : World}
    {turns : Nat → Turn} (verbatim : Verbatim base64 start turns world) (count : Nat) :
    Verbatim base64 start turns (world.turn base64 (turns count)) := by
  obtain ⟨awaiting, _, _⟩ := lists_turn base64 world (turns count)
  refine ⟨?_, ?_, ?_⟩
  · intro server
    rw [maxHops_turn]
    exact verbatim.sameHops server
  · intro transit member frame isRelay
    rw [inFlight_turn] at member
    rcases List.mem_append.mp member with old | sent
    · exact verbatim.inFlight transit (World.leftInFlight_subset old) frame isRelay
    · cases sending_of_mem_sends sent with
      | originated server packet messageId scan rememberAt lookupAt asked sentFrame oneLink =>
          rw [sentFrame, MeshFrame.relay.injEq, verbatim.sameHops server] at isRelay
          refine ⟨frame, Or.inr ⟨⟨server, messageId, packet⟩, count, ?_, isRelay.symm⟩, .refl _⟩
          rw [asked]
          rfl
      | forwarded index delivered lookupAt entry asked atIndex hopsLeft isTarget sentFrame _ =>
          obtain ⟨carries, root, isRoot, copies⟩ :=
            verbatim.awaiting entry (List.mem_of_getElem? atIndex)
          rw [sentFrame, MeshFrame.relay.injEq] at isRelay
          rw [← isRelay]
          exact ⟨root, isRoot, copies.forwarded canonical carries.payload⟩
  · intro entry member
    rw [awaiting] at member
    rcases List.mem_append.mp member with old | taken
    · exact verbatim.awaiting entry (World.leftWaiting_subset old)
    · obtain ⟨index, scan, rememberAt, learnAt, transit, _, atIndex, taken⟩ := mem_takes taken
      obtain ⟨isRelay, _, received⟩ := Transit.mem_taken taken
      obtain ⟨_, decoded, transport, fromId, toId⟩ := receiveFrame_taken received
      exact ⟨⟨transport.symm, fromId.symm, toId.symm, decoded⟩,
        verbatim.inFlight transit (List.mem_of_getElem? atIndex) entry.frame isRelay⟩

/-- Whatever frames are on their way at the start, written by a server or by anyone else, every
frame that is sent later is a copy of one of them or of a frame made for a packet, with its
payload text and its ids untouched and with no more hops. -/
theorem frames_forwarded_verbatim (base64 : Base64) (canonical : base64.Canonical)
    (start : World) (idle : start.awaiting = []) (turns : Nat → Turn) (count : Nat) :
    let world := stateAt (World.turn base64) start turns count
    (∀ transit ∈ world.inFlight, ∀ frame, transit.frame = .relay frame →
      ∃ root, IsRoot base64 start turns root ∧ Copies root frame) ∧
    ∀ entry ∈ world.awaiting, Carries base64 entry.frame entry.packet ∧
      ∃ root, IsRoot base64 start turns root ∧ Copies root entry.frame := by
  have verbatim : Verbatim base64 start turns (stateAt (World.turn base64) start turns count) := by
    induction count with
    | zero =>
        refine ⟨fun _ => rfl, ?_, ?_⟩
        · intro transit member frame isRelay
          exact ⟨frame, Or.inl ⟨transit, member, isRelay⟩, .refl frame⟩
        · change ∀ entry ∈ start.awaiting, _
          rw [idle]
          exact nofun
    | succ count ih => exact ih.turn canonical count
  exact ⟨verbatim.inFlight, verbatim.awaiting⟩

def strangeFrame : RelayFrame where
  messageId := "m"
  transport := .stream
  fromId := "w"
  toId := "x"
  payloadB64 := "Bw=="
  hopsLeft := 9

def strangeMesh : World :=
  { linkedMesh chainLinks 1 with inFlight := [⟨"a", "b", 1, .relay strangeFrame⟩] }

def strangeTurns (count : Nat) : Turn :=
  match chainActions[count]? with
  | some action => .act action
  | none => .forget "a" ∅

theorem sample_strange_frame_forwarded :
    ∃ root, IsRoot standardBase64 strangeMesh strangeTurns root ∧
      Copies root { strangeFrame with hopsLeft := 8 } := by
  have forwarded : (⟨"b", "c", 2, .relay { strangeFrame with hopsLeft := 8 }⟩ : Transit) ∈
      (stateAt (World.turn standardBase64) strangeMesh strangeTurns 2).inFlight := by
    decide +kernel
  exact (frames_forwarded_verbatim standardBase64 standardBase64_canonical strangeMesh rfl
    strangeTurns 2).1 _ forwarded _ rfl

end Lightscale.Mesh
