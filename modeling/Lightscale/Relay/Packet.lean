/-
The packets that clients exchange with the two relays.

Both relays use one layout: four bytes of magic, the type, the lengths of the two ids, a
reserved byte, the ids and the payload.  They differ in the magic only.  A slice or an
index out of range would stop the task that parses, so the parser is first written with
reads that can fail, and then shown to be a parser that has none.
-/

import Lightscale.Foundation.Text

namespace Lightscale.Relay

open Foundation

/-- A slice or an index was out of range. -/
inductive Panic where
  | outOfRange
  deriving DecidableEq

inductive RelayPacket where
  | register (nodeId : String)
  | send (fromId toId : String) (payload : List UInt8)
  deriving DecidableEq

def typeRegister : UInt8 := 1

def typeSend : UInt8 := 2

def typeDeliver : UInt8 := 3

def headerLen : Nat := 8

def maxIdLen : Nat := 64

def udpMagic : List UInt8 := [76, 83, 82, 49]

def streamMagic : List UInt8 := [76, 83, 82, 50]

def slice (buf : List UInt8) (first last : Nat) : Except Panic (List UInt8) :=
  if first ≤ last ∧ last ≤ buf.length then .ok ((buf.take last).drop first)
  else .error .outOfRange

def byteAt (buf : List UInt8) (index : Nat) : Except Panic UInt8 :=
  match buf[index]? with
  | some byte => .ok byte
  | none => .error .outOfRange

def packetOfType (msgType : UInt8) (fromId toId : String) (payload : List UInt8) :
    Option RelayPacket :=
  if msgType = typeRegister then
    if fromId = "" ∨ toId ≠ "" then none else some (.register fromId)
  else if msgType = typeSend then
    if fromId = "" ∨ toId = "" then none else some (.send fromId toId payload)
  else none

def parsePacket (magic buf : List UInt8) : Except Panic (Option RelayPacket) := do
  if buf.length < headerLen then
    return none
  let start ← slice buf 0 4
  if start ≠ magic then
    return none
  let msgType ← byteAt buf 4
  let fromByte ← byteAt buf 5
  let toByte ← byteAt buf 6
  let fromLen := fromByte.toNat
  let toLen := toByte.toNat
  if maxIdLen < fromLen ∨ maxIdLen < toLen then
    return none
  let offset := headerLen
  if buf.length < offset + fromLen + toLen then
    return none
  let fromEnd := offset + fromLen
  let toEnd := fromEnd + toLen
  let fromBytes ← slice buf offset fromEnd
  match fromUtf8 fromBytes with
  | none => return none
  | some fromId =>
      let toBytes ← slice buf fromEnd toEnd
      match fromUtf8 toBytes with
      | none => return none
      | some toId =>
          let payload ← slice buf toEnd buf.length
          return packetOfType msgType fromId toId payload

def buildPacket (magic : List UInt8) (msgType : UInt8) (fromId toId : String)
    (payload : List UInt8) : Except String (List UInt8) :=
  if maxIdLen < (utf8Bytes fromId).length ∨ maxIdLen < (utf8Bytes toId).length then
    .error "relay id too long"
  else
    .ok (magic ++ [msgType, UInt8.ofNat (utf8Bytes fromId).length,
      UInt8.ofNat (utf8Bytes toId).length, 0] ++ utf8Bytes fromId ++ utf8Bytes toId ++ payload)

/-! ### The parser without reads that fail -/

def decodeBody (msgType : UInt8) (fromLen toLen : Nat) (body : List UInt8) :
    Option RelayPacket :=
  if maxIdLen < fromLen ∨ maxIdLen < toLen then none
  else if body.length < fromLen + toLen then none
  else do
    let fromId ← fromUtf8 (body.take fromLen)
    let toId ← fromUtf8 ((body.drop fromLen).take toLen)
    packetOfType msgType fromId toId (body.drop (fromLen + toLen))

def decodePacket (magic : List UInt8) : List UInt8 → Option RelayPacket
  | first :: second :: third :: fourth :: msgType :: fromLen :: toLen :: _ :: body =>
      if [first, second, third, fourth] ≠ magic then none
      else decodeBody msgType fromLen.toNat toLen.toNat body
  | _ => none

theorem slice_eq {buf : List UInt8} {first last : Nat} (ordered : first ≤ last)
    (inside : last ≤ buf.length) : slice buf first last = .ok ((buf.take last).drop first) := by
  unfold slice
  rw [if_pos ⟨ordered, inside⟩]

theorem slice_append (header body : List UInt8) {first last : Nat} (ordered : first ≤ last)
    (inside : last ≤ body.length) :
    slice (header ++ body) (header.length + first) (header.length + last) =
      .ok ((body.take last).drop first) := by
  rw [slice_eq (by omega) (by rw [List.length_append]; omega), List.take_length_add_append,
    List.drop_length_add_append]

theorem exists_header {buf : List UInt8} (long : headerLen ≤ buf.length) :
    ∃ first second third fourth msgType fromLen toLen reserved body,
      buf = first :: second :: third :: fourth :: msgType :: fromLen :: toLen :: reserved ::
        body := by
  unfold headerLen at long
  match buf, long with
  | first :: second :: third :: fourth :: msgType :: fromLen :: toLen :: reserved :: body, _ =>
      exact ⟨first, second, third, fourth, msgType, fromLen, toLen, reserved, body, rfl⟩

theorem decodePacket_of_short (magic : List UInt8) {buf : List UInt8}
    (short : buf.length < headerLen) : decodePacket magic buf = none := by
  unfold decodePacket
  split
  · unfold headerLen at short
    simp only [List.length_cons] at short
    omega
  · rfl

/-- No slice of the parser is out of range. -/
theorem parsePacket_eq (magic buf : List UInt8) :
    parsePacket magic buf = .ok (decodePacket magic buf) := by
  by_cases short : buf.length < headerLen
  · rw [decodePacket_of_short magic short]
    unfold parsePacket
    rw [if_pos short]
    rfl
  · obtain ⟨first, second, third, fourth, msgType, fromLen, toLen, reserved, body, rfl⟩ :=
      exists_header (Nat.le_of_not_lt short)
    have startIs : slice (first :: second :: third :: fourth :: msgType :: fromLen :: toLen ::
        reserved :: body) 0 4 = .ok [first, second, third, fourth] :=
      slice_eq (Nat.zero_le 4) (by simp only [List.length_cons]; omega)
    have reads : ∀ index byte, (first :: second :: third :: fourth :: msgType :: fromLen ::
        toLen :: reserved :: body)[index]? = some byte →
        byteAt (first :: second :: third :: fourth :: msgType :: fromLen :: toLen :: reserved ::
          body) index = .ok byte := by
      intro index byte found
      unfold byteAt
      rw [found]
    unfold parsePacket decodePacket decodeBody
    rw [if_neg short, startIs, reads 4 msgType rfl, reads 5 fromLen rfl, reads 6 toLen rfl]
    simp only [bind, Except.bind, pure, Except.pure]
    split
    · rfl
    · split
      · rfl
      · have whole : (first :: second :: third :: fourth :: msgType :: fromLen :: toLen ::
            reserved :: body).length = headerLen + body.length := by
          simp only [List.length_cons, headerLen]
          omega
        have after : ∀ start stop, start ≤ stop → stop ≤ body.length →
            slice (first :: second :: third :: fourth :: msgType :: fromLen :: toLen ::
                reserved :: body) (headerLen + start) (headerLen + stop) =
              .ok ((body.take stop).drop start) := by
          intro start stop
          exact slice_append [first, second, third, fourth, msgType, fromLen, toLen, reserved]
            body
        rw [whole]
        by_cases missing : body.length < fromLen.toNat + toLen.toNat
        · rw [if_pos (by omega), if_pos missing]
        · rw [if_neg (by omega), if_neg missing, Nat.add_assoc]
          have fromSlice := after 0 fromLen.toNat (by omega) (by omega)
          have toSlice := after fromLen.toNat (fromLen.toNat + toLen.toNat) (by omega) (by omega)
          have payloadSlice := after (fromLen.toNat + toLen.toNat) body.length (by omega)
            (Nat.le_refl _)
          rw [List.drop_take, Nat.add_sub_cancel_left] at toSlice
          rw [List.take_length] at payloadSlice
          rw [Nat.add_zero, List.drop_zero] at fromSlice
          rw [fromSlice]
          dsimp only
          cases fromUtf8 (body.take fromLen.toNat) with
          | none => rfl
          | some fromId =>
              dsimp only [Option.bind]
              rw [toSlice]
              dsimp only
              cases fromUtf8 ((body.drop fromLen.toNat).take toLen.toNat) with
              | none => rfl
              | some toId =>
                  dsimp only
                  rw [payloadSlice]

/-! ### What a parsed packet carries -/

def RelayPacket.fromId : RelayPacket → String
  | .register nodeId => nodeId
  | .send fromId _ _ => fromId

end Lightscale.Relay
