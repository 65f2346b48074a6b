/-
What the packet parser accepts.

A packet is a layout: the magic, the type, the lengths of the two ids, a byte that nobody
looks at, the ids and the payload, which has no length of its own and ends with the buffer.
The parser accepts exactly the layouts with ids that are there, are short and are UTF-8, and
reads back what the layout was made of.
-/

import Lightscale.Relay.Packet

namespace Lightscale.Relay

open Foundation

/-- An id of one to sixty-four bytes. -/
structure IsId (text : String) : Prop where
  nonempty : 1 ≤ (utf8Bytes text).length
  short : (utf8Bytes text).length ≤ maxIdLen

def layout (magic : List UInt8) (msgType reserved : UInt8) (fromId toId : String)
    (payload : List UInt8) : List UInt8 :=
  magic ++ [msgType, UInt8.ofNat (utf8Bytes fromId).length,
    UInt8.ofNat (utf8Bytes toId).length, reserved] ++ utf8Bytes fromId ++ utf8Bytes toId ++ payload

theorem layout_length {magic : List UInt8} (four : magic.length = 4) (msgType reserved : UInt8)
    (fromId toId : String) (payload : List UInt8) :
    (layout magic msgType reserved fromId toId payload).length =
      8 + (utf8Bytes fromId).length + (utf8Bytes toId).length + payload.length := by
  unfold layout
  simp only [List.length_append, four, List.length_cons, List.length_nil]

theorem utf8Bytes_length_pos_iff (text : String) : 1 ≤ (utf8Bytes text).length ↔ text ≠ "" := by
  constructor
  · rintro long rfl
    exact absurd long (by decide)
  · intro named
    refine Nat.one_le_iff_ne_zero.mpr ?_
    intro empty
    apply named
    have encoded : utf8Bytes text = utf8Bytes "" := List.length_eq_zero_iff.mp empty
    have decoded := (fromUtf8_eq_some_iff _ _).mpr encoded
    rw [(fromUtf8_eq_some_iff _ "").mpr rfl, Option.some.injEq] at decoded
    exact decoded.symm

theorem isId_iff (text : String) :
    IsId text ↔ text ≠ "" ∧ (utf8Bytes text).length ≤ maxIdLen := by
  rw [← utf8Bytes_length_pos_iff]
  exact ⟨fun isId => ⟨isId.nonempty, isId.short⟩, fun both => ⟨both.1, both.2⟩⟩

theorem fromUtf8_utf8Bytes (text : String) : fromUtf8 (utf8Bytes text) = some text :=
  (fromUtf8_eq_some_iff _ _).mpr rfl

theorem toNat_ofNat_length {length : Nat} (short : length ≤ maxIdLen) :
    (UInt8.ofNat length).toNat = length := by
  unfold maxIdLen at short
  rw [UInt8.toNat_ofNat']
  omega

/-! ### The parser and the layouts -/

theorem decodeBody_layout (msgType : UInt8) {fromId toId : String} (payload : List UInt8)
    (fromShort : (utf8Bytes fromId).length ≤ maxIdLen)
    (toShort : (utf8Bytes toId).length ≤ maxIdLen) :
    decodeBody msgType (utf8Bytes fromId).length (utf8Bytes toId).length
        (utf8Bytes fromId ++ utf8Bytes toId ++ payload) =
      packetOfType msgType fromId toId payload := by
  have bounded : ¬ (maxIdLen < (utf8Bytes fromId).length ∨
      maxIdLen < (utf8Bytes toId).length) := by omega
  have present : ¬ (utf8Bytes fromId ++ utf8Bytes toId ++ payload).length <
      (utf8Bytes fromId).length + (utf8Bytes toId).length := by
    simp only [List.length_append]
    omega
  unfold decodeBody
  rw [if_neg bounded, if_neg present, List.append_assoc, List.take_left, List.drop_left,
    List.take_left, ← List.append_assoc, ← List.length_append, List.drop_left,
    fromUtf8_utf8Bytes, fromUtf8_utf8Bytes]
  rfl

theorem exists_layout_of_decodeBody {msgType : UInt8} {fromLen toLen : Nat}
    {body : List UInt8} {packet : RelayPacket}
    (decoded : decodeBody msgType fromLen toLen body = some packet) :
    ∃ fromId toId payload, fromLen = (utf8Bytes fromId).length ∧ fromLen ≤ maxIdLen ∧
      toLen = (utf8Bytes toId).length ∧ toLen ≤ maxIdLen ∧
      body = utf8Bytes fromId ++ utf8Bytes toId ++ payload ∧
      packetOfType msgType fromId toId payload = some packet := by
  unfold decodeBody at decoded
  by_cases long : maxIdLen < fromLen ∨ maxIdLen < toLen
  · rw [if_pos long] at decoded
    cases decoded
  rw [if_neg long] at decoded
  by_cases missing : body.length < fromLen + toLen
  · rw [if_pos missing] at decoded
    cases decoded
  rw [if_neg missing] at decoded
  obtain ⟨fromId, isFrom, rest⟩ := Option.bind_eq_some_iff.mp decoded
  obtain ⟨toId, isTo, typed⟩ := Option.bind_eq_some_iff.mp rest
  rw [fromUtf8_eq_some_iff] at isFrom isTo
  refine ⟨fromId, toId, body.drop (fromLen + toLen), ?_, by omega, ?_, by omega, ?_, typed⟩
  · rw [isFrom, List.length_take]
    omega
  · rw [isTo, List.length_take, List.length_drop]
    omega
  · rw [isFrom, isTo, ← List.drop_drop, List.append_assoc, List.take_append_drop,
      List.take_append_drop]

/-- The parser accepts layouts only, and takes them apart. -/
theorem decodePacket_eq_some_iff {magic buf : List UInt8} (four : magic.length = 4)
    (packet : RelayPacket) :
    decodePacket magic buf = some packet ↔
      ∃ msgType reserved fromId toId payload,
        (utf8Bytes fromId).length ≤ maxIdLen ∧ (utf8Bytes toId).length ≤ maxIdLen ∧
        packetOfType msgType fromId toId payload = some packet ∧
        buf = layout magic msgType reserved fromId toId payload := by
  constructor
  · intro decoded
    unfold decodePacket at decoded
    split at decoded
    · rename_i first second third fourth msgType fromLen toLen reserved body
      split at decoded
      · cases decoded
      · rename_i isMagic
        rw [ne_eq, not_not] at isMagic
        obtain ⟨fromId, toId, payload, isFromLen, fromShort, isToLen, toShort, rfl, typed⟩ :=
          exists_layout_of_decodeBody decoded
        rw [isFromLen] at fromShort
        rw [isToLen] at toShort
        refine ⟨msgType, reserved, fromId, toId, payload, fromShort, toShort, typed, ?_⟩
        unfold layout
        rw [← isMagic, ← isFromLen, ← isToLen, UInt8.ofNat_toNat, UInt8.ofNat_toNat]
        simp only [List.cons_append, List.nil_append, List.append_assoc]
    · cases decoded
  · rintro ⟨msgType, reserved, fromId, toId, payload, fromShort, toShort, typed, rfl⟩
    match magic, four with
    | [first, second, third, fourth], _ =>
        rw [← typed, ← decodeBody_layout msgType payload fromShort toShort]
        unfold layout
        simp only [List.cons_append, List.nil_append, List.append_assoc, decodePacket, ne_eq,
          not_true_eq_false, if_false, toNat_ofNat_length fromShort, toNat_ofNat_length toShort]

theorem packetOfType_eq_some_iff {msgType : UInt8} {fromId toId : String}
    {payload : List UInt8} {packet : RelayPacket} :
    packetOfType msgType fromId toId payload = some packet ↔
      (msgType = typeRegister ∧ fromId ≠ "" ∧ toId = "" ∧ packet = .register fromId) ∨
      (msgType = typeSend ∧ fromId ≠ "" ∧ toId ≠ "" ∧ packet = .send fromId toId payload) := by
  have different : typeRegister ≠ typeSend := by decide
  unfold packetOfType
  by_cases isRegister : msgType = typeRegister
  · rw [if_pos isRegister, isRegister]
    by_cases unwanted : fromId = "" ∨ toId ≠ ""
    · rw [if_pos unwanted]
      constructor
      · exact nofun
      · rintro (⟨-, named, noTarget, -⟩ | ⟨isSend, -⟩)
        · simp [named, noTarget] at unwanted
        · exact absurd isSend different
    · rw [if_neg unwanted, Option.some.injEq]
      rw [not_or, not_not] at unwanted
      simp [unwanted, different, eq_comm]
  · rw [if_neg isRegister]
    by_cases isSend : msgType = typeSend
    · rw [if_pos isSend]
      by_cases missing : fromId = "" ∨ toId = ""
      · rw [if_pos missing]
        constructor
        · exact nofun
        · rintro (⟨sameType, -⟩ | ⟨-, named, target, -⟩)
          · exact absurd sameType isRegister
          · simp [named, target] at missing
      · rw [if_neg missing, Option.some.injEq]
        rw [not_or] at missing
        simp [missing, isSend, different.symm, eq_comm]
    · rw [if_neg isSend]
      simp [isRegister, isSend]

section

variable {magic : List UInt8} (four : magic.length = 4)

include four

theorem parsePacket_send_iff (buf : List UInt8) (fromId toId : String) (payload : List UInt8) :
    parsePacket magic buf = .ok (some (.send fromId toId payload)) ↔
      IsId fromId ∧ IsId toId ∧
        ∃ reserved, buf = layout magic typeSend reserved fromId toId payload := by
  rw [parsePacket_eq, Except.ok.injEq, decodePacket_eq_some_iff four, isId_iff, isId_iff]
  constructor
  · rintro ⟨msgType, reserved, sender, target, carried, fromShort, toShort, typed, isBuf⟩
    rcases packetOfType_eq_some_iff.mp typed with
      ⟨-, -, -, isRegister⟩ | ⟨isType, fromNamed, toNamed, isSend⟩
    · cases isRegister
    · cases isSend
      subst isType
      exact ⟨⟨fromNamed, fromShort⟩, ⟨toNamed, toShort⟩, reserved, isBuf⟩
  · rintro ⟨⟨fromNamed, fromShort⟩, ⟨toNamed, toShort⟩, reserved, isBuf⟩
    refine ⟨typeSend, reserved, fromId, toId, payload, fromShort, toShort, ?_, isBuf⟩
    exact packetOfType_eq_some_iff.mpr (Or.inr ⟨rfl, fromNamed, toNamed, rfl⟩)

theorem parsePacket_register_iff (buf : List UInt8) (nodeId : String) :
    parsePacket magic buf = .ok (some (.register nodeId)) ↔
      IsId nodeId ∧ ∃ reserved rest, buf = layout magic typeRegister reserved nodeId "" rest := by
  rw [parsePacket_eq, Except.ok.injEq, decodePacket_eq_some_iff four, isId_iff]
  constructor
  · rintro ⟨msgType, reserved, sender, target, carried, fromShort, toShort, typed, isBuf⟩
    rcases packetOfType_eq_some_iff.mp typed with
      ⟨isType, fromNamed, noTarget, isRegister⟩ | ⟨-, -, -, isSend⟩
    · cases isRegister
      subst isType noTarget
      exact ⟨⟨fromNamed, fromShort⟩, reserved, carried, isBuf⟩
    · cases isSend
  · rintro ⟨⟨fromNamed, fromShort⟩, reserved, rest, isBuf⟩
    refine ⟨typeRegister, reserved, nodeId, "", rest, fromShort, Nat.zero_le _, ?_, isBuf⟩
    exact packetOfType_eq_some_iff.mpr (Or.inl ⟨rfl, fromNamed, rfl, rfl⟩)

theorem isId_of_parsePacket {buf : List UInt8} {packet : RelayPacket}
    (parsed : parsePacket magic buf = .ok (some packet)) : IsId packet.fromId := by
  cases packet with
  | register nodeId => exact ((parsePacket_register_iff four buf nodeId).mp parsed).1
  | send fromId toId payload =>
      exact ((parsePacket_send_iff four buf fromId toId payload).mp parsed).1

theorem parsePacket_none_iff (buf : List UInt8) :
    parsePacket magic buf = .ok none ↔
      (¬ ∃ fromId toId payload reserved, IsId fromId ∧ IsId toId ∧
        buf = layout magic typeSend reserved fromId toId payload) ∧
      ¬ ∃ nodeId reserved rest, IsId nodeId ∧
        buf = layout magic typeRegister reserved nodeId "" rest := by
  constructor
  · intro refused
    constructor
    · rintro ⟨fromId, toId, payload, reserved, fromIs, toIs, isBuf⟩
      have accepted := (parsePacket_send_iff four buf fromId toId payload).mpr
        ⟨fromIs, toIs, reserved, isBuf⟩
      rw [refused] at accepted
      cases accepted
    · rintro ⟨nodeId, reserved, rest, isId, isBuf⟩
      have accepted := (parsePacket_register_iff four buf nodeId).mpr
        ⟨isId, reserved, rest, isBuf⟩
      rw [refused] at accepted
      cases accepted
  · rintro ⟨noSend, noRegister⟩
    have total := parsePacket_eq magic buf
    cases decoded : decodePacket magic buf with
    | none =>
        rw [decoded] at total
        exact total
    | some packet =>
        rw [decoded] at total
        cases packet with
        | register nodeId =>
            obtain ⟨isId, reserved, rest, isBuf⟩ :=
              (parsePacket_register_iff four buf nodeId).mp total
            exact absurd ⟨nodeId, reserved, rest, isId, isBuf⟩ noRegister
        | send fromId toId payload =>
            obtain ⟨fromIs, toIs, reserved, isBuf⟩ :=
              (parsePacket_send_iff four buf fromId toId payload).mp total
            exact absurd ⟨fromId, toId, payload, reserved, fromIs, toIs, isBuf⟩ noSend

end

/-! ### Building packets -/

theorem buildPacket_eq_ok_iff {magic buf : List UInt8} {msgType : UInt8} {fromId toId : String}
    {payload : List UInt8} :
    buildPacket magic msgType fromId toId payload = .ok buf ↔
      (utf8Bytes fromId).length ≤ maxIdLen ∧ (utf8Bytes toId).length ≤ maxIdLen ∧
        buf = layout magic msgType 0 fromId toId payload := by
  unfold buildPacket
  by_cases long : maxIdLen < (utf8Bytes fromId).length ∨ maxIdLen < (utf8Bytes toId).length
  · rw [if_pos long]
    simp only [reduceCtorEq, false_iff]
    omega
  · rw [if_neg long, Except.ok.injEq]
    rw [not_or, Nat.not_lt, Nat.not_lt] at long
    simp only [long, true_and]
    exact eq_comm

theorem layout_set_reserved {magic : List UInt8} (four : magic.length = 4)
    (msgType reserved other : UInt8) (fromId toId : String) (payload : List UInt8) :
    (layout magic msgType reserved fromId toId payload).set 7 other =
      layout magic msgType other fromId toId payload := by
  match magic, four with
  | [first, second, third, fourth], _ => rfl

theorem layout_type {magic : List UInt8} (four : magic.length = 4) (msgType reserved : UInt8)
    (fromId toId : String) (payload : List UInt8) :
    (layout magic msgType reserved fromId toId payload)[4]? = some msgType := by
  match magic, four with
  | [first, second, third, fourth], _ => rfl

theorem layout_take {magic : List UInt8} (four : magic.length = 4) (msgType reserved : UInt8)
    (fromId toId : String) (payload : List UInt8) :
    (layout magic msgType reserved fromId toId payload).take 4 = magic := by
  match magic, four with
  | [first, second, third, fourth], _ => rfl

theorem magic_of_parsePacket {magic buf : List UInt8} (four : magic.length = 4)
    {packet : RelayPacket} (parsed : parsePacket magic buf = .ok (some packet)) :
    buf.take 4 = magic ∧ (buf[4]? = some typeSend ∨ buf[4]? = some typeRegister) := by
  cases packet with
  | register nodeId =>
      obtain ⟨-, reserved, rest, rfl⟩ := (parsePacket_register_iff four buf nodeId).mp parsed
      exact ⟨layout_take four .., Or.inr (layout_type four ..)⟩
  | send fromId toId payload =>
      obtain ⟨-, -, reserved, rfl⟩ :=
        (parsePacket_send_iff four buf fromId toId payload).mp parsed
      exact ⟨layout_take four .., Or.inl (layout_type four ..)⟩

structure Codec (magic : List UInt8) : Prop where
  /-- No slice is out of range. -/
  total : ∀ buf, ∃ parsed, parsePacket magic buf = .ok parsed
  send_iff : ∀ buf fromId toId payload,
    parsePacket magic buf = .ok (some (.send fromId toId payload)) ↔
      IsId fromId ∧ IsId toId ∧
        ∃ reserved, buf = layout magic typeSend reserved fromId toId payload
  register_iff : ∀ buf nodeId,
    parsePacket magic buf = .ok (some (.register nodeId)) ↔
      IsId nodeId ∧ ∃ reserved rest, buf = layout magic typeRegister reserved nodeId "" rest
  none_iff : ∀ buf, parsePacket magic buf = .ok none ↔
    (¬ ∃ fromId toId payload reserved, IsId fromId ∧ IsId toId ∧
      buf = layout magic typeSend reserved fromId toId payload) ∧
    ¬ ∃ nodeId reserved rest, IsId nodeId ∧
      buf = layout magic typeRegister reserved nodeId "" rest
  roundTrip : ∀ fromId toId payload, IsId fromId → IsId toId →
    ∃ buf, buildPacket magic typeSend fromId toId payload = .ok buf ∧
      parsePacket magic buf = .ok (some (.send fromId toId payload))
  rebuilt : ∀ buf fromId toId payload,
    parsePacket magic buf = .ok (some (.send fromId toId payload)) →
      buildPacket magic typeSend fromId toId payload = .ok (buf.set 7 0)
  /-- Neither parser takes a deliver packet for a command. -/
  deliver : ∀ fromId toId payload buf, buildPacket magic typeDeliver fromId toId payload = .ok buf →
    parsePacket udpMagic buf = .ok none ∧ parsePacket streamMagic buf = .ok none

theorem parsePacket_of_deliver {magic buf : List UInt8} (four : magic.length = 4)
    (isDeliver : buf[4]? = some typeDeliver) : parsePacket magic buf = .ok none := by
  cases parsed : decodePacket magic buf with
  | none => rw [parsePacket_eq, parsed]
  | some packet =>
      have command : parsePacket magic buf = .ok (some packet) := by rw [parsePacket_eq, parsed]
      rcases (magic_of_parsePacket four command).2 with isSend | isRegister
      · rw [isDeliver] at isSend
        exact absurd isSend (by decide)
      · rw [isDeliver] at isRegister
        exact absurd isRegister (by decide)

theorem codec_of_magic {magic : List UInt8} (four : magic.length = 4) : Codec magic where
  total buf := ⟨_, parsePacket_eq magic buf⟩
  send_iff := parsePacket_send_iff four
  register_iff := parsePacket_register_iff four
  none_iff := parsePacket_none_iff four
  roundTrip := by
    intro fromId toId payload fromIs toIs
    refine ⟨layout magic typeSend 0 fromId toId payload, ?_, ?_⟩
    · exact buildPacket_eq_ok_iff.mpr ⟨fromIs.short, toIs.short, rfl⟩
    · exact (parsePacket_send_iff four _ _ _ _).mpr ⟨fromIs, toIs, 0, rfl⟩
  rebuilt := by
    intro buf fromId toId payload parsed
    obtain ⟨fromIs, toIs, reserved, rfl⟩ := (parsePacket_send_iff four _ _ _ _).mp parsed
    rw [layout_set_reserved four]
    exact buildPacket_eq_ok_iff.mpr ⟨fromIs.short, toIs.short, rfl⟩
  deliver := by
    intro fromId toId payload buf built
    obtain ⟨-, -, rfl⟩ := buildPacket_eq_ok_iff.mp built
    exact ⟨parsePacket_of_deliver rfl (layout_type four ..),
      parsePacket_of_deliver rfl (layout_type four ..)⟩

/-- Both relays have an exact codec, and no packet is accepted by both. -/
theorem packet_codec :
    Codec udpMagic ∧ Codec streamMagic ∧
      ∀ buf left right, ¬ (parsePacket udpMagic buf = .ok (some left) ∧
        parsePacket streamMagic buf = .ok (some right)) := by
  refine ⟨codec_of_magic rfl, codec_of_magic rfl, ?_⟩
  rintro buf left right ⟨byUdp, byStream⟩
  have same := (magic_of_parsePacket rfl byUdp).1.symm.trans (magic_of_parsePacket rfl byStream).1
  exact absurd same (by decide)

end Lightscale.Relay
