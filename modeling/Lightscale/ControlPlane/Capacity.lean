/-
How many nodes a network has room for.

The two counters start at the offsets that the creation of the network picks and advance
together until one of the blocks is used up.  From then on every allocation is refused: a
refusal for the second block still advances the first counter, which stops behind its last
offset, and no counter ever goes back.
-/

import Lightscale.ControlPlane.Addresses

namespace Lightscale.ControlPlane

open Foundation

def allocated (externals : Externals) (network : NetworkState) : Nat → NetworkState
  | 0 => network
  | count + 1 => (allocateNodeIps externals (allocated externals network count)).2

/-- The operations that the allocator performs on words stay within them. -/
structure OperationsFit (externals : Externals) (network : NetworkState) : Prop where
  counterV4 : network.nextIpv4 < 2 ^ 32
  counterV6 : network.nextIpv6 < 2 ^ 128
  /-- The address and the increment of the first block. -/
  additionsV4 : ∀ v4 last, externals.parseV4 network.overlayV4 = some v4 →
    maxIpv4Offset v4 = some last → network.nextIpv4 ≤ last →
    v4.network + network.nextIpv4 < 2 ^ 32 ∧ network.nextIpv4 + 1 < 2 ^ 32
  /-- The power that the last offset of the second block is computed from. -/
  shiftV6 : ∀ v6, externals.parseV6 network.overlayV6 = some v6 → v6.hostBits ≠ 128 →
    1 ≤ 2 ^ v6.hostBits ∧ 2 ^ v6.hostBits < 2 ^ 128
  additionsV6 : ∀ v6, externals.parseV6 network.overlayV6 = some v6 →
    network.nextIpv6 ≤ maxIpv6Offset v6 →
    v6.network + network.nextIpv6 < 2 ^ 128 ∧ network.nextIpv6 + 1 < 2 ^ 128

section

variable {externals : Externals} {network : NetworkState} {v4 : Ipv4Net} {v6 : Ipv6Net}
  {last : Nat}

theorem NetworkSound.operationsFit (sound : NetworkSound externals network v4 v6) :
    OperationsFit externals network := by
  refine ⟨sound.nextIpv4_lt, Nat.lt_of_succ_lt sound.nextIpv6_lt, ?_, ?_, ?_⟩
  · intro block last parsed lastAt below
    rw [sound.parsedV4, Option.some.injEq] at parsed
    subst parsed
    have span := (maxIpv4Offset_eq_some lastAt).2
    have narrow : 2 ^ v4.hostBits ≤ 2 ^ 32 :=
      Nat.pow_le_pow_right (by decide) (Nat.sub_le 32 v4.prefixLen)
    exact ⟨v4.network_add_lt (by omega), by omega⟩
  · intro block _ narrow
    have bits : block.hostBits < 128 := by
      have bound := Nat.sub_le 128 block.prefixLen
      unfold IpNet.hostBits at narrow ⊢
      omega
    exact ⟨block.hostSpace_pos, Nat.pow_lt_pow_right (by decide) bits⟩
  · intro block parsed below
    rw [sound.parsedV6, Option.some.injEq] at parsed
    subst parsed
    have span := maxIpv6Offset_succ v6
    exact ⟨v6.network_add_lt (by omega), sound.nextIpv6_lt⟩

theorem NetworkSound.allocate (sound : NetworkSound externals network v4 v6) :
    NetworkSound externals (allocateNodeIps externals network).2 v4 v6 := by
  rcases outcome : allocateNodeIps externals network with ⟨_ | ⟨ipv4, ipv6⟩, advanced⟩
  · exact (allocateNodeIps_error sound outcome).2
  · exact (allocateNodeIps_ok sound outcome).sound

theorem NetworkSound.allocateNodeIps_of_room (sound : NetworkSound externals network v4 v6)
    (lastAt : maxIpv4Offset v4 = some last) (roomV4 : network.nextIpv4 ≤ last)
    (roomV6 : network.nextIpv6 ≤ maxIpv6Offset v6) :
    allocateNodeIps externals network =
      (.ok (externals.printV4 (v4.network + network.nextIpv4),
          externals.printV6 (v6.network + network.nextIpv6)),
        { network with
          nextIpv4 := network.nextIpv4 + 1
          nextIpv6 := network.nextIpv6 + 1 }) := by
  have outcome := sound.outcome lastAt
  generalize allocateNodeIps externals network = result at outcome ⊢
  cases outcome with
  | exhaustedV4 passedV4 => exact absurd roomV4 (Nat.not_le.mpr passedV4)
  | exhaustedV6 _ passedV6 => exact absurd roomV6 (Nat.not_le.mpr passedV6)
  | issued => rfl

def Exhausted (network : NetworkState) (last : Nat) (v6 : Ipv6Net) : Prop :=
  last < network.nextIpv4 ∨ maxIpv6Offset v6 < network.nextIpv6

theorem NetworkSound.allocateNodeIps_of_exhausted
    (sound : NetworkSound externals network v4 v6) (lastAt : maxIpv4Offset v4 = some last)
    (exhausted : Exhausted network last v6) :
    (∃ message, (allocateNodeIps externals network).1 = .error (.conflict message)) ∧
      Exhausted (allocateNodeIps externals network).2 last v6 := by
  have outcome := sound.outcome lastAt
  generalize allocateNodeIps externals network = result at outcome ⊢
  cases outcome with
  | exhaustedV4 passedV4 => exact ⟨⟨_, rfl⟩, Or.inl passedV4⟩
  | exhaustedV6 _ passedV6 => exact ⟨⟨_, rfl⟩, Or.inr passedV6⟩
  | issued roomV4 roomV6 =>
      unfold Exhausted at exhausted
      omega

/-! ### Any number of allocations -/

theorem NetworkSound.along (sound : NetworkSound externals network v4 v6) (count : Nat) :
    NetworkSound externals (allocated externals network count) v4 v6 := by
  induction count with
  | zero => exact sound
  | succ count ih => exact ih.allocate

theorem NetworkSound.allocated_of_room (sound : NetworkSound externals network v4 v6)
    (lastAt : maxIpv4Offset v4 = some last) (count : Nat)
    (roomV4 : network.nextIpv4 + count ≤ last + 1)
    (roomV6 : network.nextIpv6 + count ≤ maxIpv6Offset v6 + 1) :
    allocated externals network count =
      { network with
        nextIpv4 := network.nextIpv4 + count
        nextIpv6 := network.nextIpv6 + count } := by
  induction count with
  | zero => rfl
  | succ count ih =>
      have before := ih (by omega) (by omega)
      have here := sound.along count
      rw [before] at here
      have next := here.allocateNodeIps_of_room lastAt (by dsimp only; omega) (by dsimp only; omega)
      simp only [allocated, before, next, Nat.add_assoc]

theorem NetworkSound.exhausted_of_capacity (sound : NetworkSound externals network v4 v6)
    (lastAt : maxIpv4Offset v4 = some last) (roomV4 : network.nextIpv4 ≤ last)
    (roomV6 : network.nextIpv6 ≤ maxIpv6Offset v6) :
    Exhausted (allocated externals network
      (min (last - network.nextIpv4 + 1) (maxIpv6Offset v6 - network.nextIpv6 + 1)))
      last v6 := by
  have full := sound.allocated_of_room lastAt
    (min (last - network.nextIpv4 + 1) (maxIpv6Offset v6 - network.nextIpv6 + 1))
    (by omega) (by omega)
  rw [full]
  unfold Exhausted
  dsimp only
  omega

theorem NetworkSound.exhausted_allocated (sound : NetworkSound externals network v4 v6)
    (lastAt : maxIpv4Offset v4 = some last) {first count : Nat}
    (exhausted : Exhausted (allocated externals network first) last v6)
    (later : first ≤ count) :
    Exhausted (allocated externals network count) last v6 := by
  induction count, later using Nat.le_induction with
  | base => exact exhausted
  | succ count _ ih =>
      exact ((sound.along count).allocateNodeIps_of_exhausted lastAt ih).2

end

structure HandsOut (externals : Externals) (network : NetworkState) (v4 : Ipv4Net)
    (v6 : Ipv6Net) (capacity : Nat) : Prop where
  positive : 1 ≤ capacity
  issued : ∀ index < capacity,
    (allocateNodeIps externals (allocated externals network index)).1 =
      .ok (externals.printV4 (v4.network + network.nextIpv4 + index),
        externals.printV6 (v6.network + network.nextIpv6 + index))
  /-- Neither the network address nor the broadcast address is issued. -/
  between : ∀ index < capacity,
    v4.network < v4.network + network.nextIpv4 + index ∧
      v4.network + network.nextIpv4 + index < v4.broadcast
  refused : ∀ index, capacity ≤ index → ∃ message,
    (allocateNodeIps externals (allocated externals network index)).1 =
      .error (.conflict message)
  fits : ∀ index, OperationsFit externals (allocated externals network index)

theorem exists_initialIpv4Offset {v4 : Ipv4Net} (usable : v4.prefixLen ≤ 30) :
    ∃ first last, initialIpv4Offset v4 = some first ∧ maxIpv4Offset v4 = some last := by
  have wide : 2 ^ 2 ≤ 2 ^ (32 - v4.prefixLen) :=
    Nat.pow_le_pow_right (by decide) (by omega)
  have narrow : 2 ^ (32 - v4.prefixLen) ≤ 2 ^ 32 :=
    Nat.pow_le_pow_right (by decide) (by omega)
  have lastAt : maxIpv4Offset v4 = some (2 ^ (32 - v4.prefixLen) - 2) := by
    unfold maxIpv4Offset
    rw [if_neg (by omega)]
    exact if_pos (by omega)
  unfold initialIpv4Offset
  rw [lastAt]
  dsimp only
  by_cases large : 10 ≤ 2 ^ (32 - v4.prefixLen) - 2
  · exact ⟨10, _, if_pos large, rfl⟩
  · exact ⟨1, _, by rw [if_neg large, if_pos (by omega)], rfl⟩

/-- A network that was just created, with any blocks that parse and any first block of at
most thirty bits of prefix, has room for the smaller of the two ranges of offsets. -/
theorem allocator_capacity (externals : Externals) (draws : Draws)
    (request : CreateNetworkRequest) (v4 : Ipv4Net) (v6 : Ipv6Net)
    (parsedV4 : externals.parseV4 (request.overlayV4.getD
      (deriveOverlayPrefixes externals draws.networkId).1) = some v4)
    (parsedV6 : externals.parseV6 (request.overlayV6.getD
      (deriveOverlayPrefixes externals draws.networkId).2) = some v6)
    (usable : v4.prefixLen ≤ 30) :
    ∃ planned first last, planNetwork externals draws request = .ok planned ∧
      initialIpv4Offset v4 = some first ∧ maxIpv4Offset v4 = some last ∧
      planned.state.nextIpv4 = first ∧ planned.state.nextIpv6 = initialIpv6Offset v6 ∧
      HandsOut externals planned.state v4 v6
        (min (last - first + 1) (maxIpv6Offset v6 - initialIpv6Offset v6 + 1)) := by
  obtain ⟨first, last, firstAt, lastAt⟩ := exists_initialIpv4Offset usable
  have plan : ∃ planned, planNetwork externals draws request = .ok planned ∧
      planned.overlayV4Net = v4 ∧ planned.overlayV6Net = v6 ∧
      planned.state.nextIpv4 = first ∧ planned.state.nextIpv6 = initialIpv6Offset v6 := by
    unfold planNetwork
    dsimp only
    rw [parsedV4]
    dsimp only
    rw [parsedV6]
    dsimp only
    rw [firstAt]
    exact ⟨_, rfl, rfl, rfl, rfl, rfl⟩
  obtain ⟨planned, isPlan, rfl, rfl, isFirst, isFirst6⟩ := plan
  obtain ⟨-, sound⟩ := planNetwork_sound isPlan
  obtain ⟨other, otherAt, positive, below, -⟩ := initialIpv4Offset_eq_some firstAt
  rw [lastAt, Option.some.injEq] at otherAt
  subst otherAt
  have below6 := (initialIpv6Offset_le planned.overlayV6Net).1
  have span := (maxIpv4Offset_eq_some lastAt).2
  refine ⟨planned, first, last, isPlan, firstAt, lastAt, isFirst, isFirst6, ?_, ?_, ?_, ?_, ?_⟩
  · omega
  · intro index inside
    have here := sound.allocated_of_room lastAt index (by omega) (by omega)
    have soundHere := sound.along index
    rw [here] at soundHere
    have next := soundHere.allocateNodeIps_of_room lastAt (by dsimp only; omega)
      (by dsimp only; omega)
    rw [here, next]
    simp only [Nat.add_assoc]
  · intro index inside
    unfold IpNet.broadcast
    omega
  · intro index outside
    have exhausted := sound.exhausted_of_capacity lastAt (by omega) (by omega)
    rw [isFirst, isFirst6] at exhausted
    have later := sound.exhausted_allocated lastAt exhausted outside
    exact ((sound.along index).allocateNodeIps_of_exhausted lastAt later).1
  · intro index
    exact (sound.along index).operationsFit

/-- The network of the sample requests has room for 245 nodes. -/
theorem sample_capacity :
    ∃ planned, planNetwork sampleExternals (sampleDraws 0 "net") sampleNetworkRequest =
        .ok planned ∧
      HandsOut sampleExternals planned.state ⟨167772160, 24, by decide, by decide⟩
        ⟨253 * 2 ^ 120, 64, by decide, by decide⟩ 245 := by
  obtain ⟨planned, first, last, isPlan, firstAt, lastAt, -, -, hands⟩ :=
    allocator_capacity sampleExternals (sampleDraws 0 "net") sampleNetworkRequest
      ⟨167772160, 24, by decide, by decide⟩ ⟨253 * 2 ^ 120, 64, by decide, by decide⟩
      (by rfl) (by rfl) (by decide)
  have isFirst : initialIpv4Offset ⟨167772160, 24, by decide, by decide⟩ = some 10 := by decide
  have isLast : maxIpv4Offset ⟨167772160, 24, by decide, by decide⟩ = some 254 := by decide
  rw [isFirst, Option.some.injEq] at firstAt
  rw [isLast, Option.some.injEq] at lastAt
  subst firstAt lastAt
  exact ⟨planned, isPlan, hands⟩

end Lightscale.ControlPlane
