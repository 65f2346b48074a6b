/-
No two nodes ever share an address.

Three mechanisms work together.  The counters of a network only grow and stay
inside its blocks, blocks of different networks are disjoint because creation
compares them, and a network is deleted only when no node refers to it.
-/

import Lightscale.ControlPlane.NodeChange

namespace Lightscale.ControlPlane

open Foundation

/-! ### One network -/

/-- A stored network whose blocks parse and whose counters are inside them. -/
structure NetworkSound (externals : Externals) (network : NetworkState) (v4 : Ipv4Net)
    (v6 : Ipv6Net) : Prop where
  parsedV4 : externals.parseV4 network.overlayV4 = some v4
  parsedV6 : externals.parseV6 network.overlayV6 = some v6
  usable : v4.prefixLen ≤ 30
  boundV4 : network.nextIpv4 + 1 ≤ 2 ^ v4.hostBits
  boundV6 : network.nextIpv6 ≤ 2 ^ v6.hostBits
  /-- The second counter never runs away from the first, so it cannot wrap. -/
  together : network.nextIpv6 ≤ network.nextIpv4 + 9

theorem NetworkSound.nextIpv4_lt {externals : Externals} {network : NetworkState}
    {v4 : Ipv4Net} {v6 : Ipv6Net} (sound : NetworkSound externals network v4 v6) :
    network.nextIpv4 < 2 ^ 32 := by
  have space : 2 ^ v4.hostBits ≤ 2 ^ 32 :=
    Nat.pow_le_pow_right (by decide) (Nat.sub_le 32 v4.prefixLen)
  have bound := sound.boundV4
  omega

theorem NetworkSound.nextIpv6_lt {externals : Externals} {network : NetworkState}
    {v4 : Ipv4Net} {v6 : Ipv6Net} (sound : NetworkSound externals network v4 v6) :
    network.nextIpv6 + 1 < 2 ^ 128 := by
  have first := sound.nextIpv4_lt
  have together := sound.together
  omega

structure Allocation (externals : Externals) (network advanced : NetworkState)
    (v4 : Ipv4Net) (v6 : Ipv6Net) (ipv4 ipv6 : String) : Prop where
  printed4 : ipv4 = externals.printV4 (v4.network + network.nextIpv4)
  printed6 : ipv6 = externals.printV6 (v6.network + network.nextIpv6)
  insideV4 : network.nextIpv4 < 2 ^ v4.hostBits
  insideV6 : network.nextIpv6 < 2 ^ v6.hostBits
  record : advanced =
    { network with
      nextIpv4 := network.nextIpv4 + 1
      nextIpv6 := network.nextIpv6 + 1 }
  sound : NetworkSound externals advanced v4 v6

theorem NetworkSound.advanceV4 {externals : Externals} {network : NetworkState}
    {v4 : Ipv4Net} {v6 : Ipv6Net} (sound : NetworkSound externals network v4 v6)
    {last : Nat} (lastAt : maxIpv4Offset v4 = some last) (fits : network.nextIpv4 ≤ last) :
    NetworkSound externals { network with nextIpv4 := network.nextIpv4 + 1 } v4 v6 := by
  have span := (maxIpv4Offset_eq_some lastAt).2
  have together := sound.together
  refine ⟨sound.parsedV4, sound.parsedV6, sound.usable, ?_, sound.boundV6, ?_⟩
  · change network.nextIpv4 + 1 + 1 ≤ 2 ^ v4.hostBits
    omega
  · change network.nextIpv6 ≤ network.nextIpv4 + 1 + 9
    omega

theorem NetworkSound.lastOffset {externals : Externals} {network : NetworkState}
    {v4 : Ipv4Net} {v6 : Ipv6Net} (sound : NetworkSound externals network v4 v6) :
    ∃ last, maxIpv4Offset v4 = some last ∧ 1 ≤ last := by
  have short := sound.usable
  have wide : 2 ^ 2 ≤ 2 ^ (32 - v4.prefixLen) :=
    Nat.pow_le_pow_right (by decide) (by omega)
  have narrow : 2 ^ (32 - v4.prefixLen) ≤ 2 ^ 32 :=
    Nat.pow_le_pow_right (by decide) (by omega)
  refine ⟨2 ^ (32 - v4.prefixLen) - 2, ?_, by omega⟩
  unfold maxIpv4Offset
  rw [if_neg (by omega)]
  exact if_pos (by omega)

inductive AllocationOutcome (externals : Externals) (network : NetworkState) (v4 : Ipv4Net)
    (v6 : Ipv6Net) (last : Nat) : Except ApiError (String × String) × NetworkState → Prop
  | exhaustedV4 (passedV4 : last < network.nextIpv4) :
      AllocationOutcome externals network v4 v6 last
        (.error (.conflict "ipv4 address space exhausted"), network)
  | exhaustedV6 (roomV4 : network.nextIpv4 ≤ last)
      (passedV6 : maxIpv6Offset v6 < network.nextIpv6) :
      AllocationOutcome externals network v4 v6 last
        (.error (.conflict "ipv6 address space exhausted"),
          { network with nextIpv4 := network.nextIpv4 + 1 })
  | issued (roomV4 : network.nextIpv4 ≤ last) (roomV6 : network.nextIpv6 ≤ maxIpv6Offset v6) :
      AllocationOutcome externals network v4 v6 last
        (.ok (externals.printV4 (v4.network + network.nextIpv4),
            externals.printV6 (v6.network + network.nextIpv6)),
          { network with
            nextIpv4 := network.nextIpv4 + 1
            nextIpv6 := network.nextIpv6 + 1 })

/-- None of the additions of the allocator wraps on a sound network. -/
theorem NetworkSound.outcome {externals : Externals} {network : NetworkState}
    {v4 : Ipv4Net} {v6 : Ipv6Net} {last : Nat} (sound : NetworkSound externals network v4 v6)
    (lastAt : maxIpv4Offset v4 = some last) :
    AllocationOutcome externals network v4 v6 last (allocateNodeIps externals network) := by
  rw [allocateNodeIps_eq sound.parsedV4 sound.parsedV6 lastAt]
  by_cases passedV4 : last < network.nextIpv4
  · rw [if_pos passedV4]
    exact .exhaustedV4 passedV4
  have roomV4 := Nat.not_lt.mp passedV4
  have nextV4 := (sound.advanceV4 lastAt roomV4).nextIpv4_lt
  change network.nextIpv4 + 1 < 2 ^ 32 at nextV4
  rw [if_neg passedV4, Nat.mod_eq_of_lt nextV4]
  by_cases passedV6 : maxIpv6Offset v6 < network.nextIpv6
  · rw [if_pos passedV6]
    exact .exhaustedV6 roomV4 passedV6
  have roomV6 := Nat.not_lt.mp passedV6
  have span := (maxIpv4Offset_eq_some lastAt).2
  have span6 := maxIpv6Offset_succ v6
  have fitsV4 := v4.network_add_lt (show network.nextIpv4 < 2 ^ v4.hostBits by omega)
  have fitsV6 := v6.network_add_lt (show network.nextIpv6 < 2 ^ v6.hostBits by omega)
  rw [if_neg passedV6, Nat.mod_eq_of_lt fitsV4, Nat.mod_eq_of_lt fitsV6,
    Nat.mod_eq_of_lt sound.nextIpv6_lt]
  exact .issued roomV4 roomV6

theorem allocateNodeIps_ok {externals : Externals} {network advanced : NetworkState}
    {v4 : Ipv4Net} {v6 : Ipv6Net} {ipv4 ipv6 : String}
    (sound : NetworkSound externals network v4 v6)
    (allocated : allocateNodeIps externals network = (.ok (ipv4, ipv6), advanced)) :
    Allocation externals network advanced v4 v6 ipv4 ipv6 := by
  obtain ⟨last, lastAt, _⟩ := sound.lastOffset
  have outcome := sound.outcome lastAt
  rw [allocated] at outcome
  cases outcome with
  | issued roomV4 roomV6 =>
      have span := (maxIpv4Offset_eq_some lastAt).2
      have span6 := maxIpv6Offset_succ v6
      have first := sound.advanceV4 lastAt roomV4
      refine ⟨rfl, rfl, by omega, by omega, rfl, ?_⟩
      refine ⟨first.parsedV4, first.parsedV6, first.usable, first.boundV4, ?_, ?_⟩
      · change network.nextIpv6 + 1 ≤ 2 ^ v6.hostBits
        omega
      · have together := sound.together
        change network.nextIpv6 + 1 ≤ network.nextIpv4 + 1 + 9
        omega

theorem allocateNodeIps_error {externals : Externals} {network advanced : NetworkState}
    {v4 : Ipv4Net} {v6 : Ipv6Net} {error : ApiError}
    (sound : NetworkSound externals network v4 v6)
    (refused : allocateNodeIps externals network = (.error error, advanced)) :
    (advanced = network ∨
        advanced = { network with nextIpv4 := network.nextIpv4 + 1 }) ∧
      NetworkSound externals advanced v4 v6 := by
  obtain ⟨last, lastAt, _⟩ := sound.lastOffset
  have outcome := sound.outcome lastAt
  rw [refused] at outcome
  cases outcome with
  | exhaustedV4 => exact ⟨Or.inl rfl, sound⟩
  | exhaustedV6 roomV4 => exact ⟨Or.inr rfl, sound.advanceV4 lastAt roomV4⟩

structure NetworkGrows (old new : NetworkState) : Prop where
  id : new.id = old.id
  overlayV4 : new.overlayV4 = old.overlayV4
  overlayV6 : new.overlayV6 = old.overlayV6
  nextIpv4 : old.nextIpv4 ≤ new.nextIpv4
  nextIpv6 : old.nextIpv6 ≤ new.nextIpv6

theorem NetworkGrows.refl (network : NetworkState) : NetworkGrows network network :=
  ⟨rfl, rfl, rfl, Nat.le_refl _, Nat.le_refl _⟩

theorem Allocation.grows {externals : Externals} {network advanced : NetworkState}
    {v4 : Ipv4Net} {v6 : Ipv6Net} {ipv4 ipv6 : String}
    (allocation : Allocation externals network advanced v4 v6 ipv4 ipv6) :
    NetworkGrows network advanced := by
  rw [allocation.record]
  exact ⟨rfl, rfl, rfl, Nat.le_succ _, Nat.le_succ _⟩

theorem NetworkEdit.grows {config : Config} {call : Call} {before : State} {networkId : String}
    {network edited : NetworkState} {v4 : Ipv4Net} {v6 : Ipv6Net}
    (edit : NetworkEdit config call before networkId network edited)
    (sound : NetworkSound config.externals network v4 v6) :
    NetworkGrows network edited ∧ NetworkSound config.externals edited v4 v6 := by
  cases edit with
  | acl policy asked admin =>
      exact ⟨⟨rfl, rfl, rfl, Nat.le_refl _, Nat.le_refl _⟩,
        ⟨sound.parsedV4, sound.parsedV6, sound.usable, sound.boundV4, sound.boundV6,
          sound.together⟩⟩
  | keyPolicy policy asked admin =>
      exact ⟨⟨rfl, rfl, rfl, Nat.le_refl _, Nat.le_refl _⟩,
        ⟨sound.parsedV4, sound.parsedV6, sound.usable, sound.boundV4, sound.boundV6,
          sound.together⟩⟩
  | offsetSpent error advanced enrolling failed =>
      obtain ⟨shape, advancedSound⟩ := allocateNodeIps_error sound failed
      refine ⟨?_, advancedSound⟩
      rcases shape with same | moved
      · subst same
        exact NetworkGrows.refl _
      · subst moved
        exact ⟨rfl, rfl, rfl, Nat.le_succ _, Nat.le_refl _⟩

/-! ### All networks and nodes -/

/-- The addresses of a node are offsets already passed by its network's counters. -/
structure Placed (externals : Externals) (network : NetworkState) (node : NodeState) :
    Prop where
  address : ∃ v4 v6 offset4 offset6,
    NetworkSound externals network v4 v6 ∧
    offset4 < network.nextIpv4 ∧ offset6 < network.nextIpv6 ∧
    node.ipv4 = externals.printV4 (v4.network + offset4) ∧
    node.ipv6 = externals.printV6 (v6.network + offset6)

structure Apart (externals : Externals) (left right : NetworkState) : Prop where
  v4 : ∀ leftNet rightNet, externals.parseV4 left.overlayV4 = some leftNet →
    externals.parseV4 right.overlayV4 = some rightNet → netsOverlap leftNet rightNet = false
  v6 : ∀ leftNet rightNet, externals.parseV6 left.overlayV6 = some leftNet →
    externals.parseV6 right.overlayV6 = some rightNet → netsOverlap leftNet rightNet = false

structure AddressInvariant (externals : Externals) (networks : Table String NetworkState)
    (nodes : Table String NodeState) : Prop where
  keyed : ∀ key network, networks.lookup key = some network → network.id = key
  sound : ∀ key network, networks.lookup key = some network →
    ∃ v4 v6, NetworkSound externals network v4 v6
  apart : ∀ leftKey left, networks.lookup leftKey = some left →
    ∀ rightKey right, networks.lookup rightKey = some right →
      leftKey ≠ rightKey → Apart externals left right
  placed : ∀ key node, nodes.lookup key = some node →
    ∃ network, networks.lookup node.networkId = some network ∧
      Placed externals network node
  distinct : ∀ leftKey left, nodes.lookup leftKey = some left →
    ∀ rightKey right, nodes.lookup rightKey = some right →
      leftKey ≠ rightKey → left.networkId = right.networkId →
        left.ipv4 ≠ right.ipv4 ∧ left.ipv6 ≠ right.ipv6

theorem addressInvariant_empty (externals : Externals) : AddressInvariant externals ∅ ∅ := by
  refine ⟨?_, ?_, ?_, ?_, ?_⟩
  · intro key network found
    cases found
  · intro key network found
    cases found
  · intro leftKey left found
    cases found
  · intro key node found
    cases found
  · intro leftKey left found
    cases found

theorem netsOverlap_comm {width : Nat} (left right : IpNet width) :
    netsOverlap left right = netsOverlap right left :=
  Bool.or_comm _ _

theorem Apart.symm {externals : Externals} {left right : NetworkState}
    (apart : Apart externals left right) : Apart externals right left := by
  constructor
  · intro rightNet leftNet rightAt leftAt
    rw [netsOverlap_comm]
    exact apart.v4 leftNet rightNet leftAt rightAt
  · intro rightNet leftNet rightAt leftAt
    rw [netsOverlap_comm]
    exact apart.v6 leftNet rightNet leftAt rightAt

theorem Placed.grows {externals : Externals} {old new : NetworkState} {node : NodeState}
    (placed : Placed externals old node) (grows : NetworkGrows old new)
    (sound : ∀ v4 v6, NetworkSound externals old v4 v6 → NetworkSound externals new v4 v6) :
    Placed externals new node := by
  obtain ⟨v4, v6, offset4, offset6, oldSound, below4, below6, ipv4, ipv6⟩ := placed.address
  exact ⟨v4, v6, offset4, offset6, sound v4 v6 oldSound,
    Nat.lt_of_lt_of_le below4 grows.nextIpv4, Nat.lt_of_lt_of_le below6 grows.nextIpv6,
    ipv4, ipv6⟩

theorem Placed.congr {externals : Externals} {network : NetworkState}
    {old new : NodeState} (placed : Placed externals network old)
    (ipv4 : new.ipv4 = old.ipv4) (ipv6 : new.ipv6 = old.ipv6) :
    Placed externals network new := by
  obtain ⟨v4, v6, offset4, offset6, sound, below4, below6, at4, at6⟩ := placed.address
  exact ⟨v4, v6, offset4, offset6, sound, below4, below6, ipv4.trans at4, ipv6.trans at6⟩

theorem Allocation.placed {externals : Externals} {network advanced : NetworkState}
    {v4 : Ipv4Net} {v6 : Ipv6Net} {ipv4 ipv6 : String}
    (allocation : Allocation externals network advanced v4 v6 ipv4 ipv6) {node : NodeState}
    (at4 : node.ipv4 = ipv4) (at6 : node.ipv6 = ipv6) :
    Placed externals advanced node := by
  refine ⟨v4, v6, network.nextIpv4, network.nextIpv6, allocation.sound, ?_, ?_,
    at4.trans allocation.printed4, at6.trans allocation.printed6⟩
  · rw [allocation.record]
    exact Nat.lt_succ_self _
  · rw [allocation.record]
    exact Nat.lt_succ_self _

theorem Allocation.ne_of_placed {externals : Externals}
    (printing : externals.PrintsInjectively) {network advanced : NetworkState}
    {v4 : Ipv4Net} {v6 : Ipv6Net} {ipv4 ipv6 : String}
    (allocation : Allocation externals network advanced v4 v6 ipv4 ipv6) {node : NodeState}
    (placed : Placed externals network node) :
    node.ipv4 ≠ ipv4 ∧ node.ipv6 ≠ ipv6 := by
  obtain ⟨placed4, placed6, offset4, offset6, sound, below4, below6, at4, at6⟩ :=
    placed.address
  have parsed4 := allocation.sound.parsedV4
  have parsed6 := allocation.sound.parsedV6
  rw [allocation.grows.overlayV4, sound.parsedV4, Option.some.injEq] at parsed4
  rw [allocation.grows.overlayV6, sound.parsedV6, Option.some.injEq] at parsed6
  subst parsed4
  subst parsed6
  have inside4 := allocation.insideV4
  have inside6 := allocation.insideV6
  constructor
  · intro same
    rw [at4, allocation.printed4] at same
    have equal := printing.printV4 _ _ (placed4.network_add_lt (by omega))
      (placed4.network_add_lt inside4) same
    omega
  · intro same
    rw [at6, allocation.printed6] at same
    have equal := printing.printV6 _ _ (placed6.network_add_lt (by omega))
      (placed6.network_add_lt inside6) same
    omega

/-! ### Edits of the two tables -/

theorem grows_of_replace {externals : Externals} {networks : Table String NetworkState}
    {networkId : String} {network edited : NetworkState}
    (networkAt : networks.lookup networkId = some network)
    (grows : NetworkGrows network edited)
    (keeps : ∀ v4 v6, NetworkSound externals network v4 v6 →
      NetworkSound externals edited v4 v6)
    {key : String} {new : NetworkState}
    (found : (networks.replace networkId edited).lookup key = some new) :
    ∃ old, networks.lookup key = some old ∧ NetworkGrows old new ∧
      ∀ v4 v6, NetworkSound externals old v4 v6 → NetworkSound externals new v4 v6 := by
  rw [Table.lookup_replace_eq networkAt] at found
  by_cases same : key = networkId
  · rw [if_pos same, Option.some.injEq] at found
    subst same
    subst found
    exact ⟨network, networkAt, grows, keeps⟩
  · rw [if_neg same] at found
    exact ⟨new, found, NetworkGrows.refl new, fun _ _ sound => sound⟩

theorem Apart.grows {externals : Externals} {left right newLeft newRight : NetworkState}
    (apart : Apart externals left right) (leftGrows : NetworkGrows left newLeft)
    (rightGrows : NetworkGrows right newRight) : Apart externals newLeft newRight := by
  constructor
  · intro leftNet rightNet leftAt rightAt
    rw [leftGrows.overlayV4] at leftAt
    rw [rightGrows.overlayV4] at rightAt
    exact apart.v4 leftNet rightNet leftAt rightAt
  · intro leftNet rightNet leftAt rightAt
    rw [leftGrows.overlayV6] at leftAt
    rw [rightGrows.overlayV6] at rightAt
    exact apart.v6 leftNet rightNet leftAt rightAt

theorem AddressInvariant.editNetwork {externals : Externals}
    {networks : Table String NetworkState} {nodes : Table String NodeState}
    (inv : AddressInvariant externals networks nodes)
    {networkId : String} {network edited : NetworkState}
    (networkAt : networks.lookup networkId = some network)
    (grows : NetworkGrows network edited)
    (keeps : ∀ v4 v6, NetworkSound externals network v4 v6 →
      NetworkSound externals edited v4 v6) :
    AddressInvariant externals (networks.replace networkId edited) nodes := by
  refine ⟨?_, ?_, ?_, ?_, inv.distinct⟩
  · intro key new found
    obtain ⟨old, oldAt, oldGrows, _⟩ := grows_of_replace networkAt grows keeps found
    exact oldGrows.id.trans (inv.keyed key old oldAt)
  · intro key new found
    obtain ⟨old, oldAt, _, oldKeeps⟩ := grows_of_replace networkAt grows keeps found
    obtain ⟨v4, v6, sound⟩ := inv.sound key old oldAt
    exact ⟨v4, v6, oldKeeps v4 v6 sound⟩
  · intro leftKey left leftAt rightKey right rightAt different
    obtain ⟨oldLeft, oldLeftAt, leftGrows, _⟩ :=
      grows_of_replace networkAt grows keeps leftAt
    obtain ⟨oldRight, oldRightAt, rightGrows, _⟩ :=
      grows_of_replace networkAt grows keeps rightAt
    exact (inv.apart leftKey oldLeft oldLeftAt rightKey oldRight oldRightAt different).grows
      leftGrows rightGrows
  · intro key node nodeAt
    obtain ⟨old, oldAt, placed⟩ := inv.placed key node nodeAt
    rw [Table.lookup_replace_eq networkAt]
    by_cases same : node.networkId = networkId
    · rw [if_pos same]
      rw [same, networkAt, Option.some.injEq] at oldAt
      subst oldAt
      exact ⟨edited, rfl, placed.grows grows keeps⟩
    · rw [if_neg same]
      exact ⟨old, oldAt, placed⟩

theorem AddressInvariant.addNode {externals : Externals}
    {networks : Table String NetworkState} {nodes : Table String NodeState}
    (inv : AddressInvariant externals networks nodes) {nodeId : String} {node : NodeState}
    {network : NetworkState} (networkAt : networks.lookup node.networkId = some network)
    (placed : Placed externals network node)
    (fresh : ∀ key other, nodes.lookup key = some other →
      other.networkId = node.networkId → other.ipv4 ≠ node.ipv4 ∧ other.ipv6 ≠ node.ipv6) :
    AddressInvariant externals networks (nodes.insert nodeId node) := by
  refine ⟨inv.keyed, inv.sound, inv.apart, ?_, ?_⟩
  · exact Table.forall_lookup_insert inv.placed ⟨network, networkAt, placed⟩
  · refine Table.forall_pairs_insert ?_ inv.distinct ?_
    · intro left right apart sameNetwork
      exact ⟨(apart sameNetwork.symm).1.symm, (apart sameNetwork.symm).2.symm⟩
    · intro key other otherAt _ sameNetwork
      have apart := fresh key other otherAt sameNetwork.symm
      exact ⟨apart.1.symm, apart.2.symm⟩

theorem AddressInvariant.editNode {externals : Externals}
    {networks : Table String NetworkState} {nodes : Table String NodeState}
    (inv : AddressInvariant externals networks nodes) {nodeId : String}
    {node edited : NodeState} (nodeAt : nodes.lookup nodeId = some node)
    (networkId : edited.networkId = node.networkId) (ipv4 : edited.ipv4 = node.ipv4)
    (ipv6 : edited.ipv6 = node.ipv6) :
    AddressInvariant externals networks (nodes.replace nodeId edited) := by
  have origin : ∀ key item, (nodes.replace nodeId edited).lookup key = some item →
      ∃ old, nodes.lookup key = some old ∧ item.networkId = old.networkId ∧
        item.ipv4 = old.ipv4 ∧ item.ipv6 = old.ipv6 :=
    Table.forall_lookup_replace nodeAt (fun _ item found => ⟨item, found, rfl, rfl, rfl⟩)
      ⟨node, nodeAt, networkId, ipv4, ipv6⟩
  refine ⟨inv.keyed, inv.sound, inv.apart, ?_, ?_⟩
  · intro key item found
    obtain ⟨old, oldAt, sameNetwork, same4, same6⟩ := origin key item found
    obtain ⟨network, networkAt, placed⟩ := inv.placed key old oldAt
    rw [sameNetwork]
    exact ⟨network, networkAt, placed.congr same4 same6⟩
  · intro leftKey left leftAt rightKey right rightAt different sameNetwork
    obtain ⟨oldLeft, oldLeftAt, leftNetwork, left4, left6⟩ := origin leftKey left leftAt
    obtain ⟨oldRight, oldRightAt, rightNetwork, right4, right6⟩ :=
      origin rightKey right rightAt
    rw [leftNetwork, rightNetwork] at sameNetwork
    rw [left4, left6, right4, right6]
    exact inv.distinct leftKey oldLeft oldLeftAt rightKey oldRight oldRightAt different
      sameNetwork

theorem AddressInvariant.eraseNode {externals : Externals}
    {networks : Table String NetworkState} {nodes : Table String NodeState}
    (inv : AddressInvariant externals networks nodes) (nodeId : String) :
    AddressInvariant externals networks (nodes.erase nodeId) := by
  exact ⟨inv.keyed, inv.sound, inv.apart, Table.forall_lookup_erase inv.placed,
    Table.forall_pairs_erase inv.distinct⟩

theorem AddressInvariant.eraseNetwork {externals : Externals}
    {networks : Table String NetworkState} {nodes : Table String NodeState}
    (inv : AddressInvariant externals networks nodes) {networkId : String}
    (empty : ∀ key node, nodes.lookup key = some node → node.networkId ≠ networkId) :
    AddressInvariant externals (networks.erase networkId) nodes := by
  refine ⟨Table.forall_lookup_erase inv.keyed, Table.forall_lookup_erase inv.sound,
    Table.forall_pairs_erase inv.apart, ?_, inv.distinct⟩
  intro key node nodeAt
  rw [Table.lookup_erase_eq, if_neg (empty key node nodeAt)]
  exact inv.placed key node nodeAt

/-! ### A new network -/

theorem checkOverlaps_ok {externals : Externals} {v4 : Ipv4Net} {v6 : Ipv6Net}
    {existing : List NetworkState} (passed : checkOverlaps externals v4 v6 existing = .ok ()) :
    ∀ network ∈ existing, ∃ v4' v6', externals.parseV4 network.overlayV4 = some v4' ∧
      externals.parseV6 network.overlayV6 = some v6' ∧
      netsOverlap v4 v4' = false ∧ netsOverlap v6 v6' = false := by
  induction existing with
  | nil =>
      intro network member
      cases member
  | cons head rest ih =>
      unfold checkOverlaps at passed
      cases parsed4 : externals.parseV4 head.overlayV4 with
      | none =>
          rw [parsed4] at passed
          cases passed
      | some v4' =>
          rw [parsed4] at passed
          dsimp only at passed
          cases overlap4 : ipv4NetsOverlap v4 v4' with
          | true =>
              rw [overlap4] at passed
              cases passed
          | false =>
              rw [overlap4] at passed
              simp only [Bool.false_eq_true, if_false] at passed
              cases parsed6 : externals.parseV6 head.overlayV6 with
              | none =>
                  rw [parsed6] at passed
                  cases passed
              | some v6' =>
                  rw [parsed6] at passed
                  dsimp only at passed
                  cases overlap6 : ipv6NetsOverlap v6 v6' with
                  | true =>
                      rw [overlap6] at passed
                      cases passed
                  | false =>
                      rw [overlap6] at passed
                      simp only [Bool.false_eq_true, if_false] at passed
                      intro network member
                      rcases List.mem_cons.mp member with same | later
                      · subst same
                        exact ⟨v4', v6', parsed4, parsed6, overlap4, overlap6⟩
                      · exact ih passed network later

theorem planNetwork_sound {externals : Externals} {draws : Draws}
    {request : CreateNetworkRequest} {planned : PlannedNetwork}
    (plan : planNetwork externals draws request = .ok planned) :
    planned.state.id = draws.networkId ∧
      NetworkSound externals planned.state planned.overlayV4Net planned.overlayV6Net := by
  unfold planNetwork at plan
  dsimp only at plan
  split at plan
  · cases plan
  · rename_i v4 parsed4
    split at plan
    · cases plan
    · rename_i v6 parsed6
      split at plan
      · cases plan
      · rename_i first firstAt
        cases plan
        obtain ⟨last, lastAt, _, below, small⟩ := initialIpv4Offset_eq_some firstAt
        obtain ⟨short, span⟩ := maxIpv4Offset_eq_some lastAt
        obtain ⟨below6, small6⟩ := initialIpv6Offset_le v6
        have span6 := maxIpv6Offset_succ v6
        refine ⟨rfl, parsed4, parsed6, short, ?_, ?_, ?_⟩
        · change first + 1 ≤ 2 ^ v4.hostBits
          omega
        · change initialIpv6Offset v6 ≤ 2 ^ v6.hostBits
          omega
        · change initialIpv6Offset v6 ≤ first + 9
          omega

theorem AddressInvariant.addNetwork {externals : Externals} {draws : Draws}
    {request : CreateNetworkRequest} {planned : PlannedNetwork}
    {networks : Table String NetworkState} {nodes : Table String NodeState}
    (inv : AddressInvariant externals networks nodes)
    (plan : planNetwork externals draws request = .ok planned)
    (absent : networks.lookup planned.state.id = none)
    (passed : checkOverlaps externals planned.overlayV4Net planned.overlayV6Net
      networks.values = .ok ()) :
    AddressInvariant externals (networks.insert planned.state.id planned.state) nodes := by
  have sound := (planNetwork_sound plan).2
  have apart : ∀ key network, networks.lookup key = some network →
      Apart externals planned.state network := by
    intro key network found
    obtain ⟨v4, v6, parsed4, parsed6, apart4, apart6⟩ :=
      checkOverlaps_ok passed network ((Table.mem_values_iff networks network).mpr ⟨key, found⟩)
    constructor
    · intro left right leftAt rightAt
      rw [sound.parsedV4, Option.some.injEq] at leftAt
      rw [parsed4, Option.some.injEq] at rightAt
      rw [← leftAt, ← rightAt]
      exact apart4
    · intro left right leftAt rightAt
      rw [sound.parsedV6, Option.some.injEq] at leftAt
      rw [parsed6, Option.some.injEq] at rightAt
      rw [← leftAt, ← rightAt]
      exact apart6
  refine ⟨Table.forall_lookup_insert inv.keyed rfl,
    Table.forall_lookup_insert inv.sound ⟨_, _, sound⟩, ?_, ?_, inv.distinct⟩
  · exact Table.forall_pairs_insert (fun _ _ apart => apart.symm) inv.apart
      (fun key network found _ => apart key network found)
  · intro key node nodeAt
    obtain ⟨network, networkAt, placed⟩ := inv.placed key node nodeAt
    have different : node.networkId ≠ planned.state.id := by
      intro same
      rw [same, absent] at networkAt
      cases networkAt
    rw [Table.lookup_insert_eq, if_neg different]
    exact ⟨network, networkAt, placed⟩

/-! ### Every step -/

theorem AddressInvariant.allocation {externals : Externals}
    {networks : Table String NetworkState} {nodes : Table String NodeState}
    (inv : AddressInvariant externals networks nodes) {networkId : String}
    {network advanced : NetworkState} {ipv4 ipv6 : String}
    (networkAt : networks.lookup networkId = some network)
    (allocated : allocateNodeIps externals network = (.ok (ipv4, ipv6), advanced)) :
    ∃ v4 v6, Allocation externals network advanced v4 v6 ipv4 ipv6 ∧
      ∀ v4 v6, NetworkSound externals network v4 v6 →
        NetworkSound externals advanced v4 v6 := by
  obtain ⟨v4, v6, sound⟩ := inv.sound networkId network networkAt
  refine ⟨v4, v6, allocateNodeIps_ok sound allocated, ?_⟩
  intro other4 other6 otherSound
  exact (allocateNodeIps_ok otherSound allocated).sound

theorem AddressInvariant.networkEdit {config : Config} {call : Call} {before : State}
    {networks : Table String NetworkState} {nodes : Table String NodeState}
    (inv : AddressInvariant config.externals networks nodes) {networkId : String}
    {network edited : NetworkState}
    (networkAt : networks.lookup networkId = some network)
    (edit : NetworkEdit config call before networkId network edited) :
    NetworkGrows network edited ∧
      ∀ v4 v6, NetworkSound config.externals network v4 v6 →
        NetworkSound config.externals edited v4 v6 := by
  obtain ⟨v4, v6, sound⟩ := inv.sound networkId network networkAt
  exact ⟨(edit.grows sound).1, fun _ _ otherSound => (edit.grows otherSound).2⟩

theorem Transition.addressInvariant {config : Config} {call : Call} {before after : State}
    {made : Option NodeState} {granted : Option TokenState}
    (printing : config.externals.PrintsInjectively)
    (transition : Transition config call before after made granted)
    (inv : AddressInvariant config.externals before.networks before.nodes) :
    AddressInvariant config.externals after.networks after.nodes := by
  cases transition with
  | idle leaves =>
      rw [leaves.networks, leaves.nodes]
      exact inv
  | networkCreated request planned _ entry asked admin plan absent apart grant leaves =>
      rw [leaves.networks, leaves.nodes]
      exact inv.addNetwork plan absent apart
  | networkDeleted networkId network entry asked admin networkAt empty leaves =>
      rw [leaves.networks, leaves.nodes]
      exact inv.eraseNetwork empty
  | networkEdited networkId network edited entries networkAt edit leaves =>
      rw [leaves.networks, leaves.nodes]
      obtain ⟨grows, keeps⟩ := inv.networkEdit networkAt edit
      exact inv.editNetwork networkAt grows keeps
  | tokenCreated networkId request network token entry asked admin networkAt grant leaves =>
      rw [leaves.networks, leaves.nodes]
      exact inv
  | tokenRevoked tokenId token entry asked admin tokenAt leaves =>
      rw [leaves.networks, leaves.nodes]
      exact inv
  | nodeRegistered networkId network advanced ipv4 ipv6 node tokens entry networkAt allocated
      registration leaves =>
      rw [leaves.networks, leaves.nodes]
      have new := registration.newNode
      have home : node.networkId = networkId :=
        new.networkId.trans (inv.keyed networkId network networkAt)
      obtain ⟨v4, v6, allocation, keeps⟩ := inv.allocation networkAt allocated
      -- First the counters advance, then the node takes the offsets they passed.
      refine (inv.editNetwork networkAt allocation.grows keeps).addNode ?_
        (allocation.placed new.at4 new.at6) ?_
      · rw [home, Table.lookup_replace_eq networkAt, if_pos rfl]
      · intro key other otherAt sameNetwork
        obtain ⟨old, oldAt, placed⟩ := inv.placed key other otherAt
        rw [sameNetwork, home, networkAt, Option.some.injEq] at oldAt
        subst oldAt
        rw [new.at4, new.at6]
        exact allocation.ne_of_placed printing placed
  | nodeEdited nodeId node edited entries nodeAt edit leaves =>
      rw [leaves.networks, leaves.nodes]
      have same := edit.sameIdentity
      exact inv.editNode nodeAt same.networkId same.ipv4 same.ipv6
  | nodeDeleted nodeId node entry asked admin nodeAt leaves =>
      rw [leaves.networks, leaves.nodes]
      exact inv.eraseNode nodeId

theorem run_addressInvariant (config : Config) (calls : List Call)
    (printing : config.externals.PrintsInjectively) :
    AddressInvariant config.externals (run config calls).networks (run config calls).nodes := by
  refine exec_invariant (step config)
    (fun state => AddressInvariant config.externals state.networks state.nodes) ?_
    State.default (addressInvariant_empty config.externals) calls
  intro state call inv
  exact (step_transition config state call).addressInvariant printing inv

/-- Nodes of different networks cannot share an address, as their blocks are disjoint. -/
theorem AddressInvariant.ne_of_different_networks {externals : Externals}
    {networks : Table String NetworkState} {nodes : Table String NodeState}
    (printing : externals.PrintsInjectively)
    (inv : AddressInvariant externals networks nodes) {leftKey rightKey : String}
    {left right : NodeState} (leftAt : nodes.lookup leftKey = some left)
    (rightAt : nodes.lookup rightKey = some right)
    (different : left.networkId ≠ right.networkId) :
    left.ipv4 ≠ right.ipv4 ∧ left.ipv6 ≠ right.ipv6 := by
  obtain ⟨leftNet, leftNetAt, leftPlaced⟩ := inv.placed leftKey left leftAt
  obtain ⟨rightNet, rightNetAt, rightPlaced⟩ := inv.placed rightKey right rightAt
  have apart := inv.apart _ leftNet leftNetAt _ rightNet rightNetAt different
  obtain ⟨left4, left6, leftOff4, leftOff6, leftSound, leftLt4, leftLt6, leftIs4, leftIs6⟩ :=
    leftPlaced.address
  obtain ⟨right4, right6, rightOff4, rightOff6, rightSound, rightLt4, rightLt6, rightIs4,
    rightIs6⟩ := rightPlaced.address
  have leftBound4 := leftSound.boundV4
  have leftBound6 := leftSound.boundV6
  have rightBound4 := rightSound.boundV4
  have rightBound6 := rightSound.boundV6
  have leftIn4 : leftOff4 < 2 ^ left4.hostBits := by omega
  have rightIn4 : rightOff4 < 2 ^ right4.hostBits := by omega
  have leftIn6 : leftOff6 < 2 ^ left6.hostBits := by omega
  have rightIn6 : rightOff6 < 2 ^ right6.hostBits := by omega
  constructor
  · intro same
    rw [leftIs4, rightIs4] at same
    have equal := printing.printV4 _ _ (left4.network_add_lt leftIn4)
      (right4.network_add_lt rightIn4) same
    have common : netsOverlap left4 right4 = true := by
      refine (netsOverlap_iff left4 right4).mpr ⟨left4.network + leftOff4, ?_, ?_⟩
      · exact left4.contains_network_add leftIn4
      · rw [equal]
        exact right4.contains_network_add rightIn4
    rw [apart.v4 left4 right4 leftSound.parsedV4 rightSound.parsedV4] at common
    cases common
  · intro same
    rw [leftIs6, rightIs6] at same
    have equal := printing.printV6 _ _ (left6.network_add_lt leftIn6)
      (right6.network_add_lt rightIn6) same
    have common : netsOverlap left6 right6 = true := by
      refine (netsOverlap_iff left6 right6).mpr ⟨left6.network + leftOff6, ?_, ?_⟩
      · exact left6.contains_network_add leftIn6
      · rw [equal]
        exact right6.contains_network_add rightIn6
    rw [apart.v6 left6 right6 leftSound.parsedV6 rightSound.parsedV6] at common
    cases common

/-! ### Addresses of deleted nodes -/

theorem Transition.network_kept {config : Config} {call : Call} {before after : State}
    {made : Option NodeState} {granted : Option TokenState}
    (transition : Transition config call before after made granted)
    (inv : AddressInvariant config.externals before.networks before.nodes)
    {key : String} {network : NetworkState}
    (networkAt : before.networks.lookup key = some network)
    (present : after.networks.lookup key ≠ none) :
    ∃ kept, after.networks.lookup key = some kept ∧ NetworkGrows network kept ∧
      ∀ v4 v6, NetworkSound config.externals network v4 v6 →
        NetworkSound config.externals kept v4 v6 := by
  cases transition.networkChange key with
  | kept same =>
      exact ⟨network, same.trans networkAt, NetworkGrows.refl network, fun _ _ sound => sound⟩
  | created request planned plan isKey absent newAt =>
      rw [absent] at networkAt
      cases networkAt
  | edited old new oldAt edit newAt =>
      rw [networkAt, Option.some.injEq] at oldAt
      subst oldAt
      obtain ⟨grows, keeps⟩ := inv.networkEdit networkAt edit
      exact ⟨new, newAt, grows, keeps⟩
  | advanced old new ipv4 ipv6 oldAt allocated newAt =>
      rw [networkAt, Option.some.injEq] at oldAt
      subst oldAt
      obtain ⟨v4, v6, allocation, keeps⟩ := inv.allocation networkAt allocated
      exact ⟨new, newAt, allocation.grows, keeps⟩
  | deleted asked gone => exact absurd gone present

theorem Transition.made_allocation {config : Config} {call : Call} {before after : State}
    {node : NodeState} {granted : Option TokenState}
    (transition : Transition config call before after (some node) granted)
    (inv : AddressInvariant config.externals before.networks before.nodes) :
    ∃ network advanced v4 v6,
      before.networks.lookup node.networkId = some network ∧
      after.networks.lookup node.networkId = some advanced ∧
      Allocation config.externals network advanced v4 v6 node.ipv4 node.ipv6 := by
  cases transition with
  | nodeRegistered networkId network advanced ipv4 ipv6 node tokens entry networkAt allocated
      registration leaves =>
      have new := registration.newNode
      have home : node.networkId = networkId :=
        new.networkId.trans (inv.keyed networkId network networkAt)
      obtain ⟨v4, v6, allocation, _⟩ := inv.allocation networkAt allocated
      refine ⟨network, advanced, v4, v6, ?_, ?_, ?_⟩
      · rw [home]
        exact networkAt
      · rw [home, leaves.networks, Table.lookup_replace_eq networkAt, if_pos rfl]
      · rw [new.at4, new.at6]
        exact allocation

/-- Every address issued in a network that still lives was passed by its counters. -/
def IssuedPlaced (config : Config) (past : List (Event State Call)) (state : State) : Prop :=
  ∀ early first late node, past = early ++ first :: late →
    createdNode config first.before first.input = some node →
    (∀ event ∈ late, event.after.networks.lookup node.networkId ≠ none) →
    ∃ network, state.networks.lookup node.networkId = some network ∧
      Placed config.externals network node

theorem history_issuedPlaced (config : Config) (calls : List Call)
    (printing : config.externals.PrintsInjectively) :
    AddressInvariant config.externals (run config calls).networks (run config calls).nodes ∧
      IssuedPlaced config (history config calls) (run config calls) := by
  refine trace_invariant (step config)
    (fun past state => AddressInvariant config.externals state.networks state.nodes ∧
      IssuedPlaced config past state) State.default ⟨addressInvariant_empty _, ?_⟩ ?_ calls
  · intro early first late node split
    cases early with
    | nil => cases split
    | cons head tail => cases split
  · intro past state call both
    obtain ⟨inv, issued⟩ := both
    have transition := step_transition config state call
    refine ⟨transition.addressInvariant printing inv, ?_⟩
    intro early first late node split created alive
    rcases snoc_split split with ⟨_, _, isLast⟩ | ⟨shorter, lateEq, pastEq⟩
    · -- The node was created by the last request.
      subst isLast
      change createdNode config state call = some node at created
      rw [created] at transition
      obtain ⟨network, advanced, v4, v6, _, advancedAt, allocation⟩ :=
        transition.made_allocation inv
      exact ⟨advanced, advancedAt, allocation.placed rfl rfl⟩
    · subst lateEq
      obtain ⟨network, networkAt, placed⟩ := issued early first shorter node pastEq created
        (fun event member => alive event (List.mem_append_left _ member))
      have present := alive _ (List.mem_append_right shorter List.mem_cons_self)
      obtain ⟨kept, keptAt, grows, keeps⟩ := transition.network_kept inv networkAt present
      exact ⟨kept, keptAt, placed.grows grows keeps⟩

theorem issued_ne (config : Config) (calls : List Call)
    (printing : config.externals.PrintsInjectively)
    {past middle rest : List (Event State Call)} {first second : Event State Call}
    (split : history config calls = past ++ first :: (middle ++ second :: rest))
    {earlier later : NodeState}
    (madeFirst : createdNode config first.before first.input = some earlier)
    (madeSecond : createdNode config second.before second.input = some later)
    (sameNetwork : earlier.networkId = later.networkId)
    (alive : ∀ event ∈ middle, event.after.networks.lookup earlier.networkId ≠ none) :
    earlier.ipv4 ≠ later.ipv4 ∧ earlier.ipv6 ≠ later.ipv6 := by
  have regrouped : history config calls = (past ++ first :: middle) ++ second :: rest := by
    rw [split, List.append_assoc]
    rfl
  obtain ⟨early, late, _, pastEq, secondEq⟩ :=
    trace_split (step config) State.default calls _ rest second regrouped
  obtain ⟨inv, issued⟩ := history_issuedPlaced config early printing
  have reached : second.before = run config early := by
    rw [secondEq]
    rfl
  obtain ⟨network, networkAt, placed⟩ :=
    issued past first middle earlier pastEq madeFirst alive
  have transition := step_transition config (run config early) second.input
  rw [reached] at madeSecond
  rw [madeSecond] at transition
  obtain ⟨current, advanced, v4, v6, currentAt, _, allocation⟩ :=
    transition.made_allocation inv
  rw [← sameNetwork, networkAt, Option.some.injEq] at currentAt
  subst currentAt
  exact allocation.ne_of_placed printing placed

theorem Placed.inside {externals : Externals} {network : NetworkState} {node : NodeState}
    (placed : Placed externals network node) :
    ∃ v4 v6 address4 address6,
      externals.parseV4 network.overlayV4 = some v4 ∧ v4.contains address4 = true ∧
      node.ipv4 = externals.printV4 address4 ∧
      externals.parseV6 network.overlayV6 = some v6 ∧ v6.contains address6 = true ∧
      node.ipv6 = externals.printV6 address6 := by
  obtain ⟨v4, v6, offset4, offset6, sound, below4, below6, is4, is6⟩ := placed.address
  have bound4 := sound.boundV4
  have bound6 := sound.boundV6
  have inside4 : offset4 < 2 ^ v4.hostBits := by omega
  have inside6 : offset6 < 2 ^ v6.hostBits := by omega
  exact ⟨v4, v6, v4.network + offset4, v6.network + offset6, sound.parsedV4,
    v4.contains_network_add inside4, is4, sound.parsedV6, v6.contains_network_add inside6, is6⟩

/-- Addresses are unique among all nodes, lie inside their network's blocks, and are
never issued again while the network lives, even after their node is gone. -/
theorem addresses_unique_inside_and_never_reissued (config : Config) (calls : List Call)
    (printing : config.externals.PrintsInjectively) :
    (∀ leftId left rightId right,
      (run config calls).nodes.lookup leftId = some left →
      (run config calls).nodes.lookup rightId = some right →
      leftId ≠ rightId → left.ipv4 ≠ right.ipv4 ∧ left.ipv6 ≠ right.ipv6) ∧
    (∀ nodeId node, (run config calls).nodes.lookup nodeId = some node →
      ∃ network v4 v6 address4 address6,
        (run config calls).networks.lookup node.networkId = some network ∧
        config.externals.parseV4 network.overlayV4 = some v4 ∧
        v4.contains address4 = true ∧ node.ipv4 = config.externals.printV4 address4 ∧
        config.externals.parseV6 network.overlayV6 = some v6 ∧
        v6.contains address6 = true ∧ node.ipv6 = config.externals.printV6 address6) ∧
    (∀ past first middle second rest earlier later,
      history config calls = past ++ first :: (middle ++ second :: rest) →
      createdNode config first.before first.input = some earlier →
      createdNode config second.before second.input = some later →
      earlier.networkId = later.networkId →
      (∀ event ∈ middle, event.after.networks.lookup earlier.networkId ≠ none) →
      earlier.ipv4 ≠ later.ipv4 ∧ earlier.ipv6 ≠ later.ipv6) := by
  have inv := run_addressInvariant config calls printing
  refine ⟨?_, ?_, ?_⟩
  · intro leftId left rightId right leftAt rightAt different
    by_cases sameNetwork : left.networkId = right.networkId
    · exact inv.distinct leftId left leftAt rightId right rightAt different sameNetwork
    · exact inv.ne_of_different_networks printing leftAt rightAt sameNetwork
  · intro nodeId node nodeAt
    obtain ⟨network, networkAt, placed⟩ := inv.placed nodeId node nodeAt
    obtain ⟨v4, v6, address4, address6, inside⟩ := placed.inside
    exact ⟨network, v4, v6, address4, address6, networkAt, inside⟩
  · intro past first middle second rest earlier later split madeFirst madeSecond
    exact issued_ne config calls printing split madeFirst madeSecond

def sampleAddressCalls : List Call :=
  [createSample 0, registerSample 1 "a" "alpha", registerSample 2 "b" "beta",
    adminCall 3 "x" (.deleteNode "a"), registerSample 4 "c" "gamma"]

theorem sample_addresses_unique_inside_and_never_reissued :
    (∃ left right, (run sampleConfig sampleAddressCalls).nodes.lookup "b" = some left ∧
      (run sampleConfig sampleAddressCalls).nodes.lookup "c" = some right ∧
      left.ipv4 ≠ right.ipv4 ∧ left.ipv6 ≠ right.ipv6) ∧
    ∃ earlier later,
      createdNode sampleConfig (run sampleConfig (sampleAddressCalls.take 1))
        (registerSample 1 "a" "alpha") = some earlier ∧
      createdNode sampleConfig (run sampleConfig (sampleAddressCalls.take 4))
        (registerSample 4 "c" "gamma") = some later ∧
      earlier.ipv4 ≠ later.ipv4 ∧ earlier.ipv6 ≠ later.ipv6 := by
  obtain ⟨unique, _, reissued⟩ := addresses_unique_inside_and_never_reissued sampleConfig
    sampleAddressCalls sampleExternals_printsInjectively
  constructor
  · have leftThere : ((run sampleConfig sampleAddressCalls).nodes.lookup "b").isSome = true := by
      decide +kernel
    have rightThere : ((run sampleConfig sampleAddressCalls).nodes.lookup "c").isSome = true := by
      decide +kernel
    obtain ⟨left, leftAt⟩ := Option.isSome_iff_exists.mp leftThere
    obtain ⟨right, rightAt⟩ := Option.isSome_iff_exists.mp rightThere
    exact ⟨left, right, leftAt, rightAt,
      unique "b" left "c" right leftAt rightAt (by decide)⟩
  · have firstNet : (createdNode sampleConfig (run sampleConfig (sampleAddressCalls.take 1))
        (registerSample 1 "a" "alpha")).map NodeState.networkId = some "net" := by
      decide +kernel
    have secondNet : (createdNode sampleConfig (run sampleConfig (sampleAddressCalls.take 4))
        (registerSample 4 "c" "gamma")).map NodeState.networkId = some "net" := by
      decide +kernel
    have alive : ∀ count, count = 3 ∨ count = 4 →
        ((run sampleConfig (sampleAddressCalls.take count)).networks.lookup "net") ≠ none := by
      rintro count (rfl | rfl)
      · decide +kernel
      · decide +kernel
    obtain ⟨earlier, madeFirst, firstIn⟩ := Option.map_eq_some_iff.mp firstNet
    obtain ⟨later, madeSecond, secondIn⟩ := Option.map_eq_some_iff.mp secondNet
    refine ⟨earlier, later, madeFirst, madeSecond, ?_⟩
    refine reissued _ _ _ _ [] earlier later
      (show history sampleConfig sampleAddressCalls =
        [eventAt (step sampleConfig) State.default (createSample 0)] ++
          eventAt (step sampleConfig) (run sampleConfig (sampleAddressCalls.take 1))
            (registerSample 1 "a" "alpha") ::
          ([eventAt (step sampleConfig) (run sampleConfig (sampleAddressCalls.take 2))
              (registerSample 2 "b" "beta"),
            eventAt (step sampleConfig) (run sampleConfig (sampleAddressCalls.take 3))
              (adminCall 3 "x" (.deleteNode "a"))] ++
          eventAt (step sampleConfig) (run sampleConfig (sampleAddressCalls.take 4))
            (registerSample 4 "c" "gamma") :: []) from rfl)
      madeFirst madeSecond (firstIn.trans secondIn.symm) ?_
    intro event member
    rw [firstIn]
    rcases List.mem_cons.mp member with second | rest
    · rw [second]
      exact alive 3 (Or.inl rfl)
    · rw [List.mem_singleton.mp rest]
      exact alive 4 (Or.inr rfl)

end Lightscale.ControlPlane
