/-
Whom the responder publishes and whom the control plane calls live.

Both filters read the stored flags of a node.  The control plane also looks at the age of
the keys, which the responder does not, and the responder needs addresses that parse, which
every stored node has.
-/

import Lightscale.ControlPlane.Addresses
import Lightscale.ControlPlane.Lifetimes
import Lightscale.Dns.Snapshot

namespace Lightscale.Dns

open Foundation ControlPlane

def publishedNodes (resolver : Resolver) (state : State) : Set String :=
  { key | ∃ node, state.nodes.lookup key = some node ∧
      (recordOf resolver state.networks node).isSome = true }

def liveNodes (state : State) (now : Int) : Set String :=
  { key | ∃ node network, state.nodes.lookup key = some node ∧
      state.networks.lookup node.networkId = some network ∧
      (effectiveNodeStatus node network.keyPolicy now).1 = true }

/-- The responder reads back the addresses that the control plane prints. -/
structure Resolver.ParsesPrinted (resolver : Resolver) (externals : Externals) : Prop where
  printV4 : ∀ address, address < 2 ^ 32 →
    resolver.parseIp (externals.printV4 address) = some (.v4 address)
  printV6 : ∀ address, address < 2 ^ 128 →
    resolver.parseIp (externals.printV6 address) = some (.v6 address)

section

variable {resolver : Resolver} {externals : Externals}

theorem Resolver.ParsesPrinted.printsInjectively (parses : resolver.ParsesPrinted externals) :
    externals.PrintsInjectively := by
  constructor
  · intro left right leftLt rightLt same
    have parsed := parses.printV4 left leftLt
    rw [same, parses.printV4 right rightLt] at parsed
    cases parsed
    rfl
  · intro left right leftLt rightLt same
    have parsed := parses.printV6 left leftLt
    rw [same, parses.printV6 right rightLt] at parsed
    cases parsed
    rfl

theorem Resolver.ParsesPrinted.placed (parses : resolver.ParsesPrinted externals)
    {network : NetworkState} {node : NodeState} (placed : Placed externals network node) :
    ∃ ipv4 ipv6, resolver.parseIp node.ipv4 = some ipv4 ∧
      resolver.parseIp node.ipv6 = some ipv6 := by
  obtain ⟨v4, v6, offset4, offset6, sound, below4, below6, at4, at6⟩ := placed.address
  have bound4 := sound.boundV4
  have bound6 := sound.boundV6
  rw [at4, at6]
  exact ⟨_, _, parses.printV4 _ (v4.network_add_lt (by omega)),
    parses.printV6 _ (v6.network_add_lt (by omega))⟩

end

section

variable {resolver : Resolver} {config : Config} {calls : List Call} {key : String}

/-- In a reachable state only the flags of a node decide whether it gets a record. -/
theorem mem_publishedNodes_iff (parses : resolver.ParsesPrinted config.externals) :
    key ∈ publishedNodes resolver (run config calls) ↔
      ∃ node network, (run config calls).nodes.lookup key = some node ∧
        (run config calls).networks.lookup node.networkId = some network ∧
        node.approved = true ∧ node.revokedAt = none := by
  have invariant := run_addressInvariant config calls parses.printsInjectively
  constructor
  · rintro ⟨node, nodeAt, hasRecord⟩
    obtain ⟨⟨name, addresses⟩, isRecord⟩ := Option.isSome_iff_exists.mp hasRecord
    obtain ⟨approved, unrevoked, network, -, -, networkAt, -⟩ :=
      recordOf_eq_some_iff.mp isRecord
    exact ⟨node, network, nodeAt, networkAt, approved, unrevoked⟩
  · rintro ⟨node, network, nodeAt, networkAt, approved, unrevoked⟩
    obtain ⟨home, homeAt, placed⟩ := invariant.placed key node nodeAt
    obtain ⟨ipv4, ipv6, parsed4, parsed6⟩ := parses.placed placed
    have isRecord : recordOf resolver (run config calls).networks node =
        some (dnsName resolver node.name network, [ipv4, ipv6]) :=
      recordOf_eq_some_iff.mpr
        ⟨approved, unrevoked, network, ipv4, ipv6, networkAt, parsed4, parsed6, rfl, rfl⟩
    exact ⟨node, nodeAt, Option.isSome_iff_exists.mpr ⟨_, isRecord⟩⟩

/-- The responder publishes exactly the live nodes as long as no published node has a key
that is older than its network allows. -/
theorem publishedNodes_eq_liveNodes_iff (parses : resolver.ParsesPrinted config.externals)
    (now : Int) :
    publishedNodes resolver (run config calls) = liveNodes (run config calls) now ↔
      ∀ key node network, (run config calls).nodes.lookup key = some node →
        (run config calls).networks.lookup node.networkId = some network →
        node.approved = true → node.revokedAt = none →
        KeysFresh node network.keyPolicy now := by
  constructor
  · intro same key node network nodeAt networkAt approved unrevoked
    have published : key ∈ publishedNodes resolver (run config calls) :=
      (mem_publishedNodes_iff parses).mpr
        ⟨node, network, nodeAt, networkAt, approved, unrevoked⟩
    rw [same] at published
    obtain ⟨other, home, otherAt, homeAt, isLive⟩ := published
    rw [nodeAt, Option.some.injEq] at otherAt
    subst otherAt
    rw [networkAt, Option.some.injEq] at homeAt
    subst homeAt
    exact ((effectiveNodeStatus_iff node network.keyPolicy now).mp isLive).2.2
  · intro fresh
    ext key
    rw [mem_publishedNodes_iff parses]
    constructor
    · rintro ⟨node, network, nodeAt, networkAt, approved, unrevoked⟩
      refine ⟨node, network, nodeAt, networkAt, ?_⟩
      apply (effectiveNodeStatus_iff node network.keyPolicy now).mpr
      exact ⟨approved, unrevoked,
        fresh key node network nodeAt networkAt approved unrevoked⟩
    · rintro ⟨node, network, nodeAt, networkAt, isLive⟩
      obtain ⟨approved, unrevoked, -⟩ :=
        (effectiveNodeStatus_iff node network.keyPolicy now).mp isLive
      exact ⟨node, network, nodeAt, networkAt, approved, unrevoked⟩

end

theorem sampleResolver_parsesPrinted : sampleResolver.ParsesPrinted sampleExternals := by
  constructor
  · intro address inside
    simp [sampleResolver, sampleExternals, AddressText.readIpv4_ipv4Text inside]
  · intro address inside
    simp [sampleResolver, sampleExternals, AddressText.readIpv4_ipv6Text,
      AddressText.readIpv6_ipv6Text inside]

def sampleAgingCalls : List Call :=
  [adminCall 0 "net"
      (.createNetwork { sampleNetworkRequest with keyRotationMaxAgeSeconds := some 3600 }),
    registerSample 100 "alpha" "alpha"]

theorem sample_published_eq_live :
    publishedNodes sampleResolver (run sampleConfig sampleAgingCalls) =
      liveNodes (run sampleConfig sampleAgingCalls) 1000 := by
  have fresh : ∀ node ∈ (run sampleConfig sampleAgingCalls).nodes.values,
      ∀ network ∈ (run sampleConfig sampleAgingCalls).networks.values,
        (effectiveNodeStatus node network.keyPolicy 1000).2 = false := by
    decide +kernel
  apply (publishedNodes_eq_liveNodes_iff sampleResolver_parsesPrinted 1000).mpr
  intro key node network nodeAt networkAt _ _
  rw [← keyRotationRequired_eq_false_iff]
  exact fresh node ((Table.mem_values_iff _ node).mpr ⟨key, nodeAt⟩) network
    ((Table.mem_values_iff _ network).mpr ⟨_, networkAt⟩)

/-- A node whose keys are too old is in no netmap any more and still resolves. -/
theorem aged_node_still_published :
    "alpha" ∈ publishedNodes sampleResolver (run sampleConfig sampleAgingCalls) ∧
      "alpha" ∉ liveNodes (run sampleConfig sampleAgingCalls) 5000 := by
  have found : ((run sampleConfig sampleAgingCalls).nodes.lookup "alpha").map (fun node =>
      (recordOf sampleResolver (run sampleConfig sampleAgingCalls).networks node).isSome) =
        some true := by
    decide +kernel
  have aged : ∀ node ∈ (run sampleConfig sampleAgingCalls).nodes.values,
      ∀ network ∈ (run sampleConfig sampleAgingCalls).networks.values,
        (effectiveNodeStatus node network.keyPolicy 5000).1 = false := by
    decide +kernel
  constructor
  · obtain ⟨node, nodeAt, hasRecord⟩ := Option.map_eq_some_iff.mp found
    exact ⟨node, nodeAt, hasRecord⟩
  · rintro ⟨node, network, nodeAt, networkAt, isLive⟩
    rw [aged node ((Table.mem_values_iff _ node).mpr ⟨_, nodeAt⟩) network
      ((Table.mem_values_iff _ network).mpr ⟨_, networkAt⟩)] at isLive
    cases isLive

end Lightscale.Dns
