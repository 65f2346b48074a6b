/-
The names the DNS responder serves.

The responder reads the whole state for every request and builds a table from names to
addresses.  A node is entered under its own name and the domain of its network, if its
stored flags allow it and its addresses parse.  The table is keyed by text alone, so a
later node takes the place of an earlier one of the same name.
-/

import Lightscale.ControlPlane.Server

namespace Lightscale.Dns

open Foundation ControlPlane

inductive IpAddr where
  | v4 (address : Nat)
  | v6 (address : Nat)
  deriving DecidableEq

/-- Library functions of the responder: parsing an address, and lower case by the rules of
Unicode. -/
structure Resolver where
  parseIp : String → Option IpAddr
  toLowercase : String → String

@[ext]
structure DnsSnapshot where
  records : Table String (List IpAddr)
  /-- A set in the source, asked only for the domains that are in it. -/
  domains : List String

def normalizeName (resolver : Resolver) (name : String) : String :=
  resolver.toLowercase (trimEndMatches '.' (trim name))

def dnsName (resolver : Resolver) (name : String) (network : NetworkState) : String :=
  normalizeName resolver (name ++ "." ++ network.dnsDomain)

def recordOf (resolver : Resolver) (networks : Table String NetworkState) (node : NodeState) :
    Option (String × List IpAddr) :=
  if node.revokedAt.isSome || !node.approved then none
  else
    match networks.lookup node.networkId with
    | none => none
    | some network =>
        match resolver.parseIp node.ipv4 with
        | none => none
        | some ipv4 =>
            match resolver.parseIp node.ipv6 with
            | none => none
            | some ipv6 => some (dnsName resolver node.name network, [ipv4, ipv6])

def snapshotOf (resolver : Resolver) (networks : Table String NetworkState)
    (nodes : List NodeState) : DnsSnapshot where
  records := Table.ofPairs (nodes.filterMap (recordOf resolver networks))
  domains := networks.values.map fun network => normalizeName resolver network.dnsDomain

def snapshot (resolver : Resolver) (state : State) : DnsSnapshot :=
  snapshotOf resolver state.networks state.nodes.values

section

variable {resolver : Resolver} {networks : Table String NetworkState} {node : NodeState}
  {name : String} {addresses : List IpAddr}

theorem recordOf_eq_some_iff :
    recordOf resolver networks node = some (name, addresses) ↔
      node.approved = true ∧ node.revokedAt = none ∧
        ∃ network ipv4 ipv6, networks.lookup node.networkId = some network ∧
          resolver.parseIp node.ipv4 = some ipv4 ∧ resolver.parseIp node.ipv6 = some ipv6 ∧
          name = dnsName resolver node.name network ∧ addresses = [ipv4, ipv6] := by
  unfold recordOf
  cases approved : node.approved with
  | false => simp
  | true =>
      cases isRevoked : node.revokedAt with
      | some revokedAt => simp
      | none =>
          cases networks.lookup node.networkId with
          | none => simp
          | some network =>
              cases resolver.parseIp node.ipv4 with
              | none => simp
              | some ipv4 =>
                  cases resolver.parseIp node.ipv6 with
                  | none => simp
                  | some ipv6 => simp [eq_comm]

theorem exists_node_of_lookup_records {nodes : List NodeState}
    (found : (snapshotOf resolver networks nodes).records.lookup name = some addresses) :
    ∃ node ∈ nodes, recordOf resolver networks node = some (name, addresses) := by
  have listed := Table.mem_of_lookup_ofPairs found
  exact List.mem_filterMap.mp listed

theorem lookup_records_of_unique {nodes : List NodeState} (member : node ∈ nodes)
    (isRecord : recordOf resolver networks node = some (name, addresses))
    (unique : ∀ other ∈ nodes, ∀ others,
      recordOf resolver networks other = some (name, others) → others = addresses) :
    (snapshotOf resolver networks nodes).records.lookup name = some addresses := by
  apply Table.lookup_ofPairs_of_unique
  · exact List.mem_filterMap.mpr ⟨node, member, isRecord⟩
  · intro others listed
    obtain ⟨other, otherIn, otherRecord⟩ := List.mem_filterMap.mp listed
    exact unique other otherIn others otherRecord

end

/-! ### The resolver of the small deployment -/

/-- The standard texts of addresses, and lower case for the letters of ASCII. -/
def sampleResolver : Resolver where
  parseIp text :=
    ((AddressText.readIpv4 text).map .v4).or ((AddressText.readIpv6 text).map .v6)
  toLowercase text := String.ofList (asciiFold text)

end Lightscale.Dns
