/-
Who may act, and what a node is shown of its network.

The status of a node combines its stored flags with the age of its live keys.  A
netmap lists the other nodes of the same network that pass the status test and
the access policy.
-/

import Lightscale.Foundation.Text
import Lightscale.ControlPlane.Model

namespace Lightscale.ControlPlane

open Foundation

/-! ### Credentials -/

/-- The headers a handler reads: the authorization header, if it is present and
printable. -/
structure Headers where
  authorization : Option String := none
  deriving DecidableEq

def bearerToken (headers : Headers) : Option String :=
  match headers.authorization with
  | none => none
  | some value =>
      match dropStart? "Bearer " value with
      | none => none
      | some rest => if trim rest = "" then none else some (trim rest)

def requireAdmin (headers : Headers) (adminToken : Option String) : Except ApiError Unit :=
  match adminToken with
  | none => .ok ()
  | some expected =>
      if bearerToken headers = some expected then .ok ()
      else .error (.unauthorized "admin token required")

/-- A node without a token of its own is open to everybody. -/
def requireNode (headers : Headers) (adminToken : Option String) (node : NodeState) :
    Except ApiError Unit :=
  match node.nodeToken with
  | none => .ok ()
  | some expected =>
      match bearerToken headers with
      | none => .error (.unauthorized "node token required")
      | some token =>
          if token = expected then .ok ()
          else if adminToken = some token then .ok ()
          else .error (.unauthorized "node token required")

/-! ### Keys and status -/

def NodeState.publicKey (node : NodeState) : KeyType → String
  | .machine => node.machinePublicKey
  | .wireGuard => node.wgPublicKey

def currentKeyCreatedAt (node : NodeState) (keyType : KeyType) : Option Int :=
  (node.keyHistory.find? (fun record =>
    decide (record.keyType = keyType) && record.revokedAt.isNone &&
      decide (record.publicKey = node.publicKey keyType))).map KeyRecord.createdAt

def keyTooOld (node : NodeState) (keyType : KeyType) (maxAge now : Int) : Bool :=
  match currentKeyCreatedAt node keyType with
  | none => false
  | some createdAt => decide (maxAge < saturatingSubI64 now createdAt)

/-- Whether the node counts as approved at the given time, and whether it has to
rotate a key first. -/
def effectiveNodeStatus (node : NodeState) (keyPolicy : KeyRotationPolicy) (now : Int) :
    Bool × Bool :=
  let keyRotationRequired :=
    match keyPolicy.maxAgeSeconds with
    | none => false
    | some maxAge =>
        keyTooOld node .machine (wrapI64 maxAge) now ||
          keyTooOld node .wireGuard (wrapI64 maxAge) now
  let revoked := node.revokedAt.isSome
  (node.approved && !revoked && !keyRotationRequired, keyRotationRequired)

/-! ### Access policy -/

def selectorMatches (node : NodeState) (selector : AclSelector) : Bool :=
  let empty := selector.tags.isEmpty && selector.nodeIds.isEmpty && selector.names.isEmpty
  selector.any || empty || decide (node.id ∈ selector.nodeIds) ||
    decide (node.name ∈ selector.names) ||
    selector.tags.any (fun tag => decide (tag ∈ node.tags))

/-- The first rule that matches both ends decides. -/
def aclDecision (rules : List AclRule) (defaultAction : AclAction) (src dst : NodeState) :
    AclAction :=
  match rules with
  | [] => defaultAction
  | rule :: rest =>
      if selectorMatches src rule.src && selectorMatches dst rule.dst then rule.action
      else aclDecision rest defaultAction src dst

def aclAllows (policy : AclPolicy) (src dst : NodeState) : Bool :=
  decide (aclDecision policy.rules policy.defaultAction src dst = .allow)

/-! ### The netmap -/

def collectPeers (networkId dnsDomain : String) (nodes : Table String NodeState)
    (excludeId : Option String) (srcNode : NodeState) (acl : AclPolicy)
    (keyPolicy : KeyRotationPolicy) (now : Int) : List PeerInfo :=
  ((((nodes.values.filter (fun node => decide (node.networkId = networkId))).filter
    (fun node => (effectiveNodeStatus node keyPolicy now).1)).filter
    (fun node => decide (excludeId ≠ some node.id))).filter
    (fun node => aclAllows acl srcNode node)).map
    (fun node => PeerInfo.ofNode node dnsDomain)

def probeTtlSeconds : Int := 30

def probeRequestOf (state : State) (now : Int) (peer : PeerInfo) : Option ProbeRequest :=
  match state.nodes.lookup peer.id with
  | none => none
  | some node =>
      match node.probeRequestedAt with
      | none => none
      | some requestedAt =>
          if probeTtlSeconds < saturatingSubI64 now requestedAt then none
          else some
            { peerId := peer.id
              endpoints := peer.endpoints
              ipv4 := peer.ipv4
              ipv6 := peer.ipv6
              requestedAt := requestedAt }

def collectProbeRequests (state : State) (peers : List PeerInfo) (now : Int) :
    List ProbeRequest :=
  peers.filterMap (probeRequestOf state now)

/-- The netmap of a node at time `now`; the clock is read once more for
`generatedAt`. -/
def buildNetmap (state : State) (nodeId : String) (relay : Option RelayConfig)
    (now generatedAt : Int) : Except ApiError NetMap :=
  match state.nodes.lookup nodeId with
  | none => .error (.notFound "node")
  | some node =>
      match state.networks.lookup node.networkId with
      | none => .error (.notFound "network")
      | some network =>
          let status := effectiveNodeStatus node network.keyPolicy now
          let peers :=
            if status.1 then
              collectPeers network.id network.dnsDomain state.nodes (some nodeId) node
                network.acl network.keyPolicy now
            else []
          .ok
            { network := NetworkInfo.ofState network
              node := NodeInfo.fromState node network.dnsDomain status.1 status.2
              peers := peers
              relay := relay
              probeRequests := collectProbeRequests state peers now
              generatedAt := generatedAt
              revision := state.revision }

def relayOrNone (relay : RelayConfig) : Option RelayConfig :=
  if relay.stunServers.isEmpty && relay.turnServers.isEmpty &&
      relay.streamRelayServers.isEmpty && relay.udpRelayServers.isEmpty &&
      relay.dnsServers.isEmpty then none
  else some relay

/-! ### What the tests imply -/

theorem requireAdmin_ne_ok {headers : Headers} {adminToken : String}
    (plain : bearerToken headers ≠ some adminToken) :
    requireAdmin headers (some adminToken) ≠ .ok () := by
  unfold requireAdmin
  dsimp only
  rw [if_neg plain]
  intro passed
  cases passed

theorem requireNode_own {headers : Headers} {adminToken : String} {node : NodeState}
    (plain : bearerToken headers ≠ some adminToken) (hasToken : node.nodeToken ≠ none)
    (allowed : requireNode headers (some adminToken) node = .ok ()) :
    node.nodeToken = bearerToken headers := by
  unfold requireNode at allowed
  cases own : node.nodeToken with
  | none => exact absurd own hasToken
  | some expected =>
      rw [own] at allowed
      cases carried : bearerToken headers with
      | none =>
          rw [carried] at allowed
          cases allowed
      | some token =>
          rw [carried] at allowed plain
          dsimp only at allowed
          by_cases same : token = expected
          · rw [same]
          · rw [if_neg same, if_neg (fun admin => plain admin.symm)] at allowed
            cases allowed

theorem effectiveNodeStatus_approved {node : NodeState} {keyPolicy : KeyRotationPolicy}
    {now : Int} (approved : (effectiveNodeStatus node keyPolicy now).1 = true) :
    node.approved = true ∧ node.revokedAt = none := by
  simp only [effectiveNodeStatus, Bool.and_eq_true, Bool.not_eq_true',
    Option.isSome_eq_false_iff, Option.isNone_iff_eq_none] at approved
  exact ⟨approved.1.1, approved.1.2⟩

theorem mem_collectPeers {networkId dnsDomain : String} {nodes : Table String NodeState}
    {excludeId : Option String} {srcNode : NodeState} {acl : AclPolicy}
    {keyPolicy : KeyRotationPolicy} {now : Int} {peer : PeerInfo}
    (member : peer ∈
      collectPeers networkId dnsDomain nodes excludeId srcNode acl keyPolicy now) :
    ∃ key node, nodes.lookup key = some node ∧ node.networkId = networkId ∧
      (effectiveNodeStatus node keyPolicy now).1 = true ∧
      excludeId ≠ some node.id ∧ aclAllows acl srcNode node = true ∧
      peer = PeerInfo.ofNode node dnsDomain := by
  simp only [collectPeers, List.mem_map, List.mem_filter, decide_eq_true_eq] at member
  obtain ⟨node, ⟨⟨⟨⟨stored, inNetwork⟩, status⟩, other⟩, allowed⟩, same⟩ := member
  obtain ⟨key, found⟩ := (Table.mem_values_iff nodes node).mp stored
  exact ⟨key, node, found, inNetwork, status, other, allowed, same.symm⟩

theorem buildNetmap_eq_ok {state : State} {nodeId : String} {relay : Option RelayConfig}
    {now generatedAt : Int} {netmap : NetMap}
    (built : buildNetmap state nodeId relay now generatedAt = .ok netmap) :
    ∃ node network, state.nodes.lookup nodeId = some node ∧
      state.networks.lookup node.networkId = some network ∧
      netmap.peers =
        if (effectiveNodeStatus node network.keyPolicy now).1 then
          collectPeers network.id network.dnsDomain state.nodes (some nodeId) node
            network.acl network.keyPolicy now
        else [] := by
  unfold buildNetmap at built
  cases nodeAt : state.nodes.lookup nodeId with
  | none =>
      rw [nodeAt] at built
      cases built
  | some node =>
      rw [nodeAt] at built
      dsimp only at built
      cases networkAt : state.networks.lookup node.networkId with
      | none =>
          rw [networkAt] at built
          cases built
      | some network =>
          rw [networkAt] at built
          cases built
          exact ⟨node, network, rfl, networkAt, rfl⟩

end Lightscale.ControlPlane
