/-
What a netmap can depend on.

The netmap of a node is a view of one network: of its record and of the nodes that
belong to it.  The tables are shared by all networks, so this is a statement about
two states.  If they agree on the one network they show its nodes the same netmap,
whatever else they hold.
-/

import Lightscale.ControlPlane.Integrity

namespace Lightscale.ControlPlane

open Foundation

/-! ### The nodes a netmap shows -/

def isPeerOf (node : NodeState) (network : NetworkState) (nodeId : String) (now : Int)
    (other : NodeState) : Bool :=
  (effectiveNodeStatus node network.keyPolicy now).1 &&
    (aclAllows network.acl node other && decide (some nodeId ≠ some other.id) &&
      (effectiveNodeStatus other network.keyPolicy now).1 &&
      decide (other.networkId = network.id))

/-- The same four tests in the words of the policy. -/
structure Visible (node : NodeState) (network : NetworkState) (nodeId : String) (now : Int)
    (other : NodeState) : Prop where
  another : other.id ≠ nodeId
  approved : (effectiveNodeStatus other network.keyPolicy now).1 = true
  sameNetwork : other.networkId = node.networkId
  allowed : aclAllows network.acl node other = true

theorem visible_of_isPeerOf {node other : NodeState} {network : NetworkState}
    {nodeId : String} {now : Int} (named : network.id = node.networkId)
    (isPeer : isPeerOf node network nodeId now other = true) :
    Visible node network nodeId now other := by
  simp only [isPeerOf, Bool.and_eq_true, decide_eq_true_eq] at isPeer
  obtain ⟨-, ⟨⟨allowed, another⟩, approved⟩, sameNetwork⟩ := isPeer
  exact ⟨fun same => another (congrArg some same.symm), approved, sameNetwork.trans named,
    allowed⟩

def shownPeers (state : State) (node : NodeState) (network : NetworkState) (nodeId : String)
    (now : Int) : List PeerInfo :=
  (state.nodes.values.filter (isPeerOf node network nodeId now)).map
    (fun other => PeerInfo.ofNode other network.dnsDomain)

theorem shownPeers_eq (state : State) (node : NodeState) (network : NetworkState)
    (nodeId : String) (now : Int) :
    (if (effectiveNodeStatus node network.keyPolicy now).1 then
      collectPeers network.id network.dnsDomain state.nodes (some nodeId) node
        network.acl network.keyPolicy now
    else []) = shownPeers state node network nodeId now := by
  unfold shownPeers
  cases status : (effectiveNodeStatus node network.keyPolicy now).1 with
  | false =>
      have noPeer : isPeerOf node network nodeId now = fun _ => false := by
        funext other
        rw [isPeerOf, status, Bool.false_and]
      rw [noPeer, List.filter_false]
      rfl
  | true =>
      rw [if_pos rfl, collectPeers, List.filter_filter, List.filter_filter, List.filter_filter]
      congr 2
      funext other
      simp only [isPeerOf, status, Bool.true_and, Bool.and_assoc]

def netmapOf (state : State) (node : NodeState) (network : NetworkState) (nodeId : String)
    (relay : Option RelayConfig) (now generatedAt : Int) : NetMap :=
  let status := effectiveNodeStatus node network.keyPolicy now
  { network := NetworkInfo.ofState network
    node := NodeInfo.fromState node network.dnsDomain status.1 status.2
    peers := shownPeers state node network nodeId now
    relay := relay
    probeRequests := collectProbeRequests state (shownPeers state node network nodeId now) now
    generatedAt := generatedAt
    revision := state.revision }

theorem buildNetmap_of_stored {state : State} {nodeId : String} {node : NodeState}
    {network : NetworkState} (nodeAt : state.nodes.lookup nodeId = some node)
    (networkAt : state.networks.lookup node.networkId = some network)
    (relay : Option RelayConfig) (now generatedAt : Int) :
    buildNetmap state nodeId relay now generatedAt =
      .ok (netmapOf state node network nodeId relay now generatedAt) := by
  unfold buildNetmap
  rw [nodeAt]
  dsimp only
  rw [networkAt]
  dsimp only
  rw [shownPeers_eq]
  rfl

theorem mem_shownPeers {state : State} {node : NodeState} {network : NetworkState}
    {nodeId : String} {now : Int} {peer : PeerInfo}
    (keyed : ∀ key other, state.nodes.lookup key = some other → other.id = key) :
    peer ∈ shownPeers state node network nodeId now ↔
      ∃ other, state.nodes.lookup peer.id = some other ∧
        isPeerOf node network nodeId now other = true ∧
        peer = PeerInfo.ofNode other network.dnsDomain := by
  unfold shownPeers
  rw [List.mem_map]
  constructor
  · rintro ⟨other, member, rfl⟩
    obtain ⟨stored, isPeer⟩ := List.mem_filter.mp member
    obtain ⟨key, found⟩ := (Table.mem_values_iff state.nodes other).mp stored
    refine ⟨other, ?_, isPeer, rfl⟩
    change state.nodes.lookup other.id = some other
    rw [keyed key other found]
    exact found
  · rintro ⟨other, found, isPeer, same⟩
    have stored := (Table.mem_values_iff state.nodes other).mpr ⟨peer.id, found⟩
    exact ⟨other, List.mem_filter.mpr ⟨stored, isPeer⟩, same.symm⟩

theorem shownPeers_ids_nodup {state : State}
    (keyed : ∀ key other, state.nodes.lookup key = some other → other.id = key)
    (node : NodeState) (network : NetworkState) (nodeId : String) (now : Int) :
    ((shownPeers state node network nodeId now).map PeerInfo.id).Nodup := by
  unfold shownPeers
  rw [List.map_map]
  change ((state.nodes.values.filter _).map NodeState.id).Nodup
  have allIds : (state.nodes.values.map NodeState.id).Nodup := by
    rw [Table.values_map_eq_keys keyed]
    exact AList.keys_nodup state.nodes
  exact allIds.sublist (List.filter_sublist.map NodeState.id)

theorem mem_collectProbeRequests {state : State} {peers : List PeerInfo} {now : Int}
    {probe : ProbeRequest} (member : probe ∈ collectProbeRequests state peers now) :
    ∃ peer ∈ peers, probe.peerId = peer.id := by
  obtain ⟨peer, listed, asked⟩ := List.mem_filterMap.mp member
  refine ⟨peer, listed, ?_⟩
  unfold probeRequestOf at asked
  cases nodeAt : state.nodes.lookup peer.id with
  | none =>
      rw [nodeAt] at asked
      cases asked
  | some node =>
      rw [nodeAt] at asked
      dsimp only at asked
      cases requested : node.probeRequestedAt with
      | none =>
          rw [requested] at asked
          cases asked
      | some requestedAt =>
          rw [requested] at asked
          dsimp only at asked
          by_cases stale : probeTtlSeconds < saturatingSubI64 now requestedAt
          · rw [if_pos stale] at asked
            cases asked
          · rw [if_neg stale] at asked
            cases asked
            rfl

/-! ### Two states that show the same -/

/-- Two netmaps that differ at most in the revision and in the order of their lists. -/
structure SameView (left right : NetMap) : Prop where
  network : left.network = right.network
  node : left.node = right.node
  peers : left.peers.Perm right.peers
  relay : left.relay = right.relay
  probeRequests : left.probeRequests.Perm right.probeRequests
  generatedAt : left.generatedAt = right.generatedAt

def State.Shows (state : State) (nodeId : String) (relay : Option RelayConfig)
    (now generatedAt : Int) (netmap : NetMap) : Prop :=
  ∃ shown, buildNetmap state nodeId relay now generatedAt = .ok shown ∧ SameView netmap shown

/-- The peers of a netmap, and with them the probe requests, are determined by the stored
nodes that pass the tests. -/
theorem netmapOf_sameView {left right : State} {node : NodeState} {network : NetworkState}
    {nodeId : String} {now : Int}
    (keyed : ∀ key other, left.nodes.lookup key = some other → other.id = key)
    (agree : ∀ key other, isPeerOf node network nodeId now other = true →
      (left.nodes.lookup key = some other ↔ right.nodes.lookup key = some other))
    (relay : Option RelayConfig) (generatedAt : Int) :
    SameView (netmapOf left node network nodeId relay now generatedAt)
      (netmapOf right node network nodeId relay now generatedAt) := by
  have peers : (shownPeers left node network nodeId now).Perm
      (shownPeers right node network nodeId now) :=
    (Table.values_filter_perm agree).map _
  -- A probe is looked up by the id of the peer, which is its key in both tables.
  have probes : collectProbeRequests left (shownPeers left node network nodeId now) now =
      collectProbeRequests right (shownPeers left node network nodeId now) now := by
    apply List.filterMap_congr
    intro peer listed
    obtain ⟨other, found, isPeer, -⟩ := (mem_shownPeers keyed).mp listed
    unfold probeRequestOf
    rw [found, (agree peer.id other isPeer).mp found]
  refine ⟨rfl, rfl, peers, rfl, ?_, rfl⟩
  change (collectProbeRequests left (shownPeers left node network nodeId now) now).Perm
    (collectProbeRequests right (shownPeers right node network nodeId now) now)
  rw [probes]
  exact peers.filterMap _

/-- Two states hold the same record of a network and the same nodes in it. -/
structure AgreeOn (networkId : String) (left right : State) : Prop where
  network : left.networks.lookup networkId = right.networks.lookup networkId
  nodes : ∀ key node, node.networkId = networkId →
    (left.nodes.lookup key = some node ↔ right.nodes.lookup key = some node)

theorem AgreeOn.shows {left right : State} {nodeId : String} {node : NodeState}
    {network : NetworkState} (agree : AgreeOn node.networkId left right)
    (keyed : ∀ key other, left.nodes.lookup key = some other → other.id = key)
    (named : network.id = node.networkId)
    (nodeAt : left.nodes.lookup nodeId = some node)
    (networkAt : left.networks.lookup node.networkId = some network)
    (relay : Option RelayConfig) (now generatedAt : Int) :
    right.Shows nodeId relay now generatedAt
      (netmapOf left node network nodeId relay now generatedAt) := by
  have rightNode := (agree.nodes nodeId node rfl).mp nodeAt
  have rightNetwork : right.networks.lookup node.networkId = some network := by
    rw [← agree.network]
    exact networkAt
  refine ⟨_, buildNetmap_of_stored rightNode rightNetwork relay now generatedAt, ?_⟩
  apply netmapOf_sameView keyed
  intro key other isPeer
  exact agree.nodes key other (visible_of_isPeerOf named isPeer).sameNetwork

/-! ### Requests about other networks -/

def nodeNetwork (state : State) (nodeId : String) : Option String :=
  (state.nodes.lookup nodeId).map NodeState.networkId

def tokenNetwork (state : State) (tokenId : String) : Option String :=
  (state.tokens.lookup tokenId).map TokenState.networkId

/-- The network a request is about: the one it names or draws, or the one of the node or
token it names. -/
def concernedNetwork (state : State) (call : Call) : Option String :=
  match call.request with
  | .createNetwork _ => some call.draws.networkId
  | .deleteNetwork networkId => some networkId
  | .createToken networkId _ => some networkId
  | .revokeToken tokenId => tokenNetwork state tokenId
  | .register request => tokenNetwork state request.token
  | .registerUrl request => some request.networkId
  | .approveNodeSecret nodeId _ => nodeNetwork state nodeId
  | .approveNode nodeId => nodeNetwork state nodeId
  | .updateNode nodeId _ => nodeNetwork state nodeId
  | .updateAcl networkId _ => some networkId
  | .updateKeyPolicy networkId _ => some networkId
  | .rotateKeys nodeId _ => nodeNetwork state nodeId
  | .revokeNode nodeId => nodeNetwork state nodeId
  | .deleteNode nodeId => nodeNetwork state nodeId
  | .heartbeat request => nodeNetwork state request.nodeId
  | .read _ => none

section

variable {config : Config} {call : Call} {before : State} {networkId : String}

theorem Enrolling.concerned (enrolling : Enrolling call before networkId) :
    concernedNetwork before call = some networkId := by
  cases enrolling with
  | byToken request token asked tokenAt sameNetwork =>
      simp only [concernedNetwork, asked, tokenNetwork, tokenAt, Option.map_some, sameNetwork]
  | byUrl request asked sameNetwork => simp only [concernedNetwork, asked, sameNetwork]

theorem Registration.concerned {network : NetworkState} {ipv4 ipv6 : String}
    {node : NodeState} {tokens : Table String TokenState}
    (registration : Registration call before networkId network ipv4 ipv6 node tokens) :
    concernedNetwork before call = some networkId := by
  cases registration with
  | byToken request nodeName token asked named tokenAt sameNetwork =>
      simp only [concernedNetwork, asked, tokenNetwork, tokenAt, Option.map_some, sameNetwork]
  | byUrl request nodeName expiresAt asked named expiry sameNetwork =>
      simp only [concernedNetwork, asked, sameNetwork]

theorem NetworkEdit.concerned {network edited : NetworkState}
    (edit : NetworkEdit config call before networkId network edited) :
    concernedNetwork before call = some networkId := by
  cases edit with
  | acl policy asked => simp only [concernedNetwork, asked]
  | keyPolicy policy asked => simp only [concernedNetwork, asked]
  | offsetSpent error advanced enrolling => exact enrolling.concerned

theorem NodeEdit.concerned {nodeId : String} {node edited : NodeState}
    (nodeAt : before.nodes.lookup nodeId = some node)
    (edit : NodeEdit config call before nodeId node edited) :
    concernedNetwork before call = some node.networkId := by
  have home : nodeNetwork before nodeId = some node.networkId := by
    rw [nodeNetwork, nodeAt, Option.map_some]
  cases edit with
  | approvedBySecret secret asked => simp only [concernedNetwork, asked, home]
  | approvedByAdmin asked => simp only [concernedNetwork, asked, home]
  | updated request nextName asked => simp only [concernedNetwork, asked, home]
  | rotated request machineRotated bothRotated asked =>
      simp only [concernedNetwork, asked, home]
  | rotatedPartly request machineRotated error asked =>
      simp only [concernedNetwork, asked, home]
  | revoked asked => simp only [concernedNetwork, asked, home]
  | heartbeat request asked named => simp only [concernedNetwork, asked, named, home]

end

section

variable {before after : State} {networkId : String}

theorem agreeOn_of_networks (nodes : after.nodes = before.nodes)
    (networkAt : after.networks.lookup networkId = before.networks.lookup networkId) :
    AgreeOn networkId before after := by
  refine ⟨networkAt.symm, ?_⟩
  intro key node _
  rw [nodes]

theorem agreeOn_of_node {changed : String}
    (networkAt : after.networks.lookup networkId = before.networks.lookup networkId)
    (elsewhere : ∀ key, key ≠ changed → after.nodes.lookup key = before.nodes.lookup key)
    (old : ∀ node, before.nodes.lookup changed = some node → node.networkId ≠ networkId)
    (new : ∀ node, after.nodes.lookup changed = some node → node.networkId ≠ networkId) :
    AgreeOn networkId before after :=
  ⟨networkAt.symm, Table.lookup_iff_of_single_change elsewhere old new⟩

end

/-- A request about another network leaves this one as it was, provided that a new node
does not take the id of a stored one. -/
theorem Transition.agreeOn {config : Config} {call : Call} {before after : State}
    {made : Option NodeState} {granted : Option TokenState} {networkId : String}
    (transition : Transition config call before after made granted)
    (inv : before.Integrity config.externals) (present : networkId ∈ before.networks)
    (fresh : ∀ node, made = some node → node.id ∉ before.nodes)
    (elsewhere : concernedNetwork before call ≠ some networkId) :
    AgreeOn networkId before after := by
  have other : ∀ concerned, concernedNetwork before call = some concerned →
      concerned ≠ networkId := by
    intro concerned isConcerned same
    rw [same] at isConcerned
    exact elsewhere isConcerned
  cases transition with
  | idle leaves =>
      apply agreeOn_of_networks leaves.nodes
      rw [leaves.networks]
  | networkCreated request planned granted entry asked admin plan absent apart grant leaves =>
      have different : networkId ≠ planned.state.id := by
        intro same
        rw [same, ← AList.lookup_isSome, absent] at present
        cases present
      apply agreeOn_of_networks leaves.nodes
      rw [leaves.networks, AList.lookup_insert_ne different]
  | networkDeleted deleted network entry asked admin networkAt empty leaves =>
      have different := other deleted (by simp only [concernedNetwork, asked])
      apply agreeOn_of_networks leaves.nodes
      rw [leaves.networks, AList.lookup_erase_ne different.symm]
  | networkEdited edited network _ entries networkAt edit leaves =>
      apply agreeOn_of_networks leaves.nodes
      rw [leaves.networks, Table.lookup_replace_eq networkAt,
        if_neg (other edited edit.concerned).symm]
  | tokenCreated named request network token entry asked admin networkAt grant leaves =>
      apply agreeOn_of_networks leaves.nodes
      rw [leaves.networks]
  | tokenRevoked tokenId token entry asked admin tokenAt leaves =>
      apply agreeOn_of_networks leaves.nodes
      rw [leaves.networks]
  | nodeRegistered joined network advanced ipv4 ipv6 node tokens entry networkAt allocated
      registration leaves =>
      have different := other joined registration.concerned
      have home : node.networkId = joined :=
        registration.newNode.networkId.trans (inv.networkKeys joined network networkAt)
      apply agreeOn_of_node
      · rw [leaves.networks, Table.lookup_replace_eq networkAt, if_neg different.symm]
      · intro key notNew
        rw [leaves.nodes, AList.lookup_insert_ne notNew]
      · intro old found
        exact absurd (Table.mem_of_lookup found) (fresh node rfl)
      · intro new found
        rw [leaves.nodes, AList.lookup_insert, Option.some.injEq] at found
        rw [← found, home]
        exact different
  | nodeEdited nodeId node edited entries nodeAt edit leaves =>
      have different := other node.networkId (edit.concerned nodeAt)
      apply agreeOn_of_node
      · rw [leaves.networks]
      · intro key notEdited
        rw [leaves.nodes, Table.lookup_replace_eq nodeAt, if_neg notEdited]
      · intro old found
        rw [nodeAt, Option.some.injEq] at found
        rw [← found]
        exact different
      · intro new found
        rw [leaves.nodes, Table.lookup_replace_eq nodeAt, if_pos rfl, Option.some.injEq] at found
        rw [← found, edit.sameIdentity.networkId]
        exact different
  | nodeDeleted nodeId node entry asked admin nodeAt leaves =>
      apply agreeOn_of_node
      · rw [leaves.networks]
      · intro key notDeleted
        rw [leaves.nodes, AList.lookup_erase_ne notDeleted]
      · intro old found
        apply other
        simp only [concernedNetwork, asked, nodeNetwork, found, Option.map_some]
      · intro new found
        rw [leaves.nodes, AList.lookup_erase] at found
        cases found

/-! ### Heartbeats of hidden nodes -/

theorem aclDecision_congr (src : NodeState) {left right : NodeState} (id : left.id = right.id)
    (name : left.name = right.name) (tags : left.tags = right.tags)
    (rules : List AclRule) (defaultAction : AclAction) :
    aclDecision rules defaultAction src left = aclDecision rules defaultAction src right := by
  induction rules with
  | nil => rfl
  | cons rule rest ih =>
      have sameMatch : selectorMatches left rule.dst = selectorMatches right rule.dst := by
        simp only [selectorMatches, id, name, tags]
      rw [aclDecision, aclDecision, sameMatch, ih]

theorem isPeerOf_congr {left right : NodeState} (id : left.id = right.id)
    (name : left.name = right.name) (tags : left.tags = right.tags)
    (networkId : left.networkId = right.networkId)
    (status : ∀ keyPolicy now,
      effectiveNodeStatus left keyPolicy now = effectiveNodeStatus right keyPolicy now)
    (node : NodeState) (network : NetworkState) (nodeId : String) (now : Int) :
    isPeerOf node network nodeId now left = isPeerOf node network nodeId now right := by
  have decision := aclDecision_congr node id name tags network.acl.rules network.acl.defaultAction
  unfold isPeerOf aclAllows
  rw [decision, id, networkId, status]

/-- A heartbeat edits at most the record of its sender, and nothing of it that decides
whether the sender is shown. -/
theorem Transition.of_heartbeat {config : Config} {call : Call} {before after : State}
    {made : Option NodeState} {granted : Option TokenState} {request : HeartbeatRequest}
    (transition : Transition config call before after made granted)
    (asked : call.request = .heartbeat request) :
    after.networks = before.networks ∧
      (after.nodes = before.nodes ∨
        ∃ sender edited, before.nodes.lookup request.nodeId = some sender ∧
          after.nodes = before.nodes.replace request.nodeId edited ∧
          ∀ node network nodeId now,
            isPeerOf node network nodeId now edited = isPeerOf node network nodeId now sender) := by
  cases transition with
  | idle leaves => exact ⟨leaves.networks, Or.inl leaves.nodes⟩
  | networkCreated _ _ _ _ other => cases asked.symm.trans other
  | networkDeleted _ _ _ other => cases asked.symm.trans other
  | networkEdited _ _ _ _ _ edit =>
      cases edit with
      | acl _ other => cases asked.symm.trans other
      | keyPolicy _ other => cases asked.symm.trans other
      | offsetSpent _ _ enrolling =>
          cases enrolling with
          | byToken _ _ other => cases asked.symm.trans other
          | byUrl _ other => cases asked.symm.trans other
  | tokenCreated _ _ _ _ _ other => cases asked.symm.trans other
  | tokenRevoked _ _ _ other => cases asked.symm.trans other
  | nodeRegistered _ _ _ _ _ _ _ _ _ _ registration =>
      cases registration with
      | byToken _ _ _ other => cases asked.symm.trans other
      | byUrl _ _ _ other => cases asked.symm.trans other
  | nodeEdited nodeId node edited entries nodeAt edit leaves =>
      refine ⟨leaves.networks, Or.inr ?_⟩
      cases edit with
      | approvedBySecret _ other => cases asked.symm.trans other
      | approvedByAdmin other => cases asked.symm.trans other
      | updated _ _ other => cases asked.symm.trans other
      | rotated _ _ _ other => cases asked.symm.trans other
      | rotatedPartly _ _ _ other => cases asked.symm.trans other
      | revoked other => cases asked.symm.trans other
      | heartbeat sent other named =>
          cases asked.symm.trans other
          subst named
          refine ⟨node, _, nodeAt, leaves.nodes, ?_⟩
          exact isPeerOf_congr rfl rfl rfl rfl (fun _ _ => rfl)
  | nodeDeleted _ _ _ other => cases asked.symm.trans other

theorem heartbeat_shows {config : Config} {call : Call} {state : State}
    {request : HeartbeatRequest} {nodeId : String} {node : NodeState}
    {network : NetworkState} (inv : state.Integrity config.externals)
    (asked : call.request = .heartbeat request)
    (nodeAt : state.nodes.lookup nodeId = some node)
    (networkAt : state.networks.lookup node.networkId = some network)
    (notOwn : request.nodeId ≠ nodeId) (relay : Option RelayConfig) (now generatedAt : Int)
    (hidden : ∀ peer ∈ shownPeers state node network nodeId now, peer.id ≠ request.nodeId) :
    (step config state call).Shows nodeId relay now generatedAt
      (netmapOf state node network nodeId relay now generatedAt) := by
  obtain ⟨networks, nodes⟩ := (step_transition config state call).of_heartbeat asked
  have networkAfter : (step config state call).networks.lookup node.networkId =
      some network := by
    rw [networks]
    exact networkAt
  rcases nodes with same | ⟨sender, edited, senderAt, changed, alike⟩
  · have nodeAfter : (step config state call).nodes.lookup nodeId = some node := by
      rw [same]
      exact nodeAt
    refine ⟨_, buildNetmap_of_stored nodeAfter networkAfter relay now generatedAt, ?_⟩
    apply netmapOf_sameView inv.nodeKeys
    intro key other _
    rw [same]
  · have nodeAfter : (step config state call).nodes.lookup nodeId = some node := by
      rw [changed, Table.lookup_replace_eq senderAt, if_neg notOwn.symm]
      exact nodeAt
    refine ⟨_, buildNetmap_of_stored nodeAfter networkAfter relay now generatedAt, ?_⟩
    have senderHidden : ¬ isPeerOf node network nodeId now sender = true := by
      intro isPeer
      have named : sender.id = request.nodeId := inv.nodeKeys _ _ senderAt
      refine hidden (PeerInfo.ofNode sender network.dnsDomain) ?_ named
      refine (mem_shownPeers inv.nodeKeys).mpr ⟨sender, ?_, isPeer, rfl⟩
      change state.nodes.lookup sender.id = some sender
      rw [named]
      exact senderAt
    apply netmapOf_sameView inv.nodeKeys
    rw [changed]
    apply Table.lookup_iff_of_single_change
    · intro key notSender
      rw [Table.lookup_replace_eq senderAt, if_neg notSender]
    · intro old found
      rw [senderAt, Option.some.injEq] at found
      subst found
      exact senderHidden
    · intro new found
      rw [Table.lookup_replace_eq senderAt, if_pos rfl, Option.some.injEq] at found
      subst found
      rw [alike]
      exact senderHidden

/-! ### Every run -/

/-- The netmap of a stored node is the same in any two reachable states that agree on its
network, and after any request about another network.  It lists each peer once, no peer
that the policy hides, probes only peers, and takes no notice of the heartbeats of other
nodes that it does not list. -/
theorem netmap_isolated (config : Config) (calls : List Call) (nodeId : String)
    (node : NodeState) (nodeAt : (run config calls).nodes.lookup nodeId = some node)
    (relay : Option RelayConfig) (now generatedAt : Int) :
    ∃ network netmap,
      (run config calls).networks.lookup node.networkId = some network ∧
      buildNetmap (run config calls) nodeId relay now generatedAt = .ok netmap ∧
      (∀ otherConfig otherCalls,
        AgreeOn node.networkId (run config calls) (run otherConfig otherCalls) →
        (run otherConfig otherCalls).Shows nodeId relay now generatedAt netmap) ∧
      (∀ call, concernedNetwork (run config calls) call ≠ some node.networkId →
        (∀ made, createdNode config (run config calls) call = some made →
          made.id ∉ (run config calls).nodes) →
        (step config (run config calls) call).Shows nodeId relay now generatedAt netmap) ∧
      (netmap.peers.map PeerInfo.id).Nodup ∧
      (∀ peer ∈ netmap.peers, ∃ other,
        (run config calls).nodes.lookup peer.id = some other ∧
        peer = PeerInfo.ofNode other network.dnsDomain ∧
        Visible node network nodeId now other) ∧
      (∀ probe ∈ netmap.probeRequests, ∃ peer ∈ netmap.peers, probe.peerId = peer.id) ∧
      (∀ call request, call.request = .heartbeat request → request.nodeId ≠ nodeId →
        (∀ peer ∈ netmap.peers, peer.id ≠ request.nodeId) →
        (step config (run config calls) call).Shows nodeId relay now generatedAt netmap) := by
  have inv := run_integrity config calls
  have present := inv.nodeHomes nodeId node nodeAt
  obtain ⟨network, networkAt⟩ := Table.exists_lookup_of_mem present
  have named : network.id = node.networkId := inv.networkKeys _ network networkAt
  refine ⟨network, netmapOf (run config calls) node network nodeId relay now generatedAt,
    networkAt, buildNetmap_of_stored nodeAt networkAt relay now generatedAt,
    ?_, ?_, ?_, ?_, ?_, ?_⟩
  · intro otherConfig otherCalls agree
    exact agree.shows inv.nodeKeys named nodeAt networkAt relay now generatedAt
  · intro call elsewhere fresh
    have agree := (step_transition config _ call).agreeOn inv present fresh elsewhere
    exact agree.shows inv.nodeKeys named nodeAt networkAt relay now generatedAt
  · exact shownPeers_ids_nodup inv.nodeKeys node network nodeId now
  · intro peer listed
    obtain ⟨other, found, isPeer, same⟩ := (mem_shownPeers inv.nodeKeys).mp listed
    exact ⟨other, found, same, visible_of_isPeerOf named isPeer⟩
  · intro probe listed
    exact mem_collectProbeRequests listed
  · intro call request asked notOwn hidden
    exact heartbeat_shows inv asked nodeAt networkAt notOwn relay now generatedAt hidden

def sharedNetwork : List Call :=
  [createSample 0, registerSample 1 "a" "alpha", registerSample 2 "b" "beta"]

def distantNetwork : Call :=
  adminCall 3 "far" (.createNetwork
    { sampleNetworkRequest with
      overlayV4 := some "10.0.1.0/24"
      overlayV6 := some "fd01::/64" })

/-- The first node sees the second, before and after the other network is created. -/
theorem sample_netmap_isolated :
    ∃ netmap, buildNetmap (run sampleConfig sharedNetwork) "a" none 10 10 = .ok netmap ∧
      "far" ∈ (step sampleConfig (run sampleConfig sharedNetwork) distantNetwork).networks ∧
      (step sampleConfig (run sampleConfig sharedNetwork) distantNetwork).Shows
        "a" none 10 10 netmap ∧
      ∃ peer ∈ netmap.peers, peer.id = "b" := by
  have stored : ((run sampleConfig sharedNetwork).nodes.lookup "a").map NodeState.networkId =
      some "net" := by decide +kernel
  obtain ⟨node, nodeAt, home⟩ := Option.map_eq_some_iff.mp stored
  obtain ⟨network, netmap, networkAt, built, -, unmoved, -⟩ :=
    netmap_isolated sampleConfig sharedNetwork "a" node nodeAt none 10 10
  refine ⟨netmap, built, by decide +kernel, ?_, ?_⟩
  · apply unmoved distantNetwork
    · rw [home]
      decide +kernel
    · have noNode : createdNode sampleConfig (run sampleConfig sharedNetwork)
          distantNetwork = none := rfl
      intro made isMade
      rw [noNode] at isMade
      cases isMade
  · have listed : (buildNetmap (run sampleConfig sharedNetwork) "a" none 10 10).toOption.any
        (fun netmap => netmap.peers.any (fun peer => decide (peer.id = "b"))) = true := by
      decide +kernel
    rw [built] at listed
    change netmap.peers.any _ = true at listed
    simpa only [List.any_eq_true, decide_eq_true_eq] using listed

end Lightscale.ControlPlane
