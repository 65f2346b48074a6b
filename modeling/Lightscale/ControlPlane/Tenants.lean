/-
What one network has to do with the others.

The restriction of a state to a network forgets the records of all others, their audit entries
and the revision.  A request about the network sees nothing but the restriction: it is answered
from it alone, and it commutes with restricting.  A request about another network does not touch
the restriction, provided that the ids it draws are new.

So every request that is not about a network can be taken out of a run without a trace in that
network: its records stay the same, and so does every answer but for the revision.
-/

import Lightscale.ControlPlane.Closures
import Lightscale.ControlPlane.Integrity
import Lightscale.ControlPlane.NetmapIsolation

namespace Lightscale.ControlPlane

open Foundation

/-! ### Restriction -/

def networkIs (networkId key : String) (_ : NetworkState) : Bool := decide (key = networkId)

def nodeIn (networkId _key : String) (node : NodeState) : Bool :=
  decide (node.networkId = networkId)

def tokenFor (networkId _key : String) (token : TokenState) : Bool :=
  decide (token.networkId = networkId)

/-- The part of the state that belongs to a network. -/
def State.only (networkId : String) (state : State) : State where
  version := state.version
  revision := 0
  networks := state.networks.retain (networkIs networkId)
  nodes := state.nodes.retain (nodeIn networkId)
  tokens := state.tokens.retain (tokenFor networkId)
  auditLog := state.auditLog.filter fun entry => decide (entry.networkId = some networkId)

section

variable {state : State} {networkId : String}

theorem State.only_network :
    (state.only networkId).networks.lookup networkId = state.networks.lookup networkId := by
  change (Table.retain _ state.networks).lookup networkId = _
  rw [Table.lookup_retain]
  cases state.networks.lookup networkId with
  | none => rfl
  | some network => exact Option.filter_some_pos (decide_eq_true rfl)

theorem State.only_node {nodeId : String} {node : NodeState}
    (nodeAt : state.nodes.lookup nodeId = some node) (home : node.networkId = networkId) :
    (state.only networkId).nodes.lookup nodeId = some node :=
  (Table.lookup_retain_eq_some_iff _ _ _ _).mpr ⟨nodeAt, decide_eq_true home⟩

theorem State.only_token {tokenId : String} {token : TokenState}
    (tokenAt : state.tokens.lookup tokenId = some token) (home : token.networkId = networkId) :
    (state.only networkId).tokens.lookup tokenId = some token :=
  (Table.lookup_retain_eq_some_iff _ _ _ _).mpr ⟨tokenAt, decide_eq_true home⟩

theorem State.only_nodeValues : (state.only networkId).nodes.values =
    state.nodes.values.filter fun node => decide (node.networkId = networkId) :=
  Table.values_retain state.nodes fun node => decide (node.networkId = networkId)

theorem State.only_tokenValues : (state.only networkId).tokens.values =
    state.tokens.values.filter fun token => decide (token.networkId = networkId) :=
  Table.values_retain state.tokens fun token => decide (token.networkId = networkId)

/-! ### Restriction and edits -/

theorem audit_tokens (entry : AuditEntry) : (state.audit entry).tokens = state.tokens := rfl

theorem only_audit {entry : AuditEntry} (about : entry.networkId = some networkId) :
    (state.audit entry).only networkId = (state.only networkId).audit entry := by
  simp [State.only, State.audit, List.filter_append, about]

theorem only_audit_of_ne {entry : AuditEntry} (about : entry.networkId ≠ some networkId) :
    (state.audit entry).only networkId = state.only networkId := by
  simp [State.only, State.audit, List.filter_append, about]

theorem only_withNodes {nodes kept : Table String NodeState}
    (retained : nodes.retain (nodeIn networkId) = kept) :
    ({ state with nodes := nodes }).only networkId =
      { state.only networkId with nodes := kept } := by
  subst retained
  rfl

theorem only_withNetworks {networks kept : Table String NetworkState}
    (retained : networks.retain (networkIs networkId) = kept) :
    ({ state with networks := networks }).only networkId =
      { state.only networkId with networks := kept } := by
  subst retained
  rfl

theorem only_withTokens {tokens kept : Table String TokenState}
    (retained : tokens.retain (tokenFor networkId) = kept) :
    ({ state with tokens := tokens }).only networkId =
      { state.only networkId with tokens := kept } := by
  subst retained
  rfl

section

variable {nodeId : String} {node edited : NodeState}

theorem retain_replaceNode (nodeAt : state.nodes.lookup nodeId = some node)
    (same : edited.networkId = node.networkId) :
    Table.retain (nodeIn networkId) (state.nodes.replace nodeId edited) =
      (state.only networkId).nodes.replace nodeId edited :=
  Table.retain_replace nodeAt (by unfold nodeIn; rw [same])

theorem retain_replaceNode_of_ne (nodeAt : state.nodes.lookup nodeId = some node)
    (same : edited.networkId = node.networkId) (elsewhere : node.networkId ≠ networkId) :
    Table.retain (nodeIn networkId) (state.nodes.replace nodeId edited) =
      (state.only networkId).nodes :=
  Table.retain_replace_of_dropped nodeAt (decide_eq_false elsewhere)
    (decide_eq_false (same ▸ elsewhere))

end

section

variable {network edited : NetworkState}

theorem retain_replaceNetwork (networkAt : state.networks.lookup networkId = some network) :
    Table.retain (networkIs networkId) (state.networks.replace networkId edited) =
      (state.only networkId).networks.replace networkId edited :=
  Table.retain_replace networkAt rfl

theorem retain_replaceNetwork_of_ne {other : String} (elsewhere : other ≠ networkId)
    (networkAt : state.networks.lookup other = some network) :
    Table.retain (networkIs networkId) (state.networks.replace other edited) =
      (state.only networkId).networks :=
  Table.retain_replace_of_dropped networkAt (decide_eq_false elsewhere)
    (decide_eq_false elsewhere)

end

section

variable {tokenId : String} {token edited : TokenState}

theorem retain_replaceToken (tokenAt : state.tokens.lookup tokenId = some token)
    (same : edited.networkId = token.networkId) :
    Table.retain (tokenFor networkId) (state.tokens.replace tokenId edited) =
      (state.only networkId).tokens.replace tokenId edited :=
  Table.retain_replace tokenAt (by unfold tokenFor; rw [same])

theorem retain_replaceToken_of_ne (tokenAt : state.tokens.lookup tokenId = some token)
    (same : edited.networkId = token.networkId) (elsewhere : token.networkId ≠ networkId) :
    Table.retain (tokenFor networkId) (state.tokens.replace tokenId edited) =
      (state.only networkId).tokens :=
  Table.retain_replace_of_dropped tokenAt (decide_eq_false elsewhere)
    (decide_eq_false (same ▸ elsewhere))

theorem retain_spendToken (tokenAt : state.tokens.lookup tokenId = some token) :
    Table.retain (tokenFor networkId) (spendToken state.tokens tokenId token) =
      spendToken (state.only networkId).tokens tokenId token := by
  unfold spendToken
  dsimp only
  split
  · exact Table.retain_erase _ _ _
  · exact retain_replaceToken tokenAt rfl

theorem retain_spendToken_of_ne (tokenAt : state.tokens.lookup tokenId = some token)
    (elsewhere : token.networkId ≠ networkId) :
    Table.retain (tokenFor networkId) (spendToken state.tokens tokenId token) =
      (state.only networkId).tokens := by
  unfold spendToken
  dsimp only
  split
  · exact Table.retain_erase_of_dropped tokenAt (decide_eq_false elsewhere)
  · exact retain_replaceToken_of_ne tokenAt rfl elsewhere

end

theorem only_editNode {nodeId : String} {node edited : NodeState} {entry : AuditEntry}
    (nodeAt : state.nodes.lookup nodeId = some node) (same : edited.networkId = node.networkId)
    (about : entry.networkId = some networkId) :
    (({ state with nodes := state.nodes.replace nodeId edited }).audit entry).only networkId =
      ({ state.only networkId with
          nodes := (state.only networkId).nodes.replace nodeId edited }).audit entry := by
  rw [only_audit about, only_withNodes (retain_replaceNode nodeAt same)]

theorem only_enrolled {network advanced : NetworkState} {nodeId : String} {node : NodeState}
    {entry : AuditEntry} (networkAt : state.networks.lookup networkId = some network)
    (named : network.id = networkId) (home : node.networkId = network.id)
    (about : entry.networkId = some networkId) :
    (({ state with
        networks := state.networks.replace networkId advanced
        nodes := state.nodes.insert nodeId node }).audit entry).only networkId =
      ({ state.only networkId with
          networks := (state.only networkId).networks.replace networkId advanced
          nodes := (state.only networkId).nodes.insert nodeId node }).audit entry := by
  have inserted : Table.retain (nodeIn networkId) (state.nodes.insert nodeId node) =
      (state.only networkId).nodes.insert nodeId node :=
    Table.retain_insert (decide_eq_true (home.trans named))
  have advancedAt : Table.retain (networkIs networkId) (state.networks.replace networkId advanced) =
      (state.only networkId).networks.replace networkId advanced :=
    retain_replaceNetwork networkAt
  rw [only_audit about]
  simp only [State.only] at inserted advancedAt ⊢
  rw [inserted, advancedAt]

theorem only_ensureUniqueNodeName (name : String) (excludeNodeId : Option String) :
    ensureUniqueNodeName (state.only networkId) networkId name excludeNodeId =
      ensureUniqueNodeName state networkId name excludeNodeId := by
  have blocked : (state.only networkId).nodes.values.any (nameTaken networkId name excludeNodeId) =
      state.nodes.values.any (nameTaken networkId name excludeNodeId) := by
    rw [State.only_nodeValues, List.any_filter]
    congr 1
    funext node
    unfold nameTaken
    cases decide (node.networkId = networkId) <;> simp
  unfold ensureUniqueNodeName
  rw [blocked]

end

/-! ### Requests about the network -/

structure Keyed (state : State) : Prop where
  networks : ∀ key network, state.networks.lookup key = some network → network.id = key
  nodes : ∀ key node, state.nodes.lookup key = some node → node.id = key

/-- The closure is answered from the network's part of the state, and edits that part as it
edits the whole. -/
def Commutes {Result : Type} (networkId : String) (closure : Handler Result) (state : State) :
    Prop :=
  closure (state.only networkId) = ((closure state).1, (closure state).2.only networkId)

theorem exists_node_of_home {state : State} {networkId nodeId : String}
    (home : nodeNetwork state nodeId = some networkId) :
    ∃ node, state.nodes.lookup nodeId = some node ∧ node.networkId = networkId :=
  Option.map_eq_some_iff.mp home

theorem exists_token_of_home {state : State} {networkId tokenId : String}
    (home : tokenNetwork state tokenId = some networkId) :
    ∃ token, state.tokens.lookup tokenId = some token ∧ token.networkId = networkId :=
  Option.map_eq_some_iff.mp home

section

variable {state : State} {networkId : String} (keyed : Keyed state) (draws : Draws)

theorem deleteNetworkWrite_commutes :
    Commutes networkId (deleteNetworkWrite draws networkId) state := by
  have connected : (state.only networkId).nodes.values.any
      (fun node => decide (node.networkId = networkId)) =
      state.nodes.values.any (fun node => decide (node.networkId = networkId)) := by
    rw [State.only_nodeValues, List.any_filter]
    simp only [Bool.and_self]
  unfold Commutes deleteNetworkWrite
  rw [State.only_network, connected]
  cases state.networks.lookup networkId with
  | none => rfl
  | some network =>
      dsimp only
      split
      · rfl
      · rw [only_audit rfl]
        simp only [State.only, Table.retain_erase]
        rw [Table.retain_comm state.tokens]

include keyed

theorem updateAclWrite_commutes (policy : AclPolicy) :
    Commutes networkId (updateAclWrite draws networkId policy) state := by
  unfold Commutes updateAclWrite
  rw [State.only_network]
  cases networkAt : state.networks.lookup networkId with
  | none => rfl
  | some network =>
      dsimp only
      rw [only_audit (congrArg some (keyed.networks _ _ networkAt)),
        only_withNetworks (retain_replaceNetwork networkAt)]

theorem updateKeyPolicyWrite_commutes (policy : KeyRotationPolicy) :
    Commutes networkId (updateKeyPolicyWrite draws networkId policy) state := by
  unfold Commutes updateKeyPolicyWrite
  rw [State.only_network]
  cases networkAt : state.networks.lookup networkId with
  | none => rfl
  | some network =>
      dsimp only
      rw [only_audit (congrArg some (keyed.networks _ _ networkAt)),
        only_withNetworks (retain_replaceNetwork networkAt)]

theorem createTokenWrite_commutes (request : CreateTokenRequest) :
    Commutes networkId (createTokenWrite draws networkId request) state := by
  unfold Commutes createTokenWrite
  rw [State.only_network]
  cases networkAt : state.networks.lookup networkId with
  | none => rfl
  | some network =>
      have named := keyed.networks _ _ networkAt
      dsimp only
      cases built : buildToken draws network.id request.ttlSeconds request.uses request.tags
          request.ownerUserId request.ownerEmail (request.ownerIsAdmin.getD true) with
      | error error => rfl
      | ok token =>
          have home : token.networkId = networkId := (buildToken_networkId built).trans named
          dsimp only
          rw [only_audit (congrArg some named),
            only_withTokens (Table.retain_insert (decide_eq_true home))]
          rfl

omit keyed in
theorem revokeTokenWrite_commutes {tokenId : String}
    (home : tokenNetwork state tokenId = some networkId) :
    Commutes networkId (revokeTokenWrite draws tokenId) state := by
  obtain ⟨token, tokenAt, home⟩ := exists_token_of_home home
  unfold Commutes revokeTokenWrite
  rw [State.only_token tokenAt home, tokenAt]
  dsimp only
  rw [only_audit (congrArg some home), only_withTokens (retain_replaceToken tokenAt ?_)]
  rfl

theorem registerWrite_commutes (externals : Externals) (request : RegisterRequest)
    (nodeName : String) (home : tokenNetwork state request.token = some networkId) :
    Commutes networkId (registerWrite externals draws request nodeName) state := by
  obtain ⟨token, tokenAt, home⟩ := exists_token_of_home home
  subst home
  unfold Commutes registerWrite
  rw [State.only_token tokenAt rfl, tokenAt]
  dsimp only
  rw [only_ensureUniqueNodeName, State.only_network]
  split
  · rfl
  split
  · rfl
  split
  · rfl
  cases ensureUniqueNodeName state token.networkId nodeName none with
  | error error => rfl
  | ok _ =>
      cases networkAt : state.networks.lookup token.networkId with
      | none => rfl
      | some network =>
          have named := keyed.networks _ _ networkAt
          dsimp only
          rcases allocateNodeIps externals network with ⟨error | ⟨ipv4, ipv6⟩, advanced⟩
          · dsimp only
            rw [only_withNetworks (retain_replaceNetwork networkAt)]
          · simp only [audit_tokens, State.only_token tokenAt rfl, tokenAt]
            refine Prod.ext rfl (Eq.symm ?_)
            dsimp only
            rw [only_withTokens (retain_spendToken tokenAt),
              only_enrolled networkAt named ?_ (congrArg some named)]
            rfl

theorem registerUrlWrite_commutes (externals : Externals) (request : RegisterUrlRequest)
    (nodeName : String) (expiresAt : Int) (about : request.networkId = networkId) :
    Commutes networkId (registerUrlWrite externals draws request nodeName expiresAt) state := by
  subst about
  unfold Commutes registerUrlWrite
  rw [only_ensureUniqueNodeName, State.only_network]
  cases ensureUniqueNodeName state request.networkId nodeName none with
  | error error => rfl
  | ok _ =>
      cases networkAt : state.networks.lookup request.networkId with
      | none => rfl
      | some network =>
          have named := keyed.networks _ _ networkAt
          dsimp only
          rcases allocateNodeIps externals network with ⟨error | ⟨ipv4, ipv6⟩, advanced⟩
          · dsimp only
            rw [only_withNetworks (retain_replaceNetwork networkAt)]
          · refine Prod.ext rfl (Eq.symm ?_)
            exact only_enrolled networkAt named rfl (congrArg some named)

omit keyed

theorem approveNode_commutes {nodeId : String} {node : NodeState}
    (nodeAt : state.nodes.lookup nodeId = some node) (home : node.networkId = networkId)
    (via : String) :
    (state.only networkId).approveNode draws nodeId node via =
      ((state.approveNode draws nodeId node via).1,
        (state.approveNode draws nodeId node via).2.only networkId) := by
  refine Prod.ext rfl (Eq.symm ?_)
  exact only_editNode nodeAt rfl (congrArg some home)

theorem approveNodeSecretWrite_commutes {nodeId : String} (secret : String)
    (home : nodeNetwork state nodeId = some networkId) :
    Commutes networkId (approveNodeSecretWrite draws nodeId secret) state := by
  obtain ⟨node, nodeAt, home⟩ := exists_node_of_home home
  unfold Commutes approveNodeSecretWrite
  rw [State.only_node nodeAt home, nodeAt]
  dsimp only
  split
  · rfl
  cases node.authSecret with
  | none => rfl
  | some authSecret =>
      dsimp only
      split
      · rfl
      split
      · rfl
      · exact approveNode_commutes draws nodeAt home "auth_url"

theorem approveNodeWrite_commutes {nodeId : String}
    (home : nodeNetwork state nodeId = some networkId) :
    Commutes networkId (approveNodeWrite draws nodeId) state := by
  obtain ⟨node, nodeAt, home⟩ := exists_node_of_home home
  unfold Commutes approveNodeWrite
  rw [State.only_node nodeAt home, nodeAt]
  dsimp only
  split
  · rfl
  · exact approveNode_commutes draws nodeAt home "admin"

theorem revokeNodeWrite_commutes {nodeId : String}
    (home : nodeNetwork state nodeId = some networkId) :
    Commutes networkId (revokeNodeWrite draws nodeId) state := by
  obtain ⟨node, nodeAt, home⟩ := exists_node_of_home home
  unfold Commutes revokeNodeWrite
  rw [State.only_node nodeAt home, nodeAt]
  refine Prod.ext rfl (Eq.symm ?_)
  exact only_editNode nodeAt rfl (congrArg some home)

theorem heartbeatWrite_commutes (config : Config) (headers : Headers) {request : HeartbeatRequest}
    (home : nodeNetwork state request.nodeId = some networkId) :
    Commutes networkId (heartbeatWrite config draws headers request) state := by
  obtain ⟨node, nodeAt, home⟩ := exists_node_of_home home
  unfold Commutes heartbeatWrite
  rw [State.only_node nodeAt home, nodeAt]
  dsimp only
  cases requireNode headers config.adminToken node with
  | error error => rfl
  | ok _ =>
      refine Prod.ext rfl (Eq.symm ?_)
      exact only_withNodes (retain_replaceNode nodeAt rfl)

theorem deleteNodeWrite_commutes {nodeId : String}
    (home : nodeNetwork state nodeId = some networkId) :
    Commutes networkId (deleteNodeWrite draws nodeId) state := by
  obtain ⟨node, nodeAt, home⟩ := exists_node_of_home home
  unfold Commutes deleteNodeWrite
  rw [State.only_node nodeAt home, nodeAt]
  dsimp only
  rw [only_audit (congrArg some home), only_withNodes (Table.retain_erase _ _ _)]
  rfl

theorem rotateKey_networkId {keyType : KeyType} {newKey : Option String} {now : Int}
    {node rotated : NodeState} (done : rotateKey keyType newKey now node = .ok rotated) :
    rotated.networkId = node.networkId := by
  unfold rotateKey at done
  split at done
  · cases done
    rfl
  · split at done
    · cases done
    · cases done
      cases keyType <;> rfl

theorem rotateKeysWrite_commutes (config : Config) (headers : Headers) {nodeId : String}
    (request : KeyRotationRequest) (home : nodeNetwork state nodeId = some networkId) :
    Commutes networkId (rotateKeysWrite config draws headers nodeId request) state := by
  obtain ⟨node, nodeAt, home⟩ := exists_node_of_home home
  unfold Commutes rotateKeysWrite
  rw [State.only_node nodeAt home, nodeAt]
  dsimp only
  cases requireNode headers config.adminToken node with
  | error error => rfl
  | ok _ =>
      dsimp only
      cases first : rotateKey .machine request.machinePublicKey draws.now node with
      | error error => rfl
      | ok machineRotated =>
          have same := rotateKey_networkId first
          dsimp only
          cases second : rotateKey .wireGuard request.wgPublicKey draws.now machineRotated with
          | error error =>
              refine Prod.ext rfl (Eq.symm ?_)
              exact only_withNodes (retain_replaceNode nodeAt same)
          | ok bothRotated =>
              refine Prod.ext rfl (Eq.symm ?_)
              exact only_editNode nodeAt ((rotateKey_networkId second).trans same)
                (congrArg some home)

theorem only_nextNodeName {existing : NodeState} (home : existing.networkId = networkId)
    (name : Option String) :
    nextNodeName (state.only networkId) existing name = nextNodeName state existing name := by
  unfold nextNodeName
  simp only [home, only_ensureUniqueNodeName]

theorem updateNodeWrite_commutes (keyed : Keyed state) {nodeId : String}
    (request : UpdateNodeRequest) (home : nodeNetwork state nodeId = some networkId) :
    Commutes networkId (updateNodeWrite draws nodeId request) state := by
  obtain ⟨node, nodeAt, home⟩ := exists_node_of_home home
  subst home
  unfold Commutes updateNodeWrite
  rw [State.only_node nodeAt rfl, nodeAt]
  dsimp only
  rw [only_nextNodeName rfl]
  cases nextNodeName state node request.name with
  | error error => rfl
  | ok nextName =>
      dsimp only
      rw [State.only_network]
      cases networkAt : state.networks.lookup node.networkId with
      | none =>
          refine Prod.ext rfl (Eq.symm ?_)
          exact only_withNodes (retain_replaceNode nodeAt rfl)
      | some network =>
          refine Prod.ext rfl (Eq.symm ?_)
          dsimp only
          split
          · exact only_withNodes (retain_replaceNode nodeAt rfl)
          · exact only_editNode nodeAt rfl (congrArg some (keyed.networks _ _ networkAt))

end

/-! ### Requests about other networks -/

/-- The ids that a request stores records under are new, and no network is created under the
id of this one. -/
def FreshFor (networkId : String) (state : State) (call : Call) : Prop :=
  match call.request with
  | .createNetwork _ =>
      call.draws.networkId ≠ networkId ∧ call.draws.tokenSecret ∉ state.tokens
  | .createToken _ _ => call.draws.tokenSecret ∉ state.tokens
  | .register _ => call.draws.nodeId ∉ state.nodes
  | .registerUrl _ => call.draws.nodeId ∉ state.nodes
  | _ => True

theorem buildToken_token {draws : Draws} {networkId : String} {ttlSeconds uses : Nat}
    {tags : List String} {ownerUserId ownerEmail : Option String} {ownerIsAdmin : Bool}
    {token : TokenState}
    (built : buildToken draws networkId ttlSeconds uses tags ownerUserId ownerEmail ownerIsAdmin =
      .ok token) : token.token = draws.tokenSecret := by
  unfold buildToken at built
  split at built
  · cases built
  · cases built
    rfl

section

variable {state : State} {networkId : String}

theorem only_withTokens_of_same {base : State} {tokens : Table String TokenState}
    (retained : tokens.retain (tokenFor networkId) = (state.only networkId).tokens)
    (same : base.only networkId = state.only networkId) :
    ({ base with tokens := tokens }).only networkId = state.only networkId := by
  rw [only_withTokens retained, same]

theorem retain_insertToken_of_ne {token : TokenState} (fresh : token.token ∉ state.tokens)
    (elsewhere : token.networkId ≠ networkId) :
    Table.retain (tokenFor networkId) (state.tokens.insert token.token token) =
      (state.only networkId).tokens :=
  Table.retain_insert_of_dropped (AList.lookup_eq_none.mpr fresh) (decide_eq_false elsewhere)

theorem only_editNode_of_ne {nodeId : String} {node edited : NodeState} {entry : AuditEntry}
    (nodeAt : state.nodes.lookup nodeId = some node) (same : edited.networkId = node.networkId)
    (about : entry.networkId = some node.networkId) (elsewhere : node.networkId ≠ networkId) :
    (({ state with nodes := state.nodes.replace nodeId edited }).audit entry).only networkId =
      state.only networkId := by
  rw [only_audit_of_ne (by rw [about]; exact fun same => elsewhere (Option.some.inj same)),
    only_withNodes (retain_replaceNode_of_ne nodeAt same elsewhere)]

theorem only_enrolled_of_ne {other nodeId : String} {network advanced : NetworkState}
    {node : NodeState} {entry : AuditEntry}
    (networkAt : state.networks.lookup other = some network) (named : network.id = other)
    (home : node.networkId = network.id) (fresh : nodeId ∉ state.nodes)
    (about : entry.networkId = some network.id) (elsewhere : other ≠ networkId) :
    (({ state with
        networks := state.networks.replace other advanced
        nodes := state.nodes.insert nodeId node }).audit entry).only networkId =
      state.only networkId := by
  have inserted : Table.retain (nodeIn networkId) (state.nodes.insert nodeId node) =
      (state.only networkId).nodes :=
    Table.retain_insert_of_dropped (AList.lookup_eq_none.mpr fresh)
      (decide_eq_false (by rw [home, named]; exact elsewhere))
  have advancedAt : Table.retain (networkIs networkId) (state.networks.replace other advanced) =
      (state.only networkId).networks := retain_replaceNetwork_of_ne elsewhere networkAt
  rw [only_audit_of_ne (by rw [about, named]; exact fun same => elsewhere (Option.some.inj same))]
  simp only [State.only] at inserted advancedAt ⊢
  rw [inserted, advancedAt]

variable (keyed : Keyed state) {draws : Draws}

theorem deleteNetworkWrite_outside {other : String} (elsewhere : other ≠ networkId) :
    (deleteNetworkWrite draws other state).2.only networkId = state.only networkId := by
  unfold deleteNetworkWrite
  cases networkAt : state.networks.lookup other with
  | none => rfl
  | some network =>
      dsimp only
      split
      · rfl
      · have kept : Table.retain (tokenFor networkId) (Table.retain
            (fun _ token => decide (token.networkId ≠ other)) state.tokens) =
            (state.only networkId).tokens := by
          refine Table.retain_retain_of_imp fun _ token isHere => decide_eq_true ?_
          rw [of_decide_eq_true isHere]
          exact elsewhere.symm
        have erased : Table.retain (networkIs networkId) (state.networks.erase other) =
            (state.only networkId).networks :=
          Table.retain_erase_of_dropped networkAt (decide_eq_false elsewhere)
        rw [only_audit_of_ne fun same => elsewhere (Option.some.inj same)]
        simp only [State.only] at kept erased ⊢
        rw [kept, erased]

theorem createNetworkWrite_outside (externals : Externals) {request : CreateNetworkRequest}
    {planned : PlannedNetwork} (elsewhere : planned.state.id ≠ networkId)
    (fresh : draws.tokenSecret ∉ state.tokens) :
    (createNetworkWrite externals draws request planned state).2.only networkId =
      state.only networkId := by
  unfold createNetworkWrite
  dsimp only
  split
  · rfl
  rename_i absent
  have created : Table.retain (networkIs networkId)
      (state.networks.insert planned.state.id planned.state) = (state.only networkId).networks :=
    Table.retain_insert_of_dropped (Option.not_isSome_iff_eq_none.mp absent)
      (decide_eq_false elsewhere)
  have recorded := fun same => elsewhere (Option.some.inj same)
  split
  · rfl
  split
  · rw [only_audit_of_ne recorded, only_withNetworks created]
  split
  · rw [only_audit_of_ne recorded, only_withNetworks created]
  · rename_i token built
    have granted : Table.retain (tokenFor networkId) (state.tokens.insert token.token token) =
        (state.only networkId).tokens := by
      refine retain_insertToken_of_ne ?_ ?_
      · rw [buildToken_token built]
        exact fresh
      · rw [buildToken_networkId built]
        exact elsewhere
    refine only_withTokens_of_same granted ?_
    rw [only_audit_of_ne recorded, only_withNetworks created]

include keyed

theorem updateAclWrite_outside {other : String} {policy : AclPolicy}
    (elsewhere : other ≠ networkId) :
    (updateAclWrite draws other policy state).2.only networkId = state.only networkId := by
  unfold updateAclWrite
  cases networkAt : state.networks.lookup other with
  | none => rfl
  | some network =>
      have named := keyed.networks _ _ networkAt
      dsimp only
      rw [only_audit_of_ne fun same => elsewhere (named.symm.trans (Option.some.inj same)),
        only_withNetworks (retain_replaceNetwork_of_ne elsewhere networkAt)]

theorem updateKeyPolicyWrite_outside {other : String} {policy : KeyRotationPolicy}
    (elsewhere : other ≠ networkId) :
    (updateKeyPolicyWrite draws other policy state).2.only networkId = state.only networkId := by
  unfold updateKeyPolicyWrite
  cases networkAt : state.networks.lookup other with
  | none => rfl
  | some network =>
      have named := keyed.networks _ _ networkAt
      dsimp only
      rw [only_audit_of_ne fun same => elsewhere (named.symm.trans (Option.some.inj same)),
        only_withNetworks (retain_replaceNetwork_of_ne elsewhere networkAt)]

theorem createTokenWrite_outside {other : String} {request : CreateTokenRequest}
    (elsewhere : other ≠ networkId) (fresh : draws.tokenSecret ∉ state.tokens) :
    (createTokenWrite draws other request state).2.only networkId = state.only networkId := by
  unfold createTokenWrite
  cases networkAt : state.networks.lookup other with
  | none => rfl
  | some network =>
      have named := keyed.networks _ _ networkAt
      dsimp only
      cases built : buildToken draws network.id request.ttlSeconds request.uses request.tags
          request.ownerUserId request.ownerEmail (request.ownerIsAdmin.getD true) with
      | error error => rfl
      | ok token =>
          have home : token.networkId ≠ networkId := by
            rw [buildToken_networkId built, named]
            exact elsewhere
          dsimp only
          rw [only_audit_of_ne fun same => elsewhere (named.symm.trans (Option.some.inj same)),
            only_withTokens
              (retain_insertToken_of_ne (by rw [buildToken_token built]; exact fresh) home)]

theorem registerUrlWrite_outside (externals : Externals) {request : RegisterUrlRequest}
    {nodeName : String} {expiresAt : Int} (elsewhere : request.networkId ≠ networkId)
    (fresh : draws.nodeId ∉ state.nodes) :
    (registerUrlWrite externals draws request nodeName expiresAt state).2.only networkId =
      state.only networkId := by
  unfold registerUrlWrite
  cases ensureUniqueNodeName state request.networkId nodeName none with
  | error error => rfl
  | ok _ =>
      cases networkAt : state.networks.lookup request.networkId with
      | none => rfl
      | some network =>
          have named := keyed.networks _ _ networkAt
          dsimp only
          rcases allocateNodeIps externals network with ⟨error | ⟨ipv4, ipv6⟩, advanced⟩
          · exact only_withNetworks (retain_replaceNetwork_of_ne elsewhere networkAt)
          · exact only_enrolled_of_ne networkAt named rfl fresh rfl elsewhere

theorem registerWrite_outside (externals : Externals) {request : RegisterRequest}
    {nodeName : String} (elsewhere : tokenNetwork state request.token ≠ some networkId)
    (fresh : draws.nodeId ∉ state.nodes) :
    (registerWrite externals draws request nodeName state).2.only networkId =
      state.only networkId := by
  unfold registerWrite
  unfold tokenNetwork at elsewhere
  cases tokenAt : state.tokens.lookup request.token with
  | none => rfl
  | some token =>
      rw [tokenAt] at elsewhere
      have elsewhere : token.networkId ≠ networkId := fun same => elsewhere (congrArg some same)
      dsimp only
      split
      · rfl
      split
      · rfl
      split
      · rfl
      cases ensureUniqueNodeName state token.networkId nodeName none with
      | error error => rfl
      | ok _ =>
          cases networkAt : state.networks.lookup token.networkId with
          | none => rfl
          | some network =>
              have named := keyed.networks _ _ networkAt
              dsimp only
              rcases allocateNodeIps externals network with ⟨error | ⟨ipv4, ipv6⟩, advanced⟩
              · exact only_withNetworks (retain_replaceNetwork_of_ne elsewhere networkAt)
              · simp only [audit_tokens, tokenAt]
                refine only_withTokens_of_same (retain_spendToken_of_ne tokenAt elsewhere) ?_
                exact only_enrolled_of_ne networkAt named rfl fresh rfl elsewhere

omit keyed

theorem revokeTokenWrite_outside {tokenId : String}
    (elsewhere : tokenNetwork state tokenId ≠ some networkId) :
    (revokeTokenWrite draws tokenId state).2.only networkId = state.only networkId := by
  unfold revokeTokenWrite
  unfold tokenNetwork at elsewhere
  cases tokenAt : state.tokens.lookup tokenId with
  | none => rfl
  | some token =>
      rw [tokenAt] at elsewhere
      have elsewhere : token.networkId ≠ networkId := fun same => elsewhere (congrArg some same)
      dsimp only
      rw [only_audit_of_ne fun same => elsewhere (Option.some.inj same)]
      exact only_withTokens (retain_replaceToken_of_ne tokenAt rfl elsewhere)

variable {nodeId : String} (elsewhere : nodeNetwork state nodeId ≠ some networkId)

include elsewhere

theorem node_elsewhere {node : NodeState} (nodeAt : state.nodes.lookup nodeId = some node) :
    node.networkId ≠ networkId := by
  intro same
  refine elsewhere ?_
  rw [nodeNetwork, nodeAt, Option.map_some, same]

theorem approveNodeSecretWrite_outside {secret : String} :
    (approveNodeSecretWrite draws nodeId secret state).2.only networkId =
      state.only networkId := by
  unfold approveNodeSecretWrite
  cases nodeAt : state.nodes.lookup nodeId with
  | none => rfl
  | some node =>
      dsimp only
      split
      · rfl
      cases node.authSecret with
      | none => rfl
      | some authSecret =>
          dsimp only
          split
          · rfl
          split
          · rfl
          · exact only_editNode_of_ne nodeAt rfl rfl (node_elsewhere elsewhere nodeAt)

theorem approveNodeWrite_outside :
    (approveNodeWrite draws nodeId state).2.only networkId = state.only networkId := by
  unfold approveNodeWrite
  cases nodeAt : state.nodes.lookup nodeId with
  | none => rfl
  | some node =>
      dsimp only
      split
      · rfl
      · exact only_editNode_of_ne nodeAt rfl rfl (node_elsewhere elsewhere nodeAt)

theorem revokeNodeWrite_outside :
    (revokeNodeWrite draws nodeId state).2.only networkId = state.only networkId := by
  unfold revokeNodeWrite
  cases nodeAt : state.nodes.lookup nodeId with
  | none => rfl
  | some node => exact only_editNode_of_ne nodeAt rfl rfl (node_elsewhere elsewhere nodeAt)

theorem deleteNodeWrite_outside :
    (deleteNodeWrite draws nodeId state).2.only networkId = state.only networkId := by
  unfold deleteNodeWrite
  cases nodeAt : state.nodes.lookup nodeId with
  | none => rfl
  | some node =>
      have away := node_elsewhere elsewhere nodeAt
      dsimp only
      rw [only_audit_of_ne fun same => away (Option.some.inj same)]
      exact only_withNodes (Table.retain_erase_of_dropped nodeAt (decide_eq_false away))

theorem rotateKeysWrite_outside (config : Config) (headers : Headers)
    (request : KeyRotationRequest) :
    (rotateKeysWrite config draws headers nodeId request state).2.only networkId =
      state.only networkId := by
  unfold rotateKeysWrite
  cases nodeAt : state.nodes.lookup nodeId with
  | none => rfl
  | some node =>
      have away := node_elsewhere elsewhere nodeAt
      dsimp only
      cases requireNode headers config.adminToken node with
      | error error => rfl
      | ok _ =>
          dsimp only
          cases first : rotateKey .machine request.machinePublicKey draws.now node with
          | error error => rfl
          | ok machineRotated =>
              have same := rotateKey_networkId first
              dsimp only
              cases second : rotateKey .wireGuard request.wgPublicKey draws.now machineRotated with
              | error error => exact only_withNodes (retain_replaceNode_of_ne nodeAt same away)
              | ok bothRotated =>
                  exact only_editNode_of_ne nodeAt ((rotateKey_networkId second).trans same) rfl
                    away

theorem updateNodeWrite_outside (keyed : Keyed state) (request : UpdateNodeRequest) :
    (updateNodeWrite draws nodeId request state).2.only networkId = state.only networkId := by
  unfold updateNodeWrite
  cases nodeAt : state.nodes.lookup nodeId with
  | none => rfl
  | some node =>
      have away := node_elsewhere elsewhere nodeAt
      dsimp only
      cases nextNodeName state node request.name with
      | error error => rfl
      | ok nextName =>
          dsimp only
          cases networkAt : state.networks.lookup node.networkId with
          | none => exact only_withNodes (retain_replaceNode_of_ne nodeAt rfl away)
          | some network =>
              dsimp only
              split
              · exact only_withNodes (retain_replaceNode_of_ne nodeAt rfl away)
              · exact only_editNode_of_ne nodeAt rfl
                  (congrArg some (keyed.networks _ _ networkAt)) away

omit elsewhere in
theorem heartbeatWrite_outside (config : Config) (headers : Headers) {request : HeartbeatRequest}
    (elsewhere : nodeNetwork state request.nodeId ≠ some networkId) :
    (heartbeatWrite config draws headers request state).2.only networkId =
      state.only networkId := by
  unfold heartbeatWrite
  cases nodeAt : state.nodes.lookup request.nodeId with
  | none => rfl
  | some node =>
      have away := node_elsewhere elsewhere nodeAt
      dsimp only
      cases requireNode headers config.adminToken node with
      | error error => rfl
      | ok _ => exact only_withNodes (retain_replaceNode_of_ne nodeAt rfl away)

end

theorem Closure.only_of_ne {config : Config} {call : Call} {closure : Handler Unit}
    (asked : Closure config call closure) {state : State} (keyed : Keyed state)
    {networkId : String} (fresh : FreshFor networkId state call)
    (elsewhere : concernedNetwork state call ≠ some networkId) :
    (closure state).2.only networkId = state.only networkId := by
  cases asked with
  | createNetwork request planned asked admin plan =>
      simp only [FreshFor, asked] at fresh
      exact createNetworkWrite_outside config.externals
        (by rw [(planNetwork_sound plan).1]; exact fresh.1) fresh.2
  | deleteNetwork other asked admin =>
      simp only [concernedNetwork, asked, ne_eq, Option.some.injEq] at elsewhere
      exact deleteNetworkWrite_outside elsewhere
  | createToken other request asked admin =>
      simp only [concernedNetwork, asked, ne_eq, Option.some.injEq] at elsewhere
      simp only [FreshFor, asked] at fresh
      exact createTokenWrite_outside keyed elsewhere fresh
  | revokeToken tokenId asked admin =>
      simp only [concernedNetwork, asked] at elsewhere
      exact revokeTokenWrite_outside elsewhere
  | register request nodeName asked named =>
      simp only [concernedNetwork, asked] at elsewhere
      simp only [FreshFor, asked] at fresh
      exact registerWrite_outside keyed config.externals elsewhere fresh
  | registerUrl request nodeName expiresAt asked expiry named =>
      simp only [concernedNetwork, asked, ne_eq, Option.some.injEq] at elsewhere
      simp only [FreshFor, asked] at fresh
      exact registerUrlWrite_outside keyed config.externals elsewhere fresh
  | approveNodeSecret nodeId secret asked =>
      simp only [concernedNetwork, asked] at elsewhere
      exact approveNodeSecretWrite_outside elsewhere
  | approveNode nodeId asked admin =>
      simp only [concernedNetwork, asked] at elsewhere
      exact approveNodeWrite_outside elsewhere
  | updateNode nodeId request asked admin =>
      simp only [concernedNetwork, asked] at elsewhere
      exact updateNodeWrite_outside elsewhere keyed request
  | updateAcl other policy asked admin =>
      simp only [concernedNetwork, asked, ne_eq, Option.some.injEq] at elsewhere
      exact updateAclWrite_outside keyed elsewhere
  | updateKeyPolicy other policy asked admin =>
      simp only [concernedNetwork, asked, ne_eq, Option.some.injEq] at elsewhere
      exact updateKeyPolicyWrite_outside keyed elsewhere
  | rotateKeys nodeId request asked =>
      simp only [concernedNetwork, asked] at elsewhere
      exact rotateKeysWrite_outside elsewhere config call.headers request
  | revokeNode nodeId asked admin =>
      simp only [concernedNetwork, asked] at elsewhere
      exact revokeNodeWrite_outside elsewhere
  | deleteNode nodeId asked admin =>
      simp only [concernedNetwork, asked] at elsewhere
      exact deleteNodeWrite_outside elsewhere
  | heartbeat request asked =>
      simp only [concernedNetwork, asked] at elsewhere
      exact heartbeatWrite_outside config call.headers elsewhere

end Lightscale.ControlPlane
