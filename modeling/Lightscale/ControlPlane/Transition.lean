/-
What one request can do to the stored networks, nodes and tokens.

The handlers are taken apart here once.  Every later invariant is proved by cases
on `Transition` and never looks into a handler again.  A transition also names the
node and the token a request created, so that histories can count them.
-/

import Lightscale.ControlPlane.Server

namespace Lightscale.ControlPlane

open Foundation

/-- The tables and audit entries a request leaves.  The revision is left open. -/
structure Leaves (before after : State) (networks : Table String NetworkState)
    (nodes : Table String NodeState) (tokens : Table String TokenState)
    (entries : List AuditEntry) : Prop where
  networks : after.networks = networks
  nodes : after.nodes = nodes
  tokens : after.tokens = tokens
  auditLog : after.auditLog = before.auditLog ++ entries
  version : after.version = before.version

theorem Leaves.bump {before after : State} {networks : Table String NetworkState}
    {nodes : Table String NodeState} {tokens : Table String TokenState}
    {entries : List AuditEntry} (leaves : Leaves before after networks nodes tokens entries) :
    Leaves before after.bump networks nodes tokens entries :=
  ⟨leaves.networks, leaves.nodes, leaves.tokens, leaves.auditLog, leaves.version⟩

theorem Leaves.refl (state : State) :
    Leaves state state state.networks state.nodes state.tokens [] :=
  ⟨rfl, rfl, rfl, (List.append_nil _).symm, rfl⟩

section

variable (config : Config) (call : Call) (before : State)

/-- What a registration has found in order before it asks for addresses. -/
inductive Enrolling (networkId : String) : Prop where
  | byToken (request : RegisterRequest) (token : TokenState)
      (asked : call.request = .register request)
      (tokenAt : before.tokens.lookup request.token = some token)
      (sameNetwork : token.networkId = networkId)
      (live : call.draws.now < token.expiresAt)
      (unrevoked : token.revokedAt = none)
      (usable : token.usesLeft ≠ 0)
  | byUrl (request : RegisterUrlRequest)
      (asked : call.request = .registerUrl request)
      (sameNetwork : request.networkId = networkId)

inductive NetworkEdit (networkId : String) (network : NetworkState) : NetworkState → Prop where
  | acl (policy : AclPolicy)
      (asked : call.request = .updateAcl networkId policy)
      (admin : requireAdmin call.headers config.adminToken = .ok ()) :
      NetworkEdit networkId network { network with acl := policy }
  | keyPolicy (policy : KeyRotationPolicy)
      (asked : call.request = .updateKeyPolicy networkId policy)
      (admin : requireAdmin call.headers config.adminToken = .ok ()) :
      NetworkEdit networkId network { network with keyPolicy := policy }
  /-- A registration that found no address may have advanced one counter. -/
  | offsetSpent (error : ApiError) (advanced : NetworkState)
      (enrolling : Enrolling call before networkId)
      (failed : allocateNodeIps config.externals network = (.error error, advanced)) :
      NetworkEdit networkId network advanced

/-- The two ways a node comes into being, with the tokens they leave. -/
inductive Registration (networkId : String) (network : NetworkState) (ipv4 ipv6 : String) :
    NodeState → Table String TokenState → Prop where
  | byToken (request : RegisterRequest) (nodeName : String) (token : TokenState)
      (asked : call.request = .register request)
      (named : normalizeNodeName request.nodeName = .ok nodeName)
      (tokenAt : before.tokens.lookup request.token = some token)
      (sameNetwork : token.networkId = networkId)
      (live : call.draws.now < token.expiresAt)
      (unrevoked : token.revokedAt = none)
      (usable : token.usesLeft ≠ 0)
      (unique : ensureUniqueNodeName before networkId nodeName none = .ok ()) :
      Registration networkId network ipv4 ipv6
        (registeredNode call.draws request nodeName network token ipv4 ipv6)
        (spendToken before.tokens request.token token)
  | byUrl (request : RegisterUrlRequest) (nodeName : String) (expiresAt : Int)
      (asked : call.request = .registerUrl request)
      (named : normalizeNodeName request.nodeName = .ok nodeName)
      (expiry : linkExpiry call.draws request = .ok expiresAt)
      (sameNetwork : request.networkId = networkId)
      (unique : ensureUniqueNodeName before networkId nodeName none = .ok ()) :
      Registration networkId network ipv4 ipv6
        (urlNode call.draws request nodeName network expiresAt ipv4 ipv6)
        before.tokens

inductive NodeEdit (nodeId : String) (node : NodeState) : NodeState → Prop where
  | approvedBySecret (secret : String)
      (asked : call.request = .approveNodeSecret nodeId secret)
      (pending : node.approved = false)
      (carried : node.authSecret = some secret)
      (live : ∀ expiresAt, node.authExpiresAt = some expiresAt → call.draws.now < expiresAt)
      (isKept : config.backend = .file ∨ call.draws.stored = true) :
      NodeEdit nodeId node (node.approve call.draws.now)
  | approvedByAdmin
      (asked : call.request = .approveNode nodeId)
      (admin : requireAdmin call.headers config.adminToken = .ok ())
      (pending : node.approved = false)
      (isApplied : (config.backend.applied call.draws.stored
        (approveNodeWrite call.draws nodeId) before).isSome = true) :
      NodeEdit nodeId node (node.approve call.draws.now)
  | updated (request : UpdateNodeRequest) (nextName : Option String)
      (asked : call.request = .updateNode nodeId request)
      (admin : requireAdmin call.headers config.adminToken = .ok ())
      (named : nextNodeName before node request.name = .ok nextName)
      (isKept : config.backend = .file ∨ call.draws.stored = true) :
      NodeEdit nodeId node
        { node with
          name := nextName.getD node.name
          tags := (nextNodeTags node request.tags).getD node.tags }
  | rotated (request : KeyRotationRequest) (machineRotated bothRotated : NodeState)
      (asked : call.request = .rotateKeys nodeId request)
      (allowed : requireNode call.headers config.adminToken node = .ok ())
      (provided : request.machinePublicKey ≠ none ∨ request.wgPublicKey ≠ none)
      (machine : rotateKey .machine request.machinePublicKey call.draws.now node =
        .ok machineRotated)
      (wireGuard : rotateKey .wireGuard request.wgPublicKey call.draws.now machineRotated =
        .ok bothRotated)
      (isApplied : (config.backend.applied call.draws.stored
        (rotateKeysWrite config call.draws call.headers nodeId request) before).isSome = true) :
      NodeEdit nodeId node { bothRotated with revokedAt := none }
  /-- The second key was refused after the first had been replaced. -/
  | rotatedPartly (request : KeyRotationRequest) (machineRotated : NodeState)
      (error : ApiError)
      (asked : call.request = .rotateKeys nodeId request)
      (allowed : requireNode call.headers config.adminToken node = .ok ())
      (machine : rotateKey .machine request.machinePublicKey call.draws.now node =
        .ok machineRotated)
      (wireGuard : rotateKey .wireGuard request.wgPublicKey call.draws.now machineRotated =
        .error error)
      (notApplied : config.backend.applied call.draws.stored
        (rotateKeysWrite config call.draws call.headers nodeId request) before = none)
      (onFile : config.backend = .file) :
      NodeEdit nodeId node machineRotated
  | revoked
      (asked : call.request = .revokeNode nodeId)
      (admin : requireAdmin call.headers config.adminToken = .ok ())
      (isKept : config.backend = .file ∨ call.draws.stored = true) :
      NodeEdit nodeId node (node.revoke call.draws.now)
  | heartbeat (request : HeartbeatRequest)
      (asked : call.request = .heartbeat request)
      (named : request.nodeId = nodeId)
      (allowed : requireNode call.headers config.adminToken node = .ok ())
      (probeRequestedAt : Option Int) :
      NodeEdit nodeId node
        { node with
          endpoints := mergeEndpoints request.endpoints
            (request.listenPort.map (socketText call.draws.remoteIp))
          routes := request.routes
          lastSeen := call.draws.now
          probeRequestedAt := probeRequestedAt }

def addToken (tokens : Table String TokenState) : Option TokenState → Table String TokenState
  | none => tokens
  | some token => tokens.insert token.token token

/-- One request, the state it leaves, and the node and token it created. -/
inductive Transition : State → Option NodeState → Option TokenState → Prop where
  | idle {after : State}
      (leaves : Leaves before after before.networks before.nodes before.tokens []) :
      Transition after none none
  | networkCreated {after : State} (request : CreateNetworkRequest)
      (planned : PlannedNetwork) (granted : Option TokenState) (entry : AuditEntry)
      (asked : call.request = .createNetwork request)
      (admin : requireAdmin call.headers config.adminToken = .ok ())
      (plan : planNetwork config.externals call.draws request = .ok planned)
      (absent : before.networks.lookup planned.state.id = none)
      (apart : checkOverlaps config.externals planned.overlayV4Net planned.overlayV6Net
        before.networks.values = .ok ())
      (grant : ∀ token, granted = some token → ∃ ttl,
        request.bootstrapTokenTtlSeconds = some ttl ∧
        buildToken call.draws planned.state.id ttl (request.bootstrapTokenUses.getD 1)
          (request.bootstrapTokenTags.getD []) none none true = .ok token)
      (leaves : Leaves before after
        (before.networks.insert planned.state.id planned.state) before.nodes
        (addToken before.tokens granted) [entry]) :
      Transition after none granted
  | networkDeleted {after : State} (networkId : String) (network : NetworkState)
      (entry : AuditEntry)
      (asked : call.request = .deleteNetwork networkId)
      (admin : requireAdmin call.headers config.adminToken = .ok ())
      (networkAt : before.networks.lookup networkId = some network)
      (empty : ∀ key node, before.nodes.lookup key = some node → node.networkId ≠ networkId)
      (leaves : Leaves before after (before.networks.erase networkId) before.nodes
        (Table.retain (fun _ token => decide (token.networkId ≠ networkId)) before.tokens)
        [entry]) :
      Transition after none none
  | networkEdited {after : State} (networkId : String) (network edited : NetworkState)
      (entries : List AuditEntry)
      (networkAt : before.networks.lookup networkId = some network)
      (edit : NetworkEdit config call before networkId network edited)
      (leaves : Leaves before after (before.networks.replace networkId edited) before.nodes
        before.tokens entries) :
      Transition after none none
  | tokenCreated {after : State} (networkId : String) (request : CreateTokenRequest)
      (network : NetworkState) (token : TokenState) (entry : AuditEntry)
      (asked : call.request = .createToken networkId request)
      (admin : requireAdmin call.headers config.adminToken = .ok ())
      (networkAt : before.networks.lookup networkId = some network)
      (grant : buildToken call.draws network.id request.ttlSeconds request.uses request.tags
        request.ownerUserId request.ownerEmail (request.ownerIsAdmin.getD true) = .ok token)
      (leaves : Leaves before after before.networks before.nodes
        (before.tokens.insert token.token token) [entry]) :
      Transition after none (some token)
  | tokenRevoked {after : State} (tokenId : String) (token : TokenState)
      (entry : AuditEntry)
      (asked : call.request = .revokeToken tokenId)
      (admin : requireAdmin call.headers config.adminToken = .ok ())
      (tokenAt : before.tokens.lookup tokenId = some token)
      (leaves : Leaves before after before.networks before.nodes
        (before.tokens.replace tokenId { token with revokedAt := some call.draws.now })
        [entry]) :
      Transition after none none
  | nodeRegistered {after : State} (networkId : String) (network advanced : NetworkState)
      (ipv4 ipv6 : String) (node : NodeState) (tokens : Table String TokenState)
      (entry : AuditEntry)
      (networkAt : before.networks.lookup networkId = some network)
      (allocated : allocateNodeIps config.externals network = (.ok (ipv4, ipv6), advanced))
      (registration : Registration call before networkId network ipv4 ipv6 node tokens)
      (leaves : Leaves before after (before.networks.replace networkId advanced)
        (before.nodes.insert node.id node) tokens [entry]) :
      Transition after (some node) none
  | nodeEdited {after : State} (nodeId : String) (node edited : NodeState)
      (entries : List AuditEntry)
      (nodeAt : before.nodes.lookup nodeId = some node)
      (edit : NodeEdit config call before nodeId node edited)
      (leaves : Leaves before after before.networks (before.nodes.replace nodeId edited)
        before.tokens entries) :
      Transition after none none
  | nodeDeleted {after : State} (nodeId : String) (node : NodeState) (entry : AuditEntry)
      (asked : call.request = .deleteNode nodeId)
      (admin : requireAdmin call.headers config.adminToken = .ok ())
      (nodeAt : before.nodes.lookup nodeId = some node)
      (leaves : Leaves before after before.networks (before.nodes.erase nodeId)
        before.tokens [entry]) :
      Transition after none none

end

/-! ### What no edit of a node touches -/

structure SameIdentity (old new : NodeState) : Prop where
  id : new.id = old.id
  networkId : new.networkId = old.networkId
  ipv4 : new.ipv4 = old.ipv4
  ipv6 : new.ipv6 = old.ipv6
  nodeToken : new.nodeToken = old.nodeToken

theorem SameIdentity.refl (node : NodeState) : SameIdentity node node :=
  ⟨rfl, rfl, rfl, rfl, rfl⟩

theorem SameIdentity.trans {first second third : NodeState}
    (left : SameIdentity first second) (right : SameIdentity second third) :
    SameIdentity first third :=
  ⟨right.id.trans left.id, right.networkId.trans left.networkId,
    right.ipv4.trans left.ipv4, right.ipv6.trans left.ipv6,
    right.nodeToken.trans left.nodeToken⟩

theorem rotateKey_ok {keyType : KeyType} {newKey : Option String} {now : Int}
    {node rotated : NodeState} (ran : rotateKey keyType newKey now node = .ok rotated) :
    (newKey = none ∧ rotated = node) ∨
      ∃ key, newKey = some key ∧ node.publicKey keyType ≠ key ∧
        rotated =
          { node.setPublicKey key keyType with
            keyHistory :=
              revokeKeyRecord node.keyHistory keyType (node.publicKey keyType) now ++
                [{ keyType := keyType, publicKey := key, createdAt := now,
                   revokedAt := none }] } := by
  cases newKey with
  | none =>
      cases ran
      exact Or.inl ⟨rfl, rfl⟩
  | some key =>
      unfold rotateKey at ran
      dsimp only at ran
      by_cases unchanged : node.publicKey keyType = key
      · rw [if_pos unchanged] at ran
        cases ran
      · rw [if_neg unchanged] at ran
        cases ran
        exact Or.inr ⟨key, rfl, unchanged, rfl⟩

theorem rotateKey_sameIdentity {keyType : KeyType} {newKey : Option String} {now : Int}
    {node rotated : NodeState} (ran : rotateKey keyType newKey now node = .ok rotated) :
    SameIdentity node rotated := by
  rcases rotateKey_ok ran with ⟨_, same⟩ | ⟨key, _, _, changed⟩
  · subst same
    exact SameIdentity.refl _
  · subst changed
    cases keyType with
    | machine => exact ⟨rfl, rfl, rfl, rfl, rfl⟩
    | wireGuard => exact ⟨rfl, rfl, rfl, rfl, rfl⟩

theorem NodeEdit.sameIdentity {config : Config} {call : Call} {before : State}
    {nodeId : String} {node edited : NodeState}
    (edit : NodeEdit config call before nodeId node edited) : SameIdentity node edited := by
  cases edit with
  | approvedBySecret => exact ⟨rfl, rfl, rfl, rfl, rfl⟩
  | approvedByAdmin => exact ⟨rfl, rfl, rfl, rfl, rfl⟩
  | updated => exact ⟨rfl, rfl, rfl, rfl, rfl⟩
  | rotated request machineRotated bothRotated asked allowed provided machine wireGuard =>
      have both := (rotateKey_sameIdentity machine).trans (rotateKey_sameIdentity wireGuard)
      exact ⟨both.id, both.networkId, both.ipv4, both.ipv6, both.nodeToken⟩
  | rotatedPartly request machineRotated error asked allowed machine =>
      exact rotateKey_sameIdentity machine
  | revoked => exact ⟨rfl, rfl, rfl, rfl, rfl⟩
  | heartbeat => exact ⟨rfl, rfl, rfl, rfl, rfl⟩

structure NewNode (call : Call) (network : NetworkState) (ipv4 ipv6 : String)
    (node : NodeState) : Prop where
  id : node.id = call.draws.nodeId
  networkId : node.networkId = network.id
  at4 : node.ipv4 = ipv4
  at6 : node.ipv6 = ipv6
  nodeToken : node.nodeToken = some call.draws.nodeToken
  unrevoked : node.revokedAt = none
  keyHistory : node.keyHistory =
    initialKeyHistory node.machinePublicKey node.wgPublicKey call.draws.now

theorem Registration.newNode {call : Call} {before : State} {networkId : String}
    {network : NetworkState} {ipv4 ipv6 : String} {node : NodeState}
    {tokens : Table String TokenState}
    (registration : Registration call before networkId network ipv4 ipv6 node tokens) :
    NewNode call network ipv4 ipv6 node := by
  cases registration with
  | byToken => exact ⟨rfl, rfl, rfl, rfl, rfl, rfl, rfl⟩
  | byUrl => exact ⟨rfl, rfl, rfl, rfl, rfl, rfl, rfl⟩

end Lightscale.ControlPlane
