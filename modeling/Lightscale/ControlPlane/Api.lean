/-
The handlers that change the state, each written as the closure it gives to the
store and the checks in front of it.

A closure edits the state in the order of the source: what precedes a failing
check stays in the state it returns.  Random ids and secrets, the readings of the
clock and the outcome of storing the state are drawn by the environment, one set
for each request.
-/

import Lightscale.ControlPlane.Overlay
import Lightscale.ControlPlane.Netmap
import Lightscale.ControlPlane.Store

namespace Lightscale.ControlPlane

open Foundation

inductive RemoteIp where
  | v4 (text : String)
  | v6 (text : String)
  deriving DecidableEq

/-- What the environment contributes to one request.  The clock is read once by
the handler, once for a token, once for an audit entry and twice for a netmap. -/
structure Draws where
  now : Int
  tokenNow : Int
  auditNow : Int
  netmapNow : Int
  generatedAt : Int
  networkId : String
  nodeId : String
  nodeToken : String
  authSecret : String
  tokenSecret : String
  auditId : String
  remoteIp : RemoteIp
  stored : Bool
  deriving DecidableEq

structure Config where
  backend : Backend
  adminToken : Option String
  relay : RelayConfig
  externals : Externals

def Config.write {Result : Type} (config : Config) (draws : Draws)
    (closure : Handler Result) : Handler Result :=
  config.backend.write draws.stored closure

/-! ### Helpers shared by the handlers -/

def normalizeNodeName (name : String) : Except ApiError String :=
  if trim name = "" then .error (.badRequest "node name must be non-empty")
  else .ok (trim name)

/-- Whether a stored node blocks a name: it belongs to the network, is not
revoked, is not the node being renamed, and has the name up to ASCII case. -/
def nameTaken (networkId name : String) (excludeNodeId : Option String)
    (node : NodeState) : Bool :=
  decide (node.networkId = networkId) && node.revokedAt.isNone &&
    decide (excludeNodeId ≠ some node.id) && eqIgnoreAsciiCase node.name name

def ensureUniqueNodeName (state : State) (networkId name : String)
    (excludeNodeId : Option String) : Except ApiError Unit :=
  if state.nodes.values.any (nameTaken networkId name excludeNodeId) then
    .error (.conflict "node name already exists")
  else .ok ()

def nonEmptyTrimmed (value : Option String) : Option String :=
  match value with
  | none => none
  | some text => if trim text = "" then none else some (trim text)

def buildToken (draws : Draws) (networkId : String) (ttlSeconds uses : Nat)
    (tags : List String) (ownerUserId ownerEmail : Option String) (ownerIsAdmin : Bool) :
    Except ApiError TokenState :=
  if ttlSeconds = 0 ∨ uses = 0 then
    .error (.badRequest "ttl_seconds and uses must be > 0")
  else .ok
    { token := draws.tokenSecret
      networkId := networkId
      expiresAt := wrapI64 (draws.tokenNow + wrapI64 ttlSeconds)
      usesLeft := uses
      tags := tags
      ownerUserId := nonEmptyTrimmed ownerUserId
      ownerEmail := nonEmptyTrimmed ownerEmail
      ownerIsAdmin := ownerIsAdmin
      revokedAt := none }

def buildAuditEntry (draws : Draws) (action : String) (networkId nodeId : Option String)
    (detail : Option (List (String × DetailValue))) : AuditEntry :=
  { id := draws.auditId
    timestamp := draws.auditNow
    networkId := networkId
    nodeId := nodeId
    action := action
    detail := detail }

def State.audit (state : State) (entry : AuditEntry) : State :=
  { state with auditLog := state.auditLog ++ [entry] }

def DetailValue.ofNat? : Option Nat → DetailValue
  | none => .null
  | some value => .number value

def DetailValue.ofInt? : Option Int → DetailValue
  | none => .null
  | some value => .number value

def DetailValue.ofText? : Option String → DetailValue
  | none => .null
  | some value => .text value

def shortId (id : String) : String :=
  String.ofList (id.toList.takeWhile (fun char => char != '-'))

def mergeEndpoints (provided : List String) (observed : Option String) : List String :=
  dedup (observed.toList ++ provided)

def socketText : RemoteIp → Nat → String
  | .v4 text, port => text ++ ":" ++ toString port
  | .v6 text, port => "[" ++ text ++ "]:" ++ toString port

/-! ### Networks -/

structure PlannedNetwork where
  state : NetworkState
  overlayV4Net : Ipv4Net
  overlayV6Net : Ipv6Net

def planNetwork (externals : Externals) (draws : Draws) (request : CreateNetworkRequest) :
    Except ApiError PlannedNetwork :=
  let defaults := deriveOverlayPrefixes externals draws.networkId
  let overlayV4 := request.overlayV4.getD defaults.1
  let overlayV6 := request.overlayV6.getD defaults.2
  match externals.parseV4 overlayV4 with
  | none => .error (.badRequest "invalid overlay_v4 cidr")
  | some overlayV4Net =>
      match externals.parseV6 overlayV6 with
      | none => .error (.badRequest "invalid overlay_v6 cidr")
      | some overlayV6Net =>
          match initialIpv4Offset overlayV4Net with
          | none => .error (.badRequest "overlay_v4 must provide usable host addresses")
          | some nextIpv4 => .ok
              { overlayV4Net := overlayV4Net
                overlayV6Net := overlayV6Net
                state :=
                  { id := draws.networkId
                    name := request.name
                    overlayV4 := overlayV4
                    overlayV6 := overlayV6
                    dnsDomain := request.dnsDomain.getD
                      ("net-" ++ shortId draws.networkId ++ ".lightscale")
                    requiresApproval := request.requiresApproval.getD false
                    acl := {}
                    keyPolicy := { maxAgeSeconds := request.keyRotationMaxAgeSeconds }
                    createdAt := draws.now
                    nextIpv4 := nextIpv4
                    nextIpv6 := initialIpv6Offset overlayV6Net } }

def checkOverlaps (externals : Externals) (overlayV4Net : Ipv4Net) (overlayV6Net : Ipv6Net) :
    List NetworkState → Except ApiError Unit
  | [] => .ok ()
  | existing :: rest =>
      match externals.parseV4 existing.overlayV4 with
      | none => .error .internal
      | some existingV4 =>
          if ipv4NetsOverlap overlayV4Net existingV4 then
            .error (.conflict "overlay_v4 overlaps existing network")
          else
            match externals.parseV6 existing.overlayV6 with
            | none => .error .internal
            | some existingV6 =>
                if ipv6NetsOverlap overlayV6Net existingV6 then
                  .error (.conflict "overlay_v6 overlaps existing network")
                else checkOverlaps externals overlayV4Net overlayV6Net rest

/-- The closure of `createNetwork`.  The network is stored before the bootstrap
token is built, and building the token can fail. -/
def createNetworkWrite (externals : Externals) (draws : Draws)
    (request : CreateNetworkRequest) (planned : PlannedNetwork) :
    Handler (Option TokenState) :=
  fun state =>
    let network := planned.state
    if (state.networks.lookup network.id).isSome then
      (.error (.conflict "network already exists"), state)
    else
      match checkOverlaps externals planned.overlayV4Net planned.overlayV6Net
          state.networks.values with
      | .error error => (.error error, state)
      | .ok _ =>
          let created :=
            ({ state with networks := state.networks.insert network.id network }).audit
              (buildAuditEntry draws "network.create" (some network.id) none
                (some
                  [("name", .text network.name),
                    ("requires_approval", .bool network.requiresApproval),
                    ("key_rotation_max_age_seconds",
                      .ofNat? network.keyPolicy.maxAgeSeconds)]))
          match request.bootstrapTokenTtlSeconds with
          | none => (.ok none, created)
          | some ttl =>
              match buildToken draws network.id ttl (request.bootstrapTokenUses.getD 1)
                  (request.bootstrapTokenTags.getD []) none none true with
              | .error error => (.error error, created)
              | .ok token =>
                  (.ok (some token),
                    { created with tokens := created.tokens.insert token.token token })

structure CreateNetworkResponse where
  network : NetworkInfo
  bootstrapToken : Option EnrollmentToken

def createNetwork (config : Config) (draws : Draws) (headers : Headers)
    (request : CreateNetworkRequest) : Handler CreateNetworkResponse :=
  check (requireAdmin headers config.adminToken) fun _ =>
  check (planNetwork config.externals draws request) fun planned =>
  (config.write draws (createNetworkWrite config.externals draws request planned)).respond
    fun token =>
      { network := NetworkInfo.ofState planned.state
        bootstrapToken := token.map EnrollmentToken.ofState }

def deleteNetworkWrite (draws : Draws) (networkId : String) : Handler Unit :=
  fun state =>
    match state.networks.lookup networkId with
    | none => (.error (.notFound "network"), state)
    | some _ =>
        if state.nodes.values.any (fun node => decide (node.networkId = networkId)) then
          (.error (.conflict "network has connected nodes; revoke or delete nodes first"),
            state)
        else
          (.ok (),
            ({ state with
                tokens := Table.retain
                  (fun _ token => decide (token.networkId ≠ networkId)) state.tokens
                networks := state.networks.erase networkId }).audit
              (buildAuditEntry draws "network.delete" (some networkId) none none))

def deleteNetwork (config : Config) (draws : Draws) (headers : Headers)
    (networkId : String) : Handler Unit :=
  check (requireAdmin headers config.adminToken) fun _ =>
  config.write draws (deleteNetworkWrite draws networkId)

def updateAclWrite (draws : Draws) (networkId : String) (policy : AclPolicy) :
    Handler AclPolicy :=
  fun state =>
    match state.networks.lookup networkId with
    | none => (.error (.notFound "network"), state)
    | some network =>
        (.ok policy,
          ({ state with
              networks := state.networks.replace networkId { network with acl := policy } }).audit
            (buildAuditEntry draws "acl.update" (some network.id) none none))

def updateAcl (config : Config) (draws : Draws) (headers : Headers) (networkId : String)
    (policy : AclPolicy) : Handler AclPolicy :=
  check (requireAdmin headers config.adminToken) fun _ =>
  config.write draws (updateAclWrite draws networkId policy)

def updateKeyPolicyWrite (draws : Draws) (networkId : String) (policy : KeyRotationPolicy) :
    Handler KeyRotationPolicy :=
  fun state =>
    match state.networks.lookup networkId with
    | none => (.error (.notFound "network"), state)
    | some network =>
        (.ok policy,
          ({ state with
              networks := state.networks.replace networkId
                { network with keyPolicy := policy } }).audit
            (buildAuditEntry draws "key_policy.update" (some network.id) none
              (some [("max_age_seconds", .ofNat? policy.maxAgeSeconds)])))

def updateKeyPolicy (config : Config) (draws : Draws) (headers : Headers)
    (networkId : String) (policy : KeyRotationPolicy) : Handler KeyRotationPolicy :=
  check (requireAdmin headers config.adminToken) fun _ =>
  config.write draws (updateKeyPolicyWrite draws networkId policy)

/-! ### Enrollment tokens -/

def createTokenWrite (draws : Draws) (networkId : String) (request : CreateTokenRequest) :
    Handler TokenState :=
  fun state =>
    match state.networks.lookup networkId with
    | none => (.error (.notFound "network"), state)
    | some network =>
        match buildToken draws network.id request.ttlSeconds request.uses request.tags
            request.ownerUserId request.ownerEmail (request.ownerIsAdmin.getD true) with
        | .error error => (.error error, state)
        | .ok token =>
            (.ok token,
              ({ state with tokens := state.tokens.insert token.token token }).audit
                (buildAuditEntry draws "token.create" (some network.id) none
                  (some
                    [("expires_at", .number token.expiresAt),
                      ("uses", .number token.usesLeft),
                      ("tags", .texts token.tags),
                      ("owner_user_id", .ofText? token.ownerUserId),
                      ("owner_email", .ofText? token.ownerEmail),
                      ("owner_is_admin", .bool token.ownerIsAdmin)])))

def createToken (config : Config) (draws : Draws) (headers : Headers) (networkId : String)
    (request : CreateTokenRequest) : Handler EnrollmentToken :=
  check (requireAdmin headers config.adminToken) fun _ =>
  (config.write draws (createTokenWrite draws networkId request)).respond
    EnrollmentToken.ofState

def revokeTokenWrite (draws : Draws) (tokenId : String) : Handler TokenState :=
  fun state =>
    match state.tokens.lookup tokenId with
    | none => (.error (.notFound "token"), state)
    | some token =>
        let revoked := { token with revokedAt := some draws.now }
        (.ok revoked,
          ({ state with tokens := state.tokens.replace tokenId revoked }).audit
            (buildAuditEntry draws "token.revoke" (some token.networkId) none
              (some [("revoked_at", .ofInt? revoked.revokedAt)])))

def revokeToken (config : Config) (draws : Draws) (headers : Headers) (tokenId : String) :
    Handler EnrollmentToken :=
  check (requireAdmin headers config.adminToken) fun _ =>
  (config.write draws (revokeTokenWrite draws tokenId)).respond EnrollmentToken.ofState

/-! ### Registration -/

def initialKeyHistory (machinePublicKey wgPublicKey : String) (now : Int) : List KeyRecord :=
  [{ keyType := .machine
     publicKey := machinePublicKey
     createdAt := now
     revokedAt := none },
    { keyType := .wireGuard
      publicKey := wgPublicKey
      createdAt := now
      revokedAt := none }]

def registeredNode (draws : Draws) (request : RegisterRequest) (nodeName : String)
    (network : NetworkState) (token : TokenState) (ipv4 ipv6 : String) : NodeState :=
  let approved := !network.requiresApproval
  { id := draws.nodeId
    networkId := network.id
    name := nodeName
    machinePublicKey := request.machinePublicKey
    wgPublicKey := request.wgPublicKey
    ipv4 := ipv4
    ipv6 := ipv6
    endpoints := []
    tags := token.tags
    ownerUserId := token.ownerUserId
    ownerEmail := token.ownerEmail
    ownerIsAdmin := token.ownerIsAdmin
    routes := []
    createdAt := draws.now
    lastSeen := draws.now
    probeRequestedAt := none
    approved := approved
    approvedAt := if approved then some draws.now else none
    authSecret := none
    authExpiresAt := none
    nodeToken := some draws.nodeToken
    revokedAt := none
    keyHistory := initialKeyHistory request.machinePublicKey request.wgPublicKey draws.now }

def spendToken (tokens : Table String TokenState) (tokenId : String) (token : TokenState) :
    Table String TokenState :=
  let usesLeft := token.usesLeft - 1
  if usesLeft = 0 then tokens.erase tokenId
  else tokens.replace tokenId { token with usesLeft := usesLeft }

def registerWrite (externals : Externals) (draws : Draws) (request : RegisterRequest)
    (nodeName : String) : Handler String :=
  fun state =>
    match state.tokens.lookup request.token with
    | none => (.error (.unauthorized "token not found"), state)
    | some token =>
        if token.expiresAt ≤ draws.now then
          (.error (.unauthorized "token expired"), state)
        else if token.revokedAt.isSome then
          (.error (.unauthorized "token revoked"), state)
        else if token.usesLeft = 0 then
          (.error (.unauthorized "token used up"), state)
        else
          match ensureUniqueNodeName state token.networkId nodeName none with
          | .error error => (.error error, state)
          | .ok _ =>
              match state.networks.lookup token.networkId with
              | none => (.error (.notFound "network"), state)
              | some network =>
                  match allocateNodeIps externals network with
                  | (.error error, advanced) =>
                      (.error error,
                        { state with
                          networks := state.networks.replace token.networkId advanced })
                  | (.ok (ipv4, ipv6), advanced) =>
                      let node := registeredNode draws request nodeName network token ipv4 ipv6
                      let inserted :=
                        ({ state with
                            networks := state.networks.replace token.networkId advanced
                            nodes := state.nodes.insert node.id node }).audit
                          (buildAuditEntry draws "node.register" (some network.id)
                            (some node.id)
                            (some
                              [("approved", .bool node.approved),
                                ("owner_user_id", .ofText? node.ownerUserId),
                                ("owner_email", .ofText? node.ownerEmail),
                                ("owner_is_admin", .bool node.ownerIsAdmin)]))
                      -- The token is looked up once more before it is spent.
                      match inserted.tokens.lookup request.token with
                      | none => (.error (.unauthorized "token not found"), inserted)
                      | some spent =>
                          (.ok node.id,
                            { inserted with
                              tokens := spendToken inserted.tokens request.token spent })

structure RegisterResponse where
  nodeToken : String
  netmap : NetMap

def register (config : Config) (draws : Draws) (request : RegisterRequest) :
    Handler RegisterResponse :=
  check (normalizeNodeName request.nodeName) fun nodeName =>
  (config.write draws (registerWrite config.externals draws request nodeName)).andRead
    fun nodeId state =>
      (buildNetmap state nodeId (relayOrNone config.relay) draws.netmapNow
        draws.generatedAt).map fun netmap =>
          { nodeToken := draws.nodeToken, netmap := netmap }

def urlNode (draws : Draws) (request : RegisterUrlRequest) (nodeName : String)
    (network : NetworkState) (expiresAt : Int) (ipv4 ipv6 : String) : NodeState :=
  { id := draws.nodeId
    networkId := network.id
    name := nodeName
    machinePublicKey := request.machinePublicKey
    wgPublicKey := request.wgPublicKey
    ipv4 := ipv4
    ipv6 := ipv6
    endpoints := []
    tags := []
    ownerUserId := none
    ownerEmail := none
    ownerIsAdmin := true
    routes := []
    createdAt := draws.now
    lastSeen := draws.now
    probeRequestedAt := none
    approved := false
    approvedAt := none
    authSecret := some draws.authSecret
    authExpiresAt := some expiresAt
    nodeToken := some draws.nodeToken
    revokedAt := none
    keyHistory := initialKeyHistory request.machinePublicKey request.wgPublicKey draws.now }

def registerUrlWrite (externals : Externals) (draws : Draws) (request : RegisterUrlRequest)
    (nodeName : String) (expiresAt : Int) : Handler (NodeState × String) :=
  fun state =>
    match ensureUniqueNodeName state request.networkId nodeName none with
    | .error error => (.error error, state)
    | .ok _ =>
        match state.networks.lookup request.networkId with
        | none => (.error (.notFound "network"), state)
        | some network =>
            match allocateNodeIps externals network with
            | (.error error, advanced) =>
                (.error error,
                  { state with
                    networks := state.networks.replace request.networkId advanced })
            | (.ok (ipv4, ipv6), advanced) =>
                let node := urlNode draws request nodeName network expiresAt ipv4 ipv6
                let authPath :=
                  "/v1/register/approve/" ++ draws.nodeId ++ "/" ++ draws.authSecret
                (.ok (node, authPath),
                  ({ state with
                      networks := state.networks.replace request.networkId advanced
                      nodes := state.nodes.insert node.id node }).audit
                    (buildAuditEntry draws "node.register_url" (some network.id)
                      (some node.id) (some [("expires_at", .number expiresAt)])))

structure RegisterUrlResponse where
  nodeId : String
  networkId : String
  ipv4 : String
  ipv6 : String
  authPath : String
  expiresAt : Int
  nodeToken : String

def linkExpiry (draws : Draws) (request : RegisterUrlRequest) : Except ApiError Int :=
  let ttlSeconds := request.ttlSeconds.getD 600
  if ttlSeconds = 0 then .error (.badRequest "ttl_seconds must be > 0")
  else .ok (wrapI64 (draws.now + wrapI64 ttlSeconds))

def registerUrl (config : Config) (draws : Draws) (request : RegisterUrlRequest) :
    Handler RegisterUrlResponse :=
  check (linkExpiry draws request) fun expiresAt =>
  check (normalizeNodeName request.nodeName) fun nodeName =>
  (config.write draws
    (registerUrlWrite config.externals draws request nodeName expiresAt)).respond
    fun written =>
      { nodeId := written.1.id
        networkId := written.1.networkId
        ipv4 := written.1.ipv4
        ipv6 := written.1.ipv6
        authPath := written.2
        expiresAt := expiresAt
        nodeToken := draws.nodeToken }

/-! ### Approval -/

def NodeState.approve (node : NodeState) (now : Int) : NodeState :=
  { node with
    approved := true
    approvedAt := some now
    authSecret := none
    authExpiresAt := none }

def State.approveNode (state : State) (draws : Draws) (nodeId : String) (node : NodeState)
    (via : String) : Except ApiError NodeState × State :=
  let approved := node.approve draws.now
  (.ok approved,
    ({ state with nodes := state.nodes.replace nodeId approved }).audit
      (buildAuditEntry draws "node.approve" (some node.networkId) (some node.id)
        (some
          [("approved_at", .ofInt? approved.approvedAt),
            ("via", .text via)])))

def approveNodeSecretWrite (draws : Draws) (nodeId secret : String) : Handler NodeState :=
  fun state =>
    match state.nodes.lookup nodeId with
    | none => (.error (.notFound "node"), state)
    | some node =>
        if node.approved then (.ok node, state)
        else
          match node.authSecret with
          | none => (.error (.unauthorized "approval not allowed"), state)
          | some authSecret =>
              if authSecret ≠ secret then
                (.error (.unauthorized "invalid approval secret"), state)
              else if node.authExpiresAt.any (fun expiresAt => decide (expiresAt ≤ draws.now))
              then (.error (.unauthorized "approval expired"), state)
              else state.approveNode draws nodeId node "auth_url"

structure ApproveResponse where
  nodeId : String
  approved : Bool
  approvedAt : Option Int

def ApproveResponse.ofNode (node : NodeState) : ApproveResponse :=
  { nodeId := node.id, approved := node.approved, approvedAt := node.approvedAt }

def approveNodeSecret (config : Config) (draws : Draws) (nodeId secret : String) :
    Handler ApproveResponse :=
  (config.write draws (approveNodeSecretWrite draws nodeId secret)).respond
    ApproveResponse.ofNode

def approveNodeWrite (draws : Draws) (nodeId : String) : Handler NodeState :=
  fun state =>
    match state.nodes.lookup nodeId with
    | none => (.error (.notFound "node"), state)
    | some node =>
        if node.approved then (.ok node, state)
        else state.approveNode draws nodeId node "admin"

def approveNode (config : Config) (draws : Draws) (headers : Headers) (nodeId : String) :
    Handler ApproveResponse :=
  check (requireAdmin headers config.adminToken) fun _ =>
  (config.write draws (approveNodeWrite draws nodeId)).respond ApproveResponse.ofNode

/-! ### Editing a node -/

def nextNodeName (state : State) (existing : NodeState) (name : Option String) :
    Except ApiError (Option String) :=
  match name with
  | none => .ok none
  | some name =>
      match normalizeNodeName name with
      | .error error => .error error
      | .ok normalized =>
          if normalized = existing.name then .ok none
          else
            match ensureUniqueNodeName state existing.networkId normalized
                (some existing.id) with
            | .error error => .error error
            | .ok _ => .ok (some normalized)

def nextNodeTags (existing : NodeState) (tags : Option (List String)) :
    Option (List String) :=
  match tags with
  | none => none
  | some tags =>
      let unique := dedup ((tags.map trim).filter (fun tag => decide (tag ≠ "")))
      if unique = existing.tags then none else some unique

def updateNodeWrite (draws : Draws) (nodeId : String) (request : UpdateNodeRequest) :
    Handler NodeInfo :=
  fun state =>
    match state.nodes.lookup nodeId with
    | none => (.error (.notFound "node"), state)
    | some existing =>
        match nextNodeName state existing request.name with
        | .error error => (.error error, state)
        | .ok nextName =>
            let nextTags := nextNodeTags existing request.tags
            let node :=
              { existing with
                name := nextName.getD existing.name
                tags := nextTags.getD existing.tags }
            let edited := { state with nodes := state.nodes.replace nodeId node }
            match edited.networks.lookup node.networkId with
            | none => (.error (.notFound "network"), edited)
            | some network =>
                let status := effectiveNodeStatus node network.keyPolicy draws.now
                let detail :=
                  (nextName.toList.map (fun name => ("name", DetailValue.text name))) ++
                    (nextTags.toList.map (fun tags => ("tags", DetailValue.texts tags)))
                (.ok (NodeInfo.fromState node network.dnsDomain status.1 status.2),
                  if detail = [] then edited
                  else edited.audit
                    (buildAuditEntry draws "node.update" (some network.id) (some node.id)
                      (some detail)))

def updateNode (config : Config) (draws : Draws) (headers : Headers) (nodeId : String)
    (request : UpdateNodeRequest) : Handler NodeInfo :=
  check (requireAdmin headers config.adminToken) fun _ =>
  check (if request.name.isNone && request.tags.isNone then
    .error (.badRequest "no fields to update") else .ok ()) fun _ =>
  config.write draws (updateNodeWrite draws nodeId request)

def heartbeatWrite (config : Config) (draws : Draws) (headers : Headers)
    (request : HeartbeatRequest) : Handler Unit :=
  fun state =>
    match state.nodes.lookup request.nodeId with
    | none => (.error (.notFound "node"), state)
    | some node =>
        match requireNode headers config.adminToken node with
        | .error error => (.error error, state)
        | .ok _ =>
            (.ok (),
              { state with
                nodes := state.nodes.replace request.nodeId
                  { node with
                    endpoints := mergeEndpoints request.endpoints
                      (request.listenPort.map (socketText draws.remoteIp))
                    routes := request.routes
                    lastSeen := draws.now
                    probeRequestedAt :=
                      if request.probe.getD false then some draws.now
                      else node.probeRequestedAt } })

def heartbeat (config : Config) (draws : Draws) (headers : Headers)
    (request : HeartbeatRequest) : Handler NetMap :=
  (config.write draws (heartbeatWrite config draws headers request)).andRead
    fun _ state =>
      buildNetmap state request.nodeId (relayOrNone config.relay) draws.netmapNow
        draws.generatedAt

def deleteNodeWrite (draws : Draws) (nodeId : String) : Handler String :=
  fun state =>
    match state.nodes.lookup nodeId with
    | none => (.error (.notFound "node"), state)
    | some node =>
        (.ok node.id,
          ({ state with nodes := state.nodes.erase nodeId }).audit
            (buildAuditEntry draws "node.delete" (some node.networkId) (some node.id)
              (some
                [("name", .text node.name),
                  ("ipv4", .text node.ipv4),
                  ("ipv6", .text node.ipv6)])))

def deleteNode (config : Config) (draws : Draws) (headers : Headers) (nodeId : String) :
    Handler String :=
  check (requireAdmin headers config.adminToken) fun _ =>
  config.write draws (deleteNodeWrite draws nodeId)

/-! ### Keys -/

/-- Mark every record of a key as revoked, also those revoked before. -/
def revokeKeyRecord (history : List KeyRecord) (keyType : KeyType) (publicKey : String)
    (now : Int) : List KeyRecord :=
  history.map (fun record =>
    if record.keyType = keyType ∧ record.publicKey = publicKey then
      { record with revokedAt := some now }
    else record)

def NodeState.setPublicKey (node : NodeState) (publicKey : String) : KeyType → NodeState
  | .machine => { node with machinePublicKey := publicKey }
  | .wireGuard => { node with wgPublicKey := publicKey }

def unchangedMessage : KeyType → String
  | .machine => "machine_public_key unchanged"
  | .wireGuard => "wg_public_key unchanged"

def rotateKey (keyType : KeyType) (newKey : Option String) (now : Int) (node : NodeState) :
    Except ApiError NodeState :=
  match newKey with
  | none => .ok node
  | some newKey =>
      if node.publicKey keyType = newKey then
        .error (.badRequest (unchangedMessage keyType))
      else
        let history := revokeKeyRecord node.keyHistory keyType (node.publicKey keyType) now
        .ok
          { node.setPublicKey newKey keyType with
            keyHistory := history ++
              [{ keyType := keyType
                 publicKey := newKey
                 createdAt := now
                 revokedAt := none }] }

/-- The closure of `rotateKeys`.  When the second key is refused, the first has
already been replaced in the stored node. -/
def rotateKeysWrite (config : Config) (draws : Draws) (headers : Headers) (nodeId : String)
    (request : KeyRotationRequest) : Handler NodeState :=
  fun state =>
    match state.nodes.lookup nodeId with
    | none => (.error (.notFound "node"), state)
    | some node =>
        match requireNode headers config.adminToken node with
        | .error error => (.error error, state)
        | .ok _ =>
            match rotateKey .machine request.machinePublicKey draws.now node with
            | .error error => (.error error, state)
            | .ok machineRotated =>
                match rotateKey .wireGuard request.wgPublicKey draws.now machineRotated with
                | .error error =>
                    (.error error,
                      { state with nodes := state.nodes.replace nodeId machineRotated })
                | .ok bothRotated =>
                    let rotated := { bothRotated with revokedAt := none }
                    (.ok rotated,
                      ({ state with nodes := state.nodes.replace nodeId rotated }).audit
                        (buildAuditEntry draws "keys.rotate" (some node.networkId)
                          (some node.id)
                          (some
                            ((request.machinePublicKey.toList.map
                                (fun key => ("machine", DetailValue.text key))) ++
                              (request.wgPublicKey.toList.map
                                (fun key => ("wireguard", DetailValue.text key)))))))

structure KeyRotationResponse where
  nodeId : String
  machinePublicKey : String
  wgPublicKey : String

def rotateKeys (config : Config) (draws : Draws) (headers : Headers) (nodeId : String)
    (request : KeyRotationRequest) : Handler KeyRotationResponse :=
  check (if request.machinePublicKey.isNone && request.wgPublicKey.isNone then
    .error (.badRequest "no keys provided") else .ok ()) fun _ =>
  (config.write draws (rotateKeysWrite config draws headers nodeId request)).respond
    fun node =>
      { nodeId := node.id
        machinePublicKey := node.machinePublicKey
        wgPublicKey := node.wgPublicKey }

def NodeState.revoke (node : NodeState) (now : Int) : NodeState :=
  { node with
    revokedAt := some now
    keyHistory :=
      revokeKeyRecord
        (revokeKeyRecord node.keyHistory .machine node.machinePublicKey now)
        .wireGuard node.wgPublicKey now }

def revokeNodeWrite (draws : Draws) (nodeId : String) : Handler NodeState :=
  fun state =>
    match state.nodes.lookup nodeId with
    | none => (.error (.notFound "node"), state)
    | some node =>
        let revoked := node.revoke draws.now
        (.ok revoked,
          ({ state with nodes := state.nodes.replace nodeId revoked }).audit
            (buildAuditEntry draws "keys.revoke" (some node.networkId) (some node.id)
              (some [("revoked_at", .ofInt? revoked.revokedAt)])))

structure RevokeResponse where
  nodeId : String
  revokedAt : Option Int

def revokeNode (config : Config) (draws : Draws) (headers : Headers) (nodeId : String) :
    Handler RevokeResponse :=
  check (requireAdmin headers config.adminToken) fun _ =>
  (config.write draws (revokeNodeWrite draws nodeId)).respond
    fun node => { nodeId := node.id, revokedAt := node.revokedAt }

end Lightscale.ControlPlane
