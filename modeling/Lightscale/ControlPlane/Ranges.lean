/-
Every number in a reachable state fits the type it is stored in.

The clock readings are signed numbers of 64 bits, and a request was read from JSON into fields
of fixed width.  The state is computed from these by wrapping, saturating and bounded
operations, so no run leaves the ranges.  The keys of a detail are distinct as well.
-/

import Lightscale.ControlPlane.Closures

namespace Lightscale.ControlPlane

open Foundation

/-! ### Ranges -/

def InI64 (value : Int) : Prop := minI64 ≤ value ∧ value ≤ maxI64

instance (value : Int) : Decidable (InI64 value) := inferInstanceAs (Decidable (_ ∧ _))

theorem wrapI64_inI64 (value : Int) : InI64 (wrapI64 value) := by
  unfold InI64 wrapI64 minI64 maxI64
  rw [Int.bmod_def]
  omega

def KeyRotationPolicy.InRange (policy : KeyRotationPolicy) : Prop :=
  ∀ seconds ∈ policy.maxAgeSeconds, seconds < 2 ^ 64

structure KeyRecord.InRange (record : KeyRecord) : Prop where
  createdAt : InI64 record.createdAt
  revokedAt : ∀ time ∈ record.revokedAt, InI64 time

structure NetworkState.InRange (network : NetworkState) : Prop where
  keyPolicy : network.keyPolicy.InRange
  createdAt : InI64 network.createdAt
  nextIpv4 : network.nextIpv4 < 2 ^ 32
  nextIpv6 : network.nextIpv6 < 2 ^ 128

structure NodeState.InRange (node : NodeState) : Prop where
  createdAt : InI64 node.createdAt
  lastSeen : InI64 node.lastSeen
  probeRequestedAt : ∀ time ∈ node.probeRequestedAt, InI64 time
  approvedAt : ∀ time ∈ node.approvedAt, InI64 time
  authExpiresAt : ∀ time ∈ node.authExpiresAt, InI64 time
  revokedAt : ∀ time ∈ node.revokedAt, InI64 time
  keyHistory : ∀ record ∈ node.keyHistory, record.InRange

structure TokenState.InRange (token : TokenState) : Prop where
  expiresAt : InI64 token.expiresAt
  usesLeft : token.usesLeft < 2 ^ 32
  revokedAt : ∀ time ∈ token.revokedAt, InI64 time

def DetailValue.InRange : DetailValue → Prop
  | .number value => minI64 ≤ value ∧ value < 2 ^ 64
  | _ => True

structure AuditEntry.InRange (entry : AuditEntry) : Prop where
  timestamp : InI64 entry.timestamp
  values : ∀ detail ∈ entry.detail, ∀ pair ∈ detail, pair.2.InRange
  keys : ∀ detail ∈ entry.detail, (detail.map Prod.fst).Nodup

structure State.InRange (state : State) : Prop where
  version : state.version < 2 ^ 32
  revision : state.revision < 2 ^ 64
  networks : ∀ key network, state.networks.lookup key = some network → network.InRange
  nodes : ∀ key node, state.nodes.lookup key = some node → node.InRange
  tokens : ∀ key token, state.tokens.lookup key = some token → token.InRange
  auditLog : ∀ entry ∈ state.auditLog, entry.InRange

structure Draws.InRange (draws : Draws) : Prop where
  now : InI64 draws.now
  tokenNow : InI64 draws.tokenNow
  auditNow : InI64 draws.auditNow

def Request.InRange : Request → Prop
  | .createNetwork request =>
      (∀ seconds ∈ request.keyRotationMaxAgeSeconds, seconds < 2 ^ 64) ∧
        ∀ uses ∈ request.bootstrapTokenUses, uses < 2 ^ 32
  | .createToken _ request => request.uses < 2 ^ 32
  | .updateKeyPolicy _ policy => policy.InRange
  | _ => True

structure Call.InRange (call : Call) : Prop where
  draws : call.draws.InRange
  request : call.request.InRange

theorem State.default_inRange : State.default.InRange where
  version := by decide
  revision := by decide
  networks _ _ found := nomatch found
  nodes _ _ found := nomatch found
  tokens _ _ found := nomatch found
  auditLog _ member := nomatch member

/-! ### Edits of the tables -/

section

variable {state : State}

namespace State.InRange

theorem bump (inRange : state.InRange) : state.bump.InRange := by
  refine ⟨inRange.version, ?_, inRange.networks, inRange.nodes, inRange.tokens,
    inRange.auditLog⟩
  change saturatingAddU64 state.revision 1 < 2 ^ 64
  unfold saturatingAddU64
  omega

theorem audit (inRange : state.InRange) {entry : AuditEntry} (fits : entry.InRange) :
    (state.audit entry).InRange := by
  refine ⟨inRange.version, inRange.revision, inRange.networks, inRange.nodes, inRange.tokens,
    ?_⟩
  intro other member
  rcases List.mem_append.mp member with earlier | last
  · exact inRange.auditLog other earlier
  · rw [List.mem_singleton.mp last]
    exact fits

theorem withNetworks (inRange : state.InRange) {networks : Table String NetworkState}
    (fits : ∀ key network, networks.lookup key = some network → network.InRange) :
    { state with networks := networks }.InRange :=
  ⟨inRange.version, inRange.revision, fits, inRange.nodes, inRange.tokens, inRange.auditLog⟩

theorem withNodes (inRange : state.InRange) {nodes : Table String NodeState}
    (fits : ∀ key node, nodes.lookup key = some node → node.InRange) :
    { state with nodes := nodes }.InRange :=
  ⟨inRange.version, inRange.revision, inRange.networks, fits, inRange.tokens, inRange.auditLog⟩

theorem withTokens (inRange : state.InRange) {tokens : Table String TokenState}
    (fits : ∀ key token, tokens.lookup key = some token → token.InRange) :
    { state with tokens := tokens }.InRange :=
  ⟨inRange.version, inRange.revision, inRange.networks, inRange.nodes, fits, inRange.auditLog⟩

end State.InRange

/-! ### Records that are built or edited -/

variable {draws : Draws}

theorem buildAuditEntry_inRange (inRange : draws.InRange) {action : String}
    {networkId nodeId : Option String} {pairs : List (String × DetailValue)}
    (values : ∀ pair ∈ pairs, pair.2.InRange) (keys : (pairs.map Prod.fst).Nodup) :
    (buildAuditEntry draws action networkId nodeId (some pairs)).InRange := by
  refine ⟨inRange.auditNow, ?_, ?_⟩
  · rintro _ ⟨⟩
    exact values
  · rintro _ ⟨⟩
    exact keys

theorem buildAuditEntry_inRange_none (inRange : draws.InRange) {action : String}
    {networkId nodeId : Option String} :
    (buildAuditEntry draws action networkId nodeId none).InRange :=
  ⟨inRange.auditNow, nofun, nofun⟩

theorem number_inRange {value : Int} (inRange : InI64 value) :
    (DetailValue.number value).InRange := by
  have high := inRange.2
  unfold maxI64 at high
  exact ⟨inRange.1, by omega⟩

theorem natural_inRange {value : Nat} (small : value < 2 ^ 64) :
    (DetailValue.number value).InRange := by
  unfold DetailValue.InRange minI64
  omega

theorem ofNat?_inRange {value : Option Nat} (small : ∀ number ∈ value, number < 2 ^ 64) :
    (DetailValue.ofNat? value).InRange := by
  cases value with
  | none => trivial
  | some number => exact natural_inRange (small number rfl)

theorem ofText?_inRange (value : Option String) : (DetailValue.ofText? value).InRange := by
  cases value <;> trivial

theorem planNetwork_inRange {externals : Externals} {request : CreateNetworkRequest}
    {planned : PlannedNetwork} (inRange : draws.InRange)
    (seconds : ∀ seconds ∈ request.keyRotationMaxAgeSeconds, seconds < 2 ^ 64)
    (plan : planNetwork externals draws request = .ok planned) : planned.state.InRange := by
  unfold planNetwork at plan
  dsimp only at plan
  split at plan
  · cases plan
  split at plan
  · cases plan
  split at plan
  · cases plan
  · rename_i v4 _ _ v6 _ _ first starts
    cases plan
    refine ⟨seconds, inRange.now, ?_, ?_⟩
    · change first < 2 ^ 32
      unfold initialIpv4Offset at starts
      split at starts
      · cases starts
      · split_ifs at starts
        · cases starts
          decide
        · cases starts
          decide
    · change initialIpv6Offset v6 < 2 ^ 128
      unfold initialIpv6Offset
      dsimp only
      split_ifs <;> decide

theorem buildToken_inRange {networkId : String} {ttlSeconds uses : Nat} {tags : List String}
    {ownerUserId ownerEmail : Option String} {ownerIsAdmin : Bool} {token : TokenState}
    (fewUses : uses < 2 ^ 32)
    (built : buildToken draws networkId ttlSeconds uses tags ownerUserId ownerEmail
      ownerIsAdmin = .ok token) : token.InRange := by
  unfold buildToken at built
  split at built
  · cases built
  · cases built
    exact ⟨wrapI64_inI64 _, fewUses, nofun⟩

theorem allocateNodeIps_inRange {externals : Externals} {network : NetworkState}
    (inRange : network.InRange) : (allocateNodeIps externals network).2.InRange := by
  unfold allocateNodeIps
  split
  · exact inRange
  · exact inRange
  split
  · exact inRange
  split
  · exact inRange
  dsimp only
  split
  · exact ⟨inRange.keyPolicy, inRange.createdAt, Nat.mod_lt _ (by decide), inRange.nextIpv6⟩
  · exact ⟨inRange.keyPolicy, inRange.createdAt, Nat.mod_lt _ (by decide),
      Nat.mod_lt _ (by decide)⟩

theorem initialKeyHistory_inRange {machinePublicKey wgPublicKey : String} {now : Int}
    (inRange : InI64 now) :
    ∀ record ∈ initialKeyHistory machinePublicKey wgPublicKey now, record.InRange := by
  intro record member
  simp only [initialKeyHistory, List.mem_cons, List.not_mem_nil, or_false] at member
  rcases member with rfl | rfl <;> exact ⟨inRange, nofun⟩

theorem registeredNode_inRange (inRange : draws.InRange) (request : RegisterRequest)
    (nodeName : String) (network : NetworkState) (token : TokenState) (ipv4 ipv6 : String) :
    (registeredNode draws request nodeName network token ipv4 ipv6).InRange := by
  refine ⟨inRange.now, inRange.now, nofun, ?_, nofun, nofun, initialKeyHistory_inRange inRange.now⟩
  intro time approved
  simp only [registeredNode] at approved
  split at approved
  · cases approved
    exact inRange.now
  · cases approved

theorem urlNode_inRange (inRange : draws.InRange) (request : RegisterUrlRequest)
    (nodeName : String) (network : NetworkState) {expiresAt : Int} (expiry : InI64 expiresAt)
    (ipv4 ipv6 : String) :
    (urlNode draws request nodeName network expiresAt ipv4 ipv6).InRange := by
  refine ⟨inRange.now, inRange.now, nofun, nofun, ?_, nofun, initialKeyHistory_inRange inRange.now⟩
  intro time expires
  cases expires
  exact expiry

theorem linkExpiry_inI64 {request : RegisterUrlRequest} {expiresAt : Int}
    (expiry : linkExpiry draws request = .ok expiresAt) : InI64 expiresAt := by
  unfold linkExpiry at expiry
  dsimp only at expiry
  split at expiry
  · cases expiry
  · cases expiry
    exact wrapI64_inI64 _

theorem revokeKeyRecord_inRange {history : List KeyRecord} {keyType : KeyType}
    {publicKey : String} {now : Int} (inRange : InI64 now)
    (fits : ∀ record ∈ history, record.InRange) :
    ∀ record ∈ revokeKeyRecord history keyType publicKey now, record.InRange := by
  intro record member
  obtain ⟨old, oldMember, same⟩ := List.mem_map.mp member
  have oldFits := fits old oldMember
  subst same
  split
  · refine ⟨oldFits.createdAt, ?_⟩
    intro time revoked
    cases revoked
    exact inRange
  · exact oldFits

theorem rotateKey_inRange {keyType : KeyType} {newKey : Option String} {now : Int}
    {node rotated : NodeState} (inRange : InI64 now) (fits : node.InRange)
    (ran : rotateKey keyType newKey now node = .ok rotated) : rotated.InRange := by
  unfold rotateKey at ran
  split at ran
  · cases ran
    exact fits
  · split at ran
    · cases ran
    · cases ran
      have history : ∀ record ∈ revokeKeyRecord node.keyHistory keyType (node.publicKey keyType)
          now, record.InRange := revokeKeyRecord_inRange inRange fits.keyHistory
      cases keyType <;>
        exact ⟨fits.createdAt, fits.lastSeen, fits.probeRequestedAt, fits.approvedAt,
          fits.authExpiresAt, fits.revokedAt,
          List.forall_mem_append.mpr ⟨history, by simpa using ⟨inRange, nofun⟩⟩⟩

/-! ### Closures -/

variable (inRange : state.InRange)

include inRange

theorem spendToken_inRange {tokenId : String} {token : TokenState}
    (tokenAt : state.tokens.lookup tokenId = some token) :
    ∀ key spent, (spendToken state.tokens tokenId token).lookup key = some spent →
      spent.InRange := by
  have fits := inRange.tokens tokenId token tokenAt
  unfold spendToken
  dsimp only
  split
  · exact Table.forall_lookup_erase inRange.tokens
  · exact Table.forall_lookup_replace tokenAt inRange.tokens
      ⟨fits.expiresAt, Nat.lt_of_le_of_lt (Nat.sub_le _ _) fits.usesLeft, fits.revokedAt⟩

theorem advanced_inRange {externals : Externals} {networkId : String}
    {network advanced : NetworkState} {addresses : Except ApiError (String × String)}
    (networkAt : state.networks.lookup networkId = some network)
    (allocated : allocateNodeIps externals network = (addresses, advanced)) :
    { state with networks := state.networks.replace networkId advanced }.InRange := by
  have fits : (allocateNodeIps externals network).2.InRange :=
    allocateNodeIps_inRange (inRange.networks networkId network networkAt)
  rw [allocated] at fits
  exact inRange.withNetworks (Table.forall_lookup_replace networkAt inRange.networks fits)

variable (clock : draws.InRange)

include clock

theorem createNetworkWrite_inRange {externals : Externals} {request : CreateNetworkRequest}
    {planned : PlannedNetwork}
    (seconds : ∀ seconds ∈ request.keyRotationMaxAgeSeconds, seconds < 2 ^ 64)
    (fewUses : ∀ uses ∈ request.bootstrapTokenUses, uses < 2 ^ 32)
    (plan : planNetwork externals draws request = .ok planned) :
    (createNetworkWrite externals draws request planned state).2.InRange := by
  have network := planNetwork_inRange clock seconds plan
  have entry : (buildAuditEntry draws "network.create" (some planned.state.id) none
      (some
        [("name", .text planned.state.name),
          ("requires_approval", .bool planned.state.requiresApproval),
          ("key_rotation_max_age_seconds",
            .ofNat? planned.state.keyPolicy.maxAgeSeconds)])).InRange := by
    refine buildAuditEntry_inRange clock ?_ (by simp)
    simp only [List.forall_mem_cons]
    exact ⟨trivial, trivial, ofNat?_inRange network.keyPolicy, List.forall_mem_nil _⟩
  have inserted : ∀ key found, (state.networks.insert planned.state.id planned.state).lookup key =
      some found → found.InRange :=
    Table.forall_lookup_insert inRange.networks network
  have created := (inRange.withNetworks inserted).audit entry
  unfold createNetworkWrite
  dsimp only
  split
  · exact inRange
  split
  · exact inRange
  split
  · exact created
  split
  · exact created
  · rename_i token built
    refine created.withTokens (Table.forall_lookup_insert created.tokens ?_)
    refine buildToken_inRange ?_ built
    cases given : request.bootstrapTokenUses with
    | none => decide
    | some uses => exact fewUses uses given

theorem deleteNetworkWrite_inRange (networkId : String) :
    (deleteNetworkWrite draws networkId state).2.InRange := by
  unfold deleteNetworkWrite
  split
  · exact inRange
  split
  · exact inRange
  · refine State.InRange.audit ?_ (buildAuditEntry_inRange_none clock)
    refine (inRange.withNetworks (Table.forall_lookup_erase inRange.networks)).withTokens ?_
    intro key token found
    exact inRange.tokens key token
      ((Table.lookup_retain_eq_some_iff state.tokens _ key token).mp found).1

theorem updateAclWrite_inRange (networkId : String) (policy : AclPolicy) :
    (updateAclWrite draws networkId policy state).2.InRange := by
  unfold updateAclWrite
  split
  · exact inRange
  · rename_i network networkAt
    have fits := inRange.networks networkId network networkAt
    refine State.InRange.audit (inRange.withNetworks ?_) (buildAuditEntry_inRange_none clock)
    exact Table.forall_lookup_replace networkAt inRange.networks
      ⟨fits.keyPolicy, fits.createdAt, fits.nextIpv4, fits.nextIpv6⟩

theorem updateKeyPolicyWrite_inRange (networkId : String) {policy : KeyRotationPolicy}
    (policyFits : policy.InRange) :
    (updateKeyPolicyWrite draws networkId policy state).2.InRange := by
  unfold updateKeyPolicyWrite
  split
  · exact inRange
  · rename_i network networkAt
    have fits := inRange.networks networkId network networkAt
    refine State.InRange.audit (inRange.withNetworks ?_) ?_
    · exact Table.forall_lookup_replace networkAt inRange.networks
        ⟨policyFits, fits.createdAt, fits.nextIpv4, fits.nextIpv6⟩
    · refine buildAuditEntry_inRange clock ?_ (by simp)
      exact List.forall_mem_singleton.mpr (ofNat?_inRange policyFits)

theorem createTokenWrite_inRange (networkId : String) {request : CreateTokenRequest}
    (fewUses : request.uses < 2 ^ 32) :
    (createTokenWrite draws networkId request state).2.InRange := by
  unfold createTokenWrite
  split
  · exact inRange
  split
  · exact inRange
  · rename_i network networkAt _ token built
    have fits := buildToken_inRange fewUses built
    refine State.InRange.audit
      (inRange.withTokens (Table.forall_lookup_insert inRange.tokens fits)) ?_
    refine buildAuditEntry_inRange clock ?_ (by simp)
    simp only [List.forall_mem_cons]
    exact ⟨number_inRange fits.expiresAt,
      natural_inRange (Nat.lt_of_lt_of_le fits.usesLeft (by decide)), trivial,
      ofText?_inRange _, ofText?_inRange _, trivial, List.forall_mem_nil _⟩

theorem revokeTokenWrite_inRange (tokenId : String) :
    (revokeTokenWrite draws tokenId state).2.InRange := by
  unfold revokeTokenWrite
  split
  · exact inRange
  · rename_i token tokenAt
    have fits := inRange.tokens tokenId token tokenAt
    refine State.InRange.audit (inRange.withTokens ?_) ?_
    · refine Table.forall_lookup_replace tokenAt inRange.tokens ⟨fits.expiresAt, fits.usesLeft, ?_⟩
      rintro _ ⟨⟩
      exact clock.now
    · refine buildAuditEntry_inRange clock ?_ (by simp)
      exact List.forall_mem_singleton.mpr (number_inRange clock.now)

theorem registerWrite_inRange (externals : Externals) (request : RegisterRequest)
    (nodeName : String) :
    (registerWrite externals draws request nodeName state).2.InRange := by
  unfold registerWrite
  split
  · exact inRange
  rename_i token tokenAt
  split
  · exact inRange
  split
  · exact inRange
  split
  · exact inRange
  split
  · exact inRange
  split
  · exact inRange
  rename_i network networkAt
  split
  · rename_i error advanced allocated
    exact advanced_inRange inRange networkAt allocated
  · rename_i ipv4 ipv6 advanced allocated
    have counted := advanced_inRange inRange networkAt allocated
    have nodes : ∀ key found, (state.nodes.insert draws.nodeId
        (registeredNode draws request nodeName network token ipv4 ipv6)).lookup key =
          some found → found.InRange :=
      Table.forall_lookup_insert inRange.nodes
        (registeredNode_inRange clock request nodeName network token ipv4 ipv6)
    have entry : (buildAuditEntry draws "node.register" (some network.id) (some draws.nodeId)
        (some
          [("approved", .bool !network.requiresApproval),
            ("owner_user_id", .ofText? token.ownerUserId),
            ("owner_email", .ofText? token.ownerEmail),
            ("owner_is_admin", .bool token.ownerIsAdmin)])).InRange := by
      refine buildAuditEntry_inRange clock ?_ (by simp)
      simp only [List.forall_mem_cons]
      exact ⟨trivial, ofText?_inRange _, ofText?_inRange _, trivial, List.forall_mem_nil _⟩
    have inserted := (counted.withNodes nodes).audit entry
    dsimp only
    split
    · exact inserted
    · rename_i spent spentAt
      exact inserted.withTokens (spendToken_inRange inserted spentAt)

theorem registerUrlWrite_inRange (externals : Externals) (request : RegisterUrlRequest)
    (nodeName : String) {expiresAt : Int} (expiry : InI64 expiresAt) :
    (registerUrlWrite externals draws request nodeName expiresAt state).2.InRange := by
  unfold registerUrlWrite
  split
  · exact inRange
  split
  · exact inRange
  rename_i network networkAt
  split
  · rename_i error advanced allocated
    exact advanced_inRange inRange networkAt allocated
  · rename_i ipv4 ipv6 advanced allocated
    have counted := advanced_inRange inRange networkAt allocated
    refine State.InRange.audit (counted.withNodes ?_) ?_
    · exact Table.forall_lookup_insert inRange.nodes
        (urlNode_inRange clock request nodeName network expiry ipv4 ipv6)
    · refine buildAuditEntry_inRange clock ?_ (by simp)
      exact List.forall_mem_singleton.mpr (number_inRange expiry)

theorem approveNode_inRange {nodeId : String} {node : NodeState}
    (nodeAt : state.nodes.lookup nodeId = some node) (via : String) :
    (state.approveNode draws nodeId node via).2.InRange := by
  have fits := inRange.nodes nodeId node nodeAt
  refine State.InRange.audit (inRange.withNodes ?_) ?_
  · refine Table.forall_lookup_replace nodeAt inRange.nodes
      ⟨fits.createdAt, fits.lastSeen, fits.probeRequestedAt, ?_, nofun, fits.revokedAt,
        fits.keyHistory⟩
    rintro _ ⟨⟩
    exact clock.now
  · refine buildAuditEntry_inRange clock ?_ (by simp)
    simp only [List.forall_mem_cons]
    exact ⟨number_inRange clock.now, trivial, List.forall_mem_nil _⟩

theorem approveNodeSecretWrite_inRange (nodeId secret : String) :
    (approveNodeSecretWrite draws nodeId secret state).2.InRange := by
  unfold approveNodeSecretWrite
  split
  · exact inRange
  rename_i node nodeAt
  split
  · exact inRange
  split
  · exact inRange
  split
  · exact inRange
  split
  · exact inRange
  · exact approveNode_inRange inRange clock nodeAt "auth_url"

theorem approveNodeWrite_inRange (nodeId : String) :
    (approveNodeWrite draws nodeId state).2.InRange := by
  unfold approveNodeWrite
  split
  · exact inRange
  rename_i node nodeAt
  split
  · exact inRange
  · exact approveNode_inRange inRange clock nodeAt "admin"

theorem updateNodeWrite_inRange (nodeId : String) (request : UpdateNodeRequest) :
    (updateNodeWrite draws nodeId request state).2.InRange := by
  unfold updateNodeWrite
  split
  · exact inRange
  rename_i existing nodeAt
  split
  · exact inRange
  rename_i nextName named
  have fits := inRange.nodes nodeId existing nodeAt
  have node : { existing with
      name := nextName.getD existing.name
      tags := (nextNodeTags existing request.tags).getD existing.tags }.InRange :=
    ⟨fits.createdAt, fits.lastSeen, fits.probeRequestedAt, fits.approvedAt,
      fits.authExpiresAt, fits.revokedAt, fits.keyHistory⟩
  have edited := inRange.withNodes (Table.forall_lookup_replace nodeAt inRange.nodes node)
  dsimp only
  split
  · exact edited
  dsimp only
  split
  · exact edited
  · refine edited.audit (buildAuditEntry_inRange clock ?_ ?_)
    · intro pair member
      rcases List.mem_append.mp member with isName | isTags
      · obtain ⟨name, _, rfl⟩ := List.mem_map.mp isName
        trivial
      · obtain ⟨tags, _, rfl⟩ := List.mem_map.mp isTags
        trivial
    · cases nextName <;> cases nextNodeTags existing request.tags <;> simp

theorem heartbeatWrite_inRange (config : Config) (headers : Headers)
    (request : HeartbeatRequest) :
    (heartbeatWrite config draws headers request state).2.InRange := by
  unfold heartbeatWrite
  split
  · exact inRange
  rename_i node nodeAt
  split
  · exact inRange
  have fits := inRange.nodes request.nodeId node nodeAt
  refine inRange.withNodes (Table.forall_lookup_replace nodeAt inRange.nodes
    ⟨fits.createdAt, clock.now, ?_, fits.approvedAt, fits.authExpiresAt, fits.revokedAt,
      fits.keyHistory⟩)
  intro time probed
  dsimp only at probed
  split at probed
  · cases probed
    exact clock.now
  · exact fits.probeRequestedAt time probed

theorem deleteNodeWrite_inRange (nodeId : String) :
    (deleteNodeWrite draws nodeId state).2.InRange := by
  unfold deleteNodeWrite
  split
  · exact inRange
  refine State.InRange.audit (inRange.withNodes (Table.forall_lookup_erase inRange.nodes)) ?_
  refine buildAuditEntry_inRange clock ?_ (by simp)
  simp only [List.forall_mem_cons]
  exact ⟨trivial, trivial, trivial, List.forall_mem_nil _⟩

theorem rotateKeysWrite_inRange (config : Config) (headers : Headers) (nodeId : String)
    (request : KeyRotationRequest) :
    (rotateKeysWrite config draws headers nodeId request state).2.InRange := by
  unfold rotateKeysWrite
  split
  · exact inRange
  rename_i node nodeAt
  split
  · exact inRange
  split
  · exact inRange
  rename_i machineRotated machine
  have first := rotateKey_inRange clock.now (inRange.nodes nodeId node nodeAt) machine
  split
  · exact inRange.withNodes (Table.forall_lookup_replace nodeAt inRange.nodes first)
  rename_i bothRotated wireGuard
  have second := rotateKey_inRange clock.now first wireGuard
  have rotated : { bothRotated with revokedAt := none }.InRange :=
    ⟨second.createdAt, second.lastSeen, second.probeRequestedAt, second.approvedAt,
      second.authExpiresAt, (fun _ revoked => nomatch revoked), second.keyHistory⟩
  refine State.InRange.audit (inRange.withNodes
    (Table.forall_lookup_replace nodeAt inRange.nodes rotated))
    (buildAuditEntry_inRange clock ?_ ?_)
  · intro pair member
    rcases List.mem_append.mp member with isMachine | isWireGuard
    · obtain ⟨key, _, rfl⟩ := List.mem_map.mp isMachine
      trivial
    · obtain ⟨key, _, rfl⟩ := List.mem_map.mp isWireGuard
      trivial
  · cases request.machinePublicKey <;> cases request.wgPublicKey <;> simp

theorem revokeNodeWrite_inRange (nodeId : String) :
    (revokeNodeWrite draws nodeId state).2.InRange := by
  unfold revokeNodeWrite
  split
  · exact inRange
  rename_i node nodeAt
  have fits := inRange.nodes nodeId node nodeAt
  refine State.InRange.audit (inRange.withNodes ?_) ?_
  · refine Table.forall_lookup_replace nodeAt inRange.nodes
      ⟨fits.createdAt, fits.lastSeen, fits.probeRequestedAt, fits.approvedAt,
        fits.authExpiresAt, ?_,
        revokeKeyRecord_inRange clock.now (revokeKeyRecord_inRange clock.now fits.keyHistory)⟩
    rintro _ ⟨⟩
    exact clock.now
  · refine buildAuditEntry_inRange clock ?_ (by simp)
    exact List.forall_mem_singleton.mpr (number_inRange clock.now)

end

/-! ### Runs -/

theorem Closure.inRange {config : Config} {call : Call} {closure : Handler Unit}
    (asked : Closure config call closure) (fits : call.InRange) {state : State}
    (inRange : state.InRange) : (closure state).2.InRange := by
  have clock := fits.draws
  have numbers := fits.request
  cases asked with
  | createNetwork request planned asked admin plan =>
      rw [asked] at numbers
      exact createNetworkWrite_inRange inRange clock numbers.1 numbers.2 plan
  | deleteNetwork networkId => exact deleteNetworkWrite_inRange inRange clock networkId
  | createToken networkId request asked =>
      rw [asked] at numbers
      exact createTokenWrite_inRange inRange clock networkId numbers
  | revokeToken tokenId => exact revokeTokenWrite_inRange inRange clock tokenId
  | register request nodeName =>
      exact registerWrite_inRange inRange clock config.externals request nodeName
  | registerUrl request nodeName expiresAt asked expiry =>
      exact registerUrlWrite_inRange inRange clock config.externals request nodeName
        (linkExpiry_inI64 expiry)
  | approveNodeSecret nodeId secret =>
      exact approveNodeSecretWrite_inRange inRange clock nodeId secret
  | approveNode nodeId => exact approveNodeWrite_inRange inRange clock nodeId
  | updateNode nodeId request => exact updateNodeWrite_inRange inRange clock nodeId request
  | updateAcl networkId policy => exact updateAclWrite_inRange inRange clock networkId policy
  | updateKeyPolicy networkId policy asked =>
      rw [asked] at numbers
      exact updateKeyPolicyWrite_inRange inRange clock networkId numbers
  | rotateKeys nodeId request =>
      exact rotateKeysWrite_inRange inRange clock config call.headers nodeId request
  | revokeNode nodeId => exact revokeNodeWrite_inRange inRange clock nodeId
  | deleteNode nodeId => exact deleteNodeWrite_inRange inRange clock nodeId
  | heartbeat request =>
      exact heartbeatWrite_inRange inRange clock config call.headers request

theorem step_inRange {config : Config} {state : State} {call : Call} (inRange : state.InRange)
    (fits : call.InRange) : (step config state call).InRange :=
  step_keeps inRange (fun _ => State.InRange.bump) fun _ asked => asked.inRange fits inRange

theorem run_inRange (config : Config) {calls : List Call}
    (fits : ∀ call ∈ calls, call.InRange) : (run config calls).InRange :=
  exec_invariant_when (step config) (fun _ call => call.InRange) State.InRange
    (fun _ _ callFits inRange => step_inRange inRange callFits) State.default
    State.default_inRange calls
    fun event member => fits event.input (input_of_mem_trace (step config) member)

end Lightscale.ControlPlane
