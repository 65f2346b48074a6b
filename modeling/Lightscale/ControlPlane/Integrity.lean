/-
The three tables refer to each other soundly.

Every record is stored under its own id, nodes and tokens belong to stored networks,
and the blocks of a stored network parse and leave room for a host.  The error paths
that such references guard are therefore dead: a stored node always has a netmap, an
internal error comes from the storage alone, and renaming a node fails before it has
changed the node or not at all.
-/

import Lightscale.ControlPlane.EnrollmentTokens
import Lightscale.ControlPlane.Addresses

namespace Lightscale.ControlPlane

open Foundation

structure Integrity (externals : Externals) (networks : Table String NetworkState)
    (nodes : Table String NodeState) (tokens : Table String TokenState) : Prop where
  networkKeys : ∀ key network, networks.lookup key = some network → network.id = key
  nodeKeys : ∀ key node, nodes.lookup key = some node → node.id = key
  tokenKeys : ∀ key token, tokens.lookup key = some token → token.token = key
  nodeHomes : ∀ key node, nodes.lookup key = some node → node.networkId ∈ networks
  tokenHomes : ∀ key token, tokens.lookup key = some token → token.networkId ∈ networks
  overlays : ∀ key network, networks.lookup key = some network →
    ∃ v4 v6, NetworkSound externals network v4 v6

abbrev State.Integrity (state : State) (externals : Externals) : Prop :=
  ControlPlane.Integrity externals state.networks state.nodes state.tokens

section

variable {externals : Externals} {networks : Table String NetworkState}
  {nodes : Table String NodeState} {tokens : Table String TokenState}

theorem integrity_empty (externals : Externals) : Integrity externals ∅ ∅ ∅ := by
  refine ⟨?_, ?_, ?_, ?_, ?_, ?_⟩ <;>
  · intro key item found
    cases found

theorem Integrity.addNetwork (inv : Integrity externals networks nodes tokens)
    {network : NetworkState} {v4 : Ipv4Net} {v6 : Ipv6Net}
    (sound : NetworkSound externals network v4 v6) :
    Integrity externals (networks.insert network.id network) nodes tokens := by
  refine ⟨Table.forall_lookup_insert inv.networkKeys rfl, inv.nodeKeys, inv.tokenKeys, ?_, ?_,
    Table.forall_lookup_insert inv.overlays ⟨v4, v6, sound⟩⟩
  · intro key node nodeAt
    exact (AList.mem_insert networks).mpr (Or.inr (inv.nodeHomes key node nodeAt))
  · intro key token tokenAt
    exact (AList.mem_insert networks).mpr (Or.inr (inv.tokenHomes key token tokenAt))

theorem Integrity.eraseNetwork (inv : Integrity externals networks nodes tokens)
    {networkId : String}
    (empty : ∀ key node, nodes.lookup key = some node → node.networkId ≠ networkId) :
    Integrity externals (networks.erase networkId) nodes
      (Table.retain (fun _ token => decide (token.networkId ≠ networkId)) tokens) := by
  refine ⟨Table.forall_lookup_erase inv.networkKeys, inv.nodeKeys, ?_, ?_, ?_,
    Table.forall_lookup_erase inv.overlays⟩
  · intro key token tokenAt
    rw [Table.lookup_retain_eq_some_iff] at tokenAt
    exact inv.tokenKeys key token tokenAt.1
  · intro key node nodeAt
    exact AList.mem_erase.mpr ⟨empty key node nodeAt, inv.nodeHomes key node nodeAt⟩
  · intro key token tokenAt
    rw [Table.lookup_retain_eq_some_iff] at tokenAt
    exact AList.mem_erase.mpr ⟨of_decide_eq_true tokenAt.2, inv.tokenHomes key token tokenAt.1⟩

theorem Integrity.editNetwork (inv : Integrity externals networks nodes tokens)
    {networkId : String} {network edited : NetworkState}
    (networkAt : networks.lookup networkId = some network) (sameId : edited.id = network.id)
    (keeps : ∀ v4 v6, NetworkSound externals network v4 v6 →
      NetworkSound externals edited v4 v6) :
    Integrity externals (networks.replace networkId edited) nodes tokens := by
  obtain ⟨v4, v6, sound⟩ := inv.overlays networkId network networkAt
  refine ⟨Table.forall_lookup_replace networkAt inv.networkKeys ?_, inv.nodeKeys, inv.tokenKeys,
    ?_, ?_, Table.forall_lookup_replace networkAt inv.overlays ⟨v4, v6, keeps v4 v6 sound⟩⟩
  · exact sameId.trans (inv.networkKeys networkId network networkAt)
  · intro key node nodeAt
    exact AList.mem_replace.mpr (inv.nodeHomes key node nodeAt)
  · intro key token tokenAt
    exact AList.mem_replace.mpr (inv.tokenHomes key token tokenAt)

theorem Integrity.addToken (inv : Integrity externals networks nodes tokens)
    {token : TokenState} (home : token.networkId ∈ networks) :
    Integrity externals networks nodes (tokens.insert token.token token) :=
  { inv with
    tokenKeys := Table.forall_lookup_insert inv.tokenKeys rfl
    tokenHomes := Table.forall_lookup_insert inv.tokenHomes home }

theorem Integrity.editToken (inv : Integrity externals networks nodes tokens)
    {tokenId : String} {token edited : TokenState}
    (tokenAt : tokens.lookup tokenId = some token) (sameToken : edited.token = token.token)
    (sameNetwork : edited.networkId = token.networkId) :
    Integrity externals networks nodes (tokens.replace tokenId edited) := by
  refine { inv with
    tokenKeys := Table.forall_lookup_replace tokenAt inv.tokenKeys ?_
    tokenHomes := Table.forall_lookup_replace tokenAt inv.tokenHomes ?_ }
  · exact sameToken.trans (inv.tokenKeys tokenId token tokenAt)
  · rw [sameNetwork]
    exact inv.tokenHomes tokenId token tokenAt

theorem Integrity.spendToken (inv : Integrity externals networks nodes tokens)
    {tokenId : String} {token : TokenState} (tokenAt : tokens.lookup tokenId = some token) :
    Integrity externals networks nodes (spendToken tokens tokenId token) := by
  unfold ControlPlane.spendToken
  dsimp only
  split
  · exact { inv with
      tokenKeys := Table.forall_lookup_erase inv.tokenKeys
      tokenHomes := Table.forall_lookup_erase inv.tokenHomes }
  · exact inv.editToken tokenAt rfl rfl

theorem Integrity.addNode (inv : Integrity externals networks nodes tokens)
    {node : NodeState} (home : node.networkId ∈ networks) :
    Integrity externals networks (nodes.insert node.id node) tokens :=
  { inv with
    nodeKeys := Table.forall_lookup_insert inv.nodeKeys rfl
    nodeHomes := Table.forall_lookup_insert inv.nodeHomes home }

theorem Integrity.editNode (inv : Integrity externals networks nodes tokens)
    {nodeId : String} {node edited : NodeState} (nodeAt : nodes.lookup nodeId = some node)
    (same : SameIdentity node edited) :
    Integrity externals networks (nodes.replace nodeId edited) tokens := by
  refine { inv with
    nodeKeys := Table.forall_lookup_replace nodeAt inv.nodeKeys ?_
    nodeHomes := Table.forall_lookup_replace nodeAt inv.nodeHomes ?_ }
  · exact same.id.trans (inv.nodeKeys nodeId node nodeAt)
  · rw [same.networkId]
    exact inv.nodeHomes nodeId node nodeAt

theorem Integrity.eraseNode (inv : Integrity externals networks nodes tokens)
    (nodeId : String) : Integrity externals networks (nodes.erase nodeId) tokens :=
  { inv with
    nodeKeys := Table.forall_lookup_erase inv.nodeKeys
    nodeHomes := Table.forall_lookup_erase inv.nodeHomes }

end

/-! ### One request -/

theorem buildToken_networkId {draws : Draws} {networkId : String} {ttlSeconds uses : Nat}
    {tags : List String} {ownerUserId ownerEmail : Option String} {ownerIsAdmin : Bool}
    {token : TokenState}
    (built : buildToken draws networkId ttlSeconds uses tags ownerUserId ownerEmail ownerIsAdmin =
      .ok token) : token.networkId = networkId := by
  unfold buildToken at built
  split at built
  · cases built
  · cases built
    rfl

theorem Integrity.register {externals : Externals} {networks : Table String NetworkState}
    {call : Call} {before : State} {networkId : String} {network : NetworkState}
    {ipv4 ipv6 : String} {node : NodeState} {tokens : Table String TokenState}
    (inv : Integrity externals networks before.nodes before.tokens)
    (home : network.id ∈ networks)
    (registration : Registration call before networkId network ipv4 ipv6 node tokens) :
    Integrity externals networks (before.nodes.insert node.id node) tokens := by
  cases registration with
  | byToken request nodeName token asked named tokenAt =>
      exact (inv.addNode home).spendToken tokenAt
  | byUrl => exact inv.addNode home

theorem Transition.integrity {config : Config} {call : Call} {before after : State}
    {made : Option NodeState} {granted : Option TokenState}
    (transition : Transition config call before after made granted)
    (inv : before.Integrity config.externals) : after.Integrity config.externals := by
  unfold State.Integrity at inv ⊢
  cases transition with
  | idle leaves =>
      rw [leaves.networks, leaves.nodes, leaves.tokens]
      exact inv
  | networkCreated request planned _ entry asked admin plan absent apart grant leaves =>
      rw [leaves.networks, leaves.nodes, leaves.tokens]
      have added := inv.addNetwork (planNetwork_sound plan).2
      cases granted with
      | none => exact added
      | some token =>
          obtain ⟨ttl, _, built⟩ := grant token rfl
          refine added.addToken ?_
          rw [buildToken_networkId built]
          exact (AList.mem_insert before.networks).mpr (Or.inl rfl)
  | networkDeleted networkId network entry asked admin networkAt empty leaves =>
      rw [leaves.networks, leaves.nodes, leaves.tokens]
      exact inv.eraseNetwork empty
  | networkEdited networkId network edited entries networkAt edit leaves =>
      rw [leaves.networks, leaves.nodes, leaves.tokens]
      exact inv.editNetwork networkAt edit.sameNetwork.id fun _ _ sound => (edit.grows sound).2
  | tokenCreated networkId request network token entry asked admin networkAt grant leaves =>
      rw [leaves.networks, leaves.nodes, leaves.tokens]
      refine inv.addToken ?_
      rw [buildToken_networkId grant, inv.networkKeys networkId network networkAt]
      exact Table.mem_of_lookup networkAt
  | tokenRevoked tokenId token entry asked admin tokenAt leaves =>
      rw [leaves.networks, leaves.nodes, leaves.tokens]
      exact inv.editToken tokenAt rfl rfl
  | nodeRegistered networkId network advanced ipv4 ipv6 node tokens entry networkAt allocated
      registration leaves =>
      rw [leaves.networks, leaves.nodes, leaves.tokens]
      have advancedInv := inv.editNetwork networkAt (sameNetwork_of_allocated allocated).id
        fun _ _ sound => (allocateNodeIps_ok sound allocated).sound
      refine advancedInv.register ?_ registration
      rw [AList.mem_replace, inv.networkKeys networkId network networkAt]
      exact Table.mem_of_lookup networkAt
  | nodeEdited nodeId node edited entries nodeAt edit leaves =>
      rw [leaves.networks, leaves.nodes, leaves.tokens]
      exact inv.editNode nodeAt edit.sameIdentity
  | nodeDeleted nodeId node entry asked admin nodeAt leaves =>
      rw [leaves.networks, leaves.nodes, leaves.tokens]
      exact inv.eraseNode nodeId

theorem run_integrity (config : Config) (calls : List Call) :
    (run config calls).Integrity config.externals := by
  refine exec_invariant (step config) (fun state => state.Integrity config.externals) ?_
    State.default (integrity_empty config.externals) calls
  intro state call inv
  exact (step_transition config state call).integrity inv

/-! ### Errors that never occur -/

def NotInternal {Result : Type} (outcome : Except ApiError Result) : Prop :=
  outcome ≠ .error .internal

section

variable {Checked Result Answer : Type}

@[simp] theorem notInternal_ok (result : Result) : NotInternal (Except.ok result) := nofun

@[simp] theorem notInternal_error (error : ApiError) :
    NotInternal (Except.error error : Except ApiError Result) ↔ error ≠ .internal := by
  simp only [NotInternal, ne_eq, Except.error.injEq]

theorem NotInternal.of_error {outcome : Except ApiError Result} {error : ApiError}
    (clean : NotInternal outcome) (failed : outcome = .error error) :
    NotInternal (Except.error error : Except ApiError Answer) := by
  rw [failed, notInternal_error] at clean
  exact (notInternal_error error).mpr clean

theorem NotInternal.map {outcome : Except ApiError Result} (clean : NotInternal outcome)
    (response : Result → Answer) : NotInternal (outcome.map response) := by
  cases outcome with
  | error error => simpa only [Except.map, notInternal_error] using clean
  | ok result => exact notInternal_ok _

theorem NotInternal.bind {outcome : Except ApiError Result} (clean : NotInternal outcome)
    {next : Result → Except ApiError Answer} (cleanNext : ∀ result, NotInternal (next result)) :
    NotInternal (outcome.bind next) := by
  cases outcome with
  | error error => simpa only [Except.bind, notInternal_error] using clean
  | ok result => exact cleanNext result

theorem NotInternal.check {checked : Except ApiError Checked} {next : Checked → Handler Result}
    {state : State} (clean : NotInternal checked)
    (cleanNext : ∀ value, NotInternal (next value state).1) :
    NotInternal (check checked next state).1 := by
  cases checked with
  | error error => simpa only [ControlPlane.check, notInternal_error] using clean
  | ok value => exact cleanNext value

theorem NotInternal.write {config : Config} {draws : Draws} {closure : Handler Result}
    {state : State} (stored : draws.stored = true) (clean : NotInternal (closure state).1) :
    NotInternal (config.write draws closure state).1 := by
  unfold Config.write Backend.write
  rcases ran : closure state with ⟨outcome, left⟩
  rw [ran] at clean
  rw [stored]
  cases outcome with
  | error error => cases config.backend <;> simpa using clean
  | ok result => cases config.backend <;> simp

theorem NotInternal.andRead {handler : Handler Result} {state : State}
    {read : Result → State → Except ApiError Answer} (clean : NotInternal (handler state).1)
    (cleanRead : ∀ result left, NotInternal (read result left)) :
    NotInternal (handler.andRead read state).1 := by
  unfold Handler.andRead
  rcases ran : handler state with ⟨outcome, left⟩
  rw [ran] at clean
  cases outcome with
  | error error => simpa using clean
  | ok result => exact cleanRead result left

end

/-! The checks in front of the store and inside the closures answer with errors of the
client.  Only the two that parse a stored block can fail internally. -/

section

variable (config : Config) (draws : Draws) (headers : Headers) (state : State)

@[simp] theorem notInternal_requireAdmin (adminToken : Option String) :
    NotInternal (requireAdmin headers adminToken) := by
  unfold requireAdmin
  split
  · simp
  · split <;> simp

@[simp] theorem notInternal_requireNode (adminToken : Option String) (node : NodeState) :
    NotInternal (requireNode headers adminToken node) := by
  unfold requireNode
  split
  · simp
  · split
    · simp
    · split
      · simp
      · split <;> simp

@[simp] theorem notInternal_normalizeNodeName (name : String) :
    NotInternal (normalizeNodeName name) := by
  unfold normalizeNodeName
  split <;> simp

@[simp] theorem notInternal_ensureUniqueNodeName (networkId name : String)
    (excludeNodeId : Option String) :
    NotInternal (ensureUniqueNodeName state networkId name excludeNodeId) := by
  unfold ensureUniqueNodeName
  split <;> simp

@[simp] theorem notInternal_buildToken (networkId : String) (ttlSeconds uses : Nat)
    (tags : List String) (ownerUserId ownerEmail : Option String) (ownerIsAdmin : Bool) :
    NotInternal (buildToken draws networkId ttlSeconds uses tags ownerUserId ownerEmail
      ownerIsAdmin) := by
  unfold buildToken
  split <;> simp

@[simp] theorem notInternal_linkExpiry (request : RegisterUrlRequest) :
    NotInternal (linkExpiry draws request) := by
  unfold linkExpiry
  dsimp only
  split <;> simp

@[simp] theorem notInternal_planNetwork (request : CreateNetworkRequest) :
    NotInternal (planNetwork config.externals draws request) := by
  unfold planNetwork
  dsimp only
  split
  · simp
  · split
    · simp
    · split <;> simp

@[simp] theorem notInternal_nextNodeName (existing : NodeState) (name : Option String) :
    NotInternal (nextNodeName state existing name) := by
  unfold nextNodeName
  cases name with
  | none => simp
  | some name =>
      dsimp only
      cases normalized : normalizeNodeName name with
      | error error => exact (notInternal_normalizeNodeName name).of_error normalized
      | ok trimmed =>
          dsimp only
          split
          · simp
          · cases checked : ensureUniqueNodeName state existing.networkId trimmed
                (some existing.id) with
            | error error => exact (notInternal_ensureUniqueNodeName state _ _ _).of_error checked
            | ok _ => simp

@[simp] theorem notInternal_rotateKey (keyType : KeyType) (newKey : Option String) (now : Int)
    (node : NodeState) : NotInternal (rotateKey keyType newKey now node) := by
  unfold rotateKey
  split
  · simp
  · split <;> simp

@[simp] theorem notInternal_buildNetmap (nodeId : String) (relay : Option RelayConfig)
    (now generatedAt : Int) : NotInternal (buildNetmap state nodeId relay now generatedAt) := by
  unfold buildNetmap
  split
  · simp
  · split <;> simp

end

/-! ### The closures -/

section

variable {externals : Externals}

theorem checkOverlaps_notInternal (v4 : Ipv4Net) (v6 : Ipv6Net)
    {existing : List NetworkState}
    (sound : ∀ network ∈ existing, ∃ v4 v6, NetworkSound externals network v4 v6) :
    NotInternal (checkOverlaps externals v4 v6 existing) := by
  induction existing with
  | nil => exact notInternal_ok _
  | cons head rest ih =>
      obtain ⟨head4, head6, headSound⟩ := sound head List.mem_cons_self
      have tail := ih fun network member => sound network (List.mem_cons_of_mem _ member)
      unfold checkOverlaps
      rw [headSound.parsedV4, headSound.parsedV6]
      dsimp only
      split
      · simp
      · split
        · simp
        · exact tail

theorem NetworkSound.allocateNodeIps_notInternal {network : NetworkState} {v4 : Ipv4Net}
    {v6 : Ipv6Net} (sound : NetworkSound externals network v4 v6) :
    NotInternal (allocateNodeIps externals network).1 := by
  unfold allocateNodeIps
  rw [sound.parsedV4, sound.parsedV6]
  dsimp only
  split
  · simp
  · split
    · simp
    · split <;> simp

end

section

variable {config : Config} {draws : Draws} {headers : Headers} {state : State}

theorem State.Integrity.createNetworkWrite_notInternal {externals : Externals}
    (inv : state.Integrity externals) (request : CreateNetworkRequest)
    (planned : PlannedNetwork) :
    NotInternal (createNetworkWrite externals draws request planned state).1 := by
  have blocks : NotInternal (checkOverlaps externals planned.overlayV4Net planned.overlayV6Net
      state.networks.values) := by
    refine checkOverlaps_notInternal _ _ ?_
    intro network member
    obtain ⟨key, networkAt⟩ := (Table.mem_values_iff _ _).mp member
    exact inv.overlays key network networkAt
  unfold createNetworkWrite
  dsimp only
  split
  · simp
  · cases checked : checkOverlaps externals planned.overlayV4Net planned.overlayV6Net
        state.networks.values with
    | error error => exact blocks.of_error checked
    | ok _ =>
        dsimp only
        cases request.bootstrapTokenTtlSeconds with
        | none => simp
        | some ttl =>
            dsimp only
            cases built : buildToken draws planned.state.id ttl
                (request.bootstrapTokenUses.getD 1) (request.bootstrapTokenTags.getD [])
                none none true with
            | error error => exact (notInternal_buildToken draws _ _ _ _ _ _ _).of_error built
            | ok token => simp

theorem deleteNetworkWrite_notInternal (networkId : String) :
    NotInternal (deleteNetworkWrite draws networkId state).1 := by
  unfold deleteNetworkWrite
  split
  · simp
  · split <;> simp

theorem createTokenWrite_notInternal (networkId : String) (request : CreateTokenRequest) :
    NotInternal (createTokenWrite draws networkId request state).1 := by
  unfold createTokenWrite
  split
  · simp
  · rename_i network _
    cases built : buildToken draws network.id request.ttlSeconds request.uses request.tags
        request.ownerUserId request.ownerEmail (request.ownerIsAdmin.getD true) with
    | error error => exact (notInternal_buildToken draws _ _ _ _ _ _ _).of_error built
    | ok token => simp

theorem revokeTokenWrite_notInternal (tokenId : String) :
    NotInternal (revokeTokenWrite draws tokenId state).1 := by
  unfold revokeTokenWrite
  split <;> simp

theorem updateAclWrite_notInternal (networkId : String) (policy : AclPolicy) :
    NotInternal (updateAclWrite draws networkId policy state).1 := by
  unfold updateAclWrite
  split <;> simp

theorem updateKeyPolicyWrite_notInternal (networkId : String) (policy : KeyRotationPolicy) :
    NotInternal (updateKeyPolicyWrite draws networkId policy state).1 := by
  unfold updateKeyPolicyWrite
  split <;> simp

theorem State.Integrity.registerWrite_notInternal {externals : Externals}
    (inv : state.Integrity externals) (request : RegisterRequest) (nodeName : String) :
    NotInternal (registerWrite externals draws request nodeName state).1 := by
  unfold registerWrite
  split
  · simp
  · rename_i token tokenAt
    split
    · simp
    split
    · simp
    split
    · simp
    cases unique : ensureUniqueNodeName state token.networkId nodeName none with
    | error error => exact (notInternal_ensureUniqueNodeName state _ _ _).of_error unique
    | ok _ =>
        dsimp only
        cases networkAt : state.networks.lookup token.networkId with
        | none => simp
        | some network =>
            obtain ⟨v4, v6, sound⟩ := inv.overlays _ network networkAt
            have addresses := sound.allocateNodeIps_notInternal
            dsimp only
            rcases allocated : allocateNodeIps externals network with ⟨outcome, advanced⟩
            rw [allocated] at addresses
            cases outcome with
            | error error => exact addresses.of_error rfl
            | ok addresses =>
                dsimp only [State.audit]
                rw [tokenAt]
                simp

theorem State.Integrity.registerUrlWrite_notInternal {externals : Externals}
    (inv : state.Integrity externals) (request : RegisterUrlRequest) (nodeName : String)
    (expiresAt : Int) :
    NotInternal (registerUrlWrite externals draws request nodeName expiresAt state).1 := by
  unfold registerUrlWrite
  cases unique : ensureUniqueNodeName state request.networkId nodeName none with
  | error error => exact (notInternal_ensureUniqueNodeName state _ _ _).of_error unique
  | ok _ =>
      dsimp only
      cases networkAt : state.networks.lookup request.networkId with
      | none => simp
      | some network =>
          obtain ⟨v4, v6, sound⟩ := inv.overlays _ network networkAt
          have addresses := sound.allocateNodeIps_notInternal
          dsimp only
          rcases allocated : allocateNodeIps externals network with ⟨outcome, advanced⟩
          rw [allocated] at addresses
          cases outcome with
          | error error => exact addresses.of_error rfl
          | ok addresses => simp

theorem approveNodeSecretWrite_notInternal (nodeId secret : String) :
    NotInternal (approveNodeSecretWrite draws nodeId secret state).1 := by
  unfold approveNodeSecretWrite
  split
  · simp
  split
  · simp
  split
  · simp
  split
  · simp
  split <;> simp [State.approveNode]

theorem approveNodeWrite_notInternal (nodeId : String) :
    NotInternal (approveNodeWrite draws nodeId state).1 := by
  unfold approveNodeWrite
  split
  · simp
  split <;> simp [State.approveNode]

theorem updateNodeWrite_notInternal (nodeId : String) (request : UpdateNodeRequest) :
    NotInternal (updateNodeWrite draws nodeId request state).1 := by
  unfold updateNodeWrite
  split
  · simp
  · rename_i existing _
    cases named : nextNodeName state existing request.name with
    | error error => exact (notInternal_nextNodeName state _ _).of_error named
    | ok nextName =>
        dsimp only
        split <;> simp

theorem heartbeatWrite_notInternal (request : HeartbeatRequest) :
    NotInternal (heartbeatWrite config draws headers request state).1 := by
  unfold heartbeatWrite
  split
  · simp
  · rename_i node _
    cases allowed : requireNode headers config.adminToken node with
    | error error => exact (notInternal_requireNode headers _ _).of_error allowed
    | ok _ => simp

theorem deleteNodeWrite_notInternal (nodeId : String) :
    NotInternal (deleteNodeWrite draws nodeId state).1 := by
  unfold deleteNodeWrite
  split <;> simp

theorem revokeNodeWrite_notInternal (nodeId : String) :
    NotInternal (revokeNodeWrite draws nodeId state).1 := by
  unfold revokeNodeWrite
  split <;> simp

theorem rotateKeysWrite_notInternal (nodeId : String) (request : KeyRotationRequest) :
    NotInternal (rotateKeysWrite config draws headers nodeId request state).1 := by
  unfold rotateKeysWrite
  split
  · simp
  · rename_i node _
    cases allowed : requireNode headers config.adminToken node with
    | error error => exact (notInternal_requireNode headers _ _).of_error allowed
    | ok _ =>
        dsimp only
        cases machine : rotateKey .machine request.machinePublicKey draws.now node with
        | error error => exact (notInternal_rotateKey _ _ _ _).of_error machine
        | ok machineRotated =>
            dsimp only
            cases wireGuard : rotateKey .wireGuard request.wgPublicKey draws.now
                machineRotated with
            | error error => exact (notInternal_rotateKey _ _ _ _).of_error wireGuard
            | ok bothRotated => simp

theorem readRoute_notInternal (route : ReadRoute) :
    NotInternal (readRoute config draws headers state route) := by
  have network : ∀ networkId, NotInternal (readNetwork state networkId) := by
    intro networkId
    unfold readNetwork
    split <;> simp
  have node : ∀ nodeId, NotInternal (readNode config headers state nodeId) := by
    intro nodeId
    unfold readNode
    split
    · simp
    · exact (notInternal_requireNode headers _ _).map _
  have admin := notInternal_requireAdmin headers config.adminToken
  cases route with
  | listTokens networkId => exact admin.bind fun _ => (network networkId).map _
  | adminNodes networkId => exact admin.bind fun _ => (network networkId).map _
  | getAcl networkId => exact admin.bind fun _ => (network networkId).map _
  | getKeyPolicy networkId => exact admin.bind fun _ => (network networkId).map _
  | nodeKeys nodeId => exact (node nodeId).map _
  | auditLog networkId nodeId limit => exact admin.map _
  | netmap nodeId =>
      exact (node nodeId).bind fun _ => (notInternal_buildNetmap state _ _ _ _).map _
  | netmapPoll nodeId =>
      exact (node nodeId).bind fun _ => (notInternal_buildNetmap state _ _ _ _).map _

end

/-- With sound references the storage is the only source of internal errors. -/
theorem handle_notInternal {config : Config} {call : Call} {state : State}
    (inv : state.Integrity config.externals) (stored : call.draws.stored = true) :
    NotInternal (handle config call state).1 := by
  have admin := notInternal_requireAdmin call.headers config.adminToken
  unfold handle
  cases call.request with
  | createNetwork request =>
      refine (admin.check fun _ => ?_).map _
      refine (notInternal_planNetwork config call.draws request).check fun planned => ?_
      exact (NotInternal.write stored (inv.createNetworkWrite_notInternal request planned)).map _
  | deleteNetwork networkId =>
      exact (admin.check fun _ => .write stored (deleteNetworkWrite_notInternal networkId)).map _
  | createToken networkId request =>
      refine (admin.check fun _ => ?_).map _
      exact (NotInternal.write stored (createTokenWrite_notInternal networkId request)).map _
  | revokeToken tokenId =>
      refine (admin.check fun _ => ?_).map _
      exact (NotInternal.write stored (revokeTokenWrite_notInternal tokenId)).map _
  | register request =>
      refine ((notInternal_normalizeNodeName request.nodeName).check fun nodeName => ?_).map _
      refine (NotInternal.write stored
        (inv.registerWrite_notInternal request nodeName)).andRead fun nodeId left => ?_
      exact (notInternal_buildNetmap left _ _ _ _).map _
  | registerUrl request =>
      refine ((notInternal_linkExpiry call.draws request).check fun expiresAt => ?_).map _
      refine (notInternal_normalizeNodeName request.nodeName).check fun nodeName => ?_
      exact (NotInternal.write stored
        (inv.registerUrlWrite_notInternal request nodeName expiresAt)).map _
  | approveNodeSecret nodeId secret =>
      exact ((NotInternal.write stored
        (approveNodeSecretWrite_notInternal nodeId secret)).map _).map _
  | approveNode nodeId =>
      refine (admin.check fun _ => ?_).map _
      exact (NotInternal.write stored (approveNodeWrite_notInternal nodeId)).map _
  | updateNode nodeId request =>
      refine (admin.check fun _ => ?_).map _
      refine NotInternal.check ?_ fun _ =>
        .write stored (updateNodeWrite_notInternal nodeId request)
      split <;> simp
  | updateAcl networkId policy =>
      exact (admin.check fun _ =>
        .write stored (updateAclWrite_notInternal networkId policy)).map _
  | updateKeyPolicy networkId policy =>
      exact (admin.check fun _ =>
        .write stored (updateKeyPolicyWrite_notInternal networkId policy)).map _
  | rotateKeys nodeId request =>
      refine (NotInternal.check ?_ fun _ => ?_).map _
      · split <;> simp
      · exact (NotInternal.write stored (rotateKeysWrite_notInternal nodeId request)).map _
  | revokeNode nodeId =>
      refine (admin.check fun _ => ?_).map _
      exact (NotInternal.write stored (revokeNodeWrite_notInternal nodeId)).map _
  | deleteNode nodeId =>
      exact (admin.check fun _ => .write stored (deleteNodeWrite_notInternal nodeId)).map _
  | heartbeat request =>
      refine NotInternal.map ?_ _
      exact (NotInternal.write stored (heartbeatWrite_notInternal request)).andRead
        fun _ left => notInternal_buildNetmap left _ _ _ _
  | read route => exact (readRoute_notInternal route).map _

/-! ### What the references guard -/

section

variable {externals : Externals} {state : State}

theorem State.Integrity.buildNetmap_ok (inv : state.Integrity externals) {nodeId : String}
    {node : NodeState} (nodeAt : state.nodes.lookup nodeId = some node)
    (relay : Option RelayConfig) (now generatedAt : Int) :
    ∃ netmap, buildNetmap state nodeId relay now generatedAt = .ok netmap := by
  obtain ⟨network, networkAt⟩ := Table.exists_lookup_of_mem (inv.nodeHomes nodeId node nodeAt)
  unfold buildNetmap
  rw [nodeAt]
  dsimp only
  rw [networkAt]
  exact ⟨_, rfl⟩

theorem State.Integrity.updateNodeWrite_error (inv : state.Integrity externals) {draws : Draws}
    {nodeId : String} {request : UpdateNodeRequest} {error : ApiError} {left : State}
    (ran : updateNodeWrite draws nodeId request state = (.error error, left)) :
    left = state := by
  unfold updateNodeWrite at ran
  cases nodeAt : state.nodes.lookup nodeId with
  | none =>
      rw [nodeAt] at ran
      cases ran
      rfl
  | some existing =>
      rw [nodeAt] at ran
      dsimp only at ran
      cases named : nextNodeName state existing request.name with
      | error error =>
          rw [named] at ran
          cases ran
          rfl
      | ok nextName =>
          obtain ⟨network, networkAt⟩ :=
            Table.exists_lookup_of_mem (inv.nodeHomes nodeId existing nodeAt)
          rw [named] at ran
          dsimp only at ran
          rw [networkAt] at ran
          cases ran

end

/-- After every run of requests the references between the tables resolve, and the
errors they guard against do not occur. -/
theorem references_resolve (config : Config) (calls : List Call) :
    (∀ key network, (run config calls).networks.lookup key = some network →
      network.id = key ∧
      ∃ v4 v6 last, config.externals.parseV4 network.overlayV4 = some v4 ∧
        config.externals.parseV6 network.overlayV6 = some v6 ∧
        maxIpv4Offset v4 = some last ∧ 1 ≤ last) ∧
    (∀ key node, (run config calls).nodes.lookup key = some node →
      node.id = key ∧ node.networkId ∈ (run config calls).networks ∧
      ∀ relay now generatedAt, ∃ netmap,
        buildNetmap (run config calls) key relay now generatedAt = .ok netmap) ∧
    (∀ key token, (run config calls).tokens.lookup key = some token →
      token.token = key ∧ token.networkId ∈ (run config calls).networks) ∧
    (∀ key network, (run config calls).networks.lookup key = some network →
      (allocateNodeIps config.externals network).1 ≠ .error .internal) ∧
    (∀ v4 v6, checkOverlaps config.externals v4 v6 (run config calls).networks.values ≠
      .error .internal) ∧
    (∀ call, (handle config call (run config calls)).1 = .error .internal →
      call.draws.stored = false) ∧
    ∀ draws nodeId request error left,
      updateNodeWrite draws nodeId request (run config calls) = (.error error, left) →
      left = run config calls := by
  have inv := run_integrity config calls
  refine ⟨?_, ?_, ?_, ?_, ?_, ?_, ?_⟩
  · intro key network networkAt
    obtain ⟨v4, v6, sound⟩ := inv.overlays key network networkAt
    obtain ⟨last, lastAt, positive⟩ := sound.lastOffset
    exact ⟨inv.networkKeys key network networkAt, v4, v6, last, sound.parsedV4, sound.parsedV6,
      lastAt, positive⟩
  · intro key node nodeAt
    exact ⟨inv.nodeKeys key node nodeAt, inv.nodeHomes key node nodeAt,
      inv.buildNetmap_ok nodeAt⟩
  · intro key token tokenAt
    exact ⟨inv.tokenKeys key token tokenAt, inv.tokenHomes key token tokenAt⟩
  · intro key network networkAt
    obtain ⟨v4, v6, sound⟩ := inv.overlays key network networkAt
    exact sound.allocateNodeIps_notInternal
  · intro v4 v6
    refine checkOverlaps_notInternal v4 v6 ?_
    intro network member
    obtain ⟨key, networkAt⟩ := (Table.mem_values_iff _ _).mp member
    exact inv.overlays key network networkAt
  · intro call internal
    cases stored : call.draws.stored with
    | false => rfl
    | true => exact absurd internal (handle_notInternal inv stored)
  · intro draws nodeId request error left ran
    exact inv.updateNodeWrite_error ran

/-- A node registered with the bootstrap token, whose network and token are still there. -/
theorem sample_references_resolve :
    ∃ node token netmap,
      (run sampleConfig [createSample 0, registerSample 1 "a" "alpha"]).nodes.lookup "a" =
        some node ∧
      (run sampleConfig [createSample 0, registerSample 1 "a" "alpha"]).tokens.lookup "net" =
        some token ∧
      node.networkId ∈
        (run sampleConfig [createSample 0, registerSample 1 "a" "alpha"]).networks ∧
      buildNetmap (run sampleConfig [createSample 0, registerSample 1 "a" "alpha"]) "a" none 2 2 =
        .ok netmap := by
  have nodeStored : ((run sampleConfig
      [createSample 0, registerSample 1 "a" "alpha"]).nodes.lookup "a").isSome = true := by
    decide +kernel
  have tokenStored : ((run sampleConfig
      [createSample 0, registerSample 1 "a" "alpha"]).tokens.lookup "net").isSome = true := by
    decide +kernel
  obtain ⟨node, nodeAt⟩ := Option.isSome_iff_exists.mp nodeStored
  obtain ⟨token, tokenAt⟩ := Option.isSome_iff_exists.mp tokenStored
  obtain ⟨_, resolved, _⟩ :=
    references_resolve sampleConfig [createSample 0, registerSample 1 "a" "alpha"]
  obtain ⟨_, home, shown⟩ := resolved "a" node nodeAt
  obtain ⟨netmap, built⟩ := shown none 2 2
  exact ⟨node, token, netmap, nodeAt, tokenAt, home, built⟩

end Lightscale.ControlPlane
