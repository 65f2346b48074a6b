/-
What a request that succeeds has found and what it leaves.

A transition says what any request can do, also one that fails half way.  Here every
closure is followed along its one successful path, and the audit entry it appends is kept.
-/

import Lightscale.ControlPlane.Transition

namespace Lightscale.ControlPlane

open Foundation

variable {draws : Draws} {state left : State}

/-! ### Networks and tokens -/

theorem createNetworkWrite_eq_ok {externals : Externals} {request : CreateNetworkRequest}
    {planned : PlannedNetwork} {granted : Option TokenState}
    (ran : createNetworkWrite externals draws request planned state = (.ok granted, left)) :
    state.networks.lookup planned.state.id = none ∧
      (granted.isSome = request.bootstrapTokenTtlSeconds.isSome) ∧
      (∀ token, granted = some token →
        token.token = draws.tokenSecret ∧ token.networkId = planned.state.id) ∧
      ∃ detail, Leaves state left (state.networks.insert planned.state.id planned.state)
        state.nodes (addToken state.tokens granted)
        [buildAuditEntry draws "network.create" (some planned.state.id) none detail] := by
  unfold createNetworkWrite at ran
  dsimp only at ran
  cases present : state.networks.lookup planned.state.id with
  | some network =>
      rw [present] at ran
      cases ran
  | none =>
      rw [present] at ran
      simp only [Option.isSome_none, Bool.false_eq_true, if_false] at ran
      refine ⟨rfl, ?_⟩
      split at ran
      · cases ran
      · cases ttlAt : request.bootstrapTokenTtlSeconds with
        | none =>
            rw [ttlAt] at ran
            cases ran
            refine ⟨rfl, ?_, _, rfl, rfl, rfl, rfl, rfl⟩
            intro token impossible
            cases impossible
        | some ttl =>
            rw [ttlAt] at ran
            dsimp only at ran
            split at ran
            · cases ran
            · rename_i token built
              cases ran
              refine ⟨rfl, ?_, _, rfl, rfl, rfl, rfl, rfl⟩
              intro other same
              cases same
              unfold buildToken at built
              split at built
              · cases built
              · cases built
                exact ⟨rfl, rfl⟩

theorem deleteNetworkWrite_eq_ok {networkId : String} {result : Unit}
    (ran : deleteNetworkWrite draws networkId state = (.ok result, left)) :
    Leaves state left (state.networks.erase networkId) state.nodes
      (Table.retain (fun _ token => decide (token.networkId ≠ networkId)) state.tokens)
      [buildAuditEntry draws "network.delete" (some networkId) none none] := by
  unfold deleteNetworkWrite at ran
  split at ran
  · cases ran
  · split at ran
    · cases ran
    · cases ran
      exact ⟨rfl, rfl, rfl, rfl, rfl⟩

theorem updateAclWrite_eq_ok {networkId : String} {policy result : AclPolicy}
    (ran : updateAclWrite draws networkId policy state = (.ok result, left)) :
    ∃ network, state.networks.lookup networkId = some network ∧
      Leaves state left (state.networks.replace networkId { network with acl := policy })
        state.nodes state.tokens
        [buildAuditEntry draws "acl.update" (some network.id) none none] := by
  unfold updateAclWrite at ran
  split at ran
  · cases ran
  · rename_i network networkAt
    cases ran
    exact ⟨network, networkAt, rfl, rfl, rfl, rfl, rfl⟩

theorem updateKeyPolicyWrite_eq_ok {networkId : String} {policy result : KeyRotationPolicy}
    (ran : updateKeyPolicyWrite draws networkId policy state = (.ok result, left)) :
    ∃ network detail, state.networks.lookup networkId = some network ∧
      Leaves state left
        (state.networks.replace networkId { network with keyPolicy := policy })
        state.nodes state.tokens
        [buildAuditEntry draws "key_policy.update" (some network.id) none detail] := by
  unfold updateKeyPolicyWrite at ran
  split at ran
  · cases ran
  · rename_i network networkAt
    cases ran
    exact ⟨network, _, networkAt, rfl, rfl, rfl, rfl, rfl⟩

theorem createTokenWrite_eq_ok {networkId : String} {request : CreateTokenRequest}
    {token : TokenState}
    (ran : createTokenWrite draws networkId request state = (.ok token, left)) :
    ∃ network detail, state.networks.lookup networkId = some network ∧
      token.networkId = network.id ∧
      Leaves state left state.networks state.nodes (state.tokens.insert token.token token)
        [buildAuditEntry draws "token.create" (some network.id) none detail] := by
  unfold createTokenWrite at ran
  split at ran
  · cases ran
  · rename_i network networkAt
    split at ran
    · cases ran
    · rename_i built
      cases ran
      refine ⟨network, _, networkAt, ?_, rfl, rfl, rfl, rfl, rfl⟩
      unfold buildToken at built
      split at built
      · cases built
      · cases built
        rfl

theorem revokeTokenWrite_eq_ok {tokenId : String} {revoked : TokenState}
    (ran : revokeTokenWrite draws tokenId state = (.ok revoked, left)) :
    ∃ token detail, state.tokens.lookup tokenId = some token ∧
      revoked = { token with revokedAt := some draws.now } ∧
      Leaves state left state.networks state.nodes (state.tokens.replace tokenId revoked)
        [buildAuditEntry draws "token.revoke" (some token.networkId) none detail] := by
  unfold revokeTokenWrite at ran
  split at ran
  · cases ran
  · rename_i token tokenAt
    cases ran
    exact ⟨token, _, tokenAt, rfl, rfl, rfl, rfl, rfl, rfl⟩

/-! ### Registration -/

theorem registerWrite_eq_ok {externals : Externals} {request : RegisterRequest}
    {nodeName nodeId : String}
    (ran : registerWrite externals draws request nodeName state = (.ok nodeId, left)) :
    ∃ token network addresses advanced detail,
      state.tokens.lookup request.token = some token ∧
      state.networks.lookup token.networkId = some network ∧
      allocateNodeIps externals network = (.ok addresses, advanced) ∧
      Leaves state left (state.networks.replace token.networkId advanced)
        (state.nodes.insert draws.nodeId
          (registeredNode draws request nodeName network token addresses.1 addresses.2))
        (spendToken state.tokens request.token token)
        [buildAuditEntry draws "node.register" (some network.id) (some draws.nodeId)
          detail] := by
  unfold registerWrite at ran
  cases tokenAt : state.tokens.lookup request.token with
  | none =>
      rw [tokenAt] at ran
      cases ran
  | some token =>
      rw [tokenAt] at ran
      dsimp only at ran
      split at ran
      · cases ran
      split at ran
      · cases ran
      split at ran
      · cases ran
      split at ran
      · cases ran
      split at ran
      · cases ran
      · rename_i network networkAt
        split at ran
        · cases ran
        · rename_i ipv4 ipv6 advanced allocated
          dsimp only [State.audit] at ran
          rw [tokenAt] at ran
          cases ran
          exact ⟨token, network, (ipv4, ipv6), advanced, _, rfl, networkAt, allocated,
            rfl, rfl, rfl, rfl, rfl⟩

theorem registerUrlWrite_eq_ok {externals : Externals} {request : RegisterUrlRequest}
    {nodeName : String} {expiresAt : Int} {written : NodeState × String}
    (ran : registerUrlWrite externals draws request nodeName expiresAt state =
      (.ok written, left)) :
    ∃ network addresses advanced detail,
      state.networks.lookup request.networkId = some network ∧
      allocateNodeIps externals network = (.ok addresses, advanced) ∧
      written.1 =
        urlNode draws request nodeName network expiresAt addresses.1 addresses.2 ∧
      Leaves state left (state.networks.replace request.networkId advanced)
        (state.nodes.insert draws.nodeId written.1) state.tokens
        [buildAuditEntry draws "node.register_url" (some network.id) (some draws.nodeId)
          detail] := by
  unfold registerUrlWrite at ran
  split at ran
  · cases ran
  split at ran
  · cases ran
  · rename_i network networkAt
    split at ran
    · cases ran
    · rename_i ipv4 ipv6 advanced allocated
      cases ran
      exact ⟨network, (ipv4, ipv6), advanced, _, networkAt, allocated, rfl, rfl, rfl, rfl,
        rfl, rfl⟩

/-! ### Nodes -/

theorem State.approveNode_eq_ok {nodeId via : String} {node approved : NodeState}
    (ran : state.approveNode draws nodeId node via = (.ok approved, left)) :
    ∃ detail, Leaves state left state.networks
      (state.nodes.replace nodeId (node.approve draws.now)) state.tokens
      [buildAuditEntry draws "node.approve" (some node.networkId) (some node.id) detail] := by
  unfold State.approveNode at ran
  cases ran
  exact ⟨_, rfl, rfl, rfl, rfl, rfl⟩

inductive Approved (draws : Draws) (state left : State) (nodeId : String) : Prop where
  | already (same : left = state)
  | now (node : NodeState) (detail : Option (List (String × DetailValue)))
      (nodeAt : state.nodes.lookup nodeId = some node)
      (leaves : Leaves state left state.networks
        (state.nodes.replace nodeId (node.approve draws.now)) state.tokens
        [buildAuditEntry draws "node.approve" (some node.networkId) (some node.id) detail])

theorem approveNodeSecretWrite_eq_ok {nodeId secret : String} {result : NodeState}
    (ran : approveNodeSecretWrite draws nodeId secret state = (.ok result, left)) :
    Approved draws state left nodeId := by
  unfold approveNodeSecretWrite at ran
  split at ran
  · cases ran
  · rename_i node nodeAt
    split at ran
    · cases ran
      exact .already rfl
    split at ran
    · cases ran
    split at ran
    · cases ran
    split at ran
    · cases ran
    · obtain ⟨detail, leaves⟩ := State.approveNode_eq_ok ran
      exact .now node detail nodeAt leaves

theorem approveNodeWrite_eq_ok {nodeId : String} {result : NodeState}
    (ran : approveNodeWrite draws nodeId state = (.ok result, left)) :
    Approved draws state left nodeId := by
  unfold approveNodeWrite at ran
  split at ran
  · cases ran
  · rename_i node nodeAt
    split at ran
    · cases ran
      exact .already rfl
    · obtain ⟨detail, leaves⟩ := State.approveNode_eq_ok ran
      exact .now node detail nodeAt leaves

theorem updateNodeWrite_eq_ok {nodeId : String} {request : UpdateNodeRequest} {info : NodeInfo}
    (ran : updateNodeWrite draws nodeId request state = (.ok info, left)) :
    ∃ existing network node, state.nodes.lookup nodeId = some existing ∧
      state.networks.lookup existing.networkId = some network ∧
      node.networkId = existing.networkId ∧
      ((node = existing ∧
          Leaves state left state.networks (state.nodes.replace nodeId node) state.tokens []) ∨
        ∃ detail,
          Leaves state left state.networks (state.nodes.replace nodeId node) state.tokens
            [buildAuditEntry draws "node.update" (some network.id) (some existing.id)
              detail]) := by
  unfold updateNodeWrite at ran
  split at ran
  · cases ran
  · rename_i existing nodeAt
    split at ran
    · cases ran
    · rename_i nextName named
      dsimp only at ran
      split at ran
      · cases ran
      · rename_i network networkAt
        cases ran
        refine ⟨existing, network,
          { existing with
            name := nextName.getD existing.name
            tags := (nextNodeTags existing request.tags).getD existing.tags },
          nodeAt, networkAt, rfl, ?_⟩
        split
        · rename_i nothing
          obtain ⟨noName, noTags⟩ := List.append_eq_nil_iff.mp nothing
          have sameName : nextName = none := by
            cases nextName with
            | none => rfl
            | some name => cases noName
          have sameTags : nextNodeTags existing request.tags = none := by
            cases tags : nextNodeTags existing request.tags with
            | none => rfl
            | some tags' =>
                rw [tags] at noTags
                cases noTags
          refine Or.inl ⟨?_, rfl, rfl, rfl, (List.append_nil _).symm, rfl⟩
          rw [sameName, sameTags]
          rfl
        · exact Or.inr ⟨_, rfl, rfl, rfl, rfl, rfl⟩

theorem heartbeatWrite_eq_ok {config : Config} {headers : Headers} {request : HeartbeatRequest}
    {result : Unit}
    (ran : heartbeatWrite config draws headers request state = (.ok result, left)) :
    ∃ node endpoints routes lastSeen probeRequestedAt,
      state.nodes.lookup request.nodeId = some node ∧
      Leaves state left state.networks
        (state.nodes.replace request.nodeId
          { node with
            endpoints := endpoints
            routes := routes
            lastSeen := lastSeen
            probeRequestedAt := probeRequestedAt }) state.tokens [] := by
  unfold heartbeatWrite at ran
  split at ran
  · cases ran
  · rename_i node nodeAt
    split at ran
    · cases ran
    · cases ran
      exact ⟨node, _, _, _, _, nodeAt, rfl, rfl, rfl, (List.append_nil _).symm, rfl⟩

theorem deleteNodeWrite_eq_ok {nodeId result : String}
    (ran : deleteNodeWrite draws nodeId state = (.ok result, left)) :
    ∃ node detail, state.nodes.lookup nodeId = some node ∧
      Leaves state left state.networks (state.nodes.erase nodeId) state.tokens
        [buildAuditEntry draws "node.delete" (some node.networkId) (some node.id) detail] := by
  unfold deleteNodeWrite at ran
  split at ran
  · cases ran
  · rename_i node nodeAt
    cases ran
    exact ⟨node, _, nodeAt, rfl, rfl, rfl, rfl, rfl⟩

theorem rotateKeysWrite_eq_ok {config : Config} {headers : Headers} {nodeId : String}
    {request : KeyRotationRequest} {rotated : NodeState}
    (ran : rotateKeysWrite config draws headers nodeId request state = (.ok rotated, left)) :
    ∃ node machineRotated bothRotated detail, state.nodes.lookup nodeId = some node ∧
      requireNode headers config.adminToken node = .ok () ∧
      rotateKey .machine request.machinePublicKey draws.now node = .ok machineRotated ∧
      rotateKey .wireGuard request.wgPublicKey draws.now machineRotated = .ok bothRotated ∧
      rotated = { bothRotated with revokedAt := none } ∧
      Leaves state left state.networks (state.nodes.replace nodeId rotated) state.tokens
        [buildAuditEntry draws "keys.rotate" (some node.networkId) (some node.id) detail] := by
  unfold rotateKeysWrite at ran
  split at ran
  · cases ran
  · rename_i node nodeAt
    split at ran
    · cases ran
    · rename_i allowed
      split at ran
      · cases ran
      · rename_i machineRotated machine
        split at ran
        · cases ran
        · rename_i bothRotated wireGuard
          cases ran
          exact ⟨node, machineRotated, bothRotated, _, nodeAt, allowed, machine, wireGuard, rfl,
            rfl, rfl, rfl, rfl, rfl⟩

theorem revokeNodeWrite_eq_ok {nodeId : String} {revoked : NodeState}
    (ran : revokeNodeWrite draws nodeId state = (.ok revoked, left)) :
    ∃ node detail, state.nodes.lookup nodeId = some node ∧
      revoked = node.revoke draws.now ∧
      Leaves state left state.networks (state.nodes.replace nodeId revoked) state.tokens
        [buildAuditEntry draws "keys.revoke" (some node.networkId) (some node.id) detail] := by
  unfold revokeNodeWrite at ran
  split at ran
  · cases ran
  · rename_i node nodeAt
    cases ran
    exact ⟨node, _, nodeAt, rfl, rfl, rfl, rfl, rfl, rfl⟩

end Lightscale.ControlPlane
