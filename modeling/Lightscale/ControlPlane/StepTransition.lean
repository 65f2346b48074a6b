/-
Every step of the server is a transition.

One lemma for each closure follows its branches; the store then decides whether
the changes stay.  The node and the token a request created are read off the value
of the closure that took effect.
-/

import Lightscale.ControlPlane.Answers

namespace Lightscale.ControlPlane

open Foundation

def createdNode (config : Config) (before : State) (call : Call) : Option NodeState :=
  match call.request with
  | .register request =>
      match normalizeNodeName request.nodeName with
      | .error _ => none
      | .ok nodeName =>
          let closure := registerWrite config.externals call.draws request nodeName
          (config.backend.applied call.draws.stored closure before).bind fun nodeId =>
            (config.write call.draws closure before).2.nodes.lookup nodeId
  | .registerUrl request =>
      match linkExpiry call.draws request, normalizeNodeName request.nodeName with
      | .ok expiresAt, .ok nodeName =>
          (config.backend.applied call.draws.stored
            (registerUrlWrite config.externals call.draws request nodeName expiresAt)
            before).map Prod.fst
      | _, _ => none
  | _ => none

def createdToken (config : Config) (before : State) (call : Call) : Option TokenState :=
  match call.request with
  | .createNetwork request =>
      match requireAdmin call.headers config.adminToken,
          planNetwork config.externals call.draws request with
      | .ok _, .ok planned =>
          (config.backend.applied call.draws.stored
            (createNetworkWrite config.externals call.draws request planned) before).join
      | _, _ => none
  | .createToken networkId request =>
      match requireAdmin call.headers config.adminToken with
      | .ok _ =>
          config.backend.applied call.draws.stored
            (createTokenWrite call.draws networkId request) before
      | _ => none
  | _ => none

section

variable {config : Config} {call : Call} {before : State}

theorem Transition.bump {after : State} {made : Option NodeState} {granted : Option TokenState}
    (transition : Transition config call before after made granted) :
    Transition config call before after.bump made granted := by
  cases transition with
  | idle leaves => exact .idle leaves.bump
  | networkCreated request planned _ entry asked admin plan absent apart grant leaves =>
      exact .networkCreated request planned _ entry asked admin plan absent apart grant
        leaves.bump
  | networkDeleted networkId network entry asked admin networkAt empty leaves =>
      exact .networkDeleted networkId network entry asked admin networkAt empty leaves.bump
  | networkEdited networkId network edited entries networkAt edit leaves =>
      exact .networkEdited networkId network edited entries networkAt edit leaves.bump
  | tokenCreated networkId request network token entry asked admin networkAt grant leaves =>
      exact .tokenCreated networkId request network token entry asked admin networkAt grant
        leaves.bump
  | tokenRevoked tokenId token entry asked admin tokenAt leaves =>
      exact .tokenRevoked tokenId token entry asked admin tokenAt leaves.bump
  | nodeRegistered networkId network advanced ipv4 ipv6 node tokens entry networkAt
      allocated registration leaves =>
      exact .nodeRegistered networkId network advanced ipv4 ipv6 node tokens entry networkAt
        allocated registration leaves.bump
  | nodeEdited nodeId node edited entries nodeAt edit leaves =>
      exact .nodeEdited nodeId node edited entries nodeAt edit leaves.bump
  | nodeDeleted nodeId node entry asked admin nodeAt leaves =>
      exact .nodeDeleted nodeId node entry asked admin nodeAt leaves.bump

theorem Transition.refl : Transition config call before before none none :=
  .idle (Leaves.refl before)

/-- A write is a transition if its closure is one, both when it fails and when its
changes take effect. -/
theorem Transition.of_write {Result : Type} (closure : Handler Result)
    (made : Option Result → Option NodeState) (granted : Option Result → Option TokenState)
    (madeNone : made none = none) (grantedNone : granted none = none)
    (failed : ∀ error left, closure before = (.error error, left) →
      config.backend = .file →
      config.backend.applied call.draws.stored closure before = none →
      Transition config call before left none none)
    (done : ∀ result left, closure before = (.ok result, left) →
      config.backend.applied call.draws.stored closure before = some result →
      (config.write call.draws closure before).2 = left.bump →
      Transition config call before left (made (some result)) (granted (some result))) :
    Transition config call before (config.write call.draws closure before).2
      (made (config.backend.applied call.draws.stored closure before))
      (granted (config.backend.applied call.draws.stored closure before)) := by
  have outcome : WriteOutcome config.backend call.draws.stored closure before
      (config.write call.draws closure before).2 :=
    config.backend.write_outcome call.draws.stored closure before
  cases outcome with
  | kept same notApplied =>
      rw [same, notApplied, madeNone, grantedNone]
      exact .refl
  | failed error onFile ran notApplied =>
      rw [notApplied, madeNone, grantedNone]
      exact failed error _ ran onFile notApplied
  | done result left ran bumped isApplied =>
      have leftTransition := done result left ran isApplied bumped
      rw [bumped, isApplied]
      exact leftTransition.bump

theorem Transition.of_plain_write {Result : Type} (closure : Handler Result)
    (ends : ∀ result left, closure before = (result, left) →
      config.backend = .file ∨ call.draws.stored = true →
      Transition config call before left none none) :
    Transition config call before (config.write call.draws closure before).2 none none := by
  refine Transition.of_write closure (fun _ => none) (fun _ => none) rfl rfl ?_ ?_
  · intro error left ran onFile _
    exact ends (.error error) left ran (Or.inl onFile)
  · intro result left ran isApplied _
    exact ends (.ok result) left ran (Backend.kept_of_applied (Option.isSome_of_eq_some isApplied))

theorem Transition.of_check {Checked Result : Type} (checked : Except ApiError Checked)
    (next : Checked → Handler Result)
    (passes : ∀ value, checked = .ok value →
      Transition config call before (next value before).2 none none) :
    Transition config call before (check checked next before).2 none none := by
  rcases check_state checked next before with stopped | ⟨value, passed, continued⟩
  · rw [stopped]
    exact .refl
  · rw [continued]
    exact passes value passed

/-! ### Networks and tokens -/

theorem createNetworkWrite_transition {request : CreateNetworkRequest}
    {planned : PlannedNetwork} (asked : call.request = .createNetwork request)
    (admin : requireAdmin call.headers config.adminToken = .ok ())
    (plan : planNetwork config.externals call.draws request = .ok planned)
    {result : Except ApiError (Option TokenState)} {left : State}
    (ran : createNetworkWrite config.externals call.draws request planned before =
      (result, left)) :
    Transition config call before left none (result.toOption.join) := by
  unfold createNetworkWrite at ran
  dsimp only at ran
  cases present : before.networks.lookup planned.state.id with
  | some network =>
      rw [present] at ran
      cases ran
      exact .refl
  | none =>
      rw [present] at ran
      simp only [Option.isSome_none, Bool.false_eq_true, if_false] at ran
      cases apart : checkOverlaps config.externals planned.overlayV4Net
          planned.overlayV6Net before.networks.values with
      | error error =>
          rw [apart] at ran
          cases ran
          exact .refl
      | ok _ =>
          rw [apart] at ran
          dsimp only at ran
          cases ttlAt : request.bootstrapTokenTtlSeconds with
          | none =>
              rw [ttlAt] at ran
              cases ran
              exact .networkCreated request planned none _ asked admin plan present apart
                (fun _ impossible => nomatch impossible) ⟨rfl, rfl, rfl, rfl, rfl⟩
          | some ttl =>
              rw [ttlAt] at ran
              dsimp only at ran
              cases built : buildToken call.draws planned.state.id ttl
                  (request.bootstrapTokenUses.getD 1)
                  (request.bootstrapTokenTags.getD []) none none true with
              | error error =>
                  rw [built] at ran
                  cases ran
                  exact .networkCreated request planned none _ asked admin plan present apart
                    (fun _ impossible => nomatch impossible) ⟨rfl, rfl, rfl, rfl, rfl⟩
              | ok token =>
                  rw [built] at ran
                  cases ran
                  refine .networkCreated request planned (some token) _ asked admin plan
                    present apart ?_ ⟨rfl, rfl, rfl, rfl, rfl⟩
                  intro granted same
                  cases same
                  exact ⟨ttl, ttlAt, built⟩

theorem deleteNetworkWrite_transition {networkId : String}
    (asked : call.request = .deleteNetwork networkId)
    (admin : requireAdmin call.headers config.adminToken = .ok ())
    {result : Except ApiError Unit} {left : State}
    (ran : deleteNetworkWrite call.draws networkId before = (result, left)) :
    Transition config call before left none none := by
  unfold deleteNetworkWrite at ran
  cases networkAt : before.networks.lookup networkId with
  | none =>
      rw [networkAt] at ran
      cases ran
      exact .refl
  | some network =>
      rw [networkAt] at ran
      dsimp only at ran
      by_cases connected :
          before.nodes.values.any (fun node => decide (node.networkId = networkId)) = true
      · rw [if_pos connected] at ran
        cases ran
        exact .refl
      · rw [if_neg connected] at ran
        cases ran
        refine .networkDeleted networkId network _ asked admin networkAt ?_
          ⟨rfl, rfl, rfl, rfl, rfl⟩
        intro key node nodeAt same
        apply connected
        rw [List.any_eq_true]
        exact ⟨node, (Table.mem_values_iff _ _).mpr ⟨key, nodeAt⟩, decide_eq_true same⟩

theorem updateAclWrite_transition {networkId : String} {policy : AclPolicy}
    (asked : call.request = .updateAcl networkId policy)
    (admin : requireAdmin call.headers config.adminToken = .ok ())
    {result : Except ApiError AclPolicy} {left : State}
    (ran : updateAclWrite call.draws networkId policy before = (result, left)) :
    Transition config call before left none none := by
  unfold updateAclWrite at ran
  cases networkAt : before.networks.lookup networkId with
  | none =>
      rw [networkAt] at ran
      cases ran
      exact .refl
  | some network =>
      rw [networkAt] at ran
      cases ran
      exact .networkEdited networkId network _ _ networkAt (.acl policy asked admin)
        ⟨rfl, rfl, rfl, rfl, rfl⟩

theorem updateKeyPolicyWrite_transition {networkId : String} {policy : KeyRotationPolicy}
    (asked : call.request = .updateKeyPolicy networkId policy)
    (admin : requireAdmin call.headers config.adminToken = .ok ())
    {result : Except ApiError KeyRotationPolicy} {left : State}
    (ran : updateKeyPolicyWrite call.draws networkId policy before = (result, left)) :
    Transition config call before left none none := by
  unfold updateKeyPolicyWrite at ran
  cases networkAt : before.networks.lookup networkId with
  | none =>
      rw [networkAt] at ran
      cases ran
      exact .refl
  | some network =>
      rw [networkAt] at ran
      cases ran
      exact .networkEdited networkId network _ _ networkAt (.keyPolicy policy asked admin)
        ⟨rfl, rfl, rfl, rfl, rfl⟩

theorem createTokenWrite_transition {networkId : String} {request : CreateTokenRequest}
    (asked : call.request = .createToken networkId request)
    (admin : requireAdmin call.headers config.adminToken = .ok ())
    {result : Except ApiError TokenState} {left : State}
    (ran : createTokenWrite call.draws networkId request before = (result, left)) :
    Transition config call before left none result.toOption := by
  unfold createTokenWrite at ran
  cases networkAt : before.networks.lookup networkId with
  | none =>
      rw [networkAt] at ran
      cases ran
      exact .refl
  | some network =>
      rw [networkAt] at ran
      dsimp only at ran
      cases built : buildToken call.draws network.id request.ttlSeconds request.uses
          request.tags request.ownerUserId request.ownerEmail
          (request.ownerIsAdmin.getD true) with
      | error error =>
          rw [built] at ran
          cases ran
          exact .refl
      | ok token =>
          rw [built] at ran
          cases ran
          exact .tokenCreated networkId request network token _ asked admin networkAt built
            ⟨rfl, rfl, rfl, rfl, rfl⟩

theorem revokeTokenWrite_transition {tokenId : String}
    (asked : call.request = .revokeToken tokenId)
    (admin : requireAdmin call.headers config.adminToken = .ok ())
    {result : Except ApiError TokenState} {left : State}
    (ran : revokeTokenWrite call.draws tokenId before = (result, left)) :
    Transition config call before left none none := by
  unfold revokeTokenWrite at ran
  cases tokenAt : before.tokens.lookup tokenId with
  | none =>
      rw [tokenAt] at ran
      cases ran
      exact .refl
  | some token =>
      rw [tokenAt] at ran
      cases ran
      exact .tokenRevoked tokenId token _ asked admin tokenAt ⟨rfl, rfl, rfl, rfl, rfl⟩

/-! ### Registration -/

theorem registerWrite_transition {request : RegisterRequest} {nodeName : String}
    (asked : call.request = .register request)
    (named : normalizeNodeName request.nodeName = .ok nodeName)
    {result : Except ApiError String} {left : State}
    (ran : registerWrite config.externals call.draws request nodeName before =
      (result, left)) :
    Transition config call before left
      (result.toOption.bind fun nodeId => left.nodes.lookup nodeId) none := by
  unfold registerWrite at ran
  cases tokenAt : before.tokens.lookup request.token with
  | none =>
      rw [tokenAt] at ran
      cases ran
      exact .refl
  | some token =>
      rw [tokenAt] at ran
      dsimp only at ran
      by_cases expired : token.expiresAt ≤ call.draws.now
      · rw [if_pos expired] at ran
        cases ran
        exact .refl
      rw [if_neg expired] at ran
      by_cases isRevoked : token.revokedAt.isSome = true
      · rw [if_pos isRevoked] at ran
        cases ran
        exact .refl
      rw [if_neg isRevoked] at ran
      have unrevoked : token.revokedAt = none := by
        simpa only [Option.not_isSome_iff_eq_none] using isRevoked
      by_cases usedUp : token.usesLeft = 0
      · rw [if_pos usedUp] at ran
        cases ran
        exact .refl
      rw [if_neg usedUp] at ran
      cases unique : ensureUniqueNodeName before token.networkId nodeName none with
      | error error =>
          rw [unique] at ran
          cases ran
          exact .refl
      | ok _ =>
          rw [unique] at ran
          dsimp only at ran
          cases networkAt : before.networks.lookup token.networkId with
          | none =>
              rw [networkAt] at ran
              cases ran
              exact .refl
          | some network =>
              rw [networkAt] at ran
              dsimp only at ran
              rcases allocated : allocateNodeIps config.externals network with
                ⟨addresses, advanced⟩
              rw [allocated] at ran
              cases addresses with
              | error error =>
                  cases ran
                  exact .networkEdited token.networkId network advanced [] networkAt
                    (.offsetSpent error advanced
                      (.byToken request token asked tokenAt rfl (Int.not_le.mp expired)
                        unrevoked usedUp) allocated)
                    ⟨rfl, rfl, rfl, (List.append_nil _).symm, rfl⟩
              | ok addresses =>
                  rcases addresses with ⟨ipv4, ipv6⟩
                  dsimp only [State.audit] at ran
                  rw [tokenAt] at ran
                  cases ran
                  have stored : (before.nodes.insert call.draws.nodeId
                      (registeredNode call.draws request nodeName network token ipv4
                        ipv6)).lookup call.draws.nodeId =
                      some (registeredNode call.draws request nodeName network token ipv4
                        ipv6) := AList.lookup_insert _
                  change Transition config call before _ (AList.lookup call.draws.nodeId
                    (before.nodes.insert call.draws.nodeId (registeredNode call.draws request
                      nodeName network token ipv4 ipv6))) none
                  rw [stored]
                  exact .nodeRegistered token.networkId network advanced ipv4 ipv6 _ _ _
                    networkAt allocated
                    (.byToken request nodeName token asked named tokenAt rfl
                      (Int.not_le.mp expired) unrevoked usedUp unique)
                    ⟨rfl, rfl, rfl, rfl, rfl⟩

theorem registerUrlWrite_transition {request : RegisterUrlRequest} {nodeName : String}
    {expiresAt : Int} (asked : call.request = .registerUrl request)
    (named : normalizeNodeName request.nodeName = .ok nodeName)
    (expiry : linkExpiry call.draws request = .ok expiresAt)
    {result : Except ApiError (NodeState × String)} {left : State}
    (ran : registerUrlWrite config.externals call.draws request nodeName expiresAt before =
      (result, left)) :
    Transition config call before left (result.toOption.map Prod.fst) none := by
  unfold registerUrlWrite at ran
  cases unique : ensureUniqueNodeName before request.networkId nodeName none with
  | error error =>
      rw [unique] at ran
      cases ran
      exact .refl
  | ok _ =>
      rw [unique] at ran
      dsimp only at ran
      cases networkAt : before.networks.lookup request.networkId with
      | none =>
          rw [networkAt] at ran
          cases ran
          exact .refl
      | some network =>
          rw [networkAt] at ran
          dsimp only at ran
          rcases allocated : allocateNodeIps config.externals network with
            ⟨addresses, advanced⟩
          rw [allocated] at ran
          cases addresses with
          | error error =>
              cases ran
              exact .networkEdited request.networkId network advanced [] networkAt
                (.offsetSpent error advanced (.byUrl request asked rfl) allocated)
                ⟨rfl, rfl, rfl, (List.append_nil _).symm, rfl⟩
          | ok addresses =>
              rcases addresses with ⟨ipv4, ipv6⟩
              cases ran
              exact .nodeRegistered request.networkId network advanced ipv4 ipv6 _ _ _
                networkAt allocated
                (.byUrl request nodeName expiresAt asked named expiry rfl unique)
                ⟨rfl, rfl, rfl, rfl, rfl⟩

/-! ### Nodes -/

theorem approveNodeSecretWrite_transition {nodeId secret : String}
    (asked : call.request = .approveNodeSecret nodeId secret)
    {result : Except ApiError NodeState} {left : State}
    (ran : approveNodeSecretWrite call.draws nodeId secret before = (result, left))
    (isKept : config.backend = .file ∨ call.draws.stored = true) :
    Transition config call before left none none := by
  unfold approveNodeSecretWrite at ran
  cases nodeAt : before.nodes.lookup nodeId with
  | none =>
      rw [nodeAt] at ran
      cases ran
      exact .refl
  | some node =>
      rw [nodeAt] at ran
      dsimp only at ran
      cases pending : node.approved with
      | true =>
          rw [pending] at ran
          cases ran
          exact .refl
      | false =>
          rw [pending] at ran
          simp only [Bool.false_eq_true, if_false] at ran
          cases carried : node.authSecret with
          | none =>
              rw [carried] at ran
              cases ran
              exact .refl
          | some authSecret =>
              rw [carried] at ran
              dsimp only at ran
              by_cases wrong : authSecret ≠ secret
              · rw [if_pos wrong] at ran
                cases ran
                exact .refl
              rw [if_neg wrong] at ran
              have same : authSecret = secret := not_ne_iff.mp wrong
              subst authSecret
              by_cases expired : node.authExpiresAt.any
                  (fun expiresAt => decide (expiresAt ≤ call.draws.now)) = true
              · rw [if_pos expired] at ran
                cases ran
                exact .refl
              · rw [if_neg expired] at ran
                cases ran
                refine .nodeEdited nodeId node _ _ nodeAt
                  (.approvedBySecret secret asked pending carried ?_ isKept)
                  ⟨rfl, rfl, rfl, rfl, rfl⟩
                intro expiresAt expiry
                rw [expiry] at expired
                simpa only [Option.any_some, decide_eq_true_eq, Int.not_le] using expired

theorem approveNodeWrite_transition {nodeId : String}
    (asked : call.request = .approveNode nodeId)
    (admin : requireAdmin call.headers config.adminToken = .ok ())
    {result : NodeState} {left : State}
    (ran : approveNodeWrite call.draws nodeId before = (.ok result, left))
    (isApplied : config.backend.applied call.draws.stored
      (approveNodeWrite call.draws nodeId) before = some result) :
    Transition config call before left none none := by
  unfold approveNodeWrite at ran
  cases nodeAt : before.nodes.lookup nodeId with
  | none =>
      rw [nodeAt] at ran
      cases ran
  | some node =>
      rw [nodeAt] at ran
      dsimp only at ran
      cases pending : node.approved with
      | true =>
          rw [pending] at ran
          cases ran
          exact .refl
      | false =>
          rw [pending] at ran
          cases ran
          exact .nodeEdited nodeId node _ _ nodeAt
            (.approvedByAdmin asked admin pending (by rw [isApplied]; rfl))
            ⟨rfl, rfl, rfl, rfl, rfl⟩

theorem approveNodeWrite_error {draws : Draws} {nodeId : String} {error : ApiError}
    {left : State} (ran : approveNodeWrite draws nodeId before = (.error error, left)) :
    left = before := by
  unfold approveNodeWrite at ran
  cases nodeAt : before.nodes.lookup nodeId with
  | none =>
      rw [nodeAt] at ran
      cases ran
      rfl
  | some node =>
      rw [nodeAt] at ran
      dsimp only at ran
      cases pending : node.approved <;> rw [pending] at ran <;> cases ran

theorem updateNodeWrite_transition {nodeId : String} {request : UpdateNodeRequest}
    (asked : call.request = .updateNode nodeId request)
    (admin : requireAdmin call.headers config.adminToken = .ok ())
    {result : Except ApiError NodeInfo} {left : State}
    (ran : updateNodeWrite call.draws nodeId request before = (result, left))
    (isKept : config.backend = .file ∨ call.draws.stored = true) :
    Transition config call before left none none := by
  unfold updateNodeWrite at ran
  cases nodeAt : before.nodes.lookup nodeId with
  | none =>
      rw [nodeAt] at ran
      cases ran
      exact .refl
  | some existing =>
      rw [nodeAt] at ran
      dsimp only at ran
      cases named : nextNodeName before existing request.name with
      | error error =>
          rw [named] at ran
          cases ran
          exact .refl
      | ok nextName =>
          rw [named] at ran
          dsimp only at ran
          have edit : NodeEdit config call before nodeId existing
              { existing with
                name := nextName.getD existing.name
                tags := (nextNodeTags existing request.tags).getD existing.tags } :=
            .updated request nextName asked admin named isKept
          cases networkAt : before.networks.lookup existing.networkId with
          | none =>
              rw [networkAt] at ran
              cases ran
              exact .nodeEdited nodeId existing _ [] nodeAt edit
                ⟨rfl, rfl, rfl, (List.append_nil _).symm, rfl⟩
          | some network =>
              rw [networkAt] at ran
              dsimp only at ran
              split at ran
              · cases ran
                exact .nodeEdited nodeId existing _ [] nodeAt edit
                  ⟨rfl, rfl, rfl, (List.append_nil _).symm, rfl⟩
              · cases ran
                exact .nodeEdited nodeId existing _ _ nodeAt edit ⟨rfl, rfl, rfl, rfl, rfl⟩

theorem heartbeatWrite_transition {request : HeartbeatRequest}
    (asked : call.request = .heartbeat request)
    {result : Except ApiError Unit} {left : State}
    (ran : heartbeatWrite config call.draws call.headers request before = (result, left)) :
    Transition config call before left none none := by
  unfold heartbeatWrite at ran
  cases nodeAt : before.nodes.lookup request.nodeId with
  | none =>
      rw [nodeAt] at ran
      cases ran
      exact .refl
  | some node =>
      rw [nodeAt] at ran
      dsimp only at ran
      cases allowed : requireNode call.headers config.adminToken node with
      | error error =>
          rw [allowed] at ran
          cases ran
          exact .refl
      | ok _ =>
          rw [allowed] at ran
          cases ran
          exact .nodeEdited request.nodeId node _ [] nodeAt
            (.heartbeat request asked rfl allowed _)
            ⟨rfl, rfl, rfl, (List.append_nil _).symm, rfl⟩

theorem deleteNodeWrite_transition {nodeId : String}
    (asked : call.request = .deleteNode nodeId)
    (admin : requireAdmin call.headers config.adminToken = .ok ())
    {result : Except ApiError String} {left : State}
    (ran : deleteNodeWrite call.draws nodeId before = (result, left)) :
    Transition config call before left none none := by
  unfold deleteNodeWrite at ran
  cases nodeAt : before.nodes.lookup nodeId with
  | none =>
      rw [nodeAt] at ran
      cases ran
      exact .refl
  | some node =>
      rw [nodeAt] at ran
      cases ran
      exact .nodeDeleted nodeId node _ asked admin nodeAt ⟨rfl, rfl, rfl, rfl, rfl⟩

theorem revokeNodeWrite_transition {nodeId : String}
    (asked : call.request = .revokeNode nodeId)
    (admin : requireAdmin call.headers config.adminToken = .ok ())
    {result : Except ApiError NodeState} {left : State}
    (ran : revokeNodeWrite call.draws nodeId before = (result, left))
    (isKept : config.backend = .file ∨ call.draws.stored = true) :
    Transition config call before left none none := by
  unfold revokeNodeWrite at ran
  cases nodeAt : before.nodes.lookup nodeId with
  | none =>
      rw [nodeAt] at ran
      cases ran
      exact .refl
  | some node =>
      rw [nodeAt] at ran
      cases ran
      exact .nodeEdited nodeId node _ _ nodeAt (.revoked asked admin isKept)
        ⟨rfl, rfl, rfl, rfl, rfl⟩

/-! ### Key rotation -/

theorem rotateKeysWrite_done {nodeId : String} {request : KeyRotationRequest}
    (asked : call.request = .rotateKeys nodeId request)
    (provided : request.machinePublicKey ≠ none ∨ request.wgPublicKey ≠ none)
    {result : NodeState} {left : State}
    (ran : rotateKeysWrite config call.draws call.headers nodeId request before =
      (.ok result, left))
    (isApplied : config.backend.applied call.draws.stored
      (rotateKeysWrite config call.draws call.headers nodeId request) before = some result) :
    Transition config call before left none none := by
  obtain ⟨node, machineRotated, bothRotated, detail, nodeAt, allowed, machine, wireGuard,
    isRotated, leaves⟩ := rotateKeysWrite_eq_ok ran
  subst isRotated
  exact .nodeEdited nodeId node _ _ nodeAt
    (.rotated request machineRotated bothRotated asked allowed provided machine wireGuard
      (by rw [isApplied]; rfl)) leaves

theorem rotateKeysWrite_failed {nodeId : String} {request : KeyRotationRequest}
    (asked : call.request = .rotateKeys nodeId request)
    {error : ApiError} {left : State}
    (ran : rotateKeysWrite config call.draws call.headers nodeId request before =
      (.error error, left))
    (onFile : config.backend = .file)
    (notApplied : config.backend.applied call.draws.stored
      (rotateKeysWrite config call.draws call.headers nodeId request) before = none) :
    Transition config call before left none none := by
  unfold rotateKeysWrite at ran
  cases nodeAt : before.nodes.lookup nodeId with
  | none =>
      rw [nodeAt] at ran
      cases ran
      exact .refl
  | some node =>
      rw [nodeAt] at ran
      dsimp only at ran
      cases allowed : requireNode call.headers config.adminToken node with
      | error error =>
          rw [allowed] at ran
          cases ran
          exact .refl
      | ok _ =>
          rw [allowed] at ran
          dsimp only at ran
          cases machine : rotateKey .machine request.machinePublicKey call.draws.now node with
          | error error =>
              rw [machine] at ran
              cases ran
              exact .refl
          | ok machineRotated =>
              rw [machine] at ran
              dsimp only at ran
              cases wireGuard : rotateKey .wireGuard request.wgPublicKey call.draws.now
                  machineRotated with
              | error error =>
                  rw [wireGuard] at ran
                  cases ran
                  exact .nodeEdited nodeId node _ [] nodeAt
                    (.rotatedPartly request machineRotated _ asked allowed machine wireGuard
                      notApplied onFile) ⟨rfl, rfl, rfl, (List.append_nil _).symm, rfl⟩
              | ok bothRotated =>
                  rw [wireGuard] at ran
                  cases ran

/-! ### Every request -/

theorem createNetwork_step {request : CreateNetworkRequest}
    (asked : call.request = .createNetwork request) :
    Transition config call before
      (createNetwork config call.draws call.headers request before).2 none
      (createdToken config before call) := by
  unfold createNetwork
  cases admin : requireAdmin call.headers config.adminToken with
  | error error =>
      have nothing : createdToken config before call = none := by
        simp only [createdToken, asked, admin]
      rw [nothing]
      exact .refl
  | ok _ =>
      cases plan : planNetwork config.externals call.draws request with
      | error error =>
          have nothing : createdToken config before call = none := by
            simp only [createdToken, asked, admin, plan]
          rw [nothing]
          exact .refl
      | ok planned =>
          have created : createdToken config before call =
              (config.backend.applied call.draws.stored
                (createNetworkWrite config.externals call.draws request planned)
                before).join := by
            simp only [createdToken, asked, admin, plan]
          rw [created]
          refine Transition.of_write
            (createNetworkWrite config.externals call.draws request planned)
            (fun _ => none) Option.join rfl rfl ?_ ?_
          · intro error left ran _ _
            exact createNetworkWrite_transition asked admin plan ran
          · intro result left ran _ _
            exact createNetworkWrite_transition asked admin plan ran

theorem createToken_step {networkId : String} {request : CreateTokenRequest}
    (asked : call.request = .createToken networkId request) :
    Transition config call before
      (createToken config call.draws call.headers networkId request before).2 none
      (createdToken config before call) := by
  unfold createToken
  cases admin : requireAdmin call.headers config.adminToken with
  | error error =>
      have nothing : createdToken config before call = none := by
        simp only [createdToken, asked, admin]
      rw [nothing]
      exact .refl
  | ok _ =>
      have created : createdToken config before call =
          config.backend.applied call.draws.stored
            (createTokenWrite call.draws networkId request) before := by
        simp only [createdToken, asked, admin]
      rw [created]
      refine Transition.of_write (createTokenWrite call.draws networkId request)
        (fun _ => none) id rfl rfl ?_ ?_
      · intro error left ran _ _
        exact createTokenWrite_transition asked admin ran
      · intro result left ran _ _
        exact createTokenWrite_transition asked admin ran

theorem register_step {request : RegisterRequest}
    (asked : call.request = .register request) :
    Transition config call before (register config call.draws request before).2
      (createdNode config before call) none := by
  unfold register
  cases named : normalizeNodeName request.nodeName with
  | error error =>
      have nothing : createdNode config before call = none := by
        simp only [createdNode, asked, named]
      rw [nothing]
      exact .refl
  | ok nodeName =>
      have created : createdNode config before call =
          (config.backend.applied call.draws.stored
            (registerWrite config.externals call.draws request nodeName) before).bind
            fun nodeId =>
              (config.write call.draws
                (registerWrite config.externals call.draws request nodeName)
                before).2.nodes.lookup nodeId := by
        simp only [createdNode, asked, named]
      rw [created]
      change Transition config call before (Handler.andRead _ _ before).2 _ _
      rw [Handler.andRead_state]
      refine Transition.of_write
        (registerWrite config.externals call.draws request nodeName)
        (fun nodeId => nodeId.bind _) (fun _ => none) rfl rfl ?_ ?_
      · intro error left ran _ _
        exact registerWrite_transition asked named ran
      · intro nodeId left ran _ bumped
        rw [Option.bind_some, bumped]
        exact registerWrite_transition asked named ran

theorem registerUrl_step {request : RegisterUrlRequest}
    (asked : call.request = .registerUrl request) :
    Transition config call before (registerUrl config call.draws request before).2
      (createdNode config before call) none := by
  unfold registerUrl
  cases expiry : linkExpiry call.draws request with
  | error error =>
      have nothing : createdNode config before call = none := by
        simp only [createdNode, asked, expiry]
      rw [nothing]
      exact .refl
  | ok expiresAt =>
      cases named : normalizeNodeName request.nodeName with
      | error error =>
          have nothing : createdNode config before call = none := by
            simp only [createdNode, asked, expiry, named]
          rw [nothing]
          exact .refl
      | ok nodeName =>
          have created : createdNode config before call =
              (config.backend.applied call.draws.stored
                (registerUrlWrite config.externals call.draws request nodeName expiresAt)
                before).map Prod.fst := by
            simp only [createdNode, asked, expiry, named]
          rw [created]
          refine Transition.of_write
            (registerUrlWrite config.externals call.draws request nodeName expiresAt)
            (fun written => written.map Prod.fst) (fun _ => none) rfl rfl ?_ ?_
          · intro error left ran _ _
            exact registerUrlWrite_transition asked named expiry ran
          · intro result left ran _ _
            exact registerUrlWrite_transition asked named expiry ran

theorem approveNode_step {nodeId : String} (asked : call.request = .approveNode nodeId) :
    Transition config call before
      (approveNode config call.draws call.headers nodeId before).2 none none := by
  refine Transition.of_check _ _ fun _ admin => ?_
  refine Transition.of_write (approveNodeWrite call.draws nodeId) (fun _ => none)
    (fun _ => none) rfl rfl ?_ ?_
  · intro error left ran _ _
    rw [approveNodeWrite_error ran]
    exact .refl
  · intro result left ran isApplied _
    exact approveNodeWrite_transition asked admin ran isApplied

theorem rotateKeys_step {nodeId : String} {request : KeyRotationRequest}
    (asked : call.request = .rotateKeys nodeId request) :
    Transition config call before
      (rotateKeys config call.draws call.headers nodeId request before).2 none none := by
  refine Transition.of_check _ _ fun _ passed => ?_
  have provided : request.machinePublicKey ≠ none ∨ request.wgPublicKey ≠ none := by
    cases machineAt : request.machinePublicKey with
    | some key => exact Or.inl nofun
    | none =>
        cases wgAt : request.wgPublicKey with
        | some key => exact Or.inr nofun
        | none =>
            rw [machineAt, wgAt] at passed
            cases passed
  refine Transition.of_write (rotateKeysWrite config call.draws call.headers nodeId request)
    (fun _ => none) (fun _ => none) rfl rfl ?_ ?_
  · intro error left ran onFile notApplied
    exact rotateKeysWrite_failed asked ran onFile notApplied
  · intro result left ran isApplied _
    exact rotateKeysWrite_done asked provided ran isApplied

theorem kept_of_createdNode {node : NodeState}
    (isMade : createdNode config before call = some node) :
    config.backend = .file ∨ call.draws.stored = true := by
  unfold createdNode at isMade
  split at isMade
  · split at isMade
    · cases isMade
    · obtain ⟨nodeId, isApplied, -⟩ := Option.bind_eq_some_iff.mp isMade
      exact Backend.kept_of_applied (Option.isSome_of_eq_some isApplied)
  · split at isMade
    · obtain ⟨written, isApplied, -⟩ := Option.map_eq_some_iff.mp isMade
      exact Backend.kept_of_applied (Option.isSome_of_eq_some isApplied)
    · cases isMade
  · cases isMade

/-- Every request makes a transition, whatever response it gets. -/
theorem step_transition (config : Config) (before : State) (call : Call) :
    Transition config call before (step config before call)
      (createdNode config before call) (createdToken config before call) := by
  cases asked : call.request with
  | createNetwork request =>
      have noNode : createdNode config before call = none := by
        simp only [createdNode, asked]
      simp only [step, handle, noNode, asked, Handler.respond_state]
      exact createNetwork_step asked
  | deleteNetwork networkId =>
      simp only [step, handle, createdNode, createdToken, asked, Handler.respond_state]
      refine Transition.of_check _ _ fun _ admin => ?_
      exact Transition.of_plain_write (deleteNetworkWrite call.draws networkId)
        fun _ _ ran _ => deleteNetworkWrite_transition asked admin ran
  | createToken networkId request =>
      have noNode : createdNode config before call = none := by
        simp only [createdNode, asked]
      simp only [step, handle, noNode, asked, Handler.respond_state]
      exact createToken_step asked
  | revokeToken tokenId =>
      simp only [step, handle, createdNode, createdToken, asked, Handler.respond_state]
      refine Transition.of_check _ _ fun _ admin => ?_
      exact Transition.of_plain_write (revokeTokenWrite call.draws tokenId)
        fun _ _ ran _ => revokeTokenWrite_transition asked admin ran
  | register request =>
      have noToken : createdToken config before call = none := by
        simp only [createdToken, asked]
      simp only [step, handle, noToken, asked, Handler.respond_state]
      exact register_step asked
  | registerUrl request =>
      have noToken : createdToken config before call = none := by
        simp only [createdToken, asked]
      simp only [step, handle, noToken, asked, Handler.respond_state]
      exact registerUrl_step asked
  | approveNodeSecret nodeId secret =>
      simp only [step, handle, createdNode, createdToken, asked, Handler.respond_state]
      exact Transition.of_plain_write (approveNodeSecretWrite call.draws nodeId secret)
        fun _ _ ran isKept => approveNodeSecretWrite_transition asked ran isKept
  | approveNode nodeId =>
      simp only [step, handle, createdNode, createdToken, asked, Handler.respond_state]
      exact approveNode_step asked
  | updateNode nodeId request =>
      simp only [step, handle, createdNode, createdToken, asked, Handler.respond_state]
      refine Transition.of_check _ _ fun _ admin => ?_
      refine Transition.of_check _ _ fun _ _ => ?_
      exact Transition.of_plain_write (updateNodeWrite call.draws nodeId request)
        fun _ _ ran isKept => updateNodeWrite_transition asked admin ran isKept
  | updateAcl networkId policy =>
      simp only [step, handle, createdNode, createdToken, asked, Handler.respond_state]
      refine Transition.of_check _ _ fun _ admin => ?_
      exact Transition.of_plain_write (updateAclWrite call.draws networkId policy)
        fun _ _ ran _ => updateAclWrite_transition asked admin ran
  | updateKeyPolicy networkId policy =>
      simp only [step, handle, createdNode, createdToken, asked, Handler.respond_state]
      refine Transition.of_check _ _ fun _ admin => ?_
      exact Transition.of_plain_write (updateKeyPolicyWrite call.draws networkId policy)
        fun _ _ ran _ => updateKeyPolicyWrite_transition asked admin ran
  | rotateKeys nodeId request =>
      simp only [step, handle, createdNode, createdToken, asked, Handler.respond_state]
      exact rotateKeys_step asked
  | revokeNode nodeId =>
      simp only [step, handle, createdNode, createdToken, asked, Handler.respond_state]
      refine Transition.of_check _ _ fun _ admin => ?_
      exact Transition.of_plain_write (revokeNodeWrite call.draws nodeId)
        fun _ _ ran isKept => revokeNodeWrite_transition asked admin ran isKept
  | deleteNode nodeId =>
      simp only [step, handle, createdNode, createdToken, asked, Handler.respond_state]
      refine Transition.of_check _ _ fun _ admin => ?_
      exact Transition.of_plain_write (deleteNodeWrite call.draws nodeId)
        fun _ _ ran _ => deleteNodeWrite_transition asked admin ran
  | heartbeat request =>
      simp only [step, handle, createdNode, createdToken, asked, Handler.respond_state,
        heartbeat, Handler.andRead_state]
      exact Transition.of_plain_write (heartbeatWrite config call.draws call.headers request)
        fun _ _ ran _ => heartbeatWrite_transition asked ran
  | read route =>
      simp only [step, handle, createdNode, createdToken, asked]
      exact .refl

end

end Lightscale.ControlPlane
