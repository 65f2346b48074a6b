/-
The audit log is complete and permanent.

Every handler writes its entry by hand, some before and some after the edit, and some only
if there is anything to tell.  A successful request is followed here from the entry it wrote
to the exact difference of the two states; what an unsuccessful one leaves is only ever
appended to.
-/

import Lightscale.ControlPlane.Answers
import Lightscale.ControlPlane.Integrity

namespace Lightscale.ControlPlane

open Foundation

/-! ### What an entry accounts for -/

/-- A node without what a heartbeat reports. -/
def NodeState.settled (node : NodeState) : NodeState :=
  { node with
    endpoints := []
    routes := []
    lastSeen := 0
    probeRequestedAt := none }

/-- Nothing has changed but the revision, the log and what heartbeats report. -/
structure Quiet (before after : State) : Prop where
  version : after.version = before.version
  networks : ∀ key, after.networks.lookup key = before.networks.lookup key
  tokens : ∀ key, after.tokens.lookup key = before.tokens.lookup key
  nodes : ∀ key, (after.nodes.lookup key).map NodeState.settled =
    (before.nodes.lookup key).map NodeState.settled

/-- The entry names the one network that has changed, or whose tokens or node have, and the
one node that has. -/
structure Concerns (before after : State) (entry : AuditEntry) (networkId : String) :
    Prop where
  named : entry.networkId = some networkId
  networks : before.networks.ChangesOnly after.networks (fun key _ => key = networkId)
  tokens : before.tokens.ChangesOnly after.tokens
    (fun _ token => token.networkId = networkId)
  nodes : before.nodes.ChangesOnly after.nodes
    (fun key node => entry.nodeId = some key ∧ node.networkId = networkId)

/-- The log tells of every change by at most one entry. -/
inductive Accounted (before after : State) : Prop where
  | quiet (same : Quiet before after) (log : after.auditLog = before.auditLog)
  | recorded (entry : AuditEntry) (networkId : String)
      (log : after.auditLog = before.auditLog ++ [entry])
      (concerns : Concerns before after entry networkId)

theorem Accounted.refl (state : State) : Accounted state state :=
  .quiet ⟨rfl, fun _ => rfl, fun _ => rfl, fun _ => rfl⟩ rfl

theorem Accounted.bump {before after : State} (accounted : Accounted before after) :
    Accounted before after.bump := by
  cases accounted with
  | quiet same log => exact .quiet ⟨same.version, same.networks, same.tokens, same.nodes⟩ log
  | recorded entry networkId log concerns =>
      exact .recorded entry networkId log
        ⟨concerns.named, concerns.networks, concerns.tokens, concerns.nodes⟩

section

variable {config : Config} {draws : Draws} {state left : State}

theorem Leaves.accounted {networks : Table String NetworkState} {nodes : Table String NodeState}
    {tokens : Table String TokenState} {entry : AuditEntry} {networkId : String}
    (leaves : Leaves state left networks nodes tokens [entry])
    (named : entry.networkId = some networkId)
    (networkChanges : state.networks.ChangesOnly networks (fun key _ => key = networkId))
    (tokenChanges : state.tokens.ChangesOnly tokens
      (fun _ token => token.networkId = networkId))
    (nodeChanges : state.nodes.ChangesOnly nodes
      (fun key node => entry.nodeId = some key ∧ node.networkId = networkId)) :
    Accounted state left := by
  refine .recorded entry networkId leaves.auditLog ⟨named, ?_, ?_, ?_⟩
  · rw [leaves.networks]
    exact networkChanges
  · rw [leaves.tokens]
    exact tokenChanges
  · rw [leaves.nodes]
    exact nodeChanges

theorem Leaves.accounted_nodeEdit {nodeId : String} {node edited : NodeState}
    {entry : AuditEntry}
    (leaves : Leaves state left state.networks (state.nodes.replace nodeId edited)
      state.tokens [entry])
    (nodeAt : state.nodes.lookup nodeId = some node)
    (sameNetwork : edited.networkId = node.networkId)
    (named : entry.networkId = some node.networkId) (isNode : entry.nodeId = some nodeId) :
    Accounted state left :=
  leaves.accounted named Table.changesOnly_refl Table.changesOnly_refl
    (Table.changesOnly_replace nodeAt ⟨isNode, sameNetwork⟩)

/-! ### Networks and tokens -/

theorem createNetworkWrite_accounted {request : CreateNetworkRequest}
    {planned : PlannedNetwork} {granted : Option TokenState}
    (ran : createNetworkWrite config.externals draws request planned state =
      (.ok granted, left)) : Accounted state left := by
  obtain ⟨-, -, grant, detail, leaves⟩ := createNetworkWrite_eq_ok ran
  refine leaves.accounted rfl (Table.changesOnly_insert rfl) ?_ Table.changesOnly_refl
  cases granted with
  | none => exact Table.changesOnly_refl
  | some token => exact Table.changesOnly_insert (grant token rfl).2

theorem deleteNetworkWrite_accounted {networkId : String} {result : Unit}
    (ran : deleteNetworkWrite draws networkId state = (.ok result, left)) :
    Accounted state left := by
  have leaves := deleteNetworkWrite_eq_ok ran
  refine leaves.accounted rfl (Table.changesOnly_erase fun _ _ => rfl) ?_
    Table.changesOnly_refl
  apply Table.changesOnly_retain
  intro key token tokenAt dropped
  simpa using dropped

theorem createTokenWrite_accounted {networkId : String} {request : CreateTokenRequest}
    {token : TokenState}
    (ran : createTokenWrite draws networkId request state = (.ok token, left)) :
    Accounted state left := by
  obtain ⟨network, detail, networkAt, inNetwork, leaves⟩ := createTokenWrite_eq_ok ran
  exact leaves.accounted rfl Table.changesOnly_refl (Table.changesOnly_insert inNetwork)
    Table.changesOnly_refl

theorem revokeTokenWrite_accounted {tokenId : String} {revoked : TokenState}
    (ran : revokeTokenWrite draws tokenId state = (.ok revoked, left)) :
    Accounted state left := by
  obtain ⟨token, detail, tokenAt, isRevoked, leaves⟩ := revokeTokenWrite_eq_ok ran
  subst isRevoked
  exact leaves.accounted rfl Table.changesOnly_refl
    (Table.changesOnly_replace tokenAt rfl) Table.changesOnly_refl

theorem updateAclWrite_accounted (integrity : state.Integrity config.externals)
    {networkId : String} {policy result : AclPolicy}
    (ran : updateAclWrite draws networkId policy state = (.ok result, left)) :
    Accounted state left := by
  obtain ⟨network, networkAt, leaves⟩ := updateAclWrite_eq_ok ran
  exact leaves.accounted rfl
    (Table.changesOnly_replace networkAt (integrity.networkKeys _ _ networkAt).symm)
    Table.changesOnly_refl Table.changesOnly_refl

theorem updateKeyPolicyWrite_accounted (integrity : state.Integrity config.externals)
    {networkId : String} {policy result : KeyRotationPolicy}
    (ran : updateKeyPolicyWrite draws networkId policy state = (.ok result, left)) :
    Accounted state left := by
  obtain ⟨network, detail, networkAt, leaves⟩ := updateKeyPolicyWrite_eq_ok ran
  exact leaves.accounted rfl
    (Table.changesOnly_replace networkAt (integrity.networkKeys _ _ networkAt).symm)
    Table.changesOnly_refl Table.changesOnly_refl

/-! ### Nodes -/

theorem registerWrite_accounted (integrity : state.Integrity config.externals)
    {request : RegisterRequest} {nodeName nodeId : String}
    (ran : registerWrite config.externals draws request nodeName state = (.ok nodeId, left)) :
    Accounted state left := by
  obtain ⟨token, network, addresses, advanced, detail, tokenAt, networkAt, -, leaves⟩ :=
    registerWrite_eq_ok ran
  have keyed := integrity.networkKeys _ _ networkAt
  refine leaves.accounted rfl (Table.changesOnly_replace networkAt keyed.symm) ?_
    (Table.changesOnly_insert ⟨rfl, rfl⟩)
  unfold spendToken
  dsimp only
  split
  · apply Table.changesOnly_erase
    intro old oldAt
    rw [tokenAt, Option.some.injEq] at oldAt
    rw [← oldAt]
    exact keyed.symm
  · exact Table.changesOnly_replace tokenAt keyed.symm

theorem registerUrlWrite_accounted (integrity : state.Integrity config.externals)
    {request : RegisterUrlRequest} {nodeName : String} {expiresAt : Int}
    {written : NodeState × String}
    (ran : registerUrlWrite config.externals draws request nodeName expiresAt state =
      (.ok written, left)) : Accounted state left := by
  obtain ⟨network, addresses, advanced, detail, networkAt, -, isNode, leaves⟩ :=
    registerUrlWrite_eq_ok ran
  refine leaves.accounted rfl
    (Table.changesOnly_replace networkAt (integrity.networkKeys _ _ networkAt).symm)
    Table.changesOnly_refl (Table.changesOnly_insert ⟨rfl, ?_⟩)
  rw [isNode]
  rfl

theorem Approved.accounted (integrity : state.Integrity config.externals) {nodeId : String}
    (approved : Approved draws state left nodeId) : Accounted state left := by
  cases approved with
  | already same =>
      rw [same]
      exact .refl state
  | now node detail nodeAt leaves =>
      apply leaves.accounted_nodeEdit nodeAt rfl rfl
      exact congrArg some (integrity.nodeKeys _ _ nodeAt)

theorem updateNodeWrite_accounted (integrity : state.Integrity config.externals)
    {nodeId : String} {request : UpdateNodeRequest} {info : NodeInfo}
    (ran : updateNodeWrite draws nodeId request state = (.ok info, left)) :
    Accounted state left := by
  obtain ⟨existing, network, node, nodeAt, networkAt, sameNetwork, outcome⟩ :=
    updateNodeWrite_eq_ok ran
  rcases outcome with ⟨unchanged, leaves⟩ | ⟨detail, leaves⟩
  · rw [unchanged, Table.replace_self nodeAt] at leaves
    refine .quiet ⟨leaves.version, ?_, ?_, ?_⟩ ?_
    · intro key
      rw [leaves.networks]
    · intro key
      rw [leaves.tokens]
    · intro key
      rw [leaves.nodes]
    · rw [leaves.auditLog, List.append_nil]
  · apply leaves.accounted_nodeEdit nodeAt sameNetwork
    · exact congrArg some (integrity.networkKeys _ _ networkAt)
    · exact congrArg some (integrity.nodeKeys _ _ nodeAt)

theorem heartbeatWrite_accounted {headers : Headers} {request : HeartbeatRequest}
    {result : Unit}
    (ran : heartbeatWrite config draws headers request state = (.ok result, left)) :
    Accounted state left := by
  obtain ⟨node, endpoints, routes, lastSeen, probeRequestedAt, nodeAt, leaves⟩ :=
    heartbeatWrite_eq_ok ran
  refine .quiet ⟨leaves.version, ?_, ?_, ?_⟩ ?_
  · intro key
    rw [leaves.networks]
  · intro key
    rw [leaves.tokens]
  · intro key
    rw [leaves.nodes, Table.lookup_replace_eq nodeAt]
    by_cases same : key = request.nodeId
    · rw [if_pos same, same, nodeAt]
      rfl
    · rw [if_neg same]
  · rw [leaves.auditLog, List.append_nil]

theorem deleteNodeWrite_accounted (integrity : state.Integrity config.externals)
    {nodeId result : String}
    (ran : deleteNodeWrite draws nodeId state = (.ok result, left)) :
    Accounted state left := by
  obtain ⟨node, detail, nodeAt, leaves⟩ := deleteNodeWrite_eq_ok ran
  refine leaves.accounted rfl Table.changesOnly_refl Table.changesOnly_refl ?_
  apply Table.changesOnly_erase
  intro old oldAt
  rw [nodeAt, Option.some.injEq] at oldAt
  subst oldAt
  exact ⟨congrArg some (integrity.nodeKeys _ _ nodeAt), rfl⟩

theorem rotateKeysWrite_accounted (integrity : state.Integrity config.externals)
    {headers : Headers} {nodeId : String} {request : KeyRotationRequest} {rotated : NodeState}
    (ran : rotateKeysWrite config draws headers nodeId request state = (.ok rotated, left)) :
    Accounted state left := by
  obtain ⟨node, machineRotated, bothRotated, detail, nodeAt, -, machine, wireGuard, isRotated,
    leaves⟩ := rotateKeysWrite_eq_ok ran
  have same := (rotateKey_sameIdentity machine).trans (rotateKey_sameIdentity wireGuard)
  subst isRotated
  apply leaves.accounted_nodeEdit nodeAt same.networkId rfl
  exact congrArg some (integrity.nodeKeys _ _ nodeAt)

theorem revokeNodeWrite_accounted (integrity : state.Integrity config.externals)
    {nodeId : String} {revoked : NodeState}
    (ran : revokeNodeWrite draws nodeId state = (.ok revoked, left)) :
    Accounted state left := by
  obtain ⟨node, detail, nodeAt, isRevoked, leaves⟩ := revokeNodeWrite_eq_ok ran
  subst isRevoked
  apply leaves.accounted_nodeEdit nodeAt rfl rfl
  exact congrArg some (integrity.nodeKeys _ _ nodeAt)

/-! ### Every request -/

theorem write_accounted {Result : Type} {closure : Handler Result} {result : Result}
    (ran : config.write draws closure state = (.ok result, left))
    (accounted : ∀ edited, closure state = (.ok result, edited) → Accounted state edited) :
    Accounted state left := by
  obtain ⟨edited, closureRan, bumped⟩ := Backend.write_eq_ok ran
  rw [bumped]
  exact (accounted edited closureRan).bump

theorem handle_accounted {call : Call} {response : Response}
    (integrity : state.Integrity config.externals)
    (ran : handle config call state = (.ok response, left)) : Accounted state left := by
  unfold handle at ran
  cases asked : call.request with
  | createNetwork request =>
      rw [asked] at ran
      obtain ⟨_, ran, -⟩ := Handler.respond_eq_ok ran
      obtain ⟨_, -, ran⟩ := check_eq_ok ran
      obtain ⟨_, -, ran⟩ := check_eq_ok ran
      obtain ⟨_, ran, -⟩ := Handler.respond_eq_ok ran
      exact write_accounted ran fun _ => createNetworkWrite_accounted
  | deleteNetwork networkId =>
      rw [asked] at ran
      obtain ⟨_, ran, -⟩ := Handler.respond_eq_ok ran
      obtain ⟨_, -, ran⟩ := check_eq_ok ran
      exact write_accounted ran fun _ => deleteNetworkWrite_accounted
  | createToken networkId request =>
      rw [asked] at ran
      obtain ⟨_, ran, -⟩ := Handler.respond_eq_ok ran
      obtain ⟨_, -, ran⟩ := check_eq_ok ran
      obtain ⟨_, ran, -⟩ := Handler.respond_eq_ok ran
      exact write_accounted ran fun _ => createTokenWrite_accounted
  | revokeToken tokenId =>
      rw [asked] at ran
      obtain ⟨_, ran, -⟩ := Handler.respond_eq_ok ran
      obtain ⟨_, -, ran⟩ := check_eq_ok ran
      obtain ⟨_, ran, -⟩ := Handler.respond_eq_ok ran
      exact write_accounted ran fun _ => revokeTokenWrite_accounted
  | register request =>
      rw [asked] at ran
      obtain ⟨_, ran, -⟩ := Handler.respond_eq_ok ran
      obtain ⟨_, -, ran⟩ := check_eq_ok ran
      obtain ⟨_, ran, -⟩ := Handler.andRead_eq_ok ran
      exact write_accounted ran fun _ => registerWrite_accounted integrity
  | registerUrl request =>
      rw [asked] at ran
      obtain ⟨_, ran, -⟩ := Handler.respond_eq_ok ran
      obtain ⟨_, -, ran⟩ := check_eq_ok ran
      obtain ⟨_, -, ran⟩ := check_eq_ok ran
      obtain ⟨_, ran, -⟩ := Handler.respond_eq_ok ran
      exact write_accounted ran fun _ => registerUrlWrite_accounted integrity
  | approveNodeSecret nodeId secret =>
      rw [asked] at ran
      obtain ⟨_, ran, -⟩ := Handler.respond_eq_ok ran
      obtain ⟨_, ran, -⟩ := Handler.respond_eq_ok ran
      exact write_accounted ran fun _ closureRan =>
        (approveNodeSecretWrite_eq_ok closureRan).accounted integrity
  | approveNode nodeId =>
      rw [asked] at ran
      obtain ⟨_, ran, -⟩ := Handler.respond_eq_ok ran
      obtain ⟨_, -, ran⟩ := check_eq_ok ran
      obtain ⟨_, ran, -⟩ := Handler.respond_eq_ok ran
      exact write_accounted ran fun _ closureRan =>
        (approveNodeWrite_eq_ok closureRan).accounted integrity
  | updateNode nodeId request =>
      rw [asked] at ran
      obtain ⟨_, ran, -⟩ := Handler.respond_eq_ok ran
      obtain ⟨_, -, ran⟩ := check_eq_ok ran
      obtain ⟨_, -, ran⟩ := check_eq_ok ran
      exact write_accounted ran fun _ => updateNodeWrite_accounted integrity
  | updateAcl networkId policy =>
      rw [asked] at ran
      obtain ⟨_, ran, -⟩ := Handler.respond_eq_ok ran
      obtain ⟨_, -, ran⟩ := check_eq_ok ran
      exact write_accounted ran fun _ => updateAclWrite_accounted integrity
  | updateKeyPolicy networkId policy =>
      rw [asked] at ran
      obtain ⟨_, ran, -⟩ := Handler.respond_eq_ok ran
      obtain ⟨_, -, ran⟩ := check_eq_ok ran
      exact write_accounted ran fun _ => updateKeyPolicyWrite_accounted integrity
  | rotateKeys nodeId request =>
      rw [asked] at ran
      obtain ⟨_, ran, -⟩ := Handler.respond_eq_ok ran
      obtain ⟨_, -, ran⟩ := check_eq_ok ran
      obtain ⟨_, ran, -⟩ := Handler.respond_eq_ok ran
      exact write_accounted ran fun _ => rotateKeysWrite_accounted integrity
  | revokeNode nodeId =>
      rw [asked] at ran
      obtain ⟨_, ran, -⟩ := Handler.respond_eq_ok ran
      obtain ⟨_, -, ran⟩ := check_eq_ok ran
      obtain ⟨_, ran, -⟩ := Handler.respond_eq_ok ran
      exact write_accounted ran fun _ => revokeNodeWrite_accounted integrity
  | deleteNode nodeId =>
      rw [asked] at ran
      obtain ⟨_, ran, -⟩ := Handler.respond_eq_ok ran
      obtain ⟨_, -, ran⟩ := check_eq_ok ran
      exact write_accounted ran fun _ => deleteNodeWrite_accounted integrity
  | heartbeat request =>
      rw [asked] at ran
      obtain ⟨_, ran, -⟩ := Handler.respond_eq_ok ran
      obtain ⟨_, ran, -⟩ := Handler.andRead_eq_ok ran
      exact write_accounted ran fun _ => heartbeatWrite_accounted
  | read route =>
      rw [asked] at ran
      rw [← (Prod.mk.inj ran).2]
      exact .refl state

end

theorem Transition.auditLog {config : Config} {call : Call} {before after : State}
    {made : Option NodeState} {granted : Option TokenState}
    (transition : Transition config call before after made granted) :
    before.auditLog <+: after.auditLog := by
  -- Every transition ends with what it leaves.
  cases transition
  all_goals
    rename_i leaves
    exact ⟨_, leaves.auditLog.symm⟩

/-- The log is permanent and complete: every request only appends to it, one that succeeds
appends one entry at most, and exactly one that names the network and the node concerned if
it has changed more than a heartbeat does. -/
theorem audit_permanent_and_complete (config : Config) (calls : List Call) (call : Call) :
    (run config calls).auditLog <+: (step config (run config calls) call).auditLog ∧
      ∀ response, (handle config call (run config calls)).1 = .ok response →
        ∃ entries,
          (step config (run config calls) call).auditLog =
            (run config calls).auditLog ++ entries ∧
          entries.length ≤ 1 ∧
          (¬ Quiet (run config calls) (step config (run config calls) call) →
            ∃ entry networkId, entries = [entry] ∧
              Concerns (run config calls) (step config (run config calls) call) entry
                networkId) := by
  refine ⟨(step_transition config (run config calls) call).auditLog, ?_⟩
  intro response succeeded
  have ran : handle config call (run config calls) =
      (.ok response, step config (run config calls) call) :=
    Prod.ext succeeded rfl
  cases handle_accounted (run_integrity config calls) ran with
  | quiet same log =>
      refine ⟨[], ?_, Nat.zero_le 1, ?_⟩
      · rw [log, List.append_nil]
      · intro changed
        exact absurd same changed
  | recorded entry networkId log concerns =>
      refine ⟨[entry], log, Nat.le_refl 1, ?_⟩
      intro _
      exact ⟨entry, networkId, rfl, concerns⟩

/-- A registration is told of by one entry, with its network and its node. -/
theorem sample_registration_audited :
    ∃ entry,
      (step sampleConfig (run sampleConfig [createSample 0])
        (registerSample 1 "a" "alpha")).auditLog =
        (run sampleConfig [createSample 0]).auditLog ++ [entry] ∧
      entry.networkId = some "net" ∧ entry.nodeId = some "a" := by
  have answered : (handle sampleConfig (registerSample 1 "a" "alpha")
      (run sampleConfig [createSample 0])).1.toOption.isSome = true := by
    decide +kernel
  have absent : (run sampleConfig [createSample 0]).nodes.lookup "a" = none := by
    decide +kernel
  have present : ((step sampleConfig (run sampleConfig [createSample 0])
      (registerSample 1 "a" "alpha")).nodes.lookup "a").map NodeState.networkId =
        some "net" := by
    decide +kernel
  obtain ⟨node, nodeAt, inNetwork⟩ := Option.map_eq_some_iff.mp present
  cases outcome : (handle sampleConfig (registerSample 1 "a" "alpha")
      (run sampleConfig [createSample 0])).1 with
  | error error =>
      rw [outcome] at answered
      cases answered
  | ok response =>
      obtain ⟨entries, log, -, complete⟩ :=
        (audit_permanent_and_complete sampleConfig [createSample 0]
          (registerSample 1 "a" "alpha")).2 response outcome
      obtain ⟨entry, networkId, only, concerns⟩ := complete fun quiet => by
        have same := quiet.nodes "a"
        rw [nodeAt, absent] at same
        cases same
      refine ⟨entry, only ▸ log, ?_⟩
      rcases concerns.nodes "a" with same | ⟨changed, isChanged, isNode, home⟩
      · rw [nodeAt, absent] at same
        cases same
      · rw [nodeAt] at isChanged
        cases isChanged
        refine ⟨?_, isNode⟩
        rw [concerns.named, ← home, inNetwork]

end Lightscale.ControlPlane
