/-
How long a revocation lasts.

Only the admin can revoke, delete or edit a node, so without the admin token a
revoked node stays in place.  The one request that lifts the revocation is a key
rotation, and the node may send it under its own token.  A node is therefore still
revoked after a run without the admin token exactly when no rotation of its keys
took effect in that run.
-/

import Lightscale.ControlPlane.NodeChange

namespace Lightscale.ControlPlane

open Foundation

def rotationApplied (config : Config) (before : State) (call : Call) (nodeId : String) : Bool :=
  match call.request with
  | .rotateKeys target request =>
      decide (target = nodeId) &&
        (request.machinePublicKey.isSome || request.wgPublicKey.isSome) &&
        (config.backend.applied call.draws.stored
          (rotateKeysWrite config call.draws call.headers target request) before).isSome
  | _ => false

theorem rotationApplied_eq_true {config : Config} {before : State} {call : Call}
    {nodeId : String} (applied : rotationApplied config before call nodeId = true) :
    ∃ request, call.request = .rotateKeys nodeId request ∧
      (request.machinePublicKey.isNone && request.wgPublicKey.isNone) = false ∧
      (config.backend.applied call.draws.stored
        (rotateKeysWrite config call.draws call.headers nodeId request) before).isSome =
        true := by
  unfold rotationApplied at applied
  split at applied
  · rename_i target request asked
    simp only [Bool.and_eq_true, Bool.or_eq_true, decide_eq_true_eq] at applied
    obtain ⟨⟨same, provided⟩, isApplied⟩ := applied
    subst same
    refine ⟨request, asked, ?_, isApplied⟩
    rcases provided with machine | wireGuard
    · cases given : request.machinePublicKey with
      | none =>
          rw [given] at machine
          cases machine
      | some key => rfl
    · cases given : request.wgPublicKey with
      | none =>
          rw [given] at wireGuard
          cases wireGuard
      | some key => exact Bool.and_false _
  · cases applied

theorem rotationApplied_of_rotated {config : Config} {before : State} {call : Call}
    {nodeId : String} {request : KeyRotationRequest}
    (asked : call.request = .rotateKeys nodeId request)
    (provided : request.machinePublicKey ≠ none ∨ request.wgPublicKey ≠ none)
    (isApplied : (config.backend.applied call.draws.stored
      (rotateKeysWrite config call.draws call.headers nodeId request) before).isSome = true) :
    rotationApplied config before call nodeId = true := by
  have given : (request.machinePublicKey.isSome || request.wgPublicKey.isSome) = true := by
    rw [Bool.or_eq_true, Option.isSome_iff_ne_none, Option.isSome_iff_ne_none]
    exact provided
  simp only [rotationApplied, asked, decide_true, given, isApplied, Bool.and_self]

/-! ### One request -/

theorem rotateKey_revokedAt {keyType : KeyType} {newKey : Option String} {now : Int}
    {node rotated : NodeState} (ran : rotateKey keyType newKey now node = .ok rotated) :
    rotated.revokedAt = node.revokedAt := by
  rcases rotateKey_ok ran with ⟨_, same⟩ | ⟨key, _, _, changed⟩
  · rw [same]
  · rw [changed]
    cases keyType <;> rfl

theorem rotationApplied_unrevoked {config : Config} {before : State} {call : Call}
    {nodeId : String} (applied : rotationApplied config before call nodeId = true) :
    ∃ new, (step config before call).nodes.lookup nodeId = some new ∧
      new.revokedAt = none := by
  obtain ⟨request, asked, provided, isApplied⟩ := rotationApplied_eq_true applied
  have reached : (step config before call).nodes =
      (config.write call.draws
        (rotateKeysWrite config call.draws call.headers nodeId request) before).2.nodes := by
    simp only [step, handle, asked, Handler.respond_state, rotateKeys, check, provided,
      Bool.false_eq_true, if_false]
  obtain ⟨result, left, ran, bumped⟩ := Backend.write_of_applied isApplied
  obtain ⟨node, machineRotated, bothRotated, detail, nodeAt, -, -, -, isRotated, leaves⟩ :=
    rotateKeysWrite_eq_ok ran
  have nodes : (step config before call).nodes = before.nodes.replace nodeId result := by
    rw [reached]
    change (config.backend.write call.draws.stored
      (rotateKeysWrite config call.draws call.headers nodeId request) before).2.nodes = _
    rw [bumped, State.bump_nodes, leaves.nodes]
  refine ⟨result, ?_, ?_⟩
  · rw [nodes, Table.lookup_replace_eq nodeAt, if_pos rfl]
  · rw [isRotated]

theorem NodeEdit.revokedAt_of_plain {config : Config} {call : Call} {before : State}
    {nodeId : String} {node new : NodeState}
    (edit : NodeEdit config call before nodeId node new)
    (plain : requireAdmin call.headers config.adminToken ≠ .ok ())
    (notRotated : rotationApplied config before call nodeId = false) :
    new.revokedAt = node.revokedAt := by
  cases edit with
  | approvedBySecret secret asked pending carried live => rfl
  | approvedByAdmin asked admin pending isApplied => rfl
  | updated request nextName asked admin named => rfl
  | rotated request machineRotated bothRotated asked allowed provided machine wireGuard
      isApplied =>
      rw [rotationApplied_of_rotated asked provided isApplied] at notRotated
      cases notRotated
  | rotatedPartly request machineRotated error asked allowed machine wireGuard notApplied =>
      exact rotateKey_revokedAt machine
  | revoked asked admin => exact absurd admin plain
  | heartbeat request asked named allowed probeRequestedAt => rfl

theorem revokedAt_step {config : Config} {state : State} {call : Call} {nodeId : String}
    {node : NodeState} (nodeAt : state.nodes.lookup nodeId = some node)
    (plain : requireAdmin call.headers config.adminToken ≠ .ok ())
    (fresh : call.draws.nodeId ≠ nodeId) :
    ∃ new, (step config state call).nodes.lookup nodeId = some new ∧
      new.revokedAt =
        if rotationApplied config state call nodeId then none else node.revokedAt := by
  cases applied : rotationApplied config state call nodeId with
  | true => exact rotationApplied_unrevoked applied
  | false =>
      cases (step_transition config state call).nodeChange nodeId with
      | kept same => exact ⟨node, same.trans nodeAt, rfl⟩
      | registered other networkId network ipv4 ipv6 tokens isMade isKey networkAt
          registration otherAt =>
          exact absurd (registration.newNode.id.symm.trans isKey) fresh
      | edited old new oldAt edit newAt =>
          rw [nodeAt, Option.some.injEq] at oldAt
          subst oldAt
          exact ⟨new, newAt, edit.revokedAt_of_plain plain applied⟩
      | deleted asked admin gone => exact absurd admin plain

/-! ### What lifts a revocation -/

def KeyRotationRequest.newKey (request : KeyRotationRequest) : KeyType → Option String
  | .machine => request.machinePublicKey
  | .wireGuard => request.wgPublicKey

/-- The request is a rotation of a revoked node that passes the handler's checks and whose
result is kept. -/
structure LiftsRevocation (config : Config) (before : State) (call : Call) (nodeId : String)
    (request : KeyRotationRequest) (node : NodeState) : Prop where
  asked : call.request = .rotateKeys nodeId request
  nodeAt : before.nodes.lookup nodeId = some node
  isRevoked : node.revokedAt ≠ none
  allowed : requireNode call.headers config.adminToken node = .ok ()
  provided : request.machinePublicKey ≠ none ∨ request.wgPublicKey ≠ none
  changed : ∀ keyType, request.newKey keyType ≠ some (node.publicKey keyType)
  stored : config.backend = .file ∨ call.draws.stored = true

theorem rotateKey_publicKey_other {keyType other : KeyType} {newKey : Option String} {now : Int}
    {node rotated : NodeState} (ran : rotateKey keyType newKey now node = .ok rotated)
    (different : other ≠ keyType) : rotated.publicKey other = node.publicKey other := by
  rcases rotateKey_ok ran with ⟨_, same⟩ | ⟨key, _, _, changed⟩
  · rw [same]
  · rw [changed]
    cases keyType with
    | machine =>
        cases other with
        | machine => exact absurd rfl different
        | wireGuard => rfl
    | wireGuard =>
        cases other with
        | machine => rfl
        | wireGuard => exact absurd rfl different

theorem rotateKey_newKey_ne {keyType : KeyType} {newKey : Option String} {now : Int}
    {node rotated : NodeState} (ran : rotateKey keyType newKey now node = .ok rotated) :
    newKey ≠ some (node.publicKey keyType) := by
  rcases rotateKey_ok ran with ⟨absent, _⟩ | ⟨key, given, different, _⟩
  · rw [absent]
    exact (Option.some_ne_none _).symm
  · rw [given]
    intro same
    exact different (Option.some.inj same).symm

theorem liftsRevocation_of_rotated {config : Config} {before : State} {call : Call}
    {nodeId : String} {request : KeyRotationRequest} {node machineRotated bothRotated : NodeState}
    (nodeAt : before.nodes.lookup nodeId = some node) (isRevoked : node.revokedAt ≠ none)
    (asked : call.request = .rotateKeys nodeId request)
    (allowed : requireNode call.headers config.adminToken node = .ok ())
    (provided : request.machinePublicKey ≠ none ∨ request.wgPublicKey ≠ none)
    (machine : rotateKey .machine request.machinePublicKey call.draws.now node =
      .ok machineRotated)
    (wireGuard : rotateKey .wireGuard request.wgPublicKey call.draws.now machineRotated =
      .ok bothRotated)
    (isApplied : (config.backend.applied call.draws.stored
      (rotateKeysWrite config call.draws call.headers nodeId request) before).isSome = true) :
    LiftsRevocation config before call nodeId request node := by
  refine ⟨asked, nodeAt, isRevoked, allowed, provided, ?_,
    Backend.kept_of_applied isApplied⟩
  intro keyType
  cases keyType with
  | machine => exact rotateKey_newKey_ne machine
  | wireGuard =>
      have sameKey : machineRotated.publicKey .wireGuard = node.publicKey .wireGuard :=
        rotateKey_publicKey_other machine (by decide)
      rw [← sameKey]
      exact rotateKey_newKey_ne wireGuard

theorem NodeEdit.liftsRevocation {config : Config} {call : Call} {before : State}
    {nodeId : String} {node new : NodeState}
    (edit : NodeEdit config call before nodeId node new)
    (nodeAt : before.nodes.lookup nodeId = some node) (isRevoked : node.revokedAt ≠ none)
    (lifted : new.revokedAt = none) :
    ∃ request, LiftsRevocation config before call nodeId request node := by
  cases edit with
  | approvedBySecret secret asked pending carried live => exact absurd lifted isRevoked
  | approvedByAdmin asked admin pending isApplied => exact absurd lifted isRevoked
  | updated request nextName asked admin named => exact absurd lifted isRevoked
  | rotated request machineRotated bothRotated asked allowed provided machine wireGuard
      isApplied =>
      exact ⟨request, liftsRevocation_of_rotated nodeAt isRevoked asked allowed provided machine
        wireGuard isApplied⟩
  | rotatedPartly request machineRotated error asked allowed machine wireGuard notApplied =>
      rw [rotateKey_revokedAt machine] at lifted
      exact absurd lifted isRevoked
  | revoked asked admin => cases lifted
  | heartbeat request asked named allowed probeRequestedAt => exact absurd lifted isRevoked

/-! ### Any number of requests -/

def rotatedDuring (config : Config) (state : State) (calls : List Call) (nodeId : String) :
    Bool :=
  (trace (step config) state calls).any
    (fun event => rotationApplied config event.before event.input nodeId)

theorem revokedAt_exec {config : Config} {nodeId : String} (later : List Call)
    (plain : ∀ call ∈ later, requireAdmin call.headers config.adminToken ≠ .ok ())
    (fresh : ∀ call ∈ later, call.draws.nodeId ≠ nodeId) (state : State) (node : NodeState)
    (nodeAt : state.nodes.lookup nodeId = some node) :
    ∃ final, (exec (step config) state later).nodes.lookup nodeId = some final ∧
      final.revokedAt =
        if rotatedDuring config state later nodeId then none else node.revokedAt := by
  induction later generalizing state node with
  | nil => exact ⟨node, nodeAt, rfl⟩
  | cons call rest ih =>
      obtain ⟨new, newAt, newRevoked⟩ := revokedAt_step nodeAt
        (plain call List.mem_cons_self) (fresh call List.mem_cons_self)
      obtain ⟨final, finalAt, finalRevoked⟩ := ih
        (fun other member => plain other (List.mem_cons_of_mem call member))
        (fun other member => fresh other (List.mem_cons_of_mem call member))
        (step config state call) new newAt
      refine ⟨final, finalAt, ?_⟩
      change final.revokedAt =
        if (rotationApplied config state call nodeId ||
          rotatedDuring config (step config state call) rest nodeId) then none
        else node.revokedAt
      rw [finalRevoked, newRevoked]
      cases rotationApplied config state call nodeId <;>
        cases rotatedDuring config (step config state call) rest nodeId <;> rfl

/-! ### What a revoked node is shown, and who is shown it -/

theorem netmap_omits_revoked {config : Config} {calls : List Call} {nodeId : String}
    {node : NodeState} (nodeAt : (run config calls).nodes.lookup nodeId = some node)
    (isRevoked : node.revokedAt ≠ none) {otherId : String} {relay : Option RelayConfig}
    {now generatedAt : Int} {netmap : NetMap}
    (built : buildNetmap (run config calls) otherId relay now generatedAt = .ok netmap) :
    ∀ peer ∈ netmap.peers, peer.id ≠ nodeId := by
  intro peer member samePeer
  obtain ⟨viewer, network, viewerAt, networkAt, peersEq⟩ := buildNetmap_eq_ok built
  rw [peersEq] at member
  split at member
  · obtain ⟨key, shown, shownAt, _, status, _, _, peerEq⟩ := mem_collectPeers member
    have keyed := run_nodeKeyed config calls key shown shownAt
    have sameKey : key = nodeId := by
      rw [← keyed.id, ← samePeer, peerEq]
      rfl
    rw [sameKey, nodeAt, Option.some.injEq] at shownAt
    subst shownAt
    exact isRevoked (effectiveNodeStatus_approved status).2
  · cases member

theorem netmap_of_revoked_empty {state : State} {nodeId : String} {node : NodeState}
    (nodeAt : state.nodes.lookup nodeId = some node) (isRevoked : node.revokedAt ≠ none)
    {relay : Option RelayConfig} {now generatedAt : Int} {netmap : NetMap}
    (built : buildNetmap state nodeId relay now generatedAt = .ok netmap) :
    netmap.peers = [] := by
  obtain ⟨viewer, network, viewerAt, networkAt, peersEq⟩ := buildNetmap_eq_ok built
  rw [nodeAt, Option.some.injEq] at viewerAt
  subst viewerAt
  rw [peersEq]
  cases status : (effectiveNodeStatus node network.keyPolicy now).1 with
  | true => exact absurd (effectiveNodeStatus_approved status).2 isRevoked
  | false => rfl

/-- Without the admin token a revoked node stays stored, it is still revoked exactly
when no rotation of its keys took effect, and while it is revoked no netmap shows it
and its own netmap shows nobody. -/
theorem revoked_iff_not_rotated (config : Config) (adminToken : String)
    (configured : config.adminToken = some adminToken) (earlier later : List Call)
    (nodeId : String) (node : NodeState)
    (nodeAt : (run config earlier).nodes.lookup nodeId = some node)
    (isRevoked : node.revokedAt ≠ none)
    (plain : ∀ call ∈ later, bearerToken call.headers ≠ some adminToken)
    (fresh : ∀ call ∈ later, call.draws.nodeId ≠ nodeId) :
    ∃ final, (run config (earlier ++ later)).nodes.lookup nodeId = some final ∧
      (final.revokedAt ≠ none ↔
        ∀ event ∈ trace (step config) (run config earlier) later,
          rotationApplied config event.before event.input nodeId = false) ∧
      (final.revokedAt ≠ none →
        (∀ otherId relay now generatedAt netmap,
          buildNetmap (run config (earlier ++ later)) otherId relay now generatedAt =
            .ok netmap → ∀ peer ∈ netmap.peers, peer.id ≠ nodeId) ∧
        ∀ relay now generatedAt netmap,
          buildNetmap (run config (earlier ++ later)) nodeId relay now generatedAt =
            .ok netmap → netmap.peers = []) := by
  have refused : ∀ call ∈ later, requireAdmin call.headers config.adminToken ≠ .ok () := by
    intro call member
    rw [configured]
    exact requireAdmin_ne_ok (plain call member)
  obtain ⟨final, finalAt, finalRevoked⟩ :=
    revokedAt_exec later refused fresh (run config earlier) node nodeAt
  have reached : (run config (earlier ++ later)).nodes.lookup nodeId = some final := by
    unfold run
    rw [exec_append]
    exact finalAt
  refine ⟨final, reached, ?_, ?_⟩
  · rw [finalRevoked]
    cases rotated : rotatedDuring config (run config earlier) later nodeId with
    | true =>
        obtain ⟨event, member, applied⟩ := List.any_eq_true.mp rotated
        refine iff_of_false (fun different => different rfl) ?_
        intro never
        rw [never event member] at applied
        cases applied
    | false =>
        refine iff_of_true isRevoked ?_
        intro event member
        exact Bool.eq_false_iff.mpr (List.any_eq_false.mp rotated event member)
  · intro stillRevoked
    constructor
    · intro otherId relay now generatedAt netmap built
      exact netmap_omits_revoked reached stillRevoked built
    · intro relay now generatedAt netmap built
      exact netmap_of_revoked_empty reached stillRevoked built

def sampleRevokedCalls : List Call :=
  [createSample 0, registerSample 1 "a" "alpha", registerSample 2 "b" "beta",
    adminCall 3 "x" (.revokeNode "a")]

def sampleOwnRotation : Call :=
  { nodeCall 4 "a" (.rotateKeys "a"
      { machinePublicKey := some "a-machine-2", wgPublicKey := some "a-wg-2" }) with
    draws := sampleDraws 4 "x" }

def sampleHeartbeat : Call :=
  { nodeCall 4 "a" (.heartbeat
      { nodeId := "a", endpoints := [], listenPort := none, routes := [], probe := none }) with
    draws := sampleDraws 4 "x" }

/-- A heartbeat under its own token does not bring the revoked node back. -/
theorem sample_revoked_after_heartbeat :
    ∃ final, (run sampleConfig (sampleRevokedCalls ++ [sampleHeartbeat])).nodes.lookup "a" =
      some final ∧ final.revokedAt ≠ none := by
  have revokedAt : ((run sampleConfig sampleRevokedCalls).nodes.lookup "a").map
      NodeState.revokedAt = some (some 3) := by
    decide +kernel
  obtain ⟨node, nodeAt, isRevoked⟩ := Option.map_eq_some_iff.mp revokedAt
  obtain ⟨final, finalAt, still, _⟩ := revoked_iff_not_rotated sampleConfig "root" rfl
    sampleRevokedCalls [sampleHeartbeat] "a" node nodeAt
    (by rw [isRevoked]; exact Option.some_ne_none 3)
    (by
      intro call member
      rw [List.mem_singleton.mp member]
      decide +kernel)
    (by
      intro call member
      rw [List.mem_singleton.mp member]
      decide +kernel)
  refine ⟨final, finalAt, still.mpr ?_⟩
  intro event member
  rw [List.mem_singleton.mp member]
  rfl

/-- A revoked node comes back by rotating its own keys, without the admin token. -/
theorem revocation_lifted_by_own_rotation :
    ((run sampleConfig sampleRevokedCalls).nodes.lookup "a").map NodeState.revokedAt =
      some (some 3) ∧
    bearerToken sampleOwnRotation.headers ≠ some "root" ∧
    ((run sampleConfig (sampleRevokedCalls ++ [sampleOwnRotation])).nodes.lookup "a").map
      NodeState.revokedAt = some none ∧
    ((buildNetmap (run sampleConfig (sampleRevokedCalls ++ [sampleOwnRotation])) "b" none 5
      5).toOption.map fun netmap => netmap.peers.map PeerInfo.id) = some ["a"] ∧
    ((buildNetmap (run sampleConfig (sampleRevokedCalls ++ [sampleOwnRotation])) "a" none 5
      5).toOption.map fun netmap => netmap.peers.map PeerInfo.id) = some ["b"] := by
  decide +kernel

theorem event_of_sample_lifts {event : Event State Call} {nodeId : String}
    {request : KeyRotationRequest} {node : NodeState}
    (member : event ∈ history sampleConfig (sampleRevokedCalls ++ [sampleOwnRotation]))
    (lifts : LiftsRevocation sampleConfig event.before event.input nodeId request node) :
    event = eventAt (step sampleConfig) (run sampleConfig sampleRevokedCalls)
      sampleOwnRotation := by
  unfold history at member
  rw [trace_snoc] at member
  rcases List.mem_append.mp member with earlier | isLast
  · have isCall := List.mem_map_of_mem (f := Event.input) earlier
    rw [map_input_trace] at isCall
    have asked := lifts.asked
    simp only [sampleRevokedCalls, List.mem_cons, List.not_mem_nil, or_false] at isCall
    rcases isCall with isCall | isCall | isCall | isCall
    · rw [isCall] at asked
      cases asked
    · rw [isCall] at asked
      cases asked
    · rw [isCall] at asked
      cases asked
    · rw [isCall] at asked
      cases asked
  · exact List.mem_singleton.mp isLast

end Lightscale.ControlPlane
