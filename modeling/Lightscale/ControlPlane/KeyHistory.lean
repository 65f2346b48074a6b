/-
The key records of a node and its current keys.

Every key a node ever had keeps its record.  Replacing a key revokes the records of
the old one and adds a live record for the new one; revoking the node revokes the
records of both current keys.  A rotation lifts the revocation of the node even when
it replaces only one key, and then the other key is in use again while its record
stays revoked.
-/

import Lightscale.ControlPlane.Revocation

namespace Lightscale.ControlPlane

open Foundation

def liveRecords (history : List KeyRecord) (keyType : KeyType) : List KeyRecord :=
  history.filter (fun record => decide (record.keyType = keyType) && record.revokedAt.isNone)

theorem mem_liveRecords {history : List KeyRecord} {keyType : KeyType} {record : KeyRecord} :
    record ∈ liveRecords history keyType ↔
      record ∈ history ∧ record.keyType = keyType ∧ record.revokedAt = none := by
  unfold liveRecords
  rw [List.mem_filter, Bool.and_eq_true, decide_eq_true_eq, Option.isNone_iff_eq_none]

theorem liveRecords_append (left right : List KeyRecord) (keyType : KeyType) :
    liveRecords (left ++ right) keyType =
      liveRecords left keyType ++ liveRecords right keyType :=
  List.filter_append left right

/-! ### Revoking the records of one key -/

theorem liveRecords_revokeKeyRecord_self {history : List KeyRecord} {keyType : KeyType}
    {publicKey : String} {now : Int}
    (current : ∀ record ∈ liveRecords history keyType, record.publicKey = publicKey) :
    liveRecords (revokeKeyRecord history keyType publicKey now) keyType = [] := by
  rw [List.eq_nil_iff_forall_not_mem]
  intro record member
  obtain ⟨stored, sameType, unrevoked⟩ := mem_liveRecords.mp member
  obtain ⟨old, oldIn, isOld⟩ := List.mem_map.mp stored
  by_cases isRevoked : old.keyType = keyType ∧ old.publicKey = publicKey
  · rw [if_pos isRevoked] at isOld
    rw [← isOld] at unrevoked
    cases unrevoked
  · rw [if_neg isRevoked] at isOld
    subst isOld
    apply isRevoked
    exact ⟨sameType, current old (mem_liveRecords.mpr ⟨oldIn, sameType, unrevoked⟩)⟩

theorem liveRecords_revokeKeyRecord_other {keyType other : KeyType} (different : other ≠ keyType)
    (history : List KeyRecord) (publicKey : String) (now : Int) :
    liveRecords (revokeKeyRecord history keyType publicKey now) other =
      liveRecords history other := by
  induction history with
  | nil => rfl
  | cons record rest ih =>
      have tail : ((revokeKeyRecord rest keyType publicKey now).filter fun record =>
          decide (record.keyType = other) && record.revokedAt.isNone) =
          rest.filter fun record =>
            decide (record.keyType = other) && record.revokedAt.isNone := ih
      unfold liveRecords revokeKeyRecord at *
      rw [List.map_cons, List.filter_cons, List.filter_cons, tail]
      by_cases isRevoked : record.keyType = keyType ∧ record.publicKey = publicKey
      · have notOther : decide (record.keyType = other) = false := by
          rw [decide_eq_false_iff_not, isRevoked.1]
          exact different.symm
        rw [if_pos isRevoked]
        simp only [notOther, Bool.false_and, Bool.false_eq_true, if_false]
      · rw [if_neg isRevoked]

/-! ### One node -/

/-- A live record is for the current key of its type, and there is at most one. -/
structure RecordsTracked (node : NodeState) : Prop where
  current : ∀ keyType, ∀ record ∈ liveRecords node.keyHistory keyType,
    record.publicKey = node.publicKey keyType
  single : ∀ keyType, (liveRecords node.keyHistory keyType).length ≤ 1

def RecordsComplete (node : NodeState) : Prop :=
  ∀ keyType, liveRecords node.keyHistory keyType ≠ []

theorem currentKeyCreatedAt_ne_none {node : NodeState} (tracked : RecordsTracked node)
    (keyType : KeyType) :
    currentKeyCreatedAt node keyType ≠ none ↔ liveRecords node.keyHistory keyType ≠ [] := by
  unfold currentKeyCreatedAt
  rw [Ne, Option.map_eq_none_iff, List.find?_eq_none]
  constructor
  · intro found empty
    apply found
    intro record member accepted
    simp only [Bool.and_eq_true, decide_eq_true_eq, Option.isNone_iff_eq_none] at accepted
    have live := mem_liveRecords.mpr ⟨member, accepted.1.1, accepted.1.2⟩
    rw [empty] at live
    cases live
  · intro nonempty none
    obtain ⟨record, live⟩ := List.exists_mem_of_ne_nil _ nonempty
    obtain ⟨stored, sameType, unrevoked⟩ := mem_liveRecords.mp live
    apply none record stored
    simp only [Bool.and_eq_true, decide_eq_true_eq, Option.isNone_iff_eq_none]
    exact ⟨⟨sameType, unrevoked⟩, tracked.current keyType record live⟩

theorem RecordsTracked.congr {old new : NodeState} (tracked : RecordsTracked old)
    (sameKeys : ∀ keyType, new.publicKey keyType = old.publicKey keyType)
    (sameHistory : new.keyHistory = old.keyHistory) : RecordsTracked new := by
  constructor
  · intro keyType record live
    rw [sameHistory] at live
    rw [sameKeys]
    exact tracked.current keyType record live
  · intro keyType
    rw [sameHistory]
    exact tracked.single keyType

section

variable {keyType : KeyType} {newKey : Option String} {now : Int} {node rotated : NodeState}

theorem liveRecords_rotateKey_self (tracked : RecordsTracked node)
    (ran : rotateKey keyType newKey now node = .ok rotated) {key : String}
    (given : newKey = some key) :
    rotated.publicKey keyType = key ∧
      liveRecords rotated.keyHistory keyType =
        [{ keyType := keyType, publicKey := key, createdAt := now, revokedAt := none }] := by
  rcases rotateKey_ok ran with ⟨absent, _⟩ | ⟨added, isAdded, _, changed⟩
  · rw [given] at absent
    cases absent
  · rw [given, Option.some.injEq] at isAdded
    subst isAdded
    subst changed
    constructor
    · cases keyType with
      | machine => rfl
      | wireGuard => rfl
    · dsimp only
      rw [liveRecords_append, liveRecords_revokeKeyRecord_self (tracked.current keyType)]
      simp [liveRecords]

theorem liveRecords_rotateKey_other (ran : rotateKey keyType newKey now node = .ok rotated)
    {other : KeyType} (different : other ≠ keyType) :
    liveRecords rotated.keyHistory other = liveRecords node.keyHistory other := by
  rcases rotateKey_ok ran with ⟨_, same⟩ | ⟨key, _, _, changed⟩
  · rw [same]
  · subst changed
    dsimp only
    rw [liveRecords_append, liveRecords_revokeKeyRecord_other different]
    simp [liveRecords, different.symm]

theorem RecordsTracked.rotateKey (tracked : RecordsTracked node)
    (ran : rotateKey keyType newKey now node = .ok rotated) : RecordsTracked rotated := by
  cases given : newKey with
  | none =>
      rcases rotateKey_ok ran with ⟨_, same⟩ | ⟨key, isGiven, _, _⟩
      · rw [same]
        exact tracked
      · rw [given] at isGiven
        cases isGiven
  | some key =>
      obtain ⟨isCurrent, only⟩ := liveRecords_rotateKey_self tracked ran given
      constructor
      · intro other record live
        by_cases same : other = keyType
        · subst same
          rw [only, List.mem_singleton] at live
          rw [live, isCurrent]
        · rw [liveRecords_rotateKey_other ran same] at live
          rw [rotateKey_publicKey_other ran same]
          exact tracked.current other record live
      · intro other
        by_cases same : other = keyType
        · subst same
          rw [only]
          exact Nat.le_refl 1
        · rw [liveRecords_rotateKey_other ran same]
          exact tracked.single other

theorem liveRecords_rotateKey_ne_nil (tracked : RecordsTracked node)
    (ran : ControlPlane.rotateKey keyType newKey now node = .ok rotated) {other : KeyType}
    (live : (other = keyType ∧ newKey ≠ none) ∨ liveRecords node.keyHistory other ≠ []) :
    liveRecords rotated.keyHistory other ≠ [] := by
  cases given : newKey with
  | none =>
      rcases rotateKey_ok ran with ⟨_, same⟩ | ⟨key, isGiven, _, _⟩
      · rcases live with ⟨_, provided⟩ | before
        · exact absurd given provided
        · rw [same]
          exact before
      · rw [given] at isGiven
        cases isGiven
  | some key =>
      by_cases same : other = keyType
      · subst same
        rw [(liveRecords_rotateKey_self tracked ran given).2]
        exact List.cons_ne_nil _ _
      · rw [liveRecords_rotateKey_other ran same]
        rcases live with ⟨isType, _⟩ | before
        · exact absurd isType same
        · exact before

end

/-! ### One request -/

/-- The records of a node match its keys; a revoked node need not have live ones. -/
structure KeysMatch (node : NodeState) : Prop where
  tracked : RecordsTracked node
  complete : node.revokedAt = none → RecordsComplete node

/-- The request does not lift a revocation while a key that it leaves in place has no
live record. -/
def KeepsRecords (config : Config) (before : State) (call : Call) : Prop :=
  ∀ nodeId request node, LiftsRevocation config before call nodeId request node →
    ∀ keyType, request.newKey keyType = none → currentKeyCreatedAt node keyType ≠ none

theorem keysMatch_of_newNode {call : Call} {network : NetworkState} {ipv4 ipv6 : String}
    {node : NodeState} (new : NewNode call network ipv4 ipv6 node) : KeysMatch node := by
  have only : ∀ keyType, liveRecords node.keyHistory keyType =
      [{ keyType := keyType, publicKey := node.publicKey keyType, createdAt := call.draws.now,
         revokedAt := none }] := by
    intro keyType
    rw [new.keyHistory]
    cases keyType with
    | machine => rfl
    | wireGuard => rfl
  refine ⟨⟨?_, ?_⟩, ?_⟩
  · intro keyType record live
    rw [only, List.mem_singleton] at live
    rw [live]
  · intro keyType
    rw [only]
    exact Nat.le_refl 1
  · intro _ keyType
    rw [only]
    exact List.cons_ne_nil _ _

theorem recordsTracked_revoke {node : NodeState} (tracked : RecordsTracked node) (now : Int) :
    RecordsTracked (node.revoke now) := by
  have none : ∀ keyType, liveRecords (node.revoke now).keyHistory keyType = [] := by
    intro keyType
    unfold NodeState.revoke
    dsimp only
    cases keyType with
    | machine =>
        rw [liveRecords_revokeKeyRecord_other (by decide)]
        exact liveRecords_revokeKeyRecord_self (tracked.current .machine)
    | wireGuard =>
        apply liveRecords_revokeKeyRecord_self
        rw [liveRecords_revokeKeyRecord_other (by decide)]
        exact tracked.current .wireGuard
  constructor
  · intro keyType record live
    rw [none] at live
    cases live
  · intro keyType
    rw [none]
    exact Nat.zero_le 1

theorem NodeEdit.keysMatch {config : Config} {call : Call} {before : State} {nodeId : String}
    {node new : NodeState} (edit : NodeEdit config call before nodeId node new)
    (nodeAt : before.nodes.lookup nodeId = some node)
    (keeps : KeepsRecords config before call) (matched : KeysMatch node) : KeysMatch new := by
  -- Most edits touch neither the keys nor their records nor the revocation.
  have unchanged : ∀ edited : NodeState,
      edited.machinePublicKey = node.machinePublicKey → edited.wgPublicKey = node.wgPublicKey →
      edited.keyHistory = node.keyHistory → edited.revokedAt = node.revokedAt →
      KeysMatch edited := by
    intro edited sameMachine sameWg sameHistory sameRevoked
    refine ⟨matched.tracked.congr ?_ sameHistory, ?_⟩
    · intro keyType
      cases keyType with
      | machine => exact sameMachine
      | wireGuard => exact sameWg
    · intro unrevoked keyType
      rw [sameHistory]
      rw [sameRevoked] at unrevoked
      exact matched.complete unrevoked keyType
  cases edit with
  | approvedBySecret secret asked pending carried live => exact unchanged _ rfl rfl rfl rfl
  | approvedByAdmin asked admin pending isApplied => exact unchanged _ rfl rfl rfl rfl
  | updated request nextName asked admin named => exact unchanged _ rfl rfl rfl rfl
  | heartbeat request asked named allowed probeRequestedAt => exact unchanged _ rfl rfl rfl rfl
  | revoked asked admin =>
      refine ⟨recordsTracked_revoke matched.tracked call.draws.now, ?_⟩
      intro unrevoked
      cases unrevoked
  | rotatedPartly request machineRotated error asked allowed machine wireGuard notApplied =>
      refine ⟨matched.tracked.rotateKey machine, ?_⟩
      intro unrevoked keyType
      rw [rotateKey_revokedAt machine] at unrevoked
      exact liveRecords_rotateKey_ne_nil matched.tracked machine
        (Or.inr (matched.complete unrevoked keyType))
  | rotated request machineRotated bothRotated asked allowed provided machine wireGuard
      isApplied =>
      have machineTracked := matched.tracked.rotateKey machine
      refine ⟨(machineTracked.rotateKey wireGuard).congr (fun keyType => by cases keyType <;> rfl)
        rfl, ?_⟩
      intro _ keyType
      change liveRecords bothRotated.keyHistory keyType ≠ []
      apply liveRecords_rotateKey_ne_nil machineTracked wireGuard
      -- A key is replaced, or its record is live because of the condition.
      have before : request.newKey keyType = none → liveRecords node.keyHistory keyType ≠ [] := by
        intro notGiven
        by_cases unrevoked : node.revokedAt = none
        · exact matched.complete unrevoked keyType
        · have lifts := liftsRevocation_of_rotated nodeAt unrevoked asked allowed provided machine
            wireGuard isApplied
          exact (currentKeyCreatedAt_ne_none matched.tracked keyType).mp
            (keeps nodeId request node lifts keyType notGiven)
      by_cases isWireGuard : keyType = .wireGuard ∧ request.wgPublicKey ≠ none
      · exact Or.inl isWireGuard
      · refine Or.inr (liveRecords_rotateKey_ne_nil matched.tracked machine ?_)
        by_cases isMachine : keyType = .machine ∧ request.machinePublicKey ≠ none
        · exact Or.inl isMachine
        · refine Or.inr (before ?_)
          cases keyType with
          | machine => exact not_not.mp fun given => isMachine ⟨rfl, given⟩
          | wireGuard => exact not_not.mp fun given => isWireGuard ⟨rfl, given⟩

/-! ### Every run -/

theorem run_keysMatch {config : Config} {calls : List Call}
    (keeps : ∀ event ∈ history config calls, KeepsRecords config event.before event.input) :
    ∀ key node, (run config calls).nodes.lookup key = some node → KeysMatch node := by
  refine exec_invariant_when (step config) (KeepsRecords config)
    (fun state => ∀ key node, state.nodes.lookup key = some node → KeysMatch node) ?_
    State.default ?_ calls keeps
  · intro state call met matched
    refine (step_transition config state call).forall_nodes matched ?_ ?_
    · intro networkId network ipv4 ipv6 node tokens networkAt registration
      exact keysMatch_of_newNode registration.newNode
    · intro key node new nodeAt nodeMatched edit
      exact edit.keysMatch nodeAt met nodeMatched
  · intro key node nodeAt
    cases nodeAt

/-- In every run in which no rotation lifts a revocation and leaves a key without a live
record in place, an unrevoked node has exactly one live record of each type, for its
current key, and the key of every peer in a netmap has a live record. -/
theorem key_history_matches_live_keys (config : Config) (calls : List Call)
    (keeps : ∀ event ∈ history config calls, KeepsRecords config event.before event.input) :
    (∀ key node, (run config calls).nodes.lookup key = some node → node.revokedAt = none →
      ∀ keyType,
        (∃ record, liveRecords node.keyHistory keyType = [record] ∧
          record.publicKey = node.publicKey keyType) ∧
        currentKeyCreatedAt node keyType ≠ none) ∧
    ∀ viewerId relay now generatedAt netmap,
      buildNetmap (run config calls) viewerId relay now generatedAt = .ok netmap →
      ∀ peer ∈ netmap.peers, ∃ node record,
        (run config calls).nodes.lookup peer.id = some node ∧
        liveRecords node.keyHistory .wireGuard = [record] ∧
        record.publicKey = peer.wgPublicKey := by
  have unrevokedLive : ∀ key node, (run config calls).nodes.lookup key = some node →
      node.revokedAt = none → ∀ keyType,
        (∃ record, liveRecords node.keyHistory keyType = [record] ∧
          record.publicKey = node.publicKey keyType) ∧
        currentKeyCreatedAt node keyType ≠ none := by
    intro key node nodeAt unrevoked keyType
    have matched := run_keysMatch keeps key node nodeAt
    have nonempty := matched.complete unrevoked keyType
    refine ⟨?_, (currentKeyCreatedAt_ne_none matched.tracked keyType).mpr nonempty⟩
    have one : (liveRecords node.keyHistory keyType).length = 1 :=
      Nat.le_antisymm (matched.tracked.single keyType) (List.length_pos_of_ne_nil nonempty)
    obtain ⟨record, only⟩ := List.length_eq_one_iff.mp one
    refine ⟨record, only, matched.tracked.current keyType record ?_⟩
    rw [only]
    exact List.mem_cons_self
  refine ⟨unrevokedLive, ?_⟩
  intro viewerId relay now generatedAt netmap built peer member
  obtain ⟨viewer, network, viewerAt, networkAt, peersEq⟩ := buildNetmap_eq_ok built
  rw [peersEq] at member
  split at member
  · obtain ⟨key, shown, shownAt, _, status, _, _, peerEq⟩ := mem_collectPeers member
    have keyed := run_nodeKeyed config calls key shown shownAt
    obtain ⟨⟨record, only, isCurrent⟩, _⟩ := unrevokedLive key shown shownAt
      (effectiveNodeStatus_approved status).2 .wireGuard
    refine ⟨shown, record, ?_, only, ?_⟩
    · rw [peerEq]
      change (run config calls).nodes.lookup shown.id = some shown
      rw [keyed.id]
      exact shownAt
    · rw [isCurrent, peerEq]
      rfl
  · cases member

/-- The revoked node comes back with two new keys. -/
theorem sample_key_history_matches :
    ∃ node, (run sampleConfig (sampleRevokedCalls ++ [sampleOwnRotation])).nodes.lookup "a" =
      some node ∧ node.revokedAt = none ∧ currentKeyCreatedAt node .wireGuard ≠ none := by
  have revokedAt : ((run sampleConfig (sampleRevokedCalls ++ [sampleOwnRotation])).nodes.lookup
      "a").map NodeState.revokedAt = some none := by
    decide +kernel
  obtain ⟨node, nodeAt, unrevoked⟩ := Option.map_eq_some_iff.mp revokedAt
  refine ⟨node, nodeAt, unrevoked, ?_⟩
  refine ((key_history_matches_live_keys sampleConfig
    (sampleRevokedCalls ++ [sampleOwnRotation]) ?_).1 "a" node nodeAt unrevoked .wireGuard).2
  intro event member nodeId request old lifts keyType notGiven
  have asked := lifts.asked
  rw [event_of_sample_lifts member lifts] at asked
  -- The rotation brings both keys.
  cases asked
  cases keyType with
  | machine => cases notGiven
  | wireGuard => cases notGiven

def sampleHalfRotation : Call :=
  { nodeCall 4 "a" (.rotateKeys "a"
      { machinePublicKey := some "a-machine-2", wgPublicKey := none }) with
    draws := sampleDraws 4 "x" }

/-- The node is unrevoked and shown to the other node with a key whose only record is
revoked. -/
theorem revoked_key_served_after_half_rotation :
    ((run sampleConfig (sampleRevokedCalls ++ [sampleHalfRotation])).nodes.lookup "a").map
        (fun node => (node.revokedAt, liveRecords node.keyHistory .wireGuard,
          currentKeyCreatedAt node .wireGuard)) = some (none, [], none) ∧
      ((run sampleConfig (sampleRevokedCalls ++ [sampleHalfRotation])).nodes.lookup "a").map
        (fun node => (node.keyHistory.filter fun record =>
          decide (record.publicKey = node.wgPublicKey)).map KeyRecord.revokedAt) =
        some [some 3] ∧
      ((buildNetmap (run sampleConfig (sampleRevokedCalls ++ [sampleHalfRotation])) "b" none 5
        5).toOption.map fun netmap => netmap.peers.map fun peer => (peer.id, peer.wgPublicKey)) =
        ((run sampleConfig (sampleRevokedCalls ++ [sampleHalfRotation])).nodes.lookup "a").map
          fun node => [("a", node.wgPublicKey)] := by
  decide +kernel

end Lightscale.ControlPlane
