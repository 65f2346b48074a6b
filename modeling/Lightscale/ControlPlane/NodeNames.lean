/-
The names of the nodes of one network.

A name is checked when a node registers and when it is renamed, against the nodes
that are not revoked at that moment.  A key rotation takes a node out of its
revocation without a check, and in the meantime another node may have taken the
name.
-/

import Lightscale.ControlPlane.Revocation

namespace Lightscale.ControlPlane

open Foundation

/-- Two nodes that may be stored together: in one network, both unrevoked, they have
different names up to ASCII case. -/
def NamesDiffer (left right : NodeState) : Prop :=
  left.networkId = right.networkId → left.revokedAt = none → right.revokedAt = none →
    eqIgnoreAsciiCase left.name right.name = false

theorem eqIgnoreAsciiCase_comm (left right : String) :
    eqIgnoreAsciiCase left right = eqIgnoreAsciiCase right left := by
  unfold eqIgnoreAsciiCase
  exact BEq.comm

theorem NamesDiffer.symm {left right : NodeState} (differ : NamesDiffer left right) :
    NamesDiffer right left := by
  intro sameNetwork rightUnrevoked leftUnrevoked
  rw [eqIgnoreAsciiCase_comm]
  exact differ sameNetwork.symm leftUnrevoked rightUnrevoked

theorem ensureUniqueNodeName_ok {state : State} {networkId name : String}
    {excludeNodeId : Option String}
    (passed : ensureUniqueNodeName state networkId name excludeNodeId = .ok ()) {key : String}
    {node : NodeState} (nodeAt : state.nodes.lookup key = some node)
    (sameNetwork : node.networkId = networkId) (unrevoked : node.revokedAt = none)
    (notExcluded : excludeNodeId ≠ some node.id) :
    eqIgnoreAsciiCase node.name name = false := by
  unfold ensureUniqueNodeName at passed
  split at passed
  · cases passed
  · rename_i free
    have stored := (Table.mem_values_iff state.nodes node).mpr ⟨key, nodeAt⟩
    have notTaken := List.any_eq_false.mp (Bool.eq_false_iff.mpr free) node stored
    simp only [nameTaken, sameNetwork, unrevoked, Option.isNone_none, notExcluded, ne_eq,
      not_false_eq_true, decide_true, Bool.true_and, Bool.not_eq_true] at notTaken
    exact notTaken

/-- The request does not lift the revocation of a node whose name has been taken. -/
def KeepsNames (config : Config) (before : State) (call : Call) : Prop :=
  ∀ nodeId request node, LiftsRevocation config before call nodeId request node →
    ensureUniqueNodeName before node.networkId node.name (some node.id) = .ok ()

/-! ### One request -/

theorem Registration.namesDiffer {call : Call} {before : State} {networkId : String}
    {network : NetworkState} {ipv4 ipv6 : String} {node : NodeState}
    {tokens : Table String TokenState}
    (registration : Registration call before networkId network ipv4 ipv6 node tokens)
    (keyed : network.id = networkId) {key : String} {other : NodeState}
    (otherAt : before.nodes.lookup key = some other) : NamesDiffer node other := by
  have unique : ensureUniqueNodeName before networkId node.name none = .ok () := by
    cases registration with
    | byToken request nodeName token asked named tokenAt sameNetwork live unrevoked usable
        unique =>
        exact unique
    | byUrl request nodeName expiresAt asked named expiry sameNetwork unique => exact unique
  intro sameNetwork _ otherUnrevoked
  rw [eqIgnoreAsciiCase_comm]
  refine ensureUniqueNodeName_ok unique otherAt ?_ otherUnrevoked (Option.some_ne_none _).symm
  rw [← sameNetwork, registration.newNode.networkId, keyed]

theorem normalizeNodeName_ok {name normalized : String}
    (ran : normalizeNodeName name = .ok normalized) :
    normalized = trim name ∧ normalized ≠ "" := by
  unfold normalizeNodeName at ran
  split at ran
  · cases ran
  · rename_i notEmpty
    cases ran
    exact ⟨rfl, notEmpty⟩

theorem nextNodeName_ok {state : State} {existing : NodeState} {name nextName : Option String}
    (ran : nextNodeName state existing name = .ok nextName) :
    nextName = none ∨
      ∃ given, name = some given ∧ nextName = some (trim given) ∧ trim given ≠ "" ∧
        ensureUniqueNodeName state existing.networkId (trim given) (some existing.id) =
          .ok () := by
  cases name with
  | none =>
      cases ran
      exact Or.inl rfl
  | some given =>
      unfold nextNodeName at ran
      dsimp only at ran
      cases normal : normalizeNodeName given with
      | error error =>
          rw [normal] at ran
          cases ran
      | ok normalized =>
          rw [normal] at ran
          dsimp only at ran
          by_cases unchanged : normalized = existing.name
          · rw [if_pos unchanged] at ran
            cases ran
            exact Or.inl rfl
          · rw [if_neg unchanged] at ran
            cases checked : ensureUniqueNodeName state existing.networkId normalized
                (some existing.id) with
            | error error =>
                rw [checked] at ran
                cases ran
            | ok _ =>
                rw [checked] at ran
                cases ran
                obtain ⟨isTrimmed, notEmpty⟩ := normalizeNodeName_ok normal
                subst isTrimmed
                exact Or.inr ⟨given, rfl, rfl, notEmpty, checked⟩

theorem rotateKey_name {keyType : KeyType} {newKey : Option String} {now : Int}
    {node rotated : NodeState} (ran : rotateKey keyType newKey now node = .ok rotated) :
    rotated.name = node.name := by
  rcases rotateKey_ok ran with ⟨_, same⟩ | ⟨key, _, _, changed⟩
  · rw [same]
  · rw [changed]
    cases keyType <;> rfl

theorem NodeEdit.name {config : Config} {call : Call} {before : State} {nodeId : String}
    {node new : NodeState} (edit : NodeEdit config call before nodeId node new) :
    new.name = node.name ∨
      new.revokedAt = node.revokedAt ∧
        ensureUniqueNodeName before node.networkId new.name (some node.id) = .ok () := by
  cases edit with
  | approvedBySecret secret asked pending carried live => exact Or.inl rfl
  | approvedByAdmin asked admin pending isApplied => exact Or.inl rfl
  | updated request nextName asked admin named =>
      rcases nextNodeName_ok named with unchanged | ⟨given, -, isName, -, unique⟩
      · rw [unchanged]
        exact Or.inl rfl
      · rw [isName]
        exact Or.inr ⟨rfl, unique⟩
  | rotated request machineRotated bothRotated asked allowed provided machine wireGuard
      isApplied =>
      exact Or.inl ((rotateKey_name wireGuard).trans (rotateKey_name machine))
  | rotatedPartly request machineRotated error asked allowed machine wireGuard notApplied =>
      exact Or.inl (rotateKey_name machine)
  | revoked asked admin => exact Or.inl rfl
  | heartbeat request asked named allowed probeRequestedAt => exact Or.inl rfl

theorem NodeEdit.namesDiffer {config : Config} {call : Call} {before : State} {nodeId : String}
    {node new : NodeState} (edit : NodeEdit config call before nodeId node new)
    (nodeAt : before.nodes.lookup nodeId = some node) (keeps : KeepsNames config before call)
    (keyed : ∀ key node, before.nodes.lookup key = some node → NodeKeyed key node)
    {key : String} {other : NodeState} (otherAt : before.nodes.lookup key = some other)
    (different : key ≠ nodeId) (differ : NamesDiffer node other) : NamesDiffer new other := by
  have notSelf : some node.id ≠ some other.id := by
    rw [(keyed nodeId node nodeAt).id, (keyed key other otherAt).id]
    intro same
    exact different (Option.some.inj same).symm
  have ofCheck : ∀ name, ensureUniqueNodeName before node.networkId name (some node.id) = .ok () →
      other.networkId = node.networkId → other.revokedAt = none →
      eqIgnoreAsciiCase name other.name = false := by
    intro name unique sameNetwork otherUnrevoked
    rw [eqIgnoreAsciiCase_comm]
    exact ensureUniqueNodeName_ok unique otherAt sameNetwork otherUnrevoked notSelf
  intro sameNetwork newUnrevoked otherUnrevoked
  rw [edit.sameIdentity.networkId] at sameNetwork
  rcases edit.name with sameName | ⟨_, unique⟩
  · rw [sameName]
    by_cases unrevoked : node.revokedAt = none
    · exact differ sameNetwork unrevoked otherUnrevoked
    · -- The node comes back under the name it had.
      obtain ⟨request, lifts⟩ := edit.liftsRevocation nodeAt unrevoked newUnrevoked
      exact ofCheck node.name (keeps nodeId request node lifts) sameNetwork.symm otherUnrevoked
  · exact ofCheck new.name unique sameNetwork.symm otherUnrevoked

/-! ### Every run -/

structure NameInvariant (state : State) : Prop where
  nodesKeyed : ∀ key node, state.nodes.lookup key = some node → NodeKeyed key node
  networksKeyed : ∀ key network, state.networks.lookup key = some network → network.id = key
  unique : ∀ leftKey left, state.nodes.lookup leftKey = some left →
    ∀ rightKey right, state.nodes.lookup rightKey = some right → leftKey ≠ rightKey →
      NamesDiffer left right

theorem nameInvariant_empty : NameInvariant State.default := by
  refine ⟨?_, ?_, ?_⟩
  · intro key node nodeAt
    cases nodeAt
  · intro key network networkAt
    cases networkAt
  · intro leftKey left leftAt
    cases leftAt

theorem Transition.namesUnique {config : Config} {call : Call} {before after : State}
    {made : Option NodeState} {granted : Option TokenState}
    (transition : Transition config call before after made granted)
    (keeps : KeepsNames config before call) (inv : NameInvariant before) :
    ∀ leftKey left, after.nodes.lookup leftKey = some left →
      ∀ rightKey right, after.nodes.lookup rightKey = some right → leftKey ≠ rightKey →
        NamesDiffer left right := by
  cases transition with
  | idle leaves =>
      rw [leaves.nodes]
      exact inv.unique
  | networkCreated request planned _ entry asked admin plan absent apart grant leaves =>
      rw [leaves.nodes]
      exact inv.unique
  | networkDeleted networkId network entry asked admin networkAt empty leaves =>
      rw [leaves.nodes]
      exact inv.unique
  | networkEdited networkId network edited entries networkAt edit leaves =>
      rw [leaves.nodes]
      exact inv.unique
  | tokenCreated networkId request network token entry asked admin networkAt grant leaves =>
      rw [leaves.nodes]
      exact inv.unique
  | tokenRevoked tokenId token entry asked admin tokenAt leaves =>
      rw [leaves.nodes]
      exact inv.unique
  | nodeRegistered networkId network advanced ipv4 ipv6 node tokens entry networkAt allocated
      registration leaves =>
      rw [leaves.nodes]
      refine Table.forall_pairs_insert (fun _ _ => NamesDiffer.symm) inv.unique ?_
      intro key other otherAt _
      exact registration.namesDiffer (inv.networksKeyed networkId network networkAt) otherAt
  | nodeEdited nodeId node edited entries nodeAt edit leaves =>
      rw [leaves.nodes]
      refine Table.forall_pairs_replace nodeAt (fun _ _ => NamesDiffer.symm) inv.unique ?_
      intro key other otherAt different
      exact edit.namesDiffer nodeAt keeps inv.nodesKeyed otherAt different
        (inv.unique nodeId node nodeAt key other otherAt different.symm)
  | nodeDeleted nodeId node entry asked admin nodeAt leaves =>
      rw [leaves.nodes]
      exact Table.forall_pairs_erase inv.unique

/-- In every run in which no rotation lifts the revocation of a node whose name has been
taken, two unrevoked nodes of one network have names that differ up to ASCII case. -/
theorem node_names_unique (config : Config) (calls : List Call)
    (keeps : ∀ event ∈ history config calls, KeepsNames config event.before event.input) :
    ∀ leftKey left, (run config calls).nodes.lookup leftKey = some left →
      ∀ rightKey right, (run config calls).nodes.lookup rightKey = some right →
        leftKey ≠ rightKey → left.networkId = right.networkId → left.revokedAt = none →
        right.revokedAt = none → eqIgnoreAsciiCase left.name right.name = false := by
  have inv : NameInvariant (run config calls) := by
    refine exec_invariant_when (step config) (KeepsNames config) NameInvariant ?_ State.default
      nameInvariant_empty calls keeps
    intro state call met inv
    have transition := step_transition config state call
    exact ⟨transition.nodeKeyed inv.nodesKeyed, transition.networkKeyed inv.networksKeyed,
      transition.namesUnique met inv⟩
  exact inv.unique

/-- The revoked node comes back under its own name, which nobody has taken. -/
theorem sample_node_names_unique :
    ∃ left right,
      (run sampleConfig (sampleRevokedCalls ++ [sampleOwnRotation])).nodes.lookup "a" =
        some left ∧
      (run sampleConfig (sampleRevokedCalls ++ [sampleOwnRotation])).nodes.lookup "b" =
        some right ∧
      left.revokedAt = none ∧ eqIgnoreAsciiCase left.name right.name = false := by
  have stored : ((run sampleConfig (sampleRevokedCalls ++ [sampleOwnRotation])).nodes.lookup
        "a").map (fun node => (node.networkId, node.revokedAt)) = some ("net", none) ∧
      ((run sampleConfig (sampleRevokedCalls ++ [sampleOwnRotation])).nodes.lookup
        "b").map (fun node => (node.networkId, node.revokedAt)) = some ("net", none) := by
    decide +kernel
  obtain ⟨left, leftAt, leftFields⟩ := Option.map_eq_some_iff.mp stored.1
  obtain ⟨right, rightAt, rightFields⟩ := Option.map_eq_some_iff.mp stored.2
  obtain ⟨leftNetwork, leftUnrevoked⟩ := Prod.mk.inj leftFields
  obtain ⟨rightNetwork, rightUnrevoked⟩ := Prod.mk.inj rightFields
  refine ⟨left, right, leftAt, rightAt, leftUnrevoked, ?_⟩
  refine node_names_unique sampleConfig (sampleRevokedCalls ++ [sampleOwnRotation]) ?_ "a" left
    leftAt "b" right rightAt (by decide) (leftNetwork.trans rightNetwork.symm) leftUnrevoked
    rightUnrevoked
  intro event member nodeId request node lifts
  have nodeAt := lifts.nodeAt
  have asked := lifts.asked
  rw [event_of_sample_lifts member lifts] at asked nodeAt ⊢
  cases asked
  change ensureUniqueNodeName (run sampleConfig sampleRevokedCalls) node.networkId node.name
    (some node.id) = .ok ()
  change (run sampleConfig sampleRevokedCalls).nodes.lookup "a" = some node at nodeAt
  have free : ((run sampleConfig sampleRevokedCalls).nodes.lookup "a").map (fun node =>
      ensureUniqueNodeName (run sampleConfig sampleRevokedCalls) node.networkId node.name
        (some node.id)) = some (.ok ()) := by
    decide +kernel
  rw [nodeAt, Option.map_some, Option.some.injEq] at free
  exact free

def sampleTakenCalls : List Call :=
  sampleRevokedCalls ++ [registerSample 4 "c" "ALPHA", sampleOwnRotation]

theorem name_shared_after_rotation :
    ((run sampleConfig sampleTakenCalls).nodes.lookup "a").map
        (fun node => (node.networkId, node.name, node.revokedAt)) =
        some ("net", "alpha", none) ∧
      ((run sampleConfig sampleTakenCalls).nodes.lookup "c").map
        (fun node => (node.networkId, node.name, node.revokedAt)) =
        some ("net", "ALPHA", none) ∧
      eqIgnoreAsciiCase "alpha" "ALPHA" = true := by
  decide +kernel

end Lightscale.ControlPlane
