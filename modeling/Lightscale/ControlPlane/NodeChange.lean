/-
What one request can do to the entry of one node, and to the entry of one network.

A transition speaks about whole tables.  Most properties follow a single entry, so
the transition is read once more from its place: a node is kept, registered, edited
or deleted, a network is kept, created, edited, advanced by a registration or deleted.
-/

import Lightscale.ControlPlane.StepTransition

namespace Lightscale.ControlPlane

open Foundation

inductive NodeChange (config : Config) (call : Call) (before after : State)
    (made : Option NodeState) (key : String) : Prop where
  | kept (same : after.nodes.lookup key = before.nodes.lookup key)
      (notMade : ∀ node, made = some node → node.id ≠ key)
  | registered (node : NodeState) (networkId : String) (network : NetworkState)
      (ipv4 ipv6 : String) (tokens : Table String TokenState)
      (isMade : made = some node) (isKey : node.id = key)
      (networkAt : before.networks.lookup networkId = some network)
      (registration : Registration call before networkId network ipv4 ipv6 node tokens)
      (nodeAt : after.nodes.lookup key = some node)
      (allocated : (allocateNodeIps config.externals network).1 = .ok (ipv4, ipv6))
  | edited (node new : NodeState)
      (nodeAt : before.nodes.lookup key = some node)
      (edit : NodeEdit config call before key node new)
      (newAt : after.nodes.lookup key = some new)
      (notMade : made = none)
  | deleted (asked : call.request = .deleteNode key)
      (admin : requireAdmin call.headers config.adminToken = .ok ())
      (gone : after.nodes.lookup key = none)

section

variable {config : Config} {call : Call} {before after : State}
  {made : Option NodeState} {granted : Option TokenState}

theorem Transition.nodeChange
    (transition : Transition config call before after made granted) (key : String) :
    NodeChange config call before after made key := by
  have nothing : ∀ node, (none : Option NodeState) = some node → node.id ≠ key := by
    intro node isMade
    cases isMade
  cases transition with
  | idle leaves => exact .kept (by rw [leaves.nodes]) nothing
  | networkCreated request planned _ entry asked admin plan absent apart grant leaves =>
      exact .kept (by rw [leaves.nodes]) nothing
  | networkDeleted networkId network entry asked admin networkAt empty leaves =>
      exact .kept (by rw [leaves.nodes]) nothing
  | networkEdited networkId network edited entries networkAt edit leaves =>
      exact .kept (by rw [leaves.nodes]) nothing
  | tokenCreated networkId request network token entry asked admin networkAt grant leaves =>
      exact .kept (by rw [leaves.nodes]) nothing
  | tokenRevoked tokenId token entry asked admin tokenAt leaves =>
      exact .kept (by rw [leaves.nodes]) nothing
  | nodeRegistered networkId network advanced ipv4 ipv6 node tokens entry networkAt allocated
      registration leaves =>
      have looked := Table.lookup_insert_eq before.nodes node.id key node
      rw [← leaves.nodes] at looked
      by_cases same : key = node.id
      · rw [if_pos same] at looked
        exact .registered node networkId network ipv4 ipv6 tokens rfl same.symm networkAt
          registration looked (congrArg Prod.fst allocated)
      · rw [if_neg same] at looked
        refine .kept looked ?_
        intro other isMade sameId
        rw [Option.some.inj isMade] at same
        exact same sameId.symm
  | nodeEdited nodeId node edited entries nodeAt edit leaves =>
      have looked := Table.lookup_replace_eq nodeAt edited key
      rw [← leaves.nodes] at looked
      by_cases same : key = nodeId
      · rw [if_pos same] at looked
        subst same
        exact .edited node edited nodeAt edit looked rfl
      · rw [if_neg same] at looked
        exact .kept looked nothing
  | nodeDeleted nodeId node entry asked admin nodeAt leaves =>
      have looked := Table.lookup_erase_eq before.nodes nodeId key
      rw [← leaves.nodes] at looked
      by_cases same : key = nodeId
      · rw [if_pos same] at looked
        subst same
        exact .deleted asked admin looked
      · rw [if_neg same] at looked
        exact .kept looked nothing

/-- A property of single nodes is kept when registrations establish it and edits
keep it. -/
theorem Transition.forall_nodes {property : String → NodeState → Prop}
    (transition : Transition config call before after made granted)
    (held : ∀ key node, before.nodes.lookup key = some node → property key node)
    (registered : ∀ networkId network ipv4 ipv6 node tokens,
      before.networks.lookup networkId = some network →
      Registration call before networkId network ipv4 ipv6 node tokens →
      property node.id node)
    (edited : ∀ key node new, before.nodes.lookup key = some node → property key node →
      NodeEdit config call before key node new → property key new) :
    ∀ key node, after.nodes.lookup key = some node → property key node := by
  intro key node nodeAt
  cases transition.nodeChange key with
  | kept same => exact held key node (same.symm.trans nodeAt)
  | registered new networkId network ipv4 ipv6 tokens isMade isKey networkAt registration
      newAt =>
      rw [newAt, Option.some.injEq] at nodeAt
      subst nodeAt
      rw [← isKey]
      exact registered networkId network ipv4 ipv6 new tokens networkAt registration
  | edited old new oldAt edit newAt =>
      rw [newAt, Option.some.injEq] at nodeAt
      subst nodeAt
      exact edited key old new oldAt (held key old oldAt) edit
  | deleted asked admin gone =>
      rw [gone] at nodeAt
      cases nodeAt

end

/-! ### Facts about every stored node -/

/-- A node is stored under its id and holds a token of its own. -/
structure NodeKeyed (key : String) (node : NodeState) : Prop where
  id : node.id = key
  hasToken : node.nodeToken ≠ none

theorem Transition.nodeKeyed {config : Config} {call : Call} {before after : State}
    {made : Option NodeState} {granted : Option TokenState}
    (transition : Transition config call before after made granted)
    (keyed : ∀ key node, before.nodes.lookup key = some node → NodeKeyed key node) :
    ∀ key node, after.nodes.lookup key = some node → NodeKeyed key node := by
  refine transition.forall_nodes keyed ?_ ?_
  · intro networkId network ipv4 ipv6 node tokens networkAt registration
    refine ⟨rfl, ?_⟩
    rw [registration.newNode.nodeToken]
    exact Option.some_ne_none _
  · intro key node new nodeAt oldKeyed edit
    have same := edit.sameIdentity
    refine ⟨same.id.trans oldKeyed.id, ?_⟩
    rw [same.nodeToken]
    exact oldKeyed.hasToken

theorem run_nodeKeyed (config : Config) (calls : List Call) :
    ∀ key node, (run config calls).nodes.lookup key = some node → NodeKeyed key node := by
  refine exec_invariant (step config)
    (fun state => ∀ key node, state.nodes.lookup key = some node → NodeKeyed key node) ?_
    State.default ?_ calls
  · intro state call keyed
    exact (step_transition config state call).nodeKeyed keyed
  · intro key node nodeAt
    cases nodeAt

/-! ### Facts about every stored network -/

theorem allocateNodeIps_frame (externals : Externals) (network : NetworkState) :
    ∃ next4 next6, (allocateNodeIps externals network).2 =
      { network with nextIpv4 := next4, nextIpv6 := next6 } := by
  unfold allocateNodeIps
  split
  · exact ⟨network.nextIpv4, network.nextIpv6, rfl⟩
  · exact ⟨network.nextIpv4, network.nextIpv6, rfl⟩
  · split
    · exact ⟨network.nextIpv4, network.nextIpv6, rfl⟩
    · split
      · exact ⟨network.nextIpv4, network.nextIpv6, rfl⟩
      · dsimp only
        split
        · exact ⟨_, network.nextIpv6, rfl⟩
        · exact ⟨_, _, rfl⟩

structure SameNetwork (old new : NetworkState) : Prop where
  id : new.id = old.id
  requiresApproval : new.requiresApproval = old.requiresApproval

theorem sameNetwork_of_allocated {externals : Externals} {network advanced : NetworkState}
    {outcome : Except ApiError (String × String)}
    (allocated : allocateNodeIps externals network = (outcome, advanced)) :
    SameNetwork network advanced := by
  obtain ⟨next4, next6, left⟩ := allocateNodeIps_frame externals network
  rw [allocated] at left
  change advanced = _ at left
  rw [left]
  exact ⟨rfl, rfl⟩

theorem dnsDomain_of_allocated {externals : Externals} {network advanced : NetworkState}
    {outcome : Except ApiError (String × String)}
    (allocated : allocateNodeIps externals network = (outcome, advanced)) :
    advanced.dnsDomain = network.dnsDomain := by
  obtain ⟨next4, next6, left⟩ := allocateNodeIps_frame externals network
  rw [allocated] at left
  change advanced = _ at left
  rw [left]

theorem NetworkEdit.sameNetwork {config : Config} {call : Call} {before : State}
    {networkId : String} {network edited : NetworkState}
    (edit : NetworkEdit config call before networkId network edited) :
    SameNetwork network edited := by
  cases edit with
  | acl policy asked admin => exact ⟨rfl, rfl⟩
  | keyPolicy policy asked admin => exact ⟨rfl, rfl⟩
  | offsetSpent error advanced enrolling failed => exact sameNetwork_of_allocated failed

inductive NetworkChange (config : Config) (call : Call) (before after : State) (key : String) :
    Prop where
  | kept (same : after.networks.lookup key = before.networks.lookup key)
  | created (request : CreateNetworkRequest) (planned : PlannedNetwork)
      (plan : planNetwork config.externals call.draws request = .ok planned)
      (isKey : planned.state.id = key)
      (absent : before.networks.lookup key = none)
      (newAt : after.networks.lookup key = some planned.state)
  | edited (network new : NetworkState)
      (networkAt : before.networks.lookup key = some network)
      (edit : NetworkEdit config call before key network new)
      (newAt : after.networks.lookup key = some new)
  /-- A registration took the next addresses of the network. -/
  | advanced (network new : NetworkState) (ipv4 ipv6 : String)
      (networkAt : before.networks.lookup key = some network)
      (allocated : allocateNodeIps config.externals network = (.ok (ipv4, ipv6), new))
      (newAt : after.networks.lookup key = some new)
  | deleted (asked : call.request = .deleteNetwork key)
      (gone : after.networks.lookup key = none)

section

variable {config : Config} {call : Call} {before after : State}
  {made : Option NodeState} {granted : Option TokenState}

theorem Transition.networkChange
    (transition : Transition config call before after made granted) (key : String) :
    NetworkChange config call before after key := by
  cases transition with
  | idle leaves => exact .kept (by rw [leaves.networks])
  | networkCreated request planned _ entry asked admin plan absent apart grant leaves =>
      have looked := Table.lookup_insert_eq before.networks planned.state.id key planned.state
      rw [← leaves.networks] at looked
      by_cases same : key = planned.state.id
      · rw [if_pos same] at looked
        rw [← same] at absent
        exact .created request planned plan same.symm absent looked
      · rw [if_neg same] at looked
        exact .kept looked
  | networkDeleted networkId network entry asked admin networkAt empty leaves =>
      have looked := Table.lookup_erase_eq before.networks networkId key
      rw [← leaves.networks] at looked
      by_cases same : key = networkId
      · rw [if_pos same] at looked
        subst same
        exact .deleted asked looked
      · rw [if_neg same] at looked
        exact .kept looked
  | networkEdited networkId network edited entries networkAt edit leaves =>
      have looked := Table.lookup_replace_eq networkAt edited key
      rw [← leaves.networks] at looked
      by_cases same : key = networkId
      · rw [if_pos same] at looked
        subst same
        exact .edited network edited networkAt edit looked
      · rw [if_neg same] at looked
        exact .kept looked
  | tokenCreated networkId request network token entry asked admin networkAt grant leaves =>
      exact .kept (by rw [leaves.networks])
  | tokenRevoked tokenId token entry asked admin tokenAt leaves =>
      exact .kept (by rw [leaves.networks])
  | nodeRegistered networkId network advanced ipv4 ipv6 node tokens entry networkAt allocated
      registration leaves =>
      have looked := Table.lookup_replace_eq networkAt advanced key
      rw [← leaves.networks] at looked
      by_cases same : key = networkId
      · rw [if_pos same] at looked
        subst same
        exact .advanced network advanced ipv4 ipv6 networkAt allocated looked
      · rw [if_neg same] at looked
        exact .kept looked
  | nodeEdited nodeId node edited entries nodeAt edit leaves =>
      exact .kept (by rw [leaves.networks])
  | nodeDeleted nodeId node entry asked admin nodeAt leaves =>
      exact .kept (by rw [leaves.networks])

theorem Transition.networkKeyed
    (transition : Transition config call before after made granted)
    (keyed : ∀ key network, before.networks.lookup key = some network → network.id = key) :
    ∀ key network, after.networks.lookup key = some network → network.id = key := by
  intro key network networkAt
  cases transition.networkChange key with
  | kept same => exact keyed key network (same.symm.trans networkAt)
  | created request planned plan isKey absent newAt =>
      rw [newAt, Option.some.injEq] at networkAt
      rw [← networkAt]
      exact isKey
  | edited old new oldAt edit newAt =>
      rw [newAt, Option.some.injEq] at networkAt
      rw [← networkAt]
      exact edit.sameNetwork.id.trans (keyed key old oldAt)
  | advanced old new ipv4 ipv6 oldAt allocated newAt =>
      rw [newAt, Option.some.injEq] at networkAt
      rw [← networkAt]
      exact (sameNetwork_of_allocated allocated).id.trans (keyed key old oldAt)
  | deleted asked gone =>
      rw [gone] at networkAt
      cases networkAt

theorem Transition.dnsDomain (transition : Transition config call before after made granted)
    {networkId : String} {network new : NetworkState}
    (networkAt : before.networks.lookup networkId = some network)
    (newAt : after.networks.lookup networkId = some new) :
    new.dnsDomain = network.dnsDomain := by
  cases transition.networkChange networkId with
  | kept same =>
      cases networkAt.symm.trans (same.symm.trans newAt)
      rfl
  | created request planned plan isKey absent plannedAt =>
      cases absent.symm.trans networkAt
  | edited old edited oldAt edit editedAt =>
      cases oldAt.symm.trans networkAt
      cases editedAt.symm.trans newAt
      cases edit with
      | acl policy asked admin => rfl
      | keyPolicy policy asked admin => rfl
      | offsetSpent error _ enrolling failed => exact dnsDomain_of_allocated failed
  | advanced old advanced ipv4 ipv6 oldAt allocated advancedAt =>
      cases oldAt.symm.trans networkAt
      cases advancedAt.symm.trans newAt
      exact dnsDomain_of_allocated allocated
  | deleted asked gone => cases gone.symm.trans newAt

end

theorem run_networkKeyed (config : Config) (calls : List Call) :
    ∀ key network, (run config calls).networks.lookup key = some network → network.id = key := by
  refine exec_invariant (step config)
    (fun state => ∀ key network, state.networks.lookup key = some network → network.id = key) ?_
    State.default ?_ calls
  · intro state call keyed
    exact (step_transition config state call).networkKeyed keyed
  · intro key network networkAt
    cases networkAt

end Lightscale.ControlPlane
