/-
Who owns a name.

Names are unique within a network and up to ASCII case, while the table of the responder is
keyed by the whole name: node name and domain in one text, in lower case by the rules of
Unicode, for all networks together.  A node comes to own its name when no request publishes
it under a name that another published node has; the requests that publish a node or rename a
published one say which name they claim.
-/

import Lightscale.ControlPlane.Approval
import Lightscale.ControlPlane.Integrity
import Lightscale.ControlPlane.NodeNames
import Lightscale.Dns.Snapshot

namespace Lightscale.Dns

open Foundation ControlPlane

/-! ### Owning a name -/

def Published (resolver : Resolver) (state : State) (key name : String)
    (addresses : List IpAddr) : Prop :=
  ∃ node, state.nodes.lookup key = some node ∧
    recordOf resolver state.networks node = some (name, addresses)

def NamesApart (resolver : Resolver) (state : State) : Prop :=
  ∀ leftKey rightKey name leftAddresses rightAddresses,
    Published resolver state leftKey name leftAddresses →
    Published resolver state rightKey name rightAddresses → leftKey = rightKey

/-- Every published node owns its name, and the order in which the nodes are met does not
matter. -/
structure NamesOwned (resolver : Resolver) (state : State) : Prop where
  apart : NamesApart resolver state
  own : ∀ order, order.Perm state.nodes.values → ∀ key name addresses,
    Published resolver state key name addresses →
    (snapshotOf resolver state.networks order).records.lookup name = some addresses
  ordered : ∀ order, order.Perm state.nodes.values → ∀ name,
    (snapshotOf resolver state.networks order).records.lookup name =
      (snapshot resolver state).records.lookup name

section

variable {resolver : Resolver} {state : State}

theorem Published.addresses_eq {key name otherName : String} {addresses others : List IpAddr}
    (published : Published resolver state key name addresses)
    (other : Published resolver state key otherName others) : others = addresses := by
  obtain ⟨node, nodeAt, isRecord⟩ := published
  obtain ⟨same, sameAt, otherRecord⟩ := other
  cases nodeAt.symm.trans sameAt
  cases isRecord.symm.trans otherRecord
  rfl

theorem exists_published_of_mem {order : List NodeState} (perm : order.Perm state.nodes.values)
    {node : NodeState} (member : node ∈ order) {name : String} {addresses : List IpAddr}
    (isRecord : recordOf resolver state.networks node = some (name, addresses)) :
    ∃ key, Published resolver state key name addresses := by
  obtain ⟨key, nodeAt⟩ := (Table.mem_values_iff _ node).mp (perm.mem_iff.mp member)
  exact ⟨key, node, nodeAt, isRecord⟩

theorem NamesApart.own (apart : NamesApart resolver state) {order : List NodeState}
    (perm : order.Perm state.nodes.values) {key name : String} {addresses : List IpAddr}
    (published : Published resolver state key name addresses) :
    (snapshotOf resolver state.networks order).records.lookup name = some addresses := by
  obtain ⟨node, nodeAt, isRecord⟩ := published
  have member : node ∈ order :=
    perm.mem_iff.mpr ((Table.mem_values_iff _ node).mpr ⟨key, nodeAt⟩)
  apply lookup_records_of_unique member isRecord
  intro other otherIn others otherRecord
  obtain ⟨otherKey, otherPublished⟩ := exists_published_of_mem perm otherIn otherRecord
  have published : Published resolver state key name addresses := ⟨node, nodeAt, isRecord⟩
  have sameKey := apart key otherKey name addresses others published otherPublished
  subst sameKey
  exact published.addresses_eq otherPublished

theorem NamesApart.owned (apart : NamesApart resolver state) : NamesOwned resolver state := by
  refine ⟨apart, ?_, ?_⟩
  · intro order perm key name addresses published
    exact apart.own perm published
  · intro order perm name
    -- What one order finds under a name is the record of a stored node, so every order does.
    have transfer : ∀ first second : List NodeState, first.Perm state.nodes.values →
        second.Perm state.nodes.values → ∀ addresses,
        (snapshotOf resolver state.networks first).records.lookup name = some addresses →
        (snapshotOf resolver state.networks second).records.lookup name = some addresses := by
      intro first second firstPerm secondPerm addresses found
      obtain ⟨node, member, isRecord⟩ := exists_node_of_lookup_records found
      obtain ⟨key, published⟩ := exists_published_of_mem firstPerm member isRecord
      exact apart.own secondPerm published
    apply Option.ext
    intro addresses
    exact ⟨transfer order _ perm (List.Perm.refl _) addresses,
      transfer _ order (List.Perm.refl _) perm addresses⟩

end

/-! ### The name a request claims -/

/-- No unrevoked node of the network has the name up to ASCII case, `exclude` apart. -/
def NameFree (state : State) (networkId name : String) (exclude : Option String) : Prop :=
  ∀ node ∈ state.nodes.values, node.networkId = networkId → node.revokedAt = none →
    exclude ≠ some node.id → eqIgnoreAsciiCase node.name name = false

instance (state : State) (networkId name : String) (exclude : Option String) :
    Decidable (NameFree state networkId name exclude) :=
  inferInstanceAs (Decidable (∀ node ∈ state.nodes.values, node.networkId = networkId →
    node.revokedAt = none → exclude ≠ some node.id → eqIgnoreAsciiCase node.name name = false))

def nodeClaim (resolver : Resolver) (before : State) (nodeId : String)
    (claims : NodeState → Option String) : Option (String × String) :=
  match before.nodes.lookup nodeId with
  | none => none
  | some node =>
      match before.networks.lookup node.networkId with
      | none => none
      | some network => (claims node).map fun name => (nodeId, dnsName resolver name network)

def registrationClaim (resolver : Resolver) (config : Config) (before : State) (draws : Draws)
    (request : RegisterRequest) : Option (String × String) :=
  match before.tokens.lookup request.token with
  | none => none
  | some token =>
      match before.networks.lookup token.networkId with
      | none => none
      | some network =>
          if trim request.nodeName ≠ "" ∧ draws.now < token.expiresAt ∧
              token.revokedAt = none ∧ token.usesLeft ≠ 0 ∧
              NameFree before token.networkId (trim request.nodeName) none ∧
              (allocateNodeIps config.externals network).1.isOk = true ∧
              network.requiresApproval = false
          then some (draws.nodeId, dnsName resolver (trim request.nodeName) network)
          else none

def renameClaim (before : State) (node : NodeState) (name : Option String) : Option String :=
  name.bind fun name =>
    if trim name ≠ "" ∧ NameFree before node.networkId (trim name) (some node.id)
    then some (trim name) else none

/-- The node that a request publishes or renames, and the name it gets: a registration in a
network that asks for no approval, an approval, a rename of a published node, and a rotation
that lifts a revocation.  Only a request that passes the checks of its handler and is kept
claims a name. -/
def claimedName (resolver : Resolver) (config : Config) (before : State) (call : Call) :
    Option (String × String) :=
  if config.backend = .file ∨ call.draws.stored = true then
    match call.request with
    | .register request => registrationClaim resolver config before call.draws request
    | .approveNodeSecret nodeId secret =>
        nodeClaim resolver before nodeId fun node =>
          if node.approved = false ∧ node.revokedAt = none ∧ node.authSecret = some secret ∧
              ∀ expiresAt ∈ node.authExpiresAt, call.draws.now < expiresAt
          then some node.name else none
    | .approveNode nodeId =>
        nodeClaim resolver before nodeId fun node =>
          if requireAdmin call.headers config.adminToken = .ok () ∧ node.approved = false ∧
              node.revokedAt = none
          then some node.name else none
    | .updateNode nodeId request =>
        nodeClaim resolver before nodeId fun node =>
          if requireAdmin call.headers config.adminToken = .ok () ∧ node.approved = true ∧
              node.revokedAt = none
          then renameClaim before node request.name else none
    | .rotateKeys nodeId request =>
        nodeClaim resolver before nodeId fun node =>
          if requireNode call.headers config.adminToken node = .ok () ∧ node.approved = true ∧
              node.revokedAt ≠ none ∧
              (request.machinePublicKey ≠ none ∨ request.wgPublicKey ≠ none) ∧
              request.machinePublicKey ≠ some node.machinePublicKey ∧
              request.wgPublicKey ≠ some node.wgPublicKey
          then some node.name else none
    | _ => none
  else none

/-- No other published node has the name that the request claims. -/
def ClaimsFreeName (resolver : Resolver) (config : Config) (before : State) (call : Call) :
    Prop :=
  ∀ key name, claimedName resolver config before call = some (key, name) →
    ∀ otherKey addresses, Published resolver before otherKey name addresses → otherKey = key

section

variable {resolver : Resolver} {config : Config} {call : Call} {before after : State}
  {granted : Option TokenState}

/-! ### One request -/

theorem dnsName_congr {name : String} {old new : NetworkState}
    (same : new.dnsDomain = old.dnsDomain) :
    dnsName resolver name new = dnsName resolver name old := by
  unfold dnsName
  rw [same]

theorem nodeClaim_eq {nodeId : String} {node : NodeState} {network : NetworkState}
    {claims : NodeState → Option String} {name : String}
    (nodeAt : before.nodes.lookup nodeId = some node)
    (networkAt : before.networks.lookup node.networkId = some network)
    (claimed : claims node = some name) :
    nodeClaim resolver before nodeId claims = some (nodeId, dnsName resolver name network) := by
  simp [nodeClaim, nodeAt, networkAt, claimed]

theorem nameFree_of_unique {networkId name : String} {exclude : Option String}
    (unique : ensureUniqueNodeName before networkId name exclude = .ok ()) :
    NameFree before networkId name exclude := by
  intro node stored sameNetwork unrevoked notExcluded
  obtain ⟨key, nodeAt⟩ := (Table.mem_values_iff _ node).mp stored
  exact ensureUniqueNodeName_ok unique nodeAt sameNetwork unrevoked notExcluded

theorem renameClaim_of_next {node : NodeState} {asked : Option String} {name : String}
    (named : nextNodeName before node asked = .ok (some name)) :
    renameClaim before node asked = some name := by
  rcases nextNodeName_ok named with unchanged | ⟨given, isAsked, isName, notEmpty, unique⟩
  · cases unchanged
  · rw [isAsked, isName]
    exact if_pos ⟨notEmpty, nameFree_of_unique unique⟩

theorem registration_claimedName {networkId : String} {network : NetworkState}
    {ipv4 ipv6 : String} {node : NodeState} {tokens : Table String TokenState}
    (registration : Registration call before networkId network ipv4 ipv6 node tokens)
    (networkAt : before.networks.lookup networkId = some network)
    (allocated : (allocateNodeIps config.externals network).1 = .ok (ipv4, ipv6))
    (isKept : config.backend = .file ∨ call.draws.stored = true)
    (approved : node.approved = true) :
    claimedName resolver config before call =
      some (node.id, dnsName resolver node.name network) := by
  rw [claimedName, if_pos isKept]
  cases registration with
  | byToken request nodeName token asked named tokenAt sameNetwork live unrevoked usable
      unique =>
      have isOpen : network.requiresApproval = false := by
        simpa [registeredNode] using approved
      obtain ⟨isTrimmed, notEmpty⟩ := normalizeNodeName_ok named
      subst sameNetwork isTrimmed
      rw [asked]
      dsimp only
      unfold registrationClaim
      rw [tokenAt]
      dsimp only
      rw [networkAt]
      exact if_pos ⟨notEmpty, live, unrevoked, usable, nameFree_of_unique unique,
        by rw [allocated]; rfl, isOpen⟩
  | byUrl request nodeName expiresAt asked named expiry sameNetwork unique => cases approved

theorem nodeEdit_claimedName {key : String} {node new : NodeState} {network : NetworkState}
    (edit : NodeEdit config call before key node new)
    (nodeAt : before.nodes.lookup key = some node)
    (networkAt : before.networks.lookup node.networkId = some network)
    (approved : new.approved = true) (unrevoked : new.revokedAt = none) :
    (node.approved = true ∧ node.revokedAt = none ∧ node.name = new.name) ∨
      claimedName resolver config before call = some (key, dnsName resolver new.name network) := by
  cases edit with
  | approvedBySecret secret asked pending carried live isKept =>
      refine Or.inr ?_
      rw [claimedName, if_pos isKept, asked]
      exact nodeClaim_eq nodeAt networkAt (if_pos ⟨pending, unrevoked, carried, live⟩)
  | approvedByAdmin asked admin pending isApplied =>
      refine Or.inr ?_
      rw [claimedName, if_pos (Backend.kept_of_applied isApplied), asked]
      exact nodeClaim_eq nodeAt networkAt (if_pos ⟨admin, pending, unrevoked⟩)
  | updated request nextName asked admin named isKept =>
      have approved : node.approved = true := approved
      have unrevoked : node.revokedAt = none := unrevoked
      cases nextName with
      | none => exact Or.inl ⟨approved, unrevoked, rfl⟩
      | some name =>
          refine Or.inr ?_
          rw [claimedName, if_pos isKept, asked]
          refine nodeClaim_eq nodeAt networkAt ?_
          rw [if_pos ⟨admin, approved, unrevoked⟩]
          exact renameClaim_of_next named
  | rotated request machineRotated bothRotated asked allowed provided machine wireGuard
      isApplied =>
      have sameName : bothRotated.name = node.name :=
        (rotateKey_name wireGuard).trans (rotateKey_name machine)
      have sameApproval : bothRotated.approved = node.approved :=
        (rotateKey_sameApproval wireGuard).approved.trans
          (rotateKey_sameApproval machine).approved
      have wasApproved : node.approved = true := sameApproval.symm.trans approved
      by_cases wasUnrevoked : node.revokedAt = none
      · exact Or.inl ⟨wasApproved, wasUnrevoked, sameName.symm⟩
      · refine Or.inr ?_
        have wgChanged := rotateKey_newKey_ne wireGuard
        rw [rotateKey_publicKey_other machine (by decide)] at wgChanged
        rw [claimedName, if_pos (Backend.kept_of_applied isApplied), asked]
        change _ = some (key, dnsName resolver bothRotated.name network)
        rw [sameName]
        exact nodeClaim_eq nodeAt networkAt (if_pos ⟨allowed, wasApproved, wasUnrevoked, provided,
          rotateKey_newKey_ne machine, wgChanged⟩)
  | rotatedPartly request machineRotated error asked allowed machine wireGuard notApplied =>
      rw [(rotateKey_sameApproval machine).approved] at approved
      rw [rotateKey_revokedAt machine] at unrevoked
      exact Or.inl ⟨approved, unrevoked, (rotateKey_name machine).symm⟩
  | revoked asked admin => cases unrevoked
  | heartbeat request asked named allowed probeRequestedAt =>
      exact Or.inl ⟨approved, unrevoked, rfl⟩

theorem published_or_claimed
    (transition : Transition config call before after (createdNode config before call) granted)
    (integrity : before.Integrity config.externals) {key name : String}
    {addresses : List IpAddr} (published : Published resolver after key name addresses) :
    Published resolver before key name addresses ∨
      claimedName resolver config before call = some (key, name) := by
  obtain ⟨node, nodeAt, isRecord⟩ := published
  obtain ⟨approved, unrevoked, network, ipv4, ipv6, networkAt, parsed4, parsed6, isName,
    isAddresses⟩ := recordOf_eq_some_iff.mp isRecord
  cases transition.nodeChange key with
  | kept same =>
      have oldAt := same.symm.trans nodeAt
      obtain ⟨home, homeAt⟩ :=
        Table.exists_lookup_of_mem (integrity.nodeHomes key node oldAt)
      refine Or.inl ⟨node, oldAt, recordOf_eq_some_iff.mpr ?_⟩
      rw [dnsName_congr (transition.dnsDomain homeAt networkAt)] at isName
      exact ⟨approved, unrevoked, home, ipv4, ipv6, homeAt, parsed4, parsed6, isName,
        isAddresses⟩
  | registered new networkId home at4 at6 tokens isMade isKey homeAt registration newAt
      allocated =>
      cases newAt.symm.trans nodeAt
      have sameId := registration.newNode.networkId.trans
        (integrity.networkKeys networkId home homeAt)
      rw [sameId] at networkAt
      refine Or.inr ?_
      rw [isName, dnsName_congr (transition.dnsDomain homeAt networkAt), ← isKey]
      exact registration_claimedName registration homeAt allocated (kept_of_createdNode isMade)
        approved
  | edited old new oldAt edit newAt notMade =>
      cases newAt.symm.trans nodeAt
      have same := edit.sameIdentity
      obtain ⟨home, homeAt⟩ :=
        Table.exists_lookup_of_mem (integrity.nodeHomes key old oldAt)
      rw [same.networkId] at networkAt
      rw [dnsName_congr (transition.dnsDomain homeAt networkAt)] at isName
      rcases nodeEdit_claimedName edit oldAt homeAt approved unrevoked with
        ⟨wasApproved, wasUnrevoked, sameName⟩ | claims
      · refine Or.inl ⟨old, oldAt, recordOf_eq_some_iff.mpr ?_⟩
        rw [same.ipv4] at parsed4
        rw [same.ipv6] at parsed6
        rw [← sameName] at isName
        exact ⟨wasApproved, wasUnrevoked, home, ipv4, ipv6, homeAt, parsed4, parsed6, isName,
          isAddresses⟩
      · rw [isName]
        exact Or.inr claims
  | deleted asked admin gone => cases gone.symm.trans nodeAt

/-- A request that claims a free name keeps the names apart. -/
theorem namesApart_of_transition
    (transition : Transition config call before after (createdNode config before call) granted)
    (integrity : before.Integrity config.externals) (apart : NamesApart resolver before)
    (free : ClaimsFreeName resolver config before call) : NamesApart resolver after := by
  intro leftKey rightKey name leftAddresses rightAddresses left right
  rcases published_or_claimed transition integrity left with oldLeft | claimLeft
  · rcases published_or_claimed transition integrity right with oldRight | claimRight
    · exact apart leftKey rightKey name leftAddresses rightAddresses oldLeft oldRight
    · exact free rightKey name claimRight leftKey leftAddresses oldLeft
  · rcases published_or_claimed transition integrity right with oldRight | claimRight
    · exact (free leftKey name claimLeft rightKey rightAddresses oldRight).symm
    · cases claimLeft.symm.trans claimRight
      rfl

end

/-! ### Every run -/

/-- In every run in which no request claims the name of another published node, every
published node owns its name. -/
theorem dns_names_owned (resolver : Resolver) (config : Config) (calls : List Call)
    (free : ∀ event ∈ history config calls,
      ClaimsFreeName resolver config event.before event.input) :
    NamesOwned resolver (run config calls) := by
  have invariant : (run config calls).Integrity config.externals ∧
      NamesApart resolver (run config calls) := by
    refine exec_invariant_when (step config) (ClaimsFreeName resolver config)
      (fun state => state.Integrity config.externals ∧ NamesApart resolver state) ?_
      State.default ⟨integrity_empty config.externals, ?_⟩ calls free
    · rintro state call isFree ⟨integrity, apart⟩
      have transition := step_transition config state call
      exact ⟨transition.integrity integrity,
        namesApart_of_transition transition integrity apart isFree⟩
    · rintro leftKey rightKey name leftAddresses rightAddresses ⟨node, nodeAt, -⟩
      cases nodeAt
  exact invariant.2.owned

/-- No stored node has a record under the claimed name; this can be evaluated. -/
def claimUnused (resolver : Resolver) (config : Config) (before : State) (call : Call) : Bool :=
  before.nodes.values.all fun node =>
    (recordOf resolver before.networks node).all fun record =>
      decide ((claimedName resolver config before call).map Prod.snd ≠ some record.1)

theorem claimsFreeName_of_unused {resolver : Resolver} {config : Config} {before : State}
    {call : Call} (unused : claimUnused resolver config before call = true) :
    ClaimsFreeName resolver config before call := by
  rintro key name claims otherKey addresses ⟨node, nodeAt, isRecord⟩
  have stored : node ∈ before.nodes.values :=
    (Table.mem_values_iff _ node).mpr ⟨otherKey, nodeAt⟩
  have apart := List.all_eq_true.mp unused node stored
  rw [isRecord, claims] at apart
  simp at apart

def sampleNamedCalls : List Call :=
  [createSample 0, registerSample 1 "a" "alpha", registerSample 2 "b" "beta"]

theorem sample_dns_names_owned :
    NamesOwned sampleResolver (run sampleConfig sampleNamedCalls) ∧
      ((run sampleConfig sampleNamedCalls).nodes.lookup "b").bind
        (recordOf sampleResolver (run sampleConfig sampleNamedCalls).networks) =
        some ("beta.net-net.lightscale", [.v4 167772171, .v6 (253 * 2 ^ 120 + 11)]) := by
  have unused : (history sampleConfig sampleNamedCalls).all (fun event =>
      claimUnused sampleResolver sampleConfig event.before event.input) = true := by
    decide +kernel
  refine ⟨dns_names_owned sampleResolver sampleConfig sampleNamedCalls ?_, by decide +kernel⟩
  intro event member
  exact claimsFreeName_of_unused (List.all_eq_true.mp unused event member)

def sampleSharedDomain : List Call :=
  [adminCall 0 "net" (.createNetwork
      { sampleNetworkRequest with dnsDomain := some "home.lightscale" }),
    adminCall 1 "lab" (.createNetwork
      { sampleNetworkRequest with
        overlayV4 := some "10.0.1.0/24"
        overlayV6 := some "fd01::/64"
        dnsDomain := some "home.lightscale" }),
    registerSample 2 "a" "alpha",
    plainCall 3 "b" (.register { sampleRegisterRequest "b" "alpha" with token := "lab" })]

def sampleSharedNodes : List NodeState :=
  (run sampleConfig sampleSharedDomain).nodes.values

/-- Both nodes are published under one name, and the order of the nodes decides whose
addresses it resolves to. -/
theorem shared_domain_shares_name :
    sampleSharedNodes.map
        (recordOf sampleResolver (run sampleConfig sampleSharedDomain).networks) =
        [some ("alpha.home.lightscale",
            [.v4 167772426, .v6 (253 * 2 ^ 120 + 2 ^ 112 + 10)]),
          some ("alpha.home.lightscale", [.v4 167772170, .v6 (253 * 2 ^ 120 + 10)])] ∧
      (snapshotOf sampleResolver (run sampleConfig sampleSharedDomain).networks
        sampleSharedNodes).records.lookup "alpha.home.lightscale" =
        some [.v4 167772170, .v6 (253 * 2 ^ 120 + 10)] ∧
      (snapshotOf sampleResolver (run sampleConfig sampleSharedDomain).networks
        sampleSharedNodes.reverse).records.lookup "alpha.home.lightscale" =
        some [.v4 167772426, .v6 (253 * 2 ^ 120 + 2 ^ 112 + 10)] := by
  have records : sampleSharedNodes.map
      (recordOf sampleResolver (run sampleConfig sampleSharedDomain).networks) =
      [some ("alpha.home.lightscale",
          [.v4 167772426, .v6 (253 * 2 ^ 120 + 2 ^ 112 + 10)]),
        some ("alpha.home.lightscale", [.v4 167772170, .v6 (253 * 2 ^ 120 + 10)])] := by
    decide +kernel
  have listed : ∀ nodes : List NodeState,
      nodes.filterMap
          (recordOf sampleResolver (run sampleConfig sampleSharedDomain).networks) =
        (nodes.map
          (recordOf sampleResolver (run sampleConfig sampleSharedDomain).networks)).filterMap
          id := by
    intro nodes
    rw [List.filterMap_map]
    rfl
  refine ⟨records, ?_, ?_⟩
  · unfold snapshotOf
    rw [listed, records]
    decide
  · unfold snapshotOf
    rw [listed, List.map_reverse, records]
    decide

end Lightscale.Dns
