/-
The order in which the maps of the state are iterated.

A map that was read from a file or from the database, or that grew in another way, is iterated
in another order.  Two states that differ in nothing else are told apart by no request: each
request succeeds on both or on neither, with the same answer up to the order of its lists, and
leaves two states that again differ in order alone.
-/

import Lightscale.ControlPlane.Closures
import Lightscale.ControlPlane.NetmapIsolation

namespace Lightscale.ControlPlane

open Foundation

/-! ### States that differ in order alone -/

structure SameEntry (left right : AuditEntry) : Prop where
  fields : { left with detail := none } = { right with detail := none }
  detail : Option.Rel List.Perm left.detail right.detail

theorem SameEntry.refl (entry : AuditEntry) : SameEntry entry entry := by
  refine ⟨rfl, ?_⟩
  cases entry.detail with
  | none => exact .none
  | some detail => exact .some (List.Perm.refl detail)

theorem SameEntry.symm {left right : AuditEntry} (same : SameEntry left right) :
    SameEntry right left := by
  refine ⟨same.fields.symm, ?_⟩
  have detail := same.detail
  revert detail
  generalize left.detail = first, right.detail = second
  intro detail
  cases detail with
  | none => exact .none
  | some alike => exact .some alike.symm

theorem SameEntry.trans {first second third : AuditEntry} (left : SameEntry first second)
    (right : SameEntry second third) : SameEntry first third := by
  refine ⟨left.fields.trans right.fields, ?_⟩
  have before := left.detail
  have after := right.detail
  revert before after
  generalize first.detail = start, second.detail = middle, third.detail = finish
  intro before after
  cases before with
  | none => exact after
  | some alike =>
      cases after with
      | some other => exact .some (alike.trans other)

theorem sameEntries_trans {first second third : List AuditEntry}
    (left : List.Forall₂ SameEntry first second) (right : List.Forall₂ SameEntry second third) :
    List.Forall₂ SameEntry first third := by
  induction left generalizing third with
  | nil => exact right
  | cons head tail ih =>
      cases right with
      | cons other rest => exact .cons (head.trans other) (ih rest)

/-- The same state; the order of the entries in its maps does not count. -/
structure SameState (left right : State) : Prop where
  version : left.version = right.version
  revision : left.revision = right.revision
  networks : Table.Alike left.networks right.networks
  nodes : Table.Alike left.nodes right.nodes
  tokens : Table.Alike left.tokens right.tokens
  auditLog : List.Forall₂ SameEntry left.auditLog right.auditLog

namespace SameState

variable {left right : State}

protected theorem refl (state : State) : SameState state state where
  version := rfl
  revision := rfl
  networks := .refl _
  nodes := .refl _
  tokens := .refl _
  auditLog := List.forall₂_same.mpr fun entry _ => .refl entry

protected theorem symm (same : SameState left right) : SameState right left where
  version := same.version.symm
  revision := same.revision.symm
  networks := same.networks.symm
  nodes := same.nodes.symm
  tokens := same.tokens.symm
  auditLog := (same.auditLog.imp fun _ _ => SameEntry.symm).flip

protected theorem trans {third : State} (first : SameState left right)
    (second : SameState right third) : SameState left third where
  version := first.version.trans second.version
  revision := first.revision.trans second.revision
  networks := first.networks.trans second.networks
  nodes := first.nodes.trans second.nodes
  tokens := first.tokens.trans second.tokens
  auditLog := sameEntries_trans first.auditLog second.auditLog

theorem bump (same : SameState left right) : SameState left.bump right.bump where
  version := same.version
  revision := congrArg (fun revision => saturatingAddU64 revision 1) same.revision
  networks := same.networks
  nodes := same.nodes
  tokens := same.tokens
  auditLog := same.auditLog

theorem audit (same : SameState left right) (entry : AuditEntry) :
    SameState (left.audit entry) (right.audit entry) where
  version := same.version
  revision := same.revision
  networks := same.networks
  nodes := same.nodes
  tokens := same.tokens
  auditLog := List.rel_append same.auditLog (.cons (.refl entry) .nil)

theorem withNetworks (same : SameState left right)
    {networks others : Table String NetworkState} (alike : Table.Alike networks others) :
    SameState { left with networks := networks } { right with networks := others } :=
  ⟨same.version, same.revision, alike, same.nodes, same.tokens, same.auditLog⟩

theorem withNodes (same : SameState left right) {nodes others : Table String NodeState}
    (alike : Table.Alike nodes others) :
    SameState { left with nodes := nodes } { right with nodes := others } :=
  ⟨same.version, same.revision, same.networks, alike, same.tokens, same.auditLog⟩

theorem withTokens (same : SameState left right) {tokens others : Table String TokenState}
    (alike : Table.Alike tokens others) :
    SameState { left with tokens := tokens } { right with tokens := others } :=
  ⟨same.version, same.revision, same.networks, same.nodes, alike, same.auditLog⟩

end SameState

/-- Two different stored networks refuse the planned one, each with its own error. -/
def SeveralOverlap (externals : Externals) (planned : PlannedNetwork) (state : State)
    (error other : ApiError) : Prop :=
  ∃ one two first second, one ≠ two ∧
    state.networks.lookup one = some first ∧ state.networks.lookup two = some second ∧
    checkOverlaps externals planned.overlayV4Net planned.overlayV6Net [first] = .error error ∧
    checkOverlaps externals planned.overlayV4Net planned.overlayV6Net [second] = .error other

/-- The same error.  Only for a network that overlaps with several stored ones does the error
depend on which of them is found first. -/
inductive SameError (config : Config) (call : Call) (state : State) : ApiError → ApiError → Prop
  | same (error : ApiError) : SameError config call state error error
  | overlap {error other : ApiError} (request : CreateNetworkRequest) (planned : PlannedNetwork)
      (asked : call.request = .createNetwork request)
      (plan : planNetwork config.externals call.draws request = .ok planned)
      (several : SeveralOverlap config.externals planned state error other) :
      SameError config call state error other

instance (config : Config) (call : Call) (state : State) :
    Std.Refl (SameError config call state) := ⟨.same⟩

inductive SameAnswer {Result : Type} (alike : ApiError → ApiError → Prop)
    (related : Result → Result → Prop) :
    Except ApiError Result → Except ApiError Result → Prop
  | ok {first second : Result} (holds : related first second) :
      SameAnswer alike related (.ok first) (.ok second)
  | error {first second : ApiError} (holds : alike first second) :
      SameAnswer alike related (.error first) (.error second)

structure SameOutcome {Result : Type} (alike : ApiError → ApiError → Prop)
    (related : Result → Result → Prop) (left right : Except ApiError Result × State) : Prop where
  answer : SameAnswer alike related left.1 right.1
  state : SameState left.2 right.2

section

variable {Result : Type} {alike : ApiError → ApiError → Prop}
  {related : Result → Result → Prop} {left right : State}

theorem SameOutcome.ok {first second : Result} (holds : related first second)
    (same : SameState left right) :
    SameOutcome alike related (.ok first, left) (.ok second, right) :=
  ⟨.ok holds, same⟩

theorem SameOutcome.error (same : SameState left right) {first second : ApiError}
    (holds : alike first second) :
    SameOutcome alike related (.error first, left) (.error second, right) :=
  ⟨.error holds, same⟩

theorem SameOutcome.weaken [Std.Refl alike] {first second : Except ApiError Result × State}
    (outcome : SameOutcome Eq related first second) :
    SameOutcome alike related first second := by
  obtain ⟨answer, state⟩ := outcome
  refine ⟨?_, state⟩
  revert answer
  generalize first.1 = one, second.1 = two
  intro answer
  cases answer with
  | ok holds => exact .ok holds
  | error holds =>
      rw [holds]
      exact .error (Std.Refl.refl _)

end

/-! ### Closures -/

section

variable {externals : Externals} {v4 : Ipv4Net} {v6 : Ipv6Net}

theorem checkOverlaps_cons (existing : NetworkState) (rest : List NetworkState) :
    checkOverlaps externals v4 v6 (existing :: rest) =
      (checkOverlaps externals v4 v6 [existing]).bind
        fun _ => checkOverlaps externals v4 v6 rest := by
  simp only [checkOverlaps]
  cases externals.parseV4 existing.overlayV4 with
  | none => rfl
  | some existingV4 =>
      dsimp only
      split
      · rfl
      cases externals.parseV6 existing.overlayV6 with
      | none => rfl
      | some existingV6 =>
          dsimp only
          split <;> rfl

theorem checkOverlaps_eq_ok_iff {networks : List NetworkState} :
    checkOverlaps externals v4 v6 networks = .ok () ↔
      ∀ existing ∈ networks, checkOverlaps externals v4 v6 [existing] = .ok () := by
  induction networks with
  | nil => exact iff_of_true rfl nofun
  | cons existing rest ih =>
      rw [checkOverlaps_cons, List.forall_mem_cons]
      cases alone : checkOverlaps externals v4 v6 [existing] with
      | error error => exact iff_of_false nofun fun all => nomatch all.1
      | ok _ => exact ih.trans (and_iff_right rfl).symm

theorem checkOverlaps_eq_error {networks : List NetworkState} {error : ApiError}
    (refused : checkOverlaps externals v4 v6 networks = .error error) :
    ∃ existing ∈ networks, checkOverlaps externals v4 v6 [existing] = .error error := by
  induction networks with
  | nil => cases refused
  | cons existing rest ih =>
      rw [checkOverlaps_cons] at refused
      cases alone : checkOverlaps externals v4 v6 [existing] with
      | error found =>
          rw [alone] at refused
          cases refused
          exact ⟨existing, List.mem_cons_self, alone⟩
      | ok _ =>
          rw [alone] at refused
          obtain ⟨other, member, isRefused⟩ := ih refused
          exact ⟨other, List.mem_cons_of_mem _ member, isRefused⟩

end

section

variable {left right : State} (same : SameState left right) (draws : Draws)

include same

theorem values_any (test : NodeState → Bool) :
    left.nodes.values.any test = right.nodes.values.any test :=
  same.nodes.values_perm.any_eq

/-- Which network is found to overlap depends on the order; whether one is does not. -/
theorem checkOverlaps_same {config : Config} {call : Call} {request : CreateNetworkRequest}
    {planned : PlannedNetwork} (asked : call.request = .createNetwork request)
    (plan : planNetwork config.externals call.draws request = .ok planned) :
    SameAnswer (SameError config call right) Eq
      (checkOverlaps config.externals planned.overlayV4Net planned.overlayV6Net
        left.networks.values)
      (checkOverlaps config.externals planned.overlayV4Net planned.overlayV6Net
        right.networks.values) := by
  have listed : ∀ network, network ∈ left.networks.values ↔ network ∈ right.networks.values :=
    fun network => same.networks.values_perm.mem_iff
  have oks : checkOverlaps config.externals planned.overlayV4Net planned.overlayV6Net
        left.networks.values = .ok () ↔
      checkOverlaps config.externals planned.overlayV4Net planned.overlayV6Net
        right.networks.values = .ok () := by
    rw [checkOverlaps_eq_ok_iff, checkOverlaps_eq_ok_iff]
    exact forall_congr' fun network => imp_congr_left (listed network)
  cases second : checkOverlaps config.externals planned.overlayV4Net planned.overlayV6Net
      right.networks.values with
  | ok _ =>
      rw [oks.mpr second]
      exact .ok rfl
  | error other =>
      cases first : checkOverlaps config.externals planned.overlayV4Net planned.overlayV6Net
          left.networks.values with
      | ok _ =>
          rw [oks.mp first] at second
          cases second
      | error error =>
          refine .error ?_
          obtain ⟨one, oneListed, oneRefuses⟩ := checkOverlaps_eq_error first
          obtain ⟨two, twoListed, twoRefuses⟩ := checkOverlaps_eq_error second
          obtain ⟨oneKey, oneStored⟩ :=
            (Table.mem_values_iff _ one).mp ((listed one).mp oneListed)
          obtain ⟨twoKey, twoStored⟩ := (Table.mem_values_iff _ two).mp twoListed
          by_cases sameKey : oneKey = twoKey
          · rw [sameKey, twoStored, Option.some.injEq] at oneStored
            rw [oneStored, oneRefuses] at twoRefuses
            cases twoRefuses
            exact .same _
          · exact .overlap request planned asked plan ⟨oneKey, twoKey, one, two, sameKey,
              oneStored, twoStored, oneRefuses, twoRefuses⟩

theorem createNetworkWrite_same {config : Config} {call : Call} {request : CreateNetworkRequest}
    {planned : PlannedNetwork} (asked : call.request = .createNetwork request)
    (plan : planNetwork config.externals call.draws request = .ok planned) :
    SameOutcome (SameError config call right) Eq
      (createNetworkWrite config.externals call.draws request planned left)
      (createNetworkWrite config.externals call.draws request planned right) := by
  have apart := checkOverlaps_same same asked plan
  have created := same.withNetworks (same.networks.insert planned.state.id planned.state)
  unfold createNetworkWrite
  dsimp only
  rw [same.networks planned.state.id]
  split
  · exact .error same (.same _)
  revert apart
  generalize checkOverlaps config.externals planned.overlayV4Net planned.overlayV6Net
    left.networks.values = first
  generalize checkOverlaps config.externals planned.overlayV4Net planned.overlayV6Net
    right.networks.values = second
  intro apart
  cases apart with
  | error holds => exact .error same holds
  | ok _ =>
      dsimp only
      split
      · exact .ok rfl (created.audit _)
      split
      · exact .error (created.audit _) (.same _)
      · exact .ok rfl ((created.audit _).withTokens (same.tokens.insert _ _))

theorem deleteNetworkWrite_same (networkId : String) :
    SameOutcome Eq Eq (deleteNetworkWrite draws networkId left)
      (deleteNetworkWrite draws networkId right) := by
  have networks := same.networks.erase networkId
  have tokens := same.tokens.retain fun _ token => decide (token.networkId ≠ networkId)
  unfold deleteNetworkWrite
  rw [same.networks networkId, values_any same]
  cases right.networks.lookup networkId with
  | none => exact .error same rfl
  | some network =>
      dsimp only
      split
      · exact .error same rfl
      · exact .ok rfl (((same.withNetworks networks).withTokens tokens).audit _)

theorem updateAclWrite_same (networkId : String) (policy : AclPolicy) :
    SameOutcome Eq Eq (updateAclWrite draws networkId policy left)
      (updateAclWrite draws networkId policy right) := by
  unfold updateAclWrite
  rw [same.networks networkId]
  cases networkAt : right.networks.lookup networkId with
  | none => exact .error same rfl
  | some network =>
      exact .ok rfl ((same.withNetworks (same.networks.replace networkAt _)).audit _)

theorem updateKeyPolicyWrite_same (networkId : String) (policy : KeyRotationPolicy) :
    SameOutcome Eq Eq (updateKeyPolicyWrite draws networkId policy left)
      (updateKeyPolicyWrite draws networkId policy right) := by
  unfold updateKeyPolicyWrite
  rw [same.networks networkId]
  cases networkAt : right.networks.lookup networkId with
  | none => exact .error same rfl
  | some network =>
      exact .ok rfl ((same.withNetworks (same.networks.replace networkAt _)).audit _)

theorem createTokenWrite_same (networkId : String) (request : CreateTokenRequest) :
    SameOutcome Eq Eq (createTokenWrite draws networkId request left)
      (createTokenWrite draws networkId request right) := by
  unfold createTokenWrite
  rw [same.networks networkId]
  cases right.networks.lookup networkId with
  | none => exact .error same rfl
  | some network =>
      dsimp only
      split
      · exact .error same rfl
      · exact .ok rfl ((same.withTokens (same.tokens.insert _ _)).audit _)

theorem revokeTokenWrite_same (tokenId : String) :
    SameOutcome Eq Eq (revokeTokenWrite draws tokenId left)
      (revokeTokenWrite draws tokenId right) := by
  unfold revokeTokenWrite
  rw [same.tokens tokenId]
  cases tokenAt : right.tokens.lookup tokenId with
  | none => exact .error same rfl
  | some token => exact .ok rfl ((same.withTokens (same.tokens.replace tokenAt _)).audit _)

theorem ensureUniqueNodeName_same (networkId name : String) (excludeNodeId : Option String) :
    ensureUniqueNodeName left networkId name excludeNodeId =
      ensureUniqueNodeName right networkId name excludeNodeId := by
  unfold ensureUniqueNodeName
  rw [values_any same]

theorem spendToken_alike {tokenId : String} {token : TokenState}
    (tokenAt : right.tokens.lookup tokenId = some token) :
    Table.Alike (spendToken left.tokens tokenId token)
      (spendToken right.tokens tokenId token) := by
  unfold spendToken
  dsimp only
  split
  · exact same.tokens.erase tokenId
  · exact same.tokens.replace tokenAt _

theorem registerWrite_same (externals : Externals) (request : RegisterRequest)
    (nodeName : String) :
    SameOutcome Eq Eq (registerWrite externals draws request nodeName left)
      (registerWrite externals draws request nodeName right) := by
  unfold registerWrite
  rw [same.tokens request.token]
  cases tokenAt : right.tokens.lookup request.token with
  | none => exact .error same rfl
  | some token =>
      dsimp only
      rw [ensureUniqueNodeName_same same, same.networks token.networkId]
      split
      · exact .error same rfl
      split
      · exact .error same rfl
      split
      · exact .error same rfl
      cases ensureUniqueNodeName right token.networkId nodeName none with
      | error error => exact .error same rfl
      | ok _ =>
          cases networkAt : right.networks.lookup token.networkId with
          | none => exact .error same rfl
          | some network =>
              have counted := fun advanced =>
                same.withNetworks (same.networks.replace networkAt advanced)
              have leftAt := (same.tokens request.token).trans tokenAt
              dsimp only [State.audit]
              rcases allocateNodeIps externals network with ⟨error | ⟨ipv4, ipv6⟩, advanced⟩
              · exact .error (counted advanced) rfl
              · dsimp only
                rw [leftAt, tokenAt]
                refine .ok rfl ?_
                exact (((counted advanced).withNodes (same.nodes.insert _ _)).audit _).withTokens
                  (spendToken_alike same tokenAt)

theorem registerUrlWrite_same (externals : Externals) (request : RegisterUrlRequest)
    (nodeName : String) (expiresAt : Int) :
    SameOutcome Eq Eq (registerUrlWrite externals draws request nodeName expiresAt left)
      (registerUrlWrite externals draws request nodeName expiresAt right) := by
  unfold registerUrlWrite
  rw [ensureUniqueNodeName_same same, same.networks request.networkId]
  cases ensureUniqueNodeName right request.networkId nodeName none with
  | error error => exact .error same rfl
  | ok _ =>
      cases networkAt : right.networks.lookup request.networkId with
      | none => exact .error same rfl
      | some network =>
          have counted := fun advanced =>
            same.withNetworks (same.networks.replace networkAt advanced)
          dsimp only
          rcases allocateNodeIps externals network with ⟨error | ⟨ipv4, ipv6⟩, advanced⟩
          · exact .error (counted advanced) rfl
          · exact .ok rfl (((counted advanced).withNodes (same.nodes.insert _ _)).audit _)

theorem approveNode_same {nodeId : String} {node : NodeState}
    (nodeAt : right.nodes.lookup nodeId = some node) (via : String) :
    SameOutcome Eq Eq (left.approveNode draws nodeId node via)
      (right.approveNode draws nodeId node via) :=
  .ok rfl ((same.withNodes (same.nodes.replace nodeAt _)).audit _)

theorem approveNodeSecretWrite_same (nodeId secret : String) :
    SameOutcome Eq Eq (approveNodeSecretWrite draws nodeId secret left)
      (approveNodeSecretWrite draws nodeId secret right) := by
  unfold approveNodeSecretWrite
  rw [same.nodes nodeId]
  cases nodeAt : right.nodes.lookup nodeId with
  | none => exact .error same rfl
  | some node =>
      dsimp only
      split
      · exact .ok rfl same
      cases node.authSecret with
      | none => exact .error same rfl
      | some authSecret =>
          dsimp only
          split
          · exact .error same rfl
          split
          · exact .error same rfl
          · exact approveNode_same same draws nodeAt "auth_url"

theorem approveNodeWrite_same (nodeId : String) :
    SameOutcome Eq Eq (approveNodeWrite draws nodeId left)
      (approveNodeWrite draws nodeId right) := by
  unfold approveNodeWrite
  rw [same.nodes nodeId]
  cases nodeAt : right.nodes.lookup nodeId with
  | none => exact .error same rfl
  | some node =>
      dsimp only
      split
      · exact .ok rfl same
      · exact approveNode_same same draws nodeAt "admin"

theorem nextNodeName_same (existing : NodeState) (name : Option String) :
    nextNodeName left existing name = nextNodeName right existing name := by
  unfold nextNodeName
  simp only [ensureUniqueNodeName_same same]

theorem updateNodeWrite_same (nodeId : String) (request : UpdateNodeRequest) :
    SameOutcome Eq Eq (updateNodeWrite draws nodeId request left)
      (updateNodeWrite draws nodeId request right) := by
  unfold updateNodeWrite
  rw [same.nodes nodeId]
  cases nodeAt : right.nodes.lookup nodeId with
  | none => exact .error same rfl
  | some existing =>
      dsimp only
      rw [nextNodeName_same same]
      cases nextNodeName right existing request.name with
      | error error => exact .error same rfl
      | ok nextName =>
          have edited := fun node => same.withNodes (same.nodes.replace nodeAt node)
          dsimp only
          rw [same.networks existing.networkId]
          cases right.networks.lookup existing.networkId with
          | none => exact .error (edited _) rfl
          | some network =>
              dsimp only
              split
              · exact .ok rfl (edited _)
              · exact .ok rfl ((edited _).audit _)

theorem heartbeatWrite_same (config : Config) (headers : Headers) (request : HeartbeatRequest) :
    SameOutcome Eq Eq (heartbeatWrite config draws headers request left)
      (heartbeatWrite config draws headers request right) := by
  unfold heartbeatWrite
  rw [same.nodes request.nodeId]
  cases nodeAt : right.nodes.lookup request.nodeId with
  | none => exact .error same rfl
  | some node =>
      dsimp only
      split
      · exact .error same rfl
      · exact .ok rfl (same.withNodes (same.nodes.replace nodeAt _))

theorem deleteNodeWrite_same (nodeId : String) :
    SameOutcome Eq Eq (deleteNodeWrite draws nodeId left) (deleteNodeWrite draws nodeId right) := by
  unfold deleteNodeWrite
  rw [same.nodes nodeId]
  cases right.nodes.lookup nodeId with
  | none => exact .error same rfl
  | some node => exact .ok rfl ((same.withNodes (same.nodes.erase nodeId)).audit _)

theorem rotateKeysWrite_same (config : Config) (headers : Headers) (nodeId : String)
    (request : KeyRotationRequest) :
    SameOutcome Eq Eq (rotateKeysWrite config draws headers nodeId request left)
      (rotateKeysWrite config draws headers nodeId request right) := by
  unfold rotateKeysWrite
  rw [same.nodes nodeId]
  cases nodeAt : right.nodes.lookup nodeId with
  | none => exact .error same rfl
  | some node =>
      have edited := fun rotated => same.withNodes (same.nodes.replace nodeAt rotated)
      dsimp only
      split
      · exact .error same rfl
      split
      · exact .error same rfl
      split
      · exact .error (edited _) rfl
      · exact .ok rfl ((edited _).audit _)

theorem revokeNodeWrite_same (nodeId : String) :
    SameOutcome Eq Eq (revokeNodeWrite draws nodeId left) (revokeNodeWrite draws nodeId right) := by
  unfold revokeNodeWrite
  rw [same.nodes nodeId]
  cases nodeAt : right.nodes.lookup nodeId with
  | none => exact .error same rfl
  | some node => exact .ok rfl ((same.withNodes (same.nodes.replace nodeAt _)).audit _)

end

/-! ### Routes that read -/

structure SameNetmap (left right : NetMap) : Prop where
  view : SameView left right
  revision : left.revision = right.revision

inductive SameRead : ReadResponse → ReadResponse → Prop
  | tokens {left right : List EnrollmentToken} (perm : left.Perm right) :
      SameRead (.tokens left) (.tokens right)
  | nodes {left right : List NodeInfo} (perm : left.Perm right) :
      SameRead (.nodes left) (.nodes right)
  | acl (policy : AclPolicy) : SameRead (.acl policy) (.acl policy)
  | keyPolicy (policy : KeyRotationPolicy) : SameRead (.keyPolicy policy) (.keyPolicy policy)
  | keys (nodeId : String) (keys : List KeyRecord) :
      SameRead (.keys nodeId keys) (.keys nodeId keys)
  | audit {left right : List AuditEntry} (entries : List.Forall₂ SameEntry left right) :
      SameRead (.audit left) (.audit right)
  | netmap {left right : NetMap} (same : SameNetmap left right) :
      SameRead (.netmap left) (.netmap right)
  | poll {left right : NetMap} (revision : Nat) (same : SameNetmap left right) :
      SameRead (.poll revision left) (.poll revision right)

namespace SameAnswer

variable {Checked Result Answer : Type} {alike : ApiError → ApiError → Prop}
  {related : Result → Result → Prop} {relatedAnswer : Answer → Answer → Prop}

theorem bind_self (checked : Except ApiError Checked)
    {first second : Checked → Except ApiError Result}
    (continues : ∀ value, checked = .ok value →
      SameAnswer Eq related (first value) (second value)) :
    SameAnswer Eq related (checked.bind first) (checked.bind second) := by
  cases checked with
  | error error => exact .error rfl
  | ok value => exact continues value rfl

theorem map {left right : Except ApiError Result} (same : SameAnswer alike related left right)
    {first second : Result → Answer}
    (maps : ∀ one two, related one two → relatedAnswer (first one) (second two)) :
    SameAnswer alike relatedAnswer (left.map first) (right.map second) := by
  cases same with
  | ok holds => exact .ok (maps _ _ holds)
  | error holds => exact .error holds

theorem map_self (checked : Except ApiError Checked) {first second : Checked → Answer}
    (maps : ∀ value, checked = .ok value → relatedAnswer (first value) (second value)) :
    SameAnswer Eq relatedAnswer (checked.map first) (checked.map second) := by
  cases checked with
  | error error => exact .error rfl
  | ok value => exact .ok (maps value rfl)

end SameAnswer

section

variable {left right : State} (same : SameState left right)

include same

theorem buildNetmap_same (nodeId : String) (relay : Option RelayConfig) (now generatedAt : Int) :
    SameAnswer Eq SameNetmap (buildNetmap left nodeId relay now generatedAt)
      (buildNetmap right nodeId relay now generatedAt) := by
  cases nodeAt : right.nodes.lookup nodeId with
  | none =>
      unfold buildNetmap
      rw [same.nodes nodeId, nodeAt]
      exact .error rfl
  | some node =>
      cases networkAt : right.networks.lookup node.networkId with
      | none =>
          unfold buildNetmap
          rw [same.nodes nodeId, nodeAt]
          dsimp only
          rw [same.networks node.networkId, networkAt]
          exact .error rfl
      | some network =>
          have leftNode := (same.nodes nodeId).trans nodeAt
          have leftNetwork := (same.networks node.networkId).trans networkAt
          rw [buildNetmap_of_stored nodeAt networkAt,
            buildNetmap_of_stored leftNode leftNetwork]
          have peers : (shownPeers left node network nodeId now).Perm
              (shownPeers right node network nodeId now) :=
            (same.nodes.values_perm.filter _).map _
          have probes : probeRequestOf left now = probeRequestOf right now := by
            funext peer
            unfold probeRequestOf
            rw [same.nodes peer.id]
          refine .ok ⟨⟨rfl, rfl, peers, rfl, ?_, rfl⟩, same.revision⟩
          change (List.filterMap _ _).Perm (List.filterMap _ _)
          rw [probes]
          exact peers.filterMap _

theorem readNode_same (config : Config) (headers : Headers) (nodeId : String) :
    readNode config headers left nodeId = readNode config headers right nodeId := by
  unfold readNode
  rw [same.nodes nodeId]

theorem readNetwork_same (networkId : String) :
    readNetwork left networkId = readNetwork right networkId := by
  unfold readNetwork
  rw [same.networks networkId]

theorem sortedTokens_perm (networkId : String) :
    (sortedTokens left networkId).Perm (sortedTokens right networkId) := by
  have listed := (same.tokens.values_perm.filter
    fun token => decide (token.networkId = networkId)).map EnrollmentToken.ofState
  unfold sortedTokens
  exact (List.reverse_perm _).trans ((List.mergeSort_perm _ _).trans
    (listed.trans ((List.mergeSort_perm _ _).symm.trans (List.reverse_perm _).symm)))

omit same in
theorem lastEntries_same {entries others : List AuditEntry}
    (alike : List.Forall₂ SameEntry entries others) (limit : Option Nat)
    {test : AuditEntry → Bool}
    (respects : ∀ entry other, SameEntry entry other → test entry = test other) :
    List.Forall₂ SameEntry (lastEntries limit (entries.filter test))
      (lastEntries limit (others.filter test)) := by
  have filtered : List.Forall₂ SameEntry (entries.filter test) (others.filter test) := by
    refine List.rel_filter ?_ alike
    intro entry other same
    dsimp only
    rw [respects entry other same]
  unfold lastEntries
  cases limit with
  | none => exact filtered
  | some limit =>
      dsimp only
      rw [filtered.length_eq]
      exact List.forall₂_drop _ filtered

theorem readRoute_same (config : Config) (draws : Draws) (headers : Headers) (route : ReadRoute) :
    SameAnswer Eq SameRead (readRoute config draws headers left route)
      (readRoute config draws headers right route) := by
  cases route with
  | listTokens networkId =>
      refine .bind_self _ fun _ _ => ?_
      rw [readNetwork_same same]
      exact .map_self _ fun _ _ => .tokens (sortedTokens_perm same networkId)
  | adminNodes networkId =>
      refine .bind_self _ fun _ _ => ?_
      rw [readNetwork_same same]
      exact .map_self _ fun _ _ => .nodes ((same.nodes.values_perm.filter _).map _)
  | getAcl networkId =>
      refine .bind_self _ fun _ _ => ?_
      rw [readNetwork_same same]
      exact .map_self _ fun network _ => .acl network.acl
  | getKeyPolicy networkId =>
      refine .bind_self _ fun _ _ => ?_
      rw [readNetwork_same same]
      exact .map_self _ fun network _ => .keyPolicy network.keyPolicy
  | nodeKeys nodeId =>
      simp only [readRoute, readNode_same same]
      exact .map_self _ fun node _ => .keys nodeId node.keyHistory
  | auditLog networkId nodeId limit =>
      refine .map_self _ fun _ _ => .audit (lastEntries_same same.auditLog limit ?_)
      intro entry other alike
      have sameNetwork := congrArg AuditEntry.networkId alike.fields
      have sameNode := congrArg AuditEntry.nodeId alike.fields
      dsimp only at sameNetwork sameNode
      rw [sameNetwork, sameNode]
  | netmap nodeId =>
      simp only [readRoute, readNode_same same]
      refine .bind_self _ fun _ _ => ?_
      exact (buildNetmap_same same nodeId _ _ _).map fun _ _ => .netmap
  | netmapPoll nodeId =>
      simp only [readRoute, readNode_same same, same.revision]
      refine .bind_self _ fun _ _ => ?_
      exact (buildNetmap_same same nodeId _ _ _).map fun _ _ => .poll right.revision

end

/-! ### Requests -/

inductive SameResponse : Response → Response → Prop
  | same (response : Response) : SameResponse response response
  | registered {left right : NetMap} (nodeToken : String) (same : SameNetmap left right) :
      SameResponse (.registered ⟨nodeToken, left⟩) (.registered ⟨nodeToken, right⟩)
  | netmap {left right : NetMap} (same : SameNetmap left right) :
      SameResponse (.netmap left) (.netmap right)
  | read {left right : ReadResponse} (same : SameRead left right) :
      SameResponse (.read left) (.read right)

section

variable {Checked Result Answer : Type} {alike : ApiError → ApiError → Prop}
  {related : Result → Result → Prop} {relatedAnswer : Answer → Answer → Prop}
  {left right : State}

theorem write_same [Std.Refl alike] {closure : Handler Result} (config : Config) (draws : Draws)
    (same : SameState left right)
    (outcome : SameOutcome alike Eq (closure left) (closure right)) :
    SameOutcome alike Eq (config.write draws closure left)
      (config.write draws closure right) := by
  unfold Config.write Backend.write
  revert outcome
  rcases closure left with ⟨first, firstLeft⟩
  rcases closure right with ⟨second, secondLeft⟩
  rintro ⟨answer, after⟩
  cases answer with
  | error holds =>
      cases config.backend with
      | file => exact .error after holds
      | db => exact .error same holds
  | ok holds =>
      cases config.backend with
      | file =>
          dsimp only
          split
          · exact .ok holds after.bump
          · exact .error after.bump (Std.Refl.refl _)
      | db =>
          dsimp only
          split
          · exact .ok holds after.bump
          · exact .error same (Std.Refl.refl _)

theorem check_same [Std.Refl alike] (checked : Except ApiError Checked)
    {next : Checked → Handler Result} (same : SameState left right)
    (continues : ∀ value, checked = .ok value →
      SameOutcome alike related (next value left) (next value right)) :
    SameOutcome alike related (check checked next left) (check checked next right) := by
  unfold check
  cases checked with
  | error error => exact .error same (Std.Refl.refl error)
  | ok value => exact continues value rfl

theorem respond_same {handler : Handler Result} {response : Result → Answer}
    (outcome : SameOutcome alike related (handler left) (handler right))
    (maps : ∀ one two, related one two → relatedAnswer (response one) (response two)) :
    SameOutcome alike relatedAnswer (handler.respond response left)
      (handler.respond response right) :=
  ⟨outcome.answer.map maps, outcome.state⟩

theorem respond_eq {handler : Handler Result} {response : Result → Answer}
    (outcome : SameOutcome alike Eq (handler left) (handler right)) :
    SameOutcome alike Eq (handler.respond response left) (handler.respond response right) :=
  respond_same outcome fun _ _ => congrArg response

theorem andRead_same {handler : Handler Result} {read : Result → State → Except ApiError Answer}
    (outcome : SameOutcome Eq Eq (handler left) (handler right))
    (reads : ∀ result first second, SameState first second →
      SameAnswer Eq relatedAnswer (read result first) (read result second)) :
    SameOutcome Eq relatedAnswer (handler.andRead read left) (handler.andRead read right) := by
  unfold Handler.andRead
  revert outcome
  rcases handler left with ⟨first, firstLeft⟩
  rcases handler right with ⟨second, secondLeft⟩
  rintro ⟨answer, after⟩
  cases answer with
  | error holds => exact .error after holds
  | ok holds =>
      subst holds
      exact ⟨reads _ _ _ after, after⟩

end

structure SameRegistered (left right : RegisterResponse) : Prop where
  nodeToken : left.nodeToken = right.nodeToken
  netmap : SameNetmap left.netmap right.netmap

theorem register_same {left right : State} (same : SameState left right) (config : Config)
    (draws : Draws) (request : RegisterRequest) :
    SameOutcome Eq SameRegistered (register config draws request left)
      (register config draws request right) := by
  refine check_same _ same fun nodeName _ => ?_
  refine andRead_same (write_same config draws same
    (registerWrite_same same draws config.externals request nodeName)) ?_
  intro nodeId first second after
  exact (buildNetmap_same after nodeId _ _ _).map fun _ _ netmaps => ⟨rfl, netmaps⟩

/-- No request tells two states apart that differ in the order of their maps. -/
theorem handle_same {left right : State} (same : SameState left right) (config : Config)
    (call : Call) :
    SameOutcome (SameError config call right) SameResponse (handle config call left)
      (handle config call right) := by
  have plain : ∀ {Result : Type} {response : Result → Response} (one two : Result), one = two →
      SameResponse (response one) (response two) := by
    rintro Result response one _ rfl
    exact .same _
  unfold handle
  cases asked : call.request with
  | createNetwork request =>
      refine respond_same (check_same _ same fun _ _ => check_same _ same fun planned plan => ?_)
        plain
      exact respond_eq (write_same config call.draws same
        (createNetworkWrite_same same asked plan))
  | deleteNetwork networkId =>
      refine (respond_same (check_same _ same fun _ _ => ?_) plain).weaken
      exact write_same config call.draws same (deleteNetworkWrite_same same call.draws networkId)
  | createToken networkId request =>
      refine (respond_same (check_same _ same fun _ _ => ?_) plain).weaken
      exact respond_eq (write_same config call.draws same
        (createTokenWrite_same same call.draws networkId request))
  | revokeToken tokenId =>
      refine (respond_same (check_same _ same fun _ _ => ?_) plain).weaken
      exact respond_eq (write_same config call.draws same
        (revokeTokenWrite_same same call.draws tokenId))
  | register request =>
      refine (respond_same (register_same same config call.draws request) ?_).weaken
      rintro ⟨nodeToken, first⟩ ⟨_, second⟩ ⟨sameToken, netmaps⟩
      cases sameToken
      exact .registered nodeToken netmaps
  | registerUrl request =>
      refine (respond_same (check_same _ same fun _ _ => check_same _ same fun nodeName _ => ?_)
        plain).weaken
      exact respond_eq (write_same config call.draws same
        (registerUrlWrite_same same call.draws config.externals request nodeName _))
  | approveNodeSecret nodeId secret =>
      exact (respond_same (respond_eq (write_same config call.draws same
        (approveNodeSecretWrite_same same call.draws nodeId secret))) plain).weaken
  | approveNode nodeId =>
      refine (respond_same (check_same _ same fun _ _ => ?_) plain).weaken
      exact respond_eq (write_same config call.draws same
        (approveNodeWrite_same same call.draws nodeId))
  | updateNode nodeId request =>
      refine (respond_same (check_same _ same fun _ _ => check_same _ same fun _ _ => ?_)
        plain).weaken
      exact write_same config call.draws same (updateNodeWrite_same same call.draws nodeId request)
  | updateAcl networkId policy =>
      refine (respond_same (check_same _ same fun _ _ => ?_) plain).weaken
      exact write_same config call.draws same (updateAclWrite_same same call.draws networkId policy)
  | updateKeyPolicy networkId policy =>
      refine (respond_same (check_same _ same fun _ _ => ?_) plain).weaken
      exact write_same config call.draws same
        (updateKeyPolicyWrite_same same call.draws networkId policy)
  | rotateKeys nodeId request =>
      refine (respond_same (check_same _ same fun _ _ => ?_) plain).weaken
      exact respond_eq (write_same config call.draws same
        (rotateKeysWrite_same same call.draws config call.headers nodeId request))
  | revokeNode nodeId =>
      refine (respond_same (check_same _ same fun _ _ => ?_) plain).weaken
      exact respond_eq (write_same config call.draws same
        (revokeNodeWrite_same same call.draws nodeId))
  | deleteNode nodeId =>
      refine (respond_same (check_same _ same fun _ _ => ?_) plain).weaken
      exact write_same config call.draws same (deleteNodeWrite_same same call.draws nodeId)
  | heartbeat request =>
      refine (respond_same (andRead_same (write_same config call.draws same
        (heartbeatWrite_same same call.draws config call.headers request)) ?_)
        fun _ _ => .netmap).weaken
      intro _ first second after
      exact buildNetmap_same after request.nodeId _ _ _
  | read route =>
      have answer := readRoute_same same config call.draws call.headers route
      exact SameOutcome.weaken ⟨answer.map fun _ _ => .read, same⟩

theorem Closure.same {config : Config} {call : Call} {closure : Handler Unit}
    (asked : Closure config call closure) {left right : State} (same : SameState left right) :
    SameOutcome (SameError config call right) Eq (closure left) (closure right) := by
  cases asked with
  | createNetwork request planned asked admin plan =>
      exact respond_eq (createNetworkWrite_same same asked plan)
  | deleteNetwork networkId =>
      exact (respond_eq (deleteNetworkWrite_same same call.draws networkId)).weaken
  | createToken networkId request =>
      exact (respond_eq (createTokenWrite_same same call.draws networkId request)).weaken
  | revokeToken tokenId => exact (respond_eq (revokeTokenWrite_same same call.draws tokenId)).weaken
  | register request nodeName =>
      exact (respond_eq
        (registerWrite_same same call.draws config.externals request nodeName)).weaken
  | registerUrl request nodeName expiresAt =>
      exact (respond_eq
        (registerUrlWrite_same same call.draws config.externals request nodeName expiresAt)).weaken
  | approveNodeSecret nodeId secret =>
      exact (respond_eq (approveNodeSecretWrite_same same call.draws nodeId secret)).weaken
  | approveNode nodeId => exact (respond_eq (approveNodeWrite_same same call.draws nodeId)).weaken
  | updateNode nodeId request =>
      exact (respond_eq (updateNodeWrite_same same call.draws nodeId request)).weaken
  | updateAcl networkId policy =>
      exact (respond_eq (updateAclWrite_same same call.draws networkId policy)).weaken
  | updateKeyPolicy networkId policy =>
      exact (respond_eq (updateKeyPolicyWrite_same same call.draws networkId policy)).weaken
  | rotateKeys nodeId request =>
      exact (respond_eq
        (rotateKeysWrite_same same call.draws config call.headers nodeId request)).weaken
  | revokeNode nodeId => exact (respond_eq (revokeNodeWrite_same same call.draws nodeId)).weaken
  | deleteNode nodeId => exact (respond_eq (deleteNodeWrite_same same call.draws nodeId)).weaken
  | heartbeat request =>
      exact (respond_eq (heartbeatWrite_same same call.draws config call.headers request)).weaken

theorem step_same {left right : State} (same : SameState left right) (config : Config)
    (call : Call) : SameState (step config left call) (step config right call) :=
  (handle_same same config call).state

/-! ### Runs -/

/-- A run of requests in which the maps may be put in another order before every request. -/
inductive ShuffledRun (config : Config) :
    List Call → State → List (Except ApiError Response) → Prop
  | start : ShuffledRun config [] State.default []
  | request {calls : List Call} {state : State} {answers : List (Except ApiError Response)}
      (earlier : ShuffledRun config calls state answers) (shuffled : State)
      (same : SameState shuffled state) (call : Call) :
      ShuffledRun config (calls ++ [call]) (handle config call shuffled).2
        (answers ++ [(handle config call shuffled).1])

theorem shuffledRun_run (config : Config) (calls : List Call) :
    ShuffledRun config calls (run config calls)
      ((history config calls).map fun event => (handle config event.input event.before).1) := by
  induction calls using List.reverseRecOn with
  | nil => exact .start
  | append_singleton calls call ih =>
      rw [run, exec_snoc, history, trace_snoc, List.map_append]
      exact ih.request (run config calls) (.refl _) call

def State.withNodeFirst (state : State) (nodeId : String) : State :=
  match state.nodes.lookup nodeId with
  | none => state
  | some node => { state with nodes := state.nodes.insert nodeId node }

theorem withNodeFirst_same (state : State) (nodeId : String) :
    SameState (state.withNodeFirst nodeId) state := by
  unfold State.withNodeFirst
  cases nodeAt : state.nodes.lookup nodeId with
  | none => exact .refl state
  | some node =>
      refine (SameState.refl state).withNodes fun key => ?_
      by_cases moved : key = nodeId
      · rw [moved, AList.lookup_insert, nodeAt]
      · rw [AList.lookup_insert_ne moved]

/-- The iteration order of the maps is not observable: over a whole run the requests are
answered as if no map had ever changed its order. -/
theorem map_order_unobservable {config : Config} {calls : List Call} {state : State}
    {answers : List (Except ApiError Response)}
    (shuffled : ShuffledRun config calls state answers) :
    SameState state (run config calls) ∧
      List.Forall₂ (fun answer event => SameAnswer (SameError config event.input event.before)
        SameResponse answer (handle config event.input event.before).1) answers
        (history config calls) := by
  induction shuffled with
  | start => exact ⟨.refl _, .nil⟩
  | request earlier shuffled same call ih =>
      obtain ⟨state, answers⟩ := ih
      have handled := handle_same (same.trans state) config call
      constructor
      · rw [run, exec_snoc]
        exact handled.state
      · rw [history, trace_snoc]
        exact List.rel_append answers (.cons handled.answer .nil)

/-- A registration after the two nodes of a network have changed places. -/
theorem sample_map_order_unobservable :
    let before := run sampleConfig sharedNetwork
    (before.withNodeFirst "a").nodes.keys ≠ before.nodes.keys ∧
      SameState (step sampleConfig (before.withNodeFirst "a") (registerSample 3 "c" "gamma"))
        (run sampleConfig (sharedNetwork ++ [registerSample 3 "c" "gamma"])) := by
  refine ⟨by decide, ?_⟩
  have shuffled := (shuffledRun_run sampleConfig sharedNetwork).request _
    (withNodeFirst_same _ "a") (registerSample 3 "c" "gamma")
  exact (map_order_unobservable shuffled).1

end Lightscale.ControlPlane
