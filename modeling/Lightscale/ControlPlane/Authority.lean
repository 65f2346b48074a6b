/-
What a request can change without the admin token.

Every route is open to anybody, and the checks are spread over the handlers.  Here
they are put together: a request under another token, or none, registers a node with
a live token or by link, approves a node with its secret, edits the node whose token
it carries, or changes nothing.  A registration that is refused an address may still
have moved a counter of the network it asked for.
-/

import Lightscale.ControlPlane.Integrity

namespace Lightscale.ControlPlane

open Foundation

/-! ### The fields a node may change of itself -/

/-- The two records agree but for what a heartbeat and a rotation of keys set. -/
def OwnFields (node edited : NodeState) : Prop :=
  edited =
    { node with
      endpoints := edited.endpoints
      routes := edited.routes
      lastSeen := edited.lastSeen
      probeRequestedAt := edited.probeRequestedAt
      machinePublicKey := edited.machinePublicKey
      wgPublicKey := edited.wgPublicKey
      keyHistory := edited.keyHistory
      revokedAt := edited.revokedAt }

theorem OwnFields.trans {first second third : NodeState} (left : OwnFields first second)
    (right : OwnFields second third) : OwnFields first third := by
  unfold OwnFields at left right ⊢
  rw [left] at right
  exact right

theorem rotateKey_ownFields {keyType : KeyType} {newKey : Option String} {now : Int}
    {node rotated : NodeState} (ran : rotateKey keyType newKey now node = .ok rotated) :
    OwnFields node rotated := by
  rcases rotateKey_ok ran with ⟨_, same⟩ | ⟨key, _, _, changed⟩
  · subst same
    rfl
  · subst changed
    cases keyType with
    | machine => rfl
    | wireGuard => rfl

/-! ### The changes open to everybody -/

structure LiveToken (state : State) (now : Int) (tokenId : String) (token : TokenState) :
    Prop where
  tokenAt : state.tokens.lookup tokenId = some token
  live : now < token.expiresAt
  unrevoked : token.revokedAt = none
  usable : token.usesLeft ≠ 0

/-- What a request without the admin token may leave behind.  The tables are given in
full, so that whatever a case does not name is as it was. -/
inductive Authority (call : Call) (before after : State) : Prop where
  | nothing (entries : List AuditEntry)
      (leaves : Leaves before after before.networks before.nodes before.tokens entries)
  /-- One node joins the network of a live token, which loses a use. -/
  | enrolled (request : RegisterRequest) (token : TokenState) (network : NetworkState)
      (node : NodeState) (entry : AuditEntry)
      (asked : call.request = .register request)
      (live : LiveToken before call.draws.now request.token token)
      (networkAt : before.networks.lookup token.networkId = some network)
      (drawn : node.id = call.draws.nodeId)
      (home : node.networkId = token.networkId)
      (leaves : Leaves before after
        (before.networks.replace token.networkId
          { network with
            nextIpv4 := network.nextIpv4 + 1
            nextIpv6 := network.nextIpv6 + 1 })
        (before.nodes.insert node.id node)
        (spendToken before.tokens request.token token) [entry])
  /-- One node joins the named network and waits for its approval. -/
  | enrolledByLink (request : RegisterUrlRequest) (network : NetworkState) (node : NodeState)
      (entry : AuditEntry)
      (asked : call.request = .registerUrl request)
      (networkAt : before.networks.lookup request.networkId = some network)
      (drawn : node.id = call.draws.nodeId)
      (home : node.networkId = request.networkId)
      (pending : node.approved = false)
      (leaves : Leaves before after
        (before.networks.replace request.networkId
          { network with
            nextIpv4 := network.nextIpv4 + 1
            nextIpv6 := network.nextIpv6 + 1 })
        (before.nodes.insert node.id node) before.tokens [entry])
  /-- A registration with a live token or by link found no second address. -/
  | offsetSpent (networkId : String) (network : NetworkState) (entries : List AuditEntry)
      (enrolling : Enrolling call before networkId)
      (networkAt : before.networks.lookup networkId = some network)
      (leaves : Leaves before after
        (before.networks.replace networkId { network with nextIpv4 := network.nextIpv4 + 1 })
        before.nodes before.tokens entries)
  /-- The secret of a waiting node was presented in time. -/
  | approved (nodeId secret : String) (node : NodeState) (entries : List AuditEntry)
      (asked : call.request = .approveNodeSecret nodeId secret)
      (nodeAt : before.nodes.lookup nodeId = some node)
      (pending : node.approved = false)
      (carried : node.authSecret = some secret)
      (live : ∀ expiresAt, node.authExpiresAt = some expiresAt → call.draws.now < expiresAt)
      (leaves : Leaves before after before.networks
        (before.nodes.replace nodeId (node.approve call.draws.now)) before.tokens entries)
  /-- A node that presents its own token reports itself or rotates its keys. -/
  | ownNode (nodeId : String) (node edited : NodeState) (entries : List AuditEntry)
      (named : (∃ request, call.request = .rotateKeys nodeId request) ∨
        ∃ request, call.request = .heartbeat request ∧ request.nodeId = nodeId)
      (nodeAt : before.nodes.lookup nodeId = some node)
      (credential : node.nodeToken = bearerToken call.headers)
      (hasToken : node.nodeToken ≠ none)
      (own : OwnFields node edited)
      (leaves : Leaves before after before.networks (before.nodes.replace nodeId edited)
        before.tokens entries)

section

variable {config : Config} {call : Call} {before after : State}

/-- The edits of a node that need no admin. -/
theorem NodeEdit.authority {nodeId : String} {node edited : NodeState}
    {entries : List AuditEntry} {admin : String} (configured : config.adminToken = some admin)
    (plain : bearerToken call.headers ≠ some admin)
    (nodeAt : before.nodes.lookup nodeId = some node) (hasToken : node.nodeToken ≠ none)
    (edit : NodeEdit config call before nodeId node edited)
    (leaves : Leaves before after before.networks (before.nodes.replace nodeId edited)
      before.tokens entries) :
    Authority call before after := by
  have refused := requireAdmin_ne_ok plain
  rw [← configured] at refused
  have opened : requireNode call.headers config.adminToken node = .ok () →
      node.nodeToken = bearerToken call.headers := by
    rw [configured]
    exact requireNode_own plain hasToken
  cases edit with
  | approvedBySecret secret asked pending carried live =>
      exact .approved nodeId secret node entries asked nodeAt pending carried live leaves
  | approvedByAdmin asked allowed => exact absurd allowed refused
  | updated request nextName asked allowed => exact absurd allowed refused
  | rotated request machineRotated bothRotated asked allowed provided machine wireGuard =>
      have own := (rotateKey_ownFields machine).trans (rotateKey_ownFields wireGuard)
      refine .ownNode nodeId node _ entries (Or.inl ⟨request, asked⟩) nodeAt (opened allowed)
        hasToken ?_ leaves
      exact own.trans rfl
  | rotatedPartly request machineRotated error asked allowed machine =>
      exact .ownNode nodeId node _ entries (Or.inl ⟨request, asked⟩) nodeAt (opened allowed)
        hasToken (rotateKey_ownFields machine) leaves
  | revoked asked allowed => exact absurd allowed refused
  | heartbeat request asked named allowed probeRequestedAt =>
      refine .ownNode nodeId node _ entries (Or.inr ⟨request, asked, named⟩) nodeAt
        (opened allowed) hasToken ?_ leaves
      rfl

theorem NetworkEdit.authority {networkId : String} {network edited : NetworkState}
    {entries : List AuditEntry} {admin : String} (configured : config.adminToken = some admin)
    (plain : bearerToken call.headers ≠ some admin)
    (inv : before.Integrity config.externals)
    (networkAt : before.networks.lookup networkId = some network)
    (edit : NetworkEdit config call before networkId network edited)
    (leaves : Leaves before after (before.networks.replace networkId edited) before.nodes
      before.tokens entries) :
    Authority call before after := by
  have refused := requireAdmin_ne_ok plain
  rw [← configured] at refused
  cases edit with
  | acl policy asked allowed => exact absurd allowed refused
  | keyPolicy policy asked allowed => exact absurd allowed refused
  | offsetSpent error advanced enrolling failed =>
      obtain ⟨v4, v6, sound⟩ := inv.overlays networkId network networkAt
      rcases (allocateNodeIps_error sound failed).1 with same | moved
      · rw [same, Table.replace_self networkAt] at leaves
        exact .nothing entries leaves
      · rw [moved] at leaves
        exact .offsetSpent networkId network entries enrolling networkAt leaves

theorem Transition.authority {made : Option NodeState} {granted : Option TokenState}
    {admin : String} (configured : config.adminToken = some admin)
    (plain : bearerToken call.headers ≠ some admin)
    (inv : before.Integrity config.externals)
    (keyed : ∀ key node, before.nodes.lookup key = some node → NodeKeyed key node)
    (transition : Transition config call before after made granted) :
    Authority call before after := by
  have refused := requireAdmin_ne_ok plain
  rw [← configured] at refused
  cases transition with
  | idle leaves => exact .nothing [] leaves
  | networkCreated request planned _ entry asked allowed => exact absurd allowed refused
  | networkDeleted networkId network entry asked allowed => exact absurd allowed refused
  | networkEdited networkId network edited entries networkAt edit leaves =>
      exact edit.authority configured plain inv networkAt leaves
  | tokenCreated networkId request network token entry asked allowed =>
      exact absurd allowed refused
  | tokenRevoked tokenId token entry asked allowed => exact absurd allowed refused
  | nodeRegistered networkId network advanced ipv4 ipv6 node tokens entry networkAt allocated
      registration leaves =>
      obtain ⟨v4, v6, sound⟩ := inv.overlays networkId network networkAt
      have home : node.networkId = networkId :=
        registration.newNode.networkId.trans (inv.networkKeys networkId network networkAt)
      rw [(allocateNodeIps_ok sound allocated).record] at leaves
      cases registration with
      | byToken request nodeName token asked named tokenAt sameNetwork live unrevoked usable =>
          subst sameNetwork
          exact .enrolled request token network _ entry asked
            ⟨tokenAt, live, unrevoked, usable⟩ networkAt rfl home leaves
      | byUrl request nodeName expiresAt asked named expiry sameNetwork =>
          subst sameNetwork
          exact .enrolledByLink request network _ entry asked networkAt rfl home rfl leaves
  | nodeEdited nodeId node edited entries nodeAt edit leaves =>
      exact edit.authority configured plain nodeAt (keyed nodeId node nodeAt).hasToken leaves
  | nodeDeleted nodeId node entry asked allowed => exact absurd allowed refused

end

/-- After any run, a request that does not carry the admin token changes the state within
the authority of a registration, of a secret or of a node's own token. -/
theorem nonadmin_request_confined (config : Config) (calls : List Call) (call : Call)
    (admin : String) (configured : config.adminToken = some admin)
    (plain : bearerToken call.headers ≠ some admin) :
    Authority call (run config calls) (step config (run config calls) call) :=
  (step_transition config (run config calls) call).authority configured plain
    (run_integrity config calls) (run_nodeKeyed config calls)

def sampleReport : Call :=
  nodeCall 2 "a" (.heartbeat
    { nodeId := "a", endpoints := ["192.0.2.1:4000"], listenPort := none, routes := [],
      probe := none })

theorem sample_nonadmin_request_confined :
    Authority sampleReport (run sampleConfig [createSample 0, registerSample 1 "a" "alpha"])
      (step sampleConfig (run sampleConfig [createSample 0, registerSample 1 "a" "alpha"])
        sampleReport) :=
  nonadmin_request_confined sampleConfig [createSample 0, registerSample 1 "a" "alpha"]
    sampleReport "root" rfl (by decide +kernel)

end Lightscale.ControlPlane
