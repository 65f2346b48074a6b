/-
Where the approval of a node comes from.

A node is approved from the start when it registers with a token in a network that
asks for no approval.  Otherwise the admin approves it, or somebody who has the link
that its registration produced and uses it in time.  The invariant relates a stored
node to the event that created it: until it is approved it carries the secret and the
expiry of its creation, afterwards it carries neither.
-/

import Lightscale.ControlPlane.NodeChange

namespace Lightscale.ControlPlane

open Foundation

def Creates (config : Config) (key : String) (event : Event State Call) (node : NodeState) :
    Prop :=
  createdNode config event.before event.input = some node ∧ node.id = key

/-- How a node that an event created came to be approved, by the events after it. -/
inductive Approval (config : Config) (key : String) (created : Event State Call)
    (first : NodeState) (late : List (Event State Call)) : Prop where
  /-- It registered while its network asked for no approval. -/
  | unguarded (request : RegisterRequest) (network : NetworkState)
      (asked : created.input.request = .register request)
      (networkAt : created.before.networks.lookup first.networkId = some network)
      (isOpen : network.requiresApproval = false)
  /-- The admin approved it, and was told so unless the change could not be stored. -/
  | byAdmin (event : Event State Call) (member : event ∈ late)
      (asked : event.input.request = .approveNode key)
      (admin : requireAdmin event.input.headers config.adminToken = .ok ())
      (isApplied : (config.backend.applied event.input.draws.stored
        (approveNodeWrite event.input.draws key) event.before).isSome = true)
      (answered : event.input.draws.stored = true →
        ∃ response, (handle config event.input event.before).1 = .ok (.approved response))
  /-- Somebody presented the secret of its own registration in time. -/
  | bySecret (request : RegisterUrlRequest) (event : Event State Call) (expiresAt : Int)
      (madeByUrl : created.input.request = .registerUrl request)
      (member : event ∈ late)
      (asked : event.input.request = .approveNodeSecret key created.input.draws.authSecret)
      (secret : first.authSecret = some created.input.draws.authSecret)
      (expires : first.authExpiresAt = some expiresAt)
      (inTime : event.input.draws.now < expiresAt)

theorem Approval.append {config : Config} {key : String} {created : Event State Call}
    {first : NodeState} {late : List (Event State Call)}
    (approval : Approval config key created first late) (more : List (Event State Call)) :
    Approval config key created first (late ++ more) := by
  cases approval with
  | unguarded request network asked networkAt isOpen =>
      exact .unguarded request network asked networkAt isOpen
  | byAdmin event member asked admin isApplied answered =>
      exact .byAdmin event (List.mem_append_left _ member) asked admin isApplied answered
  | bySecret request event expiresAt madeByUrl member asked secret expires inTime =>
      exact .bySecret request event expiresAt madeByUrl (List.mem_append_left _ member) asked
        secret expires inTime

/-! ### New nodes -/

/-- The two ways a node starts: by a token, without a secret, or by a link, with one. -/
inductive Start (call : Call) (first : NodeState) : Prop where
  | byToken (request : RegisterRequest) (asked : call.request = .register request)
      (noSecret : first.authSecret = none)
  | byUrl (request : RegisterUrlRequest) (expiresAt : Int)
      (asked : call.request = .registerUrl request) (pending : first.approved = false)
      (secret : first.authSecret = some call.draws.authSecret)
      (expires : first.authExpiresAt = some expiresAt)

theorem Registration.start {call : Call} {before : State} {networkId : String}
    {network : NetworkState} {ipv4 ipv6 : String} {node : NodeState}
    {tokens : Table String TokenState}
    (registration : Registration call before networkId network ipv4 ipv6 node tokens) :
    Start call node := by
  cases registration with
  | byToken request nodeName token asked named tokenAt sameNetwork live unrevoked usable unique =>
      exact .byToken request asked rfl
  | byUrl request nodeName expiresAt asked named expiry sameNetwork unique =>
      exact .byUrl request expiresAt asked rfl rfl rfl

theorem Registration.unguarded {call : Call} {before : State} {networkId : String}
    {network : NetworkState} {ipv4 ipv6 : String} {node : NodeState}
    {tokens : Table String TokenState}
    (registration : Registration call before networkId network ipv4 ipv6 node tokens)
    (isApproved : node.approved = true) :
    (∃ request, call.request = .register request) ∧ network.requiresApproval = false ∧
      node.authSecret = none := by
  cases registration with
  | byToken request nodeName token asked named tokenAt sameNetwork live unrevoked usable unique =>
      refine ⟨⟨request, asked⟩, ?_, rfl⟩
      change (!network.requiresApproval) = true at isApproved
      rw [Bool.not_eq_true'] at isApproved
      exact isApproved
  | byUrl request nodeName expiresAt asked named expiry sameNetwork unique => cases isApproved

/-! ### Edits -/

structure SameApproval (old new : NodeState) : Prop where
  approved : new.approved = old.approved
  authSecret : new.authSecret = old.authSecret
  authExpiresAt : new.authExpiresAt = old.authExpiresAt

theorem rotateKey_sameApproval {keyType : KeyType} {newKey : Option String} {now : Int}
    {node rotated : NodeState} (ran : rotateKey keyType newKey now node = .ok rotated) :
    SameApproval node rotated := by
  rcases rotateKey_ok ran with ⟨_, same⟩ | ⟨key, _, _, changed⟩
  · rw [same]
    exact ⟨rfl, rfl, rfl⟩
  · rw [changed]
    cases keyType with
    | machine => exact ⟨rfl, rfl, rfl⟩
    | wireGuard => exact ⟨rfl, rfl, rfl⟩

/-- A node and the event that created it, the last one to do so under its id. -/
structure Origin (config : Config) (key : String) (node : NodeState)
    (created : Event State Call) (first : NodeState) (late : List (Event State Call)) :
    Prop where
  creates : Creates config key created first
  last : ∀ event ∈ late, ∀ other, ¬ Creates config key event other
  start : Start created.input first
  approval : node.approved = true →
    node.authSecret = none ∧ Approval config key created first late
  pending : node.approved = false →
    node.authSecret = first.authSecret ∧ node.authExpiresAt = first.authExpiresAt

section

variable {config : Config} {key : String} {node new : NodeState} {created : Event State Call}
  {first : NodeState} {late : List (Event State Call)}

theorem Origin.secret (origin : Origin config key node created first late)
    (notApproved : node.approved = false) {secret : String}
    (carried : node.authSecret = some secret) :
    ∃ request expiresAt, created.input.request = .registerUrl request ∧
      secret = created.input.draws.authSecret ∧
      first.authSecret = some created.input.draws.authSecret ∧
      first.authExpiresAt = some expiresAt ∧ node.authExpiresAt = some expiresAt := by
  obtain ⟨sameSecret, sameExpiry⟩ := origin.pending notApproved
  rw [carried] at sameSecret
  cases origin.start with
  | byToken request asked noSecret =>
      rw [noSecret] at sameSecret
      cases sameSecret
  | byUrl request expiresAt asked pending isSecret expires =>
      rw [isSecret, Option.some.injEq] at sameSecret
      exact ⟨request, expiresAt, asked, sameSecret, isSecret, expires, sameExpiry.trans expires⟩

end

theorem Registration.origin {config : Config} {created : Event State Call}
    {networkId : String} {network : NetworkState} {ipv4 ipv6 : String} {node : NodeState}
    {tokens : Table String TokenState}
    (registration : Registration created.input created.before networkId network ipv4 ipv6 node
      tokens)
    (networkAt : created.before.networks.lookup networkId = some network)
    (networkKeyed : network.id = networkId)
    (isMade : createdNode config created.before created.input = some node) :
    Origin config node.id node created node [] := by
  refine ⟨⟨isMade, rfl⟩, ?_, registration.start, ?_, fun _ => ⟨rfl, rfl⟩⟩
  · intro event member
    cases member
  · intro isApproved
    obtain ⟨⟨request, asked⟩, isOpen, cleared⟩ := registration.unguarded isApproved
    refine ⟨cleared, .unguarded request network asked ?_ isOpen⟩
    rw [registration.newNode.networkId, networkKeyed]
    exact networkAt

end Lightscale.ControlPlane
