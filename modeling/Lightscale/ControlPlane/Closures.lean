/-
The change a request asks the store for, with the checks that were passed before.

A property of the state holds over runs when every one of these changes keeps it, whether its
closure succeeds or fails half way, and when counting the revision keeps it.
-/

import Lightscale.ControlPlane.Edit

namespace Lightscale.ControlPlane

open Foundation

/-- The closure of a request without its value, one constructor for each route that writes. -/
inductive Closure (config : Config) (call : Call) : Handler Unit → Prop where
  | createNetwork (request : CreateNetworkRequest) (planned : PlannedNetwork)
      (asked : call.request = .createNetwork request)
      (admin : requireAdmin call.headers config.adminToken = .ok ())
      (plan : planNetwork config.externals call.draws request = .ok planned) :
      Closure config call
        ((createNetworkWrite config.externals call.draws request planned).respond fun _ => ())
  | deleteNetwork (networkId : String) (asked : call.request = .deleteNetwork networkId)
      (admin : requireAdmin call.headers config.adminToken = .ok ()) :
      Closure config call ((deleteNetworkWrite call.draws networkId).respond fun _ => ())
  | createToken (networkId : String) (request : CreateTokenRequest)
      (asked : call.request = .createToken networkId request)
      (admin : requireAdmin call.headers config.adminToken = .ok ()) :
      Closure config call ((createTokenWrite call.draws networkId request).respond fun _ => ())
  | revokeToken (tokenId : String) (asked : call.request = .revokeToken tokenId)
      (admin : requireAdmin call.headers config.adminToken = .ok ()) :
      Closure config call ((revokeTokenWrite call.draws tokenId).respond fun _ => ())
  | register (request : RegisterRequest) (nodeName : String)
      (asked : call.request = .register request)
      (named : normalizeNodeName request.nodeName = .ok nodeName) :
      Closure config call
        ((registerWrite config.externals call.draws request nodeName).respond fun _ => ())
  | registerUrl (request : RegisterUrlRequest) (nodeName : String) (expiresAt : Int)
      (asked : call.request = .registerUrl request)
      (expiry : linkExpiry call.draws request = .ok expiresAt)
      (named : normalizeNodeName request.nodeName = .ok nodeName) :
      Closure config call
        ((registerUrlWrite config.externals call.draws request nodeName expiresAt).respond
          fun _ => ())
  | approveNodeSecret (nodeId secret : String)
      (asked : call.request = .approveNodeSecret nodeId secret) :
      Closure config call ((approveNodeSecretWrite call.draws nodeId secret).respond fun _ => ())
  | approveNode (nodeId : String) (asked : call.request = .approveNode nodeId)
      (admin : requireAdmin call.headers config.adminToken = .ok ()) :
      Closure config call ((approveNodeWrite call.draws nodeId).respond fun _ => ())
  | updateNode (nodeId : String) (request : UpdateNodeRequest)
      (asked : call.request = .updateNode nodeId request)
      (admin : requireAdmin call.headers config.adminToken = .ok ()) :
      Closure config call ((updateNodeWrite call.draws nodeId request).respond fun _ => ())
  | updateAcl (networkId : String) (policy : AclPolicy)
      (asked : call.request = .updateAcl networkId policy)
      (admin : requireAdmin call.headers config.adminToken = .ok ()) :
      Closure config call ((updateAclWrite call.draws networkId policy).respond fun _ => ())
  | updateKeyPolicy (networkId : String) (policy : KeyRotationPolicy)
      (asked : call.request = .updateKeyPolicy networkId policy)
      (admin : requireAdmin call.headers config.adminToken = .ok ()) :
      Closure config call ((updateKeyPolicyWrite call.draws networkId policy).respond fun _ => ())
  | rotateKeys (nodeId : String) (request : KeyRotationRequest)
      (asked : call.request = .rotateKeys nodeId request) :
      Closure config call
        ((rotateKeysWrite config call.draws call.headers nodeId request).respond fun _ => ())
  | revokeNode (nodeId : String) (asked : call.request = .revokeNode nodeId)
      (admin : requireAdmin call.headers config.adminToken = .ok ()) :
      Closure config call ((revokeNodeWrite call.draws nodeId).respond fun _ => ())
  | deleteNode (nodeId : String) (asked : call.request = .deleteNode nodeId)
      (admin : requireAdmin call.headers config.adminToken = .ok ()) :
      Closure config call ((deleteNodeWrite call.draws nodeId).respond fun _ => ())
  | heartbeat (request : HeartbeatRequest) (asked : call.request = .heartbeat request) :
      Closure config call
        ((heartbeatWrite config call.draws call.headers request).respond fun _ => ())

variable {config : Config} {call : Call} {state : State}

theorem toOption_bind_eq_some {Checked Result : Type} {checked : Except ApiError Checked}
    {next : Checked → Option Result} {result : Result}
    (found : checked.toOption.bind next = some result) :
    ∃ value, checked = .ok value ∧ next value = some result := by
  cases checked with
  | error error => cases found
  | ok value => exact ⟨value, rfl, found⟩

theorem closure_of_requestEdit {edit : Edit} (found : requestEdit config call = some edit) :
    Closure config call edit.run := by
  unfold requestEdit at found
  cases asked : call.request with
  | createNetwork request =>
      rw [asked] at found
      obtain ⟨_, admin, found⟩ := toOption_bind_eq_some found
      obtain ⟨planned, plan, found⟩ := toOption_bind_eq_some found
      cases found
      exact .createNetwork request planned asked admin plan
  | deleteNetwork networkId =>
      rw [asked] at found
      obtain ⟨_, admin, found⟩ := toOption_bind_eq_some found
      cases found
      exact .deleteNetwork networkId asked admin
  | createToken networkId request =>
      rw [asked] at found
      obtain ⟨_, admin, found⟩ := toOption_bind_eq_some found
      cases found
      exact .createToken networkId request asked admin
  | revokeToken tokenId =>
      rw [asked] at found
      obtain ⟨_, admin, found⟩ := toOption_bind_eq_some found
      cases found
      exact .revokeToken tokenId asked admin
  | register request =>
      rw [asked] at found
      obtain ⟨nodeName, named, found⟩ := toOption_bind_eq_some found
      cases found
      exact .register request nodeName asked named
  | registerUrl request =>
      rw [asked] at found
      obtain ⟨expiresAt, expiry, found⟩ := toOption_bind_eq_some found
      obtain ⟨nodeName, named, found⟩ := toOption_bind_eq_some found
      cases found
      exact .registerUrl request nodeName expiresAt asked expiry named
  | approveNodeSecret nodeId secret =>
      rw [asked] at found
      cases found
      exact .approveNodeSecret nodeId secret asked
  | approveNode nodeId =>
      rw [asked] at found
      obtain ⟨_, admin, found⟩ := toOption_bind_eq_some found
      cases found
      exact .approveNode nodeId asked admin
  | updateNode nodeId request =>
      rw [asked] at found
      obtain ⟨_, admin, found⟩ := toOption_bind_eq_some found
      obtain ⟨_, _, found⟩ := toOption_bind_eq_some found
      cases found
      exact .updateNode nodeId request asked admin
  | updateAcl networkId policy =>
      rw [asked] at found
      obtain ⟨_, admin, found⟩ := toOption_bind_eq_some found
      cases found
      exact .updateAcl networkId policy asked admin
  | updateKeyPolicy networkId policy =>
      rw [asked] at found
      obtain ⟨_, admin, found⟩ := toOption_bind_eq_some found
      cases found
      exact .updateKeyPolicy networkId policy asked admin
  | rotateKeys nodeId request =>
      rw [asked] at found
      obtain ⟨_, _, found⟩ := toOption_bind_eq_some found
      cases found
      exact .rotateKeys nodeId request asked
  | revokeNode nodeId =>
      rw [asked] at found
      obtain ⟨_, admin, found⟩ := toOption_bind_eq_some found
      cases found
      exact .revokeNode nodeId asked admin
  | deleteNode nodeId =>
      rw [asked] at found
      obtain ⟨_, admin, found⟩ := toOption_bind_eq_some found
      cases found
      exact .deleteNode nodeId asked admin
  | heartbeat request =>
      rw [asked] at found
      cases found
      exact .heartbeat request asked
  | read route =>
      rw [asked] at found
      cases found

theorem step_cases (config : Config) (state : State) (call : Call) :
    step config state call = state ∨
      ∃ closure, Closure config call closure ∧
        (step config state call = (closure state).2 ∨
          step config state call = (closure state).2.bump) := by
  rw [step_eq_applyEdit]
  cases found : requestEdit config call with
  | none => exact Or.inl rfl
  | some edit =>
      have outcome := config.backend.write_outcome call.draws.stored edit.run state
      change (config.write call.draws edit.run state).2 = state ∨ _
      cases outcome with
      | kept same => exact Or.inl same
      | failed error _ ran =>
          refine Or.inr ⟨edit.run, closure_of_requestEdit found, Or.inl ?_⟩
          exact (congrArg Prod.snd ran).symm
      | done result left ran bumped =>
          refine Or.inr ⟨edit.run, closure_of_requestEdit found, Or.inr ?_⟩
          exact bumped.trans (congrArg (fun outcome => outcome.2.bump) ran).symm

/-- What every closure of a request keeps, and counting as well, the request keeps. -/
theorem step_keeps {property : State → Prop} (holds : property state)
    (bumps : ∀ state, property state → property state.bump)
    (closures : ∀ closure, Closure config call closure → property (closure state).2) :
    property (step config state call) := by
  rcases step_cases config state call with same | ⟨closure, asked, uncounted | counted⟩
  · rw [same]
    exact holds
  · rw [uncounted]
    exact closures closure asked
  · rw [counted]
    exact bumps _ (closures closure asked)

end Lightscale.ControlPlane
