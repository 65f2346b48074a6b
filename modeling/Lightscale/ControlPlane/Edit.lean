/-
The closure a request hands to the store.

A handler checks the request, hands one closure to the store and builds its answer.
What the store does with the closure depends on the backend, so the closure is taken
out of the handler here.  No closure touches the revision; that is left to the store.
-/

import Lightscale.ControlPlane.Server

namespace Lightscale.ControlPlane

open Foundation

/-- A closure that leaves the revision to the store.  Its value is dropped. -/
structure Edit where
  run : Handler Unit
  keepsRevision : ∀ state, (run state).2.revision = state.revision

section

variable {Result : Type}

def Edit.of (closure : Handler Result)
    (keeps : ∀ state, (closure state).2.revision = state.revision) : Edit where
  run := closure.respond fun _ => ()
  keepsRevision := keeps

theorem Edit.write_of (closure : Handler Result)
    (keeps : ∀ state, (closure state).2.revision = state.revision) (backend : Backend)
    (stored : Bool) (state : State) :
    (backend.write stored (Edit.of closure keeps).run state).2 =
      (backend.write stored closure state).2 := by
  unfold Edit.of Handler.respond Backend.write
  dsimp only
  rcases closure state with ⟨outcome, left⟩
  cases outcome with
  | error error => cases backend <;> rfl
  | ok result => cases backend <;> cases stored <;> rfl

end

/-! ### No closure touches the revision -/

section

variable (config : Config) (externals : Externals) (draws : Draws) (headers : Headers)
  (state : State)

theorem createNetworkWrite_revision (request : CreateNetworkRequest) (planned : PlannedNetwork) :
    (createNetworkWrite externals draws request planned state).2.revision = state.revision := by
  unfold createNetworkWrite
  dsimp only
  split
  · rfl
  split
  · rfl
  split
  · rfl
  split <;> rfl

theorem deleteNetworkWrite_revision (networkId : String) :
    (deleteNetworkWrite draws networkId state).2.revision = state.revision := by
  unfold deleteNetworkWrite
  split
  · rfl
  split <;> rfl

theorem updateAclWrite_revision (networkId : String) (policy : AclPolicy) :
    (updateAclWrite draws networkId policy state).2.revision = state.revision := by
  unfold updateAclWrite
  split <;> rfl

theorem updateKeyPolicyWrite_revision (networkId : String) (policy : KeyRotationPolicy) :
    (updateKeyPolicyWrite draws networkId policy state).2.revision = state.revision := by
  unfold updateKeyPolicyWrite
  split <;> rfl

theorem createTokenWrite_revision (networkId : String) (request : CreateTokenRequest) :
    (createTokenWrite draws networkId request state).2.revision = state.revision := by
  unfold createTokenWrite
  split
  · rfl
  split <;> rfl

theorem revokeTokenWrite_revision (tokenId : String) :
    (revokeTokenWrite draws tokenId state).2.revision = state.revision := by
  unfold revokeTokenWrite
  split <;> rfl

theorem registerWrite_revision (request : RegisterRequest) (nodeName : String) :
    (registerWrite externals draws request nodeName state).2.revision = state.revision := by
  unfold registerWrite
  split
  · rfl
  split
  · rfl
  split
  · rfl
  split
  · rfl
  split
  · rfl
  split
  · rfl
  split
  · rfl
  · dsimp only
    split <;> rfl

theorem registerUrlWrite_revision (request : RegisterUrlRequest) (nodeName : String)
    (expiresAt : Int) :
    (registerUrlWrite externals draws request nodeName expiresAt state).2.revision =
      state.revision := by
  unfold registerUrlWrite
  split
  · rfl
  split
  · rfl
  split <;> rfl

theorem approveNodeSecretWrite_revision (nodeId secret : String) :
    (approveNodeSecretWrite draws nodeId secret state).2.revision = state.revision := by
  unfold approveNodeSecretWrite
  split
  · rfl
  split
  · rfl
  split
  · rfl
  split
  · rfl
  split <;> rfl

theorem approveNodeWrite_revision (nodeId : String) :
    (approveNodeWrite draws nodeId state).2.revision = state.revision := by
  unfold approveNodeWrite
  split
  · rfl
  split <;> rfl

theorem updateNodeWrite_revision (nodeId : String) (request : UpdateNodeRequest) :
    (updateNodeWrite draws nodeId request state).2.revision = state.revision := by
  unfold updateNodeWrite
  split
  · rfl
  split
  · rfl
  dsimp only
  split
  · rfl
  dsimp only
  split <;> rfl

theorem heartbeatWrite_revision (request : HeartbeatRequest) :
    (heartbeatWrite config draws headers request state).2.revision = state.revision := by
  unfold heartbeatWrite
  split
  · rfl
  split <;> rfl

theorem deleteNodeWrite_revision (nodeId : String) :
    (deleteNodeWrite draws nodeId state).2.revision = state.revision := by
  unfold deleteNodeWrite
  split <;> rfl

theorem rotateKeysWrite_revision (nodeId : String) (request : KeyRotationRequest) :
    (rotateKeysWrite config draws headers nodeId request state).2.revision =
      state.revision := by
  unfold rotateKeysWrite
  split
  · rfl
  split
  · rfl
  split
  · rfl
  split <;> rfl

theorem revokeNodeWrite_revision (nodeId : String) :
    (revokeNodeWrite draws nodeId state).2.revision = state.revision := by
  unfold revokeNodeWrite
  split <;> rfl

end

/-! ### The closure of a request -/

/-- What a request asks the store to do, unless a check in front of the store refuses it
or it only reads. -/
def requestEdit (config : Config) (call : Call) : Option Edit :=
  match call.request with
  | .createNetwork request =>
      (requireAdmin call.headers config.adminToken).toOption.bind fun _ =>
      (planNetwork config.externals call.draws request).toOption.bind fun planned =>
      some (Edit.of (createNetworkWrite config.externals call.draws request planned)
        fun _ => createNetworkWrite_revision _ _ _ _ _)
  | .deleteNetwork networkId =>
      (requireAdmin call.headers config.adminToken).toOption.bind fun _ =>
      some (Edit.of (deleteNetworkWrite call.draws networkId)
        fun _ => deleteNetworkWrite_revision _ _ _)
  | .createToken networkId request =>
      (requireAdmin call.headers config.adminToken).toOption.bind fun _ =>
      some (Edit.of (createTokenWrite call.draws networkId request)
        fun _ => createTokenWrite_revision _ _ _ _)
  | .revokeToken tokenId =>
      (requireAdmin call.headers config.adminToken).toOption.bind fun _ =>
      some (Edit.of (revokeTokenWrite call.draws tokenId)
        fun _ => revokeTokenWrite_revision _ _ _)
  | .register request =>
      (normalizeNodeName request.nodeName).toOption.bind fun nodeName =>
      some (Edit.of (registerWrite config.externals call.draws request nodeName)
        fun _ => registerWrite_revision _ _ _ _ _)
  | .registerUrl request =>
      (linkExpiry call.draws request).toOption.bind fun expiresAt =>
      (normalizeNodeName request.nodeName).toOption.bind fun nodeName =>
      some (Edit.of (registerUrlWrite config.externals call.draws request nodeName expiresAt)
        fun _ => registerUrlWrite_revision _ _ _ _ _ _)
  | .approveNodeSecret nodeId secret =>
      some (Edit.of (approveNodeSecretWrite call.draws nodeId secret)
        fun _ => approveNodeSecretWrite_revision _ _ _ _)
  | .approveNode nodeId =>
      (requireAdmin call.headers config.adminToken).toOption.bind fun _ =>
      some (Edit.of (approveNodeWrite call.draws nodeId)
        fun _ => approveNodeWrite_revision _ _ _)
  | .updateNode nodeId request =>
      (requireAdmin call.headers config.adminToken).toOption.bind fun _ =>
      (if request.name.isNone && request.tags.isNone then
        Except.error (ApiError.badRequest "no fields to update")
        else Except.ok ()).toOption.bind fun _ =>
      some (Edit.of (updateNodeWrite call.draws nodeId request)
        fun _ => updateNodeWrite_revision _ _ _ _)
  | .updateAcl networkId policy =>
      (requireAdmin call.headers config.adminToken).toOption.bind fun _ =>
      some (Edit.of (updateAclWrite call.draws networkId policy)
        fun _ => updateAclWrite_revision _ _ _ _)
  | .updateKeyPolicy networkId policy =>
      (requireAdmin call.headers config.adminToken).toOption.bind fun _ =>
      some (Edit.of (updateKeyPolicyWrite call.draws networkId policy)
        fun _ => updateKeyPolicyWrite_revision _ _ _ _)
  | .rotateKeys nodeId request =>
      (if request.machinePublicKey.isNone && request.wgPublicKey.isNone then
        Except.error (ApiError.badRequest "no keys provided")
        else Except.ok ()).toOption.bind fun _ =>
      some (Edit.of (rotateKeysWrite config call.draws call.headers nodeId request)
        fun _ => rotateKeysWrite_revision _ _ _ _ _ _)
  | .revokeNode nodeId =>
      (requireAdmin call.headers config.adminToken).toOption.bind fun _ =>
      some (Edit.of (revokeNodeWrite call.draws nodeId)
        fun _ => revokeNodeWrite_revision _ _ _)
  | .deleteNode nodeId =>
      (requireAdmin call.headers config.adminToken).toOption.bind fun _ =>
      some (Edit.of (deleteNodeWrite call.draws nodeId)
        fun _ => deleteNodeWrite_revision _ _ _)
  | .heartbeat request =>
      some (Edit.of (heartbeatWrite config call.draws call.headers request)
        fun _ => heartbeatWrite_revision _ _ _ _ _)
  | .read _ => none

def applyEdit (config : Config) (draws : Draws) (state : State) : Option Edit → State
  | none => state
  | some edit => (config.write draws edit.run state).2

section

variable {config : Config} {draws : Draws} {state : State} {Checked Result Answer : Type}

theorem write_eq_applyEdit (closure : Handler Result)
    (keeps : ∀ state, (closure state).2.revision = state.revision) :
    (config.write draws closure state).2 =
      applyEdit config draws state (some (Edit.of closure keeps)) :=
  (Edit.write_of closure keeps config.backend draws.stored state).symm

theorem respond_eq_applyEdit (closure : Handler Result)
    (keeps : ∀ state, (closure state).2.revision = state.revision)
    (response : Result → Answer) :
    ((config.write draws closure).respond response state).2 =
      applyEdit config draws state (some (Edit.of closure keeps)) :=
  write_eq_applyEdit closure keeps

theorem andRead_eq_applyEdit (closure : Handler Result)
    (keeps : ∀ state, (closure state).2.revision = state.revision)
    (read : Result → State → Except ApiError Answer) :
    ((config.write draws closure).andRead read state).2 =
      applyEdit config draws state (some (Edit.of closure keeps)) := by
  rw [Handler.andRead_state]
  exact write_eq_applyEdit closure keeps

theorem applyEdit_check (checked : Except ApiError Checked) (next : Checked → Handler Result)
    (edit : Checked → Option Edit)
    (agrees : ∀ value, (next value state).2 = applyEdit config draws state (edit value)) :
    (check checked next state).2 =
      applyEdit config draws state (checked.toOption.bind edit) := by
  cases checked with
  | error error => rfl
  | ok value => exact agrees value

end

/-- A request changes the state by its edit alone. -/
theorem step_eq_applyEdit (config : Config) (state : State) (call : Call) :
    step config state call = applyEdit config call.draws state (requestEdit config call) := by
  cases asked : call.request with
  | createNetwork request =>
      simp only [step, handle, requestEdit, asked, Handler.respond_state]
      refine applyEdit_check _ _ _ fun _ => applyEdit_check _ _ _ fun planned => ?_
      exact respond_eq_applyEdit _ _ _
  | deleteNetwork networkId =>
      simp only [step, handle, requestEdit, asked, Handler.respond_state]
      exact applyEdit_check _ _ _ fun _ => write_eq_applyEdit _ _
  | createToken networkId request =>
      simp only [step, handle, requestEdit, asked, Handler.respond_state]
      exact applyEdit_check _ _ _ fun _ => respond_eq_applyEdit _ _ _
  | revokeToken tokenId =>
      simp only [step, handle, requestEdit, asked, Handler.respond_state]
      exact applyEdit_check _ _ _ fun _ => respond_eq_applyEdit _ _ _
  | register request =>
      simp only [step, handle, requestEdit, asked, Handler.respond_state]
      refine applyEdit_check _ _ _ fun nodeName => ?_
      exact andRead_eq_applyEdit _ _ _
  | registerUrl request =>
      simp only [step, handle, requestEdit, asked, Handler.respond_state]
      refine applyEdit_check _ _ _ fun expiresAt => applyEdit_check _ _ _ fun nodeName => ?_
      exact respond_eq_applyEdit _ _ _
  | approveNodeSecret nodeId secret =>
      simp only [step, handle, requestEdit, asked, Handler.respond_state]
      exact respond_eq_applyEdit _ _ _
  | approveNode nodeId =>
      simp only [step, handle, requestEdit, asked, Handler.respond_state]
      exact applyEdit_check _ _ _ fun _ => respond_eq_applyEdit _ _ _
  | updateNode nodeId request =>
      simp only [step, handle, requestEdit, asked, Handler.respond_state]
      refine applyEdit_check _ _ _ fun _ => applyEdit_check _ _ _ fun _ => ?_
      exact write_eq_applyEdit _ _
  | updateAcl networkId policy =>
      simp only [step, handle, requestEdit, asked, Handler.respond_state]
      exact applyEdit_check _ _ _ fun _ => write_eq_applyEdit _ _
  | updateKeyPolicy networkId policy =>
      simp only [step, handle, requestEdit, asked, Handler.respond_state]
      exact applyEdit_check _ _ _ fun _ => write_eq_applyEdit _ _
  | rotateKeys nodeId request =>
      simp only [step, handle, requestEdit, asked, Handler.respond_state]
      exact applyEdit_check _ _ _ fun _ => respond_eq_applyEdit _ _ _
  | revokeNode nodeId =>
      simp only [step, handle, requestEdit, asked, Handler.respond_state]
      exact applyEdit_check _ _ _ fun _ => respond_eq_applyEdit _ _ _
  | deleteNode nodeId =>
      simp only [step, handle, requestEdit, asked, Handler.respond_state]
      exact applyEdit_check _ _ _ fun _ => write_eq_applyEdit _ _
  | heartbeat request =>
      simp only [step, handle, requestEdit, asked, Handler.respond_state]
      exact andRead_eq_applyEdit _ _ _
  | read route =>
      simp only [step, handle, requestEdit, asked]
      rfl

end Lightscale.ControlPlane
