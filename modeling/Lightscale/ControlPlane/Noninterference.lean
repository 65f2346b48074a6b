/-
Networks on one server do not interfere.

Requests about other networks can be taken out of a run: the part of the state that belongs to
this network stays the same, and so do the answers to its own requests, up to the revision,
which counts the requests of all networks.
-/

import Lightscale.ControlPlane.Tenants

namespace Lightscale.ControlPlane

open Foundation

/-! ### Answers -/

def ReadRoute.network (state : State) : ReadRoute → Option String
  | .listTokens networkId => some networkId
  | .adminNodes networkId => some networkId
  | .getAcl networkId => some networkId
  | .getKeyPolicy networkId => some networkId
  | .nodeKeys nodeId => nodeNetwork state nodeId
  | .auditLog networkId _ _ => networkId
  | .netmap nodeId => nodeNetwork state nodeId
  | .netmapPoll nodeId => nodeNetwork state nodeId

/-- The network that a request edits or reads. -/
def tenantOf (state : State) (call : Call) : Option String :=
  match call.request with
  | .read route => route.network state
  | _ => concernedNetwork state call

theorem concernedNetwork_of_tenantOf {state : State} {call : Call} {networkId : String}
    (elsewhere : tenantOf state call ≠ some networkId) :
    concernedNetwork state call ≠ some networkId := by
  unfold tenantOf at elsewhere
  split at elsewhere
  · rename_i route asked
    simp [concernedNetwork, asked]
  · exact elsewhere

def NetMap.unversioned (netmap : NetMap) : NetMap := { netmap with revision := 0 }

def ReadResponse.unversioned : ReadResponse → ReadResponse
  | .netmap view => .netmap view.unversioned
  | .poll _ view => .poll 0 view.unversioned
  | response => response

/-- The response without the revision, which counts the requests of all networks. -/
def Response.unversioned : Response → Response
  | .registered response => .registered { response with netmap := response.netmap.unversioned }
  | .netmap view => .netmap view.unversioned
  | .read response => .read response.unversioned
  | response => response

theorem except_map_map {Value Middle Answer : Type} (value : Except ApiError Value)
    (first : Value → Middle) (second : Middle → Answer) :
    (value.map first).map second = value.map fun one => second (first one) := by
  cases value <;> rfl

theorem map_of_unversioned {Answer : Type} {first second : Except ApiError NetMap}
    (same : first.map NetMap.unversioned = second.map NetMap.unversioned)
    {one two : NetMap → Answer}
    (forgets : ∀ left right, left.unversioned = right.unversioned → one left = two right) :
    first.map one = second.map two := by
  cases first with
  | error error =>
      cases second with
      | error other => cases same; rfl
      | ok right => cases same
  | ok left =>
      cases second with
      | error other => cases same
      | ok right => exact congrArg Except.ok (forgets left right (Except.ok.inj same))

section

variable {state : State} {networkId : String}

theorem nodeNetwork_only_iff {nodeId : String} :
    nodeNetwork (state.only networkId) nodeId = some networkId ↔
      nodeNetwork state nodeId = some networkId := by
  constructor
  · intro home
    obtain ⟨node, nodeAt, same⟩ := exists_node_of_home home
    have stored := ((Table.lookup_retain_eq_some_iff _ _ _ _).mp nodeAt).1
    rw [nodeNetwork, stored, Option.map_some, same]
  · intro home
    obtain ⟨node, nodeAt, same⟩ := exists_node_of_home home
    rw [nodeNetwork, State.only_node nodeAt same, Option.map_some, same]

theorem tokenNetwork_only_iff {tokenId : String} :
    tokenNetwork (state.only networkId) tokenId = some networkId ↔
      tokenNetwork state tokenId = some networkId := by
  constructor
  · intro home
    obtain ⟨token, tokenAt, same⟩ := exists_token_of_home home
    have stored := ((Table.lookup_retain_eq_some_iff _ _ _ _).mp tokenAt).1
    rw [tokenNetwork, stored, Option.map_some, same]
  · intro home
    obtain ⟨token, tokenAt, same⟩ := exists_token_of_home home
    rw [tokenNetwork, State.only_token tokenAt same, Option.map_some, same]

theorem buildNetmap_only (keyed : Keyed state) {nodeId : String}
    (home : nodeNetwork state nodeId = some networkId) (relay : Option RelayConfig)
    (now generatedAt : Int) :
    (buildNetmap (state.only networkId) nodeId relay now generatedAt).map NetMap.unversioned =
      (buildNetmap state nodeId relay now generatedAt).map NetMap.unversioned := by
  obtain ⟨node, nodeAt, same⟩ := exists_node_of_home home
  subst same
  have onlyNode := State.only_node nodeAt rfl
  cases networkAt : state.networks.lookup node.networkId with
  | none =>
      unfold buildNetmap
      rw [onlyNode, nodeAt]
      dsimp only
      rw [State.only_network, networkAt]
  | some network =>
      have onlyNetwork : (state.only node.networkId).networks.lookup node.networkId =
          some network := State.only_network.trans networkAt
      have named := keyed.networks _ _ networkAt
      rw [buildNetmap_of_stored nodeAt networkAt, buildNetmap_of_stored onlyNode onlyNetwork]
      have peers : shownPeers (state.only node.networkId) node network nodeId now =
          shownPeers state node network nodeId now := by
        unfold shownPeers
        rw [State.only_nodeValues, List.filter_filter]
        congr 2
        funext other
        unfold isPeerOf
        rw [named]
        cases decide (other.networkId = node.networkId) <;> simp
      have probes : collectProbeRequests (state.only node.networkId)
            (shownPeers state node network nodeId now) now =
          collectProbeRequests state (shownPeers state node network nodeId now) now := by
        apply List.filterMap_congr
        intro peer shown
        obtain ⟨other, found, isPeer, -⟩ := (mem_shownPeers keyed.nodes).mp shown
        unfold probeRequestOf
        rw [State.only_node found (visible_of_isPeerOf named isPeer).sameNetwork, found]
      unfold netmapOf
      rw [peers, probes]
      rfl

end

/-! ### Two servers with the same part -/

structure SamePart (networkId : String) (left right : State) : Prop where
  same : left.only networkId = right.only networkId
  leftKeyed : Keyed left
  rightKeyed : Keyed right

namespace SamePart

variable {networkId : String} {left right : State} (part : SamePart networkId left right)

include part

theorem network : left.networks.lookup networkId = right.networks.lookup networkId := by
  rw [← State.only_network, part.same, State.only_network]

theorem readNetwork_eq : readNetwork left networkId = readNetwork right networkId := by
  unfold readNetwork
  rw [part.network]

theorem home {nodeId : String} (home : nodeNetwork left nodeId = some networkId) :
    nodeNetwork right nodeId = some networkId := by
  rw [← nodeNetwork_only_iff, ← part.same]
  exact nodeNetwork_only_iff.mpr home

theorem tokenHome {tokenId : String} (home : tokenNetwork left tokenId = some networkId) :
    tokenNetwork right tokenId = some networkId := by
  rw [← tokenNetwork_only_iff, ← part.same]
  exact tokenNetwork_only_iff.mpr home

theorem node {nodeId : String} (home : nodeNetwork left nodeId = some networkId) :
    left.nodes.lookup nodeId = right.nodes.lookup nodeId := by
  obtain ⟨node, nodeAt, same⟩ := exists_node_of_home home
  have kept := State.only_node nodeAt same
  rw [part.same] at kept
  rw [nodeAt, ((Table.lookup_retain_eq_some_iff _ _ _ _).mp kept).1]

theorem readNode_eq {nodeId : String} (home : nodeNetwork left nodeId = some networkId)
    (config : Config) (headers : Headers) :
    readNode config headers left nodeId = readNode config headers right nodeId := by
  unfold readNode
  rw [part.node home]

theorem buildNetmap_eq {nodeId : String} (home : nodeNetwork left nodeId = some networkId)
    (relay : Option RelayConfig) (now generatedAt : Int) :
    (buildNetmap left nodeId relay now generatedAt).map NetMap.unversioned =
      (buildNetmap right nodeId relay now generatedAt).map NetMap.unversioned := by
  rw [← buildNetmap_only part.leftKeyed home, part.same,
    buildNetmap_only part.rightKeyed (part.home home)]

theorem sortedTokens_eq : sortedTokens left networkId = sortedTokens right networkId := by
  unfold sortedTokens
  rw [← State.only_tokenValues, part.same, State.only_tokenValues]

theorem nodeValues : left.nodes.values.filter (fun node => decide (node.networkId = networkId)) =
    right.nodes.values.filter fun node => decide (node.networkId = networkId) := by
  rw [← State.only_nodeValues, part.same, State.only_nodeValues]

theorem auditLog : left.auditLog.filter (fun entry => decide (entry.networkId = some networkId)) =
    right.auditLog.filter fun entry => decide (entry.networkId = some networkId) :=
  congrArg State.auditLog part.same

theorem readRoute_eq {route : ReadRoute} (about : route.network left = some networkId)
    (config : Config) (draws : Draws) (headers : Headers) :
    (readRoute config draws headers left route).map ReadResponse.unversioned =
      (readRoute config draws headers right route).map ReadResponse.unversioned := by
  cases route with
  | listTokens other =>
      cases about
      simp only [readRoute, part.readNetwork_eq, part.sortedTokens_eq]
  | adminNodes other =>
      cases about
      simp only [readRoute, part.readNetwork_eq, part.nodeValues]
  | getAcl other =>
      cases about
      simp only [readRoute, part.readNetwork_eq]
  | getKeyPolicy other =>
      cases about
      simp only [readRoute, part.readNetwork_eq]
  | nodeKeys nodeId => simp only [readRoute, part.readNode_eq about]
  | auditLog other nodeId limit =>
      cases about
      simp only [readRoute, Option.isNone_some, Bool.false_or]
      have entries : ∀ test : AuditEntry → Bool,
          left.auditLog.filter (fun entry => decide (entry.networkId = some networkId) &&
            test entry) =
          right.auditLog.filter (fun entry => decide (entry.networkId = some networkId) &&
            test entry) := by
        intro test
        simp only [Bool.and_comm _ (test _), ← List.filter_filter, part.auditLog]
      rw [entries]
  | netmap nodeId =>
      simp only [readRoute, part.readNode_eq about]
      cases readNode config headers right nodeId with
      | error error => rfl
      | ok node =>
          change ((buildNetmap left _ _ _ _).map ReadResponse.netmap).map _ =
            ((buildNetmap right _ _ _ _).map ReadResponse.netmap).map _
          rw [except_map_map, except_map_map]
          exact map_of_unversioned (part.buildNetmap_eq about _ _ _)
            fun _ _ => congrArg ReadResponse.netmap
  | netmapPoll nodeId =>
      simp only [readRoute, part.readNode_eq about]
      cases readNode config headers right nodeId with
      | error error => rfl
      | ok node =>
          change ((buildNetmap left _ _ _ _).map (ReadResponse.poll _)).map _ =
            ((buildNetmap right _ _ _ _).map (ReadResponse.poll _)).map _
          rw [except_map_map, except_map_map]
          exact map_of_unversioned (part.buildNetmap_eq about _ _ _)
            fun _ _ => congrArg (ReadResponse.poll 0)

end SamePart

/-! ### One request on both -/

structure SameResult {Result : Type} (networkId : String)
    (left right : Except ApiError Result × State) : Prop where
  answer : left.1 = right.1
  state : left.2.only networkId = right.2.only networkId

section

variable {Result Checked Answer : Type} {networkId : String} {left right : State}
  (same : left.only networkId = right.only networkId)

include same in
theorem write_sameResult (config : Config) (draws : Draws) {closure : Handler Result}
    (onLeft : Commutes networkId closure left) (onRight : Commutes networkId closure right) :
    SameResult networkId (config.write draws closure left) (config.write draws closure right) := by
  unfold Commutes at onLeft onRight
  rw [same, onRight] at onLeft
  unfold Config.write Backend.write
  revert onLeft
  rcases closure left with ⟨first, leftAfter⟩
  rcases closure right with ⟨second, rightAfter⟩
  intro onLeft
  obtain ⟨answers, parts⟩ := Prod.mk.inj onLeft
  dsimp only at answers parts
  subst answers
  cases second with
  | error error =>
      cases config.backend with
      | file => exact ⟨rfl, parts.symm⟩
      | db => exact ⟨rfl, same⟩
  | ok result =>
      cases config.backend with
      | file =>
          dsimp only
          split <;> exact ⟨rfl, parts.symm⟩
      | db =>
          dsimp only
          split
          · exact ⟨rfl, parts.symm⟩
          · exact ⟨rfl, same⟩

include same in
theorem check_sameResult (checked : Except ApiError Checked) {next : Checked → Handler Result}
    (continues : ∀ value, SameResult networkId (next value left) (next value right)) :
    SameResult networkId (check checked next left) (check checked next right) := by
  unfold check
  cases checked with
  | error error => exact ⟨rfl, same⟩
  | ok value => exact continues value

theorem respond_sameResult {handler : Handler Result} (response : Result → Answer)
    (result : SameResult networkId (handler left) (handler right)) :
    SameResult networkId (handler.respond response left) (handler.respond response right) :=
  ⟨congrArg (Except.map response) result.answer, result.state⟩

end

structure SameTenant (networkId : String) (left right : Except ApiError Response × State) :
    Prop where
  answer : left.1.map Response.unversioned = right.1.map Response.unversioned
  state : left.2.only networkId = right.2.only networkId

theorem SameResult.tenant {networkId : String} {left right : Except ApiError Response × State}
    (result : SameResult networkId left right) : SameTenant networkId left right :=
  ⟨congrArg (Except.map Response.unversioned) result.answer, result.state⟩

section

variable {networkId : String} {left right : State} {Result Answer : Type}

theorem andRead_sameTenant {handler : Handler Result} (nodeOf : Result → String)
    {read : Result → State → Except ApiError Answer} {response : Answer → Response}
    (result : SameResult networkId (handler left) (handler right))
    (leftKeyed : Keyed (handler left).2) (rightKeyed : Keyed (handler right).2)
    (home : ∀ value after, handler left = (.ok value, after) →
      nodeNetwork after (nodeOf value) = some networkId)
    (reads : ∀ value first second, SamePart networkId first second →
      nodeNetwork first (nodeOf value) = some networkId →
      (read value first).map (fun answer => (response answer).unversioned) =
        (read value second).map fun answer => (response answer).unversioned) :
    SameTenant networkId ((handler.andRead read).respond response left)
      ((handler.andRead read).respond response right) := by
  unfold Handler.respond Handler.andRead
  revert result leftKeyed rightKeyed home
  rcases handler left with ⟨first, leftAfter⟩
  rcases handler right with ⟨second, rightAfter⟩
  rintro ⟨answers, parts⟩ leftKeyed rightKeyed home
  dsimp only at answers
  subst answers
  cases first with
  | error error => exact ⟨rfl, parts⟩
  | ok value =>
      refine ⟨?_, parts⟩
      dsimp only
      rw [except_map_map, except_map_map]
      exact reads value leftAfter rightAfter ⟨parts, leftKeyed, rightKeyed⟩
        (home value leftAfter rfl)

theorem registerWrite_id {externals : Externals} {draws : Draws} {request : RegisterRequest}
    {nodeName nodeId : String} {state after : State}
    (ran : registerWrite externals draws request nodeName state = (.ok nodeId, after)) :
    nodeId = draws.nodeId := by
  unfold registerWrite at ran
  dsimp only at ran
  repeat' split at ran
  all_goals cases ran
  rfl

theorem registerWrite_home {externals : Externals} {draws : Draws} {request : RegisterRequest}
    {nodeName nodeId : String} {state after : State} (keyed : Keyed state)
    (home : tokenNetwork state request.token = some networkId)
    (ran : registerWrite externals draws request nodeName state = (.ok nodeId, after)) :
    nodeNetwork after nodeId = some networkId := by
  cases registerWrite_id ran
  obtain ⟨token, network, addresses, advanced, detail, tokenAt, networkAt, -, leaves⟩ :=
    registerWrite_eq_ok ran
  rw [tokenNetwork, tokenAt, Option.map_some, Option.some.injEq] at home
  rw [nodeNetwork, leaves.nodes, AList.lookup_insert, Option.map_some, ← home,
    ← keyed.networks _ _ networkAt]
  rfl

theorem heartbeatWrite_home {config : Config} {draws : Draws} {headers : Headers}
    {request : HeartbeatRequest} {state after : State}
    (home : nodeNetwork state request.nodeId = some networkId) {result : Unit}
    (ran : heartbeatWrite config draws headers request state = (.ok result, after)) :
    nodeNetwork after request.nodeId = some networkId := by
  obtain ⟨node, _, _, _, _, nodeAt, leaves⟩ := heartbeatWrite_eq_ok ran
  rw [nodeNetwork, nodeAt, Option.map_some] at home
  rw [nodeNetwork, leaves.nodes, Table.lookup_replace_eq nodeAt, if_pos rfl]
  exact home

theorem register_sameTenant {config : Config} {draws : Draws} {request : RegisterRequest}
    (part : SamePart networkId left right)
    (leftKeyed : Keyed (register config draws request left).2)
    (rightKeyed : Keyed (register config draws request right).2)
    (home : tokenNetwork left request.token = some networkId) :
    SameTenant networkId ((register config draws request).respond Response.registered left)
      ((register config draws request).respond Response.registered right) := by
  unfold register at leftKeyed rightKeyed ⊢
  revert leftKeyed rightKeyed
  cases normalizeNodeName request.nodeName with
  | error error => exact fun _ _ => ⟨rfl, part.same⟩
  | ok nodeName =>
      intro leftKeyed rightKeyed
      simp only [check, Handler.andRead_state] at leftKeyed rightKeyed
      refine andRead_sameTenant id (write_sameResult part.same config draws
        (registerWrite_commutes part.leftKeyed draws _ request nodeName home)
        (registerWrite_commutes part.rightKeyed draws _ request nodeName (part.tokenHome home)))
        leftKeyed rightKeyed ?_ ?_
      · intro nodeId after ran
        obtain ⟨edited, wrote, rfl⟩ := Backend.write_eq_ok ran
        have stored := registerWrite_home part.leftKeyed home wrote
        exact stored
      · intro nodeId first second parts homed
        rw [except_map_map, except_map_map]
        refine map_of_unversioned (parts.buildNetmap_eq homed _ _ _) ?_
        intro one two same
        simp only [Response.unversioned, same]

end

/-- A request of the network is answered from its part of the state. -/
theorem handle_sameTenant {config : Config} {call : Call} {networkId : String}
    {left right : State} (part : SamePart networkId left right)
    (leftKeyed : Keyed (step config left call)) (rightKeyed : Keyed (step config right call))
    (about : tenantOf left call = some networkId)
    (fresh : FreshFor networkId left call) :
    SameTenant networkId (handle config call left) (handle config call right) := by
  have same := part.same
  unfold step at leftKeyed rightKeyed
  unfold tenantOf concernedNetwork at about
  unfold handle at leftKeyed rightKeyed ⊢
  cases asked : call.request with
  | createNetwork request =>
      simp only [asked, Option.some.injEq] at about
      simp only [FreshFor, asked] at fresh
      exact absurd about fresh.1
  | deleteNetwork other =>
      rw [asked] at about
      cases about
      refine (respond_sameResult _ (check_sameResult same _ fun _ => ?_)).tenant
      exact write_sameResult same config call.draws (deleteNetworkWrite_commutes call.draws)
        (deleteNetworkWrite_commutes call.draws)
  | createToken other request =>
      rw [asked] at about
      cases about
      refine (respond_sameResult _ (check_sameResult same _ fun _ =>
        respond_sameResult _ ?_)).tenant
      exact write_sameResult same config call.draws
        (createTokenWrite_commutes part.leftKeyed call.draws request)
        (createTokenWrite_commutes part.rightKeyed call.draws request)
  | revokeToken tokenId =>
      rw [asked] at about
      refine (respond_sameResult _ (check_sameResult same _ fun _ =>
        respond_sameResult _ ?_)).tenant
      exact write_sameResult same config call.draws (revokeTokenWrite_commutes call.draws about)
        (revokeTokenWrite_commutes call.draws (part.tokenHome about))
  | register request =>
      rw [asked] at about leftKeyed rightKeyed
      exact register_sameTenant part leftKeyed rightKeyed about
  | registerUrl request =>
      rw [asked] at about
      cases about
      refine (respond_sameResult _ (check_sameResult same _ fun expiresAt =>
        check_sameResult same _ fun nodeName => respond_sameResult _ ?_)).tenant
      exact write_sameResult same config call.draws
        (registerUrlWrite_commutes part.leftKeyed call.draws _ request nodeName expiresAt rfl)
        (registerUrlWrite_commutes part.rightKeyed call.draws _ request nodeName expiresAt rfl)
  | approveNodeSecret nodeId secret =>
      rw [asked] at about
      refine (respond_sameResult _ (respond_sameResult _ ?_)).tenant
      exact write_sameResult same config call.draws
        (approveNodeSecretWrite_commutes call.draws secret about)
        (approveNodeSecretWrite_commutes call.draws secret (part.home about))
  | approveNode nodeId =>
      rw [asked] at about
      refine (respond_sameResult _ (check_sameResult same _ fun _ =>
        respond_sameResult _ ?_)).tenant
      exact write_sameResult same config call.draws (approveNodeWrite_commutes call.draws about)
        (approveNodeWrite_commutes call.draws (part.home about))
  | updateNode nodeId request =>
      rw [asked] at about
      refine (respond_sameResult _ (check_sameResult same _ fun _ =>
        check_sameResult same _ fun _ => ?_)).tenant
      exact write_sameResult same config call.draws
        (updateNodeWrite_commutes call.draws part.leftKeyed request about)
        (updateNodeWrite_commutes call.draws part.rightKeyed request (part.home about))
  | updateAcl other policy =>
      rw [asked] at about
      cases about
      refine (respond_sameResult _ (check_sameResult same _ fun _ => ?_)).tenant
      exact write_sameResult same config call.draws
        (updateAclWrite_commutes part.leftKeyed call.draws policy)
        (updateAclWrite_commutes part.rightKeyed call.draws policy)
  | updateKeyPolicy other policy =>
      rw [asked] at about
      cases about
      refine (respond_sameResult _ (check_sameResult same _ fun _ => ?_)).tenant
      exact write_sameResult same config call.draws
        (updateKeyPolicyWrite_commutes part.leftKeyed call.draws policy)
        (updateKeyPolicyWrite_commutes part.rightKeyed call.draws policy)
  | rotateKeys nodeId request =>
      rw [asked] at about
      refine (respond_sameResult _ (check_sameResult same _ fun _ =>
        respond_sameResult _ ?_)).tenant
      exact write_sameResult same config call.draws
        (rotateKeysWrite_commutes call.draws config call.headers request about)
        (rotateKeysWrite_commutes call.draws config call.headers request (part.home about))
  | revokeNode nodeId =>
      rw [asked] at about
      refine (respond_sameResult _ (check_sameResult same _ fun _ =>
        respond_sameResult _ ?_)).tenant
      exact write_sameResult same config call.draws (revokeNodeWrite_commutes call.draws about)
        (revokeNodeWrite_commutes call.draws (part.home about))
  | deleteNode nodeId =>
      rw [asked] at about
      refine (respond_sameResult _ (check_sameResult same _ fun _ => ?_)).tenant
      exact write_sameResult same config call.draws (deleteNodeWrite_commutes call.draws about)
        (deleteNodeWrite_commutes call.draws (part.home about))
  | heartbeat request =>
      rw [asked] at about leftKeyed rightKeyed
      simp only [heartbeat, Handler.respond_state, Handler.andRead_state] at leftKeyed rightKeyed
      refine andRead_sameTenant (fun _ => request.nodeId)
        (write_sameResult same config call.draws
          (heartbeatWrite_commutes call.draws config call.headers about)
          (heartbeatWrite_commutes call.draws config call.headers (part.home about)))
        leftKeyed rightKeyed ?_ ?_
      · intro _ after ran
        obtain ⟨edited, wrote, rfl⟩ := Backend.write_eq_ok ran
        have stored := heartbeatWrite_home about wrote
        exact stored
      · intro _ first second parts homed
        exact map_of_unversioned (parts.buildNetmap_eq homed _ _ _)
          fun _ _ => congrArg Response.netmap
  | read route =>
      rw [asked] at about
      refine ⟨?_, same⟩
      dsimp only
      rw [except_map_map, except_map_map]
      have answers := congrArg (Except.map Response.read)
        (part.readRoute_eq about config call.draws call.headers)
      rw [except_map_map, except_map_map] at answers
      exact answers

/-! ### Runs without the other networks -/

/-- The requests of a run that are about the network, with the states around them. -/
def ownEvents (config : Config) (networkId : String) (start : State) (calls : List Call) :
    List (Event State Call) :=
  (trace (step config) start calls).filter fun event =>
    decide (tenantOf event.before event.input = some networkId)

def answerOf (config : Config) (event : Event State Call) : Except ApiError Response :=
  (handle config event.input event.before).1.map Response.unversioned

section

variable {config : Config} {networkId : String}

theorem keyed_of_integrity {state : State} (integrity : state.Integrity config.externals) :
    Keyed state :=
  ⟨integrity.networkKeys, integrity.nodeKeys⟩

/-- A request that is not about the network leaves its part alone. -/
theorem step_only_of_ne {state : State} {call : Call}
    (integrity : state.Integrity config.externals) (fresh : FreshFor networkId state call)
    (elsewhere : tenantOf state call ≠ some networkId) :
    (step config state call).only networkId = state.only networkId := by
  apply @step_keeps config call state fun after => after.only networkId = state.only networkId
  · rfl
  · exact fun _ same => same
  · intro closure asked
    exact asked.only_of_ne (keyed_of_integrity integrity) fresh
      (concernedNetwork_of_tenantOf elsewhere)

theorem ownEvents_replayed (calls : List Call) (left right : State)
    (leftIntegrity : left.Integrity config.externals)
    (rightIntegrity : right.Integrity config.externals)
    (same : left.only networkId = right.only networkId)
    (fresh : ∀ event ∈ trace (step config) left calls,
      FreshFor networkId event.before event.input) :
    (exec (step config) left calls).only networkId =
        (exec (step config) right
          ((ownEvents config networkId left calls).map Event.input)).only networkId ∧
      (ownEvents config networkId left calls).map (answerOf config) =
        (trace (step config) right ((ownEvents config networkId left calls).map Event.input)).map
          (answerOf config) := by
  induction calls generalizing left right with
  | nil => exact ⟨same, rfl⟩
  | cons call rest ih =>
      have freshCall := fresh (eventAt (step config) left call) List.mem_cons_self
      have freshRest : ∀ event ∈ trace (step config) (step config left call) rest,
          FreshFor networkId event.before event.input :=
        fun event member => fresh event (List.mem_cons_of_mem _ member)
      have leftAfter := (step_transition config left call).integrity leftIntegrity
      by_cases about : tenantOf left call = some networkId
      · have own : ownEvents config networkId left (call :: rest) =
            eventAt (step config) left call ::
              ownEvents config networkId (step config left call) rest :=
          List.filter_cons_of_pos (decide_eq_true about)
        have rightAfter := (step_transition config right call).integrity rightIntegrity
        have handled := handle_sameTenant
          ⟨same, keyed_of_integrity leftIntegrity, keyed_of_integrity rightIntegrity⟩
          (keyed_of_integrity leftAfter) (keyed_of_integrity rightAfter) about freshCall
        obtain ⟨parts, answers⟩ := ih _ _ leftAfter rightAfter handled.state freshRest
        rw [own]
        refine ⟨parts, ?_⟩
        change answerOf config _ :: (ownEvents _ _ _ _).map _ = answerOf config _ :: _
        rw [answers]
        exact congrArg (· :: _) handled.answer
      · have own : ownEvents config networkId left (call :: rest) =
            ownEvents config networkId (step config left call) rest :=
          List.filter_cons_of_neg fun isAbout => about (of_decide_eq_true isAbout)
        rw [own]
        exact ih _ right leftAfter rightIntegrity
          ((step_only_of_ne leftIntegrity freshCall about).trans same) freshRest

end

/-- Take the requests about other networks out of the rest of a run: this network's part of
the state is the same, and each of its own requests is answered the same. -/
theorem other_networks_unobservable (config : Config) (networkId : String)
    (early late : List Call)
    (fresh : ∀ event ∈ trace (step config) (run config early) late,
      FreshFor networkId event.before event.input) :
    let own := ownEvents config networkId (run config early) late
    (run config (early ++ late)).only networkId =
        (run config (early ++ own.map Event.input)).only networkId ∧
      own.map (answerOf config) =
        (trace (step config) (run config early) (own.map Event.input)).map (answerOf config) := by
  have integrity := run_integrity config early
  intro own
  unfold run
  rw [exec_append, exec_append]
  exact ownEvents_replayed late _ _ integrity integrity rfl fresh

/-- A registration in one network after another network has been created. -/
theorem sample_other_networks_unobservable :
    (run sampleConfig (sharedNetwork ++ [distantNetwork, registerSample 4 "c" "gamma"])).only
        "net" =
      (run sampleConfig (sharedNetwork ++ [registerSample 4 "c" "gamma"])).only "net" := by
  have fresh : ∀ event ∈ trace (step sampleConfig) (run sampleConfig sharedNetwork)
      [distantNetwork, registerSample 4 "c" "gamma"],
      FreshFor "net" event.before event.input := by
    intro event member
    rcases List.mem_cons.mp member with rfl | member
    · exact ⟨by decide, by decide⟩
    · cases List.mem_singleton.mp member
      exact (by decide : "c" ∉ (step sampleConfig (run sampleConfig sharedNetwork)
        distantNetwork).nodes)
  exact (other_networks_unobservable sampleConfig "net" sharedNetwork _ fresh).1

end Lightscale.ControlPlane
