/-
How often an enrollment token is used.

A token is stored with a number of uses, every registration with it takes one, and a
token without uses is removed.  The history of a run is read from the moment a token is
created: the registrations made with it are counted, and none of them comes after its
expiry, its revocation or the deletion of its network.
-/

import Lightscale.ControlPlane.NodeChange

namespace Lightscale.ControlPlane

open Foundation

/-! ### What one request can do to the entry of one token -/

inductive TokenChange (config : Config) (call : Call) (before after : State)
    (made : Option NodeState) (granted : Option TokenState) (key : String) : Prop where
  | kept (same : after.tokens.lookup key = before.tokens.lookup key)
      (unspent : ∀ request, call.request = .register request → request.token = key → made = none)
  | granted (token : TokenState) (isGranted : granted = some token) (isKey : token.token = key)
      (positive : 1 ≤ token.usesLeft) (notRegister : ∀ request, call.request ≠ .register request)
      (newAt : after.tokens.lookup key = some token)
  | spent (request : RegisterRequest) (nodeName : String) (token : TokenState)
      (network : NetworkState) (ipv4 ipv6 : String)
      (asked : call.request = .register request) (isKey : request.token = key)
      (tokenAt : before.tokens.lookup key = some token)
      (networkAt : before.networks.lookup token.networkId = some network)
      (live : call.draws.now < token.expiresAt) (unrevoked : token.revokedAt = none)
      (usable : token.usesLeft ≠ 0)
      (isMade : made =
        some (registeredNode call.draws request nodeName network token ipv4 ipv6))
      (left : after.tokens.lookup key =
        if token.usesLeft - 1 = 0 then none
        else some { token with usesLeft := token.usesLeft - 1 })
  | revoked (token : TokenState) (asked : call.request = .revokeToken key)
      (tokenAt : before.tokens.lookup key = some token)
      (left : after.tokens.lookup key = some { token with revokedAt := some call.draws.now })
  | removed (networkId : String) (asked : call.request = .deleteNetwork networkId)
      (gone : after.tokens.lookup key = none)

/-- The uses that a request asks for the token it creates. -/
def Request.tokenUses : Request → Option Nat
  | .createToken _ request => some request.uses
  | .createNetwork request => some (request.bootstrapTokenUses.getD 1)
  | _ => none

theorem buildToken_ok {draws : Draws} {networkId : String} {ttlSeconds uses : Nat}
    {tags : List String} {ownerUserId ownerEmail : Option String} {ownerIsAdmin : Bool}
    {token : TokenState}
    (built : buildToken draws networkId ttlSeconds uses tags ownerUserId ownerEmail ownerIsAdmin =
      .ok token) : token.usesLeft = uses ∧ 1 ≤ token.usesLeft := by
  unfold buildToken at built
  by_cases refused : ttlSeconds = 0 ∨ uses = 0
  · rw [if_pos refused] at built
    cases built
  · rw [if_neg refused] at built
    cases built
    refine ⟨rfl, ?_⟩
    change 1 ≤ uses
    omega

theorem lookup_spendToken {tokens : Table String TokenState} {tokenId : String}
    {token : TokenState} (tokenAt : tokens.lookup tokenId = some token) (key : String) :
    (spendToken tokens tokenId token).lookup key =
      if key = tokenId then
        if token.usesLeft - 1 = 0 then none else some { token with usesLeft := token.usesLeft - 1 }
      else tokens.lookup key := by
  unfold spendToken
  dsimp only
  by_cases last : token.usesLeft - 1 = 0
  · rw [if_pos last, if_pos last, Table.lookup_erase_eq]
  · rw [if_neg last, if_neg last, Table.lookup_replace_eq tokenAt]

section

variable {config : Config} {call : Call} {before after : State}
  {made : Option NodeState} {granted : Option TokenState}

theorem Transition.tokenChange
    (transition : Transition config call before after made granted) (key : String) :
    TokenChange config call before after made granted key := by
  cases transition with
  | idle leaves => exact .kept (by rw [leaves.tokens]) (fun _ _ _ => rfl)
  | networkCreated request planned token entry asked admin plan absent apart grant leaves =>
      cases granted with
      | none => exact .kept (by rw [leaves.tokens]; rfl) (fun _ _ _ => rfl)
      | some token =>
          have looked := Table.lookup_insert_eq before.tokens token.token key token
          rw [show before.tokens.insert token.token token = after.tokens from leaves.tokens.symm]
            at looked
          by_cases same : key = token.token
          · rw [if_pos same] at looked
            obtain ⟨ttl, _, built⟩ := grant token rfl
            refine .granted token rfl same.symm (buildToken_ok built).2 ?_ looked
            intro register isRegister
            rw [asked] at isRegister
            cases isRegister
          · rw [if_neg same] at looked
            exact .kept looked (fun _ _ _ => rfl)
  | networkDeleted networkId network entry asked admin networkAt empty leaves =>
      cases stored : after.tokens.lookup key with
      | none => exact .removed networkId asked stored
      | some token =>
          rw [leaves.tokens] at stored
          have kept := ((Table.lookup_retain_eq_some_iff _ _ key token).mp stored).1
          refine .kept ?_ (fun _ _ _ => rfl)
          rw [leaves.tokens, stored, kept]
  | networkEdited networkId network edited entries networkAt edit leaves =>
      exact .kept (by rw [leaves.tokens]) (fun _ _ _ => rfl)
  | tokenCreated networkId request network token entry asked admin networkAt grant leaves =>
      have looked := Table.lookup_insert_eq before.tokens token.token key token
      rw [← leaves.tokens] at looked
      by_cases same : key = token.token
      · rw [if_pos same] at looked
        refine .granted token rfl same.symm (buildToken_ok grant).2 ?_ looked
        intro register isRegister
        rw [asked] at isRegister
        cases isRegister
      · rw [if_neg same] at looked
        exact .kept looked (fun _ _ _ => rfl)
  | tokenRevoked tokenId token entry asked admin tokenAt leaves =>
      have looked := Table.lookup_replace_eq tokenAt
        { token with revokedAt := some call.draws.now } key
      rw [← leaves.tokens] at looked
      by_cases same : key = tokenId
      · rw [if_pos same] at looked
        subst same
        exact .revoked token asked tokenAt looked
      · rw [if_neg same] at looked
        exact .kept looked (fun _ _ _ => rfl)
  | nodeRegistered networkId network advanced ipv4 ipv6 node tokens entry networkAt allocated
      registration leaves =>
      cases registration with
      | byToken request nodeName token asked named tokenAt sameNetwork live unrevoked usable
          unique =>
          have looked := lookup_spendToken tokenAt key
          rw [← leaves.tokens] at looked
          by_cases same : key = request.token
          · rw [if_pos same] at looked
            subst same
            subst sameNetwork
            exact .spent request nodeName token network ipv4 ipv6 asked rfl tokenAt networkAt live
              unrevoked usable rfl looked
          · rw [if_neg same] at looked
            refine .kept looked ?_
            intro other isOther isKey
            rw [asked] at isOther
            cases isOther
            exact absurd isKey.symm same
      | byUrl request nodeName expiresAt asked named expiry sameNetwork unique =>
          refine .kept (by rw [leaves.tokens]) ?_
          intro other isOther _
          rw [asked] at isOther
          cases isOther
  | nodeEdited nodeId node edited entries nodeAt edit leaves =>
      exact .kept (by rw [leaves.tokens]) (fun _ _ _ => rfl)
  | nodeDeleted nodeId node entry asked admin nodeAt leaves =>
      exact .kept (by rw [leaves.tokens]) (fun _ _ _ => rfl)

end

/-! ### Events of a run -/

def spends (config : Config) (key : String) (event : Event State Call) : Bool :=
  match event.input.request with
  | .register request =>
      decide (request.token = key) && (createdNode config event.before event.input).isSome
  | _ => false

def Grants (config : Config) (key : String) (event : Event State Call) : Prop :=
  ∃ token, createdToken config event.before event.input = some token ∧ token.token = key

def revokesToken (config : Config) (key : String) (event : Event State Call) : Bool :=
  match event.input.request with
  | .revokeToken tokenId =>
      decide (tokenId = key) &&
        decide (requireAdmin event.input.headers config.adminToken = .ok ()) &&
        (config.backend.applied event.input.draws.stored
          (revokeTokenWrite event.input.draws tokenId) event.before).isSome
  | _ => false

def deletesNetwork (config : Config) (networkId : String) (event : Event State Call) : Bool :=
  match event.input.request with
  | .deleteNetwork deleted =>
      decide (deleted = networkId) &&
        decide (requireAdmin event.input.headers config.adminToken = .ok ()) &&
        (config.backend.applied event.input.draws.stored
          (deleteNetworkWrite event.input.draws deleted) event.before).isSome
  | _ => false

structure SameGrant (token stored : TokenState) : Prop where
  networkId : stored.networkId = token.networkId
  expiresAt : stored.expiresAt = token.expiresAt
  tags : stored.tags = token.tags
  ownerUserId : stored.ownerUserId = token.ownerUserId
  ownerEmail : stored.ownerEmail = token.ownerEmail
  ownerIsAdmin : stored.ownerIsAdmin = token.ownerIsAdmin

theorem SameGrant.refl (token : TokenState) : SameGrant token token :=
  ⟨rfl, rfl, rfl, rfl, rfl, rfl⟩

section

variable {config : Config} {key : String} {state : State} {call : Call}

theorem spends_eq_false
    (unspent : ∀ request, call.request = .register request → request.token = key →
      createdNode config state call = none) :
    spends config key (eventAt (step config) state call) = false := by
  change (match call.request with
    | .register request =>
        decide (request.token = key) && (createdNode config state call).isSome
    | _ => false) = false
  split
  · rename_i request asked
    by_cases isKey : request.token = key
    · rw [unspent request asked isKey]
      exact Bool.and_false _
    · rw [decide_eq_false isKey]
      exact Bool.false_and _
  · rfl

theorem spends_of_other_request {other : Request} (asked : call.request = other)
    (notRegister : ∀ request, other ≠ .register request) :
    spends config key (eventAt (step config) state call) = false := by
  apply spends_eq_false
  intro request isRegister _
  exact absurd (asked.symm.trans isRegister) (notRegister request)

theorem spends_eq_true {request : RegisterRequest} {node : NodeState}
    (asked : call.request = .register request) (isKey : request.token = key)
    (isMade : createdNode config state call = some node) :
    spends config key (eventAt (step config) state call) = true := by
  simp only [spends, eventAt, asked, isKey, isMade, decide_true, Option.isSome_some,
    Bool.and_self]

/-- What a registration with a token has found and made. -/
structure Spending (config : Config) (key : String) (state : State) (call : Call)
    (stored : TokenState) (node : NodeState) : Prop where
  tokenAt : state.tokens.lookup key = some stored
  live : call.draws.now < stored.expiresAt
  unrevoked : stored.revokedAt = none
  isMade : createdNode config state call = some node
  networkId : ∃ network, state.networks.lookup stored.networkId = some network ∧
    node.networkId = network.id
  tags : node.tags = stored.tags
  ownerUserId : node.ownerUserId = stored.ownerUserId
  ownerEmail : node.ownerEmail = stored.ownerEmail
  ownerIsAdmin : node.ownerIsAdmin = stored.ownerIsAdmin

theorem spending_of_spends
    (isSpent : spends config key (eventAt (step config) state call) = true) :
    ∃ stored node, Spending config key state call stored node := by
  cases (step_transition config state call).tokenChange key with
  | kept same unspent =>
      rw [spends_eq_false unspent] at isSpent
      cases isSpent
  | granted token isGranted isKey positive notRegister newAt =>
      rw [spends_of_other_request rfl notRegister] at isSpent
      cases isSpent
  | spent request nodeName token network ipv4 ipv6 asked isKey tokenAt networkAt live unrevoked
      usable isMade left =>
      exact ⟨token, _, tokenAt, live, unrevoked, isMade, ⟨network, networkAt, rfl⟩, rfl, rfl, rfl,
        rfl⟩
  | revoked token asked tokenAt left =>
      rw [spends_of_other_request asked (fun _ same => by cases same)] at isSpent
      cases isSpent
  | removed networkId asked gone =>
      rw [spends_of_other_request asked (fun _ same => by cases same)] at isSpent
      cases isSpent

end

/-! ### Tokens that cannot be used any more -/

def Dead (key : String) (state : State) : Prop :=
  ∀ stored, state.tokens.lookup key = some stored → stored.revokedAt ≠ none

section

variable {config : Config} {key : String} {state : State} {call : Call}

theorem not_spends_of_dead (dead : Dead key state) :
    spends config key (eventAt (step config) state call) = false := by
  cases isSpent : spends config key (eventAt (step config) state call) with
  | false => rfl
  | true =>
      obtain ⟨stored, node, spending⟩ := spending_of_spends isSpent
      exact absurd spending.unrevoked (dead stored spending.tokenAt)

theorem Dead.step (dead : Dead key state)
    (ungranted : ¬ Grants config key (eventAt (step config) state call)) :
    Dead key (step config state call) := by
  intro stored storedAt
  cases (step_transition config state call).tokenChange key with
  | kept same unspent => exact dead stored (same.symm.trans storedAt)
  | granted token isGranted isKey positive notRegister newAt =>
      exact absurd ⟨token, isGranted, isKey⟩ ungranted
  | spent request nodeName token network ipv4 ipv6 asked isKey tokenAt networkAt live unrevoked
      usable isMade left =>
      exact absurd unrevoked (dead token tokenAt)
  | revoked token asked tokenAt left =>
      rw [left, Option.some.injEq] at storedAt
      rw [← storedAt]
      exact Option.some_ne_none _
  | removed networkId asked gone =>
      rw [gone] at storedAt
      cases storedAt

theorem absent_step (absent : state.tokens.lookup key = none)
    (ungranted : ¬ Grants config key (eventAt (step config) state call)) :
    (step config state call).tokens.lookup key = none := by
  cases (step_transition config state call).tokenChange key with
  | kept same unspent => exact same.trans absent
  | granted token isGranted isKey positive notRegister newAt =>
      exact absurd ⟨token, isGranted, isKey⟩ ungranted
  | spent request nodeName token network ipv4 ipv6 asked isKey tokenAt networkAt live unrevoked
      usable isMade left =>
      rw [absent] at tokenAt
      cases tokenAt
  | revoked token asked tokenAt left =>
      rw [absent] at tokenAt
      cases tokenAt
  | removed networkId asked gone => exact gone

theorem sameGrant_step {token : TokenState}
    (same : ∀ stored, state.tokens.lookup key = some stored → SameGrant token stored)
    (ungranted : ¬ Grants config key (eventAt (step config) state call)) :
    ∀ stored, (step config state call).tokens.lookup key = some stored →
      SameGrant token stored := by
  intro stored storedAt
  cases (step_transition config state call).tokenChange key with
  | kept sameEntry unspent => exact same stored (sameEntry.symm.trans storedAt)
  | granted new isGranted isKey positive notRegister newAt =>
      exact absurd ⟨new, isGranted, isKey⟩ ungranted
  | spent request nodeName old network ipv4 ipv6 asked isKey oldAt networkAt live unrevoked
      usable isMade left =>
      rw [left] at storedAt
      split at storedAt
      · cases storedAt
      · have old := same old oldAt
        rw [Option.some.injEq] at storedAt
        rw [← storedAt]
        exact ⟨old.networkId, old.expiresAt, old.tags, old.ownerUserId, old.ownerEmail,
          old.ownerIsAdmin⟩
  | revoked old asked oldAt left =>
      have old := same old oldAt
      rw [left, Option.some.injEq] at storedAt
      rw [← storedAt]
      exact ⟨old.networkId, old.expiresAt, old.tags, old.ownerUserId, old.ownerEmail,
        old.ownerIsAdmin⟩
  | removed networkId asked gone =>
      rw [gone] at storedAt
      cases storedAt

end

theorem not_spends_of_dead_trace {config : Config} {key : String} (later : List Call)
    {state : State} (dead : Dead key state)
    (ungranted : ∀ event ∈ trace (step config) state later, ¬ Grants config key event) :
    ∀ event ∈ trace (step config) state later, spends config key event = false := by
  induction later generalizing state with
  | nil =>
      intro event member
      cases member
  | cons call rest ih =>
      intro event member
      rcases List.mem_cons.mp member with isFirst | inRest
      · rw [isFirst]
        exact not_spends_of_dead dead
      · have notFirst := ungranted _ List.mem_cons_self
        exact ih (dead.step notFirst)
          (fun later inLater => ungranted later (List.mem_cons_of_mem _ inLater)) event inRest

/-! ### Counting the uses -/

theorem absent_exec {config : Config} {key : String} (later : List Call) {state : State}
    (absent : state.tokens.lookup key = none)
    (ungranted : ∀ event ∈ trace (step config) state later, ¬ Grants config key event) :
    (exec (step config) state later).tokens.lookup key = none :=
  exec_invariant_when (step config)
    (fun state call => ¬ Grants config key (eventAt (step config) state call))
    (fun state => state.tokens.lookup key = none)
    (fun _ _ notGranted absent => absent_step absent notGranted) state absent later ungranted

theorem countP_of_dead {config : Config} {key : String} (later : List Call) {state : State}
    (dead : Dead key state)
    (ungranted : ∀ event ∈ trace (step config) state later, ¬ Grants config key event) :
    (trace (step config) state later).countP (spends config key) = 0 := by
  rw [List.countP_eq_zero]
  intro event member
  rw [not_spends_of_dead_trace later dead ungranted event member]
  exact Bool.false_ne_true

/-- The registrations of a run with a token that had `uses` uses: together with the uses
that are left they add up. -/
structure Counted (config : Config) (key : String) (uses : Nat) (state : State)
    (later : List Call) : Prop where
  atMost : (trace (step config) state later).countP (spends config key) ≤ uses
  exactly : ∀ final, (exec (step config) state later).tokens.lookup key = some final →
    1 ≤ final.usesLeft ∧
      final.usesLeft + (trace (step config) state later).countP (spends config key) = uses

section

variable {config : Config} {key : String} {uses : Nat} {state : State} {call : Call}
  {rest : List Call}

theorem Counted.of_absent (absent : state.tokens.lookup key = none)
    (ungranted : ∀ event ∈ trace (step config) state rest, ¬ Grants config key event) :
    Counted config key uses state rest := by
  have dead : Dead key state := by
    intro stored storedAt
    rw [absent] at storedAt
    cases storedAt
  constructor
  · rw [countP_of_dead rest dead ungranted]
    exact Nat.zero_le uses
  · intro final finalAt
    rw [absent_exec rest absent ungranted] at finalAt
    cases finalAt

theorem Counted.cons_unspent (counted : Counted config key uses (step config state call) rest)
    (unspent : spends config key (eventAt (step config) state call) = false) :
    Counted config key uses state (call :: rest) := by
  have same : (trace (step config) state (call :: rest)).countP (spends config key) =
      (trace (step config) (step config state call) rest).countP (spends config key) := by
    apply List.countP_cons_of_neg
    rw [unspent]
    exact Bool.false_ne_true
  constructor
  · rw [same]
    exact counted.atMost
  · rw [same]
    exact counted.exactly

theorem Counted.cons_spent (counted : Counted config key uses (step config state call) rest)
    (isSpent : spends config key (eventAt (step config) state call) = true) :
    Counted config key (uses + 1) state (call :: rest) := by
  have more : (trace (step config) state (call :: rest)).countP (spends config key) =
      (trace (step config) (step config state call) rest).countP (spends config key) + 1 :=
    List.countP_cons_of_pos isSpent
  constructor
  · rw [more]
    exact Nat.succ_le_succ counted.atMost
  · intro final finalAt
    obtain ⟨positive, sum⟩ := counted.exactly final finalAt
    rw [more]
    omega

end

theorem count_spends {config : Config} {key : String} (later : List Call) {state : State}
    {token : TokenState} (tokenAt : state.tokens.lookup key = some token)
    (positive : 1 ≤ token.usesLeft)
    (ungranted : ∀ event ∈ trace (step config) state later, ¬ Grants config key event) :
    Counted config key token.usesLeft state later := by
  induction later generalizing state token with
  | nil =>
      refine ⟨Nat.zero_le _, ?_⟩
      intro final finalAt
      change state.tokens.lookup key = some final at finalAt
      rw [tokenAt, Option.some.injEq] at finalAt
      subst finalAt
      exact ⟨positive, rfl⟩
  | cons call rest ih =>
      have notFirst := ungranted _ List.mem_cons_self
      have notLater : ∀ event ∈ trace (step config) (step config state call) rest,
          ¬ Grants config key event :=
        fun event member => ungranted event (List.mem_cons_of_mem _ member)
      cases (step_transition config state call).tokenChange key with
      | kept same notSpent =>
          exact (ih (same.trans tokenAt) positive notLater).cons_unspent (spends_eq_false notSpent)
      | granted new isGranted isKey _ notRegister newAt =>
          exact absurd ⟨new, isGranted, isKey⟩ notFirst
      | spent request nodeName stored network ipv4 ipv6 asked isKey storedAt networkAt live
          unrevoked usable isMade left =>
          rw [tokenAt, Option.some.injEq] at storedAt
          subst storedAt
          -- The last use removes the token, any other one leaves it with one use less.
          have counted : Counted config key (token.usesLeft - 1) (step config state call) rest := by
            by_cases last : token.usesLeft - 1 = 0
            · rw [if_pos last] at left
              exact .of_absent left notLater
            · rw [if_neg last] at left
              exact ih left (Nat.one_le_iff_ne_zero.mpr last) notLater
          have more := counted.cons_spent (spends_eq_true asked isKey isMade)
          rw [Nat.sub_add_cancel positive] at more
          exact more
      | revoked stored asked storedAt left =>
          rw [tokenAt, Option.some.injEq] at storedAt
          subst storedAt
          have counted := ih left positive notLater
          exact counted.cons_unspent (spends_of_other_request asked (fun _ same => by cases same))
      | removed networkId asked absent =>
          exact (Counted.of_absent absent notLater).cons_unspent
            (spends_of_other_request asked (fun _ same => by cases same))

/-! ### What ends the use of a token -/

section

variable {config : Config} {key : String} {state : State} {call : Call}

theorem dead_of_revokesToken
    (isRevoked : revokesToken config key (eventAt (step config) state call) = true) :
    Dead key (step config state call) := by
  unfold revokesToken at isRevoked
  split at isRevoked
  · rename_i tokenId asked
    change call.request = .revokeToken tokenId at asked
    simp only [Bool.and_eq_true, decide_eq_true_eq] at isRevoked
    obtain ⟨⟨same, admin⟩, isApplied⟩ := isRevoked
    subst same
    change requireAdmin call.headers config.adminToken = .ok () at admin
    obtain ⟨result, left, ran, bumped⟩ := Backend.write_of_applied isApplied
    obtain ⟨token, detail, tokenAt, revokedEq, leaves⟩ := revokeTokenWrite_eq_ok ran
    change state.tokens.lookup tokenId = some token at tokenAt
    have after : (step config state call).tokens =
        state.tokens.replace tokenId { token with revokedAt := some call.draws.now } := by
      simp only [step, handle, asked, Handler.respond_state, revokeToken, check, admin]
      change (config.backend.write call.draws.stored (revokeTokenWrite call.draws tokenId)
        state).2.tokens = _
      change (config.backend.write call.draws.stored (revokeTokenWrite call.draws tokenId)
        state).2 = _ at bumped
      rw [bumped, State.bump_tokens, leaves.tokens, revokedEq]
      rfl
    intro stored storedAt
    rw [after, Table.lookup_replace_eq tokenAt, if_pos rfl, Option.some.injEq] at storedAt
    rw [← storedAt]
    exact Option.some_ne_none _
  · cases isRevoked

theorem networkId_ne_of_deletesNetwork {networkId : String}
    (isDeleted : deletesNetwork config networkId (eventAt (step config) state call) = true)
    {stored : TokenState} (storedAt : (step config state call).tokens.lookup key = some stored) :
    stored.networkId ≠ networkId := by
  unfold deletesNetwork at isDeleted
  split at isDeleted
  · rename_i deleted asked
    change call.request = .deleteNetwork deleted at asked
    simp only [Bool.and_eq_true, decide_eq_true_eq] at isDeleted
    obtain ⟨⟨same, admin⟩, isApplied⟩ := isDeleted
    subst same
    change requireAdmin call.headers config.adminToken = .ok () at admin
    obtain ⟨result, left, ran, bumped⟩ := Backend.write_of_applied isApplied
    have leaves := deleteNetworkWrite_eq_ok ran
    have after : (step config state call).tokens =
        Table.retain (fun _ token => decide (token.networkId ≠ deleted)) state.tokens := by
      simp only [step, handle, asked, Handler.respond_state, deleteNetwork, check, admin]
      change (config.backend.write call.draws.stored (deleteNetworkWrite call.draws deleted)
        state).2.tokens = _
      change (config.backend.write call.draws.stored (deleteNetworkWrite call.draws deleted)
        state).2 = _ at bumped
      rw [bumped, State.bump_tokens, leaves.tokens]
      rfl
    rw [after] at storedAt
    have kept := ((Table.lookup_retain_eq_some_iff _ _ key stored).mp storedAt).2
    exact of_decide_eq_true kept
  · cases isDeleted

end

section

variable {config : Config} {key : String} {state : State} {token : TokenState}

theorem sameGrant_exec (later : List Call)
    (same : ∀ stored, state.tokens.lookup key = some stored → SameGrant token stored)
    (ungranted : ∀ event ∈ trace (step config) state later, ¬ Grants config key event) :
    ∀ stored, (exec (step config) state later).tokens.lookup key = some stored →
      SameGrant token stored :=
  exec_invariant_when (step config)
    (fun state call => ¬ Grants config key (eventAt (step config) state call))
    (fun state => ∀ stored, state.tokens.lookup key = some stored → SameGrant token stored)
    (fun _ _ notGranted same => sameGrant_step same notGranted) state same later ungranted

theorem mem_trace_of_early {early late : List Call} {event : Event State Call}
    (member : event ∈ trace (step config) state early) :
    event ∈ trace (step config) state (early ++ late) := by
  rw [trace_append]
  exact List.mem_append_left _ member

theorem not_ended_before_spends {later : List Call}
    (same : ∀ stored, state.tokens.lookup key = some stored → SameGrant token stored)
    (ungranted : ∀ event ∈ trace (step config) state later, ¬ Grants config key event)
    {middle rest : List (Event State Call)} {event : Event State Call}
    (split : trace (step config) state later = middle ++ event :: rest)
    (isSpent : spends config key event = true) :
    ∀ earlier ∈ middle, revokesToken config key earlier = false ∧
      deletesNetwork config token.networkId earlier = false := by
  intro earlier inMiddle
  obtain ⟨first, second, middleEq⟩ := List.append_of_mem inMiddle
  have regrouped : trace (step config) state later =
      first ++ earlier :: (second ++ event :: rest) := by
    rw [split, middleEq, List.append_assoc]
    rfl
  obtain ⟨early, late, inputsEq, _, earlierEq, _, followEq⟩ := trace_after _ regrouped
  have inFollow : event ∈ trace (step config) earlier.after late := by
    rw [← followEq]
    exact List.mem_append_right _ List.mem_cons_self
  have followUngranted : ∀ other ∈ trace (step config) earlier.after late,
      ¬ Grants config key other := by
    intro other member
    apply ungranted other
    rw [regrouped, followEq]
    exact List.mem_append_right _ (List.mem_cons_of_mem _ member)
  -- The token would have been dead when it was used.
  have alive : ¬ Dead key earlier.after := by
    intro dead
    rw [not_spends_of_dead_trace late dead followUngranted event inFollow] at isSpent
    cases isSpent
  have notGranted : ¬ Grants config key earlier := by
    apply ungranted earlier
    rw [regrouped]
    exact List.mem_append_right _ List.mem_cons_self
  have sameBefore := sameGrant_exec early same (fun other member => by
    apply ungranted other
    rw [inputsEq]
    exact mem_trace_of_early member)
  rw [earlierEq] at alive notGranted ⊢
  constructor
  · rw [← Bool.not_eq_true]
    intro isRevoked
    exact alive (dead_of_revokesToken isRevoked)
  · rw [← Bool.not_eq_true]
    intro isDeleted
    apply alive
    intro stored storedAt
    have sameAfter := sameGrant_step sameBefore notGranted stored storedAt
    exact absurd sameAfter.networkId (networkId_ne_of_deletesNetwork isDeleted storedAt)

end

/-! ### Grants -/

theorem Transition.grant_stored {config : Config} {call : Call} {before after : State}
    {made : Option NodeState} {token : TokenState}
    (transition : Transition config call before after made (some token)) :
    after.tokens.lookup token.token = some token ∧ 1 ≤ token.usesLeft ∧
      call.request.tokenUses = some token.usesLeft ∧
      ∀ request, call.request ≠ .register request := by
  cases transition with
  | networkCreated request planned _ entry asked admin plan absent apart grant leaves =>
      obtain ⟨ttl, _, built⟩ := grant token rfl
      obtain ⟨uses, positive⟩ := buildToken_ok built
      refine ⟨?_, positive, ?_, ?_⟩
      · rw [leaves.tokens]
        exact AList.lookup_insert before.tokens
      · rw [asked, uses]
        rfl
      · intro register isRegister
        rw [asked] at isRegister
        cases isRegister
  | tokenCreated networkId request network _ entry asked admin networkAt grant leaves =>
      obtain ⟨uses, positive⟩ := buildToken_ok grant
      refine ⟨?_, positive, ?_, ?_⟩
      · rw [leaves.tokens]
        exact AList.lookup_insert before.tokens
      · rw [asked, uses]
        rfl
      · intro register isRegister
        rw [asked] at isRegister
        cases isRegister

theorem granted_of_stored (config : Config) (calls : List Call) :
    ∀ key stored, (run config calls).tokens.lookup key = some stored →
      ∃ event ∈ history config calls, Grants config key event := by
  refine trace_invariant (step config)
    (fun past state => ∀ key stored, state.tokens.lookup key = some stored →
      ∃ event ∈ past, Grants config key event) State.default ?_ ?_ calls
  · intro key stored storedAt
    cases storedAt
  · intro past state call granted key stored storedAt
    have old : ∀ token, state.tokens.lookup key = some token →
        ∃ event ∈ past ++ [eventAt (step config) state call], Grants config key event := by
      intro token tokenAt
      obtain ⟨event, member, grants⟩ := granted key token tokenAt
      exact ⟨event, List.mem_append_left _ member, grants⟩
    cases (step_transition config state call).tokenChange key with
    | kept same unspent => exact old stored (same.symm.trans storedAt)
    | granted token isGranted isKey positive notRegister newAt =>
        exact ⟨_, List.mem_append_right _ List.mem_cons_self, token, isGranted, isKey⟩
    | spent request nodeName token network ipv4 ipv6 asked isKey tokenAt networkAt live unrevoked
        usable isMade left =>
        exact old token tokenAt
    | revoked token asked tokenAt left => exact old token tokenAt
    | removed networkId asked gone =>
        rw [gone] at storedAt
        cases storedAt

def grantedKey (config : Config) (event : Event State Call) : Option String :=
  (createdToken config event.before event.input).map TokenState.token

theorem grants_iff {config : Config} {key : String} {event : Event State Call} :
    Grants config key event ↔ grantedKey config event = some key :=
  Option.map_eq_some_iff.symm

theorem ungranted_of_nodup {config : Config} {key : String}
    {events early late : List (Event State Call)} {created : Event State Call}
    (fresh : (events.filterMap (grantedKey config)).Nodup)
    (split : events = early ++ created :: late) (grants : Grants config key created) :
    (∀ event ∈ early, ¬ Grants config key event) ∧
      ∀ event ∈ late, ¬ Grants config key event := by
  rw [split, List.filterMap_append, List.filterMap_cons_some (grants_iff.mp grants),
    List.nodup_middle, List.nodup_cons] at fresh
  constructor
  · intro event member again
    apply fresh.1
    rw [List.mem_append]
    exact Or.inl (List.mem_filterMap.mpr ⟨event, member, grants_iff.mp again⟩)
  · intro event member again
    apply fresh.1
    rw [List.mem_append]
    exact Or.inr (List.mem_filterMap.mpr ⟨event, member, grants_iff.mp again⟩)

/-! ### The whole history of a token -/

section

variable {config : Config} {calls : List Call} {early late : List (Event State Call)}
  {created : Event State Call} {token : TokenState}

theorem run_after_grant
    (fresh : ((history config calls).filterMap (grantedKey config)).Nodup)
    (split : history config calls = early ++ created :: late)
    (isGranted : createdToken config created.before created.input = some token) :
    created.after.tokens.lookup token.token = some token ∧ 1 ≤ token.usesLeft ∧
      created.input.request.tokenUses = some token.usesLeft ∧
      (∀ event ∈ early, spends config token.token event = false) ∧
      spends config token.token created = false ∧
      ∃ later, late = trace (step config) created.after later ∧
        run config calls = exec (step config) created.after later ∧
        ∀ event ∈ trace (step config) created.after later,
          ¬ Grants config token.token event := by
  obtain ⟨notEarly, notLate⟩ := ungranted_of_nodup fresh split ⟨token, isGranted, rfl⟩
  obtain ⟨earlyCalls, later, _, earlyEq, createdEq, runEq, lateEq⟩ := trace_after _ split
  have transition := step_transition config created.before created.input
  rw [isGranted] at transition
  obtain ⟨stored, positive, uses, notRegister⟩ := transition.grant_stored
  have afterEq : created.after = step config created.before created.input := by
    rw [createdEq]
    rfl
  refine ⟨?_, positive, uses, ?_, ?_, later, lateEq, runEq, ?_⟩
  · rw [afterEq]
    exact stored
  · rw [earlyEq] at notEarly ⊢
    refine not_spends_of_dead_trace earlyCalls ?_ notEarly
    intro other otherAt
    cases otherAt
  · rw [createdEq]
    exact spends_of_other_request rfl notRegister
  · rw [← lateEq]
    exact notLate

/-- A registration with the token comes before its expiry, its revocation and the deletion
of its network, and the node takes its network, tags and owner from the token. -/
theorem spending_after_grant
    (fresh : ((history config calls).filterMap (grantedKey config)).Nodup)
    (split : history config calls = early ++ created :: late)
    (isGranted : createdToken config created.before created.input = some token)
    {middle rest : List (Event State Call)} {event : Event State Call}
    (lateSplit : late = middle ++ event :: rest)
    (isSpent : spends config token.token event = true) :
    event.input.draws.now < token.expiresAt ∧
      (∀ earlier ∈ middle, revokesToken config token.token earlier = false ∧
        deletesNetwork config token.networkId earlier = false) ∧
      ∃ node, createdNode config event.before event.input = some node ∧
        node.networkId = token.networkId ∧ node.tags = token.tags ∧
        node.ownerUserId = token.ownerUserId ∧ node.ownerEmail = token.ownerEmail ∧
        node.ownerIsAdmin = token.ownerIsAdmin := by
  obtain ⟨stored, _, _, _, _, later, lateEq, _, ungranted⟩ :=
    run_after_grant fresh split isGranted
  have initial : ∀ other, created.after.tokens.lookup token.token = some other →
      SameGrant token other := by
    intro other otherAt
    rw [stored, Option.some.injEq] at otherAt
    rw [← otherAt]
    exact SameGrant.refl token
  rw [lateEq] at lateSplit
  have order := not_ended_before_spends initial ungranted lateSplit isSpent
  obtain ⟨first, second, laterEq, _, eventEq, _, _⟩ := trace_after _ lateSplit
  have sameBefore := sameGrant_exec first initial (fun other member => by
    apply ungranted other
    rw [laterEq]
    exact mem_trace_of_early member)
  -- The state before the registration is itself the state of a run.
  have whole : event ∈ history config calls := by
    rw [split, lateEq, lateSplit]
    exact List.mem_append_right _
      (List.mem_cons_of_mem _ (List.mem_append_right _ List.mem_cons_self))
  obtain ⟨before, _, _, beforeEq⟩ := before_of_mem_trace _ whole
  rw [eventEq] at isSpent
  obtain ⟨spent, node, spending⟩ := spending_of_spends isSpent
  have same := sameBefore spent spending.tokenAt
  have beforeIs : event.before = exec (step config) created.after first := by
    rw [eventEq]
    rfl
  obtain ⟨network, networkAt, isNetwork⟩ := spending.networkId
  have keyed : network.id = spent.networkId := by
    apply run_networkKeyed config before
    rw [← beforeIs, beforeEq] at networkAt
    exact networkAt
  refine ⟨?_, order, node, ?_, ?_, spending.tags.trans same.tags,
    spending.ownerUserId.trans same.ownerUserId, spending.ownerEmail.trans same.ownerEmail,
    spending.ownerIsAdmin.trans same.ownerIsAdmin⟩
  · rw [← same.expiresAt]
    exact spending.live
  · rw [beforeIs]
    exact spending.isMade
  · rw [isNetwork, keyed, same.networkId]

theorem countP_history
    (fresh : ((history config calls).filterMap (grantedKey config)).Nodup)
    (split : history config calls = early ++ created :: late)
    (isGranted : createdToken config created.before created.input = some token) :
    (history config calls).countP (spends config token.token) ≤ token.usesLeft ∧
      ∀ stored, (run config calls).tokens.lookup token.token = some stored →
        1 ≤ stored.usesLeft ∧
          stored.usesLeft + (history config calls).countP (spends config token.token) =
            token.usesLeft := by
  obtain ⟨stored, positive, _, notEarly, notCreated, later, lateEq, runEq, ungranted⟩ :=
    run_after_grant fresh split isGranted
  have countEq : (history config calls).countP (spends config token.token) =
      (trace (step config) created.after later).countP (spends config token.token) := by
    have none : early.countP (spends config token.token) = 0 := by
      rw [List.countP_eq_zero]
      intro event member
      rw [notEarly event member]
      exact Bool.false_ne_true
    rw [split, List.countP_append, none, Nat.zero_add, lateEq]
    exact List.countP_cons_of_neg (by rw [notCreated]; exact Bool.false_ne_true)
  rw [countEq, runEq]
  have counted := count_spends later stored positive ungranted
  exact ⟨counted.atMost, counted.exactly⟩

end

/-- When no token string is drawn twice: the registrations with a token are never more than the
uses that were asked for at its creation, each of them comes before the token's expiry, its
revocation and the deletion of its network and takes the node's network, tags and owner from the
token, and a stored token has as many uses left as have not been spent. -/
theorem tokens_never_overspent (config : Config) (calls : List Call)
    (fresh : ((history config calls).filterMap (grantedKey config)).Nodup) :
    (∀ early created late token, history config calls = early ++ created :: late →
      createdToken config created.before created.input = some token →
      created.input.request.tokenUses = some token.usesLeft ∧
      (history config calls).countP (spends config token.token) ≤ token.usesLeft ∧
      (∀ event ∈ early, spends config token.token event = false) ∧
      ∀ middle event rest, late = middle ++ event :: rest →
        spends config token.token event = true →
        event.input.draws.now < token.expiresAt ∧
        (∀ earlier ∈ middle, revokesToken config token.token earlier = false ∧
          deletesNetwork config token.networkId earlier = false) ∧
        ∃ node, createdNode config event.before event.input = some node ∧
          node.networkId = token.networkId ∧ node.tags = token.tags ∧
          node.ownerUserId = token.ownerUserId ∧ node.ownerEmail = token.ownerEmail ∧
          node.ownerIsAdmin = token.ownerIsAdmin) ∧
    ∀ key stored, (run config calls).tokens.lookup key = some stored →
      1 ≤ stored.usesLeft ∧
      ∃ early created late token, history config calls = early ++ created :: late ∧
        createdToken config created.before created.input = some token ∧ token.token = key ∧
        created.input.request.tokenUses =
          some (stored.usesLeft + (history config calls).countP (spends config key)) := by
  constructor
  · intro early created late token split isGranted
    obtain ⟨_, _, uses, notEarly, _⟩ := run_after_grant fresh split isGranted
    refine ⟨uses, (countP_history fresh split isGranted).1, notEarly, ?_⟩
    intro middle event rest lateSplit isSpent
    exact spending_after_grant fresh split isGranted lateSplit isSpent
  · intro key stored storedAt
    obtain ⟨created, member, token, isGranted, isKey⟩ :=
      granted_of_stored config calls key stored storedAt
    obtain ⟨early, late, split⟩ := List.append_of_mem member
    rw [← isKey] at storedAt
    obtain ⟨atLeast, sum⟩ := (countP_history fresh split isGranted).2 stored storedAt
    obtain ⟨_, _, uses, _⟩ := run_after_grant fresh split isGranted
    rw [isKey] at sum
    exact ⟨atLeast, early, created, late, token, split, isGranted, isKey, by rw [sum, uses]⟩

def sampleEnrollments : List Call :=
  [createSample 0, registerSample 1 "a" "alpha", registerSample 2 "b" "beta"]

/-- Two of the three uses of the bootstrap token have been spent. -/
theorem sample_tokens_never_overspent :
    ∃ stored, (run sampleConfig sampleEnrollments).tokens.lookup "net" = some stored ∧
      1 ≤ stored.usesLeft ∧
      stored.usesLeft +
        (history sampleConfig sampleEnrollments).countP (spends sampleConfig "net") = 3 := by
  have present : ((run sampleConfig sampleEnrollments).tokens.lookup "net").isSome = true := by
    decide +kernel
  have asked : ∀ event ∈ history sampleConfig sampleEnrollments,
      ∀ uses ∈ event.input.request.tokenUses, uses = 3 := by
    decide +kernel
  obtain ⟨stored, storedAt⟩ := Option.isSome_iff_exists.mp present
  obtain ⟨atLeast, early, created, late, token, split, _, _, uses⟩ :=
    (tokens_never_overspent sampleConfig sampleEnrollments (by decide +kernel)).2 "net" stored
      storedAt
  refine ⟨stored, storedAt, atLeast, asked created ?_ _ uses⟩
  rw [split]
  exact List.mem_append_right _ List.mem_cons_self

end Lightscale.ControlPlane
