/-
What a refused request leaves behind when the state is kept in a file.

The file backend hands its live state to the closure and has no way back, so a closure that
edits first and checks later leaves the edit.  Three closures do: a rotation replaces the
machine key before it looks at the other key, a network is stored before its bootstrap token
is built, and the allocator advances one counter before it looks at the other family.
-/

import Lightscale.ControlPlane.Answers

namespace Lightscale.ControlPlane

open Foundation

/-- A request that is refused for its own sake leaves the state as it was; an internal error
is about the storage. -/
def RefusesCleanly {Result : Type} (handler : Handler Result) (state : State) : Prop :=
  ∀ error, error ≠ .internal → (handler state).1 = .error error → (handler state).2 = state

section

variable {Result Response : Type} {state : State}

theorem refusesCleanly_respond_iff {handler : Handler Result} {response : Result → Response} :
    RefusesCleanly (handler.respond response) state ↔ RefusesCleanly handler state := by
  unfold RefusesCleanly Handler.respond
  rcases handler state with ⟨_ | result, left⟩
  · simp [Except.map]
  · simp [Except.map]

theorem refusesCleanly_check_iff {Checked : Type} {checked : Except ApiError Checked}
    {next : Checked → Handler Result} :
    RefusesCleanly (check checked next) state ↔
      ∀ value, checked = .ok value → RefusesCleanly (next value) state := by
  cases checked with
  | error error => simp [RefusesCleanly, check]
  | ok value => simp [RefusesCleanly, check]

/-- The file backend adds nothing to what the closure does: a failure of the storage is an
internal error. -/
theorem refusesCleanly_file_write_iff {stored : Bool} {closure : Handler Result} :
    RefusesCleanly (Backend.file.write stored closure) state ↔
      RefusesCleanly closure state := by
  unfold RefusesCleanly Backend.write
  rcases closure state with ⟨_ | result, left⟩
  · simp
  · cases stored with
    | false =>
        constructor
        · intro _ error _ failed
          cases failed
        · intro _ error isRequest failed
          cases failed
          exact absurd rfl isRequest
    | true => simp

theorem Backend.file_write_error_clean_iff {stored : Bool} {closure : Handler Result} :
    (∀ error, (closure state).1 = .error error →
      (Backend.file.write stored closure state).2 = state) ↔
      ∀ error, (closure state).1 = .error error → (closure state).2 = state := by
  unfold Backend.write
  rcases closure state with ⟨_ | result, left⟩
  · rfl
  · simp

end

/-! ### Rotating keys -/

/-- A rotation that the node's credentials allow, with a new machine key and the current
WireGuard key. -/
structure HalfRotated (config : Config) (headers : Headers) (nodeId : String)
    (request : KeyRotationRequest) (state : State) (node : NodeState) (machineKey : String) :
    Prop where
  nodeAt : state.nodes.lookup nodeId = some node
  allowed : requireNode headers config.adminToken node = .ok ()
  given : request.machinePublicKey = some machineKey
  changed : machineKey ≠ node.machinePublicKey
  unchanged : request.wgPublicKey = some node.wgPublicKey

theorem rotateKey_error {keyType : KeyType} {newKey : Option String} {now : Int}
    {node : NodeState} {error : ApiError} (ran : rotateKey keyType newKey now node = .error error) :
    newKey = some (node.publicKey keyType) := by
  unfold rotateKey at ran
  split at ran
  · cases ran
  · split at ran
    · rename_i key same
      rw [same]
    · cases ran

section

variable {config : Config} {draws : Draws} {headers : Headers} {nodeId : String}
  {request : KeyRotationRequest} {state : State}

theorem HalfRotated.leaves {node : NodeState} {machineKey : String}
    (half : HalfRotated config headers nodeId request state node machineKey) (draws : Draws) :
    ∃ rotated, rotated.machinePublicKey = machineKey ∧
      rotateKeysWrite config draws headers nodeId request state =
        (.error (.badRequest "wg_public_key unchanged"),
          { state with nodes := state.nodes.replace nodeId rotated }) := by
  refine ⟨{ node with
    machinePublicKey := machineKey
    keyHistory := revokeKeyRecord node.keyHistory .machine node.machinePublicKey draws.now ++
      [⟨.machine, machineKey, draws.now, none⟩] }, rfl, ?_⟩
  have changed : ¬ node.machinePublicKey = machineKey := fun same => half.changed same.symm
  unfold rotateKeysWrite
  rw [half.nodeAt]
  dsimp only
  rw [half.allowed, half.given, half.unchanged]
  simp [rotateKey, NodeState.publicKey, NodeState.setPublicKey, changed, unchangedMessage]

theorem rotateKeysWrite_refusesCleanly_iff :
    RefusesCleanly (rotateKeysWrite config draws headers nodeId request) state ↔
      ¬ ∃ node machineKey, HalfRotated config headers nodeId request state node machineKey := by
  constructor
  · rintro clean ⟨node, machineKey, half⟩
    obtain ⟨rotated, isNew, ran⟩ := half.leaves draws
    have same := clean (.badRequest "wg_public_key unchanged") nofun (by rw [ran])
    rw [ran] at same
    have stored := congrArg (fun left => left.nodes.lookup nodeId) same
    dsimp only at stored
    rw [Table.lookup_replace_eq half.nodeAt, if_pos rfl, half.nodeAt, Option.some.injEq]
      at stored
    rw [stored] at isNew
    exact half.changed isNew.symm
  · intro whole error _ failed
    unfold rotateKeysWrite at failed ⊢
    cases nodeAt : state.nodes.lookup nodeId with
    | none => rfl
    | some node =>
        rw [nodeAt] at failed
        dsimp only at failed ⊢
        cases allowed : requireNode headers config.adminToken node with
        | error error => rfl
        | ok _ =>
            rw [allowed] at failed
            dsimp only at failed ⊢
            cases machine : rotateKey .machine request.machinePublicKey draws.now node with
            | error error => rfl
            | ok machineRotated =>
                rw [machine] at failed
                dsimp only at failed ⊢
                cases wireGuard : rotateKey .wireGuard request.wgPublicKey draws.now
                    machineRotated with
                | ok bothRotated =>
                    rw [wireGuard] at failed
                    cases failed
                | error error =>
                    dsimp only
                    rcases rotateKey_ok machine with ⟨_, same⟩ | ⟨key, given, changed, rotated⟩
                    · rw [same, Table.replace_self nodeAt]
                    · refine absurd ⟨node, key, nodeAt, allowed, given, ?_, ?_⟩ whole
                      · exact fun same => changed same.symm
                      · rw [rotateKey_error wireGuard, rotated]
                        rfl

/-- On the file backend a refused rotation leaves the state alone, except one with a new
machine key and the current WireGuard key. -/
theorem rotateKeys_all_or_nothing_iff (onFile : config.backend = .file) :
    RefusesCleanly (rotateKeys config draws headers nodeId request) state ↔
      ¬ ∃ node machineKey, HalfRotated config headers nodeId request state node machineKey := by
  unfold rotateKeys Config.write
  rw [refusesCleanly_check_iff, onFile]
  simp only [refusesCleanly_respond_iff, refusesCleanly_file_write_iff,
    rotateKeysWrite_refusesCleanly_iff]
  constructor
  · intro clean half
    obtain ⟨node, machineKey, isHalf⟩ := half
    apply clean () _ ⟨node, machineKey, isHalf⟩
    rw [isHalf.given]
    rfl
  · intro whole _ _
    exact whole

end

def sampleRotatable : State :=
  run sampleConfig [createSample 0, registerSample 1 "a" "alpha"]

def sampleRotate (machineKey wgKey : Option String) : Handler KeyRotationResponse :=
  rotateKeys sampleConfig (sampleDraws 5 "x") { authorization := some "Bearer root" } "a"
    { machinePublicKey := machineKey, wgPublicKey := wgKey }

/-- A rotation to the current machine key is refused and leaves no trace. -/
theorem sample_rotation_refused_cleanly :
    (sampleRotate (some "a-machine") none sampleRotatable).1.map (fun _ => ()) =
        .error (.badRequest "machine_public_key unchanged") ∧
      RefusesCleanly (sampleRotate (some "a-machine") none) sampleRotatable := by
  refine ⟨by decide +kernel, (rotateKeys_all_or_nothing_iff rfl).mpr ?_⟩
  rintro ⟨node, machineKey, half⟩
  cases half.unchanged

/-- A rotation that gives the current WireGuard key is refused and has replaced the machine
key, without an audit entry and at the same revision. -/
theorem refused_rotation_replaces_machine_key :
    (sampleRotate (some "a-machine-2") (some "a-wg") sampleRotatable).1.map (fun _ => ()) =
        .error (.badRequest "wg_public_key unchanged") ∧
      (sampleRotatable.nodes.lookup "a").map NodeState.machinePublicKey =
        some "a-machine" ∧
      ((sampleRotate (some "a-machine-2") (some "a-wg") sampleRotatable).2.nodes.lookup
        "a").map NodeState.machinePublicKey = some "a-machine-2" ∧
      (sampleRotate (some "a-machine-2") (some "a-wg") sampleRotatable).2.auditLog =
        sampleRotatable.auditLog ∧
      (sampleRotate (some "a-machine-2") (some "a-wg") sampleRotatable).2.revision =
        sampleRotatable.revision := by
  refine ⟨?_, ?_, ?_, ?_, ?_⟩ <;> decide +kernel

/-! ### Creating a network -/

/-- A request for a network that can be created, with a bootstrap token that cannot. -/
structure Stranded (config : Config) (draws : Draws) (headers : Headers)
    (request : CreateNetworkRequest) (state : State) (planned : PlannedNetwork) (ttl : Nat) :
    Prop where
  admin : requireAdmin headers config.adminToken = .ok ()
  plan : planNetwork config.externals draws request = .ok planned
  absent : state.networks.lookup planned.state.id = none
  apart : checkOverlaps config.externals planned.overlayV4Net planned.overlayV6Net
    state.networks.values = .ok ()
  asked : request.bootstrapTokenTtlSeconds = some ttl
  unusable : ttl = 0 ∨ request.bootstrapTokenUses.getD 1 = 0

def CreatesOne (request : CreateNetworkRequest) (state left : State) : Prop :=
  ∃ network, state.networks.lookup network.id = none ∧
    left.networks = state.networks.insert network.id network ∧ left.nodes = state.nodes ∧
    match request.bootstrapTokenTtlSeconds with
    | none => left.tokens = state.tokens
    | some _ => ∃ token, token.networkId = network.id ∧
        state.tokens.lookup token.token = none ∧
        left.tokens = state.tokens.insert token.token token

section

variable {config : Config} {draws : Draws} {headers : Headers}
  {request : CreateNetworkRequest} {state : State} {planned : PlannedNetwork}

theorem createNetworkWrite_refusesCleanly_iff :
    RefusesCleanly (createNetworkWrite config.externals draws request planned) state ↔
      ¬ (state.networks.lookup planned.state.id = none ∧
        checkOverlaps config.externals planned.overlayV4Net planned.overlayV6Net
          state.networks.values = .ok () ∧
        ∃ ttl, request.bootstrapTokenTtlSeconds = some ttl ∧
          (ttl = 0 ∨ request.bootstrapTokenUses.getD 1 = 0)) := by
  constructor
  · rintro clean ⟨absent, apart, ttl, asked, unusable⟩
    have failed : (createNetworkWrite config.externals draws request planned state).1 =
        .error (.badRequest "ttl_seconds and uses must be > 0") := by
      simp [createNetworkWrite, absent, apart, asked, buildToken, unusable]
    have same := clean (.badRequest "ttl_seconds and uses must be > 0") nofun failed
    have found := congrArg (fun left => left.networks.lookup planned.state.id) same
    simp [createNetworkWrite, absent, apart, asked, buildToken, unusable, State.audit]
      at found
  · intro usable error isRequest failed
    unfold createNetworkWrite at failed ⊢
    dsimp only at failed ⊢
    cases present : state.networks.lookup planned.state.id with
    | some network => rfl
    | none =>
        rw [present] at failed
        simp only [Option.isSome_none, Bool.false_eq_true, if_false] at failed ⊢
        cases apart : checkOverlaps config.externals planned.overlayV4Net
            planned.overlayV6Net state.networks.values with
        | error error => rfl
        | ok _ =>
            rw [apart] at failed
            dsimp only at failed ⊢
            cases asked : request.bootstrapTokenTtlSeconds with
            | none =>
                rw [asked] at failed
                cases failed
            | some ttl =>
                rw [asked] at failed
                dsimp only at failed
                have fits : ¬ (ttl = 0 ∨ request.bootstrapTokenUses.getD 1 = 0) :=
                  fun unusable => usable ⟨present, apart, ttl, asked, unusable⟩
                unfold buildToken at failed
                rw [if_neg fits] at failed
                cases failed

theorem createNetworkWrite_createsOne {granted : Option TokenState} {left : State}
    (unused : state.tokens.lookup draws.tokenSecret = none)
    (ran : createNetworkWrite config.externals draws request planned state =
      (.ok granted, left)) : CreatesOne request state left.bump := by
  obtain ⟨absent, isGranted, grant, detail, leaves⟩ := createNetworkWrite_eq_ok ran
  refine ⟨planned.state, absent, leaves.networks, leaves.nodes, ?_⟩
  cases asked : request.bootstrapTokenTtlSeconds with
  | none =>
      rw [asked, Option.isSome_none, Option.isSome_eq_false_iff, Option.isNone_iff_eq_none]
        at isGranted
      rw [isGranted] at leaves
      exact leaves.tokens
  | some ttl =>
      rw [asked, Option.isSome_some, Option.isSome_iff_exists] at isGranted
      obtain ⟨token, isToken⟩ := isGranted
      obtain ⟨isSecret, inNetwork⟩ := grant token isToken
      rw [isToken] at leaves
      refine ⟨token, inNetwork, ?_, leaves.tokens⟩
      rw [isSecret]
      exact unused

/-- On the file backend a request for a network is all or nothing, except when it asks for a
bootstrap token without lifetime or uses for a network that can be created. -/
theorem createNetwork_all_or_nothing_iff (onFile : config.backend = .file)
    (unused : state.tokens.lookup draws.tokenSecret = none) :
    (RefusesCleanly (createNetwork config draws headers request) state ∧
      ∀ response left,
        createNetwork config draws headers request state = (.ok response, left) →
        CreatesOne request state left) ↔
      ¬ ∃ planned ttl, Stranded config draws headers request state planned ttl := by
  have createsOne : ∀ response left,
      createNetwork config draws headers request state = (.ok response, left) →
      CreatesOne request state left := by
    intro response left ran
    obtain ⟨_, -, ran⟩ := check_eq_ok ran
    obtain ⟨planned, -, ran⟩ := check_eq_ok ran
    obtain ⟨granted, ran, -⟩ := Handler.respond_eq_ok ran
    obtain ⟨edited, closureRan, bumped⟩ := Backend.write_eq_ok ran
    rw [bumped]
    exact createNetworkWrite_createsOne unused closureRan
  rw [and_iff_left createsOne]
  unfold createNetwork Config.write
  rw [onFile]
  simp only [refusesCleanly_check_iff, refusesCleanly_respond_iff,
    refusesCleanly_file_write_iff, createNetworkWrite_refusesCleanly_iff]
  constructor
  · rintro clean ⟨planned, ttl, stranded⟩
    exact clean () stranded.admin planned stranded.plan
      ⟨stranded.absent, stranded.apart, ttl, stranded.asked, stranded.unusable⟩
  · rintro whole _ admin planned plan ⟨absent, apart, ttl, asked, unusable⟩
    exact whole ⟨planned, ttl, admin, plan, absent, apart, asked, unusable⟩

end

def sampleCreate (ttl : Option Nat) : Handler CreateNetworkResponse :=
  createNetwork sampleConfig (sampleDraws 0 "net") { authorization := some "Bearer root" }
    { sampleNetworkRequest with bootstrapTokenTtlSeconds := ttl }

def sampleCreated : State := (sampleCreate none State.default).2

/-- A second network with the same id is refused and leaves no trace. -/
theorem sample_creation_refused_cleanly :
    (sampleCreate none sampleCreated).1.map (fun _ => ()) =
        .error (.conflict "network already exists") ∧
      RefusesCleanly (sampleCreate none) sampleCreated := by
  have unused : sampleCreated.tokens.lookup "net" = none := by decide +kernel
  refine ⟨by decide +kernel, ((createNetwork_all_or_nothing_iff rfl unused).mpr ?_).1⟩
  rintro ⟨planned, ttl, stranded⟩
  cases stranded.asked

/-- A network with a bootstrap token that lives for no time is refused and stored. -/
theorem refused_network_is_stored :
    (sampleCreate (some 0) State.default).1.map (fun _ => ()) =
        .error (.badRequest "ttl_seconds and uses must be > 0") ∧
      ((sampleCreate (some 0) State.default).2.networks.lookup "net").isSome = true ∧
      (sampleCreate (some 0) State.default).2.auditLog.map AuditEntry.action =
        ["network.create"] ∧
      (sampleCreate (some 0) State.default).2.revision = State.default.revision := by
  refine ⟨?_, ?_, ?_, ?_⟩ <;> decide +kernel

/-! ### Registering a node -/

/-- The network has an IPv4 address left and no IPv6 address. -/
def SpendsOffset (externals : Externals) (network : NetworkState) : Prop :=
  ∃ v4 v6 last, externals.parseV4 network.overlayV4 = some v4 ∧
    externals.parseV6 network.overlayV6 = some v6 ∧ maxIpv4Offset v4 = some last ∧
    network.nextIpv4 ≤ last ∧ maxIpv6Offset v6 < network.nextIpv6

theorem SpendsOffset.allocate {externals : Externals} {network : NetworkState}
    (spends : SpendsOffset externals network) :
    allocateNodeIps externals network =
      (.error (.conflict "ipv6 address space exhausted"),
        { network with nextIpv4 := (network.nextIpv4 + 1) % 2 ^ 32 }) := by
  obtain ⟨v4, v6, last, parsed4, parsed6, lastAt, hasRoom, exhausted⟩ := spends
  have room : ¬ last < network.nextIpv4 := by omega
  rw [allocateNodeIps_eq parsed4 parsed6 lastAt, if_neg room, if_pos exhausted]

theorem allocateNodeIps_error_clean {externals : Externals} {network advanced : NetworkState}
    {error : ApiError} (failed : allocateNodeIps externals network = (.error error, advanced))
    (keeps : ¬ SpendsOffset externals network) : advanced = network := by
  unfold allocateNodeIps at failed
  split at failed
  · cases failed
    rfl
  · cases failed
    rfl
  · rename_i v4 v6 parsed4 parsed6
    split at failed
    · cases failed
      rfl
    · rename_i last lastAt
      split at failed
      · cases failed
        rfl
      · rename_i hasRoom
        dsimp only at failed
        split at failed
        · rename_i exhausted
          exact absurd ⟨v4, v6, last, parsed4, parsed6, lastAt, by omega, exhausted⟩ keeps
        · cases failed

theorem lookup_advanced_ne {networks : Table String NetworkState} {networkId : String}
    {network : NetworkState} (networkAt : networks.lookup networkId = some network) :
    networks.replace networkId { network with nextIpv4 := (network.nextIpv4 + 1) % 2 ^ 32 } ≠
      networks := by
  intro same
  have found := congrArg (fun table => table.lookup networkId) same
  rw [Table.lookup_replace_eq networkAt, if_pos rfl, networkAt, Option.some.injEq] at found
  have moved : (network.nextIpv4 + 1) % 2 ^ 32 = network.nextIpv4 :=
    congrArg NetworkState.nextIpv4 found
  omega

structure TokenAccepted (draws : Draws) (request : RegisterRequest) (state : State)
    (token : TokenState) : Prop where
  tokenAt : state.tokens.lookup request.token = some token
  live : ¬ token.expiresAt ≤ draws.now
  unrevoked : token.revokedAt.isSome = false
  usable : token.usesLeft ≠ 0

section

variable {externals : Externals} {draws : Draws} {state : State}

theorem registerWrite_error_clean_iff {request : RegisterRequest} {nodeName : String} :
    (∀ error, (registerWrite externals draws request nodeName state).1 = .error error →
        (registerWrite externals draws request nodeName state).2 = state) ↔
      ¬ ∃ token network, TokenAccepted draws request state token ∧
        ensureUniqueNodeName state token.networkId nodeName none = .ok () ∧
        state.networks.lookup token.networkId = some network ∧
        SpendsOffset externals network := by
  constructor
  · rintro clean ⟨token, network, accepted, unique, networkAt, spends⟩
    have ran : registerWrite externals draws request nodeName state =
        (.error (.conflict "ipv6 address space exhausted"),
          { state with
            networks := state.networks.replace token.networkId
              { network with nextIpv4 := (network.nextIpv4 + 1) % 2 ^ 32 } }) := by
      unfold registerWrite
      rw [accepted.tokenAt]
      dsimp only
      rw [if_neg accepted.live, accepted.unrevoked, if_neg Bool.false_ne_true,
        if_neg accepted.usable, unique]
      dsimp only
      rw [networkAt]
      dsimp only
      rw [spends.allocate]
    have same := clean (.conflict "ipv6 address space exhausted") (by rw [ran])
    rw [ran] at same
    exact lookup_advanced_ne networkAt (congrArg State.networks same)
  · intro keeps error failed
    unfold registerWrite at failed ⊢
    cases tokenAt : state.tokens.lookup request.token with
    | none => rfl
    | some token =>
        rw [tokenAt] at failed
        dsimp only at failed ⊢
        by_cases expired : token.expiresAt ≤ draws.now
        · rw [if_pos expired]
        rw [if_neg expired] at failed ⊢
        cases isRevoked : token.revokedAt.isSome with
        | true => rfl
        | false =>
            rw [isRevoked, if_neg Bool.false_ne_true] at failed
            rw [if_neg Bool.false_ne_true]
            by_cases usedUp : token.usesLeft = 0
            · rw [if_pos usedUp]
            rw [if_neg usedUp] at failed ⊢
            cases unique : ensureUniqueNodeName state token.networkId nodeName none with
            | error error => rfl
            | ok _ =>
                rw [unique] at failed
                dsimp only at failed ⊢
                cases networkAt : state.networks.lookup token.networkId with
                | none => rfl
                | some network =>
                    rw [networkAt] at failed
                    dsimp only at failed ⊢
                    rcases allocated : allocateNodeIps externals network with
                      ⟨_ | ⟨ipv4, ipv6⟩, advanced⟩
                    · have same := allocateNodeIps_error_clean allocated fun spends =>
                        keeps ⟨token, network, ⟨tokenAt, expired, isRevoked, usedUp⟩, unique,
                          networkAt, spends⟩
                      dsimp only
                      rw [same, Table.replace_self networkAt]
                    · rw [allocated] at failed
                      dsimp only [State.audit] at failed
                      rw [tokenAt] at failed
                      cases failed

theorem registerUrlWrite_error_clean_iff {request : RegisterUrlRequest} {nodeName : String}
    {expiresAt : Int} :
    (∀ error,
        (registerUrlWrite externals draws request nodeName expiresAt state).1 = .error error →
        (registerUrlWrite externals draws request nodeName expiresAt state).2 = state) ↔
      ¬ ∃ network, ensureUniqueNodeName state request.networkId nodeName none = .ok () ∧
        state.networks.lookup request.networkId = some network ∧
        SpendsOffset externals network := by
  constructor
  · rintro clean ⟨network, unique, networkAt, spends⟩
    have ran : registerUrlWrite externals draws request nodeName expiresAt state =
        (.error (.conflict "ipv6 address space exhausted"),
          { state with
            networks := state.networks.replace request.networkId
              { network with nextIpv4 := (network.nextIpv4 + 1) % 2 ^ 32 } }) := by
      unfold registerUrlWrite
      rw [unique]
      dsimp only
      rw [networkAt]
      dsimp only
      rw [spends.allocate]
    have same := clean (.conflict "ipv6 address space exhausted") (by rw [ran])
    rw [ran] at same
    exact lookup_advanced_ne networkAt (congrArg State.networks same)
  · intro keeps error failed
    unfold registerUrlWrite at failed ⊢
    cases unique : ensureUniqueNodeName state request.networkId nodeName none with
    | error error => rfl
    | ok _ =>
        rw [unique] at failed
        dsimp only at failed ⊢
        cases networkAt : state.networks.lookup request.networkId with
        | none => rfl
        | some network =>
            rw [networkAt] at failed
            dsimp only at failed ⊢
            rcases allocated : allocateNodeIps externals network with
              ⟨_ | ⟨ipv4, ipv6⟩, advanced⟩
            · have same := allocateNodeIps_error_clean allocated fun spends =>
                keeps ⟨network, unique, networkAt, spends⟩
              dsimp only
              rw [same, Table.replace_self networkAt]
            · rw [allocated] at failed
              cases failed

/-- On the file backend a refused registration leaves the state alone, except one that passes
every check in a network with IPv4 addresses left and no IPv6 address. -/
theorem registration_all_or_nothing_iff (externals : Externals) (draws : Draws) (state : State)
    (stored : Bool) :
    (∀ request nodeName,
      (∀ error, (registerWrite externals draws request nodeName state).1 = .error error →
        (Backend.file.write stored (registerWrite externals draws request nodeName)
          state).2 = state) ↔
        ¬ ∃ token network, TokenAccepted draws request state token ∧
          ensureUniqueNodeName state token.networkId nodeName none = .ok () ∧
          state.networks.lookup token.networkId = some network ∧
          SpendsOffset externals network) ∧
    (∀ request nodeName expiresAt,
      (∀ error,
        (registerUrlWrite externals draws request nodeName expiresAt state).1 = .error error →
        (Backend.file.write stored
          (registerUrlWrite externals draws request nodeName expiresAt) state).2 = state) ↔
        ¬ ∃ network, ensureUniqueNodeName state request.networkId nodeName none = .ok () ∧
          state.networks.lookup request.networkId = some network ∧
          SpendsOffset externals network) := by
  constructor
  · intro request nodeName
    rw [Backend.file_write_error_clean_iff]
    exact registerWrite_error_clean_iff
  · intro request nodeName expiresAt
    rw [Backend.file_write_error_clean_iff]
    exact registerUrlWrite_error_clean_iff

end

def sampleNarrowConfig : Config :=
  { sampleConfig with
    externals := { sampleExternals with
      parseV6 := fun text =>
        if text = "::1/128" then some ⟨1, 128, by decide, by decide⟩
        else sampleExternals.parseV6 text } }

def sampleNarrow : State :=
  run sampleNarrowConfig
    [adminCall 0 "net" (.createNetwork
        { sampleNetworkRequest with overlayV6 := some "::1/128" }),
      registerSample 1 "a" "alpha"]

def sampleNarrowRegister (token : String) : Handler String :=
  registerWrite sampleNarrowConfig.externals (sampleDraws 2 "b")
    { sampleRegisterRequest "b" "beta" with token := token } "beta"

theorem sample_registration_refused_cleanly :
    (sampleNarrowRegister "other" sampleNarrow).1 =
        .error (.unauthorized "token not found") ∧
      (Backend.file.write true (sampleNarrowRegister "other") sampleNarrow).2 =
        sampleNarrow := by
  have failed : (sampleNarrowRegister "other" sampleNarrow).1 =
      .error (.unauthorized "token not found") := by
    decide +kernel
  have unknown : sampleNarrow.tokens.lookup "other" = none := by decide +kernel
  refine ⟨failed, ?_⟩
  apply ((registration_all_or_nothing_iff sampleNarrowConfig.externals (sampleDraws 2 "b")
    sampleNarrow true).1 _ _).mpr _ _ failed
  rintro ⟨token, network, accepted, -⟩
  cases unknown.symm.trans accepted.tokenAt

/-- A registration that finds no address of the second family is refused and has taken one of
the first. -/
theorem refused_registration_spends_offset :
    (sampleNarrowRegister "net" sampleNarrow).1 =
        .error (.conflict "ipv6 address space exhausted") ∧
      (sampleNarrow.networks.lookup "net").map NetworkState.nextIpv4 = some 11 ∧
      ((Backend.file.write true (sampleNarrowRegister "net") sampleNarrow).2.networks.lookup
        "net").map NetworkState.nextIpv4 = some 12 := by
  refine ⟨?_, ?_, ?_⟩ <;> decide +kernel

end Lightscale.ControlPlane
