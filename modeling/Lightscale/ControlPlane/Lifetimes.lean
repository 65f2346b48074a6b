/-
How long a token, an approval link and a key live.

Lifetimes come from requests as unsigned numbers and are cast to signed ones before they
are added to the clock or compared with an age.  The cast keeps the lower half of the
range and turns the upper half negative.
-/

import Lightscale.ControlPlane.Answers

namespace Lightscale.ControlPlane

open Foundation

/-! ### Expiry of tokens and links -/

/-- The outcome is a refusal, or the exact end of the lifetime reached without overflow. -/
def ExactExpiry (now : Int) (ttlSeconds : Nat) (outcome : Except ApiError Int) : Prop :=
  (∃ error, outcome = .error error) ∨
    outcome = .ok (now + ttlSeconds) ∧ now < now + ttlSeconds ∧
      minI64 ≤ now + wrapI64 ttlSeconds ∧ now + wrapI64 ttlSeconds ≤ maxI64

theorem exactExpiry_sum_iff {now : Int} {ttlSeconds : Nat} (positive : 0 < ttlSeconds)
    (bounded : ttlSeconds < 2 ^ 64) (early : 0 ≤ now) (late : now < 2 ^ 40) :
    ExactExpiry now ttlSeconds (.ok (wrapI64 (now + wrapI64 ttlSeconds))) ↔
      now + ttlSeconds < 2 ^ 63 := by
  constructor
  · rintro (⟨error, impossible⟩ | ⟨same, -, -, below⟩)
    · cases impossible
    · by_cases small : (ttlSeconds : Int) < 2 ^ 63
      · have cast : wrapI64 ttlSeconds = ttlSeconds := wrapI64_of_lt (by omega) small
        rw [cast] at below
        unfold maxI64 at below
        omega
      · -- The cast lifetime is negative, so the end lies before the start.
        have cast : wrapI64 ttlSeconds = ttlSeconds - 2 ^ 64 :=
          wrapI64_of_ge (by omega) (by omega)
        have wrapped : wrapI64 (now + ((ttlSeconds : Int) - 2 ^ 64)) < 2 ^ 63 := by
          unfold wrapI64
          rw [Int.bmod_def]
          omega
        rw [cast, Except.ok.injEq] at same
        omega
  · intro fits
    have cast : wrapI64 ttlSeconds = ttlSeconds := wrapI64_of_lt (by omega) (by omega)
    refine Or.inr ?_
    rw [cast, wrapI64_of_lt (by omega) fits]
    unfold minI64 maxI64
    exact ⟨rfl, by omega, by omega, by omega⟩

theorem buildToken_exactExpiry_iff {draws : Draws} {ttlSeconds : Nat}
    (positive : 0 < ttlSeconds) (bounded : ttlSeconds < 2 ^ 64) (early : 0 ≤ draws.tokenNow)
    (late : draws.tokenNow < 2 ^ 40) (networkId : String) (uses : Nat) (tags : List String)
    (ownerUserId ownerEmail : Option String) (ownerIsAdmin : Bool) :
    ExactExpiry draws.tokenNow ttlSeconds
        ((buildToken draws networkId ttlSeconds uses tags ownerUserId ownerEmail
          ownerIsAdmin).map TokenState.expiresAt) ↔
      uses = 0 ∨ draws.tokenNow + ttlSeconds < 2 ^ 63 := by
  unfold buildToken
  by_cases unusable : uses = 0
  · rw [if_pos (Or.inr unusable)]
    constructor
    · intro _
      exact Or.inl unusable
    · intro _
      exact Or.inl ⟨_, rfl⟩
  · have accepted : ¬ (ttlSeconds = 0 ∨ uses = 0) := by omega
    rw [if_neg accepted, or_iff_right unusable]
    exact exactExpiry_sum_iff positive bounded early late

theorem linkExpiry_exactExpiry_iff {draws : Draws} {request : RegisterUrlRequest}
    {ttlSeconds : Nat} (given : request.ttlSeconds.getD 600 = ttlSeconds)
    (positive : 0 < ttlSeconds) (bounded : ttlSeconds < 2 ^ 64) (early : 0 ≤ draws.now)
    (late : draws.now < 2 ^ 40) :
    ExactExpiry draws.now ttlSeconds (linkExpiry draws request) ↔
      draws.now + ttlSeconds < 2 ^ 63 := by
  unfold linkExpiry
  rw [given]
  dsimp only
  rw [if_neg (by omega)]
  exact exactExpiry_sum_iff positive bounded early late

theorem registerUrl_expiry {config : Config} {draws : Draws} {request : RegisterUrlRequest}
    {state left : State} {response : RegisterUrlResponse}
    (ran : registerUrl config draws request state = (.ok response, left)) :
    linkExpiry draws request = .ok response.expiresAt ∧
      ∃ node, left.nodes.lookup response.nodeId = some node ∧
        node.authExpiresAt = some response.expiresAt := by
  obtain ⟨expiresAt, expiry, ran⟩ := check_eq_ok ran
  obtain ⟨nodeName, named, ran⟩ := check_eq_ok ran
  obtain ⟨written, ran, answered⟩ := Handler.respond_eq_ok ran
  obtain ⟨edited, closure, bumped⟩ := Backend.write_eq_ok ran
  obtain ⟨network, addresses, advanced, detail, networkAt, allocated, node, leaves⟩ :=
    registerUrlWrite_eq_ok closure
  subst answered
  subst bumped
  refine ⟨expiry, written.1, ?_, ?_⟩
  · rw [State.bump_nodes, leaves.nodes, node]
    exact AList.lookup_insert _
  · rw [node]
    rfl

/-- A token and an approval link end exactly when their lifetime after the current time
fits into the signed range; a link's end is what is answered and stored. -/
theorem expiry_exact_iff {draws : Draws} {ttlSeconds : Nat} (positive : 0 < ttlSeconds)
    (bounded : ttlSeconds < 2 ^ 64)
    (early : 0 ≤ draws.now ∧ 0 ≤ draws.tokenNow)
    (late : draws.now < 2 ^ 40 ∧ draws.tokenNow < 2 ^ 40) :
    (∀ networkId uses tags ownerUserId ownerEmail ownerIsAdmin,
      ExactExpiry draws.tokenNow ttlSeconds
          ((buildToken draws networkId ttlSeconds uses tags ownerUserId ownerEmail
            ownerIsAdmin).map TokenState.expiresAt) ↔
        uses = 0 ∨ draws.tokenNow + ttlSeconds < 2 ^ 63) ∧
    (∀ request : RegisterUrlRequest, request.ttlSeconds.getD 600 = ttlSeconds →
      (ExactExpiry draws.now ttlSeconds (linkExpiry draws request) ↔
        draws.now + ttlSeconds < 2 ^ 63)) ∧
    (∀ config request state response left,
      registerUrl config draws request state = (.ok response, left) →
      linkExpiry draws request = .ok response.expiresAt ∧
        ∃ node, left.nodes.lookup response.nodeId = some node ∧
          node.authExpiresAt = some response.expiresAt) := by
  refine ⟨?_, ?_, ?_⟩
  · exact buildToken_exactExpiry_iff positive bounded early.2 late.2
  · intro request given
    exact linkExpiry_exactExpiry_iff given positive bounded early.1 late.1
  · intro config request state response left ran
    exact registerUrl_expiry ran

def sampleUrlRequest (ttlSeconds : Option Nat) : RegisterUrlRequest where
  networkId := "net"
  nodeName := "alpha"
  machinePublicKey := "alpha-machine"
  wgPublicKey := "alpha-wg"
  ttlSeconds := ttlSeconds

theorem expiry_exact_default :
    ExactExpiry 100 600
        ((buildToken (sampleDraws 100 "alpha") "net" 600 1 [] none none true).map
          TokenState.expiresAt) ∧
      ExactExpiry 100 600 (linkExpiry (sampleDraws 100 "alpha") (sampleUrlRequest none)) := by
  have exact := @expiry_exact_iff (sampleDraws 100 "alpha") 600 (by decide) (by decide)
    (by decide) (by decide)
  exact ⟨(exact.1 "net" 1 [] none none true).mpr (Or.inr (by decide)),
    (exact.2.1 (sampleUrlRequest none) rfl).mpr (by decide)⟩

/-- With the largest lifetime a token and a link are one second past their end when they are
created, and nobody can use the link. -/
theorem largest_lifetime_expired :
    (buildToken (sampleDraws 100 "alpha") "net" (2 ^ 64 - 1) 1 [] none none true).map
        TokenState.expiresAt = .ok 99 ∧
      ((registerUrl sampleConfig (sampleDraws 100 "alpha") (sampleUrlRequest (some (2 ^ 64 - 1)))
        (run sampleConfig [createSample 0])).1.map RegisterUrlResponse.expiresAt) = .ok 99 ∧
      (handle sampleConfig (plainCall 100 "visit" (.approveNodeSecret "alpha" "alpha-secret"))
        (run sampleConfig
          [createSample 0,
            plainCall 100 "alpha" (.registerUrl (sampleUrlRequest (some (2 ^ 64 - 1))))])).1.map
        (fun _ => ()) = .error (.unauthorized "approval expired") := by
  refine ⟨by decide +kernel, by decide +kernel, by decide +kernel⟩

/-! ### The age of keys -/

/-- No current key of the node is older than the policy allows, as the server counts. -/
def KeysFresh (node : NodeState) (keyPolicy : KeyRotationPolicy) (now : Int) : Prop :=
  ∀ maxAge, keyPolicy.maxAgeSeconds = some maxAge →
    ∀ keyType createdAt, currentKeyCreatedAt node keyType = some createdAt →
      saturatingSubI64 now createdAt ≤ wrapI64 maxAge

theorem keyTooOld_eq_false_iff (node : NodeState) (keyType : KeyType) (maxAge now : Int) :
    keyTooOld node keyType maxAge now = false ↔
      ∀ createdAt, currentKeyCreatedAt node keyType = some createdAt →
        saturatingSubI64 now createdAt ≤ maxAge := by
  unfold keyTooOld
  cases current : currentKeyCreatedAt node keyType with
  | none => simp
  | some createdAt => simp

theorem keyRotationRequired_eq_false_iff (node : NodeState) (keyPolicy : KeyRotationPolicy)
    (now : Int) :
    (effectiveNodeStatus node keyPolicy now).2 = false ↔ KeysFresh node keyPolicy now := by
  unfold effectiveNodeStatus KeysFresh
  cases policy : keyPolicy.maxAgeSeconds with
  | none => simp
  | some maxAge =>
      simp only [Option.some.injEq, forall_eq', Bool.or_eq_false_iff, keyTooOld_eq_false_iff]
      constructor
      · rintro ⟨machine, wireGuard⟩ keyType
        cases keyType with
        | machine => exact machine
        | wireGuard => exact wireGuard
      · intro fresh
        exact ⟨fresh .machine, fresh .wireGuard⟩

theorem effectiveNodeStatus_iff (node : NodeState) (keyPolicy : KeyRotationPolicy)
    (now : Int) :
    (effectiveNodeStatus node keyPolicy now).1 = true ↔
      node.approved = true ∧ node.revokedAt = none ∧ KeysFresh node keyPolicy now := by
  rw [← keyRotationRequired_eq_false_iff]
  change (node.approved && !node.revokedAt.isSome &&
    !(effectiveNodeStatus node keyPolicy now).2) = true ↔ _
  simp [and_assoc]

/-- The record is the first one that holds the current key of its type unrevoked. -/
def FirstLive (node : NodeState) (keyType : KeyType) (record : KeyRecord) : Prop :=
  ∃ early late, node.keyHistory = early ++ record :: late ∧
    (record.keyType = keyType ∧ record.revokedAt = none ∧
      record.publicKey = node.publicKey keyType) ∧
    ∀ other ∈ early, ¬ (other.keyType = keyType ∧ other.revokedAt = none ∧
      other.publicKey = node.publicKey keyType)

theorem FirstLive.currentKeyCreatedAt {node : NodeState} {keyType : KeyType}
    {record : KeyRecord} (live : FirstLive node keyType record) :
    currentKeyCreatedAt node keyType = some record.createdAt := by
  obtain ⟨early, late, history, ⟨sameType, unrevoked, current⟩, first⟩ := live
  have found : node.keyHistory.find? (fun other =>
      decide (other.keyType = keyType) && other.revokedAt.isNone &&
        decide (other.publicKey = node.publicKey keyType)) = some record := by
    rw [List.find?_eq_some_iff_append]
    refine ⟨by simp [sameType, unrevoked, current], early, late, history, ?_⟩
    intro other member
    have mismatch := first other member
    rw [Bool.not_eq_true', ← Bool.not_eq_true]
    intro isLive
    apply mismatch
    simpa [and_assoc] using isLive
  unfold ControlPlane.currentKeyCreatedAt
  rw [found]
  rfl

theorem keysFresh_iff_ages {node : NodeState} {machine wireGuard : KeyRecord} {maxAge : Nat}
    {now : Int} (machineLive : FirstLive node .machine machine)
    (wireGuardLive : FirstLive node .wireGuard wireGuard) :
    KeysFresh node { maxAgeSeconds := some maxAge } now ↔
      saturatingSubI64 now machine.createdAt ≤ wrapI64 maxAge ∧
        saturatingSubI64 now wireGuard.createdAt ≤ wrapI64 maxAge := by
  constructor
  · intro fresh
    exact ⟨fresh maxAge rfl .machine _ machineLive.currentKeyCreatedAt,
      fresh maxAge rfl .wireGuard _ wireGuardLive.currentKeyCreatedAt⟩
  · rintro ⟨machineFresh, wireGuardFresh⟩ other given keyType createdAt current
    cases given
    cases keyType with
    | machine =>
        cases machineLive.currentKeyCreatedAt.symm.trans current
        exact machineFresh
    | wireGuard =>
        cases wireGuardLive.currentKeyCreatedAt.symm.trans current
        exact wireGuardFresh

/-- One age against the cast bound.  A bound from the upper half is negative, and ages stop at
the largest signed value, which no age exceeds. -/
theorem age_le_wrapI64_iff {maxAge : Nat} {now createdAt : Int} (bounded : maxAge < 2 ^ 64)
    (ordered : createdAt ≤ now) :
    saturatingSubI64 now createdAt ≤ wrapI64 maxAge ↔
      maxAge < 2 ^ 63 ∧ (now - createdAt ≤ maxAge ∨ maxAge = 2 ^ 63 - 1) := by
  rw [saturatingSubI64_of_le ordered]
  unfold maxI64
  by_cases small : (maxAge : Int) < 2 ^ 63
  · rw [wrapI64_of_lt (by omega) small]
    omega
  · rw [wrapI64_of_ge (by omega) (by omega)]
    omega

/-- Rotation is asked for exactly when the first live record of a key is too old. -/
def KeyAgeExact (node : NodeState) (maxAge : Nat) (now : Int) : Prop :=
  (effectiveNodeStatus node { maxAgeSeconds := some maxAge } now).2 = true ↔
    ∃ keyType record, FirstLive node keyType record ∧
      (maxAge : Int) < now - record.createdAt

/-- No node loses its approval when the bound is raised to `maxAge`. -/
def RaisingKeepsApproval (node : NodeState) (maxAge : Nat) (now : Int) : Prop :=
  ∀ lower : Nat, lower ≤ maxAge →
    (effectiveNodeStatus node { maxAgeSeconds := some lower } now).1 = true →
    (effectiveNodeStatus node { maxAgeSeconds := some maxAge } now).1 = true

section

variable {node : NodeState} {machine wireGuard : KeyRecord} {maxAge : Nat} {now : Int}

theorem exists_firstLive_older_iff (machineLive : FirstLive node .machine machine)
    (wireGuardLive : FirstLive node .wireGuard wireGuard) :
    (∃ keyType record, FirstLive node keyType record ∧
        (maxAge : Int) < now - record.createdAt) ↔
      maxAge < now - machine.createdAt ∨ maxAge < now - wireGuard.createdAt := by
  constructor
  · rintro ⟨keyType, record, live, older⟩
    have current := live.currentKeyCreatedAt
    cases keyType with
    | machine =>
        rw [machineLive.currentKeyCreatedAt, Option.some.injEq] at current
        exact Or.inl (current ▸ older)
    | wireGuard =>
        rw [wireGuardLive.currentKeyCreatedAt, Option.some.injEq] at current
        exact Or.inr (current ▸ older)
  · rintro (older | older)
    · exact ⟨.machine, machine, machineLive, older⟩
    · exact ⟨.wireGuard, wireGuard, wireGuardLive, older⟩

theorem keyAgeExact_iff (machineLive : FirstLive node .machine machine)
    (wireGuardLive : FirstLive node .wireGuard wireGuard) (bounded : maxAge < 2 ^ 64)
    (machineOrdered : machine.createdAt ≤ now) (wireGuardOrdered : wireGuard.createdAt ≤ now) :
    KeyAgeExact node maxAge now ↔
      (maxAge < 2 ^ 63 ∧ (maxAge = 2 ^ 63 - 1 →
        now - machine.createdAt < 2 ^ 63 ∧ now - wireGuard.createdAt < 2 ^ 63)) ∨
      (2 ^ 63 ≤ maxAge ∧
        (maxAge < now - machine.createdAt ∨ maxAge < now - wireGuard.createdAt)) := by
  have required : (effectiveNodeStatus node { maxAgeSeconds := some maxAge } now).2 = true ↔
      ¬ (saturatingSubI64 now machine.createdAt ≤ wrapI64 maxAge ∧
        saturatingSubI64 now wireGuard.createdAt ≤ wrapI64 maxAge) := by
    rw [← keysFresh_iff_ages machineLive wireGuardLive, ← keyRotationRequired_eq_false_iff]
    simp
  unfold KeyAgeExact
  rw [required, exists_firstLive_older_iff machineLive wireGuardLive,
    age_le_wrapI64_iff bounded machineOrdered, age_le_wrapI64_iff bounded wireGuardOrdered]
  omega

theorem raisingKeepsApproval_iff (machineLive : FirstLive node .machine machine)
    (wireGuardLive : FirstLive node .wireGuard wireGuard) (bounded : maxAge < 2 ^ 64)
    (machineOrdered : machine.createdAt ≤ now) (wireGuardOrdered : wireGuard.createdAt ≤ now) :
    RaisingKeepsApproval node maxAge now ↔
      maxAge < 2 ^ 63 ∨ ¬ (node.approved = true ∧ node.revokedAt = none) := by
  have status : ∀ bound : Nat, bound < 2 ^ 64 →
      ((effectiveNodeStatus node { maxAgeSeconds := some bound } now).1 = true ↔
        node.approved = true ∧ node.revokedAt = none ∧
          (bound < 2 ^ 63 ∧ (now - machine.createdAt ≤ bound ∨ bound = 2 ^ 63 - 1)) ∧
          (bound < 2 ^ 63 ∧ (now - wireGuard.createdAt ≤ bound ∨ bound = 2 ^ 63 - 1))) := by
    intro bound inRange
    rw [effectiveNodeStatus_iff, keysFresh_iff_ages machineLive wireGuardLive,
      age_le_wrapI64_iff inRange machineOrdered, age_le_wrapI64_iff inRange wireGuardOrdered]
  constructor
  · intro raising
    by_cases small : maxAge < 2 ^ 63
    · exact Or.inl small
    · -- The largest bound that is not cast to a negative one lets every key pass.
      refine Or.inr ?_
      rintro ⟨approved, unrevoked⟩
      have widest := (status (2 ^ 63 - 1) (by decide)).mpr
        ⟨approved, unrevoked, ⟨by decide, Or.inr rfl⟩, ⟨by decide, Or.inr rfl⟩⟩
      have raised := (status maxAge bounded).mp (raising (2 ^ 63 - 1) (by omega) widest)
      exact small raised.2.2.1.1
  · intro unaffected lower below isApproved
    obtain ⟨approved, unrevoked, machineFresh, wireGuardFresh⟩ :=
      (status lower (by omega)).mp isApproved
    rcases unaffected with small | notLive
    · exact (status maxAge bounded).mpr ⟨approved, unrevoked, by omega, by omega⟩
    · exact absurd ⟨approved, unrevoked⟩ notLive

/-- The age of keys is judged exactly, and raising the bound helps, exactly when the bound is
not cast to a negative number and no age stops at the largest signed value; with a negative
bound it takes a key that is too old anyway and a node that is not live anyway. -/
theorem keyAge_judged_iff (machineLive : FirstLive node .machine machine)
    (wireGuardLive : FirstLive node .wireGuard wireGuard) (bounded : maxAge < 2 ^ 64)
    (machineOrdered : machine.createdAt ≤ now) (wireGuardOrdered : wireGuard.createdAt ≤ now) :
    KeyAgeExact node maxAge now ∧ RaisingKeepsApproval node maxAge now ↔
      (maxAge < 2 ^ 63 ∧ (maxAge = 2 ^ 63 - 1 →
        now - machine.createdAt < 2 ^ 63 ∧ now - wireGuard.createdAt < 2 ^ 63)) ∨
      (2 ^ 63 ≤ maxAge ∧
        (maxAge < now - machine.createdAt ∨ maxAge < now - wireGuard.createdAt) ∧
        ¬ (node.approved = true ∧ node.revokedAt = none)) := by
  rw [keyAgeExact_iff machineLive wireGuardLive bounded machineOrdered wireGuardOrdered,
    raisingKeepsApproval_iff machineLive wireGuardLive bounded machineOrdered wireGuardOrdered]
  by_cases live : node.approved = true ∧ node.revokedAt = none
  · simp only [live, and_self, not_true, or_false, and_false]
    omega
  · simp only [live, not_false_iff, or_true, and_true]

end

def sampleKeyed (createdAt : Int) : NodeState :=
  registeredNode (sampleDraws createdAt "alpha") (sampleRegisterRequest "alpha" "alpha")
    "alpha"
    { id := "net", name := "home", overlayV4 := "10.0.0.0/24", overlayV6 := "fd00::/64",
      dnsDomain := "home.lightscale", requiresApproval := false, acl := {}, keyPolicy := {},
      createdAt := 0, nextIpv4 := 10, nextIpv6 := 10 }
    { token := "net", networkId := "net", expiresAt := 3600, usesLeft := 3, tags := [],
      ownerUserId := none, ownerEmail := none, ownerIsAdmin := true, revokedAt := none }
    "10.0.0.10" "fd00::a"

theorem sampleKeyed_machine (createdAt : Int) :
    FirstLive (sampleKeyed createdAt) .machine
      { keyType := .machine, publicKey := "alpha-machine", createdAt := createdAt,
        revokedAt := none } := by
  refine ⟨[], _, rfl, ⟨rfl, rfl, rfl⟩, ?_⟩
  intro other member
  cases member

theorem sampleKeyed_wireGuard (createdAt : Int) :
    FirstLive (sampleKeyed createdAt) .wireGuard
      { keyType := .wireGuard, publicKey := "alpha-wg", createdAt := createdAt,
        revokedAt := none } := by
  refine ⟨[_], [], rfl, ⟨rfl, rfl, rfl⟩, ?_⟩
  intro other member sameKey
  rw [List.mem_singleton.mp member] at sameKey
  cases sameKey.1

theorem keyAge_judged_hour :
    KeyAgeExact (sampleKeyed 100) 3600 5000 ∧ RaisingKeepsApproval (sampleKeyed 100) 3600 5000 :=
  (keyAge_judged_iff (sampleKeyed_machine 100) (sampleKeyed_wireGuard 100) (by decide)
    (by decide) (by decide)).mpr (Or.inl ⟨by decide, by decide⟩)

/-- Keys of age zero are called too old under the largest bound, and the node that is live
under a bound of one hour is not live any more. -/
theorem largest_bound_expires_keys :
    effectiveNodeStatus (sampleKeyed 100) { maxAgeSeconds := some (2 ^ 64 - 1) } 100 =
        (false, true) ∧
      effectiveNodeStatus (sampleKeyed 100) { maxAgeSeconds := some 3600 } 100 =
        (true, false) ∧
      ¬ KeyAgeExact (sampleKeyed 100) (2 ^ 64 - 1) 100 ∧
      ¬ RaisingKeepsApproval (sampleKeyed 100) (2 ^ 64 - 1) 100 := by
  have largest : effectiveNodeStatus (sampleKeyed 100)
      { maxAgeSeconds := some (2 ^ 64 - 1) } 100 = (false, true) := by decide +kernel
  have hour : effectiveNodeStatus (sampleKeyed 100) { maxAgeSeconds := some 3600 } 100 =
      (true, false) := by decide +kernel
  refine ⟨largest, hour, ?_, ?_⟩
  · intro judged
    have older := judged.mp (by rw [largest])
    rw [exists_firstLive_older_iff (sampleKeyed_machine 100) (sampleKeyed_wireGuard 100)]
      at older
    revert older
    decide
  · intro raising
    have raised := raising 3600 (by decide) (by rw [hour])
    rw [largest] at raised
    cases raised

end Lightscale.ControlPlane
