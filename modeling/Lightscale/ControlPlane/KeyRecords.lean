/-
The key history of a node as a record of the past.

Records are added at the end and never removed.  Marking a key as revoked writes the time
into every record of that key, so a record that was revoked before gets a new time when its
node is revoked again, or when its key is current once more and replaced once more.
-/

import Lightscale.ControlPlane.Approval
import Lightscale.ControlPlane.KeyHistory

namespace Lightscale.ControlPlane

open Foundation

/-! ### Extending a history -/

/-- The later record of a key: the same, but for a revocation that was not set. -/
def RecordKept (old new : KeyRecord) : Prop :=
  new.keyType = old.keyType ∧ new.publicKey = old.publicKey ∧ new.createdAt = old.createdAt ∧
    (old.revokedAt = none ∨ new.revokedAt = old.revokedAt)

instance decidableRecordKept (old new : KeyRecord) : Decidable (RecordKept old new) :=
  inferInstanceAs (Decidable (_ ∧ _ ∧ _ ∧ (_ ∨ _)))

def HistoryExtends : List KeyRecord → List KeyRecord → Prop
  | [], _ => True
  | _ :: _, [] => False
  | old :: olds, new :: news => RecordKept old new ∧ HistoryExtends olds news

instance decidableHistoryExtends :
    (old new : List KeyRecord) → Decidable (HistoryExtends old new)
  | [], _ => isTrue trivial
  | _ :: _, [] => isFalse id
  | old :: olds, new :: news =>
      have := decidableHistoryExtends olds news
      inferInstanceAs (Decidable (RecordKept old new ∧ HistoryExtends olds news))

theorem RecordKept.trans {first second third : KeyRecord} (left : RecordKept first second)
    (right : RecordKept second third) : RecordKept first third := by
  obtain ⟨leftType, leftKey, leftCreated, leftRevoked⟩ := left
  obtain ⟨rightType, rightKey, rightCreated, rightRevoked⟩ := right
  refine ⟨rightType.trans leftType, rightKey.trans leftKey, rightCreated.trans leftCreated, ?_⟩
  rcases leftRevoked with unset | same
  · exact Or.inl unset
  · rw [same] at rightRevoked
    exact rightRevoked

theorem HistoryExtends.append (history added : List KeyRecord) :
    HistoryExtends history (history ++ added) := by
  induction history with
  | nil => trivial
  | cons record rest ih => exact ⟨⟨rfl, rfl, rfl, Or.inr rfl⟩, ih⟩

theorem HistoryExtends.refl (history : List KeyRecord) : HistoryExtends history history := by
  simpa using HistoryExtends.append history []

theorem HistoryExtends.trans {first second third : List KeyRecord}
    (left : HistoryExtends first second) (right : HistoryExtends second third) :
    HistoryExtends first third := by
  induction first generalizing second third with
  | nil => trivial
  | cons record rest ih =>
      cases second with
      | nil => exact absurd left id
      | cons middle middles =>
          cases third with
          | nil => exact absurd right id
          | cons last lasts => exact ⟨left.1.trans right.1, ih left.2 right.2⟩

/-! ### Revoking the records of one key again -/

/-- Some record of the key is revoked with another time. -/
def Redates (history : List KeyRecord) (keyType : KeyType) (publicKey : String) (now : Int) :
    Prop :=
  ∃ record ∈ history, record.keyType = keyType ∧ record.publicKey = publicKey ∧
    ∃ time, record.revokedAt = some time ∧ time ≠ now

theorem recordKept_revoke_iff (record : KeyRecord) (keyType : KeyType) (publicKey : String)
    (now : Int) :
    RecordKept record
        (if record.keyType = keyType ∧ record.publicKey = publicKey then
          { record with revokedAt := some now } else record) ↔
      ¬ (record.keyType = keyType ∧ record.publicKey = publicKey ∧
        ∃ time, record.revokedAt = some time ∧ time ≠ now) := by
  unfold RecordKept
  by_cases isRevoked : record.keyType = keyType ∧ record.publicKey = publicKey
  · rw [if_pos isRevoked]
    cases earlier : record.revokedAt with
    | none => simp
    | some time => simp [isRevoked, eq_comm]
  · rw [if_neg isRevoked]
    simp only [true_and, or_true, true_iff]
    rintro ⟨sameType, sameKey, -⟩
    exact isRevoked ⟨sameType, sameKey⟩

theorem revokeKeyRecord_extends_iff (history : List KeyRecord) (keyType : KeyType)
    (publicKey : String) (now : Int) :
    HistoryExtends history (revokeKeyRecord history keyType publicKey now) ↔
      ¬ Redates history keyType publicKey now := by
  induction history with
  | nil => simp [HistoryExtends, Redates]
  | cons record rest ih =>
      change RecordKept record _ ∧
        HistoryExtends rest (revokeKeyRecord rest keyType publicKey now) ↔ _
      rw [recordKept_revoke_iff, ih]
      simp only [Redates, List.mem_cons, exists_eq_or_imp, not_or]

theorem redates_revokeKeyRecord_iff {keyType other : KeyType} (different : other ≠ keyType)
    (history : List KeyRecord) (publicKey otherKey : String) (now time : Int) :
    Redates (revokeKeyRecord history keyType publicKey now) other otherKey time ↔
      Redates history other otherKey time := by
  induction history with
  | nil => rfl
  | cons record rest ih =>
      unfold Redates revokeKeyRecord at ih ⊢
      rw [List.map_cons]
      simp only [List.mem_cons, exists_eq_or_imp]
      rw [ih]
      by_cases isRevoked : record.keyType = keyType ∧ record.publicKey = publicKey
      · simp [isRevoked, different.symm]
      · rw [if_neg isRevoked]

/-! ### One edit -/

theorem rotateKey_extends {keyType : KeyType} {newKey : Option String} {now : Int}
    {node rotated : NodeState} (ran : rotateKey keyType newKey now node = .ok rotated)
    (keeps : ∀ key, newKey = some key → node.publicKey keyType ≠ key →
      ¬ Redates node.keyHistory keyType (node.publicKey keyType) now) :
    HistoryExtends node.keyHistory rotated.keyHistory := by
  rcases rotateKey_ok ran with ⟨_, same⟩ | ⟨key, given, different, changed⟩
  · rw [same]
    exact .refl _
  · rw [changed]
    apply HistoryExtends.trans _ (HistoryExtends.append _ _)
    exact (revokeKeyRecord_extends_iff _ _ _ _).mpr (keeps key given different)

theorem redates_rotateKey_iff {keyType other : KeyType} (different : other ≠ keyType)
    {newKey : Option String} {now time : Int} {node rotated : NodeState} (publicKey : String)
    (ran : rotateKey keyType newKey now node = .ok rotated) :
    Redates rotated.keyHistory other publicKey time ↔
      Redates node.keyHistory other publicKey time := by
  rcases rotateKey_ok ran with ⟨_, same⟩ | ⟨key, _, _, changed⟩
  · rw [same]
  · rw [changed]
    rw [← redates_revokeKeyRecord_iff different node.keyHistory (node.publicKey keyType)
      publicKey now time]
    simp [Redates, or_and_right, exists_or]

theorem revoke_extends {node : NodeState} {now : Int}
    (keeps : ∀ keyType, ¬ Redates node.keyHistory keyType (node.publicKey keyType) now) :
    HistoryExtends node.keyHistory (node.revoke now).keyHistory := by
  have machine : HistoryExtends node.keyHistory
      (revokeKeyRecord node.keyHistory .machine node.machinePublicKey now) :=
    (revokeKeyRecord_extends_iff _ _ _ _).mpr (keeps .machine)
  apply machine.trans
  apply (revokeKeyRecord_extends_iff _ _ _ _).mpr
  rw [redates_revokeKeyRecord_iff (by decide)]
  exact keeps .wireGuard

/-- The request withdraws the current key of the node: it passes the checks of its handler up to
the call of `revoke_key_record`, and what it leaves is kept.  The two keys of a rotation are
checked one after the other, and the file keeps the first when the second is refused. -/
inductive Withdraws (config : Config) (call : Call) (key : String) (node : NodeState) :
    KeyType → Prop where
  | revoked (asked : call.request = .revokeNode key)
      (admin : requireAdmin call.headers config.adminToken = .ok ())
      (isKept : config.backend = .file ∨ call.draws.stored = true) (keyType : KeyType) :
      Withdraws config call key node keyType
  | machine (request : KeyRotationRequest) (newKey : String)
      (asked : call.request = .rotateKeys key request)
      (allowed : requireNode call.headers config.adminToken node = .ok ())
      (given : request.machinePublicKey = some newKey)
      (changed : node.machinePublicKey ≠ newKey)
      (isKept : config.backend = .file ∨
        (call.draws.stored = true ∧ request.wgPublicKey ≠ some node.wgPublicKey)) :
      Withdraws config call key node .machine
  | wireGuard (request : KeyRotationRequest) (newKey : String)
      (asked : call.request = .rotateKeys key request)
      (allowed : requireNode call.headers config.adminToken node = .ok ())
      (given : request.wgPublicKey = some newKey)
      (changed : node.wgPublicKey ≠ newKey)
      (machineChanged : request.machinePublicKey ≠ some node.machinePublicKey)
      (isKept : config.backend = .file ∨ call.draws.stored = true) :
      Withdraws config call key node .wireGuard

/-- The request to the node dates no earlier revocation of a key it withdraws anew. -/
def KeepsRevocations (config : Config) (key : String) (before : State) (call : Call) : Prop :=
  ∀ node, before.nodes.lookup key = some node →
    ∀ keyType, Withdraws config call key node keyType →
      ¬ Redates node.keyHistory keyType (node.publicKey keyType) call.draws.now

theorem NodeEdit.historyExtends {config : Config} {call : Call} {before : State} {key : String}
    {node new : NodeState} (edit : NodeEdit config call before key node new)
    (nodeAt : before.nodes.lookup key = some node)
    (keeps : KeepsRevocations config key before call) :
    HistoryExtends node.keyHistory new.keyHistory := by
  have keeps := keeps node nodeAt
  cases edit with
  | approvedBySecret secret asked pending carried live => exact .refl _
  | approvedByAdmin asked admin pending isApplied => exact .refl _
  | updated request nextName asked admin named => exact .refl _
  | heartbeat request asked named allowed probeRequestedAt => exact .refl _
  | revoked asked admin isKept =>
      exact revoke_extends fun keyType => keeps keyType (.revoked asked admin isKept keyType)
  | rotatedPartly request machineRotated error asked allowed machine wireGuard notApplied
      onFile =>
      refine rotateKey_extends machine fun newKey given changed => ?_
      exact keeps .machine (.machine request newKey asked allowed given changed (Or.inl onFile))
  | rotated request machineRotated bothRotated asked allowed provided machine wireGuard
      isApplied =>
      have isKept := Backend.kept_of_applied isApplied
      have otherKey : machineRotated.publicKey .wireGuard = node.wgPublicKey :=
        rotateKey_publicKey_other machine (by decide)
      have wgChanged : request.wgPublicKey ≠ some node.wgPublicKey := by
        rw [← otherKey]
        exact rotateKey_newKey_ne wireGuard
      have first : HistoryExtends node.keyHistory machineRotated.keyHistory := by
        refine rotateKey_extends machine fun newKey given changed => ?_
        exact keeps .machine (.machine request newKey asked allowed given changed
          (isKept.imp_right fun stored => ⟨stored, wgChanged⟩))
      have second : HistoryExtends machineRotated.keyHistory bothRotated.keyHistory := by
        refine rotateKey_extends wireGuard fun newKey given changed => ?_
        rw [otherKey] at changed
        rw [redates_rotateKey_iff (by decide) _ machine, otherKey]
        exact keeps .wireGuard (.wireGuard request newKey asked allowed given changed
          (rotateKey_newKey_ne machine) isKept)
      exact first.trans second

/-! ### Every run -/

/-- From a node's state on, as long as no registration draws its id again and no request to
it dates a revocation anew, its key history is only extended, and a revocation keeps its
time. -/
theorem key_history_append_only (config : Config) (early late : List Call) (key : String)
    (old new : NodeState) (oldAt : (run config early).nodes.lookup key = some old)
    (newAt : (run config (early ++ late)).nodes.lookup key = some new)
    (notAgain : ∀ event ∈ trace (step config) (run config early) late,
      ∀ made, ¬ Creates config key event made)
    (keeps : ∀ event ∈ trace (step config) (run config early) late,
      KeepsRevocations config key event.before event.input) :
    HistoryExtends old.keyHistory new.keyHistory := by
  have extended : ∀ node, (run config (early ++ late)).nodes.lookup key = some node →
      HistoryExtends old.keyHistory node.keyHistory := by
    unfold run
    rw [exec_append]
    refine exec_invariant_when (step config)
      (fun state call => KeepsRevocations config key state call ∧
        ∀ made, createdNode config state call = some made → made.id ≠ key)
      (fun state => ∀ node, state.nodes.lookup key = some node →
        HistoryExtends old.keyHistory node.keyHistory) ?_ _ ?_ late ?_
    · intro state call met held node nodeAt
      cases (step_transition config state call).nodeChange key with
      | kept same => exact held node (same.symm.trans nodeAt)
      | registered made networkId network ipv4 ipv6 tokens isMade isKey networkAt registration
          madeAt =>
          exact absurd isKey (met.2 made isMade)
      | edited before after beforeAt edit afterAt notMade =>
          cases afterAt.symm.trans nodeAt
          exact (held before beforeAt).trans (edit.historyExtends beforeAt met.1)
      | deleted asked admin gone => cases gone.symm.trans nodeAt
    · intro node nodeAt
      cases oldAt.symm.trans nodeAt
      exact .refl _
    · intro event member
      refine ⟨keeps event member, ?_⟩
      intro made isMade isKey
      exact notAgain event member made ⟨isMade, isKey⟩
  exact extended new newAt

def sampleKeyCalls : List Call :=
  [createSample 0, registerSample 1 "a" "alpha"]

def sampleRevocation (now : Int) : Call :=
  adminCall now "x" (.revokeNode "a")

def sampleHistory (calls : List Call) : Option (List KeyRecord) :=
  ((run sampleConfig calls).nodes.lookup "a").map NodeState.keyHistory

/-- A first revocation extends the history. -/
theorem sample_key_history_append_only :
    ∃ old new, (run sampleConfig sampleKeyCalls).nodes.lookup "a" = some old ∧
      (run sampleConfig (sampleKeyCalls ++ [sampleRevocation 3])).nodes.lookup "a" =
        some new ∧
      HistoryExtends old.keyHistory new.keyHistory ∧ old.keyHistory ≠ new.keyHistory := by
  have before : sampleHistory sampleKeyCalls = some
      [⟨.machine, "a-machine", 1, none⟩, ⟨.wireGuard, "a-wg", 1, none⟩] := by
    decide +kernel
  have after : sampleHistory (sampleKeyCalls ++ [sampleRevocation 3]) = some
      [⟨.machine, "a-machine", 1, some 3⟩, ⟨.wireGuard, "a-wg", 1, some 3⟩] := by
    decide +kernel
  obtain ⟨old, oldAt, oldHistory⟩ := Option.map_eq_some_iff.mp before
  obtain ⟨new, newAt, newHistory⟩ := Option.map_eq_some_iff.mp after
  refine ⟨old, new, oldAt, newAt, ?_, ?_⟩
  · apply key_history_append_only sampleConfig sampleKeyCalls [sampleRevocation 3] "a" old new
      oldAt newAt
    · intro event member made creates
      rw [List.mem_singleton.mp member] at creates
      cases creates.1
    · intro event member node nodeAt
      rw [List.mem_singleton.mp member] at nodeAt ⊢
      cases oldAt.symm.trans nodeAt
      intro keyType _ redated
      rw [oldHistory] at redated
      obtain ⟨record, stored, -, -, time, isRevoked, -⟩ := redated
      rcases List.mem_pair.mp stored with isMachine | isWireGuard
      · rw [isMachine] at isRevoked
        cases isRevoked
      · rw [isWireGuard] at isRevoked
        cases isRevoked
  · rw [oldHistory, newHistory]
    decide

/-- A second revocation replaces the times of the first, of which the audit log still
tells. -/
theorem second_revocation_redates :
    sampleHistory (sampleKeyCalls ++ [sampleRevocation 3]) = some
        [⟨.machine, "a-machine", 1, some 3⟩, ⟨.wireGuard, "a-wg", 1, some 3⟩] ∧
      sampleHistory (sampleKeyCalls ++ [sampleRevocation 3, sampleRevocation 9]) = some
        [⟨.machine, "a-machine", 1, some 9⟩, ⟨.wireGuard, "a-wg", 1, some 9⟩] ∧
      ¬ HistoryExtends
        [⟨.machine, "a-machine", 1, some 3⟩, ⟨.wireGuard, "a-wg", 1, some 3⟩]
        [⟨.machine, "a-machine", 1, some 9⟩, ⟨.wireGuard, "a-wg", 1, some 9⟩] ∧
      ((run sampleConfig (sampleKeyCalls ++ [sampleRevocation 3, sampleRevocation 9])).auditLog.map
        AuditEntry.detail).drop 2 =
        [some [("revoked_at", .number 3)], some [("revoked_at", .number 9)]] := by
  refine ⟨by decide +kernel, by decide +kernel, by decide, by decide +kernel⟩

end Lightscale.ControlPlane
