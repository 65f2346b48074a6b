/-
The codec of the state file.

The server writes its state with a JSON library.  All it relies on is that a state whose numbers
fit their types is read back, with the entries of its maps in some order, and that a file which
was cut short is not read at all.

There are such codecs: the one here writes a JSON document in UTF-8, with the field names and
defaults of the stored records.  The document ends with the brace that closes it, so no strict
beginning of it is a document.
-/

import Mathlib.Data.String.Basic
import Lightscale.Foundation.Documents
import Lightscale.ControlPlane.MapOrder
import Lightscale.ControlPlane.Ranges

namespace Lightscale.Storage

open Foundation ControlPlane

open Format (string bool unsigned signed unitEnum structJson structValues required defaulted)

/-- The library functions between a state and the bytes of its file. -/
structure Codec where
  toBytes : State → List UInt8
  utf8 : List UInt8 → Option String
  parse : String → Option State

def Codec.read (codec : Codec) (bytes : List UInt8) : Option State :=
  (codec.utf8 bytes).bind codec.parse

/-- A state that fits its types is read back up to the order of its maps, and no strict
beginning of its bytes is read. -/
structure Codec.Faithful (codec : Codec) : Prop where
  readsBack : ∀ state : State, state.InRange →
    ∃ loaded, codec.read (codec.toBytes state) = some loaded ∧ SameState loaded state
  noPrefix : ∀ state : State, state.InRange → ∀ written rest,
    codec.toBytes state = written ++ rest → rest ≠ [] → codec.read written = none

/-- There are two different states, so at most one of them could be the empty file. -/
theorem Codec.Faithful.toBytes_ne_nil {codec : Codec} (faithful : codec.Faithful)
    {state : State} (inRange : state.InRange) : codec.toBytes state ≠ [] := by
  intro empty
  obtain ⟨loaded, read, same⟩ := faithful.readsBack state inRange
  rw [empty] at read
  obtain ⟨other, otherInRange, differs⟩ :
      ∃ other : State, other.InRange ∧ other.revision ≠ state.revision := by
    by_cases first : state.revision = 0
    · refine ⟨State.default.bump, State.default_inRange.bump, ?_⟩
      rw [first]
      decide
    · exact ⟨State.default, State.default_inRange, fun zero => first zero.symm⟩
  by_cases otherEmpty : codec.toBytes other = []
  · obtain ⟨others, otherRead, otherSame⟩ := faithful.readsBack other otherInRange
    rw [otherEmpty, read, Option.some.injEq] at otherRead
    subst otherRead
    exact differs (otherSame.revision.symm.trans same.revision)
  · have unread := faithful.noPrefix other otherInRange [] (codec.toBytes other) rfl otherEmpty
    rw [read] at unread
    cases unread

/-! ### Formats of the records -/

def i64 : Format Int := signed 63

def routeKindFormat : Format RouteKind :=
  unitEnum [("subnet", .subnet), ("exit", .exit)] fun
    | .subnet => "subnet"
    | .exit => "exit"

def routeFields : List String := ["prefix", "kind", "enabled", "mapped_prefix"]

def routeFormat : Format Route where
  toJson route := structJson routeFields
    [string.toJson route.pref, routeKindFormat.toJson route.kind, bool.toJson route.enabled,
      string.option.toJson route.mappedPref]
  fromJson json :=
    match structValues routeFields json with
    | some [pref, kind, enabled, mappedPref] => do
        return {
          pref := ← required string pref
          kind := ← required routeKindFormat kind
          enabled := ← required bool enabled
          mappedPref := ← defaulted string.option none mappedPref }
    | _ => none

def aclActionFormat : Format AclAction :=
  unitEnum [("allow", .allow), ("deny", .deny)] fun
    | .allow => "allow"
    | .deny => "deny"

def aclSelectorFields : List String := ["any", "tags", "node_ids", "names"]

def aclSelectorFormat : Format AclSelector where
  toJson selector := structJson aclSelectorFields
    [bool.toJson selector.any, string.list.toJson selector.tags,
      string.list.toJson selector.nodeIds, string.list.toJson selector.names]
  fromJson json :=
    match structValues aclSelectorFields json with
    | some [any, tags, nodeIds, names] => do
        return {
          any := ← defaulted bool false any
          tags := ← defaulted string.list [] tags
          nodeIds := ← defaulted string.list [] nodeIds
          names := ← defaulted string.list [] names }
    | _ => none

def aclRuleFields : List String := ["action", "src", "dst"]

def aclRuleFormat : Format AclRule where
  toJson rule := structJson aclRuleFields
    [aclActionFormat.toJson rule.action, aclSelectorFormat.toJson rule.src,
      aclSelectorFormat.toJson rule.dst]
  fromJson json :=
    match structValues aclRuleFields json with
    | some [action, src, dst] => do
        return {
          action := ← required aclActionFormat action
          src := ← defaulted aclSelectorFormat {} src
          dst := ← defaulted aclSelectorFormat {} dst }
    | _ => none

def aclPolicyFields : List String := ["default_action", "rules"]

def aclPolicyFormat : Format AclPolicy where
  toJson policy := structJson aclPolicyFields
    [aclActionFormat.toJson policy.defaultAction, aclRuleFormat.list.toJson policy.rules]
  fromJson json :=
    match structValues aclPolicyFields json with
    | some [defaultAction, rules] => do
        return {
          defaultAction := ← defaulted aclActionFormat .allow defaultAction
          rules := ← defaulted aclRuleFormat.list [] rules }
    | _ => none

def keyPolicyFields : List String := ["max_age_seconds"]

def keyPolicyFormat : Format KeyRotationPolicy where
  toJson policy := structJson keyPolicyFields [(unsigned 64).option.toJson policy.maxAgeSeconds]
  fromJson json :=
    match structValues keyPolicyFields json with
    | some [maxAgeSeconds] => do
        return { maxAgeSeconds := ← defaulted (unsigned 64).option none maxAgeSeconds }
    | _ => none

def keyTypeFormat : Format KeyType :=
  unitEnum [("machine", .machine), ("wire_guard", .wireGuard)] fun
    | .machine => "machine"
    | .wireGuard => "wire_guard"

def keyRecordFields : List String := ["key_type", "public_key", "created_at", "revoked_at"]

def keyRecordFormat : Format KeyRecord where
  toJson record := structJson keyRecordFields
    [keyTypeFormat.toJson record.keyType, string.toJson record.publicKey,
      i64.toJson record.createdAt, i64.option.toJson record.revokedAt]
  fromJson json :=
    match structValues keyRecordFields json with
    | some [keyType, publicKey, createdAt, revokedAt] => do
        return {
          keyType := ← required keyTypeFormat keyType
          publicKey := ← required string publicKey
          createdAt := ← required i64 createdAt
          revokedAt := ← defaulted i64.option none revokedAt }
    | _ => none

def networkFields : List String :=
  ["id", "name", "overlay_v4", "overlay_v6", "dns_domain", "requires_approval", "acl",
    "key_policy", "created_at", "next_ipv4", "next_ipv6"]

def networkFormat : Format NetworkState where
  toJson network := structJson networkFields
    [string.toJson network.id, string.toJson network.name, string.toJson network.overlayV4,
      string.toJson network.overlayV6, string.toJson network.dnsDomain,
      bool.toJson network.requiresApproval, aclPolicyFormat.toJson network.acl,
      keyPolicyFormat.toJson network.keyPolicy, i64.toJson network.createdAt,
      (unsigned 32).toJson network.nextIpv4, (unsigned 128).toJson network.nextIpv6]
  fromJson json :=
    match structValues networkFields json with
    | some [id, name, overlayV4, overlayV6, dnsDomain, requiresApproval, acl, keyPolicy,
        createdAt, nextIpv4, nextIpv6] => do
        return {
          id := ← required string id
          name := ← required string name
          overlayV4 := ← required string overlayV4
          overlayV6 := ← required string overlayV6
          dnsDomain := ← required string dnsDomain
          requiresApproval := ← defaulted bool false requiresApproval
          acl := ← defaulted aclPolicyFormat {} acl
          keyPolicy := ← defaulted keyPolicyFormat {} keyPolicy
          createdAt := ← required i64 createdAt
          nextIpv4 := ← required (unsigned 32) nextIpv4
          nextIpv6 := ← required (unsigned 128) nextIpv6 }
    | _ => none

def nodeFields : List String :=
  ["id", "network_id", "name", "machine_public_key", "wg_public_key", "ipv4", "ipv6",
    "endpoints", "tags", "owner_user_id", "owner_email", "owner_is_admin", "routes",
    "created_at", "last_seen", "probe_requested_at", "approved", "approved_at", "auth_secret",
    "auth_expires_at", "node_token", "revoked_at", "key_history"]

def nodeFormat : Format NodeState where
  toJson node := structJson nodeFields
    [string.toJson node.id, string.toJson node.networkId, string.toJson node.name,
      string.toJson node.machinePublicKey, string.toJson node.wgPublicKey,
      string.toJson node.ipv4, string.toJson node.ipv6, string.list.toJson node.endpoints,
      string.list.toJson node.tags, string.option.toJson node.ownerUserId,
      string.option.toJson node.ownerEmail, bool.toJson node.ownerIsAdmin,
      routeFormat.list.toJson node.routes, i64.toJson node.createdAt, i64.toJson node.lastSeen,
      i64.option.toJson node.probeRequestedAt, bool.toJson node.approved,
      i64.option.toJson node.approvedAt, string.option.toJson node.authSecret,
      i64.option.toJson node.authExpiresAt, string.option.toJson node.nodeToken,
      i64.option.toJson node.revokedAt, keyRecordFormat.list.toJson node.keyHistory]
  fromJson json :=
    match structValues nodeFields json with
    | some [id, networkId, name, machinePublicKey, wgPublicKey, ipv4, ipv6, endpoints, tags,
        ownerUserId, ownerEmail, ownerIsAdmin, routes, createdAt, lastSeen, probeRequestedAt,
        approved, approvedAt, authSecret, authExpiresAt, nodeToken, revokedAt,
        keyHistory] => do
        return {
          id := ← required string id
          networkId := ← required string networkId
          name := ← required string name
          machinePublicKey := ← required string machinePublicKey
          wgPublicKey := ← required string wgPublicKey
          ipv4 := ← required string ipv4
          ipv6 := ← required string ipv6
          endpoints := ← required string.list endpoints
          tags := ← required string.list tags
          ownerUserId := ← defaulted string.option none ownerUserId
          ownerEmail := ← defaulted string.option none ownerEmail
          ownerIsAdmin := ← defaulted bool false ownerIsAdmin
          routes := ← required routeFormat.list routes
          createdAt := ← defaulted i64 0 createdAt
          lastSeen := ← required i64 lastSeen
          probeRequestedAt := ← defaulted i64.option none probeRequestedAt
          approved := ← defaulted bool true approved
          approvedAt := ← defaulted i64.option none approvedAt
          authSecret := ← defaulted string.option none authSecret
          authExpiresAt := ← defaulted i64.option none authExpiresAt
          nodeToken := ← defaulted string.option none nodeToken
          revokedAt := ← defaulted i64.option none revokedAt
          keyHistory := ← defaulted keyRecordFormat.list [] keyHistory }
    | _ => none

def tokenFields : List String :=
  ["token", "network_id", "expires_at", "uses_left", "tags", "owner_user_id", "owner_email",
    "owner_is_admin", "revoked_at"]

def tokenFormat : Format TokenState where
  toJson token := structJson tokenFields
    [string.toJson token.token, string.toJson token.networkId, i64.toJson token.expiresAt,
      (unsigned 32).toJson token.usesLeft, string.list.toJson token.tags,
      string.option.toJson token.ownerUserId, string.option.toJson token.ownerEmail,
      bool.toJson token.ownerIsAdmin, i64.option.toJson token.revokedAt]
  fromJson json :=
    match structValues tokenFields json with
    | some [token, networkId, expiresAt, usesLeft, tags, ownerUserId, ownerEmail,
        ownerIsAdmin, revokedAt] => do
        return {
          token := ← required string token
          networkId := ← required string networkId
          expiresAt := ← required i64 expiresAt
          usesLeft := ← required (unsigned 32) usesLeft
          tags := ← required string.list tags
          ownerUserId := ← defaulted string.option none ownerUserId
          ownerEmail := ← defaulted string.option none ownerEmail
          ownerIsAdmin := ← defaulted bool false ownerIsAdmin
          revokedAt := ← defaulted i64.option none revokedAt }
    | _ => none

/-- The values that the server itself puts into a detail. -/
def detailValueFormat : Format DetailValue where
  toJson
    | .null => .null
    | .bool value => .bool value
    | .number value => .integer value
    | .text value => .text value
    | .texts values => string.list.toJson values
  fromJson
    | .null => some .null
    | .bool value => some (.bool value)
    | .integer value =>
        if minI64 ≤ value ∧ value < 2 ^ 64 then some (.number value) else none
    | .text value => some (.text value)
    | .array items => (string.list.fromJson (.array items)).map .texts
    | _ => none

/-- The library keeps the members of an object sorted by their keys. -/
def sortedByKey {Item : Type} (pairs : List (String × Item)) : List (String × Item) :=
  pairs.mergeSort fun left right => decide (left.1 ≤ right.1)

def detailFormat : Format (List (String × DetailValue)) where
  toJson pairs :=
    .object ((sortedByKey pairs).map fun pair => (pair.1, detailValueFormat.toJson pair.2))
  fromJson json :=
    (detailValueFormat.map.fromJson json).map fun table =>
      sortedByKey (table.entries.map fun entry => (entry.1, entry.2))

def auditEntryFields : List String :=
  ["id", "timestamp", "network_id", "node_id", "action", "detail"]

def auditEntryFormat : Format AuditEntry where
  toJson entry := structJson auditEntryFields
    [string.toJson entry.id, i64.toJson entry.timestamp, string.option.toJson entry.networkId,
      string.option.toJson entry.nodeId, string.toJson entry.action,
      detailFormat.option.toJson entry.detail]
  fromJson json :=
    match structValues auditEntryFields json with
    | some [id, timestamp, networkId, nodeId, action, detail] => do
        return {
          id := ← required string id
          timestamp := ← required i64 timestamp
          networkId := ← defaulted string.option none networkId
          nodeId := ← defaulted string.option none nodeId
          action := ← required string action
          detail := ← defaulted detailFormat.option none detail }
    | _ => none

def stateFields : List String :=
  ["version", "revision", "networks", "nodes", "tokens", "audit_log"]

def stateFormat : Format State where
  toJson state := structJson stateFields
    [(unsigned 32).toJson state.version, (unsigned 64).toJson state.revision,
      networkFormat.map.toJson state.networks, nodeFormat.map.toJson state.nodes,
      tokenFormat.map.toJson state.tokens, auditEntryFormat.list.toJson state.auditLog]
  fromJson json :=
    match structValues stateFields json with
    | some [version, revision, networks, nodes, tokens, auditLog] => do
        return {
          version := ← required (unsigned 32) version
          revision := ← defaulted (unsigned 64) 0 revision
          networks := ← required networkFormat.map networks
          nodes := ← required nodeFormat.map nodes
          tokens := ← required tokenFormat.map tokens
          auditLog := ← defaulted auditEntryFormat.list [] auditLog }
    | _ => none

/-! ### Records are read back -/

theorem i64_keeps {value : Int} (inRange : InI64 value) : i64.Keeps value := by
  obtain ⟨low, high⟩ := inRange
  unfold minI64 at low
  unfold maxI64 at high
  exact Format.signed_keeps low (by omega)

theorem optionI64_keeps {value : Option Int} (inRange : ∀ time ∈ value, InI64 time) :
    i64.option.Keeps value :=
  Format.option_keeps (Format.signed_neverNull 63) fun time present =>
    i64_keeps (inRange time present)

theorem optionString_keeps (value : Option String) : string.option.Keeps value :=
  Format.option_keeps Format.string_neverNull fun present _ => Format.string_keeps present

theorem routeKindFormat_keeps (kind : RouteKind) : routeKindFormat.Keeps kind :=
  Format.unitEnum_keeps (by cases kind <;> rfl)

theorem routeFormat_keeps (route : Route) : routeFormat.Keeps route where
  whole := Format.whole_structJson (by
    simp [Json.areWhole, (Format.string_keeps _).whole, (Format.bool_keeps _).whole,
      (routeKindFormat_keeps _).whole, (optionString_keeps _).whole])
  read := by
    simp only [routeFormat]
    rw [Format.structValues_structJson (by decide) rfl]
    simp [Format.required_keeps (Format.string_keeps _),
      Format.required_keeps (Format.bool_keeps _),
      Format.required_keeps (routeKindFormat_keeps _),
      Format.defaulted_keeps (optionString_keeps _)]

theorem aclActionFormat_keeps (action : AclAction) : aclActionFormat.Keeps action :=
  Format.unitEnum_keeps (by cases action <;> rfl)

theorem aclSelectorFormat_keeps (selector : AclSelector) : aclSelectorFormat.Keeps selector where
  whole := Format.whole_structJson (by
    simp [Json.areWhole, (Format.bool_keeps _).whole, (Format.strings_keeps _).whole])
  read := by
    simp only [aclSelectorFormat]
    rw [Format.structValues_structJson (by decide) rfl]
    simp [Format.defaulted_keeps (Format.bool_keeps _),
      Format.defaulted_keeps (Format.strings_keeps _)]

theorem aclRuleFormat_keeps (rule : AclRule) : aclRuleFormat.Keeps rule where
  whole := Format.whole_structJson (by
    simp [Json.areWhole, (aclActionFormat_keeps _).whole, (aclSelectorFormat_keeps _).whole])
  read := by
    simp only [aclRuleFormat]
    rw [Format.structValues_structJson (by decide) rfl]
    simp [Format.required_keeps (aclActionFormat_keeps _),
      Format.defaulted_keeps (aclSelectorFormat_keeps _)]

theorem aclPolicyFormat_keeps (policy : AclPolicy) : aclPolicyFormat.Keeps policy := by
  have rules : aclRuleFormat.list.Keeps policy.rules :=
    Format.list_keeps fun rule _ => aclRuleFormat_keeps rule
  refine ⟨Format.whole_structJson ?_, ?_⟩
  · simp [Json.areWhole, (aclActionFormat_keeps _).whole, rules.whole]
  · simp only [aclPolicyFormat]
    rw [Format.structValues_structJson (by decide) rfl]
    simp [Format.defaulted_keeps (aclActionFormat_keeps _), Format.defaulted_keeps rules]

theorem keyPolicyFormat_keeps {policy : KeyRotationPolicy}
    (inRange : policy.InRange) : keyPolicyFormat.Keeps policy := by
  have seconds : (unsigned 64).option.Keeps policy.maxAgeSeconds :=
    Format.option_keeps (Format.unsigned_neverNull 64) fun value present =>
      Format.unsigned_keeps (inRange value present)
  refine ⟨Format.whole_structJson ?_, ?_⟩
  · simp [Json.areWhole, seconds.whole]
  · simp only [keyPolicyFormat]
    rw [Format.structValues_structJson (by decide) rfl]
    simp [Format.defaulted_keeps seconds]

theorem keyTypeFormat_keeps (keyType : KeyType) : keyTypeFormat.Keeps keyType :=
  Format.unitEnum_keeps (by cases keyType <;> rfl)

theorem keyRecordFormat_keeps {record : KeyRecord} (inRange : record.InRange) :
    keyRecordFormat.Keeps record := by
  have createdAt := i64_keeps inRange.createdAt
  have revokedAt := optionI64_keeps inRange.revokedAt
  refine ⟨Format.whole_structJson ?_, ?_⟩
  · simp [Json.areWhole, (keyTypeFormat_keeps _).whole, (Format.string_keeps _).whole,
      createdAt.whole, revokedAt.whole]
  · simp only [keyRecordFormat]
    rw [Format.structValues_structJson (by decide) rfl]
    simp [Format.required_keeps (keyTypeFormat_keeps _),
      Format.required_keeps (Format.string_keeps _), Format.required_keeps createdAt,
      Format.defaulted_keeps revokedAt]

theorem networkFormat_keeps {network : NetworkState} (inRange : network.InRange) :
    networkFormat.Keeps network := by
  have keyPolicy := keyPolicyFormat_keeps inRange.keyPolicy
  have createdAt := i64_keeps inRange.createdAt
  have nextIpv4 := Format.unsigned_keeps inRange.nextIpv4
  have nextIpv6 := Format.unsigned_keeps inRange.nextIpv6
  refine ⟨Format.whole_structJson ?_, ?_⟩
  · simp [Json.areWhole, (Format.string_keeps _).whole, (Format.bool_keeps _).whole,
      (aclPolicyFormat_keeps _).whole, keyPolicy.whole, createdAt.whole, nextIpv4.whole,
      nextIpv6.whole]
  · simp only [networkFormat]
    rw [Format.structValues_structJson (by decide) rfl]
    simp [Format.required_keeps (Format.string_keeps _),
      Format.defaulted_keeps (Format.bool_keeps _),
      Format.defaulted_keeps (aclPolicyFormat_keeps _), Format.defaulted_keeps keyPolicy,
      Format.required_keeps createdAt, Format.required_keeps nextIpv4,
      Format.required_keeps nextIpv6]

theorem nodeFormat_keeps {node : NodeState} (inRange : node.InRange) :
    nodeFormat.Keeps node := by
  have routes : routeFormat.list.Keeps node.routes :=
    Format.list_keeps fun route _ => routeFormat_keeps route
  have createdAt := i64_keeps inRange.createdAt
  have lastSeen := i64_keeps inRange.lastSeen
  have probeRequestedAt := optionI64_keeps inRange.probeRequestedAt
  have approvedAt := optionI64_keeps inRange.approvedAt
  have authExpiresAt := optionI64_keeps inRange.authExpiresAt
  have revokedAt := optionI64_keeps inRange.revokedAt
  have keyHistory : keyRecordFormat.list.Keeps node.keyHistory :=
    Format.list_keeps fun record member => keyRecordFormat_keeps (inRange.keyHistory record member)
  refine ⟨Format.whole_structJson ?_, ?_⟩
  · simp [Json.areWhole, (Format.string_keeps _).whole, (Format.strings_keeps _).whole,
      (optionString_keeps _).whole, (Format.bool_keeps _).whole, routes.whole, createdAt.whole,
      lastSeen.whole, probeRequestedAt.whole, approvedAt.whole, authExpiresAt.whole,
      revokedAt.whole, keyHistory.whole]
  · simp only [nodeFormat]
    rw [Format.structValues_structJson (by decide) rfl]
    simp [Format.required_keeps (Format.string_keeps _),
      Format.required_keeps (Format.strings_keeps _),
      Format.defaulted_keeps (optionString_keeps _),
      Format.defaulted_keeps (Format.bool_keeps _), Format.required_keeps routes,
      Format.defaulted_keeps createdAt, Format.required_keeps lastSeen,
      Format.defaulted_keeps probeRequestedAt, Format.defaulted_keeps approvedAt,
      Format.defaulted_keeps authExpiresAt, Format.defaulted_keeps revokedAt,
      Format.defaulted_keeps keyHistory]

theorem tokenFormat_keeps {token : TokenState} (inRange : token.InRange) :
    tokenFormat.Keeps token := by
  have expiresAt := i64_keeps inRange.expiresAt
  have usesLeft := Format.unsigned_keeps inRange.usesLeft
  have revokedAt := optionI64_keeps inRange.revokedAt
  refine ⟨Format.whole_structJson ?_, ?_⟩
  · simp [Json.areWhole, (Format.string_keeps _).whole, (Format.strings_keeps _).whole,
      (optionString_keeps _).whole, (Format.bool_keeps _).whole, expiresAt.whole,
      usesLeft.whole, revokedAt.whole]
  · simp only [tokenFormat]
    rw [Format.structValues_structJson (by decide) rfl]
    simp [Format.required_keeps (Format.string_keeps _),
      Format.required_keeps (Format.strings_keeps _),
      Format.defaulted_keeps (optionString_keeps _),
      Format.defaulted_keeps (Format.bool_keeps _), Format.required_keeps expiresAt,
      Format.required_keeps usesLeft, Format.defaulted_keeps revokedAt]

/-! ### Details, audit entries and the state -/

theorem detailValueFormat_keeps {value : DetailValue} (inRange : value.InRange) :
    detailValueFormat.Keeps value := by
  cases value with
  | null => exact ⟨rfl, rfl⟩
  | bool value => exact ⟨rfl, rfl⟩
  | number value => exact ⟨rfl, if_pos inRange⟩
  | text value => exact ⟨rfl, rfl⟩
  | texts values =>
      have kept := Format.strings_keeps values
      refine ⟨kept.whole, ?_⟩
      exact congrArg (Option.map DetailValue.texts) kept.read

theorem sortedByKey_perm {Item : Type} (pairs : List (String × Item)) :
    (sortedByKey pairs).Perm pairs :=
  List.mergeSort_perm pairs _

def detailTable (pairs : List (String × DetailValue)) (keys : (pairs.map Prod.fst).Nodup) :
    Table String DetailValue :=
  ⟨pairs.map fun pair => ⟨pair.1, pair.2⟩, by
    change (List.map Sigma.fst (pairs.map _)).Nodup
    rw [List.map_map]
    exact keys⟩

theorem detailFormat_read {pairs : List (String × DetailValue)}
    (values : ∀ pair ∈ pairs, pair.2.InRange) (keys : (pairs.map Prod.fst).Nodup) :
    (detailFormat.toJson pairs).isWhole = true ∧
      ∃ loaded, detailFormat.fromJson (detailFormat.toJson pairs) = some loaded ∧
        loaded.Perm pairs := by
  have sorted := sortedByKey_perm pairs
  let table := detailTable (sortedByKey pairs) ((sorted.map Prod.fst).nodup_iff.mpr keys)
  have written : detailFormat.toJson pairs = detailValueFormat.map.toJson table := by
    simp only [detailFormat, Format.map, table, detailTable, List.map_map]
    rfl
  have entries : table.entries.map (fun entry => (entry.1, entry.2)) = sortedByKey pairs := by
    simp only [table, detailTable, List.map_map]
    exact List.map_id' _
  have fits : ∀ key value, table.lookup key = some value → detailValueFormat.Keeps value := by
    intro key value found
    have member : (key, value) ∈ table.entries.map (fun entry => (entry.1, entry.2)) :=
      List.mem_map.mpr ⟨⟨key, value⟩, (Table.mem_entries_iff table key value).mpr found, rfl⟩
    rw [entries] at member
    exact detailValueFormat_keeps (values _ (sorted.subset member))
  obtain ⟨loaded, read, same⟩ := Format.map_read fits
  have alike : loaded.entries.Perm table.entries :=
    List.lookup_ext loaded.nodupKeys table.nodupKeys fun key value => by
      change value ∈ loaded.lookup key ↔ value ∈ table.lookup key
      rw [same]
  refine ⟨?_, sortedByKey (loaded.entries.map fun entry => (entry.1, entry.2)), ?_, ?_⟩
  · rw [written]
    exact Format.whole_map fits
  · rw [written]
    exact congrArg (Option.map _) read
  · refine (sortedByKey_perm _).trans (((alike.map _).trans ?_).trans sorted)
    rw [entries]

theorem detailOption_read {detail : Option (List (String × DetailValue))}
    (values : ∀ pairs ∈ detail, ∀ pair ∈ pairs, pair.2.InRange)
    (keys : ∀ pairs ∈ detail, (pairs.map Prod.fst).Nodup) :
    (detailFormat.option.toJson detail).isWhole = true ∧
      ∃ loaded, detailFormat.option.fromJson (detailFormat.option.toJson detail) =
          some loaded ∧ Option.Rel List.Perm loaded detail := by
  cases detail with
  | none => exact ⟨rfl, none, rfl, .none⟩
  | some pairs =>
      obtain ⟨whole, loaded, read, alike⟩ := detailFormat_read (values pairs rfl) (keys pairs rfl)
      refine ⟨whole, some loaded, ?_, .some alike⟩
      exact congrArg (Option.map some) read

theorem auditEntryFormat_read {entry : AuditEntry} (inRange : entry.InRange) :
    (auditEntryFormat.toJson entry).isWhole = true ∧
      ∃ loaded, auditEntryFormat.fromJson (auditEntryFormat.toJson entry) = some loaded ∧
        SameEntry loaded entry := by
  have timestamp := i64_keeps inRange.timestamp
  obtain ⟨whole, detail, read, alike⟩ := detailOption_read inRange.values inRange.keys
  refine ⟨Format.whole_structJson ?_, { entry with detail := detail }, ?_, rfl, alike⟩
  · simp [Json.areWhole, (Format.string_keeps _).whole, (optionString_keeps _).whole,
      timestamp.whole, whole]
  · simp only [auditEntryFormat]
    rw [Format.structValues_structJson (by decide) rfl]
    simp [Format.required_keeps (Format.string_keeps _), Format.required_keeps timestamp,
      Format.defaulted_keeps (optionString_keeps _), Format.defaulted_read read]

/-- A state whose numbers fit is read back up to the order of its maps. -/
theorem stateFormat_read {state : State} (inRange : state.InRange) :
    (stateFormat.toJson state).isWhole = true ∧
      ∃ loaded, stateFormat.fromJson (stateFormat.toJson state) = some loaded ∧
        SameState loaded state := by
  have version := Format.unsigned_keeps inRange.version
  have revision := Format.unsigned_keeps inRange.revision
  have networkFits := fun key network found =>
    networkFormat_keeps (inRange.networks key network found)
  have nodeFits := fun key node found => nodeFormat_keeps (inRange.nodes key node found)
  have tokenFits := fun key token found => tokenFormat_keeps (inRange.tokens key token found)
  obtain ⟨networks, networksRead, sameNetworks⟩ := Format.map_read networkFits
  obtain ⟨nodes, nodesRead, sameNodes⟩ := Format.map_read nodeFits
  obtain ⟨tokens, tokensRead, sameTokens⟩ := Format.map_read tokenFits
  obtain ⟨wholeLog, auditLog, logRead, sameLog⟩ :=
    Format.list_read fun entry member => auditEntryFormat_read (inRange.auditLog entry member)
  refine ⟨Format.whole_structJson ?_, ⟨state.version, state.revision, networks, nodes, tokens,
    auditLog⟩, ?_, rfl, rfl, sameNetworks, sameNodes, sameTokens, sameLog⟩
  · simp [Json.areWhole, version.whole, revision.whole, Format.whole_map networkFits,
      Format.whole_map nodeFits, Format.whole_map tokenFits, wholeLog]
  · simp only [stateFormat]
    rw [Format.structValues_structJson (by decide) rfl]
    simp [Format.required_keeps version, Format.defaulted_keeps revision,
      Format.required_read networksRead, Format.required_read nodesRead,
      Format.required_read tokensRead, Format.defaulted_read logRead]

/-! ### The file -/

def stateText (state : State) : String := stateFormat.document Json.prettyStyle state

def jsonCodec : Codec where
  toBytes state := utf8Bytes (stateText state)
  utf8 := fromUtf8
  parse := stateFormat.readDocument

theorem jsonCodec_faithful : jsonCodec.Faithful := by
  constructor
  · intro state inRange
    obtain ⟨whole, loaded, read, same⟩ := stateFormat_read inRange
    refine ⟨loaded, ?_, same⟩
    have decoded := (fromUtf8_eq_some_iff _ (stateText state)).mpr rfl
    have parsed := Format.readDocument_document Json.prettyStyle_isBlank whole
    change (fromUtf8 (utf8Bytes (stateText state))).bind stateFormat.readDocument = some loaded
    rw [decoded, Option.bind_some, stateText, parsed, read]
  · intro state inRange written rest split strict
    exact Format.readDocument_cut Json.prettyStyle_isBlank (stateFormat_read inRange).1
      (Format.closed_structJson _ _) split strict

end Lightscale.Storage
