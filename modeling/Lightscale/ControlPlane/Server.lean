/-
One server: every route as a request, the handler it is dispatched to, and runs of
requests from the empty state.

Requests of different clients interleave between the accesses to the store.  A
handler changes the state in a single write, so a run lists the requests in the
order of their writes; the clock readings and draws of each are arbitrary.
-/

import Lightscale.Foundation.AddressText
import Lightscale.Foundation.Execution
import Lightscale.ControlPlane.Api

namespace Lightscale.ControlPlane

open Foundation

/-! ### Routes that only read -/

/-- The routes that read the state and never change it.  A long poll is a sequence
of single polls (`netmapLongpoll`). -/
inductive ReadRoute where
  | listTokens (networkId : String)
  | adminNodes (networkId : String)
  | getAcl (networkId : String)
  | getKeyPolicy (networkId : String)
  | nodeKeys (nodeId : String)
  | auditLog (networkId nodeId : Option String) (limit : Option Nat)
  | netmap (nodeId : String)
  | netmapPoll (nodeId : String)
  deriving DecidableEq

inductive ReadResponse where
  | tokens (tokens : List EnrollmentToken)
  | nodes (nodes : List NodeInfo)
  | acl (policy : AclPolicy)
  | keyPolicy (policy : KeyRotationPolicy)
  | keys (nodeId : String) (keys : List KeyRecord)
  | audit (entries : List AuditEntry)
  | netmap (netmap : NetMap)
  | poll (revision : Nat) (netmap : NetMap)

def readNetwork (state : State) (networkId : String) : Except ApiError NetworkState :=
  match state.networks.lookup networkId with
  | none => .error (.notFound "network")
  | some network => .ok network

def readNode (config : Config) (headers : Headers) (state : State) (nodeId : String) :
    Except ApiError NodeState :=
  match state.nodes.lookup nodeId with
  | none => .error (.notFound "node")
  | some node => (requireNode headers config.adminToken node).map fun _ => node

/-- Newest expiry first: a stable sort by expiry, reversed. -/
def sortedTokens (state : State) (networkId : String) : List EnrollmentToken :=
  (((state.tokens.values.filter (fun token => decide (token.networkId = networkId))).map
    EnrollmentToken.ofState).mergeSort
      (fun left right => decide (left.expiresAt ≤ right.expiresAt))).reverse

def lastEntries (limit : Option Nat) (entries : List AuditEntry) : List AuditEntry :=
  match limit with
  | none => entries
  | some limit => entries.drop (entries.length - limit)

def readRoute (config : Config) (draws : Draws) (headers : Headers) (state : State) :
    ReadRoute → Except ApiError ReadResponse
  | .listTokens networkId =>
      (requireAdmin headers config.adminToken).bind fun _ =>
      (readNetwork state networkId).map fun _ => .tokens (sortedTokens state networkId)
  | .adminNodes networkId =>
      (requireAdmin headers config.adminToken).bind fun _ =>
      (readNetwork state networkId).map fun network =>
        .nodes ((state.nodes.values.filter
          (fun node => decide (node.networkId = networkId))).map fun node =>
            let status := effectiveNodeStatus node network.keyPolicy draws.now
            NodeInfo.fromState node network.dnsDomain status.1 status.2)
  | .getAcl networkId =>
      (requireAdmin headers config.adminToken).bind fun _ =>
      (readNetwork state networkId).map fun network => .acl network.acl
  | .getKeyPolicy networkId =>
      (requireAdmin headers config.adminToken).bind fun _ =>
      (readNetwork state networkId).map fun network => .keyPolicy network.keyPolicy
  | .nodeKeys nodeId =>
      (readNode config headers state nodeId).map fun node => .keys nodeId node.keyHistory
  | .auditLog networkId nodeId limit =>
      (requireAdmin headers config.adminToken).map fun _ =>
        .audit (lastEntries limit (state.auditLog.filter fun entry =>
          (networkId.isNone || decide (entry.networkId = networkId)) &&
            (nodeId.isNone || decide (entry.nodeId = nodeId))))
  | .netmap nodeId =>
      (readNode config headers state nodeId).bind fun _ =>
      (buildNetmap state nodeId (relayOrNone config.relay) draws.netmapNow
        draws.generatedAt).map .netmap
  | .netmapPoll nodeId =>
      (readNode config headers state nodeId).bind fun _ =>
      (buildNetmap state nodeId (relayOrNone config.relay) draws.netmapNow
        draws.generatedAt).map (.poll state.revision)

/-- One turn of a long poll: what it reads, and whether its deadline has passed. -/
structure Poll where
  state : State
  draws : Draws
  expired : Bool

/-- A long poll reads until the revision is past `since` or the deadline has passed.  It has
no answer yet while it is still asleep. -/
def netmapLongpoll (config : Config) (headers : Headers) (nodeId : String)
    (since : Option Nat) : List Poll → Option (Except ApiError NetMap)
  | [] => none
  | poll :: rest =>
      match (readNode config headers poll.state nodeId).bind fun _ =>
          buildNetmap poll.state nodeId (relayOrNone config.relay) poll.draws.netmapNow
            poll.draws.generatedAt with
      | .error error => some (.error error)
      | .ok netmap =>
          if since.getD 0 < poll.state.revision ∨ poll.expired = true then some (.ok netmap)
          else netmapLongpoll config headers nodeId since rest

/-! ### All routes -/

inductive Request where
  | createNetwork (request : CreateNetworkRequest)
  | deleteNetwork (networkId : String)
  | createToken (networkId : String) (request : CreateTokenRequest)
  | revokeToken (tokenId : String)
  | register (request : RegisterRequest)
  | registerUrl (request : RegisterUrlRequest)
  | approveNodeSecret (nodeId secret : String)
  | approveNode (nodeId : String)
  | updateNode (nodeId : String) (request : UpdateNodeRequest)
  | updateAcl (networkId : String) (policy : AclPolicy)
  | updateKeyPolicy (networkId : String) (policy : KeyRotationPolicy)
  | rotateKeys (nodeId : String) (request : KeyRotationRequest)
  | revokeNode (nodeId : String)
  | deleteNode (nodeId : String)
  | heartbeat (request : HeartbeatRequest)
  | read (route : ReadRoute)
  deriving DecidableEq

inductive Response where
  | networkCreated (response : CreateNetworkResponse)
  | networkDeleted
  | token (token : EnrollmentToken)
  | registered (response : RegisterResponse)
  | registeredUrl (response : RegisterUrlResponse)
  | approved (response : ApproveResponse)
  | nodeUpdated (node : NodeInfo)
  | acl (policy : AclPolicy)
  | keyPolicy (policy : KeyRotationPolicy)
  | keysRotated (response : KeyRotationResponse)
  | revoked (response : RevokeResponse)
  | nodeDeleted (nodeId : String)
  | netmap (netmap : NetMap)
  | read (response : ReadResponse)

structure Call where
  draws : Draws
  headers : Headers
  request : Request
  deriving DecidableEq

def handle (config : Config) (call : Call) : Handler Response :=
  match call.request with
  | .createNetwork request =>
      (createNetwork config call.draws call.headers request).respond .networkCreated
  | .deleteNetwork networkId =>
      (deleteNetwork config call.draws call.headers networkId).respond
        fun _ => .networkDeleted
  | .createToken networkId request =>
      (createToken config call.draws call.headers networkId request).respond .token
  | .revokeToken tokenId =>
      (revokeToken config call.draws call.headers tokenId).respond .token
  | .register request => (register config call.draws request).respond .registered
  | .registerUrl request => (registerUrl config call.draws request).respond .registeredUrl
  | .approveNodeSecret nodeId secret =>
      (approveNodeSecret config call.draws nodeId secret).respond .approved
  | .approveNode nodeId =>
      (approveNode config call.draws call.headers nodeId).respond .approved
  | .updateNode nodeId request =>
      (updateNode config call.draws call.headers nodeId request).respond .nodeUpdated
  | .updateAcl networkId policy =>
      (updateAcl config call.draws call.headers networkId policy).respond .acl
  | .updateKeyPolicy networkId policy =>
      (updateKeyPolicy config call.draws call.headers networkId policy).respond .keyPolicy
  | .rotateKeys nodeId request =>
      (rotateKeys config call.draws call.headers nodeId request).respond .keysRotated
  | .revokeNode nodeId =>
      (revokeNode config call.draws call.headers nodeId).respond .revoked
  | .deleteNode nodeId =>
      (deleteNode config call.draws call.headers nodeId).respond .nodeDeleted
  | .heartbeat request =>
      (heartbeat config call.draws call.headers request).respond .netmap
  | .read route =>
      fun state =>
        ((readRoute config call.draws call.headers state route).map .read, state)

/-- The state later requests see. -/
def step (config : Config) (state : State) (call : Call) : State :=
  (handle config call state).2

def run (config : Config) (calls : List Call) : State :=
  exec (step config) State.default calls

def history (config : Config) (calls : List Call) : List (Event State Call) :=
  trace (step config) State.default calls

/-! ### A small deployment -/

def sampleExternals : Externals where
  parseV4 text :=
    if text = "10.0.0.0/24" then some ⟨167772160, 24, by decide, by decide⟩
    else if text = "10.0.1.0/24" then some ⟨167772416, 24, by decide, by decide⟩
    else none
  parseV6 text :=
    if text = "fd00::/64" then some ⟨253 * 2 ^ 120, 64, by decide, by decide⟩
    else if text = "fd01::/64" then some ⟨253 * 2 ^ 120 + 2 ^ 112, 64, by decide, by decide⟩
    else none
  printV4 := AddressText.ipv4Text
  printV6 := AddressText.ipv6Text
  hashBytes _ _ := 0

theorem sampleExternals_printsInjectively : sampleExternals.PrintsInjectively :=
  ⟨fun _ _ leftLt rightLt same => AddressText.ipv4Text_inj leftLt rightLt same,
    fun _ _ leftLt rightLt same => AddressText.ipv6Text_inj leftLt rightLt same⟩

def sampleConfig : Config where
  backend := .file
  adminToken := some "root"
  relay := {}
  externals := sampleExternals

/-- The clock and the random strings of one request, all named after `id`. -/
def sampleDraws (now : Int) (id : String) : Draws where
  now := now
  tokenNow := now
  auditNow := now
  netmapNow := now
  generatedAt := now
  networkId := id
  nodeId := id
  nodeToken := id ++ "-token"
  authSecret := id ++ "-secret"
  tokenSecret := id
  auditId := id
  remoteIp := .v4 "192.0.2.1"
  stored := true

def adminCall (now : Int) (id : String) (request : Request) : Call where
  draws := sampleDraws now id
  headers := { authorization := some "Bearer root" }
  request := request

def plainCall (now : Int) (id : String) (request : Request) : Call where
  draws := sampleDraws now id
  headers := { authorization := none }
  request := request

def nodeCall (now : Int) (id : String) (request : Request) : Call where
  draws := sampleDraws now id
  headers := { authorization := some ("Bearer " ++ id ++ "-token") }
  request := request

def sampleNetworkRequest : CreateNetworkRequest where
  name := "home"
  overlayV4 := some "10.0.0.0/24"
  overlayV6 := some "fd00::/64"
  bootstrapTokenTtlSeconds := some 3600
  bootstrapTokenUses := some 3

def sampleRegisterRequest (id name : String) : RegisterRequest where
  token := "net"
  nodeName := name
  machinePublicKey := id ++ "-machine"
  wgPublicKey := id ++ "-wg"

def createSample (now : Int) : Call :=
  adminCall now "net" (.createNetwork sampleNetworkRequest)

def registerSample (now : Int) (id name : String) : Call :=
  plainCall now id (.register (sampleRegisterRequest id name))

end Lightscale.ControlPlane
