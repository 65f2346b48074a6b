/-
The records of the control plane: what the server stores, what a request carries
and what a response shows.

Field names follow the stored records.  Timestamps are signed seconds, counters
are natural numbers, and the three maps of the state are keyed by text.
-/

import Lightscale.Foundation.Table

namespace Lightscale.ControlPlane

open Foundation

/-! ### Stored records -/

inductive RouteKind where
  | subnet
  | exit
  deriving DecidableEq

structure Route where
  pref : String
  kind : RouteKind
  enabled : Bool
  mappedPref : Option String
  deriving DecidableEq

inductive AclAction where
  | allow
  | deny
  deriving DecidableEq

structure AclSelector where
  any : Bool := false
  tags : List String := []
  nodeIds : List String := []
  names : List String := []
  deriving DecidableEq

structure AclRule where
  action : AclAction
  src : AclSelector := {}
  dst : AclSelector := {}
  deriving DecidableEq

structure AclPolicy where
  defaultAction : AclAction := .allow
  rules : List AclRule := []
  deriving DecidableEq

structure KeyRotationPolicy where
  maxAgeSeconds : Option Nat := none
  deriving DecidableEq

inductive KeyType where
  | machine
  | wireGuard
  deriving DecidableEq

structure KeyRecord where
  keyType : KeyType
  publicKey : String
  createdAt : Int
  revokedAt : Option Int
  deriving DecidableEq

structure NetworkState where
  id : String
  name : String
  overlayV4 : String
  overlayV6 : String
  dnsDomain : String
  requiresApproval : Bool
  acl : AclPolicy
  keyPolicy : KeyRotationPolicy
  createdAt : Int
  nextIpv4 : Nat
  nextIpv6 : Nat
  deriving DecidableEq

structure NodeState where
  id : String
  networkId : String
  name : String
  machinePublicKey : String
  wgPublicKey : String
  ipv4 : String
  ipv6 : String
  endpoints : List String
  tags : List String
  ownerUserId : Option String
  ownerEmail : Option String
  ownerIsAdmin : Bool
  routes : List Route
  createdAt : Int
  lastSeen : Int
  probeRequestedAt : Option Int
  approved : Bool
  approvedAt : Option Int
  authSecret : Option String
  authExpiresAt : Option Int
  nodeToken : Option String
  revokedAt : Option Int
  keyHistory : List KeyRecord
  deriving DecidableEq

structure TokenState where
  token : String
  networkId : String
  expiresAt : Int
  usesLeft : Nat
  tags : List String
  ownerUserId : Option String
  ownerEmail : Option String
  ownerIsAdmin : Bool
  revokedAt : Option Int
  deriving DecidableEq

inductive DetailValue where
  | null
  | bool (value : Bool)
  | number (value : Int)
  | text (value : String)
  | texts (values : List String)
  deriving DecidableEq

structure AuditEntry where
  id : String
  timestamp : Int
  networkId : Option String
  nodeId : Option String
  action : String
  detail : Option (List (String × DetailValue))
  deriving DecidableEq

@[ext]
structure State where
  version : Nat
  revision : Nat
  networks : Table String NetworkState
  nodes : Table String NodeState
  tokens : Table String TokenState
  auditLog : List AuditEntry

def State.default : State :=
  { version := 1
    revision := 0
    networks := ∅
    nodes := ∅
    tokens := ∅
    auditLog := [] }

/-! ### What a response shows -/

structure NetworkInfo where
  id : String
  name : String
  overlayV4 : String
  overlayV6 : String
  dnsDomain : String
  requiresApproval : Bool
  keyRotationMaxAgeSeconds : Option Nat
  deriving DecidableEq

structure NodeInfo where
  id : String
  name : String
  dnsName : String
  ipv4 : String
  ipv6 : String
  wgPublicKey : String
  machinePublicKey : String
  endpoints : List String
  tags : List String
  ownerUserId : Option String
  ownerEmail : Option String
  ownerIsAdmin : Bool
  routes : List Route
  lastSeen : Int
  approved : Bool
  keyRotationRequired : Bool
  revoked : Bool
  deriving DecidableEq

structure PeerInfo where
  id : String
  name : String
  dnsName : String
  ipv4 : String
  ipv6 : String
  wgPublicKey : String
  endpoints : List String
  tags : List String
  routes : List Route
  lastSeen : Int
  deriving DecidableEq

structure RelayConfig where
  stunServers : List String := []
  turnServers : List String := []
  streamRelayServers : List String := []
  udpRelayServers : List String := []
  dnsServers : List String := []
  deriving DecidableEq

structure ProbeRequest where
  peerId : String
  endpoints : List String
  ipv4 : String
  ipv6 : String
  requestedAt : Int
  deriving DecidableEq

structure NetMap where
  network : NetworkInfo
  node : NodeInfo
  peers : List PeerInfo
  relay : Option RelayConfig
  probeRequests : List ProbeRequest
  generatedAt : Int
  revision : Nat
  deriving DecidableEq

structure EnrollmentToken where
  token : String
  expiresAt : Int
  usesLeft : Nat
  tags : List String
  ownerUserId : Option String
  ownerEmail : Option String
  ownerIsAdmin : Bool
  revokedAt : Option Int
  deriving DecidableEq

def NetworkInfo.ofState (network : NetworkState) : NetworkInfo :=
  { id := network.id
    name := network.name
    overlayV4 := network.overlayV4
    overlayV6 := network.overlayV6
    dnsDomain := network.dnsDomain
    requiresApproval := network.requiresApproval
    keyRotationMaxAgeSeconds := network.keyPolicy.maxAgeSeconds }

def NodeInfo.fromState (node : NodeState) (dnsDomain : String)
    (approved keyRotationRequired : Bool) : NodeInfo :=
  { id := node.id
    name := node.name
    dnsName := node.name ++ "." ++ dnsDomain
    ipv4 := node.ipv4
    ipv6 := node.ipv6
    wgPublicKey := node.wgPublicKey
    machinePublicKey := node.machinePublicKey
    endpoints := node.endpoints
    tags := node.tags
    ownerUserId := node.ownerUserId
    ownerEmail := node.ownerEmail
    ownerIsAdmin := node.ownerIsAdmin
    routes := node.routes
    lastSeen := node.lastSeen
    approved := approved
    keyRotationRequired := keyRotationRequired
    revoked := node.revokedAt.isSome }

def PeerInfo.ofNode (node : NodeState) (dnsDomain : String) : PeerInfo :=
  { id := node.id
    name := node.name
    dnsName := node.name ++ "." ++ dnsDomain
    ipv4 := node.ipv4
    ipv6 := node.ipv6
    wgPublicKey := node.wgPublicKey
    endpoints := node.endpoints
    tags := node.tags
    routes := node.routes
    lastSeen := node.lastSeen }

def EnrollmentToken.ofState (token : TokenState) : EnrollmentToken :=
  { token := token.token
    expiresAt := token.expiresAt
    usesLeft := token.usesLeft
    tags := token.tags
    ownerUserId := token.ownerUserId
    ownerEmail := token.ownerEmail
    ownerIsAdmin := token.ownerIsAdmin
    revokedAt := token.revokedAt }

/-! ### What a request carries -/

structure CreateNetworkRequest where
  name : String
  overlayV4 : Option String := none
  overlayV6 : Option String := none
  dnsDomain : Option String := none
  requiresApproval : Option Bool := none
  keyRotationMaxAgeSeconds : Option Nat := none
  bootstrapTokenTtlSeconds : Option Nat := none
  bootstrapTokenUses : Option Nat := none
  bootstrapTokenTags : Option (List String) := none
  deriving DecidableEq

structure CreateTokenRequest where
  ttlSeconds : Nat
  uses : Nat
  tags : List String
  ownerUserId : Option String := none
  ownerEmail : Option String := none
  ownerIsAdmin : Option Bool := none
  deriving DecidableEq

structure UpdateNodeRequest where
  name : Option String
  tags : Option (List String)
  deriving DecidableEq

structure KeyRotationRequest where
  machinePublicKey : Option String
  wgPublicKey : Option String
  deriving DecidableEq

structure RegisterRequest where
  token : String
  nodeName : String
  machinePublicKey : String
  wgPublicKey : String
  deriving DecidableEq

structure RegisterUrlRequest where
  networkId : String
  nodeName : String
  machinePublicKey : String
  wgPublicKey : String
  ttlSeconds : Option Nat
  deriving DecidableEq

structure HeartbeatRequest where
  nodeId : String
  endpoints : List String
  listenPort : Option Nat
  routes : List Route
  probe : Option Bool
  deriving DecidableEq

/-! ### Errors -/

inductive ApiError where
  | notFound (message : String)
  | badRequest (message : String)
  | unauthorized (message : String)
  | conflict (message : String)
  | internal
  deriving DecidableEq

end Lightscale.ControlPlane
