import LibreRoute.Lib.Kotlin
import LibreRoute.Lib.Json

/-!
The records of the administrative control plane: roles, grants and the
signed envelopes that carry them, server nodes, managed profiles, the
command history, and the durable records of server and protocol
installation. A text the source stores as serialised JSON is kept as the
value it serialises.
-/

namespace LibreRoute.Admin

open LibreRoute.Lib

/-- The exceptions an operation can end with. Those thrown outside the
repository keep whatever message they carry. -/
inductive Throwable
  | illegalArgument (message : String)
  | illegalState (message : String)
  | unknownAdminOperation (message : String)
  | json (error : JsonError) (message : Option String)
  | platform (message : Option String)
  deriving DecidableEq

def Throwable.message : Throwable → Option String
  | .illegalArgument message => some message
  | .illegalState message => some message
  | .unknownAdminOperation message => some message
  | .json _ message => message
  | .platform message => message

inductive AdminRole
  | none
  | pending
  | owner
  | operator
  | viewer
  deriving DecidableEq, Repr

def AdminRole.name : AdminRole → String
  | .none => "NONE"
  | .pending => "PENDING"
  | .owner => "OWNER"
  | .operator => "OPERATOR"
  | .viewer => "VIEWER"

/-- `role in listOf(OWNER, OPERATOR, VIEWER)`: the roles a grant can confer. -/
def AdminRole.granted : AdminRole → Bool
  | .owner | .operator | .viewer => true
  | .none | .pending => false

inductive AdminChannel
  | auto
  | document
  | activeTransport
  | directSsh
  | sshVds
  | sshNetcraze
  deriving DecidableEq, Repr

inductive ServerNodeType
  | vds
  | routerKeenetic
  | routerOpenwrt
  | custom
  deriving DecidableEq, Repr

inductive ServerNodeStatus
  | online
  | offline
  | degraded
  | unknown
  deriving DecidableEq, Repr

inductive SshAuthType
  | key
  | password
  deriving DecidableEq, Repr

structure ServerInventory where
  installedLibreRouteVersion : Option String := none
  managedNamespaces : List String := []
  probeError : Option String := none
  deriving DecidableEq, Repr

structure ServerNode where
  id : String
  name : String
  nodeType : ServerNodeType := .vds
  host : String
  port : Int := 22
  sshUser : String := "root"
  authType : SshAuthType := .key
  privateKeyPath : Option String := none
  passphrase : Option String := none
  password : Option String := none
  credentialRef : Option String := none
  managementNamespace : Option String := none
  hostPublicKey : Option String := none
  allowPasswordAuth : Bool := false
  supportedProtocols : List String := ["vyandex", "udp-ipv4"]
  status : ServerNodeStatus := .unknown
  inventory : Option ServerInventory := none
  lastSeenAt : Int := 0
  createdAt : Int
  deriving DecidableEq, Repr

structure AdminGrant where
  role : AdminRole
  profileId : String
  adminFingerprint : String
  serverPublicKey : String
  grantedAt : Int
  expiresAt : Int
  scope : List String := []
  revision : Int := 1
  nonce : String := ""
  serverSignature : String := ""
  serverId : Option String := none
  deriving DecidableEq, Repr

structure AdminEnvelope where
  ver : Int := 1
  type : String := "ADMIN"
  subtype : String
  profileId : String
  opId : String
  rev : Int := 1
  exp : Int
  sender : String
  nonce : String
  payload : String := ""
  signature : String := ""
  deriving DecidableEq, Repr

namespace AdminEnvelope

def typeAdmin : String := "ADMIN"
def subtypeRequest : String := "ADMIN_JOIN_REQUEST"
def subtypeGrant : String := "ADMIN_GRANT"
def subtypeResponse : String := "ADMIN_RESPONSE"

/-- The exact text that is signed and verified. -/
def canonicalSigningString (e : AdminEnvelope) : String :=
  toString e.ver ++ "|" ++ e.type ++ "|" ++ e.subtype ++ "|" ++ e.profileId ++ "|" ++ e.opId ++
    "|" ++ toString e.rev ++ "|" ++ toString e.exp ++ "|" ++ e.sender ++ "|" ++ e.nonce ++ "|" ++
    e.payload

end AdminEnvelope

structure ProfileServerConfig where
  serverId : String
  documentUrl : Option String := none
  extraParams : Option String := none
  deriving DecidableEq, Repr

inductive ProfileType
  | user
  | control
  | other (text : String)
  deriving DecidableEq, Repr

structure ManagedProfile where
  id : String
  name : String
  status : String := "ready"
  revision : Int := 1
  transportType : String := "vyandex"
  sessionNegotiated : Bool := true
  udpEnabled : Bool := false
  allowedDestCIDRs : List String := []
  allowedServerIds : List String := []
  allowedProtocols : List String := ["vyandex", "udp-ipv4"]
  serverConfigs : List (String × ProfileServerConfig) := []
  lastCheckTimestamp : Int := 0
  createdAt : Int
  issuedTo : Option String := none
  profileType : ProfileType := .user
  role : AdminRole := .none
  serverId : Option String := none
  provisioningStatus : String := "profile ready"
  deriving DecidableEq, Repr

structure AdminCommandRecord where
  opId : String
  targetProfileId : String
  commandType : String
  status : String
  channel : String
  timestamp : Int
  revision : Int
  payload : String := ""
  error : Option String := none
  deriving DecidableEq, Repr

structure DocumentSessionKeys where
  clientKey : String
  serverKey : String
  documentUrl : String
  deriving DecidableEq, Repr

inductive InstallKind
  | install
  | ownerRecovery
  | coreUpdate
  deriving DecidableEq, Repr

inductive InstallStage
  | planned
  | submitting
  | unknown
  | serverConfirmed
  | ready
  | rolledBack
  | recoveryRequired
  | failedBeforeSubmit
  | cancelledBeforeSubmit
  deriving DecidableEq, Repr

structure ServerInstallOperation where
  operationId : String
  serverId : String
  namespaceName : String
  node : ServerNode
  expectedPlan : JsonObject
  planHash : String
  profileId : String
  deviceId : String
  documentUrl : String := ""
  ownerRecovery : Bool := false
  preserveOwners : Bool := false
  kind : InstallKind := .install
  join : Option AdminEnvelope := none
  stage : InstallStage := .planned
  receipt : Option JsonObject := none
  previousGrantEnvelope : Option AdminEnvelope := none
  previousDocumentSession : Option DocumentSessionKeys := none
  identityBindingConfirmed : Bool := false
  priorLocalNodeId : Option String := none
  error : Option String := none
  profileName : String := ""
  serverStage : String := ""
  updatedAt : Int
  deriving BEq

structure ProtocolInstallationOperation where
  operationId : String
  serverId : String
  transport : String
  profileId : String
  endpoint : String := ""
  stage : String := "planned"
  error : Option String := none
  updatedAt : Int
  deriving DecidableEq, Repr

inductive AdminOpResult
  | success (message : String) (envelope : Option AdminEnvelope)
  | failure (error : String) (throwable : Option Throwable)
  deriving DecidableEq

namespace AdminOpResult

def isSuccess : AdminOpResult → Bool
  | .success .. => true
  | .failure .. => false

@[simp] theorem isSuccess_success (m : String) (e : Option AdminEnvelope) :
    (success m e).isSuccess = true := rfl

@[simp] theorem isSuccess_failure (m : String) (t : Option Throwable) :
    (failure m t).isSuccess = false := rfl

end AdminOpResult

inductive LiveState
  | checking
  | ready
  | denied
  | unavailable
  deriving DecidableEq, Repr

/-- Session-only authority confirmed by a fresh signed response. -/
structure AdminLiveAccess where
  probeId : Int
  state : LiveState
  role : AdminRole := .none
  reason : Option String := none
  deriving DecidableEq, Repr

end LibreRoute.Admin
