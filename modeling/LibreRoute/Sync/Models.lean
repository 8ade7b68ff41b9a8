import LibreRoute.Admin.KeyManager
import LibreRoute.Tunnels.LinkParser

/-!
The routes a server hands out, and the tunnels made of them.

A route may be bound to a device, through one channel or a group of
channels; the bindings are checked before anything is made of the route.
The id of a new tunnel is made of the clock and a random number, which
come in as a `Moment`.
-/

namespace LibreRoute.Sync

open Lib Tunnels
open Admin (Throwable)
open Admin.Throwable (illegalArgument)

structure PairChannelBinding where
  schema : Int
  pairId : String
  laneId : Int
  leaseId : String
  resourceId : String
  resourceIdentity : String
  resourceGeneration : Int
  keyRevision : Int
  packageRevision : Int
  policyRevision : Int
  serverId : String
  deviceId : String
  deviceFingerprint : String
  devicePublicKey : String
  deriving DecidableEq, Repr

structure ChannelGroupLane where
  provider : String
  url : String
  binding : PairChannelBinding
  deriving DecidableEq, Repr

structure ChannelGroupBinding where
  schema : Int
  mode : String
  minReady : Int
  lanes : List ChannelGroupLane
  deriving DecidableEq, Repr

structure RouteCandidate where
  routeId : String := ""
  serverId : String := ""
  transport : String := ""
  profileInstanceId : String := ""
  name : String := ""
  url : String := ""
  secretKey : String := ""
  codec : String := "batched"
  encryptionLayout : String := "packet"
  parameters : List (String × String) := []
  revision : Int := 1
  status : String := "ready"
  pairChannel : Option PairChannelBinding := none
  channelGroup : Option ChannelGroupBinding := none
  deriving DecidableEq, Repr

def RouteCandidate.isAvailable (route : RouteCandidate) : Bool :=
  TransportType.isAvailableName route.transport

def isLowerHex (c : Char) : Bool := c.isDigit || ['a', 'b', 'c', 'd', 'e', 'f'].contains c

/-- `Regex("[0-9a-f]{n}")`. -/
def matchesHex (n : Nat) (s : String) : Bool :=
  s.toList.all isLowerHex && s.toList.length == n

/-- The key pair routes are encrypted for. -/
structure RecipientIdentity where
  publicKeyHashHex : String
  publicKeyBase64 : String

structure SyncLibraries where
  platform : Admin.Platform
  links : LinkLibraries
  device : Device
  /-- `RecipientInvitationCrypto(recipientIdentityStorage)`. -/
  recipient : RecipientIdentity
  /-- The signature that identity makes. -/
  signCanonical : String → String
  routeIdentity : String → RecipientIdentity
  /-- `KeyFactory.generatePublic(X509EncodedKeySpec(raw))`: whether its field has 256 bits. -/
  isP256 : List UInt8 → Except Throwable Bool
  /-- `URI(text).rawPath`. -/
  rawPath : String → String
  /-- `json.encodeToString(binding)`. -/
  encodePair : PairChannelBinding → String
  encodeGroup : ChannelGroupBinding → String
  toLongOrNull : String → Option Int
  /-- `json.decodeFromJsonElement<List<RouteCandidate>>(element)`. -/
  decodeRoutes : Json → Except Throwable (List RouteCandidate)
  /-- The first eight bytes of the SHA-256 digest of a text, without the sign. -/
  idDigest : String → Int
  idDigest_nonneg : ∀ text, 0 ≤ idDigest text
  /-- The hexadecimal SHA-256 digest of a trimmed text. -/
  invitationHash : String → String
  invitationHash_hex : ∀ text, matchesHex 64 (invitationHash text) = true

/-! ### Bindings -/

def PairChannelBinding.validate (L : SyncLibraries) (b : PairChannelBinding)
    (server fingerprint : String) (publicKey : Option String) (groupLane : Bool) :
    Except Throwable Unit := do
  require (b.schema == 2 && matchesHex 32 b.pairId &&
      (if groupLane then decide (0 < b.laneId) else b.laneId == 1) &&
      ! isBlank b.leaseId && ! isBlank b.resourceId && ! isBlank b.resourceIdentity &&
      decide (0 < b.resourceGeneration) && decide (0 < b.keyRevision) &&
      decide (0 < b.packageRevision) && decide (0 < b.policyRevision) &&
      b.serverId == server && ! isBlank b.deviceId && b.deviceFingerprint == fingerprint)
    (illegalArgument "Конфигурация Jazz адресована другому устройству или серверу")
  match Base64.decode .standard b.devicePublicKey.toList with
  | none => .error (.platform none)
  | some raw =>
    require (Admin.Platform.hex (L.platform.sha256 raw) == fingerprint &&
        publicKey.all (· == b.devicePublicKey))
      (illegalArgument "Ключ устройства Jazz не совпадает")
    let p256 ← L.isP256 raw
    require p256 (illegalArgument "Jazz требует ключ P-256")

/-- What a resource of a provider is known by. -/
def endpointIdentity (L : SyncLibraries) (provider raw : String) : Except Throwable String := do
  let uri ←
    match L.links.javaUri raw with
    | some uri => pure uri
    | none => .error (.platform none)
  match provider with
  | "jazz" =>
    require (ServiceRouteEndpoint.isValid L.links .jazz raw)
      (illegalArgument "Укажите полную ссылку Jazz с паролем")
    match (split (trimChars (uri.path.getD "") ['/']) '/')[1]? with
    | some room => pure room
    | none => .error (.platform none)
  | "vyandex" =>
    require (uri.scheme == some "https" && uri.rawUserInfo.isNone && uri.port == -1 &&
        ! isNullOrBlank uri.path && (uri.host == some "yandex.ru" ||
          endsWith (lowercase (uri.host.getD "")) ".yandex.ru"))
      (illegalArgument "Укажите ссылку на документ Яндекса")
    pure (lowercase (uri.host.getD "") ++
      String.ofList (((L.rawPath raw).toList.reverse.dropWhile (· == '/')).reverse))
  | _ => .error (.illegalState "Провайдер пока не поддерживает объединение каналов")

namespace ChannelGroupBinding

def firstLane (g : ChannelGroupBinding) : Except Throwable ChannelGroupLane :=
  match g.lanes with
  | [] => .error (.platform (some "List is empty."))
  | lane :: _ => .ok lane

def endpoint (g : ChannelGroupBinding) : Except Throwable String := do
  let lane ← g.firstLane
  pure ("https://channel-group.libreroute.invalid/" ++ lane.binding.pairId)

/-- The checks of one lane after the other; `documents` are the resources seen so far. -/
def validateLanes (L : SyncLibraries) (base : PairChannelBinding)
    (server fingerprint : String) (publicKey : Option String) :
    List ChannelGroupLane → List String → Except Throwable Unit
  | [], _ => pure ()
  | lane :: lanes, documents => do
      lane.binding.validate L server fingerprint publicKey true
      let b := lane.binding
      require (b.pairId == base.pairId && b.deviceId == base.deviceId &&
          b.keyRevision == base.keyRevision && b.packageRevision == base.packageRevision &&
          b.policyRevision == base.policyRevision && b.devicePublicKey == base.devicePublicKey)
        (illegalArgument "Каналы относятся к разным маршрутам")
      let identity ← endpointIdentity L lane.provider lane.url
      require (identity == b.resourceIdentity)
        (illegalArgument "Адрес канала не совпадает с выданной конфигурацией")
      require (! documents.contains (lane.provider ++ ":" ++ identity))
        (illegalArgument "Для каждого канала нужен отдельный ресурс")
      validateLanes L base server fingerprint publicKey lanes
        ((lane.provider ++ ":" ++ identity) :: documents)

def validate (L : SyncLibraries) (g : ChannelGroupBinding) (server fingerprint : String)
    (publicKey : Option String) : Except Throwable Unit := do
  require (g.schema == 1 && ["ordered_striping", "flow_affinity"].contains g.mode &&
      decide (1 ≤ g.lanes.length ∧ g.lanes.length ≤ 4) &&
      decide (1 ≤ g.minReady ∧ g.minReady ≤ g.lanes.length))
    (illegalArgument "Некорректные параметры объединения каналов")
  let lane ← g.firstLane
  require (decide (g.lanes.map (·.binding.laneId)).Nodup)
    (illegalArgument "Повтор номера канала")
  validateLanes L lane.binding server fingerprint publicKey g.lanes []

end ChannelGroupBinding

/-! ### The tunnel of a route -/

/-- The clock and the random number when a tunnel is made. -/
structure Moment where
  currentTimeMillis : Int
  random : Fin 1000

def Moment.tunnelId (m : Moment) : Int := m.currentTimeMillis * 1000 + (m.random.val : Int)

namespace RouteCandidate

variable (L : SyncLibraries)

def checkBindings (route : RouteCandidate) : Except Throwable Unit := do
  match route.channelGroup with
  | none => pure ()
  | some group =>
    let fits ←
      if route.transport == "channel-group" && route.pairChannel.isNone then do
        let endpoint ← group.endpoint
        pure (route.url == endpoint && matchesHex 64 route.secretKey && route.codec == "batched")
      else pure false
    require fits (illegalArgument "Некорректная конфигурация объединённых каналов")
    let lane ← group.firstLane
    let crypto := L.routeIdentity lane.binding.deviceFingerprint
    group.validate L route.serverId crypto.publicKeyHashHex crypto.publicKeyBase64
  require (route.transport != "channel-group" || route.channelGroup.isSome)
    (illegalArgument "Отсутствует выданная конфигурация каналов")
  match route.pairChannel with
  | none => pure ()
  | some binding =>
    require (route.transport == "jazz" && matchesHex 64 route.secretKey)
      (illegalArgument "Некорректная конфигурация Jazz V2")
    let crypto := L.routeIdentity binding.deviceFingerprint
    binding.validate L route.serverId crypto.publicKeyHashHex crypto.publicKeyBase64 false

def checkEndpoint (route : RouteCandidate) (transType : TransportType) :
    Except Throwable Unit := do
  if transType = .mqtt ∨ transType = .jitsi ∨ transType = .jazz then
    require (ServiceRouteEndpoint.isValid L.links transType route.url)
      (illegalArgument "Некорректный адрес маршрута")
    require (decide (16 ≤ length route.secretKey))
      (illegalArgument "У маршрута отсутствует ключ шифрования")

def parameter (route : RouteCandidate) (key : String) : Option String :=
  route.parameters.lookup key

def ifBlank (s other : String) : String := if isBlank s then other else s

def payload (route : RouteCandidate) (transType : TransportType) : List String :=
  ["--role=client", "--transport", transType.cliName, "--url", route.url,
    "--codec=" ++ (route.parameter "codec").getD (ifBlank route.codec "batched"),
    "--encryption-layout=" ++
      (route.parameter "encryption_layout").getD (ifBlank route.encryptionLayout "packet"),
    "--peer-health"] ++
  (match route.pairChannel with
    | some binding => ["--pair-channel-config", L.encodePair binding]
    | none => []) ++
  (match route.channelGroup with
    | some group => ["--channel-group-config", L.encodeGroup group]
    | none => []) ++
  ((route.parameter "session_batch_bytes").map ("--session-batch-bytes=" ++ ·)).toList ++
  ((route.parameter "session_linger_ms").map ("--session-linger-ms=" ++ ·)).toList ++
  ((route.parameter "session_compression").map ("--session-compression=" ++ ·)).toList ++
  (if route.parameter "session_negotiate" == some "true" && route.channelGroup.isNone then
    ["--session-negotiate"] else []) ++
  (if route.parameter "udp_enabled" == some "true" then ["--udp-ipv4"] else []) ++
  (match route.parameter "allowed_dest_cidrs" with
    | some allowedCidrs =>
      if isBlank allowedCidrs then [] else ["--allow-dest-cidr", allowedCidrs]
    | none => [])

/-- `take(8)` counts characters outside the basic plane twice. -/
def takeUnits : Nat → List Char → List Char
  | _, [] => []
  | n, c :: rest =>
    let units := if c.toNat < 0x10000 then 1 else 2
    if units ≤ n then c :: takeUnits (n - units) rest else []

def tunnelName (route : RouteCandidate) (fallbackName : String) : String :=
  if ! isBlank route.name then route.name
  else if ! isBlank fallbackName then fallbackName
  else "VPN-" ++ String.ofList (takeUnits 8 route.routeId.toList)

def tunnel (route : RouteCandidate) (id : Int) (fallbackName : String) :
    Except Throwable Tunnel := do
  route.checkBindings L
  let transType ← transportFrom (ifBlank route.transport "vyandex")
  route.checkEndpoint L transType
  pure
    { id := id
      name := route.tunnelName fallbackName
      transportType := transType.name
      transportConnPayload := route.payload L transType
      encryptionKey := some route.secretKey
      serverId := (some route.serverId).filter (! isBlank ·)
      managedProfileId := (some route.profileInstanceId).filter (! isBlank ·) }

end RouteCandidate

def routeCandidateToTunnel (L : SyncLibraries) (moment : Moment) (route : RouteCandidate)
    (fallbackName : String) : Prog Throwable FileSystem Tunnel := do
  let tunnel ← Prog.ofExcept (route.tunnel L moment.tunnelId fallbackName)
  ensureLocalKeyFile L.device tunnel

section Tunnel

variable {L : SyncLibraries} {route : RouteCandidate} {id : Int} {fallbackName : String}
  {t : Tunnel}

theorem tunnel_name_id (h : route.tunnel L id fallbackName = .ok t) :
    t.name = route.tunnelName fallbackName ∧ t.id = id := by
  simp only [RouteCandidate.tunnel, bind_eq_ok, pure_eq_ok, Except.ok.injEq] at h
  obtain ⟨-, -, transType, -, -, -, rfl⟩ := h
  exact ⟨rfl, rfl⟩

theorem tunnel_isAvailable (h : route.tunnel L id fallbackName = .ok t)
    (havailable : route.isAvailable = true) : t.isAvailable = true := by
  simp only [RouteCandidate.tunnel, bind_eq_ok, pure_eq_ok, Except.ok.injEq] at h
  obtain ⟨-, -, transType, htransport, -, -, rfl⟩ := h
  rw [Tunnel.isAvailable, TransportType.isAvailableName, TransportType.fromOrNull_name,
    Option.all_some]
  by_cases hblank : isBlank route.transport = true
  · have hdefault : transportFrom "vyandex" = .ok .vyandex := by decide
    rw [RouteCandidate.ifBlank, if_pos hblank, hdefault, Except.ok.injEq] at htransport
    rw [← htransport]
    rfl
  · rw [RouteCandidate.ifBlank, if_neg hblank, transportFrom] at htransport
    rw [RouteCandidate.isAvailable, TransportType.isAvailableName] at havailable
    rcases hraw : TransportType.fromOrNull route.transport with _ | found
    · simp [hraw] at htransport
    · rw [hraw, Except.ok.injEq] at htransport
      rwa [hraw, Option.all_some, htransport] at havailable

theorem routeCandidateToTunnel_exec_iff {moment : Moment} {fs fs' : FileSystem} :
    (routeCandidateToTunnel L moment route fallbackName).exec fs = (.ok t, fs') ↔
      ∃ t₀ key, route.tunnel L moment.tunnelId fallbackName = .ok t₀ ∧
        localKey L.device fs t₀ = .ok key ∧ withLocalKey L.device t₀ key = t ∧
        fs.put (L.device.keyFile t₀.id) key = fs' := by
  rcases htunnel : route.tunnel L moment.tunnelId fallbackName with e | t₀
  · simp [routeCandidateToTunnel, htunnel]
  · rcases hkey : localKey L.device fs t₀ with e | key <;>
      simp [routeCandidateToTunnel, htunnel, ensureLocalKeyFile_exec, hkey]

end Tunnel

end LibreRoute.Sync
