import LibreRoute.Sync.Redemption

/-!
A link with one signed route. It needs no document and no redemption: the
link holds the public key of the server, the compressed route, the
signature of both, and perhaps the private key of the device the route is
bound to.

The tunnel of the route takes the place of a stored one with the same id.
-/

namespace LibreRoute.Sync

open Lib Tunnels
open Admin (Throwable AdminOpResult)
open Admin.Throwable (illegalArgument)

structure ECPublicKey where
  fieldSize : Nat
  affineX : Nat
  affineY : Nat
  deriving DecidableEq, Repr

structure CompactLibraries where
  /-- `KeyFactory.getInstance("EC").generatePublic(X509EncodedKeySpec(bytes))`. -/
  generatePublic : List UInt8 → Except Throwable ECPublicKey
  /-- `Signature.getInstance("SHA256withECDSA")`: the key, the message and the signature. -/
  verify : ECPublicKey → List UInt8 → List UInt8 → Except Throwable Bool
  /-- The bytes of an `InflaterInputStream`. -/
  inflate : List UInt8 → Except Throwable (List UInt8)
  /-- `json.parseToJsonElement(bytes.toString(Charsets.UTF_8))`. -/
  parseToJsonElement : List UInt8 → Except Throwable Json
  /-- `importIdentity(privateKey, publicKey)` into an empty store. -/
  importIdentity : String → String → Except Throwable Unit
  /-- `importIdentity(privateKey, publicKey)` into the store of a fingerprint, and what
  `routeIdentity` gives for that afterwards. -/
  importScoped : String → String → String → Except Throwable RecipientIdentity

/-- `Long.toInt()`. -/
def toInt (n : Int) : Int := n.bmod (2 ^ 32)

namespace CompactRoute

def linkStart : String := "libreroute://invitation?route="

def domain : String := "LibreRoute/compact-route/v2\x00"

def maxLinkLength : Nat := 3500

structure Candidate where
  route : RouteCandidate
  serverKey : String
  privateKey : Option String
  deriving DecidableEq, Repr

def malformed : Throwable := .illegalArgument "Некорректная строка настроек"

/-- `Regex("[A-Za-z0-9_-]+")`. -/
def isToken (text : String) : Bool :=
  ! text.toList.isEmpty && text.toList.all fun c => c.isAlphanum || c == '_' || c == '-'

/-- A length of two bytes and as many bytes, and what comes after them. -/
def part (max : Nat) : List UInt8 → Except Throwable (List UInt8 × List UInt8)
  | high :: low :: rest => do
      let size := high.toNat * 256 + low.toNat
      require (decide (1 ≤ size ∧ size ≤ max) && decide (size ≤ rest.length)) malformed
      pure (rest.take size, rest.drop size)
  | _ => .error (.platform none)

/-- The parts of a link; `signed` is what the signature is for. -/
structure Parts where
  publicKey : List UInt8
  packed : List UInt8
  signed : List UInt8
  signature : List UInt8
  deriving DecidableEq, Repr

def parts (raw : List UInt8) : Except Throwable Parts := do
  match raw with
  | [] => .error (.platform none)
  | version :: input =>
    require (version == 2) (illegalArgument "Обновите приложение для импорта")
    let (publicKey, input) ← part 128 input
    let (packed, input) ← part 1100 input
    let (signature, rest) ← part 80 input
    require rest.isEmpty malformed
    pure { publicKey := publicKey
           packed := packed
           signed := raw.take (raw.length - input.length)
           signature := signature }

/-- The 32 bytes of a coordinate, the high ones first. -/
def coordinate (value : Nat) : List UInt8 :=
  (List.range 32).map fun i => UInt8.ofNat (value / 256 ^ (31 - i))

def canonicalServerKey (key : ECPublicKey) : String :=
  String.ofList (Base64.encode .url false ([4] ++ coordinate key.affineX ++ coordinate key.affineY))

def decodeUrl (text : String) : Except Throwable (List UInt8) :=
  match Base64.decode .url text.toList with
  | some bytes => .ok bytes
  | none => .error (.platform none)

section Parse

variable (L : SyncLibraries) (K : CompactLibraries)

def item (items : List Json) (i : Nat) : Except Throwable Json :=
  match items[i]? with
  | some value => .ok value
  | none => .error (.platform none)

/-- `items[i].jsonPrimitive.content`. -/
def contentAt (items : List Json) (i : Nat) : Except Throwable String := do
  let value ← item items i
  ofJson value.content

/-- `items[i].jsonPrimitive.long`. -/
def longAt (items : List Json) (i : Nat) : Except Throwable Int := do
  let text ← contentAt items i
  match L.toLongOrNull text with
  | some n => pure n
  | none => .error (.platform none)

def readBinding (items : List Json) : Except Throwable PairChannelBinding := do
  let schema ← longAt L items 0
  let pairId ← contentAt items 1
  let laneId ← longAt L items 2
  let leaseId ← contentAt items 3
  let resourceId ← contentAt items 4
  let resourceIdentity ← contentAt items 5
  let resourceGeneration ← longAt L items 6
  let keyRevision ← longAt L items 7
  let packageRevision ← longAt L items 8
  let policyRevision ← longAt L items 9
  let serverId ← contentAt items 10
  let deviceId ← contentAt items 11
  let deviceFingerprint ← contentAt items 12
  let devicePublicKey ← contentAt items 13
  pure { schema := toInt schema
         pairId := pairId
         laneId := toInt laneId
         leaseId := leaseId
         resourceId := resourceId
         resourceIdentity := resourceIdentity
         resourceGeneration := resourceGeneration
         keyRevision := keyRevision
         packageRevision := packageRevision
         policyRevision := policyRevision
         serverId := serverId
         deviceId := deviceId
         deviceFingerprint := deviceFingerprint
         devicePublicKey := devicePublicKey }

def unpack (packed : List UInt8) : Except Throwable (List Json) := do
  let unpacked ← K.inflate packed
  require (decide (unpacked.length ≤ 8192))
    (illegalArgument "Настройки превышают допустимый размер")
  let element ← K.parseToJsonElement unpacked
  ofJson element.jsonArray

def isRoomOf (url : String) (binding : PairChannelBinding) : Except Throwable Bool :=
  match L.links.javaUri url with
  | none => .error (.platform none)
  | some uri =>
    match uri.path with
    | none => .error (.platform none)
    | some path => pure ((split path '/')[2]? == some binding.resourceIdentity)

def readRoute (items : List Json) (binding : PairChannelBinding) :
    Except Throwable RouteCandidate := do
  let name ← contentAt items 1
  let url ← contentAt items 2
  let secretKey ← contentAt items 3
  let fits ← andThen (decide (length name ≤ 200) && matchesHex 64 secretKey &&
    ServiceRouteEndpoint.isValid L.links .jazz url) (isRoomOf L url binding)
  require fits (illegalArgument "Некорректные настройки комнаты Jazz")
  pure { routeId := binding.pairId
         serverId := binding.serverId
         transport := "jazz"
         name := name
         url := url
         secretKey := secretKey
         codec := "batched"
         encryptionLayout := "batch"
         pairChannel := some binding }

def readPrivateKey (pieces : List String) (binding : PairChannelBinding) :
    Except Throwable (Option String) :=
  match pieces[1]? with
  | none => pure none
  | some piece => do
      let bytes ← decodeUrl piece
      let privateKey := String.ofList (Base64.encode .standard true bytes)
      K.importIdentity privateKey binding.devicePublicKey
      pure (some privateKey)

/-- What `parse` reads of a link before it looks at the times. -/
structure Header where
  pieces : List String
  parts : Parts
  key : ECPublicKey
  items : List Json
  binding : PairChannelBinding
  issued : Int
  expires : Int

def header (link : String) : Except Throwable Header := do
  require (startsWith link linkStart && decide (length link ≤ maxLinkLength)) malformed
  let pieces := split (removePrefix link linkStart) '.'
  require (decide (1 ≤ pieces.length ∧ pieces.length ≤ 2) && pieces.all isToken) malformed
  let raw ← decodeUrl (pieces.headD "")
  let p ← parts raw
  let key ← K.generatePublic p.publicKey
  require (key.fieldSize == 256) (illegalArgument "Некорректный ключ сервера")
  let verified ← K.verify key (domain.toUTF8.toList ++ p.signed) p.signature
  require verified (illegalArgument "Подпись настроек не подтверждена")
  let items ← unpack K p.packed
  let jazz ← andThen (items.length == 7) (do
    let transport ← contentAt items 0
    pure (transport == "jazz"))
  require jazz (illegalArgument "Нужна конфигурация одного протокола Jazz")
  let fourth ← item items 4
  let bound ← ofJson fourth.jsonArray
  require (bound.length == 14) (illegalArgument "Некорректная конфигурация Jazz")
  let binding ← readBinding L bound
  binding.validate L binding.serverId binding.deviceFingerprint binding.devicePublicKey false
  let issued ← longAt L items 5
  let expires ← longAt L items 6
  pure { pieces := pieces
         parts := p
         key := key
         items := items
         binding := binding
         issued := issued
         expires := expires }

/-- What comes after the times. -/
def Header.candidate (pinned : String → Option String) (h : Header) :
    Except Throwable Candidate := do
  let serverKey := canonicalServerKey h.key
  let encodedDerServerKey := String.ofList (Base64.encode .standard true h.parts.publicKey)
  require
    ((pinned h.binding.serverId).all fun pin => pin == serverKey || pin == encodedDerServerKey)
    (illegalArgument "Ключ сервера изменился")
  let route ← readRoute L h.items h.binding
  let privateKey ← readPrivateKey K h.pieces h.binding
  pure { route := route
         serverKey := serverKey
         privateKey := privateKey }

def parse (link : String) (now : Int) (pinned : String → Option String) :
    Except Throwable Candidate := do
  let h ← header L K link
  require (decide (h.issued ≤ long (now + 60)) && decide (now < h.expires) &&
      decide (h.issued < h.expires) && decide (long (h.expires - h.issued) ≤ 900))
    (illegalArgument "Срок импорта настроек истёк")
  h.candidate L K pinned

end Parse

end CompactRoute

/-! ### Import -/

section Import

variable (L : SyncLibraries) (K : CompactLibraries) (call : RedemptionCall)

/-- `setPinnedServerPublicKey(key, serverId)`; the key of the first server is pinned for all. -/
def setPinnedServerPublicKey (key serverId : String) : SyncM Unit := do
  Prog.when (! isBlank serverId)
    (Prog.write fun s => { s with serverKeys := (serverId, key) :: s.serverKeys })
  let legacy ← Prog.read SyncState.pinnedServerKey
  Prog.when (isNullOrBlank legacy) (Prog.write fun s => { s with pinnedServerKey := some key })

/-- The libraries when the identity of a candidate is imported. -/
def withIdentity (candidate : CompactRoute.Candidate) (binding : PairChannelBinding) :
    Except Throwable SyncLibraries :=
  match candidate.privateKey with
  | none => pure L
  | some encoded => do
      let identity ← K.importScoped binding.deviceFingerprint encoded binding.devicePublicKey
      pure { L with
        routeIdentity := Function.update L.routeIdentity binding.deviceFingerprint identity }

def readCompactRoute (link : String) (now : Int) :
    Except Throwable (CompactRoute.Candidate × PairChannelBinding × SyncLibraries) := do
  let candidate ← CompactRoute.parse L K link now call.getPinnedServerPublicKey
  match candidate.route.pairChannel with
  | none => .error (.illegalState "В строке отсутствует привязка Jazz")
  | some binding => do
      let L' ← withIdentity L K candidate binding
      let identity := L'.routeIdentity binding.deviceFingerprint
      binding.validate L' binding.serverId identity.publicKeyHashHex identity.publicKeyBase64 false
      pure (candidate, binding, L')

def importCompactRoute (link : String) : SyncM Redeemed :=
  orFailure "Некорректная строка настроек Jazz" id (do
    let now ← Prog.read fun s => s.currentTimeMillis / 1000
    let (candidate, binding, L') ← Prog.ofExcept (readCompactRoute L K call link now)
    let existing ← onStore TunnelStore.load
    let tunnel ← onFiles (routeCandidateToTunnel L' (call.moments 0) candidate.route "")
    onStore (TunnelStore.save (existing.filter (·.id != tunnel.id) ++ [tunnel]))
    setPinnedServerPublicKey candidate.serverKey binding.serverId
    pure (.success "Настройки Jazz импортированы" none, some tunnel))

variable {L K call} {link : String} {s s' : SyncState}

theorem CompactRoute.parse_transport {now : Int} {pinned : String → Option String}
    {candidate : Candidate} (h : parse L K link now pinned = .ok candidate) :
    candidate.route.transport = "jazz" := by
  simp only [parse, Header.candidate, bind_eq_ok, pure_eq_ok, Except.ok.injEq] at h
  obtain ⟨_, -, -, -, -, -, route, hroute, _, -, rfl⟩ := h
  simp only [readRoute, bind_eq_ok, pure_eq_ok, Except.ok.injEq] at hroute
  obtain ⟨_, -, _, -, _, -, _, -, -, -, rfl⟩ := hroute
  rfl

theorem readCompactRoute_isAvailable {now : Int} {candidate : CompactRoute.Candidate}
    {binding : PairChannelBinding} {L' : SyncLibraries}
    (h : readCompactRoute L K call link now = .ok (candidate, binding, L')) :
    candidate.route.isAvailable = true := by
  have hjazz : candidate.route.transport = "jazz" := by
    rw [readCompactRoute, bind_eq_ok] at h
    obtain ⟨candidate', hparse, hrest⟩ := h
    split at hrest
    · cases hrest
    · simp only [bind_eq_ok, pure_eq_ok, Except.ok.injEq, Prod.mk.injEq] at hrest
      obtain ⟨_, -, _, -, rfl, -⟩ := hrest
      exact CompactRoute.parse_transport hparse
  rw [RouteCandidate.isAvailable, hjazz]
  decide

theorem setPinnedServerPublicKey_leaves_store (key serverId : String) :
    (setPinnedServerPublicKey key serverId).Leaves SyncState.store := by
  unfold setPinnedServerPublicKey
  exact Keeping.leaves

theorem importCompactRoute_stored {message : String} {envelope : Option Admin.AdminEnvelope}
    {tunnel : Option Tunnel}
    (h : (importCompactRoute L K call link).exec s =
      (.ok (.success message envelope, tunnel), s')) :
    ∃ candidate binding L' t,
      readCompactRoute L K call link (s.currentTimeMillis / 1000) = .ok (candidate, binding, L') ∧
      ((routeCandidateToTunnel L' (call.moments 0) candidate.route "").exec s.files).1 = .ok t ∧
      tunnel = some t ∧
      s'.store.stored = (connections s.store.stored).filter (·.id != t.id) ++ [t] := by
  have hdone := orFailure_success h
  simp only [exec_bind_eq_ok, exec_read, exec_ofExcept, Prod.mk.injEq, Except.ok.injEq] at hdone
  obtain ⟨_, _, ⟨rfl, rfl⟩, ⟨candidate, binding, L'⟩, _, ⟨hread, rfl⟩, existing, s₁, hload, t, s₂,
    hmade, _, s₃, hsave, _, s₄, hpin, hpure⟩ := hdone
  rw [onStore_exec, TunnelStore.load_exec, Prod.mk.injEq, Except.ok.injEq] at hload
  obtain ⟨rfl, rfl⟩ := hload
  rw [onFiles_exec, Prod.mk.injEq] at hmade
  obtain ⟨hmade, rfl⟩ := hmade
  rw [onStore_exec, TunnelStore.save_exec, Prod.mk.injEq] at hsave
  obtain ⟨-, rfl⟩ := hsave
  rw [exec_pure, Prod.mk.injEq, Except.ok.injEq, Prod.mk.injEq] at hpure
  obtain ⟨⟨-, rfl⟩, rfl⟩ := hpure
  refine ⟨candidate, binding, L', t, hread, hmade, rfl, ?_⟩
  rw [(setPinnedServerPublicKey_leaves_store _ _).of_exec hpin]
  refine List.filter_eq_self.2 fun u hu => ?_
  rcases List.mem_append.1 hu with hu | hu
  · exact isAvailable_of_mem_connections (List.mem_filter.1 hu).1
  · obtain ⟨t₀, key, htunnel, -, rfl, -⟩ := routeCandidateToTunnel_exec_iff.1
      (Prod.ext hmade rfl : _ = (Except.ok t, _))
    rw [List.mem_singleton.1 hu, withLocalKey_isAvailable]
    exact tunnel_isAvailable htunnel (readCompactRoute_isAvailable hread)

end Import

end LibreRoute.Sync
