import LibreRoute.Sync.Reply

/-!
Invitations: how the device reads one, the request that redeems it, and the
receipt that confirms the redemption.

An invitation is a response the server has signed. It holds the candidate
encrypted for one device. A bootstrap invitation holds a token, and the
candidate comes with the reply to it.
-/

namespace LibreRoute.Sync

open Lib Tunnels
open Admin (Throwable AdminEnvelope)
open Admin.Throwable (illegalArgument)

structure IssueData where
  profileId : String
  invitationId : String
  expiresAt : Int
  revision : Int
  ephemeralPub : String
  nonce : String
  encryptedPayload : String
  deriving DecidableEq, Repr

structure IssueResponse where
  opId : String
  status : String
  data : IssueData
  deriving DecidableEq, Repr

structure InvitationPlaintext where
  invitationId : String
  profileId : String
  name : String
  url : String
  secretKey : String
  transport : String := ""
  serverId : String := ""
  codec : String := "batched"
  encryptionLayout : String := "packet"
  parameters : List (String × String) := []
  revision : Int
  issuedTime : Int
  expiresAt : Int
  recipientPubSha256 : String
  deviceId : String := ""
  userId : String := ""
  routes : List RouteCandidate := []
  deriving DecidableEq, Repr

structure RedeemRequest where
  invitationId : String
  recipientPub : String
  revision : Int
  deriving DecidableEq, Repr

structure RedeemData where
  invitationId : String
  profileId : String
  revision : Int
  deriving DecidableEq, Repr

structure RedeemResponse where
  opId : String
  status : String
  data : RedeemData
  deriving DecidableEq, Repr

/-- What reading an invitation takes from outside. A text stands for the bytes of its Base64. -/
structure InvitationLibraries where
  /-- How many bytes a text stands for. -/
  decodedSize : String → Except Throwable Nat
  decodeEnvelope : String → Except Throwable AdminEnvelope
  decodeIssueResponse : String → Except Throwable IssueResponse
  /-- `recipientCrypto.decrypt(ephemeralPublicKey, nonce, encryptedPayload)`. -/
  decrypt : String → String → String → Except Throwable String
  /-- `json.decodeFromString<InvitationPlaintext>(..)` of the decrypted text. -/
  decodePlaintext : String → Except Throwable InvitationPlaintext
  decodeRedeemRequest : String → Except Throwable RedeemRequest
  decodeRedeemResponse : String → Except Throwable RedeemResponse
  encodeRedeemRequest : RedeemRequest → String
  /-- `AdminEnvelope.fromJson` of the body of a bootstrap link. -/
  decodeBootstrap : String → Except Throwable (Option AdminEnvelope)
  /-- `Base64.getUrlEncoder().withoutPadding()` of `response.toJson()`. -/
  encodeEnvelope : AdminEnvelope → String

/-- `a && b`, where the second condition is looked at if the first one holds. -/
def andThen (a : Bool) (b : Except Throwable Bool) : Except Throwable Bool :=
  if a then b else pure false

section Invitation

variable (L : SyncLibraries) (J : InvitationLibraries)

def parseUri (text : String) : Except Throwable JavaUri :=
  match L.links.javaUri text with
  | some uri => .ok uri
  | none => .error (.platform none)

def isHttps (uri : JavaUri) : Bool :=
  uri.scheme == some "https" && ! isNullOrBlank uri.host && uri.rawUserInfo.isNone

/-! ### Invitations of the server -/

namespace ServerIssuedInvitation

def linkStart : String := "libreroute://invitation?data="

def maxEnvelopeBytes : Nat := 32 * 1024

def toLink (response : AdminEnvelope) : Except Throwable String := do
  require (response.subtype == AdminEnvelope.subtypeResponse)
    (illegalArgument "Not an invitation response")
  pure (linkStart ++ J.encodeEnvelope response)

def bodyOf (link : String) : String :=
  String.ofList (link.toList.drop linkStart.toList.length)

/-- The response a link carries, if the server whose key is trusted has signed it just now. -/
def openLink (link trustedServerPublicKeyBase64 : String) (nowSeconds : Int) :
    Except Throwable AdminEnvelope := do
  require (startsWithIgnoreCase link linkStart)
    (illegalArgument "Unsupported invitation link")
  let encoded := bodyOf link
  require (! isBlank encoded && decide (length encoded < maxEnvelopeBytes * 2) &&
      ! contains encoded "&")
    (illegalArgument "Invalid invitation link")
  let size ← J.decodedSize encoded
  require (decide (size ≤ maxEnvelopeBytes))
    (illegalArgument "Invitation response is too large")
  let envelope ← J.decodeEnvelope encoded
  require (envelope.ver == 1 && envelope.type == AdminEnvelope.typeAdmin &&
      envelope.subtype == AdminEnvelope.subtypeResponse && envelope.sender == "server")
    (illegalArgument "Invalid server response type")
  require (decide (nowSeconds < envelope.exp ∧ envelope.exp ≤ nowSeconds + 15 * 60 + 60))
    (illegalArgument "Server response has expired or has an invalid clock")
  require (L.platform.verifyServerResponse envelope trustedServerPublicKeyBase64
      trustedServerPublicKeyBase64)
    (illegalArgument "Server signature does not match the trusted key")
  pure envelope

/-- The text that is encrypted for this device, if it agrees with the response around it. -/
def openPayload (envelope : AdminEnvelope) (nowSeconds : Int) :
    Except Throwable InvitationPlaintext := do
  let response ← J.decodeIssueResponse envelope.payload
  require (response.status == "applied" && ! isBlank response.opId &&
      response.opId == response.data.invitationId && ! isBlank response.data.profileId &&
      ! isBlank envelope.profileId)
    (illegalArgument "Invitation response does not match its envelope")
  let raw ← J.decrypt response.data.ephemeralPub response.data.nonce response.data.encryptedPayload
  let plain ← J.decodePlaintext raw
  require (plain.invitationId == response.opId && plain.profileId == response.data.profileId &&
      plain.expiresAt == response.data.expiresAt && plain.revision == response.data.revision &&
      equalsIgnoreCase plain.recipientPubSha256 L.recipient.publicKeyHashHex)
    (illegalArgument "Invitation is addressed to another device or profile")
  require (decide (plain.issuedTime ≤ nowSeconds + 60 ∧ nowSeconds < plain.expiresAt ∧
      1 ≤ plain.expiresAt - plain.issuedTime ∧ plain.expiresAt - plain.issuedTime ≤ 900))
    (illegalArgument "Invitation has expired")
  require (decide (0 < plain.revision) && decide (16 ≤ length plain.secretKey) &&
      ! isBlank plain.name)
    (illegalArgument "Invitation profile is incomplete")
  let url ← parseUri L plain.url
  require (isHttps url) (illegalArgument "Invitation document URL is invalid")
  pure plain

/-- The routes of an invitation; one that names none has the route of its profile. -/
def resolvedRoutes (plain : InvitationPlaintext) : List RouteCandidate :=
  if ! plain.routes.isEmpty then plain.routes
  else
    [{ routeId := plain.profileId
       serverId := plain.serverId
       transport := RouteCandidate.ifBlank plain.transport
         ((plain.parameters.lookup "transport").getD "vyandex")
       profileInstanceId := plain.profileId
       name := plain.name
       url := plain.url
       secretKey := plain.secretKey
       codec := plain.codec
       encryptionLayout := plain.encryptionLayout
       parameters := plain.parameters
       revision := plain.revision
       status := "ready" }]

def checkRoute (r : RouteCandidate) : Except Throwable Unit := do
  match r.channelGroup with
  | none => pure ()
  | some group =>
    let fits ← andThen (r.transport == "channel-group") (do
      let endpoint ← group.endpoint
      pure (r.url == endpoint && r.pairChannel.isNone && matchesHex 64 r.secretKey &&
        r.codec == "batched"))
    require fits (illegalArgument "Некорректная конфигурация объединённых каналов")
    group.validate L r.serverId L.recipient.publicKeyHashHex L.recipient.publicKeyBase64
  require (r.transport != "channel-group" || r.channelGroup.isSome)
    (illegalArgument "Отсутствует выданная конфигурация каналов")
  match r.pairChannel with
  | none => pure ()
  | some binding =>
    require (r.transport == "jazz" && matchesHex 64 r.secretKey && r.codec == "batched")
      (illegalArgument "Некорректная конфигурация Jazz V2")
    binding.validate L r.serverId L.recipient.publicKeyHashHex L.recipient.publicKeyBase64 false
  require (! isBlank r.name) (illegalArgument "Route name is missing")
  if isBlank r.url then pure ()
  else
    let transport ← transportFrom (RouteCandidate.ifBlank r.transport "vyandex")
    let validEndpoint ←
      if transport = .mqtt ∨ transport = .jitsi ∨ transport = .jazz then
        pure (ServiceRouteEndpoint.isValid L.links transport r.url)
      else isHttps <$> parseUri L r.url
    require validEndpoint (illegalArgument "Route endpoint is invalid")

def checkRoutes : List RouteCandidate → Except Throwable Unit
  | [] => pure ()
  | r :: routes => do
      checkRoute L r
      checkRoutes routes

def candidateOf (plain : InvitationPlaintext) : VerifiedInvitationCandidate :=
  { invitationId := plain.invitationId
    profileId := plain.profileId
    name := plain.name
    documentUrl := plain.url
    secretKey := plain.secretKey
    parameters := plain.parameters
    revision := plain.revision
    issuedAt := plain.issuedTime
    expiresAt := plain.expiresAt
    deviceId := plain.deviceId
    userId := plain.userId
    serverId := plain.serverId
    routes := resolvedRoutes plain }

def verifyCandidate (link trustedServerPublicKeyBase64 : String) (nowSeconds : Int) :
    Except Throwable VerifiedInvitationCandidate := do
  let envelope ← openLink L J link trustedServerPublicKeyBase64 nowSeconds
  let plain ← openPayload L J envelope nowSeconds
  checkRoutes L (resolvedRoutes plain)
  pure (candidateOf plain)

def signed (envelope : AdminEnvelope) : AdminEnvelope :=
  { envelope with signature := L.signCanonical envelope.canonicalSigningString }

def signRedeemEnvelope (envelope : AdminEnvelope) : Except Throwable AdminEnvelope := do
  require (envelope.sender == L.recipient.publicKeyHashHex)
    (illegalArgument "Recipient identity mismatch")
  pure (signed L envelope)

def subtypeInvitationRedeem : String := "ADMIN_INVITATION_REDEEM"

def redemptionEnvelope (opId nonce : String) (candidate : VerifiedInvitationCandidate)
    (nowSeconds : Int) : AdminEnvelope where
  subtype := subtypeInvitationRedeem
  profileId := candidate.profileId
  opId := opId
  rev := candidate.revision
  exp := min (nowSeconds + 300) candidate.expiresAt
  sender := L.recipient.publicKeyHashHex
  nonce := nonce
  payload := J.encodeRedeemRequest
    { invitationId := candidate.invitationId
      recipientPub := L.recipient.publicKeyBase64
      revision := candidate.revision }

def createRedemption (opId nonce : String) (candidate : VerifiedInvitationCandidate)
    (nowSeconds : Int) : Except Throwable AdminEnvelope := do
  require (decide (nowSeconds < candidate.expiresAt))
    (illegalArgument "Invitation has expired")
  signRedeemEnvelope L (redemptionEnvelope L J opId nonce candidate nowSeconds)

/-- The payloads of a request and of a receipt speak of the candidate. -/
def receiptFits (request receipt : AdminEnvelope) (candidate : VerifiedInvitationCandidate) :
    Except Throwable Bool := do
  let redeemed ← J.decodeRedeemRequest request.payload
  let response ← J.decodeRedeemResponse receipt.payload
  pure (redeemed.invitationId == candidate.invitationId &&
    redeemed.recipientPub == L.recipient.publicKeyBase64 &&
    redeemed.revision == candidate.revision &&
    response.opId == request.opId && response.status == "verified" &&
    response.data.invitationId == candidate.invitationId &&
    response.data.profileId == candidate.profileId &&
    response.data.revision == candidate.revision)

def verifyRedemptionReceipt (request receipt : AdminEnvelope)
    (candidate : VerifiedInvitationCandidate) (trustedServerPublicKeyBase64 : String)
    (nowSeconds : Int) : Bool :=
  if request.ver != 1 || request.type != AdminEnvelope.typeAdmin ||
      request.subtype != subtypeInvitationRedeem ||
      request.profileId != candidate.profileId || request.rev != candidate.revision ||
      request.sender != L.recipient.publicKeyHashHex || decide (request.exp ≤ nowSeconds) ||
      receipt.ver != 1 || receipt.type != AdminEnvelope.typeAdmin ||
      receipt.subtype != AdminEnvelope.subtypeResponse || receipt.sender != "server" ||
      receipt.profileId != candidate.profileId || receipt.rev != long (request.rev + 1) ||
      decide (receipt.exp ≤ nowSeconds) || decide (nowSeconds + 24 * 3600 < receipt.exp) ||
      decide (candidate.expiresAt ≤ nowSeconds) ||
      ! L.platform.verifyServerResponse receipt trustedServerPublicKeyBase64
        trustedServerPublicKeyBase64 then false
  else (receiptFits L J request receipt candidate).toOption.getD false

/-! ### What is accepted -/

section Accepted

variable {L J} {link key : String} {now : Int}
  {envelope : AdminEnvelope} {plain : InvitationPlaintext}
  {candidate : VerifiedInvitationCandidate}

structure Carries (J : InvitationLibraries) (link : String) (envelope : AdminEnvelope) : Prop where
  start : startsWithIgnoreCase link linkStart = true
  body : (! isBlank (bodyOf link) && decide (length (bodyOf link) < maxEnvelopeBytes * 2) &&
    ! contains (bodyOf link) "&") = true
  size : ∃ size, J.decodedSize (bodyOf link) = .ok size ∧ decide (size ≤ maxEnvelopeBytes) = true
  decoded : J.decodeEnvelope (bodyOf link) = .ok envelope
  type : (envelope.ver == 1 && envelope.type == AdminEnvelope.typeAdmin &&
    envelope.subtype == AdminEnvelope.subtypeResponse && envelope.sender == "server") = true

theorem openLink_eq_ok_iff :
    openLink L J link key now = .ok envelope ↔
      Carries J link envelope ∧
        (now < envelope.exp ∧ envelope.exp ≤ now + 15 * 60 + 60) ∧
        L.platform.verifyServerResponse envelope key key = true := by
  simp only [openLink, bind_eq_ok, require_eq_ok, pure_eq_ok, Except.ok.injEq, decide_eq_true_eq]
  constructor
  · rintro ⟨-, hstart, -, hbody, size, hsize, -, hmax, e, he, -, htype, -, hclock, -, hverify, rfl⟩
    exact ⟨⟨hstart, hbody, ⟨size, hsize, decide_eq_true hmax⟩, he, htype⟩, hclock, hverify⟩
  · rintro ⟨⟨hstart, hbody, ⟨size, hsize, hmax⟩, he, htype⟩, hclock, hverify⟩
    exact ⟨(), hstart, (), hbody, size, hsize, (), of_decide_eq_true hmax, envelope, he, (), htype,
      (), hclock, (), hverify, rfl⟩

structure Holds (L : SyncLibraries) (J : InvitationLibraries) (envelope : AdminEnvelope)
    (plain : InvitationPlaintext) : Prop where
  decoded : ∃ response, J.decodeIssueResponse envelope.payload = .ok response ∧
    (response.status == "applied" && ! isBlank response.opId &&
      response.opId == response.data.invitationId && ! isBlank response.data.profileId &&
      ! isBlank envelope.profileId) = true ∧
    (∃ raw, J.decrypt response.data.ephemeralPub response.data.nonce
        response.data.encryptedPayload = .ok raw ∧ J.decodePlaintext raw = .ok plain) ∧
    (plain.invitationId == response.opId && plain.profileId == response.data.profileId &&
      plain.expiresAt == response.data.expiresAt && plain.revision == response.data.revision &&
      equalsIgnoreCase plain.recipientPubSha256 L.recipient.publicKeyHashHex) = true
  complete : (decide (0 < plain.revision) && decide (16 ≤ length plain.secretKey) &&
    ! isBlank plain.name) = true
  url : ∃ url, parseUri L plain.url = .ok url ∧ isHttps url = true

theorem openPayload_eq_ok_iff :
    openPayload L J envelope now = .ok plain ↔
      Holds L J envelope plain ∧
        (plain.issuedTime ≤ now + 60 ∧ now < plain.expiresAt ∧
          1 ≤ plain.expiresAt - plain.issuedTime ∧ plain.expiresAt - plain.issuedTime ≤ 900) := by
  simp only [openPayload, bind_eq_ok, require_eq_ok, pure_eq_ok, Except.ok.injEq, decide_eq_true_eq]
  constructor
  · rintro ⟨response, hresponse, -, happlied, raw, hraw, p, hp, -, hfits, -, hclock, -, hcomplete,
      url, hurl, -, hhttps, rfl⟩
    exact ⟨⟨⟨response, hresponse, happlied, ⟨raw, hraw, hp⟩, hfits⟩, hcomplete,
      ⟨url, hurl, hhttps⟩⟩, hclock⟩
  · rintro ⟨⟨⟨response, hresponse, happlied, ⟨raw, hraw, hp⟩, hfits⟩, hcomplete,
      ⟨url, hurl, hhttps⟩⟩, hclock⟩
    exact ⟨response, hresponse, (), happlied, raw, hraw, plain, hp, (), hfits, (), hclock, (),
      hcomplete, url, hurl, (), hhttps, rfl⟩

theorem verifyCandidate_eq_ok_iff :
    verifyCandidate L J link key now = .ok candidate ↔
      ∃ envelope plain, openLink L J link key now = .ok envelope ∧
        openPayload L J envelope now = .ok plain ∧
        checkRoutes L (resolvedRoutes plain) = .ok () ∧ candidate = candidateOf plain := by
  simp only [verifyCandidate, bind_eq_ok, pure_eq_ok, Except.ok.injEq]
  constructor
  · rintro ⟨envelope, hlink, plain, hpayload, ⟨⟩, hroutes, rfl⟩
    exact ⟨envelope, plain, hlink, hpayload, hroutes, rfl⟩
  · rintro ⟨envelope, plain, hlink, hpayload, hroutes, rfl⟩
    exact ⟨envelope, hlink, plain, hpayload, (), hroutes, rfl⟩

def redemptionOf (L : SyncLibraries) (J : InvitationLibraries) (opId nonce : String)
    (candidate : VerifiedInvitationCandidate) (now : Int) : AdminEnvelope :=
  signed L (redemptionEnvelope L J opId nonce candidate now)

theorem createRedemption_eq_ok_iff {opId nonce : String} {request : AdminEnvelope} :
    createRedemption L J opId nonce candidate now = .ok request ↔
      now < candidate.expiresAt ∧ request = redemptionOf L J opId nonce candidate now := by
  simp only [createRedemption, signRedeemEnvelope, redemptionEnvelope, bind_eq_ok, require_eq_ok,
    pure_eq_ok, Except.ok.injEq, decide_eq_true_eq, beq_self_eq_true]
  constructor
  · rintro ⟨-, hlive, -, -, rfl⟩
    exact ⟨hlive, rfl⟩
  · rintro ⟨hlive, rfl⟩
    exact ⟨(), hlive, (), trivial, rfl⟩

/-- The receipt is a response the server has signed to the request. -/
structure Responds (L : SyncLibraries) (key : String) (candidate : VerifiedInvitationCandidate)
    (request receipt : AdminEnvelope) : Prop where
  type : receipt.ver = 1 ∧ receipt.type = AdminEnvelope.typeAdmin ∧
    receipt.subtype = AdminEnvelope.subtypeResponse ∧ receipt.sender = "server"
  profileId : receipt.profileId = candidate.profileId
  rev : receipt.rev = long (request.rev + 1)
  verified : L.platform.verifyServerResponse receipt key key = true

/-- The request is one this device has made for the candidate. -/
def IsRequest (L : SyncLibraries) (request : AdminEnvelope)
    (candidate : VerifiedInvitationCandidate) : Prop :=
  request.ver = 1 ∧ request.type = AdminEnvelope.typeAdmin ∧
    request.subtype = subtypeInvitationRedeem ∧ request.profileId = candidate.profileId ∧
    request.rev = candidate.revision ∧ request.sender = L.recipient.publicKeyHashHex

theorem verifyRedemptionReceipt_iff {request receipt : AdminEnvelope} :
    verifyRedemptionReceipt L J request receipt candidate key now = true ↔
      IsRequest L request candidate ∧ Responds L key candidate request receipt ∧
        receiptFits L J request receipt candidate = .ok true ∧ now < request.exp ∧
          (now < receipt.exp ∧ receipt.exp ≤ now + 24 * 3600) ∧
        now < candidate.expiresAt := by
  have hfits : (receiptFits L J request receipt candidate).toOption.getD false = true ↔
      receiptFits L J request receipt candidate = .ok true := by
    rcases receiptFits L J request receipt candidate with e | b
    · simp [Except.toOption]
    · simp [Except.toOption]
  have hcases : ∀ {c r : Bool}, (if c = true then false else r) = true ↔ c = false ∧ r = true := by
    intro c r
    cases c <;> simp
  unfold verifyRedemptionReceipt
  rw [hcases, hfits]
  simp only [Bool.or_eq_false_iff, bne_eq_false_iff_eq, decide_eq_false_iff_not, Int.not_le,
    Int.not_lt, Bool.not_eq_false', and_assoc]
  constructor
  · rintro ⟨hver, htype, hsubtype, hprofile, hrev, hsender, hlive, rver, rtype, rsubtype, rsender,
      rprofile, rrev, rlive, rclock, clive, rverify, hfits⟩
    exact ⟨⟨hver, htype, hsubtype, hprofile, hrev, hsender⟩,
      ⟨⟨rver, rtype, rsubtype, rsender⟩, rprofile, rrev, rverify⟩, hfits, hlive, rlive, rclock,
      clive⟩
  · rintro ⟨⟨hver, htype, hsubtype, hprofile, hrev, hsender⟩,
      ⟨⟨rver, rtype, rsubtype, rsender⟩, rprofile, rrev, rverify⟩, hfits, hlive, rlive, rclock,
      clive⟩
    exact ⟨hver, htype, hsubtype, hprofile, hrev, hsender, hlive, rver, rtype, rsubtype, rsender,
      rprofile, rrev, rlive, rclock, clive, rverify, hfits⟩

end Accepted
end ServerIssuedInvitation

/-! ### Bootstrap invitations -/

structure BootstrapInvitation where
  enrollmentId : String
  token : String
  profileId : String
  documentUrl : String
  serverPublicKey : String
  expiresAt : Int
  deriving DecidableEq, Repr

namespace BootstrapInvitation

def linkStart : String := "libreroute://invitation?bootstrap="

/-- `Regex("[A-Za-z0-9_-]{43}")`. -/
def isToken (text : String) : Bool :=
  text.toList.all (fun c => c.isAlphanum || c == '_' || c == '-') && text.toList.length == 43

def field (data : JsonObject) (key : String) : Except Throwable String := do
  let value ← ofJson (data.getValue key)
  ofJson value.content

/-- The address of a document of the one service that carries bootstrap invitations. -/
def isDocument (uri : JavaUri) : Except Throwable Bool :=
  andThen (uri.scheme == some "https" && uri.host == some "docs.yandex.ru" &&
      uri.rawUserInfo.isNone && uri.port == -1)
    (match uri.path with
      | none => .error (.platform none)
      | some path =>
        pure (startsWith path "/edit/d/" && uri.rawQuery.isNone && uri.fragment.isNone))

def parse (link : String) (now : Int) : Except Throwable BootstrapInvitation := do
  require (startsWith link linkStart && decide (length link < 48 * 1024))
    (illegalArgument "Некорректное bootstrap приглашение")
  let decoded ← J.decodeBootstrap (removePrefix link linkStart)
  let envelope ←
    match decoded with
    | some envelope => pure envelope
    | none => Except.error (Throwable.illegalState "Некорректный конверт приглашения")
  let payload ← L.platform.decodePayload envelope.payload
  let body ← ofJson payload.jsonObject
  let dataValue ← ofJson (body.getValue "data")
  let data ← ofJson dataValue.jsonObject
  let pub ← field data "server_public_key"
  let confirmed ← andThen (envelope.type == AdminEnvelope.typeAdmin &&
      envelope.subtype == AdminEnvelope.subtypeResponse && envelope.sender == "server" &&
      decide (now < envelope.exp)) (do
    let opId ← ofJson (body.contentOf "op_id")
    andThen (opId == some envelope.opId) (do
      let status ← ofJson (body.contentOf "status")
      pure (status == some "applied" && L.platform.verifyServerResponse envelope pub pub)))
  require confirmed (illegalArgument "Подпись приглашения не подтверждена")
  let expiresText ← field data "expires_at"
  let expires ←
    match L.toLongOrNull expiresText with
    | some expires => pure expires
    | none => Except.error (Throwable.platform none)
  let document ← field data "document_url"
  let uri ← parseUri L document
  let profileId ← field data "control_profile_id"
  let inForce ← andThen (envelope.profileId == profileId) (do
    let enrollmentId ← field data "enrollment_id"
    andThen (! isBlank enrollmentId && decide (now < expires ∧ expires ≤ now + 15 * 60)) (do
      let token ← field data "token"
      andThen (isToken token) (isDocument uri)))
  require inForce (illegalArgument "Приглашение истекло или канал некорректен")
  let enrollmentId ← field data "enrollment_id"
  let token ← field data "token"
  pure { enrollmentId := enrollmentId
         token := token
         profileId := profileId
         documentUrl := document
         serverPublicKey := pub
         expiresAt := expires }

def createRequest (opId nonce : String) (invitation : BootstrapInvitation) :
    Except Throwable AdminEnvelope :=
  ServerIssuedInvitation.signRedeemEnvelope L
    { subtype := "ADMIN_ENROLLMENT_REDEEM"
      profileId := invitation.profileId
      sender := L.recipient.publicKeyHashHex
      opId := opId
      rev := 1
      exp := invitation.expiresAt
      nonce := nonce
      payload := L.platform.encodePayload
        [("enrollment_id", invitation.enrollmentId), ("token", invitation.token),
          ("public_key", L.recipient.publicKeyBase64)] }

end BootstrapInvitation

end Invitation

end LibreRoute.Sync
