import LibreRoute.Sync.Invitation

/-!
Redeeming an invitation. The request is kept before it is sent, and the
receipt is kept with the candidate and its tunnels before the candidate is
activated, so that a redemption that was cut short is resumed from what
was kept. An invitation is redeemed over SSH, through a document, or, if
it is a bootstrap invitation, with the token it holds.
-/

namespace LibreRoute.Sync

open Lib Tunnels
open Admin (Throwable AdminEnvelope AdminOpResult ServerNode)
open ServerIssuedInvitation (verifyCandidate createRedemption verifyRedemptionReceipt)

structure RedemptionCall where
  /-- The random numbers of the request. -/
  opId : String
  nonce : String
  /-- The document, its profile and secret, the request and the server key, and the answer. -/
  reply : String → String → String → AdminEnvelope → String → Except Throwable AdminEnvelope
  executeAdminEnvelope : AdminEnvelope → ServerNode → AdminOpResult
  /-- When the answer is there, in seconds. -/
  answeredAt : Int
  /-- Whether a host can be reached at a port. -/
  isReachable : String → Int → Bool
  /-- When the tunnels of the candidate are made. -/
  moments : Nat → Moment
  serverNodes : List ServerNode
  getPinnedServerPublicKey : String → Option String

abbrev Redeemed := AdminOpResult × Option Tunnel

def failed (error : String) : Redeemed := (.failure error none, none)

/-- `catch (e: Exception) { Pair(AdminOpResult.Failure(e.message ?: message, e), null) }`. -/
def orFailure {α : Type} (message : String) (result : Redeemed → α) (m : SyncM α) : SyncM α :=
  m.attempt fun e => pure (result (.failure (e.message.getD message) (some e), none))

theorem orFailure_success {message text : String} {m : SyncM Redeemed} {s s' : SyncState}
    {envelope : Option AdminEnvelope} {tunnel : Option Tunnel}
    (h : (orFailure message id m).exec s = (.ok (.success text envelope, tunnel), s')) :
    m.exec s = (.ok (.success text envelope, tunnel), s') := by
  rcases hm : m.exec s with ⟨e | result, t⟩
  · simp [orFailure, hm] at h
  · simpa [orFailure, hm] using h

def orElse (m : SyncM (Option Redeemed)) (next : SyncM Redeemed) : SyncM Redeemed := do
  let result ← m
  match result with
  | some result => pure result
  | none => next

/-- The request that was kept, or a new one. -/
def keptOr (kept : Option AdminEnvelope) (new : SyncM AdminEnvelope) : SyncM AdminEnvelope :=
  match kept with
  | some request => pure request
  | none => new

def SyncState.sent (s : SyncState) (request : AdminEnvelope) : SyncState :=
  { s with redemptions := s.redemptions ++ [request] }

def sendRedemption (request : AdminEnvelope) : SyncM Unit :=
  Prog.modify fun s => s.sent request

section Redemption

variable (L : SyncLibraries) (J : InvitationLibraries) (call : RedemptionCall)

def SyncState.redemptionCheckpoint (s : SyncState) (link : String) :
    Option ClientRedemptionCheckpoint :=
  (s.storage.get (.redemption (L.invitationHash link))).bind Entry.asCheckpoint

def saveRedemptionCheckpoint (record : ClientRedemptionCheckpoint) : SyncM Unit :=
  putEntry (.redemption record.invitationHash) (some (.checkpoint record))

def fallbackRoute (candidate : VerifiedInvitationCandidate) : RouteCandidate :=
  { routeId := candidate.profileId
    name := candidate.name
    url := candidate.documentUrl
    secretKey := candidate.secretKey
    parameters := candidate.parameters
    revision := candidate.revision }

def candidateRoutes (candidate : VerifiedInvitationCandidate) : List RouteCandidate :=
  if ! candidate.routes.isEmpty then candidate.routes.filter RouteCandidate.isAvailable
  else [fallbackRoute candidate]

def prepareCandidateTunnels (candidate : VerifiedInvitationCandidate) : SyncM (List Tunnel) :=
  onFiles (Prog.mapEach (candidateRoutes candidate).zipIdx fun route =>
    routeCandidateToTunnel L (call.moments route.2) route.1 candidate.name)

def enrolledDeviceId (candidate : VerifiedInvitationCandidate) : String :=
  if ! isBlank candidate.deviceId then candidate.deviceId else L.recipient.publicKeyHashHex

def activateVerifiedCandidate (candidate : VerifiedInvitationCandidate) (trustedKey : String)
    (receiptEnv : AdminEnvelope) (preparedTunnels : List Tunnel) : SyncM Redeemed :=
  match preparedTunnels.filter Tunnel.isAvailable with
  | [] => pure (failed "В приглашении нет доступных протоколов")
  | primaryTunnel :: others => do
      saveEnrolledSyncState L (enrolledDeviceId L candidate) candidate.userId candidate.profileId
        candidate.documentUrl candidate.secretKey candidate.revision trustedKey candidate.routes
      let c ← Prog.read SyncState.activeSyncContext
      updateManagedTunnels L c (primaryTunnel :: others)
      pure (.success "Приглашение успешно подтверждено и погашено на сервере" (some receiptEnv),
        some primaryTunnel)

abbrev activated (receiptEnv : AdminEnvelope) (primaryTunnel : Tunnel) : Redeemed :=
  (.success "Приглашение успешно подтверждено и погашено на сервере" (some receiptEnv),
    some primaryTunnel)

/-- Activates what was kept, and notes when that has succeeded. -/
def activateCheckpoint (record : ClientRedemptionCheckpoint)
    (candidate : VerifiedInvitationCandidate) (receipt : AdminEnvelope) : SyncM Redeemed := do
  let activated ← activateVerifiedCandidate L candidate record.serverKey receipt record.tunnels
  Prog.when activated.1.isSuccess (saveRedemptionCheckpoint { record with completed := true })
  pure activated

def keepCandidate (link trustedKey : String) (request receipt : AdminEnvelope)
    (candidate : VerifiedInvitationCandidate) : SyncM ClientRedemptionCheckpoint := do
  let tunnels ← prepareCandidateTunnels L call candidate
  let checkpoint : ClientRedemptionCheckpoint :=
    { invitationHash := L.invitationHash link
      request := request
      serverKey := trustedKey
      receipt := some receipt
      candidate := some candidate
      tunnels := tunnels }
  saveRedemptionCheckpoint checkpoint
  pure checkpoint

def completedRedemption (link : String) : SyncM (Option Redeemed) :=
  orFailure "Сохранённая квитанция не проверена" some (do
    let record ← Prog.read fun s => s.redemptionCheckpoint L link
    match record.filter (·.completed) with
    | none => pure none
    | some record =>
      match record.receipt with
      | none => pure none
      | some receipt => do
          Prog.require
            (L.platform.verifyServerResponse receipt record.serverKey record.serverKey)
            (.illegalArgument "Сохранённая квитанция недействительна")
          let current ← onStore TunnelStore.load
          let ids := record.tunnels.map (·.id)
          pure (some (.success "Приглашение уже подтверждено; сохранённые маршруты сохранены"
            (some receipt), (current.filter fun t => ids.contains t.id).head?)))

/-- The receipt that was kept answers the request of this device. -/
def keptReceiptFits (record : ClientRedemptionCheckpoint) (receipt : AdminEnvelope) : Bool :=
  receipt.opId == record.request.opId && receipt.profileId == record.request.profileId &&
    L.platform.verifyServerResponse receipt record.serverKey record.serverKey &&
    record.request.sender == L.recipient.publicKeyHashHex

def resumeRedemption (link : String) : SyncM (Option Redeemed) :=
  orFailure "Не удалось восстановить локальные маршруты" some (do
    let completed ← completedRedemption L link
    match completed with
    | some result => pure (some result)
    | none => do
        let record ← Prog.read fun s => s.redemptionCheckpoint L link
        match record with
        | none => pure none
        | some record =>
          match record.candidate, record.receipt with
          | some candidate, some receipt => do
              Prog.require (keptReceiptFits L record receipt) (.illegalArgument
                "Сохранённая квитанция относится к другому устройству или запросу")
              let activated ← activateCheckpoint L record candidate receipt
              pure (some activated)
          | _, _ => pure none)

/-! ### Redemption through a document -/

/-- The request of an earlier attempt, or a new one; it is kept before it is sent. -/
def requestRedemption (link trustedKey : String) (candidate : VerifiedInvitationCandidate) :
    SyncM AdminEnvelope := do
  let record ← Prog.read fun s => s.redemptionCheckpoint L link
  let now ← Prog.read fun s => s.currentTimeMillis / 1000
  let redeemEnv ← keptOr (record.map (·.request))
    (Prog.ofExcept (createRedemption L J call.opId call.nonce candidate now))
  saveRedemptionCheckpoint
    { invitationHash := L.invitationHash link, request := redeemEnv, serverKey := trustedKey }
  pure redeemEnv

def invitationRejected (e : Throwable) : Redeemed :=
  failed ("Не удалось расшифровать или проверить приглашение: " ++ e.message.getD "null")

/-- A verified receipt is kept and the candidate activated, unless the server is checked first
and cannot be reached. -/
def confirmRedemption (link trustedKey : String) (redeemEnv receiptEnv : AdminEnvelope)
    (candidate : VerifiedInvitationCandidate) (unreachable : Option String) : SyncM Redeemed := do
  if ! verifyRedemptionReceipt L J redeemEnv receiptEnv candidate trustedKey call.answeredAt then
    pure (failed "Серверная квитанция о погашении не прошла проверку подписи или ревизии!")
  else do
    let checkpoint ← keepCandidate L call link trustedKey redeemEnv receiptEnv candidate
    match unreachable with
    | some error => pure (failed error)
    | none => activateCheckpoint L checkpoint candidate receiptEnv

def redeemThroughDocument (link trustedKey : String) : SyncM Redeemed := do
  let now ← Prog.read fun s => s.currentTimeMillis / 1000
  match verifyCandidate L J link trustedKey now with
  | .error e => pure (invitationRejected e)
  | .ok candidate => do
      let redeemEnv ← requestRedemption L J call link trustedKey candidate
      sendRedemption redeemEnv
      match call.reply candidate.documentUrl candidate.profileId candidate.secretKey redeemEnv
          trustedKey with
      | .error e =>
        pure (failed ("Не удалось передать подтверждение погашения через документ: " ++
          e.message.getD "null"))
      | .ok receiptEnv =>
        confirmRedemption L J call link trustedKey redeemEnv receiptEnv candidate none

/-- The candidate of a bootstrap invitation comes with the reply, and is bound to the channel
the invitation names. -/
def boundCandidate (invitation : BootstrapInvitation) (response : AdminEnvelope) :
    Except Throwable VerifiedInvitationCandidate := do
  let link ← ServerIssuedInvitation.toLink J response
  let candidate ← verifyCandidate L J link invitation.serverPublicKey call.answeredAt
  require (candidate.deviceId == L.recipient.publicKeyHashHex && ! candidate.routes.isEmpty)
    (Throwable.illegalArgument "Enrollment package recipient mismatch")
  pure { candidate with
    profileId := invitation.profileId
    documentUrl := invitation.documentUrl
    secretKey := "" }

/-- The request of an earlier attempt, or a new one, which is kept under the enrolment too. -/
def requestEnrollment (link : String) (invitation : BootstrapInvitation) : SyncM AdminEnvelope := do
  let record ← Prog.read fun s => s.redemptionCheckpoint L link
  let pending ← Prog.read fun s =>
    (s.storage.get (.pendingEnrollment invitation.enrollmentId)).bind Entry.asEnvelope
  let request ← keptOr (record.map (·.request) <|> pending) (do
    let request ← Prog.ofExcept (invitation.createRequest L call.opId call.nonce)
    putEntry (.pendingEnrollment invitation.enrollmentId) (some (.envelope request))
    pure request)
  saveRedemptionCheckpoint
    { invitationHash := L.invitationHash link
      request := request
      serverKey := invitation.serverPublicKey }
  pure request

def enrol (link : String) : SyncM Redeemed := do
  let now ← Prog.read fun s => s.currentTimeMillis / 1000
  let invitation ← Prog.ofExcept (BootstrapInvitation.parse L J link now)
  let request ← requestEnrollment L call link invitation
  sendRedemption request
  let response ← Prog.ofExcept (call.reply invitation.documentUrl invitation.profileId "" request
    invitation.serverPublicKey)
  Prog.require (response.opId == request.opId && response.profileId == invitation.profileId)
    (.illegalArgument "Enrollment receipt binding mismatch")
  let bound ← Prog.ofExcept (boundCandidate L J call invitation response)
  let checkpoint ← keepCandidate L call link invitation.serverPublicKey request response bound
  let result ← activateCheckpoint L checkpoint bound response
  Prog.when result.1.isSuccess (putEntry (.pendingEnrollment invitation.enrollmentId) none)
  pure result

def redeemBootstrapInvitation (link : String) : SyncM Redeemed :=
  orFailure "Bootstrap activation failed" id
    (orElse (resumeRedemption L link) (enrol L J call link))

def keyNotPinned : Redeemed :=
  failed ("Публичный ключ сервера не закреплён. " ++
    "Сопряжение невозможно без доверенного ключа сервера.")

def redeemInvitationViaDocument (link : String) (trustedServerPublicKeyBase64 : Option String) :
    SyncM Redeemed :=
  if startsWith link BootstrapInvitation.linkStart then redeemBootstrapInvitation L J call link
  else
    orElse (completedRedemption L link) (do
      let pinned ← Prog.read SyncState.pinnedServerKey
      match trustedServerPublicKeyBase64 <|> pinned with
      | none => pure keyNotPinned
      | some trustedKey =>
        orElse (resumeRedemption L link) (redeemThroughDocument L J call link trustedKey))

/-- The server a candidate names, or the only one its routes or its parameters name. -/
def issuerServerId (candidate : VerifiedInvitationCandidate) : String :=
  if ! isBlank candidate.serverId then candidate.serverId
  else
    let ofRoutes := singleOrNull
      (((candidate.routes.map (·.serverId)).filter (! isBlank ·)).eraseDups)
    let ofParameters := (candidate.parameters.lookup "allowed_server_ids").bind fun ids =>
      singleOrNull ((((split ids ',').map trim).filter (! isBlank ·)).eraseDups)
    ((ofRoutes <|> ofParameters).getD "")

def targetServer (serverNode : Option ServerNode) (issuer : String) : Option ServerNode :=
  serverNode <|>
    singleOrNull (call.serverNodes.filter fun node => ! isBlank issuer && node.id == issuer) <|>
      (singleOrNull call.serverNodes).filter fun _ => isBlank issuer

def redeemAt (link trustedKey : String) (candidate : VerifiedInvitationCandidate)
    (target : ServerNode) : SyncM Redeemed := do
  let redeemEnv ← requestRedemption L J call link trustedKey candidate
  sendRedemption redeemEnv
  match call.executeAdminEnvelope redeemEnv target with
  | .failure error _ =>
    pure (failed ("Не удалось передать подтверждение погашения на сервер: " ++ error))
  | .success _ none => pure (failed "Сервер не вернул квитанцию о погашении")
  | .success _ (some receiptEnv) =>
    let unreachable :=
      if call.isReachable target.host target.port then none
      else some ("Pre-flight проверка: сервер " ++ target.host ++ ":" ++ longText target.port ++
        " недоступен")
    confirmRedemption L J call link trustedKey redeemEnv receiptEnv candidate unreachable

def redeemOverSsh (link trustedKey : String) (serverNode : Option ServerNode) :
    SyncM Redeemed := do
  let now ← Prog.read fun s => s.currentTimeMillis / 1000
  match verifyCandidate L J link trustedKey now with
  | .error e => pure (invitationRejected e)
  | .ok candidate =>
    let issuer := issuerServerId candidate
    if serverNode.isNone && ! isBlank candidate.documentUrl then
      redeemInvitationViaDocument L J call link (some trustedKey)
    else if serverNode.any (fun node => ! isBlank issuer && node.id != issuer) then
      pure (failed ("Приглашение выпущено другим сервером: " ++ issuer))
    else
      match targetServer call serverNode issuer with
      | none =>
        pure (failed "Нет однозначного сервера для подтверждения погашения приглашения")
      | some target =>
        if (call.getPinnedServerPublicKey target.id).any (· != trustedKey) then
          pure (failed "Ключ приглашения не совпадает с закреплённым ключом сервера")
        else redeemAt L J call link trustedKey candidate target

def redeemInvitation (link : String) (serverNode : Option ServerNode)
    (trustedServerPublicKeyBase64 : Option String) : SyncM Redeemed :=
  if startsWith link BootstrapInvitation.linkStart then redeemBootstrapInvitation L J call link
  else
    orElse (completedRedemption L link) (do
      let pinned ← Prog.read SyncState.pinnedServerKey
      match trustedServerPublicKeyBase64 <|>
          (serverNode.bind fun node => call.getPinnedServerPublicKey node.id) <|> pinned with
      | none => pure keyNotPinned
      | some trustedKey =>
        orElse (resumeRedemption L link) (redeemOverSsh L J call link trustedKey serverNode))

end Redemption

section Keeping

variable {I : SyncState → Prop} {L : SyncLibraries} {J : InvitationLibraries}
  {call : RedemptionCall} {link key : String} {candidate : VerifiedInvitationCandidate}
  {tunnels : List Tunnel} {receipt : AdminEnvelope}

instance {record : ClientRedemptionCheckpoint} [Overlooks I (.redemption record.invitationHash)] :
    Keeping I (saveRedemptionCheckpoint record) := by
  unfold saveRedemptionCheckpoint
  infer_instance

instance [OfStorage I] : Keeping I (completedRedemption L link) := by
  refine .attempt (.bind fun record => ?_)
  split
  · infer_instance
  · split <;> infer_instance

instance {kept : Option AdminEnvelope} {new : SyncM AdminEnvelope} [h : Keeping I new] :
    Keeping I (keptOr kept new) := by
  unfold keptOr
  split <;> infer_instance

instance [Overlooks I (.redemption (L.invitationHash link))] :
    Keeping I (requestRedemption L J call link key candidate) := by
  unfold requestRedemption
  infer_instance

instance {invitation : BootstrapInvitation} [Overlooks I (.redemption (L.invitationHash link))]
    [Overlooks I (.pendingEnrollment invitation.enrollmentId)] :
    Keeping I (requestEnrollment L call link invitation) := by
  unfold requestEnrollment
  infer_instance

instance [OfStorage I] : Keeping I (prepareCandidateTunnels L call candidate) := by
  unfold prepareCandidateTunnels
  infer_instance

instance [OfStorage I] [∀ c key, Overlooks I (.context c key)] [Overlooks I .syncContexts]
    [Overlooks I .activeSyncContext] :
    Keeping I (activateVerifiedCandidate L candidate key receipt tunnels) := by
  unfold activateVerifiedCandidate
  split <;> infer_instance

end Keeping

end LibreRoute.Sync
