import LibreRoute.Sync.Managed

/-!
Synchronising a context: the signed request, what is read out of the
signed reply, and what is done about it.

Reading the reply changes nothing and is a function of its own; it ends in
a `SyncVerdict`. The contexts are synchronised one after the other, and
their results are combined into one.
-/

namespace LibreRoute.Sync

open Lib Tunnels
open Admin (Throwable AdminEnvelope)

inductive RouteSyncResult
  | unchanged (revision lastCheckedAt : Int)
  | updated (newRevision : Int) (routes : List Tunnel)
  | revoked
  | failed (error : String)
  deriving DecidableEq

def RouteSyncResult.isFailed : RouteSyncResult → Bool
  | .failed _ => true
  | _ => false

structure SyncCall where
  /-- The random numbers of the request. -/
  opId : String
  nonce : String
  /-- The document, its profile and secret, the request and the server key, and the answer. -/
  reply : String → String → String → AdminEnvelope → String → Except Throwable AdminEnvelope
  /-- When the tunnels of the reply are made. -/
  moments : Nat → Moment

inductive SyncVerdict
  | failed (error : String)
  /-- The last check is less than ten seconds old. -/
  | recent (revision lastCheckedAt : Int)
  | revoked
  | unchanged (revision now : Int)
  | updated (revision now : Int) (routes : List RouteCandidate)
  deriving DecidableEq

section Verdict

variable (L : SyncLibraries)

def orFailed {α : Type} (value : Option α) (error : String)
    (k : α → Except Throwable SyncVerdict) : Except Throwable SyncVerdict :=
  match value with
  | some a => k a
  | none => .ok (.failed error)

def ofJson {α : Type} (result : Except JsonError α) : Except Throwable α :=
  result.mapError (Throwable.json · none)

def syncRequest (call : SyncCall) (deviceId profileId : String) (currentRev now : Int) :
    AdminEnvelope :=
  let env : AdminEnvelope :=
    { ver := 1
      type := AdminEnvelope.typeAdmin
      subtype := "ADMIN_COMMAND"
      profileId := profileId
      opId := call.opId
      rev := currentRev
      exp := now / 1000 + 300
      sender := L.recipient.publicKeyHashHex
      nonce := call.nonce
      payload := L.platform.encodePayload
        [("op", "sync-routes"), ("device_id", deviceId),
          ("expected_revision", longText currentRev)] }
  { env with signature := L.signCanonical env.canonicalSigningString }

/-- The status a reply gives, where the one among the data comes first. -/
def replyVerdict (deviceId opId : String) (currentRev now : Int) (payload : String) :
    Except Throwable SyncVerdict := do
  let response ← L.platform.decodePayload payload
  let respObj ← ofJson response.jsonObject
  let status := (← ofJson (respObj.contentOf "status")).getD ""
  let dataObj ←
    match respObj.get "data" with
    | none => pure none
    | some data => some <$> ofJson data.jsonObject
  let field (key : String) : Except Throwable (Option String) :=
    match dataObj with
    | none => pure none
    | some data => ofJson (data.contentOf key)
  let replyOpId ← ofJson (respObj.contentOf "op_id")
  let replyDevice ← if replyOpId == some opId then field "device_id" else pure none
  if replyOpId != some opId || replyDevice.any (· != deviceId) then
    pure (.failed "Ответ синхронизации относится к другому устройству или операции")
  else
    let syncStatus := (← field "status").getD status
    match syncStatus with
    | "revoked" => pure .revoked
    | "unchanged" => pure (.unchanged currentRev now)
    | "updated" => do
        let newRev := ((← field "revision").bind L.toLongOrNull).getD (currentRev + 1)
        if newRev < currentRev then pure (.failed "Отклонена устаревшая ревизия маршрутов")
        else
          let routesList ←
            match dataObj.bind (JsonObject.get · "routes") with
            | some rawRoutes => L.decodeRoutes rawRoutes
            | none => pure []
          pure (.updated newRev now routesList)
    | other => pure (.failed ("Неизвестный статус синхронизации: " ++ other))

/-- Asks the server and reads its reply. -/
def syncVerdict (call : SyncCall) (force : Bool) (c : String) (s : SyncState) :
    Except Throwable SyncVerdict :=
  orFailed (s.text c .deviceId) "Устройство не зарегистрировано для получения маршрутов"
    fun deviceId =>
  orFailed (s.text c .profileId) "Отсутствует ID профиля синхронизации" fun profileId =>
  orFailed (s.text c .docUrl) "Отсутствует URL документа синхронизации" fun docUrl =>
  orFailed (s.text c .secretKey) "Отсутствует секретный ключ" fun secretKey =>
  let currentRev := s.getLong c .revision 1
  orFailed (s.text c .trustedServerKey <|> s.pinnedServerKey) "Публичный ключ сервера не найден"
    fun trustedServerKey =>
  let lastCheckedAt := s.getLong c .lastCheckedAt 0
  let now := s.currentTimeMillis
  if ! force && decide (now - lastCheckedAt < 10000) then .ok (.recent currentRev lastCheckedAt)
  else
    let signedEnv := syncRequest L call deviceId profileId currentRev now
    match call.reply docUrl profileId secretKey signedEnv trustedServerKey with
    | .error e =>
      .ok (.failed ("Ошибка синхронизации через документ: " ++ e.message.getD "null"))
    | .ok receiptEnv =>
      if ! L.platform.verifyServerResponse receiptEnv trustedServerKey trustedServerKey then
        .ok (.failed "Серверная подпись ответа синхронизации недействительна")
      else if receiptEnv.opId != signedEnv.opId || receiptEnv.profileId != profileId then
        .ok (.failed "Ответ синхронизации относится к другому профилю или запросу")
      else replyVerdict L deviceId signedEnv.opId currentRev now receiptEnv.payload

end Verdict

/-! ### Acting on the reply -/

def stopActiveTunnelIfManaged (managedIdsToStop : List Int) : SyncM Bool := do
  let selectedId ← Prog.read fun s => s.store.getSelectedId
  if selectedId.any managedIdsToStop.contains then do
    Prog.modify fun s => { s with vpnStopped := true }
    pure true
  else pure false

/-- The ids of the tunnels, by route; a later route of the same id counts. -/
def stableId (oldRoutes : List RouteCandidate) (oldIds : List Int) (routeId : String) :
    Option Int :=
  ((oldRoutes.map (·.routeId)).zip oldIds).reverse.lookup routeId

def makeTunnels (L : SyncLibraries) (moments : Nat → Moment) (oldId : String → Option Int) :
    Nat → List RouteCandidate → Prog Throwable FileSystem (List Tunnel)
  | _, [] => pure []
  | n, route :: routes => do
      let tunnel ← routeCandidateToTunnel L (moments n) route ""
      let others ← makeTunnels L moments oldId (n + 1) routes
      pure ({ tunnel with id := (oldId route.routeId).getD tunnel.id } :: others)

/-- The selected tunnel is among the new ones as it was. -/
def stillPresent (loaded newTunnels : List Tunnel) (selectedId : Int) : Bool :=
  match loaded.find? (·.id == selectedId) with
  | none => false
  | some activeTunnel =>
    newTunnels.any fun t =>
      (t.id == selectedId || t.name == activeTunnel.name) &&
        t.transportConnPayload == activeTunnel.transportConnPayload &&
        t.encryptionKey == activeTunnel.encryptionKey

/-- A managed tunnel that is selected and goes away is disconnected. -/
def stopReplacedTunnel (oldManagedIds : List Int) (newTunnels : List Tunnel) : SyncM Unit := do
  let selectedId ← Prog.read fun s => s.store.getSelectedId
  match selectedId.filter oldManagedIds.contains with
  | none => pure ()
  | some selectedId => do
      let loaded ← onStore TunnelStore.load
      Prog.when (! stillPresent loaded newTunnels selectedId) (do
        let _ ← stopActiveTunnelIfManaged [selectedId]
        pure ())

/-- The tunnels of the context are replaced before its revision and its routes are. -/
def publish (L : SyncLibraries) (c : String) (oldManagedIds : List Int) (newRev now : Int)
    (routesList : List RouteCandidate) (newTunnels : List Tunnel) : SyncM RouteSyncResult := do
  stopReplacedTunnel oldManagedIds newTunnels
  updateManagedTunnels L c newTunnels
  putEntry (.context c .revision) (some (.number newRev))
  putEntry (.context c .lastCheckedAt) (some (.number now))
  putEntry (.context c .routesJson) (some (.routes (routesList.filter RouteCandidate.isAvailable)))
  pure (.updated newRev newTunnels)

def madeOf (L : SyncLibraries) (c : String) (s : SyncState) (moments : Nat → Moment)
    (routesList : List RouteCandidate) : Prog Throwable FileSystem (List Tunnel) :=
  makeTunnels L moments (stableId (s.routes c) (s.managedTunnelIds c)) 0
    (routesList.filter RouteCandidate.isAvailable)

def applyUpdate (L : SyncLibraries) (moments : Nat → Moment) (c : String) (newRev now : Int)
    (routesList : List RouteCandidate) : SyncM RouteSyncResult := do
  let oldManagedIds ← Prog.read fun s => s.managedTunnelIds c
  let making ← Prog.read fun s => madeOf L c s moments routesList
  let newTunnels ← onFiles making
  publish L c oldManagedIds newRev now routesList newTunnels

def syncRouteContext (L : SyncLibraries) (call : SyncCall) (force : Bool) (c : String) :
    SyncM RouteSyncResult := do
  let result ← Prog.read (syncVerdict L call force c)
  let verdict ← Prog.ofExcept result
  match verdict with
  | .failed error => pure (.failed error)
  | .recent revision lastCheckedAt => pure (.unchanged revision lastCheckedAt)
  | .revoked => do
      let managed ← Prog.read fun s => s.managedTunnelIds c
      let _ ← stopActiveTunnelIfManaged managed
      updateManagedTunnels L c []
      clearSyncContext c
      pure .revoked
  | .unchanged revision now => do
      putEntry (.context c .lastCheckedAt) (some (.number now))
      pure (.unchanged revision now)
  | .updated revision now routes => applyUpdate L call.moments c revision now routes

def updates (results : List RouteSyncResult) : List (Int × List Tunnel) :=
  results.filterMap fun
    | .updated revision routes => some (revision, routes)
    | _ => none

/-- Failures come first, then updates, then revocations. -/
def combine (results : List RouteSyncResult) : RouteSyncResult :=
  match results.find? RouteSyncResult.isFailed with
  | some failed => failed
  | none =>
    match updates results with
    | update :: others =>
      .updated (others.foldl (fun revision u => max revision u.1) update.1)
        ((update :: others).flatMap Prod.snd)
    | [] =>
      if results.any (· == .revoked) then .revoked
      else results.getLastD .revoked

def syncContext (L : SyncLibraries) (calls : String → SyncCall) (force : Bool) (c : String) :
    SyncM RouteSyncResult := do
  let result ← (syncRouteContext L (calls c) force c).runCatching
  match result with
  | .ok result => pure result
  | .error e => pure (.failed (e.message.getD "Не удалось применить маршруты"))

def syncRoutes (L : SyncLibraries) (calls : String → SyncCall) (force : Bool) :
    SyncM RouteSyncResult := do
  let contexts ← Prog.read SyncState.syncContexts
  if contexts.isEmpty then
    pure (.failed "Устройство не зарегистрировано для получения маршрутов")
  else do
    let results ← Prog.mapEach contexts (syncContext L calls force)
    pure (combine results)

section Keeping

variable {I : SyncState → Prop} {L : SyncLibraries} {c : String} {tunnels : List Tunnel}
  {ids : List Int} [OfStorage I]

instance : Keeping I (stopActiveTunnelIfManaged ids) := by
  have hstop : Maintains I fun s => { s with vpnStopped := true } :=
    ⟨fun s => OfStorage.congr s.store s.files true⟩
  unfold stopActiveTunnelIfManaged
  infer_instance

instance : Keeping I (stopReplacedTunnel ids tunnels) := by
  unfold stopReplacedTunnel
  refine .bind fun selectedId => ?_
  split <;> infer_instance

instance : Keeping I (saveManagedTunnels L c tunnels) := by
  unfold saveManagedTunnels
  infer_instance

instance [Overlooks I (.context c .managedTunnelIds)] :
    Keeping I (updateManagedTunnels L c tunnels) := by
  unfold updateManagedTunnels
  infer_instance

instance {rev now : Int} {routes : List RouteCandidate} [∀ key, Overlooks I (.context c key)] :
    Keeping I (publish L c ids rev now routes tunnels) := by
  unfold publish
  infer_instance

instance {call : SyncCall} {force : Bool} [∀ key, Overlooks I (.context c key)]
    [Overlooks I .syncContexts] [Overlooks I .activeSyncContext] :
    Keeping I (syncRouteContext L call force c) := by
  unfold syncRouteContext applyUpdate
  refine .bind fun _ => .bind fun verdict => ?_
  cases verdict <;> infer_instance

end Keeping

end LibreRoute.Sync
