import LibreRoute.Admin.Trust

/-!
Installing a server over SSH and recovering its owner.

An operation is a durable intent with a stage. The installer's receipt is
checked against it, and is stored with it before anything local is changed, so
that what it confers can be projected again after a restart.

What the installer and the network answer is a `ServerInstallationBackend`.
Updates through the update coordinator, and the snapshot a probe may read in
passing, are not part of the model.
-/

namespace LibreRoute.Admin

open LibreRoute.Lib

variable {P : Platform}

structure ServerInstallationBackend where
  probeServer : ServerNode → Except Throwable ServerInventory
  plan : ServerNode → ServerInventory → (operationId : String) → Except Throwable JsonObject
  install : ServerNode → ServerInventory → (operationId documentUrl : String) → AdminEnvelope →
    (pairingCode : String) → (expectedPlan : JsonObject) → (ownerRecovery : Bool) →
    Except Throwable JsonObject
  status : ServerNode → (operationId : String) → Except Throwable JsonObject
  rollback : ServerNode → (operationId : String) → Except Throwable JsonObject
  recoverOwner : ServerNode → ServerInventory → (operationId documentUrl : String) →
    AdminEnvelope → (pairingCode : String) → (expectedPlan : JsonObject) →
    Except Throwable JsonObject
  authorizeAdministrator : ServerNode → ServerInventory → (operationId documentUrl : String) →
    AdminEnvelope → (pairingCode : String) → (expectedPlan : JsonObject) →
    Except Throwable JsonObject
  /-- `AdminDocumentClaimClient.resolveDocumentUrl`. -/
  resolveDocumentUrl : String → Except Throwable String

/-- `obj[name]?.jsonPrimitive?.content`, with the exception it may throw. -/
def jsonField (o : JsonObject) (name : String) : Except Throwable (Option String) :=
  (JsonObject.contentOf o name).mapError (Throwable.json · none)

/-- `obj.getValue(name).jsonPrimitive.content`. -/
def jsonValue (o : JsonObject) (name : String) : Except Throwable String :=
  ((JsonObject.getValue o name).bind Json.content).mapError (Throwable.json · none)

namespace AdminState

def loadServerInstallation (s : AdminState P) (operationId : String) :
    Option ServerInstallOperation :=
  s.installationOperations.find? (·.operationId == operationId)

def storedOperations (s : AdminState P) : List ServerInstallOperation :=
  ((s.storage.get (.fixed .installOperations)).bind Stored.asInstallOperations).getD []

end AdminState

/-- What is serialised of an operation: the secrets of its node are transient. -/
def ServerInstallOperation.serialized (operation : ServerInstallOperation) :
    ServerInstallOperation :=
  { operation with node := operation.node.serialized }

def persistInstallationOperations : AdminM P Unit := do
  let operations ← Prog.read fun s => s.installationOperations
  putString (.fixed .installOperations)
    (.installOperations (operations.map ServerInstallOperation.serialized))

/-- The list with the operation in place of the one with its id, or at the end. -/
def putOperation (list : List ServerInstallOperation) (operation : ServerInstallOperation) :
    List ServerInstallOperation :=
  match list.findIdx? (·.operationId == operation.operationId) with
  | some index => list.set index operation
  | none => list ++ [operation]

def saveServerInstallation (operation : ServerInstallOperation) : AdminM P Unit := do
  Prog.modify fun s =>
    { s with installationOperations := putOperation s.installationOperations operation }
  persistInstallationOperations

/-! ### Plans -/

def ServerNode.probed (serverNode : ServerNode) (inv : ServerInventory) (millis : Int) :
    ServerNode :=
  if inv.probeError.isNone then
    { serverNode with
      inventory := some inv
      managementNamespace := serverNode.managementNamespace <|> singleOrNull inv.managedNamespaces
      status := .online
      lastSeenAt := millis }
  else { serverNode with inventory := some inv, status := .unknown }

def probeServer (backend : ServerInstallationBackend) (serverNode : ServerNode) :
    AdminM P ServerInventory := do
  let inv ← Prog.ofExcept (backend.probeServer serverNode)
  let millis ← Prog.read fun s => s.currentTimeMillis
  updateServerNode (serverNode.probed inv millis)
  pure inv

def documentSessionKey (profileId serverId : String) : StorageKey :=
  .keyed .documentSession (serverId ++ ":" ++ profileId)

def AdminState.storedSession (s : AdminState P) (key : StorageKey) : Option DocumentSessionKeys :=
  (s.storage.get key).bind Stored.asSession

/-- `"node-" + id.replace("-", "").take(32)`. -/
def ServerNode.defaultNamespace (node : ServerNode) : String :=
  "node-" ++ String.ofList ((node.id.toList.filter (· != '-')).take 32)

def AdminState.plannedOperation (s : AdminState P) (saved : ServerNode) (operationId : String)
    (plan : JsonObject) : Except Throwable ServerInstallOperation := do
  let planned ← jsonField plan "namespace"
  let namespaceName := planned.getD (saved.managementNamespace.getD saved.defaultNamespace)
  let controlProfile ← jsonField plan "control_profile_id"
  let profile := (controlProfile.filter (!isBlank ·) <|>
    (s.getActiveGrant (some saved.id)).map (·.profileId)).getD ("control-" ++ namespaceName)
  let planHash ← jsonField plan "plan_hash"
  match planHash with
  | none => throw (.illegalState "План не содержит контрольной суммы")
  | some planHash =>
    return {
      operationId := operationId
      serverId := saved.id
      namespaceName := namespaceName
      node := saved
      expectedPlan := plan
      planHash := planHash
      profileId := profile
      deviceId := P.getFingerprint
      previousGrantEnvelope := s.storedEnvelope (.keyed .activeGrantEnvelope saved.id)
      previousDocumentSession := s.storedSession (documentSessionKey profile saved.id) <|>
        s.storedSession (.keyed .documentSession saved.id)
      updatedAt := s.currentTimeMillis }

def storeNewPlan (backend : ServerInstallationBackend) (saved : ServerNode)
    (inventory : ServerInventory) (operationId : String) : AdminM P JsonObject := do
  let plan ← Prog.ofExcept (backend.plan saved inventory operationId)
  let planned ← Prog.read fun s => s.plannedOperation saved operationId plan
  let operation ← Prog.ofExcept planned
  saveServerInstallation operation
  pure plan

def planServerInstallation (backend : ServerInstallationBackend) (node : ServerNode)
    (operationId : String) : AdminM P JsonObject := do
  let inventory ← probeServer backend node
  Prog.require inventory.probeError.isNone (.illegalArgument "SSH-опрос не завершён")
  let saved ← Prog.read fun s => (s.getServerNode node.id).getD node
  let prior ← Prog.read fun s =>
    (s.loadServerInstallation operationId).filter (!isBlank ·.planHash)
  match prior with
  | some prior => do
      Prog.require (prior.serverId == node.id && prior.stage == .planned)
        (.illegalArgument "Предыдущую операцию необходимо проверить; повторная установка запрещена")
      pure prior.expectedPlan
  | none => storeNewPlan backend saved inventory operationId

/-- `plan["owner_device_ids"]` is a list that is not empty. -/
def hasOwnerDevices (plan : JsonObject) : Bool :=
  match JsonObject.get plan "owner_device_ids" with
  | some (.array (_ :: _)) => true
  | _ => false

def checkRecoveryPlan (plan : JsonObject) : Except Throwable Unit := do
  let mode ← jsonField plan "mode"
  require (mode == some "update")
    (.illegalArgument "Восстановление владельца допустимо только для существующей установки")
  let key ← jsonField plan "server_public_key"
  require (!isNullOrBlank key && hasOwnerDevices plan)
    (.illegalArgument
      "SSH-план не содержит проверенной идентичности и владельцев для восстановления")

def prepareOwnerRecovery (backend : ServerInstallationBackend) (node : ServerNode)
    (operationId : String) (preserveOwners : Bool) : AdminM P (Except Throwable JsonObject) :=
  Prog.runCatching do
    let plan ← planServerInstallation backend node operationId
    Prog.ofExcept (checkRecoveryPlan plan)
    let saved ← Prog.read fun s => s.loadServerInstallation operationId
    let operation ← Prog.getOrThrow saved (.illegalState "План не сохранён")
    saveServerInstallation
      { operation with
        kind := .ownerRecovery, ownerRecovery := true, preserveOwners := preserveOwners }
    pure plan

/-! ### The identity of a server that is already installed -/

def planNames (plan : JsonObject) (serverId namespaceName serverPublicKey : String) : Bool :=
  (jsonField plan "server_id").toOption == some (some serverId) &&
    (jsonField plan "namespace").toOption == some (some namespaceName) &&
    (jsonField plan "server_public_key").toOption == some (some serverPublicKey)

/-- The node that is bound, once the identity is the one of a reviewed plan. -/
def AdminState.checkIdentityBinding (s : AdminState P) (localNodeId confirmedServerId
    confirmedNamespace confirmedServerPublicKey : String) : Except Throwable ServerNode := do
  require (!isBlank confirmedServerId && !isBlank confirmedNamespace &&
      !isBlank confirmedServerPublicKey)
    (.illegalArgument "Сверьте server_id, namespace и публичный ключ сервера перед привязкой")
  match s.getServerNode localNodeId with
  | none => throw (.illegalState "SSH-узел не найден")
  | some old =>
    let reviewed := s.installationOperations.reverse.find? fun operation =>
      operation.serverId == localNodeId && operation.stage == .planned &&
        planNames operation.expectedPlan confirmedServerId confirmedNamespace
          confirmedServerPublicKey
    match reviewed with
    | none => throw (.illegalState
        "Идентичность должна совпадать с сохранённым планом, полученным через доверенный SSH")
    | some reviewed =>
      require (reviewed.node.host == old.host && reviewed.node.port == old.port &&
          reviewed.node.hostPublicKey == old.hostPublicKey)
        (.illegalArgument "SSH-подключение изменилось после проверки плана")
      return old

def AdminState.checkMigration (s : AdminState P) (old : ServerNode) (confirmedServerId
    confirmedNamespace : String) : Except Throwable Unit := do
  require (isNullOrBlank old.managementNamespace ||
      old.managementNamespace == some confirmedNamespace)
    (.illegalArgument "Namespace SSH-узла не совпадает с подтверждённым сервером")
  require ((s.getServerNode confirmedServerId).all fun collision =>
      collision.host == old.host && collision.port == old.port)
    (.illegalArgument "Подтверждённый server_id уже связан с другим SSH-адресом")

def copyCredential (oldRef newRef suffix : String) : AdminM P Unit := do
  let value ← Prog.read fun s => s.sshCredentials (oldRef ++ suffix)
  putCredentialIfSet (newRef ++ suffix) value

def ServerInstallOperation.bound (operation : ServerInstallOperation) (localNodeId : String)
    (migrated : ServerNode) (confirmedNamespace : String) (millis : Int) :
    ServerInstallOperation :=
  if operation.serverId != localNodeId then operation
  else
    { operation with
      serverId := migrated.id
      namespaceName := confirmedNamespace
      node := migrated
      identityBindingConfirmed := true
      priorLocalNodeId := some localNodeId
      profileId :=
        (((jsonField operation.expectedPlan "control_profile_id").toOption.getD none).filter
          (!isBlank ·)).getD operation.profileId
      updatedAt := millis }

def migrateServerIdentity (old : ServerNode) (localNodeId confirmedServerId confirmedNamespace
    confirmedServerPublicKey : String) : AdminM P ServerNode := do
  let checked ← Prog.read fun s => s.checkMigration old confirmedServerId confirmedNamespace
  Prog.ofExcept checked
  let migrated :=
    { old with id := confirmedServerId, managementNamespace := some confirmedNamespace }
  let current ← Prog.read fun s => s.serverNodes
  let nodes := current.filter (fun it => it.id != localNodeId && it.id != confirmedServerId) ++
    [migrated]
  copyCredential (old.credentialRef.getD ("ssh_" ++ localNodeId)) migrated.credentialName
    "_password"
  copyCredential (old.credentialRef.getD ("ssh_" ++ localNodeId)) migrated.credentialName
    "_passphrase"
  Prog.modify fun s =>
    { s with
      installationOperations := s.installationOperations.map
        (·.bound localNodeId migrated confirmedNamespace s.currentTimeMillis) }
  persistInstallationOperations
  setPinnedServerPublicKey confirmedServerPublicKey (some confirmedServerId)
  saveServerNodes nodes
  Prog.modify fun s => { s with serverNodes := nodes }
  pure migrated

/-- The identity a node already has is only pinned. -/
def pinServerIdentity (old : ServerNode) (confirmedServerId confirmedServerPublicKey : String) :
    AdminM P ServerNode := do
  let existingPin ← Prog.read fun s => s.getPinnedServerPublicKey (some confirmedServerId)
  Prog.require (existingPin.all (· == confirmedServerPublicKey))
    (.illegalArgument "Ключ сервера изменился")
  setPinnedServerPublicKey confirmedServerPublicKey (some confirmedServerId)
  pure old

def bindExistingServerIdentity (localNodeId confirmedServerId confirmedNamespace
    confirmedServerPublicKey : String) : AdminM P (Except Throwable ServerNode) :=
  Prog.runCatching do
    let checked ← Prog.read fun s =>
      s.checkIdentityBinding localNodeId confirmedServerId confirmedNamespace
        confirmedServerPublicKey
    let old ← Prog.ofExcept checked
    if localNodeId == confirmedServerId then
      pinServerIdentity old confirmedServerId confirmedServerPublicKey
    else
      migrateServerIdentity old localNodeId confirmedServerId confirmedNamespace
        confirmedServerPublicKey

def Platform.issuedEnvelope (P : Platform) (operation : ServerInstallOperation) :
    Option AdminEnvelope := do
  let receipt ← operation.receipt
  let grant ← JsonObject.get receipt "grant"
  P.decodeEnvelope grant

def AdminState.grantIssuedBy (s : AdminState P) (operation : ServerInstallOperation) : Bool :=
  match s.storedEnvelope (.keyed .activeGrantEnvelope operation.serverId),
      P.issuedEnvelope operation with
  | some current, some issued => current.nonce == issued.nonce
  | _, _ => false

def AdminState.previousGrant (s : AdminState P) (operation : ServerInstallOperation) :
    Option (AdminGrant × AdminEnvelope) := do
  let previous ← operation.previousGrantEnvelope
  let previousGrant ← (P.decodeGrant previous.payload).toOption
  let key ← s.getPinnedServerPublicKey (some operation.serverId)
  if previousGrant.serverId != some operation.serverId ||
      !P.validGrantFields s.currentTimeSeconds previous previousGrant key ||
      !P.verifyServerResponse previous key (some key) then none
  else return (previousGrant, previous)

def restoreDocumentSession (operation : ServerInstallOperation) : AdminM P Unit :=
  match operation.previousDocumentSession with
  | none => pure ()
  | some session => do
      putString (documentSessionKey operation.profileId operation.serverId) (.session session)
      putString (.keyed .documentSession operation.serverId) (.session session)

def restoreControlProfile (operation : ServerInstallOperation) : AdminM P Unit := do
  let verified ← Prog.call fun s => s.verifiedGrantForServer (some operation.serverId)
  match verified with
  | none => pure ()
  | some grant => do
      Prog.modify fun s => { s with activeGrant := some grant, role := grant.role }
      let document := (operation.previousDocumentSession.map (·.documentUrl)).getD ""
      let node ← Prog.read fun s => s.getServerNode operation.serverId
      match node with
      | none => pure ()
      | some node => ensureOwnerControlProfile node grant document operation.profileName

def restorePreviousGrant (operation : ServerInstallOperation) : AdminM P Unit := do
  let previous ← Prog.read fun s => s.previousGrant operation
  match previous with
  | none => pure ()
  | some (previousGrant, envelope) => do
      putString (.keyed .activeGrant operation.serverId) (.grant previousGrant)
      putString (.keyed .activeGrantEnvelope operation.serverId) (.envelope envelope)
      putRevokedServerIds fun ids => ids.filter (· != operation.serverId)
      restoreControlProfile operation

def restoreInstallationAccessAfterRollback (operation : ServerInstallOperation) :
    AdminM P Unit := do
  let issued ← Prog.read fun s => s.grantIssuedBy operation
  Prog.when issued do
    removeLocalAdminGrant operation.serverId
    removeString (documentSessionKey operation.profileId operation.serverId)
    removeString (.keyed .documentSession operation.serverId)
    restoreDocumentSession operation
    restorePreviousGrant operation

/-! ### Receipts -/

/-- `field(name) == value`. -/
def fieldIs (response : JsonObject) (name value : String) : Except Throwable Bool := do
  return (← jsonField response name) == some value

/-- `field(name)?.let { it == value } != false`. -/
def fieldIsUnlessAbsent (response : JsonObject) (name value : String) : Except Throwable Bool := do
  return (← jsonField response name).all (· == value)

def receiptStatus (response : JsonObject) : Except Throwable String := do
  match ← jsonField response "status" with
  | some status => return status
  | none => throw (.illegalState "В ответе нет статуса операции")

def missingReceiptMessage : String :=
  "На сервере нет квитанции этой операции. Проверены параметры сервера; " ++
    "результат установки пока не подтверждён."

/-- A receipt that was not found is for this operation, as far as it says. -/
def checkMissingReceipt (operation : ServerInstallOperation) (response : JsonObject) :
    Except Throwable Unit := do
  let same ← fieldIsUnlessAbsent response "operation_id" operation.operationId <&&>
    fieldIsUnlessAbsent response "namespace" operation.namespaceName
  require same (.illegalArgument "SSH-квитанция относится к другой операции")

def reconcileMissing (backend : ServerInstallationBackend) (operation : ServerInstallOperation)
    (response : JsonObject) : AdminM P AdminOpResult := do
  Prog.ofExcept (checkMissingReceipt operation response)
  let _ ← probeServer backend operation.node
  let millis ← Prog.read fun s => s.currentTimeMillis
  saveServerInstallation
    { operation with stage := .unknown, error := some missingReceiptMessage, updatedAt := millis }
  pure (.failure missingReceiptMessage (some (.unknownAdminOperation missingReceiptMessage)))

def checkReceipt (operation : ServerInstallOperation) (response : JsonObject) :
    Except Throwable Unit := do
  let same ← fieldIs response "operation_id" operation.operationId <&&>
    fieldIs response "namespace" operation.namespaceName
  require same (.illegalArgument "SSH-квитанция относится к другой операции")
  let planned ← fieldIs response "plan_hash" operation.planHash
  require planned (.illegalArgument "План операции изменился")

def unfinishedStage (status : String) : InstallStage :=
  if status == "rolled_back" then .rolledBack
  else if status == "recovery_required" then .recoveryRequired
  else .unknown

def reconcileUnfinished (operation : ServerInstallOperation) (response : JsonObject)
    (status : String) : AdminM P AdminOpResult := do
  let serverStage ← Prog.ofExcept (jsonField response "stage")
  let millis ← Prog.read fun s => s.currentTimeMillis
  saveServerInstallation
    { operation with
      stage := unfinishedStage status
      serverStage := serverStage.getD ""
      error := some ("Состояние на сервере: " ++ status)
      updatedAt := millis }
  Prog.when (status == "rolled_back") (restoreInstallationAccessAfterRollback operation)
  if status == "rolled_back" then
    pure (.success "Откат подтверждён; SSH-подключение сохранено" none)
  else
    pure (.failure
      ("Состояние на сервере: " ++ status ++ ". Выполните проверку или восстановление") none)

structure CommittedReceipt where
  join : AdminEnvelope
  envelope : AdminEnvelope
  grant : AdminGrant
  serverKey : String
  document : String

/-- The installation is complete, and leaves other owners alone if that was asked for. -/
def checkReadiness (operation : ServerInstallOperation) (response : JsonObject) :
    Except Throwable Unit := do
  let ready ← fieldIs response "agent_ready" "true" <&&>
    (fieldIs response "ssh_management_ready" "true" <&&>
      fieldIs response "control_profile_ready" "true")
  require ready (.illegalArgument
    "Установка записана, но служба, SSH-управление или профиль администратора не готовы")
  let preserved ← pure (!operation.preserveOwners) <||> fieldIs response "preserve_owners" "true"
  require preserved
    (.illegalArgument "Квитанция не подтверждает сохранение прав других администраторов")

def Platform.receiptGrant (P : Platform) (operation : ServerInstallOperation)
    (response : JsonObject) : Except Throwable (AdminEnvelope × AdminEnvelope × AdminGrant) := do
  match operation.join with
  | none => throw (.illegalState "Локальный запрос установки не найден")
  | some join =>
    let raw ← (JsonObject.getValue response "grant").mapError (Throwable.json · none)
    match P.decodeEnvelope raw with
    | none => throw (.illegalState "Нет подписанного допуска")
    | some envelope =>
      let grant ← P.decodeGrant envelope.payload
      require (grant.serverId == some operation.serverId &&
          grant.profileId == operation.profileId &&
          grant.adminFingerprint == operation.deviceId && envelope.nonce == join.nonce &&
          grant.role == .owner)
        (.illegalArgument
          "Допуск установки относится к другому серверу, устройству или профилю")
      return (join, envelope, grant)

/-- The document of a receipt is the one the operation asked for, or still pending. -/
def checkReceiptDocument (operation : ServerInstallOperation) (response : JsonObject) :
    Except Throwable String := do
  let document := (← jsonField response "document_url").getD ""
  let documentPending ← fieldIs response "document_status" "pending" <&&>
    (pure (isBlank document) <&&> fieldIs response "requested_document_url" operation.documentUrl)
  require (document == operation.documentUrl || documentPending)
    (.illegalArgument "Управляющий документ не совпадает с намерением установки")
  return document

/-- The checks on a committed receipt. A removed right is not restored, unless the
operation recovers an owner. -/
def AdminState.checkCommittedReceipt (s : AdminState P) (operation : ServerInstallOperation)
    (response : JsonObject) : Except Throwable CommittedReceipt := do
  checkReadiness operation response
  let (join, envelope, grant) ← P.receiptGrant operation response
  match ← jsonField response "server_public_key" with
  | none => throw (.illegalState "Нет ключа сервера")
  | some serverKey =>
    require (grant.serverPublicKey == serverKey &&
        P.validGrantFields s.currentTimeSeconds envelope grant serverKey &&
        P.verifyServerResponse envelope serverKey (some serverKey))
      (.illegalArgument "Подпись допуска установки недействительна")
    require ((s.getPinnedServerPublicKey (some operation.serverId)).all (· == serverKey))
      (.illegalArgument "Серверный ключ отличается от закреплённого")
    let document ← checkReceiptDocument operation response
    require (!s.revokedServerIds.contains operation.serverId ||
        (operation.kind == .ownerRecovery && operation.ownerRecovery))
      (.illegalArgument ("Локальный допуск удалён. Запросите новый допуск; " ++
        "прежняя квитанция не восстанавливает отозванные права"))
    return ⟨join, envelope, grant, serverKey, document⟩

def receiptSession (response : JsonObject) (document : String) :
    Except Throwable (Option DocumentSessionKeys) := do
  if isBlank document then return none
  let clientKey ← jsonField response "client_key"
  if isNullOrBlank clientKey then return none
  let serverKey ← jsonField response "server_key"
  if isNullOrBlank serverKey then return none
  return some ⟨clientKey.getD "", serverKey.getD "", document⟩

def putReceiptSession (profileId serverId : String) (session : Option DocumentSessionKeys) :
    AdminM P Unit :=
  match session with
  | none => pure ()
  | some session => do
      putString (.keyed .documentSession serverId) (.session session)
      putString (documentSessionKey profileId serverId) (.session session)

def confirmSshSession (serverId : String) (role : AdminRole) : AdminM P Unit :=
  Prog.modify fun s =>
    { s with
      liveAccess := Function.update s.liveAccess serverId
        (some
          { probeId := ((s.liveAccess serverId).map (·.probeId)).getD 0 + 1
            state := .ready
            role := role })
      sessionAdminChannel := .directSsh }

def putReceiptNode (node : ServerNode) : AdminM P Unit := do
  let known ← Prog.read fun s => s.getServerNode node.id
  if known.isNone then addServerNode node else updateServerNode node

def projectReceipt (confirmed : ServerInstallOperation) (response : JsonObject)
    (receipt : CommittedReceipt) (authenticatedNow : Bool) : AdminM P AdminOpResult := do
  let restored ← Prog.read fun s => s.restoreNodeCredentials confirmed.node
  let node := { restored with managementNamespace := some confirmed.namespaceName }
  putReceiptNode node
  let session ← Prog.ofExcept (receiptSession response receipt.document)
  putReceiptSession receipt.grant.profileId node.id session
  ensureOwnerControlProfile node receipt.grant receipt.document confirmed.profileName
  saveServerInstallation { confirmed with stage := .ready }
  Prog.when authenticatedNow (confirmSshSession node.id receipt.grant.role)
  let documentReady ← Prog.ofExcept (fieldIs response "document_ready" "true")
  pure (.success
    (if documentReady then "Сервер и оба канала проверены; профиль администратора готов"
      else "Сервер и SSH-управление проверены; профиль администратора готов. " ++
        "Документный канал не проверен")
    (some receipt.envelope))

/-- `require(result is AdminOpResult.Success)`. -/
def requireSuccess (result : AdminOpResult) : Except Throwable Unit :=
  match result with
  | .success .. => .ok ()
  | .failure error _ => .error (.illegalArgument error)

def reconcileCommitted (operation : ServerInstallOperation) (response : JsonObject)
    (authenticatedNow : Bool) : AdminM P AdminOpResult := do
  let checked ← Prog.read fun s => s.checkCommittedReceipt operation response
  let receipt ← Prog.ofExcept checked
  let millis ← Prog.read fun s => s.currentTimeMillis
  -- the durable checkpoint, before any local projection
  let confirmed := { operation with
    stage := .serverConfirmed, receipt := some response, error := none, updatedAt := millis }
  saveServerInstallation confirmed
  Prog.modify fun s => { s with pendingRequest := some receipt.join }
  putString (.fixed .pendingRequest) (.envelope receipt.join)
  let fingerprint ← Prog.getOrThrow (P.computeFingerprint receipt.serverKey)
    (.illegalArgument "Required value was null.")
  let result ← importTrustedEnvelope receipt.envelope fingerprint
  Prog.ofExcept (requireSuccess result)
  projectReceipt confirmed response receipt authenticatedNow

def reconcileInstallationReceipt (backend : ServerInstallationBackend)
    (operation : ServerInstallOperation) (response : JsonObject) (authenticatedNow : Bool) :
    AdminM P AdminOpResult := do
  let status ← Prog.ofExcept (receiptStatus response)
  if status == "not_found" then reconcileMissing backend operation response
  else do
    Prog.ofExcept (checkReceipt operation response)
    if status != "committed" then reconcileUnfinished operation response status
    else reconcileCommitted operation response authenticatedNow

/-! ### Carrying an operation out -/

def provisioningProfile (current : Option ManagedProfile) (node : ServerNode) (millis : Int) :
    ManagedProfile :=
  let protocol := node.supportedProtocols.head?.getD "vyandex"
  let base := current.getD
    { id := "admin-control-" ++ node.id
      name := "Администратор — " ++ node.name
      transportType := protocol
      allowedServerIds := [node.id]
      allowedProtocols := [protocol]
      createdAt := millis
      profileType := .control
      role := .none
      serverId := some node.id }
  { base with
    profileType := .control
    serverId := some node.id
    provisioningStatus := "profile provisioning" }

def markOwnerProvisioning (node : ServerNode) : AdminM P Unit := do
  let profiles ← Prog.read fun s => s.managedProfiles
  let millis ← Prog.read fun s => s.currentTimeMillis
  match profiles.findIdx? fun it => it.profileType == .control && it.serverId == some node.id with
  | some index =>
    saveProfiles (profiles.set index (provisioningProfile profiles[index]? node millis))
  | none => saveProfiles (profiles ++ [provisioningProfile none node millis])

/-- The request of an operation: the one it was prepared with, or a new one. -/
def operationJoin (seed : JoinSeed) (operation : ServerInstallOperation) : AdminM P AdminEnvelope :=
  match operation.join with
  | some join => pure join
  | none => do
      let request ← createJoinRequest seed operation.profileId .owner none none
      pure request.1

def Platform.pairingCode (P : Platform) (join : AdminEnvelope) : Except Throwable String := do
  let body ← P.decodePayload join.payload
  let fields ← body.jsonObject.mapError (Throwable.json · none)
  jsonValue fields "one_time_code"

/-- The document that is handed to the installer: the one supplied, or that of the plan. -/
def resolvedDocument (backend : ServerInstallationBackend) (documentUrl : String)
    (approvedPlan : JsonObject) : Except Throwable String := do
  let supplied ←
    if isBlank documentUrl then do return (← jsonField approvedPlan "document_url").getD ""
    else pure documentUrl
  if isBlank supplied then return "" else backend.resolveDocumentUrl supplied

/-- An operation that failed while it was being submitted has an unknown outcome. An
installation is dated anew, a recovery keeps its date. -/
def markUnknown (operationId message : String) (original : ServerInstallOperation)
    (dated : Bool) : AdminM P Unit := do
  let current ← Prog.read fun s => (s.loadServerInstallation operationId).getD original
  let millis ← Prog.read fun s => s.currentTimeMillis
  Prog.when (current.stage == .submitting) (saveServerInstallation
    { current with
      stage := .unknown
      error := some message
      updatedAt := if dated then millis else current.updatedAt })

def checkInstallable (original : ServerInstallOperation) (node : ServerNode) :
    Except Throwable (Option String) := do
  if original.serverId != node.id then return some "План относится к другому серверу"
  let update ← fieldIs original.expectedPlan "mode" "update"
  if update && original.kind != .coreUpdate then
    return some ("Ядро уже установлено. Используйте восстановление прав владельца " ++
      "или отдельное обновление ядра")
  let bound ← pure (!update) <||> fieldIs original.expectedPlan "server_id" node.id
  if !bound then
    return some ("Сначала привяжите SSH-узел к подтверждённому server_id; " ++
      "установка заблокирована")
  if original.stage != .planned then
    return some "Операция уже отправлялась. Проверьте результат через SSH"
  return none

def submitInstallation (backend : ServerInstallationBackend) (seed : JoinSeed) (node : ServerNode)
    (original : ServerInstallOperation) (documentUrl : String) (ownerRecovery : Bool) :
    AdminM P AdminOpResult := do
  let saved ← Prog.read fun s => (s.getServerNode node.id).getD node
  let resolved ← Prog.ofExcept (resolvedDocument backend documentUrl original.expectedPlan)
  let join ← operationJoin seed original
  let pairing ← Prog.ofExcept (P.pairingCode join)
  let inventory ← probeServer backend saved
  Prog.require inventory.probeError.isNone (.illegalArgument "SSH-опрос не завершён")
  Prog.require (original.kind == .coreUpdate ||
      (inventory.managedNamespaces.isEmpty && isNullOrBlank inventory.installedLibreRouteVersion))
    (.illegalArgument "На сервере уже есть ядро. Повторная установка запрещена")
  let millis ← Prog.read fun s => s.currentTimeMillis
  let submitting := { original with
    node := saved, documentUrl := resolved, ownerRecovery := ownerRecovery, join := some join,
    stage := .submitting, updatedAt := millis }
  saveServerInstallation submitting
  Prog.when (original.kind != .coreUpdate) (markOwnerProvisioning saved)
  let response ← Prog.ofExcept (backend.install saved inventory original.operationId resolved join
    pairing original.expectedPlan ownerRecovery)
  reconcileInstallationReceipt backend submitting response true

def installOperation (backend : ServerInstallationBackend) (seed : JoinSeed) (node : ServerNode)
    (original : ServerInstallOperation) (documentUrl : String) (ownerRecovery : Bool) :
    AdminM P AdminOpResult := do
  let refused ← Prog.ofExcept (checkInstallable original node)
  match refused with
  | some message => pure (.failure message none)
  | none =>
    (submitInstallation backend seed node original documentUrl ownerRecovery).attempt fun e => do
      let message := e.message.getD "Результат установки неизвестен"
      markUnknown original.operationId message original true
      pure (.failure message none)

def installServer (backend : ServerInstallationBackend) (seed : JoinSeed) (node : ServerNode)
    (operationId documentUrl : String) (ownerRecovery : Bool) : AdminM P AdminOpResult := do
  let original ← Prog.read fun s => s.loadServerInstallation operationId
  match original with
  | none => pure (.failure "Сначала подготовьте и подтвердите план установки" none)
  | some original => installOperation backend seed node original documentUrl ownerRecovery

def reconcileAnswer (backend : ServerInstallationBackend)
    (ask : ServerNode → String → Except Throwable JsonObject) (node : ServerNode)
    (operationId : String) : AdminM P AdminOpResult := do
  let saved ← Prog.read fun s => s.loadServerInstallation operationId
  let operation ← Prog.getOrThrow saved (.illegalState "Операция не найдена локально")
  Prog.require (operation.serverId == node.id)
    (.illegalArgument "Операция относится к другому серверу")
  let target ← Prog.read fun s => (s.getServerNode node.id).getD node
  let response ← Prog.ofExcept (ask target operationId)
  reconcileInstallationReceipt backend operation response true

def checkServerInstallation (backend : ServerInstallationBackend) (node : ServerNode)
    (operationId : String) : AdminM P AdminOpResult :=
  (reconcileAnswer backend backend.status node operationId).attempt fun e =>
    pure (.failure (e.message.getD "Не удалось проверить сохранённую операцию") none)

def rollbackServerInstallation (backend : ServerInstallationBackend) (node : ServerNode)
    (operationId : String) : AdminM P AdminOpResult :=
  (reconcileAnswer backend backend.rollback node operationId).attempt fun e =>
    pure (.failure (e.message.getD "Откат не подтверждён. SSH-подключение сохранено") none)

def AdminState.checkRecoveryIdentity (s : AdminState P) (saved : ServerNode)
    (approvedPlan : JsonObject) : Except Throwable Unit := do
  let serverId ← jsonField approvedPlan "server_id"
  let same ← pure (serverId == some saved.id) <&&> do
    return (← jsonField approvedPlan "server_public_key") ==
      s.getPinnedServerPublicKey (some saved.id)
  require same (.illegalArgument
    "Сначала привяжите SSH-узел к подтверждённой идентичности существующего сервера")

/-- Admission over SSH keeps the server's document; a recovery may name another. -/
def recoveryDocument (backend : ServerInstallationBackend) (original : ServerInstallOperation)
    (documentUrl : String) : Except Throwable String :=
  if original.preserveOwners then do
    return (← jsonField original.expectedPlan "document_url").getD ""
  else resolvedDocument backend documentUrl original.expectedPlan

def recoveryResponse (backend : ServerInstallationBackend) (original : ServerInstallOperation)
    (saved : ServerNode) (inventory : ServerInventory) (document : String) (join : AdminEnvelope)
    (pairing : String) : Except Throwable JsonObject := do
  let response ←
    if original.preserveOwners then
      backend.authorizeAdministrator saved inventory original.operationId document join pairing
        original.expectedPlan
    else
      backend.recoverOwner saved inventory original.operationId document join pairing
        original.expectedPlan
  let preserved ← pure (!original.preserveOwners) <||> fieldIs response "preserve_owners" "true"
  require preserved (.illegalArgument "Сервер не подтвердил сохранение прав других администраторов")
  return response

def submitRecovery (backend : ServerInstallationBackend) (seed : JoinSeed) (node : ServerNode)
    (original : ServerInstallOperation) (documentUrl : String) : AdminM P AdminOpResult := do
  let saved ← Prog.read fun s => (s.getServerNode node.id).getD node
  let identity ← Prog.read fun s => s.checkRecoveryIdentity saved original.expectedPlan
  Prog.ofExcept identity
  let document ← Prog.ofExcept (recoveryDocument backend original documentUrl)
  let join ← operationJoin seed original
  let pairing ← Prog.ofExcept (P.pairingCode join)
  let inventory ← probeServer backend saved
  Prog.require inventory.probeError.isNone (.illegalArgument "SSH-опрос не завершён")
  let millis ← Prog.read fun s => s.currentTimeMillis
  let submitting := { original with
    kind := .ownerRecovery, ownerRecovery := true, documentUrl := document, join := some join,
    stage := .submitting, updatedAt := millis }
  saveServerInstallation submitting
  let response ← Prog.ofExcept
    (recoveryResponse backend original saved inventory document join pairing)
  reconcileInstallationReceipt backend submitting response true

/-- Why an operation is not a recovery that can be carried out. -/
def checkRecoverable (original : ServerInstallOperation) (node : ServerNode) : Option String :=
  if original.kind != .ownerRecovery && !original.ownerRecovery then
    some "Операция не помечена как восстановление владельца"
  else if original.serverId != node.id || original.stage != .planned then
    some "План восстановления относится к другому серверу или уже выполнялся"
  else none

def recoverOwnerServer (backend : ServerInstallationBackend) (seed : JoinSeed) (node : ServerNode)
    (operationId documentUrl : String) : AdminM P AdminOpResult := do
  let original ← Prog.read fun s => s.loadServerInstallation operationId
  match original with
  | none => pure (.failure "Сначала подготовьте план восстановления владельца" none)
  | some original =>
    match checkRecoverable original node with
    | some message => pure (.failure message none)
    | none =>
      (submitRecovery backend seed node original documentUrl).attempt fun e => do
        markUnknown operationId (e.message.getD "Результат восстановления неизвестен") original
          false
        pure (.failure (e.message.getD "Восстановление владельца не подтверждено") (some e))

end LibreRoute.Admin
