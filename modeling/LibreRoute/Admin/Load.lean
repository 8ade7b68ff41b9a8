import LibreRoute.Admin.Delegation
import LibreRoute.Admin.Runs

/-!
The start of the repository, and runs in which the process may die.

`loadState` reads the records back, repairs control profiles, and replays what
an earlier process left unfinished. Each replay is caught, so that one that
fails does not stop the others. A `World` is a repository whose process is
running or not: a crash stops it, a restart starts it on what the store holds.
-/

namespace LibreRoute.Admin

open LibreRoute.Lib AdminState

variable {P : Platform}

namespace AdminState

def validStoredGrant (s : AdminState P) : Option AdminGrant := do
  let grant ← s.storedGrant (.fixed .activeGrant)
  let grantEnvelope ← s.storedEnvelope (.fixed .activeGrantEnvelope)
  let pinnedKey ← s.storedText (.fixed .pinnedServerKey)
  if decide (s.currentTimeSeconds < grant.expiresAt) && grant.role.granted &&
      P.validGrantFields s.currentTimeSeconds grantEnvelope grant pinnedKey &&
      P.verifyServerResponse grantEnvelope pinnedKey (some pinnedKey) then return grant
  else none

/-- The role at the start: of the unscoped grant, or of an open request. -/
def storedRole (s : AdminState P) : AdminRole :=
  match s.validStoredGrant with
  | some grant => grant.role
  | none =>
    if (s.storedEnvelope (.fixed .pendingRequest)).any (s.currentTimeSeconds < ·.exp) then .pending
    else .none

def loadRecords (s : AdminState P) : AdminState P :=
  { s with
    pendingRequest := s.storedEnvelope (.fixed .pendingRequest)
    lastPairingCode := s.storedText (.fixed .lastPairingCode)
    activeGrant := s.validStoredGrant
    role := s.storedRole
    managedProfiles :=
      ((s.storage.get (.fixed .managedProfiles)).bind Stored.asProfiles).getD []
    commandHistory := ((s.storage.get (.fixed .commandHistory)).bind Stored.asHistory).getD [] }

def storedNodes (s : AdminState P) : List ServerNode :=
  ((s.storage.get (.fixed .serverNodes)).bind Stored.asNodes).getD []

end AdminState

def loadServerNodes : AdminM P (List ServerNode) := do
  let stored ← Prog.read fun s => s.storedNodes
  let nodes ← (Prog.mapEach stored storeAndRestoreCredentials).attempt fun _ => pure []
  Prog.modify fun s => { s with serverNodes := nodes }
  Prog.when (!nodes.isEmpty) (saveServerNodes nodes)
  pure nodes

def persistSoleNodePin (pinnedKey : Option String) (nodes : List ServerNode) : AdminM P Unit :=
  match singleOrNull nodes, pinnedKey with
  | some node, some key => do
      let belongs ← Prog.read fun s => s.legacyGrantBelongsTo node.id
      Prog.when belongs (putString (.keyed .pinnedServerKey node.id) (.text key))
  | _, _ => pure ()

def AdminState.sessionDocument (s : AdminState P) (serverId : String) : String :=
  ((s.storedSession (.keyed .documentSession serverId)).map (·.documentUrl)).getD ""

def repairControlProfile (node : ServerNode) : AdminM P Unit := do
  let scopedGrant ← Prog.call fun s => s.verifiedGrantForServer (some node.id)
  match scopedGrant with
  | none => pure ()
  | some grant => do
      let documentUrl ← Prog.read fun s => s.sessionDocument node.id
      ensureOwnerControlProfile node grant documentUrl ""

def activateNodeGrant (nodes : List ServerNode) : AdminM P Unit := do
  let scopedGrant ← Prog.call fun s => s.firstVerifiedGrant nodes
  Prog.modify fun s =>
    match scopedGrant with
    | some grant => { s with activeGrant := some grant, role := grant.role }
    | none => s

def AdminState.ownerNode (s : AdminState P) (nodes : List ServerNode) (ownerGrant : AdminGrant) :
    Option ServerNode :=
  nodes.find? (some ·.id == ownerGrant.serverId) <|> (singleOrNull nodes).filter fun it =>
      isNullOrBlank ownerGrant.serverId && s.legacyGrantBelongsTo it.id

def repairOwnerProfile (nodes : List ServerNode) : AdminM P Unit := do
  let active ← Prog.read fun s => s.activeGrant
  match active with
  | none => pure ()
  | some ownerGrant => do
      let ownerNode ← Prog.read fun s => s.ownerNode nodes ownerGrant
      match ownerNode with
      | none => pure ()
      | some node => do
          let documentUrl ← Prog.read fun s => s.sessionDocument node.id
          ensureOwnerControlProfile node ownerGrant documentUrl ""

/-- An installation that was being submitted has an unknown outcome. -/
def ServerInstallOperation.resumed (operation : ServerInstallOperation) : ServerInstallOperation :=
  if operation.stage == .submitting then
    { operation with
      stage := .unknown
      error := some "Результат установки неизвестен. Проверьте сохранённую операцию через SSH" }
  else operation

def loadInstallationOperations : AdminM P Unit := do
  let operations ← Prog.read fun s => s.storedOperations
  let resumed := operations.map ServerInstallOperation.resumed
  Prog.modify fun s => { s with installationOperations := resumed }
  Prog.when (resumed != operations) persistInstallationOperations

def ProtocolInstallationOperation.resumed (operation : ProtocolInstallationOperation) :
    ProtocolInstallationOperation :=
  if operation.stage == "submitting" then
    { operation with
      stage := "unknown"
      error := some "Результат установки протокола неизвестен. Проверим сервер" }
  else operation

def loadProtocolOperations : AdminM P Unit := do
  let operations ← Prog.read fun s =>
    ((s.storage.get (.fixed .protocolOperations)).bind Stored.asProtocolOperations).getD []
  let resumed := operations.map ProtocolInstallationOperation.resumed
  Prog.modify fun s => { s with protocolOperations := resumed }
  putString (.fixed .protocolOperations) (.protocolOperations resumed)

/-- Runs `m`; what it throws is dropped. -/
def quietly {α : Type} (m : AdminM P α) : AdminM P Unit :=
  (m >>= fun _ => pure ()).attempt fun _ => pure ()

def bindingKey (operation : ServerInstallOperation) : Except Throwable String := do
  let key ← jsonValue operation.expectedPlan "server_public_key"
  let same ← fieldIs operation.expectedPlan "server_id" operation.serverId <&&>
    fieldIs operation.expectedPlan "namespace" operation.namespaceName
  require same (.illegalArgument "Failed requirement.")
  return key

def restoreBoundNode (operation : ServerInstallOperation) : AdminM P Unit := do
  let nodesNow ← Prog.read fun s => s.serverNodes
  Prog.when (!nodesNow.any (·.id == operation.serverId)) do
    let node ← Prog.read fun s => s.restoreNodeCredentials operation.node
    let restored := nodesNow.filter (fun it => some it.id != operation.priorLocalNodeId) ++ [node]
    saveServerNodes restored
    Prog.modify fun s => { s with serverNodes := restored }

def replayBinding (operation : ServerInstallOperation) : AdminM P Unit := do
  let key ← Prog.ofExcept (bindingKey operation)
  restoreBoundNode operation
  let pin ← Prog.read fun s => s.getPinnedServerPublicKey (some operation.serverId)
  Prog.when pin.isNone (setPinnedServerPublicKey key (some operation.serverId))

def replayBindings : AdminM P Unit := do
  let operations ← Prog.read fun s => s.installationOperations.filter fun it =>
    it.identityBindingConfirmed && it.stage != .ready && it.stage != .rolledBack
  Prog.forEach operations fun operation => quietly (replayBinding operation)

/-- The receipt of a confirmed operation is reconciled again. It does not confirm a new
SSH session. -/
def replayReceipt (backend : ServerInstallationBackend) (operation : ServerInstallOperation) :
    AdminM P Unit :=
  match operation.receipt with
  | none => pure ()
  | some receipt => quietly (reconcileInstallationReceipt backend operation receipt false)

def replayReceipts (backend : ServerInstallationBackend) : AdminM P Unit := do
  let operations ← Prog.read fun s => s.installationOperations.filter fun it =>
    it.stage == .serverConfirmed && it.receipt.isSome
  Prog.forEach operations (replayReceipt backend)

/-- A delegation whose checkpoint is still there is imported again. -/
def replayDelegation : AdminM P Unit := do
  let checkpoint ← Prog.read fun s =>
    (s.storage.get (.fixed .delegationCheckpoint)).bind Stored.asCheckpoint
  match checkpoint with
  | none => pure ()
  | some (request, link) => quietly do
      Prog.modify fun s => { s with pendingRequest := some request }
      putString (.fixed .pendingRequest) (.envelope request)
      importAdminGrantLink link ""

def loadSaved : AdminM P Unit := do
  let pinnedKey ← Prog.read fun s => s.storedText (.fixed .pinnedServerKey)
  let validGrant ← Prog.read fun s => s.validStoredGrant
  Prog.modify AdminState.loadRecords
  let nodes ← loadServerNodes
  persistSoleNodePin pinnedKey nodes
  Prog.forEach nodes repairControlProfile
  Prog.when validGrant.isNone (activateNodeGrant nodes)
  repairOwnerProfile nodes
  loadInstallationOperations
  loadProtocolOperations

def loadState (backend : ServerInstallationBackend) : AdminM P Unit := do
  loadSaved
  replayBindings
  replayReceipts backend
  replayDelegation

/-- What is read back when no node and no operation is stored. -/
def AdminState.loaded (s : AdminState P) : AdminState P :=
  let operations := (((s.storage.get (.fixed .protocolOperations)).bind
    Stored.asProtocolOperations).getD []).map ProtocolInstallationOperation.resumed
  { s.loadRecords with
    storage := s.storage.put (.fixed .protocolOperations) (.protocolOperations operations)
    serverNodes := []
    installationOperations := []
    protocolOperations := operations }

/-- Without nodes and operations, a start has nothing to repair, and only a delegation to
replay. -/
theorem loadState_exec {s : AdminState P} (hnodes : s.storedNodes = [])
    (hoperations : s.storedOperations = []) (backend : ServerInstallationBackend) :
    (loadState backend).exec s = replayDelegation.exec s.loaded := by
  have hloadNodes : (loadServerNodes : AdminM P _).exec s.loadRecords =
      (.ok [], { s.loadRecords with serverNodes := [] }) := by
    have hstored : s.loadRecords.storedNodes = [] := hnodes
    simp [loadServerNodes, hstored, Prog.mapEach]
  have hactivate : ∀ t : AdminState P, (activateNodeGrant []).exec t = (.ok (), t) := fun t => by
    simp [activateNodeGrant, firstVerifiedGrant]
  have hrepair : ∀ t : AdminState P, (repairOwnerProfile []).exec t = (.ok (), t) := fun t => by
    rcases hactive : t.activeGrant with _ | grant <;>
      simp [repairOwnerProfile, hactive, AdminState.ownerNode, singleOrNull]
  have hsaved : loadSaved.exec s = (.ok (), s.loaded) := by
    have hstored :
        ({ s.loadRecords with serverNodes := [] } : AdminState P).storedOperations = [] :=
      hoperations
    simp only [loadSaved, exec_bind, exec_read, exec_modify, hloadNodes,
      persistSoleNodePin, singleOrNull, exec_pure, Prog.forEach, exec_when, hactivate,
      ite_self, hrepair, loadInstallationOperations, hstored, List.map_nil,
      loadProtocolOperations, putString_exec]
    rfl
  simp only [loadState, exec_bind, hsaved, replayBindings, replayReceipts, exec_read]
  simp [loaded, Prog.forEach]

/-- A call of the repository, with what is drawn at random and answered from outside. -/
inductive AdminCall
  | step (action : AdminStep)
  | revokeAdminRights
  | importTrustedBootstrapGrant (envelopeJson expectedFingerprint : String)
  | claimServerWithSetupKey (execute : AdminEnvelope → AdminOpResult) (input : ClaimInput)
  | createAdminRequestLink (seed : JoinSeed) (serverId : Option String) (profileId : String)
      (role : AdminRole)
  | cancelPendingAdminRequest
  | importAdminGrantLink (link fingerprint : String)
  | bindExistingServerIdentity (localNodeId confirmedServerId confirmedNamespace
      confirmedServerPublicKey : String)
  | planServerInstallation (backend : ServerInstallationBackend) (node : ServerNode)
      (operationId : String)
  | prepareOwnerRecovery (backend : ServerInstallationBackend) (node : ServerNode)
      (operationId : String) (preserveOwners : Bool)
  | installServer (backend : ServerInstallationBackend) (seed : JoinSeed) (node : ServerNode)
      (operationId documentUrl : String) (ownerRecovery : Bool)
  | checkServerInstallation (backend : ServerInstallationBackend) (node : ServerNode)
      (operationId : String)
  | rollbackServerInstallation (backend : ServerInstallationBackend) (node : ServerNode)
      (operationId : String)
  | recoverOwnerServer (backend : ServerInstallationBackend) (seed : JoinSeed) (node : ServerNode)
      (operationId documentUrl : String)

def discard {α : Type} (m : AdminM P α) : AdminM P Unit := m >>= fun _ => pure ()

theorem discard_exec_snd {α : Type} (m : AdminM P α) (s : AdminState P) :
    ((discard m).exec s).2 = (m.exec s).2 := by
  rcases hexec : m.exec s with ⟨e | a, s'⟩ <;> simp [discard, hexec]

def AdminCall.program : AdminCall → AdminM P Unit
  | .step action => action.program
  | revokeAdminRights => Admin.revokeAdminRights
  | importTrustedBootstrapGrant envelopeJson expectedFingerprint =>
    discard (Admin.importTrustedBootstrapGrant envelopeJson expectedFingerprint)
  | claimServerWithSetupKey execute input => discard (Admin.claimServerWithSetupKey execute input)
  | createAdminRequestLink seed serverId profileId role =>
    discard (Admin.createAdminRequestLink seed serverId profileId role)
  | cancelPendingAdminRequest => Admin.cancelPendingAdminRequest
  | importAdminGrantLink link fingerprint => discard (Admin.importAdminGrantLink link fingerprint)
  | bindExistingServerIdentity localNodeId confirmedServerId confirmedNamespace
      confirmedServerPublicKey =>
      discard (Admin.bindExistingServerIdentity localNodeId confirmedServerId confirmedNamespace
        confirmedServerPublicKey)
  | planServerInstallation backend node operationId =>
    discard (Admin.planServerInstallation backend node operationId)
  | prepareOwnerRecovery backend node operationId preserveOwners =>
    discard (Admin.prepareOwnerRecovery backend node operationId preserveOwners)
  | installServer backend seed node operationId documentUrl ownerRecovery =>
    discard (Admin.installServer backend seed node operationId documentUrl ownerRecovery)
  | checkServerInstallation backend node operationId =>
    discard (Admin.checkServerInstallation backend node operationId)
  | rollbackServerInstallation backend node operationId =>
    discard (Admin.rollbackServerInstallation backend node operationId)
  | recoverOwnerServer backend seed node operationId documentUrl =>
    discard (Admin.recoverOwnerServer backend seed node operationId documentUrl)

/-! ### The process -/

/-- The repository and whether its process is running. Without a process only the
durable part of the state means anything. -/
structure World (P : Platform) where
  state : AdminState P
  running : Bool

/-- A start of the process after some time, and the fates of the writes it makes. -/
structure Restart where
  backend : ServerInstallationBackend
  elapsed : Nat
  fates : List (Fate Throwable)

inductive Event
  | call (call : AdminCall) (fates : List (Fate Throwable))
  | restart (restart : Restart)

namespace World

def new (millis : Int) : World P := ⟨AdminState.fresh millis, false⟩

def call (c : AdminCall) (fates : List (Fate Throwable)) (w : World P) : World P :=
  if w.running then
    match c.program.run w.state fates with
    | (.crashed, s, _) => ⟨s, false⟩
    | (_, s, _) => ⟨s, true⟩
  else w

def restart (r : Restart) (w : World P) : World P :=
  match (loadState r.backend).run
      (.created w.state.storage w.state.sshCredentials (w.state.currentTimeMillis + r.elapsed))
      r.fates with
  | (.ok _, s, _) => ⟨s, true⟩
  | (_, s, _) => ⟨s, false⟩

def next (w : World P) : Event → World P
  | .call c fates => w.call c fates
  | .restart r => w.restart r

def run (events : List Event) (w : World P) : World P := events.foldl next w

theorem run_cons (w : World P) (event : Event) (events : List Event) :
    w.run (event :: events) = (w.next event).run events := rfl

theorem run_append (w : World P) (events events' : List Event) :
    w.run (events ++ events') = (w.run events).run events' := List.foldl_append ..

def restarts (rs : List Restart) (w : World P) : World P := rs.foldl (fun w r => w.restart r) w

variable {w : World P}

theorem call_nil {c : AdminCall} (h : w.running = true) :
    w.call c [] = ⟨(c.program.exec w.state).2, true⟩ := by
  have hr := c.program.run_nil w.state
  rcases hexec : c.program.exec w.state with ⟨e | a, s'⟩ <;>
    simp only [hexec] at hr <;> simp [call, h, hr]

theorem run_steps (steps : List AdminStep) (h : w.running = true) :
    w.run (steps.map fun step => .call (.step step) []) = ⟨runSteps steps w.state, true⟩ := by
  induction steps generalizing w with
  | nil =>
    obtain ⟨s, running⟩ := w
    obtain rfl : running = true := h
    rfl
  | cons step steps ih =>
    have hstep : w.next (.call (.step step) []) = ⟨step.next w.state, true⟩ := call_nil h
    rw [List.map_cons, run_cons, hstep, ih rfl]
    rfl

theorem restart_nil {backend : ServerInstallationBackend} {elapsed : Nat} {s' : AdminState P}
    (h : (loadState backend).exec (.created w.state.storage w.state.sshCredentials
      (w.state.currentTimeMillis + elapsed)) = (.ok (), s')) :
    w.restart ⟨backend, elapsed, []⟩ = ⟨s', true⟩ := by
  simp only [restart, Prog.run_nil, h]

theorem restart_new (millis : Int) (backend : ServerInstallationBackend) :
    (World.new millis : World P).restart ⟨backend, 0, []⟩ = ⟨(fresh millis).loaded, true⟩ := by
  refine restart_nil ?_
  have hstate : created (World.new millis : World P).state.storage
      (World.new millis : World P).state.sshCredentials
      ((World.new millis : World P).state.currentTimeMillis + (0 : Nat)) =
      (fresh millis : AdminState P) := by
    simp [new, fresh, created]
  have hcheckpoint : ((fresh millis).loaded : AdminState P).storage.get
      (.fixed .delegationCheckpoint) = none := Storage.get_put_of_ne _ _ (by decide)
  rw [hstate, loadState_exec (by simp [AdminState.storedNodes, fresh, created])
    (by simp [storedOperations, fresh, created])]
  simp [replayDelegation, hcheckpoint]

/-- An invariant of the state that does not look at what a new process forgets. -/
def Survives (I : AdminState P → Prop) : Prop :=
  ∀ s : AdminState P, I s → ∀ millis, I (.created s.storage s.sshCredentials millis)

variable {I : AdminState P → Prop}

theorem call_keeps {c : AdminCall} (h : (c.program : AdminM P Unit).Keeps I)
    (fates : List (Fate Throwable)) (hw : I w.state) : I (w.call c fates).state := by
  unfold call
  split
  · have hrun := h.run hw fates
    rcases hr : c.program.run w.state fates with ⟨a | e | _, s', fs'⟩ <;> rwa [hr] at hrun
  · exact hw

theorem restart_keeps (hstart : Survives I)
    (hload : ∀ backend, (loadState backend : AdminM P Unit).Keeps I) (r : Restart) (hw : I w.state)
    : I (w.restart r).state := by
  have hrun := (hload r.backend).run
    (hstart w.state hw (w.state.currentTimeMillis + r.elapsed)) r.fates
  unfold restart
  rcases hr : (loadState r.backend).run _ r.fates with ⟨a | e | _, s', fs'⟩ <;> rwa [hr] at hrun

theorem restarts_keeps (hstart : Survives I)
    (hload : ∀ backend, (loadState backend : AdminM P Unit).Keeps I) (rs : List Restart)
    (hw : I w.state) : I (w.restarts rs).state := by
  induction rs generalizing w with
  | nil => exact hw
  | cons r rs ih => exact ih (restart_keeps hstart hload r hw)

theorem run_keeps (hcall : ∀ c : AdminCall, (c.program : AdminM P Unit).Keeps I)
    (hstart : Survives I) (hload : ∀ backend, (loadState backend : AdminM P Unit).Keeps I)
    (events : List Event) (hw : I w.state) : I (w.run events).state := by
  induction events generalizing w with
  | nil => exact hw
  | cons event events ih =>
    refine ih ?_
    cases event with
    | call c fates => exact call_keeps (hcall c) fates hw
    | restart r => exact restart_keeps hstart hload r hw

end World

end LibreRoute.Admin
