import LibreRoute.Admin.State
import LibreRoute.Lib.Keeping

/-!
The operations of the administrator repository on its own records: server
nodes with their SSH credentials, managed profiles, the command history, and
the join request. Every write to the store is durable; fields held in memory
change at once. Random identifiers are arguments.
-/

namespace LibreRoute.Admin

open LibreRoute.Lib

variable {P : Platform} {key : StorageKey}

def putString (key : StorageKey) (value : Stored) : AdminM P Unit :=
  Prog.write fun s => { s with storage := s.storage.put key value }

def removeString (key : StorageKey) : AdminM P Unit :=
  Prog.write fun s => { s with storage := s.storage.remove key }

def putCredential (name value : String) : AdminM P Unit :=
  Prog.write fun s =>
    { s with sshCredentials := Function.update s.sshCredentials name (some value) }

def removeCredential (name : String) : AdminM P Unit :=
  Prog.write fun s => { s with sshCredentials := Function.update s.sshCredentials name none }

def ServerNode.credentialName (node : ServerNode) : String :=
  node.credentialRef.getD ("ssh_" ++ node.id)

def putCredentialIfSet (name : String) (value : Option String) : AdminM P Unit :=
  match value with
  | some value => putCredential name value
  | none => pure ()

def storeNodeCredentials (node : ServerNode) : AdminM P ServerNode := do
  putCredentialIfSet (node.credentialName ++ "_password") node.password
  putCredentialIfSet (node.credentialName ++ "_passphrase") node.passphrase
  pure { node with credentialRef := some node.credentialName }

/-- The secrets of a node are read back through its reference. -/
def AdminState.restoreNodeCredentials (s : AdminState P) (node : ServerNode) : ServerNode :=
  match node.credentialRef with
  | none => node
  | some ref =>
    { node with
      password := s.sshCredentials (ref ++ "_password")
      passphrase := s.sshCredentials (ref ++ "_passphrase") }

def storeAndRestoreCredentials (node : ServerNode) : AdminM P ServerNode := do
  let stored ← storeNodeCredentials node
  Prog.read fun s => s.restoreNodeCredentials stored

/-- What is serialised of a node: the secrets are transient. -/
def ServerNode.serialized (node : ServerNode) : ServerNode :=
  { node with password := none, passphrase := none }

def saveServerNodes (nodes : List ServerNode) : AdminM P Unit := do
  let safeNodes ← Prog.mapEach nodes storeNodeCredentials
  putString (.fixed .serverNodes) (.nodes (safeNodes.map ServerNode.serialized))

def setServerNodes (nodes : List ServerNode) : AdminM P Unit := do
  Prog.modify fun s => { s with serverNodes := nodes }
  saveServerNodes nodes

def addServerNode (node : ServerNode) : AdminM P Unit := do
  let nodes ← Prog.read fun s => s.serverNodes
  let added ← storeAndRestoreCredentials node
  setServerNodes (nodes.filter (·.id != node.id) ++ [added])

def updateServerNode (node : ServerNode) : AdminM P Unit := do
  let nodes ← Prog.read fun s => s.serverNodes
  let updated ← Prog.mapEach nodes fun it =>
    if it.id == node.id then storeAndRestoreCredentials node else pure it
  setServerNodes updated

def removeNodeCredentials (ref : Option String) : AdminM P Unit :=
  match ref with
  | none => pure ()
  | some ref => do
      removeCredential (ref ++ "_password")
      removeCredential (ref ++ "_passphrase")

def removeServerNode (id : String) : AdminM P Unit := do
  let node ← Prog.read fun s => s.getServerNode id
  removeNodeCredentials (node.bind (·.credentialRef))
  let nodes ← Prog.read fun s => s.serverNodes
  setServerNodes (nodes.filter (·.id != id))

/-! ### Profiles and history -/

def saveProfiles (profiles : List ManagedProfile) : AdminM P Unit := do
  Prog.modify fun s => { s with managedProfiles := profiles }
  putString (.fixed .managedProfiles) (.profiles profiles)

def saveHistory (history : List AdminCommandRecord) : AdminM P Unit := do
  Prog.modify fun s => { s with commandHistory := history }
  putString (.fixed .commandHistory) (.history history)

/-- A new record pushes the oldest one out once there are fifty. -/
def recordCommand (record : AdminCommandRecord) : AdminM P Unit := do
  let history ← Prog.read fun s => s.commandHistory
  let extended := record :: history
  saveHistory (if extended.length > 50 then extended.dropLast else extended)

def updateCommandStatus (opId status : String) (revision : Option Int) (error : Option String) :
    AdminM P Unit := do
  let history ← Prog.read fun s => s.commandHistory
  saveHistory (history.map fun command =>
    if command.opId == opId then
      { command with
        status := status
        revision := revision.getD command.revision
        error := error <|> command.error }
    else command)

/-- `map.put(key, value)` on an insertion-ordered map. -/
def putConfig (configs : List (String × ProfileServerConfig)) (key : String)
    (config : ProfileServerConfig) : List (String × ProfileServerConfig) :=
  if (configs.lookup key).isSome then
    configs.map fun entry => if entry.1 == key then (key, config) else entry
  else configs ++ [(key, config)]

/-- The configuration of the control profile for a node: a document that is already
known is kept. -/
def controlConfigs (current : Option ManagedProfile) (node : ServerNode) (documentUrl : String) :
    List (String × ProfileServerConfig) :=
  let configs := (current.map (·.serverConfigs)).getD []
  if configs.isEmpty then [(node.id, { serverId := node.id, documentUrl := some documentUrl })]
  else
    let existing := configs.lookup node.id
    if !isBlank documentUrl && isNullOrBlank (existing.bind (·.documentUrl)) then
      putConfig configs node.id
        (match existing with
          | some config => { config with documentUrl := some documentUrl }
          | none => { serverId := node.id, documentUrl := some documentUrl })
    else configs

def controlProfile (current : Option ManagedProfile) (node : ServerNode) (grant : AdminGrant)
    (documentUrl requestedName : String) (millis : Int) : ManagedProfile :=
  let profileId := if isBlank grant.profileId then "admin-control-" ++ node.id else grant.profileId
  let transport := if isBlank documentUrl then "ssh" else "document"
  let base := current.getD
    { id := profileId
      name := if isBlank requestedName then "Администратор — " ++ node.name else requestedName
      transportType := transport
      allowedServerIds := [node.id]
      allowedProtocols := [transport]
      serverConfigs := [(node.id, { serverId := node.id, documentUrl := some documentUrl })]
      createdAt := millis
      profileType := .control
      role := grant.role
      serverId := some node.id
      provisioningStatus := "profile provisioning" }
  { base with
    id := profileId
    profileType := .control
    role := grant.role
    serverId := some node.id
    status := "ready"
    transportType := transport
    sessionNegotiated := false
    provisioningStatus := "profile ready"
    serverConfigs := controlConfigs current node documentUrl
    allowedServerIds :=
      match current with
      | some profile =>
        if profile.allowedServerIds.isEmpty then [node.id] else profile.allowedServerIds
      | none => [node.id]
    allowedProtocols := []
    lastCheckTimestamp := millis }

def ensureOwnerControlProfile (node : ServerNode) (grant : AdminGrant)
    (documentUrl requestedName : String) : AdminM P Unit := do
  let profiles ← Prog.read fun s => s.managedProfiles
  let millis ← Prog.read fun s => s.currentTimeMillis
  let profileId := if isBlank grant.profileId then "admin-control-" ++ node.id else grant.profileId
  let matching : ManagedProfile → Bool := fun it =>
    it.profileType == .control && (it.serverId == some node.id || it.id == profileId)
  match profiles.findIdx? matching with
  | some index =>
    saveProfiles (profiles.set index
      (controlProfile profiles[index]? node grant documentUrl requestedName millis))
  | none =>
    saveProfiles (profiles ++ [controlProfile none node grant documentUrl requestedName millis])

def AdminState.defaultDocumentUrl (s : AdminState P) (serverId : String) : Option String :=
  let preset :=
    ((s.managedProfiles.find? fun it =>
        it.profileType == .control && it.serverId == some serverId).bind
      fun profile => (profile.serverConfigs.lookup serverId).bind (·.documentUrl)).filter
        (!isBlank ·)
  let session :=
    (((s.storage.get (.keyed .documentSession serverId)).bind Stored.asSession).map
      (·.documentUrl)).filter (!isBlank ·)
  preset <|> session

@[simp] theorem putString_exec (key : StorageKey) (value : Stored) (s : AdminState P) :
    (putString key value).exec s = (.ok (), { s with storage := s.storage.put key value }) :=
  exec_write _ s

@[simp] theorem removeString_exec (key : StorageKey) (s : AdminState P) :
    (removeString key).exec s = (.ok (), { s with storage := s.storage.remove key }) :=
  exec_write _ s

variable (node : ServerNode)

theorem storeNodeCredentials_returns :
    (storeNodeCredentials node : AdminM P ServerNode).Returns := by
  have hput : ∀ name value, (putCredentialIfSet name value : AdminM P Unit).Returns := by
    intro name value
    cases value
    · exact returns_pure
    · exact returns_write
  exact returns_bind (hput _ _) fun _ => returns_bind (hput _ _) fun _ =>
    returns_pure

theorem storeAndRestoreCredentials_returns :
    (storeAndRestoreCredentials node : AdminM P ServerNode).Returns :=
  returns_bind (storeNodeCredentials_returns node) fun _ => returns_read

theorem setServerNodes_returns (nodes : List ServerNode) :
    (setServerNodes nodes : AdminM P Unit).Returns :=
  returns_bind returns_modify fun _ =>
    returns_bind (returns_mapEach storeNodeCredentials_returns) fun _ =>
      returns_write

theorem addServerNode_returns : (addServerNode node : AdminM P Unit).Returns :=
  returns_bind returns_read fun _ =>
    returns_bind (storeAndRestoreCredentials_returns node) fun _ => setServerNodes_returns _

theorem ensureOwnerControlProfile_exec (grant : AdminGrant) (documentUrl requestedName : String)
    (s : AdminState P) :
    ∃ profiles, (ensureOwnerControlProfile node grant documentUrl requestedName).exec s =
      (.ok (), { s with
        managedProfiles := profiles
        storage := s.storage.put (.fixed .managedProfiles) (.profiles profiles) }) := by
  simp only [ensureOwnerControlProfile, exec_bind, exec_read]
  split <;> simp [saveProfiles]

theorem ensureOwnerControlProfile_returns (grant : AdminGrant) (documentUrl requestedName : String) :
    (ensureOwnerControlProfile node grant documentUrl requestedName : AdminM P Unit).Returns := by
  intro s
  obtain ⟨profiles, h⟩ := ensureOwnerControlProfile_exec node grant documentUrl requestedName s
  exact ⟨(), _, h⟩

theorem updateCommandStatus_exec (opId status : String) (revision : Option Int)
    (error : Option String) (s : AdminState P) :
    ∃ history, (updateCommandStatus opId status revision error).exec s =
      (.ok (), { s with
        commandHistory := history
        storage := s.storage.put (.fixed .commandHistory) (.history history) }) := by
  simp [updateCommandStatus, saveHistory]

/-! ### Frames -/

namespace AdminState

/-- What lies outside the entries `keys`: the other entries of the store, the clock
and the installation operations. -/
structure Outside where
  entries : String → Option Stored
  currentTimeMillis : Int
  installationOperations : List ServerInstallOperation

def outside (keys : List StorageKey) (s : AdminState P) : Outside where
  entries name := if name ∈ keys.map StorageKey.text then none else s.storage name
  currentTimeMillis := s.currentTimeMillis
  installationOperations := s.installationOperations

theorem outside_of_storage {keys : List StorageKey} {s s' : AdminState P}
    (hst : ∀ name, name ∉ keys.map StorageKey.text → s'.storage name = s.storage name)
    (ht : s'.currentTimeMillis = s.currentTimeMillis)
    (ho : s'.installationOperations = s.installationOperations) :
    s'.outside keys = s.outside keys := by
  have he : (s'.outside keys).entries = (s.outside keys).entries := by
    funext name
    simp only [outside]
    split
    · rfl
    · next h => exact hst name h
  simp only [outside, Outside.mk.injEq] at he ⊢
  exact ⟨he, ht, ho⟩

theorem outside_put {keys : List StorageKey} (hk : key ∈ keys) (s : AdminState P)
    (value : Option Stored) :
    ({ s with storage := Function.update s.storage key.text value } : AdminState P).outside keys =
      s.outside keys := by
  refine outside_of_storage (fun name hname => ?_) rfl rfl
  have hne : name ≠ key.text := by
    rintro rfl
    exact hname (List.mem_map_of_mem hk)
  exact Function.update_of_ne hne _ _

theorem get_of_outside {keys : List StorageKey} {s s' : AdminState P}
    (h : s'.outside keys = s.outside keys) (hk : key.text ∉ keys.map StorageKey.text) :
    s'.storage.get key = s.storage.get key := by
  have he := congrFun (congrArg Outside.entries h) key.text
  simp only [outside, if_neg hk] at he
  exact he

def grantEntries (serverId : String) : List StorageKey :=
  [.keyed .activeGrant serverId, .keyed .activeGrantEnvelope serverId,
    .keyed .pinnedServerKey serverId, .fixed .revokedServerIds]

section Holds

variable {s s' : AdminState P} {serverId pin : String} {grant : AdminGrant}
  {envelope : AdminEnvelope} (h : s.Holds serverId grant envelope pin)
include h

theorem Holds.of_entries
    (hget : ∀ entry ∈ grantEntries serverId, s'.storage.get entry = s.storage.get entry) :
    s'.Holds serverId grant envelope pin := by
  refine ⟨?_, ?_, ?_, ?_⟩
  · rw [hget _ (by simp [grantEntries])]
    exact h.ownGrant
  · rw [hget _ (by simp [grantEntries])]
    exact h.ownEnvelope
  · rw [hget _ (by simp [grantEntries])]
    exact h.ownPin
  · rw [revokedServerIds, hget _ (by simp [grantEntries])]
    exact h.notRevoked

theorem Holds.of_outside {keys : List StorageKey} (ho : s'.outside keys = s.outside keys)
    (hkeys : ∀ entry ∈ grantEntries serverId, entry.text ∉ keys.map StorageKey.text) :
    s'.Holds serverId grant envelope pin :=
  h.of_entries fun entry hentry => get_of_outside ho (hkeys entry hentry)

end Holds

/-- A question about rights may note in memory what it has found. -/
def Recalls (s s' : AdminState P) : Prop :=
  ∃ grants active role,
    s' = { s with validatedGrants := grants, activeGrant := active, role := role }

variable {s s' s'' : AdminState P}

theorem Recalls.refl : s.Recalls s := ⟨_, _, _, rfl⟩

theorem Recalls.trans (h : s.Recalls s') (h' : s'.Recalls s'') : s.Recalls s'' := by
  obtain ⟨_, _, _, rfl⟩ := h
  obtain ⟨grants, active, role, rfl⟩ := h'
  exact ⟨grants, active, role, rfl⟩

theorem verifiedGrantForServer_recalls (serverId : Option String) :
    s.Recalls (s.verifiedGrantForServer serverId).2 :=
  ⟨_, _, _, s.verifiedGrantForServer_snd serverId⟩

theorem firstVerifiedGrant_recalls (nodes : List ServerNode) :
    s.Recalls (s.firstVerifiedGrant nodes).2 := ⟨_, _, _, s.firstVerifiedGrant_snd nodes⟩

end AdminState

/-! ### What keeps an invariant -/

/-- The invariant speaks about the store, the clock and the installation operations alone. -/
class OfStore (I : AdminState P → Prop) : Prop where
  congr : ∀ {s s' : AdminState P}, I s → s'.storage = s.storage →
    s'.currentTimeMillis = s.currentTimeMillis →
    s'.installationOperations = s.installationOperations → I s'

/-- The invariant does not speak about the entry. -/
class Overlooks (I : AdminState P → Prop) (key : StorageKey) : Prop where
  update : ∀ (s : AdminState P) value, I s →
    I { s with storage := Function.update s.storage key.text value }

open AdminState

section Keeping

variable {I : AdminState P → Prop} {keys : List StorageKey} {o : Outside} {node : ServerNode}
  {nodes : List ServerNode}

instance : OfStore fun s : AdminState P => s.outside keys = o :=
  ⟨fun hs hst ht ho => (outside_of_storage (fun _ _ => by rw [hst]) ht ho).trans hs⟩

instance [h : Listed key keys] :
    Overlooks (fun s : AdminState P => s.outside keys = o) key :=
  ⟨fun s value hs => (outside_put h.mem s value).trans hs⟩

instance [h : Overlooks I key] {value : Stored} : Keeping I (putString key value) :=
  ⟨keeps_write fun s => h.update s (some value)⟩

instance [h : Overlooks I key] : Keeping I (removeString key) :=
  ⟨keeps_write fun s => h.update s none⟩

variable [OfStore I]

theorem OfStore.recalls {s s' : AdminState P} (hs : I s) (h : s.Recalls s') : I s' := by
  obtain ⟨_, _, _, rfl⟩ := h
  exact OfStore.congr hs rfl rfl rfl

instance {g : AdminState P → AdminState P} [hst : ∀ s, Same (g s).storage s.storage]
    [ht : ∀ s, Same (g s).currentTimeMillis s.currentTimeMillis]
    [ho : ∀ s, Same (g s).installationOperations s.installationOperations] : Maintains I g :=
  ⟨fun s hs => OfStore.congr hs (hst s).eq (ht s).eq (ho s).eq⟩

instance {serverId : Option String} : Maintains I fun s => (s.verifiedGrantForServer serverId).2 :=
  ⟨fun _ hs => OfStore.recalls hs (verifiedGrantForServer_recalls _)⟩

instance {nodes : AdminState P → List ServerNode} :
    Maintains I fun s => (s.firstVerifiedGrant (nodes s)).2 :=
  ⟨fun _ hs => OfStore.recalls hs (firstVerifiedGrant_recalls _)⟩

instance {name : String} {value : Option String} : Keeping I (putCredentialIfSet name value) := by
  unfold putCredentialIfSet putCredential
  split <;> infer_instance

instance : Keeping I (storeNodeCredentials node) := by
  unfold storeNodeCredentials
  infer_instance

instance : Keeping I (storeAndRestoreCredentials node) := by
  unfold storeAndRestoreCredentials
  infer_instance

instance {ref : Option String} : Keeping I (removeNodeCredentials ref) := by
  unfold removeNodeCredentials removeCredential
  split <;> infer_instance

section Nodes

variable [Overlooks I (.fixed .serverNodes)]

instance : Keeping I (saveServerNodes nodes) := by
  unfold saveServerNodes
  infer_instance

instance : Keeping I (setServerNodes nodes) := by
  unfold setServerNodes
  infer_instance

instance : Keeping I (addServerNode node) := by
  unfold addServerNode
  infer_instance

instance : Keeping I (updateServerNode node) := by
  unfold updateServerNode
  infer_instance

instance {id : String} : Keeping I (removeServerNode id) := by
  unfold removeServerNode
  infer_instance

end Nodes

section Profiles

variable [Overlooks I (.fixed .managedProfiles)]

instance {profiles : List ManagedProfile} : Keeping I (saveProfiles profiles) := by
  unfold saveProfiles
  infer_instance

instance {grant : AdminGrant} {documentUrl requestedName : String} :
    Keeping I (ensureOwnerControlProfile node grant documentUrl requestedName) := by
  refine .bind fun _ => .bind fun _ => ?_
  dsimp only
  split <;> infer_instance

end Profiles

section History

variable [Overlooks I (.fixed .commandHistory)]

instance {history : List AdminCommandRecord} : Keeping I (saveHistory history) := by
  unfold saveHistory
  infer_instance

instance {record : AdminCommandRecord} : Keeping I (recordCommand record) := by
  unfold recordCommand
  infer_instance

instance {opId status : String} {revision : Option Int} {error : Option String} :
    Keeping I (updateCommandStatus opId status revision error) := by
  unfold updateCommandStatus
  infer_instance

end History

end Keeping

theorem addServerNode_fails (node : ServerNode) (s : AdminState P) (e : Throwable) :
    ∃ s', (addServerNode node).Fails s s' e ∧ s'.outside [] = s.outside [] := by
  obtain ⟨added, s₁, hadded⟩ := storeAndRestoreCredentials_returns node s
  have h₁ : outside [] s₁ = outside [] s := (Keeping.leaves).of_exec hadded
  set nodes := s.serverNodes.filter (·.id != node.id) ++ [added]
  obtain ⟨safeNodes, s₂, hsafe⟩ := returns_mapEach storeNodeCredentials_returns
    { s₁ with serverNodes := nodes }
  have h₂ : outside [] s₂ = outside [] { s₁ with serverNodes := nodes } :=
    (Keeping.leaves).of_exec hsafe
  refine ⟨s₂, ?_, h₂.trans h₁⟩
  exact fails_bind (exec_read _ s) (fails_bind hadded
    (fails_bind (exec_modify _ s₁) (fails_bind hsafe fails_write)))

end LibreRoute.Admin
