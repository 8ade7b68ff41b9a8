import LibreRoute.Admin.Operations

/-!
Pins, join requests and grants: how a right comes to a device and how it
is given up. `applyAdminGrant` is cut at its durable part: the checks on
the incoming envelope, the writes that persist the grant (whose failure is
reported, not thrown), and what follows once the grant is stored.
-/

namespace LibreRoute.Admin

open LibreRoute.Lib StorageKey AdminState

variable {P : Platform} {s : AdminState P} {grant : AdminGrant} {key : String}
  {grantEnvelope : AdminEnvelope} {serverId : Option String}

def putServerPin (keyBase64 : String) (serverId : Option String) : AdminM P Unit :=
  match serverId with
  | none => pure ()
  | some id =>
    Prog.when (!isBlank id) (putString (.keyed .pinnedServerKey id) (.text keyBase64))

def setPinnedServerPublicKey (keyBase64 : String) (serverId : Option String) : AdminM P Unit := do
  putServerPin keyBase64 serverId
  let legacy ← Prog.read fun s => s.storedText (.fixed .pinnedServerKey)
  Prog.when (isNullOrBlank legacy || serverId.isNone)
    (putString (.fixed .pinnedServerKey) (.text keyBase64))

def putRevokedServerIds (update : List String → List String) : AdminM P Unit := do
  let ids ← Prog.read fun s => s.revokedServerIds
  putString (.fixed .revokedServerIds) (.serverIds (update ids.eraseDups))

/-- `getRole()`: when the active grant has expired, the first server that still has a
grant in force takes its place. -/
def AdminState.refreshRole (s : AdminState P) : AdminRole × AdminState P :=
  match s.activeGrant with
  | none => (s.role, s)
  | some grant =>
    if grant.expiresAt ≤ s.currentTimeSeconds then
      let (remaining, s') := s.firstVerifiedGrant s.serverNodes
      let role := (remaining.map (·.role)).getD .none
      (role, { s' with activeGrant := remaining, role := role })
    else (s.role, s)

def AdminState.anyNodeGrant (predicate : AdminGrant → Bool) :
    List ServerNode → AdminState P → Bool × AdminState P
  | [], s => (false, s)
  | node :: nodes, s =>
    let (grant, s') := s.verifiedGrantForServer (some node.id)
    if (grant.map predicate).getD false then (true, s') else s'.anyNodeGrant predicate nodes

def AdminState.hasCapabilityOnAnyServer (predicate : AdminGrant → Bool) (s : AdminState P) :
    Bool × AdminState P :=
  let (grant, s') := s.verifiedGrantForServer none
  if (grant.map predicate).getD false then (true, s') else s'.anyNodeGrant predicate s'.serverNodes

def AdminState.hasAdminReadAccess (s : AdminState P) : Bool × AdminState P :=
  s.refreshRole.2.hasCapabilityOnAnyServer (·.role.granted)

structure JoinSeed where
  nonce : String
  opId : String
  deriving DecidableEq, Repr

def joinPayload (P : Platform) (targetProfileId : String) (desiredRole : AdminRole)
    (setupToken clientEphemeralKey : Option String) (oneTimeCode : String) :
    List (String × String) :=
  [("device_id", P.getFingerprint), ("public_key", P.getPublicKeyBase64),
    ("profile_id", targetProfileId),
    ("role", String.ofList (desiredRole.name.toList.map Char.toLower)),
    ("one_time_code", oneTimeCode)] ++
  (match setupToken with
    | some token => if isBlank token then [] else [("setup_token", trim token)]
    | none => []) ++
  (match clientEphemeralKey with
    | some key => if isBlank key then [] else [("client_ephemeral_key", key)]
    | none => [])

def joinEnvelope (P : Platform) (now : Int) (seed : JoinSeed) (targetProfileId : String)
    (desiredRole : AdminRole) (setupToken clientEphemeralKey : Option String) : AdminEnvelope :=
  P.signEnvelope
    { subtype := AdminEnvelope.subtypeRequest
      profileId := targetProfileId
      opId := seed.opId
      exp := now + 600
      sender := P.getFingerprint
      nonce := seed.nonce
      payload := P.encodePayload
        (joinPayload P targetProfileId desiredRole setupToken clientEphemeralKey
          (P.generateOneTimeCode seed.nonce)) }

def createJoinRequest (seed : JoinSeed) (targetProfileId : String) (desiredRole : AdminRole)
    (setupToken clientEphemeralKey : Option String) : AdminM P (AdminEnvelope × String) := do
  let checkpoint ← Prog.read fun s => s.storage.get (.fixed .delegationCheckpoint)
  Prog.require checkpoint.isNone
    (.illegalArgument "Сначала завершите или отмените предыдущее подтверждение прав")
  let oneTimeCode := P.generateOneTimeCode seed.nonce
  let now ← Prog.read fun s => s.currentTimeSeconds
  let signed := joinEnvelope P now seed targetProfileId desiredRole setupToken clientEphemeralKey
  putString (.fixed .pendingRequest) (.envelope signed)
  putString (.fixed .lastPairingCode) (.text oneTimeCode)
  Prog.modify fun s =>
    { s with pendingRequest := some signed, lastPairingCode := some oneTimeCode }
  let hasAccess ← Prog.call hasAdminReadAccess
  Prog.modify fun s => if hasAccess then s else { s with role := .pending }
  let millis ← Prog.read fun s => s.currentTimeMillis
  recordCommand
    { opId := signed.opId
      targetProfileId := targetProfileId
      commandType := "request"
      status := "pending"
      channel := "document"
      timestamp := millis
      revision := 1
      payload := "Join request for role " ++ desiredRole.name }
  pure (signed, oneTimeCode)

/-! ### Grants -/

/-- The checks on an incoming grant: the grant, or why it is refused. -/
def AdminState.checkAdminGrant (s : AdminState P) (grantEnvelope : AdminEnvelope)
    (serverPublicKeyBase64 : String) : Except String AdminGrant :=
  match P.decodeGrant grantEnvelope.payload with
  | .error _ => .error "Invalid administrator grant payload"
  | .ok grant =>
    match s.getPinnedServerPublicKey grant.serverId, s.pendingRequest with
    | none, _ => .error "Server key is not pinned from a trusted local source"
    | some _, none => .error "No pending administrator request"
    | some pinnedKey, some pending =>
      if !P.verifyServerResponse grantEnvelope serverPublicKeyBase64 (some pinnedKey) then
        .error ("Подпись сервера на ADMIN_GRANT недействительна или не совпадает " ++
          "с закреплённым ключом!")
      else if pending.profileId != grantEnvelope.profileId ||
          pending.nonce != grantEnvelope.nonce ||
          !P.validGrantFields s.currentTimeSeconds grantEnvelope grant pinnedKey then
        .error "Administrator grant does not match this request"
      else .ok grant

structure AdminState.GrantChecked (s : AdminState P) (grantEnvelope : AdminEnvelope)
    (serverPublicKeyBase64 : String) (grant : AdminGrant) : Prop where
  decoded : P.decodeGrant grantEnvelope.payload = .ok grant
  pinned : s.getPinnedServerPublicKey grant.serverId = some serverPublicKeyBase64
  requested : ∃ pending, s.pendingRequest = some pending ∧
    pending.profileId = grantEnvelope.profileId ∧ pending.nonce = grantEnvelope.nonce
  authentic : P.Authentic s.currentTimeSeconds grantEnvelope grant serverPublicKeyBase64

theorem AdminState.checkAdminGrant_ok {serverPublicKeyBase64 : String} :
    s.checkAdminGrant grantEnvelope serverPublicKeyBase64 = .ok grant ↔
      s.GrantChecked grantEnvelope serverPublicKeyBase64 grant := by
  unfold checkAdminGrant
  constructor
  · intro h
    rcases hd : P.decodeGrant grantEnvelope.payload with e | g
    · simp [hd] at h
    rcases hp : s.getPinnedServerPublicKey g.serverId with _ | pinnedKey
    · simp [hd, hp] at h
    rcases hr : s.pendingRequest with _ | pending
    · simp [hd, hp, hr] at h
    simp only [hd, hp, hr] at h
    split at h
    · simp at h
    next hverified =>
    split at h
    · simp at h
    next hmatches =>
    obtain rfl := Except.ok.inj h
    simp only [Bool.not_eq_true', Bool.not_eq_false] at hverified
    simp only [Bool.or_eq_true, bne_iff_ne, ne_eq, Bool.not_eq_true', not_or, not_not,
      Bool.not_eq_false] at hmatches
    obtain rfl := Platform.verifyServerResponse_key hverified
    exact ⟨hd, hp, ⟨pending, hr, hmatches.1⟩, Bool.and_eq_true_iff.2 ⟨hmatches.2, hverified⟩⟩
  · rintro ⟨hd, hp, ⟨pending, hr, hprofile, hnonce⟩, ha⟩
    obtain ⟨hfields, hverified⟩ := Bool.and_eq_true_iff.1 ha
    simp [hd, hp, hr, hfields, hverified, hprofile, hnonce]

def putServerGrant (effServerId : Option String) (grant : AdminGrant)
    (grantEnvelope : AdminEnvelope) (serverPublicKeyBase64 : String) : AdminM P Unit :=
  match effServerId with
  | none => pure ()
  | some id =>
    Prog.when (!isBlank id) do
      putString (.keyed .activeGrant id) (.grant grant)
      putString (.keyed .activeGrantEnvelope id) (.envelope grantEnvelope)
      putString (.keyed .pinnedServerKey id) (.text serverPublicKeyBase64)

def putLegacyGrant (grant : AdminGrant) (grantEnvelope : AdminEnvelope)
    (serverPublicKeyBase64 : String) : AdminM P Unit := do
  putString (.fixed .activeGrant) (.grant grant)
  putString (.fixed .activeGrantEnvelope) (.envelope grantEnvelope)
  putString (.fixed .pinnedServerKey) (.text serverPublicKeyBase64)

/-- The server a grant is stored for: the one it names, or the only node. -/
def AdminState.effectiveServerId (s : AdminState P) (grant : AdminGrant) : Option String :=
  grant.serverId <|> (singleOrNull s.serverNodes).map (·.id)

def persistGrant (grant : AdminGrant) (grantEnvelope : AdminEnvelope)
    (serverPublicKeyBase64 : String) : AdminM P Unit := do
  let effServerId ← Prog.read fun s => s.effectiveServerId grant
  putServerGrant effServerId grant grantEnvelope serverPublicKeyBase64
  let legacyPin ← Prog.read fun s => s.getPinnedServerPublicKey none
  Prog.when (legacyPin.isNone || legacyPin == some serverPublicKeyBase64)
    (putLegacyGrant grant grantEnvelope serverPublicKeyBase64)
  putString (.fixed .role) (.text grant.role.name)
  removeString (.fixed .pendingRequest)
  removeString (.fixed .lastPairingCode)

def ensureGrantedProfile (grant : AdminGrant) : AdminM P Unit :=
  match grant.serverId with
  | none => pure ()
  | some serverId => do
      let node ← Prog.read fun s => s.getServerNode serverId
      match node with
      | none => pure ()
      | some node =>
        let documentUrl ← Prog.read fun s => s.defaultDocumentUrl serverId
        ensureOwnerControlProfile node grant (documentUrl.getD "") ""

def acceptGrant (grant : AdminGrant) (grantEnvelope : AdminEnvelope) :
    AdminM P AdminOpResult := do
  Prog.modify fun s =>
    { s with
      activeGrant := some grant
      pendingRequest := none
      lastPairingCode := none
      role := grant.role }
  putRevokedServerIds fun ids => ids.filter (· != grant.serverId.getD "legacy")
  ensureGrantedProfile grant
  updateCommandStatus grantEnvelope.opId "verified" (some grantEnvelope.rev) none
  pure (.success ("Права администратора подтверждены: роль " ++ grant.role.name)
    (some grantEnvelope))

def applyAdminGrant (grantEnvelope : AdminEnvelope) (serverPublicKeyBase64 : String) :
    AdminM P AdminOpResult := do
  let checked ← Prog.read fun s => s.checkAdminGrant grantEnvelope serverPublicKeyBase64
  match checked with
  | .error message => pure (.failure message none)
  | .ok grant => do
      let failed ← (persistGrant grant grantEnvelope serverPublicKeyBase64 >>= fun _ =>
        pure none).attempt fun e => pure (some e)
      match failed with
      | some e =>
        pure (.failure ("Ошибка сохранения допуска администратора: " ++ e.message.getD "null") none)
      | none => acceptGrant grant grantEnvelope

def removeServerGrant (serverId : String) : AdminM P Unit := do
  removeString (.keyed .activeGrant serverId)
  removeString (.keyed .activeGrantEnvelope serverId)

def removeLocalAdminGrant (serverId : String) : AdminM P Unit := do
  putRevokedServerIds fun ids => (ids ++ [serverId]).eraseDups
  removeServerGrant serverId
  let affected ← Prog.read fun s =>
    (s.activeGrant.bind (·.serverId)) == some serverId || s.legacyGrantBelongsTo serverId
  Prog.when affected do
    removeString (.fixed .activeGrant)
    removeString (.fixed .activeGrantEnvelope)
    let remaining ← Prog.call fun s => s.firstVerifiedGrant s.serverNodes
    Prog.modify fun s =>
      { s with activeGrant := remaining, role := (remaining.map (·.role)).getD .none }

def AdminState.listedServerIds (s : AdminState P) : List String :=
  s.serverNodes.map (·.id) ++ (s.activeGrant.bind (·.serverId)).toList

def revokeAdminRights : AdminM P Unit := do
  let serverIds ← Prog.read fun s => s.listedServerIds
  putRevokedServerIds fun ids => (ids ++ serverIds ++ ["legacy"]).eraseDups
  Prog.forEach serverIds.eraseDups removeServerGrant
  removeString (.fixed .activeGrant)
  removeString (.fixed .activeGrantEnvelope)
  removeString (.fixed .role)
  removeString (.fixed .pendingRequest)
  removeString (.fixed .lastPairingCode)
  removeString (.fixed .pendingAdminContext)
  removeString (.fixed .delegationCheckpoint)
  Prog.modify fun s =>
    { s with
      activeGrant := none
      pendingRequest := none
      lastPairingCode := none
      role := .none }

/-! ### Undisturbed calls -/

def AdminState.pinnedStorage (s : AdminState P) (keyBase64 : String)
    (serverId : Option String) : Storage :=
  let own :=
    match serverId with
    | none => s.storage
    | some id =>
      if isBlank id then s.storage else s.storage.put (.keyed .pinnedServerKey id) (.text keyBase64)
  if isNullOrBlank (s.storedText (.fixed .pinnedServerKey)) || serverId.isNone then
    own.put (.fixed .pinnedServerKey) (.text keyBase64)
  else own

@[simp] theorem setPinnedServerPublicKey_exec (keyBase64 : String) (serverId : Option String)
    (s : AdminState P) :
    (setPinnedServerPublicKey keyBase64 serverId).exec s =
      (.ok (), { s with storage := s.pinnedStorage keyBase64 serverId }) := by
  have hkey : ∀ id, (fixed .pinnedServerKey).text ≠ (keyed .pinnedServerKey id).text := by
    simp
  rcases serverId with _ | id
  · simp [setPinnedServerPublicKey, putServerPin, pinnedStorage]
  · by_cases hb : isBlank id <;>
      by_cases hl : isNullOrBlank (s.storedText (.fixed .pinnedServerKey)) <;>
      simp [setPinnedServerPublicKey, putServerPin, pinnedStorage, hb] <;>
      simp_all [storedText, Storage.get_put]

theorem AdminState.pinnedStorage_get (s : AdminState P) {entry : StorageKey}
    (hlegacy : entry.text ≠ (fixed .pinnedServerKey).text)
    (hserver : ∀ id, serverId = some id → entry.text ≠ (keyed .pinnedServerKey id).text) :
    (s.pinnedStorage key serverId).get entry = s.storage.get entry := by
  rcases serverId with _ | id
  · simp [pinnedStorage, Storage.get_put, hlegacy]
  · have hserver := hserver id rfl
    simp only [pinnedStorage]
    split <;> split <;> simp [Storage.get_put, hlegacy, hserver]

def StorageKey.pin : Option String → StorageKey
  | none => .fixed .pinnedServerKey
  | some id => .keyed .pinnedServerKey id

theorem AdminState.getPinnedServerPublicKey_of_entry (hkey : isBlank key = false)
    (hnamed : ∀ id, serverId = some id → isBlank id = false)
    (h : s.storedText (.pin serverId) = some key) :
    s.getPinnedServerPublicKey serverId = some key := by
  rcases serverId with _ | id
  · exact h
  · simp only [pin] at h
    simp [getPinnedServerPublicKey, hnamed id rfl, h, hkey]

theorem AdminState.pinnedStorage_pin (s : AdminState P)
    (hnamed : ∀ id, serverId = some id → isBlank id = false) :
    (s.pinnedStorage key serverId).get (.pin serverId) = some (.text key) := by
  rcases serverId with _ | id
  · simp [pinnedStorage, pin]
  · have hlegacy : (keyed .pinnedServerKey id).text ≠ (fixed .pinnedServerKey).text := by
      simp
    simp only [pinnedStorage, pin, hnamed id rfl]
    split <;> simp [Storage.get_put, hlegacy]

def Storage.putServerGrant (st : Storage) (effServerId : Option String) (grant : AdminGrant)
    (grantEnvelope : AdminEnvelope) (serverPublicKeyBase64 : String) : Storage :=
  match effServerId with
  | none => st
  | some id =>
    if isBlank id then st
    else
      ((st.put (.keyed .activeGrant id) (.grant grant)).put
        (.keyed .activeGrantEnvelope id) (.envelope grantEnvelope)).put
          (.keyed .pinnedServerKey id) (.text serverPublicKeyBase64)

theorem putServerGrant_exec (effServerId : Option String) (grant : AdminGrant)
    (grantEnvelope : AdminEnvelope) (serverPublicKeyBase64 : String) (s : AdminState P) :
    (putServerGrant effServerId grant grantEnvelope serverPublicKeyBase64).exec s =
      (.ok (), { s with
        storage := s.storage.putServerGrant effServerId grant grantEnvelope
          serverPublicKeyBase64 }) := by
  rcases effServerId with _ | id
  · exact exec_pure () s
  · by_cases hb : isBlank id <;> simp [putServerGrant, Storage.putServerGrant, hb]

def Storage.putLegacyGrant (st : Storage) (grant : AdminGrant) (grantEnvelope : AdminEnvelope)
    (serverPublicKeyBase64 : String) : Storage :=
  ((st.put (.fixed .activeGrant) (.grant grant)).put
    (.fixed .activeGrantEnvelope) (.envelope grantEnvelope)).put
      (.fixed .pinnedServerKey) (.text serverPublicKeyBase64)

def AdminState.grantedStorage (s : AdminState P) (grant : AdminGrant)
    (grantEnvelope : AdminEnvelope) (serverPublicKeyBase64 : String) : Storage :=
  let own := s.storage.putServerGrant (s.effectiveServerId grant) grant grantEnvelope
    serverPublicKeyBase64
  let legacyPin := (own.get (.fixed .pinnedServerKey)).bind Stored.asText
  let legacy :=
    if legacyPin.isNone || legacyPin == some serverPublicKeyBase64 then
      own.putLegacyGrant grant grantEnvelope serverPublicKeyBase64
    else own
  ((legacy.put (.fixed .role) (.text grant.role.name)).remove
    (.fixed .pendingRequest)).remove (.fixed .lastPairingCode)

theorem persistGrant_exec (grant : AdminGrant) (grantEnvelope : AdminEnvelope)
    (serverPublicKeyBase64 : String) (s : AdminState P) :
    (persistGrant grant grantEnvelope serverPublicKeyBase64).exec s =
      (.ok (), { s with
        storage := s.grantedStorage grant grantEnvelope serverPublicKeyBase64 }) := by
  simp only [persistGrant, grantedStorage, exec_bind, exec_read,
    putServerGrant_exec, exec_when, getPinnedServerPublicKey,
    storedText]
  generalize (Option.isNone _ || _) = legacy
  cases legacy <;> simp [putLegacyGrant, Storage.putLegacyGrant]

/-! ### What keeps an invariant -/

open AdminState

theorem AdminState.refreshRole_recalls (s : AdminState P) : s.Recalls s.refreshRole.2 := by
  unfold refreshRole
  split
  · exact .refl
  · split
    · obtain ⟨grants, active, role, h⟩ := firstVerifiedGrant_recalls s.serverNodes
      exact ⟨grants, _, _, by dsimp only; rw [h]⟩
    · exact .refl

theorem AdminState.anyNodeGrant_recalls (predicate : AdminGrant → Bool) (nodes : List ServerNode)
    (s : AdminState P) : s.Recalls (s.anyNodeGrant predicate nodes).2 := by
  induction nodes generalizing s with
  | nil => exact .refl
  | cons node nodes ih =>
    simp only [anyNodeGrant]
    split
    · exact verifiedGrantForServer_recalls _
    · exact (verifiedGrantForServer_recalls _).trans (ih _)

theorem AdminState.hasAdminReadAccess_recalls (s : AdminState P) :
    s.Recalls s.hasAdminReadAccess.2 := by
  refine s.refreshRole_recalls.trans ?_
  simp only [hasAdminReadAccess, hasCapabilityOnAnyServer]
  split
  · exact verifiedGrantForServer_recalls _
  · exact (verifiedGrantForServer_recalls _).trans (anyNodeGrant_recalls _ _ _)

section Keeping

variable {I : AdminState P → Prop}

instance [∀ id, Overlooks I (.keyed .pinnedServerKey id)] :
    Keeping I (putServerPin key serverId) := by
  unfold putServerPin
  split <;> infer_instance

instance [Keeping I (putServerPin key serverId)] [Overlooks I (.fixed .pinnedServerKey)] :
    Keeping I (setPinnedServerPublicKey key serverId) := by
  unfold setPinnedServerPublicKey
  infer_instance

instance {update : List String → List String} [Overlooks I (.fixed .revokedServerIds)] :
    Keeping I (putRevokedServerIds update) := by
  unfold putRevokedServerIds
  infer_instance

instance [∀ family id, Overlooks I (.keyed family id)] :
    Keeping I (putServerGrant serverId grant grantEnvelope key) := by
  unfold putServerGrant
  split <;> infer_instance

instance [Overlooks I (.fixed .activeGrant)] [Overlooks I (.fixed .activeGrantEnvelope)]
    [Overlooks I (.fixed .pinnedServerKey)] :
    Keeping I (putLegacyGrant grant grantEnvelope key) := by
  unfold putLegacyGrant
  infer_instance

instance [h : ∀ s : AdminState P,
      Keeping I (putServerGrant (s.effectiveServerId grant) grant grantEnvelope key)]
    [Keeping I (putLegacyGrant grant grantEnvelope key)] [Overlooks I (.fixed .role)]
    [Overlooks I (.fixed .pendingRequest)] [Overlooks I (.fixed .lastPairingCode)] :
    Keeping I (persistGrant grant grantEnvelope key) :=
  .read_bind fun s _ => @Keeping.bind _ _ _ _ _ _ _ (h s) inferInstance

instance {serverId : String}
    [Keeping I (removeString (.keyed .activeGrant serverId) : AdminM P Unit)]
    [Keeping I (removeString (.keyed .activeGrantEnvelope serverId) : AdminM P Unit)] :
    Keeping I (removeServerGrant serverId) := by
  unfold removeServerGrant
  infer_instance

variable [OfStore I] [Overlooks I (.fixed .commandHistory)]

-- the size of an answer doubles with every line of a program
set_option synthInstance.maxSize 100000 in
instance {seed : JoinSeed} {targetProfileId : String} {desiredRole : AdminRole}
    {setupToken clientEphemeralKey : Option String} [Overlooks I (.fixed .pendingRequest)]
    [Overlooks I (.fixed .lastPairingCode)] :
    Keeping I (createJoinRequest seed targetProfileId desiredRole setupToken
      clientEphemeralKey) := by
  have hread : Maintains I fun s => s.hasAdminReadAccess.2 :=
    ⟨fun s hs => OfStore.recalls hs s.hasAdminReadAccess_recalls⟩
  have hpending : ∀ hasAccess : Bool,
      Maintains I fun s => if hasAccess then s else { s with role := .pending } := by
    rintro (_ | _)
    · exact inferInstanceAs (Maintains I fun s => { s with role := .pending })
    · exact ⟨fun _ hs => hs⟩
  dsimp only [createJoinRequest]
  infer_instance

section Profiles

variable [Overlooks I (.fixed .managedProfiles)]

omit [Overlooks I (.fixed .commandHistory)] in
instance : Keeping I (ensureGrantedProfile grant) := by
  unfold ensureGrantedProfile
  split
  · infer_instance
  · refine .bind fun _ => ?_
    split <;> infer_instance

instance [Keeping I (putRevokedServerIds (P := P) fun ids =>
      ids.filter (· != grant.serverId.getD "legacy"))] :
    Keeping I (acceptGrant grant grantEnvelope) := by
  unfold acceptGrant
  infer_instance

end Profiles

omit [OfStore I] [Overlooks I (.fixed .commandHistory)] in
theorem applyAdminGrant_keeping (h : ∀ grant, P.decodeGrant grantEnvelope.payload = .ok grant →
      Keeping I (persistGrant grant grantEnvelope key) ∧
      Keeping I (acceptGrant grant grantEnvelope)) :
    Keeping I (applyAdminGrant grantEnvelope key) := by
  refine .read_bind fun s _ => ?_
  rcases hchecked : s.checkAdminGrant grantEnvelope key with message | grant
  · exact inferInstanceAs (Keeping I (pure _))
  obtain ⟨hpersist, haccept⟩ := h grant (checkAdminGrant_ok.1 hchecked).decoded
  refine .bind fun failed => ?_
  split <;> infer_instance

omit [OfStore I] [Overlooks I (.fixed .commandHistory)] in
instance [hpersist : ∀ grant, Keeping I (persistGrant grant grantEnvelope key)]
    [haccept : ∀ grant, Keeping I (acceptGrant grant grantEnvelope)] :
    Keeping I (applyAdminGrant grantEnvelope key) :=
  applyAdminGrant_keeping fun grant _ => ⟨hpersist grant, haccept grant⟩

set_option synthInstance.maxSize 100000 in
omit [Overlooks I (.fixed .commandHistory)] in
instance {serverId : String}
    [Keeping I (putRevokedServerIds (P := P) fun ids => (ids ++ [serverId]).eraseDups)]
    [Keeping I (removeServerGrant serverId : AdminM P Unit)]
    [Keeping I (removeString (.fixed .activeGrant) : AdminM P Unit)]
    [Keeping I (removeString (.fixed .activeGrantEnvelope) : AdminM P Unit)] :
    Keeping I (removeLocalAdminGrant serverId) := by
  unfold removeLocalAdminGrant
  infer_instance

end Keeping

/-- The entries that decide what a start replays. -/
def replayKeys : List StorageKey :=
  [.fixed .revokedServerIds, .fixed .delegationCheckpoint, .fixed .installOperations]

@[reducible] def FixedKey.replayed : FixedKey → Bool
  | .revokedServerIds | .delegationCheckpoint | .installOperations => true
  | _ => false

/-- Of the store, the invariant speaks about these entries alone. -/
class OfReplays (I : AdminState P → Prop) : Prop extends OfStore I where
  overlooks : ∀ {key}, (∀ entry ∈ replayKeys, entry.text ≠ key.text) → Overlooks I key

section Replays

variable {I : AdminState P → Prop} [OfReplays I]

instance {family : KeyFamily} {id : String} : Overlooks I (.keyed family id) :=
  OfReplays.overlooks (by simp [replayKeys])

instance {key : FixedKey} [h : Same key.replayed false] : Overlooks I (.fixed key) := by
  refine OfReplays.overlooks fun entry hentry => ?_
  have hkey := h.eq
  simp only [replayKeys, List.mem_cons, List.not_mem_nil, or_false] at hentry
  rcases hentry with rfl | rfl | rfl <;>
    simp only [text_eq_text, Overlaps, or_false, fixed.injEq, ne_eq] <;> rintro rfl <;> cases hkey

instance : Overlooks I (.pin serverId) := by
  cases serverId
  · exact inferInstanceAs (Overlooks I (.fixed _))
  · exact inferInstanceAs (Overlooks I (.keyed _ _))

end Replays

/-- The part of the memory that neither reading rights nor keeping records touches. -/
def AdminState.requests (s : AdminState P) : Option AdminEnvelope × List ServerNode :=
  (s.pendingRequest, s.serverNodes)

theorem AdminState.Recalls.requests {s' : AdminState P} (h : s.Recalls s') :
    s'.requests = s.requests := by
  obtain ⟨_, _, _, rfl⟩ := h
  rfl

theorem createJoinRequest_exec (h : s.storage.get (.fixed .delegationCheckpoint) = none)
    (seed : JoinSeed) (targetProfileId : String) (desiredRole : AdminRole)
    (setupToken clientEphemeralKey : Option String) :
    let signed := joinEnvelope P s.currentTimeSeconds seed targetProfileId desiredRole setupToken
      clientEphemeralKey
    ∃ s', (createJoinRequest seed targetProfileId desiredRole setupToken
        clientEphemeralKey).exec s = (.ok (signed, P.generateOneTimeCode seed.nonce), s') ∧
      s'.requests = (some signed, s.serverNodes) := by
  intro signed
  simp only [createJoinRequest, exec_bind, exec_read, h, Option.isNone_none,
    exec_require, if_true, putString_exec, exec_modify, exec_call, recordCommand,
    saveHistory, exec_pure]
  refine ⟨_, rfl, ?_⟩
  set stored : AdminState P := { s with
    storage := (s.storage.put (.fixed .pendingRequest) (.envelope signed)).put
      (.fixed .lastPairingCode) (.text (P.generateOneTimeCode seed.nonce))
    pendingRequest := some signed
    lastPairingCode := some (P.generateOneTimeCode seed.nonce) } with hstored
  have hr : stored.hasAdminReadAccess.2.requests = (some signed, s.serverNodes) :=
    stored.hasAdminReadAccess_recalls.requests
  cases stored.hasAdminReadAccess.1 <;> exact hr

/-! ### An accepted grant -/

theorem ensureGrantedProfile_exec (grant : AdminGrant) (s : AdminState P) :
    ∃ profiles st, (ensureGrantedProfile grant).exec s =
      (.ok (), { s with managedProfiles := profiles, storage := st }) := by
  unfold ensureGrantedProfile
  rcases grant.serverId with _ | serverId
  · exact ⟨s.managedProfiles, s.storage, exec_pure () s⟩
  rcases hn : s.getServerNode serverId with _ | node
  · exact ⟨s.managedProfiles, s.storage, by simp [hn]⟩
  · obtain ⟨profiles, h⟩ := ensureOwnerControlProfile_exec node grant
      ((s.defaultDocumentUrl serverId).getD "") "" s
    refine ⟨profiles, s.storage.put (.fixed .managedProfiles) (.profiles profiles), ?_⟩
    simp [hn, h]

/-- What `acceptGrant` does to the revoked set and to the fields in memory. -/
def AdminState.accepted (s : AdminState P) (grant : AdminGrant) : AdminState P :=
  { s with
    storage := s.storage.put (.fixed .revokedServerIds) (.serverIds
      (s.revokedServerIds.eraseDups.filter (· != grant.serverId.getD "legacy")))
    activeGrant := some grant
    pendingRequest := none
    lastPairingCode := none
    role := grant.role }

def grantedMessage (grant : AdminGrant) : String :=
  "Права администратора подтверждены: роль " ++ grant.role.name

theorem acceptGrant_exec (grant : AdminGrant) (grantEnvelope : AdminEnvelope)
    (s : AdminState P) :
    ∃ profiles history st,
      (acceptGrant grant grantEnvelope).exec s =
        (.ok (.success (grantedMessage grant) (some grantEnvelope)),
          { s.accepted grant with
            managedProfiles := profiles, commandHistory := history, storage := st }) ∧
      ∀ key, key.text ∉ [FixedKey.managedProfiles.text, FixedKey.commandHistory.text] →
        st.get key = (s.accepted grant).storage.get key := by
  obtain ⟨profiles, st, hprofile⟩ := ensureGrantedProfile_exec grant (s.accepted grant)
  obtain ⟨history, hstatus⟩ := updateCommandStatus_exec grantEnvelope.opId "verified"
    (some grantEnvelope.rev) none
    { s.accepted grant with managedProfiles := profiles, storage := st }
  refine ⟨profiles, history, st.put (.fixed .commandHistory) (.history history), ?_,
    fun key hkey => ?_⟩
  · have hrevoked : (acceptGrant grant grantEnvelope : AdminM P _).exec s = (do
          ensureGrantedProfile grant
          updateCommandStatus grantEnvelope.opId "verified" (some grantEnvelope.rev) none
          pure (AdminOpResult.success (grantedMessage grant) (some grantEnvelope)) :
            AdminM P _).exec (s.accepted grant) := by
      simp only [acceptGrant, exec_bind, exec_modify, putRevokedServerIds,
        exec_read, putString_exec]
      rfl
    simp [hrevoked, hprofile, hstatus]
  · have hleaves := (Keeping.leaves (f := outside [.fixed .managedProfiles])).of_exec hprofile
    simp only [List.mem_cons, List.not_mem_nil, or_false, not_or] at hkey
    rw [Storage.get_put_of_ne _ _ hkey.2]
    exact get_of_outside hleaves (by simpa [text] using hkey.1)

def AdminState.granted (s : AdminState P) (grant : AdminGrant) (grantEnvelope : AdminEnvelope)
    (serverPublicKeyBase64 : String) : AdminState P :=
  accepted
    { s with storage := s.grantedStorage grant grantEnvelope serverPublicKeyBase64 } grant

theorem applyAdminGrant_exec {serverPublicKeyBase64 : String}
    (h : s.GrantChecked grantEnvelope serverPublicKeyBase64 grant) :
    ∃ profiles history st,
      (applyAdminGrant grantEnvelope serverPublicKeyBase64).exec s =
        (.ok (.success (grantedMessage grant) (some grantEnvelope)),
          { s.granted grant grantEnvelope serverPublicKeyBase64 with
            managedProfiles := profiles, commandHistory := history, storage := st }) ∧
      ∀ key, key.text ∉ [FixedKey.managedProfiles.text, FixedKey.commandHistory.text] →
        st.get key = (s.granted grant grantEnvelope serverPublicKeyBase64).storage.get key := by
  obtain ⟨profiles, history, st, hrun, hst⟩ := acceptGrant_exec grant grantEnvelope
    { s with storage := s.grantedStorage grant grantEnvelope serverPublicKeyBase64 }
  refine ⟨profiles, history, st, ?_, hst⟩
  simp only [applyAdminGrant, exec_bind, exec_read, checkAdminGrant_ok.2 h,
    exec_attempt, persistGrant_exec, exec_pure, hrun]
  rfl

def serverGrantKeys (serverId : String) : List StorageKey :=
  [.keyed .activeGrant serverId, .keyed .activeGrantEnvelope serverId,
    .keyed .pinnedServerKey serverId]

def unscopedGrantKeys : List StorageKey :=
  [.fixed .activeGrant, .fixed .activeGrantEnvelope, .fixed .pinnedServerKey, .fixed .role,
    .fixed .pendingRequest, .fixed .lastPairingCode, .fixed .revokedServerIds]

namespace AdminState

theorem granted_get_of_notMem (s : AdminState P) (envelope : AdminEnvelope) (key : String)
    {entry : StorageKey} (hserver : ∀ id, s.effectiveServerId grant = some id →
      entry.text ∉ (serverGrantKeys id).map text)
    (hunscoped : entry.text ∉ unscopedGrantKeys.map text) :
    (s.granted grant envelope key).storage.get entry = s.storage.get entry := by
  have hown : (s.storage.putServerGrant (s.effectiveServerId grant) grant envelope key).get entry =
      s.storage.get entry := by
    rcases heff : s.effectiveServerId grant with _ | id
    · rfl
    · have h := hserver id heff
      simp only [serverGrantKeys, List.map_cons, List.map_nil, List.mem_cons, List.not_mem_nil,
        or_false, not_or] at h
      simp only [Storage.putServerGrant]
      split
      · rfl
      · simp only [Storage.get_put, if_neg h.1, if_neg h.2.1, if_neg h.2.2]
  simp only [unscopedGrantKeys, List.map_cons, List.map_nil, List.mem_cons, List.not_mem_nil,
    or_false, not_or] at hunscoped
  obtain ⟨h1, h2, h3, h4, h5, h6, h7⟩ := hunscoped
  simp only [granted, accepted, grantedStorage, Storage.get_put, Storage.get_remove, if_neg h4,
    if_neg h5, if_neg h6, if_neg h7]
  split
  · simp only [Storage.putLegacyGrant, Storage.get_put, if_neg h1, if_neg h2, if_neg h3, hown]
  · exact hown

/-- A server's own entries after a grant for it. An id that makes the text of another
entry is excluded. -/
theorem granted_get_own {envelope : AdminEnvelope} {serverId : String}
    (heff : s.effectiveServerId grant = some serverId) (hnamed : isBlank serverId = false)
    (henvelope : serverId ≠ "envelope") : let st := (s.granted grant envelope key).storage
    st.get (.keyed .activeGrant serverId) = some (.grant grant) ∧
      st.get (.keyed .activeGrantEnvelope serverId) = some (.envelope envelope) ∧
      st.get (.keyed .pinnedServerKey serverId) = some (.text key) := by
  have hself : serverId ≠ "envelope_" ++ serverId := by
    intro h
    have := congrArg String.length h
    simp at this
  simp only [granted, accepted, grantedStorage]
  split <;> simp [heff, Storage.putServerGrant, Storage.putLegacyGrant, hnamed, Storage.get_put,
    Storage.get_remove, hself, henvelope]

theorem granted_revokedServerIds (s : AdminState P) (grant : AdminGrant)
    (envelope : AdminEnvelope) (key : String) :
    (s.granted grant envelope key).revokedServerIds =
      s.revokedServerIds.eraseDups.filter (· != grant.serverId.getD "legacy") := by
  have hst : (s.grantedStorage grant envelope key).get (.fixed .revokedServerIds) =
      s.storage.get (.fixed .revokedServerIds) := by
    simp only [grantedStorage]
    rcases s.effectiveServerId grant with _ | id
    · split <;> simp [Storage.putServerGrant, Storage.putLegacyGrant, Storage.get_put,
        Storage.get_remove]
    · simp only [Storage.putServerGrant]
      split <;> split <;> simp [Storage.putLegacyGrant, Storage.get_put,
        Storage.get_remove]
  simp [granted, accepted, revokedServerIds, hst, Stored.asServerIds]

end AdminState

def appliedKeys (serverId : String) : List StorageKey :=
  serverGrantKeys serverId ++ unscopedGrantKeys ++ [.fixed .managedProfiles, .fixed .commandHistory]

structure Applied (serverId : String) (grant : AdminGrant) (grantEnvelope : AdminEnvelope)
    (key : String) (s s' : AdminState P) : Prop where
  currentTimeMillis : s'.currentTimeMillis = s.currentTimeMillis
  serverNodes : s'.serverNodes = s.serverNodes
  ownGrant : s'.storage.get (.keyed .activeGrant serverId) = some (.grant grant)
  ownEnvelope : s'.storage.get (.keyed .activeGrantEnvelope serverId) =
    some (.envelope grantEnvelope)
  ownPin : s'.storage.get (.keyed .pinnedServerKey serverId) = some (.text key)
  revokedServerIds : s'.revokedServerIds =
    s.revokedServerIds.eraseDups.filter (· != grant.serverId.getD "legacy")
  others : ∀ entry : StorageKey, entry.text ∉ (appliedKeys serverId).map StorageKey.text →
    s'.storage.get entry = s.storage.get entry

theorem applyAdminGrant_applied {serverId : String} (h : s.GrantChecked grantEnvelope key grant)
    (heff : s.effectiveServerId grant = some serverId) (hnamed : isBlank serverId = false)
    (henvelope : serverId ≠ "envelope") :
    ∃ s', (applyAdminGrant grantEnvelope key).exec s =
        (.ok (.success (grantedMessage grant) (some grantEnvelope)), s') ∧
      Applied serverId grant grantEnvelope key s s' := by
  obtain ⟨profiles, history, st, hexec, hst⟩ := applyAdminGrant_exec h
  have hown : let st := (s.granted grant grantEnvelope key).storage
      st.get (.keyed .activeGrant serverId) = some (.grant grant) ∧
        st.get (.keyed .activeGrantEnvelope serverId) = some (.envelope grantEnvelope) ∧
        st.get (.keyed .pinnedServerKey serverId) = some (.text key) :=
    granted_get_own heff hnamed henvelope
  obtain ⟨hgrant, henv, hpin⟩ := hown
  have hkeyed : ∀ family, st.get (.keyed family serverId) =
      (s.granted grant grantEnvelope key).storage.get (.keyed family serverId) := fun family =>
    hst _ fun hmem => by
      change (keyed family serverId).text ∈
        [fixed .managedProfiles, .fixed .commandHistory].map text at hmem
      simp at hmem
  refine ⟨_, hexec, rfl, rfl, (hkeyed _).trans hgrant, (hkeyed _).trans henv,
    (hkeyed _).trans hpin, ?_, fun entry hentry => ?_⟩
  · rw [← granted_revokedServerIds s grant grantEnvelope key, revokedServerIds,
      hst _ (by decide)]
    rfl
  · simp only [appliedKeys, List.map_append, List.mem_append, not_or] at hentry
    refine (hst entry hentry.2).trans (granted_get_of_notMem s _ _ (fun id hid => ?_) hentry.1.2)
    obtain rfl := Option.some.inj (heff.symm.trans hid)
    exact hentry.1.1

end LibreRoute.Admin
