import LibreRoute.Admin.Recorded

/-!
The two imports that pin a server key before the grant under it is checked: a
grant copied from an SSH session, and the claim of a new server with a setup
key. When the grant is refused, the pin is taken back, but not the unscoped
pin that pinning writes when there is none yet. `trustImports_keep_pins_iff`
says for which calls nothing is left behind.
-/

namespace LibreRoute.Admin

open LibreRoute.Lib

variable {P : Platform} {s : AdminState P} {grant : AdminGrant} {grantEnvelope : AdminEnvelope}
  {serverId : Option String} {key : String}

/-- Pins the key of a grant that has none yet, applies the grant, and runs `undo` when
a grant with a new pin is refused. -/
def applyUnderPin (undo : AdminM P Unit) (grant : AdminGrant) (grantEnvelope : AdminEnvelope) :
    AdminM P AdminOpResult := do
  let previousPin ← Prog.read fun s => s.getPinnedServerPublicKey grant.serverId
  Prog.when previousPin.isNone (setPinnedServerPublicKey grant.serverPublicKey grant.serverId)
  let result ← applyAdminGrant grantEnvelope grant.serverPublicKey
  Prog.when (previousPin.isNone && !result.isSuccess) undo
  pure result

def AdminState.checkTrustedGrant (s : AdminState P) (envelope : AdminEnvelope)
    (expectedFingerprint : String) : Except String AdminGrant :=
  match P.decodeGrant envelope.payload with
  | .error _ => .error "Invalid grant payload"
  | .ok grant =>
    match P.computeFingerprint grant.serverPublicKey with
    | none => .error "Invalid server public key"
    | some fingerprint =>
      if fingerprint != trim expectedFingerprint then
        .error "Server key fingerprint does not match the trusted SSH session"
      else if (s.getPinnedServerPublicKey grant.serverId).any (· != grant.serverPublicKey) then
        .error "Server key differs from the pinned key"
      else if !P.verifyServerResponse envelope grant.serverPublicKey
          (some grant.serverPublicKey) then
        .error "Invalid server signature"
      else .ok grant

/-- `importTrustedBootstrapGrant`, from the envelope on. -/
def importTrustedEnvelope (envelope : AdminEnvelope) (expectedFingerprint : String) :
    AdminM P AdminOpResult := do
  let checked ← Prog.read fun s => s.checkTrustedGrant envelope expectedFingerprint
  match checked with
  | .error message => pure (.failure message none)
  | .ok grant => applyUnderPin (removeString (.pin grant.serverId)) grant envelope

def importTrustedBootstrapGrant (envelopeJson expectedFingerprint : String) :
    AdminM P AdminOpResult :=
  match P.envelopeFromJson envelopeJson with
  | none => pure (.failure "Invalid signed grant envelope" none)
  | some envelope => importTrustedEnvelope envelope expectedFingerprint

/-! ### The claim of a new server -/

structure ServerClaimInfo where
  host : String
  port : Int := 22
  token : String
  name : Option String := none
  deriving DecidableEq, Repr

/-- What a claim takes from the caller, from chance and from the device. -/
structure ClaimInput where
  claimInfo : ServerClaimInfo
  hostPublicKey : Option String := none
  privateKeyPath : Option String := none
  password : Option String := none
  targetProfileId : String := "admin-global"
  seed : JoinSeed
  nodeId : String
  /-- `getEffectiveAdminSshKeyPath()`. -/
  adminSshKeyPath : Option String := none

namespace ClaimInput

def verifiedHostKey (input : ClaimInput) : Option String :=
  (input.hostPublicKey.map trim).filter (· != "")

def serverName (input : ClaimInput) : String :=
  input.claimInfo.name.getD ("Сервер " ++ input.claimInfo.host)

def newNode (input : ClaimInput) (verifiedHostKey : String) (grant : AdminGrant)
    (millis : Int) : ServerNode where
  id := grant.serverId.getD input.nodeId
  name := input.serverName
  nodeType := if input.claimInfo.port = 222 then .routerKeenetic else .vds
  host := input.claimInfo.host
  port := input.claimInfo.port
  sshUser := "root"
  authType := if isNullOrBlank input.password then .key else .password
  privateKeyPath := input.privateKeyPath <|> input.adminSshKeyPath <|>
    some "/data/data/io.github.libreroute/files/libreroute_admin_key"
  password := input.password
  allowPasswordAuth := true
  hostPublicKey := some verifiedHostKey
  status := .online
  lastSeenAt := millis
  createdAt := millis

end ClaimInput

/-- What is read from the reply to a claim. -/
inductive ClaimReply
  | refused (error : String)
  | malformed (error : String)
  | granted (grantEnvelope : AdminEnvelope) (grant : AdminGrant)

def Platform.parseClaimedGrant (P : Platform) (data : JsonObject) : ClaimReply :=
  match P.decodeEnvelope (.object data) with
  | none => .malformed "Некорректный формат конверта допуска"
  | some grantEnvelope =>
    match P.decodeGrant grantEnvelope.payload with
    | .error _ => .malformed "Некорректный формат тела допуска"
    | .ok grant => .granted grantEnvelope grant

def Platform.parseClaimData (P : Platform) (payload : JsonObject) : Except JsonError ClaimReply :=
  match JsonObject.get payload "data" with
  | none => .ok (.malformed "Ответ сервера не содержит данных допуска")
  | some value => do
      let data ← value.jsonObject
      return P.parseClaimedGrant data

/-- The parts of a reply. A member of another shape than expected is an exception. -/
def Platform.parseClaimReply (P : Platform) (response : AdminEnvelope) :
    Except JsonError ClaimReply :=
  match P.decodePayload response.payload with
  | .ok (.object payload) => do
      let status ← JsonObject.contentOf payload "status"
      if status == some "applied" then P.parseClaimData payload
      else
        let error ← JsonObject.contentOf payload "error"
        return .refused (error.getD "Сервер отклонил запрос сопряжения")
  | _ => .ok (.malformed "Некорректный формат ответа сервера")

def AdminState.checkClaimedGrant (s : AdminState P) (grant : AdminGrant) : Option String :=
  if isNullOrBlank grant.serverId && !s.serverNodes.isEmpty then
    some "Сервер не указал server_id для безопасной привязки второго узла"
  else if (s.getPinnedServerPublicKey grant.serverId).any (· != grant.serverPublicKey) then
    some "Публичный ключ сервера отличается от закреплённого"
  else none

/-- Takes back the pin of a claim: only that of a named server. -/
def undoClaimPin (grant : AdminGrant) : AdminM P Unit :=
  match grant.serverId with
  | none => pure ()
  | some id => removeString (.keyed .pinnedServerKey id)

def finishClaim (input : ClaimInput) (verifiedHostKey opId : String) (grant : AdminGrant)
    (grantEnvelope : AdminEnvelope) : AdminM P AdminOpResult := do
  let millis ← Prog.read fun s => s.currentTimeMillis
  let node := input.newNode verifiedHostKey grant millis
  addServerNode node
  Prog.when (grant.role == .owner) (ensureOwnerControlProfile node grant "" "")
  updateCommandStatus opId "applied" none none
  pure (.success
    ("Сервер «" ++ input.serverName ++ "» успешно привязан. Права Владельца подтверждены!")
    (some grantEnvelope))

def applyClaimedGrant (input : ClaimInput) (verifiedHostKey opId : String) (grant : AdminGrant)
    (grantEnvelope : AdminEnvelope) : AdminM P AdminOpResult := do
  let refused ← Prog.read fun s => s.checkClaimedGrant grant
  match refused with
  | some message => pure (.failure message none)
  | none => do
      let result ← applyUnderPin (undoClaimPin grant) grant grantEnvelope
      if result.isSuccess then finishClaim input verifiedHostKey opId grant grantEnvelope
      else pure result

def handleClaimReply (input : ClaimInput) (verifiedHostKey opId : String)
    (response : AdminEnvelope) : AdminM P AdminOpResult := do
  let reply ← Prog.ofExcept ((P.parseClaimReply response).mapError (Throwable.json · none))
  match reply with
  | .refused error => do
      updateCommandStatus opId "failed" none (some error)
      pure (.failure error none)
  | .malformed error => pure (.failure error none)
  | .granted grantEnvelope grant =>
    applyClaimedGrant input verifiedHostKey opId grant grantEnvelope

def handleClaimResult (input : ClaimInput) (verifiedHostKey opId : String)
    (sshResult : AdminOpResult) : AdminM P AdminOpResult :=
  match sshResult with
  | .failure error throwable => do
      updateCommandStatus opId "failed" none (some error)
      pure (.failure error throwable)
  | .success _ none => pure (.failure "Сервер не вернул конверт ответа" none)
  | .success _ (some response) => handleClaimReply input verifiedHostKey opId response

/-- `claimServerWithSetupKey`; `execute` is the answer to the request over SSH. -/
def claimServerWithSetupKey (execute : AdminEnvelope → AdminOpResult) (input : ClaimInput) :
    AdminM P AdminOpResult :=
  match input.verifiedHostKey with
  | none => pure (.failure "Сначала сверьте и укажите публичный SSH-ключ сервера" none)
  | some verifiedHostKey => do
      let request ← createJoinRequest input.seed input.targetProfileId .owner
        (some input.claimInfo.token) none
      handleClaimResult input verifiedHostKey request.1.opId (execute request.1)

open AdminState

section Keeping

variable {I : AdminState P → Prop} [OfReplays I]

instance {undo : AdminM P Unit} {grant : AdminGrant} {grantEnvelope : AdminEnvelope}
    [Keeping I undo]
    [Keeping I (applyAdminGrant grantEnvelope grant.serverPublicKey : AdminM P _)] :
    Keeping I (applyUnderPin undo grant grantEnvelope) := by
  unfold applyUnderPin
  infer_instance

variable [∀ envelope key, Keeping I (applyAdminGrant envelope key : AdminM P _)]

omit [∀ envelope key, Keeping I (applyAdminGrant envelope key : AdminM P _)] in
instance {envelope : AdminEnvelope} {fingerprint : String}
    [∀ key, Keeping I (applyAdminGrant envelope key : AdminM P _)] :
    Keeping I (importTrustedEnvelope envelope fingerprint) := by
  refine .bind fun checked => ?_
  split <;> infer_instance

instance {envelopeJson fingerprint : String} :
    Keeping I (importTrustedBootstrapGrant envelopeJson fingerprint) := by
  unfold importTrustedBootstrapGrant
  split <;> infer_instance

instance {input : ClaimInput} {verifiedHostKey opId : String} {grant : AdminGrant}
    {grantEnvelope : AdminEnvelope} :
    Keeping I (applyClaimedGrant input verifiedHostKey opId grant grantEnvelope) := by
  have hundo : Keeping I (undoClaimPin grant : AdminM P Unit) := by
    unfold undoClaimPin
    split <;> infer_instance
  have hfinish : Keeping I
      (finishClaim input verifiedHostKey opId grant grantEnvelope : AdminM P _) := by
    dsimp only [finishClaim]
    infer_instance
  refine .bind fun refused => ?_
  split <;> infer_instance

instance {execute : AdminEnvelope → AdminOpResult} {input : ClaimInput} :
    Keeping I (claimServerWithSetupKey execute input) := by
  unfold claimServerWithSetupKey
  split
  · infer_instance
  · refine .bind fun request => ?_
    unfold handleClaimResult handleClaimReply
    split
    · infer_instance
    · infer_instance
    · refine .bind fun reply => ?_
      split <;> infer_instance

end Keeping

/-! ### What a refused import leaves -/

/-- Every pinned key: the unscoped one, and those of the servers. -/
def AdminState.pins (s : AdminState P) (serverId : Option String) : Option String :=
  s.storedText (.pin serverId)

/-- If the call returns a failure, no pin has changed. -/
def FailureKeepsPins (m : AdminM P AdminOpResult) (s : AdminState P) : Prop :=
  ∀ error throwable s', m.exec s = (.ok (.failure error throwable), s') → s'.pins = s.pins

theorem failureKeepsPins_of_exec {m : AdminM P AdminOpResult} {r : Except Throwable AdminOpResult}
    (h : m.exec s = (r, s)) : FailureKeepsPins m s := by
  intro error throwable s' hrun
  obtain ⟨-, rfl⟩ := Prod.mk.inj (h.symm.trans hrun)
  rfl

theorem failureKeepsPins_congr {m m' : AdminM P AdminOpResult} {t : AdminState P}
    (hrun : m.exec s = m'.exec t) (hpins : t.pins = s.pins) :
    FailureKeepsPins m s ↔ FailureKeepsPins m' t := by
  simp only [FailureKeepsPins, hrun, hpins]

/-- A request is open that the grant answers, and the grant is in force under its key. -/
def AdminState.Accepts (s : AdminState P) (request : Option AdminEnvelope)
    (grantEnvelope : AdminEnvelope) (grant : AdminGrant) : Prop :=
  (∃ pending, request = some pending ∧ pending.profileId = grantEnvelope.profileId ∧
    pending.nonce = grantEnvelope.nonce) ∧
  P.Authentic s.currentTimeSeconds grantEnvelope grant grant.serverPublicKey

/-- Pinning a key for the server and removing the server's pin again changes nothing:
the id is not blank and has no entry, and the unscoped pin is already there. -/
def AdminState.PinUndoable (s : AdminState P) (key : String) (serverId : Option String) : Prop :=
  ∃ id, serverId = some id ∧ isBlank id = false ∧ s.pins (some id) = none ∧
    (isNullOrBlank (s.pins none) = false ∨ s.pins none = some key)

theorem StorageKey.pin_text_eq {i j : Option String} :
    (StorageKey.pin i).text = (StorageKey.pin j).text ↔ i = j := by
  cases i <;> cases j <;> simp [pin]

theorem AdminState.pins_pinnedStorage (s : AdminState P) (key : String)
    (serverId i : Option String) :
    ({ s with storage := s.pinnedStorage key serverId } : AdminState P).pins i =
      if i = serverId ∧ isNullOrBlank serverId = false then some key
      else if i = none ∧ (isNullOrBlank (s.pins none) = true ∨ serverId = none) then some key
      else s.pins i := by
  have hnone : (StorageKey.pin i).text = (StorageKey.fixed .pinnedServerKey).text ↔ i = none :=
    StorageKey.pin_text_eq (j := none)
  have hsome : ∀ id, (StorageKey.pin i).text = (StorageKey.keyed .pinnedServerKey id).text ↔
      i = some id := fun id => StorageKey.pin_text_eq (j := some id)
  have hlegacy : s.storedText (.fixed .pinnedServerKey) = s.pins none := rfl
  rcases serverId with _ | id
  · by_cases hi : i = none <;>
      simp_all [pins, storedText, pinnedStorage, Storage.get_put, Stored.asText]
  · by_cases hb : isBlank id <;> by_cases hl : isNullOrBlank (s.pins none) <;>
      by_cases hi : i = none <;> by_cases hid : i = some id <;>
      simp_all [pins, storedText, pinnedStorage, Storage.get_put, Stored.asText]

theorem AdminState.pins_remove (s : AdminState P) (serverId i : Option String) :
    ({ s with storage := s.storage.remove (.pin serverId) } : AdminState P).pins i =
      if i = serverId then none else s.pins i := by
  simp only [pins, storedText, Storage.get_remove, StorageKey.pin_text_eq]
  split <;> rfl

section

variable (h : s.getPinnedServerPublicKey serverId = none)

include h

theorem AdminState.pins_none_of_unpinned
    (hblank : isNullOrBlank serverId = true) : s.pins none = none := by
  rcases serverId with _ | id
  · exact h
  · have hid : isBlank id = true := hblank
    simp only [getPinnedServerPublicKey, hid, if_true] at h
    exact h

theorem AdminState.pins_undone :
    ({ s with storage := (s.pinnedStorage key serverId).remove (.pin serverId) } :
      AdminState P).pins = s.pins ↔ serverId = none ∨ s.PinUndoable key serverId := by
  have hpins := fun i =>
    (pins_remove { s with storage := s.pinnedStorage key serverId } serverId i).trans
      (congrArg (ite _ none) (s.pins_pinnedStorage key serverId i))
  rw [funext_iff]
  simp only [hpins]
  by_cases hblank : isNullOrBlank serverId = true
  · have hlegacy := pins_none_of_unpinned h hblank
    rcases serverId with _ | id
    · simp only [true_or, iff_true]
      intro i
      by_cases hi : i = none <;> simp [hi, hlegacy]
    · -- the unscoped pin was written, and the blank entry was removed
      have hid : isBlank id = true := hblank
      refine iff_of_false (fun hall => ?_) ?_
      · simpa [hlegacy, hid] using hall none
      · simp [PinUndoable, hid]
  · obtain ⟨id, rfl⟩ : ∃ id, serverId = some id := by
      rcases serverId with _ | id
      · simp at hblank
      · exact ⟨id, rfl⟩
    have hid : isBlank id = false := by simpa using hblank
    constructor
    · intro hall
      refine .inr ⟨id, rfl, hid, by simpa using (hall (some id)).symm, ?_⟩
      have hnone := hall none
      by_cases hl : isNullOrBlank (s.pins none) = true
      · exact .inr (by simpa [hid, hl] using hnone.symm)
      · exact .inl (by simpa using hl)
    · rintro (hn | ⟨id', he, -, hscoped, hl⟩) i
      · simp at hn
      · obtain rfl := Option.some.inj he
        by_cases hi : i = some id
        · simp [hi, hscoped]
        · by_cases hin : i = none
          · rcases hl with hl | hl <;> simp [hin, hl]
          · simp [hi, hin]

theorem AdminState.pins_not_undone
    (hserver : serverId = none) :
    ({ s with storage := s.pinnedStorage key serverId } : AdminState P).pins ≠ s.pins := by
  intro hall
  have hnone := congrFun hall none
  rw [s.pins_pinnedStorage, pins_none_of_unpinned h (by simp [hserver])] at hnone
  simp [hserver] at hnone

end

theorem applyAdminGrant_exec_refused (h : ∀ grant, ¬ s.GrantChecked grantEnvelope key grant) :
    ∃ message, (applyAdminGrant grantEnvelope key).exec s = (.ok (.failure message none), s) := by
  rcases hc : s.checkAdminGrant grantEnvelope key with message | grant
  · exact ⟨message, by simp [applyAdminGrant, hc]⟩
  · exact absurd (checkAdminGrant_ok.1 hc) (h grant)

theorem AdminState.grantChecked_pinned {g : AdminGrant}
    (h : s.getPinnedServerPublicKey grant.serverId = none)
    (hdecoded : P.decodeGrant grantEnvelope.payload = .ok grant) :
    GrantChecked
        { s with storage := s.pinnedStorage grant.serverPublicKey grant.serverId } grantEnvelope
        grant.serverPublicKey g ↔
      g = grant ∧ s.Accepts s.pendingRequest grantEnvelope grant := by
  constructor
  · intro hc
    obtain rfl : grant = g := by
      have := hdecoded.symm.trans hc.decoded
      exact Except.ok.inj this
    exact ⟨rfl, hc.requested, hc.authentic⟩
  · rintro ⟨rfl, hrequested, hauthentic⟩
    refine ⟨hdecoded, ?_, hrequested, hauthentic⟩
    have hpins := s.pins_pinnedStorage g.serverPublicKey g.serverId
    by_cases hblank : isNullOrBlank g.serverId = true
    · have hlegacy := pins_none_of_unpinned h hblank
      have hpin := hpins none
      rw [hlegacy] at hpin
      simp only [isNullOrBlank_none, true_or, and_self, if_true, hblank, Bool.true_eq_false,
        and_false, if_false] at hpin
      rcases hid : g.serverId with _ | id
      · rwa [hid] at hpin
      · have hb : isBlank id = true := by simpa [hid] using hblank
        simp only [getPinnedServerPublicKey, hb, if_true]
        rwa [hid] at hpin
    · refine getPinnedServerPublicKey_of_entry hauthentic.pin_not_blank (fun id hid => ?_) ?_
      · simpa [hid] using hblank
      · refine (hpins g.serverId).trans (if_pos ⟨rfl, by simpa using hblank⟩)

/-- A refused grant leaves the pins alone if the pin was there before, or if `undo` takes
back what pinning did. -/
theorem applyUnderPin_keeps_pins_iff {undo : AdminM P Unit}
    (hdecoded : P.decodeGrant grantEnvelope.payload = .ok grant) {undone : AdminState P}
    (hundo : undo.exec { s with
      storage := s.pinnedStorage grant.serverPublicKey grant.serverId } = (.ok (), undone)) :
    FailureKeepsPins (applyUnderPin undo grant grantEnvelope) s ↔
      (s.getPinnedServerPublicKey grant.serverId = none →
        s.Accepts s.pendingRequest grantEnvelope grant ∨ undone.pins = s.pins) := by
  rcases hprevious : s.getPinnedServerPublicKey grant.serverId with _ | previousPin
  · rw [forall_prop_of_true rfl]
    by_cases haccepts : s.Accepts s.pendingRequest grantEnvelope grant
    · -- the grant is accepted: there is no failure
      obtain ⟨profiles, history, st, happly, -⟩ := applyAdminGrant_exec
        ((grantChecked_pinned hprevious hdecoded).2 ⟨rfl, haccepts⟩)
      refine iff_of_true ?_ (.inl haccepts)
      intro error throwable s' hrun
      simp [applyUnderPin, hprevious, happly] at hrun
    · obtain ⟨message, happly⟩ := applyAdminGrant_exec_refused fun g hg =>
        haccepts ((grantChecked_pinned hprevious hdecoded).1 hg).2
      have hrun : (applyUnderPin undo grant grantEnvelope).exec s =
          (.ok (.failure message none), undone) := by
        simp [applyUnderPin, hprevious, happly, hundo]
      simp [FailureKeepsPins, hrun, haccepts]
  · refine iff_of_true ?_ (by simp)
    intro error throwable s' hrun
    by_cases hchecked : ∃ g, s.GrantChecked grantEnvelope grant.serverPublicKey g
    · obtain ⟨g, hg⟩ := hchecked
      obtain ⟨profiles, history, st, happly, -⟩ := applyAdminGrant_exec hg
      simp [applyUnderPin, hprevious, happly] at hrun
    · obtain ⟨message, happly⟩ := applyAdminGrant_exec_refused (not_exists.1 hchecked)
      exact failureKeepsPins_of_exec (by simp [applyUnderPin, hprevious, happly]; rfl) _ _ _ hrun

theorem AdminState.checkTrustedGrant_decoded {envelope : AdminEnvelope}
    {expectedFingerprint : String}
    (h : s.checkTrustedGrant envelope expectedFingerprint = .ok grant) :
    P.decodeGrant envelope.payload = .ok grant := by
  unfold checkTrustedGrant at h
  split at h
  · simp at h
  next hd =>
  split at h
  · simp at h
  split at h
  · simp at h
  split at h
  · simp at h
  split at h
  · simp at h
  obtain rfl := Except.ok.inj h
  exact hd

theorem AdminState.checkTrustedGrant_ok {envelope : AdminEnvelope}
    {expectedFingerprint fingerprint : String}
    (hdecoded : P.decodeGrant envelope.payload = .ok grant)
    (hfingerprint : P.computeFingerprint grant.serverPublicKey = some fingerprint)
    (htrim : trim expectedFingerprint = fingerprint)
    (hpin : s.getPinnedServerPublicKey grant.serverId = none)
    (hverified : P.verifyServerResponse envelope grant.serverPublicKey
      (some grant.serverPublicKey) = true) :
    s.checkTrustedGrant envelope expectedFingerprint = .ok grant := by
  simp [checkTrustedGrant, hdecoded, hfingerprint, htrim, hpin, hverified]

/-- When a refused grant from an SSH session leaves no pin behind. -/
def AdminState.TrustedImportUndoable (s : AdminState P)
    (envelopeJson expectedFingerprint : String) : Prop :=
  ∀ envelope grant, P.envelopeFromJson envelopeJson = some envelope →
    s.checkTrustedGrant envelope expectedFingerprint = .ok grant →
    s.getPinnedServerPublicKey grant.serverId = none →
      s.Accepts s.pendingRequest envelope grant ∨ grant.serverId = none ∨
        s.PinUndoable grant.serverPublicKey grant.serverId

theorem importTrustedBootstrapGrant_keeps_pins_iff (s : AdminState P)
    (envelopeJson expectedFingerprint : String) :
    FailureKeepsPins (importTrustedBootstrapGrant envelopeJson expectedFingerprint) s ↔
      s.TrustedImportUndoable envelopeJson expectedFingerprint := by
  rcases he : P.envelopeFromJson envelopeJson with _ | envelope
  · exact iff_of_true
      (failureKeepsPins_of_exec (by rw [importTrustedBootstrapGrant, he, exec_pure]))
      (by simp [TrustedImportUndoable, he])
  rcases hc : s.checkTrustedGrant envelope expectedFingerprint with message | grant
  · refine iff_of_true ?_ fun envelope' grant he' hc' => ?_
    · refine failureKeepsPins_of_exec (r := .ok (.failure message none)) ?_
      simp [importTrustedBootstrapGrant, he, importTrustedEnvelope, hc]
    · obtain rfl := Option.some.inj (he.symm.trans he')
      exact absurd (hc.symm.trans hc') (by simp)
  · have hrun : (importTrustedBootstrapGrant envelopeJson expectedFingerprint).exec s =
        (applyUnderPin (removeString (.pin grant.serverId)) grant envelope).exec s := by
      simp [importTrustedBootstrapGrant, he, importTrustedEnvelope, hc]
    have hiff := applyUnderPin_keeps_pins_iff (s := s) (checkTrustedGrant_decoded hc)
      (removeString_exec (.pin grant.serverId) _)
    simp only [FailureKeepsPins, hrun] at hiff ⊢
    rw [hiff]
    constructor
    · intro h envelope' grant' he' hc' hunpinned
      obtain rfl := Option.some.inj (he.symm.trans he')
      obtain rfl := Except.ok.inj (hc.symm.trans hc')
      exact (h hunpinned).imp_right (pins_undone hunpinned).1
    · intro h hunpinned
      exact (h envelope grant he hc hunpinned).imp_right (pins_undone hunpinned).2

/-! ### What a refused claim leaves -/

@[reducible] def requestKeys : List StorageKey :=
  [.fixed .pendingRequest, .fixed .lastPairingCode, .fixed .commandHistory]

structure AdminState.SamePins (s s' : AdminState P) : Prop where
  pins : s'.pins = s.pins
  getPinned : s'.getPinnedServerPublicKey = s.getPinnedServerPublicKey

theorem AdminState.SamePins.of_outside {s' : AdminState P}
    (h : s'.outside requestKeys = s.outside requestKeys) (hnodes : s'.serverNodes = s.serverNodes) :
    s.SamePins s' := by
  have hpin : ∀ id, s'.storedText (.pin id) = s.storedText (.pin id) := by
    intro id
    rw [storedText, storedText, get_of_outside h]
    cases id <;> simp [requestKeys, StorageKey.pin]
  have hgrant : s'.storedGrant (.fixed .activeGrant) = s.storedGrant (.fixed .activeGrant) := by
    rw [storedGrant, storedGrant, get_of_outside h (by decide)]
  refine ⟨funext hpin, funext fun id => ?_⟩
  have hunscoped : s'.storedText (.fixed .pinnedServerKey) =
      s.storedText (.fixed .pinnedServerKey) := hpin none
  rcases id with _ | id
  · exact hunscoped
  · have hscoped : s'.storedText (.keyed .pinnedServerKey id) =
        s.storedText (.keyed .pinnedServerKey id) := hpin (some id)
    have hbelongs : s'.legacyGrantBelongsTo id = s.legacyGrantBelongsTo id := by
      simp only [legacyGrantBelongsTo, hgrant, hnodes]
    simp only [getPinnedServerPublicKey, hbelongs, hunscoped, hscoped]

theorem createJoinRequest_exec_refused (h : s.storage.get (.fixed .delegationCheckpoint) ≠ none)
    (seed : JoinSeed) (targetProfileId : String) (desiredRole : AdminRole)
    (setupToken clientEphemeralKey : Option String) :
    ∃ e, (createJoinRequest seed targetProfileId desiredRole setupToken clientEphemeralKey).exec s =
      (.error e, s) := by
  obtain ⟨checkpoint, h⟩ := Option.ne_none_iff_exists'.1 h
  simp [createJoinRequest, h]

def ClaimInput.request (P : Platform) (input : ClaimInput) (now : Int) : AdminEnvelope :=
  joinEnvelope P now input.seed input.targetProfileId .owner (some input.claimInfo.token) none

/-- When a refused claim leaves no pin behind. -/
def AdminState.ClaimUndoable (s : AdminState P) (execute : AdminEnvelope → AdminOpResult)
    (input : ClaimInput) : Prop :=
  ∀ verifiedHostKey message response grantEnvelope grant,
    input.verifiedHostKey = some verifiedHostKey →
    s.storage.get (.fixed .delegationCheckpoint) = none →
    execute (input.request P s.currentTimeSeconds) = .success message (some response) →
    P.parseClaimReply response = .ok (.granted grantEnvelope grant) →
    s.checkClaimedGrant grant = none →
    s.getPinnedServerPublicKey grant.serverId = none →
      s.Accepts (some (input.request P s.currentTimeSeconds)) grantEnvelope grant ∨
        s.PinUndoable grant.serverPublicKey grant.serverId

theorem Platform.parseClaimReply_decoded {response : AdminEnvelope}
    (h : P.parseClaimReply response = .ok (.granted grantEnvelope grant)) :
    P.decodeGrant grantEnvelope.payload = .ok grant := by
  obtain ⟨data, hdata⟩ : ∃ data, P.parseClaimedGrant data = .granted grantEnvelope grant := by
    unfold parseClaimReply at h
    split at h
    · next payload _ =>
        rcases hstatus : JsonObject.contentOf payload "status" with e | status
        · simp [hstatus, bind, Except.bind] at h
        simp only [hstatus, bind, Except.bind] at h
        split at h
        · unfold parseClaimData at h
          split at h
          · simp at h
          · next value _ =>
              rcases hobject : value.jsonObject with e | data
              · simp [hobject, bind, Except.bind] at h
              · exact ⟨data, by simpa [hobject, bind, Except.bind, pure, Except.pure] using h⟩
        · rcases herror : JsonObject.contentOf payload "error" with e | error <;>
            simp [herror, pure, Except.pure] at h
    · simp at h
  unfold parseClaimedGrant at hdata
  split at hdata
  · simp at hdata
  · split at hdata
    · simp at hdata
    · next hd =>
        obtain ⟨rfl, rfl⟩ := ClaimReply.granted.inj hdata
        exact hd

theorem undoClaimPin_returns (grant : AdminGrant) :
    (undoClaimPin grant : AdminM P Unit).Returns := by
  unfold undoClaimPin
  split
  · exact returns_pure
  · exact returns_write

theorem AdminState.pins_claim_undone {undone : AdminState P}
    (h : s.getPinnedServerPublicKey grant.serverId = none) (hundo : (undoClaimPin grant).exec
      { s with storage := s.pinnedStorage grant.serverPublicKey grant.serverId } =
        (.ok (), undone)) :
    undone.pins = s.pins ↔ s.PinUndoable grant.serverPublicKey grant.serverId := by
  unfold undoClaimPin at hundo
  rcases hid : grant.serverId with _ | id
  · rw [hid] at h
    simp only [hid, exec_pure, Prod.mk.injEq, true_and] at hundo
    subst hundo
    exact iff_of_false (pins_not_undone h rfl) (by simp [PinUndoable])
  · rw [hid] at h
    simp only [hid, removeString_exec, Prod.mk.injEq, true_and] at hundo
    subst hundo
    exact (pins_undone h).trans (by simp)

theorem finishClaim_exec (input : ClaimInput) (verifiedHostKey opId : String) (grant : AdminGrant)
    (grantEnvelope : AdminEnvelope) (s : AdminState P) :
    ∃ message s', (finishClaim input verifiedHostKey opId grant grantEnvelope).exec s =
      (.ok (.success message (some grantEnvelope)), s') := by
  obtain ⟨_, added, hadd⟩ := addServerNode_returns
    (input.newNode verifiedHostKey grant s.currentTimeMillis) s
  obtain ⟨_, profiled, hprofile⟩ := returns_when (c := grant.role == .owner)
    (ensureOwnerControlProfile_returns (input.newNode verifiedHostKey grant s.currentTimeMillis)
      grant "" "") added
  obtain ⟨history, hstatus⟩ := updateCommandStatus_exec opId "applied" none none profiled
  exact ⟨_, _, by
    simp only [finishClaim, exec_bind, exec_read, hadd, hprofile, hstatus, exec_pure]
    rfl⟩

theorem applyClaimedGrant_keeps_pins_iff {input : ClaimInput} {verifiedHostKey opId : String}
    (hdecoded : P.decodeGrant grantEnvelope.payload = .ok grant) (s : AdminState P) :
    FailureKeepsPins (applyClaimedGrant input verifiedHostKey opId grant grantEnvelope) s ↔
      (s.checkClaimedGrant grant = none → s.getPinnedServerPublicKey grant.serverId = none →
        s.Accepts s.pendingRequest grantEnvelope grant ∨
          s.PinUndoable grant.serverPublicKey grant.serverId) := by
  rcases hc : s.checkClaimedGrant grant with _ | message
  · rw [forall_prop_of_true rfl]
    have hrun : ∀ error throwable s',
        (applyClaimedGrant input verifiedHostKey opId grant grantEnvelope).exec s =
          (.ok (.failure error throwable), s') ↔
        (applyUnderPin (undoClaimPin grant) grant grantEnvelope).exec s =
          (.ok (.failure error throwable), s') := by
      intro error throwable s'
      simp only [applyClaimedGrant, exec_bind, exec_read, hc]
      rcases (applyUnderPin (undoClaimPin grant) grant grantEnvelope).exec s with
        ⟨e | ⟨message, envelope⟩ | ⟨error', throwable'⟩, t⟩
      · simp
      · obtain ⟨message', t', hfinish⟩ := finishClaim_exec input verifiedHostKey opId grant
          grantEnvelope t
        simp [hfinish]
      · simp
    simp only [FailureKeepsPins, hrun]
    rw [← FailureKeepsPins]
    obtain ⟨_, undone, hundo⟩ := undoClaimPin_returns grant
      { s with storage := s.pinnedStorage grant.serverPublicKey grant.serverId }
    rw [applyUnderPin_keeps_pins_iff hdecoded hundo]
    exact forall_congr' fun hunpinned => or_congr_right (pins_claim_undone hunpinned hundo)
  · refine iff_of_true (failureKeepsPins_of_exec (r := .ok (.failure message none)) ?_) (by simp)
    simp [applyClaimedGrant, hc]

theorem failed_keeps_pins (opId error : String) (throwable : Option Throwable)
    (s : AdminState P) :
    FailureKeepsPins (do
      updateCommandStatus opId "failed" none (some error)
      pure (.failure error throwable)) s := by
  intro error' throwable' s' hrun
  obtain ⟨history, hstatus⟩ := updateCommandStatus_exec opId "failed" none (some error) s
  simp only [exec_bind, hstatus, exec_pure, Prod.mk.injEq] at hrun
  rw [← hrun.2]
  exact (SamePins.of_outside (outside_put (by simp [requestKeys]) s _) rfl).pins

theorem handleClaimResult_keeps_pins_iff (input : ClaimInput) (verifiedHostKey opId : String)
    (sshResult : AdminOpResult) (s : AdminState P) :
    FailureKeepsPins (handleClaimResult input verifiedHostKey opId sshResult) s ↔
      ∀ message response grantEnvelope grant, sshResult = .success message (some response) →
        P.parseClaimReply response = .ok (.granted grantEnvelope grant) →
        s.checkClaimedGrant grant = none → s.getPinnedServerPublicKey grant.serverId = none →
          s.Accepts s.pendingRequest grantEnvelope grant ∨
            s.PinUndoable grant.serverPublicKey grant.serverId := by
  match sshResult with
  | .failure error throwable =>
    exact iff_of_true (failed_keeps_pins opId error throwable s) (by simp)
  | .success message none =>
    exact iff_of_true (failureKeepsPins_of_exec (by rw [handleClaimResult, exec_pure])) (by simp)
  | .success message (some response) =>
    simp only [AdminOpResult.success.injEq, Option.some.injEq, and_imp]
    rcases hreply : P.parseClaimReply response with e | reply
    · refine iff_of_true ?_ ?_
      · intro error throwable s' hrun
        simp [handleClaimResult, handleClaimReply, hreply] at hrun
      · rintro _ _ _ _ - rfl hgranted
        simp [hreply] at hgranted
    cases reply with
    | refused error =>
      refine iff_of_true ((failureKeepsPins_congr ?_ rfl).2
        (failed_keeps_pins opId error none s)) ?_
      · simp [handleClaimResult, handleClaimReply, hreply]
      · rintro _ _ _ _ - rfl hgranted
        simp [hreply] at hgranted
    | malformed error =>
      refine iff_of_true (failureKeepsPins_of_exec (r := .ok (.failure error none)) ?_) ?_
      · simp [handleClaimResult, handleClaimReply, hreply]
      · rintro _ _ _ _ - rfl hgranted
        simp [hreply] at hgranted
    | granted grantEnvelope grant =>
      have hrun :
          (handleClaimResult input verifiedHostKey opId (.success message (some response))).exec s =
          (applyClaimedGrant input verifiedHostKey opId grant grantEnvelope).exec s := by
        simp [handleClaimResult, handleClaimReply, hreply]
      rw [failureKeepsPins_congr hrun rfl,
        applyClaimedGrant_keeps_pins_iff (Platform.parseClaimReply_decoded hreply)]
      constructor
      · rintro h _ _ envelope' grant' - rfl hgranted
        obtain ⟨rfl, rfl⟩ := ClaimReply.granted.inj (Except.ok.inj (hreply.symm.trans hgranted))
        exact h
      · intro h
        exact h message response grantEnvelope grant rfl rfl hreply

theorem claimServerWithSetupKey_keeps_pins_iff (s : AdminState P)
    (execute : AdminEnvelope → AdminOpResult) (input : ClaimInput) :
    FailureKeepsPins (claimServerWithSetupKey execute input) s ↔ s.ClaimUndoable execute input := by
  rcases hkey : input.verifiedHostKey with _ | verifiedHostKey
  · exact iff_of_true (failureKeepsPins_of_exec (by rw [claimServerWithSetupKey, hkey, exec_pure]))
      (by simp [ClaimUndoable, hkey])
  by_cases hcheckpoint : s.storage.get (.fixed .delegationCheckpoint) = none
  · obtain ⟨joined, hjoin, hrequests⟩ := createJoinRequest_exec hcheckpoint input.seed
      input.targetProfileId .owner (some input.claimInfo.token) none
    have houtside : joined.outside requestKeys = s.outside requestKeys :=
      Keeping.leaves.of_exec hjoin
    have hnodes : joined.serverNodes = s.serverNodes := congrArg Prod.snd hrequests
    have hsame := SamePins.of_outside houtside hnodes
    have htime : joined.currentTimeMillis = s.currentTimeMillis :=
      congrArg Outside.currentTimeMillis houtside
    have hrun : (claimServerWithSetupKey execute input).exec s =
        (handleClaimResult input verifiedHostKey
          (input.request P s.currentTimeSeconds).opId
          (execute (input.request P s.currentTimeSeconds))).exec joined := by
      simp only [claimServerWithSetupKey, hkey, exec_bind, hjoin]
      rfl
    have hclaimed : joined.checkClaimedGrant = s.checkClaimedGrant := by
      funext grant
      simp only [checkClaimedGrant, hnodes, hsame.getPinned]
    have haccepts : joined.Accepts joined.pendingRequest =
        s.Accepts (some (input.request P s.currentTimeSeconds)) := by
      have hpending : joined.pendingRequest = some (input.request P s.currentTimeSeconds) :=
        congrArg Prod.fst hrequests
      funext grantEnvelope grant
      simp only [Accepts, hpending, currentTimeSeconds, htime]
    rw [failureKeepsPins_congr hrun hsame.pins, handleClaimResult_keeps_pins_iff]
    simp only [hclaimed, hsame.getPinned, haccepts, PinUndoable, hsame.pins]
    constructor
    · intro h _ message response grantEnvelope grant _ _ hexecute hreply hc hunpinned
      exact h message response grantEnvelope grant hexecute hreply hc hunpinned
    · intro h message response grantEnvelope grant hexecute hreply hc hunpinned
      exact h verifiedHostKey message response grantEnvelope grant hkey hcheckpoint hexecute hreply
        hc hunpinned
  · obtain ⟨e, hjoin⟩ := createJoinRequest_exec_refused hcheckpoint input.seed
      input.targetProfileId .owner (some input.claimInfo.token) none
    refine iff_of_true ?_ (by simp [ClaimUndoable, hcheckpoint])
    intro error throwable s' hrun
    simp [claimServerWithSetupKey, hkey, hjoin] at hrun

/-- A failed import or claim changes no pin exactly if it does not get as far as pinning
a key, or the grant is accepted, or taking the pin back undoes what pinning did. -/
theorem trustImports_keep_pins_iff (s : AdminState P) :
    (∀ envelopeJson expectedFingerprint,
      FailureKeepsPins (importTrustedBootstrapGrant envelopeJson expectedFingerprint) s ↔
        s.TrustedImportUndoable envelopeJson expectedFingerprint) ∧
    (∀ execute input, FailureKeepsPins (claimServerWithSetupKey execute input) s ↔
      s.ClaimUndoable execute input) :=
  ⟨fun _ _ => importTrustedBootstrapGrant_keeps_pins_iff s _ _,
    fun _ _ => claimServerWithSetupKey_keeps_pins_iff s _ _⟩

theorem AdminState.fresh_unpinned (millis : Int) (serverId : Option String) :
    (fresh millis : AdminState P).getPinnedServerPublicKey serverId = none := by
  cases serverId <;>
    simp [getPinnedServerPublicKey, storedText, legacyGrantBelongsTo, storedGrant, fresh, created]

/-- A new installation imports the envelope of the first server without having asked for
a grant. The import fails, and the unscoped pin is set. -/
theorem trustedImport_leaves_pin : ¬ ∀ (P : Platform) (s : AdminState P),
    (∀ envelopeJson expectedFingerprint,
      FailureKeepsPins (importTrustedBootstrapGrant envelopeJson expectedFingerprint) s) ∧
    (∀ execute input, FailureKeepsPins (claimServerWithSetupKey execute input) s) := by
  intro h
  have hunpinned := fresh_unpinned (P := twoServers.platform) 1767225600000
  have hchecked : (fresh 1767225600000 : AdminState twoServers.platform).checkTrustedGrant
      envelope1 serverFingerprint1 = .ok grant1 := by
    refine checkTrustedGrant_ok (Recording.decodeGrant_of_lookup twoServers_issued1.decoded)
      ((Recording.computeFingerprint_eq rfl ?_).trans (congrArg some serverFingerprint1_eq))
      (by decide) (hunpinned _)
      (Bool.and_eq_true_iff.1 (twoServers_issued1.authentic (show (0 : Int) < _ by decide))).2
    exact (congrArg Option.isSome (decodeBase64_ofList _)).trans rfl
  have hjson : twoServers.platform.envelopeFromJson envelope1.toJson = some envelope1 :=
    Recording.envelopeFromJson_toJson rfl
  have hundoable := (importTrustedBootstrapGrant_keeps_pins_iff _ _ _).1
    ((h twoServers.platform (fresh 1767225600000)).1 envelope1.toJson serverFingerprint1)
  rcases hundoable envelope1 grant1 hjson hchecked (hunpinned _) with haccepts | hserver | hundo
  · obtain ⟨⟨pending, hpending, -⟩, -⟩ := haccepts
    simp [fresh, created] at hpending
  · simp [grant1] at hserver
  · obtain ⟨id, -, -, -, hlegacy⟩ := hundo
    simp [pins, storedText, fresh, created] at hlegacy

end LibreRoute.Admin
