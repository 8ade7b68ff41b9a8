import LibreRoute.Admin.KeyManager
import LibreRoute.Admin.Storage
import LibreRoute.Lib.Program

/-!
The state of the administrator repository and what is read from it: the pins,
the grants and their envelopes with the fallback to the unscoped entries, and
the grant that is in force for a server.

A verified grant is remembered with the proof that its check once succeeded;
`verifiedGrantForServer_fst` shows that the answers are those of the check
without a cache.
-/

namespace LibreRoute.Admin

open LibreRoute.Lib

structure ValidatedGrant where
  grant : AdminGrant
  envelope : AdminEnvelope
  pin : String
  deviceFingerprint : String
  deriving DecidableEq, Repr

/-- The entry passed the check of fields and signature at some time. -/
def ValidatedGrant.Passed (P : Platform) (v : ValidatedGrant) : Prop :=
  ∃ now, P.Authentic now v.envelope v.grant v.pin

/-- The fields of the repository. `storage` and `sshCredentials` are durable; the
others live as long as the process. -/
structure AdminState (P : Platform) where
  storage : Storage
  sshCredentials : String → Option String
  currentTimeMillis : Int
  activeGrant : Option AdminGrant
  role : AdminRole
  managedProfiles : List ManagedProfile
  commandHistory : List AdminCommandRecord
  pendingRequest : Option AdminEnvelope
  lastPairingCode : Option String
  serverNodes : List ServerNode
  liveAccess : String → Option AdminLiveAccess
  sessionAdminChannel : AdminChannel
  installationOperations : List ServerInstallOperation
  protocolOperations : List ProtocolInstallationOperation
  validatedGrants : String → Option { v : ValidatedGrant // v.Passed P }

abbrev AdminM (P : Platform) (α : Type) := Prog Throwable (AdminState P) α

namespace AdminState

variable {P : Platform} {grant : AdminGrant}

def created (storage : Storage) (sshCredentials : String → Option String)
    (currentTimeMillis : Int) : AdminState P where
  storage := storage
  sshCredentials := sshCredentials
  currentTimeMillis := currentTimeMillis
  activeGrant := none
  role := .none
  managedProfiles := []
  commandHistory := []
  pendingRequest := none
  lastPairingCode := none
  serverNodes := []
  liveAccess := fun _ => none
  sessionAdminChannel := .auto
  installationOperations := []
  protocolOperations := []
  validatedGrants := fun _ => none

def fresh (currentTimeMillis : Int) : AdminState P :=
  created Storage.empty (fun _ => none) currentTimeMillis

def currentTimeSeconds (s : AdminState P) : Int := s.currentTimeMillis / 1000

/-! ### Reading the store -/

def storedText (s : AdminState P) (key : StorageKey) : Option String :=
  (s.storage.get key).bind Stored.asText

def storedGrant (s : AdminState P) (key : StorageKey) : Option AdminGrant :=
  (s.storage.get key).bind Stored.asGrant

def storedEnvelope (s : AdminState P) (key : StorageKey) : Option AdminEnvelope :=
  (s.storage.get key).bind Stored.asEnvelope

def revokedServerIds (s : AdminState P) : List String :=
  ((s.storage.get (.fixed .revokedServerIds)).bind Stored.asServerIds).getD []

def getServerNode (s : AdminState P) (id : String) : Option ServerNode :=
  s.serverNodes.find? (·.id == id)

/-- The unscoped grant is a server's own when it names the server, or names none
and the server is the only node. -/
def legacyGrantBelongsTo (s : AdminState P) (serverId : String) : Bool :=
  match s.storedGrant (.fixed .activeGrant) with
  | none => false
  | some legacy =>
    legacy.serverId == some serverId ||
      (isNullOrBlank legacy.serverId && (singleOrNull s.serverNodes).map (·.id) == some serverId)

def getPinnedServerPublicKey (s : AdminState P) (serverId : Option String) : Option String :=
  match serverId with
  | none => s.storedText (.fixed .pinnedServerKey)
  | some id =>
    if isBlank id then s.storedText (.fixed .pinnedServerKey)
    else
      let scopedPin := s.storedText (.keyed .pinnedServerKey id)
      if !isNullOrBlank scopedPin then scopedPin
      else if s.legacyGrantBelongsTo id then s.storedText (.fixed .pinnedServerKey)
      else none

def getActiveGrant (s : AdminState P) (serverId : Option String) : Option AdminGrant :=
  match serverId with
  | none => s.storedGrant (.fixed .activeGrant)
  | some id =>
    if isBlank id then s.storedGrant (.fixed .activeGrant)
    else
      match s.storedGrant (.keyed .activeGrant id) with
      | some grant =>
        if isNullOrBlank grant.serverId || grant.serverId == some id then some grant else none
      | none =>
        if s.legacyGrantBelongsTo id then s.storedGrant (.fixed .activeGrant) else none

def getActiveGrantEnvelope (s : AdminState P) (serverId : Option String) :
    Option AdminEnvelope :=
  match serverId with
  | none => s.storedEnvelope (.fixed .activeGrantEnvelope)
  | some id =>
    if isBlank id then s.storedEnvelope (.fixed .activeGrantEnvelope)
    else
      match s.storedEnvelope (.keyed .activeGrantEnvelope id) with
      | some envelope => some envelope
      | none =>
        if s.legacyGrantBelongsTo id then s.storedEnvelope (.fixed .activeGrantEnvelope)
        else none

section Scoped

variable {s : AdminState P} {id : String} (hnamed : isBlank id = false)
  (hlegacy : s.legacyGrantBelongsTo id = false)

include hnamed hlegacy

/-! A server the unscoped grant does not belong to has its own entries only. -/

theorem getActiveGrant_scoped :
    s.getActiveGrant (some id) = (s.storedGrant (.keyed .activeGrant id)).filter fun grant =>
        isNullOrBlank grant.serverId || grant.serverId == some id := by
  simp only [getActiveGrant, hnamed, hlegacy, Bool.false_eq_true, if_false]
  rcases s.storedGrant (.keyed .activeGrant id) with _ | grant
  · rfl
  · rw [Option.filter_some]

theorem getActiveGrantEnvelope_scoped :
    s.getActiveGrantEnvelope (some id) = s.storedEnvelope (.keyed .activeGrantEnvelope id) := by
  simp only [getActiveGrantEnvelope, hnamed, hlegacy, Bool.false_eq_true, if_false]
  rcases s.storedEnvelope (.keyed .activeGrantEnvelope id) with _ | envelope <;> rfl

theorem getPinnedServerPublicKey_scoped :
    s.getPinnedServerPublicKey (some id) =
      (s.storedText (.keyed .pinnedServerKey id)).filter (!isBlank ·) := by
  simp only [getPinnedServerPublicKey, hnamed, hlegacy, Bool.false_eq_true, if_false]
  rcases s.storedText (.keyed .pinnedServerKey id) with _ | pin
  · rfl
  · rw [Option.filter_some]
    rfl

end Scoped

/-! ### The grant in force -/

/-- The grant, envelope and pin a server's rights rest on, before the check of
fields and signature. -/
def candidate (s : AdminState P) (serverId : Option String) :
    Option (AdminGrant × AdminEnvelope × String) := do
  let grant ← s.getActiveGrant serverId
  if serverId.getD (grant.serverId.getD "legacy") ∈ s.revokedServerIds then none
  let envelope ← s.getActiveGrantEnvelope serverId
  let pin ← s.getPinnedServerPublicKey serverId
  if serverId.isSome ∧ grant.serverId.isSome ∧ grant.serverId ≠ serverId then none
  if grant.expiresAt ≤ s.currentTimeSeconds ∨ envelope.exp ≤ s.currentTimeSeconds then none
  return (grant, envelope, pin)

/-- `verifiedGrantForServer`: the answer, and the state with the cache as the call
leaves it. -/
def verifiedGrantForServer (serverId : Option String) (s : AdminState P) :
    Option AdminGrant × AdminState P :=
  match s.candidate serverId with
  | none => (none, s)
  | some (grant, envelope, pin) =>
    let candidate : ValidatedGrant := ⟨grant, envelope, pin, P.getFingerprint⟩
    let cacheKey := serverId.getD "legacy"
    if (s.validatedGrants cacheKey).map Subtype.val = some candidate then (some grant, s)
    else if h : P.Authentic s.currentTimeSeconds envelope grant pin then
      (some grant,
        { s with
          validatedGrants :=
            Function.update s.validatedGrants cacheKey
              (some ⟨candidate, s.currentTimeSeconds, h⟩) })
    else (none, s)

/-- The check without the cache. -/
def verifiedGrant (s : AdminState P) (serverId : Option String) : Option AdminGrant :=
  match s.candidate serverId with
  | none => none
  | some (grant, envelope, pin) =>
    if P.Authentic s.currentTimeSeconds envelope grant pin then some grant else none

def getRole (serverId : String) (s : AdminState P) : AdminRole × AdminState P :=
  let (grant, s') := s.verifiedGrantForServer (some serverId)
  ((grant.map (·.role)).getD .none, s')

theorem candidate_eq_some {s : AdminState P} {serverId : Option String} {envelope : AdminEnvelope}
    {pin : String} :
    s.candidate serverId = some (grant, envelope, pin) ↔
      s.getActiveGrant serverId = some grant ∧
      serverId.getD (grant.serverId.getD "legacy") ∉ s.revokedServerIds ∧
      s.getActiveGrantEnvelope serverId = some envelope ∧
      s.getPinnedServerPublicKey serverId = some pin ∧
      ¬ (serverId.isSome ∧ grant.serverId.isSome ∧ grant.serverId ≠ serverId) ∧
      s.currentTimeSeconds < grant.expiresAt ∧ s.currentTimeSeconds < envelope.exp := by
  simp only [candidate, Option.bind_eq_bind, Option.bind_eq_some_iff]
  constructor
  · rintro ⟨g, hg, h⟩
    split at h
    · simp at h
    next hrevoked =>
    obtain ⟨e, he, h⟩ := Option.bind_eq_some_iff.1 h
    obtain ⟨p, hp, h⟩ := Option.bind_eq_some_iff.1 h
    split at h
    · simp at h
    next hserver =>
    split at h
    · simp at h
    next hdates =>
    simp only [Option.pure_def, Option.some.injEq, Prod.mk.injEq] at h
    obtain ⟨rfl, rfl, rfl⟩ := h
    rw [not_or, Int.not_le, Int.not_le] at hdates
    exact ⟨hg, hrevoked, he, hp, hserver, hdates⟩
  · rintro ⟨hg, hrevoked, he, hp, hserver, hdates⟩
    refine ⟨grant, hg, ?_⟩
    rw [if_neg hrevoked, he, Option.bind_some, hp, Option.bind_some, if_neg hserver,
      if_neg (by omega)]
    rfl

/-- The cache changes no answer. -/
theorem verifiedGrantForServer_fst (serverId : Option String) (s : AdminState P) :
    (s.verifiedGrantForServer serverId).1 = s.verifiedGrant serverId := by
  unfold verifiedGrantForServer verifiedGrant
  rcases hc : s.candidate serverId with _ | ⟨grant, envelope, pin⟩
  · rfl
  · obtain ⟨-, -, -, -, -, hgrant, henvelope⟩ := candidate_eq_some.1 hc
    dsimp only
    split
    · next hit =>
        -- a remembered entry passed the check once, and the dates were compared again
        obtain ⟨⟨v, now, hv⟩, -, hvc⟩ := Option.map_eq_some_iff.1 hit
        subst hvc
        rw [if_pos (Platform.Authentic.at_time hv hgrant henvelope)]
    · split <;> simp_all

theorem verifiedGrantForServer_snd (serverId : Option String) (s : AdminState P) :
    (s.verifiedGrantForServer serverId).2 =
      { s with validatedGrants := (s.verifiedGrantForServer serverId).2.validatedGrants } := by
  unfold verifiedGrantForServer
  rcases s.candidate serverId with _ | ⟨grant, envelope, pin⟩
  · rfl
  · dsimp only
    split
    · rfl
    · split <;> rfl

/-- The same for the first grant in force along a list of nodes. -/
def firstVerifiedGrant : List ServerNode → AdminState P → Option AdminGrant × AdminState P
  | [], s => (none, s)
  | node :: nodes, s =>
    match s.verifiedGrantForServer (some node.id) with
    | (some grant, s') => (some grant, s')
    | (none, s') => firstVerifiedGrant nodes s'

theorem firstVerifiedGrant_snd (nodes : List ServerNode) (s : AdminState P) :
    (s.firstVerifiedGrant nodes).2 =
      { s with validatedGrants := (s.firstVerifiedGrant nodes).2.validatedGrants } := by
  induction nodes generalizing s with
  | nil => rfl
  | cons node nodes ih =>
    have h := s.verifiedGrantForServer_snd (some node.id)
    simp only [firstVerifiedGrant]
    rcases hv : s.verifiedGrantForServer (some node.id) with ⟨_ | grant, s'⟩
    · rw [hv] at h
      dsimp only at h ⊢
      rw [ih s', h]
    · rw [hv] at h
      exact h

theorem getRole_fst (serverId : String) (s : AdminState P) :
    (s.getRole serverId).1 = ((s.verifiedGrant (some serverId)).map (·.role)).getD .none := by
  simp only [getRole, ← verifiedGrantForServer_fst]

theorem verifiedGrant_eq_some {s : AdminState P} {serverId : Option String} :
    s.verifiedGrant serverId = some grant ↔
      ∃ envelope pin, s.candidate serverId = some (grant, envelope, pin) ∧
        P.Authentic s.currentTimeSeconds envelope grant pin := by
  unfold verifiedGrant
  rcases s.candidate serverId with _ | ⟨g, e, p⟩
  · simp
  · constructor
    · intro h
      dsimp only at h
      split at h
      · next ha =>
          obtain rfl := Option.some.inj h
          exact ⟨e, p, rfl, ha⟩
      · simp at h
    · rintro ⟨envelope, pin, h, ha⟩
      obtain ⟨rfl, rfl, rfl⟩ : g = grant ∧ e = envelope ∧ p = pin := by simpa using h
      exact if_pos ha

/-- A server has a grant, its envelope and a pin under its own keys, and is not revoked. -/
structure Holds (s : AdminState P) (serverId : String) (grant : AdminGrant)
    (envelope : AdminEnvelope) (pin : String) : Prop where
  ownGrant : s.storage.get (.keyed .activeGrant serverId) = some (.grant grant)
  ownEnvelope : s.storage.get (.keyed .activeGrantEnvelope serverId) = some (.envelope envelope)
  ownPin : s.storage.get (.keyed .pinnedServerKey serverId) = some (.text pin)
  notRevoked : serverId ∉ s.revokedServerIds

theorem Holds.verified {s : AdminState P} {serverId : String} {envelope : AdminEnvelope}
    {pin : String} (h : s.Holds serverId grant envelope pin) (hnamed : isBlank serverId = false)
    (hserver : grant.serverId = some serverId)
    (hauthentic : P.Authentic s.currentTimeSeconds envelope grant pin) :
    s.verifiedGrant (some serverId) = some grant := by
  have hdates := hauthentic.dates
  refine verifiedGrant_eq_some.2 ⟨envelope, pin, candidate_eq_some.2 ⟨?_, ?_, ?_, ?_, ?_, hdates⟩,
    hauthentic⟩
  · simp [getActiveGrant, storedGrant, hnamed, h.ownGrant, Stored.asGrant, hserver]
  · simpa using h.notRevoked
  · simp [getActiveGrantEnvelope, storedEnvelope, hnamed, h.ownEnvelope, Stored.asEnvelope]
  · simp [getPinnedServerPublicKey, storedText, hnamed, h.ownPin, Stored.asText,
      hauthentic.pin_not_blank]
  · simp [hserver]

theorem getRole_eq_none {serverId : String} {s : AdminState P} :
    (s.getRole serverId).1 = .none ↔ s.verifiedGrant (some serverId) = none := by
  rw [getRole_fst]
  rcases hv : s.verifiedGrant (some serverId) with _ | grant
  · simp
  · obtain ⟨envelope, pin, -, ha⟩ := verifiedGrant_eq_some.1 hv
    have hr := Platform.Authentic.granted ha
    simp only [Option.map_some, Option.getD_some, reduceCtorEq, iff_false]
    intro hn
    rw [hn] at hr
    simp [AdminRole.granted] at hr

/-- Whatever the cache remembers, a server has a role exactly while the grant stored for it gives
that role, is authentic under the pinned key, and is not revoked. -/
theorem getRole_eq_iff (s : AdminState P) (serverId : String) (role : AdminRole) :
    (s.getRole serverId).1 = role ∧ role ≠ .none ↔ ∃ grant envelope pin,
      s.getActiveGrant (some serverId) = some grant ∧ grant.role = role ∧
      s.getActiveGrantEnvelope (some serverId) = some envelope ∧
      s.getPinnedServerPublicKey (some serverId) = some pin ∧
      P.Authentic s.currentTimeSeconds envelope grant pin ∧
      serverId ∉ s.revokedServerIds ∧ ∀ id, grant.serverId = some id → id = serverId := by
  constructor
  · rintro ⟨rfl, hrole⟩
    rcases hv : s.verifiedGrant (some serverId) with _ | grant
    · exact absurd (getRole_eq_none.2 hv) hrole
    · obtain ⟨envelope, pin, hcandidate, hauthentic⟩ := verifiedGrant_eq_some.1 hv
      obtain ⟨hgrant, hrevoked, henvelope, hpin, hserver, -⟩ := candidate_eq_some.1 hcandidate
      refine ⟨grant, envelope, pin, hgrant, ?_, henvelope, hpin, hauthentic, hrevoked, ?_⟩
      · rw [getRole_fst, hv]
        rfl
      · intro id hid
        simpa [hid] using hserver
  · rintro ⟨grant, envelope, pin, hgrant, rfl, henvelope, hpin, hauthentic, hrevoked, hserver⟩
    have hv : s.verifiedGrant (some serverId) = some grant := by
      refine verifiedGrant_eq_some.2 ⟨envelope, pin, candidate_eq_some.2 ⟨hgrant, hrevoked,
        henvelope, hpin, ?_, hauthentic.dates⟩, hauthentic⟩
      rintro ⟨-, hsome, hne⟩
      obtain ⟨id, hid⟩ := Option.isSome_iff_exists.1 hsome
      exact hne (hid.trans (congrArg some (hserver id hid)))
    have hrole : (s.getRole serverId).1 = grant.role := by
      rw [getRole_fst, hv]
      rfl
    refine ⟨hrole, fun hnone => ?_⟩
    rw [hnone, getRole_eq_none, hv] at hrole
    cases hrole

end AdminState

end LibreRoute.Admin
