import LibreRoute.Admin.Grants

/-!
Runs of the administrator repository: sequences of the operations on
requests, pins, grants and nodes, with time passing between them. The
store does not fail in these runs.
-/

namespace LibreRoute.Admin

open LibreRoute.Lib StorageKey

/-- One operation on the repository, or the passing of time. -/
inductive AdminStep
  | createJoinRequest (seed : JoinSeed) (targetProfileId : String) (desiredRole : AdminRole)
      (setupToken clientEphemeralKey : Option String)
  | setPinnedServerPublicKey (keyBase64 : String) (serverId : Option String)
  | applyAdminGrant (grantEnvelope : AdminEnvelope) (serverPublicKeyBase64 : String)
  | addServerNode (node : ServerNode)
  | updateServerNode (node : ServerNode)
  | removeServerNode (id : String)
  | removeLocalAdminGrant (serverId : String)
  | tick (millis : Nat)

namespace AdminStep

variable {P : Platform}

def program : AdminStep → AdminM P Unit
  | createJoinRequest seed targetProfileId desiredRole setupToken clientEphemeralKey => do
      let _ ← Admin.createJoinRequest seed targetProfileId desiredRole setupToken clientEphemeralKey
      pure ()
  | setPinnedServerPublicKey keyBase64 serverId =>
    Admin.setPinnedServerPublicKey keyBase64 serverId
  | applyAdminGrant grantEnvelope serverPublicKeyBase64 => do
      let _ ← Admin.applyAdminGrant grantEnvelope serverPublicKeyBase64
      pure ()
  | addServerNode node => Admin.addServerNode node
  | updateServerNode node => Admin.updateServerNode node
  | removeServerNode id => Admin.removeServerNode id
  | removeLocalAdminGrant serverId => Admin.removeLocalAdminGrant serverId
  | tick millis =>
    Prog.modify fun s => { s with currentTimeMillis := s.currentTimeMillis + millis }

/-- The state a step leaves. A step that throws leaves what it did before. -/
def next (step : AdminStep) (s : AdminState P) : AdminState P :=
  ((program step).exec s).2

end AdminStep

variable {P : Platform}

def runSteps : List AdminStep → AdminState P → AdminState P
  | [], s => s
  | step :: steps, s => runSteps steps (step.next s)

theorem runSteps_keeps {I : AdminState P → Prop} {steps : List AdminStep}
    (h : ∀ step ∈ steps, (AdminStep.program step : AdminM P Unit).Keeps I) {s : AdminState P}
    (hs : I s) : I (runSteps steps s) := by
  induction steps generalizing s with
  | nil => exact hs
  | cons step steps ih =>
    have hstep : I (step.next s) := (h step (by simp)).exec hs
    exact ih (fun next hnext => h next (by simp [hnext])) hstep

theorem runSteps_append (steps steps' : List AdminStep) (s : AdminState P) :
    runSteps (steps ++ steps') s = runSteps steps' (runSteps steps s) := by
  induction steps generalizing s with
  | nil => rfl
  | cons step steps ih => exact ih (step.next s)

/-! ### The way to a grant -/

open AdminState

/-- A key is pinned, a request is made, and the grant that answers it is applied. -/
def enrolment (serverId : Option String) (key : String) (seed : JoinSeed)
    (grantEnvelope : AdminEnvelope) : List AdminStep :=
  [.setPinnedServerPublicKey key serverId,
    .createJoinRequest seed grantEnvelope.profileId .owner none none,
    .applyAdminGrant grantEnvelope key]

@[reducible] def enrolmentRecords : List StorageKey :=
  [.fixed .managedProfiles, .fixed .commandHistory, .fixed .pendingRequest, .fixed .lastPairingCode]

/-- Two stores that only differ in such records. -/
def Storage.Agrees (st st' : Storage) : Prop :=
  ∀ entry : StorageKey, entry.text ∉ enrolmentRecords.map StorageKey.text →
    st.get entry = st'.get entry

namespace Storage.Agrees

variable {st st' : Storage} (h : st.Agrees st')
include h

theorem put (key : StorageKey) (value : Stored) :
    (st.put key value).Agrees (st'.put key value) := by
  intro entry hentry
  simp only [get_put, h entry hentry]

theorem remove (key : StorageKey) : (st.remove key).Agrees (st'.remove key) := by
  intro entry hentry
  simp only [get_remove, h entry hentry]

theorem putServerGrant (serverId : Option String) (grant : AdminGrant) (envelope : AdminEnvelope)
    (key : String) :
    (st.putServerGrant serverId grant envelope key).Agrees
      (st'.putServerGrant serverId grant envelope key) := by
  unfold Storage.putServerGrant
  split
  · exact h
  · split
    · exact h
    · exact ((h.put _ _).put _ _).put _ _

end Storage.Agrees

theorem AdminState.granted_agrees {s s' : AdminState P} (h : s.storage.Agrees s'.storage)
    (hnodes : s.serverNodes = s'.serverNodes) (grant : AdminGrant) (envelope : AdminEnvelope)
    (key : String) :
    (s.granted grant envelope key).storage.Agrees (s'.granted grant envelope key).storage := by
  have heff : s.effectiveServerId grant = s'.effectiveServerId grant := by
    simp only [effectiveServerId, hnodes]
  have hown := h.putServerGrant (s'.effectiveServerId grant) grant envelope key
  have hpin := hown (.fixed .pinnedServerKey) (by decide)
  have hgranted : (s.grantedStorage grant envelope key).Agrees
      (s'.grantedStorage grant envelope key) := by
    simp only [grantedStorage, heff, hpin]
    split
    · exact (((((hown.put _ _).put _ _).put _ _).put _ _).remove _).remove _
    · exact ((hown.put _ _).remove _).remove _
  have hrevoked := hgranted (.fixed .revokedServerIds) (by decide)
  simp only [granted, accepted, revokedServerIds, hrevoked]
  exact hgranted.put _ _

/-- What an enrolment leaves: the state of an accepted grant, up to the records. -/
structure Enrolled (serverId : Option String) (key : String) (grant : AdminGrant)
    (grantEnvelope : AdminEnvelope) (s s' : AdminState P) : Prop where
  activeGrant : s'.activeGrant = some grant
  serverNodes : s'.serverNodes = s.serverNodes
  currentTimeMillis : s'.currentTimeMillis = s.currentTimeMillis
  entries : s'.storage.Agrees
    (granted { s with storage := s.pinnedStorage key serverId } grant grantEnvelope key).storage

theorem runSteps_enrolment {s : AdminState P} {serverId : Option String} {key : String}
    {seed : JoinSeed} {grant : AdminGrant} {grantEnvelope : AdminEnvelope}
    (hcheckpoint : s.storage.get (.fixed .delegationCheckpoint) = none)
    (hnamed : ∀ id, serverId = some id → isBlank id = false)
    (hdecoded : P.decodeGrant grantEnvelope.payload = .ok grant)
    (hserver : grant.serverId = serverId) (hnonce : grantEnvelope.nonce = seed.nonce)
    (hauthentic : P.Authentic s.currentTimeSeconds grantEnvelope grant key) :
    Enrolled serverId key grant grantEnvelope s
      (runSteps (enrolment serverId key seed grantEnvelope) s) := by
  set pinned : AdminState P := { s with storage := s.pinnedStorage key serverId } with hpinned
  have hcheckpoint' : pinned.storage.get (.fixed .delegationCheckpoint) = none := by
    rw [← hcheckpoint]
    exact s.pinnedStorage_get (by decide) (by simp)
  obtain ⟨joined, hjoin, hrequests⟩ := createJoinRequest_exec hcheckpoint' seed
    grantEnvelope.profileId .owner none none
  have houtside : joined.outside enrolmentRecords = pinned.outside enrolmentRecords :=
    Keeping.leaves.of_exec hjoin
  have hagrees : joined.storage.Agrees pinned.storage := fun entry hentry =>
    get_of_outside houtside hentry
  have htime : joined.currentTimeMillis = s.currentTimeMillis :=
    congrArg Outside.currentTimeMillis houtside
  have hnodes : joined.serverNodes = s.serverNodes := congrArg Prod.snd hrequests
  have hpending := congrArg Prod.fst hrequests
  have hpin : joined.getPinnedServerPublicKey grant.serverId = some key := by
    rw [hserver]
    refine getPinnedServerPublicKey_of_entry hauthentic.pin_not_blank hnamed ?_
    have hentry : (pin serverId).text ∉ enrolmentRecords.map text := by
      cases serverId <;> simp [pin, enrolmentRecords]
    rw [storedText, hagrees _ hentry, s.pinnedStorage_pin hnamed]
    rfl
  have hchecked : joined.GrantChecked grantEnvelope key grant := by
    refine ⟨hdecoded, hpin, ⟨_, hpending, rfl, hnonce.symm⟩, ?_⟩
    rwa [currentTimeSeconds, htime]
  obtain ⟨profiles, history, st, happly, hst⟩ := applyAdminGrant_exec hchecked
  have hrun : runSteps (enrolment serverId key seed grantEnvelope) s =
      { joined.granted grant grantEnvelope key with
        managedProfiles := profiles, commandHistory := history, storage := st } := by
    simp [enrolment, runSteps, AdminStep.next, AdminStep.program, ←
      hpinned, hjoin, happly]
  rw [hrun]
  refine ⟨rfl, hnodes, htime, fun entry hentry => ?_⟩
  rw [← granted_agrees hagrees hnodes grant grantEnvelope key entry hentry]
  refine hst entry fun hrecord => hentry ?_
  simp only [List.mem_cons, List.not_mem_nil, or_false] at hrecord
  simp only [enrolmentRecords, List.map_cons, List.mem_cons, text]
  tauto

namespace Enrolled

variable {s s' : AdminState P} {serverId : Option String} {key : String} {grant : AdminGrant}
  {grantEnvelope : AdminEnvelope} (h : Enrolled serverId key grant grantEnvelope s s')
include h

theorem get_of_notMem {entry : StorageKey}
    (hpin : ∀ id, serverId = some id → entry.text ≠ (keyed .pinnedServerKey id).text)
    (hserver : ∀ id, s.effectiveServerId grant = some id →
      entry.text ∉ (serverGrantKeys id).map text)
    (hother : entry.text ∉ (unscopedGrantKeys ++ enrolmentRecords).map text) :
    s'.storage.get entry = s.storage.get entry := by
  rw [List.map_append, List.mem_append, not_or] at hother
  have hpinned : (s.pinnedStorage key serverId).get entry = s.storage.get entry := by
    refine s.pinnedStorage_get (fun hlegacy => hother.1 ?_) hpin
    rw [hlegacy]
    decide
  have hgranted := granted_get_of_notMem { s with storage := s.pinnedStorage key serverId }
    grantEnvelope key hserver hother.1
  rw [h.entries entry hother.2, hgranted, hpinned]

theorem own {id : String} (heff : s.effectiveServerId grant = some id)
    (hnamed : isBlank id = false) (henvelope : id ≠ "envelope") :
    s'.storage.get (.keyed .activeGrant id) = some (.grant grant) ∧
      s'.storage.get (.keyed .activeGrantEnvelope id) = some (.envelope grantEnvelope) ∧
      s'.storage.get (.keyed .pinnedServerKey id) = some (.text key) := by
  have hentries : ∀ family, (keyed family id).text ∉
      enrolmentRecords.map text := by
    simp [enrolmentRecords]
  simp only [h.entries _ (hentries _)]
  exact granted_get_own heff hnamed henvelope

theorem revokedServerIds :
    s'.revokedServerIds =
      s.revokedServerIds.eraseDups.filter (· != grant.serverId.getD "legacy") := by
  have hst : (s.pinnedStorage key serverId).get (.fixed .revokedServerIds) =
      s.storage.get (.fixed .revokedServerIds) :=
    s.pinnedStorage_get (by decide) (by simp)
  have hgranted := granted_revokedServerIds
    { s with storage := s.pinnedStorage key serverId } grant grantEnvelope key
  simp only [AdminState.revokedServerIds, hst] at hgranted
  rw [AdminState.revokedServerIds, h.entries _ (by decide), hgranted]
  rfl

end Enrolled

end LibreRoute.Admin
