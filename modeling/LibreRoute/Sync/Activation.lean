import LibreRoute.Sync.Redemption
import LibreRoute.Sync.Start

/-!
What an undisturbed redemption leaves behind, and what is left of one that is
cut at its last write, when the candidate is active and the checkpoint not yet
completed. At the end the phone redeems an invitation of the first server;
what it is decrypted to is looked up, like signatures and digests.
-/

namespace LibreRoute.Sync

open Lib Tunnels ServerIssuedInvitation SyncState
open Admin (Throwable AdminEnvelope AdminOpResult Recording serverKey1)
open Tunnel (isAvailable)

namespace Address

theorem text_redemption_ne {name : String} (hname : name.toList.take 8 ≠ "client_r".toList)
    (hash : String) : (redemption hash).text ≠ name := by
  intro h
  have hlong : 8 ≤ "client_redemption_checkpoint_".toList.length := by decide
  have hlist : "client_redemption_checkpoint_".toList ++ hash.toList = name.toList := by
    rw [← String.toList_append]
    exact congrArg String.toList h
  refine hname ?_
  rw [← hlist, List.take_append_of_le_length hlong]
  decide

end Address

namespace Storage

@[simp] theorem get_redemption_put_context (L : SyncLibraries) (st : Storage) (c : String)
    (key : SyncKey) (value : Option Entry) (link : String) :
    (st.put (.context c key) value).get (.redemption (L.invitationHash link)) =
      st.get (.redemption (L.invitationHash link)) :=
  get_put_of_ne st value (Address.text_context_ne_redemption L c key link).symm

variable (st : Storage) (value : Option Entry) (hash : String)

@[simp] theorem get_redemption_put_syncContexts :
    (st.put .syncContexts value).get (.redemption hash) = st.get (.redemption hash) :=
  get_put_of_ne st value (Address.text_redemption_ne (by decide) hash)

@[simp] theorem get_redemption_put_activeSyncContext :
    (st.put .activeSyncContext value).get (.redemption hash) = st.get (.redemption hash) :=
  get_put_of_ne st value (Address.text_redemption_ne (by decide) hash)

theorem get_syncContexts_put_activeSyncContext :
    (st.put .activeSyncContext value).get .syncContexts = st.get .syncContexts :=
  get_put_of_ne st value (by decide)

theorem get_syncContexts_put_redemption :
    (st.put (.redemption hash) value).get .syncContexts = st.get .syncContexts :=
  get_put_of_ne st value (Address.text_redemption_ne (by decide) hash).symm

theorem get_context_put_redemption (L : SyncLibraries) (st : Storage) (c : String) (key : SyncKey)
    (value : Option Entry) (link : String) :
    (st.put (.redemption (L.invitationHash link)) value).get (.context c key) =
      st.get (.context c key) :=
  get_put_of_ne st value (Address.text_context_ne_redemption L c key link)

end Storage

/-! ### Activation -/

variable {files : FileSystem}

section Activation

variable {L : SyncLibraries} {J : InvitationLibraries} {call : RedemptionCall} {s s' : SyncState}
  {candidate : VerifiedInvitationCandidate} {serverKey : String}

def enrolmentOf (L : SyncLibraries) (candidate : VerifiedInvitationCandidate) (serverKey : String) :
    Enrolment where
  deviceId := enrolledDeviceId L candidate
  profileId := candidate.profileId
  docUrl := candidate.documentUrl
  secretKey := candidate.secretKey
  serverKey := serverKey

def SyncState.contextFor (L : SyncLibraries) (s : SyncState)
    (candidate : VerifiedInvitationCandidate) (serverKey : String) : String :=
  s.enrolledContext L (enrolledDeviceId L candidate) candidate.profileId serverKey

structure Activated (L : SyncLibraries) (candidate : VerifiedInvitationCandidate)
    (serverKey : String) (s s' : SyncState) : Prop where
  holds : s'.Holds (s.contextFor L candidate serverKey) (enrolmentOf L candidate serverKey)
  revision : s'.storage.get (.context (s.contextFor L candidate serverKey) .revision) =
    some (.number candidate.revision)
  contexts : s'.storage.get .syncContexts =
    some (.contexts (s.syncContexts ++ [s.contextFor L candidate serverKey]).eraseDups)
  deviceIds : ∀ c, c ≠ s.contextFor L candidate serverKey → s'.text c .deviceId = s.text c .deviceId
  checkpoint : ∀ link, s'.redemptionCheckpoint L link = s.redemptionCheckpoint L link
  routes : s'.routes (s.contextFor L candidate serverKey) =
    candidate.routes.filter RouteCandidate.isAvailable
  clock : s'.currentTimeMillis = s.currentTimeMillis
  pinned : s'.pinnedServerKey = s.pinnedServerKey
  redemptions : s'.redemptions = s.redemptions

/-- The entries of the enrolment, in the order they are written. -/
def enrolledStorage (L : SyncLibraries) (s : SyncState) (candidate : VerifiedInvitationCandidate)
    (serverKey : String) : Storage :=
  let c := s.contextFor L candidate serverKey
  let texts := ((((s.storage.put (.context c .deviceId)
      (some (.text (enrolledDeviceId L candidate)))).put
    (.context c .userId) (some (.text candidate.userId))).put
    (.context c .profileId) (some (.text candidate.profileId))).put
    (.context c .docUrl) (some (.text candidate.documentUrl))).put
    (.context c .secretKey) (some (.text candidate.secretKey))
  (((((texts.put (.context c .revision) (some (.number candidate.revision))).put
    (.context c .trustedServerKey) (some (.text serverKey))).put
    (.context c .lastCheckedAt) (some (.number s.currentTimeMillis))).put
    (.context c .routesJson)
      (some (.routes (candidate.routes.filter RouteCandidate.isAvailable)))).put
    .syncContexts (some (.contexts (s.syncContexts ++ [c]).eraseDups))).put
    .activeSyncContext (some (.text c))

theorem saveEnrolledSyncState_exec :
    (saveEnrolledSyncState L (enrolledDeviceId L candidate) candidate.userId
        candidate.profileId candidate.documentUrl candidate.secretKey candidate.revision serverKey
        candidate.routes).exec s =
      (.ok (), { s with storage := enrolledStorage L s candidate serverKey }) := by
  simp only [saveEnrolledSyncState, exec_bind, exec_read, putEntry_exec]
  rfl

theorem enrolledStorage_activated :
    Activated L candidate serverKey s
      { s with storage := enrolledStorage L s candidate serverKey } := by
  constructor
  · constructor <;>
      simp [SyncState.text, enrolledStorage, enrolmentOf, Entry.asText]
  · simp [enrolledStorage]
  · simp [enrolledStorage, Storage.get_syncContexts_put_activeSyncContext]
  · intro c hc
    simp [SyncState.text, enrolledStorage, hc]
  · intro link
    simp [redemptionCheckpoint, enrolledStorage]
  · simp [SyncState.routes, enrolledStorage, Entry.asRoutes]
  · rfl
  · rfl
  · rfl

theorem Activated.put_marker {c : String} {value : Option Entry} {store : TunnelStore}
    (h : Activated L candidate serverKey s s') :
    Activated L candidate serverKey s { s' with
      store := store
      files := files
      storage := s'.storage.put (.context c .managedTunnelIds) value } where
  holds := by
    obtain ⟨hd, hp, hu, hk, hs⟩ := h.holds
    constructor <;> simpa [SyncState.text] using by assumption
  revision := by simpa using h.revision
  contexts := by simpa using h.contexts
  deviceIds c hc := by
    rw [← h.deviceIds c hc]
    simp [SyncState.text]
  checkpoint link := by
    rw [redemptionCheckpoint, Storage.get_redemption_put_context]
    exact h.checkpoint link
  routes := by
    rw [← h.routes]
    simp [SyncState.routes]
  clock := h.clock
  pinned := h.pinned
  redemptions := h.redemptions

theorem Activated.update {tunnels : List Tunnel} (h : Activated L candidate serverKey s s')
    (c : String) (hkeys : ∀ t ∈ tunnels.filter isAvailable, KeyResolves L.device t) :
    ∃ s₂ prepared, (updateManagedTunnels L c tunnels).exec s' = (.ok (), s₂) ∧
      Activated L candidate serverKey s s₂ ∧
      Manages L s' c (tunnels.filter isAvailable) prepared s₂ := by
  obtain ⟨prepared, files, selected, hexec, hprepared⟩ :=
    updateManagedTunnels_ok hkeys
  exact ⟨_, prepared, hexec, h.put_marker, rfl, hprepared, Storage.get_put_self ..⟩

theorem activeSyncContext_enrolled (hdevice : isBlank (enrolledDeviceId L candidate) = false) :
    ({ s with storage := enrolledStorage L s candidate serverKey } : SyncState).activeSyncContext =
      s.contextFor L candidate serverKey := by
  have hactivated : Activated L candidate serverKey s
      { s with storage := enrolledStorage L s candidate serverKey } := enrolledStorage_activated
  have hactive : (enrolledStorage L s candidate serverKey).get .activeSyncContext =
      some (.text (s.contextFor L candidate serverKey)) := Storage.get_put_self ..
  have hmem : s.contextFor L candidate serverKey ∈
      ({ s with storage := enrolledStorage L s candidate serverKey } : SyncState).syncContexts := by
    rw [syncContexts, hactivated.contexts, List.mem_filter, List.mem_eraseDups]
    refine ⟨List.mem_append_left _ ?_, ?_⟩
    · simp [Entry.asContexts]
    · rw [isEnrolled, hactivated.holds.deviceId]
      change (! isBlank (enrolledDeviceId L candidate)) = true
      rw [hdevice]
      rfl
  rw [activeSyncContext, hactive, Option.bind_some, Entry.asText,
    Option.filter_some_pos (List.contains_iff_mem.2 hmem)]

theorem enrolledStorage_others (c : String) :
    ({ s with storage := enrolledStorage L s candidate serverKey } : SyncState).others c =
      s.others c := by
  simp [SyncState.others, unmanaged, managedTunnelIds, enrolledStorage]

theorem enrolledDeviceId_not_blank {L : SyncLibraries}
    (h : isBlank L.recipient.publicKeyHashHex = false) (candidate : VerifiedInvitationCandidate) :
    isBlank (enrolledDeviceId L candidate) = false := by
  rw [enrolledDeviceId]
  split
  · next hown => simpa using hown
  · exact h

theorem activateVerifiedCandidate_exec (candidate : VerifiedInvitationCandidate)
    (serverKey : String) (receipt : AdminEnvelope) {tunnels others : List Tunnel} {t : Tunnel}
    (havailable : tunnels.filter isAvailable = t :: others)
    (hkeys : ∀ t ∈ tunnels.filter isAvailable, KeyResolves L.device t) :
    ∃ s', (activateVerifiedCandidate L candidate serverKey receipt tunnels).exec s =
        (.ok (activated receipt t), s') ∧ Activated L candidate serverKey s s' ∧
      (isBlank (enrolledDeviceId L candidate) = false → ∃ prepared,
        Manages L s (s.contextFor L candidate serverKey) (tunnels.filter isAvailable)
          prepared s') := by
  have hfiltered : (t :: others).filter isAvailable = tunnels.filter isAvailable := by
    rw [← havailable, List.filter_filter]
    simp
  have hkeys' : ∀ u ∈ (t :: others).filter isAvailable, KeyResolves L.device u := by
    rwa [hfiltered]
  obtain ⟨s', prepared, hupdate, hactivated, hstored, hprepared, hmarker⟩ :=
    (enrolledStorage_activated).update
        ({ s with storage := enrolledStorage L s candidate serverKey } :
          SyncState).activeSyncContext
        hkeys'
  rw [hfiltered, enrolledStorage_others] at hstored hprepared
  refine ⟨s', ?_, hactivated, fun hdevice => ?_⟩
  · unfold activateVerifiedCandidate
    rw [havailable]
    simp [saveEnrolledSyncState_exec, hupdate]
  · rw [activeSyncContext_enrolled hdevice] at hstored hprepared hmarker
    exact ⟨prepared, hstored, hprepared, hmarker⟩

theorem activateVerifiedCandidate_error {receipt : AdminEnvelope} {tunnels others : List Tunnel}
    {t : Tunnel} (havailable : tunnels.filter isAvailable = t :: others)
    (hkeys : ¬ ∀ t ∈ tunnels.filter isAvailable, KeyResolves L.device t) :
    ∃ e, ((activateVerifiedCandidate L candidate serverKey receipt tunnels).exec s).1 =
      .error e := by
  have hkeys' : ¬ ∀ u ∈ (t :: others).filter isAvailable, KeyResolves L.device u := by
    simpa [← havailable] using hkeys
  obtain ⟨e, files, herror⟩ := updateManagedTunnels_error
    (c := ({ s with storage := enrolledStorage L s candidate serverKey } :
      SyncState).activeSyncContext)
    (s := { s with storage := enrolledStorage L s candidate serverKey }) hkeys'
  refine ⟨e, ?_⟩
  unfold activateVerifiedCandidate
  rw [havailable]
  simp [saveEnrolledSyncState_exec, herror]

end Activation

section Single

variable {L : SyncLibraries} {call : SyncCall} {calls : String → SyncCall} {force : Bool}
  {c : String} {s : SyncState} {e : Enrolment} {rev now : Int}

theorem SyncState.syncContexts_of_single (h : s.Holds c e) (hdevice : isBlank e.deviceId = false)
    (hindexed : s.storage.get .syncContexts = some (.contexts [c]))
    (hlegacy : s.text "" .deviceId = none) : s.syncContexts = [c] := by
  have hnot : s.isEnrolled "" = false := by
    rw [isEnrolled, hlegacy]
    rfl
  have henrolled : s.isEnrolled c = true := by
    rw [isEnrolled, h.deviceId, isNullOrBlank_some, hdevice]
    rfl
  simp [syncContexts, hindexed, Entry.asContexts, hnot, henrolled, List.eraseDups_cons]

theorem SyncState.enrolledContext_of_single (h : s.Holds c e) (hcontexts : s.syncContexts = [c]) :
    s.enrolledContext L e.deviceId e.profileId e.serverKey = c := by
  simp [enrolledContext, hcontexts, h.profileId, h.serverKey, h.deviceId]

def Storage.withdraw (st : Storage) (c : String) (rev now : Int) : Storage :=
  (((st.put (.context c .managedTunnelIds) (some (.ids []))).put
    (.context c .revision) (some (.number rev))).put
    (.context c .lastCheckedAt) (some (.number now))).put
    (.context c .routesJson) (some (.routes []))

theorem syncRouteContext_withdraws
    (h : syncVerdict L call force c s = .ok (.updated rev now [])) :
    ∃ store files stopped, (syncRouteContext L call force c).exec s =
      (.ok (.updated rev []), { s with
        store := store
        files := files
        vpnStopped := stopped
        storage := s.storage.withdraw c rev now }) := by
  obtain ⟨store, stopped, hstop, -⟩ :=
    stopReplacedTunnel_exec (s.managedTunnelIds c) [] { s with files := s.files }
  have hkeys : ∀ t ∈ ([] : List Tunnel).filter isAvailable, KeyResolves L.device t := by simp
  obtain ⟨prepared, files, selected, hupdate, hprepared⟩ := updateManagedTunnels_ok (L := L)
    (c := c) (s := { s with store := store, vpnStopped := stopped }) hkeys
  obtain rfl : prepared = [] := by simpa [givens, Prepared] using hprepared
  refine ⟨⟨remaining L c (({ s with store := store, vpnStopped := stopped } : SyncState).others c)
    [] ++ [], selected⟩, files, stopped, ?_⟩
  rw [syncRouteContext_exec h]
  simp [madeOf, makeTunnels, publish, hstop, hupdate, Storage.withdraw]

theorem syncRoutes_withdraws (hcontexts : s.syncContexts = [c])
    (h : syncVerdict L (calls c) force c s = .ok (.updated rev now [])) :
    ∃ result s', (syncRoutes L calls force).exec s = (.ok result, s') ∧
      s'.storage = s.storage.withdraw c rev now ∧ s'.pinnedServerKey = s.pinnedServerKey := by
  obtain ⟨store, files, stopped, hexec⟩ := syncRouteContext_withdraws h
  refine ⟨combine [contextResult L calls force c s],
    ((syncRouteContext L (calls c) force c).exec s).2, ?_, by rw [hexec], by rw [hexec]⟩
  simp [syncRoutes, hcontexts, Prog.mapEach, syncContext_exec]

end Single

/-! ### Redemption through a document -/

section Document

variable {L : SyncLibraries} {J : InvitationLibraries} {call : RedemptionCall} {s : SyncState}
  {link key : String} {candidate : VerifiedInvitationCandidate}
  {request receipt : AdminEnvelope} {tunnels others : List Tunnel} {t : Tunnel}

theorem completedRedemption_exec
    (h : (s.redemptionCheckpoint L link).filter (·.completed) = none) :
    (completedRedemption L link).exec s = (.ok none, s) := by
  simp [completedRedemption, orFailure, h]

theorem resumeRedemption_exec_none (h : s.redemptionCheckpoint L link = none) :
    (resumeRedemption L link).exec s = (.ok none, s) := by
  have hcompleted := completedRedemption_exec (by rw [h]; rfl)
  simp [resumeRedemption, orFailure, hcompleted, h]

/-- The state when a receipt has been kept. -/
def SyncState.keep (s : SyncState) (record : ClientRedemptionCheckpoint) (files : FileSystem) :
    SyncState :=
  { s with
    storage := s.storage.put (.redemption record.invitationHash) (some (.checkpoint record))
    files := files }

theorem SyncState.keep_checkpoint {record : ClientRedemptionCheckpoint}
    (h : record.invitationHash = L.invitationHash link) :
    (s.keep record files).redemptionCheckpoint L link = some record := by
  simp [keep, redemptionCheckpoint, h, Entry.asCheckpoint]

def sentCheckpoint (L : SyncLibraries) (link key : String) (request : AdminEnvelope) :
    ClientRedemptionCheckpoint :=
  { invitationHash := L.invitationHash link, request := request, serverKey := key }

theorem requestRedemption_exec (h : s.redemptionCheckpoint L link = none)
    (hrequest : createRedemption L J call.opId call.nonce candidate
      (s.currentTimeMillis / 1000) = .ok request) :
    (requestRedemption L J call link key candidate).exec s =
      (.ok request, s.keep (sentCheckpoint L link key request) s.files) := by
  simp only [requestRedemption, exec_bind, exec_read, h, Option.map_none, keptOr,
    hrequest, exec_ofExcept, saveRedemptionCheckpoint, putEntry_exec, exec_pure]
  rfl

def receivedCheckpoint (L : SyncLibraries) (link key : String) (request receipt : AdminEnvelope)
    (candidate : VerifiedInvitationCandidate) (tunnels : List Tunnel) :
    ClientRedemptionCheckpoint :=
  { sentCheckpoint L link key request with
    receipt := some receipt
    candidate := some candidate
    tunnels := tunnels }

theorem receivedCheckpoint_hash (tunnels : List Tunnel) :
    (receivedCheckpoint L link key request receipt candidate tunnels).invitationHash =
      L.invitationHash link := rfl

/-- The tunnels of a candidate and the key files they leave. -/
def MakesTunnels (L : SyncLibraries) (call : RedemptionCall)
    (candidate : VerifiedInvitationCandidate) (tunnels : List Tunnel)
    (files files' : FileSystem) : Prop :=
  (Prog.mapEach (candidateRoutes candidate).zipIdx fun route =>
    routeCandidateToTunnel L (call.moments route.2) route.1 candidate.name).exec files =
      (.ok tunnels, files')

theorem keepCandidate_exec (hmade : MakesTunnels L call candidate tunnels s.files files) :
    (keepCandidate L call link key request receipt candidate).exec s =
      (.ok (receivedCheckpoint L link key request receipt candidate tunnels),
        s.keep (receivedCheckpoint L link key request receipt candidate tunnels) files) := by
  have hmade' : (prepareCandidateTunnels L call candidate).exec s =
      (.ok tunnels, { s with files := files }) := by
    rw [prepareCandidateTunnels, onFiles_exec, hmade]
  simp only [keepCandidate, exec_bind, hmade', saveRedemptionCheckpoint, putEntry_exec, exec_pure]
  rfl

/-- The process can die when the candidate is active and the checkpoint is as it was kept. -/
theorem redeemInvitationViaDocument_cuts
    (hlink : startsWith link BootstrapInvitation.linkStart = false)
    (hpinned : s.pinnedServerKey = some key) (hfresh : s.redemptionCheckpoint L link = none)
    (hcandidate : verifyCandidate L J link key (s.currentTimeMillis / 1000) = .ok candidate)
    (hrequest : createRedemption L J call.opId call.nonce candidate
      (s.currentTimeMillis / 1000) = .ok request)
    (hreply : call.reply candidate.documentUrl candidate.profileId candidate.secretKey request
      key = .ok receipt)
    (hreceipt : verifyRedemptionReceipt L J request receipt candidate key call.answeredAt = true)
    (hmade : MakesTunnels L call candidate tunnels s.files files)
    (havailable : tunnels.filter isAvailable = t :: others)
    (hkeys : ∀ t ∈ tunnels.filter isAvailable, KeyResolves L.device t) :
    ∃ s', (redeemInvitationViaDocument L J call link none).Cuts s s' ∧
      Activated L candidate key
        (((s.keep (sentCheckpoint L link key request) s.files).sent request).keep
          (receivedCheckpoint L link key request receipt candidate tunnels) files) s' := by
  obtain ⟨s', hactivate, hactivated, -⟩ := activateVerifiedCandidate_exec candidate key
    receipt havailable hkeys
  refine ⟨s', ?_, hactivated⟩
  have hcut : (activateCheckpoint L
      (receivedCheckpoint L link key request receipt candidate tunnels) candidate receipt).Cuts
        (((s.keep (sentCheckpoint L link key request) s.files).sent request).keep
          (receivedCheckpoint L link key request receipt candidate tunnels) files) s' :=
    cuts_bind hactivate (cuts_bind_left cuts_write)
  have hconfirm : (confirmRedemption L J call link key request receipt candidate none).Cuts
      ((s.keep (sentCheckpoint L link key request) s.files).sent request) s' := by
    rw [confirmRedemption, hreceipt]
    exact cuts_bind (keepCandidate_exec hmade) hcut
  have hredeem : (redeemThroughDocument L J call link key).Cuts s s' := by
    refine cuts_bind (exec_read _ s) ?_
    rw [hcandidate]
    refine cuts_bind (requestRedemption_exec hfresh hrequest) ?_
    rw [hreply]
    exact cuts_bind (exec_modify _ _) hconfirm
  rw [redeemInvitationViaDocument, hlink]
  refine cuts_bind (completedRedemption_exec (by rw [hfresh]; rfl)) ?_
  refine cuts_bind (exec_read _ s) ?_
  rw [hpinned]
  exact cuts_bind (resumeRedemption_exec_none hfresh) hredeem

/-- A redemption that was cut is resumed with what was kept, whatever has happened since. -/
theorem redeemInvitationViaDocument_resumes {record : ClientRedemptionCheckpoint}
    (hlink : startsWith link BootstrapInvitation.linkStart = false)
    (hpinned : s.pinnedServerKey = some key)
    (hrecord : s.redemptionCheckpoint L link = some record)
    (hnot : record.completed = false)
    (hcandidate : record.candidate = some candidate) (hreceipt : record.receipt = some receipt)
    (hfits : keptReceiptFits L record receipt = true)
    (havailable : record.tunnels.filter isAvailable = t :: others)
    (hkeys : ∀ t ∈ record.tunnels.filter isAvailable, KeyResolves L.device t) :
    ∃ s₁, (redeemInvitationViaDocument L J call link none).exec s =
        (.ok (activated receipt t), s₁.keep { record with completed := true } s₁.files) ∧
      Activated L candidate record.serverKey s s₁ := by
  obtain ⟨s₁, hactivate, hactivated, -⟩ := activateVerifiedCandidate_exec (L := L) (s := s)
    candidate record.serverKey receipt havailable hkeys
  have hcompleted : (completedRedemption L link).exec s = (.ok none, s) :=
    completedRedemption_exec (by rw [hrecord]; simp [hnot])
  have hresume : (resumeRedemption L link).exec s =
      (.ok (some (activated receipt t)), s₁.keep { record with completed := true } s₁.files) := by
    simp only [resumeRedemption, orFailure, exec_attempt, exec_bind, hcompleted,
      exec_read, hrecord, hcandidate, hreceipt, exec_require, hfits, if_true,
      activateCheckpoint, hactivate, AdminOpResult.isSuccess, exec_when,
      saveRedemptionCheckpoint, putEntry_exec, exec_pure]
    rfl
  refine ⟨s₁, ?_, hactivated⟩
  rw [redeemInvitationViaDocument, hlink]
  simp only [Bool.false_eq_true, if_false, orElse, exec_bind, hcompleted, exec_read, hpinned]
  change (orElse (resumeRedemption L link) _).exec s = _
  simp [orElse, hresume]

end Document

/-! ### An invitation of the first server -/

@[irreducible] def encryptedPayload1 : String :=
  "IeyR1h1c0_4uFKiBU8J1SauC-tEuogqU4-nYtkG8soqNhA4JLIMxS_K_n7hyz6OeQ56rdzyR3N2VOV-tUudhsySwBZWvw6AtUfNHfepiWL_brE58ELfACo4l-JGWMhstSAhVoV5nNlcvu0oAGuRH98yjyKVGwKbOwKVpdkzINwDFsMgRH4FDxmXJWUVBnoeFWT46bOM8Lhw_UUBx57-n19sSVztFXJ6dZ_848gYNSsLoeOX2b_vVdp0YC-NPUEjCxQyGChYMjjpfLIxrEyBX2JJ9ZLQP-Mvg5hV0gTuKLHxDGwwtkCBcbZbXUEuODz7py1n8yKs4m7CVmYnzPvISBIcg9BCVlf4Is6ZxDdDO67prOwBcwgpq39dC9gZs6gpHuzJ8GOi8g_fV9uIhpcpATbMDfYLP8xiGooK6Vxu0gnomjBbuWhe_HgdCSSq-eZR2-4DvWFS6HDLC9E_1Rvv1UjcFoEGSWaUx0t8ov5k4QvHiOQyq-upCExGKr03uk3bWENX6O05tjqa1k5Csu9jAQHYDNO-bbjEZM5qG5kBMKsiQMxiPg82PvI5MPrApLB_5iYt9_AuwV72OxRpxZzCKTrhGXhB4nWkv4QUQ3oUap8XBv2SNo0GK55CauqLynOfyhIbSemK1HaeocnnxWpoXuqc17_Xi6MwO2m_rvz8gZXbIXmg"

@[irreducible] def issuedStart : String :=
  "\x7b\"op_id\":\"inv-1\",\"status\":\"applied\",\"data\":\x7b\"profile_id\":\"user-1\",\"invitation_id\":\"inv-1\",\"expires_at\":1767226200,\"revision\":1,\"ephemeral_pub\":\"BEyG8HlaPQsPQnZg_la0K30bRo5vhPgqLG2qSUEZiZCaS9QomPMjBOPSpEUie6_ZUjZjTvUyAvRq7bEMts1az0U\",\"nonce\":\"B2_i1L65T5WOVTCu\",\"encrypted_payload\":\""

def issuedText : String :=
  issuedStart ++ encryptedPayload1 ++ "\"\x7d,\"timestamp\":1767225600\x7d"

def invitationPayload : String := Base64.encodeToString issuedText

def invitation1 : AdminEnvelope where
  subtype := AdminEnvelope.subtypeResponse
  profileId := "control-1"
  opId := "inv-1"
  exp := 1767226200
  sender := "server"
  nonce := "7d0b51c2-93e4-4f6a-8a17-c5e2906b3d48"
  payload := invitationPayload
  signature := "MEUCIQCTPLvdbhkbk3cFM4kImCu5q+bAoGK+e9Wq2dV8CNG5SgIgHSE5jgibZgH3h2XxyXCCRnP9dqRh4xE2FSXLTbqV8Ok="

def invitationBody : String := Base64.encodeToString invitation1.toJson

def invitationLink : String := ServerIssuedInvitation.linkStart ++ invitationBody

def issueResponse1 : IssueResponse where
  opId := "inv-1"
  status := "applied"
  data :=
    { profileId := "user-1"
      invitationId := "inv-1"
      expiresAt := 1767226200
      revision := 1
      ephemeralPub := "BEyG8HlaPQsPQnZg_la0K30bRo5vhPgqLG2qSUEZiZCaS9QomPMjBOPSpEUie6_ZUjZjTvUyAvRq7bEMts1az0U"
      nonce := "B2_i1L65T5WOVTCu"
      encryptedPayload := encryptedPayload1 }

/-- The text that is encrypted, and what it is read as. -/
@[irreducible] def plaintextJson1 : String :=
  "\x7b\"invitation_id\":\"inv-1\",\"profile_id\":\"user-1\",\"name\":\"Office\",\"url\":\"https://disk.yandex.ru/i/abc\",\"secret_key\":\"document-key-0001\",\"server_id\":\"vds-1\",\"revision\":1,\"issued_time\":1767225600,\"expires_at\":1767226200,\"recipient_pub_sha256\":\"181d85aaf967a9286ae28955bed78fb2dfd34fc1eb4b5d5d5fc739b0b28f5f6a\",\"device_id\":\"phone-1\",\"user_id\":\"user-1\",\"routes\":[\x7b\"route_id\":\"r-2\",\"server_id\":\"vds-1\",\"transport\":\"vyandex\",\"name\":\"Office\",\"url\":\"https://telemost.yandex.ru/j/1\",\"secret_key\":\"office-key\"\x7d]\x7d"

def plaintext1 : InvitationPlaintext where
  invitationId := "inv-1"
  profileId := "user-1"
  name := "Office"
  url := "https://disk.yandex.ru/i/abc"
  secretKey := "document-key-0001"
  serverId := "vds-1"
  revision := 1
  issuedTime := 1767225600
  expiresAt := 1767226200
  recipientPubSha256 := "181d85aaf967a9286ae28955bed78fb2dfd34fc1eb4b5d5d5fc739b0b28f5f6a"
  deviceId := "phone-1"
  userId := "user-1"
  routes := [officeRoute]

@[irreducible] def redemptionPayload : String :=
  "eyJpbnZpdGF0aW9uX2lkIjoiaW52LTEiLCJyZWNpcGllbnRfcHViIjoiTUZrd0V3WUhLb1pJemowQ0FRWUlLb1pJemowREFRY0RRZ0FFdVdiR1ZuUC9CNlBwUlZzbFI2emR3b2V0S0pNS1NjY2NhNVl4bGtNZTRQRUpCYXU0N29kSm1FTkltZE1LSmR2U3J1WlRadDRPRzlvVGo5Rkk5R05jS3c9PSIsInJldmlzaW9uIjoxfQ"

def redemption1 : AdminEnvelope where
  subtype := ServerIssuedInvitation.subtypeInvitationRedeem
  profileId := "user-1"
  opId := "2b9e4c70-6f15-4d83-a0c7-81d5f3e6b29a"
  exp := 1767225900
  sender := "181d85aaf967a9286ae28955bed78fb2dfd34fc1eb4b5d5d5fc739b0b28f5f6a"
  nonce := "e41a7c95-0d36-4b82-9f58-6ca3d20e17b4"
  payload := redemptionPayload
  signature := "MEYCIQC2w_034qzHXTx3viQOCJFxcRjzycsar4q_Lw5CDkdRUQIhAIdK4AaCScVUKin5AK0jFaNsOExM_e3zY5epr5JWEzV6"

@[irreducible] def receiptPayload : String :=
  "eyJvcF9pZCI6IjJiOWU0YzcwLTZmMTUtNGQ4My1hMGM3LTgxZDVmM2U2YjI5YSIsInN0YXR1cyI6InZlcmlmaWVkIiwiZGF0YSI6eyJpbnZpdGF0aW9uX2lkIjoiaW52LTEiLCJwcm9maWxlX2lkIjoidXNlci0xIiwicmV2aXNpb24iOjF9fQ"

def receipt1 : AdminEnvelope where
  subtype := AdminEnvelope.subtypeResponse
  profileId := "user-1"
  opId := "2b9e4c70-6f15-4d83-a0c7-81d5f3e6b29a"
  rev := 2
  exp := 1767225900
  sender := "server"
  nonce := "c83f06d1-5a27-4e9b-b7d4-190e62fa8c35"
  payload := receiptPayload
  signature := "MEUCIDFAghN/hT4eDUYxAd4QnOfDQPlXynSDJKn5PynUTslVAiEA+AlsE4M3Oz0GBYk7fQ8ybzjWvLr+yFdf5NzTrGC4Hqs="

def receipt2 : AdminEnvelope :=
  { receipt1 with
    exp := 1767226200
    nonce := "91b6e0f4-3c8d-4a75-9e12-06d7f5a8c3b1"
    signature := "MEYCIQC1Egzgkq0MiGw7VHSloBmTwa2bEky5oBdwLY0E+4M9dwIhALd3C2IZhRnuxMIET352umyhLIn/b4kM9LuyOLVUPCYq" }

def receipt3 : AdminEnvelope :=
  { receipt1 with
    exp := 1798761600
    nonce := "d27a4c19-8e50-4fb3-b6c8-73e10f9d5a26"
    signature := "MEUCIBw0MuZk9V+hWjsZOrdeN/IzTxD/rHpD7J2KpfU8OKlsAiEA6MDrjdjpIYNsFDZAGZaom8T/Nc+iPMDkBA+Zwq8gSGY=" }

def withdrawnReply : AdminEnvelope :=
  { updatedReply with
    nonce := "5e90d3b7-12fa-4c68-a9e1-d7046b8fc352"
    payload := "eyJvcF9pZCI6Im9wLTUiLCJzdGF0dXMiOiJhcHBsaWVkIiwiZGF0YSI6eyJzdGF0dXMiOiJ1cGRhdGVkIiwiZGV2aWNlX2lkIjoicGhvbmUtMSIsInJldmlzaW9uIjoyLCJyb3V0ZXMiOltdfX0"
    signature := "MEUCIFZcEmdtGUMNnh92lJDXqY6Ft8kzB3J2u2gqWxZsq3eMAiEAw++cAyg3BN/phzMoFFml0ExwOlYEyUDhzpQP81nW/M0=" }

def withdrawnBody : Json := .object
  [("op_id", .string "op-5"), ("status", .string "applied"),
    ("data", .object
      [("status", .string "updated"), ("device_id", .string "phone-1"),
        ("revision", .literal "2"), ("routes", .array [])])]

def redeemRequest1 : RedeemRequest := ⟨"inv-1", Admin.devicePublicKey, 1⟩

def redeemResponse1 : RedeemResponse := ⟨redemption1.opId, "verified", "inv-1", "user-1", 1⟩

def candidate1 : VerifiedInvitationCandidate := ServerIssuedInvitation.candidateOf plaintext1

def invitedRecording : Recording :=
  { phoneRecording with
    signed := [(serverKey1, invitation1), (serverKey1, receipt1), (serverKey1, withdrawnReply),
      (serverKey1, receipt2), (serverKey1, receipt3)]
    payloads := [(withdrawnReply.payload, withdrawnBody)] }

def recorded {α : Type} (answers : List (String × α)) (text : String) : Except Throwable α :=
  match answers.lookup text with
  | some answer => .ok answer
  | none => .error (.platform none)

def recordedText {α : Type} [BEq α] (answers : List (α × String)) (value : α) : String :=
  (answers.lookup value).getD ""

theorem eq_of_recordedText {α : Type} [BEq α] [LawfulBEq α] {encode : α → String} {value : α}
    (text : String) {answers : List (α × String)}
    (h : encode = recordedText ((value, text) :: answers)) : encode value = text := by
  rw [h, recordedText, List.lookup_cons_self, Option.getD_some]

theorem eq_ok_of_recorded {α : Type} {decode : String → Except Throwable α} (text : String)
    {answer : α} {answers : List (String × α)} (h : decode = recorded ((text, answer) :: answers)) :
    decode text = .ok answer := by
  rw [h, recorded, List.lookup_cons_self]

/-- The phone, where the digests of the link and of the context are looked up. -/
def invitedSync : SyncLibraries :=
  { phoneSync 0 with
    platform := invitedRecording.platform
    links :=
      { phoneLibraries with
        javaUri := fun text =>
          if text = "https://disk.yandex.ru/i/abc" then some (httpsUri "disk.yandex.ru" "/i/abc")
          else if text = "https://telemost.yandex.ru/j/1" then
            some (httpsUri "telemost.yandex.ru" "/j/1")
          else none }
    signCanonical :=
      recordedText [(redemption1.canonicalSigningString, redemption1.signature)]
    invitationHash := fun text =>
      if text = invitationLink then
        "3928cfca094a2672cbc6504e0e98a4e5973031360eb076a2a5d7d80efbd4df17"
      else "39bf02542fe42087ea0044f17fc039fee3584c9379e88237005674c5a9684984"
    invitationHash_hex := fun text => by split <;> decide }

def invitedLibraries : InvitationLibraries where
  decodedSize := recorded [(invitationBody, 1626)]
  decodeEnvelope := recorded [(invitationBody, invitation1)]
  decodeIssueResponse := recorded [(invitationPayload, issueResponse1)]
  decrypt _ _ := recorded [(encryptedPayload1, plaintextJson1)]
  decodePlaintext := recorded [(plaintextJson1, plaintext1)]
  decodeRedeemRequest := recorded [(redemptionPayload, redeemRequest1)]
  decodeRedeemResponse := recorded [(receiptPayload, redeemResponse1)]
  encodeRedeemRequest := recordedText [(redeemRequest1, redemptionPayload)]
  decodeBootstrap := recorded []
  encodeEnvelope := recordedText [(invitation1, invitationBody)]

def invitedCall : RedemptionCall where
  opId := redemption1.opId
  nonce := redemption1.nonce
  reply _ _ _ _ _ := .ok receipt1
  executeAdminEnvelope _ _ := .failure "SSH" none
  answeredAt := 1767225600
  isReachable _ _ := false
  moments := (answered receipt1).moments
  serverNodes := []
  getPinnedServerPublicKey _ := none

def invitedPhone : SyncState where
  storage := Storage.empty
  store := { stored := [DirectDpiProfile.create] }
  files := ⟨fun _ => none⟩
  pinnedServerKey := some serverKey1
  currentTimeMillis := 1767225600000

theorem invitationBody_chars : ∀ c ∈ invitationBody.toList, isWhitespace c = false ∧ c ≠ '&' := by
  unfold invitationBody
  rw [Base64.encodeToString, String.toList_ofList]
  exact Base64.forall_mem_encode .url (by decide) _

theorem invitationBody_not_blank : isBlank invitationBody = false := by
  obtain ⟨c, hc⟩ := List.exists_mem_of_ne_nil _
    (Base64.toList_encodeToString_ne_nil invitation1.length_toJson_pos)
  rw [isBlank, List.all_eq_false]
  exact ⟨c, hc, by simp [(invitationBody_chars c hc).1]⟩

theorem invitationBody_no_parameter : contains invitationBody "&" = false := by
  have hnot : '&' ∉ invitationBody.toList := fun hmem => (invitationBody_chars _ hmem).2 rfl
  refine (contains_singleton invitationBody '&').trans ?_
  simpa using hnot

set_option maxRecDepth 4000 in
theorem length_issuedText : issuedText.length ≤ 1000 := by
  have hstart : issuedStart.length = 281 := by
    unfold issuedStart
    exact String.length_ofList.trans rfl
  have hpayload : encryptedPayload1.length = 687 := by
    unfold encryptedPayload1
    exact String.length_ofList.trans rfl
  unfold issuedText
  simp only [String.length_append, hstart, hpayload]
  decide

theorem length_invitationBody : length invitationBody < maxEnvelopeBytes * 2 := by
  have hpayload : invitation1.payload.length ≤ 5334 :=
    Base64.length_encodeToString_le length_issuedText (by decide)
  have hframe : invitation1.frameLength ≤ 400 := by decide
  have hbody : invitationBody.toList.length ≤ 30600 := by
    rw [String.length_toList]
    exact Base64.length_encodeToString_le (AdminEnvelope.length_toJson_le hframe hpayload)
      (by decide)
  have hle := Nat.le_trans (length_le invitationBody) (Nat.mul_le_mul_left 2 hbody)
  exact Nat.lt_of_le_of_lt hle (by decide)

theorem bodyOf_invitationLink : bodyOf invitationLink = invitationBody := by
  rw [bodyOf, invitationLink, String.toList_append, List.drop_left, String.ofList_toList]

@[simp] theorem invitedSync_platform : invitedSync.platform = invitedRecording.platform := rfl

theorem invited_signatures : ∀ signed ∈ invitedRecording.signed,
    isBlank signed.2.signature = false ∧
      (Admin.decodeBase64 signed.2.signature).isSome = true := by
  simp only [invitedRecording, List.forall_mem_cons]
  refine ⟨⟨(isBlank_ofList _).trans rfl, ?_⟩, ⟨(isBlank_ofList _).trans rfl, ?_⟩,
    ⟨(isBlank_ofList _).trans rfl, ?_⟩, ⟨(isBlank_ofList _).trans rfl, ?_⟩,
    ⟨(isBlank_ofList _).trans rfl, ?_⟩, List.forall_mem_nil _⟩
  all_goals exact (congrArg Option.isSome (Admin.decodeBase64_ofList _)).trans rfl

theorem invited_verified {envelope : AdminEnvelope}
    (hsigned : (serverKey1, envelope) ∈ invitedRecording.signed) :
    invitedSync.platform.verifyServerResponse envelope serverKey1 (some serverKey1) = true := by
  obtain ⟨hblank, hbytes⟩ := invited_signatures _ hsigned
  rw [invitedSync_platform]
  refine Recording.verifyServerResponse_of_mem ?_ Admin.serverKey1_point hblank hbytes hsigned
  exact (isBlank_ofList _).trans rfl

theorem receipt1_verified :
    invitedSync.platform.verifyServerResponse receipt1 serverKey1 (some serverKey1) = true :=
  invited_verified (List.mem_cons_of_mem _ List.mem_cons_self)

theorem invitationLink_carries : Carries invitedLibraries invitationLink invitation1 where
  start := startsWithIgnoreCase_append _ _
  body := by
    rw [bodyOf_invitationLink, invitationBody_not_blank, decide_eq_true length_invitationBody,
      invitationBody_no_parameter]
    rfl
  size := by
    rw [bodyOf_invitationLink]
    exact ⟨1626, eq_ok_of_recorded invitationBody rfl, by decide⟩
  decoded := by
    rw [bodyOf_invitationLink]
    exact eq_ok_of_recorded invitationBody rfl
  type := by decide

theorem openLink_invitation1 {now : Int} (hfrom : 1767225600 ≤ now) (hlive : now < 1767226200) :
    openLink invitedSync invitedLibraries invitationLink serverKey1 now =
      .ok invitation1 := by
  refine openLink_eq_ok_iff.2 ⟨invitationLink_carries, ⟨hlive, ?_⟩,
    invited_verified List.mem_cons_self⟩
  change (1767226200 : Int) ≤ now + 15 * 60 + 60
  omega

theorem invitation1_holds : Holds invitedSync invitedLibraries invitation1 plaintext1 where
  decoded := by
    have hhash : equalsIgnoreCase plaintext1.recipientPubSha256
        invitedSync.recipient.publicKeyHashHex = true := equalsIgnoreCase_self _
    have happlied : (issueResponse1.status == "applied" && ! isBlank issueResponse1.opId &&
        issueResponse1.opId == issueResponse1.data.invitationId &&
        ! isBlank issueResponse1.data.profileId && ! isBlank invitation1.profileId) = true := by
      decide
    refine ⟨issueResponse1, eq_ok_of_recorded invitationPayload rfl, happlied,
      ⟨plaintextJson1, eq_ok_of_recorded encryptedPayload1 rfl,
        eq_ok_of_recorded plaintextJson1 rfl⟩, ?_⟩
    rw [hhash]
    decide
  complete := by decide
  url := ⟨httpsUri "disk.yandex.ru" "/i/abc", rfl, by decide⟩

theorem checkRoute_officeRoute : checkRoute invitedSync officeRoute = .ok () := by
  have hname : isBlank officeRoute.name = false := by decide
  have hurl : isBlank officeRoute.url = false := by decide
  have htransport : transportFrom (RouteCandidate.ifBlank officeRoute.transport "vyandex") =
      .ok .vyandex := by decide
  have huri : parseUri invitedSync officeRoute.url =
      .ok (httpsUri "telemost.yandex.ru" "/j/1") := rfl
  have hhttps : isHttps (httpsUri "telemost.yandex.ru" "/j/1") = true := by decide
  have hgroup : officeRoute.channelGroup = none := rfl
  have hpair : officeRoute.pairChannel = none := rfl
  have hkind : officeRoute.transport ≠ "channel-group" := by decide
  simp [checkRoute, hname, hurl, htransport, huri, hhttps, hgroup, hpair,
    hkind, require]

theorem verifyCandidate_invitation1 {now : Int} (hfrom : 1767225600 ≤ now)
    (hlive : now < 1767226200) :
    verifyCandidate invitedSync invitedLibraries invitationLink serverKey1 now =
      .ok candidate1 := by
  have hissued : plaintext1.issuedTime ≤ now + 60 := by
    change (1767225600 : Int) ≤ now + 60
    omega
  refine verifyCandidate_eq_ok_iff.2
    ⟨invitation1, plaintext1, openLink_invitation1 hfrom hlive,
      openPayload_eq_ok_iff.2 ⟨invitation1_holds, hissued, hlive, by decide, by decide⟩, ?_, rfl⟩
  change checkRoutes invitedSync [officeRoute] = .ok ()
  simp [checkRoutes, checkRoute_officeRoute]

theorem createRedemption_invitation1 :
    createRedemption invitedSync invitedLibraries invitedCall.opId invitedCall.nonce candidate1
      1767225600 = .ok redemption1 := by
  have hpayload : invitedLibraries.encodeRedeemRequest redeemRequest1 = redemption1.payload :=
    eq_of_recordedText redemptionPayload rfl
  have hsigned : invitedSync.signCanonical redemption1.canonicalSigningString =
      redemption1.signature := eq_of_recordedText redemption1.signature rfl
  refine createRedemption_eq_ok_iff.2 ⟨by decide, ?_⟩
  have hunsigned : ({ redemption1 with signature := "" } : AdminEnvelope) =
      redemptionEnvelope invitedSync invitedLibraries invitedCall.opId invitedCall.nonce candidate1
        1767225600 := by
    have hrequest : (⟨candidate1.invitationId, invitedSync.recipient.publicKeyBase64,
        candidate1.revision⟩ : RedeemRequest) = redeemRequest1 := rfl
    rw [redemptionEnvelope, hrequest, hpayload]
    rfl
  rw [redemptionOf, ← hunsigned]
  exact congrArg (fun signature => { redemption1 with signature := signature }) hsigned.symm

theorem invitedSync_recipient : isBlank invitedSync.recipient.publicKeyHashHex = false := by
  exact (isBlank_ofList _).trans rfl

theorem receipt1_responds :
    Responds invitedSync serverKey1 candidate1 redemption1 receipt1 where
  type := ⟨rfl, rfl, rfl, rfl⟩
  profileId := rfl
  rev := by decide
  verified := receipt1_verified

theorem receipt1_fits :
    receiptFits invitedSync invitedLibraries redemption1 receipt1 candidate1 = .ok true := by
  have hrequest : invitedLibraries.decodeRedeemRequest redemption1.payload =
      .ok redeemRequest1 := eq_ok_of_recorded redemptionPayload rfl
  have hresponse : invitedLibraries.decodeRedeemResponse receipt1.payload =
      .ok redeemResponse1 := eq_ok_of_recorded receiptPayload rfl
  have hown : (redeemRequest1.recipientPub == invitedSync.recipient.publicKeyBase64) = true :=
    beq_self_eq_true _
  have hop : (redeemResponse1.opId == redemption1.opId) = true := beq_self_eq_true _
  simp only [receiptFits, hrequest, hresponse, hown, hop, ok_bind, pure_eq_ok]
  decide

theorem receipt1_accepted :
    verifyRedemptionReceipt invitedSync invitedLibraries redemption1 receipt1 candidate1 serverKey1
      invitedCall.answeredAt = true :=
  verifyRedemptionReceipt_iff.2
    ⟨⟨rfl, rfl, rfl, rfl, rfl, rfl⟩, receipt1_responds, receipt1_fits, by decide, by decide,
    by decide⟩

theorem candidate1_made :
    MakesTunnels invitedSync invitedCall candidate1 [office] invitedPhone.files
      (officeFiles 1767225600000123) := by
  have hroutes : candidateRoutes candidate1 = [officeRoute] := by decide
  have hfiles : invitedPhone.files = ⟨fun _ => none⟩ := rfl
  have htunnel := officeRoute_toTunnel (L := invitedSync) rfl (invitedCall.moments 0)
    candidate1.name
  rw [MakesTunnels, hroutes]
  simp only [List.zipIdx_cons, List.zipIdx_nil, Prog.mapEach, exec_bind, exec_pure]
  rw [hfiles, htunnel]
  rfl

theorem invitationLink_not_bootstrap :
    startsWith invitationLink BootstrapInvitation.linkStart = false := by
  rw [startsWith, invitationLink, String.toList_append]
  decide

def checkpoint1 : ClientRedemptionCheckpoint :=
  receivedCheckpoint invitedSync invitationLink serverKey1 redemption1 receipt1 candidate1 [office]

def keptPhone : SyncState :=
  ((invitedPhone.keep (sentCheckpoint invitedSync invitationLink serverKey1 redemption1)
    invitedPhone.files).sent redemption1).keep checkpoint1 (officeFiles 1767225600000123)

theorem keptPhone_checkpoint :
    keptPhone.redemptionCheckpoint invitedSync invitationLink = some checkpoint1 :=
  keep_checkpoint rfl

/-- The phone redeems the invitation, and dies when its last write is due. -/
theorem invitedPhone_cuts :
    ∃ s', (redeemInvitationViaDocument invitedSync invitedLibraries invitedCall invitationLink
        none).Cuts invitedPhone s' ∧ Activated invitedSync candidate1 serverKey1 keptPhone s' := by
  have havailable : [office].filter isAvailable = [office] := by simp
  exact redeemInvitationViaDocument_cuts invitationLink_not_bootstrap rfl rfl
    (verifyCandidate_invitation1 (by decide) (by decide)) createRedemption_invitation1 rfl
    receipt1_accepted candidate1_made havailable fun t _ => phone_keyResolves t

theorem withdrawnReply_decoded :
    invitedSync.platform.decodePayload withdrawnReply.payload = .ok withdrawnBody := by
  have hlookup : invitedRecording.payloads.lookup withdrawnReply.payload = some withdrawnBody := by
    rw [invitedRecording, List.lookup_cons_self]
  rw [invitedSync_platform]
  exact Recording.decodePayload_of_lookup hlookup

theorem withdrawnReply_verdict {rev : Int} (now : Int) (hrev : rev ≤ 2) :
    replyVerdict invitedSync "phone-1" "op-5" rev now withdrawnReply.payload =
      .ok (.updated 2 now []) := by
  have hnumber : invitedSync.toLongOrNull "2" = some 2 := by
    change decimal "2" = some 2
    decide
  have hroutes : invitedSync.decodeRoutes (.array []) = .ok [] := rfl
  have hnot : ¬ (2 : Int) < rev := by omega
  rw [replyVerdict, withdrawnReply_decoded]
  simp [withdrawnBody, ofJson, Json.jsonObject, JsonObject.contentOf, JsonObject.get,
    List.lookup_cons, Json.content, hroutes, hnumber, hnot]

theorem withdrawnReply_read {s : SyncState} {c : String} {e : Enrolment} (h : s.Holds c e)
    (hdevice : e.deviceId = "phone-1") (hprofile : e.profileId = "user-1")
    (hkey : e.serverKey = serverKey1) (hrev : s.getLong c .revision 1 ≤ 2) :
    syncVerdict invitedSync (answered withdrawnReply) true c s =
      .ok (.updated 2 s.currentTimeMillis []) := by
  have hverify : invitedSync.platform.verifyServerResponse withdrawnReply e.serverKey
      (some e.serverKey) = true := by
    rw [hkey]
    exact invited_verified (List.mem_of_getElem? (i := 2) rfl)
  rw [syncVerdict_of_reply h (Or.inl rfl) (fun _ => rfl) hverify rfl hprofile.symm, hdevice]
  exact withdrawnReply_verdict _ hrev

end LibreRoute.Sync
