import LibreRoute.Admin.Receipts

/-!
The removal of local rights and the starts that follow it.

A removed server is kept in the revoked set, and a start does not take it out
again. Two things are replayed past the set: the receipt of an owner recovery,
which is meant to restore rights, and the checkpoint of a delegation that
names the server itself.
-/

namespace LibreRoute.Admin

open LibreRoute.Lib AdminState ServerInstallOperation AdminDelegationLink World

variable {P : Platform} {serverId : String} {operation : ServerInstallOperation}
  {grant : AdminGrant} {link fingerprint : String} {pending envelope : AdminEnvelope}
  {response : JsonObject} {delegated : DelegatedAdminGrant}

def AdminDelegationLink.Delegates (P : Platform) (link serverId : String) : Prop :=
  ∃ delegated, parseGrant P link = some delegated ∧ delegated.serverId = serverId

/-- The operation is a confirmed owner recovery of the server: its receipt is accepted
although the server is revoked. -/
def ServerInstallOperation.Revives (operation : ServerInstallOperation) (serverId : String) :
    Prop :=
  operation.stage = .serverConfirmed ∧ operation.serverId = serverId ∧
    operation.kind = .ownerRecovery ∧ operation.ownerRecovery = true

def AdminState.storedCheckpoint (s : AdminState P) : Option (AdminEnvelope × String) :=
  (s.storage.get (.fixed .delegationCheckpoint)).bind Stored.asCheckpoint

/-- Nothing is left to be replayed that restores rights on the server. -/
structure AdminState.Unreplayed (s : AdminState P) (serverId : String) : Prop where
  delegation : ∀ request link, s.storedCheckpoint = some (request, link) →
    ¬ AdminDelegationLink.Delegates P link serverId
  operations : s.EveryOperation fun operation => ¬ operation.Revives serverId

/-! ### The invariant of a removal -/

def ServerInstallOperation.Spares (operation : ServerInstallOperation) (serverId : String) : Prop :=
  operation.Receipted ∧ ¬ operation.Revives serverId

/-- Nothing that is replayed takes the server out of the revoked set. -/
structure AdminState.Spared (serverId : String) (s : AdminState P) : Prop where
  delegation : ∀ request link, s.storedCheckpoint = some (request, link) →
    ¬ AdminDelegationLink.Delegates P link serverId
  operations : s.EveryOperation (Spares · serverId)

/-- The server is in the revoked set, and stays there when the process starts again. -/
structure AdminState.Removed (serverId : String) (s : AdminState P) : Prop
    extends s.Spared serverId where
  revoked : serverId ∈ s.revokedServerIds

theorem spares_of_stage (h : operation.stage ≠ .serverConfirmed) : operation.Spares serverId :=
  ⟨receipted_of_stage h, fun hr => h hr.1⟩

theorem ServerInstallOperation.Spares.resumed (h : operation.Spares serverId) :
    operation.resumed.Spares serverId := by
  unfold ServerInstallOperation.resumed
  split
  · exact spares_of_stage (by simp)
  · exact h

theorem AdminState.getRole_of_revoked {s : AdminState P} (h : serverId ∈ s.revokedServerIds) :
    (s.getRole serverId).1 = .none := by
  rw [getRole_eq_none]
  refine Option.eq_none_iff_forall_not_mem.2 fun grant hgrant => ?_
  obtain ⟨envelope, pin, hcandidate, -⟩ := verifiedGrant_eq_some.1 hgrant
  exact (candidate_eq_some.1 hcandidate).2.1 h

section Put

/-! A new value of one entry, if it is one of those that are replayed, has to be harmless. -/

variable {s : AdminState P} {key : FixedKey} {value : Stored}
  (hdelegation : key = .delegationCheckpoint → ∀ request link,
    value.asCheckpoint = some (request, link) → ¬ Delegates P link serverId)
  (hoperations : key = .installOperations →
    ∀ operation ∈ value.asInstallOperations.getD [], operation.Spares serverId)

include hdelegation hoperations

theorem AdminState.Spared.put (h : s.Spared serverId) :
    Spared serverId { s with storage := s.storage.put (.fixed key) value } := by
  refine ⟨?_, h.operations.held, ?_⟩
  · by_cases hk : .delegationCheckpoint = key
    · subst hk
      simpa [storedCheckpoint] using hdelegation rfl
    · rw [storedCheckpoint, Storage.get_put_fixed_of_ne _ _ hk]
      exact h.delegation
  · by_cases hk : .installOperations = key
    · subst hk
      simpa [storedOperations] using hoperations rfl
    · rw [storedOperations, Storage.get_put_fixed_of_ne _ _ hk]
      exact h.operations.stored

theorem AdminState.Removed.put (h : s.Removed serverId)
    (hrevoked : key = .revokedServerIds → serverId ∈ value.asServerIds.getD []) :
    Removed serverId { s with storage := s.storage.put (.fixed key) value } := by
  refine ⟨h.toSpared.put hdelegation hoperations, ?_⟩
  by_cases hk : .revokedServerIds = key
  · subst hk
    simpa [revokedServerIds] using hrevoked rfl
  · rw [revokedServerIds, Storage.get_put_fixed_of_ne _ _ hk]
    exact h.revoked

end Put

namespace AdminState.Removed

theorem of_entries {s s' : AdminState P} (h : s.Removed serverId)
    (hget : ∀ entry ∈ replayKeys, s'.storage.get entry = s.storage.get entry)
    (ho : s'.installationOperations = s.installationOperations) : s'.Removed serverId := by
  refine ⟨⟨?_, ho ▸ h.operations.held, ?_⟩, ?_⟩
  · rw [storedCheckpoint, hget _ (by simp [replayKeys])]
    exact h.delegation
  · rw [storedOperations, hget _ (by simp [replayKeys])]
    exact h.operations.stored
  · rw [revokedServerIds, hget _ (by simp [replayKeys])]
    exact h.revoked

instance : OfReplays (Removed serverId : AdminState P → Prop) where
  congr hs hst _ ho := hs.of_entries (fun _ _ => by rw [hst]) ho
  overlooks hkey := ⟨fun _ _ hs =>
    hs.of_entries (fun entry hentry => Function.update_of_ne (hkey entry hentry) _ _) rfl⟩

theorem remove_checkpoint {s : AdminState P} (h : s.Removed serverId) :
    Removed serverId { s with storage := s.storage.remove (.fixed .delegationCheckpoint) } := by
  refine ⟨⟨by simp [storedCheckpoint], h.operations.held, ?_⟩, ?_⟩
  · rw [storedOperations, Storage.get_remove_fixed_of_ne _ (by simp)]
    exact h.operations.stored
  · rw [revokedServerIds, Storage.get_remove_fixed_of_ne _ (by simp)]
    exact h.revoked

theorem with_operations {s : AdminState P} (h : s.Removed serverId)
    {operations : List ServerInstallOperation}
    (hoperations : ∀ operation ∈ operations, operation.Spares serverId) :
    Removed serverId { s with installationOperations := operations } :=
  ⟨⟨h.delegation, hoperations, h.operations.stored⟩, h.revoked⟩

end AdminState.Removed

instance : Keeping (Removed serverId) (persistInstallationOperations : AdminM P Unit) := by
  refine ⟨keeps_read_bind fun s hs => wp_write (hs.put (by simp) ?_ (by simp)) hs⟩
  intro _ operation hop
  simp only [Stored.asInstallOperations, Option.getD_some, List.mem_map] at hop
  obtain ⟨original, horiginal, rfl⟩ := hop
  exact hs.operations.held original horiginal

theorem saveServerInstallation_removed (h : operation.Spares serverId) :
    Keeping (Removed serverId) (saveServerInstallation operation : AdminM P Unit) := by
  refine ⟨keeps_bind (keeps_modify fun s hs => hs.with_operations fun other hother => ?_)
    fun _ => Keeping.keeps⟩
  rcases mem_putOperation hother with rfl | hmem
  · exact h
  · exact hs.operations.held other hmem

instance : OfConfirmed (Removed serverId : AdminState P → Prop) where
  save h := saveServerInstallation_removed (spares_of_stage h)

instance : Keeping (Removed serverId) (loadInstallationOperations : AdminM P Unit) := by
  refine ⟨keeps_read_bind fun s hs => wp_bind (wp_modify ?_)⟩
  refine keeps_when (fun _ => Keeping.keeps) _ (hs.with_operations fun operation hop => ?_)
  obtain ⟨original, horiginal, rfl⟩ := List.mem_map.1 hop
  exact (hs.operations.stored original horiginal).resumed

theorem applyAdminGrant_removed (h : ∀ grant, P.decodeGrant envelope.payload = .ok grant →
      grant.serverId.getD "legacy" ≠ serverId) (serverPublicKeyBase64 : String) :
    Keeping (Removed serverId) (applyAdminGrant (P := P) envelope serverPublicKeyBase64) := by
  refine applyAdminGrant_keeping fun grant hdecoded => ?_
  have hrevoked : Keeping (Removed serverId) (putRevokedServerIds (P := P) fun ids =>
      ids.filter (· != grant.serverId.getD "legacy")) := by
    refine ⟨keeps_read_bind fun s hs => wp_write (hs.put (by simp) (by simp) fun _ => ?_) hs⟩
    exact List.mem_filter.2
      ⟨List.mem_eraseDups.2 hs.revoked, by simpa using (h grant hdecoded).symm⟩
  exact ⟨inferInstance, inferInstance⟩

theorem Platform.receiptGrant_ok {join : AdminEnvelope}
    (h : P.receiptGrant operation response = .ok (join, envelope, grant)) :
    P.decodeGrant envelope.payload = .ok grant ∧ grant.serverId = some operation.serverId := by
  unfold Platform.receiptGrant at h
  split at h
  · simp at h
  · simp only [bind_eq_ok] at h
    obtain ⟨raw, -, h⟩ := h
    split at h
    · simp at h
    · simp only [bind_eq_ok, require_eq_ok, Bool.and_eq_true, beq_iff_eq] at h
      obtain ⟨decoded, hdecoded, _, hsame, h⟩ := h
      obtain ⟨-, rfl, rfl⟩ := Prod.mk.injEq _ _ _ _ ▸ Except.ok.inj h
      exact ⟨hdecoded, hsame.1.1.1.1⟩

theorem AdminState.checkCommittedReceipt_ok {s : AdminState P} {receipt : CommittedReceipt}
    (h : s.checkCommittedReceipt operation response = .ok receipt) :
    (P.decodeGrant receipt.envelope.payload = .ok receipt.grant ∧
      receipt.grant.serverId = some operation.serverId) ∧
    (operation.serverId ∈ s.revokedServerIds →
      operation.kind = .ownerRecovery ∧ operation.ownerRecovery = true) := by
  simp only [checkCommittedReceipt, bind_eq_ok] at h
  obtain ⟨_, -, ⟨join, envelope, grant⟩, hgrant, serverKey, -, h⟩ := h
  split at h
  · simp at h
  · simp only [bind_eq_ok, require_eq_ok] at h
    obtain ⟨_, -, _, -, document, -, _, hrevoked, h⟩ := h
    obtain rfl := Except.ok.inj h
    refine ⟨Platform.receiptGrant_ok hgrant, fun hmem => ?_⟩
    simpa [hmem] using hrevoked

/-- A committed receipt is refused if it is of the removed server, and otherwise leaves
that server removed. -/
theorem reconcileCommitted_removed (hspares : operation.Spares serverId)
    (hstage : operation.stage = .serverConfirmed)
    (hstatus : receiptStatus response = .ok "committed") (authenticatedNow : Bool) :
    Keeping (Removed serverId)
      (reconcileCommitted (P := P) operation response authenticatedNow) := by
  refine reconcileCommitted_keeping (fun {s receipt} hs hreceipt => ?_) _
  obtain ⟨⟨hdecoded, hserver⟩, hrecovery⟩ := checkCommittedReceipt_ok hreceipt
  have hne : operation.serverId ≠ serverId := by
    rintro rfl
    exact hspares.2 ⟨hstage, rfl, hrecovery hs.revoked⟩
  refine ⟨fun millis => saveServerInstallation_removed
    ⟨fun _ => ⟨response, rfl, hstatus⟩, fun hr => hne hr.2.1⟩, applyAdminGrant_removed ?_⟩
  intro grant hgrant
  obtain rfl := Except.ok.inj (hdecoded.symm.trans hgrant)
  simpa [hserver] using hne

instance {backend : ServerInstallationBackend} :
    Keeping (Removed serverId) (replayReceipts (P := P) backend) := by
  refine .read_bind fun s hs => ⟨keeps_forEach fun operation hop => ?_⟩
  obtain ⟨hmem, hstage⟩ := List.mem_filter.1 hop
  have hstage : operation.stage = .serverConfirmed := by
    simp only [Bool.and_eq_true, beq_iff_eq] at hstage
    exact hstage.1
  have hspares := hs.operations.held operation hmem
  obtain ⟨receipt, hreceipt, hstatus⟩ := hspares.1 hstage
  have hcommitted := reconcileCommitted_removed (P := P) hspares hstage hstatus false
  have hreconcile : Keeping (Removed serverId)
      (reconcileInstallationReceipt (P := P) backend operation receipt false) := by
    refine .ofExcept_bind fun status hs' => ?_
    obtain rfl := Except.ok.inj (hstatus.symm.trans hs')
    exact inferInstanceAs (Keeping _ (Prog.ofExcept _ >>= fun _ => reconcileCommitted ..))
  rw [replayReceipt, hreceipt]
  exact Keeping.keeps

instance : Keeping (Removed serverId) (removeString (P := P) (.fixed .delegationCheckpoint)) :=
  ⟨fun _ hs => wp_write hs.remove_checkpoint hs⟩

theorem importAdminGrantLink_removed (h : ¬ Delegates P link serverId) (fingerprint : String) :
    Keeping (Removed serverId) (importAdminGrantLink (P := P) link fingerprint) := by
  refine importAdminGrantLink_keeping fun {s delegated pending grant} _ hchecked =>
    ⟨⟨fun s hs => wp_write (hs.put (fun _ request other hother => ?_) (by simp) (by simp)) hs⟩,
      applyAdminGrant_removed fun other hgrant => ?_⟩
  · simp only [Stored.asCheckpoint, Option.some.injEq, Prod.mk.injEq] at hother
    exact hother.2 ▸ h
  · obtain rfl := Except.ok.inj (hchecked.decoded.symm.trans hgrant)
    rw [hchecked.server]
    exact fun hsame => h ⟨delegated, hchecked.parsed, hsame⟩

/-! ### Removal and restart -/

theorem loadState_removed (backend : ServerInstallationBackend) :
    (loadState backend : AdminM P Unit).Keeps (Removed serverId) := by
  have hdelegation := replayDelegation_keeping (P := P) (I := Removed serverId)
    fun {s request link} hs hcheckpoint =>
      importAdminGrantLink_removed (hs.delegation request link hcheckpoint) ""
  exact loadState_keeping.keeps

-- the size of an answer doubles with every line of a program
set_option synthInstance.maxSize 100000 in
theorem removeLocalAdminGrant_removes {s s' : AdminState P} {fates fates' : List (Fate Throwable)}
    (hreceipted : s.AllReceipted) (hunreplayed : s.Unreplayed serverId)
    (h : (removeLocalAdminGrant serverId).run s fates = (.ok (), s', fates')) :
    s'.Removed serverId := by
  have hspared : s.Spared serverId :=
    ⟨hunreplayed.delegation, ⟨fun operation hop =>
        ⟨hreceipted.held operation hop, hunreplayed.operations.held operation hop⟩,
      fun operation hop =>
        ⟨hreceipted.stored operation hop, hunreplayed.operations.stored operation hop⟩⟩⟩
  refine wp_run_ok (Q := fun _ => Removed serverId) (E := fun _ => True) ?_ h
  refine wp_bind (wp_bind (wp_read (wp_write ?_ trivial)))
  refine wp_mono (Keeping.keeps _ ⟨hspared.put (by simp) (by simp), ?_⟩)
    (fun _ _ hr => hr) fun _ _ => trivial
  simp [revokedServerIds, Stored.asServerIds]

/-- A removal of the server's rights that returns is not undone by any number of starts.
The removal and each start may meet failing writes. -/
def World.RemovalLasts (w : World P) (serverId : String) : Prop :=
  ∀ (fates : List (Fate Throwable)) (restarts : List Restart),
    ((removeLocalAdminGrant serverId).run w.state fates).1 = .ok () →
      (((w.call (.step (.removeLocalAdminGrant serverId)) fates).restarts restarts).state.getRole
        serverId).1 = .none

/-- In every run, wherever its calls and starts were cut short, a removal lasts if nothing
is left to be replayed that restores the rights. -/
theorem removal_survives_restart (events : List Event) (millis : Int) (serverId : String)
    (hrunning : ((World.new millis).run events : World P).running = true)
    (hunreplayed : ((World.new millis).run events : World P).state.Unreplayed serverId) :
    ((World.new millis).run events : World P).RemovalLasts serverId := by
  intro fates restarts hremoved
  rcases hrun : (removeLocalAdminGrant serverId).run
    ((new millis).run events : World P).state fates with ⟨_, s', fates'⟩
  obtain rfl : _ = Outcome.ok () := by simpa [hrun] using hremoved
  have hs' := removeLocalAdminGrant_removes (run_receipted events millis) hunreplayed hrun
  refine getRole_of_revoked (Removed.revoked (restarts_keeps
    (fun s hs _ => ⟨⟨hs.delegation, by simp [created], hs.operations.stored⟩, hs.revoked⟩)
    loadState_removed restarts ?_))
  simpa [call, hrunning, AdminCall.program, AdminStep.program, hrun] using hs'

def offline : ServerInstallationBackend where
  probeServer _ := .error (.platform none)
  plan _ _ _ := .error (.platform none)
  install _ _ _ _ _ _ _ _ := .error (.platform none)
  status _ _ := .error (.platform none)
  rollback _ _ := .error (.platform none)
  recoverOwner _ _ _ _ _ _ _ := .error (.platform none)
  authorizeAdministrator _ _ _ _ _ _ _ := .error (.platform none)
  resolveDocumentUrl _ := .error (.platform none)

/-- The first start, and an enrolment with the first server of the recording. -/
def enrolledEvents : List Event :=
  .restart ⟨offline, 0, []⟩ :: (enrolment (some "vds-1") serverKey1 seed1 envelope1).map
    fun step => .call (.step step) []

/-- The device of the recording is an owner of the first server, and no longer after a
removal and any number of starts. -/
theorem enrolled_removal_survives :
    let w : World twoServers.platform := (World.new 1767225600000).run enrolledEvents
    (w.state.getRole "vds-1").1 = .owner ∧ w.running = true ∧ w.state.Unreplayed "vds-1" ∧
      w.RemovalLasts "vds-1" := by
  have hlasts := removal_survives_restart (P := twoServers.platform) enrolledEvents 1767225600000
    "vds-1"
  rw [enrolledEvents, run_cons, next, restart_new, run_steps _ rfl] at hlasts ⊢
  set started : AdminState twoServers.platform := (fresh 1767225600000).loaded
  set s := runSteps (enrolment (some "vds-1") serverKey1 seed1 envelope1) started
  have hget : ∀ key ≠ FixedKey.protocolOperations, started.storage.get (.fixed key) = none :=
    fun key hkey => Storage.get_put_fixed_of_ne _ _ hkey
  have hauthentic : twoServers.platform.Authentic started.currentTimeSeconds envelope1 grant1
      serverKey1 := twoServers_issued1.authentic (by decide)
  have henrolled : Enrolled (some "vds-1") serverKey1 grant1 envelope1 started s :=
    runSteps_enrolment (hget _ (by decide)) (by decide)
      (Recording.decodeGrant_of_lookup twoServers_issued1.decoded) rfl rfl hauthentic
  have hoperations : s.EveryOperation fun _ => False := by
    refine runSteps_keeps (fun step _ => Keeping.keeps) ⟨?_, ?_⟩
    · simp [started, loaded]
    · simp [storedOperations, hget]
  clear_value s
  have hunreplayed : s.Unreplayed "vds-1" := by
    refine ⟨fun request link hstored => ?_, fun operation hop =>
      (hoperations.held operation hop).elim, fun operation hop =>
      (hoperations.stored operation hop).elim⟩
    have hcheckpoint : s.storage.get (.fixed .delegationCheckpoint) = none := by
      refine (henrolled.get_of_notMem ?_ ?_ (by decide)).trans (hget _ (by decide))
      · simp
      · simp [serverGrantKeys]
    simp [storedCheckpoint, hcheckpoint] at hstored
  have heff : started.effectiveServerId grant1 = some "vds-1" := rfl
  have hholds : s.Holds "vds-1" grant1 envelope1 serverKey1 := by
    obtain ⟨hgrant, henvelope, hpin⟩ := henrolled.own heff (by decide) (by decide)
    refine ⟨hgrant, henvelope, hpin, ?_⟩
    simp [henrolled.revokedServerIds, grant1]
  have hnow : s.currentTimeSeconds = started.currentTimeSeconds :=
    congrArg (· / 1000) henrolled.currentTimeMillis
  rw [← hnow] at hauthentic
  have hverified : s.verifiedGrant (some "vds-1") = some grant1 :=
    hholds.verified (by decide) rfl hauthentic
  have hrole : (s.getRole "vds-1").1 = .owner := by
    rw [getRole_fst, hverified]
    rfl
  exact ⟨hrole, rfl, hunreplayed, hlasts rfl hunreplayed⟩

/-! ### A delegation that was cut short -/

@[reducible] def removalKeys (serverId : String) : List StorageKey :=
  [.fixed .revokedServerIds, .keyed .activeGrant serverId, .keyed .activeGrantEnvelope serverId,
    .fixed .activeGrant, .fixed .activeGrantEnvelope]

theorem removeLocalAdminGrant_returns (serverId : String) :
    (removeLocalAdminGrant serverId : AdminM P Unit).Returns :=
  returns_bind (returns_bind returns_read fun _ => returns_write) fun _ =>
    returns_bind (returns_bind returns_write fun _ => returns_write) fun _ =>
    returns_bind returns_read fun _ => returns_when
      (returns_bind returns_write fun _ => returns_bind returns_write fun _ =>
        returns_bind returns_call fun _ => returns_modify)

/-- On a device that lists no node, a checkpoint that is still there puts its grant in
force again, whether the server was removed or not. -/
theorem loadState_revives {s : AdminState P}
    (h : s.DelegationChecked link fingerprint delegated pending grant)
    (henvelope : delegated.serverId ≠ "envelope") {st : Storage}
    (hnodes : st.get (.fixed .serverNodes) = none)
    (hoperations : st.get (.fixed .installOperations) = none)
    (hcheckpoint : st.get (.fixed .delegationCheckpoint) = some (.checkpoint pending link))
    (hpin : st.get (.keyed .pinnedServerKey delegated.serverId) =
      some (.text delegated.serverPublicKey))
    (hcontext : st.get (.fixed .pendingAdminContext) = s.storage.get (.fixed .pendingAdminContext))
    (backend : ServerInstallationBackend) (sshCredentials : String → Option String) :
    ∃ s' : AdminState P,
      (loadState backend).exec (.created st sshCredentials s.currentTimeMillis) = (.ok (), s') ∧
      s'.verifiedGrant (some delegated.serverId) = some grant := by
  set started : AdminState P := .created st sshCredentials s.currentTimeMillis
  set t : AdminState P := { started.loaded with
    pendingRequest := some pending
    storage := started.loaded.storage.put (.fixed .pendingRequest) (.envelope pending) } with ht
  have hget : ∀ entry : StorageKey, entry.text ≠ (StorageKey.fixed .protocolOperations).text →
      entry.text ≠ (StorageKey.fixed .pendingRequest).text → t.storage.get entry = st.get entry :=
    fun entry hprotocol hrequest =>
      (Storage.get_put_of_ne _ _ hrequest).trans (Storage.get_put_of_ne _ _ hprotocol)
  have hchecked : t.DelegationChecked link "" delegated pending grant := by
    refine h.again rfl rfl ?_ ?_
    · rw [hget _ (by decide) (by decide), hcontext]
    · refine getPinnedServerPublicKey_of_entry h.authentic.pin_not_blank
        (fun id hid => Option.some.inj hid ▸ parseGrant_named h.parsed) ?_
      rw [storedText, StorageKey.pin,
        hget _ (by simp)
          (by simp), hpin]
      rfl
  obtain ⟨s', hexec, hverified⟩ := importDelegatedGrant_exec hchecked henvelope
  refine ⟨s', ?_, hverified⟩
  have hstored : (started.loaded.storage.get (.fixed .delegationCheckpoint)).bind
      Stored.asCheckpoint = some (pending, link) := by
    have : started.loaded.storage.get (.fixed .delegationCheckpoint) =
        st.get (.fixed .delegationCheckpoint) := Storage.get_put_of_ne _ _ (by decide)
    rw [this, hcheckpoint]
    rfl
  rw [loadState_exec (by simp [started, storedNodes, created, hnodes])
    (by simp [started, storedOperations, created, hoperations])]
  simp only [replayDelegation, exec_bind, exec_read, hstored, quietly, exec_attempt,
    exec_modify, putString_exec, importAdminGrantLink]
  rw [← ht, hexec]
  simp

/-- An import can be cut short so that a removal of its rights does not survive the next
start. -/
theorem removal_undone {w : World P} (hrunning : w.running = true)
    (h : w.state.DelegationChecked link fingerprint delegated pending grant)
    (henvelope : delegated.serverId ≠ "envelope")
    (hnode : w.state.getServerNode delegated.serverId = none)
    (hnodes : w.state.storage.get (.fixed .serverNodes) = none)
    (hoperations : w.state.storage.get (.fixed .installOperations) = none) (e : Throwable)
    (backend : ServerInstallationBackend) :
    ∃ fates, let imported := w.call (.importAdminGrantLink link fingerprint) fates
      imported.running = true ∧
        (imported.state.getRole delegated.serverId).1 = grant.role ∧
        (((imported.call (.step (.removeLocalAdminGrant delegated.serverId)) []).restart
          ⟨backend, 0, []⟩).state.getRole delegated.serverId).1 = grant.role := by
  obtain ⟨fates, s₁, hrun, hd⟩ := importAdminGrantLink_interrupted h henvelope hnode e
  have himported : w.call (.importAdminGrantLink link fingerprint) fates = ⟨s₁, true⟩ := by
    simp only [call, hrunning, if_true, AdminCall.program, discard]
    rw [run_bind_pure hrun]
  refine ⟨fates, ?_⟩
  rw [himported]
  refine ⟨rfl, ?_, ?_⟩
  · rw [getRole_fst, h.verified hd.currentTimeMillis hd.holds]
    rfl
  obtain ⟨_, s₂, hremove⟩ := removeLocalAdminGrant_returns delegated.serverId s₁
  have ho : s₂.outside (removalKeys delegated.serverId) = _ := Keeping.leaves.of_exec hremove
  have hremoved : (⟨s₁, true⟩ : World P).call
      (.step (.removeLocalAdminGrant delegated.serverId)) [] = ⟨s₂, true⟩ := by
    rw [call_nil rfl]
    simp only [AdminCall.program, AdminStep.program, hremove]
  have hget : ∀ entry : StorageKey,
      entry.text ∉ (removalKeys delegated.serverId).map StorageKey.text →
      entry.text ∉ (.fixed .delegationCheckpoint :: appliedKeys delegated.serverId).map
        StorageKey.text → s₂.storage.get entry = w.state.storage.get entry :=
    fun entry hremoval happlied => (get_of_outside ho hremoval).trans (hd.others entry happlied)
  have htime : s₂.currentTimeMillis = w.state.currentTimeMillis :=
    (congrArg Outside.currentTimeMillis ho).trans hd.currentTimeMillis
  have hcheckpoint : s₂.storage.get (.fixed .delegationCheckpoint) =
      some (.checkpoint pending link) := (get_of_outside ho (by
    simp [removalKeys])).trans hd.checkpoint
  have hpin : s₂.storage.get (.keyed .pinnedServerKey delegated.serverId) =
      some (.text delegated.serverPublicKey) := (get_of_outside ho (by
    simp [removalKeys])).trans hd.holds.ownPin
  have hfixed : ∀ key ∈ [FixedKey.serverNodes, .installOperations, .pendingAdminContext],
      s₂.storage.get (.fixed key) = w.state.storage.get (.fixed key) := by
    intro key hkey
    simp only [List.mem_cons, List.not_mem_nil, or_false] at hkey
    rcases hkey with rfl | rfl | rfl <;> refine hget _ ?_ ?_ <;>
      simp [removalKeys, appliedKeys, serverGrantKeys, unscopedGrantKeys]
  obtain ⟨s', hload, hverified⟩ := loadState_revives h henvelope
    ((hfixed _ (by simp)).trans hnodes) ((hfixed _ (by simp)).trans hoperations) hcheckpoint hpin
    (hfixed _ (by simp)) backend s₂.sshCredentials
  rw [hremoved, restart_nil (by simpa [htime] using hload), getRole_fst, hverified]
  rfl

/-- A store that nothing but a start has written to. -/
def AdminState.Unused (s : AdminState P) : Prop :=
  ∀ entry : StorageKey, entry.text ≠ (StorageKey.fixed .protocolOperations).text →
    s.storage.get entry = none

theorem AdminState.fresh_loaded_unused (millis : Int) :
    ((fresh millis).loaded : AdminState P).Unused :=
  fun _ hentry => (Storage.get_put_of_ne _ _ hentry).trans (Storage.get_empty _)

section Confirmed

variable {s : AdminState P} (hunused : s.Unused) {profileId : String}
  (hprofile : isBlank profileId = false) {role : AdminRole} (hrole : role.granted = true)
  (seed : JoinSeed)
include hunused hprofile hrole

theorem requested_get {entry : StorageKey}
    (hrecord : entry.text ∉ (.fixed .protocolOperations :: requestRecords).map StorageKey.text) :
    ((createAdminRequestLink seed none profileId role).exec s).2.storage.get entry = none := by
  rw [List.map_cons, List.mem_cons, not_or] at hrecord
  have hspec := createAdminRequestLink_exec (hunused _ (by decide)) hprofile hrole seed
  exact (get_of_outside hspec.2.2 hrecord.2).trans (hunused entry hrecord.1)

theorem requested_unpinned (serverId : String) :
    ((createAdminRequestLink seed none profileId role).exec s).2.getPinnedServerPublicKey
      (some serverId) = none := by
  set requested := ((createAdminRequestLink seed none profileId role).exec s).2
  have hlegacyPin : requested.storage.get (.fixed .pinnedServerKey) = none :=
    requested_get hunused hprofile hrole seed (by decide)
  have hlegacyGrant : requested.storage.get (.fixed .activeGrant) = none :=
    requested_get hunused hprofile hrole seed (by decide)
  have hpin : requested.storage.get (.keyed .pinnedServerKey serverId) = none :=
    requested_get hunused hprofile hrole seed
      (by simp [requestRecords])
  simp [getPinnedServerPublicKey, storedText, legacyGrantBelongsTo, storedGrant, hlegacyPin,
    hlegacyGrant, hpin]

end Confirmed

/-- The first start, and a request for rights. -/
def requestedEvents (seed : JoinSeed) (profileId : String) (role : AdminRole) : List Event :=
  [.restart ⟨offline, 0, []⟩, .call (.createAdminRequestLink seed none profileId role) []]

theorem requestedEvents_run (millis : Int) (seed : JoinSeed) (profileId : String)
    (role : AdminRole) :
    (new millis).run (requestedEvents seed profileId role) =
      ⟨((createAdminRequestLink seed none profileId role).exec
        (fresh millis : AdminState P).loaded).2, true⟩ := by
  rw [requestedEvents, run_cons, next, restart_new, run_cons, next,
    call_nil rfl, AdminCall.program, discard_exec_snd, run, List.foldl_nil]

/-- A device whose only request is confirmed can be cut short in the import so that a removal
of the rights does not last. -/
theorem requested_removal_undone {millis : Int} {profileId : String}
    (hprofile : isBlank profileId = false) {role : AdminRole} (hrole : role.granted = true)
    (seed : JoinSeed) (h : ((createAdminRequestLink seed none profileId role).exec
      (fresh millis : AdminState P).loaded).2.DelegationChecked link fingerprint delegated
      pending grant) (henvelope : delegated.serverId ≠ "envelope") (hgranted : grant.role ≠ .none)
    (e : Throwable) :
    ∃ events, ((new millis).run events : World P).running = true ∧
      ¬ ((new millis).run events : World P).RemovalLasts delegated.serverId := by
  have hunused := fresh_loaded_unused (P := P) millis
  have hnodes := requested_get hunused hprofile hrole seed
    (show (StorageKey.fixed .serverNodes).text ∉ _ by decide)
  have hoperations := requested_get hunused hprofile hrole seed
    (show (StorageKey.fixed .installOperations).text ∉ _ by decide)
  have hrequests := (createAdminRequestLink_exec (hunused _ (by decide)) hprofile hrole seed).1
  have hrun := requestedEvents_run (P := P) millis seed profileId role
  set requested := ((createAdminRequestLink seed none profileId role).exec
    (fresh millis : AdminState P).loaded).2
  clear_value requested
  have hnode : requested.getServerNode delegated.serverId = none := by
    have hlisted : requested.serverNodes = [] := congrArg Prod.snd hrequests
    simp [getServerNode, hlisted]
  obtain ⟨fates, himported, -, hundone⟩ :=
    removal_undone (w := ⟨requested, true⟩) rfl h henvelope hnode hnodes hoperations e offline
  have hrun' : (new millis).run (requestedEvents seed profileId role ++
      [.call (.importAdminGrantLink link fingerprint) fates]) =
      call (.importAdminGrantLink link fingerprint) fates ⟨requested, true⟩ := by
    rw [run_append, hrun, run_cons, next, run, List.foldl_nil]
  refine ⟨_, hrun' ▸ himported, ?_⟩
  rw [hrun']
  set imported := call (.importAdminGrantLink link fingerprint) fates ⟨requested, true⟩
  clear_value imported
  intro hlasts
  obtain ⟨_, s', hremove⟩ := removeLocalAdminGrant_returns delegated.serverId imported.state
  have hnone := hlasts [] [⟨offline, 0, []⟩] (by simp [Prog.run_nil, hremove])
  rw [World.restarts, List.foldl_cons, List.foldl_nil] at hnone
  exact hgranted (hundone.symm.trans hnone)

def link1 : String := AdminDelegationLink.grantPrefix ++ linkBody1

def delegated1 : DelegatedAdminGrant where
  response := response1
  grant := envelope1
  serverId := "vds-1"
  serverPublicKey := serverKey1
  documentUrl := ""
  clientKey := ""
  serverKey := ""

theorem response1_decoded : twoServers.platform.decodePayload response1.payload =
    .ok (.object (confirmationBody response1.opId "vds-1" serverKey1
      (.object envelope1.toFields))) :=
  Recording.decodePayload_of_lookup List.lookup_cons_self

set_option maxRecDepth 4000 in
theorem length_envelope1_payload : envelope1.payload.length = 502 :=
  String.length_ofList.trans rfl

theorem linkBody1_fits : fits grantPrefix linkBody1 = true := by
  have htext : confirmationText1.length ≤ 978 := by
    unfold confirmationText1
    simp only [String.length_append, AdminEnvelope.length_toJson, length_envelope1_payload]
    decide
  have hpayload : response1.payload.length ≤ 6000 :=
    Base64.length_encodeToString_le htext (by decide)
  have hframe : response1.frameLength ≤ 300 := by decide
  exact fits_encodeToString response1.length_toJson_pos
    (AdminEnvelope.length_toJson_le hframe hpayload) (show 16 * 6300 < 3 * 40000 by decide)
    (by decide)

theorem link1_parsed : AdminDelegationLink.parseGrant twoServers.platform link1 = some delegated1 :=
  parseGrant_confirmation rfl rfl response1_decoded linkBody1_fits
    (Recording.decodeLinkBody_of_lookup List.lookup_cons_self)
    (Recording.decodeEnvelope_toFields rfl) rfl rfl (by decide) twoServers_issued1.key_named

theorem response1_signed :
    twoServers.platform.verifyServerResponse response1 serverKey1 (some serverKey1) = true :=
  Recording.verifyServerResponse_of_mem twoServers_issued1.key_named serverKey1_point
    ((isBlank_ofList _).trans rfl)
    ((congrArg Option.isSome (decodeBase64_ofList _)).trans rfl)
    (by simp [twoServers])

/-- The confirmation of the only request the device has made is accepted, as the fingerprint of
the key is the one that was compared. -/
theorem requested_link1_checked {s : AdminState twoServers.platform} (hunused : s.Unused)
    (hexp : s.currentTimeSeconds < 1798761600) :
    ((createAdminRequestLink seed1 none "admin-1" .owner).exec s).2.DelegationChecked link1
      serverFingerprint1 delegated1 (joinEnvelope twoServers.platform s.currentTimeSeconds seed1
        "admin-1" .owner none none) grant1 := by
  have hprofile : isBlank "admin-1" = false := by decide
  have hrole : AdminRole.owner.granted = true := rfl
  have hunpinned := requested_unpinned hunused hprofile hrole seed1 "vds-1"
  obtain ⟨hrequests, hcontext, ho⟩ := createAdminRequestLink_exec (hunused _ (by decide))
    hprofile hrole seed1
  set requested := ((createAdminRequestLink seed1 none "admin-1" .owner).exec s).2
  have hnow : requested.currentTimeSeconds = s.currentTimeSeconds :=
    congrArg (· / 1000) (congrArg Outside.currentTimeMillis ho)
  have hallows : ∀ name ∉ ["profile_id", "role"], ∀ value,
      requested.contextAllows name value = .ok true := by
    intro name hname value
    simp only [List.mem_cons, List.not_mem_nil, or_false, not_or] at hname
    simp [contextAllows, hcontext, Stored.asJson, fieldIsUnlessAbsent, jsonField,
      JsonObject.contentOf, JsonObject.get, List.lookup_cons, beq_false_of_ne hname.1,
      beq_false_of_ne hname.2, bind, Except.bind, pure, Except.pure]
  have hfingerprint : twoServers.platform.computeFingerprint serverKey1 =
      some (trim serverFingerprint1) := by
    rw [show trim serverFingerprint1 = serverFingerprint1 by decide]
    refine (Recording.computeFingerprint_eq rfl ?_).trans (congrArg some serverFingerprint1_eq)
    exact (congrArg Option.isSome (decodeBase64_ofList _)).trans rfl
  have hkey : requested.checkDelegationKey "vds-1" serverKey1 serverFingerprint1 = .ok () := by
    have hnamed : isBlank serverFingerprint1 = false := (isBlank_ofList _).trans rfl
    simp [checkDelegationKey, hunpinned, hnamed, hfingerprint, require]
  have hauthentic := twoServers_issued1.authentic hexp
  exact ⟨link1_parsed, verifyDelegationReceipt_confirmation rfl rfl response1_decoded hkey rfl rfl
    (hnow ▸ hexp) response1_signed, congrArg Prod.fst hrequests,
    Recording.decodeGrant_of_lookup twoServers_issued1.decoded, rfl, hauthentic.pin_eq, rfl, rfl,
    hauthentic.device_eq, hallows _ (by decide) _, hallows _ (by decide) _, hnow ▸ hauthentic⟩

/-- The device of the recording imports a confirmation, and the store fails once the grant
is in force. After the removal of the rights, the next start imports the confirmation
again. -/
theorem removal_not_lasting : ¬ ∀ (P : Platform) (events : List Event) (millis : Int)
    (serverId : String), ((World.new millis).run events : World P).running = true →
      ((World.new millis).run events : World P).RemovalLasts serverId := by
  intro h
  obtain ⟨events, hrunning, hundone⟩ := requested_removal_undone (by decide) rfl seed1
    (requested_link1_checked (fresh_loaded_unused 1767225600000) (by decide)) (by decide)
    (show grant1.role ≠ .none by decide)
    (.platform (some "SecurePreferences encryption failure: null"))
  exact hundone (h _ events _ _ hrunning)

end LibreRoute.Admin
