import LibreRoute.Admin.Load

/-!
What the durable list of installation operations can hold.

An operation is confirmed only by a receipt that says it was committed,
and that receipt is stored with it. This holds in memory and in the store,
in every run and wherever a call is cut short, so the receipts a start
replays are all of committed operations.
-/

namespace LibreRoute.Admin

open LibreRoute.Lib AdminState

variable {P : Platform} {Q : ServerInstallOperation → Prop} {operation : ServerInstallOperation}
  {s : AdminState P} {α : Type} {I : AdminState P → Prop} {backend : ServerInstallationBackend}
  {seed : JoinSeed} {node : ServerNode} {nodes : List ServerNode} {response : JsonObject}
  {operationId serverId profileId documentUrl link fingerprint : String} {authenticatedNow : Bool}

/-- Every operation, in memory and in the store, satisfies `Q`. -/
structure AdminState.EveryOperation (Q : ServerInstallOperation → Prop) (s : AdminState P) :
    Prop where
  held : ∀ operation ∈ s.installationOperations, Q operation
  stored : ∀ operation ∈ s.storedOperations, Q operation

theorem AdminState.EveryOperation.overlooks {key : StorageKey}
    (h : (StorageKey.fixed .installOperations).text ≠ key.text) :
    Overlooks (EveryOperation Q : AdminState P → Prop) key := by
  refine ⟨fun s value hs => ⟨hs.held, ?_⟩⟩
  have hget : Storage.get (Function.update s.storage key.text value) (.fixed .installOperations) =
      s.storage.get (.fixed .installOperations) := Function.update_of_ne h _ _
  simpa only [storedOperations, hget] using hs.stored

instance : OfReplays (EveryOperation Q : AdminState P → Prop) where
  congr hs hst _ ho := ⟨ho ▸ hs.held, by simpa only [storedOperations, hst] using hs.stored⟩
  overlooks hkey := EveryOperation.overlooks (hkey _ (by simp [replayKeys]))

instance : Overlooks (EveryOperation Q : AdminState P → Prop) (.fixed .revokedServerIds) :=
  EveryOperation.overlooks (by decide)

instance : Overlooks (EveryOperation Q : AdminState P → Prop) (.fixed .delegationCheckpoint) :=
  EveryOperation.overlooks (by decide)

theorem mem_putOperation {list : List ServerInstallOperation} {other : ServerInstallOperation}
    (h : other ∈ putOperation list operation) :
    other = operation ∨ other ∈ list := by
  unfold putOperation at h
  split at h
  · exact (List.mem_or_eq_of_mem_set h).symm
  · rw [List.mem_append, List.mem_singleton] at h
    exact h.symm

/-- A predicate of operations that does not look at the secrets of a node. -/
def Durable (Q : ServerInstallOperation → Prop) : Prop :=
  ∀ operation, Q operation → Q operation.serialized

theorem AdminState.EveryOperation.persisted (h : s.EveryOperation Q) (hQ : Durable Q) :
    EveryOperation Q { s with
      storage := s.storage.put (.fixed .installOperations)
        (.installOperations
          (s.installationOperations.map ServerInstallOperation.serialized)) } := by
  refine ⟨h.held, fun operation hop => ?_⟩
  simp only [storedOperations, Storage.get_put_self, Option.bind_some, Stored.asInstallOperations,
    Option.getD_some, List.mem_map] at hop
  obtain ⟨original, horiginal, rfl⟩ := hop
  exact hQ original (h.held original horiginal)

theorem persistInstallationOperations_keeps (hQ : Durable Q) :
    Keeping (EveryOperation Q) (persistInstallationOperations : AdminM P Unit) :=
  ⟨keeps_read_bind fun _ hs => wp_write (hs.persisted hQ) hs⟩

theorem saveServerInstallation_keeps (hQ : Durable Q) (h : Q operation) :
    Keeping (EveryOperation Q) (saveServerInstallation operation : AdminM P Unit) := by
  have hpersist := persistInstallationOperations_keeps (P := P) hQ
  refine ⟨keeps_bind (keeps_modify fun s hs => ⟨fun other hother => ?_, hs.stored⟩)
    fun _ => hpersist.keeps⟩
  rcases mem_putOperation hother with rfl | hmem
  · exact h
  · exact hs.held other hmem

/-- A confirmed operation has the receipt of a committed one. -/
def ServerInstallOperation.Receipted (operation : ServerInstallOperation) : Prop :=
  operation.stage = .serverConfirmed →
    ∃ receipt, operation.receipt = some receipt ∧ receiptStatus receipt = .ok "committed"

open ServerInstallOperation

theorem receipted_durable : Durable Receipted := fun _ h => h

theorem receipted_of_stage (h : operation.stage ≠ .serverConfirmed) :
    operation.Receipted := fun hc => absurd hc h

theorem unfinishedStage_ne (status : String) : unfinishedStage status ≠ .serverConfirmed := by
  unfold unfinishedStage
  split
  · simp
  · split <;> simp

theorem ServerInstallOperation.Receipted.resumed (h : operation.Receipted) :
    operation.resumed.Receipted := by
  unfold ServerInstallOperation.resumed
  split
  · exact receipted_of_stage (by simp)
  · exact h

theorem ServerInstallOperation.Receipted.bound (h : operation.Receipted) (localNodeId : String)
    (migrated : ServerNode) (confirmedNamespace : String) (millis : Int) :
    (operation.bound localNodeId migrated confirmedNamespace millis).Receipted := by
  unfold ServerInstallOperation.bound
  split <;> exact h

abbrev AdminState.AllReceipted : AdminState P → Prop := EveryOperation Receipted

theorem save_receipted (h : operation.Receipted) :
    Keeping AllReceipted (saveServerInstallation operation : AdminM P Unit) :=
  saveServerInstallation_keeps receipted_durable h

/-! ### What keeps an invariant of the replays -/

section Keeping

variable {I : AdminState P → Prop} [OfReplays I]

instance : Overlooks I (documentSessionKey profileId serverId) :=
  inferInstanceAs (Overlooks I (.keyed _ _))

instance {m : AdminM P α} [Keeping I m] : Keeping I (quietly m) := by
  unfold quietly
  infer_instance

instance {m : AdminM P α} [Keeping I m] : Keeping I (discard m) := by
  unfold discard
  infer_instance

instance : Keeping I (probeServer backend node) := by
  unfold probeServer
  infer_instance

instance : Keeping I (operationJoin seed operation) := by
  unfold operationJoin
  split <;> infer_instance

instance : Keeping I (markOwnerProvisioning node) := by
  refine .bind fun _ => .bind fun _ => ?_
  split <;> infer_instance

instance : Keeping I (putReceiptNode node) := by
  unfold putReceiptNode
  infer_instance

instance {session : Option DocumentSessionKeys} :
    Keeping I (putReceiptSession profileId serverId session) := by
  unfold putReceiptSession
  split <;> infer_instance

instance {role : AdminRole} : Keeping I (confirmSshSession serverId role) := by
  unfold confirmSshSession
  infer_instance

instance : Keeping I (loadServerNodes : AdminM P _) := by
  unfold loadServerNodes
  infer_instance

instance {pinnedKey : Option String} : Keeping I (persistSoleNodePin pinnedKey nodes) := by
  unfold persistSoleNodePin
  split <;> infer_instance

instance : Keeping I (repairControlProfile node) := by
  refine .bind fun scopedGrant => ?_
  split <;> infer_instance

instance : Keeping I (activateNodeGrant nodes) := by
  refine .bind fun scopedGrant => ?_
  cases scopedGrant <;> infer_instance

instance : Keeping I (repairOwnerProfile nodes) := by
  refine .bind fun active => ?_
  split
  · infer_instance
  · refine .bind fun ownerNode => ?_
    split <;> infer_instance

instance : Keeping I (loadProtocolOperations : AdminM P Unit) := by
  dsimp only [loadProtocolOperations]
  infer_instance

-- the size of an answer doubles with every line of a program
set_option synthInstance.maxSize 100000 in
instance : Keeping I (replayBindings : AdminM P Unit) := by
  dsimp only [replayBindings, replayBinding, restoreBoundNode]
  infer_instance

set_option synthInstance.maxSize 100000 in
theorem importAdminGrantLink_keeping
    (h : ∀ {s : AdminState P} {delegated pending grant}, I s →
      s.DelegationChecked link fingerprint delegated pending grant →
      Keeping I (putString (P := P) (.fixed .delegationCheckpoint) (.checkpoint pending link)) ∧
        ∀ key, Keeping I (applyAdminGrant (P := P) delegated.grant key))
    [Keeping I (removeString (P := P) (.fixed .delegationCheckpoint))] :
    Keeping I (importAdminGrantLink link fingerprint) := by
  have himport : Keeping I (importDelegatedGrant link fingerprint) := by
    refine .read_bind fun s hs => .ofExcept_bind ?_
    rintro ⟨delegated, pending, grant⟩ hchecked
    obtain ⟨hcheckpoint, happly⟩ := h hs (checkDelegatedGrant_ok.1 hchecked)
    dsimp only [storeDelegatedGrant]
    infer_instance
  unfold importAdminGrantLink
  infer_instance

theorem replayDelegation_keeping (h : ∀ {s : AdminState P} {request link}, I s →
      (s.storage.get (.fixed .delegationCheckpoint)).bind Stored.asCheckpoint =
        some (request, link) → Keeping I (importAdminGrantLink (P := P) link "")) :
    Keeping I (replayDelegation : AdminM P Unit) := by
  refine .read_bind fun s hs => ?_
  split
  · infer_instance
  · next hcheckpoint =>
      have himport := h hs hcheckpoint
      infer_instance

set_option synthInstance.maxSize 100000 in
theorem loadState_keeping [Keeping I (loadInstallationOperations : AdminM P Unit)]
    [Keeping I (replayReceipts (P := P) backend)]
    [Keeping I (replayDelegation : AdminM P Unit)] : Keeping I (loadState backend) := by
  have hrecords : Maintains I (loadRecords : AdminState P → AdminState P) :=
    ⟨fun _ hs => OfStore.congr hs rfl rfl rfl⟩
  unfold loadState loadSaved
  infer_instance

end Keeping

@[reducible] def InstallStage.confirmed : InstallStage → Bool
  | .serverConfirmed => true
  | _ => false

/-- The invariant asks nothing of an operation that is not confirmed. -/
class OfConfirmed (I : AdminState P → Prop) : Prop extends OfReplays I where
  save : ∀ {operation : ServerInstallOperation}, operation.stage ≠ .serverConfirmed →
    Keeping I (saveServerInstallation (P := P) operation)

section Confirmed

variable {I : AdminState P → Prop} [OfConfirmed I]

instance [h : Same operation.stage.confirmed false] :
    Keeping I (saveServerInstallation (P := P) operation) :=
  OfConfirmed.save fun hstage => by
    have hconfirmed := h.eq
    simp [hstage] at hconfirmed

set_option synthInstance.maxSize 100000 in
instance {receipt : CommittedReceipt} :
    Keeping I (projectReceipt operation response receipt authenticatedNow) := by
  dsimp only [projectReceipt]
  infer_instance

set_option synthInstance.maxSize 100000 in
theorem reconcileCommitted_keeping
    (h : ∀ {s : AdminState P} {receipt}, I s →
      s.checkCommittedReceipt operation response = .ok receipt →
      (∀ millis, Keeping I (saveServerInstallation (P := P) { operation with
        stage := .serverConfirmed, receipt := some response, error := none
        updatedAt := millis })) ∧
        ∀ key, Keeping I (applyAdminGrant (P := P) receipt.envelope key))
    (authenticatedNow : Bool) :
    Keeping I (reconcileCommitted operation response authenticatedNow) := by
  refine .read_bind fun s hs => .ofExcept_bind fun receipt hreceipt => ?_
  obtain ⟨hsave, happly⟩ := h hs hreceipt
  dsimp only
  infer_instance

end Confirmed

/-! ### Steps that keep the invariant -/

instance : OfConfirmed (AllReceipted : AdminState P → Prop) where
  save h := save_receipted (receipted_of_stage h)

theorem AdminState.plannedOperation_stage {plan : JsonObject}
    (h : s.plannedOperation node operationId plan = .ok operation) :
    operation.stage = .planned := by
  simp only [plannedOperation, bind_eq_ok] at h
  obtain ⟨_, -, _, -, planHash, -, h⟩ := h
  cases planHash with
  | none => simp at h
  | some planHash =>
    obtain rfl := Except.ok.inj h
    rfl

instance :
    Keeping AllReceipted (planServerInstallation (P := P) backend node operationId) := by
  refine .bind fun inventory => .bind fun _ => .bind fun saved => .bind fun prior => ?_
  split
  · infer_instance
  · refine .bind fun plan => .read_bind fun s _ => .ofExcept_bind fun operation hop => ?_
    have hsave : Keeping AllReceipted (saveServerInstallation (P := P) operation) :=
      OfConfirmed.save (by simp [plannedOperation_stage hop])
    infer_instance

instance {preserveOwners : Bool} : Keeping AllReceipted
      (prepareOwnerRecovery (P := P) backend node operationId preserveOwners) := by
  have hsave : ∀ plan, Keeping AllReceipted (do
      let saved ← Prog.read fun s => s.loadServerInstallation operationId
      let operation ← Prog.getOrThrow saved (.illegalState "План не сохранён")
      saveServerInstallation { operation with
        kind := .ownerRecovery, ownerRecovery := true, preserveOwners := preserveOwners }
      pure plan : AdminM P JsonObject) := by
    refine fun plan => .read_bind fun s hs => .getOrThrow_bind fun operation hop => ?_
    have hsave : Keeping AllReceipted (saveServerInstallation (P := P) { operation with
        kind := .ownerRecovery, ownerRecovery := true, preserveOwners := preserveOwners }) :=
      save_receipted (hs.held operation (List.mem_of_find?_eq_some hop))
    infer_instance
  unfold prepareOwnerRecovery
  infer_instance

set_option synthInstance.maxSize 100000 in
instance {localNodeId confirmedServerId confirmedNamespace confirmedServerPublicKey : String} :
    Keeping AllReceipted (bindExistingServerIdentity (P := P) localNodeId confirmedServerId
      confirmedNamespace confirmedServerPublicKey) := by
  have hbound : ∀ migrated, Maintains AllReceipted fun s : AdminState P => { s with
      installationOperations := s.installationOperations.map
        (·.bound localNodeId migrated confirmedNamespace s.currentTimeMillis) } := by
    refine fun migrated => ⟨fun s hs => ⟨fun operation hop => ?_, hs.stored⟩⟩
    obtain ⟨original, horiginal, rfl⟩ := List.mem_map.1 hop
    exact (hs.held original horiginal).bound _ _ _ _
  have hpersist := persistInstallationOperations_keeps (P := P) receipted_durable
  dsimp only [bindExistingServerIdentity, migrateServerIdentity, pinServerIdentity, copyCredential]
  infer_instance

set_option synthInstance.maxSize 100000 in
instance : Keeping AllReceipted (restoreInstallationAccessAfterRollback (P := P) operation) := by
  have hsession : Keeping AllReceipted (restoreDocumentSession (P := P) operation) := by
    unfold restoreDocumentSession
    split <;> infer_instance
  have hprofile : Keeping AllReceipted (restoreControlProfile (P := P) operation) := by
    refine .bind fun verified => ?_
    split
    · infer_instance
    · refine .bind fun _ => .bind fun node => ?_
      split <;> infer_instance
  have hgrant : Keeping AllReceipted (restorePreviousGrant (P := P) operation) := by
    refine .bind fun previous => ?_
    split <;> infer_instance
  unfold restoreInstallationAccessAfterRollback
  infer_instance

instance : Keeping AllReceipted
      (reconcileInstallationReceipt (P := P) backend operation response authenticatedNow) := by
  refine .ofExcept_bind fun status hstatus => ?_
  have hmissing : Keeping AllReceipted (reconcileMissing (P := P) backend operation response) := by
    unfold reconcileMissing
    infer_instance
  split
  · exact hmissing
  · refine .bind fun _ => ?_
    split
    · have hsave : ∀ serverStage error millis, Keeping AllReceipted
          (saveServerInstallation (P := P) { operation with
            stage := unfinishedStage status, serverStage := serverStage, error := error
            updatedAt := millis }) :=
        fun _ _ _ => OfConfirmed.save (unfinishedStage_ne status)
      unfold reconcileUnfinished
      infer_instance
    · next hcommitted =>
        obtain rfl : status = "committed" := by simpa using hcommitted
        exact reconcileCommitted_keeping (fun _ _ =>
          ⟨fun _ => save_receipted fun _ => ⟨response, rfl, hstatus⟩, inferInstance⟩) _

instance {message : String} {dated : Bool} :
    Keeping AllReceipted (markUnknown (P := P) operationId message operation dated) := by
  unfold markUnknown
  infer_instance

set_option synthInstance.maxSize 100000 in
instance {ownerRecovery : Bool} : Keeping AllReceipted
      (installServer (P := P) backend seed node operationId documentUrl ownerRecovery) := by
  refine .bind fun original => ?_
  split
  · infer_instance
  refine .bind fun refused => ?_
  split
  · infer_instance
  dsimp only [submitInstallation]
  infer_instance

instance {ask : ServerNode → String → Except Throwable JsonObject} :
    Keeping AllReceipted (reconcileAnswer (P := P) backend ask node operationId) := by
  unfold reconcileAnswer
  infer_instance

set_option synthInstance.maxSize 100000 in
instance : Keeping AllReceipted
      (recoverOwnerServer (P := P) backend seed node operationId documentUrl) := by
  refine .bind fun original => ?_
  split
  · infer_instance
  split
  · infer_instance
  dsimp only [submitRecovery]
  infer_instance

instance :
    Keeping (EveryOperation Q) (importAdminGrantLink (P := P) link fingerprint) :=
  importAdminGrantLink_keeping fun _ _ => ⟨inferInstance, inferInstance⟩

instance {step : AdminStep} : Keeping (EveryOperation Q) (step.program : AdminM P Unit) := by
  cases step with
  | tick => exact ⟨keeps_modify fun _ hs => ⟨hs.held, hs.stored⟩⟩
  | createJoinRequest | setPinnedServerPublicKey | applyAdminGrant | addServerNode
  | updateServerNode | removeServerNode | removeLocalAdminGrant =>
    unfold AdminStep.program
    infer_instance

set_option synthInstance.maxSize 100000 in
theorem AdminCall.program_receipted (c : AdminCall) :
    Keeping AllReceipted (c.program : AdminM P Unit) := by
  cases c with
  | revokeAdminRights =>
    dsimp only [AdminCall.program, Admin.revokeAdminRights]
    infer_instance
  | createAdminRequestLink =>
    dsimp only [AdminCall.program, Admin.createAdminRequestLink]
    infer_instance
  | cancelPendingAdminRequest =>
    dsimp only [AdminCall.program, Admin.cancelPendingAdminRequest]
    infer_instance
  | checkServerInstallation | rollbackServerInstallation =>
    dsimp only [AdminCall.program, Admin.checkServerInstallation, Admin.rollbackServerInstallation]
    infer_instance
  | step | importTrustedBootstrapGrant | claimServerWithSetupKey | importAdminGrantLink
  | bindExistingServerIdentity | planServerInstallation | prepareOwnerRecovery | installServer
  | recoverOwnerServer =>
    unfold AdminCall.program
    infer_instance

theorem loadInstallationOperations_keeping (hQ : Durable Q)
    (hresumed : ∀ operation, Q operation → Q operation.resumed) :
    Keeping (EveryOperation Q) (loadInstallationOperations : AdminM P Unit) := by
  have hpersist := persistInstallationOperations_keeps (P := P) hQ
  refine ⟨keeps_read_bind fun s hs => wp_bind (wp_modify ?_)⟩
  refine keeps_when (fun _ => hpersist.keeps) _ ⟨fun operation hop => ?_, hs.stored⟩
  obtain ⟨original, horiginal, rfl⟩ := List.mem_map.1 hop
  exact hresumed original (hs.stored original horiginal)

instance : Keeping AllReceipted (loadState (P := P) backend) := by
  have hoperations := loadInstallationOperations_keeping (P := P) receipted_durable
    fun _ h => h.resumed
  have hreceipt : ∀ operation, Keeping AllReceipted (replayReceipt (P := P) backend operation) := by
    intro operation
    unfold replayReceipt
    split <;> infer_instance
  have hreceipts : Keeping AllReceipted (replayReceipts (P := P) backend) := by
    unfold replayReceipts
    infer_instance
  have hdelegation := replayDelegation_keeping (P := P) (I := AllReceipted) fun _ _ => inferInstance
  exact loadState_keeping

/-- On a device that started empty, every confirmed operation has the receipt of a
committed one, in memory and in the store, after any calls and starts, and wherever they
were cut short. -/
theorem World.run_receipted (events : List Event) (millis : Int) :
    ((World.new millis).run events : World P).state.AllReceipted := by
  refine World.run_keeps (fun c => c.program_receipted.keeps)
    (fun s hs _ => ⟨by simp [created], hs.stored⟩) (fun _ => Keeping.keeps) events
    ⟨by simp [World.new, fresh, created], ?_⟩
  simp [World.new, fresh, created, storedOperations]

end LibreRoute.Admin
