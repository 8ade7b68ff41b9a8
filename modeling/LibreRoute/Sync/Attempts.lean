import LibreRoute.Sync.Retry
import LibreRoute.Sync.Stages
import Mathlib.Data.Set.Insert
import Mathlib.Logic.Relation

/-!
Attempts at one invitation, made one after the other through any of the entry
points, each of which may be cut at any write or get no reply.

The checkpoint of the link is what the attempts share: the request of the
first one, and later the receipt with the candidate. It is written with
`apply()`, so a process that dies may leave an older checkpoint, or none.
`Flushed` says when that does no harm.
-/

namespace LibreRoute.Sync

open Lib Tunnels SyncState Lib.Keeping
open Admin (Throwable AdminEnvelope ServerNode serverKey1)
open ServerIssuedInvitation (redemptionOf)

/-- The checkpoints of a link the disk may hold. -/
def SyncState.mayKeep (L : SyncLibraries) (link : String) (s : SyncState) :
    Set (Option ClientRedemptionCheckpoint) :=
  {kept | ∃ entries ∈ s.storage.entries :: s.storage.earlier,
    (entries (Address.redemption (L.invitationHash link)).text).bind Entry.asCheckpoint = kept}

/-- The checkpoint of a link, those the disk may hold, and the requests that were sent. -/
def SyncState.redemption (L : SyncLibraries) (link : String) (s : SyncState) :
    Option ClientRedemptionCheckpoint × Set (Option ClientRedemptionCheckpoint) ×
      List AdminEnvelope :=
  (s.redemptionCheckpoint L link, s.mayKeep L link, s.redemptions)

variable {key : String} {candidate : VerifiedInvitationCandidate} {α : Type}
  {receipt : AdminEnvelope}

section Frame

variable {L : SyncLibraries} {J : InvitationLibraries} {call : RedemptionCall} {link : String}
  {s s' : SyncState} {value : Option Entry}

theorem SyncState.checkpoint_mem_mayKeep (L : SyncLibraries) (link : String) (s : SyncState) :
    s.redemptionCheckpoint L link ∈ s.mayKeep L link := ⟨_, List.mem_cons_self, rfl⟩

theorem SyncState.mayKeep_put (s : SyncState) (address : Address) (value : Option Entry) :
    ({ s with storage := s.storage.put address value } : SyncState).mayKeep L link =
      insert (({ s with storage := s.storage.put address value } : SyncState).redemptionCheckpoint
        L link) (s.mayKeep L link) := by
  ext kept
  rw [Set.mem_insert_iff, eq_comm]
  simp only [mayKeep, Storage.put, Set.mem_ofPred_eq, List.mem_cons, or_and_right, exists_or,
    exists_eq_left]
  rfl

theorem SyncState.redemption_put {address : Address} (s : SyncState) (value : Option Entry)
    (h : (Address.redemption (L.invitationHash link)).text ≠ address.text) :
    ({ s with storage := s.storage.put address value } : SyncState).redemption L link =
      s.redemption L link := by
  have hsame : ({ s with storage := s.storage.put address value } : SyncState).redemptionCheckpoint
      L link = s.redemptionCheckpoint L link :=
    congrArg (Option.bind · Entry.asCheckpoint) (Storage.get_put_of_ne s.storage value h)
  rw [redemption, redemption, mayKeep_put, hsame,
    Set.insert_eq_of_mem (checkpoint_mem_mayKeep L link s)]

theorem SyncState.checkpoint_of_redemption (h : s'.redemption L link = s.redemption L link) :
    s'.redemptionCheckpoint L link = s.redemptionCheckpoint L link := congrArg Prod.fst h

theorem SyncState.mayKeep_of_redemption (h : s'.redemption L link = s.redemption L link) :
    s'.mayKeep L link = s.mayKeep L link := congrArg (·.2.1) h

theorem SyncState.redemptions_of_redemption (h : s'.redemption L link = s.redemption L link) :
    s'.redemptions = s.redemptions := congrArg (·.2.2) h

/-- `I` speaks about the checkpoint of one link and the requests that were sent only. -/
class OfRedemption (L : outParam SyncLibraries) (link : outParam String) (I : SyncState → Prop) :
    Prop where
  congr : ∀ {s s'}, I s → s'.redemption L link = s.redemption L link → I s'

instance {b : Option ClientRedemptionCheckpoint × Set (Option ClientRedemptionCheckpoint) ×
    List AdminEnvelope} : OfRedemption L link fun s => s.redemption L link = b :=
  ⟨fun hs h => h.trans hs⟩

variable {I : SyncState → Prop}

theorem OfRedemption.overlooks [hI : OfRedemption L link I] {address : Address}
    (h : (Address.redemption (L.invitationHash link)).text ≠ address.text) : Overlooks I address :=
  ⟨fun value s hs => hI.congr hs (s.redemption_put value h)⟩

instance [hI : OfRedemption L link I] : OfStorage I := ⟨fun _ _ _ hs => hI.congr hs rfl⟩

instance [OfRedemption L link I] {c : String} {key : SyncKey} : Overlooks I (.context c key) :=
  OfRedemption.overlooks (Address.text_context_ne_redemption L c key link).symm

instance [OfRedemption L link I] : Overlooks I .syncContexts :=
  OfRedemption.overlooks (Address.text_redemption_ne (by decide) _)

instance [OfRedemption L link I] : Overlooks I .activeSyncContext :=
  OfRedemption.overlooks (Address.text_redemption_ne (by decide) _)

instance [OfRedemption L link I] {id : String} : Overlooks I (.pendingEnrollment id) := by
  have hlong : 8 ≤ "pending_enrollment_".toList.length := by decide
  have hname : (Address.pendingEnrollment id).text.toList.take 8 ≠ "client_r".toList := by
    have htext : "pending_enrollment_".toList ++ id.toList =
        (Address.pendingEnrollment id).text.toList := by
      rw [← String.toList_append]
      rfl
    rw [← htext, List.take_append_of_le_length hlong]
    decide
  exact OfRedemption.overlooks (Address.text_redemption_ne hname _)

end Frame

/-! ### The request of a link -/

/-- `Q` holds of every checkpoint of a link that the disk may hold. -/
def Saved (L : SyncLibraries) (link : String) (Q : ClientRedemptionCheckpoint → Prop)
    (s : SyncState) : Prop :=
  ∀ record, some record ∈ s.mayKeep L link →
    record.invitationHash = L.invitationHash link ∧ Q record

/-- A link has a checkpoint that `P` holds of, and `S` holds of what was sent. -/
structure Checkpointed (L : SyncLibraries) (link : String)
    (P Q : ClientRedemptionCheckpoint → Prop) (S : List AdminEnvelope → Prop)
    (s : SyncState) : Prop where
  kept : ∃ record, s.redemptionCheckpoint L link = some record ∧ P record
  saved : Saved L link Q s
  sent : S s.redemptions

def ReceiptHasCandidate (record : ClientRedemptionCheckpoint) : Prop :=
  record.receipt.isSome = true → record.candidate.isSome = true

/-- A request is kept, and no other one was sent. -/
def Asked (L : SyncLibraries) (link : String) (request : AdminEnvelope) : SyncState → Prop :=
  Checkpointed L link (fun _ => True)
    (fun record => record.request = request ∧ ReceiptHasCandidate record)
    fun sent => ∀ e ∈ sent, e = request

/-- A receipt is kept, and no more than `sent` was sent. -/
def Received (L : SyncLibraries) (link : String) (sent : List AdminEnvelope) : SyncState → Prop :=
  Checkpointed L link (·.receipt.isSome = true) ReceiptHasCandidate (· = sent)

/-- Nothing was sent for the link, or one request that is kept. -/
def OneRequest (L : SyncLibraries) (link : String) (s : SyncState) : Prop :=
  Saved L link (fun _ => False) s ∧ s.redemptions = [] ∨ ∃ request, Asked L link request s

section Requests

variable {L : SyncLibraries} {J : InvitationLibraries} {call : RedemptionCall} {link : String}
  {request : AdminEnvelope} {sent : List AdminEnvelope} {s s' : SyncState}
  {P Q : ClientRedemptionCheckpoint → Prop} {S : List AdminEnvelope → Prop}
  {trusted : Option String} {serverNode : Option ServerNode}

theorem Saved.congr (h : Saved L link Q s) (hsame : s'.redemption L link = s.redemption L link) :
    Saved L link Q s' := by
  rw [Saved, mayKeep_of_redemption hsame]
  exact h

theorem Saved.imp {R : ClientRedemptionCheckpoint → Prop} (h : Saved L link Q s)
    (himp : ∀ record, Q record → R record) : Saved L link R s :=
  fun record hrecord => ⟨(h record hrecord).1, himp record (h record hrecord).2⟩

theorem Saved.checkpoint_none (h : Saved L link (fun _ => False) s) :
    s.redemptionCheckpoint L link = none :=
  Option.eq_none_iff_forall_ne_some.2 fun record hrecord =>
    (h record (hrecord ▸ checkpoint_mem_mayKeep L link s)).2

theorem Checkpointed.congr (h : Checkpointed L link P Q S s)
    (hsame : s'.redemption L link = s.redemption L link) : Checkpointed L link P Q S s' where
  kept := by
    rw [checkpoint_of_redemption hsame]
    exact h.kept
  saved := h.saved.congr hsame
  sent := by
    rw [redemptions_of_redemption hsame]
    exact h.sent

theorem Checkpointed.record (h : Checkpointed L link P Q S s) :
    ∃ record, s.redemptionCheckpoint L link = some record ∧
      record.invitationHash = L.invitationHash link ∧ P record ∧ Q record := by
  obtain ⟨record, hrecord, hP⟩ := h.kept
  obtain ⟨hhash, hQ⟩ := h.saved record (hrecord ▸ checkpoint_mem_mayKeep L link s)
  exact ⟨record, hrecord, hhash, hP, hQ⟩

theorem OneRequest.congr (h : OneRequest L link s)
    (hsame : s'.redemption L link = s.redemption L link) : OneRequest L link s' := by
  refine h.imp (fun h => ⟨h.1.congr hsame, ?_⟩) fun ⟨request, h⟩ => ⟨request, h.congr hsame⟩
  rw [redemptions_of_redemption hsame]
  exact h.2

instance : OfRedemption L link (Checkpointed L link P Q S) := ⟨Checkpointed.congr⟩

instance : OfRedemption L link (OneRequest L link) := ⟨OneRequest.congr⟩

theorem Checkpointed.save_wp {record : ClientRedemptionCheckpoint} {E : SyncState → Prop}
    (hhash : record.invitationHash = L.invitationHash link) (hP : P record) (hQ : Q record)
    (hsaved : Saved L link Q s) (hS : S s.redemptions) (hE : E s) :
    (saveRedemptionCheckpoint record).wp (fun _ => Checkpointed L link P Q S) E s := by
  have hrecord : (s.keep record s.files).redemptionCheckpoint L link = some record :=
    keep_checkpoint hhash
  refine putEntry_wp ⟨⟨record, hrecord, hP⟩, fun other hother => ?_, hS⟩ hE
  rw [mayKeep_put] at hother
  rcases hother with hother | hother
  · obtain rfl := Option.some.inj (hother.trans hrecord)
    exact ⟨hhash, hQ⟩
  · exact hsaved other hother

theorem Checkpointed.activateCheckpoint_keeps {record : ClientRedemptionCheckpoint}
    (hhash : record.invitationHash = L.invitationHash link)
    (hP : P { record with completed := true }) (hQ : Q { record with completed := true }) :
    (activateCheckpoint L record candidate receipt).Keeps (Checkpointed L link P Q S) :=
  keeps_bind keeps fun _ =>
    keeps_bind (keeps_when fun _ _ hs => save_wp hhash hP hQ hs.saved hs.sent hs) fun _ =>
      keeps_pure

theorem Checkpointed.resumeRedemption_wp
    (hP : ∀ record, P record → P { record with completed := true })
    (hQ : ∀ record, Q record → Q { record with completed := true })
    (hs : Checkpointed L link P Q S s) :
    (resumeRedemption L link).wp (fun result s' => Checkpointed L link P Q S s' ∧
        ((∀ record, P record → Q record →
          record.receipt.isSome = true ∧ record.candidate.isSome = true) → result.isSome = true))
      (Checkpointed L link P Q S) s := by
  refine wp_attempt (R := Checkpointed L link P Q S) ?_ (fun _ h => h) fun e s' h =>
    wp_pure ⟨h, fun _ => rfl⟩
  refine wp_then (keeps s hs) fun completed s₁ hs₁ => ?_
  cases completed with
  | some result => exact wp_pure ⟨hs₁, fun _ => rfl⟩
  | none =>
    obtain ⟨record, hrecord, hhash, hrecordP, hrecordQ⟩ := hs₁.record
    refine wp_bind (wp_read ?_)
    rw [hrecord]
    dsimp only
    split
    · next candidate receipt hcandidate hreceipt =>
        refine wp_bind (wp_require (fun _ => ?_) fun _ => hs₁)
        exact wp_then
          (activateCheckpoint_keeps hhash (hP record hrecordP) (hQ record hrecordQ) s₁ hs₁)
          fun _ s₂ hs₂ => wp_pure ⟨hs₂, fun _ => rfl⟩
    · next hnone =>
        refine wp_pure ⟨hs₁, fun hboth => ?_⟩
        obtain ⟨hreceipt, hcandidate⟩ := hboth record hrecordP hrecordQ
        obtain ⟨receipt, hreceipt⟩ := Option.isSome_iff_exists.1 hreceipt
        obtain ⟨candidate, hcandidate⟩ := Option.isSome_iff_exists.1 hcandidate
        exact absurd hreceipt (hnone candidate receipt hcandidate)

/-! ### Attempts that may send -/

theorem resumeRedemption_keeps : (resumeRedemption L link).Keeps (OneRequest L link) := by
  rintro s (⟨hsaved, hsent⟩ | ⟨request, hs⟩)
  · -- nothing is kept, so nothing is resumed
    have hfresh : ∀ {s' : SyncState}, s'.redemption L link = s.redemption L link →
        OneRequest L link s' := OneRequest.congr (Or.inl ⟨hsaved, hsent⟩)
    refine wp_attempt (R := OneRequest L link) ?_ (fun _ h => h) fun e s' h => wp_pure h
    refine wp_bind (wp_mono
      (keeps (I := (·.redemption L link = s.redemption L link)) s rfl)
      (fun completed s₁ hs₁ => ?_) fun _ h => hfresh h)
    cases completed with
    | some result => exact wp_pure (hfresh hs₁)
    | none =>
      refine wp_bind (wp_read ?_)
      rw [checkpoint_of_redemption hs₁, hsaved.checkpoint_none]
      exact wp_pure (hfresh hs₁)
  · exact wp_mono (Checkpointed.resumeRedemption_wp (fun _ h => h) (fun _ h => h) hs)
      (fun _ _ h => Or.inr ⟨request, h.1⟩) fun _ h => Or.inr ⟨request, h⟩

theorem saveRequest_wp (hs : OneRequest L link s)
    (hkept : ∀ record ∈ s.redemptionCheckpoint L link, request = record.request) :
    (do
      saveRedemptionCheckpoint
        { invitationHash := L.invitationHash link, request := request, serverKey := key }
      pure request : SyncM AdminEnvelope).wp (Asked L link) (OneRequest L link) s := by
  have hasked : Saved L link (fun record => record.request = request ∧ ReceiptHasCandidate record)
      s ∧ ∀ e ∈ s.redemptions, e = request := by
    rcases hs with ⟨hsaved, hsent⟩ | ⟨request', hs⟩
    · exact ⟨hsaved.imp fun _ => False.elim, by simp [hsent]⟩
    · obtain ⟨record, hrecord, -, -, hrequest, -⟩ := hs.record
      rw [hkept record hrecord, hrequest]
      exact ⟨hs.saved, hs.sent⟩
  exact wp_then (Checkpointed.save_wp rfl trivial ⟨rfl, fun h => by cases h⟩ hasked.1 hasked.2 hs)
    fun _ _ h => wp_pure h

theorem requestRedemption_wp (hs : OneRequest L link s) :
    (requestRedemption L J call link key candidate).wp (Asked L link) (OneRequest L link) s := by
  refine wp_bind (wp_read (wp_bind (wp_read (wp_bind ?_))))
  cases hrecord : s.redemptionCheckpoint L link with
  | some record =>
    exact wp_pure (saveRequest_wp hs (by simp [hrecord]))
  | none =>
    exact wp_ofExcept (fun request _ => saveRequest_wp hs (by simp [hrecord])) hs

theorem sendRedemption_keeps : (sendRedemption request).Keeps (Asked L link request) := by
  refine keeps_modify fun s hs => ⟨hs.kept, hs.saved, fun e he => ?_⟩
  rcases List.mem_append.1 he with he | he
  · exact hs.sent e he
  · exact List.mem_singleton.1 he

theorem requestEnrollment_wp {invitation : BootstrapInvitation} (hs : OneRequest L link s) :
    (requestEnrollment L call link invitation).wp (Asked L link) (OneRequest L link) s := by
  refine wp_bind (wp_read (wp_bind (wp_read (wp_bind ?_))))
  cases hrecord : s.redemptionCheckpoint L link with
  | some record =>
    exact wp_pure (saveRequest_wp hs (by simp [hrecord]))
  | none =>
    cases hpending : (s.storage.get (.pendingEnrollment invitation.enrollmentId)).bind
        Entry.asEnvelope with
    | some pending =>
      exact wp_pure (saveRequest_wp hs (by simp [hrecord]))
    | none =>
      refine wp_bind (wp_ofExcept (fun request _ => ?_) hs)
      refine wp_bind (wp_mono
        (keeps (I := (·.redemption L link = s.redemption L link)) s rfl)
        (fun _ s₁ hs₁ => ?_) fun _ h => hs.congr h)
      exact wp_pure (saveRequest_wp (hs.congr hs₁)
        (by simp [checkpoint_of_redemption hs₁, hrecord]))

theorem oneRequest_stages : Stages L J call link (OneRequest L link) (OneRequest L link)
    (OneRequest L link) (Asked L link) where
  begun hs := hs
  fresh hs := hs
  asked hs := Or.inr ⟨_, hs⟩
  completed hs := wp_mono (keeps (I := OneRequest L link) _ hs)
    (fun _ _ h => ⟨h, fun _ => h⟩) fun _ h => h
  resumed hs := wp_mono (resumeRedemption_keeps _ hs) (fun _ _ h => ⟨h, fun _ => h⟩) fun _ h => h
  requested := requestRedemption_wp
  enrolling := requestEnrollment_wp
  sent := sendRedemption_keeps
  prepared := keeps (I := Checkpointed L link _ _ _)
  kept _ hs := Checkpointed.save_wp rfl trivial ⟨rfl, fun _ => rfl⟩ hs.saved hs.sent hs
  activated _ _ hs := wp_mono
    (Checkpointed.activateCheckpoint_keeps rfl trivial ⟨rfl, fun _ => rfl⟩ _ hs)
    (fun _ _ h => Or.inr ⟨_, h⟩) fun _ h => Or.inr ⟨_, h⟩
  forgotten := keeps

/-- Once a receipt is kept, whatever would follow the resumption is not reached. -/
theorem received_stages : Stages L J call link (Received L link sent) (fun _ => False)
    (Received L link sent) fun _ _ => False where
  begun hs := hs
  fresh := False.elim
  asked := False.elim
  completed hs := wp_mono (keeps (I := Checkpointed L link _ _ _) _ hs)
    (fun _ _ h => ⟨h, fun _ => h⟩) fun _ h => h
  resumed hs := by
    refine wp_mono (Checkpointed.resumeRedemption_wp (fun _ h => h) (fun _ h => h) hs) ?_
      fun _ h => h
    rintro result s' ⟨hs', hsome⟩
    exact ⟨hs', fun hnone => by simpa [hnone] using hsome fun _ hreceipt h =>
      ⟨hreceipt, h hreceipt⟩⟩
  requested := False.elim
  enrolling := False.elim
  sent _ := False.elim
  prepared _ := False.elim
  kept _ := False.elim
  activated := False.elim
  forgotten := keeps (I := Checkpointed L link _ _ _)

end Requests

/-! ### Sequences of attempts -/

inductive Attempt
  | redeemInvitation (serverNode : Option ServerNode) (trustedServerPublicKeyBase64 : Option String)
  | redeemInvitationViaDocument (trustedServerPublicKeyBase64 : Option String)
  | redeemBootstrapInvitation

def Attempt.program (L : SyncLibraries) (J : InvitationLibraries) (call : RedemptionCall)
    (link : String) : Attempt → SyncM Redeemed
  | .redeemInvitation serverNode trusted => Sync.redeemInvitation L J call link serverNode trusted
  | .redeemInvitationViaDocument trusted => Sync.redeemInvitationViaDocument L J call link trusted
  | .redeemBootstrapInvitation => Sync.redeemBootstrapInvitation L J call link

def SyncState.Receipted (L : SyncLibraries) (link : String) (s : SyncState) : Prop :=
  ∃ record receipt, s.redemptionCheckpoint L link = some record ∧ record.receipt = some receipt

/-- The process dies, and the next one reads what is on the disk. -/
structure Dies (s s' : SyncState) : Prop where
  storage : ∃ entries ∈ s.storage.entries :: s.storage.earlier, s'.storage = ⟨entries, []⟩
  redemptions : s'.redemptions = s.redemptions

/-- The process dies when a checkpoint is on the disk, unless nothing was sent, and one with a
receipt, if one was kept. -/
structure Flushed (L : SyncLibraries) (link : String) (s s' : SyncState) : Prop where
  dies : Dies s s'
  request : s.redemptions ≠ [] → (s'.redemptionCheckpoint L link).isSome = true
  receipt : s.Receipted L link → s'.Receipted L link

/-- An attempt, which may be cut at any write, a death of the process, or anything else that leaves
the checkpoint of the link alone and sends no request for it. -/
inductive AttemptStep (L : SyncLibraries) (J : InvitationLibraries) (link : String)
    (death : SyncState → SyncState → Prop) (s : SyncState) : SyncState → Prop
  | attempt (a : Attempt) (call : RedemptionCall) (fates : List (Fate Throwable)) :
      AttemptStep L J link death s ((a.program L J call link).run s fates).2.1
  | death {s' : SyncState} (h : death s s') : AttemptStep L J link death s s'
  | outside {s' : SyncState} (h : s'.redemption L link = s.redemption L link) :
      AttemptStep L J link death s s'

section Runs

variable {L : SyncLibraries} {J : InvitationLibraries} {link : String} {s s' : SyncState}
  {sent : List AdminEnvelope} {Q : ClientRedemptionCheckpoint → Prop}

theorem Stages.attempt_run {call : RedemptionCall} {B N I : SyncState → Prop}
    {A : AdminEnvelope → SyncState → Prop} (h : Stages L J call link B N I A) (hs : B s)
    (a : Attempt) (fates : List (Fate Throwable)) :
    I ((a.program L J call link).run s fates).2.1 := by
  cases a with
  | redeemInvitation serverNode trusted => exact wp_final (h.redeemInvitation_wp hs) fates
  | redeemInvitationViaDocument trusted =>
    exact wp_final (h.redeemInvitationViaDocument_wp hs) fates
  | redeemBootstrapInvitation => exact wp_final (h.redeemBootstrapInvitation_wp hs) fates

theorem Dies.mayKeep (h : Dies s s') :
    s'.redemptionCheckpoint L link ∈ s.mayKeep L link ∧
      ∀ kept ∈ s'.mayKeep L link, kept = s'.redemptionCheckpoint L link := by
  obtain ⟨entries, hentries, hstorage⟩ := h.storage
  simp only [SyncState.mayKeep, redemptionCheckpoint, Storage.get, hstorage]
  refine ⟨⟨entries, hentries, rfl⟩, ?_⟩
  rintro kept ⟨entries', hentries', rfl⟩
  rw [List.mem_singleton.1 hentries']

theorem Dies.saved (h : Dies s s') (hs : Saved L link Q s) : Saved L link Q s' := by
  intro record hrecord
  refine hs record ?_
  rw [h.mayKeep.2 _ hrecord]
  exact h.mayKeep.1

theorem Flushed.oneRequest (h : Flushed L link s s') (hs : OneRequest L link s) :
    OneRequest L link s' := by
  rcases hs with ⟨hsaved, hsent⟩ | ⟨request, hs⟩
  · exact Or.inl ⟨h.dies.saved hsaved, h.dies.redemptions.trans hsent⟩
  have hsaved := h.dies.saved hs.saved
  cases hrecord : s'.redemptionCheckpoint L link with
  | some record =>
    refine Or.inr ⟨request, ⟨record, hrecord, trivial⟩, hsaved, ?_⟩
    rw [h.dies.redemptions]
    exact hs.sent
  | none =>
    -- nothing had been sent
    refine Or.inl ⟨fun record hmem => ?_, ?_⟩
    · cases (h.dies.mayKeep.2 _ hmem).trans hrecord
    · rw [h.dies.redemptions]
      by_contra hsent
      have hsome := h.request hsent
      rw [hrecord] at hsome
      cases hsome

theorem Flushed.received (h : Flushed L link s s') (hs : Received L link sent s) :
    Received L link sent s' := by
  obtain ⟨record, hrecord, hsome⟩ := hs.kept
  obtain ⟨receipt, hreceipt⟩ := Option.isSome_iff_exists.1 hsome
  obtain ⟨record', receipt', hrecord', hreceipt'⟩ := h.receipt ⟨record, receipt, hrecord, hreceipt⟩
  refine ⟨⟨record', hrecord', by rw [hreceipt']; rfl⟩, h.dies.saved hs.saved, ?_⟩
  rw [h.dies.redemptions]
  exact hs.sent

theorem AttemptStep.of_exec {death : SyncState → SyncState → Prop} (a : Attempt)
    (call : RedemptionCall) (h : ((a.program L J call link).exec s).2 = s') :
    AttemptStep L J link death s s' := by
  rw [← h, ← run_nil_state]
  exact .attempt a call []

theorem AttemptStep.oneRequest (h : AttemptStep L J link (Flushed L link) s s')
    (hs : OneRequest L link s) : OneRequest L link s' := by
  cases h with
  | attempt a call fates => exact oneRequest_stages.attempt_run hs a fates
  | death hflushed => exact hflushed.oneRequest hs
  | outside hsame => exact hs.congr hsame

theorem AttemptStep.received (h : AttemptStep L J link (Flushed L link) s s')
    (hs : Received L link sent s) : Received L link sent s' := by
  cases h with
  | attempt a call fates => exact received_stages.attempt_run hs a fates
  | death hflushed => exact hflushed.received hs
  | outside hsame => exact hs.congr hsame

theorem oneRequest_of_run
    (h : Relation.ReflTransGen (AttemptStep L J link (Flushed L link)) s s')
    (hs : OneRequest L link s) : OneRequest L link s' := by
  induction h with
  | refl => exact hs
  | tail _ hstep ih => exact hstep.oneRequest ih

theorem received_of_run (h : Relation.ReflTransGen (AttemptStep L J link (Flushed L link)) s s')
    (hs : Received L link sent s) : Received L link sent s' := by
  induction h with
  | refl => exact hs
  | tail _ hstep ih => exact hstep.received ih

theorem OneRequest.eq (hs : OneRequest L link s) :
    ∀ e ∈ s.redemptions, ∀ e' ∈ s.redemptions, e = e' := by
  intro e he e' he'
  rcases hs with ⟨-, hsent⟩ | ⟨request, hs⟩
  · rw [hsent] at he
    cases he
  · rw [hs.sent e he, hs.sent e' he']

theorem OneRequest.received (hs : OneRequest L link s) (hreceipted : s.Receipted L link) :
    Received L link s.redemptions s := by
  obtain ⟨record, receipt, hrecord, hreceipt⟩ := hreceipted
  rcases hs with ⟨hsaved, -⟩ | ⟨request, hs⟩
  · rw [hsaved.checkpoint_none] at hrecord
    cases hrecord
  · exact ⟨⟨record, hrecord, by rw [hreceipt]; rfl⟩, hs.saved.imp fun _ h => h.2, rfl⟩

end Runs

/-- All requests that are sent are one and the same, and none is sent once a receipt is kept. -/
def OneRedemption (L : SyncLibraries) (link : String) (s s' : SyncState) : Prop :=
  (∀ e ∈ s.redemptions, ∀ e' ∈ s.redemptions, e = e') ∧
    (s.Receipted L link → s'.redemptions = s.redemptions)

/-- From the first attempt on there is one redemption for a link, if the process only dies when
what it has sent and received is on the disk. -/
theorem one_redemption_per_link (L : SyncLibraries) (J : InvitationLibraries) (link : String)
    (s₀ s s' : SyncState) (hfresh : ∀ kept ∈ s₀.mayKeep L link, kept = none)
    (hnone : s₀.redemptions = [])
    (hrun : Relation.ReflTransGen (AttemptStep L J link (Flushed L link)) s₀ s)
    (hmore : Relation.ReflTransGen (AttemptStep L J link (Flushed L link)) s s') :
    OneRedemption L link s s' := by
  have hsaved : Saved L link (fun _ => False) s₀ := fun record hrecord => by
    cases hfresh _ hrecord
  have hone : OneRequest L link s := oneRequest_of_run hrun (Or.inl ⟨hsaved, hnone⟩)
  exact ⟨hone.eq, fun hreceipted => (received_of_run hmore (hone.received hreceipted)).sent⟩

theorem invitedPhone_mayKeep :
    ∀ kept ∈ invitedPhone.mayKeep invitedSync invitationLink, kept = none := by
  rintro kept ⟨entries, hentries, rfl⟩
  rw [List.mem_singleton.1 hentries]
  rfl

/-- The phone dies at the last write of its first attempt, when the others are on the disk, and
tries again. -/
theorem one_redemption_per_link_invitedPhone :
    ∃ s s' s'', Relation.ReflTransGen (AttemptStep invitedSync invitedLibraries invitationLink
        (Flushed invitedSync invitationLink)) invitedPhone s ∧
      Flushed invitedSync invitationLink s s' ∧
      Relation.ReflTransGen (AttemptStep invitedSync invitedLibraries invitationLink
        (Flushed invitedSync invitationLink)) s' s'' ∧
      s.redemptions = [redemption1] ∧ s''.redemptions = [redemption1] := by
  obtain ⟨s, ⟨fates, hrun⟩, hactivated⟩ := invitedPhone_cuts
  have hfirst : Relation.ReflTransGen (AttemptStep invitedSync invitedLibraries invitationLink
      (Flushed invitedSync invitationLink)) invitedPhone s := by
    have hstep : AttemptStep invitedSync invitedLibraries invitationLink
        (Flushed invitedSync invitationLink) invitedPhone _ :=
      .attempt (.redeemInvitationViaDocument none) invitedCall fates
    rw [Attempt.program, hrun] at hstep
    exact .single hstep
  have hrecord : s.redemptionCheckpoint invitedSync invitationLink = some checkpoint1 :=
    (hactivated.checkpoint _).trans keptPhone_checkpoint
  have hreceipted : s.Receipted invitedSync invitationLink := ⟨_, receipt1, hrecord, rfl⟩
  have hdeath : Flushed invitedSync invitationLink s
      { s with storage := ⟨s.storage.entries, []⟩ } :=
    ⟨⟨⟨_, List.mem_cons_self, rfl⟩, rfl⟩, fun _ => congrArg Option.isSome hrecord, fun h => h⟩
  have hagain : Relation.ReflTransGen (AttemptStep invitedSync invitedLibraries invitationLink
      (Flushed invitedSync invitationLink)) { s with storage := ⟨s.storage.entries, []⟩ } _ :=
    .single (.attempt (.redeemInvitationViaDocument none) invitedCall [])
  have hsent : s.redemptions = [redemption1] := hactivated.redemptions
  have hone := one_redemption_per_link invitedSync invitedLibraries invitationLink invitedPhone s _
    invitedPhone_mayKeep rfl hfirst (.trans (.single (.death hdeath)) hagain)
  exact ⟨s, _, _, hfirst, hdeath, hagain, hsent, (hone.2 hreceipted).trans hsent⟩

/-- What is left of the phone if it dies before anything is on the disk. -/
def forgetfulPhone : SyncState := { interruptedPhone with storage := Storage.empty }

def nextCall : RedemptionCall :=
  { lostCall with
    opId := "7d05e1b3-94ac-4f68-8b1e-c2f0a6d73958"
    nonce := "30c8f2a6-5be9-4d17-a84c-9e61d70b52f3" }

/-- The phone sends a request, and dies before the checkpoint is on the disk. It then signs and
sends another one. -/
theorem lost_checkpoint_sends_twice : ¬ ∀ (L : SyncLibraries) (J : InvitationLibraries)
    (link : String) (s₀ s s' : SyncState), (∀ kept ∈ s₀.mayKeep L link, kept = none) →
      s₀.redemptions = [] → Relation.ReflTransGen (AttemptStep L J link Dies) s₀ s →
      Relation.ReflTransGen (AttemptStep L J link Dies) s s' → OneRedemption L link s s' := by
  intro h
  have hfirst : AttemptStep invitedSync invitedLibraries invitationLink Dies invitedPhone
      interruptedPhone :=
    .of_exec (.redeemInvitationViaDocument none) lostCall invitedPhone_losesReply.ended
  have hdeath : Dies interruptedPhone forgetfulPhone :=
    ⟨⟨_, List.mem_cons_of_mem _ List.mem_cons_self, rfl⟩, rfl⟩
  have hagain : AttemptStep invitedSync invitedLibraries invitationLink Dies forgetfulPhone _ :=
    .of_exec (.redeemInvitationViaDocument none) nextCall
      (redeemInvitationViaDocument_lost rfl rfl
        (verifyCandidate_invitation1 (by decide) (by decide)) rfl rfl)
  have hone := h _ _ _ _ _ _ invitedPhone_mayKeep rfl
    (.tail (.tail (.single hfirst) (.death hdeath)) hagain) .refl
  have hsame := hone.1 redemption1 List.mem_cons_self _
    (List.mem_cons_of_mem _ List.mem_cons_self)
  exact absurd (congrArg AdminEnvelope.opId hsame) (by decide)

end LibreRoute.Sync
