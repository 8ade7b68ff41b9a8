import LibreRoute.Sync.Activation

/-!
The stages of a redemption, whatever entry point it is called through.

An attempt first looks at what an earlier one has kept. If that settles
nothing, it keeps a request, sends it, keeps the receipt with the
candidate, and activates the candidate. What holds at each of these stages
is enough to know what holds wherever the attempt stops.
-/

namespace LibreRoute.Sync

open Lib Tunnels
open Admin (AdminEnvelope ServerNode)
open ServerIssuedInvitation (verifyCandidate)

/-- The candidates a redemption may activate, with the keys they are trusted by: the one that
was kept, the one the link carries, and the one that comes with the reply to a bootstrap
invitation. -/
inductive Offered (L : SyncLibraries) (J : InvitationLibraries) (call : RedemptionCall)
    (s : SyncState) (link : String) : VerifiedInvitationCandidate → String → Prop
  | kept {record : ClientRedemptionCheckpoint} {candidate : VerifiedInvitationCandidate} :
      s.redemptionCheckpoint L link = some record → record.candidate = some candidate →
        Offered L J call s link candidate record.serverKey
  | carried {candidate : VerifiedInvitationCandidate} {key : String} :
      verifyCandidate L J link key (s.currentTimeMillis / 1000) = .ok candidate →
        Offered L J call s link candidate key
  | replied {invitation : BootstrapInvitation} {request response : AdminEnvelope}
      {candidate : VerifiedInvitationCandidate} :
      BootstrapInvitation.parse L J link (s.currentTimeMillis / 1000) = .ok invitation →
      call.reply invitation.documentUrl invitation.profileId "" request
        invitation.serverPublicKey = .ok response →
      boundCandidate L J call invitation response = .ok candidate →
        Offered L J call s link candidate invitation.serverPublicKey

/-- An attempt begins where `B` holds. Where nothing was kept that settles it, `N` holds; once a
request is kept, `A` holds of it; and `I` holds wherever it stops. -/
structure Stages (L : SyncLibraries) (J : InvitationLibraries) (call : RedemptionCall)
    (link : String) (B N I : SyncState → Prop) (A : AdminEnvelope → SyncState → Prop) : Prop where
  begun {s} : B s → I s
  fresh {s} : N s → B s
  asked {request s} : A request s → I s
  completed {s} : B s → (completedRedemption L link).wp
    (fun result s' => I s' ∧ (result = none → B s')) I s
  resumed {s} : B s → (resumeRedemption L link).wp
    (fun result s' => I s' ∧ (result = none → N s')) I s
  requested {s key candidate} : N s → (requestRedemption L J call link key candidate).wp A I s
  enrolling {s invitation} : N s → (requestEnrollment L call link invitation).wp A I s
  sent {request} : (sendRedemption request).Keeps (A request)
  prepared {request candidate} : (prepareCandidateTunnels L call candidate).Keeps (A request)
  kept {key request receipt candidate tunnels} : (saveRedemptionCheckpoint
    (receivedCheckpoint L link key request receipt candidate tunnels)).Keeps (A request)
  activated {s s' key request receipt candidate tunnels} : N s →
    Offered L J call s link candidate key → A request s' → (activateCheckpoint L
      (receivedCheckpoint L link key request receipt candidate tunnels) candidate receipt).wp
        (fun _ => I) I s'
  forgotten {id} : (putEntry (.pendingEnrollment id) none).Keeps I

namespace Stages

variable {L : SyncLibraries} {J : InvitationLibraries} {call : RedemptionCall} {link key : String}
  {candidate : VerifiedInvitationCandidate} {request receipt : AdminEnvelope} {s s' : SyncState}
  {trusted : Option String} {serverNode : Option ServerNode} {B N I : SyncState → Prop}
  {A : AdminEnvelope → SyncState → Prop}

variable (h : Stages L J call link B N I A)
include h

theorem asked_wp {α : Type} {m : SyncM α} (hm : m.Keeps (A request)) (hs : A request s) :
    m.wp (fun _ => A request) I s :=
  wp_mono (hm s hs) (fun _ _ hs' => hs') fun _ hs' => h.asked hs'

theorem keepCandidate_wp (hs : A request s) :
    (keepCandidate L call link key request receipt candidate).wp
      (fun record s' => (∃ tunnels, record =
        receivedCheckpoint L link key request receipt candidate tunnels) ∧ A request s') I s :=
  wp_then (h.asked_wp h.prepared hs) fun tunnels _ hs₁ =>
    wp_then (h.asked_wp h.kept hs₁) fun _ _ hs₂ => wp_pure ⟨⟨tunnels, rfl⟩, hs₂⟩

theorem confirmRedemption_wp {unreachable : Option String} (hs : N s)
    (ho : Offered L J call s link candidate key) (hs' : A request s') :
    (confirmRedemption L J call link key request receipt candidate unreachable).wp
      (fun _ => I) I s' := by
  unfold confirmRedemption
  split
  · exact wp_pure (h.asked hs')
  · refine wp_then (h.keepCandidate_wp hs') ?_
    rintro _ s₁ ⟨⟨tunnels, rfl⟩, hs₁⟩
    cases unreachable with
    | some error => exact wp_pure (h.asked hs₁)
    | none => exact h.activated hs ho hs₁

theorem redeemThroughDocument_wp (hs : N s) :
    (redeemThroughDocument L J call link key).wp (fun _ => I) I s := by
  refine wp_bind (wp_read ?_)
  split
  · exact wp_pure (h.begun (h.fresh hs))
  · next candidate hcandidate =>
      refine wp_then (h.requested hs) fun request s₁ hs₁ => ?_
      refine wp_then (h.asked_wp h.sent hs₁) fun _ s₂ hs₂ => ?_
      split
      · exact wp_pure (h.asked hs₂)
      · exact h.confirmRedemption_wp hs (.carried hcandidate) hs₂

theorem enrol_wp (hs : N s) : (enrol L J call link).wp (fun _ => I) I s := by
  have hI := h.begun (h.fresh hs)
  refine wp_bind (wp_read (wp_bind (wp_ofExcept (fun invitation hinvitation => ?_) hI)))
  refine wp_then (h.enrolling hs) fun request s₁ hs₁ => ?_
  refine wp_then (h.asked_wp h.sent hs₁) fun _ s₂ hs₂ => ?_
  have hI₂ := h.asked hs₂
  refine wp_bind (wp_ofExcept (fun response hresponse => ?_) hI₂)
  refine wp_bind (wp_require (fun _ => ?_) fun _ => hI₂)
  refine wp_bind (wp_ofExcept (fun bound hbound => ?_) hI₂)
  refine wp_then (h.keepCandidate_wp hs₂) ?_
  rintro _ s₃ ⟨⟨tunnels, rfl⟩, hs₃⟩
  refine wp_then (h.activated hs (.replied hinvitation hresponse hbound) hs₃)
    fun result s₄ hs₄ => ?_
  exact keeps_bind (keeps_when fun _ => h.forgotten) (fun _ => keeps_pure) s₄ hs₄

omit h in
theorem orElse_wp {m : SyncM (Option Redeemed)} {next : SyncM Redeemed} {K : SyncState → Prop}
    (hm : m.wp (fun result s' => I s' ∧ (result = none → K s')) I s)
    (hnext : ∀ {s'}, K s' → next.wp (fun _ => I) I s') : (orElse m next).wp (fun _ => I) I s := by
  refine wp_then hm fun result s₁ hs₁ => ?_
  cases result with
  | some result => exact wp_pure hs₁.1
  | none => exact hnext (hs₁.2 rfl)

theorem redeemBootstrapInvitation_wp (hs : B s) :
    (redeemBootstrapInvitation L J call link).wp (fun _ => I) I s :=
  wp_attempt (orElse_wp (h.resumed hs) fun hs₁ => h.enrol_wp hs₁) (fun _ hs₁ => hs₁)
    fun _ _ hs₁ => wp_pure hs₁

theorem redeemInvitationViaDocument_wp (hs : B s) :
    (redeemInvitationViaDocument L J call link trusted).wp (fun _ => I) I s := by
  unfold redeemInvitationViaDocument
  split
  · exact h.redeemBootstrapInvitation_wp hs
  · refine orElse_wp (h.completed hs) fun hs₁ => wp_bind (wp_read ?_)
    split
    · exact wp_pure (h.begun hs₁)
    · exact orElse_wp (h.resumed hs₁) fun hs₂ => h.redeemThroughDocument_wp hs₂

theorem redeemAt_wp {target : ServerNode} (hs : N s) (ho : Offered L J call s link candidate key) :
    (redeemAt L J call link key candidate target).wp (fun _ => I) I s := by
  refine wp_then (h.requested hs) fun request s₁ hs₁ => ?_
  refine wp_then (h.asked_wp h.sent hs₁) fun _ s₂ hs₂ => ?_
  split
  · exact wp_pure (h.asked hs₂)
  · exact wp_pure (h.asked hs₂)
  · exact h.confirmRedemption_wp hs ho hs₂

theorem redeemOverSsh_wp (hs : N s) :
    (redeemOverSsh L J call link key serverNode).wp (fun _ => I) I s := by
  have hI := h.begun (h.fresh hs)
  refine wp_bind (wp_read ?_)
  split
  · exact wp_pure hI
  · next candidate hcandidate =>
      dsimp only
      split
      · exact h.redeemInvitationViaDocument_wp (h.fresh hs)
      · split
        · exact wp_pure hI
        · split
          · exact wp_pure hI
          · split
            · exact wp_pure hI
            · exact h.redeemAt_wp hs (.carried hcandidate)

theorem redeemInvitation_wp (hs : B s) :
    (redeemInvitation L J call link serverNode trusted).wp (fun _ => I) I s := by
  unfold redeemInvitation
  split
  · exact h.redeemBootstrapInvitation_wp hs
  · refine orElse_wp (h.completed hs) fun hs₁ => wp_bind (wp_read ?_)
    split
    · exact wp_pure (h.begun hs₁)
    · exact orElse_wp (h.resumed hs₁) fun hs₂ => h.redeemOverSsh_wp hs₂

end Stages

end LibreRoute.Sync
