import LibreRoute.Sync.Activation

/-!
A redemption whose reply was lost, and its retry. The request of the first
attempt is kept and sent again as it was signed, so three terms meet when
the answer is there: that of the invitation, that of the request, and that
of the receipt.
-/

namespace LibreRoute.Sync

open Lib Tunnels ServerIssuedInvitation
open Admin (Throwable AdminEnvelope AdminOpResult serverKey1)

section Candidate

variable {L : SyncLibraries} {J : InvitationLibraries} {link key key' : String} {now now' : Int}
  {candidate candidate' : VerifiedInvitationCandidate}

section

variable (h : verifyCandidate L J link key now = .ok candidate)

include h

/-- What a link holds depends neither on the key nor on the clock it is checked with. -/
theorem verifyCandidate_unique
    (h' : verifyCandidate L J link key' now' = .ok candidate') : candidate' = candidate := by
  obtain ⟨e, p, hlink, hpayload, -, rfl⟩ := verifyCandidate_eq_ok_iff.1 h
  obtain ⟨e', p', hlink', hpayload', -, rfl⟩ :=
    verifyCandidate_eq_ok_iff.1 h'
  have hcarried := (openLink_eq_ok_iff.1 hlink).1.decoded
  have hcarried' := (openLink_eq_ok_iff.1 hlink').1.decoded
  rw [hcarried, Except.ok.injEq] at hcarried'
  subst hcarried'
  obtain ⟨r, hr, -, ⟨raw, hraw, hp⟩, -⟩ :=
    (openPayload_eq_ok_iff.1 hpayload).1.decoded
  obtain ⟨r', hr', -, ⟨raw', hraw', hp'⟩, -⟩ :=
    (openPayload_eq_ok_iff.1 hpayload').1.decoded
  rw [hr, Except.ok.injEq] at hr'
  subst hr'
  rw [hraw, Except.ok.injEq] at hraw'
  subst hraw'
  rw [hp, Except.ok.injEq] at hp'
  rw [hp']

theorem verifyCandidate_live :
    now < candidate.expiresAt := by
  obtain ⟨e, p, -, hpayload, -, rfl⟩ := verifyCandidate_eq_ok_iff.1 h
  exact (openPayload_eq_ok_iff.1 hpayload).2.2.1

theorem verifyCandidate_not_bootstrap :
    startsWith link BootstrapInvitation.linkStart = false := by
  obtain ⟨e, p, hlink, -, -, -⟩ := verifyCandidate_eq_ok_iff.1 h
  have hstart := (openLink_eq_ok_iff.1 hlink).1.start
  rw [startsWithIgnoreCase, List.isPrefixOf_iff_prefix] at hstart
  rw [← Bool.not_eq_true, startsWith, List.isPrefixOf_iff_prefix]
  intro hboot
  have hshort : (linkStart.toList.map foldCase).length ≤
      (BootstrapInvitation.linkStart.toList.map foldCase).length := by decide
  have hboth := List.prefix_of_prefix_length_le hstart (hboot.map foldCase) hshort
  exact absurd hboth (by decide)

end

end Candidate

/-! ### The tunnels of the routes -/

section Tunnels

variable {L : SyncLibraries} {moments : Nat → Moment} {moment : Moment} {name : String}
  {route : RouteCandidate} {fs fs' : FileSystem} {t : Tunnel}

/-- Every route becomes a tunnel, and the path its payload may still name for a key is resolved.
The key files are made one after the other. -/
def Prepares (L : SyncLibraries) (moments : Nat → Moment) (name : String) :
    Nat → FileSystem → List RouteCandidate → Prop
  | _, _, [] => True
  | n, fs, route :: routes =>
    ∃ t key, route.tunnel L (moments n).tunnelId name = .ok t ∧
      localKey L.device fs t = .ok key ∧ KeyResolves L.device (withLocalKey L.device t key) ∧
      Prepares L moments name (n + 1) (fs.put (L.device.keyFile t.id) key) routes

theorem prepares_iff {n : Nat} {routes : List RouteCandidate} :
    Prepares L moments name n fs routes ↔
      ∃ tunnels files, (Prog.mapEach (routes.zipIdx n) fun route =>
          routeCandidateToTunnel L (moments route.2) route.1 name).exec fs = (.ok tunnels, files) ∧
        ∀ t ∈ tunnels, KeyResolves L.device t := by
  induction routes generalizing n fs with
  | nil => simp [Prepares, Prog.mapEach]
  | cons route routes ih =>
    simp only [Prepares, ih, List.zipIdx_cons, Prog.mapEach, exec_bind_eq_ok]
    constructor
    · rintro ⟨t, key, htunnel, hkey, hresolves, tunnels, files, hrest, hall⟩
      have hfirst := routeCandidateToTunnel_exec_iff.2 ⟨t, key, htunnel, hkey, rfl, rfl⟩
      exact ⟨withLocalKey L.device t key :: tunnels, files,
        ⟨_, _, hfirst, tunnels, files, hrest, exec_pure _ _⟩,
        List.forall_mem_cons.2 ⟨hresolves, hall⟩⟩
    · rintro ⟨_, _, ⟨t, fs₁, hfirst, tunnels, files, hrest, hpure⟩, hall⟩
      rw [exec_pure, Prod.mk.injEq, Except.ok.injEq] at hpure
      obtain ⟨rfl, rfl⟩ := hpure
      obtain ⟨t₀, key, htunnel, hkey, rfl, rfl⟩ := routeCandidateToTunnel_exec_iff.1 hfirst
      rw [List.forall_mem_cons] at hall
      exact ⟨t₀, key, htunnel, hkey, hall.1, tunnels, files, hrest, hall.2⟩

theorem made_of_routes {n : Nat} {routes : List RouteCandidate} {tunnels : List Tunnel}
    (h : (Prog.mapEach (routes.zipIdx n) fun route =>
      routeCandidateToTunnel L (moments route.2) route.1 name).exec fs = (.ok tunnels, fs'))
    (havailable : ∀ route ∈ routes, route.isAvailable = true) :
    tunnels.filter Tunnel.isAvailable = tunnels ∧ tunnels.length = routes.length := by
  induction routes generalizing n fs tunnels with
  | nil =>
    simp only [List.zipIdx_nil, Prog.mapEach, exec_pure, Prod.mk.injEq, Except.ok.injEq] at h
    simp [← h.1]
  | cons route routes ih =>
    simp only [List.zipIdx_cons, Prog.mapEach, exec_bind_eq_ok, exec_pure,
      Prod.mk.injEq, Except.ok.injEq] at h
    obtain ⟨t, fs₁, hfirst, others, files, hrest, rfl, rfl⟩ := h
    obtain ⟨t₀, key, htunnel, -, rfl, -⟩ := routeCandidateToTunnel_exec_iff.1 hfirst
    rw [List.forall_mem_cons] at havailable
    obtain ⟨hothers, hlength⟩ := ih hrest havailable.2
    have hmade : (withLocalKey L.device t₀ key).isAvailable = true := by
      rw [withLocalKey_isAvailable]
      exact tunnel_isAvailable htunnel havailable.1
    rw [List.filter_cons_of_pos hmade, hothers, List.length_cons, List.length_cons, hlength]
    exact ⟨rfl, rfl⟩

theorem candidateRoutes_isAvailable (candidate : VerifiedInvitationCandidate) :
    ∀ route ∈ candidateRoutes candidate, route.isAvailable = true := by
  have hfallback : (fallbackRoute candidate).isAvailable = true := by
    change TransportType.isAvailableName "" = true
    decide
  unfold candidateRoutes
  split
  · intro route hroute
    exact (List.mem_filter.1 hroute).2
  · simpa using hfallback

end Tunnels

/-- An attempt at a link of which nothing is kept sends a request, and the reply is lost. -/
structure LosesReply (L : SyncLibraries) (J : InvitationLibraries) (call : RedemptionCall)
    (link : String) (trusted : Option String) (candidate : VerifiedInvitationCandidate)
    (s s' : SyncState) : Prop where
  fresh : s.redemptionCheckpoint L link = none
  attempt : ∃ key, (trusted <|> s.pinnedServerKey) = some key ∧
    verifyCandidate L J link key (s.currentTimeMillis / 1000) = .ok candidate ∧
    ∃ e, call.reply candidate.documentUrl candidate.profileId candidate.secretKey
      (redemptionOf L J call.opId call.nonce candidate (s.currentTimeMillis / 1000)) key = .error e
  ended : ((redeemInvitationViaDocument L J call link trusted).exec s).2 = s'

section Attempts

variable {L : SyncLibraries} {J : InvitationLibraries} {call : RedemptionCall}
  {link key : String} {trusted : Option String} {candidate : VerifiedInvitationCandidate}
  {s s' : SyncState} {request receipt : AdminEnvelope}

section

variable (hfresh : s.redemptionCheckpoint L link = none)
  (hkey : (trusted <|> s.pinnedServerKey) = some key)
  (hcandidate : verifyCandidate L J link key (s.currentTimeMillis / 1000) = .ok candidate)
  (hrequest : redemptionOf L J call.opId call.nonce candidate (s.currentTimeMillis / 1000) =
    request)

include hfresh hkey hcandidate hrequest

theorem redeemInvitationViaDocument_sends :
    (redeemInvitationViaDocument L J call link trusted).exec s =
      (match call.reply candidate.documentUrl candidate.profileId candidate.secretKey request
          key with
        | .error e => pure (failed
            ("Не удалось передать подтверждение погашения через документ: " ++
              e.message.getD "null"))
        | .ok receipt => confirmRedemption L J call link key request receipt candidate none).exec
        ((s.keep (sentCheckpoint L link key request) s.files).sent request) := by
  have hcreated : createRedemption L J call.opId call.nonce candidate
      (s.currentTimeMillis / 1000) = .ok request :=
    createRedemption_eq_ok_iff.2 ⟨verifyCandidate_live hcandidate, hrequest.symm⟩
  have hcompleted : (completedRedemption L link).exec s = (.ok none, s) :=
    completedRedemption_exec (by rw [hfresh]; rfl)
  rw [redeemInvitationViaDocument, verifyCandidate_not_bootstrap hcandidate]
  rcases hreply : call.reply candidate.documentUrl candidate.profileId candidate.secretKey request
    key with e | receipt <;>
  simp only [Bool.false_eq_true, if_false, orElse, exec_bind, hcompleted, exec_read,
    hkey, resumeRedemption_exec_none hfresh, redeemThroughDocument, hcandidate,
    requestRedemption_exec hfresh hcreated, sendRedemption, exec_modify, hreply, SyncState.sent]

theorem redeemInvitationViaDocument_lost {e : Throwable}
    (hreply : call.reply candidate.documentUrl candidate.profileId candidate.secretKey request
      key = .error e) :
    ((redeemInvitationViaDocument L J call link trusted).exec s).2 =
      (s.keep (sentCheckpoint L link key request) s.files).sent request := by
  rw [redeemInvitationViaDocument_sends hfresh hkey hcandidate hrequest, hreply, exec_pure]

end

theorem LosesReply.checkpoint (h : LosesReply L J call link trusted candidate s s') :
    ∃ key, s'.redemptionCheckpoint L link = some (sentCheckpoint L link key
      (redemptionOf L J call.opId call.nonce candidate (s.currentTimeMillis / 1000))) := by
  obtain ⟨key, hkey, hcandidate, e, hreply⟩ := h.attempt
  refine ⟨key, ?_⟩
  rw [← h.ended, redeemInvitationViaDocument_lost h.fresh hkey hcandidate rfl hreply]
  exact @SyncState.keep_checkpoint s.files L s link _ rfl

/-! ### The retry -/

structure Confirms (L : SyncLibraries) (J : InvitationLibraries) (key : String)
    (candidate : VerifiedInvitationCandidate) (request receipt : AdminEnvelope) : Prop
    extends Responds L key candidate request receipt where
  response : J.decodeRedeemResponse receipt.payload =
    .ok ⟨request.opId, "verified", candidate.invitationId, candidate.profileId, candidate.revision⟩

/-- An attempt at a time at which the link is still accepted; the server answers the request
while the invitation and its receipt are in force. -/
structure GetsReceipt (L : SyncLibraries) (J : InvitationLibraries) (call : RedemptionCall)
    (link key : String) (trusted : Option String) (candidate : VerifiedInvitationCandidate)
    (request receipt : AdminEnvelope) (s : SyncState) : Prop where
  trusts : (trusted <|> s.pinnedServerKey) = some key
  accepted : verifyCandidate L J link key (s.currentTimeMillis / 1000) = .ok candidate
  reply : call.reply candidate.documentUrl candidate.profileId candidate.secretKey request key =
    .ok receipt
  confirms : Confirms L J key candidate request receipt
  live : call.answeredAt < candidate.expiresAt
  unexpired : call.answeredAt < receipt.exp

/-- The enrolment is stored with the routes of the candidate, and its context manages the tunnels
that are made of them. -/
structure RoutesActive (L : SyncLibraries) (call : RedemptionCall)
    (candidate : VerifiedInvitationCandidate) (key : String) (s s' : SyncState) : Prop where
  enrolled : s'.Holds (s.contextFor L candidate key) (enrolmentOf L candidate key)
  revision : s'.storage.get (.context (s.contextFor L candidate key) .revision) =
    some (.number candidate.revision)
  routes : s'.routes (s.contextFor L candidate key) =
    candidate.routes.filter RouteCandidate.isAvailable
  tunnels : ∃ tunnels files prepared, MakesTunnels L call candidate tunnels s.files files ∧
    Manages L s (s.contextFor L candidate key) tunnels prepared s'

/-- The receipt is accepted and the routes of the candidate are active. -/
def Completes (L : SyncLibraries) (J : InvitationLibraries) (call : RedemptionCall)
    (link key : String) (trusted : Option String) (candidate : VerifiedInvitationCandidate)
    (receipt : AdminEnvelope) (s : SyncState) : Prop :=
  ∃ t s', (redeemInvitationViaDocument L J call link trusted).exec s =
      (.ok (.success "Приглашение успешно подтверждено и погашено на сервере" (some receipt),
        some t), s') ∧ RoutesActive L call candidate key s s'

section Kept

variable {record : ClientRedemptionCheckpoint} {files : FileSystem}
  (hhash : record.invitationHash = L.invitationHash link)
include hhash

theorem SyncState.keep_context (s : SyncState) (c : String) (field : SyncKey) :
    (s.keep record files).storage.get (.context c field) = s.storage.get (.context c field) := by
  rw [SyncState.keep, hhash]
  exact Storage.get_context_put_redemption L s.storage c field _ link

theorem SyncState.keep_contextFor (s : SyncState) :
    (s.keep record files).contextFor L candidate key = s.contextFor L candidate key := by
  have htext : (s.keep record files).text = s.text := by
    funext c field
    rw [SyncState.text, s.keep_context hhash]
    rfl
  have henrolled : (s.keep record files).isEnrolled = s.isEnrolled := by
    funext c
    rw [isEnrolled, htext]
    rfl
  have hindexed : (s.keep record files).storage.get .syncContexts = s.storage.get .syncContexts :=
    Storage.get_syncContexts_put_redemption ..
  rw [contextFor, enrolledContext, syncContexts, hindexed, htext, henrolled]
  rfl

theorem SyncState.keep_others (s : SyncState) (c : String) :
    (s.keep record files).others c = s.others c := by
  rw [SyncState.others, unmanaged, managedTunnelIds, s.keep_context hhash]
  rfl

theorem RoutesActive.keep (h : RoutesActive L call candidate key s s') :
    RoutesActive L call candidate key s (s'.keep record files) where
  enrolled := by
    obtain ⟨hd, hp, hu, hk, hs⟩ := h.enrolled
    constructor <;> simpa [SyncState.text, s'.keep_context hhash] using by assumption
  revision := by rw [s'.keep_context hhash, h.revision]
  routes := by
    rw [SyncState.routes, s'.keep_context hhash]
    exact h.routes
  tunnels := by
    obtain ⟨tunnels, made, prepared, hmade, hmanages⟩ := h.tunnels
    exact ⟨tunnels, made, prepared, hmade, hmanages.stored, hmanages.prepared,
      by rw [s'.keep_context hhash, hmanages.marker]⟩

theorem RoutesActive.of_sent
    (h : RoutesActive L call candidate key ((s.keep record s.files).sent request) s') :
    RoutesActive L call candidate key s s' := by
  have hcontext : ((s.keep record s.files).sent request).contextFor L candidate key =
      s.contextFor L candidate key :=
    show (s.keep record s.files).contextFor L candidate key = _ from s.keep_contextFor hhash
  have hothers : ∀ c, ((s.keep record s.files).sent request).others c = s.others c :=
    show ∀ c, (s.keep record s.files).others c = _ from s.keep_others hhash
  obtain ⟨henrolled, hrevision, hroutes, tunnels, made, prepared, hmade, hstored, hprepared,
    hmarker⟩ := h
  rw [hcontext] at henrolled hrevision hroutes hmarker
  rw [hcontext, hothers] at hstored hprepared
  exact ⟨henrolled, hrevision, hroutes, tunnels, made, prepared, hmade, hstored, hprepared,
    hmarker⟩

end Kept

theorem GetsReceipt.exec {key₀ : String}
    (h : GetsReceipt L J call link key trusted candidate request receipt s)
    (hkept : s.redemptionCheckpoint L link = some (sentCheckpoint L link key₀ request)) :
    (redeemInvitationViaDocument L J call link trusted).exec s =
      (confirmRedemption L J call link key request receipt candidate none).exec
        ((s.keep (sentCheckpoint L link key request) s.files).sent request) := by
  have hcompleted : (completedRedemption L link).exec s = (.ok none, s) :=
    completedRedemption_exec (by rw [hkept]; rfl)
  have hresume : (resumeRedemption L link).exec s = (.ok none, s) := by
    simp [resumeRedemption, orFailure, hcompleted, hkept, sentCheckpoint]
  have hrequest : (requestRedemption L J call link key candidate).exec s =
      (.ok request, s.keep (sentCheckpoint L link key request) s.files) := by
    simp only [requestRedemption, exec_bind, exec_read, hkept, Option.map_some, keptOr,
      exec_pure, saveRedemptionCheckpoint, putEntry_exec]
    rfl
  rw [redeemInvitationViaDocument, verifyCandidate_not_bootstrap h.accepted]
  simp only [Bool.false_eq_true, if_false, orElse, exec_bind, hcompleted, exec_read,
    h.trusts, hresume, redeemThroughDocument, h.accepted, hrequest, sendRedemption,
    exec_modify, h.reply]

theorem activateCheckpoint_exec {record : ClientRedemptionCheckpoint} {message : String}
    {activated : SyncState} {t : Tunnel}
    (h : (activateVerifiedCandidate L candidate record.serverKey receipt record.tunnels).exec s =
      (.ok (.success message (some receipt), some t), activated)) :
    (activateCheckpoint L record candidate receipt).exec s =
      (.ok (.success message (some receipt), some t),
        activated.keep { record with completed := true } activated.files) := by
  simp only [activateCheckpoint, exec_bind, h, AdminOpResult.isSuccess, exec_when, if_true,
    saveRedemptionCheckpoint, putEntry_exec, exec_pure]
  rfl

theorem confirmRedemption_completes (link : String)
    (hverified : verifyRedemptionReceipt L J request receipt candidate key call.answeredAt = true)
    (hroutes : candidateRoutes candidate ≠ [])
    (hprepares : Prepares L call.moments candidate.name 0 s.files (candidateRoutes candidate)) :
    ∃ t s', (confirmRedemption L J call link key request receipt candidate none).exec s =
        (.ok (activated receipt t), s') ∧ (isBlank L.recipient.publicKeyHashHex = false →
          RoutesActive L call candidate key s s') := by
  obtain ⟨tunnels, files, hmade, hkeys⟩ := prepares_iff.1 hprepares
  obtain ⟨hall, hlength⟩ := made_of_routes hmade (candidateRoutes_isAvailable candidate)
  obtain ⟨t, others, htunnels⟩ : ∃ t others, tunnels = t :: others := by
    refine List.exists_cons_of_ne_nil fun hnil => hroutes ?_
    rw [hnil] at hlength
    exact List.length_eq_zero_iff.1 hlength.symm
  have hhash : (receivedCheckpoint L link key request receipt candidate tunnels).invitationHash =
      L.invitationHash link := receivedCheckpoint_hash tunnels
  obtain ⟨s₁, hactivate, hactivated, hmanages⟩ := activateVerifiedCandidate_exec (L := L)
    (s := s.keep (receivedCheckpoint L link key request receipt candidate tunnels) files)
    candidate key receipt (hall.trans htunnels) (by rwa [hall])
  have hactive : isBlank L.recipient.publicKeyHashHex = false →
      RoutesActive L call candidate key s s₁ := by
    intro hdevice
    obtain ⟨prepared, hstored, hprepared, hmarker⟩ :=
      hmanages (enrolledDeviceId_not_blank hdevice candidate)
    have hcontext : (s.keep _ files).contextFor L candidate key = _ := s.keep_contextFor hhash
    rw [hall, hcontext, s.keep_others hhash] at hstored hprepared
    exact ⟨hcontext ▸ hactivated.holds, hcontext ▸ hactivated.revision,
      hcontext ▸ hactivated.routes, tunnels, files, prepared, hmade, hstored, hprepared,
      hcontext ▸ hmarker⟩
  refine ⟨t, s₁.keep { receivedCheckpoint L link key request receipt candidate tunnels with
    completed := true } s₁.files, ?_, fun hdevice => (hactive hdevice).keep rfl⟩
  rw [confirmRedemption, hverified]
  simp only [Bool.not_true, Bool.false_eq_true, if_false, exec_bind, keepCandidate_exec hmade]
  exact activateCheckpoint_exec hactivate

theorem of_confirmRedemption_exec {t : Tunnel}
    (h : (confirmRedemption L J call link key request receipt candidate none).exec s =
      (.ok (activated receipt t), s')) :
    verifyRedemptionReceipt L J request receipt candidate key call.answeredAt = true ∧
      candidateRoutes candidate ≠ [] ∧
      Prepares L call.moments candidate.name 0 s.files (candidateRoutes candidate) := by
  rcases hverified : verifyRedemptionReceipt L J request receipt candidate key call.answeredAt
    with _ | _
  · simp [confirmRedemption, hverified, failed] at h
  simp only [confirmRedemption, hverified, Bool.not_true, Bool.false_eq_true, if_false,
    keepCandidate, activateCheckpoint, exec_bind_eq_ok, exec_pure, Prod.mk.injEq,
    Except.ok.injEq] at h
  obtain ⟨record, s₁, ⟨tunnels, s₂, hprepared, -, -, -, hrecord, -⟩, activated, s₃, hactivate,
    -, -, -, hresult, -⟩ := h
  subst hresult
  subst hrecord
  have hmade : MakesTunnels L call candidate tunnels s.files s₂.files := by
    rw [prepareCandidateTunnels, onFiles_exec, Prod.mk.injEq] at hprepared
    obtain ⟨hok, rfl⟩ := hprepared
    exact Prod.ext hok rfl
  obtain ⟨hall, hlength⟩ := made_of_routes hmade (candidateRoutes_isAvailable candidate)
  rcases tunnels with _ | ⟨t', others⟩
  · simp [activateVerifiedCandidate, failed] at hactivate
  refine ⟨rfl, fun hnil => ?_, prepares_iff.2 ⟨_, _, hmade, ?_⟩⟩
  · rw [hnil] at hlength
    cases hlength
  · by_contra hkeys
    obtain ⟨e, herror⟩ := activateVerifiedCandidate_error hall (by rwa [hall])
    rw [hactivate] at herror
    cases herror

/-- The payload of the request is read as what it was made of. -/
def ReadsBack (L : SyncLibraries) (J : InvitationLibraries)
    (candidate : VerifiedInvitationCandidate) : Prop :=
  J.decodeRedeemRequest (J.encodeRedeemRequest
      ⟨candidate.invitationId, L.recipient.publicKeyBase64, candidate.revision⟩) =
    .ok ⟨candidate.invitationId, L.recipient.publicKeyBase64, candidate.revision⟩

/-- The receipt is accepted while the request is in force, if its own term is not too long. -/
theorem verifyRedemptionReceipt_kept_iff {opId nonce : String} {t₀ : Int}
    (hconfirms : Confirms L J key candidate (redemptionOf L J opId nonce candidate t₀) receipt)
    (hread : ReadsBack L J candidate) (hlive : call.answeredAt < candidate.expiresAt)
    (hunexpired : call.answeredAt < receipt.exp) :
    verifyRedemptionReceipt L J (redemptionOf L J opId nonce candidate t₀) receipt candidate key
        call.answeredAt = true ↔
      call.answeredAt < t₀ + 300 ∧ receipt.exp ≤ call.answeredAt + 24 * 3600 := by
  have hfits : receiptFits L J (redemptionOf L J opId nonce candidate t₀)
      receipt candidate = .ok true := by
    have hpayload : J.decodeRedeemRequest (redemptionOf L J opId nonce candidate t₀).payload =
        .ok ⟨candidate.invitationId, L.recipient.publicKeyBase64, candidate.revision⟩ := hread
    simp [receiptFits, hpayload, hconfirms.response]
  have hexp : (redemptionOf L J opId nonce candidate t₀).exp = min (t₀ + 300) candidate.expiresAt :=
    rfl
  rw [verifyRedemptionReceipt_iff, hexp, Int.lt_min]
  constructor
  · rintro ⟨-, -, -, hrequest, hterm, -⟩
    exact ⟨hrequest.1, hterm.2⟩
  · rintro ⟨hrequest, hterm⟩
    exact ⟨⟨rfl, rfl, rfl, rfl, rfl, rfl⟩,
      hconfirms.toResponds, hfits,
      ⟨hrequest, hlive⟩, ⟨hunexpired, hterm⟩, hlive⟩

/-- The retry completes if the request and the receipt are accepted and the routes can be used. -/
theorem GetsReceipt.completes_iff {opId nonce key₀ : String} {t₀ : Int}
    (hdevice : isBlank L.recipient.publicKeyHashHex = false)
    (h : GetsReceipt L J call link key trusted candidate (redemptionOf L J opId nonce candidate t₀)
      receipt s)
    (hkept : s.redemptionCheckpoint L link =
      some (sentCheckpoint L link key₀ (redemptionOf L J opId nonce candidate t₀)))
    (hread : ReadsBack L J candidate) :
    Completes L J call link key trusted candidate receipt s ↔
      call.answeredAt < t₀ + 300 ∧ receipt.exp ≤ call.answeredAt + 24 * 3600 ∧
        candidateRoutes candidate ≠ [] ∧
        Prepares L call.moments candidate.name 0 s.files (candidateRoutes candidate) := by
  have hverified := verifyRedemptionReceipt_kept_iff h.confirms hread h.live h.unexpired
  rw [Completes, h.exec hkept]
  constructor
  · rintro ⟨t, s', hexec, -⟩
    obtain ⟨haccepted, hroutes, hprepares⟩ := of_confirmRedemption_exec hexec
    obtain ⟨hrequest, hterm⟩ := hverified.1 haccepted
    exact ⟨hrequest, hterm, hroutes, hprepares⟩
  · rintro ⟨hrequest, hterm, hroutes, hprepares⟩
    obtain ⟨t, s', hexec, hactive⟩ := confirmRedemption_completes link
      (s := (s.keep (sentCheckpoint L link key _) s.files).sent _)
      (hverified.2 ⟨hrequest, hterm⟩) hroutes hprepares
    exact ⟨t, s', hexec, (hactive hdevice).of_sent rfl⟩

end Attempts

/-- A redemption whose reply was lost is completed by a retry that is answered within five
minutes of the first attempt. The receipt has a term of at most a day, and one of the routes at
least is of an available protocol. -/
theorem interrupted_redemption_completes_iff (L : SyncLibraries) (J : InvitationLibraries)
    (link key : String) (first call : RedemptionCall) (trusted₀ trusted : Option String)
    (candidate₀ candidate : VerifiedInvitationCandidate) (receipt : AdminEnvelope)
    (s₀ s₁ s : SyncState) (hdevice : isBlank L.recipient.publicKeyHashHex = false)
    (hlost : LosesReply L J first link trusted₀ candidate₀ s₀ s₁)
    (hkept : s.redemptionCheckpoint L link = s₁.redemptionCheckpoint L link)
    (hretry : GetsReceipt L J call link key trusted candidate
      (redemptionOf L J first.opId first.nonce candidate₀ (s₀.currentTimeMillis / 1000)) receipt s)
    (hread : ReadsBack L J candidate) :
    Completes L J call link key trusted candidate receipt s ↔
      call.answeredAt < s₀.currentTimeMillis / 1000 + 300 ∧
        receipt.exp ≤ call.answeredAt + 24 * 3600 ∧ candidateRoutes candidate ≠ [] ∧
        Prepares L call.moments candidate.name 0 s.files (candidateRoutes candidate) := by
  obtain ⟨_, -, haccepted₀, -⟩ := hlost.attempt
  obtain rfl := verifyCandidate_unique haccepted₀ hretry.accepted
  obtain ⟨key₀, hcheckpoint⟩ := hlost.checkpoint
  exact hretry.completes_iff hdevice (hkept.trans hcheckpoint) hread

/-! ### The invitation of the first server, redeemed in two attempts -/

def lostCall : RedemptionCall :=
  { invitedCall with reply := fun _ _ _ _ _ => .error (.platform none) }

def interruptedPhone : SyncState :=
  (invitedPhone.keep (sentCheckpoint invitedSync invitationLink serverKey1 redemption1)
    invitedPhone.files).sent redemption1

def retryingPhone (now : Int) : SyncState :=
  { interruptedPhone with currentTimeMillis := now * 1000 }

def retryCall (receipt : AdminEnvelope) (now : Int) : RedemptionCall :=
  { invitedCall with
    reply := fun _ _ _ _ _ => .ok receipt
    answeredAt := now }

theorem redemption1_eq :
    redemptionOf invitedSync invitedLibraries lostCall.opId lostCall.nonce candidate1
      (invitedPhone.currentTimeMillis / 1000) = redemption1 :=
  (createRedemption_eq_ok_iff.1 createRedemption_invitation1).2.symm

theorem invitedPhone_losesReply :
    LosesReply invitedSync invitedLibraries lostCall invitationLink none candidate1 invitedPhone
      interruptedPhone where
  fresh := rfl
  attempt := ⟨serverKey1, rfl, verifyCandidate_invitation1 (by decide) (by decide),
    .platform none, rfl⟩
  ended := redeemInvitationViaDocument_lost rfl rfl
    (verifyCandidate_invitation1 (by decide) (by decide)) redemption1_eq rfl

theorem candidate1_readsBack : ReadsBack invitedSync invitedLibraries candidate1 := by
  have hencoded : invitedLibraries.encodeRedeemRequest redeemRequest1 = redemptionPayload :=
    eq_of_recordedText redemptionPayload rfl
  have hdecoded : invitedLibraries.decodeRedeemRequest redemptionPayload = .ok redeemRequest1 :=
    eq_ok_of_recorded redemptionPayload rfl
  rw [← hencoded] at hdecoded
  exact hdecoded

theorem retryingPhone_getsReceipt {receipt : AdminEnvelope} {now : Int}
    (hfrom : 1767225600 ≤ now) (hlive : now < 1767226200) (hunexpired : now < receipt.exp)
    (hconfirms : Confirms invitedSync invitedLibraries serverKey1 candidate1 redemption1 receipt) :
    GetsReceipt invitedSync invitedLibraries (retryCall receipt now) invitationLink serverKey1 none
      candidate1 redemption1 receipt (retryingPhone now) where
  trusts := rfl
  accepted := by
    have hnow : (retryingPhone now).currentTimeMillis / 1000 = now :=
      Int.mul_ediv_cancel now (by decide)
    rw [hnow]
    exact verifyCandidate_invitation1 hfrom hlive
  reply := rfl
  confirms := hconfirms
  live := hlive
  unexpired := hunexpired

theorem receipt1_confirms {exp : Int} {nonce signature : String}
    (hverified : invitedSync.platform.verifyServerResponse
      { receipt1 with exp := exp, nonce := nonce, signature := signature } serverKey1
      (some serverKey1) = true) :
    Confirms invitedSync invitedLibraries serverKey1 candidate1 redemption1
      { receipt1 with exp := exp, nonce := nonce, signature := signature } where
  type := ⟨rfl, rfl, rfl, rfl⟩
  profileId := rfl
  rev := rfl
  verified := hverified
  response := eq_ok_of_recorded receiptPayload rfl

/-- The phone tries again after a minute. -/
theorem interrupted_redemption_completes_retryingPhone :
    Completes invitedSync invitedLibraries (retryCall receipt1 1767225660) invitationLink serverKey1
      none candidate1 receipt1 (retryingPhone 1767225660) := by
  have hretry : GetsReceipt invitedSync invitedLibraries (retryCall receipt1 1767225660)
      invitationLink serverKey1 none candidate1 redemption1 receipt1 (retryingPhone 1767225660) :=
    retryingPhone_getsReceipt (by decide) (by decide) (by decide)
      (receipt1_confirms receipt1_verified)
  rw [← redemption1_eq] at hretry
  have hroutes : candidateRoutes candidate1 ≠ [] := by decide
  exact (interrupted_redemption_completes_iff invitedSync invitedLibraries invitationLink serverKey1
    lostCall (retryCall receipt1 1767225660) none none candidate1 candidate1 receipt1 invitedPhone
    interruptedPhone (retryingPhone 1767225660) invitedSync_recipient invitedPhone_losesReply rfl
    hretry
    candidate1_readsBack).2 ⟨by decide, by decide, hroutes,
      prepares_iff.2 ⟨_, _, candidate1_made, fun t _ => phone_keyResolves t⟩⟩

/-- After five minutes the request is too old, though the invitation is in force, and a receipt
that is in force for a year is not accepted. -/
theorem interrupted_redemption_fails :
    LosesReply invitedSync invitedLibraries lostCall invitationLink none candidate1 invitedPhone
        interruptedPhone ∧
      (GetsReceipt invitedSync invitedLibraries (retryCall receipt2 1767225900) invitationLink
          serverKey1 none candidate1 redemption1 receipt2 (retryingPhone 1767225900) ∧
        ¬ Completes invitedSync invitedLibraries (retryCall receipt2 1767225900) invitationLink
          serverKey1 none candidate1 receipt2 (retryingPhone 1767225900)) ∧
      (GetsReceipt invitedSync invitedLibraries (retryCall receipt3 1767225660) invitationLink
          serverKey1 none candidate1 redemption1 receipt3 (retryingPhone 1767225660) ∧
        ¬ Completes invitedSync invitedLibraries (retryCall receipt3 1767225660) invitationLink
          serverKey1 none candidate1 receipt3 (retryingPhone 1767225660)) := by
  have hlate : GetsReceipt invitedSync invitedLibraries (retryCall receipt2 1767225900)
      invitationLink serverKey1 none candidate1 redemption1 receipt2 (retryingPhone 1767225900) :=
    retryingPhone_getsReceipt (by decide) (by decide) (by decide)
      (receipt1_confirms (invited_verified (List.mem_of_getElem? (i := 3) rfl)))
  have hlong : GetsReceipt invitedSync invitedLibraries (retryCall receipt3 1767225660)
      invitationLink serverKey1 none candidate1 redemption1 receipt3 (retryingPhone 1767225660) :=
    retryingPhone_getsReceipt (by decide) (by decide) (by decide)
      (receipt1_confirms (invited_verified (List.mem_of_getElem? (i := 4) rfl)))
  obtain ⟨key₀, hkept⟩ := invitedPhone_losesReply.checkpoint
  refine ⟨invitedPhone_losesReply, ⟨hlate, fun hcompletes => ?_⟩, hlong, fun hcompletes => ?_⟩
  · rw [← redemption1_eq] at hlate
    exact absurd ((hlate.completes_iff invitedSync_recipient hkept candidate1_readsBack).1
      hcompletes).1 (by decide)
  · rw [← redemption1_eq] at hlong
    exact absurd ((hlong.completes_iff invitedSync_recipient hkept candidate1_readsBack).1
      hcompletes).2.1 (by decide)

end LibreRoute.Sync
