import LibreRoute.Sync.CompactRoute
import LibreRoute.Sync.Replay
import LibreRoute.Sync.Retry
import LibreRoute.Sync.Revisions

/-!
Accepting a link on the screen of the administrator. The repository stores
what the link brings, and gives a tunnel another id where the id it has is
taken. The screen then stores the first of these tunnels once more, as it
was before, and removes what has its id.
-/

namespace LibreRoute.Sync

open Lib Tunnels SyncState DirectDpiProfile Lib.Keeping BootstrapInvitation
open Admin (Throwable AdminEnvelope AdminOpResult ServerNode serverKey1)
open ServerIssuedInvitation (verifyCandidate verifyRedemptionReceipt redemptionOf)
open Tunnel (isAvailable)

section Screen

variable (L : SyncLibraries) (J : InvitationLibraries) (K : CompactLibraries)
  (call : RedemptionCall)

/-- `redeemInvitation(invitationLink, serverNode)`. -/
def redeemLink (link : String) (serverNode : Option ServerNode) : SyncM Redeemed :=
  if startsWith link CompactRoute.linkStart then importCompactRoute L K call link
  else if startsWith link linkStart then
    redeemBootstrapInvitation L J call link
  else do
    let pinned ← Prog.read SyncState.pinnedServerKey
    redeemInvitationViaDocument L J call link
      ((serverNode.bind fun node => call.getPinnedServerPublicKey node.id) <|> pinned)

def redeemClientInvitation (link : String) (selectedServerNode : Option ServerNode) :
    SyncM AdminOpResult := do
  let (result, tunnel) ← redeemLink L J K call link selectedServerNode
  match result, tunnel with
  | .success _ _, some tunnel => do
      let current ← onStore TunnelStore.load
      onStore (TunnelStore.save (current.filter (·.id != tunnel.id) ++ [tunnel]))
      pure result
  | _, _ => pure result

end Screen

/-! ### What a link brings -/

/-- The tunnels a link brings and the context they go to, if there is one. -/
structure Incoming where
  context : Option String
  tunnels : List Tunnel

namespace Incoming

/-- The stored tunnels that the context does not manage. -/
def others (i : Incoming) (s : SyncState) : List Tunnel :=
  (connections s.store.stored).filter fun t =>
    i.context.all fun c => ! (s.managedTunnelIds c).contains t.id

/-- None of them has the id of the first tunnel, unless it is this tunnel. -/
def FirstFree (i : Incoming) (s : SyncState) : Prop :=
  ∀ t ∈ i.tunnels.head?, ∀ u ∈ i.others s, u.id = t.id → u = t

/-- One that equals another incoming tunnel, once this has the id it is given, has its key file:
it is replaced by itself. -/
def RestSettled (L : SyncLibraries) (i : Incoming) (s : SyncState) : Prop :=
  ∀ c ∈ i.context, ∀ u ∈ i.others s, (∀ t ∈ i.tunnels.head?, u.id ≠ t.id) →
    u ∈ givens L c (s.others c) i.tunnels → IsPrepared L.device u

/-- The tunnels are given distinct ids, and none is a local connection. -/
structure Regular (L : SyncLibraries) (i : Incoming) (s : SyncState) : Prop where
  apart : ∀ c ∈ i.context, ((givens L c (s.others c) i.tunnels).map (·.id)).Nodup
  remote : ∀ t ∈ i.tunnels, DirectDpiProfile.isDirect t = false

/-- They are stored afterwards as they were. -/
def LeavesOthers (i : Incoming) (s s' : SyncState) : Prop :=
  ∀ u ∈ i.others s, u ∈ s'.store.stored

end Incoming

section Incoming

variable (L : SyncLibraries) (J : InvitationLibraries) (K : CompactLibraries)
  (call : RedemptionCall) (link : String)

def SyncState.isRedeemed (s : SyncState) : Bool :=
  (s.redemptionCheckpoint L link).any fun record => record.completed && record.receipt.isSome

def SyncState.unfinished (s : SyncState) :
    Option (ClientRedemptionCheckpoint × VerifiedInvitationCandidate × AdminEnvelope) :=
  (s.redemptionCheckpoint L link).bind fun record =>
    record.candidate.bind fun candidate => record.receipt.map fun receipt =>
      (record, candidate, receipt)

def enrolmentRequest (invitation : BootstrapInvitation) (s : SyncState) :
    Except Throwable AdminEnvelope :=
  match (s.redemptionCheckpoint L link).map (·.request) <|>
      (s.storage.get (.pendingEnrollment invitation.enrollmentId)).bind Entry.asEnvelope with
  | some request => .ok request
  | none => invitation.createRequest L call.opId call.nonce

/-- The candidate of a new redemption, with the key it is trusted by. -/
def offeredCandidate (serverNode : Option ServerNode) (s : SyncState) :
    Except Throwable (VerifiedInvitationCandidate × String) :=
  if startsWith link linkStart then do
    let invitation ← parse L J link (s.currentTimeMillis / 1000)
    let request ← enrolmentRequest L call link invitation s
    let response ← call.reply invitation.documentUrl invitation.profileId "" request
      invitation.serverPublicKey
    let candidate ← boundCandidate L J call invitation response
    pure (candidate, invitation.serverPublicKey)
  else
    match (serverNode.bind fun node => call.getPinnedServerPublicKey node.id) <|>
        s.pinnedServerKey with
    | none => .error (.platform none)
    | some key => do
        let candidate ← verifyCandidate L J link key (s.currentTimeMillis / 1000)
        pure (candidate, key)

def invited (serverNode : Option ServerNode) (s : SyncState) : Option Incoming :=
  match s.unfinished L link with
  | some (record, candidate, _) =>
    some ⟨s.contextFor L candidate record.serverKey, record.tunnels.filter isAvailable⟩
  | none =>
    match offeredCandidate L J call link serverNode s with
    | .error _ => none
    | .ok (candidate, key) =>
      match ((prepareCandidateTunnels L call candidate).exec s).1 with
      | .error _ => none
      | .ok tunnels =>
        some ⟨s.contextFor L candidate key, tunnels.filter isAvailable⟩

/-- What a link brings; one that was redeemed brings nothing. -/
def incoming (serverNode : Option ServerNode) (s : SyncState) : Option Incoming :=
  if startsWith link CompactRoute.linkStart then
    match readCompactRoute L K call link (s.currentTimeMillis / 1000) with
    | .error _ => none
    | .ok (candidate, _, L') =>
      match ((routeCandidateToTunnel L' (call.moments 0) candidate.route "").exec s.files).1 with
      | .error _ => none
      | .ok tunnel => some ⟨none, [tunnel]⟩
  else if s.isRedeemed L link then none
  else invited L J call link serverNode s

end Incoming

/-! ### The context of a candidate -/

def SyncState.indexedContexts (s : SyncState) : List String :=
  ((s.storage.get .syncContexts).bind Entry.asContexts).getD []

/-- What the choice of a context and of the ids depends on. -/
def SyncState.enrolments (L : SyncLibraries) (s : SyncState) :
    ({c // IsContext L c} → SyncKey → Option Entry) × Option Entry × TunnelStore :=
  (fun c => s.entries c, s.storage.get .syncContexts, s.store)

variable {record : ClientRedemptionCheckpoint}

section Enrolments

variable {L : SyncLibraries} {s s' : SyncState} {c : String}

section

variable (h : s'.enrolments L = s.enrolments L)

include h

theorem entries_of_enrolments (hc : IsContext L c) (key : SyncKey) :
    s'.storage.get (.context c key) = s.storage.get (.context c key) :=
  congrFun (congrFun (congrArg Prod.fst h) ⟨c, hc⟩) key

theorem text_of_enrolments (hc : IsContext L c) (key : SyncKey) :
    s'.text c key = s.text c key := by
  rw [text, entries_of_enrolments h hc]
  rfl

theorem store_of_enrolments : s'.store = s.store :=
  congrArg (fun v => v.2.2) h

theorem indexedContexts_of_enrolments :
    s'.indexedContexts = s.indexedContexts :=
  congrArg (fun v => (v.2.1.bind Entry.asContexts).getD []) h

theorem others_of_enrolments (hc : IsContext L c) :
    s'.others c = s.others c := by
  rw [SyncState.others, unmanaged, store_of_enrolments h, managedTunnelIds,
    entries_of_enrolments h hc]
  rfl

end

theorem isContext_of_mem_syncContexts (hs : ∀ c ∈ s.indexedContexts, IsContext L c)
    (h : c ∈ s.syncContexts) : IsContext L c := by
  rw [syncContexts, List.mem_filter, List.mem_eraseDups, List.mem_append] at h
  rcases h.1 with h | h
  · exact hs c h
  · split at h
    · exact Or.inl (List.mem_singleton.1 h)
    · cases h

theorem syncContexts_of_enrolments (h : s'.enrolments L = s.enrolments L)
    (hs : ∀ c ∈ s.indexedContexts, IsContext L c) : s'.syncContexts = s.syncContexts := by
  have hindexed : s'.storage.get .syncContexts = s.storage.get .syncContexts :=
    congrArg (fun v => v.2.1) h
  have henrolled : ∀ c, IsContext L c → s'.isEnrolled c = s.isEnrolled c := by
    intro c hc
    rw [isEnrolled, text_of_enrolments h hc]
    rfl
  rw [syncContexts, syncContexts, hindexed, henrolled "" (Or.inl rfl)]
  refine List.filter_congr fun c hc => henrolled c ?_
  rw [List.mem_eraseDups, List.mem_append] at hc
  rcases hc with hc | hc
  · exact hs c hc
  · split at hc
    · exact Or.inl (List.mem_singleton.1 hc)
    · cases hc

theorem contextFor_isContext (hs : ∀ c ∈ s.indexedContexts, IsContext L c)
    (candidate : VerifiedInvitationCandidate) (key : String) :
    IsContext L (s.contextFor L candidate key) := by
  rw [contextFor, enrolledContext]
  split
  · next hfound => exact isContext_of_mem_syncContexts hs (List.mem_of_find?_eq_some hfound)
  · exact Or.inr ⟨_, _, _, rfl⟩

theorem contextFor_of_enrolments (h : s'.enrolments L = s.enrolments L)
    (hs : ∀ c ∈ s.indexedContexts, IsContext L c) (candidate : VerifiedInvitationCandidate)
    (key : String) : s'.contextFor L candidate key = s.contextFor L candidate key := by
  have hfind : ∀ {p q : String → Bool} {l : List String}, (∀ c ∈ l, p c = q c) →
      l.find? p = l.find? q := by
    intro p q l hl
    induction l with
    | nil => rfl
    | cons c l ih =>
      rw [List.forall_mem_cons] at hl
      rw [List.find?_cons, List.find?_cons, hl.1, ih hl.2]
  rw [contextFor, contextFor, enrolledContext,
    enrolledContext, syncContexts_of_enrolments h hs, hfind fun c hc => ?_]
  have hc' := isContext_of_mem_syncContexts hs hc
  rw [text_of_enrolments h hc', text_of_enrolments h hc', text_of_enrolments h hc']

/-- `I` speaks about the enrolments and the key files only. -/
class OfEnrolments (L : outParam SyncLibraries) (I : SyncState → Prop) : Prop where
  congr : ∀ {s s'}, I s → s'.enrolments L = s.enrolments L → s'.files = s.files → I s'

/-- What decides what the link brings and where that goes. -/
def SyncState.setting (L : SyncLibraries) (s : SyncState) := (s.enrolments L, s.files)

instance {b : _ × _} : OfEnrolments L fun s => s.enrolments L = b := ⟨fun hs h _ => h.trans hs⟩

instance {b : _ × _} : OfEnrolments L fun s => s.setting L = b :=
  ⟨fun hs h hfiles => (Prod.ext h hfiles).trans hs⟩

variable {I : SyncState → Prop} [hI : OfEnrolments L I]

theorem OfEnrolments.overlooks {address : Address}
    (hcontext : ∀ c key, IsContext L c → (Address.context c key).text ≠ address.text)
    (hindex : Address.syncContexts.text ≠ address.text) : Overlooks I address where
  put value s hs := hI.congr hs (Prod.ext
    (funext fun c => funext fun key => Storage.get_put_of_ne s.storage value (hcontext c key c.2))
    (Prod.ext (Storage.get_put_of_ne s.storage value hindex) rfl)) rfl

instance {hash : String} : Overlooks I (.redemption hash) :=
  OfEnrolments.overlooks (fun _ key hc => hc.text_ne_redemption key _)
    (Address.text_redemption_ne (by decide) _).symm

instance {id : String} : Overlooks I (.pendingEnrollment id) := by
  refine OfEnrolments.overlooks (fun _ key hc => hc.text_ne_pendingEnrollment key _) fun h => ?_
  have hlist : "client_sync_contexts".toList = "pending_enrollment_".toList ++ id.toList := by
    rw [← String.toList_append]
    exact congrArg String.toList h
  have hhead := congrArg List.head? hlist
  rw [List.head?_append_of_ne_nil _ (by decide)] at hhead
  exact absurd hhead (by decide)

instance {request : AdminEnvelope} : Lib.Keeping I (sendRedemption request) :=
  ⟨keeps_modify fun _ hs => hI.congr hs rfl rfl⟩

omit hI in
theorem onFiles_leaves_enrolments {α : Type} {m : Prog Throwable FileSystem α} :
    (onFiles m).Leaves (enrolments L) := by
  intro b
  have hfiles : ∀ files, Maintains (fun s : SyncState => s.enrolments L = b)
      fun s => { s with files := files } := fun _ => ⟨fun _ hs => hs⟩
  unfold onFiles
  exact keeps

end Enrolments

/-! ### What the repository stores -/

/-- The tunnels of a context are replaced, and the first of the new ones is handed out. -/
def Replaces (L : SyncLibraries) (s : SyncState) (c : String) (incoming : List Tunnel)
    (tunnel : Option Tunnel) (s' : SyncState) : Prop :=
  ∃ t rest prepared, incoming = t :: rest ∧ tunnel = some t ∧
    s'.store.stored = remaining L c (s.others c) incoming ++ prepared ∧
    Prepared L.device (givens L c (s.others c) incoming) prepared

/-- The tunnels that are made for a candidate replace those of its context. -/
def Accepts (L : SyncLibraries) (call : RedemptionCall) (s : SyncState)
    (candidate : VerifiedInvitationCandidate) (key : String) (tunnel : Option Tunnel)
    (s' : SyncState) : Prop :=
  ∃ tunnels, ((prepareCandidateTunnels L call candidate).exec s).1 = .ok tunnels ∧
    Replaces L s (s.contextFor L candidate key) (tunnels.filter isAvailable) tunnel s'

section Stored

variable {L : SyncLibraries} {J : InvitationLibraries} {call : RedemptionCall} {link : String}
  {s s' s₀ : SyncState} {message : String} {envelope : Option AdminEnvelope}
  {tunnel : Option Tunnel} {candidate : VerifiedInvitationCandidate} {key : String}
  {receipt : AdminEnvelope}

theorem activateVerifiedCandidate_replaces {tunnels : List Tunnel}
    (hdevice : isBlank (enrolledDeviceId L candidate) = false)
    (h : (activateVerifiedCandidate L candidate key receipt tunnels).exec s =
      (.ok (.success message envelope, tunnel), s')) :
    Replaces L s (s.contextFor L candidate key) (tunnels.filter isAvailable) tunnel s' := by
  rcases havailable : tunnels.filter isAvailable with _ | ⟨t, rest⟩
  · simp [activateVerifiedCandidate, havailable, failed] at h
  have hkeys : ∀ u ∈ tunnels.filter isAvailable, KeyResolves L.device u := by
    by_contra hkeys
    obtain ⟨e, herror⟩ := activateVerifiedCandidate_error havailable hkeys
    rw [h] at herror
    cases herror
  obtain ⟨s₁, hexec, -, hmanages⟩ :=
    activateVerifiedCandidate_exec candidate key receipt havailable hkeys
  rw [hexec, Prod.mk.injEq, Except.ok.injEq, Prod.mk.injEq] at h
  obtain ⟨⟨-, rfl⟩, rfl⟩ := h
  obtain ⟨prepared, hmanages⟩ := hmanages hdevice
  rw [← havailable]
  exact ⟨t, rest, prepared, havailable, rfl, hmanages.stored, hmanages.prepared⟩

theorem Replaces.congr {incoming : List Tunnel} (hs₀ : ∀ c ∈ s₀.indexedContexts, IsContext L c)
    (hsame : s.enrolments L = s₀.enrolments L)
    (h : Replaces L s (s.contextFor L candidate key) incoming tunnel s') :
    Replaces L s₀ (s₀.contextFor L candidate key) incoming tunnel s' := by
  rwa [contextFor_of_enrolments hsame hs₀, Replaces,
    others_of_enrolments hsame (contextFor_isContext hs₀ candidate key)] at h

theorem activateCheckpoint_replaces (hdevice : isBlank (enrolledDeviceId L candidate) = false)
    (h : (activateCheckpoint L record candidate receipt).exec s =
      (.ok (.success message envelope, tunnel), s')) :
    Replaces L s (s.contextFor L candidate record.serverKey)
      (record.tunnels.filter isAvailable) tunnel s' := by
  simp only [activateCheckpoint, exec_bind_eq_ok, exec_pure, Prod.mk.injEq, Except.ok.injEq] at h
  obtain ⟨_, s₁, hactivate, _, s₂, hsave, rfl, rfl⟩ := h
  have hstore : s₂.store = s₁.store := store_of_enrolments (L := L) (leaves.of_exec hsave)
  obtain ⟨t, rest, prepared, hincoming, htunnel, hstored, hprepared⟩ :=
    activateVerifiedCandidate_replaces hdevice hactivate
  exact ⟨t, rest, prepared, hincoming, htunnel, by rw [hstore, hstored], hprepared⟩

/-! ### What was kept -/

theorem completedRedemption_of_not_redeemed (h : s.isRedeemed L link = false) :
    (completedRedemption L link).exec s = (.ok none, s) := by
  rcases hrecord : s.redemptionCheckpoint L link with _ | record
  · exact completedRedemption_exec (by rw [hrecord]; rfl)
  · rcases hcompleted : record.completed
    · exact completedRedemption_exec (by rw [hrecord]; simp [hcompleted])
    · rcases hreceipt : record.receipt with _ | receipt
      · have hfilter : (s.redemptionCheckpoint L link).filter (·.completed) = some record := by
          rw [hrecord]
          exact Option.filter_some_pos hcompleted
        simp [completedRedemption, orFailure, hfilter, hreceipt]
      · simp [isRedeemed, hrecord, hcompleted, hreceipt] at h

theorem completedRedemption_of_redeemed (h : s.isRedeemed L link = true) :
    ∃ result s', (completedRedemption L link).exec s = (.ok (some result), s') ∧
      (result.1.isSuccess = true → s'.store.stored = connections s.store.stored ∧
        ∀ t ∈ result.2, t ∈ connections s.store.stored) := by
  rcases hrecord : s.redemptionCheckpoint L link with _ | record
  · simp [isRedeemed, hrecord] at h
  rcases hreceipt : record.receipt with _ | receipt
  · simp [isRedeemed, hrecord, hreceipt] at h
  have hcompleted : record.completed = true := by
    simpa [isRedeemed, hrecord, hreceipt] using h
  have hfilter : (s.redemptionCheckpoint L link).filter (·.completed) = some record := by
    rw [hrecord]
    exact Option.filter_some_pos hcompleted
  simp only [completedRedemption, orFailure, exec_attempt, exec_bind, exec_read,
    hfilter, hreceipt, exec_require]
  rcases L.platform.verifyServerResponse receipt record.serverKey record.serverKey
  · exact ⟨_, s, rfl, fun hsuccess => by cases hsuccess⟩
  · simp only [onStore_exec, TunnelStore.load_exec, exec_pure, if_true]
    refine ⟨_, _, rfl, fun _ => ⟨rfl, fun t ht => ?_⟩⟩
    exact (List.mem_filter.1 (List.mem_of_mem_head? ht)).1

theorem resumeRedemption_of_nothing (h : s.isRedeemed L link = false)
    (hnothing : s.unfinished L link = none) : (resumeRedemption L link).exec s = (.ok none, s) := by
  simp only [resumeRedemption, orFailure, exec_attempt, exec_bind,
    completedRedemption_of_not_redeemed h, exec_read]
  rcases hrecord : s.redemptionCheckpoint L link with _ | record
  · rfl
  · rcases hcandidate : record.candidate with _ | candidate
    · simp [hcandidate]
    · rcases hreceipt : record.receipt with _ | receipt
      · simp [hcandidate, hreceipt]
      · simp [unfinished, hrecord, hcandidate, hreceipt] at hnothing

theorem resumeRedemption_of_unfinished (h : s.isRedeemed L link = false)
    (hkept : s.unfinished L link = some (record, candidate, receipt)) :
    ∃ result s', (resumeRedemption L link).exec s = (.ok (some result), s') ∧
      (result.1.isSuccess = true →
        (activateCheckpoint L record candidate receipt).exec s = (.ok result, s')) := by
  have hrecord : s.redemptionCheckpoint L link = some record ∧
      record.candidate = some candidate ∧ record.receipt = some receipt := by
    simp only [unfinished, Option.bind_eq_some_iff, Option.map_eq_some_iff, Prod.mk.injEq] at hkept
    obtain ⟨_, hrecord, _, hcandidate, _, hreceipt, rfl, rfl, rfl⟩ := hkept
    exact ⟨hrecord, hcandidate, hreceipt⟩
  simp only [resumeRedemption, orFailure, exec_attempt, exec_bind,
    completedRedemption_of_not_redeemed h, exec_read, hrecord.1, hrecord.2.1, hrecord.2.2,
    exec_require]
  rcases keptReceiptFits L record receipt
  · exact ⟨_, s, rfl, fun hsuccess => by cases hsuccess⟩
  · rcases hactivate : (activateCheckpoint L record candidate receipt).exec s with ⟨e | result, s₁⟩
    · simp only [if_true, hactivate, exec_pure]
      exact ⟨_, s₁, rfl, fun hsuccess => by cases hsuccess⟩
    · simp only [if_true, hactivate, exec_pure]
      exact ⟨result, s₁, rfl, fun _ => rfl⟩

/-! ### A new redemption -/

theorem Accepts.congr (hs₀ : ∀ c ∈ s₀.indexedContexts, IsContext L c)
    (hsame : s.setting L = s₀.setting L)
    (h : Accepts L call s candidate key tunnel s') : Accepts L call s₀ candidate key tunnel s' := by
  obtain ⟨tunnels, hprepare, hreplaces⟩ := h
  rw [setting, setting, Prod.mk.injEq] at hsame
  refine ⟨tunnels, ?_, hreplaces.congr hs₀ hsame.1⟩
  rw [prepareCandidateTunnels, onFiles_exec] at hprepare ⊢
  rwa [← hsame.2]

variable (hs : ∀ c ∈ s.indexedContexts, IsContext L c)
  (hdevice : ∀ candidate, isBlank (enrolledDeviceId L candidate) = false)
include hs hdevice

theorem keepCandidate_replaces {request : AdminEnvelope}
    (h : (keepCandidate L call link key request receipt candidate >>= fun record =>
        activateCheckpoint L record candidate receipt).exec s =
      (.ok (.success message envelope, tunnel), s')) :
    Accepts L call s candidate key tunnel s' := by
  simp only [keepCandidate, exec_bind_eq_ok, exec_pure, Prod.mk.injEq, Except.ok.injEq] at h
  obtain ⟨record, _, ⟨tunnels, s₁, hprepare, _, s₂, hsave, rfl, rfl⟩, hactivate⟩ := h
  have hsame : s₂.enrolments L = s.enrolments L :=
    (leaves.of_exec hsave).trans (onFiles_leaves_enrolments.of_exec hprepare)
  exact ⟨tunnels, by rw [hprepare],
    (activateCheckpoint_replaces (hdevice candidate) hactivate).congr hs hsame⟩

theorem redeemThroughDocument_replaces
    (h : (redeemThroughDocument L J call link key).exec s =
      (.ok (.success message envelope, tunnel), s')) :
    ∃ candidate, verifyCandidate L J link key (s.currentTimeMillis / 1000) = .ok candidate ∧
      Accepts L call s candidate key tunnel s' := by
  simp only [redeemThroughDocument, exec_bind, exec_read] at h
  split at h
  · simp [invitationRejected, failed] at h
  · next candidate hcandidate =>
      simp only [exec_bind_eq_ok] at h
      obtain ⟨request, s₁, hrequest, _, s₂, hsend, hrest⟩ := h
      have hsame : s₂.setting L = s.setting L :=
        (leaves.of_exec hsend).trans (leaves.of_exec hrequest)
      have hs₂ : ∀ c ∈ s₂.indexedContexts, IsContext L c := by
        rwa [indexedContexts_of_enrolments (congrArg Prod.fst hsame)]
      split at hrest
      · simp [failed] at hrest
      · rw [confirmRedemption] at hrest
        split at hrest
        · simp [failed] at hrest
        · exact ⟨candidate, hcandidate, (keepCandidate_replaces hs₂ hdevice hrest).congr hs hsame⟩

omit hs hdevice in
theorem requestEnrollment_exec {invitation : BootstrapInvitation} {request : AdminEnvelope}
    (h : (requestEnrollment L call link invitation).exec s = (.ok request, s')) :
    enrolmentRequest L call link invitation s = .ok request ∧ s'.setting L = s.setting L := by
  simp only [requestEnrollment, exec_bind_eq_ok, exec_read, exec_pure,
    Prod.mk.injEq, Except.ok.injEq] at h
  obtain ⟨_, _, ⟨rfl, rfl⟩, _, _, ⟨rfl, rfl⟩, request', s₁, hkept, _, _, hsaved, rfl, rfl⟩ := h
  rw [(leaves (f := setting L)).of_exec hsaved, enrolmentRequest]
  cases hfound : (s.redemptionCheckpoint L link).map (·.request) <|>
      (s.storage.get (.pendingEnrollment invitation.enrollmentId)).bind Entry.asEnvelope with
  | some kept =>
    rw [hfound, keptOr, exec_pure, Prod.mk.injEq, Except.ok.injEq] at hkept
    obtain ⟨rfl, rfl⟩ := hkept
    exact ⟨rfl, rfl⟩
  | none =>
    rw [hfound] at hkept
    simp only [keptOr, exec_bind_eq_ok, exec_ofExcept, exec_pure, Prod.mk.injEq,
      Except.ok.injEq] at hkept
    obtain ⟨_, _, ⟨hcreated, rfl⟩, _, _, hpending, rfl, rfl⟩ := hkept
    exact ⟨hcreated, leaves.of_exec hpending⟩

theorem enrol_replaces
    (h : (enrol L J call link).exec s = (.ok (.success message envelope, tunnel), s')) :
    ∃ invitation request response candidate,
      parse L J link (s.currentTimeMillis / 1000) = .ok invitation ∧
      enrolmentRequest L call link invitation s = .ok request ∧
      call.reply invitation.documentUrl invitation.profileId "" request
        invitation.serverPublicKey = .ok response ∧
      boundCandidate L J call invitation response = .ok candidate ∧
      Accepts L call s candidate invitation.serverPublicKey tunnel s' := by
  simp only [enrol, exec_bind_eq_ok, exec_read, exec_ofExcept, exec_pure,
    Prod.mk.injEq, Except.ok.injEq] at h
  obtain ⟨_, _, ⟨rfl, rfl⟩, invitation, _, ⟨hparse, rfl⟩, request, s₁, hrequest, _, s₂, hsend,
    response, _, ⟨hreply, rfl⟩, _, s₃, hrequire, candidate, _, ⟨hbound, rfl⟩, record, s₄, hkeep,
    _, s₅, hactivate, _, s₆, hput, rfl, rfl⟩ := h
  obtain ⟨hown, hrequested⟩ := requestEnrollment_exec hrequest
  have hsame : s₃.setting L = s.setting L := ((leaves.of_exec hrequire).trans
    (leaves.of_exec hsend)).trans hrequested
  have hs₃ : ∀ c ∈ s₃.indexedContexts, IsContext L c := by
    rwa [indexedContexts_of_enrolments (congrArg Prod.fst hsame)]
  obtain ⟨tunnels, hprepare, t, rest, prepared, hincoming, htunnel, hstored, hprepared⟩ :=
    (keepCandidate_replaces hs₃ hdevice
      (exec_bind_eq_ok.2 ⟨record, s₄, hkeep, hactivate⟩)).congr hs hsame
  have hstore : s₆.store = s₅.store := store_of_enrolments (L := L) (leaves.of_exec hput)
  exact ⟨invitation, request, response, candidate, hparse, hown, hreply, hbound, tunnels, hprepare,
    t, rest, prepared, hincoming, htunnel, by rw [hstore, hstored], hprepared⟩

end Stored

/-! ### What is stored in the end -/

def Incoming.Stored (L : SyncLibraries) (i : Incoming) (s : SyncState) (tunnel : Option Tunnel)
    (s' : SyncState) : Prop :=
  match i.context with
  | none => ∃ t, i.tunnels = [t] ∧ tunnel = some t ∧
      s'.store.stored = (connections s.store.stored).filter (·.id != t.id) ++ [t]
  | some c => Replaces L s c i.tunnels tunnel s'

/-- What the screen leaves of the stored tunnels. -/
def screened (t : Tunnel) (stored : List Tunnel) : List Tunnel :=
  ((connections stored).filter (·.id != t.id) ++ [t]).filter isAvailable

section Accepting

variable {L : SyncLibraries} {J : InvitationLibraries} {K : CompactLibraries}
  {call : RedemptionCall} {link : String} {node : Option ServerNode} {s s' : SyncState}
  {message : String} {envelope : Option AdminEnvelope} {tunnel : Option Tunnel}
  (hs : ∀ c ∈ s.indexedContexts, IsContext L c)
  (hdevice : ∀ candidate, isBlank (enrolledDeviceId L candidate) = false)
include hs hdevice

omit hs in
theorem resume_stored {next : SyncM Redeemed} (hredeemed : s.isRedeemed L link = false)
    (hnext : next.exec s = (.ok (.success message envelope, tunnel), s') →
      ∃ candidate key, offeredCandidate L J call link node s = .ok (candidate, key) ∧
        Accepts L call s candidate key tunnel s')
    (h : (orElse (resumeRedemption L link) next).exec s =
      (.ok (.success message envelope, tunnel), s')) :
    ∃ i, invited L J call link node s = some i ∧ i.Stored L s tunnel s' := by
  rcases hkept : s.unfinished L link with _ | ⟨record, candidate, receipt⟩
  · rw [orElse, exec_bind, resumeRedemption_of_nothing hredeemed hkept] at h
    obtain ⟨candidate, key, hoffered, tunnels, hprepare, hreplaces⟩ := hnext h
    refine ⟨⟨s.contextFor L candidate key, tunnels.filter isAvailable⟩, ?_, hreplaces⟩
    simp only [invited, hkept, hoffered, hprepare]
  · obtain ⟨result, s₁, hresume, hactivate⟩ := resumeRedemption_of_unfinished hredeemed hkept
    simp only [orElse, exec_bind, hresume, exec_pure, Prod.mk.injEq, Except.ok.injEq] at h
    obtain ⟨rfl, rfl⟩ := h
    have hreplaces := activateCheckpoint_replaces (hdevice candidate) (hactivate rfl)
    refine ⟨⟨s.contextFor L candidate record.serverKey,
      record.tunnels.filter isAvailable⟩, ?_, hreplaces⟩
    simp only [invited, hkept]

omit hs hdevice in
theorem redeemed_stored {next : SyncM Redeemed} {m : SyncM (Option Redeemed)}
    (hredeemed : s.isRedeemed L link = true)
    (hm : ∀ result s₁, (completedRedemption L link).exec s = (.ok (some result), s₁) →
      m.exec s = (.ok (some result), s₁))
    (h : (orElse m next).exec s = (.ok (.success message envelope, tunnel), s')) :
    s'.store.stored = connections s.store.stored ∧
      ∀ t ∈ tunnel, t ∈ connections s.store.stored := by
  obtain ⟨result, s₁, hcompleted, hstored⟩ := completedRedemption_of_redeemed hredeemed
  simp only [orElse, exec_bind, hm result s₁ hcompleted, exec_pure, Prod.mk.injEq,
    Except.ok.injEq] at h
  obtain ⟨rfl, rfl⟩ := h
  exact hstored rfl

theorem redeemLink_stored
    (h : (redeemLink L J K call link node).exec s = (.ok (.success message envelope, tunnel), s')) :
    match incoming L J K call link node s with
    | none => s'.store.stored = connections s.store.stored ∧
        ∀ t ∈ tunnel, t ∈ connections s.store.stored
    | some i => i.Stored L s tunnel s' := by
  unfold redeemLink at h
  unfold incoming
  by_cases hcompact : startsWith link CompactRoute.linkStart = true
  · rw [if_pos hcompact] at h ⊢
    obtain ⟨candidate, binding, L', t, hread, hmade, htunnel, hstored⟩ :=
      importCompactRoute_stored h
    simp only [hread, hmade]
    exact ⟨t, rfl, htunnel, hstored⟩
  rw [if_neg hcompact] at h ⊢
  by_cases hbootstrap : startsWith link linkStart = true
  · rw [if_pos hbootstrap] at h
    have hdone := orFailure_success h
    by_cases hredeemed : s.isRedeemed L link = true
    · rw [if_pos hredeemed]
      exact redeemed_stored hredeemed
        (fun _ _ hnew => by simp [resumeRedemption, orFailure, hnew]) hdone
    · rw [if_neg hredeemed]
      rw [Bool.not_eq_true] at hredeemed
      obtain ⟨i, hinvited, hstored⟩ : ∃ i, invited L J call link node s = some i ∧ i.Stored L s
          tunnel s' := resume_stored hdevice hredeemed (fun henrol => by
          obtain ⟨invitation, request, response, candidate, hparse, hrequest, hreply, hbound,
            haccepts⟩ := enrol_replaces hs hdevice henrol
          refine ⟨candidate, invitation.serverPublicKey, ?_, haccepts⟩
          simp only [offeredCandidate, if_pos hbootstrap, hparse, hrequest, hreply, hbound, ok_bind,
            pure_eq_ok]) hdone
      rwa [hinvited]
  · rw [if_neg hbootstrap, exec_bind, exec_read] at h
    simp only [redeemInvitationViaDocument, if_neg hbootstrap] at h
    by_cases hredeemed : s.isRedeemed L link = true
    · rw [if_pos hredeemed]
      exact redeemed_stored hredeemed (fun _ _ hcompleted => hcompleted) h
    · rw [if_neg hredeemed]
      rw [Bool.not_eq_true] at hredeemed
      rw [orElse, exec_bind, completedRedemption_of_not_redeemed hredeemed] at h
      rcases htrusted : (node.bind fun node => call.getPinnedServerPublicKey node.id) <|>
        s.pinnedServerKey with _ | key
      · have hpinned : s.pinnedServerKey = none := by
          revert htrusted
          cases node.bind fun node => call.getPinnedServerPublicKey node.id <;> simp
        rw [htrusted] at h
        simp [hpinned, keyNotPinned, failed] at h
      · rw [htrusted] at h
        simp only [exec_bind, exec_read] at h
        obtain ⟨i, hinvited, hstored⟩ : ∃ i, invited L J call link node s = some i ∧ i.Stored L s
            tunnel s' := resume_stored hdevice hredeemed (fun hdocument => by
            obtain ⟨candidate, hcandidate, haccepts⟩ :=
              redeemThroughDocument_replaces hs hdevice hdocument
            refine ⟨candidate, key, ?_, haccepts⟩
            simp only [offeredCandidate, if_neg hbootstrap, htrusted, hcandidate, ok_bind,
              pure_eq_ok]) h
        rwa [hinvited]

theorem redeemLink_stores {i : Incoming}
    (h : (redeemLink L J K call link node).exec s = (.ok (.success message envelope, tunnel), s'))
    (hincoming : incoming L J K call link node s = some i) : i.Stored L s tunnel s' := by
  have hstored := redeemLink_stored hs hdevice h
  rwa [hincoming] at hstored

omit hs hdevice in
/-- The screen stores the tunnel it was handed, and removes what has its id. -/
theorem redeemClientInvitation_stored
    (h : (redeemClientInvitation L J K call link node).exec s =
      (.ok (.success message envelope), s')) :
    ∃ tunnel s₁, (redeemLink L J K call link node).exec s =
        (.ok (.success message envelope, tunnel), s₁) ∧
      s'.store.stored = match tunnel with
        | none => s₁.store.stored
        | some t => screened t s₁.store.stored := by
  simp only [redeemClientInvitation, exec_bind_eq_ok] at h
  obtain ⟨⟨result, tunnel⟩, s₁, hlink, hrest⟩ := h
  rcases result with ⟨m, e⟩ | ⟨m, e⟩
  · rcases tunnel with _ | t
    · simp only [exec_pure, Prod.mk.injEq, Except.ok.injEq] at hrest
      rw [hrest.1] at hlink
      exact ⟨none, s₁, hlink, by rw [← hrest.2]⟩
    · simp only [exec_bind, onStore_exec, TunnelStore.load_exec, TunnelStore.save_exec,
        exec_pure, Prod.mk.injEq, Except.ok.injEq] at hrest
      rw [hrest.1] at hlink
      exact ⟨some t, s₁, hlink, by rw [← hrest.2]; rfl⟩
  · simp at hrest

end Accepting

namespace Incoming

variable {L : SyncLibraries} {s s' s₁ : SyncState} {i : Incoming} {t u : Tunnel}

theorem mem_others {c : String} {tunnels : List Tunnel} :
    u ∈ (⟨some c, tunnels⟩ : Incoming).others s ↔ u ∈ s.others c := by
  have havailable : u ∈ connections s.store.stored → u.isAvailable = true :=
    isAvailable_of_mem_connections
  simp only [others, Option.all_some, SyncState.others, unmanaged, List.mem_filter]
  tauto

theorem mem_connections (h : u ∈ i.others s) : u ∈ connections s.store.stored :=
  (List.mem_filter.1 h).1

theorem mem_stored (hu : u.isAvailable = true)
    (hstored : s'.store.stored = screened t s₁.store.stored) :
    u ∈ s'.store.stored ↔ (u ∈ connections s₁.store.stored ∧ u.id ≠ t.id) ∨ u = t := by
  simp [hstored, screened, hu]

theorem Stored.first {tunnel : Option Tunnel} (h : i.Stored L s tunnel s₁) :
    ∃ t, tunnel = some t ∧ i.tunnels.head? = some t := by
  obtain ⟨context, tunnels⟩ := i
  cases context with
  | none =>
    obtain ⟨t, hone, htunnel, -⟩ := h
    exact ⟨t, htunnel, congrArg List.head? hone⟩
  | some c =>
    obtain ⟨t, rest, prepared, hincoming, htunnel, -⟩ := h
    exact ⟨t, htunnel, congrArg List.head? hincoming⟩

theorem firstFree_of_leavesOthers (hfirst : i.tunnels.head? = some t)
    (hstored : s'.store.stored = screened t s₁.store.stored) (h : i.LeavesOthers s s') :
    i.FirstFree s := by
  intro t' ht' u hu hid
  rw [hfirst, Option.mem_some_iff] at ht'
  subst ht'
  have havailable := isAvailable_of_mem_connections (mem_connections hu)
  exact ((mem_stored havailable hstored).1 (h u hu)).resolve_left fun hkept => hkept.2 hid

theorem Stored.mem (hi : i.Stored L s (some t) s₁)
    (hdistinct : ((connections s.store.stored).map (·.id)).Nodup) (hu : u ∈ i.others s)
    (hid : u.id ≠ t.id) :
    u ∈ s₁.store.stored ∨ ∃ c ∈ i.context, u ∈ givens L c (s.others c) i.tunnels := by
  obtain ⟨context, tunnels⟩ := i
  cases context with
  | none =>
    obtain ⟨_, -, ⟨⟩, hkept⟩ := hi
    rw [hkept]
    exact Or.inl (List.mem_append_left _ (List.mem_filter.2
      ⟨mem_connections hu, by simpa using hid⟩))
  | some c =>
    obtain ⟨_, rest, prepared, hincoming, ⟨⟩, hkept, -⟩ := hi
    rw [hkept]
    by_cases hgiven : u ∈ givens L c (s.others c) tunnels
    · exact Or.inr ⟨c, rfl, hgiven⟩
    · refine Or.inl (List.mem_append_left _ (mem_remaining.2 ⟨mem_others.1 hu, ?_, hgiven⟩))
      exact fun hmem => hgiven (mem_givens_of_mem (fun v hv w hw => eq_of_id_eq hdistinct
        ((s.others_sublist c).subset hv) ((s.others_sublist c).subset hw))
        (mem_others.1 hu) hmem)

/-- Where the first id is free and what is replaced is replaced by itself, all are left. -/
theorem leavesOthers_of_settled (hi : i.Stored L s (some t) s₁)
    (hdistinct : ((connections s.store.stored).map (·.id)).Nodup)
    (hstored : s'.store.stored = screened t s₁.store.stored) (hfirst : i.FirstFree s)
    (hrest : i.RestSettled L s) :
    i.LeavesOthers s s' := by
  intro u hu
  obtain ⟨_, ⟨⟩, hhead⟩ := hi.first
  have hloaded := mem_connections hu
  rw [mem_stored (isAvailable_of_mem_connections hloaded) hstored]
  by_cases hid : u.id = t.id
  · exact Or.inr (hfirst t hhead u hu hid)
  refine Or.inl ⟨mem_connections_of_mem hloaded ?_, hid⟩
  rcases hi.mem hdistinct hu hid with hmem | ⟨c, hc, hgiven⟩
  · exact hmem
  · have hprepared : IsPrepared L.device u := by
      refine hrest c hc u hu (fun t' ht' => ?_) hgiven
      rwa [← Option.some.inj (hhead.symm.trans ht')]
    obtain ⟨context, tunnels⟩ := i
    obtain rfl : context = some c := hc
    obtain ⟨_, rest, prepared, hincoming, ⟨⟩, hkept, hmade⟩ := hi
    rw [hkept]
    exact List.mem_append_right _ (hmade.mem_of_isPrepared hgiven hprepared)

theorem settled_of_leavesOthers (hi : i.Stored L s (some t) s₁)
    (hstored : s'.store.stored = screened t s₁.store.stored) (hregular : i.Regular L s)
    (h : i.LeavesOthers s s') :
    i.RestSettled L s := by
  intro c hc u hu hid hgiven
  obtain ⟨_, ⟨⟩, hhead⟩ := hi.first
  have hloaded := mem_connections hu
  have hkept : u ∈ connections s₁.store.stored :=
    (((mem_stored (isAvailable_of_mem_connections hloaded) hstored).1 (h u hu)).resolve_right
      fun heq => hid t hhead (congrArg Tunnel.id heq)).1
  have hdirect : isDirect u = false := givens_not_direct hregular.remote u hgiven
  have hmem := mem_connections_of_not_direct hdirect hkept
  have hapart := hregular.apart c hc
  obtain ⟨context, tunnels⟩ := i
  obtain rfl : context = some c := hc
  obtain ⟨_, rest, prepared, hincoming, ⟨⟩, hafter, hmade⟩ := hi
  rw [hafter] at hmem
  rcases List.mem_append.1 hmem with hmem | hmem
  · exact absurd hgiven (mem_remaining.1 hmem).2.2
  · exact hmade.isPrepared_of_mem hapart hgiven hmem

end Incoming

/-- The tunnels that the context of the link does not manage are left as they were, if none of
them has the id of the first tunnel that the link brings, and if one that is replaced because it
equals an incoming tunnel is replaced by itself. The first condition is necessary, and for what
links usually bring the second one is too. -/
theorem redeemClientInvitation_leaves_others (L : SyncLibraries) (J : InvitationLibraries)
    (K : CompactLibraries) (call : RedemptionCall) (link : String) (node : Option ServerNode)
    (s s' : SyncState) (message : String) (envelope : Option AdminEnvelope)
    (hdistinct : ((connections s.store.stored).map (·.id)).Nodup)
    (hs : ∀ c ∈ s.indexedContexts, IsContext L c)
    (hdevice : isBlank L.recipient.publicKeyHashHex = false)
    (h : (redeemClientInvitation L J K call link node).exec s =
      (.ok (.success message envelope), s')) :
    (incoming L J K call link node s = none →
      ∀ u ∈ connections s.store.stored, u ∈ s'.store.stored) ∧
    ∀ i, incoming L J K call link node s = some i →
      (i.LeavesOthers s s' → i.FirstFree s) ∧
      (i.FirstFree s → i.RestSettled L s → i.LeavesOthers s s') ∧
      (i.Regular L s → (i.LeavesOthers s s' ↔ i.FirstFree s ∧ i.RestSettled L s)) := by
  obtain ⟨tunnel, s₁, hlink, hstored⟩ := redeemClientInvitation_stored h
  have hdevice' := enrolledDeviceId_not_blank hdevice
  constructor
  · intro hincoming u hu
    have hkept := redeemLink_stored hs hdevice' hlink
    rw [hincoming] at hkept
    obtain ⟨hloaded, hthere⟩ := hkept
    cases tunnel with
    | none => rwa [hstored, hloaded]
    | some t =>
      rw [Incoming.mem_stored (isAvailable_of_mem_connections hu) hstored, hloaded,
        connections_connections]
      by_cases hid : u.id = t.id
      · exact Or.inr (eq_of_id_eq hdistinct hu (hthere t rfl) hid)
      · exact Or.inl ⟨hu, hid⟩
  · intro i hincoming
    have hkept := redeemLink_stores hs hdevice' hlink hincoming
    obtain ⟨t, rfl, hfirst⟩ := hkept.first
    have hfree := Incoming.firstFree_of_leavesOthers (s := s) hfirst hstored
    have hleft := Incoming.leavesOthers_of_settled hkept hdistinct hstored
    exact ⟨hfree, hleft, fun hregular => ⟨fun h => ⟨hfree h,
      Incoming.settled_of_leavesOthers hkept hstored hregular h⟩, fun h => hleft h.1 h.2⟩⟩

section Fresh

variable {L : SyncLibraries} {J : InvitationLibraries} {K : CompactLibraries}
  {call : RedemptionCall} {link key : String} {s : SyncState} {request receipt : AdminEnvelope}
  {candidate : VerifiedInvitationCandidate} {tunnels : List Tunnel}
  (hcompact : startsWith link CompactRoute.linkStart = false)
  (hfresh : s.redemptionCheckpoint L link = none) (hpinned : s.pinnedServerKey = some key)
  (hcandidate : verifyCandidate L J link key (s.currentTimeMillis / 1000) = .ok candidate)
include hcompact hfresh hpinned hcandidate

theorem redeemClientInvitation_succeeds
    (hrequest : redemptionOf L J call.opId call.nonce candidate (s.currentTimeMillis / 1000) =
      request)
    (hreply : call.reply candidate.documentUrl candidate.profileId candidate.secretKey request
      key = .ok receipt)
    (hverified : verifyRedemptionReceipt L J request receipt candidate key call.answeredAt = true)
    (hroutes : candidateRoutes candidate ≠ [])
    (hprepares : Prepares L call.moments candidate.name 0 s.files (candidateRoutes candidate)) :
    ∃ s', (redeemClientInvitation L J K call link none).exec s =
      (.ok (.success "Приглашение успешно подтверждено и погашено на сервере" (some receipt)),
        s') := by
  have hkey : (some key <|> s.pinnedServerKey) = some key := rfl
  have hsends := redeemInvitationViaDocument_sends hfresh hkey hcandidate hrequest
  rw [hreply] at hsends
  obtain ⟨t, s', hconfirm, -⟩ := confirmRedemption_completes link
    (s := (s.keep (sentCheckpoint L link key request) s.files).sent request) hverified hroutes
    hprepares
  have hlink : (redeemLink L J K call link none).exec s = (.ok (activated receipt t), s') := by
    rw [redeemLink, hcompact, verifyCandidate_not_bootstrap hcandidate, if_neg Bool.false_ne_true,
      if_neg Bool.false_ne_true, exec_bind, exec_read, hpinned]
    exact hsends.trans hconfirm
  simp only [redeemClientInvitation, exec_bind, hlink, onStore_exec, TunnelStore.load_exec,
    TunnelStore.save_exec, exec_pure]
  exact ⟨_, rfl⟩

theorem incoming_of_fresh
    (hprepare : ((prepareCandidateTunnels L call candidate).exec s).1 = .ok tunnels) :
    incoming L J K call link none s =
      some ⟨s.contextFor L candidate key, tunnels.filter isAvailable⟩ := by
  have hunfinished : s.unfinished L link = none := by rw [unfinished, hfresh]; rfl
  have hredeemed : s.isRedeemed L link = false := by rw [isRedeemed, hfresh]; rfl
  have hkey : (none <|> some key) = some key := rfl
  have hoffered : offeredCandidate L J call link none s = .ok (candidate, key) := by
    simp [offeredCandidate, verifyCandidate_not_bootstrap hcandidate, hpinned, hkey, hcandidate]
  simp [incoming, hcompact, hredeemed, invited, hunfinished, hoffered, hprepare]

end Fresh

/-! ### The invitation of the first server on the screen -/

def noCompactRoute : CompactLibraries where
  generatePublic _ := .error (.platform none)
  verify _ _ _ := .error (.platform none)
  inflate _ := .error (.platform none)
  parseToJsonElement _ := .error (.platform none)
  importIdentity _ _ := .error (.platform none)
  importScoped _ _ _ := .error (.platform none)

def phoneWith (stored : List Tunnel) : SyncState :=
  { invitedPhone with store := { stored := stored } }

theorem invitationLink_not_compact : startsWith invitationLink CompactRoute.linkStart = false := by
  rw [startsWith, invitationLink, String.toList_append]
  decide

variable (stored : List Tunnel)

theorem phoneWith_candidate : verifyCandidate invitedSync invitedLibraries invitationLink serverKey1
      ((phoneWith stored).currentTimeMillis / 1000) = .ok candidate1 := by
  have htime : (phoneWith stored).currentTimeMillis / 1000 = 1767225600 := rfl
  rw [htime]
  exact verifyCandidate_invitation1 (by decide) (by decide)

theorem phoneWith_redeems :
    ∃ s', (redeemClientInvitation invitedSync invitedLibraries noCompactRoute invitedCall
        invitationLink none).exec (phoneWith stored) =
      (.ok (.success "Приглашение успешно подтверждено и погашено на сервере" (some receipt1)),
        s') := by
  have hreply : invitedCall.reply candidate1.documentUrl candidate1.profileId candidate1.secretKey
      redemption1 serverKey1 = .ok receipt1 := rfl
  have hprepares : Prepares invitedSync invitedCall.moments candidate1.name 0
      (phoneWith stored).files (candidateRoutes candidate1) :=
    prepares_iff.2 ⟨_, _, candidate1_made, fun t _ => phone_keyResolves t⟩
  have hroutes : candidateRoutes candidate1 ≠ [] := by decide
  exact redeemClientInvitation_succeeds invitationLink_not_compact rfl rfl
    (phoneWith_candidate stored) redemption1_eq hreply receipt1_accepted
    hroutes hprepares

theorem phoneWith_incoming :
    incoming invitedSync invitedLibraries noCompactRoute invitedCall invitationLink none
        (phoneWith stored) =
      some ⟨(phoneWith stored).contextFor invitedSync candidate1 serverKey1, [office]⟩ := by
  have hprepare : ((prepareCandidateTunnels invitedSync invitedCall candidate1).exec
      (phoneWith stored)).1 = .ok [office] := by
    rw [prepareCandidateTunnels, onFiles_exec]
    exact congrArg Prod.fst candidate1_made
  have havailable : [office].filter isAvailable = [office] := by
    simp
  rw [incoming_of_fresh invitationLink_not_compact rfl rfl
    (phoneWith_candidate stored) hprepare, havailable]

theorem phoneWith_others (tunnels : List Tunnel) (c : String) :
    (⟨some c, tunnels⟩ : Incoming).others (phoneWith stored) = connections stored := by
  have hmanaged : (phoneWith stored).managedTunnelIds c = [] := rfl
  have hstored : (phoneWith stored).store.stored = stored := rfl
  simp [Incoming.others, hmanaged, hstored]

theorem phoneWith_indexed : ∀ c ∈ (phoneWith stored).indexedContexts, IsContext invitedSync c := by
  have hnone : (phoneWith stored).indexedContexts = [] := rfl
  simp [hnone]

theorem redeemClientInvitation_leaves_others_phoneWith : ∃ s',
    (redeemClientInvitation invitedSync invitedLibraries noCompactRoute invitedCall
        invitationLink none).exec (phoneWith [DirectDpiProfile.create]) =
      (.ok (.success "Приглашение успешно подтверждено и погашено на сервере" (some receipt1)),
        s') ∧
    DirectDpiProfile.create ∈ s'.store.stored := by
  obtain ⟨s', hredeems⟩ := phoneWith_redeems [create]
  have hloaded : connections [create] = [create] :=
    connections_create_cons (by simp) (by simp)
  have hdistinct : ((connections (phoneWith [create]).store.stored).map (·.id)).Nodup := by
    change ((connections [create]).map (·.id)).Nodup
    rw [hloaded]
    exact List.nodup_singleton _
  have hleaves := (redeemClientInvitation_leaves_others invitedSync invitedLibraries noCompactRoute
    invitedCall invitationLink none (phoneWith [create]) s'
    _ _ hdistinct
    (phoneWith_indexed _) invitedSync_recipient hredeems).2 _ (phoneWith_incoming _)
  refine ⟨s', hredeems, hleaves.2.1 ?_ ?_ create ?_⟩
  · intro t ht u hu hid
    obtain rfl : office = t := Option.some.inj ht
    rw [phoneWith_others, hloaded, List.mem_singleton] at hu
    rw [hu] at hid
    exact absurd hid (by decide)
  · intro c _ u hu _ hgiven
    rw [phoneWith_others, hloaded, List.mem_singleton] at hu
    have hdirect := givens_not_direct (List.forall_mem_singleton.2
      (officeTunnel_not_direct 1767225600000123 1767225600000123)) u hgiven
    rw [hu, isDirect_create] at hdirect
    simp at hdirect
  · rw [phoneWith_others, hloaded]
    exact List.mem_singleton_self _

/-- The user has a tunnel of the id that the clock and the random number give, under another
name. -/
theorem redeemClientInvitation_removes_home : ¬ ∀ (L : SyncLibraries) (J : InvitationLibraries)
    (K : CompactLibraries) (call : RedemptionCall) (link : String) (node : Option ServerNode)
    (s s' : SyncState) (message : String) (envelope : Option AdminEnvelope),
    ((connections s.store.stored).map (·.id)).Nodup →
    (∀ c ∈ s.indexedContexts, IsContext L c) →
    isBlank L.recipient.publicKeyHashHex = false →
    (redeemClientInvitation L J K call link node).exec s = (.ok (.success message envelope), s') →
    (incoming L J K call link node s = none →
      ∀ u ∈ connections s.store.stored, u ∈ s'.store.stored) ∧
    ∀ i, incoming L J K call link node s = some i → i.LeavesOthers s s' := by
  intro h
  have havailable : ∀ t ∈ [home], t.isAvailable = true :=
    fun t ht => twin_isAvailable t (List.mem_singleton.1 ht ▸ List.mem_cons_self)
  have hdirect : ∀ t ∈ [home], isDirect t = false :=
    fun t ht => twin_not_direct t (List.mem_singleton.1 ht ▸ List.mem_cons_self)
  have hloaded : connections [create, home] = [create, home] :=
    connections_create_cons havailable hdirect
  have hdistinct : ((connections (phoneWith [create, home]).store.stored).map (·.id)).Nodup := by
    change ((connections [create, home]).map (·.id)).Nodup
    rw [hloaded]
    decide
  obtain ⟨s', hredeems⟩ := phoneWith_redeems [create, home]
  have hleaves := (h invitedSync invitedLibraries noCompactRoute invitedCall invitationLink none
    (phoneWith [create, home]) s'
    _ _ hdistinct
    (phoneWith_indexed _) invitedSync_recipient hredeems).2 _ (phoneWith_incoming _)
  obtain ⟨tunnel, s₁, hlink, hstored⟩ := redeemClientInvitation_stored hredeems
  have hkept := redeemLink_stores (phoneWith_indexed _)
    (enrolledDeviceId_not_blank invitedSync_recipient) hlink (phoneWith_incoming _)
  obtain ⟨t, rfl, hfirst⟩ := hkept.first
  have hhome := Incoming.firstFree_of_leavesOthers hfirst hstored hleaves office rfl home
    (by rw [phoneWith_others, hloaded]; simp) rfl
  exact absurd (congrArg Tunnel.name hhome) (by decide)

end LibreRoute.Sync
