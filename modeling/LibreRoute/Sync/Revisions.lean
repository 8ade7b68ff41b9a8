import LibreRoute.Sync.Stages
import Mathlib.Logic.Relation

/-!
The revision of a context over whole runs of redemptions and synchronisations,
each of which may be cut short at any write.

A synchronisation refuses a revision that is older than the stored one. A
redemption does not look at the stored one, and a candidate that was kept can
be activated at any later time.
-/

namespace LibreRoute.Sync

open Lib Tunnels SyncState Lib.Keeping
open Admin (Throwable AdminEnvelope ServerNode serverKey1)

/-! ### Contexts -/

def SyncState.revision (s : SyncState) (c : String) : Option Int :=
  (s.storage.get (.context c .revision)).bind Entry.asNumber

def SyncState.entries (c : String) (s : SyncState) : SyncKey → Option Entry :=
  fun key => s.storage.get (.context c key)

def contextName (L : SyncLibraries) (deviceId profileId serverKey : String) : String :=
  "client_sync_" ++ L.invitationHash (serverKey ++ "|" ++ profileId ++ "|" ++ deviceId) ++ "_"

/-- A context is named after a profile, a server key and a device, or is the one of the
versions that had one context. -/
def IsContext (L : SyncLibraries) (c : String) : Prop :=
  c = "" ∨ ∃ deviceId profileId serverKey, c = contextName L deviceId profileId serverKey

/-- The context of a profile, a server key and a device. -/
def SyncState.IsContextOf (L : SyncLibraries) (s : SyncState)
    (deviceId profileId serverKey c : String) : Prop :=
  c = contextName L deviceId profileId serverKey ∨
    s.text c .profileId = some profileId ∧ s.text c .trustedServerKey = some serverKey ∧
      s.text c .deviceId = some deviceId

section Contexts

variable {L : SyncLibraries} {c : String} {s s' : SyncState}

theorem SyncState.revision_congr (h : s'.entries c = s.entries c) :
    s'.revision c = s.revision c := by
  rw [SyncState.revision, SyncState.revision]
  exact congrArg (Option.bind · Entry.asNumber) (congrFun h .revision)

theorem SyncState.IsContextOf.congr {d p k : String} (h : s'.entries c = s.entries c)
    (hc : s'.IsContextOf L d p k c) : s.IsContextOf L d p k c := by
  have htext : ∀ key, s.text c key = s'.text c key := fun key =>
    congrArg (Option.bind · Entry.asText) (congrFun h key).symm
  rcases hc with hc | ⟨hp, hk, hd⟩
  · exact Or.inl hc
  · exact Or.inr ⟨by rw [htext, hp], by rw [htext, hk], by rw [htext, hd]⟩

theorem SyncState.enrolledContext_isContextOf (L : SyncLibraries) (s : SyncState)
    (d p k : String) : s.IsContextOf L d p k (s.enrolledContext L d p k) := by
  unfold enrolledContext
  split
  · next existing hfound =>
      have h := List.find?_some hfound
      simp only [Bool.and_eq_true, beq_iff_eq] at h
      exact Or.inr ⟨h.1.1, h.1.2, h.2⟩
  · exact Or.inl rfl

/-- The names of the entries of a context begin otherwise than those of the redemptions. -/
theorem IsContext.text_ne {start : String} (hc : IsContext L c) (key : SyncKey)
    (hstart : start.toList.take 8 ≠ "client_s".toList) (hlong : 8 ≤ start.toList.length)
    (hfirst : start.toList.head? ≠ some 's') (name : String) :
    (Address.context c key).text ≠ start ++ name := by
  intro h
  have hlist : c.toList ++ key.text.toList = start.toList ++ name.toList := by
    rw [← String.toList_append, ← String.toList_append]
    exact congrArg String.toList h
  rcases hc with rfl | ⟨d, p, k, rfl⟩
  · have hhead : (start.toList ++ name.toList).head? = some 's' := by
      rw [← hlist]
      cases key <;> rfl
    rw [List.head?_append_of_ne_nil _ (List.ne_nil_of_length_pos (by omega))] at hhead
    exact hfirst hhead
  · have htake := congrArg (List.take 8) hlist
    rw [List.take_append_of_le_length hlong] at htake
    refine hstart (htake.symm.trans ?_)
    simp only [contextName, String.toList_append, List.append_assoc]
    rfl

theorem IsContext.text_ne_redemption (hc : IsContext L c) (key : SyncKey) (hash : String) :
    (Address.context c key).text ≠ (Address.redemption hash).text :=
  hc.text_ne key (by decide) (by decide) (by decide) hash

theorem IsContext.text_ne_pendingEnrollment (hc : IsContext L c) (key : SyncKey) (id : String) :
    (Address.context c key).text ≠ (Address.pendingEnrollment id).text :=
  hc.text_ne key (by decide) (by decide) (by decide) id

end Contexts

variable {candidate : VerifiedInvitationCandidate} {c' key : String} {α : Type} {now rev : Int}
  {receipt : AdminEnvelope} {tunnels : List Tunnel} {trusted : Option String}

/-- `I` speaks about the entries of one context only. -/
class OfContext (c : outParam String) (I : SyncState → Prop) : Prop where
  congr : ∀ {s s'}, I s → s'.entries c = s.entries c → I s'

/-- `I` speaks about the revision of one context only. -/
class OfRevision (c : outParam String) (I : SyncState → Prop) : Prop where
  congr : ∀ {s s'}, I s → s'.revision c = s.revision c → I s'

section Frame

variable {L : SyncLibraries} {c : String} {I : SyncState → Prop}

instance {entries : SyncKey → Option Entry} : OfContext c fun s => s.entries c = entries :=
  ⟨fun hs h => h.trans hs⟩

instance [hI : OfRevision c I] : OfContext c I := ⟨fun hs h => hI.congr hs (revision_congr h)⟩

theorem OfContext.overlooks [hI : OfContext c I] {address : Address}
    (h : ∀ key, (Address.context c key).text ≠ address.text) : Overlooks I address :=
  ⟨fun value s hs =>
    hI.congr hs (funext fun key => Storage.get_put_of_ne s.storage value (h key))⟩

instance [hI : OfContext c I] : OfStorage I := ⟨fun _ _ _ hs => hI.congr hs rfl⟩

instance [OfContext c I] : Overlooks I .syncContexts :=
  OfContext.overlooks (Address.text_context_ne_syncContexts c)

instance [OfContext c I] : Overlooks I .activeSyncContext :=
  OfContext.overlooks (Address.text_context_ne_active c)

theorem IsContext.overlooks_redemption (hc : IsContext L c) [OfContext c I] (hash : String) :
    Overlooks I (.redemption hash) :=
  OfContext.overlooks fun key => hc.text_ne_redemption key hash

theorem IsContext.overlooks_pendingEnrollment (hc : IsContext L c) [OfContext c I] (id : String) :
    Overlooks I (.pendingEnrollment id) :=
  OfContext.overlooks fun key => hc.text_ne_pendingEnrollment key id

/-- The entries of a context besides its revision. -/
@[reducible] def SyncKey.besidesRevision : List SyncKey :=
  [.deviceId, .userId, .profileId, .docUrl, .secretKey, .trustedServerKey, .lastCheckedAt,
    .routesJson, .managedTunnelIds]

instance [hI : OfRevision c I] {key : SyncKey} [hkey : Listed key SyncKey.besidesRevision] :
    Overlooks I (.context c' key) where
  put value s hs := by
    have hne : ∀ key ∈ SyncKey.besidesRevision, SyncKey.revision ≠ key := by decide
    refine hI.congr hs ?_
    rw [SyncState.revision, Storage.get_put_context, if_neg fun h => hne key hkey.mem h.2]
    rfl

def SyncState.base (s : SyncState) : Storage × Int := (s.storage, s.currentTimeMillis)

instance {b : Storage × Int} : OfStorage fun s => s.base = b := ⟨fun _ _ _ hs => hs⟩

end Frame

/-- The revision of a context is stored and not below a number. -/
def SyncState.AtLeast (c : String) (r : Int) (s : SyncState) : Prop :=
  ∃ r', r ≤ r' ∧ s.revision c = some r'

/-- A candidate is not older than what is stored for the context of its profile, of the server
key and of its device. -/
def NotOlder (L : SyncLibraries) (s : SyncState) (candidate : VerifiedInvitationCandidate)
    (serverKey : String) : Prop :=
  ∀ c r, s.IsContextOf L (enrolledDeviceId L candidate) candidate.profileId serverKey c →
    s.revision c = some r → r ≤ candidate.revision

section Activation

variable {L : SyncLibraries} {J : InvitationLibraries} {call : RedemptionCall} {c : String}
  {r : Int}

instance : OfRevision c (AtLeast c r) := ⟨fun ⟨r', hle, hr'⟩ h => ⟨r', hle, h.trans hr'⟩⟩

theorem SyncState.AtLeast.congr {s s' : SyncState} (h : s.AtLeast c r)
    (hentries : s'.entries c = s.entries c) : s'.AtLeast c r := OfContext.congr h hentries

theorem SyncState.AtLeast.put {s : SyncState} (hs : s.AtLeast c r) (h : c' = c → r ≤ rev) :
    ({ s with storage := s.storage.put (.context c' .revision) (some (.number rev)) } :
      SyncState).AtLeast c r := by
  by_cases hc : c = c'
  · exact ⟨rev, h hc.symm, by simp [SyncState.revision, hc, Entry.asNumber]⟩
  · obtain ⟨r', hle, hr'⟩ := hs
    refine ⟨r', hle, ?_⟩
    rw [SyncState.revision, Storage.get_put_context, if_neg fun h => hc h.1]
    exact hr'

-- the size of an answer doubles with every line of a program
set_option synthInstance.maxSize 100000 in
theorem saveEnrolledSyncState_wp {d u p url k : String} {routes : List RouteCandidate}
    {s : SyncState} (hs : s.AtLeast c r) (h : s.IsContextOf L d p key c → r ≤ rev) :
    (saveEnrolledSyncState L d u p url k rev key routes).wp
      (fun _ => AtLeast c r) (AtLeast c r) s := by
  refine wp_bind (wp_read (wp_bind (wp_read ?_)))
  have hrevision : Lib.Keeping (AtLeast c r) (putEntry
      (.context (s.enrolledContext L d p key) .revision) (some (.number rev))) :=
    ⟨keeps_write fun _ hs' => hs'.put fun hc => h (hc ▸ s.enrolledContext_isContextOf L d p key)⟩
  exact keeps s hs

theorem activateVerifiedCandidate_wp {s : SyncState} (hs : s.AtLeast c r)
    (h : s.IsContextOf L (enrolledDeviceId L candidate) candidate.profileId key c →
      r ≤ candidate.revision) :
    (activateVerifiedCandidate L candidate key receipt tunnels).wp
      (fun _ => AtLeast c r) (AtLeast c r) s := by
  unfold activateVerifiedCandidate
  split
  · exact wp_pure hs
  · exact wp_then (saveEnrolledSyncState_wp hs h) fun _ s' hs' => keeps s' hs'

theorem activateCheckpoint_wp (hc : IsContext L c) {record : ClientRedemptionCheckpoint}
    {s : SyncState} (hs : s.AtLeast c r)
    (h : s.IsContextOf L (enrolledDeviceId L candidate) candidate.profileId record.serverKey c →
      r ≤ candidate.revision) :
    (activateCheckpoint L record candidate receipt).wp (fun _ => AtLeast c r) (AtLeast c r) s := by
  have hsave := hc.overlooks_redemption (I := AtLeast c r)
  exact wp_then (activateVerifiedCandidate_wp hs h) fun _ s' hs' => keeps s' hs'

end Activation

/-! ### Redemption -/

section Redeeming

variable {L : SyncLibraries} {J : InvitationLibraries} {call : RedemptionCall} {c : String}
  {r : Int} {s s' : SyncState} {link : String} {trustedKey : String}

theorem Offered.congr (h : s'.base = s.base) (hoffered : Offered L J call s' link candidate key) :
    Offered L J call s link candidate key := by
  have hstorage : s'.storage = s.storage := congrArg Prod.fst h
  have hclock : s'.currentTimeMillis = s.currentTimeMillis := congrArg Prod.snd h
  cases hoffered with
  | kept hrecord hcandidate =>
    refine .kept ?_ hcandidate
    rwa [redemptionCheckpoint, ← hstorage]
  | carried hcandidate => exact .carried (by rwa [← hclock])
  | replied hparse hreply hcandidate => exact .replied (by rwa [← hclock]) hreply hcandidate

theorem SyncState.entries_of_base (h : s'.base = s.base) : s'.entries c = s.entries c := by
  have hstorage : s'.storage = s.storage := congrArg Prod.fst h
  exact funext fun key => by rw [entries, hstorage]; rfl

variable (hc : IsContext L c)
  (hcurrent : ∀ candidate key, Offered L J call s link candidate key →
    s.IsContextOf L (enrolledDeviceId L candidate) candidate.profileId key c →
      r ≤ candidate.revision)
include hc hcurrent

theorem resumeRedemption_wp (hs : s.AtLeast c r) (hsame : s'.base = s.base) :
    (resumeRedemption L link).wp
      (fun result s₁ => s₁.AtLeast c r ∧ (result = none → s₁.base = s.base))
      (AtLeast c r) s' := by
  have hbase : ∀ {s' : SyncState}, s'.base = s.base → s'.AtLeast c r := fun h =>
    hs.congr (entries_of_base h)
  refine wp_attempt ?_ (fun _ h => h) fun e s' h =>
    wp_pure ⟨h, by simp⟩
  refine wp_bind (wp_mono (keeps s' hsame) (fun completed s₁ hs₁ => ?_) fun _ h => hbase h)
  cases completed with
  | some result => exact wp_pure ⟨hbase hs₁, by simp⟩
  | none =>
    refine wp_bind (wp_read ?_)
    split
    · exact wp_pure ⟨hbase hs₁, fun _ => hs₁⟩
    · next record hrecord =>
        split
        · next candidate receipt hcandidate hreceipt =>
            refine wp_bind (wp_require (fun _ => ?_) fun _ => hbase hs₁)
            refine wp_then (activateCheckpoint_wp hc (hbase hs₁) fun hcontext => ?_) fun activated
                s₂ hs₂ => ?_
            · exact hcurrent candidate record.serverKey
                (Offered.congr hs₁ (.kept hrecord hcandidate))
                (hcontext.congr (entries_of_base hs₁))
            · exact wp_pure ⟨hs₂, by simp⟩
        · exact wp_pure ⟨hbase hs₁, fun _ => hs₁⟩

theorem revision_stages (hs : s.AtLeast c r) :
    Stages L J call link (·.base = s.base) (·.base = s.base) (AtLeast c r)
      fun _ s' => s'.entries c = s.entries c := by
  have hsave := hc.overlooks_redemption (I := (·.entries c = s.entries c))
  have hpending := hc.overlooks_pendingEnrollment (I := (·.entries c = s.entries c))
  have hforget := hc.overlooks_pendingEnrollment (I := AtLeast c r)
  exact
    { begun := fun hsame => hs.congr (entries_of_base hsame)
      fresh := fun hsame => hsame
      asked := hs.congr
      completed := fun hsame => wp_mono (keeps _ hsame)
        (fun _ _ h => ⟨hs.congr (entries_of_base h), fun _ => h⟩)
        fun _ h => hs.congr (entries_of_base h)
      resumed := resumeRedemption_wp hc hcurrent hs
      requested := fun hsame => wp_mono (keeps _ (entries_of_base hsame))
        (fun _ _ h => h) fun _ => hs.congr
      enrolling := fun hsame => wp_mono (keeps _ (entries_of_base hsame))
        (fun _ _ h => h) fun _ => hs.congr
      sent := keeps_modify fun _ h => h
      prepared := keeps
      kept := keeps
      activated := fun hsame ho hentries => activateCheckpoint_wp hc (hs.congr hentries)
        fun hcontext => hcurrent _ _ (ho.congr hsame) (hcontext.congr hentries)
      forgotten := keeps }

end Redeeming

/-! ### Synchronisation -/

section Syncing

variable {L : SyncLibraries} {call : SyncCall} {calls : String → SyncCall} {force : Bool}
  {c : String} {r : Int} {s : SyncState}

/-- A reply that is accepted does not go back behind the revision of the request. -/
def SyncVerdict.NotBelow (currentRev : Int) : SyncVerdict → Prop
  | .updated rev _ _ => currentRev ≤ rev
  | _ => True

theorem replyVerdict_notBelow {deviceId opId payload : String} {currentRev : Int} :
    Ensures (SyncVerdict.NotBelow currentRev)
      (replyVerdict L deviceId opId currentRev now payload) := by
  unfold replyVerdict
  repeat' first
    | refine ensures_bind fun _ => ?_
    | dsimp only
    | split
  all_goals first
    | exact ensures_ok trivial
    | exact ensures_ok (Int.not_lt.1 (by assumption))

theorem ensures_orFailed {P : SyncVerdict → Prop} {value : Option α} {error : String}
    {k : α → Except Throwable SyncVerdict} (hfailed : P (.failed error)) (h : ∀ a, Ensures P (k a))
    : Ensures P (orFailed value error k) := by
  cases value with
  | none => exact ensures_ok hfailed
  | some a => exact h a

theorem syncVerdict_notBelow :
    Ensures (SyncVerdict.NotBelow (s.getLong c .revision 1)) (syncVerdict L call force c s) := by
  refine ensures_orFailed trivial fun deviceId => ensures_orFailed trivial fun profileId =>
    ensures_orFailed trivial fun docUrl => ensures_orFailed trivial fun secretKey =>
    ensures_orFailed trivial fun trustedServerKey => ?_
  dsimp only
  split
  · exact ensures_ok trivial
  · split
    · exact ensures_ok trivial
    · split
      · exact ensures_ok trivial
      · split
        · exact ensures_ok trivial
        · exact replyVerdict_notBelow

/-- The revision of a context is not below a number, or the context is cleared. -/
def SyncState.Kept (c : String) (r : Int) (s : SyncState) : Prop :=
  s.revision c = none ∨ s.AtLeast c r

instance : OfRevision c (Kept c r) :=
  ⟨fun hs h => hs.imp h.trans fun hat => OfRevision.congr hat h⟩

instance : Lib.Keeping (Kept c r) (clearSyncContext c) := by
  have hnone : ∀ key, Lib.Keeping (Kept c r) (putEntry (.context c key) none) := by
    intro key
    by_cases hkey : key = .revision
    · exact ⟨keeps_write fun s _ => Or.inl (by simp [SyncState.revision, hkey])⟩
    · refine ⟨keeps_write fun s hs => OfRevision.congr hs ?_⟩
      rw [SyncState.revision, Storage.get_put_context, if_neg fun h => hkey h.2.symm]
      rfl
  infer_instance

set_option synthInstance.maxSize 100000 in
theorem syncRouteContext_wp (hr : s.revision c = some r) :
    (syncRouteContext L call force c).wp (fun _ => Kept c r) (Kept c r) s := by
  have hs : s.Kept c r := Or.inr ⟨r, Int.le_refl r, hr⟩
  refine wp_bind (wp_read (wp_bind (wp_ofExcept (fun verdict hverdict => ?_) hs)))
  cases verdict with
  | failed error => exact wp_pure hs
  | recent revision lastCheckedAt => exact wp_pure hs
  | revoked => exact keeps s hs
  | unchanged revision now => exact keeps s hs
  | updated revision now routes =>
    have hle : r ≤ revision := by
      have h := syncVerdict_notBelow _ hverdict
      have hlong : s.getLong c .revision 1 = r := by
        rw [getLong]
        exact congrArg (Option.getD · 1) hr
      rwa [hlong] at h
    have hrevision : Lib.Keeping (Kept c r)
        (putEntry (.context c .revision) (some (.number revision))) :=
      ⟨keeps_write fun s _ => Or.inr ⟨revision, hle, by simp [SyncState.revision, Entry.asNumber]⟩⟩
    have hupdate : Lib.Keeping (Kept c r) (applyUpdate L call.moments c revision now routes) := by
      unfold applyUpdate publish
      infer_instance
    exact hupdate.keeps s hs

theorem syncContext_wp (hr : s.revision c = some r) :
    (syncContext L calls force c).wp (fun _ => Kept c r) (Kept c r) s := by
  have hrun : ((syncRouteContext L (calls c) force c).runCatching).wp
      (fun _ => Kept c r) (Kept c r) s :=
    wp_attempt (wp_then (syncRouteContext_wp hr) fun _ _ h => wp_pure h) (fun _ h => h)
      fun _ _ h => wp_pure h
  refine wp_then hrun fun result s' hs' => ?_
  cases result with
  | ok result => exact wp_pure hs'
  | error e => exact wp_pure hs'

theorem syncContext_keeping {I : SyncState → Prop} [hI : OfContext c I] (h : c ≠ c') :
    Lib.Keeping I (syncContext L calls force c') := by
  have hother : ∀ key, Overlooks I (.context c' key) := fun key =>
    ⟨fun value s hs => hI.congr hs (funext fun key' => by
      rw [entries, Storage.get_put_context, if_neg fun heq => h heq.1]
      rfl)⟩
  refine .bind fun result => ?_
  split <;> infer_instance

theorem mapEach_syncContext_wp {contexts : List String} (hnodup : contexts.Nodup)
    (hr : s.revision c = some r) :
    (Prog.mapEach contexts (syncContext L calls force)).wp (fun _ => Kept c r) (Kept c r) s := by
  induction contexts generalizing s with
  | nil => exact wp_pure (Or.inr ⟨r, Int.le_refl r, hr⟩)
  | cons c₁ contexts ih =>
    rw [List.nodup_cons] at hnodup
    by_cases hc : c = c₁
    · -- its own turn, and no other one after it
      subst hc
      refine wp_then (syncContext_wp hr) fun _ s₁ hs₁ => ?_
      have hrest : (Prog.mapEach contexts (syncContext L calls force)).Keeps
          (Kept c r) := keeps_mapEach fun c' hc' =>
        (syncContext_keeping (c := c) fun h => hnodup.1 (h ▸ hc')).keeps
      exact keeps_bind hrest (fun _ => keeps_pure) s₁ hs₁
    · refine wp_bind (wp_mono
        ((syncContext_keeping (I := (·.entries c = s.entries c)) hc).keeps s rfl)
        (fun _ s₁ hs₁ => ?_) fun s₁ hs₁ => ?_)
      · exact wp_then (ih hnodup.2 ((revision_congr hs₁).trans hr)) fun _ _ h => wp_pure h
      · exact Or.inr ⟨r, Int.le_refl r, (revision_congr hs₁).trans hr⟩

theorem syncRoutes_wp (hr : s.revision c = some r) :
    (syncRoutes L calls force).wp (fun _ => Kept c r) (Kept c r) s := by
  refine wp_bind (wp_read ?_)
  split
  · exact wp_pure (Or.inr ⟨r, Int.le_refl r, hr⟩)
  · exact wp_then (mapEach_syncContext_wp s.syncContexts_nodup hr) fun _ _ h => wp_pure h

end Syncing

/-! ### Runs -/

inductive SyncAction
  | redeemInvitation (call : RedemptionCall) (link : String) (serverNode : Option ServerNode)
      (trustedServerPublicKeyBase64 : Option String)
  | redeemInvitationViaDocument (call : RedemptionCall) (link : String)
      (trustedServerPublicKeyBase64 : Option String)
  | syncRoutes (calls : String → SyncCall) (force : Bool)

def SyncAction.program (L : SyncLibraries) (J : InvitationLibraries) : SyncAction → SyncM Unit
  | .redeemInvitation call link serverNode trusted => do
      let _ ← Sync.redeemInvitation L J call link serverNode trusted
      pure ()
  | .redeemInvitationViaDocument call link trusted => do
      let _ ← Sync.redeemInvitationViaDocument L J call link trusted
      pure ()
  | .syncRoutes calls force => do
      let _ ← Sync.syncRoutes L calls force
      pure ()

/-- No candidate the action may activate is older than what is stored. -/
def SyncAction.Current (L : SyncLibraries) (J : InvitationLibraries) (s : SyncState) :
    SyncAction → Prop
  | .redeemInvitation call link _ _ =>
    ∀ candidate key, Offered L J call s link candidate key → NotOlder L s candidate key
  | .redeemInvitationViaDocument call link _ =>
    ∀ candidate key, Offered L J call s link candidate key → NotOlder L s candidate key
  | .syncRoutes _ _ => True

/-- An action, which may be cut at any write, or anything else that leaves the storage alone. -/
inductive SyncStep (L : SyncLibraries) (J : InvitationLibraries)
    (P : SyncState → SyncAction → Prop) (s : SyncState) : SyncState → Prop
  | act {a : SyncAction} (fates : List (Fate Throwable)) (h : P s a) :
      SyncStep L J P s ((a.program L J).run s fates).2.1
  | outside {s' : SyncState} (h : s'.storage = s.storage) : SyncStep L J P s s'

variable {P : SyncState → SyncAction → Prop}

section Runs

variable {L : SyncLibraries} {J : InvitationLibraries} {c : String} {s s' : SyncState} {r : Int}
  {a : SyncAction}

theorem SyncAction.program_wp (hc : IsContext L c) (hcurrent : a.Current L J s)
    (hr : s.revision c = some r) :
    (a.program L J).wp (fun _ => Kept c r) (Kept c r) s := by
  have hs : s.AtLeast c r := ⟨r, Int.le_refl r, hr⟩
  have hkept : ∀ {m : SyncM Redeemed}, m.wp (fun _ => AtLeast c r)
      (AtLeast c r) s → (m >>= fun _ => pure ()).wp (fun _ => Kept c r) (Kept c r) s := fun hm =>
    wp_bind (wp_mono hm (fun _ _ h => wp_pure (Or.inr h)) fun _ h => Or.inr h)
  cases a with
  | redeemInvitation call link serverNode trusted =>
    exact hkept ((revision_stages hc (fun candidate key ho hof =>
      hcurrent candidate key ho c r hof hr) hs).redeemInvitation_wp rfl)
  | redeemInvitationViaDocument call link trusted =>
    exact hkept ((revision_stages hc (fun candidate key ho hof =>
      hcurrent candidate key ho c r hof hr) hs).redeemInvitationViaDocument_wp rfl)
  | syncRoutes calls force => exact wp_then (syncRoutes_wp hr) fun _ _ h => wp_pure h

theorem SyncStep.of_exec {result : Except Throwable Unit} (h : P s a)
    (hexec : (a.program L J).exec s = (result, s')) : SyncStep L J P s s' := by
  have hstep : SyncStep L J P s ((a.program L J).run s []).2.1 := .act [] h
  rwa [run_nil_state, hexec] at hstep

theorem SyncAction.program_exec_document {call : RedemptionCall} {link : String} {result : Redeemed}
    (h : (Sync.redeemInvitationViaDocument L J call link trusted).exec s = (.ok result, s')) :
    ((SyncAction.redeemInvitationViaDocument call link trusted).program L J).exec s =
      (.ok (), s') := by
  simp [SyncAction.program, h]

theorem SyncStep.of_cuts (h : P s a) (hcuts : (a.program L J).Cuts s s') : SyncStep L J P s s' := by
  obtain ⟨fates, hrun⟩ := hcuts
  have hstep : SyncStep L J P s ((a.program L J).run s fates).2.1 := .act fates h
  rwa [hrun] at hstep

/-- A step that does not clear the context does not lower its revision. -/
theorem SyncStep.atLeast (hc : IsContext L c)
    (hstep : SyncStep L J (fun s a => a.Current L J s) s s') (hkept : s'.revision c ≠ none)
    (hr : s.revision c = some r) : s'.AtLeast c r := by
  cases hstep with
  | act fates hcurrent =>
    exact (wp_final (SyncAction.program_wp hc hcurrent hr) fates).resolve_left hkept
  | outside hstorage =>
    refine ⟨r, Int.le_refl r, ?_⟩
    rw [← hr, SyncState.revision, hstorage]
    rfl

end Runs

/-- The revision stored for a context never decreases while the context is not cleared and no
redemption activates an older candidate. -/
theorem revision_never_decreases (L : SyncLibraries) (J : InvitationLibraries) (c : String)
    (s s' : SyncState) (r : Int) (hc : IsContext L c)
    (hrun : Relation.ReflTransGen (fun s s' =>
      SyncStep L J (fun s a => a.Current L J s) s s' ∧ s'.revision c ≠ none) s s')
    (hr : s.revision c = some r) : ∃ r', r ≤ r' ∧ s'.revision c = some r' := by
  induction hrun with
  | refl => exact ⟨r, Int.le_refl r, hr⟩
  | tail _ hstep ih =>
    obtain ⟨r₁, hle, hr₁⟩ := ih
    obtain ⟨r₂, hle₂, hr₂⟩ := SyncStep.atLeast hc hstep.1 hstep.2 hr₁
    exact ⟨r₂, Int.le_trans hle hle₂, hr₂⟩

/-- The context of the invitation. -/
def invitedContext : String := contextName invitedSync "phone-1" "user-1" serverKey1

theorem invitedContext_ne : invitedContext ≠ "" := by
  intro h
  have hlength := congrArg String.length h
  simp [invitedContext, contextName] at hlength

theorem candidate1_deviceId : enrolledDeviceId invitedSync candidate1 = "phone-1" := by
  have hblank : isBlank candidate1.deviceId = false := by decide
  rw [enrolledDeviceId, hblank]
  rfl

/-- The phone is enrolled in this context and in no other one. -/
structure Enrolled (s : SyncState) : Prop where
  holds : s.Holds invitedContext (enrolmentOf invitedSync candidate1 serverKey1)
  contexts : s.syncContexts = [invitedContext]
  legacy : s.text "" .deviceId = none

section Enrolled

variable {s s' : SyncState}

theorem Enrolled.of_activated (h : Activated invitedSync candidate1 serverKey1 s s')
    (hcontext : s.contextFor invitedSync candidate1 serverKey1 = invitedContext)
    (hcontexts : (s.syncContexts ++ [invitedContext]).eraseDups = [invitedContext])
    (hlegacy : s.text "" .deviceId = none) : Enrolled s' := by
  have hholds := h.holds
  have hnone : s'.text "" .deviceId = none := by
    rw [h.deviceIds "" (by rw [hcontext]; exact invitedContext_ne.symm), hlegacy]
  rw [hcontext] at hholds
  refine ⟨hholds, syncContexts_of_single hholds ?_ ?_ hnone, hnone⟩
  · rw [enrolmentOf, candidate1_deviceId]
    decide
  · rw [h.contexts, hcontext, hcontexts]

theorem Enrolled.congr (h : Enrolled s)
    (hindexed : s'.storage.get .syncContexts = s.storage.get .syncContexts)
    (htext : ∀ c, ∀ key ∈ [SyncKey.deviceId, .profileId, .docUrl, .secretKey, .trustedServerKey],
      s'.text c key = s.text c key) : Enrolled s' where
  holds := by
    obtain ⟨hd, hp, hu, hk, hs⟩ := h.holds
    constructor <;> rw [htext _ _ (by decide)] <;> assumption
  contexts := by
    have henrolled : s'.isEnrolled = s.isEnrolled := by
      funext c
      rw [isEnrolled, isEnrolled, htext c _ (by decide)]
    rw [← h.contexts, syncContexts, syncContexts, hindexed, henrolled]
  legacy := (htext _ _ (by decide)).trans h.legacy

theorem Enrolled.contextFor (h : Enrolled s) :
    s.contextFor invitedSync candidate1 serverKey1 = invitedContext :=
  enrolledContext_of_single h.holds h.contexts

theorem SyncStep.withdraws {J : InvitationLibraries}
    (hP : P s (.syncRoutes (fun _ => answered withdrawnReply) true)) (h : Enrolled s)
    (hrevision : s.revision invitedContext = some 1) :
    ∃ s', SyncStep invitedSync J P s s' ∧ Enrolled s' ∧ s'.revision invitedContext = some 2 ∧
      s'.redemptionCheckpoint invitedSync = s.redemptionCheckpoint invitedSync ∧
      s'.pinnedServerKey = s.pinnedServerKey := by
  have hrev : s.getLong invitedContext .revision 1 = 1 := by
    rw [getLong]
    exact congrArg (Option.getD · 1) hrevision
  have hverdict := withdrawnReply_read h.holds candidate1_deviceId rfl rfl (by rw [hrev]; decide)
  let calls : String → SyncCall := fun _ => answered withdrawnReply
  have hwithdrawn : syncVerdict invitedSync (calls invitedContext) true invitedContext s =
      .ok (.updated 2 s.currentTimeMillis []) := hverdict
  obtain ⟨result, s', hexec, hstorage, hpinned⟩ := syncRoutes_withdraws h.contexts hwithdrawn
  have hprogram : ((SyncAction.syncRoutes calls true).program invitedSync J).exec s =
      (.ok (), s') := by
    simp [SyncAction.program, hexec]
  refine ⟨s', SyncStep.of_exec hP hprogram, h.congr ?_ ?_, ?_, ?_, hpinned⟩
  · simp [hstorage, Storage.withdraw]
  · intro c key hkey
    have hnot : key ∉ [SyncKey.managedTunnelIds, .revision, .lastCheckedAt, .routesJson] := by
      revert key
      decide
    simp only [List.mem_cons, List.not_mem_nil, or_false, not_or] at hnot
    simp [text, hstorage, Storage.withdraw, hnot]
  · simp [SyncState.revision, hstorage, Storage.withdraw, Entry.asNumber]
  · funext link
    simp [redemptionCheckpoint, hstorage, Storage.withdraw]

theorem receipt1_keptFits : keptReceiptFits invitedSync checkpoint1 receipt1 = true := by
  have hop : (receipt1.opId == redemption1.opId) = true := beq_self_eq_true _
  have hprofile : (receipt1.profileId == redemption1.profileId) = true := beq_self_eq_true _
  have hsender : (redemption1.sender == invitedSync.recipient.publicKeyHashHex) = true :=
    beq_self_eq_true _
  simp only [keptReceiptFits, checkpoint1, receivedCheckpoint, sentCheckpoint, hop, hprofile,
    receipt1_verified, hsender, Bool.and_self]

theorem SyncStep.resumes
    (hP : P s (.redeemInvitationViaDocument invitedCall invitationLink none)) (h : Enrolled s)
    (hrecord : s.redemptionCheckpoint invitedSync invitationLink = some checkpoint1)
    (hpinned : s.pinnedServerKey = some serverKey1) :
    ∃ s', SyncStep invitedSync invitedLibraries P s s' ∧ Enrolled s' ∧
      s'.revision invitedContext = some 1 := by
  have havailable : [office].filter Tunnel.isAvailable = [office] := by simp
  obtain ⟨s₁, hexec, hactivated⟩ : ∃ s₁, (redeemInvitationViaDocument invitedSync invitedLibraries
      invitedCall invitationLink none).exec s = (_, _) ∧ _ :=
    redeemInvitationViaDocument_resumes invitationLink_not_bootstrap hpinned hrecord rfl rfl rfl
      receipt1_keptFits havailable fun t _ => phone_keyResolves t
  have henrolled : Enrolled s₁ := by
    refine .of_activated hactivated h.contextFor ?_ h.legacy
    rw [h.contexts]
    simp [List.eraseDups_cons]
  have hnumber := hactivated.revision
  rw [show checkpoint1.serverKey = serverKey1 from rfl, h.contextFor] at hnumber
  have hkept : ∀ c key, (s₁.keep { checkpoint1 with completed := true } s₁.files).storage.get
      (.context c key) = s₁.storage.get (.context c key) := fun c key =>
    Storage.get_context_put_redemption invitedSync _ c key _ invitationLink
  refine ⟨_, SyncStep.of_exec hP (SyncAction.program_exec_document hexec),
    henrolled.congr ?_ ?_, ?_⟩
  · exact Storage.get_syncContexts_put_redemption ..
  · intro c key _
    rw [text, text, hkept]
  · rw [SyncState.revision, hkept, hnumber]
    rfl

end Enrolled

theorem keptPhone_get (c : String) (key : SyncKey) :
    keptPhone.storage.get (.context c key) = none := by
  simp [keptPhone, keep, SyncState.sent, checkpoint1, sentCheckpoint, receivedCheckpoint,
    Storage.get_context_put_redemption, invitedPhone]

theorem keptPhone_syncContexts : keptPhone.syncContexts = [] := by
  have hindexed : keptPhone.storage.get .syncContexts = none := by
    simp [keptPhone, keep, SyncState.sent, checkpoint1, Storage.get_syncContexts_put_redemption,
      invitedPhone]
  have hnot : keptPhone.isEnrolled "" = false := by
    rw [isEnrolled, text, keptPhone_get]
    rfl
  simp [syncContexts, hindexed, hnot]

theorem keptPhone_contextFor :
    keptPhone.contextFor invitedSync candidate1 serverKey1 = invitedContext := by
  rw [contextFor, enrolledContext, keptPhone_syncContexts, candidate1_deviceId]
  rfl

/-- A phone that has activated the candidate it has kept. -/
structure Resumable (s : SyncState) : Prop extends Enrolled s where
  record : s.redemptionCheckpoint invitedSync invitationLink = some checkpoint1
  pinned : s.pinnedServerKey = some serverKey1
  current : s.revision invitedContext = some 1

theorem Resumable.of_activated {s : SyncState}
    (h : Activated invitedSync candidate1 serverKey1 keptPhone s) : Resumable s where
  toEnrolled := by
    refine .of_activated h keptPhone_contextFor ?_ ?_
    · rw [keptPhone_syncContexts]
      rfl
    · rw [text, keptPhone_get]
      rfl
  record := (h.checkpoint _).trans keptPhone_checkpoint
  pinned := h.pinned
  current := by
    rw [SyncState.revision, ← keptPhone_contextFor]
    exact congrArg (Option.bind · Entry.asNumber) h.revision

def enrolledPhone : SyncState :=
  { keptPhone with storage := enrolledStorage invitedSync keptPhone candidate1 serverKey1 }

theorem enrolledPhone_revision {c : String} {r : Int} (h : enrolledPhone.revision c = some r) :
    r = 1 := by
  by_cases hc : c = keptPhone.contextFor invitedSync candidate1 serverKey1
  · have hr : r = candidate1.revision := by
      simpa [SyncState.revision, enrolledPhone, enrolledStorage, hc, Entry.asNumber] using h.symm
    exact hr
  · simp [SyncState.revision, enrolledPhone, enrolledStorage, hc, keptPhone_get] at h

theorem enrolledPhone_current :
    (SyncAction.redeemInvitationViaDocument invitedCall invitationLink none).Current invitedSync
      invitedLibraries enrolledPhone := by
  intro candidate key hoffered c r _ hr
  rw [enrolledPhone_revision hr]
  have hresumable : Resumable enrolledPhone := .of_activated enrolledStorage_activated
  cases hoffered with
  | kept hrecord hcandidate =>
    obtain rfl := Option.some.inj (hresumable.record.symm.trans hrecord)
    obtain rfl := Option.some.inj hcandidate
    decide
  | carried h =>
    obtain ⟨_, plain, -, hpayload, -, rfl⟩ := ServerIssuedInvitation.verifyCandidate_eq_ok_iff.1 h
    have hcomplete := (ServerIssuedInvitation.openPayload_eq_ok_iff.1 hpayload).1.complete
    simp only [Bool.and_eq_true, decide_eq_true_eq] at hcomplete
    exact hcomplete.1.1
  | replied hparse =>
    simp [BootstrapInvitation.parse, invitationLink_not_bootstrap, require] at hparse

/-- The phone resumes a redemption that was cut, and synchronises; the revision grows. -/
theorem revision_never_decreases_enrolledPhone : ∃ s',
      Relation.ReflTransGen (fun s s' => SyncStep invitedSync invitedLibraries
          (fun s a => a.Current invitedSync invitedLibraries s) s s' ∧
            s'.revision invitedContext ≠ none) enrolledPhone s' ∧
      s'.revision invitedContext = some 2 ∧
        ∃ r', 1 ≤ r' ∧ s'.revision invitedContext = some r' := by
  have hresumable : Resumable enrolledPhone := .of_activated enrolledStorage_activated
  obtain ⟨s, hresumed, henrolled, hrevision⟩ := SyncStep.resumes
    (P := fun s a => a.Current invitedSync invitedLibraries s) enrolledPhone_current
    hresumable.toEnrolled hresumable.record hresumable.pinned
  obtain ⟨s', hsynced, -, hrevision', -⟩ := SyncStep.withdraws (J := invitedLibraries)
    (P := fun s a => a.Current invitedSync invitedLibraries s) trivial henrolled hrevision
  have hrun := (Relation.ReflTransGen.single (r := fun s s' => SyncStep invitedSync invitedLibraries
      (fun s a => a.Current invitedSync invitedLibraries s) s s' ∧
        s'.revision invitedContext ≠ none)
    ⟨hresumed, by simp [hrevision]⟩).tail ⟨hsynced, by simp [hrevision']⟩
  exact ⟨s', hrun, hrevision', revision_never_decreases invitedSync invitedLibraries _
    enrolledPhone s' 1 (Or.inr ⟨_, _, _, rfl⟩) hrun hresumable.current⟩

/-- A redemption is cut before its last write, a synchronisation takes the routes away, and the
redemption is resumed: the candidate that was kept is activated again. -/
theorem revision_decreases : ¬ ∀ (L : SyncLibraries) (J : InvitationLibraries) (c : String)
    (s₀ s s' : SyncState) (r : Int), s₀.storage = Storage.empty → IsContext L c →
      Relation.ReflTransGen (SyncStep L J fun _ _ => True) s₀ s →
      Relation.ReflTransGen (fun s s' =>
        SyncStep L J (fun _ _ => True) s s' ∧ s'.revision c ≠ none) s s' →
      s.revision c = some r → ∃ r', r ≤ r' ∧ s'.revision c = some r' := by
  intro h
  obtain ⟨s₁, hcuts, hactivated⟩ := invitedPhone_cuts
  have hstep₁ : SyncStep invitedSync invitedLibraries (fun _ _ => True) invitedPhone s₁ :=
    SyncStep.of_cuts (a := .redeemInvitationViaDocument invitedCall invitationLink none) trivial
      (cuts_bind_left hcuts)
  have hresumable : Resumable s₁ := .of_activated hactivated
  obtain ⟨s₂, hstep₂, henrolled, hrevision₂, hrecord, hpinned⟩ := SyncStep.withdraws
    (J := invitedLibraries) (P := fun _ _ => True) trivial hresumable.toEnrolled hresumable.current
  obtain ⟨s₃, hstep₃, -, hrevision₃⟩ := SyncStep.resumes (P := fun _ _ => True) trivial henrolled
    ((congrFun hrecord _).trans hresumable.record) (hpinned.trans hresumable.pinned)
  obtain ⟨r', hle, hr'⟩ := h invitedSync invitedLibraries invitedContext invitedPhone s₂ s₃ 2 rfl
    (Or.inr ⟨_, _, _, rfl⟩) ((Relation.ReflTransGen.single hstep₁).tail hstep₂)
    (.single ⟨hstep₃, by simp [hrevision₃]⟩) hrevision₂
  rw [hrevision₃, Option.some.injEq] at hr'
  omega

end LibreRoute.Sync
