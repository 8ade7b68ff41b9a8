import LibreRoute.Sync.Exchange

/-!
What a synchronisation does to the stored tunnels and to the entries of
the other contexts, whatever the reply and wherever it stops, and when it
keeps the ids of the tunnels distinct.
-/

namespace LibreRoute.Sync

open Lib Tunnels SyncState
open Admin (Throwable)
open DirectDpiProfile (create)
open Tunnel (isAvailable)

/-! ### What a synchronisation leaves -/

variable {tunnels : List Tunnel} {now rev : Int} {routes : List RouteCandidate} {ids : List Int}

section Left

variable (L : SyncLibraries) (call : SyncCall) (force : Bool) (c : String) (s : SyncState)

/-- The incoming tunnels, if the reply has some and they could be made. -/
def incomingTunnels (fates : List (Fate Throwable)) : Option (List Tunnel) :=
  match syncVerdict L call force c s with
  | .ok (.updated _ _ routes) =>
    match (madeOf L c s call.moments routes).run s.files fates with
    | (.ok tunnels, _, _) => some tunnels
    | _ => none
  | _ => none

/-- What is left of the tunnels and entries that are not the context's own. A tunnel that has
the content of an incoming one and the id this is given is stored again, with a key file of
its own. -/
structure LeavesOthers (incoming : Option (List Tunnel)) (s' : SyncState) : Prop where
  tunnels : ∀ t ∈ connections s.store.stored, t.id ∉ s.managedTunnelIds c →
    (∀ tunnels ∈ incoming, t ∉ tunnels) →
      t ∈ connections s'.store.stored ∨
        ∃ tunnels ∈ incoming, t ∈ givens L c (s.others c) (tunnels.filter isAvailable) ∧
          ∃ key, withLocalKey L.device t key ∈ s'.store.stored
  entries : ∀ c' key, c' ≠ c → s'.storage.get (.context c' key) = s.storage.get (.context c' key)

variable {L call force c s} {incoming : Option (List Tunnel)} {s' : SyncState}

theorem LeavesOthers.of_load (hstored : connections s'.store.stored = connections s.store.stored)
    (hstorage : s'.storage = s.storage) : LeavesOthers L c s incoming s' where
  tunnels t ht _ _ := Or.inl (hstored ▸ ht)
  entries c' key _ := by rw [hstorage]

theorem SyncState.mem_others {t : Tunnel} (ht : t ∈ connections s.store.stored)
    (hid : t.id ∉ s.managedTunnelIds c) : t ∈ s.others c := by
  refine List.mem_filter.2 ⟨List.mem_filter.2 ⟨ht, isAvailable_of_mem_connections ht⟩, ?_⟩
  simpa using hid

theorem Prepared.exists_mem {d : Device} {gs ps : List Tunnel} (h : Prepared d gs ps) {g : Tunnel}
    (hg : g ∈ gs) : ∃ key, withLocalKey d g key ∈ ps := by
  induction h with
  | nil => simp at hg
  | cons hp _ ih =>
    obtain ⟨-, key, -, rfl⟩ := hp
    rcases List.mem_cons.1 hg with rfl | hg
    · exact ⟨key, List.mem_cons_self⟩
    · obtain ⟨key', hkey'⟩ := ih hg
      exact ⟨key', List.mem_cons_of_mem _ hkey'⟩

theorem LeavesOthers.of_save {prepared : List Tunnel}
    (hincoming : tunnels ∈ incoming ∨ tunnels = [])
    (hprepared : Prepared L.device (givens L c (s.others c) (tunnels.filter isAvailable))
      prepared) (hstored : s'.store.stored =
      remaining L c (s.others c) (tunnels.filter isAvailable) ++ prepared)
    (hstorage : s'.storage = s.storage) : LeavesOthers L c s incoming s' where
  tunnels t ht hid hnot := by
    by_cases hgiven : t ∈ givens L c (s.others c) (tunnels.filter isAvailable)
    · rcases hincoming with hincoming | rfl
      · obtain ⟨key, hkey⟩ := hprepared.exists_mem hgiven
        exact Or.inr ⟨tunnels, hincoming, hgiven, key, hstored ▸ List.mem_append_right _ hkey⟩
      · simp [givens] at hgiven
    · have hnotin : t ∉ tunnels.filter isAvailable := by
        rcases hincoming with hincoming | rfl
        · exact fun hmem => hnot tunnels hincoming (List.mem_filter.1 hmem).1
        · simp
      have hremaining : t ∈ remaining L c (s.others c) (tunnels.filter isAvailable) :=
        mem_remaining.2 ⟨mem_others ht hid, hnotin, hgiven⟩
      exact Or.inl (mem_connections_of_mem ht (hstored ▸ List.mem_append_left _ hremaining))
  entries c' key _ := by rw [hstorage]

theorem LeavesOthers.put (h : LeavesOthers L c s incoming s') (key : SyncKey)
    (value : Option Entry) :
    LeavesOthers L c s incoming
      { s' with storage := s'.storage.put (.context c key) value } where
  tunnels := h.tunnels
  entries c' key' hc := by
    rw [← h.entries c' key' hc, Storage.get_put_context, if_neg fun heq => hc heq.1]

instance {key : SyncKey} : Overlooks (LeavesOthers L c s incoming) (.context c key) :=
  ⟨fun value _ h => h.put key value⟩

instance : Overlooks (LeavesOthers L c s incoming) .syncContexts where
  put _ _ h := ⟨h.tunnels, fun c' key hc => by
    rw [← h.entries c' key hc, Storage.get_put_syncContexts]⟩

instance : Overlooks (LeavesOthers L c s incoming) .activeSyncContext where
  put _ _ h := ⟨h.tunnels, fun c' key hc => by
    rw [← h.entries c' key hc, Storage.get_put_activeSyncContext]⟩

theorem LeavesOthers.updateManagedTunnels_wp {s₁ : SyncState}
    (hincoming : tunnels ∈ incoming ∨ tunnels = [])
    (hstored : connections s₁.store.stored = connections s.store.stored)
    (hstorage : s₁.storage = s.storage) :
    (updateManagedTunnels L c tunnels).wp (fun _ => LeavesOthers L c s incoming)
      (LeavesOthers L c s incoming) s₁ := by
  have hothers : s₁.others c = s.others c := by
    simp only [others, unmanaged, managedTunnelIds, hstored, hstorage]
  refine Sync.updateManagedTunnels_wp (fun store files hstore => ?_)
    (fun store files prepared hprepared hstore => ?_)
    fun store files prepared hprepared hstore => ?_
  · refine LeavesOthers.of_load ?_ hstorage
    rcases hstore with hstore | hstore
    · rw [hstore, hstored]
    · rw [hstore, connections_connections, hstored]
  · rw [hothers] at hprepared hstore
    exact LeavesOthers.of_save hincoming hprepared hstore hstorage
  · rw [hothers] at hprepared hstore
    have hsaved : LeavesOthers L c s incoming { s₁ with store := store, files := files } :=
      LeavesOthers.of_save hincoming hprepared hstore hstorage
    exact hsaved.put _ _

theorem stopActiveTunnelIfManaged_wp {Q : Bool → SyncState → Prop} {E : SyncState → Prop}
    (h : ∀ b stopped, Q b { s with vpnStopped := stopped }) :
    (stopActiveTunnelIfManaged ids).wp Q E s := by
  refine wp_bind (wp_read ?_)
  split
  · exact wp_bind (wp_modify (wp_pure (h _ _)))
  · exact wp_pure (h _ s.vpnStopped)

theorem stopReplacedTunnel_wp {Q : Unit → SyncState → Prop} {E : SyncState → Prop}
    (h : ∀ store stopped, store.stored = s.store.stored ∨
      store.stored = connections s.store.stored →
        Q () { s with store := store, vpnStopped := stopped })
    (hE : ∀ store, store.stored = s.store.stored ∨ store.stored = connections s.store.stored →
      E { s with store := store }) : (stopReplacedTunnel ids tunnels).wp Q E s := by
  refine wp_bind (wp_read ?_)
  split
  · exact wp_pure (h s.store s.vpnStopped (Or.inl rfl))
  · refine wp_bind (onStore_wp (TunnelStore.load_wp (fun store hstore => ?_) hE))
    refine wp_when (fun _ => ?_) fun _ => h store s.vpnStopped (Or.inr hstore)
    exact wp_bind (stopActiveTunnelIfManaged_wp fun _ stopped =>
      wp_pure (h store stopped (Or.inr hstore)))

theorem LeavesOthers.publish_wp {s₁ : SyncState} (hincoming : tunnels ∈ incoming)
    (hstored : connections s₁.store.stored = connections s.store.stored)
    (hstorage : s₁.storage = s.storage) :
    (publish L c ids rev now routes tunnels).wp (fun _ => LeavesOthers L c s incoming)
      (LeavesOthers L c s incoming) s₁ := by
  have hloaded : ∀ store : TunnelStore, store.stored = s₁.store.stored ∨
      store.stored = connections s₁.store.stored →
        connections store.stored = connections s.store.stored := by
    rintro store (hstore | hstore)
    · rw [hstore, hstored]
    · rw [hstore, connections_connections, hstored]
  refine wp_bind (stopReplacedTunnel_wp (fun store stopped hstore => ?_)
    fun store hstore => LeavesOthers.of_load (hloaded store hstore) hstorage)
  refine wp_then (updateManagedTunnels_wp (Or.inl hincoming) (hloaded store hstore) hstorage) fun _
      s₂ h => ?_
  exact Keeping.keeps s₂ h

theorem syncRouteContext_run {fates : List (Fate Throwable)}
    (h : syncVerdict L call force c s = .ok (.updated rev now routes)) :
    (syncRouteContext L call force c).run s fates =
      (onFiles (madeOf L c s call.moments routes) >>=
        publish L c (s.managedTunnelIds c) rev now routes).run s fates := by
  change ((Prog.ofExcept (syncVerdict L call force c s)).bind _).run s fates = _
  rw [h]
  rfl

/-- Wherever it stops, a synchronisation leaves what is not the context's own. -/
theorem syncRouteContext_leavesOthers (fates : List (Fate Throwable)) :
    LeavesOthers L c s (incomingTunnels L call force c s fates)
      ((syncRouteContext L call force c).run s fates).2.1 := by
  by_cases hupdated : ∃ rev now routes, syncVerdict L call force c s = .ok (.updated rev now routes)
  · obtain ⟨rev, now, routes, hverdict⟩ := hupdated
    rw [syncRouteContext_run hverdict]
    refine final_bind (fun tunnels s₁ fates' hmade => ?_) fun _ => ?_
    · obtain ⟨hok, rfl⟩ : ((madeOf L c s call.moments routes).run s.files fates).1 = .ok tunnels ∧
          { s with files := ((madeOf L c s call.moments routes).run s.files fates).2.1 } = s₁ :=
        ⟨congrArg Prod.fst hmade, congrArg (fun r => r.2.1) hmade⟩
      have hincoming : tunnels ∈ incomingTunnels L call force c s fates := by
        unfold incomingTunnels
        rw [hverdict]
        rcases hrun : (madeOf L c s call.moments routes).run s.files fates with ⟨o, files, rest⟩
        rw [hrun] at hok
        obtain rfl : o = .ok tunnels := hok
        simp [hrun]
      refine wp_final ?_ fates'
      exact LeavesOthers.publish_wp hincoming rfl rfl
    · exact LeavesOthers.of_load rfl rfl
  · refine wp_final ?_ fates
    refine wp_bind (wp_read (wp_bind (wp_ofExcept ?_ ?_)))
    · intro verdict hverdict
      have hsame : LeavesOthers L c s (incomingTunnels L call force c s fates) s :=
        LeavesOthers.of_load rfl rfl
      cases verdict with
      | failed error => exact wp_pure hsame
      | recent revision lastCheckedAt => exact wp_pure hsame
      | unchanged revision now =>
        exact Keeping.keeps s hsame
      | updated rev now routes => exact absurd ⟨rev, now, routes, hverdict⟩ hupdated
      | revoked =>
        refine wp_bind (wp_read (wp_bind (stopActiveTunnelIfManaged_wp fun _ stopped => ?_)))
        refine wp_then (LeavesOthers.updateManagedTunnels_wp (Or.inr rfl) rfl rfl) fun _ s₁ h => ?_
        exact Keeping.keeps s₁ h
    · exact LeavesOthers.of_load rfl rfl

end Left

/-! ### The undisturbed synchronisation -/

section Exec

variable {L : SyncLibraries} {call : SyncCall} {force : Bool} {c : String} {s : SyncState}

theorem stopReplacedTunnel_exec (ids : List Int) (tunnels : List Tunnel) (s : SyncState) :
    ∃ store stopped, (stopReplacedTunnel ids tunnels).exec s =
        (.ok (), { s with store := store, vpnStopped := stopped }) ∧
      connections store.stored = connections s.store.stored := by
  rcases hselected : s.store.getSelectedId.filter ids.contains with _ | selectedId
  · exact ⟨s.store, s.vpnStopped, by simp [stopReplacedTunnel, hselected], rfl⟩
  · let loaded : TunnelStore :=
      { stored := connections s.store.stored
        selectedPreference := s.store.repairedSelection (connections s.store.stored) }
    refine ⟨loaded, s.vpnStopped ||
      (! stillPresent (connections s.store.stored) tunnels selectedId &&
        loaded.getSelectedId.any [selectedId].contains), ?_, by simp [loaded]⟩
    simp only [stopReplacedTunnel, exec_bind, exec_read, hselected, onStore_exec,
      TunnelStore.load_exec, exec_when, stopActiveTunnelIfManaged]
    rcases hpresent : stillPresent (connections s.store.stored) tunnels selectedId
    · by_cases hstop : loaded.getSelectedId.any [selectedId].contains = true
      · simp [loaded, hstop] at hstop ⊢
      · simp [loaded, hstop] at hstop ⊢
    · simp [loaded]

theorem publish_store (ids : List Int) (rev now : Int) (routes : List RouteCandidate)
    (tunnels : List Tunnel) (s : SyncState) :
    ∃ store stopped, connections store.stored = connections s.store.stored ∧
      ((publish L c ids rev now routes tunnels).exec s).2.store =
        ((updateManagedTunnels L c tunnels).exec
          { s with store := store, vpnStopped := stopped }).2.store := by
  obtain ⟨store, stopped, hstop, hstored⟩ := stopReplacedTunnel_exec ids tunnels s
  refine ⟨store, stopped, hstored, ?_⟩
  simp only [publish, exec_bind, hstop]
  rcases (updateManagedTunnels L c tunnels).exec _ with ⟨_ | _, _⟩ <;> simp

section

variable (h : syncVerdict L call force c s = .ok (.updated rev now routes))

include h

theorem syncRouteContext_exec :
    (syncRouteContext L call force c).exec s =
      (onFiles (madeOf L c s call.moments routes) >>=
        publish L c (s.managedTunnelIds c) rev now routes).exec s := by
  simp [syncRouteContext, h, applyUpdate]

theorem incomingTunnels_of_made {files : FileSystem}
    (hmade : (madeOf L c s call.moments routes).exec s.files = (.ok tunnels, files)) :
    incomingTunnels L call force c s [] = some tunnels := by
  have hrun := (madeOf L c s call.moments routes).run_nil s.files
  rw [hmade] at hrun
  simp [incomingTunnels, h, hrun]

theorem syncRouteContext_stored {files : FileSystem}
    (hmade : (madeOf L c s call.moments routes).exec s.files = (.ok tunnels, files))
    (hkeys : ∀ t ∈ tunnels.filter isAvailable, KeyResolves L.device t) :
    ∃ prepared,
      Prepared L.device (givens L c (s.others c) (tunnels.filter isAvailable)) prepared ∧
      ((syncRouteContext L call force c).exec s).2.store.stored =
        remaining L c (s.others c) (tunnels.filter isAvailable) ++ prepared := by
  obtain ⟨store, stopped, hstored, hstore⟩ := publish_store
    (s.managedTunnelIds c) rev now routes tunnels { s with files := files }
  set s₁ : SyncState := { s with files := files, store := store, vpnStopped := stopped } with hs₁
  have hothers : s₁.others c = s.others c := by
    rw [others, others, hs₁, hstored]
    rfl
  obtain ⟨prepared, files', selected, hexec, hprepared⟩ :=
    updateManagedTunnels_ok hkeys
  rw [hothers] at hprepared hexec
  refine ⟨prepared, hprepared, ?_⟩
  rw [syncRouteContext_exec h]
  simp only [exec_bind, onFiles_exec, hmade]
  rw [hstore, hexec]

end

end Exec

/-- A synchronisation touches only its own context: a loaded tunnel that is not the context's
own and equals no incoming one is loaded afterwards, unless it has the id that an incoming
tunnel of its content is given; it then is stored with a key file of its own. The entries of
the other contexts stay. -/
theorem syncRouteContext_touches_own (L : SyncLibraries) (call : SyncCall) (force : Bool)
    (c : String) (s : SyncState) (fates : List (Fate Throwable)) :
    (∀ t ∈ connections s.store.stored, t.id ∉ s.managedTunnelIds c →
      (∀ tunnels ∈ incomingTunnels L call force c s fates, t ∉ tunnels) →
        t ∈ connections ((syncRouteContext L call force c).run s fates).2.1.store.stored ∨
          ∃ tunnels ∈ incomingTunnels L call force c s fates,
            t ∈ givens L c (s.others c) (tunnels.filter isAvailable) ∧
              ∃ key, withLocalKey L.device t key ∈
                ((syncRouteContext L call force c).run s fates).2.1.store.stored) ∧
    ∀ c' key, c' ≠ c →
      ((syncRouteContext L call force c).run s fates).2.1.storage.get (.context c' key) =
        s.storage.get (.context c' key) :=
  ⟨(syncRouteContext_leavesOthers fates).tunnels, (syncRouteContext_leavesOthers fates).entries⟩

/-- The reply with one route leaves the built-in profile. -/
theorem syncRouteContext_touches_own_create :
    create ∈ connections (phoneState [create]).store.stored ∧
      create.id ∉ (phoneState [create]).managedTunnelIds "" ∧
      (∀ tunnels ∈ incomingTunnels (phoneSync 0) (answered updatedReply) true ""
        (phoneState [create]) [], create ∉ tunnels) ∧
      (create ∈ connections ((syncRouteContext (phoneSync 0) (answered updatedReply) true "").run
          (phoneState [create]) []).2.1.store.stored ∨
        ∃ tunnels ∈ incomingTunnels (phoneSync 0) (answered updatedReply) true ""
            (phoneState [create]) [],
          create ∈ givens (phoneSync 0) "" ((phoneState [create]).others "")
            (tunnels.filter isAvailable) ∧
            ∃ key, withLocalKey (phoneSync 0).device create key ∈
              ((syncRouteContext (phoneSync 0) (answered updatedReply) true "").run
                (phoneState [create]) []).2.1.store.stored) := by
  have hloaded : create ∈ connections (phoneState [create]).store.stored := by
    rw [phoneState_connections (by simp) (by simp)]
    simp
  have hid : create.id ∉ (phoneState [create]).managedTunnelIds "" := by
    simp [phoneState_managedTunnelIds]
  have hincoming : ∀ tunnels ∈ incomingTunnels (phoneSync 0) (answered updatedReply) true ""
      (phoneState [create]) [], create ∉ tunnels := by
    rw [incomingTunnels_of_made (phoneState_updated 0 true [create]) (phoneState_made 0 [create])]
    rintro tunnels ⟨⟩ hmem
    exact absurd (congrArg Tunnel.id (List.mem_singleton.1 hmem)) (by decide)
  exact ⟨hloaded, hid, hincoming, (syncRouteContext_touches_own (phoneSync 0)
    (answered updatedReply) true "" (phoneState [create]) []).1 create hloaded hid hincoming⟩

def home : Tunnel := { office with name := "Home" }

/-- A tunnel of the content of `office` that already has the id this is given. Its key file is
that of the other id. -/
def twin : Tunnel := officeTunnel (-3093772368168959395) 1767225600000123

theorem twin_isAvailable : ∀ t ∈ [home, twin], t.isAvailable = true := by
  rw [List.forall_mem_cons, List.forall_mem_singleton]
  exact ⟨office_isAvailable, officeTunnel_isAvailable _ _⟩

theorem twin_not_direct : ∀ t ∈ [home, twin], DirectDpiProfile.isDirect t = false := by
  rw [List.forall_mem_cons, List.forall_mem_singleton]
  exact ⟨officeTunnel_not_direct 1767225600000123 1767225600000123, officeTunnel_not_direct _ _⟩

theorem twin_given :
    givens (phoneSync 3093772368168959395) "" ((phoneState [create, home, twin]).others "")
      ([office].filter isAvailable) = [twin] := by
  have hothers : without ((phoneState [create, home, twin]).others "") office =
      [create, home, twin] := by
    rw [phoneState_others twin_isAvailable twin_not_direct]
    decide
  have hgiven : given (phoneSync 3093772368168959395) "" [create, home, twin] office = twin := by
    refine given_of_digest_free ⟨home, by simp, rfl⟩ fun u hu hid => ?_
    change u.id = -3093772368168959395 at hid
    simp only [List.mem_cons, List.not_mem_nil, or_false] at hu
    rcases hu with rfl | rfl | rfl
    · exact absurd hid (by decide)
    · exact absurd hid (by decide)
    · rfl
  simp [givens, hothers, hgiven]

theorem twin_lost :
    twin ∉ connections ((syncRouteContext (phoneSync 3093772368168959395)
      (answered updatedReply) true "").exec (phoneState [create, home, twin])).2.store.stored := by
  intro hkept
  obtain ⟨prepared, hprepared, hstored⟩ := syncRouteContext_stored
    (phoneState_updated 3093772368168959395 true [create, home, twin])
    (phoneState_made 3093772368168959395 [create, home, twin]) fun t _ => phone_keyResolves t
  have hmem := mem_connections_of_not_direct (officeTunnel_not_direct _ _) hkept
  rw [hstored] at hmem
  rw [twin_given] at hprepared
  rcases List.mem_append.1 hmem with hmem | hmem
  · refine (mem_remaining.1 hmem).2.2 ?_
    rw [twin_given]
    exact List.mem_singleton_self twin
  · -- what is stored in its place names the key file of its own id
    cases hprepared with
    | cons hp htail =>
      cases htail
      obtain ⟨-, key, -, rfl⟩ := hp
      exact officeTunnel_ne_withLocalKey (by decide) key (List.mem_singleton.1 hmem)

/-- The tunnel of the route clashes with one of the user's, and is given an id that a tunnel of
its content already has. -/
theorem syncRouteContext_rewrites_twin : ¬ ∀ (L : SyncLibraries) (call : SyncCall) (force : Bool)
    (c : String) (s : SyncState) (fates : List (Fate Throwable)),
    (∀ t ∈ connections s.store.stored, t.id ∉ s.managedTunnelIds c →
      (∀ tunnels ∈ incomingTunnels L call force c s fates, t ∉ tunnels) →
        t ∈ connections ((syncRouteContext L call force c).run s fates).2.1.store.stored) ∧
    ∀ c' key, c' ≠ c →
      ((syncRouteContext L call force c).run s fates).2.1.storage.get (.context c' key) =
        s.storage.get (.context c' key) := by
  intro h
  have hkept := (h (phoneSync 3093772368168959395) (answered updatedReply) true ""
    (phoneState [create, home, twin]) []).1 twin
  rw [run_nil_state, phoneState_connections twin_isAvailable twin_not_direct] at hkept
  refine twin_lost (hkept (by simp) (by simp) ?_)
  rw [incomingTunnels_of_made (phoneState_updated 3093772368168959395 true [create, home, twin])
    (phoneState_made 3093772368168959395 [create, home, twin])]
  rintro tunnels ⟨⟩ hmem
  exact absurd (congrArg Tunnel.id (List.mem_singleton.1 hmem)) (by decide)

/-! ### Distinct ids -/

section Distinct

variable {L : SyncLibraries} {call : SyncCall} {force : Bool} {c : String} {s : SyncState}

theorem keepsDistinct_congr {s' : SyncState} {incoming : List Tunnel}
    (hstored : connections s'.store.stored = connections s.store.stored)
    (hstorage : s'.storage = s.storage) :
    KeepsDistinct L c s' incoming ↔ KeepsDistinct L c s incoming := by
  simp only [KeepsDistinct, others, unmanaged, managedTunnelIds, hstored, hstorage]

theorem publish_nodup_iff (hloaded : (connections s.store.stored).Nodup) :
    (((publish L c ids rev now routes tunnels).exec s).2.store.stored.map (·.id)).Nodup ↔
      KeepsDistinct L c s (tunnels.filter isAvailable) := by
  obtain ⟨store, stopped, hstored, hstore⟩ :=
    publish_store ids rev now routes tunnels s
  rw [hstore, updateManagedTunnels_nodup_iff (hstored ▸ hloaded)]
  exact keepsDistinct_congr hstored rfl

theorem syncRouteContext_nodup_iff (hdistinct : (s.store.stored.map (·.id)).Nodup)
    (h : syncVerdict L call force c s = .ok (.updated rev now routes)) :
    (((syncRouteContext L call force c).exec s).2.store.stored.map (·.id)).Nodup ↔
      ∀ tunnels ∈ incomingTunnels L call force c s [],
        KeepsDistinct L c s (tunnels.filter isAvailable) := by
  rw [syncRouteContext_exec h]
  rcases hmade : (madeOf L c s call.moments routes).exec s.files with ⟨e | tunnels, files⟩
  · have hrun := (madeOf L c s call.moments routes).run_nil s.files
    rw [hmade] at hrun
    simp [incomingTunnels, h, hrun, hmade, hdistinct]
  · have hloaded := connections_nodup hdistinct
    simp only [exec_bind, onFiles_exec, hmade, incomingTunnels_of_made h hmade,
      Option.mem_def, Option.some.injEq, forall_eq']
    rw [publish_nodup_iff (s := { s with files := files }) hloaded]
    exact keepsDistinct_congr rfl rfl

/-- The stored ids stay distinct when the tunnels of a context are replaced, and when a reply
with routes is handled, exactly if what stays and what comes in allow it. -/
theorem ids_stay_distinct_iff (L : SyncLibraries) (c : String) (s : SyncState)
    (hdistinct : (s.store.stored.map (·.id)).Nodup) :
    (∀ newTunnels : List Tunnel,
      (((updateManagedTunnels L c newTunnels).exec s).2.store.stored.map (·.id)).Nodup ↔
        KeepsDistinct L c s (newTunnels.filter isAvailable)) ∧
    (∀ call force rev now routes,
      syncVerdict L call force c s = .ok (.updated rev now routes) →
        ((((syncRouteContext L call force c).exec s).2.store.stored.map (·.id)).Nodup ↔
          ∀ tunnels ∈ incomingTunnels L call force c s [],
            KeepsDistinct L c s (tunnels.filter isAvailable))) :=
  ⟨fun _ => updateManagedTunnels_nodup_iff (connections_nodup hdistinct),
    fun _ _ _ _ _ h => syncRouteContext_nodup_iff hdistinct h⟩

/-- The reply with one route, on a phone that has the built-in profile only. -/
theorem ids_stay_distinct_iff_office :
    ((phoneState [create]).store.stored.map (·.id)).Nodup ∧
      (∀ tunnels ∈ incomingTunnels (phoneSync 0) (answered updatedReply) true ""
          (phoneState [create]) [],
        KeepsDistinct (phoneSync 0) "" (phoneState [create]) (tunnels.filter isAvailable)) ∧
      (((syncRouteContext (phoneSync 0) (answered updatedReply) true "").exec
        (phoneState [create])).2.store.stored.map (·.id)).Nodup := by
  have hdistinct : ((phoneState [create]).store.stored.map (·.id)).Nodup := by simp [phoneState]
  have hkeeps : ∀ tunnels ∈ incomingTunnels (phoneSync 0) (answered updatedReply) true ""
      (phoneState [create]) [],
      KeepsDistinct (phoneSync 0) "" (phoneState [create]) (tunnels.filter isAvailable) := by
    rw [incomingTunnels_of_made (phoneState_updated 0 true [create]) (phoneState_made 0 [create])]
    rintro tunnels ⟨⟩
    have hothers : (phoneState [create]).others "" = [create] :=
      phoneState_others (by simp) (by simp)
    refine ⟨fun _ => ⟨?_, by simp [Apart, ApartFrom]⟩, absurd fun t _ => phone_keyResolves t⟩
    rw [hothers]
    exact (List.filter_sublist.map _).nodup (by simp)
  exact ⟨hdistinct, hkeeps, ((ids_stay_distinct_iff (phoneSync 0) "" (phoneState [create])
    hdistinct).2 _ _ _ _ _ (phoneState_updated 0 true [create])).2 hkeeps⟩

/-- Two routes whose tunnels were made in the same millisecond with the same random number. -/
theorem ids_not_distinct : ¬ ∀ (L : SyncLibraries) (c : String) (s : SyncState),
    (s.store.stored.map (·.id)).Nodup →
      (∀ newTunnels : List Tunnel,
        (((updateManagedTunnels L c newTunnels).exec s).2.store.stored.map (·.id)).Nodup) ∧
      (∀ call force rev now routes,
        syncVerdict L call force c s = .ok (.updated rev now routes) →
          (((syncRouteContext L call force c).exec s).2.store.stored.map (·.id)).Nodup) := by
  intro h
  have hdistinct : ((phoneState [create]).store.stored.map (·.id)).Nodup := by simp [phoneState]
  have hafter := (h (phoneSync 0) "" (phoneState [create]) hdistinct).1 [office, home]
  rw [updateManagedTunnels_nodup_iff (connections_nodup hdistinct)] at hafter
  have havailable : [office, home].filter isAvailable = [office, home] := by
    have hhome : home.isAvailable = true := office_isAvailable
    simp [hhome]
  rw [havailable] at hafter
  obtain ⟨-, -, hapart, -⟩ := hafter.1 fun t _ => phone_keyResolves t
  -- neither clashes with what is stored, and they are not compared with each other
  have hkept : ∀ C ⊆ (phoneState [create]).others "", ∀ t : Tunnel, t.id = 1767225600000123 →
      given (phoneSync 0) "" C t = t := by
    intro C hC t ht
    refine given_of_no_clash ?_
    rintro ⟨u, hu, hid⟩
    have hu' := (others_sublist _ _).subset (hC hu)
    rw [phoneState_connections (by simp) (by simp)] at hu'
    obtain rfl : u = create := by simpa using hu'
    rw [ht] at hid
    exact absurd hid (by decide)
  refine hapart office (by simp [hkept _ (without_subset _ _) office rfl]) ?_
  rw [hkept _ (fun u hu => without_subset _ _ (without_subset _ _ (without_subset _ _ hu)))
    home rfl]
  rfl

end Distinct

end LibreRoute.Sync
