import LibreRoute.Sync.Effects

/-!
Starting a tunnel. Before a tunnel that needs a server is started, the
contexts are synchronised, and their results decide which tunnel is started: a
route of the name of the requested one, the first route, the requested one, or
none. What the request of a context is made from is its own, so the reply is
that of the state in which the tunnel was requested.
-/

namespace LibreRoute.Sync

open Lib Tunnels SyncState DirectDpiProfile
open Admin (Throwable AdminEnvelope)

/-- The route that is started after an update. -/
def updatedMatching (routes : List Tunnel) (t : Tunnel) : Option Tunnel :=
  routes.find? (·.name == t.name) <|> routes.head?

/-- What is handed to `startTunnelInternal` after a synchronisation. -/
def actualTunnel (t : Tunnel) : RouteSyncResult → Option Tunnel
  | .revoked => none
  | .updated _ routes => some ((updatedMatching routes t).getD t)
  | .unchanged _ _ => some t
  | .failed _ => some t

/-- The tunnel that is handed to `startTunnelInternal`, if there is one; `running` is the id of
the tunnel that runs. -/
def startTunnel (L : SyncLibraries) (calls : String → SyncCall) (running : Option Int)
    (forceRestart : Bool) (t : Tunnel) : SyncM (Option Tunnel) := do
  if ! t.isAvailable then pure none
  else if ! forceRestart && running == some t.id then pure none
  else do
    let enrolled ← Prog.read SyncState.isEnrolledInRouteSync
    if ! isDirect t && enrolled then do
      let syncResult ← syncRoutes L calls false
      pure (actualTunnel t syncResult)
    else pure (some t)

variable {error : String}

section Results

variable (L : SyncLibraries) (calls : String → SyncCall) (force : Bool) {call : SyncCall}
  {ids : List Int} {tunnels : List Tunnel}

def contextResult (c : String) (s : SyncState) : RouteSyncResult :=
  match ((syncRouteContext L (calls c) force c).exec s).1 with
  | .ok result => result
  | .error e => .failed (e.message.getD "Не удалось применить маршруты")

/-- The results of the contexts, each in the state the earlier ones left. -/
def contextResults : List String → SyncState → List RouteSyncResult
  | [], _ => []
  | c :: contexts, s =>
    contextResult L calls force c s ::
      contextResults contexts ((syncRouteContext L (calls c) force c).exec s).2

variable {L calls force} {c : String} {s : SyncState}

theorem syncContext_exec (c : String) (s : SyncState) :
    (syncContext L calls force c).exec s =
      (.ok (contextResult L calls force c s),
        ((syncRouteContext L (calls c) force c).exec s).2) := by
  unfold contextResult
  rcases hexec : (syncRouteContext L (calls c) force c).exec s with ⟨e | result, s'⟩ <;>
    simp [syncContext, Prog.runCatching, hexec]

theorem mapEach_syncContext_exec (contexts : List String) (s : SyncState) :
    ((Prog.mapEach contexts (syncContext L calls force)).exec s).1 =
      .ok (contextResults L calls force contexts s) := by
  induction contexts generalizing s with
  | nil => simp [Prog.mapEach, contextResults]
  | cons c contexts ih =>
    have hrest := ih ((syncRouteContext L (calls c) force c).exec s).2
    rcases hexec : (Prog.mapEach contexts (syncContext L calls force)).exec
      ((syncRouteContext L (calls c) force c).exec s).2 with ⟨r, s'⟩
    rw [hexec] at hrest
    obtain rfl : r = _ := hrest
    simp [Prog.mapEach, syncContext_exec, hexec, contextResults]

theorem syncRoutes_exec (h : s.isEnrolledInRouteSync = true) :
    ((syncRoutes L calls force).exec s).1 =
      .ok (combine (contextResults L calls force s.syncContexts s)) := by
  have hcontexts : s.syncContexts.isEmpty = false := by
    simpa [isEnrolledInRouteSync] using h
  have hresults := @mapEach_syncContext_exec L calls force s.syncContexts s
  rcases hexec : (Prog.mapEach s.syncContexts (syncContext L calls force)).exec s with ⟨r, s'⟩
  rw [hexec] at hresults
  obtain rfl : r = _ := hresults
  simp only [syncRoutes, exec_bind, exec_read, hcontexts, Bool.false_eq_true, if_false,
    hexec, exec_pure]

/-! ### What a request is made from -/

/-- All that the synchronisation of a context reads before it has the reply. -/
def SyncState.view (c : String) (s : SyncState) : (SyncKey → Option Entry) × Option String × Int :=
  (fun key => s.storage.get (.context c key), s.pinnedServerKey, s.currentTimeMillis)

theorem syncVerdict_congr {s' : SyncState} (h : s'.view c = s.view c) :
    syncVerdict L call force c s' = syncVerdict L call force c s := by
  obtain ⟨hentries, hpinned, hclock⟩ : (fun key => s'.storage.get (.context c key)) =
      (fun key => s.storage.get (.context c key)) ∧
      s'.pinnedServerKey = s.pinnedServerKey ∧ s'.currentTimeMillis = s.currentTimeMillis := by
    simpa [view] using h
  have htext : s'.text c = s.text c := by
    funext key
    rw [text, text, congrFun hentries key]
  have hlong : s'.getLong c = s.getLong c := by
    funext key default
    rw [getLong, getLong, congrFun hentries key]
  rw [syncVerdict, syncVerdict, htext, hlong, hpinned, hclock]

theorem syncRouteContext_leaves :
    (syncRouteContext L call force c).Leaves
      fun s => (s.pinnedServerKey, s.currentTimeMillis) := Keeping.leaves

theorem view_after {c' : String} (h : c' ≠ c) (s : SyncState) :
    ((syncRouteContext L call force c).exec s).2.view c' = s.view c' := by
  have hentries := (@syncRouteContext_leavesOthers L call force c s []).entries c'
  rw [run_nil_state] at hentries
  have hfields := (@syncRouteContext_leaves L force call c).exec s
  rw [view, view, funext fun key => hentries key h]
  exact congrArg _ hfields

theorem putEntry_returns {address : Address} {value : Option Entry} :
    (putEntry address value).Returns := returns_write

theorem stopActiveTunnelIfManaged_returns : (stopActiveTunnelIfManaged ids).Returns := by
  refine returns_bind returns_read fun selectedId => ?_
  split
  · exact returns_bind returns_modify fun _ => returns_pure
  · exact returns_pure

theorem updateManagedTunnels_nil_returns : (updateManagedTunnels L c []).Returns := by
  intro s
  have hkeys : ∀ t ∈ ([] : List Tunnel).filter Tunnel.isAvailable, KeyResolves L.device t := by simp
  obtain ⟨prepared, files, selected, hexec, -⟩ := updateManagedTunnels_ok hkeys
  exact ⟨_, _, hexec⟩

theorem clearSyncContext_returns : (clearSyncContext c).Returns :=
  returns_bind returns_read fun _ =>
    returns_bind (returns_forEach fun _ => putEntry_returns) fun _ =>
      returns_bind putEntry_returns fun _ => returns_bind returns_read fun _ =>
        returns_when putEntry_returns

theorem contextResult_of_revoked (h : syncVerdict L (calls c) force c s = .ok .revoked) :
    contextResult L calls force c s = .revoked := by
  obtain ⟨_, s₁, hstop⟩ := @stopActiveTunnelIfManaged_returns (s.managedTunnelIds c) s
  obtain ⟨_, s₂, hupdate⟩ := updateManagedTunnels_nil_returns (L := L) (c := c) s₁
  obtain ⟨_, s₃, hclear⟩ := clearSyncContext_returns (c := c) s₂
  have hanswer : ((syncRouteContext L (calls c) force c).exec s).1 = .ok .revoked := by
    simp [syncRouteContext, h, hstop, hupdate, hclear]
  rw [contextResult, hanswer]

theorem revoked_mem_contextResults {contexts : List String} (hnodup : contexts.Nodup)
    (hc : c ∈ contexts) (h : syncVerdict L (calls c) force c s = .ok .revoked) :
    .revoked ∈ contextResults L calls force contexts s := by
  induction contexts generalizing s with
  | nil => simp at hc
  | cons c₁ contexts ih =>
    rw [List.nodup_cons] at hnodup
    rw [contextResults]
    rcases List.mem_cons.1 hc with rfl | hc
    · rw [contextResult_of_revoked h]
      exact List.mem_cons_self
    · have hne : c ≠ c₁ := fun heq => hnodup.1 (heq ▸ hc)
      refine List.mem_cons_of_mem _ (ih hnodup.2 hc ?_)
      rw [syncVerdict_congr (view_after hne s), h]

theorem contextResult_of_updated {rev now : Int} {routes : List RouteCandidate} {files : FileSystem}
    (h : syncVerdict L (calls c) force c s = .ok (.updated rev now routes))
    (hmade : (madeOf L c s (calls c).moments routes).exec s.files = (.ok tunnels, files))
    (hkeys : ∀ t ∈ tunnels.filter Tunnel.isAvailable, KeyResolves L.device t) :
    contextResult L calls force c s = .updated rev tunnels := by
  obtain ⟨store, stopped, hstop, -⟩ := stopReplacedTunnel_exec (s.managedTunnelIds c) tunnels
    { s with files := files }
  obtain ⟨prepared, files', selected, hexec, -⟩ := updateManagedTunnels_ok (L := L) (c := c)
    (s := { s with files := files, store := store, vpnStopped := stopped }) hkeys
  have hanswer : ((syncRouteContext L (calls c) force c).exec s).1 =
      .ok (.updated rev tunnels) := by
    rw [syncRouteContext_exec h]
    simp [hmade, publish, hstop, hexec]
  rw [contextResult, hanswer]

theorem contextResult_of_failed (h : syncVerdict L (calls c) force c s = .ok (.failed error)) :
    contextResult L calls force c s = .failed error := by
  have hanswer : ((syncRouteContext L (calls c) force c).exec s).1 = .ok (.failed error) := by
    simp [syncRouteContext, h]
  rw [contextResult, hanswer]

end Results

/-! ### What the contexts offer -/

/-- The name and the id of the tunnel a route becomes. -/
structure RouteOffer where
  name : String
  id : Int

def Tunnel.offer (t : Tunnel) : RouteOffer := ⟨t.name, t.id⟩

section Offers

variable {L : SyncLibraries} {calls : String → SyncCall} {c : String} {s s' : SyncState}
  {routes : List RouteCandidate} {oldId : String → Option Int} {moments : Nat → Moment} {n : Nat}
  {fs fs' : FileSystem} {tunnels : List Tunnel}

/-- The routes of the reply to a context. A route has the id that is recorded for it with the
routes of the reply before, or the one of the moment when its tunnel is made. -/
def routeOffers (L : SyncLibraries) (calls : String → SyncCall) (s : SyncState) (c : String) :
    List RouteOffer :=
  match syncVerdict L (calls c) false c s with
  | .ok (.updated _ _ routes) =>
    (routes.filter RouteCandidate.isAvailable).zipIdx.map fun route =>
      { name := route.1.tunnelName ""
        id := (stableId (s.routes c) (s.managedTunnelIds c) route.1.routeId).getD
          ((calls c).moments route.2).tunnelId }
  | _ => []

/-- The reply to a context is read as an update, with or without routes. -/
def IsUpdated (L : SyncLibraries) (calls : String → SyncCall) (s : SyncState) (c : String) : Prop :=
  ∃ rev now routes, syncVerdict L (calls c) false c s = .ok (.updated rev now routes)

theorem routeOffers_congr (h : s'.view c = s.view c) :
    routeOffers L calls s' c = routeOffers L calls s c := by
  have hentry : ∀ key, s'.storage.get (.context c key) = s.storage.get (.context c key) :=
    congrFun (congrArg Prod.fst h)
  rw [routeOffers, routeOffers, syncVerdict_congr h]
  simp only [SyncState.routes, managedTunnelIds, hentry]

theorem makeTunnels_offers
    (h : (makeTunnels L moments oldId n routes).exec fs = (.ok tunnels, fs')) :
    tunnels.map Tunnel.offer = (routes.zipIdx n).map fun route =>
      ⟨route.1.tunnelName "", (oldId route.1.routeId).getD (moments route.2).tunnelId⟩ := by
  induction routes generalizing n fs fs' tunnels with
  | nil =>
    obtain ⟨htunnels, -⟩ := Prod.mk.inj ((exec_pure _ _).symm.trans h)
    obtain rfl := Except.ok.inj htunnels
    rfl
  | cons route routes ih =>
    obtain ⟨t, fs₁, hfirst, h⟩ := exec_bind_eq_ok.1 h
    obtain ⟨others, fs₂, hothers, h⟩ := exec_bind_eq_ok.1 h
    obtain ⟨htunnels, -⟩ := Prod.mk.inj ((exec_pure _ _).symm.trans h)
    obtain rfl := Except.ok.inj htunnels
    obtain ⟨t₀, key, htunnel, -, rfl, -⟩ := routeCandidateToTunnel_exec_iff.1 hfirst
    obtain ⟨hname, hid⟩ := tunnel_name_id htunnel
    rw [List.map_cons, ih hothers, List.zipIdx_cons, List.map_cons, ← hname, ← hid]
    rfl

end Offers

/-! ### Which tunnel is started -/

section Started

variable {results : List RouteSyncResult} {t : Tunnel} {routes : List Tunnel} {L : SyncLibraries}
  {calls : String → SyncCall} {s : SyncState}

def offered (results : List RouteSyncResult) : List Tunnel := (updates results).flatMap Prod.snd

theorem updates_cons (result : RouteSyncResult) (results : List RouteSyncResult) :
    updates (result :: results) = updates [result] ++ updates results := by
  cases result <;> simp [updates]

theorem isFailed_iff {result : RouteSyncResult} :
    result.isFailed = true ↔ ∃ error, result = .failed error := by
  cases result <;> simp [RouteSyncResult.isFailed]

theorem combine_of_failed (h : .failed error ∈ results) :
    ∃ error', combine results = .failed error' := by
  rcases hfound : results.find? RouteSyncResult.isFailed with _ | result
  · exact absurd (isFailed_iff.2 ⟨error, rfl⟩) (List.find?_eq_none.1 hfound _ h)
  · obtain ⟨error', rfl⟩ := isFailed_iff.1 (List.find?_some hfound)
    exact ⟨error', by simp only [combine, hfound]⟩

theorem find_failed_eq_none (hfailed : ∀ error, .failed error ∉ results) :
    results.find? RouteSyncResult.isFailed = none := by
  refine List.find?_eq_none.2 fun result hresult hf => ?_
  obtain ⟨error, rfl⟩ := isFailed_iff.1 hf
  exact hfailed error hresult

theorem mem_updates {revision : Int} :
    (revision, routes) ∈ updates results ↔ .updated revision routes ∈ results := by
  simp only [updates, List.mem_filterMap]
  constructor
  · rintro ⟨result, hresult, heq⟩
    cases result with
    | updated revision' routes' =>
      obtain ⟨rfl, rfl⟩ : revision' = revision ∧ routes' = routes := by simpa using heq
      exact hresult
    | _ => simp at heq
  · exact fun h => ⟨_, h, rfl⟩

theorem combine_of_updates (hfailed : ∀ error, .failed error ∉ results)
    (h : updates results ≠ []) :
    ∃ revision, combine results = .updated revision (offered results) := by
  obtain ⟨update, others, hupdates⟩ := List.exists_cons_of_ne_nil h
  exact ⟨_, by simp only [combine, find_failed_eq_none hfailed, offered, hupdates]; rfl⟩

theorem combine_of_no_updates (hfailed : ∀ error, .failed error ∉ results)
    (h : updates results = []) :
    combine results = if .revoked ∈ results then .revoked else results.getLastD .revoked := by
  simp [combine, find_failed_eq_none hfailed, h]

/-- The first of the routes that has the name of the tunnel has its id, or the first of all if
none has the name. -/
def RequestedFirst (t : Tunnel) (offers : List RouteOffer) : Prop :=
  (∀ o ∈ offers.find? (·.name == t.name), o.id = t.id) ∧
    ((∀ o ∈ offers, o.name ≠ t.name) → ∀ o ∈ offers.head?, o.id = t.id)

theorem updatedMatching_requested_iff :
    (∀ r ∈ updatedMatching routes t, r.id = t.id) ↔
      RequestedFirst t (routes.map Tunnel.offer) := by
  have hmatching : ∀ r, r ∈ updatedMatching routes t ↔ r ∈ routes.find? (·.name == t.name) ∨
      (∀ u ∈ routes, u.name ≠ t.name) ∧ r ∈ routes.head? := by
    simp [updatedMatching]
  have hfind : (routes.map Tunnel.offer).find? (·.name == t.name) =
      (routes.find? (·.name == t.name)).map Tunnel.offer := List.find?_map
  simp only [hmatching, RequestedFirst, hfind, List.head?_map, List.forall_mem_map,
    Option.forall_mem_map, or_imp, forall_and, and_imp]
  exact and_congr Iff.rfl forall_comm

theorem actualTunnel_of_failed (h : .failed error ∈ results) :
    actualTunnel t (combine results) = some t := by
  obtain ⟨error', hcombine⟩ := combine_of_failed h
  rw [hcombine]
  rfl

theorem actualTunnel_of_updates (hfailed : ∀ error, .failed error ∉ results)
    (h : updates results ≠ []) :
    actualTunnel t (combine results) = some ((updatedMatching (offered results) t).getD t) := by
  obtain ⟨revision, hcombine⟩ := combine_of_updates hfailed h
  rw [hcombine]
  rfl

theorem actualTunnel_of_no_updates (hfailed : ∀ error, .failed error ∉ results)
    (h : updates results = []) :
    actualTunnel t (combine results) =
      if .revoked ∈ results ∨ results = [] then none else some t := by
  rw [combine_of_no_updates hfailed h]
  by_cases hrevoked : .revoked ∈ results
  · simp [hrevoked, actualTunnel]
  by_cases hempty : results = []
  · simp [hempty, actualTunnel]
  rw [if_neg hrevoked, if_neg (not_or.2 ⟨hrevoked, hempty⟩)]
  have hlast : results.getLastD .revoked ∈ results := by
    rw [List.getLastD_eq_getLast?, List.getLast?_eq_some_getLast hempty]
    exact List.getLast_mem hempty
  cases hresult : results.getLastD .revoked with
  | unchanged revision lastCheckedAt => rfl
  | failed error => exact absurd (hresult ▸ hlast) (hfailed error)
  | revoked => exact absurd (hresult ▸ hlast) hrevoked
  | updated revision routes =>
    have hmem := mem_updates.2 (hresult ▸ hlast)
    simp [h] at hmem

theorem actualTunnel_requested_iff :
    (∀ u, actualTunnel t (combine results) = some u → u.id = t.id) ↔
      (∃ error, .failed error ∈ results) ∨
        ∀ r ∈ updatedMatching (offered results) t, r.id = t.id := by
  by_cases hfailed : ∃ error, .failed error ∈ results
  · obtain ⟨error, herror⟩ := hfailed
    rw [actualTunnel_of_failed herror]
    exact ⟨fun _ => Or.inl ⟨error, herror⟩, fun _ u hu => by rw [Option.some.inj hu]⟩
  have hfailed' := not_exists.1 hfailed
  rw [or_iff_right hfailed]
  by_cases hupdates : updates results = []
  · rw [actualTunnel_of_no_updates hfailed' hupdates]
    have hnone : updatedMatching (offered results) t = none := by
      simp [offered, hupdates, updatedMatching]
    refine ⟨fun _ r hr => by simp [hnone] at hr, fun _ u hu => ?_⟩
    split at hu
    · simp at hu
    · rw [Option.some.inj hu]
  rw [actualTunnel_of_updates hfailed' hupdates]
  rcases updatedMatching (offered results) t with _ | r <;> simp

theorem contextResult_offers (c : String) (s : SyncState)
    (h : ∀ error, contextResult L calls false c s ≠ .failed error) :
    (offered [contextResult L calls false c s]).map Tunnel.offer = routeOffers L calls s c ∧
      (updates [contextResult L calls false c s] = [] ↔ ¬ IsUpdated L calls s c) := by
  rcases hverdict : syncVerdict L (calls c) false c s with e | verdict
  · simp [contextResult, syncRouteContext, hverdict] at h
  cases verdict with
  | failed error => exact absurd (contextResult_of_failed hverdict) (h error)
  | revoked =>
    simp [contextResult_of_revoked hverdict, routeOffers, IsUpdated, hverdict, offered, updates]
  | recent revision lastCheckedAt =>
    simp [contextResult, syncRouteContext, routeOffers, IsUpdated, hverdict, offered, updates]
  | unchanged revision now =>
    simp [contextResult, syncRouteContext, routeOffers, IsUpdated, hverdict, offered, updates,
      putEntry]
  | updated rev now routes =>
    rcases hmade : (madeOf L c s (calls c).moments routes).exec s.files with ⟨e | tunnels, files⟩
    · simp [contextResult, syncRouteContext_exec hverdict, hmade] at h
    by_cases hkeys : ∀ t ∈ tunnels.filter Tunnel.isAvailable, KeyResolves L.device t
    · rw [contextResult_of_updated hverdict hmade hkeys]
      simp [offered, updates, routeOffers, IsUpdated, hverdict, makeTunnels_offers hmade]
    · obtain ⟨store, stopped, hstop, -⟩ := stopReplacedTunnel_exec (s.managedTunnelIds c) tunnels
        { s with files := files }
      obtain ⟨e, files', herror⟩ := updateManagedTunnels_error (L := L) (c := c)
        (s := { s with files := files, store := store, vpnStopped := stopped }) hkeys
      simp [contextResult, syncRouteContext_exec hverdict, hmade, publish, hstop, herror] at h

theorem contextResults_offers {contexts : List String} (hnodup : contexts.Nodup)
    (h : ∀ error, .failed error ∉ contextResults L calls false contexts s) :
    (offered (contextResults L calls false contexts s)).map Tunnel.offer =
        contexts.flatMap (routeOffers L calls s) ∧
      (updates (contextResults L calls false contexts s) = [] ↔
        ∀ c ∈ contexts, ¬ IsUpdated L calls s c) := by
  induction contexts generalizing s with
  | nil => simp [contextResults, offered, updates]
  | cons c contexts ih =>
    rw [List.nodup_cons] at hnodup
    simp only [contextResults, List.mem_cons, not_or, forall_and] at h
    have hview : ∀ c' ∈ contexts, ((syncRouteContext L (calls c) false c).exec s).2.view c' =
        s.view c' := fun c' hc' => view_after (by rintro rfl; exact hnodup.1 hc') s
    obtain ⟨hoffers, hupdates⟩ := contextResult_offers c s fun error => Ne.symm (h.1 error)
    obtain ⟨hoffers', hupdates'⟩ := ih hnodup.2 h.2
    rw [contextResults, updates_cons, List.append_eq_nil_iff, hupdates, hupdates',
      List.forall_mem_cons, offered, updates_cons, List.flatMap_append, List.map_append,
      List.flatMap_cons]
    refine ⟨congrArg₂ _ hoffers (hoffers'.trans ?_), and_congr_right' ?_⟩
    · exact List.flatMap_congr fun c' hc' => routeOffers_congr (hview c' hc')
    · refine forall₂_congr fun c' hc' => ?_
      rw [IsUpdated, IsUpdated, syncVerdict_congr (hview c' hc')]

end Started

section Start

variable (L : SyncLibraries) (calls : String → SyncCall) (running : Option Int)
  (forceRestart : Bool) (t : Tunnel) (s : SyncState)

/-- The call gets as far as a synchronisation. -/
def Synchronises : Prop :=
  t.isAvailable = true ∧ (forceRestart = true ∨ running ≠ some t.id) ∧
    isDirect t = false ∧ s.isEnrolledInRouteSync = true

variable {L calls running forceRestart t s}

theorem startTunnel_of_synchronises (h : Synchronises running forceRestart t s) :
    ((startTunnel L calls running forceRestart t).exec s).1 =
      .ok (actualTunnel t (combine (contextResults L calls false s.syncContexts s))) := by
  obtain ⟨havailable, hrestart, hdirect, henrolled⟩ := h
  have hstarts : (! forceRestart && running == some t.id) = false := by
    rcases hrestart with rfl | hrunning
    · rfl
    · simp [hrunning]
  have hsync := @syncRoutes_exec L calls false s henrolled
  rcases hexec : (syncRoutes L calls false).exec s with ⟨r, s'⟩
  rw [hexec] at hsync
  obtain rfl : r = _ := hsync
  simp [startTunnel, havailable, hstarts, hdirect, henrolled, hexec]

theorem startTunnel_of_not_synchronises (h : ¬ Synchronises running forceRestart t s) :
    ((startTunnel L calls running forceRestart t).exec s).1 = .ok none ∨
      ((startTunnel L calls running forceRestart t).exec s).1 = .ok (some t) := by
  unfold startTunnel
  rcases havailable : t.isAvailable
  · left
    simp
  rcases hstarts : ! forceRestart && running == some t.id
  swap
  · left
    simp
  · right
    have hnot : (! isDirect t && s.isEnrolledInRouteSync) = false := by
      by_contra hsync
      simp only [Bool.not_eq_false, Bool.and_eq_true, Bool.not_eq_true'] at hsync
      refine h ⟨havailable, ?_, hsync⟩
      rcases forceRestart
      · right
        simpa using hstarts
      · exact Or.inl rfl
    simp only [Bool.not_true, Bool.false_eq_true, if_false, exec_bind, exec_read, hnot, exec_pure]

end Start

/-- The tunnel that starts is the requested one, or another version of it, exactly if no
synchronisation is made, that of a context fails, or what the replies offer begins with it. -/
theorem startTunnel_requested_iff (L : SyncLibraries) (calls : String → SyncCall)
    (running : Option Int) (forceRestart : Bool) (t : Tunnel) (s : SyncState) :
    (∀ u, ((startTunnel L calls running forceRestart t).exec s).1 = .ok (some u) → u.id = t.id) ↔
      (Synchronises running forceRestart t s →
        (∃ error, .failed error ∈ contextResults L calls false s.syncContexts s) ∨
          RequestedFirst t (s.syncContexts.flatMap (routeOffers L calls s))) := by
  by_cases hsync : Synchronises running forceRestart t s
  · rw [startTunnel_of_synchronises hsync]
    simp only [Except.ok.injEq, hsync, forall_const, actualTunnel_requested_iff]
    refine or_congr_right' fun hfailed => ?_
    rw [updatedMatching_requested_iff,
      (contextResults_offers s.syncContexts_nodup (not_exists.1 hfailed)).1]
  · refine ⟨fun _ h => absurd h hsync, fun _ u hu => ?_⟩
    rcases startTunnel_of_not_synchronises hsync with h | h <;> rw [h] at hu
    · simp at hu
    · obtain rfl : t = u := by simpa using hu
      rfl

theorem phoneState_results (stored : List Tunnel) :
    contextResults (phoneSync 0) (fun _ => answered updatedReply) false [""] (phoneState stored) =
      [.updated 2 [office]] := by
  have hresult : contextResult (phoneSync 0) (fun _ => answered updatedReply) false ""
      (phoneState stored) = .updated 2 [office] := by
    have hverdict : syncVerdict (phoneSync 0) ((fun _ => answered updatedReply) "") false ""
        (phoneState stored) = _ := phoneState_updated 0 false stored
    have hmade : (madeOf (phoneSync 0) "" (phoneState stored)
        ((fun _ => answered updatedReply) "").moments [officeRoute]).exec
          (phoneState stored).files = _ := phoneState_made 0 stored
    exact contextResult_of_updated hverdict hmade fun t _ => phone_keyResolves t
  simp only [contextResults, hresult]

def ownTunnel : Tunnel := { office with id := 1767225500000456, name := "Home", serverId := none }

/-- The user starts a tunnel of their own while the server has a new route. -/
theorem startTunnel_starts_other : ¬ ∀ (L : SyncLibraries) (calls : String → SyncCall)
    (running : Option Int) (forceRestart : Bool) (s : SyncState),
    ∀ t ∈ connections s.store.stored, isDirect t = false →
      ∀ u, ((startTunnel L calls running forceRestart t).exec s).1 = .ok (some u) →
        u.id = t.id := by
  intro h
  have havailable : ownTunnel.isAvailable = true := office_isAvailable
  have hdirect : isDirect ownTunnel = false :=
    officeTunnel_not_direct 1767225600000123 1767225600000123
  have hloaded : ownTunnel ∈ connections (phoneState [create, ownTunnel]).store.stored := by
    rw [phoneState_connections (by simpa using havailable) (by simpa using hdirect)]
    simp
  have hsync : Synchronises none false ownTunnel (phoneState [create, ownTunnel]) :=
    ⟨havailable, Or.inr (by simp), hdirect, by
      rw [isEnrolledInRouteSync, phoneState_syncContexts]
      rfl⟩
  have hid := h (phoneSync 0) (fun _ => answered updatedReply) none false
    (phoneState [create, ownTunnel]) ownTunnel hloaded hdirect office ?_
  · exact absurd hid (by decide)
  · have hother : office.name ≠ ownTunnel.name := by decide
    rw [startTunnel_of_synchronises hsync, phoneState_syncContexts, phoneState_results,
      actualTunnel_of_updates (by simp) (by simp [updates])]
    simp [offered, updates, updatedMatching, hother]

/-- A revoked tunnel is not started after all: no context fails, and if one is updated, the
replies have a route, and the one that is taken does not become the tunnel itself. -/
def SkipsRevoked (L : SyncLibraries) (calls : String → SyncCall) (t : Tunnel) (s : SyncState) :
    Prop :=
  (∀ error, .failed error ∉ contextResults L calls false s.syncContexts s) ∧
    ((∀ c ∈ s.syncContexts, ¬ IsUpdated L calls s c) ∨
      s.syncContexts.flatMap (routeOffers L calls s) ≠ [] ∧
        t ∉ updatedMatching (offered (contextResults L calls false s.syncContexts s)) t)

/-- While a context gets the signed reply that it was revoked, a tunnel is not started exactly if
the replies to the other contexts allow it. -/
theorem startTunnel_skips_revoked_iff (L : SyncLibraries) (calls : String → SyncCall)
    (running : Option Int) (forceRestart : Bool) (t : Tunnel) (s : SyncState) (c : String)
    (hstart : Synchronises running forceRestart t s) (hc : c ∈ s.syncContexts)
    (hrevoked : syncVerdict L (calls c) false c s = .ok .revoked) :
    ((startTunnel L calls running forceRestart t).exec s).1 ≠ .ok (some t) ↔
      SkipsRevoked L calls t s := by
  have hmem := revoked_mem_contextResults s.syncContexts_nodup hc hrevoked
  rw [startTunnel_of_synchronises hstart, Ne, Except.ok.injEq]
  by_cases hfailed : ∃ error, .failed error ∈ contextResults L calls false s.syncContexts s
  · obtain ⟨error, herror⟩ := hfailed
    rw [actualTunnel_of_failed herror]
    exact ⟨fun h => absurd rfl h, fun h => absurd herror (h.1 error)⟩
  have hfailed' := not_exists.1 hfailed
  obtain ⟨hoffers, hupdated⟩ := contextResults_offers s.syncContexts_nodup hfailed'
  rw [SkipsRevoked, ← hoffers, ← hupdated, Ne, List.map_eq_nil_iff]
  generalize contextResults L calls false s.syncContexts s = results at hmem hfailed'
  by_cases hupdates : updates results = []
  · rw [actualTunnel_of_no_updates hfailed' hupdates, if_pos (Or.inl hmem)]
    exact ⟨fun _ => ⟨hfailed', Or.inl hupdates⟩, fun _ => by simp⟩
  · rw [actualTunnel_of_updates hfailed' hupdates]
    rcases hroutes : offered results with _ | ⟨r, routes⟩
    · simp [updatedMatching, hupdates]
    · obtain ⟨r', hr'⟩ : ∃ r', updatedMatching (r :: routes) t = some r' :=
        Option.isSome_iff_exists.1 (by simp [updatedMatching])
      simp [hr', hupdates, hfailed']

theorem ownTunnel_synchronises {s : SyncState} (h : s.isEnrolledInRouteSync = true) :
    Synchronises none false ownTunnel s :=
  ⟨office_isAvailable, Or.inr (by simp),
    officeTunnel_not_direct 1767225600000123 1767225600000123, h⟩

/-- The only context is revoked, and the tunnel is not started. -/
theorem startTunnel_skips_revoked_iff_alone :
    Synchronises none false ownTunnel (phoneState [create, ownTunnel]) ∧
      "" ∈ (phoneState [create, ownTunnel]).syncContexts ∧
      syncVerdict (phoneSync 0) (answered revokedReply) false ""
        (phoneState [create, ownTunnel]) = .ok .revoked ∧
      SkipsRevoked (phoneSync 0) (fun _ => answered revokedReply) ownTunnel
        (phoneState [create, ownTunnel]) ∧
      ((startTunnel (phoneSync 0) (fun _ => answered revokedReply) none false ownTunnel).exec
        (phoneState [create, ownTunnel])).1 ≠ .ok (some ownTunnel) := by
  have hstart : Synchronises none false ownTunnel (phoneState [create, ownTunnel]) := by
    refine ownTunnel_synchronises ?_
    rw [isEnrolledInRouteSync, phoneState_syncContexts]
    rfl
  have hc : "" ∈ (phoneState [create, ownTunnel]).syncContexts := by
    simp [phoneState_syncContexts]
  have hrevoked : syncVerdict (phoneSync 0) (answered revokedReply) false ""
      (phoneState [create, ownTunnel]) = .ok .revoked :=
    revokedReply_read 0 (phoneState_holds _) (phoneState_due _ _)
  have hskips : SkipsRevoked (phoneSync 0) (fun _ => answered revokedReply) ownTunnel
      (phoneState [create, ownTunnel]) := by
    have hresult : contextResult (phoneSync 0) (fun _ => answered revokedReply) false ""
        (phoneState [create, ownTunnel]) = .revoked := contextResult_of_revoked hrevoked
    rw [SkipsRevoked, phoneState_syncContexts]
    simp [contextResults, hresult, IsUpdated, hrevoked]
  exact ⟨hstart, hc, hrevoked, hskips, (startTunnel_skips_revoked_iff (phoneSync 0)
    (fun _ => answered revokedReply) none false ownTunnel _ "" hstart hc hrevoked).2 hskips⟩

/-! ### Two contexts -/

def context2 : String :=
  "client_sync_29018e010a7863494f8de92d252450b6725eb3266883733f4c5dacdaaad5bf74_"

def enrolment2 : Enrolment where
  deviceId := "phone-1"
  profileId := "user-2"
  docUrl := "https://disk.yandex.ru/i/def"
  secretKey := "other-key"
  serverKey := Admin.serverKey2

/-- The phone is enrolled with both servers, and the tunnel is of the first. -/
def twoContexts : SyncState :=
  { phoneState [create, ownTunnel] with
    storage := ((enrolment2.put context2 (enrolment1.put "" Storage.empty)).put
      (.context "" .managedTunnelIds) (some (.ids [ownTunnel.id]))).put
      .syncContexts (some (.contexts [context2])) }

/-- The first server revokes the phone, the second cannot be reached. -/
def halfReached (c : String) : SyncCall :=
  if c = "" then answered revokedReply
  else { answered revokedReply with reply := fun _ _ _ _ _ => .error (.platform (some "timeout")) }

theorem context2_ne : context2 ≠ "" := by decide

theorem twoContexts_holds1 : twoContexts.Holds "" enrolment1 := by
  constructor <;>
    simp [text, twoContexts, context2_ne.symm, Entry.asText]

theorem twoContexts_holds2 : twoContexts.Holds context2 enrolment2 := by
  constructor <;>
    simp [text, twoContexts, context2_ne, Entry.asText]

theorem twoContexts_due (c : String) : twoContexts.Due c false := by
  have hnever : twoContexts.storage.get (.context c .lastCheckedAt) = none := by
    simp [twoContexts]
  refine Or.inr ?_
  rw [getLong, hnever]
  change (10000 : Int) ≤ 1767225600000 - 0
  decide

theorem twoContexts_syncContexts : twoContexts.syncContexts = [context2, ""] := by
  have hindexed : twoContexts.storage.get .syncContexts = some (.contexts [context2]) := by
    simp [twoContexts]
  have henrolled1 : twoContexts.isEnrolled "" = true := by
    rw [isEnrolled, twoContexts_holds1.deviceId]
    decide
  have henrolled2 : twoContexts.isEnrolled context2 = true := by
    rw [isEnrolled, twoContexts_holds2.deviceId]
    decide
  have hdistinct : [context2, ""].eraseDups = [context2, ""] := by decide
  simp [syncContexts, hindexed, henrolled1, henrolled2, hdistinct, Entry.asContexts]

/-- The failure of one context hides that the context of the tunnel was revoked. -/
theorem startTunnel_starts_revoked : ¬ ∀ (L : SyncLibraries) (calls : String → SyncCall)
    (running : Option Int) (forceRestart : Bool) (t : Tunnel) (s : SyncState) (c : String),
    Synchronises running forceRestart t s → c ∈ s.syncContexts →
      t.id ∈ s.managedTunnelIds c → syncVerdict L (calls c) false c s = .ok .revoked →
        ((startTunnel L calls running forceRestart t).exec s).1 ≠ .ok (some t) := by
  intro h
  have hstart : Synchronises none false ownTunnel twoContexts := by
    refine ownTunnel_synchronises ?_
    rw [isEnrolledInRouteSync, twoContexts_syncContexts]
    rfl
  have howns : ownTunnel.id ∈ twoContexts.managedTunnelIds "" := by
    have hids : twoContexts.storage.get (.context "" .managedTunnelIds) =
        some (.ids [ownTunnel.id]) := by
      simp [twoContexts]
    simp [managedTunnelIds, hids, Entry.asIds, List.mem_eraseDups]
  have hrevoked : syncVerdict (phoneSync 0) (halfReached "") false "" twoContexts = .ok .revoked :=
    revokedReply_read 0 twoContexts_holds1 (twoContexts_due "")
  have hunreached : syncVerdict (phoneSync 0) (halfReached context2) false context2 twoContexts =
      .ok (.failed ("Ошибка синхронизации через документ: " ++
        (Throwable.platform (some "timeout")).message.getD "null")) := by
    refine syncVerdict_of_error twoContexts_holds2 (twoContexts_due context2) fun request => ?_
    simp [halfReached, context2_ne]
  have hfailed : ∃ error, .failed error ∈
      contextResults (phoneSync 0) halfReached false twoContexts.syncContexts twoContexts := by
    rw [twoContexts_syncContexts, contextResults, contextResult_of_failed hunreached]
    exact ⟨_, List.mem_cons_self⟩
  obtain ⟨error, hfailed⟩ := hfailed
  refine h (phoneSync 0) halfReached none false ownTunnel twoContexts "" hstart
    (by simp [twoContexts_syncContexts]) howns hrevoked ?_
  rw [startTunnel_of_synchronises hstart, actualTunnel_of_failed hfailed]

end LibreRoute.Sync
