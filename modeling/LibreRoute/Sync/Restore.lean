import LibreRoute.Sync.Exchange
import LibreRoute.Tunnels.RestoredAgain

/-!
Storing the tunnels a server restores.

After the merge the selection is looked at, since the selected tunnel may have
been merged into another one, and then the markers of the contexts, which must
not name a tunnel that is gone. Only stored tunnels are merged into others, so
an id that occurs twice among the restored ones does no harm to the selection.
-/

namespace LibreRoute.Sync

open Lib Tunnels RestoredTunnelMerge SyncState
open Admin (Throwable)
open DirectDpiProfile (create)

/-- The contexts that own a stored tunnel. -/
def ownersIn (contexts : List (String × List Int)) (saved : List Tunnel) (id : Int) :
    Option (Finset String) :=
  if saved.any (·.id == id) then
    some ((contexts.filter fun context => context.2.contains id).map Prod.fst).toFinset
  else none

/-- The tunnel that is selected where `old` was. -/
def replacement (old : Option Tunnel) (merged : List Tunnel) : Option Tunnel :=
  merged.find? (fun t => old.any (sameRoute · t)) <|> merged.head?

def remainingRoutes (ids remaining : List Int) (routes : List RouteCandidate) :
    List RouteCandidate :=
  ((ids.zip routes).filter fun entry => remaining.contains entry.1).map Prod.snd

def intersect (ids remainingIds : List Int) : List Int := ids.filter (remainingIds.contains ·)

/-- Takes the ids that are not stored any more out of the marker of a context. -/
def realignContext (remainingIds : List Int) (context : String × List Int) : SyncM Unit := do
  let ids := context.2
  let remaining := intersect ids remainingIds
  Prog.when (remaining != ids) do
    let previousRoutes ← Prog.read fun s =>
      (s.storage.get (.context context.1 .routesJson)).bind Entry.asRoutes
    Prog.when (previousRoutes.map List.length == some ids.length)
      (putEntry (.context context.1 .routesJson)
        (some (.routes (remainingRoutes ids remaining (previousRoutes.getD [])))))
    putEntry (.context context.1 .managedTunnelIds) (some (.ids remaining))

def SyncState.managedContexts (s : SyncState) : List (String × List Int) :=
  s.syncContexts.map fun c => (c, s.managedTunnelIds c)

/-- `activeTunnelId` is that of the native process. -/
def upsertRestoredTunnels (activeTunnelId : Option Int) (incoming : List Tunnel) : SyncM Unit := do
  let loaded ← onStore TunnelStore.load
  let saved := loaded.filter Tunnel.isAvailable
  let contexts ← Prog.read SyncState.managedContexts
  let selected ← Prog.read fun s => s.store.getSelectedId
  let available := incoming.filter Tunnel.isAvailable
  let merged := upsert saved available (activeTunnelId <|> selected) (ownersIn contexts saved)
    selected
  onStore (TunnelStore.save merged)
  match selected with
  | none => pure ()
  | some id =>
    Prog.when (merged.all (·.id != id))
      (match replacement (saved.find? (·.id == id)) merged with
        | none => pure ()
        | some t => onStore (TunnelStore.setSelectedId t.id))
  Prog.forEach contexts (realignContext (merged.map (·.id)))

/-! ### The markers -/

variable {id : Int} {t : Tunnel}

section Markers

def Storage.realigned (remainingIds : List Int) (st : Storage) (context : String × List Int) :
    Storage :=
  let ids := context.2
  let remaining := intersect ids remainingIds
  if remaining = ids then st
  else
    let previousRoutes := (st.get (.context context.1 .routesJson)).bind Entry.asRoutes
    let st' :=
      if previousRoutes.map List.length = some ids.length then
        st.put (.context context.1 .routesJson)
          (some (.routes (remainingRoutes ids remaining (previousRoutes.getD []))))
      else st
    st'.put (.context context.1 .managedTunnelIds) (some (.ids remaining))

variable {remainingIds : List Int} {s : SyncState} {st : Storage} {c c' : String} {ids : List Int}
  {contexts : List (String × List Int)}

theorem realignContext_exec (remainingIds : List Int) (context : String × List Int)
    (s : SyncState) :
    (realignContext remainingIds context).exec s =
      (.ok (), { s with storage := s.storage.realigned remainingIds context }) := by
  unfold realignContext Storage.realigned
  by_cases hsame : intersect context.2 remainingIds = context.2
  · simp [hsame]
  · by_cases hlength : ((s.storage.get (.context context.1 .routesJson)).bind Entry.asRoutes).map
        List.length = some context.2.length
    · simp [hsame, hlength]
    · simp only [exec_when, bne_iff_ne, ne_eq, hsame, not_false_eq_true, if_true, if_false,
        exec_bind, exec_read, beq_iff_eq, hlength, putEntry_exec]

theorem realignContexts_exec (remainingIds : List Int) (contexts : List (String × List Int))
    (s : SyncState) :
    (Prog.forEach contexts (realignContext remainingIds)).exec s =
      (.ok (),
        { s with storage := contexts.foldl (Storage.realigned remainingIds) s.storage }) := by
  induction contexts generalizing s with
  | nil => simp [Prog.forEach]
  | cons context contexts ih =>
    simp [Prog.forEach, realignContext_exec, ih]

theorem get_realigned_of_ne {key : SyncKey}
    (h : c' ≠ c ∨ key ≠ .routesJson ∧ key ≠ .managedTunnelIds) :
    (st.realigned remainingIds (c, ids)).get (.context c' key) = st.get (.context c' key) := by
  have hroutes : ¬ (c' = c ∧ key = .routesJson) := fun heq => h.elim (· heq.1) (·.1 heq.2)
  have hmarker : ¬ (c' = c ∧ key = .managedTunnelIds) := fun heq => h.elim (· heq.1) (·.2 heq.2)
  unfold Storage.realigned
  dsimp only
  split_ifs
  · rfl
  · rw [Storage.get_put_context, if_neg hmarker, Storage.get_put_context, if_neg hroutes]
  · rw [Storage.get_put_context, if_neg hmarker]

theorem get_syncContexts_realigned (context : String × List Int) :
    (st.realigned remainingIds context).get .syncContexts = st.get .syncContexts := by
  unfold Storage.realigned
  dsimp only
  split_ifs
  · rfl
  · rw [Storage.get_syncContexts_put_context, Storage.get_syncContexts_put_context]
  · rw [Storage.get_syncContexts_put_context]

theorem get_realigned_marker :
    (st.realigned remainingIds (c, ids)).get (.context c .managedTunnelIds) =
      if intersect ids remainingIds = ids then st.get (.context c .managedTunnelIds)
      else some (.ids (intersect ids remainingIds)) := by
  unfold Storage.realigned
  dsimp only
  split_ifs
  · rfl
  · exact Storage.get_put_self ..
  · exact Storage.get_put_self ..

theorem get_realigned_routes {routes : List RouteCandidate}
    (hroutes : (st.get (.context c .routesJson)).bind Entry.asRoutes = some routes)
    (hlength : routes.length = ids.length) :
    ((st.realigned remainingIds (c, ids)).get (.context c .routesJson)).bind Entry.asRoutes =
      some (remainingRoutes ids (intersect ids remainingIds) routes) := by
  have hne : ¬ (c = c ∧ SyncKey.routesJson = .managedTunnelIds) := fun h => by cases h.2
  unfold Storage.realigned
  dsimp only
  by_cases hsame : intersect ids remainingIds = ids
  · have hall : (ids.zip routes).filter (fun entry => ids.contains entry.1) = ids.zip routes :=
      List.filter_eq_self.2 fun entry hentry =>
        List.contains_iff_mem.2 (List.of_mem_zip hentry).1
    rw [if_pos hsame, hroutes, hsame, remainingRoutes, hall, List.map_snd_zip hlength.le]
  · rw [if_neg hsame, hroutes, Option.map_some, hlength, if_pos rfl, Storage.get_put_context,
      if_neg hne, Storage.get_put_self]
    rfl

theorem get_realigned_congr {st' : Storage}
    (h : ∀ key, st'.get (.context c key) = st.get (.context c key)) (key : SyncKey) :
    (st'.realigned remainingIds (c, ids)).get (.context c key) =
      (st.realigned remainingIds (c, ids)).get (.context c key) := by
  unfold Storage.realigned
  dsimp only
  rw [h]
  split_ifs
  · exact h key
  · simp [h]
  · simp [h]

theorem get_realignedAll_of_not_mem (hc : c ∉ contexts.map Prod.fst) (key : SyncKey) :
    (contexts.foldl (Storage.realigned remainingIds) st).get (.context c key) =
      st.get (.context c key) := by
  induction contexts generalizing st with
  | nil => rfl
  | cons context contexts ih =>
    rw [List.map_cons, List.mem_cons, not_or] at hc
    rw [List.foldl_cons, ih hc.2, get_realigned_of_ne (Or.inl hc.1)]

theorem get_realignedAll (hcontexts : (contexts.map Prod.fst).Nodup) (hc : (c, ids) ∈ contexts)
    (key : SyncKey) :
    (contexts.foldl (Storage.realigned remainingIds) st).get (.context c key) =
      (st.realigned remainingIds (c, ids)).get (.context c key) := by
  induction contexts generalizing st with
  | nil => cases hc
  | cons context contexts ih =>
    rw [List.map_cons, List.nodup_cons] at hcontexts
    rw [List.foldl_cons]
    rcases List.mem_cons.1 hc with rfl | hc
    · exact get_realignedAll_of_not_mem hcontexts.1 key
    · have hne : c ≠ context.1 := by
        rintro rfl
        exact hcontexts.1 (List.mem_map.2 ⟨(context.1, ids), hc, rfl⟩)
      rw [ih hcontexts.2 hc]
      exact get_realigned_congr (fun key => get_realigned_of_ne (Or.inl hne)) key

theorem get_realignedAll_other {key : SyncKey} (hroutes : key ≠ .routesJson)
    (hmarker : key ≠ .managedTunnelIds) :
    (contexts.foldl (Storage.realigned remainingIds) st).get (.context c key) =
      st.get (.context c key) := by
  induction contexts generalizing st with
  | nil => rfl
  | cons context contexts ih =>
    rw [List.foldl_cons, ih, get_realigned_of_ne (Or.inr ⟨hroutes, hmarker⟩)]

theorem get_syncContexts_realignedAll :
    (contexts.foldl (Storage.realigned remainingIds) st).get .syncContexts =
      st.get .syncContexts := by
  induction contexts generalizing st with
  | nil => rfl
  | cons context contexts ih => rw [List.foldl_cons, ih, get_syncContexts_realigned]

end Markers

/-! ### The selected tunnel -/

section Selection

variable {M : Call} {S saved incoming : List Tunnel} {old r : Tunnel}

/-- `old` is still there, or there is a tunnel of its route whose id is that of no further match. -/
def Tracked (M : Call) (old : Tunnel) (S incoming : List Tunnel) : Prop :=
  old ∈ S ∨ ∃ v ∈ S, sameRoute old v = true ∧
    ∀ t ∈ S, t.id = v.id → ∀ r ∈ incoming, M.isMatch r t = false

/-- Only tunnels that were stored match. -/
def StoredMatch (M : Call) (saved S incoming : List Tunnel) : Prop :=
  ∀ t ∈ S, ∀ r ∈ incoming, M.isMatch r t = true → t ∈ saved

theorem StoredMatch.mergeRoute (h : StoredMatch M saved S (r :: incoming))
    (hr : isManaged r = true) (hne : ∀ r' ∈ incoming, identity r ≠ identity r') :
    StoredMatch M saved (M.mergeRoute S r) incoming := by
  intro t ht r' hr' hmatch
  have hcopy : ∀ id name, t ≠ { r with id := id, name := name } := by
    rintro id name rfl
    rw [Call.isMatch_other hr (hne r' hr')] at hmatch
    cases hmatch
  have hS : t ∈ S := by
    rcases M.mergeRoute_cases S r with ⟨-, hround, -⟩ | ⟨s, hs, hround, -⟩ <;> rw [hround] at ht
    · exact (List.mem_append.1 ht).resolve_right fun ht =>
        hcopy r.id r.name (List.mem_singleton.1 ht)
    · exact ((mem_replaceFirst.1 ht).resolve_left (hcopy _ _)).1
  exact h t hS r' (List.mem_cons_of_mem _ hr') hmatch

theorem Tracked.mergeRoute (h : Tracked M old S (r :: incoming))
    (hstored : StoredMatch M saved S (r :: incoming))
    (hold : ∀ t ∈ saved, t.id = old.id → sameRoute t r = true → t = old)
    (hr : isManaged r = true) (hne : ∀ r' ∈ incoming, identity r ≠ identity r') :
    Tracked M old (M.mergeRoute S r) incoming := by
  have hcopy : ∀ id name, ∀ r' ∈ incoming, M.isMatch r' { r with id := id, name := name } = false :=
    fun id name r' hr' => Call.isMatch_other hr (hne r' hr') id name
  rcases M.mergeRoute_cases S r with ⟨-, hround, -⟩ | ⟨s, hs, hround, -⟩ <;> rw [hround]
  · rcases h with hS | ⟨v, hv, hsame, hguard⟩
    · exact Or.inl (List.mem_append_left _ hS)
    · refine Or.inr ⟨v, List.mem_append_left _ hv, hsame, fun t ht hid r' hr' => ?_⟩
      rcases List.mem_append.1 ht with ht | ht
      · exact hguard t ht hid r' (List.mem_cons_of_mem _ hr')
      · rw [List.mem_singleton.1 ht]
        exact hcopy r.id r.name r' hr'
  · rcases h with hS | ⟨v, hv, hsame, hguard⟩
    · by_cases hdup : old.id ∈ M.duplicateIds (M.matching S r) s
      · -- The match with that id is `old` itself, and `r` takes its place.
        obtain ⟨t, ht, -, hid⟩ := Call.mem_duplicateIds.1 hdup
        obtain ⟨htS, hmatch⟩ := Call.mem_matching.1 ht
        have hroute := Call.isMatch_sameRoute hmatch
        obtain rfl := hold t (hstored t htS r List.mem_cons_self hmatch) hid hroute
        refine Or.inr ⟨_, mem_replaceFirst.2 (Or.inl rfl), hroute, fun u hu hid r' hr' => ?_⟩
        rcases mem_replaceFirst.1 hu with rfl | ⟨-, hnot⟩
        · exact hcopy _ _ r' hr'
        · have hsurvivor : u.id ∈ M.duplicateIds (M.matching S r) s :=
            Call.mem_duplicateIds.2 ⟨s, Call.survivor_mem hs, rfl, hid.symm⟩
          rw [List.contains_iff_mem.2 hsurvivor] at hnot
          cases hnot
      · exact Or.inl (mem_replaceFirst.2 (Or.inr ⟨hS, by simpa using hdup⟩))
    · have hstays : v.id ∉ M.duplicateIds (M.matching S r) s := by
        intro hdup
        obtain ⟨t, ht, -, hid⟩ := Call.mem_duplicateIds.1 hdup
        obtain ⟨htS, hmatch⟩ := Call.mem_matching.1 ht
        rw [hguard t htS hid r List.mem_cons_self] at hmatch
        cases hmatch
      refine Or.inr ⟨v, mem_replaceFirst.2 (Or.inr ⟨hv, by simpa using hstays⟩), hsame, ?_⟩
      intro t ht hid r' hr'
      rcases mem_replaceFirst.1 ht with rfl | ⟨ht, -⟩
      · exact hcopy _ _ r' hr'
      · exact hguard t ht hid r' (List.mem_cons_of_mem _ hr')

theorem Tracked.mergeAll (h : Tracked M old S incoming) (hstored : StoredMatch M saved S incoming)
    (hold : ∀ t ∈ saved, t.id = old.id → ∀ r ∈ incoming, sameRoute t r = true → t = old)
    (hincoming : ∀ r ∈ incoming, isManaged r = true)
    (hidentities : (incoming.map identity).Nodup) : Tracked M old (M.mergeAll S incoming) [] := by
  induction incoming generalizing S with
  | nil => exact h
  | cons r incoming ih =>
    rw [List.forall_mem_cons] at hincoming
    rw [List.map_cons, List.nodup_cons] at hidentities
    have hne : ∀ r' ∈ incoming, identity r ≠ identity r' := fun r' hr' heq =>
      hidentities.1 (heq ▸ List.mem_map_of_mem hr')
    refine ih (h.mergeRoute hstored (fun t ht hid => hold t ht hid r List.mem_cons_self)
      hincoming.1 hne) (hstored.mergeRoute hincoming.1 hne) ?_ hincoming.2 hidentities.2
    exact fun t ht hid r' hr' => hold t ht hid r' (List.mem_cons_of_mem _ hr')

theorem sameRoute_of_gone (hsaved : old ∈ saved)
    (hold : ∀ t ∈ saved, t.id = old.id → ∀ r ∈ incoming, sameRoute t r = true → t = old)
    (hincoming : ∀ r ∈ incoming, isManaged r = true) (hidentities : (incoming.map identity).Nodup)
    (hgone : old.id ∉ (M.mergeAll saved incoming).map (·.id)) :
    ∃ v ∈ M.mergeAll saved incoming, sameRoute old v = true := by
  have htracked : Tracked M old (M.mergeAll saved incoming) [] :=
    Tracked.mergeAll (Or.inl hsaved) (fun t ht _ _ _ => ht) hold hincoming hidentities
  rcases htracked with hmem | ⟨v, hv, hsame, -⟩
  · exact absurd (List.mem_map_of_mem hmem) hgone
  · exact ⟨v, hv, hsame⟩

theorem not_sameRoute_create (r : Tunnel) : sameRoute create r = false := by
  have hprofile : isNullOrBlank create.managedProfileId = true := by decide
  by_cases hkey : create.encryptionKey = r.encryptionKey
  · have hblank : isNullOrBlank r.encryptionKey = true := by
      rw [← hkey]
      decide
    simp [sameRoute, hprofile, hblank]
  · have hbeq : (create.encryptionKey == r.encryptionKey) = false := beq_eq_false_iff_ne.2 hkey
    simp [sameRoute, hprofile, hbeq]

theorem connections_eq_append (stored : List Tunnel) :
    ∃ rest, connections stored = repaired stored ++ rest ∧ ∀ t ∈ rest, t = create := by
  unfold connections
  split
  · exact ⟨[], (List.append_nil _).symm, fun t ht => absurd ht List.not_mem_nil⟩
  · exact ⟨[create], rfl, fun t ht => List.mem_singleton.1 ht⟩

/-- The local connection may be given an id that is in use, but it is added at the end and is no
route of a server. -/
theorem eq_of_sameRoute_of_id {stored : List Tunnel} (hids : (stored.map (·.id)).Nodup)
    (hfound : (connections stored).find? (·.id == id) = some old) (ht : t ∈ connections stored)
    (hid : t.id = old.id) (hsame : sameRoute t r = true) : t = old := by
  obtain ⟨rest, hconnections, hrest⟩ := connections_eq_append stored
  have holdId : old.id = id := by
    have hbeq := List.find?_some hfound
    exact beq_iff_eq.1 hbeq
  rw [hconnections] at ht hfound
  have htrepaired : t ∈ repaired stored := by
    refine (List.mem_append.1 ht).resolve_right fun hmem => ?_
    rw [hrest t hmem, not_sameRoute_create] at hsame
    cases hsame
  have hsome : ((repaired stored).find? (·.id == id)).isSome = true := by
    rw [List.find?_isSome]
    exact ⟨t, htrepaired, beq_iff_eq.2 (hid.trans holdId)⟩
  obtain ⟨u, hu⟩ := Option.isSome_iff_exists.1 hsome
  rw [List.find?_append, hu, Option.some_or, Option.some.injEq] at hfound
  subst hfound
  exact List.inj_on_of_nodup_map (nodup_ids_repaired hids) htrepaired (List.mem_of_find?_eq_some hu)
    hid

end Selection

/-! ### The whole call -/

section Whole

variable (activeTunnelId : Option Int) (incoming : List Tunnel) (s : SyncState)

def SyncState.loaded : TunnelStore :=
  ⟨connections s.store.stored, s.store.repairedSelection (connections s.store.stored)⟩

def SyncState.restored : List Tunnel :=
  upsert (connections s.store.stored) (incoming.filter Tunnel.isAvailable)
    (activeTunnelId <|> s.loaded.getSelectedId)
    (ownersIn s.managedContexts (connections s.store.stored)) s.loaded.getSelectedId

def SyncState.restoredSelection : Option Int :=
  let saved := s.loaded.repairedSelection (s.restored activeTunnelId incoming)
  match s.loaded.getSelectedId with
  | none => saved
  | some id =>
    if (s.restored activeTunnelId incoming).all (·.id != id) then
      match replacement ((connections s.store.stored).find? (·.id == id))
          (s.restored activeTunnelId incoming) with
      | none => saved
      | some t => some t.id
    else saved

def SyncState.afterRestore : SyncState :=
  { s with
    store := ⟨s.restored activeTunnelId incoming, s.restoredSelection activeTunnelId incoming⟩
    storage := s.managedContexts.foldl
      (Storage.realigned ((s.restored activeTunnelId incoming).map (·.id))) s.storage }

variable {activeTunnelId incoming s}

theorem isAvailable_of_mem_restored (h : t ∈ s.restored activeTunnelId incoming) :
    t.isAvailable = true := by
  rcases Call.mem_mergeAll h with hsaved | ⟨r, hr, hcopy⟩
  · exact isAvailable_of_mem_connections hsaved
  · rw [hcopy]
    exact (List.mem_filter.1 hr).2

theorem upsertRestoredTunnels_exec :
    (upsertRestoredTunnels activeTunnelId incoming).exec s =
      (.ok (), s.afterRestore activeTunnelId incoming) := by
  have hsaved : (connections s.store.stored).filter Tunnel.isAvailable =
      connections s.store.stored :=
    List.filter_eq_self.2 fun t ht => isAvailable_of_mem_connections ht
  have hmerged : (s.restored activeTunnelId incoming).filter Tunnel.isAvailable =
      s.restored activeTunnelId incoming :=
    List.filter_eq_self.2 fun t ht => isAvailable_of_mem_restored ht
  have hload : (onStore TunnelStore.load).exec s =
      (.ok (connections s.store.stored), { s with store := s.loaded }) := by
    rw [onStore_exec, TunnelStore.load_exec]
    rfl
  have hsave : (onStore (TunnelStore.save (s.restored activeTunnelId incoming))).exec
      { s with store := s.loaded } =
        (.ok (), { s with store := ⟨s.restored activeTunnelId incoming,
          s.loaded.repairedSelection (s.restored activeTunnelId incoming)⟩ }) := by
    rw [onStore_exec, TunnelStore.save_exec, hmerged]
  have hcontexts : ({ s with store := s.loaded } : SyncState).managedContexts = s.managedContexts :=
    rfl
  have hrestored : upsert (connections s.store.stored) (incoming.filter Tunnel.isAvailable)
      (activeTunnelId <|> s.loaded.getSelectedId)
      (ownersIn s.managedContexts (connections s.store.stored)) s.loaded.getSelectedId =
        s.restored activeTunnelId incoming := rfl
  unfold upsertRestoredTunnels
  simp only [exec_bind, hload, exec_read, hsaved, hcontexts, hrestored, hsave]
  unfold afterRestore restoredSelection
  rcases s.loaded.getSelectedId with _ | id
  · exact realignContexts_exec ..
  · dsimp only
    rw [exec_bind, exec_when]
    split_ifs with hgone
    · rcases replacement ((connections s.store.stored).find? (·.id == id))
        (s.restored activeTunnelId incoming) with _ | t
      · exact realignContexts_exec ..
      · exact realignContexts_exec ..
    · exact realignContexts_exec ..

theorem afterRestore_get {c : String} (hc : c ∈ s.syncContexts) (key : SyncKey) :
    (s.afterRestore activeTunnelId incoming).storage.get (.context c key) =
      (s.storage.realigned ((s.restored activeTunnelId incoming).map (·.id))
        (c, s.managedTunnelIds c)).get (.context c key) := by
  have hkeys : (s.managedContexts.map Prod.fst).Nodup := by
    simpa [managedContexts, Function.comp_def] using s.syncContexts_nodup
  exact get_realignedAll hkeys (List.mem_map.2 ⟨c, hc, rfl⟩) key

theorem afterRestore_syncContexts :
    (s.afterRestore activeTunnelId incoming).syncContexts = s.syncContexts := by
  have henrolled : ∀ c, (s.afterRestore activeTunnelId incoming).isEnrolled c = s.isEnrolled c := by
    intro c
    rw [isEnrolled, isEnrolled, text, text]
    exact congrArg (fun entry : Option Entry => ! isNullOrBlank (entry.bind Entry.asText))
      (get_realignedAll_other (by decide) (by decide))
  have hindexed : (s.afterRestore activeTunnelId incoming).storage.get .syncContexts =
      s.storage.get .syncContexts := get_syncContexts_realignedAll
  rw [syncContexts, syncContexts, hindexed, henrolled, funext henrolled]

theorem afterRestore_managedTunnelIds {c : String} (hc : c ∈ s.syncContexts) :
    (s.afterRestore activeTunnelId incoming).managedTunnelIds c =
      intersect (s.managedTunnelIds c) ((s.restored activeTunnelId incoming).map (·.id)) := by
  rw [managedTunnelIds, afterRestore_get hc, get_realigned_marker]
  split_ifs with hsame
  · exact hsame.symm
  · exact eraseDups_of_nodup ((nodup_eraseDups _).sublist List.filter_sublist)

theorem repairedSelection_of_mem {store : TunnelStore} {tunnels : List Tunnel}
    (hsel : store.getSelectedId = some id) (hmem : ∃ t ∈ tunnels, t.id = id) :
    store.repairedSelection tunnels = store.selectedPreference := by
  obtain ⟨t, ht, hid⟩ := hmem
  have hany : tunnels.any (·.id == id) = true := List.any_eq_true.2 ⟨t, ht, beq_iff_eq.2 hid⟩
  simp [TunnelStore.repairedSelection, hsel, hany]

theorem replacement_of_sameRoute {old v : Tunnel} {merged : List Tunnel} (hv : v ∈ merged)
    (hsame : sameRoute old v = true) :
    ∃ t ∈ merged, replacement (some old) merged = some t ∧ sameRoute old t = true := by
  have hsome : (merged.find? fun t => (some old).any (sameRoute · t)).isSome = true := by
    rw [List.find?_isSome]
    exact ⟨v, hv, hsame⟩
  obtain ⟨t, ht⟩ := Option.isSome_iff_exists.1 hsome
  have hroute := List.find?_some ht
  refine ⟨t, List.mem_of_find?_eq_some ht, ?_, hroute⟩
  rw [replacement, ht]
  rfl

/-- A selection that was there is there, or a tunnel of the same route is selected. -/
theorem afterRestore_selection {sel : Int} {old : Tunnel}
    (hids : (s.store.stored.map (·.id)).Nodup)
    (hincoming : ∀ r ∈ incoming, isManaged r = true) (hidentities : (incoming.map identity).Nodup)
    (hsentinel : ∀ t ∈ s.restored activeTunnelId incoming, t.id ≠ -1)
    (hsel : s.store.getSelectedId = some sel)
    (hfound : (connections s.store.stored).find? (·.id == sel) = some old) :
    ∃ v ∈ s.restored activeTunnelId incoming,
      (s.afterRestore activeTunnelId incoming).store.getSelectedId = some v.id ∧
        (v.id = sel ∨ sameRoute old v = true) := by
  have hold : old ∈ connections s.store.stored := List.mem_of_find?_eq_some hfound
  have holdId : old.id = sel := by
    have hbeq := List.find?_some hfound
    exact beq_iff_eq.1 hbeq
  have hpreference : s.loaded.selectedPreference = s.store.selectedPreference :=
    repairedSelection_of_mem hsel ⟨old, hold, holdId⟩
  have hloaded : s.loaded.getSelectedId = some sel := by
    rw [← hsel]
    exact congrArg (Option.filter (· != -1)) hpreference
  by_cases hthere : ∃ v ∈ s.restored activeTunnelId incoming, v.id = sel
  · have hkept : s.restoredSelection activeTunnelId incoming = s.store.selectedPreference := by
      obtain ⟨v, hv, hid⟩ := hthere
      have hall : (s.restored activeTunnelId incoming).all (·.id != sel) = false :=
        List.all_eq_false.2 ⟨v, hv, by simp [hid]⟩
      rw [restoredSelection, hloaded, ← hpreference,
        ← repairedSelection_of_mem hloaded ⟨v, hv, hid⟩]
      simp [hall]
    obtain ⟨v, hv, hid⟩ := hthere
    refine ⟨v, hv, ?_, Or.inl hid⟩
    rw [hid, ← hsel]
    exact congrArg (Option.filter (· != -1)) hkept
  · have hgone : old.id ∉ (s.restored activeTunnelId incoming).map (·.id) := by
      rw [holdId, List.mem_map]
      exact hthere
    have hall : (s.restored activeTunnelId incoming).all (·.id != sel) = true :=
      List.all_eq_true.2 fun t ht => bne_iff_ne.2 fun hid => hthere ⟨t, ht, hid⟩
    have hunique : ∀ t ∈ connections s.store.stored, t.id = old.id →
        ∀ r ∈ incoming.filter Tunnel.isAvailable, sameRoute t r = true → t = old :=
      fun t ht hid r _ hsame => eq_of_sameRoute_of_id hids hfound ht hid hsame
    obtain ⟨v, hv, hsame⟩ := sameRoute_of_gone hold hunique
      (fun r hr => hincoming r (List.mem_filter.1 hr).1)
      (hidentities.sublist (List.filter_sublist.map _)) hgone
    obtain ⟨t, ht, hreplacement, hroute⟩ := replacement_of_sameRoute hv hsame
    refine ⟨t, ht, ?_, Or.inr hroute⟩
    have hselection : s.restoredSelection activeTunnelId incoming = some t.id := by
      have hreplaced : replacement (some old) (s.restored activeTunnelId incoming) = some t :=
        hreplacement
      simp [restoredSelection, hloaded, hall, hfound, hreplaced]
    rw [afterRestore, hselection]
    simp [TunnelStore.getSelectedId, TunnelRepository.getSelectedId, TunnelStore.profiles,
      hsentinel t ht]

theorem restored_id_ne (hstored : ∀ t ∈ s.store.stored ++ incoming, t.id ≠ -1)
    (ht : t ∈ s.restored activeTunnelId incoming) : t.id ≠ -1 := by
  obtain ⟨u, hu, hid⟩ := List.mem_map.1 (Call.mem_ids_mergeAll (List.mem_map_of_mem ht))
  rw [← hid]
  rcases List.mem_append.1 hu with hu | hu
  · obtain ⟨rest, hconnections, hrest⟩ := connections_eq_append s.store.stored
    rw [hconnections, List.mem_append] at hu
    rcases hu with hu | hu
    · obtain ⟨w, hw, rfl⟩ := List.mem_map.1 hu
      rw [DirectDpiProfile.ensureConfigured_id]
      exact hstored w (List.mem_append_left _ (List.mem_filter.1 hw).1)
    · rw [hrest u hu]
      decide
  · exact hstored u (List.mem_append_right _ (List.mem_filter.1 hu).1)

end Whole

/-- After a restore the selection that was loaded is still selected, or a stored tunnel of its
route is; the markers name stored tunnels only, and the routes of a context lose the places its
marker loses. The id `-1` stands for no selection. -/
theorem upsertRestoredTunnels_keeps (activeTunnelId : Option Int) (incoming : List Tunnel)
    (s : SyncState) (hids : (s.store.stored.map (·.id)).Nodup)
    (hincoming : ∀ r ∈ incoming, isManaged r = true)
    (hidentities : (incoming.map identity).Nodup) :
    ∃ s', (upsertRestoredTunnels activeTunnelId incoming).exec s = (.ok (), s') ∧
      ((∀ t ∈ s.store.stored ++ incoming, t.id ≠ -1) →
        ∀ sel old, s.store.getSelectedId = some sel →
          (connections s.store.stored).find? (·.id == sel) = some old →
          ∃ v ∈ s'.store.stored,
            s'.store.getSelectedId = some v.id ∧ (v.id = sel ∨ sameRoute old v = true)) ∧
      s'.syncContexts = s.syncContexts ∧
      (∀ c ∈ s'.syncContexts, ∀ id ∈ s'.managedTunnelIds c, ∃ t ∈ s'.store.stored, t.id = id) ∧
      ∀ c ∈ s.syncContexts, ∀ routes,
        (s.storage.get (.context c .routesJson)).bind Entry.asRoutes = some routes →
        routes.length = (s.managedTunnelIds c).length →
        s'.managedTunnelIds c =
            (s.managedTunnelIds c).filter (fun id => s'.store.stored.any (·.id == id)) ∧
          s'.routes c = (((s.managedTunnelIds c).zip routes).filter
            fun entry => (s'.managedTunnelIds c).contains entry.1).map Prod.snd := by
  refine ⟨s.afterRestore activeTunnelId incoming, upsertRestoredTunnels_exec, ?_,
    afterRestore_syncContexts, ?_, ?_⟩
  · intro hsentinel sel old hsel hfound
    exact afterRestore_selection hids hincoming hidentities
      (fun t ht => restored_id_ne hsentinel ht) hsel hfound
  · intro c hc id hid
    rw [afterRestore_syncContexts] at hc
    rw [afterRestore_managedTunnelIds hc] at hid
    exact List.mem_map.1 (List.contains_iff_mem.1 (List.mem_filter.1 hid).2)
  · intro c hc routes hroutes hlength
    rw [afterRestore_managedTunnelIds hc]
    constructor
    · refine List.filter_congr fun id _ => ?_
      rw [Bool.eq_iff_iff, List.contains_iff_mem, List.mem_map, List.any_eq_true]
      simp only [beq_iff_eq]
      rfl
    · rw [SyncState.routes, afterRestore_get hc, get_realigned_routes hroutes hlength]
      rfl

/-! ### A phone with two records of one route -/

def profileRoute (id : Int) (profile : Option String) : Tunnel :=
  { serverRoute with id := id, transportType := "vyandex", managedProfileId := profile }

/-- The first context owns the tunnels 5 and 7, and 7 is selected. -/
def restoringPhone (stored : List Tunnel) : SyncState :=
  { phoneState stored with
    storage := ((enrolment1.put "" Storage.empty).put (.context "" .managedTunnelIds)
      (some (.ids [5, 7]))).put (.context "" .routesJson)
        (some (.routes [officeRoute, { officeRoute with routeId := "r-3" }]))
    store := ⟨stored, some 7⟩ }

theorem restoringPhone_managedTunnelIds (stored : List Tunnel) :
    (restoringPhone stored).managedTunnelIds "" = [5, 7] := by
  have hmarker : (restoringPhone stored).storage.get (.context "" .managedTunnelIds) =
      some (.ids [5, 7]) := by
    simp [restoringPhone]
  rw [managedTunnelIds, hmarker]
  decide

theorem restoringPhone_syncContexts (stored : List Tunnel) :
    (restoringPhone stored).syncContexts = [""] := by
  have hindexed : (restoringPhone stored).storage.get .syncContexts = none := by
    simp [restoringPhone]
  have henrolled : (restoringPhone stored).isEnrolled "" = true := by
    have hdevice : (restoringPhone stored).text "" .deviceId = some enrolment1.deviceId := by
      simp [restoringPhone, text, Entry.asText]
    rw [isEnrolled, hdevice]
    decide
  have hdistinct : [""].eraseDups = [""] := by decide
  simp [syncContexts, hindexed, henrolled, hdistinct]

theorem restoringPhone_managedContexts (stored : List Tunnel) :
    (restoringPhone stored).managedContexts = [("", [5, 7])] := by
  rw [managedContexts, restoringPhone_syncContexts, List.map_singleton,
    restoringPhone_managedTunnelIds]

def doubledRoutes : List Tunnel :=
  [create, profileRoute 5 (some "profile-1"), profileRoute 7 none]

/-- The running tunnel survives, and the selection moves to it. -/
theorem restoringPhone_keeps :
    ((doubledRoutes.map (·.id)).Nodup ∧
        (∀ t ∈ doubledRoutes ++ [profileRoute 100 (some "profile-1")], t.id ≠ -1) ∧
        (restoringPhone doubledRoutes).store.getSelectedId = some 7) ∧
      ∃ s', (upsertRestoredTunnels (some 5) [profileRoute 100 (some "profile-1")]).exec
          (restoringPhone doubledRoutes) = (.ok (), s') ∧
        (∃ v ∈ s'.store.stored, s'.store.getSelectedId = some v.id ∧
          (v.id = 7 ∨ sameRoute (profileRoute 7 none) v = true)) ∧
        s'.routes "" = (([(5, officeRoute), (7, { officeRoute with routeId := "r-3" })]).filter
          fun entry => (s'.managedTunnelIds "").contains entry.1).map Prod.snd := by
  have hids : (doubledRoutes.map (·.id)).Nodup := by decide
  have hsentinel : ∀ t ∈ doubledRoutes ++ [profileRoute 100 (some "profile-1")], t.id ≠ -1 := by
    decide
  have hsel : (restoringPhone doubledRoutes).store.getSelectedId = some 7 := by decide
  have hfound : (connections doubledRoutes).find? (·.id == 7) = some (profileRoute 7 none) := by
    decide
  obtain ⟨s', hexec, hselection, -, -, hroutes⟩ := upsertRestoredTunnels_keeps (some 5)
    [profileRoute 100 (some "profile-1")] (restoringPhone doubledRoutes) hids (by decide)
    (by decide)
  have hstored := hroutes "" (by simp [restoringPhone_syncContexts])
    [officeRoute, { officeRoute with routeId := "r-3" }]
    (by simp [restoringPhone, Entry.asRoutes]) (by simp [restoringPhone_managedTunnelIds])
  rw [restoringPhone_managedTunnelIds] at hstored
  exact ⟨⟨hids, hsentinel, hsel⟩, s', hexec, hselection hsentinel 7 _ hsel hfound, hstored.2⟩

/-- Before the two records stands another profile of the same key whose id is `-1`, and the
selection moves to that one; a selected tunnel that is not available is not loaded. -/
theorem selection_lost :
    (((create :: profileRoute (-1) (some "profile-0") :: doubledRoutes.tail).map (·.id)).Nodup ∧
        isManaged (profileRoute 100 (some "profile-1")) = true ∧
        (connections (create :: profileRoute (-1) (some "profile-0") :: doubledRoutes.tail)).find?
          (·.id == 7) = some (profileRoute 7 none) ∧
        ((upsertRestoredTunnels (some 5) [profileRoute 100 (some "profile-1")]).exec
          (restoringPhone (create :: profileRoute (-1) (some "profile-0") ::
            doubledRoutes.tail))).2.store.getSelectedId = none) ∧
      ((upsertRestoredTunnels none []).exec
          (restoringPhone [create, { serverRoute with id := 7 }])).2.store.getSelectedId =
        some create.id ∧
      sameRoute { serverRoute with id := 7 } create = false := by
  simp only [upsertRestoredTunnels_exec, afterRestore, restoredSelection,
    restored, restoringPhone_managedContexts]
  decide +kernel

end LibreRoute.Sync
