import LibreRoute.Lib.Replace
import LibreRoute.Tunnels.Models
import Mathlib.Data.Finset.Basic

/-!
Merging the tunnels a server restores with those that are stored.

A stored tunnel is the same route if the server says so by its profile, or,
where a tunnel has no profile, if key, endpoint and pair are the same; where
it has no server either, only if one profile alone claims it. Of the tunnels
that match, one survives with its id and its name, and those that have the
same owners are replaced by the restored tunnel under that id. An id may move
on more than once; `survivingId` follows it.
-/

namespace LibreRoute.Tunnels

open Lib

namespace RestoredTunnelMerge

def argumentAfter (flag : String) (t : Tunnel) : Option String :=
  t.transportConnPayload[t.transportConnPayload.idxOf flag + 1]?

def endpoint (t : Tunnel) : Option String := argumentAfter "--url" t

def pairConfig (t : Tunnel) : Option String := argumentAfter "--pair-channel-config" t

def sameRoute (old route : Tunnel) : Bool :=
  if isNullOrBlank route.serverId ||
      (! isNullOrBlank old.serverId && old.serverId != route.serverId) ||
      ! equalsIgnoreCase old.transportType route.transportType then false
  else if ! isNullOrBlank old.managedProfileId then
    old.serverId == route.serverId && old.managedProfileId == route.managedProfileId &&
      ! isNullOrBlank route.managedProfileId
  else
    ! isNullOrBlank route.encryptionKey && old.encryptionKey == route.encryptionKey &&
      (endpoint route).isSome && endpoint old == endpoint route &&
        pairConfig old == pairConfig route

def isManaged (t : Tunnel) : Bool :=
  ! isNullOrBlank t.serverId && ! isNullOrBlank t.managedProfileId

/-- What a server knows a tunnel by. -/
def identity (t : Tunnel) : Option String × Option String := (t.serverId, t.managedProfileId)

def claimants (known : List Tunnel) (old : Tunnel) : List (Option String × Option String) :=
  ((known.filter fun candidate => isManaged candidate && sameRoute old candidate).map
    identity).eraseDups

/-- One call: all tunnels that are known when it begins, the id it prefers, the one that is
selected, and the contexts that own a tunnel. -/
structure Call where
  known : List Tunnel
  preferredId : Option Int
  selectedId : Option Int
  owners : Int → Option (Finset String)

namespace Call

variable (M : Call)

/-- `owners[id].orEmpty()`. -/
def ownersOf (id : Int) : Finset String := (M.owners id).getD ∅

/-- A stored tunnel that a restored one replaces. -/
def isMatch (route old : Tunnel) : Bool :=
  sameRoute old route && (! isNullOrBlank old.serverId || (claimants M.known old).length == 1)

def matching (result : List Tunnel) (route : Tunnel) : List Tunnel :=
  result.filter (M.isMatch route)

def survivor (found : List Tunnel) : Option Tunnel :=
  found.find? (fun t => some t.id == M.preferredId) <|>
    (found.find? (fun t => some t.id == M.selectedId) <|> found.head?)

/-- The ids of the matches that have the owners of the survivor. -/
def duplicateIds (found : List Tunnel) (survivor : Tunnel) : List Int :=
  (found.filter fun t => M.ownersOf t.id == M.ownersOf survivor.id).map (·.id)

/-- One round of the loop. -/
def mergeRoute (result : List Tunnel) (route : Tunnel) : List Tunnel :=
  let found := M.matching result route
  match M.survivor found with
  | none => result ++ [route]
  | some survivor =>
    replaceFirst (fun t => (M.duplicateIds found survivor).contains t.id)
      { route with id := survivor.id, name := survivor.name } result

/-- The id under which a tunnel of the list is found after a round. -/
def absorbed (result : List Tunnel) (route : Tunnel) (id : Int) : Int :=
  match M.survivor (M.matching result route) with
  | none => id
  | some survivor =>
    if id ∈ M.duplicateIds (M.matching result route) survivor then survivor.id else id

/-- The id under which a tunnel of the list is found in the end. -/
def survivingId : List Tunnel → List Tunnel → Int → Int
  | _, [], id => id
  | result, route :: incoming, id =>
    survivingId (M.mergeRoute result route) incoming (M.absorbed result route id)

end Call

def callOf (saved incoming : List Tunnel) (preferredId : Option Int)
    (owners : Int → Option (Finset String)) (selectedId : Option Int) : Call where
  known := saved ++ incoming
  preferredId := preferredId
  selectedId := selectedId
  owners := owners

def upsert (saved incoming : List Tunnel) (preferredId : Option Int)
    (owners : Int → Option (Finset String)) (selectedId : Option Int) : List Tunnel :=
  incoming.foldl (callOf saved incoming preferredId owners selectedId).mergeRoute saved

variable {old route : Tunnel}

theorem sameRoute_transport (h : sameRoute old route = true) :
    equalsIgnoreCase old.transportType route.transportType = true := by
  unfold sameRoute at h
  split at h
  · cases h
  · next hcond =>
      simp only [Bool.or_eq_true, not_or, Bool.not_eq_true', Bool.not_eq_false] at hcond
      exact hcond.2

theorem sameRoute_identity (h : sameRoute old route = true)
    (hprofile : isNullOrBlank old.managedProfileId = false) : identity old = identity route := by
  unfold sameRoute at h
  split at h
  · cases h
  · rw [hprofile, Bool.not_false, if_pos rfl] at h
    simp only [Bool.and_eq_true, beq_iff_eq] at h
    exact Prod.ext h.1.1 h.1.2

theorem isManaged_iff : isManaged route = true ↔
    isNullOrBlank route.serverId = false ∧ isNullOrBlank route.managedProfileId = false := by
  simp [isManaged]

theorem sameRoute_self (h : isManaged route = true) : sameRoute route route = true := by
  rw [isManaged_iff] at h
  simp [sameRoute, h.1, h.2, equalsIgnoreCase_self]

theorem equalsIgnoreCase_symm {s t : String} (h : equalsIgnoreCase s t = true) :
    equalsIgnoreCase t s = true := by
  simp only [equalsIgnoreCase, beq_iff_eq] at h ⊢
  exact h.symm

theorem equalsIgnoreCase_trans {s t u : String} (h : equalsIgnoreCase s t = true)
    (h' : equalsIgnoreCase t u = true) : equalsIgnoreCase s u = true := by
  simp only [equalsIgnoreCase, beq_iff_eq] at h h' ⊢
  exact h.trans h'

/-! ### One round -/

namespace Call

variable {M : Call} {S : List Tunnel} {r s t : Tunnel}

theorem isMatch_sameRoute (h : M.isMatch r t = true) : sameRoute t r = true := by
  simp only [isMatch, Bool.and_eq_true] at h
  exact h.1

theorem isMatch_of_not_sameRoute (h : sameRoute t r = false) : M.isMatch r t = false := by
  simp [isMatch, h]

theorem mem_matching : t ∈ M.matching S r ↔ t ∈ S ∧ M.isMatch r t = true := List.mem_filter

theorem survivor_mem {found : List Tunnel} (h : M.survivor found = some s) : s ∈ found := by
  simp only [survivor, Option.orElse_eq_orElse, Option.orElse_eq_or, Option.or_eq_some_iff] at h
  rcases h with h | ⟨-, h | ⟨-, h⟩⟩
  · exact List.mem_of_find?_eq_some h
  · exact List.mem_of_find?_eq_some h
  · exact List.mem_of_mem_head? h

theorem survivor_eq_none {found : List Tunnel} : M.survivor found = none ↔ found = [] := by
  constructor
  · intro h
    simp only [survivor, Option.orElse_eq_orElse, Option.orElse_eq_or, Option.or_eq_none_iff] at h
    exact List.head?_eq_none_iff.1 h.2.2
  · rintro rfl
    rfl

theorem mem_duplicateIds {found : List Tunnel} {id : Int} :
    id ∈ M.duplicateIds found s ↔ ∃ t ∈ found, M.ownersOf t.id = M.ownersOf s.id ∧ t.id = id := by
  simp [duplicateIds, and_assoc]

theorem mergeRoute_cases (M : Call) (S : List Tunnel) (r : Tunnel) :
    (M.matching S r = [] ∧ M.mergeRoute S r = S ++ [r] ∧ M.absorbed S r = id) ∨
      ∃ s, M.survivor (M.matching S r) = some s ∧
        M.mergeRoute S r =
          replaceFirst (fun t => (M.duplicateIds (M.matching S r) s).contains t.id)
            { r with id := s.id, name := s.name } S ∧
        ∀ id, M.absorbed S r id =
          if id ∈ M.duplicateIds (M.matching S r) s then s.id else id := by
  cases h : M.survivor (M.matching S r) with
  | none =>
    refine Or.inl ⟨survivor_eq_none.1 h, ?_, ?_⟩
    · simp only [mergeRoute, h]
    · funext id
      simp only [absorbed, h, id_eq]
  | some s =>
    refine Or.inr ⟨s, rfl, ?_, fun id => ?_⟩
    · simp only [mergeRoute, h]
    · simp only [absorbed, h]

/-- Where ids are distinct, a tunnel is replaced only if it is a match itself. -/
theorem isMatch_of_duplicateId (hids : (S.map (·.id)).Nodup) (ht : t ∈ S)
    (h : t.id ∈ M.duplicateIds (M.matching S r) s) :
    M.isMatch r t = true ∧ M.ownersOf t.id = M.ownersOf s.id := by
  obtain ⟨u, hu, howners, hid⟩ := mem_duplicateIds.1 h
  rw [mem_matching] at hu
  obtain rfl : u = t := List.inj_on_of_nodup_map hids hu.1 ht hid
  exact ⟨hu.2, howners⟩

theorem mem_ids_mergeRoute {id : Int} (h : id ∈ (M.mergeRoute S r).map (·.id)) :
    id ∈ S.map (·.id) ∨ id = r.id := by
  obtain ⟨t, ht, rfl⟩ := List.mem_map.1 h
  rcases M.mergeRoute_cases S r with ⟨-, hround, -⟩ | ⟨s, hs, hround, -⟩ <;> rw [hround] at ht
  · rcases List.mem_append.1 ht with ht | ht
    · exact Or.inl (List.mem_map_of_mem ht)
    · exact Or.inr (congrArg Tunnel.id (List.mem_singleton.1 ht))
  · rcases mem_replaceFirst.1 ht with rfl | ht
    · exact Or.inl (List.mem_map.2 ⟨s, (mem_matching.1 (survivor_mem hs)).1, rfl⟩)
    · exact Or.inl (List.mem_map_of_mem ht.1)

theorem nodup_mergeRoute (hids : (S.map (·.id)).Nodup) (hr : r.id ∉ S.map (·.id)) :
    ((M.mergeRoute S r).map (·.id)).Nodup := by
  rcases M.mergeRoute_cases S r with ⟨-, hround, -⟩ | ⟨s, hs, hround, -⟩ <;> rw [hround]
  · rw [List.map_append, List.nodup_append_comm]
    exact List.nodup_cons.2 ⟨hr, hids⟩
  · rw [((replaceFirst_perm _ _ S).map Tunnel.id).nodup_iff, List.map_cons, List.nodup_cons]
    refine ⟨fun hmem => ?_, hids.sublist (List.filter_sublist.map _)⟩
    obtain ⟨t, ht, hid⟩ := List.mem_map.1 hmem
    have hnot : t.id ∉ M.duplicateIds (M.matching S r) s := by simpa using (List.mem_filter.1 ht).2
    exact hnot (mem_duplicateIds.2 ⟨s, survivor_mem hs, rfl, hid.symm⟩)

theorem sublist_mergeRoute {U : List Tunnel} (hids : (S.map (·.id)).Nodup) (hU : U.Sublist S)
    (hr : ∀ u ∈ U, M.isMatch r u = false) : U.Sublist (M.mergeRoute S r) := by
  rcases M.mergeRoute_cases S r with ⟨-, hround, -⟩ | ⟨s, hs, hround, -⟩ <;> rw [hround]
  · exact hU.trans (List.sublist_append_left S [r])
  · have hstay : U.filter (fun t => ! (M.duplicateIds (M.matching S r) s).contains t.id) = U := by
      refine List.filter_eq_self.2 fun u hu => ?_
      have hnot : u.id ∉ M.duplicateIds (M.matching S r) s := fun hid => by
        have hmatch := (isMatch_of_duplicateId hids (hU.subset hu) hid).1
        exact Bool.false_ne_true ((hr u hu).symm.trans hmatch)
      simpa using hnot
    rw [← hstay]
    exact (hU.filter _).trans (List.sublist_insertIdx _ _ _)

/-- An id moves on to one that is there and has the same owners. -/
theorem absorbed_spec {id : Int} (hid : id ∈ S.map (·.id)) :
    M.absorbed S r id ∈ (M.mergeRoute S r).map (·.id) ∧
      M.ownersOf (M.absorbed S r id) = M.ownersOf id := by
  obtain ⟨t, ht, rfl⟩ := List.mem_map.1 hid
  rcases M.mergeRoute_cases S r with ⟨-, hround, habsorbed⟩ | ⟨s, hs, hround, habsorbed⟩
  · rw [hround, habsorbed]
    exact ⟨List.mem_map_of_mem (List.mem_append_left _ ht), rfl⟩
  · rw [hround, habsorbed]
    split_ifs with hdup
    · obtain ⟨u, -, howners, hu⟩ := mem_duplicateIds.1 hdup
      refine ⟨List.mem_map.2 ⟨_, mem_replaceFirst.2 (Or.inl rfl), rfl⟩, ?_⟩
      rw [← hu, howners]
    · refine ⟨List.mem_map_of_mem (mem_replaceFirst.2 (Or.inr ⟨ht, ?_⟩)), rfl⟩
      simpa using hdup

/-- The list has a tunnel of the server, the profile and the transport of `r`. -/
def Provides (S : List Tunnel) (r : Tunnel) : Prop :=
  ∃ v ∈ S, identity v = identity r ∧ equalsIgnoreCase v.transportType r.transportType = true

theorem provides_mergeRoute (S : List Tunnel) (r : Tunnel) : Provides (M.mergeRoute S r) r := by
  rcases M.mergeRoute_cases S r with ⟨-, hround, -⟩ | ⟨s, -, hround, -⟩ <;> rw [hround]
  · exact ⟨r, by simp, rfl, equalsIgnoreCase_self _⟩
  · exact ⟨_, mem_replaceFirst.2 (Or.inl rfl), rfl, equalsIgnoreCase_self _⟩

theorem Provides.mergeRoute {r' : Tunnel} (h : Provides S r')
    (hprofile : isNullOrBlank r'.managedProfileId = false) (hids : (S.map (·.id)).Nodup) :
    Provides (M.mergeRoute S r) r' := by
  obtain ⟨v, hv, hidentity, htransport⟩ := h
  rcases M.mergeRoute_cases S r with ⟨-, hround, -⟩ | ⟨s, hs, hround, -⟩ <;> rw [hround]
  · exact ⟨v, List.mem_append_left _ hv, hidentity, htransport⟩
  by_cases hdup : v.id ∈ M.duplicateIds (M.matching S r) s
  · -- The tunnel is replaced by `r`, of which it is the same route by its profile.
    have hsame := isMatch_sameRoute (isMatch_of_duplicateId hids hv hdup).1
    have hv' : isNullOrBlank v.managedProfileId = false := by
      rw [← hprofile]
      exact congrArg isNullOrBlank (congrArg Prod.snd hidentity)
    refine ⟨_, mem_replaceFirst.2 (Or.inl rfl), ?_, ?_⟩
    · exact (sameRoute_identity hsame hv').symm.trans hidentity
    · exact equalsIgnoreCase_trans (equalsIgnoreCase_symm (sameRoute_transport hsame)) htransport
  · exact ⟨v, mem_replaceFirst.2 (Or.inr ⟨hv, by simpa using hdup⟩), hidentity, htransport⟩

/-! ### All rounds -/

def mergeAll (M : Call) (S incoming : List Tunnel) : List Tunnel := incoming.foldl M.mergeRoute S

variable {incoming : List Tunnel}

@[simp] theorem mergeAll_nil (M : Call) (S : List Tunnel) : M.mergeAll S [] = S := rfl

@[simp] theorem mergeAll_cons (M : Call) (S : List Tunnel) (r : Tunnel) (incoming : List Tunnel) :
    M.mergeAll S (r :: incoming) = M.mergeAll (M.mergeRoute S r) incoming := rfl

theorem mergeAll_append (M : Call) (S before after : List Tunnel) :
    M.mergeAll S (before ++ after) = M.mergeAll (M.mergeAll S before) after :=
  List.foldl_append

/-- The ids of the list and of the restored tunnels that are left are distinct. -/
def Fresh (S incoming : List Tunnel) : Prop := ((S ++ incoming).map (·.id)).Nodup

theorem Fresh.ids (h : Fresh S incoming) : (S.map (·.id)).Nodup :=
  h.sublist ((List.sublist_append_left S incoming).map _)

theorem Fresh.mergeRoute (h : Fresh S (r :: incoming)) : Fresh (M.mergeRoute S r) incoming := by
  rw [Fresh, List.map_append, List.map_cons, List.nodup_append] at h
  obtain ⟨hS, hincoming, hdisjoint⟩ := h
  rw [List.nodup_cons] at hincoming
  rw [Fresh, List.map_append, List.nodup_append]
  refine ⟨nodup_mergeRoute hS fun hr => hdisjoint _ hr _ List.mem_cons_self rfl, hincoming.2, ?_⟩
  intro id hid id' hid' heq
  rcases mem_ids_mergeRoute hid with hid | rfl
  · exact hdisjoint id hid id' (List.mem_cons_of_mem _ hid') heq
  · exact hincoming.1 (heq ▸ hid')

theorem Fresh.mergeAll {before after : List Tunnel} (h : Fresh S (before ++ after)) :
    Fresh (M.mergeAll S before) after := by
  induction before generalizing S with
  | nil => exact h
  | cons r before ih => exact ih h.mergeRoute

theorem Fresh.nodup_mergeAll (h : Fresh S incoming) :
    ((M.mergeAll S incoming).map (·.id)).Nodup := by
  have hend : Fresh (M.mergeAll S incoming) [] := Fresh.mergeAll (by simpa using h)
  exact hend.ids

theorem Fresh.sublist_mergeAll {U : List Tunnel} (h : Fresh S incoming) (hU : U.Sublist S)
    (hr : ∀ u ∈ U, ∀ r ∈ incoming, M.isMatch r u = false) : U.Sublist (M.mergeAll S incoming) := by
  induction incoming generalizing S with
  | nil => exact hU
  | cons r incoming ih =>
    refine ih h.mergeRoute (sublist_mergeRoute h.ids hU fun u hu => hr u hu r List.mem_cons_self) ?_
    exact fun u hu r' hr' => hr u hu r' (List.mem_cons_of_mem _ hr')

theorem survivingId_spec {id : Int} (hid : id ∈ S.map (·.id)) :
    M.survivingId S incoming id ∈ (M.mergeAll S incoming).map (·.id) ∧
      M.ownersOf (M.survivingId S incoming id) = M.ownersOf id := by
  induction incoming generalizing S id with
  | nil => exact ⟨hid, rfl⟩
  | cons r incoming ih =>
    obtain ⟨hmem, howners⟩ := absorbed_spec hid
    obtain ⟨hmem', howners'⟩ := ih hmem
    exact ⟨hmem', howners'.trans howners⟩

/-- A tunnel that disappears was the route of a restored one, and its id went on to an id with the
same owners. -/
theorem Fresh.disappears (h : Fresh S incoming) (ht : t ∈ S)
    (hgone : t.id ∉ (M.mergeAll S incoming).map (·.id)) :
    (∃ r ∈ incoming, sameRoute t r = true) ∧
      M.survivingId S incoming t.id ∈ (M.mergeAll S incoming).map (·.id) ∧
        M.ownersOf (M.survivingId S incoming t.id) = M.ownersOf t.id := by
  refine ⟨?_, survivingId_spec (List.mem_map_of_mem ht)⟩
  by_contra hnone
  have hkept := h.sublist_mergeAll (M := M) (List.singleton_sublist.2 ht) fun u hu r hr => by
    rw [List.mem_singleton.1 hu, ← Bool.not_eq_true]
    exact fun hmatch => hnone ⟨r, hr, isMatch_sameRoute hmatch⟩
  exact hgone (List.mem_map_of_mem (List.singleton_sublist.1 hkept))

theorem Provides.mergeAll {r' : Tunnel} (h : Provides S r')
    (hprofile : isNullOrBlank r'.managedProfileId = false) (hids : Fresh S incoming) :
    Provides (M.mergeAll S incoming) r' := by
  induction incoming generalizing S with
  | nil => exact h
  | cons r incoming ih => exact ih (h.mergeRoute hprofile hids.ids) hids.mergeRoute

theorem Fresh.provides (h : Fresh S incoming) {r' : Tunnel} (hr' : r' ∈ incoming)
    (hprofile : isNullOrBlank r'.managedProfileId = false) :
    Provides (M.mergeAll S incoming) r' := by
  induction incoming generalizing S with
  | nil => cases hr'
  | cons r incoming ih =>
    rcases List.mem_cons.1 hr' with rfl | hr'
    · exact (provides_mergeRoute S r').mergeAll hprofile h.mergeRoute
    · exact ih h.mergeRoute hr'

end Call

/-- The merge keeps ids distinct, keeps what is no restored route, lets a tunnel disappear only
into one with the same owners, and provides every restored profile. -/
theorem upsert_merges (saved incoming : List Tunnel) (preferredId : Option Int)
    (owners : Int → Option (Finset String)) (selectedId : Option Int)
    (hids : ((saved ++ incoming).map (·.id)).Nodup) :
    ((upsert saved incoming preferredId owners selectedId).map (·.id)).Nodup ∧
    (saved.filter fun t => incoming.all fun r => ! sameRoute t r).Sublist
      (upsert saved incoming preferredId owners selectedId) ∧
    (∀ before after, before ++ after = incoming →
      ∀ t ∈ (callOf saved incoming preferredId owners selectedId).mergeAll saved before,
        t.id ∉ (upsert saved incoming preferredId owners selectedId).map (·.id) →
          (∃ r ∈ after, sameRoute t r = true) ∧
          ∃ v ∈ upsert saved incoming preferredId owners selectedId,
            v.id = (callOf saved incoming preferredId owners selectedId).survivingId
              ((callOf saved incoming preferredId owners selectedId).mergeAll saved before) after
              t.id ∧
            (owners v.id).getD ∅ = (owners t.id).getD ∅) ∧
    (∀ r ∈ incoming, isNullOrBlank r.serverId = false → isNullOrBlank r.managedProfileId = false →
      ∃ v ∈ upsert saved incoming preferredId owners selectedId, v.serverId = r.serverId ∧
        v.managedProfileId = r.managedProfileId ∧
        equalsIgnoreCase v.transportType r.transportType = true) := by
  have hfresh : Call.Fresh saved incoming := hids
  rw [upsert, ← Call.mergeAll]
  refine ⟨hfresh.nodup_mergeAll, hfresh.sublist_mergeAll List.filter_sublist ?_, ?_, ?_⟩
  · intro t ht r hr
    have hall := List.all_eq_true.1 (List.mem_filter.1 ht).2 r hr
    exact Call.isMatch_of_not_sameRoute (by simpa using hall)
  · rintro before after rfl t ht hgone
    rw [Call.mergeAll_append] at hgone ⊢
    obtain ⟨hroute, hmem, howners⟩ := hfresh.mergeAll.disappears ht hgone
    obtain ⟨v, hv, hid⟩ := List.mem_map.1 hmem
    refine ⟨hroute, v, hv, hid, ?_⟩
    rw [← hid] at howners
    exact howners
  · intro r hr _ hprofile
    obtain ⟨v, hv, hidentity, htransport⟩ := hfresh.provides hr hprofile
    exact ⟨v, hv, congrArg Prod.fst hidentity, congrArg Prod.snd hidentity, htransport⟩

def serverRoute : Tunnel where
  id := 100
  name := "Server MQTT"
  transportType := "mqtt"
  transportConnPayload := ["--url", "wss://broker/mqtt#one"]
  encryptionKey := some "secret encryption key"
  serverId := some "server"
  managedProfileId := some "profile"

/-- The user's own tunnel of that route, another record of it, and the tunnel of another server. -/
def savedRoutes : List Tunnel :=
  [{ serverRoute with
    id := 1, name := "My connection", serverId := none, managedProfileId := none },
    { serverRoute with id := 2 },
    { serverRoute with
      id := 3
      serverId := some "other-server"
      encryptionKey := some "different server secret" }]

/-- The second record disappears into the first. -/
theorem upsert_merges_savedRoutes :
    ((savedRoutes ++ [serverRoute]).map (·.id)).Nodup ∧
      (2 : Int) ∉ (upsert savedRoutes [serverRoute] (some 1) (fun _ => none) none).map (·.id) ∧
      ∃ r ∈ [serverRoute], sameRoute { serverRoute with id := 2 } r = true := by
  have hids : ((savedRoutes ++ [serverRoute]).map (·.id)).Nodup := by decide
  have hgone : (2 : Int) ∉
      (upsert savedRoutes [serverRoute] (some 1) (fun _ => none) none).map (·.id) := by decide
  obtain ⟨-, -, hdisappears, -⟩ :=
    upsert_merges savedRoutes [serverRoute] (some 1) (fun _ => none) none hids
  exact ⟨hids, hgone,
    (hdisappears [] [serverRoute] rfl { serverRoute with id := 2 } (by decide) hgone).1⟩

end RestoredTunnelMerge

end LibreRoute.Tunnels
