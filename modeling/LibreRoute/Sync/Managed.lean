import LibreRoute.Lib.Search
import LibreRoute.Sync.State
import LibreRoute.Tunnels.Confinement

/-!
Replacing the tunnels a context manages.

The stored tunnels that are not the context's own stay, apart from those that
equal an incoming one. An incoming tunnel keeps its id unless a tunnel that
stays has it; then it is given the first free number below a digest. Each is
looked at with what the earlier ones left of the tunnels that stay, and never
with the earlier ones themselves.
-/

namespace LibreRoute.Sync

open Lib Tunnels DirectDpiProfile
open Admin (Throwable)
open Tunnel (isAvailable)

/-- `currentTunnels.removeAll { it == t }`. -/
def without (tunnels : List Tunnel) (t : Tunnel) : List Tunnel := tunnels.filter (· != t)

section Update

variable (L : SyncLibraries) (c : String)

/-- An id that is another tunnel's. -/
def isTaken (current : List Tunnel) (t : Tunnel) (id : Int) : Bool :=
  current.any fun u => u.id == id && u != { t with id := id }

def substituteId (current : List Tunnel) (t : Tunnel) : Int :=
  firstFree (isTaken current t) current.length (-L.idDigest (c ++ t.text))

/-- The tunnel with its own id, or with a substitute if one of the current tunnels has that. -/
def given (current : List Tunnel) (t : Tunnel) : Tunnel :=
  if current.any (·.id == t.id) then { t with id := substituteId L c current t } else t

/-- The incoming tunnels with their ids and key files, and what stays of the current ones. -/
def prepareTunnels : List Tunnel → List Tunnel →
    Prog Throwable FileSystem (List Tunnel × List Tunnel)
  | current, [] => pure (current, [])
  | current, t :: incoming => do
      let unique := given L c (without current t) t
      let prepared ← ensureLocalKeyFile L.device unique
      let (remaining, others) ← prepareTunnels (without (without current t) unique) incoming
      pure (remaining, prepared :: others)

def SyncState.unmanaged (s : SyncState) (loaded : List Tunnel) : List Tunnel :=
  (loaded.filter isAvailable).filter fun t => ! (s.managedTunnelIds c).contains t.id

/-- The call up to the marker; the prepared tunnels are returned. -/
def saveManagedTunnels (newTunnels : List Tunnel) : SyncM (List Tunnel) := do
  let loaded ← onStore TunnelStore.load
  let current ← Prog.read fun s => s.unmanaged c loaded
  let (remaining, prepared) ←
    onFiles (prepareTunnels L c current (newTunnels.filter isAvailable))
  onStore (TunnelStore.save (remaining ++ prepared))
  pure prepared

def updateManagedTunnels (newTunnels : List Tunnel) : SyncM Unit := do
  let prepared ← saveManagedTunnels L c newTunnels
  putEntry (.context c .managedTunnelIds) (some (.ids (prepared.map (·.id))))

end Update

/-! ### Ids -/

@[simp] theorem mem_without {tunnels : List Tunnel} {t u : Tunnel} :
    u ∈ without tunnels t ↔ u ∈ tunnels ∧ u ≠ t := by
  simp [without]

theorem without_subset (tunnels : List Tunnel) (t : Tunnel) : without tunnels t ⊆ tunnels :=
  fun _ h => (mem_without.1 h).1

section Given

variable {L : SyncLibraries} {c : String} {C D M : List Tunnel} {t u : Tunnel}

theorem isTaken_iff {id : Int} :
    isTaken C t id = true ↔ ∃ u ∈ C, u.id = id ∧ u ≠ { t with id := id } := by
  simp [isTaken]

theorem isTaken_mono (h : C ⊆ D) {id : Int} (htaken : isTaken C t id = true) :
    isTaken D t id = true := by
  obtain ⟨u, hu, hid⟩ := isTaken_iff.1 htaken
  exact isTaken_iff.2 ⟨u, h hu, hid⟩

theorem substituteId_isFirstFree :
    IsFirstFree (isTaken C t) (-L.idDigest (c ++ t.text)) (substituteId L c C t) := by
  have htaken : ∀ n, isTaken C t n = true → n ∈ C.map (·.id) := by
    intro n hn
    obtain ⟨u, hu, hid, -⟩ := isTaken_iff.1 hn
    exact List.mem_map.2 ⟨u, hu, hid⟩
  have hfree := firstFree_isFirstFree htaken (-L.idDigest (c ++ t.text))
  rwa [List.length_map] at hfree

theorem given_of_clash (h : ∃ u ∈ C, u.id = t.id) :
    given L c C t = { t with id := substituteId L c C t } := by
  have hany : C.any (·.id == t.id) = true := by simpa using h
  simp [given, hany]

theorem given_of_no_clash (h : ¬ ∃ u ∈ C, u.id = t.id) : given L c C t = t := by
  have hany : ¬ C.any (·.id == t.id) = true := by simpa using h
  rw [given, if_neg hany]

theorem given_with_id (L : SyncLibraries) (c : String) (C : List Tunnel) (t : Tunnel) :
    given L c C t = { t with id := (given L c C t).id } := by
  by_cases h : ∃ u ∈ C, u.id = t.id
  · rw [given_of_clash h]
  · rw [given_of_no_clash h]

theorem given_free (hu : u ∈ C) (hid : u.id = (given L c C t).id) : u = given L c C t := by
  by_cases h : ∃ u ∈ C, u.id = t.id
  · rw [given_of_clash h] at hid ⊢
    by_contra hne
    have htaken : isTaken C t (substituteId L c C t) = true := isTaken_iff.2 ⟨u, hu, hid, hne⟩
    simp [substituteId_isFirstFree.free] at htaken
  · rw [given_of_no_clash h] at hid
    exact absurd ⟨u, hu, hid⟩ h

theorem given_of_digest_free (hclash : ∃ u ∈ C, u.id = t.id)
    (hfree : ∀ u ∈ C, u.id = -L.idDigest (c ++ t.text) →
      u = { t with id := -L.idDigest (c ++ t.text) }) :
    given L c C t = { t with id := -L.idDigest (c ++ t.text) } := by
  have hfirst : IsFirstFree (isTaken C t) (-L.idDigest (c ++ t.text))
      (-L.idDigest (c ++ t.text)) := by
    refine ⟨Int.le_refl _, ?_, fun n hlt hle => absurd hlt (by omega)⟩
    rw [← Bool.not_eq_true, isTaken_iff]
    rintro ⟨u, hu, hid, hne⟩
    exact hne (hfree u hu hid)
  rw [given_of_clash hclash, substituteId_isFirstFree.unique hfirst]

/-- With fewer current tunnels the same id is given, or that of a tunnel which is missing. -/
theorem given_of_subset (h : C ⊆ D) :
    given L c C t = given L c D t ∨ ∃ u ∈ D, u ∉ C ∧ u.id = (given L c C t).id := by
  by_cases hD : ∃ u ∈ D, u.id = t.id
  swap
  · left
    rw [given_of_no_clash hD, given_of_no_clash fun ⟨u, hu, hid⟩ => hD ⟨u, h hu, hid⟩]
  by_cases hC : ∃ u ∈ C, u.id = t.id
  · rw [given_of_clash hC, given_of_clash hD]
    have hfree : IsFirstFree (isTaken C t) _ (substituteId L c C t) := substituteId_isFirstFree
    rcases hfree.of_imp substituteId_isFirstFree fun n => isTaken_mono h with heq | htaken
    · left
      rw [heq]
    · right
      obtain ⟨u, hu, hid, hne⟩ := isTaken_iff.1 htaken
      refine ⟨u, hu, fun huC => ?_, hid⟩
      have htakenC : isTaken C t (substituteId L c C t) = true := isTaken_iff.2 ⟨u, huC, hid, hne⟩
      simp [hfree.free] at htakenC
  · right
    obtain ⟨u, hu, hid⟩ := hD
    rw [given_of_no_clash hC]
    exact ⟨u, hu, fun huC => hC ⟨u, huC, hid⟩, hid⟩

theorem given_of_between (hC : C ⊆ M) (hD : M ⊆ D) (ht : t ∉ D)
    (heq : given L c C t = given L c D t) : given L c M t = given L c C t := by
  by_cases hclashD : ∃ u ∈ D, u.id = t.id
  swap
  · rw [given_of_no_clash fun ⟨u, hu, hid⟩ => hclashD ⟨u, hD hu, hid⟩,
      given_of_no_clash fun ⟨u, hu, hid⟩ => hclashD ⟨u, hD (hC hu), hid⟩]
  have hclashC : ∃ u ∈ C, u.id = t.id := by
    by_contra hclashC
    -- the tunnel would keep its id, which is taken in the larger list
    obtain ⟨u, hu, hid⟩ := hclashD
    rw [given_of_no_clash hclashC] at heq
    have hut : u = given L c D t := given_free hu (by rw [← heq, hid])
    exact ht (heq.trans hut.symm ▸ hu)
  have hclashM : ∃ u ∈ M, u.id = t.id := by
    obtain ⟨u, hu, hid⟩ := hclashC
    exact ⟨u, hC hu, hid⟩
  rw [given_of_clash hclashC, given_of_clash hclashD, Tunnel.mk.injEq] at heq
  rw [given_of_clash hclashM, given_of_clash hclashC]
  have hfreeC : IsFirstFree (isTaken C t) _ (substituteId L c C t) := substituteId_isFirstFree
  have hfreeD : IsFirstFree (isTaken D t) _ (substituteId L c D t) := substituteId_isFirstFree
  have hM : IsFirstFree (isTaken M t) (-L.idDigest (c ++ t.text)) (substituteId L c C t) := by
    refine ⟨hfreeC.le, ?_, fun n hlt hle => isTaken_mono hC (hfreeC.above n hlt hle)⟩
    rcases htaken : isTaken M t (substituteId L c C t) with _ | _
    · rfl
    · have htakenD := isTaken_mono hD htaken
      rw [heq.1, hfreeD.free] at htakenD
      simp at htakenD
  rw [substituteId_isFirstFree.unique hM]

end Given

/-! ### All incoming tunnels -/

section Incoming

variable (L : SyncLibraries) (c : String) {seen : List Tunnel} {g : Tunnel}

/-- The incoming tunnels as they are given ids, one after the other. -/
def givens : List Tunnel → List Tunnel → List Tunnel
  | _, [] => []
  | current, t :: incoming =>
    let unique := given L c (without current t) t
    unique :: givens (without (without current t) unique) incoming

def remaining : List Tunnel → List Tunnel → List Tunnel
  | current, [] => current
  | current, t :: incoming =>
    remaining (without (without current t) (given L c (without current t) t)) incoming

variable {L c} {C D : List Tunnel} {N : List Tunnel}

theorem remaining_sublist : (remaining L c C N).Sublist C := by
  induction N generalizing C with
  | nil => exact List.Sublist.refl C
  | cons t N ih => exact ih.trans (List.filter_sublist.trans List.filter_sublist)

theorem mem_remaining {u : Tunnel} :
    u ∈ remaining L c C N ↔ u ∈ C ∧ u ∉ N ∧ u ∉ givens L c C N := by
  induction N generalizing C with
  | nil => simp [remaining, givens]
  | cons t N ih =>
    simp only [remaining, givens, ih, mem_without, List.mem_cons, not_or]
    tauto

theorem remaining_id_ne {u : Tunnel} (hu : u ∈ remaining L c C N) (hg : g ∈ givens L c C N) :
    u.id ≠ g.id := by
  induction N generalizing C with
  | nil => simp [givens] at hg
  | cons t N ih =>
    simp only [remaining] at hu
    rcases List.mem_cons.1 hg with rfl | hg
    · intro hid
      have hu' := mem_without.1 (mem_remaining.1 hu).1
      exact hu'.2 (given_free hu'.1 hid)
    · exact ih hu hg

theorem mem_of_given_id {u : Tunnel} (hu : u ∈ C) (hg : g ∈ givens L c C N) (hid : u.id = g.id) :
    u ∈ N ∨ u ∈ givens L c C N := by
  by_contra hnot
  rw [not_or] at hnot
  exact remaining_id_ne (mem_remaining.2 ⟨hu, hnot⟩) hg hid

theorem eq_of_id_eq {l : List Tunnel} (hl : (l.map (·.id)).Nodup) {u v : Tunnel} (hu : u ∈ l)
    (hv : v ∈ l) (hid : u.id = v.id) : u = v := List.inj_on_of_nodup_map hl hu hv hid

theorem remaining_nodup_iff (hC : C.Nodup) (hgivens : ((givens L c C N).map (·.id)).Nodup) :
    ((remaining L c C N).map (·.id)).Nodup ↔
      ((C.filter fun u => ! N.contains u).map (·.id)).Nodup := by
  constructor
  · intro h
    refine (hC.filter _).map_on fun u hu v hv hid => ?_
    simp only [List.mem_filter, Bool.not_eq_true', List.contains_eq_mem, decide_eq_false_iff_not]
      at hu hv
    by_cases hug : u ∈ givens L c C N
    · have hvg := (mem_of_given_id hv.1 hug hid.symm).resolve_left hv.2
      exact eq_of_id_eq hgivens hug hvg hid
    by_cases hvg : v ∈ givens L c C N
    · exact absurd ((mem_of_given_id hu.1 hvg hid).resolve_left hu.2) hug
    · exact eq_of_id_eq h (mem_remaining.2 ⟨hu.1, hu.2, hug⟩)
        (mem_remaining.2 ⟨hv.1, hv.2, hvg⟩) hid
  · intro h
    refine (hC.sublist remaining_sublist).map_on fun u hu v hv hid => ?_
    rw [mem_remaining] at hu hv
    refine eq_of_id_eq h ?_ ?_ hid
    · simp [hu.1, hu.2.1]
    · simp [hv.1, hv.2.1]

theorem mem_givens_of_mem (hC : ∀ u ∈ C, ∀ v ∈ C, u.id = v.id → u = v) {u : Tunnel} (hu : u ∈ C)
    (hN : u ∈ N) : u ∈ givens L c C N := by
  induction N generalizing C with
  | nil => exact absurd hN List.not_mem_nil
  | cons t N ih =>
    rw [givens, List.mem_cons]
    by_cases ht : u = t
    · subst ht
      refine Or.inl (given_of_no_clash fun ⟨v, hv, hid⟩ => ?_).symm
      rw [mem_without] at hv
      exact hv.2 (hC v hv.1 u hu hid)
    by_cases hgiven : u = given L c (without C t) t
    · exact Or.inl hgiven
    · refine Or.inr (ih (fun v hv w hw => hC v ?_ w ?_) ?_ ((List.mem_cons.1 hN).resolve_left ht))
      · exact without_subset _ _ (without_subset _ _ hv)
      · exact without_subset _ _ (without_subset _ _ hw)
      · exact mem_without.2 ⟨mem_without.2 ⟨hu, ht⟩, hgiven⟩

theorem exists_of_mem_givens (h : g ∈ givens L c C N) : ∃ t ∈ N, g = { t with id := g.id } := by
  induction N generalizing C with
  | nil => simp [givens] at h
  | cons t N ih =>
    rcases List.mem_cons.1 h with rfl | h
    · exact ⟨t, List.mem_cons_self, given_with_id L c (without C t) t⟩
    · obtain ⟨u, hu, hg⟩ := ih h
      exact ⟨u, List.mem_cons_of_mem _ hu, hg⟩

theorem givens_not_direct (h : ∀ t ∈ N, isDirect t = false) :
    ∀ g ∈ givens L c C N, isDirect g = false := by
  intro g hg
  obtain ⟨t, ht, heq⟩ := exists_of_mem_givens hg
  rw [heq]
  exact h t ht

theorem givens_map {β : Type} {f : Tunnel → β} (hf : ∀ t id, f { t with id := id } = f t) :
    (givens L c C N).map f = N.map f := by
  induction N generalizing C with
  | nil => rfl
  | cons t N ih =>
    have hhead : f (given L c (without C t) t) = f t := by
      rw [given_with_id]
      exact hf t _
    simp [givens, hhead, ih]

variable (L c)

/-- None of the incoming tunnels is given an id that an earlier one was given, `seen` being the
earlier ones. Each is looked at with the tunnels that stay, of which only those are missing that
equal an earlier incoming tunnel, and the one it is compared with. -/
def ApartFrom (seen : List Tunnel) : List Tunnel → List Tunnel → Prop
  | _, [] => True
  | current, t :: incoming =>
    (∀ g ∈ seen, (given L c (without (without current t) g) t).id ≠ g.id) ∧
      ApartFrom (given L c (without current t) t :: seen) (without current t) incoming

def Apart (current incoming : List Tunnel) : Prop := ApartFrom L c [] current incoming

variable {L c}

/-- `D` is what the earlier incoming tunnels left of `C`, if they took only what they were
given. -/
structure Reduced (seen C D : List Tunnel) : Prop where
  subset : D ⊆ C
  missing : ∀ u ∈ C, u ∉ D → u ∈ seen
  disjoint : ∀ u ∈ D, u ∉ seen

theorem Reduced.without (h : Reduced seen C D) (t : Tunnel) :
    Reduced seen (without C t) (without D t) := by
  refine ⟨fun u hu => ?_, fun u hu hnot => ?_, fun u hu => h.disjoint u (mem_without.1 hu).1⟩
  · rw [mem_without] at hu ⊢
    exact ⟨h.subset hu.1, hu.2⟩
  · rw [mem_without] at hu hnot
    exact h.missing u hu.1 fun huD => hnot ⟨huD, hu.2⟩

theorem Reduced.cons (h : Reduced seen C D) (g : Tunnel) :
    Reduced (g :: seen) C (Sync.without D g) := by
  refine ⟨fun u hu => h.subset (mem_without.1 hu).1, fun u hu hnot => ?_, fun u hu => ?_⟩
  · by_cases hug : u = g
    · exact List.mem_cons.2 (Or.inl hug)
    · exact List.mem_cons_of_mem _ (h.missing u hu fun huD => hnot (mem_without.2 ⟨huD, hug⟩))
  · rw [mem_without] at hu
    exact fun hmem => (List.mem_cons.1 hmem).elim hu.2 (h.disjoint u hu.1)

theorem Reduced.given_without {t : Tunnel} (h : Reduced seen C D) (ht : t ∉ C) (hg : g ∈ seen)
    (heq : given L c D t = given L c C t) : given L c (Sync.without C g) t = given L c D t := by
  refine given_of_between (fun u hu => mem_without.2 ⟨h.subset hu, fun hug => ?_⟩)
    (without_subset C g) ht heq
  exact h.disjoint u hu (hug ▸ hg)

theorem apartFrom_iff (hseen : (seen.map (·.id)).Nodup) (h : Reduced seen C D) :
    ((givens L c D N).map (·.id) ++ seen.map (·.id)).Nodup ↔ ApartFrom L c seen C N := by
  induction N generalizing seen C D with
  | nil => simp [givens, ApartFrom, hseen]
  | cons t N ih =>
    have hred := h.without t
    have ht : t ∉ Sync.without C t := fun hmem => (mem_without.1 hmem).2 rfl
    -- once the id of this tunnel is new, it is the id it is given with all of `C`
    have hstep : given L c (Sync.without D t) t = given L c (Sync.without C t) t →
        (given L c (Sync.without D t) t).id ∉ seen.map (·.id) →
        (((givens L c D (t :: N)).map (·.id) ++ seen.map (·.id)).Nodup ↔
          ApartFrom L c (given L c (Sync.without C t) t :: seen) (Sync.without C t) N) := by
      intro heq hnew
      have hseen' : ((given L c (Sync.without D t) t :: seen).map (·.id)).Nodup :=
        List.nodup_cons.2 ⟨hnew, hseen⟩
      have hrec := ih hseen' (hred.cons (given L c (Sync.without D t) t))
      rw [← heq, ← hrec]
      simp only [givens, List.map_cons, List.cons_append]
      exact List.nodup_middle.symm
    constructor
    · intro hnodup
      have hnew : (given L c (Sync.without D t) t).id ∉ seen.map (·.id) := by
        simp only [givens, List.map_cons, List.cons_append, List.nodup_cons] at hnodup
        exact fun hmem => hnodup.1 (List.mem_append_right _ hmem)
      have heq : given L c (Sync.without D t) t = given L c (Sync.without C t) t := by
        rcases given_of_subset hred.subset with heq | ⟨u, hu, hnot, hid⟩
        · exact heq
        · exact absurd (List.mem_map.2 ⟨u, hred.missing u hu hnot, hid⟩) hnew
      refine ⟨fun g hg hid => ?_, (hstep heq hnew).1 hnodup⟩
      rw [hred.given_without ht hg heq] at hid
      exact hnew (List.mem_map.2 ⟨g, hg, hid.symm⟩)
    · rintro ⟨hapart, hrest⟩
      have heq : given L c (Sync.without D t) t = given L c (Sync.without C t) t := by
        rcases given_of_subset hred.subset with heq | ⟨u, hu, hnot, hid⟩
        · exact heq
        -- the id would be that of an earlier tunnel `u`, and of no other
        have huseen := hred.missing u hu hnot
        have hsub : Sync.without D t ⊆ Sync.without (Sync.without C t) u := fun v hv =>
          mem_without.2 ⟨hred.subset hv, fun hvu => hnot (hvu ▸ hv)⟩
        rcases given_of_subset hsub with heq' | ⟨v, hv, hnot', hid'⟩
        · exact absurd (by rw [← heq', hid]) (hapart u huseen)
        · have hvu := mem_without.1 hv
          have hvseen := hred.missing v hvu.1 hnot'
          exact absurd (eq_of_id_eq hseen hvseen huseen (hid'.trans hid.symm)) hvu.2
      refine (hstep heq fun hmem => ?_).2 hrest
      obtain ⟨g, hg, hid⟩ := List.mem_map.1 hmem
      exact hapart g hg (by rw [hred.given_without ht hg heq, hid])

theorem givens_nodup_iff : ((givens L c C N).map (·.id)).Nodup ↔ Apart L c C N := by
  have h : Reduced [] C C := ⟨fun _ hu => hu, fun _ hu hnot => absurd hu hnot, by simp⟩
  have hnil : (([] : List Tunnel).map (·.id)).Nodup := List.nodup_nil
  have hiff := apartFrom_iff (L := L) (c := c) (N := N) hnil h
  rw [List.map_nil, List.append_nil] at hiff
  exact hiff

end Incoming

/-! ### The undisturbed update -/

section Exec

variable {L : SyncLibraries} {c : String} {C N : List Tunnel} {d : Device} {gs ps : List Tunnel}

theorem keyResolves_given {t : Tunnel} :
    KeyResolves L.device (given L c C t) ↔ KeyResolves L.device t := by
  rw [given_with_id]
  exact Iff.rfl

theorem ensureLocalKeyFile_ok {t : Tunnel} (h : KeyResolves d t) (fs : FileSystem) :
    ∃ key fs', localKey d fs t = .ok key ∧
      (ensureLocalKeyFile d t).exec fs = (.ok (withLocalKey d t key), fs') := by
  obtain ⟨key, hkey⟩ := localKey_ok_iff.2 h
  exact ⟨key, fs.put (d.keyFile t.id) key, hkey, by rw [ensureLocalKeyFile_exec, hkey]⟩

theorem ensureLocalKeyFile_error {t : Tunnel} (h : ¬ KeyResolves d t) (fs : FileSystem) :
    ∃ e, (ensureLocalKeyFile d t).exec fs = (.error e, fs) := by
  rcases hkey : localKey d fs t with e | key
  · exact ⟨e, by rw [ensureLocalKeyFile_exec, hkey]⟩
  · exact absurd (localKey_ok_iff.1 ⟨key, hkey⟩) h

/-- A prepared tunnel is a given one with the key that was found for it and its key file. -/
def Prepared (d : Device) (givens prepared : List Tunnel) : Prop :=
  List.Forall₂ (fun g p => ∃ fs key, localKey d fs g = .ok key ∧ p = withLocalKey d g key)
    givens prepared

theorem Prepared.ids (h : Prepared d gs ps) : ps.map (·.id) = gs.map (·.id) := by
  induction h with
  | nil => rfl
  | cons hp _ ih =>
    obtain ⟨-, key, -, rfl⟩ := hp
    simp [ih]

theorem Prepared.isAvailable (h : Prepared d gs ps) (hgs : ∀ g ∈ gs, g.isAvailable = true) :
    ∀ p ∈ ps, p.isAvailable = true := by
  induction h with
  | nil => simp
  | cons hp _ ih =>
    obtain ⟨-, key, -, rfl⟩ := hp
    rw [List.forall_mem_cons] at hgs ⊢
    exact ⟨hgs.1, ih hgs.2⟩

theorem prepareTunnels_ok (h : ∀ t ∈ N, KeyResolves L.device t) (fs : FileSystem) :
    ∃ prepared fs', (prepareTunnels L c C N).exec fs = (.ok (remaining L c C N, prepared), fs') ∧
      Prepared L.device (givens L c C N) prepared := by
  induction N generalizing C fs with
  | nil => exact ⟨[], fs, by simp [prepareTunnels, remaining], List.Forall₂.nil⟩
  | cons t N ih =>
    rw [List.forall_mem_cons] at h
    obtain ⟨key, fs₁, hfound, hkey⟩ := ensureLocalKeyFile_ok (keyResolves_given
      |>.2 h.1) fs
    obtain ⟨prepared, fs₂, hrest, hprepared⟩ := ih h.2 fs₁
    refine ⟨_ :: prepared, fs₂, ?_, List.Forall₂.cons ⟨fs, key, hfound, rfl⟩ hprepared⟩
    simp [prepareTunnels, hkey, hrest, remaining]

theorem prepareTunnels_error (h : ¬ ∀ t ∈ N, KeyResolves L.device t) (fs : FileSystem) :
    ∃ e fs', (prepareTunnels L c C N).exec fs = (.error e, fs') := by
  induction N generalizing C fs with
  | nil => simp at h
  | cons t N ih =>
    by_cases ht : KeyResolves L.device t
    · rw [List.forall_mem_cons, not_and] at h
      obtain ⟨key, fs₁, -, hkey⟩ := ensureLocalKeyFile_ok (keyResolves_given (c := c)
        (C := without C t) |>.2 ht) fs
      obtain ⟨e, fs₂, hrest⟩ := ih (C := without (without C t)
        (given L c (without C t) t)) (h ht) fs₁
      exact ⟨e, fs₂, by simp only [prepareTunnels, exec_bind, hkey, hrest]⟩
    · have hgiven : ¬ KeyResolves L.device (given L c (without C t) t) := mt keyResolves_given.1 ht
      obtain ⟨e, hkey⟩ := ensureLocalKeyFile_error hgiven fs
      exact ⟨e, fs, by simp only [prepareTunnels, exec_bind, hkey]⟩

theorem givens_isAvailable (h : ∀ t ∈ N, t.isAvailable = true) :
    ∀ g ∈ givens L c C N, g.isAvailable = true := by
  intro g hg
  obtain ⟨t, ht, heq⟩ := exists_of_mem_givens hg
  rw [heq]
  exact h t ht

/-- The stored tunnels that are not the context's own. -/
def SyncState.others (s : SyncState) (c : String) : List Tunnel :=
  s.unmanaged c (connections s.store.stored)

theorem SyncState.others_sublist (s : SyncState) (c : String) :
    (s.others c).Sublist (connections s.store.stored) :=
  List.filter_sublist.trans List.filter_sublist

variable {s : SyncState} {newTunnels : List Tunnel}

theorem stored_isAvailable {prepared : List Tunnel}
    (h : Prepared L.device (givens L c (s.others c) (newTunnels.filter isAvailable))
      prepared) :
    (remaining L c (s.others c) (newTunnels.filter isAvailable) ++ prepared).filter
        isAvailable =
      remaining L c (s.others c) (newTunnels.filter isAvailable) ++ prepared := by
  refine List.filter_eq_self.2 fun t ht => ?_
  rcases List.mem_append.1 ht with ht | ht
  · exact (List.mem_filter.1 (List.mem_filter.1 (remaining_sublist.subset ht)).1).2
  · exact h.isAvailable (givens_isAvailable fun t ht => (List.mem_filter.1 ht).2) t ht

theorem saveManagedTunnels_ok
    (h : ∀ t ∈ newTunnels.filter isAvailable, KeyResolves L.device t) :
    ∃ prepared files selected,
      (saveManagedTunnels L c newTunnels).exec s = (.ok prepared,
        { s with
          store := { stored := remaining L c (s.others c) (newTunnels.filter isAvailable) ++
                       prepared
                     selectedPreference := selected }
          files := files }) ∧
      Prepared L.device (givens L c (s.others c) (newTunnels.filter isAvailable)) prepared := by
  obtain ⟨prepared, files, hexec, hprepared⟩ :=
    prepareTunnels_ok (c := c) (C := s.others c) h s.files
  have hstored := stored_isAvailable hprepared
  have hcurrent : ∀ store, SyncState.unmanaged c { s with store := store }
      (connections s.store.stored) = s.others c := fun _ => rfl
  let loaded : TunnelStore :=
    { stored := connections s.store.stored
      selectedPreference := s.store.repairedSelection (connections s.store.stored) }
  refine ⟨prepared, files, loaded.repairedSelection
    (remaining L c (s.others c) (newTunnels.filter isAvailable) ++ prepared), ?_, hprepared⟩
  simp only [saveManagedTunnels, exec_bind, onStore_exec, onFiles_exec,
    TunnelStore.load_exec, exec_read, TunnelStore.save_exec, hcurrent, hexec, hstored,
    exec_pure]
  rfl

/-- The tunnels of a context are replaced, and it manages the new ones. -/
structure Manages (L : SyncLibraries) (s : SyncState) (c : String)
    (newTunnels tunnels : List Tunnel) (s' : SyncState) : Prop where
  stored : s'.store.stored = remaining L c (s.others c) newTunnels ++ tunnels
  prepared : Prepared L.device (givens L c (s.others c) newTunnels) tunnels
  marker : s'.storage.get (.context c .managedTunnelIds) = some (.ids (tunnels.map (·.id)))

theorem updateManagedTunnels_ok
    (h : ∀ t ∈ newTunnels.filter isAvailable, KeyResolves L.device t) :
    ∃ prepared files selected,
      (updateManagedTunnels L c newTunnels).exec s = (.ok (),
        { s with
          store := { stored := remaining L c (s.others c) (newTunnels.filter isAvailable) ++
                       prepared
                     selectedPreference := selected }
          files := files
          storage := s.storage.put (.context c .managedTunnelIds)
            (some (.ids (prepared.map (·.id)))) }) ∧
      Prepared L.device (givens L c (s.others c) (newTunnels.filter isAvailable)) prepared := by
  obtain ⟨prepared, files, selected, hexec, hprepared⟩ :=
    saveManagedTunnels_ok h
  refine ⟨prepared, files, selected, ?_, hprepared⟩
  simp [updateManagedTunnels, hexec]

theorem updateManagedTunnels_error
    (h : ¬ ∀ t ∈ newTunnels.filter isAvailable, KeyResolves L.device t) :
    ∃ e files, (updateManagedTunnels L c newTunnels).exec s = (.error e,
      { s with
        store := { stored := connections s.store.stored
                   selectedPreference := s.store.repairedSelection (connections s.store.stored) }
        files := files }) := by
  obtain ⟨e, files, hexec⟩ := prepareTunnels_error (c := c) (C := s.others c) h s.files
  have hcurrent : ∀ store, SyncState.unmanaged c { s with store := store }
      (connections s.store.stored) = s.others c := fun _ => rfl
  refine ⟨e, files, ?_⟩
  simp [updateManagedTunnels, saveManagedTunnels, TunnelStore.load_exec, hcurrent, hexec]

/-- Wherever it stops, preparing changes the key files only, and it returns what stays and the
given tunnels with their key files. -/
theorem prepareTunnels_wp {fs : FileSystem} {Q : List Tunnel × List Tunnel → FileSystem → Prop}
    {E : FileSystem → Prop} (hE : ∀ fs', E fs')
    (hQ : ∀ prepared fs', Prepared L.device (givens L c C N) prepared →
      Q (remaining L c C N, prepared) fs') :
    (prepareTunnels L c C N).wp Q E fs := by
  induction N generalizing C fs Q with
  | nil => exact wp_pure (hQ [] fs List.Forall₂.nil)
  | cons t N ih =>
    refine wp_bind (ensureLocalKeyFile_wp (hE fs) fun key hkey fs' _ => ?_)
    refine wp_bind (ih fun prepared fs'' hprepared => ?_)
    exact wp_pure (hQ _ _ (List.Forall₂.cons ⟨fs, key, hkey, rfl⟩ hprepared))

/-- What an update can leave behind: the store as it was or loaded, then the new list, and in the
end the marker. -/
theorem updateManagedTunnels_wp {Q : Unit → SyncState → Prop} {E : SyncState → Prop}
    (hload : ∀ store files, store.stored = s.store.stored ∨
      store.stored = connections s.store.stored → E { s with store := store, files := files })
    (hsave : ∀ store files prepared,
      Prepared L.device (givens L c (s.others c) (newTunnels.filter isAvailable)) prepared →
      store.stored = remaining L c (s.others c) (newTunnels.filter isAvailable) ++ prepared →
      E { s with store := store, files := files })
    (hmarker : ∀ store files prepared,
      Prepared L.device (givens L c (s.others c) (newTunnels.filter isAvailable)) prepared →
      store.stored = remaining L c (s.others c) (newTunnels.filter isAvailable) ++ prepared →
      Q () { s with
        store := store
        files := files
        storage := s.storage.put (.context c .managedTunnelIds)
          (some (.ids (prepared.map (·.id)))) }) :
    (updateManagedTunnels L c newTunnels).wp Q E s := by
  refine wp_bind (wp_bind (onStore_wp (TunnelStore.load_wp (fun store hstore => ?_)
    fun store hstore => hload store s.files hstore)))
  refine wp_bind (wp_read (wp_bind (wp_zoom (prepareTunnels_wp
    (fun files => hload store files (Or.inr hstore)) fun prepared files hprepared => ?_))))
  have hstored := stored_isAvailable (s := s) hprepared
  refine wp_bind (onStore_wp (TunnelStore.save_wp (fun store' hstore' => ?_)
    (hload store files (Or.inr hstore)) fun store' hstore' => ?_))
  · refine wp_pure (putEntry_wp
      (hmarker store' files prepared hprepared (hstore'.trans hstored)) ?_)
    exact hsave store' files prepared hprepared (hstore'.trans hstored)
  · exact hsave store' files prepared hprepared (hstore'.trans hstored)

theorem nodup_ids_repaired {stored : List Tunnel} (h : (stored.map (·.id)).Nodup) :
    ((repaired stored).map (·.id)).Nodup := by
  have hid : (fun t : Tunnel => t.id) ∘ ensureConfigured = fun t : Tunnel => t.id := by
    funext t
    exact ensureConfigured_id t
  rw [repaired, List.map_map, hid]
  exact h.sublist (List.filter_sublist.map _)

theorem connections_nodup {stored : List Tunnel} (h : (stored.map (·.id)).Nodup) :
    (connections stored).Nodup := by
  have hrepaired : (repaired stored).Nodup := List.Nodup.of_map _ (nodup_ids_repaired h)
  unfold connections
  split
  · exact hrepaired
  · next hdirect =>
      refine List.nodup_append.2 ⟨hrepaired, List.nodup_singleton _, ?_⟩
      rintro t ht u hu rfl
      rw [List.mem_singleton] at hu
      refine hdirect (List.any_eq_true.2 ⟨t, ht, ?_⟩)
      rw [hu]
      exact isDirect_create

/-- The ids stay distinct when the tunnels of a context are replaced: if the keys of all incoming
tunnels can be found, those of the tunnels that stay are distinct and no two incoming tunnels are
given the same id; otherwise nothing but the loaded list is stored, and its ids are distinct. -/
def KeepsDistinct (L : SyncLibraries) (c : String) (s : SyncState) (incoming : List Tunnel) :
    Prop :=
  ((∀ t ∈ incoming, KeyResolves L.device t) →
    (((s.others c).filter fun u => ! incoming.contains u).map (·.id)).Nodup ∧
      Apart L c (s.others c) incoming) ∧
  ((¬ ∀ t ∈ incoming, KeyResolves L.device t) → ((connections s.store.stored).map (·.id)).Nodup)

theorem updateManagedTunnels_nodup_iff (hloaded : (connections s.store.stored).Nodup) :
    (((updateManagedTunnels L c newTunnels).exec s).2.store.stored.map (·.id)).Nodup ↔
      KeepsDistinct L c s (newTunnels.filter isAvailable) := by
  by_cases h : ∀ t ∈ newTunnels.filter isAvailable, KeyResolves L.device t
  · obtain ⟨prepared, files, selected, hexec, hprepared⟩ :=
      updateManagedTunnels_ok h
    have hothers : (s.others c).Nodup := hloaded.sublist (s.others_sublist c)
    have hdisjoint : ∀ id ∈ (remaining L c (s.others c)
        (newTunnels.filter isAvailable)).map (·.id),
        ∀ id' ∈ (givens L c (s.others c) (newTunnels.filter isAvailable)).map (·.id),
          id ≠ id' := by
      intro id hid id' hid'
      obtain ⟨u, hu, rfl⟩ := List.mem_map.1 hid
      obtain ⟨g, hg, rfl⟩ := List.mem_map.1 hid'
      exact remaining_id_ne hu hg
    rw [hexec]
    simp only [List.map_append, hprepared.ids, List.nodup_append]
    constructor
    · rintro ⟨hremaining, hgivens, -⟩
      exact ⟨fun _ => ⟨(remaining_nodup_iff hothers hgivens).1 hremaining,
        givens_nodup_iff.1 hgivens⟩, fun hnot => absurd h hnot⟩
    · rintro ⟨hdistinct, -⟩
      have hgivens := givens_nodup_iff.2 (hdistinct h).2
      exact ⟨(remaining_nodup_iff hothers hgivens).2 (hdistinct h).1, hgivens, hdisjoint⟩
  · obtain ⟨e, files, hexec⟩ := updateManagedTunnels_error h
    rw [hexec]
    exact ⟨fun hnodup => ⟨fun hall => absurd hall h, fun _ => hnodup⟩, fun hkeeps => hkeeps.2 h⟩

end Exec

end LibreRoute.Sync
