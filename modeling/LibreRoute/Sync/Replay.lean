import LibreRoute.Sync.Effects

/-!
Replacing the tunnels of a context once more after a crash.

A crash between the list of tunnels and the marker of the context leaves the
new list with the old marker. The call that is made again meets the records of
the first one that the marker does not name. Such a record does no harm as
long as it is the tunnel the second call would store under that id; it is
another one if the tunnel had to be repaired, or if it has a key and was given
a new id.
-/

namespace LibreRoute.Sync

open Lib Tunnels DirectDpiProfile
open Admin (Throwable)
open Tunnel (isAvailable)

/-! ### Tunnels that have their key file -/

/-- Making the key file changes nothing in the tunnel, whatever the file holds. -/
def IsPrepared (d : Device) (t : Tunnel) : Prop :=
  ∀ fs, localKey d fs t = .ok t.encryptionKey ∧ withLocalKey d t t.encryptionKey = t

section Prepared

variable {d : Device} {t : Tunnel} {key : Option String} {gs ps : List Tunnel}

theorem localKey_of_trimmed {key : String} (hne : t.encryptionKey ≠ some "")
    (h : trimmedKey t.encryptionKey = some key) (fs : FileSystem) (id : Int) :
    localKey d fs { t with id := id } = .ok (some key) := by
  simp [localKey, hne, h]

theorem IsPrepared.key_ne_empty (h : IsPrepared d t) : t.encryptionKey ≠ some "" := by
  intro hempty
  have hkey := (h ⟨fun _ => none⟩).1
  simp [localKey, hempty] at hkey

theorem localKey_no_files (hkey : trimmedKey t.encryptionKey = none)
    (h : localKey d ⟨fun _ => none⟩ t = .ok key) : key = none := by
  have hread : d.readText ⟨fun _ => none⟩ (d.keyPath t.id) = none := d.readText_keyPath _ _
  unfold localKey at h
  split at h
  · simpa using h.symm
  rcases hargument : keyFileArgument t.transportConnPayload with _ | path
  · simpa [hkey, hargument, hread] using h.symm
  · rcases hfile : d.canonicalFile path with e | file
    · simp [hkey, hargument, hfile] at h
    · simpa [hkey, hargument, hfile, hread] using h.symm

theorem localKey_own_file {fs : FileSystem} (hkey : trimmedKey t.encryptionKey = none)
    (hne : t.encryptionKey ≠ some "") (hflag : keyFileFlag ∈ t.transportConnPayload)
    (hfs : trimmedKey (fs.text (d.keyFile t.id)) ≠ none) (h : localKey d fs t = .ok key) :
    key ≠ none := by
  have hread : d.readText fs (d.keyPath t.id) = fs.text (d.keyFile t.id) := d.readText_keyPath _ _
  simp only [localKey, hne, if_false, hkey, hflag, if_true, hread] at h
  rcases hargument : keyFileArgument t.transportConnPayload with _ | path
  · simp only [hargument, pure_eq_ok, ok_bind] at h
    rwa [← Except.ok.inj h]
  · rcases hfile : d.canonicalFile path with e | file
    · simp [hargument, hfile] at h
    · simp only [hargument, hfile, pure_eq_ok, ok_bind] at h
      -- the file that the argument names is read first, the tunnel's own file after it
      split at h
      · simp [← Except.ok.inj h]
      · rwa [← Except.ok.inj h]

theorem IsPrepared.flag_not_mem (h : IsPrepared d t) (hkey : trimmedKey t.encryptionKey = none) :
    t.encryptionKey = none ∧ keyFileFlag ∉ t.transportConnPayload := by
  have hnone := localKey_no_files hkey (h _).1
  refine ⟨hnone, fun hflag => ?_⟩
  refine localKey_own_file hkey h.key_ne_empty hflag ?_
    (h ((⟨fun _ => none⟩ : FileSystem).put (d.keyFile t.id) (some "x"))).1 hnone
  rw [FileSystem.text_put_self]
  decide

theorem IsPrepared.localKey_with_id (h : IsPrepared d t) (fs : FileSystem) (id : Int) :
    localKey d fs { t with id := id } = .ok t.encryptionKey := by
  rcases hkey : trimmedKey t.encryptionKey with _ | key
  · obtain ⟨hnone, hflag⟩ := h.flag_not_mem hkey
    simp [localKey, hnone, keyFileArgument_of_notMem hflag, hflag]
  · have hfound := localKey_of_trimmed (d := d) h.key_ne_empty hkey fs t.id
    have hown := (h fs).1
    rw [hfound] at hown
    rw [localKey_of_trimmed h.key_ne_empty hkey, hown]

theorem isPrepared_of_unchanged {fs : FileSystem} (hkey : localKey d fs t = .ok key)
    (h : withLocalKey d t key = t) : IsPrepared d t := by
  obtain rfl : key = t.encryptionKey := congrArg Tunnel.encryptionKey h
  refine fun fs' => ⟨?_, h⟩
  rcases hown : t.encryptionKey with _ | text
  · have hpayload : removeKeyFile t.transportConnPayload = t.transportConnPayload := by
      have hsame := congrArg Tunnel.transportConnPayload h
      simpa [withLocalKey, hown] using hsame
    have hflag : keyFileFlag ∉ t.transportConnPayload := removeKeyFile_eq_self_iff.1 hpayload
    simp [localKey, hown, keyFileArgument_of_notMem hflag, hflag]
  · rw [hown] at hkey
    have hne : t.encryptionKey ≠ some "" := by
      intro hempty
      simp [localKey, hempty] at hkey
    have htrimmed : trimmedKey t.encryptionKey = some text := by
      rw [hown]
      exact localKey_trimmed hkey
    exact localKey_of_trimmed hne htrimmed fs' t.id

theorem Prepared.mem_of_isPrepared (h : Prepared d gs ps) (ht : t ∈ gs) (hprepared : IsPrepared d t)
    : t ∈ ps := by
  induction h with
  | nil => exact absurd ht List.not_mem_nil
  | cons hp _ ih =>
    obtain ⟨fs, key, hkey, rfl⟩ := hp
    rcases List.mem_cons.1 ht with rfl | ht
    · obtain rfl : t.encryptionKey = key := Except.ok.inj ((hprepared fs).1.symm.trans hkey)
      rw [(hprepared fs).2]
      exact List.mem_cons_self
    · exact List.mem_cons_of_mem _ (ih ht)

/-- A tunnel that is given an id of its own and is stored unchanged was prepared. -/
theorem Prepared.isPrepared_of_mem (h : Prepared d gs ps) (hapart : (gs.map (·.id)).Nodup)
    (ht : t ∈ gs) (hmem : t ∈ ps) : IsPrepared d t := by
  induction h with
  | nil => exact absurd ht List.not_mem_nil
  | @cons g p gs ps hp hrest ih =>
    have hids := Prepared.ids hrest
    obtain ⟨fs, key, hkey, rfl⟩ := hp
    rw [List.map_cons, List.nodup_cons] at hapart
    by_cases hid : t.id = g.id
    · -- only this tunnel has the id, before and after
      have hgiven : t = g := (List.mem_cons.1 ht).resolve_right fun ht =>
        hapart.1 (hid ▸ List.mem_map_of_mem ht)
      subst hgiven
      refine isPrepared_of_unchanged hkey ((List.mem_cons.1 hmem).resolve_right fun hmem => ?_).symm
      exact hapart.1 (hids ▸ List.mem_map_of_mem hmem)
    · refine ih hapart.2 ((List.mem_cons.1 ht).resolve_left fun heq => hid (heq ▸ rfl))
        ((List.mem_cons.1 hmem).resolve_left fun heq => hid (heq ▸ rfl))

theorem IsPrepared.keyResolves (h : IsPrepared d t) : KeyResolves d t :=
  localKey_ok_iff.1 ⟨_, (h ⟨fun _ => none⟩).1⟩

theorem Prepared.eq_map (h : Prepared d gs ps)
    (hgs : ∀ g ∈ gs, ∀ fs, localKey d fs g = .ok g.encryptionKey) :
    ps = gs.map (materialise d) := by
  induction h with
  | nil => rfl
  | cons hp _ ih =>
    obtain ⟨fs, key, hkey, rfl⟩ := hp
    rw [List.forall_mem_cons] at hgs
    obtain rfl : _ = key := Except.ok.inj ((hgs.1 fs).symm.trans hkey)
    rw [List.map_cons, ih hgs.2, materialise]

/-- The record of a tunnel under another id is the tunnel itself if it needs no repair and has no
key: with a key the record names the key file of the new id. -/
theorem IsPrepared.record_eq_iff (h : IsPrepared d t) (id : Int) :
    ensureConfigured (materialise d { t with id := id }) = { t with id := id } ↔
      ensureConfigured t = t ∧ (id ≠ t.id → t.encryptionKey = none) := by
  have hconfigured : ensureConfigured { t with id := id } = { t with id := id } ↔
      ensureConfigured t = t := by
    rw [ensureConfigured_eq_self_iff, ensureConfigured_eq_self_iff]
    exact Iff.rfl
  constructor
  · intro heq
    have hkey : (ensureConfigured (materialise d { t with id := id })).encryptionKey ≠ some "" := by
      rw [heq]
      exact h.key_ne_empty
    have hrecord := ensureConfigured_eq_self_of_key hkey
    rw [hrecord] at heq
    rw [heq] at hrecord
    refine ⟨hconfigured.1 hrecord, fun hne => ?_⟩
    by_contra hsome
    obtain ⟨key, hkey⟩ := Option.ne_none_iff_exists'.1 hsome
    have hnew := congrArg Tunnel.transportConnPayload heq
    have hown := congrArg Tunnel.transportConnPayload (h ⟨fun _ => none⟩).2
    simp only [materialise, withLocalKey, hkey, Option.isSome_some, if_true] at hnew hown
    exact hne (d.keyPath_injective (setKeyFile_injective _ (hnew.trans hown.symm)))
  · rintro ⟨hself, hnone⟩
    have hrecord : materialise d { t with id := id } = { t with id := id } := by
      by_cases hid : id = t.id
      · subst hid
        exact (h ⟨fun _ => none⟩).2
      · have hflag := (h.flag_not_mem (by rw [hnone hid]; rfl)).2
        simp [materialise, withLocalKey, hnone hid, removeKeyFile_eq_self_iff.2 hflag]
    rw [hrecord]
    exact hconfigured.2 hself

end Prepared

/-! ### The ids that are given -/

section Given

variable {L : SyncLibraries} {c : String} {C D E N S : List Tunnel} {t : Tunnel}

theorem givens_eq_of_ids (h : (givens L c E N).map (·.id) = (givens L c C N).map (·.id)) :
    givens L c E N = givens L c C N := by
  induction N generalizing C E with
  | nil => rfl
  | cons t N ih =>
    simp only [givens, List.map_cons, List.cons.injEq] at h ⊢
    refine ⟨?_, ih h.2⟩
    rw [given_with_id L c (without E t), h.1, ← given_with_id]

theorem create_ne_with_id (h : t.encryptionKey ≠ some "") (id : Int) :
    create ≠ { t with id := id } :=
  fun heq => h (congrArg Tunnel.encryptionKey heq).symm

/-- Ids tell tunnels apart, but for the built-in profile. -/
def DistinctIds (C : List Tunnel) : Prop :=
  ∀ u ∈ C, ∀ v ∈ C, u.id = v.id → u = v ∨ u = create ∨ v = create

theorem distinctIds_connections {stored : List Tunnel} (h : (stored.map (·.id)).Nodup) :
    DistinctIds (connections stored) := by
  have hsplit : ∀ u ∈ connections stored, u ∈ repaired stored ∨ u = create := by
    intro u hu
    unfold connections at hu
    split at hu
    · exact Or.inl hu
    · rwa [List.mem_append, List.mem_singleton] at hu
  intro u hu v hv hid
  rcases hsplit u hu with hu | hu
  · rcases hsplit v hv with hv | hv
    · exact Or.inl (eq_of_id_eq (nodup_ids_repaired h) hu hv hid)
    · exact Or.inr (Or.inr hv)
  · exact Or.inr (Or.inl hu)

/-- `D` is what the given tunnels `S` have left of `C`. -/
structure Leaves (C S D : List Tunnel) : Prop where
  subset : D ⊆ C
  builtIn : create ∈ C → create ∈ D
  missing : ∀ u ∈ C, u ∉ D → u.id ∈ S.map (·.id) ∨ create ∈ C ∧ u.id = create.id

section Leaves

variable (h : Leaves C S D) (ht : t.encryptionKey ≠ some "")

include h ht

theorem Leaves.given_eq (hnew : (given L c (without D t) t).id ∉ S.map (·.id)) :
    given L c (without D t) t = given L c (without C t) t := by
  have hsub : without D t ⊆ without C t := fun u hu =>
    mem_without.2 ⟨h.subset (mem_without.1 hu).1, (mem_without.1 hu).2⟩
  rcases given_of_subset (L := L) (c := c) (t := t) hsub with heq | ⟨u, hu, hnot, hid⟩
  · exact heq
  rw [mem_without] at hu
  rcases h.missing u hu.1 fun huD => hnot (mem_without.2 ⟨huD, hu.2⟩) with hseen | ⟨hC, hbuiltIn⟩
  · exact absurd (hid ▸ hseen) hnew
  · -- the built-in profile is still there and has that id
    have hmem : create ∈ without D t := mem_without.2 ⟨h.builtIn hC, create_ne_with_id ht t.id⟩
    have hgiven := given_free hmem (hbuiltIn.symm.trans hid)
    rw [given_with_id] at hgiven
    exact absurd hgiven (create_ne_with_id ht _)

theorem Leaves.cons (hC : DistinctIds C) : Leaves C (given L c (without D t) t :: S)
    (without (without D t) (given L c (without D t) t)) := by
  refine ⟨fun u hu => h.subset (mem_without.1 (mem_without.1 hu).1).1, fun hmem => ?_,
    fun u hu hnot => ?_⟩
  · rw [given_with_id, mem_without, mem_without]
    exact ⟨⟨h.builtIn hmem, create_ne_with_id ht t.id⟩, create_ne_with_id ht _⟩
  rw [List.map_cons, List.mem_cons]
  by_cases huD : u ∈ D
  swap
  · exact (h.missing u hu huD).imp_left Or.inr
  by_cases hut : u = t
  swap
  · have hug : u = given L c (without D t) t := by
      by_contra hug
      exact hnot (mem_without.2 ⟨mem_without.2 ⟨huD, hut⟩, hug⟩)
    exact Or.inl (Or.inl (congrArg Tunnel.id hug))
  by_cases hclash : ∃ v ∈ without D t, v.id = t.id
  · obtain ⟨v, hv, hid⟩ := hclash
    rw [mem_without] at hv
    have hvC := h.subset hv.1
    subst hut
    rcases hC v hvC u hu hid with rfl | rfl | rfl
    · exact absurd rfl hv.2
    · exact Or.inr ⟨hvC, hid.symm⟩
    · exact absurd rfl (create_ne_with_id ht create.id)
  · rw [hut, given_of_no_clash hclash]
    exact Or.inl (Or.inl rfl)

end Leaves

theorem Leaves.givens_eq_map (hC : DistinctIds C) (hN : ∀ t ∈ N, t.encryptionKey ≠ some "")
    (h : Leaves C S D) (hnodup : ((givens L c D N).map (·.id) ++ S.map (·.id)).Nodup) :
    givens L c D N = N.map fun t => given L c (without C t) t := by
  induction N generalizing D S with
  | nil => rfl
  | cons t N ih =>
    rw [List.forall_mem_cons] at hN
    simp only [givens, List.map_cons, List.cons_append] at hnodup ⊢
    have hgiven := h.given_eq hN.1 fun hmem =>
      (List.nodup_cons.1 hnodup).1 (List.mem_append_right _ hmem)
    rw [ih hN.2 (h.cons hN.1 hC) (List.nodup_middle.2 hnodup), hgiven]

/-- Where no two tunnels are given the same id, each is given the id it has with all the current
tunnels: what the earlier ones have taken away is not in its way. -/
theorem givens_eq_map (hC : DistinctIds C) (hN : ∀ t ∈ N, t.encryptionKey ≠ some "")
    (hapart : Apart L c C N) : givens L c C N = N.map fun t => given L c (without C t) t := by
  have hall : Leaves C [] C := ⟨List.Subset.refl C, id, fun _ hu hnot => absurd hu hnot⟩
  exact hall.givens_eq_map hC hN (by simpa using givens_nodup_iff.2 hapart)

/-- With `E` in the place of `C` the same id is given, if only the given tunnel itself may have it
in `E`, and every tunnel of `C` is in `E` or has its place taken by one that counts as another. -/
theorem given_eq_of_stays (ht : t ∉ E)
    (hfree : ∀ u ∈ E, u.id = (given L c C t).id → u = given L c C t)
    (hstays : ∀ u ∈ C, ∃ v ∈ E, v.id = u.id ∧ (v = u ∨ ∀ id, v ≠ { t with id := id })) :
    given L c E t = given L c C t := by
  by_cases hclash : ∃ u ∈ C, u.id = t.id
  · have hclash' : ∃ u ∈ E, u.id = t.id := by
      obtain ⟨u, hu, hid⟩ := hclash
      obtain ⟨v, hv, hvid, -⟩ := hstays u hu
      exact ⟨v, hv, hvid.trans hid⟩
    rw [given_of_clash hclash] at hfree
    have hfirst : IsFirstFree (isTaken C t) _ (substituteId L c C t) := substituteId_isFirstFree
    have hfirst' : IsFirstFree (isTaken E t) (-L.idDigest (c ++ t.text))
        (substituteId L c C t) := by
      refine ⟨hfirst.le, ?_, fun n hlt hle => ?_⟩
      · rw [← Bool.not_eq_true, isTaken_iff]
        rintro ⟨u, hu, hid, hne⟩
        exact hne (hfree u hu hid)
      · obtain ⟨u, hu, hid, hne⟩ := isTaken_iff.1 (hfirst.above n hlt hle)
        obtain ⟨v, hv, hvid, hother⟩ := hstays u hu
        refine isTaken_iff.2 ⟨v, hv, hvid.trans hid, ?_⟩
        rcases hother with rfl | hother
        · exact hne
        · exact hother n
    rw [given_of_clash hclash', given_of_clash hclash, substituteId_isFirstFree.unique hfirst']
  · rw [given_of_no_clash hclash] at hfree ⊢
    refine given_of_no_clash ?_
    rintro ⟨u, hu, hid⟩
    exact ht (hfree u hu hid ▸ hu)

theorem givens_eq_of_stays (hN : ∀ t ∈ N, t.encryptionKey ≠ some "")
    (hfree : ∀ u ∈ E, ∀ g ∈ givens L c C N, u.id = g.id → u = g)
    (hstays : ∀ u ∈ C, u ∈ E ∨ create ∈ C ∧ create ∈ E ∧ u.id = create.id) :
    givens L c E N = givens L c C N := by
  induction N generalizing C E with
  | nil => rfl
  | cons t N ih =>
    rw [List.forall_mem_cons] at hN
    have hne : ∀ id, create ≠ { t with id := id } := create_ne_with_id hN.1
    have hgiven : given L c (without E t) t = given L c (without C t) t := by
      refine given_eq_of_stays (fun h => (mem_without.1 h).2 rfl) (fun u hu hid => ?_)
        fun u hu => ?_
      · exact hfree u (mem_without.1 hu).1 _ List.mem_cons_self hid
      · rw [mem_without] at hu
        rcases hstays u hu.1 with huE | ⟨-, hE, hid⟩
        · exact ⟨u, mem_without.2 ⟨huE, hu.2⟩, rfl, Or.inl rfl⟩
        · exact ⟨create, mem_without.2 ⟨hE, hne t.id⟩, hid.symm, Or.inr hne⟩
    have hunique : create ≠ given L c (without C t) t := by
      rw [given_with_id]
      exact hne _
    rw [givens, givens, hgiven]
    refine congrArg _ (ih hN.2 (fun u hu g hg => ?_) fun u hu => ?_)
    · exact hfree u (mem_without.1 (mem_without.1 hu).1).1 g (List.mem_cons_of_mem _ hg)
    · simp only [mem_without] at hu ⊢
      rcases hstays u hu.1.1 with huE | ⟨hC, hE, hid⟩
      · exact Or.inl ⟨⟨huE, hu.1.2⟩, hu.2⟩
      · exact Or.inr ⟨⟨⟨hC, hne t.id⟩, hunique⟩, ⟨⟨hE, hne t.id⟩, hunique⟩, hid⟩

end Given

/-! ### The second call -/

/-- What a crash between the list of tunnels and the marker leaves. -/
def cutState (L : SyncLibraries) (c : String) (newTunnels : List Tunnel) (s : SyncState) :
    SyncState :=
  ((saveManagedTunnels L c newTunnels).exec s).2

/-- A call that was cut and is made again ends with the tunnels and the marker of the
uninterrupted call. -/
def Converges (L : SyncLibraries) (c : String) (s : SyncState) (N : List Tunnel) : Prop :=
  (∀ t, t ∈ ((updateManagedTunnels L c N).exec (cutState L c N s)).2.store.stored ↔
      t ∈ ((updateManagedTunnels L c N).exec s).2.store.stored) ∧
    ((updateManagedTunnels L c N).exec (cutState L c N s)).2.storage.get
        (.context c .managedTunnelIds) =
      ((updateManagedTunnels L c N).exec s).2.storage.get (.context c .managedTunnelIds)

/-- The id each incoming tunnel is given is one the marker names, or its record is the tunnel
itself: it needs no repair, and has no key if it clashes with a tunnel that stays. -/
structure Settled (L : SyncLibraries) (c : String) (s : SyncState) (N : List Tunnel) : Prop where
  records : ∀ t ∈ N.filter isAvailable,
    (given L c (without (s.others c) t) t).id ∈ s.managedTunnelIds c ∨
      ensureConfigured t = t ∧
        ((∃ u ∈ s.others c, u ≠ t ∧ u.id = t.id) → t.encryptionKey = none)
  direct : (s.others c).any isDirect = true ∨ N.any isDirect = true ∨
    builtInId ∈ s.managedTunnelIds c

/-- No incoming tunnel is given the id of another one. -/
def OwnIds (L : SyncLibraries) (c : String) (s : SyncState) (N : List Tunnel) : Prop :=
  ∀ t ∈ N.filter isAvailable, ∀ u ∈ N.filter isAvailable, u ≠ t →
    (given L c (without (s.others c) t) t).id ≠ u.id

section Replay

variable {L : SyncLibraries} {c : String} {s : SyncState} {N : List Tunnel} {t : Tunnel}

theorem crash_leaves_cutState
    (h : ∀ t ∈ N.filter isAvailable, KeyResolves L.device t) :
    ∃ fates, (updateManagedTunnels L c N).run s fates = (.crashed, cutState L c N s, []) := by
  obtain ⟨prepared, files, selected, hexec, -⟩ := saveManagedTunnels_ok h
  obtain ⟨n, hn⟩ := run_bind_exec hexec
  refine ⟨List.replicate n .done ++ [.crash], ?_⟩
  rw [cutState, hexec]
  exact hn [.crash]

theorem localKey_givens {C : List Tunnel} (hN : ∀ t ∈ N, IsPrepared L.device t) :
    ∀ g ∈ givens L c C N, ∀ fs, localKey L.device fs g = .ok g.encryptionKey := by
  intro g hg fs
  obtain ⟨t, ht, hgt⟩ := exists_of_mem_givens hg
  have hkey := (hN t ht).localKey_with_id fs g.id
  rw [← hgt] at hkey
  rw [hkey, hgt]

/-- The list a call with prepared tunnels stores. -/
def storedAfter (L : SyncLibraries) (c : String) (s : SyncState) (N : List Tunnel) : List Tunnel :=
  remaining L c (s.others c) (N.filter isAvailable) ++
    (givens L c (s.others c) (N.filter isAvailable)).map (materialise L.device)

theorem prepared_filter (hN : ∀ t ∈ N, IsPrepared L.device t) :
    ∀ t ∈ N.filter isAvailable, IsPrepared L.device t :=
  fun t ht => hN t (List.mem_filter.1 ht).1

/-- The available tunnels with the ids they are given. -/
abbrev SyncState.givens (s : SyncState) (L : SyncLibraries) (c : String) (N : List Tunnel) :
    List Tunnel :=
  Sync.givens L c (s.others c) (N.filter isAvailable)

theorem cutState_eq (hN : ∀ t ∈ N, IsPrepared L.device t) :
    (cutState L c N s).store.stored = storedAfter L c s N ∧
      (cutState L c N s).storage = s.storage := by
  obtain ⟨prepared, files, selected, hexec, hprepared⟩ := saveManagedTunnels_ok
    fun t ht => (prepared_filter hN t ht).keyResolves
  rw [cutState, hexec, storedAfter, hprepared.eq_map (localKey_givens (prepared_filter hN))]
  exact ⟨rfl, rfl⟩

theorem update_eq (hN : ∀ t ∈ N, IsPrepared L.device t) :
    ((updateManagedTunnels L c N).exec s).2.store.stored = storedAfter L c s N ∧
      ((updateManagedTunnels L c N).exec s).2.storage.get (.context c .managedTunnelIds) =
        some (.ids ((s.givens L c N).map (·.id))) := by
  obtain ⟨prepared, files, selected, hexec, hprepared⟩ := updateManagedTunnels_ok
    fun t ht => (prepared_filter hN t ht).keyResolves
  rw [hexec, storedAfter, ← hprepared.ids, hprepared.eq_map (localKey_givens (prepared_filter hN))]
  exact ⟨rfl, Storage.get_put_self ..⟩

theorem SyncState.mem_others_iff :
    t ∈ s.others c ↔ t ∈ connections s.store.stored ∧ t.id ∉ s.managedTunnelIds c := by
  refine ⟨fun h => ⟨(s.others_sublist c).subset h, ?_⟩, fun h => SyncState.mem_others h.1 h.2⟩
  simpa using (List.mem_filter.1 h).2

theorem given_id_ne_iff {C : List Tunnel} :
    (given L c (without C t) t).id ≠ t.id ↔ ∃ u ∈ C, u ≠ t ∧ u.id = t.id := by
  constructor
  · intro hne
    by_contra hnone
    refine hne (congrArg Tunnel.id (given_of_no_clash ?_))
    rintro ⟨u, hu, hid⟩
    exact hnone ⟨u, (mem_without.1 hu).1, (mem_without.1 hu).2, hid⟩
  · rintro ⟨u, hu, hne, hid⟩ heq
    have hsame := given_free (mem_without.2 ⟨hu, hne⟩) (hid.trans heq.symm)
    rw [given_with_id, heq] at hsame
    exact hne hsame

theorem IsPrepared.record_eq_given_iff {C : List Tunnel} (h : IsPrepared L.device t) :
    ensureConfigured (materialise L.device (given L c (without C t) t)) =
      given L c (without C t) t ↔
      ensureConfigured t = t ∧ ((∃ u ∈ C, u ≠ t ∧ u.id = t.id) → t.encryptionKey = none) := by
  have hrecord := h.record_eq_iff (given L c (without C t) t).id
  rwa [← given_with_id, given_id_ne_iff] at hrecord

theorem any_isDirect_storedAfter :
    (storedAfter L c s N).any isDirect = true ↔
      (s.others c).any isDirect = true ∨ N.any isDirect = true := by
  have hgivens : (s.givens L c N).any isDirect =
      (N.filter isAvailable).any isDirect := by
    have hmap := givens_map (L := L) (c := c) (C := s.others c) (N := N.filter isAvailable)
      (f := isDirect) fun _ _ => rfl
    simpa [List.any_map] using congrArg (List.any · id) hmap
  have hincoming : (N.filter isAvailable).any isDirect = true ↔ N.any isDirect = true := by
    simp only [List.any_eq_true, List.mem_filter]
    exact ⟨fun ⟨t, ht, hdirect⟩ => ⟨t, ht.1, hdirect⟩,
      fun ⟨t, ht, hdirect⟩ => ⟨t, ⟨ht, isAvailable_of_isDirect hdirect⟩, hdirect⟩⟩
  have hstored : (storedAfter L c s N).any isDirect =
      ((remaining L c (s.others c) (N.filter isAvailable)).any isDirect ||
        (s.givens L c N).any isDirect) := by
    rw [storedAfter, List.any_append, List.any_map]
    rfl
  rw [hstored, Bool.or_eq_true, ← hincoming, ← hgivens]
  refine or_congr_left' fun hnone => ?_
  simp only [List.any_eq_true, not_exists, not_and] at hnone ⊢
  constructor
  · rintro ⟨t, ht, hdirect⟩
    exact ⟨t, (mem_remaining.1 ht).1, hdirect⟩
  · rintro ⟨t, ht, hdirect⟩
    refine ⟨t, mem_remaining.2 ⟨ht, fun hmem => ?_, fun hmem => hnone t hmem hdirect⟩, hdirect⟩
    have hany := List.any_eq_true.2 ⟨t, hmem, hdirect⟩
    rw [← hgivens] at hany
    obtain ⟨g, hg, hdirect'⟩ := List.any_eq_true.1 hany
    exact hnone g hg hdirect'

section

variable (hN : ∀ t ∈ N, IsPrepared L.device t)

include hN

theorem mem_cut_others :
    t ∈ (cutState L c N s).others c ↔
      t ∈ connections (storedAfter L c s N) ∧ t.id ∉ s.managedTunnelIds c := by
  obtain ⟨hstored, hstorage⟩ := cutState_eq hN
  rw [SyncState.mem_others_iff, hstored, SyncState.managedTunnelIds, hstorage]
  rfl

theorem remaining_subset_cut
    (h : t ∈ remaining L c (s.others c) (N.filter isAvailable)) :
    t ∈ (cutState L c N s).others c := by
  have hothers := SyncState.mem_others_iff.1 (mem_remaining.1 h).1
  exact (mem_cut_others hN).2
    ⟨mem_connections_of_mem hothers.1 (List.mem_append_left _ h), hothers.2⟩

theorem record_mem_cut {g : Tunnel}
    (hg : g ∈ s.givens L c N) (hid : g.id ∉ s.managedTunnelIds c) :
    ensureConfigured (materialise L.device g) ∈ (cutState L c N s).others c := by
  have havailable : (materialise L.device g).isAvailable = true :=
    givens_isAvailable (fun t ht => (List.mem_filter.1 ht).2) g hg
  refine (mem_cut_others hN).2 ⟨mem_connections.2 (Or.inl ⟨_, ?_, havailable, rfl⟩), ?_⟩
  · exact List.mem_append_right _ (List.mem_map_of_mem hg)
  · rwa [ensureConfigured_id]

/-- The second call finds what has stayed, the records of the first call, and the built-in profile
if no local connection is left. -/
theorem of_mem_cut (h : t ∈ (cutState L c N s).others c) :
    t ∈ remaining L c (s.others c) (N.filter isAvailable) ∨
      (∃ g ∈ s.givens L c N, ensureConfigured (materialise L.device g) = t) ∨
      ¬ ((storedAfter L c s N).any isDirect = true ∨ builtInId ∈ s.managedTunnelIds c) ∧
        t = create := by
  obtain ⟨hloaded, hid⟩ := (mem_cut_others hN).1 h
  rcases mem_connections.1 hloaded with ⟨u, hu, -, rfl⟩ | ⟨hdirect, rfl⟩
  · rcases List.mem_append.1 hu with hu | hu
    · have hothers := SyncState.mem_others_iff.1 (mem_remaining.1 hu).1
      rw [ensureConfigured_of_mem_connections hothers.1]
      exact Or.inl hu
    · obtain ⟨g, hg, rfl⟩ := List.mem_map.1 hu
      exact Or.inr (Or.inl ⟨g, hg, rfl⟩)
  · exact Or.inr (Or.inr ⟨fun h => h.elim (by simp [hdirect]) hid, rfl⟩)

/-- If all ids are given again, both calls store the same tunnels, apart from the built-in profile
that loading adds where no local connection is left. -/
theorem mem_storedAfter_cut_iff
    (hsame : givens L c ((cutState L c N s).others c) (N.filter isAvailable) = s.givens L c N)
    (hdirect : (storedAfter L c s N).any isDirect = true ∨
      builtInId ∈ s.managedTunnelIds c) (t : Tunnel) :
    t ∈ storedAfter L c (cutState L c N s) N ↔ t ∈ storedAfter L c s N := by
  rw [storedAfter, hsame, List.mem_append, storedAfter, List.mem_append]
  refine or_congr_left' fun hnew => ⟨fun h => ?_, fun h => ?_⟩
  · obtain ⟨hcut, hincoming, hgiven⟩ := mem_remaining.1 h
    rcases of_mem_cut hN hcut with hstays | ⟨g, hg, rfl⟩ | ⟨hnot, -⟩
    · exact hstays
    · -- a record of the first call has an id that is given again, so it does not stay
      rw [← hsame] at hg
      exact ((mem_of_given_id hcut hg (by simp [materialise])).elim hincoming hgiven).elim
    · exact absurd hdirect hnot
  · refine mem_remaining.2 ⟨remaining_subset_cut hN h, (mem_remaining.1 h).2.1, ?_⟩
    rw [hsame]
    exact (mem_remaining.1 h).2.2

theorem create_not_given {C : List Tunnel} :
    create ∉ N ∧ create ∉ givens L c C N := by
  have hkey : create.encryptionKey = some "" := rfl
  refine ⟨fun h => (hN _ h).key_ne_empty hkey, fun h => ?_⟩
  obtain ⟨t, ht, heq⟩ := exists_of_mem_givens h
  rw [heq] at hkey
  exact (hN t ht).key_ne_empty hkey

theorem direct_of_mem_iff
    (hsame : create ∈ storedAfter L c (cutState L c N s) N → create ∈ storedAfter L c s N) :
    (storedAfter L c s N).any isDirect = true ∨
      builtInId ∈ s.managedTunnelIds c := by
  by_contra hnot
  rw [not_or] at hnot
  have hloaded : create ∈ connections (storedAfter L c s N) :=
    mem_connections.2 (Or.inr ⟨Bool.eq_false_iff.2 hnot.1, rfl⟩)
  have hcut : create ∈ (cutState L c N s).others c := (mem_cut_others hN).2 ⟨hloaded, hnot.2⟩
  have hstays : create ∈ storedAfter L c (cutState L c N s) N := by
    have hgiven := create_not_given (L := L) (c := c) (C := (cutState L c N s).others c)
      (prepared_filter hN)
    exact List.mem_append_left _ (mem_remaining.2 ⟨hcut, hgiven⟩)
  exact hnot.1 (List.any_eq_true.2 ⟨create, hsame hstays, isDirect_create⟩)

theorem converges_iff_givens : Converges L c s N ↔
    (cutState L c N s).givens L c N = s.givens L c N ∧
      ((storedAfter L c s N).any isDirect = true ∨ builtInId ∈ s.managedTunnelIds c) := by
  rw [Converges, (update_eq hN).1, (update_eq hN).2, (update_eq hN).1, (update_eq hN).2,
    Option.some.injEq, Entry.ids.injEq]
  constructor
  · rintro ⟨hstored, hids⟩
    exact ⟨givens_eq_of_ids hids, direct_of_mem_iff hN (hstored create).1⟩
  · rintro ⟨hsame, hdirect⟩
    exact ⟨mem_storedAfter_cut_iff hN hsame hdirect, by rw [hsame]⟩

section Apart

variable (hstored : (s.store.stored.map (·.id)).Nodup)
  (hapart : Apart L c (s.others c) (N.filter isAvailable))

include hstored hapart

theorem givens_others : s.givens L c N =
    (N.filter isAvailable).map fun t => given L c (without (s.others c) t) t := by
  have hconnections := distinctIds_connections hstored
  refine givens_eq_map (fun u hu v hv => ?_) (fun t ht => (prepared_filter hN t ht).key_ne_empty)
    hapart
  exact hconnections u ((s.others_sublist c).subset hu) v ((s.others_sublist c).subset hv)

section Settled

variable (h : Settled L c s N)

include h

/-- A record the marker does not name is the tunnel that was given the id. -/
theorem record_eq_of_settled {g : Tunnel} (hg : g ∈ s.givens L c N)
    (hid : g.id ∉ s.managedTunnelIds c) : ensureConfigured (materialise L.device g) = g := by
  rw [givens_others hN hstored hapart] at hg
  obtain ⟨t, ht, rfl⟩ := List.mem_map.1 hg
  exact (prepared_filter hN t ht).record_eq_given_iff.2 ((h.records t ht).resolve_left hid)

/-- What was there is there for the second call, or shares its id with the built-in profile. -/
theorem stays_of_settled {u : Tunnel} (hu : u ∈ s.others c) :
    u ∈ (cutState L c N s).others c ∨ create ∈ s.others c ∧
      create ∈ (cutState L c N s).others c ∧ u.id = create.id := by
  have hcreate := create_not_given (L := L) (c := c) (C := s.others c) (prepared_filter hN)
  by_cases hgiven : u ∈ s.givens L c N
  · have hid := (SyncState.mem_others_iff.1 hu).2
    have hcut := record_mem_cut hN hgiven hid
    rw [record_eq_of_settled hN hstored hapart h hgiven hid] at hcut
    exact Or.inl hcut
  by_cases hincoming : u ∈ N.filter isAvailable
  swap
  · exact Or.inl (remaining_subset_cut hN (mem_remaining.2 ⟨hu, hincoming, hgiven⟩))
  -- an incoming tunnel that is there and is given another id clashes with the built-in profile
  have hclash : ∃ v ∈ s.others c, v ≠ u ∧ v.id = u.id := by
    rw [← given_id_ne_iff]
    intro hid
    refine hgiven ?_
    rw [givens_others hN hstored hapart]
    refine List.mem_map.2 ⟨u, hincoming, ?_⟩
    rw [given_with_id, hid]
  obtain ⟨v, hv, hne, hid⟩ := hclash
  have hv' := (s.others_sublist c).subset hv
  rcases distinctIds_connections hstored v hv' u ((s.others_sublist c).subset hu) hid with
    rfl | rfl | rfl
  · exact absurd rfl hne
  · exact Or.inr ⟨hv, remaining_subset_cut hN (mem_remaining.2 ⟨hv, hcreate⟩), hid.symm⟩
  · exact absurd hincoming hcreate.1

theorem converges_of_settled : Converges L c s N := by
  have hdirect : (storedAfter L c s N).any isDirect = true ∨ builtInId ∈ s.managedTunnelIds c := by
    rw [any_isDirect_storedAfter, or_assoc]
    exact h.direct
  refine (converges_iff_givens hN).2 ⟨givens_eq_of_stays
    (fun t ht => (prepared_filter hN t ht).key_ne_empty) (fun u hu g hg hid => ?_)
    fun u hu => stays_of_settled hN hstored hapart h hu, hdirect⟩
  rcases of_mem_cut hN hu with hstays | ⟨g', hg', rfl⟩ | ⟨hnot, -⟩
  · exact absurd hid (remaining_id_ne hstays hg)
  · have hout := ((mem_cut_others hN).1 hu).2
    rw [ensureConfigured_id] at hid hout
    obtain rfl := eq_of_id_eq (givens_nodup_iff.2 hapart) hg' hg hid
    exact record_eq_of_settled hN hstored hapart h hg' hout
  · exact absurd hdirect hnot

end Settled

theorem settled_of_converges (h : Converges L c s N) (hown : OwnIds L c s N) :
    Settled L c s N := by
  obtain ⟨hsame, hdirect⟩ := (converges_iff_givens hN).1 h
  refine ⟨fun t ht => ?_, by rwa [any_isDirect_storedAfter, or_assoc] at hdirect⟩
  by_cases hid : (given L c (without (s.others c) t) t).id ∈ s.managedTunnelIds c
  · exact Or.inl hid
  have hgivens := givens_others hN hstored hapart
  have hg : given L c (without (s.others c) t) t ∈ s.givens L c N := by
    rw [hgivens]
    exact List.mem_map_of_mem ht
  refine Or.inr ((prepared_filter hN t ht).record_eq_given_iff (c := c) |>.1 ?_)
  -- the record has an id that is given, so it is incoming, before or after it was given its id
  obtain ⟨record, hrecord⟩ : ∃ record,
    ensureConfigured (materialise L.device (given L c (without (s.others c) t) t)) = record :=
      ⟨_, rfl⟩
  have hrecordId : record.id = (given L c (without (s.others c) t) t).id := by
    rw [← hrecord, ensureConfigured_id]
    rfl
  have hcut := record_mem_cut hN hg hid
  rw [hrecord] at hcut ⊢
  rcases mem_of_given_id hcut (hsame.symm ▸ hg) hrecordId with hincoming | hgiven
  · by_cases ht' : record = t
    · rw [ht'] at hrecordId
      rw [ht', given_with_id, ← hrecordId]
    · exact absurd hrecordId.symm (hown t ht record hincoming ht')
  · have hgiven' : record ∈ s.givens L c N := hsame ▸ hgiven
    exact eq_of_id_eq (givens_nodup_iff.2 hapart) hgiven' hg hrecordId

end Apart

end

end Replay

/-- Let no two incoming tunnels be given the same id. Then a call that is cut before the marker is
written and made again ends as the uninterrupted call does if every tunnel is settled and a local
connection is left; and if no tunnel is given the id of another incoming one, only then. -/
theorem replay_converges_iff (L : SyncLibraries) (c : String) (s : SyncState) (N : List Tunnel)
    (hstored : (s.store.stored.map (·.id)).Nodup) (hprepared : ∀ t ∈ N, IsPrepared L.device t)
    (hapart : Apart L c (s.others c) (N.filter isAvailable)) :
    (Settled L c s N → Converges L c s N) ∧
      (OwnIds L c s N → (Converges L c s N ↔ Settled L c s N)) :=
  ⟨converges_of_settled hprepared hstored hapart, fun hown =>
    ⟨fun h => settled_of_converges hprepared hstored hapart h hown,
      converges_of_settled hprepared hstored hapart⟩⟩

theorem office_isPrepared (digest : Nat) :
    ∀ t ∈ [office], IsPrepared (phoneSync digest).device t := by
  have htrimmed : trimmedKey office.encryptionKey = some "office-key" := by decide
  have hfile : withLocalKey phone office office.encryptionKey = office := by decide
  rw [List.forall_mem_singleton]
  exact fun fs => ⟨localKey_of_trimmed (by decide) htrimmed fs office.id, hfile⟩

theorem apart_singleton {L : SyncLibraries} {c : String} {C : List Tunnel} (t : Tunnel) :
    Apart L c C [t] := ⟨by simp, trivial⟩

/-- The tunnel of a route, on a phone that has the built-in profile only, clashes with nothing. -/
theorem replay_converges_iff_office :
    Settled (phoneSync 0) "" (phoneState [create]) [office] ∧
      Converges (phoneSync 0) "" (phoneState [create]) [office] := by
  have hothers : (phoneState [create]).others "" = [create] := phoneState_others (by simp) (by simp)
  have hsettled : Settled (phoneSync 0) "" (phoneState [create]) [office] := by
    refine ⟨fun t ht => ?_, Or.inl ?_⟩
    · obtain rfl := List.mem_singleton.1 (List.mem_filter.1 ht).1
      refine Or.inr ⟨ensureConfigured_of_not_direct (by decide), ?_⟩
      rw [hothers]
      rintro ⟨u, hu, -, hid⟩
      rw [List.mem_singleton.1 hu] at hid
      exact absurd hid (by decide)
    · rw [hothers]
      decide
  refine ⟨hsettled, (replay_converges_iff (phoneSync 0) "" (phoneState [create]) [office]
    (by decide) (office_isPrepared 0) ?_).1 hsettled⟩
  rw [List.filter_eq_self.2 (by simp)]
  exact apart_singleton office

theorem home_others : (phoneState [create, home]).others "" = [create, home] := by
  refine phoneState_others ?_ ?_
  · exact fun t ht => twin_isAvailable t (List.mem_cons.2 (Or.inl (List.mem_singleton.1 ht)))
  · exact fun t ht => twin_not_direct t (List.mem_cons.2 (Or.inl (List.mem_singleton.1 ht)))

theorem home_givens :
    givens (phoneSync 3093772368168959395) "" ((phoneState [create, home]).others "")
      ([office].filter isAvailable) = [twin] := by
  have hwithout : without [create, home] office = [create, home] := by decide
  have hgiven : given (phoneSync 3093772368168959395) "" [create, home] office = twin := by
    refine given_of_digest_free ⟨home, by simp, rfl⟩ fun u hu hid => ?_
    change u.id = -3093772368168959395 at hid
    simp only [List.mem_cons, List.not_mem_nil, or_false] at hu
    rcases hu with rfl | rfl
    · exact absurd hid (by decide)
    · exact absurd hid (by decide)
  simp [givens, home_others, hwithout, hgiven]

/-- The incoming tunnel clashes with one of the user's and is given a substitute. The record the
first call saved has the key file of the substitute, so the second call takes it for another
tunnel. -/
theorem replay_diverges : ¬ ∀ (L : SyncLibraries) (c : String) (s : SyncState) (N : List Tunnel),
    (s.store.stored.map (·.id)).Nodup → (∀ t ∈ N, IsPrepared L.device t) →
      (N.map (·.id)).Nodup → Converges L c s N := by
  intro h
  have hfilter : [office].filter isAvailable = [office] := List.filter_eq_self.2 (by simp)
  have hconverges := h (phoneSync 3093772368168959395) "" (phoneState [create, home]) [office]
    (by decide) (office_isPrepared _) (by simp)
  have hsettled := settled_of_converges (office_isPrepared 3093772368168959395) (by decide)
    (by rw [hfilter]; exact apart_singleton office) hconverges (by simp [OwnIds, hfilter])
  have hsubstitute : given (phoneSync 3093772368168959395) ""
      (without ((phoneState [create, home]).others "") office) office = twin := by
    have hgivens := home_givens
    rw [hfilter] at hgivens
    exact List.cons.inj hgivens |>.1
  rcases hsettled.records office (by simp [hfilter]) with hmanaged | ⟨-, hkey⟩
  · rw [hsubstitute] at hmanaged
    simp at hmanaged
  · refine absurd (hkey ⟨home, ?_, by decide, rfl⟩) (by decide)
    rw [home_others]
    simp

end LibreRoute.Sync
