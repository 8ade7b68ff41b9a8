import LibreRoute.Tunnels.RestoredMerge

/-!
Restoring the same tunnels again.

After the first call every restored tunnel is in the list, it is the one that
would survive, and no other match has its owners, so a round changes nothing.
The second call looks for the claimants of a tunnel without a server in the
list the first one has left. A tunnel that two profiles claimed may then be
claimed by one, and is merged after all. `Stable` excludes this.
-/

namespace LibreRoute.Tunnels

open Lib

namespace RestoredTunnelMerge

namespace Call

variable {M : Call} {S F : List Tunnel} {r s t v : Tunnel}

theorem survivor_cases (h : M.survivor F = some s) :
    F.find? (fun t => some t.id == M.preferredId) = some s ∨
      F.find? (fun t => some t.id == M.preferredId) = none ∧
        (F.find? (fun t => some t.id == M.selectedId) = some s ∨
          F.find? (fun t => some t.id == M.selectedId) = none ∧ F.head? = some s) := by
  simpa only [survivor, Option.orElse_eq_orElse, Option.orElse_eq_or, Option.or_eq_some_iff] using h

theorem survivor_singleton (M : Call) (t : Tunnel) : M.survivor [t] = some t := by
  cases h : M.survivor [t] with
  | none => cases survivor_eq_none.1 h
  | some s => rw [List.mem_singleton.1 (survivor_mem h)]

theorem survivor_filter {q : Tunnel → Bool} (h : M.survivor F = some s) (hs : q s = true) :
    M.survivor (F.filter q) = some s := by
  rcases survivor_cases h with hpreferred | ⟨hpreferred, hselected | ⟨hselected, hhead⟩⟩
  · simp [survivor, find?_filter_of_some hpreferred hs]
  · simp [survivor, find?_filter_of_none hpreferred, find?_filter_of_some hselected hs]
  · obtain ⟨F', rfl⟩ := List.head?_eq_some_iff.1 hhead
    rw [survivor, find?_filter_of_none hpreferred, find?_filter_of_none hselected,
      List.filter_cons_of_pos hs]
    rfl

theorem survivor_replaceFirst {p : Tunnel → Bool} (h : M.survivor F = some s) (hid : v.id = s.id)
    (hp : ∀ t, t.id = s.id → p t = true) : M.survivor (replaceFirst p v F) = some v := by
  have hsome : ∀ key : Option Int, F.find? (fun t => some t.id == key) = some s →
      (replaceFirst p v F).find? (fun t => some t.id == key) = some v := by
    intro key hfind
    have hkey := List.find?_some hfind
    obtain rfl := beq_iff_eq.1 hkey
    obtain ⟨t, ht⟩ :
        ∃ t, (replaceFirst p v F).find? (fun t => some t.id == some s.id) = some t := by
      rw [← Option.isSome_iff_exists, List.find?_isSome]
      exact ⟨v, mem_replaceFirst.2 (Or.inl rfl), by simp [hid]⟩
    have hkey : t.id = s.id := by simpa using List.find?_some ht
    rcases mem_replaceFirst.1 (List.mem_of_find?_eq_some ht) with rfl | ⟨-, hnot⟩
    · exact ht
    · rw [hp t hkey] at hnot
      cases hnot
  have hnone : ∀ key : Option Int, F.find? (fun t => some t.id == key) = none →
      (replaceFirst p v F).find? (fun t => some t.id == key) = none := by
    intro key hkey
    rw [List.find?_eq_none] at hkey ⊢
    intro t ht
    rcases mem_replaceFirst.1 ht with rfl | ⟨ht, -⟩
    · rw [hid]
      exact hkey s (survivor_mem h)
    · exact hkey t ht
  rcases survivor_cases h with hpreferred | ⟨hpreferred, hselected | ⟨hselected, hhead⟩⟩
  · simp [survivor, hsome _ hpreferred]
  · simp [survivor, hnone _ hpreferred, hsome _ hselected]
  · obtain ⟨F', rfl⟩ := List.head?_eq_some_iff.1 hhead
    rw [survivor, hnone _ hpreferred, hnone _ hselected, replaceFirst_cons_pos (hp s rfl)]
    rfl

/-! ### Settled rounds -/

/-- The restored tunnel is in the list and would survive, and no other match has its owners. -/
def Settled (M : Call) (S : List Tunnel) (r : Tunnel) : Prop :=
  ∃ v ∈ S, v = { r with id := v.id, name := v.name } ∧ M.survivor (M.matching S r) = some v ∧
    ∀ t ∈ M.matching S r, M.ownersOf t.id = M.ownersOf v.id → t = v

theorem Settled.mergeRoute_eq (h : Settled M S r) (hids : (S.map (·.id)).Nodup) :
    M.mergeRoute S r = S := by
  obtain ⟨v, hv, hcopy, hsurvivor, halone⟩ := h
  rcases M.mergeRoute_cases S r with ⟨hnone, -, -⟩ | ⟨s, hs, hround, -⟩
  · rw [hnone] at hsurvivor
    cases hsurvivor
  obtain rfl := Option.some.inj (hs.symm.trans hsurvivor)
  rw [hround, ← hcopy]
  refine replaceFirst_self (List.Nodup.of_map _ hids) hv fun t ht => ?_
  rw [List.contains_iff_mem]
  constructor
  · intro hdup
    obtain ⟨hmatch, howners⟩ := isMatch_of_duplicateId hids ht hdup
    exact halone t (mem_matching.2 ⟨ht, hmatch⟩) howners
  · rintro rfl
    exact mem_duplicateIds.2 ⟨_, survivor_mem hs, rfl, rfl⟩

theorem isMatch_restored (h : isManaged r = true) (id : Int) (name : String) :
    M.isMatch r { r with id := id, name := name } = true := by
  have hsame : sameRoute { r with id := id, name := name } r = true := sameRoute_self h
  simp [isMatch, hsame, (isManaged_iff.1 h).1]

theorem isMatch_other (h : isManaged r = true) {r' : Tunnel} (hne : identity r ≠ identity r')
    (id : Int) (name : String) : M.isMatch r' { r with id := id, name := name } = false := by
  rw [← Bool.not_eq_true]
  intro hmatch
  exact hne (sameRoute_identity (isMatch_sameRoute hmatch) (isManaged_iff.1 h).2)

theorem settled_mergeRoute (hr : isManaged r = true) (hids : (S.map (·.id)).Nodup) :
    Settled M (M.mergeRoute S r) r := by
  rcases M.mergeRoute_cases S r with ⟨hnone, hround, -⟩ | ⟨s, hs, hround, -⟩
  · have hfound : M.matching (M.mergeRoute S r) r = [r] := by
      rw [hround, matching, List.filter_append]
      change M.matching S r ++ _ = _
      rw [hnone, List.nil_append, List.filter_cons_of_pos (isMatch_restored hr r.id r.name),
        List.filter_nil]
    refine ⟨r, by rw [hround]; simp, rfl, ?_, fun t ht _ => ?_⟩
    · rw [hfound, survivor_singleton]
    · rw [hfound] at ht
      exact List.mem_singleton.1 ht
  · have hfound : M.matching (M.mergeRoute S r) r =
        replaceFirst (fun t => (M.duplicateIds (M.matching S r) s).contains t.id)
          { r with id := s.id, name := s.name } (M.matching S r) := by
      rw [hround, matching, filter_replaceFirst_pos (isMatch_restored hr s.id s.name)]
      · rfl
      · intro t ht hdup
        exact (isMatch_of_duplicateId hids ht (List.contains_iff_mem.1 hdup)).1
    refine ⟨_, by rw [hround]; exact mem_replaceFirst.2 (Or.inl rfl), rfl, ?_,
      fun t ht howners => ?_⟩
    · rw [hfound]
      refine survivor_replaceFirst hs rfl fun t hid => ?_
      rw [hid, List.contains_iff_mem]
      exact mem_duplicateIds.2 ⟨s, survivor_mem hs, rfl, rfl⟩
    · rw [hfound] at ht
      rcases mem_replaceFirst.1 ht with ht | ⟨ht, hnot⟩
      · exact ht
      · have hdup : t.id ∈ M.duplicateIds (M.matching S r) s :=
          mem_duplicateIds.2 ⟨t, ht, howners, rfl⟩
        rw [List.contains_iff_mem.2 hdup] at hnot
        cases hnot

theorem Settled.mergeRoute {r' : Tunnel} (h : Settled M S r) (hids : (S.map (·.id)).Nodup)
    (hr : isManaged r = true) (hr' : isManaged r' = true) (hne : identity r ≠ identity r') :
    Settled M (M.mergeRoute S r') r := by
  obtain ⟨v, hv, hcopy, hsurvivor, halone⟩ := h
  have hother : ∀ id name, M.isMatch r { r' with id := id, name := name } = false :=
    isMatch_other hr' hne.symm
  rcases M.mergeRoute_cases S r' with ⟨-, hround, -⟩ | ⟨s, hs, hround, -⟩
  · have hfound : M.matching (M.mergeRoute S r') r = M.matching S r := by
      have hlast : [r'].filter (M.isMatch r) = [] :=
        List.filter_cons_of_neg (by simpa using hother r'.id r'.name)
      rw [hround, matching, List.filter_append, hlast, List.append_nil]
      rfl
    refine ⟨v, by rw [hround]; exact List.mem_append_left _ hv, hcopy, ?_, ?_⟩
    · rw [hfound, hsurvivor]
    · rw [hfound]
      exact halone
  · have hfound : M.matching (M.mergeRoute S r') r = (M.matching S r).filter
        fun t => ! (M.duplicateIds (M.matching S r') s).contains t.id := by
      rw [hround, matching, filter_replaceFirst_neg (hother s.id s.name)]
      rfl
    have hstays : (M.duplicateIds (M.matching S r') s).contains v.id = false := by
      rw [← Bool.not_eq_true, List.contains_iff_mem]
      intro hdup
      have hmatch := (isMatch_of_duplicateId hids hv hdup).1
      rw [hcopy, isMatch_other hr hne] at hmatch
      cases hmatch
    refine ⟨v, by rw [hround]; exact mem_replaceFirst.2 (Or.inr ⟨hv, hstays⟩), hcopy, ?_, ?_⟩
    · rw [hfound, survivor_filter hsurvivor (by rw [hstays]; rfl)]
    · intro t ht
      rw [hfound] at ht
      exact halone t (List.mem_filter.1 ht).1

variable {incoming : List Tunnel}

theorem Settled.mergeAll (h : Settled M S r) (hids : Fresh S incoming) (hr : isManaged r = true)
    (hincoming : ∀ r' ∈ incoming, isManaged r' = true)
    (hne : ∀ r' ∈ incoming, identity r ≠ identity r') : Settled M (M.mergeAll S incoming) r := by
  induction incoming generalizing S with
  | nil => exact h
  | cons r' incoming ih =>
    rw [List.forall_mem_cons] at hincoming hne
    exact ih (h.mergeRoute hids.ids hr hincoming.1 hne.1) hids.mergeRoute hincoming.2 hne.2

theorem settled_mergeAll (hids : Fresh S incoming) (hincoming : ∀ r ∈ incoming, isManaged r = true)
    (hidentities : (incoming.map identity).Nodup) :
    ∀ r ∈ incoming, Settled M (M.mergeAll S incoming) r := by
  induction incoming generalizing S with
  | nil => exact fun r hr => by cases hr
  | cons r incoming ih =>
    rw [List.forall_mem_cons] at hincoming ⊢
    rw [List.map_cons, List.nodup_cons] at hidentities
    refine ⟨?_, ih hids.mergeRoute hincoming.2 hidentities.2⟩
    refine (settled_mergeRoute hincoming.1 hids.ids).mergeAll hids.mergeRoute hincoming.1
      hincoming.2 fun r' hr' heq => ?_
    exact hidentities.1 (heq ▸ List.mem_map_of_mem hr')

theorem mem_mergeAll (h : t ∈ M.mergeAll S incoming) :
    t ∈ S ∨ ∃ r ∈ incoming, t = { r with id := t.id, name := t.name } := by
  induction incoming generalizing S with
  | nil => exact Or.inl h
  | cons r incoming ih =>
    rcases ih h with ht | ⟨r', hr', hcopy⟩
    · rcases M.mergeRoute_cases S r with ⟨-, hround, -⟩ | ⟨s, hs, hround, -⟩ <;> rw [hround] at ht
      · rcases List.mem_append.1 ht with ht | ht
        · exact Or.inl ht
        · obtain rfl := List.mem_singleton.1 ht
          exact Or.inr ⟨t, List.mem_cons_self, rfl⟩
      · rcases mem_replaceFirst.1 ht with rfl | ht
        · exact Or.inr ⟨r, List.mem_cons_self, rfl⟩
        · exact Or.inl ht.1
    · exact Or.inr ⟨r', List.mem_cons_of_mem _ hr', hcopy⟩

theorem mem_ids_mergeAll {id : Int} (h : id ∈ (M.mergeAll S incoming).map (·.id)) :
    id ∈ (S ++ incoming).map (·.id) := by
  induction incoming generalizing S with
  | nil => simpa using h
  | cons r incoming ih =>
    have hmem := ih h
    rw [List.map_append, List.mem_append] at hmem ⊢
    rcases hmem with hmem | hmem
    · rcases mem_ids_mergeRoute hmem with hmem | rfl
      · exact Or.inl hmem
      · exact Or.inr List.mem_cons_self
    · exact Or.inr (List.mem_cons_of_mem _ hmem)

end Call

open Call

/-! ### Claimants -/

variable {known known' : List Tunnel} {old r : Tunnel}

theorem mem_claimants {i : Option String × Option String} :
    i ∈ claimants known old ↔
      ∃ c ∈ known, isManaged c = true ∧ sameRoute old c = true ∧ identity c = i := by
  simp [claimants, List.mem_eraseDups, and_assoc]

/-- Where a restored tunnel claims a tunnel, it does so alone exactly if every claimant is it. -/
theorem claimants_length_iff (hr : r ∈ known) (hmanaged : isManaged r = true)
    (hsame : sameRoute old r = true) :
    (claimants known old).length = 1 ↔ ∀ i ∈ claimants known old, i = identity r := by
  have hmem : identity r ∈ claimants known old := mem_claimants.2 ⟨r, hr, hmanaged, hsame, rfl⟩
  constructor
  · intro hlength i hi
    obtain ⟨j, hj⟩ := List.length_eq_one_iff.1 hlength
    rw [hj, List.mem_singleton] at hi hmem
    rw [hi, hmem]
  · intro hall
    have hnodup : (claimants known old).Nodup := nodup_eraseDups _
    have hsub : (claimants known old).length ≤ [identity r].length :=
      (hnodup.subperm fun i hi => List.mem_singleton.2 (hall i hi)).length_le
    have hpos := List.length_pos_of_mem hmem
    simp only [List.length_singleton] at hsub
    omega

/-- The stored tunnels that are no restored route. -/
def untouched (saved incoming : List Tunnel) : List Tunnel :=
  saved.filter fun t => incoming.all fun r => ! sameRoute t r

/-- A restored route that has no server and is claimed by more than one profile would still be,
without the stored tunnels that are restored. -/
def Stable (saved incoming : List Tunnel) : Prop :=
  ∀ t ∈ saved, isNullOrBlank t.serverId = true → (∃ r ∈ incoming, sameRoute t r = true) →
    (claimants (saved ++ incoming) t).length ≠ 1 →
      (claimants (untouched saved incoming ++ incoming) t).length ≠ 1

section Twice

variable {saved incoming : List Tunnel} {M : Call} {t : Tunnel} {S : List Tunnel}

/-- Whoever claims a tunnel after the first call has claimed it before. -/
theorem claimants_mergeAll_subset :
    claimants (M.mergeAll saved incoming ++ incoming) t ⊆ claimants (saved ++ incoming) t := by
  intro i hi
  obtain ⟨c, hc, hmanaged, hsame, hidentity⟩ := mem_claimants.1 hi
  rw [mem_claimants]
  rcases List.mem_append.1 hc with hc | hc
  · rcases mem_mergeAll hc with hc | ⟨r, hr, hcopy⟩
    · exact ⟨c, List.mem_append_left _ hc, hmanaged, hsame, hidentity⟩
    · rw [hcopy] at hmanaged hsame hidentity
      exact ⟨r, List.mem_append_right _ hr, hmanaged, hsame, hidentity⟩
  · exact ⟨c, List.mem_append_right _ hc, hmanaged, hsame, hidentity⟩

theorem claimants_untouched_subset (hids : Call.Fresh saved incoming) :
    claimants (untouched saved incoming ++ incoming) t ⊆
      claimants (M.mergeAll saved incoming ++ incoming) t := by
  have hkept : (untouched saved incoming).Sublist (M.mergeAll saved incoming) := by
    refine hids.sublist_mergeAll List.filter_sublist fun u hu r hr => ?_
    have hall := List.all_eq_true.1 (List.mem_filter.1 hu).2 r hr
    exact isMatch_of_not_sameRoute (by simpa using hall)
  intro i hi
  obtain ⟨c, hc, hclaim⟩ := mem_claimants.1 hi
  refine mem_claimants.2 ⟨c, ?_, hclaim⟩
  rcases List.mem_append.1 hc with hc | hc
  · exact List.mem_append_left _ (hkept.subset hc)
  · exact List.mem_append_right _ hc

/-- The second call finds the matches of the first. -/
theorem matching_again (hids : Call.Fresh saved incoming)
    (hincoming : ∀ r ∈ incoming, isManaged r = true) (hstable : Stable saved incoming)
    (hM : M.known = saved ++ incoming) (hr : r ∈ incoming) :
    matching { M with known := M.mergeAll saved incoming ++ incoming }
        (M.mergeAll saved incoming) r =
      M.matching (M.mergeAll saved incoming) r := by
  refine List.filter_congr fun t ht => ?_
  cases hsame : sameRoute t r with
  | false => rw [isMatch_of_not_sameRoute hsame, isMatch_of_not_sameRoute hsame]
  | true =>
    cases hserver : isNullOrBlank t.serverId with
    | false => simp [isMatch, hserver]
    | true =>
      have hsaved : t ∈ saved := by
        rcases mem_mergeAll ht with ht | ⟨r', hr', hcopy⟩
        · exact ht
        · rw [hcopy, (isManaged_iff.1 (hincoming r' hr')).1] at hserver
          cases hserver
      have halone := claimants_length_iff (List.mem_append_right saved hr) (hincoming r hr) hsame
      have halone' := claimants_length_iff
        (List.mem_append_right (M.mergeAll saved incoming) hr) (hincoming r hr) hsame
      have huntouched := claimants_length_iff
        (List.mem_append_right (untouched saved incoming) hr) (hincoming r hr) hsame
      have hiff : (claimants (M.mergeAll saved incoming ++ incoming) t).length = 1 ↔
          (claimants (saved ++ incoming) t).length = 1 := by
        constructor
        · intro hlength
          by_contra hmany
          refine hstable t hsaved hserver ⟨r, hr, hsame⟩ hmany (huntouched.2 fun i hi => ?_)
          exact halone'.1 hlength i (claimants_untouched_subset hids hi)
        · intro hlength
          exact halone'.2 fun i hi => halone.1 hlength i (claimants_mergeAll_subset hi)
      simp [isMatch, hM, hsame, hserver, Bool.false_or, Bool.beq_eq_decide_eq, hiff]

theorem mergeAll_of_rounds (h : ∀ r ∈ incoming, M.mergeRoute S r = S) :
    M.mergeAll S incoming = S := by
  induction incoming with
  | nil => rfl
  | cons r incoming ih =>
    rw [List.forall_mem_cons] at h
    rw [mergeAll_cons, h.1, ih h.2]

theorem mergeAll_again (hids : Call.Fresh saved incoming)
    (hincoming : ∀ r ∈ incoming, isManaged r = true)
    (hidentities : (incoming.map identity).Nodup) (hstable : Stable saved incoming)
    (hM : M.known = saved ++ incoming) :
    mergeAll { M with known := M.mergeAll saved incoming ++ incoming }
        (M.mergeAll saved incoming) incoming =
      M.mergeAll saved incoming := by
  refine mergeAll_of_rounds fun r hr => ?_
  have hround : mergeRoute { M with known := M.mergeAll saved incoming ++ incoming }
      (M.mergeAll saved incoming) r = M.mergeRoute (M.mergeAll saved incoming) r := by
    simp only [mergeRoute, matching_again hids hincoming hstable hM hr]
    rfl
  rw [hround]
  exact (settled_mergeAll hids hincoming hidentities r hr).mergeRoute_eq hids.nodup_mergeAll

/-! ### Where a tunnel is merged after all -/

/-- A call leaves ids that were there, so that tunnels with the same owners keep having them. -/
theorem ownersOf_mergeAll
    (howners : ∀ u ∈ S ++ incoming, ∀ v ∈ S ++ incoming, M.ownersOf u.id = M.ownersOf v.id) :
    ∀ u ∈ M.mergeAll S incoming ++ incoming, ∀ v ∈ M.mergeAll S incoming ++ incoming,
      M.ownersOf u.id = M.ownersOf v.id := by
  have hid : ∀ u ∈ M.mergeAll S incoming ++ incoming, ∃ w ∈ S ++ incoming, w.id = u.id := by
    intro u hu
    rcases List.mem_append.1 hu with hu | hu
    · exact List.mem_map.1 (mem_ids_mergeAll (List.mem_map_of_mem hu))
    · exact ⟨u, List.mem_append_right _ hu, rfl⟩
  intro u hu v hv
  obtain ⟨u', hu', hu⟩ := hid u hu
  obtain ⟨v', hv', hv⟩ := hid v hv
  rw [← hu, ← hv]
  exact howners u' hu' v' hv'

section

variable (hserver : isNullOrBlank t.serverId = true)

include hserver

theorem not_mem_mergeRoute (hr : isManaged r = true)
    (ht : t ∉ S) : t ∉ M.mergeRoute S r := by
  have hcopy : ∀ id name, t ≠ { r with id := id, name := name } := by
    rintro id name rfl
    rw [(isManaged_iff.1 hr).1] at hserver
    cases hserver
  intro hmem
  rcases M.mergeRoute_cases S r with ⟨-, hround, -⟩ | ⟨s, hs, hround, -⟩ <;> rw [hround] at hmem
  · rcases List.mem_append.1 hmem with hmem | hmem
    · exact ht hmem
    · exact hcopy r.id r.name (List.mem_singleton.1 hmem)
  · rcases mem_replaceFirst.1 hmem with hmem | hmem
    · exact hcopy _ _ hmem
    · exact ht hmem.1

theorem not_mem_mergeRoute_of_match
    (hr : isManaged r = true) (hmatch : M.isMatch r t = true)
    (howners : ∀ u ∈ S, ∀ v ∈ S, M.ownersOf u.id = M.ownersOf v.id) : t ∉ M.mergeRoute S r := by
  by_cases ht : t ∈ S
  swap
  · exact not_mem_mergeRoute hserver hr ht
  have hfound : t ∈ M.matching S r := mem_matching.2 ⟨ht, hmatch⟩
  rcases M.mergeRoute_cases S r with ⟨hnone, -, -⟩ | ⟨s, hs, hround, -⟩
  · rw [hnone] at hfound
    cases hfound
  intro hmem
  rw [hround] at hmem
  rcases mem_replaceFirst.1 hmem with hmem | ⟨-, hnot⟩
  · rw [hmem, (isManaged_iff.1 hr).1] at hserver
    cases hserver
  · have hs' : s ∈ S := (mem_matching.1 (survivor_mem hs)).1
    have hdup : t.id ∈ M.duplicateIds (M.matching S r) s :=
      mem_duplicateIds.2 ⟨t, hfound, howners t ht s hs', rfl⟩
    rw [List.contains_iff_mem.2 hdup] at hnot
    cases hnot

theorem not_mem_mergeAll
    (hincoming : ∀ r ∈ incoming, isManaged r = true) (ht : t ∉ S) : t ∉ M.mergeAll S incoming := by
  induction incoming generalizing S with
  | nil => exact ht
  | cons r incoming ih =>
    rw [List.forall_mem_cons] at hincoming
    exact ih hincoming.2 (not_mem_mergeRoute hserver hincoming.1 ht)

theorem not_mem_mergeAll_of_match
    (hincoming : ∀ r ∈ incoming, isManaged r = true) (hr : r ∈ incoming)
    (hmatch : M.isMatch r t = true)
    (howners : ∀ u ∈ S ++ incoming, ∀ v ∈ S ++ incoming, M.ownersOf u.id = M.ownersOf v.id) :
    t ∉ M.mergeAll S incoming := by
  obtain ⟨before, after, rfl⟩ := List.append_of_mem hr
  rw [mergeAll_append, mergeAll_cons]
  have hincoming' := List.forall_mem_append.1 hincoming
  refine not_mem_mergeAll hserver (List.forall_mem_cons.1 hincoming'.2).2 ?_
  refine not_mem_mergeRoute_of_match hserver (hincoming r hr) hmatch fun u hu v hv => ?_
  have hbefore := ((List.sublist_append_left before (r :: after)).append_left S).subset
  exact ownersOf_mergeAll (fun u hu v hv => howners u (hbefore hu) v (hbefore hv)) u
    (List.mem_append_left _ hu) v (List.mem_append_left _ hv)

end

section Uniform

variable (hids : Call.Fresh saved incoming) (hincoming : ∀ r ∈ incoming, isManaged r = true)
  (hidentities : (incoming.map identity).Nodup)
  (howners : ∀ u ∈ saved ++ incoming, ∀ v ∈ saved ++ incoming, M.ownersOf u.id = M.ownersOf v.id)

include hids hincoming hidentities howners

/-- Where all tunnels have the same owners, the first call leaves no claimant that is restored. -/
theorem claimants_mergeAll_of_uniform :
    claimants (M.mergeAll saved incoming ++ incoming) t ⊆
      claimants (untouched saved incoming ++ incoming) t := by
  intro i hi
  obtain ⟨c, hc, hmanaged, hsame, rfl⟩ := mem_claimants.1 hi
  have hcopied : ∀ r ∈ incoming, c = { r with id := c.id, name := c.name } →
      identity c ∈ claimants (untouched saved incoming ++ incoming) t := by
    intro r hr hcopy
    rw [hcopy] at hmanaged hsame ⊢
    exact mem_claimants.2 ⟨r, List.mem_append_right _ hr, hmanaged, hsame, rfl⟩
  rcases List.mem_append.1 hc with hc | hc
  swap
  · exact hcopied c hc rfl
  rcases mem_mergeAll hc with hsaved | ⟨r, hr, hcopy⟩
  swap
  · exact hcopied r hr hcopy
  by_cases htouched : ∃ r ∈ incoming, sameRoute c r = true
  · -- It matches, has the owners of the survivor, and so it is the restored tunnel.
    obtain ⟨r, hr, hroute⟩ := htouched
    obtain ⟨v, hv, hcopy, -, halone⟩ := settled_mergeAll hids hincoming hidentities r hr
    have hserver := (isManaged_iff.1 hmanaged).1
    have hmatch : c ∈ M.matching (M.mergeAll saved incoming) r :=
      mem_matching.2 ⟨hc, by simp [isMatch, hroute, hserver]⟩
    have hcv : c = v := halone c hmatch (ownersOf_mergeAll howners c (List.mem_append_left _ hc) v
      (List.mem_append_left _ hv))
    exact hcopied r hr (hcv ▸ hcopy)
  · refine mem_claimants.2 ⟨c, List.mem_append_left _ (List.mem_filter.2 ⟨hsaved, ?_⟩), hmanaged,
      hsame, rfl⟩
    rw [List.all_eq_true]
    intro r hr
    rw [Bool.not_eq_true', ← Bool.not_eq_true]
    exact fun hroute => htouched ⟨r, hr, hroute⟩

theorem stable_of_again (hM : M.known = saved ++ incoming)
    (hagain : mergeAll { M with known := M.mergeAll saved incoming ++ incoming }
        (M.mergeAll saved incoming) incoming = M.mergeAll saved incoming) :
    Stable saved incoming := by
  rintro t ht hserver ⟨r, hr, hsame⟩ hmany halone
  -- The first call keeps the tunnel, since more than one profile claims it.
  have hkept : t ∈ M.mergeAll saved incoming := by
    refine List.singleton_sublist.1
      (hids.sublist_mergeAll (List.singleton_sublist.2 ht) fun u hu r _ => ?_)
    rw [List.mem_singleton.1 hu]
    simp [isMatch, hserver, hM, hmany]
  -- The second call does not.
  have hlength : (claimants (M.mergeAll saved incoming ++ incoming) t).length = 1 := by
    rw [claimants_length_iff (List.mem_append_right _ hr) (hincoming r hr) hsame] at halone ⊢
    exact fun i hi =>
      halone i (claimants_mergeAll_of_uniform hids hincoming hidentities howners hi)
  refine absurd hkept ?_
  rw [← hagain]
  exact not_mem_mergeAll_of_match hserver hincoming hr (by simp [isMatch, hsame, hlength])
    (ownersOf_mergeAll howners)

end Uniform

end Twice

/-- Restoring the same tunnels again changes nothing if the claims on tunnels without a server are
stable, and where all tunnels have the same owners only then. -/
theorem upsert_again (saved incoming : List Tunnel) (preferredId : Option Int)
    (owners : Int → Option (Finset String)) (selectedId : Option Int)
    (hids : ((saved ++ incoming).map (·.id)).Nodup)
    (hincoming : ∀ r ∈ incoming, isManaged r = true)
    (hidentities : (incoming.map identity).Nodup) :
    (Stable saved incoming →
      upsert (upsert saved incoming preferredId owners selectedId) incoming preferredId owners
        selectedId = upsert saved incoming preferredId owners selectedId) ∧
    ((∀ t ∈ saved ++ incoming, ∀ u ∈ saved ++ incoming,
        (owners t.id).getD ∅ = (owners u.id).getD ∅) →
      upsert (upsert saved incoming preferredId owners selectedId) incoming preferredId owners
        selectedId = upsert saved incoming preferredId owners selectedId →
      Stable saved incoming) := by
  have hfresh : Call.Fresh saved incoming := hids
  have hM : (callOf saved incoming preferredId owners selectedId).known = saved ++ incoming := rfl
  constructor
  · intro hstable
    exact mergeAll_again hfresh hincoming hidentities hstable hM
  · intro howners hagain
    exact stable_of_again (M := callOf saved incoming preferredId owners selectedId) hfresh
      hincoming hidentities howners hM hagain

/-- One profile and one tunnel of the user, on which the server and the phone agree. -/
theorem upsert_again_savedRoutes :
    ((savedRoutes ++ [serverRoute]).map (·.id)).Nodup ∧
      (∀ r ∈ [serverRoute], isManaged r = true) ∧ ([serverRoute].map identity).Nodup ∧
      Stable savedRoutes [serverRoute] ∧
      upsert (upsert savedRoutes [serverRoute] (some 1) (fun _ => none) none) [serverRoute] (some 1)
          (fun _ => none) none =
        upsert savedRoutes [serverRoute] (some 1) (fun _ => none) none := by
  have hids : ((savedRoutes ++ [serverRoute]).map (·.id)).Nodup := by decide
  have hincoming : ∀ r ∈ [serverRoute], isManaged r = true := by decide
  have hidentities : ([serverRoute].map identity).Nodup := by decide
  have hstable : Stable savedRoutes [serverRoute] := by
    unfold Stable
    decide
  exact ⟨hids, hincoming, hidentities, hstable,
    (upsert_again savedRoutes [serverRoute] (some 1) (fun _ => none) none hids hincoming
      hidentities).1 hstable⟩

/-- A tunnel of the user, and a stored profile with the same key. -/
def rotatedSaved : List Tunnel :=
  [{ serverRoute with
    id := 1, name := "My connection", serverId := none, managedProfileId := none },
    { serverRoute with id := 2, managedProfileId := some "profile-1" }]

/-- The server has given that profile another key, and the old key to a second profile. -/
def rotatedIncoming : List Tunnel :=
  [{ serverRoute with
      id := 101
      managedProfileId := some "profile-1"
      encryptionKey := some "rotated encryption key" },
    { serverRoute with id := 102, managedProfileId := some "profile-2" }]

/-- The first call keeps the user's tunnel beside the second profile, and the second merges it. -/
theorem upsert_again_merges :
    ((rotatedSaved ++ rotatedIncoming).map (·.id)).Nodup ∧
      (∀ r ∈ rotatedIncoming, isManaged r = true) ∧ (rotatedIncoming.map identity).Nodup ∧
      (upsert rotatedSaved rotatedIncoming none (fun _ => none) none).map (·.id) = [1, 2, 102] ∧
      (upsert (upsert rotatedSaved rotatedIncoming none (fun _ => none) none) rotatedIncoming none
        (fun _ => none) none).map (·.id) = [1, 2] := by
  decide

end RestoredTunnelMerge

end LibreRoute.Tunnels
