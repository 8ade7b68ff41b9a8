import LibreRoute.Lib.Search
import LibreRoute.Tunnels.Models

/-!
Adding the tunnels of a backup to those that are there.

A tunnel is added unless there is one with the same transport, key and
arguments, whatever key file the arguments name. It gets an id and a name that
no tunnel has. The ids come from outside, so the search for one ends only if
the source has one to give.
-/

namespace LibreRoute.Tunnels

open Lib

namespace BackupMerge

/-- The arguments without the key file. -/
def payload : List String → List String
  | [] => []
  | [value] =>
    if value == "--encryption-key-file" || value == "-encryption-key-file" then []
    else if startsWith value "--encryption-key-file=" ||
      startsWith value "-encryption-key-file=" then []
    else [value]
  | value :: next :: rest =>
    if value == "--encryption-key-file" || value == "-encryption-key-file" then payload rest
    else if startsWith value "--encryption-key-file=" ||
      startsWith value "-encryption-key-file=" then payload (next :: rest)
    else value :: payload (next :: rest)

def sameRoute (t raw : Tunnel) : Bool :=
  t.transportType == raw.transportType && t.encryptionKey == raw.encryptionKey &&
    payload t.transportConnPayload == payload raw.transportConnPayload

theorem sameRoute_iff {t raw : Tunnel} :
    sameRoute t raw = true ↔ t.transportType = raw.transportType ∧
      t.encryptionKey = raw.encryptionKey ∧
      payload t.transportConnPayload = payload raw.transportConnPayload := by
  simp [sameRoute, and_assoc]

theorem sameRoute_trans {t u raw : Tunnel} (h : sameRoute t u = true)
    (h' : sameRoute u raw = true) : sameRoute t raw = true := by
  obtain ⟨htransport, hkey, hpayload⟩ := sameRoute_iff.1 h
  obtain ⟨htransport', hkey', hpayload'⟩ := sameRoute_iff.1 h'
  exact sameRoute_iff.2 ⟨htransport.trans htransport', hkey.trans hkey', hpayload.trans hpayload'⟩

/-- The ids that are tried: the one of the backup, then those of the source, which was called
so many times before. -/
def idCandidate (newId : Nat → Int) (raw : Tunnel) (calls : Nat) : Nat → Int
  | 0 => raw.id
  | n + 1 => newId (calls + n)

def nameCandidate (raw : Tunnel) : Nat → String
  | 0 => raw.name
  | n + 1 => raw.name ++ " (импорт " ++ toString (n + 2) ++ ")"

section Merge

variable (newId : Nat → Int) (fuel : Nat)

/-- One round of the loop over the backup, with the number of calls of the source so far. -/
def importOne (result : List Tunnel) (calls : Nat) (raw : Tunnel) : Option (List Tunnel × Nat) :=
  if result.any fun t => sameRoute t raw then some (result, calls)
  else do
    let idIndex ← firstUntaken (fun id => result.any fun t => t.id == id)
      (idCandidate newId raw calls) fuel 0
    let nameIndex ← firstUntaken (fun name => result.any fun t => t.name == name)
      (nameCandidate raw) fuel 0
    some (result ++ [{ raw with
      id := idCandidate newId raw calls idIndex
      name := nameCandidate raw nameIndex }], calls + idIndex)

def importAll (result : List Tunnel) (calls : Nat) : List Tunnel → Option (List Tunnel × Nat)
  | [] => some (result, calls)
  | raw :: imported => do
      let (result, calls) ← importOne newId fuel result calls raw
      importAll result calls imported

/-- `BackupMerge.merge`. Nothing is returned if a search takes more steps than the fuel. -/
def merge (current imported : List Tunnel) : Option (List Tunnel) :=
  (importAll newId fuel current 0 imported).map Prod.fst

end Merge

/-! ### The searches -/

theorem nameCandidate_injective (raw : Tunnel) : Function.Injective (nameCandidate raw) := by
  have hlonger : ∀ n, raw.name ≠ raw.name ++ " (импорт " ++ toString (n + 2) ++ ")" := by
    intro n h
    have hlength := congrArg String.length h
    simp only [String.length_append] at hlength
    have hpositive : 0 < " (импорт ".length := by decide
    omega
  intro m n h
  cases m with
  | zero =>
    cases n with
    | zero => rfl
    | succ n => exact absurd h (hlonger n)
  | succ m =>
    cases n with
    | zero => exact absurd h.symm (hlonger m)
    | succ n =>
      have hnumber : toString (m + 2) = toString (n + 2) :=
        (String.append_right_inj _).1 ((String.append_left_inj _).1 h)
      have hequal := natRepr_injective hnumber
      omega

variable {newId : Nat → Int} {fuel fuel' calls calls' : Nat} {raw : Tunnel}
  {current imported result result' : List Tunnel}

theorem any_id_eq_false {id : Int} :
    (result.any fun t => t.id == id) = false ↔ id ∉ result.map Tunnel.id := by
  simp [List.any_eq_false]

theorem any_name_eq_false {name : String} :
    (result.any fun t => t.name == name) = false ↔ name ∉ result.map Tunnel.name := by
  simp [List.any_eq_false]

theorem importOne_cases (h : importOne newId fuel result calls raw = some (result', calls')) :
    (∃ t ∈ result, sameRoute t raw = true) ∧ result' = result ∧ calls' = calls ∨
      (∀ t ∈ result, sameRoute t raw = false) ∧ ∃ id name, id ∉ result.map Tunnel.id ∧
        name ∉ result.map Tunnel.name ∧
          result' = result ++ [{ raw with id := id, name := name }] := by
  unfold importOne at h
  split at h
  · next hroute =>
      obtain ⟨rfl, rfl⟩ := Prod.mk.inj (Option.some.inj h)
      exact Or.inl ⟨List.any_eq_true.1 hroute, rfl, rfl⟩
  · next hroute =>
      obtain ⟨idIndex, hid, h⟩ := Option.bind_eq_some_iff.1 h
      obtain ⟨nameIndex, hname, h⟩ := Option.bind_eq_some_iff.1 h
      obtain ⟨rfl, -⟩ := Prod.mk.inj (Option.some.inj h)
      refine Or.inr ⟨?_, _, _, any_id_eq_false.1 (taken_firstUntaken hid),
        any_name_eq_false.1 (taken_firstUntaken hname), rfl⟩
      simpa [List.any_eq_true] using hroute

theorem importOne_of_found (h : ∃ t ∈ result, sameRoute t raw = true) :
    importOne newId fuel result calls raw = some (result, calls) :=
  if_pos (List.any_eq_true.2 h)

theorem importOne_mono (hle : fuel ≤ fuel')
    (h : importOne newId fuel result calls raw = some (result', calls')) :
    importOne newId fuel' result calls raw = some (result', calls') := by
  unfold importOne at h ⊢
  split at h
  · next hroute => rwa [if_pos hroute]
  · next hroute =>
      rw [if_neg hroute]
      obtain ⟨idIndex, hid, h⟩ := Option.bind_eq_some_iff.1 h
      obtain ⟨nameIndex, hname, h⟩ := Option.bind_eq_some_iff.1 h
      exact Option.bind_eq_some_iff.2 ⟨idIndex, firstUntaken_mono hle hid,
        Option.bind_eq_some_iff.2 ⟨nameIndex, firstUntaken_mono hle hname, h⟩⟩

theorem importAll_mono (hle : fuel ≤ fuel')
    (h : importAll newId fuel result calls imported = some (result', calls')) :
    importAll newId fuel' result calls imported = some (result', calls') := by
  induction imported generalizing result calls with
  | nil => exact h
  | cons raw imported ih =>
    obtain ⟨⟨result₁, calls₁⟩, hone, hrest⟩ := Option.bind_eq_some_iff.1 h
    exact Option.bind_eq_some_iff.2 ⟨_, importOne_mono hle hone, ih hrest⟩

/-- A round ends if the source has an unused id to give when it is asked for one. -/
theorem importOne_ends
    (h : (∀ t ∈ result, sameRoute t raw = false) → raw.id ∈ result.map Tunnel.id →
      ∃ n, calls ≤ n ∧ newId n ∉ result.map Tunnel.id) :
    ∃ fuel result' calls', importOne newId fuel result calls raw = some (result', calls') := by
  by_cases hroute : ∃ t ∈ result, sameRoute t raw = true
  · exact ⟨0, result, calls, importOne_of_found hroute⟩
  have hnew : ∀ t ∈ result, sameRoute t raw = false := fun t ht => by
    simpa using fun hsame => hroute ⟨t, ht, hsame⟩
  have hfree : ∃ n, idCandidate newId raw calls n ∉ result.map Tunnel.id := by
    by_cases htaken : raw.id ∈ result.map Tunnel.id
    · obtain ⟨n, hle, hn⟩ := h hnew htaken
      obtain ⟨d, rfl⟩ := Nat.exists_eq_add_of_le hle
      exact ⟨d + 1, hn⟩
    · exact ⟨0, htaken⟩
  obtain ⟨n, hn⟩ := hfree
  obtain ⟨m, hm⟩ := exists_notMem_of_injective (nameCandidate_injective raw)
    (result.map Tunnel.name)
  obtain ⟨fuel, idIndex, hid⟩ : ∃ fuel k, firstUntaken (fun id => result.any fun t => t.id == id)
      (idCandidate newId raw calls) fuel 0 = some k :=
    firstUntaken_ends (Nat.zero_le n) (any_id_eq_false.2 hn)
  obtain ⟨fuel', nameIndex, hname⟩ : ∃ fuel k, firstUntaken
      (fun name => result.any fun t => t.name == name) (nameCandidate raw) fuel 0 = some k :=
    firstUntaken_ends (Nat.zero_le m) (any_name_eq_false.2 hm)
  refine ⟨max fuel fuel', result ++ [{ raw with
    id := idCandidate newId raw calls idIndex
    name := nameCandidate raw nameIndex }], calls + idIndex, ?_⟩
  unfold importOne
  rw [if_neg (by rwa [List.any_eq_true])]
  exact Option.bind_eq_some_iff.2 ⟨idIndex, firstUntaken_mono (Nat.le_max_left _ _) hid,
    Option.bind_eq_some_iff.2 ⟨nameIndex, firstUntaken_mono (Nat.le_max_right _ _) hname, rfl⟩⟩

/-! ### What holds after some tunnels of the backup -/

/-- The tunnels of `done` are merged into `current` by adding those of `added`. -/
structure Merged (current done added : List Tunnel) : Prop where
  ids : (added.map Tunnel.id).Nodup
  ids_apart : ∀ t ∈ added, t.id ∉ current.map Tunnel.id
  names : (added.map Tunnel.name).Nodup
  names_apart : ∀ t ∈ added, t.name ∉ current.map Tunnel.name
  origin : ∀ t ∈ added, ∃ raw ∈ done, (∀ u ∈ current, sameRoute u raw = false) ∧
    t = { raw with id := t.id, name := t.name }
  found : ∀ raw ∈ done, ∃ t ∈ current ++ added, sameRoute t raw = true

variable {done added : List Tunnel}

theorem merged_nil (current : List Tunnel) : Merged current [] [] where
  ids := .nil
  ids_apart := by simp
  names := .nil
  names_apart := by simp
  origin := by simp
  found := by simp

section

variable (hm : Merged current done added)

include hm

theorem Merged.skip
    (hfound : ∃ t ∈ current ++ added, sameRoute t raw = true) :
    Merged current (done ++ [raw]) added where
  ids := hm.ids
  ids_apart := hm.ids_apart
  names := hm.names
  names_apart := hm.names_apart
  origin t ht := by
    obtain ⟨raw', hraw', horigin⟩ := hm.origin t ht
    exact ⟨raw', List.mem_append_left _ hraw', horigin⟩
  found raw' hraw' := by
    rcases List.mem_append.1 hraw' with hdone | hlast
    · exact hm.found raw' hdone
    · rwa [List.mem_singleton.1 hlast]

theorem Merged.add
    (hnew : ∀ t ∈ current ++ added, sameRoute t raw = false) {id : Int} {name : String}
    (hid : id ∉ (current ++ added).map Tunnel.id)
    (hname : name ∉ (current ++ added).map Tunnel.name) :
    Merged current (done ++ [raw]) (added ++ [{ raw with id := id, name := name }]) := by
  rw [List.map_append, List.mem_append, not_or] at hid hname
  refine ⟨?_, ?_, ?_, ?_, ?_, ?_⟩
  · rw [List.map_append, List.map_singleton, ← List.concat_eq_append]
    exact hm.ids.concat hid.2
  · intro t ht
    rcases List.mem_append.1 ht with ht | ht
    · exact hm.ids_apart t ht
    · rw [List.mem_singleton.1 ht]
      exact hid.1
  · rw [List.map_append, List.map_singleton, ← List.concat_eq_append]
    exact hm.names.concat hname.2
  · intro t ht
    rcases List.mem_append.1 ht with ht | ht
    · exact hm.names_apart t ht
    · rw [List.mem_singleton.1 ht]
      exact hname.1
  · intro t ht
    rcases List.mem_append.1 ht with ht | ht
    · obtain ⟨raw', hraw', horigin⟩ := hm.origin t ht
      exact ⟨raw', List.mem_append_left _ hraw', horigin⟩
    · rw [List.mem_singleton.1 ht]
      exact ⟨raw, List.mem_append_right _ List.mem_cons_self,
        fun u hu => hnew u (List.mem_append_left _ hu), rfl⟩
  · intro raw' hraw'
    rw [← List.append_assoc]
    rcases List.mem_append.1 hraw' with hdone | hlast
    · obtain ⟨t, ht, hsame⟩ := hm.found raw' hdone
      exact ⟨t, List.mem_append_left _ ht, hsame⟩
    · rw [List.mem_singleton.1 hlast]
      exact ⟨_, List.mem_append_right _ List.mem_cons_self, sameRoute_iff.2 ⟨rfl, rfl, rfl⟩⟩

theorem Merged.importOne
    (h : importOne newId fuel (current ++ added) calls raw = some (result', calls')) :
    ∃ added', result' = current ++ added' ∧ Merged current (done ++ [raw]) added' := by
  rcases importOne_cases h with ⟨hfound, rfl, -⟩ | ⟨hnew, id, name, hid, hname, rfl⟩
  · exact ⟨added, rfl, hm.skip hfound⟩
  · exact ⟨_, List.append_assoc _ _ _, hm.add hnew hid hname⟩

theorem Merged.importAll
    (h : importAll newId fuel (current ++ added) calls imported = some (result', calls')) :
    ∃ added', result' = current ++ added' ∧ Merged current (done ++ imported) added' := by
  induction imported generalizing done added calls with
  | nil =>
    obtain ⟨rfl, -⟩ := Prod.mk.inj (Option.some.inj h)
    exact ⟨added, rfl, by rwa [List.append_nil]⟩
  | cons raw imported ih =>
    obtain ⟨⟨result₁, calls₁⟩, hone, hrest⟩ := Option.bind_eq_some_iff.1 h
    obtain ⟨added₁, rfl, hm₁⟩ := hm.importOne hone
    obtain ⟨added', rfl, hm'⟩ := ih hm₁ hrest
    exact ⟨added', rfl, by rwa [List.append_assoc] at hm'⟩

end

theorem merged_of_merge (h : merge newId fuel current imported = some result) :
    ∃ added, result = current ++ added ∧ Merged current imported added := by
  obtain ⟨⟨_, calls⟩, hrun, rfl⟩ := Option.map_eq_some_iff.1 h
  rw [← List.append_nil current] at hrun
  obtain ⟨added, hadded, hm⟩ := (merged_nil current).importAll hrun
  exact ⟨added, hadded, hm⟩

theorem importAll_of_found (h : ∀ raw ∈ imported, ∃ t ∈ result, sameRoute t raw = true) :
    importAll newId fuel result calls imported = some (result, calls) := by
  induction imported with
  | nil => rfl
  | cons raw imported ih =>
    obtain ⟨hraw, himported⟩ := List.forall_mem_cons.1 h
    rw [importAll, importOne_of_found hraw]
    exact ih himported

theorem merge_of_found (h : ∀ raw ∈ imported, ∃ t ∈ current, sameRoute t raw = true) :
    merge newId fuel current imported = some current := by
  rw [merge, importAll_of_found h]
  rfl

/-- Whenever an id is asked for, the source has one to give that is unused, then or later. -/
def Supplies (newId : Nat → Int) (current imported : List Tunnel) : Prop :=
  ∀ fuel done raw rest result calls, imported = done ++ raw :: rest →
    importAll newId fuel current 0 done = some (result, calls) →
    (∀ t ∈ result, sameRoute t raw = false) → raw.id ∈ result.map Tunnel.id →
    ∃ n, calls ≤ n ∧ newId n ∉ result.map Tunnel.id

theorem importAll_append {rest : List Tunnel}
    (h : importAll newId fuel result calls imported = some (result', calls')) :
    importAll newId fuel result calls (imported ++ rest) =
      importAll newId fuel result' calls' rest := by
  induction imported generalizing result calls with
  | nil =>
    obtain ⟨rfl, rfl⟩ := Prod.mk.inj (Option.some.inj h)
    rfl
  | cons raw imported ih =>
    obtain ⟨⟨result₁, calls₁⟩, hone, hrest⟩ := Option.bind_eq_some_iff.1 h
    rw [List.cons_append, importAll, hone]
    exact ih hrest

theorem importAll_ends (h : Supplies newId current imported) :
    ∃ fuel result calls, importAll newId fuel current 0 imported = some (result, calls) := by
  -- over the tunnels merged so far, from the last one
  suffices hdone : ∀ done rest, imported = done ++ rest →
      ∃ fuel result calls, importAll newId fuel current 0 done = some (result, calls) by
    exact hdone imported [] (List.append_nil _).symm
  intro done
  induction done using List.reverseRecOn with
  | nil => exact fun _ _ => ⟨0, current, 0, rfl⟩
  | append_singleton done raw ih =>
    intro rest hsplit
    rw [List.append_assoc, List.singleton_append] at hsplit
    obtain ⟨fuel, result, calls, hrun⟩ := ih (raw :: rest) hsplit
    obtain ⟨fuel', result', calls', hone⟩ :=
      importOne_ends (h fuel done raw rest result calls hsplit hrun)
    refine ⟨max fuel fuel', result', calls', ?_⟩
    rw [importAll_append (importAll_mono (Nat.le_max_left _ _) hrun), importAll,
      importOne_mono (Nat.le_max_right _ _) hone]
    rfl

end BackupMerge

namespace BackupMerge

def originalRoute : Tunnel where
  id := 1
  name := "Route"
  transportType := "mqtt"
  transportConnPayload := ["--url", "wss://host/mqtt#first"]
  encryptionKey := some "first-key"

def incomingRoute : Tunnel :=
  { originalRoute with
    transportConnPayload := ["--url", "wss://host/mqtt#second"]
    encryptionKey := some "second-key" }

theorem supplies_incomingRoute : Supplies (fun _ => 2) [originalRoute] [incomingRoute] := by
  intro fuel done raw rest result calls hsplit hrun _ _
  obtain rfl : done = [] := by
    cases done with
    | nil => rfl
    | cons t done => simp at hsplit
  obtain ⟨rfl, rfl⟩ := Prod.mk.inj (Option.some.inj hrun)
  exact ⟨0, Nat.le_refl 0, by decide⟩

end BackupMerge

end LibreRoute.Tunnels
