import Mathlib.Data.List.Basic

/-!
`ContentReadCache` keeps the last decoded files, each with the bytes it was decoded from.
An entry is worth keeping only because it stands for its decoding; that is the invariant
(`Holds`), and what a read returns and how many entries there are follow from it.
-/

namespace LibreRoute.Tunnels.ContentReadCache

structure Entry (τ : Type) where
  bytes : List UInt8
  value : τ

/-- The `LinkedHashMap` of the cache, in the order of insertion. -/
abbrev Entries (τ : Type) := List (String × Entry τ)

inductive Call where
  | read (path : String) (bytes : List UInt8)
  | invalidate (path : String)

variable {ε τ : Type} {entries : Entries τ} {path : String}

/-- `entries[path] = entry`: a path that is present keeps its place. -/
def put (entries : Entries τ) (path : String) (entry : Entry τ) : Entries τ :=
  if entries.any (·.1 == path) then
    entries.map fun old => if old.1 == path then (path, entry) else old
  else entries ++ [(path, entry)]

def invalidate (entries : Entries τ) (path : String) : Entries τ :=
  entries.filter (·.1 != path)

theorem mem_put {entry : Entry τ} {p : String × Entry τ} (h : p ∈ put entries path entry) :
    p ∈ entries ∨ p = (path, entry) := by
  unfold put at h
  split at h
  · obtain ⟨old, hold, rfl⟩ := List.mem_map.1 h
    by_cases hp : (old.1 == path) = true
    · exact .inr (if_pos hp)
    · rw [if_neg hp]
      exact .inl hold
  · simpa using h

theorem length_put_le (entry : Entry τ) : (put entries path entry).length ≤ entries.length + 1 := by
  unfold put
  split <;> simp

section

variable (capacity : Int) (noSuchElement : ε) (decode : String → List UInt8 → Except ε τ)

/-- `ContentReadCache.read`: the value or the exception, and the entries afterwards. -/
def read (entries : Entries τ) (path : String) (bytes : List UInt8) : Except ε τ × Entries τ :=
  match entries.find? (·.1 == path) with
  | some (_, entry) => if entry.bytes = bytes then (.ok entry.value, entries) else miss
  | none => miss
where
  miss :=
    match decode path bytes with
    | .error e => (.error e, entries)
    | .ok value =>
      if capacity ≤ entries.length then
        match entries with
        -- `entries.keys.first()`
        | [] => (.error noSuchElement, [])
        | _ :: rest => (.ok value, put rest path ⟨bytes, value⟩)
      else (.ok value, put entries path ⟨bytes, value⟩)

def Call.step (entries : Entries τ) : Call → Entries τ
  | .read path bytes => (ContentReadCache.read capacity noSuchElement decode entries path bytes).2
  | .invalidate path => ContentReadCache.invalidate entries path

def entriesAfter (calls : List Call) : Entries τ :=
  calls.foldl (Call.step capacity noSuchElement decode) []

/-- Every entry stands for the decoding of its bytes, and there is room for it. -/
structure Holds (entries : Entries τ) : Prop where
  decoded : ∀ p ∈ entries, decode p.1 p.2.bytes = .ok p.2.value
  room : entries.length ≤ capacity

/-- What a read gives: the decoding, and entries that still hold, the same ones after a
failure. -/
structure Reads (entries : Entries τ) (path : String) (bytes : List UInt8)
    (outcome : Except ε τ × Entries τ) : Prop where
  decodes : outcome.1 = decode path bytes
  holds : Holds capacity decode outcome.2
  kept : ∀ e, decode path bytes = .error e → outcome.2 = entries

end

variable {capacity : Int} (noSuchElement : ε) {decode : String → List UInt8 → Except ε τ}
  {bytes : List UInt8}

theorem Holds.put (h : Holds capacity decode entries) (hroom : entries.length + 1 ≤ capacity)
    {value : τ} (hvalue : decode path bytes = .ok value) :
    Holds capacity decode (put entries path ⟨bytes, value⟩) where
  decoded p hp := by
    rcases mem_put hp with hp | rfl
    · exact h.decoded p hp
    · exact hvalue
  room := by
    have hlength : (ContentReadCache.put entries path ⟨bytes, value⟩).length ≤ _ := length_put_le _
    omega

variable (hcapacity : 1 ≤ capacity)

include hcapacity

theorem reads_miss (h : Holds capacity decode entries) (path : String) (bytes : List UInt8) :
    Reads capacity decode entries path bytes
      (read.miss capacity noSuchElement decode entries path bytes) := by
  have hroom := h.room
  rw [read.miss]
  cases hvalue : decode path bytes with
  | error e => exact ⟨hvalue.symm, h, fun _ _ => rfl⟩
  | ok value =>
    have hkept : ∀ e, decode path bytes ≠ .error e := fun e he => nomatch hvalue.symm.trans he
    by_cases hfull : capacity ≤ entries.length
    · cases entries with
      | nil =>
        rw [List.length_nil] at hfull
        omega
      | cons first rest =>
        rw [List.length_cons] at hroom
        have hrest : Holds capacity decode rest :=
          ⟨fun p hp => h.decoded p (List.mem_cons_of_mem _ hp), by omega⟩
        simp only [hfull, if_true]
        exact ⟨hvalue.symm, hrest.put (by omega) hvalue, fun e he => absurd he (hkept e)⟩
    · simp only [hfull, if_false]
      exact ⟨hvalue.symm, h.put (by omega) hvalue, fun e he => absurd he (hkept e)⟩

theorem reads_read (h : Holds capacity decode entries) (path : String) (bytes : List UInt8) :
    Reads capacity decode entries path bytes
      (read capacity noSuchElement decode entries path bytes) := by
  have hmiss := reads_miss noSuchElement hcapacity h path bytes
  unfold read
  split
  · rename_i path' entry hfound
    split
    · rename_i hbytes
      have hpath : path' = path := by simpa using List.find?_some hfound
      have hentry := h.decoded _ (List.mem_of_find?_eq_some hfound)
      rw [hpath, hbytes] at hentry
      exact ⟨hentry.symm, h, fun _ _ => rfl⟩
    · exact hmiss
  · exact hmiss

theorem holds_entriesAfter (calls : List Call) :
    Holds capacity decode (entriesAfter capacity noSuchElement decode calls) := by
  refine List.foldlRecOn calls _ ⟨by simp, by simp; omega⟩ fun entries h call _ => ?_
  cases call with
  | read path bytes => exact (reads_read noSuchElement hcapacity h path bytes).holds
  | invalidate path =>
    refine ⟨fun p hp => h.decoded p (List.mem_filter.1 hp).1, ?_⟩
    have hlength := List.length_filter_le (·.1 != path) entries
    have hroom := h.room
    simp only [Call.step, invalidate]
    omega

/-- After any calls a read is the decoding of its bytes, a decoding that fails leaves the
entries as they were, and there are never more entries than the capacity. -/
theorem read_transparent (calls : List Call) (path : String) (bytes : List UInt8) :
    let entries := entriesAfter capacity noSuchElement decode calls
    (read capacity noSuchElement decode entries path bytes).1 = decode path bytes ∧
      (∀ e, decode path bytes = .error e →
        (read capacity noSuchElement decode entries path bytes).2 = entries) ∧
      entries.length ≤ capacity := by
  have h : Holds capacity decode _ := holds_entriesAfter noSuchElement hcapacity calls
  have hread := reads_read noSuchElement hcapacity h path bytes
  exact ⟨hread.decodes, hread.kept, h.room⟩

omit hcapacity

/-- A file that was read, was replaced by an empty one and does not decode any more. -/
theorem read_transparent_replaced :
    let decode (_ : String) (bytes : List UInt8) : Except String Nat :=
      if bytes = [] then .error "Malformed file" else .ok bytes.length
    (read 8 "Empty" decode (entriesAfter 8 "Empty" decode [.read "a" [1, 2]]) "a" []).1 =
      .error "Malformed file" :=
  (read_transparent "Empty" (by decide) _ "a" []).1

end LibreRoute.Tunnels.ContentReadCache
