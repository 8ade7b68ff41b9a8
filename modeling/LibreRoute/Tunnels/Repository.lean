import LibreRoute.Admin.Models
import LibreRoute.Lib.Keeping
import LibreRoute.Tunnels.Models

/-!
The tunnel repository.

What it does to the list of tunnels is written once, over a place where a list
can be stored. Such a place is the encrypted file of the application; another
one, which the models above this one use, is a plain list, and `load_refines`
and `simulates_call` say that a file that can be read behaves like the list it
holds.
-/

namespace LibreRoute.Tunnels

open Lib DirectDpiProfile
open Admin (Throwable)

/-- A place where tunnels are stored, with the preference that names the selected one. -/
structure Profiles (σ : Type) where
  load : Prog Throwable σ (List Tunnel)
  save : List Tunnel → Prog Throwable σ Unit
  selectedPreference : σ → Option Int
  setSelectedPreference : Option Int → σ → σ

def repaired (stored : List Tunnel) : List Tunnel :=
  (stored.filter Tunnel.isAvailable).map ensureConfigured

/-- The repaired list of what is stored, in which a local connection is never missing. -/
def connections (stored : List Tunnel) : List Tunnel :=
  if (repaired stored).any isDirect then repaired stored
  else repaired stored ++ [create]

namespace TunnelRepository

variable {σ : Type} (encryptedRepo : Profiles σ)

def getSelectedId (s : σ) : Option Int := (encryptedRepo.selectedPreference s).filter (· != -1)

def setSelectedId (id : Int) : Prog Throwable σ Unit :=
  Prog.write (encryptedRepo.setSelectedPreference (some id))

/-- The selected tunnel has to be one that is there. -/
def repairSelection (tunnels : List Tunnel) : Prog Throwable σ Unit := do
  let selected ← Prog.read (getSelectedId encryptedRepo)
  match selected with
  | none => pure ()
  | some id =>
    Prog.when (! tunnels.any (·.id == id))
      (Prog.write (encryptedRepo.setSelectedPreference (tunnels.head?.map (·.id))))

def load : Prog Throwable σ (List Tunnel) := do
  let stored ← encryptedRepo.load
  Prog.when (decide (connections stored ≠ stored)) (encryptedRepo.save (connections stored))
  repairSelection encryptedRepo (connections stored)
  pure (connections stored)

def save (tunnels : List Tunnel) : Prog Throwable σ Unit := do
  encryptedRepo.save (tunnels.filter Tunnel.isAvailable)
  repairSelection encryptedRepo (tunnels.filter Tunnel.isAvailable)

def getSelected : Prog Throwable σ (Option Tunnel) := do
  let all ← load encryptedRepo
  let id ← Prog.read (getSelectedId encryptedRepo)
  pure ((all.find? fun t => some t.id == id) <|> all.head?)

variable {encryptedRepo}

theorem repairSelection_leaves {γ : Type} {f : σ → γ}
    (h : ∀ id s, f (encryptedRepo.setSelectedPreference id s) = f s) (tunnels : List Tunnel) :
    (repairSelection encryptedRepo tunnels).Leaves f := by
  intro b
  have hselect : ∀ id, Maintains (fun s => f s = b) (encryptedRepo.setSelectedPreference id) :=
    fun id => ⟨fun s hs => (h id s).trans hs⟩
  refine (Keeping.bind fun selected => ?_).keeps
  split <;> infer_instance

theorem repairSelection_returns (tunnels : List Tunnel) :
    (repairSelection encryptedRepo tunnels).Returns := by
  refine returns_bind returns_read fun selected => ?_
  cases selected with
  | none => exact returns_pure
  | some id => exact returns_when returns_write

end TunnelRepository

open TunnelRepository (repairSelection repairSelection_leaves repairSelection_returns)

@[simp] theorem connections_nil : connections [] = [create] := rfl

variable {l stored tunnels : List Tunnel}

theorem any_isDirect_repaired (stored : List Tunnel) :
    (repaired stored).any isDirect = stored.any isDirect := by
  rw [Bool.eq_iff_iff, List.any_eq_true, List.any_eq_true]
  constructor
  · rintro ⟨t, ht, hdirect⟩
    obtain ⟨u, hu, rfl⟩ := List.mem_map.1 ht
    rw [isDirect, ensureConfigured_transportType] at hdirect
    exact ⟨u, (List.mem_filter.1 hu).1, hdirect⟩
  · rintro ⟨t, ht, hdirect⟩
    refine ⟨ensureConfigured t, List.mem_map_of_mem
      (List.mem_filter.2 ⟨ht, isAvailable_of_isDirect hdirect⟩), ?_⟩
    rwa [isDirect, ensureConfigured_transportType]

theorem mem_connections {t : Tunnel} : t ∈ connections stored ↔
    (∃ u ∈ stored, u.isAvailable = true ∧ ensureConfigured u = t) ∨
      stored.any isDirect = false ∧ t = create := by
  have hrepaired : t ∈ repaired stored ↔
      ∃ u ∈ stored, u.isAvailable = true ∧ ensureConfigured u = t := by
    simp [repaired, and_assoc]
  rw [← hrepaired, connections, any_isDirect_repaired]
  split
  · next hdirect => simp [hdirect]
  · next hdirect => simp [Bool.eq_false_iff.2 hdirect]

theorem isAvailable_of_mem_connections {t : Tunnel} (h : t ∈ connections stored) :
    t.isAvailable = true := by
  rcases mem_connections.1 h with ⟨u, -, hu, rfl⟩ | ⟨-, rfl⟩
  · rwa [Tunnel.isAvailable, ensureConfigured_transportType]
  · exact isAvailable_create

theorem ensureConfigured_of_mem_connections {t : Tunnel} (h : t ∈ connections stored) :
    ensureConfigured t = t := by
  rcases mem_connections.1 h with ⟨u, -, -, rfl⟩ | ⟨-, rfl⟩
  · exact ensureConfigured_ensureConfigured u
  · exact ensureConfigured_create

theorem any_isDirect_connections (stored : List Tunnel) :
    (connections stored).any isDirect = true := by
  unfold connections
  split
  · assumption
  · simp [isDirect_create]

theorem repaired_eq_self (havailable : ∀ t ∈ l, t.isAvailable = true)
    (hconfigured : ∀ t ∈ l, ensureConfigured t = t) : repaired l = l := by
  rw [repaired, List.filter_eq_self.2 havailable]
  conv_rhs => rw [← List.map_id l]
  exact List.map_congr_left hconfigured

theorem repaired_of_subset (h : l ⊆ connections stored) : repaired l = l :=
  repaired_eq_self (fun _ ht => isAvailable_of_mem_connections (h ht))
    fun _ ht => ensureConfigured_of_mem_connections (h ht)

theorem connections_create_cons (havailable : ∀ t ∈ l, t.isAvailable = true)
    (hdirect : ∀ t ∈ l, isDirect t = false) :
    connections (create :: l) = create :: l := by
  have hrepaired : repaired (create :: l) = create :: l :=
    repaired_eq_self
      (List.forall_mem_cons.2 ⟨isAvailable_create, havailable⟩)
      (List.forall_mem_cons.2 ⟨ensureConfigured_create, fun t ht =>
        ensureConfigured_of_not_direct (hdirect t ht)⟩)
  rw [connections, hrepaired, if_pos (by simp [isDirect_create])]

theorem mem_connections_of_configured {t : Tunnel} (havailable : t.isAvailable = true)
    (hconfigured : ensureConfigured t = t) (h : t ∈ stored) : t ∈ connections stored :=
  mem_connections.2 (Or.inl ⟨t, h, havailable, hconfigured⟩)

theorem mem_connections_of_mem {stored' : List Tunnel} {t : Tunnel} (ht : t ∈ connections stored)
    (ht' : t ∈ stored') : t ∈ connections stored' :=
  mem_connections_of_configured (isAvailable_of_mem_connections ht)
    (ensureConfigured_of_mem_connections ht) ht'

theorem mem_connections_of_not_direct {t : Tunnel} (hdirect : isDirect t = false)
    (h : t ∈ connections stored) : t ∈ stored := by
  rcases mem_connections.1 h with ⟨u, hu, -, rfl⟩ | ⟨-, rfl⟩
  · rw [isDirect, ensureConfigured_transportType] at hdirect
    rwa [ensureConfigured_of_not_direct hdirect]
  · simp [isDirect_create] at hdirect

@[simp] theorem connections_connections (stored : List Tunnel) :
    connections (connections stored) = connections stored := by
  have hdirect := any_isDirect_connections stored
  have hrepaired : repaired (connections stored) = connections stored :=
    repaired_of_subset fun _ h => h
  generalize connections stored = loaded at hdirect hrepaired
  rw [connections, hrepaired, if_pos hdirect]

/-! ### The encrypted file -/

/-- The key of the device, the cipher and the JSON encoding. What was encrypted can be
decrypted, and is as long as an initialisation vector and a tag at least. -/
structure ProfileCipher where
  encrypt : List Tunnel → Except Throwable (List UInt8)
  decrypt : List UInt8 → Except Throwable (List Tunnel)
  /-- `json.decodeFromString<List<Tunnel>>(raw)`. -/
  decodeTunnels : String → Except Throwable (List Tunnel)
  decrypt_encrypt : ∀ {tunnels bytes}, encrypt tunnels = .ok bytes →
    28 ≤ bytes.length ∧ decrypt bytes = .ok tunnels

/-- The atomic file, what was last decoded of it, and the preferences. -/
structure ProfileFile where
  content : Option (List UInt8)
  readCache : Option (List UInt8 × List Tunnel) := none
  /-- The tunnels of a version before the file. -/
  tunnelsPreference : Option String := none
  selectedPreference : Option Int := none

namespace EncryptedProfileRepository

variable (c : ProfileCipher)

def save (tunnels : List Tunnel) : Prog Throwable ProfileFile Unit := do
  let combined ← Prog.ofExcept (c.encrypt tunnels)
  Prog.write fun s => { s with content := some combined }
  Prog.modify fun s => { s with readCache := none }

def migrateFromSharedPreferences : Prog Throwable ProfileFile (Option (List Tunnel)) := do
  let raw ← Prog.read (·.tunnelsPreference)
  match raw with
  | none => pure none
  | some raw =>
    Prog.attempt (do
      let tunnels ← Prog.ofExcept (c.decodeTunnels raw)
      save c tunnels
      Prog.write fun s => { s with tunnelsPreference := none }
      pure (some tunnels)) fun _ => pure none

/-- A file that cannot be decoded counts as an empty one. -/
def read (bytes : List UInt8) : Prog Throwable ProfileFile (List Tunnel) := do
  if bytes.length < 28 then pure []
  else
    let cached ← Prog.read fun s => (s.readCache.filter (·.1 == bytes)).map Prod.snd
    match cached with
    | some tunnels => pure tunnels
    | none =>
      match c.decrypt bytes with
      | .ok tunnels => do
          Prog.modify fun s => { s with readCache := some (bytes, tunnels) }
          pure tunnels
      | .error _ => pure []

def load : Prog Throwable ProfileFile (List Tunnel) := do
  let content ← Prog.read (·.content)
  match content with
  | none => do
      Prog.modify fun s => { s with readCache := none }
      let migrated ← migrateFromSharedPreferences c
      pure (migrated.getD [])
  | some bytes => read c bytes

def profiles : Profiles ProfileFile where
  load := load c
  save := save c
  selectedPreference := ProfileFile.selectedPreference
  setSelectedPreference id s := { s with selectedPreference := id }

end EncryptedProfileRepository

open EncryptedProfileRepository (profiles)

/-- There is a file, and its content is too short or cannot be decrypted and decoded. -/
def ProfileFile.Undecodable (c : ProfileCipher) (s : ProfileFile) : Prop :=
  ∃ bytes, s.content = some bytes ∧
    (bytes.length < 28 ∨
      (∀ tunnels, s.readCache ≠ some (bytes, tunnels)) ∧ ∃ e, c.decrypt bytes = .error e)

section Undecodable

variable {c : ProfileCipher} {s : ProfileFile}

theorem load_of_undecodable (h : s.Undecodable c) :
    (EncryptedProfileRepository.load c).exec s = (.ok [], s) := by
  obtain ⟨bytes, hcontent, hshort | ⟨hcache, e, hdecrypt⟩⟩ := h
  · simp [EncryptedProfileRepository.load, EncryptedProfileRepository.read, hcontent, hshort]
  · have hmiss : (s.readCache.filter (·.1 == bytes)).map Prod.snd = none := by
      rcases hread : s.readCache with _ | ⟨bytes', tunnels⟩
      · rfl
      · have hne : bytes' ≠ bytes := fun he => hcache tunnels (he ▸ hread)
        simp [hne]
    by_cases hlength : bytes.length < 28 <;>
      simp [EncryptedProfileRepository.load, EncryptedProfileRepository.read, hcontent, hlength,
        hmiss, hdecrypt]

/-- The empty list that stands for the failure differs from its repaired form, which is
therefore written. -/
theorem load_content (h : s.Undecodable c) :
    ((TunnelRepository.load (profiles c)).exec s).2.content =
      match c.encrypt [create] with
      | .ok bytes => some bytes
      | .error _ => s.content := by
  have hselection : Prog.Leaves ProfileFile.content
      (repairSelection (profiles c)
        [create]) :=
    repairSelection_leaves (fun _ _ => rfl) _
  have hload : (profiles c).load.exec s = (.ok [], s) :=
    load_of_undecodable h
  rcases hencrypt : c.encrypt [create] with e | bytes
  · have hsave : ((profiles c).save [create]).exec s =
        (.error e, s) := by
      simp [profiles, EncryptedProfileRepository.save, hencrypt]
    simp [TunnelRepository.load, hload, hsave]
  · have hsave : ((profiles c).save [create]).exec s =
        (.ok (), { s with content := some bytes, readCache := none }) := by
      simp [profiles, EncryptedProfileRepository.save, hencrypt]
    have hreturns : (repairSelection (profiles c)
        [create]).Returns := repairSelection_returns _
    obtain ⟨_, s', hrepair⟩ := hreturns { s with content := some bytes, readCache := none }
    simpa [TunnelRepository.load, hload, hsave, hrepair] using hselection.of_exec hrepair

/-- A file that cannot be decoded survives its reading exactly if nothing can be encrypted. -/
theorem load_keeps_undecodable_iff (h : s.Undecodable c) :
    ((TunnelRepository.load (profiles c)).exec s).2.content =
      s.content ↔ ∃ e, c.encrypt [create] = .error e := by
  rw [load_content h]
  rcases hencrypt : c.encrypt [create] with e | bytes
  · simp
  · obtain ⟨hlength, hdecrypt⟩ := c.decrypt_encrypt hencrypt
    obtain ⟨old, hcontent, hold⟩ := h
    have hne : bytes ≠ old := by
      rintro rfl
      rcases hold with hshort | ⟨-, e, hfails⟩
      · omega
      · simp [hdecrypt] at hfails
    simp [hcontent, hne]

end Undecodable

/-- The built-in profile alone, encrypted with the key `00 01 … 1f`. -/
def builtInBytes : List UInt8 :=
  [0x00, 0x01, 0x02, 0x03, 0x04, 0x05, 0x06, 0x07, 0x08, 0x09, 0x0a, 0x0b, 0x1c, 0x79, 0xf4,
   0x72, 0xa1, 0xc7, 0xf8, 0x23, 0xbe, 0x78, 0xa6, 0xbd, 0x83, 0xd8, 0x4e, 0x5b, 0xbb, 0xe2,
   0xb1, 0x05, 0xc2, 0x57, 0x7d, 0x12, 0x59, 0x0a, 0x80, 0xa7, 0x27, 0x4b, 0xd0, 0x2d, 0xd0,
   0x90, 0x7f, 0x73, 0x7f, 0x7d, 0xc2, 0x26, 0xa4, 0x1d, 0x5f, 0x3d, 0x36, 0x57, 0x99, 0xe9,
   0x6b, 0x89, 0xde, 0x5d, 0xee, 0xf6, 0xe7, 0x8a, 0x76, 0xb7, 0xe8, 0xae, 0x38, 0x99, 0x94,
   0x9e, 0x82, 0x59, 0xb2, 0x58, 0xff, 0xf3, 0x52, 0x13, 0x7d, 0x3a, 0xd9, 0x1e, 0x80, 0xfd,
   0x7a, 0xbc, 0x41, 0xfa, 0xac, 0x40, 0x4c, 0x41, 0x37, 0x01, 0x8f, 0x98, 0xfd, 0xb8, 0x3c,
   0x80, 0xd0, 0xaf, 0xe7, 0xda, 0x2d, 0x94, 0xc5, 0x2f, 0xbb, 0x6a, 0xf1, 0x6e, 0x4a, 0xf1,
   0x27, 0x1b, 0x4f, 0x2f, 0xdb, 0x1e, 0x0e, 0xc4, 0x82, 0xa1, 0x07, 0xa0, 0x16, 0xdd, 0x7a,
   0xe0, 0xf0, 0x89, 0x02, 0x6b, 0x86, 0x31, 0x6c, 0xaf, 0xd1, 0xb9, 0xbf, 0x71, 0x24, 0xc3,
   0x65, 0x8c, 0x49, 0xa8, 0x2d, 0xac, 0x45, 0x84, 0x8c, 0x47, 0x41, 0x33, 0xbf, 0x68, 0xe8,
   0x36, 0x9a, 0x12, 0x99, 0xa6, 0xc4, 0x8a, 0xe3, 0xfe, 0xbc, 0x39, 0xcb, 0xd2, 0xe1, 0x1a,
   0xd7, 0x0a, 0xf0, 0x98, 0xb3, 0xef, 0xe5, 0xd0, 0xb0, 0xbf, 0xbf, 0x4b, 0xe8, 0x96, 0x07,
   0xce, 0x10, 0xba, 0xe2, 0x9a, 0x5d, 0xe7, 0xd2, 0x9d, 0x70, 0x3e, 0xf3, 0x8a, 0x79, 0xb4,
   0xb9, 0xa7, 0x7c, 0x33, 0xaa, 0xc4, 0x80, 0x63, 0xfb, 0xf9, 0xbc, 0x93, 0x44, 0xd3, 0xf8,
   0x8e, 0x3e, 0x3a, 0x5d, 0xcc, 0xc0, 0x47, 0x94, 0x2f, 0x49, 0x8c, 0xc3]

def phoneCipher : ProfileCipher where
  encrypt tunnels := if tunnels = [create] then .ok builtInBytes
    else .error (.platform (some "Keystore operation failed"))
  decrypt bytes := if bytes = builtInBytes then .ok [create]
    else .error (.platform (some "mac check in GCM failed"))
  decodeTunnels _ := .error (.platform (some "Unexpected JSON token"))
  decrypt_encrypt := by
    intro tunnels bytes h
    split_ifs at h with htunnels
    obtain rfl : builtInBytes = bytes := by simpa using h
    exact ⟨by decide +kernel, by simp [htunnels]⟩

def cutOff : ProfileFile := { content := some [0x00, 0x01, 0x02] }

theorem cutOff_undecodable : cutOff.Undecodable phoneCipher :=
  ⟨_, rfl, Or.inl (by decide)⟩

theorem cutOff_kept_iff :
    cutOff.Undecodable phoneCipher ∧
      (((TunnelRepository.load (profiles phoneCipher)).exec
        cutOff).2.content = cutOff.content ↔
        ∃ e, phoneCipher.encrypt [create] = .error e) :=
  ⟨cutOff_undecodable, load_keeps_undecodable_iff cutOff_undecodable⟩

theorem load_destroys_undecodable : ¬ ∀ (c : ProfileCipher) (s : ProfileFile), s.Undecodable c →
    ((TunnelRepository.load (profiles c)).exec s).2.content =
      s.content := by
  intro h
  have hkept := h phoneCipher cutOff cutOff_undecodable
  have hencrypt : phoneCipher.encrypt [create] = .ok builtInBytes := by
    simp [phoneCipher]
  rw [load_content cutOff_undecodable, hencrypt] at hkept
  have hlength : builtInBytes.length = 3 := congrArg List.length (Option.some.inj hkept)
  exact absurd hlength (by decide +kernel)

/-! ### A list as the place where tunnels are stored -/

structure TunnelStore where
  stored : List Tunnel
  selectedPreference : Option Int := none

namespace TunnelStore

def profiles : Profiles TunnelStore where
  load := Prog.read TunnelStore.stored
  save tunnels := Prog.write fun t => { t with stored := tunnels }
  selectedPreference := TunnelStore.selectedPreference
  setSelectedPreference id t := { t with selectedPreference := id }

def getSelectedId (t : TunnelStore) : Option Int := TunnelRepository.getSelectedId profiles t

def load : Prog Throwable TunnelStore (List Tunnel) := TunnelRepository.load profiles

def save (tunnels : List Tunnel) : Prog Throwable TunnelStore Unit :=
  TunnelRepository.save profiles tunnels

def setSelectedId (id : Int) : Prog Throwable TunnelStore Unit :=
  TunnelRepository.setSelectedId profiles id

def repairedSelection (t : TunnelStore) (tunnels : List Tunnel) : Option Int :=
  match t.getSelectedId with
  | none => t.selectedPreference
  | some id =>
    if tunnels.any (·.id == id) then t.selectedPreference else tunnels.head?.map (·.id)

variable (t : TunnelStore)

theorem repairSelection_exec (tunnels : List Tunnel) : (repairSelection profiles tunnels).exec t =
      (.ok (), { t with selectedPreference := t.repairedSelection tunnels }) := by
  have hselected : TunnelRepository.getSelectedId profiles t = t.getSelectedId := rfl
  have hset : ∀ id, profiles.setSelectedPreference id t = { t with selectedPreference := id } :=
    fun _ => rfl
  rcases hid : t.getSelectedId with _ | id
  · simp [repairSelection, repairedSelection, hselected, hid]
  · by_cases hthere : tunnels.any (·.id == id) = true
    · simp [repairSelection, repairedSelection, hselected, hid, hthere]
    · simp only [Bool.not_eq_true] at hthere
      simp [repairSelection, repairedSelection, hselected, hid, hthere, hset]

theorem load_exec : load.exec t = (.ok (connections t.stored),
      { stored := connections t.stored
        selectedPreference := t.repairedSelection (connections t.stored) }) := by
  have hload : profiles.load.exec t = (.ok t.stored, t) := exec_read _ _
  have hsave : (Prog.when (decide (connections t.stored ≠ t.stored))
      (profiles.save (connections t.stored))).exec t =
        (.ok (), { t with stored := connections t.stored }) := by
    by_cases hchanged : connections t.stored = t.stored
    · simp [hchanged]
    · simp [hchanged, profiles]
  simp only [load, TunnelRepository.load, exec_bind, hload, hsave, repairSelection_exec, exec_pure]
  rfl

theorem save_exec (tunnels : List Tunnel) : (save tunnels).exec t = (.ok (),
      { stored := tunnels.filter Tunnel.isAvailable
        selectedPreference := t.repairedSelection (tunnels.filter Tunnel.isAvailable) }) := by
  simp only [save, TunnelRepository.save, profiles, exec_bind, exec_write]
  exact repairSelection_exec _ _

/-- A store with nothing to repair. -/
structure Settled (t : TunnelStore) : Prop where
  stored : connections t.stored = t.stored
  selected : t.getSelectedId = none ∨ ∃ tunnel ∈ t.stored, t.getSelectedId = some tunnel.id

/-- The repaired preference names a tunnel of the list. The sentinel `-1`, if it is the id of
the first one, reads as no selection. -/
theorem getSelectedId_repairedSelection (tunnels : List Tunnel) :
    TunnelStore.getSelectedId ⟨tunnels, t.repairedSelection tunnels⟩ = none ∨
      ∃ tunnel ∈ tunnels,
        TunnelStore.getSelectedId ⟨tunnels, t.repairedSelection tunnels⟩ = some tunnel.id := by
  have hsame : ∀ (l : List Tunnel), TunnelStore.getSelectedId ⟨l, t.selectedPreference⟩ =
      t.getSelectedId := fun _ => rfl
  unfold repairedSelection
  rcases hid : t.getSelectedId with _ | id
  · exact Or.inl ((hsame tunnels).trans hid)
  dsimp only
  split_ifs with hthere
  · obtain ⟨tunnel, hmem, hbeq⟩ := List.any_eq_true.1 hthere
    refine Or.inr ⟨tunnel, hmem, (hsame tunnels).trans (hid.trans ?_)⟩
    rw [beq_iff_eq.1 hbeq]
  · cases tunnels with
    | nil => exact Or.inl rfl
    | cons first rest =>
      by_cases hsentinel : first.id = -1
      · left
        simp [getSelectedId, TunnelRepository.getSelectedId, profiles, hsentinel]
      · refine Or.inr ⟨first, List.mem_cons_self, ?_⟩
        simp [getSelectedId, TunnelRepository.getSelectedId, profiles, hsentinel]

theorem settled_load : (load.exec t).2.Settled := by
  rw [load_exec]
  exact ⟨connections_connections _, getSelectedId_repairedSelection t _⟩

theorem Settled.repairSelection_quiet {σ : Type} {repo : Profiles σ} {s : σ} {t : TunnelStore}
    (ht : t.Settled) (hs : TunnelRepository.getSelectedId repo s = t.getSelectedId) :
    (repairSelection repo t.stored).Quiet s () s := by
  refine quiet_bind quiet_read ?_
  rw [hs]
  rcases ht.selected with hnone | ⟨tunnel, hmem, hsome⟩
  · rw [hnone]
    exact quiet_pure
  · rw [hsome]
    have hthere : t.stored.any (·.id == tunnel.id) = true :=
      List.any_eq_true.2 ⟨tunnel, hmem, beq_self_eq_true _⟩
    exact quiet_when (by rw [hthere]; rfl)

section Every

variable {t : TunnelStore} {E : TunnelStore → Prop}

theorem repairSelection_wp {Q : Unit → TunnelStore → Prop}
    (hQ : ∀ t', t'.stored = t.stored → Q () t') (hE : ∀ t', t'.stored = t.stored → E t') :
    (repairSelection profiles tunnels).wp Q E t := by
  have hleaves : (repairSelection profiles tunnels).Leaves TunnelStore.stored :=
    repairSelection_leaves (fun _ _ => rfl) tunnels
  exact wp_mono (hleaves t.stored t rfl) (fun _ t' h => hQ t' h) fun t' h => hE t' h

theorem load_wp {Q : List Tunnel → TunnelStore → Prop}
    (hQ : ∀ t', t'.stored = connections t.stored → Q (connections t.stored) t')
    (hE : ∀ t', t'.stored = t.stored ∨ t'.stored = connections t.stored → E t') :
    load.wp Q E t := by
  refine wp_bind (wp_read (wp_bind (wp_when ?_ ?_)))
  · intro _
    refine wp_write (wp_bind (repairSelection_wp ?_ ?_)) (hE t (Or.inl rfl))
    · exact fun t' h => wp_pure (hQ t' h)
    · exact fun t' h => hE t' (Or.inr h)
  · intro hsame
    have hstored : connections t.stored = t.stored := by simpa using hsame
    refine wp_bind (repairSelection_wp ?_ ?_)
    · exact fun t' h => wp_pure (hQ t' (h.trans hstored.symm))
    · exact fun t' h => hE t' (Or.inl h)

theorem save_wp {Q : Unit → TunnelStore → Prop}
    (hQ : ∀ t', t'.stored = tunnels.filter Tunnel.isAvailable → Q () t') (hbefore : E t)
    (hE : ∀ t', t'.stored = tunnels.filter Tunnel.isAvailable → E t') : (save tunnels).wp Q E t :=
  wp_bind (wp_write (repairSelection_wp (fun t' h => hQ t' h) fun t' h => hE t' h) hbefore)

end Every

end TunnelStore

/-- The file can be read, and `t` is what it holds. -/
structure ProfileFile.Holds (c : ProfileCipher) (s : ProfileFile) (t : TunnelStore) : Prop where
  selected : s.selectedPreference = t.selectedPreference
  decodes : ∃ bytes, s.content = some bytes ∧ 28 ≤ bytes.length ∧ c.decrypt bytes = .ok t.stored
  cached : ∀ bytes tunnels, s.readCache = some (bytes, tunnels) → c.decrypt bytes = .ok tunnels

namespace ProfileFile.Holds

variable {c : ProfileCipher} {s : ProfileFile} {t : TunnelStore}

theorem load_quiet (h : s.Holds c t) :
    ∃ cache, (EncryptedProfileRepository.load c).Quiet s t.stored { s with readCache := cache } ∧
      ProfileFile.Holds c { s with readCache := cache } t := by
  obtain ⟨bytes, hcontent, hlength, hdecrypt⟩ := h.decodes
  have hread : ∀ s', (EncryptedProfileRepository.read c bytes).Quiet s t.stored s' →
      (EncryptedProfileRepository.load c).Quiet s t.stored s' := by
    intro s' hquiet
    refine quiet_bind quiet_read ?_
    rw [hcontent]
    exact hquiet
  have hlong : EncryptedProfileRepository.read c bytes = _ := if_neg (Nat.not_lt.2 hlength)
  rcases hcache : (s.readCache.filter (·.1 == bytes)).map Prod.snd with _ | tunnels
  · refine ⟨some (bytes, t.stored), hread _ ?_, h.selected, ?_, ?_⟩
    · rw [hlong]
      refine quiet_bind quiet_read ?_
      rw [hcache]
      dsimp only
      rw [hdecrypt]
      exact quiet_bind quiet_modify quiet_pure
    · exact ⟨bytes, hcontent, hlength, hdecrypt⟩
    · rintro _ _ hfilled
      obtain ⟨rfl, rfl⟩ : bytes = _ ∧ t.stored = _ := by simpa using hfilled
      exact hdecrypt
  · have hfilled : s.readCache = some (bytes, tunnels) := by
      simp only [Option.map_eq_some_iff, Option.filter_eq_some_iff, beq_iff_eq] at hcache
      obtain ⟨⟨bytes', _⟩, ⟨hfilled, rfl⟩, rfl⟩ := hcache
      exact hfilled
    obtain rfl : tunnels = t.stored :=
      Except.ok.inj ((h.cached bytes tunnels hfilled).symm.trans hdecrypt)
    refine ⟨s.readCache, hread _ ?_, h⟩
    rw [hlong]
    refine quiet_bind quiet_read ?_
    rw [hcache]
    exact quiet_pure

theorem getSelectedId_eq (h : s.Holds c t) :
    TunnelRepository.getSelectedId (profiles c) s = t.getSelectedId :=
  congrArg (Option.filter (· != -1)) h.selected

theorem load_settled (h : s.Holds c t) (ht : t.Settled) :
    ∃ cache, (TunnelRepository.load (profiles c)).Quiet s t.stored
      { s with readCache := cache } := by
  obtain ⟨cache, hquiet, h'⟩ := h.load_quiet
  refine ⟨cache, quiet_bind hquiet (quiet_bind (quiet_when ?_) ?_)⟩
  · simp [ht.stored]
  · rw [ht.stored]
    exact quiet_bind (ht.repairSelection_quiet h'.getSelectedId_eq) quiet_pure

theorem repairSelection_eq (h : s.Holds c t) (tunnels : List Tunnel) :
    ∃ s' t', (repairSelection (profiles c)
        tunnels).exec s = (.ok (), s') ∧
      (repairSelection TunnelStore.profiles tunnels).exec t = (.ok (), t') ∧
      s'.Holds c t' := by
  have hselected : TunnelRepository.getSelectedId (profiles c) s =
      TunnelRepository.getSelectedId TunnelStore.profiles t := h.getSelectedId_eq
  rcases hid : TunnelRepository.getSelectedId TunnelStore.profiles t with _ | id
  · exact ⟨s, t, by simp [repairSelection, hselected, hid],
      by simp [repairSelection, hid], h⟩
  by_cases hthere : (! tunnels.any (·.id == id)) = true
  · refine ⟨{ s with selectedPreference := tunnels.head?.map (·.id) },
      { t with selectedPreference := tunnels.head?.map (·.id) }, ?_, ?_, rfl, h.decodes, h.cached⟩
    · simp only [repairSelection, exec_bind, exec_read, hselected, hid,
        exec_when, hthere, exec_write, if_true]
      rfl
    · simp only [repairSelection, exec_bind, exec_read, hid,
        exec_when, hthere, exec_write, if_true]
      rfl
  · refine ⟨s, t, ?_, ?_, h⟩
    · simp only [repairSelection, exec_bind, exec_read, hselected, hid,
        exec_when, hthere]
      rfl
    · simp only [repairSelection, exec_bind, exec_read, hid, exec_when, hthere]
      rfl

theorem save_eq (h : s.Holds c t) (hencrypt : ∃ bytes, c.encrypt tunnels = .ok bytes) :
    ∃ s', (EncryptedProfileRepository.save c tunnels).exec s = (.ok (), s') ∧
      s'.Holds c { t with stored := tunnels } := by
  obtain ⟨bytes, hbytes⟩ := hencrypt
  obtain ⟨hlength, hdecrypt⟩ := c.decrypt_encrypt hbytes
  refine ⟨{ s with content := some bytes, readCache := none }, ?_, h.selected, ?_, by simp⟩
  · simp [EncryptedProfileRepository.save, hbytes]
  · exact ⟨bytes, rfl, hlength, hdecrypt⟩

theorem load_refines (h : s.Holds c t)
    (hencrypt : ∃ bytes, c.encrypt (connections t.stored) = .ok bytes) :
    ∃ s' t', (TunnelRepository.load (profiles c)).exec s =
        (.ok (connections t.stored), s') ∧
      TunnelStore.load.exec t = (.ok (connections t.stored), t') ∧ s'.Holds c t' := by
  obtain ⟨cache, hquiet, h₁⟩ := h.load_quiet
  have hload := Prog.exec_of_ok (hquiet [])
  generalize ({ s with readCache := cache } : ProfileFile) = s₁ at hload h₁
  have hsaved : ∃ s₂ t₂, (Prog.when (decide (connections t.stored ≠ t.stored))
        ((profiles c).save (connections t.stored))).exec s₁ =
          (.ok (), s₂) ∧
      (Prog.when (decide (connections t.stored ≠ t.stored))
        (TunnelStore.profiles.save (connections t.stored))).exec t = (.ok (), t₂) ∧
      s₂.Holds c t₂ := by
    by_cases hchanged : connections t.stored = t.stored
    · exact ⟨s₁, t, by simp [hchanged], by simp [hchanged], h₁⟩
    · obtain ⟨s₂, hsave, h₂⟩ := h₁.save_eq hencrypt
      refine ⟨s₂, _, ?_, ?_, h₂⟩
      · rw [exec_when, if_pos (by simpa using hchanged)]
        exact hsave
      · rw [exec_when, if_pos (by simpa using hchanged)]
        exact exec_write _ _
  obtain ⟨s₂, t₂, hs₂, ht₂, h₂⟩ := hsaved
  obtain ⟨s₃, t₃, hs₃, ht₃, h₃⟩ := h₂.repairSelection_eq (connections t.stored)
  refine ⟨s₃, t₃, ?_, ?_, h₃⟩
  · simp only [TunnelRepository.load, exec_bind,
      show (profiles c).load.exec s = _ from hload, hs₂, hs₃,
      exec_pure]
  · simp only [TunnelStore.load, TunnelRepository.load, exec_bind,
      show TunnelStore.profiles.load.exec t = (.ok t.stored, t) from exec_read _ _, ht₂, ht₃,
      exec_pure]

end ProfileFile.Holds

/-- A list that takes only what the cipher encrypts. -/
def TunnelStore.encrypting (c : ProfileCipher) : Profiles TunnelStore :=
  { TunnelStore.profiles with
    save tunnels := Prog.ofExcept (c.encrypt tunnels) >>= fun _ =>
      TunnelStore.profiles.save tunnels }

inductive StoreCall
  | load
  | save (tunnels : List Tunnel)
  | setSelectedId (id : Int)
  | getSelected

def StoreCall.program {σ : Type} (repo : Profiles σ) : StoreCall → Prog Throwable σ (List Tunnel)
  | load => TunnelRepository.load repo
  | save tunnels => TunnelRepository.save repo tunnels >>= fun _ => pure []
  | setSelectedId id => TunnelRepository.setSelectedId repo id >>= fun _ => pure []
  | getSelected => TunnelRepository.getSelected repo >>= fun t => pure t.toList

/-- How calls end, each with the fates of its writes. After a crash the next one is made in a new
process. -/
def outcomes {σ : Type} (repo : Profiles σ) (restart : σ → σ) :
    List (StoreCall × List (Fate Throwable)) → σ → List (Outcome Throwable (List Tunnel))
  | [], _ => []
  | (call, fates) :: calls, s =>
    match (call.program repo).run s fates with
    | (.crashed, s', _) => .crashed :: outcomes repo restart calls (restart s')
    | (outcome, s', _) => outcome :: outcomes repo restart calls s'

section Simulation

open ProfileFile (Holds)

variable {c : ProfileCipher}

theorem simulates_save (tunnels : List Tunnel) : Prog.Simulates (Holds c)
    ((profiles c).save tunnels) ((TunnelStore.encrypting c).save tunnels) := by
  intro s t h fs
  simp only [profiles, EncryptedProfileRepository.save, TunnelStore.encrypting]
  cases hencrypt : c.encrypt tunnels with
  | error e => exact ⟨_, _, _, _, rfl, rfl, h⟩
  | ok bytes =>
    obtain ⟨hlength, hdecrypt⟩ := c.decrypt_encrypt hencrypt
    rcases fs with _ | ⟨_ | _ | _, fs⟩
    · exact ⟨_, _, _, _, rfl, rfl, h.selected, ⟨bytes, rfl, hlength, hdecrypt⟩, nofun⟩
    · exact ⟨_, _, _, _, rfl, rfl, h.selected, ⟨bytes, rfl, hlength, hdecrypt⟩, nofun⟩
    · exact ⟨_, _, _, _, rfl, rfl, h⟩
    · exact ⟨_, _, _, _, rfl, rfl, h⟩

theorem simulates_select (id : Option Int) : Prog.Simulates (Holds c)
    (Prog.write ((profiles c).setSelectedPreference id) : Prog Throwable _ _)
    (Prog.write ((TunnelStore.encrypting c).setSelectedPreference id)) :=
  simulates_write fun _ _ h => ⟨rfl, h.decodes, h.cached⟩

theorem simulates_repairSelection (tunnels : List Tunnel) : Prog.Simulates (Holds c)
    (repairSelection (profiles c) tunnels)
    (repairSelection (TunnelStore.encrypting c) tunnels) := by
  refine simulates_bind (simulates_read fun _ _ h => h.getSelectedId_eq) fun selected => ?_
  cases selected with
  | none => exact simulates_pure ()
  | some id => exact simulates_when (simulates_select _)

theorem simulates_load : Prog.Simulates (Holds c) (TunnelRepository.load (profiles c))
    (TunnelRepository.load (TunnelStore.encrypting c)) := by
  refine simulates_bind ?_ fun stored => simulates_bind (simulates_when (simulates_save _))
    fun _ => simulates_bind (simulates_repairSelection _) fun _ => simulates_pure _
  intro s t h fs
  obtain ⟨cache, hquiet, h'⟩ := h.load_quiet
  exact ⟨_, _, _, _, hquiet fs, rfl, h'⟩

theorem simulates_call (call : StoreCall) : Prog.Simulates (Holds c) (call.program (profiles c))
    (call.program (TunnelStore.encrypting c)) := by
  cases call with
  | load => exact simulates_load
  | save tunnels =>
    exact simulates_bind (simulates_bind (simulates_save _) fun _ => simulates_repairSelection _)
      fun _ => simulates_pure _
  | setSelectedId id => exact simulates_bind (simulates_select _) fun _ => simulates_pure _
  | getSelected =>
    refine simulates_bind (simulates_bind simulates_load fun all => ?_) fun _ => simulates_pure _
    exact simulates_bind (simulates_read fun _ _ h => h.getSelectedId_eq) fun _ => simulates_pure _

end Simulation

/-- Loading repairs what is stored once and for all: afterwards there is a local connection,
the selection is one of the list, and loading again finds nothing to write. -/
theorem load_repairs_once {c : ProfileCipher} {s : ProfileFile} {t : TunnelStore}
    (h : s.Holds c t) (hencrypt : ∃ bytes, c.encrypt (connections t.stored) = .ok bytes) :
    (∃ tunnels s₁, (TunnelRepository.load (profiles c)).exec s =
        (.ok tunnels, s₁) ∧
      (∃ tunnel ∈ tunnels, isDirect tunnel = true) ∧
      (TunnelRepository.getSelectedId (profiles c) s₁ = none ∨
        ∃ tunnel ∈ tunnels,
          TunnelRepository.getSelectedId (profiles c) s₁ =
            some tunnel.id) ∧
      ∃ cache, (TunnelRepository.load (profiles c)).Quiet s₁ tunnels
        { s₁ with readCache := cache }) ∧
    ∀ tunnel, ensureConfigured (ensureConfigured tunnel) =
      ensureConfigured tunnel := by
  refine ⟨?_, ensureConfigured_ensureConfigured⟩
  obtain ⟨s₁, t₁, hload, hstore, h₁⟩ := h.load_refines hencrypt
  have hsettled : t₁.Settled := by
    have hsettled := t.settled_load
    rwa [hstore] at hsettled
  have hstored : t₁.stored = connections t.stored := by
    rw [TunnelStore.load_exec] at hstore
    exact congrArg TunnelStore.stored (Prod.ext_iff.1 hstore).2.symm
  refine ⟨connections t.stored, s₁, hload, ?_, ?_, ?_⟩
  · exact List.any_eq_true.1 (any_isDirect_connections t.stored)
  · rw [h₁.getSelectedId_eq, ← hstored]
    exact hsettled.selected
  · rw [← hstored]
    exact h₁.load_settled hsettled

/-- The empty list, encrypted with the key of `builtInBytes`. -/
def clearedBytes : List UInt8 :=
  [0x10, 0x11, 0x12, 0x13, 0x14, 0x15, 0x16, 0x17, 0x18, 0x19, 0x1a, 0x1b, 0x26, 0xa3, 0xba,
   0x5c, 0xd7, 0xb5, 0x21, 0x9e, 0xb9, 0x4f, 0x8f, 0xda, 0x5a, 0x92, 0x70, 0x8e, 0x24, 0x21]

def clearedCipher : ProfileCipher where
  encrypt := phoneCipher.encrypt
  decrypt bytes := if bytes = clearedBytes then .ok [] else phoneCipher.decrypt bytes
  decodeTunnels := phoneCipher.decodeTunnels
  decrypt_encrypt := by
    intro tunnels bytes h
    obtain ⟨hlength, hdecrypt⟩ := phoneCipher.decrypt_encrypt h
    have hne : bytes ≠ clearedBytes := by
      rintro rfl
      have hfails : phoneCipher.decrypt clearedBytes =
          .error (.platform (some "mac check in GCM failed")) := by
        have hother : clearedBytes ≠ builtInBytes := by decide +kernel
        simp [phoneCipher, hother]
      rw [hfails] at hdecrypt
      exact absurd hdecrypt (by simp)
    exact ⟨hlength, (if_neg hne).trans hdecrypt⟩

/-- A file of the empty list, beside a preference that names a tunnel of former times. -/
def cleared : ProfileFile := { content := some clearedBytes, selectedPreference := some 7 }

theorem cleared_holds :
    cleared.Holds clearedCipher { stored := [], selectedPreference := some 7 } :=
  ⟨rfl, ⟨clearedBytes, rfl, by decide, by simp [clearedCipher]⟩, by simp [cleared]⟩

theorem load_repairs_cleared :
    ∃ tunnels s₁, (TunnelRepository.load (profiles clearedCipher)).exec
        cleared = (.ok tunnels, s₁) ∧
      ∃ cache, (TunnelRepository.load (profiles clearedCipher)).Quiet
        s₁ tunnels { s₁ with readCache := cache } := by
  have hencrypt : clearedCipher.encrypt [create] = .ok builtInBytes := by
    simp [clearedCipher, phoneCipher]
  obtain ⟨⟨tunnels, s₁, hload, -, -, hquiet⟩, -⟩ :=
    load_repairs_once cleared_holds ⟨builtInBytes, hencrypt⟩
  exact ⟨tunnels, s₁, hload, hquiet⟩

end LibreRoute.Tunnels
