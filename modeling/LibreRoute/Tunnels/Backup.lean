import LibreRoute.Lib.JsonValue
import LibreRoute.Tunnels.BackupMerge
import LibreRoute.Tunnels.CommandLine
import LibreRoute.Tunnels.KeyFile
import LibreRoute.Tunnels.Repository

/-!
Restoring a backup.

The tunnels of the application are compared with those of the backup in the
form in which they would be exported, with their keys. Those that are added
get a key file, are stored and repaired at the next load. What comes out of
that has to have the route of the backup again, or restoring the backup once
more adds the tunnel once more.
-/

namespace LibreRoute.Tunnels

open Lib DirectDpiProfile BackupMerge
open Admin (Throwable)

section Export

variable (d : Device)

/-- The key in the file a path names, if there is a path and the file is inside the directory. -/
def namedKey (fs : FileSystem) (path : String) : Except Throwable (Option String) :=
  if path == "" then .ok none
  else do
    let file ← d.canonicalFile path
    pure (if d.isInside file then trimmedKey (fs.text file) else none)

/-- The key of the tunnel, or of the file its payload names, or of its own file. -/
def exportKey (fs : FileSystem) (t : Tunnel) : Except Throwable (Option String) :=
  match trimmedKey t.encryptionKey with
  | some key => .ok (some key)
  | none => do
      match ← namedKey d fs (argValue t.transportConnPayload keyFileFlag) with
      | some key => pure (some key)
      | none => pure (trimmedKey (d.readText fs (d.keyPath t.id)))

def prepareForExport (fs : FileSystem) (t : Tunnel) : Except Throwable Tunnel := do
  match ← exportKey d fs t with
  | some key => pure { t with encryptionKey := some key }
  | none => pure t

end Export

/-! ### The backup -/

/-- A backup, with the states of the profiles, of the routing of sites and of applications. -/
structure LibreRouteBackup (P S A : Type) where
  version : Int := 2
  tunnels : List Tunnel := []
  splitTunnelMode : Option String := none
  domainMode : Option Int := none
  domains : List String := []
  ipRules : List String := []
  zapretProfiles : Option P := none
  siteRouting : Option S := none
  appRouting : Option A := none

structure BackupLibraries (P S A : Type) where
  validateProfiles : P → Except Throwable Unit
  validateSites : S → P → Except Throwable Unit
  validateApps : A → P → Except Throwable Unit
  isValidRule : String → Bool
  isValidDomain : String → Bool
  lines : String → List String

/-- The tunnels with their key files, and what the preferences give when they are loaded. -/
structure BackupState (P S A : Type) where
  store : TunnelStore
  files : FileSystem
  profiles : Except Throwable P
  sites : Except Throwable S
  apps : Except Throwable A

namespace ConfigBackupManager

variable {P S A : Type} (L : BackupLibraries P S A) (d : Device) (backup : LibreRouteBackup P S A)

/-- A part of the backup, or what is stored where the backup has none. -/
def effective {α : Type} (part : Option α) (stored : Except Throwable α) : Except Throwable α :=
  match part with
  | some value => .ok value
  | none => stored

def checked (s : BackupState P S A) : Except Throwable P := do
  require (decide (1 ≤ backup.version) && decide (backup.version ≤ 2) &&
    decide (backup.tunnels.length ≤ 10000))
    (Throwable.illegalArgument "Неподдерживаемая резервная копия")
  backup.zapretProfiles.forM L.validateProfiles
  let effectiveProfiles ← effective backup.zapretProfiles s.profiles
  let effectiveSites ← effective backup.siteRouting s.sites
  L.validateSites effectiveSites effectiveProfiles
  let effectiveApps ← effective backup.appRouting s.apps
  L.validateApps effectiveApps effectiveProfiles
  require (backup.ipRules.all L.isValidRule)
    (Throwable.illegalArgument "Некорректные IP-правила в резервной копии")
  require (backup.domains.all L.isValidDomain)
    (Throwable.illegalArgument "Некорректные домены в резервной копии")
  require (backup.domainMode.all fun mode => decide (0 ≤ mode) && decide (mode ≤ 1))
    (Throwable.illegalArgument "Некорректный режим доменных правил")
  require (backup.splitTunnelMode.all fun mode => mode == "bypass" || mode == "proxy")
    (Throwable.illegalArgument "Некорректный режим разделения приложений")
  require (backup.tunnels.all fun t =>
      ! isBlank t.name && decide (t.transportConnPayload.length ≤ 512))
    (Throwable.illegalArgument "Некорректный маршрут в резервной копии")
  pure effectiveProfiles

/-- `IpRulesPreferences.update` takes the rules. -/
def acceptsRules : Bool :=
  (((L.lines (joinToString backup.ipRules "\n")).map trim).filter (· != "")).all L.isValidRule

def storePart {α : Type} (part : Option α) (validate : α → Except Throwable Unit)
    (set : α → BackupState P S A → BackupState P S A) :
    Prog Throwable (BackupState P S A) Unit :=
  match part with
  | none => pure ()
  | some value => do
      Prog.ofExcept (validate value)
      Prog.write (set value)

/-- The preferences that are read by the checks. Those that are written only are left out. -/
def restorePreferences (effectiveProfiles : P) : Prog Throwable (BackupState P S A) Unit := do
  Prog.require (decide (backup.version < 2) || acceptsRules L backup)
    (Throwable.illegalArgument "Invalid IP rules in backup")
  storePart backup.zapretProfiles L.validateProfiles fun profiles s =>
    { s with profiles := .ok profiles }
  storePart backup.siteRouting (L.validateSites · effectiveProfiles) fun sites s =>
    { s with sites := .ok sites }
  storePart backup.appRouting (L.validateApps · effectiveProfiles) fun apps s =>
    { s with apps := .ok apps }

/-- The search for an id takes its candidates from `newId`, and is given up after so many as the
fuel. -/
def addTunnels (newId : Nat → Int) (fuel : Nat) :
    Prog Throwable (BackupState P S A) (List Tunnel) := do
  let current ← Prog.zoom BackupState.store (fun store s => { s with store := store })
    TunnelStore.load
  let portable ← Prog.read fun s => current.mapM (prepareForExport d s.files)
  let portable ← Prog.ofExcept portable
  let merged ← Prog.getOrThrow (merge newId fuel portable backup.tunnels)
    (.platform none)
  let added ← Prog.zoom BackupState.files (fun files s => { s with files := files })
    (Prog.mapEach (merged.drop portable.length) (ensureLocalKeyFile d))
  Prog.zoom BackupState.store (fun store s => { s with store := store })
    (TunnelStore.save (current ++ added))
  pure added

/-- Restores a backup: the number of tunnels that were added. -/
def applyBackup (newId : Nat → Int) (fuel : Nat) : Prog Throwable (BackupState P S A) Nat := do
  let effectiveProfiles ← Prog.read (checked L backup)
  let effectiveProfiles ← Prog.ofExcept effectiveProfiles
  let added ← addTunnels d backup newId fuel
  restorePreferences L backup effectiveProfiles
  pure added.length

/-! ### What a successful call does -/

section Call

variable {L d backup} {newId : Nat → Int} {fuel n : Nat} {s s' : BackupState P S A}

theorem effective_effective {α : Type} (part : Option α) (stored : Except Throwable α) :
    effective part (effective part stored) = effective part stored := by
  cases part <;> rfl

def withPreferences (backup : LibreRouteBackup P S A) (s : BackupState P S A) :
    BackupState P S A :=
  { s with
    profiles := effective backup.zapretProfiles s.profiles
    sites := effective backup.siteRouting s.sites
    apps := effective backup.appRouting s.apps }

theorem checked_withPreferences :
    checked L backup (withPreferences backup s) = checked L backup s := by
  simp only [checked, withPreferences, effective_effective]

theorem validate_of_checked {profiles : P} (h : checked L backup s = .ok profiles) :
    (∀ p, backup.zapretProfiles = some p → L.validateProfiles p = .ok ()) ∧
      (∀ sites, backup.siteRouting = some sites → L.validateSites sites profiles = .ok ()) ∧
      ∀ apps, backup.appRouting = some apps → L.validateApps apps profiles = .ok () := by
  simp only [checked, bind_eq_ok, require_eq_ok, pure_eq_ok, Except.ok.injEq] at h
  obtain ⟨_, -, _, hprofiles, effectiveProfiles, -, effectiveSites, hsites, _, hvalidSites,
    effectiveApps, happs, _, hvalidApps, h⟩ := h
  obtain ⟨_, -, _, -, _, -, _, -, _, -, rfl⟩ := h
  refine ⟨fun p hp => ?_, fun sites hs => ?_, fun apps ha => ?_⟩
  · rw [hp] at hprofiles
    exact hprofiles
  · rw [hs] at hsites
    rwa [Except.ok.inj hsites]
  · rw [ha] at happs
    rwa [Except.ok.inj happs]

theorem storePart_exec {α : Type} {part : Option α} {validate : α → Except Throwable Unit}
    (set : α → BackupState P S A → BackupState P S A)
    (h : ∀ value, part = some value → validate value = .ok ()) :
    (storePart part validate set).exec s = (.ok (), part.elim s (set · s)) := by
  cases part with
  | none => exact exec_pure _ _
  | some value => simp [storePart, h value rfl]

theorem restorePreferences_exec {profiles : P} {s₀ : BackupState P S A}
    (h : checked L backup s₀ = .ok profiles)
    (hrules : (decide (backup.version < 2) || acceptsRules L backup) = true) :
    (restorePreferences L backup profiles).exec s = (.ok (), withPreferences backup s) := by
  obtain ⟨hprofiles, hsites, happs⟩ := validate_of_checked h
  simp only [restorePreferences, exec_bind, exec_require, hrules, if_true,
    storePart_exec _ hprofiles, storePart_exec _ hsites, storePart_exec _ happs]
  cases hp : backup.zapretProfiles <;> cases hs : backup.siteRouting <;>
    cases ha : backup.appRouting <;> simp [withPreferences, effective, hp, hs, ha]

theorem accepts_of_restorePreferences {profiles : P}
    (h : (restorePreferences L backup profiles).exec s = (.ok (), s')) :
    (decide (backup.version < 2) || acceptsRules L backup) = true := by
  obtain ⟨_, _, hrequire, -⟩ := exec_bind_eq_ok.1 h
  by_contra hrules
  rw [exec_require, if_neg hrules] at hrequire
  exact absurd (congrArg Prod.fst hrequire) nofun

def withTunnels (s : BackupState P S A) (tunnels : List Tunnel) (files : FileSystem) :
    BackupState P S A :=
  { s with
    store := ((TunnelStore.save tunnels).exec (TunnelStore.load.exec s.store).2).2
    files := files }

theorem stored_withTunnels (tunnels : List Tunnel) (files : FileSystem) :
    (withPreferences backup (withTunnels s tunnels files)).store.stored =
      tunnels.filter Tunnel.isAvailable := by
  simp [withPreferences, withTunnels, TunnelStore.save_exec]

theorem applyBackup_eq_ok_iff :
    (applyBackup L d backup newId fuel).exec s = (.ok n, s') ↔
      ∃ profiles portable merged added files, checked L backup s = .ok profiles ∧
        (connections s.store.stored).mapM (prepareForExport d s.files) = .ok portable ∧
        merge newId fuel portable backup.tunnels = some merged ∧
        (Prog.mapEach (merged.drop portable.length) (ensureLocalKeyFile d)).exec s.files =
          (.ok added, files) ∧
        (decide (backup.version < 2) || acceptsRules L backup) = true ∧ n = added.length ∧
        s' = withPreferences backup
          (withTunnels s (connections s.store.stored ++ added) files) := by
  have hload : (TunnelStore.load.exec s.store).1 = .ok (connections s.store.stored) := by
    rw [TunnelStore.load_exec]
  have hsave : ∀ store tunnels, ((TunnelStore.save tunnels).exec store).1 = .ok () := by
    intro store tunnels
    rw [TunnelStore.save_exec]
  simp only [applyBackup, addTunnels, exec_bind_eq_ok, exec_read, exec_ofExcept,
    exec_zoom, exec_getOrThrow, exec_pure, Prod.mk.injEq, Except.ok.injEq]
  constructor
  · rintro ⟨_, _, ⟨rfl, rfl⟩, profiles, _, ⟨hchecked, rfl⟩, _, _, ⟨current, _, ⟨hcurrent, rfl⟩,
      _, _, ⟨rfl, rfl⟩, portable, _, ⟨hportable, rfl⟩, merged, _, ⟨hmerged, rfl⟩, added, _,
      ⟨hadded, rfl⟩, _, _, ⟨-, rfl⟩, rfl, rfl⟩, _, _, hrestore, rfl, rfl⟩
    obtain rfl : connections _ = current := Except.ok.inj (hload.symm.trans hcurrent)
    have hrules := accepts_of_restorePreferences hrestore
    rw [restorePreferences_exec hchecked hrules, Prod.mk.injEq] at hrestore
    have hmerge : merge newId fuel portable backup.tunnels = some merged := by
      cases hm : merge newId fuel portable backup.tunnels with
      | none => simp [hm] at hmerged
      | some m => simpa [hm] using hmerged
    exact ⟨profiles, portable, merged, added, _, hchecked, hportable, hmerge,
      Prod.ext hadded rfl, hrules, rfl, hrestore.2.symm⟩
  · rintro ⟨profiles, portable, merged, added, files, hchecked, hportable, hmerge, hadded, hrules,
      rfl, rfl⟩
    refine ⟨_, _, ⟨rfl, rfl⟩, profiles, _, ⟨hchecked, rfl⟩, added, _, ⟨_, _, ⟨hload, rfl⟩, _, _,
      ⟨rfl, rfl⟩, portable, _, ⟨hportable, rfl⟩, merged, _, ⟨by rw [hmerge], rfl⟩, added, _,
      ⟨by rw [hadded], rfl⟩, (), _, ⟨hsave _ _, rfl⟩, rfl, rfl⟩, (), _,
      restorePreferences_exec hchecked hrules, rfl, ?_⟩
    rw [hadded]
    rfl

end Call

end ConfigBackupManager

/-! ### Tunnels that come back as they were -/

/-- No key is found for a tunnel without one while the tunnels of the ids are added: its own
file holds none if the arguments have the flag, and a file they name, before or after the flag
is taken out, is outside the directory, its own, or one without a key that is not written. -/
structure StaysKeyless (d : Device) (fs : FileSystem) (ids : List Int) (t : Tunnel) : Prop where
  own : keyFileFlag ∈ t.transportConnPayload → trimmedKey (fs.text (d.keyFile t.id)) = none
  named : ∀ path, keyFileArgument t.transportConnPayload = some path ∨
      path ≠ "" ∧ argValue (removeKeyFile t.transportConnPayload) keyFileFlag = path →
    ∃ file, d.canonicalFile path = .ok file ∧ (d.isInside file = true → file = d.keyFile t.id ∨
      trimmedKey (fs.text file) = none ∧ file ∉ ids.map d.keyFile)

/-- The tunnel is of a transport that is stored, its key has no white space around it and is not
the empty text, its key file can be put in or taken out without a change of the route, and it
needs no repair then. -/
structure Restorable (d : Device) (fs : FileSystem) (ids : List Int) (t : Tunnel) : Prop where
  available : t.isAvailable = true
  key : trimmedKey t.encryptionKey = t.encryptionKey
  keyless : t.encryptionKey = none → StaysKeyless d fs ids t
  route : payload (materialise d t).transportConnPayload = payload t.transportConnPayload
  direct : isDirect t = true → configuredPayload (materialise d t).transportConnPayload =
    (materialise d t).transportConnPayload

section Files

variable {d : Device} {fs fs' : FileSystem} {ids : List Int} {l : List Tunnel} {t u : Tunnel}

/-- The files outside those of the ids are the same. -/
def AgreeBut (d : Device) (ids : List Int) (fs fs' : FileSystem) : Prop :=
  ∀ file ∉ ids.map d.keyFile, fs'.text file = fs.text file

namespace Restorable

theorem sameRoute_stored (h : Restorable d fs ids t) : sameRoute (materialise d t) t = true :=
  sameRoute_iff.2 ⟨rfl, rfl, h.route⟩

theorem ensureConfigured_stored (h : Restorable d fs ids t) :
    ensureConfigured (materialise d t) = materialise d t :=
  ensureConfigured_eq_self_iff.2 h.direct

variable (hfs : AgreeBut d ids fs fs')

include hfs

theorem localKey_eq (h : Restorable d fs ids t)
    (hown : fs'.text (d.keyFile t.id) = fs.text (d.keyFile t.id)) :
    localKey d fs' t = .ok t.encryptionKey := by
  rcases hkey : t.encryptionKey with _ | key
  · obtain ⟨hempty, hnamed⟩ := h.keyless hkey
    rw [← hown] at hempty
    have hread : (if keyFileFlag ∈ t.transportConnPayload then
        trimmedKey (d.readText fs' (d.keyPath t.id)) else none) = none := by
      split
      · next hflag => rw [d.readText_keyPath, hempty hflag]
      · rfl
    rcases hargument : keyFileArgument t.transportConnPayload with _ | path
    · simp [localKey, hkey, hargument, hread]
    · have hflag : keyFileFlag ∈ t.transportConnPayload := by
        by_contra hflag
        simp [keyFileArgument_of_notMem hflag] at hargument
      obtain ⟨file, hfile, hinside⟩ := hnamed path (Or.inl hargument)
      have hnone : (if d.isInside file then trimmedKey (fs'.text file) else none) = none := by
        split
        · next h =>
            rcases hinside h with rfl | ⟨hnone, hother⟩
            · exact hempty hflag
            · rw [hfs file hother, hnone]
        · rfl
      simp [localKey, hkey, hargument, hfile, hnone, hread]
  · have htrimmed := h.key
    rw [hkey] at htrimmed
    have hne : key ≠ "" := by
      rintro rfl
      simp [trimmedKey, trim] at htrimmed
    simp [localKey, hkey, hne, htrimmed]

theorem prepareForExport_stored (h : Restorable d fs ids t)
    (hown : fs'.text (d.keyFile t.id) = t.encryptionKey) :
    prepareForExport d fs' (materialise d t) = .ok (materialise d t) := by
  rcases hkey : t.encryptionKey with _ | key
  · have hpayload : (materialise d t).transportConnPayload =
        removeKeyFile t.transportConnPayload := by
      simp [materialise, withLocalKey, hkey]
    have hnone : (materialise d t).encryptionKey = none := hkey
    have hid : (materialise d t).id = t.id := rfl
    have hnamed : namedKey d fs' (argValue (removeKeyFile t.transportConnPayload) keyFileFlag) =
        .ok none := by
      unfold namedKey
      split
      · rfl
      · next hpath =>
          obtain ⟨file, hfile, hinside⟩ :=
            (h.keyless hkey).named _ (Or.inr ⟨by simpa using hpath, rfl⟩)
          rw [hfile, ok_bind, pure_eq_ok, Except.ok.injEq]
          split
          · next h =>
              rcases hinside h with rfl | ⟨hempty, hother⟩
              · rw [hown, hkey, trimmedKey_none]
              · rw [hfs file hother, hempty]
          · rfl
    simp [prepareForExport, exportKey, hnone, hpayload, hnamed, hid, Device.readText_keyPath, hown,
      hkey]
  · have htrimmed := h.key
    have hstored : (materialise d t).encryptionKey = some key := hkey
    rw [hkey] at htrimmed
    simp only [prepareForExport, exportKey, hstored, htrimmed, ok_bind, pure_eq_ok]
    rw [← hstored]

end Restorable

/-! ### The key files of the tunnels that are added -/

def putKeys (d : Device) (fs : FileSystem) (l : List Tunnel) : FileSystem :=
  l.foldl (fun fs t => fs.put (d.keyFile t.id) t.encryptionKey) fs

theorem AgreeBut.put {key : Option String} (h : AgreeBut d ids fs fs') {id : Int} (hid : id ∈ ids) :
    AgreeBut d ids fs (fs'.put (d.keyFile id) key) := by
  intro file hfile
  have hne : file ≠ d.keyFile id := fun heq => hfile (heq ▸ List.mem_map_of_mem hid)
  rw [FileSystem.text_put_of_ne hne, h file hfile]

theorem agreeBut_putKeys (h : AgreeBut d ids fs fs') (hl : l.map Tunnel.id ⊆ ids) :
    AgreeBut d ids fs (putKeys d fs' l) := by
  induction l generalizing fs' with
  | nil => exact h
  | cons t l ih =>
    obtain ⟨ht, hl⟩ := List.cons_subset.1 hl
    exact ih (h.put ht) hl

theorem ensureLocalKeyFiles_exec (h : ∀ t ∈ l, Restorable d fs ids t)
    (hids : (l.map Tunnel.id).Nodup) (hl : l.map Tunnel.id ⊆ ids) (hfs : AgreeBut d ids fs fs')
    (hown : ∀ t ∈ l, fs'.text (d.keyFile t.id) = fs.text (d.keyFile t.id)) :
    (Prog.mapEach l (ensureLocalKeyFile d)).exec fs' =
      (.ok (l.map (materialise d)), putKeys d fs' l) := by
  induction l generalizing fs' with
  | nil => exact exec_pure _ _
  | cons t l ih =>
    obtain ⟨ht, h⟩ := List.forall_mem_cons.1 h
    obtain ⟨htid, hl⟩ := List.cons_subset.1 hl
    obtain ⟨htown, hown⟩ := List.forall_mem_cons.1 hown
    rw [List.map_cons, List.nodup_cons] at hids
    have hrest : ∀ u ∈ l, (fs'.put (d.keyFile t.id) t.encryptionKey).text (d.keyFile u.id) =
        fs.text (d.keyFile u.id) := by
      intro u hu
      have hne : d.keyFile u.id ≠ d.keyFile t.id := fun heq =>
        hids.1 (d.keyFile_injective heq ▸ List.mem_map_of_mem hu)
      rw [FileSystem.text_put_of_ne hne, hown u hu]
    simp only [Prog.mapEach, exec_bind, ensureLocalKeyFile_exec, ht.localKey_eq hfs htown,
      ih h hids.2 hl (hfs.put htid) hrest, exec_pure]
    rfl

theorem text_putKeys (hids : (l.map Tunnel.id).Nodup) (ht : t ∈ l) :
    (putKeys d fs l).text (d.keyFile t.id) = t.encryptionKey := by
  induction l generalizing fs with
  | nil => simp at ht
  | cons u l ih =>
    rw [List.map_cons, List.nodup_cons] at hids
    rcases List.mem_cons.1 ht with rfl | ht
    · have hothers : AgreeBut d (l.map Tunnel.id) (fs.put (d.keyFile t.id) t.encryptionKey)
          (putKeys d (fs.put (d.keyFile t.id) t.encryptionKey) l) :=
        agreeBut_putKeys (fun _ _ => rfl) (List.Subset.refl _)
      refine (hothers _ fun hmem => ?_).trans (FileSystem.text_put_self _ _ _)
      exact hids.1 ((List.mem_map_of_injective d.keyFile_injective).1 hmem)
    · exact ih hids.2 ht

theorem prepareForExport_congr
    (hnamed : trimmedKey t.encryptionKey = none → ∀ file,
      d.canonicalFile (argValue t.transportConnPayload keyFileFlag) = .ok file →
      fs.text file = fs'.text file)
    (hown : fs.text (d.keyFile t.id) = fs'.text (d.keyFile t.id)) :
    prepareForExport d fs t = prepareForExport d fs' t := by
  have hkey : exportKey d fs t = exportKey d fs' t := by
    unfold exportKey
    cases htrimmed : trimmedKey t.encryptionKey with
    | some key => rfl
    | none =>
      simp only [namedKey, Device.readText_keyPath, hown]
      cases hfile : d.canonicalFile (argValue t.transportConnPayload keyFileFlag) with
      | error e => rfl
      | ok file => simp only [ok_bind, hnamed htrimmed file hfile]
  rw [prepareForExport, prepareForExport, hkey]

theorem prepareForExport_ok_iff : (∃ u, prepareForExport d fs t = .ok u) ↔
    (trimmedKey t.encryptionKey = none → argValue t.transportConnPayload keyFileFlag ≠ "" →
      ∃ file, d.canonicalFile (argValue t.transportConnPayload keyFileFlag) = .ok file) := by
  have hkey : (∃ u, prepareForExport d fs t = .ok u) ↔ ∃ key, exportKey d fs t = .ok key := by
    unfold prepareForExport
    rcases exportKey d fs t with e | _ | key <;> simp
  rw [hkey, exportKey]
  rcases trimmedKey t.encryptionKey with _ | key
  · by_cases hpath : argValue t.transportConnPayload keyFileFlag = ""
    · simp [namedKey, hpath]
    · rcases hfile : d.canonicalFile (argValue t.transportConnPayload keyFileFlag) with e | file
      · simp [namedKey, hpath, hfile]
      · simp only [namedKey, hfile, ok_bind, pure_eq_ok]
        rcases if d.isInside file = true then trimmedKey (fs.text file) else none with _ | key <;>
          simp [hpath]
  · simp

theorem exportKey_trimmed {key : Option String} (h : exportKey d fs t = .ok key) :
    trimmedKey key = key ∧ (key = none → trimmedKey t.encryptionKey = none) := by
  unfold exportKey at h
  cases htrimmed : trimmedKey t.encryptionKey with
  | some k =>
    simp only [htrimmed] at h
    obtain rfl := Except.ok.inj h
    exact ⟨trimmedKey_of_trimmed htrimmed, by simp⟩
  | none =>
    refine ⟨?_, fun _ => rfl⟩
    simp only [htrimmed, bind_eq_ok] at h
    obtain ⟨named, hnamed, h⟩ := h
    cases named with
    | some k =>
      obtain rfl := Except.ok.inj h
      unfold namedKey at hnamed
      split at hnamed
      · simp at hnamed
      · obtain ⟨file, -, hfile⟩ := bind_eq_ok.1 hnamed
        rw [pure_eq_ok, Except.ok.injEq] at hfile
        split at hfile
        · exact trimmedKey_of_trimmed hfile
        · simp at hfile
    | none =>
      obtain rfl := Except.ok.inj h
      cases hown : trimmedKey (d.readText fs (d.keyPath t.id)) with
      | none => rfl
      | some k => exact trimmedKey_of_trimmed hown

theorem prepareForExport_cases (h : prepareForExport d fs t = .ok u) :
    u = t ∧ trimmedKey t.encryptionKey = none ∨
      ∃ key, u = { t with encryptionKey := some key } ∧ trimmedKey (some key) = some key := by
  obtain ⟨key, hkey, h⟩ := bind_eq_ok.1 h
  obtain ⟨htrimmed, hnone⟩ := exportKey_trimmed hkey
  cases key with
  | none => exact Or.inl ⟨(Except.ok.inj h).symm, hnone rfl⟩
  | some key => exact Or.inr ⟨key, (Except.ok.inj h).symm, htrimmed⟩

theorem prepareForExport_id (h : prepareForExport d fs t = .ok u) : u.id = t.id := by
  rcases prepareForExport_cases h with ⟨rfl, -⟩ | ⟨key, rfl, -⟩ <;> rfl

theorem prepareForExport_transportType (h : prepareForExport d fs t = .ok u) :
    u.transportType = t.transportType := by
  rcases prepareForExport_cases h with ⟨rfl, -⟩ | ⟨key, rfl, -⟩ <;> rfl

theorem ensureLocalKeyFiles_trimmed {added : List Tunnel}
    (h : (Prog.mapEach l (ensureLocalKeyFile d)).exec fs = (.ok added, fs')) :
    added.length = l.length ∧ ∀ u ∈ added, trimmedKey u.encryptionKey = u.encryptionKey := by
  induction l generalizing fs fs' added with
  | nil =>
    obtain ⟨hadded, -⟩ := Prod.mk.inj ((exec_pure _ _).symm.trans h)
    obtain rfl := Except.ok.inj hadded
    exact ⟨rfl, by simp⟩
  | cons t l ih =>
    obtain ⟨u, fs₁, hone, h⟩ := exec_bind_eq_ok.1 h
    obtain ⟨rest, fs₂, hrest, h⟩ := exec_bind_eq_ok.1 h
    rw [exec_pure, Prod.mk.injEq, Except.ok.injEq] at h
    obtain ⟨rfl, -⟩ := h
    obtain ⟨hlength, htrimmed⟩ := ih hrest
    refine ⟨by simp [hlength], List.forall_mem_cons.2 ⟨?_, htrimmed⟩⟩
    rw [ensureLocalKeyFile_exec] at hone
    cases hkey : localKey d fs t with
    | error e => simp [hkey] at hone
    | ok key =>
      rw [hkey, Prod.mk.injEq, Except.ok.injEq] at hone
      obtain ⟨rfl, -⟩ := hone
      cases key with
      | none => rfl
      | some key => exact localKey_trimmed hkey

end Files

theorem connections_append {stored added : List Tunnel}
    (havailable : ∀ t ∈ added, t.isAvailable = true)
    (hconfigured : ∀ t ∈ added, ensureConfigured t = t) :
    connections (connections stored ++ added) = connections stored ++ added := by
  have hrepaired : repaired (connections stored ++ added) = connections stored ++ added := by
    refine repaired_eq_self (fun t ht => ?_) fun t ht => ?_
    · rcases List.mem_append.1 ht with ht | ht
      · exact isAvailable_of_mem_connections ht
      · exact havailable t ht
    · rcases List.mem_append.1 ht with ht | ht
      · exact ensureConfigured_of_mem_connections ht
      · exact hconfigured t ht
  rw [connections, hrepaired, List.any_append, any_isDirect_connections]
  rfl

/-! ### Restoring twice -/

namespace ConfigBackupManager

variable {P S A : Type} {L : BackupLibraries P S A} {d : Device} {backup : LibreRouteBackup P S A}
  {newId newId' : Nat → Int} {fuel fuel' n : Nat} {s s' : BackupState P S A}

/-- A call adds nothing and leaves the stored tunnels as they are. -/
def AddsNothing (L : BackupLibraries P S A) (d : Device) (backup : LibreRouteBackup P S A)
    (newId : Nat → Int) (fuel : Nat) (s : BackupState P S A) : Prop :=
  ∃ s', (applyBackup L d backup newId fuel).exec s = (.ok 0, s') ∧ s'.store.stored = s.store.stored

/-- A tunnel of the application has the route, in the form in which it is exported. -/
def HasRoute (d : Device) (s : BackupState P S A) (raw : Tunnel) : Prop :=
  ∃ t ∈ connections s.store.stored, ∃ u, prepareForExport d s.files t = .ok u ∧
    sameRoute u raw = true

/-- The tunnels a call adds, before their key files are made. -/
def Adds (d : Device) (backup : LibreRouteBackup P S A) (newId : Nat → Int) (fuel : Nat)
    (s : BackupState P S A) (new : List Tunnel) : Prop :=
  ∃ portable, (connections s.store.stored).mapM (prepareForExport d s.files) = .ok portable ∧
    merge newId fuel portable backup.tunnels = some (portable ++ new)

/-- A tunnel of the application has the route, and goes on having it when tunnels of the ids are
added: if it has no key, it does not name the file of one of them. -/
def KeepsRoute (d : Device) (s : BackupState P S A) (ids : List Int) (raw : Tunnel) : Prop :=
  ∃ t ∈ connections s.store.stored, (∃ u, prepareForExport d s.files t = .ok u ∧
      sameRoute u raw = true) ∧
    (trimmedKey t.encryptionKey = none → ∀ file,
      d.canonicalFile (argValue t.transportConnPayload keyFileFlag) = .ok file →
        file ∉ ids.map d.keyFile)

/-- What every tunnel of a backup has to be that can be restored twice: of a transport that is
stored, with a key that has no white space around it; and if the key is blank, the tunnel is a
local connection or was there before. -/
structure Repeatable (s : BackupState P S A) (raw : Tunnel) : Prop where
  available : raw.isAvailable = true
  key : ∀ key, raw.encryptionKey = some key → trim key = key ∨ trim key = ""
  blank : ∀ key, raw.encryptionKey = some key → trim key = "" →
    isDirect raw = false →
    ∃ t ∈ connections s.store.stored, sameRoute t raw = true

theorem ids_of_exported {fs : FileSystem} {current portable : List Tunnel}
    (h : current.mapM (prepareForExport d fs) = .ok portable) :
    portable.map Tunnel.id = current.map Tunnel.id := by
  have hids : List.Forall₂ (fun t u => t.id = u.id) current portable :=
    (mapM_eq_ok_iff.1 h).imp fun _ _ htu => (prepareForExport_id htu).symm
  rw [← List.forall₂_eq_eq_eq, List.forall₂_map_left_iff, List.forall₂_map_right_iff]
  exact hids.flip.imp fun _ _ heq => heq.symm

theorem exported_again {new : List Tunnel} (hadds : Adds d backup newId fuel s new)
    (hnew : ∀ t ∈ new, Restorable d s.files (new.map Tunnel.id) t)
    (hkeeps : ∀ raw ∈ backup.tunnels, (∃ t ∈ new, sameRoute t raw = true) ∨
      KeepsRoute d s (new.map Tunnel.id) raw) :
    ∃ portable, (connections s.store.stored ++ new.map (materialise d)).mapM
        (prepareForExport d (putKeys d s.files new)) = .ok portable ∧
      ∀ raw ∈ backup.tunnels, ∃ t ∈ portable, sameRoute t raw = true := by
  obtain ⟨portable, hportable, hmerge⟩ := hadds
  obtain ⟨added, hadded, hm⟩ := merged_of_merge hmerge
  obtain rfl := List.append_cancel_left hadded
  have hfs : AgreeBut d (new.map Tunnel.id) s.files (putKeys d s.files new) :=
    agreeBut_putKeys (fun _ _ => rfl) (List.Subset.refl _)
  have hcopy : ∀ t ∈ new,
      prepareForExport d (putKeys d s.files new) (materialise d t) = .ok (materialise d t) :=
    fun t ht => (hnew t ht).prepareForExport_stored hfs (text_putKeys hm.ids ht)
  obtain ⟨again, hagain⟩ : ∃ again, (connections s.store.stored ++ new.map (materialise d)).mapM
      (prepareForExport d (putKeys d s.files new)) = .ok again := by
    refine exists_mapM_ok fun t ht => ?_
    rcases List.mem_append.1 ht with ht | ht
    · obtain ⟨u, -, htu⟩ := exists_of_forall₂ (mapM_eq_ok_iff.1 hportable) ht
      exact prepareForExport_ok_iff.2 (prepareForExport_ok_iff.1 ⟨u, htu⟩)
    · obtain ⟨u, hu, rfl⟩ := List.mem_map.1 ht
      exact ⟨_, hcopy u hu⟩
  refine ⟨again, hagain, fun raw hraw => ?_⟩
  rcases hkeeps raw hraw with ⟨t, ht, hsame⟩ | ⟨t, ht, ⟨u, htu, hsame⟩, hapart⟩
  · obtain ⟨u, hu, htu⟩ := exists_of_forall₂ (mapM_eq_ok_iff.1 hagain)
      (List.mem_append_right _ (List.mem_map_of_mem ht))
    obtain rfl := Except.ok.inj ((hcopy t ht).symm.trans htu)
    exact ⟨_, hu, sameRoute_trans (hnew t ht).sameRoute_stored hsame⟩
  · obtain ⟨v, hv, htv⟩ := exists_of_forall₂ (mapM_eq_ok_iff.1 hagain) (List.mem_append_left _ ht)
    have hsamefiles : prepareForExport d (putKeys d s.files new) t =
        prepareForExport d s.files t := by
      refine prepareForExport_congr (fun hkey file hfile => hfs file (hapart hkey file hfile))
        (hfs _ fun hmem => ?_)
      obtain ⟨w, hw, hid⟩ := List.mem_map.1 ((List.mem_map_of_injective d.keyFile_injective).1 hmem)
      refine hm.ids_apart w hw ?_
      rw [ids_of_exported hportable, hid]
      exact List.mem_map_of_mem ht
    obtain rfl := Except.ok.inj (htu.symm.trans (hsamefiles.symm.trans htv))
    exact ⟨u, hv, hsame⟩

theorem addsNothing_of_found {profiles : P} {portable : List Tunnel}
    (hchecked : checked L backup s = .ok profiles)
    (hrules : (decide (backup.version < 2) || acceptsRules L backup) = true)
    (hportable : (connections s.store.stored).mapM (prepareForExport d s.files) = .ok portable)
    (hstored : connections s.store.stored = s.store.stored)
    (hfound : ∀ raw ∈ backup.tunnels, ∃ t ∈ portable, sameRoute t raw = true) :
    AddsNothing L d backup newId fuel s := by
  refine ⟨_, applyBackup_eq_ok_iff.2 ⟨profiles, portable, portable, [], s.files, hchecked,
    hportable, merge_of_found hfound, ?_, hrules, rfl, rfl⟩, ?_⟩
  · rw [List.drop_length]
    exact exec_pure _ _
  · rw [stored_withTunnels, List.append_nil, List.filter_eq_self.2 fun t ht =>
      isAvailable_of_mem_connections ht, hstored]

theorem found_of_addsNothing (h : AddsNothing L d backup newId fuel s) :
    ∀ raw ∈ backup.tunnels, HasRoute d s raw := by
  obtain ⟨s', hcall, -⟩ := h
  obtain ⟨_, portable, merged, added, _, -, hportable, hmerge, hadded, -, hzero, -⟩ :=
    applyBackup_eq_ok_iff.1 hcall
  obtain ⟨new, rfl, hm⟩ := merged_of_merge hmerge
  obtain ⟨hlength, -⟩ := ensureLocalKeyFiles_trimmed hadded
  rw [List.drop_left, ← hzero] at hlength
  obtain rfl := List.length_eq_zero_iff.1 hlength.symm
  intro raw hraw
  obtain ⟨u, hu, hsame⟩ := hm.found raw hraw
  rw [List.append_nil] at hu
  obtain ⟨t, ht, htu⟩ := exists_of_forall₂ (mapM_eq_ok_iff.1 hportable).flip hu
  exact ⟨t, ht, u, htu, hsame⟩

theorem repeatable_of_hasRoute {raw : Tunnel} {s₀ : BackupState P S A} {added : List Tunnel}
    (hstored : s.store.stored = (connections s₀.store.stored ++ added).filter Tunnel.isAvailable)
    (hadded : ∀ u ∈ added, trimmedKey u.encryptionKey = u.encryptionKey)
    (h : HasRoute d s raw) : Repeatable s₀ raw := by
  obtain ⟨t, ht, u, htu, hsame⟩ := h
  obtain ⟨htransport, hkey, hpayload⟩ := sameRoute_iff.1 hsame
  have htransport' : t.transportType = raw.transportType :=
    (prepareForExport_transportType htu).symm.trans htransport
  have htrimmed : ∀ key, trimmedKey (some key) = some key → trim key = key ∧ key ≠ "" := by
    intro key h
    obtain ⟨heq, hne⟩ := Option.filter_eq_some_iff.1 h
    exact ⟨Option.some.inj heq, by simpa using hne⟩
  have hnone : ∀ key, trimmedKey (some key) = none → trim key = "" := by
    intro key h
    simpa [trimmedKey] using h
  refine ⟨?_, fun key hraw => ?_, fun key hraw hblank hdirect => ?_⟩
  · rw [Tunnel.isAvailable, ← htransport']
    exact isAvailable_of_mem_connections ht
  · rcases prepareForExport_cases htu with ⟨rfl, hempty⟩ | ⟨key', rfl, htrim⟩
    · rw [hkey, hraw] at hempty
      exact Or.inr (hnone key hempty)
    · obtain rfl : key' = key := Option.some.inj (hkey.trans hraw)
      exact Or.inl (htrimmed key' htrim).1
  · rcases prepareForExport_cases htu with ⟨rfl, -⟩ | ⟨key', rfl, htrim⟩
    · have hdirect' : isDirect u = false := by
        rwa [isDirect, htransport']
      have hmem := mem_connections_of_not_direct hdirect' ht
      rw [hstored] at hmem
      rcases List.mem_append.1 (List.mem_filter.1 hmem).1 with hold | hnew
      · exact ⟨u, hold, hsame⟩
      · -- a tunnel that was added has no blank key
        have htrim := hadded u hnew
        rw [hkey, hraw] at htrim
        obtain ⟨heq, hne⟩ := htrimmed key htrim
        exact absurd (heq.symm.trans hblank) hne
    · obtain rfl : key' = key := Option.some.inj (hkey.trans hraw)
      obtain ⟨heq, hne⟩ := htrimmed key' htrim
      exact absurd (heq.symm.trans hblank) hne

end ConfigBackupManager

namespace ConfigBackupManager

def newPhone : Device where
  filesDir := "/data/user/0/io.github.libreroute/files"
  canonicalDir := "/data/user/0/io.github.libreroute/files"
  canonicalFile := .ok
  own_files _ := rfl

/-- The checks of an application in which no site and no application has a route of its own. -/
def plainLibraries : BackupLibraries Unit Unit Unit where
  validateProfiles _ := .ok ()
  validateSites _ _ := .ok ()
  validateApps _ _ := .ok ()
  isValidRule _ := false
  isValidDomain _ := false
  lines text := split text '\n'

def newState : BackupState Unit Unit Unit where
  store := { stored := [create], selectedPreference := none }
  files := ⟨fun _ => none⟩
  profiles := .ok ()
  sites := .ok ()
  apps := .ok ()

/-- A local connection as another phone exports it, on which QUIC is not blocked. -/
def otherDirect : Tunnel :=
  { create with
    transportConnPayload :=
      ["--role=client", "--transport", TransportType.directDpi.cliName, "--dpi-block-quic=false"] }

def otherBackup : LibreRouteBackup Unit Unit Unit := { tunnels := [otherDirect] }

def renamed (id : Int) (suffix : String) : Tunnel :=
  { otherDirect with id := id, name := otherDirect.name ++ " (импорт " ++ suffix ++ ")" }

def restoredState : BackupState Unit Unit Unit :=
  withPreferences otherBackup (withTunnels newState
    [create, { renamed 1 "2" with encryptionKey := none }]
    (newState.files.put (newPhone.keyFile 1) none))

theorem apply_otherBackup :
    (applyBackup plainLibraries newPhone otherBackup (fun _ => 1) 2).exec newState =
      (.ok 1, restoredState) :=
  applyBackup_eq_ok_iff.2 ⟨(), [create], [create, renamed 1 "2"],
    [{ renamed 1 "2" with encryptionKey := none }], _, rfl, rfl, by decide, rfl, rfl, rfl, rfl⟩

theorem connections_restoredState :
    connections restoredState.store.stored =
      [create, { renamed 1 "2" with encryptionKey := none }] := by
  rw [restoredState, stored_withTunnels]
  decide

end ConfigBackupManager

namespace ConfigBackupManager

def keyedTunnel : Tunnel where
  id := 5
  name := "Дом"
  transportType := "yandex"
  transportConnPayload := ["--role=client", "--transport", "yandex", "--encryption-key-file",
    "/data/user/0/io.github.libreroute/files/key_5.txt"]
  encryptionKey := some "a1b2"

theorem restorable_keyedTunnel :
    Restorable newPhone newState.files ([keyedTunnel].map Tunnel.id) keyedTunnel where
  available := by decide
  key := by decide
  keyless h := absurd h nofun
  route := rfl
  direct h := absurd h (by decide)

end ConfigBackupManager

end LibreRoute.Tunnels
