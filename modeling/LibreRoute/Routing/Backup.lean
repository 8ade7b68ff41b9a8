import LibreRoute.Routing.IpRules
import LibreRoute.Routing.Models
import LibreRoute.Tunnels.Backup

/-!
Restoring a backup with all that it holds.

The first part of the call checks, the second writes the tunnels, the
preferences, the profiles and the rules. Some of the writers check again, each
in its own way. What they check follows from the first part, so a call that
fails has written nothing.
-/

namespace LibreRoute.Routing

open Lib Tunnels ConfigBackupManager IpRulesPreferences
open Admin (Throwable)
open Bridge (NameLibrary cleanDomain isValidDomain)

inductive ProxyRoutingMode
  | allTunnel
  | rules
  deriving DecidableEq

def ProxyRoutingMode.cliValue : ProxyRoutingMode → String
  | .allTunnel => "all_tunnel"
  | .rules => "rules"

/-- The preferences that were written, of those a backup writes. -/
structure SplitTunnelPreferences where
  mode : Option String := none
  isEnabled : Option Bool := none
  bypassApps : Option (Finset String) := none
  proxyApps : Option (Finset String) := none

structure DomainRulesPreferences where
  mode : Option Int := none
  domains : Finset String := ∅

def DomainRulesPreferences.setDomains (N : NameLibrary) (value : Finset String)
    (p : DomainRulesPreferences) : DomainRulesPreferences :=
  { p with domains :=
      (value.image (cleanDomain N)).filter fun domain => isValidDomain N domain = true }

def DomainRulesPreferences.addPreset (N : NameLibrary) (preset : Finset String)
    (p : DomainRulesPreferences) : DomainRulesPreferences :=
  p.setDomains N (p.domains ∪
    (preset.image (cleanDomain N)).filter fun domain => isValidDomain N domain = true)

abbrev Stores := BackupState ZapretProfileState SiteRoutingState AppRoutingState

structure AppState where
  stores : Stores
  splitPrefs : SplitTunnelPreferences := {}
  domainPrefs : DomainRulesPreferences := {}
  ipRules : Finset String := ∅
  proxyRoutingMode : Option String := none

/-! ### The call -/

structure LibreRouteBackup extends
    Tunnels.LibreRouteBackup ZapretProfileState SiteRoutingState AppRoutingState where
  splitEnabled : Option Bool := none
  bypassApps : List String := []
  proxyApps : List String := []
  proxyRoutingMode : ProxyRoutingMode := .allTunnel

def backupLibraries (N : NameLibrary) (A : AddressLibrary) :
    BackupLibraries ZapretProfileState SiteRoutingState AppRoutingState where
  validateProfiles := ZapretProfileState.validate
  validateSites sites profiles := sites.validate N profiles
  validateApps apps profiles := apps.validate profiles
  isValidRule := IpRulesPreferences.isValid A
  isValidDomain := isValidDomain N
  lines := Lib.lines

@[simp] theorem backupLibraries_isValidRule (N : NameLibrary) (A : AddressLibrary) :
    (backupLibraries N A).isValidRule = isValid A := by
  rw [backupLibraries]

@[simp] theorem backupLibraries_lines (N : NameLibrary) (A : AddressLibrary) :
    (backupLibraries N A).lines = Lib.lines := by
  rw [backupLibraries]

/-- Runs an operation on the tunnels, the profiles and the rules. -/
def onStores {α : Type} (m : Prog Throwable Stores α) : Prog Throwable AppState α :=
  Prog.zoom AppState.stores (fun stores s => { s with stores := stores }) m

def putPart {α : Type} (part : Option α) (set : α → AppState → AppState) :
    Prog Throwable AppState Unit :=
  match part with
  | none => pure ()
  | some value => Prog.write (set value)

section Call

variable (N : NameLibrary) (A : AddressLibrary) (d : Device) (backup : LibreRouteBackup)

def restoreSplit : Prog Throwable AppState Unit := do
  putPart backup.splitTunnelMode fun mode s =>
    { s with splitPrefs := { s.splitPrefs with mode := some mode } }
  putPart backup.splitEnabled fun enabled s =>
    { s with splitPrefs := { s.splitPrefs with isEnabled := some enabled } }
  Prog.when (decide (2 ≤ backup.version) || ! backup.bypassApps.isEmpty) (Prog.write fun s =>
    { s with splitPrefs := { s.splitPrefs with bypassApps := some backup.bypassApps.toFinset } })
  Prog.when (decide (2 ≤ backup.version) || ! backup.proxyApps.isEmpty) (Prog.write fun s =>
    { s with splitPrefs := { s.splitPrefs with proxyApps := some backup.proxyApps.toFinset } })

def restoreDomains : Prog Throwable AppState Unit := do
  putPart backup.domainMode fun mode s =>
    { s with domainPrefs := { s.domainPrefs with mode := some mode } }
  if 2 ≤ backup.version then
    Prog.write fun s =>
      { s with domainPrefs := s.domainPrefs.setDomains N backup.domains.toFinset }
  else
    Prog.when (! backup.domains.isEmpty) (Prog.write fun s =>
      { s with domainPrefs := s.domainPrefs.addPreset N backup.domains.toFinset })

def restoreIpRules : Prog Throwable AppState Unit :=
  Prog.when (decide (2 ≤ backup.version)) do
    let accepted ← Prog.call fun s =>
      let updated := IpRulesPreferences.update A (joinToString backup.ipRules "\n") s.ipRules
      (updated.1, { s with ipRules := updated.2 })
    Prog.require accepted (Throwable.illegalArgument "Invalid IP rules in backup")

def restorePreferences (effectiveProfiles : ZapretProfileState) :
    Prog Throwable AppState Unit := do
  restoreSplit backup
  restoreDomains N backup
  restoreIpRules A backup
  onStores (storePart backup.zapretProfiles ZapretProfileState.validate fun profiles s =>
    { s with profiles := .ok profiles })
  onStores (storePart backup.siteRouting (SiteRoutingState.validate N · effectiveProfiles)
    fun sites s => { s with sites := .ok sites })
  onStores (storePart backup.appRouting (AppRoutingState.validate · effectiveProfiles)
    fun apps s => { s with apps := .ok apps })
  Prog.write fun s => { s with proxyRoutingMode := some backup.proxyRoutingMode.cliValue }

def applyBackup (newId : Nat → Int) (fuel : Nat) : Prog Throwable AppState Nat := do
  let effectiveProfiles ← Prog.read fun s =>
    checked (backupLibraries N A) backup.toLibreRouteBackup s.stores
  let effectiveProfiles ← Prog.ofExcept effectiveProfiles
  let added ← onStores (addTunnels d backup.toLibreRouteBackup newId fuel)
  restorePreferences N A backup effectiveProfiles
  pure added.length

end Call

/-! ### What the preferences become -/

variable {profiles : ZapretProfileState}

section Restored

variable (N : NameLibrary) (A : AddressLibrary) (backup : LibreRouteBackup) (s : AppState)

def SplitTunnelPreferences.restored (p : SplitTunnelPreferences) : SplitTunnelPreferences where
  mode := backup.splitTunnelMode <|> p.mode
  isEnabled := backup.splitEnabled <|> p.isEnabled
  bypassApps :=
    if (decide (2 ≤ backup.version) || ! backup.bypassApps.isEmpty) = true then
      some backup.bypassApps.toFinset
    else p.bypassApps
  proxyApps :=
    if (decide (2 ≤ backup.version) || ! backup.proxyApps.isEmpty) = true then
      some backup.proxyApps.toFinset
    else p.proxyApps

/-- A backup of the first version adds its domains to those that are there. -/
def DomainRulesPreferences.restored (p : DomainRulesPreferences) : DomainRulesPreferences :=
  let withMode : DomainRulesPreferences := { p with mode := backup.domainMode <|> p.mode }
  if 2 ≤ backup.version then withMode.setDomains N backup.domains.toFinset
  else if (! backup.domains.isEmpty) = true then withMode.addPreset N backup.domains.toFinset
  else withMode

def AppState.restored : AppState where
  stores := withPreferences backup.toLibreRouteBackup s.stores
  splitPrefs := s.splitPrefs.restored backup
  domainPrefs := s.domainPrefs.restored N backup
  ipRules :=
    if 2 ≤ backup.version then
      (IpRulesPreferences.update A (joinToString backup.ipRules "\n") s.ipRules).2
    else s.ipRules
  proxyRoutingMode := some backup.proxyRoutingMode.cliValue

variable {N A backup s}

theorem putPart_exec {α : Type} (part : Option α) (set : α → AppState → AppState) :
    (putPart part set).exec s = (.ok (), part.elim s (set · s)) := by
  cases part with
  | none => exact exec_pure _ _
  | some value => exact exec_write _ _

theorem restoreSplit_exec :
    (restoreSplit backup).exec s =
      (.ok (), { s with splitPrefs := s.splitPrefs.restored backup }) := by
  simp only [restoreSplit, exec_bind, putPart_exec, exec_when, exec_write]
  unfold SplitTunnelPreferences.restored
  cases backup.splitTunnelMode <;> cases backup.splitEnabled <;> split_ifs <;> rfl

theorem restoreDomains_exec :
    (restoreDomains N backup).exec s =
      (.ok (), { s with domainPrefs := s.domainPrefs.restored N backup }) := by
  unfold restoreDomains DomainRulesPreferences.restored
  rw [exec_bind, putPart_exec]
  split_ifs with hversion hdomains
  · cases backup.domainMode <;> exact exec_write _ _
  · rw [hdomains]
    cases backup.domainMode <;> exact exec_write _ _
  · rw [Bool.not_eq_true] at hdomains
    rw [hdomains]
    cases backup.domainMode <;> exact exec_pure _ _

theorem restoreIpRules_exec (hA : RejectsBreaks A)
    (hrules : backup.ipRules.all (isValid A) = true) :
    (restoreIpRules A backup).exec s = (.ok (), { s with ipRules :=
        if 2 ≤ backup.version then
          (update A (joinToString backup.ipRules "\n") s.ipRules).2
        else s.ipRules }) := by
  unfold restoreIpRules
  rw [exec_when]
  by_cases hversion : 2 ≤ backup.version
  · simp [hversion, update_joined hA hrules]
  · simp [hversion]

theorem all_isValid_of_checked {stores : Stores}
    (h : checked (backupLibraries N A) backup.toLibreRouteBackup stores = .ok profiles) :
    backup.ipRules.all (isValid A) = true := by
  simp only [checked, bind_eq_ok, require_eq_ok, backupLibraries_isValidRule] at h
  obtain ⟨_, -, _, -, _, -, _, -, _, -, _, -, _, -, _, hrules, -⟩ := h
  exact hrules

theorem restorePreferences_exec (hA : RejectsBreaks A) {stores : Stores}
    (h : checked (backupLibraries N A) backup.toLibreRouteBackup stores = .ok profiles) :
    (restorePreferences N A backup profiles).exec s = (.ok (), s.restored N A backup) := by
  obtain ⟨hprofiles, hsites, happs⟩ := validate_of_checked h
  replace hprofiles : ∀ p, backup.zapretProfiles = some p → p.validate = .ok () := hprofiles
  replace hsites : ∀ sites, backup.siteRouting = some sites →
      SiteRoutingState.validate N sites profiles = .ok () := hsites
  replace happs : ∀ apps, backup.appRouting = some apps →
      AppRoutingState.validate apps profiles = .ok () := happs
  have hrules := all_isValid_of_checked h
  simp only [restorePreferences, exec_bind, restoreSplit_exec, restoreDomains_exec,
    restoreIpRules_exec hA hrules, onStores, exec_zoom, exec_write,
    storePart_exec _ hprofiles, storePart_exec _ hsites,
    storePart_exec _ happs]
  unfold AppState.restored withPreferences
  cases backup.zapretProfiles <;> cases backup.siteRouting <;> cases backup.appRouting <;> rfl

end Restored

section Whole

variable {N : NameLibrary} {A : AddressLibrary} {d : Device} {backup : LibreRouteBackup}
  {newId : Nat → Int} {fuel : Nat} {s : AppState} {stores : Stores}

theorem acceptsRules_of_checked (hA : RejectsBreaks A)
    (hchecked : checked (backupLibraries N A) backup.toLibreRouteBackup stores = .ok profiles) :
    acceptsRules (backupLibraries N A) backup.toLibreRouteBackup = true := by
  have hfilter : ∀ l : List String, l.filter (· != "") = l.filter (! ·.isEmpty) := fun l =>
    List.filter_congr fun text _ => by rw [bne, Bool.eq_iff_iff]; simp
  have hentries : acceptsRules (backupLibraries N A) backup.toLibreRouteBackup =
      (entries (joinToString backup.ipRules "\n")).all (isValid A) := by
    rw [acceptsRules, hfilter, entries, backupLibraries_isValidRule, backupLibraries_lines]
  rw [hentries, List.all_eq_true]
  exact fun entry hentry =>
    isValid_of_mem_entries hA (all_isValid_of_checked hchecked) hentry

/-- Both calls return the same and leave the same in the common stores. -/
theorem applyBackup_exec (hA : RejectsBreaks A) :
    (applyBackup N A d backup newId fuel).exec s =
      match (ConfigBackupManager.applyBackup (backupLibraries N A) d backup.toLibreRouteBackup
          newId fuel).exec s.stores with
      | (.ok n, stores) => (.ok n, { s.restored N A backup with stores := stores })
      | (.error e, stores) => (.error e, { s with stores := stores }) := by
  rcases hchecked : checked (backupLibraries N A) backup.toLibreRouteBackup s.stores with
    e | profiles
  · simp [applyBackup, ConfigBackupManager.applyBackup, hchecked]
  · have hrules : (decide (backup.version < 2) || acceptsRules
        (backupLibraries N A) backup.toLibreRouteBackup) = true := by
      rw [acceptsRules_of_checked hA hchecked, Bool.or_true]
    simp only [applyBackup, ConfigBackupManager.applyBackup, exec_bind, exec_read, exec_ofExcept,
      hchecked, onStores, exec_zoom]
    rcases (addTunnels d backup.toLibreRouteBackup newId fuel).exec s.stores with ⟨e | added, t⟩
    · rfl
    · simp only [restorePreferences_exec hA hchecked, ConfigBackupManager.restorePreferences_exec
        hchecked hrules, exec_pure]
      rfl

end Whole

/-! ### A call that fails -/

section Failure

variable {d : Device} {fs : FileSystem} {t : Tunnel}

def Resolves (d : Device) : Prop := ∀ path, ∃ file, d.canonicalFile path = .ok file

theorem localKey_ok (hd : Resolves d) (fs : FileSystem) (t : Tunnel) :
    ∃ key, localKey d fs t = .ok key := by
  unfold localKey
  split
  · exact ⟨none, rfl⟩
  split
  · next key _ => exact ⟨some key, rfl⟩
  cases keyFileArgument t.transportConnPayload with
  | none => exact ⟨_, rfl⟩
  | some path =>
    obtain ⟨file, hfile⟩ := hd path
    dsimp only
    rw [hfile]
    rw [ok_bind, pure_bind]
    split
    · exact ⟨_, rfl⟩
    · exact ⟨_, rfl⟩

theorem ensureLocalKeyFile_returns (hd : Resolves d) (t : Tunnel) :
    (ensureLocalKeyFile d t).Returns := by
  intro fs
  obtain ⟨key, hkey⟩ := localKey_ok hd fs t
  rw [ensureLocalKeyFile_exec, hkey]
  exact ⟨_, _, rfl⟩

theorem prepareForExport_ok (hd : Resolves d) (fs : FileSystem) (tunnels : List Tunnel) :
    ∃ portable, tunnels.mapM (prepareForExport d fs) = .ok portable :=
  exists_mapM_ok fun _ _ => prepareForExport_ok_iff.2 fun _ _ => hd _

end Failure

theorem applyBackup_stores_ok {N : NameLibrary} {A : AddressLibrary} {d : Device}
    {backup : LibreRouteBackup} {newId : Nat → Int} {fuel : Nat} {stores : Stores}
    (hA : RejectsBreaks A) (hd : Resolves d) (hended : ∀ portable,
      (connections stores.store.stored).mapM (prepareForExport d stores.files) = .ok portable →
      (BackupMerge.merge newId fuel portable backup.tunnels).isSome = true)
    (hchecked : checked (backupLibraries N A) backup.toLibreRouteBackup stores = .ok profiles) :
    ∃ n stores', (ConfigBackupManager.applyBackup (backupLibraries N A) d backup.toLibreRouteBackup
      newId fuel).exec stores = (.ok n, stores') := by
  obtain ⟨portable, hportable⟩ :=
    prepareForExport_ok hd stores.files (connections stores.store.stored)
  obtain ⟨merged, hmerged⟩ := Option.isSome_iff_exists.1 (hended portable hportable)
  obtain ⟨added, files, hadded⟩ := returns_mapEach (ensureLocalKeyFile_returns hd) stores.files
  have hrules : (decide (backup.version < 2) || acceptsRules
      (backupLibraries N A) backup.toLibreRouteBackup) = true := by
    rw [acceptsRules_of_checked hA hchecked, Bool.or_true]
  exact ⟨_, _, applyBackup_eq_ok_iff.2
    ⟨profiles, portable, merged, added, files, hchecked, hportable, hmerged, hadded, hrules, rfl,
    rfl⟩⟩

/-- A call that fails has failed in its checks, and nothing was written. -/
theorem applyBackup_all_or_nothing (N : NameLibrary) (A : AddressLibrary) (d : Device)
    (backup : LibreRouteBackup) (newId : Nat → Int) (fuel : Nat) (s s' : AppState) (e : Throwable)
    (hA : RejectsBreaks A) (hd : Resolves d)
    (hended : ∀ portable,
      (connections s.stores.store.stored).mapM (prepareForExport d s.stores.files) = .ok portable →
      (BackupMerge.merge newId fuel portable backup.tunnels).isSome = true)
    (hfail : (applyBackup N A d backup newId fuel).exec s = (.error e, s')) :
    checked (backupLibraries N A) backup.toLibreRouteBackup s.stores = .error e ∧ s' = s := by
  rcases hchecked : checked (backupLibraries N A) backup.toLibreRouteBackup s.stores with
    e' | profiles
  · rw [applyBackup, exec_bind, exec_read, hchecked] at hfail
    dsimp only at hfail
    rw [exec_bind, exec_ofExcept] at hfail
    obtain ⟨herror, hstate⟩ := Prod.mk.inj hfail
    exact ⟨congrArg Except.error (Except.error.inj herror), hstate.symm⟩
  · obtain ⟨n, stores', hok⟩ := applyBackup_stores_ok hA hd hended hchecked
    rw [applyBackup_exec hA, hok] at hfail
    cases hfail

/-- The parser of a new phone, asked about one network. -/
def newAddresses : AddressLibrary where
  sdk := 34
  parseNumericAddress text := if text == "192.0.2.0" then some .inet4 else none
  getByName _ := none
  digit c := if c.isDigit then some (c.toNat - 48) else none
  digit_break c h := by
    rw [isBreak, Bool.or_eq_true, beq_iff_eq, beq_iff_eq] at h
    rcases h with rfl | rfl <;> rfl

/-- The application after its first start. -/
def newApp : AppState where
  stores :=
    { store := { stored := [DirectDpiProfile.create] }
      files := ⟨fun _ => none⟩
      profiles := .ok {}
      sites := .ok {}
      apps := .ok {} }

/-- A backup with a network and a name where an address should be. -/
def namedAddress : LibreRouteBackup where
  ipRules := [" 192.0.2.0/24\r\n", "router.local"]

theorem namedAddress_changes_nothing :
    IpRulesPreferences.isValid newAddresses " 192.0.2.0/24\r\n" = true ∧
      ∃ e s', (applyBackup Bridge.plainNames newAddresses ConfigBackupManager.newPhone namedAddress
          (fun _ => 1) 1).exec newApp = (.error e, s') ∧
        e = .illegalArgument "Некорректные IP-правила в резервной копии" ∧ s' = newApp := by
  have hA : RejectsBreaks newAddresses := by
    intro text hbreak
    have hne : text ≠ "192.0.2.0" := by
      rintro rfl
      exact absurd hbreak (by decide)
    simp [newAddresses, hne]
  have hchecked : checked (backupLibraries Bridge.plainNames newAddresses)
      namedAddress.toLibreRouteBackup newApp.stores =
        .error (.illegalArgument "Некорректные IP-правила в резервной копии") := by
    rfl
  have hfail : (applyBackup Bridge.plainNames newAddresses newPhone namedAddress
      (fun _ => 1) 1).exec newApp =
        (.error (.illegalArgument "Некорректные IP-правила в резервной копии"), newApp) := by
    simp [applyBackup, hchecked]
  refine ⟨by decide, _, _, hfail, rfl, ?_⟩
  exact (applyBackup_all_or_nothing _ _ _ _ _ _ _ _ _ hA (fun path => ⟨path, rfl⟩)
    (fun _ _ => rfl) hfail).2

end LibreRoute.Routing
