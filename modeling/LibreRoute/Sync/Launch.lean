import LibreRoute.Sync.Replay

/-!
Starting a managed tunnel.

`startTunnelInternal` sends the id of a tunnel to a service, which takes a
negative number for a missing id and binds the channel state and the
administrator's carrier to what it takes. A tunnel whose id was taken when it
was stored has a substitute, counted down from a digest, and only a digest of
zero gives one that a service takes. The native program and its configuration
are left out, and with them all that may keep it from starting.
-/

namespace LibreRoute.Sync

open Lib Tunnels
open Admin (Throwable)
open DirectDpiProfile (create)
open Tunnel (isAvailable)

structure LaunchSettings where
  proxyOnlyMode : Bool := false
  splitEnabled : Bool := false
  appBypass : Bool := false
  bypassApps : List String := []
  proxyApps : List String := []

namespace LaunchSettings

variable (settings : LaunchSettings)

def selectedApps : List String :=
  if settings.splitEnabled then
    if settings.appBypass then settings.bypassApps else settings.proxyApps
  else []

/-- Only chosen applications are to use the tunnel, and none is chosen. -/
def refuses : Bool :=
  ! settings.proxyOnlyMode && settings.splitEnabled && ! settings.appBypass &&
    settings.selectedApps.isEmpty

end LaunchSettings

inductive ServiceClass
  | socksVpnService
  | libreRouteProxyService
  deriving DecidableEq, Repr

structure StartIntent where
  service : ServiceClass
  tunnelId : Option Int
  transportType : Option String

/-- `getLongExtra(INTENT_TUNNEL_ID, -1L).takeIf { it >= 0 }`. -/
def StartIntent.takenId (intent : StartIntent) : Option Int :=
  let id := intent.tunnelId.getD (-1)
  if 0 ≤ id then some id else none

def startIntent (settings : LaunchSettings) (prepared : Tunnel) : StartIntent where
  service := if settings.proxyOnlyMode then .libreRouteProxyService else .socksVpnService
  tunnelId := some prepared.id
  transportType := some prepared.transportType

def startTunnelInternal (d : Device) (settings : LaunchSettings) (t : Tunnel) :
    Prog Throwable FileSystem (Option StartIntent) := do
  let prepared ← ensureLocalKeyFile d t
  pure (if settings.refuses then none else some (startIntent settings prepared))

structure ChannelSnapshot where
  tunnelId : Option Int := none
  running : Bool := false

structure AdminCarrier where
  transport : String
  serverId : Option String := none
  bindingKey : Option String := none

structure CarrierLibraries where
  digest : String → String
  encodePayload : List String → String
  server : String → Option String

section Services

variable (K : CarrierLibraries)

def carrierBindingKey (t : Tunnel) : String :=
  K.digest (t.transportType ++ "\x00" ++ t.encryptionKey.getD "" ++ "\x00" ++
    K.encodePayload t.transportConnPayload)

/-- The server and the binding of the tunnel with an id, from the tunnels that are stored. -/
def adminCarrierBinding (tunnels : List Tunnel) (tunnelId : Option Int) :
    Option String × Option String :=
  match tunnels.find? fun t => some t.id == tunnelId with
  | none => (none, none)
  | some t =>
    let binding := carrierBindingKey K t
    (t.serverId <|> K.server binding, some binding)

structure NativeProcess where
  activeTunnelId : Option Int := none
  channel : ChannelSnapshot := {}
  activeAdminCarrier : Option AdminCarrier := none

def carrierTransports : List String :=
  ["vyandex", "yandex", "jazz", "jitsi", "mqtt", "channel-group"]

def cliTransport (transportType : String) : String :=
  ((TransportType.fromOrNull transportType).map (·.cliName)).getD transportType

/-- The start of an idle program, with the tunnels that are stored. -/
def NativeProcess.start (p : NativeProcess) (tunnels : List Tunnel) (transportType : String)
    (tunnelId : Option Int) : NativeProcess :=
  let transport := lowercase (cliTransport transportType)
  let binding := adminCarrierBinding K tunnels tunnelId
  { activeTunnelId := tunnelId
    channel := { tunnelId := tunnelId, running := true }
    activeAdminCarrier :=
      if carrierTransports.contains transport then some ⟨transport, binding.1, binding.2⟩
      else p.activeAdminCarrier }

/-! ### The services -/

structure Services where
  vpnRunning : Bool := false
  currentTransportType : String := ""
  currentTunnelId : Option Int := none
  isProxyRunning : Bool := false
  isProxyStarting : Bool := false
  process : NativeProcess := {}

def Services.idle (s : Services) : Bool := ! (s.vpnRunning || s.isProxyRunning || s.isProxyStarting)

/-- `onStartCommand` of the two services. A start while the service runs is ignored. -/
def Services.onStartCommand (s : Services) (tunnels : List Tunnel) (intent : StartIntent) :
    Services :=
  let transportType := intent.transportType.getD "yandex"
  match intent.service with
  | .socksVpnService =>
    if s.vpnRunning then s
    else
      { s with
        currentTransportType := transportType
        currentTunnelId := intent.takenId
        process := s.process.start K tunnels transportType intent.takenId }
  | .libreRouteProxyService =>
    if s.isProxyRunning || s.isProxyStarting then s
    else
      { s with
        isProxyStarting := true
        process := s.process.start K tunnels transportType intent.takenId }

/-- Everything that belongs to the running tunnel is bound to `t`. -/
structure Services.BoundTo (s : Services) (settings : LaunchSettings) (tunnels : List Tunnel)
    (t : Tunnel) : Prop where
  current : settings.proxyOnlyMode = false → s.currentTunnelId = some t.id
  active : s.process.activeTunnelId = some t.id
  channel : s.process.channel.tunnelId = some t.id
  carrier : tunnels.find? (fun u => some u.id == some t.id) = some t →
    lowercase (cliTransport t.transportType) ∈ carrierTransports →
    s.process.activeAdminCarrier =
      some ⟨lowercase (cliTransport t.transportType),
        t.serverId <|> K.server (carrierBindingKey K t), some (carrierBindingKey K t)⟩

/-- Starting `t` sends an intent unless its key cannot be found or the settings refuse it, and an
idle service binds everything to `t`. -/
structure Recognised (d : Device) (tunnels : List Tunnel) (t : Tunnel) : Prop where
  starts : ∀ settings fs, KeyResolves d t → settings.refuses = false →
    ∃ key fs', (startTunnelInternal d settings t).exec fs =
      (.ok (some (startIntent settings (withLocalKey d t key))), fs')
  bound : ∀ settings key (s : Services), s.idle = true →
    (s.onStartCommand K tunnels (startIntent settings (withLocalKey d t key))).BoundTo K settings
      tunnels t

variable {K} {d : Device} {tunnels : List Tunnel} {t : Tunnel}

theorem startTunnelInternal_starts (settings : LaunchSettings) (fs : FileSystem)
    (hkey : KeyResolves d t) (hsettings : settings.refuses = false) :
    ∃ key fs', (startTunnelInternal d settings t).exec fs =
      (.ok (some (startIntent settings (withLocalKey d t key))), fs') := by
  obtain ⟨key, fs', -, hexec⟩ := ensureLocalKeyFile_ok hkey fs
  refine ⟨key, fs', ?_⟩
  simp [startTunnelInternal, exec_bind, hexec, hsettings]

theorem startIntent_takenId (settings : LaunchSettings) (key : Option String) :
    (startIntent settings (withLocalKey d t key)).takenId = if 0 ≤ t.id then some t.id else none :=
  rfl

theorem onStartCommand_process {s : Services} (h : s.idle = true) (intent : StartIntent) :
    (s.onStartCommand K tunnels intent).process =
      s.process.start K tunnels (intent.transportType.getD "yandex") intent.takenId := by
  simp only [Services.idle, Bool.not_eq_true', Bool.or_eq_false_iff] at h
  obtain ⟨⟨hvpn, hrunning⟩, hstarting⟩ := h
  unfold Services.onStartCommand
  cases intent.service with
  | socksVpnService => simp [hvpn]
  | libreRouteProxyService => simp [hrunning, hstarting]

theorem onStartCommand_currentTunnelId {s : Services} (h : s.idle = true) {intent : StartIntent}
    (hservice : intent.service = .socksVpnService) :
    (s.onStartCommand K tunnels intent).currentTunnelId = intent.takenId := by
  simp only [Services.idle, Bool.not_eq_true', Bool.or_eq_false_iff] at h
  simp [Services.onStartCommand, hservice, h.1.1]

theorem recognised_iff : Recognised K d tunnels t ↔ 0 ≤ t.id := by
  constructor
  · intro h
    have hactive := (h.bound {} none {} rfl).active
    rw [onStartCommand_process rfl] at hactive
    change (startIntent {} (withLocalKey d t none)).takenId = some t.id at hactive
    rw [startIntent_takenId] at hactive
    by_contra hnegative
    rw [if_neg hnegative] at hactive
    cases hactive
  · intro hid
    refine ⟨fun settings fs => startTunnelInternal_starts settings fs, fun settings key s hs => ?_⟩
    have htaken : (startIntent settings (withLocalKey d t key)).takenId = some t.id := by
      rw [startIntent_takenId, if_pos hid]
    have hprocess :
        (s.onStartCommand K tunnels (startIntent settings (withLocalKey d t key))).process =
        s.process.start K tunnels t.transportType (some t.id) := by
      rw [onStartCommand_process hs, htaken]
      rfl
    constructor
    · intro hproxy
      rw [onStartCommand_currentTunnelId hs (by simp [startIntent, hproxy]), htaken]
    · rw [hprocess]
      rfl
    · rw [hprocess]
      rfl
    · intro hfind htransport
      simp only [hprocess, NativeProcess.start, List.contains_iff_mem.2 htransport, if_true,
        adminCarrierBinding, hfind]

end Services

/-! ### The ids that are given -/

section Given

variable (L : SyncLibraries) (c : String)

/-- Every incoming tunnel has an id that is not negative and that no tunnel that stays has, or
else its digest is zero and zero is free. -/
def AcceptedIds : List Tunnel → List Tunnel → Prop
  | _, [] => True
  | current, t :: incoming =>
    let others := without current t
    if others.any (·.id == t.id) then
      L.idDigest (c ++ t.text) = 0 ∧ isTaken others t 0 = false ∧
        AcceptedIds (without others { t with id := 0 }) incoming
    else 0 ≤ t.id ∧ AcceptedIds others incoming

variable {L c} {C N : List Tunnel} {t : Tunnel}

theorem substituteId_nonneg_iff :
    0 ≤ substituteId L c C t ↔ L.idDigest (c ++ t.text) = 0 ∧ isTaken C t 0 = false := by
  have hfirst : IsFirstFree (isTaken C t) _ (substituteId L c C t) := substituteId_isFirstFree
  have hdigest := L.idDigest_nonneg (c ++ t.text)
  constructor
  · intro h
    have hle := hfirst.le
    have hzero : substituteId L c C t = 0 := by omega
    refine ⟨by omega, ?_⟩
    rw [← hzero]
    exact hfirst.free
  · rintro ⟨hzero, hfree⟩
    by_contra hnegative
    have htaken := hfirst.above 0 (by omega) (by omega)
    rw [hfree] at htaken
    cases htaken

theorem substituteId_eq_zero (h : 0 ≤ substituteId L c C t) : substituteId L c C t = 0 := by
  have hle := (substituteId_isFirstFree (L := L) (c := c) (C := C) (t := t)).le
  have hdigest := L.idDigest_nonneg (c ++ t.text)
  omega

theorem without_without_self (tunnels : List Tunnel) (t : Tunnel) :
    without (without tunnels t) t = without tunnels t := by
  simp [without, List.filter_filter]

theorem givens_nonneg_iff : (∀ g ∈ givens L c C N, 0 ≤ g.id) ↔ AcceptedIds L c C N := by
  induction N generalizing C with
  | nil => simp [givens, AcceptedIds]
  | cons t N ih =>
    rw [givens, List.forall_mem_cons, AcceptedIds]
    by_cases hclash : (without C t).any (·.id == t.id) = true
    · have hgiven : given L c (without C t) t =
          { t with id := substituteId L c (without C t) t } :=
            given_of_clash (by simpa using hclash)
      rw [if_pos hclash, hgiven, ih]
      constructor
      · rintro ⟨hid, hrest⟩
        rw [substituteId_eq_zero hid] at hrest
        exact ⟨(substituteId_nonneg_iff.1 hid).1, (substituteId_nonneg_iff.1 hid).2, hrest⟩
      · rintro ⟨hdigest, hfree, hrest⟩
        have hid := substituteId_nonneg_iff.2 ⟨hdigest, hfree⟩
        refine ⟨hid, ?_⟩
        rwa [substituteId_eq_zero hid]
    · have hgiven : given L c (without C t) t = t := given_of_no_clash (by simpa using hclash)
      rw [if_neg hclash, hgiven, without_without_self, ih]

theorem forall_managed_iff {s s' : SyncState} {newTunnels : List Tunnel}
    (h : (updateManagedTunnels L c newTunnels).exec s = (.ok (), s')) (P : Int → Prop) :
    (∀ t ∈ s'.store.stored, t.id ∈ s'.managedTunnelIds c → P t.id) ↔
      ∀ g ∈ givens L c (s.others c) (newTunnels.filter isAvailable), P g.id := by
  by_cases hkeys : ∀ t ∈ newTunnels.filter isAvailable, KeyResolves L.device t
  swap
  · obtain ⟨e, files, hexec⟩ := updateManagedTunnels_error hkeys
    rw [hexec] at h
    cases h
  obtain ⟨prepared, files, selected, hexec, hprepared⟩ := updateManagedTunnels_ok hkeys
  obtain ⟨-, hs'⟩ := Prod.mk.inj (hexec.symm.trans h)
  have hids : ∀ id, id ∈ s'.managedTunnelIds c ↔
      id ∈ (givens L c (s.others c) (newTunnels.filter isAvailable)).map (·.id) := by
    intro id
    rw [← hprepared.ids, ← hs']
    simp [SyncState.managedTunnelIds, Entry.asIds, List.mem_eraseDups]
  constructor
  · intro hP g hg
    obtain ⟨p, hp, hid⟩ := List.mem_map.1 (hprepared.ids ▸ List.mem_map_of_mem hg)
    rw [← hid]
    refine hP p (hs' ▸ List.mem_append_right _ hp) ((hids _).2 ?_)
    rw [hid]
    exact List.mem_map_of_mem hg
  · intro hP t _ hid
    obtain ⟨g, hg, hid⟩ := List.mem_map.1 ((hids _).1 hid)
    rw [← hid]
    exact hP g hg

end Given

/-- Every tunnel an update stores for its context is recognised when it is started, exactly if
no incoming tunnel has to be given a negative id. -/
theorem managed_recognised_iff (K : CarrierLibraries) (L : SyncLibraries) (c : String)
    (newTunnels : List Tunnel) (s s' : SyncState)
    (h : (updateManagedTunnels L c newTunnels).exec s = (.ok (), s')) :
    (∀ t ∈ s'.store.stored, t.id ∈ s'.managedTunnelIds c →
        Recognised K L.device (connections s'.store.stored) t) ↔
      AcceptedIds L c (s.others c) (newTunnels.filter isAvailable) := by
  simp only [recognised_iff]
  rw [forall_managed_iff h (0 ≤ ·), givens_nonneg_iff]

def phoneCarrier : CarrierLibraries where
  digest _ := "ab8893eba24411a4637ece223f8afe35f4ea7743dc5093148bc510319afca8e2"
  encodePayload payload :=
    "[" ++ String.intercalate "," (payload.map fun argument => "\"" ++ argument ++ "\"") ++ "]"
  server _ := none

theorem office_keyResolves (t : Tunnel) (_ : t ∈ [office].filter isAvailable) :
    KeyResolves (phoneSync 3093772368168959395).device t :=
  phone_keyResolves t

theorem office_recognised :
    ∃ s', (updateManagedTunnels (phoneSync 3093772368168959395) "" [office]).exec
        (phoneState [create]) = (.ok (), s') ∧
      AcceptedIds (phoneSync 3093772368168959395) "" ((phoneState [create]).others "")
        ([office].filter isAvailable) ∧
      ∀ t ∈ s'.store.stored, t.id ∈ s'.managedTunnelIds "" →
        Recognised phoneCarrier phone (connections s'.store.stored) t := by
  obtain ⟨prepared, files, selected, hexec, -⟩ := updateManagedTunnels_ok office_keyResolves
  have haccepted : AcceptedIds (phoneSync 3093772368168959395) "" ((phoneState [create]).others "")
      ([office].filter isAvailable) := by
    have hothers : (phoneState [create]).others "" = [create] :=
      phoneState_others (by simp) (by simp)
    have havailable : [office].filter isAvailable = [office] := by simp
    have hclash : ¬ (without [create] office).any (·.id == office.id) = true := by decide
    rw [hothers, havailable, AcceptedIds, if_neg hclash]
    exact ⟨by decide, trivial⟩
  exact ⟨_, hexec, haccepted, (managed_recognised_iff phoneCarrier _ _ _ _ _ hexec).2 haccepted⟩

/-- The user has a tunnel with the id, so the incoming one is stored with a negative number, which
the service takes for none. -/
theorem substitute_not_recognised :
    ∃ s', (updateManagedTunnels (phoneSync 3093772368168959395) "" [office]).exec
        (phoneState [create, home]) = (.ok (), s') ∧
      materialise phone twin ∈ s'.store.stored ∧
      (materialise phone twin).id ∈ s'.managedTunnelIds "" ∧
      (({} : Services).onStartCommand phoneCarrier (connections s'.store.stored)
        (startIntent {} (materialise phone twin))).currentTunnelId = none ∧
      ¬ Recognised phoneCarrier phone (connections s'.store.stored) (materialise phone twin) := by
  have hprepared := office_isPrepared 3093772368168959395
  obtain ⟨hstored, hids⟩ := update_eq hprepared
  obtain ⟨prepared, files, selected, hexec, -⟩ := updateManagedTunnels_ok office_keyResolves
  rw [hexec] at hstored hids
  refine ⟨_, hexec, ?_, ?_, rfl, ?_⟩
  · rw [hstored, storedAfter, home_givens]
    exact List.mem_append_right _ List.mem_cons_self
  · rw [SyncState.managedTunnelIds, hids, SyncState.givens, home_givens]
    exact List.mem_eraseDups.2 List.mem_cons_self
  · rw [recognised_iff]
    decide

end LibreRoute.Sync
