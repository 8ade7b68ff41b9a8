import LibreRoute.Admin.Recorded
import LibreRoute.Admin.Runs

/-!
Whether giving up all rights leaves none.

`revokeAdminRights` works from the list of nodes and the active grant. A
server that is in neither may still have a grant under its own keys, and
that grant survives: it is `Forgotten`. The main result says that this is
the only way in which a right outlives the revocation.
-/

namespace LibreRoute.Admin

open LibreRoute.Lib StorageKey

variable {P : Platform} {s : AdminState P} {grant : AdminGrant} {key : StorageKey}

namespace AdminState

/-- The entries of the server itself, without those of the unscoped grant, carry a
grant that is in force now. -/
structure OwnGrant (s : AdminState P) (serverId : String) (grant : AdminGrant)
    (envelope : AdminEnvelope) (pin : String) : Prop where
  grant_eq : s.storedGrant (.keyed .activeGrant serverId) = some grant
  envelope_eq : s.storedEnvelope (.keyed .activeGrantEnvelope serverId) = some envelope
  pin_eq : s.storedText (.keyed .pinnedServerKey serverId) = some pin
  server : grant.serverId = none ∨ grant.serverId = some serverId
  authentic : P.Authentic s.currentTimeSeconds envelope grant pin

def HasOwnGrant (s : AdminState P) (serverId : String) : Prop :=
  ∃ grant envelope pin, s.OwnGrant serverId grant envelope pin

/-- The unscoped grant, if there is one, names another server. -/
def LegacyElsewhere (s : AdminState P) (serverId : String) : Prop :=
  ∀ grant, s.storedGrant (.fixed .activeGrant) = some grant →
    ∃ other, grant.serverId = some other ∧ isBlank other = false ∧ other ≠ serverId

/-- The server has no rights, and only a grant for it can change that. -/
structure Silent (serverId : String) (s : AdminState P) : Prop where
  legacy : s.LegacyElsewhere serverId
  own : isBlank serverId = false → serverId ∈ s.revokedServerIds ∨ ¬ s.HasOwnGrant serverId

variable {serverId : String}

theorem LegacyElsewhere.not_belongs (h : s.LegacyElsewhere serverId) :
    s.legacyGrantBelongsTo serverId = false := by
  unfold legacyGrantBelongsTo
  split
  · rfl
  · next legacy hlegacy =>
      obtain ⟨other, hother, hblank, hne⟩ := h legacy hlegacy
      simp [hother, hblank, hne]

theorem verifiedGrant_iff_own (h : s.LegacyElsewhere serverId) (hnamed : isBlank serverId = false) :
    s.verifiedGrant (some serverId) = some grant ↔
      serverId ∉ s.revokedServerIds ∧ ∃ envelope pin, s.OwnGrant serverId grant envelope pin := by
  have hb := h.not_belongs
  simp only [verifiedGrant_eq_some, candidate_eq_some, Option.getD_some,
    getActiveGrant_scoped hnamed hb, getActiveGrantEnvelope_scoped hnamed hb,
    getPinnedServerPublicKey_scoped hnamed hb, Option.filter_eq_some_iff]
  constructor
  · rintro ⟨envelope, pin, ⟨⟨hg, -⟩, hrevoked, he, ⟨hp, -⟩, hserver, -, -⟩, ha⟩
    refine ⟨hrevoked, envelope, pin, hg, he, hp, ?_, ha⟩
    rcases hid : grant.serverId with _ | id
    · exact .inl rfl
    · right
      simpa [hid] using hserver
  · rintro ⟨hrevoked, envelope, pin, hown⟩
    have hdates := hown.authentic.dates
    refine ⟨envelope, pin, ⟨⟨hown.grant_eq, ?_⟩, hrevoked, hown.envelope_eq,
      ⟨hown.pin_eq, ?_⟩, ?_, hdates.1, hdates.2⟩, hown.authentic⟩
    · rcases hown.server with hid | hid <;> simp [hid]
    · simp [hown.authentic.pin_not_blank]
    · rcases hown.server with hid | hid <;> simp [hid]

theorem Silent.getRole_eq_none (h : s.Silent serverId) : (s.getRole serverId).1 = .none := by
  rw [AdminState.getRole_eq_none, Option.eq_none_iff_forall_ne_some]
  intro grant hgrant
  by_cases hnamed : isBlank serverId = false
  · obtain ⟨hrevoked, hown⟩ := (verifiedGrant_iff_own h.legacy hnamed).1 hgrant
    rcases h.own hnamed with hin | hnone
    · exact hrevoked hin
    · exact hnone ⟨grant, hown⟩
  · -- a blank id reads the unscoped grant, which names another server
    obtain ⟨envelope, pin, hc, -⟩ := verifiedGrant_eq_some.1 hgrant
    obtain ⟨hg, -, -, -, hserver, -, -⟩ := candidate_eq_some.1 hc
    simp only [getActiveGrant, Bool.not_eq_false _ ▸ hnamed, if_true] at hg
    obtain ⟨other, hother, -, hne⟩ := h.legacy grant hg
    exact hserver ⟨rfl, by simp [hother], by simpa [hother] using hne⟩

/-! ### What keeps a server silent -/

theorem Silent.of_entries {s' : AdminState P} {serverId : String} (h : s.Silent serverId)
    (ht : s.currentTimeSeconds ≤ s'.currentTimeSeconds) (hlegacy : s'.LegacyElsewhere serverId)
    (hrevoked : serverId ∈ s.revokedServerIds → serverId ∈ s'.revokedServerIds)
    (hgrant : ∀ grant, s'.storedGrant (.keyed .activeGrant serverId) = some grant →
      s.storedGrant (.keyed .activeGrant serverId) = some grant) (henvelope : ∀ envelope,
      s'.storedEnvelope (.keyed .activeGrantEnvelope serverId) = some envelope →
      s.storedEnvelope (.keyed .activeGrantEnvelope serverId) = some envelope)
    (hpin : ∀ pin, s'.storedText (.keyed .pinnedServerKey serverId) = some pin →
      s.storedText (.keyed .pinnedServerKey serverId) = some pin) : s'.Silent serverId := by
  refine ⟨hlegacy, fun hnamed => (h.own hnamed).imp hrevoked fun hnone => ?_⟩
  rintro ⟨grant, envelope, pin, hown⟩
  have hdates := hown.authentic.dates
  exact hnone ⟨grant, envelope, pin, hgrant _ hown.grant_eq, henvelope _ hown.envelope_eq,
    hpin _ hown.pin_eq, hown.server, hown.authentic.at_time (by omega) (by omega)⟩

/-- A write keeps silence if what it puts under a key of the server does not decode
there, and if the unscoped grant and the revoked set stay as they should be. -/
theorem Silent.put (h : s.Silent serverId) {value : Stored}
    (hgrant : (keyed .activeGrant serverId).text = key.text → value.asGrant = none)
    (henvelope : (keyed .activeGrantEnvelope serverId).text = key.text → value.asEnvelope = none)
    (hpin : (keyed .pinnedServerKey serverId).text ≠ key.text)
    (hlegacy : (fixed .activeGrant).text = key.text → ∀ grant, value.asGrant = some grant → ∃ other, grant.serverId = some other ∧ isBlank other = false ∧ other ≠ serverId)
    (hrevoked : (fixed .revokedServerIds).text = key.text → serverId ∈ s.revokedServerIds → serverId ∈ value.asServerIds.getD []) :
    Silent serverId { s with storage := s.storage.put key value } := by
  refine h.of_entries (Int.le_refl _) ?_ ?_ ?_ ?_ ?_
  · intro grant
    simp only [storedGrant, Storage.get_put]
    split
    · next hk => exact hlegacy hk grant
    · exact h.legacy grant
  · simp only [revokedServerIds, Storage.get_put]
    split
    · next hk => exact hrevoked hk
    · exact id
  · intro grant
    simp only [storedGrant, Storage.get_put]
    split
    · next hk => simp [hgrant hk]
    · exact id
  · intro envelope
    simp only [storedEnvelope, Storage.get_put]
    split
    · next hk => simp [henvelope hk]
    · exact id
  · intro pin
    simp only [storedText, Storage.get_put, if_neg hpin, imp_self]

theorem Silent.remove (h : s.Silent serverId) (hrevoked : (fixed .revokedServerIds).text ≠ key.text) :
    Silent serverId { s with storage := s.storage.remove key } := by
  refine h.of_entries (Int.le_refl _) ?_ ?_ ?_ ?_ ?_
  · intro grant
    simp only [storedGrant, Storage.get_remove]
    split
    · simp
    · exact h.legacy grant
  · simp only [revokedServerIds, Storage.get_remove, if_neg hrevoked, imp_self]
  · intro grant
    simp only [storedGrant, Storage.get_remove]
    split <;> simp
  · intro envelope
    simp only [storedEnvelope, Storage.get_remove]
    split <;> simp
  · intro pin
    simp only [storedText, Storage.get_remove]
    split <;> simp

end AdminState

open AdminState

/-! ### Steps that keep a server silent -/

section Steps

variable {serverId : String} {other : String}

instance : OfStore (Silent serverId : AdminState P → Prop) := by
  refine ⟨fun {s s'} hs hst ht _ => hs.of_entries ?_ ?_ ?_ ?_ ?_ ?_⟩
  · simp [currentTimeSeconds, ht]
  · simpa only [LegacyElsewhere, storedGrant, hst] using hs.legacy
  · simp only [revokedServerIds, hst, imp_self]
  · simp [storedGrant, hst]
  · simp [storedEnvelope, hst]
  · simp [storedText, hst]

/-- The entries no right of a named server rests on. -/
@[reducible] def FixedKey.housekeeping : FixedKey → Bool
  | .managedProfiles | .commandHistory | .serverNodes | .pendingRequest | .lastPairingCode
  | .role | .pinnedServerKey => true
  | _ => false

instance {key : FixedKey} [h : Same key.housekeeping true] :
    Overlooks (Silent serverId : AdminState P → Prop) (.fixed key) := by
  have hkey := h.eq
  refine ⟨fun s value hs => ?_⟩
  rcases value with _ | value
  · refine hs.remove ?_
    cases key <;> simp_all
  · refine hs.put ?_ ?_ ?_ ?_ ?_ <;> cases key <;> simp_all

instance {family : KeyFamily} {id : String} :
    Keeping (Silent serverId) (removeString (.keyed family id) : AdminM P Unit) :=
  ⟨keeps_write fun _ hs => hs.remove (by simp)⟩

theorem putServerGrant_keeps_silent (hne : other ≠ serverId) (grant : AdminGrant)
    (envelope : AdminEnvelope) (key : String) :
    Keeping (Silent serverId) (putServerGrant (some other) grant envelope key : AdminM P Unit) := by
  have hne' : ¬ serverId = other := fun h => hne h.symm
  refine ⟨keeps_when fun _ => keeps_bind (keeps_write fun s hs => hs.put ?_ ?_ ?_ ?_ ?_) fun _ =>
    keeps_bind (keeps_write fun s hs => hs.put ?_ ?_ ?_ ?_ ?_) fun _ =>
      keeps_write fun s hs => hs.put ?_ ?_ ?_ ?_ ?_⟩
  all_goals simp [Stored.asGrant, Stored.asEnvelope, hne']

theorem putLegacyGrant_keeps_silent (hblank : isBlank other = false) (hne : other ≠ serverId)
    (hgrant : grant.serverId = some other) (envelope : AdminEnvelope) (key : String) :
    Keeping (Silent serverId) (putLegacyGrant grant envelope key : AdminM P Unit) := by
  refine ⟨keeps_bind (keeps_write fun s hs => hs.put ?_ ?_ ?_ ?_ ?_) fun _ =>
    keeps_bind (keeps_write fun s hs => hs.put ?_ ?_ ?_ ?_ ?_) fun _ =>
      keeps_write fun s hs => hs.put ?_ ?_ ?_ ?_ ?_⟩
  all_goals
    simp [Stored.asGrant, Stored.asEnvelope, hgrant, hblank, hne]

theorem putRevokedServerIds_keeps_silent {update : List String → List String}
    (hupdate : ∀ ids, serverId ∈ ids → serverId ∈ update ids) :
    Keeping (Silent serverId) (putRevokedServerIds update : AdminM P Unit) := by
  refine ⟨keeps_read_bind fun s hs => wp_write (hs.put ?_ ?_ ?_ ?_ ?_) hs⟩
  · simp
  · simp
  · simp
  · simp
  · intro _ hin
    exact hupdate _ (List.mem_eraseDups.2 hin)

theorem applyAdminGrant_keeps_silent {envelope : AdminEnvelope}
    (h : ∀ grant, P.decodeGrant envelope.payload = .ok grant →
      ∃ other, grant.serverId = some other ∧ isBlank other = false ∧ other ≠ serverId)
    (key : String) : Keeping (Silent serverId) (applyAdminGrant envelope key : AdminM P _) := by
  refine applyAdminGrant_keeping fun grant hdecoded => ?_
  obtain ⟨other, hgrant, hblank, hne⟩ := h grant hdecoded
  have hown : ∀ s : AdminState P, Keeping (Silent serverId)
      (putServerGrant (s.effectiveServerId grant) grant envelope key : AdminM P Unit) := by
    intro s
    rw [show s.effectiveServerId grant = some other by simp [effectiveServerId, hgrant]]
    exact putServerGrant_keeps_silent hne grant envelope key
  have hlegacy := putLegacyGrant_keeps_silent (P := P) hblank hne hgrant envelope key
  have hrevoked : Keeping (Silent serverId) (putRevokedServerIds (P := P) fun ids =>
      ids.filter (· != grant.serverId.getD "legacy")) := by
    refine putRevokedServerIds_keeps_silent fun ids hin => ?_
    simp only [hgrant, Option.getD_some, List.mem_filter, bne_iff_ne, ne_eq]
    exact ⟨hin, fun h => hne h.symm⟩
  exact ⟨inferInstance, inferInstance⟩

theorem putServerPin_keeps_silent {target : Option String} (h : target ≠ some serverId)
    (key : String) : Keeping (Silent serverId) (putServerPin key target : AdminM P Unit) := by
  unfold putServerPin
  split
  · infer_instance
  · next id =>
      have hne : ¬ serverId = id := fun he => h (congrArg some he.symm)
      refine ⟨keeps_when fun _ => keeps_write fun s hs => hs.put ?_ ?_ ?_ ?_ ?_⟩
      all_goals simp [hne]

instance {id : String} : Keeping (Silent serverId) (removeLocalAdminGrant id : AdminM P Unit) := by
  have hrevoked : Keeping (Silent serverId)
      (putRevokedServerIds (P := P) fun ids => (ids ++ [id]).eraseDups) :=
    putRevokedServerIds_keeps_silent fun ids hin => by simp [hin]
  have hlegacy : ∀ key ∈ [FixedKey.activeGrant, .activeGrantEnvelope],
      Keeping (Silent serverId) (removeString (.fixed key) : AdminM P Unit) := by
    intro key hkey
    refine ⟨keeps_write fun _ hs => hs.remove ?_⟩
    simp only [List.mem_cons, List.not_mem_nil, or_false] at hkey
    rcases hkey with rfl | rfl <;> simp
  have hgrant := hlegacy .activeGrant (by simp)
  have henvelope := hlegacy .activeGrantEnvelope (by simp)
  infer_instance

/-- A step that gives the server nothing: it applies no grant but one that names
another server, and pins no key for this one. -/
def AdminStep.Spares (P : Platform) (serverId : String) : AdminStep → Prop
  | .applyAdminGrant envelope _ => ∀ grant, P.decodeGrant envelope.payload = .ok grant →
      ∃ other, grant.serverId = some other ∧ isBlank other = false ∧ other ≠ serverId
  | .setPinnedServerPublicKey _ target => target ≠ some serverId
  | _ => True

theorem AdminStep.keeps_silent {step : AdminStep} (h : step.Spares P serverId) :
    Keeping (Silent serverId) (step.program : AdminM P Unit) := by
  cases step with
  | createJoinRequest =>
    unfold AdminStep.program
    infer_instance
  | setPinnedServerPublicKey key target =>
    have hserver := putServerPin_keeps_silent (P := P) h key
    unfold AdminStep.program
    infer_instance
  | applyAdminGrant envelope key =>
    have happly := applyAdminGrant_keeps_silent h key
    unfold AdminStep.program
    infer_instance
  | addServerNode | updateServerNode | removeServerNode | removeLocalAdminGrant =>
    unfold AdminStep.program
    infer_instance
  | tick millis =>
    refine ⟨keeps_modify fun s hs => hs.of_entries ?_ hs.legacy id (fun _ => id)
      (fun _ => id) fun _ => id⟩
    simp only [currentTimeSeconds]
    omega

end Steps

/-! ### What the revocation leaves -/

def AdminState.revokedKeys (s : AdminState P) : List StorageKey :=
  (s.listedServerIds.eraseDups.flatMap fun id =>
      [.keyed .activeGrant id, .keyed .activeGrantEnvelope id]) ++
    [.fixed .activeGrant, .fixed .activeGrantEnvelope, .fixed .role, .fixed .pendingRequest,
      .fixed .lastPairingCode, .fixed .pendingAdminContext, .fixed .delegationCheckpoint]

def AdminState.afterRevocation (s : AdminState P) : AdminState P :=
  { s with
    storage :=
      (s.storage.put (.fixed .revokedServerIds)
        (.serverIds (s.revokedServerIds.eraseDups ++ s.listedServerIds ++
          ["legacy"]).eraseDups)).removeAll s.revokedKeys
    activeGrant := none
    pendingRequest := none
    lastPairingCode := none
    role := .none }

theorem removeServerGrants_exec (ids : List String) (s : AdminState P) :
    (Prog.forEach ids removeServerGrant).exec s =
      (.ok (), { s with
        storage := s.storage.removeAll
          (ids.flatMap fun id => [.keyed .activeGrant id, .keyed .activeGrantEnvelope id]) }) := by
  induction ids generalizing s with
  | nil => exact exec_pure () s
  | cons id ids ih =>
    simp only [Prog.forEach, removeServerGrant, removeString, exec_bind, exec_write, ih]
    rfl

theorem revokeAdminRights_exec (s : AdminState P) :
    revokeAdminRights.exec s = (.ok (), s.afterRevocation) := by
  simp only [revokeAdminRights, putRevokedServerIds, putString, removeString, exec_bind,
    exec_read, exec_write, exec_modify, removeServerGrants_exec]
  simp only [afterRevocation, revokedKeys, Storage.removeAll, List.foldl_append]
  rfl

theorem mem_revokedServerIds_afterRevocation {serverId : String} :
    serverId ∈ s.afterRevocation.revokedServerIds ↔
      serverId ∈ s.revokedServerIds ∨ serverId ∈ s.listedServerIds ∨ serverId = "legacy" := by
  have hkey : (fixed .revokedServerIds).text ∉
      s.revokedKeys.map text := by
    simp [revokedKeys, text_eq_text]
  simp only [revokedServerIds, afterRevocation, Storage.get_removeAll, if_neg hkey,
    Storage.get_put_self, Option.bind_some, Stored.asServerIds, Option.getD_some,
    List.mem_eraseDups, List.mem_append, List.mem_singleton, or_assoc]

namespace AdminState

/-- The two entries a server's own grant is made of are not among those the revocation
removes. A server that is not listed can still lose them, when another id makes the
same text of another key. -/
def Untouched (s : AdminState P) (serverId : String) : Prop :=
  (StorageKey.keyed .activeGrant serverId).text ∉ s.revokedKeys.map StorageKey.text ∧
    (StorageKey.keyed .activeGrantEnvelope serverId).text ∉ s.revokedKeys.map StorageKey.text

/-- The server has a grant of its own in force, and the revocation does not find it. -/
structure Forgotten (s : AdminState P) (serverId : String) : Prop where
  named : isBlank serverId = false
  notRevoked : serverId ∉ s.revokedServerIds
  unlisted : serverId ∉ s.listedServerIds
  notLegacy : serverId ≠ "legacy"
  untouched : s.Untouched serverId
  hasGrant : s.HasOwnGrant serverId

theorem legacyElsewhere_afterRevocation (s : AdminState P) (serverId : String) :
    s.afterRevocation.LegacyElsewhere serverId := by
  have hkey : (fixed .activeGrant).text ∈ s.revokedKeys.map text :=
    List.mem_map_of_mem (by simp [revokedKeys])
  intro grant hgrant
  simp [storedGrant, afterRevocation, Storage.get_removeAll, hkey] at hgrant

theorem hasOwnGrant_afterRevocation {serverId : String} :
    s.afterRevocation.HasOwnGrant serverId ↔ s.Untouched serverId ∧ s.HasOwnGrant serverId := by
  have hput : ∀ family, (keyed family serverId).text ≠ (fixed .revokedServerIds).text := by
    simp
  have hpin : (keyed .pinnedServerKey serverId).text ∉
      s.revokedKeys.map text := by
    simp [revokedKeys, text_eq_text]
  have hget : ∀ family, s.afterRevocation.storage.get (.keyed family serverId) =
      if (keyed family serverId).text ∈ s.revokedKeys.map text then none
      else s.storage.get (.keyed family serverId) := by
    intro family
    simp only [afterRevocation, Storage.get_removeAll, Storage.get_put, if_neg (hput family)]
  constructor
  · rintro ⟨grant, envelope, pin, hown⟩
    have hg := hown.grant_eq
    have he := hown.envelope_eq
    have hp := hown.pin_eq
    simp only [storedGrant, storedEnvelope, storedText, hget, if_neg hpin] at hg he hp
    split at hg
    · simp at hg
    · next hgrant =>
        split at he
        · simp at he
        · next henvelope =>
            exact ⟨⟨hgrant, henvelope⟩, grant, envelope, pin, hg, he, hp, hown.server,
              hown.authentic⟩
  · rintro ⟨⟨hgrant, henvelope⟩, grant, envelope, pin, hown⟩
    refine ⟨grant, envelope, pin, ?_, ?_, ?_, hown.server, hown.authentic⟩
    · simpa only [storedGrant, hget, if_neg hgrant] using hown.grant_eq
    · simpa only [storedEnvelope, hget, if_neg henvelope] using hown.envelope_eq
    · simpa only [storedText, hget, if_neg hpin] using hown.pin_eq

end AdminState

/-- After the revocation no server has a role, until a grant for that server is
applied or a key is pinned for it. -/
def RevocationComplete (s : AdminState P) : Prop :=
  ∀ (later : List AdminStep) (serverId : String),
    (∀ step ∈ later, step.Spares P serverId) →
      ((runSteps later (revokeAdminRights.exec s).2).getRole serverId).1 = .none

theorem afterRevocation_silent {serverId : String} (h : ¬ s.Forgotten serverId) :
    s.afterRevocation.Silent serverId := by
  refine ⟨s.legacyElsewhere_afterRevocation serverId, fun hnamed => ?_⟩
  by_contra hc
  rw [not_or, not_not, mem_revokedServerIds_afterRevocation, not_or, not_or,
    hasOwnGrant_afterRevocation] at hc
  obtain ⟨⟨hrevoked, hlisted, hlegacy⟩, huntouched, hgrant⟩ := hc
  exact h ⟨hnamed, hrevoked, hlisted, hlegacy, huntouched, hgrant⟩

theorem AdminState.Forgotten.getRole_afterRevocation {serverId : String} (h : s.Forgotten serverId)
    : (s.afterRevocation.getRole serverId).1 ≠ .none := by
  rw [Ne, getRole_eq_none]
  intro hnone
  obtain ⟨grant, hgrant⟩ := hasOwnGrant_afterRevocation.2 ⟨h.untouched, h.hasGrant⟩
  have hrevoked : serverId ∉ s.afterRevocation.revokedServerIds := by
    rw [mem_revokedServerIds_afterRevocation]
    exact not_or.2 ⟨h.notRevoked, not_or.2 ⟨h.unlisted, h.notLegacy⟩⟩
  have hverified := (verifiedGrant_iff_own (s.legacyElsewhere_afterRevocation serverId)
    h.named).2 ⟨hrevoked, hgrant⟩
  rw [hnone] at hverified
  simp at hverified

theorem revocationComplete_iff_not_forgotten (s : AdminState P) :
    RevocationComplete s ↔ ∀ serverId, ¬ s.Forgotten serverId := by
  constructor
  · intro h serverId hforgotten
    refine hforgotten.getRole_afterRevocation ?_
    have hnow := h [] serverId (by simp)
    rwa [revokeAdminRights_exec] at hnow
  · intro h later serverId hspares
    rw [revokeAdminRights_exec]
    have hsilent : Silent serverId (runSteps later s.afterRevocation) :=
      runSteps_keeps (fun step hstep => (AdminStep.keeps_silent (hspares step hstep)).keeps)
        (afterRevocation_silent (h serverId))
    exact hsilent.getRole_eq_none

/-- A device that is enrolled with one server and then with another, and lists neither,
has a forgotten grant. -/
theorem forgotten_of_two_enrolments (seedA seedB : JoinSeed) (millis : Int)
    {keyA keyB : String} {grantA grantB : AdminGrant} {envelopeA envelopeB : AdminEnvelope}
    (hdecodedA : P.decodeGrant envelopeA.payload = .ok grantA)
    (hserverA : grantA.serverId = some "vds-1") (hnonceA : envelopeA.nonce = seedA.nonce)
    (hauthenticA : P.Authentic (millis / 1000) envelopeA grantA keyA)
    (hdecodedB : P.decodeGrant envelopeB.payload = .ok grantB)
    (hserverB : grantB.serverId = some "vds-2") (hnonceB : envelopeB.nonce = seedB.nonce)
    (hauthenticB : P.Authentic (millis / 1000) envelopeB grantB keyB) :
    (runSteps (enrolment (some "vds-1") keyA seedA envelopeA ++
      enrolment (some "vds-2") keyB seedB envelopeB) (fresh millis : AdminState P)).Forgotten
        "vds-1" := by
  rw [runSteps_append]
  have hA := runSteps_enrolment (s := fresh millis) (Storage.get_empty _) (by decide) hdecodedA
    hserverA hnonceA hauthenticA
  set first := runSteps (enrolment (some "vds-1") keyA seedA envelopeA) (fresh millis)
  have heffA : (fresh millis : AdminState P).effectiveServerId grantA = some "vds-1" := by
    simp [effectiveServerId, hserverA]
  have htime : first.currentTimeSeconds = millis / 1000 := by
    rw [currentTimeSeconds, hA.currentTimeMillis]
    rfl
  have hcheckpoint : first.storage.get (.fixed .delegationCheckpoint) = none := by
    refine (hA.get_of_notMem ?_ ?_ (by decide)).trans (Storage.get_empty _)
    · simp
    · simp [serverGrantKeys]
  have hB := runSteps_enrolment hcheckpoint (by decide) hdecodedB hserverB hnonceB (by rwa [htime])
  set second := runSteps (enrolment (some "vds-2") keyB seedB envelopeB) first
  have heffB : first.effectiveServerId grantB = some "vds-2" := by
    simp [effectiveServerId, hserverB]
  have hkept : ∀ entry ∈ serverGrantKeys "vds-1",
      second.storage.get entry = first.storage.get entry := by
    intro entry hentry
    refine hB.get_of_notMem ?_ ?_ ?_
    · simp only [serverGrantKeys, List.mem_cons, List.not_mem_nil, or_false] at hentry
      rcases hentry with rfl | rfl | rfl <;> simp
    · simp only [serverGrantKeys, List.mem_cons, List.not_mem_nil, or_false] at hentry
      rcases hentry with rfl | rfl | rfl <;> simp [heffB, serverGrantKeys]
    · revert entry
      decide
  obtain ⟨hgrant, henvelope, hpin⟩ := hA.own heffA (by decide) (by decide)
  refine ⟨by decide, ?_, ?_, by decide, ?_, grantA, envelopeA, keyA, ?_, ?_, ?_, .inr hserverA, ?_⟩
  · rw [hB.revokedServerIds, hA.revokedServerIds]
    simp [AdminState.revokedServerIds, fresh, created]
  · simp [listedServerIds, hB.serverNodes, hA.serverNodes, hB.activeGrant, hserverB, fresh, created]
  · simp [Untouched, revokedKeys, listedServerIds, hB.serverNodes, hA.serverNodes, hB.activeGrant,
      hserverB, fresh, created]
  · rw [storedGrant, hkept _ (by decide), hgrant]
    rfl
  · rw [storedEnvelope, hkept _ (by decide), henvelope]
    rfl
  · rw [storedText, hkept _ (by decide), hpin]
    rfl
  · rwa [currentTimeSeconds, hB.currentTimeMillis, ← currentTimeSeconds, htime]

/-- In every state a run reaches, the revocation is complete exactly if no server has a
grant that neither the list of nodes nor the active grant leads to. -/
theorem revocation_complete_iff (before : List AdminStep) (millis : Int) :
    RevocationComplete (runSteps before (fresh millis : AdminState P)) ↔
      ∀ serverId, ¬ (runSteps before (fresh millis : AdminState P)).Forgotten serverId :=
  revocationComplete_iff_not_forgotten _

/-- The device of the recording enrols with both servers and gives up its rights: the
grant of the first server stays in force. -/
theorem revocation_not_complete : ¬ ∀ (P : Platform) (before : List AdminStep) (millis : Int),
    RevocationComplete (runSteps before (fresh millis : AdminState P)) := by
  intro h
  have hforgotten := forgotten_of_two_enrolments seed1 seed2 1767225600000
    (Recording.decodeGrant_of_lookup twoServers_issued1.decoded) rfl rfl
    (twoServers_issued1.authentic (by decide))
    (Recording.decodeGrant_of_lookup twoServers_issued2.decoded) rfl rfl
    (twoServers_issued2.authentic (by decide))
  exact (revocationComplete_iff_not_forgotten _).1 (h twoServers.platform _ _) _ hforgotten

end LibreRoute.Admin
