import LibreRoute.Admin.Installation

/-!
Rights delegated by another administrator: the device sends a request link,
and imports the confirmation link it gets back. The import stores the link
with its request as the delegation checkpoint, applies the grant, and removes
the checkpoint last. A checkpoint that is there at the next start is imported
again.
-/

namespace LibreRoute.Admin

open LibreRoute.Lib StorageKey AdminEnvelope

variable {P : Platform}

structure DelegatedAdminGrant where
  response : AdminEnvelope
  grant : AdminEnvelope
  serverId : String
  serverPublicKey : String
  documentUrl : String
  clientKey : String
  serverKey : String
  transferId : Option String := none
  deriving DecidableEq, Repr

/-! ### Links -/

namespace AdminDelegationLink

def requestPrefix : String := "libreroute://admin-request?data="
def grantPrefix : String := "libreroute://admin-grant?data="
def maxLength : Nat := 64 * 1024

/-- A character of a link body. Letters outside ASCII pass the source's own test and
are then refused by the Base64 decoder. -/
def isBodyChar (c : Char) : Bool := c.isAlphanum || c == '-' || c == '_'

/-- The envelope in a link that starts with `start`. -/
def decode (P : Platform) (start value : String) : Option AdminEnvelope :=
  let link := (trim value).toList
  let body := link.drop start.toList.length
  if start.toList.isPrefixOf link && link.length ≤ maxLength &&
      (!body.all isWhitespace && body.all isBodyChar) then P.decodeLinkBody (String.ofList body)
  else none

/-- `obj.string(name)`: a member with a text that is not blank. -/
def text (data : JsonObject) (name : String) : Option String :=
  ((JsonObject.get data name).bind fun value => value.content.toOption).filter (!isBlank ·)

/-- `obj[name]?.jsonPrimitive?.content`, where an exception ends the parse. -/
def optionalText (data : JsonObject) (name : String) : Option (Option String) :=
  (JsonObject.contentOf data name).toOption

def receiptData (P : Platform) (receipt : AdminEnvelope) : Option JsonObject := do
  if receipt.type != typeAdmin || receipt.subtype != subtypeResponse then
    none
  let body ← (P.decodePayload receipt.payload).toOption
  let payload ← body.jsonObject.toOption
  let status ← optionalText payload "status"
  if status != some "applied" then none
  let data ← JsonObject.get payload "data"
  data.jsonObject.toOption

def parseGrant (P : Platform) (link : String) : Option DelegatedAdminGrant := do
  let receipt ← decode P grantPrefix link
  let data ← receiptData P receipt
  let raw ← JsonObject.get data "grant"
  let grant ← P.decodeEnvelope raw
  if grant.subtype != subtypeGrant || grant.profileId != receipt.profileId then none
  let serverId ← text data "server_id"
  let serverPublicKey ← text data "server_public_key"
  let documentUrl ← optionalText data "document_url"
  let clientKey ← optionalText data "client_key"
  let serverKey ← optionalText data "server_key"
  let transferId ← optionalText data "transfer_id"
  return {
    response := receipt
    grant := grant
    serverId := serverId
    serverPublicKey := serverPublicKey
    documentUrl := documentUrl.getD ""
    clientKey := clientKey.getD ""
    serverKey := serverKey.getD ""
    transferId := transferId }

theorem isWhitespace_of_isBodyChar {c : Char} (h : isBodyChar c = true) :
    isWhitespace c = false := by
  unfold isBodyChar Char.isAlphanum Char.isAlpha Char.isUpper Char.isLower Char.isDigit at h
  simp only [Bool.or_eq_true, Bool.and_eq_true, decide_eq_true_eq, beq_iff_eq,
    UInt32.le_iff_toNat_le, ge_iff_le, Char.ext_iff, ← UInt32.toNat_inj] at h
  simp only [isWhitespace, Char.toNat]
  simp at h ⊢
  omega

def fits (start body : String) : Bool :=
  !body.toList.isEmpty && body.toList.all isBodyChar &&
    decide (start.toList.length + body.toList.length ≤ maxLength)

theorem fits_encodeToString {start text : String} {m n : Nat} (hpos : 0 < text.length)
    (hlength : text.length ≤ n) (hle : 16 * n < 3 * m) (hmax : start.length + m ≤ maxLength) :
    fits start (Base64.encodeToString text) = true := by
  have hbody : ∀ c ∈ (Base64.encodeToString text).toList, isBodyChar c = true := by
    rw [Base64.encodeToString, String.toList_ofList]
    exact Base64.forall_mem_encode .url (by decide) _
  have hfits := Nat.add_le_add_left (Base64.length_encodeToString_le hlength hle) start.length
  rw [fits, List.isEmpty_eq_false_iff.2 (Base64.toList_encodeToString_ne_nil hpos),
    List.all_eq_true.2 hbody, String.length_toList, String.length_toList,
    decide_eq_true (Nat.le_trans hfits hmax)]
  rfl

theorem decode_append {start body : String}
    (hstart : start.toList.head?.any isWhitespace = false) (hfits : fits start body = true) :
    decode P start (start ++ body) = P.decodeLinkBody body := by
  simp only [fits, Bool.and_eq_true, Bool.not_eq_true', List.isEmpty_eq_false_iff,
    decide_eq_true_eq] at hfits
  obtain ⟨⟨hcons, hbody⟩, hlength⟩ := hfits
  have hchar : ∀ c ∈ body.toList, isWhitespace c = false := fun c hc =>
    isWhitespace_of_isBodyChar (List.all_eq_true.1 hbody c hc)
  have htrim : trim (start ++ body) = start ++ body := by
    refine trim_of_ends (fun c hc => ?_) fun c hc => ?_
    · rw [String.toList_append, List.head?_append] at hc
      rcases hs : start.toList.head? with _ | first
      · rw [hs, Option.none_or] at hc
        exact hchar c (List.mem_of_mem_head? hc)
      · rw [hs, Option.some_or] at hc
        rwa [hs, Option.mem_def.1 hc] at hstart
    · rw [String.toList_append, List.getLast?_append_of_ne_nil _ hcons] at hc
      exact hchar c (List.mem_of_mem_getLast? hc)
  have hblank : body.toList.all isWhitespace = false := by
    obtain ⟨c, l, hl⟩ := List.exists_cons_of_ne_nil hcons
    rw [hl, List.all_cons, hchar c (by simp [hl]), Bool.false_and]
  simp only [decode, htrim, String.toList_append, List.drop_left, hblank, hbody]
  rw [if_pos (by simpa using hlength), String.ofList_toList]

theorem parseGrant_named {link : String} {delegated : DelegatedAdminGrant}
    (h : parseGrant P link = some delegated) : isBlank delegated.serverId = false := by
  simp only [parseGrant, Option.bind_eq_bind, Option.bind_eq_some_iff] at h
  obtain ⟨receipt, -, data, -, raw, -, grant, -, h⟩ := h
  split at h
  · simp at h
  · simp only [Option.bind_eq_some_iff] at h
    obtain ⟨serverId, hserver, _, -, _, -, _, -, _, -, _, -, h⟩ := h
    obtain rfl := Option.some.inj h
    simpa using (Option.filter_eq_some_iff.1 hserver).2

def createRequest (P : Platform) (join : AdminEnvelope) : Except Throwable String := do
  require (join.subtype == subtypeRequest) (.illegalArgument "Failed requirement.")
  let link := requestPrefix ++ P.encodeLinkBody join
  require (decide (link.length ≤ maxLength))
    (.illegalArgument "Подтверждение слишком большое для ссылки")
  return link

end AdminDelegationLink

open AdminDelegationLink

def createAdminRequestLink (seed : JoinSeed) (serverId : Option String) (profileId : String)
    (role : AdminRole) : AdminM P String := do
  Prog.require (!isBlank profileId && role.granted)
    (.illegalArgument "Нужен административный контекст сервера и запрашиваемая роль")
  let request ← createJoinRequest seed profileId role none none
  putString (.fixed .pendingAdminContext) (.json
    ((serverId.map fun id => ("server_id", Json.string id)).toList ++
      [("profile_id", .string profileId), ("role", .string role.name)]))
  Prog.ofExcept (createRequest P request.1)

def cancelPendingAdminRequest : AdminM P Unit := do
  removeString (.fixed .pendingRequest)
  removeString (.fixed .lastPairingCode)
  removeString (.fixed .pendingAdminContext)
  removeString (.fixed .delegationCheckpoint)
  Prog.modify fun s =>
    { s with
      pendingRequest := none
      lastPairingCode := none
      role := ((s.activeGrant.filter (s.currentTimeSeconds < ·.expiresAt)).map (·.role)).getD
        .none }

/-! ### Confirmations -/

namespace AdminState

/-- The server's key is the pinned one, or its fingerprint was compared by hand. -/
def checkDelegationKey (s : AdminState P) (serverId serverKey fingerprint : String) :
    Except Throwable Unit :=
  match s.getPinnedServerPublicKey (some serverId) with
  | some pin => require (pin == serverKey)
      (.illegalArgument "Ключ сервера отличается от закреплённого")
  | none => require
      (!isBlank fingerprint && P.computeFingerprint serverKey == some (trim fingerprint))
      (.illegalArgument "Сверьте отпечаток серверного ключа с владельцем по доверенному каналу")

/-- `body["data"]?.jsonObject?.get("server_id")?.jsonPrimitive?.content`. -/
def delegatedServerId (body : JsonObject) : Except Throwable (Option String) :=
  match JsonObject.get body "data" with
  | none => .ok none
  | some data => do
      let fields ← data.jsonObject.mapError (Throwable.json · none)
      jsonField fields "server_id"

def verifyDelegationReceipt (s : AdminState P) (response : AdminEnvelope)
    (serverId serverKey fingerprint : String) : Except Throwable Unit := do
  s.checkDelegationKey serverId serverKey fingerprint
  let payload ← P.decodePayload response.payload
  let body ← payload.jsonObject.mapError (Throwable.json · none)
  let signed ← pure (response.type == typeAdmin &&
      response.subtype == subtypeResponse && response.sender == "server" &&
      decide (s.currentTimeSeconds < response.exp)) <&&>
    (fieldIs body "op_id" response.opId <&&> (fieldIs body "status" "applied" <&&>
      pure (P.verifyServerResponse response serverKey (some serverKey))))
  require signed (.illegalArgument "Подпись административного подтверждения недействительна")
  let named ← delegatedServerId body
  require (named == some serverId) (.illegalArgument "Подтверждение относится к другому серверу")

/-- A member of the pending context is absent or has this value. -/
def contextAllows (s : AdminState P) (name value : String) : Except Throwable Bool :=
  match (s.storage.get (.fixed .pendingAdminContext)).bind Stored.asJson with
  | none => .ok true
  | some context => fieldIsUnlessAbsent context name value

def checkDelegatedGrant (s : AdminState P) (link fingerprint : String) :
    Except Throwable (DelegatedAdminGrant × AdminEnvelope × AdminGrant) := do
  match parseGrant P link with
  | none => throw (.illegalState "Некорректная ссылка подтверждения прав")
  | some delegated =>
    s.verifyDelegationReceipt delegated.response delegated.serverId delegated.serverPublicKey
      fingerprint
    match s.pendingRequest with
    | none => throw (.illegalState "Нет запроса прав с этого устройства")
    | some pending =>
      let grant ← P.decodeGrant delegated.grant.payload
      require (grant.serverId == some delegated.serverId &&
          grant.serverPublicKey == delegated.serverPublicKey &&
          grant.profileId == pending.profileId && delegated.grant.nonce == pending.nonce &&
          grant.adminFingerprint == P.getFingerprint)
        (.illegalArgument "Допуск не совпадает с запросом этого устройства")
      let server ← s.contextAllows "server_id" delegated.serverId
      require server (.illegalArgument "Запрос ожидал другой сервер")
      let document ← s.contextAllows "document_url" delegated.documentUrl
      require document (.illegalArgument "Управляющий документ был заменён")
      require (P.validGrantFields s.currentTimeSeconds delegated.grant grant
            delegated.serverPublicKey &&
          P.verifyServerResponse delegated.grant delegated.serverPublicKey
            (some delegated.serverPublicKey))
        (.illegalArgument "Подпись допуска недействительна")
      return (delegated, pending, grant)

structure DelegationChecked (s : AdminState P) (link fingerprint : String)
    (delegated : DelegatedAdminGrant) (pending : AdminEnvelope) (grant : AdminGrant) : Prop where
  parsed : parseGrant P link = some delegated
  receipt : s.verifyDelegationReceipt delegated.response delegated.serverId
    delegated.serverPublicKey fingerprint = .ok ()
  requested : s.pendingRequest = some pending
  decoded : P.decodeGrant delegated.grant.payload = .ok grant
  server : grant.serverId = some delegated.serverId
  key : grant.serverPublicKey = delegated.serverPublicKey
  profile : grant.profileId = pending.profileId
  nonce : delegated.grant.nonce = pending.nonce
  device : grant.adminFingerprint = P.getFingerprint
  expected : s.contextAllows "server_id" delegated.serverId = .ok true
  document : s.contextAllows "document_url" delegated.documentUrl = .ok true
  authentic : P.Authentic s.currentTimeSeconds delegated.grant grant delegated.serverPublicKey

theorem checkDelegatedGrant_ok {s : AdminState P} {link fingerprint : String}
    {delegated : DelegatedAdminGrant} {pending : AdminEnvelope} {grant : AdminGrant} :
    s.checkDelegatedGrant link fingerprint = .ok (delegated, pending, grant) ↔
      s.DelegationChecked link fingerprint delegated pending grant := by
  unfold checkDelegatedGrant
  constructor
  · intro h
    split at h
    · simp at h
    next parsed hparsed =>
    simp only [bind_eq_ok] at h
    obtain ⟨_, hreceipt, h⟩ := h
    split at h
    · simp at h
    next request hrequest =>
    simp only [bind_eq_ok, require_eq_ok, Bool.and_eq_true, beq_iff_eq] at h
    obtain ⟨decoded, hdecoded, _, hsame, server, hserver, _, rfl, document, hdocument, _, rfl, _,
      hauthentic, h⟩ := h
    obtain ⟨rfl, hrest⟩ := Prod.mk.injEq _ _ _ _ ▸ Except.ok.inj h
    obtain ⟨rfl, rfl⟩ := Prod.mk.injEq _ _ _ _ ▸ hrest
    exact ⟨hparsed, hreceipt, hrequest, hdecoded, hsame.1.1.1.1, hsame.1.1.1.2, hsame.1.1.2,
      hsame.1.2, hsame.2, hserver, hdocument, Bool.and_eq_true_iff.2 hauthentic⟩
  · intro h
    obtain ⟨hfields, hverified⟩ := Bool.and_eq_true_iff.1 h.authentic
    simp only [h.parsed, h.requested, bind_eq_ok, require_eq_ok]
    refine ⟨(), h.receipt, grant, h.decoded, (), ?_, true, h.expected, (), rfl, true, h.document,
      (), rfl, (), by rw [hfields, hverified]; rfl, rfl⟩
    simp [h.server, h.key, h.profile, h.nonce, h.device]

/-- A link that was accepted is accepted again while its request is open, once its key is
pinned. -/
theorem DelegationChecked.again {s s' : AdminState P} {link fingerprint : String}
    {delegated : DelegatedAdminGrant} {pending : AdminEnvelope} {grant : AdminGrant}
    (h : s.DelegationChecked link fingerprint delegated pending grant)
    (htime : s'.currentTimeMillis = s.currentTimeMillis)
    (hrequest : s'.pendingRequest = some pending)
    (hcontext : s'.storage.get (.fixed .pendingAdminContext) =
      s.storage.get (.fixed .pendingAdminContext))
    (hpin : s'.getPinnedServerPublicKey (some delegated.serverId) =
      some delegated.serverPublicKey) :
    s'.DelegationChecked link "" delegated pending grant := by
  have hnow : s'.currentTimeSeconds = s.currentTimeSeconds := by
    simp only [currentTimeSeconds, htime]
  have hreceipt := h.receipt
  simp only [verifyDelegationReceipt, bind_eq_ok] at hreceipt
  obtain ⟨_, -, hreceipt⟩ := hreceipt
  refine ⟨h.parsed, ?_, hrequest, h.decoded, h.server, h.key, h.profile, h.nonce, h.device, ?_, ?_,
    by rw [hnow]; exact h.authentic⟩
  · simp only [verifyDelegationReceipt, bind_eq_ok, hnow]
    exact ⟨(), by simp [checkDelegationKey, hpin, require], hreceipt⟩
  · simpa only [contextAllows, hcontext] using h.expected
  · simpa only [contextAllows, hcontext] using h.document

end AdminState

def delegatedNode (serverId : String) : AdminM P ServerNode := do
  let known ← Prog.read fun s => s.getServerNode serverId
  match known with
  | some node => pure node
  | none => do
      let millis ← Prog.read fun s => s.currentTimeMillis
      let node : ServerNode :=
        { id := serverId, name := serverId, host := "", supportedProtocols := [],
          createdAt := millis }
      addServerNode node
      pure node

def putDelegatedSession (profileId : String) (delegated : DelegatedAdminGrant) : AdminM P Unit := do
  let session : DocumentSessionKeys :=
    ⟨delegated.clientKey, delegated.serverKey, delegated.documentUrl⟩
  Prog.when (!isBlank delegated.documentUrl && !isBlank delegated.clientKey &&
      !isBlank delegated.serverKey) do
    putString (documentSessionKey profileId delegated.serverId) (.session session)
    putString (.keyed .documentSession delegated.serverId) (.session session)

def putOwnerTransfer (delegated : DelegatedAdminGrant) (grant : AdminGrant) : AdminM P Unit :=
  match delegated.transferId with
  | none => pure ()
  | some transfer => do
      let now ← Prog.read fun s => s.currentTimeSeconds
      putString (.keyed .ownerTransfer delegated.serverId) (.json
        [("transfer_id", .string transfer), ("profile_id", .string grant.profileId),
          ("expires_at", .literal (toString (min grant.expiresAt (now + 24 * 3600))))])

def storeDelegatedRecords (delegated : DelegatedAdminGrant) (grant : AdminGrant) :
    AdminM P Unit := do
  let node ← delegatedNode delegated.serverId
  putDelegatedSession grant.profileId delegated
  ensureOwnerControlProfile node grant delegated.documentUrl ""
  putOwnerTransfer delegated grant

/-- Everything an import stores, up to the removal of its checkpoint. -/
def storeDelegatedGrant (link : String) (delegated : DelegatedAdminGrant) (pending : AdminEnvelope)
    (grant : AdminGrant) : AdminM P Unit := do
  setPinnedServerPublicKey delegated.serverPublicKey (some delegated.serverId)
  putString (.fixed .delegationCheckpoint) (.checkpoint pending link)
  let applied ← applyAdminGrant delegated.grant delegated.serverPublicKey
  Prog.ofExcept (requireSuccess applied)
  storeDelegatedRecords delegated grant

def importDelegatedGrant (link fingerprint : String) : AdminM P AdminOpResult := do
  let checked ← Prog.read fun s => s.checkDelegatedGrant link fingerprint
  let (delegated, pending, grant) ← Prog.ofExcept checked
  storeDelegatedGrant link delegated pending grant
  removeString (.fixed .delegationCheckpoint)
  removeString (.fixed .pendingAdminContext)
  pure (.success ("Права " ++ grant.role.name ++ " и профиль администратора сохранены")
    (some delegated.grant))

def importAdminGrantLink (link fingerprint : String) : AdminM P AdminOpResult :=
  (importDelegatedGrant link fingerprint).attempt fun e =>
    pure (.failure (e.message.getD "Допуск не импортирован") (some e))

/-! ### What an import does -/

open AdminState

/-- The grant of a delegation is stored, and its checkpoint is still there. -/
structure Delegated (link : String) (delegated : DelegatedAdminGrant) (pending : AdminEnvelope)
    (grant : AdminGrant) (s s' : AdminState P) : Prop where
  currentTimeMillis : s'.currentTimeMillis = s.currentTimeMillis
  holds : s'.Holds delegated.serverId grant delegated.grant delegated.serverPublicKey
  checkpoint : s'.storage.get (.fixed .delegationCheckpoint) = some (.checkpoint pending link)
  others : ∀ entry : StorageKey,
    entry.text ∉ (.fixed .delegationCheckpoint :: appliedKeys delegated.serverId).map
      StorageKey.text → s'.storage.get entry = s.storage.get entry

def AdminState.checkpointed (s : AdminState P) (link : String) (delegated : DelegatedAdminGrant)
    (pending : AdminEnvelope) : AdminState P :=
  { s with
    storage := (s.pinnedStorage delegated.serverPublicKey (some delegated.serverId)).put
      (.fixed .delegationCheckpoint) (.checkpoint pending link) }

@[reducible] def delegatedRecords (profileId serverId : String) : List StorageKey :=
  [.fixed .serverNodes, .fixed .managedProfiles, documentSessionKey profileId serverId,
    .keyed .documentSession serverId, .keyed .ownerTransfer serverId]

theorem storeDelegatedRecords_returns (delegated : DelegatedAdminGrant) (grant : AdminGrant) :
    (storeDelegatedRecords delegated grant : AdminM P Unit).Returns := by
  have hnode : (delegatedNode delegated.serverId : AdminM P _).Returns := by
    refine returns_bind returns_read fun known => ?_
    split
    · exact returns_pure
    · exact returns_bind returns_read fun _ =>
        returns_bind (addServerNode_returns _) fun _ => returns_pure
  refine returns_bind hnode fun _ => returns_bind (returns_when
    (returns_bind returns_write fun _ => returns_write)) fun _ =>
    returns_bind (ensureOwnerControlProfile_returns _ _ _ _) fun _ => ?_
  unfold putOwnerTransfer
  split
  · exact returns_pure
  · exact returns_bind returns_read fun _ => returns_write

section Keeping

variable {I : AdminState P → Prop} [OfStore I] {delegated : DelegatedAdminGrant}
  {grant : AdminGrant} [Overlooks I (.fixed .serverNodes)] [Overlooks I (.fixed .managedProfiles)]
  [Overlooks I (documentSessionKey grant.profileId delegated.serverId)]
  [Overlooks I (.keyed .documentSession delegated.serverId)]
  [Overlooks I (.keyed .ownerTransfer delegated.serverId)]

instance : Keeping I (storeDelegatedRecords delegated grant) := by
  have hnode : Keeping I (delegatedNode delegated.serverId : AdminM P _) := by
    refine .bind fun known => ?_
    split <;> infer_instance
  have htransfer : Keeping I (putOwnerTransfer delegated grant : AdminM P Unit) := by
    unfold putOwnerTransfer
    split <;> infer_instance
  unfold storeDelegatedRecords putDelegatedSession
  infer_instance

end Keeping

section Import

variable {s : AdminState P} {link fingerprint : String} {delegated : DelegatedAdminGrant}
  {pending : AdminEnvelope} {grant : AdminGrant}
  (h : s.DelegationChecked link fingerprint delegated pending grant)
  (henvelope : delegated.serverId ≠ "envelope")
include h

theorem AdminState.DelegationChecked.grantChecked {t : AdminState P}
    (htime : t.currentTimeMillis = s.currentTimeMillis)
    (hrequest : t.pendingRequest = s.pendingRequest)
    (hpin : t.getPinnedServerPublicKey (some delegated.serverId) = some delegated.serverPublicKey) :
    t.GrantChecked delegated.grant delegated.serverPublicKey grant := by
  refine ⟨h.decoded, h.server ▸ hpin, ⟨pending, hrequest.trans h.requested, ?_, h.nonce.symm⟩, ?_⟩
  · exact h.profile.symm.trans h.authentic.profileId_eq
  · rw [currentTimeSeconds, htime]
    exact h.authentic

include henvelope in
theorem applyDelegated_exec :
    ∃ s', (applyAdminGrant delegated.grant delegated.serverPublicKey).exec
        (s.checkpointed link delegated pending) =
      (.ok (.success (grantedMessage grant) (some delegated.grant)), s') ∧
      s'.serverNodes = s.serverNodes ∧ Delegated link delegated pending grant s s' := by
  have hnamed := parseGrant_named h.parsed
  have hserver : ∀ id, some delegated.serverId = some id → isBlank id = false :=
    fun id hid => Option.some.inj hid ▸ hnamed
  set t := s.checkpointed link delegated pending with ht
  have hpin : t.getPinnedServerPublicKey (some delegated.serverId) =
      some delegated.serverPublicKey := by
    refine getPinnedServerPublicKey_of_entry h.authentic.pin_not_blank hserver ?_
    rw [storedText, ht, checkpointed, Storage.get_put_of_ne _ _
      (by simp [StorageKey.pin]),
      s.pinnedStorage_pin hserver]
    rfl
  have heff : t.effectiveServerId grant = some delegated.serverId := by
    simp [effectiveServerId, h.server]
  obtain ⟨s', hexec, ha⟩ := applyAdminGrant_applied (h.grantChecked (t := t) rfl rfl hpin) heff
    hnamed henvelope
  refine ⟨s', hexec, ha.serverNodes, ha.currentTimeMillis,
    ⟨ha.ownGrant, ha.ownEnvelope, ha.ownPin, ?_⟩, ?_, fun entry hentry => ?_⟩
  · simp [ha.revokedServerIds, h.server]
  · rw [ha.others _ (by simp [appliedKeys, serverGrantKeys, unscopedGrantKeys])]
    exact Storage.get_put_self ..
  · rw [List.map_cons, List.mem_cons, not_or] at hentry
    rw [ha.others entry hentry.2, ht, checkpointed, Storage.get_put_of_ne _ _ hentry.1]
    refine s.pinnedStorage_get (fun hlegacy => hentry.2 ?_) fun id hid hown => hentry.2 ?_
    · simp [hlegacy, appliedKeys, unscopedGrantKeys]
    · obtain rfl := Option.some.inj hid
      simp [hown, appliedKeys, serverGrantKeys]

theorem AdminState.DelegationChecked.verified {t : AdminState P}
    (htime : t.currentTimeMillis = s.currentTimeMillis)
    (hholds : t.Holds delegated.serverId grant delegated.grant delegated.serverPublicKey) :
    t.verifiedGrant (some delegated.serverId) = some grant := by
  refine hholds.verified (parseGrant_named h.parsed) h.server ?_
  rw [currentTimeSeconds, htime]
  exact h.authentic

include henvelope in
/-- An import can fail after its grant is in force. It then reports the failure, and
leaves the checkpoint. -/
theorem importAdminGrantLink_interrupted (hnode : s.getServerNode delegated.serverId = none)
    (e : Throwable) :
    ∃ fates s', (importAdminGrantLink link fingerprint).run s fates =
        (.ok (.failure (e.message.getD "Допуск не импортирован") (some e)), s', []) ∧
      Delegated link delegated pending grant s s' := by
  obtain ⟨t, hexec, hnodes, ht⟩ := applyDelegated_exec h henvelope
  have hnode' : t.getServerNode delegated.serverId = none := by
    rwa [getServerNode, hnodes]
  obtain ⟨s', hfails, ho⟩ := addServerNode_fails
    { id := delegated.serverId, name := delegated.serverId, host := "", supportedProtocols := [],
      createdAt := t.currentTimeMillis } t e
  have hadd : (delegatedNode delegated.serverId).Fails t s' e := by
    refine fails_bind (exec_read _ t) ?_
    rw [hnode']
    exact fails_bind (exec_read _ t) (fails_bind_left hfails)
  have hstore : (storeDelegatedGrant link delegated pending grant).Fails s s' e :=
    fails_bind (setPinnedServerPublicKey_exec _ _ s) (fails_bind (putString_exec _ _ _)
      (fails_bind hexec (fails_bind (exec_ofExcept _ t) (fails_bind_left hadd))))
  have himport : (importDelegatedGrant link fingerprint).Fails s s' e := by
    refine fails_bind (exec_read _ s) ?_
    rw [checkDelegatedGrant_ok.2 h]
    exact fails_bind (exec_ofExcept _ s) (fails_bind_left hstore)
  obtain ⟨fates, hrun⟩ := himport.caught fun e =>
    AdminOpResult.failure (e.message.getD "Допуск не импортирован") (some e)
  unfold importAdminGrantLink
  refine ⟨fates, s', hrun, ?_, ht.holds.of_outside ho (by simp), ?_, fun entry hentry => ?_⟩
  · exact (congrArg Outside.currentTimeMillis ho).trans ht.currentTimeMillis
  · exact (get_of_outside ho (by simp)).trans ht.checkpoint
  · exact (get_of_outside ho (by simp)).trans (ht.others entry hentry)

include henvelope in
theorem importDelegatedGrant_exec :
    ∃ s', (importDelegatedGrant link fingerprint).exec s =
        (.ok (.success ("Права " ++ grant.role.name ++ " и профиль администратора сохранены")
          (some delegated.grant)), s') ∧
      s'.verifiedGrant (some delegated.serverId) = some grant := by
  obtain ⟨t, hexec, -, ht⟩ := applyDelegated_exec h henvelope
  obtain ⟨_, t', hrecords⟩ := storeDelegatedRecords_returns delegated grant t
  have ho : t'.outside (delegatedRecords grant.profileId delegated.serverId) = _ :=
    Keeping.leaves.of_exec hrecords
  have hholds := ht.holds.of_outside ho (by
    simp [grantEntries, delegatedRecords, documentSessionKey])
  refine ⟨{ t' with
    storage := (t'.storage.remove (.fixed .delegationCheckpoint)).remove
      (.fixed .pendingAdminContext) }, ?_, h.verified ?_ ?_⟩
  · rw [checkpointed] at hexec
    simp [importDelegatedGrant, checkDelegatedGrant_ok.2 h, storeDelegatedGrant, hexec,
      requireSuccess, hrecords]
  · exact (congrArg Outside.currentTimeMillis ho).trans ht.currentTimeMillis
  · have hget : ∀ entry ∈ grantEntries delegated.serverId,
        ((t'.storage.remove (.fixed .delegationCheckpoint)).remove
          (.fixed .pendingAdminContext)).get entry = t'.storage.get entry := by
      simp [grantEntries, Storage.get_remove]
    exact hholds.of_entries hget

end Import

def confirmationBody (opId serverId key : String) (raw : Json) : JsonObject :=
  [("op_id", .string opId), ("status", .string "applied"),
    ("data", .object
      [("grant", raw), ("server_id", .string serverId), ("server_public_key", .string key)])]

section Confirmation

variable {response grant : AdminEnvelope} {opId serverId key : String} {raw : Json}
  (htype : response.type = typeAdmin)
  (hsubtype : response.subtype = subtypeResponse)
  (hpayload : P.decodePayload response.payload =
    .ok (.object (confirmationBody opId serverId key raw)))
include htype hsubtype hpayload

theorem receiptData_confirmation : receiptData P response =
    some [("grant", raw), ("server_id", .string serverId), ("server_public_key", .string key)] := by
  simp [receiptData, htype, hsubtype, hpayload, Except.toOption, Json.jsonObject,
    confirmationBody, optionalText, JsonObject.contentOf, JsonObject.get,
    Json.content, List.lookup_cons]

theorem parseGrant_confirmation {body : String}
    (hfits : fits grantPrefix body = true)
    (hresponse : P.decodeLinkBody body = some response) (hgrant : P.decodeEnvelope raw = some grant)
    (hgranted : grant.subtype = subtypeGrant)
    (hprofile : grant.profileId = response.profileId) (hserver : isBlank serverId = false)
    (hkey : isBlank key = false) :
    parseGrant P (grantPrefix ++ body) =
      some { response := response, grant := grant, serverId := serverId, serverPublicKey := key
             documentUrl := "", clientKey := "", serverKey := "" } := by
  have hdecode : decode P grantPrefix
      (grantPrefix ++ body) = some response := by
    rw [decode_append (by decide) hfits, hresponse]
  set data : JsonObject :=
    [("grant", raw), ("server_id", .string serverId), ("server_public_key", .string key)] with hdata
  have hdecoded : receiptData P response = some data :=
    receiptData_confirmation htype hsubtype hpayload
  have hraw : JsonObject.get data "grant" = some raw := rfl
  have hid : text data "server_id" = some serverId :=
    Option.filter_some_pos (by rw [hserver]; rfl)
  have hkeyed : text data "server_public_key" = some key :=
    Option.filter_some_pos (by rw [hkey]; rfl)
  have habsent : ∀ name, data.lookup name = none →
      optionalText data name = some none := by
    intro name hname
    rw [optionalText, JsonObject.contentOf, JsonObject.get, hname]
    rfl
  simp [parseGrant, hdecode, hdecoded, hraw, hgrant, hgranted, hprofile, hid,
    hkeyed, habsent "document_url" rfl, habsent "client_key" rfl, habsent "server_key" rfl, habsent
    "transfer_id" rfl, Option.bind_eq_bind, Option.pure_def]

theorem verifyDelegationReceipt_confirmation {s : AdminState P} {fingerprint : String}
    (hpinned : s.checkDelegationKey serverId key fingerprint = .ok ())
    (hsender : response.sender = "server") (hopId : opId = response.opId)
    (hexp : s.currentTimeSeconds < response.exp)
    (hverified : P.verifyServerResponse response key (some key) = true) :
    s.verifyDelegationReceipt response serverId key fingerprint = .ok () := by
  simp [verifyDelegationReceipt, hpinned, hpayload, htype, hsubtype, hsender, hexp, hverified,
    confirmationBody, hopId, fieldIs, jsonField, delegatedServerId, JsonObject.contentOf,
    JsonObject.get, Json.content, Json.jsonObject, List.lookup_cons, require, bind,
    Except.bind, pure, Except.pure, andM, Functor.map, Except.map, toBool]

end Confirmation

@[reducible] def requestRecords : List StorageKey :=
  [.fixed .commandHistory, .fixed .pendingRequest, .fixed .lastPairingCode,
    .fixed .pendingAdminContext]

/-- A request link leaves its request open, also if it is too long to be handed out. -/
theorem createAdminRequestLink_exec {s : AdminState P}
    (hcheckpoint : s.storage.get (.fixed .delegationCheckpoint) = none) {profileId : String}
    (hprofile : isBlank profileId = false) {role : AdminRole} (hrole : role.granted = true)
    (seed : JoinSeed) :
    let s' := ((createAdminRequestLink seed none profileId role).exec s).2
    s'.requests =
        (some (joinEnvelope P s.currentTimeSeconds seed profileId role none none), s.serverNodes) ∧
      s'.storage.get (.fixed .pendingAdminContext) = some (.json
        [("profile_id", .string profileId), ("role", .string role.name)]) ∧
      s'.outside requestRecords = s.outside requestRecords := by
  obtain ⟨joined, hjoin, hrequests⟩ :=
    createJoinRequest_exec hcheckpoint seed profileId role none none
  have hexec : ((createAdminRequestLink seed none profileId role).exec s).2 =
      { joined with
        storage := joined.storage.put (.fixed .pendingAdminContext) (.json
          [("profile_id", .string profileId), ("role", .string role.name)]) } := by
    simp [createAdminRequestLink, hprofile, hrole, hjoin]
  have hleaves : (createAdminRequestLink seed none profileId role : AdminM P _).Leaves
      (outside requestRecords) := by
    dsimp only [createAdminRequestLink]
    exact Keeping.leaves
  refine ⟨?_, ?_, hleaves.exec s⟩
  · rw [hexec]
    exact hrequests
  · rw [hexec]
    exact Storage.get_put_self ..

end LibreRoute.Admin
