import LibreRoute.Admin.Recorded
import LibreRoute.Sync.Reply
import LibreRoute.Tunnels.Confinement

/-!
Exchanges with a server: what a context has to hold for a request to be
made, and what a signed reply then comes to.

The phone and the server at the end are those of the runs described
elsewhere. Routes are read out of the JSON text of a reply; signatures and
digests are looked up, as on the recorded platforms.
-/

namespace LibreRoute.Sync

open Lib Tunnels DirectDpiProfile RouteCandidate SyncState
open Admin (Throwable AdminEnvelope Recording serverKey1 serverKey2)

structure Enrolment where
  deviceId : String
  profileId : String
  docUrl : String
  secretKey : String
  serverKey : String

structure SyncState.Holds (s : SyncState) (c : String) (e : Enrolment) : Prop where
  deviceId : s.text c .deviceId = some e.deviceId
  profileId : s.text c .profileId = some e.profileId
  docUrl : s.text c .docUrl = some e.docUrl
  secretKey : s.text c .secretKey = some e.secretKey
  serverKey : s.text c .trustedServerKey = some e.serverKey

variable {force : Bool}

section Reply

variable {L : SyncLibraries} {call : SyncCall} {c : String} {s : SyncState} {e : Enrolment}

/-- The last check is not recent, or does not count. -/
def SyncState.Due (s : SyncState) (c : String) (force : Bool) : Prop :=
  force = true ∨ 10000 ≤ s.currentTimeMillis - s.getLong c .lastCheckedAt 0

theorem SyncState.Due.not_recent (h : s.Due c force) :
    (! force && decide (s.currentTimeMillis - s.getLong c .lastCheckedAt 0 < 10000)) = false := by
  rcases h with rfl | h
  · rfl
  · have hlate : ¬ s.currentTimeMillis - s.getLong c .lastCheckedAt 0 < 10000 := by omega
    simp [hlate]

theorem syncVerdict_of_reply {env : AdminEnvelope} (h : s.Holds c e) (hdue : s.Due c force)
    (hreply : ∀ request, call.reply e.docUrl e.profileId e.secretKey request e.serverKey = .ok env)
    (hverify : L.platform.verifyServerResponse env e.serverKey (some e.serverKey) = true)
    (hop : env.opId = call.opId) (hprofile : env.profileId = e.profileId) :
    syncVerdict L call force c s =
      replyVerdict L e.deviceId call.opId (s.getLong c .revision 1) s.currentTimeMillis
        env.payload := by
  simp only [syncVerdict, orFailed, h.deviceId, h.profileId, h.docUrl, h.secretKey, h.serverKey,
    hdue.not_recent]
  simp [hreply, hverify, hop, hprofile, syncRequest]

theorem syncVerdict_of_error {error : Throwable} (h : s.Holds c e) (hdue : s.Due c force)
    (hreply : ∀ request,
      call.reply e.docUrl e.profileId e.secretKey request e.serverKey = .error error) :
    syncVerdict L call force c s =
      .ok (.failed ("Ошибка синхронизации через документ: " ++ error.message.getD "null")) := by
  simp only [syncVerdict, orFailed, h.deviceId, h.profileId, h.docUrl, h.secretKey, h.serverKey,
    hdue.not_recent]
  simp [hreply]

@[simp] def Enrolment.put (e : Enrolment) (c : String) (st : Storage) : Storage :=
  ((((st.put (.context c .deviceId) (some (.text e.deviceId))).put
    (.context c .profileId) (some (.text e.profileId))).put
    (.context c .docUrl) (some (.text e.docUrl))).put
    (.context c .secretKey) (some (.text e.secretKey))).put
    (.context c .trustedServerKey) (some (.text e.serverKey))

theorem Enrolment.put_holds {st : Storage} (h : s.storage = e.put c st) : s.Holds c e := by
  constructor <;> simp [SyncState.text, h, Entry.asText]

theorem Enrolment.get_put (e : Enrolment) (st : Storage) {c c' : String} {key : SyncKey}
    (h : c' ≠ c ∨ key ∈ [SyncKey.revision, .lastCheckedAt, .routesJson, .managedTunnelIds]) :
    (e.put c st).get (.context c' key) = st.get (.context c' key) := by
  rcases h with h | h
  · simp [h]
  · simp only [List.mem_cons, List.not_mem_nil, or_false] at h
    rcases h with rfl | rfl | rfl | rfl <;> simp

end Reply

def decimal (text : String) : Option Int :=
  if text.toList.all Char.isDigit && ! text.toList.isEmpty then
    some (text.toList.foldl (fun n c => n * 10 + (c.toNat - 48 : Nat)) 0 : Nat)
  else none

def routeOf : Json → Except Throwable RouteCandidate
  | .object fields =>
    let text (key : String) := ((JsonObject.contentOf fields key).toOption.bind id).getD ""
    .ok { routeId := text "route_id", serverId := text "server_id",
          transport := text "transport", profileInstanceId := text "profile_instance_id",
          name := text "name", url := text "url", secretKey := text "secret_key" }
  | _ => .error (.platform none)

def routesOf : Json → Except Throwable (List RouteCandidate)
  | .array items => items.mapM routeOf
  | _ => .error (.platform none)

def httpsUri (host path : String) : JavaUri where
  scheme := some "https"
  rawUserInfo := none
  host := some host
  port := -1
  path := some path
  rawQuery := none
  fragment := none
  rawFragment := none

/-! ### A phone and a server -/

def updatedReply : AdminEnvelope where
  subtype := AdminEnvelope.subtypeResponse
  profileId := "user-1"
  opId := "op-5"
  exp := 1798761600
  sender := "server"
  nonce := "1f7a0b63-58d2-4c19-9e3b-70a4d6c2f815"
  payload := "eyJvcF9pZCI6Im9wLTUiLCJzdGF0dXMiOiJhcHBsaWVkIiwiZGF0YSI6eyJzdGF0dXMiOiJ1cGRhdGVkIiwiZGV2aWNlX2lkIjoicGhvbmUtMSIsInJldmlzaW9uIjoyLCJyb3V0ZXMiOlt7InJvdXRlX2lkIjoici0yIiwic2VydmVyX2lkIjoidmRzLTEiLCJ0cmFuc3BvcnQiOiJ2eWFuZGV4IiwibmFtZSI6Ik9mZmljZSIsInVybCI6Imh0dHBzOi8vdGVsZW1vc3QueWFuZGV4LnJ1L2ovMSIsInNlY3JldF9rZXkiOiJvZmZpY2Uta2V5In1dfX0"
  signature := "MEYCIQCZSSrP8ztwTZLgm8pUHINBxH/ZlJoo4h+FkPbyYSq+egIhAIS/7v+RkkE7mVDzvM5cQTUG9uNws0HYR9UAKdiuCzlT"

def revokedReply : AdminEnvelope :=
  { updatedReply with
    nonce := "94c2e5d7-0b6f-4a81-b3d9-25f8a17e6c40"
    payload := "eyJvcF9pZCI6Im9wLTUiLCJzdGF0dXMiOiJhcHBsaWVkIiwiZGF0YSI6eyJzdGF0dXMiOiJyZXZva2VkIiwiZGV2aWNlX2lkIjoicGhvbmUtMSJ9fQ"
    signature := "MEYCIQC6lRqbRefVXjLjfUINibqHSAAfvJpsYSebeCwLBMEWhAIhANlHfMbmMxq0FOI1J+sDzXNmq2VbSyK5d7uunxodi6yE" }

def officeRouteJson : Json := .object
  [("route_id", .string "r-2"), ("server_id", .string "vds-1"), ("transport", .string "vyandex"),
    ("name", .string "Office"), ("url", .string "https://telemost.yandex.ru/j/1"),
    ("secret_key", .string "office-key")]

def updatedBody : Json := .object
  [("op_id", .string "op-5"), ("status", .string "applied"),
    ("data", .object
      [("status", .string "updated"), ("device_id", .string "phone-1"),
        ("revision", .literal "2"), ("routes", .array [officeRouteJson])])]

def revokedBody : Json := .object
  [("op_id", .string "op-5"), ("status", .string "applied"),
    ("data", .object [("status", .string "revoked"), ("device_id", .string "phone-1")])]

def phoneRecording : Recording where
  fingerprint := Admin.deviceFingerprint
  publicKey := Admin.devicePublicKey
  codes := []
  requests := []
  grants := []
  signed := [(serverKey1, updatedReply), (serverKey1, revokedReply)]
  digests := []
  payloads := [(updatedReply.payload, updatedBody), (revokedReply.payload, revokedBody)]
  links := []

/-- The phone, the digest of the one text that is looked up being `digest`. -/
def phoneSync (digest : Nat) : SyncLibraries where
  platform := phoneRecording.platform
  links := phoneLibraries
  device := phone
  recipient := ⟨"181d85aaf967a9286ae28955bed78fb2dfd34fc1eb4b5d5d5fc739b0b28f5f6a",
    Admin.devicePublicKey⟩
  signCanonical _ := ""
  routeIdentity _ := ⟨"181d85aaf967a9286ae28955bed78fb2dfd34fc1eb4b5d5d5fc739b0b28f5f6a",
    Admin.devicePublicKey⟩
  isP256 _ := .ok true
  rawPath text := text
  encodePair _ := ""
  encodeGroup _ := ""
  toLongOrNull := decimal
  decodeRoutes := routesOf
  idDigest _ := digest
  idDigest_nonneg _ := Int.natCast_nonneg digest
  invitationHash _ := "39bf02542fe42087ea0044f17fc039fee3584c9379e88237005674c5a9684984"
  invitationHash_hex _ := by decide

def enrolment1 : Enrolment where
  deviceId := "phone-1"
  profileId := "user-1"
  docUrl := "https://disk.yandex.ru/i/abc"
  secretKey := "document-key"
  serverKey := serverKey1

def officeRoute : RouteCandidate where
  routeId := "r-2"
  serverId := "vds-1"
  transport := "vyandex"
  name := "Office"
  url := "https://telemost.yandex.ru/j/1"
  secretKey := "office-key"

/-- The server answers with `env`, and the tunnels are made at the same moment. -/
def answered (env : AdminEnvelope) : SyncCall where
  opId := "op-5"
  nonce := "0c6e2f9d-417b-4a58-86d0-f3b9a5e1c274"
  reply _ _ _ _ _ := .ok env
  moments _ := ⟨1767225600000, 123⟩

theorem reply_verified {reply : AdminEnvelope}
    (hsigned : (serverKey1, reply) ∈ phoneRecording.signed) :
    phoneRecording.platform.verifyServerResponse reply serverKey1 (some serverKey1) = true := by
  have hbytes : isBlank reply.signature = false ∧
      (Admin.decodeBase64 reply.signature).isSome = true := by
    simp only [phoneRecording, List.mem_cons, Prod.mk.injEq, List.not_mem_nil, or_false] at hsigned
    rcases hsigned with ⟨-, rfl⟩ | ⟨-, rfl⟩
    all_goals exact ⟨(isBlank_ofList _).trans rfl,
      (congrArg Option.isSome (Admin.decodeBase64_ofList _)).trans rfl⟩
  exact Recording.verifyServerResponse_of_mem ((isBlank_ofList _).trans rfl) Admin.serverKey1_point
    hbytes.1 hbytes.2 hsigned

theorem updatedReply_decoded :
    phoneRecording.platform.decodePayload updatedReply.payload = .ok updatedBody := by
  have hlookup : phoneRecording.payloads.lookup updatedReply.payload = some updatedBody := by
    rw [phoneRecording, List.lookup_cons_self]
  exact Recording.decodePayload_of_lookup hlookup

theorem revokedReply_decoded :
    phoneRecording.platform.decodePayload revokedReply.payload = .ok revokedBody := by
  have hlookup : phoneRecording.payloads.lookup revokedReply.payload = some revokedBody := by
    have hne : (revokedReply.payload == updatedReply.payload) = false := by
      simp [updatedReply, revokedReply]
    rw [phoneRecording, List.lookup_cons, hne, List.lookup_cons_self]
  exact Recording.decodePayload_of_lookup hlookup

variable (digest : Nat) (stored : List Tunnel)

@[simp] theorem phoneSync_platform : (phoneSync digest).platform = phoneRecording.platform := rfl

theorem updatedReply_verdict {rev : Int} (now : Int) (hrev : rev ≤ 2) :
    replyVerdict (phoneSync digest) "phone-1" "op-5" rev now updatedReply.payload =
      .ok (.updated 2 now [officeRoute]) := by
  have hnumber : (phoneSync digest).toLongOrNull "2" = some 2 := by
    change decimal "2" = some 2
    decide
  have hroutes : (phoneSync digest).decodeRoutes (.array [officeRouteJson]) = .ok [officeRoute] :=
    rfl
  have hnot : ¬ (2 : Int) < rev := by omega
  rw [replyVerdict, phoneSync_platform, updatedReply_decoded]
  simp [updatedBody, ofJson, Json.jsonObject, JsonObject.contentOf, JsonObject.get,
    List.lookup_cons, Json.content, hroutes, hnumber, hnot]

theorem revokedReply_verdict (rev now : Int) :
    replyVerdict (phoneSync digest) "phone-1" "op-5" rev now revokedReply.payload =
      .ok .revoked := by
  rw [replyVerdict, phoneSync_platform, revokedReply_decoded]
  simp [revokedBody, ofJson, Json.jsonObject, JsonObject.contentOf, JsonObject.get,
    List.lookup_cons, Json.content]

def phoneState (stored : List Tunnel) : SyncState where
  storage := enrolment1.put "" Storage.empty
  store := { stored := stored }
  files := ⟨fun _ => none⟩
  currentTimeMillis := 1767225600000

theorem phoneState_holds : (phoneState stored).Holds "" enrolment1 :=
  Enrolment.put_holds rfl

theorem phoneState_get {key : SyncKey}
    (h : key ∈ [SyncKey.revision, .lastCheckedAt, .routesJson, .managedTunnelIds]) :
    (phoneState stored).storage.get (.context "" key) = none :=
  Enrolment.get_put enrolment1 _ (Or.inr h)

@[simp] theorem phoneState_managedTunnelIds : (phoneState stored).managedTunnelIds "" = [] := by
  rw [managedTunnelIds, phoneState_get stored (by simp)]
  rfl

@[simp] theorem phoneState_routes : (phoneState stored).routes "" = [] := by
  rw [routes, phoneState_get stored (by simp)]
  rfl

theorem phoneState_due (force : Bool) : (phoneState stored).Due "" force := by
  refine Or.inr ?_
  rw [getLong, phoneState_get stored (by simp)]
  change (10000 : Int) ≤ 1767225600000 - 0
  decide

theorem phoneState_updated (force : Bool) (stored : List Tunnel) :
    syncVerdict (phoneSync digest) (answered updatedReply) force "" (phoneState stored) =
      .ok (.updated 2 1767225600000 [officeRoute]) := by
  have hrev : (phoneState stored).getLong "" .revision 1 = 1 := by
    rw [getLong, phoneState_get stored (by simp)]
    rfl
  have hverify : (phoneSync digest).platform.verifyServerResponse updatedReply
      enrolment1.serverKey (some enrolment1.serverKey) = true := by
    rw [phoneSync_platform]
    exact reply_verified List.mem_cons_self
  rw [syncVerdict_of_reply (phoneState_holds stored) (phoneState_due stored force) (fun _ => rfl)
    hverify rfl rfl, hrev]
  exact updatedReply_verdict digest _ (by decide)

theorem revokedReply_read {s : SyncState} {c : String} (h : s.Holds c enrolment1)
    (hdue : s.Due c force) :
    syncVerdict (phoneSync digest) (answered revokedReply) force c s = .ok .revoked := by
  have hverify : (phoneSync digest).platform.verifyServerResponse revokedReply
      enrolment1.serverKey (some enrolment1.serverKey) = true := by
    rw [phoneSync_platform]
    exact reply_verified (List.mem_cons_of_mem _ List.mem_cons_self)
  rw [syncVerdict_of_reply h hdue (fun _ => rfl) hverify rfl rfl]
  exact revokedReply_verdict digest _ _

/-- The tunnel of the route, with the key file of the tunnel `file`. -/
def officeTunnel (id file : Int) : Tunnel where
  id := id
  name := "Office"
  transportType := "vyandex"
  transportConnPayload :=
    ["--role=client", "--transport", "vyandex", "--url", "https://telemost.yandex.ru/j/1",
      "--codec=batched", "--encryption-layout=packet", "--peer-health", "--encryption-key-file",
      phone.keyPath file]
  encryptionKey := some "office-key"
  serverId := some "vds-1"

def office : Tunnel := officeTunnel 1767225600000123 1767225600000123

theorem officeRoute_tunnel (L : SyncLibraries) (id : Int) (fallbackName : String) :
    officeRoute.tunnel L id fallbackName =
      .ok { officeTunnel id id with transportConnPayload := officeRoute.payload L .vyandex } := by
  have hbindings : officeRoute.checkBindings L = .ok () := by
    simp [checkBindings, officeRoute, require]
  have htransport : transportFrom (ifBlank officeRoute.transport "vyandex") =
      .ok .vyandex := by decide
  have hendpoint : officeRoute.checkEndpoint L .vyandex = .ok () := by
    simp [checkEndpoint]
  have hname : officeRoute.tunnelName fallbackName = "Office" := by
    have hblank : isBlank officeRoute.name = false := by decide
    rw [tunnelName, hblank]
    rfl
  have hserver : (some officeRoute.serverId).filter (! isBlank ·) = some "vds-1" := by
    decide
  have hprofile : (some officeRoute.profileInstanceId).filter (! isBlank ·) = none := by
    decide
  simp only [tunnel, hbindings, htransport, hendpoint, hname, hserver, hprofile,
    ok_bind, pure_eq_ok]
  rfl

theorem office_withLocalKey (L : SyncLibraries) (id : Int) :
    withLocalKey phone { officeTunnel id id with
        transportConnPayload := officeRoute.payload L .vyandex } (some "office-key") =
      officeTunnel id id := by
  have hpayload : officeRoute.payload L .vyandex =
      ["--role=client", "--transport", "vyandex", "--url", "https://telemost.yandex.ru/j/1",
        "--codec=batched", "--encryption-layout=packet", "--peer-health"] := by
    have hcodec : ifBlank officeRoute.codec "batched" = "batched" := by
      decide
    have hlayout : ifBlank officeRoute.encryptionLayout "packet" = "packet" := by
      decide
    rw [RouteCandidate.payload, hcodec, hlayout]
    rfl
  rw [hpayload]
  rfl

def officeFiles (id : Int) : FileSystem :=
  (⟨fun _ => none⟩ : FileSystem).put (phone.keyFile id) (some "office-key")

theorem officeRoute_toTunnel {L : SyncLibraries} (hdevice : L.device = phone) (moment : Moment)
    (fallbackName : String) :
    (routeCandidateToTunnel L moment officeRoute fallbackName).exec ⟨fun _ => none⟩ =
      (.ok (officeTunnel moment.tunnelId moment.tunnelId), officeFiles moment.tunnelId) := by
  have hkey : localKey phone ⟨fun _ => none⟩ { officeTunnel moment.tunnelId moment.tunnelId with
      transportConnPayload := officeRoute.payload L .vyandex } = .ok (some "office-key") := by
    have htrimmed : trimmedKey (some "office-key") = some "office-key" := by decide
    simp [localKey, officeTunnel, htrimmed]
  rw [routeCandidateToTunnel, officeRoute_tunnel, hdevice]
  simp only [exec_bind, exec_ofExcept]
  rw [ensureLocalKeyFile_exec, hkey, ← office_withLocalKey L moment.tunnelId]
  rfl

theorem phoneState_made :
    (madeOf (phoneSync digest) "" (phoneState stored) (answered updatedReply).moments
      [officeRoute]).exec ⟨fun _ => none⟩ = (.ok [office], officeFiles 1767225600000123) := by
  have havailable : [officeRoute].filter isAvailable = [officeRoute] := by
    decide
  have htunnel := officeRoute_toTunnel (L := phoneSync digest) rfl
    ((answered updatedReply).moments 0) ""
  rw [madeOf, havailable, phoneState_managedTunnelIds, phoneState_routes, makeTunnels]
  simp only [exec_bind, htunnel, makeTunnels, exec_pure, stableId]
  rfl

theorem officeTunnel_ne_withLocalKey {id file : Int} (h : file ≠ id) (key : Option String) :
    officeTunnel id file ≠ withLocalKey phone (officeTunnel id file) key := by
  intro heq
  cases key with
  | none => exact absurd (congrArg Tunnel.encryptionKey heq) (by simp [officeTunnel, withLocalKey])
  | some key =>
    have hpayload : phone.keyPath file = phone.keyPath id := by
      have hlast := congrArg (fun t : Tunnel => t.transportConnPayload[9]?) heq
      exact Option.some.inj hlast
    exact h (phone.keyPath_injective hpayload)

theorem officeTunnel_isAvailable (id file : Int) : (officeTunnel id file).isAvailable = true := by
  change TransportType.isAvailableName "vyandex" = true
  decide

@[simp] theorem office_isAvailable : office.isAvailable = true := officeTunnel_isAvailable _ _

theorem officeTunnel_not_direct (id file : Int) : isDirect (officeTunnel id file) = false := by
  change (TransportType.fromOrNull "vyandex" == some .directDpi) = false
  decide

theorem phone_keyResolves (t : Tunnel) : KeyResolves phone t :=
  Or.inr (Or.inr fun _ _ => ⟨_, rfl⟩)

theorem phoneState_connections {l : List Tunnel} (havailable : ∀ t ∈ l, t.isAvailable = true)
    (hdirect : ∀ t ∈ l, isDirect t = false) :
    connections (phoneState (create :: l)).store.stored = create :: l :=
  connections_create_cons havailable hdirect

theorem phoneState_others {l : List Tunnel} (havailable : ∀ t ∈ l, t.isAvailable = true)
    (hdirect : ∀ t ∈ l, isDirect t = false) :
    (phoneState (create :: l)).others "" = create :: l := by
  rw [others, unmanaged, phoneState_connections havailable hdirect, phoneState_managedTunnelIds]
  simp only [List.contains_nil, Bool.not_false, List.filter_true]
  exact List.filter_eq_self.2 (List.forall_mem_cons.2 ⟨isAvailable_create, havailable⟩)

theorem phoneState_syncContexts : (phoneState stored).syncContexts = [""] := by
  have hindexed : (phoneState stored).storage.get .syncContexts = none := by
    simp [phoneState]
  have henrolled : (phoneState stored).isEnrolled "" = true := by
    rw [isEnrolled, (phoneState_holds stored).deviceId]
    decide
  have hdistinct : [""].eraseDups = [""] := by decide
  simp [syncContexts, hindexed, henrolled, hdistinct]

end LibreRoute.Sync
