import LibreRoute.Lib.Keeping
import LibreRoute.Sync.Models
import LibreRoute.Tunnels.Repository

/-!
The state of the route synchronisation: the entries of the contexts the
device is enrolled in, the stored tunnels and the key files.

A context is a text that stands before the names of its entries. No name
of an entry ends with another one, so the contexts do not share entries;
this is `text_context_inj`.
-/

namespace LibreRoute.Sync

open Lib Tunnels
open Admin (Throwable AdminEnvelope)

inductive SyncKey
  | deviceId
  | userId
  | profileId
  | docUrl
  | secretKey
  | revision
  | trustedServerKey
  | lastCheckedAt
  | routesJson
  | managedTunnelIds
  deriving DecidableEq, Repr

def SyncKey.text : SyncKey → String
  | .deviceId => "sync_device_id"
  | .userId => "sync_user_id"
  | .profileId => "sync_profile_id"
  | .docUrl => "sync_doc_url"
  | .secretKey => "sync_secret_key"
  | .revision => "sync_revision"
  | .trustedServerKey => "sync_trusted_server_key"
  | .lastCheckedAt => "sync_last_checked_at"
  | .routesJson => "sync_routes_json"
  | .managedTunnelIds => "sync_managed_tunnel_ids"

/-- The keys a context is cleared of, in the order of the source. -/
def SyncKey.all : List SyncKey :=
  [.deviceId, .userId, .profileId, .docUrl, .secretKey, .revision, .trustedServerKey,
    .lastCheckedAt, .routesJson, .managedTunnelIds]

inductive Address
  | context (context : String) (key : SyncKey)
  | syncContexts
  | activeSyncContext
  | redemption (invitationHash : String)
  | pendingEnrollment (enrollmentId : String)
  deriving DecidableEq, Repr

namespace Address

def text : Address → String
  | .context c key => c ++ key.text
  | .syncContexts => "client_sync_contexts"
  | .activeSyncContext => "client_active_sync_context"
  | .redemption invitationHash => "client_redemption_checkpoint_" ++ invitationHash
  | .pendingEnrollment enrollmentId => "pending_enrollment_" ++ enrollmentId

theorem key_suffix_key {k k' : SyncKey} (h : k.text.toList <:+ k'.text.toList) : k = k' := by
  revert h
  cases k <;> cases k' <;> decide

theorem suffix_of_text_eq {c : String} {k : SyncKey} {name : String}
    (h : (context c k).text = name) : k.text.toList <:+ name.toList := by
  refine ⟨c.toList, ?_⟩
  rw [← String.toList_append]
  exact congrArg String.toList h

theorem text_context_inj {c c' : String} {k k' : SyncKey} :
    (context c k).text = (context c' k').text ↔ c = c' ∧ k = k' := by
  constructor
  · intro h
    have hs : k.text.toList <:+ c'.toList ++ k'.text.toList := by
      rw [← String.toList_append]
      exact suffix_of_text_eq h
    have hk : k = k' := by
      rcases List.suffix_or_suffix_of_suffix hs (List.suffix_append _ _) with hs | hs
      · exact key_suffix_key hs
      · exact (key_suffix_key hs).symm
    subst hk
    exact ⟨String.append_left_inj _ |>.1 h, rfl⟩
  · rintro ⟨rfl, rfl⟩
    rfl

theorem text_context_ne_syncContexts (c : String) (k : SyncKey) :
    (context c k).text ≠ syncContexts.text := by
  intro h
  have hs := suffix_of_text_eq h
  revert hs
  cases k <;> decide

theorem text_context_ne_active (c : String) (k : SyncKey) :
    (context c k).text ≠ activeSyncContext.text := by
  intro h
  have hs := suffix_of_text_eq h
  revert hs
  cases k <;> decide

/-- A digest is longer than the name of an entry, and has other characters. -/
theorem text_context_ne_redemption (L : SyncLibraries) (c : String) (k : SyncKey)
    (link : String) : (context c k).text ≠ (redemption (L.invitationHash link)).text := by
  intro h
  have hs : k.text.toList <:+
      "client_redemption_checkpoint_".toList ++ (L.invitationHash link).toList := by
    rw [← String.toList_append]
    exact suffix_of_text_eq h
  have hhex := L.invitationHash_hex link
  simp only [matchesHex, Bool.and_eq_true, beq_iff_eq] at hhex
  rcases List.suffix_or_suffix_of_suffix hs (List.suffix_append _ _) with hs | hs
  · have hname : k.text.toList.all isLowerHex = true :=
      List.all_eq_true.2 fun x hx => List.all_eq_true.1 hhex.1 x (hs.subset hx)
    revert hname
    cases k <;> decide
  · have hlong : 64 ≤ k.text.toList.length := hhex.2 ▸ hs.length_le
    revert hlong
    cases k <;> decide

end Address

/-! ### Documents -/

structure VerifiedInvitationCandidate where
  invitationId : String
  profileId : String
  name : String
  documentUrl : String
  secretKey : String
  parameters : List (String × String) := []
  revision : Int
  issuedAt : Int
  expiresAt : Int
  deviceId : String := ""
  userId : String := ""
  serverId : String := ""
  routes : List RouteCandidate := []
  deriving DecidableEq, Repr

/-- The texts of the request and of the receipt are kept as the envelopes they stand for. -/
structure ClientRedemptionCheckpoint where
  invitationHash : String
  request : AdminEnvelope
  serverKey : String
  receipt : Option AdminEnvelope := none
  candidate : Option VerifiedInvitationCandidate := none
  tunnels : List Tunnel := []
  completed : Bool := false
  deriving DecidableEq, Repr

/-- An entry as it was written. Reading it as another kind of value fails to decode. -/
inductive Entry
  | text (value : String)
  | number (value : Int)
  | ids (ids : List Int)
  | routes (routes : List RouteCandidate)
  | contexts (contexts : List String)
  | checkpoint (record : ClientRedemptionCheckpoint)
  | envelope (request : AdminEnvelope)
  deriving DecidableEq, Repr

namespace Entry

def asText : Entry → Option String
  | .text value => some value
  | _ => none

def asNumber : Entry → Option Int
  | .number value => some value
  | _ => none

def asIds : Entry → Option (List Int)
  | .ids value => some value
  | _ => none

def asRoutes : Entry → Option (List RouteCandidate)
  | .routes value => some value
  | _ => none

def asContexts : Entry → Option (List String)
  | .contexts value => some value
  | _ => none

def asCheckpoint : Entry → Option ClientRedemptionCheckpoint
  | .checkpoint record => some record
  | _ => none

def asEnvelope : Entry → Option AdminEnvelope
  | .envelope request => some request
  | _ => none

end Entry

/-- The entries by their names, as the process reads them. `apply()` leaves the writing to a later
time, so the disk may still hold the entries of an earlier moment. -/
structure Storage where
  entries : String → Option Entry
  earlier : List (String → Option Entry) := []

namespace Storage

def empty : Storage := ⟨fun _ => none, []⟩

def get (st : Storage) (address : Address) : Option Entry := st.entries address.text

@[simp] theorem get_empty (address : Address) : empty.get address = none := rfl

/-- `putString`, where a null value removes the entry. -/
def put (st : Storage) (address : Address) (value : Option Entry) : Storage :=
  ⟨Function.update st.entries address.text value, st.entries :: st.earlier⟩

variable (st : Storage) (c : String) (k : SyncKey) (value : Option Entry)

@[simp] theorem get_put_self (address : Address) (value : Option Entry) :
    (st.put address value).get address = value := Function.update_self ..

theorem get_put_of_ne {address address' : Address} (value : Option Entry)
    (h : address'.text ≠ address.text) : (st.put address value).get address' = st.get address' :=
  Function.update_of_ne h ..

@[simp] theorem get_put_context (c' : String) (k k' : SyncKey) (value : Option Entry) :
    (st.put (.context c k) value).get (.context c' k') =
      if c' = c ∧ k' = k then value else st.get (.context c' k') := by
  split_ifs with h
  · obtain ⟨rfl, rfl⟩ := h
    exact get_put_self ..
  · exact get_put_of_ne st value fun ht => h (Address.text_context_inj.1 ht)

@[simp] theorem get_put_syncContexts :
    (st.put .syncContexts value).get (.context c k) = st.get (.context c k) :=
  get_put_of_ne st value (Address.text_context_ne_syncContexts c k)

@[simp] theorem get_put_activeSyncContext :
    (st.put .activeSyncContext value).get (.context c k) = st.get (.context c k) :=
  get_put_of_ne st value (Address.text_context_ne_active c k)

@[simp] theorem get_syncContexts_put_context :
    (st.put (.context c k) value).get .syncContexts = st.get .syncContexts :=
  get_put_of_ne st value (Address.text_context_ne_syncContexts c k).symm

end Storage

/-! ### The state -/

/-- `storage`, `store` and `files` outlive the process. -/
structure SyncState where
  storage : Storage
  store : TunnelStore
  files : FileSystem
  /-- `getPinnedServerPublicKey()`. -/
  pinnedServerKey : Option String := none
  currentTimeMillis : Int
  /-- Whether the running services were told to disconnect. -/
  vpnStopped : Bool := false
  /-- The redemption requests that were handed to a transport, in this order. -/
  redemptions : List AdminEnvelope := []
  /-- The keys that were pinned for single servers, the latest first. -/
  serverKeys : List (String × String) := []

abbrev SyncM (α : Type) := Prog Throwable SyncState α

namespace SyncState

variable (s : SyncState) (c : String)

def text (key : SyncKey) : Option String := (s.storage.get (.context c key)).bind Entry.asText

def getLong (key : SyncKey) (default : Int) : Int :=
  ((s.storage.get (.context c key)).bind Entry.asNumber).getD default

/-- The ids as a set, in the order they were written. -/
def managedTunnelIds : List Int :=
  (((s.storage.get (.context c .managedTunnelIds)).bind Entry.asIds).getD []).eraseDups

def routes : List RouteCandidate :=
  ((s.storage.get (.context c .routesJson)).bind Entry.asRoutes).getD []

def isEnrolled : Bool := ! isNullOrBlank (s.text c .deviceId)

def syncContexts : List String :=
  let indexed := ((s.storage.get .syncContexts).bind Entry.asContexts).getD []
  let legacy := if s.isEnrolled "" then [""] else []
  (indexed ++ legacy).eraseDups.filter s.isEnrolled

theorem syncContexts_nodup : s.syncContexts.Nodup := (nodup_eraseDups _).filter _

def activeSyncContext : String :=
  match ((s.storage.get .activeSyncContext).bind Entry.asText).filter
      (s.syncContexts.contains ·) with
  | some context => context
  | none => s.syncContexts.getLast?.getD ""

def isEnrolledInRouteSync : Bool := ! s.syncContexts.isEmpty

end SyncState

def putEntry (address : Address) (value : Option Entry) : SyncM Unit :=
  Prog.write fun s => { s with storage := s.storage.put address value }

def onStore {α : Type} (m : Prog Throwable TunnelStore α) : SyncM α :=
  Prog.zoom SyncState.store (fun store s => { s with store := store }) m

def onFiles {α : Type} (m : Prog Throwable FileSystem α) : SyncM α :=
  Prog.zoom SyncState.files (fun files s => { s with files := files }) m

@[simp] theorem putEntry_exec (address : Address) (value : Option Entry) (s : SyncState) :
    (putEntry address value).exec s =
      (.ok (), { s with storage := s.storage.put address value }) := exec_write _ _

@[simp] theorem onStore_exec {α : Type} (m : Prog Throwable TunnelStore α) (s : SyncState) :
    (onStore m).exec s = ((m.exec s.store).1, { s with store := (m.exec s.store).2 }) :=
  exec_zoom ..

@[simp] theorem onFiles_exec {α : Type} (m : Prog Throwable FileSystem α) (s : SyncState) :
    (onFiles m).exec s = ((m.exec s.files).1, { s with files := (m.exec s.files).2 }) :=
  exec_zoom ..

section Every

variable {s : SyncState} {E : SyncState → Prop}

theorem putEntry_wp {address : Address} {value : Option Entry} {Q : Unit → SyncState → Prop}
    (hQ : Q () { s with storage := s.storage.put address value }) (hE : E s) :
    (putEntry address value).wp Q E s := wp_write hQ hE

theorem onStore_wp {α : Type} {m : Prog Throwable TunnelStore α} {Q : α → SyncState → Prop}
    (h : m.wp (fun a store => Q a { s with store := store })
      (fun store => E { s with store := store }) s.store) : (onStore m).wp Q E s :=
  wp_zoom h

end Every

def clearSyncContext (c : String) : SyncM Unit := do
  let remaining ← Prog.read fun s => s.syncContexts.filter (· != c)
  Prog.forEach SyncKey.all fun key => putEntry (.context c key) none
  putEntry .syncContexts (some (.contexts remaining))
  let active ← Prog.read fun s => (s.storage.get .activeSyncContext).bind Entry.asText
  Prog.when (active == some c) (putEntry .activeSyncContext (remaining.getLast?.map .text))

/-- The context of a profile, a server key and a device: the one that is there, or a new one. -/
def SyncState.enrolledContext (L : SyncLibraries) (s : SyncState)
    (deviceId profileId trustedServerPub : String) : String :=
  match s.syncContexts.find? fun c =>
      s.text c .profileId == some profileId &&
        s.text c .trustedServerKey == some trustedServerPub &&
        s.text c .deviceId == some deviceId with
  | some existing => existing
  | none =>
    "client_sync_" ++
      L.invitationHash (trustedServerPub ++ "|" ++ profileId ++ "|" ++ deviceId) ++ "_"

def saveEnrolledSyncState (L : SyncLibraries)
    (deviceId userId profileId documentUrl secretKey : String) (revision : Int)
    (trustedServerPub : String) (routes : List RouteCandidate) : SyncM Unit := do
  let contexts ← Prog.read SyncState.syncContexts
  let c ← Prog.read fun s => s.enrolledContext L deviceId profileId trustedServerPub
  putEntry (.context c .deviceId) (some (.text deviceId))
  putEntry (.context c .userId) (some (.text userId))
  putEntry (.context c .profileId) (some (.text profileId))
  putEntry (.context c .docUrl) (some (.text documentUrl))
  putEntry (.context c .secretKey) (some (.text secretKey))
  putEntry (.context c .revision) (some (.number revision))
  putEntry (.context c .trustedServerKey) (some (.text trustedServerPub))
  let now ← Prog.read SyncState.currentTimeMillis
  putEntry (.context c .lastCheckedAt) (some (.number now))
  putEntry (.context c .routesJson) (some (.routes (routes.filter RouteCandidate.isAvailable)))
  putEntry .syncContexts (some (.contexts (contexts ++ [c]).eraseDups))
  putEntry .activeSyncContext (some (.text c))

/-- `I` does not speak about the entry at an address. -/
class Overlooks (I : SyncState → Prop) (address : Address) : Prop where
  put : ∀ value s, I s → I { s with storage := s.storage.put address value }

/-- `I` does not speak about the tunnels, the key files and the running services. -/
class OfStorage (I : SyncState → Prop) : Prop where
  congr : ∀ {s} store files stopped, I s →
    I { s with store := store, files := files, vpnStopped := stopped }

section Keeping

variable {I : SyncState → Prop} {α β : Type} {f : SyncState → β} {b : β}

instance {address : Address} [h : ∀ value s,
      Same (f { s with storage := s.storage.put address value }) (f s)] :
    Overlooks (fun s => f s = b) address := ⟨fun value s hs => (h value s).eq.trans hs⟩

instance [h : ∀ s store files stopped,
      Same (f { s with store := store, files := files, vpnStopped := stopped }) (f s)] :
    OfStorage (fun s => f s = b) := ⟨fun _ _ _ hs => (h _ _ _ _).eq.trans hs⟩

instance {address : Address} {value : Option Entry} [h : Overlooks I address] :
    Keeping I (putEntry address value) := ⟨keeps_write (h.put value)⟩

instance {m : Prog Throwable TunnelStore α} [h : OfStorage I] : Keeping I (onStore m) := by
  have hstore : ∀ store, Maintains I fun s => { s with store := store } := fun store =>
    ⟨fun s => h.congr store s.files s.vpnStopped⟩
  unfold onStore
  infer_instance

instance {m : Prog Throwable FileSystem α} [h : OfStorage I] : Keeping I (onFiles m) := by
  have hfiles : ∀ files, Maintains I fun s => { s with files := files } := fun files =>
    ⟨fun s => h.congr s.store files s.vpnStopped⟩
  unfold onFiles
  infer_instance

instance {c : String} [∀ key, Keeping I (putEntry (.context c key) none)]
    [Overlooks I .syncContexts] [Overlooks I .activeSyncContext] :
    Keeping I (clearSyncContext c) := by
  unfold clearSyncContext
  infer_instance

-- the size of an answer doubles with every line of a program
set_option synthInstance.maxSize 100000 in
instance {L : SyncLibraries} {d u p url k key : String} {rev : Int} {routes : List RouteCandidate}
    [∀ c key, Overlooks I (.context c key)] [Overlooks I .syncContexts]
    [Overlooks I .activeSyncContext] :
    Keeping I (saveEnrolledSyncState L d u p url k rev key routes) := by
  unfold saveEnrolledSyncState
  infer_instance

end Keeping

end LibreRoute.Sync
