import LibreRoute.Admin.Models
import Mathlib.Data.List.Infix
import Mathlib.Logic.Function.Basic

/-!
The encrypted key-value store of the administrator repository.

Entries are addressed by text: a fixed name, or the name of a family followed
by a suffix. `text_eq_text` says when two keys are the same text: a server
whose id starts with `envelope` shares its grant entry with an envelope entry.
An entry holds the document that was written; read as another kind it fails to
decode.
-/

namespace LibreRoute.Admin

open LibreRoute.Lib

inductive FixedKey
  | role
  | activeGrant
  | activeGrantEnvelope
  | pinnedServerKey
  | managedProfiles
  | commandHistory
  | pendingRequest
  | lastPairingCode
  | serverNodes
  | installOperations
  | protocolOperations
  | revokedServerIds
  | pendingAdminContext
  | delegationCheckpoint
  deriving DecidableEq, Repr

inductive KeyFamily
  | pinnedServerKey
  | activeGrant
  | activeGrantEnvelope
  | documentSession
  | ownerTransfer
  deriving DecidableEq, Repr

inductive StorageKey
  | fixed (key : FixedKey)
  | keyed (family : KeyFamily) (suffix : String)
  deriving DecidableEq, Repr

def FixedKey.text : FixedKey → String
  | .role => "admin_role"
  | .activeGrant => "admin_active_grant"
  | .activeGrantEnvelope => "admin_active_grant_envelope"
  | .pinnedServerKey => "admin_pinned_server_key"
  | .managedProfiles => "admin_managed_profiles"
  | .commandHistory => "admin_command_history"
  | .pendingRequest => "admin_pending_join_request"
  | .lastPairingCode => "admin_last_pairing_code"
  | .serverNodes => "admin_server_nodes"
  | .installOperations => "admin_install_operations"
  | .protocolOperations => "admin_protocol_install_operations"
  | .revokedServerIds => "admin_locally_revoked_servers"
  | .pendingAdminContext => "admin_pending_context"
  | .delegationCheckpoint => "admin_delegation_checkpoint"

def KeyFamily.text : KeyFamily → String
  | .pinnedServerKey => "admin_pinned_server_key_"
  | .activeGrant => "admin_active_grant_"
  | .activeGrantEnvelope => "admin_active_grant_envelope_"
  | .documentSession => "admin_document_session_"
  | .ownerTransfer => "admin_owner_transfer_"

namespace StorageKey

def text : StorageKey → String
  | .fixed key => key.text
  | .keyed family suffix => family.text ++ suffix

/-- The two ways in which different keys are the same text. -/
@[simp] def Overlaps : StorageKey → StorageKey → Prop
  | .keyed .activeGrant i, .fixed .activeGrantEnvelope => i = "envelope"
  | .keyed .activeGrant i, .keyed .activeGrantEnvelope j => i = "envelope_" ++ j
  | _, _ => False

@[simp] theorem fixed_text_eq_fixed {k k' : FixedKey} :
    (fixed k).text = (fixed k').text ↔ k = k' := by
  cases k <;> cases k' <;> decide

theorem family_prefix_fixed {f : KeyFamily} {k : FixedKey}
    (h : f.text.toList <+: k.text.toList) : f = .activeGrant ∧ k = .activeGrantEnvelope := by
  revert h
  cases f <;> cases k <;> decide

theorem family_prefix_family {f f' : KeyFamily} (h : f.text.toList <+: f'.text.toList) :
    f = f' ∨ f = .activeGrant ∧ f' = .activeGrantEnvelope := by
  revert h
  cases f <;> cases f' <;> decide

@[simp] theorem keyed_text_eq_fixed {f : KeyFamily} {i : String} {k : FixedKey} :
    (keyed f i).text = (fixed k).text ↔ Overlaps (keyed f i) (fixed k) := by
  constructor
  · intro h
    have hp : f.text.toList <+: k.text.toList := by
      rw [← show (keyed f i).text = k.text from h, text, String.toList_append]
      exact List.prefix_append _ _
    obtain ⟨rfl, rfl⟩ := family_prefix_fixed hp
    have hi : "admin_active_grant_" ++ i = "admin_active_grant_" ++ "envelope" := h
    exact String.append_right_inj _ |>.1 hi
  · intro h
    match f, k, h with
    | .activeGrant, .activeGrantEnvelope, h =>
      rw [show i = "envelope" from h]
      rfl

@[simp] theorem fixed_text_eq_keyed {f : KeyFamily} {i : String} {k : FixedKey} :
    (fixed k).text = (keyed f i).text ↔ Overlaps (keyed f i) (fixed k) :=
  eq_comm.trans keyed_text_eq_fixed

@[simp] theorem keyed_text_eq_keyed {f f' : KeyFamily} {i j : String} :
    (keyed f i).text = (keyed f' j).text ↔
      keyed f i = keyed f' j ∨ Overlaps (keyed f i) (keyed f' j) ∨
        Overlaps (keyed f' j) (keyed f i) := by
  constructor
  · intro h
    have hl : f.text.toList ++ i.toList = f'.text.toList ++ j.toList := by
      rw [← String.toList_append, ← String.toList_append]
      exact congrArg String.toList h
    have hp : f.text.toList <+: f'.text.toList ++ j.toList := hl ▸ List.prefix_append _ _
    rcases List.prefix_or_prefix_of_prefix hp (List.prefix_append _ _) with hp | hp
    · rcases family_prefix_family hp with rfl | ⟨rfl, rfl⟩
      · exact .inl (congrArg _ (String.append_right_inj _ |>.1 h))
      · have hi : "admin_active_grant_" ++ i = "admin_active_grant_" ++ ("envelope_" ++ j) := by
          rw [← String.append_assoc]
          exact h
        exact .inr (.inl (String.append_right_inj _ |>.1 hi))
    · rcases family_prefix_family hp with rfl | ⟨rfl, rfl⟩
      · exact .inl (congrArg _ (String.append_right_inj _ |>.1 h))
      · have hj : "admin_active_grant_" ++ ("envelope_" ++ i) = "admin_active_grant_" ++ j := by
          rw [← String.append_assoc]
          exact h
        exact .inr (.inr (String.append_right_inj _ |>.1 hj).symm)
  · have overlap : ∀ {f f' : KeyFamily} {i j : String},
        Overlaps (keyed f i) (keyed f' j) → (keyed f i).text = (keyed f' j).text := by
      intro f f' i j h
      match f, f', h with
      | .activeGrant, .activeGrantEnvelope, h =>
        rw [show i = "envelope_" ++ j from h]
        change "admin_active_grant_" ++ ("envelope_" ++ j) =
          ("admin_active_grant_" ++ "envelope_") ++ j
        exact String.append_assoc.symm
    rintro (h | h | h)
    · rw [h]
    · exact overlap h
    · exact (overlap h).symm

theorem text_eq_text (k k' : StorageKey) :
    k.text = k'.text ↔ k = k' ∨ Overlaps k k' ∨ Overlaps k' k := by
  match k, k' with
  | .fixed a, .fixed b => simp
  | .fixed a, .keyed f i => simp
  | .keyed f i, .fixed a => simp
  | .keyed f i, .keyed f' j => exact keyed_text_eq_keyed

end StorageKey

/-- A document as it was serialised. -/
inductive Stored
  | text (value : String)
  | grant (grant : AdminGrant)
  | envelope (envelope : AdminEnvelope)
  | profiles (profiles : List ManagedProfile)
  | history (history : List AdminCommandRecord)
  | nodes (nodes : List ServerNode)
  | session (keys : DocumentSessionKeys)
  | installOperations (operations : List ServerInstallOperation)
  | protocolOperations (operations : List ProtocolInstallationOperation)
  | serverIds (ids : List String)
  | json (value : JsonObject)
  | checkpoint (request : AdminEnvelope) (link : String)

namespace Stored

def asText : Stored → Option String
  | .text value => some value
  | _ => none

def asGrant : Stored → Option AdminGrant
  | .grant value => some value
  | _ => none

def asEnvelope : Stored → Option AdminEnvelope
  | .envelope value => some value
  | _ => none

def asProfiles : Stored → Option (List ManagedProfile)
  | .profiles value => some value
  | _ => none

def asHistory : Stored → Option (List AdminCommandRecord)
  | .history value => some value
  | _ => none

def asNodes : Stored → Option (List ServerNode)
  | .nodes value => some value
  | _ => none

def asSession : Stored → Option DocumentSessionKeys
  | .session keys => some keys
  | _ => none

def asInstallOperations : Stored → Option (List ServerInstallOperation)
  | .installOperations operations => some operations
  | _ => none

def asProtocolOperations : Stored → Option (List ProtocolInstallationOperation)
  | .protocolOperations operations => some operations
  | _ => none

def asServerIds : Stored → Option (List String)
  | .serverIds ids => some ids
  | _ => none

def asJson : Stored → Option JsonObject
  | .json value => some value
  | _ => none

def asCheckpoint : Stored → Option (AdminEnvelope × String)
  | .checkpoint request link => some (request, link)
  | _ => none

end Stored

def Storage := String → Option Stored

namespace Storage

def empty : Storage := fun _ => none

def get (st : Storage) (key : StorageKey) : Option Stored := st key.text

def put (st : Storage) (key : StorageKey) (value : Stored) : Storage :=
  Function.update st key.text (some value)

def remove (st : Storage) (key : StorageKey) : Storage :=
  Function.update st key.text none

variable (st : Storage) (key key' : StorageKey)

@[simp] theorem get_empty : empty.get key = none := rfl

theorem get_put (value : Stored) :
    (st.put key value).get key' = if key'.text = key.text then some value else st.get key' :=
  Function.update_apply ..

theorem get_remove :
    (st.remove key).get key' = if key'.text = key.text then none else st.get key' :=
  Function.update_apply ..

@[simp] theorem get_put_self (value : Stored) :
    (st.put key value).get key = some value := by simp [get_put]

@[simp] theorem get_remove_self : (st.remove key).get key = none := by simp [get_remove]

theorem get_put_of_ne {key key' : StorageKey} (value : Stored) (h : key'.text ≠ key.text) :
    (st.put key value).get key' = st.get key' := by
  simp [get_put, h]

theorem get_put_fixed_of_ne {key key' : FixedKey} (value : Stored) (h : key' ≠ key) :
    (st.put (.fixed key) value).get (.fixed key') = st.get (.fixed key') :=
  get_put_of_ne st value (by simp [h])

theorem get_remove_fixed_of_ne {key key' : FixedKey} (h : key' ≠ key) :
    (st.remove (.fixed key)).get (.fixed key') = st.get (.fixed key') := by
  simp [get_remove, h]

def removeAll (st : Storage) (keys : List StorageKey) : Storage := keys.foldl remove st

theorem get_removeAll (keys : List StorageKey) (key' : StorageKey) : (st.removeAll keys).get key' =
      if key'.text ∈ keys.map StorageKey.text then none else st.get key' := by
  induction keys generalizing st with
  | nil => simp [removeAll]
  | cons key keys ih =>
    change ((st.remove key).removeAll keys).get key' = _
    rw [ih, get_remove]
    by_cases hk : key'.text = key.text <;> simp [hk]

end Storage

end LibreRoute.Admin
