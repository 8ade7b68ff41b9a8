import LibreRoute.Bridge.Target
import LibreRoute.Tunnels.LinkParser

/-!
`JitsiTokenStore.key` stores a token under a digest of the host and the path of its room,
`JitsiBrowserHandoff.sameRoom` compares host, port and path. The key joins host and path
without anything between them, leaves out the port and takes slashes from both ends of the
path. The two agree on the pairs of rooms for which none of this matters (`Agree`).
-/

namespace LibreRoute.Tunnels.Jitsi

open LibreRoute.Lib LibreRoute.Bridge

structure RoomLibraries where
  javaUri : String → Option JavaUri
  lowercase : String → String
  equalsIgnoreCase : String → String → Bool
  /-- The first 32 hexadecimal digits of the SHA-256 digest of a text. -/
  digest : String → String
  digest_injective : Function.Injective digest
  /-- A host is ASCII, where the two ways to leave out the case agree. -/
  host_case : ∀ {first second a b host host'}, javaUri first = some a → javaUri second = some b →
    a.host = some host → b.host = some host' →
      (equalsIgnoreCase host host' = true ↔ lowercase host = lowercase host')

variable (L : RoomLibraries)

def https (uri : JavaUri) : Bool := uri.scheme.any (L.equalsIgnoreCase · "https")

/-- The text `key` takes the digest of. -/
def canonical (raw : String) : Option String := do
  let uri ← L.javaUri raw
  guard (https L uri && !isNullOrBlank uri.host)
  some (L.lowercase (← uri.host) ++ L.lowercase (trimChars (← uri.path) ['/']))

def key (raw : String) : Option String := (canonical L raw).map ("room_" ++ L.digest ·)

def port (uri : JavaUri) : Int := if uri.port ≠ -1 then uri.port else 443

def sameRoom (first second : String) : Bool :=
  match L.javaUri first, L.javaUri second with
  | some a, some b =>
    https L a && https L b && equalsOrNull a.host b.host && port a == port b &&
      match a.path, b.path with
      | some path, some path' => L.equalsIgnoreCase (trimEnd path '/') (trimEnd path' '/')
      | _, _ => false
  | _, _ => false
where
  equalsOrNull : Option String → Option String → Bool
    | some host, some host' => L.equalsIgnoreCase host host'
    | none, none => true
    | _, _ => false

structure RoomUrl where
  raw : String
  uri : JavaUri
  host : String
  path : String
  parsed : L.javaUri raw = some uri
  scheme : https L uri = true
  host_eq : uri.host = some host
  named : isBlank host = false
  path_eq : uri.path = some path
  room : trimChars path ['/'] ≠ ""

namespace RoomUrl

variable {L} (a b : RoomUrl L)

def hostKey : List Char := (L.lowercase a.host).toList

def pathKey : List Char := (L.lowercase (trimChars a.path ['/'])).toList

/-- The conditions under which the key tells the same rooms apart as `sameRoom`. -/
structure Agree : Prop where
  /-- On one host and port, paths that are equal but for the case have one lower case. -/
  lower : a.hostKey = b.hostKey → port a.uri = port b.uri →
    L.equalsIgnoreCase (trimEnd a.path '/') (trimEnd b.path '/') → a.pathKey = b.pathKey
  /-- What the key leaves out, the port and slashes before the path, is the same. -/
  left_out : a.hostKey = b.hostKey → a.pathKey = b.pathKey →
    port a.uri = port b.uri ∧ L.equalsIgnoreCase (trimEnd a.path '/') (trimEnd b.path '/')
  /-- Neither host goes on with the beginning of the other's path. -/
  apart : ∀ text ≠ [], b.hostKey = a.hostKey ++ text → a.pathKey ≠ text ++ b.pathKey
  apart' : ∀ text ≠ [], a.hostKey = b.hostKey ++ text → b.pathKey ≠ text ++ a.pathKey

theorem canonical_raw : canonical L a.raw =
    some (L.lowercase a.host ++ L.lowercase (trimChars a.path ['/'])) := by
  simp [canonical, a.parsed, a.scheme, a.host_eq, a.path_eq, a.named]

theorem key_eq_key : key L a.raw = key L b.raw ↔
    a.hostKey ++ a.pathKey = b.hostKey ++ b.pathKey := by
  have hinj : Function.Injective ("room_" ++ L.digest ·) := fun x y h =>
    L.digest_injective (by simpa [← String.toList_inj] using h)
  rw [key, key, canonical_raw, canonical_raw, Option.map_some, Option.map_some,
    Option.some.injEq, hinj.eq_iff, ← String.toList_inj, String.toList_append,
    String.toList_append]
  rfl

theorem sameRoom_iff : sameRoom L a.raw b.raw ↔ a.hostKey = b.hostKey ∧
    port a.uri = port b.uri ∧ L.equalsIgnoreCase (trimEnd a.path '/') (trimEnd b.path '/') := by
  have hhost := (L.host_case a.parsed b.parsed a.host_eq b.host_eq).trans String.toList_inj.symm
  simp [sameRoom, sameRoom.equalsOrNull, a.parsed, b.parsed, a.scheme, b.scheme, a.host_eq,
    b.host_eq, a.path_eq, b.path_eq, hhost, hostKey, and_assoc]

/-- Two room URLs share a storage key exactly if they are the same room, for the rooms
that meet the conditions and for no others. -/
theorem key_tells_rooms :
    (key L a.raw = key L b.raw ↔ sameRoom L a.raw b.raw) ↔ Agree a b := by
  rw [key_eq_key]
  constructor
  · intro h
    have hsame := h.trans (sameRoom_iff a b)
    refine ⟨fun hhost hport hpath => ?_, fun hhost hpath => ?_, fun text htext hhost hpath => ?_,
      fun text htext hhost hpath => ?_⟩
    · have hkey := hsame.2 ⟨hhost, hport, hpath⟩
      rw [hhost] at hkey
      exact List.append_cancel_left hkey
    · exact (hsame.1 (by rw [hhost, hpath])).2
    · have hequal := (hsame.1 (by rw [hhost, hpath, List.append_assoc])).1
      exact htext (by simpa [hhost] using hequal)
    · have hequal := (hsame.1 (by rw [hhost, hpath, List.append_assoc])).1
      exact htext (by simpa [hhost] using hequal)
  · intro h
    constructor
    · intro hkey
      have hequal : a.hostKey = b.hostKey ∧ a.pathKey = b.pathKey := by
        rcases List.append_eq_append_iff.1 hkey with ⟨text, hhost, hpath⟩ | ⟨text, hhost, hpath⟩
        · obtain rfl : text = [] := by_contra fun htext => h.apart text htext hhost hpath
          exact ⟨by simpa using hhost.symm, by simpa using hpath⟩
        · obtain rfl : text = [] := by_contra fun htext => h.apart' text htext hhost hpath
          exact ⟨by simpa using hhost, by simpa using hpath.symm⟩
      exact (sameRoom_iff a b).2 ⟨hequal.1, h.left_out hequal.1 hequal.2⟩
    · intro hroom
      obtain ⟨hhost, hport, hpath⟩ := (sameRoom_iff a b).1 hroom
      rw [hhost, h.lower hhost hport hpath]

end RoomUrl

def httpsUri (host path : String) : JavaUri :=
  ⟨some "https", none, some host, -1, some path, none, none, none⟩

def recorded (raw : String) : Option JavaUri :=
  if raw = "https://meet.co/mroom" then some (httpsUri "meet.co" "/mroom")
  else if raw = "https://meet.com/room" then some (httpsUri "meet.com" "/room")
  else none

def recordedLibraries : RoomLibraries where
  javaUri := recorded
  lowercase := lowercase
  equalsIgnoreCase := equalsIgnoreCase
  digest := id
  digest_injective := Function.injective_id
  host_case := by
    intro first second a b host host' ha hb hhost hhost'
    unfold recorded at ha hb
    split_ifs at ha hb <;> cases ha <;> cases hb <;> cases hhost <;> cases hhost' <;> decide

/-- The rooms of two different hosts share a key. -/
theorem key_tells_rooms_fails :
    key recordedLibraries "https://meet.co/mroom" =
        key recordedLibraries "https://meet.com/room" ∧
      (key recordedLibraries "https://meet.co/mroom").isSome ∧
      sameRoom recordedLibraries "https://meet.co/mroom" "https://meet.com/room" = false := by
  decide

end LibreRoute.Tunnels.Jitsi
