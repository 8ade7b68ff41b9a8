import LibreRoute.Tunnels.Models
import LibreRoute.Admin.Models
import LibreRoute.Lib.Program

/-!
The key files of the tunnels: each tunnel with a key has a file of its own in
the directory of the application, and its payload names that file.

`ensureLocalKeyFile` looks for the key in the tunnel, in the file the payload
names, if that is inside the directory, and in the file of the tunnel, in this
order.
-/

namespace LibreRoute.Tunnels

open Lib
open Admin (Throwable)

/-- The directory of the application and how a path is resolved. The key files are
regular files of the directory: only the application writes to it, and it makes no links. -/
structure Device where
  /-- `context.filesDir.absolutePath`. -/
  filesDir : String
  /-- `context.filesDir.canonicalFile.absolutePath`. -/
  canonicalDir : String
  /-- `File(path).canonicalFile.absolutePath`. -/
  canonicalFile : String → Except Throwable String
  own_files : ∀ id : Int, canonicalFile (filesDir ++ "/key_" ++ longText id ++ ".txt") =
    .ok (canonicalDir ++ "/key_" ++ longText id ++ ".txt")

/-- The texts of the readable files, by canonical path. -/
structure FileSystem where
  text : String → Option String

def FileSystem.put (fs : FileSystem) (path : String) (content : Option String) : FileSystem :=
  ⟨Function.update fs.text path content⟩

@[simp] theorem FileSystem.text_put_self (fs : FileSystem) (path : String)
    (content : Option String) : (fs.put path content).text path = content := by
  simp [put]

theorem FileSystem.text_put_of_ne {path path' : String} (h : path' ≠ path) (fs : FileSystem)
    (content : Option String) : (fs.put path content).text path' = fs.text path' := by
  simp [put, h]

namespace Device

variable (d : Device)

def keyPath (id : Int) : String := d.filesDir ++ "/key_" ++ longText id ++ ".txt"

/-- The file it stands for. -/
def keyFile (id : Int) : String := d.canonicalDir ++ "/key_" ++ longText id ++ ".txt"

def isInside (path : String) : Bool :=
  path == d.canonicalDir || startsWith path (d.canonicalDir ++ "/")

def readText (fs : FileSystem) (path : String) : Option String :=
  match d.canonicalFile path with
  | .ok file => fs.text file
  | .error _ => none

theorem keyFile_injective : Function.Injective d.keyFile := by
  intro a b h
  exact longText_injective ((String.append_right_inj _).1 ((String.append_left_inj _).1 h))

theorem keyPath_injective : Function.Injective d.keyPath := by
  intro a b h
  exact longText_injective ((String.append_right_inj _).1 ((String.append_left_inj _).1 h))

theorem isInside_keyFile (id : Int) : d.isInside (d.keyFile id) = true := by
  have hpath : d.keyFile id = d.canonicalDir ++ "/" ++ ("key_" ++ longText id ++ ".txt") := by
    rw [keyFile, show "/key_" = "/" ++ "key_" from rfl]
    simp only [String.append_assoc]
  simp [isInside, hpath, startsWith]

theorem readText_keyPath (fs : FileSystem) (id : Int) :
    d.readText fs (d.keyPath id) = fs.text (d.keyFile id) := by
  simp [readText, keyPath, keyFile, d.own_files]

end Device

def keyFileFlag : String := "--encryption-key-file"

def keyFileArgument (payload : List String) : Option String :=
  payload[payload.idxOf keyFileFlag + 1]?

theorem keyFileArgument_of_notMem {p : List String} (h : keyFileFlag ∉ p) :
    keyFileArgument p = none := by
  simp [keyFileArgument, List.idxOf_eq_length h]

def removeKeyFile (payload : List String) : List String :=
  let keyIdx := payload.idxOf keyFileFlag
  payload.take keyIdx ++ payload.drop (keyIdx + 2)

def setKeyFile (payload : List String) (path : String) : List String :=
  let keyIdx := payload.idxOf keyFileFlag
  if keyIdx + 1 < payload.length then payload.set (keyIdx + 1) path
  else payload ++ [keyFileFlag, path]

theorem removeKeyFile_eq_self_iff {p : List String} : removeKeyFile p = p ↔ keyFileFlag ∉ p := by
  constructor
  · intro heq hmem
    have hidx := List.idxOf_lt_length_iff.2 hmem
    have hlength := congrArg List.length heq
    simp only [removeKeyFile, List.length_append, List.length_take, List.length_drop] at hlength
    omega
  · intro h
    simp [removeKeyFile, List.idxOf_eq_length h]

theorem setKeyFile_injective (p : List String) : Function.Injective (setKeyFile p) := by
  intro path path' h
  unfold setKeyFile at h
  dsimp only at h
  split at h
  · next hlt =>
      have hget := congrArg (·[p.idxOf keyFileFlag + 1]?) h
      simpa [hlt] using hget
  · simpa using h

/-! ### Making the key file -/

section Materialise

variable (d : Device)

/-- A key without the white space around it; an empty one counts as none. -/
def trimmedKey (text : Option String) : Option String := (text.map trim).filter (· != "")

/-- The key of a tunnel, if it has one. The empty key says that it was deleted on purpose. -/
def localKey (fs : FileSystem) (t : Tunnel) : Except Throwable (Option String) :=
  if t.encryptionKey = some "" then .ok none
  else
    match trimmedKey t.encryptionKey with
    | some key => .ok (some key)
    | none => do
        let named ←
          match keyFileArgument t.transportConnPayload with
          | none => pure none
          | some path => do
              let file ← d.canonicalFile path
              pure (if d.isInside file then trimmedKey (fs.text file) else none)
        match named with
        | some key => pure (some key)
        | none =>
          pure (if keyFileFlag ∈ t.transportConnPayload then
            trimmedKey (d.readText fs (d.keyPath t.id)) else none)

/-- The tunnel with its key and with its key file as the argument, or without both. -/
def withLocalKey (t : Tunnel) (key : Option String) : Tunnel :=
  { t with
    encryptionKey := key
    transportConnPayload :=
      if key.isSome then setKeyFile t.transportConnPayload (d.keyPath t.id)
      else removeKeyFile t.transportConnPayload }

/-- The tunnel as it is stored, if it keeps its key. -/
def materialise (t : Tunnel) : Tunnel := withLocalKey d t t.encryptionKey

/-- Without a key the key file is deleted, otherwise it is written; neither is allowed to fail
the call. -/
def ensureLocalKeyFile (t : Tunnel) : Prog Throwable FileSystem Tunnel := do
  let found ← Prog.read fun fs => localKey d fs t
  let key ← Prog.ofExcept found
  (Prog.write fun fs => fs.put (d.keyFile t.id) key).attempt fun _ => pure ()
  pure (withLocalKey d t key)

variable {d}

@[simp] theorem trimmedKey_none : trimmedKey none = none := rfl

theorem trimmedKey_of_trimmed {text : Option String} {key : String}
    (h : trimmedKey text = some key) : trimmedKey (some key) = some key := by
  obtain ⟨hkey, hne⟩ := Option.filter_eq_some_iff.1 h
  obtain ⟨text', -, rfl⟩ := Option.map_eq_some_iff.1 hkey
  rw [trimmedKey, Option.map_some, trim_trim]
  exact Option.filter_some_pos hne

theorem localKey_trimmed {fs : FileSystem} {t : Tunnel} {key : String}
    (h : localKey d fs t = .ok (some key)) : trimmedKey (some key) = some key := by
  unfold localKey at h
  split at h
  · simp at h
  split at h
  · next hkey => exact trimmedKey_of_trimmed (hkey.trans (Except.ok.inj h))
  rcases hargument : keyFileArgument t.transportConnPayload with _ | path
  · simp only [hargument, pure_eq_ok, ok_bind, Except.ok.injEq] at h
    split at h
    · exact trimmedKey_of_trimmed h
    · simp at h
  · rcases hfile : d.canonicalFile path with e | file
    · simp [hargument, hfile] at h
    · simp only [hargument, hfile, pure_eq_ok, ok_bind] at h
      split at h
      · next key' hnamed =>
          obtain rfl : key' = key := Option.some.inj (Except.ok.inj h)
          split at hnamed
          · exact trimmedKey_of_trimmed hnamed
          · simp at hnamed
      · rw [Except.ok.injEq] at h
        split at h
        · exact trimmedKey_of_trimmed h
        · simp at h

@[simp] theorem withLocalKey_id (t : Tunnel) (key : Option String) :
    (withLocalKey d t key).id = t.id := rfl

@[simp] theorem withLocalKey_isAvailable (t : Tunnel) (key : Option String) :
    (withLocalKey d t key).isAvailable = t.isAvailable := rfl

theorem ensureLocalKeyFile_exec (fs : FileSystem) (t : Tunnel) :
    (ensureLocalKeyFile d t).exec fs =
      match localKey d fs t with
      | .error e => (.error e, fs)
      | .ok key => (.ok (withLocalKey d t key), fs.put (d.keyFile t.id) key) := by
  rcases hkey : localKey d fs t with e | key <;> simp [ensureLocalKeyFile, hkey]

theorem ensureLocalKeyFile_wp {fs : FileSystem} {t : Tunnel} {Q : Tunnel → FileSystem → Prop}
    {E : FileSystem → Prop} (hE : E fs)
    (h : ∀ key, localKey d fs t = .ok key → ∀ fs',
      fs' = fs ∨ fs' = fs.put (d.keyFile t.id) key → Q (withLocalKey d t key) fs') :
    (ensureLocalKeyFile d t).wp Q E fs := by
  refine wp_bind (wp_read (wp_bind (wp_ofExcept (fun key hkey => ?_) hE)))
  refine wp_bind (wp_attempt (wp_write ?_ rfl) ?_ ?_)
  · exact wp_pure (h key hkey _ (Or.inr rfl))
  · rintro fs' rfl
    exact hE
  · rintro _ fs' rfl
    exact wp_pure (wp_pure (h key hkey _ (Or.inl rfl)))

end Materialise

end LibreRoute.Tunnels
