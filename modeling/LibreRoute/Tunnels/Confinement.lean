import LibreRoute.Tunnels.LinkParser

/-!
What the link parser does to the files of the device.

`imported` says which tunnel a text stands for and where its key comes from;
`parse_exec` says that the parser returns that tunnel with its key file made.
From this follow exactly when the key files of the stored tunnels are left
alone, and when the answer depends on nothing outside the directory of the
application.
-/

namespace LibreRoute.Tunnels

open Lib
open Admin (Throwable)

variable (L : LinkLibraries) (d : Device) {fs fs' : FileSystem} {newId : Int}
  {input : Option String}

def keyed (fs : FileSystem) : Option Tunnel → Except Throwable (Option (Tunnel × Option String))
  | none => .ok none
  | some t => do
      let key ← localKey d fs t
      pure (some (t, key))

/-- The tunnel a text stands for, with the key that is found for it. -/
def imported (fs : FileSystem) (newId : Int) (input : Option String) :
    Except Throwable (Option (Tunnel × Option String)) :=
  let trimmed := trim (input.getD "")
  if isNullOrBlank input || isControlPlaneInput L trimmed then .ok none
  else
    match keyed d fs (linkTunnel L newId trimmed) with
    | .ok (some found) => .ok (some found)
    | _ => textTunnel L d fs newId trimmed >>= keyed d fs

/-- What becomes of the answer and of the files once the tunnel and its key are known. -/
def materialised (fs : FileSystem) :
    Except Throwable (Option (Tunnel × Option String)) →
      Except Throwable (Option Tunnel) × FileSystem
  | .error e => (.error e, fs)
  | .ok none => (.ok none, fs)
  | .ok (some (t, key)) => (.ok (some (withLocalKey d t key)), fs.put (d.keyFile t.id) key)

theorem prepared_exec (fs : FileSystem) (tunnel : Option Tunnel) :
    (prepared d tunnel).exec fs = materialised d fs (keyed d fs tunnel) := by
  cases tunnel with
  | none => simp [prepared, keyed, materialised]
  | some t =>
    rcases hkey : localKey d fs t with e | key <;>
      simp [prepared, keyed, materialised, ensureLocalKeyFile_exec, hkey]

theorem parse_exec (fs : FileSystem) (newId : Int) (input : Option String) :
    (parse L d newId input).exec fs = materialised d fs (imported L d fs newId input) := by
  simp only [parse, imported]
  split_ifs
  · simp [materialised]
  · rcases hlink : keyed d fs (linkTunnel L newId (trim (input.getD ""))) with e | _ | ⟨t, key⟩
    all_goals
      rcases htext : textTunnel L d fs newId (trim (input.getD "")) with e' | tunnel <;>
      simp [prepared_exec, hlink, htext, materialised]

/-! ### The key files of the stored tunnels -/

/-- A text does not stand for a stored tunnel, or the key that is found for it is what the key
file of that tunnel already holds. -/
def SparesKeyFiles (fs : FileSystem) (newId : Int) (input : Option String)
    (stored : List Tunnel) : Prop :=
  ∀ t key, imported L d fs newId input = .ok (some (t, key)) → t.id ∈ stored.map (·.id) →
    fs.text (d.keyFile t.id) = key

theorem materialised_text_keyFile (fs : FileSystem) (t : Tunnel) (key : Option String) (id : Int) :
    (materialised d fs (.ok (some (t, key)))).2.text (d.keyFile id) =
      if id = t.id then key else fs.text (d.keyFile id) := by
  split_ifs with h
  · rw [h]
    exact FileSystem.text_put_self _ _ _
  · exact FileSystem.text_put_of_ne (fun he => h (d.keyFile_injective he)) _ _

/-- Parsing leaves the key files of the stored tunnels as they are exactly if the text spares
them: the id of a tunnel is taken from the text. -/
theorem parse_keeps_keyFiles_iff (fs : FileSystem) (newId : Int) (input : Option String)
    (stored : List Tunnel) :
    (∀ t ∈ stored, ((parse L d newId input).exec fs).2.text (d.keyFile t.id) =
      fs.text (d.keyFile t.id)) ↔ SparesKeyFiles L d fs newId input stored := by
  rw [parse_exec]
  constructor
  · intro h t key himported hstored
    obtain ⟨u, hu, hid⟩ := List.mem_map.1 hstored
    have hkept := h u hu
    rw [himported, materialised_text_keyFile, if_pos hid, hid] at hkept
    exact hkept.symm
  · intro h u hu
    rcases himported : imported L d fs newId input with e | _ | ⟨t, key⟩
    · rfl
    · rfl
    · rw [materialised_text_keyFile]
      split_ifs with hid
      · rw [hid]
        exact (h t key himported (hid ▸ List.mem_map_of_mem hu)).symm
      · rfl

/-- A phone: the directory of the application is reached through a link. -/
def phone : Device where
  filesDir := "/data/user/0/" ++ "io.github.libreroute/files"
  canonicalDir := "/data/data/" ++ "io.github.libreroute/files"
  canonicalFile path := .ok (if startsWith path "/data/user/0/" then
    "/data/data/" ++ removePrefix path "/data/user/0/" else path)
  own_files id := by
    simp only [String.append_assoc, startsWith_append, removePrefix_append, if_true]

/-- A tunnel as JSON, with an id of its own. -/
def jsonLink : String :=
  "\x7b\"id\":1767225600000123,\"name\":\"My-home-1\",\"transportType\":\"yandex\",\"transportConnPayload\":[],\"encryptionKey\":\"some-other-key\"\x7d"

def jsonLinkTunnel : Tunnel where
  id := 1767225600000123
  name := "My-home-1"
  transportType := "yandex"
  transportConnPayload := []
  encryptionKey := "some-other-key"

/-- The libraries on the texts below: the one is JSON, and none is Base64. -/
def phoneLibraries : LinkLibraries where
  parseToJsonElement text :=
    if text = jsonLink then
      .ok (.object [("id", .literal "1767225600000123"), ("name", .string "My-home-1"),
        ("transportType", .string "yandex"), ("transportConnPayload", .array []),
        ("encryptionKey", .string "some-other-key")])
    else .error (.platform (some "Unexpected JSON token"))
  decodeTunnel text := if text = jsonLink then some jsonLinkTunnel else none
  parseUri _ := none
  uriDecode text := some text
  base64Text _ _ := none
  javaUri _ := none
  urlDecode text := some text

set_option maxRecDepth 2000 in
theorem jsonLink_imported (fs : FileSystem) :
    imported phoneLibraries phone fs 0 jsonLink =
      .ok (some (jsonLinkTunnel, some "some-other-key")) := by
  have hchars : jsonLink.toList = _ := String.toList_ofList
  have hblank : isNullOrBlank jsonLink = false := by
    simp only [isNullOrBlank, isBlank, hchars]
    decide
  have htrim : trim jsonLink = jsonLink := by
    apply trim_of_any_ends <;> rw [hchars] <;> rfl
  have hplain : isControlPlaneJson phoneLibraries jsonLink = false := by
    simp [isControlPlaneJson, phoneLibraries, Except.toOption, Json.jsonObject, hasField,
      JsonObject.get]
  have hbase64 : decodeBase64Text phoneLibraries jsonLink = none := rfl
  have hmissing :
      ['?', '&', '/'].all (fun c => ! (jsonLink.toList.map foldCase).contains c) = true := by
    rw [hchars]
    decide
  simp only [List.all_cons, List.all_nil, Bool.and_true, Bool.and_eq_true, Bool.not_eq_true',
    List.contains_eq_mem, decide_eq_false_iff_not] at hmissing
  obtain ⟨hask, hand, hslash⟩ := hmissing
  have hnames : namesBundle jsonLink = false := by
    simp only [namesBundle, List.any_cons, List.any_nil]
    rw [containsIgnoreCase_of_missing (by decide) hask,
      containsIgnoreCase_of_missing (by decide) hand,
      containsIgnoreCase_of_missing (by decide) hask,
      containsIgnoreCase_of_missing (by decide) hand]
    rfl
  have hinvitation : startsWithIgnoreCase jsonLink "libreroute://invitation?" = false := by
    simp only [startsWithIgnoreCase, hchars, String.reduceToList]
    decide
  have hcontrol : isControlPlaneInput phoneLibraries jsonLink = false := by
    simp [isControlPlaneInput, hinvitation, hnames, hplain, hbase64]
  have hlink : linkTunnel phoneLibraries 0 jsonLink = none := by
    have himport : containsIgnoreCase jsonLink "://import" = false :=
      containsIgnoreCase_of_missing (by decide) hslash
    simp only [linkTunnel, startsWithIgnoreCase, himport, hchars, String.reduceToList]
    decide
  have hjson : jsonTunnel phoneLibraries 0 jsonLink = some jsonLinkTunnel := by
    have hdecoded : decodeTunnelFromJson phoneLibraries 0 jsonLink = some jsonLinkTunnel := by
      rw [decodeTunnelFromJson, hplain, if_neg Bool.false_ne_true]
      simp [phoneLibraries]
    have hbraces : (startsWith jsonLink "\x7b" && endsWith jsonLink "\x7d") = true := by
      simp only [startsWith, endsWith, hchars, String.reduceToList]
      decide
    rw [jsonTunnel, if_pos hbraces, hdecoded]
    rfl
  have hkey : trimmedKey (some "some-other-key") = some "some-other-key" := by decide
  simp [imported, hblank, htrim, hcontrol, hlink, keyed, textTunnel, hjson, localKey,
    jsonLinkTunnel, hkey]

/-- A text with the id of a stored tunnel replaces the key of that tunnel. -/
theorem parse_replaces_keyFile : ¬ ∀ (L : LinkLibraries) (d : Device) (fs : FileSystem)
    (newId : Int) (input : Option String) (stored : List Tunnel), ∀ t ∈ stored,
      ((parse L d newId input).exec fs).2.text (d.keyFile t.id) = fs.text (d.keyFile t.id) := by
  intro h
  have hkept := h phoneLibraries phone
    ((⟨fun _ => none⟩ : FileSystem).put (phone.keyFile jsonLinkTunnel.id) "home-key") 0 jsonLink
    [{ jsonLinkTunnel with name := "Home", encryptionKey := "home-key" }] _
    (List.mem_singleton_self _)
  rw [parse_exec, jsonLink_imported, materialised_text_keyFile, if_pos rfl,
    FileSystem.text_put_self] at hkept
  simp at hkept

/-! ### Files outside the directory -/

/-- The two file systems have the same files inside the directory. -/
def AgreeInside (fs fs' : FileSystem) : Prop :=
  ∀ path, d.isInside path = true → fs.text path = fs'.text path

/-- The key of the tunnel does not depend on a path that cannot be resolved. -/
def KeyResolves (t : Tunnel) : Prop :=
  t.encryptionKey = some "" ∨ trimmedKey t.encryptionKey ≠ none ∨
    ∀ path, keyFileArgument t.transportConnPayload = some path →
      ∃ file, d.canonicalFile path = .ok file

/-- The text is a command line that is not taken for a link or for JSON, and it names a key
file outside the directory. -/
structure ReadsOutside (newId : Int) (input : Option String) : Prop where
  not_blank : isNullOrBlank input = false
  not_control : isControlPlaneInput L (trim (input.getD "")) = false
  no_link : ∀ t, linkTunnel L newId (trim (input.getD "")) = some t → ¬ KeyResolves d t
  no_json : jsonTunnel L newId (trim (input.getD "")) = none
  command_line : isCommandLine (trim (input.getD "")) = true
  transport : ∃ transType, transportFrom
    ((getArg (splitSpaces (trim (input.getD ""))) "--transport").getD "yandex") = .ok transType
  named : commandLineKeyFile (trim (input.getD "")) ≠ ""
  outside : ∃ file, d.canonicalFile (commandLineKeyFile (trim (input.getD ""))) = .ok file ∧
    d.isInside file = false

variable {L d}

theorem localKey_congr (h : AgreeInside d fs fs') (t : Tunnel) :
    localKey d fs t = localKey d fs' t := by
  have hown : d.readText fs (d.keyPath t.id) = d.readText fs' (d.keyPath t.id) := by
    rw [d.readText_keyPath, d.readText_keyPath, h _ (d.isInside_keyFile _)]
  have hnamed : ∀ file, (if d.isInside file = true then trimmedKey (fs.text file) else none) =
      if d.isInside file = true then trimmedKey (fs'.text file) else none := by
    intro file
    split_ifs with hinside
    · rw [h _ hinside]
    · rfl
  simp only [localKey, hown, hnamed]

theorem localKey_ok_iff {t : Tunnel} : (∃ key, localKey d fs t = .ok key) ↔ KeyResolves d t := by
  unfold localKey KeyResolves
  by_cases hdeleted : t.encryptionKey = some ""
  · simp [hdeleted]
  rcases hown : trimmedKey t.encryptionKey with _ | key
  · rcases harg : keyFileArgument t.transportConnPayload with _ | path
    · simp [hdeleted]
    · rcases hfile : d.canonicalFile path with e | file
      · simp [hdeleted, hfile]
      · simp only [hdeleted, hfile, ok_bind, pure_eq_ok, if_false]
        split <;> simp [hfile]
  · simp [hdeleted]

theorem localKey_empty {t : Tunnel} (h : t.encryptionKey = none) (key : String) :
    localKey d ⟨fun _ => none⟩ t ≠ .ok (some key) := by
  have hread : d.readText ⟨fun _ => none⟩ (d.keyPath t.id) = none := d.readText_keyPath _ _
  unfold localKey
  rcases harg : keyFileArgument t.transportConnPayload with _ | path
  · simp [h, hread]
  · rcases hfile : d.canonicalFile path with e | file <;>
      simp [h, hread, hfile]

theorem keyed_congr (h : AgreeInside d fs fs') (tunnel : Option Tunnel) :
    keyed d fs tunnel = keyed d fs' tunnel := by
  cases tunnel with
  | none => rfl
  | some t => simp only [keyed, localKey_congr h]

theorem commandLineTunnel_congr {trimmed : String} (h : commandLineKeyFile trimmed ≠ "" →
      d.readText fs (commandLineKeyFile trimmed) = d.readText fs' (commandLineKeyFile trimmed)) :
    commandLineTunnel d fs newId trimmed = commandLineTunnel d fs' newId trimmed := by
  by_cases hnamed : commandLineKeyFile trimmed = ""
  · simp [commandLineTunnel, hnamed]
  · simp only [commandLineTunnel, h hnamed]

theorem textTunnel_congr (h : AgreeInside d fs fs') (hblank : isNullOrBlank input = false)
    (hcontrol : isControlPlaneInput L (trim (input.getD "")) = false)
    (hlink : ∀ t, linkTunnel L newId (trim (input.getD "")) = some t → ¬ KeyResolves d t)
    (hinside : ¬ ReadsOutside L d newId input) :
    textTunnel L d fs newId (trim (input.getD "")) =
      textTunnel L d fs' newId (trim (input.getD "")) := by
  unfold textTunnel
  rcases hjson : jsonTunnel L newId (trim (input.getD "")) with _ | t
  swap
  · rfl
  by_cases hcommand : isCommandLine (trim (input.getD "")) = true
  swap
  · simp [hcommand]
  simp only [hcommand, if_true]
  rcases htransport : transportFrom
      ((getArg (splitSpaces (trim (input.getD ""))) "--transport").getD "yandex") with e | transType
  · simp [commandLineTunnel, htransport]
  suffices hcongr : commandLineTunnel d fs newId (trim (input.getD "")) =
      commandLineTunnel d fs' newId (trim (input.getD "")) by rw [hcongr]
  refine commandLineTunnel_congr fun hnamed => ?_
  rcases hfile : d.canonicalFile (commandLineKeyFile (trim (input.getD ""))) with e | file
  · simp only [Device.readText, hfile]
  · simp only [Device.readText, hfile]
    refine h _ (Bool.not_eq_false _ ▸ fun houtside => hinside ?_)
    exact ⟨hblank, hcontrol, hlink, hjson, hcommand, ⟨transType, htransport⟩, hnamed,
      ⟨file, hfile, houtside⟩⟩

theorem keyed_eq_some_iff {tunnel : Option Tunnel} :
    (∃ found, keyed d fs tunnel = .ok (some found)) ↔ ∃ t, tunnel = some t ∧ KeyResolves d t := by
  cases tunnel with
  | none => simp [keyed]
  | some t =>
    have hresolves : KeyResolves d t ↔ ∃ key, localKey d fs t = .ok key := localKey_ok_iff.symm
    simp only [Option.some.injEq, exists_eq_left', hresolves]
    rcases hkey : localKey d fs t <;> simp [keyed, hkey]

theorem imported_of_not_link (hblank : isNullOrBlank input = false)
    (hcontrol : isControlPlaneInput L (trim (input.getD "")) = false)
    (hlink : ∀ t, linkTunnel L newId (trim (input.getD "")) = some t → ¬ KeyResolves d t) :
    imported L d fs newId input =
      textTunnel L d fs newId (trim (input.getD "")) >>= keyed d fs := by
  have hnone : ¬ ∃ found, keyed d fs (linkTunnel L newId (trim (input.getD ""))) =
      .ok (some found) := by
    rw [keyed_eq_some_iff]
    rintro ⟨t, ht, hresolves⟩
    exact hlink t ht hresolves
  simp only [imported, hblank, hcontrol, Bool.or_false, Bool.false_eq_true, if_false]
  split
  · next found hfound => exact absurd ⟨found, hfound⟩ hnone
  · rfl

theorem imported_congr (h : AgreeInside d fs fs') (hinside : ¬ ReadsOutside L d newId input) :
    imported L d fs newId input = imported L d fs' newId input := by
  have hkeyed : keyed d fs = keyed d fs' := funext (keyed_congr h)
  by_cases hrefused : (isNullOrBlank input || isControlPlaneInput L (trim (input.getD ""))) = true
  · simp [imported, hrefused]
  have hpassed : isNullOrBlank input = false ∧
      isControlPlaneInput L (trim (input.getD "")) = false := by simpa using hrefused
  by_cases hlink : ∃ t, linkTunnel L newId (trim (input.getD "")) = some t ∧ KeyResolves d t
  · obtain ⟨found, hfound⟩ : ∃ found, keyed d fs' _ = .ok (some found) := keyed_eq_some_iff.2 hlink
    simp only [imported, hkeyed, hfound]
  · have hlink' : ∀ t, linkTunnel L newId (trim (input.getD "")) = some t → ¬ KeyResolves d t :=
      fun t ht hresolves => hlink ⟨t, ht, hresolves⟩
    rw [imported_of_not_link hpassed.1 hpassed.2 hlink',
      imported_of_not_link hpassed.1 hpassed.2 hlink', hkeyed,
      textTunnel_congr h hpassed.1 hpassed.2 hlink' hinside]

/-- Where the text reads outside, the file it names is what the tunnel gets as its key. -/
theorem ReadsOutside.imported_eq (h : ReadsOutside L d newId input) (fs : FileSystem) :
    ∃ t : Tunnel, t.encryptionKey =
        (d.readText fs (commandLineKeyFile (trim (input.getD "")))).map trim ∧
      imported L d fs newId input = keyed d fs (some t) := by
  obtain ⟨transType, htransport⟩ := h.transport
  rcases hcommand : commandLineTunnel d fs newId (trim (input.getD "")) with e | t
  · simp [commandLineTunnel, htransport] at hcommand
  refine ⟨t, ?_, ?_⟩
  · simp only [commandLineTunnel, htransport, ok_bind, pure_eq_ok, Except.ok.injEq] at hcommand
    simp [← hcommand, h.named]
  · rw [imported_of_not_link h.not_blank h.not_control h.no_link]
    simp only [textTunnel, h.no_json, h.command_line, if_true, hcommand]
    rfl

theorem ReadsOutside.not_confined (houtside : ReadsOutside L d newId input) :
    ¬ ∀ fs fs', AgreeInside d fs fs' →
      ((parse L d newId input).exec fs).1 = ((parse L d newId input).exec fs').1 := by
  intro h
  obtain ⟨file, hfile, hfileOutside⟩ := houtside.outside
  set empty : FileSystem := ⟨fun _ => none⟩
  have hagree : AgreeInside d empty (empty.put file "x") := by
    intro path hpath
    refine (FileSystem.text_put_of_ne ?_ _ _).symm
    rintro rfl
    simp [hfileOutside] at hpath
  have hsame := h _ _ hagree
  obtain ⟨t, htkey, ht⟩ := houtside.imported_eq empty
  obtain ⟨t', htkey', ht'⟩ := houtside.imported_eq (empty.put file "x")
  have hkey : t.encryptionKey = none := by
    rw [htkey, Device.readText, hfile]
    rfl
  have hkey' : t'.encryptionKey = some "x" := by
    rw [htkey', Device.readText, hfile]
    simp [show trim "x" = "x" by decide]
  have hfound' : keyed d (empty.put file "x") (some t') = .ok (some (t', "x")) := by
    simp [keyed, localKey, hkey', show trimmedKey (some "x") = some "x" by
      decide]
  rw [parse_exec, parse_exec, ht, ht', hfound'] at hsame
  rcases hlocal : localKey d empty t with e | _ | key
  · simp [keyed, hlocal, materialised] at hsame
  · have hkeys := congrArg (Except.map fun r => r.map Tunnel.encryptionKey) hsame
    simp [keyed, hlocal, materialised, Except.map, withLocalKey] at hkeys
  · exact localKey_empty hkey key hlocal

/-- Parsing depends on nothing outside the directory exactly if the text does not name a key
file there on a command line. -/
theorem parse_confined_iff (L : LinkLibraries) (d : Device) (newId : Int)
    (input : Option String) :
    (∀ fs fs', AgreeInside d fs fs' →
      ((parse L d newId input).exec fs).1 = ((parse L d newId input).exec fs').1) ↔
      ¬ ReadsOutside L d newId input := by
  refine ⟨fun h houtside => houtside.not_confined h, fun hinside fs fs' h => ?_⟩
  rw [parse_exec, parse_exec, imported_congr h hinside]
  rcases imported L d fs' newId input with e | _ | ⟨t, key⟩ <;> rfl

/-- A command line that reads a file of the shared storage. -/
def commandLine : String :=
  "--transport yandex --url https://disk.yandex.ru/i/abc --encryption-key-file /storage/emulated/0/secret.txt"

theorem commandLine_trim : trim commandLine = commandLine := by
  have hchars : commandLine.toList = _ := String.toList_ofList
  apply trim_of_any_ends <;> rw [hchars] <;> rfl

theorem commandLine_tokens :
    splitSpaces commandLine = ["--transport", "yandex", "--url", "https://disk.yandex.ru/i/abc",
      "--encryption-key-file", "/storage/emulated/0/secret.txt"] := by
  have hchars : commandLine.toList = _ := String.toList_ofList
  simp only [splitSpaces, hchars]
  rfl

theorem commandLine_keyFile :
    commandLineKeyFile commandLine = "/storage/emulated/0/secret.txt" := by
  rw [commandLineKeyFile, commandLine_tokens]
  decide

theorem commandLine_readsOutside :
    ReadsOutside phoneLibraries phone 1767225600000123 commandLine where
  not_blank := by
    have hchars : commandLine.toList = _ := String.toList_ofList
    simp only [isNullOrBlank, isBlank, hchars]
    decide
  not_control := by
    have hbase64 : decodeBase64Text phoneLibraries commandLine = none := rfl
    rw [Option.getD_some, commandLine_trim]
    have hchars : commandLine.toList = _ := String.toList_ofList
    simp only [isControlPlaneInput, hbase64, startsWithIgnoreCase, namesBundle, List.any_cons,
      List.any_nil, containsIgnoreCase, startsWith, hchars, String.reduceToList]
    decide
  no_link t ht := by
    have hnone : linkTunnel phoneLibraries 1767225600000123 commandLine = none := by
      have hchars : commandLine.toList = _ := String.toList_ofList
      simp only [linkTunnel, startsWithIgnoreCase, containsIgnoreCase, hchars, String.reduceToList]
      decide
    rw [Option.getD_some, commandLine_trim, hnone] at ht
    simp at ht
  no_json := by
    have hchars : commandLine.toList = _ := String.toList_ofList
    have hopen : startsWith commandLine "\x7b" = false := by
      simp only [startsWith, hchars, String.reduceToList]
      decide
    rw [Option.getD_some, commandLine_trim, jsonTunnel, hopen]
    rfl
  command_line := by
    rw [Option.getD_some, commandLine_trim]
    have hchars : commandLine.toList = _ := String.toList_ofList
    simp only [isCommandLine, contains, List.any_cons, hchars, String.reduceToList]
    decide
  transport := ⟨.yandex, by
    rw [Option.getD_some, commandLine_trim, commandLine_tokens]
    decide⟩
  named := by
    rw [Option.getD_some, commandLine_trim, commandLine_keyFile]
    decide
  outside := ⟨"/storage/emulated/0/secret.txt", by
    rw [Option.getD_some, commandLine_trim, commandLine_keyFile]
    decide, by decide +kernel⟩

theorem parse_not_confined : ¬ ∀ (L : LinkLibraries) (d : Device) (newId : Int)
    (input : Option String) (fs fs' : FileSystem), AgreeInside d fs fs' →
      ((parse L d newId input).exec fs).1 = ((parse L d newId input).exec fs').1 :=
  fun h => commandLine_readsOutside.not_confined (h _ _ _ _)

end LibreRoute.Tunnels
