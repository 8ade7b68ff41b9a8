import LibreRoute.Lib.Json
import LibreRoute.Tunnels.CommandLine
import LibreRoute.Tunnels.KeyFile

/-!
The parser of tunnel links: deep links, JSON, Base64, command lines and plain
addresses, in the order in which they are tried. What it takes from the
Android and JVM libraries are the fields of `LinkLibraries`. The id of a
tunnel that names none is a parameter: in one call at most one such id reaches
a file or the result.
-/

namespace LibreRoute.Tunnels

open Lib
open Admin (Throwable)

/-- `android.net.Uri`. -/
structure AndroidUri where
  text : String
  scheme : Option String
  host : Option String
  isHierarchical : Bool
  encodedAuthority : Option String
  authority : Option String
  schemeSpecificPart : Option String
  fragment : Option String
  pathSegments : List String
  queryParameterNames : List String
  getQueryParameter : String → Option String

/-- `java.net.URI`. -/
structure JavaUri where
  scheme : Option String
  rawUserInfo : Option String
  host : Option String
  port : Int
  path : Option String
  rawQuery : Option String
  fragment : Option String
  rawFragment : Option String

/-- The flags of `android.util.Base64`, in the order they are tried. -/
inductive Base64Flags
  | urlSafeNoWrap
  | urlSafe
  | default
  | noWrap

structure LinkLibraries where
  parseToJsonElement : String → Except Throwable Json
  /-- `json.decodeFromString<Tunnel>(text)`. -/
  decodeTunnel : String → Option Tunnel
  /-- `Uri.parse(text)`. -/
  parseUri : String → Option AndroidUri
  /-- `Uri.decode(text)`. -/
  uriDecode : String → Option String
  /-- The text of the bytes `Base64.decode(data, flags)` returns, if there are any. -/
  base64Text : Base64Flags → String → Option String
  /-- `URI(address)`. -/
  javaUri : String → Option JavaUri
  /-- `URLDecoder.decode(text, "UTF-8")`. -/
  urlDecode : String → Option String

namespace ServiceRouteEndpoint

def isNameChar (c : Char) : Bool := c.isAlphanum || c == '_' || c == '-'

def channelName (s : String) : Bool :=
  match s.toList with
  | [] => false
  | c :: rest => c.isAlphanum && rest.all isNameChar && decide (rest.length ≤ 127)

def roomPart (s : String) : Bool :=
  s.toList.all isNameChar && decide (1 ≤ s.toList.length ∧ s.toList.length ≤ 128)

def removeSlash (path : String) : String :=
  if endsWith path "/" then String.ofList path.toList.dropLast else path

def queryTopics (L : LinkLibraries) (rawQuery : Option String) : Option (List String) :=
  match rawQuery with
  | none => some []
  | some query =>
    (split query '&').mapM fun pair =>
      if contains pair "=" && substringBefore pair '=' == "topic" then
        L.urlDecode (substringAfter pair '=')
      else none

def isValidMqtt (L : LinkLibraries) (uri : JavaUri) : Bool :=
  uri.scheme == some "wss" && ! isNullOrBlank uri.path &&
    match queryTopics L uri.rawQuery with
    | none => false
    | some pairs =>
      decide (pairs.length ≤ 1) &&
        match uri.fragment <|> singleOrNull pairs with
        | none => false
        | some topic => channelName topic && pairs.all (· == topic)

def isValid (L : LinkLibraries) (type : TransportType) (address : String) : Bool :=
  match L.javaUri address with
  | none => false
  | some uri =>
    let host := lowercase (uri.host.getD "")
    ! isNullOrBlank uri.host && uri.rawUserInfo.isNone &&
      decide (-1 ≤ uri.port ∧ uri.port ≤ 65535 ∧ uri.port ≠ 0) &&
      match type, uri.path with
      | .jazz, some path =>
        uri.scheme == some "https" && uri.rawQuery.isNone && uri.rawFragment.isNone &&
          ["salutejazz.ru", "jazz.sber.ru"].contains host &&
          (uri.port == -1 || uri.port == 443) &&
          match split (removeSlash path) '/' with
          | [start, call, room, code] =>
            start == "" && call == "call" && roomPart room && roomPart code
          | _ => false
      | .jitsi, some path =>
        let parts := split (trimChars path ['/']) '/'
        uri.scheme == some "https" && uri.rawQuery.isNone && uri.rawFragment.isNone &&
          decide (parts.length = if host == "8x8.vc" || endsWith host ".8x8.vc" then 2 else 1) &&
          parts.all channelName
      | .mqtt, _ => isValidMqtt L uri
      | _, _ => false

end ServiceRouteEndpoint

/-! ### Reading JSON -/

def contentOrNull (element : Json) : Except Throwable (Option String) :=
  match element with
  | .null => .ok none
  | _ => (some <$> element.content).mapError (Throwable.json · none)

/-- The first of the fields that is there and not null. -/
def firstContent (o : JsonObject) : List String → Except Throwable (Option String)
  | [] => .ok none
  | key :: keys =>
    match o.get key with
    | none => firstContent o keys
    | some element => do
        match ← contentOrNull element with
        | some content => pure (some content)
        | none => firstContent o keys

/-- `items.mapNotNull { it.jsonPrimitive.contentOrNull }`. -/
def contents (items : List Json) : Except Throwable (List String) := do
  let texts ← items.mapM contentOrNull
  pure (texts.filterMap id)

/-- `TransportType.from(raw)`. -/
def transportFrom (raw : String) : Except Throwable TransportType :=
  match TransportType.fromOrNull raw with
  | some t => .ok t
  | none => .error (.illegalArgument ("Unsupported or unknown transport type: '" ++ raw ++ "'"))

section Decode

variable (L : LinkLibraries)

def hasField (o : JsonObject) (key : String) : Bool := (o.get key).isSome

/-- Messages of the control plane are not tunnels. -/
def isControlPlaneJson (value : String) : Bool :=
  match (L.parseToJsonElement value).toOption.map Json.jsonObject with
  | some (.ok fields) =>
    hasField fields "serverEntries" || hasField fields "bundleVersion" ||
      hasField fields "encrypted_payload" ||
      (hasField fields "subtype" && hasField fields "payload" &&
        (hasField fields "profile_id" || hasField fields "sig"))
  | _ => false

def decodeBase64Text (data : String) : Option String :=
  [Base64Flags.urlSafeNoWrap, .urlSafe, .default, .noWrap].firstM fun flags =>
    ((L.base64Text flags data).map trim).filter fun str =>
      startsWith str "\x7b" && endsWith str "\x7d"

/-- `[?&](bundle|invite)=`, without regard to case. -/
def namesBundle (value : String) : Bool :=
  ["?bundle=", "&bundle=", "?invite=", "&invite="].any (containsIgnoreCase value)

def isControlPlaneInput (value : String) : Bool :=
  startsWithIgnoreCase value "libreroute://invitation?" || namesBundle value ||
    (startsWith value "\x7b" && isControlPlaneJson L value) ||
    match decodeBase64Text L value with
    | some decoded => isControlPlaneJson L decoded
    | none => false

def jsonUrls (el : JsonObject) : Except Throwable (List String) := do
  let urls ←
    match el.get "urls" with
    | none => pure []
    | some (.array items) => contents items
    | some element => do
        let raw ← contentOrNull element
        pure (((split (raw.getD "") ',').map trim).filter (· != ""))
  let single := (← firstContent el ["url"]).getD ""
  pure (if single != "" && ! urls.contains single then single :: urls else urls)

def jsonExtraArguments (el : JsonObject) : Except Throwable (List String) := do
  let fromPayload ←
    match el.get "transportConnPayload" with
    | some (.array items) => do
        let raw ← contents items
        pure (parseCommandLineArguments (extractExtraParams raw))
    | _ => pure []
  let fromArgs ←
    match el.get "extraArgs" <|> el.get "args" <|> el.get "extra_args" <|> el.get "extraParams" with
    | none => pure []
    | some (.array items) => contents items
    | some element => do
        let raw ← contentOrNull element
        pure (parseCommandLineArguments (raw.getD ""))
  let extra := fromPayload ++ fromArgs
  let codec := (← firstContent el ["codec"]).getD ""
  pure (if codec != "" && ! extra.any fun token => startsWithIgnoreCase token "--codec" then
    extra ++ ["--codec=" ++ codec] else extra)

def optional (flag value : String) : List String := if value == "" then [] else [flag, value]

/-- The part of a payload that all imported tunnels have. -/
def clientPayload (transport : TransportType) (urls : List String) (token uid : String)
    (extra : List String) : List String :=
  ["--role=client", "--transport", transport.cliName] ++ urls ++ optional "--maxToken" token ++
    optional "--maxUid" uid ++ sanitizeExtraTokens extra

/-- Legacy links and JSON configurations. -/
def decodeFlexible (newId : Int) (jsonStr : String) : Except Throwable Tunnel := do
  let el ← (← L.parseToJsonElement jsonStr).jsonObject.mapError (Throwable.json · none)
  let name := (← firstContent el ["name", "title"]).getD "Imported Tunnel"
  let transportRaw := (← firstContent el ["transport", "transportType"]).getD "yandex"
  let transType ← transportFrom transportRaw
  let urls ← jsonUrls el
  let key ← firstContent el ["key", "encryptionKey", "secret"]
  let token := (← firstContent el ["maxToken", "token"]).getD ""
  let uid := (← firstContent el ["maxUid", "uid"]).getD ""
  let extra ← jsonExtraArguments el
  let urlArguments :=
    match urls with
    | [] => []
    | [url] => ["--url", url]
    | url :: _ => ["--urls", joinToString urls ",", "--url", url]
  pure {
    id := newId
    name := name
    transportType := transType.name
    transportConnPayload := clientPayload transType urlArguments token uid extra
    encryptionKey := key }

def decodeTunnelFromJson (newId : Int) (jsonStr : String) : Option Tunnel :=
  if isControlPlaneJson L jsonStr then none
  else L.decodeTunnel jsonStr <|> (decodeFlexible L newId jsonStr).toOption

/-- Base64 or, failing that, the text itself if it opens a JSON object. -/
def decodeData (newId : Int) (data : String) : Option Tunnel :=
  match decodeBase64Text L data <|> (some (trim data)).filter (startsWith · "\x7b") with
  | some decodedJson => decodeTunnelFromJson L newId decodedJson
  | none => none

/-! ### Deep links -/

/-- `parseQueryPairs(query)`: a later pair replaces an earlier one of the same name. -/
def parseQueryPairs (query : String) : List (String × String) :=
  let decode := fun text => (L.uriDecode text).getD text
  (((split query '&').filter fun pair => ! isBlank pair).map fun pair =>
    if contains pair "=" && ! startsWith pair "=" then
      (decode (substringBefore pair '='), decode (substringAfter pair '='))
    else (decode pair, "")).reverse

/-- The part of an opaque link after its scheme. -/
def opaquePart (uri : AndroidUri) : String :=
  removePrefix (trim (uri.schemeSpecificPart.getD "")) "//"

def opaqueQuery (uri : AndroidUri) : List (String × String) :=
  let ssp := opaquePart uri
  parseQueryPairs L (if contains ssp "?" then substringAfter ssp '?' else ssp)

/-- The authority with its letters as they were written. -/
def rawHost (uri : AndroidUri) (scheme : String) : String :=
  let uriStr := trim uri.text
  let rawAuthority :=
    if startsWithIgnoreCase uriStr (scheme ++ "://") then
      substringBefore (substringBefore (substringBefore
        (String.ofList (uriStr.toList.drop (scheme.toList.length + 3))) '/') '?') '#'
    else (uri.encodedAuthority <|> uri.authority).getD ""
  substringBefore (substringAfter rawAuthority '@') ':'

/-- Whether the host is more than the name of the import page. -/
def isDataHost (host : String) : Bool :=
  ! isBlank host && ! equalsIgnoreCase host "import" && ! equalsIgnoreCase host "config"

def dataParameter (get : String → Option String) : Option String :=
  get "data" <|> get "config" <|> get "c" <|> get "tunnel"

/-- A parameter that is there and not blank, read as data. -/
def decodeParameter (newId : Int) (value : Option String) : Option Tunnel :=
  (value.filter (! isBlank ·)).bind (decodeData L newId)

def opaqueTunnel (newId : Int) (uri : AndroidUri) : Option Tunnel :=
  let ssp := opaquePart uri
  (match decodeBase64Text L ssp <|> (some ssp).filter (startsWith · "\x7b") with
    | some directJson => decodeTunnelFromJson L newId directJson
    | none => none) <|>
  if contains ssp "?" || contains ssp "=" then
    decodeParameter L newId (dataParameter fun key => (opaqueQuery L uri).lookup key)
  else none

def fragmentTunnel (newId : Int) (uri : AndroidUri) : Option Tunnel :=
  (uri.fragment.filter (! isBlank ·)).bind fun fragment =>
    decodeData L newId (removePrefix (removePrefix fragment "data=") "config=")

def segmentTunnel (newId : Int) (uri : AndroidUri) : Option Tunnel :=
  if uri.isHierarchical then
    uri.pathSegments.reverse.firstM fun segment =>
      (decodeBase64Text L segment).bind (decodeTunnelFromJson L newId)
  else none

def hostTunnel (newId : Int) (host : String) : Option Tunnel :=
  if isDataHost host then (decodeBase64Text L host).bind (decodeTunnelFromJson L newId) else none

def defaultName : TransportType → String
  | .cups => "CUPS Tunnel"
  | .max => "MAX Tunnel"
  | .vyandex => "Yandex Volga"
  | .mailru => "Mail.ru Docs"
  | .mqtt => "MQTT · умный дом"
  | .jitsi => "Jitsi Meet"
  | .jazz => "СберДжаз"
  | _ => "Yandex Docs"

def urlArguments (rawUrls rawUrl : String) : List String :=
  if rawUrls != "" then
    ["--urls", rawUrls] ++ optional "--url" (trim (substringBefore rawUrls ','))
  else optional "--url" rawUrl

def queryTunnel (newId : Int) (uri : AndroidUri) (host : String) :
    Except Throwable (Option Tunnel) := do
  let get := if uri.isHierarchical then
      fun key => if uri.queryParameterNames.contains key then
        some ((uri.getQueryParameter key).getD "") else none
    else fun key => (opaqueQuery L uri).lookup key
  let param := fun key => (get key).filter (! isBlank ·)
  let rawUrls := (param "urls").getD ""
  let rawUrl := (param "url").getD ""
  let token := (param "token" <|> param "maxToken").getD ""
  let uid := (param "uid" <|> param "maxUid").getD ""
  let transType ← transportFrom
    ((param "transport" <|> (some host).filter isDataHost).getD "yandex")
  if rawUrls != "" || rawUrl != "" || (token != "" && uid != "") || transType == .max then
    let codec := match param "codec" with
      | some codec => ["--codec=" ++ codec]
      | none => []
    let extra := match param "extraArgs" <|> param "args" <|> param "extra" with
      | some args => parseCommandLineArguments args
      | none => []
    pure (some {
      id := newId
      name := (param "name").getD (defaultName transType)
      transportType := transType.name
      transportConnPayload :=
        clientPayload transType (urlArguments rawUrls rawUrl) token uid (codec ++ extra)
      encryptionKey := param "key" <|> param "secret" })
  else pure none

def checkLinkTunnel (t : Tunnel) : Except Throwable Unit := do
  require t.isAvailable (.illegalArgument "MQTT исключён из доступных протоколов")
  if t.transportType = "mqtt" ∨ t.transportType = "jitsi" then
    let type ← transportFrom t.transportType
    require (ServiceRouteEndpoint.isValid L type (argValue t.transportConnPayload "--url"))
      (.illegalArgument "Failed requirement.")
    require (decide (16 ≤ length ((t.encryptionKey.map trim).getD "")))
      (.illegalArgument "Failed requirement.")

/-- The tunnel of a deep link, before its key file is made. -/
def uriTunnel (newId : Int) (uri : AndroidUri) : Except Throwable (Option Tunnel) :=
  match uri.scheme.map lowercase with
  | none => .ok none
  | some scheme =>
    if scheme != "libreroute" && scheme != "paperflux" then .ok none
    else if uri.host.any (equalsIgnoreCase · "invitation") then .ok none
    else if uri.isHierarchical &&
        ((uri.getQueryParameter "bundle").isSome || (uri.getQueryParameter "invite").isSome) then
      .ok none
    else do
      let host := rawHost uri scheme
      let data :=
        (if uri.isHierarchical then
          decodeParameter L newId (dataParameter uri.getQueryParameter)
        else opaqueTunnel L newId uri) <|>
        fragmentTunnel L newId uri <|> segmentTunnel L newId uri <|> hostTunnel L newId host
      let tunnel ←
        match data with
        | some t => pure (some t)
        | none => queryTunnel L newId uri host
      match tunnel with
      | none => pure none
      | some t => do
          checkLinkTunnel L t
          pure (some t)

def linkTunnel (newId : Int) (trimmed : String) : Option Tunnel :=
  if startsWithIgnoreCase trimmed "libreroute:" || startsWithIgnoreCase trimmed "paperflux:" ||
      containsIgnoreCase trimmed "://import" then
    (L.parseUri trimmed).bind fun uri => (uriTunnel L newId uri).toOption.join
  else none

def jsonTunnel (newId : Int) (trimmed : String) : Option Tunnel :=
  (if startsWith trimmed "\x7b" && endsWith trimmed "\x7d" then decodeTunnelFromJson L newId trimmed
    else none) <|>
  (decodeBase64Text L trimmed).bind (decodeTunnelFromJson L newId)

def isCommandLine (trimmed : String) : Bool :=
  ["--transport", "--url", "--urls", "--maxToken", "--maxUid"].any (contains trimmed)

def commandLineKeyFile (trimmed : String) : String :=
  (getArg (splitSpaces trimmed) keyFileFlag).getD ""

/-- The tunnel of a command line. The key file is read wherever it is. -/
def commandLineTunnel (d : Device) (fs : FileSystem) (newId : Int) (trimmed : String) :
    Except Throwable Tunnel := do
  let tokens := splitSpaces trimmed
  let arg := fun name => (getArg tokens name).getD ""
  let transType ← transportFrom ((getArg tokens "--transport").getD "yandex")
  let key := commandLineKeyFile trimmed
  pure {
    id := newId
    name := defaultName transType
    transportType := transType.name
    transportConnPayload :=
      clientPayload transType (urlArguments (arg "--urls") (arg "--url")) (arg "--maxToken")
        (arg "--maxUid") (parseCommandLineArguments (extractExtraParams tokens))
    encryptionKey := if key == "" then none else (d.readText fs key).map trim }

def isAddress (trimmed : String) : Bool :=
  startsWithIgnoreCase trimmed "http://" || startsWithIgnoreCase trimmed "https://"

def addressTunnel (newId : Int) (trimmed : String) : Tunnel :=
  let transType : TransportType :=
    if containsIgnoreCase trimmed "cups.online" then .cups
    else if containsIgnoreCase trimmed "mail.ru" then .mailru
    else .yandex
  { id := newId
    name := defaultName transType
    transportType := transType.name
    transportConnPayload :=
      ["--role=client", "--transport", transType.cliName, "--url", trimmed] }

/-- The tunnel of a text that is not a link. An unknown transport on a command line throws. -/
def textTunnel (d : Device) (fs : FileSystem) (newId : Int) (trimmed : String) :
    Except Throwable (Option Tunnel) :=
  match jsonTunnel L newId trimmed with
  | some t => .ok (some t)
  | none =>
    if isCommandLine trimmed then some <$> commandLineTunnel d fs newId trimmed
    else if isAddress trimmed then .ok (some (addressTunnel newId trimmed))
    else .ok none

def prepared (d : Device) : Option Tunnel → Prog Throwable FileSystem (Option Tunnel)
  | none => pure none
  | some t => do
      let t ← ensureLocalKeyFile d t
      pure (some t)

def parse (d : Device) (newId : Int) (input : Option String) :
    Prog Throwable FileSystem (Option Tunnel) :=
  let trimmed := trim (input.getD "")
  if isNullOrBlank input || isControlPlaneInput L trimmed then pure none
  else do
    -- a link whose key file cannot be looked up is tried as another kind of text
    let linked ← (prepared d (linkTunnel L newId trimmed)).attempt fun _ => pure none
    match linked with
    | some t => pure (some t)
    | none => do
        let read ← Prog.read fun fs => textTunnel L d fs newId trimmed
        let tunnel ← Prog.ofExcept read
        prepared d tunnel

end Decode

end LibreRoute.Tunnels
