import LibreRoute.Tunnels.Models

/-!
The command line of a tunnel: splitting a text into arguments, looking an
argument up, and removing those that the application sets itself. The loops of
the source walk with an index that may step over the value of a flag; here a
state says whether the value of a flag comes next.
-/

namespace LibreRoute.Tunnels

open Lib

/-- `argValue`, with the quotes of a value of the second form removed or kept. -/
def lookupArgument (tokens : List String) (name : String) (unquote : Bool) : Option String :=
  match tokens.find? fun token => startsWithIgnoreCase token (name ++ "=") with
  | some token =>
    some (trimChars (String.ofList (token.toList.drop (name ++ "=").toList.length)) ['"', '\''])
  | none =>
    match tokens.dropWhile fun token => ! equalsIgnoreCase token name with
    | _ :: value :: _ => some (if unquote then trimChars value ['"', '\''] else value)
    | _ => none

def argValue (payload : List String) (key : String) : String :=
  (lookupArgument payload key false).getD ""

/-- `getArg(name)` of the parser. -/
def getArg (tokens : List String) (name : String) : Option String :=
  lookupArgument tokens name true

def spellings (names : List String) : List String :=
  names.flatMap fun name => ["--" ++ name, "-" ++ name]

def managedFlagsWithValue : List String :=
  spellings ["transport", "url", "urls", "mqtt-broker", "mqtt-topic", "mqtt-client-id", "maxToken",
    "maxUid", "encryption-key-file", "socks5", "socks5-user", "socks5-pass", "domain-rules-file",
    "domain-mode", "ip-rules-file", "split-mode", "doh-url", "tun-fd", "tun-socket", "tun-mtu",
    "codec", "encryption-layout", "session-batch-bytes", "session-linger-ms",
    "session-compression"]

def managedBoolFlags : List String := spellings ["session-negotiate", "doh"]

def isManagedBool (token : String) : Bool :=
  managedBoolFlags.any fun flag => equalsIgnoreCase token flag ||
    equalsIgnoreCase token (flag ++ "=true") || equalsIgnoreCase token (flag ++ "=false")

/-- The arguments the application does not manage. -/
def extraTokens (valueNext : Bool) : List String → List String
  | [] => []
  | token :: rest =>
    let lowerToken := lowercase token
    if valueNext && ! startsWith token "-" then extraTokens false rest
    else if startsWithIgnoreCase token "--role=" || startsWithIgnoreCase token "-role=" then
      extraTokens false rest
    else if equalsIgnoreCase token "--role" || equalsIgnoreCase token "-role" then
      extraTokens true rest
    else if startsWith lowerToken "--session-" || startsWith lowerToken "-session-" then
      if isManagedBool token || contains token "=" then extraTokens false rest
      else extraTokens true rest
    else if isManagedBool token then extraTokens false rest
    else if managedFlagsWithValue.any fun flag => startsWithIgnoreCase token (flag ++ "=") then
      extraTokens false rest
    else if managedFlagsWithValue.any fun flag => equalsIgnoreCase flag token then
      extraTokens true rest
    else token :: extraTokens false rest

def extractExtraParams (payload : List String) : String :=
  joinToString ((extraTokens false payload).map fun token =>
    if contains token " " || contains token "\t" then
      "\"" ++ replaceChar token '"' "\\\"" ++ "\""
    else token) " "

/-- Where a text is split: `current` holds the argument so far, last character first. -/
structure Splitting where
  current : List Char := []
  inDoubleQuote : Bool := false
  inSingleQuote : Bool := false
  escape : Bool := false

/-- The argument that ends here, if it has a character. -/
def Splitting.token (s : Splitting) : List String :=
  if s.current.isEmpty then [] else [String.ofList s.current.reverse]

def splitArguments (s : Splitting) : List Char → List String
  | [] => s.token
  | ch :: rest =>
    if s.escape then splitArguments { s with current := ch :: s.current, escape := false } rest
    else if ch == '\\' then splitArguments { s with escape := true } rest
    else if ch == '"' && ! s.inSingleQuote then
      splitArguments { s with inDoubleQuote := ! s.inDoubleQuote } rest
    else if ch == '\'' && ! s.inDoubleQuote then
      splitArguments { s with inSingleQuote := ! s.inSingleQuote } rest
    else if isWhitespace ch && ! s.inDoubleQuote && ! s.inSingleQuote then
      s.token ++ splitArguments { s with current := [] } rest
    else splitArguments { s with current := ch :: s.current } rest

def parseCommandLineArguments (input : String) : List String :=
  if isBlank input then [] else splitArguments {} input.toList

def disallowedFlags : List String :=
  spellings ["role", "transport", "encryption-key-file", "tun-fd", "tun-socket", "tun-mtu",
    "inbound", "outbound", "split-mode", "domain-rules-file", "domain-mode", "ip-rules-file",
    "socks5", "socks5-user", "socks5-pass", "doh", "doh-url", "codec", "encryption-layout"]

def sanitizeTokens (valueNext : Bool) : List String → List String
  | [] => []
  | token :: rest =>
    let hasValue := contains token "="
    let key := lowercase (substringBefore token '=')
    if valueNext && ! startsWith token "-" then sanitizeTokens false rest
    else if disallowedFlags.contains key || startsWith key "--session-" ||
        startsWith key "-session-" then
      sanitizeTokens (! hasValue && ! managedBoolFlags.contains key) rest
    else token :: sanitizeTokens false rest

def sanitizeExtraTokens (tokens : List String) : List String := sanitizeTokens false tokens

end LibreRoute.Tunnels
