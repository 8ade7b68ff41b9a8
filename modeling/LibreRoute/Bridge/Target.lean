import LibreRoute.Lib.Kotlin

/-!
Where an HTTP client wants to go: `parseHttpProxyTarget`
(service/HttpProxyTarget.kt), with the check of domain names it uses
(util/DomainRulesPreferences.kt). The whole parser is one `runCatching`,
so whatever it requires or throws, the result is null.
-/

namespace LibreRoute.Bridge

open Lib

/-- The parts of a `java.net.URI` the parser asks for. -/
structure Uri where
  scheme : Option String
  rawUserInfo : Option String
  rawAuthority : Option String
  rawPath : Option String
  rawQuery : Option String
  rawFragment : Option String

/-- What a label of a host name is made of. -/
def isLabelChar (c : Char) : Bool := c.isAlphanum || c == '-'

/-- `URI(text)`, `IDN.toASCII(text, flags)`, the flag being whether the rules of STD 3 are used,
and `String.lowercase()`; `none` where they throw. The path and the query of a URI are parts of its
text, under the rules of STD 3 a name consists of letters, digits, hyphens and dots, and no part of
a text in lower case has another lower case. -/
structure NameLibrary where
  uri : String → Option Uri
  toAscii : String → Bool → Option String
  lowercase : String → String
  path_mem : ∀ text u path, uri text = some u → u.rawPath = some path →
    ∀ c ∈ path.toList, c ∈ text.toList
  query_mem : ∀ text u query, uri text = some u → u.rawQuery = some query →
    ∀ c ∈ query.toList, c ∈ text.toList
  toAscii_chars : ∀ text name, toAscii text true = some name →
    ∀ c ∈ name.toList, isLabelChar c = true ∨ c = '.'
  lowercase_part : ∀ text part, part <:+: (lowercase text).toList →
    lowercase (String.ofList part) = String.ofList part

def removeSuffix (s ending : String) : String :=
  if endsWith s ending then String.ofList (s.toList.take (s.toList.length - ending.toList.length))
  else s

def trimEnd (s : String) (c : Char) : String :=
  String.ofList ((s.toList.reverse.dropWhile (· == c)).reverse)

/-- `String.toInt()`, on texts whose only digits are the ASCII ones. -/
def toInt (s : String) : Option Int :=
  let value (digits : List Char) : Option Nat :=
    if digits.isEmpty || !digits.all Char.isDigit then none
    else some (digits.foldl (fun n c => 10 * n + (c.toNat - 48)) 0)
  let signed : Option Int :=
    match s.toList with
    | '-' :: digits => (value digits).map fun n => -(n : Int)
    | '+' :: digits => (value digits).map fun n => (n : Int)
    | digits => (value digits).map fun n => (n : Int)
  signed.filter fun n => -2147483648 ≤ n && n ≤ 2147483647

section

variable (N : NameLibrary)

def cleanDomain (raw : String) : String :=
  trimChars (trimEnd (removePrefix (removePrefix (N.lowercase (trim raw)) "https://") "http://")
    '/') ['.']

def isValidDomain (raw : String) : Bool :=
  let value := cleanDomain N raw
  if value.isEmpty || length value > 253 || value.toList.contains '/' ||
      value.toList.contains ':' || value.toList.contains ' ' || value.toList.contains '?' then false
  else
    match N.toAscii value false with
    | none => false
    | some ascii =>
      if ascii.isEmpty || startsWith ascii "." || endsWith ascii "." then false
      else (split ascii '.').all fun label =>
        !label.isEmpty && length label ≤ 63 && !startsWith label "-" && !endsWith label "-" &&
          label.toList.all isLabelChar

structure HttpProxyTarget where
  host : String
  port : Int
  path : String

def HttpProxyTarget.authority (target : HttpProxyTarget) : String :=
  if target.port == 80 then target.host else target.host ++ ":" ++ longText target.port

/-- `if (hasPort) raw.substringAfter(':').toInt() else defaultPort`. -/
def portOf (raw : String) (defaultPort : Int) : Option Int :=
  if raw.toList.contains ':' then toInt (substringAfter raw ':') else some defaultPort

/-- A host and, unless it is the default, a port. -/
def authority (raw : String) (defaultPort : Int) : Option (String × Int) := do
  guard (!raw.isEmpty &&
    raw.toList.all (fun c => !isWhitespace c && !"/\\?#@[]".toList.contains c) &&
    raw.toList.count ':' ≤ 1)
  let hasPort := raw.toList.contains ':'
  let ascii ← N.toAscii (removeSuffix (if hasPort then substringBefore raw ':' else raw) ".") true
  let host := lowercase ascii
  guard (isValidDomain N host)
  let port ← portOf raw defaultPort
  guard (1 ≤ port && port ≤ 65535)
  return (host, port)

/-- `if (hosts.isNotEmpty()) require(authority(hosts.single(), port) == destination)`. -/
def agrees (hosts : List String) (defaultPort : Int) (destination : String × Int) : Bool :=
  match hosts with
  | [] => true
  | host :: _ => authority N host defaultPort == some destination

/-- The destination of a request that is not a CONNECT: the authority of an absolute URI, or the
one host header of an origin form. -/
def destinationOf (target : String) (hosts : List String) (uri : Uri) : Option (String × Int) :=
  match uri.scheme with
  | some scheme => do
      guard (equalsIgnoreCase scheme "http")
      let rawAuthority ← uri.rawAuthority
      authority N rawAuthority 80
  | none => do
      guard (startsWith target "/" && !startsWith target "//")
      let host ← singleOrNull hosts
      authority N host 80

/-- `uri.rawPath.orEmpty().ifEmpty { "/" } + (uri.rawQuery?.let { "?$it" } ?: "")`. -/
def Uri.pathText (uri : Uri) : String :=
  let path := uri.rawPath.getD ""
  (if path.isEmpty then "/" else path) ++
    match uri.rawQuery with
    | some query => "?" ++ query
    | none => ""

def parseHttpProxyTarget (method target : String) (hosts : List String) :
    Option HttpProxyTarget := do
  guard (hosts.length ≤ 1 && target.toList.all fun c => !isWhitespace c && !(c.toNat < 32))
  if method == "CONNECT" then do
    guard (target.toList.contains ':')
    let (host, port) ← authority N target 443
    guard (agrees N hosts port (host, port))
    return ⟨host, port, ""⟩
  else do
    let uri ← N.uri target
    guard (uri.rawFragment.isNone && uri.rawUserInfo.isNone)
    let destination ← destinationOf N target hosts uri
    guard (uri.scheme.isNone || agrees N hosts 80 destination)
    return ⟨destination.1, destination.2, uri.pathText⟩

end

/-! ### What an accepted target is made of -/

section

variable {N : NameLibrary}

theorem toNat_of_isLabelChar {c : Char} (h : isLabelChar c = true) : c.toNat < 128 := by
  rcases Bool.or_eq_true_iff.1 h with halpha | hhyphen
  · unfold Char.isAlphanum Char.isAlpha Char.isUpper Char.isLower Char.isDigit at halpha
    simp only [Bool.or_eq_true, Bool.and_eq_true, decide_eq_true_eq, ge_iff_le,
      UInt32.le_iff_toNat_le] at halpha
    change ((65 ≤ c.toNat ∧ c.toNat ≤ 90) ∨ (97 ≤ c.toNat ∧ c.toNat ≤ 122)) ∨
      (48 ≤ c.toNat ∧ c.toNat ≤ 57) at halpha
    omega
  · rw [beq_iff_eq.1 hhyphen]
    decide

theorem isLabelChar_toLower {c : Char} (h : isLabelChar c = true) :
    isLabelChar c.toLower = true := by
  have hall : ∀ n < 128, isLabelChar (Char.ofNat n) = true →
      isLabelChar (Char.ofNat n).toLower = true := by decide
  have hc := hall c.toNat (toNat_of_isLabelChar h)
  rw [Char.ofNat_toNat] at hc
  exact hc h

theorem authority_eq_some {raw host : String} {defaultPort port : Int}
    (h : authority N raw defaultPort = some (host, port)) :
    (∀ c ∈ host.toList, isLabelChar c = true ∨ c = '.') ∧ 1 ≤ port ∧ port ≤ 65535 := by
  obtain ⟨-, -, h₁⟩ := Option.bind_eq_some_iff.1 h
  obtain ⟨ascii, hascii, h₂⟩ := Option.bind_eq_some_iff.1 h₁
  obtain ⟨-, -, h₃⟩ := Option.bind_eq_some_iff.1 h₂
  obtain ⟨port', -, h₄⟩ := Option.bind_eq_some_iff.1 h₃
  obtain ⟨_, hrange, h₅⟩ := Option.bind_eq_some_iff.1 h₄
  cases h₅
  refine ⟨?_, by simpa using (Option.guard_eq_some' _).1 hrange⟩
  intro c hc
  rw [lowercase, String.toList_ofList] at hc
  obtain ⟨d, hd, rfl⟩ := List.mem_map.1 hc
  rcases N.toAscii_chars _ _ hascii d hd with hlabel | rfl
  · have hkelvin : ¬ (d.toNat == 0x212A) = true := by
      have hlt := toNat_of_isLabelChar hlabel
      simp only [beq_iff_eq]
      omega
    rw [if_neg hkelvin]
    exact Or.inl (isLabelChar_toLower hlabel)
  · exact Or.inr rfl

theorem isWhitespace_of_mem_pathText {target : String} {uri : Uri} (huri : N.uri target = some uri)
    (htarget : ∀ d ∈ target.toList, isWhitespace d = false) {c : Char}
    (hc : c ∈ uri.pathText.toList) : isWhitespace c = false := by
  rw [Uri.pathText, String.toList_append] at hc
  rcases List.mem_append.1 hc with hpath | hquery
  · split at hpath
    · obtain rfl : c = '/' := by simpa using hpath
      decide
    · rcases hraw : uri.rawPath with _ | path
      · rw [hraw] at hpath
        simp at hpath
      · rw [hraw] at hpath
        exact htarget c (N.path_mem target uri path huri hraw c hpath)
  · split at hquery
    · next query hraw =>
        rw [String.toList_append] at hquery
        rcases List.mem_append.1 hquery with hmark | hquery
        · obtain rfl : c = '?' := by simpa using hmark
          decide
        · exact htarget c (N.query_mem target uri query huri hraw c hquery)
    · simp at hquery

theorem parseHttpProxyTarget_eq_some {method target : String} {hosts : List String}
    {destination : HttpProxyTarget}
    (h : parseHttpProxyTarget N method target hosts = some destination) :
    (∃ raw defaultPort, authority N raw defaultPort = some (destination.host, destination.port)) ∧
      (method ≠ "CONNECT" → ∀ c ∈ destination.path.toList, isWhitespace c = false) := by
  obtain ⟨_, hguard, h₁⟩ := Option.bind_eq_some_iff.1 h
  split at h₁
  · next hconnect =>
      obtain ⟨-, -, h₂⟩ := Option.bind_eq_some_iff.1 h₁
      obtain ⟨⟨host, port⟩, hauthority, h₃⟩ := Option.bind_eq_some_iff.1 h₂
      obtain ⟨-, -, h₄⟩ := Option.bind_eq_some_iff.1 h₃
      cases h₄
      exact ⟨⟨target, 443, hauthority⟩, fun hmethod => absurd (beq_iff_eq.1 hconnect) hmethod⟩
  · obtain ⟨uri, huri, h₂⟩ := Option.bind_eq_some_iff.1 h₁
    obtain ⟨-, -, h₃⟩ := Option.bind_eq_some_iff.1 h₂
    obtain ⟨⟨host, port⟩, hdestination, h₄⟩ := Option.bind_eq_some_iff.1 h₃
    obtain ⟨-, -, h₅⟩ := Option.bind_eq_some_iff.1 h₄
    cases h₅
    constructor
    · rcases hscheme : uri.scheme with _ | scheme
      · rw [destinationOf, hscheme] at hdestination
        obtain ⟨-, -, h₆⟩ := Option.bind_eq_some_iff.1 hdestination
        obtain ⟨raw, -, h₇⟩ := Option.bind_eq_some_iff.1 h₆
        exact ⟨raw, 80, h₇⟩
      · rw [destinationOf, hscheme] at hdestination
        obtain ⟨-, -, h₆⟩ := Option.bind_eq_some_iff.1 hdestination
        obtain ⟨raw, -, h₇⟩ := Option.bind_eq_some_iff.1 h₆
        exact ⟨raw, 80, h₇⟩
    · intro _ c hc
      have htarget : ∀ d ∈ target.toList, isWhitespace d = false := by
        have hall := (Option.guard_eq_some' _).1 hguard
        simp only [Bool.and_eq_true, List.all_eq_true, Bool.not_eq_true'] at hall
        exact fun d hd => (hall.2 d hd).1
      exact isWhitespace_of_mem_pathText huri htarget hc

end

/-! ### The libraries on plain names

Origin forms and `http` URIs without user information or fragment, and names that are ASCII
already. -/

def plainQuery (text : String) : Option String :=
  match text.toList.dropWhile (· != '?') with
  | [] => none
  | _ :: rest => some (String.ofList rest)

def plainUri (text : String) : Option Uri :=
  let chars := text.toList
  let front := chars.takeWhile (· != '?')
  if chars.contains '#' || chars.contains '@' then none
  else if "http://".toList.isPrefixOf front then
    some ⟨some "http", none, some (String.ofList ((front.drop 7).takeWhile (· != '/'))),
      some (String.ofList ((front.drop 7).dropWhile (· != '/'))), plainQuery text, none⟩
  else if "/".toList.isPrefixOf front then
    some ⟨none, none, none, some (String.ofList front), plainQuery text, none⟩
  else none

theorem plainUri_path {text : String} {u : Uri} {path : String} (h : plainUri text = some u)
    (hpath : u.rawPath = some path) : ∀ c ∈ path.toList, c ∈ text.toList := by
  unfold plainUri at h
  simp only at h
  have hfront : ∀ c ∈ text.toList.takeWhile (· != '?'), c ∈ text.toList := fun c hc =>
    (List.takeWhile_sublist _).subset hc
  split at h
  · cases h
  split at h
  · cases h
    cases hpath
    intro c hc
    rw [String.toList_ofList] at hc
    exact hfront c (List.mem_of_mem_drop ((List.dropWhile_sublist _).subset hc))
  split at h
  · cases h
    cases hpath
    intro c hc
    rw [String.toList_ofList] at hc
    exact hfront c hc
  · cases h

theorem plainUri_query {text : String} {u : Uri} {query : String} (h : plainUri text = some u)
    (hquery : u.rawQuery = some query) : ∀ c ∈ query.toList, c ∈ text.toList := by
  have heq : u.rawQuery = plainQuery text := by
    unfold plainUri at h
    simp only at h
    split at h
    · cases h
    split at h
    · cases h
      rfl
    split at h
    · cases h
      rfl
    · cases h
  rw [heq, plainQuery] at hquery
  split at hquery
  · cases hquery
  next mark rest hrest =>
  cases hquery
  intro c hc
  rw [String.toList_ofList] at hc
  have hin : c ∈ text.toList.dropWhile (· != '?') := by
    rw [hrest]
    exact List.mem_cons_of_mem mark hc
  exact (List.dropWhile_sublist _).subset hin

theorem toLower_toLower (c : Char) : c.toLower.toLower = c.toLower := by
  unfold Char.toLower
  grind

def plainNames : NameLibrary where
  uri := plainUri
  lowercase text := String.ofList (text.toList.map Char.toLower)
  toAscii text _ := if text.toList.all fun c => isLabelChar c || c == '.' then some text else none
  path_mem _ _ _ := plainUri_path
  query_mem _ _ _ := plainUri_query
  toAscii_chars text name h := by
    obtain ⟨hall, heq⟩ := Option.ite_none_right_eq_some.1 h
    cases heq
    simpa using hall
  lowercase_part text part h := by
    rw [String.toList_ofList] at h ⊢
    refine congrArg String.ofList ((List.map_congr_left fun c hc => ?_).trans (List.map_id part))
    obtain ⟨d, -, rfl⟩ := List.mem_map.1 (h.subset hc)
    exact toLower_toLower d

end LibreRoute.Bridge
