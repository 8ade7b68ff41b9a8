import LibreRoute.Bridge.Socks
import LibreRoute.Bridge.Target
import LibreRoute.Lib.Base64

/-!
The HTTP half of the bridge, `handleHttp`, and the choice between the two
halves, `handleClient`.

The whole head is read before anything is written, so it is one `Reading`;
`readHeaderLine_eq_ok` says that a line is what `cutLine` cuts off. The
characters of a line are its bytes, one for one.
-/

namespace LibreRoute.Bridge

open Lib

/-! ### Reading a head -/

/-- The loop of `readHeaderLine`. `sb` has one character a byte and is kept as the bytes;
`prev` is the byte before. -/
def readHeaderLoop (broken : Option IoException) (count : Nat) (prev : Option UInt8)
    (sb : List UInt8) : List UInt8 → Except IoException (List UInt8 × Stream IoException)
  | [] =>
    match broken with
    | none => .ok (sb, ⟨[], none⟩)
    | some e => .error e
  | b :: rest =>
    if count + 1 > 8192 then .error ⟨"Header line exceeded 8KB"⟩
    else if b = 10 ∧ prev = some 13 then .ok (sb.dropLast, ⟨rest, broken⟩)
    else readHeaderLoop broken (count + 1) (some b) (sb ++ [b]) rest

def readHeaderLine : Reading IoException String := fun s =>
  (readHeaderLoop s.broken 0 none [] s.bytes).map fun (sb, rest) => (latin1 sb, rest)

variable {t : Stream IoException} {line : List UInt8}

theorem isLine_concat {b : UInt8} (h : IsLine line) (hlast : ¬ (b = 10 ∧ line.getLast? = some 13)) :
    IsLine (line ++ [b]) := by
  intro hinside
  rcases List.infix_concat_iff.1 hinside with ⟨front, hfront⟩ | hinside
  · apply hlast
    have hsplit : front ++ [13] ++ [10] = line ++ [b] := by simpa using hfront
    obtain ⟨hline, hb⟩ := List.append_inj' hsplit rfl
    refine ⟨(List.cons.inj hb).1.symm, ?_⟩
    rw [← hline]
    simp
  · exact h hinside

theorem IsLine.of_append {more : List UInt8} (h : IsLine (line ++ more)) : IsLine line :=
  fun hinside => h (hinside.trans (List.prefix_append line more).isInfix)

theorem readHeaderLoop_eq_ok {broken : Option IoException} {count : Nat} {sb bytes : List UInt8}
    (hsb : IsLine sb) (h : readHeaderLoop broken count sb.getLast? sb bytes = .ok (line, t)) :
    (∃ rest, cutLine (sb ++ bytes) = (line, some rest) ∧ t = ⟨rest, broken⟩) ∨
      (cutLine (sb ++ bytes) = (line, none) ∧ broken = none ∧ t = ⟨[], none⟩) := by
  induction bytes generalizing count sb with
  | nil =>
    cases broken with
    | some e => cases h
    | none =>
      cases h
      rw [List.append_nil]
      exact Or.inr ⟨cutLine_of_isLine hsb, rfl, rfl⟩
  | cons b rest ih =>
    rw [readHeaderLoop] at h
    split at h
    · cases h
    split at h
    · next hends =>
        obtain ⟨rfl, hlast⟩ := hends
        cases h
        obtain ⟨front, rfl⟩ := List.getLast?_eq_some_iff.1 hlast
        refine Or.inl ⟨rest, ?_, rfl⟩
        rw [List.dropLast_concat, List.append_assoc]
        exact cutLine_append (IsLine.of_append hsb) rest
    · next hgoes =>
        have hlast : (sb ++ [b]).getLast? = some b := by simp
        rw [← hlast] at h
        have hcut := ih (isLine_concat hsb hgoes) h
        rwa [List.append_assoc] at hcut

theorem readHeaderLine_eq_ok {s : Stream IoException} {text : String}
    (h : readHeaderLine.run s = .ok (text, t)) :
    ∃ line, text = latin1 line ∧
      ((∃ rest, cutLine s.bytes = (line, some rest) ∧ t = ⟨rest, s.broken⟩) ∨
        (cutLine s.bytes = (line, none) ∧ s.broken = none ∧ t = ⟨[], none⟩)) := by
  rw [StateT.run, readHeaderLine] at h
  rcases hloop : readHeaderLoop s.broken 0 none [] s.bytes with e | ⟨line, rest⟩
  · rw [hloop] at h
    cases h
  · rw [hloop] at h
    cases h
    exact ⟨line, rfl, readHeaderLoop_eq_ok isLine_nil hloop⟩

theorem length_of_readHeaderLine {s : Stream IoException} {text : String}
    (h : readHeaderLine.run s = .ok (text, t)) (hne : ¬ text.isEmpty) :
    t.bytes.length < s.bytes.length := by
  obtain ⟨line, rfl, ⟨rest, hcut, rfl⟩ | ⟨hcut, -, rfl⟩⟩ := readHeaderLine_eq_ok h
  · exact length_cutLine hcut
  · obtain ⟨-, heq⟩ := cutLine_eq_none hcut
    cases line with
    | nil => exact absurd rfl hne
    | cons b line => simp [heq]

structure Head where
  headers : List String
  proxyAuthHeader : Option String
  hostHeaders : List String

def isProxyAuthorization (line : String) : Bool := startsWithIgnoreCase line "Proxy-Authorization:"

def isHost (line : String) : Bool := startsWithIgnoreCase line "Host:"

def Head.add (head : Head) (line : String) : Option Head :=
  if isProxyAuthorization line && head.proxyAuthHeader.isSome then none
  else some
    { headers := head.headers ++ [line]
      proxyAuthHeader :=
        if isProxyAuthorization line then some (trim (substringAfter line ':'))
        else head.proxyAuthHeader
      hostHeaders :=
        if isHost line then head.hostHeaders ++ [trim (substringAfter line ':')]
        else head.hostHeaders }

/-- `headerBytes > 65536 || line.first().isWhitespace() || ':' !in line`. -/
def isBadHeader (headerBytes : Nat) (line : String) : Bool :=
  headerBytes > 65536 || line.toList.head?.any isWhitespace || !line.toList.contains ':'

/-- The header lines up to an empty one; `none` where the request is bad. -/
def readHeaders (head : Head) (headerBytes : Nat) (s : Stream IoException) :
    Except IoException (Option Head × Stream IoException) :=
  match _h : readHeaderLine.run s with
  | .error e => .error e
  | .ok (line, rest) =>
    if _hne : line.isEmpty then .ok (some head, rest)
    else if isBadHeader (headerBytes + length line) line then .ok (none, rest)
    else
      match head.add line with
      | none => .ok (none, rest)
      | some head => readHeaders head (headerBytes + length line) rest
termination_by s.bytes.length
decreasing_by exact length_of_readHeaderLine _h _hne

def Head.of (lines : List String) : Head where
  headers := lines
  proxyAuthHeader := (lines.filter isProxyAuthorization).head?.map fun line =>
    trim (substringAfter line ':')
  hostHeaders := (lines.filter isHost).map fun line => trim (substringAfter line ':')

theorem Head.add_of {lines : List String} {line : String} {head : Head}
    (h : (Head.of lines).add line = some head)
    (hone : (lines.filter isProxyAuthorization).length ≤ 1) :
    head = Head.of (lines ++ [line]) ∧
      ((lines ++ [line]).filter isProxyAuthorization).length ≤ 1 := by
  rw [Head.add] at h
  split at h
  · cases h
  next hfirst =>
  have hnone : isProxyAuthorization line = true → lines.filter isProxyAuthorization = [] := by
    intro hline
    simpa [Head.of, hline] using hfirst
  cases h
  cases hline : isProxyAuthorization line with
  | false => exact ⟨by simp [Head.of, hline]; split <;> simp_all, by simpa [hline] using hone⟩
  | true => exact ⟨by simp [Head.of, hline, hnone hline]; split <;> simp_all,
      by simp [hline, hnone hline]⟩

theorem latin1_isEmpty (line : List UInt8) : (latin1 line).isEmpty = line.isEmpty := by
  cases line with
  | nil => rfl
  | cons b line => simp [latin1]

theorem readHeaders_eq_some {headerBytes : Nat} {s : Stream IoException} {lines : List String}
    {head : Head} (hone : (lines.filter isProxyAuthorization).length ≤ 1)
    (h : readHeaders (Head.of lines) headerBytes s = .ok (some head, t)) :
    head = Head.of (lines ++ (headLines s.bytes).map latin1) ∧
      ((lines ++ (headLines s.bytes).map latin1).filter isProxyAuthorization).length ≤ 1 := by
  induction hn : s.bytes.length using Nat.strongRecOn generalizing s lines headerBytes with
  | _ n ih =>
    subst hn
    rw [readHeaders] at h
    split at h
    · cases h
    next text rest hline =>
    obtain ⟨line, rfl, hcut⟩ := readHeaderLine_eq_ok hline
    split at h
    · next hempty =>
        obtain rfl : line = [] := by simpa [latin1_isEmpty] using hempty
        have hlines : headLines s.bytes = [] := by
          rcases hcut with ⟨after, hcut, -⟩ | ⟨hcut, -, -⟩ <;> exact headLines_of_nil hcut
        cases h
        rw [hlines, List.map_nil, List.append_nil]
        exact ⟨rfl, hone⟩
    next hne =>
    split at h
    · cases h
    split at h
    · cases h
    next head' hadd =>
    obtain ⟨rfl, hone'⟩ := Head.add_of hadd hone
    have hlines : headLines s.bytes = line :: headLines rest.bytes := by
      cases line with
      | nil => exact absurd rfl hne
      | cons b line =>
        rcases hcut with ⟨after, hcut, rfl⟩ | ⟨hcut, -, rfl⟩
        · exact headLines_of_some hcut
        · rw [headLines_of_none hcut, headLines_of_nil (show cutLine [] = ([], none) from rfl)]
    have hrest := ih rest.bytes.length (length_of_readHeaderLine hline hne) hone' h rfl
    rw [hlines, List.map_cons]
    simpa using hrest

/-- The upper case of a character of Latin-1. -/
def upperLatin1 (c : Char) : List Char :=
  let n := c.toNat
  if n == 0xDF then ['S', 'S']
  else if n == 0xB5 then [Char.ofNat 0x39C]
  else if n == 0xFF then [Char.ofNat 0x178]
  else if 0xE0 ≤ n && n ≤ 0xFE && n != 0xF7 then [Char.ofNat (n - 0x20)]
  else [c.toUpper]

/-- `String.uppercase()`, of a text of Latin-1. -/
def uppercaseLatin1 (s : String) : String := String.ofList (s.toList.flatMap upperLatin1)

structure HttpRequest where
  method : String
  target : String
  version : String
  head : Head

/-- The head of a request after its first byte; `none` where the request is bad. -/
def readHead (firstByte : Int) : Reading IoException (Option HttpRequest) := do
  let restOfLine ← readHeaderLine
  match split (String.singleton (Char.ofNat firstByte.toNat) ++ restOfLine) ' ' with
  | [method, target, version] =>
    if version == "HTTP/1.0" || version == "HTTP/1.1" then do
      let head ← readHeaders ⟨[], none, []⟩ 0
      return head.map fun head => ⟨uppercaseLatin1 method, target, version, head⟩
    else
      return none
  | _ => return none

variable {request : HttpRequest}

theorem readHead_eq_some {b : UInt8} {s : Stream IoException}
    (h : (readHead b.toNat).run s = .ok (some request, t)) :
    ∃ method, split (latin1 (b :: (cutLine s.bytes).1)) ' ' =
        [method, request.target, request.version] ∧
      (request.version = "HTTP/1.0" ∨ request.version = "HTTP/1.1") ∧
      request.method = uppercaseLatin1 method ∧
      request.head = Head.of ((fieldLines s.bytes).map latin1) ∧
      (((fieldLines s.bytes).map latin1).filter isProxyAuthorization).length ≤ 1 := by
  obtain ⟨text, u, hline, h₁⟩ := Reading.run_bind_eq_ok.1 h
  obtain ⟨line, rfl, hcut⟩ := readHeaderLine_eq_ok hline
  have hfirst : String.singleton (Char.ofNat ((b.toNat : Int)).toNat) ++ latin1 line =
      latin1 (b :: (cutLine s.bytes).1) := by
    have hline' : (cutLine s.bytes).1 = line := by
      rcases hcut with ⟨rest, hcut, -⟩ | ⟨hcut, -⟩ <;> rw [hcut]
    rw [hline']
    simp [latin1]
  have hu : (cutLine s.bytes).2.getD [] = u.bytes := by
    rcases hcut with ⟨rest, hcut, rfl⟩ | ⟨hcut, -, rfl⟩ <;> rw [hcut] <;> rfl
  rw [hfirst] at h₁
  split at h₁
  · next method target version hparts =>
      split at h₁
      · next hversion =>
          obtain ⟨head, v, hhead, h₂⟩ := Reading.run_bind_eq_ok.1 h₁
          obtain ⟨heq, -⟩ := Reading.run_pure_eq_ok.1 h₂
          obtain ⟨head, rfl, rfl⟩ := Option.map_eq_some_iff.1 heq
          have hlines := @readHeaders_eq_some v 0 u [] head (by simp) hhead
          rw [fieldLines, hu]
          exact ⟨method, hparts, by simpa using hversion, rfl, by simpa using hlines⟩
      · cases (Reading.run_pure_eq_ok.1 h₁).1
  · cases (Reading.run_pure_eq_ok.1 h₁).1

def badRequest : List UInt8 := Utf8.encode "HTTP/1.1 400 Bad Request\r\nContent-Length: 0\r\n\r\n"

def badGateway : List UInt8 := Utf8.encode "HTTP/1.1 502 Bad Gateway\r\nContent-Length: 0\r\n\r\n"

def authenticationRequired : List UInt8 :=
  Utf8.encode ("HTTP/1.1 407 Proxy Authentication Required\r\n" ++
    "Proxy-Authenticate: Basic realm=\"LibreRoute\"\r\n" ++ "Content-Length: 0\r\n\r\n")

def connectionEstablished : List UInt8 :=
  Utf8.encode "HTTP/1.1 200 Connection Established\r\n\r\n"

def isRetained (line : String) : Bool :=
  !startsWithIgnoreCase line "Proxy-Connection:" && !startsWithIgnoreCase line "Connection:" &&
    !isProxyAuthorization line

def forwardedText (request : HttpRequest) (destination : HttpProxyTarget) : String :=
  request.method ++ " " ++ destination.path ++ " " ++ request.version ++ "\r\n" ++
    ((request.head.headers.filter isRetained).map (· ++ "\r\n")).foldr (· ++ ·) "" ++
    (if request.head.hostHeaders.isEmpty then "Host: " ++ destination.authority ++ "\r\n"
      else "") ++
    "Connection: close\r\n\r\n"

section

variable (D : Utf8.Decoder) (N : NameLibrary) (config : ListenerConfig)

def authOk (proxyAuthHeader : Option String) : Bool :=
  match proxyAuthHeader with
  | none => false
  | some header =>
    if startsWithIgnoreCase header "Basic " then
      match Base64.decode .standard (trim (substringAfter header ' ')).toList with
      | none => false
      | some bytes =>
        let decoded := D.decode bytes
        decoded.toList.contains ':' && substringBefore decoded ':' == config.username &&
          substringAfter decoded ':' == config.password
    else false

/-- What is done once the core has connected. -/
def establish (request : HttpRequest) (destination : HttpProxyTarget) : Worker Unit :=
  if request.method == "CONNECT" then emit (.toClient connectionEstablished)
  else emit (.forwardedHead (Utf8.encode (forwardedText request destination)))

def handleHttp (firstByte : Int) : Worker Unit := do
  match ← fromClient (readHead firstByte) with
  | none => emit (.toClient badRequest)
  | some request =>
    if config.useAuth && !authOk D config request.head.proxyAuthHeader then
      emit (.toClient authenticationRequired)
    else
      match parseHttpProxyTarget N request.method request.target request.head.hostHeaders with
      | none => emit (.toClient badRequest)
      | some destination =>
        openUpstream config destination.host (BitVec.ofInt 32 destination.port) badGateway
          badGateway (establish request destination)

def handleClient : Worker Unit :=
  Prog.attempt (do
    let firstByte ← fromClient Reading.read
    if firstByte < 0 then return ()
    else if firstByte == 0x05 then handleSocks5 D config
    else handleHttp D N config firstByte) fun _ => return ()

end

/-! ### Runs of the handler -/

section Runs

variable (D : Utf8.Decoder) (N : NameLibrary) (config : ListenerConfig)

/-- The stream after the byte `b` holds a head with which the handler goes on to the core. -/
structure Accepts (b : UInt8) (stream : Stream IoException) (request : HttpRequest)
    (destination : HttpProxyTarget) : Prop where
  read : ∃ rest, (readHead b.toNat).run stream = .ok (some request, rest)
  authorized : config.useAuth = true → authOk D config request.head.proxyAuthHeader = true
  target : parseHttpProxyTarget N request.method request.target request.head.hostHeaders =
    some destination

variable {D N config} {I : List Event → Prop} {s : Session} {b : UInt8}

theorem establish_wp {destination : HttpProxyTarget} (hclient : ∀ bytes, Admits I (.toClient bytes))
    (hs : I s.log) (hhead : request.method ≠ "CONNECT" →
      I (s.log ++ [.forwardedHead (Utf8.encode (forwardedText request destination))])) :
    KeepsLog I (establish request destination) s := by
  unfold establish
  split
  · exact wp_emit (hclient _ _ hs) hs
  · next hmethod => exact wp_emit (hhead (by simpa using hmethod)) hs

/-- Everything the handler does beyond talking to the client it does for a head that it
accepts. -/
theorem handleHttp_wp (hclient : ∀ bytes, Admits I (.toClient bytes)) (hlog : I s.log)
    (hopen : ∀ request destination, Accepts D N config b s.cin request destination →
      AdmitsConnection I destination.host (BitVec.ofInt 32 destination.port) ∧
      ((Utf8.encode destination.host).length ≤ 255 → request.method ≠ "CONNECT" → ∀ log, I log →
        .request (connectRequest (Utf8.encode destination.host)
          (BitVec.ofInt 32 destination.port)) ∈ log →
        I (log ++ [.forwardedHead (Utf8.encode (forwardedText request destination))]))) :
    KeepsLog I (handleHttp D N config b.toNat) s := by
  refine wp_bind (wp_fromClient (fun result rest hrun => ?_) hlog)
  rcases result with _ | request
  · exact wp_emit (hclient _ _ hlog) hlog
  dsimp only
  split
  · exact wp_emit (hclient _ _ hlog) hlog
  next hauth =>
  split
  · exact wp_emit (hclient _ _ hlog) hlog
  next destination htarget =>
  have haccepts : Accepts D N config b s.cin request destination :=
    ⟨⟨rest, hrun⟩, by simpa using hauth, htarget⟩
  obtain ⟨hadmits, hhead⟩ := hopen request destination haccepts
  exact openUpstream_wp hclient hadmits (fun t hfits ht hsent =>
    establish_wp hclient ht fun hmethod => hhead hfits hmethod t.log ht hsent) hlog

theorem handleClient_wp (hlog : I s.log)
    (hsocks : ∀ rest, s.cin = ⟨5 :: rest.bytes, rest.broken⟩ →
      KeepsLog I (handleSocks5 D config) { s with cin := rest })
    (hhttp : ∀ (b : UInt8) rest, s.cin = ⟨b :: rest.bytes, rest.broken⟩ →
      KeepsLog I (handleHttp D N config b.toNat) { s with cin := rest }) :
    KeepsLog I (handleClient D N config) s := by
  refine wp_attempt ?_ (fun _ h => h) fun _ _ h => wp_pure h
  refine wp_bind (wp_fromClient (fun firstByte rest hrun => ?_) hlog)
  split
  · exact wp_pure hlog
  next hbyte =>
  rcases Reading.run_read_eq_ok hrun with ⟨b, rfl, hcin⟩ | ⟨rfl, -⟩
  · split
    · next hfive =>
        have hb : b.toNat = 5 := by exact_mod_cast (beq_iff_eq.1 hfive)
        obtain rfl : b = 5 := UInt8.toNat_inj.1 hb
        exact hsocks rest hcin
    · exact hhttp b rest hcin
  · exact absurd hbyte (by decide)

theorem exec_handleClient_socks {rest : List UInt8} {broken : Option IoException} {t : Session}
    (hcin : s.cin = ⟨5 :: rest, broken⟩)
    (h : (handleSocks5 D config).exec { s with cin := ⟨rest, broken⟩ } = (.ok (), t)) :
    (handleClient D N config).exec s = (.ok (), t) := by
  have hread : (Reading.read : Reading IoException Int).run s.cin = .ok (5, ⟨rest, broken⟩) := by
    rw [hcin]
    rfl
  rw [handleClient, exec_attempt, exec_bind_of_ok (exec_fromClient hread)]
  simp [h]

/-- Undisturbed, the handler comes as far as the core for every head it accepts. -/
theorem exec_handleHttp {destination : HttpProxyTarget}
    (h : Accepts D N config b s.cin request destination) :
    ∃ rest, (handleHttp D N config b.toNat).exec s =
      (openUpstream config destination.host (BitVec.ofInt 32 destination.port) badGateway badGateway
        (establish request destination)).exec { s with cin := rest } := by
  obtain ⟨⟨rest, hread⟩, hauth, htarget⟩ := h
  refine ⟨rest, ?_⟩
  rw [handleHttp, exec_bind_of_ok (exec_fromClient hread)]
  dsimp only
  rw [if_neg (by simpa using hauth), htarget]

end Runs

end LibreRoute.Bridge
