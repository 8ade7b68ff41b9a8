import LibreRoute.Bridge.Session

/-!
The SOCKS5 half of the bridge: `handleSocks5`.

The handler reads in three stretches, the methods of the greeting, the
username and password of RFC 1929, and the request; between them it
answers. Each stretch is a `Reading`, with a lemma that says which bytes
it has taken when it returns and one that says that it returns on them.
-/

namespace LibreRoute.Bridge

open Lib Reading

def eof : IoException := ⟨"Unexpected EOF"⟩

/-- The methods of a greeting. The handler closes the socket where there are none. -/
def readMethods : Reading IoException (Option (List UInt8)) := do
  let nMethods ← read
  if nMethods ≤ 0 then
    return none
  else
    let methods ← readFully eof nMethods.toNat
    return some methods

/-- The bytes of a username and a password in the form of RFC 1929. -/
def readCredentials : Reading IoException (Option (List UInt8 × List UInt8)) := do
  let authVer ← read
  if authVer != 0x01 then
    return none
  else
    let uLen ← read
    if uLen ≤ 0 then
      return none
    else
      let uBytes ← readFully eof uLen.toNat
      let pLen ← read
      if pLen < 0 then
        return none
      else
        let pBytes ← readFully eof pLen.toNat
        return some (uBytes, pBytes)

inductive Address
  | ipv4 (bytes : List UInt8)
  | domain (bytes : List UInt8)

/-- Why a request goes no further: the socket is closed, after a reply if there is one. -/
inductive Refusal
  | closed
  | replied (code : UInt8)

/-- Version, command and address of a request. -/
def readAddress : Reading IoException (Except Refusal Address) := do
  let ver ← read
  let cmd ← read
  let _ ← read
  let atyp ← read
  if ver != 0x05 then
    return .error .closed
  else if cmd != 0x01 then
    return .error (.replied 0x07)
  else if atyp == 0x01 then
    let addrBytes ← readFully eof 4
    return .ok (.ipv4 addrBytes)
  else if atyp == 0x03 then
    let len ← read
    if len ≤ 0 then
      return .error .closed
    else
      let domainBytes ← readFully eof len.toNat
      return .ok (.domain domainBytes)
  else
    return .error (.replied 0x08)

/-- `(cin.read() shl 8) or cin.read()`. -/
def readPort : Reading IoException (BitVec 32) := do
  let high ← read
  let low ← read
  return (BitVec.ofInt 32 high <<< 8) ||| BitVec.ofInt 32 low

section

variable (D : Utf8.Decoder)

/-- `destHost`. -/
def Address.host : Address → String
  | .ipv4 bytes => joinToString (bytes.map fun b => b.toNat.repr) "."
  | .domain bytes => D.decode bytes

/-- A reply without an address of its own. -/
def reply (code : UInt8) : List UInt8 := [0x05, code, 0x00, 0x01, 0, 0, 0, 0, 0, 0]

def serveRequest (config : ListenerConfig) : Worker Unit := do
  match ← fromClient readAddress with
  | .error .closed => return ()
  | .error (.replied code) => emit (.toClient (reply code))
  | .ok address =>
    let port ← fromClient readPort
    openUpstream config (address.host D) port (reply 0x05) (reply 0x04)
      (emit (.toClient (reply 0x00)))

def handleSocks5 (config : ListenerConfig) : Worker Unit := do
  match ← fromClient readMethods with
  | none => return ()
  | some methods =>
    if config.useAuth then
      if !methods.contains 0x02 then emit (.toClient [0x05, 0xFF])
      else do
        emit (.toClient [0x05, 0x02])
        match ← fromClient readCredentials with
        | none => return ()
        | some (uBytes, pBytes) =>
          if D.decode uBytes != config.username || D.decode pBytes != config.password then
            emit (.toClient [0x01, 0x01])
          else do
            emit (.toClient [0x01, 0x00])
            serveRequest D config
    else if !methods.contains 0x00 then emit (.toClient [0x05, 0xFF])
    else do
      emit (.toClient [0x05, 0x00])
      serveRequest D config

end

/-! ### The bytes the readers take -/

variable {address : Address}

section Readers

variable {s t : Stream IoException}

theorem run_readMethods_eq_some {methods : List UInt8}
    (h : readMethods.run s = .ok (some methods, t)) :
    0 < methods.length ∧ methods.length < 256 ∧ s = ⟨sized methods ++ t.bytes, t.broken⟩ := by
  obtain ⟨n, u, hn, h⟩ := run_bind_eq_ok.1 h
  split at h
  · cases (run_pure_eq_ok.1 h).1
  · next hpos =>
      obtain ⟨bytes, v, hbytes, h⟩ := run_bind_eq_ok.1 h
      obtain ⟨heq, rfl⟩ := run_pure_eq_ok.1 h
      cases heq
      obtain ⟨hnat, hlt, hs⟩ := run_sized_eq_ok hn (by omega) hbytes
      exact ⟨by omega, hlt, hs⟩

theorem run_readMethods {methods : List UInt8} (hpos : 0 < methods.length)
    (hlt : methods.length < 256) (rest : List UInt8) (broken : Option IoException) :
    readMethods.run ⟨sized methods ++ rest, broken⟩ = .ok (some methods, ⟨rest, broken⟩) := by
  refine run_bind_eq_ok.2 ⟨_, _, run_read_sized hlt _ _, ?_⟩
  rw [if_neg (by omega)]
  exact run_bind_eq_ok.2 ⟨_, _, run_readFully_append eof methods rest broken, rfl⟩

theorem run_readCredentials_eq_some {uBytes pBytes : List UInt8}
    (h : readCredentials.run s = .ok (some (uBytes, pBytes), t)) :
    0 < uBytes.length ∧ uBytes.length < 256 ∧ pBytes.length < 256 ∧
      s = ⟨1 :: (sized uBytes ++ (sized pBytes ++ t.bytes)), t.broken⟩ := by
  obtain ⟨ver, s₁, hver, h₁⟩ := run_bind_eq_ok.1 h
  split at h₁
  · cases (run_pure_eq_ok.1 h₁).1
  next hone =>
  obtain ⟨uLen, s₂, huLen, h₂⟩ := run_bind_eq_ok.1 h₁
  split at h₂
  · cases (run_pure_eq_ok.1 h₂).1
  next hupos =>
  obtain ⟨u, s₃, hu, h₃⟩ := run_bind_eq_ok.1 h₂
  obtain ⟨pLen, s₄, hpLen, h₄⟩ := run_bind_eq_ok.1 h₃
  split at h₄
  · cases (run_pure_eq_ok.1 h₄).1
  next hppos =>
  obtain ⟨p, s₅, hp, h₅⟩ := run_bind_eq_ok.1 h₄
  obtain ⟨heq, rfl⟩ := run_pure_eq_ok.1 h₅
  cases heq
  have hver1 : ver = ((1 : Nat) : Int) := by simpa using hone
  rw [hver1] at hver
  obtain ⟨-, rfl⟩ := run_read_eq_byte hver
  obtain ⟨hnat, hult, hs₁⟩ := run_sized_eq_ok huLen (by omega) hu
  obtain ⟨-, hplt, hs₃⟩ := run_sized_eq_ok hpLen (by omega) hp
  exact ⟨by omega, hult, hplt, by rw [hs₁, hs₃]; rfl⟩

theorem run_readCredentials {uBytes pBytes : List UInt8} (hpos : 0 < uBytes.length)
    (hult : uBytes.length < 256) (hplt : pBytes.length < 256) (rest : List UInt8)
    (broken : Option IoException) :
    readCredentials.run ⟨1 :: (sized uBytes ++ (sized pBytes ++ rest)), broken⟩ =
      .ok (some (uBytes, pBytes), ⟨rest, broken⟩) := by
  refine run_bind_eq_ok.2 ⟨_, _, run_read_cons 1 _ _, ?_⟩
  rw [if_neg (by decide)]
  refine run_bind_eq_ok.2 ⟨_, _, run_read_sized hult _ _, ?_⟩
  rw [if_neg (by omega)]
  refine run_bind_eq_ok.2 ⟨_, _, run_readFully_append eof uBytes _ broken, ?_⟩
  refine run_bind_eq_ok.2 ⟨_, _, run_read_sized hplt _ _, ?_⟩
  rw [if_neg (by omega)]
  exact run_bind_eq_ok.2 ⟨_, _, run_readFully_append eof pBytes rest broken, rfl⟩

/-- The form of an address in a request, with the byte that says of which type it is. -/
def Address.encoded : Address → List UInt8
  | .ipv4 bytes => 1 :: bytes
  | .domain bytes => 3 :: sized bytes

/-- Four bytes, or a name whose length fits into a byte. -/
def Address.WellFormed : Address → Prop
  | .ipv4 bytes => bytes.length = 4
  | .domain bytes => 0 < bytes.length ∧ bytes.length < 256

theorem run_readAddress_eq_ok (h : readAddress.run s = .ok (.ok address, t)) :
    address.WellFormed ∧ ∃ reserved : UInt8,
      s = ⟨5 :: 1 :: reserved :: (address.encoded ++ t.bytes), t.broken⟩ := by
  obtain ⟨ver, s₁, hver, h₁⟩ := run_bind_eq_ok.1 h
  obtain ⟨cmd, s₂, hcmd, h₂⟩ := run_bind_eq_ok.1 h₁
  obtain ⟨rsv, s₃, hrsv, h₃⟩ := run_bind_eq_ok.1 h₂
  obtain ⟨atyp, s₄, hatyp, h₄⟩ := run_bind_eq_ok.1 h₃
  split at h₄
  · cases (run_pure_eq_ok.1 h₄).1
  next hfive =>
  split at h₄
  · cases (run_pure_eq_ok.1 h₄).1
  next hone =>
  -- The type of the address is there, so the stream did not end at the reserved byte.
  have hfront : ∀ n : Nat, atyp = (n : Int) → ∃ reserved : UInt8,
      s = ⟨5 :: 1 :: reserved :: UInt8.ofNat n :: s₄.bytes, s₄.broken⟩ := by
    rintro n rfl
    have hver5 : ver = ((5 : Nat) : Int) := by simpa using hfive
    have hcmd1 : cmd = ((1 : Nat) : Int) := by simpa using hone
    rw [hver5] at hver
    rw [hcmd1] at hcmd
    obtain ⟨-, rfl⟩ := run_read_eq_byte hver
    obtain ⟨-, rfl⟩ := run_read_eq_byte hcmd
    obtain ⟨-, rfl⟩ := run_read_eq_byte hatyp
    rcases run_read_eq_ok hrsv with ⟨b, -, rfl⟩ | ⟨-, rfl, habs⟩
    · exact ⟨b, rfl⟩
    · cases habs
  split at h₄
  · next htype =>
      obtain ⟨reserved, rfl⟩ := hfront 1 (by simpa using htype)
      obtain ⟨bytes, s₅, hbytes, h₅⟩ := run_bind_eq_ok.1 h₄
      obtain ⟨heq, rfl⟩ := run_pure_eq_ok.1 h₅
      cases heq
      obtain ⟨hlength, rfl⟩ := run_readFully_eq_ok hbytes
      exact ⟨hlength, reserved, rfl⟩
  split at h₄
  · next htype =>
      obtain ⟨reserved, rfl⟩ := hfront 3 (by simpa using htype)
      obtain ⟨len, s₅, hlen, h₅⟩ := run_bind_eq_ok.1 h₄
      split at h₅
      · cases (run_pure_eq_ok.1 h₅).1
      next hpos =>
      obtain ⟨bytes, s₆, hbytes, h₆⟩ := run_bind_eq_ok.1 h₅
      obtain ⟨heq, rfl⟩ := run_pure_eq_ok.1 h₆
      cases heq
      obtain ⟨hnat, hlt, rfl⟩ := run_sized_eq_ok hlen (by omega) hbytes
      exact ⟨⟨by omega, hlt⟩, reserved, rfl⟩
  · cases (run_pure_eq_ok.1 h₄).1

theorem run_readAddress (hformed : address.WellFormed) (reserved : UInt8) (rest : List UInt8)
    (broken : Option IoException) :
    readAddress.run ⟨5 :: 1 :: reserved :: (address.encoded ++ rest), broken⟩ =
      .ok (.ok address, ⟨rest, broken⟩) := by
  refine run_bind_eq_ok.2 ⟨_, _, run_read_cons 5 _ _, ?_⟩
  refine run_bind_eq_ok.2 ⟨_, _, run_read_cons 1 _ _, ?_⟩
  refine run_bind_eq_ok.2 ⟨_, _, run_read_cons reserved _ _, ?_⟩
  cases address with
  | ipv4 bytes =>
    have hfully := run_readFully_append eof bytes rest broken
    rw [show bytes.length = 4 from hformed] at hfully
    refine run_bind_eq_ok.2 ⟨_, _, run_read_cons 1 _ _, ?_⟩
    exact run_bind_eq_ok.2 ⟨_, _, hfully, rfl⟩
  | domain bytes =>
    obtain ⟨hpos, hlt⟩ := hformed
    refine run_bind_eq_ok.2 ⟨_, _, run_read_cons 3 _ _, ?_⟩
    refine run_bind_eq_ok.2 ⟨_, _, run_read_sized hlt _ _, ?_⟩
    rw [if_neg (by omega)]
    exact run_bind_eq_ok.2 ⟨_, _, run_readFully_append eof bytes rest broken, rfl⟩

theorem run_readPort (high low : UInt8) (rest : List UInt8) (broken : Option IoException) :
    readPort.run ⟨high :: low :: rest, broken⟩ =
      .ok ((BitVec.ofInt 32 high.toNat <<< 8) ||| BitVec.ofInt 32 low.toNat, ⟨rest, broken⟩) := rfl

theorem run_readPort_eq_ok_iff :
    (∃ port after, readPort.run s = .ok (port, after)) ↔ 2 ≤ s.bytes.length ∨ s.broken = none := by
  obtain ⟨bytes, broken⟩ := s
  rcases bytes with _ | ⟨high, _ | ⟨low, rest⟩⟩
  case cons.cons => exact ⟨fun _ => Or.inl (by simp), fun _ => ⟨_, _, rfl⟩⟩
  all_goals
    rcases broken with _ | e
    · exact ⟨fun _ => Or.inr rfl, fun _ => ⟨_, _, rfl⟩⟩
    · refine ⟨?_, by simp⟩
      rintro ⟨port, after, h⟩
      cases h

end Readers

/-! ### Runs of the handler -/

section Runs

variable (D : Utf8.Decoder) (config : ListenerConfig)

/-- `stream` begins with a greeting that is answered well and, if there is authentication,
with the username and the password; `rest` is what follows. -/
def Admitted (stream rest : List UInt8) : Prop :=
  (config.useAuth = true ∧ ∃ methods u p : List UInt8, 2 ∈ methods ∧ methods.length < 256 ∧
    0 < u.length ∧ u.length < 256 ∧ p.length < 256 ∧
    D.decode u = config.username ∧ D.decode p = config.password ∧
    stream = sized methods ++ (1 :: (sized u ++ (sized p ++ rest)))) ∨
  (config.useAuth = false ∧ ∃ methods : List UInt8, 0 ∈ methods ∧ methods.length < 256 ∧
    stream = sized methods ++ rest)

/-- `stream` begins with a request for an address; `rest` begins with the port. -/
def Requested (stream : List UInt8) (address : Address) (rest : List UInt8) : Prop :=
  address.WellFormed ∧ ∃ reserved : UInt8, stream = 5 :: 1 :: reserved :: (address.encoded ++ rest)

variable {D config} {I : List Event → Prop} {s : Session}

/-- Everything the handler does beyond talking to the client it does after it has read a
request. -/
theorem serveRequest_wp (hclient : ∀ bytes, Admits I (.toClient bytes)) (hlog : I s.log)
    (hopen : ∀ address rest port after, Requested s.cin.bytes address rest →
      readPort.run ⟨rest, s.cin.broken⟩ = .ok (port, after) →
      AdmitsConnection I (address.host D) port) :
    KeepsLog I (serveRequest D config) s := by
  refine wp_bind (wp_fromClient (fun result rest hrun => ?_) hlog)
  rcases result with (_ | code) | address
  · exact wp_pure hlog
  · exact wp_emit (hclient _ _ hlog) hlog
  · obtain ⟨hformed, reserved, hcin⟩ := run_readAddress_eq_ok hrun
    have hrequested : Requested s.cin.bytes address rest.bytes :=
      ⟨hformed, reserved, congrArg Stream.bytes hcin⟩
    have hbroken : s.cin.broken = rest.broken := by rw [hcin]
    refine wp_bind (wp_fromClient (fun port after hport => ?_) hlog)
    rw [hbroken] at hopen
    exact openUpstream_wp hclient (hopen address rest.bytes port after hrequested hport)
      (fun _ _ ht _ => wp_emit (hclient _ _ ht) ht) hlog

theorem handleSocks5_wp (hclient : ∀ bytes, Admits I (.toClient bytes)) (hlog : I s.log)
    (hopen : ∀ greeted address rest port after, Admitted D config s.cin.bytes greeted →
      Requested greeted address rest →
      readPort.run ⟨rest, s.cin.broken⟩ = .ok (port, after) →
      AdmitsConnection I (address.host D) port) :
    KeepsLog I (handleSocks5 D config) s := by
  refine wp_bind (wp_fromClient (fun methods rest hrun => ?_) hlog)
  rcases methods with _ | methods
  · exact wp_pure hlog
  obtain ⟨-, hlt, hcin⟩ := run_readMethods_eq_some hrun
  have hbroken : s.cin.broken = rest.broken := by rw [hcin]
  dsimp only
  split
  · next hauth =>
      split
      · exact wp_emit (hclient _ _ hlog) hlog
      next hmethod =>
      have hlog₁ := hclient [0x05, 0x02] _ hlog
      refine wp_bind (wp_emit (wp_bind (wp_fromClient (fun credentials rest' hrun' => ?_)
        hlog₁)) hlog)
      rcases credentials with _ | ⟨u, p⟩
      · exact wp_pure hlog₁
      replace hrun' : readCredentials.run rest = .ok (some (u, p), rest') := hrun'
      obtain ⟨hpos, hult, hplt, hcin'⟩ := run_readCredentials_eq_some hrun'
      dsimp only
      split
      · exact wp_emit (hclient _ _ hlog₁) hlog₁
      next hsame =>
      obtain ⟨huser, hpass⟩ : D.decode u = config.username ∧ D.decode p = config.password := by
        simpa using hsame
      refine wp_bind (wp_emit (serveRequest_wp hclient (hclient _ _ hlog₁) ?_) hlog₁)
      intro address after port final hrequested hport
      have hbroken' : rest.broken = rest'.broken := by rw [hcin']
      refine hopen rest'.bytes address after port final ?_ hrequested ?_
      · refine Or.inl ⟨hauth, methods, u, p, by simpa using hmethod, hlt, hpos, hult, hplt, huser,
          hpass, ?_⟩
        rw [hcin, hcin']
      · rw [hbroken, hbroken']
        exact hport
  · next hauth =>
      split
      · exact wp_emit (hclient _ _ hlog) hlog
      next hmethod =>
      refine wp_bind (wp_emit (serveRequest_wp hclient (hclient _ _ hlog) ?_) hlog)
      intro address after port final hrequested hport
      refine hopen rest.bytes address after port final ?_ hrequested ?_
      · refine Or.inr ⟨by simpa using hauth, methods, by simpa using hmethod, hlt, ?_⟩
        rw [hcin]
      · rw [hbroken]
        exact hport

/-- Undisturbed, the handler comes as far as the core for every request it can read. -/
theorem exec_serveRequest {rest : List UInt8} {port : BitVec 32} {after : Stream IoException}
    (hrequested : Requested s.cin.bytes address rest)
    (hport : readPort.run ⟨rest, s.cin.broken⟩ = .ok (port, after)) :
    (serveRequest D config).exec s = (openUpstream config (address.host D) port (reply 0x05)
      (reply 0x04) (emit (.toClient (reply 0x00)))).exec { s with cin := after } := by
  obtain ⟨⟨bytes, broken⟩, tin, refuses, log⟩ := s
  obtain ⟨hformed, reserved, rfl⟩ : address.WellFormed ∧ ∃ reserved : UInt8,
    bytes = 5 :: 1 :: reserved :: (address.encoded ++ rest) := hrequested
  have hread := run_readAddress hformed reserved rest broken
  rw [serveRequest, exec_bind_of_ok (exec_fromClient hread)]
  exact exec_bind_of_ok (exec_fromClient hport)

theorem exec_handleSocks5 {greeted rest : List UInt8} {port : BitVec 32}
    {after : Stream IoException} (hadmitted : Admitted D config s.cin.bytes greeted)
    (hrequested : Requested greeted address rest)
    (hport : readPort.run ⟨rest, s.cin.broken⟩ = .ok (port, after)) :
    ∃ log, (handleSocks5 D config).exec s = (openUpstream config (address.host D) port (reply 0x05)
      (reply 0x04) (emit (.toClient (reply 0x00)))).exec { s with cin := after, log := log } := by
  obtain ⟨⟨bytes, broken⟩, tin, refuses, log⟩ := s
  rcases hadmitted with ⟨hauth, methods, u, p, hmethod, hlt, hpos, hult, hplt, huser, hpass, hcin⟩ |
      ⟨hauth, methods, hmethod, hlt, hcin⟩
  · obtain rfl : bytes = sized methods ++ (1 :: (sized u ++ (sized p ++ greeted))) := hcin
    have hmethods := run_readMethods (List.length_pos_of_mem hmethod) hlt
      (1 :: (sized u ++ (sized p ++ greeted))) broken
    have hcredentials := run_readCredentials hpos hult hplt greeted broken
    refine ⟨log ++ [.toClient [0x05, 0x02]] ++ [.toClient [0x01, 0x00]], ?_⟩
    rw [handleSocks5, exec_bind_of_ok (exec_fromClient hmethods)]
    dsimp only
    rw [if_pos hauth, if_neg (by simp [hmethod]), exec_bind_of_ok (exec_emit _ _),
      exec_bind_of_ok (exec_fromClient hcredentials)]
    dsimp only
    rw [if_neg (by simp [huser, hpass]), exec_bind_of_ok (exec_emit _ _)]
    exact exec_serveRequest hrequested hport
  · obtain rfl : bytes = sized methods ++ greeted := hcin
    have hmethods := run_readMethods (List.length_pos_of_mem hmethod) hlt greeted broken
    refine ⟨log ++ [.toClient [0x05, 0x00]], ?_⟩
    rw [handleSocks5, exec_bind_of_ok (exec_fromClient hmethods)]
    dsimp only
    rw [if_neg (by simp [hauth]), if_neg (by simp [hmethod]), exec_bind_of_ok (exec_emit _ _)]
    exact exec_serveRequest hrequested hport

end Runs

end LibreRoute.Bridge
