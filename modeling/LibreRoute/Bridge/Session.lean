import LibreRoute.Lib.Kotlin
import LibreRoute.Lib.Program
import LibreRoute.Lib.Stream
import LibreRoute.Lib.Utf8

/-!
One client of the hotspot bridge (service/HotspotProxyBridge.kt).

The session is everything a worker sees: the two streams it reads from,
whether the core lets it connect, and the log of what it has done. A write to
either side may fail, and the process may die at it, which is what the fates
of a `Prog` are for. The worker closes the client however the handler returns;
closing is left out.
-/

namespace LibreRoute.Bridge

open Lib Utf8

/-- An exception of a socket or of a reader; nothing looks at more than that there is one. -/
structure IoException where
  message : String

/-- What a worker does that can be seen from outside. -/
inductive Event
  | toClient (bytes : List UInt8)
  | contacted
  | handshake (bytes : List UInt8)
  | request (bytes : List UInt8)
  | forwardedHead (bytes : List UInt8)
  | piping
  deriving DecidableEq

/-- `refuses`: the listener of the core does not answer. -/
structure Session where
  cin : Stream IoException
  tin : Stream IoException
  refuses : Bool
  log : List Event

/-- The part of `ListenerConfig` a worker is handed. -/
structure ListenerConfig where
  auth : Bool
  username : String
  password : String

/-- Authentication is asked for only if there is something to compare with. -/
def ListenerConfig.useAuth (config : ListenerConfig) : Bool :=
  config.auth && !config.username.isEmpty && !config.password.isEmpty

abbrev Worker (α : Type) := Prog IoException Session α

/-- Reads from the client. What a failed read has taken is of no interest, as every exception
ends the session. -/
def fromClient {α : Type} (m : Reading IoException α) : Worker α := do
  let result ← Prog.read fun s => m.run s.cin
  let (a, rest) ← Prog.ofExcept result
  Prog.modify fun s => { s with cin := rest }
  return a

def fromUpstream {α : Type} (m : Reading IoException α) : Worker α := do
  let result ← Prog.read fun s => m.run s.tin
  let (a, rest) ← Prog.ofExcept result
  Prog.modify fun s => { s with tin := rest }
  return a

def emit (event : Event) : Worker Unit := Prog.write fun s => { s with log := s.log ++ [event] }

/-! ### The handshake with the core -/

def canAuthenticate (username password : String) : Bool :=
  (1 ≤ (encode username).length && (encode username).length ≤ 255) &&
    (1 ≤ (encode password).length && (encode password).length ≤ 255)

/-- The bytes of a CONNECT: the host as a domain name, and the two low bytes of the port. -/
def connectRequest (host : List UInt8) (port : BitVec 32) : List UInt8 :=
  [0x05, 0x01, 0x00, 0x03, UInt8.ofNat host.length] ++ host ++
    [⟨(port.sshiftRight 8).setWidth 8⟩, ⟨(port &&& 0xFF).setWidth 8⟩]

/-- Version and method the core answers a greeting with. -/
def readChoice : Reading IoException (Int × Int) := do
  let ver ← Reading.read
  let method ← Reading.read
  return (ver, method)

def readVerdict : Reading IoException Bool := do
  let ver ← Reading.read
  if ver != 0x01 then return false
  let status ← Reading.read
  return status == 0x00

/-- `for (i in 0 until toSkip) if (tin.read() < 0) return false`. -/
def skip : Nat → Reading IoException Bool
  | 0 => return true
  | n + 1 => do
      let b ← Reading.read
      if b < 0 then return false
      skip n

/-- The answer to a CONNECT, with the address it carries. -/
def readReply : Reading IoException Bool := do
  let rVer ← Reading.read
  let rRep ← Reading.read
  let _ ← Reading.read
  let rAtyp ← Reading.read
  if rVer != 0x05 || rRep != 0x00 then return false
  if rAtyp == 0x01 then skip (4 + 2)
  else if rAtyp == 0x03 then do
    let dLen ← Reading.read
    skip (((BitVec.ofInt 32 dLen) &&& 0xFF).toNat + 2)
  else if rAtyp == 0x04 then skip (16 + 2)
  else return false

/-- The end of the handshake: the CONNECT for `host` and `port`. -/
def sendConnect (host : String) (port : BitVec 32) : Worker Bool :=
  if (encode host).length > 255 then return false
  else do
    emit (.request (connectRequest (encode host) port))
    fromUpstream readReply

def socks5Connect (host : String) (port : BitVec 32) (username password : String) :
    Worker Bool := do
  let user := encode username
  let pass := encode password
  emit (.handshake (if canAuthenticate username password then [0x05, 0x02, 0x00, 0x02]
    else [0x05, 0x01, 0x00]))
  let (ver, method) ← fromUpstream readChoice
  if ver != 0x05 then return false
  else if method == 0x00 then sendConnect host port
  else if method == 0x02 then
    if !canAuthenticate username password then return false
    else do
      emit (.handshake [0x01, UInt8.ofNat user.length])
      emit (.handshake user)
      emit (.handshake [UInt8.ofNat pass.length])
      emit (.handshake pass)
      let accepted ← fromUpstream readVerdict
      if !accepted then return false
      else sendConnect host port
  else return false

/-- What both protocols do once they know where the client wants to go: connect to the core
and have it connect on. `refusal` is the answer if the core cannot be reached, `failure` the
one if it does not get through. -/
def openUpstream (config : ListenerConfig) (host : String) (port : BitVec 32)
    (refusal failure : List UInt8) (established : Worker Unit) : Worker Unit := do
  Prog.modify fun s => { s with log := s.log ++ [.contacted] }
  let refused ← Prog.read Session.refuses
  if refused then emit (.toClient refusal)
  else do
    let ok ← socks5Connect host port config.username config.password
    if !ok then emit (.toClient failure)
    else do
      established
      Prog.modify fun s => { s with log := s.log ++ [.piping] }

/-! ### What the log can hold -/

section Rules

variable {α : Type} {m : Reading IoException α} {s : Session} {E : Session → Prop}

theorem wp_fromClient {Q : α → Session → Prop}
    (h : ∀ a rest, m.run s.cin = .ok (a, rest) → Q a { s with cin := rest }) (hE : E s) :
    (fromClient m).wp Q E s :=
  wp_bind (wp_read (wp_bind (wp_ofExcept
    (fun r hr => wp_bind (wp_modify (wp_pure (h r.1 r.2 hr)))) hE)))

theorem wp_emit {event : Event} {Q : Unit → Session → Prop}
    (h : Q () { s with log := s.log ++ [event] }) (hE : E s) : (emit event).wp Q E s :=
  wp_write h hE

theorem wp_fromUpstream {Q : α → Session → Prop}
    (h : ∀ a rest, m.run s.tin = .ok (a, rest) → Q a { s with tin := rest }) (hE : E s) :
    (fromUpstream m).wp Q E s :=
  wp_bind (wp_read (wp_bind (wp_ofExcept
    (fun r hr => wp_bind (wp_modify (wp_pure (h r.1 r.2 hr)))) hE)))

theorem exec_fromClient {a : α} {rest : Stream IoException} (h : m.run s.cin = .ok (a, rest)) :
    (fromClient m).exec s = (.ok a, { s with cin := rest }) := by
  simp [fromClient, h]

theorem exec_fromUpstream {a : α} {rest : Stream IoException} (h : m.run s.tin = .ok (a, rest)) :
    (fromUpstream m).exec s = (.ok a, { s with tin := rest }) := by
  simp [fromUpstream, h]

end Rules

/-- What is known of a log still holds when `event` has been added. -/
def Admits (I : List Event → Prop) (event : Event) : Prop := ∀ log, I log → I (log ++ [event])

/-- Whatever the worker does, the log keeps `I`. -/
abbrev KeepsLog {α : Type} (I : List Event → Prop) (m : Worker α) (s : Session) : Prop :=
  m.wp (fun _ t => I t.log) (fun t => I t.log) s

/-- A log may go on with a connection to `host` and `port`. -/
structure AdmitsConnection (I : List Event → Prop) (host : String) (port : BitVec 32) : Prop where
  contacted : Admits I .contacted
  handshake : ∀ bytes, Admits I (.handshake bytes)
  piping : Admits I .piping
  request : (encode host).length ≤ 255 →
    Admits I (.request (connectRequest (encode host) port))

theorem log_final {α : Type} {m : Worker α} {I : List Event → Prop} {s : Session}
    (h : KeepsLog I m s) (fates : List (Fate IoException)) :
    I (m.run s fates).2.1.log := wp_final h fates

theorem admits_of_forall {P : Event → Prop} {event : Event} (h : P event) :
    Admits (fun log => ∀ e ∈ log, P e) event := by
  intro log hlog e he
  rcases List.mem_append.1 he with he | he
  · exact hlog e he
  · rwa [List.mem_singleton.1 he]

section Handshake

variable {I : List Event → Prop} {host : String} {port : BitVec 32} {username password : String}
  {s : Session}

/-- The core can be asked only for `host` and `port`, and `host` fits into the request. It is
asked if the answer is that it has connected. -/
theorem sendConnect_wp (hrequest : (encode host).length ≤ 255 →
      Admits I (.request (connectRequest (encode host) port))) (hs : I s.log) :
    (sendConnect host port).wp (fun ok t => I t.log ∧ (ok = true →
      (encode host).length ≤ 255 ∧
      .request (connectRequest (encode host) port) ∈ t.log)) (fun t => I t.log) s := by
  unfold sendConnect
  split
  · exact wp_pure ⟨hs, by simp⟩
  · next hfits =>
      have hlog := hrequest (Nat.not_lt.1 hfits) _ hs
      refine wp_bind (wp_emit (wp_fromUpstream (fun ok rest _ => ?_) hlog) hs)
      exact ⟨hlog, fun _ => ⟨Nat.not_lt.1 hfits, by simp⟩⟩

theorem socks5Connect_wp (hhandshake : ∀ bytes, Admits I (.handshake bytes))
    (hrequest : (encode host).length ≤ 255 →
      Admits I (.request (connectRequest (encode host) port))) (hs : I s.log) :
    (socks5Connect host port username password).wp (fun ok t => I t.log ∧ (ok = true →
      (encode host).length ≤ 255 ∧
      .request (connectRequest (encode host) port) ∈ t.log)) (fun t => I t.log) s := by
  unfold socks5Connect
  have hgreeting := hhandshake (if canAuthenticate username password then [0x05, 0x02, 0x00, 0x02]
    else [0x05, 0x01, 0x00]) _ hs
  refine wp_bind (wp_emit (wp_bind (wp_fromUpstream (fun choice rest _ => ?_) hgreeting)) hs)
  obtain ⟨ver, method⟩ := choice
  dsimp only
  split
  · exact wp_pure ⟨hgreeting, by simp⟩
  split
  · exact sendConnect_wp hrequest hgreeting
  split
  · split
    · exact wp_pure ⟨hgreeting, by simp⟩
    · have h₁ := hhandshake [0x01, UInt8.ofNat (encode username).length] _ hgreeting
      have h₂ := hhandshake (encode username) _ h₁
      have h₃ := hhandshake [UInt8.ofNat (encode password).length] _ h₂
      have h₄ := hhandshake (encode password) _ h₃
      refine wp_bind (wp_emit (wp_bind (wp_emit (wp_bind (wp_emit (wp_bind
        (wp_emit (wp_bind (wp_fromUpstream (fun accepted rest _ => ?_) h₄)) h₃)) h₂)) h₁))
        hgreeting)
      split
      · exact wp_pure ⟨h₄, by simp⟩
      · exact sendConnect_wp hrequest h₄
  · exact wp_pure ⟨hgreeting, by simp⟩

/-- `established` is run only when the core has been asked for `host` and `port`. -/
theorem openUpstream_wp {config : ListenerConfig} {refusal failure : List UInt8}
    {established : Worker Unit} (hclient : ∀ bytes, Admits I (.toClient bytes))
    (h : AdmitsConnection I host port)
    (hestablished : ∀ t : Session, (encode host).length ≤ 255 → I t.log →
      .request (connectRequest (encode host) port) ∈ t.log → KeepsLog I established t)
    (hs : I s.log) :
    KeepsLog I (openUpstream config host port refusal failure established) s := by
  have hlog := h.contacted _ hs
  refine wp_bind (wp_modify (wp_bind (wp_read ?_)))
  split
  · exact wp_emit (hclient _ _ hlog) hlog
  · refine wp_then (socks5Connect_wp h.handshake h.request hlog) ?_
    rintro ok t ⟨ht, hok⟩
    split
    · exact wp_emit (hclient _ _ ht) ht
    · next hconnected =>
        obtain ⟨hfits, hsent⟩ := hok (by simpa using hconnected)
        refine wp_then (hestablished t hfits ht hsent) ?_
        exact fun _ u hu => wp_modify (h.piping _ hu)

end Handshake

/-! ### A core that is willing -/

/-- A core that asks for no authentication and connects wherever it is told to. -/
def willing : Stream IoException := ⟨[5, 0] ++ [5, 0, 0, 1, 0, 0, 0, 0, 0, 0], none⟩

theorem exec_emit (event : Event) (s : Session) :
    (emit event).exec s = (.ok (), { s with log := s.log ++ [event] }) := by
  simp [emit]

theorem exec_socks5Connect_willing {host : String} (port : BitVec 32) (username password : String)
    {s : Session} (hfits : (encode host).length ≤ 255) (htin : s.tin = willing) :
    ∃ t, (socks5Connect host port username password).exec s = (.ok true, t) ∧
      t.log = s.log ++ [.handshake (if canAuthenticate username password then
          [0x05, 0x02, 0x00, 0x02] else [0x05, 0x01, 0x00]),
        .request (connectRequest (encode host) port)] := by
  obtain ⟨cin, tin, refuses, log⟩ := s
  obtain rfl : tin = willing := htin
  have hchoice : readChoice.run willing =
      .ok ((5, 0), ⟨[5, 0, 0, 1, 0, 0, 0, 0, 0, 0], none⟩) := rfl
  have hreply : readReply.run ⟨[5, 0, 0, 1, 0, 0, 0, 0, 0, 0], none⟩ = .ok (true, ⟨[], none⟩) := rfl
  refine ⟨⟨cin, ⟨[], none⟩, refuses, _⟩, ?_, rfl⟩
  simp only [socks5Connect, exec_bind, exec_emit]
  rw [exec_fromUpstream hchoice]
  simp only [bne_self_eq_false, Bool.false_eq_true, if_false, BEq.rfl, if_true, sendConnect,
    gt_iff_lt, Nat.not_lt.2 hfits, exec_bind, exec_emit]
  rw [exec_fromUpstream hreply]
  simp

section Open

variable {config : ListenerConfig} {host : String} {port : BitVec 32}
  {refusal failure : List UInt8} {established : Worker Unit} {s : Session}

theorem exec_openUpstream_refused (hrefuses : s.refuses = true) :
    (openUpstream config host port refusal failure established).exec s =
      (.ok (), { s with log := s.log ++ [.contacted] ++ [.toClient refusal] }) := by
  simp [openUpstream, exec_emit, hrefuses]

theorem exec_openUpstream_willing {events : List Event} (hfits : (encode host).length ≤ 255)
    (hestablished : ∀ u, ∃ v, established.exec u = (.ok (), v) ∧ v.log = u.log ++ events)
    (hrefuses : s.refuses = false) (htin : s.tin = willing) :
    ∃ t, (openUpstream config host port refusal failure established).exec s = (.ok (), t) ∧
      .request (connectRequest (encode host) port) ∈ t.log ∧ ∀ e ∈ events, e ∈ t.log := by
  obtain ⟨t, hconnect, hlog⟩ := exec_socks5Connect_willing port config.username
    config.password (s := { s with log := s.log ++ [.contacted] }) hfits htin
  simp only [hrefuses] at hconnect
  obtain ⟨v, hv, hvlog⟩ := hestablished t
  refine ⟨{ v with log := v.log ++ [.piping] }, ?_, ?_, ?_⟩
  · simp [openUpstream, hrefuses, hconnect, hv]
  · simp [hvlog, hlog]
  · intro e he
    simp [hvlog, he]

end Open

end LibreRoute.Bridge
