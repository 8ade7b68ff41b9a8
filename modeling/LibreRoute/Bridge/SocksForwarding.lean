import LibreRoute.Bridge.Socks

/-!
What a SOCKS5 client asks for and what the core is asked for.

`handleSocks5` reads the port with two single reads, whose `-1` at the end of
the stream is not looked at, and turns the bytes of a domain name into a text
and back. A CONNECT is faithful exactly if the two bytes of the port are there
and the name is the encoding of a text, or nothing is sent at all.
-/

namespace LibreRoute.Bridge

open Lib

/-- `stream` begins with a greeting, followed by an exchange of RFC 1929 if there is
authentication. -/
def Greeted (auth : Bool) (stream rest : List UInt8) : Prop :=
  ∃ methods : List UInt8, methods.length < 256 ∧
    if auth then ∃ u p : List UInt8, u.length < 256 ∧ p.length < 256 ∧
      stream = sized methods ++ (1 :: (sized u ++ (sized p ++ rest)))
    else stream = sized methods ++ rest

theorem Greeted.unique {auth : Bool} {stream rest rest' : List UInt8}
    (h : Greeted auth stream rest) (h' : Greeted auth stream rest') : rest = rest' := by
  obtain ⟨methods, hlt, h⟩ := h
  obtain ⟨methods', hlt', h'⟩ := h'
  cases auth with
  | false =>
    simp only [Bool.false_eq_true, if_false] at h h'
    exact (sized_append_inj hlt hlt' (h.symm.trans h')).2
  | true =>
    simp only [if_true] at h h'
    obtain ⟨u, p, hu, hp, h⟩ := h
    obtain ⟨u', p', hu', hp', h'⟩ := h'
    obtain ⟨-, htail⟩ := sized_append_inj hlt hlt' (h.symm.trans h')
    obtain ⟨-, hpass⟩ := sized_append_inj hu hu' (List.cons.inj htail).2
    exact (sized_append_inj hp hp' hpass).2

theorem Admitted.greeted {D : Utf8.Decoder} {config : ListenerConfig} {stream rest : List UInt8}
    (h : Admitted D config stream rest) : Greeted config.useAuth stream rest := by
  rcases h with ⟨hauth, methods, u, p, -, hlt, -, hult, hplt, -, -, hstream⟩ |
      ⟨hauth, methods, -, hlt, hstream⟩
  · exact ⟨methods, hlt, by rw [if_pos hauth]; exact ⟨u, p, hult, hplt, hstream⟩⟩
  · exact ⟨methods, hlt, by rw [if_neg (by simp [hauth])]; exact hstream⟩

theorem Requested.unique {stream rest rest' : List UInt8} {address address' : Address}
    (h : Requested stream address rest) (h' : Requested stream address' rest') :
    address = address' ∧ rest = rest' := by
  obtain ⟨hformed, reserved, h⟩ := h
  obtain ⟨hformed', reserved', h'⟩ := h'
  have hencoded : address.encoded ++ rest = address'.encoded ++ rest' := by
    rw [h] at h'
    exact (List.cons.inj (List.cons.inj (List.cons.inj h').2).2).2
  cases address <;> cases address'
  · obtain ⟨hbytes, hrest⟩ := List.append_inj (List.cons.inj hencoded).2
      (hformed.trans hformed'.symm)
    exact ⟨congrArg Address.ipv4 hbytes, hrest⟩
  · cases (List.cons.inj hencoded).1
  · cases (List.cons.inj hencoded).1
  · obtain ⟨hbytes, hrest⟩ := sized_append_inj hformed.2 hformed'.2 (List.cons.inj hencoded).2
    exact ⟨congrArg Address.domain hbytes, hrest⟩

/-- `stream` holds a complete request: the address and both bytes of the port. -/
def Complete (config : ListenerConfig) (stream : List UInt8) (address : Address)
    (high low : UInt8) : Prop :=
  ∃ greeted rest, Greeted config.useAuth stream greeted ∧
    Requested greeted address (high :: low :: rest)

/-- `bytes` is a CONNECT for the port of the request in `stream` and, if that was for a domain
name, for the bytes of the name. -/
def Faithful (config : ListenerConfig) (stream bytes : List UInt8) : Prop :=
  ∃ address high low host, Complete config stream address high low ∧ host.length < 256 ∧
    bytes = 5 :: 1 :: 0 :: ((Address.domain host).encoded ++ [high, low]) ∧
    ∀ name, address = .domain name → host = name

/-- Of a stream that is read as far as the port: the port is there and the name is the
encoding of a text, or the stream breaks off in the port, or the name has grown too long to be
sent. -/
def Lossless (D : Utf8.Decoder) (config : ListenerConfig) (stream : Stream IoException) : Prop :=
  ∀ greeted address rest, Admitted D config stream.bytes greeted →
    Requested greeted address rest →
    (2 ≤ rest.length ∧ ∀ name, address = .domain name → Utf8.IsEncoding name) ∨
    (rest.length < 2 ∧ stream.broken.isSome) ∨
    255 < (Utf8.encode (address.host D)).length

theorem connectRequest_eq (host : List UInt8) (port : BitVec 32) :
    connectRequest host port = 5 :: 1 :: 0 :: ((Address.domain host).encoded ++
      [⟨(port.sshiftRight 8).setWidth 8⟩, ⟨(port &&& 0xFF).setWidth 8⟩]) := by
  simp [connectRequest, Address.encoded, sized]

theorem port_high (high low : BitVec 8) :
    (((high.setWidth 32 <<< 8) ||| low.setWidth 32).sshiftRight 8).setWidth 8 = high := by
  ext i hi
  have h₁ : ¬ 32 ≤ i := by omega
  have h₂ : 8 + i < 32 := by omega
  rw [BitVec.getElem_setWidth, BitVec.getLsbD_sshiftRight]
  simp [h₁, h₂, BitVec.getLsbD_eq_getElem hi]

theorem port_low (high low : BitVec 8) :
    (((high.setWidth 32 <<< 8) ||| low.setWidth 32) &&& 0xFF).setWidth 8 = low := by
  have hmask : (0xFF#32).setWidth 8 = BitVec.allOnes 8 := by decide
  rw [BitVec.setWidth_and]
  change _ &&& (0xFF#32).setWidth 8 = low
  rw [hmask, BitVec.and_allOnes]
  ext i hi
  simp

theorem connectRequest_port (host : List UInt8) (high low : UInt8) :
    connectRequest host ((BitVec.ofInt 32 high.toNat <<< 8) ||| BitVec.ofInt 32 low.toNat) =
      5 :: 1 :: 0 :: ((Address.domain host).encoded ++ [high, low]) := by
  have hbyte : ∀ b : UInt8, BitVec.ofInt 32 b.toNat = b.toBitVec.setWidth 32 := by
    intro b
    rw [BitVec.ofInt_natCast, ← BitVec.ofNat_toNat]
    rfl
  rw [connectRequest_eq, hbyte, hbyte, port_high, port_low]

theorem exists_sent {D : Utf8.Decoder} {config : ListenerConfig} {bytes greeted rest : List UInt8}
    {broken : Option IoException} {address : Address} {port : BitVec 32}
    {after : Stream IoException} (hadmitted : Admitted D config bytes greeted)
    (hrequested : Requested greeted address rest)
    (hport : readPort.run ⟨rest, broken⟩ = .ok (port, after))
    (hfits : (Utf8.encode (address.host D)).length ≤ 255) :
    .request (connectRequest (Utf8.encode (address.host D)) port) ∈
      ((handleSocks5 D config).run ⟨⟨bytes, broken⟩, willing, false, []⟩ []).2.1.log := by
  obtain ⟨log, hexec⟩ := exec_handleSocks5 (s := ⟨⟨bytes, broken⟩, willing, false, []⟩) hadmitted
    hrequested hport
  have hopen : ∃ t, (handleSocks5 D config).exec ⟨⟨bytes, broken⟩, willing, false, []⟩ =
      (.ok (), t) ∧ .request (connectRequest (Utf8.encode (address.host D)) port) ∈ t.log ∧
      ∀ e ∈ [Event.toClient (reply 0x00)], e ∈ t.log := by
    rw [hexec]
    exact exec_openUpstream_willing hfits (fun u => ⟨_, exec_emit _ u, rfl⟩) rfl rfl
  obtain ⟨t, ht, hsent, -⟩ := hopen
  rw [run_nil_state, ht]
  exact hsent

theorem socks_connect_faithful_iff (D : Utf8.Decoder) (config : ListenerConfig)
    (stream : Stream IoException) :
    (∀ (s : Session) (fates : List (Fate IoException)), s.cin = stream → s.log = [] →
      ∀ bytes, .request bytes ∈ ((handleSocks5 D config).run s fates).2.1.log →
        Faithful config stream.bytes bytes) ↔
    Lossless D config stream := by
  constructor
  · intro hfaithful greeted address rest hadmitted hrequested
    by_cases hlong : 255 < (Utf8.encode (address.host D)).length
    · exact Or.inr (Or.inr hlong)
    by_cases hread : ∃ port after, readPort.run ⟨rest, stream.broken⟩ = .ok (port, after)
    · -- The port is read, so a core that is willing is sent the CONNECT.
      obtain ⟨port, after, hport⟩ := hread
      obtain ⟨address', high, low, host, ⟨greeted', rest', hgreeted, hrequested'⟩, hhost, hbytes,
          hname⟩ := hfaithful ⟨stream, willing, false, []⟩ [] rfl rfl _
        (exists_sent hadmitted hrequested hport (Nat.not_lt.1 hlong))
      obtain rfl := hadmitted.greeted.unique hgreeted
      obtain ⟨rfl, rfl⟩ := hrequested.unique hrequested'
      refine Or.inl ⟨by simp, ?_⟩
      rintro name rfl
      obtain rfl := hname name rfl
      rw [connectRequest_eq] at hbytes
      have hencoded := (List.cons.inj (List.cons.inj (List.cons.inj hbytes).2).2).2
      obtain ⟨heq, -⟩ := sized_append_inj (by omega) hhost (List.cons.inj hencoded).2
      exact ⟨_, heq⟩
    · rw [run_readPort_eq_ok_iff, not_or] at hread
      refine Or.inr (Or.inl ⟨Nat.not_le.1 hread.1, ?_⟩)
      exact Option.isSome_iff_ne_none.2 hread.2
  · intro hlossless s fates hcin hlog bytes hbytes
    have hP : ∀ event ∈ ((handleSocks5 D config).run s fates).2.1.log,
        ∀ bytes, event = .request bytes → Faithful config stream.bytes bytes := by
      refine log_final (handleSocks5_wp
          (fun _ => admits_of_forall (by simp)) (by simp [hlog]) ?_) fates
      rw [hcin]
      intro greeted address rest port after hadmitted hrequested hport
      refine ⟨admits_of_forall (by simp), fun _ => admits_of_forall (by simp),
        admits_of_forall (by simp), fun hfits => admits_of_forall fun bytes hbytes => ?_⟩
      cases hbytes
      rcases hlossless greeted address rest hadmitted hrequested with
        ⟨hlength, hname⟩ | ⟨hlength, hbroken⟩ | hlong
      · obtain ⟨high, low, rest, rfl⟩ : ∃ high low rest', rest = high :: low :: rest' := by
          match rest, hlength with
          | high :: low :: rest, _ => exact ⟨high, low, rest, rfl⟩
        rw [run_readPort] at hport
        cases hport
        refine ⟨address, high, low, Utf8.encode (address.host D),
          ⟨greeted, rest, hadmitted.greeted, hrequested⟩, by omega,
          connectRequest_port _ high low, ?_⟩
        rintro name rfl
        exact (D.encode_decode_iff name).2 (hname name rfl)
      · rcases run_readPort_eq_ok_iff.1 ⟨port, after, hport⟩ with htwo | hnone
        · exact absurd htwo (Nat.not_le.2 hlength)
        · simp [show stream.broken = none from hnone] at hbroken
      · omega
    exact hP _ hbytes bytes rfl

/-- A client without authentication that closes before it has sent the port of its request for
127.0.0.1: the core is asked for port 65535. -/
theorem socks_connect_without_port :
    .request (5 :: 1 :: 0 :: ((Address.domain (Utf8.encode "127.0.0.1")).encoded ++ [255, 255])) ∈
      ((handleSocks5 Utf8.replacing ⟨false, "", ""⟩).run
        ⟨⟨[1, 0, 5, 1, 0, 1, 127, 0, 0, 1], none⟩, willing, false, []⟩ []).2.1.log ∧
    ¬ ∃ address high low,
      Complete ⟨false, "", ""⟩ [1, 0, 5, 1, 0, 1, 127, 0, 0, 1] address high low := by
  have hadmitted : Admitted Utf8.replacing ⟨false, "", ""⟩ [1, 0, 5, 1, 0, 1, 127, 0, 0, 1]
      [5, 1, 0, 1, 127, 0, 0, 1] := Or.inr ⟨rfl, [0], by decide, by decide, rfl⟩
  have hrequested : Requested [5, 1, 0, 1, 127, 0, 0, 1] (.ipv4 [127, 0, 0, 1]) [] :=
    ⟨rfl, 0, rfl⟩
  have hhost : (Address.ipv4 [127, 0, 0, 1]).host Utf8.replacing = "127.0.0.1" := by decide
  constructor
  · have hport : readPort.run ⟨[], none⟩ = .ok (0xFFFFFFFF, ⟨[], none⟩) := rfl
    have hsent := exists_sent hadmitted hrequested hport (by rw [hhost]; decide)
    rw [hhost, connectRequest_eq] at hsent
    exact hsent
  · rintro ⟨address, high, low, greeted, rest, hgreeted, hrequested'⟩
    obtain rfl := hadmitted.greeted.unique hgreeted
    cases (hrequested.unique hrequested').2

end LibreRoute.Bridge
