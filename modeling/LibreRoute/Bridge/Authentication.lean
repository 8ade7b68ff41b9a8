import LibreRoute.Bridge.Http

/-!
The gate of the bridge. A client is told apart by its first byte, and
either protocol has its own way to name a username and a password; on
every path to the core the handler has compared them.
-/

namespace LibreRoute.Bridge

open Lib

variable (D : Utf8.Decoder) (N : NameLibrary) (config : ListenerConfig)

/-- A SOCKS5 greeting and then, in the form of RFC 1929, the configured username and
password. -/
def CarriesExchange (stream : List UInt8) : Prop :=
  ∃ methods u p rest : List UInt8, methods.length < 256 ∧ u.length < 256 ∧ p.length < 256 ∧
    stream = 5 :: (sized methods ++ (1 :: (sized u ++ (sized p ++ rest)))) ∧
    D.decode u = config.username ∧ D.decode p = config.password

/-- A single Proxy-Authorization line among the header lines, of the scheme Basic, that holds
the configured username and password with a colon between them. -/
def CarriesHeader (stream : List UInt8) : Prop :=
  ∃ b tail line u p, stream = b :: tail ∧
    (fieldLines tail).filter (fun line => isProxyAuthorization (latin1 line)) = [line] ∧
    startsWithIgnoreCase (trim (substringAfter (latin1 line) ':')) "Basic " = true ∧
    Base64.decode .standard
      (trim (substringAfter (trim (substringAfter (latin1 line) ':')) ' ')).toList =
        some (u ++ 58 :: p) ∧
    D.decode u = config.username ∧ D.decode p = config.password

variable {D N config}

theorem exists_credentials {bytes : List UInt8}
    (hcolon : (D.decode bytes).toList.contains ':' = true) :
    ∃ u p, bytes = u ++ 58 :: p ∧ D.decode u = substringBefore (D.decode bytes) ':' ∧
      D.decode p = substringAfter (D.decode bytes) ':' := by
  obtain ⟨u, p, hbytes, hfirst, hdecode⟩ := D.exists_cut (x := 58) (by decide)
    (List.contains_iff_mem.1 hcolon)
  refine ⟨u, p, hbytes, ?_, ?_⟩
  · rw [hdecode]
    exact (substringBefore_append hfirst _).symm
  · rw [hdecode]
    exact (substringAfter_append hfirst _).symm

theorem carriesHeader_of_accepts {b : UInt8} {stream : Stream IoException} {request : HttpRequest}
    {destination : HttpProxyTarget} (huse : config.useAuth = true)
    (h : Accepts D N config b stream request destination) :
    CarriesHeader D config (b :: stream.bytes) := by
  obtain ⟨rest, hread⟩ := h.read
  obtain ⟨method, -, -, -, hhead, hone⟩ := readHead_eq_some hread
  have hauth := h.authorized huse
  unfold authOk at hauth
  split at hauth
  · cases hauth
  next header hheader =>
  split at hauth
  · next hbasic =>
      split at hauth
      · cases hauth
      next bytes hbytes =>
      simp only [Bool.and_eq_true, beq_iff_eq] at hauth
      obtain ⟨⟨hcolon, huser⟩, hpass⟩ := hauth
      obtain ⟨u, p, rfl, hu, hp⟩ := exists_credentials hcolon
      rw [hhead, Head.of] at hheader
      obtain ⟨text, htext, rfl⟩ := Option.map_eq_some_iff.1 hheader
      rw [List.filter_map] at htext hone
      obtain ⟨line, hline, rfl⟩ := Option.map_eq_some_iff.1 (List.head?_map ▸ htext)
      have hsingle : (fieldLines stream.bytes).filter (isProxyAuthorization ∘ latin1) = [line] := by
        obtain ⟨others, hothers⟩ := List.head?_eq_some_iff.1 hline
        rw [hothers] at hone ⊢
        simpa using hone
      exact ⟨b, stream.bytes, line, u, p, rfl, hsingle, hbasic, hbytes, hu.trans huser,
        hp.trans hpass⟩
  · cases hauth

/-- Of the log of a session over `stream`: the core was contacted only for credentials. -/
abbrev Gated (D : Utf8.Decoder) (config : ListenerConfig) (stream : List UInt8)
    (log : List Event) : Prop :=
  ∀ event ∈ log, event = .contacted →
    CarriesExchange D config stream ∨ CarriesHeader D config stream

theorem handleClient_gated {s : Session} (fates : List (Fate IoException))
    (huse : config.useAuth = true) (hlog : s.log = []) :
    Gated D config s.cin.bytes ((handleClient D N config).run s fates).2.1.log := by
  have hnil : Gated D config s.cin.bytes s.log := by
    rw [hlog]
    exact List.forall_mem_nil _
  refine log_final (handleClient_wp hnil ?_ ?_) fates
  · intro rest hcin
    refine handleSocks5_wp (fun _ => admits_of_forall (by simp)) hnil ?_
    intro greeted address after port final hadmitted hrequested hport
    have hcarries : CarriesExchange D config s.cin.bytes := by
      rcases hadmitted with ⟨-, methods, u, p, -, hlt, -, hult, hplt, hu, hp, hstream⟩ | ⟨hno, -⟩
      · exact ⟨methods, u, p, greeted, hlt, hult, hplt, by rw [hcin]; exact congrArg _ hstream,
          hu, hp⟩
      · rw [huse] at hno
        cases hno
    exact ⟨admits_of_forall fun _ => Or.inl hcarries, fun _ => admits_of_forall (by simp),
      admits_of_forall (by simp), fun _ => admits_of_forall (by simp)⟩
  · intro b rest hcin
    refine handleHttp_wp (fun _ => admits_of_forall (by simp)) hnil ?_
    intro request destination haccepts
    have hcarries : CarriesHeader D config s.cin.bytes := by
      rw [hcin]
      exact carriesHeader_of_accepts huse haccepts
    exact ⟨⟨admits_of_forall fun _ => Or.inr hcarries, fun _ => admits_of_forall (by simp),
      admits_of_forall (by simp), fun _ => admits_of_forall (by simp)⟩,
      fun _ _ log hlog _ => admits_of_forall (by simp) log hlog⟩

theorem bridge_contact_authenticated (D : Utf8.Decoder) (N : NameLibrary) (config : ListenerConfig)
    (s : Session) (fates : List (Fate IoException)) (hauth : config.auth = true)
    (husername : config.username ≠ "") (hpassword : config.password ≠ "") (hlog : s.log = [])
    (hcontacted : .contacted ∈ ((handleClient D N config).run s fates).2.1.log) :
    CarriesExchange D config s.cin.bytes ∨ CarriesHeader D config s.cin.bytes := by
  have huse : config.useAuth = true := by
    simp [ListenerConfig.useAuth, hauth, husername, hpassword]
  exact handleClient_gated fates huse hlog _ hcontacted rfl

/-- A SOCKS5 client that sends the username `u` and the password `p`. -/
theorem bridge_contact_authenticated_up :
    CarriesExchange Utf8.replacing ⟨true, "u", "p"⟩
        [5, 1, 2, 1, 1, 117, 1, 112, 5, 1, 0, 1, 127, 0, 0, 1, 0, 80] ∨
      CarriesHeader Utf8.replacing ⟨true, "u", "p"⟩
        [5, 1, 2, 1, 1, 117, 1, 112, 5, 1, 0, 1, 127, 0, 0, 1, 0, 80] := by
  have hadmitted : Admitted Utf8.replacing ⟨true, "u", "p"⟩
      [1, 2, 1, 1, 117, 1, 112, 5, 1, 0, 1, 127, 0, 0, 1, 0, 80]
      [5, 1, 0, 1, 127, 0, 0, 1, 0, 80] :=
    Or.inl ⟨by decide, [2], [117], [112], by decide, by decide, by decide, by decide, by decide,
      by decide, by decide, rfl⟩
  have hrequested : Requested [5, 1, 0, 1, 127, 0, 0, 1, 0, 80] (.ipv4 [127, 0, 0, 1]) [0, 80] :=
    ⟨rfl, 0, rfl⟩
  obtain ⟨log, hexec⟩ := exec_handleSocks5 (s := ⟨⟨_, none⟩, willing, true, []⟩) hadmitted
    hrequested (run_readPort 0 80 [] none)
  rw [exec_openUpstream_refused rfl] at hexec
  refine bridge_contact_authenticated Utf8.replacing plainNames ⟨true, "u", "p"⟩
    ⟨⟨[5, 1, 2, 1, 1, 117, 1, 112, 5, 1, 0, 1, 127, 0, 0, 1, 0, 80], none⟩, willing, true, []⟩ []
    rfl
    (by decide) (by decide) rfl ?_
  rw [run_nil_state, exec_handleClient_socks rfl hexec]
  simp

end LibreRoute.Bridge
