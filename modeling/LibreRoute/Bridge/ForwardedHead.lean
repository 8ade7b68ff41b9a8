import LibreRoute.Bridge.CompleteHead
import LibreRoute.Bridge.SocksForwarding
import LibreRoute.Lib.Fields

/-!
The head the bridge passes on, as the origin reads it.

`handleHttp` looks at lines that end at CR LF, and writes characters that were
bytes in UTF-8. The origin may end a line at LF and overlook white space
before a colon. The two agree exactly if the lines that are passed on are
ASCII and hold, read the origin's way, no credentials and one host.
-/

namespace LibreRoute.Bridge

open Lib Utf8

def retainedLines (bytes : List UInt8) : List (List UInt8) :=
  (fieldLines bytes).filter fun line => isRetained (latin1 line)

/-- A value names a host and a port: it is the text for them, or it is read as them. -/
def Names (N : NameLibrary) (value : String) (host : String) (port : Int) : Prop :=
  value = (HttpProxyTarget.mk host port "").authority ∨ authority N value 80 = some (host, port)

/-- No credentials among the fields, and one host. -/
def FieldsFit (N : NameLibrary) (host : String) (port : Int) (fields : List (List UInt8)) : Prop :=
  (∀ field ∈ fields, isNamed (encode "proxy-authorization") field = false) ∧
    ∃ field, fields.filter (isNamed (encode "host")) = [field] ∧
      Names N (trim (latin1 (fieldValue field))) host port

/-- After the request line come the lines that are passed on, byte for byte. -/
def KeepsLines (lines : List (List UInt8)) (head : List UInt8) : Prop :=
  ∃ before requestLine rest, (before = [] ∨ before = [13, 10]) ∧ requestLine ≠ [] ∧
    IsLine requestLine ∧
    head = before ++ requestLine ++ 13 :: 10 :: (lines.flatMap (· ++ [13, 10]) ++ rest)

def requestText (request : HttpRequest) (destination : HttpProxyTarget) : String :=
  request.method ++ " " ++ destination.path ++ " " ++ request.version

/-- The bridge's own host line, where the client has none. -/
def ownLines (request : HttpRequest) (destination : HttpProxyTarget) : List (List UInt8) :=
  if request.head.hostHeaders.isEmpty then [encode ("Host: " ++ destination.authority)] else []

/-- The lines of a client that are passed on are ASCII and, broken up at every LF, hold no
credentials and, together with the bridge's own line, one host. -/
def Clean (N : NameLibrary) (bytes : List UInt8) (request : HttpRequest)
    (destination : HttpProxyTarget) : Prop :=
  (∀ line ∈ retainedLines bytes, ∀ b ∈ line, b.toNat < 128) ∧
    FieldsFit N destination.host destination.port
      (((pieces (encode (requestText request destination))).tail ++
        (retainedLines bytes).flatMap pieces ++ ownLines request destination).takeWhile
          (!·.isEmpty))

theorem encode_foldr (texts : List String) :
    encode ((texts.map (· ++ "\r\n")).foldr (· ++ ·) "") =
      texts.flatMap fun text => encode text ++ [13, 10] := by
  have hcrlf : encode "\r\n" = [13, 10] := by decide
  have hnil : encode "" = [] := by decide
  induction texts with
  | nil => exact hnil
  | cons text texts ih =>
    rw [List.map_cons, List.foldr_cons, encode_append, encode_append, ih, hcrlf,
      List.flatMap_cons]

def closing : List UInt8 := encode "Connection: close" ++ [13, 10, 13, 10]

variable {t : Stream IoException} {raw : String} {defaultPort : Int}

theorem encode_forwardedText {b : UInt8} {stream : Stream IoException} {request : HttpRequest}
    (h : (readHead b.toNat).run stream = .ok (some request, t)) (destination : HttpProxyTarget) :
    encode (forwardedText request destination) =
      encode (requestText request destination) ++ 13 :: 10 ::
        ((retainedLines stream.bytes).flatMap (fun line => encode (latin1 line) ++ [13, 10]) ++
          ((ownLines request destination).flatMap (· ++ [13, 10]) ++ closing)) := by
  obtain ⟨-, -, -, -, hhead, -⟩ := readHead_eq_some h
  have hcrlf : encode "\r\n" = [13, 10] := by decide
  have hclose : encode "Connection: close\r\n\r\n" = closing := by decide
  have hretained : request.head.headers.filter isRetained =
      (retainedLines stream.bytes).map latin1 := by
    rw [hhead, Head.of, List.filter_map]
    rfl
  have hown : encode (if request.head.hostHeaders.isEmpty then
      "Host: " ++ destination.authority ++ "\r\n" else "") =
      (ownLines request destination).flatMap (· ++ [13, 10]) := by
    rw [ownLines]
    split
    · rw [encode_append, hcrlf]
      simp
    · rfl
  rw [forwardedText, encode_append, encode_append, encode_append, encode_append,
    hown, hclose, hcrlf, hretained, encode_foldr, List.flatMap_map, requestText]
  simp

/-! ### The request line that is sent -/

theorem toUpper_control {c d : Char} (hd : d.toNat < 32) (h : c.toUpper = d) : c = d := by
  unfold Char.toUpper at h
  split at h
  · next hlower =>
      have hlow : 97 ≤ c.val.toNat := UInt32.le_iff_toNat_le.1 hlower.1
      have hhigh : c.val.toNat ≤ 122 := UInt32.le_iff_toNat_le.1 hlower.2
      have hval : (c.val + ('A'.val - 'a'.val)).toNat = d.toNat := by
        rw [← h]
        rfl
      have hshift : ('A'.val - 'a'.val).toNat = 4294967264 := rfl
      rw [UInt32.toNat_add, hshift] at hval
      omega
  · exact h

theorem upperLatin1_control {c d : Char} (hd : d.toNat < 32) (h : d ∈ upperLatin1 c) : c = d := by
  have hlarge : ∀ e : Char, 32 ≤ e.toNat → d ≠ e := by
    rintro e he rfl
    omega
  unfold upperLatin1 at h
  simp only at h
  split at h
  · have hS : d = 'S' := by simpa using h
    exact absurd hS (hlarge _ (by decide))
  split at h
  · exact absurd (List.mem_singleton.1 h) (hlarge _ (by decide))
  split at h
  · exact absurd (List.mem_singleton.1 h) (hlarge _ (by decide))
  split at h
  · next hrange =>
      simp only [Bool.and_eq_true, decide_eq_true_eq, bne_iff_ne, ne_eq] at hrange
      refine absurd (List.mem_singleton.1 h) (hlarge _ ?_)
      rw [toNat_ofNat (Or.inl (by omega))]
      omega
  · exact toUpper_control hd (List.mem_singleton.1 h).symm

theorem upperLatin1_ne_nil (c : Char) : upperLatin1 c ≠ [] := by
  unfold upperLatin1
  simp only
  repeat' split
  all_goals simp

theorem isTextLine_upper {l : List Char} (h : IsTextLine l) :
    IsTextLine (l.flatMap upperLatin1) := by
  induction l with
  | nil => exact isTextLine_of_not_mem (by simp)
  | cons c l ih =>
    obtain ⟨hfirst, hl⟩ := isTextLine_cons.1 h
    rw [List.flatMap_cons]
    by_cases hc : c = '\r'
    · subst hc
      refine IsTextLine.append (isTextLine_cons.2 ⟨by decide, isTextLine_of_not_mem (by simp)⟩)
        (ih hl) fun hhead => hfirst ?_
      -- An LF at the front of the upper case was one before.
      cases l with
      | nil => cases hhead
      | cons d l =>
        have hd : '\n' ∈ upperLatin1 d := by
          rw [List.flatMap_cons, List.head?_append_of_ne_nil _ (upperLatin1_ne_nil d)] at hhead
          exact List.mem_of_head? hhead
        rw [upperLatin1_control (by decide) hd]
        exact List.prefix_append ['\r', '\n'] l
    · refine isTextLine_append_of_not_mem (fun hr => hc ?_) (ih hl)
      exact upperLatin1_control (by decide) hr

theorem isTextLine_request {method path version : List Char} (hmethod : IsTextLine method)
    (hpath : ∀ c ∈ path, isWhitespace c = false) (hversion : '\r' ∉ version) :
    IsTextLine (method.flatMap upperLatin1 ++ ' ' :: (path ++ ' ' :: version)) := by
  have hcr : '\r' ∉ path := fun hmem => absurd (hpath _ hmem) (by decide)
  refine (isTextLine_upper hmethod).append (isTextLine_of_not_mem ?_) (by simp)
  simp [hcr, hversion]

theorem toList_requestText {request : HttpRequest} {method : String}
    (hmethod : request.method = uppercaseLatin1 method) (destination : HttpProxyTarget) :
    (requestText request destination).toList =
      method.toList.flatMap upperLatin1 ++
        ' ' :: (destination.path.toList ++ ' ' :: request.version.toList) := by
  simp [requestText, hmethod, uppercaseLatin1]

/-- The request line that is sent is a line, but for the empty line a client may have begun
with. -/
theorem exists_requestLine {b : UInt8} {stream : Stream IoException} {request : HttpRequest}
    (h : (readHead b.toNat).run stream = .ok (some request, t)) {destination : HttpProxyTarget}
    (hpath : ∀ c ∈ destination.path.toList, isWhitespace c = false) :
    ∃ before line, (before = [] ∨ before = [13, 10]) ∧ line ≠ [] ∧ IsLine line ∧
      encode (requestText request destination) = before ++ line := by
  obtain ⟨method, hparts, hversion, hmethod, -, -⟩ := readHead_eq_some h
  have hline : IsLine (cutLine stream.bytes).1 := (cutLine_spec stream.bytes).1
  have hchars := eq_of_split hparts
  rw [latin1, String.toList_ofList, List.map_cons] at hchars
  have hcr : '\r' ∉ request.version.toList := by
    rcases hversion with hversion | hversion <;> rw [hversion] <;> decide
  have hne : ∀ front : List Char, (front ++ ' ' :: (destination.path.toList ++
      ' ' :: request.version.toList)).flatMap String.utf8EncodeChar ≠ [] := by
    intro front
    simp
  rw [encode, toList_requestText hmethod]
  by_cases hfirst : [13, 10] <+: b :: (cutLine stream.bytes).1
  · obtain ⟨more, hwhole⟩ := hfirst
    obtain ⟨rfl, hmore⟩ := List.cons.inj hwhole
    replace hmore : 10 :: more = (cutLine stream.bytes).1 := hmore
    rw [← hmore] at hchars hline
    -- The CR and the LF are the first two characters of the method.
    rcases hm : method.toList with _ | ⟨c, _ | ⟨d, others⟩⟩ <;> rw [hm] at hchars
    · exact absurd (List.cons.inj hchars).1 (by decide)
    · exact absurd (List.cons.inj (List.cons.inj hchars).2).1 (by decide)
    · obtain ⟨rfl, hsecond⟩ := List.cons.inj hchars
      obtain ⟨rfl, hrest⟩ := List.cons.inj hsecond
      have htext := isTextLine_latin1 (isLine_cons.1 hline).2
      rw [show more.map (fun b => Char.ofNat b.toNat) = _ from hrest] at htext
      exact ⟨[13, 10], _, Or.inr rfl, hne _,
        isLine_encode (isTextLine_request htext.of_append hpath hcr), rfl⟩
  · have htext := isTextLine_latin1 (isLine_cons.2 ⟨hfirst, hline⟩)
    rw [List.map_cons, hchars] at htext
    exact ⟨[], _, Or.inl rfl, hne _,
      isLine_encode (isTextLine_request htext.of_append hpath hcr), rfl⟩

/-- Where the request line ends does not depend on how the bytes are taken apart. -/
theorem requestLine_unique {before before' line line' rest rest' : List UInt8}
    (hbefore : before = [] ∨ before = [13, 10]) (hbefore' : before' = [] ∨ before' = [13, 10])
    (hne : line ≠ []) (hne' : line' ≠ []) (hline : IsLine line) (hline' : IsLine line')
    (h : before ++ line ++ 13 :: 10 :: rest = before' ++ line' ++ 13 :: 10 :: rest') :
    rest = rest' := by
  have hcut := congrArg cutLine h
  rcases hbefore with rfl | rfl <;> rcases hbefore' with rfl | rfl
  · rw [List.nil_append, List.nil_append, cutLine_append hline, cutLine_append hline'] at hcut
    exact Option.some.inj (Prod.mk.inj hcut).2
  · rw [List.nil_append, cutLine_append hline] at hcut
    exact absurd (Prod.mk.inj hcut).1 hne
  · rw [List.nil_append, cutLine_append hline'] at hcut
    exact absurd (Prod.mk.inj hcut).1.symm hne'
  · have hrest : line ++ 13 :: 10 :: rest = line' ++ 13 :: 10 :: rest' :=
      Option.some.inj (Prod.mk.inj hcut).2
    have hcut' := congrArg cutLine hrest
    rw [cutLine_append hline, cutLine_append hline'] at hcut'
    exact Option.some.inj (Prod.mk.inj hcut').2

theorem ascii_of_flatMap_eq {lines : List (List UInt8)} (hlines : ∀ line ∈ lines, IsLine line)
    {extra rest : List UInt8}
    (h : lines.flatMap (fun line => encode (latin1 line) ++ [13, 10]) ++ extra =
      lines.flatMap (· ++ [13, 10]) ++ rest) :
    ∀ line ∈ lines, ∀ b ∈ line, b.toNat < 128 := by
  induction lines with
  | nil => simp
  | cons line lines ih =>
    rw [List.forall_mem_cons] at hlines ⊢
    simp only [List.flatMap_cons, List.append_assoc, List.cons_append, List.nil_append] at h
    have hcut := congrArg cutLine h
    rw [cutLine_append (isLine_encode_latin1 hlines.1), cutLine_append hlines.1] at hcut
    obtain ⟨hline, hrest⟩ := Prod.mk.inj hcut
    exact ⟨(encode_latin1_eq_iff line).1 hline, ih hlines.2 (Option.some.inj hrest)⟩

theorem flatMap_encode_of_ascii {lines : List (List UInt8)}
    (h : ∀ line ∈ lines, ∀ b ∈ line, b.toNat < 128) :
    lines.flatMap (fun line => encode (latin1 line) ++ [13, 10]) =
      lines.flatMap (· ++ [13, 10]) := by
  apply List.flatMap_congr
  intro line hline
  rw [(encode_latin1_eq_iff line).2 (h line hline)]

theorem isLine_of_mem_headLines {bytes line : List UInt8} (h : line ∈ headLines bytes) :
    IsLine line := by
  induction hn : bytes.length using Nat.strongRecOn generalizing bytes with
  | _ n ih =>
    subst hn
    rcases hcut : cutLine bytes with ⟨_ | ⟨b, first⟩, rest⟩
    · rw [headLines_of_nil hcut] at h
      cases h
    · have hfirst : IsLine (b :: first) := by
        have hspec := (cutLine_spec bytes).1
        rwa [hcut] at hspec
      cases rest with
      | none =>
        rw [headLines_of_none hcut, List.mem_singleton] at h
        rwa [h]
      | some rest =>
        rw [headLines_of_some hcut] at h
        rcases List.mem_cons.1 h with rfl | h
        · exact hfirst
        · exact ih rest.length (length_cutLine hcut) h rfl

/-! ### Fields -/

variable {N : NameLibrary} {destination : HttpProxyTarget}

theorem fieldsFit_closing {host : String} {port : Int} (fields : List (List UInt8)) :
    FieldsFit N host port ((fields ++ [encode "Connection: close", [], []]).takeWhile
      (!·.isEmpty)) ↔ FieldsFit N host port (fields.takeWhile (!·.isEmpty)) := by
  have hauth : isNamed (encode "proxy-authorization")
    (encode "Connection: close") = false := by decide
  have hhost : isNamed (encode "host") (encode "Connection: close") = false := by decide
  have htake : [encode "Connection: close", [], []].takeWhile (!·.isEmpty) =
    [encode "Connection: close"] := by decide
  rw [List.takeWhile_append, htake]
  split
  · next hall =>
      have hfields : fields.takeWhile (!·.isEmpty) = fields :=
        (List.takeWhile_prefix _).eq_of_length hall
      rw [hfields, FieldsFit, FieldsFit, List.filter_append]
      simp [hauth, hhost, or_imp, forall_and]
  · rfl

theorem not_mem_authority
    (h : authority N raw defaultPort = some (destination.host, destination.port)) :
    '\n' ∉ destination.authority.toList := by
  obtain ⟨hhost, hport, -⟩ := authority_eq_some h
  have hname : '\n' ∉ destination.host.toList := by
    intro hmem
    exact absurd (hhost _ hmem) (by decide)
  rw [HttpProxyTarget.authority]
  split
  · exact hname
  · obtain ⟨n, hn⟩ := Int.eq_ofNat_of_zero_le (show 0 ≤ destination.port by omega)
    have hdigits : '\n' ∉ (longText destination.port).toList := by
      rw [hn]
      intro hmem
      rw [show longText (n : Int) = n.repr from rfl, Nat.toList_repr] at hmem
      exact absurd (Nat.isDigit_of_mem_toDigits (by decide) (by decide) hmem) (by decide)
    simp [hname, hdigits]

theorem pieces_ownLines
    (h : authority N raw defaultPort = some (destination.host, destination.port))
    (request : HttpRequest) :
    (ownLines request destination).flatMap pieces = ownLines request destination := by
  rw [ownLines]
  split
  · have hline : (10 : UInt8) ∉ encode ("Host: " ++ destination.authority) := by
      intro hmem
      have hchar := mem_of_mem_encode (by decide) hmem
      rw [String.toList_append] at hchar
      rcases List.mem_append.1 hchar with hchar | hchar
      · exact absurd hchar (by decide)
      · exact not_mem_authority h hchar
    rw [List.flatMap_cons, List.flatMap_nil, pieces_of_not_mem hline, List.append_nil]
  · rfl

theorem lenientFields_forwarded {b : UInt8} {stream : Stream IoException} {request : HttpRequest}
    (hread : (readHead b.toNat).run stream = .ok (some request, t)) {destination : HttpProxyTarget}
    (h : authority N raw defaultPort = some (destination.host, destination.port))
    (hascii : ∀ line ∈ retainedLines stream.bytes, ∀ b ∈ line, b.toNat < 128) :
    lenientFields (encode (forwardedText request destination)) =
      ((pieces (encode (requestText request destination))).tail ++
        (retainedLines stream.bytes).flatMap pieces ++ ownLines request destination ++
          [encode "Connection: close", [], []]).takeWhile (!·.isEmpty) := by
  have hclosing : lenientLines closing = [encode "Connection: close", [], []] := by decide
  rw [lenientFields, encode_forwardedText hread, flatMap_encode_of_ascii hascii,
    lenientLines_append, lenientLines_flatMap, lenientLines_flatMap, pieces_ownLines h, hclosing,
    List.tail_append_of_ne_nil (by simp [pieces, lenientLines])]
  simp

theorem encode_injective {x y : String} (h : encode x = encode y) : x = y := by
  rw [← replacing.decode_encode x, h, replacing.decode_encode]

theorem connectRequest_ofNat (host : List UInt8) {n : Nat} (hn : n < 65536) :
    connectRequest host (BitVec.ofInt 32 n) =
      5 :: 1 :: 0 :: ((Address.domain host).encoded ++
        [UInt8.ofNat (n / 256), UInt8.ofNat (n % 256)]) := by
  have hhigh : (UInt8.ofNat (n / 256)).toNat = n / 256 := UInt8.toNat_ofNat_of_lt (by
    have : UInt8.size = 256 := rfl
    omega)
  have hlow : (UInt8.ofNat (n % 256)).toNat = n % 256 := UInt8.toNat_ofNat_of_lt (by
    have : UInt8.size = 256 := rfl
    omega)
  rw [← connectRequest_port, hhigh, hlow]
  congr 1
  apply BitVec.eq_of_toNat_eq
  simp only [BitVec.ofInt_natCast, BitVec.toNat_or, BitVec.toNat_shiftLeft, BitVec.toNat_ofNat]
  rw [Nat.mod_eq_of_lt (show n < 2 ^ 32 by omega),
    Nat.mod_eq_of_lt (show n / 256 < 2 ^ 32 by omega),
    Nat.mod_eq_of_lt (show n % 256 < 2 ^ 32 by omega), Nat.shiftLeft_eq,
    Nat.mod_eq_of_lt (show n / 256 * 2 ^ 8 < 2 ^ 32 by omega), Nat.mul_comm,
    ← Nat.two_pow_add_eq_or_of_lt (show n % 256 < 2 ^ 8 by omega)]
  omega

theorem connectRequest_inj {host host' : String} {port port' : Int}
    (hport : 1 ≤ port ∧ port ≤ 65535) (hport' : 1 ≤ port' ∧ port' ≤ 65535)
    (h : connectRequest (encode host) (BitVec.ofInt 32 port) =
      connectRequest (encode host') (BitVec.ofInt 32 port')) :
    host = host' ∧ port = port' := by
  obtain ⟨n, rfl⟩ := Int.eq_ofNat_of_zero_le (show 0 ≤ port by omega)
  obtain ⟨n', rfl⟩ := Int.eq_ofNat_of_zero_le (show 0 ≤ port' by omega)
  rw [connectRequest_ofNat _ (by omega), connectRequest_ofNat _ (by omega)] at h
  have hencoded : (Address.domain (encode host)).encoded ++
      [UInt8.ofNat (n / 256), UInt8.ofNat (n % 256)] =
      (Address.domain (encode host')).encoded ++
        [UInt8.ofNat (n' / 256), UInt8.ofNat (n' % 256)] := by
    simpa using h
  obtain ⟨hhost, hbytes⟩ := List.append_inj' hencoded rfl
  obtain ⟨-, hsized⟩ := List.cons.inj hhost
  refine ⟨encode_injective (List.cons.inj hsized).2, ?_⟩
  have hsize : UInt8.size = 256 := rfl
  have hhigh := congrArg UInt8.toNat (List.cons.inj hbytes).1
  have hlow := congrArg UInt8.toNat (List.cons.inj (List.cons.inj hbytes).2).1
  have htoNat : ∀ k, k < 256 → (UInt8.ofNat k).toNat = k := fun k hk =>
    UInt8.toNat_ofNat_of_lt hk
  rw [htoNat _ (by omega), htoNat _ (by omega)] at hhigh hlow
  omega

/-! ### The equivalence -/

/-- The head that was sent into the connection to `host` and `port`. -/
def GoodHead (N : NameLibrary) (bytes : List UInt8) (host : String) (port : Int)
    (head : List UInt8) : Prop :=
  FieldsFit N host port (lenientFields head) ∧ KeepsLines (retainedLines bytes) head

section

variable {D : Utf8.Decoder} {N : NameLibrary} {config : ListenerConfig} {b : UInt8}
  {stream : Stream IoException} {request request' : HttpRequest}
  {destination destination' : HttpProxyTarget}

section

variable (h : Accepts D N config b stream request destination)

include h

theorem Accepts.unique
    (h' : Accepts D N config b stream request' destination') :
    request = request' ∧ destination = destination' := by
  obtain ⟨rest, hread⟩ := h.read
  obtain ⟨rest', hread'⟩ := h'.read
  rw [hread] at hread'
  cases hread'
  have htarget := h.target.symm.trans h'.target
  exact ⟨rfl, Option.some.inj htarget⟩

theorem goodHead_iff_clean
    (hmethod : request.method ≠ "CONNECT") :
    GoodHead N stream.bytes destination.host destination.port
        (encode (forwardedText request destination)) ↔
      Clean N stream.bytes request destination := by
  obtain ⟨rest, hread⟩ := h.read
  obtain ⟨⟨raw, defaultPort, hauthority⟩, hpath⟩ := parseHttpProxyTarget_eq_some h.target
  obtain ⟨before, line, hbefore, hne, hline, hrequest⟩ := exists_requestLine hread (hpath hmethod)
  have hlines : ∀ line ∈ retainedLines stream.bytes, IsLine line := fun line hmem =>
    isLine_of_mem_headLines (List.mem_of_mem_filter hmem)
  -- Whether the lines are kept is decided by their bytes alone.
  have hkeeps : KeepsLines (retainedLines stream.bytes)
      (encode (forwardedText request destination)) ↔
      ∀ line ∈ retainedLines stream.bytes, ∀ b ∈ line, b.toNat < 128 := by
    rw [encode_forwardedText hread, hrequest]
    constructor
    · rintro ⟨before', line', rest', hbefore', hne', hline', hhead⟩
      exact ascii_of_flatMap_eq hlines
        (requestLine_unique hbefore hbefore' hne hne' hline hline' hhead)
    · intro hascii
      rw [flatMap_encode_of_ascii hascii]
      exact ⟨before, line, _, hbefore, hne, hline, rfl⟩
  rw [GoodHead, hkeeps, Clean, and_comm]
  refine and_congr_right fun hascii => ?_
  rw [lenientFields_forwarded hread hauthority hascii]
  exact fieldsFit_closing _

theorem exists_forwarded
    (hmethod : request.method ≠ "CONNECT") (hfits : (encode destination.host).length ≤ 255) :
    .forwardedHead (encode (forwardedText request destination)) ∈
      ((handleHttp D N config b.toNat).run ⟨stream, willing, false, []⟩ []).2.1.log := by
  obtain ⟨rest, hexec⟩ := exec_handleHttp (s := ⟨stream, willing, false, []⟩) h
  have hestablish : ∀ u, ∃ v, (establish request destination).exec u = (.ok (), v) ∧
      v.log = u.log ++ [.forwardedHead (encode (forwardedText request destination))] := by
    intro u
    rw [establish, if_neg (by simpa using hmethod)]
    exact ⟨_, exec_emit _ u, rfl⟩
  have hopen : ∃ t, (handleHttp D N config b.toNat).exec ⟨stream, willing, false, []⟩ =
      (.ok (), t) ∧ .request (connectRequest (encode destination.host)
        (BitVec.ofInt 32 destination.port)) ∈ t.log ∧
      ∀ e ∈ [Event.forwardedHead (encode (forwardedText request destination))], e ∈ t.log := by
    rw [hexec]
    exact exec_openUpstream_willing hfits hestablish rfl rfl
  obtain ⟨t, ht, -, hforwarded⟩ := hopen
  rw [run_nil_state, ht]
  exact hforwarded _ (by simp)

theorem request_eq {s : Session}
    (hcin : s.cin = stream) (hlog : s.log = []) (fates : List (Fate IoException)) :
    ∀ event ∈ ((handleHttp D N config b.toNat).run s fates).2.1.log,
      ∀ bytes, event = .request bytes → bytes = connectRequest (encode destination.host)
        (BitVec.ofInt 32 destination.port) := by
  refine log_final (handleHttp_wp (fun _ => admits_of_forall (by simp)) (by simp [hlog]) ?_) fates
  rw [hcin]
  intro request' destination' h'
  obtain ⟨rfl, rfl⟩ := h.unique h'
  exact ⟨⟨admits_of_forall (by simp), fun _ => admits_of_forall (by simp),
    admits_of_forall (by simp), fun _ => admits_of_forall (by simp)⟩,
    fun _ _ log hlog _ => admits_of_forall (by simp) log hlog⟩

end

/-- Of a log: every head was sent into a connection whose destination it fits. -/
def HeadsFit (N : NameLibrary) (bytes : List UInt8) (log : List Event) : Prop :=
  ∀ head, .forwardedHead head ∈ log → ∃ host port, (1 ≤ port ∧ port ≤ 65535) ∧
    .request (connectRequest (encode host) (BitVec.ofInt 32 port)) ∈ log ∧
    GoodHead N bytes host port head

theorem HeadsFit.append {N : NameLibrary} {bytes : List UInt8} {log : List Event} {event : Event}
    (h : HeadsFit N bytes log)
    (hevent : ∀ head, event = .forwardedHead head → ∃ host port, (1 ≤ port ∧ port ≤ 65535) ∧
      .request (connectRequest (encode host) (BitVec.ofInt 32 port)) ∈ log ∧
      GoodHead N bytes host port head) : HeadsFit N bytes (log ++ [event]) := by
  intro head hhead
  have hold : ∃ host port, (1 ≤ port ∧ port ≤ 65535) ∧
      .request (connectRequest (encode host) (BitVec.ofInt 32 port)) ∈ log ∧
      GoodHead N bytes host port head := by
    rcases List.mem_append.1 hhead with hhead | hhead
    · exact h head hhead
    · exact hevent head (List.mem_singleton.1 hhead).symm
  obtain ⟨host, port, hport, hmem, hgood⟩ := hold
  exact ⟨host, port, hport, List.mem_append_left _ hmem, hgood⟩

end

theorem forwarded_head_fits_iff (D : Utf8.Decoder) (N : NameLibrary) (config : ListenerConfig)
    (b : UInt8) (stream : Stream IoException) :
    (∀ (s : Session) (fates : List (Fate IoException)), s.cin = stream → s.log = [] →
      HeadsFit N stream.bytes ((handleHttp D N config b.toNat).run s fates).2.1.log) ↔
    (∀ request destination, Accepts D N config b stream request destination →
      request.method ≠ "CONNECT" → (encode destination.host).length ≤ 255 →
      Clean N stream.bytes request destination) := by
  constructor
  · intro hfit request destination haccepts hmethod hfits
    obtain ⟨⟨raw, defaultPort, hauthority⟩, -⟩ := parseHttpProxyTarget_eq_some haccepts.target
    obtain ⟨host, port, hport, hmem, hgood⟩ := hfit _ [] rfl rfl _
      (exists_forwarded haccepts hmethod hfits)
    have hsame := request_eq haccepts rfl rfl [] _ hmem _ rfl
    obtain ⟨rfl, rfl⟩ := connectRequest_inj hport (authority_eq_some hauthority).2 hsame
    exact (goodHead_iff_clean haccepts hmethod).1 hgood
  · intro hclean s fates hcin hlog
    have hnil : HeadsFit N stream.bytes s.log := by
      rw [hlog]
      intro head hhead
      cases hhead
    have hadmits : ∀ event : Event, (∀ head, event ≠ .forwardedHead head) →
        Admits (HeadsFit N stream.bytes) event := fun event hevent log hfit =>
      hfit.append fun head heq => absurd heq (hevent head)
    refine log_final (handleHttp_wp (fun _ => hadmits _ (by simp)) hnil ?_) fates
    rw [hcin]
    intro request destination haccepts
    obtain ⟨⟨raw, defaultPort, hauthority⟩, -⟩ := parseHttpProxyTarget_eq_some haccepts.target
    refine ⟨⟨hadmits _ (by simp), fun _ => hadmits _ (by simp), hadmits _ (by simp),
      fun _ => hadmits _ (by simp)⟩, fun hfits hmethod log hfit hsent => hfit.append ?_⟩
    intro head heq
    cases heq
    exact ⟨destination.host, destination.port, (authority_eq_some hauthority).2, hsent,
      (goodHead_iff_clean haccepts hmethod).2 (hclean request destination haccepts hmethod hfits)⟩

/-- A client that puts a space before the colon: the origin gets its credentials. -/
theorem forwarded_head_leaks :
    .forwardedHead (encode
        "GET / HTTP/1.1\r\nProxy-Authorization : x\r\nHost: a\r\nConnection: close\r\n\r\n") ∈
      ((handleHttp replacing plainNames ⟨false, "", ""⟩ (71 : UInt8).toNat).run
        ⟨⟨encode "ET http://a/ HTTP/1.1\r\nProxy-Authorization : x\r\n\r\n", none⟩, willing,
          false, []⟩ []).2.1.log ∧
    ∃ field ∈ lenientFields (encode
        "GET / HTTP/1.1\r\nProxy-Authorization : x\r\nHost: a\r\nConnection: close\r\n\r\n"),
      isNamed (encode "proxy-authorization") field = true := by
  have hline : readHeaderLine.run
      ⟨encode "ET http://a/ HTTP/1.1\r\nProxy-Authorization : x\r\n\r\n", none⟩ =
      .ok ("ET http://a/ HTTP/1.1", ⟨encode "Proxy-Authorization : x\r\n\r\n", none⟩) := rfl
  have hfield : readHeaderLine.run ⟨encode "Proxy-Authorization : x\r\n\r\n", none⟩ =
      .ok ("Proxy-Authorization : x", ⟨[13, 10], none⟩) := rfl
  have hend : readHeaderLine.run ⟨[13, 10], none⟩ = .ok ("", ⟨[], none⟩) := rfl
  have hblank : readHeaders ⟨["Proxy-Authorization : x"], none, []⟩
      (0 + length "Proxy-Authorization : x") ⟨[13, 10], none⟩ =
      .ok (some ⟨["Proxy-Authorization : x"], none, []⟩, ⟨[], none⟩) := by
    rw [readHeaders, hend]
    rfl
  have hheaders : readHeaders ⟨[], none, []⟩ 0
      ⟨encode "Proxy-Authorization : x\r\n\r\n", none⟩ =
      .ok (some ⟨["Proxy-Authorization : x"], none, []⟩, ⟨[], none⟩) := by
    rw [readHeaders, hfield]
    exact hblank
  have haccepts : Accepts replacing plainNames ⟨false, "", ""⟩ 71
      ⟨encode "ET http://a/ HTTP/1.1\r\nProxy-Authorization : x\r\n\r\n", none⟩
      ⟨"GET", "http://a/", "HTTP/1.1", ⟨["Proxy-Authorization : x"], none, []⟩⟩
      ⟨"a", 80, "/"⟩ := ⟨⟨_, run_readHead_get hline hheaders⟩, by decide, rfl⟩
  have htext : forwardedText
      ⟨"GET", "http://a/", "HTTP/1.1", ⟨["Proxy-Authorization : x"], none, []⟩⟩ ⟨"a", 80, "/"⟩ =
      "GET / HTTP/1.1\r\nProxy-Authorization : x\r\nHost: a\r\nConnection: close\r\n\r\n" := by
    decide
  constructor
  · have hsent := exists_forwarded haccepts (by decide) (by decide)
    rwa [htext] at hsent
  · exact ⟨encode "Proxy-Authorization : x", by decide, by decide⟩

end LibreRoute.Bridge
