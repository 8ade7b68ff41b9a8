import LibreRoute.Lib.Utf8
import LibreRoute.Sync.CompactRoute
import LibreRoute.Sync.Exchange

/-!
How long the link of a compact route can be imported.

A link is to be imported within fifteen minutes of its issue. The times are
signed 64-bit numbers the signer chooses, and their difference is taken in
such numbers: for a link that is issued more than `2 ^ 63` seconds before it
expires the difference is negative and passes for a short lifetime.
-/

namespace LibreRoute.Sync

open Lib Tunnels Base64
open Admin (Throwable)

theorem long_of_fits {n : Int} (hlow : -2 ^ 63 ≤ n) (hhigh : n < 2 ^ 63) : long n = n := by
  unfold long
  rw [Int.bmod_def]
  omega

/-- A number that does not fit comes out negative. -/
theorem long_neg_of_large {n : Int} (hlow : 2 ^ 63 ≤ n) (hhigh : n < 2 ^ 64) : long n < 0 := by
  unfold long
  rw [Int.bmod_def]
  omega

namespace CompactRoute

variable (L : SyncLibraries) (K : CompactLibraries)

/-- A link without the check of its times: when it was issued, when it expires, and the
candidate. -/
def contents (link : String) (pinned : String → Option String) :
    Except Throwable (Int × Int × Candidate) := do
  let h ← header L K link
  let candidate ← h.candidate L K pinned
  pure (h.issued, h.expires, candidate)

structure InTime (now issued expires : Int) : Prop where
  issued_le : issued ≤ long (now + 60)
  lt_expires : now < expires
  ordered : issued < expires
  lifetime : long (expires - issued) ≤ 900

variable {L K} {link : String} {now : Int} {pinned : String → Option String}

theorem contents_eq_ok_iff {issued expires : Int} {candidate : Candidate} :
    contents L K link pinned = .ok (issued, expires, candidate) ↔
      ∃ h, header L K link = .ok h ∧ h.issued = issued ∧ h.expires = expires ∧
        h.candidate L K pinned = .ok candidate := by
  simp only [contents, bind_eq_ok, pure_eq_ok, Except.ok.injEq, Prod.mk.injEq]
  constructor
  · rintro ⟨h, hheader, _, hcandidate, rfl, rfl, rfl⟩
    exact ⟨h, hheader, rfl, rfl, hcandidate⟩
  · rintro ⟨h, hheader, rfl, rfl, hcandidate⟩
    exact ⟨h, hheader, candidate, hcandidate, rfl, rfl, rfl⟩

theorem parse_eq_ok_iff {candidate : Candidate} :
    parse L K link now pinned = .ok candidate ↔
      ∃ issued expires, contents L K link pinned = .ok (issued, expires, candidate) ∧
        InTime now issued expires := by
  simp only [parse, bind_eq_ok, require_eq_ok, Bool.and_eq_true, decide_eq_true_eq,
    contents_eq_ok_iff]
  constructor
  · rintro ⟨h, hheader, -, ⟨⟨⟨hissue, hexpire⟩, hordered⟩, hlifetime⟩, hcandidate⟩
    exact ⟨h.issued, h.expires, ⟨h, hheader, rfl, rfl, hcandidate⟩, hissue, hexpire, hordered,
      hlifetime⟩
  · rintro ⟨_, _, ⟨h, hheader, rfl, rfl, hcandidate⟩, hissue, hexpire, hordered, hlifetime⟩
    exact ⟨h, hheader, (), ⟨⟨⟨hissue, hexpire⟩, hordered⟩, hlifetime⟩, hcandidate⟩

theorem longAt_fits (hlong : ∀ text n, L.toLongOrNull text = some n → -2 ^ 63 ≤ n ∧ n < 2 ^ 63)
    {items : List Json} {i : Nat} {n : Int} (h : longAt L items i = .ok n) :
    -2 ^ 63 ≤ n ∧ n < 2 ^ 63 := by
  rw [longAt, bind_eq_ok] at h
  obtain ⟨text, -, htext⟩ := h
  cases hn : L.toLongOrNull text with
  | none => simp [hn] at htext
  | some m =>
    simp only [hn, pure_eq_ok, Except.ok.injEq] at htext
    exact htext ▸ hlong text m hn

theorem contents_fits (hlong : ∀ text n, L.toLongOrNull text = some n → -2 ^ 63 ≤ n ∧ n < 2 ^ 63)
    {issued expires : Int} {candidate : Candidate}
    (hcontents : contents L K link pinned = .ok (issued, expires, candidate)) :
    (-2 ^ 63 ≤ issued ∧ issued < 2 ^ 63) ∧ -2 ^ 63 ≤ expires ∧ expires < 2 ^ 63 := by
  obtain ⟨h, hheader, rfl, rfl, -⟩ := contents_eq_ok_iff.1 hcontents
  have hfits : Ensures (fun h : Header => (-2 ^ 63 ≤ h.issued ∧ h.issued < 2 ^ 63) ∧
      -2 ^ 63 ≤ h.expires ∧ h.expires < 2 ^ 63) (header L K link) := by
    simp only [header]
    -- the sixteen steps in front of the times
    iterate 16 refine ensures_bind fun _ => ?_
    intro h hread
    obtain ⟨issued, hissued, hread⟩ := bind_eq_ok.1 hread
    obtain ⟨expires, hexpires, hread⟩ := bind_eq_ok.1 hread
    obtain rfl := Except.ok.inj hread
    exact ⟨longAt_fits hlong hissued, longAt_fits hlong hexpires⟩
  exact hfits h hheader

/-- The difference is looked at as it is, or does not fit and passes. -/
theorem inTime_iff {issued expires : Int} (hpos : 0 < now) (hnow : now < 2 ^ 40)
    (hissued : -2 ^ 63 ≤ issued ∧ issued < 2 ^ 63)
    (hexpires : -2 ^ 63 ≤ expires ∧ expires < 2 ^ 63) :
    InTime now issued expires ↔ issued ≤ now + 60 ∧ now < expires ∧ issued < expires ∧
      (expires - issued ≤ 900 ∨ 2 ^ 63 ≤ expires - issued) := by
  have hsoon : long (now + 60) = now + 60 := long_of_fits (by omega) (by omega)
  constructor
  · rintro ⟨hissue, hexpire, hordered, hlifetime⟩
    rw [hsoon] at hissue
    refine ⟨hissue, hexpire, hordered, ?_⟩
    rcases Int.lt_or_le (expires - issued) (2 ^ 63) with hlt | hge
    · rw [long_of_fits (by omega) hlt] at hlifetime
      exact Or.inl hlifetime
    · exact Or.inr hge
  · rintro ⟨hissue, hexpire, hordered, hlifetime⟩
    refine ⟨by rwa [hsoon], hexpire, hordered, ?_⟩
    rcases hlifetime with hle | hlarge
    · rwa [long_of_fits (by omega) (by omega)]
    · have hneg := long_neg_of_large hlarge (by omega)
      omega

/-- The link lives fifteen minutes at most and is imported in that time. -/
structure ShortLived (now issued expires : Int) : Prop where
  lifetime_pos : 0 < expires - issued
  lifetime_le : expires - issued ≤ 900
  lt_expires : now < expires
  expires_le : expires ≤ now + 960

end CompactRoute

open CompactRoute in
/-- An accepted link is short-lived exactly if the lifetime of a link that passes the other
checks fits into 64 bits. -/
theorem compact_link_short_lived_iff (L : SyncLibraries) (K : CompactLibraries)
    (hlong : ∀ text n, L.toLongOrNull text = some n → -2 ^ 63 ≤ n ∧ n < 2 ^ 63) (link : String)
    (now : Int) (pinned : String → Option String) (hpos : 0 < now) (hnow : now < 2 ^ 40) :
    (∀ candidate, parse L K link now pinned = .ok candidate →
        ∃ issued expires, contents L K link pinned = .ok (issued, expires, candidate) ∧
          ShortLived now issued expires) ↔
      ∀ issued expires candidate, contents L K link pinned = .ok (issued, expires, candidate) →
        issued ≤ now + 60 → now < expires → expires - issued < 2 ^ 63 := by
  constructor
  · intro h issued expires candidate hcontents hissue hexpire
    obtain ⟨hissued, hexpires⟩ := contents_fits hlong hcontents
    by_contra hlarge
    have htime : InTime now issued expires :=
      (inTime_iff hpos hnow hissued hexpires).2
        ⟨hissue, hexpire, by omega, Or.inr (Int.not_lt.1 hlarge)⟩
    obtain ⟨issued', expires', hcontents', hshort⟩ :=
      h candidate (parse_eq_ok_iff.2 ⟨issued, expires, hcontents, htime⟩)
    rw [hcontents, Except.ok.injEq, Prod.mk.injEq, Prod.mk.injEq] at hcontents'
    obtain ⟨rfl, rfl, -⟩ := hcontents'
    have hle := hshort.lifetime_le
    omega
  · intro h candidate hparse
    obtain ⟨issued, expires, hcontents, htime⟩ := parse_eq_ok_iff.1 hparse
    obtain ⟨hissued, hexpires⟩ := contents_fits hlong hcontents
    obtain ⟨hissue, hexpire, hordered, hlifetime⟩ :=
      (inTime_iff hpos hnow hissued hexpires).1 htime
    have hfits := h issued expires candidate hcontents hissue hexpire
    exact ⟨issued, expires, hcontents, by omega, by omega, hexpire, by omega⟩

/-! ### A link that was issued long ago -/

namespace CompactRoute

def withSize (bytes : List UInt8) : List UInt8 :=
  UInt8.ofNat (bytes.length / 256) :: UInt8.ofNat (bytes.length % 256) :: bytes

theorem part_withSize {max : Nat} {bytes : List UInt8} (hpos : 1 ≤ bytes.length)
    (hmax : bytes.length ≤ max) (hsize : bytes.length < 65536) (rest : List UInt8) :
    part max (withSize bytes ++ rest) = .ok (bytes, rest) := by
  have hhigh : (UInt8.ofNat (bytes.length / 256)).toNat = bytes.length / 256 :=
    UInt8.toNat_ofNat_of_lt (by simp only [UInt8.size]; omega)
  have hlow : (UInt8.ofNat (bytes.length % 256)).toNat = bytes.length % 256 :=
    UInt8.toNat_ofNat_of_lt (by simp only [UInt8.size]; omega)
  have hlength : bytes.length / 256 * 256 + bytes.length % 256 = bytes.length :=
    Nat.div_add_mod' bytes.length 256
  simp [withSize, part, hhigh, hlow, hlength, require, hpos, hmax]

structure Recorded where
  publicKey : List UInt8
  packed : List UInt8
  signature : List UInt8
  key : ECPublicKey
  text : List UInt8
  items : List Json

namespace Recorded

variable {r : Recorded}

def signed (r : Recorded) : List UInt8 := 2 :: withSize r.publicKey ++ withSize r.packed

def bytes (r : Recorded) : List UInt8 := r.signed ++ withSize r.signature

def token (r : Recorded) : String := String.ofList (encode .url false r.bytes)

def link (r : Recorded) : String := linkStart ++ r.token

def libraries (r : Recorded) : CompactLibraries where
  generatePublic bytes := if bytes = r.publicKey then .ok r.key else .error (.platform none)
  verify key message signature :=
    .ok (key == r.key && message == domain.toUTF8.toList ++ r.signed && signature == r.signature)
  inflate bytes := if bytes = r.packed then .ok r.text else .error (.platform none)
  parseToJsonElement bytes :=
    if bytes = r.text then .ok (.array r.items) else .error (.platform none)
  importIdentity _ _ := .error (.platform none)
  importScoped _ _ _ := .error (.platform none)

/-- The parts are not empty and not too long. -/
structure Fits (r : Recorded) : Prop where
  publicKey_pos : 1 ≤ r.publicKey.length
  publicKey_le : r.publicKey.length ≤ 128
  packed_pos : 1 ≤ r.packed.length
  packed_le : r.packed.length ≤ 500
  signature_pos : 1 ≤ r.signature.length
  signature_le : r.signature.length ≤ 80

theorem parts_bytes (h : r.Fits) : parts r.bytes = .ok
    { publicKey := r.publicKey
      packed := r.packed
      signed := r.signed
      signature := r.signature } := by
  have hkey := part_withSize h.publicKey_pos h.publicKey_le
    (Nat.lt_of_le_of_lt h.publicKey_le (by decide)) (withSize r.packed ++ withSize r.signature)
  have hpacked := part_withSize h.packed_pos (Nat.le_trans h.packed_le (by decide : 500 ≤ 1100))
    (Nat.lt_of_le_of_lt h.packed_le (by decide)) (withSize r.signature)
  have hsignature := part_withSize h.signature_pos h.signature_le
    (Nat.lt_of_le_of_lt h.signature_le (by decide)) []
  rw [List.append_nil] at hsignature
  have hsigned : r.bytes.take (r.bytes.length - (withSize r.signature).length) = r.signed := by
    rw [bytes, List.length_append, Nat.add_sub_cancel, List.take_left]
  rw [← hsigned]
  simp [bytes, signed, parts, require, hkey, hpacked, hsignature]

theorem token_chars : (encode .url false r.bytes).all
    (fun c => c.isAlphanum || c == '_' || c == '-') = true :=
  List.all_eq_true.2 (forall_mem_encode .url (by decide) r.bytes)

theorem token_isToken : isToken r.token = true := by
  have hne : encode .url false r.bytes ≠ [] := by
    intro hnil
    have hdecode := decode_encode .url false r.bytes
    rw [hnil] at hdecode
    simp [decode, bytes, signed] at hdecode
  simp only [isToken, token, String.toList_ofList, Bool.and_eq_true, Bool.not_eq_true',
    List.isEmpty_eq_false_iff]
  exact ⟨hne, token_chars⟩

theorem split_link : split (removePrefix r.link linkStart) '.' = [r.token] := by
  have hdot : '.' ∉ encode .url false r.bytes := by
    intro hmem
    exact absurd (List.all_eq_true.1 token_chars _ hmem) (by decide)
  rw [link, removePrefix_append, split, token, String.toList_ofList,
    List.splitOn_eq_singleton hdot]
  rfl

theorem length_link (h : r.Fits) : length r.link ≤ maxLinkLength := by
  have hbytes : r.bytes.length ≤ 715 := by
    have hkey := h.publicKey_le
    have hpacked := h.packed_le
    have hsignature := h.signature_le
    simp only [bytes, signed, withSize, List.length_append, List.length_cons]
    omega
  have hencode := length_encode_le .url r.bytes
  have htext : r.link.toList.length = 30 + (encode .url false r.bytes).length := by
    rw [link, token, String.toList_append, String.toList_ofList, List.length_append]
    rfl
  have hlink := length_le r.link
  unfold maxLinkLength
  omega

theorem contents_eq {L : SyncLibraries} {bound : List Json} {binding : PairChannelBinding}
    {issued expires : Int} {route : RouteCandidate} (hfits : r.Fits)
    (hfield : r.key.fieldSize = 256) (htext : r.text.length ≤ 8192) (hlength : r.items.length = 7)
    (htransport : contentAt r.items 0 = .ok "jazz") (hbound : item r.items 4 = .ok (.array bound))
    (hfourteen : bound.length = 14) (hbinding : readBinding L bound = .ok binding)
    (hvalid : binding.validate L binding.serverId binding.deviceFingerprint
      binding.devicePublicKey false = .ok ()) (hissued : longAt L r.items 5 = .ok issued)
    (hexpires : longAt L r.items 6 = .ok expires)
    (hroute : readRoute L r.items binding = .ok route) :
    contents L r.libraries r.link (fun _ => none) = .ok (issued, expires,
      { route := route
        serverKey := canonicalServerKey r.key
        privateKey := none }) := by
  have hstart : startsWith r.link linkStart = true := startsWith_append _ _
  have hdecode : decodeUrl r.token = .ok r.bytes := by
    rw [decodeUrl, token, String.toList_ofList, decode_encode]
  have hunpack : unpack r.libraries r.packed = .ok r.items := by
    simp [unpack, libraries, htext, ofJson, Json.jsonArray, require]
  rw [contents_eq_ok_iff]
  refine ⟨⟨[r.token], ⟨r.publicKey, r.packed, r.signed, r.signature⟩, r.key, r.items, binding,
    issued, expires⟩, ?_, rfl, rfl, ?_⟩
  · simp only [header, bind_eq_ok, pure_eq_ok, Except.ok.injEq]
    refine ⟨(), ?_, (), ?_, r.bytes, ?_, _, parts_bytes hfits, r.key, ?_, (), ?_, true, ?_, (), ?_,
      r.items, hunpack, true, ?_, (), ?_, _, hbound, bound, rfl, (), ?_, binding, hbinding, (),
      hvalid, issued, hissued, expires, hexpires, ?_⟩
    · simp [hstart, length_link hfits]
    · simp [split_link, token_isToken]
    · rw [split_link]
      exact hdecode
    · simp [libraries]
    · simp [hfield]
    · simp [libraries]
    · simp
    · simp [andThen, hlength, htransport]
    · simp
    · simp [hfourteen]
    · rw [split_link]
  · simp [Header.candidate, hroute, readPrivateKey, require]

end Recorded

/-- The numbers a `Long` can hold, in decimal. -/
def signedDecimal (text : String) : Option Int :=
  let n := if startsWith text "-" then (decimal (removePrefix text "-")).map (- ·) else decimal text
  n.filter fun n => decide (-2 ^ 63 ≤ n ∧ n < 2 ^ 63)

def deviceDigest : List UInt8 :=
  [0x18, 0x1d, 0x85, 0xaa, 0xf9, 0x67, 0xa9, 0x28, 0x6a, 0xe2, 0x89, 0x55, 0xbe, 0xd7, 0x8f,
    0xb2, 0xdf, 0xd3, 0x4f, 0xc1, 0xeb, 0x4b, 0x5d, 0x5d, 0x5f, 0xc7, 0x39, 0xb0, 0xb2, 0x8f,
    0x5f, 0x6a]

def roomUri : JavaUri := httpsUri "salutejazz.ru" "/call/abcd1/efgh2"

def linkPhone : SyncLibraries :=
  { phoneSync 0 with
    platform := Admin.Recording.platform
      { phoneRecording with digests := [(Admin.devicePublicKey, deviceDigest)] }
    links :=
      { phoneLibraries with
        javaUri := fun text =>
          if text = "https://salutejazz.ru/call/abcd1/efgh2" then some roomUri else none }
    toLongOrNull := signedDecimal }

theorem linkPhone_long (text : String) (n : Int) (h : linkPhone.toLongOrNull text = some n) :
    -2 ^ 63 ≤ n ∧ n < 2 ^ 63 := by
  have hfilter := Option.filter_eq_some_iff.1 (h : signedDecimal text = some n)
  simpa using hfilter.2

def roomBinding : PairChannelBinding where
  schema := 2
  pairId := "0123456789abcdef0123456789abcdef"
  laneId := 1
  leaseId := "lease-1"
  resourceId := "resource-1"
  resourceIdentity := "abcd1"
  resourceGeneration := 1
  keyRevision := 1
  packageRevision := 1
  policyRevision := 1
  serverId := "vds-1"
  deviceId := "phone-1"
  deviceFingerprint := "181d85aaf967a9286ae28955bed78fb2dfd34fc1eb4b5d5d5fc739b0b28f5f6a"
  devicePublicKey := Admin.devicePublicKey

def roomBindingJson : List Json :=
  [.literal "2", .string roomBinding.pairId, .literal "1", .string roomBinding.leaseId,
    .string roomBinding.resourceId, .string roomBinding.resourceIdentity, .literal "1",
    .literal "1", .literal "1", .literal "1", .string roomBinding.serverId,
    .string roomBinding.deviceId, .string roomBinding.deviceFingerprint,
    .string roomBinding.devicePublicKey]

def roomRoute : RouteCandidate where
  routeId := roomBinding.pairId
  serverId := roomBinding.serverId
  transport := "jazz"
  name := "Office"
  url := "https://salutejazz.ru/call/abcd1/efgh2"
  secretKey := "00112233445566778899aabbccddeeff00112233445566778899aabbccddeeff"
  codec := "batched"
  encryptionLayout := "batch"
  pairChannel := some roomBinding

def oldText : String :=
  "[\"jazz\",\"Office\",\"https://salutejazz.ru/call/abcd1/efgh2\",\"00112233445566778899aabbccddeeff00112233445566778899aabbccddeeff\",[2,\"0123456789abcdef0123456789abcdef\",1,\"lease-1\",\"resource-1\",\"abcd1\",1,1,1,1,\"vds-1\",\"phone-1\",\"181d85aaf967a9286ae28955bed78fb2dfd34fc1eb4b5d5d5fc739b0b28f5f6a\",\"MFkwEwYHKoZIzj0CAQYIKoZIzj0DAQcDQgAEuWbGVnP/B6PpRVslR6zdwoetKJMKSccca5YxlkMe4PEJBau47odJmENImdMKJdvSruZTZt4OG9oTj9FI9GNcKw==\"],-9223372036854775807,4102444800]"

def bytesOf (text : String) : List UInt8 := (decode .standard text.toList).getD []

theorem length_bytesOf {text : String} {l : List Char} (h : text.toList = l) :
    (bytesOf text).length = ((decode .standard l).getD []).length := by
  rw [bytesOf, h]

def oldKeyText : String :=
  "MFkwEwYHKoZIzj0CAQYIKoZIzj0DAQcDQgAEiYAJLPcFiHX1czJJ9ig8VwV0yGb4M2TPQEDRnMEhZI5IN/XIdGbIYYCED9CD1xCj6g/oynvrhho4m2ZZzf7cow=="

def oldPackedText : String :=
  "eNqFULtuwkAQ/BfXJr473zMSBQRDbAvCS0SAKO4JAYMRtiHy18dAqjTRNDM7o9nVrr29rGvP9z6c+9K2IbuyPBevQVDIrCrt3X25VIGWWRZIpQ0MrNvuUBMEAEKEwhBjQihljHMhpFRKa2Osde4/3/PXqGmBKMSEMi7u7db91Z4PfS+zsrAt2Cy92CKvLvopHvfcA094V1M85uddfnomIIeGEymdoEwKxKm0iAtClDWMO4WMMyF2GlqFFTENnGahUEAh7oijsqkY9g+36LZ8T/NVXO/BW2eyjH95rzPRvcm2E1WfarA4jYMuHZ+niyKb0trcclumyTCdaa0lWX5nh6HF4yjpygqz3CTHaBQfzTBNzHV2qVbzVYk/BiKf70U/FoORTm/ttrfxW+L+Q4ZASDnBjBEOmI8hQBhjDsDmBwglg6o="

def oldSignatureText : String :=
  "MEUCIFeD9Q8Xnzgp59ghUBJD32POta9xHuZFd2VSBNDnPDiJAiEAtziPkxXxFpB/ywKrRxR5TjqLBB8QyfR8Grts/15tS28="

/-- A link that was issued more than `2 ^ 63` seconds before the year 2100, when it expires. -/
def oldLink : Recorded where
  publicKey := bytesOf oldKeyText
  packed := bytesOf oldPackedText
  signature := bytesOf oldSignatureText
  key :=
    { fieldSize := 256
      affineX := 0x8980092cf7058875f5733249f6283c570574c866f83364cf4040d19cc121648e
      affineY := 0x4837f5c87466c86180840fd083d710a3ea0fe8ca7beb861a389b6659cdfedca3 }
  text := Utf8.encode oldText
  items := [.string "jazz", .string roomRoute.name, .string roomRoute.url,
    .string roomRoute.secretKey, .array roomBindingJson, .literal "-9223372036854775807",
    .literal "4102444800"]

theorem oldLink_binding : readBinding linkPhone roomBindingJson = .ok roomBinding := by
  have hschema : longAt linkPhone roomBindingJson 0 = .ok 2 := rfl
  have hlane : longAt linkPhone roomBindingJson 2 = .ok 1 := rfl
  have hgeneration : longAt linkPhone roomBindingJson 6 = .ok 1 := rfl
  have hkey : longAt linkPhone roomBindingJson 7 = .ok 1 := rfl
  have hpackage : longAt linkPhone roomBindingJson 8 = .ok 1 := rfl
  have hpolicy : longAt linkPhone roomBindingJson 9 = .ok 1 := rfl
  have htwo : toInt 2 = 2 := by decide
  have hone : toInt 1 = 1 := by decide
  simp only [readBinding, hschema, hlane, hgeneration, hkey, hpackage, hpolicy, htwo, hone, ok_bind]
  rfl

theorem oldLink_times :
    longAt linkPhone oldLink.items 5 = .ok (-9223372036854775807) ∧
      longAt linkPhone oldLink.items 6 = .ok 4102444800 := by
  constructor <;> rfl

theorem oldLink_route : readRoute linkPhone oldLink.items roomBinding = .ok roomRoute := by
  rfl

set_option maxRecDepth 2000 in
theorem devicePublicKey_decoded :
    decode .url Admin.devicePublicKey.toList = none ∧
      (decode .standard Admin.devicePublicKey.toList).isSome = true := by
  have hchars : Admin.devicePublicKey.toList = _ := String.toList_ofList
  rw [hchars]
  exact ⟨rfl, rfl⟩

set_option maxRecDepth 2000 in
theorem oldLink_valid : roomBinding.validate linkPhone roomBinding.serverId
    roomBinding.deviceFingerprint roomBinding.devicePublicKey false = .ok () := by
  obtain ⟨hurl, hstandard⟩ := devicePublicKey_decoded
  obtain ⟨raw, hraw⟩ := Option.isSome_iff_exists.1 hstandard
  have hkey : Admin.decodeBase64 Admin.devicePublicKey = some raw := by
    rw [Admin.decodeBase64, hurl, hraw]
    rfl
  have hdigest : linkPhone.platform.sha256 raw = deviceDigest := by
    simp [linkPhone, Admin.Recording.platform, hkey]
  have hhex : Admin.Platform.hex deviceDigest = roomBinding.deviceFingerprint := by decide
  have hpublic : roomBinding.devicePublicKey = Admin.devicePublicKey := rfl
  rw [PairChannelBinding.validate, hpublic, hraw]
  simp only [hdigest, hhex]
  rfl

set_option maxRecDepth 2000 in
theorem oldLink_fits : oldLink.Fits := by
  have hkey : (bytesOf oldKeyText).length = 91 :=
    (length_bytesOf (String.toList_ofList : oldKeyText.toList = _)).trans (by decide +kernel)
  have hpacked : (bytesOf oldPackedText).length = 323 :=
    (length_bytesOf (String.toList_ofList : oldPackedText.toList = _)).trans (by decide +kernel)
  have hsignature : (bytesOf oldSignatureText).length = 71 :=
    (length_bytesOf (String.toList_ofList : oldSignatureText.toList = _)).trans (by decide +kernel)
  constructor <;> simp only [oldLink, hkey, hpacked, hsignature] <;> decide

set_option maxRecDepth 3000 in
theorem oldLink_text : oldLink.text.length ≤ 8192 := by
  have htext : oldLink.text = Utf8.encode oldText := by simp only [oldLink]
  have hchars : oldText.toList = _ := String.toList_ofList
  rw [htext]
  refine Nat.le_trans (Utf8.length_encode_le oldText) ?_
  rw [hchars]
  decide

def oldCandidate : Candidate where
  route := roomRoute
  serverKey := canonicalServerKey oldLink.key
  privateKey := none

theorem oldLink_contents : contents linkPhone oldLink.libraries oldLink.link (fun _ => none) =
    .ok (-9223372036854775807, 4102444800, oldCandidate) :=
  Recorded.contents_eq oldLink_fits rfl oldLink_text rfl rfl rfl rfl oldLink_binding oldLink_valid
    oldLink_times.1 oldLink_times.2 oldLink_route

end CompactRoute

open CompactRoute in
/-- In 2026 the link is accepted, and it will be until 2100. -/
theorem compact_link_outlives_lifetime :
    ∃ candidate,
      parse linkPhone oldLink.libraries oldLink.link 1767225600 (fun _ => none) = .ok candidate ∧
      contents linkPhone oldLink.libraries oldLink.link (fun _ => none) =
        .ok (-9223372036854775807, 4102444800, candidate) ∧
      ¬ ShortLived 1767225600 (-9223372036854775807) 4102444800 := by
  have htime : InTime 1767225600 (-9223372036854775807) 4102444800 := by
    constructor <;> decide
  have hlifetime : ¬ ShortLived 1767225600 (-9223372036854775807) 4102444800 := fun h =>
    absurd h.lifetime_le (by decide)
  have hparse := parse_eq_ok_iff.2 ⟨-9223372036854775807, 4102444800, oldLink_contents, htime⟩
  exact ⟨oldCandidate, hparse, oldLink_contents, hlifetime⟩

open CompactRoute in
/-- For this link neither side holds. -/
theorem compact_link_short_lived_iff_oldLink :
    (¬ ∀ issued expires candidate,
      contents linkPhone oldLink.libraries oldLink.link (fun _ => none) =
        .ok (issued, expires, candidate) →
      issued ≤ 1767225600 + 60 → 1767225600 < expires → expires - issued < 2 ^ 63) ∧
    ¬ ∀ candidate,
      parse linkPhone oldLink.libraries oldLink.link 1767225600 (fun _ => none) = .ok candidate →
        ∃ issued expires, contents linkPhone oldLink.libraries oldLink.link (fun _ => none) =
          .ok (issued, expires, candidate) ∧ ShortLived 1767225600 issued expires := by
  have hlarge : ¬ ∀ issued expires candidate,
      contents linkPhone oldLink.libraries oldLink.link (fun _ => none) =
        .ok (issued, expires, candidate) →
      issued ≤ 1767225600 + 60 → 1767225600 < expires → expires - issued < 2 ^ 63 := fun h =>
    absurd (h _ _ _ oldLink_contents (by decide) (by decide)) (by decide)
  exact ⟨hlarge, fun h => hlarge ((compact_link_short_lived_iff linkPhone oldLink.libraries
    linkPhone_long oldLink.link 1767225600 (fun _ => none) (by decide) (by decide)).1 h)⟩

end LibreRoute.Sync
