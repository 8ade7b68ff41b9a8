import LibreRoute.Admin.Grants

/-!
A platform that plays back recorded answers.

Base64, the format of P-256 keys and the payloads are computed. What needs a
secret or a digest is looked up: codes and signatures of the device, what was
found in payloads and links, and the envelopes that verified under a server's
key. `Issued.authentic` says when a grant is in force on it.
-/

namespace LibreRoute.Admin

open LibreRoute.Lib Platform AdminEnvelope

/-- The X.509 structure around a point of P-256. -/
def spkiHeader : List UInt8 :=
  [0x30, 0x59, 0x30, 0x13, 0x06, 0x07, 0x2a, 0x86, 0x48, 0xce, 0x3d, 0x02, 0x01, 0x06, 0x08, 0x2a,
    0x86, 0x48, 0xce, 0x3d, 0x03, 0x01, 0x07, 0x03, 0x42, 0x00]

def rawPoint (bytes : List UInt8) : Option ECPublicKey :=
  if bytes.length = 65 ∧ bytes.head? = some 4 then
    some ⟨Platform.unsigned ((bytes.drop 1).take 32), Platform.unsigned (bytes.drop 33)⟩
  else none

def spkiPoint (bytes : List UInt8) : Option ECPublicKey :=
  if bytes.take 26 = spkiHeader then rawPoint (bytes.drop 26) else none

def recordedKey (text : String) : Option ECPublicKey :=
  (decodeBase64 text).bind fun bytes => rawPoint bytes <|> spkiPoint bytes

/-- The text of a JSON object of strings that need no escape. -/
def stringObjectText (fields : List (String × String)) : String :=
  "\x7b" ++ ",".intercalate (fields.map fun field =>
    "\"" ++ field.1 ++ "\":\"" ++ field.2 ++ "\"") ++ "\x7d"

def AdminEnvelope.toJson (e : AdminEnvelope) : String :=
  "\x7b\"ver\":" ++ toString e.ver ++ ",\"type\":\"" ++ e.type ++ "\",\"subtype\":\"" ++
    e.subtype ++ "\",\"profile_id\":\"" ++ e.profileId ++ "\",\"op_id\":\"" ++ e.opId ++
    "\",\"rev\":" ++ toString e.rev ++ ",\"exp\":" ++ toString e.exp ++ ",\"sender\":\"" ++
    e.sender ++ "\",\"nonce\":\"" ++ e.nonce ++ "\",\"payload\":\"" ++ e.payload ++
    "\",\"sig\":\"" ++ e.signature ++ "\"\x7d"

/-- The length of `toJson` without the payload. -/
def AdminEnvelope.frameLength (e : AdminEnvelope) : Nat :=
  117 + (toString e.ver).length + e.type.length + e.subtype.length + e.profileId.length +
    e.opId.length + (toString e.rev).length + (toString e.exp).length + e.sender.length +
    e.nonce.length + e.signature.length

theorem AdminEnvelope.length_toJson (e : AdminEnvelope) :
    e.toJson.length = e.frameLength + e.payload.length := by
  unfold toJson frameLength
  simp only [String.length_append]
  change 7 + _ + 9 + _ + 13 + _ + 16 + _ + 11 + _ + 8 + _ + 7 + _ + 11 + _ + 11 + _ + 13 + _ + 9 +
    _ + 2 = _
  omega

theorem AdminEnvelope.length_toJson_pos (e : AdminEnvelope) : 0 < e.toJson.length := by
  rw [length_toJson, frameLength]
  omega

theorem AdminEnvelope.length_toJson_le {e : AdminEnvelope} {m n : Nat} (hframe : e.frameLength ≤ m)
    (hpayload : e.payload.length ≤ n) : e.toJson.length ≤ m + n :=
  e.length_toJson ▸ Nat.add_le_add hframe hpayload

def AdminEnvelope.toFields (e : AdminEnvelope) : JsonObject :=
  [("ver", .literal (toString e.ver)), ("type", .string e.type), ("subtype", .string e.subtype),
    ("profile_id", .string e.profileId), ("op_id", .string e.opId),
    ("rev", .literal (toString e.rev)), ("exp", .literal (toString e.exp)),
    ("sender", .string e.sender), ("nonce", .string e.nonce), ("payload", .string e.payload),
    ("sig", .string e.signature)]

def fieldTexts (o : JsonObject) : List (String × Option String) :=
  o.map fun field => (field.1, field.2.content.toOption)

structure Recording where
  fingerprint : String
  publicKey : String
  codes : List (String × String)
  requests : List AdminEnvelope
  grants : List (String × AdminGrant)
  signed : List (String × AdminEnvelope)
  digests : List (String × List UInt8)
  payloads : List (String × Json)
  links : List (String × AdminEnvelope)

namespace Recording

def platform (r : Recording) : Platform where
  getFingerprint := r.fingerprint
  getPublicKeyBase64 := r.publicKey
  generateOneTimeCode nonce := (r.codes.lookup nonce).getD ""
  signCanonical text :=
    ((r.requests.find? (·.canonicalSigningString == text)).map (·.signature)).getD ""
  sha256 bytes :=
    ((r.digests.find? fun entry => decodeBase64 entry.1 == some bytes).map (·.2)).getD []
  generatePoint x y := some ⟨x, y⟩
  generateX509 := spkiPoint
  verifyBytes key text bytes := r.signed.any fun entry =>
    recordedKey entry.1 == some key && entry.2.canonicalSigningString == text &&
      decodeBase64 entry.2.signature == some bytes
  decodeGrant payload :=
    match r.grants.lookup payload with
    | some grant => .ok grant
    | none => .error (.platform none)
  decodePayload payload :=
    match r.payloads.lookup payload with
    | some value => .ok value
    | none => .error (.platform none)
  encodePayload fields := Base64.encodeToString (stringObjectText fields)
  envelopeFromJson text := (r.signed.find? (·.2.toJson == text)).map (·.2)
  decodeEnvelope
    | .object fields =>
      (r.signed.find? fun entry => fieldTexts entry.2.toFields == fieldTexts fields).map (·.2)
    | _ => none
  decodeLinkBody body := r.links.lookup body
  encodeLinkBody envelope := Base64.encodeToString envelope.toJson

variable {r : Recording} {envelope : AdminEnvelope} {key : String}

theorem parsePublicKey_eq (text : String) : r.platform.parsePublicKey text = recordedKey text := by
  unfold parsePublicKey recordedKey
  rcases decodeBase64 text with _ | bytes
  · rfl
  · by_cases hraw : bytes.length = 65 ∧ bytes.head? = some 4
    · simp [hraw, rawPoint, platform]
    · simp [hraw, rawPoint, platform]

theorem verifyEnvelope_of_mem {point : ECPublicKey} (hpoint : recordedKey key = some point)
    (hsignature : isBlank envelope.signature = false)
    (hbytes : (decodeBase64 envelope.signature).isSome = true)
    (hsigned : (key, envelope) ∈ r.signed) : r.platform.verifyEnvelope envelope point = true := by
  obtain ⟨bytes, hbytes⟩ := Option.isSome_iff_exists.1 hbytes
  have hverified : r.platform.verifyBytes point envelope.canonicalSigningString bytes = true :=
    List.any_eq_true.2 ⟨_, hsigned, by simp [hpoint, hbytes]⟩
  simp [verifyEnvelope, hsignature, verifyCanonical, hbytes, hverified]

theorem verifyServerResponse_of_mem (hkey : isBlank key = false)
    (hpoint : (recordedKey key).isSome = true) (hsignature : isBlank envelope.signature = false)
    (hbytes : (decodeBase64 envelope.signature).isSome = true)
    (hsigned : (key, envelope) ∈ r.signed) :
    r.platform.verifyServerResponse envelope key (some key) = true := by
  obtain ⟨point, hpoint⟩ := Option.isSome_iff_exists.1 hpoint
  simp [verifyServerResponse, hkey, parsePublicKey_eq, hpoint,
    verifyEnvelope_of_mem hpoint hsignature hbytes hsigned]

theorem computeFingerprint_eq {digest : List UInt8} {digests : List (String × List UInt8)}
    (hdigests : r.digests = (key, digest) :: digests)
    (hbytes : (decodeBase64 key).isSome = true) :
    r.platform.computeFingerprint key = some ("SHA256:" ++ hex digest) := by
  obtain ⟨bytes, hbytes⟩ := Option.isSome_iff_exists.1 hbytes
  simp [computeFingerprint, hbytes, platform, hdigests]

theorem envelopeFromJson_toJson {signed : List (String × AdminEnvelope)}
    (hsigned : r.signed = (key, envelope) :: signed) :
    r.platform.envelopeFromJson envelope.toJson = some envelope := by
  simp [platform, hsigned]

theorem decodeEnvelope_toFields {signed : List (String × AdminEnvelope)}
    (hsigned : r.signed = (key, envelope) :: signed) :
    r.platform.decodeEnvelope (.object envelope.toFields) = some envelope := by
  simp [platform, hsigned]

theorem decodeLinkBody_of_lookup {body : String} (h : r.links.lookup body = some envelope) :
    r.platform.decodeLinkBody body = some envelope := h

theorem decodePayload_of_lookup {payload : String} {value : Json}
    (h : r.payloads.lookup payload = some value) :
    r.platform.decodePayload payload = .ok value := by
  simp only [platform, h]

theorem decodeGrant_of_lookup {payload : String} {grant : AdminGrant}
    (h : r.grants.lookup payload = some grant) :
    r.platform.decodeGrant payload = .ok grant := by
  simp only [platform, h]

/-- The envelope carries the grant, is signed with the key, and both are made out to the
device of the recording. -/
structure Issued (r : Recording) (key : String) (envelope : AdminEnvelope) (grant : AdminGrant) :
    Prop where
  key_named : isBlank key = false
  point : (recordedKey key).isSome = true
  signature_named : isBlank envelope.signature = false
  bytes : (decodeBase64 envelope.signature).isSome = true
  signed : (key, envelope) ∈ r.signed
  decoded : r.grants.lookup envelope.payload = some grant
  type_eq : envelope.type = typeAdmin
  subtype_eq : envelope.subtype = subtypeGrant
  granted : grant.role.granted = true
  profileId_eq : grant.profileId = envelope.profileId
  revision_eq : grant.revision = envelope.rev
  expiresAt_le : grant.expiresAt ≤ envelope.exp
  adminFingerprint_eq : grant.adminFingerprint = r.fingerprint
  serverPublicKey_eq : grant.serverPublicKey = key

theorem Issued.authentic {now : Int} {grant : AdminGrant} (h : r.Issued key envelope grant)
    (hnow : now < grant.expiresAt) : r.platform.Authentic now envelope grant key := by
  have henvelope : now < envelope.exp := by
    have := h.expiresAt_le
    omega
  refine Bool.and_eq_true_iff.2 ⟨?_, verifyServerResponse_of_mem h.key_named h.point
    h.signature_named h.bytes h.signed⟩
  simp [validGrantFields, h.type_eq, h.subtype_eq, decodeGrant_of_lookup h.decoded,
    Except.toOption, henvelope, h.granted, h.profileId_eq, h.revision_eq, h.expiresAt_le, hnow,
    h.adminFingerprint_eq, h.serverPublicKey_eq]
  rfl

end Recording

/-! ### A device and two servers -/

def deviceFingerprint : String :=
  "SHA256:181d85aaf967a9286ae28955bed78fb2dfd34fc1eb4b5d5d5fc739b0b28f5f6a"

def devicePublicKey : String :=
  "MFkwEwYHKoZIzj0CAQYIKoZIzj0DAQcDQgAEuWbGVnP/B6PpRVslR6zdwoetKJMKSccca5YxlkMe4PEJBau47odJmENImdMKJdvSruZTZt4OG9oTj9FI9GNcKw=="

def serverKey1 : String :=
  "BNoxQFK_AA-meByz2Be-4YwAfjrxOwqqbonKoycS2ymGWHVYXBFSRISqEHVw9BQs-_fIA8GFltWTf9_5b2vfSm8"

def serverKey2 : String :=
  "BDsBjzInHkiYHdq4No7nCaseSpIyil9E3_WIc0xBbRv8I7nJyRN88cp5NUaIYkeOtHOZfFBpnPKET_D-dpYThCY"

def serverDigest1 : List UInt8 :=
  [0x9e, 0xc1, 0x92, 0xc8, 0x12, 0x9e, 0x7a, 0x4e, 0x6c, 0x3e, 0xe8, 0x77, 0x75, 0xc4, 0x33,
    0xdf, 0xb3, 0x34, 0x03, 0x06, 0x3b, 0x0b, 0x5f, 0x33, 0xf7, 0x26, 0xdb, 0xb0, 0x43, 0xd1,
    0x09, 0x3a]

def serverFingerprint1 : String :=
  "SHA256:9ec192c8129e7a4e6c3ee87775c433dfb33403063b0b5f33f726dbb043d1093a"

theorem serverFingerprint1_eq : "SHA256:" ++ hex serverDigest1 = serverFingerprint1 := by
  decide

def seed1 : JoinSeed := ⟨"0d3f6a52-5c1e-4a9b-8f27-61b2c4d7e901", "op-1"⟩

def seed2 : JoinSeed := ⟨"7b9e10c4-2f68-4d35-9a01-c3e5f7086b12", "op-2"⟩

def requestOf (seed : JoinSeed) (profileId code signature : String) : AdminEnvelope where
  subtype := subtypeRequest
  profileId := profileId
  opId := seed.opId
  exp := 1767226200
  sender := deviceFingerprint
  nonce := seed.nonce
  payload := Base64.encodeToString (stringObjectText
    [("device_id", deviceFingerprint), ("public_key", devicePublicKey), ("profile_id", profileId),
      ("role", "owner"), ("one_time_code", code)])
  signature := signature

def request1 : AdminEnvelope :=
  requestOf seed1 "admin-1" "561903"
    "MEUCIAOXBmcOFBMSwUEvnPkL9K+9IAI+pnbCQqlecgzCA3/cAiEA2gaahCIUb0DIMAXPwbW1YrJXoIsEpNV9LQk+V2gx+p4="

def request2 : AdminEnvelope :=
  requestOf seed2 "admin-2" "132811"
    "MEUCIQDRqje523fCv0lhifsYrb1O6MnZKc9lP0KzbxACTlcRbAIgF08TY9gYtBlTXJmIsK6fNIDzbhf94NIvcbEuuyQ2nSU="

def grant1 : AdminGrant where
  role := .owner
  profileId := "admin-1"
  adminFingerprint := deviceFingerprint
  serverPublicKey := serverKey1
  grantedAt := 1767225600
  expiresAt := 1798761600
  nonce := "0d3f6a52-5c1e-4a9b-8f27-61b2c4d7e901"
  serverId := some "vds-1"

def grant2 : AdminGrant where
  role := .owner
  profileId := "admin-2"
  adminFingerprint := deviceFingerprint
  serverPublicKey := serverKey2
  grantedAt := 1767225600
  expiresAt := 1798761600
  nonce := "7b9e10c4-2f68-4d35-9a01-c3e5f7086b12"
  serverId := some "vds-2"

def envelope1 : AdminEnvelope where
  subtype := subtypeGrant
  profileId := "admin-1"
  opId := "op-1"
  exp := 1798761600
  sender := "vds-1"
  nonce := "0d3f6a52-5c1e-4a9b-8f27-61b2c4d7e901"
  payload := "eyJyb2xlIjoiT1dORVIiLCJwcm9maWxlSWQiOiJhZG1pbi0xIiwiYWRtaW5GaW5nZXJwcmludCI6IlNIQTI1NjoxODFkODVhYWY5NjdhOTI4NmFlMjg5NTViZWQ3OGZiMmRmZDM0ZmMxZWI0YjVkNWQ1ZmM3MzliMGIyOGY1ZjZhIiwic2VydmVyUHVibGljS2V5IjoiQk5veFFGS19BQS1tZUJ5ejJCZS00WXdBZmpyeE93cXFib25Lb3ljUzJ5bUdXSFZZWEJGU1JJU3FFSFZ3OUJRcy1fZklBOEdGbHRXVGY5XzViMnZmU204IiwiZ3JhbnRlZEF0IjoxNzY3MjI1NjAwLCJleHBpcmVzQXQiOjE3OTg3NjE2MDAsInNjb3BlIjpbXSwicmV2aXNpb24iOjEsIm5vbmNlIjoiMGQzZjZhNTItNWMxZS00YTliLThmMjctNjFiMmM0ZDdlOTAxIiwic2VydmVyX2lkIjoidmRzLTEifQ"
  signature := "MEYCIQCk+MuULCyXiqrRIxbUOfio+/2szfHnEXIU5/6N1i1ulAIhAJuhLtqdRG6HzfN/8l++/P9uH3qzS+0BchIFHPwQ2w93"

def envelope2 : AdminEnvelope where
  subtype := subtypeGrant
  profileId := "admin-2"
  opId := "op-2"
  exp := 1798761600
  sender := "vds-2"
  nonce := "7b9e10c4-2f68-4d35-9a01-c3e5f7086b12"
  payload := "eyJyb2xlIjoiT1dORVIiLCJwcm9maWxlSWQiOiJhZG1pbi0yIiwiYWRtaW5GaW5nZXJwcmludCI6IlNIQTI1NjoxODFkODVhYWY5NjdhOTI4NmFlMjg5NTViZWQ3OGZiMmRmZDM0ZmMxZWI0YjVkNWQ1ZmM3MzliMGIyOGY1ZjZhIiwic2VydmVyUHVibGljS2V5IjoiQkRzQmp6SW5Ia2lZSGRxNE5vN25DYXNlU3BJeWlsOUUzX1dJYzB4QmJSdjhJN25KeVJOODhjcDVOVWFJWWtlT3RIT1pmRkJwblBLRVRfRC1kcFlUaENZIiwiZ3JhbnRlZEF0IjoxNzY3MjI1NjAwLCJleHBpcmVzQXQiOjE3OTg3NjE2MDAsInNjb3BlIjpbXSwicmV2aXNpb24iOjEsIm5vbmNlIjoiN2I5ZTEwYzQtMmY2OC00ZDM1LTlhMDEtYzNlNWY3MDg2YjEyIiwic2VydmVyX2lkIjoidmRzLTIifQ"
  signature := "MEUCIQCSJ0qfesNCUW1Xg7cTZIH4NBHX7rLDt32T7ksXWrSdJgIgdOCpLi7GRiRSM353QoYEyxjeXMy+l+CZ4YhbSZmmF1Q="

def confirmation1 : JsonObject :=
  [("op_id", .string "op-4"), ("status", .string "applied"),
    ("data", .object
      [("grant", .object envelope1.toFields), ("server_id", .string "vds-1"),
        ("server_public_key", .string serverKey1)])]

def confirmationText1 : String :=
  "\x7b\"op_id\":\"op-4\",\"status\":\"applied\",\"data\":\x7b\"grant\":" ++ envelope1.toJson ++
    ",\"server_id\":\"vds-1\",\"server_public_key\":\"" ++ serverKey1 ++ "\"\x7d\x7d"

def response1 : AdminEnvelope where
  subtype := subtypeResponse
  profileId := "admin-1"
  opId := "op-4"
  exp := 1798761600
  sender := "server"
  nonce := "5e0c91d8-7a43-4f2b-8d16-e09b3c7a5524"
  payload := Base64.encodeToString confirmationText1
  signature := "MEYCIQCLwkSlbINT29i1lEfJ3Gv2hsfPao8jeb7LqsWSydt05QIhAIVB1/t9lzJk68ULVxspJjOYjvPnoPTJJcBqPxrqL97m"

def linkBody1 : String := Base64.encodeToString response1.toJson

def twoServers : Recording where
  fingerprint := deviceFingerprint
  publicKey := devicePublicKey
  codes := [(seed1.nonce, "561903"), (seed2.nonce, "132811")]
  requests := [request1, request2]
  grants := [(envelope1.payload, grant1), (envelope2.payload, grant2)]
  signed := [(serverKey1, envelope1), (serverKey2, envelope2), (serverKey1, response1)]
  digests := [(serverKey1, serverDigest1)]
  payloads := [(response1.payload, .object confirmation1)]
  links := [(linkBody1, response1)]

theorem lookup_cons_of_ne {k k' : String} {grant : AdminGrant} {l : List (String × AdminGrant)}
    (h : k ≠ k') : List.lookup k ((k', grant) :: l) = List.lookup k l := by
  rw [List.lookup_cons, beq_eq_false_iff_ne.2 h]

theorem serverKey1_point : (recordedKey serverKey1).isSome = true := by
  rw [recordedKey, show decodeBase64 serverKey1 = _ from decodeBase64_ofList _]
  decide

theorem serverKey2_point : (recordedKey serverKey2).isSome = true := by
  rw [recordedKey, show decodeBase64 serverKey2 = _ from decodeBase64_ofList _]
  decide

theorem twoServers_issued1 : twoServers.Issued serverKey1 envelope1 grant1 where
  key_named := (isBlank_ofList _).trans rfl
  point := serverKey1_point
  signature_named := (isBlank_ofList _).trans rfl
  bytes := (congrArg Option.isSome (decodeBase64_ofList _)).trans rfl
  signed := by simp [twoServers]
  decoded := List.lookup_cons_self
  type_eq := rfl
  subtype_eq := rfl
  granted := rfl
  profileId_eq := rfl
  revision_eq := rfl
  expiresAt_le := Int.le_refl _
  adminFingerprint_eq := rfl
  serverPublicKey_eq := rfl

theorem twoServers_issued2 : twoServers.Issued serverKey2 envelope2 grant2 where
  key_named := (isBlank_ofList _).trans rfl
  point := serverKey2_point
  signature_named := (isBlank_ofList _).trans rfl
  bytes := (congrArg Option.isSome (decodeBase64_ofList _)).trans rfl
  signed := by simp [twoServers]
  decoded := (lookup_cons_of_ne (by simp [envelope1, envelope2])).trans List.lookup_cons_self
  type_eq := rfl
  subtype_eq := rfl
  granted := rfl
  profileId_eq := rfl
  revision_eq := rfl
  expiresAt_le := Int.le_refl _
  adminFingerprint_eq := rfl
  serverPublicKey_eq := rfl

end LibreRoute.Admin
