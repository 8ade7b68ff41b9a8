import LibreRoute.Admin.Models
import LibreRoute.Lib.Base64

/-!
What the repository takes from outside: the device key, digests and
elliptic-curve keys, and the decoding of signed payloads. They are the
fields of `Platform`. On top of it stand the checks of the key manager and
the check that a grant is the one its envelope carries.
-/

namespace LibreRoute.Admin

open LibreRoute.Lib

/-- A public key of the curve, by the affine coordinates of its point. -/
structure ECPublicKey where
  affineX : Nat
  affineY : Nat
  deriving DecidableEq, Repr

/-- The libraries the repository calls and the identity of the device. -/
structure Platform where
  getFingerprint : String
  getPublicKeyBase64 : String
  generateOneTimeCode : String → String
  signCanonical : String → String
  sha256 : List UInt8 → List UInt8
  /-- `KeyFactory.generatePublic(ECPublicKeySpec(point, curve))`. -/
  generatePoint : Nat → Nat → Option ECPublicKey
  /-- `KeyFactory.generatePublic(X509EncodedKeySpec(bytes))`. -/
  generateX509 : List UInt8 → Option ECPublicKey
  /-- `SHA256withECDSA`: whether the signature bytes verify a text. -/
  verifyBytes : ECPublicKey → String → List UInt8 → Bool
  decodeGrant : String → Except Throwable AdminGrant
  decodePayload : String → Except Throwable Json
  /-- The Base64 payload made of a map of strings. -/
  encodePayload : List (String × String) → String
  /-- `AdminEnvelope.fromJson` of a text. -/
  envelopeFromJson : String → Option AdminEnvelope
  /-- `AdminEnvelope.fromJson` of the text of a JSON value. -/
  decodeEnvelope : Json → Option AdminEnvelope
  /-- `AdminEnvelope.fromJson` of the Base64 body of a link. -/
  decodeLinkBody : String → Option AdminEnvelope
  encodeLinkBody : AdminEnvelope → String

/-- `AdminKeyManager.decodeBase64`: either alphabet. -/
def decodeBase64 (value : String) : Option (List UInt8) :=
  Base64.decode .url value.toList <|> Base64.decode .standard value.toList

theorem decodeBase64_ofList (l : List Char) :
    decodeBase64 (String.ofList l) = (Base64.decode .url l <|> Base64.decode .standard l) := by
  rw [decodeBase64, String.toList_ofList]

namespace Platform

variable (P : Platform) {envelope : AdminEnvelope} {pin : String} {now : Int} {grant : AdminGrant}

/-- `BigInteger(1, bytes)`. -/
def unsigned (bytes : List UInt8) : Nat :=
  bytes.foldl (fun n b => n * 256 + b.toNat) 0

/-- A raw uncompressed point, or an X.509 structure. -/
def parsePublicKey (base64Key : String) : Option ECPublicKey :=
  match decodeBase64 base64Key with
  | none => none
  | some bytes =>
    if bytes.length = 65 ∧ bytes.head? = some 4 then
      P.generatePoint (unsigned ((bytes.drop 1).take 32)) (unsigned (bytes.drop 33))
    else P.generateX509 bytes

def hex (bytes : List UInt8) : String :=
  String.ofList (bytes.flatMap fun b =>
    [Nat.digitChar (b.toNat / 16), Nat.digitChar (b.toNat % 16)])

theorem digitChar_injective : ∀ m < 16, ∀ n < 16, Nat.digitChar m = Nat.digitChar n → m = n := by
  decide

theorem hex_injective : Function.Injective hex := by
  intro bytes bytes' h
  replace h := String.ofList_injective h
  induction bytes generalizing bytes' with
  | nil =>
    cases bytes' with
    | nil => rfl
    | cons b' bytes' => simp at h
  | cons b bytes ih =>
    cases bytes' with
    | nil => simp at h
    | cons b' bytes' =>
      simp only [List.flatMap_cons, List.cons_append, List.nil_append, List.cons.injEq] at h
      obtain ⟨hhigh, hlow, hrest⟩ := h
      have hb := b.toNat_lt
      have hb' := b'.toNat_lt
      have hdiv := digitChar_injective _ (by omega) _ (by omega) hhigh
      have hmod := digitChar_injective _ (by omega) _ (by omega) hlow
      rw [ih hrest, UInt8.toNat_inj.1 (by omega : b.toNat = b'.toNat)]

def computeFingerprint (base64Key : String) : Option String :=
  (decodeBase64 base64Key).map fun bytes => "SHA256:" ++ hex (P.sha256 bytes)

def verifyCanonical (canonical signatureBase64 : String) (key : ECPublicKey) : Bool :=
  match decodeBase64 signatureBase64 with
  | none => false
  | some bytes => P.verifyBytes key canonical bytes

def verifyEnvelope (envelope : AdminEnvelope) (key : ECPublicKey) : Bool :=
  !isBlank envelope.signature &&
    P.verifyCanonical envelope.canonicalSigningString envelope.signature key

/-- The server key has to be the pinned one, and to have signed the envelope. -/
def verifyServerResponse (envelope : AdminEnvelope) (serverPublicKeyBase64 : String)
    (pinnedServerPublicKeyBase64 : Option String) : Bool :=
  if isNullOrBlank pinnedServerPublicKeyBase64 ||
      some serverPublicKeyBase64 != pinnedServerPublicKeyBase64 then false
  else
    match P.parsePublicKey serverPublicKeyBase64 with
    | none => false
    | some key => P.verifyEnvelope envelope key

def signEnvelope (envelope : AdminEnvelope) : AdminEnvelope :=
  { envelope with signature := P.signCanonical envelope.canonicalSigningString }

/-- The grant is the one in the envelope, both are in force, and both name this
device and the pinned key. -/
def validGrantFields (now : Int) (envelope : AdminEnvelope) (grant : AdminGrant)
    (pinnedKey : String) : Bool :=
  envelope.type == AdminEnvelope.typeAdmin && envelope.subtype == AdminEnvelope.subtypeGrant &&
    (P.decodeGrant envelope.payload).toOption == some grant &&
    decide (now < envelope.exp) &&
    grant.role.granted &&
    grant.profileId == envelope.profileId && grant.revision == envelope.rev &&
    decide (grant.expiresAt ≤ envelope.exp) && decide (now < grant.expiresAt) &&
    grant.adminFingerprint == P.getFingerprint &&
    grant.serverPublicKey == pinnedKey

def authentic (now : Int) (envelope : AdminEnvelope) (grant : AdminGrant) (pin : String) : Bool :=
  P.validGrantFields now envelope grant pin && P.verifyServerResponse envelope pin (some pin)

def Authentic (now : Int) (envelope : AdminEnvelope) (grant : AdminGrant) (pin : String) : Prop :=
  P.authentic now envelope grant pin = true

instance (now : Int) (envelope : AdminEnvelope) (grant : AdminGrant) (pin : String) :
    Decidable (P.Authentic now envelope grant pin) :=
  inferInstanceAs (Decidable (_ = true))

variable {P}

theorem verifyServerResponse_key {key : String}
    (h : P.verifyServerResponse envelope key (some pin) = true) : key = pin := by
  unfold verifyServerResponse at h
  by_contra hne
  simp [hne] at h

/-- Time enters the check through the two expiry dates alone. -/
theorem Authentic.at_time {t : Int} (h : P.Authentic t envelope grant pin)
    (hgrant : now < grant.expiresAt) (henvelope : now < envelope.exp) :
    P.Authentic now envelope grant pin := by
  simp only [Authentic, authentic, validGrantFields, Bool.and_eq_true, decide_eq_true_eq] at h ⊢
  tauto

section

variable (h : P.Authentic now envelope grant pin)

include h

theorem Authentic.dates :
    now < grant.expiresAt ∧ now < envelope.exp := by
  simp only [Authentic, authentic, validGrantFields, Bool.and_eq_true, decide_eq_true_eq] at h
  tauto

theorem Authentic.pin_eq :
    grant.serverPublicKey = pin := by
  simp only [Authentic, authentic, validGrantFields, Bool.and_eq_true, beq_iff_eq] at h
  exact h.1.2

theorem Authentic.profileId_eq :
    grant.profileId = envelope.profileId := by
  simp only [Authentic, authentic, validGrantFields, Bool.and_eq_true, beq_iff_eq] at h
  tauto

theorem Authentic.device_eq :
    grant.adminFingerprint = P.getFingerprint := by
  simp only [Authentic, authentic, validGrantFields, Bool.and_eq_true, beq_iff_eq] at h
  tauto

theorem Authentic.granted : grant.role.granted = true := by
  simp only [Authentic, authentic, validGrantFields, Bool.and_eq_true] at h
  tauto

theorem Authentic.pin_not_blank : isBlank pin = false := by
  simp only [Authentic, authentic, Bool.and_eq_true, verifyServerResponse, isNullOrBlank_some] at h
  cases hb : isBlank pin with
  | false => rfl
  | true => simp [hb] at h

end

end Platform

end LibreRoute.Admin
