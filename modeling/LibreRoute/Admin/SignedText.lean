import LibreRoute.Admin.Recorded
import LibreRoute.Lib.JsonValue
import LibreRoute.Lib.Tokens

/-!
What a signature and a content hash are for.

The signed text of an envelope joins ten fields by a bar, which is not escaped
inside a field, so the text says which envelope it is of only when it is known
how many bars each field holds. The hash of an authorization bundle is taken
of its texts with nothing between them.
-/

namespace LibreRoute.Admin

open LibreRoute.Lib

/-! ### Envelopes -/

namespace AdminEnvelope

def signedTexts (e : AdminEnvelope) : List (List Char) :=
  [(toString e.ver).toList, e.type.toList, e.subtype.toList, e.profileId.toList, e.opId.toList,
    (toString e.rev).toList, (toString e.exp).toList, e.sender.toList, e.nonce.toList,
    e.payload.toList]

theorem canonicalSigningString_toList (e : AdminEnvelope) :
    e.canonicalSigningString.toList = ['|'].intercalate e.signedTexts := by
  have hbar : "|".toList = ['|'] := rfl
  unfold canonicalSigningString signedTexts
  generalize toString e.ver = ver
  generalize toString e.rev = rev
  generalize toString e.exp = exp
  simp [hbar, List.intercalate_cons_cons, List.intercalate_singleton]

/-- How often the separator stands in each text in front of the payload. -/
def separators (e : AdminEnvelope) : List Nat :=
  [e.type, e.subtype, e.profileId, e.opId, e.sender, e.nonce].map fun text =>
    text.toList.count '|'

structure SignedAlike (e₁ e₂ : AdminEnvelope) : Prop where
  ver : e₁.ver = e₂.ver
  type : e₁.type = e₂.type
  subtype : e₁.subtype = e₂.subtype
  profileId : e₁.profileId = e₂.profileId
  opId : e₁.opId = e₂.opId
  rev : e₁.rev = e₂.rev
  exp : e₁.exp = e₂.exp
  sender : e₁.sender = e₂.sender
  nonce : e₁.nonce = e₂.nonce
  payload : e₁.payload = e₂.payload

variable {e₁ e₂ : AdminEnvelope}

theorem signedTexts_eq_iff : e₁.signedTexts = e₂.signedTexts ↔ e₁.SignedAlike e₂ := by
  constructor
  · intro h
    simp only [signedTexts, List.cons.injEq, String.toList_inj] at h
    obtain ⟨hver, htype, hsubtype, hprofileId, hopId, hrev, hexp, hsender, hnonce, hpayload, -⟩ := h
    exact ⟨intRepr_injective hver, htype, hsubtype, hprofileId, hopId, intRepr_injective hrev,
      intRepr_injective hexp, hsender, hnonce, hpayload⟩
  · rintro ⟨hver, htype, hsubtype, hprofileId, hopId, hrev, hexp, hsender, hnonce, hpayload⟩
    simp only [signedTexts, hver, htype, hsubtype, hprofileId, hopId, hrev, hexp, hsender, hnonce,
      hpayload]

theorem count_separator_repr (n : Int) : (toString n).toList.count '|' = 0 := by
  refine List.count_eq_zero.2 fun h => ?_
  rcases mem_intRepr h with h | h
  · exact absurd h (by decide)
  · exact absurd h (by decide)

theorem counts_eq_of_separators (h : e₁.separators = e₂.separators) :
    e₁.signedTexts.dropLast.map (List.count '|') =
      e₂.signedTexts.dropLast.map (List.count '|') := by
  simp only [separators, List.map_cons, List.map_nil, List.cons.injEq] at h
  obtain ⟨htype, hsubtype, hprofileId, hopId, hsender, hnonce, -⟩ := h
  simp only [signedTexts, List.dropLast_cons_cons, List.dropLast_singleton, List.map_cons,
    List.map_nil, count_separator_repr, htype, hsubtype, hprofileId, hopId, hsender, hnonce]

/-- The signed text and the number of separators in each field give the envelope. -/
theorem signedAlike_of_canonical (hseparators : e₁.separators = e₂.separators)
    (h : e₁.canonicalSigningString = e₂.canonicalSigningString) : e₁.SignedAlike e₂ := by
  rw [← signedTexts_eq_iff]
  refine intercalate_inj rfl (counts_eq_of_separators hseparators) ?_
  rw [← canonicalSigningString_toList, ← canonicalSigningString_toList, h]

end AdminEnvelope

namespace Platform

/-- A signature under the key is valid for one text at most. -/
def SignsOneText (P : Platform) (key : ECPublicKey) : Prop :=
  ∀ bytes text text', P.verifyBytes key text bytes = true → P.verifyBytes key text' bytes = true →
    text = text'

variable {P : Platform} {key : ECPublicKey} {e₁ e₂ : AdminEnvelope}

theorem SignsOneText.canonical_eq (hkey : P.SignsOneText key)
    (hsignature : e₁.signature = e₂.signature) (h₁ : P.verifyEnvelope e₁ key = true)
    (h₂ : P.verifyEnvelope e₂ key = true) :
    e₁.canonicalSigningString = e₂.canonicalSigningString := by
  simp only [verifyEnvelope, verifyCanonical, Bool.and_eq_true] at h₁ h₂
  rw [← hsignature] at h₂
  cases hbytes : decodeBase64 e₁.signature with
  | none => simp [hbytes] at h₁
  | some bytes =>
    rw [hbytes] at h₁ h₂
    exact hkey bytes _ _ h₁.2 h₂.2

end Platform

/-- Envelopes whose fields hold the separator equally often are told apart by the signed text,
and no signature is valid for two of them. -/
theorem signed_text_identifies (e₁ e₂ : AdminEnvelope)
    (hseparators : e₁.separators = e₂.separators) :
    (e₁.canonicalSigningString = e₂.canonicalSigningString → e₁.SignedAlike e₂) ∧
      ∀ (P : Platform) (key : ECPublicKey), P.SignsOneText key → e₁.signature = e₂.signature →
        P.verifyEnvelope e₁ key = true → P.verifyEnvelope e₂ key = true → e₁.SignedAlike e₂ :=
  ⟨AdminEnvelope.signedAlike_of_canonical hseparators, fun _ _ hkey hsignature h₁ h₂ =>
    AdminEnvelope.signedAlike_of_canonical hseparators (hkey.canonical_eq hsignature h₁ h₂)⟩

def oneSignature : Platform :=
  Recording.platform
    { fingerprint := deviceFingerprint
      publicKey := devicePublicKey
      codes := []
      requests := []
      grants := []
      signed := [(serverKey1, envelope1)]
      digests := []
      payloads := []
      links := [] }

theorem oneSignature_signsOneText (key : ECPublicKey) : oneSignature.SignsOneText key := by
  have htext : ∀ {bytes text}, oneSignature.verifyBytes key text bytes = true →
      text = envelope1.canonicalSigningString := by
    intro bytes text h
    simp only [oneSignature, Recording.platform, List.any_cons, List.any_nil, Bool.or_false,
      Bool.and_eq_true, beq_iff_eq] at h
    exact h.1.2.symm
  intro bytes text text' h h'
  rw [htext h, htext h']

def forged1 : AdminEnvelope := { envelope1 with profileId := "admin-2" }

theorem signed_text_identifies_envelope1 :
    envelope1.separators = forged1.separators ∧
      envelope1.canonicalSigningString ≠ forged1.canonicalSigningString ∧
      ∃ key, oneSignature.verifyEnvelope envelope1 key = true ∧
        oneSignature.verifyEnvelope forged1 key = false := by
  have hseparators : envelope1.separators = forged1.separators := by decide
  have hother : ¬ envelope1.SignedAlike forged1 := fun h => absurd h.profileId (by decide)
  obtain ⟨key, hkey⟩ := Option.isSome_iff_exists.1 serverKey1_point
  have hverified : oneSignature.verifyEnvelope envelope1 key = true :=
    Recording.verifyEnvelope_of_mem hkey twoServers_issued1.signature_named
      twoServers_issued1.bytes List.mem_cons_self
  obtain ⟨htext, hsignature⟩ := signed_text_identifies envelope1 forged1 hseparators
  refine ⟨hseparators, fun h => hother (htext h), key, hverified, ?_⟩
  refine Bool.eq_false_iff.2 fun h => hother ?_
  exact hsignature oneSignature key (oneSignature_signsOneText key) rfl hverified h

/-- A suspension of the profile `profile-123|op-4`. -/
def barInProfile : AdminEnvelope where
  subtype := "suspend"
  profileId := "profile-123|op-4"
  opId := "56"
  rev := 2
  exp := 1700000000
  sender := "SHA256:abcd"
  nonce := "nonce-789"
  signature := "c2lnbmF0dXJl"

/-- A suspension of the profile `profile-123`. -/
def barInOperation : AdminEnvelope :=
  { barInProfile with profileId := "profile-123", opId := "op-4|56" }

/-- Two envelopes for different profiles are signed as the same text, so a signature of one is a
signature of the other. -/
theorem signed_text_ambiguous :
    barInProfile.canonicalSigningString = barInOperation.canonicalSigningString ∧
      ¬ barInProfile.SignedAlike barInOperation ∧
      ∀ (P : Platform) (key : ECPublicKey),
        P.verifyEnvelope barInProfile key = P.verifyEnvelope barInOperation key := by
  have htext : barInProfile.canonicalSigningString = barInOperation.canonicalSigningString := by
    decide
  refine ⟨htext, fun h => absurd h.profileId (by decide), fun P key => ?_⟩
  rw [Platform.verifyEnvelope, Platform.verifyEnvelope, htext]
  rfl

/-! ### Bundles -/

/-- What a content hash is taken of. `origins` is a map. -/
structure AuthBundlePlaintext where
  targetId : String
  profileId : String
  authSessionId : String
  nonce : String
  userAgent : String
  origins : List (String × String)
  origins_distinct : (origins.map Prod.fst).Nodup

namespace AuthBundlePlaintext

variable (sha256 : List UInt8 → List UInt8)

/-- The bytes given to the digest, update by update. -/
def updates (b : AuthBundlePlaintext) : List (List UInt8) :=
  [Utf8.encode b.targetId, Utf8.encode b.profileId, Utf8.encode b.authSessionId,
    Utf8.encode b.nonce, Utf8.encode b.userAgent] ++
  (sortedBy id (b.origins.map Prod.fst)).flatMap fun origin =>
    [Utf8.encode origin, Utf8.encode ((b.origins.lookup origin).getD "")]

def computeContentHash (b : AuthBundlePlaintext) : String :=
  Platform.hex (sha256 b.updates.flatten)

structure SameContent (b₁ b₂ : AuthBundlePlaintext) : Prop where
  targetId : b₁.targetId = b₂.targetId
  profileId : b₁.profileId = b₂.profileId
  authSessionId : b₁.authSessionId = b₂.authSessionId
  nonce : b₁.nonce = b₂.nonce
  userAgent : b₁.userAgent = b₂.userAgent
  origins : ∀ origin, b₁.origins.lookup origin = b₂.origins.lookup origin

theorem flatMap_pair_inj {l l' : List String} {f g : String → List UInt8}
    (h : (l.flatMap fun origin => [Utf8.encode origin, f origin]) =
      l'.flatMap fun origin => [Utf8.encode origin, g origin]) :
    l = l' ∧ ∀ origin ∈ l, f origin = g origin := by
  induction l generalizing l' with
  | nil =>
    cases l' with
    | nil => exact ⟨rfl, by simp⟩
    | cons origin l' => simp at h
  | cons origin l ih =>
    cases l' with
    | nil => simp at h
    | cons origin' l' =>
      simp only [List.flatMap_cons, List.cons_append, List.nil_append, List.cons.injEq] at h
      obtain ⟨hkey, hvalue, hrest⟩ := h
      obtain rfl := Utf8.encode_injective hkey
      obtain ⟨rfl, hvalues⟩ := ih hrest
      exact ⟨rfl, List.forall_mem_cons.2 ⟨hvalue, hvalues⟩⟩

variable {b₁ b₂ : AuthBundlePlaintext}

theorem mem_sortedKeys {b : AuthBundlePlaintext} {origin : String} :
    origin ∈ sortedBy id (b.origins.map Prod.fst) ↔ b.origins.lookup origin ≠ none := by
  rw [(sortedBy_perm id _).mem_iff, Ne, lookup_eq_none, not_not]

theorem lookup_of_getD {b : AuthBundlePlaintext} {origin : String}
    (h : origin ∈ sortedBy id (b.origins.map Prod.fst)) :
    b.origins.lookup origin = some ((b.origins.lookup origin).getD "") := by
  obtain ⟨value, hvalue⟩ := Option.ne_none_iff_exists'.1 (mem_sortedKeys.1 h)
  rw [hvalue, Option.getD_some]

theorem updates_eq_iff : b₁.updates = b₂.updates ↔ b₁.SameContent b₂ := by
  constructor
  · intro h
    simp only [updates, List.cons_append, List.nil_append, List.cons.injEq,
      Utf8.encode_injective.eq_iff] at h
    obtain ⟨htarget, hprofile, hsession, hnonce, hagent, horigins⟩ := h
    obtain ⟨hkeys, hvalues⟩ := flatMap_pair_inj horigins
    refine ⟨htarget, hprofile, hsession, hnonce, hagent, fun origin => ?_⟩
    by_cases hmem : origin ∈ sortedBy id (b₁.origins.map Prod.fst)
    · rw [lookup_of_getD hmem, Utf8.encode_injective (hvalues origin hmem),
        ← lookup_of_getD (hkeys ▸ hmem)]
    · have hmem' : origin ∉ sortedBy id (b₂.origins.map Prod.fst) := hkeys ▸ hmem
      rw [mem_sortedKeys, not_not] at hmem hmem'
      rw [hmem, hmem']
  · intro h
    have hkeys : (b₁.origins.map Prod.fst).Perm (b₂.origins.map Prod.fst) := by
      rw [List.perm_ext_iff_of_nodup b₁.origins_distinct b₂.origins_distinct]
      intro origin
      rw [← not_iff_not, ← lookup_eq_none, ← lookup_eq_none, h.origins]
    have hsorted : sortedBy id (b₁.origins.map Prod.fst) = sortedBy id (b₂.origins.map Prod.fst) :=
      sortedBy_eq_of_perm hkeys (by simpa using b₁.origins_distinct)
    simp only [updates, h.targetId, h.profileId, h.authSessionId, h.nonce, h.userAgent, h.origins,
      hsorted]

theorem hash_eq_iff {sha256 : List UInt8 → List UInt8} (hsha : Function.Injective sha256) :
    b₁.computeContentHash sha256 = b₂.computeContentHash sha256 ↔
      b₁.updates.flatten = b₂.updates.flatten := by
  unfold computeContentHash
  rw [Platform.hex_injective.eq_iff, hsha.eq_iff]

end AuthBundlePlaintext

def diskBundle : AuthBundlePlaintext where
  targetId := "vds89"
  profileId := "prof_01"
  authSessionId := "sess_01"
  nonce := "nonce_123"
  userAgent := "AndroidTestBrowser"
  origins := [("https://disk.yandex.ru/", "Session_id=sid1; uid=u1"),
    ("https://docs.yandex.ru/", "Session_id=sid1")]
  origins_distinct := by decide

/-- The last character of the target belongs to the profile. -/
def shiftedBundle : AuthBundlePlaintext :=
  { diskBundle with targetId := "vds8", profileId := "9prof_01" }

def turnedBundle : AuthBundlePlaintext :=
  { diskBundle with
    origins := diskBundle.origins.reverse
    origins_distinct := by decide }

end LibreRoute.Admin
