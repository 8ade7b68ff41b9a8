import Mathlib.Data.List.Basic

/-!
Texts and bytes. `Utf8.Decoder` states what the decoders of all libraries
agree on: encodings are read back, and bytes below 128 stand for themselves
wherever they occur. `Utf8.replacing` is the decoder that reads every byte it
can make nothing of as U+FFFD. `latin1` reads one character a byte.
-/

namespace LibreRoute.Lib

/-- One character a byte. -/
def latin1 (bytes : List UInt8) : String := String.ofList (bytes.map fun b => Char.ofNat b.toNat)

variable {n : Nat}

theorem toNat_ofNat (h : n.isValidChar) : (Char.ofNat n).toNat = n := by
  rw [Char.ofNat, dif_pos h]
  rfl

namespace Utf8

/-- `text.toByteArray(Charsets.UTF_8)`. -/
def encode (text : String) : List UInt8 := text.toList.flatMap String.utf8EncodeChar

@[simp] theorem encode_append (s t : String) : encode (s ++ t) = encode s ++ encode t := by
  simp [encode]

theorem encode_ofList (l : List Char) :
    encode (String.ofList l) = l.flatMap String.utf8EncodeChar := by
  rw [encode, String.toList_ofList]

theorem length_encode_le (s : String) : (encode s).length ≤ 4 * s.toList.length := by
  unfold encode
  induction s.toList with
  | nil => exact Nat.le_refl _
  | cons c l ih =>
    have hc := c.utf8Size_le_four
    rw [List.flatMap_cons, List.length_append, List.length_cons, String.length_utf8EncodeChar]
    omega

def IsEncoding (bytes : List UInt8) : Prop := ∃ text, encode text = bytes

variable {c : Char} {x : UInt8} {k v : Nat} {rest : List UInt8}

theorem encodeChar_of_lt (h : c.toNat < 128) : String.utf8EncodeChar c = [UInt8.ofNat c.toNat] := by
  have hle : c.val.toNat ≤ 127 := Nat.le_of_lt_succ h
  simp only [String.utf8EncodeChar, if_pos hle]
  rfl

theorem encodeChar_of_ge (h : 128 ≤ c.toNat) :
    2 ≤ (String.utf8EncodeChar c).length ∧ ∀ b ∈ String.utf8EncodeChar c, 128 ≤ b.toNat := by
  have hv : ¬ c.val.toNat ≤ 127 := Nat.not_le.2 h
  simp only [String.utf8EncodeChar, if_neg hv]
  split
  · simp
    omega
  split
  · simp
    omega
  · simp
    omega

theorem mem_of_mem_encode {l : List Char} (hx : x.toNat < 128)
    (h : x ∈ l.flatMap String.utf8EncodeChar) : Char.ofNat x.toNat ∈ l := by
  obtain ⟨c, hc, hmem⟩ := List.mem_flatMap.1 h
  by_cases hlt : c.toNat < 128
  · rw [encodeChar_of_lt hlt, List.mem_singleton] at hmem
    have hnat : x.toNat = c.toNat := by
      rw [hmem]
      exact UInt8.toNat_ofNat_of_lt (Nat.lt_trans hlt (by decide))
    rwa [hnat, Char.ofNat_toNat]
  · have hge := (encodeChar_of_ge (Nat.not_lt.1 hlt)).2 x hmem
    omega

structure Decoder where
  decode : List UInt8 → String
  decode_encode : ∀ text, decode (encode text) = text
  decode_ascii : ∀ (x : UInt8) (front back : List UInt8), x.toNat < 128 →
    decode (front ++ x :: back) =
      decode front ++ String.singleton (Char.ofNat x.toNat) ++ decode back
  ascii_mem : ∀ (bytes : List UInt8) (c : Char), c ∈ (decode bytes).toList → c.toNat < 128 →
    UInt8.ofNat c.toNat ∈ bytes

namespace Decoder

variable (D : Decoder)

theorem encode_decode_iff (bytes : List UInt8) :
    encode (D.decode bytes) = bytes ↔ IsEncoding bytes := by
  constructor
  · intro h
    exact ⟨D.decode bytes, h⟩
  · rintro ⟨text, rfl⟩
    rw [D.decode_encode]

/-- A text that is decoded and then cut at an ASCII character is one whose bytes can be cut
first. -/
theorem exists_cut {bytes : List UInt8} (hx : x.toNat < 128)
    (hmem : Char.ofNat x.toNat ∈ (D.decode bytes).toList) :
    ∃ front back, bytes = front ++ x :: back ∧
      Char.ofNat x.toNat ∉ (D.decode front).toList ∧
      D.decode bytes = D.decode front ++ String.singleton (Char.ofNat x.toNat) ++
        D.decode back := by
  have hchar : (Char.ofNat x.toNat).toNat = x.toNat := toNat_ofNat (Or.inl (by omega))
  have hbyte : x ∈ bytes := by
    have h := D.ascii_mem bytes _ hmem (by rwa [hchar])
    rwa [hchar, UInt8.ofNat_toNat] at h
  obtain ⟨front, back, hsplit, hfront⟩ := List.eq_append_cons_of_mem hbyte
  refine ⟨front, back, hsplit, fun hin => hfront ?_, ?_⟩
  · have h := D.ascii_mem front _ hin (by rwa [hchar])
    rwa [hchar, UInt8.ofNat_toNat] at h
  · rw [hsplit, D.decode_ascii x front back hx]

end Decoder

/-! ### The decoder that replaces -/

/-- The value `v` continued by the next `k` bytes, if they all continue a character. -/
def more : Nat → Nat → List UInt8 → Option Nat
  | 0, v, _ => some v
  | _ + 1, _, [] => none
  | k + 1, v, b :: rest => if b.toNat / 64 = 2 then more k (v * 64 + b.toNat % 64) rest else none

/-- The character of `k` more bytes, if it takes that many to encode it. -/
def accept (rest : List UInt8) (k least v : Nat) : Option (Char × Nat) :=
  (more k v rest).bind fun n =>
    if least ≤ n ∧ n.isValidChar then some (Char.ofNat n, k) else none

/-- The character a byte begins, and how many of the bytes after it belong to it. -/
def rune (b : UInt8) (rest : List UInt8) : Option (Char × Nat) :=
  if b.toNat < 128 then some (Char.ofNat b.toNat, 0)
  else if b.toNat / 32 = 6 then accept rest 1 0x80 (b.toNat % 32)
  else if b.toNat / 16 = 14 then accept rest 2 0x800 (b.toNat % 16)
  else if b.toNat / 8 = 30 then accept rest 3 0x10000 (b.toNat % 8)
  else none

/-- Decodes, after the next `skip` bytes. -/
def decodeFrom : Nat → List UInt8 → List Char
  | _, [] => []
  | skip + 1, _ :: rest => decodeFrom skip rest
  | 0, b :: rest =>
    match rune b rest with
    | some (c, k) => c :: decodeFrom k rest
    | none => Char.ofNat 0xFFFD :: decodeFrom 0 rest

theorem decodeFrom_eq_drop (skip : Nat) (bytes : List UInt8) :
    decodeFrom skip bytes = decodeFrom 0 (bytes.drop skip) := by
  induction bytes generalizing skip with
  | nil => cases skip <;> simp [decodeFrom]
  | cons b rest ih =>
    cases skip with
    | zero => rfl
    | succ skip => simpa [decodeFrom] using ih skip

theorem more_append_ascii (hx : x.toNat < 128) (k v : Nat) (front back : List UInt8) :
    more k v (front ++ x :: back) = more k v front := by
  induction front generalizing k v with
  | nil =>
    cases k with
    | zero => rfl
    | succ k =>
      have hno : ¬ x.toNat / 64 = 2 := by omega
      simp [more, hno]
  | cons b rest ih =>
    cases k with
    | zero => rfl
    | succ k => simp [more, ih]

theorem length_of_more {w : Nat} {bytes : List UInt8} (h : more k v bytes = some w) :
    k ≤ bytes.length := by
  induction bytes generalizing k v with
  | nil =>
    cases k with
    | zero => exact Nat.le_refl 0
    | succ k => simp [more] at h
  | cons b rest ih =>
    cases k with
    | zero => exact Nat.zero_le _
    | succ k =>
      simp only [more, Option.ite_none_right_eq_some] at h
      exact Nat.succ_le_succ (ih h.2)

theorem rune_append_ascii (hx : x.toNat < 128) (b : UInt8) (front back : List UInt8) :
    rune b (front ++ x :: back) = rune b front := by
  simp only [rune, accept, more_append_ascii hx]

theorem accept_eq_some {least j : Nat} (hleast : 128 ≤ least)
    (h : accept rest k least v = some (c, j)) : j ≤ rest.length ∧ 128 ≤ c.toNat := by
  obtain ⟨n, hn, hif⟩ := Option.bind_eq_some_iff.1 h
  obtain ⟨⟨hle, hvalid⟩, heq⟩ := Option.ite_none_right_eq_some.1 hif
  obtain ⟨rfl, rfl⟩ := Prod.mk.inj (Option.some.inj heq)
  rw [toNat_ofNat hvalid]
  exact ⟨length_of_more hn, Nat.le_trans hleast hle⟩

/-- A character that a byte begins ends within the bytes, and is an ASCII character only if it
is that byte. -/
theorem rune_eq_some {b : UInt8} (h : rune b rest = some (c, k)) :
    k ≤ rest.length ∧ (c.toNat < 128 → c.toNat = b.toNat) := by
  unfold rune at h
  split at h
  · next hlt =>
      obtain ⟨rfl, rfl⟩ := Prod.mk.inj (Option.some.inj h)
      exact ⟨Nat.zero_le _, fun _ => toNat_ofNat (Or.inl (by omega))⟩
  have hlong : ∀ {j least v : Nat}, 128 ≤ least → accept rest j least v = some (c, k) →
      k ≤ rest.length ∧ (c.toNat < 128 → c.toNat = b.toNat) := fun hleast hsome =>
    ⟨(accept_eq_some hleast hsome).1, fun hlt =>
      absurd hlt (Nat.not_lt.2 (accept_eq_some hleast hsome).2)⟩
  split at h
  · exact hlong (by decide) h
  split at h
  · exact hlong (by decide) h
  split at h
  · exact hlong (by decide) h
  · cases h

theorem decodeFrom_append_ascii (hx : x.toNat < 128) (front back : List UInt8) :
    decodeFrom 0 (front ++ x :: back) =
      decodeFrom 0 front ++ Char.ofNat x.toNat :: decodeFrom 0 back := by
  -- A character may take several bytes, so the induction is on the length.
  induction hn : front.length using Nat.strongRecOn generalizing front with
  | _ n ih =>
    cases front with
    | nil => simp [decodeFrom, rune, hx]
    | cons b rest =>
      subst hn
      rw [List.cons_append, decodeFrom, decodeFrom, rune_append_ascii hx]
      cases hrune : rune b rest with
      | none => simp [ih rest.length (by simp) rest rfl]
      | some ck =>
        obtain ⟨c, k⟩ := ck
        have hk := (rune_eq_some hrune).1
        simp only [decodeFrom_eq_drop k, List.drop_append_of_le_length hk]
        have hless : (rest.drop k).length < (b :: rest).length := by
          rw [List.length_drop, List.length_cons]
          omega
        rw [ih (rest.drop k).length hless (rest.drop k) rfl]
        rfl

theorem ascii_mem_of_decodeFrom (hc : c.toNat < 128) (bytes : List UInt8)
    (h : c ∈ decodeFrom 0 bytes) : UInt8.ofNat c.toNat ∈ bytes := by
  induction hn : bytes.length using Nat.strongRecOn generalizing bytes with
  | _ n ih =>
    cases bytes with
    | nil => simp [decodeFrom] at h
    | cons b rest =>
      subst hn
      rw [decodeFrom] at h
      cases hrune : rune b rest with
      | none =>
        rw [hrune] at h
        rcases List.mem_cons.1 h with rfl | h
        · exact absurd hc (by decide)
        · exact List.mem_cons_of_mem b (ih rest.length (by simp) rest h rfl)
      | some ck =>
        obtain ⟨d, k⟩ := ck
        rw [hrune] at h
        rcases List.mem_cons.1 h with rfl | h
        · rw [(rune_eq_some hrune).2 hc, UInt8.ofNat_toNat]
          exact List.mem_cons_self
        · rw [decodeFrom_eq_drop] at h
          have hless : (rest.drop k).length < (b :: rest).length := by
            rw [List.length_drop, List.length_cons]
            omega
          have hin := ih (rest.drop k).length hless (rest.drop k) h rfl
          exact List.mem_cons_of_mem b (List.mem_of_mem_drop hin)

theorem decodeFrom_cons_of_rune {b : UInt8} (middle : List UInt8)
    (h : rune b (middle ++ rest) = some (c, middle.length)) :
    decodeFrom 0 (b :: middle ++ rest) = c :: decodeFrom 0 rest := by
  rw [List.cons_append, decodeFrom, h]
  simp [decodeFrom_eq_drop middle.length]

theorem toNat_byte (h : n < 256) : (UInt8.ofNat n).toNat = n :=
  UInt8.toNat_ofNat_of_lt h

theorem accept_of_more {least : Nat} (h : more k v rest = some n) (hleast : least ≤ n)
    (hvalid : n.isValidChar) : accept rest k least v = some (Char.ofNat n, k) := by
  rw [accept, h]
  exact if_pos ⟨hleast, hvalid⟩

theorem more_cons (hlow : 128 ≤ n) (hhigh : n < 192) :
    more (k + 1) v (UInt8.ofNat n :: rest) = more k (v * 64 + n % 64) rest := by
  have hnat : (UInt8.ofNat n).toNat = n := toNat_byte (by omega)
  rw [more, hnat, if_pos (by omega)]

theorem rune_two (hlow : 0x80 ≤ n) (hhigh : n ≤ 0x7FF) (rest : List UInt8) :
    rune (UInt8.ofNat (n / 64 % 32 + 192)) (UInt8.ofNat (n % 64 + 128) :: rest) =
      some (Char.ofNat n, 1) := by
  have hnat : (UInt8.ofNat (n / 64 % 32 + 192)).toNat = n / 64 % 32 + 192 :=
    toNat_byte (by omega)
  have hv : (n / 64 % 32 + 192) % 32 * 64 + (n % 64 + 128) % 64 = n := by omega
  have hvalid : n.isValidChar := Or.inl (by omega)
  rw [rune, hnat, if_neg (by omega), if_pos (by omega)]
  refine accept_of_more ?_ hlow hvalid
  rw [more_cons (by omega) (by omega), more, hv]

theorem rune_three (hlow : 0x800 ≤ n) (hhigh : n ≤ 0xFFFF) (hvalid : n.isValidChar)
    (rest : List UInt8) :
    rune (UInt8.ofNat (n / 4096 % 16 + 224))
        (UInt8.ofNat (n / 64 % 64 + 128) :: UInt8.ofNat (n % 64 + 128) :: rest) =
      some (Char.ofNat n, 2) := by
  have hnat : (UInt8.ofNat (n / 4096 % 16 + 224)).toNat = n / 4096 % 16 + 224 :=
    toNat_byte (by omega)
  have hv : ((n / 4096 % 16 + 224) % 16 * 64 + (n / 64 % 64 + 128) % 64) * 64 +
      (n % 64 + 128) % 64 = n := by omega
  rw [rune, hnat, if_neg (by omega), if_neg (by omega), if_pos (by omega)]
  refine accept_of_more ?_ hlow hvalid
  rw [more_cons (by omega) (by omega), more_cons (by omega) (by omega), more, hv]

theorem rune_four (hlow : 0x10000 ≤ n) (hvalid : n.isValidChar) (rest : List UInt8) :
    rune (UInt8.ofNat (n / 262144 % 8 + 240))
        (UInt8.ofNat (n / 4096 % 64 + 128) :: UInt8.ofNat (n / 64 % 64 + 128) ::
          UInt8.ofNat (n % 64 + 128) :: rest) =
      some (Char.ofNat n, 3) := by
  have hhigh : n < 0x110000 := by
    rcases hvalid with h | ⟨-, h⟩ <;> omega
  have hnat : (UInt8.ofNat (n / 262144 % 8 + 240)).toNat = n / 262144 % 8 + 240 :=
    toNat_byte (by omega)
  have hv : (((n / 262144 % 8 + 240) % 8 * 64 + (n / 4096 % 64 + 128) % 64) * 64 +
      (n / 64 % 64 + 128) % 64) * 64 + (n % 64 + 128) % 64 = n := by omega
  rw [rune, hnat, if_neg (by omega), if_neg (by omega), if_neg (by omega), if_pos (by omega)]
  refine accept_of_more ?_ hlow hvalid
  rw [more_cons (by omega) (by omega), more_cons (by omega) (by omega),
    more_cons (by omega) (by omega), more, hv]

theorem decodeFrom_encodeChar (c : Char) (rest : List UInt8) :
    decodeFrom 0 (String.utf8EncodeChar c ++ rest) = c :: decodeFrom 0 rest := by
  have hvalid : c.val.toNat.isValidChar := c.valid
  have hc : Char.ofNat c.val.toNat = c := Char.ofNat_toNat c
  rw [String.utf8EncodeChar]
  split
  · next hle =>
      apply decodeFrom_cons_of_rune []
      have hnat : (UInt8.ofNat c.val.toNat).toNat = c.val.toNat :=
        toNat_byte (by omega)
      rw [rune, hnat, if_pos (by omega), hc]
      rfl
  split
  · apply decodeFrom_cons_of_rune [_]
    exact (rune_two (by omega) (by omega) rest).trans (by rw [hc]; rfl)
  split
  · apply decodeFrom_cons_of_rune [_, _]
    exact (rune_three (by omega) (by omega) hvalid rest).trans (by rw [hc]; rfl)
  · apply decodeFrom_cons_of_rune [_, _, _]
    exact (rune_four (by omega) hvalid rest).trans (by rw [hc]; rfl)

/-- Reads every byte it can make nothing of as U+FFFD. -/
def replacing : Decoder where
  decode bytes := String.ofList (decodeFrom 0 bytes)
  decode_encode text := by
    have h : ∀ l : List Char, decodeFrom 0 (l.flatMap String.utf8EncodeChar) = l := by
      intro l
      induction l with
      | nil => rfl
      | cons c l ih => rw [List.flatMap_cons, decodeFrom_encodeChar, ih]
    rw [encode, h, String.ofList_toList]
  decode_ascii x front back hx := by
    rw [decodeFrom_append_ascii hx]
    simp [String.ext_iff]
  ascii_mem bytes c hmem hc := by
    rw [String.toList_ofList] at hmem
    exact ascii_mem_of_decodeFrom hc bytes hmem

end Utf8

end LibreRoute.Lib
