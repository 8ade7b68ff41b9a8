import LibreRoute.Lib.Utf8

/-!
The Base64 codecs of the Java library: the standard and the URL alphabet,
encoding with and without padding, and a decoder that accepts padding
without requiring it. `decode_encode` is the round trip.
-/

namespace LibreRoute.Lib.Base64

inductive Alphabet
  | standard
  | url
  deriving DecidableEq, Repr

def Alphabet.specials : Alphabet → Char × Char
  | .standard => ('+', '/')
  | .url => ('-', '_')

variable (alphabet : Alphabet)

/-- The character of a digit: upper case, lower case, decimal digits and the specials. -/
def digit (n : Nat) : Char :=
  if n < 26 then Char.ofNat (n + 65)
  else if n < 52 then Char.ofNat (n + 71)
  else if n < 62 then Char.ofNat (n - 4)
  else if n = 62 then alphabet.specials.1
  else alphabet.specials.2

def value (c : Char) : Option Nat :=
  let n := c.toNat
  if 65 ≤ n ∧ n ≤ 90 then some (n - 65)
  else if 97 ≤ n ∧ n ≤ 122 then some (n - 71)
  else if 48 ≤ n ∧ n ≤ 57 then some (n + 4)
  else if c = alphabet.specials.1 then some 62
  else if c = alphabet.specials.2 then some 63
  else none

def encode (padding : Bool) : List UInt8 → List Char
  | [] => []
  | [a] =>
    [digit alphabet (a.toNat / 4), digit alphabet (a.toNat % 4 * 16)] ++
      if padding then ['=', '='] else []
  | [a, b] =>
    [digit alphabet (a.toNat / 4), digit alphabet (a.toNat % 4 * 16 + b.toNat / 16),
      digit alphabet (b.toNat % 16 * 4)] ++ if padding then ['='] else []
  | a :: b :: c :: rest =>
    digit alphabet (a.toNat / 4) :: digit alphabet (a.toNat % 4 * 16 + b.toNat / 16) ::
      digit alphabet (b.toNat % 16 * 4 + c.toNat / 64) :: digit alphabet (c.toNat % 64) ::
      encode padding rest

/-- One byte from two digits; the low bits of the second are dropped. -/
def one (a b : Char) : Option (List UInt8) := do
  let a ← value alphabet a
  let b ← value alphabet b
  return [UInt8.ofNat (a * 4 + b / 16)]

def two (a b c : Char) : Option (List UInt8) := do
  let a ← value alphabet a
  let b ← value alphabet b
  let c ← value alphabet c
  return [UInt8.ofNat (a * 4 + b / 16), UInt8.ofNat (b % 16 * 16 + c / 4)]

def three (a b c d : Char) : Option (List UInt8) := do
  let a ← value alphabet a
  let b ← value alphabet b
  let c ← value alphabet c
  let d ← value alphabet d
  return [UInt8.ofNat (a * 4 + b / 16), UInt8.ofNat (b % 16 * 16 + c / 4),
    UInt8.ofNat (c % 4 * 64 + d)]

def decode : List Char → Option (List UInt8)
  | [] => some []
  | [_] => none
  | [a, b] => one alphabet a b
  | [a, b, c] => two alphabet a b c
  | a :: b :: c :: d :: rest =>
    if d == '=' then
      if !rest.isEmpty then none
      else if c == '=' then one alphabet a b
      else two alphabet a b c
    else do
      let first ← three alphabet a b c d
      let others ← decode rest
      return first ++ others

/-! ### The round trip -/

theorem value_digit {n : Nat} (h : n < 64) : value alphabet (digit alphabet n) = some n := by
  have key : ∀ m : Fin 64, value alphabet (digit alphabet m) = some m.val := by
    cases alphabet <;> decide
  exact key ⟨n, h⟩

theorem digit_ne_padding {n : Nat} (h : n < 64) : (digit alphabet n == '=') = false := by
  have key : ∀ m : Fin 64, (digit alphabet m == '=') = false := by
    cases alphabet <;> decide
  exact key ⟨n, h⟩

theorem ofNat_eq {n : Nat} {a : UInt8} (h : n = a.toNat) : UInt8.ofNat n = a := by
  rw [h, UInt8.ofNat_toNat]

theorem one_digit (a : UInt8) :
    one alphabet (digit alphabet (a.toNat / 4)) (digit alphabet (a.toNat % 4 * 16)) = some [a] := by
  have ha := a.toNat_lt
  have hbyte : UInt8.ofNat (a.toNat / 4 * 4 + a.toNat % 4 * 16 / 16) = a := ofNat_eq (by omega)
  simp (disch := omega) only [one, value_digit, Option.bind_eq_bind, Option.bind_some,
    Option.pure_def, hbyte]

theorem two_digit (a b : UInt8) :
    two alphabet (digit alphabet (a.toNat / 4))
        (digit alphabet (a.toNat % 4 * 16 + b.toNat / 16)) (digit alphabet (b.toNat % 16 * 4)) =
      some [a, b] := by
  have ha := a.toNat_lt
  have hb := b.toNat_lt
  have hbyteA : UInt8.ofNat (a.toNat / 4 * 4 + (a.toNat % 4 * 16 + b.toNat / 16) / 16) = a :=
    ofNat_eq (by omega)
  have hbyteB :
      UInt8.ofNat ((a.toNat % 4 * 16 + b.toNat / 16) % 16 * 16 + b.toNat % 16 * 4 / 4) = b :=
    ofNat_eq (by omega)
  simp (disch := omega) only [two, value_digit, Option.bind_eq_bind, Option.bind_some,
    Option.pure_def, hbyteA, hbyteB]

theorem three_digit (a b c : UInt8) :
    three alphabet (digit alphabet (a.toNat / 4))
        (digit alphabet (a.toNat % 4 * 16 + b.toNat / 16))
        (digit alphabet (b.toNat % 16 * 4 + c.toNat / 64)) (digit alphabet (c.toNat % 64)) =
      some [a, b, c] := by
  have ha := a.toNat_lt
  have hb := b.toNat_lt
  have hc := c.toNat_lt
  have hbyteA : UInt8.ofNat (a.toNat / 4 * 4 + (a.toNat % 4 * 16 + b.toNat / 16) / 16) = a :=
    ofNat_eq (by omega)
  have hbyteB : UInt8.ofNat ((a.toNat % 4 * 16 + b.toNat / 16) % 16 * 16 +
      (b.toNat % 16 * 4 + c.toNat / 64) / 4) = b := ofNat_eq (by omega)
  have hbyteC : UInt8.ofNat ((b.toNat % 16 * 4 + c.toNat / 64) % 4 * 64 + c.toNat % 64) = c :=
    ofNat_eq (by omega)
  simp (disch := omega) only [three, value_digit, Option.bind_eq_bind, Option.bind_some,
    Option.pure_def, hbyteA, hbyteB, hbyteC]

theorem decode_encode (padding : Bool) (bytes : List UInt8) :
    decode alphabet (encode alphabet padding bytes) = some bytes := by
  induction bytes using encode.induct with
  | case1 => rfl
  | case2 a => cases padding <;> simp [encode, decode, one_digit]
  | case3 a b =>
    have hb : (digit alphabet (b.toNat % 16 * 4) == '=') = false :=
      digit_ne_padding alphabet (by omega)
    cases padding <;> simp [encode, decode, two_digit, beq_eq_false_iff_ne.1 hb]
  | case4 a b c rest ih =>
    have hd : (digit alphabet (c.toNat % 64) == '=') = false :=
      digit_ne_padding alphabet (by omega)
    simp [encode, decode, three_digit, ih, beq_eq_false_iff_ne.1 hd]

/-! ### Texts -/

theorem forall_mem_encode {p : Char → Prop} (hp : ∀ n : Fin 64, p (digit alphabet n))
    (bytes : List UInt8) : ∀ c ∈ encode alphabet false bytes, p c := by
  induction bytes using encode.induct with
  | case1 => exact List.forall_mem_nil _
  | case2 a =>
    have ha := a.toNat_lt
    simp only [encode, Bool.false_eq_true, if_false, List.append_nil, List.forall_mem_cons]
    exact ⟨hp ⟨_, by omega⟩, hp ⟨_, by omega⟩, List.forall_mem_nil _⟩
  | case3 a b =>
    have ha := a.toNat_lt
    have hb := b.toNat_lt
    simp only [encode, Bool.false_eq_true, if_false, List.append_nil, List.forall_mem_cons]
    exact ⟨hp ⟨_, by omega⟩, hp ⟨_, by omega⟩, hp ⟨_, by omega⟩, List.forall_mem_nil _⟩
  | case4 a b c rest ih =>
    have ha := a.toNat_lt
    have hb := b.toNat_lt
    have hc := c.toNat_lt
    simp only [encode, List.forall_mem_cons]
    exact ⟨hp ⟨_, by omega⟩, hp ⟨_, by omega⟩, hp ⟨_, by omega⟩, hp ⟨_, by omega⟩, ih⟩

theorem length_encode_le (bytes : List UInt8) :
    3 * (encode alphabet false bytes).length ≤ 4 * bytes.length + 2 := by
  induction bytes using encode.induct with
  | case1 => simp [encode]
  | case2 a => simp [encode]
  | case3 a b => simp [encode]
  | case4 a b c rest ih =>
    simp only [encode, List.length_cons]
    omega

/-- `Base64.getUrlEncoder().withoutPadding().encodeToString(text.toByteArray())`. -/
@[irreducible] def encodeToString (text : String) : String :=
  String.ofList (encode .url false (Utf8.encode text))

theorem toList_encodeToString_ne_nil {text : String} (h : 0 < text.length) :
    (encodeToString text).toList ≠ [] := by
  rw [encodeToString, String.toList_ofList]
  intro hnil
  have hdecoded := decode_encode .url false (Utf8.encode text)
  rw [hnil, decode, Option.some_inj, Utf8.encode, eq_comm, List.flatMap_eq_nil_iff] at hdecoded
  rw [← String.length_toList] at h
  obtain ⟨c, hc⟩ := List.exists_mem_of_length_pos h
  have hsize := String.length_utf8EncodeChar c
  rw [hdecoded c hc] at hsize
  exact absurd hsize (Nat.ne_of_lt c.utf8Size_pos)

theorem length_encodeToString_le {text : String} {m n : Nat} (h : text.length ≤ n)
    (hle : 16 * n < 3 * m) : (encodeToString text).length ≤ m := by
  have hbytes := Utf8.length_encode_le text
  have hdigits := length_encode_le .url (Utf8.encode text)
  rw [String.length_toList] at hbytes
  rw [encodeToString, String.length_ofList]
  omega

end LibreRoute.Lib.Base64
