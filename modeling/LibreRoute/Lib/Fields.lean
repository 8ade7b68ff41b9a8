import LibreRoute.Lib.Stream
import LibreRoute.Lib.Utf8

/-!
The head of a message as a lenient recipient reads it: a line ends at LF,
with or without a CR before it, an empty line ends the head, and the name
of a field is what stands before the first colon, without the white space
before it and without regard to case.

Such a recipient sees more lines than one that ends a line only at CR LF:
`pieces` are the lines it sees in one of those.
-/

namespace LibreRoute.Lib

/-- A line without the CR of its line end. -/
def stripCr (line : List UInt8) : List UInt8 :=
  if line.getLast? = some 13 then line.dropLast else line

@[simp] theorem stripCr_concat (line : List UInt8) : stripCr (line ++ [13]) = line := by
  simp [stripCr]

/-- The lines of a message, each of which ends at LF. -/
def lenientLines (bytes : List UInt8) : List (List UInt8) := (bytes.splitOn 10).map stripCr

/-- The lines in what CR LF ends. -/
def pieces (line : List UInt8) : List (List UInt8) := lenientLines (line ++ [13])

theorem lenientLines_append (line rest : List UInt8) :
    lenientLines (line ++ 13 :: 10 :: rest) = pieces line ++ lenientLines rest := by
  have hsplit : line ++ 13 :: 10 :: rest = (line ++ [13]) ++ 10 :: rest := by simp
  rw [pieces, lenientLines, lenientLines, lenientLines, hsplit, List.splitOn_append_cons_self,
    List.map_append]

theorem lenientLines_flatMap (lines : List (List UInt8)) (rest : List UInt8) :
    lenientLines (lines.flatMap (· ++ [13, 10]) ++ rest) =
      lines.flatMap pieces ++ lenientLines rest := by
  induction lines with
  | nil => rfl
  | cons line lines ih =>
    rw [List.flatMap_cons, List.flatMap_cons, List.append_assoc, List.append_assoc,
      List.append_assoc, ← ih]
    exact lenientLines_append line _

variable {l more : List Char} {line : List UInt8}

theorem pieces_of_not_mem (h : 10 ∉ line) : pieces line = [line] := by
  have hline : 10 ∉ line ++ [13] := by simpa using h
  rw [pieces, lenientLines, List.splitOn_eq_singleton hline]
  simp

/-- The fields of a head: the lines after the first, up to an empty one. -/
def lenientFields (head : List UInt8) : List (List UInt8) :=
  (lenientLines head).tail.takeWhile (!·.isEmpty)

def lowerByte (b : UInt8) : UInt8 := if 65 ≤ b ∧ b ≤ 90 then b + 32 else b

def fieldName (line : List UInt8) : List UInt8 :=
  (((line.takeWhile (· != 58)).reverse.dropWhile fun b => b == 32 || b == 9).reverse).map lowerByte

def isNamed (name line : List UInt8) : Bool := line.contains 58 && fieldName line == name

def fieldValue (line : List UInt8) : List UInt8 := (line.dropWhile (· != 58)).drop 1

/-! ### Lines of text -/

theorem encode_eq_cons {x : UInt8} {rest : List UInt8} (hx : x.toNat < 128)
    (h : l.flatMap String.utf8EncodeChar = x :: rest) :
    ∃ l', l = Char.ofNat x.toNat :: l' ∧ l'.flatMap String.utf8EncodeChar = rest := by
  cases l with
  | nil => cases h
  | cons c l =>
    rw [List.flatMap_cons] at h
    by_cases hc : c.toNat < 128
    · rw [Utf8.encodeChar_of_lt hc] at h
      obtain ⟨hbyte, hrest⟩ := List.cons.inj h
      have hnat : x.toNat = c.toNat := by
        rw [← hbyte]
        exact UInt8.toNat_ofNat_of_lt (Nat.lt_trans hc (by decide))
      exact ⟨l, by rw [hnat, Char.ofNat_toNat], hrest⟩
    · obtain ⟨hlength, hbytes⟩ := Utf8.encodeChar_of_ge (Nat.not_lt.1 hc)
      obtain ⟨y, more, hmore⟩ :=
        List.exists_cons_of_length_pos (Nat.lt_of_lt_of_le Nat.two_pos hlength)
      rw [hmore] at h hbytes
      have hy := hbytes y List.mem_cons_self
      rw [(List.cons.inj h).1] at hy
      omega

theorem isLine_append_of_ge {front : List UInt8} (hfront : ∀ b ∈ front, 128 ≤ b.toNat)
    (h : IsLine line) : IsLine (front ++ line) := by
  induction front with
  | nil => exact h
  | cons b front ih =>
    refine isLine_cons.2 ⟨?_, ih fun c hc => hfront c (List.mem_cons_of_mem b hc)⟩
    rintro ⟨tail, htail⟩
    have hb := hfront b List.mem_cons_self
    rw [← (List.cons.inj htail).1] at hb
    exact absurd hb (by decide)

/-- No CR LF in a text. -/
def IsTextLine (text : List Char) : Prop := ¬ ['\r', '\n'] <:+: text

theorem isTextLine_cons {c : Char} :
    IsTextLine (c :: l) ↔ ¬ ['\r', '\n'] <+: c :: l ∧ IsTextLine l := by
  rw [IsTextLine, IsTextLine, List.infix_cons_iff, not_or]

theorem isTextLine_of_not_mem (h : '\r' ∉ l) : IsTextLine l :=
  fun hinside => h (hinside.subset (by simp))

theorem IsTextLine.of_append (h : IsTextLine (l ++ more)) : IsTextLine l :=
  fun hinside => h (hinside.trans (List.prefix_append l more).isInfix)

theorem IsTextLine.append (h : IsTextLine l) (hmore : IsTextLine more)
    (hhead : more.head? ≠ some '\n') : IsTextLine (l ++ more) := by
  induction l with
  | nil => exact hmore
  | cons c l ih =>
    obtain ⟨hfirst, hl⟩ := isTextLine_cons.1 h
    refine isTextLine_cons.2 ⟨?_, ih hl⟩
    rintro ⟨tail, hwhole⟩
    obtain ⟨rfl, htail⟩ := List.cons.inj hwhole
    -- The LF would be the first character of one part or of the other.
    cases l with
    | nil =>
      apply hhead
      rw [show more = '\n' :: tail from htail.symm]
      rfl
    | cons d l =>
      apply hfirst
      rw [← (List.cons.inj htail).1]
      exact List.prefix_append ['\r', '\n'] l

theorem isTextLine_append_of_not_mem (h : '\r' ∉ l) (hmore : IsTextLine more) :
    IsTextLine (l ++ more) := by
  induction l with
  | nil => exact hmore
  | cons c l ih =>
    rw [List.mem_cons, not_or] at h
    refine isTextLine_cons.2 ⟨?_, ih h.2⟩
    rintro ⟨tail, htail⟩
    exact h.1 (List.cons.inj htail).1

theorem isLine_encode (h : IsTextLine l) : IsLine (l.flatMap String.utf8EncodeChar) := by
  induction l with
  | nil => exact isLine_nil
  | cons c l ih =>
    rw [isTextLine_cons] at h
    have hrest := ih h.2
    by_cases hc : c.toNat < 128
    · rw [List.flatMap_cons, Utf8.encodeChar_of_lt hc]
      refine isLine_cons.2 ⟨?_, hrest⟩
      rintro ⟨tail, htail⟩
      apply h.1
      have hwhole : (c :: l).flatMap String.utf8EncodeChar = 13 :: 10 :: tail := by
        rw [List.flatMap_cons, Utf8.encodeChar_of_lt hc]
        exact htail.symm
      obtain ⟨l₁, hl₁, h₁⟩ := encode_eq_cons (by decide) hwhole
      obtain ⟨l₂, hl₂, -⟩ := encode_eq_cons (by decide) h₁
      rw [hl₁, hl₂]
      exact ⟨l₂, rfl⟩
    · obtain ⟨-, hbytes⟩ := Utf8.encodeChar_of_ge (Nat.not_lt.1 hc)
      rw [List.flatMap_cons]
      exact isLine_append_of_ge hbytes hrest

theorem toNat_latin1 (b : UInt8) : (Char.ofNat b.toNat).toNat = b.toNat :=
  toNat_ofNat (Or.inl (Nat.lt_trans b.toNat_lt (by decide)))

theorem length_le_encode (line : List UInt8) :
    line.length ≤ (Utf8.encode (latin1 line)).length := by
  rw [latin1, Utf8.encode_ofList]
  induction line with
  | nil => exact Nat.le_refl 0
  | cons b line ih =>
    have hpos : 0 < (String.utf8EncodeChar (Char.ofNat b.toNat)).length :=
      List.length_pos_of_ne_nil (String.utf8EncodeChar_ne_nil)
    rw [List.map_cons, List.flatMap_cons, List.length_append, List.length_cons]
    omega

/-- What is read one character a byte and written in UTF-8 is the same only in ASCII. -/
theorem encode_latin1_eq_iff (line : List UInt8) :
    Utf8.encode (latin1 line) = line ↔ ∀ b ∈ line, b.toNat < 128 := by
  induction line with
  | nil => simp [latin1, Utf8.encode]
  | cons b line ih =>
    have hcons : Utf8.encode (latin1 (b :: line)) =
        String.utf8EncodeChar (Char.ofNat b.toNat) ++ Utf8.encode (latin1 line) := by
      simp [latin1, Utf8.encode]
    rw [hcons, List.forall_mem_cons]
    by_cases hb : b.toNat < 128
    · rw [Utf8.encodeChar_of_lt (by rwa [toNat_latin1]), toNat_latin1, UInt8.ofNat_toNat, ← ih]
      simp [hb]
    · have hlong := (Utf8.encodeChar_of_ge (by rw [toNat_latin1]; exact Nat.not_lt.1 hb)).1
      have hrest := length_le_encode line
      constructor
      · intro h
        have hlength := congrArg List.length h
        rw [List.length_append, List.length_cons] at hlength
        omega
      · exact fun h => absurd h.1 hb

theorem isTextLine_latin1 (h : IsLine line) :
    IsTextLine (line.map fun b => Char.ofNat b.toNat) := by
  rintro ⟨front, back, hsplit⟩
  apply h
  obtain ⟨most, back', hline, hmost, -⟩ := List.map_eq_append_iff.1 hsplit.symm
  obtain ⟨front', middle, rfl, -, hmiddle⟩ := List.map_eq_append_iff.1 hmost
  have heq : middle = [13, 10] := by
    have hlength : middle.length = 2 := by simpa using congrArg List.length hmiddle
    obtain ⟨x, y, rfl⟩ := List.length_eq_two.1 hlength
    have hx := congrArg Char.toNat (List.cons.inj hmiddle).1
    have hy := congrArg Char.toNat (List.cons.inj (List.cons.inj hmiddle).2).1
    rw [toNat_latin1] at hx hy
    rw [UInt8.toNat_inj.1 (show x.toNat = (13 : UInt8).toNat from hx),
      UInt8.toNat_inj.1 (show y.toNat = (10 : UInt8).toNat from hy)]
  rw [hline, heq]
  exact ⟨front', back', rfl⟩

theorem isLine_encode_latin1 (h : IsLine line) : IsLine (Utf8.encode (latin1 line)) := by
  rw [latin1, Utf8.encode_ofList]
  exact isLine_encode (isTextLine_latin1 h)

end LibreRoute.Lib
