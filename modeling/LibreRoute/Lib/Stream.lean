import Mathlib.Data.List.Basic
import Mathlib.Data.List.Infix

/-!
Reading from a stream of bytes that ends, or breaks off with an error.

A `Reading` is a program that takes bytes from the front of a stream. The
rules say of a reading that returned which bytes it has taken. `cutLine`
cuts a line off at the first CR LF; it is what a reader that goes on byte
by byte and looks at two bytes at a time finds in the end.
-/

namespace LibreRoute.Lib

/-- The bytes that are still to come, and what a read beyond them meets: the end of the
stream, or an error. -/
structure Stream (ε : Type) where
  bytes : List UInt8
  broken : Option ε

/-- Bytes after a byte that says how many they are. -/
def sized (bytes : List UInt8) : List UInt8 := UInt8.ofNat bytes.length :: bytes

theorem sized_append_inj {a b x y : List UInt8} (ha : a.length < 256) (hb : b.length < 256)
    (h : sized a ++ x = sized b ++ y) : a = b ∧ x = y := by
  obtain ⟨hlength, happend⟩ := List.cons.inj h
  have hnat : a.length = b.length := by
    have ha' : (UInt8.ofNat a.length).toNat = a.length := UInt8.toNat_ofNat_of_lt ha
    have hb' : (UInt8.ofNat b.length).toNat = b.length := UInt8.toNat_ofNat_of_lt hb
    rw [← ha', hlength, hb']
  exact List.append_inj happend hnat

abbrev Reading (ε α : Type) := StateT (Stream ε) (Except ε) α

variable {line rest bytes : List UInt8} {b : UInt8}

namespace Reading

variable {ε α β : Type} {s t : Stream ε}

/-- The next byte, or `-1` at the end. -/
def read : Reading ε Int := fun s =>
  match s.bytes with
  | b :: rest => .ok (b.toNat, { s with bytes := rest })
  | [] =>
    match s.broken with
    | none => .ok (-1, s)
    | some e => .error e

/-- The next `n` bytes; `eof` is thrown if the stream ends before. -/
def readFully (eof : ε) (n : Nat) : Reading ε (List UInt8) := fun s =>
  if n ≤ s.bytes.length then .ok (s.bytes.take n, { s with bytes := s.bytes.drop n })
  else .error (s.broken.getD eof)

theorem run_bind_eq_ok {m : Reading ε α} {k : α → Reading ε β} {b : β} :
    (m >>= k).run s = .ok (b, t) ↔ ∃ a u, m.run s = .ok (a, u) ∧ (k a).run u = .ok (b, t) := by
  rw [StateT.run_bind]
  rcases m.run s with e | ⟨a, u⟩
  · constructor
    · intro h
      cases h
    · rintro ⟨a, u, h, -⟩
      cases h
  · constructor
    · intro h
      exact ⟨a, u, rfl, h⟩
    · rintro ⟨a, u, h, hk⟩
      cases h
      exact hk

theorem run_pure_eq_ok {a b : α} : (pure a : Reading ε α).run s = .ok (b, t) ↔ a = b ∧ s = t := by
  rw [StateT.run_pure]
  constructor
  · intro h
    cases h
    exact ⟨rfl, rfl⟩
  · rintro ⟨rfl, rfl⟩
    rfl

@[simp] theorem run_read_cons (b : UInt8) (rest : List UInt8) (broken : Option ε) :
    (read : Reading ε Int).run ⟨b :: rest, broken⟩ = .ok ((b.toNat : Int), ⟨rest, broken⟩) := rfl

theorem run_read_eq_ok {v : Int} (h : (read : Reading ε Int).run s = .ok (v, t)) :
    (∃ b, v = (b.toNat : Int) ∧ s = ⟨b :: t.bytes, t.broken⟩) ∨
      (v = -1 ∧ s = ⟨[], none⟩ ∧ t = s) := by
  obtain ⟨bytes, broken⟩ := s
  cases bytes with
  | cons b rest =>
    cases h
    exact Or.inl ⟨b, rfl, rfl⟩
  | nil =>
    cases broken with
    | none =>
      cases h
      exact Or.inr ⟨rfl, rfl, rfl⟩
    | some e => cases h

theorem run_read_eq_byte {n : Nat} (h : (read : Reading ε Int).run s = .ok ((n : Int), t)) :
    n < 256 ∧ s = ⟨UInt8.ofNat n :: t.bytes, t.broken⟩ := by
  rcases run_read_eq_ok h with ⟨b, hb, rfl⟩ | ⟨hv, -⟩
  · obtain rfl : n = b.toNat := by exact_mod_cast hb
    exact ⟨b.toNat_lt, by rw [UInt8.ofNat_toNat]⟩
  · omega

theorem run_readFully_eq_ok {eof : ε} {n : Nat} (h : (readFully eof n).run s = .ok (bytes, t)) :
    bytes.length = n ∧ s = ⟨bytes ++ t.bytes, t.broken⟩ := by
  rw [StateT.run, readFully] at h
  split at h
  · next hle =>
      cases h
      exact ⟨by simp [hle], by simp⟩
  · cases h

@[simp] theorem run_readFully_append (eof : ε) (bytes rest : List UInt8) (broken : Option ε) :
    (readFully eof bytes.length).run ⟨bytes ++ rest, broken⟩ = .ok (bytes, ⟨rest, broken⟩) := by
  rw [StateT.run, readFully, if_pos (by simp)]
  simp

theorem run_sized_eq_ok {eof : ε} {n : Int} {u : Stream ε}
    (hn : (read : Reading ε Int).run s = .ok (n, u)) (hpos : 0 ≤ n)
    (hbytes : (readFully eof n.toNat).run u = .ok (bytes, t)) :
    n = (bytes.length : Int) ∧ bytes.length < 256 ∧ s = ⟨sized bytes ++ t.bytes, t.broken⟩ := by
  obtain ⟨hlength, rfl⟩ := run_readFully_eq_ok hbytes
  have hnat : n = (bytes.length : Int) := by omega
  rw [hnat] at hn
  obtain ⟨hlt, rfl⟩ := run_read_eq_byte hn
  exact ⟨hnat, hlt, rfl⟩

theorem run_read_sized (h : bytes.length < 256) (rest : List UInt8) (broken : Option ε) :
    (read : Reading ε Int).run ⟨sized bytes ++ rest, broken⟩ =
      .ok ((bytes.length : Int), ⟨bytes ++ rest, broken⟩) := by
  have hnat : (UInt8.ofNat bytes.length).toNat = bytes.length := UInt8.toNat_ofNat_of_lt h
  rw [sized, List.cons_append, run_read_cons, hnat]

end Reading

/-! ### Lines -/

def IsLine (line : List UInt8) : Prop := ¬ [13, 10] <:+: line

theorem isLine_nil : IsLine [] := by
  intro h
  cases List.eq_nil_of_infix_nil h

theorem isLine_cons : IsLine (b :: line) ↔ ¬ [13, 10] <+: b :: line ∧ IsLine line := by
  rw [IsLine, IsLine, List.infix_cons_iff, not_or]

/-- The first line and, if a CR LF ends it, what comes after. -/
def cutLine : List UInt8 → List UInt8 × Option (List UInt8)
  | [] => ([], none)
  | 13 :: 10 :: rest => ([], some rest)
  | b :: rest => (b :: (cutLine rest).1, (cutLine rest).2)

theorem cutLine_cons (h : ¬ [13, 10] <+: b :: rest) :
    cutLine (b :: rest) = (b :: (cutLine rest).1, (cutLine rest).2) := by
  rw [cutLine.eq_3]
  rintro tail rfl rfl
  exact h (List.prefix_append [13, 10] tail)

theorem cutLine_append (h : IsLine line) (rest : List UInt8) :
    cutLine (line ++ 13 :: 10 :: rest) = (line, some rest) := by
  induction line with
  | nil => rfl
  | cons b line ih =>
    obtain ⟨hfirst, hline⟩ := isLine_cons.1 h
    rw [List.cons_append, cutLine_cons, ih hline]
    -- A CR LF at the front would lie in the line, or its LF would be the CR that ends it.
    rintro ⟨tail, htail⟩
    cases line with
    | nil => simp at htail
    | cons c line =>
      apply hfirst
      simp only [List.cons_append, List.nil_append, List.cons.injEq] at htail
      obtain ⟨rfl, rfl, -⟩ := htail
      exact List.prefix_append [13, 10] line

theorem cutLine_of_isLine (h : IsLine line) : cutLine line = (line, none) := by
  induction line with
  | nil => rfl
  | cons b line ih =>
    obtain ⟨hfirst, hline⟩ := isLine_cons.1 h
    rw [cutLine_cons hfirst, ih hline]

theorem cutLine_spec (bytes : List UInt8) :
    IsLine (cutLine bytes).1 ∧
      bytes = (cutLine bytes).1 ++ ((cutLine bytes).2.elim [] fun rest => 13 :: 10 :: rest) := by
  fun_induction cutLine bytes with
  | case1 => exact ⟨isLine_nil, rfl⟩
  | case2 rest => exact ⟨isLine_nil, rfl⟩
  | case3 b rest hne ih =>
    refine ⟨isLine_cons.2 ⟨?_, ih.1⟩, ?_⟩
    · rintro ⟨tail, htail⟩
      have hrest := ih.2
      simp only [List.cons_append, List.nil_append, List.cons.injEq] at htail
      obtain ⟨rfl, htail⟩ := htail
      rw [← htail] at hrest
      exact hne _ rfl hrest
    · exact congrArg (b :: ·) ih.2

theorem cutLine_eq_some (h : cutLine bytes = (line, some rest)) :
    IsLine line ∧ bytes = line ++ 13 :: 10 :: rest := by
  have hspec := cutLine_spec bytes
  rwa [h] at hspec

theorem cutLine_eq_none (h : cutLine bytes = (line, none)) : IsLine line ∧ bytes = line := by
  have hspec := cutLine_spec bytes
  rw [h] at hspec
  exact ⟨hspec.1, by simpa using hspec.2⟩

theorem length_cutLine (h : cutLine bytes = (line, some rest)) : rest.length < bytes.length := by
  rw [(cutLine_eq_some h).2]
  simp
  omega

/-- The lines up to an empty one, or to the end. -/
def headLines (bytes : List UInt8) : List (List UInt8) :=
  match _h : cutLine bytes with
  | ([], _) => []
  | (b :: line, none) => [b :: line]
  | (b :: line, some rest) => (b :: line) :: headLines rest
termination_by bytes.length
decreasing_by exact length_cutLine _h

/-- There is an empty line among them, and not just the end. -/
def headEnds (bytes : List UInt8) : Bool :=
  match _h : cutLine bytes with
  | (_, none) => false
  | ([], some _) => true
  | (_ :: _, some rest) => headEnds rest
termination_by bytes.length
decreasing_by exact length_cutLine _h

theorem headLines_of_nil {rest : Option (List UInt8)} (h : cutLine bytes = ([], rest)) :
    headLines bytes = [] := by
  rw [headLines]
  split <;> simp_all

theorem headLines_of_none (h : cutLine bytes = (b :: line, none)) :
    headLines bytes = [b :: line] := by
  rw [headLines]
  split <;> simp_all

theorem headLines_of_some (h : cutLine bytes = (b :: line, some rest)) :
    headLines bytes = (b :: line) :: headLines rest := by
  rw [headLines]
  split <;> simp_all

theorem headEnds_of_none (h : cutLine bytes = (line, none)) : headEnds bytes = false := by
  rw [headEnds]
  split <;> simp_all

theorem headEnds_of_nil (h : cutLine bytes = ([], some rest)) : headEnds bytes = true := by
  rw [headEnds]
  split <;> simp_all

theorem headEnds_of_some (h : cutLine bytes = (b :: line, some rest)) :
    headEnds bytes = headEnds rest := by
  rw [headEnds]
  split <;> simp_all

def fieldLines (bytes : List UInt8) : List (List UInt8) := headLines ((cutLine bytes).2.getD [])

/-! An empty line shows in the bytes as two CR LF in a row. -/

theorem not_crlf_prefix_of_isLine (h : IsLine (b :: line)) (rest : List UInt8) :
    ¬ [13, 10] <+: b :: line ++ 13 :: 10 :: rest := by
  rintro ⟨tail, htail⟩
  have hcut := cutLine_append h rest
  rw [← htail] at hcut
  cases hcut

theorem blank_inside_append_iff (h : IsLine line) (rest : List UInt8) :
    [13, 10, 13, 10] <:+: line ++ 13 :: 10 :: rest ↔
      [13, 10] <+: rest ∨ [13, 10, 13, 10] <:+: rest := by
  induction line with
  | nil =>
    have hten : ¬ [13, 10, 13, 10] <+: (10 : UInt8) :: rest := by
      rintro ⟨tail, htail⟩
      cases htail
    rw [List.nil_append, List.infix_cons_iff, List.infix_cons_iff]
    simp only [List.cons_prefix_cons, true_and]
    tauto
  | cons b line ih =>
    have hfirst : ¬ [13, 10, 13, 10] <+: b :: line ++ 13 :: 10 :: rest := fun hprefix =>
      not_crlf_prefix_of_isLine h rest ((List.prefix_append [13, 10] [13, 10]).trans hprefix)
    rw [List.cons_append] at hfirst ⊢
    rw [List.infix_cons_iff, ih (isLine_cons.1 h).2]
    tauto

theorem headEnds_iff (bytes : List UInt8) :
    headEnds bytes = true ↔ [13, 10] <+: bytes ∨ [13, 10, 13, 10] <:+: bytes := by
  induction hn : bytes.length using Nat.strongRecOn generalizing bytes with
  | _ n ih =>
    subst hn
    rcases hcut : cutLine bytes with ⟨line, _ | rest⟩
    · obtain ⟨hline, rfl⟩ := cutLine_eq_none hcut
      have hblank : ¬ [13, 10, 13, 10] <:+: bytes := fun hinside =>
        hline ((List.prefix_append [13, 10] [13, 10]).isInfix.trans hinside)
      have hfirst : ¬ [13, 10] <+: bytes := fun hprefix => hline hprefix.isInfix
      simp [headEnds_of_none hcut, hblank, hfirst]
    · obtain ⟨hline, rfl⟩ := cutLine_eq_some hcut
      cases line with
      | nil =>
        rw [headEnds_of_nil hcut]
        simp
      | cons b line =>
        have hfirst := not_crlf_prefix_of_isLine hline rest
        rw [headEnds_of_some hcut, ih rest.length (length_cutLine hcut) rest rfl,
          blank_inside_append_iff hline]
        tauto

end LibreRoute.Lib
