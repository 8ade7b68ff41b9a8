import LibreRoute.Lib.Kotlin
import LibreRoute.Lib.Utf8
import Mathlib.Data.List.Count
import Mathlib.Data.List.Flatten
import Mathlib.Data.List.Forall2

/-!
Texts written one behind the other, and what it takes to tell them apart
again: a separator that none of them holds more often than expected, or the
length of each text in front of it.
-/

namespace LibreRoute.Lib

/-- The cut at a separator is known by how many separators come before it. -/
theorem append_cons_inj_of_count {α : Type} [BEq α] [LawfulBEq α] {c : α} {a a' b b' : List α}
    (h : a ++ c :: b = a' ++ c :: b') (hcount : a.count c = a'.count c) : a = a' ∧ b = b' := by
  induction a generalizing a' with
  | nil =>
    cases a' with
    | nil => exact ⟨rfl, (List.cons.inj h).2⟩
    | cons x a' =>
      obtain ⟨rfl, -⟩ := List.cons.inj h
      simp at hcount
  | cons x a ih =>
    cases a' with
    | nil =>
      obtain ⟨rfl, -⟩ := List.cons.inj h
      simp at hcount
    | cons x' a' =>
      obtain ⟨rfl, hrest⟩ := List.cons.inj h
      obtain ⟨rfl, rfl⟩ := ih hrest (by simpa [List.count_cons] using hcount)
      exact ⟨rfl, rfl⟩

/-- Texts joined by a separator are known by how often each of them holds it; the last one may
hold it freely. -/
theorem intercalate_inj {α : Type} [BEq α] [LawfulBEq α] {c : α} {l l' : List (List α)}
    (hlength : l.length = l'.length)
    (hcount : l.dropLast.map (List.count c) = l'.dropLast.map (List.count c))
    (h : [c].intercalate l = [c].intercalate l') : l = l' := by
  induction l generalizing l' with
  | nil => exact (List.length_eq_zero_iff.1 hlength.symm).symm
  | cons a l ih =>
    cases l' with
    | nil => simp at hlength
    | cons a' l' =>
      cases l with
      | nil =>
        obtain rfl : l' = [] := by simpa using hlength.symm
        simpa using h
      | cons b l =>
        cases l' with
        | nil => simp at hlength
        | cons b' l' =>
          simp only [List.dropLast_cons_cons, List.map_cons, List.cons.injEq] at hcount
          rw [List.intercalate_cons_cons, List.intercalate_cons_cons] at h
          simp only [List.append_assoc, List.singleton_append] at h
          obtain ⟨rfl, hrest⟩ := append_cons_inj_of_count h hcount.1
          rw [ih (by simpa using hlength) hcount.2 hrest]

theorem mem_natRepr {n : Nat} {c : Char} (h : c ∈ n.repr.toList) : c.isDigit = true := by
  rw [Nat.toList_repr] at h
  exact Nat.isDigit_of_mem_toDigits (by decide) (by decide) h

theorem mem_intRepr {n : Int} {c : Char} (h : c ∈ (toString n).toList) :
    c = '-' ∨ c.isDigit = true := by
  rw [Int.toString_eq_repr, Int.repr_eq_if] at h
  split at h
  · exact Or.inr (mem_natRepr h)
  · rw [String.toList_append, List.mem_append] at h
    rcases h with h | h
    · exact Or.inl (List.mem_singleton.1 h)
    · exact Or.inr (mem_natRepr h)

theorem intRepr_injective {m n : Int} (h : toString m = toString n) : m = n := by
  have hrepr : ∀ k : Int, toString k = longText k := fun k => by cases k <;> rfl
  rw [hrepr, hrepr] at h
  exact longText_injective h

theorem Utf8.encode_injective : Function.Injective Utf8.encode :=
  Function.LeftInverse.injective Utf8.replacing.decode_encode

/-- The number of bytes of a text in decimal, a colon and the bytes. -/
def token (text : String) : List UInt8 :=
  Utf8.encode (toString (Utf8.encode text).length ++ ":") ++ Utf8.encode text

theorem colon_notMem_encode_repr (n : Nat) : (58 : UInt8) ∉ Utf8.encode (toString n) := by
  intro h
  have hdigit := mem_natRepr (Utf8.mem_of_mem_encode (by decide) h)
  exact absurd hdigit (by decide)

theorem token_append_inj {s t : String} {x y : List UInt8} (h : token s ++ x = token t ++ y) :
    s = t ∧ x = y := by
  have hcolon : Utf8.encode ":" = [58] := by decide
  simp only [token, Utf8.encode_append, hcolon, List.append_assoc, List.singleton_append] at h
  have hcount : ∀ n : Nat, (Utf8.encode (toString n)).count 58 = 0 := fun n =>
    List.count_eq_zero.2 (colon_notMem_encode_repr n)
  obtain ⟨hsize, hrest⟩ := append_cons_inj_of_count h (by rw [hcount, hcount])
  have hlength := natRepr_injective (Utf8.encode_injective hsize)
  obtain ⟨htext, hrest⟩ := List.append_inj hrest hlength
  exact ⟨Utf8.encode_injective htext, hrest⟩

section Records

variable {α : Type} {f : α → List UInt8} {R : α → α → Prop} {l l' : List α}

/-- As many records are told apart if each of them can be cut off the text that begins with
it. -/
theorem flatMap_append_inj (hlength : l.length = l'.length)
    (h : ∀ a ∈ l, ∀ b ∈ l', ∀ x y, f a ++ x = f b ++ y → R a b ∧ x = y) {x y : List UInt8}
    (htext : l.flatMap f ++ x = l'.flatMap f ++ y) : List.Forall₂ R l l' ∧ x = y := by
  induction l generalizing l' with
  | nil =>
    obtain rfl : l' = [] := by simpa using hlength.symm
    exact ⟨.nil, htext⟩
  | cons a l ih =>
    cases l' with
    | nil => simp at hlength
    | cons b l' =>
      rw [List.flatMap_cons, List.flatMap_cons, List.append_assoc, List.append_assoc] at htext
      obtain ⟨hhead, hrest⟩ := h a List.mem_cons_self b List.mem_cons_self _ _ htext
      obtain ⟨htail, hend⟩ := ih (by simpa using hlength) (fun c hc d hd =>
        h c (List.mem_cons_of_mem a hc) d (List.mem_cons_of_mem b hd)) hrest
      exact ⟨.cons hhead htail, hend⟩

theorem flatMap_eq_of_forall₂ (h : List.Forall₂ R l l')
    (hf : ∀ a ∈ l, ∀ b ∈ l', R a b → f a = f b) : l.flatMap f = l'.flatMap f := by
  induction h with
  | nil => rfl
  | @cons a b l l' hab _ ih =>
    rw [List.flatMap_cons, List.flatMap_cons, hf a List.mem_cons_self b List.mem_cons_self hab,
      ih fun c hc d hd => hf c (List.mem_cons_of_mem a hc) d (List.mem_cons_of_mem b hd)]

end Records

end LibreRoute.Lib
