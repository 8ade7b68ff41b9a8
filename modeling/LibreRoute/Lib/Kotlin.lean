import Mathlib.Algebra.Order.Ring.Nat
import Mathlib.Data.List.Basic
import Mathlib.Data.List.Forall2
import Mathlib.Data.List.Infix

/-!
The pieces of the Kotlin standard library the models below are written
with: blank and trimmed text, comparison without case, cutting a text at
a character, and the `OrNull` selections of a list. Text is compared
character by character, as the JVM compares it.
-/

namespace LibreRoute.Lib

/-- `Long` arithmetic. -/
def long (n : Int) : Int := n.bmod (2 ^ 64)

/-- `Char.isWhitespace()`: the space separators of Unicode and the control
characters Java counts as white space. -/
def isWhitespace (c : Char) : Bool :=
  let n := c.toNat
  (0x09 ≤ n && n ≤ 0x0D) || (0x1C ≤ n && n ≤ 0x20) || n == 0xA0 || n == 0x1680 ||
    (0x2000 ≤ n && n ≤ 0x200A) || n == 0x2028 || n == 0x2029 || n == 0x202F ||
    n == 0x205F || n == 0x3000

def isBlank (s : String) : Bool := s.toList.all isWhitespace

/-- A literal is blank if its characters are: this is how a text is evaluated. -/
theorem isBlank_ofList (l : List Char) : isBlank (String.ofList l) = l.all isWhitespace := by
  rw [isBlank, String.toList_ofList]

def isNullOrBlank : Option String → Bool
  | none => true
  | some s => isBlank s

@[simp] theorem isNullOrBlank_none : isNullOrBlank none = true := rfl

@[simp] theorem isNullOrBlank_some (s : String) : isNullOrBlank (some s) = isBlank s := rfl

def trim (s : String) : String :=
  String.ofList (((s.toList.dropWhile isWhitespace).reverse.dropWhile isWhitespace).reverse)

variable {α β ε : Type} {s : String} {c : Char}

theorem dropWhile_of_head {p : α → Bool} {l : List α} (h : ∀ a ∈ l.head?, p a = false) :
    l.dropWhile p = l := by
  cases l with
  | nil => rfl
  | cons a l => exact List.dropWhile_cons_of_neg (by simp [h a rfl])

theorem trim_of_ends (hfirst : ∀ c ∈ s.toList.head?, isWhitespace c = false)
    (hlast : ∀ c ∈ s.toList.getLast?, isWhitespace c = false) : trim s = s := by
  have hreverse : ∀ c ∈ s.toList.reverse.head?, isWhitespace c = false := by
    rwa [List.head?_reverse]
  rw [trim, dropWhile_of_head hfirst, dropWhile_of_head hreverse, List.reverse_reverse,
    String.ofList_toList]

theorem trim_of_any_ends (hfirst : s.toList.head?.any isWhitespace = false)
    (hlast : s.toList.getLast?.any isWhitespace = false) : trim s = s := by
  apply trim_of_ends
  · intro c hc
    rwa [Option.mem_def.1 hc] at hfirst
  · intro c hc
    rwa [Option.mem_def.1 hc] at hlast

theorem head?_dropWhile_eq_false {α : Type} {p : α → Bool} {l : List α} {a : α}
    (h : a ∈ (l.dropWhile p).head?) : p a = false := by
  have hhead := List.head?_dropWhile_not p l
  rw [Option.mem_def.1 h] at hhead
  simpa using hhead

@[simp] theorem trim_trim (s : String) : trim (trim s) = trim s := by
  have htrim : (trim s).toList =
      ((s.toList.dropWhile isWhitespace).reverse.dropWhile isWhitespace).reverse :=
    String.toList_ofList
  refine trim_of_ends (fun c hc => ?_) fun c hc => ?_
  · rw [htrim] at hc
    obtain ⟨back, hback⟩ := List.dropWhile_suffix (l := (s.toList.dropWhile
      isWhitespace).reverse) isWhitespace
    have hfront := congrArg List.reverse hback
    rw [List.reverse_append, List.reverse_reverse] at hfront
    refine head?_dropWhile_eq_false (p := isWhitespace) (l := s.toList) ?_
    rw [← hfront, List.head?_append, Option.mem_def.1 hc]
    rfl
  · rw [htrim, List.getLast?_reverse] at hc
    exact head?_dropWhile_eq_false hc

/-- The letter a character stands for when case is ignored: Java compares the
lower case of the upper case, which also identifies four letters outside ASCII
with ASCII ones. -/
def foldCase (c : Char) : Char :=
  if c == 'ı' || c == 'İ' then 'i'
  else if c == 'ſ' then 's'
  else if c.toNat == 0x212A then 'k'
  else c.toLower

theorem foldCase_eq_dash (h : foldCase c = '-') : c = '-' := by
  unfold foldCase at h
  split at h
  · exact absurd h (by decide)
  split at h
  · exact absurd h (by decide)
  split at h
  · exact absurd h (by decide)
  unfold Char.toLower at h
  split at h
  · next hupper =>
      have hlow : 65 ≤ c.val.toNat := UInt32.le_iff_toNat_le.1 hupper.1
      have hhigh : c.val.toNat ≤ 90 := UInt32.le_iff_toNat_le.1 hupper.2
      have hval : (c.val + 32).toNat = 45 := congrArg (fun c : Char => c.val.toNat) h
      rw [UInt32.toNat_add] at hval
      have h32 : (32 : UInt32).toNat = 32 := rfl
      omega
  · exact h

/-- `String.equals(other, ignoreCase = true)`. -/
def equalsIgnoreCase (s t : String) : Bool := s.toList.map foldCase == t.toList.map foldCase

def startsWithIgnoreCase (s start : String) : Bool :=
  (start.toList.map foldCase).isPrefixOf (s.toList.map foldCase)

/-- `String.uppercase(Locale.ROOT)`, on the letters whose upper case is an ASCII
letter; the others are never part of a name that is looked up. -/
def uppercase (s : String) : String :=
  String.ofList (s.toList.map fun c => if c == 'ı' then 'I' else c.toUpper)

/-- `String.lowercase()`, on the letters whose lower case is an ASCII letter. -/
def lowercase (s : String) : String :=
  String.ofList (s.toList.map fun c => if c.toNat == 0x212A then 'k' else c.toLower)

def startsWith (s start : String) : Bool := start.toList.isPrefixOf s.toList

def endsWith (s ending : String) : Bool := ending.toList.isSuffixOf s.toList

def contains (s part : String) : Bool :=
  s.toList.tails.any fun rest => part.toList.isPrefixOf rest

theorem contains_singleton (s : String) (c : Char) :
    contains s (String.singleton c) = s.toList.contains c := by
  have hpart : (String.singleton c).toList = [c] := by simp
  rw [contains, hpart]
  induction s.toList with
  | nil => rfl
  | cons a l ih => simp [List.isPrefixOf, ih, Bool.beq_eq_decide_eq]

def containsIgnoreCase (s part : String) : Bool :=
  (s.toList.map foldCase).tails.any fun rest => (part.toList.map foldCase).isPrefixOf rest

theorem containsIgnoreCase_of_missing {part : String} (hpart : c ∈ part.toList.map foldCase)
    (hs : c ∉ s.toList.map foldCase) : containsIgnoreCase s part = false := by
  apply Bool.eq_false_iff.2
  intro h
  obtain ⟨rest, hrest, hprefix⟩ := List.any_eq_true.1 h
  apply hs
  apply ((List.mem_tails _ _).1 hrest).subset
  exact (List.isPrefixOf_iff_prefix.1 hprefix).subset hpart

def substringBefore (s : String) (c : Char) : String := String.ofList (s.toList.takeWhile (· != c))

/-- `String.substringAfter(c)`: the whole text if it does not have the character. -/
def substringAfter (s : String) (c : Char) : String :=
  match s.toList.dropWhile (· != c) with
  | [] => s
  | _ :: rest => String.ofList rest

theorem substringBefore_append (h : c ∉ s.toList) (t : String) :
    substringBefore (s ++ String.singleton c ++ t) c = s := by
  have hall : ∀ a ∈ s.toList, (a != c) = true := fun a ha => by
    simpa using fun hac : a = c => h (hac ▸ ha)
  rw [substringBefore]
  simp [List.takeWhile_append_of_pos hall]

theorem substringAfter_append (h : c ∉ s.toList) (t : String) :
    substringAfter (s ++ String.singleton c ++ t) c = t := by
  have hall : ∀ a ∈ s.toList, (a != c) = true := fun a ha => by
    simpa using fun hac : a = c => h (hac ▸ ha)
  rw [substringAfter]
  simp [List.dropWhile_append_of_pos hall]

def removePrefix (s start : String) : String :=
  if startsWith s start then String.ofList (s.toList.drop start.toList.length) else s

theorem startsWith_append (start s : String) : startsWith (start ++ s) start = true := by
  simp [startsWith]

theorem startsWithIgnoreCase_append (start s : String) :
    startsWithIgnoreCase (start ++ s) start = true := by
  simp [startsWithIgnoreCase]

theorem removePrefix_append (start s : String) : removePrefix (start ++ s) start = s := by
  simp [removePrefix, startsWith_append]

def split (s : String) (c : Char) : List String := (s.toList.splitOn c).map String.ofList

/-- What the expression `\s` matches. -/
def isRegexSpace (c : Char) : Bool := (0x09 ≤ c.toNat && c.toNat ≤ 0x0D) || c == ' '

/-- `String.split(Regex("\\s+"))`: the pieces between runs of white space. A run at an end of
the text has an empty piece beyond it. -/
def splitSpaces (s : String) : List String :=
  match s.toList.splitOnP isRegexSpace with
  | [] => []
  | first :: rest =>
    match rest.getLast? with
    | none => [String.ofList first]
    | some last => (first :: rest.dropLast.filter (! ·.isEmpty) ++ [last]).map String.ofList

/-- `String.trim(chars)`. -/
def trimChars (s : String) (chars : List Char) : String :=
  String.ofList (((s.toList.dropWhile chars.contains).reverse.dropWhile chars.contains).reverse)

/-- `String.replace(old, new)`, for a character that is replaced by a text. -/
def replaceChar (s : String) (old : Char) (new : String) : String :=
  String.ofList (s.toList.flatMap fun c => if c == old then new.toList else [c])

def joinToString (l : List String) (separator : String) : String :=
  String.ofList (separator.toList.intercalate (l.map String.toList))

/-- `String.length`: a character outside the basic plane counts as two. -/
def length (s : String) : Nat := (s.toList.map fun c => if c.toNat < 0x10000 then 1 else 2).sum

theorem length_le (s : String) : length s ≤ 2 * s.toList.length := by
  rw [length]
  induction s.toList with
  | nil => exact Nat.le_refl 0
  | cons a l ih =>
    simp only [List.map_cons, List.sum_cons, List.length_cons]
    split <;> omega

/-- `Long.toString()`. -/
def longText : Int → String
  | .ofNat n => n.repr
  | .negSucc n => "-" ++ (n + 1).repr

theorem natRepr_injective : Function.Injective Nat.repr := by
  intro m n h
  have hdigits : Nat.toDigits 10 m = Nat.toDigits 10 n := by
    rw [← Nat.toList_repr, ← Nat.toList_repr, h]
  rw [← Nat.ofDigitChars_ten_toDigits (n := m), hdigits, Nat.ofDigitChars_ten_toDigits]

theorem natRepr_ne_minus (m : Nat) (s : String) : m.repr ≠ "-" ++ s := by
  intro h
  have hmem : '-' ∈ Nat.toDigits 10 m := by simp [← Nat.toList_repr, h]
  exact absurd (Nat.isDigit_of_mem_toDigits (by decide) (by decide) hmem) (by decide)

theorem longText_injective : Function.Injective longText := by
  intro a b h
  rcases a with m | m <;> rcases b with n | n
  · rw [natRepr_injective h]
  · exact absurd h (natRepr_ne_minus _ _)
  · exact absurd h.symm (natRepr_ne_minus _ _)
  · have hsucc := natRepr_injective ((String.append_right_inj _).1 h)
    rw [Nat.succ.inj hsucc]

theorem equalsIgnoreCase_self (s : String) : equalsIgnoreCase s s = true := by
  simp [equalsIgnoreCase]

/-- `require(condition)`, in a computation that does nothing but check. -/
def require {ε : Type} (condition : Bool) (e : ε) : Except ε Unit :=
  if condition then .ok () else .error e

@[simp] theorem require_eq_ok {condition : Bool} {e : ε} {u : Unit} :
    require condition e = .ok u ↔ condition = true := by
  cases condition <;> simp [require]

@[simp] theorem ok_bind (a : α) (k : α → Except ε β) : (Except.ok a >>= k) = k a := rfl

@[simp] theorem error_bind (e : ε) (k : α → Except ε β) : (Except.error e >>= k) = .error e := rfl

@[simp] theorem pure_eq_ok (a : α) : (pure a : Except ε α) = .ok a := rfl

@[simp] theorem throw_eq_error (e : ε) : (throw e : Except ε α) = .error e := rfl

attribute [simp] Except.mapError

theorem bind_eq_ok {m : Except ε α} {k : α → Except ε β} {b : β} :
    (m >>= k) = .ok b ↔ ∃ a, m = .ok a ∧ k a = .ok b := by
  cases m <;> simp [bind, Except.bind]

theorem mapM_eq_ok_iff {f : α → Except ε β} {items : List α} {results : List β} :
    items.mapM f = .ok results ↔ List.Forall₂ (fun a b => f a = .ok b) items results := by
  induction items generalizing results with
  | nil =>
    rw [List.mapM_nil, pure_eq_ok, Except.ok.injEq, List.forall₂_nil_left_iff]
    exact eq_comm
  | cons a items ih =>
    simp only [List.mapM_cons, bind_eq_ok, pure_eq_ok, Except.ok.injEq, ih,
      List.forall₂_cons_left_iff]
    constructor
    · rintro ⟨b, hb, rest, hrest, rfl⟩
      exact ⟨b, rest, hb, hrest, rfl⟩
    · rintro ⟨b, rest, hb, hrest, rfl⟩
      exact ⟨b, hb, rest, hrest, rfl⟩

theorem exists_mapM_ok {f : α → Except ε β} {items : List α} (h : ∀ a ∈ items, ∃ b, f a = .ok b) :
    ∃ results, items.mapM f = .ok results := by
  induction items with
  | nil => exact ⟨[], rfl⟩
  | cons a items ih =>
    obtain ⟨⟨b, hb⟩, h⟩ := List.forall_mem_cons.1 h
    obtain ⟨results, hresults⟩ := ih h
    exact ⟨b :: results, by rw [List.mapM_cons, hb, hresults]; rfl⟩

/-- Whatever the computation returns satisfies `P`. -/
def Ensures {ε α : Type} (P : α → Prop) (m : Except ε α) : Prop := ∀ a, m = .ok a → P a

theorem ensures_bind {P : β → Prop} {m : Except ε α} {k : α → Except ε β} (h : ∀ a, Ensures P (k a))
    : Ensures P (m >>= k) := by
  intro b hb
  obtain ⟨a, -, hk⟩ := bind_eq_ok.1 hb
  exact h a b hk

theorem ensures_ok {P : α → Prop} {a : α} (h : P a) : Ensures P (.ok a : Except ε α) := by
  rintro _ ⟨⟩
  exact h

def singleOrNull {α : Type} : List α → Option α
  | [a] => some a
  | _ => none

theorem singleOrNull_eq_some {l : List α} {a : α} : singleOrNull l = some a ↔ l = [a] := by
  match l with
  | [] => simp [singleOrNull]
  | [b] => simp [singleOrNull]
  | b :: c :: l => simp [singleOrNull]

theorem nodup_eraseDups [BEq α] [LawfulBEq α] (l : List α) : l.eraseDups.Nodup := by
  induction hn : l.length using Nat.strongRecOn generalizing l with
  | _ n ih =>
    cases l with
    | nil => simp
    | cons a l =>
      rw [List.eraseDups_cons, List.nodup_cons]
      refine ⟨by simp, ih _ ?_ _ rfl⟩
      have hle := List.length_filter_le (fun b => !b == a) l
      simp only [List.length_cons] at hn
      omega

theorem eraseDups_of_nodup [BEq α] [LawfulBEq α] {l : List α} (h : l.Nodup) : l.eraseDups = l := by
  induction l with
  | nil => rfl
  | cons a l ih =>
    rw [List.nodup_cons] at h
    have hkept : l.filter (fun b => !b == a) = l := by
      refine List.filter_eq_self.2 fun b hb => ?_
      rw [Bool.not_eq_true', beq_eq_false_iff_ne]
      rintro rfl
      exact h.1 hb
    rw [List.eraseDups_cons, hkept, ih h.2]

end LibreRoute.Lib
