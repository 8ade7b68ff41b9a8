import LibreRoute.Lib.Lines
import Mathlib.Data.Finset.Image

/-!
The rules for single addresses and networks (util/IpRulesPreferences.kt).

A rule is checked with the white space around it taken away, and `update`
checks the lines of a text. Both come to the same for rules that are joined
with line breaks, because no valid rule has a line break inside: the address
is parsed by the platform, and what follows it consists of digits.
-/

namespace LibreRoute.Routing

open Lib

inductive InetAddress
  | inet4
  | inet6

def InetAddress.bits : InetAddress → Int
  | .inet4 => 32
  | .inet6 => 128

/-- What the platform knows about addresses and digits: its version, the parser of newer versions
and the resolver of older ones, and the value of a decimal digit, which no line break is. -/
structure AddressLibrary where
  sdk : Nat
  parseNumericAddress : String → Option InetAddress
  getByName : String → Option InetAddress
  digit : Char → Option Nat
  digit_break : ∀ c, isBreak c = true → digit c = none

section

variable (A : AddressLibrary)

def AddressLibrary.isDigit (c : Char) : Bool := (A.digit c).isSome

def AddressLibrary.number (digits : List Char) : Option Int :=
  if digits.isEmpty then none
  else (digits.mapM A.digit).map fun values => (values.foldl (fun n d => 10 * n + d) 0 : Nat)

def AddressLibrary.toIntOrNull (s : String) : Option Int :=
  let signed : Option Int :=
    match s.toList with
    | '-' :: digits => (A.number digits).map (- ·)
    | '+' :: digits => A.number digits
    | digits => A.number digits
  signed.filter fun n => decide (-2147483648 ≤ n) && decide (n ≤ 2147483647)

def isNumericIp (str : String) : Bool :=
  let v4Parts := split str '.'
  if v4Parts.length == 4 then
    v4Parts.all fun part => (A.toIntOrNull part).any fun num =>
      decide (0 ≤ num) && decide (num ≤ 255) && (part == "0" || ! startsWith part "0")
  else
    str.toList.contains ':' && str.toList.all fun c =>
      A.isDigit c || (decide ('a' ≤ c) && decide (c ≤ 'f')) ||
        (decide ('A' ≤ c) && decide (c ≤ 'F')) || c == ':'

/-- The address a text stands for, without asking the network. -/
def parsedAddress (address : String) : Option InetAddress :=
  if 29 ≤ A.sdk then A.parseNumericAddress address
  else if isNumericIp A address then A.getByName address
  else none

def maskLength (parsed : InetAddress) (part : Option String) : Option Int :=
  match part with
  | none => some parsed.bits
  | some pStr =>
    if pStr.isEmpty || ! pStr.toList.all A.isDigit then none else A.toIntOrNull pStr

namespace IpRulesPreferences

def isValid (value : String) : Bool :=
  let trimmed := trim value
  let parts := split trimmed '/'
  if trimmed.isEmpty || decide (2 < parts.length) then false
  else
    let address := parts.headD ""
    if address.isEmpty then false
    else
      match parsedAddress A address with
      | none => false
      | some parsed =>
        (maskLength A parsed parts[1]?).any fun bits =>
          decide (0 ≤ bits) && decide (bits ≤ parsed.bits)

/-- The setter of `rules`. -/
def validOnly (value : Finset String) : Finset String :=
  (value.image trim).filter fun rule => (! rule.isEmpty && isValid A rule) = true

/-- The lines of a text that are not blank. -/
def entries (raw : String) : List String := ((lines raw).map trim).filter (! ·.isEmpty)

/-- Whether the rules were taken, and what is stored then. -/
def update (raw : String) (rules : Finset String) : Bool × Finset String :=
  if (entries raw).any (! isValid A ·) then (false, rules)
  else (true, validOnly A (entries raw).toFinset)

end IpRulesPreferences

end

/-! ### No line break inside a rule -/

section Breaks

variable {A : AddressLibrary} {s : String} {c : Char}

theorem isBreak_of_isDigit (h : A.isDigit c = true) : isBreak c = false := by
  by_contra hbreak
  rw [Bool.not_eq_false] at hbreak
  rw [AddressLibrary.isDigit, A.digit_break c hbreak] at h
  cases h

theorem isSome_digit_of_mapM {digits : List Char} (h : (digits.mapM A.digit).isSome = true)
    (hc : c ∈ digits) : (A.digit c).isSome = true := by
  induction digits with
  | nil => cases hc
  | cons d digits ih =>
    rw [List.mapM_cons] at h
    cases hd : A.digit d with
    | none => simp [hd] at h
    | some value =>
      rcases List.mem_cons.1 hc with rfl | hc
      · rw [hd]
        rfl
      · refine ih ?_ hc
        cases hrest : digits.mapM A.digit with
        | none => simp [hd, hrest] at h
        | some values => rfl

theorem isDigit_of_number {digits : List Char} (h : (A.number digits).isSome = true)
    (hc : c ∈ digits) : A.isDigit c = true := by
  unfold AddressLibrary.number at h
  split at h
  · cases h
  · rw [Option.isSome_map] at h
    exact isSome_digit_of_mapM h hc

theorem isBreak_of_toIntOrNull (h : (A.toIntOrNull s).isSome = true) (hc : c ∈ s.toList) :
    isBreak c = false := by
  have hnumber : ∀ {digits : List Char}, (A.number digits).isSome = true → c ∈ digits →
      isBreak c = false := fun h hc => isBreak_of_isDigit (isDigit_of_number h hc)
  have hsigned := Option.isSome_of_isSome_filter _ _ h
  generalize s.toList = text at hsigned hc
  split at hsigned
  · next digits =>
      rw [Option.isSome_map] at hsigned
      rcases List.mem_cons.1 hc with rfl | hc
      · decide
      · exact hnumber hsigned hc
  · next digits =>
      rcases List.mem_cons.1 hc with rfl | hc
      · decide
      · exact hnumber hsigned hc
  · exact hnumber hsigned hc

theorem isBreak_of_isNumericIp (h : isNumericIp A s = true) (hc : c ∈ s.toList) :
    isBreak c = false := by
  unfold isNumericIp at h
  dsimp only at h
  split at h
  · rcases mem_split '.' hc with rfl | ⟨part, hpart, hcpart⟩
    · decide
    · have hnum := List.all_eq_true.1 h part hpart
      exact isBreak_of_toIntOrNull (Option.isSome_of_any hnum) hcpart
  · rw [Bool.and_eq_true] at h
    have hchar := List.all_eq_true.1 h.2 c hc
    by_contra hbreak
    rw [Bool.not_eq_false, isBreak, Bool.or_eq_true, beq_iff_eq, beq_iff_eq] at hbreak
    have hdigit : A.isDigit c = false := by
      rw [AddressLibrary.isDigit, A.digit_break c (by rcases hbreak with rfl | rfl <;> rfl)]
      rfl
    rw [hdigit] at hchar
    rcases hbreak with rfl | rfl <;> exact absurd hchar (by decide)

end Breaks

/-- The parser of the platform takes no text with a line break. -/
def RejectsBreaks (A : AddressLibrary) : Prop :=
  ∀ text : String, text.toList.any isBreak = true → A.parseNumericAddress text = none

section Update

variable {A : AddressLibrary} {value : String} {c : Char}

theorem isBreak_of_parsedAddress (hA : RejectsBreaks A) {address : String}
    (h : (parsedAddress A address).isSome = true) (hc : c ∈ address.toList) :
    isBreak c = false := by
  unfold parsedAddress at h
  split at h
  · by_contra hbreak
    rw [Bool.not_eq_false] at hbreak
    rw [hA address (List.any_eq_true.2 ⟨c, hc, hbreak⟩)] at h
    cases h
  · split at h
    · next hnumeric => exact isBreak_of_isNumericIp hnumeric hc
    · cases h

theorem isBreak_of_maskLength {parsed : InetAddress} {pStr : String}
    (h : (maskLength A parsed (some pStr)).isSome = true) (hc : c ∈ pStr.toList) :
    isBreak c = false := by
  unfold maskLength at h
  dsimp only at h
  split at h
  · cases h
  · exact isBreak_of_toIntOrNull h hc

namespace IpRulesPreferences

theorem isValid_cases (h : isValid A value = true) :
    (∃ address parsed, split (trim value) '/' = [address] ∧ parsedAddress A address = some parsed) ∨
    ∃ address pStr parsed, split (trim value) '/' = [address, pStr] ∧
      parsedAddress A address = some parsed ∧ (maskLength A parsed (some pStr)).isSome = true := by
  unfold isValid at h
  dsimp only at h
  split at h
  · cases h
  next hsize =>
  split at h
  · cases h
  next haddress =>
  split at h
  · cases h
  next parsed hparsed =>
  rw [Bool.or_eq_true, not_or, decide_eq_true_eq] at hsize
  rcases hparts : split (trim value) '/' with _ | ⟨address, _ | ⟨pStr, _ | ⟨third, rest⟩⟩⟩
  · simp [hparts] at haddress
  · rw [hparts] at hparsed
    exact Or.inl ⟨address, parsed, rfl, hparsed⟩
  · rw [hparts] at hparsed h
    exact Or.inr ⟨address, pStr, parsed, rfl, hparsed, Option.isSome_of_any h⟩
  · simp [hparts] at hsize

theorem isBreak_of_isValid (hA : RejectsBreaks A) (h : isValid A value = true)
    (hc : c ∈ (trim value).toList) : isBreak c = false := by
  rcases mem_split '/' hc with rfl | ⟨part, hpart, hcpart⟩
  · decide
  rcases isValid_cases h with ⟨address, parsed, hparts, hparsed⟩ |
      ⟨address, pStr, parsed, hparts, hparsed, hmask⟩
  · rw [hparts, List.mem_singleton] at hpart
    subst hpart
    exact isBreak_of_parsedAddress hA (by rw [hparsed]; rfl) hcpart
  · rw [hparts, List.mem_cons, List.mem_singleton] at hpart
    rcases hpart with rfl | rfl
    · exact isBreak_of_parsedAddress hA (by rw [hparsed]; rfl) hcpart
    · exact isBreak_of_maskLength hmask hcpart

theorem isValid_congr {value' : String} (h : trim value = trim value') :
    isValid A value = isValid A value' := by
  unfold isValid
  rw [h]

theorem isValid_of_mem_entries (hA : RejectsBreaks A) {ipRules : List String}
    (h : ipRules.all (isValid A) = true) {entry : String}
    (hentry : entry ∈ entries (joinToString ipRules "\n")) : isValid A entry = true := by
  obtain ⟨hmem, hnonempty⟩ := List.mem_filter.1 hentry
  obtain ⟨line, hline, rfl⟩ := List.mem_map.1 hmem
  have hbreaks : ∀ text ∈ ipRules, ∀ c ∈ (trim text).toList, isBreak c = false :=
    fun text htext c hc => isBreak_of_isValid hA (List.all_eq_true.1 h text htext) hc
  rcases trim_lines_join hbreaks hline with hblank | ⟨text, htext, hsame⟩
  · rw [hblank] at hnonempty
    cases hnonempty
  · rw [hsame, isValid_congr (trim_trim text)]
    exact List.all_eq_true.1 h text htext

theorem update_joined (hA : RejectsBreaks A) {ipRules : List String}
    (h : ipRules.all (isValid A) = true) (rules : Finset String) :
    (update A (joinToString ipRules "\n") rules).1 = true := by
  have hentries : (entries (joinToString ipRules "\n")).any (! isValid A ·) = false :=
    List.any_eq_false.2 fun entry hentry => by simp [isValid_of_mem_entries hA h hentry]
  rw [update, hentries]
  rfl

end IpRulesPreferences

end Update

end LibreRoute.Routing
