import Mathlib.Data.List.Pairwise

/-!
Filling the space between given spans of integers.

Pieces are laid one behind the other from some start on: a position inside a
span moves to its end, elsewhere a piece is laid that ends before the next
span. The pieces and the spans then fill everything up to the position, and
none meets another (`Filled`).
-/

namespace LibreRoute.Lib

section Spans

variable {ρ : Type} (lo hi : ρ → Int)

def Within (l : List ρ) (x : Int) : Prop := ∃ r ∈ l, lo r ≤ x ∧ x < hi r

/-- The end of the span that `x` is in, or `x` itself. -/
def skipSpan (l : List ρ) (x : Int) : Int :=
  match l.find? fun r => lo r ≤ x && x < hi r with
  | some r => hi r
  | none => x

/-- The beginning of the first span behind `x`, or the limit. -/
def nextSpan (l : List ρ) (limit x : Int) : Int :=
  match l.find? fun r => x < lo r with
  | some r => lo r
  | none => limit

/-- The spans are not empty, end before the limit, and each ends before the next one begins. -/
structure Ascends (l : List ρ) (limit : Int) : Prop where
  proper : ∀ r ∈ l, lo r < hi r
  limited : ∀ r ∈ l, hi r ≤ limit
  apart : l.Pairwise fun a b => hi a < lo b

variable {lo hi} {l : List ρ} {x y limit : Int}

theorem Ascends.trichotomy (h : Ascends lo hi l limit) {a b : ρ} (ha : a ∈ l) (hb : b ∈ l) :
    a = b ∨ hi a < lo b ∨ hi b < lo a := by
  have hforward : l.Pairwise fun a b => a = b ∨ hi a < lo b ∨ hi b < lo a :=
    h.apart.imp fun h => .inr (.inl h)
  have hbackward : l.Pairwise (flip fun a b => a = b ∨ hi a < lo b ∨ hi b < lo a) :=
    h.apart.imp fun h => .inr (.inr h)
  exact hforward.forall_of_forall_of_flip (fun _ _ => .inl rfl) hbackward ha hb

theorem skipSpan_cases (lo hi : ρ → Int) (l : List ρ) (x : Int) :
    (skipSpan lo hi l x = x ∧ ¬ Within lo hi l x) ∨
      ∃ r ∈ l, lo r ≤ x ∧ x < hi r ∧ skipSpan lo hi l x = hi r := by
  rcases hfind : l.find? fun r => lo r ≤ x && x < hi r with _ | r
  · refine .inl ⟨by simp only [skipSpan, hfind], ?_⟩
    rintro ⟨r, hr, hlo, hhi⟩
    have hnot := List.find?_eq_none.1 hfind r hr
    simp [hlo, hhi] at hnot
  · have hinside := List.find?_some hfind
    simp only [Bool.and_eq_true, decide_eq_true_eq] at hinside
    exact .inr ⟨r, List.mem_of_find?_eq_some hfind, hinside.1, hinside.2,
      by simp only [skipSpan, hfind]⟩

theorem le_skipSpan (lo hi : ρ → Int) (l : List ρ) (x : Int) : x ≤ skipSpan lo hi l x := by
  rcases skipSpan_cases lo hi l x with ⟨h, -⟩ | ⟨r, -, -, hlt, h⟩ <;> omega

theorem skipSpan_le (h : Ascends lo hi l limit) (hx : x ≤ limit) : skipSpan lo hi l x ≤ limit := by
  rcases skipSpan_cases lo hi l x with ⟨heq, -⟩ | ⟨r, hr, -, -, heq⟩
  · omega
  · rw [heq]
    exact h.limited r hr

theorem within_of_lt_skipSpan (hle : x ≤ y) (hlt : y < skipSpan lo hi l x) :
    Within lo hi l y := by
  rcases skipSpan_cases lo hi l x with ⟨h, -⟩ | ⟨r, hr, hlo, -, h⟩
  · omega
  · exact ⟨r, hr, by omega, by omega⟩

section

variable (h : Ascends lo hi l limit)

include h

theorem not_within_skipSpan (x : Int) :
    ¬ Within lo hi l (skipSpan lo hi l x) := by
  rcases skipSpan_cases lo hi l x with ⟨heq, hnot⟩ | ⟨r, hr, hlo, hhi, heq⟩
  · rwa [heq]
  · rw [heq]
    rintro ⟨r', hr', hlo', hhi'⟩
    rcases h.trichotomy hr hr' with rfl | hbefore | hafter <;> omega

theorem nextSpan_cases (x : Int) :
    (nextSpan lo l limit x = limit ∧ ∀ r ∈ l, lo r ≤ x) ∨
      ∃ r ∈ l, x < lo r ∧ nextSpan lo l limit x = lo r ∧ ∀ r' ∈ l, x < lo r' → lo r ≤ lo r' := by
  rcases hfind : l.find? fun r => x < lo r with _ | r
  · refine .inl ⟨by simp only [nextSpan, hfind], fun r hr => ?_⟩
    have hnot := List.find?_eq_none.1 hfind r hr
    simpa using hnot
  · obtain ⟨hbeyond, before, after, hsplit, hbefore⟩ := List.find?_eq_some_iff_append.1 hfind
    simp only [decide_eq_true_eq] at hbeyond
    refine .inr ⟨r, List.mem_of_find?_eq_some hfind, hbeyond, by simp only [nextSpan, hfind], ?_⟩
    intro r' hr' hbeyond'
    have hordered := h.apart
    have hproper := h.proper r (List.mem_of_find?_eq_some hfind)
    rw [hsplit] at hr' hordered
    rcases List.mem_append.1 hr' with hmem | hmem
    · have hnot := hbefore r' hmem
      simp [hbeyond'] at hnot
    · rcases List.mem_cons.1 hmem with rfl | hmem
      · exact Int.le_refl _
      · have hlater := List.rel_of_pairwise_cons (List.pairwise_append.1 hordered).2.1 hmem
        omega

theorem lt_nextSpan (hx : x < limit) : x < nextSpan lo l limit x := by
  rcases nextSpan_cases h x with ⟨heq, -⟩ | ⟨r, -, hbeyond, heq, -⟩ <;> omega

theorem nextSpan_le (x : Int) : nextSpan lo l limit x ≤ limit := by
  rcases nextSpan_cases h x with ⟨heq, -⟩ | ⟨r, hr, -, heq, -⟩
  · omega
  · have hproper := h.proper r hr
    have hlimited := h.limited r hr
    omega

theorem not_within_of_lt_nextSpan (hx : ¬ Within lo hi l x)
    (hle : x ≤ y) (hlt : y < nextSpan lo l limit x) : ¬ Within lo hi l y := by
  rintro ⟨r', hr', hlo, hhi⟩
  have hbeyond : x < lo r' := by
    by_contra hnot
    exact hx ⟨r', hr', by omega, by omega⟩
  rcases nextSpan_cases h x with ⟨-, hnone⟩ | ⟨r, -, -, heq, hleast⟩
  · have hnot := hnone r' hr'
    omega
  · have hr := hleast r' hr' hbeyond
    omega

end

end Spans

section Pieces

variable {ρ π : Type} (lo hi : ρ → Int) (start stop : π → Int)

/-- From `origin` to `position` everything is in a span or in a piece. The pieces lie one behind
the other, and outside the spans. -/
structure Filled (l : List ρ) (origin position : Int) (pieces : List π) : Prop where
  forward : origin ≤ position
  between : ∀ p ∈ pieces, origin ≤ start p ∧ start p < stop p ∧ stop p ≤ position
  apart : pieces.Pairwise fun a b => stop a ≤ start b
  outside : ∀ p ∈ pieces, ∀ x, start p ≤ x → x < stop p → ¬ Within lo hi l x
  covered : ∀ x, origin ≤ x → x < position →
    Within lo hi l x ∨ ∃ p ∈ pieces, start p ≤ x ∧ x < stop p

variable {lo hi start stop} {l : List ρ} {origin position limit : Int} {pieces : List π}

theorem filled_nil (l : List ρ) (origin : Int) :
    Filled lo hi start stop l origin origin ([] : List π) where
  forward := Int.le_refl _
  between := by simp
  apart := .nil
  outside := by simp
  covered x hle hlt := by omega

theorem Filled.skip (h : Filled lo hi start stop l origin position pieces) :
    Filled lo hi start stop l origin (skipSpan lo hi l position) pieces := by
  have hskip := le_skipSpan lo hi l position
  have hforward := h.forward
  refine ⟨by omega, fun p hp => ?_, h.apart, h.outside, fun x hle hlt => ?_⟩
  · have hbetween := h.between p hp
    omega
  · by_cases hx : x < position
    · exact h.covered x hle hx
    · exact .inl (within_of_lt_skipSpan (Int.not_lt.1 hx) hlt)

/-- A piece is laid at a position outside the spans, and ends before the next one. -/
theorem Filled.add (h : Filled lo hi start stop l origin position pieces)
    (hascends : Ascends lo hi l limit) (hfree : ¬ Within lo hi l position) {p : π}
    (hstart : start p = position) (hproper : start p < stop p)
    (hstop : stop p ≤ nextSpan lo l limit position) :
    Filled lo hi start stop l origin (stop p) (pieces ++ [p]) := by
  have hforward := h.forward
  refine ⟨by omega, fun q hq => ?_, ?_, fun q hq => ?_, fun x hle hlt => ?_⟩
  · rcases List.mem_append.1 hq with hq | hq
    · have hbetween := h.between q hq
      omega
    · rw [List.mem_singleton.1 hq]
      omega
  · rw [List.pairwise_append]
    refine ⟨h.apart, List.pairwise_singleton _ _, fun a ha b hb => ?_⟩
    rw [List.mem_singleton.1 hb, hstart]
    exact (h.between a ha).2.2
  · rcases List.mem_append.1 hq with hq | hq
    · exact h.outside q hq
    · rw [List.mem_singleton.1 hq]
      intro x hle hlt
      exact not_within_of_lt_nextSpan hascends hfree (by omega) (by omega)
  · by_cases hx : x < position
    · rcases h.covered x hle hx with hwithin | ⟨q, hq, hmem⟩
      · exact .inl hwithin
      · exact .inr ⟨q, List.mem_append_left _ hq, hmem⟩
    · exact .inr ⟨p, List.mem_append_right _ List.mem_cons_self, by omega, hlt⟩

end Pieces

section Writes

variable {π β : Type} (start : π → Int) (bytes : π → List β)

/-- What is at a position once a piece has been written. -/
def write (held : Int → Option β) (p : π) (x : Int) : Option β :=
  if start p ≤ x ∧ x < start p + (bytes p).length then (bytes p)[(x - start p).toNat]? else held x

/-- The piece has what the source has at its place. -/
def IsSlice (source : List β) (p : π) : Prop :=
  ∀ x, start p ≤ x → x < start p + (bytes p).length →
    (bytes p)[(x - start p).toNat]? = source[x.toNat]?

variable {start bytes} {source : List β} {held : Int → Option β} {x : Int}

theorem isSlice_of_take_drop {p : π} {count : Nat} (hstart : 0 ≤ start p)
    (h : (source.drop (start p).toNat).take count = bytes p) : IsSlice start bytes source p := by
  intro x hle hlt
  have hlength := congrArg List.length h
  rw [List.length_take] at hlength
  rw [← h, List.getElem?_take_of_lt (by omega), List.getElem?_drop]
  congr 1
  omega

/-- Slices give the source in whatever order and however often they are written. -/
theorem foldl_write {arrived : List π} (hslices : ∀ p ∈ arrived, IsSlice start bytes source p)
    (h : held x = source[x.toNat]? ∨
      ∃ p ∈ arrived, start p ≤ x ∧ x < start p + (bytes p).length) :
    arrived.foldl (write start bytes) held x = source[x.toNat]? := by
  induction arrived generalizing held with
  | nil => simpa using h
  | cons p arrived ih =>
    refine ih (fun q hq => hslices q (.tail _ hq)) ?_
    by_cases hp : start p ≤ x ∧ x < start p + (bytes p).length
    · exact .inl ((if_pos hp).trans (hslices p List.mem_cons_self x hp.1 hp.2))
    · rcases h with h | ⟨q, hq, hx⟩
      · exact .inl ((if_neg hp).trans h)
      · exact .inr ⟨q, (List.mem_cons.1 hq).resolve_left (by rintro rfl; exact hp hx), hx⟩

end Writes

end LibreRoute.Lib
