import Mathlib.Data.List.Nodup
import Mathlib.Data.List.Perm.Subperm

/-!
Looking for a free number downwards from a start, as a loop that counts
down while the number is taken. Finitely many numbers are taken, so as many
steps as there are taken numbers are enough, and the loop is a structural
recursion over that number of steps.
-/

namespace LibreRoute.Lib

/-- `while (taken(n)) n--`, at most `steps` times. -/
def firstFree (taken : Int → Bool) : Nat → Int → Int
  | 0, n => n
  | steps + 1, n => if taken n then firstFree taken steps (n - 1) else n

/-- `r` is the number at which the loop stops. -/
structure IsFirstFree (taken : Int → Bool) (start r : Int) : Prop where
  le : r ≤ start
  free : taken r = false
  above : ∀ n, r < n → n ≤ start → taken n = true

namespace IsFirstFree

variable {taken taken' : Int → Bool} {start r r' : Int}

theorem unique (h : IsFirstFree taken start r) (h' : IsFirstFree taken start r') : r = r' := by
  by_contra hne
  rcases Int.lt_or_gt_of_ne hne with hlt | hlt
  · exact absurd (h.above r' hlt h'.le) (by simp [h'.free])
  · exact absurd (h'.above r hlt h.le) (by simp [h.free])

/-- With fewer numbers taken the loop stops at the same number, or earlier at one that was
taken. -/
theorem of_imp (h : IsFirstFree taken start r) (h' : IsFirstFree taken' start r')
    (himp : ∀ n, taken n = true → taken' n = true) : r = r' ∨ taken' r = true := by
  rcases hr : taken' r with _ | _
  · refine Or.inl (unique ⟨h.le, hr, fun n hlt hle => ?_⟩ h')
    exact himp n (h.above n hlt hle)
  · exact Or.inr rfl

end IsFirstFree

section Loop

variable {taken : Int → Bool}

theorem firstFree_le (steps : Nat) (n : Int) : firstFree taken steps n ≤ n := by
  induction steps generalizing n with
  | zero => exact Int.le_refl n
  | succ steps ih =>
    unfold firstFree
    split
    · have hle := ih (n - 1)
      omega
    · exact Int.le_refl n

theorem firstFree_above (steps : Nat) (n m : Int) (hlt : firstFree taken steps n < m)
    (hle : m ≤ n) : taken m = true := by
  induction steps generalizing n with
  | zero =>
    unfold firstFree at hlt
    omega
  | succ steps ih =>
    unfold firstFree at hlt
    split at hlt
    · next htaken =>
        rcases Int.lt_or_eq_of_le hle with h | rfl
        · exact ih (n - 1) hlt (by omega)
        · exact htaken
    · omega

theorem firstFree_free_or (steps : Nat) (n : Int) :
    taken (firstFree taken steps n) = false ∨ firstFree taken steps n = n - steps := by
  induction steps generalizing n with
  | zero =>
    right
    simp [firstFree]
  | succ steps ih =>
    unfold firstFree
    split
    · rcases ih (n - 1) with h | h
      · exact Or.inl h
      · right
        rw [h]
        push_cast
        omega
    · next hfree =>
        left
        simpa using hfree

/-- If the taken numbers are among those of a list, as many steps as the list is long are
enough: after them one of the numbers passed over is not in the list. -/
theorem firstFree_isFirstFree {l : List Int} (htaken : ∀ n, taken n = true → n ∈ l) (n : Int) :
    IsFirstFree taken n (firstFree taken l.length n) := by
  refine ⟨firstFree_le _ _, ?_, firstFree_above _ _⟩
  rcases firstFree_free_or l.length n with hfree | hlast
  · exact hfree
  by_contra htook
  have hall : ∀ i ∈ List.range (l.length + 1), n - (i : Int) ∈ l := by
    intro i hi
    rw [List.mem_range] at hi
    refine htaken _ ?_
    rcases Nat.lt_or_ge i l.length with hlt | hge
    · exact firstFree_above l.length n _ (by omega) (by omega)
    · obtain rfl : i = l.length := by omega
      rw [← hlast]
      simpa using htook
  have hnodup : ((List.range (l.length + 1)).map fun i : Nat => n - (i : Int)).Nodup := by
    refine List.nodup_range.map fun i j hij => ?_
    have hij' : n - (i : Int) = n - (j : Int) := hij
    omega
  have hsubset : ((List.range (l.length + 1)).map fun i : Nat => n - (i : Int)) ⊆ l := by
    intro m hm
    obtain ⟨i, hi, rfl⟩ := List.mem_map.1 hm
    exact hall i hi
  have hlength := (hnodup.subperm hsubset).length_le
  rw [List.length_map, List.length_range] at hlength
  omega

end Loop

section Candidates

variable {α : Type} {taken : α → Bool} {candidate : Nat → α}

/-- The loop that takes the next candidate as long as the one at hand is taken: the index it
stops at. -/
def firstUntaken (taken : α → Bool) (candidate : Nat → α) : Nat → Nat → Option Nat
  | 0, _ => none
  | fuel + 1, n => if taken (candidate n) then firstUntaken taken candidate fuel (n + 1) else some n

theorem taken_firstUntaken {fuel n m : Nat} (h : firstUntaken taken candidate fuel n = some m) :
    taken (candidate m) = false := by
  induction fuel generalizing n with
  | zero => simp [firstUntaken] at h
  | succ fuel ih =>
    unfold firstUntaken at h
    split at h
    · exact ih h
    · next hfree =>
        obtain rfl := Option.some.inj h
        simpa using hfree

theorem firstUntaken_mono {fuel fuel' n m : Nat} (hle : fuel ≤ fuel')
    (h : firstUntaken taken candidate fuel n = some m) :
    firstUntaken taken candidate fuel' n = some m := by
  induction fuel generalizing fuel' n with
  | zero => simp [firstUntaken] at h
  | succ fuel ih =>
    obtain ⟨more, rfl⟩ : ∃ more, fuel' = more + 1 := ⟨fuel' - 1, by omega⟩
    unfold firstUntaken at h ⊢
    split at h
    · next htaken =>
        rw [if_pos htaken]
        exact ih (by omega) h
    · next hfree => rwa [if_neg hfree]

theorem firstUntaken_ends {n m : Nat} (hle : n ≤ m) (h : taken (candidate m) = false) :
    ∃ fuel k, firstUntaken taken candidate fuel n = some k := by
  obtain ⟨d, rfl⟩ := Nat.exists_eq_add_of_le hle
  -- over the distance to the candidate
  induction d generalizing n with
  | zero => exact ⟨1, n, by simpa [firstUntaken] using h⟩
  | succ d ih =>
    obtain ⟨fuel, k, hk⟩ := ih (n := n + 1) (by omega) (by rwa [Nat.add_right_comm])
    by_cases htaken : taken (candidate n) = true
    · exact ⟨fuel + 1, k, by rw [firstUntaken, if_pos htaken, hk]⟩
    · exact ⟨1, n, by rw [firstUntaken, if_neg htaken]⟩

theorem exists_notMem_of_injective (hinj : Function.Injective candidate) (l : List α) :
    ∃ m, candidate m ∉ l := by
  by_contra hall
  push Not at hall
  have hsubset : (List.range (l.length + 1)).map candidate ⊆ l := by
    intro a ha
    obtain ⟨i, -, rfl⟩ := List.mem_map.1 ha
    exact hall i
  have hlength := ((List.nodup_range.map hinj).subperm hsubset).length_le
  rw [List.length_map, List.length_range] at hlength
  omega

end Candidates

end LibreRoute.Lib
