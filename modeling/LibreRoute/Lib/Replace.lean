import Mathlib.Data.List.Basic
import Mathlib.Data.List.InsertIdx
import Mathlib.Data.List.Nodup
import Mathlib.Data.List.Perm.Basic

/-!
Replacing the elements of a list that satisfy a condition by a single one,
which takes the place of the first of them, and what a search finds where
elements are missing.
-/

namespace LibreRoute.Lib

variable {α : Type}

/-- Removes the elements with `p` and inserts `a` where the first of them was, or at the end. -/
def replaceFirst (p : α → Bool) (a : α) (l : List α) : List α :=
  (l.filter fun x => ! p x).insertIdx (l.findIdx p) a

variable {p q : α → Bool} {a x : α} {l : List α}

@[simp] theorem replaceFirst_nil (p : α → Bool) (a : α) : replaceFirst p a [] = [a] := rfl

theorem replaceFirst_cons_pos (h : p x = true) (a : α) (l : List α) :
    replaceFirst p a (x :: l) = a :: l.filter fun y => ! p y := by
  simp [replaceFirst, List.findIdx_cons, h]

theorem replaceFirst_cons_neg (h : p x = false) (a : α) (l : List α) :
    replaceFirst p a (x :: l) = x :: replaceFirst p a l := by
  simp [replaceFirst, List.findIdx_cons, h]

theorem replaceFirst_perm (p : α → Bool) (a : α) (l : List α) :
    (replaceFirst p a l).Perm (a :: l.filter fun x => ! p x) := by
  induction l with
  | nil => exact List.Perm.refl _
  | cons x l ih =>
    cases h : p x with
    | true =>
      rw [replaceFirst_cons_pos h]
      simp [h]
    | false =>
      rw [replaceFirst_cons_neg h, List.filter_cons_of_pos (by simp [h])]
      exact (ih.cons x).trans (List.Perm.swap a x _)

theorem mem_replaceFirst : x ∈ replaceFirst p a l ↔ x = a ∨ x ∈ l ∧ p x = false := by
  rw [(replaceFirst_perm p a l).mem_iff]
  simp

theorem filter_replaceFirst_pos (ha : q a = true) (h : ∀ x ∈ l, p x = true → q x = true) :
    (replaceFirst p a l).filter q = replaceFirst p a (l.filter q) := by
  induction l with
  | nil => simp [ha]
  | cons x l ih =>
    rw [List.forall_mem_cons] at h
    cases hp : p x with
    | true =>
      rw [replaceFirst_cons_pos hp, List.filter_cons_of_pos (h.1 hp), replaceFirst_cons_pos hp,
        List.filter_cons_of_pos ha, List.filter_filter, List.filter_filter]
      simp only [Bool.and_comm]
    | false =>
      rw [replaceFirst_cons_neg hp]
      cases hq : q x with
      | true =>
        rw [List.filter_cons_of_pos hq, List.filter_cons_of_pos hq, replaceFirst_cons_neg hp,
          ih h.2]
      | false =>
        rw [List.filter_cons_of_neg (by simp [hq]), List.filter_cons_of_neg (by simp [hq]), ih h.2]

theorem filter_replaceFirst_neg (ha : q a = false) :
    (replaceFirst p a l).filter q = (l.filter q).filter fun x => ! p x := by
  induction l with
  | nil => simp [ha]
  | cons x l ih =>
    cases hp : p x with
    | true =>
      rw [replaceFirst_cons_pos hp, List.filter_cons_of_neg (by simp [ha])]
      cases hq : q x <;> simp [hp, hq, List.filter_filter, Bool.and_comm]
    | false =>
      rw [replaceFirst_cons_neg hp]
      cases hq : q x <;> simp [hp, hq, ih]

theorem replaceFirst_self (hl : l.Nodup) (ha : a ∈ l) (h : ∀ x ∈ l, p x = true ↔ x = a) :
    replaceFirst p a l = l := by
  induction l with
  | nil => cases ha
  | cons x l ih =>
    rw [List.nodup_cons] at hl
    rw [List.forall_mem_cons] at h
    by_cases hx : x = a
    · subst hx
      rw [replaceFirst_cons_pos (h.1.2 rfl), List.filter_eq_self.2]
      intro y hy
      have hne : ¬ p y = true := fun hp => hl.1 ((h.2 y hy).1 hp ▸ hy)
      simpa using hne
    · have hp : p x = false := by
        rw [← Bool.not_eq_true]
        exact fun hp => hx (h.1.1 hp)
      rw [replaceFirst_cons_neg hp, ih hl.2 ((List.mem_cons.1 ha).resolve_left (Ne.symm hx)) h.2]

theorem find?_filter_of_some (h : l.find? p = some a) (ha : q a = true) :
    (l.filter q).find? p = some a := by
  induction l with
  | nil => cases h
  | cons x l ih =>
    cases hp : p x with
    | true =>
      rw [List.find?_cons_of_pos hp, Option.some.injEq] at h
      subst h
      rw [List.filter_cons_of_pos ha, List.find?_cons_of_pos hp]
    | false =>
      rw [List.find?_cons_of_neg (by simp [hp])] at h
      cases hq : q x with
      | true => rw [List.filter_cons_of_pos hq, List.find?_cons_of_neg (by simp [hp]), ih h]
      | false => rw [List.filter_cons_of_neg (by simp [hq]), ih h]

theorem find?_filter_of_none (h : l.find? p = none) (q : α → Bool) :
    (l.filter q).find? p = none := by
  rw [List.find?_eq_none] at h ⊢
  exact fun x hx => h x (List.mem_filter.1 hx).1

end LibreRoute.Lib
