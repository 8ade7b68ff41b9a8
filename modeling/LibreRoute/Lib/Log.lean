import Mathlib.Data.List.Basic

/-!
Logs.

A log is written at its end. What is asked of an entry is asked in view of
the entries before it, so that a new entry changes nothing for the others.
-/

namespace LibreRoute.Lib

variable {α : Type} {P : List α → α → Prop} {log : List α}

/-- Every entry meets a condition on the entries before it. -/
def Each (P : List α → α → Prop) (log : List α) : Prop :=
  ∀ before e after, log = before ++ e :: after → P before e

theorem each_nil : Each P [] := by
  intro before e after h
  simp at h

theorem Each.append (h : Each P log) {e : α} (he : P log e) : Each P (log ++ [e]) := by
  intro before e' after heq
  rcases List.eq_nil_or_concat after with rfl | ⟨after, last, rfl⟩
  · obtain ⟨rfl, hlast⟩ := List.append_inj' heq rfl
    rw [← List.cons.inj hlast |>.1]
    exact he
  · rw [List.concat_eq_append, ← List.cons_append, ← List.append_assoc] at heq
    exact h before e' after (List.append_inj' heq rfl).1

end LibreRoute.Lib
