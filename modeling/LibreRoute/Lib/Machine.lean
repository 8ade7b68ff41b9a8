import Mathlib.Data.List.Basic

/-!
Machines that take labelled steps.

The label of a step carries whatever the step meets outside the state, so
that a step is a function of the two; a step that cannot be taken has no
result. A run is a list of labels. What holds of every run is shown for
one step and carried along by `Machine.run_induction`.
-/

namespace LibreRoute.Lib

structure Machine (Λ σ : Type) where
  step : σ → Λ → Option σ

namespace Machine

variable {Λ σ : Type} (m : Machine Λ σ) {s t : σ} {ls : List Λ}

/-- The state that a list of steps leads to, if every one of them can be taken. -/
def run (s : σ) : List Λ → Option σ
  | [] => some s
  | l :: ls =>
    match m.step s l with
    | some t => run t ls
    | none => none

variable {m}

@[simp] theorem run_nil (s : σ) : m.run s [] = some s := rfl

theorem run_cons_of_step {l : Λ} (h : m.step s l = some t) (ls : List Λ) :
    m.run s (l :: ls) = m.run t ls := by
  simp [run, h]

theorem run_cons_eq_some {u : σ} {l : Λ} :
    m.run s (l :: ls) = some u ↔ ∃ t, m.step s l = some t ∧ m.run t ls = some u := by
  rcases hstep : m.step s l with _ | t <;> simp [run, hstep]

theorem run_append (h : m.run s ls = some t) (ls' : List Λ) :
    m.run s (ls ++ ls') = m.run t ls' := by
  induction ls generalizing s with
  | nil =>
    obtain rfl : s = t := Option.some.inj h
    rfl
  | cons l ls ih =>
    obtain ⟨u, hstep, hrun⟩ := run_cons_eq_some.1 h
    rw [List.cons_append, run_cons_of_step hstep]
    exact ih hrun

theorem run_append_eq_some {u : σ} {ls' : List Λ} :
    m.run s (ls ++ ls') = some u ↔ ∃ t, m.run s ls = some t ∧ m.run t ls' = some u := by
  induction ls generalizing s with
  | nil => simp
  | cons l ls ih =>
    rw [List.cons_append, run_cons_eq_some]
    constructor
    · rintro ⟨t, hstep, hrun⟩
      obtain ⟨t', hrun, hrun'⟩ := ih.1 hrun
      exact ⟨t', run_cons_eq_some.2 ⟨t, hstep, hrun⟩, hrun'⟩
    · rintro ⟨t', hrun, hrun'⟩
      obtain ⟨t, hstep, hrun⟩ := run_cons_eq_some.1 hrun
      exact ⟨t, hstep, ih.2 ⟨t', hrun, hrun'⟩⟩

/-- What every step with an admissible label preserves, a run with such labels preserves. -/
theorem run_induction {P : Λ → Prop} {I : σ → Prop}
    (hstep : ∀ s l t, P l → m.step s l = some t → I s → I t) (hls : ∀ l ∈ ls, P l)
    (h : m.run s ls = some t) (hs : I s) : I t := by
  induction ls generalizing s with
  | nil =>
    obtain rfl : s = t := Option.some.inj h
    exact hs
  | cons l ls ih =>
    obtain ⟨u, hu, hrun⟩ := run_cons_eq_some.1 h
    apply ih (fun l' hl' => hls l' (List.mem_cons_of_mem _ hl')) hrun
    exact hstep s l u (hls l List.mem_cons_self) hu hs

theorem run_invariant {I : σ → Prop} (hstep : ∀ s l t, m.step s l = some t → I s → I t)
    (h : m.run s ls = some t) (hs : I s) : I t :=
  run_induction (fun s l t _ => hstep s l t) (fun _ _ => trivial) h hs

/-- A machine whose steps are matched by those of another one has its runs matched. -/
theorem run_simulation {τ : Type} {n : Machine Λ τ} {R : σ → τ → Prop}
    (hstep : ∀ s a l t, R s a → m.step s l = some t → ∃ b, n.step a l = some b ∧ R t b) {a : τ}
    (hs : R s a) (h : m.run s ls = some t) : ∃ b, n.run a ls = some b ∧ R t b := by
  induction ls generalizing s a with
  | nil =>
    obtain rfl : s = t := Option.some.inj h
    exact ⟨a, rfl, hs⟩
  | cons l ls ih =>
    obtain ⟨u, hu, hrun⟩ := run_cons_eq_some.1 h
    obtain ⟨b, hb, hub⟩ := hstep s a l u hs hu
    rw [run_cons_of_step hb]
    exact ih hub hrun

end Machine

end LibreRoute.Lib
