import Mathlib.Logic.Function.Basic

/-!
Programs over a state part of which is durable.

A program reads the state, changes it in memory, and makes durable writes.
Every durable write has a *fate*: it is done, it throws, or the process dies
at it. A program is run against the list of fates its writes will meet (no
fates: every write is done). An exception travels to the nearest `attempt`; a
crash is caught by nothing.

`Prog.exec` is the undisturbed call, and the `simp` lemmas of the first part
compute it. `Prog.wp` quantifies over all fates, and the rules of the second
part take a program apart construct by construct; `Prog.Keeps` is the
invariant form of it, and `Prog.Simulates` compares two programs over all
fates.
-/

namespace LibreRoute.Lib

/-- What becomes of one durable write. -/
inductive Fate (ε : Type)
  | done
  | throws (error : ε)
  | crash

/-- How a program ends. -/
inductive Outcome (ε α : Type)
  | ok (value : α)
  | thrown (error : ε)
  | crashed

/-- A program over the state `σ`. It carries the facts that it neither crashes nor
invents a fate when no fates are given, and that it does the same when its writes are
all told that they will be done. -/
structure Prog (ε σ α : Type) where
  run : σ → List (Fate ε) → Outcome ε α × σ × List (Fate ε)
  reliable : ∀ s, (run s []).1 ≠ .crashed ∧ (run s []).2.2 = []
  steady : ∀ s, ∃ n, ∀ fs, run s (List.replicate n .done ++ fs) = ((run s []).1, (run s []).2.1, fs)

namespace Prog

variable {ε σ α β : Type} {m : Prog ε σ α} {k body : α → Prog ε σ β} {t s' : σ} {a : α} {e : ε}
  {c : Bool} {l : List α} {fs : List (Fate ε)} {result : Except ε α} {b : β} {τ : Type}
  {handler : ε → Prog ε σ α}

protected def pure (a : α) : Prog ε σ α where
  run s fs := (.ok a, s, fs)
  reliable _ := ⟨by simp, rfl⟩
  steady _ := ⟨0, fun _ => rfl⟩

protected def bind (m : Prog ε σ α) (k : α → Prog ε σ β) : Prog ε σ β where
  run s fs :=
    match m.run s fs with
    | (.ok a, s', fs') => (k a).run s' fs'
    | (.thrown e, s', fs') => (.thrown e, s', fs')
    | (.crashed, s', fs') => (.crashed, s', fs')
  reliable s := by
    have h := m.reliable s
    revert h
    rcases m.run s [] with ⟨a | e | _, s', fs'⟩
    · rintro ⟨-, hfs⟩
      obtain rfl : fs' = [] := hfs
      exact (k a).reliable s'
    · rintro ⟨-, hfs⟩
      exact ⟨by simp, hfs⟩
    · rintro ⟨hc, -⟩
      exact absurd rfl hc
  steady s := by
    obtain ⟨n, hn⟩ := m.steady s
    have h := m.reliable s
    revert hn h
    rcases m.run s [] with ⟨a | e | _, s', fs'⟩ <;> intro hn h
    · obtain rfl : fs' = [] := h.2
      obtain ⟨n', hn'⟩ := (k a).steady s'
      refine ⟨n + n', fun fs => ?_⟩
      rw [← List.replicate_append_replicate, List.append_assoc, hn]
      exact hn' fs
    · exact ⟨n, fun fs => by rw [hn]⟩
    · exact absurd rfl h.1

instance : Monad (Prog ε σ) where
  pure := Prog.pure
  bind := Prog.bind

def throw (e : ε) : Prog ε σ α where
  run s fs := (.thrown e, s, fs)
  reliable _ := ⟨by simp, rfl⟩
  steady _ := ⟨0, fun _ => rfl⟩

def read (f : σ → α) : Prog ε σ α where
  run s fs := (.ok (f s), s, fs)
  reliable _ := ⟨by simp, rfl⟩
  steady _ := ⟨0, fun _ => rfl⟩

/-- Changes what is kept in memory. -/
def modify (f : σ → σ) : Prog ε σ Unit where
  run s fs := (.ok (), f s, fs)
  reliable _ := ⟨by simp, rfl⟩
  steady _ := ⟨0, fun _ => rfl⟩

/-- A call that answers from the state and changes what is kept in memory. -/
def call (f : σ → α × σ) : Prog ε σ α where
  run s fs := (.ok (f s).1, (f s).2, fs)
  reliable _ := ⟨by simp, rfl⟩
  steady _ := ⟨0, fun _ => rfl⟩

/-- One durable write. -/
def write (f : σ → σ) : Prog ε σ Unit where
  run s fs :=
    match fs with
    | [] => (.ok (), f s, [])
    | .done :: rest => (.ok (), f s, rest)
    | .throws e :: rest => (.thrown e, s, rest)
    | .crash :: rest => (.crashed, s, rest)
  reliable _ := ⟨by simp, rfl⟩
  steady _ := ⟨1, fun _ => rfl⟩

/-- Runs `m` and hands an exception it throws to `handler`. -/
def attempt (m : Prog ε σ α) (handler : ε → Prog ε σ α) : Prog ε σ α where
  run s fs :=
    match m.run s fs with
    | (.ok a, s', fs') => (.ok a, s', fs')
    | (.thrown e, s', fs') => (handler e).run s' fs'
    | (.crashed, s', fs') => (.crashed, s', fs')
  reliable s := by
    have h := m.reliable s
    revert h
    rcases m.run s [] with ⟨a | e | _, s', fs'⟩
    · rintro ⟨-, hfs⟩
      exact ⟨by simp, hfs⟩
    · rintro ⟨-, hfs⟩
      obtain rfl : fs' = [] := hfs
      exact (handler e).reliable s'
    · rintro ⟨hc, -⟩
      exact absurd rfl hc
  steady s := by
    obtain ⟨n, hn⟩ := m.steady s
    have h := m.reliable s
    revert hn h
    rcases m.run s [] with ⟨a | e | _, s', fs'⟩ <;> intro hn h
    · exact ⟨n, fun fs => by rw [hn]⟩
    · obtain rfl : fs' = [] := h.2
      obtain ⟨n', hn'⟩ := (handler e).steady s'
      refine ⟨n + n', fun fs => ?_⟩
      rw [← List.replicate_append_replicate, List.append_assoc, hn]
      exact hn' fs
    · exact absurd rfl h.1

/-- Runs `m` and returns what it throws as a value. -/
def runCatching (m : Prog ε σ α) : Prog ε σ (Except ε α) :=
  (m >>= fun a => pure (.ok a)).attempt fun e => pure (.error e)

def require (condition : Bool) (e : ε) : Prog ε σ Unit :=
  if condition then pure () else throw e

def when (condition : Bool) (m : Prog ε σ Unit) : Prog ε σ Unit :=
  if condition then m else pure ()

def getOrThrow (value : Option α) (e : ε) : Prog ε σ α :=
  match value with
  | some a => pure a
  | none => throw e

def ofExcept (result : Except ε α) : Prog ε σ α :=
  match result with
  | .ok a => pure a
  | .error e => throw e

def forEach (l : List α) (body : α → Prog ε σ Unit) : Prog ε σ Unit :=
  match l with
  | [] => pure ()
  | a :: l => do
      body a
      forEach l body

/-- The results of `body` on the elements of a list in order. -/
def mapEach (l : List α) (body : α → Prog ε σ β) : Prog ε σ (List β) :=
  match l with
  | [] => pure []
  | a :: l => do
      let b ← body a
      let bs ← mapEach l body
      pure (b :: bs)

/-- Runs a program on a part of the state. -/
def zoom {τ : Type} (get : σ → τ) (set : τ → σ → σ) (m : Prog ε τ α) : Prog ε σ α where
  run s fs := ((m.run (get s) fs).1, set (m.run (get s) fs).2.1 s, (m.run (get s) fs).2.2)
  reliable s := m.reliable (get s)
  steady s := by
    obtain ⟨n, hn⟩ := m.steady (get s)
    exact ⟨n, fun fs => by rw [hn]⟩

/-! ### The undisturbed call -/

/-- The call no fault disturbs: how it returns and the state it leaves. -/
def exec (m : Prog ε σ α) (s : σ) : Except ε α × σ :=
  match h : m.run s [] with
  | (.ok a, s', _) => (.ok a, s')
  | (.thrown e, s', _) => (.error e, s')
  | (.crashed, _, _) => absurd (by rw [h]) (m.reliable s).1

variable {f : σ → σ} {s : σ}

theorem exec_of_ok (h : m.run s [] = (.ok a, s', fs)) : m.exec s = (.ok a, s') := by
  unfold exec
  split <;> simp_all

theorem exec_of_thrown (h : m.run s [] = (.thrown e, s', fs)) : m.exec s = (.error e, s') := by
  unfold exec
  split <;> simp_all

/-- Without fates a run is determined by its undisturbed call. -/
theorem run_nil (m : Prog ε σ α) (s : σ) :
    m.run s [] =
      match m.exec s with
      | (.ok a, s') => (.ok a, s', [])
      | (.error e, s') => (.thrown e, s', []) := by
  have h := m.reliable s
  rcases hr : m.run s [] with ⟨a | e | _, s', fs'⟩
  · rw [hr] at h
    obtain rfl : fs' = [] := h.2
    rw [exec_of_ok hr]
  · rw [hr] at h
    obtain rfl : fs' = [] := h.2
    rw [exec_of_thrown hr]
  · rw [hr] at h
    exact absurd rfl h.1

theorem run_nil_state (m : Prog ε σ α) (s : σ) : (m.run s []).2.1 = (m.exec s).2 := by
  rw [m.run_nil s]
  rcases m.exec s with ⟨e | a, s'⟩ <;> rfl

@[simp] theorem exec_pure (a : α) (s : σ) :
    (pure a : Prog ε σ α).exec s = (.ok a, s) := exec_of_ok rfl

@[simp] theorem exec_throw (e : ε) (s : σ) :
    (throw e : Prog ε σ α).exec s = (.error e, s) := exec_of_thrown rfl

@[simp] theorem exec_read (f : σ → α) (s : σ) :
    (read f : Prog ε σ α).exec s = (.ok (f s), s) := exec_of_ok rfl

@[simp] theorem exec_modify (f : σ → σ) (s : σ) :
    (modify f : Prog ε σ Unit).exec s = (.ok (), f s) := exec_of_ok rfl

@[simp] theorem exec_call (f : σ → α × σ) (s : σ) :
    (call f : Prog ε σ α).exec s = (.ok (f s).1, (f s).2) := exec_of_ok rfl

@[simp] theorem exec_write (f : σ → σ) (s : σ) :
    (write f : Prog ε σ Unit).exec s = (.ok (), f s) := exec_of_ok rfl

@[simp] theorem exec_bind (m : Prog ε σ α) (k : α → Prog ε σ β) (s : σ) :
    (m >>= k).exec s =
      match m.exec s with
      | (.ok a, s') => (k a).exec s'
      | (.error e, s') => (.error e, s') := by
  have hr := m.run_nil s
  rcases hm : m.exec s with ⟨e | a, s'⟩
  · rw [hm] at hr
    have hb : (m >>= k).run s [] = (.thrown e, s', []) := by
      change (m.bind k).run s [] = _
      simp only [Prog.bind, hr]
    exact exec_of_thrown hb
  · rw [hm] at hr
    have hb : (m >>= k).run s [] = (k a).run s' [] := by
      change (m.bind k).run s [] = _
      simp only [Prog.bind, hr]
    have hk := (k a).run_nil s'
    rcases hka : (k a).exec s' with ⟨e | b, s''⟩
    · rw [hka] at hk
      exact (exec_of_thrown (hb.trans hk)).trans hka.symm
    · rw [hka] at hk
      exact (exec_of_ok (hb.trans hk)).trans hka.symm

theorem exec_bind_of_ok (h : m.exec s = (.ok a, t)) : (m >>= k).exec s = (k a).exec t := by
  rw [exec_bind, h]

theorem exec_bind_eq_ok :
    (m >>= k).exec s = (.ok b, s') ↔ ∃ a t, m.exec s = (.ok a, t) ∧ (k a).exec t = (.ok b, s') := by
  rcases hm : m.exec s with ⟨e | a, t⟩
  · simp [hm]
  · simp [hm, and_assoc]

@[simp] theorem exec_attempt (m : Prog ε σ α) (handler : ε → Prog ε σ α) (s : σ) :
    (m.attempt handler).exec s =
      match m.exec s with
      | (.ok a, s') => (.ok a, s')
      | (.error e, s') => (handler e).exec s' := by
  have hr := m.run_nil s
  rcases hm : m.exec s with ⟨e | a, s'⟩
  · rw [hm] at hr
    have hb : (m.attempt handler).run s [] = (handler e).run s' [] := by
      simp only [attempt, hr]
    have hk := (handler e).run_nil s'
    rcases hka : (handler e).exec s' with ⟨e' | b, s''⟩
    · rw [hka] at hk
      exact (exec_of_thrown (hb.trans hk)).trans hka.symm
    · rw [hka] at hk
      exact (exec_of_ok (hb.trans hk)).trans hka.symm
  · rw [hm] at hr
    have hb : (m.attempt handler).run s [] = (.ok a, s', []) := by
      simp only [attempt, hr]
    exact exec_of_ok hb

@[simp] theorem exec_require (c : Bool) (e : ε) (s : σ) :
    (require c e : Prog ε σ Unit).exec s = (if c then .ok () else .error e, s) := by
  cases c <;> simp [require]

@[simp] theorem exec_when (c : Bool) (m : Prog ε σ Unit) (s : σ) :
    (when c m).exec s = if c then m.exec s else (.ok (), s) := by
  cases c <;> simp [when]

@[simp] theorem exec_getOrThrow (value : Option α) (e : ε) (s : σ) :
    (getOrThrow value e : Prog ε σ α).exec s =
      (match value with | some a => .ok a | none => .error e, s) := by
  cases value <;> simp [getOrThrow]

@[simp] theorem exec_ofExcept (result : Except ε α) (s : σ) :
    (ofExcept result : Prog ε σ α).exec s = (result, s) := by
  cases result <;> simp [ofExcept]

@[simp] theorem exec_zoom (get : σ → τ) (set : τ → σ → σ) (m : Prog ε τ α) (s : σ) :
    (zoom get set m).exec s = ((m.exec (get s)).1, set (m.exec (get s)).2 s) := by
  have hr := m.run_nil (get s)
  rcases hm : m.exec (get s) with ⟨e | a, t⟩ <;> rw [hm] at hr
  · exact exec_of_thrown (show (zoom get set m).run s [] = (.thrown e, set t s, []) by
      simp only [zoom, hr])
  · exact exec_of_ok (show (zoom get set m).run s [] = (.ok a, set t s, []) by
      simp only [zoom, hr])

/-- Undisturbed, `m` throws nothing. -/
def Returns (m : Prog ε σ α) : Prop := ∀ s, ∃ a s', m.exec s = (.ok a, s')

theorem returns_pure : (pure a : Prog ε σ α).Returns := fun s => ⟨a, s, exec_pure a s⟩

theorem returns_read {f : σ → α} : (read f : Prog ε σ α).Returns := fun s =>
  ⟨f s, s, exec_read f s⟩

theorem returns_modify : (modify f : Prog ε σ Unit).Returns := fun s =>
  ⟨(), f s, exec_modify f s⟩

theorem returns_call {f : σ → α × σ} : (call f : Prog ε σ α).Returns := fun s =>
  ⟨(f s).1, (f s).2, exec_call f s⟩

theorem returns_write : (write f : Prog ε σ Unit).Returns := fun s =>
  ⟨(), f s, exec_write f s⟩

theorem returns_bind (hm : m.Returns) (hk : ∀ a, (k a).Returns) : (m >>= k).Returns := by
  intro s
  obtain ⟨a, s', h⟩ := hm s
  obtain ⟨b, s'', h'⟩ := hk a s'
  exact ⟨b, s'', by simp [h, h']⟩

theorem returns_when {m : Prog ε σ Unit} (h : m.Returns) : (when c m).Returns := by
  cases c
  · exact returns_pure
  · exact h

theorem returns_mapEach (h : ∀ a, (body a).Returns) : (mapEach l body).Returns := by
  induction l with
  | nil => exact returns_pure
  | cons a l ih =>
    exact returns_bind (h a) fun _ => returns_bind ih fun _ => returns_pure

theorem returns_forEach {body : α → Prog ε σ Unit} (h : ∀ a, (body a).Returns) :
    (forEach l body).Returns := by
  induction l with
  | nil => exact returns_pure
  | cons a l ih => exact returns_bind (h a) fun _ => ih

/-- From `s`, whatever fates are waiting, `m` returns `a`, leaves `s'`, and meets none of
them: it makes no durable write. -/
def Quiet (m : Prog ε σ α) (s : σ) (a : α) (s' : σ) : Prop := ∀ fs, m.run s fs = (.ok a, s', fs)

theorem quiet_pure : (pure a : Prog ε σ α).Quiet s a s := fun _ => rfl

theorem quiet_read {f : σ → α} {s : σ} : (read f : Prog ε σ α).Quiet s (f s) s := fun _ => rfl

theorem quiet_modify : (modify f : Prog ε σ Unit).Quiet s () (f s) :=
  fun _ => rfl

theorem quiet_bind (hm : m.Quiet s a t) (hk : (k a).Quiet t b s') : (m >>= k).Quiet s b s' := by
  intro fs
  change (m.bind k).run s fs = _
  simp only [Prog.bind, hm fs, hk fs]

theorem quiet_when {m : Prog ε σ Unit} {s : σ} (h : c = false) : (when c m).Quiet s () s := by
  subst h
  exact quiet_pure

/-! ### Calls that fail -/

/-- There is a write at which `m` can throw `e`, and `s'` is what it then leaves. -/
def Fails (m : Prog ε σ α) (s s' : σ) (e : ε) : Prop := ∃ fs, m.run s fs = (.thrown e, s', [])

theorem fails_write : (write f : Prog ε σ Unit).Fails s s e :=
  ⟨[.throws e], rfl⟩

theorem fails_bind_left (h : m.Fails s s' e) : (m >>= k).Fails s s' e := by
  obtain ⟨fs, hm⟩ := h
  refine ⟨fs, ?_⟩
  change (m.bind k).run s fs = _
  simp only [Prog.bind, hm]

theorem run_bind_pure {fs' : List (Fate ε)} (h : m.run s fs = (.ok a, s', fs')) :
    (m >>= fun _ => pure b).run s fs = (.ok b, s', fs') := by
  change (m.bind fun _ => pure b).run s fs = _
  simp only [Prog.bind, h]
  rfl

/-- The first part does all its writes, whatever their number, before the second begins. -/
theorem run_bind_exec (hm : m.exec s = (.ok a, t)) :
    ∃ n, ∀ fs, (m >>= k).run s (List.replicate n .done ++ fs) = (k a).run t fs := by
  obtain ⟨n, hn⟩ := m.steady s
  rw [m.run_nil s, hm] at hn
  refine ⟨n, fun fs => ?_⟩
  change (m.bind k).run s _ = _
  simp only [Prog.bind, hn]

theorem fails_bind (hm : m.exec s = (.ok a, t)) (hk : (k a).Fails t s' e) :
    (m >>= k).Fails s s' e := by
  obtain ⟨n, hn⟩ := run_bind_exec hm
  obtain ⟨fs, hfs⟩ := hk
  exact ⟨List.replicate n .done ++ fs, (hn fs).trans hfs⟩

theorem Fails.caught (h : m.Fails s s' e) (a : ε → α) :
    ∃ fs, (m.attempt fun e => pure (a e)).run s fs = (.ok (a e), s', []) := by
  obtain ⟨fs, hm⟩ := h
  refine ⟨fs, ?_⟩
  simp only [attempt, hm]
  rfl

/-- The process can die in `m`, leaving `s'`. -/
def Cuts (m : Prog ε σ α) (s s' : σ) : Prop := ∃ fs, m.run s fs = (.crashed, s', [])

theorem cuts_write : (write f : Prog ε σ Unit).Cuts s s := ⟨[.crash], rfl⟩

theorem cuts_bind_left (hm : m.Cuts s s') : (m >>= k).Cuts s s' := by
  obtain ⟨fs, hm⟩ := hm
  refine ⟨fs, ?_⟩
  change (m.bind k).run s fs = _
  simp only [Prog.bind, hm]

theorem cuts_bind (hm : m.exec s = (.ok a, t)) (hk : (k a).Cuts t s') : (m >>= k).Cuts s s' := by
  obtain ⟨n, hn⟩ := run_bind_exec hm
  obtain ⟨fs, hfs⟩ := hk
  exact ⟨List.replicate n .done ++ fs, (hn fs).trans hfs⟩

/-! ### Every call

`m.wp Q E s` says what holds after `m` is run from `s`, whatever the
fates of its writes: `Q` of the value and the state it returns with, `E`
of the state an exception or a crash leaves. The fates of the two halves
of a sequence are quantified independently, which asks for more than is
needed and is what makes the rules compose. -/

/-- The weakest precondition over all fates. -/
def wp (m : Prog ε σ α) (Q : α → σ → Prop) (E : σ → Prop) (s : σ) : Prop :=
  ∀ fs, match m.run s fs with
    | (.ok a, s', _) => Q a s'
    | (.thrown _, s', _) => E s'
    | (.crashed, s', _) => E s'

variable {Q : α → σ → Prop} {E : σ → Prop} {s : σ}

theorem wp_pure (h : Q a s) : (pure a : Prog ε σ α).wp Q E s := fun _ => h

theorem wp_throw (h : E s) : (throw e : Prog ε σ α).wp Q E s := fun _ => h

theorem wp_read {f : σ → α} (h : Q (f s) s) : (read f : Prog ε σ α).wp Q E s := fun _ => h

theorem wp_modify {f : σ → σ} {Q : Unit → σ → Prop} (h : Q () (f s)) :
    (modify f : Prog ε σ Unit).wp Q E s := fun _ => h

theorem wp_call {f : σ → α × σ} (h : Q (f s).1 (f s).2) :
    (call f : Prog ε σ α).wp Q E s := fun _ => h

theorem wp_write {f : σ → σ} {Q : Unit → σ → Prop} (h : Q () (f s)) (hE : E s) :
    (write f : Prog ε σ Unit).wp Q E s := by
  intro fs
  match fs with
  | [] => exact h
  | .done :: _ => exact h
  | .throws _ :: _ => exact hE
  | .crash :: _ => exact hE

theorem wp_bind {Q : β → σ → Prop} (h : m.wp (fun a s' => (k a).wp Q E s') E s) :
    (m >>= k).wp Q E s := by
  intro fs
  have hm := h fs
  change match (m.bind k).run s fs with
    | (.ok a, s', _) => Q a s'
    | (.thrown _, s', _) => E s'
    | (.crashed, s', _) => E s'
  rcases hr : m.run s fs with ⟨a | e | _, s', fs'⟩
  · rw [hr] at hm
    simp only [Prog.bind, hr]
    exact hm fs'
  · rw [hr] at hm
    simpa only [Prog.bind, hr] using hm
  · rw [hr] at hm
    simpa only [Prog.bind, hr] using hm

theorem wp_mono {Q' : α → σ → Prop} {E' : σ → Prop} (h : m.wp Q E s) (hQ : ∀ a s', Q a s' → Q' a s')
    (hE : ∀ s', E s' → E' s') : m.wp Q' E' s := by
  intro fs
  have hm := h fs
  rcases hr : m.run s fs with ⟨a | e | _, s', fs'⟩ <;> rw [hr] at hm
  · exact hQ a s' hm
  · exact hE s' hm
  · exact hE s' hm

theorem wp_then {R : α → σ → Prop} {Q : β → σ → Prop} (hm : m.wp R E s)
    (hk : ∀ a s', R a s' → (k a).wp Q E s') : (m >>= k).wp Q E s :=
  wp_bind (wp_mono hm hk fun _ h => h)

theorem wp_true : m.wp (fun _ _ => True) (fun _ => True) s := by
  intro fs
  rcases m.run s fs with ⟨a | e | _, s', fs'⟩ <;> trivial

/-- What an exception leaves, `R`, has to satisfy the handler; what a crash
leaves has to be acceptable as it is. -/
theorem wp_attempt {R : σ → Prop} (h : m.wp Q R s) (hcrash : ∀ s', R s' → E s')
    (hthrown : ∀ e s', R s' → (handler e).wp Q E s') : (m.attempt handler).wp Q E s := by
  intro fs
  have hm := h fs
  rcases hr : m.run s fs with ⟨a | e | _, s', fs'⟩ <;> rw [hr] at hm
  · simpa only [attempt, hr] using hm
  · simp only [attempt, hr]
    exact hthrown e s' hm fs'
  · simpa only [attempt, hr] using hcrash s' hm

theorem wp_require {Q : Unit → σ → Prop} (h : c = true → Q () s) (hE : c = false → E s) :
    (require c e : Prog ε σ Unit).wp Q E s := by
  cases c
  · exact wp_throw (hE rfl)
  · exact wp_pure (h rfl)

theorem wp_when {m : Prog ε σ Unit} {Q : Unit → σ → Prop} (h : c = true → m.wp Q E s)
    (h' : c = false → Q () s) : (when c m).wp Q E s := by
  cases c
  · exact wp_pure (h' rfl)
  · exact h rfl

theorem wp_getOrThrow {value : Option α} (h : ∀ a, value = some a → Q a s)
    (hE : value = none → E s) : (getOrThrow value e : Prog ε σ α).wp Q E s := by
  cases value with
  | none => exact wp_throw (hE rfl)
  | some a => exact wp_pure (h a rfl)

theorem wp_ofExcept (h : ∀ a, result = .ok a → Q a s) (hE : E s) :
    (ofExcept result : Prog ε σ α).wp Q E s := by
  cases result with
  | error e => exact wp_throw hE
  | ok a => exact wp_pure (h a rfl)

theorem wp_run_ok {fs' : List (Fate ε)} (h : m.wp Q E s) (hr : m.run s fs = (.ok a, s', fs')) :
    Q a s' := by
  have hm := h fs
  rwa [hr] at hm

theorem wp_zoom {get : σ → τ} {set : τ → σ → σ} {m : Prog ε τ α}
    (h : m.wp (fun a t => Q a (set t s)) (fun t => E (set t s)) (get s)) :
    (zoom get set m).wp Q E s := by
  intro fs
  have hm := h fs
  rcases hr : m.run (get s) fs with ⟨a | e | _, t, fs'⟩ <;> rw [hr] at hm <;>
    simpa only [zoom, hr] using hm

/-- The undisturbed call is one of the calls `wp` speaks about. -/
theorem wp_final {I : σ → Prop} (h : m.wp (fun _ => I) I s) (fs : List (Fate ε)) :
    I (m.run s fs).2.1 := by
  have hm := h fs
  rcases hr : m.run s fs with ⟨a | e | _, s', fs'⟩ <;> rw [hr] at hm <;> exact hm

/-- What a sequence leaves: what the second part leaves after the first has returned, or what
the first leaves where it stops. -/
theorem final_bind {I : σ → Prop}
    (hk : ∀ a s' fs', m.run s fs = (.ok a, s', fs') → I ((k a).run s' fs').2.1)
    (hm : (∀ a s' fs', m.run s fs ≠ (.ok a, s', fs')) → I (m.run s fs).2.1) :
    I ((m >>= k).run s fs).2.1 := by
  change I ((m.bind k).run s fs).2.1
  rcases hr : m.run s fs with ⟨a | e | _, s', fs'⟩
  · simpa only [Prog.bind, hr] using hk a s' fs' hr
  · simpa only [Prog.bind, hr] using hm (by simp [hr])
  · simpa only [Prog.bind, hr] using hm (by simp [hr])

theorem wp_exec {I : σ → Prop} (h : m.wp (fun _ => I) I s) : I (m.exec s).2 := by
  have hm := h []
  rw [m.run_nil s] at hm
  rcases hx : m.exec s with ⟨e | a, s'⟩ <;> rw [hx] at hm <;> exact hm

theorem wp_exec_of_ok (h : m.wp Q E s) (hx : m.exec s = (.ok a, s')) : Q a s' := by
  have hr := m.run_nil s
  rw [hx] at hr
  exact wp_run_ok h hr

theorem wp_exec_of_error (h : m.wp Q E s) (hx : m.exec s = (.error e, s')) : E s' := by
  have hm := h []
  rwa [m.run_nil s, hx] at hm

/-- `I` survives `m`, at whatever write it stops. -/
def Keeps (I : σ → Prop) (m : Prog ε σ α) : Prop := ∀ s, I s → m.wp (fun _ => I) I s

variable {I : σ → Prop}

theorem Keeps.run (h : m.Keeps I) (hs : I s) (fs : List (Fate ε)) :
    I (m.run s fs).2.1 := wp_final (h s hs) fs

theorem Keeps.exec (h : m.Keeps I) (hs : I s) : I (m.exec s).2 :=
  wp_exec (h s hs)

theorem keeps_pure : (pure a : Prog ε σ α).Keeps I := fun _ hs => wp_pure hs

theorem keeps_read {f : σ → α} : (read f : Prog ε σ α).Keeps I := fun _ hs => wp_read hs

theorem keeps_modify {f : σ → σ} (h : ∀ s, I s → I (f s)) :
    (modify f : Prog ε σ Unit).Keeps I := fun s hs => wp_modify (h s hs)

theorem keeps_write {f : σ → σ} (h : ∀ s, I s → I (f s)) :
    (write f : Prog ε σ Unit).Keeps I := fun s hs => wp_write (h s hs) hs

theorem keeps_bind (hm : m.Keeps I) (hk : ∀ a, (k a).Keeps I) : (m >>= k).Keeps I := fun s hs =>
  wp_then (hm s hs) hk

theorem keeps_read_bind {f : σ → α} (hk : ∀ s, I s → (k (f s)).wp (fun _ => I) I s) :
    (read f >>= k).Keeps I :=
  fun s hs => wp_bind (wp_read (hk s hs))

theorem keeps_attempt (hm : m.Keeps I) (hh : ∀ e, (handler e).Keeps I) :
    (m.attempt handler).Keeps I := fun s hs =>
  wp_attempt (hm s hs) (fun _ h => h) fun e s' h => hh e s' h

theorem keeps_when {m : Prog ε σ Unit} (h : c = true → m.Keeps I) :
    (when c m).Keeps I := fun s hs => wp_when (fun hc => h hc s hs) fun _ => hs

theorem keeps_getOrThrow_bind {value : Option α} (hk : ∀ a, value = some a → (k a).Keeps I) :
    (getOrThrow value e >>= k).Keeps I :=
  fun s hs => wp_bind (wp_getOrThrow (fun a ha => hk a ha s hs) fun _ => hs)

theorem keeps_ofExcept_bind (hk : ∀ a, result = .ok a → (k a).Keeps I) :
    (ofExcept result >>= k).Keeps I :=
  fun s hs => wp_bind (wp_ofExcept (fun a ha => hk a ha s hs) hs)

theorem keeps_ofExcept : (ofExcept result : Prog ε σ α).Keeps I :=
  fun _ hs => wp_ofExcept (fun _ _ => hs) hs

theorem keeps_require : (require c e : Prog ε σ Unit).Keeps I := fun _ hs =>
  wp_require (fun _ => hs) fun _ => hs

theorem keeps_runCatching (h : m.Keeps I) : m.runCatching.Keeps I :=
  keeps_attempt (keeps_bind h fun _ => keeps_pure) fun _ => keeps_pure

theorem keeps_forEach {body : α → Prog ε σ Unit} (h : ∀ a ∈ l, (body a).Keeps I) :
    (forEach l body).Keeps I := by
  induction l with
  | nil => exact keeps_pure
  | cons a l ih =>
    exact keeps_bind (h a (by simp)) fun _ => ih fun b hb => h b (by simp [hb])

theorem keeps_mapEach (h : ∀ a ∈ l, (body a).Keeps I) : (mapEach l body).Keeps I := by
  induction l with
  | nil => exact keeps_pure
  | cons a l ih =>
    exact keeps_bind (h a (by simp)) fun _ =>
      keeps_bind (ih fun b hb => h b (by simp [hb])) fun _ => keeps_pure

/-- Nothing `m` does changes what `f` reads. -/
def Leaves (f : σ → β) (m : Prog ε σ α) : Prop := ∀ b, m.Keeps fun s => f s = b

variable {γ : Type} {f : σ → γ}

theorem Leaves.exec (h : m.Leaves f) (s : σ) : f (m.exec s).2 = f s :=
  (h (f s)).exec rfl

theorem Leaves.of_exec (h : m.Leaves f) {s : σ} {r : Except ε α} (hexec : m.exec s = (r, s')) :
    f s' = f s := by
  have hs := h.exec s
  rwa [hexec] at hs

section Simulation

variable {R : σ → τ → Prop} {m' : Prog ε τ α}

/-- Whatever becomes of their writes, the programs end alike, and in states that are related. -/
def Simulates (R : σ → τ → Prop) (m : Prog ε σ α) (m' : Prog ε τ α) : Prop :=
  ∀ s t, R s t → ∀ fs, ∃ outcome s' t' rest, m.run s fs = (outcome, s', rest) ∧
    m'.run t fs = (outcome, t', rest) ∧ R s' t'

theorem simulates_pure (a : α) : Simulates R (pure a : Prog ε σ α) (pure a) :=
  fun s t h fs => ⟨_, s, t, fs, rfl, rfl, h⟩

theorem simulates_read {f : σ → α} {g : τ → α} (h : ∀ s t, R s t → f s = g t) :
    Simulates R (read f : Prog ε σ α) (read g) :=
  fun s t hst fs => ⟨_, s, t, fs, rfl, by rw [h s t hst]; rfl, hst⟩

theorem simulates_write {f : σ → σ} {g : τ → τ} (h : ∀ s t, R s t → R (f s) (g t)) :
    Simulates R (write f : Prog ε σ Unit) (write g) := by
  intro s t hst fs
  rcases fs with _ | ⟨_ | _ | _, fs⟩
  · exact ⟨_, _, _, _, rfl, rfl, h s t hst⟩
  · exact ⟨_, _, _, _, rfl, rfl, h s t hst⟩
  · exact ⟨_, _, _, _, rfl, rfl, hst⟩
  · exact ⟨_, _, _, _, rfl, rfl, hst⟩

theorem simulates_bind {k' : α → Prog ε τ β} (hm : Simulates R m m')
    (hk : ∀ a, Simulates R (k a) (k' a)) : Simulates R (m >>= k) (m' >>= k') := by
  intro s t h fs
  obtain ⟨outcome, s', t', rest, hrun, hrun', h'⟩ := hm s t h fs
  change ∃ outcome s' t' rest, (m.bind k).run s fs = _ ∧ (m'.bind k').run t fs = _ ∧ _
  simp only [Prog.bind, hrun, hrun']
  cases outcome with
  | ok a => exact hk a s' t' h' rest
  | _ => exact ⟨_, _, _, _, rfl, rfl, h'⟩

theorem simulates_when {m : Prog ε σ Unit} {m' : Prog ε τ Unit} (h : Simulates R m m') :
    Simulates R (when c m) (when c m') := by
  cases c
  · exact simulates_pure ()
  · exact h

end Simulation

-- a program is never evaluated to see what its precondition says: from here on the rules
-- are all that is used
attribute [irreducible] wp

end Prog

-- the rules are used by their own names
export Prog (run_nil_state exec_pure exec_read exec_modify exec_call exec_write exec_bind
  exec_bind_of_ok exec_bind_eq_ok exec_attempt exec_require exec_when exec_getOrThrow
  exec_ofExcept exec_zoom returns_pure returns_read returns_modify returns_call returns_write
  returns_bind returns_when returns_mapEach returns_forEach quiet_pure quiet_read quiet_modify
  quiet_bind quiet_when fails_write fails_bind_left run_bind_pure run_bind_exec fails_bind
  cuts_write cuts_bind_left cuts_bind wp_pure wp_throw wp_read wp_modify wp_call wp_write wp_bind
  wp_mono wp_then wp_true wp_attempt wp_require wp_when wp_getOrThrow wp_ofExcept wp_run_ok wp_zoom
  wp_final final_bind wp_exec_of_ok wp_exec_of_error keeps_pure keeps_read
  keeps_modify keeps_write keeps_bind keeps_read_bind keeps_attempt keeps_when
  keeps_getOrThrow_bind keeps_ofExcept_bind keeps_ofExcept keeps_require keeps_runCatching
  keeps_forEach keeps_mapEach simulates_pure simulates_read simulates_write simulates_bind
  simulates_when)

end LibreRoute.Lib
