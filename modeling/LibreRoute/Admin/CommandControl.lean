import LibreRoute.Lib.Machine
import Mathlib.Data.List.Nodup
import Mathlib.Logic.Function.Basic

/-!
The bookkeeping of administrator commands.

`AdminCommandControl.run` surrounds the work of a command. An outermost call
puts its frame into the slot of the thread; a command of a workflow puts its
own frame there for as long as it runs; every other nested call, which is an
access probe, only counts in the frame it finds. A change of the phase is
meant for the frame in the slot, and is ignored while a probe is running.

What this is for is the machine `Calls`: every thread has a stack of calls,
and every call but a probe has a phase of its own. The bookkeeping refines it,
with the events of the threads interleaved in any way. Frames are kept with
their thread, and their random ids are distinct.
-/

namespace LibreRoute.Admin

open Lib Function

namespace CommandControl

inductive Phase
  | checking
  | forming
  | sending
  deriving DecidableEq

structure Action where
  id : Nat
  serverId : Option String
  operation : String
  phase : Phase
  blocksUi : Bool := true
  detail : Option String := none
  deriving DecidableEq

structure Frame where
  id : Nat
  phase : Phase := .checking
  depth : Nat := 1
  workflow : Bool := false
  visibleId : Nat
  deriving DecidableEq

/-- A call of `run` that has not returned, with what it does when it does. -/
inductive Activation
  | outermost (frame : Nat) (lock : Option String)
  | command (frame parent : Nat)
  | nested (parent : Nat)
  deriving DecidableEq

structure ThreadState where
  /-- The slot of the thread. -/
  current : Option Nat
  frames : Nat → Frame
  /-- The calls, innermost first. -/
  stack : List Activation

inductive Event
  | run (serverId : Option String) (operation : String) (mutation workflow : Bool)
  | phase (phase : Phase)
  | stage (detail : String)
  /-- The work of the innermost call is over. -/
  | leave (threw : Bool)

variable {T : Type} [DecidableEq T] {lock : Option String} {threw workflow : Bool}

/-- The fields of `AdminCommandControl`, the threads, and the ids `cancelled` was called with. -/
structure ControlState (T : Type) where
  threads : T → ThreadState
  actions : List Action
  /-- The owner of a lock and how often it holds it. -/
  mutationLocks : String → Option (T × Nat)
  cancelled : List Nat
  nextId : Nat

def tryLock (locks : String → Option (T × Nat)) (t : T) (key : String) :
    Option (String → Option (T × Nat)) :=
  match locks key with
  | none => some (update locks key (some (t, 1)))
  | some (owner, n) =>
    if owner = t then some (update locks key (some (t, n + 1))) else none

/-- A call that does not mutate needs no lock. -/
def acquire (locks : String → Option (T × Nat)) (t : T) :
    Option String → Option (String → Option (T × Nat))
  | none => some locks
  | some key => tryLock locks t key

def unlock (locks : String → Option (T × Nat)) (t : T) (key : String) : String → Option (T × Nat) :=
  match locks key with
  | none => locks
  | some (owner, n) =>
    if owner = t then update locks key (if n = 1 then none else some (t, n - 1))
    else locks

def release (locks : String → Option (T × Nat)) (t : T) : Option String → String → Option (T × Nat)
  | none => locks
  | some key => unlock locks t key

/-- `mutationLocks.getOrPut(serverId ?: "legacy")`. -/
def lockKey (serverId : Option String) (mutation : Bool) : Option String :=
  if mutation then some (serverId.getD "legacy") else none

namespace ControlState

def initial : ControlState T where
  threads _ :=
    { current := none, frames := fun id => { id := id, visibleId := id }, stack := [] }
  actions := []
  mutationLocks _ := none
  cancelled := []
  nextId := 0

def setThread (s : ControlState T) (t : T) (thread : ThreadState) : ControlState T :=
  { s with threads := update s.threads t thread }

/-- The beginning of `run`. -/
def enter (s : ControlState T) (t : T) (serverId : Option String) (operation : String)
    (mutation workflow : Bool) : ControlState T :=
  let thread := s.threads t
  match thread.current with
  | some parent =>
    let frame := thread.frames parent
    if frame.workflow then
      let command : Frame := { id := s.nextId, visibleId := frame.visibleId }
      { s.setThread t
          { current := some s.nextId
            frames := update thread.frames s.nextId command
            stack := .command s.nextId parent :: thread.stack } with
        nextId := s.nextId + 1 }
    else
      s.setThread t
        { thread with
          frames := update thread.frames parent { frame with depth := frame.depth + 1 }
          stack := .nested parent :: thread.stack }
  | none =>
    let frame : Frame := { id := s.nextId, workflow := workflow, visibleId := s.nextId }
    match acquire s.mutationLocks t (lockKey serverId mutation) with
    | none => { s with cancelled := s.cancelled ++ [frame.id], nextId := s.nextId + 1 }
    | some locks =>
      { s.setThread t
          { current := some s.nextId
            frames := update thread.frames s.nextId frame
            stack := .outermost s.nextId (lockKey serverId mutation) :: thread.stack } with
        actions := s.actions ++
          [{ id := frame.id
             serverId := serverId
             operation := operation
             phase := frame.phase
             blocksUi := mutation }]
        mutationLocks := locks
        nextId := s.nextId + 1 }

/-- `if (frame.phase != Phase.SENDING) cancelled(frame.id, error)` in a handler. -/
def cancelledBy (frame : Frame) (threw : Bool) : List Nat :=
  if threw && frame.phase != .sending then [frame.id] else []

/-- The end of `run`, after its work has returned or thrown. -/
def leave (s : ControlState T) (t : T) (threw : Bool) : Option (ControlState T) :=
  let thread := s.threads t
  match thread.stack with
  | [] => none
  | .nested parent :: stack =>
    let frame := thread.frames parent
    some (s.setThread t
      { thread with
        frames := update thread.frames parent { frame with depth := frame.depth - 1 }
        stack := stack })
  | .command frame parent :: stack =>
    some
      { s.setThread t { thread with current := some parent, stack := stack } with
        cancelled := s.cancelled ++ cancelledBy (thread.frames frame) threw }
  | .outermost frame lock :: stack =>
    some
      { s.setThread t { thread with current := none, stack := stack } with
        actions := s.actions.filter fun a => a.id != (thread.frames frame).id
        mutationLocks := release s.mutationLocks t lock
        cancelled := s.cancelled ++ cancelledBy (thread.frames frame) threw }

def phase (s : ControlState T) (t : T) (phase : Phase) : ControlState T :=
  let thread := s.threads t
  match thread.current with
  | none => s
  | some id =>
    let frame := thread.frames id
    -- a nested snapshot is the access probe, not submission of the parent command
    if frame.depth ≠ 1 then s
    else
      { s.setThread t
          { thread with
            frames := update thread.frames id { frame with phase := phase } } with
        actions := s.actions.map fun a =>
          if a.id = frame.id then { a with phase := phase } else a }

def stage (s : ControlState T) (t : T) (detail : String) : ControlState T :=
  let thread := s.threads t
  match thread.current with
  | none => s
  | some id =>
    { s with
      actions := s.actions.map fun a =>
        if a.id = (thread.frames id).visibleId then { a with detail := some detail } else a }

end ControlState

def control : Machine (T × Event) (ControlState T) where
  step s l :=
    match l.2 with
    | .run serverId operation mutation workflow =>
      some (s.enter l.1 serverId operation mutation workflow)
    | .phase phase => some (s.phase l.1 phase)
    | .stage detail => some (s.stage l.1 detail)
    | .leave threw => s.leave l.1 threw

/-! ### Stacks of calls -/

inductive Call
  | outermost (id : Nat) (workflow : Bool) (lock : Option String) (phase : Phase)
  | command (id : Nat) (phase : Phase)
  | probe
  deriving DecidableEq

namespace Call

def id : Call → Option Nat
  | outermost id _ _ _ => some id
  | command id _ => some id
  | probe => none

def ids (calls : List Call) : List Nat := calls.filterMap id

@[simp] theorem ids_nil : ids [] = [] := rfl

@[simp] theorem ids_outermost (i : Nat) (workflow : Bool) (lock : Option String) (phase : Phase)
    (calls : List Call) : ids (outermost i workflow lock phase :: calls) = i :: ids calls := rfl

@[simp] theorem ids_command (i : Nat) (phase : Phase) (calls : List Call) :
    ids (command i phase :: calls) = i :: ids calls := rfl

def base : Call → Option (Nat × Option String)
  | outermost id _ lock _ => some (id, lock)
  | command _ _ => none
  | probe => none

def bases (calls : List Call) : List (Nat × Option String) := calls.filterMap base

theorem mem_bases {i : Nat} {calls : List Call} :
    (i, lock) ∈ bases calls ↔ ∃ workflow phase, outermost i workflow lock phase ∈ calls := by
  rw [bases, List.mem_filterMap]
  constructor
  · rintro ⟨_ | _ | _, hmem, hbase⟩ <;> simp only [base, reduceCtorEq] at hbase
    obtain ⟨rfl, rfl⟩ := Prod.mk.inj (Option.some.inj hbase)
    exact ⟨_, _, hmem⟩
  · rintro ⟨workflow, phase, hmem⟩
    exact ⟨_, hmem, rfl⟩

def setPhase (phase : Phase) : Call → Call
  | outermost id workflow lock _ => outermost id workflow lock phase
  | command id _ => command id phase
  | probe => probe

/-- A call that throws is cancelled, unless it is a probe or was sending. -/
def cancelled (threw : Bool) : Call → List Nat
  | outermost id _ _ phase => if threw && phase != .sending then [id] else []
  | command id phase => if threw && phase != .sending then [id] else []
  | probe => []

end Call

open Call (base bases ids mem_bases)

structure Calls (T : Type) where
  calls : T → List Call
  cancelled : List Nat
  nextId : Nat

namespace Calls

def initial : Calls T where
  calls _ := []
  cancelled := []
  nextId := 0

def Holds (a : Calls T) (t : T) (key : String) : Prop :=
  ∃ id workflow phase, Call.outermost id workflow (some key) phase ∈ a.calls t

def Runs (a : Calls T) (id : Nat) : Prop :=
  ∃ t workflow lock phase, Call.outermost id workflow lock phase ∈ a.calls t

def Busy (a : Calls T) (t : T) (lock : Option String) : Prop :=
  ∃ key, lock = some key ∧ ∃ owner, owner ≠ t ∧ a.Holds owner key

def setCalls (a : Calls T) (t : T) (calls : List Call) : Calls T :=
  { a with calls := update a.calls t calls }

open Classical in
noncomputable def enter (a : Calls T) (t : T) (serverId : Option String)
    (mutation workflow : Bool) : Calls T :=
  match a.calls t with
  | [] =>
    let lock := lockKey serverId mutation
    if a.Busy t lock then
      { a with cancelled := a.cancelled ++ [a.nextId], nextId := a.nextId + 1 }
    else
      { a.setCalls t [.outermost a.nextId workflow lock .checking] with nextId := a.nextId + 1 }
  | .outermost id true lock phase :: calls =>
    { a.setCalls t (.command a.nextId .checking :: .outermost id true lock phase :: calls) with
      nextId := a.nextId + 1 }
  | call :: calls => a.setCalls t (.probe :: call :: calls)

def leave (a : Calls T) (t : T) (threw : Bool) : Option (Calls T) :=
  match a.calls t with
  | [] => none
  | call :: calls =>
    some { a.setCalls t calls with cancelled := a.cancelled ++ call.cancelled threw }

def phase (a : Calls T) (t : T) (phase : Phase) : Calls T :=
  match a.calls t with
  | [] => a
  | call :: calls => a.setCalls t (call.setPhase phase :: calls)

noncomputable def machine : Machine (T × Event) (Calls T) where
  step a l :=
    match l.2 with
    | .run serverId _ mutation workflow => some (a.enter l.1 serverId mutation workflow)
    | .phase phase => some (a.phase l.1 phase)
    | .stage _ => some a
    | .leave threw => a.leave l.1 threw

end Calls

/-! ### The slot and the count of one thread -/

/-- The frame in the slot is that of the innermost call that has one. -/
def currentOf : List Activation → Option Nat
  | [] => none
  | .outermost frame _ :: _ => some frame
  | .command frame _ :: _ => some frame
  | .nested parent :: _ => some parent

/-- One more than the probes above that frame. -/
def depthOf : List Activation → Nat
  | [] => 0
  | .outermost _ _ :: _ => 1
  | .command _ _ :: _ => 1
  | .nested _ :: stack => depthOf stack + 1

/-- The frames, the activations and the slot of a thread show a stack of calls, above which
`n` probes are running. -/
inductive Mirrors (frames : Nat → Frame) : Nat → List Activation → List Call → Option Nat → Prop
  | idle : Mirrors frames 0 [] [] none
  | outermost {n id : Nat} {workflow : Bool} {lock : Option String} {phase : Phase}
      (hframe : frames id = ⟨id, phase, n + 1, workflow, id⟩) (hprobes : workflow = true → n = 0) :
      Mirrors frames n [.outermost id lock] [.outermost id workflow lock phase] (some id)
  | command {n id parent : Nat} {lock : Option String} {phase phase' : Phase}
      (hframe : frames id = ⟨id, phase, n + 1, false, parent⟩)
      (hparent : frames parent = ⟨parent, phase', 1, true, parent⟩) (hne : parent ≠ id) :
      Mirrors frames n [.command id parent, .outermost parent lock]
        [.command id phase, .outermost parent true lock phase'] (some id)
  | probe {n id : Nat} {stack : List Activation} {calls : List Call}
      (h : Mirrors frames (n + 1) stack calls (some id)) :
      Mirrors frames n (.nested id :: stack) (.probe :: calls) (some id)

namespace Mirrors

variable {frames : Nat → Frame} {n id : Nat} {stack : List Activation} {calls : List Call}
  {current : Option Nat}

theorem current_eq (h : Mirrors frames n stack calls current) : current = currentOf stack := by
  cases h <;> rfl

theorem depth_eq (h : Mirrors frames n stack calls (some id)) :
    (frames id).depth = n + depthOf stack := by
  generalize hcurrent : some id = current at h
  induction h with
  | idle => simp at hcurrent
  | outermost hframe _ =>
    obtain rfl := Option.some.inj hcurrent
    rw [hframe]
    rfl
  | command hframe _ _ =>
    obtain rfl := Option.some.inj hcurrent
    rw [hframe]
    rfl
  | probe _ ih =>
    rw [ih hcurrent, depthOf]
    omega

theorem workflow_of_probe (h : Mirrors frames (n + 1) stack calls (some id)) :
    (frames id).workflow = false := by
  generalize hm : n + 1 = m at h
  generalize hcurrent : some id = current at h
  induction h generalizing n with
  | idle => omega
  | @outermost _ _ workflow _ _ hframe hprobes =>
    obtain rfl := Option.some.inj hcurrent
    rw [hframe]
    cases workflow with
    | false => rfl
    | true =>
      have := hprobes rfl
      omega
  | command hframe _ _ =>
    obtain rfl := Option.some.inj hcurrent
    rw [hframe]
  | probe _ ih => exact ih rfl hcurrent

theorem mem_bases (h : Mirrors frames n stack calls current) {i : Nat} :
    (i, lock) ∈ bases calls ↔ .outermost i lock ∈ stack := by
  induction h with
  | idle => simp [bases]
  | outermost _ _ => simp [bases, base]
  | command _ _ _ => simp [bases, base, eq_comm]
  | probe _ ih =>
    rw [List.mem_cons, ← ih]
    simp [bases, base]

theorem outermost_unique (h : Mirrors frames n stack calls current) {i i' : Nat}
    {lock' : Option String} (hmem : .outermost i lock ∈ stack)
    (hmem' : .outermost i' lock' ∈ stack) : i = i' := by
  induction h with
  | idle => simp at hmem
  | outermost _ _ => simp_all
  | command _ _ _ => simp_all
  | probe _ ih => exact ih (by simpa using hmem) (by simpa using hmem')

theorem setDepth {m depth : Nat} (h : Mirrors frames n stack calls (some id))
    (hm : (frames id).workflow = true → m = 0) (hdepth : depth = m + depthOf stack) :
    Mirrors (update frames id { frames id with depth := depth }) m stack calls
      (some id) := by
  generalize hcurrent : some id = current at h
  induction h generalizing m with
  | idle => simp at hcurrent
  | outermost hframe hprobes =>
    obtain rfl := Option.some.inj hcurrent
    refine .outermost ?_ ?_
    · rw [update_self, hframe, hdepth]
      rfl
    · rwa [hframe] at hm
  | command hframe hparent hne =>
    obtain rfl := Option.some.inj hcurrent
    refine .command ?_ ?_ hne
    · rw [update_self, hframe, hdepth]
      rfl
    · rw [update_of_ne hne, hparent]
  | probe h ih =>
    obtain rfl := Option.some.inj hcurrent
    refine .probe (ih ?_ ?_ rfl)
    · simp [h.workflow_of_probe]
    · rw [hdepth, depthOf]
      omega

end Mirrors

/-! ### The ids -/

/-- Every id belongs to one call, and a cancelled one to a call that is over. -/
structure Calls.Distinct (a : Calls T) : Prop where
  bounded : ∀ t, ∀ id ∈ ids (a.calls t), id < a.nextId
  nodup : ∀ t, (ids (a.calls t)).Nodup
  apart : ∀ t t' id, id ∈ ids (a.calls t) → id ∈ ids (a.calls t') → t = t'
  cancelled : a.cancelled.Nodup
  ended : ∀ id ∈ a.cancelled, id < a.nextId ∧ ∀ t, id ∉ ids (a.calls t)

namespace Calls

variable {a : Calls T} {t : T}

@[simp] theorem setCalls_self (calls : List Call) : (a.setCalls t calls).calls t = calls :=
  update_self ..

theorem setCalls_of_ne {t' : T} (h : t' ≠ t) (calls : List Call) :
    (a.setCalls t calls).calls t' = a.calls t' :=
  update_of_ne h ..

omit [DecidableEq T] in
theorem distinct_initial : (initial : Calls T).Distinct :=
  ⟨by simp [initial], by simp [initial], by simp [initial], by simp [initial], by simp [initial]⟩

theorem Distinct.congr (h : a.Distinct) {calls : List Call}
    (hids : ids calls = ids (a.calls t)) : (a.setCalls t calls).Distinct := by
  have hsame : ∀ t', ids ((a.setCalls t calls).calls t') = ids (a.calls t') := by
    intro t'
    by_cases ht : t' = t
    · subst ht
      rw [setCalls_self, hids]
    · rw [setCalls_of_ne ht]
  refine ⟨?_, ?_, ?_, h.cancelled, ?_⟩
  · intro t' id hid
    exact h.bounded t' id (hsame t' ▸ hid)
  · intro t'
    rw [hsame]
    exact h.nodup t'
  · intro t₁ t₂ id h₁ h₂
    exact h.apart t₁ t₂ id (hsame t₁ ▸ h₁) (hsame t₂ ▸ h₂)
  · intro id hid
    exact ⟨(h.ended id hid).1, fun t' => hsame t' ▸ (h.ended id hid).2 t'⟩

theorem Distinct.push (h : a.Distinct) {calls : List Call}
    (hids : ids calls = a.nextId :: ids (a.calls t)) :
    Distinct { a.setCalls t calls with nextId := a.nextId + 1 } := by
  have hnew : ∀ t' id, id ∈ ids ((a.setCalls t calls).calls t') →
      t' = t ∧ id = a.nextId ∨ id ∈ ids (a.calls t') := by
    intro t' id hid
    by_cases ht : t' = t
    · subst ht
      rw [setCalls_self, hids, List.mem_cons] at hid
      exact hid.imp_left fun he => ⟨rfl, he⟩
    · rw [setCalls_of_ne ht] at hid
      exact Or.inr hid
  have hfresh : ∀ t', a.nextId ∉ ids (a.calls t') :=
    fun t' hmem => absurd (h.bounded t' _ hmem) (Nat.lt_irrefl _)
  refine ⟨?_, ?_, ?_, h.cancelled, ?_⟩
  · intro t' id hid
    rcases hnew t' id hid with ⟨-, rfl⟩ | hid
    · exact Nat.lt_succ_self _
    · exact Nat.lt_succ_of_lt (h.bounded t' id hid)
  · intro t'
    change (ids ((a.setCalls t calls).calls t')).Nodup
    by_cases ht : t' = t
    · subst ht
      rw [setCalls_self, hids]
      exact List.nodup_cons.2 ⟨hfresh t', h.nodup t'⟩
    · rw [setCalls_of_ne ht]
      exact h.nodup t'
  · intro t₁ t₂ id h₁ h₂
    rcases hnew t₁ id h₁ with ⟨ht₁, he₁⟩ | h₁ <;> rcases hnew t₂ id h₂ with ⟨ht₂, he₂⟩ | h₂
    · exact ht₁.trans ht₂.symm
    · exact absurd (he₁ ▸ h₂) (hfresh t₂)
    · exact absurd (he₂ ▸ h₁) (hfresh t₁)
    · exact h.apart t₁ t₂ id h₁ h₂
  · intro id hid
    refine ⟨Nat.lt_succ_of_lt (h.ended id hid).1, fun t' hmem => ?_⟩
    rcases hnew t' id hmem with ⟨-, rfl⟩ | hmem
    · exact absurd (h.ended _ hid).1 (Nat.lt_irrefl _)
    · exact (h.ended id hid).2 t' hmem

omit [DecidableEq T] in
theorem Distinct.refuse (h : a.Distinct) :
    Distinct { a with cancelled := a.cancelled ++ [a.nextId], nextId := a.nextId + 1 } := by
  refine ⟨fun t id hid => Nat.lt_succ_of_lt (h.bounded t id hid), h.nodup, h.apart, ?_, ?_⟩
  · refine List.nodup_append.2 ⟨h.cancelled, List.nodup_singleton _, ?_⟩
    rintro id hid _ hlast rfl
    exact absurd (h.ended id hid).1 (by rw [List.mem_singleton.1 hlast]; exact Nat.lt_irrefl _)
  · intro id hid
    rcases List.mem_append.1 hid with hid | hid
    · exact ⟨Nat.lt_succ_of_lt (h.ended id hid).1, (h.ended id hid).2⟩
    · rw [List.mem_singleton.1 hid]
      exact ⟨Nat.lt_succ_self _, fun t hmem => absurd (h.bounded t _ hmem) (Nat.lt_irrefl _)⟩

theorem cancelled_eq (call : Call) (threw : Bool) (calls : List Call) :
    call.cancelled threw = [] ∨
      ∃ id, call.cancelled threw = [id] ∧ ids (call :: calls) = id :: ids calls := by
  cases call with
  | outermost id workflow lock phase =>
    rw [Call.cancelled, Call.ids_outermost]
    split_ifs
    · exact Or.inr ⟨id, rfl, rfl⟩
    · exact Or.inl rfl
  | command id phase =>
    rw [Call.cancelled, Call.ids_command]
    split_ifs
    · exact Or.inr ⟨id, rfl, rfl⟩
    · exact Or.inl rfl
  | probe => exact Or.inl rfl

theorem Distinct.pop (h : a.Distinct) {call : Call} {calls : List Call}
    (hcalls : a.calls t = call :: calls) (threw : Bool) :
    Distinct { a.setCalls t calls with cancelled := a.cancelled ++ call.cancelled threw } := by
  have hsub : ∀ t', (ids ((a.setCalls t calls).calls t')).Sublist (ids (a.calls t')) := by
    intro t'
    by_cases ht : t' = t
    · subst ht
      rw [setCalls_self, hcalls]
      exact (List.sublist_cons_self call calls).filterMap _
    · rw [setCalls_of_ne ht]
  have hold : ∀ id ∈ a.cancelled, id < a.nextId ∧
      ∀ t', id ∉ ids ((a.setCalls t calls).calls t') := fun id hid =>
    ⟨(h.ended id hid).1, fun t' hmem => (h.ended id hid).2 t' ((hsub t').subset hmem)⟩
  refine ⟨?_, ?_, ?_, ?_, ?_⟩
  · exact fun t' id hid => h.bounded t' id ((hsub t').subset hid)
  · exact fun t' => (h.nodup t').sublist (hsub t')
  · exact fun t₁ t₂ id h₁ h₂ => h.apart t₁ t₂ id ((hsub t₁).subset h₁) ((hsub t₂).subset h₂)
  · rcases cancelled_eq call threw calls with hnone | ⟨id, hone, hids⟩
    · rw [hnone, List.append_nil]
      exact h.cancelled
    · rw [hone]
      refine List.nodup_append.2 ⟨h.cancelled, List.nodup_singleton _, ?_⟩
      rintro id' hid' _ hlast rfl
      refine (h.ended id' hid').2 t ?_
      rw [hcalls, hids, List.mem_singleton.1 hlast]
      exact List.mem_cons_self
  · rcases cancelled_eq call threw calls with hnone | ⟨id, hone, hids⟩
    · rw [hnone, List.append_nil]
      exact hold
    · rw [hone]
      intro id' hid'
      rcases List.mem_append.1 hid' with hid' | hid'
      · exact hold id' hid'
      · obtain rfl := List.mem_singleton.1 hid'
        have hmem : id' ∈ ids (a.calls t) := by
          rw [hcalls, hids]
          exact List.mem_cons_self
        refine ⟨h.bounded t id' hmem, fun t' hmem' => ?_⟩
        -- the id is in the calls of `t` only, and there only once
        obtain rfl := h.apart t' t id' ((hsub t').subset hmem') hmem
        change id' ∈ ids ((a.setCalls t' calls).calls t') at hmem'
        rw [setCalls_self] at hmem'
        have hnodup := h.nodup t'
        rw [hcalls, hids] at hnodup
        exact (List.nodup_cons.1 hnodup).1 hmem'

end Calls

/-! ### The refinement -/

def taken (locks : String → Option (T × Nat)) (t : T) : Option String → String → Option (T × Nat)
  | none => locks
  | some key => update locks key (some (t, 1))

omit [DecidableEq T] in
theorem taken_eq_some {locks : String → Option (T × Nat)} {t t' : T} {key : String} {n : Nat}
    (hnone : ∀ key, lock = some key → locks key = none) :
    taken locks t lock key = some (t', n) ↔
      (lock = some key ∧ t' = t ∧ n = 1) ∨ locks key = some (t', n) := by
  cases lock with
  | none => simp [taken]
  | some key' =>
    by_cases hkey : key' = key
    · subst hkey
      simp [taken, hnone key' rfl, eq_comm]
    · simp [taken, update_of_ne (Ne.symm hkey), hkey]

namespace Calls

variable {a : Calls T} {t : T}

omit [DecidableEq T] in
theorem holds_iff {key : String} :
    a.Holds t key ↔ ∃ id, (id, some key) ∈ bases (a.calls t) := by
  simp only [Holds, mem_bases]

omit [DecidableEq T] in
theorem runs_iff {id : Nat} : a.Runs id ↔ ∃ t lock, (id, lock) ∈ bases (a.calls t) := by
  simp only [Runs, mem_bases]
  constructor
  · rintro ⟨t, workflow, lock, phase, hmem⟩
    exact ⟨t, lock, workflow, phase, hmem⟩
  · rintro ⟨t, lock, workflow, phase, hmem⟩
    exact ⟨t, workflow, lock, phase, hmem⟩

theorem mem_ids_of_mem_bases {id : Nat} {calls : List Call} (h : (id, lock) ∈ bases calls) :
    id ∈ ids calls := by
  obtain ⟨workflow, phase, hmem⟩ := mem_bases.1 h
  exact List.mem_filterMap.2 ⟨_, hmem, rfl⟩

end Calls

/-- The bookkeeping shows the stacks of calls: the threads mirror them, a lock is held by the
running call that took it, and the actions are the running outermost calls. -/
structure Refines (s : ControlState T) (a : Calls T) : Prop where
  threads : ∀ t, Mirrors (s.threads t).frames 0 (s.threads t).stack (a.calls t)
    (s.threads t).current
  cancelled : s.cancelled = a.cancelled
  nextId : s.nextId = a.nextId
  locks : ∀ key t n, s.mutationLocks key = some (t, n) ↔ n = 1 ∧ a.Holds t key
  actions : ∀ id, id ∈ s.actions.map Action.id ↔ a.Runs id
  once : (s.actions.map Action.id).Nodup
  distinct : a.Distinct

namespace Refines

variable {s s' : ControlState T} {a b : Calls T} {t : T} {thread : ThreadState}
  {frames : Nat → Frame} {stack : List Activation}

omit [DecidableEq T] in
theorem initial : Refines (ControlState.initial : ControlState T) Calls.initial where
  threads _ := .idle
  cancelled := rfl
  nextId := rfl
  locks key t n := by simp [ControlState.initial, Calls.Holds, Calls.initial]
  actions id := by simp [ControlState.initial, Calls.Runs, Calls.initial]
  once := List.nodup_nil
  distinct := Calls.distinct_initial

theorem threads_set (h : Refines s a) {calls : List Call}
    (hs : s'.threads = update s.threads t thread)
    (hb : b.calls = update a.calls t calls)
    (hmirrors : Mirrors thread.frames 0 thread.stack calls thread.current) (t' : T) :
    Mirrors (s'.threads t').frames 0 (s'.threads t').stack (b.calls t')
      (s'.threads t').current := by
  rw [hs, hb]
  by_cases ht : t' = t
  · subst ht
    rw [update_self, update_self]
    exact hmirrors
  · rw [update_of_ne ht, update_of_ne ht]
    exact h.threads t'

/-- A step above the outermost call of a thread. -/
theorem inner (h : Refines s a) {calls : List Call}
    (hs : s'.threads = update s.threads t thread)
    (hb : b.calls = update a.calls t calls)
    (hmirrors : Mirrors thread.frames 0 thread.stack calls thread.current)
    (hbases : bases calls = bases (a.calls t))
    (hlocks : s'.mutationLocks = s.mutationLocks)
    (hactions : s'.actions.map Action.id = s.actions.map Action.id)
    (hcancelled : s'.cancelled = b.cancelled) (hnextId : s'.nextId = b.nextId)
    (hdistinct : b.Distinct) : Refines s' b := by
  have hsame : ∀ t', bases (b.calls t') = bases (a.calls t') := by
    intro t'
    rw [hb]
    by_cases ht : t' = t
    · subst ht
      rw [update_self, hbases]
    · rw [update_of_ne ht]
  refine ⟨h.threads_set hs hb hmirrors, hcancelled, hnextId, ?_, ?_, hactions ▸ h.once, hdistinct⟩
  · intro key t' n
    rw [hlocks, h.locks, Calls.holds_iff, Calls.holds_iff, hsame]
  · intro id
    simp only [hactions, h.actions, Calls.runs_iff, hsame]

theorem acquire_eq (h : Refines s a) (hcalls : a.calls t = []) (lock : Option String) :
    (a.Busy t lock ∧ acquire s.mutationLocks t lock = none) ∨
      (¬ a.Busy t lock ∧
        acquire s.mutationLocks t lock = some (taken s.mutationLocks t lock) ∧
        ∀ key, lock = some key → s.mutationLocks key = none) := by
  cases lock with
  | none => exact Or.inr ⟨by rintro ⟨key, hkey, -⟩; simp at hkey, rfl, by simp⟩
  | some key =>
    rcases hlock : s.mutationLocks key with _ | ⟨owner, n⟩
    · refine Or.inr ⟨?_, by simp [acquire, tryLock, hlock, taken], fun key' he => ?_⟩
      · rintro ⟨key', hkey, owner, -, hholds⟩
        obtain rfl := Option.some.inj hkey
        have := (h.locks key owner 1).2 ⟨rfl, hholds⟩
        simp [hlock] at this
      · exact Option.some.inj he ▸ hlock
    · left
      obtain ⟨-, hholds⟩ := (h.locks key owner n).1 hlock
      have hother : owner ≠ t := by
        rintro rfl
        obtain ⟨id, workflow, phase, hmem⟩ := hholds
        simp [hcalls] at hmem
      exact ⟨⟨key, rfl, owner, hother, hholds⟩, by simp [acquire, tryLock, hlock, hother]⟩

omit [DecidableEq T] in
theorem refuse (h : Refines s a) :
    Refines { s with cancelled := s.cancelled ++ [s.nextId], nextId := s.nextId + 1 }
      { a with cancelled := a.cancelled ++ [a.nextId], nextId := a.nextId + 1 } where
  threads := h.threads
  cancelled := by rw [h.cancelled, h.nextId]
  nextId := by rw [h.nextId]
  locks := h.locks
  actions := h.actions
  once := h.once
  distinct := h.distinct.refuse

theorem begin (h : Refines s a) (hcalls : a.calls t = [])
    (hnone : ∀ key, lock = some key → s.mutationLocks key = none)
    (hs : s'.threads = update s.threads t thread)
    (hb : b.calls = update a.calls t [.outermost a.nextId workflow lock .checking])
    (hmirrors : Mirrors thread.frames 0 thread.stack [.outermost a.nextId workflow lock .checking]
      thread.current) (hlocks : s'.mutationLocks = taken s.mutationLocks t lock)
    (hactions : s'.actions.map Action.id = s.actions.map Action.id ++ [a.nextId])
    (hcancelled : s'.cancelled = b.cancelled) (hnextId : s'.nextId = b.nextId)
    (hdistinct : b.Distinct) : Refines s' b := by
  have hfresh : ¬ a.Runs a.nextId := by
    rw [Calls.runs_iff]
    rintro ⟨t', lock', hmem⟩
    exact Nat.lt_irrefl _ (h.distinct.bounded t' _ (Calls.mem_ids_of_mem_bases hmem))
  have hempty : bases (a.calls t) = [] := by rw [hcalls]; rfl
  have hbases : ∀ t' id lock', (id, lock') ∈ bases (b.calls t') ↔
      (t' = t ∧ id = a.nextId ∧ lock' = lock) ∨ (id, lock') ∈ bases (a.calls t') := by
    intro t' id lock'
    rw [hb]
    by_cases ht : t' = t
    · subst ht
      rw [update_self, hempty]
      simp [bases, base]
    · rw [update_of_ne ht]
      simp [ht]
  refine ⟨h.threads_set hs hb hmirrors, hcancelled, hnextId, ?_, ?_, ?_, hdistinct⟩
  · intro key t' n
    rw [hlocks, taken_eq_some hnone, h.locks, Calls.holds_iff, Calls.holds_iff]
    simp only [hbases]
    constructor
    · rintro (⟨rfl, rfl, rfl⟩ | ⟨rfl, id, hmem⟩)
      · exact ⟨rfl, a.nextId, Or.inl ⟨rfl, rfl, rfl⟩⟩
      · exact ⟨rfl, id, Or.inr hmem⟩
    · rintro ⟨rfl, id, ⟨rfl, rfl, hlock⟩ | hmem⟩
      · exact Or.inl ⟨hlock.symm, rfl, rfl⟩
      · exact Or.inr ⟨rfl, id, hmem⟩
  · intro id
    rw [hactions, List.mem_append, h.actions, Calls.runs_iff, Calls.runs_iff]
    simp only [hbases, List.mem_singleton]
    constructor
    · rintro (⟨t', lock', hmem⟩ | rfl)
      · exact ⟨t', lock', Or.inr hmem⟩
      · exact ⟨t, lock, Or.inl ⟨rfl, rfl, rfl⟩⟩
    · rintro ⟨t', lock', ⟨-, hid, -⟩ | hmem⟩
      · exact Or.inr hid
      · exact Or.inl ⟨t', lock', hmem⟩
  · rw [hactions]
    refine List.nodup_append.2 ⟨h.once, List.nodup_singleton _, ?_⟩
    rintro id hid _ hlast rfl
    exact hfresh ((h.actions _).1 (List.mem_singleton.1 hlast ▸ hid))

theorem probe (h : Refines s a) {id : Nat} (hthread : s.threads t = ⟨some id, frames, stack⟩)
    (hworkflow : (frames id).workflow = false) :
    Refines
      (s.setThread t
        { current := some id
          frames := update frames id { frames id with depth := (frames id).depth + 1 }
          stack := .nested id :: stack })
      (a.setCalls t (.probe :: a.calls t)) := by
  have hmirrors := h.threads t
  rw [hthread] at hmirrors
  have hdepth := hmirrors.depth_eq
  refine h.inner rfl rfl ?_ rfl rfl rfl h.cancelled h.nextId (h.distinct.congr rfl)
  refine .probe (hmirrors.setDepth (by simp [hworkflow]) ?_)
  rw [hdepth]
  omega

theorem enter_probe (h : Refines s a) {id : Nat} (hthread : s.threads t = ⟨some id, frames, stack⟩)
    (hworkflow : (frames id).workflow = false) (serverId : Option String) (operation : String)
    (mutation workflow : Bool) :
    Refines (s.enter t serverId operation mutation workflow)
      (a.setCalls t (.probe :: a.calls t)) := by
  unfold ControlState.enter
  rw [hthread]
  dsimp only
  rw [if_neg (by rw [hworkflow]; decide)]
  exact h.probe hthread hworkflow

theorem enter (h : Refines s a) (serverId : Option String) (operation : String)
    (mutation workflow : Bool) :
    Refines (s.enter t serverId operation mutation workflow)
      (a.enter t serverId mutation workflow) := by
  have hmirrors := h.threads t
  rcases hthread : s.threads t with ⟨current, frames, stack⟩
  rw [hthread] at hmirrors
  dsimp only at hmirrors
  rcases hcalls : a.calls t with _ | ⟨call, calls⟩
  · rw [hcalls] at hmirrors
    cases hmirrors
    rcases h.acquire_eq hcalls (lockKey serverId mutation) with
      ⟨hbusy, hacquire⟩ | ⟨hfree, hacquire, hnone⟩
    · simp only [ControlState.enter, hthread, hacquire, Calls.enter, hcalls, if_pos hbusy]
      exact h.refuse
    · simp only [ControlState.enter, hthread, hacquire, Calls.enter, hcalls, if_neg hfree]
      refine h.begin hcalls hnone rfl rfl ?_ rfl ?_ h.cancelled (by simp [h.nextId]) ?_
      · dsimp only
        rw [h.nextId]
        exact .outermost (update_self ..) fun _ => rfl
      · simp [h.nextId]
      · exact h.distinct.push (by rw [hcalls]; rfl)
  · rw [hcalls] at hmirrors
    cases hmirrors with
    | @outermost _ id workflow' lock phase hframe hprobes =>
      cases workflow' with
      | true =>
        have hworkflow : (frames id).workflow = true := by rw [hframe]
        have hfresh : s.nextId ≠ id := by
          have := h.distinct.bounded t id (by rw [hcalls]; exact List.mem_cons_self)
          rw [h.nextId]
          omega
        simp only [ControlState.enter, hthread, hworkflow, if_true, Calls.enter, hcalls]
        refine h.inner rfl rfl ?_ ?_ rfl rfl h.cancelled (by simp [h.nextId]) ?_
        · rw [h.nextId] at hfresh ⊢
          refine .command ?_ ?_ (Ne.symm hfresh)
          · exact (update_self ..).trans (by rw [hframe])
          · exact (update_of_ne (Ne.symm hfresh) ..).trans hframe
        · rw [hcalls]
          rfl
        · exact h.distinct.push (by rw [hcalls]; rfl)
      | false =>
        have hprobe := h.enter_probe hthread (by rw [hframe]) serverId operation mutation workflow
        rw [hcalls] at hprobe
        rw [Calls.enter, hcalls]
        exact hprobe
    | @command _ id parent lock phase phase' hframe hparent hne =>
      have hprobe := h.enter_probe hthread (by rw [hframe]) serverId operation mutation workflow
      rw [hcalls] at hprobe
      rw [Calls.enter, hcalls]
      exact hprobe
    | @probe _ id stack calls hbelow =>
      have hprobe := h.enter_probe hthread hbelow.workflow_of_probe serverId operation mutation
        workflow
      rw [hcalls] at hprobe
      rw [Calls.enter, hcalls]
      exact hprobe

theorem finish (h : Refines s a) {id : Nat} {phase : Phase}
    (hcalls : a.calls t = [.outermost id workflow lock phase])
    (hs : s'.threads = update s.threads t thread)
    (hb : b.calls = update a.calls t [])
    (hmirrors : Mirrors thread.frames 0 thread.stack [] thread.current)
    (hlocks : s'.mutationLocks = release s.mutationLocks t lock)
    (hactions : s'.actions = s.actions.filter fun a => a.id != id)
    (hcancelled : s'.cancelled = b.cancelled) (hnextId : s'.nextId = b.nextId)
    (hdistinct : b.Distinct) : Refines s' b := by
  have hone : bases (a.calls t) = [(id, lock)] := by rw [hcalls]; rfl
  have hbases : ∀ t' id' lock', (id', lock') ∈ bases (b.calls t') ↔
      t' ≠ t ∧ (id', lock') ∈ bases (a.calls t') := by
    intro t' id' lock'
    rw [hb]
    by_cases ht : t' = t
    · subst ht
      simp [bases]
    · rw [update_of_ne ht]
      simp [ht]
  have hapart : ∀ t' lock', t' ≠ t → (id, lock') ∉ bases (a.calls t') := by
    intro t' lock' ht hmem
    refine ht (h.distinct.apart t' t id (Calls.mem_ids_of_mem_bases hmem) ?_)
    rw [hcalls]
    exact List.mem_cons_self
  have hids : s'.actions.map Action.id = (s.actions.map Action.id).filter (· != id) := by
    rw [hactions, List.filter_map]
    rfl
  refine ⟨h.threads_set hs hb hmirrors, hcancelled, hnextId, ?_, ?_, ?_, hdistinct⟩
  · intro key t' n
    rw [hlocks, Calls.holds_iff]
    simp only [hbases]
    have hmine : ∀ key', lock = some key' → s.mutationLocks key' = some (t, 1) := by
      intro key' he
      refine (h.locks key' t 1).2 ⟨rfl, Calls.holds_iff.2 ⟨id, ?_⟩⟩
      rw [hone, he]
      exact List.mem_cons_self
    by_cases hkey : lock = some key
    · -- the lock of the call is free now, and no other call had it
      rw [hkey, release, unlock, hmine key hkey]
      simp only [if_true, update_self, reduceCtorEq, false_iff, not_and]
      rintro rfl ⟨id', ht, hmem⟩
      have hother := (h.locks key t' 1).2 ⟨rfl, Calls.holds_iff.2 ⟨id', hmem⟩⟩
      rw [hmine key hkey] at hother
      exact ht (Prod.mk.inj (Option.some.inj hother)).1.symm
    · have hsame : release s.mutationLocks t lock key = s.mutationLocks key := by
        cases lock with
        | none => rfl
        | some key' =>
          rw [release, unlock, hmine key' rfl]
          simp only [if_true]
          exact update_of_ne (fun he => hkey (by rw [he])) ..
      rw [hsame, h.locks, Calls.holds_iff]
      constructor
      · rintro ⟨rfl, id', hmem⟩
        refine ⟨rfl, id', ?_, hmem⟩
        rintro rfl
        rw [hone, List.mem_singleton] at hmem
        exact hkey (Prod.mk.inj hmem).2.symm
      · rintro ⟨rfl, id', -, hmem⟩
        exact ⟨rfl, id', hmem⟩
  · intro id'
    rw [hids, List.mem_filter, h.actions, Calls.runs_iff, Calls.runs_iff]
    simp only [hbases, bne_iff_ne]
    constructor
    · rintro ⟨⟨t', lock', hmem⟩, hne⟩
      refine ⟨t', lock', ?_, hmem⟩
      rintro rfl
      rw [hone, List.mem_singleton] at hmem
      exact hne (Prod.mk.inj hmem).1
    · rintro ⟨t', lock', ht, hmem⟩
      refine ⟨⟨t', lock', hmem⟩, ?_⟩
      rintro rfl
      exact hapart t' lock' ht hmem
  · rw [hids]
    exact h.once.filter _

theorem leave (h : Refines s a) (hleave : s.leave t threw = some s') :
    ∃ b, a.leave t threw = some b ∧ Refines s' b := by
  have hmirrors := h.threads t
  rcases hthread : s.threads t with ⟨current, frames, stack⟩
  rw [hthread] at hmirrors
  dsimp only at hmirrors
  generalize hcalls : a.calls t = calls at hmirrors
  rw [Calls.leave, hcalls]
  rw [ControlState.leave, hthread] at hleave
  cases hmirrors with
  | idle => cases hleave
  | @outermost _ id workflow lock phase hframe hprobes =>
    obtain rfl := Option.some.inj hleave
    refine ⟨_, rfl, ?_⟩
    refine h.finish hcalls rfl rfl .idle rfl ?_ ?_ h.nextId (h.distinct.pop hcalls threw)
    · dsimp only
      rw [hframe]
    · dsimp only
      rw [hframe, h.cancelled]
      rfl
  | @command _ id parent lock phase phase' hframe hparent hne =>
    obtain rfl := Option.some.inj hleave
    refine ⟨_, rfl, ?_⟩
    refine h.inner rfl rfl ?_ ?_ rfl rfl ?_ h.nextId (h.distinct.pop hcalls threw)
    · exact .outermost hparent fun _ => rfl
    · rw [hcalls]
      rfl
    · dsimp only
      rw [hframe, h.cancelled]
      rfl
  | @probe _ id stack calls hbelow =>
    obtain rfl := Option.some.inj hleave
    refine ⟨_, rfl, ?_⟩
    refine h.inner rfl rfl ?_ ?_ rfl rfl ?_ h.nextId (h.distinct.pop hcalls threw)
    · have hdepth := hbelow.depth_eq
      refine hbelow.setDepth (fun _ => rfl) ?_
      dsimp only
      omega
    · rw [hcalls]
      rfl
    · simp [Call.cancelled, ControlState.setThread, h.cancelled]

theorem phase_of_probe (h : Refines s a) {calls : List Call} (hcalls : a.calls t = .probe :: calls)
    (phase : Phase) : s.phase t phase = s := by
  have hmirrors := h.threads t
  rcases hthread : s.threads t with ⟨current, frames, stack⟩
  rw [hthread, hcalls] at hmirrors
  cases hmirrors with
  | @probe _ id stack calls hbelow =>
    have hdepth : (frames id).depth ≠ 1 := by
      have hpositive : 1 ≤ depthOf stack := by
        cases hbelow <;> simp [depthOf]
      rw [hbelow.depth_eq]
      omega
    unfold ControlState.phase
    rw [hthread]
    exact if_pos hdepth

theorem setPhase (h : Refines s a) {id : Nat} (hthread : s.threads t = ⟨some id, frames, stack⟩)
    (hdepth : (frames id).depth = 1) {phase : Phase} {calls : List Call}
    (hmirrors : Mirrors (update frames id { frames id with phase := phase }) 0 stack
      calls (some id)) (hids : ids calls = ids (a.calls t))
    (hbases : bases calls = bases (a.calls t)) :
    Refines (s.phase t phase) (a.setCalls t calls) := by
  unfold ControlState.phase
  rw [hthread]
  dsimp only
  rw [if_neg (by rw [hdepth]; decide)]
  refine h.inner rfl rfl hmirrors hbases rfl ?_ h.cancelled h.nextId (h.distinct.congr hids)
  rw [List.map_map]
  refine List.map_congr_left fun action _ => ?_
  rw [comp_apply]
  split_ifs <;> rfl

theorem phase (h : Refines s a) (phase : Phase) : Refines (s.phase t phase) (a.phase t phase) := by
  have hmirrors := h.threads t
  rcases hthread : s.threads t with ⟨current, frames, stack⟩
  rw [hthread] at hmirrors
  dsimp only at hmirrors
  generalize hcalls : a.calls t = calls at hmirrors
  rw [Calls.phase, hcalls]
  cases hmirrors with
  | idle =>
    have hsame : s.phase t phase = s := by rw [ControlState.phase, hthread]
    rw [hsame]
    exact h
  | outermost hframe hprobes =>
    refine h.setPhase hthread (by rw [hframe]) ?_ (by rw [hcalls]; rfl) (by rw [hcalls]; rfl)
    refine .outermost ?_ hprobes
    rw [update_self, hframe]
  | command hframe hparent hne =>
    refine h.setPhase hthread (by rw [hframe]) ?_ (by rw [hcalls]; rfl) (by rw [hcalls]; rfl)
    refine .command ?_ ?_ hne
    · rw [update_self, hframe]
    · rw [update_of_ne hne, hparent]
  | probe hbelow =>
    rw [h.phase_of_probe hcalls]
    refine h.inner (update_eq_self t s.threads).symm rfl ?_ (by rw [hcalls]; rfl) rfl rfl
      h.cancelled h.nextId (h.distinct.congr (by rw [hcalls]; rfl))
    rw [hthread]
    exact .probe hbelow

omit [DecidableEq T] in
theorem stage_eq (t : T) (detail : String) :
    ∃ actions, s.stage t detail = { s with actions := actions } ∧
      actions.map Action.id = s.actions.map Action.id := by
  rcases hcurrent : (s.threads t).current with _ | id
  · exact ⟨s.actions, by rw [ControlState.stage, hcurrent], rfl⟩
  · refine ⟨_, by rw [ControlState.stage, hcurrent], ?_⟩
    rw [List.map_map]
    refine List.map_congr_left fun action _ => ?_
    rw [comp_apply]
    split_ifs <;> rfl

omit [DecidableEq T] in
theorem stage (h : Refines s a) (detail : String) : Refines (s.stage t detail) a := by
  obtain ⟨actions, hstage, hids⟩ := stage_eq t detail
  rw [hstage]
  exact ⟨h.threads, h.cancelled, h.nextId, h.locks, hids ▸ h.actions, hids ▸ h.once, h.distinct⟩

theorem step (h : Refines s a) {l : T × Event} (hstep : control.step s l = some s') :
    ∃ b, Calls.machine.step a l = some b ∧ Refines s' b := by
  obtain ⟨t, event⟩ := l
  cases event with
  | run serverId operation mutation workflow =>
    obtain rfl := Option.some.inj hstep
    exact ⟨_, rfl, h.enter serverId operation mutation workflow⟩
  | phase phase =>
    obtain rfl := Option.some.inj hstep
    exact ⟨_, rfl, h.phase phase⟩
  | stage detail =>
    obtain rfl := Option.some.inj hstep
    exact ⟨a, rfl, h.stage detail⟩
  | leave threw => exact h.leave hstep

theorem run (h : Refines s a) {ls : List (T × Event)} (hrun : control.run s ls = some s') :
    ∃ b, Calls.machine.run a ls = some b ∧ Refines s' b :=
  Machine.run_simulation (fun _ _ _ _ h hstep => h.step hstep) h hrun

end Refines

/-- The slot of the thread, the count of the frame in it, and the locks the thread has, are in
`s'` what they are in `s`. -/
structure Restored (s s' : ControlState T) (t : T) : Prop where
  current : (s'.threads t).current = (s.threads t).current
  depth : ∀ id, (s.threads t).current = some id →
    ((s'.threads t).frames id).depth = ((s.threads t).frames id).depth
  locks : ∀ key n, s'.mutationLocks key = some (t, n) ↔ s.mutationLocks key = some (t, n)

section Restored

variable {s s' : ControlState T} {a b : Calls T} {t : T}

omit [DecidableEq T] in
theorem restored_of_stack (h : Refines s a) (h' : Refines s' b)
    (hstack : (s'.threads t).stack = (s.threads t).stack) : Restored s s' t := by
  have hcurrent : (s'.threads t).current = (s.threads t).current := by
    rw [(h'.threads t).current_eq, (h.threads t).current_eq, hstack]
  refine ⟨hcurrent, ?_, ?_⟩
  · intro id hid
    have hmirrors := h.threads t
    have hmirrors' := h'.threads t
    rw [hid] at hmirrors
    rw [hcurrent, hid] at hmirrors'
    rw [hmirrors'.depth_eq, hmirrors.depth_eq, hstack]
  · intro key n
    rw [h'.locks, h.locks, Calls.holds_iff, Calls.holds_iff]
    simp only [(h'.threads t).mem_bases, (h.threads t).mem_bases, hstack]

@[simp] theorem setThread_self (thread : ThreadState) : (s.setThread t thread).threads t = thread :=
  update_self ..

theorem leave_stack (h : s.leave t threw = some s') :
    ∃ activation, (s.threads t).stack = activation :: (s'.threads t).stack := by
  rcases hthread : s.threads t with ⟨current, frames, stack⟩
  rw [ControlState.leave, hthread] at h
  dsimp only at h
  rcases stack with _ | ⟨_ | _ | _, stack⟩
  · simp at h
  all_goals
    obtain rfl := Option.some.inj h
    exact ⟨_, by rw [setThread_self]⟩

theorem enter_stack (serverId : Option String) (operation : String) (mutation workflow : Bool) :
    (∃ activation,
      ((s.enter t serverId operation mutation workflow).threads t).stack =
        activation :: (s.threads t).stack) ∨
      (s.enter t serverId operation mutation workflow).threads = s.threads ∧
        (s.enter t serverId operation mutation workflow).mutationLocks = s.mutationLocks := by
  rcases hthread : s.threads t with ⟨current, frames, stack⟩
  rw [ControlState.enter, hthread]
  dsimp only
  rcases current with _ | parent
  · dsimp only
    rcases acquire s.mutationLocks t (lockKey serverId mutation) with _ | locks
    · exact Or.inr ⟨rfl, rfl⟩
    · exact Or.inl ⟨_, by rw [setThread_self]⟩
  · dsimp only
    split_ifs
    · exact Or.inl ⟨_, by rw [setThread_self]⟩
    · exact Or.inl ⟨_, by rw [setThread_self]⟩

/-- Whatever a call does before its end, its end restores what it found. -/
theorem restored_of_leave (h : Refines s a) {serverId : Option String} {operation : String}
    {mutation : Bool} {s₁ s₂ s₃ : ControlState T} {middle : List (T × Event)}
    (henter : control.step s (t, .run serverId operation mutation workflow) = some s₁)
    (hentered : (s₁.threads t).stack ≠ (s.threads t).stack)
    (hmiddle : control.run s₁ middle = some s₂)
    (hreturned : (s₂.threads t).stack = (s₁.threads t).stack)
    (hleave : control.step s₂ (t, .leave threw) = some s₃) : Restored s s₃ t := by
  obtain ⟨a₁, -, h₁⟩ := h.step henter
  obtain ⟨a₂, -, h₂⟩ := h₁.run hmiddle
  obtain ⟨a₃, -, h₃⟩ := h₂.step hleave
  obtain rfl := Option.some.inj henter
  obtain ⟨activation, hstack⟩ | ⟨hsame, -⟩ :=
    enter_stack (s := s) serverId operation mutation workflow
  · obtain ⟨activation', hstack'⟩ := leave_stack hleave
    rw [hreturned, hstack] at hstack'
    exact restored_of_stack h h₃ (List.cons.inj hstack').2.symm
  · exact absurd (by rw [hsame]) hentered

end Restored

/-- After any events on any threads, the bookkeeping is that of the stacks of calls: `cancelled`
was called for the calls that did not get their lock or threw before they were sending, and
once for each; a phase that is set in a probe changes nothing; the actions are the outermost
calls that are running; and a call that ends, or does not get its lock, restores the slot of its
thread, the count of the frame in it and the locks of the thread. -/
theorem commands_accounted {ls : List (T × Event)} {s : ControlState T}
    (hrun : control.run ControlState.initial ls = some s) :
    ∃ a : Calls T, Calls.machine.run Calls.initial ls = some a ∧
      (s.cancelled = a.cancelled ∧ s.cancelled.Nodup) ∧
      (∀ t calls phase, a.calls t = .probe :: calls → s.phase t phase = s) ∧
      ((∀ id, id ∈ s.actions.map Action.id ↔ a.Runs id) ∧ (s.actions.map Action.id).Nodup) ∧
      ∀ t serverId operation mutation workflow s₁,
        control.step s (t, .run serverId operation mutation workflow) = some s₁ →
        ((s₁.threads t).stack = (s.threads t).stack → Restored s s₁ t) ∧
        ∀ middle s₂ threw s₃, (s₁.threads t).stack ≠ (s.threads t).stack →
          control.run s₁ middle = some s₂ → (s₂.threads t).stack = (s₁.threads t).stack →
          control.step s₂ (t, .leave threw) = some s₃ → Restored s s₃ t := by
  obtain ⟨a, hcalls, h⟩ := Refines.initial.run hrun
  refine ⟨a, hcalls, ⟨h.cancelled, h.cancelled ▸ h.distinct.cancelled⟩, ?_, ⟨h.actions, h.once⟩, ?_⟩
  · exact fun t calls phase hprobe => h.phase_of_probe hprobe phase
  · intro t serverId operation mutation workflow s₁ henter
    refine ⟨fun hrefused => ?_, fun middle s₂ threw s₃ hentered hmiddle hreturned hleave => ?_⟩
    · obtain ⟨a₁, -, h₁⟩ := h.step henter
      exact restored_of_stack h h₁ hrefused
    · exact restored_of_leave h henter hentered hmiddle hreturned hleave

/-- A workflow whose first command fails in its access probe; meanwhile another thread asks for
the lock of the same server. -/
def twoThreads : List (Bool × Event) :=
  [(false, .run (some "server") "install" true true),
    (false, .run (some "server") "create" true false),
    (true, .run (some "server") "revoke" true false),
    (false, .run (some "server") "get-cluster-snapshot" false false), (false, .phase .sending),
    (false, .leave true), (false, .leave true), (false, .phase .sending), (false, .leave true)]

theorem twoThreads_accounted :
    ∃ s : ControlState Bool, control.run ControlState.initial twoThreads = some s ∧
      s.cancelled = [2, 1] ∧ s.cancelled.Nodup ∧ s.actions = [] := by
  refine ⟨_, rfl, rfl, ?_, rfl⟩
  obtain ⟨a, -, ⟨-, honce⟩, -⟩ := @commands_accounted Bool _ twoThreads _ rfl
  exact honce

/-- After any events on any threads, the lock of a server is held by the one outermost call that
is running a mutation on it, and held once; an idle thread is refused it for such a call only. -/
theorem mutations_exclusive {ls : List (T × Event)} {s : ControlState T}
    (hrun : control.run ControlState.initial ls = some s) (key : String) :
    (∀ t n, s.mutationLocks key = some (t, n) ↔
      n = 1 ∧ ∃ id, .outermost id (some key) ∈ (s.threads t).stack) ∧
    (∀ t t' id id', .outermost id (some key) ∈ (s.threads t).stack →
      .outermost id' (some key) ∈ (s.threads t').stack → t = t' ∧ id = id') ∧
    ∀ t, (s.threads t).stack = [] → (tryLock s.mutationLocks t key = none ↔
      ∃ t' id, .outermost id (some key) ∈ (s.threads t').stack) := by
  obtain ⟨a, -, h⟩ := Refines.initial.run hrun
  have hlocks : ∀ t n, s.mutationLocks key = some (t, n) ↔
      n = 1 ∧ ∃ id, .outermost id (some key) ∈ (s.threads t).stack := by
    intro t n
    simp only [h.locks, Calls.holds_iff, (h.threads t).mem_bases]
  refine ⟨hlocks, fun t t' id id' hid hid' => ?_, fun t hidle => ?_⟩
  · have hheld := (hlocks t 1).2 ⟨rfl, id, hid⟩
    have hheld' := (hlocks t' 1).2 ⟨rfl, id', hid'⟩
    rw [hheld] at hheld'
    obtain ⟨rfl, -⟩ := Prod.mk.inj (Option.some.inj hheld')
    exact ⟨rfl, (h.threads t).outermost_unique hid hid'⟩
  · unfold tryLock
    rcases hlock : s.mutationLocks key with _ | ⟨owner, n⟩
    · simp only [reduceCtorEq, false_iff]
      rintro ⟨t', id, hid⟩
      simpa [hlock] using (hlocks t' 1).2 ⟨rfl, id, hid⟩
    · obtain ⟨-, id, hid⟩ := (hlocks owner n).1 hlock
      have hother : owner ≠ t := by
        rintro rfl
        simp [hidle] at hid
      simpa [hother] using ⟨owner, id, hid⟩

/-- The workflow and its command are running, and the other thread has been refused. -/
theorem mutations_exclusive_twoThreads :
    ∃ s : ControlState Bool, control.run ControlState.initial (twoThreads.take 3) = some s ∧
      ∀ t id, .outermost id (some "server") ∈ (s.threads t).stack → t = false ∧ id = 0 := by
  refine ⟨_, rfl, fun t id hid => ?_⟩
  have hexclusive := @mutations_exclusive Bool _ (twoThreads.take 3) _ rfl "server"
  exact hexclusive.2.1 t false id 0 hid (.tail _ (.head _))

end CommandControl

end LibreRoute.Admin
