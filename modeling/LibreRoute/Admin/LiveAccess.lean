import LibreRoute.Admin.Installation
import LibreRoute.Admin.Permissions
import LibreRoute.Lib.Machine

/-!
The live access to one server.

A probe takes a number when it starts, and its result is entered only if no
later number has been taken since. The three functions that touch the entry
hold a lock, `getClusterSnapshot` does not: it looks at the state, then at the
role, and enters what it makes of them in a third step. Between these steps
other probes and SSH sessions run in any order.

A denial lasts because a number is used by one probe only: results still under
way carry older numbers, and those of later probes see the denial.
-/

namespace LibreRoute.Admin

open Lib

/-- The role a successful probe reports: that of the snapshot, or else that of the grant. -/
def AdminClusterSnapshot.probedRole (snapshot : AdminClusterSnapshot)
    (grantRole : Option AdminRole) : AdminRole :=
  if isBlank snapshot.roleScope then grantRole.getD .none else snapshot.reportedRole.getD .none

/-- How far a call of `getClusterSnapshot` has come. -/
inductive ProbePhase
  | running
  /-- The command failed, and the state to be entered has been chosen. -/
  | judged (state : LiveState) (rejected : Bool) (reason : Option String)
  /-- The result is there, and `finishAccessProbe` is about to be called. -/
  | finishing (result : AdminLiveAccess)
  | finished

/-- What a call enters, if it has seen its failure already, is a denial. -/
def ProbePhase.Denying : ProbePhase → Prop
  | running => True
  | judged state _ _ => state = .denied
  | finishing result => result.state = .denied
  | finished => True

structure Probe where
  id : Int
  phase : ProbePhase

inductive ProbeEvent
  /-- The snapshot was accepted; the role is that of the grant at that time. -/
  | succeed (snapshot : AdminClusterSnapshot) (grantRole : Option AdminRole)
  /-- The command failed: was it a signed refusal of access, and is there a grant? -/
  | fail (rejected granted : Bool) (reason : Option String)
  | readRole
  | finishAccessProbe

/-- The entry of the server, and the calls of `getClusterSnapshot` in the order of their
start. -/
structure LiveAccess where
  entry : Option AdminLiveAccess
  probes : List Probe

inductive AccessEvent
  | startAccessProbe
  | confirmSshSession (role : AdminRole)
  | probe (i : Nat) (e : ProbeEvent)

namespace AccessEvent

def takesNumber : AccessEvent → Bool
  | startAccessProbe => true
  | confirmSshSession _ => true
  | probe _ _ => false

/-- The events that may end a denial after which the calls from the `n`-th on have started. -/
def restores (n : Nat) : AccessEvent → Bool
  | startAccessProbe => false
  | confirmSshSession _ => true
  | probe i (.succeed _ _) => decide (n ≤ i)
  | probe _ _ => false

end AccessEvent

def finishAccessProbe (entry : Option AdminLiveAccess) (result : AdminLiveAccess) :
    Option AdminLiveAccess :=
  if entry.map (·.probeId) = some result.probeId then some result else entry

def Probe.advance (entry : Option AdminLiveAccess) (p : Probe) (e : ProbeEvent) :
    Option (ProbePhase × Option AdminLiveAccess) :=
  match p.phase, e with
  | .running, .succeed snapshot grantRole =>
    some (.finishing ⟨p.id, .ready, snapshot.probedRole grantRole, none⟩, entry)
  | .running, .fail rejected granted reason =>
    let denied := rejected || !granted || entry.map (·.state) == some .denied
    some (.judged (if denied then .denied else .unavailable) rejected reason, entry)
  | .judged state rejected reason, .readRole =>
    let role := if rejected then .none else (entry.map (·.role)).getD .none
    some (.finishing ⟨p.id, state, role, reason⟩, entry)
  | .finishing result, .finishAccessProbe =>
    some (.finished, Admin.finishAccessProbe entry result)
  | _, _ => none

namespace LiveAccess

def initial : LiveAccess := { entry := none, probes := [] }

def latest (s : LiveAccess) : Int := (s.entry.map (·.probeId)).getD 0

/-- `READY` and `DENIED` are shown until the next result. -/
def startedState : Option LiveState → LiveState
  | some .ready => .ready
  | some .denied => .denied
  | _ => .checking

def startAccessProbe (s : LiveAccess) : LiveAccess where
  entry := some
    { probeId := s.latest + 1
      state := startedState (s.entry.map (·.state))
      role := (s.entry.map (·.role)).getD .none }
  probes := s.probes ++ [⟨s.latest + 1, .running⟩]

def confirmSshSession (s : LiveAccess) (role : AdminRole) : LiveAccess :=
  { s with entry := some { probeId := s.latest + 1, state := .ready, role := role } }

def machine : Machine AccessEvent LiveAccess where
  step s
    | .startAccessProbe => some s.startAccessProbe
    | .confirmSshSession role => some (s.confirmSshSession role)
    | .probe i e => do
        let p ← s.probes[i]?
        let (phase, entry) ← p.advance s.entry e
        some { entry := entry, probes := s.probes.set i { p with phase := phase } }

variable {s t : LiveAccess} {i : Nat} {e : ProbeEvent} {p : Probe} {entry : Option AdminLiveAccess}
  {l : AccessEvent} {ls : List AccessEvent}

theorem step_probe (h : machine.step s (.probe i e) = some t) :
    ∃ p phase, s.probes[i]? = some p ∧ p.advance s.entry e = some (phase, t.entry) ∧
      t.probes = s.probes.set i { p with phase := phase } := by
  simp only [machine, Option.bind_eq_bind, Option.bind_eq_some_iff, Option.some.injEq] at h
  obtain ⟨p, hp, ⟨phase, entry⟩, hadvance, rfl⟩ := h
  exact ⟨p, phase, hp, hadvance, rfl⟩

theorem advance_cases {entry' : Option AdminLiveAccess} {phase : ProbePhase}
    (h : p.advance entry e = some (phase, entry')) :
    (entry' = entry ∧ (∀ r, p.phase ≠ .finishing r) ∧ phase ≠ .finished) ∨
      ∃ result, e = .finishAccessProbe ∧ p.phase = .finishing result ∧ phase = .finished ∧
        entry' = finishAccessProbe entry result := by
  unfold Probe.advance at h
  split at h
  case h_4 result hphase =>
    obtain ⟨rfl, rfl⟩ := Prod.mk.inj (Option.some.inj h)
    exact Or.inr ⟨result, rfl, hphase, rfl, rfl⟩
  case h_5 => simp at h
  all_goals
    rename_i hphase
    obtain ⟨rfl, rfl⟩ := Prod.mk.inj (Option.some.inj h)
    exact Or.inl ⟨rfl, by simp [hphase], by simp⟩

theorem advance_result {entry' : Option AdminLiveAccess} {r : AdminLiveAccess}
    (h : p.advance entry e = some (.finishing r, entry')) : r.probeId = p.id := by
  unfold Probe.advance at h
  split at h <;> simp only [Option.some.injEq, Prod.mk.injEq, ProbePhase.finishing.injEq,
    reduceCtorEq, false_and] at h
  · rw [← h.1]
  · rw [← h.1]

theorem finishAccessProbe_of_ne {result : AdminLiveAccess}
    (h : (entry.map (·.probeId)).getD 0 ≠ result.probeId) :
    Admin.finishAccessProbe entry result = entry := by
  refine if_neg fun heq => h ?_
  rw [heq, Option.getD_some]

theorem probeId_finishAccessProbe (entry : Option AdminLiveAccess) (result : AdminLiveAccess) :
    (Admin.finishAccessProbe entry result).map (·.probeId) = entry.map (·.probeId) := by
  unfold Admin.finishAccessProbe
  split_ifs with heq
  · exact heq.symm
  · rfl

/-! ### The numbers -/

/-- Every number belongs to one call, and none is above the latest. -/
structure Ordered (s : LiveAccess) : Prop where
  increasing : (s.probes.map Probe.id).Pairwise (· < ·)
  bounded : ∀ p ∈ s.probes, p.id ≤ s.latest
  result : ∀ p ∈ s.probes, ∀ r, p.phase = .finishing r → r.probeId = p.id

@[simp] theorem latest_startAccessProbe (s : LiveAccess) :
    s.startAccessProbe.latest = s.latest + 1 := rfl

theorem latest_probe (h : machine.step s (.probe i e) = some t) : t.latest = s.latest := by
  obtain ⟨p, phase, -, hadvance, -⟩ := step_probe h
  rcases advance_cases hadvance with ⟨hentry, -⟩ | ⟨result, -, -, -, hentry⟩
  · rw [latest, hentry, latest]
  · rw [latest, hentry, probeId_finishAccessProbe, latest]

theorem ids_step (h : machine.step s l = some t) :
    s.probes.map Probe.id <+: t.probes.map Probe.id := by
  cases l with
  | startAccessProbe =>
    obtain rfl : s.startAccessProbe = t := Option.some.inj h
    simp [startAccessProbe]
  | confirmSshSession role =>
    obtain rfl : s.confirmSshSession role = t := Option.some.inj h
    exact List.prefix_rfl
  | probe i e =>
    obtain ⟨p, phase, hp, -, hprobes⟩ := step_probe h
    obtain ⟨hi, rfl⟩ := List.getElem?_eq_some_iff.1 hp
    have hi' : i < (s.probes.map Probe.id).length := by simpa using hi
    have hid : s.probes[i].id = (s.probes.map Probe.id)[i] := (List.getElem_map ..).symm
    rw [hprobes, List.map_set, hid, List.set_getElem_self hi']

theorem latest_step (h : machine.step s l = some t) :
    t.latest = if l.takesNumber then s.latest + 1 else s.latest := by
  cases l with
  | startAccessProbe =>
    obtain rfl : s.startAccessProbe = t := Option.some.inj h
    rfl
  | confirmSshSession role =>
    obtain rfl : s.confirmSshSession role = t := Option.some.inj h
    rfl
  | probe i e => exact latest_probe h

theorem latest_mono (h : machine.run s ls = some t) : s.latest ≤ t.latest := by
  refine Machine.run_invariant (I := fun u => s.latest ≤ u.latest) ?_ h (le_refl _)
  intro u l v hstep hle
  rw [latest_step hstep]
  split <;> omega

theorem latest_lt (h : machine.run s ls = some t) (hnumber : ∃ l ∈ ls, l.takesNumber = true) :
    s.latest < t.latest := by
  obtain ⟨l, hl, hnumber⟩ := hnumber
  obtain ⟨before, after, rfl⟩ := List.append_of_mem hl
  obtain ⟨u, hbefore, hrest⟩ := Machine.run_append_eq_some.1 h
  obtain ⟨v, hstep, hafter⟩ := Machine.run_cons_eq_some.1 hrest
  calc
    s.latest ≤ u.latest := latest_mono hbefore
    _ < v.latest := by
      rw [latest_step hstep, if_pos hnumber]
      omega
    _ ≤ t.latest := latest_mono hafter

theorem ordered_initial : initial.Ordered :=
  ⟨List.Pairwise.nil, by simp [initial], by simp [initial]⟩

theorem Ordered.step (hs : s.Ordered) (h : machine.step s l = some t) : t.Ordered := by
  have hids := ids_step h
  have hlatest := latest_step h
  cases l with
  | startAccessProbe =>
    obtain rfl : s.startAccessProbe = t := Option.some.inj h
    refine ⟨?_, ?_, ?_⟩
    · simp only [startAccessProbe, List.map_append, List.map_cons, List.map_nil]
      refine List.pairwise_append.2 ⟨hs.increasing, List.pairwise_singleton _ _, ?_⟩
      intro id hid id' hid'
      obtain ⟨p, hp, rfl⟩ := List.mem_map.1 hid
      rw [List.mem_singleton.1 hid']
      exact Int.lt_add_one_of_le (hs.bounded p hp)
    · intro p hp
      rw [latest_startAccessProbe]
      rcases List.mem_append.1 hp with hp | hp
      · exact Int.le_add_one (hs.bounded p hp)
      · rw [List.mem_singleton.1 hp]
    · intro p hp r hr
      rcases List.mem_append.1 hp with hp | hp
      · exact hs.result p hp r hr
      · rw [List.mem_singleton.1 hp] at hr
        simp at hr
  | confirmSshSession role =>
    obtain rfl : s.confirmSshSession role = t := Option.some.inj h
    exact ⟨hs.increasing, fun p hp => Int.le_add_one (hs.bounded p hp), hs.result⟩
  | probe i e =>
    obtain ⟨p, phase, hp, hadvance, hprobes⟩ := step_probe h
    have hmem : p ∈ s.probes := List.mem_of_getElem? hp
    have hsame : t.probes.map Probe.id = s.probes.map Probe.id := by
      refine (hids.eq_of_length ?_).symm
      simp [hprobes]
    have hor : ∀ q ∈ t.probes, q ∈ s.probes ∨ q = { p with phase := phase } := by
      intro q hq
      rw [hprobes] at hq
      exact List.mem_or_eq_of_mem_set hq
    refine ⟨hsame ▸ hs.increasing, ?_, ?_⟩
    · intro q hq
      rw [hlatest]
      rcases hor q hq with hq | rfl
      · exact hs.bounded q hq
      · exact hs.bounded p hmem
    · intro q hq r hr
      rcases hor q hq with hq | rfl
      · exact hs.result q hq r hr
      · obtain rfl : phase = .finishing r := hr
        exact (advance_result hadvance : r.probeId = p.id)

theorem ordered_of_run (h : machine.run initial ls = some s) : s.Ordered :=
  Machine.run_invariant (fun _ _ _ hstep hs => hs.step hstep) h ordered_initial

theorem entry_of_lt (hs : s.Ordered) (hp : s.probes[i]? = some p) (hlt : p.id < s.latest)
    (h : machine.step s (.probe i e) = some t) : t.entry = s.entry := by
  obtain ⟨p', phase, hp', hadvance, -⟩ := step_probe h
  obtain rfl : p = p' := Option.some.inj (hp.symm.trans hp')
  rcases advance_cases hadvance with ⟨hentry, -⟩ | ⟨result, -, hphase, -, hentry⟩
  · exact hentry
  · rw [hentry]
    refine finishAccessProbe_of_ne ?_
    rw [hs.result p (List.mem_of_getElem? hp) result hphase]
    exact hlt.ne'

theorem id_lt_latest {middle : List AccessEvent}
    (h : machine.run s (.startAccessProbe :: middle) = some t)
    (hnumber : ∃ l ∈ middle, l.takesNumber = true) (hp : t.probes[s.probes.length]? = some p) :
    p.id < t.latest := by
  obtain ⟨u, hstep, hrun⟩ := Machine.run_cons_eq_some.1 h
  obtain rfl : s.startAccessProbe = u := Option.some.inj hstep
  have hids : s.startAccessProbe.probes.map Probe.id <+: t.probes.map Probe.id := by
    refine Machine.run_invariant
      (I := fun u => s.startAccessProbe.probes.map Probe.id <+: u.probes.map Probe.id) ?_ hrun
      List.prefix_rfl
    exact fun _ _ _ hstep hids => hids.trans (ids_step hstep)
  have hid : (t.probes.map Probe.id)[s.probes.length]? = some (s.latest + 1) := by
    obtain ⟨rest, hrest⟩ := hids
    rw [← hrest]
    simp [startAccessProbe]
  have hlatest := latest_lt hrun hnumber
  rw [List.getElem?_map, hp] at hid
  rw [Option.some.inj hid]
  exact hlatest

/-! ### Denials -/

def Denied (s : LiveAccess) : Prop := s.entry.map (·.state) = some .denied

instance : Decidable s.Denied := inferInstanceAs (Decidable (_ = _))

theorem startedState_eq_denied {state : Option LiveState} :
    startedState state = .denied ↔ state = some .denied := by
  rcases state with _ | _ | _ | _ | _ <;> simp [startedState]

theorem advance_denying {phase : ProbePhase} (hs : s.Denied) (hp : p.phase.Denying)
    (hfails : ∀ snapshot role, e ≠ .succeed snapshot role)
    (h : p.advance s.entry e = some (phase, entry)) : phase.Denying := by
  unfold Probe.advance at h
  split at h
  · rename_i snapshot role _
    exact absurd rfl (hfails snapshot role)
  · obtain ⟨rfl, -⟩ := Prod.mk.inj (Option.some.inj h)
    have hstate : s.entry.map (·.state) = some .denied := hs
    simp [ProbePhase.Denying, hstate]
  · rename_i hphase
    obtain ⟨rfl, -⟩ := Prod.mk.inj (Option.some.inj h)
    rw [hphase] at hp
    exact hp
  · obtain ⟨rfl, -⟩ := Prod.mk.inj (Option.some.inj h)
    trivial
  · simp at h

/-- Access is denied, and what is under way will not change that: of the first `n` calls, which
had started before the denial, those that have not finished have older numbers, and the later
calls that have failed have seen the denial. -/
structure Denial (n : Nat) (s : LiveAccess) : Prop where
  denied : s.Denied
  started : n ≤ s.probes.length
  earlier : ∀ i p, i < n → s.probes[i]? = some p → p.phase = .finished ∨ p.id < s.latest
  later : ∀ i p, n ≤ i → s.probes[i]? = some p → p.phase.Denying

theorem denial_of_step (hs : s.Ordered) (h : machine.step s l = some t) (hbefore : ¬ s.Denied)
    (hafter : t.Denied) : t.Denial t.probes.length := by
  cases l with
  | startAccessProbe =>
    obtain rfl : s.startAccessProbe = t := Option.some.inj h
    exact absurd (startedState_eq_denied.1 (Option.some.inj hafter)) hbefore
  | confirmSshSession role =>
    obtain rfl : s.confirmSshSession role = t := Option.some.inj h
    exact absurd (Option.some.inj hafter) (by simp)
  | probe i e =>
    have hlatest := latest_probe h
    obtain ⟨p, phase, hp, hadvance, hprobes⟩ := step_probe h
    rcases advance_cases hadvance with ⟨hentry, -⟩ | ⟨result, -, hphase, rfl, hentry⟩
    · exact absurd (show s.Denied by rwa [Denied, ← hentry]) hbefore
    have hnumber : s.latest = p.id := by
      rw [← hs.result p (List.mem_of_getElem? hp) result hphase]
      by_contra hne
      rw [finishAccessProbe_of_ne hne] at hentry
      exact hbefore (show s.Denied by rwa [Denied, ← hentry])
    refine ⟨hafter, le_refl _, ?_, ?_⟩
    · intro j q hj hq
      rw [hprobes, List.getElem?_set] at hq
      split_ifs at hq with hji hlength
      · exact Or.inl (Option.some.inj hq ▸ rfl)
      -- the others have other numbers, and `p` has the latest
      · right
        have hne : q.id ≠ p.id := by
          intro heq
          have hnodup : (s.probes.map Probe.id).Nodup := hs.increasing.imp fun hlt => hlt.ne
          have hi : i < (s.probes.map Probe.id).length := by
            simpa using (List.getElem?_eq_some_iff.1 hp).1
          refine hji ((List.getElem?_inj hi hnodup).1 ?_)
          rw [List.getElem?_map, List.getElem?_map, hp, hq, Option.map_some, Option.map_some, heq]
        have hle := hs.bounded q (List.mem_of_getElem? hq)
        rw [hlatest]
        omega
    · intro j q hj hq
      have := (List.getElem?_eq_some_iff.1 hq).1
      omega

theorem Denial.step {n : Nat} (hd : s.Denial n) (hs : s.Ordered) (h : machine.step s l = some t)
    (hl : l.restores n = false) : t.Denial n := by
  cases l with
  | startAccessProbe =>
    obtain rfl : s.startAccessProbe = t := Option.some.inj h
    have hnew : ∀ i p, s.startAccessProbe.probes[i]? = some p →
        s.probes[i]? = some p ∨ i = s.probes.length ∧ p.phase = .running := by
      intro i p hp
      rcases lt_or_ge i s.probes.length with hi | hi
      · left
        rwa [startAccessProbe, List.getElem?_append_left hi] at hp
      · right
        rw [startAccessProbe, List.getElem?_append_right hi, List.getElem?_singleton] at hp
        split_ifs at hp with hlast
        exact ⟨by omega, Option.some.inj hp ▸ rfl⟩
    refine ⟨?_, ?_, ?_, ?_⟩
    · exact congrArg some (startedState_eq_denied.2 hd.denied)
    · have := hd.started
      simp only [startAccessProbe, List.length_append]
      omega
    · intro i p hi hp
      rcases hnew i p hp with hp | ⟨rfl, -⟩
      · refine (hd.earlier i p hi hp).imp_right fun hlt => ?_
        rw [latest_startAccessProbe]
        omega
      · exact absurd hi (not_lt.2 hd.started)
    · intro i p hi hp
      rcases hnew i p hp with hp | ⟨-, hphase⟩
      · exact hd.later i p hi hp
      · rw [hphase]
        trivial
  | confirmSshSession role => simp [AccessEvent.restores] at hl
  | probe i e =>
    have hlatest := latest_probe h
    obtain ⟨p, phase, hp, hadvance, hprobes⟩ := step_probe h
    have hset : ∀ j q, t.probes[j]? = some q →
        j = i ∧ q = { p with phase := phase } ∨ s.probes[j]? = some q := by
      intro j q hq
      rw [hprobes, List.getElem?_set] at hq
      split_ifs at hq with hji hlength
      · exact Or.inl ⟨hji.symm, (Option.some.inj hq).symm⟩
      · exact Or.inr hq
    have hlive : i < n → p.id < s.latest := by
      intro hi
      rcases hd.earlier i p hi hp with hfinished | hlt
      · simp [Probe.advance, hfinished] at hadvance
      · exact hlt
    refine ⟨?_, ?_, ?_, ?_⟩
    · rcases lt_or_ge i n with hi | hi
      · rw [Denied, entry_of_lt hs hp (hlive hi) h]
        exact hd.denied
      · rcases advance_cases hadvance with ⟨hentry, -⟩ | ⟨result, -, hphase, -, hentry⟩
        · rw [Denied, hentry]
          exact hd.denied
        · have hresult := hd.later i p hi hp
          rw [hphase] at hresult
          rw [Denied, hentry, Admin.finishAccessProbe]
          split
          · exact congrArg some hresult
          · exact hd.denied
    · rw [hprobes, List.length_set]
      exact hd.started
    · intro j q hj hq
      rw [hlatest]
      rcases hset j q hq with ⟨rfl, rfl⟩ | hq
      · exact Or.inr (hlive hj)
      · exact hd.earlier j q hj hq
    · intro j q hj hq
      rcases hset j q hq with ⟨rfl, rfl⟩ | hq
      · refine advance_denying hd.denied (hd.later j p hj hp) ?_ hadvance
        rintro snapshot role rfl
        exact absurd hj (of_decide_eq_false hl)
      · exact hd.later j q hj hq

theorem Denial.run {n : Nat} (hd : s.Denial n) (hs : s.Ordered) (h : machine.run s ls = some t)
    (hls : ∀ l ∈ ls, l.restores n = false) : t.Denial n := by
  refine (Machine.run_induction (I := fun u => u.Denial n ∧ u.Ordered) ?_ hls h ⟨hd, hs⟩).1
  exact fun u l v hl hstep hu => ⟨hu.1.step hu.2 hstep hl, hu.2.step hstep⟩

/-- In every order of starts, results and confirmed sessions: numbers increase; once another
number was taken, nothing that a call still does changes the entry; and a denial lasts until a
call that started after it succeeds or a session is confirmed. -/
theorem access_probes_ordered :
    (∀ ls s, machine.run initial ls = some s → (s.probes.map Probe.id).Pairwise (· < ·)) ∧
    (∀ before s middle t e u, machine.run initial before = some s →
      machine.run s (.startAccessProbe :: middle) = some t →
      (∃ l ∈ middle, l.takesNumber = true) →
      machine.step t (.probe s.probes.length e) = some u → u.entry = t.entry) ∧
    ∀ before s l t after u, machine.run initial before = some s →
      machine.step s l = some t → ¬ s.Denied → t.Denied →
      machine.run t after = some u → (∀ l ∈ after, l.restores t.probes.length = false) →
      u.Denied := by
  refine ⟨fun ls s h => (ordered_of_run h).increasing, ?_, ?_⟩
  · intro before s middle t e u hbefore hrun hnumber hstep
    have ht : t.Ordered := ordered_of_run ((Machine.run_append hbefore _).trans hrun)
    obtain ⟨p, -, hp, -⟩ := step_probe hstep
    exact entry_of_lt ht hp (id_lt_latest hrun hnumber hp) hstep
  · intro before s l t after u hbefore hstep hnot hdenied hrun hafter
    have hs := ordered_of_run hbefore
    exact ((denial_of_step hs hstep hnot hdenied).run (hs.step hstep) hrun hafter).denied

/-- A first probe is refused, and a second one fails on the way to the server. -/
def refusedThenLost : List AccessEvent :=
  [.startAccessProbe, .probe 0 (.fail true true (some "отозван")), .probe 0 .readRole,
    .probe 0 .finishAccessProbe, .startAccessProbe, .probe 1 (.fail false true (some "timeout")),
    .probe 1 .readRole, .probe 1 .finishAccessProbe]

theorem refusedThenLost_denied : ∃ s, machine.run initial refusedThenLost = some s ∧ s.Denied := by
  refine ⟨_, rfl, ?_⟩
  refine access_probes_ordered.2.2 (refusedThenLost.take 3) _ (.probe 0 .finishAccessProbe) _
    (refusedThenLost.drop 4) _ rfl rfl ?_ ?_ rfl ?_
  · decide
  · decide
  · decide

end LiveAccess

end LibreRoute.Admin
