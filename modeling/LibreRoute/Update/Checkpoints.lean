import LibreRoute.Update.Coverage
import Mathlib

/-!
What an upload hands to its checkpoint.

What the server reports at any time is at least what it reported before, in
both numbers, but the replies of one upload reach the thread in any order.
`isNewer` compares them lexicographically, which on the reports of such a
server is the order in which they were made (`le_of_isNewer`). So what is
checkpointed never goes back, and the last checkpoint of an upload that
returned is what it returned.
-/

namespace LibreRoute.Update

open Lib
open Admin (Throwable)

namespace Terms

variable {T : Terms} {s t : UploadState} {next received : Int} {event : UploadEvent}

/-- The numbers of received bytes and of the next offset that a report shows. -/
def Shows (T : Terms) (o : JsonObject) (p : Int × Int) : Prop :=
  T.client.long o "received_bytes" = .ok p.1 ∧ T.client.long o "next_offset" = .ok p.2

theorem Shows.unique {o : JsonObject} {p q : Int × Int} (hp : T.Shows o p) (hq : T.Shows o q) :
    p = q :=
  Prod.ext (Except.ok.inj (hp.1.symm.trans hq.1)) (Except.ok.inj (hp.2.symm.trans hq.2))

/-- A report from the history of the server. -/
def Reported (T : Terms) (history : ℕ → Int × Int) (o : JsonObject) : Prop :=
  ∀ p, T.Shows o p → ∃ n, history n = p

theorem progressOf_eq_ok {o : JsonObject} {p : Int × Int} (h : T.progressOf o = .ok p) :
    T.Shows o p ∧ p ≤ (T.size, T.size) := by
  obtain ⟨received, hreceived, h⟩ := bind_eq_ok.1 h
  obtain ⟨next, hnext, h⟩ := bind_eq_ok.1 h
  obtain ⟨_, hbounds, h⟩ := bind_eq_ok.1 h
  obtain ⟨_, _, h⟩ := bind_eq_ok.1 h
  obtain ⟨_, _, h⟩ := bind_eq_ok.1 h
  obtain rfl : (received, next) = p := Except.ok.inj h
  rw [require_eq_ok, decide_eq_true_eq] at hbounds
  exact ⟨⟨hreceived, hnext⟩, hbounds.2.1, hbounds.2.2.2.1⟩

theorem isNewer_eq_true {state : JsonObject} {q : Int × Int}
    (h : T.isNewer state received next = .ok true) (hq : T.Shows state q) :
    q.1 < received ∨ (q.1 = received ∧ q.2 ≤ next) := by
  unfold isNewer at h
  rw [hq.1, ok_bind] at h
  split at h
  · next hlt => exact .inl hlt
  split at h
  · next _ heq =>
      rw [hq.2, ok_bind] at h
      exact .inr ⟨heq.symm, of_decide_eq_true (Except.ok.inj h)⟩
  · exact absurd (Except.ok.inj h) (by decide)

theorem le_of_isNewer {history : ℕ → Int × Int} (hmono : Monotone history) {m n : ℕ}
    (h : (history m).1 < (history n).1 ∨
      ((history m).1 = (history n).1 ∧ (history m).2 ≤ (history n).2)) :
    history m ≤ history n := by
  rcases Nat.le_total m n with hle | hle
  · exact hmono hle
  · -- the reply is the older one, so the test lets it pass only if nothing has changed
    obtain ⟨hfirst, hsecond⟩ := hmono hle
    rcases h with hlt | ⟨heq, hle'⟩
    · exact absurd hlt (Int.not_lt.2 hfirst)
    · exact ⟨heq.le, hle'⟩

/-- The history of the server explains the initial state and every reply. -/
structure Growing (T : Terms) (history : ℕ → Int × Int) (events : List UploadEvent) : Prop where
  monotone : Monotone history
  initial : ∀ p, T.Shows T.initial p → history 0 = p
  replies : ∀ i o elapsed, .finish i (.ok o) elapsed ∈ events → T.Reported history o

/-- A call brings the reply. -/
def Arrives (events : List UploadEvent) (o : JsonObject) : Prop :=
  ∃ i elapsed, .finish i (.ok o) elapsed ∈ events

variable {history : ℕ → Int × Int} {events : List UploadEvent}

theorem Growing.reported {o : JsonObject} (h : T.Growing history events)
    (ho : o = T.initial ∨ Arrives events o) : T.Reported history o := by
  rcases ho with rfl | ⟨i, elapsed, hmem⟩
  · exact fun p hp => ⟨0, h.initial p hp⟩
  · exact h.replies i o elapsed hmem

/-! ### The order of the checkpoints -/

/-- What is known of the replies under way, of the state, and of the checkpoints behind it. -/
structure Ordered (T : Terms) (events : List UploadEvent) (s : UploadState) : Prop where
  replies : ∀ o elapsed, (.ok o, elapsed) ∈ s.replies → Arrives events o
  state : s.state = T.initial ∨ Arrives events s.state
  readable : ∃ next, T.client.long s.state "next_offset" = .ok next
  checkpoints : ∃ ps, List.Forall₂ T.Shows s.checkpoints ps ∧ ps.Pairwise (· ≤ ·) ∧
    ∀ p ∈ ps, ∀ q, T.Shows s.state q → p ≤ q

theorem ordered_start (now : Int) : T.Ordered events (T.start now) where
  replies := nofun
  state := .inl rfl
  readable := ⟨_, T.nextOffset_reported⟩
  checkpoints := ⟨[], .nil, .nil, nofun⟩

theorem Ordered.of_eq (h : T.Ordered events s)
    (hreplies : ∀ o elapsed, (.ok o, elapsed) ∈ t.replies → Arrives events o)
    (hstate : t.state = s.state) (hcheckpoints : t.checkpoints = s.checkpoints) :
    T.Ordered events t where
  replies := hreplies
  state := by rw [hstate]; exact h.state
  readable := by rw [hstate]; exact h.readable
  checkpoints := by rw [hstate, hcheckpoints]; exact h.checkpoints

theorem Ordered.adopt (h : T.Ordered events s) (hserver : T.Growing history events)
    (hreplies : ∀ o elapsed, (.ok o, elapsed) ∈ t.replies → Arrives events o)
    (harrives : Arrives events t.state) (hshows : T.Shows t.state (received, next))
    (hnewer : T.isNewer s.state received next = .ok true)
    (hcheckpoints : t.checkpoints = s.checkpoints ∨
      t.checkpoints = s.checkpoints ++ [t.state]) : T.Ordered events t := by
  obtain ⟨previous, hprevious, -⟩ := bind_eq_ok.1 hnewer
  obtain ⟨last, hlast⟩ := h.readable
  have hbefore : T.Shows s.state (previous, last) := ⟨hprevious, hlast⟩
  obtain ⟨m, hm⟩ := hserver.reported h.state _ hbefore
  obtain ⟨n, hn⟩ := hserver.reported (.inr harrives) _ hshows
  have hle : ((previous, last) : Int × Int) ≤ (received, next) := by
    have hgrows : history m ≤ history n := by
      apply le_of_isNewer hserver.monotone
      rw [hm, hn]
      exact isNewer_eq_true hnewer hbefore
    rwa [hm, hn] at hgrows
  obtain ⟨ps, hps, hascending, hbelow⟩ := h.checkpoints
  have hall : ∀ p ∈ ps, p ≤ ((received, next) : Int × Int) := fun p hp =>
    (hbelow p hp _ hbefore).trans hle
  refine
    { replies := hreplies
      state := .inr harrives
      readable := ⟨next, hshows.2⟩
      checkpoints := ?_ }
  rcases hcheckpoints with hsame | hmore
  · rw [hsame]
    refine ⟨ps, hps, hascending, fun p hp q hq => ?_⟩
    rw [← hshows.unique hq]
    exact hall p hp
  · rw [hmore]
    refine ⟨ps ++ [(received, next)], List.rel_append hps (.cons hshows .nil), ?_, ?_⟩
    · rw [List.pairwise_append]
      refine ⟨hascending, List.pairwise_singleton _ _, fun p hp q hq => ?_⟩
      obtain rfl := List.mem_singleton.1 hq
      exact hall p hp
    · intro p hp q hq
      rw [← hshows.unique hq]
      rcases List.mem_append.1 hp with hp | hp
      · exact hall p hp
      · exact (List.mem_singleton.1 hp).le

theorem ordered_step (hserver : T.Growing history events) (hevent : event ∈ events)
    (hmove : T.Moves s event t) (hs : T.Ordered events s) : T.Ordered events t := by
  cases hmove with
  | enter _ _ _ => exact hs.of_eq hs.replies rfl rfl
  | thrown _ _ _ _ => exact hs.of_eq hs.replies rfl rfl
  | leave _ => exact hs.of_eq hs.replies rfl rfl
  | filled _ _ => exact hs.of_eq hs.replies rfl rfl
  | skipped _ _ _ => exact hs.of_eq hs.replies rfl rfl
  | submitted _ _ _ _ _ _ _ => exact hs.of_eq hs.replies rfl rfl
  | @received reply elapsed replies t _ _ hreplies hreceived =>
    have hrest : ∀ o elapsed, (.ok o, elapsed) ∈ t.replies → Arrives events o := by
      intro o elapsed' ho
      rw [hreceived.queues_eq.2.1] at ho
      exact hs.replies o elapsed' (hreplies ▸ List.mem_cons_of_mem _ ho)
    rcases hreceived.adopted with ⟨hstate, hcheckpoints⟩ | ⟨received, next, hreply, hp, hnewer, hcs⟩
    · exact hs.of_eq hrest hstate hcheckpoints
    · have harrives : Arrives events t.state := by
        apply hs.replies t.state elapsed
        rw [hreplies, hreply]
        exact List.mem_cons_self
      exact hs.adopt hserver hrest harrives (progressOf_eq_ok hp).1 hnewer (hcs.imp And.left id)
  | awaited _ _ _ => exact hs.of_eq hs.replies rfl rfl
  | finished i reply elapsed hfinish _ =>
    refine hs.of_eq (fun o elapsed' ho => ?_) rfl rfl
    rcases List.mem_append.1 ho with ho | ho
    · exact hs.replies o elapsed' ho
    · obtain ⟨rfl, rfl⟩ : Except.ok o = reply ∧ elapsed' = elapsed := by
        simpa using List.mem_singleton.1 ho
      exact ⟨i, elapsed', hfinish ▸ hevent⟩

/-! ### The last checkpoint -/

/-- The replies taken without a failure, and the state that has everything. -/
structure Settled (T : Terms) (s : UploadState) : Prop where
  valid : s.failure = none → ∀ reply ∈ s.taken, ∃ o p, reply = .ok o ∧ T.progressOf o = .ok p
  last : s.state ≠ T.initial → T.client.long s.state "received_bytes" = .ok T.size →
    s.checkpoints.getLast? = some s.state

theorem settled_start (now : Int) : T.Settled (T.start now) where
  valid := nofun
  last h := absurd rfl h

theorem Settled.of_eq (h : T.Settled s) (hfailure : t.failure = none → s.failure = none)
    (htaken : t.taken = s.taken) (hstate : t.state = s.state)
    (hcheckpoints : t.checkpoints = s.checkpoints) : T.Settled t where
  valid hnone := by
    rw [htaken]
    exact h.valid (hfailure hnone)
  last := by
    rw [hstate, hcheckpoints]
    exact h.last

theorem settled_step (hmove : T.Moves s event t) (hs : T.Settled s) : T.Settled t := by
  cases hmove with
  | enter failure hfailure _ =>
    refine hs.of_eq (fun hnone => ?_) rfl rfl rfl
    rcases hs' : s.failure with _ | e
    · rfl
    · have hsame : failure = s.failure := hfailure (by rw [hs']; rfl)
      exact absurd (hnone : failure = none) (by simp [hsame, hs'])
  | thrown _ _ _ _ => exact hs.of_eq id rfl rfl rfl
  | leave _ => exact hs.of_eq id rfl rfl rfl
  | filled _ _ => exact hs.of_eq id rfl rfl rfl
  | skipped _ _ _ => exact hs.of_eq id rfl rfl rfl
  | submitted _ _ _ _ _ _ _ => exact hs.of_eq id rfl rfl rfl
  | @received reply elapsed replies t _ _ _ hreceived =>
    have htaken : t.taken = s.taken ++ [reply] := by rw [hreceived.others]
    have hbefore : t.failure = none → s.failure = none := by
      intro hnone
      rcases hs' : s.failure with _ | e
      · rfl
      · have hsome := hreceived.failure (by rw [hs']; rfl)
        rw [hnone] at hsome
        cases hsome
    refine { valid := fun hnone r hr => ?_, last := ?_ }
    · rw [htaken] at hr
      rcases List.mem_append.1 hr with hr | hr
      · exact hs.valid (hbefore hnone) r hr
      · rw [List.mem_singleton.1 hr]
        exact hreceived.valid hnone
    · rcases hreceived.adopted with ⟨hstate, hcheckpoints⟩ | ⟨received, next, -, hp, -, hcs⟩
      · rw [hstate, hcheckpoints]
        exact hs.last
      · intro _ hsize
        rcases hcs with ⟨-, hpartial⟩ | hmore
        · -- a reply that has everything would have been checkpointed
          have hreceived := (progressOf_eq_ok hp).1.1
          exact absurd (Except.ok.inj (hreceived.symm.trans hsize)) hpartial
        · rw [hmore, List.getLast?_concat]
  | awaited _ _ _ => exact hs.of_eq id rfl rfl rfl
  | finished _ _ _ _ _ => exact hs.of_eq id rfl rfl rfl

/-- A finished call is waiting to be taken, or has been. -/
def Came (reply : Except Throwable JsonObject) (s : UploadState) : Prop :=
  reply ∈ s.taken ∨ ∃ elapsed, (reply, elapsed) ∈ s.replies

theorem came_step {reply : Except Throwable JsonObject} (hmove : T.Moves s event t)
    (hs : Came reply s) : Came reply t := by
  cases hmove with
  | enter _ _ _ => exact hs
  | thrown _ _ _ _ => exact hs
  | leave _ => exact hs
  | filled _ _ => exact hs
  | skipped _ _ _ => exact hs
  | submitted _ _ _ _ _ _ _ => exact hs
  | @received first elapsed replies t _ _ hreplies hreceived =>
    have htaken : t.taken = s.taken ++ [first] := by rw [hreceived.others]
    have hqueue : t.replies = replies := hreceived.queues_eq.2.1
    unfold Came
    rw [htaken, hqueue]
    rcases hs with hs | ⟨elapsed', hs⟩
    · exact .inl (List.mem_append_left _ hs)
    · rw [hreplies] at hs
      rcases List.mem_cons.1 hs with hfirst | hs
      · obtain rfl : reply = first := congrArg Prod.fst hfirst
        exact .inl (List.mem_append_right _ (List.mem_singleton_self _))
      · exact .inr ⟨elapsed', hs⟩
  | awaited _ _ _ => exact hs
  | finished i other elapsed _ _ =>
    rcases hs with hs | ⟨elapsed', hs⟩
    · exact .inl hs
    · exact .inr ⟨elapsed', List.mem_append_left _ hs⟩

theorem came_of_finish {now : Int} {i : Nat} {elapsed : Int}
    {reply : Except Throwable JsonObject} (h : T.Reaches now events s)
    (hmem : .finish i reply elapsed ∈ events) : Came reply s := by
  obtain ⟨before, after, rfl⟩ := List.append_of_mem hmem
  obtain ⟨u, hbefore, hafter⟩ := Machine.run_append_eq_some.1 h.2
  obtain ⟨v, hstep, hafter⟩ := Machine.run_cons_eq_some.1 hafter
  have hcame : Came reply v := by
    change T.step u (.finish i reply elapsed) = some v at hstep
    simp only [step] at hstep
    split at hstep
    · obtain rfl := Option.some.inj hstep
      exact .inr ⟨elapsed, List.mem_append_right _ (List.mem_singleton_self _)⟩
    · exact absurd hstep (by simp)
  exact Machine.run_invariant (fun _ _ _ hstep => came_step (moves_of_step hstep)) hafter hcame

/-- In whatever order the replies of a growing server are taken, the checkpoints never go back in
either number; and if something was sent and the upload returns, its result is the last checkpoint
and one of the replies, and no reply has shown more. -/
theorem checkpoints_never_go_back {now : Int}
    (h : T.Reaches now events s) (hserver : T.Growing history events) :
    (∃ ps, List.Forall₂ T.Shows s.checkpoints ps ∧ ps.Pairwise (· ≤ ·)) ∧
      (s.sent ≠ [] → ∀ state, s.control = .returned (.ok state) →
        s.checkpoints.getLast? = some state ∧
        (∃ i elapsed, .finish i (.ok state) elapsed ∈ events) ∧ ∃ p, T.Shows state p ∧
          ∀ i o elapsed, .finish i (.ok o) elapsed ∈ events → ∃ q, T.Shows o q ∧ q ≤ p) := by
  have hordered : T.Ordered events s :=
    Machine.run_induction
      (fun _ _ _ hevent hstep => ordered_step hserver hevent (moves_of_step hstep))
      (fun _ hevent => hevent) h.2 (ordered_start now)
  have hsettled : T.Settled s := h.invariant (settled_start now) fun _ _ _ => settled_step
  have hsent := h.sent
  have hqueues := h.queues
  obtain ⟨ps, hps, hascending, -⟩ := hordered.checkpoints
  refine ⟨⟨ps, hps, hascending⟩, fun hne state hcontrol => ?_⟩
  obtain ⟨-, hpending, hresult⟩ := hqueues.complete state (.inr hcontrol)
  obtain ⟨hfailure, rfl, hnext, hreceived⟩ := result_eq_ok hresult
  have hreplies : s.replies = [] := by
    have hcount := hqueues.pending
    apply List.length_eq_zero_iff.1
    omega
  have hnew : s.state ≠ T.initial := by
    -- something was sent, so the server did not have everything
    intro hinitial
    obtain ⟨r, hr⟩ := List.exists_mem_of_ne_nil _ hne
    have hwithin := hsent.within r hr
    have hoffset := hsent.offset.2
    rw [hinitial, T.nextOffset_reported] at hnext
    have hsize : T.nextOffset = T.size := Except.ok.inj hnext
    omega
  refine ⟨hsettled.last hnew hreceived, hordered.state.resolve_left hnew, (T.size, T.size),
    ⟨hreceived, hnext⟩, fun i o elapsed hmem => ?_⟩
  rcases came_of_finish h hmem with htaken | ⟨_, hqueued⟩
  · obtain ⟨o', q, ho, hq⟩ := hsettled.valid hfailure _ htaken
    obtain rfl := Except.ok.inj ho
    exact ⟨q, progressOf_eq_ok hq⟩
  · rw [hreplies] at hqueued
    cases hqueued

end Terms

/-! ### The five bytes again -/

/-- The reply to the last byte was made first and arrives last. -/
def overtakenEvents : List UploadEvent :=
  [.check (.ok false) (.ok 0), .submit (.ok ()) (.ok ()), .submit (.ok ()) (.ok ()),
    .submit (.ok ()) (.ok ()), .finish 0 (.ok (reported "5" "5")) 200,
    .finish 0 (.ok (reported "3" "0")) 300, .take undisturbed, .check (.ok false) (.ok 0),
    .submit (.ok ()) (.ok ()), .take undisturbed, .check (.ok false) (.ok 0), .await]

def fiveHistory (n : ℕ) : Int × Int := if n = 0 then (2, 0) else if n = 1 then (3, 0) else (5, 5)

theorem fiveHistory_monotone : Monotone fiveHistory := by
  refine monotone_nat_of_le_succ fun n => ?_
  rcases n with _ | _ | n <;> simp [fiveHistory]

theorem fiveTerms_growing : fiveTerms.Growing fiveHistory overtakenEvents where
  monotone := fiveHistory_monotone
  initial p hp := by
    have hshows : fiveTerms.Shows fiveTerms.initial (2, 0) := ⟨rfl, rfl⟩
    exact hshows.unique hp
  replies i o elapsed hmem := by
    have hcases : o = reported "5" "5" ∨ o = reported "3" "0" := by
      simp only [overtakenEvents, List.mem_cons, List.not_mem_nil, or_false, reduceCtorEq,
        false_or, UploadEvent.finish.injEq, Except.ok.injEq] at hmem
      exact hmem.imp (fun h => h.2.1) fun h => h.2.1
    intro p hp
    rcases hcases with rfl | rfl
    · have hshows : fiveTerms.Shows (reported "5" "5") (5, 5) := ⟨rfl, rfl⟩
      exact ⟨2, hshows.unique hp⟩
    · have hshows : fiveTerms.Shows (reported "3" "0") (3, 0) := ⟨rfl, rfl⟩
      exact ⟨1, hshows.unique hp⟩

theorem checkpoints_never_go_back_five : ∃ s, fiveTerms.Reaches 0 overtakenEvents s ∧
    s.control = .returned (.ok (reported "5" "5")) ∧
    s.checkpoints.getLast? = some (reported "5" "5") := by
  obtain ⟨s, hreaches, hcontrol, hsent⟩ : ∃ s, fiveTerms.Reaches 0 overtakenEvents s ∧
      s.control = .returned (.ok (reported "5" "5")) ∧ s.sent ≠ [] :=
    ⟨_, ⟨fiveTerms_accepted, rfl⟩, rfl, List.cons_ne_nil _ _⟩
  have hlast := (Terms.checkpoints_never_go_back hreaches fiveTerms_growing).2 hsent _ hcontrol
  exact ⟨s, hreaches, hcontrol, hlast.1⟩

end LibreRoute.Update
