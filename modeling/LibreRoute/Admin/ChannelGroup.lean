import LibreRoute.Admin.Models
import LibreRoute.Lib.Log
import LibreRoute.Lib.Machine

/-!
Installing a group of channels on a server.

The operation is recorded before its command is sent, and again with its
outcome. A call that finds a record goes on with it if it can still be under
way on the server, and refuses another plan until it is settled. The machine
has a step for every write and every exchange; a crash drops the call and
keeps what is stored.
-/

namespace LibreRoute.Admin

open Lib

structure GroupLaneRequest where
  provider : String
  url : String
  deriving DecidableEq

structure ChannelGroupPlan where
  mode : String := "ordered_striping"
  minReady : Int := 1
  lanes : List GroupLaneRequest
  deriving DecidableEq

/-- `validate()`, over the parser of the addresses. -/
def ChannelGroupPlan.validate (endpointIdentity : String → String → Except Throwable String)
    (plan : ChannelGroupPlan) : Except Throwable Unit := do
  require (["ordered_striping", "flow_affinity"].contains plan.mode &&
      decide (1 ≤ plan.lanes.length ∧ plan.lanes.length ≤ 4) &&
      decide (1 ≤ plan.minReady ∧ plan.minReady ≤ plan.lanes.length))
    (Throwable.illegalArgument "Выберите от 1 до 4 каналов")
  let identities ← plan.lanes.mapM fun lane => do
    let identity ← endpointIdentity lane.provider lane.url
    pure (lane.provider ++ ":" ++ identity)
  require (identities.eraseDups.length == identities.length)
    (Throwable.illegalArgument "Для каждого канала нужен отдельный документ или комната")

structure PendingChannelGroup where
  plan : ChannelGroupPlan
  profileId : String
  operationId : String
  stage : String := "submitting"
  deriving DecidableEq

structure GroupCommand where
  operationId : String
  profileId : String
  plan : ChannelGroupPlan
  deriving DecidableEq

def PendingChannelGroup.command (op : PendingChannelGroup) : GroupCommand :=
  ⟨op.operationId, op.profileId, op.plan⟩

inductive CommandFailure
  | thrown (e : Throwable)
  | confirmedAdminRejection (message : String)
  | confirmedAdminAccessRejection (message : String)
  deriving DecidableEq

namespace CommandFailure

def isConfirmedAdminRejection : CommandFailure → Bool
  | thrown _ => false
  | confirmedAdminRejection _ => true
  | confirmedAdminAccessRejection _ => true

def message : CommandFailure → Option String
  | thrown e => e.message
  | confirmedAdminRejection message => some message
  | confirmedAdminAccessRejection message => some message

end CommandFailure

inductive CommandResult
  | success (message : String)
  | failure (error : String) (throwable : Option CommandFailure)
  deriving DecidableEq

inductive ServerReply
  | failed (error : String) (throwable : Option Throwable)
  /-- There is no envelope, or it is not a valid answer to this operation. -/
  | unconfirmed (error : String)
  | signed (status error : Option String)

def accessDeniedReasons : List String :=
  ["UNAUTHORIZED", "administrator status", "administrator privileges expired",
    "insufficient privileges", "outside administrator scope", "administrator profile scope",
    "unauthorized sender", "signature verification failed"]

/-- The failure `confirmServerResponse` makes of a reply; a signed success has none. -/
def ServerReply.confirmServerResponse : ServerReply → Option (String × Option CommandFailure)
  | failed error throwable => some (error, throwable.map .thrown)
  | unconfirmed error => some (error, none)
  | signed status error =>
    if status = some "applied" then none
    else
      let reason := (error.map fun e => String.ofList (e.toList.take 240)).getD
        "Сервер отклонил команду"
      if status ∈ [some "partial", some "pending", some "unknown"] then
        some (reason, some (.thrown (.unknownAdminOperation reason)))
      else if accessDeniedReasons.any (containsIgnoreCase reason) then
        some (reason, some (.confirmedAdminAccessRejection reason))
      else some (reason, some (.confirmedAdminRejection reason))

def ServerReply.rejects (reply : ServerReply) : Bool :=
  reply.confirmServerResponse.any fun f => f.2.any CommandFailure.isConfirmedAdminRejection

/-! ### The machine -/

/-- A UUID is not blank. -/
abbrev Uuid := { text : String // isBlank text = false }

inductive GroupEntry
  | sent (command : GroupCommand)
  | rejected (operationId : String)
  | applied (operationId : String)
  deriving DecidableEq

inductive GroupControl
  | idle
  /-- The operation is recorded, and `createManagedProfile` is preparing the command. -/
  | creating (op : PendingChannelGroup) (plan : ChannelGroupPlan)
  | sending (op : PendingChannelGroup)
  /-- The server has applied the command, and its answer is being saved. -/
  | projecting (op : PendingChannelGroup)
  | finishing (op : PendingChannelGroup) (result : CommandResult)
  | returned (result : CommandResult)
  deriving DecidableEq

structure GroupState where
  /-- `channel_group_operation_` of the server. -/
  stored : Option PendingChannelGroup
  control : GroupControl
  log : List GroupEntry
  deriving DecidableEq

structure GroupCall where
  plan : ChannelGroupPlan
  canPerform : Bool
  checkCoreCompatibility : Except CommandFailure Unit
  /-- The managed profiles whose tunnel is there. -/
  materialized : String → Bool
  /-- The random parts of a new profile id and a new operation id. -/
  profileUuid : Uuid
  operationUuid : Uuid

inductive GroupEvent
  | call (c : GroupCall)
  /-- `createManagedProfile` gives up before it has sent anything. -/
  | refuse (error : String) (throwable : Option Throwable)
  | send (operationUuid profileUuid : Uuid)
  /-- An answer, and how recording a failed command went. -/
  | answer (reply : ServerReply) (recorded : Except Throwable Unit)
  /-- How saving the answer went. -/
  | project (saved : Except (String × Throwable) Unit)
  | save
  | crash

structure ChannelGroups where
  nodeName : String
  endpointIdentity : String → String → Except Throwable String

def failureOf (e : CommandFailure) (message : String) : CommandResult :=
  .failure (e.message.getD message) (some e)

/-- `override?.takeIf { it.isNotBlank() } ?: random`. -/
def orRandom (override : String) (random : String) : String :=
  if isBlank override then random else override

def GroupCall.fresh (c : GroupCall) : PendingChannelGroup where
  plan := c.plan
  profileId := "libreroute-group-" ++ String.ofList (c.profileUuid.1.toList.take 8)
  operationId := c.operationUuid

def GroupCall.operation (c : GroupCall) (previous : Option PendingChannelGroup) :
    PendingChannelGroup :=
  (previous.filter fun p => p.plan == c.plan && p.stage != "failed").getD c.fresh

def CommandResult.stage : CommandResult → String
  | success _ => "ready"
  | failure _ throwable =>
    if throwable.any CommandFailure.isConfirmedAdminRejection then "failed" else "unknown"

namespace ChannelGroups

variable (G : ChannelGroups)

/-- `exceptionOrNull()?.let { return AdminOpResult.Failure(it.message.orEmpty(), it) }`. -/
def failed : Except CommandFailure Unit → Option CommandResult
  | .ok () => none
  | .error e => some (failureOf e "")

def checkPlan (plan : ChannelGroupPlan) : Except Throwable Unit := do
  plan.validate G.endpointIdentity
  require (decide (2 ≤ plan.lanes.length)) (Throwable.illegalArgument "Добавьте хотя бы два канала")

def blocked (c : GroupCall) (previous : Option PendingChannelGroup) : Bool :=
  previous.any fun p => p.plan != c.plan && ["submitting", "unknown"].contains p.stage

def installed (c : GroupCall) (previous : Option PendingChannelGroup) : Bool :=
  previous.any fun p => p.plan == c.plan && p.stage == "ready" && c.materialized p.profileId

def early (c : GroupCall) (previous : Option PendingChannelGroup) : Option CommandResult :=
  failed ((G.checkPlan c.plan).mapError .thrown) <|>
  (if c.canPerform then none
    else some (.failure "Недостаточно прав для настройки каналов" none)) <|>
  failed c.checkCoreCompatibility <|>
  (if blocked c previous
    then some (.failure "Сначала завершите предыдущую настройку с теми же ссылками" none)
    else none) <|>
  (if installed c previous then some (.success "Объединённое подключение уже сохранено")
    else none)

def begin (s : GroupState) (c : GroupCall) : GroupState :=
  match G.early c s.stored with
  | some result => { s with control := .returned result }
  | none =>
    let op := c.operation s.stored
    { s with stored := some { op with stage := "submitting" }, control := .creating op c.plan }

def answer (s : GroupState) (op : PendingChannelGroup) (reply : ServerReply)
    (recorded : Except Throwable Unit) : GroupState :=
  match reply.confirmServerResponse with
  | none => { s with control := .projecting op, log := s.log ++ [.applied op.operationId] }
  | some (error, throwable) =>
    let result := match recorded with
      | .error e => failureOf (.thrown e) "Command cancelled"
      | .ok () => .failure error throwable
    { s with
      control := .finishing op result
      log := if reply.rejects then s.log ++ [.rejected op.operationId] else s.log }

/-- The result of a create command that the server has applied. -/
def projected : Except (String × Throwable) Unit → CommandResult
  | .ok () => .success ("Профиль «Объединённые каналы — " ++ G.nodeName ++ "» успешно создан")
  | .error (error, e) => .failure error (some (.thrown e))

def machine : Machine GroupEvent GroupState where
  step s l :=
    match s.control, l with
    | .idle, .call c => some (G.begin s c)
    | .returned _, .call c => some (G.begin s c)
    | .creating op _, .refuse error throwable =>
      some { s with control := .finishing op (.failure error (throwable.map .thrown)) }
    | .creating op plan, .send operationUuid profileUuid =>
      some
        { s with
          control := .sending op
          log := s.log ++ [.sent ⟨orRandom op.operationId operationUuid,
            orRandom op.profileId profileUuid, plan⟩] }
    | .sending op, .answer reply recorded => some (answer s op reply recorded)
    | .projecting op, .project saved =>
      some { s with control := .finishing op (G.projected saved) }
    | .finishing op result, .save =>
      some
        { s with stored := some { op with stage := result.stage }, control := .returned result }
    | _, .crash => some { s with control := .idle }
    | _, _ => none

inductive Moves (s : GroupState) : GroupEvent → GroupState → Prop
  | call (c : GroupCall) : Moves s (.call c) (G.begin s c)
  | refuse (op : PendingChannelGroup) (plan : ChannelGroupPlan) (error : String)
      (throwable : Option Throwable) (h : s.control = .creating op plan) :
      Moves s (.refuse error throwable)
        { s with control := .finishing op (.failure error (throwable.map .thrown)) }
  | send (op : PendingChannelGroup) (plan : ChannelGroupPlan) (operationUuid profileUuid : Uuid)
      (h : s.control = .creating op plan) :
      Moves s (.send operationUuid profileUuid)
        { s with
          control := .sending op
          log := s.log ++ [.sent ⟨orRandom op.operationId operationUuid,
            orRandom op.profileId profileUuid, plan⟩] }
  | answer (op : PendingChannelGroup) (reply : ServerReply) (recorded : Except Throwable Unit)
      (h : s.control = .sending op) :
      Moves s (.answer reply recorded) (ChannelGroups.answer s op reply recorded)
  | project (op : PendingChannelGroup) (saved : Except (String × Throwable) Unit)
      (h : s.control = .projecting op) :
      Moves s (.project saved) { s with control := .finishing op (G.projected saved) }
  | save (op : PendingChannelGroup) (result : CommandResult)
      (h : s.control = .finishing op result) :
      Moves s .save
        { s with stored := some { op with stage := result.stage }, control := .returned result }
  | crash : Moves s .crash { s with control := .idle }

variable {G} {s t : GroupState} {l : GroupEvent}

theorem moves_of_step (h : G.machine.step s l = some t) : G.Moves s l t := by
  simp only [machine] at h
  split at h
  · exact Option.some.inj h ▸ .call _
  · exact Option.some.inj h ▸ .call _
  · exact Option.some.inj h ▸ .refuse _ _ _ _ (by assumption)
  · exact Option.some.inj h ▸ .send _ _ _ _ (by assumption)
  · exact Option.some.inj h ▸ .answer _ _ _ (by assumption)
  · exact Option.some.inj h ▸ .project _ _ (by assumption)
  · exact Option.some.inj h ▸ .save _ _ (by assumption)
  · exact Option.some.inj h ▸ .crash
  · simp at h

end ChannelGroups

/-! ### What is under way -/

/-- The server has signed what became of the operation. -/
def GroupEntry.settles (operationId : String) : GroupEntry → Bool
  | sent _ => false
  | rejected id => id == operationId
  | applied id => id == operationId

/-- The command was sent, and its operation has not been settled since. -/
def Open (c : GroupCommand) (log : List GroupEntry) : Prop :=
  ∃ before after, log = before ++ .sent c :: after ∧ ∀ e ∈ after, e.settles c.operationId = false

theorem open_append {c : GroupCommand} {log : List GroupEntry} {e : GroupEntry}
    (h : Open c (log ++ [e])) : e = .sent c ∨ Open c log ∧ e.settles c.operationId = false := by
  obtain ⟨before, after, heq, hafter⟩ := h
  rcases List.eq_nil_or_concat after with rfl | ⟨after, last, rfl⟩
  · obtain ⟨-, hlast⟩ := List.append_inj' heq rfl
    exact Or.inl (List.cons.inj hlast).1
  · rw [List.concat_eq_append, ← List.cons_append, ← List.append_assoc] at heq
    obtain ⟨rfl, hlast⟩ := List.append_inj' heq rfl
    obtain rfl : e = last := (List.cons.inj hlast).1
    refine Or.inr ⟨⟨before, after, rfl, fun e' he' => ?_⟩, ?_⟩
    · exact hafter e' (by simp [he'])
    · exact hafter e (by simp)

def GroupControl.operation : GroupControl → Option PendingChannelGroup
  | idle | returned _ => none
  | creating op _ | sending op | projecting op | finishing op _ => some op

@[simp] def GroupControl.knowsSettled : GroupControl → Bool
  | idle | returned _ | creating _ _ | sending _ => false
  | projecting _ => true
  | finishing _ result => result.stage != "unknown"

/-- The command of an operation that is under way is the one in the record, and the record says
that it is under way. -/
structure GroupState.Recorded (s : GroupState) : Prop where
  ids : ∀ op, s.stored = some op → isBlank op.operationId = false ∧ isBlank op.profileId = false
  current : ∀ op, s.control.operation = some op → s.stored = some { op with stage := "submitting" }
  plan : ∀ op plan, s.control = .creating op plan → op.plan = plan
  settled : s.control.knowsSettled = true → ∀ c, ¬ Open c s.log
  opened : ∀ c, Open c s.log →
    ∃ op, s.stored = some op ∧ op.command = c ∧ (op.stage = "submitting" ∨ op.stage = "unknown")
  log : Each (fun before e => ∀ c', e = .sent c' → ∀ c, Open c before → c' = c) s.log

namespace ChannelGroups

variable {G : ChannelGroups} {s t : GroupState} {l : GroupEvent} {op : PendingChannelGroup}

theorem isBlank_append_left {a b : String} (h : isBlank a = false) : isBlank (a ++ b) = false := by
  simp only [isBlank, String.toList_append, List.all_append, Bool.and_eq_false_iff] at h ⊢
  exact Or.inl h

theorem operation_cases (c : GroupCall) (previous : Option PendingChannelGroup) :
    c.operation previous = c.fresh ∨
      previous = some (c.operation previous) ∧ (c.operation previous).plan = c.plan := by
  unfold GroupCall.operation
  rcases hprevious : previous.filter fun p => p.plan == c.plan && p.stage != "failed" with _ | op
  · exact Or.inl (by rw [hprevious, Option.getD_none])
  · obtain ⟨hsome, hkept⟩ := Option.filter_eq_some_iff.1 hprevious
    rw [Bool.and_eq_true, beq_iff_eq] at hkept
    rw [hprevious, Option.getD_some]
    exact Or.inr ⟨hsome, hkept.1⟩

theorem operation_ids (c : GroupCall) {previous : Option PendingChannelGroup}
    (h : ∀ op, previous = some op → isBlank op.operationId = false ∧ isBlank op.profileId = false) :
    isBlank (c.operation previous).operationId = false ∧
      isBlank (c.operation previous).profileId = false := by
  rcases operation_cases c previous with hfresh | ⟨hprevious, -⟩
  · rw [hfresh]
    exact ⟨c.operationUuid.2, isBlank_append_left (by decide)⟩
  · exact h _ hprevious

theorem operation_plan (c : GroupCall) (previous : Option PendingChannelGroup) :
    (c.operation previous).plan = c.plan := by
  rcases operation_cases c previous with hfresh | ⟨-, hplan⟩
  · rw [hfresh]
    rfl
  · exact hplan

theorem operation_of_under_way {c : GroupCall}
    (hstage : op.stage = "submitting" ∨ op.stage = "unknown") (h : blocked c (some op) = false) :
    c.operation (some op) = op := by
  have hstages : ["submitting", "unknown"].contains op.stage = true := by
    rcases hstage with hstage | hstage <;> rw [hstage] <;> decide
  have hplan : op.plan = c.plan := by
    rw [blocked, Option.any_some, hstages, Bool.and_true] at h
    simpa using h
  have hfailed : op.stage ≠ "failed" := by
    rcases hstage with hstage | hstage <;> rw [hstage] <;> decide
  simp [GroupCall.operation, Option.filter, hplan, hfailed]

theorem blocked_of_early {c : GroupCall} {previous : Option PendingChannelGroup}
    (h : G.early c previous = none) : blocked c previous = false := by
  simp only [early, Option.orElse_eq_orElse, Option.orElse_eq_or, Option.or_eq_none_iff] at h
  simpa using h.2.2.2.1

theorem recorded_begin (hs : s.Recorded) (c : GroupCall) : (G.begin s c).Recorded := by
  unfold begin
  rcases hearly : G.early c s.stored with _ | result
  · refine ⟨?_, ?_, ?_, by simp, ?_, hs.log⟩
    · intro op hop
      obtain rfl := Option.some.inj hop
      exact operation_ids c hs.ids
    · intro op hop
      obtain rfl := Option.some.inj hop
      rfl
    · intro op plan hop
      obtain ⟨rfl, rfl⟩ := GroupControl.creating.inj hop
      exact operation_plan c s.stored
    · intro command hopen
      obtain ⟨op, hstored, rfl, hstage⟩ := hs.opened command hopen
      refine ⟨_, rfl, ?_, Or.inl rfl⟩
      rw [hstored, operation_of_under_way hstage (hstored ▸ blocked_of_early hearly)]
      rfl
  · exact ⟨hs.ids, by simp [GroupControl.operation], by simp, by simp,
      hs.opened, hs.log⟩

theorem command_of_open (hs : s.Recorded) {c : GroupCommand} (hop : s.control.operation = some op)
    (hopen : Open c s.log) : op.command = c := by
  obtain ⟨op', hstored, rfl, -⟩ := hs.opened c hopen
  obtain rfl := Option.some.inj ((hs.current op hop).symm.trans hstored)
  rfl

theorem orRandom_of_not_blank {override random : String} (h : isBlank override = false) :
    orRandom override random = override := by
  rw [orRandom, h, if_neg (by decide)]

theorem stage_thrown (error : String) (throwable : Option Throwable) :
    (CommandResult.failure error (throwable.map .thrown)).stage = "unknown" := by
  cases throwable <;> rfl

theorem recorded_send (hs : s.Recorded) {plan : ChannelGroupPlan}
    (h : s.control = .creating op plan) (operationUuid profileUuid : Uuid) :
    GroupState.Recorded
      { s with
        control := .sending op
        log := s.log ++ [.sent ⟨orRandom op.operationId operationUuid,
          orRandom op.profileId profileUuid, plan⟩] } := by
  have hop : s.control.operation = some op := by rw [h]; rfl
  have hstored := hs.current op hop
  obtain ⟨hoperation, hprofile⟩ := hs.ids _ hstored
  -- the ids of the record are not blank, so that the command is that of the record
  have hcommand : GroupCommand.mk (orRandom op.operationId operationUuid)
      (orRandom op.profileId profileUuid) plan = op.command := by
    rw [orRandom_of_not_blank hoperation, orRandom_of_not_blank hprofile, ← hs.plan op plan h]
    rfl
  rw [hcommand]
  refine ⟨hs.ids, fun op' hop' => Option.some.inj hop' ▸ hstored, by simp,
    by simp, ?_, ?_⟩
  · intro c hopen
    refine ⟨_, hstored, ?_, Or.inl rfl⟩
    change op.command = c
    rcases open_append hopen with hsent | ⟨hopen, -⟩
    · exact GroupEntry.sent.inj hsent
    · exact command_of_open hs hop hopen
  · refine hs.log.append ?_
    rintro c' hc' c hopen
    obtain rfl := GroupEntry.sent.inj hc'
    exact command_of_open hs hop hopen

theorem not_open_of_settled (hs : s.Recorded) {e : GroupEntry} (hop : s.control.operation = some op)
    (he : e.settles op.operationId = true) (c : GroupCommand) : ¬ Open c (s.log ++ [e]) := by
  intro hopen
  rcases open_append hopen with rfl | ⟨hopen, hnot⟩
  · simp [GroupEntry.settles] at he
  · rw [← command_of_open hs hop hopen] at hnot
    rw [show op.command.operationId = op.operationId from rfl, he] at hnot
    simp at hnot

section Control

variable {control : GroupControl} (hs : s.Recorded) (hop : s.control.operation = some op)
  (hcontrol : control.operation = some op) (hplan : ∀ op plan, control ≠ .creating op plan)

include hs hop hcontrol hplan

theorem recorded_control (hsettled : control.knowsSettled = true → ∀ c, ¬ Open c s.log) :
    GroupState.Recorded { s with control := control } :=
  ⟨hs.ids, fun _ hop' => Option.some.inj (hcontrol.symm.trans hop') ▸ hs.current op hop,
    fun op plan h => absurd h (hplan op plan), hsettled, hs.opened, hs.log⟩

theorem recorded_settled {e : GroupEntry} (he : e.settles op.operationId = true) :
    GroupState.Recorded { s with control := control, log := s.log ++ [e] } := by
  have hnone := not_open_of_settled hs hop he
  refine ⟨hs.ids, fun _ hop' => Option.some.inj (hcontrol.symm.trans hop') ▸ hs.current op hop,
    fun op plan h => absurd h (hplan op plan), fun _ => hnone, fun c h => absurd h (hnone c),
    hs.log.append ?_⟩
  rintro c rfl
  simp [GroupEntry.settles] at he

end Control

theorem recorded_answer (hs : s.Recorded) (h : s.control = .sending op) (reply : ServerReply)
    (recorded : Except Throwable Unit) : (answer s op reply recorded).Recorded := by
  have hop : s.control.operation = some op := by rw [h]; rfl
  unfold answer
  rcases hreply : reply.confirmServerResponse with _ | ⟨error, throwable⟩
  · exact recorded_settled hs hop rfl (by simp) (by simp [GroupEntry.settles])
  · dsimp only
    split_ifs with hrejects
    · exact recorded_settled hs hop rfl (by simp) (by simp [GroupEntry.settles])
    · -- the reply is no signed rejection, and the outcome is recorded as unknown
      refine recorded_control hs hop rfl (by simp) fun hknows => ?_
      rw [ServerReply.rejects, hreply, Option.any_some, Bool.not_eq_true] at hrejects
      rcases recorded with e | _
      · simp [failureOf, CommandResult.stage,
          CommandFailure.isConfirmedAdminRejection] at hknows
      · simp [CommandResult.stage, hrejects] at hknows

theorem recorded_save (hs : s.Recorded) {result : CommandResult}
    (h : s.control = .finishing op result) :
    GroupState.Recorded
      { s with stored := some { op with stage := result.stage }, control := .returned result } := by
  have hop : s.control.operation = some op := by rw [h]; rfl
  refine ⟨?_, by simp [GroupControl.operation], by simp, by simp, ?_,
    hs.log⟩
  · rintro op' hop'
    obtain rfl := Option.some.inj hop'
    have hids := hs.ids _ (hs.current op hop)
    exact hids
  · intro c hopen
    have hcommand := command_of_open hs hop hopen
    refine ⟨_, rfl, hcommand, Or.inr ?_⟩
    by_contra hstage
    refine hs.settled ?_ c hopen
    rw [h]
    simpa using hstage

theorem Moves.recorded (h : G.Moves s l t) (hs : s.Recorded) : t.Recorded := by
  cases h with
  | call c => exact recorded_begin hs c
  | refuse op plan error throwable h =>
    exact recorded_control hs (by rw [h]; rfl) rfl (by simp) (by simp [stage_thrown])
  | send op plan operationUuid profileUuid h => exact recorded_send hs h operationUuid profileUuid
  | answer op reply recorded h => exact recorded_answer hs h reply recorded
  | project op saved h =>
    exact recorded_control hs (by rw [h]; rfl) rfl (by simp) fun _ => hs.settled (by rw [h]; rfl)
  | save op result h => exact recorded_save hs h
  | crash =>
    exact ⟨hs.ids, by simp [GroupControl.operation], by simp, by simp,
      hs.opened, hs.log⟩

/-- No call has been made yet; a record may be there from before. -/
def start (stored : Option PendingChannelGroup) : GroupState where
  stored := stored
  control := .idle
  log := []

theorem recorded_start {stored : Option PendingChannelGroup}
    (h : ∀ op, stored = some op → isBlank op.operationId = false ∧ isBlank op.profileId = false) :
    (start stored).Recorded where
  ids := h
  current := by simp [start, GroupControl.operation]
  plan := by simp [start]
  settled := by simp [start]
  opened c := by
    rintro ⟨before, after, hlog, -⟩
    simp [start] at hlog
  log := each_nil

/-- However calls, answers and crashes follow each other: between a command and a later one
that are sent for the group, either the server has signed a rejection or a success of the
first, or the two are the same command, with its ids and its plan. -/
theorem group_command_kept {stored : Option PendingChannelGroup}
    (hstored : ∀ op, stored = some op →
      isBlank op.operationId = false ∧ isBlank op.profileId = false)
    {events : List GroupEvent} (hrun : G.machine.run (start stored) events = some s)
    {before middle after : List GroupEntry} {first later : GroupCommand}
    (hlog : s.log = before ++ .sent first :: (middle ++ .sent later :: after))
    (hmiddle : ∀ e ∈ middle, e ≠ .rejected first.operationId ∧ e ≠ .applied first.operationId) :
    later = first := by
  have hs : s.Recorded :=
    Machine.run_invariant (fun _ _ _ hstep hs => (moves_of_step hstep).recorded hs) hrun
      (recorded_start hstored)
  have hsplit : s.log = (before ++ .sent first :: middle) ++ .sent later :: after := by
    rw [hlog, List.append_assoc, List.cons_append]
  refine hs.log _ _ _ hsplit later rfl first ⟨before, middle, rfl, fun e he => ?_⟩
  cases e with
  | sent c => rfl
  | rejected id =>
    have hne : id ≠ first.operationId := fun heq => (hmiddle _ he).1 (heq ▸ rfl)
    exact beq_false_of_ne hne
  | applied id =>
    have hne : id ≠ first.operationId := fun heq => (hmiddle _ he).2 (heq ▸ rfl)
    exact beq_false_of_ne hne

def twoRooms : ChannelGroups where
  nodeName := "Сервер"
  endpointIdentity _ url :=
    if url = "https://salutejazz.ru/call/one/password" then .ok "one"
    else if url = "https://salutejazz.ru/call/two/password" then .ok "two"
    else .error (.illegalArgument "Укажите полную ссылку Jazz с паролем")

def twoRoomsPlan : ChannelGroupPlan where
  lanes := [⟨"jazz", "https://salutejazz.ru/call/one/password"⟩,
    ⟨"jazz", "https://salutejazz.ru/call/two/password"⟩]

def twoRoomsCall (profileUuid operationUuid : Uuid) : GroupCall where
  plan := twoRoomsPlan
  canPerform := true
  checkCoreCompatibility := .ok ()
  materialized _ := false
  profileUuid := profileUuid
  operationUuid := operationUuid

/-- The answer to the command is lost, the process dies, and the user tries again. -/
def lostAndTriedAgain : List GroupEvent :=
  [.call (twoRoomsCall ⟨"6ba7b810-9dad-11d1", by decide⟩ ⟨"f81d4fae-7dec-11d0", by decide⟩),
    .send ⟨"00000000-0000-4000", by decide⟩ ⟨"00000000-0000-4001", by decide⟩,
    .answer (.failed "SSH connection failed" none) (.ok ()), .crash,
    .call (twoRoomsCall ⟨"7c9e6679-7425-40de", by decide⟩ ⟨"16fd2706-8baf-433b", by decide⟩),
    .send ⟨"00000000-0000-4002", by decide⟩ ⟨"00000000-0000-4003", by decide⟩]

theorem lostAndTriedAgain_kept :
    ∃ s first later, twoRooms.machine.run (start none) lostAndTriedAgain = some s ∧
      s.log = [.sent first, .sent later] ∧ later = first := by
  refine ⟨_, _, _, rfl, rfl, ?_⟩
  exact @group_command_kept twoRooms _ none (by simp) lostAndTriedAgain rfl [] [] [] _ _ rfl
    (by simp)

end ChannelGroups

end LibreRoute.Admin
