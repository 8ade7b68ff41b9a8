import LibreRoute.Lib.Log
import LibreRoute.Update.Coverage
import LibreRoute.Update.Stream

/-!
The actions of a core update.

`CoreUpdateClient.submit` begins an operation on the server, uploads the
artifact, has it verified, prepared and applied, and observes the operation
until its outcome is known. It is a machine whose labels carry what the server
and the callbacks answer; an upload is one step with any outcome. The order of
the actions is a matter of the log of what is sent.
-/

namespace LibreRoute.Update

open Lib
open Admin (Throwable)

/-- The actions of the protocol, apart from the transfer of the artifact. -/
inductive UpdateAction
  | begin
  | uploadStatus
  | verify
  | prepare
  | apply
  | confirm
  | status
  deriving DecidableEq

inductive Exchange
  /-- An action, and the answer to it. -/
  | call (action : UpdateAction) (fields : JsonObject) (reply : Except Throwable JsonObject)
  /-- An attempt to upload the artifact, as a stream or in parts. -/
  | upload (binary : Bool) (outcome : Except Throwable JsonObject)

namespace Exchange

@[simp] def action : Exchange → Option UpdateAction
  | call action _ _ => some action
  | upload _ _ => none

def state : Exchange → Option JsonObject
  | call _ _ reply => reply.toOption
  | upload _ outcome => outcome.toOption

@[simp] def isUpload : Exchange → Bool
  | call _ _ _ => false
  | upload _ _ => true

end Exchange

def latest (log : List Exchange) : Option JsonObject :=
  log.foldl (fun state e => e.state.or state) none

def advances (log : List Exchange) : List UpdateAction :=
  (log.filterMap Exchange.action).filter (· ∈ [.verify, .prepare, .apply])

def uploads (log : List Exchange) : Nat := log.countP Exchange.isUpload

section Log

variable (log : List Exchange) (e : Exchange)

@[simp] theorem latest_append : latest (log ++ [e]) = e.state.or (latest log) := by
  simp [latest]

@[simp] theorem advances_append : advances (log ++ [e]) = advances log ++ advances [e] := by
  simp [advances]

theorem advances_upload (binary : Bool) (outcome : Except Throwable JsonObject) :
    advances [.upload binary outcome] = [] := rfl

@[simp] theorem uploads_append : uploads (log ++ [e]) = uploads log + uploads [e] := by
  simp [uploads]

end Log

def transferStages : List String := ["planned", "receiving"]

/-- The stages in which the outcome of an operation is open. -/
def openStages : List String :=
  ["prepared", "backing_up", "switching", "checking", "awaiting_confirmation", "rolling_back"]

/-- `plan.getValue("manifest").jsonObject`. -/
def manifestOf (plan : JsonObject) : Except Throwable JsonObject := do
  let element ← ofJson (plan.getValue "manifest")
  ofJson element.jsonObject

/-- `state["stream_available"]?.jsonPrimitive?.booleanOrNull == true`. -/
def streamAvailable (state : JsonObject) : Except Throwable Bool := do
  let text ← ofJson (state.contentOf "stream_available")
  pure (text.any (equalsIgnoreCase · "true"))

/-- `state[key]?.jsonPrimitive?.longOrNull ?: 0`. -/
def CoreUpdateClient.longOrZero (client : CoreUpdateClient) (state : JsonObject) (key : String) :
    Except Throwable Int := do
  let text ← ofJson (state.contentOf key)
  pure ((text.bind client.longOrNull).getD 0)

/-- The answer of the server, and what the callback does that stores it. -/
structure Answer where
  reply : Except Throwable JsonObject
  checkpoint : Except Throwable Unit

/-- `check(!cancelled() && now() < deadline) { message }`. -/
def checkRunning (clock : Clock) (deadline : Int) (message : String) : Except Throwable Unit := do
  let cancelled ← clock.cancelled
  if cancelled then throw (.illegalState message)
  else do
    let now ← clock.now
    require (decide (now < deadline)) (Throwable.illegalState message)

/-! ### The machine -/

/-- Where `submit` stands. -/
inductive SubmitControl
  | checking
  /-- At the head of the loop over the attempts. -/
  | uploading
  /-- In the handler of a failed attempt. -/
  | failed (e : Throwable)
  | verify
  | prepare
  | apply
  /-- At the beginning of `observe`. -/
  | observe
  /-- At the condition of the loop of `observe`. -/
  | observing (deadline : Int)
  | returned (state : JsonObject)
  | thrown (e : Throwable)

structure SubmitState where
  control : SubmitControl
  state : JsonObject
  deadline : Int
  recoveries : Nat
  log : List Exchange

inductive SubmitEvent
  | begin (file : Except Throwable Unit) (cancelled : Except Throwable Bool)
      (beforeSubmit : Except Throwable Unit) (answer : Answer) (now : Except Throwable Int)
  | upload (outcome : Except Throwable JsonObject)
  /-- `recoverable` is what `recoverableUploadFailure` says about the failure. -/
  | recover (recoverable : Except Throwable Bool) (clock : Clock) (pause : Except Throwable Unit)
      (after : Clock) (answer : Answer)
  | advance (clock : Clock) (answer : Answer)
  | observe (now : Except Throwable Int)
  | poll (clock : Clock) (confirmation : Answer) (progress sleep : Except Throwable Unit)
      (answer : Answer)

structure Submission where
  client : CoreUpdateClient
  /-- A stream is available on this carrier. -/
  binaryUpload : Bool
  plan : JsonObject
  /-- The bytes of the artifact, if it is a file. -/
  artifact : Option (List UInt8)

namespace Submission

variable (S : Submission) {state : JsonObject}

def uploadMs : Int := 30 * 60000

def observeMs : Int := 60000

def start : SubmitState where
  control := .checking
  state := []
  deadline := 0
  recoveries := 0
  log := []

def fail (s : SubmitState) (e : Throwable) : SubmitState := { s with control := .thrown e }

/-- `call(action, fields).also(checkpoint)`. -/
def ask (s : SubmitState) (action : UpdateAction) (fields : JsonObject) (answer : Answer)
    (next : SubmitState → SubmitState) : SubmitState :=
  let s := { s with log := s.log ++ [.call action fields answer.reply] }
  match answer.reply, answer.checkpoint with
  | .error e, _ => fail s e
  | .ok _, .error e => fail s e
  | .ok state, .ok () => next { s with state := state }

def checkArtifact (file : Except Throwable Unit) : Except Throwable Unit := do
  let manifest ← manifestOf S.plan
  let size ← S.client.long manifest "size"
  require (S.artifact.any fun bytes => decide ((bytes.length : Int) = size))
    (Throwable.illegalArgument "Размер сборки отличается от подписанного плана")
  file
  let element ← ofJson (manifest.getValue "sha256")
  let sha256 ← ofJson element.content
  require (hex (S.client.sha256 (S.artifact.getD [])) == sha256)
    (Throwable.illegalArgument "Контрольная сумма сборки не совпадает")

/-- Everything before `begin` is sent. -/
def checkSubmission (file : Except Throwable Unit) (cancelled : Except Throwable Bool)
    (beforeSubmit : Except Throwable Unit) : Except Throwable Unit := do
  S.checkArtifact file
  let cancelled ← cancelled
  require (!cancelled) (Throwable.illegalState "Подготовка отменена до отправки")
  beforeSubmit

def byStage (s : SubmitState) (next : String → SubmitState) : SubmitState :=
  match string s.state "stage" with
  | .error e => fail s e
  | .ok stage => next stage

/-- Uploads are tried as long as the server receives. -/
def enter (s : SubmitState) : SubmitState :=
  byStage s fun stage =>
    { s with control := if stage ∈ transferStages then .uploading else .verify }

def begin (s : SubmitState) (file : Except Throwable Unit) (cancelled : Except Throwable Bool)
    (beforeSubmit : Except Throwable Unit) (answer : Answer) (now : Except Throwable Int) :
    SubmitState :=
  match S.checkSubmission file cancelled beforeSubmit with
  | .error e => fail s e
  | .ok () => ask s .begin [("plan", .object S.plan)] answer fun s =>
    match now with
    | .error e => fail s e
    | .ok now => enter { s with deadline := now + uploadMs }

/-- Whether the artifact is sent as a stream. -/
def binary (s : SubmitState) : Except Throwable Bool :=
  if S.binaryUpload then streamAvailable s.state else pure false

def attempt (s : SubmitState) (outcome : Except Throwable JsonObject) : SubmitState :=
  match S.binary s with
  | .error e => { s with control := .failed e }
  | .ok binary =>
    let s := { s with log := s.log ++ [Exchange.upload binary outcome] }
    match outcome with
    | .error e => { s with control := .failed e }
    | .ok state => { s with control := .verify, state := state }

/-- Whether a failed attempt may be followed by another. -/
def mayRecover (s : SubmitState) (recoverable : Except Throwable Bool) (clock : Clock) :
    Except Throwable Bool :=
  if S.client.useReliableBatches then do
    let recoverable ← recoverable
    if recoverable && decide (s.recoveries < 3) then do
      let cancelled ← clock.cancelled
      if cancelled then pure false
      else do
        let now ← clock.now
        pure (decide (now < s.deadline))
    else pure false
  else pure false

/-- `pause(1000L shl recoveries++)`, and the check after it. -/
def rest (s : SubmitState) (pause : Except Throwable Unit) (after : Clock) :
    Except Throwable Unit := do
  pause
  checkRunning after s.deadline "Передача остановлена. Проверьте сохранённый прогресс"

def recover (s : SubmitState) (e : Throwable) (recoverable : Except Throwable Bool) (clock : Clock)
    (pause : Except Throwable Unit) (after : Clock) (answer : Answer) : SubmitState :=
  match S.mayRecover s recoverable clock with
  | .error e => fail s e
  | .ok false => fail s e
  | .ok true =>
    match rest s pause after with
    | .error e => fail s e
    | .ok () => ask { s with recoveries := s.recoveries + 1 } .uploadStatus [] answer enter

/-- `if (state.string("stage") in stages) state = advance(action)`. -/
def advance (s : SubmitState) (stages : List String) (action : UpdateAction) (next : SubmitControl)
    (clock : Clock) (answer : Answer) : SubmitState :=
  byStage s fun stage =>
    if stage ∈ stages then
      match checkRunning clock s.deadline
          "Продолжение остановлено. Проверьте состояние обновления" with
      | .error e => fail s e
      | .ok () => ask s action [] answer fun s => { s with control := next }
    else { s with control := next }

/-- The operation is prepared, and nothing will apply it. -/
def isParked (stage : String) (state : JsonObject) : Except Throwable Bool :=
  if stage = "prepared" then (fun deadline => decide (deadline = 0)) <$>
    S.client.longOrZero state "deadline"
  else pure false

/-- The checks before a confirmation, which give the digest that is confirmed. -/
def checkRuntime (state : JsonObject) : Except Throwable Json := do
  let element ← ofJson (state.getValue "runtime")
  let runtime ← ofJson element.jsonObject
  let target ← manifestOf S.plan
  let buildId ← string runtime "build_id"
  let sha256 ← string target "sha256"
  require (buildId == sha256)
    (Throwable.illegalArgument "Работающее ядро отличается от подписанной целевой сборки")
  let version ← string runtime "version"
  let expected ← string target "version"
  require (version == expected)
    (Throwable.illegalArgument "Работающее ядро отличается от подписанной целевой сборки")
  ofJson (target.getValue "sha256")

def shown (state : JsonObject) (progress : Except Throwable Unit) : Except Throwable Unit := do
  let _ ← S.client.longOrZero state "received_bytes"
  let _ ← S.client.longOrZero state "size"
  progress

/-- The end of a turn of the loop, after a confirmation that may have been due. -/
def await (s : SubmitState) (deadline : Int) (progress sleep : Except Throwable Unit)
    (answer : Answer) : SubmitState :=
  byStage s fun stage =>
    match S.shown s.state progress with
    | .error e => fail s e
    | .ok () =>
      if stage = "committed" then { s with control := .returned s.state }
      else
        match sleep with
        | .error e => fail s e
        | .ok () => ask s .status [] answer fun s => { s with control := .observing deadline }

/-- A turn of the loop, in an open stage. -/
def turn (s : SubmitState) (stage : String) (deadline : Int) (confirmation : Answer)
    (progress sleep : Except Throwable Unit) (answer : Answer) : SubmitState :=
  match S.isParked stage s.state with
  | .error e => fail s e
  | .ok true => { s with control := .returned s.state }
  | .ok false =>
    if stage = "awaiting_confirmation" then
      match S.checkRuntime s.state with
      | .error e => fail s e
      | .ok sha256 => ask s .confirm [("runtime_sha", sha256)] confirmation fun s =>
        S.await s deadline progress sleep answer
    else S.await s deadline progress sleep answer

def poll (s : SubmitState) (deadline : Int) (clock : Clock) (confirmation : Answer)
    (progress sleep : Except Throwable Unit) (answer : Answer) : SubmitState :=
  byStage s fun stage =>
    if stage ∈ openStages then
      match checkRunning clock deadline
          "Результат пока неизвестен. Проверьте состояние обновления" with
      | .error e => fail s e
      | .ok () => S.turn s stage deadline confirmation progress sleep answer
    else { s with control := .returned s.state }

def step (s : SubmitState) : SubmitEvent → Option SubmitState
  | .begin file cancelled beforeSubmit answer now =>
    match s.control with
    | .checking => some (S.begin s file cancelled beforeSubmit answer now)
    | _ => none
  | .upload outcome =>
    match s.control with
    | .uploading => some (S.attempt s outcome)
    | _ => none
  | .recover recoverable clock pause after answer =>
    match s.control with
    | .failed e => some (S.recover s e recoverable clock pause after answer)
    | _ => none
  | .advance clock answer =>
    match s.control with
    | .verify => some (advance s transferStages .verify .prepare clock answer)
    | .prepare => some (advance s ["verified"] .prepare .apply clock answer)
    | .apply => some (advance s ["prepared"] .apply .observe clock answer)
    | _ => none
  | .observe now =>
    match s.control with
    | .observe => some (match now with
        | .error e => fail s e
        | .ok now => { s with control := .observing (now + observeMs) })
    | _ => none
  | .poll clock confirmation progress sleep answer =>
    match s.control with
    | .observing deadline => some (S.poll s deadline clock confirmation progress sleep answer)
    | _ => none

def machine : Machine SubmitEvent SubmitState := ⟨S.step⟩

/-- A run of `submit` leads to the state `s`. -/
def Reaches (events : List SubmitEvent) (s : SubmitState) : Prop :=
  S.machine.run start events = some s

/-! ### The protocol -/

/-- The stages in which an action may be sent. -/
def required : UpdateAction → Option (List String)
  | .verify => some transferStages
  | .prepare => some ["verified"]
  | .apply => some ["prepared"]
  | _ => none

/-- The state that was reported last has one of the stages. -/
def LatestStage (log : List Exchange) (stages : List String) : Prop :=
  ∃ state stage, latest log = some state ∧ string state "stage" = .ok stage ∧ stage ∈ stages

/-- The running core is the one of the plan. -/
def RunsTarget (state : JsonObject) : Prop :=
  ∃ element runtime manifest sha256 version,
    state.getValue "runtime" = .ok element ∧ element.jsonObject = .ok runtime ∧
    manifestOf S.plan = .ok manifest ∧
    string runtime "build_id" = .ok sha256 ∧ string manifest "sha256" = .ok sha256 ∧
    string runtime "version" = .ok version ∧ string manifest "version" = .ok version

/-- The server has reported its state after every attempt to upload. -/
def Refreshed (log : List Exchange) : Prop :=
  ∀ before binary outcome after, log = before ++ Exchange.upload binary outcome :: after →
    ∃ fields state, Exchange.call .uploadStatus fields (.ok state) ∈ after

/-- What may be sent, in view of what was sent and reported before. -/
structure Turn (before : List Exchange) (e : Exchange) : Prop where
  first : e.action = some .begin ↔ before = []
  stage : ∀ action stages, e.action = some action → required action = some stages →
    LatestStage before stages
  runtime : e.action = some .confirm → ∃ state, latest before = some state ∧ S.RunsTarget state
  refreshed : e.isUpload = true → Refreshed before

structure Sound (log : List Exchange) : Prop where
  turns : Each S.Turn log
  order : (advances log).Sublist [.verify, .prepare, .apply]
  uploads : uploads log ≤ 4

/-- `submit` may return with the state. -/
def Final (state : JsonObject) : Prop :=
  ∃ stage, string state "stage" = .ok stage ∧
    (stage ∉ openStages ∨ stage = "prepared" ∧ S.client.longOrZero state "deadline" = .ok 0)

/-- What holds of the log where `submit` stands. -/
def At (s : SubmitState) : Prop :=
  match s.control with
  | .checking => s.log = [] ∧ s.recoveries = 0
  | .uploading => latest s.log = some s.state ∧ advances s.log = [] ∧
      uploads s.log ≤ s.recoveries ∧ s.recoveries ≤ 3 ∧ Refreshed s.log
  | .failed _ => latest s.log = some s.state ∧ advances s.log = [] ∧
      uploads s.log ≤ s.recoveries + 1 ∧ s.recoveries ≤ 3
  | .verify => latest s.log = some s.state ∧ advances s.log = []
  | .prepare => latest s.log = some s.state ∧ (advances s.log).Sublist [.verify]
  | .apply => latest s.log = some s.state ∧ (advances s.log).Sublist [.verify, .prepare]
  | .observe => latest s.log = some s.state
  | .observing _ => latest s.log = some s.state
  | .returned state => latest s.log = some state ∧ S.Final state
  | .thrown _ => True

structure Follows (s : SubmitState) : Prop where
  sound : S.Sound s.log
  at_control : S.At s

variable {S} {s : SubmitState} {log : List Exchange}

theorem follows_start : S.Follows start where
  sound := ⟨each_nil, by simp [start, advances], by simp [start, uploads]⟩
  at_control := ⟨rfl, rfl⟩

theorem follows_fail (h : S.Sound s.log) (e : Throwable) : S.Follows (fail s e) := ⟨h, trivial⟩

theorem ne_nil_of_latest (h : latest log = some state) : log ≠ [] := by
  rintro rfl
  simp [latest] at h

theorem refreshed_of_status (log : List Exchange) (fields state : JsonObject) :
    Refreshed (log ++ [.call .uploadStatus fields (.ok state)]) := by
  intro before binary outcome after heq
  rcases List.eq_nil_or_concat after with rfl | ⟨after, last, rfl⟩
  · have hlast := (List.append_inj' heq rfl).2
    simp at hlast
  · rw [List.concat_eq_append, ← List.cons_append, ← List.append_assoc] at heq
    obtain ⟨-, hlast⟩ := List.append_inj' heq rfl
    refine ⟨fields, state, ?_⟩
    rw [List.concat_eq_append, (List.cons.inj hlast).1]
    exact List.mem_append_right _ (List.mem_singleton_self _)

theorem refreshed_of_uploads (h : uploads log = 0) : Refreshed log := by
  rintro before binary outcome after rfl
  simp [uploads] at h

variable {action : UpdateAction} {fields : JsonObject} {answer : Answer}
  {next : SubmitState → SubmitState}

theorem Sound.call (h : S.Sound log) (hlog : log ≠ []) (haction : action ≠ .begin)
    (hstage : ∀ stages, required action = some stages → LatestStage log stages)
    (hruntime : action = .confirm → ∃ state, latest log = some state ∧ S.RunsTarget state)
    (horder : (advances log ++ advances [.call action fields answer.reply]).Sublist
      [.verify, .prepare, .apply]) :
    S.Sound (log ++ [.call action fields answer.reply]) where
  turns := by
    refine h.turns.append ⟨?_, ?_, ?_, ?_⟩
    · simp [haction, hlog]
    · intro action' stages haction' hrequired
      obtain rfl := Option.some.inj haction'
      exact hstage stages hrequired
    · intro haction'
      exact hruntime (Option.some.inj haction')
    · simp
  order := by rwa [advances_append]
  uploads := by
    rw [uploads_append]
    exact h.uploads

theorem Sound.call_status (h : S.Sound log) (hlog : log ≠ [])
    (haction : action = .uploadStatus ∨ action = .status) :
    S.Sound (log ++ [.call action fields answer.reply]) := by
  rcases haction with rfl | rfl
  · exact h.call hlog (by decide) (by simp [required]) (by simp)
      (by simpa [advances] using h.order)
  · exact h.call hlog (by decide) (by simp [required]) (by simp)
      (by simpa [advances] using h.order)

theorem sound_begin : S.Sound [.call .begin fields answer.reply] where
  turns := by
    refine each_nil.append ⟨?_, ?_, ?_, ?_⟩
    · simp
    · intro action stages haction hrequired
      obtain rfl := Option.some.inj haction
      simp [required] at hrequired
    · simp
    · simp
  order := by simp [advances]
  uploads := by simp [uploads]

theorem Sound.upload (h : S.Sound log) (hlog : log ≠ []) (hrefreshed : Refreshed log)
    (huploads : Update.uploads log ≤ 3) (binary : Bool) (outcome : Except Throwable JsonObject) :
    S.Sound (log ++ [.upload binary outcome]) where
  turns := by
    refine h.turns.append ⟨?_, ?_, ?_, fun _ => hrefreshed⟩
    · simp [hlog]
    · simp
    · simp
  order := by
    rw [advances_append, advances_upload, List.append_nil]
    exact h.order
  uploads := by
    rw [uploads_append]
    exact Nat.succ_le_succ huploads

theorem follows_ask (hsound : S.Sound (s.log ++ [.call action fields answer.reply]))
    (hnext : ∀ state, answer.reply = .ok state →
      S.Follows (next { s with
        log := s.log ++ [.call action fields answer.reply]
        state := state })) :
    S.Follows (ask s action fields answer next) := by
  unfold ask
  cases hreply : answer.reply with
  | error e =>
    rw [hreply] at hsound
    exact follows_fail hsound e
  | ok state =>
    rw [hreply] at hsound hnext
    cases answer.checkpoint with
    | error e => exact follows_fail hsound e
    | ok _ => exact hnext state rfl

theorem follows_byStage {next : String → SubmitState} (hsound : S.Sound s.log)
    (hnext : ∀ stage, string s.state "stage" = .ok stage → S.Follows (next stage)) :
    S.Follows (byStage s next) := by
  unfold byStage
  cases hstage : string s.state "stage" with
  | error e => exact follows_fail hsound e
  | ok stage => exact hnext stage hstage

theorem latest_call (h : answer.reply = .ok state) :
    latest (log ++ [.call action fields answer.reply]) = some state := by
  rw [latest_append, h]
  rfl

theorem follows_enter (hsound : S.Sound s.log) (hlatest : latest s.log = some s.state)
    (hadvances : advances s.log = []) (huploads : uploads s.log ≤ s.recoveries)
    (hrecoveries : s.recoveries ≤ 3) (hrefreshed : Refreshed s.log) : S.Follows (enter s) := by
  refine follows_byStage hsound fun stage _ => ⟨hsound, ?_⟩
  by_cases hstage : stage ∈ transferStages
  · simp only [At, hstage, if_true]
    exact ⟨hlatest, hadvances, huploads, hrecoveries, hrefreshed⟩
  · simp only [At, hstage, if_false]
    exact ⟨hlatest, hadvances⟩

theorem follows_begin (hlog : s.log = []) (hrecoveries : s.recoveries = 0)
    (file : Except Throwable Unit) (cancelled : Except Throwable Bool)
    (beforeSubmit : Except Throwable Unit) (answer : Answer) (now : Except Throwable Int) :
    S.Follows (S.begin s file cancelled beforeSubmit answer now) := by
  unfold begin
  cases S.checkSubmission file cancelled beforeSubmit with
  | error e =>
    refine follows_fail ?_ e
    rw [hlog]
    exact follows_start.sound
  | ok _ =>
    have hsound : S.Sound (s.log ++ [.call .begin [("plan", .object S.plan)] answer.reply]) := by
      rw [hlog]
      exact sound_begin
    refine follows_ask hsound fun state hreply => ?_
    cases now with
    | error e => exact follows_fail hsound e
    | ok now =>
      have huploads : uploads (s.log ++ [.call .begin [("plan", .object S.plan)] answer.reply]) =
          0 := by simp [hlog, uploads]
      refine follows_enter hsound (latest_call hreply) ?_ (huploads ▸ Nat.zero_le _) ?_
        (refreshed_of_uploads huploads)
      · simp [hlog, advances]
      · simp [hrecoveries]

theorem follows_attempt (h : S.Follows s) (hcontrol : s.control = .uploading)
    (outcome : Except Throwable JsonObject) : S.Follows (S.attempt s outcome) := by
  have hat := h.at_control
  simp only [At, hcontrol] at hat
  obtain ⟨hlatest, hadvances, huploads, hrecoveries, hrefreshed⟩ := hat
  have hlog := ne_nil_of_latest hlatest
  have hsound := h.sound.upload hlog hrefreshed (Nat.le_trans huploads hrecoveries)
  unfold attempt
  cases S.binary s with
  | error e => exact ⟨h.sound, hlatest, hadvances, Nat.le_succ_of_le huploads, hrecoveries⟩
  | ok binary =>
    have hadvances' : advances (s.log ++ [.upload binary outcome]) = [] := by
      rw [advances_append, advances_upload, hadvances]
      rfl
    cases outcome with
    | error e =>
      refine ⟨hsound binary _, ?_, hadvances', ?_, hrecoveries⟩
      · rw [latest_append]
        exact hlatest
      · rw [uploads_append]
        exact Nat.succ_le_succ huploads
    | ok state =>
      refine ⟨hsound binary _, ?_, hadvances'⟩
      rw [latest_append]
      rfl

theorem recoveries_lt_of_mayRecover {recoverable : Except Throwable Bool} {clock : Clock}
    (h : S.mayRecover s recoverable clock = .ok true) : s.recoveries < 3 := by
  unfold mayRecover at h
  split at h
  · obtain ⟨recoverable, -, h⟩ := bind_eq_ok.1 h
    split at h
    · next hguard =>
        rw [Bool.and_eq_true, decide_eq_true_eq] at hguard
        exact hguard.2
    · simp [pure, Except.pure] at h
  · simp [pure, Except.pure] at h

theorem follows_recover (h : S.Follows s) {e : Throwable} (hcontrol : s.control = .failed e)
    (recoverable : Except Throwable Bool) (clock : Clock) (pause : Except Throwable Unit)
    (after : Clock) (answer : Answer) :
    S.Follows (S.recover s e recoverable clock pause after answer) := by
  have hat := h.at_control
  simp only [At, hcontrol] at hat
  obtain ⟨hlatest, hadvances, huploads, -⟩ := hat
  unfold recover
  split
  · exact follows_fail h.sound _
  · exact follows_fail h.sound _
  · next hrecover =>
      have hlt := recoveries_lt_of_mayRecover hrecover
      cases rest s pause after with
      | error e => exact follows_fail h.sound e
      | ok _ =>
        have hsound : S.Sound (s.log ++ [.call .uploadStatus [] answer.reply]) :=
          h.sound.call_status (ne_nil_of_latest hlatest) (.inl rfl)
        refine follows_ask hsound fun state hreply =>
          follows_enter hsound (latest_call hreply) ?_ ?_ hlt ?_
        · rw [advances_append, hadvances]
          rfl
        · rw [uploads_append]
          exact huploads
        · rw [hreply]
          exact refreshed_of_status _ _ _

theorem follows_advance {stages : List String} {control : SubmitControl} {sent : List UpdateAction}
    (hsound : S.Sound s.log) (hlatest : latest s.log = some s.state)
    (hrequired : required action = some stages) (haction : action ≠ .begin ∧ action ≠ .confirm)
    (hsent : (advances s.log).Sublist sent)
    (horder : (sent ++ [action]).Sublist [.verify, .prepare, .apply])
    (hcontrol : ∀ t : SubmitState, S.Sound t.log → latest t.log = some t.state →
      (advances t.log).Sublist (sent ++ [action]) → S.Follows { t with control := control })
    (clock : Clock) (answer : Answer) :
    S.Follows (advance s stages action control clock answer) := by
  have hskip : (advances s.log).Sublist (sent ++ [action]) :=
    hsent.trans (List.sublist_append_left _ _)
  refine follows_byStage hsound fun stage hstage => ?_
  by_cases hmem : stage ∈ stages
  · rw [if_pos hmem]
    cases checkRunning clock s.deadline
        "Продолжение остановлено. Проверьте состояние обновления" with
    | error e => exact follows_fail hsound e
    | ok _ =>
      have hadvances : (advances s.log ++ advances [.call action [] answer.reply]).Sublist
          (sent ++ [action]) := hsent.append List.filter_sublist
      have hsound' : S.Sound (s.log ++ [.call action [] answer.reply]) := by
        refine hsound.call (ne_nil_of_latest hlatest) haction.1 ?_ (fun h => absurd h haction.2)
          (hadvances.trans horder)
        intro stages' hstages'
        obtain rfl := Option.some.inj (hrequired.symm.trans hstages')
        exact ⟨s.state, stage, hlatest, hstage, hmem⟩
      refine follows_ask hsound' fun state hreply => hcontrol _ hsound' (latest_call hreply) ?_
      rw [advances_append]
      exact hadvances
  · rw [if_neg hmem]
    exact hcontrol s hsound hlatest hskip

theorem follows_await (hsound : S.Sound s.log) (hlatest : latest s.log = some s.state)
    (deadline : Int) (progress sleep : Except Throwable Unit) (answer : Answer) :
    S.Follows (S.await s deadline progress sleep answer) := by
  refine follows_byStage hsound fun stage hstage => ?_
  cases S.shown s.state progress with
  | error e => exact follows_fail hsound e
  | ok _ =>
    by_cases hcommitted : stage = "committed"
    · simp only [hcommitted, if_true]
      exact ⟨hsound, hlatest, stage, hstage, .inl (by rw [hcommitted]; decide)⟩
    · simp only [hcommitted, if_false]
      cases sleep with
      | error e => exact follows_fail hsound e
      | ok _ =>
        have hsound' : S.Sound (s.log ++ [.call .status [] answer.reply]) :=
          hsound.call_status (ne_nil_of_latest hlatest) (.inr rfl)
        exact follows_ask hsound' fun state hreply => ⟨hsound', latest_call hreply⟩

theorem runsTarget_of_checkRuntime {sha256 : Json} (h : S.checkRuntime state = .ok sha256) :
    S.RunsTarget state := by
  obtain ⟨element, helement, h⟩ := bind_eq_ok.1 h
  obtain ⟨runtime, hruntime, h⟩ := bind_eq_ok.1 h
  obtain ⟨target, htarget, h⟩ := bind_eq_ok.1 h
  obtain ⟨buildId, hbuildId, h⟩ := bind_eq_ok.1 h
  obtain ⟨sha256', hsha256, h⟩ := bind_eq_ok.1 h
  obtain ⟨_, hbuild, h⟩ := bind_eq_ok.1 h
  obtain ⟨version, hversion, h⟩ := bind_eq_ok.1 h
  obtain ⟨expected, hexpected, h⟩ := bind_eq_ok.1 h
  obtain ⟨_, hsame, -⟩ := bind_eq_ok.1 h
  obtain rfl := beq_iff_eq.1 (require_eq_ok.1 hbuild)
  obtain rfl := beq_iff_eq.1 (require_eq_ok.1 hsame)
  exact ⟨element, runtime, target, buildId, version, ofJson_eq_ok.1 helement,
    ofJson_eq_ok.1 hruntime, htarget, hbuildId, hsha256, hversion, hexpected⟩

theorem final_of_isParked {stage : String} (hstage : string state "stage" = .ok stage)
    (h : S.isParked stage state = .ok true) : S.Final state := by
  unfold isParked at h
  split at h
  · next hprepared =>
      cases hdeadline : S.client.longOrZero state "deadline" with
      | error e => simp [hdeadline, Functor.map, Except.map] at h
      | ok deadline =>
        simp only [hdeadline, Functor.map, Except.map, Except.ok.injEq, decide_eq_true_eq] at h
        exact ⟨stage, hstage, .inr ⟨hprepared, h ▸ hdeadline⟩⟩
  · simp [pure, Except.pure] at h

theorem follows_turn (hsound : S.Sound s.log) (hlatest : latest s.log = some s.state)
    {stage : String} (hstage : string s.state "stage" = .ok stage) (deadline : Int)
    (confirmation : Answer) (progress sleep : Except Throwable Unit) (answer : Answer) :
    S.Follows (S.turn s stage deadline confirmation progress sleep answer) := by
  unfold turn
  split
  · exact follows_fail hsound _
  · next hparked => exact ⟨hsound, hlatest, final_of_isParked hstage hparked⟩
  · split
    · cases hruntime : S.checkRuntime s.state with
      | error e => exact follows_fail hsound e
      | ok sha256 =>
        have hsound' : S.Sound (s.log ++
            [.call .confirm [("runtime_sha", sha256)] confirmation.reply]) := by
          refine hsound.call (ne_nil_of_latest hlatest) (by decide) (by simp [required])
            (fun _ => ⟨s.state, hlatest, runsTarget_of_checkRuntime hruntime⟩) ?_
          simpa [advances] using hsound.order
        exact follows_ask hsound' fun state hreply =>
          follows_await hsound' (latest_call hreply) deadline progress sleep answer
    · exact follows_await hsound hlatest deadline progress sleep answer

theorem follows_poll (hsound : S.Sound s.log) (hlatest : latest s.log = some s.state)
    (deadline : Int) (clock : Clock) (confirmation : Answer)
      (progress sleep : Except Throwable Unit)
    (answer : Answer) : S.Follows (S.poll s deadline clock confirmation progress sleep answer) := by
  refine follows_byStage hsound fun stage hstage => ?_
  by_cases hopen : stage ∈ openStages
  · rw [if_pos hopen]
    cases checkRunning clock deadline
        "Результат пока неизвестен. Проверьте состояние обновления" with
    | error e => exact follows_fail hsound e
    | ok _ => exact follows_turn hsound hlatest hstage deadline confirmation progress sleep answer
  · rw [if_neg hopen]
    exact ⟨hsound, hlatest, stage, hstage, .inl hopen⟩

theorem follows_step {event : SubmitEvent} {t : SubmitState} (h : S.Follows s)
    (hstep : S.step s event = some t) : S.Follows t := by
  obtain ⟨hsound, hat⟩ := h
  cases event with
  | begin file cancelled beforeSubmit answer now =>
    simp only [step] at hstep
    split at hstep
    · next hcontrol =>
        obtain rfl := Option.some.inj hstep
        simp only [At, hcontrol] at hat
        exact follows_begin hat.1 hat.2 file cancelled beforeSubmit answer now
    · simp at hstep
  | upload outcome =>
    simp only [step] at hstep
    split at hstep
    · next hcontrol =>
        obtain rfl := Option.some.inj hstep
        exact follows_attempt ⟨hsound, hat⟩ hcontrol outcome
    · simp at hstep
  | recover recoverable clock pause after answer =>
    simp only [step] at hstep
    split at hstep
    · next hcontrol =>
        obtain rfl := Option.some.inj hstep
        exact follows_recover ⟨hsound, hat⟩ hcontrol recoverable clock pause after answer
    · simp at hstep
  | advance clock answer =>
    simp only [step] at hstep
    split at hstep
    · next hcontrol =>
        obtain rfl := Option.some.inj hstep
        simp only [At, hcontrol] at hat
        have hsent : (advances s.log).Sublist [] := by rw [hat.2]
        refine follows_advance hsound hat.1 rfl (by decide) hsent (by decide) ?_ clock answer
        exact fun _ hsound hlatest hsent => ⟨hsound, hlatest, hsent⟩
    · next hcontrol =>
        obtain rfl := Option.some.inj hstep
        simp only [At, hcontrol] at hat
        refine follows_advance hsound hat.1 rfl (by decide) hat.2 (by decide) ?_ clock answer
        exact fun _ hsound hlatest hsent => ⟨hsound, hlatest, hsent⟩
    · next hcontrol =>
        obtain rfl := Option.some.inj hstep
        simp only [At, hcontrol] at hat
        refine follows_advance hsound hat.1 rfl (by decide) hat.2 (by decide) ?_ clock answer
        exact fun _ hsound hlatest _ => ⟨hsound, hlatest⟩
    · simp at hstep
  | observe now =>
    simp only [step] at hstep
    split at hstep
    · next hcontrol =>
        obtain rfl := Option.some.inj hstep
        simp only [At, hcontrol] at hat
        cases now with
        | error e => exact follows_fail hsound e
        | ok now => exact ⟨hsound, hat⟩
    · simp at hstep
  | poll clock confirmation progress sleep answer =>
    simp only [step] at hstep
    split at hstep
    · next hcontrol =>
        obtain rfl := Option.some.inj hstep
        simp only [At, hcontrol] at hat
        exact follows_poll hsound hat _ clock confirmation progress sleep answer
    · simp at hstep

theorem Reaches.follows {events : List SubmitEvent} (h : S.Reaches events s) : S.Follows s :=
  Machine.run_invariant (fun _ _ _ hstep hs => follows_step hs hstep) h follows_start

/-- Wherever a submission gets: `begin` was sent first and once; what moves the operation on was
sent at most once and in order, each in its stage; there were at most four attempts to upload, and
the server reported its state between any two; only the running core of the plan was confirmed.
It returns a state whose outcome is known, or one that is prepared and has no deadline. -/
theorem submit_follows_protocol (S : Submission) (events : List SubmitEvent) (s : SubmitState)
    (h : S.Reaches events s) :
    Each (fun before e => e.action = some .begin ↔ before = []) s.log ∧
      (advances s.log).Sublist [.verify, .prepare, .apply] ∧
      Each (fun before e => ∀ action stages, e.action = some action →
        required action = some stages →
          ∃ state stage, latest before = some state ∧ string state "stage" = .ok stage ∧
            stage ∈ stages) s.log ∧
      uploads s.log ≤ 4 ∧
      (∀ (before between after : List Exchange) (binary binary' : Bool)
        (outcome outcome' : Except Throwable JsonObject),
        s.log = before ++ Exchange.upload binary outcome :: between ++
            Exchange.upload binary' outcome' :: after →
          ∃ fields state, Exchange.call .uploadStatus fields (.ok state) ∈ between) ∧
      Each (fun before e => e.action = some .confirm →
        ∃ state, latest before = some state ∧ S.RunsTarget state) s.log ∧
      ∀ state, s.control = .returned state → latest s.log = some state ∧
        ∃ stage, string state "stage" = .ok stage ∧
          (stage ∉ openStages ∨
            stage = "prepared" ∧ S.client.longOrZero state "deadline" = .ok 0) := by
  obtain ⟨hsound, hat⟩ := h.follows
  refine ⟨fun before e after hlog => (hsound.turns before e after hlog).first, hsound.order,
    fun before e after hlog => (hsound.turns before e after hlog).stage, hsound.uploads, ?_,
    fun before e after hlog => (hsound.turns before e after hlog).runtime, fun state hcontrol => ?_⟩
  · intro before between after binary binary' outcome outcome' hlog
    exact (hsound.turns _ _ after hlog).refreshed rfl before binary outcome between rfl
  · simp only [At, hcontrol] at hat
    exact hat

end Submission

/-! ### An update of two bytes -/

def coDigest : String := "c330ec504d82c24fcd10be978fa74b8a3185a8df719604a85443bb9ca279f5a2"

def coSubmission : Submission where
  client := phoneClient 1 true
  binaryUpload := false
  plan := [("manifest", .object [("size", .literal "2"), ("sha256", .string coDigest),
    ("version", .string "1.2.0")])]
  artifact := some [0x63, 0x6f]

def atStage (stage : String) : JsonObject := [("stage", .string stage)]

def coRunning : JsonObject :=
  atStage "awaiting_confirmation" ++
    [("runtime", .object [("build_id", .string coDigest), ("version", .string "1.2.0")])]

def stored (state : JsonObject) : Answer := ⟨.ok state, .ok ()⟩

def coEvents : List SubmitEvent :=
  let clock : Clock := ⟨.ok false, .ok 0⟩
  [.begin (.ok ()) (.ok false) (.ok ()) (stored (atStage "planned")) (.ok 0),
    .upload (.error (.platform none)),
    .recover (.ok true) clock (.ok ()) clock (stored (atStage "receiving")),
    .upload (.ok (atStage "receiving")), .advance clock (stored (atStage "verified")),
    .advance clock (stored (atStage "prepared")), .advance clock (stored (atStage "switching")),
    .observe (.ok 0), .poll clock (stored []) (.ok ()) (.ok ()) (stored coRunning),
    .poll clock (stored (atStage "committed")) (.ok ()) (.ok ()) (stored [])]

theorem coSubmission_returns : ∃ s, coSubmission.Reaches coEvents s ∧
    s.control = .returned (atStage "committed") :=
  ⟨_, rfl, rfl⟩

theorem submit_follows_protocol_co : ∃ s, coSubmission.Reaches coEvents s ∧
    s.control = .returned (atStage "committed") ∧
    (advances s.log).Sublist [.verify, .prepare, .apply] ∧ uploads s.log ≤ 4 := by
  obtain ⟨s, hreaches, hcontrol⟩ := coSubmission_returns
  obtain ⟨-, horder, -, huploads, -⟩ :=
    Submission.submit_follows_protocol coSubmission coEvents s hreaches
  exact ⟨s, hreaches, hcontrol, horder, huploads⟩

end LibreRoute.Update
