import LibreRoute.Lib.Spans
import LibreRoute.Update.Upload

/-!
Sending the artifact of a core update as a stream of frames.

`CoreUpdateStream.upload` checks the state with which the server opens the
stream; what passes is a `StreamTerms`. The rest is a machine over the
variables of the function, and its labels say what comes out of the queue of
the server's frames and what the callbacks, the file and the connection do. A
frame is acknowledged with all frames before it, and the bytes that are not
acknowledged stay below a window.
-/

namespace LibreRoute.Update

open Lib
open Admin (Throwable)

inductive FrameKind
  | challenge
  | opening
  | ready
  | data
  | ack
  | finish
  | error
  | done
  deriving DecidableEq

/-! ### The state of the server -/

variable {status : JsonObject}

section Status

variable (client : CoreUpdateClient) (plan : JsonObject) (size chunkBytes : Int)

def CoreUpdateClient.int (o : JsonObject) (key : String) : Except Throwable Int := do
  let element ← ofJson (o.getValue key)
  client.intOf element

def operationFields : List String :=
  ["operation_id", "server_id", "server_public_key", "control_profile_id", "plan_hash"]

def validateStatus (status : JsonObject) : Except Throwable Unit := do
  operationFields.forM fun field => do
    let value ← string status field
    let expected ← string plan field
    require (value == expected && expected != "")
      (Throwable.illegalArgument ("Ответ потока относится к другой операции: " ++ field))
  let received ← client.long status "received_bytes"
  let next ← client.long status "next_offset"
  let reported ← client.long status "size"
  require (decide (reported = size ∧ 0 ≤ received ∧ received ≤ size ∧ 0 ≤ next ∧ next ≤ received ∧
      (next = size ∨ next % chunkBytes = 0)))
    (Throwable.illegalArgument "Некорректный прогресс потока")
  let stage ← string status "stage"
  require (stage == "planned" || stage == "receiving")
    (Throwable.illegalArgument "Некорректный прогресс потока")

def confirmedRange (element : Json) : Except Throwable (DurableRange size chunkBytes) := do
  let range ← ofJson element.jsonArray
  require (range.length == 2) failedRequirement
  let start ← client.longOf (range.getD 0 .null)
  let stop ← client.longOf (range.getD 1 .null)
  if h : (0 ≤ start ∧ start < size) ∧ (start + 1 ≤ stop ∧ stop ≤ size) ∧ start % chunkBytes = 0 ∧
      (stop = size ∨ stop % chunkBytes = 0) then
    pure
      { first := start
        second := stop
        first_nonneg := h.1.1
        first_lt := h.2.1.1
        second_le := h.2.1.2
        first_aligned := h.2.2.1
        second_aligned := h.2.2.2 }
  else throw failedRequirement

structure Progress (status : JsonObject) (received next : Int) : Prop where
  received_bytes : client.long status "received_bytes" = .ok received
  next_offset : client.long status "next_offset" = .ok next
  received_mem : 0 ≤ received ∧ received ≤ size
  next_mem : 0 ≤ next ∧ next ≤ received
  aligned : next = size ∨ next % chunkBytes = 0

variable {client plan size chunkBytes}

theorem progress_of_valid (h : validateStatus client plan size chunkBytes status = .ok ()) :
    ∃ received next, Progress client size chunkBytes status received next := by
  obtain ⟨_, -, h⟩ := bind_eq_ok.1 h
  obtain ⟨received, hreceived, h⟩ := bind_eq_ok.1 h
  obtain ⟨next, hnext, h⟩ := bind_eq_ok.1 h
  obtain ⟨_, -, h⟩ := bind_eq_ok.1 h
  obtain ⟨_, hrequire, -⟩ := bind_eq_ok.1 h
  obtain ⟨-, hlow, hhigh, hnextLow, hnextHigh, haligned⟩ :=
    of_decide_eq_true (require_eq_ok.1 hrequire)
  exact ⟨received, next, hreceived, hnext, ⟨hlow, hhigh⟩, ⟨hnextLow, hnextHigh⟩, haligned⟩

end Status

/-- What a stream works with once the state that opens it is accepted. -/
structure StreamTerms where
  client : CoreUpdateClient
  parse : List UInt8 → Except Throwable JsonObject
  artifact : List UInt8
  plan : JsonObject
  deadline : Int
  ready : JsonObject
  epoch : Int
  frameBytes : Int
  windowBytes : Int
  chunkBytes : Int
  size : Int
  nextOffset : Int
  ranges : List (DurableRange size chunkBytes)
  epoch_pos : 0 < epoch
  chunk : chunkBytes = 8192
  frame_mem : chunkBytes ≤ frameBytes ∧ frameBytes ≤ 64 * 1024
  frame_aligned : frameBytes % chunkBytes = 0
  window_mem : frameBytes ≤ windowBytes ∧ windowBytes ≤ 1024 * 1024
  valid : validateStatus client plan size chunkBytes ready = .ok ()
  next_reported : client.long ready "next_offset" = .ok nextOffset
  ascends : ascending ranges = true

/-- The checks of the state that opens the stream, which answers the challenge. -/
def CoreUpdateClient.acceptStream (client : CoreUpdateClient)
    (parse : List UInt8 → Except Throwable JsonObject) (artifact : List UInt8) (plan : JsonObject)
    (deadline : Int) (challenge : String) (state : JsonObject) : Except Throwable StreamTerms := do
  let answered ← string state "challenge"
  require (answered == challenge) (Throwable.illegalArgument "Ответ относится к другому соединению")
  let epoch ← client.long state "epoch"
  let frameBytes ← client.int state "frame_bytes"
  let windowBytes ← client.int state "window_bytes"
  let chunkBytes ← client.int state "chunk_bytes"
  if hlimits : 0 < epoch ∧ chunkBytes = 8192 ∧ (chunkBytes ≤ frameBytes ∧ frameBytes ≤ 64 * 1024) ∧
      frameBytes % chunkBytes = 0 ∧ (frameBytes ≤ windowBytes ∧ windowBytes ≤ 1024 * 1024) then do
    let element ← ofJson (plan.getValue "manifest")
    let manifest ← ofJson element.jsonObject
    let size ← client.long manifest "size"
    match hvalid : validateStatus client plan size chunkBytes state with
    | .error e => .error e
    | .ok () => do
        let items ← ofJson (state.getValue "ranges")
        let items ← ofJson items.jsonArray
        let ranges ← items.mapM (confirmedRange client size chunkBytes)
        if hranges : ranges.length ≤ 64 ∧ ascending ranges = true then
          match hnext : client.long state "next_offset" with
          | .error e => .error e
          | .ok nextOffset =>
            pure
              { client
                parse
                artifact
                plan
                deadline
                ready := state
                epoch
                frameBytes
                windowBytes
                chunkBytes
                size
                nextOffset
                ranges
                epoch_pos := hlimits.1
                chunk := hlimits.2.1
                frame_mem := hlimits.2.2.1
                frame_aligned := hlimits.2.2.2.1
                window_mem := hlimits.2.2.2.2
                valid := hvalid
                next_reported := hnext
                ascends := hranges.2 }
        else throw failedRequirement
  else throw (.illegalArgument "Лимиты потока не поддерживаются")

/-! ### The machine -/

/-- A frame that is not acknowledged. -/
structure Flight where
  sequence : Int
  bytes : Int
  deriving DecidableEq

structure DataFrame where
  epoch : Int
  sequence : Int
  offset : Int
  bytes : List UInt8
  deriving DecidableEq

def DataFrame.stop (f : DataFrame) : Int := f.offset + f.bytes.length

inductive StreamControl
  | head
  | drain
  /-- At the loop that waits for room in the window, for a frame of so many bytes. -/
  | room (count : Int)
  | finish
  | await
  | returned (state : JsonObject)
  | thrown (e : Throwable)

structure StreamState where
  control : StreamControl
  state : JsonObject
  pending : List Flight
  sequence : Int
  confirmedSequence : Int
  outstanding : Int
  offset : Int
  checkpointAt : Int
  sent : List DataFrame
  /-- The sequence of the frame that ends the stream, if it was written. -/
  finished : Option Int
  accepted : List (FrameKind × JsonObject)

structure Clock where
  cancelled : Except Throwable Bool
  now : Except Throwable Int

/-- What comes out of the queue: a frame, or the exception that ended the reading. -/
abbrev Item := Except Throwable (FrameKind × List UInt8)

inductive StreamEvent
  | check (clock : Clock)
  | drain (item : Option Item) (d : Delivery)
  /-- A reply is waited for, since there is no room. -/
  | wait (before : Clock) (item : Option Item) (clock : Clock) (d : Delivery)
  | send (file write : Except Throwable Unit)
  | finish (clock : Clock) (write : Except Throwable Unit)
  | await (item : Option Item) (clock after : Clock) (d : Delivery)

namespace StreamTerms

variable (T : StreamTerms) {ackSequence : Int}

def start (now : Int) : StreamState where
  control := .head
  state := T.ready
  pending := []
  sequence := 0
  confirmedSequence := 0
  outstanding := 0
  offset := T.nextOffset
  checkpointAt := now
  sent := []
  finished := none
  accepted := []

def stopped (clock : Clock) : Except Throwable Unit := do
  let cancelled ← clock.cancelled
  if cancelled then throw Terms.stopped
  else do
    let now ← clock.now
    require (decide (now < T.deadline)) Terms.stopped

/-- The status of an acknowledgement, and the sequence it acknowledges. -/
def acknowledged (s : StreamState) (kind : FrameKind) (status : JsonObject) :
    Except Throwable Int := do
  validateStatus T.client T.plan T.size T.chunkBytes status
  let ackSequence ← T.client.long status "sequence"
  let epoch ← T.client.long status "epoch"
  let received ← T.client.long status "received_bytes"
  let receivedBefore ← T.client.long s.state "received_bytes"
  let next ← T.client.long status "next_offset"
  let nextBefore ← T.client.long s.state "next_offset"
  require (decide (epoch = T.epoch ∧ s.confirmedSequence ≤ ackSequence ∧
      ackSequence ≤ s.sequence ∧ receivedBefore ≤ received ∧ nextBefore ≤ next))
    (Throwable.illegalArgument "Устаревшее подтверждение потока")
  require (kind == .done || decide (s.confirmedSequence < ackSequence)) failedRequirement
  pure ackSequence

/-- The checks of a reply before anything is changed. A rejection by the server is thrown. -/
def examine (s : StreamState) (item : Item) : Except Throwable (FrameKind × JsonObject × Int) := do
  let (kind, bytes) ← item
  let status ← T.parse bytes
  if kind = .error then do
    let epoch ← T.client.long status "epoch"
    require (epoch == T.epoch) failedRequirement
    let text ← string status "error"
    throw (.illegalState text)
  else do
    require (kind == .ack || kind == .done) failedRequirement
    let ackSequence ← T.acknowledged s kind status
    pure (kind, status, ackSequence)

/-- `while (pending.peekFirst()?.sequence <= ackSequence) outstanding -=
pending.removeFirst().bytes`. -/
def removeConfirmed (ackSequence : Int) : List Flight → Int → List Flight × Int
  | [], outstanding => ([], outstanding)
  | flight :: pending, outstanding =>
    if flight.sequence ≤ ackSequence then
      removeConfirmed ackSequence pending (outstanding - flight.bytes)
    else (flight :: pending, outstanding)

def confirm (s : StreamState) (kind : FrameKind) (status : JsonObject) (ackSequence : Int) :
    StreamState :=
  { s with
    pending := (removeConfirmed ackSequence s.pending s.outstanding).1
    outstanding := (removeConfirmed ackSequence s.pending s.outstanding).2
    confirmedSequence := ackSequence
    state := status
    accepted := s.accepted ++ [(kind, status)] }

/-- The checkpoint that is due at the end, and after a second. -/
def report (d : Delivery) (kind : FrameKind) (checkpointAt : Int) : Except Throwable Int := do
  let due ← if kind = .done then pure true else do
    let now ← d.now
    pure (decide (1000 ≤ now - checkpointAt))
  if due then do
    d.checkpoint
    d.progress
    d.nowAfter
  else pure checkpointAt

def isComplete (s : StreamState) : Bool :=
  s.confirmedSequence == s.sequence && s.pending.isEmpty &&
    decide (T.client.long s.state "received_bytes" = .ok T.size) &&
    decide (T.client.long s.state "next_offset" = .ok T.size)

def handle (s : StreamState) (item : Item) (d : Delivery) : Except Throwable Bool × StreamState :=
  match T.examine s item with
  | .error e => (.error e, s)
  | .ok (kind, status, ackSequence) =>
    let s := confirm s kind status ackSequence
    match report d kind s.checkpointAt with
    | .error e => (.error e, s)
    | .ok checkpointAt =>
      let s := { s with checkpointAt := checkpointAt }
      if kind = .done then
        if T.isComplete s then (.ok true, s) else (.error failedRequirement, s)
      else (.ok false, s)

/-- `reply`: without a reply in time the stream may be stopped. -/
def reply (s : StreamState) (item : Option Item) (clock : Clock) (d : Delivery) :
    Except Throwable Bool × StreamState :=
  match item with
  | none => ((fun _ => false) <$> T.stopped clock, s)
  | some item => T.handle s item d

/-- Goes on where a reply was taken. An early end of the stream is an error. -/
def resume (early : Throwable) : Except Throwable Bool × StreamState → StreamState
  | (.ok false, s) => s
  | (.ok true, s) => { s with control := .thrown early }
  | (.error e, s) => { s with control := .thrown e }

/-- The offset behind the confirmed range it is in. -/
def skip (offset : Int) : Int := skipSpan DurableRange.first DurableRange.second T.ranges offset

def rangeEnd (offset : Int) : Int := nextSpan DurableRange.first T.ranges T.size offset

/-- The loop over the artifact goes on at the next offset that is missing. -/
def next (s : StreamState) : StreamState :=
  if T.skip s.offset = T.size then { s with control := .finish, offset := T.skip s.offset }
  else
    { s with
      control := .room (min T.frameBytes (T.rangeEnd (T.skip s.offset) - T.skip s.offset))
      offset := T.skip s.offset }

def readFully (file : Except Throwable Unit) (offset count : Int) :
    Except Throwable (List UInt8) := do
  file
  if 0 ≤ offset ∧ 0 ≤ count ∧ offset + count ≤ T.artifact.length then
    pure ((T.artifact.drop offset.toNat).take count.toNat)
  else throw (.platform none)

def launch (s : StreamState) (count : Int) (bytes : List UInt8) : StreamState :=
  { s with
    sequence := s.sequence + 1
    pending := s.pending ++ [⟨s.sequence + 1, count⟩]
    outstanding := s.outstanding + count
    sent := s.sent ++ [⟨T.epoch, s.sequence + 1, s.offset, bytes⟩] }

def send (s : StreamState) (count : Int) (file write : Except Throwable Unit) : StreamState :=
  match T.readFully file s.offset count with
  | .error e => { s with control := .thrown e }
  | .ok bytes =>
    match write with
    | .error e => { T.launch s count bytes with control := .thrown e }
    | .ok () => { T.launch s count bytes with control := .head, offset := s.offset + count }

def unlessStopped (s : StreamState) (clock : Clock) (t : StreamState) : StreamState :=
  match T.stopped clock with
  | .error e => { s with control := .thrown e }
  | .ok () => t

def step (s : StreamState) : StreamEvent → Option StreamState
  | .check clock =>
    match s.control with
    | .head => some (if s.offset < T.size then T.unlessStopped s clock { s with control := .drain }
        else { s with control := .finish })
    | _ => none
  | .drain item d =>
    match s.control, item with
    | .drain, none => some (T.next s)
    | .drain, some item =>
      some (resume (.illegalArgument "Поток завершился раньше отправки") (T.handle s item d))
    | _, _ => none
  | .wait before item clock d =>
    match s.control with
    | .room count =>
      if T.windowBytes < s.outstanding + count then
        some (T.unlessStopped s before (resume failedRequirement (T.reply s item clock d)))
      else none
    | _ => none
  | .send file write =>
    match s.control with
    | .room count =>
      if T.windowBytes < s.outstanding + count then none else some (T.send s count file write)
    | _ => none
  | .finish clock write =>
    match s.control with
    | .finish => some (T.unlessStopped s clock
        { s with
          finished := some s.sequence
          control := match write with
            | .error e => .thrown e
            | .ok () => .await })
    | _ => none
  | .await item clock after d =>
    match s.control with
    | .await => some (match T.reply s item clock d with
        | (.error e, t) => { t with control := .thrown e }
        | (.ok true, t) => { t with control := .returned t.state }
        | (.ok false, t) => T.unlessStopped t after t)
    | _ => none

def machine : Machine StreamEvent StreamState := ⟨T.step⟩

/-- A run of `upload` from the state that opened the stream leads to the state `s`. -/
def Reaches (now : Int) (events : List StreamEvent) (s : StreamState) : Prop :=
  T.machine.run (T.start now) events = some s

/-! ### What a step can do -/

/-- An accepted reply: the state and the reply that changed it. -/
inductive Accepts (s : StreamState) : StreamState → Prop
  | mk {kind : FrameKind} {status : JsonObject} {ackSequence : Int}
      (hkind : kind = .ack ∨ kind = .done)
      (hack : T.acknowledged s kind status = .ok ackSequence) (checkpointAt : Int) :
      Accepts s { confirm s kind status ackSequence with checkpointAt := checkpointAt }

inductive Moves (s : StreamState) : StreamState → Prop
  | entered (hcontrol : s.control = .head) (hlt : s.offset < T.size) :
      Moves s { s with control := .drain }
  | ended (hcontrol : s.control = .head) (hle : T.size ≤ s.offset) :
      Moves s { s with control := .finish }
  | skipped (hcontrol : s.control = .drain) (hend : T.skip s.offset = T.size) :
      Moves s { s with control := .finish, offset := T.skip s.offset }
  | located (hcontrol : s.control = .drain) (hend : T.skip s.offset ≠ T.size) :
      Moves s
        { s with
          control := .room (min T.frameBytes (T.rangeEnd (T.skip s.offset) - T.skip s.offset))
          offset := T.skip s.offset }
  | thrown (e : Throwable) : Moves s { s with control := .thrown e }
  | idle : Moves s s
  | accepted {t : StreamState} (haccepts : T.Accepts s t) : Moves s t
  | failed {t : StreamState} (e : Throwable) (haccepts : T.Accepts s t) :
      Moves s { t with control := .thrown e }
  | returned {status : JsonObject} {ackSequence : Int} (hcontrol : s.control = .await)
      (hack : T.acknowledged s .done status = .ok ackSequence) (checkpointAt : Int)
      (hcomplete : T.isComplete (confirm s .done status ackSequence) = true) :
      Moves s
        { confirm s .done status ackSequence with
          checkpointAt := checkpointAt
          control := .returned status }
  | launched {count : Int} {bytes : List UInt8} (hcontrol : s.control = .room count)
      (hroom : s.outstanding + count ≤ T.windowBytes) (hlength : bytes.length = count) :
      Moves s { T.launch s count bytes with control := .head, offset := s.offset + count }
  | lost {count : Int} {bytes : List UInt8} (e : Throwable) (hcontrol : s.control = .room count)
      (hroom : s.outstanding + count ≤ T.windowBytes) (hlength : bytes.length = count) :
      Moves s { T.launch s count bytes with control := .thrown e }
  | closed (hcontrol : s.control = .finish) :
      Moves s { s with finished := some s.sequence, control := .await }
  | broken (e : Throwable) (hcontrol : s.control = .finish) :
      Moves s { s with finished := some s.sequence, control := .thrown e }

variable {T} {s t : StreamState}

theorem length_readFully {file : Except Throwable Unit} {offset count : Int} {bytes : List UInt8}
    (h : T.readFully file offset count = .ok bytes) : bytes.length = count := by
  obtain ⟨_, -, h⟩ := bind_eq_ok.1 h
  split at h
  · next hbounds =>
      obtain rfl := Except.ok.inj h
      rw [List.length_take, List.length_drop]
      omega
  · simp at h

theorem examine_eq_ok {item : Item} {kind : FrameKind}
    (h : T.examine s item = .ok (kind, status, ackSequence)) :
    (kind = .ack ∨ kind = .done) ∧ T.acknowledged s kind status = .ok ackSequence := by
  obtain ⟨⟨kind', bytes⟩, -, h⟩ := bind_eq_ok.1 h
  obtain ⟨status', -, h⟩ := bind_eq_ok.1 h
  split at h
  · obtain ⟨_, -, h⟩ := bind_eq_ok.1 h
    obtain ⟨_, -, h⟩ := bind_eq_ok.1 h
    obtain ⟨_, -, h⟩ := bind_eq_ok.1 h
    simp at h
  · obtain ⟨_, hrequire, h⟩ := bind_eq_ok.1 h
    obtain ⟨ackSequence', hack, h⟩ := bind_eq_ok.1 h
    rw [pure_eq_ok, Except.ok.injEq, Prod.mk.injEq, Prod.mk.injEq] at h
    obtain ⟨rfl, rfl, rfl⟩ := h
    exact ⟨by simpa using require_eq_ok.1 hrequire, hack⟩

/-- A reply is accepted or refused; the end of the stream is reported for a complete one only. -/
theorem handle_cases (s : StreamState) (item : Item) (d : Delivery) :
    (∃ e, T.handle s item d = (.error e, s)) ∨
      (∃ result t, T.handle s item d = (result, t) ∧ T.Accepts s t ∧ result ≠ .ok true) ∨
      ∃ status ackSequence checkpointAt,
        T.acknowledged s .done status = .ok ackSequence ∧
        T.isComplete (confirm s .done status ackSequence) = true ∧
        T.handle s item d = (.ok true,
          { confirm s .done status ackSequence with checkpointAt := checkpointAt }) := by
  unfold handle
  cases hexamine : T.examine s item with
  | error e => exact .inl ⟨e, rfl⟩
  | ok examined =>
    obtain ⟨kind, status, ackSequence⟩ := examined
    obtain ⟨hkind, hack⟩ := examine_eq_ok hexamine
    simp only
    cases report d kind (confirm s kind status ackSequence).checkpointAt with
    | error e => exact .inr (.inl ⟨_, _, rfl, .mk hkind hack _, by simp⟩)
    | ok checkpointAt =>
      simp only
      by_cases hdone : kind = .done
      · subst hdone
        rw [if_pos rfl]
        split
        · next hcomplete =>
            exact .inr (.inr ⟨status, ackSequence, checkpointAt, hack, hcomplete, rfl⟩)
        · exact .inr (.inl ⟨_, _, rfl, .mk hkind hack _, by simp⟩)
      · rw [if_neg hdone]
        exact .inr (.inl ⟨_, _, rfl, .mk hkind hack _, by simp⟩)

theorem moves_resume_handle (early : Throwable) (item : Item) (d : Delivery) :
    T.Moves s (resume early (T.handle s item d)) := by
  rcases handle_cases s item d with
    ⟨e, h⟩ | ⟨result, t, h, haccepts, -⟩ | ⟨status, ackSequence, checkpointAt, hack, -, h⟩
  · rw [h]
    exact .thrown e
  · rw [h]
    cases result with
    | error e => exact .failed e haccepts
    | ok done =>
      cases done with
      | false => exact .accepted haccepts
      | true => exact .failed early haccepts
  · rw [h]
    exact .failed early (.mk (.inr rfl) hack checkpointAt)

theorem moves_resume_reply (early : Throwable) (item : Option Item) (clock : Clock) (d : Delivery) :
    T.Moves s (resume early (T.reply s item clock d)) := by
  cases item with
  | some item => exact moves_resume_handle early item d
  | none =>
    rw [reply]
    cases T.stopped clock with
    | error e => exact .thrown e
    | ok _ => exact .idle

theorem moves_unlessStopped {clock : Clock} (h : T.Moves s t) :
    T.Moves s (T.unlessStopped s clock t) := by
  unfold unlessStopped
  cases T.stopped clock with
  | error e => exact .thrown e
  | ok _ => exact h

theorem moves_send {count : Int} {file write : Except Throwable Unit}
    (hcontrol : s.control = .room count) (hroom : s.outstanding + count ≤ T.windowBytes) :
    T.Moves s (T.send s count file write) := by
  unfold send
  cases hread : T.readFully file s.offset count with
  | error e => exact .thrown e
  | ok bytes =>
    cases write with
    | error e => exact .lost e hcontrol hroom (length_readFully hread)
    | ok _ => exact .launched hcontrol hroom (length_readFully hread)

theorem moves_of_step {event : StreamEvent} (h : T.step s event = some t) : T.Moves s t := by
  cases event with
  | check clock =>
    simp only [step] at h
    split at h
    · next hcontrol =>
        obtain rfl := Option.some.inj h
        split
        · next hlt => exact moves_unlessStopped (.entered hcontrol hlt)
        · next hge => exact .ended hcontrol (Int.not_lt.1 hge)
    · simp at h
  | drain item d =>
    simp only [step] at h
    split at h
    · next hcontrol =>
        obtain rfl := Option.some.inj h
        unfold next
        split
        · next hend => exact .skipped hcontrol hend
        · next hend => exact .located hcontrol hend
    · obtain rfl := Option.some.inj h
      exact moves_resume_handle _ _ d
    · simp at h
  | wait before item clock d =>
    simp only [step] at h
    split at h
    · split at h
      · obtain rfl := Option.some.inj h
        exact moves_unlessStopped (moves_resume_reply _ item clock d)
      · simp at h
    · simp at h
  | send file write =>
    simp only [step] at h
    split at h
    · next count hcontrol =>
        split at h
        · simp at h
        · next hroom =>
            obtain rfl := Option.some.inj h
            exact moves_send hcontrol (Int.not_lt.1 hroom)
    · simp at h
  | finish clock write =>
    simp only [step] at h
    split at h
    · next hcontrol =>
        obtain rfl := Option.some.inj h
        apply moves_unlessStopped
        cases write with
        | error e => exact .broken e hcontrol
        | ok _ => exact .closed hcontrol
    · simp at h
  | await item clock after d =>
    simp only [step] at h
    split at h
    · next hcontrol =>
        obtain rfl := Option.some.inj h
        cases item with
        | none =>
          rw [reply]
          cases T.stopped clock with
          | error e => exact .thrown e
          | ok _ => exact moves_unlessStopped .idle
        | some item =>
          rw [reply]
          rcases handle_cases s item d with ⟨e, h⟩ | ⟨result, t, h, haccepts, hresult⟩ |
            ⟨status, ackSequence, checkpointAt, hack, hcomplete, h⟩
          · rw [h]
            exact .thrown e
          · rw [h]
            cases result with
            | error e => exact .failed e haccepts
            | ok done =>
              cases done with
              | true => exact absurd rfl hresult
              | false =>
                simp only [unlessStopped]
                cases T.stopped after with
                | error e => exact .failed e haccepts
                | ok _ => exact .accepted haccepts
          · rw [h]
            exact .returned hcontrol hack checkpointAt hcomplete
    · simp at h

theorem step_await_done {bytes : List UInt8} {checkpointAt : Int} {d : Delivery}
    (hcontrol : s.control = .await) (hparse : T.parse bytes = .ok status)
    (hack : T.acknowledged s .done status = .ok ackSequence)
    (hreport : report d .done s.checkpointAt = .ok checkpointAt)
    (hcomplete : T.isComplete (confirm s .done status ackSequence) = true) (clock after : Clock) :
    T.step s (.await (some (.ok (.done, bytes))) clock after d) =
      some { confirm s .done status ackSequence with
        checkpointAt := checkpointAt
        control := .returned status } := by
  have hexamine : T.examine s (.ok (.done, bytes)) = .ok (.done, status, ackSequence) := by
    simp only [examine, ok_bind, hparse, hack]
    rfl
  have hreport' : report d .done (confirm s .done status ackSequence).checkpointAt =
      .ok checkpointAt := hreport
  have hcomplete' : T.isComplete { confirm s .done status ackSequence with
      checkpointAt := checkpointAt } = true := hcomplete
  simp only [step, hcontrol, reply, handle, hexamine, hreport', hcomplete', reduceIte]
  rfl

theorem step_send {count : Int} (hcontrol : s.control = .room count)
    (hroom : s.outstanding + count ≤ T.windowBytes) (hoffset : 0 ≤ s.offset) (hcount : 0 ≤ count)
    (hlength : s.offset + count ≤ T.artifact.length) :
    T.step s (.send (.ok ()) (.ok ())) =
      some { T.launch s count ((T.artifact.drop s.offset.toNat).take count.toNat) with
        control := .head
        offset := s.offset + count } := by
  simp [step, hcontrol, Int.not_lt.2 hroom, send, readFully, hoffset, hcount, hlength]

theorem Reaches.invariant {now : Int} {events : List StreamEvent} {I : StreamState → Prop}
    (h : T.Reaches now events s) (hstart : I (T.start now))
    (hmoves : ∀ s t, T.Moves s t → I s → I t) : I s :=
  Machine.run_invariant (fun s _ t hstep hs => hmoves s t (moves_of_step hstep) hs) h hstart

structure Acknowledged (T : StreamTerms) (s : StreamState) (status : JsonObject)
    (ackSequence : Int) : Prop where
  valid : validateStatus T.client T.plan T.size T.chunkBytes status = .ok ()
  sequence : T.client.long status "sequence" = .ok ackSequence
  epoch : T.client.long status "epoch" = .ok T.epoch
  range : s.confirmedSequence ≤ ackSequence ∧ ackSequence ≤ s.sequence
  progress : ∀ received next received' next',
    Progress T.client T.size T.chunkBytes s.state received next →
    Progress T.client T.size T.chunkBytes status received' next' →
    received ≤ received' ∧ next ≤ next'

theorem acknowledged_of_ok {kind : FrameKind} (h : T.acknowledged s kind status = .ok ackSequence) :
    Acknowledged T s status ackSequence := by
  obtain ⟨_, hvalid, h⟩ := bind_eq_ok.1 h
  obtain ⟨ack, hack, h⟩ := bind_eq_ok.1 h
  obtain ⟨epoch, hepoch, h⟩ := bind_eq_ok.1 h
  obtain ⟨received', hreceived', h⟩ := bind_eq_ok.1 h
  obtain ⟨received, hreceived, h⟩ := bind_eq_ok.1 h
  obtain ⟨next', hnext', h⟩ := bind_eq_ok.1 h
  obtain ⟨next, hnext, h⟩ := bind_eq_ok.1 h
  obtain ⟨_, hrequire, h⟩ := bind_eq_ok.1 h
  obtain ⟨_, -, h⟩ := bind_eq_ok.1 h
  obtain rfl := Except.ok.inj h
  obtain ⟨rfl, hlow, hhigh, hreceivedLe, hnextLe⟩ := of_decide_eq_true (require_eq_ok.1 hrequire)
  refine ⟨hvalid, hack, hepoch, ⟨hlow, hhigh⟩, fun r n r' n' hp hp' => ?_⟩
  rw [Except.ok.inj (hp.received_bytes.symm.trans hreceived),
    Except.ok.inj (hp.next_offset.symm.trans hnext),
    Except.ok.inj (hp'.received_bytes.symm.trans hreceived'),
    Except.ok.inj (hp'.next_offset.symm.trans hnext')]
  exact ⟨hreceivedLe, hnextLe⟩

end StreamTerms

end LibreRoute.Update
