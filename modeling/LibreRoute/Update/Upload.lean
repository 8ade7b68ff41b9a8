import LibreRoute.Admin.Models
import LibreRoute.Lib.Base64
import LibreRoute.Lib.Machine
import LibreRoute.Lib.Program
import LibreRoute.Lib.Spans

/-!
Sending the artifact of a core update to the server.

`CoreUpdateClient.upload` first checks the state that the server reported; a
`Terms` can only be built from one that passed. The loop is a machine: the
uploading thread submits requests, takes replies and leaves, and between any
two of its steps a worker may finish its request. A label holds what the
callbacks return at the step, and for a worker which request it finishes and
how. Interrupting the uploading thread is not part of the model.
-/

namespace LibreRoute.Update

open Lib
open Admin (Throwable)

/-- The parameters of the client, the way its JSON library reads numbers, and the digest. The
other callbacks are met in the labels of the machine. -/
structure CoreUpdateClient where
  uploadWindow : Int
  useReliableBatches : Bool
  longOrNull : String → Option Int
  intOrNull : String → Option Int
  sha256 : List UInt8 → List UInt8
  /-- Whatever else the library reads, it reads decimal digits. -/
  longOrNull_decimal : ∀ n : Nat, n < 2 ^ 63 → longOrNull (longText n) = some (n : Int)
  intOrNull_decimal : ∀ n : Nat, n < 2 ^ 31 → intOrNull (longText n) = some (n : Int)

def failedRequirement : Throwable := .illegalArgument "Failed requirement."

def ofJson {α : Type} (result : Except JsonError α) : Except Throwable α :=
  result.mapError (Throwable.json · none)

theorem ofJson_eq_ok {α : Type} {result : Except JsonError α} {a : α} :
    ofJson result = .ok a ↔ result = .ok a := by
  cases result <;> simp [ofJson]

def string (o : JsonObject) (key : String) : Except Throwable String :=
  ofJson ((·.getD "") <$> o.contentOf key)

def hex (bytes : List UInt8) : String :=
  String.ofList (bytes.flatMap fun b =>
    [Nat.digitChar (b.toNat / 16), Nat.digitChar (b.toNat % 16)])

/-- A part of the artifact that the server has: it begins at a chunk, and ends at one or with the
artifact. -/
structure DurableRange (size chunkSize : Int) where
  first : Int
  second : Int
  first_nonneg : 0 ≤ first
  first_lt : first < second
  second_le : second ≤ size
  first_aligned : first % chunkSize = 0
  second_aligned : second = size ∨ second % chunkSize = 0

namespace CoreUpdateClient

variable (client : CoreUpdateClient)

def longOf (element : Json) : Except Throwable Int := do
  let text ← ofJson element.content
  match client.longOrNull text with
  | some n => pure n
  | none => throw (.platform none)

def intOf (element : Json) : Except Throwable Int := do
  let text ← ofJson element.content
  match client.intOrNull text with
  | some n => pure n
  | none => throw (.platform none)

def long (o : JsonObject) (key : String) : Except Throwable Int := do
  let element ← ofJson (o.getValue key)
  client.longOf element

/-- The limit of a batch, zero if the server or the client wants none. -/
def batchBytes (initial : JsonObject) : Except Throwable Int :=
  if client.useReliableBatches then do
    let text ← ofJson (initial.contentOf "batch_bytes")
    pure ((text.bind client.intOrNull).getD 0)
  else pure 0

def durableRange (size chunkSize : Int) (element : Json) :
    Except Throwable (DurableRange size chunkSize) := do
  let range ← ofJson element.jsonArray
  match range with
  | [a, b] =>
    let start ← client.longOf a
    let stop ← client.longOf b
    if h : 0 ≤ start ∧ start < size ∧ start + 1 ≤ stop ∧ stop ≤ size ∧ start % chunkSize = 0 ∧
        (stop = size ∨ stop % chunkSize = 0) then
      pure
        { first := start
          second := stop
          first_nonneg := h.1
          first_lt := h.2.2.1
          second_le := h.2.2.2.1
          first_aligned := h.2.2.2.2.1
          second_aligned := h.2.2.2.2.2 }
    else throw (.illegalArgument "Некорректный диапазон передачи")
  | _ => throw (.illegalArgument "Некорректный диапазон передачи")

/-- `initial["ranges"]?.jsonArray?.map { … }.orEmpty()`. -/
def ranges (initial : JsonObject) (size chunkSize : Int) :
    Except Throwable (List (DurableRange size chunkSize)) :=
  match initial.get "ranges" with
  | none => pure []
  | some element => do
      let items ← ofJson element.jsonArray
      items.mapM (client.durableRange size chunkSize)

end CoreUpdateClient

/-- `durableRanges.zipWithNext().all { (a, b) -> a.second < b.first }`. -/
def ascending {size chunkSize : Int} (ranges : List (DurableRange size chunkSize)) : Bool :=
  (ranges.zip ranges.tail).all fun (a, b) => a.second < b.first

/-- What an upload works with once the state reported by the server is accepted. -/
structure Terms where
  client : CoreUpdateClient
  artifact : List UInt8
  size : Int
  initial : JsonObject
  deadline : Int
  nextOffset : Int
  chunkSize : Int
  batchLimit : Int
  durableRanges : List (DurableRange size chunkSize)
  window : 1 ≤ client.uploadWindow ∧ client.uploadWindow ≤ 4
  nextOffset_reported : client.long initial "next_offset" = .ok nextOffset
  nextOffset_mem : 0 ≤ nextOffset ∧ nextOffset ≤ size
  chunkSize_mem : 1 ≤ chunkSize ∧ chunkSize ≤ 8 * 1024
  nextOffset_aligned : nextOffset = size ∨ nextOffset % chunkSize = 0
  batchLimit_mem : batchLimit = 0 ∨
    (chunkSize ≤ batchLimit ∧ batchLimit ≤ 256 * 1024 ∧ batchLimit % chunkSize = 0)
  ascends : ascending durableRanges = true

namespace CoreUpdateClient

/-- The checks at the beginning of `upload`. -/
def accept (client : CoreUpdateClient) (artifact : List UInt8) (size : Int) (initial : JsonObject)
    (deadline : Int) : Except Throwable Terms :=
  if hwindow : 1 ≤ client.uploadWindow ∧ client.uploadWindow ≤ 4 then
    match hreported : client.long initial "next_offset" with
    | .error e => .error e
    | .ok nextOffset =>
      if hnext : 0 ≤ nextOffset ∧ nextOffset ≤ size then do
        let chunk ← ofJson (initial.getValue "chunk_bytes")
        let chunkSize ← client.intOf chunk
        if hchunk : 1 ≤ chunkSize ∧ chunkSize ≤ 8 * 1024 then
          if haligned : nextOffset = size ∨ nextOffset % chunkSize = 0 then
            let batchLimit ← client.batchBytes initial
            if hbatch : batchLimit = 0 ∨ (chunkSize ≤ batchLimit ∧ batchLimit ≤ 256 * 1024 ∧
                batchLimit % chunkSize = 0) then
              let durableRanges ← client.ranges initial size chunkSize
              if hranges : durableRanges.length ≤ 64 ∧ ascending durableRanges = true then
                pure
                  { client
                    artifact
                    size
                    initial
                    deadline
                    nextOffset
                    chunkSize
                    batchLimit
                    durableRanges
                    window := hwindow
                    nextOffset_reported := hreported
                    nextOffset_mem := hnext
                    chunkSize_mem := hchunk
                    nextOffset_aligned := haligned
                    batchLimit_mem := hbatch
                    ascends := hranges.2 }
              else throw (.illegalArgument "Некорректные подтверждённые диапазоны")
            else throw (.illegalArgument "Лимит потока сервера не поддерживается")
          else throw (.illegalArgument "Неверное смещение передачи")
        else throw (.illegalArgument "Лимит сообщения сервера не поддерживается")
      else throw (.illegalArgument "Сервер вернул неверный прогресс передачи")
  else throw failedRequirement

end CoreUpdateClient

/-- A part of the artifact on its way to the server. -/
structure Request where
  offset : Int
  bytes : List UInt8
  deriving DecidableEq

def Request.stop (r : Request) : Int := r.offset + r.bytes.length

inductive Control
  | head
  | fill
  | take
  /-- In the `finally` block, on the way out with a result. -/
  | leaving (result : Except Throwable JsonObject)
  | returned (result : Except Throwable JsonObject)

/-- The variables of `upload`, its two thread-pool queues, and what it has told the server and the
callbacks so far. -/
structure UploadState where
  control : Control
  state : JsonObject
  offset : Int
  sendSize : Int
  checkpointAt : Int
  pending : Int
  failure : Option Throwable
  running : List Request
  /-- The completed calls in the order of their completion, each with the time it took. -/
  replies : List (Except Throwable JsonObject × Int)
  sent : List Request
  taken : List (Except Throwable JsonObject)
  checkpoints : List JsonObject

structure Delivery where
  now : Except Throwable Int
  checkpoint : Except Throwable Unit
  progress : Except Throwable Unit
  nowAfter : Except Throwable Int

inductive UploadEvent
  | check (cancelled : Except Throwable Bool) (now : Except Throwable Int)
  /-- It enters the inner loop, or finds that it is over. The reading of the file and the pool may
  throw. -/
  | submit (file pool : Except Throwable Unit)
  | take (d : Delivery)
  | await
  /-- The worker with request number `i` finishes. -/
  | finish (i : Nat) (reply : Except Throwable JsonObject) (elapsed : Int)

namespace Terms

variable (T : Terms) {offset : Int} {d : Delivery}

def batching : Bool := 0 < T.batchLimit

def callOf (r : Request) : String × JsonObject :=
  (if T.batching then "put_batch" else "put_chunk",
    [("offset", .literal (longText r.offset)),
      ("data", .string (String.ofList (Base64.encode .url false r.bytes))),
      ("sha256", .string (hex (T.client.sha256 r.bytes)))])

def start (now : Int) : UploadState where
  control := .head
  state := T.initial
  offset := T.nextOffset
  sendSize := if T.batching then min (64 * 1024) T.batchLimit else T.chunkSize
  checkpointAt := now
  pending := 0
  failure := none
  running := []
  replies := []
  sent := []
  taken := []
  checkpoints := []

/-- `durableRanges.firstOrNull { offset >= it.first && offset < it.second }?.let { offset =
it.second }`. -/
def skip (offset : Int) : Int :=
  match T.durableRanges.find? fun r => r.first ≤ offset && offset < r.second with
  | some r => r.second
  | none => offset

def rangeEnd (offset : Int) : Int :=
  match T.durableRanges.find? fun r => offset < r.first with
  | some r => r.first
  | none => T.size

/-- `seek` and `readFully`: both refuse what is negative, and the second an end before the
count. -/
def readFully (file : Except Throwable Unit) (offset count : Int) :
    Except Throwable (List UInt8) := do
  file
  if 0 ≤ offset ∧ 0 ≤ count ∧ offset + count ≤ T.artifact.length then
    pure ((T.artifact.drop offset.toNat).take count.toNat)
  else throw (.platform none)

def stopped : Throwable :=
  .illegalState "Передача остановлена. Проверьте сохранённый прогресс"

def stopRequested (cancelled : Except Throwable Bool) (now : Except Throwable Int) :
    Except Throwable Bool := do
  if ← cancelled then pure true
  else
    let now ← now
    pure (decide (T.deadline ≤ now))

def result (s : UploadState) : Except Throwable JsonObject := do
  match s.failure with
  | some e => throw e
  | none =>
    let next ← T.client.long s.state "next_offset"
    require (next == T.size)
      (.illegalArgument "Передача не подтверждена полностью. Проверьте сохранённый прогресс")
    let received ← T.client.long s.state "received_bytes"
    require (received == T.size)
      (.illegalArgument "Передача не подтверждена полностью. Проверьте сохранённый прогресс")
    pure s.state

/-- How much is sent next, after a call that took `elapsed` milliseconds. -/
def resize (elapsed sendSize : Int) : Int :=
  if elapsed < 2000 then min T.batchLimit (sendSize * 2)
  else if 4000 < elapsed then max (min T.batchLimit (32 * 1024)) (sendSize / 2)
  else sendSize

/-- The numbers of a reply, if it is one that the upload can go on with. -/
def progressOf (reply : JsonObject) : Except Throwable (Int × Int) := do
  let received ← T.client.long reply "received_bytes"
  let next ← T.client.long reply "next_offset"
  require (decide (0 ≤ received ∧ received ≤ T.size ∧ 0 ≤ next ∧ next ≤ T.size ∧ next ≤ received))
    (.illegalArgument "Сервер вернул неверный прогресс передачи")
  let stage ← string reply "stage"
  require (["planned", "receiving"].contains stage)
    (.illegalArgument "Сервер вернул неверный прогресс передачи")
  pure (received, next)

def isNewer (state : JsonObject) (received next : Int) : Except Throwable Bool := do
  let previous ← T.client.long state "received_bytes"
  if previous < received then pure true
  else if received = previous then
    let last ← T.client.long state "next_offset"
    pure (decide (last ≤ next))
  else pure false

def isDue (d : Delivery) (received checkpointAt : Int) : Except Throwable Bool :=
  if !T.batching || received == T.size then pure true
  else do
    let now ← d.now
    pure (decide (1000 ≤ now - checkpointAt))

/-- A newer reply becomes the state, and is checkpointed if that is due. -/
def adopt (d : Delivery) (reply : JsonObject) (received : Int) :
    Prog Throwable UploadState Unit := do
  Prog.modify ({ · with state := reply })
  let checkpointAt ← Prog.read (·.checkpointAt)
  let due ← Prog.ofExcept (T.isDue d received checkpointAt)
  Prog.when due do
    Prog.modify fun s => { s with checkpoints := s.checkpoints ++ [reply] }
    Prog.ofExcept d.checkpoint
    Prog.ofExcept d.progress
    let now ← Prog.ofExcept d.nowAfter
    Prog.modify ({ · with checkpointAt := now })

def handle (d : Delivery) (reply : Except Throwable JsonObject) (elapsed : Int) :
    Prog Throwable UploadState Unit := do
  let reply ← Prog.ofExcept reply
  let (received, next) ← Prog.ofExcept (T.progressOf reply)
  let state ← Prog.read (·.state)
  let newer ← Prog.ofExcept (T.isNewer state received next)
  Prog.when newer (T.adopt d reply received)
  Prog.when T.batching (Prog.modify fun s => { s with sendSize := T.resize elapsed s.sendSize })

/-- The handling of a reply with its `catch` block: the first failure is kept. -/
def receive (d : Delivery) (reply : Except Throwable JsonObject) (elapsed : Int) :
    Prog Throwable UploadState Unit :=
  (T.handle d reply elapsed).attempt fun e =>
    Prog.modify fun s => { s with failure := some (s.failure.getD e) }

/-- One turn of the inner loop whose condition holds. -/
def fill (file pool : Except Throwable Unit) (s : UploadState) : UploadState :=
  let offset := T.skip s.offset
  if offset = T.size then { s with offset, control := .take }
  else
    match T.readFully file offset (min s.sendSize (T.rangeEnd offset - offset)) with
    | .error e => { s with offset, control := .leaving (.error e) }
    | .ok bytes =>
      match pool with
      | .error e => { s with offset, control := .leaving (.error e) }
      | .ok () =>
        { s with
          offset := offset + bytes.length
          pending := s.pending + 1
          running := s.running ++ [⟨offset, bytes⟩]
          sent := s.sent ++ [⟨offset, bytes⟩] }

def step (s : UploadState) : UploadEvent → Option UploadState
  | .check cancelled now =>
    match s.control with
    | .head =>
      if s.offset < T.size ∨ 0 < s.pending then
        if s.failure.isSome then some { s with control := .fill }
        else
          match T.stopRequested cancelled now with
          | .error e => some { s with control := .leaving (.error e) }
          | .ok stop =>
            some { s with
              control := .fill
              failure := if stop then some stopped else none }
      else some { s with control := .leaving (T.result s) }
    | _ => none
  | .submit file pool =>
    match s.control with
    | .fill =>
      if s.failure.isNone ∧ s.offset < T.size ∧ s.pending < T.client.uploadWindow then
        some (T.fill file pool s)
      else some { s with control := .take }
    | _ => none
  | .take d =>
    match s.control with
    | .take =>
      if s.pending = 0 then some { s with control := .leaving (T.result s) }
      else
        match s.replies with
        | [] => none
        | (reply, elapsed) :: replies =>
          let s := { s with replies, taken := s.taken ++ [reply] }
          let s := ((T.receive d reply elapsed).exec s).2
          some { s with pending := s.pending - 1, control := .head }
    | _ => none
  | .await =>
    match s.control with
    | .leaving result =>
      -- `awaitTermination` goes on until no worker is busy
      if s.running.isEmpty then some { s with control := .returned result } else none
    | _ => none
  | .finish i reply elapsed =>
    if i < s.running.length then
      some { s with
        running := s.running.eraseIdx i
        replies := s.replies ++ [(reply, elapsed)] }
    else none

def machine : Machine UploadEvent UploadState := ⟨T.step⟩

/-- `upload` passes its checks with these terms, is started at the time `now`, and is in the state
`s` after the events. -/
def Reaches (now : Int) (events : List UploadEvent) (s : UploadState) : Prop :=
  T.client.accept T.artifact T.size T.initial T.deadline = .ok T ∧
    T.machine.run (T.start now) events = some s

variable {T} in
theorem accepted (hchunk : (ofJson (T.initial.getValue "chunk_bytes") >>= T.client.intOf) =
      .ok T.chunkSize)
    (hbatch : T.client.batchBytes T.initial = .ok T.batchLimit)
    (hranges : T.client.ranges T.initial T.size T.chunkSize = .ok T.durableRanges)
    (hcount : T.durableRanges.length ≤ 64) :
    T.client.accept T.artifact T.size T.initial T.deadline = .ok T := by
  obtain ⟨chunk, hread, hchunk⟩ := bind_eq_ok.1 hchunk
  unfold CoreUpdateClient.accept
  rw [dif_pos T.window]
  split
  · next e hreported =>
      rw [T.nextOffset_reported] at hreported
      cases hreported
  · next nextOffset hreported =>
      obtain rfl : T.nextOffset = nextOffset :=
        Except.ok.inj (T.nextOffset_reported.symm.trans hreported)
      rw [dif_pos T.nextOffset_mem, hread, ok_bind, hchunk, ok_bind, dif_pos T.chunkSize_mem,
        dif_pos T.nextOffset_aligned, hbatch, ok_bind, dif_pos T.batchLimit_mem, hranges, ok_bind,
        dif_pos ⟨hcount, T.ascends⟩]
      rfl

def Durable (x : Int) : Prop := ∃ r ∈ T.durableRanges, r.first ≤ x ∧ x < r.second

theorem pairwise_of_ascending {size chunkSize : Int} {l : List (DurableRange size chunkSize)}
    (h : ascending l = true) : l.Pairwise fun a b => a.second < b.first := by
  induction l with
  | nil => exact .nil
  | cons a l ih =>
    cases l with
    | nil => exact List.pairwise_singleton _ a
    | cons b l =>
      have hall : a.second < b.first ∧ ascending (b :: l) = true := by
        simpa [ascending] using h
      have hrest := ih hall.2
      refine List.pairwise_cons.2 ⟨?_, hrest⟩
      intro c hc
      rcases List.mem_cons.1 hc with rfl | hc
      · exact hall.1
      · -- the ranges between `a` and `c` are not empty
        have hbc := List.rel_of_pairwise_cons hrest hc
        have hb := b.first_lt
        omega

theorem ascends_ranges : Ascends DurableRange.first DurableRange.second T.durableRanges T.size where
  proper r _ := r.first_lt
  limited r _ := r.second_le
  apart := pairwise_of_ascending T.ascends

variable {T}

theorem skip_eq_skipSpan (offset : Int) :
    T.skip offset = skipSpan DurableRange.first DurableRange.second T.durableRanges offset := by
  unfold skip skipSpan
  cases T.durableRanges.find? fun r => r.first ≤ offset && offset < r.second <;> rfl

theorem rangeEnd_eq_nextSpan (offset : Int) :
    T.rangeEnd offset = nextSpan DurableRange.first T.durableRanges T.size offset := by
  unfold rangeEnd nextSpan
  cases T.durableRanges.find? fun r => offset < r.first <;> rfl

theorem skip_le (hoffset : offset ≤ T.size) : T.skip offset ≤ T.size := by
  rw [skip_eq_skipSpan]
  exact skipSpan_le T.ascends_ranges hoffset

theorem not_durable_skip (offset : Int) : ¬ T.Durable (T.skip offset) := by
  rw [skip_eq_skipSpan]
  exact not_within_skipSpan T.ascends_ranges offset

theorem lt_rangeEnd (hoffset : offset < T.size) : offset < T.rangeEnd offset := by
  rw [rangeEnd_eq_nextSpan]
  exact lt_nextSpan T.ascends_ranges hoffset

theorem rangeEnd_le (offset : Int) : T.rangeEnd offset ≤ T.size := by
  rw [rangeEnd_eq_nextSpan]
  exact nextSpan_le T.ascends_ranges offset

variable (T)

/-! ### What a step can do -/

/-- The state was left, or `reply` took its place; a reply that has everything is checkpointed. -/
def Adopted (reply : Except Throwable JsonObject) (s t : UploadState) : Prop :=
  (t.state = s.state ∧ t.checkpoints = s.checkpoints) ∨
    ∃ received next, reply = .ok t.state ∧ T.progressOf t.state = .ok (received, next) ∧
      T.isNewer s.state received next = .ok true ∧
      ((t.checkpoints = s.checkpoints ∧ received ≠ T.size) ∨
        t.checkpoints = s.checkpoints ++ [t.state])

structure Received (reply : Except Throwable JsonObject) (elapsed : Int) (s t : UploadState) :
    Prop where
  others : t = { s with
    state := t.state
    sendSize := t.sendSize
    checkpointAt := t.checkpointAt
    failure := t.failure
    checkpoints := t.checkpoints }
  adopted : T.Adopted reply s t
  sendSize : t.sendSize = s.sendSize ∨
    (T.batching = true ∧ t.sendSize = T.resize elapsed s.sendSize)
  failure : s.failure.isSome = true → t.failure.isSome = true
  /-- Without a failure the reply was one that the upload can go on with. -/
  valid : t.failure = none → ∃ o p, reply = .ok o ∧ T.progressOf o = .ok p

variable {T} {s t : UploadState} {reply : Except Throwable JsonObject} {elapsed : Int}

theorem isDue_of_full {at' : Int} : T.isDue d T.size at' = .ok true := by
  simp [isDue]

theorem adopt_wp {o : JsonObject} {received : Int} :
    (T.adopt d o received).wp
      (fun _ t => ∃ cs at', t = { s with state := o, checkpoints := cs, checkpointAt := at' } ∧
        ((cs = s.checkpoints ∧ received ≠ T.size) ∨ cs = s.checkpoints ++ [o]))
      (fun t => ∃ cs at', t = { s with state := o, checkpoints := cs, checkpointAt := at' } ∧
        ((cs = s.checkpoints ∧ received ≠ T.size) ∨ cs = s.checkpoints ++ [o])) s := by
  have hlogged : ∀ at', ∃ cs at'', ({ s with
      state := o, checkpoints := s.checkpoints ++ [o], checkpointAt := at' } : UploadState) =
      { s with state := o, checkpoints := cs, checkpointAt := at'' } ∧
        ((cs = s.checkpoints ∧ received ≠ T.size) ∨ cs = s.checkpoints ++ [o]) :=
    fun at' => ⟨_, at', rfl, .inr rfl⟩
  apply wp_bind
  apply wp_modify
  apply wp_bind
  apply wp_read
  apply wp_bind
  rcases hdue : T.isDue d received s.checkpointAt with e | due
  · -- the clock threw, so the reply does not have everything
    have hpartial : received ≠ T.size := by
      rintro rfl
      rw [isDue_of_full] at hdue
      exact absurd hdue (by simp)
    exact wp_throw ⟨_, s.checkpointAt, rfl, .inl ⟨rfl, hpartial⟩⟩
  apply wp_pure
  apply wp_when
  · intro _
    apply wp_bind
    apply wp_modify
    apply wp_bind
    refine wp_ofExcept (fun _ _ => ?_) (hlogged _)
    apply wp_bind
    refine wp_ofExcept (fun _ _ => ?_) (hlogged _)
    apply wp_bind
    refine wp_ofExcept (fun now _ => ?_) (hlogged _)
    exact wp_modify (hlogged now)
  · intro hfalse
    have hpartial : received ≠ T.size := by
      rintro rfl
      rw [isDue_of_full] at hdue
      simp [hfalse] at hdue
    exact ⟨_, s.checkpointAt, rfl, .inl ⟨rfl, hpartial⟩⟩

/-- What an exception leaves in `t` becomes what the handling promises once it is recorded. -/
def Caught (T : Terms) (reply : Except Throwable JsonObject) (elapsed : Int)
    (s t : UploadState) : Prop :=
  ∀ e, T.Received reply elapsed s { t with failure := some (t.failure.getD e) }

theorem caught_self : T.Caught reply elapsed s s := fun _ =>
  { others := rfl
    adopted := .inl ⟨rfl, rfl⟩
    sendSize := .inl rfl
    failure := fun _ => rfl
    valid := nofun }

theorem handle_wp :
    (T.handle d reply elapsed).wp (fun _ => T.Received reply elapsed s)
      (T.Caught reply elapsed s) s := by
  apply wp_bind
  refine wp_ofExcept (fun o ho => ?_) caught_self
  apply wp_bind
  refine wp_ofExcept (fun p hp => ?_) caught_self
  obtain ⟨received, next⟩ := p
  apply wp_bind
  apply wp_read
  apply wp_bind
  refine wp_ofExcept (fun newer hnewer => ?_) caught_self
  have hresize : ∀ t : UploadState, t = { s with
      state := t.state, checkpoints := t.checkpoints, checkpointAt := t.checkpointAt } →
      T.Adopted reply s t →
      (Prog.when T.batching (Prog.modify fun s => { s with
        sendSize := T.resize elapsed s.sendSize }) : Prog Throwable UploadState Unit).wp
        (fun _ => T.Received reply elapsed s) (T.Caught reply elapsed s) t := by
    rintro t ht hadopted
    have hsize : t.sendSize = s.sendSize := by rw [ht]
    have hfailure : t.failure = s.failure := by rw [ht]
    apply wp_when
    · intro hbatching
      exact wp_modify
        { others := by rw [ht]
          adopted := hadopted
          sendSize := .inr ⟨hbatching, by rw [hsize]⟩
          failure := by simp [hfailure]
          valid := fun _ => ⟨o, _, ho, hp⟩ }
    · intro _
      exact
        { others := by rw [ht]
          adopted := hadopted
          sendSize := .inl hsize
          failure := by simp [hfailure]
          valid := fun _ => ⟨o, _, ho, hp⟩ }
  apply wp_bind
  apply wp_when
  · intro hnew
    refine wp_mono adopt_wp ?_ ?_
    · rintro _ t ⟨cs, at', rfl, hcs⟩
      exact hresize _ rfl (.inr ⟨received, next, ho, hp, hnew ▸ hnewer, hcs⟩)
    · rintro t ⟨cs, at', rfl, hcs⟩ e
      exact
        { others := rfl
          adopted := .inr ⟨received, next, ho, hp, hnew ▸ hnewer, hcs⟩
          sendSize := .inl rfl
          failure := fun _ => rfl
          valid := nofun }
  · intro _
    exact hresize s rfl (.inl ⟨rfl, rfl⟩)

theorem receive_exec (d : Delivery) (s : UploadState) :
    T.Received reply elapsed s ((T.receive d reply elapsed).exec s).2 := by
  rw [receive, exec_attempt]
  rcases hx : (T.handle d reply elapsed).exec s with ⟨e | _, t⟩
  · simpa using wp_exec_of_error handle_wp hx e
  · have hreceived := wp_exec_of_ok handle_wp hx
    exact hreceived

/-- The steps of the uploading thread and its workers, each with what it finds and what it leaves.
Every property of the upload is shown from these. -/
inductive Moves (T : Terms) (s : UploadState) (event : UploadEvent) : UploadState → Prop
  /-- The outer loop is entered, possibly with the news that the upload is to stop. -/
  | enter (failure : Option Throwable) (hfailure : s.failure.isSome = true → failure = s.failure) :
      s.control = .head → Moves T s event { s with control := .fill, failure }
  | thrown (offset : Int) (e : Throwable) : offset = s.offset ∨ offset = T.skip s.offset →
      s.control = .head ∨ s.control = .fill →
      Moves T s event { s with offset, control := .leaving (.error e) }
  | leave : s.control = .head ∧ ¬ (s.offset < T.size ∨ 0 < s.pending) ∨
        s.control = .take ∧ s.pending = 0 →
      Moves T s event { s with control := .leaving (T.result s) }
  | filled : s.control = .fill → ¬ (s.failure = none ∧ s.offset < T.size ∧
        s.pending < T.client.uploadWindow) →
      Moves T s event { s with control := .take }
  | skipped : s.control = .fill → s.failure = none → T.skip s.offset = T.size →
      Moves T s event { s with offset := T.size, control := .take }
  | submitted (bytes : List UInt8) : s.control = .fill → s.failure = none → s.offset < T.size →
      s.pending < T.client.uploadWindow → T.skip s.offset ≠ T.size →
      bytes.length = min s.sendSize (T.rangeEnd (T.skip s.offset) - T.skip s.offset) →
      Moves T s event { s with
        offset := T.skip s.offset + bytes.length
        pending := s.pending + 1
        running := s.running ++ [⟨T.skip s.offset, bytes⟩]
        sent := s.sent ++ [⟨T.skip s.offset, bytes⟩] }
  | received {reply : Except Throwable JsonObject} {elapsed : Int}
      {replies : List (Except Throwable JsonObject × Int)} {t : UploadState} :
      s.control = .take → s.pending ≠ 0 → s.replies = (reply, elapsed) :: replies →
      T.Received reply elapsed { s with replies, taken := s.taken ++ [reply] } t →
      Moves T s event { t with pending := t.pending - 1, control := .head }
  | awaited (result : Except Throwable JsonObject) : s.control = .leaving result →
      s.running = [] → Moves T s event { s with control := .returned result }
  | finished (i : Nat) (reply : Except Throwable JsonObject) (elapsed : Int) :
      event = .finish i reply elapsed → i < s.running.length →
      Moves T s event { s with
        running := s.running.eraseIdx i
        replies := s.replies ++ [(reply, elapsed)] }

theorem length_readFully {file : Except Throwable Unit} {count : Int} {bytes : List UInt8}
    (h : T.readFully file offset count = .ok bytes) :
    (bytes.length : Int) = count := by
  obtain ⟨_, _, h⟩ := bind_eq_ok.1 h
  split at h
  · next hle =>
      rw [← Except.ok.inj h, List.length_take, List.length_drop]
      omega
  · exact absurd h (by simp)

theorem moves_fill {file pool : Except Throwable Unit} {event : UploadEvent}
    (hcontrol : s.control = .fill) (hfailure : s.failure = none) (hoffset : s.offset < T.size)
    (hpending : s.pending < T.client.uploadWindow) : T.Moves s event (T.fill file pool s) := by
  have hthrown : ∀ e, T.fill file pool s =
      { s with offset := T.skip s.offset, control := .leaving (.error e) } →
      T.Moves s event (T.fill file pool s) := fun e hfill => by
    rw [hfill]
    exact .thrown _ e (.inr rfl) (.inr hcontrol)
  by_cases hskip : T.skip s.offset = T.size
  · have hfill : T.fill file pool s = { s with offset := T.size, control := .take } := by
      simp [fill, hskip]
    rw [hfill]
    exact .skipped hcontrol hfailure hskip
  rcases hread : T.readFully file (T.skip s.offset)
    (min s.sendSize (T.rangeEnd (T.skip s.offset) - T.skip s.offset)) with e | bytes
  · exact hthrown e (by simp [fill, hskip, hread])
  rcases pool with e | _
  · exact hthrown e (by simp [fill, hskip, hread])
  · simp only [fill, hskip, hread, if_false]
    exact .submitted bytes hcontrol hfailure hoffset hpending hskip (length_readFully hread)

theorem moves_of_step {event : UploadEvent} (h : T.step s event = some t) :
    T.Moves s event t := by
  cases event with
  | check cancelled now =>
    simp only [step] at h
    split at h
    · next hcontrol =>
        split at h
        · split at h
          · obtain rfl := Option.some.inj h
            exact .enter _ (fun _ => rfl) hcontrol
          · next hnone =>
              rcases hstop : T.stopRequested cancelled now with e | stop
              · rw [hstop] at h
                obtain rfl := Option.some.inj h
                exact .thrown _ e (.inl rfl) (.inl hcontrol)
              · rw [hstop] at h
                obtain rfl := Option.some.inj h
                exact .enter _ (fun hsome => absurd hsome hnone) hcontrol
        · next hover =>
            obtain rfl := Option.some.inj h
            exact .leave (.inl ⟨hcontrol, hover⟩)
    · exact absurd h (by simp)
  | submit file pool =>
    simp only [step] at h
    split at h
    · next hcontrol =>
        split at h
        · next hcond =>
            obtain rfl := Option.some.inj h
            exact moves_fill hcontrol (Option.isNone_iff_eq_none.1 hcond.1) hcond.2.1 hcond.2.2
        · next hcond =>
            obtain rfl := Option.some.inj h
            rw [Option.isNone_iff_eq_none] at hcond
            exact .filled hcontrol hcond
    · exact absurd h (by simp)
  | take d =>
    simp only [step] at h
    split at h
    · next hcontrol =>
        split at h
        · next hpending =>
            obtain rfl := Option.some.inj h
            exact .leave (.inr ⟨hcontrol, hpending⟩)
        · next hpending =>
            rcases hreplies : s.replies with _ | ⟨⟨reply, elapsed⟩, replies⟩
            · rw [hreplies] at h
              exact absurd h (by simp)
            · rw [hreplies] at h
              obtain rfl := Option.some.inj h
              exact .received hcontrol hpending hreplies (receive_exec d _)
    · exact absurd h (by simp)
  | await =>
    simp only [step] at h
    split at h
    · next result hcontrol =>
        split at h
        · next hempty =>
            obtain rfl := Option.some.inj h
            exact .awaited result hcontrol (List.isEmpty_iff.1 hempty)
        · exact absurd h (by simp)
    · exact absurd h (by simp)
  | finish i reply elapsed =>
    simp only [step] at h
    split at h
    · next hi =>
        obtain rfl := Option.some.inj h
        exact .finished i reply elapsed rfl hi
    · exact absurd h (by simp)

theorem Reaches.invariant {now : Int} {events : List UploadEvent} {I : UploadState → Prop}
    (h : T.Reaches now events s) (hstart : I (T.start now))
    (hmove : ∀ s event t, T.Moves s event t → I s → I t) : I s :=
  Machine.run_invariant (fun s event t hstep => hmove s event t (moves_of_step hstep)) h.2 hstart

theorem batchLimit_pos (h : T.batching = true) : 1 ≤ T.batchLimit := by
  exact of_decide_eq_true h

theorem start_sendSize_pos (now : Int) : 1 ≤ (T.start now).sendSize := by
  have hchunk := T.chunkSize_mem
  rcases hbatching : T.batching with _ | _
  · simpa [start, hbatching] using hchunk.1
  · have hlimit := batchLimit_pos hbatching
    simp only [start, hbatching, if_true]
    omega

theorem resize_pos {sendSize : Int} (hbatching : T.batching = true) (h : 1 ≤ sendSize) :
    1 ≤ T.resize elapsed sendSize := by
  have hlimit := batchLimit_pos hbatching
  unfold resize
  split
  · omega
  split
  · omega
  · exact h

end Terms

end LibreRoute.Update
