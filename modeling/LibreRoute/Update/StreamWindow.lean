import LibreRoute.Lib.Utf8
import LibreRoute.Update.Coverage
import LibreRoute.Update.Stream
import Mathlib.Algebra.BigOperators.Group.List.Basic

/-!
The window of a stream.

The bytes of the frames from the last acknowledged one to the last one sent
are counted in `outstanding`, and a frame is sent only into the room that is
left. A frame alone always has room, so the stream never waits for an
acknowledgement that nothing can bring.
-/

namespace LibreRoute.Update

open Lib StreamTerms
open Admin (Throwable)

/-- The flights are numbered from behind `first` to `last`. -/
def Numbered : Int → List Flight → Int → Prop
  | first, [], last => first = last
  | first, flight :: pending, last =>
    flight.sequence = first + 1 ∧ Numbered (first + 1) pending last

section Numbered

variable {first last : Int} {pending : List Flight}

section

variable (h : Numbered first pending last)

include h

theorem Numbered.le : first ≤ last := by
  induction pending generalizing first with
  | nil => exact Int.le_of_eq h
  | cons flight pending ih =>
    have hle := ih h.2
    omega

theorem Numbered.append (bytes : Int) :
    Numbered first (pending ++ [⟨last + 1, bytes⟩]) (last + 1) := by
  induction pending generalizing first with
  | nil =>
    obtain rfl : first = last := h
    exact ⟨rfl, rfl⟩
  | cons flight pending ih => exact ⟨h.1, ih h.2⟩

theorem Numbered.mem_iff (n : Int) :
    n ∈ pending.map Flight.sequence ↔ first < n ∧ n ≤ last := by
  induction pending generalizing first with
  | nil =>
    obtain rfl : first = last := h
    simp only [List.map_nil, List.not_mem_nil, false_iff]
    omega
  | cons flight pending ih =>
    have hle := h.2.le
    rw [List.map_cons, List.mem_cons, ih h.2, h.1]
    omega

theorem Numbered.pairwise :
    (pending.map Flight.sequence).Pairwise (· < ·) := by
  induction pending generalizing first with
  | nil => exact .nil
  | cons flight pending ih =>
    rw [List.map_cons, List.pairwise_cons]
    refine ⟨fun n hn => ?_, ih h.2⟩
    have hmem := (h.2.mem_iff n).1 hn
    rw [h.1]
    exact hmem.1

theorem Numbered.removeConfirmed {ack : Int} (hle : first ≤ ack)
    (hle' : ack ≤ last) (outstanding : Int) :
    Numbered ack (removeConfirmed ack pending outstanding).1 last := by
  induction pending generalizing first outstanding with
  | nil =>
    obtain rfl : first = last := h
    exact Int.le_antisymm hle' hle
  | cons flight pending ih =>
    rw [removeConfirmed, h.1]
    split
    · next hconfirmed => exact ih h.2 hconfirmed _
    · next hnot =>
        obtain rfl : first = ack := by omega
        exact h

end

end Numbered

def bytesOf (pending : List Flight) : Int := (pending.map Flight.bytes).sum

theorem bytesOf_removeConfirmed (ack : Int) (pending : List Flight) (outstanding : Int)
    (h : outstanding = bytesOf pending) :
    (removeConfirmed ack pending outstanding).2 =
      bytesOf (removeConfirmed ack pending outstanding).1 := by
  induction pending generalizing outstanding with
  | nil => exact h
  | cons flight pending ih =>
    rw [removeConfirmed]
    split
    · apply ih
      rw [h, bytesOf, bytesOf, List.map_cons, List.sum_cons]
      omega
    · exact h

theorem removeConfirmed_suffix (ack : Int) (pending : List Flight) (outstanding : Int) :
    (removeConfirmed ack pending outstanding).1 <:+ pending := by
  induction pending generalizing outstanding with
  | nil => exact List.suffix_refl _
  | cons flight pending ih =>
    rw [removeConfirmed]
    split
    · exact (ih _).trans (List.suffix_cons flight pending)
    · exact List.suffix_refl _

theorem removeConfirmed_le (ack : Int) {pending : List Flight} (hbytes : ∀ f ∈ pending, 0 ≤ f.bytes)
    (outstanding : Int) :
    (removeConfirmed ack pending outstanding).2 ≤ outstanding := by
  induction pending generalizing outstanding with
  | nil => exact Int.le_refl _
  | cons flight pending ih =>
    obtain ⟨hflight, hbytes⟩ := List.forall_mem_cons.1 hbytes
    rw [removeConfirmed]
    split
    · have hle := ih hbytes (outstanding - flight.bytes)
      omega
    · exact Int.le_refl _

namespace StreamTerms

variable {T : StreamTerms} {s t : StreamState} {control : StreamControl}

structure Window (T : StreamTerms) (s : StreamState) : Prop where
  numbered : Numbered s.confirmedSequence s.pending s.sequence
  outstanding : s.outstanding = bytesOf s.pending
  window : s.outstanding ≤ T.windowBytes
  bytes : ∀ f ∈ s.pending, 0 ≤ f.bytes
  frame : ∀ count, s.control = .room count → count ≤ T.frameBytes

theorem window_start (now : Int) : T.Window (T.start now) where
  numbered := rfl
  outstanding := rfl
  window := by
    have hframe := T.frame_mem
    have hwindow := T.window_mem
    have hchunk := T.chunk
    change (0 : Int) ≤ _
    omega
  bytes := by simp [start]
  frame := by simp [start]

theorem Window.of_control (h : T.Window s) {offset : Int} {finished : Option Int}
    (hframe : ∀ count, control = .room count → count ≤ T.frameBytes) :
    T.Window { s with control := control, offset := offset, finished := finished } :=
  ⟨h.numbered, h.outstanding, h.window, h.bytes, hframe⟩

theorem Window.confirm (h : T.Window s) {kind : FrameKind} {status : JsonObject} {ackSequence : Int}
    (hack : T.acknowledged s kind status = .ok ackSequence) (checkpointAt : Int)
    (hframe : ∀ count, control = .room count → count ≤ T.frameBytes) :
    T.Window { confirm s kind status ackSequence with
      checkpointAt := checkpointAt
      control := control } := by
  obtain ⟨hlow, hhigh⟩ := (acknowledged_of_ok hack).range
  have hle := removeConfirmed_le ackSequence h.bytes s.outstanding
  exact
    { numbered := h.numbered.removeConfirmed hlow hhigh s.outstanding
      outstanding := bytesOf_removeConfirmed ackSequence s.pending s.outstanding h.outstanding
      window := Int.le_trans hle h.window
      bytes := fun f hf => h.bytes f ((removeConfirmed_suffix _ _ _).subset hf)
      frame := hframe }

theorem Window.launch (h : T.Window s) {count : Int} {bytes : List UInt8}
    (hroom : s.outstanding + count ≤ T.windowBytes) (hlength : bytes.length = count) {offset : Int}
    (hcontrol : ∀ count, control ≠ .room count) :
    T.Window { T.launch s count bytes with control := control, offset := offset } where
  numbered := h.numbered.append count
  outstanding := by
    change s.outstanding + count = bytesOf (s.pending ++ [⟨s.sequence + 1, count⟩])
    rw [h.outstanding, bytesOf, bytesOf, List.map_append, List.sum_append]
    simp
  window := hroom
  bytes := by
    intro f hf
    rcases List.mem_append.1 hf with hf | hf
    · exact h.bytes f hf
    · rw [List.mem_singleton.1 hf]
      change 0 ≤ count
      omega
  frame count' heq := absurd heq (hcontrol count')

theorem Moves.window (h : T.Moves s t) (hs : T.Window s) : T.Window t := by
  cases h with
  | entered _ _ => exact hs.of_control (by simp)
  | ended _ _ => exact hs.of_control (by simp)
  | skipped _ _ => exact hs.of_control (by simp)
  | located _ _ =>
    refine hs.of_control fun count hcount => ?_
    rw [← StreamControl.room.inj hcount]
    exact Int.min_le_left _ _
  | thrown e => exact hs.of_control (by simp)
  | idle => exact hs
  | accepted haccepts =>
    obtain ⟨-, hack, checkpointAt⟩ := haccepts
    exact hs.confirm hack checkpointAt hs.frame
  | failed e haccepts =>
    obtain ⟨-, hack, checkpointAt⟩ := haccepts
    exact hs.confirm hack checkpointAt (by simp)
  | returned _ hack checkpointAt _ => exact hs.confirm hack checkpointAt (by simp)
  | launched _ hroom hlength => exact hs.launch hroom hlength (by simp)
  | lost e _ hroom hlength => exact hs.launch hroom hlength (by simp)
  | closed _ => exact hs.of_control (by simp)
  | broken e _ => exact hs.of_control (by simp)

/-- In every state of a run the flights are counted, fit into the window, and are those behind
the last acknowledged frame; and the stream waits for room only if something is in flight. -/
theorem stream_window (T : StreamTerms) (now : Int) (events : List StreamEvent) (s : StreamState)
    (h : T.Reaches now events s) :
    s.outstanding = (s.pending.map Flight.bytes).sum ∧ s.outstanding ≤ T.windowBytes ∧
      (∀ n, n ∈ s.pending.map Flight.sequence ↔ s.confirmedSequence < n ∧ n ≤ s.sequence) ∧
      (s.pending.map Flight.sequence).Pairwise (· < ·) ∧
      ∀ count, s.control = .room count → T.windowBytes < s.outstanding + count →
        s.pending ≠ [] := by
  have hwindow : T.Window s := h.invariant (window_start now) fun _ _ hmoves => hmoves.window
  refine ⟨hwindow.outstanding, hwindow.window, hwindow.numbered.mem_iff, hwindow.numbered.pairwise,
    fun count hcontrol hfull hempty => ?_⟩
  have hframe := hwindow.frame count hcontrol
  have hlimits := T.window_mem
  have hzero : s.outstanding = 0 := by
    rw [hwindow.outstanding, hempty]
    rfl
  omega

end StreamTerms

/-! ### A stream of two frames -/

/-- Three chunks, of which the last has five bytes. -/
@[irreducible] def core : List UInt8 := List.replicate 16389 0x63

theorem length_core : core.length = 16389 := by
  unfold core
  exact List.length_replicate

def coreOperation : JsonObject :=
  operationFields.map fun field => (field, .string "core")

def corePlan : JsonObject :=
  coreOperation ++ [("manifest", .object [("size", .literal "16389")])]

def coreStatus (received next : String) : JsonObject :=
  coreOperation ++ reported received next ++ [("size", .literal "16389"), ("epoch", .literal "1")]

def coreChallenge : String := "qN3vX0tYc7RZb2LkW9dEaP5hGm1sJfUoT8iVw4yK6xA"

/-- The server has the second chunk. -/
def coreReady : JsonObject :=
  coreStatus "8192" "0" ++
    [("challenge", .string coreChallenge), ("frame_bytes", .literal "8192"),
      ("window_bytes", .literal "16384"), ("chunk_bytes", .literal "8192"),
      ("ranges", .array [.array [.literal "8192", .literal "16384"]])]

/-- Both frames are confirmed, and with them the artifact. -/
def coreDone : JsonObject := coreStatus "16389" "16389" ++ [("sequence", .literal "2")]

/-- The text of `coreDone`, as the server writes it at the end. -/
def coreReply : List UInt8 :=
  Utf8.encode ("\x7b\"operation_id\":\"core\",\"server_id\":\"core\"," ++
    "\"server_public_key\":\"core\",\"control_profile_id\":\"core\",\"plan_hash\":\"core\"," ++
    "\"stage\":\"receiving\",\"received_bytes\":16389,\"next_offset\":16389,\"size\":16389," ++
    "\"epoch\":1,\"sequence\":2\x7d")

def coreParse (bytes : List UInt8) : Except Throwable JsonObject :=
  if bytes = coreReply then .ok coreDone else .error (.illegalArgument "JSON")

def coreStream : StreamTerms where
  client := phoneClient 2 false
  parse := coreParse
  artifact := core
  plan := corePlan
  deadline := 1800000
  ready := coreReady
  epoch := 1
  frameBytes := 8192
  windowBytes := 16384
  chunkBytes := 8192
  size := 16389
  nextOffset := 0
  ranges := [⟨8192, 16384, by decide, by decide, by decide, by decide, by decide⟩]
  epoch_pos := by decide
  chunk := rfl
  frame_mem := by decide
  frame_aligned := by decide
  window_mem := by decide
  valid := by decide
  next_reported := by decide
  ascends := rfl

def running : Clock := ⟨.ok false, .ok 0⟩

/-- Up to the end, which the server has not confirmed. -/
def coreFrames : List StreamEvent :=
  [.check running, .drain none undisturbed, .send (.ok ()) (.ok ()), .check running,
    .drain none undisturbed, .send (.ok ()) (.ok ()), .check running, .finish running (.ok ()),
    .await none running running undisturbed]

def coreConfirmation : StreamEvent :=
  .await (some (.ok (.done, coreReply))) running running undisturbed

/-- All is sent, and nothing is confirmed. -/
def coreAwaiting : StreamState :=
  { coreStream.start 0 with
    control := .await
    pending := [⟨1, 8192⟩, ⟨2, 5⟩]
    sequence := 2
    outstanding := 8197
    offset := 16389
    sent := [⟨1, 1, 0, (core.drop 0).take 8192⟩, ⟨1, 2, 16384, (core.drop 16384).take 5⟩]
    finished := some 2 }

theorem coreStream_accepted : coreStream.client.acceptStream coreParse core corePlan 1800000
    coreChallenge coreReady = .ok coreStream :=
  rfl

theorem coreStream_awaits : coreStream.Reaches 0 coreFrames coreAwaiting := by
  have hlength : ((coreStream.artifact.length : Nat) : Int) = 16389 := by
    rw [show coreStream.artifact = core from rfl, length_core]
    rfl
  have hfirst : coreStream.step { coreStream.start 0 with control := .room 8192 }
      (.send (.ok ()) (.ok ())) = some _ :=
    step_send rfl (by decide) (by decide) (by decide) (by rw [hlength]; decide)
  have hsecond : coreStream.step
      { coreStream.start 0 with
        control := .room 5
        pending := [⟨1, 8192⟩]
        sequence := 1
        outstanding := 8192
        offset := 16384
        sent := [⟨1, 1, 0, (core.drop 0).take 8192⟩] } (.send (.ok ()) (.ok ())) = some _ :=
    step_send rfl (by decide) (by decide) (by decide) (by rw [hlength]; decide)
  refine (Machine.run_cons_of_step rfl _).trans ((Machine.run_cons_of_step rfl _).trans ?_)
  refine (Machine.run_cons_of_step hfirst _).trans ((Machine.run_cons_of_step rfl _).trans ?_)
  refine (Machine.run_cons_of_step rfl _).trans ((Machine.run_cons_of_step hsecond _).trans ?_)
  rfl

theorem coreStream_returns : ∃ s, coreStream.Reaches 0 (coreFrames ++ [coreConfirmation]) s ∧
    s.control = .returned coreDone ∧ s.sent = coreAwaiting.sent ∧ s.finished = some 2 := by
  have hterms : coreStream.parse = coreParse := rfl
  have hparse : coreStream.parse coreReply = .ok coreDone := by
    simp only [hterms, coreParse, reduceIte]
  have hack : coreStream.acknowledged coreAwaiting .done coreDone = .ok 2 := rfl
  have hstep := step_await_done (T := coreStream) (s := coreAwaiting) rfl hparse hack
    (d := undisturbed) rfl rfl running running
  have hrun : coreStream.Reaches 0 (coreFrames ++ [coreConfirmation]) _ :=
    (Machine.run_append coreStream_awaits _).trans (Machine.run_cons_of_step hstep [])
  exact ⟨_, hrun, rfl, rfl, rfl⟩

theorem stream_window_core : coreStream.Reaches 0 coreFrames coreAwaiting ∧
    (∀ n, n ∈ [(1 : Int), 2] ↔ 0 < n ∧ n ≤ 2) ∧ coreAwaiting.outstanding ≤ 16384 := by
  obtain ⟨-, hwindow, hnumbers, -⟩ :=
    StreamTerms.stream_window coreStream 0 coreFrames coreAwaiting coreStream_awaits
  exact ⟨coreStream_awaits, hnumbers, hwindow⟩

end LibreRoute.Update
