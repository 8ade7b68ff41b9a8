import LibreRoute.Update.Coverage
import Mathlib.Data.Nat.Prime.Basic
import Mathlib.Tactic.Ring

/-!
Where the requests of an upload begin and end.

The offset of an upload is always at a chunk or at the end of the artifact,
provided that the size of a request is a number of chunks. The size starts at
64 KiB or at the limit of a batch, is doubled up to that limit and halved down
to 32 KiB, and none of this asks for chunks. `KeepsChunks` says for which
chunks and limits it is; for all others, the second part builds an upload that
cuts a chunk.
-/

namespace LibreRoute.Update

open Lib
open Admin (Throwable)

/-- The halves of the limit that the size can become are numbers of chunks, and so is 32 KiB. A
limit of up to 32 KiB is never halved. -/
def KeepsChunks (chunkSize batchLimit : Int) : Prop :=
  chunkSize = 1 ∨ batchLimit ≤ 32 * 1024 ∨
    (chunkSize ∣ 32 * 1024 ∧ (batchLimit ≤ 64 * 1024 ∨ 2 * chunkSize ∣ batchLimit) ∧
      (batchLimit ≤ 128 * 1024 ∨ 4 * chunkSize ∣ batchLimit))

namespace Terms

/-- A request begins at a chunk, and ends at one or with the artifact. -/
def IsAligned (T : Terms) (r : Request) : Prop :=
  T.chunkSize ∣ r.offset ∧ (T.chunkSize ∣ r.bytes.length ∨ r.stop = T.size)

variable {T : Terms} {s t : UploadState} {event : UploadEvent}

/-! ### The sizes of requests -/

/-- The sizes that a request can have with a limit for batches. -/
def IsSize (batchLimit size : Int) : Prop :=
  size = batchLimit ∨ (32 * 1024 < batchLimit ∧ size = 32 * 1024) ∨
    (64 * 1024 < batchLimit ∧ (size = 64 * 1024 ∨ size = batchLimit / 2)) ∨
    (128 * 1024 < batchLimit ∧ (size = 128 * 1024 ∨ size = batchLimit / 4))

theorem batchLimit_le (T : Terms) : T.batchLimit ≤ 256 * 1024 := by
  rcases T.batchLimit_mem with hzero | hmem
  · omega
  · exact hmem.2.1

theorem isSize_start (hbatching : T.batching = true) (now : Int) :
    IsSize T.batchLimit (T.start now).sendSize := by
  have hlimit := batchLimit_pos hbatching
  simp only [start, hbatching, if_true, IsSize]
  omega

theorem isSize_resize {elapsed size : Int} (hbatching : T.batching = true)
    (hhalf : T.batchLimit ≤ 64 * 1024 ∨ T.batchLimit % 2 = 0)
    (hquarter : T.batchLimit ≤ 128 * 1024 ∨ T.batchLimit % 4 = 0)
    (h : IsSize T.batchLimit size) : IsSize T.batchLimit (T.resize elapsed size) := by
  have hlow := batchLimit_pos hbatching
  have hhigh := T.batchLimit_le
  unfold IsSize at h
  unfold resize
  split
  · -- doubled, up to the limit
    unfold IsSize
    omega
  split
  · -- halved, down to 32 KiB
    unfold IsSize
    omega
  · exact h

theorem dvd_of_isSize {size : Int} (hbatch : T.chunkSize ∣ T.batchLimit)
    (hkeeps : KeepsChunks T.chunkSize T.batchLimit) (h : IsSize T.batchLimit size) :
    T.chunkSize ∣ size := by
  rcases hkeeps with hone | hsmall | ⟨hbase, hhalf, hquarter⟩
  · rw [hone]
    exact one_dvd size
  · obtain rfl : size = T.batchLimit := by
      unfold IsSize at h
      omega
    exact hbatch
  · rcases h with rfl | ⟨-, rfl⟩ | ⟨hlt, rfl | rfl⟩ | ⟨hlt, rfl | rfl⟩
    · exact hbatch
    · exact hbase
    · exact hbase.trans ⟨2, by norm_num⟩
    · obtain ⟨k, hk⟩ := hhalf.resolve_left (by omega)
      exact ⟨k, by rw [hk, mul_assoc]; omega⟩
    · exact hbase.trans ⟨4, by norm_num⟩
    · obtain ⟨k, hk⟩ := hquarter.resolve_left (by omega)
      exact ⟨k, by rw [hk, mul_assoc]; omega⟩

theorem chunkSize_dvd_batchLimit : T.chunkSize ∣ T.batchLimit := by
  rcases T.batchLimit_mem with hzero | ⟨-, -, hmod⟩
  · rw [hzero]
    exact dvd_zero _
  · exact Int.dvd_of_emod_eq_zero hmod

theorem halves_of_keepsChunks (hkeeps : KeepsChunks T.chunkSize T.batchLimit)
    (hchunk : T.chunkSize ≠ 1) :
    (T.batchLimit ≤ 64 * 1024 ∨ T.batchLimit % 2 = 0) ∧
      (T.batchLimit ≤ 128 * 1024 ∨ T.batchLimit % 4 = 0) := by
  rcases hkeeps with hone | hsmall | ⟨-, hhalf, hquarter⟩
  · exact absurd hone hchunk
  · exact ⟨.inl (by omega), .inl (by omega)⟩
  · refine ⟨hhalf.imp_right fun h => ?_, hquarter.imp_right fun h => ?_⟩
    · exact Int.emod_eq_zero_of_dvd ((Int.dvd_mul_right 2 _).trans h)
    · exact Int.emod_eq_zero_of_dvd ((Int.dvd_mul_right 4 _).trans h)

/-! ### The offsets of requests -/

/-- The offset is at a chunk or at the end, as is every request so far. -/
structure Chunked (T : Terms) (s : UploadState) : Prop where
  size : T.batching = true ∧ IsSize T.batchLimit s.sendSize ∨
    T.batching = false ∧ s.sendSize = T.chunkSize
  offset : T.chunkSize ∣ s.offset ∨ s.offset = T.size
  sent : ∀ r ∈ s.sent, T.IsAligned r

theorem chunked_start (now : Int) : T.Chunked (T.start now) where
  size := by
    rcases hbatching : T.batching with _ | _
    · exact .inr ⟨rfl, by simp [start, hbatching]⟩
    · exact .inl ⟨rfl, isSize_start hbatching now⟩
  offset := T.nextOffset_aligned.symm.imp_left Int.dvd_of_emod_eq_zero
  sent := nofun

theorem Chunked.of_eq (h : T.Chunked s) (hoffset : t.offset = s.offset)
    (hsize : t.sendSize = s.sendSize) (hsent : t.sent = s.sent) : T.Chunked t where
  size := by rw [hsize]; exact h.size
  offset := by rw [hoffset]; exact h.offset
  sent := by rw [hsent]; exact h.sent

theorem skip_aligned {offset : Int} (h : T.chunkSize ∣ offset ∨ offset = T.size) :
    T.chunkSize ∣ T.skip offset ∨ T.skip offset = T.size := by
  rw [skip_eq_skipSpan]
  rcases skipSpan_cases DurableRange.first DurableRange.second T.durableRanges offset with
    ⟨hskip, -⟩ | ⟨r, -, -, -, hskip⟩
  · rwa [hskip]
  · rw [hskip]
    exact r.second_aligned.symm.imp_left Int.dvd_of_emod_eq_zero

theorem rangeEnd_aligned (offset : Int) :
    T.chunkSize ∣ T.rangeEnd offset ∨ T.rangeEnd offset = T.size := by
  rw [rangeEnd_eq_nextSpan]
  rcases nextSpan_cases T.ascends_ranges offset with ⟨hend, -⟩ | ⟨r, -, -, hend, -⟩
  · exact .inr hend
  · rw [hend]
    exact .inl (Int.dvd_of_emod_eq_zero r.first_aligned)

theorem isAligned_of_submitted {bytes : List UInt8} {offset sendSize : Int}
    (hoffset : T.chunkSize ∣ offset) (hsize : T.chunkSize ∣ sendSize)
    (hlength : bytes.length = min sendSize (T.rangeEnd offset - offset)) :
    T.IsAligned ⟨offset, bytes⟩ ∧
      (T.chunkSize ∣ offset + bytes.length ∨ offset + bytes.length = T.size) := by
  rcases Int.le_total sendSize (T.rangeEnd offset - offset) with hle | hle
  · have hcut : (bytes.length : Int) = sendSize := by omega
    rw [← hcut] at hsize
    exact ⟨⟨hoffset, .inl hsize⟩, .inl (Int.dvd_add hoffset hsize)⟩
  · have hcut : offset + (bytes.length : Int) = T.rangeEnd offset := by omega
    rw [hcut]
    refine ⟨⟨hoffset, ?_⟩, rangeEnd_aligned offset⟩
    rcases rangeEnd_aligned offset with hend | hend
    · left
      have hlength' : (bytes.length : Int) = T.rangeEnd offset - offset := by omega
      change T.chunkSize ∣ (bytes.length : Int)
      rw [hlength']
      exact Int.dvd_sub hend hoffset
    · exact .inr (hcut.trans hend)

theorem Moves.chunked (hkeeps : KeepsChunks T.chunkSize T.batchLimit) (hchunk : T.chunkSize ≠ 1)
    (h : T.Moves s event t) (hs : T.Chunked s) : T.Chunked t := by
  cases h with
  | enter _ _ _ => exact hs.of_eq rfl rfl rfl
  | thrown offset _ hoffset _ =>
    refine { size := hs.size, offset := ?_, sent := hs.sent }
    rcases hoffset with rfl | rfl
    · exact hs.offset
    · exact skip_aligned hs.offset
  | leave _ => exact hs.of_eq rfl rfl rfl
  | filled _ _ => exact hs.of_eq rfl rfl rfl
  | skipped _ _ _ => exact { size := hs.size, offset := .inr rfl, sent := hs.sent }
  | submitted bytes _ _ _ _ hskip hlength =>
    have hoffset := (skip_aligned hs.offset).resolve_right hskip
    have hsize : T.chunkSize ∣ s.sendSize := by
      rcases hs.size with ⟨-, hsize⟩ | ⟨-, hsize⟩
      · exact dvd_of_isSize chunkSize_dvd_batchLimit hkeeps hsize
      · rw [hsize]
    obtain ⟨haligned, hnext⟩ := isAligned_of_submitted hoffset hsize hlength
    refine { size := hs.size, offset := hnext, sent := fun r hr => ?_ }
    rcases List.mem_append.1 hr with hr | hr
    · exact hs.sent r hr
    · rw [List.mem_singleton.1 hr]
      exact haligned
  | @received reply elapsed replies t _ _ _ hreceived =>
    obtain ⟨hsent, hoffset⟩ := hreceived.sent_eq
    obtain ⟨hhalf, hquarter⟩ := halves_of_keepsChunks hkeeps hchunk
    refine
      { size := ?_
        offset := by
          change T.chunkSize ∣ t.offset ∨ t.offset = T.size
          rw [hoffset]
          exact hs.offset
        sent := by
          change ∀ r ∈ t.sent, T.IsAligned r
          rw [hsent]
          exact hs.sent }
    change T.batching = true ∧ IsSize T.batchLimit t.sendSize ∨
      T.batching = false ∧ t.sendSize = T.chunkSize
    rcases hreceived.sendSize with hsame | ⟨hbatching, hresized⟩
    · rw [hsame]
      exact hs.size
    · rw [hresized]
      rcases hs.size with ⟨-, hsize⟩ | ⟨hnot, -⟩
      · exact .inl ⟨hbatching, isSize_resize hbatching hhalf hquarter hsize⟩
      · exact absurd (hbatching.symm.trans hnot) (by decide)
  | awaited _ _ _ => exact hs.of_eq rfl rfl rfl
  | finished _ _ _ _ _ => exact hs.of_eq rfl rfl rfl

theorem Reaches.isAligned {now : Int} {events : List UploadEvent} (h : T.Reaches now events s)
    (hkeeps : KeepsChunks T.chunkSize T.batchLimit) {r : Request} (hr : r ∈ s.sent) :
    T.IsAligned r := by
  by_cases hchunk : T.chunkSize = 1
  · refine ⟨?_, .inl ?_⟩ <;> rw [hchunk] <;> exact one_dvd _
  · exact (h.invariant (chunked_start now) fun _ _ _ hmove =>
      hmove.chunked hkeeps hchunk).sent r hr

/-! ### An upload whose replies say nothing new

The server answers every request with the report it began with. Only the
time that the answers take matters, and the size of the next request is
what it makes of the size before. -/

/-- Batches, no durable ranges, and a report that says that nothing has arrived. -/
structure Unmoved (T : Terms) : Prop where
  batching : T.batching = true
  durableRanges : T.durableRanges = []
  length : (T.artifact.length : Int) = T.size
  deadline : 0 < T.deadline
  nonempty : 0 < T.size
  progress : T.progressOf T.initial = .ok (0, 0)
  newer : T.isNewer T.initial 0 0 = .ok true

/-- The thread waits for a reply, or is about to submit. -/
def phase (T : Terms) (control : Control) (offset sendSize pending : Int)
    (running sent : List Request) (taken : List (Except Throwable JsonObject)) : UploadState :=
  { T.start 0 with control, offset, sendSize, pending, running, sent, taken }

def part (T : Terms) (offset count : Int) : Request :=
  ⟨offset, (T.artifact.drop offset.toNat).take count.toNat⟩

theorem length_part (hT : T.Unmoved) {offset count : Int} (hoffset : 0 ≤ offset)
    (hcount : 0 ≤ count) (hroom : offset + count ≤ T.size) :
    ((T.part offset count).bytes.length : Int) = count := by
  have hlength := hT.length
  simp only [part, List.length_take, List.length_drop]
  omega

variable {offset sendSize pending elapsed : Int} {running sent : List Request}
  {taken : List (Except Throwable JsonObject)}

theorem step_submit (hT : T.Unmoved) (hslot : pending < T.client.uploadWindow)
    (hoffset : 0 ≤ offset) (hsize : 1 ≤ sendSize) (hroom : offset + sendSize ≤ T.size) :
    T.step (T.phase .fill offset sendSize pending running sent taken) (.submit (.ok ()) (.ok ())) =
      some (T.phase .fill (offset + sendSize) sendSize (pending + 1)
        (running ++ [T.part offset sendSize]) (sent ++ [T.part offset sendSize]) taken) := by
  have hlength := length_part hT hoffset (by omega) hroom
  have hlt : offset < T.size := by omega
  have hne : offset ≠ T.size := by omega
  have hmin : min sendSize (T.size - offset) = sendSize := by omega
  have hread : T.readFully (.ok ()) offset sendSize = .ok (T.part offset sendSize).bytes := by
    have hinside : 0 ≤ offset ∧ 0 ≤ sendSize ∧ offset + sendSize ≤ T.artifact.length := by
      have hlength := hT.length
      omega
    simp [readFully, hinside, part]
  have hpart : (⟨offset, (T.part offset sendSize).bytes⟩ : Request) = T.part offset sendSize := rfl
  simp [step, phase, start, hlt, hslot, fill, skip, rangeEnd, hT.durableRanges, hne, hmin,
    hread, hlength, hpart]

theorem step_full (hfull : pending = T.client.uploadWindow) :
    T.step (T.phase .fill offset sendSize pending running sent taken) (.submit (.ok ()) (.ok ())) =
      some (T.phase .take offset sendSize pending running sent taken) := by
  simp [step, phase, start, hfull]

theorem receive_unmoved (hT : T.Unmoved) (hstate : s.state = T.initial)
    (hcheckpoint : s.checkpointAt = 0) :
    (T.receive undisturbed (.ok T.initial) elapsed).exec s =
      (.ok (), { s with sendSize := T.resize elapsed s.sendSize }) := by
  have hnotDue : T.isDue undisturbed 0 0 = .ok false := by
    have hsize : (0 : Int) ≠ T.size := ne_of_lt hT.nonempty
    simp [isDue, hT.batching, hsize, undisturbed]
  simp [receive, handle, adopt, hT.progress, hstate, hT.newer, hcheckpoint, hnotDue, hT.batching]

/-- One reply, after `elapsed` milliseconds, and the request that follows it. -/
def turn (T : Terms) (elapsed : Int) : List UploadEvent :=
  [.finish 0 (.ok T.initial) elapsed, .take undisturbed, .check (.ok false) (.ok 0),
    .submit (.ok ()) (.ok ()), .submit (.ok ()) (.ok ())]

theorem run_turn (hT : T.Unmoved) {r : Request} (hoffset : 0 ≤ offset)
    (hsize : 1 ≤ T.resize elapsed sendSize)
    (hroom : offset + T.resize elapsed sendSize ≤ T.size) :
    T.machine.run (T.phase .take offset sendSize T.client.uploadWindow (r :: running) sent taken)
        (T.turn elapsed) =
      some (T.phase .take (offset + T.resize elapsed sendSize) (T.resize elapsed sendSize)
        T.client.uploadWindow (running ++ [T.part offset (T.resize elapsed sendSize)])
        (sent ++ [T.part offset (T.resize elapsed sendSize)]) (taken ++ [.ok T.initial])) := by
  have hwindow := T.window.1
  have hne : T.client.uploadWindow ≠ 0 := by omega
  have hlt : offset < T.size := by omega
  have hdeadline : ¬ T.deadline ≤ 0 := by
    have hpos := hT.deadline
    omega
  have hfinish : T.step (T.phase .take offset sendSize T.client.uploadWindow (r :: running) sent
      taken) (.finish 0 (.ok T.initial) elapsed) =
      some { T.phase .take offset sendSize T.client.uploadWindow running sent taken with
        replies := [(.ok T.initial, elapsed)] } := by
    simp [step, phase, start]
  have htake : T.step { T.phase .take offset sendSize T.client.uploadWindow running sent taken with
      replies := [(.ok T.initial, elapsed)] } (.take undisturbed) =
      some (T.phase .head offset (T.resize elapsed sendSize) (T.client.uploadWindow - 1) running
        sent (taken ++ [.ok T.initial])) := by
    simp only [step, phase, hne, if_false]
    rw [receive_unmoved hT rfl rfl]
    rfl
  have hcheck : T.step (T.phase .head offset (T.resize elapsed sendSize)
      (T.client.uploadWindow - 1) running sent (taken ++ [.ok T.initial]))
      (.check (.ok false) (.ok 0)) =
      some (T.phase .fill offset (T.resize elapsed sendSize) (T.client.uploadWindow - 1) running
        sent (taken ++ [.ok T.initial])) := by
    simp [step, phase, start, hlt, stopRequested, hdeadline]
  rw [turn, Machine.run_cons_of_step hfinish, Machine.run_cons_of_step htake,
    Machine.run_cons_of_step hcheck,
    Machine.run_cons_of_step (step_submit hT (by omega) hoffset hsize hroom),
    Machine.run_cons_of_step (step_full (by omega)), Machine.run_nil]
  simp

def sizeAfter (T : Terms) (times : List Int) (size : Int) : Int :=
  times.foldl (fun size elapsed => T.resize elapsed size) size

theorem resize_le (hsize : sendSize ≤ 256 * 1024) (hpos : 1 ≤ sendSize) :
    T.resize elapsed sendSize ≤ 256 * 1024 := by
  have hlimit := T.batchLimit_le
  unfold resize
  split
  · omega
  split <;> omega

theorem sizeAfter_mem (hbatching : T.batching = true) (times : List Int) (hpos : 1 ≤ sendSize)
    (hsize : sendSize ≤ 256 * 1024) :
    1 ≤ T.sizeAfter times sendSize ∧ T.sizeAfter times sendSize ≤ 256 * 1024 := by
  induction times generalizing sendSize with
  | nil => exact ⟨hpos, hsize⟩
  | cons elapsed times ih => exact ih (resize_pos hbatching hpos) (resize_le hsize hpos)

theorem run_turns (hT : T.Unmoved) (times : List Int) (hrunning : running ≠ [])
    (hoffset : 0 ≤ offset) (hpos : 1 ≤ sendSize) (hsize : sendSize ≤ 256 * 1024)
    (hroom : offset + times.length * (256 * 1024) ≤ T.size) :
    ∃ offset' running' sent' taken',
      0 ≤ offset' ∧ offset' ≤ offset + times.length * (256 * 1024) ∧ running' ≠ [] ∧
      T.machine.run (T.phase .take offset sendSize T.client.uploadWindow running sent taken)
          (times.flatMap T.turn) =
        some (T.phase .take offset' (T.sizeAfter times sendSize) T.client.uploadWindow running'
          sent' taken') := by
  induction times generalizing offset sendSize running sent taken with
  | nil => exact ⟨offset, running, sent, taken, hoffset, by simp, hrunning, rfl⟩
  | cons elapsed times ih =>
    obtain ⟨r, rest, rfl⟩ := List.exists_cons_of_ne_nil hrunning
    have hpos' : 1 ≤ T.resize elapsed sendSize := resize_pos hT.batching hpos
    have hsize' : T.resize elapsed sendSize ≤ 256 * 1024 := resize_le hsize hpos
    simp only [List.length_cons, Nat.cast_add, Nat.cast_one] at hroom
    have hturn := @run_turn T _ _ elapsed rest sent taken hT r hoffset hpos' (by omega)
    obtain ⟨offset', running', sent', taken', hlow, hhigh, hne, hrun⟩ :=
      @ih (offset + T.resize elapsed sendSize) (T.resize elapsed sendSize)
        (rest ++ [T.part offset (T.resize elapsed sendSize)])
        (sent ++ [T.part offset (T.resize elapsed sendSize)]) (taken ++ [.ok T.initial])
        (by simp) (by omega) hpos' hsize' (by omega)
    refine ⟨offset', running', sent', taken', hlow, ?_, hne, ?_⟩
    · simp only [List.length_cons, Nat.cast_add, Nat.cast_one]
      omega
    · rw [List.flatMap_cons, Machine.run_append hturn, hrun]
      rfl

theorem run_fill (hT : T.Unmoved) (free : Nat) (hfree : pending + free = T.client.uploadWindow)
    (hoffset : 0 ≤ offset) (hpos : 1 ≤ sendSize) (hroom : offset + free * sendSize ≤ T.size) :
    ∃ running' sent', running'.length = running.length + free ∧
      T.machine.run (T.phase .fill offset sendSize pending running sent taken)
          (List.replicate (free + 1) (.submit (.ok ()) (.ok ()))) =
        some (T.phase .take (offset + free * sendSize) sendSize T.client.uploadWindow running'
          sent' taken) := by
  induction free generalizing offset pending running sent with
  | zero =>
    have hfull : pending = T.client.uploadWindow := by simpa using hfree
    refine ⟨running, sent, rfl, ?_⟩
    rw [List.replicate_succ, List.replicate_zero, Machine.run_cons_of_step (step_full hfull),
      Machine.run_nil, hfull]
    simp
  | succ free ih =>
    have hmore : 0 ≤ (free : Int) * sendSize := Int.mul_nonneg (by omega) (by omega)
    have hsplit : ((free + 1 : Nat) : Int) * sendSize = sendSize + free * sendSize := by
      rw [Nat.cast_add, Nat.cast_one, Int.add_mul, Int.one_mul, Int.add_comm]
    rw [hsplit] at hroom
    obtain ⟨running', sent', hlength, hrun⟩ :=
      @ih (offset + sendSize) (pending + 1) (running ++ [T.part offset sendSize])
        (sent ++ [T.part offset sendSize]) (by omega) (by omega) (by omega)
    refine ⟨running', sent', by simp at hlength; omega, ?_⟩
    rw [List.replicate_succ,
      Machine.run_cons_of_step (step_submit hT (by omega) hoffset hpos (by omega)), hrun, hsplit,
      Int.add_assoc]

theorem start_sendSize_le (hbatching : T.batching = true) : (T.start 0).sendSize ≤ 64 * 1024 := by
  simp only [start, hbatching, if_true]
  exact Int.min_le_left _ _

/-- Behind replies that took these times, there is a request of the size that they lead to. -/
theorem exists_request (hT : T.Unmoved) (hnext : T.nextOffset = 0) (times : List Int)
    (elapsed : Int) (hroom : (times.length + 5) * (256 * 1024) < T.size) :
    ∃ events s, T.machine.run (T.start 0) events = some s ∧ ∃ r ∈ s.sent,
      r.bytes.length = T.sizeAfter (times ++ [elapsed]) (T.start 0).sendSize ∧
      r.stop < T.size := by
  have hwindow := T.window
  have hpos := start_sendSize_pos (T := T) 0
  have hsize := start_sendSize_le hT.batching
  obtain ⟨hpos', hsize'⟩ := sizeAfter_mem hT.batching times hpos (by omega)
  have hpos'' : 1 ≤ T.resize elapsed (T.sizeAfter times (T.start 0).sendSize) :=
    resize_pos hT.batching hpos'
  have hsize'' : T.resize elapsed (T.sizeAfter times (T.start 0).sendSize) ≤ 256 * 1024 :=
    resize_le hsize' hpos'
  have hfilled : (T.client.uploadWindow.toNat : Int) * (T.start 0).sendSize ≤ 4 * (64 * 1024) :=
    Int.mul_le_mul (by omega) hsize (by omega) (by omega)
  have hnonneg : 0 ≤ (T.client.uploadWindow.toNat : Int) * (T.start 0).sendSize :=
    Int.mul_nonneg (by omega) (by omega)
  have hcheck : T.machine.step (T.start 0) (.check (.ok false) (.ok 0)) =
      some (T.phase .fill 0 (T.start 0).sendSize 0 [] [] []) := by
    have hdeadline : ¬ T.deadline ≤ 0 := Int.not_le.2 hT.deadline
    simp [machine, step, phase, start, hnext, hT.nonempty, stopRequested, hdeadline]
  obtain ⟨running, sent, hlength, hfill⟩ :=
    @run_fill T 0 (T.start 0).sendSize 0 [] [] [] hT T.client.uploadWindow.toNat (by omega)
      (by omega) hpos (by omega)
  obtain ⟨offset, running', sent', taken, hlow, hhigh, hne, hturns⟩ :=
    @run_turns T _ (T.start 0).sendSize running sent [] hT times
      (List.ne_nil_of_length_pos (by rw [hlength]; simp; omega)) (by omega) hpos (by omega)
      (by omega)
  obtain ⟨r, rest, rfl⟩ := List.exists_cons_of_ne_nil hne
  have hturn := @run_turn T offset (T.sizeAfter times (T.start 0).sendSize) elapsed rest sent' taken
    hT r hlow hpos'' (by omega)
  rw [Int.zero_add] at hfill
  have hrun := (Machine.run_cons_of_step hcheck _).trans
    ((Machine.run_append hfill _).trans ((Machine.run_append hturns _).trans hturn))
  have hafter : T.sizeAfter (times ++ [elapsed]) (T.start 0).sendSize =
      T.resize elapsed (T.sizeAfter times (T.start 0).sendSize) := by
    simp [sizeAfter]
  have hpart := length_part hT hlow
    (by omega : 0 ≤ T.resize elapsed (T.sizeAfter times (T.start 0).sendSize)) (by omega)
  refine ⟨_, _, hrun, _, List.mem_append_right _ (List.mem_singleton_self _), hafter ▸ hpart, ?_⟩
  change offset + _ < _
  rw [hpart]
  omega

theorem even_of_dvd {c : Int} (hpos : 1 ≤ c) (hne : c ≠ 1) (h : c ∣ 32 * 1024) :
    ∃ d, c = 2 * d := by
  obtain ⟨n, rfl⟩ := Int.eq_ofNat_of_zero_le (by omega : 0 ≤ c)
  have hpow : n ∣ 2 ^ 15 := Int.natCast_dvd_natCast.1 (by simpa using h)
  obtain ⟨k, -, rfl⟩ := (Nat.dvd_prime_pow Nat.prime_two).1 hpow
  cases k with
  | zero => exact absurd rfl hne
  | succ k => exact ⟨2 ^ k, by rw [Nat.pow_succ]; push_cast; rw [Int.mul_comm]⟩

/-- If the sizes are not numbers of chunks throughout, a few replies lead to one that is not. -/
theorem exists_times (hbatching : T.batching = true)
    (hnot : ¬ KeepsChunks T.chunkSize T.batchLimit) :
    ∃ times elapsed, times.length ≤ 3 ∧
      ¬ T.chunkSize ∣ T.sizeAfter (times ++ [elapsed]) (T.start 0).sendSize := by
  have hlimit := T.batchLimit_le
  obtain ⟨m, hm⟩ := chunkSize_dvd_batchLimit
  have hstart : (T.start 0).sendSize = min (64 * 1024) T.batchLimit := by
    simp [start, hbatching]
  simp only [KeepsChunks, not_or, not_and, Int.not_le] at hnot
  obtain ⟨hchunk, hlarge, hnot⟩ := hnot
  by_cases hbase : T.chunkSize ∣ 32 * 1024
  · obtain ⟨d, hd⟩ := even_of_dvd T.chunkSize_mem.1 hchunk hbase
    have hm' : T.batchLimit = 2 * (d * m) := by rw [hm, hd, mul_assoc]
    by_cases hhalf : T.batchLimit ≤ 64 * 1024 ∨ 2 * T.chunkSize ∣ T.batchLimit
    · -- the quarter of the limit cuts a chunk
      obtain ⟨hlt, hquarter⟩ := hnot hbase hhalf
      obtain ⟨k, hk⟩ := hhalf.resolve_left (by omega)
      have hk' : T.batchLimit = 4 * (d * k) := by rw [hk, hd]; ring
      refine ⟨[0, 0, 5000], 5000, by decide, ?_⟩
      have hsize : T.sizeAfter ([0, 0, 5000] ++ [5000]) (T.start 0).sendSize = d * k := by
        simp [sizeAfter, resize, hstart]
        omega
      rw [hsize]
      rintro ⟨j, hj⟩
      exact hquarter ⟨j, by rw [hk', hj]; ring⟩
    · -- the half of the limit cuts a chunk
      simp only [not_or, Int.not_le] at hhalf
      refine ⟨[0, 0], 5000, by decide, ?_⟩
      have hsize : T.sizeAfter ([0, 0] ++ [5000]) (T.start 0).sendSize = d * m := by
        simp [sizeAfter, resize, hstart]
        omega
      rw [hsize]
      rintro ⟨j, hj⟩
      exact hhalf.2 ⟨j, by rw [hm', hj]; ring⟩
  · -- the size is halved to 32 KiB
    refine ⟨[], 5000, by decide, ?_⟩
    have hsize : T.sizeAfter ([] ++ [5000]) (T.start 0).sendSize = 32 * 1024 := by
      simp [sizeAfter, resize, hstart]
      omega
    rw [hsize]
    exact hbase

end Terms

/-! ### An upload for every chunk and limit -/

def emptyReport (chunkSize batchLimit : Nat) : JsonObject :=
  [("stage", .string "receiving"), ("received_bytes", .literal (longText 0)),
    ("next_offset", .literal (longText 0)),
    ("chunk_bytes", .literal (longText chunkSize)),
    ("batch_bytes", .literal (longText batchLimit))]

section Whole

variable {client : CoreUpdateClient} {chunkSize batchLimit : Nat}

theorem long_emptyReport :
    client.long (emptyReport chunkSize batchLimit) "received_bytes" = .ok 0 ∧
      client.long (emptyReport chunkSize batchLimit) "next_offset" = .ok 0 := by
  have hzero : client.longOrNull (longText 0) = some 0 :=
    client.longOrNull_decimal 0 (by decide)
  constructor <;>
    simp [CoreUpdateClient.long, CoreUpdateClient.longOf, emptyReport, JsonObject.getValue,
      JsonObject.get, List.lookup_cons, ofJson, Json.content, hzero]

/-- The whole artifact is to be sent. -/
def wholeTerms (client : CoreUpdateClient) (artifact : List UInt8)
    (hwindow : 1 ≤ client.uploadWindow ∧ client.uploadWindow ≤ 4) (chunkSize batchLimit : Nat)
    (hchunk : 1 ≤ chunkSize ∧ chunkSize ≤ 8 * 1024)
    (hbatch : chunkSize ≤ batchLimit ∧ batchLimit ≤ 256 * 1024 ∧ chunkSize ∣ batchLimit) :
    Terms where
  client := client
  artifact := artifact
  size := 4194304
  initial := emptyReport chunkSize batchLimit
  deadline := 1800000
  nextOffset := 0
  chunkSize := chunkSize
  batchLimit := batchLimit
  durableRanges := []
  window := hwindow
  nextOffset_reported := long_emptyReport.2
  nextOffset_mem := by decide
  chunkSize_mem := by omega
  nextOffset_aligned := .inr (Int.zero_emod _)
  batchLimit_mem := by
    refine .inr ⟨by omega, by omega, ?_⟩
    exact Int.emod_eq_zero_of_dvd (Int.natCast_dvd_natCast.2 hbatch.2.2)
  ascends := rfl

variable {artifact : List UInt8} {hwindow : 1 ≤ client.uploadWindow ∧ client.uploadWindow ≤ 4}
  {hchunk : 1 ≤ chunkSize ∧ chunkSize ≤ 8 * 1024}
  {hbatch : chunkSize ≤ batchLimit ∧ batchLimit ≤ 256 * 1024 ∧ chunkSize ∣ batchLimit}

theorem wholeTerms_unmoved (hlength : artifact.length = 4194304) :
    (wholeTerms client artifact hwindow chunkSize batchLimit hchunk hbatch).Unmoved where
  batching := by
    have hpos : 0 < (batchLimit : Int) := by omega
    exact decide_eq_true hpos
  durableRanges := rfl
  length := by
    change (artifact.length : Int) = 4194304
    rw [hlength]
    rfl
  deadline := Int.natCast_pos.2 (by decide : 0 < 1800000)
  nonempty := Int.natCast_pos.2 (by decide : 0 < 4194304)
  progress := by
    obtain ⟨hreceived, hnext⟩ := @long_emptyReport client chunkSize batchLimit
    have hstage : string (emptyReport chunkSize batchLimit) "stage" = .ok "receiving" := rfl
    simp [Terms.progressOf, wholeTerms, hreceived, hnext, require, hstage]
  newer := by
    obtain ⟨hreceived, hnext⟩ := @long_emptyReport client chunkSize batchLimit
    simp [Terms.isNewer, wholeTerms, hreceived, hnext]

theorem wholeTerms_accepted (hreliable : client.useReliableBatches = true) :
    client.accept artifact 4194304 (emptyReport chunkSize batchLimit) 1800000 =
      .ok (wholeTerms client artifact hwindow chunkSize batchLimit hchunk hbatch) := by
  have hchunk' := client.intOrNull_decimal chunkSize (by omega)
  have hbatch' := client.intOrNull_decimal batchLimit (by omega)
  refine Terms.accepted (T := wholeTerms client artifact hwindow chunkSize batchLimit hchunk hbatch)
    ?_ ?_ rfl (Nat.zero_le _)
  · simp [wholeTerms, CoreUpdateClient.intOf, emptyReport, JsonObject.getValue, JsonObject.get,
      List.lookup_cons, ofJson, Json.content, hchunk']
  · simp [wholeTerms, CoreUpdateClient.batchBytes, hreliable, emptyReport, JsonObject.contentOf,
      JsonObject.get, List.lookup_cons, ofJson, Json.content, hbatch']

theorem exists_misaligned (hreliable : client.useReliableBatches = true)
    (hlength : artifact.length = 4194304) (hnot : ¬ KeepsChunks chunkSize batchLimit) :
    ∃ events s, (wholeTerms client artifact hwindow chunkSize batchLimit hchunk hbatch).Reaches 0
      events s ∧ ∃ r ∈ s.sent,
        ¬ (wholeTerms client artifact hwindow chunkSize batchLimit hchunk hbatch).IsAligned r := by
  have hunmoved : (wholeTerms client artifact hwindow chunkSize batchLimit hchunk hbatch).Unmoved :=
    wholeTerms_unmoved hlength
  obtain ⟨times, elapsed, hshort, hcut⟩ := Terms.exists_times hunmoved.batching hnot
  obtain ⟨events, s, hrun, r, hr, hsize, hstop⟩ :=
    Terms.exists_request hunmoved rfl times elapsed (by
      change _ < (4194304 : Int)
      omega)
  refine ⟨events, s, ⟨wholeTerms_accepted hreliable, hrun⟩, r, hr, ?_⟩
  rintro ⟨-, hdvd | hend⟩
  · rw [hsize] at hdvd
    exact hcut hdvd
  · exact absurd hend (ne_of_lt hstop)

end Whole

/-- A client uploads only whole chunks, whatever artifact, offset and ranges it is given and however
long the replies take, exactly if the sizes it can come to are numbers of chunks. -/
theorem upload_aligned_iff {client : CoreUpdateClient}
    (hwindow : 1 ≤ client.uploadWindow ∧ client.uploadWindow ≤ 4)
    {chunkSize batchLimit : Int} (hchunk : 1 ≤ chunkSize ∧ chunkSize ≤ 8 * 1024)
    (hbatch : batchLimit = 0 ∨ (client.useReliableBatches = true ∧ chunkSize ≤ batchLimit ∧
      batchLimit ≤ 256 * 1024 ∧ batchLimit % chunkSize = 0)) :
    (∀ T : Terms, T.client = client → T.chunkSize = chunkSize → T.batchLimit = batchLimit →
      ∀ now events s, T.Reaches now events s → ∀ r ∈ s.sent, T.IsAligned r) ↔
      KeepsChunks chunkSize batchLimit := by
  constructor
  · intro h
    by_contra hnot
    rcases hbatch with rfl | ⟨hreliable, hle, hmax, hmod⟩
    · exact hnot (.inr (.inl (by decide)))
    obtain ⟨c, rfl⟩ := Int.eq_ofNat_of_zero_le (by omega : 0 ≤ chunkSize)
    obtain ⟨b, rfl⟩ := Int.eq_ofNat_of_zero_le (by omega : 0 ≤ batchLimit)
    have hdvd : c ∣ b := Int.natCast_dvd_natCast.1 (Int.dvd_of_emod_eq_zero hmod)
    obtain ⟨events, s, hreaches, r, hr, hcut⟩ :=
      @exists_misaligned client c b (List.replicate 4194304 0) hwindow (by omega)
        ⟨by omega, by omega, hdvd⟩ hreliable List.length_replicate hnot
    exact hcut (h _ rfl rfl rfl 0 events s hreaches r hr)
  · rintro hkeeps T rfl rfl rfl now events s hreaches r hr
    exact hreaches.isAligned hkeeps hr

theorem upload_aligned_iff_phone :
    KeepsChunks 8192 65536 ∧ ∀ T : Terms, T.client = phoneClient 2 true → T.chunkSize = 8192 →
      T.batchLimit = 65536 → ∀ now events s, T.Reaches now events s →
        ∀ r ∈ s.sent, T.IsAligned r := by
  have hkeeps : KeepsChunks 8192 65536 := by
    unfold KeepsChunks
    decide
  exact ⟨hkeeps, (upload_aligned_iff (by decide) (by decide) (.inr (by decide))).2 hkeeps⟩

/-- Chunks of 8 KiB and batches of at most nine of them: the half of nine is not a number of
chunks. -/
theorem upload_cuts_chunk : ¬ ∀ (T : Terms) now events s, T.Reaches now events s →
    ∀ r ∈ s.sent, T.IsAligned r := by
  intro h
  have hnot : ¬ KeepsChunks (8192 : Nat) (73728 : Nat) := by
    unfold KeepsChunks
    decide
  obtain ⟨events, s, hreaches, r, hr, hcut⟩ :=
    @exists_misaligned (phoneClient 1 true) 8192 73728 (List.replicate 4194304 0) (by decide)
      (by decide) (by decide) rfl List.length_replicate hnot
  exact hcut (h _ 0 events s hreaches r hr)

end LibreRoute.Update
