import LibreRoute.Update.StreamWindow
import Mathlib

/-!
What a stream sends, and when it ends.

The frames are laid one behind the other between the ranges the server has
confirmed (`Lib.Filled`), each of them at a chunk, and numbered from one on.
`upload` returns when the server confirms the last frame and all of the
artifact, and until then what it reports never falls back.
-/

namespace LibreRoute.Update

open Lib DurableRange
open Admin (Throwable)

def DataFrame.range (f : DataFrame) : Set Int := Set.Ico f.offset f.stop

namespace StreamTerms

variable {T : StreamTerms} {s t : StreamState} {status : JsonObject} {offset ackSequence : Int}
  {control : StreamControl} {sent : List DataFrame}

theorem ascends_ranges (T : StreamTerms) : Ascends first second T.ranges T.size where
  proper r _ := r.first_lt
  limited r _ := r.second_le
  apart := Terms.pairwise_of_ascending T.ascends

/-- The reported offset lies in the artifact, at its end or at a chunk. -/
theorem nextOffset_mem (T : StreamTerms) : (0 ≤ T.nextOffset ∧ T.nextOffset ≤ T.size) ∧
    (T.nextOffset = T.size ∨ T.nextOffset % T.chunkBytes = 0) := by
  obtain ⟨received, next, hprogress⟩ := progress_of_valid T.valid
  obtain rfl : next = T.nextOffset :=
    Except.ok.inj (hprogress.next_offset.symm.trans T.next_reported)
  have hreceived := hprogress.received_mem
  have hnext := hprogress.next_mem
  exact ⟨by omega, hprogress.aligned⟩

/-- The frames and the confirmed ranges fill everything from the reported offset to `position`. -/
def FilledTo (T : StreamTerms) (position : Int) (sent : List DataFrame) : Prop :=
  Filled DurableRange.first DurableRange.second DataFrame.offset DataFrame.stop T.ranges
    T.nextOffset position sent

/-- An offset is the end of the artifact, or at a chunk. -/
def Aligned (T : StreamTerms) (offset : Int) : Prop := offset = T.size ∨ offset % T.chunkBytes = 0

theorem aligned_skip (h : T.Aligned offset) : T.Aligned (T.skip offset) := by
  rcases skipSpan_cases first second T.ranges offset with
    ⟨heq, -⟩ | ⟨r, -, -, -, heq⟩
  · rwa [skip, heq]
  · rw [skip, heq]
    exact r.second_aligned

theorem aligned_rangeEnd (offset : Int) : T.Aligned (T.rangeEnd offset) := by
  rcases nextSpan_cases T.ascends_ranges offset with ⟨heq, -⟩ | ⟨r, -, -, heq, -⟩
  · exact .inl heq
  · exact .inr (by rw [rangeEnd, heq]; exact r.first_aligned)

theorem aligned_add (h : offset % T.chunkBytes = 0) :
    T.Aligned (offset + min T.frameBytes (T.rangeEnd offset - offset)) := by
  rcases Int.le_total T.frameBytes (T.rangeEnd offset - offset) with hle | hle
  · rw [Int.min_eq_left hle]
    exact .inr (by rw [Int.add_emod, h, T.frame_aligned]; simp)
  · rw [Int.min_eq_right hle, Int.add_comm, Int.sub_add_cancel]
    exact aligned_rangeEnd offset

/-! ### The frames that were sent -/

/-- The frame that comes next is the one that is missing at the offset. -/
structure Located (T : StreamTerms) (offset count : Int) : Prop where
  missing : ¬ Within DurableRange.first DurableRange.second T.ranges offset
  chunk : offset % T.chunkBytes = 0
  fits : count = min T.frameBytes (T.rangeEnd offset - offset)
  pos : 0 < count

structure Sending (T : StreamTerms) (s : StreamState) : Prop where
  numbered : s.sequence = s.sent.length ∧
    ∀ (i : Nat) (f : DataFrame), s.sent[i]? = some f → f.sequence = i + 1 ∧ f.epoch = T.epoch
  chunks : ∀ f ∈ s.sent, f.offset % T.chunkBytes = 0
  filled : ∃ position, position ≤ T.size ∧ T.FilledTo position s.sent ∧
    ((∀ e, s.control ≠ .thrown e) → s.offset = position ∧ T.Aligned position)
  located : ∀ count, s.control = .room count → T.Located s.offset count
  complete : s.control = .finish ∨ s.finished.isSome = true → T.FilledTo T.size s.sent
  closed : s.finished.isSome = true → s.finished = some s.sequence ∧ s.control ≠ .head ∧
    s.control ≠ .drain ∧ (∀ count, s.control ≠ .room count) ∧ s.control ≠ .finish
  awaiting : s.control = .await ∨ (∃ status, s.control = .returned status) →
    s.finished.isSome = true

theorem sending_start (now : Int) : T.Sending (T.start now) where
  numbered := ⟨rfl, by simp [start]⟩
  chunks := by simp [start]
  filled := ⟨T.nextOffset, T.nextOffset_mem.1.2, filled_nil _ _, fun _ =>
    ⟨rfl, T.nextOffset_mem.2⟩⟩
  located := by simp [start]
  complete := by simp [start]
  closed := by simp [start]
  awaiting := by simp [start]

theorem Sending.of_eq (h : T.Sending s) (hsequence : t.sequence = s.sequence)
    (hsent : t.sent = s.sent) (hoffset : t.offset = s.offset) (hfinished : t.finished = s.finished)
    (hcontrol : t.control = s.control ∨ (∃ e, t.control = .thrown e) ∨
      s.control = .await ∧ ∃ status, t.control = .returned status) : T.Sending t := by
  obtain ⟨position, hposition, hfilled, hat⟩ := h.filled
  have hsame : (∀ e, t.control ≠ .thrown e) → ∀ e, s.control ≠ .thrown e := by
    intro hrunning e heq
    rcases hcontrol with hsame | ⟨e', he'⟩ | ⟨hawait, -⟩
    · exact hrunning e (hsame.trans heq)
    · exact hrunning e' he'
    · rw [hawait] at heq
      simp at heq
  refine ⟨?_, ?_, ⟨position, hposition, ?_, fun hrunning => ?_⟩, ?_, ?_, ?_, ?_⟩
  · rw [hsequence, hsent]
    exact h.numbered
  · rw [hsent]
    exact h.chunks
  · rw [hsent]
    exact hfilled
  · rw [hoffset]
    exact hat (hsame hrunning)
  · intro count hroom
    rcases hcontrol with hsame | ⟨e, he⟩ | ⟨-, status, hstatus⟩
    · rw [hoffset]
      exact h.located count (hsame.symm.trans hroom)
    · simp [he] at hroom
    · simp [hstatus] at hroom
  · intro hend
    rw [hsent]
    rw [hfinished] at hend
    rcases hend with hfinish | hfinished
    · rcases hcontrol with hsame | ⟨e, he⟩ | ⟨-, status, hstatus⟩
      · exact h.complete (.inl (hsame.symm.trans hfinish))
      · simp [he] at hfinish
      · simp [hstatus] at hfinish
    · exact h.complete (.inr hfinished)
  · intro hend
    rw [hfinished] at hend ⊢
    rw [hsequence]
    rcases hcontrol with hsame | ⟨e, he⟩ | ⟨-, status, hstatus⟩
    · rw [hsame]
      exact h.closed hend
    · simp [he, (h.closed hend).1]
    · simp [hstatus, (h.closed hend).1]
  · intro hawait
    rw [hfinished]
    rcases hcontrol with hsame | ⟨e, he⟩ | ⟨hbefore, -⟩
    · rw [hsame] at hawait
      exact h.awaiting hawait
    · simp [he] at hawait
    · exact h.awaiting (.inl hbefore)

theorem Sending.launch (h : T.Sending s) {count : Int} {bytes : List UInt8}
    (hcontrol : s.control = .room count) (hlength : bytes.length = count)
    (hnext : control = .head ∧ offset = s.offset + count ∨ ∃ e, control = .thrown e) :
    T.Sending { T.launch s count bytes with control := control, offset := offset } := by
  obtain ⟨position, hposition, hfilled, hat⟩ := h.filled
  obtain ⟨rfl, haligned⟩ := hat (by simp [hcontrol])
  have hlocated := h.located count hcontrol
  have hpos := hlocated.pos
  have hcount := hlocated.fits
  have hend := nextSpan_le T.ascends_ranges s.offset
  have hstop : (⟨T.epoch, s.sequence + 1, s.offset, bytes⟩ : DataFrame).stop =
      s.offset + count := by
    rw [DataFrame.stop, hlength]
  have hbefore : s.offset + count ≤ T.rangeEnd s.offset := by omega
  have hmore : T.FilledTo (s.offset + count)
      (s.sent ++ [⟨T.epoch, s.sequence + 1, s.offset, bytes⟩]) := by
    rw [← hstop]
    exact hfilled.add T.ascends_ranges hlocated.missing rfl (by rw [hstop]; simpa using hpos)
      (by rw [hstop]; exact hbefore)
  have hopen : s.finished.isSome = true → False := fun hfinished =>
    (h.closed hfinished).2.2.2.1 count hcontrol
  refine ⟨⟨?_, ?_⟩, ?_, ⟨s.offset + count, ?_, hmore, ?_⟩, ?_, ?_, ?_, ?_⟩
  · change s.sequence + 1 = ((s.sent ++ [_]).length : Int)
    rw [List.length_append, h.numbered.1]
    rfl
  · intro i f hf
    change (s.sent ++ [_])[i]? = some f at hf
    rcases Nat.lt_trichotomy i s.sent.length with hlt | heq | hgt
    · rw [List.getElem?_append_left hlt] at hf
      exact h.numbered.2 i f hf
    · subst heq
      rw [List.getElem?_concat_length] at hf
      obtain rfl := Option.some.inj hf
      exact ⟨by rw [h.numbered.1], rfl⟩
    · rw [List.getElem?_eq_none (by simp; omega)] at hf
      simp at hf
  · intro f hf
    rcases List.mem_append.1 hf with hf | hf
    · exact h.chunks f hf
    · rw [List.mem_singleton.1 hf]
      exact hlocated.chunk
  · exact Int.le_trans hbefore hend
  · intro hrunning
    rcases hnext with ⟨-, rfl⟩ | ⟨e, he⟩
    · refine ⟨rfl, ?_⟩
      rw [hcount]
      exact aligned_add hlocated.chunk
    · exact absurd he (hrunning e)
  · intro count' hroom
    rcases hnext with ⟨hhead, -⟩ | ⟨e, he⟩
    · simp [hhead] at hroom
    · simp [he] at hroom
  · intro hended
    rcases hended with hfinish | hfinished
    · rcases hnext with ⟨hhead, -⟩ | ⟨e, he⟩
      · simp [hhead] at hfinish
      · simp [he] at hfinish
    · exact (hopen hfinished).elim
  · intro hfinished
    exact (hopen hfinished).elim
  · intro hawait
    rcases hnext with ⟨hhead, -⟩ | ⟨e, he⟩
    · simp [hhead] at hawait
    · simp [he] at hawait

theorem Sending.advance (h : T.Sending s) (hopen : s.finished = none)
    (hfilled : T.FilledTo offset s.sent) (hle : offset ≤ T.size) (haligned : T.Aligned offset)
    (hlocated : ∀ count, control = .room count → T.Located offset count)
    (hfinish : control = .finish → offset = T.size)
    (hawait : ¬ (control = .await ∨ ∃ status, control = .returned status)) :
    T.Sending { s with control := control, offset := offset } where
  numbered := h.numbered
  chunks := h.chunks
  filled := ⟨offset, hle, hfilled, fun _ => ⟨rfl, haligned⟩⟩
  located := hlocated
  complete hended := by
    rcases hended with hcontrol | hfinished
    · exact hfinish hcontrol ▸ hfilled
    · simp [hopen] at hfinished
  closed hfinished := by simp [hopen] at hfinished
  awaiting hcontrol := absurd hcontrol hawait

theorem Sending.open_of_control (h : T.Sending s)
    (hcontrol : s.control = .head ∨ s.control = .drain ∨ s.control = .finish) :
    s.finished = none := by
  rcases hfinished : s.finished with _ | sequence
  · rfl
  · obtain ⟨-, hhead, hdrain, -, hfinish⟩ := h.closed (by simp [hfinished])
    rcases hcontrol with hcontrol | hcontrol | hcontrol
    · exact absurd hcontrol hhead
    · exact absurd hcontrol hdrain
    · exact absurd hcontrol hfinish

theorem Sending.finish (h : T.Sending s) (hcontrol : s.control = .finish)
    (hnext : control = .await ∨ ∃ e, control = .thrown e) :
    T.Sending { s with finished := some s.sequence, control := control } where
  numbered := h.numbered
  chunks := h.chunks
  filled := by
    obtain ⟨position, hposition, hfilled, hat⟩ := h.filled
    exact ⟨position, hposition, hfilled, fun _ => hat (by simp [hcontrol])⟩
  located count hroom := by
    rcases hnext with hawait | ⟨e, he⟩
    · simp [hawait] at hroom
    · simp [he] at hroom
  complete _ := h.complete (.inl hcontrol)
  closed _ := by
    rcases hnext with rfl | ⟨e, rfl⟩ <;> simp
  awaiting _ := rfl

theorem Moves.sending (h : T.Moves s t) (hs : T.Sending s) : T.Sending t := by
  obtain ⟨position, hposition, hfilled, hat⟩ := hs.filled
  cases h with
  | entered hcontrol hlt =>
    obtain ⟨rfl, haligned⟩ := hat (by simp [hcontrol])
    exact hs.advance (hs.open_of_control (.inl hcontrol)) hfilled hposition haligned (by simp)
      (by simp) (by simp)
  | ended hcontrol hle =>
    obtain ⟨rfl, haligned⟩ := hat (by simp [hcontrol])
    exact hs.advance (hs.open_of_control (.inl hcontrol)) hfilled hposition haligned (by simp)
      (fun _ => Int.le_antisymm hposition hle) (by simp)
  | skipped hcontrol hend =>
    obtain ⟨rfl, haligned⟩ := hat (by simp [hcontrol])
    exact hs.advance (hs.open_of_control (.inr (.inl hcontrol))) hfilled.skip
      (Int.le_of_eq hend) (aligned_skip haligned) (by simp) (fun _ => hend) (by simp)
  | located hcontrol hend =>
    obtain ⟨rfl, haligned⟩ := hat (by simp [hcontrol])
    have hle := skipSpan_le T.ascends_ranges hposition
    have hlt : T.skip s.offset < T.size := Int.lt_iff_le_and_ne.2 ⟨hle, hend⟩
    refine hs.advance (hs.open_of_control (.inr (.inl hcontrol))) hfilled.skip hle
      (aligned_skip haligned) (fun count hcount => ?_) (by simp) (by simp)
    have hbeyond := lt_nextSpan T.ascends_ranges hlt
    have hframe := T.frame_mem
    have hchunk := T.chunk
    rw [← StreamControl.room.inj hcount]
    exact
      { missing := not_within_skipSpan T.ascends_ranges s.offset
        chunk := (aligned_skip haligned).resolve_left hend
        fits := rfl
        pos := Int.lt_min.2 ⟨by omega, Int.sub_pos.2 hbeyond⟩ }
  | thrown e => exact hs.of_eq rfl rfl rfl rfl (.inr (.inl ⟨e, rfl⟩))
  | idle => exact hs
  | accepted haccepts =>
    obtain ⟨-, -, checkpointAt⟩ := haccepts
    exact hs.of_eq rfl rfl rfl rfl (.inl rfl)
  | failed e haccepts =>
    obtain ⟨-, -, checkpointAt⟩ := haccepts
    exact hs.of_eq rfl rfl rfl rfl (.inr (.inl ⟨e, rfl⟩))
  | returned hcontrol _ _ _ =>
    exact hs.of_eq rfl rfl rfl rfl (.inr (.inr ⟨hcontrol, _, rfl⟩))
  | launched hcontrol _ hlength => exact hs.launch hcontrol hlength (.inl ⟨rfl, rfl⟩)
  | lost e hcontrol _ hlength => exact hs.launch hcontrol hlength (.inr ⟨e, rfl⟩)
  | closed hcontrol => exact hs.finish hcontrol (.inl rfl)
  | broken e hcontrol => exact hs.finish hcontrol (.inr ⟨e, rfl⟩)

/-! ### What the server reports -/

/-- A status reports at least what another one does. -/
def NoLess (T : StreamTerms) (before after : JsonObject) : Prop :=
  ∃ received next received' next',
    T.client.long before "received_bytes" = .ok received ∧
    T.client.long before "next_offset" = .ok next ∧
    T.client.long after "received_bytes" = .ok received' ∧
    T.client.long after "next_offset" = .ok next' ∧ received ≤ received' ∧ next ≤ next'

theorem NoLess.refl (h : validateStatus T.client T.plan T.size T.chunkBytes status = .ok ()) :
    T.NoLess status status := by
  obtain ⟨received, next, hprogress⟩ := progress_of_valid h
  exact ⟨received, next, received, next, hprogress.received_bytes, hprogress.next_offset,
    hprogress.received_bytes, hprogress.next_offset, Int.le_refl _, Int.le_refl _⟩

theorem NoLess.trans {a b c : JsonObject} (hab : T.NoLess a b) (hbc : T.NoLess b c) :
    T.NoLess a c := by
  obtain ⟨ra, na, rb, nb, hra, hna, hrb, hnb, hreceived, hnext⟩ := hab
  obtain ⟨rb', nb', rc, nc, hrb', hnb', hrc, hnc, hreceived', hnext'⟩ := hbc
  obtain rfl : rb = rb' := Except.ok.inj (hrb.symm.trans hrb')
  obtain rfl : nb = nb' := Except.ok.inj (hnb.symm.trans hnb')
  exact ⟨ra, na, rc, nc, hra, hna, hrc, hnc, Int.le_trans hreceived hreceived',
    Int.le_trans hnext hnext'⟩

theorem Acknowledged.noLess (h : Acknowledged T s status ackSequence)
    (hs : validateStatus T.client T.plan T.size T.chunkBytes s.state = .ok ()) :
    T.NoLess s.state status := by
  obtain ⟨received, next, hbefore⟩ := progress_of_valid hs
  obtain ⟨received', next', hafter⟩ := progress_of_valid h.valid
  obtain ⟨hreceived, hnext⟩ := h.progress _ _ _ _ hbefore hafter
  exact ⟨received, next, received', next', hbefore.received_bytes, hbefore.next_offset,
    hafter.received_bytes, hafter.next_offset, hreceived, hnext⟩

/-- The status is that of the end of the stream, and confirms all that was sent. -/
structure Complete (T : StreamTerms) (s : StreamState) (status : JsonObject) : Prop where
  done : (FrameKind.done, status) ∈ s.accepted
  epoch : T.client.long status "epoch" = .ok T.epoch
  sequence : T.client.long status "sequence" = .ok s.sequence
  received : T.client.long status "received_bytes" = .ok T.size
  next : T.client.long status "next_offset" = .ok T.size

structure Reporting (T : StreamTerms) (s : StreamState) : Prop where
  valid : validateStatus T.client T.plan T.size T.chunkBytes s.state = .ok ()
  latest : ∀ status ∈ T.ready :: s.accepted.map Prod.snd, T.NoLess status s.state
  forward : (T.ready :: s.accepted.map Prod.snd).Pairwise T.NoLess
  complete : ∀ status, s.control = .returned status → T.Complete s status

theorem reporting_start (now : Int) : T.Reporting (T.start now) where
  valid := T.valid
  latest := by
    intro status hstatus
    rw [List.mem_singleton.1 hstatus]
    exact NoLess.refl T.valid
  forward := List.pairwise_singleton _ _
  complete := by simp [start]

theorem Reporting.of_control (h : T.Reporting s) (hstate : t.state = s.state)
    (haccepted : t.accepted = s.accepted) (hcontrol : ∀ status, t.control ≠ .returned status) :
    T.Reporting t where
  valid := by
    rw [hstate]
    exact h.valid
  latest := by
    rw [hstate, haccepted]
    exact h.latest
  forward := by
    rw [haccepted]
    exact h.forward
  complete status hstatus := absurd hstatus (hcontrol status)

theorem Reporting.confirm (h : T.Reporting s) {kind : FrameKind} {checkpointAt : Int}
    (hack : T.acknowledged s kind status = .ok ackSequence)
    (hcomplete : ∀ status', control = .returned status' →
      T.Complete (confirm s kind status ackSequence) status') :
    T.Reporting { confirm s kind status ackSequence with
      checkpointAt := checkpointAt
      control := control } := by
  have hacknowledged := acknowledged_of_ok hack
  have hnoLess := hacknowledged.noLess h.valid
  have hlist : T.ready :: (s.accepted ++ [(kind, status)]).map Prod.snd =
      (T.ready :: s.accepted.map Prod.snd) ++ [status] := by simp
  refine ⟨hacknowledged.valid, ?_, ?_, fun status' hstatus' => ?_⟩
  · intro earlier hearlier
    change earlier ∈ T.ready :: (s.accepted ++ [(kind, status)]).map Prod.snd at hearlier
    rw [hlist] at hearlier
    rcases List.mem_append.1 hearlier with hearlier | hnew
    · exact (h.latest earlier hearlier).trans hnoLess
    · rw [List.mem_singleton.1 hnew]
      exact NoLess.refl hacknowledged.valid
  · change (T.ready :: (s.accepted ++ [(kind, status)]).map Prod.snd).Pairwise T.NoLess
    rw [hlist, List.pairwise_append]
    refine ⟨h.forward, List.pairwise_singleton _ _, fun earlier hearlier later hlater => ?_⟩
    rw [List.mem_singleton.1 hlater]
    exact (h.latest earlier hearlier).trans hnoLess
  · obtain ⟨hdone, hepoch, hsequence, hreceived, hnext⟩ := hcomplete status' hstatus'
    exact ⟨hdone, hepoch, hsequence, hreceived, hnext⟩

theorem Complete.confirm (h : T.Complete s status) (kind : FrameKind) (later : JsonObject)
    (ackSequence : Int) : T.Complete (confirm s kind later ackSequence) status :=
  ⟨List.mem_append_left _ h.done, h.epoch, h.sequence, h.received, h.next⟩

theorem complete_of_isComplete (hack : T.acknowledged s .done status = .ok ackSequence)
    (h : T.isComplete (confirm s .done status ackSequence) = true) :
    T.Complete (confirm s .done status ackSequence) status := by
  have hacknowledged := acknowledged_of_ok hack
  simp only [isComplete, Bool.and_eq_true, beq_iff_eq, decide_eq_true_eq] at h
  obtain ⟨⟨⟨hsequence, -⟩, hreceived⟩, hnext⟩ := h
  refine ⟨List.mem_append_right _ (List.mem_singleton_self _), hacknowledged.epoch, ?_, hreceived,
    hnext⟩
  rw [hacknowledged.sequence]
  exact congrArg _ hsequence

theorem Moves.reporting (h : T.Moves s t) (hs : T.Reporting s) : T.Reporting t := by
  cases h with
  | entered _ _ => exact hs.of_control rfl rfl (by simp)
  | ended _ _ => exact hs.of_control rfl rfl (by simp)
  | skipped _ _ => exact hs.of_control rfl rfl (by simp)
  | located _ _ => exact hs.of_control rfl rfl (by simp)
  | thrown e => exact hs.of_control rfl rfl (by simp)
  | idle => exact hs
  | accepted haccepts =>
    obtain ⟨-, hack, checkpointAt⟩ := haccepts
    exact hs.confirm hack fun status hstatus => (hs.complete status hstatus).confirm _ _ _
  | failed e haccepts =>
    obtain ⟨-, hack, checkpointAt⟩ := haccepts
    exact hs.confirm hack (by simp)
  | returned _ hack _ hcomplete =>
    refine hs.confirm hack fun status hstatus => ?_
    rw [← StreamControl.returned.inj hstatus]
    exact complete_of_isComplete hack hcomplete
  | launched _ _ _ => exact hs.of_control rfl rfl (by simp)
  | lost e _ _ _ => exact hs.of_control rfl rfl (by simp)
  | closed _ => exact hs.of_control rfl rfl (by simp)
  | broken e _ => exact hs.of_control rfl rfl (by simp)

/-! ### The artifact -/

/-- What the server had when it opened the stream. -/
def confirmed (T : StreamTerms) : Set Int :=
  Set.Ico 0 T.nextOffset ∪ ⋃ r ∈ T.ranges, r.range

theorem mem_confirmed {x : Int} : x ∈ T.confirmed ↔
    0 ≤ x ∧ x < T.nextOffset ∨ Within first second T.ranges x := by
  simp only [confirmed, Within, range, Set.mem_union, Set.mem_Ico, Set.mem_iUnion, exists_prop]

theorem FilledTo.disjoint {position : Int} (h : T.FilledTo position sent) :
    sent.Pairwise fun f g => Disjoint f.range g.range := by
  refine h.apart.imp fun {f g} hapart => Set.disjoint_left.2 ?_
  rintro x ⟨-, hx⟩ ⟨hx', -⟩
  omega

theorem FilledTo.disjoint_confirmed {position : Int} (h : T.FilledTo position sent) {f : DataFrame}
    (hf : f ∈ sent) : Disjoint f.range T.confirmed := by
  refine Set.disjoint_left.2 ?_
  rintro x ⟨hle, hlt⟩ hmem
  rcases mem_confirmed.1 hmem with ⟨-, hbefore⟩ | hwithin
  · have hbetween := h.between f hf
    omega
  · exact h.outside f hf x hle hlt hwithin

theorem FilledTo.union_eq (h : T.FilledTo T.size sent) :
    (⋃ f ∈ sent, f.range) ∪ T.confirmed = Set.Ico 0 T.size := by
  have hnext := T.nextOffset_mem.1
  ext x
  rw [Set.mem_union, mem_confirmed]
  simp only [Set.mem_iUnion, exists_prop, DataFrame.range, Set.mem_Ico]
  constructor
  · rintro (⟨f, hf, hle, hlt⟩ | ⟨hle, hlt⟩ | ⟨r, hr, hle, hlt⟩)
    · have hbetween := h.between f hf
      omega
    · omega
    · have hfirst := r.first_nonneg
      have hsecond := r.second_le
      omega
  · rintro ⟨hle, hlt⟩
    by_cases hx : x < T.nextOffset
    · exact .inr (.inl ⟨hle, hx⟩)
    · rcases h.covered x (Int.not_lt.1 hx) hlt with hwithin | hpiece
      · exact .inr (.inr hwithin)
      · exact .inl hpiece

/-- Wherever a stream gets, its frames are numbered from one on, begin at chunks, and repeat
neither each other nor what the server had. When the end is to be written they make up the
artifact. It returns only with the status of an end that confirms the last frame and all of the
artifact, and no accepted status reports less than one before it. -/
theorem stream_coverage (T : StreamTerms) (now : Int) (events : List StreamEvent)
    (s : StreamState) (h : T.Reaches now events s) :
    (∀ (i : Nat) (f : DataFrame), s.sent[i]? = some f → f.sequence = i + 1) ∧
      (∀ f ∈ s.sent, f.offset % T.chunkBytes = 0) ∧
      s.sent.Pairwise (fun f g => Disjoint f.range g.range) ∧
      (∀ f ∈ s.sent, Disjoint f.range T.confirmed) ∧
      (s.control = .finish ∨ s.finished.isSome = true →
        (⋃ f ∈ s.sent, f.range) ∪ T.confirmed = Set.Ico 0 T.size) ∧
      (∀ status, s.control = .returned status →
        s.finished = some s.sequence ∧ s.sequence = s.sent.length ∧
        (FrameKind.done, status) ∈ s.accepted ∧
        T.client.long status "epoch" = .ok T.epoch ∧
        T.client.long status "sequence" = .ok s.sequence ∧
        T.client.long status "received_bytes" = .ok T.size ∧
        T.client.long status "next_offset" = .ok T.size) ∧
      (T.ready :: s.accepted.map Prod.snd).Pairwise T.NoLess := by
  have hsending : T.Sending s := h.invariant (sending_start now) fun _ _ hmoves => hmoves.sending
  have hreporting : T.Reporting s :=
    h.invariant (reporting_start now) fun _ _ hmoves => hmoves.reporting
  obtain ⟨position, -, hfilled, -⟩ := hsending.filled
  refine ⟨fun i f hf => (hsending.numbered.2 i f hf).1, hsending.chunks, hfilled.disjoint,
    fun f hf => hfilled.disjoint_confirmed hf, fun hended => (hsending.complete hended).union_eq,
    fun status hstatus => ?_, hreporting.forward⟩
  have hfinished := hsending.awaiting (.inr ⟨status, hstatus⟩)
  have hcomplete := hreporting.complete status hstatus
  exact ⟨(hsending.closed hfinished).1, hsending.numbered.1, hcomplete.done, hcomplete.epoch,
    hcomplete.sequence, hcomplete.received, hcomplete.next⟩

end StreamTerms

theorem stream_coverage_core : coreStream.client.acceptStream coreParse core corePlan 1800000
      coreChallenge coreReady = .ok coreStream ∧
    ∃ s, coreStream.Reaches 0 (coreFrames ++ [coreConfirmation]) s ∧
      s.control = .returned coreDone ∧ s.sent.length = 2 ∧
      (⋃ f ∈ s.sent, f.range) ∪ coreStream.confirmed = Set.Ico 0 16389 := by
  obtain ⟨s, hreaches, hcontrol, hsent, hfinished⟩ := coreStream_returns
  obtain ⟨-, -, -, -, hcovered, -, -⟩ := StreamTerms.stream_coverage _ _ _ s hreaches
  exact ⟨coreStream_accepted, s, hreaches, hcontrol, congrArg List.length hsent,
    hcovered (.inr (by rw [hfinished]; rfl))⟩

end LibreRoute.Update
