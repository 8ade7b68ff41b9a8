import LibreRoute.Update.Upload
import Mathlib

/-!
What an upload sends, in whatever order its requests are completed.

Together with the durable ranges the requests fill the space between the
offset that the server reported and that of the upload (`Sent`). The pool
holds as many as the upload counts, and never more than the window allows
(`Queues`). A failure ends the sending, and `upload` ends when the pool is
empty.
-/

namespace LibreRoute.Update

open Lib DurableRange
open Admin (Throwable)

def Request.range (r : Request) : Set Int := Set.Ico r.offset r.stop

def DurableRange.range {size chunkSize : Int} (r : DurableRange size chunkSize) : Set Int :=
  Set.Ico r.first r.second

/-- The upload has failed, or is about to. -/
def UploadState.Failed (s : UploadState) : Prop :=
  s.failure ≠ none ∨ ∃ e, s.control = .leaving (.error e) ∨ s.control = .returned (.error e)

namespace Terms

variable {T : Terms} {s t : UploadState} {event : UploadEvent} {reply : Except Throwable JsonObject}
  {elapsed : Int}

theorem result_eq_ok {state : JsonObject} (h : T.result s = .ok state) :
    s.failure = none ∧ s.state = state ∧
      T.client.long state "next_offset" = .ok T.size ∧
      T.client.long state "received_bytes" = .ok T.size := by
  unfold result at h
  rcases hfailure : s.failure with _ | e
  · simp only [hfailure] at h
    obtain ⟨next, hnext, h⟩ := bind_eq_ok.1 h
    obtain ⟨_, hsize, h⟩ := bind_eq_ok.1 h
    obtain ⟨received, hreceived, h⟩ := bind_eq_ok.1 h
    obtain ⟨_, hsize', h⟩ := bind_eq_ok.1 h
    obtain rfl : s.state = state := Except.ok.inj h
    simp only [require_eq_ok, beq_iff_eq] at hsize hsize'
    exact ⟨rfl, rfl, hsize ▸ hnext, hsize' ▸ hreceived⟩
  · simp [hfailure] at h

/-! ### What has been sent -/

/-- The requests sent so far are what was missing up to the offset. -/
structure Sent (T : Terms) (s : UploadState) : Prop where
  offset : T.nextOffset ≤ s.offset ∧ s.offset ≤ T.size
  sendSize : 1 ≤ s.sendSize
  within : ∀ r ∈ s.sent, T.nextOffset ≤ r.offset ∧ r.offset < r.stop ∧ r.stop ≤ s.offset
  apart : s.sent.Pairwise fun a b => a.stop ≤ b.offset
  missing : ∀ r ∈ s.sent, ∀ x, r.offset ≤ x → x < r.stop → ¬ T.Durable x
  covered : ∀ x, T.nextOffset ≤ x → x < s.offset →
    T.Durable x ∨ ∃ r ∈ s.sent, r.offset ≤ x ∧ x < r.stop

theorem sent_start (now : Int) : T.Sent (T.start now) where
  offset := ⟨Int.le_refl _, T.nextOffset_mem.2⟩
  sendSize := start_sendSize_pos now
  within := nofun
  apart := .nil
  missing := nofun
  covered := by
    intro x hle hlt
    exact absurd hlt (Int.not_lt.2 hle)

theorem Sent.of_eq (h : T.Sent s) (hoffset : t.offset = s.offset) (hsize : 1 ≤ t.sendSize)
    (hsent : t.sent = s.sent) : T.Sent t where
  offset := by rw [hoffset]; exact h.offset
  sendSize := hsize
  within := by rw [hoffset, hsent]; exact h.within
  apart := by rw [hsent]; exact h.apart
  missing := by rw [hsent]; exact h.missing
  covered := by rw [hoffset, hsent]; exact h.covered

theorem Sent.filled (h : T.Sent s) :
    Filled first second Request.offset Request.stop T.durableRanges T.nextOffset s.offset s.sent :=
  ⟨h.offset.1, h.within, h.apart, h.missing, h.covered⟩

theorem sent_of_filled (h : Filled first second Request.offset
      Request.stop T.durableRanges T.nextOffset t.offset t.sent)
    (hoffset : t.offset ≤ T.size) (hsize : 1 ≤ t.sendSize) : T.Sent t :=
  ⟨⟨h.forward, hoffset⟩, hsize, h.between, h.apart, h.outside, h.covered⟩

theorem Sent.skip (h : T.Sent s) (hoffset : t.offset = T.skip s.offset)
    (hsize : t.sendSize = s.sendSize) (hsent : t.sent = s.sent) : T.Sent t := by
  refine sent_of_filled ?_ ?_ (by rw [hsize]; exact h.sendSize)
  · rw [hoffset, hsent, skip_eq_skipSpan]
    exact h.filled.skip
  · rw [hoffset]
    exact skip_le h.offset.2

/-- A request is sent at an offset that is not durable, and stops before the next range. -/
theorem Sent.submit (h : T.Sent s) (hdurable : ¬ T.Durable s.offset) (hlt : s.offset < T.size)
    {bytes : List UInt8}
    (hlength : bytes.length = min s.sendSize (T.rangeEnd s.offset - s.offset))
    (hoffset : t.offset = s.offset + bytes.length) (hsize : t.sendSize = s.sendSize)
    (hsent : t.sent = s.sent ++ [⟨s.offset, bytes⟩]) : T.Sent t := by
  have hbeyond := lt_rangeEnd hlt
  have hend := rangeEnd_le (T := T) s.offset
  have hpos := h.sendSize
  have hstop : s.offset + bytes.length ≤ T.rangeEnd s.offset := by omega
  have hfilled : Filled first second Request.offset Request.stop
      T.durableRanges T.nextOffset (s.offset + bytes.length) (s.sent ++ [⟨s.offset, bytes⟩]) := by
    refine h.filled.add (p := ⟨s.offset, bytes⟩) T.ascends_ranges hdurable rfl ?_ ?_
    · change s.offset < s.offset + bytes.length
      omega
    · rw [← rangeEnd_eq_nextSpan]
      exact hstop
  refine sent_of_filled ?_ ?_ (by rw [hsize]; exact hpos)
  · rw [hoffset, hsent]
    exact hfilled
  · rw [hoffset]
    exact Int.le_trans hstop hend

theorem Received.sent_eq (h : T.Received reply elapsed s t) :
    t.sent = s.sent ∧ t.offset = s.offset := by
  rw [h.others]
  exact ⟨rfl, rfl⟩

theorem Received.sendSize_pos (h : T.Received reply elapsed s t) (hs : 1 ≤ s.sendSize) :
    1 ≤ t.sendSize := by
  rcases h.sendSize with hsame | ⟨hbatching, hresized⟩
  · rwa [hsame]
  · rw [hresized]
    exact resize_pos hbatching hs

theorem Moves.sent (h : T.Moves s event t) (hs : T.Sent s) : T.Sent t := by
  cases h with
  | enter failure _ _ => exact hs.of_eq rfl hs.sendSize rfl
  | thrown offset e hoffset _ =>
    rcases hoffset with rfl | rfl
    · exact hs.of_eq rfl hs.sendSize rfl
    · exact hs.skip rfl rfl rfl
  | leave _ => exact hs.of_eq rfl hs.sendSize rfl
  | filled _ _ => exact hs.of_eq rfl hs.sendSize rfl
  | skipped _ _ hskip => exact hs.skip hskip.symm rfl rfl
  | submitted bytes _ _ _ _ hskip hlength =>
    have hskipped : T.Sent { s with offset := T.skip s.offset } := hs.skip rfl rfl rfl
    have hlt : T.skip s.offset < T.size := by
      have hle := skip_le hs.offset.2
      omega
    exact hskipped.submit (not_durable_skip _) hlt hlength rfl rfl rfl
  | received _ _ _ hreceived =>
    obtain ⟨hsent, hoffset⟩ := hreceived.sent_eq
    exact hs.of_eq hoffset (hreceived.sendSize_pos hs.sendSize) hsent
  | awaited _ _ _ => exact hs.of_eq rfl hs.sendSize rfl
  | finished _ _ _ _ _ => exact hs.of_eq rfl hs.sendSize rfl

/-! ### What is in flight -/

/-- The pool holds what the upload counts, and what it has when the upload leaves. -/
structure Queues (T : Terms) (s : UploadState) : Prop where
  pending : s.pending = s.running.length + s.replies.length
  window : s.pending ≤ T.client.uploadWindow
  /-- Behind the inner loop nothing is in flight only if nothing is left to send. -/
  filled : s.control = .take → s.failure = none → s.pending = 0 → s.offset = T.size
  complete : ∀ state, s.control = .leaving (.ok state) ∨ s.control = .returned (.ok state) →
    s.offset = T.size ∧ s.pending = 0 ∧ T.result s = .ok state
  drained : ∀ result, s.control = .returned result → s.running = []

theorem queues_start (now : Int) : T.Queues (T.start now) where
  pending := rfl
  window := by
    have hwindow := T.window.1
    change 0 ≤ T.client.uploadWindow
    omega
  filled := nofun
  complete := by rintro state (h | h) <;> cases h
  drained := nofun

theorem Received.queues_eq (h : T.Received reply elapsed s t) :
    t.running = s.running ∧ t.replies = s.replies ∧ t.pending = s.pending := by
  rw [h.others]
  exact ⟨rfl, rfl, rfl⟩

theorem queues_of_loop (hpending : t.pending = t.running.length + t.replies.length)
    (hwindow : t.pending ≤ T.client.uploadWindow)
    (hfilled : t.control = .take → t.failure = none → t.pending = 0 → t.offset = T.size)
    (hloop : t.control = .head ∨ t.control = .fill ∨ t.control = .take) : T.Queues t where
  pending := hpending
  window := hwindow
  filled := hfilled
  complete := by
    rintro state (h | h) <;> rcases hloop with hloop | hloop | hloop <;> rw [hloop] at h <;> cases h
  drained := by
    intro result h
    rcases hloop with hloop | hloop | hloop <;> rw [hloop] at h <;> cases h

theorem Moves.queues (h : T.Moves s event t) (hs : T.Queues s) (hsent : T.Sent s) : T.Queues t := by
  have hqueues := hs.pending
  have hwindow := hs.window
  have hle := hsent.offset.2
  cases h with
  | enter failure _ _ => exact queues_of_loop hqueues hwindow nofun (.inr (.inl rfl))
  | thrown offset e _ _ =>
    exact
      { pending := hqueues
        window := hwindow
        filled := nofun
        complete := fun state h => by rcases h with h | h <;> cases h
        drained := nofun }
  | leave hover =>
    refine
      { pending := hqueues
        window := hwindow
        filled := nofun
        complete := ?_
        drained := nofun }
    rintro state (h | h)
    · have hresult : T.result s = .ok state := Control.leaving.inj h
      rcases hover with ⟨-, hnot⟩ | ⟨htake, hzero⟩
      · have hoffset : s.offset = T.size := by omega
        have hzero : s.pending = 0 := by omega
        exact ⟨hoffset, hzero, hresult⟩
      · exact ⟨hs.filled htake (result_eq_ok hresult).1 hzero, hzero, hresult⟩
    · cases h
  | filled _ hnot =>
    refine queues_of_loop hqueues hwindow ?_ (.inr (.inr rfl))
    intro _ hfailure hzero
    have hslot : s.pending < T.client.uploadWindow := hzero ▸ T.window.1
    have hdone : ¬ s.offset < T.size := fun hlt => hnot ⟨hfailure, hlt, hslot⟩
    exact Int.le_antisymm hle (Int.not_lt.1 hdone)
  | skipped _ _ _ => exact queues_of_loop hqueues hwindow (fun _ _ _ => rfl) (.inr (.inr rfl))
  | submitted bytes hcontrol _ _ hpending _ _ =>
    refine queues_of_loop ?_ hpending ?_ (.inr (.inl hcontrol))
    · simp only [List.length_append, List.length_singleton]
      omega
    · intro h
      rw [hcontrol] at h
      cases h
  | received _ hpending hreplies hreceived =>
    obtain ⟨hrunning, hqueue, hcount⟩ := hreceived.queues_eq
    rw [hreplies, List.length_cons] at hqueues
    refine queues_of_loop ?_ ?_ nofun (.inl rfl)
    · simp only [hrunning, hqueue, hcount]
      omega
    · simp only [hcount]
      omega
  | awaited result hcontrol hempty =>
    refine
      { pending := hqueues
        window := hwindow
        filled := nofun
        complete := ?_
        drained := fun _ _ => hempty }
    rintro state (h | h)
    · cases h
    · exact hs.complete state (.inl (hcontrol.trans (congrArg _ (Control.returned.inj h))))
  | finished i reply elapsed _ hi =>
    refine
      { pending := ?_
        window := hwindow
        filled := hs.filled
        complete := hs.complete
        drained := ?_ }
    · simp only [List.length_eraseIdx_of_lt hi, List.length_append, List.length_singleton]
      omega
    · intro result h
      rw [hs.drained result h] at hi
      exact absurd hi (Nat.not_lt_zero _)

/-! ### After a failure -/

theorem failure_of_failed (hs : s.Failed)
    (hloop : s.control = .head ∨ s.control = .fill ∨ s.control = .take) : s.failure ≠ none := by
  rcases hs with hs | ⟨e, h | h⟩
  · exact hs
  · simp [h] at hloop
  · simp [h] at hloop

theorem Moves.failed (h : T.Moves s event t) (hs : s.Failed) : t.Failed ∧ t.sent = s.sent := by
  cases h with
  | enter failure hfailure hcontrol =>
    have hkept := failure_of_failed hs (.inl hcontrol)
    refine ⟨.inl ?_, rfl⟩
    rw [hfailure (Option.isSome_iff_ne_none.2 hkept)]
    exact hkept
  | thrown offset e _ _ => exact ⟨.inr ⟨e, .inl rfl⟩, rfl⟩
  | leave hover =>
    have hkept := failure_of_failed hs (hover.imp And.left fun h => .inr h.1)
    exact ⟨.inl hkept, rfl⟩
  | filled hcontrol _ =>
    have hkept := failure_of_failed hs (.inr (.inl hcontrol))
    exact ⟨.inl hkept, rfl⟩
  | skipped hcontrol hfailure _ =>
    exact absurd hfailure (failure_of_failed hs (.inr (.inl hcontrol)))
  | submitted bytes hcontrol hfailure _ _ _ _ =>
    exact absurd hfailure (failure_of_failed hs (.inr (.inl hcontrol)))
  | received hcontrol _ _ hreceived =>
    have hkept := failure_of_failed hs (.inr (.inr hcontrol))
    have hsome := hreceived.failure (Option.isSome_iff_ne_none.2 hkept)
    exact ⟨.inl (Option.isSome_iff_ne_none.1 hsome), hreceived.sent_eq.1⟩
  | awaited result hcontrol _ =>
    rcases hs with hs | ⟨e, h | h⟩
    · exact ⟨.inl hs, rfl⟩
    · rw [hcontrol] at h
      exact ⟨.inr ⟨e, .inr (congrArg _ (Control.leaving.inj h))⟩, rfl⟩
    · rw [hcontrol] at h
      cases h
  | finished _ _ _ _ _ => exact ⟨hs, rfl⟩

variable {now : Int} {events : List UploadEvent}

theorem Reaches.sent (h : T.Reaches now events s) : T.Sent s :=
  h.invariant (sent_start now) fun _ _ _ hmove => hmove.sent

theorem Reaches.queues (h : T.Reaches now events s) : T.Queues s :=
  (h.invariant (I := fun s => T.Queues s ∧ T.Sent s) ⟨queues_start now, sent_start now⟩
    fun _ _ _ hmove hs => ⟨hmove.queues hs.1 hs.2, hmove.sent hs.2⟩).1

theorem sent_of_failed (hs : s.Failed) {later : List UploadEvent}
    (h : T.machine.run s later = some t) : t.sent = s.sent :=
  (Machine.run_invariant (I := fun t => t.Failed ∧ t.sent = s.sent) (fun _ _ _ hstep hi => by
      obtain ⟨hfailed, hsent⟩ := (moves_of_step hstep).failed hi.1
      exact ⟨hfailed, hsent.trans hi.2⟩) h ⟨hs, rfl⟩).2

theorem Sent.disjoint (h : T.Sent s) : s.sent.Pairwise fun a b => Disjoint a.range b.range := by
  refine h.apart.imp fun {a b} hab => Set.disjoint_left.2 ?_
  rintro x ⟨-, hx⟩ ⟨hx', -⟩
  omega

theorem Sent.disjoint_others (h : T.Sent s) {r : Request} (hr : r ∈ s.sent) :
    Disjoint r.range (Set.Ico 0 T.nextOffset) ∧
      ∀ d ∈ T.durableRanges, Disjoint r.range d.range := by
  refine ⟨Set.disjoint_left.2 ?_, fun d hd => Set.disjoint_left.2 ?_⟩
  · rintro x ⟨hx, -⟩ ⟨-, hx'⟩
    have hwithin := (h.within r hr).1
    omega
  · rintro x ⟨hx, hx'⟩ hmem
    exact h.missing r hr x hx hx' ⟨d, hd, hmem⟩

/-- With the offset at the end, what was sent and what was there make up the artifact. -/
theorem Sent.union_eq (h : T.Sent s) (hoffset : s.offset = T.size) :
    (⋃ r ∈ s.sent, r.range) ∪ (⋃ d ∈ T.durableRanges, d.range) ∪ Set.Ico 0 T.nextOffset =
      Set.Ico 0 T.size := by
  have hnext := T.nextOffset_mem
  ext x
  simp only [Set.mem_union, Set.mem_iUnion, exists_prop]
  constructor
  · rintro ((⟨r, hr, hle, hlt⟩ | ⟨d, -, hle, hlt⟩) | ⟨hle, hlt⟩)
    · have hwithin := h.within r hr
      exact ⟨by omega, by omega⟩
    · have hfirst := d.first_nonneg
      have hsecond := d.second_le
      exact ⟨by omega, by omega⟩
    · exact ⟨hle, by omega⟩
  · rintro ⟨hle, hlt⟩
    by_cases hx : x < T.nextOffset
    · exact .inr ⟨hle, hx⟩
    · rcases h.covered x (Int.not_lt.1 hx) (hoffset ▸ hlt) with ⟨d, hd, hmem⟩ | ⟨r, hr, hmem⟩
      · exact .inl (.inr ⟨d, hd, hmem⟩)
      · exact .inl (.inl ⟨r, hr, hmem⟩)

/-- Wherever an upload gets, no byte was sent twice or in vain; if it returned, no byte is
missing; once it has failed it sends nothing more; it has no more requests in flight than its
window allows, and none when it has ended. -/
theorem upload_covers_and_drains (h : T.Reaches now events s) :
    s.sent.Pairwise (fun a b => Disjoint a.range b.range) ∧
      (∀ r ∈ s.sent, Disjoint r.range (Set.Ico 0 T.nextOffset) ∧
        ∀ d ∈ T.durableRanges, Disjoint r.range d.range) ∧
      (∀ state, s.control = .returned (.ok state) →
        (⋃ r ∈ s.sent, r.range) ∪ (⋃ d ∈ T.durableRanges, d.range) ∪ Set.Ico 0 T.nextOffset =
          Set.Ico 0 T.size) ∧
      (s.Failed → ∀ later t, T.machine.run s later = some t → t.sent = s.sent) ∧
      s.running.length ≤ T.client.uploadWindow ∧
      ∀ result, s.control = .returned result → s.running = [] := by
  have hsent := h.sent
  have hqueues := h.queues
  refine ⟨hsent.disjoint, fun r hr => hsent.disjoint_others hr, fun state hstate => ?_,
    fun hfailed later t hrun => sent_of_failed hfailed hrun, ?_, hqueues.drained⟩
  · exact hsent.union_eq (hqueues.complete state (.inr hstate)).1
  · have hpending := hqueues.pending
    have hwindow := hqueues.window
    omega

/-- The request carries the bytes of the artifact at its offset. -/
abbrev Carries (T : Terms) : Request → Prop := IsSlice Request.offset Request.bytes T.artifact

theorem carries_readFully {file : Except Throwable Unit} {offset count : Int} {bytes : List UInt8}
    (h : T.readFully file offset count = .ok bytes) : T.Carries ⟨offset, bytes⟩ := by
  obtain ⟨_, -, h⟩ := bind_eq_ok.1 h
  split at h
  · next hbounds => exact isSlice_of_take_drop hbounds.1 (Except.ok.inj h)
  · simp at h

theorem carries_of_step (h : T.step s event = some t) (hs : ∀ r ∈ s.sent, T.Carries r) :
    ∀ r ∈ t.sent, T.Carries r := by
  cases event with
  | submit file pool =>
    simp only [step] at h
    split at h
    · split at h
      · obtain rfl := Option.some.inj h
        simp only [fill]
        repeat' split
        all_goals try exact hs
        next hread _ =>
          intro r hr
          rcases List.mem_append.1 hr with hr | hr
          · exact hs r hr
          · exact List.mem_singleton.1 hr ▸ carries_readFully hread
      · exact Option.some.inj h ▸ hs
    · simp at h
  | _ =>
    cases moves_of_step h with
    | submitted _ hcontrol => simp [step, hcontrol] at h
    | received _ _ _ hreceived => exact hreceived.sent_eq.1 ▸ hs
    | _ => exact hs

/-- Wherever an upload gets, its requests spoil no byte that the server has, in whatever order
and however often they arrive. Once it has returned, they complete the artifact. -/
theorem upload_delivers (h : T.Reaches now events s) {held : Int → Option UInt8}
    {arrived : List Request} (harrived : ∀ r ∈ arrived, r ∈ s.sent) :
    (∀ x, held x = T.artifact[x.toNat]? →
      arrived.foldl (write Request.offset Request.bytes) held x = T.artifact[x.toNat]?) ∧
    ((∃ state, s.control = .returned (.ok state)) → (∀ r ∈ s.sent, r ∈ arrived) →
      (∀ x, 0 ≤ x ∧ x < T.nextOffset ∨ T.Durable x → held x = T.artifact[x.toNat]?) →
      ∀ x, 0 ≤ x → x < T.size →
        arrived.foldl (write Request.offset Request.bytes) held x = T.artifact[x.toNat]?) := by
  have hsent : ∀ r ∈ s.sent, T.Carries r :=
    Machine.run_invariant (fun _ _ _ => carries_of_step) h.2 nofun
  have hslices : ∀ r ∈ arrived, T.Carries r := fun r hr => hsent r (harrived r hr)
  refine ⟨fun x hx => foldl_write hslices (.inl hx), ?_⟩
  rintro ⟨state, hreturned⟩ hall hheld x hnonneg hx
  refine foldl_write hslices ?_
  by_cases hnext : x < T.nextOffset
  · exact .inl (hheld x (.inl ⟨hnonneg, hnext⟩))
  · have hoffset := (h.queues.complete state (.inr hreturned)).1
    rcases h.sent.covered x (Int.not_lt.1 hnext) (hoffset ▸ hx) with hdurable | ⟨r, hr, hx⟩
    · exact .inl (hheld x (.inr hdurable))
    · exact .inr ⟨r, hall r hr, hx⟩

end Terms

/-! ### An artifact of five bytes -/

/-- Decimal digits with an optional sign, below the bound. -/
def readDecimal (bound : Nat) (text : String) : Option Int :=
  let digits := if text.toList.head? = some '-' then text.toList.tail else text.toList
  let n := Nat.ofDigitChars 10 digits 0
  if digits.isEmpty || !digits.all Char.isDigit then none
  else if text.toList.head? = some '-' then if n ≤ bound then some (-n) else none
  else if n < bound then some n else none

theorem readDecimal_longText {bound n : Nat} (h : n < bound) :
    readDecimal bound (longText n) = some (n : Int) := by
  have htext : (longText n).toList = Nat.toDigits 10 n := Nat.toList_repr
  have hdigit : ∀ c ∈ Nat.toDigits 10 n, c.isDigit = true := fun c hc =>
    Nat.isDigit_of_mem_toDigits (by decide) (by decide) hc
  have hsign : (Nat.toDigits 10 n).head? ≠ some '-' := by
    intro hhead
    exact absurd (hdigit _ (List.mem_of_mem_head? hhead)) (by decide)
  have hempty : (Nat.toDigits 10 n).isEmpty = false :=
    Bool.eq_false_iff.2 fun hnil => Nat.toDigits_ne_nil (List.isEmpty_iff.1 hnil)
  have hall : (Nat.toDigits 10 n).all Char.isDigit = true := List.all_eq_true.2 hdigit
  simp [readDecimal, htext, hsign, hempty, hall, Nat.ofDigitChars_ten_toDigits, h]

/-- A client of the application, with the digests of the parts it sends. -/
def phoneClient (uploadWindow : Int) (useReliableBatches : Bool) : CoreUpdateClient where
  uploadWindow := uploadWindow
  useReliableBatches := useReliableBatches
  longOrNull := readDecimal (2 ^ 63)
  intOrNull := readDecimal (2 ^ 31)
  sha256 bytes :=
    (([([0x63, 0x6f],
          [0xc3, 0x30, 0xec, 0x50, 0x4d, 0x82, 0xc2, 0x4f, 0xcd, 0x10, 0xbe, 0x97, 0x8f, 0xa7,
            0x4b, 0x8a, 0x31, 0x85, 0xa8, 0xdf, 0x71, 0x96, 0x04, 0xa8, 0x54, 0x43, 0xbb, 0x9c,
            0xa2, 0x79, 0xf5, 0xa2]),
        ([0x21],
          [0xbb, 0x72, 0x08, 0xbc, 0x9b, 0x5d, 0x7c, 0x04, 0xf1, 0x23, 0x6a, 0x82, 0xa0, 0x09,
            0x3a, 0x5e, 0x33, 0xf4, 0x04, 0x23, 0xd5, 0xba, 0x8d, 0x42, 0x66, 0xf7, 0x09, 0x2c,
            0x3b, 0xa4, 0x3b, 0x62])] : List (List UInt8 × List UInt8)).lookup bytes).getD []
  longOrNull_decimal _ h := readDecimal_longText h
  intOrNull_decimal _ h := readDecimal_longText h

def reported (received next : String) : JsonObject :=
  [("stage", .string "receiving"), ("received_bytes", .literal received),
    ("next_offset", .literal next)]

/-- The server has the third and the fourth of five bytes. -/
def fiveTerms : Terms where
  client := phoneClient 2 false
  artifact := [0x63, 0x6f, 0x72, 0x65, 0x21]
  size := 5
  initial := reported "2" "0" ++
    [("chunk_bytes", .literal "2"), ("ranges", .array [.array [.literal "2", .literal "4"]])]
  deadline := 1800000
  nextOffset := 0
  chunkSize := 2
  batchLimit := 0
  durableRanges := [⟨2, 4, by decide, by decide, by decide, by decide, by decide⟩]
  window := by decide
  nextOffset_reported := by decide
  nextOffset_mem := by decide
  chunkSize_mem := by decide
  nextOffset_aligned := by decide
  batchLimit_mem := by decide
  ascends := by decide

def undisturbed : Delivery := ⟨.ok 0, .ok (), .ok (), .ok 0⟩

/-- The last byte arrives first. -/
def fiveEvents : List UploadEvent :=
  [.check (.ok false) (.ok 0), .submit (.ok ()) (.ok ()), .submit (.ok ()) (.ok ()),
    .submit (.ok ()) (.ok ()), .finish 1 (.ok (reported "3" "0")) 100,
    .finish 0 (.ok (reported "5" "5")) 200, .take undisturbed, .check (.ok false) (.ok 0),
    .submit (.ok ()) (.ok ()), .take undisturbed, .check (.ok false) (.ok 0), .await]

theorem fiveTerms_accepted : fiveTerms.client.accept fiveTerms.artifact fiveTerms.size
    fiveTerms.initial fiveTerms.deadline = .ok fiveTerms :=
  Terms.accepted rfl rfl rfl (by decide)

theorem fiveTerms_reaches : ∃ s, fiveTerms.Reaches 0 fiveEvents s ∧
    s.control = .returned (.ok (reported "5" "5")) ∧
    s.sent = [⟨0, [0x63, 0x6f]⟩, ⟨4, [0x21]⟩] :=
  ⟨_, ⟨fiveTerms_accepted, rfl⟩, rfl, rfl⟩

theorem upload_covers_and_drains_five : ∃ s, fiveTerms.Reaches 0 fiveEvents s ∧
    s.control = .returned (.ok (reported "5" "5")) ∧ s.running = [] ∧
    (⋃ r ∈ s.sent, r.range) ∪ (⋃ d ∈ fiveTerms.durableRanges, d.range) ∪ Set.Ico 0 0 =
      Set.Ico 0 5 := by
  obtain ⟨s, hreaches, hcontrol, -⟩ := fiveTerms_reaches
  obtain ⟨-, -, hcovered, -, -, hdrained⟩ := Terms.upload_covers_and_drains hreaches
  exact ⟨s, hreaches, hcontrol, hdrained _ hcontrol, hcovered _ hcontrol⟩

/-- The last byte arrives first, and once more at the end. -/
theorem upload_delivers_five : ∃ s, fiveTerms.Reaches 0 fiveEvents s ∧ ∀ x, 0 ≤ x → x < 5 →
    [⟨4, [0x21]⟩, ⟨0, [0x63, 0x6f]⟩, ⟨4, [0x21]⟩].foldl (write Request.offset Request.bytes)
      (fun x => if 2 ≤ x ∧ x < 4 then fiveTerms.artifact[x.toNat]? else none) x =
      fiveTerms.artifact[x.toNat]? := by
  obtain ⟨s, hreaches, hcontrol, hsent⟩ := fiveTerms_reaches
  refine ⟨s, hreaches, (Terms.upload_delivers hreaches ?_).2 ⟨_, hcontrol⟩ ?_ ?_⟩
  · simp [hsent]
  · simp [hsent]
  · rintro x (⟨hle, hlt⟩ | ⟨r, hr, hx⟩)
    · exact absurd hlt (Int.not_lt.2 hle)
    · rw [List.mem_singleton.1 hr] at hx
      exact if_pos hx

end LibreRoute.Update
