import Mathlib.Algebra.Order.Ring.Nat

/-!
`ChannelConnectionState` is shared by every session of the native channel, also by those
that were replaced and still report. A session is known by its token. What keeps the state
sound is that a call of anyone but the owner changes nothing: such calls can be deleted
from a history, and the snapshots stay as they are.
-/

namespace LibreRoute.Service

structure Snapshot where
  tunnelId : Option Int := none
  running : Bool := false
  ready : Bool := false
  rejected : Bool := false
  waitingForNetwork : Bool := false
  rttMs : Option Int := none
  measuredAt : Int := 0

structure ChannelConnectionState (T : Type) where
  owner : Option T := none
  value : Snapshot := {}

inductive ChannelCall (T : Type) where
  | begin (token : T) (tunnelId : Option Int)
  | ready (token : T) (ready rejected : Bool)
  | networkLost (token : T)
  | localNetworkRestored (token : T)
  -- with the answer of `now`
  | sample (token : T) (line : String) (now : Int)
  | «end» (token : T)

def ChannelCall.token {T : Type} : ChannelCall T → T
  | .begin token _ | .ready token _ _ | .networkLost token | .localNetworkRestored token
  | .sample token _ _ | .end token => token

def ChannelCall.isBegin {T : Type} : ChannelCall T → Bool
  | .begin _ _ => true
  | _ => false

def sampleLifetimeMs : Int := 20000

/-- The texts `$` of a pattern allows after itself. -/
def lineEnds : List (List Char) :=
  [[], ['\n'], ['\r', '\n'], ['\r'], ['\u0085'], ['\u2028'], ['\u2029']]

/-- `samplePattern` at the beginning of a text: the texts of its two groups. -/
def sampleAt (text : List Char) : Option (List Char × List Char) := do
  let rest ← "[CORE_RTT] rtt_us=".toList.isPrefixOf? text
  let micros := rest.takeWhile Char.isDigit
  let rest ← " age_ms=".toList.isPrefixOf? (rest.dropWhile Char.isDigit)
  let age := rest.takeWhile Char.isDigit
  if micros.isEmpty || age.isEmpty then none
  else if rest.dropWhile Char.isDigit ∈ lineEnds then some (micros, age) else none

/-- `toLongOrNull` on digits. -/
def toLongOrNull (digits : List Char) : Option Int :=
  let n := digits.foldl (fun n c => 10 * n + (c.toNat - '0'.toNat)) 0
  if n < 2 ^ 63 then some n else none

variable {T : Type} [DecidableEq T]

/-- What a line of the native log measures: the round trip and the age of the sample. -/
def measurement (line : String) : Option (Int × Int) := do
  let (micros, age) ← line.toList.tails.findSome? sampleAt
  let micros ← toLongOrNull micros
  let age ← toLongOrNull age
  if 1 ≤ micros ∧ micros ≤ 60000000 ∧ 0 ≤ age ∧ age < sampleLifetimeMs then some (micros, age)
  else none

def ChannelConnectionState.step (s : ChannelConnectionState T) :
    ChannelCall T → ChannelConnectionState T
  | .begin token tunnelId => { owner := some token, value := { tunnelId, running := true } }
  | .ready token ready rejected =>
    if s.owner ≠ some token then s
    else if ready && s.value.waitingForNetwork then s
    else
      { s with value := { s.value with
          ready
          rejected
          rttMs := if ready then s.value.rttMs else none
          measuredAt := if ready then s.value.measuredAt else 0 } }
  | .networkLost token =>
    if s.owner ≠ some token then s
    else
      { s with value := { s.value with
          ready := false, waitingForNetwork := true, rttMs := none, measuredAt := 0 } }
  | .localNetworkRestored token =>
    if s.owner ≠ some token then s
    else { s with value := { s.value with waitingForNetwork := false, ready := true } }
  | .sample token line now =>
    if s.owner ≠ some token ∨ ¬ s.value.ready then s
    else
      match measurement line with
      | none => s
      | some (micros, age) =>
        { s with value := { s.value with
            rttMs := some (max ((micros + 999) / 1000) 1)
            measuredAt := (now - age).bmod (2 ^ 64) } }
  | .end token => if s.owner ≠ some token then s else {}

namespace ChannelConnectionState

def run (s : ChannelConnectionState T) (calls : List (ChannelCall T)) : ChannelConnectionState T :=
  calls.foldl step s

/-- The calls without those, other than `begin`, of tokens that do not own the state at
that moment. -/
def owned (s : ChannelConnectionState T) : List (ChannelCall T) → List (ChannelCall T)
  | [] => []
  | call :: calls =>
    if call.isBegin ∨ s.owner = some call.token then call :: owned (s.step call) calls
    else owned (s.step call) calls

structure Sound (s : ChannelConnectionState T) : Prop where
  rtt : s.value.rttMs.isSome → s.value.ready ∧ s.value.running
  ready : s.value.ready → s.value.running
  waiting : s.value.waitingForNetwork → s.value.ready = false
  running : s.owner.isSome → s.value.running

theorem step_of_not_owner {s : ChannelConnectionState T} {call : ChannelCall T}
    (h : ¬ (call.isBegin ∨ s.owner = some call.token)) : s.step call = s := by
  obtain ⟨hbegin, howner⟩ := not_or.1 h
  cases call with
  | begin => exact absurd rfl hbegin
  | sample => exact if_pos (.inl howner)
  | _ => exact if_pos howner

theorem run_owned (s : ChannelConnectionState T) (calls : List (ChannelCall T)) :
    s.run (s.owned calls) = s.run calls := by
  induction calls generalizing s with
  | nil => rfl
  | cons call calls ih =>
    by_cases h : call.isBegin ∨ s.owner = some call.token
    · rw [owned, if_pos h]
      exact ih _
    · have hcons : s.run (call :: calls) = s.run calls := by
        rw [run, List.foldl_cons, step_of_not_owner h, run]
      rw [owned, if_neg h, step_of_not_owner h, hcons]
      exact ih s

theorem Sound.step {s : ChannelConnectionState T} (h : s.Sound) (call : ChannelCall T) :
    (s.step call).Sound := by
  obtain ⟨hrtt, hready, hwaiting, hrunning⟩ := h
  cases call <;> simp only [ChannelConnectionState.step] <;> constructor <;> grind

theorem sound_run (calls : List (ChannelCall T)) :
    (run ({} : ChannelConnectionState T) calls).Sound :=
  List.foldlRecOn calls _ ⟨nofun, nofun, nofun, nofun⟩ fun _ h call _ => h.step call

/-- Only the owner's calls and `begin` count, for whatever follows; and a round trip is
there only while the channel is ready, which it is only while it runs, not while it waits
for a network. -/
theorem snapshots_owned (calls rest : List (ChannelCall T)) :
    let s : ChannelConnectionState T := {}
    (s.run (s.owned calls ++ rest)).value = (s.run (calls ++ rest)).value ∧
      ((s.run calls).value.rttMs.isSome →
        (s.run calls).value.ready ∧ (s.run calls).value.running) ∧
      ((s.run calls).value.ready → (s.run calls).value.running) ∧
      ((s.run calls).value.waitingForNetwork → ¬ (s.run calls).value.ready) := by
  intro s
  have hsound := sound_run calls
  refine ⟨?_, hsound.rtt, hsound.ready, fun h => Bool.not_eq_true _ ▸ hsound.waiting h⟩
  have hrun := run_owned s calls
  simp only [run, List.foldl_append] at hrun ⊢
  rw [hrun]

end ChannelConnectionState

end LibreRoute.Service
