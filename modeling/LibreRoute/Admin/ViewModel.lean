import LibreRoute.Admin.Models
import LibreRoute.Lib.Machine
import LibreRoute.Lib.Sorting

/-!
The lists an administrator sees of a server.

Selecting a server empties the lists, and requests fill them again. A
request is made for the server that is selected at the time, and its reply
may come after another one has been selected. Three kinds of requests take a
number of a counter, which a selection raises, and drop the reply if the
counter has moved on. The other five show every reply.

So a screen that shows one server stays free of the others exactly if no
request of those five for another server was waiting for its reply when the
server was selected, and no other server takes its place.

The list of known servers and the channel are fixed. A request whose server is
looked up in its own coroutine is made in two steps. The counters have 32 bits:
after `2 ^ 32` raises a number comes back, and an old reply is shown again.
-/

namespace LibreRoute.Admin

open Lib

structure AdminUser where
  id : String
  name : String
  removedServerIds : List String := []
  deriving DecidableEq

def AdminUser.visibleOn (user : AdminUser) (servers : List String) : Bool :=
  user.removedServerIds.isEmpty || servers.any fun id => !user.removedServerIds.contains id

structure AdminDevice where
  id : String
  deriving DecidableEq

structure AdminAssignment where
  id : String
  deriving DecidableEq

structure AdminInvitation where
  id : String
  deriving DecidableEq

structure ServerManagedProfile where
  profileId : String := ""
  serverId : String := ""
  name : String := ""
  deriving DecidableEq

structure ClusterView where
  users : List AdminUser := []
  devices : List AdminDevice := []
  assignments : List AdminAssignment := []
  profiles : List ServerManagedProfile := []
  servers : List String := []
  /-- The servers of `workerStatuses`. -/
  workers : List String := []
  /-- The keys of `perServerStatus`. -/
  statuses : List String := []
  deriving DecidableEq

namespace ClusterView

def distinctServerIds (snapshot : ClusterView) : List String :=
  if snapshot.servers ≠ [] then snapshot.servers
  else
    let ids := (snapshot.profiles.map (·.serverId) ++ snapshot.workers).filter fun id => !isBlank id
    if ids ≠ [] then ids else snapshot.statuses

def visibleUsers (snapshot : ClusterView) : List AdminUser :=
  snapshot.users.filter (·.visibleOn snapshot.distinctServerIds)

end ClusterView

structure Display where
  users : List AdminUser := []
  devices : List AdminDevice := []
  assignments : List AdminAssignment := []
  invitations : List AdminInvitation := []
  serverProfiles : List ServerManagedProfile := []
  deriving DecidableEq

inductive RequestKind
  | refreshUsers
  | loadUsers
  | refreshAssignments
  | loadAssignments
  | loadDevices
  | loadInvitations
  | refreshServerProfiles
  | refreshClusterSnapshot
  deriving DecidableEq

inductive RequestCounter
  | users
  | assignments
  | cluster
  deriving DecidableEq

def RequestKind.counter : RequestKind → Option RequestCounter
  | refreshUsers => some .users
  | refreshAssignments => some .assignments
  | refreshClusterSnapshot => some .cluster
  | loadUsers | loadAssignments | loadDevices | loadInvitations | refreshServerProfiles => none

structure ViewRequest where
  kind : RequestKind
  /-- The number it took, if it is guarded. -/
  generation : Nat
  /-- The server it was made for, once that has been looked up. -/
  server : Option (Option ServerNode)
  answered : Bool := false

inductive ViewReply
  | users (users : List AdminUser)
  | assignments (assignments : List AdminAssignment)
  | devices (devices : List AdminDevice)
  | invitations (invitations : List AdminInvitation)
  | profiles (profiles : List ServerManagedProfile)
  | snapshot (snapshot : ClusterView)
  | failure
  deriving DecidableEq

structure ViewState where
  selectedServerNodeId : Option String
  /-- How often a counter has been raised. -/
  generations : RequestCounter → Nat
  clusterSnapshot : Option ClusterView
  display : Display
  requests : List ViewRequest

inductive ViewEvent
  /-- A selection, with the snapshot the repository has of that server. -/
  | selectServerNode (id : Option String) (cached : Option ClusterView)
  | request (kind : RequestKind)
  /-- The coroutine of a request looks up the server. -/
  | lookUp (i : Nat)
  | reply (i : Nat) (reply : ViewReply)

def ViewEvent.isSelection : ViewEvent → Bool
  | selectServerNode _ _ => true
  | request _ | lookUp _ | reply _ _ => false

def serverForAdminChannel (nodes : List ServerNode) (selectedId : Option String)
    (channel : AdminChannel) : Option ServerNode :=
  let onChannel (node : ServerNode) : Bool :=
    match channel with
    | .sshVds => node.nodeType == .vds || node.nodeType == .custom
    | .sshNetcraze => node.nodeType == .routerKeenetic || node.nodeType == .routerOpenwrt
    | .auto | .document | .activeTransport | .directSsh => true
  match selectedId with
  | some id => (nodes.find? (·.id == id)).filter onChannel
  | none => singleOrNull (nodes.filter onChannel)

structure AdminViewModel where
  nodes : List ServerNode
  channel : AdminChannel

namespace AdminViewModel

variable (V : AdminViewModel) {kind : RequestKind} {r : ViewRequest} {server : Option ServerNode}
  {node : ServerNode} {answer : ViewReply}

def currentServerNode (s : ViewState) : Option ServerNode :=
  serverForAdminChannel V.nodes s.selectedServerNodeId V.channel

def selectedServerNode (s : ViewState) : Option ServerNode :=
  (s.selectedServerNodeId.bind fun id => V.nodes.find? (·.id == id)) <|> singleOrNull V.nodes

/-- The server a request is made for when it looks it up. -/
def lookUp (s : ViewState) : RequestKind → Option ServerNode
  | .refreshUsers | .refreshAssignments | .refreshClusterSnapshot | .refreshServerProfiles =>
    V.currentServerNode s
  | .loadUsers | .loadAssignments | .loadDevices | .loadInvitations => V.selectedServerNode s

/-- The server the repository sends a command to: without one, the only one it knows. -/
def target (server : Option ServerNode) : Option ServerNode := server <|> singleOrNull V.nodes

def channelOf : RequestKind → AdminChannel
  | .refreshServerProfiles => .auto
  | _ => V.channel

/-- `executeAdminApiCommand` refuses a command without a server on a channel that needs one, and
where there are several. -/
def sends (kind : RequestKind) (server : Option ServerNode) : Bool :=
  let server := if kind = .refreshClusterSnapshot then V.target server else server
  ([AdminChannel.auto, .document, .activeTransport].contains (V.channelOf kind) || server.isSome) &&
    ((V.target server).isSome || decide (V.nodes.length ≤ 1))

/-- The beginning of a request. Those that are guarded look the server up at once. -/
def request (s : ViewState) (kind : RequestKind) : ViewState :=
  match kind.counter with
  | some counter =>
    let generation := s.generations counter + 1
    { s with
      generations := Function.update s.generations counter generation
      requests := s.requests ++
        [{ kind := kind, generation := generation, server := some (V.lookUp s kind) }] }
  | none =>
    { s with requests := s.requests ++ [{ kind := kind, generation := 0, server := none }] }

def selectServerNode (s : ViewState) (id : Option String) (snapshot : Option ClusterView) :
    ViewState where
  selectedServerNodeId := id
  generations counter := s.generations counter + 1
  clusterSnapshot := snapshot
  display :=
    { users := (snapshot.map ClusterView.visibleUsers).getD []
      assignments := (snapshot.map ClusterView.assignments).getD [] }
  requests := s.requests

def shownServers (s : ViewState) (server : Option ServerNode) : List String :=
  (s.clusterSnapshot.map ClusterView.distinctServerIds).getD (server.map (·.id)).toList

/-- What a reply that is not dropped changes. -/
def shown (s : ViewState) (kind : RequestKind) (server : Option ServerNode) :
    ViewReply → Option ViewState
  | .users users =>
    match kind with
    | .refreshUsers =>
      let visible := users.filter (·.visibleOn (shownServers s server))
      some { s with display := { s.display with
        users := sortedBy (fun user => lowercase user.name) visible } }
    | .loadUsers =>
      let visible := users.filter (·.visibleOn (shownServers s (V.currentServerNode s)))
      some { s with display := { s.display with users := visible } }
    | _ => none
  | .assignments assignments =>
    if kind = .refreshAssignments ∨ kind = .loadAssignments then
      some { s with display := { s.display with assignments := assignments } }
    else none
  | .devices devices =>
    if kind = .loadDevices then some { s with display := { s.display with devices := devices } }
    else none
  | .invitations invitations =>
    if kind = .loadInvitations then
      some { s with display := { s.display with invitations := invitations } }
    else none
  | .profiles profiles =>
    if kind = .refreshServerProfiles then
      some { s with display := { s.display with
        serverProfiles := sortedBy (fun profile => lowercase profile.name) profiles } }
    else none
  | .snapshot snapshot =>
    if kind = .refreshClusterSnapshot then
      some
        { s with
          clusterSnapshot := some snapshot
          display :=
            { s.display with
              assignments := snapshot.assignments
              users := snapshot.visibleUsers
              devices := snapshot.devices
              serverProfiles := snapshot.profiles } }
    else none
  | .failure => some s

/-- The reply of a guarded request whose counter has moved on is late. -/
def isLate (s : ViewState) (r : ViewRequest) : Bool :=
  r.kind.counter.any fun counter => r.generation % 2 ^ 32 != s.generations counter % 2 ^ 32

def reply (s : ViewState) (i : Nat) (reply : ViewReply) : Option ViewState := do
  let r ← s.requests[i]?
  let server ← r.server
  if r.answered || (!V.sends r.kind server && reply != .failure) then none
  else
    let s := { s with requests := s.requests.set i { r with answered := true } }
    if isLate s r then some s else V.shown s r.kind server reply

def machine : Machine ViewEvent ViewState where
  step s
    | .selectServerNode id cached => some (selectServerNode s id cached)
    | .request kind => some (V.request s kind)
    | .lookUp i => do
        let r ← s.requests[i]?
        if r.server.isSome then none
        else
          some
            { s with requests := s.requests.set i { r with server := some (V.lookUp s r.kind) } }
    | .reply i reply => V.reply s i reply

def initial (display : Display) (snapshot : Option ClusterView) : ViewState where
  selectedServerNodeId := none
  generations _ := 0
  clusterSnapshot := snapshot
  display := display
  requests := []

def requestTarget (s : ViewState) (i : Nat) : Option String :=
  ((s.requests[i]?.bind (·.server)).bind V.target).map (·.id)

/-- From the selection of `B` to the next one, the reply to a request for another server
changes nothing that is displayed, in any run too short for a counter to wrap. -/
def OnlySelected (s : ViewState) (B : String) : Prop :=
  ∀ cached after t i answer u A, (∀ e ∈ after, e.isSelection = false) →
    (∀ counter, s.generations counter + (after.length + 1) < 2 ^ 32) →
    V.machine.run s (.selectServerNode (some B) cached :: after) = some t →
    V.requestTarget t i = some A → A ≠ B →
    V.machine.step t (.reply i answer) = some u → u.display = t.display

/-- No request that shows every reply waits for another server, and the only server there is,
if there is only one, is the selected one. -/
structure Clear (s : ViewState) (B : String) : Prop where
  waiting : ∀ i r, s.requests[i]? = some r → r.kind.counter = none → r.answered = false →
    ∀ A, V.requestTarget s i = some A → A = B
  single : ∀ node, V.nodes = [node] → node.id = B

/-! ### Steps -/

variable {V} {s t : ViewState} {i : Nat} {B : String}

theorem shown_eq (h : V.shown s kind server answer = some t) :
    t.selectedServerNodeId = s.selectedServerNodeId ∧ t.generations = s.generations ∧
      t.requests = s.requests := by
  cases answer with
  | users users =>
    cases kind
    case refreshUsers | loadUsers =>
      obtain rfl := Option.some.inj h
      exact ⟨rfl, rfl, rfl⟩
    all_goals cases h
  | failure =>
    obtain rfl := Option.some.inj h
    exact ⟨rfl, rfl, rfl⟩
  | assignments _ | devices _ | invitations _ | profiles _ | snapshot _ =>
    rw [shown] at h
    split_ifs at h
    obtain rfl := Option.some.inj h
    exact ⟨rfl, rfl, rfl⟩

theorem reply_eq_some (h : V.machine.step s (.reply i answer) = some t) :
    ∃ r server, s.requests[i]? = some r ∧ r.server = some server ∧ r.answered = false ∧
      t.selectedServerNodeId = s.selectedServerNodeId ∧ t.generations = s.generations ∧
      t.requests = s.requests.set i { r with answered := true } ∧
      (isLate s r = true → t.display = s.display) := by
  change V.reply s i answer = some t at h
  simp only [reply, Option.bind_eq_bind, Option.bind_eq_some_iff] at h
  obtain ⟨r, hr, server, hserver, h⟩ := h
  split_ifs at h with hrefused hlate
  · obtain rfl := Option.some.inj h
    simp only [Bool.or_eq_true, not_or, Bool.not_eq_true] at hrefused
    exact ⟨r, server, hr, hserver, hrefused.1, rfl, rfl, rfl, fun _ => rfl⟩
  · obtain ⟨hselected, hgenerations, hrequests⟩ := shown_eq h
    simp only [Bool.or_eq_true, not_or, Bool.not_eq_true] at hrefused
    exact ⟨r, server, hr, hserver, hrefused.1, hselected, hgenerations, hrequests,
      fun hlate' => absurd hlate' hlate⟩

theorem lookUp_eq_some (h : V.machine.step s (.lookUp i) = some t) :
    ∃ r, s.requests[i]? = some r ∧ r.server = none ∧
      t =
        { s with requests := s.requests.set i { r with server := some (V.lookUp s r.kind) } } := by
  simp only [machine, Option.bind_eq_bind, Option.bind_eq_some_iff] at h
  obtain ⟨r, hr, h⟩ := h
  split_ifs at h with hsome
  exact ⟨r, hr, by simpa using hsome, (Option.some.inj h).symm⟩

theorem target_lookUp (hselected : s.selectedServerNodeId = some B)
    (hsingle : ∀ node, V.nodes = [node] → node.id = B) (h : V.target (V.lookUp s kind) = some node)
    : node.id = B := by
  have hfound : ∀ node, V.nodes.find? (·.id == B) = some node → node.id = B := fun node hnode => by
    simpa using List.find?_some hnode
  have hcases : V.lookUp s kind = some node ∨ singleOrNull V.nodes = some node := by
    rw [target, Option.orElse_eq_orElse, Option.orElse_eq_or, Option.or_eq_some_iff] at h
    exact h.imp_right fun h => h.2
  rcases hcases with hlookUp | honly
  · have hcurrent : V.currentServerNode s = some node → node.id = B := by
      intro h
      simp only [currentServerNode, serverForAdminChannel, hselected] at h
      exact hfound node (Option.filter_eq_some_iff.1 h).1
    have hnode : V.selectedServerNode s = some node → node.id = B := by
      intro h
      rw [selectedServerNode, hselected, Option.orElse_eq_orElse, Option.orElse_eq_or,
        Option.or_eq_some_iff] at h
      rcases h with h | ⟨-, h⟩
      · exact hfound node h
      · exact hsingle node (singleOrNull_eq_some.1 h)
    cases kind
    case refreshUsers | refreshAssignments | refreshClusterSnapshot | refreshServerProfiles =>
      exact hcurrent hlookUp
    case loadUsers | loadAssignments | loadDevices | loadInvitations => exact hnode hlookUp
  · exact hsingle node (singleOrNull_eq_some.1 honly)

/-! ### Requests since the first selection -/

structure Numbered (V : AdminViewModel) (s : ViewState) : Prop where
  /-- A guarded request took a number its counter has reached. -/
  reached : ∀ r ∈ s.requests, ∀ counter, r.kind.counter = some counter →
    r.generation ≤ s.generations counter
  /-- A `load` request without a server found none to fall back to. -/
  found : ∀ r ∈ s.requests, r.kind.counter = none → r.server = some none →
    r.kind = .refreshServerProfiles ∨ singleOrNull V.nodes = none

theorem numbered_initial (display : Display) (snapshot : Option ClusterView) :
    V.Numbered (initial display snapshot) where
  reached r hr := by cases hr
  found r hr := by cases hr

theorem Numbered.selectServerNode (h : V.Numbered s) (id : Option String)
    (cached : Option ClusterView) : V.Numbered (selectServerNode s id cached) where
  reached r hr counter hcounter := Nat.le_succ_of_le (h.reached r hr counter hcounter)
  found := h.found

theorem selectedServerNodeId_request (kind : RequestKind) :
    (V.request s kind).selectedServerNodeId = s.selectedServerNodeId := by
  unfold request
  split <;> rfl

theorem generations_request (kind : RequestKind) (counter : RequestCounter) :
    s.generations counter ≤ (V.request s kind).generations counter ∧
      (V.request s kind).generations counter ≤ s.generations counter + 1 := by
  unfold request
  split
  · rename_i own _
    by_cases h : counter = own
    · subst h
      simp
    · simp [Function.update_of_ne h]
  · exact ⟨Nat.le_refl _, Nat.le_succ _⟩

theorem generations_step_le {e : ViewEvent} (h : V.machine.step s e = some t)
    (counter : RequestCounter) : t.generations counter ≤ s.generations counter + 1 := by
  cases e with
  | selectServerNode id cached =>
    obtain rfl := Option.some.inj h
    exact Nat.le_refl _
  | request kind =>
    obtain rfl := Option.some.inj h
    exact (generations_request kind counter).2
  | lookUp i =>
    obtain ⟨r, -, -, rfl⟩ := lookUp_eq_some h
    exact Nat.le_succ _
  | reply i answer =>
    obtain ⟨r, server, -, -, -, -, hgenerations, -, -⟩ := reply_eq_some h
    rw [hgenerations]
    exact Nat.le_succ _

theorem generations_run_le {events : List ViewEvent} (h : V.machine.run s events = some t)
    (counter : RequestCounter) :
    t.generations counter ≤ s.generations counter + events.length := by
  induction events generalizing s with
  | nil =>
    obtain rfl := Option.some.inj h
    exact Nat.le_refl _
  | cons e events ih =>
    obtain ⟨u, hstep, hrun⟩ := Machine.run_cons_eq_some.1 h
    have hfirst := generations_step_le hstep counter
    have hrest := ih hrun
    rw [List.length_cons]
    omega

theorem mem_requests_request (h : r ∈ (V.request s kind).requests) :
    r ∈ s.requests ∨ r.kind = kind ∧
      ((∃ counter, kind.counter = some counter ∧
          r.generation = (V.request s kind).generations counter ∧
          r.server = some (V.lookUp s kind)) ∨
        kind.counter = none ∧ r.server = none) := by
  unfold request at h ⊢
  split at h
  · rename_i counter hcounter
    rcases List.mem_append.1 h with h | h
    · exact .inl h
    · obtain rfl := List.mem_singleton.1 h
      exact .inr ⟨rfl, .inl ⟨counter, hcounter, by simp, rfl⟩⟩
  · rename_i hcounter
    rcases List.mem_append.1 h with h | h
    · exact .inl h
    · obtain rfl := List.mem_singleton.1 h
      exact .inr ⟨rfl, .inr ⟨hcounter, rfl⟩⟩

theorem Numbered.request (h : V.Numbered s) (kind : RequestKind) :
    V.Numbered (V.request s kind) where
  reached r hr counter hcounter := by
    rcases mem_requests_request hr with hold | ⟨rfl, ⟨own, hown, hgeneration, -⟩ | ⟨hnone, -⟩⟩
    · exact (h.reached r hold counter hcounter).trans (generations_request kind counter).1
    · obtain rfl := Option.some.inj (hown.symm.trans hcounter)
      exact hgeneration.le
    · rw [hnone] at hcounter
      cases hcounter
  found r hr hcounter hserver := by
    rcases mem_requests_request hr with hold | ⟨rfl, ⟨own, hown, -⟩ | ⟨-, hnone⟩⟩
    · exact h.found r hold hcounter hserver
    · rw [hown] at hcounter
      cases hcounter
    · rw [hnone] at hserver
      cases hserver

theorem Numbered.set (h : V.Numbered s) {r' : ViewRequest} (hr : s.requests[i]? = some r)
    (hrequests : t.requests = s.requests.set i r') (hgenerations : t.generations = s.generations)
    (hkind : r'.kind = r.kind) (hgeneration : r'.generation = r.generation)
    (hfound : r'.kind.counter = none → r'.server = some none →
      r'.kind = .refreshServerProfiles ∨ singleOrNull V.nodes = none) : V.Numbered t where
  reached q hq counter hcounter := by
    rw [hrequests] at hq
    rw [hgenerations]
    rcases List.mem_or_eq_of_mem_set hq with hq | rfl
    · exact h.reached q hq counter hcounter
    · rw [hgeneration]
      exact h.reached r (List.mem_of_getElem? hr) counter (hkind ▸ hcounter)
  found q hq hcounter hserver := by
    rw [hrequests] at hq
    rcases List.mem_or_eq_of_mem_set hq with hq | rfl
    · exact h.found q hq hcounter hserver
    · exact hfound hcounter hserver

theorem singleOrNull_of_selectedServerNode (h : V.selectedServerNode s = none) :
    singleOrNull V.nodes = none := by
  rw [selectedServerNode, Option.orElse_eq_orElse, Option.orElse_eq_or, Option.or_eq_none_iff] at h
  exact h.2

theorem numbered_step (e : ViewEvent) (h : V.Numbered s) (hstep : V.machine.step s e = some t) :
    V.Numbered t := by
  cases e with
  | selectServerNode id cached =>
    obtain rfl := Option.some.inj hstep
    exact h.selectServerNode id cached
  | request kind =>
    obtain rfl := Option.some.inj hstep
    exact h.request kind
  | lookUp i =>
    obtain ⟨r, hr, -, rfl⟩ := lookUp_eq_some hstep
    refine h.set hr rfl rfl rfl rfl fun hcounter hserver => ?_
    have hlookUp : V.lookUp s r.kind = none := Option.some.inj hserver
    cases hkind : r.kind <;> rw [hkind] at hcounter hlookUp
    case refreshServerProfiles => exact .inl rfl
    case loadUsers | loadAssignments | loadDevices | loadInvitations =>
      exact .inr (singleOrNull_of_selectedServerNode hlookUp)
    all_goals cases hcounter
  | reply i answer =>
    obtain ⟨r, server, hr, hserver, -, -, hgenerations, hrequests, -⟩ := reply_eq_some hstep
    exact h.set hr hrequests hgenerations rfl rfl (h.found r (List.mem_of_getElem? hr))

theorem numbered_run {display : Display} {snapshot : Option ClusterView} {before : List ViewEvent}
    (h : V.machine.run (initial display snapshot) before = some s) : V.Numbered s :=
  Machine.run_invariant (fun _ e _ hstep hs => numbered_step e hs hstep) h
    (numbered_initial display snapshot)

/-! ### The screen of one server -/

/-- Since `B` was selected, a request that waits for another server is late. -/
structure Screen (V : AdminViewModel) (B : String) (s : ViewState) : Prop where
  numbered : V.Numbered s
  selected : s.selectedServerNodeId = some B
  waiting : ∀ r ∈ s.requests, r.answered = false → ∀ node, r.server.bind V.target = some node →
    node.id = B ∨ ∃ counter, r.kind.counter = some counter ∧ r.generation < s.generations counter

theorem Clear.screen (h : V.Clear s B) (hs : V.Numbered s) (cached : Option ClusterView) :
    V.Screen B (selectServerNode s (some B) cached) where
  numbered := hs.selectServerNode (some B) cached
  selected := rfl
  waiting r hr hanswered node hnode := by
    cases hcounter : r.kind.counter with
    | some counter =>
      exact .inr ⟨counter, rfl, Nat.lt_succ_of_le (hs.reached r hr counter hcounter)⟩
    | none =>
      obtain ⟨i, hi⟩ : ∃ i, s.requests[i]? = some r := List.mem_iff_getElem?.1 hr
      exact .inl (h.waiting i r hi hcounter hanswered node.id
        (by rw [requestTarget, hi, Option.bind_some, hnode, Option.map_some]))

theorem Screen.request (h : V.Screen B s) (hsingle : ∀ node, V.nodes = [node] → node.id = B)
    (kind : RequestKind) : V.Screen B (V.request s kind) where
  numbered := h.numbered.request kind
  selected := (selectedServerNodeId_request kind).trans h.selected
  waiting r hr hanswered node hnode := by
    rcases mem_requests_request hr with hold | ⟨-, ⟨_, -, -, hserver⟩ | ⟨-, hnone⟩⟩
    · refine (h.waiting r hold hanswered node hnode).imp_right ?_
      rintro ⟨counter, hcounter, hlt⟩
      exact ⟨counter, hcounter, hlt.trans_le (generations_request kind counter).1⟩
    · rw [hserver] at hnode
      exact .inl (target_lookUp h.selected hsingle hnode)
    · rw [hnone] at hnode
      cases hnode

theorem Screen.set (h : V.Screen B s) {r' : ViewRequest}
    (hrequests : t.requests = s.requests.set i r') (hgenerations : t.generations = s.generations)
    (hselected : t.selectedServerNodeId = s.selectedServerNodeId) (hnumbered : V.Numbered t)
    (hwaiting : r'.answered = false → ∀ node, r'.server.bind V.target = some node → node.id = B) :
    V.Screen B t where
  numbered := hnumbered
  selected := hselected.trans h.selected
  waiting q hq hanswered node hnode := by
    rw [hrequests] at hq
    rw [hgenerations]
    rcases List.mem_or_eq_of_mem_set hq with hq | rfl
    · exact h.waiting q hq hanswered node hnode
    · exact .inl (hwaiting hanswered node hnode)

theorem screen_step (hsingle : ∀ node, V.nodes = [node] → node.id = B) {e : ViewEvent}
    (he : e.isSelection = false) (h : V.Screen B s) (hstep : V.machine.step s e = some t) :
    V.Screen B t := by
  have hnumbered : V.Numbered t := numbered_step e h.numbered hstep
  cases e with
  | selectServerNode id cached => cases he
  | request kind =>
    obtain rfl := Option.some.inj hstep
    exact h.request hsingle kind
  | lookUp i =>
    obtain ⟨r, -, -, rfl⟩ := lookUp_eq_some hstep
    exact h.set rfl rfl rfl hnumbered fun _ node hnode => target_lookUp h.selected hsingle hnode
  | reply i answer =>
    obtain ⟨r, server, -, -, -, hselected, hgenerations, hrequests, -⟩ := reply_eq_some hstep
    exact h.set hrequests hgenerations hselected hnumbered fun hanswered => by cases hanswered

theorem Screen.display_reply (h : V.Screen B s) (hshort : ∀ counter, s.generations counter < 2 ^ 32)
    {A : String} (hA : V.requestTarget s i = some A) (hne : A ≠ B)
    (hstep : V.machine.step s (.reply i answer) = some t) :
    t.display = s.display := by
  obtain ⟨r, server, hr, hserver, hanswered, -, -, -, hlate⟩ := reply_eq_some hstep
  rw [requestTarget, hr, Option.bind_some, Option.map_eq_some_iff] at hA
  obtain ⟨node, hnode, rfl⟩ := hA
  rcases h.waiting r (List.mem_of_getElem? hr) hanswered node hnode with hB | ⟨c, hcounter, hlt⟩
  · exact absurd hB hne
  · apply hlate
    rw [isLate, hcounter, Option.any_some, bne_iff_ne, Nat.mod_eq_of_lt (hshort c),
      Nat.mod_eq_of_lt (hlt.trans (hshort c))]
    exact Nat.ne_of_lt hlt

theorem Clear.onlySelected (h : V.Clear s B) (hs : V.Numbered s) : V.OnlySelected s B := by
  intro cached after t i answer u A hafter hshort hrun hA hne hstep
  have hgenerations := generations_run_le hrun
  rw [Machine.run_cons_of_step rfl] at hrun
  have hscreen : V.Screen B t :=
    Machine.run_induction
      (fun s e t he hstep hs => screen_step h.single he hs hstep) hafter hrun (h.screen hs cached)
  exact hscreen.display_reply (fun c => (hgenerations c).trans_lt (hshort c)) hA hne hstep

/-! ### Requests that show every reply -/

def someReply : RequestKind → ViewReply
  | .refreshUsers | .loadUsers => .users [{ id := "", name := "" }]
  | .refreshAssignments | .loadAssignments => .assignments [⟨""⟩]
  | .loadDevices => .devices [⟨""⟩]
  | .loadInvitations => .invitations [⟨""⟩]
  | .refreshServerProfiles => .profiles [{}]
  | .refreshClusterSnapshot => .snapshot {}

theorem shown_someReply (hkind : kind.counter = none) (hempty : s.display = {})
    (server : Option ServerNode) :
    ∃ t, V.shown s kind server (someReply kind) = some t ∧ t.display ≠ s.display := by
  cases kind
  case loadUsers =>
    refine ⟨_, rfl, ?_⟩
    rw [hempty]
    simp [AdminUser.visibleOn]
  case loadAssignments | loadDevices | loadInvitations =>
    refine ⟨_, rfl, ?_⟩
    rw [hempty]
    simp
  case refreshServerProfiles =>
    refine ⟨_, rfl, ?_⟩
    rw [hempty]
    simp [sortedBy]
  all_goals cases hkind

theorem reply_someReply (hr : s.requests[i]? = some r) (hserver : r.server = some server)
    (hanswered : r.answered = false) (hcounter : r.kind.counter = none)
    (hsends : V.sends r.kind server = true) (hempty : s.display = {}) :
    ∃ t, V.machine.step s (.reply i (someReply r.kind)) = some t ∧ t.display ≠ s.display := by
  have hstep : V.machine.step s (.reply i (someReply r.kind)) =
      V.shown { s with requests := s.requests.set i { r with answered := true } } r.kind server
        (someReply r.kind) := by
    change V.reply s i (someReply r.kind) = _
    simp [reply, hr, hserver, hanswered, hsends, isLate, hcounter]
  rw [hstep]
  exact shown_someReply
    (s := { s with requests := s.requests.set i { r with answered := true } }) hcounter hempty
    server

theorem sends_of_target (h : V.target server = some node)
    (hserver : server.isSome ∨ kind = .refreshServerProfiles) (hkind : kind.counter = none) :
    V.sends kind server = true := by
  have hne : kind ≠ .refreshClusterSnapshot := by
    rintro rfl
    cases hkind
  rw [sends, if_neg hne, h]
  rcases hserver with hserver | rfl
  · simp [hserver]
  · simp [channelOf]

theorem Numbered.sends (hs : V.Numbered s) (hr : r ∈ s.requests) (hserver : r.server = some server)
    (hcounter : r.kind.counter = none) (hnode : V.target server = some node) :
    V.sends r.kind server = true := by
  refine sends_of_target hnode ?_ hcounter
  cases server with
  | some node => exact .inl rfl
  | none =>
    rcases hs.found r hr hcounter hserver with hkind | hnone
    · exact .inr hkind
    · rw [target, hnone] at hnode
      cases hnode

theorem OnlySelected.waiting (h : V.OnlySelected s B) (hs : V.Numbered s)
    (hshort : ∀ counter, s.generations counter + 3 < 2 ^ 32)
    (hr : s.requests[i]? = some r) (hcounter : r.kind.counter = none)
    (hanswered : r.answered = false) {A : String} (hA : V.requestTarget s i = some A) : A = B := by
  by_contra hne
  obtain ⟨node, hnode, -⟩ := Option.map_eq_some_iff.1 hA
  rw [hr, Option.bind_some] at hnode
  obtain ⟨server, hserver, htarget⟩ := Option.bind_eq_some_iff.1 hnode
  have hsends := hs.sends (List.mem_of_getElem? hr) hserver hcounter htarget
  -- With no snapshot to show, the selection empties every list.
  obtain ⟨u, hstep, hchanged⟩ :=
    reply_someReply (s := selectServerNode s (some B) none) hr hserver hanswered hcounter hsends rfl
  refine hchanged (h none [] _ i _ u A (by simp) ?_ rfl hA hne hstep)
  exact fun counter => (Nat.add_le_add_left (by decide) _).trans_lt (hshort counter)

theorem run_request_lookUp (hcounter : kind.counter = none) :
    V.machine.run s [.request kind, .lookUp s.requests.length] =
      some { s with requests := s.requests ++
        [{ kind := kind, generation := 0, server := some (V.lookUp s kind) }] } := by
  have hrequest : V.request s kind =
      { s with requests := s.requests ++ [{ kind := kind, generation := 0, server := none }] } := by
    rw [request, hcounter]
  have hlookUp : ∀ requests, V.lookUp { s with requests := requests } kind = V.lookUp s kind :=
    fun _ => by cases kind <;> rfl
  rw [Machine.run_cons_of_step rfl, hrequest]
  refine Machine.run_cons_of_step ?_ []
  simp [machine, hlookUp]

theorem OnlySelected.single (h : V.OnlySelected s B)
    (hshort : ∀ counter, s.generations counter + 3 < 2 ^ 32) (hnodes : V.nodes = [node]) :
    node.id = B := by
  by_contra hne
  -- A request after the selection does not find `B` and falls back to the only server.
  have hlookUp : V.lookUp (selectServerNode s (some B) none) .loadDevices = some node := by
    have hfind : V.nodes.find? (·.id == B) = none := by simp [hnodes, hne]
    have honly : singleOrNull V.nodes = some node := singleOrNull_eq_some.2 hnodes
    change (V.nodes.find? (·.id == B) <|> singleOrNull V.nodes) = some node
    rw [hfind, honly]
    rfl
  have hrun : V.machine.run s [.selectServerNode (some B) none, .request .loadDevices,
      .lookUp s.requests.length] = _ :=
    (Machine.run_cons_of_step rfl _).trans
      (run_request_lookUp (s := selectServerNode s (some B) none) rfl)
  rw [hlookUp] at hrun
  have hr := List.getElem?_concat_length (l := s.requests)
    (a := { kind := .loadDevices, generation := 0, server := some (some node) })
  obtain ⟨u, hstep, hchanged⟩ :=
    reply_someReply (s := { selectServerNode s (some B) none with requests := _ }) hr rfl rfl rfl
      (sends_of_target rfl (.inl rfl) rfl) rfl
  refine hchanged (h none [.request .loadDevices, .lookUp s.requests.length] _ _ _ u node.id ?_
    hshort hrun ?_ hne hstep)
  · simp [ViewEvent.isSelection]
  · rw [requestTarget, hr]
    rfl

/-- Late replies never show another server, exactly if no request that is not guarded waits for
one and no other server takes the place of the selected one. -/
theorem onlySelected_iff {display : Display} {snapshot : Option ClusterView}
    {before : List ViewEvent} (h : V.machine.run (initial display snapshot) before = some s)
    (hlength : before.length + 3 < 2 ^ 32) : V.OnlySelected s B ↔ V.Clear s B := by
  have hs : V.Numbered s := numbered_run h
  have hshort : ∀ counter, s.generations counter + 3 < 2 ^ 32 := fun counter => by
    have hle : s.generations counter ≤ 0 + before.length := generations_run_le h counter
    omega
  constructor
  · intro honly
    exact
      { waiting := fun i r hr hcounter hanswered A hA =>
          honly.waiting hs hshort hr hcounter hanswered hA
        single := fun node hnodes => honly.single hshort hnodes }
  · intro hclear
    exact hclear.onlySelected hs

/-! Two servers, and the administrator goes from the first to the second. -/

def twoServers : AdminViewModel where
  nodes := [{ id := "vds-1", name := "Amsterdam", host := "192.0.2.1", createdAt := 0 },
    { id := "vds-2", name := "Berlin", host := "192.0.2.2", createdAt := 0 }]
  channel := .activeTransport

/-- The first server is selected and a request is on the way. -/
def underway (generations : RequestCounter → Nat) (kind : RequestKind) (generation : Nat) :
    ViewState where
  selectedServerNodeId := some "vds-1"
  generations := generations
  clusterSnapshot := none
  display := {}
  requests := [{ kind := kind, generation := generation, server := some twoServers.nodes[0]? }]

def loading : ViewState := underway (fun _ => 1) .loadUsers 0

def refreshing : ViewState := underway (Function.update (fun _ => 1) .users 2) .refreshUsers 2

/-- The users of the first server appear under the second one. -/
theorem loading_not_onlySelected :
    twoServers.machine.run (initial {} none)
        [.selectServerNode (some "vds-1") none, .request .loadUsers, .lookUp 0] = some loading ∧
      ¬ twoServers.OnlySelected loading "vds-2" := by
  refine ⟨rfl, fun h => ?_⟩
  have hshown := h none [] _ 0 (.users [{ id := "user-1", name := "Anna" }]) _ "vds-1" (by simp)
    (fun _ => (by decide : 1 + (0 + 1) < 2 ^ 32)) rfl (by decide) (by decide) rfl
  exact absurd (congrArg Display.users hshown) (by decide)

theorem refreshing_onlySelected :
    twoServers.machine.run (initial {} none)
        [.selectServerNode (some "vds-1") none, .request .refreshUsers] = some refreshing ∧
      twoServers.Clear refreshing "vds-2" ∧ twoServers.OnlySelected refreshing "vds-2" := by
  have hrun : twoServers.machine.run (initial {} none)
      [.selectServerNode (some "vds-1") none, .request .refreshUsers] = some refreshing := rfl
  have hclear : twoServers.Clear refreshing "vds-2" :=
    { waiting := fun i r hr hcounter => by
        obtain rfl := List.mem_singleton.1 (List.mem_of_getElem? hr)
        cases hcounter
      single := fun node hnodes => by cases hnodes }
  exact ⟨hrun, hclear, (onlySelected_iff hrun (by decide)).2 hclear⟩

end AdminViewModel

end LibreRoute.Admin
