import LibreRoute.Admin.State

/-!
What a grant permits, and the check a command passes before it is sent.

The role of a grant rules out operations, its scope admits servers and
operations. Where the scope only names the operation, the role is not looked
at again; `respectsRole_iff` is the exact extent of that.
-/

namespace LibreRoute.Admin

open LibreRoute.Lib

def readOperations : List String :=
  ["list", "list-users", "list-devices", "list-assignments", "list-invitations",
    "get-cluster-snapshot", "get-protocol-configurations", "list-auth-incidents",
    "get-auth-session-status", "list-admins", "get-jazz-room-pool", "get-jazz-access-operation"]

def ownerOperations : List String :=
  ["revoke", "rotate-key", "grant", "issue-admin-invite", "approve-admin-request",
    "confirm-owner-transfer", "complete-owner-transfer", "revoke-admin", "renew-admin-grant",
    "install", "rollback", "delete-service", "set-jazz-room-policy"]

namespace AdminGrant

def scopeNamesServer (grant : AdminGrant) (serverId : Option String) : Bool :=
  match serverId <|> grant.serverId with
  | none => false
  | some id => grant.scope.contains id || grant.scope.contains ("server:" ++ id)

def scopeNamesOperation (grant : AdminGrant) (operation : String) : Bool :=
  let mutation := !readOperations.contains operation
  grant.scope.contains "*" || grant.scope.contains operation ||
    (!mutation && grant.scope.contains "read") || (mutation && grant.scope.contains "manage")

end AdminGrant

def grantAllows (grant : AdminGrant) (serverId : Option String) (operation : String) : Bool :=
  let mutation := !readOperations.contains operation
  if operation == "get-protocol-configurations" && grant.role == .viewer then false
  else if operation == "core-update" && grant.role != .owner then false
  else if grant.role == .viewer && mutation then false
  else if grant.role == .operator && ownerOperations.contains operation then false
  else if grant.scope.isEmpty || grant.scopeNamesServer serverId then grant.role.granted
  else grant.scopeNamesOperation operation

/-- `NONE = PENDING < VIEWER < OPERATOR < OWNER`. -/
def AdminRole.rank : AdminRole → Nat
  | .none | .pending => 0
  | .viewer => 1
  | .operator => 2
  | .owner => 3

/-- The operations a role is refused whatever the scope says. -/
def AdminRole.refuses (role : AdminRole) (operation : String) : Bool :=
  operation == "get-protocol-configurations" && role == .viewer ||
    operation == "core-update" && role != .owner ||
    role == .viewer && !readOperations.contains operation ||
    role == .operator && ownerOperations.contains operation

theorem grantAllows_eq (grant : AdminGrant) (serverId : Option String) (operation : String) :
    grantAllows grant serverId operation =
      (!grant.role.refuses operation &&
        if grant.scope.isEmpty || grant.scopeNamesServer serverId then grant.role.granted
        else grant.scopeNamesOperation operation) := by
  unfold grantAllows AdminRole.refuses
  dsimp only
  generalize (operation == "get-protocol-configurations" && grant.role == .viewer) = a
  generalize (operation == "core-update" && grant.role != .owner) = b
  generalize (grant.role == .viewer && !readOperations.contains operation) = c
  generalize (grant.role == .operator && ownerOperations.contains operation) = d
  cases a <;> cases b <;> cases c <;> cases d <;> rfl

theorem not_owner_operation_of_read :
    ∀ operation ∈ readOperations, operation ∉ ownerOperations ∧ operation ≠ "core-update" := by
  decide

@[simp] theorem AdminRole.refuses_owner (operation : String) : owner.refuses operation = false := by
  simp [refuses]

variable {operation : String} {serverId : Option String} {r : AdminRole} {grant : AdminGrant}

/-- A higher role is refused no more than a lower one that a grant can confer. -/
theorem AdminRole.refuses_antitone {r' : AdminRole} (hr : r.granted = true) (hle : r.rank ≤ r'.rank)
    (h : r.refuses operation = false) : r'.refuses operation = false := by
  match r, r' with
  | .none, _ => simp [granted] at hr
  | .pending, _ => simp [granted] at hr
  | _, .owner => exact refuses_owner operation
  | .viewer, .viewer => exact h
  | .operator, .operator => exact h
  | .viewer, .operator =>
    -- what a viewer may do is a read operation, and none of those is kept for the owner
    have hread : operation ∈ readOperations := by
      simp only [refuses, Bool.or_eq_false_iff] at h
      simpa using h.1.2
    obtain ⟨howner, hcore⟩ := not_owner_operation_of_read operation hread
    simp [refuses, howner, hcore]
  | .viewer, .none => simp [rank] at hle
  | .viewer, .pending => simp [rank] at hle
  | .operator, .none => simp [rank] at hle
  | .operator, .pending => simp [rank] at hle
  | .operator, .viewer => simp [rank] at hle
  | .owner, .none => simp [rank] at hle
  | .owner, .pending => simp [rank] at hle
  | .owner, .viewer => simp [rank] at hle
  | .owner, .operator => simp [rank] at hle

/-! ### The check before a command -/

structure AdminClusterSnapshot where
  roleScope : String := ""
  capabilities : Option (List String) := none
  deriving DecidableEq, Repr

def AdminRole.valueOf (name : String) : Option AdminRole :=
  [none, pending, owner, operator, viewer].find? (·.name == name)

def AdminClusterSnapshot.reportedRole (snapshot : AdminClusterSnapshot) : Option AdminRole :=
  if isBlank snapshot.roleScope then none
  else AdminRole.valueOf (uppercase snapshot.roleScope)

/-- The role a command is checked with: the reported one, and without a report the
one of the grant. -/
def AdminClusterSnapshot.liveRole (snapshot : AdminClusterSnapshot) (granted : AdminRole) :
    Option AdminRole :=
  if isBlank snapshot.roleScope then some granted else snapshot.reportedRole

theorem AdminClusterSnapshot.liveRole_of_reported {snapshot : AdminClusterSnapshot}
    {role : AdminRole} (h : snapshot.reportedRole = some role) (granted : AdminRole) :
    snapshot.liveRole granted = some role := by
  unfold liveRole
  split
  · next hblank => simp [reportedRole, hblank] at h
  · exact h

/-- `checkCommandAccess`, with the request for a live snapshot as a program. -/
def checkCommandAccess {P : Platform} (getClusterSnapshot : AdminM P AdminClusterSnapshot)
    (operation : String) (serverId : Option String) : AdminM P AdminClusterSnapshot := do
  let verified ← Prog.call (AdminState.verifiedGrantForServer serverId)
  let grant ← Prog.getOrThrow verified (.illegalState "Нет действующего допуска администратора")
  Prog.require (grantAllows grant serverId operation)
    (.illegalArgument ("Нет прав на операцию " ++ operation))
  let snapshot ← getClusterSnapshot.attempt fun e =>
    Prog.throw (.illegalState
      ("Команда отменена локально: доступ к серверу не подтверждён. " ++ e.message.getD ""))
  Prog.require
    (operation != "delete-user" ||
      (snapshot.capabilities.map (·.contains "user-server-delete-v1")).getD false)
    (.illegalArgument ("Обновите ядро управляющего сервера: оно ещё не поддерживает " ++
      "удаление пользователя с выбранного сервера"))
  let liveRole ← Prog.getOrThrow (snapshot.liveRole grant.role)
    (.illegalState "Сервер не подтвердил роль администратора")
  Prog.require (grantAllows { grant with role := liveRole } serverId operation)
    (.illegalArgument ("Команда отменена локально: сервер не подтвердил права на " ++ operation))
  pure snapshot

/-- A command goes through only if the grant in force would still allow it with the
role the snapshot reports. -/
theorem checkCommandAccess_ok {P : Platform} {getClusterSnapshot : AdminM P AdminClusterSnapshot}
    {s s' : AdminState P} {fs fs' : List (Fate Throwable)} {snapshot : AdminClusterSnapshot}
    {role : AdminRole} (h : (checkCommandAccess getClusterSnapshot operation serverId).run s fs =
      (.ok snapshot, s', fs')) (hrole : snapshot.reportedRole = some role) :
    ∃ grant, s.verifiedGrant serverId = some grant ∧
      grantAllows { grant with role := role } serverId operation = true := by
  have hwp : (checkCommandAccess getClusterSnapshot operation serverId).wp
      (fun snapshot _ => ∀ role, snapshot.reportedRole = some role →
        ∃ grant, s.verifiedGrant serverId = some grant ∧
          grantAllows { grant with role := role } serverId operation = true)
      (fun _ => True) s := by
    refine wp_bind (wp_call ?_)
    rw [AdminState.verifiedGrantForServer_fst]
    refine wp_bind (wp_getOrThrow (fun grant hgrant => ?_) fun _ => trivial)
    refine wp_bind (wp_require (fun _ => ?_) fun _ => trivial)
    refine wp_then wp_true fun snapshot t _ => ?_
    refine wp_bind (wp_require (fun _ => ?_) fun _ => trivial)
    refine wp_bind (wp_getOrThrow (fun live hlive => ?_) fun _ => trivial)
    refine wp_bind (wp_require (fun hallowed => ?_) fun _ => trivial)
    refine wp_pure fun role hr => ⟨grant, hgrant, ?_⟩
    rw [snapshot.liveRole_of_reported hr, Option.some.injEq] at hlive
    rw [hlive]
    exact hallowed
  exact wp_run_ok hwp h role hrole

/-! ### Permission and role -/

/-- Permission follows the role: for the operation on the server, a higher role is
allowed what a lower one is, the two roles without rights are allowed nothing,
and no command goes through while the server reports one of those two. -/
structure RespectsRole (grant : AdminGrant) (serverId : Option String) (operation : String) :
    Prop where
  monotone : ∀ r r' : AdminRole, r.rank ≤ r'.rank →
    grantAllows { grant with role := r } serverId operation = true →
    grantAllows { grant with role := r' } serverId operation = true
  nothing_for_none : grantAllows { grant with role := .none } serverId operation = false
  nothing_for_pending : grantAllows { grant with role := .pending } serverId operation = false
  no_command : ∀ (P : Platform) (getClusterSnapshot : AdminM P AdminClusterSnapshot)
    (s s' : AdminState P) (fs fs' : List (Fate Throwable)) (snapshot : AdminClusterSnapshot),
    s.verifiedGrant serverId = some grant →
    (checkCommandAccess getClusterSnapshot operation serverId).run s fs = (.ok snapshot, s', fs') →
    snapshot.reportedRole ≠ some .none ∧ snapshot.reportedRole ≠ some .pending

/-- The role decides: the operation is kept for the owner, or the scope is empty or
names the server, or it does not name the operation either. -/
def AdminGrant.RoleDecides (grant : AdminGrant) (serverId : Option String)
    (operation : String) : Prop :=
  operation = "core-update" ∨ grant.scope = [] ∨ grant.scopeNamesServer serverId = true ∨
    grant.scopeNamesOperation operation = false

theorem grantAllows_granted (h : grant.RoleDecides serverId operation)
    (ha : grantAllows { grant with role := r } serverId operation = true) :
    r.granted = true ∧ r.refuses operation = false := by
  rw [grantAllows_eq, Bool.and_eq_true, Bool.not_eq_true'] at ha
  obtain ⟨hrefuses, hscope⟩ := ha
  refine ⟨?_, hrefuses⟩
  rcases h with rfl | hempty | hserver | hoperation
  · cases r <;> simp_all [AdminRole.refuses, AdminRole.granted]
  · simpa [hempty] using hscope
  · rw [if_pos] at hscope
    · exact hscope
    · exact Bool.or_eq_true_iff.2 (.inr hserver)
  · split at hscope
    · exact hscope
    · exact absurd (hscope.symm.trans hoperation) (by simp)

theorem grantAllows_mono (h : grant.RoleDecides serverId operation) {r' : AdminRole}
    (hle : r.rank ≤ r'.rank) (ha : grantAllows { grant with role := r } serverId operation = true) :
    grantAllows { grant with role := r' } serverId operation = true := by
  obtain ⟨hr, hrefuses⟩ := grantAllows_granted h ha
  have hr' : r'.granted = true := by
    cases r <;> cases r' <;> simp_all [AdminRole.granted, AdminRole.rank]
  have hrefuses' := AdminRole.refuses_antitone hr hle hrefuses
  rw [grantAllows_eq, Bool.and_eq_true] at ha ⊢
  refine ⟨by simp [hrefuses'], ?_⟩
  -- the scope is the same for both roles, so the same branch is taken
  have hscope := ha.2
  split at hscope
  · next hc => exact (if_pos hc).trans hr'
  · next hc => exact (if_neg hc).trans hscope

/-- Past a scope that names the operation but not the server, no role is asked for. -/
theorem grantAllows_none_of_not_roleDecides (h : ¬ grant.RoleDecides serverId operation) :
    grantAllows { grant with role := .none } serverId operation = true := by
  simp only [AdminGrant.RoleDecides, not_or, Bool.not_eq_true, Bool.not_eq_false] at h
  obtain ⟨hcore, hscope, hserver, hoperation⟩ := h
  rw [grantAllows_eq, Bool.and_eq_true]
  refine ⟨by simp [AdminRole.refuses, hcore], ?_⟩
  rw [if_neg]
  · exact hoperation
  · change ¬ (grant.scope.isEmpty || grant.scopeNamesServer serverId) = true
    simp [hscope, hserver]

/-- Permission follows the role exactly where the role decides. -/
theorem respectsRole_iff (grant : AdminGrant) (serverId : Option String) (operation : String) :
    RespectsRole grant serverId operation ↔ grant.RoleDecides serverId operation := by
  constructor
  · intro h
    by_contra hn
    exact absurd ((grantAllows_none_of_not_roleDecides hn).symm.trans h.nothing_for_none) (by simp)
  · intro h
    have nothing : ∀ role : AdminRole, role.granted = false →
        grantAllows { grant with role := role } serverId operation = false := by
      intro role hrole
      by_contra ha
      rw [Bool.not_eq_false] at ha
      exact absurd ((grantAllows_granted h ha).1.symm.trans hrole) (by simp)
    refine ⟨fun r r' hle => grantAllows_mono h hle, nothing .none rfl, nothing .pending rfl, ?_⟩
    intro P getClusterSnapshot s s' fs fs' snapshot hgrant hrun
    have refused : ∀ role : AdminRole, role.granted = false →
        snapshot.reportedRole ≠ some role := by
      intro role hrole hreported
      obtain ⟨grant', hgrant', ha⟩ := checkCommandAccess_ok hrun hreported
      obtain rfl : grant = grant' := Option.some.inj (hgrant.symm.trans hgrant')
      exact absurd (ha.symm.trans (nothing role hrole)) (by simp)
    exact ⟨refused .none rfl, refused .pending rfl⟩

/-- A grant whose scope is every operation: after the server has reported that the
role is gone, the device is still allowed to create users. -/
def wildcardGrant : AdminGrant where
  role := .owner
  profileId := "admin-global"
  adminFingerprint := "SHA256:00"
  serverPublicKey := "BA"
  grantedAt := 0
  expiresAt := 2000000000
  scope := ["*"]
  serverId := some "vds-1"

theorem wildcardGrant_ignores_role :
    ¬ ∀ (grant : AdminGrant) (serverId : Option String) (operation : String),
      RespectsRole grant serverId operation := by
  intro h
  have hnone := (h wildcardGrant (some "vds-1") "create-user").nothing_for_none
  exact absurd hnone (by decide)

end LibreRoute.Admin
