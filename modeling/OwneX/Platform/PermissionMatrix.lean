import OwneX.Contracts.Governance
import OwneX.Platform.LiveAccess
import OwneX.Platform.Records

set_option autoImplicit false

/-! # `GET /api/roles/matrix`

The permission matrix of an organization, cell by cell: what the contract's default says, what the
organization has set instead, and what follows. The console edits it with `setPermission`, and
`hasPermission` decides with it. After any run of the contracts the reply is the table of the last
settings (`Path.last_write`), it answers `hasPermission` for every wallet, and its `canEdit` is the
contract's own answer to whether the caller may edit. -/

namespace OwneX

open JsNumber Storage

/-! ## `readPermissionMatrix` -/

inductive OverrideState where
  | unset
  | allowed
  | denied
deriving DecidableEq

/-- `OVERRIDE_NAMES` -/
def overrideNames : List OverrideState := [.unset, .allowed, .denied]

/-- A value of the contract's enumeration as the ABI returns it. -/
def Override.toNat : Override → Nat
  | .unset => 0
  | .allowed => 1
  | .denied => 2

structure MatrixCell where
  role : RoleName
  permission : PermissionKey
  default : Bool
  override : OverrideState
  effective : Bool
deriving DecidableEq

def matrixRoles : List RoleName := [.admin, .manager, .auditor, .user]

section Reads

variable {σ : Type} (ch : Chain σ)

def Chain.readMatrixCell (orgId : Nat) (role : RoleName)
    (permission : PermissionKey × Bytes32) : MatrixCell :=
  let hash := roleHash role
  let defaultAllowed := defaultPermission hash permission.2
  let override := ch.world.access.permissionOverride orgId hash permission.2
  let state := overrideNames[override.toNat]?.getD .unset
  { role
    permission := permission.1
    default := defaultAllowed
    override := state
    effective :=
      if state = .allowed then true else if state = .denied then false else defaultAllowed }

def Chain.readPermissionMatrix (orgId : Nat) : List MatrixCell :=
  matrixRoles.flatMap fun role => permissionList.map (ch.readMatrixCell orgId role)

/-! ## The route -/

/-- The labels of `PERMISSION_LIST`. -/
def PermissionKey.listed : PermissionKey → String
  | .manageMembers => "Manage members"
  | .assignRoles => "Assign roles"
  | .mintAssets => "Mint assets"
  | .transferAssets => "Transfer assets"
  | .viewAudit => "View audit"
  | .manageApps => "Manage applications"

structure MatrixReply where
  orgId : Nat
  organisationActive : Bool
  roles : List RoleName
  permissions : List (PermissionKey × String)
  cells : List MatrixCell
  canEdit : Bool
deriving DecidableEq

/-- The query of the route; `none` is a parameter that is missing or no integer. -/
def parseMatrixOrgId (orgIdParam : Option SafeInt) : Except ApiError Nat :=
  let failure := ApiError.badRequest "orgId is required and must be a positive integer"
  match orgIdParam with
  | none => throw failure
  | some orgId => if orgId.1 = 0 then throw failure else pure orgId.1

/-- `GET /api/roles/matrix?orgId=..` -/
def getRolesMatrix (dateNow : TimeValue) (sessionWallet : Option Address)
    (orgIdParam : Option SafeInt) : Except ApiError MatrixReply := do
  let orgId ← parseMatrixOrgId orgIdParam
  let caller ← (requireMember (ch.reads dateNow) sessionWallet orgId).run
  let cells := ch.readPermissionMatrix orgId
  let organization := ch.readOrganization orgId
  return {
    orgId
    organisationActive := (organization.map (·.active)).getD false
    roles := matrixRoles
    permissions := permissionList.map fun p => (p.1, p.1.listed)
    cells
    canEdit := caller.role == .admin }

end Reads

/-! ## Settings over a run -/

section Settings

variable {σ : Type}

/-- What a transition sets a cell to. -/
def Transition.setsOverride (o : Nat) (role permission : Bytes32) (t : Transition σ) :
    Option Override :=
  match t.action with
  | .access (.setPermission orgId r p state) =>
      if o = orgId ∧ role = r ∧ permission = p then some state else none
  | _ => none

/-- The last setting of a cell, `Unset` before the first. -/
def lastOverride (ts : List (Transition σ)) (o : Nat) (role permission : Bytes32) : Override :=
  (ts.reverse.findSome? (·.setsOverride o role permission)).getD .unset

end Settings

/-- How the console names a setting. -/
def Override.named : Override → OverrideState
  | .unset => .unset
  | .allowed => .allowed
  | .denied => .denied

theorem overrideNames_get (state : Override) :
    overrideNames[state.toNat]?.getD .unset = state.named := by
  cases state <;> rfl

/-- What a setting makes of a default. -/
def Override.over (state : Override) (byDefault : Bool) : Bool :=
  match state with
  | .allowed => true
  | .denied => false
  | .unset => byDefault

theorem Override.over_named (state : Override) (byDefault : Bool) :
    (if state.named = .allowed then true else if state.named = .denied then false
      else byDefault) = state.over byDefault := by
  cases state <;> rfl

section Runs

variable {σ : Type} [ERC721 σ]

/-- One action writes the cells it sets and leaves the others alone. -/
theorem ActionStep.permissionOverride {w w' : World σ} {msg : Msg} {act : Action}
    {events : List Event} (h : ActionStep w msg act w' events) (o : Nat)
    (role permission : Bytes32) :
    w'.access.permissionOverride o role permission =
      ((⟨w, msg, act, w', events⟩ : Transition σ).setsOverride o role permission).getD
        (w.access.permissionOverride o role permission) := by
  cases h with
  | access hstep =>
      cases hstep with
      | setPermission =>
          simp only [set₃_apply, Transition.setsOverride]
          split <;> rfl
      | _ => rfl
  | _ => rfl

theorem World.Path.lastOverride {w w' : World σ} {ts : List (Transition σ)} (h : w.Path ts w')
    (hfresh : ∀ o role permission, w.access.permissionOverride o role permission = .unset)
    (o : Nat) (role permission : Bytes32) :
    w'.access.permissionOverride o role permission = lastOverride ts o role permission := by
  have hlast := TransitionSystem.Path.last_write h
    (f := fun u => u.access.permissionOverride o role permission)
    (g := fun t => t.setsOverride o role permission)
    fun t ht => (Transition.valid_iff.1 ht).permissionOverride o role permission
  rw [hlast, hfresh]
  rfl

/-- `hasPermission` is the setting of the caller's cell over its default. -/
theorem OrgAccessManager.hasPermission_eq_over {a : OrgAccessManager} {ir : IdentityRegistry}
    {now o : Nat} {wallet : Address} {permission : Bytes32} :
    a.hasPermission ir now o wallet permission = true ↔
      ir.isOrganizationActive o = true ∧ a.effectiveRole ir now o wallet ≠ ROLE_NONE ∧
        (a.permissionOverride o (a.effectiveRole ir now o wallet) permission).over
          (defaultPermission (a.effectiveRole ir now o wallet) permission) = true := by
  unfold hasPermission
  by_cases hactive : ir.isOrganizationActive o = true
  · rw [if_neg (by simp [hactive])]
    by_cases hrole : a.effectiveRole ir now o wallet = ROLE_NONE
    · simp [hrole]
    · simp only [if_neg hrole]
      cases hstate : a.permissionOverride o (a.effectiveRole ir now o wallet) permission <;>
        simp [Override.over, hactive, hrole]
  · simp [hactive]

/-- The hash of a role that can apply has a name, which stands for it. -/
theorem roleHash_roleName {role : Bytes32} (h : role = ROLE_NONE ∨ isValidRole role = true) :
    roleHash (roleName role) = role := by
  simp only [isValidRole, Bool.or_eq_true, beq_iff_eq, or_assoc] at h
  rcases h with rfl | rfl | rfl | rfl | rfl <;> decide

omit [ERC721 σ] in
theorem Chain.roleHash_readEffectiveRole {ch : Chain σ} (h : MembersInv ch.world.access)
    (o : Nat) (wallet : Address) :
    roleHash (ch.readEffectiveRole o wallet) =
      ch.world.access.effectiveRole ch.world.registry ch.blockTime o wallet := by
  refine roleHash_roleName ?_
  rcases ch.world.access.effectiveRole_cases ch.world.registry ch.blockTime o wallet with
    hnone | ⟨hadmin, -, -⟩ | ⟨hstored, -, hmember, -⟩
  · exact .inl hnone
  · unfold World.effectiveRole
    rw [hadmin]
    exact .inr (by decide)
  · unfold World.effectiveRole
    rw [hstored]
    exact .inr (h.valid o wallet hmember)

end Runs

/-! ## The cells -/

section Cells

variable {σ : Type} {ch : Chain σ} {orgId : Nat}

theorem mem_matrixRoles {role : RoleName} : role ∈ matrixRoles ↔ role ≠ .none := by
  cases role <;> decide

theorem mem_permissionList {entry : PermissionKey × Bytes32} :
    entry ∈ permissionList ↔ entry.2 = entry.1.hash := by
  obtain ⟨permission, hash⟩ := entry
  cases permission <;> simp [permissionList, PermissionKey.hash]

/-- The cell of a role and a permission. -/
def Chain.cell (ch : Chain σ) (orgId : Nat) (role : RoleName) (permission : PermissionKey) :
    MatrixCell :=
  ch.readMatrixCell orgId role (permission, permission.hash)

/-- No cell is listed twice. -/
theorem Chain.nodup_readPermissionMatrix :
    ((ch.readPermissionMatrix orgId).map fun cell => (cell.role, cell.permission)).Nodup := by
  have hkeys : (ch.readPermissionMatrix orgId).map (fun cell => (cell.role, cell.permission)) =
      matrixRoles.flatMap fun role => permissionList.map fun entry => (role, entry.1) := by
    rw [readPermissionMatrix, List.map_flatMap]
    rfl
  rw [hkeys]
  decide

theorem Chain.mem_readPermissionMatrix {cell : MatrixCell} :
    cell ∈ ch.readPermissionMatrix orgId ↔
      cell.role ≠ .none ∧ cell = ch.cell orgId cell.role cell.permission := by
  simp only [readPermissionMatrix, List.mem_flatMap, List.mem_map]
  constructor
  · rintro ⟨role, hrole, entry, hentry, rfl⟩
    have hhash : entry = (entry.1, entry.1.hash) :=
      Prod.ext rfl (mem_permissionList.1 hentry)
    refine ⟨mem_matrixRoles.1 hrole, ?_⟩
    rw [hhash]
    rfl
  · intro h
    refine ⟨cell.role, mem_matrixRoles.2 h.1, (cell.permission, cell.permission.hash),
      mem_permissionList.2 rfl, ?_⟩
    exact h.2.symm

theorem Chain.cell_override (role : RoleName) (permission : PermissionKey) :
    (ch.cell orgId role permission).override =
      (ch.world.access.permissionOverride orgId (roleHash role) permission.hash).named :=
  overrideNames_get _

theorem Chain.cell_effective (role : RoleName) (permission : PermissionKey) :
    (ch.cell orgId role permission).effective =
      (ch.world.access.permissionOverride orgId (roleHash role) permission.hash).over
        (defaultPermission (roleHash role) permission.hash) := by
  simp only [cell, readMatrixCell, overrideNames_get, Override.over_named]

/-- The matrix has one cell for each role and permission. -/
theorem Chain.cell_mem {role : RoleName} (hrole : role ≠ .none) (permission : PermissionKey) :
    ch.cell orgId role permission ∈ ch.readPermissionMatrix orgId :=
  mem_readPermissionMatrix.2 ⟨hrole, rfl⟩

end Cells

/-! ## The reply -/

section Reply

variable {σ : Type} {ch : Chain σ} {dateNow : TimeValue}
  {sessionWallet : Option Address}

/-- Who passes the guard is the session's wallet, with the role that applies to it. -/
theorem requireMember_eq_ok {orgId : Nat} {caller : Caller}
    (h : (requireMember (ch.reads dateNow) sessionWallet orgId).run = Except.ok caller) :
    sessionWallet = some caller.wallet ∧
      caller.role = ch.readEffectiveRole orgId caller.wallet := by
  cases sessionWallet with
  | none => cases h
  | some wallet =>
      have hidentity : orInternal ((ch.reads dateNow).readIdentity wallet) =
        pure (ch.readIdentity wallet) := rfl
      have hrole : orInternal ((ch.reads dateNow).readEffectiveRole orgId wallet) =
        pure (ch.readEffectiveRole orgId wallet) := rfl
      simp only [requireMember, requireActiveIdentity, requireCaller, hidentity, pure_bind] at h
      split_ifs at h with hregistered
      · cases h
      · cases h
      · cases h
      · simp only [hrole, pure_bind] at h
        split_ifs at h with hnone
        · cases h
        · cases h
          exact ⟨rfl, rfl⟩

/-- What a reply consists of. -/
theorem getRolesMatrix_eq_ok {orgIdParam : Option SafeInt} {reply : MatrixReply}
    (h : getRolesMatrix ch dateNow sessionWallet orgIdParam = .ok reply) :
    reply.cells = ch.readPermissionMatrix reply.orgId ∧
      reply.organisationActive =
        ((ch.readOrganization reply.orgId).map (·.active)).getD false ∧
      ∃ wallet, sessionWallet = some wallet ∧
        reply.canEdit = (ch.readEffectiveRole reply.orgId wallet == .admin) := by
  unfold getRolesMatrix at h
  simp only [bind_eq_ok, pure_eq_ok] at h
  obtain ⟨orgId, -, caller, hcaller, rfl⟩ := h
  obtain ⟨hwallet, hrole⟩ := requireMember_eq_ok hcaller
  refine ⟨rfl, rfl, caller.wallet, hwallet, ?_⟩
  rw [hrole]

end Reply

/-! ## The matrix tells the truth -/

/-- Denying an administrator one of the two permissions of governance. -/
def LocksOut (role : RoleName) (permission : PermissionKey) (state : Override) : Prop :=
  role = .admin ∧ (permission = .assignRoles ∨ permission = .manageMembers) ∧ state = .denied

/-- `reply`, given to `sessionWallet`, shows the permissions of an organization on `ch` as the
    settings of `ts` have left them. -/
structure TruthfulMatrix {σ : Type} [ERC721 σ] (ch : Chain σ) (ts : List (Transition σ))
    (sessionWallet : Option Address) (reply : MatrixReply) : Prop where
  complete : ∀ role permission, role ≠ RoleName.none →
    ∃! cell, cell ∈ reply.cells ∧ cell.role = role ∧ cell.permission = permission
  once : (reply.cells.map fun cell => (cell.role, cell.permission)).Nodup
  settings : ∀ cell ∈ reply.cells,
    cell.override =
      (lastOverride ts reply.orgId (roleHash cell.role) cell.permission.hash).named
  decides : ∀ wallet permission,
    ch.readHasPermission reply.orgId wallet permission.hash = true ↔
      reply.organisationActive = true ∧
        ∃ cell ∈ reply.cells, cell.role = ch.readEffectiveRole reply.orgId wallet ∧
          cell.permission = permission ∧ cell.effective = true
  governance : ∀ cell ∈ reply.cells, cell.role = .admin →
    cell.permission = .assignRoles ∨ cell.permission = .manageMembers → cell.effective = true
  editable : ∀ (sender : Account), sessionWallet = some sender.1 → ∀ role permission state,
    (∃ access events, ch.world.access.setPermission ch.world.registry ⟨sender, ch.blockTime⟩
      reply.orgId (roleHash role) permission.hash state = .ok (access, events)) ↔
      reply.canEdit = true ∧ reply.organisationActive = true ∧ role ≠ .none ∧
        ¬ LocksOut role permission state
  edited : ∀ (msg : Msg) role permission state access events,
    ch.world.access.setPermission ch.world.registry msg reply.orgId (roleHash role)
      permission.hash state = .ok (access, events) →
    Chain.readPermissionMatrix ⟨{ ch.world with access }, msg.timestamp⟩ reply.orgId =
      reply.cells.map fun cell =>
        if cell.role = role ∧ cell.permission = permission then
          { cell with override := state.named, effective := state.over cell.default }
        else cell

section Truth

variable {σ : Type} {ch : Chain σ}

@[simp] theorem PermissionKey.hash_inj {p q : PermissionKey} : p.hash = q.hash ↔ p = q := by
  cases p <;> cases q <;> decide

@[simp] theorem roleHash_inj {r r' : RoleName} : roleHash r = roleHash r' ↔ r = r' := by
  constructor
  · intro h
    rw [← roleName_roleHash r, h, roleName_roleHash]
  · exact congrArg roleHash

@[simp] theorem isValidRole_roleHash {role : RoleName} :
    isValidRole (roleHash role) = true ↔ role ≠ .none := by
  cases role <;> decide

variable (ch) in
theorem organisationActive_eq (h : RegistryInv ch.world.registry) (o : Nat) :
    ((ch.readOrganization o).map (·.active)).getD false = true ↔
      ch.world.registry.isOrganizationActive o = true := by
  rw [← ch.readOrganization_active o h]
  cases (ch.readOrganization o).map (·.active) <;> simp

variable (ch) in
/-- Setting a cell is for administrators of active organizations, but for a lock-out. -/
theorem setPermission_iff (hmembers : MembersInv ch.world.access) {sender : Account} {o : Nat} {role : RoleName}
    {permission : PermissionKey} {state : Override} :
    (∃ access events, ch.world.access.setPermission ch.world.registry ⟨sender, ch.blockTime⟩ o
      (roleHash role) permission.hash state = .ok (access, events)) ↔
      ch.readEffectiveRole o sender = .admin ∧
        ch.world.registry.isOrganizationActive o = true ∧ role ≠ .none ∧
        ¬ LocksOut role permission state := by
  have hadmin : ch.readEffectiveRole o sender = .admin ↔
      ch.world.access.effectiveRole ch.world.registry ch.blockTime o sender = ROLE_ADMIN := by
    rw [← Chain.roleHash_readEffectiveRole hmembers]
    exact roleHash_inj.symm
  have hlocks : LocksOut role permission state ↔ roleHash role = ROLE_ADMIN ∧
      (permission.hash = PERM_ASSIGN_ROLES ∨ permission.hash = PERM_MANAGE_MEMBERS) ∧
        state = .denied := by
    unfold LocksOut
    rw [← @roleHash_inj role .admin, ← @PermissionKey.hash_inj permission .assignRoles,
      ← @PermissionKey.hash_inj permission .manageMembers]
    rfl
  rw [hadmin, hlocks]
  constructor
  · rintro ⟨access, events, h⟩
    have hstep := AccessCall.exec_eq_ok
      (c := .setPermission o (roleHash role) permission.hash state).1 h
    cases hstep with
    | setPermission horg hsender hvalid hguard =>
        exact ⟨hsender, horg, isValidRole_roleHash.1 hvalid, hguard⟩
  · intro h
    obtain ⟨hsender, horg, hrole, hguard⟩ := h
    exact ⟨_, _, AccessCall.exec_eq_ok.2
      (.setPermission horg hsender (isValidRole_roleHash.2 hrole) hguard)⟩

theorem OverrideInv.over_governance {a : OrgAccessManager} (hinv : OverrideInv a) {o : Nat}
    {permission : Bytes32}
    (hperm : permission = PERM_ASSIGN_ROLES ∨ permission = PERM_MANAGE_MEMBERS) :
    (a.permissionOverride o ROLE_ADMIN permission).over
      (defaultPermission ROLE_ADMIN permission) = true := by
  have hcell := hinv.governance o permission hperm
  have hdefault : defaultPermission ROLE_ADMIN permission = true := by
    rcases hperm with rfl | rfl <;> decide
  cases hstate : a.permissionOverride o ROLE_ADMIN permission with
  | allowed => rfl
  | denied => exact absurd hstate hcell
  | unset => exact hdefault

variable (ch) in
/-- Setting a cell changes that cell of the matrix and no other. -/
theorem Chain.readPermissionMatrix_setPermission {msg : Msg} {o : Nat} {role : RoleName}
    {permission : PermissionKey} {state : Override} {access : OrgAccessManager}
    {events : List AccessEvent}
    (h : ch.world.access.setPermission ch.world.registry msg o (roleHash role) permission.hash
      state = .ok (access, events)) :
    Chain.readPermissionMatrix ⟨{ ch.world with access }, msg.timestamp⟩ o =
      (ch.readPermissionMatrix o).map fun cell =>
        if cell.role = role ∧ cell.permission = permission then
          { cell with override := state.named, effective := state.over cell.default }
        else cell := by
  have hstep := AccessCall.exec_eq_ok
    (c := .setPermission o (roleHash role) permission.hash state).1 h
  cases hstep
  unfold readPermissionMatrix
  rw [List.map_flatMap]
  congr 1
  funext r
  rw [List.map_map]
  refine List.map_congr_left fun entry hentry => ?_
  have hhash := mem_permissionList.1 hentry
  simp only [Function.comp_apply, readMatrixCell, overrideNames_get, Override.over_named,
    set₃_apply, hhash, roleHash_inj, PermissionKey.hash_inj, true_and]
  split <;> rfl

/-- What the matrix shows is what `hasPermission` answers. -/
theorem Chain.hasPermission_iff_cell (hmembers : MembersInv ch.world.access) (o : Nat)
    (wallet : Address) (permission : PermissionKey) :
    ch.readHasPermission o wallet permission.hash = true ↔
      ch.world.registry.isOrganizationActive o = true ∧
        ∃ cell ∈ ch.readPermissionMatrix o, cell.role = ch.readEffectiveRole o wallet ∧
          cell.permission = permission ∧ cell.effective = true := by
  have hrole := roleHash_readEffectiveRole hmembers o wallet
  have hnone : ch.readEffectiveRole o wallet = .none ↔
      ch.world.access.effectiveRole ch.world.registry ch.blockTime o wallet = ROLE_NONE := by
    rw [← hrole]
    exact roleHash_inj.symm
  show ch.world.access.hasPermission ch.world.registry ch.blockTime o wallet permission.hash =
    true ↔ _
  rw [OrgAccessManager.hasPermission_eq_over, ne_eq, ← hnone, ← hrole]
  refine and_congr_right fun _ => ?_
  constructor
  · intro h
    exact ⟨_, cell_mem h.1 permission, rfl, rfl, (cell_effective _ _).trans h.2⟩
  · rintro ⟨cell, hcell, hcellrole, rfl, heffective⟩
    obtain ⟨hne, hdef⟩ := mem_readPermissionMatrix.1 hcell
    rw [← hcellrole]
    refine ⟨hne, ?_⟩
    rw [hdef, cell_effective] at heffective
    exact heffective

variable [ERC721 σ]

/-- Whatever has been run on the contracts, the matrix `GET /api/roles/matrix` answers with shows
    the last setting of each cell and what `hasPermission` decides for every wallet, leaves the
    administrators in charge, offers editing to those `setPermission` takes it from, and changes
    in the one cell that is edited. -/
theorem World.run_rolesMatrix (registryOwner assetOwner : Account) (txs : List Tx)
    (blockTime : Nat) (dateNow : TimeValue) (sessionWallet : Option Address)
    (orgIdParam : Option SafeInt) (reply : MatrixReply)
    (h : getRolesMatrix ⟨((deploy registryOwner assetOwner : World σ).run txs).1, blockTime⟩
      dateNow sessionWallet orgIdParam = .ok reply) :
    TruthfulMatrix ⟨((deploy registryOwner assetOwner : World σ).run txs).1, blockTime⟩
      ((deploy registryOwner assetOwner : World σ).run txs).2 sessionWallet reply := by
  have hreach := reachable_run (σ := σ) registryOwner assetOwner txs
  have hpath := run_path (deploy registryOwner assetOwner : World σ) txs
  have hlast := World.Path.lastOverride hpath fun _ _ _ => rfl
  generalize ((deploy registryOwner assetOwner : World σ).run txs).2 = ts at hlast ⊢
  generalize ((deploy registryOwner assetOwner : World σ).run txs).1 = w at *
  obtain ⟨hcells, hactive, wallet, hwallet, hcanEdit⟩ := getRolesMatrix_eq_ok h
  have hmembers : MembersInv (⟨w, blockTime⟩ : Chain σ).world.access := hreach.membersInv
  have horg : reply.organisationActive = true ↔
      w.registry.isOrganizationActive reply.orgId = true := by
    rw [hactive]
    exact organisationActive_eq ⟨w, blockTime⟩ hreach.registryInv reply.orgId
  constructor
  case complete =>
    intro role permission hrole
    rw [hcells]
    refine ⟨_, ⟨Chain.cell_mem hrole permission, rfl, rfl⟩, ?_⟩
    rintro cell ⟨hmem, rfl, rfl⟩
    exact (Chain.mem_readPermissionMatrix.1 hmem).2
  case once =>
    rw [hcells]
    exact Chain.nodup_readPermissionMatrix
  case settings =>
    intro cell hcell
    rw [hcells] at hcell
    obtain ⟨-, hdef⟩ := Chain.mem_readPermissionMatrix.1 hcell
    rw [hdef, Chain.cell_override]
    exact congrArg Override.named (hlast _ _ _)
  case decides =>
    intro v permission
    rw [hcells, horg]
    exact Chain.hasPermission_iff_cell hmembers reply.orgId v permission
  case governance =>
    intro cell hcell hrole hpermission
    rw [hcells] at hcell
    obtain ⟨-, hdef⟩ := Chain.mem_readPermissionMatrix.1 hcell
    rw [hdef, Chain.cell_effective, hrole]
    have hpair : cell.permission.hash = PERM_ASSIGN_ROLES ∨
        cell.permission.hash = PERM_MANAGE_MEMBERS := by
      rcases hpermission with hp | hp
      · exact .inl (congrArg PermissionKey.hash hp)
      · exact .inr (congrArg PermissionKey.hash hp)
    exact hreach.overrideInv.over_governance hpair
  case editable =>
    intro sender hsender role permission state
    obtain rfl : sender.1 = wallet := Option.some.inj (hsender.symm.trans hwallet)
    rw [setPermission_iff ⟨w, blockTime⟩ hmembers, hcanEdit, horg, beq_iff_eq]
  case edited =>
    intro msg role permission state access events hcall
    rw [hcells]
    exact Chain.readPermissionMatrix_setPermission ⟨w, blockTime⟩ hcall

end Truth

namespace Sample

/-- Alice takes the audit view from the managers, and gives it to the users. -/
def settings : List Tx := [
  tx alice 105 (.access (.setPermission 1 ROLE_MANAGER PERM_VIEW_AUDIT .denied)),
  tx alice 106 (.access (.setPermission 1 ROLE_USER PERM_VIEW_AUDIT .allowed))]

/-- The matrix as Carol is shown it. -/
def carolMatrix : Except ApiError MatrixReply :=
  getRolesMatrix ⟨((World.deploy owner owner : World Ledger).run (founding ++ settings)).1, 107⟩
    ⟨107000, by decide⟩ (some carol) (some ⟨1, one_safe⟩)

theorem carolMatrix_truthful :
    ∃ reply, carolMatrix = .ok reply ∧
      TruthfulMatrix
        ⟨((World.deploy owner owner : World Ledger).run (founding ++ settings)).1, 107⟩
        ((World.deploy owner owner : World Ledger).run (founding ++ settings)).2
        (some carol) reply := by
  have hshown : carolMatrix.isOk = true := by decide +kernel
  cases hreply : carolMatrix with
  | error e =>
      rw [hreply] at hshown
      cases hshown
  | ok reply => exact ⟨reply, rfl, World.run_rolesMatrix owner owner _ 107 _ _ _ reply hreply⟩

end Sample

end OwneX
