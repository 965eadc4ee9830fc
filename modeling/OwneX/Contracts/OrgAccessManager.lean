import OwneX.Contracts.IdentityRegistry

set_option autoImplicit false

/-! # `OrgAccessManager.sol`

Per-organization role-based access control. The contract holds an immutable reference to the
identity registry and only reads it, so each function takes the registry's storage beside its own.
`block.timestamp` reaches the views through `now`.

The role and permission constants are the values of the `keccak256` expressions that define them. -/

namespace OwneX

open Storage

/-! ## Roles and permissions -/

def ROLE_NONE : Bytes32 := 0#256

/-- `keccak256("OWNEX_ROLE_ADMIN")` -/
def ROLE_ADMIN : Bytes32 := 0x66df32fa0d681050e3ee3d45eb55124c0ff160c544e7420a7926510706300218

/-- `keccak256("OWNEX_ROLE_MANAGER")` -/
def ROLE_MANAGER : Bytes32 := 0xed2724b5f4bdf237f3f1e543f089777a833e27543c6772329626a7a4ed801163

/-- `keccak256("OWNEX_ROLE_AUDITOR")` -/
def ROLE_AUDITOR : Bytes32 := 0xfb98343d0eecad2e5ecd1bb55ca11c8b0aa9396b5fa3ba0bde9a173bd0f61082

/-- `keccak256("OWNEX_ROLE_USER")` -/
def ROLE_USER : Bytes32 := 0xdd190543bad105bcc29c7c3d835ad74232539c2639970a4f05dfc19668b3cd52

/-- `keccak256("PERM_MANAGE_MEMBERS")` -/
def PERM_MANAGE_MEMBERS : Bytes32 :=
  0x179c8236dd045631a5ffee359da96d2bf8b5a1bb47e801fe0ca4e8828d87a000

/-- `keccak256("PERM_ASSIGN_ROLES")` -/
def PERM_ASSIGN_ROLES : Bytes32 :=
  0xe47d00622c4da299bf0fee471319e1c95814f289833131451cde4e8f1e1355e8

/-- `keccak256("PERM_MINT_ASSETS")` -/
def PERM_MINT_ASSETS : Bytes32 :=
  0xe0217d6256f8ab2f7eef9f85744fcd64164d7b1870be849cefa599cd7c5447ed

/-- `keccak256("PERM_TRANSFER_ASSETS")` -/
def PERM_TRANSFER_ASSETS : Bytes32 :=
  0x7773e0bf6232039788ce01c20b6ed5711ed5116ae80ed48ec6b3aefa419c41d7

/-- `keccak256("PERM_VIEW_AUDIT")` -/
def PERM_VIEW_AUDIT : Bytes32 :=
  0xd6d61437b6274eaabf8a7bf7bd3a34e23fd71c0d95ef6a408f02a2e27f202f62

/-- `keccak256("PERM_MANAGE_APPS")` -/
def PERM_MANAGE_APPS : Bytes32 :=
  0xa4320d0f186c94056d44a52ecc443b2492663d92b593591b3bc0256743fbfb22

inductive Override where
  | unset
  | allowed
  | denied
deriving DecidableEq

structure Membership where
  role : Bytes32 := ROLE_NONE
  joinedAt : Uint64 := 0#64
  /-- Zero means permanent. -/
  expiresAt : Uint64 := 0#64
deriving DecidableEq

structure OrgAccessManager where
  memberships : Nat → Address → Membership
  memberList : Nat → List Address
  memberIndex : Nat → Address → Nat
  permissionOverride : Nat → Bytes32 → Bytes32 → Override
  applicationMetadata : Nat → Bytes32 → Bytes32
  applicationRegistered : Nat → Bytes32 → Bool
  appRoleAccess : Nat → Bytes32 → Bytes32 → Bool

inductive AccessEvent where
  | memberAdded (orgId : Nat) (wallet : Address) (role : Bytes32) (expiresAt : Uint64)
      (by_ : Address)
  | memberRemoved (orgId : Nat) (wallet : Address) (previousRole : Bytes32) (by_ : Address)
  | roleAssigned (orgId : Nat) (wallet : Address) (previousRole newRole : Bytes32)
      (expiresAt : Uint64) (by_ : Address)
  | roleExpiryUpdated (orgId : Nat) (wallet : Address) (previousExpiry newExpiry : Uint64)
      (by_ : Address)
  | permissionUpdated (orgId : Nat) (role permission : Bytes32) (state : Override) (by_ : Address)
  | applicationRegistered (orgId : Nat) (appId metadataHash : Bytes32) (by_ : Address)
  | appAccessChanged (orgId : Nat) (appId role : Bytes32) (allowed : Bool) (by_ : Address)
deriving DecidableEq

inductive AccessError where
  | zeroAddress
  | emptyHash
  | organizationNotFound (orgId : Nat)
  | organizationSuspended (orgId : Nat)
  | identityNotActive (wallet : Address)
  | invalidRole (role : Bytes32)
  | alreadyMember (orgId : Nat) (wallet : Address)
  | notMember (orgId : Nat) (wallet : Address)
  | missingPermission (orgId : Nat) (caller : Address) (permission : Bytes32)
  | cannotTargetSelf
  | cannotModifyRootAdmin (orgId : Nat)
  | cannotDisableAdminGovernance
  | expiryInPast (expiresAt : Uint64)
  | applicationNotRegistered (orgId : Nat) (appId : Bytes32)
  | applicationAlreadyRegistered (orgId : Nat) (appId : Bytes32)
  /-- Array access out of bounds, or `list.length - 1` on an empty list. -/
  | panicArray
deriving DecidableEq

/-! ## Pure internals -/

/-- `_defaultPermission`: the zero-configuration matrix. -/
def defaultPermission (role permission : Bytes32) : Bool :=
  if role = ROLE_ADMIN then
    permission == PERM_MANAGE_MEMBERS || permission == PERM_ASSIGN_ROLES
      || permission == PERM_MINT_ASSETS || permission == PERM_TRANSFER_ASSETS
      || permission == PERM_VIEW_AUDIT || permission == PERM_MANAGE_APPS
  else if role = ROLE_MANAGER then
    permission == PERM_TRANSFER_ASSETS || permission == PERM_VIEW_AUDIT
  else if role = ROLE_AUDITOR then
    permission == PERM_VIEW_AUDIT
  else
    false

def isValidRole (role : Bytes32) : Bool :=
  role == ROLE_ADMIN || role == ROLE_MANAGER || role == ROLE_AUDITOR || role == ROLE_USER

def allRoles : List Bytes32 := [ROLE_ADMIN, ROLE_MANAGER, ROLE_AUDITOR, ROLE_USER]

theorem isValidRole_iff_mem {role : Bytes32} : isValidRole role ↔ role ∈ allRoles := by
  simp [isValidRole, allRoles, or_assoc]

theorem isValidRole_ne_none {role : Bytes32} (h : isValidRole role) : role ≠ ROLE_NONE := by
  rintro rfl
  revert h
  decide

/-- A stored expiry that applies and has been reached at `now`. -/
def Membership.expiredAt (m : Membership) (now : Nat) : Bool :=
  m.expiresAt != 0#64 && decide (m.expiresAt.toNat ≤ now)

namespace OrgAccessManager

abbrev Result := Except AccessError (OrgAccessManager × List AccessEvent)

/-- The storage after `constructor(identityRegistry_)`. -/
def deploy : OrgAccessManager where
  memberships := fun _ _ => {}
  memberList := fun _ => []
  memberIndex := fun _ _ => 0
  permissionOverride := fun _ _ _ => .unset
  applicationMetadata := fun _ _ => 0#256
  applicationRegistered := fun _ _ => false
  appRoleAccess := fun _ _ _ => false

variable (a : OrgAccessManager) (ir : IdentityRegistry)

/-! ## Views -/

/-- The role that actually applies at `now`. -/
def effectiveRole (now : Nat) (orgId : Nat) (wallet : Address) : Bytes32 :=
  if ¬ ir.isActive wallet then ROLE_NONE
  else if ir.orgRootAdmin orgId = wallet then ROLE_ADMIN
  else
    let m := a.memberships orgId wallet
    if m.role = ROLE_NONE then ROLE_NONE
    else if m.expiredAt now then ROLE_NONE
    else m.role

/-- Where a role comes from: none at all, the root admin's seat, or a stored membership that has not
    run out. -/
theorem effectiveRole_cases (now orgId : Nat) (wallet : Address) :
    a.effectiveRole ir now orgId wallet = ROLE_NONE ∨
    (a.effectiveRole ir now orgId wallet = ROLE_ADMIN ∧ ir.isActive wallet = true ∧
      ir.orgRootAdmin orgId = wallet) ∨
    (a.effectiveRole ir now orgId wallet = (a.memberships orgId wallet).role ∧
      ir.isActive wallet = true ∧ (a.memberships orgId wallet).role ≠ ROLE_NONE ∧
      (a.memberships orgId wallet).expiredAt now = false) := by
  unfold effectiveRole
  by_cases hactive : ir.isActive wallet = true
  · rw [if_neg (by simp [hactive])]
    by_cases hroot : ir.orgRootAdmin orgId = wallet
    · rw [if_pos hroot]
      exact .inr (.inl ⟨rfl, hactive, hroot⟩)
    · rw [if_neg hroot]
      by_cases hnone : (a.memberships orgId wallet).role = ROLE_NONE
      · exact .inl (if_pos hnone)
      · by_cases hexpired : (a.memberships orgId wallet).expiredAt now = true
        · exact .inl (by simp [hexpired])
        · exact .inr (.inr ⟨by simp [hnone, hexpired], hactive, hnone, by simpa using hexpired⟩)
  · exact .inl (if_pos hactive)

def getMembership (orgId : Nat) (wallet : Address) : Membership :=
  a.memberships orgId wallet

def isMember (now : Nat) (orgId : Nat) (wallet : Address) : Bool :=
  a.effectiveRole ir now orgId wallet != ROLE_NONE

def memberCount (orgId : Nat) : Nat :=
  (a.memberList orgId).length

def getMembers (orgId : Nat) : List Address :=
  a.memberList orgId

/-- The authoritative permission check used by this and other contracts. -/
def hasPermission (now : Nat) (orgId : Nat) (wallet : Address) (permission : Bytes32) : Bool :=
  if ¬ ir.isOrganizationActive orgId then false
  else
    let role := a.effectiveRole ir now orgId wallet
    if role = ROLE_NONE then false
    else
      match a.permissionOverride orgId role permission with
      | .allowed => true
      | .denied => false
      | .unset => defaultPermission role permission

/-- The single call an integrated Web2 application makes to gate login. -/
def canAccessApp (now : Nat) (orgId : Nat) (wallet : Address) (appId : Bytes32) : Bool :=
  if ¬ a.applicationRegistered orgId appId then false
  else if ¬ ir.isOrganizationActive orgId then false
  else
    let role := a.effectiveRole ir now orgId wallet
    if role = ROLE_NONE then false
    else a.appRoleAccess orgId appId role

def appAccessForRole (orgId : Nat) (appId role : Bytes32) : Bool :=
  a.appRoleAccess orgId appId role

/-! ## Guards -/

def requireActiveOrg (orgId : Nat) : Except AccessError Unit := do
  revertIf (¬ ir.organizationExists orgId) (.organizationNotFound orgId)
  revertIf (¬ ir.isOrganizationActive orgId) (.organizationSuspended orgId)

def requirePermission (now : Nat) (orgId : Nat) (caller : Address) (permission : Bytes32) :
    Except AccessError Unit :=
  revertIf (¬ a.hasPermission ir now orgId caller permission)
    (.missingPermission orgId caller permission)

def requireFutureExpiry (now : Nat) (expiresAt : Uint64) : Except AccessError Unit :=
  revertIf (expiresAt ≠ 0#64 ∧ expiresAt.toNat ≤ now) (.expiryInPast expiresAt)

def setMembership (orgId : Nat) (wallet : Address) (m : Membership) : OrgAccessManager :=
  { a with memberships := set₂ a.memberships orgId wallet m }

/-! ## Membership management -/

/-- Add a wallet to an organization with a role. -/
def addMember (msg : Msg) (orgId : Nat) (wallet : Address) (role : Bytes32) (expiresAt : Uint64) :
    Result := do
  requireActiveOrg ir orgId
  a.requirePermission ir msg.timestamp orgId msg.sender PERM_MANAGE_MEMBERS
  revertIf (wallet = 0#160) .zeroAddress
  revertIf (¬ isValidRole role) (.invalidRole role)
  revertIf (¬ ir.isActive wallet) (.identityNotActive wallet)
  revertIf ((a.memberships orgId wallet).role ≠ ROLE_NONE) (.alreadyMember orgId wallet)
  requireFutureExpiry msg.timestamp expiresAt
  let list := a.memberList orgId
  return ({ a.setMembership orgId wallet { role, joinedAt := uint64 msg.timestamp, expiresAt } with
      memberIndex := set₂ a.memberIndex orgId wallet list.length
      memberList := Function.update a.memberList orgId (list ++ [wallet]) },
    [.memberAdded orgId wallet role expiresAt msg.sender,
     .roleAssigned orgId wallet ROLE_NONE role expiresAt msg.sender])

/-- Change an existing member's role. Self-targeting is blocked, and the root admin's seat cannot
    be altered here. -/
def assignRole (msg : Msg) (orgId : Nat) (wallet : Address) (role : Bytes32) (expiresAt : Uint64) :
    Result := do
  requireActiveOrg ir orgId
  a.requirePermission ir msg.timestamp orgId msg.sender PERM_ASSIGN_ROLES
  revertIf (wallet = msg.sender) .cannotTargetSelf
  revertIf (wallet = ir.orgRootAdmin orgId) (.cannotModifyRootAdmin orgId)
  revertIf (¬ isValidRole role) (.invalidRole role)
  revertIf (¬ ir.isActive wallet) (.identityNotActive wallet)
  requireFutureExpiry msg.timestamp expiresAt
  let m := a.memberships orgId wallet
  revertIf (m.role = ROLE_NONE) (.notMember orgId wallet)
  return (a.setMembership orgId wallet { m with role, expiresAt },
    [.roleAssigned orgId wallet m.role role expiresAt msg.sender])

/-- Extend or shorten a member's time-bound access. Unlike `assignRole` and `removeMember` this does
    not compare `wallet` with `msg.sender`. -/
def setRoleExpiry (msg : Msg) (orgId : Nat) (wallet : Address) (expiresAt : Uint64) : Result := do
  requireActiveOrg ir orgId
  a.requirePermission ir msg.timestamp orgId msg.sender PERM_ASSIGN_ROLES
  revertIf (wallet = ir.orgRootAdmin orgId) (.cannotModifyRootAdmin orgId)
  requireFutureExpiry msg.timestamp expiresAt
  let m := a.memberships orgId wallet
  revertIf (m.role = ROLE_NONE) (.notMember orgId wallet)
  return (a.setMembership orgId wallet { m with expiresAt },
    [.roleExpiryUpdated orgId wallet m.expiresAt expiresAt msg.sender])

/-- Remove a wallet from the organization entirely: the membership is deleted and the wallet is
    swapped out of the enumeration list. -/
def removeMember (msg : Msg) (orgId : Nat) (wallet : Address) : Result := do
  requireActiveOrg ir orgId
  a.requirePermission ir msg.timestamp orgId msg.sender PERM_MANAGE_MEMBERS
  revertIf (wallet = msg.sender) .cannotTargetSelf
  revertIf (wallet = ir.orgRootAdmin orgId) (.cannotModifyRootAdmin orgId)
  let m := a.memberships orgId wallet
  revertIf (m.role = ROLE_NONE) (.notMember orgId wallet)
  let idx := a.memberIndex orgId wallet
  let list := a.memberList orgId
  let last ← orRevert list.getLast? .panicArray
  revertIf (list.length ≤ idx) .panicArray
  return ({ a.setMembership orgId wallet {} with
      memberList := Function.update a.memberList orgId (list.set idx last).dropLast
      memberIndex := set₂ (set₂ a.memberIndex orgId last idx) orgId wallet 0 },
    [.memberRemoved orgId wallet m.role msg.sender])

/-! ## Permission matrix -/

/-- Override the default permission matrix for one role in one organization. -/
def setPermission (msg : Msg) (orgId : Nat) (role permission : Bytes32) (state : Override) :
    Result := do
  requireActiveOrg ir orgId
  revertIf (a.effectiveRole ir msg.timestamp orgId msg.sender ≠ ROLE_ADMIN)
    (.missingPermission orgId msg.sender PERM_ASSIGN_ROLES)
  revertIf (¬ isValidRole role) (.invalidRole role)
  revertIf (role = ROLE_ADMIN ∧ (permission = PERM_ASSIGN_ROLES ∨ permission = PERM_MANAGE_MEMBERS)
    ∧ state = .denied) .cannotDisableAdminGovernance
  return ({ a with permissionOverride := set₃ a.permissionOverride orgId role permission state },
    [.permissionUpdated orgId role permission state msg.sender])

/-! ## Application access -/

def registerApplication (msg : Msg) (orgId : Nat) (appId metadataHash : Bytes32) : Result := do
  requireActiveOrg ir orgId
  a.requirePermission ir msg.timestamp orgId msg.sender PERM_MANAGE_APPS
  revertIf (appId = 0#256 ∨ metadataHash = 0#256) .emptyHash
  revertIf (a.applicationRegistered orgId appId) (.applicationAlreadyRegistered orgId appId)
  return ({ a with
      applicationRegistered := set₂ a.applicationRegistered orgId appId true
      applicationMetadata := set₂ a.applicationMetadata orgId appId metadataHash },
    [.applicationRegistered orgId appId metadataHash msg.sender])

def setAppAccess (msg : Msg) (orgId : Nat) (appId role : Bytes32) (allowed : Bool) : Result := do
  requireActiveOrg ir orgId
  a.requirePermission ir msg.timestamp orgId msg.sender PERM_MANAGE_APPS
  revertIf (¬ a.applicationRegistered orgId appId) (.applicationNotRegistered orgId appId)
  revertIf (¬ isValidRole role) (.invalidRole role)
  return ({ a with appRoleAccess := set₃ a.appRoleAccess orgId appId role allowed },
    [.appAccessChanged orgId appId role allowed msg.sender])

end OrgAccessManager

/-! ## The external interface -/

/-- One call of a state-changing external function of `OrgAccessManager`. -/
inductive AccessCall where
  | addMember (orgId : Nat) (wallet : Address) (role : Bytes32) (expiresAt : Uint64)
  | assignRole (orgId : Nat) (wallet : Address) (role : Bytes32) (expiresAt : Uint64)
  | setRoleExpiry (orgId : Nat) (wallet : Address) (expiresAt : Uint64)
  | removeMember (orgId : Nat) (wallet : Address)
  | setPermission (orgId : Nat) (role permission : Bytes32) (state : Override)
  | registerApplication (orgId : Nat) (appId metadataHash : Bytes32)
  | setAppAccess (orgId : Nat) (appId role : Bytes32) (allowed : Bool)
deriving DecidableEq

def AccessCall.exec (a : OrgAccessManager) (ir : IdentityRegistry) (msg : Msg) :
    AccessCall → OrgAccessManager.Result
  | .addMember orgId wallet role expiresAt => a.addMember ir msg orgId wallet role expiresAt
  | .assignRole orgId wallet role expiresAt => a.assignRole ir msg orgId wallet role expiresAt
  | .setRoleExpiry orgId wallet expiresAt => a.setRoleExpiry ir msg orgId wallet expiresAt
  | .removeMember orgId wallet => a.removeMember ir msg orgId wallet
  | .setPermission orgId role permission state => a.setPermission ir msg orgId role permission state
  | .registerApplication orgId appId metadataHash =>
      a.registerApplication ir msg orgId appId metadataHash
  | .setAppAccess orgId appId role allowed => a.setAppAccess ir msg orgId appId role allowed

/-- The organization a call of `OrgAccessManager` is about: every function has one. -/
def AccessCall.orgId : AccessCall → Nat
  | .addMember orgId .. | .assignRole orgId .. | .setRoleExpiry orgId .. | .removeMember orgId _
  | .setPermission orgId .. | .registerApplication orgId .. | .setAppAccess orgId .. => orgId

end OwneX
