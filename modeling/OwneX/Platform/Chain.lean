import OwneX.Contracts.World
import OwneX.Library.JsNumber

set_option autoImplicit false

/-! # `lib/chain/index.ts`: reading the contracts

The read-only chain access of the route handlers. A `Chain` is what one `eth_call` sees: the storage
of the three contracts and the time of the latest block. Addresses and hashes are compared as the
values they spell, so the case of a hexadecimal string plays no part; integers arrive through
`Number(..)`. `Date.now()` is the argument `dateNow`. -/

namespace OwneX

open JsNumber

structure Chain (σ : Type) where
  world : World σ
  blockTime : Nat

/-! ## Role and permission names -/

inductive RoleName where
  | admin
  | manager
  | auditor
  | user
  | none
deriving DecidableEq

def roleName (roleHash : Bytes32) : RoleName :=
  if roleHash = ROLE_ADMIN then .admin
  else if roleHash = ROLE_MANAGER then .manager
  else if roleHash = ROLE_AUDITOR then .auditor
  else if roleHash = ROLE_USER then .user
  else .none

def roleHash : RoleName → Bytes32
  | .admin => ROLE_ADMIN
  | .manager => ROLE_MANAGER
  | .auditor => ROLE_AUDITOR
  | .user => ROLE_USER
  | .none => ROLE_NONE

theorem roleName_roleHash (name : RoleName) : roleName (roleHash name) = name := by
  cases name <;> decide

/-- A valid role has a name, and nothing else does. -/
theorem roleName_eq_none_iff (h : Bytes32) : roleName h = .none ↔ isValidRole h = false := by
  unfold roleName isValidRole
  split_ifs <;> simp_all

inductive PermissionKey where
  | manageMembers
  | assignRoles
  | mintAssets
  | transferAssets
  | viewAudit
  | manageApps
deriving DecidableEq

/-- `PERMISSION_LIST`, without its labels. -/
def permissionList : List (PermissionKey × Bytes32) :=
  [(.manageMembers, PERM_MANAGE_MEMBERS), (.assignRoles, PERM_ASSIGN_ROLES),
    (.mintAssets, PERM_MINT_ASSETS), (.transferAssets, PERM_TRANSFER_ASSETS),
    (.viewAudit, PERM_VIEW_AUDIT), (.manageApps, PERM_MANAGE_APPS)]

/-! ## Authoritative reads -/

structure IdentityState where
  wallet : Address
  registered : Bool
  active : Bool
  identityHash : Option Bytes32
  registeredAt : Option Nat
deriving DecidableEq

structure MembershipState where
  role : RoleName
  joinedAt : Option Nat
  expiresAt : Option Nat
  expired : Bool
deriving DecidableEq

structure MembershipEntry where
  orgId : Nat
  role : RoleName
  active : Bool
  isRootAdmin : Bool
deriving DecidableEq

structure AssetState where
  tokenId : Nat
  orgId : Nat
  assetHash : Bytes32
  assignedTo : Address
  owner : Address
  active : Bool
  mintedAt : Nat
  transferCount : Nat
deriving DecidableEq

structure OrganizationState where
  orgId : Nat
  rootAdmin : Address
  metadataHash : Bytes32
  active : Bool
  createdAt : Nat
deriving DecidableEq

namespace Chain

variable {σ : Type} [ERC721 σ] (ch : Chain σ)

def readIdentity (wallet : Address) : IdentityState :=
  let record := ch.world.registry.getIdentity wallet
  { wallet
    registered := record.exists_
    active := record.exists_ && record.active
    identityHash := if record.exists_ then some record.identityHash else none
    registeredAt := if record.exists_ then some (toNumber record.registeredAt.toNat) else none }

/-- The role that applies right now. -/
def readEffectiveRole (orgId : Nat) (wallet : Address) : RoleName :=
  roleName (ch.world.effectiveRole ch.blockTime orgId wallet)

def readHasPermission (orgId : Nat) (wallet : Address) (permissionHash : Bytes32) : Bool :=
  ch.world.hasPermission ch.blockTime orgId wallet permissionHash

/-- The stored membership. `expired` compares it with the server's own clock. -/
def readMembership (dateNow : TimeValue) (orgId : Nat) (wallet : Address) : MembershipState :=
  let m := ch.world.access.getMembership orgId wallet
  let joinedAt := toNumber m.joinedAt.toNat
  let expiresAt := toNumber m.expiresAt.toNat
  { role := roleName m.role
    joinedAt := if joinedAt = 0 then none else some joinedAt
    expiresAt := if expiresAt = 0 then none else some expiresAt
    expired := expiresAt != 0 && decide (toNumber (expiresAt * 1000) ≤ dateNow.1) }

/-- `null` for an organization without a root admin, that is, one that does not exist. -/
def readOrganization (orgId : Nat) : Option OrganizationState :=
  let org := ch.world.registry.getOrganization orgId
  if org.rootAdmin = 0#160 then none
  else some
    { orgId
      rootAdmin := org.rootAdmin
      metadataHash := org.metadataHash
      active := org.active
      createdAt := toNumber org.createdAt.toNat }

/-- Ethers refuses a number that is not a safe integer, `ownerOf` reverts for a token that does not
    exist, and `null` is a token without a record. -/
def readAsset (tokenId : Nat) : Except String (Option AssetState) :=
  let record := ch.world.nft.getAsset tokenId
  if 2 ^ 53 ≤ tokenId then .error "overflow"
  else if toNumber record.orgId = 0 then .ok none
  else if ch.world.nft.ownerOf tokenId = 0#160 then .error "ERC721NonexistentToken"
  else .ok <| some
    { tokenId
      orgId := toNumber record.orgId
      assetHash := record.assetHash
      assignedTo := record.assignedTo
      owner := ch.world.nft.ownerOf tokenId
      active := record.active
      mintedAt := toNumber record.mintedAt.toNat
      transferCount := toNumber record.transferCount }

def readAssetsOfOrganization (orgId : Nat) : List Nat :=
  (ch.world.nft.assetsOfOrganization orgId).map toNumber

def readCanAccessApp (orgId : Nat) (wallet : Address) (appId : Bytes32) : Bool :=
  ch.world.canAccessApp ch.blockTime orgId wallet appId

/-- The organizations in which the wallet holds a role right now. -/
def readMemberships (wallet : Address) : List MembershipEntry :=
  (List.range (toNumber ch.world.registry.organizationCount)).filterMap fun i =>
    let orgId := i + 1
    let role := ch.readEffectiveRole orgId wallet
    if role = .none then none
    else
      let org := ch.readOrganization orgId
      some
        { orgId
          role
          active := (org.map (·.active)).getD false
          isRootAdmin := org.map (·.rootAdmin) == some wallet }

/-- The application registry's own getter, `applicationRegistered(orgId, appId)`. -/
def readApplicationRegistered (orgId : Nat) (appId : Bytes32) : Bool :=
  ch.world.access.applicationRegistered orgId appId

/-! ## The members of an organization -/

end Chain

structure OrgMemberState where
  wallet : Address
  role : RoleName
  storedRole : RoleName
  joinedAt : Option Nat
  expiresAt : Option Nat
  expired : Bool
  isRootAdmin : Bool
deriving DecidableEq

namespace Chain

variable {σ : Type} [ERC721 σ] (ch : Chain σ)

/-- The contract's enumeration, with the root admin in front unless it is already listed. -/
def rosterWallets (orgId : Nat) : List Address :=
  let listed := ch.world.access.getMembers orgId
  match (ch.readOrganization orgId).map (·.rootAdmin) with
  | none => listed
  | some rootAdmin => if listed.any (· == rootAdmin) then listed else rootAdmin :: listed

def readOrgMembers (dateNow : TimeValue) (orgId : Nat) : List OrgMemberState :=
  let rootAdmin := (ch.readOrganization orgId).map (·.rootAdmin)
  (ch.rosterWallets orgId).map fun wallet =>
    let membership := ch.readMembership dateNow orgId wallet
    { wallet
      role := ch.readEffectiveRole orgId wallet
      storedRole := membership.role
      joinedAt := membership.joinedAt
      expiresAt := membership.expiresAt
      expired := membership.expired
      isRootAdmin := rootAdmin == some wallet }

end Chain

end OwneX
