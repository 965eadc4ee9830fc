import OwneX.Contracts.OrgAccessManager

set_option autoImplicit false

/-! # What a call of the access manager can do

`AccessStep a ir msg c a' events` is to `OrgAccessManager` what `RegistryStep` is to the registry:
the guards every successful call passed, the storage and the events it leaves. -/

namespace OwneX

open Storage

/-- The caller of a permission-gated function: `permission` granted in an active organization. -/
structure Authorized (a : OrgAccessManager) (ir : IdentityRegistry) (msg : Msg) (orgId : Nat)
    (permission : Bytes32) : Prop where
  organization : ir.isOrganizationActive orgId = true
  permitted : a.hasPermission ir msg.timestamp orgId msg.sender permission = true

inductive AccessStep (a : OrgAccessManager) (ir : IdentityRegistry) (msg : Msg) :
    AccessCall → OrgAccessManager → List AccessEvent → Prop where
  | addMember {orgId : Nat} {wallet : Address} {role : Bytes32} {expiresAt : Uint64}
      (caller : Authorized a ir msg orgId PERM_MANAGE_MEMBERS)
      (nonzero : wallet ≠ 0#160) (valid : isValidRole role = true)
      (active : ir.isActive wallet = true) (fresh : (a.memberships orgId wallet).role = ROLE_NONE)
      (future : expiresAt ≠ 0#64 → msg.timestamp < expiresAt.toNat) :
      AccessStep a ir msg (.addMember orgId wallet role expiresAt)
        { a.setMembership orgId wallet
            { role, joinedAt := uint64 msg.timestamp, expiresAt } with
          memberIndex := set₂ a.memberIndex orgId wallet (a.memberList orgId).length
          memberList := Function.update a.memberList orgId (a.memberList orgId ++ [wallet]) }
        [.memberAdded orgId wallet role expiresAt msg.sender,
         .roleAssigned orgId wallet ROLE_NONE role expiresAt msg.sender]
  | assignRole {orgId : Nat} {wallet : Address} {role : Bytes32} {expiresAt : Uint64}
      (caller : Authorized a ir msg orgId PERM_ASSIGN_ROLES)
      (notSelf : wallet ≠ msg.sender) (notAdmin : wallet ≠ ir.orgRootAdmin orgId)
      (valid : isValidRole role = true) (active : ir.isActive wallet = true)
      (future : expiresAt ≠ 0#64 → msg.timestamp < expiresAt.toNat)
      (member : (a.memberships orgId wallet).role ≠ ROLE_NONE) :
      AccessStep a ir msg (.assignRole orgId wallet role expiresAt)
        (a.setMembership orgId wallet { a.memberships orgId wallet with role, expiresAt })
        [.roleAssigned orgId wallet (a.memberships orgId wallet).role role expiresAt msg.sender]
  | setRoleExpiry {orgId : Nat} {wallet : Address} {expiresAt : Uint64}
      (caller : Authorized a ir msg orgId PERM_ASSIGN_ROLES)
      (notAdmin : wallet ≠ ir.orgRootAdmin orgId)
      (future : expiresAt ≠ 0#64 → msg.timestamp < expiresAt.toNat)
      (member : (a.memberships orgId wallet).role ≠ ROLE_NONE) :
      AccessStep a ir msg (.setRoleExpiry orgId wallet expiresAt)
        (a.setMembership orgId wallet { a.memberships orgId wallet with expiresAt })
        [.roleExpiryUpdated orgId wallet (a.memberships orgId wallet).expiresAt expiresAt
          msg.sender]
  | removeMember {orgId : Nat} {wallet last : Address}
      (caller : Authorized a ir msg orgId PERM_MANAGE_MEMBERS)
      (notSelf : wallet ≠ msg.sender) (notAdmin : wallet ≠ ir.orgRootAdmin orgId)
      (member : (a.memberships orgId wallet).role ≠ ROLE_NONE)
      (last_eq : (a.memberList orgId).getLast? = some last)
      (bound : a.memberIndex orgId wallet < (a.memberList orgId).length) :
      AccessStep a ir msg (.removeMember orgId wallet)
        { a.setMembership orgId wallet {} with
          memberList := Function.update a.memberList orgId
            ((a.memberList orgId).set (a.memberIndex orgId wallet) last).dropLast
          memberIndex :=
            set₂ (set₂ a.memberIndex orgId last (a.memberIndex orgId wallet)) orgId wallet 0 }
        [.memberRemoved orgId wallet (a.memberships orgId wallet).role msg.sender]
  | setPermission {orgId : Nat} {role permission : Bytes32} {state : Override}
      (organization : ir.isOrganizationActive orgId = true)
      (admin : a.effectiveRole ir msg.timestamp orgId msg.sender = ROLE_ADMIN)
      (valid : isValidRole role = true)
      (governance : ¬ (role = ROLE_ADMIN ∧
        (permission = PERM_ASSIGN_ROLES ∨ permission = PERM_MANAGE_MEMBERS) ∧ state = .denied)) :
      AccessStep a ir msg (.setPermission orgId role permission state)
        { a with permissionOverride := set₃ a.permissionOverride orgId role permission state }
        [.permissionUpdated orgId role permission state msg.sender]
  | registerApplication {orgId : Nat} {appId metadataHash : Bytes32}
      (caller : Authorized a ir msg orgId PERM_MANAGE_APPS)
      (hashes : appId ≠ 0#256 ∧ metadataHash ≠ 0#256)
      (fresh : a.applicationRegistered orgId appId = false) :
      AccessStep a ir msg (.registerApplication orgId appId metadataHash)
        { a with
          applicationRegistered := set₂ a.applicationRegistered orgId appId true
          applicationMetadata := set₂ a.applicationMetadata orgId appId metadataHash }
        [.applicationRegistered orgId appId metadataHash msg.sender]
  | setAppAccess {orgId : Nat} {appId role : Bytes32} {allowed : Bool}
      (caller : Authorized a ir msg orgId PERM_MANAGE_APPS)
      (registered : a.applicationRegistered orgId appId = true)
      (valid : isValidRole role = true) :
      AccessStep a ir msg (.setAppAccess orgId appId role allowed)
        { a with appRoleAccess := set₃ a.appRoleAccess orgId appId role allowed }
        [.appAccessChanged orgId appId role allowed msg.sender]

variable {a a' : OrgAccessManager} {ir : IdentityRegistry} {msg : Msg} {c : AccessCall}
  {events : List AccessEvent}

/-! ## The guards, as equations -/

theorem IdentityRegistry.organizationExists_of_active {orgId : Nat}
    (h : ir.isOrganizationActive orgId = true) : ir.organizationExists orgId = true := by
  simp only [isOrganizationActive, Bool.and_eq_true] at h
  exact h.1

namespace OrgAccessManager

@[simp] theorem requireActiveOrg_eq_ok {orgId : Nat} {u : Unit} :
    requireActiveOrg ir orgId = .ok u ↔ ir.isOrganizationActive orgId = true := by
  simp only [requireActiveOrg, bind_eq_ok, revertIf_eq_ok, Bool.not_eq_true, Bool.not_eq_false]
  constructor
  · rintro ⟨-, -, h⟩
    exact h
  · intro h
    exact ⟨(), ir.organizationExists_of_active h, h⟩

@[simp] theorem requirePermission_eq_ok {orgId now : Nat} {caller : Address} {permission : Bytes32}
    {u : Unit} :
    a.requirePermission ir now orgId caller permission = .ok u ↔
      a.hasPermission ir now orgId caller permission = true := by
  simp [requirePermission]

@[simp] theorem requireFutureExpiry_eq_ok {now : Nat} {expiresAt : Uint64} {u : Unit} :
    requireFutureExpiry now expiresAt = .ok u ↔ (expiresAt ≠ 0#64 → now < expiresAt.toNat) := by
  simp [requireFutureExpiry]

end OrgAccessManager

/-! ## The inversion -/

/-- A call succeeds exactly by one of the steps. -/
theorem AccessCall.exec_eq_ok :
    c.exec a ir msg = .ok (a', events) ↔ AccessStep a ir msg c a' events := by
  constructor
  · intro h
    cases c with
    | addMember orgId wallet role expiresAt =>
        simp [exec, OrgAccessManager.addMember] at h
        obtain ⟨horg, hperm, hzero, hvalid, hactive, hfresh, hfuture, rfl, rfl⟩ := h
        exact .addMember ⟨horg, hperm⟩ hzero hvalid hactive hfresh hfuture
    | assignRole orgId wallet role expiresAt =>
        simp [exec, OrgAccessManager.assignRole] at h
        obtain ⟨horg, hperm, hself, hadmin, hvalid, hactive, hfuture, hmember, rfl, rfl⟩ := h
        exact .assignRole ⟨horg, hperm⟩ hself hadmin hvalid hactive hfuture hmember
    | setRoleExpiry orgId wallet expiresAt =>
        simp [exec, OrgAccessManager.setRoleExpiry] at h
        obtain ⟨horg, hperm, hadmin, hfuture, hmember, rfl, rfl⟩ := h
        exact .setRoleExpiry ⟨horg, hperm⟩ hadmin hfuture hmember
    | removeMember orgId wallet =>
        simp [exec, OrgAccessManager.removeMember] at h
        obtain ⟨horg, hperm, hself, hadmin, hmember, last, hlast, hbound, rfl, rfl⟩ := h
        exact .removeMember ⟨horg, hperm⟩ hself hadmin hmember hlast hbound
    | setPermission orgId role permission state =>
        simp only [exec, OrgAccessManager.setPermission, bind_eq_ok, pure_eq_ok, revertIf_eq_ok,
          OrgAccessManager.requireActiveOrg_eq_ok, Prod.mk.injEq, not_not] at h
        obtain ⟨_, horg, _, hadmin, _, hvalid, _, hgov, rfl, rfl⟩ := h
        exact .setPermission horg hadmin hvalid hgov
    | registerApplication orgId appId metadataHash =>
        simp [exec, OrgAccessManager.registerApplication] at h
        obtain ⟨horg, hperm, hhashes, hfresh, rfl, rfl⟩ := h
        exact .registerApplication ⟨horg, hperm⟩ hhashes hfresh
    | setAppAccess orgId appId role allowed =>
        simp [exec, OrgAccessManager.setAppAccess] at h
        obtain ⟨horg, hperm, hreg, hvalid, rfl, rfl⟩ := h
        exact .setAppAccess ⟨horg, hperm⟩ hreg hvalid
  · intro h
    cases h with
    | addMember hcaller hzero hvalid hactive hfresh hfuture =>
        simp [exec, OrgAccessManager.addMember, hcaller.organization, hcaller.permitted, hzero,
          hvalid, hactive, hfresh]
        exact hfuture
    | assignRole hcaller hself hadmin hvalid hactive hfuture hmember =>
        simp [exec, OrgAccessManager.assignRole, hcaller.organization, hcaller.permitted, hself,
          hadmin, hvalid, hactive, hmember]
        exact hfuture
    | setRoleExpiry hcaller hadmin hfuture hmember =>
        simp [exec, OrgAccessManager.setRoleExpiry, hcaller.organization, hcaller.permitted,
          hadmin, hmember]
        exact hfuture
    | removeMember hcaller hself hadmin hmember hlast hbound =>
        simp [exec, OrgAccessManager.removeMember, hcaller.organization, hcaller.permitted, hself,
          hadmin, hmember, hlast, hbound]
    | setPermission horg hadmin hvalid hgov =>
        simp only [exec, OrgAccessManager.setPermission, bind_eq_ok, pure_eq_ok, revertIf_eq_ok,
          OrgAccessManager.requireActiveOrg_eq_ok, not_not]
        exact ⟨(), horg, (), hadmin, (), hvalid, (), hgov, trivial⟩
    | registerApplication hcaller hhashes hfresh =>
        simp [exec, OrgAccessManager.registerApplication, hcaller.organization, hcaller.permitted,
          hhashes, hfresh]
    | setAppAccess hcaller hreg hvalid =>
        simp [exec, OrgAccessManager.setAppAccess, hcaller.organization, hcaller.permitted, hreg,
          hvalid]

end OwneX
