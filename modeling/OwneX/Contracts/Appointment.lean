import OwneX.Contracts.Runs

set_option autoImplicit false

/-! # Who makes an administrator

The permissions to manage members and to assign roles are not tied to any role: the default matrix
gives them to administrators, and an override may give them to any other role of the organization.
Nothing compares the role that is handed out with the role of the caller, so whoever was delegated
one of the two can make administrators, too. There are three ways to do so (`Appoints`), and without
a delegation none of them is open to anybody but an administrator. -/

namespace OwneX

open Storage

/-- The ways in which a caller with the role `role` in `o` makes `wallet` an administrator: adding
    it, assigning it the role, or giving a stored administrator more time. Each needs an override
    that allows `role` what administrators are allowed by default. -/
inductive Appoints (a : OrgAccessManager) (o : Nat) (role : Bytes32) (wallet : Address) :
    AccessCall → Prop where
  | add {expiresAt : Uint64}
      (delegated : a.permissionOverride o role PERM_MANAGE_MEMBERS = .allowed)
      (fresh : (a.memberships o wallet).role = ROLE_NONE) :
      Appoints a o role wallet (.addMember o wallet ROLE_ADMIN expiresAt)
  | assign {expiresAt : Uint64}
      (delegated : a.permissionOverride o role PERM_ASSIGN_ROLES = .allowed)
      (member : (a.memberships o wallet).role ≠ ROLE_NONE) :
      Appoints a o role wallet (.assignRole o wallet ROLE_ADMIN expiresAt)
  | extend {expiresAt : Uint64}
      (delegated : a.permissionOverride o role PERM_ASSIGN_ROLES = .allowed)
      (admin : (a.memberships o wallet).role = ROLE_ADMIN) :
      Appoints a o role wallet (.setRoleExpiry o wallet expiresAt)

/-- By default no role but `ROLE_ADMIN` manages members or assigns roles. -/
theorem defaultPermission_governance {role permission : Bytes32} (hrole : role ≠ ROLE_ADMIN)
    (hperm : permission = PERM_MANAGE_MEMBERS ∨ permission = PERM_ASSIGN_ROLES) :
    defaultPermission role permission = false := by
  unfold defaultPermission
  rw [if_neg hrole]
  rcases hperm with rfl | rfl
  · split_ifs <;> decide
  · split_ifs <;> decide

section Call

variable {a a' : OrgAccessManager} {ir : IdentityRegistry} {msg : Msg} {c : AccessCall}
  {events : List AccessEvent} {o : Nat}

/-- A permission to govern is an administrator's or a delegated one. -/
theorem Authorized.delegated {permission : Bytes32} (h : Authorized a ir msg o permission)
    (hcaller : a.effectiveRole ir msg.timestamp o msg.sender ≠ ROLE_ADMIN)
    (hperm : permission = PERM_MANAGE_MEMBERS ∨ permission = PERM_ASSIGN_ROLES) :
    a.permissionOverride o (a.effectiveRole ir msg.timestamp o msg.sender) permission =
      .allowed := by
  have hpermitted := h.permitted
  unfold OrgAccessManager.hasPermission at hpermitted
  simp only [h.organization, not_true, if_false] at hpermitted
  split at hpermitted
  · cases hpermitted
  · split at hpermitted
    next hallowed => exact hallowed
    · cases hpermitted
    · rw [defaultPermission_governance hcaller hperm] at hpermitted
      cases hpermitted

/-- A membership that a call changed is the one the call is about. -/
theorem memberships_setMembership_ne {orgId : Nat} {wallet v : Address} {m : Membership}
    (h : (a.setMembership orgId wallet m).memberships o v ≠ a.memberships o v) :
    o = orgId ∧ v = wallet ∧ (a.setMembership orgId wallet m).memberships o v = m := by
  unfold OrgAccessManager.setMembership at h ⊢
  simp only [set₂_apply] at h ⊢
  by_cases hown : o = orgId ∧ v = wallet
  · rw [if_pos hown]
    exact ⟨hown.1, hown.2, rfl⟩
  · rw [if_neg hown] at h
    exact absurd rfl h

/-- What a call by anybody but an administrator of `o` may do to a record in `o`: leave it, appoint
    an administrator, or write a record that is none. -/
theorem AccessStep.record (h : AccessStep a ir msg c a' events)
    (hcaller : a.effectiveRole ir msg.timestamp o msg.sender ≠ ROLE_ADMIN) (wallet : Address) :
    a'.memberships o wallet = a.memberships o wallet ∨
      Appoints a o (a.effectiveRole ir msg.timestamp o msg.sender) wallet c ∨
      (a'.memberships o wallet).role ≠ ROLE_ADMIN := by
  by_cases hsame : a'.memberships o wallet = a.memberships o wallet
  · exact .inl hsame
  refine .inr ?_
  cases h with
  | @addMember orgId v role expiresAt hauth _ _ _ hfresh =>
      obtain ⟨rfl, rfl, hnew⟩ := memberships_setMembership_ne hsame
      by_cases hrole : role = ROLE_ADMIN
      · rw [hrole]
        exact .inl (.add (hauth.delegated hcaller (.inl rfl)) hfresh)
      · refine .inr ?_
        show ((a.setMembership _ _ _).memberships _ _).role ≠ ROLE_ADMIN
        rw [hnew]
        exact hrole
  | @assignRole orgId v role expiresAt hauth _ _ _ _ _ hmember =>
      obtain ⟨rfl, rfl, hnew⟩ := memberships_setMembership_ne hsame
      by_cases hrole : role = ROLE_ADMIN
      · rw [hrole]
        exact .inl (.assign (hauth.delegated hcaller (.inr rfl)) hmember)
      · refine .inr ?_
        rw [hnew]
        exact hrole
  | @setRoleExpiry orgId v expiresAt hauth =>
      obtain ⟨rfl, rfl, hnew⟩ := memberships_setMembership_ne hsame
      by_cases hrole : (a.memberships o wallet).role = ROLE_ADMIN
      · exact .inl (.extend (hauth.delegated hcaller (.inr rfl)) hrole)
      · refine .inr ?_
        rw [hnew]
        exact hrole
  | removeMember =>
      obtain ⟨rfl, rfl, hnew⟩ := memberships_setMembership_ne hsame
      refine .inr ?_
      show ((a.setMembership _ _ _).memberships _ _).role ≠ ROLE_ADMIN
      rw [hnew]
      decide
  | setPermission => exact absurd rfl hsame
  | registerApplication => exact absurd rfl hsame
  | setAppAccess => exact absurd rfl hsame

/-- The same record in the same registry gives the same role. -/
theorem OrgAccessManager.effectiveRole_congr {now : Nat} {wallet : Address}
    (h : a'.memberships o wallet = a.memberships o wallet) :
    a'.effectiveRole ir now o wallet = a.effectiveRole ir now o wallet := by
  unfold effectiveRole
  rw [h]

/-- An administrator is the root admin or has the role stored. -/
theorem OrgAccessManager.admin_cases {now : Nat} {wallet : Address}
    (h : a.effectiveRole ir now o wallet = ROLE_ADMIN) :
    (ir.isActive wallet = true ∧ ir.orgRootAdmin o = wallet) ∨
      (a.memberships o wallet).role = ROLE_ADMIN := by
  rcases a.effectiveRole_cases ir now o wallet with hnone | ⟨-, hactive, hseat⟩ | ⟨hstored, -⟩
  · rw [hnone] at h
    exact absurd h (by decide)
  · exact .inl ⟨hactive, hseat⟩
  · exact .inr (hstored ▸ h)

end Call

/-- A call by a wallet that is no administrator of `o` makes an administrator of `o`, stored or
    effective at any time, only as an appointment that was delegated to the wallet's role. -/
theorem AccessCall.appoints {a a' : OrgAccessManager} {ir : IdentityRegistry} {msg : Msg}
    {c : AccessCall} {events : List AccessEvent} {o : Nat}
    (hexec : c.exec a ir msg = .ok (a', events))
    (hcaller : a.effectiveRole ir msg.timestamp o msg.sender ≠ ROLE_ADMIN) :
    (∀ wallet, (a.memberships o wallet).role ≠ ROLE_ADMIN →
      (a'.memberships o wallet).role = ROLE_ADMIN →
      Appoints a o (a.effectiveRole ir msg.timestamp o msg.sender) wallet c) ∧
    ∀ now wallet, a.effectiveRole ir now o wallet ≠ ROLE_ADMIN →
      a'.effectiveRole ir now o wallet = ROLE_ADMIN →
      Appoints a o (a.effectiveRole ir msg.timestamp o msg.sender) wallet c := by
  have hstep := AccessCall.exec_eq_ok.1 hexec
  refine ⟨fun wallet hbefore hafter => ?_, fun now wallet hbefore hafter => ?_⟩
  · rcases hstep.record hcaller wallet with hsame | happoints | hother
    · rw [hsame] at hafter
      exact absurd hafter hbefore
    · exact happoints
    · exact absurd hafter hother
  · rcases hstep.record hcaller wallet with hsame | happoints | hother
    · rw [OrgAccessManager.effectiveRole_congr hsame] at hafter
      exact absurd hafter hbefore
    · exact happoints
    · -- The registry is as before, so a seat would have counted before the call.
      rcases OrgAccessManager.admin_cases hafter with ⟨hactive, hseat⟩ | hstored
      · refine absurd ?_ hbefore
        unfold OrgAccessManager.effectiveRole
        rw [if_neg (by simp [hactive]), if_pos hseat]
      · exact absurd hstored hother

/-! ## A delegated manager -/

/-- Managers of organization 1 may manage members, and a fourth wallet has an identity. -/
def Sample.delegated : World Ledger :=
  Sample.after [
    Sample.tx Sample.alice 105
      (.access (.setPermission 1 ROLE_MANAGER PERM_MANAGE_MEMBERS .allowed)),
    Sample.tx Sample.owner 105 (.registry (.registerIdentity 10))]

/-- What Bob, a manager, does by adding that wallet with a role. -/
theorem Sample.bob_adds (role : Bytes32) (hvalid : isValidRole role = true) :
    ∃ a' events, (AccessCall.addMember 1 Sample.owner role 0).exec Sample.delegated.access
      Sample.delegated.registry ⟨Sample.bob, 106⟩ = .ok (a', events) ∧
      (a'.memberships 1 Sample.owner).role = role := by
  refine ⟨_, _, AccessCall.exec_eq_ok.2 (.addMember ⟨by decide +kernel, by decide +kernel⟩
    (by decide) hvalid (by decide +kernel) (by decide +kernel) (by decide)), ?_⟩
  exact congrArg Membership.role (set₂_same _ _ _ _)

/-- Bob makes an administrator. -/
theorem Sample.bob_appoints :
    ¬ ∀ (w : World Ledger) (msg : Msg) (c : AccessCall) (a' : OrgAccessManager)
        (events : List AccessEvent) (o : Nat),
      w.Reachable → c.exec w.access w.registry msg = .ok (a', events) →
      w.effectiveRole msg.timestamp o msg.sender ≠ ROLE_ADMIN →
      (∀ wallet, a'.effectiveRole w.registry msg.timestamp o wallet = ROLE_ADMIN →
        w.effectiveRole msg.timestamp o wallet = ROLE_ADMIN) ∧
      ∀ wallet, (a'.memberships o wallet).role = ROLE_ADMIN →
        (w.access.memberships o wallet).role = ROLE_ADMIN := by
  intro hall
  have hreach : Sample.delegated.Reachable := Sample.after_reachable _
  obtain ⟨a', events, hexec, hrole⟩ := Sample.bob_adds ROLE_ADMIN (by decide)
  have hbefore := (hall _ _ _ a' events 1 hreach hexec (by decide +kernel)).2 Sample.owner hrole
  revert hbefore
  decide +kernel

/-- Adding the wallet as a user makes nobody an administrator. -/
theorem Sample.bob_appoints_no_user :
    ∃ a' events, (AccessCall.addMember 1 Sample.owner ROLE_USER 0).exec Sample.delegated.access
      Sample.delegated.registry ⟨Sample.bob, 106⟩ = .ok (a', events) ∧
      ∀ wallet, (Sample.delegated.access.memberships 1 wallet).role ≠ ROLE_ADMIN →
        (a'.memberships 1 wallet).role ≠ ROLE_ADMIN := by
  obtain ⟨a', events, hexec, -⟩ := Sample.bob_adds ROLE_USER (by decide)
  refine ⟨a', events, hexec, fun wallet hbefore hafter => ?_⟩
  have happoints := (AccessCall.appoints hexec (o := 1) (by decide +kernel)).1 wallet hbefore hafter
  cases happoints

end OwneX
