import OwneX.Contracts.Runs
import OwneX.Library.IndexedList

set_option autoImplicit false

/-! # Invariants of the registry and of the access manager

What every reachable storage satisfies. For the registry: the zero address is never registered, an
organization outside `1 … organizationCount` is blank, and the root admin of every other one is a
registered wallet (`RegistryInv`). For the access manager: the member list of an organization is an
indexed enumeration of the wallets with a stored role, and every stored role is one of the four
(`MembersInv`). Each is preserved by one step and so holds of every reachable state. -/

namespace OwneX

open Storage IndexedList

/-! ## The registry -/

structure RegistryInv (r : IdentityRegistry) : Prop where
  zero_unregistered : (r.identities 0#160).exists_ = false
  absent : ∀ o, r.organizationExists o = false → r.organizations o = {}
  admin_registered : ∀ o, r.organizationExists o = true →
    (r.identities (r.organizations o).rootAdmin).exists_ = true

namespace RegistryInv

variable {r r' : IdentityRegistry} {msg : Msg} {c : RegistryCall} {events : List RegistryEvent}

theorem deploy (initialOwner : Account) : RegistryInv (.deploy initialOwner) where
  zero_unregistered := rfl
  absent := fun _ _ => rfl
  admin_registered := fun o h => by
    simp [IdentityRegistry.organizationExists, IdentityRegistry.deploy] at h

/-- Registering, revoking or editing an identity other than the zero address. -/
theorem setIdentity (h : RegistryInv r) {wallet : Address} {id : Identity}
    (hwallet : wallet ≠ 0#160) (hid : id.exists_ = true) :
    RegistryInv (r.setIdentity wallet id) where
  zero_unregistered := by
    simp only [IdentityRegistry.setIdentity, Function.update_of_ne hwallet.symm]
    exact h.zero_unregistered
  absent := h.absent
  admin_registered := fun o ho => by
    simp only [IdentityRegistry.setIdentity, Function.update_apply]
    split
    · exact hid
    · exact h.admin_registered o ho

/-- Editing an organization that exists, leaving it a registered root admin. -/
theorem setOrganization (h : RegistryInv r) {orgId : Nat} {org : Organization}
    (horg : r.organizationExists orgId = true)
    (hadmin : (r.identities org.rootAdmin).exists_ = true) :
    RegistryInv (r.setOrganization orgId org) where
  zero_unregistered := h.zero_unregistered
  absent := fun o ho => by
    have hne : o ≠ orgId := by
      rintro rfl
      exact Bool.false_ne_true (ho.symm.trans horg)
    simp only [IdentityRegistry.setOrganization, Function.update_of_ne hne]
    exact h.absent o ho
  admin_registered := fun o ho => by
    simp only [IdentityRegistry.setOrganization, Function.update_apply]
    split
    · exact hadmin
    · exact h.admin_registered o ho

/-- Fields the invariant does not mention may change. -/
theorem congr (h : RegistryInv r) (hid : r'.identities = r.identities)
    (horg : r'.organizations = r.organizations)
    (hcount : r'.organizationCount = r.organizationCount) : RegistryInv r' where
  zero_unregistered := by rw [hid]; exact h.zero_unregistered
  absent := fun o ho => by
    rw [horg]
    rw [IdentityRegistry.organizationExists, hcount] at ho
    exact h.absent o ho
  admin_registered := fun o ho => by
    rw [hid, horg]
    rw [IdentityRegistry.organizationExists, hcount] at ho
    exact h.admin_registered o ho

theorem registered_ne_zero (h : RegistryInv r) {wallet : Address}
    (hw : (r.identities wallet).exists_ = true) : wallet ≠ 0#160 := by
  rintro rfl
  rw [h.zero_unregistered] at hw
  cases hw

theorem createOrganization (h : RegistryInv r) {orgId : Nat} {org : Organization}
    (hnext : orgId = r.organizationCount + 1)
    (hadmin : (r.identities org.rootAdmin).exists_ = true) :
    RegistryInv { r.setOrganization orgId org with organizationCount := orgId } where
  zero_unregistered := h.zero_unregistered
  absent := fun o ho => by
    simp [IdentityRegistry.organizationExists] at ho
    have hne : o ≠ orgId := by omega
    have hold : r.organizationExists o = false := by
      simp [IdentityRegistry.organizationExists]
      omega
    simp only [IdentityRegistry.setOrganization, Function.update_of_ne hne]
    exact h.absent o hold
  admin_registered := fun o ho => by
    simp [IdentityRegistry.organizationExists] at ho
    simp only [IdentityRegistry.setOrganization, Function.update_apply]
    split
    · exact hadmin
    · have hold : r.organizationExists o = true := by
        simp [IdentityRegistry.organizationExists]
        omega
      exact h.admin_registered o hold

theorem step (h : RegistryInv r) (hstep : RegistryStep r msg c r' events) : RegistryInv r' := by
  cases hstep with
  | setRegistrar => exact h.congr rfl rfl rfl
  | registerIdentity => exact h.setIdentity msg.sender.2 rfl
  | registerIdentityFor _ hzero => exact h.setIdentity hzero rfl
  | updateIdentityHash _ hreg => exact h.setIdentity msg.sender.2 hreg
  | revokeIdentity _ hreg => exact h.setIdentity (h.registered_ne_zero hreg) hreg
  | reactivateIdentity _ hreg => exact h.setIdentity (h.registered_ne_zero hreg) hreg
  | createOrganization _ hreg _ hnext => exact h.createOrganization (checkedSucc_eq_some hnext) hreg
  | updateOrganizationMetadata _ horg => exact h.setOrganization horg (h.admin_registered _ horg)
  | setOrganizationActive horg => exact h.setOrganization horg (h.admin_registered _ horg)
  | transferOrgRootAdmin _ horg _ hreg => exact h.setOrganization horg hreg
  | transferOwnership => exact h.congr rfl rfl rfl
  | renounceOwnership => exact h.congr rfl rfl rfl

/-- An organization exists exactly when it has a root admin. -/
theorem rootAdmin_eq_zero_iff (h : RegistryInv r) (o : Nat) :
    r.orgRootAdmin o = 0#160 ↔ r.organizationExists o = false := by
  constructor
  · intro hzero
    by_contra hexists
    have hreg := h.admin_registered o (by simpa using hexists)
    exact h.registered_ne_zero hreg hzero
  · intro habsent
    rw [IdentityRegistry.orgRootAdmin, h.absent o habsent]

end RegistryInv

/-! ## The access manager -/

structure MembersInv (a : OrgAccessManager) : Prop where
  indexed : ∀ o, Indexed (a.memberList o) (a.memberIndex o)
  listed : ∀ o w, w ∈ a.memberList o ↔ (a.memberships o w).role ≠ ROLE_NONE
  valid : ∀ o w, (a.memberships o w).role ≠ ROLE_NONE →
    isValidRole (a.memberships o w).role = true

namespace MembersInv

variable {a a' : OrgAccessManager} {ir : IdentityRegistry} {msg : Msg} {c : AccessCall}
  {events : List AccessEvent}

theorem deploy : MembersInv .deploy where
  indexed := fun _ => indexed_nil _
  listed := fun _ _ => by simp [OrgAccessManager.deploy]
  valid := fun _ _ h => by simp [OrgAccessManager.deploy] at h

/-- Fields the invariant does not mention may change. -/
theorem congr (h : MembersInv a) (hm : a'.memberships = a.memberships)
    (hl : a'.memberList = a.memberList) (hi : a'.memberIndex = a.memberIndex) : MembersInv a' where
  indexed := by rw [hl, hi]; exact h.indexed
  listed := by rw [hl, hm]; exact h.listed
  valid := by rw [hm]; exact h.valid

/-- Editing the record of a member who stays one. -/
theorem setMembership (h : MembersInv a) {orgId : Nat} {wallet : Address} {m : Membership}
    (hmember : (a.memberships orgId wallet).role ≠ ROLE_NONE) (hvalid : isValidRole m.role = true) :
    MembersInv (a.setMembership orgId wallet m) where
  indexed := h.indexed
  listed := fun o w => by
    simp only [OrgAccessManager.setMembership, set₂_apply]
    split
    · next heq =>
        obtain ⟨rfl, rfl⟩ := heq
        exact iff_of_true ((h.listed _ _).2 hmember) (isValidRole_ne_none hvalid)
    · exact h.listed o w
  valid := fun o w => by
    simp only [OrgAccessManager.setMembership, set₂_apply]
    split
    · exact fun _ => hvalid
    · exact h.valid o w

theorem addMember (h : MembersInv a) {orgId : Nat} {wallet : Address} {m : Membership}
    (hfresh : (a.memberships orgId wallet).role = ROLE_NONE) (hvalid : isValidRole m.role = true) :
    MembersInv { a.setMembership orgId wallet m with
      memberIndex := set₂ a.memberIndex orgId wallet (a.memberList orgId).length
      memberList := Function.update a.memberList orgId (a.memberList orgId ++ [wallet]) } where
  indexed := fun o => by
    by_cases ho : o = orgId
    · subst ho
      have hnot : wallet ∉ a.memberList o := fun hmem => (h.listed o wallet).1 hmem hfresh
      simp only [set₂, Function.update_self]
      exact indexed_push (h.indexed o) hnot
    · simp only [set₂, Function.update_of_ne ho]
      exact h.indexed o
  listed := fun o w => by
    simp only [OrgAccessManager.setMembership, set₂_apply]
    by_cases ho : o = orgId
    · subst ho
      by_cases hw : w = wallet
      · subst hw
        simp [isValidRole_ne_none hvalid]
      · simp [hw, h.listed]
    · simp [ho, h.listed]
  valid := fun o w => by
    simp only [OrgAccessManager.setMembership, set₂_apply]
    split
    · exact fun _ => hvalid
    · exact h.valid o w

theorem removeMember (h : MembersInv a) {orgId : Nat} {wallet last : Address}
    (hmember : (a.memberships orgId wallet).role ≠ ROLE_NONE)
    (hlast : (a.memberList orgId).getLast? = some last) :
    MembersInv { a.setMembership orgId wallet {} with
      memberList := Function.update a.memberList orgId
        (swapPop (a.memberList orgId) (a.memberIndex orgId wallet) last)
      memberIndex :=
        set₂ (set₂ a.memberIndex orgId last (a.memberIndex orgId wallet)) orgId wallet 0 } where
  indexed := fun o => by
    by_cases ho : o = orgId
    · subst ho
      have hindexed := indexed_swapPop (h.indexed o) ((h.listed o wallet).2 hmember) hlast
      simpa only [set₂, Function.update_self, swapIndex] using hindexed
    · simp only [set₂, Function.update_of_ne ho]
      exact h.indexed o
  listed := fun o w => by
    simp only [OrgAccessManager.setMembership, set₂_apply]
    by_cases ho : o = orgId
    · subst ho
      rw [Function.update_self, mem_swapPop (h.indexed o) ((h.listed o wallet).2 hmember) hlast,
        h.listed]
      by_cases hw : w = wallet <;> simp [hw]
    · simp [ho, h.listed]
  valid := fun o w => by
    simp only [OrgAccessManager.setMembership, set₂_apply]
    split
    · intro hne
      exact absurd rfl hne
    · exact h.valid o w

theorem step (h : MembersInv a) (hstep : AccessStep a ir msg c a' events) : MembersInv a' := by
  cases hstep with
  | addMember _ _ hvalid _ hfresh => exact h.addMember hfresh hvalid
  | assignRole _ _ _ hvalid _ _ hmember => exact h.setMembership hmember hvalid
  | setRoleExpiry _ _ _ hmember => exact h.setMembership hmember (h.valid _ _ hmember)
  | removeMember _ _ _ hmember hlast => exact h.removeMember hmember hlast
  | setPermission => exact h.congr rfl rfl rfl
  | registerApplication => exact h.congr rfl rfl rfl
  | setAppAccess => exact h.congr rfl rfl rfl

end MembersInv

/-! ## Reachable states -/

variable {σ : Type} [ERC721 σ]

theorem World.Reachable.registryInv {w : World σ} (h : w.Reachable) : RegistryInv w.registry := by
  refine h.invariant (P := fun w => RegistryInv w.registry) (fun _ _ => .deploy _) ?_
  intro w w' msg a events hstep hinv
  cases hstep with
  | registry hstep => exact hinv.step hstep
  | _ => exact hinv

theorem ActionStep.membersInv {w w' : World σ} {msg : Msg} {a : Action} {events : List Event}
    (hstep : ActionStep w msg a w' events) (hinv : MembersInv w.access) : MembersInv w'.access := by
  cases hstep with
  | access hstep => exact hinv.step hstep
  | _ => exact hinv

theorem World.Reachable.membersInv {w : World σ} (h : w.Reachable) : MembersInv w.access :=
  h.invariant (P := fun w => MembersInv w.access) (fun _ _ => .deploy)
    fun _ _ _ _ _ hstep hinv => hstep.membersInv hinv

end OwneX
