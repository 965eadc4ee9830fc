import OwneX.Contracts.Invariants
import OwneX.Platform.Chain

set_option autoImplicit false

/-! # The members of an organization, on chain and in the roster

In every reachable state the contract's member list enumerates exactly the wallets with a stored
role, and the roster the platform shows (`readOrgMembers`) adds the one wallet that can hold a role
without being stored, the root admin. -/

namespace OwneX

open IndexedList

/-! ## Who holds a role -/

/-- A role that applies is the root admin's seat or a stored membership. -/
theorem OrgAccessManager.stored_or_root {a : OrgAccessManager} {ir : IdentityRegistry}
    {now orgId : Nat} {wallet : Address} (h : a.effectiveRole ir now orgId wallet ≠ ROLE_NONE) :
    ir.isActive wallet = true ∧
      (ir.orgRootAdmin orgId = wallet ∨ (a.memberships orgId wallet).role ≠ ROLE_NONE) := by
  rcases a.effectiveRole_cases ir now orgId wallet with hnone | ⟨-, hactive, hroot⟩ |
    ⟨-, hactive, hstored, -⟩
  · exact absurd hnone h
  · exact ⟨hactive, .inl hroot⟩
  · exact ⟨hactive, .inr hstored⟩

/-- Removing a member drops one entry of one list and touches no other record. -/
structure RemovedExactly (a a' : OrgAccessManager) (orgId : Nat) (wallet : Address) : Prop where
  others : ∀ o v, ¬ (o = orgId ∧ v = wallet) → a'.memberships o v = a.memberships o v
  one : (a'.memberList orgId).length + 1 = (a.memberList orgId).length
  exactly : ∀ v, v ∈ a'.memberList orgId ↔ v ∈ a.memberList orgId ∧ v ≠ wallet
  elsewhere : ∀ o, o ≠ orgId → a'.memberList o = a.memberList o

theorem MembersInv.removedExactly {a a' : OrgAccessManager} {ir : IdentityRegistry} {msg : Msg}
    {orgId : Nat} {wallet : Address} {events : List AccessEvent} (h : MembersInv a)
    (hstep : AccessStep a ir msg (.removeMember orgId wallet) a' events) :
    RemovedExactly a a' orgId wallet := by
  cases hstep with
  | removeMember _ _ _ hmember hlast =>
      have hmem := (h.listed orgId wallet).2 hmember
      refine ⟨fun o v hne => Storage.set₂_of_ne hne, ?_, fun v => ?_, fun o ho => ?_⟩
      · simp only [Function.update_self]
        exact length_swapPop hmem _
      · simp only [Function.update_self]
        exact mem_swapPop (h.indexed orgId) hmem hlast v
      · exact Function.update_of_ne ho _ _

/-! ## The roster -/

namespace Chain

variable {σ : Type} {ch : Chain σ}

theorem map_wallet_readOrgMembers (dateNow : JsNumber.TimeValue) (orgId : Nat) :
    (ch.readOrgMembers dateNow orgId).map (·.wallet) = ch.rosterWallets orgId := by
  simp [readOrgMembers, Function.comp_def]

/-- The roster lists the stored members and the root admin of an organization that has one. -/
theorem mem_rosterWallets (orgId : Nat) (v : Address) :
    v ∈ ch.rosterWallets orgId ↔ v ∈ ch.world.access.memberList orgId ∨
      (v = ch.world.registry.orgRootAdmin orgId ∧ v ≠ 0#160) := by
  unfold rosterWallets readOrganization
  by_cases hzero : (ch.world.registry.getOrganization orgId).rootAdmin = 0#160
  · have hroot : ch.world.registry.orgRootAdmin orgId = 0#160 := hzero
    simp only [hzero, if_true, Option.map_none, hroot]
    simp [OrgAccessManager.getMembers]
  · have hroot : ch.world.registry.orgRootAdmin orgId =
      (ch.world.registry.getOrganization orgId).rootAdmin := rfl
    simp only [hzero, if_false, Option.map_some, hroot]
    split
    · next hlisted =>
        simp only [List.any_eq_true, beq_iff_eq, exists_eq_right] at hlisted
        constructor
        · exact .inl
        · rintro (hv | ⟨rfl, _⟩)
          · exact hv
          · exact hlisted
    · rw [List.mem_cons]
      constructor
      · rintro (rfl | hv)
        · exact .inr ⟨rfl, hzero⟩
        · exact .inl hv
      · rintro (hv | ⟨rfl, _⟩)
        · exact .inr hv
        · exact .inl rfl

theorem nodup_rosterWallets (h : MembersInv ch.world.access) (orgId : Nat) :
    (ch.rosterWallets orgId).Nodup := by
  have hnodup : (ch.world.access.getMembers orgId).Nodup := (h.indexed orgId).nodup
  unfold rosterWallets
  split
  · exact hnodup
  · dsimp only
    split
    · exact hnodup
    · next hlisted =>
        rw [List.nodup_cons]
        exact ⟨fun hmem => hlisted (List.any_eq_true.2 ⟨_, hmem, by simp⟩), hnodup⟩

/-- A wallet listed by the roster is listed once. -/
theorem count_readOrgMembers (h : MembersInv ch.world.access) (dateNow : JsNumber.TimeValue)
    {orgId : Nat} {v : Address} (hv : v ∈ ch.rosterWallets orgId) :
    ((ch.readOrgMembers dateNow orgId).map (·.wallet)).count v = 1 := by
  rw [map_wallet_readOrgMembers]
  exact List.count_eq_one_of_mem (nodup_rosterWallets h orgId) hv

end Chain

/-- Member enumeration is exact: the list, the positions and the stored roles agree, a removal
    removes its member only, and the roster lists each holder of a role and the root admin once. -/
theorem World.Reachable.enumeration_exact {σ : Type} [ERC721 σ] {w : World σ} (h : w.Reachable)
    (orgId : Nat) :
    (w.access.memberList orgId).Nodup ∧
    (∀ v, v ∈ w.access.memberList orgId ↔ (w.access.memberships orgId v).role ≠ ROLE_NONE) ∧
    (∀ v ∈ w.access.memberList orgId,
      (w.access.memberList orgId)[w.access.memberIndex orgId v]? = some v) ∧
    (∀ msg wallet a' events,
      w.access.removeMember w.registry msg orgId wallet = .ok (a', events) →
      RemovedExactly w.access a' orgId wallet) ∧
    (∀ blockTime dateNow v,
      w.effectiveRole blockTime orgId v ≠ ROLE_NONE ∨
        (w.registry.organizationExists orgId = true ∧ v = w.registry.orgRootAdmin orgId) →
      (((⟨w, blockTime⟩ : Chain σ).readOrgMembers dateNow orgId).map (·.wallet)).count v = 1) := by
  have hm := h.membersInv
  have hr := h.registryInv
  refine ⟨(hm.indexed orgId).nodup, hm.listed orgId, (hm.indexed orgId).get, ?_, ?_⟩
  · intro msg wallet a' events hcall
    exact hm.removedExactly
      (AccessCall.exec_eq_ok (c := .removeMember orgId wallet).1 hcall)
  · intro blockTime dateNow v hv
    have hlisted : v ∈ (⟨w, blockTime⟩ : Chain σ).rosterWallets orgId := by
      rw [Chain.mem_rosterWallets]
      rcases hv with hrole | ⟨hexists, rfl⟩
      · obtain ⟨hactive, hroot | hstored⟩ := OrgAccessManager.stored_or_root hrole
        · refine .inr ⟨hroot.symm, ?_⟩
          simp only [IdentityRegistry.isActive, Bool.and_eq_true] at hactive
          exact hr.registered_ne_zero hactive.1
        · exact .inl ((hm.listed orgId v).2 hstored)
      · refine .inr ⟨rfl, fun hzero => ?_⟩
        rw [(hr.rootAdmin_eq_zero_iff orgId).1 hzero] at hexists
        cases hexists
    exact Chain.count_readOrgMembers hm dateNow hlisted

/-- The sample organization after Bob has been removed. -/
def Sample.departed : World Ledger :=
  Sample.after [Sample.tx Sample.alice 105 (.access (.removeMember 1 Sample.bob))]

theorem Sample.departed_enumeration :
    (Sample.departed.access.memberList 1).Nodup ∧
    (((⟨Sample.departed, 106⟩ : Chain Ledger).readOrgMembers ⟨106000, by decide⟩ 1).map
      (·.wallet)).count (Sample.alice : Address) = 1 := by
  have hreach : Sample.departed.Reachable := Sample.after_reachable _
  have h := hreach.enumeration_exact 1
  refine ⟨h.1, h.2.2.2.2 106 ⟨106000, by decide⟩ Sample.alice (.inr ?_)⟩
  decide +kernel

end OwneX
