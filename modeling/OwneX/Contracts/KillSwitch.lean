import OwneX.Contracts.Custody

set_option autoImplicit false

/-! # What a revoked wallet can still do

Revoking an identity is documented as a kill switch: the other contracts ask `isActive` before any
privileged action. Every function of the access manager and of the asset contract does, through
`hasPermission` or `effectiveRole`. In the registry itself the three functions of an organization's
root admin compare the caller with the seat and stop there, so the kill switch works exactly for the
wallets that hold no seat. -/

namespace OwneX

variable {σ : Type} [ERC721 σ]

/-- A registered wallet that has been revoked and has no platform authority. -/
structure Killed (r : IdentityRegistry) (wallet : Address) : Prop where
  registered : r.isRegistered wallet = true
  inactive : r.isActive wallet = false
  notRegistrar : r.isRegistrar wallet = false
  notOwner : r.owner ≠ wallet

/-- Organizations, memberships, the permission matrix, applications and assets are as they were. -/
structure SameRecords (w w' : World σ) : Prop where
  organizations : w'.registry.organizations = w.registry.organizations
  memberships : w'.access.memberships = w.access.memberships
  memberList : w'.access.memberList = w.access.memberList
  permissionOverride : w'.access.permissionOverride = w.access.permissionOverride
  applicationRegistered : w'.access.applicationRegistered = w.access.applicationRegistered
  applicationMetadata : w'.access.applicationMetadata = w.access.applicationMetadata
  appRoleAccess : w'.access.appRoleAccess = w.access.appRoleAccess
  ownerOf : ∀ t, w'.nft.ownerOf t = w.nft.ownerOf t
  tokenURI : ∀ t, w'.nft.tokenURI t = w.nft.tokenURI t
  assetHash : ∀ t, (w'.nft.assets t).assetHash = (w.nft.assets t).assetHash
  assetActive : ∀ t, (w'.nft.assets t).active = (w.nft.assets t).active

/-! ## A revoked wallet has no permission -/

theorem OrgAccessManager.effectiveRole_inactive {ir : IdentityRegistry} {wallet : Address}
    (h : ir.isActive wallet = false) (a : OrgAccessManager) (now orgId : Nat) :
    a.effectiveRole ir now orgId wallet = ROLE_NONE := by
  simp [effectiveRole, h]

theorem OrgAccessManager.hasPermission_inactive {ir : IdentityRegistry} {wallet : Address}
    (h : ir.isActive wallet = false) (a : OrgAccessManager) (now orgId : Nat)
    (permission : Bytes32) : a.hasPermission ir now orgId wallet permission = false := by
  simp [hasPermission, effectiveRole_inactive h]

section Steps

variable {a a' : OrgAccessManager} {ir : IdentityRegistry} {msg : Msg}

theorem Authorized.active {orgId : Nat} {permission : Bytes32}
    (h : Authorized a ir msg orgId permission) : ir.isActive msg.sender = true := by
  by_contra hinactive
  have hnone := OrgAccessManager.hasPermission_inactive (by simpa using hinactive) a msg.timestamp
    orgId permission
  rw [h.permitted] at hnone
  cases hnone

/-- Every call of the access manager that succeeds is by an active identity. -/
theorem AccessStep.active {c : AccessCall} {events : List AccessEvent}
    (h : AccessStep a ir msg c a' events) : ir.isActive msg.sender = true := by
  cases h with
  | addMember hcaller => exact hcaller.active
  | assignRole hcaller => exact hcaller.active
  | setRoleExpiry hcaller => exact hcaller.active
  | removeMember hcaller => exact hcaller.active
  | setPermission _ hadmin =>
      by_contra hinactive
      rw [OrgAccessManager.effectiveRole_inactive (by simpa using hinactive)] at hadmin
      exact absurd hadmin (by decide)
  | registerApplication hcaller => exact hcaller.active
  | setAppAccess hcaller => exact hcaller.active

variable {n n' : AssetNFT σ}

omit [ERC721 σ] in
theorem AssetAuthorized.active {tokenId : Nat} {permission : Bytes32}
    (h : AssetAuthorized n a ir msg tokenId permission) : ir.isActive msg.sender = true := by
  by_contra hinactive
  have hnone := OrgAccessManager.hasPermission_inactive (by simpa using hinactive) a msg.timestamp
    (n.assets tokenId).orgId permission
  rw [h.permitted] at hnone
  cases hnone

/-- A call of the asset contract by a revoked identity changes no asset: what is left to it are the
    emergency controls and the approvals, which move nothing while the lock is down. -/
theorem AssetStep.inactive {c : AssetCall} {events : List AssetEvent}
    (h : AssetStep n a ir msg c n' events) (hinactive : ir.isActive msg.sender = false)
    (hlocked : n.orgControlledTransfer = false) :
    n'.assets = n.assets ∧ n'.ownerOf = n.ownerOf ∧ n'.tokenURI = n.tokenURI := by
  have hcaller : ∀ {tokenId : Nat} {permission : Bytes32},
      ¬ AssetAuthorized n a ir msg tokenId permission := fun hauth => by
    rw [hauth.active] at hinactive
    cases hinactive
  cases h with
  | reassignAsset hauth => exact absurd hauth hcaller
  | revokeHeld hauth => exact absurd hauth hcaller
  | revokeMoved hauth => exact absurd hauth hcaller
  | restoreHeld hauth => exact absurd hauth hcaller
  | restoreMoved hauth => exact absurd hauth hcaller
  | updateAssetRecord hauth => exact absurd hauth hcaller
  | pause => exact ⟨rfl, rfl, rfl⟩
  | unpause => exact ⟨rfl, rfl, rfl⟩
  | transferOwnership => exact ⟨rfl, rfl, rfl⟩
  | renounceOwnership => exact ⟨rfl, rfl, rfl⟩
  | approve happ => exact ⟨rfl, ERC721.ownerOf_approve happ, ERC721.tokenURI_approve happ⟩
  | setApprovalForAll hset =>
      exact ⟨rfl, ERC721.ownerOf_setApprovalForAll hset, ERC721.tokenURI_setApprovalForAll hset⟩
  | transferFrom _ hunlocked =>
      rw [hunlocked] at hlocked
      cases hlocked

end Steps

/-- A call of the registry by a killed wallet without a seat changes no organization. -/
theorem RegistryStep.seatless {r r' : IdentityRegistry} {msg : Msg} {c : RegistryCall}
    {events : List RegistryEvent} (h : RegistryStep r msg c r' events)
    (hkilled : Killed r msg.sender)
    (hseat : ∀ o, r.organizationExists o = true → r.orgRootAdmin o ≠ msg.sender) :
    r'.organizations = r.organizations := by
  cases h with
  | createOrganization _ hreg hactive =>
      have hinactive := hkilled.inactive
      rw [IdentityRegistry.isActive, hreg, hactive] at hinactive
      cases hinactive
  | updateOrganizationMetadata _ horg hadmin => exact absurd hadmin (hseat _ horg)
  | setOrganizationActive horg hauth =>
      rcases hauth with hadmin | howner
      · exact absurd hadmin (hseat _ horg)
      · exact absurd howner hkilled.notOwner
  | transferOrgRootAdmin _ horg hadmin => exact absurd hadmin (hseat _ horg)
  | _ => rfl

/-! ## Calls -/

/-- The holder of a seat can suspend or resume the organization, whatever its identity. -/
theorem World.seat_acts (w : World σ) {wallet : Account} {o : Nat} (timestamp : Nat)
    (hexists : w.registry.organizationExists o = true)
    (hadmin : w.registry.orgRootAdmin o = wallet) :
    ∃ c w' ts, Call.exec w ⟨wallet, timestamp⟩ c = .ok (w', ts) ∧ ¬ SameRecords w w' := by
  have hstep : RegistryStep w.registry ⟨wallet, timestamp⟩
      (.setOrganizationActive o (!(w.registry.organizations o).active)) _ _ :=
    .setOrganizationActive hexists (.inl hadmin)
  refine ⟨.registry (.setOrganizationActive o (!(w.registry.organizations o).active)), _, _,
    by rw [Call.exec]; exact Action.run_eq_ok.2 ⟨_, World.step_eq_ok.2 (.registry hstep), rfl⟩, ?_⟩
  intro hsame
  have hactive := congrArg Organization.active (congrFun hsame.organizations o)
  simp [IdentityRegistry.setOrganization] at hactive

theorem Call.killed_sameRecords {w w' : World σ} {msg : Msg} {ts : List (Transition σ)} {c : Call}
    (hlocked : w.nft.orgControlledTransfer = false) (hkilled : Killed w.registry msg.sender)
    (hseat : ∀ o, w.registry.organizationExists o = true → w.registry.orgRootAdmin o ≠ msg.sender)
    (h : c.exec w msg = .ok (w', ts)) : SameRecords w w' := by
  have hactive := hkilled.inactive
  cases c with
  | registry c =>
      rw [exec] at h
      obtain ⟨events, haction⟩ := Action.run_step h
      cases haction with
      | registry hstep =>
          exact ⟨hstep.seatless hkilled hseat, rfl, rfl, rfl, rfl, rfl, rfl, fun _ => rfl,
            fun _ => rfl, fun _ => rfl, fun _ => rfl⟩
  | access c =>
      rw [exec] at h
      obtain ⟨events, haction⟩ := Action.run_step h
      cases haction with
      | access hstep =>
          rw [hstep.active] at hactive
          cases hactive
  | asset c =>
      rw [exec] at h
      obtain ⟨events, haction⟩ := Action.run_step h
      cases haction with
      | asset hstep =>
          obtain ⟨hassets, howner, huri⟩ := hstep.inactive hactive hlocked
          refine ⟨rfl, rfl, rfl, rfl, rfl, rfl, rfl, congrFun howner, congrFun huri, ?_, ?_⟩
          · exact fun t => congrArg Asset.assetHash (congrFun hassets t)
          · exact fun t => congrArg Asset.active (congrFun hassets t)
  | mintAsset orgId assignedTo assetHash metadataURI hook =>
      simp only [exec, Storage.bind_eq_ok, Prod.exists] at h
      obtain ⟨w₁, begun, hbegin, -⟩ := h
      obtain ⟨events, haction⟩ := Action.run_step hbegin
      cases haction with
      | mintBegin hstep =>
          cases hstep with
          | mint _ hperm =>
              rw [OrgAccessManager.hasPermission_inactive hactive] at hperm
              cases hperm
  | safeTransferFrom from_ to_ tokenId hook =>
      simp only [exec, Storage.bind_eq_ok, Prod.exists] at h
      obtain ⟨w₁, moved, hmove, -⟩ := h
      obtain ⟨events, haction⟩ := Action.run_step hmove
      cases haction with
      | asset hstep =>
          cases hstep with
          | transferFrom _ hunlocked =>
              rw [hunlocked] at hlocked
              cases hlocked

/-- The kill switch stops a revoked wallet exactly when it is nobody's root admin. -/
theorem World.Reachable.killSwitch_iff {w : World σ} (h : w.Reachable) {wallet : Account}
    (hkilled : Killed w.registry wallet) :
    (∀ (timestamp : Nat) (c : Call) (w' : World σ) (ts : List (Transition σ)),
      c.exec w ⟨wallet, timestamp⟩ = .ok (w', ts) → SameRecords w w') ↔
    ∀ o, 1 ≤ o → o ≤ w.registry.organizationCount → w.registry.orgRootAdmin o ≠ wallet := by
  have hexists : ∀ o, w.registry.organizationExists o = true ↔
      1 ≤ o ∧ o ≤ w.registry.organizationCount := fun o => by
    simp [IdentityRegistry.organizationExists, Nat.one_le_iff_ne_zero]
  constructor
  · intro hsame o hlow hhigh hadmin
    obtain ⟨c, w', ts, hexec, hchanged⟩ := w.seat_acts 0 ((hexists o).2 ⟨hlow, hhigh⟩) hadmin
    exact hchanged (hsame 0 c w' ts hexec)
  · intro hseat timestamp c w' ts hexec
    refine Call.killed_sameRecords h.custodyInv.locked hkilled (fun o ho => ?_) hexec
    obtain ⟨hlow, hhigh⟩ := (hexists o).1 ho
    exact hseat o hlow hhigh

/-! ## The seat of a revoked root admin -/

/-- Alice revokes her own identity and is still the root admin of organization 1. -/
def Sample.aliceRevoked : World Ledger :=
  Sample.after [Sample.tx Sample.alice 105 (.registry (.revokeIdentity Sample.alice))]

/-- Bob revokes his: he is a member, but nobody's root admin. -/
def Sample.bobRevoked : World Ledger :=
  Sample.after [Sample.tx Sample.bob 105 (.registry (.revokeIdentity Sample.bob))]

theorem Sample.aliceRevoked_killed : Killed Sample.aliceRevoked.registry Sample.alice where
  registered := by decide +kernel
  inactive := by decide +kernel
  notRegistrar := by decide +kernel
  notOwner := by decide +kernel

theorem Sample.bobRevoked_killed : Killed Sample.bobRevoked.registry Sample.bob where
  registered := by decide +kernel
  inactive := by decide +kernel
  notRegistrar := by decide +kernel
  notOwner := by decide +kernel

/-- The revoked Alice still suspends her organization. -/
theorem Sample.aliceRevoked_acts :
    ¬ ∀ w : World Ledger, w.Reachable → ∀ wallet : Account, Killed w.registry wallet →
      ∀ (timestamp : Nat) (c : Call) (w' : World Ledger) (ts : List (Transition Ledger)),
        c.exec w ⟨wallet, timestamp⟩ = .ok (w', ts) → SameRecords w w' := by
  intro hsame
  have hreach : Sample.aliceRevoked.Reachable := Sample.after_reachable _
  have hexists : Sample.aliceRevoked.registry.organizationExists 1 = true := by decide +kernel
  have hadmin : Sample.aliceRevoked.registry.orgRootAdmin 1 = Sample.alice := by decide +kernel
  obtain ⟨c, w', ts, hexec, hchanged⟩ := Sample.aliceRevoked.seat_acts 106 hexists hadmin
  exact hchanged (hsame _ hreach Sample.alice Sample.aliceRevoked_killed 106 c w' ts hexec)

theorem Sample.bobRevoked_killSwitch :
    (∀ (timestamp : Nat) (c : Call) (w' : World Ledger) (ts : List (Transition Ledger)),
      c.exec Sample.bobRevoked ⟨Sample.bob, timestamp⟩ = .ok (w', ts) →
        SameRecords Sample.bobRevoked w') ↔
    ∀ o, 1 ≤ o → o ≤ Sample.bobRevoked.registry.organizationCount →
      Sample.bobRevoked.registry.orgRootAdmin o ≠ Sample.bob := by
  have hreach : Sample.bobRevoked.Reachable := Sample.after_reachable _
  exact hreach.killSwitch_iff Sample.bobRevoked_killed

end OwneX
