import OwneX.Contracts.IdentityRegistry

set_option autoImplicit false

/-! # What a call of the registry can do

`RegistryStep r msg c r' events` lists, function by function, the guards a successful call passed
and the storage and events it leaves. `RegistryCall.exec_eq_ok` says that this is exactly when the
call succeeds, so everything proved of the registry afterwards is a case analysis over it and none
unfolds a function of the contract again. -/

namespace OwneX

open Storage

inductive RegistryStep (r : IdentityRegistry) (msg : Msg) :
    RegistryCall → IdentityRegistry → List RegistryEvent → Prop where
  | setRegistrar {registrar : Address} {allowed : Bool}
      (owner : r.owner = msg.sender) (nonzero : registrar ≠ 0#160) :
      RegistryStep r msg (.setRegistrar registrar allowed)
        { r with isRegistrar := Function.update r.isRegistrar registrar allowed }
        [.registrarUpdated registrar allowed]
  | registerIdentity {identityHash : Bytes32}
      (hash : identityHash ≠ 0#256) (fresh : (r.identities msg.sender).exists_ = false) :
      RegistryStep r msg (.registerIdentity identityHash)
        (r.setIdentity msg.sender
          { identityHash, exists_ := true, active := true, registeredAt := uint64 msg.timestamp })
        [.identityRegistered msg.sender identityHash msg.sender (uint64 msg.timestamp)]
  | registerIdentityFor {wallet : Address} {identityHash : Bytes32}
      (registrar : r.isRegistrar msg.sender = true) (nonzero : wallet ≠ 0#160)
      (hash : identityHash ≠ 0#256) (fresh : (r.identities wallet).exists_ = false) :
      RegistryStep r msg (.registerIdentityFor wallet identityHash)
        (r.setIdentity wallet
          { identityHash, exists_ := true, active := true, registeredAt := uint64 msg.timestamp })
        [.identityRegistered wallet identityHash msg.sender (uint64 msg.timestamp)]
  | updateIdentityHash {newHash : Bytes32}
      (hash : newHash ≠ 0#256) (registered : (r.identities msg.sender).exists_ = true)
      (active : (r.identities msg.sender).active = true) :
      RegistryStep r msg (.updateIdentityHash newHash)
        (r.setIdentity msg.sender { r.identities msg.sender with identityHash := newHash })
        [.identityHashUpdated msg.sender (r.identities msg.sender).identityHash newHash msg.sender]
  | revokeIdentity {wallet : Address}
      (authorized : msg.sender.1 = wallet ∨ r.isRegistrar msg.sender = true)
      (registered : (r.identities wallet).exists_ = true)
      (active : (r.identities wallet).active = true) :
      RegistryStep r msg (.revokeIdentity wallet)
        (r.setIdentity wallet { r.identities wallet with active := false })
        [.identityRevoked wallet msg.sender]
  | reactivateIdentity {wallet : Address}
      (registrar : r.isRegistrar msg.sender = true)
      (registered : (r.identities wallet).exists_ = true)
      (revoked : (r.identities wallet).active = false) :
      RegistryStep r msg (.reactivateIdentity wallet)
        (r.setIdentity wallet { r.identities wallet with active := true })
        [.identityReactivated wallet msg.sender]
  | createOrganization {metadataHash : Bytes32} {orgId : Nat}
      (hash : metadataHash ≠ 0#256) (registered : (r.identities msg.sender).exists_ = true)
      (active : (r.identities msg.sender).active = true)
      (next : checkedSucc 256 r.organizationCount = some orgId) :
      RegistryStep r msg (.createOrganization metadataHash)
        { r.setOrganization orgId
            { metadataHash, rootAdmin := msg.sender, active := true
              createdAt := uint64 msg.timestamp } with
          organizationCount := orgId }
        [.organizationCreated orgId msg.sender metadataHash (uint64 msg.timestamp)]
  | updateOrganizationMetadata {orgId : Nat} {newHash : Bytes32}
      (hash : newHash ≠ 0#256) (org : r.organizationExists orgId = true)
      (admin : (r.organizations orgId).rootAdmin = msg.sender) :
      RegistryStep r msg (.updateOrganizationMetadata orgId newHash)
        (r.setOrganization orgId { r.organizations orgId with metadataHash := newHash })
        [.organizationMetadataUpdated orgId (r.organizations orgId).metadataHash newHash]
  | setOrganizationActive {orgId : Nat} {active : Bool}
      (org : r.organizationExists orgId = true)
      (authorized : (r.organizations orgId).rootAdmin = msg.sender ∨ r.owner = msg.sender) :
      RegistryStep r msg (.setOrganizationActive orgId active)
        (r.setOrganization orgId { r.organizations orgId with active })
        [.organizationStatusChanged orgId active msg.sender]
  | transferOrgRootAdmin {orgId : Nat} {newAdmin : Address}
      (nonzero : newAdmin ≠ 0#160) (org : r.organizationExists orgId = true)
      (admin : (r.organizations orgId).rootAdmin = msg.sender)
      (registered : (r.identities newAdmin).exists_ = true)
      (active : (r.identities newAdmin).active = true) :
      RegistryStep r msg (.transferOrgRootAdmin orgId newAdmin)
        (r.setOrganization orgId { r.organizations orgId with rootAdmin := newAdmin })
        [.orgRootAdminTransferred orgId (r.organizations orgId).rootAdmin newAdmin]
  | transferOwnership {newOwner : Address}
      (owner : r.owner = msg.sender) (nonzero : newOwner ≠ 0#160) :
      RegistryStep r msg (.transferOwnership newOwner) { r with owner := newOwner }
        [.ownershipTransferred r.owner newOwner]
  | renounceOwnership (owner : r.owner = msg.sender) :
      RegistryStep r msg .renounceOwnership { r with owner := 0#160 }
        [.ownershipTransferred r.owner 0#160]

variable {r r' : IdentityRegistry} {msg : Msg} {c : RegistryCall} {events : List RegistryEvent}

/-! ## The guards, as equations -/

namespace IdentityRegistry

@[simp] theorem onlyOwner_eq_ok {u : Unit} : r.onlyOwner msg = .ok u ↔ r.owner = msg.sender := by
  simp [onlyOwner]

@[simp] theorem onlyRegistrar_eq_ok {u : Unit} :
    r.onlyRegistrar msg = .ok u ↔ r.isRegistrar msg.sender = true := by
  simp [onlyRegistrar]

@[simp] theorem requireActiveIdentity_eq_ok {wallet : Address} {u : Unit} :
    r.requireActiveIdentity wallet = .ok u ↔
      (r.identities wallet).exists_ = true ∧ (r.identities wallet).active = true := by
  simp [requireActiveIdentity]

@[simp] theorem requireOrg_eq_ok {orgId : Nat} {org : Organization} :
    r.requireOrg orgId = .ok org ↔
      r.organizationExists orgId = true ∧ r.organizations orgId = org := by
  simp [requireOrg]

theorem register_eq_ok {wallet : Address} {identityHash : Bytes32} :
    r.register msg wallet identityHash = .ok (r', events) ↔
      wallet ≠ 0#160 ∧ identityHash ≠ 0#256 ∧ (r.identities wallet).exists_ = false ∧
      r.setIdentity wallet
        { identityHash, exists_ := true, active := true, registeredAt := uint64 msg.timestamp } = r' ∧
      [.identityRegistered wallet identityHash msg.sender (uint64 msg.timestamp)] = events := by
  simp [register]

end IdentityRegistry

open IdentityRegistry

/-! ## The inversion -/

/-- A call succeeds exactly by one of the steps. -/
theorem RegistryCall.exec_eq_ok :
    c.exec r msg = .ok (r', events) ↔ RegistryStep r msg c r' events := by
  constructor
  · intro h
    cases c with
    | setRegistrar registrar allowed =>
        simp [exec, IdentityRegistry.setRegistrar] at h
        obtain ⟨howner, hzero, rfl, rfl⟩ := h
        exact .setRegistrar howner hzero
    | registerIdentity identityHash =>
        obtain ⟨_, hhash, hfresh, rfl, rfl⟩ := register_eq_ok.1 h
        exact .registerIdentity hhash hfresh
    | registerIdentityFor wallet identityHash =>
        simp only [exec, IdentityRegistry.registerIdentityFor, bind_eq_ok, onlyRegistrar_eq_ok,
          register_eq_ok] at h
        obtain ⟨_, hreg, hzero, hhash, hfresh, rfl, rfl⟩ := h
        exact .registerIdentityFor hreg hzero hhash hfresh
    | updateIdentityHash newHash =>
        simp [exec, IdentityRegistry.updateIdentityHash] at h
        obtain ⟨hhash, hreg, hactive, rfl, rfl⟩ := h
        exact .updateIdentityHash hhash hreg hactive
    | revokeIdentity wallet =>
        simp [exec, IdentityRegistry.revokeIdentity] at h
        obtain ⟨hauth, hreg, hactive, rfl, rfl⟩ := h
        exact .revokeIdentity (or_iff_not_imp_left.2 hauth) hreg hactive
    | reactivateIdentity wallet =>
        simp [exec, IdentityRegistry.reactivateIdentity] at h
        obtain ⟨hregistrar, hreg, hrevoked, rfl, rfl⟩ := h
        exact .reactivateIdentity hregistrar hreg hrevoked
    | createOrganization metadataHash =>
        simp [exec, IdentityRegistry.createOrganization] at h
        obtain ⟨hhash, ⟨hreg, hactive⟩, orgId, hnext, rfl, rfl⟩ := h
        exact .createOrganization hhash hreg hactive hnext
    | updateOrganizationMetadata orgId newHash =>
        simp [exec, IdentityRegistry.updateOrganizationMetadata] at h
        obtain ⟨hhash, horg, hadmin, rfl, rfl⟩ := h
        exact .updateOrganizationMetadata hhash horg hadmin
    | setOrganizationActive orgId active =>
        simp [exec, IdentityRegistry.setOrganizationActive] at h
        obtain ⟨horg, hauth, rfl, rfl⟩ := h
        exact .setOrganizationActive horg (or_iff_not_imp_left.2 hauth)
    | transferOrgRootAdmin orgId newAdmin =>
        simp [exec, IdentityRegistry.transferOrgRootAdmin] at h
        obtain ⟨hzero, horg, hadmin, ⟨hreg, hactive⟩, rfl, rfl⟩ := h
        exact .transferOrgRootAdmin hzero horg hadmin hreg hactive
    | transferOwnership newOwner =>
        simp [exec, IdentityRegistry.transferOwnership] at h
        obtain ⟨howner, hzero, rfl, rfl⟩ := h
        exact .transferOwnership howner hzero
    | renounceOwnership =>
        simp [exec, IdentityRegistry.renounceOwnership] at h
        obtain ⟨howner, rfl, rfl⟩ := h
        exact .renounceOwnership howner
  · intro h
    cases h with
    | setRegistrar howner hzero =>
        simp [exec, IdentityRegistry.setRegistrar, howner, hzero]
    | registerIdentity hhash hfresh =>
        exact register_eq_ok.2 ⟨msg.sender.2, hhash, hfresh, rfl, rfl⟩
    | registerIdentityFor hreg hzero hhash hfresh =>
        simp [exec, IdentityRegistry.registerIdentityFor, register_eq_ok, hreg, hzero, hhash, hfresh]
    | updateIdentityHash hhash hreg hactive =>
        simp [exec, IdentityRegistry.updateIdentityHash, hhash, hreg, hactive]
    | revokeIdentity hauth hreg hactive =>
        simp [exec, IdentityRegistry.revokeIdentity, hreg, hactive]
        exact or_iff_not_imp_left.1 hauth
    | reactivateIdentity hregistrar hreg hrevoked =>
        simp [exec, IdentityRegistry.reactivateIdentity, hregistrar, hreg, hrevoked]
    | createOrganization hhash hreg hactive hnext =>
        simp [exec, IdentityRegistry.createOrganization, hhash, hreg, hactive, hnext]
    | updateOrganizationMetadata hhash horg hadmin =>
        simp [exec, IdentityRegistry.updateOrganizationMetadata, hhash, horg, hadmin]
    | setOrganizationActive horg hauth =>
        simp [exec, IdentityRegistry.setOrganizationActive, horg]
        exact or_iff_not_imp_left.1 hauth
    | transferOrgRootAdmin hzero horg hadmin hreg hactive =>
        simp [exec, IdentityRegistry.transferOrgRootAdmin, hzero, horg, hadmin, hreg, hactive]
    | transferOwnership howner hzero =>
        simp [exec, IdentityRegistry.transferOwnership, howner, hzero]
    | renounceOwnership howner =>
        simp [exec, IdentityRegistry.renounceOwnership, howner]

end OwneX
