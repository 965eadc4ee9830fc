import OwneX.Contracts.Basic

set_option autoImplicit false

/-! # `IdentityRegistry.sol`

The registry of wallet-bound identities and of the organizations they create, function by function.
Each external function is a pure function from the storage and the message to either the custom
error it reverts with or the new storage and the events it emits, in the order it emits them. The
guards stand in the source's order, since the first one to fail decides the error.

`Ownable` (the base contract) contributes `owner` and the two functions that move it. -/

namespace OwneX

open Storage

structure Identity where
  identityHash : Bytes32 := 0#256
  exists_ : Bool := false
  active : Bool := false
  registeredAt : Uint64 := 0#64
deriving DecidableEq

structure Organization where
  metadataHash : Bytes32 := 0#256
  rootAdmin : Address := 0#160
  active : Bool := false
  createdAt : Uint64 := 0#64
deriving DecidableEq

structure IdentityRegistry where
  owner : Address
  identities : Address → Identity
  isRegistrar : Address → Bool
  organizations : Nat → Organization
  organizationCount : Nat

inductive RegistryEvent where
  | identityRegistered (wallet : Address) (identityHash : Bytes32) (registeredBy : Address)
      (at_ : Uint64)
  | identityHashUpdated (wallet : Address) (previousHash newHash : Bytes32) (updatedBy : Address)
  | identityRevoked (wallet revokedBy : Address)
  | identityReactivated (wallet reactivatedBy : Address)
  | registrarUpdated (registrar : Address) (allowed : Bool)
  | organizationCreated (orgId : Nat) (rootAdmin : Address) (metadataHash : Bytes32) (at_ : Uint64)
  | organizationMetadataUpdated (orgId : Nat) (previousHash newHash : Bytes32)
  | organizationStatusChanged (orgId : Nat) (active : Bool) (changedBy : Address)
  | orgRootAdminTransferred (orgId : Nat) (previousAdmin newAdmin : Address)
  | ownershipTransferred (previousOwner newOwner : Address)
deriving DecidableEq

inductive RegistryError where
  | zeroAddress
  | emptyHash
  | identityAlreadyExists (wallet : Address)
  | identityNotFound (wallet : Address)
  | identityNotActive (wallet : Address)
  | identityAlreadyActive (wallet : Address)
  | notAuthorizedRegistrar (caller : Address)
  | organizationNotFound (orgId : Nat)
  | notOrgRootAdmin (orgId : Nat) (caller : Address)
  | ownableUnauthorizedAccount (account : Address)
  | ownableInvalidOwner (owner : Address)
  | panicOverflow
deriving DecidableEq

namespace IdentityRegistry

abbrev Result := Except RegistryError (IdentityRegistry × List RegistryEvent)

/-! ## Deployment -/

/-- `constructor(initialOwner)`: the platform owner is a registrar from the start. -/
def deploy (initialOwner : Account) : IdentityRegistry where
  owner := initialOwner
  identities := fun _ => {}
  isRegistrar := Function.update (fun _ => false) initialOwner true
  organizations := fun _ => {}
  organizationCount := 0

/-! ## Views -/

variable (r : IdentityRegistry)

def getIdentity (wallet : Address) : Identity :=
  r.identities wallet

/-- True only when the wallet is registered and not revoked. -/
def isActive (wallet : Address) : Bool :=
  (r.identities wallet).exists_ && (r.identities wallet).active

def isRegistered (wallet : Address) : Bool :=
  (r.identities wallet).exists_

def verifyIdentityHash (wallet : Address) (candidateHash : Bytes32) : Bool :=
  (r.identities wallet).exists_ && (r.identities wallet).identityHash == candidateHash

def getOrganization (orgId : Nat) : Organization :=
  r.organizations orgId

def organizationExists (orgId : Nat) : Bool :=
  orgId != 0 && decide (orgId ≤ r.organizationCount)

def isOrganizationActive (orgId : Nat) : Bool :=
  r.organizationExists orgId && (r.organizations orgId).active

def orgRootAdmin (orgId : Nat) : Address :=
  (r.organizations orgId).rootAdmin

/-! ## Internals -/

def requireActiveIdentity (wallet : Address) : Except RegistryError Unit := do
  revertIf (¬ (r.identities wallet).exists_) (.identityNotFound wallet)
  revertIf (¬ (r.identities wallet).active) (.identityNotActive wallet)

def requireOrg (orgId : Nat) : Except RegistryError Organization := do
  revertIf (¬ r.organizationExists orgId) (.organizationNotFound orgId)
  return r.organizations orgId

def onlyRegistrar (msg : Msg) : Except RegistryError Unit :=
  revertIf (¬ r.isRegistrar msg.sender) (.notAuthorizedRegistrar msg.sender)

def onlyOwner (msg : Msg) : Except RegistryError Unit :=
  revertIf (r.owner ≠ msg.sender) (.ownableUnauthorizedAccount msg.sender)

def setIdentity (wallet : Address) (id : Identity) : IdentityRegistry :=
  { r with identities := Function.update r.identities wallet id }

def setOrganization (orgId : Nat) (org : Organization) : IdentityRegistry :=
  { r with organizations := Function.update r.organizations orgId org }

/-! ## Registrar management -/

/-- Grant or revoke the ability to onboard identities for others. -/
def setRegistrar (msg : Msg) (registrar : Address) (allowed : Bool) : Result := do
  r.onlyOwner msg
  revertIf (registrar = 0#160) .zeroAddress
  return ({ r with isRegistrar := Function.update r.isRegistrar registrar allowed },
    [.registrarUpdated registrar allowed])

/-! ## Identity lifecycle -/

/-- `_register`, shared by the self-sovereign and the onboarding path. -/
def register (msg : Msg) (wallet : Address) (identityHash : Bytes32) : Result := do
  revertIf (wallet = 0#160) .zeroAddress
  revertIf (identityHash = 0#256) .emptyHash
  revertIf (r.identities wallet).exists_ (.identityAlreadyExists wallet)
  return (r.setIdentity wallet
      { identityHash, exists_ := true, active := true, registeredAt := uint64 msg.timestamp },
    [.identityRegistered wallet identityHash msg.sender (uint64 msg.timestamp)])

def registerIdentity (msg : Msg) (identityHash : Bytes32) : Result :=
  r.register msg msg.sender identityHash

def registerIdentityFor (msg : Msg) (wallet : Address) (identityHash : Bytes32) : Result := do
  r.onlyRegistrar msg
  r.register msg wallet identityHash

/-- A wallet rotates its own off-chain profile hash after editing data. -/
def updateIdentityHash (msg : Msg) (newHash : Bytes32) : Result := do
  revertIf (newHash = 0#256) .emptyHash
  let id := r.identities msg.sender
  revertIf (¬ id.exists_) (.identityNotFound msg.sender)
  revertIf (¬ id.active) (.identityNotActive msg.sender)
  return (r.setIdentity msg.sender { id with identityHash := newHash },
    [.identityHashUpdated msg.sender id.identityHash newHash msg.sender])

/-- The kill switch: callable by the wallet itself or a registrar. -/
def revokeIdentity (msg : Msg) (wallet : Address) : Result := do
  revertIf (msg.sender ≠ wallet ∧ ¬ r.isRegistrar msg.sender) (.notAuthorizedRegistrar msg.sender)
  let id := r.identities wallet
  revertIf (¬ id.exists_) (.identityNotFound wallet)
  revertIf (¬ id.active) (.identityNotActive wallet)
  return (r.setIdentity wallet { id with active := false }, [.identityRevoked wallet msg.sender])

/-- Restore a previously revoked identity. -/
def reactivateIdentity (msg : Msg) (wallet : Address) : Result := do
  r.onlyRegistrar msg
  let id := r.identities wallet
  revertIf (¬ id.exists_) (.identityNotFound wallet)
  revertIf id.active (.identityAlreadyActive wallet)
  return (r.setIdentity wallet { id with active := true }, [.identityReactivated wallet msg.sender])

/-! ## Organizations -/

/-- The caller becomes root admin of the new organization; ids start at 1. -/
def createOrganization (msg : Msg) (metadataHash : Bytes32) : Result := do
  revertIf (metadataHash = 0#256) .emptyHash
  r.requireActiveIdentity msg.sender
  let orgId ← orRevert (checkedSucc 256 r.organizationCount) .panicOverflow
  let org : Organization :=
    { metadataHash, rootAdmin := msg.sender, active := true, createdAt := uint64 msg.timestamp }
  return ({ r.setOrganization orgId org with organizationCount := orgId },
    [.organizationCreated orgId msg.sender metadataHash (uint64 msg.timestamp)])

def updateOrganizationMetadata (msg : Msg) (orgId : Nat) (newHash : Bytes32) : Result := do
  revertIf (newHash = 0#256) .emptyHash
  let org ← r.requireOrg orgId
  revertIf (org.rootAdmin ≠ msg.sender) (.notOrgRootAdmin orgId msg.sender)
  return (r.setOrganization orgId { org with metadataHash := newHash },
    [.organizationMetadataUpdated orgId org.metadataHash newHash])

/-- Suspend or resume an entire organization. Root admin or platform owner. -/
def setOrganizationActive (msg : Msg) (orgId : Nat) (active : Bool) : Result := do
  let org ← r.requireOrg orgId
  revertIf (org.rootAdmin ≠ msg.sender ∧ r.owner ≠ msg.sender) (.notOrgRootAdmin orgId msg.sender)
  return (r.setOrganization orgId { org with active },
    [.organizationStatusChanged orgId active msg.sender])

/-- Hand the root admin seat to another active identity. -/
def transferOrgRootAdmin (msg : Msg) (orgId : Nat) (newAdmin : Address) : Result := do
  revertIf (newAdmin = 0#160) .zeroAddress
  let org ← r.requireOrg orgId
  revertIf (org.rootAdmin ≠ msg.sender) (.notOrgRootAdmin orgId msg.sender)
  r.requireActiveIdentity newAdmin
  return (r.setOrganization orgId { org with rootAdmin := newAdmin },
    [.orgRootAdminTransferred orgId org.rootAdmin newAdmin])

/-! ## Inherited from `Ownable` -/

def transferOwnership (msg : Msg) (newOwner : Address) : Result := do
  r.onlyOwner msg
  revertIf (newOwner = 0#160) (.ownableInvalidOwner 0#160)
  return ({ r with owner := newOwner }, [.ownershipTransferred r.owner newOwner])

def renounceOwnership (msg : Msg) : Result := do
  r.onlyOwner msg
  return ({ r with owner := 0#160 }, [.ownershipTransferred r.owner 0#160])

end IdentityRegistry

/-! ## The external interface -/

/-- One call of a state-changing external function of `IdentityRegistry`. -/
inductive RegistryCall where
  | setRegistrar (registrar : Address) (allowed : Bool)
  | registerIdentity (identityHash : Bytes32)
  | registerIdentityFor (wallet : Address) (identityHash : Bytes32)
  | updateIdentityHash (newHash : Bytes32)
  | revokeIdentity (wallet : Address)
  | reactivateIdentity (wallet : Address)
  | createOrganization (metadataHash : Bytes32)
  | updateOrganizationMetadata (orgId : Nat) (newHash : Bytes32)
  | setOrganizationActive (orgId : Nat) (active : Bool)
  | transferOrgRootAdmin (orgId : Nat) (newAdmin : Address)
  | transferOwnership (newOwner : Address)
  | renounceOwnership
deriving DecidableEq

def RegistryCall.exec (r : IdentityRegistry) (msg : Msg) : RegistryCall → IdentityRegistry.Result
  | .setRegistrar registrar allowed => r.setRegistrar msg registrar allowed
  | .registerIdentity identityHash => r.registerIdentity msg identityHash
  | .registerIdentityFor wallet identityHash => r.registerIdentityFor msg wallet identityHash
  | .updateIdentityHash newHash => r.updateIdentityHash msg newHash
  | .revokeIdentity wallet => r.revokeIdentity msg wallet
  | .reactivateIdentity wallet => r.reactivateIdentity msg wallet
  | .createOrganization metadataHash => r.createOrganization msg metadataHash
  | .updateOrganizationMetadata orgId newHash => r.updateOrganizationMetadata msg orgId newHash
  | .setOrganizationActive orgId active => r.setOrganizationActive msg orgId active
  | .transferOrgRootAdmin orgId newAdmin => r.transferOrgRootAdmin msg orgId newAdmin
  | .transferOwnership newOwner => r.transferOwnership msg newOwner
  | .renounceOwnership => r.renounceOwnership msg

end OwneX
