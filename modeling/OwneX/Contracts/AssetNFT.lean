import OwneX.Contracts.OrgAccessManager
import OwneX.Contracts.ERC721

set_option autoImplicit false

/-! # `AssetNFT.sol`

Asset certificates: ERC-721 tokens that only an organization can move. The token base contracts'
storage is the parameter `σ` of `ERC721`; what `AssetNFT` overrides and adds is written out here.

A mint hands control to the recipient between `_mint` and `_setTokenURI` (`_safeMint` calls
`onERC721Received`), so `mintAsset` is two functions, `mintAssetBegin` up to the external call and
`mintAssetEnd` after it. Everything else runs without leaving the contract, apart from the view
calls of the other two, whose storage is read as it stands. -/

namespace OwneX

open Storage

structure Asset where
  orgId : Nat := 0
  assetHash : Bytes32 := 0#256
  assignedTo : Address := 0#160
  active : Bool := false
  mintedAt : Uint64 := 0#64
  transferCount : Nat := 0
deriving DecidableEq

structure AssetNFT (σ : Type) where
  ledger : σ
  owner : Address
  paused : Bool
  nextTokenId : Nat
  assets : Nat → Asset
  orgAssets : Nat → List Nat
  /-- Set only for the duration of an organization-authorised movement. -/
  orgControlledTransfer : Bool

inductive AssetEvent where
  | assetMinted (tokenId orgId : Nat) (assignedTo : Address) (assetHash : Bytes32)
      (metadataURI : String) (by_ : Address)
  | assetAssigned (tokenId : Nat) (previousHolder newHolder by_ : Address)
  | assetRevoked (tokenId : Nat) (previousHolder custodian by_ : Address)
  | assetRestored (tokenId : Nat) (assignedTo by_ : Address)
  | assetMetadataUpdated (tokenId : Nat) (previousHash newHash : Bytes32) (metadataURI : String)
      (by_ : Address)
deriving DecidableEq

inductive AssetError where
  | zeroAddress
  | emptyHash
  | emptyURI
  | unknownAsset (tokenId : Nat)
  | assetInactive (tokenId : Nat)
  | assetAlreadyActive (tokenId : Nat)
  | missingPermission (orgId : Nat) (caller : Address) (permission : Bytes32)
  | recipientNotOrgMember (orgId : Nat) (wallet : Address)
  | transfersLocked (tokenId : Nat)
  | alreadyAssignedTo (wallet : Address)
  | enforcedPause
  | expectedPause
  | ownableUnauthorizedAccount (account : Address)
  | ownableInvalidOwner (owner : Address)
  | erc721InvalidReceiver (receiver : Address)
  | erc721InvalidSender (sender : Address)
  | erc721NonexistentToken (tokenId : Nat)
  | erc721IncorrectOwner (sender : Address) (tokenId : Nat) (owner : Address)
  /-- A revert inside the token base contracts. -/
  | erc721
  | panicOverflow
deriving DecidableEq

namespace AssetNFT

variable {σ : Type} [ERC721 σ]

/-- What a call that succeeds leaves: the storage and the events. -/
abbrev Outcome (σ : Type) := AssetNFT σ × List AssetEvent

/-- The storage after the constructor. -/
def deploy (initialOwner : Account) : AssetNFT σ where
  ledger := ERC721.deployed
  owner := initialOwner
  paused := false
  nextTokenId := 1
  assets := fun _ => {}
  orgAssets := fun _ => []
  orgControlledTransfer := false

variable (n : AssetNFT σ) (ac : OrgAccessManager) (ir : IdentityRegistry)

/-! ## Views -/

/-- `_ownerOf`: zero for a token that was never minted. -/
def ownerOf (tokenId : Nat) : Address :=
  ERC721.ownerOf n.ledger tokenId

def tokenURI (tokenId : Nat) : String :=
  ERC721.tokenURI n.ledger tokenId

/-- The claimant holds the token, the asset is active, their identity is live, and they are still a
    member of the owning organization. -/
def verifyOwnership (now : Nat) (tokenId : Nat) (claimant : Address) : Bool :=
  let asset := n.assets tokenId
  if asset.orgId = 0 then false
  else if ¬ asset.active then false
  else if n.ownerOf tokenId ≠ claimant then false
  else if ¬ ir.isActive claimant then false
  else if ¬ ir.isOrganizationActive asset.orgId then false
  else ac.effectiveRole ir now asset.orgId claimant != ROLE_NONE

def verifyAssetHash (tokenId : Nat) (candidateHash : Bytes32) : Bool :=
  (n.assets tokenId).orgId != 0 && (n.assets tokenId).assetHash == candidateHash

def getAsset (tokenId : Nat) : Asset :=
  n.assets tokenId

def assetsOfOrganization (orgId : Nat) : List Nat :=
  n.orgAssets orgId

def totalMinted : Nat :=
  n.nextTokenId - 1

/-! ## Guards -/

def whenNotPaused : Except AssetError Unit :=
  revertIf n.paused .enforcedPause

def onlyOwner (msg : Msg) : Except AssetError Unit :=
  revertIf (n.owner ≠ msg.sender) (.ownableUnauthorizedAccount msg.sender)

def requireAsset (tokenId : Nat) : Except AssetError Asset := do
  revertIf ((n.assets tokenId).orgId = 0) (.unknownAsset tokenId)
  return n.assets tokenId

/-- The external `ownerOf`, which reverts for a token that does not exist. -/
def requireOwned (tokenId : Nat) : Except AssetError Address := do
  revertIf (n.ownerOf tokenId = 0#160) (.erc721NonexistentToken tokenId)
  return n.ownerOf tokenId

def requirePermission (now : Nat) (orgId : Nat) (caller : Address) (permission : Bytes32) :
    Except AssetError Unit :=
  revertIf (¬ ac.hasPermission ir now orgId caller permission)
    (.missingPermission orgId caller permission)

def requireOrgMember (now : Nat) (orgId : Nat) (wallet : Address) : Except AssetError Unit :=
  revertIf (ac.effectiveRole ir now orgId wallet = ROLE_NONE) (.recipientNotOrgMember orgId wallet)

/-! ## ERC-721 hooks: the transfer lock -/

/-- `_update`: mint and burn pass through, every other movement must be flagged as
    organization-controlled. -/
def update (to_ : Address) (tokenId : Nat) (auth : Address) : Except AssetError (AssetNFT σ) := do
  let from_ := n.ownerOf tokenId
  revertIf (from_ ≠ 0#160 ∧ to_ ≠ 0#160 ∧ ¬ n.orgControlledTransfer) (.transfersLocked tokenId)
  revertIf (from_ ≠ 0#160 ∧ n.paused) .enforcedPause
  let ledger ← orRevert (ERC721.update n.ledger to_ tokenId auth) .erc721
  return { n with ledger }

/-- `_mint` of the base contract, which calls the overridden `_update`. -/
def mint (to_ : Address) (tokenId : Nat) : Except AssetError (AssetNFT σ) := do
  revertIf (to_ = 0#160) (.erc721InvalidReceiver 0#160)
  let n' ← n.update to_ tokenId 0#160
  revertIf (n.ownerOf tokenId ≠ 0#160) (.erc721InvalidSender 0#160)
  return n'

/-- `_transfer` of the base contract. -/
def transfer (from_ to_ : Address) (tokenId : Nat) : Except AssetError (AssetNFT σ) := do
  revertIf (to_ = 0#160) (.erc721InvalidReceiver 0#160)
  let n' ← n.update to_ tokenId 0#160
  revertIf (n.ownerOf tokenId = 0#160) (.erc721NonexistentToken tokenId)
  revertIf (n.ownerOf tokenId ≠ from_) (.erc721IncorrectOwner from_ tokenId (n.ownerOf tokenId))
  return n'

/-- `_orgControlledTransfer = true; _transfer(..); _orgControlledTransfer = false;` -/
def controlledTransfer (from_ to_ : Address) (tokenId : Nat) : Except AssetError (AssetNFT σ) := do
  let n' ← { n with orgControlledTransfer := true }.transfer from_ to_ tokenId
  return { n' with orgControlledTransfer := false }

def setAsset (tokenId : Nat) (asset : Asset) : AssetNFT σ :=
  { n with assets := Function.update n.assets tokenId asset }

/-- `asset.transferCount += 1` on the `uint32` field. -/
def bumpTransferCount (asset : Asset) : Except AssetError Asset := do
  let transferCount ← orRevert (checkedSucc 32 asset.transferCount) .panicOverflow
  return { asset with transferCount }

/-! ## Minting -/

/-- `mintAsset` up to the recipient's `onERC721Received`. The new token's id is `nextTokenId` of the
    storage before. -/
def mintAssetBegin (msg : Msg) (orgId : Nat) (assignedTo : Address) (assetHash : Bytes32)
    (metadataURI : String) : Except AssetError (AssetNFT σ) := do
  n.whenNotPaused
  requirePermission ac ir msg.timestamp orgId msg.sender PERM_MINT_ASSETS
  revertIf (assignedTo = 0#160) .zeroAddress
  revertIf (assetHash = 0#256) .emptyHash
  revertIf (metadataURI.utf8ByteSize = 0) .emptyURI
  requireOrgMember ac ir msg.timestamp orgId assignedTo
  let tokenId := n.nextTokenId
  let nextTokenId ← orRevert (checkedSucc 256 n.nextTokenId) .panicOverflow
  let asset : Asset :=
    { orgId, assetHash, assignedTo, active := true, mintedAt := uint64 msg.timestamp }
  { n.setAsset tokenId asset with
    nextTokenId
    orgAssets := Function.update n.orgAssets orgId (n.orgAssets orgId ++ [tokenId])
  }.mint assignedTo tokenId

/-- The rest of `mintAsset`, once the recipient has accepted the token. -/
def mintAssetEnd (msg : Msg) (tokenId orgId : Nat) (assignedTo : Address) (assetHash : Bytes32)
    (metadataURI : String) : Except AssetError (Outcome σ) :=
  return ({ n with ledger := ERC721.setTokenURI n.ledger tokenId metadataURI },
    [.assetMinted tokenId orgId assignedTo assetHash metadataURI msg.sender])

/-! ## Organization-controlled movement -/

/-- Move an asset to another member of the same organization. -/
def reassignAsset (msg : Msg) (tokenId : Nat) (newHolder : Address) :
    Except AssetError (Outcome σ) := do
  n.whenNotPaused
  let asset ← n.requireAsset tokenId
  revertIf (¬ asset.active) (.assetInactive tokenId)
  revertIf (newHolder = 0#160) .zeroAddress
  requirePermission ac ir msg.timestamp asset.orgId msg.sender PERM_TRANSFER_ASSETS
  requireOrgMember ac ir msg.timestamp asset.orgId newHolder
  let previousHolder ← n.requireOwned tokenId
  revertIf (previousHolder = newHolder) (.alreadyAssignedTo newHolder)
  let asset ← bumpTransferCount { asset with assignedTo := newHolder }
  let n' ← (n.setAsset tokenId asset).controlledTransfer previousHolder newHolder tokenId
  return (n', [.assetAssigned tokenId previousHolder newHolder msg.sender])

/-- Mark an asset inactive and pull custody back to the organization's root admin. -/
def revokeAsset (msg : Msg) (tokenId : Nat) : Except AssetError (Outcome σ) := do
  n.whenNotPaused
  let asset ← n.requireAsset tokenId
  revertIf (¬ asset.active) (.assetInactive tokenId)
  requirePermission ac ir msg.timestamp asset.orgId msg.sender PERM_TRANSFER_ASSETS
  let previousHolder ← n.requireOwned tokenId
  let custodian := ir.orgRootAdmin asset.orgId
  let asset := { asset with active := false, assignedTo := custodian }
  if previousHolder = custodian then
    return (n.setAsset tokenId asset, [.assetRevoked tokenId previousHolder custodian msg.sender])
  else
    let asset ← bumpTransferCount asset
    let n' ← (n.setAsset tokenId asset).controlledTransfer previousHolder custodian tokenId
    return (n', [.assetRevoked tokenId previousHolder custodian msg.sender])

/-- Return a revoked asset to service, assigning it to a member. -/
def restoreAsset (msg : Msg) (tokenId : Nat) (assignedTo : Address) :
    Except AssetError (Outcome σ) := do
  n.whenNotPaused
  let asset ← n.requireAsset tokenId
  revertIf asset.active (.assetAlreadyActive tokenId)
  revertIf (assignedTo = 0#160) .zeroAddress
  requirePermission ac ir msg.timestamp asset.orgId msg.sender PERM_TRANSFER_ASSETS
  requireOrgMember ac ir msg.timestamp asset.orgId assignedTo
  let asset := { asset with active := true, assignedTo }
  let currentHolder ← n.requireOwned tokenId
  if currentHolder = assignedTo then
    return (n.setAsset tokenId asset, [.assetRestored tokenId assignedTo msg.sender])
  else
    let asset ← bumpTransferCount asset
    let n' ← (n.setAsset tokenId asset).controlledTransfer currentHolder assignedTo tokenId
    return (n', [.assetRestored tokenId assignedTo msg.sender])

/-- Re-anchor an asset after its off-chain record legitimately changes. -/
def updateAssetRecord (msg : Msg) (tokenId : Nat) (newAssetHash : Bytes32) (metadataURI : String) :
    Except AssetError (Outcome σ) := do
  n.whenNotPaused
  let asset ← n.requireAsset tokenId
  revertIf (newAssetHash = 0#256) .emptyHash
  revertIf (metadataURI.utf8ByteSize = 0) .emptyURI
  requirePermission ac ir msg.timestamp asset.orgId msg.sender PERM_MINT_ASSETS
  return ({ n.setAsset tokenId { asset with assetHash := newAssetHash } with
      ledger := ERC721.setTokenURI n.ledger tokenId metadataURI },
    [.assetMetadataUpdated tokenId asset.assetHash newAssetHash metadataURI msg.sender])

/-! ## Emergency controls and what the base contracts add to the interface -/

def pause (msg : Msg) : Except AssetError (Outcome σ) := do
  n.onlyOwner msg
  revertIf n.paused .enforcedPause
  return ({ n with paused := true }, [])

def unpause (msg : Msg) : Except AssetError (Outcome σ) := do
  n.onlyOwner msg
  revertIf (¬ n.paused) .expectedPause
  return ({ n with paused := false }, [])

def transferOwnership (msg : Msg) (newOwner : Address) : Except AssetError (Outcome σ) := do
  n.onlyOwner msg
  revertIf (newOwner = 0#160) (.ownableInvalidOwner 0#160)
  return ({ n with owner := newOwner }, [])

def renounceOwnership (msg : Msg) : Except AssetError (Outcome σ) := do
  n.onlyOwner msg
  return ({ n with owner := 0#160 }, [])

def approve (msg : Msg) (to_ : Address) (tokenId : Nat) : Except AssetError (Outcome σ) := do
  let ledger ← orRevert (ERC721.approve n.ledger msg.sender to_ tokenId) .erc721
  return ({ n with ledger }, [])

def setApprovalForAll (msg : Msg) (operator : Address) (approved : Bool) :
    Except AssetError (Outcome σ) := do
  let ledger ← orRevert (ERC721.setApprovalForAll n.ledger msg.sender operator approved) .erc721
  return ({ n with ledger }, [])

/-- `transferFrom` of the base contract: the caller is the `auth` of `_update`. -/
def transferFrom (msg : Msg) (from_ to_ : Address) (tokenId : Nat) :
    Except AssetError (Outcome σ) := do
  revertIf (to_ = 0#160) (.erc721InvalidReceiver 0#160)
  let n' ← n.update to_ tokenId msg.sender
  revertIf (n.ownerOf tokenId ≠ from_) (.erc721IncorrectOwner from_ tokenId (n.ownerOf tokenId))
  return (n', [])

end AssetNFT

/-! ## The external interface -/

/-- One call of a state-changing external function of `AssetNFT` that never leaves the contract.
    `mintAsset` and the safe transfers, which call the recipient, are built from these and from the
    two halves of the mint in `World.lean`. -/
inductive AssetCall where
  | reassignAsset (tokenId : Nat) (newHolder : Address)
  | revokeAsset (tokenId : Nat)
  | restoreAsset (tokenId : Nat) (assignedTo : Address)
  | updateAssetRecord (tokenId : Nat) (newAssetHash : Bytes32) (metadataURI : String)
  | pause
  | unpause
  | transferOwnership (newOwner : Address)
  | renounceOwnership
  | approve (to_ : Address) (tokenId : Nat)
  | setApprovalForAll (operator : Address) (approved : Bool)
  | transferFrom (from_ to_ : Address) (tokenId : Nat)
deriving DecidableEq

def AssetCall.exec {σ : Type} [ERC721 σ] (n : AssetNFT σ) (ac : OrgAccessManager)
    (ir : IdentityRegistry) (msg : Msg) : AssetCall → Except AssetError (AssetNFT.Outcome σ)
  | .reassignAsset tokenId newHolder => n.reassignAsset ac ir msg tokenId newHolder
  | .revokeAsset tokenId => n.revokeAsset ac ir msg tokenId
  | .restoreAsset tokenId assignedTo => n.restoreAsset ac ir msg tokenId assignedTo
  | .updateAssetRecord tokenId newAssetHash metadataURI =>
      n.updateAssetRecord ac ir msg tokenId newAssetHash metadataURI
  | .pause => n.pause msg
  | .unpause => n.unpause msg
  | .transferOwnership newOwner => n.transferOwnership msg newOwner
  | .renounceOwnership => n.renounceOwnership msg
  | .approve to_ tokenId => n.approve msg to_ tokenId
  | .setApprovalForAll operator approved => n.setApprovalForAll msg operator approved
  | .transferFrom from_ to_ tokenId => n.transferFrom msg from_ to_ tokenId

end OwneX
