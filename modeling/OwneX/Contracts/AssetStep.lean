import OwneX.Contracts.AssetNFT

set_option autoImplicit false

/-! # What a call of the asset contract can do

`AssetStep n ac ir msg c n' events` lists the guards every successful call of `AssetNFT` passed and
what it leaves, and `MintStep` does the same for the first half of a mint. A revocation or a
restoration moves the token only when it is not already where it should be, so each of them is two
steps. -/

namespace OwneX

open Storage

variable {σ : Type} [ERC721 σ]

/-- The caller of a permission-gated function on `tokenId`: unpaused, on a known asset, with
    `permission` granted in the asset's organization. -/
structure AssetAuthorized (n : AssetNFT σ) (ac : OrgAccessManager) (ir : IdentityRegistry)
    (msg : Msg) (tokenId : Nat) (permission : Bytes32) : Prop where
  unpaused : n.paused = false
  known : (n.assets tokenId).orgId ≠ 0
  permitted : ac.hasPermission ir msg.timestamp (n.assets tokenId).orgId msg.sender permission = true

/-- The base contract moved `tokenId` to `to_`, leaving `ledger`. -/
structure Moved (n : AssetNFT σ) (to_ : Address) (tokenId : Nat) (ledger : σ) : Prop where
  nonzero : to_ ≠ 0#160
  elsewhere : n.ownerOf tokenId ≠ to_
  update : ERC721.update n.ledger to_ tokenId 0#160 = some ledger

inductive AssetStep (n : AssetNFT σ) (ac : OrgAccessManager) (ir : IdentityRegistry) (msg : Msg) :
    AssetCall → AssetNFT σ → List AssetEvent → Prop where
  | reassignAsset {tokenId : Nat} {newHolder : Address} {transferCount : Nat} {ledger : σ}
      (caller : AssetAuthorized n ac ir msg tokenId PERM_TRANSFER_ASSETS)
      (active : (n.assets tokenId).active = true)
      (member : ac.effectiveRole ir msg.timestamp (n.assets tokenId).orgId newHolder ≠ ROLE_NONE)
      (owned : n.ownerOf tokenId ≠ 0#160)
      (count : checkedSucc 32 (n.assets tokenId).transferCount = some transferCount)
      (moved : Moved n newHolder tokenId ledger) :
      AssetStep n ac ir msg (.reassignAsset tokenId newHolder)
        { n.setAsset tokenId
            { n.assets tokenId with assignedTo := newHolder, transferCount } with
          ledger, orgControlledTransfer := false }
        [.assetAssigned tokenId (n.ownerOf tokenId) newHolder msg.sender]
  | revokeHeld {tokenId : Nat}
      (caller : AssetAuthorized n ac ir msg tokenId PERM_TRANSFER_ASSETS)
      (active : (n.assets tokenId).active = true)
      (owned : n.ownerOf tokenId ≠ 0#160)
      (held : n.ownerOf tokenId = ir.orgRootAdmin (n.assets tokenId).orgId) :
      AssetStep n ac ir msg (.revokeAsset tokenId)
        (n.setAsset tokenId
          { n.assets tokenId with
            active := false, assignedTo := ir.orgRootAdmin (n.assets tokenId).orgId })
        [.assetRevoked tokenId (n.ownerOf tokenId) (ir.orgRootAdmin (n.assets tokenId).orgId)
          msg.sender]
  | revokeMoved {tokenId transferCount : Nat} {ledger : σ}
      (caller : AssetAuthorized n ac ir msg tokenId PERM_TRANSFER_ASSETS)
      (active : (n.assets tokenId).active = true)
      (owned : n.ownerOf tokenId ≠ 0#160)
      (count : checkedSucc 32 (n.assets tokenId).transferCount = some transferCount)
      (moved : Moved n (ir.orgRootAdmin (n.assets tokenId).orgId) tokenId ledger) :
      AssetStep n ac ir msg (.revokeAsset tokenId)
        { n.setAsset tokenId
            { n.assets tokenId with
              active := false, assignedTo := ir.orgRootAdmin (n.assets tokenId).orgId
              transferCount } with
          ledger, orgControlledTransfer := false }
        [.assetRevoked tokenId (n.ownerOf tokenId) (ir.orgRootAdmin (n.assets tokenId).orgId)
          msg.sender]
  | restoreHeld {tokenId : Nat} {assignedTo : Address}
      (caller : AssetAuthorized n ac ir msg tokenId PERM_TRANSFER_ASSETS)
      (inactive : (n.assets tokenId).active = false)
      (member : ac.effectiveRole ir msg.timestamp (n.assets tokenId).orgId assignedTo ≠ ROLE_NONE)
      (owned : n.ownerOf tokenId ≠ 0#160) (held : n.ownerOf tokenId = assignedTo) :
      AssetStep n ac ir msg (.restoreAsset tokenId assignedTo)
        (n.setAsset tokenId { n.assets tokenId with active := true, assignedTo })
        [.assetRestored tokenId assignedTo msg.sender]
  | restoreMoved {tokenId transferCount : Nat} {assignedTo : Address} {ledger : σ}
      (caller : AssetAuthorized n ac ir msg tokenId PERM_TRANSFER_ASSETS)
      (inactive : (n.assets tokenId).active = false)
      (member : ac.effectiveRole ir msg.timestamp (n.assets tokenId).orgId assignedTo ≠ ROLE_NONE)
      (owned : n.ownerOf tokenId ≠ 0#160)
      (count : checkedSucc 32 (n.assets tokenId).transferCount = some transferCount)
      (moved : Moved n assignedTo tokenId ledger) :
      AssetStep n ac ir msg (.restoreAsset tokenId assignedTo)
        { n.setAsset tokenId
            { n.assets tokenId with active := true, assignedTo, transferCount } with
          ledger, orgControlledTransfer := false }
        [.assetRestored tokenId assignedTo msg.sender]
  | updateAssetRecord {tokenId : Nat} {newAssetHash : Bytes32} {metadataURI : String}
      (caller : AssetAuthorized n ac ir msg tokenId PERM_MINT_ASSETS)
      (hash : newAssetHash ≠ 0#256) (uri : metadataURI.utf8ByteSize ≠ 0) :
      AssetStep n ac ir msg (.updateAssetRecord tokenId newAssetHash metadataURI)
        { n.setAsset tokenId { n.assets tokenId with assetHash := newAssetHash } with
          ledger := ERC721.setTokenURI n.ledger tokenId metadataURI }
        [.assetMetadataUpdated tokenId (n.assets tokenId).assetHash newAssetHash metadataURI
          msg.sender]
  | pause (owner : n.owner = msg.sender) (unpaused : n.paused = false) :
      AssetStep n ac ir msg .pause { n with paused := true } []
  | unpause (owner : n.owner = msg.sender) (paused : n.paused = true) :
      AssetStep n ac ir msg .unpause { n with paused := false } []
  | transferOwnership {newOwner : Address} (owner : n.owner = msg.sender)
      (nonzero : newOwner ≠ 0#160) :
      AssetStep n ac ir msg (.transferOwnership newOwner) { n with owner := newOwner } []
  | renounceOwnership (owner : n.owner = msg.sender) :
      AssetStep n ac ir msg .renounceOwnership { n with owner := 0#160 } []
  | approve {to_ : Address} {tokenId : Nat} {ledger : σ}
      (approved : ERC721.approve n.ledger msg.sender to_ tokenId = some ledger) :
      AssetStep n ac ir msg (.approve to_ tokenId) { n with ledger } []
  | setApprovalForAll {operator : Address} {approved : Bool} {ledger : σ}
      (set : ERC721.setApprovalForAll n.ledger msg.sender operator approved = some ledger) :
      AssetStep n ac ir msg (.setApprovalForAll operator approved) { n with ledger } []
  /-- Only while the flag is set: the base contract authorises nobody for a token without an owner,
      so this is never a mint. -/
  | transferFrom {from_ to_ : Address} {tokenId : Nat} {ledger : σ}
      (nonzero : to_ ≠ 0#160) (unlocked : n.orgControlledTransfer = true)
      (unpaused : n.paused = false) (owner : n.ownerOf tokenId = from_)
      (update : ERC721.update n.ledger to_ tokenId msg.sender = some ledger) :
      AssetStep n ac ir msg (.transferFrom from_ to_ tokenId) { n with ledger } []

/-- The half of `mintAsset` before the recipient is called. -/
inductive MintStep (n : AssetNFT σ) (ac : OrgAccessManager) (ir : IdentityRegistry) (msg : Msg)
    (orgId : Nat) (assignedTo : Address) (assetHash : Bytes32) (metadataURI : String) :
    AssetNFT σ → Prop where
  | mint {nextTokenId : Nat} {ledger : σ}
      (unpaused : n.paused = false)
      (permitted : ac.hasPermission ir msg.timestamp orgId msg.sender PERM_MINT_ASSETS = true)
      (nonzero : assignedTo ≠ 0#160) (hash : assetHash ≠ 0#256) (uri : metadataURI.utf8ByteSize ≠ 0)
      (member : ac.effectiveRole ir msg.timestamp orgId assignedTo ≠ ROLE_NONE)
      (next : checkedSucc 256 n.nextTokenId = some nextTokenId)
      (unowned : n.ownerOf n.nextTokenId = 0#160)
      (update : ERC721.update n.ledger assignedTo n.nextTokenId 0#160 = some ledger) :
      MintStep n ac ir msg orgId assignedTo assetHash metadataURI
        { n.setAsset n.nextTokenId
            { orgId, assetHash, assignedTo, active := true, mintedAt := uint64 msg.timestamp } with
          ledger, nextTokenId
          orgAssets := Function.update n.orgAssets orgId (n.orgAssets orgId ++ [n.nextTokenId]) }

variable {n n' : AssetNFT σ} {ac : OrgAccessManager} {ir : IdentityRegistry} {msg : Msg}
  {c : AssetCall} {events : List AssetEvent}

/-! ## The guards, as equations -/

namespace AssetNFT

section Guards

omit [ERC721 σ]

@[simp] theorem whenNotPaused_eq_ok {u : Unit} : n.whenNotPaused = .ok u ↔ n.paused = false := by
  simp [whenNotPaused]

@[simp] theorem onlyOwner_eq_ok {u : Unit} : n.onlyOwner msg = .ok u ↔ n.owner = msg.sender := by
  simp [onlyOwner]

@[simp] theorem requireAsset_eq_ok {tokenId : Nat} {asset : Asset} :
    n.requireAsset tokenId = .ok asset ↔
      (n.assets tokenId).orgId ≠ 0 ∧ n.assets tokenId = asset := by
  simp [requireAsset]

end Guards

@[simp] theorem requireOwned_eq_ok {tokenId : Nat} {holder : Address} :
    n.requireOwned tokenId = .ok holder ↔
      n.ownerOf tokenId ≠ 0#160 ∧ n.ownerOf tokenId = holder := by
  simp [requireOwned]

@[simp] theorem requirePermission_eq_ok {now orgId : Nat} {caller : Address} {permission : Bytes32}
    {u : Unit} :
    requirePermission ac ir now orgId caller permission = .ok u ↔
      ac.hasPermission ir now orgId caller permission = true := by
  simp [requirePermission]

@[simp] theorem requireOrgMember_eq_ok {now orgId : Nat} {wallet : Address} {u : Unit} :
    requireOrgMember ac ir now orgId wallet = .ok u ↔
      ac.effectiveRole ir now orgId wallet ≠ ROLE_NONE := by
  simp [requireOrgMember]

@[simp] theorem bumpTransferCount_eq_ok {asset asset' : Asset} :
    bumpTransferCount asset = .ok asset' ↔
      ∃ transferCount, checkedSucc 32 asset.transferCount = some transferCount ∧
        { asset with transferCount } = asset' := by
  simp [bumpTransferCount]

@[simp] theorem ownerOf_setAsset (tokenId t : Nat) (asset : Asset) :
    (n.setAsset tokenId asset).ownerOf t = n.ownerOf t := rfl

/-- `_update` on a token that exists. -/
theorem update_eq_ok {to_ : Address} {tokenId : Nat} {auth : Address}
    (hto : to_ ≠ 0#160) (howned : n.ownerOf tokenId ≠ 0#160) :
    n.update to_ tokenId auth = .ok n' ↔
      n.orgControlledTransfer = true ∧ n.paused = false ∧
        ∃ ledger, ERC721.update n.ledger to_ tokenId auth = some ledger ∧
          { n with ledger } = n' := by
  simp [update, hto, howned]

/-- A mint of a token nobody holds passes neither the lock nor the pause. -/
theorem mint_eq_ok {to_ : Address} {tokenId : Nat} :
    n.mint to_ tokenId = .ok n' ↔
      to_ ≠ 0#160 ∧ n.ownerOf tokenId = 0#160 ∧
        ∃ ledger, ERC721.update n.ledger to_ tokenId 0#160 = some ledger ∧
          { n with ledger } = n' := by
  by_cases howned : n.ownerOf tokenId = 0#160
  · simp [mint, update, howned]
  · simp [mint, howned]

/-- `_update` on behalf of an account: it is never a mint, since nobody is authorised for a token
    without an owner. -/
theorem update_auth_eq_ok {to_ : Address} {tokenId : Nat} {sender : Account} (hto : to_ ≠ 0#160) :
    n.update to_ tokenId sender = .ok n' ↔
      n.orgControlledTransfer = true ∧ n.paused = false ∧
        ∃ ledger, ERC721.update n.ledger to_ tokenId sender = some ledger ∧
          { n with ledger } = n' := by
  by_cases howned : n.ownerOf tokenId = 0#160
  · have hnone : ERC721.update n.ledger to_ tokenId sender.1 = none := by
      by_contra hsome
      obtain ⟨ledger, hup⟩ := Option.ne_none_iff_exists'.1 hsome
      exact ERC721.owned_of_update hup sender.2 howned
    simp [update, hnone]
  · exact update_eq_ok hto howned

/-- A flagged movement of a token that exists raises the flag, moves it and lowers the flag. -/
theorem controlledTransfer_eq_ok {from_ to_ : Address} {tokenId : Nat}
    (howned : n.ownerOf tokenId ≠ 0#160) (hfrom : n.ownerOf tokenId = from_) :
    n.controlledTransfer from_ to_ tokenId = .ok n' ↔
      to_ ≠ 0#160 ∧ n.paused = false ∧
        ∃ ledger, ERC721.update n.ledger to_ tokenId 0#160 = some ledger ∧
          { n with ledger, orgControlledTransfer := false } = n' := by
  have howned' : { n with orgControlledTransfer := true }.ownerOf tokenId ≠ 0#160 := howned
  have hfrom' : { n with orgControlledTransfer := true }.ownerOf tokenId = from_ := hfrom
  by_cases hto : to_ = 0#160
  · simp [controlledTransfer, transfer, hto]
  · simp only [controlledTransfer, transfer, bind_eq_ok, pure_eq_ok, revertIf_eq_ok,
      update_eq_ok hto howned', not_not, true_and]
    constructor
    · rintro ⟨_, ⟨_, _, _, ⟨hp, ledger, hup, rfl⟩, _, _, _, _, rfl⟩, rfl⟩
      exact ⟨hto, hp, ledger, hup, rfl⟩
    · rintro ⟨_, hp, ledger, hup, rfl⟩
      exact ⟨_, ⟨(), hto, _, ⟨hp, ledger, hup, rfl⟩, (), howned, (), hfrom, rfl⟩, rfl⟩

end AssetNFT

/-- The record is written before the token moves, which does not disturb the movement. -/
theorem Moved.controlledTransfer {to_ : Address} {tokenId : Nat} {ledger : σ} {asset : Asset}
    (h : Moved n to_ tokenId ledger) (hpaused : n.paused = false)
    (howned : n.ownerOf tokenId ≠ 0#160) :
    (n.setAsset tokenId asset).controlledTransfer (n.ownerOf tokenId) to_ tokenId =
      .ok { n.setAsset tokenId asset with ledger, orgControlledTransfer := false } := by
  have howned' : (n.setAsset tokenId asset).ownerOf tokenId ≠ 0#160 := howned
  exact (AssetNFT.controlledTransfer_eq_ok howned' rfl).2
    ⟨h.nonzero, hpaused, ledger, h.update, rfl⟩

theorem Moved.of_controlledTransfer {to_ : Address} {tokenId : Nat} {asset : Asset}
    (h : (n.setAsset tokenId asset).controlledTransfer (n.ownerOf tokenId) to_ tokenId = .ok n')
    (howned : n.ownerOf tokenId ≠ 0#160) (helse : n.ownerOf tokenId ≠ to_) :
    ∃ ledger, Moved n to_ tokenId ledger ∧
      { n.setAsset tokenId asset with ledger, orgControlledTransfer := false } = n' := by
  have howned' : (n.setAsset tokenId asset).ownerOf tokenId ≠ 0#160 := howned
  obtain ⟨hzero, -, ledger, hup, rfl⟩ := (AssetNFT.controlledTransfer_eq_ok howned' rfl).1 h
  exact ⟨ledger, ⟨hzero, helse, hup⟩, rfl⟩

/-! ## The inversion -/

/-- A call succeeds exactly by one of the steps. -/
theorem AssetCall.exec_eq_ok :
    c.exec n ac ir msg = .ok (n', events) ↔ AssetStep n ac ir msg c n' events := by
  constructor
  · intro h
    cases c with
    | reassignAsset tokenId newHolder =>
        simp [exec, AssetNFT.reassignAsset] at h
        obtain ⟨hp, hknown, hactive, -, hperm, hmem, howned, helse, k, hk, hmove, rfl⟩ := h
        obtain ⟨ledger, hmoved, rfl⟩ := Moved.of_controlledTransfer hmove howned helse
        exact .reassignAsset ⟨hp, hknown, hperm⟩ hactive hmem howned hk hmoved
    | revokeAsset tokenId =>
        simp [exec, AssetNFT.revokeAsset] at h
        obtain ⟨hp, hknown, hactive, hperm, howned, h⟩ := h
        split at h
        · next hheld =>
            simp at h
            obtain ⟨rfl, rfl⟩ := h
            exact .revokeHeld ⟨hp, hknown, hperm⟩ hactive howned hheld
        · next helse =>
            simp at h
            obtain ⟨k, hk, hmove, rfl⟩ := h
            obtain ⟨ledger, hmoved, rfl⟩ := Moved.of_controlledTransfer hmove howned helse
            exact .revokeMoved ⟨hp, hknown, hperm⟩ hactive howned hk hmoved
    | restoreAsset tokenId assignedTo =>
        simp [exec, AssetNFT.restoreAsset] at h
        obtain ⟨hp, hknown, hinactive, -, hperm, hmem, howned, h⟩ := h
        split at h
        · next hheld =>
            simp at h
            obtain ⟨rfl, rfl⟩ := h
            exact .restoreHeld ⟨hp, hknown, hperm⟩ hinactive hmem howned hheld
        · next helse =>
            simp at h
            obtain ⟨k, hk, hmove, rfl⟩ := h
            obtain ⟨ledger, hmoved, rfl⟩ := Moved.of_controlledTransfer hmove howned helse
            exact .restoreMoved ⟨hp, hknown, hperm⟩ hinactive hmem howned hk hmoved
    | updateAssetRecord tokenId newAssetHash metadataURI =>
        simp only [exec, AssetNFT.updateAssetRecord, bind_eq_ok, pure_eq_ok, revertIf_eq_ok,
          AssetNFT.whenNotPaused_eq_ok, AssetNFT.requireAsset_eq_ok,
          AssetNFT.requirePermission_eq_ok, Prod.mk.injEq] at h
        obtain ⟨_, hp, _, ⟨hknown, rfl⟩, _, hhash, _, huri, _, hperm, rfl, rfl⟩ := h
        exact .updateAssetRecord ⟨hp, hknown, hperm⟩ hhash huri
    | pause =>
        simp [exec, AssetNFT.pause] at h
        obtain ⟨howner, hp, rfl, rfl⟩ := h
        exact .pause howner hp
    | unpause =>
        simp [exec, AssetNFT.unpause] at h
        obtain ⟨howner, hp, rfl, rfl⟩ := h
        exact .unpause howner hp
    | transferOwnership newOwner =>
        simp [exec, AssetNFT.transferOwnership] at h
        obtain ⟨howner, hzero, rfl, rfl⟩ := h
        exact .transferOwnership howner hzero
    | renounceOwnership =>
        simp [exec, AssetNFT.renounceOwnership] at h
        obtain ⟨howner, rfl, rfl⟩ := h
        exact .renounceOwnership howner
    | approve to_ tokenId =>
        simp [exec, AssetNFT.approve] at h
        obtain ⟨ledger, happ, rfl, rfl⟩ := h
        exact .approve happ
    | setApprovalForAll operator approved =>
        simp [exec, AssetNFT.setApprovalForAll] at h
        obtain ⟨ledger, hset, rfl, rfl⟩ := h
        exact .setApprovalForAll hset
    | transferFrom from_ to_ tokenId =>
        simp [exec, AssetNFT.transferFrom] at h
        obtain ⟨hzero, hmove, howner, rfl⟩ := h
        obtain ⟨hflag, hp, ledger, hup, rfl⟩ := (AssetNFT.update_auth_eq_ok hzero).1 hmove
        exact .transferFrom hzero hflag hp howner hup
  · intro h
    cases h with
    | reassignAsset hcaller hactive hmem howned hk hmoved =>
        simp [exec, AssetNFT.reassignAsset, hcaller.unpaused, hcaller.known, hcaller.permitted,
          hactive, hmem, howned, hk, hmoved.nonzero, hmoved.elsewhere]
        exact hmoved.controlledTransfer hcaller.unpaused howned
    | revokeHeld hcaller hactive howned hheld =>
        have hadmin := hheld ▸ howned
        simp [exec, AssetNFT.revokeAsset, hcaller.unpaused, hcaller.known, hcaller.permitted,
          hactive, hheld, hadmin]
    | revokeMoved hcaller hactive howned hk hmoved =>
        simp [exec, AssetNFT.revokeAsset, hcaller.unpaused, hcaller.known, hcaller.permitted,
          hactive, howned, hmoved.elsewhere, hk]
        exact hmoved.controlledTransfer hcaller.unpaused howned
    | restoreHeld hcaller hinactive hmem howned hheld =>
        subst hheld
        simp [exec, AssetNFT.restoreAsset, hcaller.unpaused, hcaller.known, hcaller.permitted,
          hinactive, hmem, howned]
    | restoreMoved hcaller hinactive hmem howned hk hmoved =>
        simp [exec, AssetNFT.restoreAsset, hcaller.unpaused, hcaller.known, hcaller.permitted,
          hinactive, hmem, howned, hmoved.nonzero, hmoved.elsewhere, hk]
        exact hmoved.controlledTransfer hcaller.unpaused howned
    | updateAssetRecord hcaller hhash huri =>
        simp [exec, AssetNFT.updateAssetRecord, hcaller.unpaused, hcaller.known,
          hcaller.permitted, hhash]
        simpa using huri
    | pause howner hp =>
        simp [exec, AssetNFT.pause, howner, hp]
    | unpause howner hp =>
        simp [exec, AssetNFT.unpause, howner, hp]
    | transferOwnership howner hzero =>
        simp [exec, AssetNFT.transferOwnership, howner, hzero]
    | renounceOwnership howner =>
        simp [exec, AssetNFT.renounceOwnership, howner]
    | approve happ =>
        simp [exec, AssetNFT.approve, happ]
    | setApprovalForAll hset =>
        simp [exec, AssetNFT.setApprovalForAll, hset]
    | transferFrom hzero hflag hp howner hup =>
        simp [exec, AssetNFT.transferFrom, hzero, howner]
        exact (AssetNFT.update_auth_eq_ok hzero).2 ⟨hflag, hp, _, hup, rfl⟩

theorem AssetNFT.mintAssetBegin_eq_ok {orgId : Nat} {assignedTo : Address} {assetHash : Bytes32}
    {metadataURI : String} :
    n.mintAssetBegin ac ir msg orgId assignedTo assetHash metadataURI = .ok n' ↔
      MintStep n ac ir msg orgId assignedTo assetHash metadataURI n' := by
  simp only [mintAssetBegin, bind_eq_ok, revertIf_eq_ok, whenNotPaused_eq_ok,
    requirePermission_eq_ok, requireOrgMember_eq_ok, orRevert_eq_ok, mint_eq_ok]
  constructor
  · rintro ⟨_, hp, _, hperm, _, hzero, _, hhash, _, huri, _, hmem, k, hk, -, howned, ledger, hup, rfl⟩
    exact .mint hp hperm hzero hhash huri hmem hk howned hup
  · rintro ⟨hp, hperm, hzero, hhash, huri, hmem, hk, howned, hup⟩
    exact ⟨(), hp, (), hperm, (), hzero, (), hhash, (), huri, (), hmem, _, hk, hzero, howned, _, hup,
      rfl⟩

end OwneX
