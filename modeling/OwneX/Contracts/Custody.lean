import OwneX.Contracts.Runs

set_option autoImplicit false

/-! # Asset custody

Who holds a certificate, over every run. The record and the ledger agree on the holder of every
minted token and on no holder for every other (`CustodyInv`), and one action changes the holder of a
minted token only as `reassignAsset`, `revokeAsset` or `restoreAsset`, with the caller's permission,
and counts the change (`CustodyStep`). Both are facts about a single action, so what a recipient
does in the middle of a mint needs no separate argument: its calls are actions of the run too. -/

namespace OwneX

open Storage

variable {σ : Type} [ERC721 σ]

/-! ## The invariant -/

def AssetNFT.Minted (n : AssetNFT σ) (tokenId : Nat) : Prop :=
  1 ≤ tokenId ∧ tokenId < n.nextTokenId

/-- The record of a minted token names its holder; any other token has neither. -/
structure TokenInv (n : AssetNFT σ) (t : Nat) : Prop where
  known : n.Minted t → (n.assets t).orgId ≠ 0
  held : n.Minted t → n.ownerOf t ≠ 0#160
  assigned : n.Minted t → (n.assets t).assignedTo = n.ownerOf t
  blank : ¬ n.Minted t → n.assets t = {}
  unheld : ¬ n.Minted t → n.ownerOf t = 0#160

structure CustodyInv (n : AssetNFT σ) : Prop where
  locked : n.orgControlledTransfer = false
  next : 1 ≤ n.nextTokenId
  token : ∀ t, TokenInv n t

variable {n n' : AssetNFT σ} {ac : OrgAccessManager} {ir : IdentityRegistry} {msg : Msg}

/-- A token is minted exactly when somebody holds it. -/
theorem CustodyInv.minted_iff (h : CustodyInv n) (t : Nat) : n.Minted t ↔ n.ownerOf t ≠ 0#160 := by
  constructor
  · exact (h.token t).held
  · intro hheld
    by_contra hnot
    exact hheld ((h.token t).unheld hnot)

theorem CustodyInv.minted_of_known (h : CustodyInv n) {t : Nat} (hknown : (n.assets t).orgId ≠ 0) :
    n.Minted t := by
  by_contra hnot
  rw [(h.token t).blank hnot] at hknown
  exact hknown rfl

theorem TokenInv.congr {t : Nat} (h : TokenInv n t) (hnext : n'.nextTokenId = n.nextTokenId)
    (hasset : n'.assets t = n.assets t) (howner : n'.ownerOf t = n.ownerOf t) : TokenInv n' t := by
  have hminted : n'.Minted t ↔ n.Minted t := by rw [AssetNFT.Minted, hnext, AssetNFT.Minted]
  constructor
  · rw [hminted, hasset]
    exact h.known
  · rw [hminted, howner]
    exact h.held
  · rw [hminted, hasset, howner]
    exact h.assigned
  · rw [hminted, hasset]
    exact h.blank
  · rw [hminted, howner]
    exact h.unheld

/-! ## What one action does to one token -/

/-- The holder of `t` may change only by an authorised movement, which is counted; everything that
    identifies the asset stays. -/
structure CustodyStep (n : AssetNFT σ) (ac : OrgAccessManager) (ir : IdentityRegistry) (msg : Msg)
    (c : AssetCall) (n' : AssetNFT σ) (t : Nat) : Prop where
  orgId : (n'.assets t).orgId = (n.assets t).orgId
  held : n.ownerOf t ≠ 0#160 → n'.ownerOf t ≠ 0#160
  counted : (n'.assets t).transferCount =
    (n.assets t).transferCount + (if n'.ownerOf t = n.ownerOf t then 0 else 1)
  call : n'.ownerOf t ≠ n.ownerOf t →
    (∃ newHolder, c = .reassignAsset t newHolder) ∨ c = .revokeAsset t ∨
      ∃ assignedTo, c = .restoreAsset t assignedTo
  authorized : n'.ownerOf t ≠ n.ownerOf t →
    AssetAuthorized n ac ir msg t PERM_TRANSFER_ASSETS

/-- Nothing happens to `t`. -/
theorem CustodyStep.of_same {c : AssetCall} {t : Nat}
    (horg : (n'.assets t).orgId = (n.assets t).orgId)
    (hcount : (n'.assets t).transferCount = (n.assets t).transferCount)
    (howner : n'.ownerOf t = n.ownerOf t) : CustodyStep n ac ir msg c n' t where
  orgId := horg
  held := by rw [howner]; exact id
  counted := by rw [hcount, if_pos howner, Nat.add_zero]
  call := fun h => absurd howner h
  authorized := fun h => absurd howner h

/-- The storage after a flagged movement. -/
theorem ownerOf_moved {tokenId : Nat} {to_ : Address} {ledger : σ} (asset : Asset)
    (h : Moved n to_ tokenId ledger) :
    { n.setAsset tokenId asset with ledger, orgControlledTransfer := false }.ownerOf =
      Function.update n.ownerOf tokenId to_ :=
  ERC721.ownerOf_update h.update

/-- A movement of a minted token to the holder its new record names. -/
theorem CustodyInv.moved (hinv : CustodyInv n) {tokenId : Nat} {to_ : Address} {ledger : σ}
    {asset : Asset} (h : Moved n to_ tokenId ledger)
    (hknown : (n.assets tokenId).orgId ≠ 0) (horg : asset.orgId = (n.assets tokenId).orgId)
    (hassigned : asset.assignedTo = to_) :
    CustodyInv { n.setAsset tokenId asset with ledger, orgControlledTransfer := false } := by
  refine ⟨rfl, hinv.next, fun t => ?_⟩
  have howner := ownerOf_moved asset h
  by_cases ht : t = tokenId
  · subst ht
    have hminted := hinv.minted_of_known hknown
    have hasset : ({ n.setAsset t asset with ledger, orgControlledTransfer := false } :
        AssetNFT σ).assets t = asset := Function.update_self ..
    have hheld : ({ n.setAsset t asset with ledger, orgControlledTransfer := false } :
        AssetNFT σ).ownerOf t = to_ := by rw [howner, Function.update_self]
    exact ⟨fun _ => by rw [hasset, horg]; exact hknown, fun _ => by rw [hheld]; exact h.nonzero,
      fun _ => by rw [hasset, hheld, hassigned], fun hnot => absurd hminted hnot,
      fun hnot => absurd hminted hnot⟩
  · refine (hinv.token t).congr rfl (Function.update_of_ne ht _ _) ?_
    rw [howner, Function.update_of_ne ht]

/-- A new record for a minted token that stays where it is. -/
theorem CustodyInv.edited (hinv : CustodyInv n) {tokenId : Nat} {asset : Asset}
    (hknown : (n.assets tokenId).orgId ≠ 0) (horg : asset.orgId = (n.assets tokenId).orgId)
    (hassigned : asset.assignedTo = n.ownerOf tokenId) :
    CustodyInv (n.setAsset tokenId asset) := by
  refine ⟨hinv.locked, hinv.next, fun t => ?_⟩
  by_cases ht : t = tokenId
  · subst ht
    have hminted := hinv.minted_of_known hknown
    have hasset : (n.setAsset t asset).assets t = asset := Function.update_self ..
    exact ⟨fun _ => by rw [hasset, horg]; exact hknown, (hinv.token t).held,
      fun _ => by rw [hasset, hassigned]; rfl, fun hnot => absurd hminted hnot,
      fun hnot => absurd hminted hnot⟩
  · exact (hinv.token t).congr rfl (Function.update_of_ne ht _ _) rfl

/-- A new record with the old identity and count, for a token that stays where it is. -/
theorem CustodyStep.edited {tokenId : Nat} {asset : Asset} {c : AssetCall}
    (hassets : n'.assets = Function.update n.assets tokenId asset)
    (horg : asset.orgId = (n.assets tokenId).orgId)
    (hcount : asset.transferCount = (n.assets tokenId).transferCount)
    (howner : n'.ownerOf = n.ownerOf) (t : Nat) : CustodyStep n ac ir msg c n' t := by
  by_cases ht : t = tokenId
  · subst ht
    have hset : n'.assets t = asset := by rw [hassets, Function.update_self]
    exact .of_same (by rw [hset, horg]) (by rw [hset, hcount]) (congrFun howner t)
  · have hset : n'.assets t = n.assets t := by rw [hassets, Function.update_of_ne ht]
    exact .of_same (by rw [hset]) (by rw [hset]) (congrFun howner t)

/-- A change that touches neither a record nor a holder. -/
theorem CustodyInv.congr (hinv : CustodyInv n)
    (hflag : n'.orgControlledTransfer = n.orgControlledTransfer)
    (hnext : n'.nextTokenId = n.nextTokenId) (hassets : n'.assets = n.assets)
    (howner : n'.ownerOf = n.ownerOf) : CustodyInv n' where
  locked := hflag.trans hinv.locked
  next := hnext ▸ hinv.next
  token := fun t => (hinv.token t).congr hnext (congrFun hassets t) (congrFun howner t)

theorem CustodyStep.moved {tokenId transferCount t : Nat} {to_ : Address} {ledger : σ}
    {asset : Asset} {c : AssetCall} (h : Moved n to_ tokenId ledger)
    (hcaller : AssetAuthorized n ac ir msg tokenId PERM_TRANSFER_ASSETS)
    (horg : asset.orgId = (n.assets tokenId).orgId)
    (hcount : checkedSucc 32 (n.assets tokenId).transferCount = some transferCount)
    (hasset : asset.transferCount = transferCount)
    (hcall : (∃ newHolder, c = .reassignAsset tokenId newHolder) ∨ c = .revokeAsset tokenId ∨
      ∃ assignedTo, c = .restoreAsset tokenId assignedTo) :
    CustodyStep n ac ir msg c
      { n.setAsset tokenId asset with ledger, orgControlledTransfer := false } t := by
  have howner := ownerOf_moved asset h
  by_cases ht : t = tokenId
  · subst ht
    have hset : ({ n.setAsset t asset with ledger, orgControlledTransfer := false } :
        AssetNFT σ).assets t = asset := Function.update_self ..
    have hheld : ({ n.setAsset t asset with ledger, orgControlledTransfer := false } :
        AssetNFT σ).ownerOf t = to_ := by rw [howner, Function.update_self]
    refine ⟨by rw [hset, horg], fun _ => by rw [hheld]; exact h.nonzero, ?_, fun _ => hcall,
      fun _ => hcaller⟩
    rw [hset, hheld, if_neg h.elsewhere.symm, hasset, checkedSucc_eq_some hcount]
  · refine .of_same ?_ ?_ ?_
    · exact congrArg Asset.orgId (Function.update_of_ne ht _ _)
    · exact congrArg Asset.transferCount (Function.update_of_ne ht _ _)
    · rw [howner, Function.update_of_ne ht]

/-- One call of the asset contract. -/
theorem AssetStep.custody {c : AssetCall} {events : List AssetEvent}
    (hstep : AssetStep n ac ir msg c n' events) (hinv : CustodyInv n) :
    CustodyInv n' ∧ ∀ t, CustodyStep n ac ir msg c n' t := by
  cases hstep with
  | reassignAsset hcaller _ _ _ hcount hmoved =>
      exact ⟨hinv.moved hmoved hcaller.known rfl rfl,
        fun t => .moved hmoved hcaller rfl hcount rfl (.inl ⟨_, rfl⟩)⟩
  | revokeHeld hcaller _ _ hheld =>
      exact ⟨hinv.edited hcaller.known rfl hheld.symm, .edited rfl rfl rfl rfl⟩
  | revokeMoved hcaller _ _ hcount hmoved =>
      exact ⟨hinv.moved hmoved hcaller.known rfl rfl,
        fun t => .moved hmoved hcaller rfl hcount rfl (.inr (.inl rfl))⟩
  | restoreHeld hcaller _ _ _ hheld =>
      exact ⟨hinv.edited hcaller.known rfl hheld.symm, .edited rfl rfl rfl rfl⟩
  | restoreMoved hcaller _ _ _ hcount hmoved =>
      exact ⟨hinv.moved hmoved hcaller.known rfl rfl,
        fun t => .moved hmoved hcaller rfl hcount rfl (.inr (.inr ⟨_, rfl⟩))⟩
  | @updateAssetRecord tokenId newAssetHash metadataURI hcaller =>
      have hassigned := (hinv.token tokenId).assigned (hinv.minted_of_known hcaller.known)
      have howner : ERC721.ownerOf (ERC721.setTokenURI n.ledger tokenId metadataURI) =
          ERC721.ownerOf n.ledger := ERC721.ownerOf_setTokenURI _ _ _
      have hedited :
          CustodyInv (n.setAsset tokenId { n.assets tokenId with assetHash := newAssetHash }) :=
        hinv.edited hcaller.known rfl hassigned
      exact ⟨hedited.congr rfl rfl rfl howner, .edited rfl rfl rfl howner⟩
  | pause => exact ⟨hinv.congr rfl rfl rfl rfl, fun t => .of_same rfl rfl rfl⟩
  | unpause => exact ⟨hinv.congr rfl rfl rfl rfl, fun t => .of_same rfl rfl rfl⟩
  | transferOwnership => exact ⟨hinv.congr rfl rfl rfl rfl, fun t => .of_same rfl rfl rfl⟩
  | renounceOwnership => exact ⟨hinv.congr rfl rfl rfl rfl, fun t => .of_same rfl rfl rfl⟩
  | approve happ =>
      have howner := ERC721.ownerOf_approve happ
      exact ⟨hinv.congr rfl rfl rfl howner, fun t => .of_same rfl rfl (congrFun howner t)⟩
  | setApprovalForAll hset =>
      have howner := ERC721.ownerOf_setApprovalForAll hset
      exact ⟨hinv.congr rfl rfl rfl howner, fun t => .of_same rfl rfl (congrFun howner t)⟩
  | transferFrom _ hunlocked =>
      rw [hinv.locked] at hunlocked
      cases hunlocked

/-! ## Minting -/

theorem OrgAccessManager.org_ne_zero_of_permission {now orgId : Nat} {caller : Address}
    {permission : Bytes32} (h : ac.hasPermission ir now orgId caller permission = true) :
    orgId ≠ 0 := by
  rintro rfl
  simp [hasPermission, IdentityRegistry.isOrganizationActive,
    IdentityRegistry.organizationExists] at h

/-- A mint gives the next token a record and a holder, and leaves every other token alone. -/
theorem MintStep.custody {orgId : Nat} {assignedTo : Address} {assetHash : Bytes32}
    {metadataURI : String} (hstep : MintStep n ac ir msg orgId assignedTo assetHash metadataURI n')
    (hinv : CustodyInv n) :
    CustodyInv n' ∧ n.ownerOf n.nextTokenId = 0#160 ∧ (n'.assets n.nextTokenId).transferCount = 0 ∧
      ∀ t, t ≠ n.nextTokenId → n'.assets t = n.assets t ∧ n'.ownerOf t = n.ownerOf t := by
  cases hstep with
  | @mint nextTokenId ledger _ hperm hzero _ _ _ hnext hunowned hup =>
      have hsucc := checkedSucc_eq_some hnext
      have howner := ERC721.ownerOf_update hup
      generalize hn' : ({ n.setAsset n.nextTokenId _ with
        ledger, nextTokenId, orgAssets := _ } : AssetNFT σ) = n'
      have hnext' : n'.nextTokenId = n.nextTokenId + 1 := by rw [← hn']; exact hsucc
      have hself : n'.assets n.nextTokenId =
          { orgId, assetHash, assignedTo, active := true, mintedAt := uint64 msg.timestamp } := by
        rw [← hn']
        exact Function.update_self ..
      have hheld : n'.ownerOf n.nextTokenId = assignedTo := by
        rw [← hn']
        exact (congrFun howner _).trans (Function.update_self ..)
      have hother : ∀ t, t ≠ n.nextTokenId →
          n'.assets t = n.assets t ∧ n'.ownerOf t = n.ownerOf t := by
        intro t ht
        rw [← hn']
        exact ⟨Function.update_of_ne ht _ _,
          (congrFun howner t).trans (Function.update_of_ne ht _ _)⟩
      refine ⟨⟨by rw [← hn']; exact hinv.locked, by omega, fun t => ?_⟩, hunowned, by rw [hself],
        hother⟩
      by_cases ht : t = n.nextTokenId
      · subst ht
        have hminted : n'.Minted n.nextTokenId := ⟨hinv.next, by omega⟩
        exact ⟨fun _ => by rw [hself]; exact OrgAccessManager.org_ne_zero_of_permission hperm,
          fun _ => by rw [hheld]; exact hzero, fun _ => by rw [hself, hheld],
          fun hnot => absurd hminted hnot, fun hnot => absurd hminted hnot⟩
      · obtain ⟨hasset, hholder⟩ := hother t ht
        have hminted : n'.Minted t ↔ n.Minted t := by
          unfold AssetNFT.Minted
          omega
        have hold := hinv.token t
        exact ⟨fun h => by rw [hasset]; exact hold.known (hminted.1 h),
          fun h => by rw [hholder]; exact hold.held (hminted.1 h),
          fun h => by rw [hasset, hholder]; exact hold.assigned (hminted.1 h),
          fun h => by rw [hasset]; exact hold.blank fun hm => h (hminted.2 hm),
          fun h => by rw [hholder]; exact hold.unheld fun hm => h (hminted.2 hm)⟩

/-! ## Transitions -/

/-- The transition changes the holder of a token that had one. -/
def Transition.moves (tr : Transition σ) (t : Nat) : Bool :=
  tr.before.nft.ownerOf t != 0#160 && tr.after.nft.ownerOf t != tr.before.nft.ownerOf t

/-- The transition is one of the three organization-controlled movements of `t`, unpaused and by a
    caller with the permission at that moment. -/
structure AuthorizedMove (tr : Transition σ) (t : Nat) : Prop where
  call : (∃ newHolder, tr.action = .asset (.reassignAsset t newHolder)) ∨
    tr.action = .asset (.revokeAsset t) ∨
    ∃ assignedTo, tr.action = .asset (.restoreAsset t assignedTo)
  unpaused : tr.before.nft.paused = false
  permitted : tr.before.hasPermission tr.msg.timestamp (tr.before.nft.assets t).orgId
    tr.msg.sender PERM_TRANSFER_ASSETS = true

structure TokenStep (tr : Transition σ) (t : Nat) : Prop where
  orgId : tr.before.nft.Minted t → (tr.after.nft.assets t).orgId = (tr.before.nft.assets t).orgId
  notBurned : tr.before.nft.ownerOf t ≠ 0#160 → tr.after.nft.ownerOf t ≠ 0#160
  counted : (tr.after.nft.assets t).transferCount =
    (tr.before.nft.assets t).transferCount + (if tr.moves t then 1 else 0)
  authorized : tr.moves t = true → AuthorizedMove tr t

/-- A transition that leaves the token's record and holder. -/
theorem TokenStep.of_same {tr : Transition σ} {t : Nat}
    (hasset : tr.after.nft.assets t = tr.before.nft.assets t)
    (howner : tr.after.nft.ownerOf t = tr.before.nft.ownerOf t) : TokenStep tr t := by
  have hmoves : tr.moves t = false := by simp [Transition.moves, howner]
  exact ⟨fun _ => by rw [hasset], fun h => by rwa [howner], by simp [hasset, hmoves],
    fun h => by rw [hmoves] at h; cases h⟩

theorem Transition.moves_iff {tr : Transition σ} {t : Nat} :
    tr.moves t = true ↔
      tr.before.nft.ownerOf t ≠ 0#160 ∧ tr.after.nft.ownerOf t ≠ tr.before.nft.ownerOf t := by
  simp [moves]

/-- A call of the asset contract moves only tokens that had a holder. -/
theorem CustodyStep.tokenStep {w : World σ} {c : AssetCall} {events : List Event} {t : Nat}
    (hinv : CustodyInv w.nft) (h : CustodyStep w.nft w.access w.registry msg c n' t) :
    TokenStep ⟨w, msg, .asset c, { w with nft := n' }, events⟩ t := by
  have hmoves : (⟨w, msg, .asset c, { w with nft := n' }, events⟩ : Transition σ).moves t = true ↔
      n'.ownerOf t ≠ w.nft.ownerOf t := by
    rw [Transition.moves_iff]
    refine ⟨And.right, fun hne => ⟨?_, hne⟩⟩
    exact (hinv.minted_iff t).1 (hinv.minted_of_known (h.authorized hne).known)
  refine ⟨fun _ => h.orgId, h.held, ?_, fun hmove => ?_⟩
  · refine h.counted.trans ?_
    by_cases hsame : n'.ownerOf t = w.nft.ownerOf t
    · rw [if_pos hsame, if_neg (fun hmove => hmoves.1 hmove hsame)]
    · rw [if_neg hsame, if_pos (hmoves.2 hsame)]
  · have hne := hmoves.1 hmove
    have hauth := h.authorized hne
    refine ⟨?_, hauth.unpaused, hauth.permitted⟩
    rcases h.call hne with ⟨holder, hc⟩ | hc | ⟨holder, hc⟩
    · exact .inl ⟨holder, congrArg Action.asset hc⟩
    · exact .inr (.inl (congrArg Action.asset hc))
    · exact .inr (.inr ⟨holder, congrArg Action.asset hc⟩)

/-- One transition keeps the invariant and treats every token as it should. -/
theorem Transition.custody {tr : Transition σ} (hvalid : tr.Valid)
    (hinv : CustodyInv tr.before.nft) : CustodyInv tr.after.nft ∧ ∀ t, TokenStep tr t := by
  obtain ⟨w, msg, act, w', events⟩ := tr
  have haction : ActionStep w msg act w' events := Transition.valid_iff.1 hvalid
  cases haction with
  | registry => exact ⟨hinv, fun t => .of_same rfl rfl⟩
  | access => exact ⟨hinv, fun t => .of_same rfl rfl⟩
  | asset hstep =>
      obtain ⟨hinv', hsteps⟩ := hstep.custody hinv
      exact ⟨hinv', fun t => (hsteps t).tokenStep hinv⟩
  | mintBegin hstep =>
      obtain ⟨hinv', hunowned, hcount, hother⟩ := hstep.custody hinv
      refine ⟨hinv', fun t => ?_⟩
      by_cases ht : t = w.nft.nextTokenId
      · -- The new token had no holder, so its mint is not a movement.
        subst ht
        refine ⟨fun hminted => absurd hminted.2 (Nat.lt_irrefl _),
          fun hheld => absurd hunowned hheld, ?_,
          fun hmove => absurd hunowned (Transition.moves_iff.1 hmove).1⟩
        rw [if_neg fun hmove => absurd hunowned (Transition.moves_iff.1 hmove).1]
        have hblank : w.nft.assets w.nft.nextTokenId = {} :=
          (hinv.token w.nft.nextTokenId).blank fun hm => Nat.lt_irrefl _ hm.2
        exact hcount.trans (by rw [hblank])
      · obtain ⟨hasset, howner⟩ := hother t ht
        exact .of_same hasset howner
  | @mintEnd tokenId _ _ _ metadataURI =>
      have howner : ERC721.ownerOf (ERC721.setTokenURI w.nft.ledger tokenId metadataURI) =
          ERC721.ownerOf w.nft.ledger := ERC721.ownerOf_setTokenURI _ _ _
      exact ⟨hinv.congr rfl rfl rfl howner, fun t => .of_same rfl (congrFun howner t)⟩

/-! ## Runs -/

theorem CustodyInv.deploy (assetOwner : Account) :
    CustodyInv (AssetNFT.deploy assetOwner : AssetNFT σ) where
  locked := rfl
  next := Nat.le_refl 1
  token := fun t => by
    have hnot : ¬ (AssetNFT.deploy assetOwner : AssetNFT σ).Minted t := fun h =>
      absurd h.2 (Nat.not_lt.2 h.1)
    exact ⟨fun h => absurd h hnot, fun h => absurd h hnot, fun h => absurd h hnot, fun _ => rfl,
      fun _ => ERC721.ownerOf_deployed t⟩

theorem World.Reachable.custodyInv {w : World σ} (h : w.Reachable) : CustodyInv w.nft := by
  refine h.invariant (P := fun w => CustodyInv w.nft) (fun _ _ => .deploy _) ?_
  intro w w' msg act events hstep hinv
  have hvalid : (⟨w, msg, act, w', events⟩ : Transition σ).Valid := Transition.valid_iff.2 hstep
  exact (Transition.custody hvalid hinv).1

/-- Asset custody: after any run a minted token is where its record says and the lock is down, every
    transition treats it as `TokenStep` says, and its transfer count is the number of its
    movements. -/
theorem World.run_custody (registryOwner assetOwner : Account) (txs : List Tx) (t : Nat) :
    let r := (World.deploy registryOwner assetOwner : World σ).run txs
    (r.1.nft.Minted t →
      r.1.nft.ownerOf t ≠ 0#160 ∧ r.1.nft.ownerOf t = (r.1.nft.assets t).assignedTo) ∧
    r.1.nft.orgControlledTransfer = false ∧
    (∀ tr ∈ r.2, TokenStep tr t) ∧
    (r.1.nft.assets t).transferCount = r.2.countP fun tr => tr.moves t := by
  intro r
  have hpath : World.Path _ r.2 r.1 := run_path (deploy registryOwner assetOwner : World σ) txs
  have hstep : ∀ tr ∈ r.2, (World.system σ).Valid tr →
      CustodyInv ((World.system σ).source tr).nft → CustodyInv ((World.system σ).target tr).nft :=
    fun tr _ hvalid hinv => (Transition.custody hvalid hinv).1
  obtain ⟨hend, hall⟩ := hpath.invariant (P := fun w => CustodyInv w.nft) hstep (.deploy assetOwner)
  have htoken : ∀ tr ∈ r.2, TokenStep tr t := fun tr htr =>
    (Transition.custody (hpath.valid tr htr) (hall tr htr).1).2 t
  refine ⟨fun hm => ⟨(hend.token t).held hm, ((hend.token t).assigned hm).symm⟩, hend.locked,
    htoken, ?_⟩
  have hcount := hpath.count (f := fun w => (w.nft.assets t).transferCount)
    (p := fun tr => tr.moves t) fun tr htr => (htoken tr htr).counted
  exact hcount.trans (Nat.zero_add _)

end OwneX
