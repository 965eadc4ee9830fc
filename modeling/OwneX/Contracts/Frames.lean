import OwneX.Contracts.Custody

set_option autoImplicit false

/-! # What a step leaves alone

All organizations share three contracts, and every function of theirs is about one identity, one
organization or one token. The frames here say so, contract by contract: a call of the registry
writes at most one organization, a call of the access manager writes the tables of the one it
names, a call of the asset contract touches at most one token, and a mint only the next one and the
list of its organization. -/

namespace OwneX

open Storage

/-! ## The registry -/

section Registry

variable {r r' : IdentityRegistry} {msg : Msg} {c : RegistryCall} {events : List RegistryEvent}

/-- The organization a call of the registry writes: for `createOrganization` the next one. -/
def RegistryCall.orgId (r : IdentityRegistry) : RegistryCall → Option Nat
  | .createOrganization _ => some (r.organizationCount + 1)
  | .updateOrganizationMetadata orgId _ => some orgId
  | .setOrganizationActive orgId _ => some orgId
  | .transferOrgRootAdmin orgId _ => some orgId
  | _ => none

theorem IdentityRegistry.organizationExists_iff {o : Nat} :
    r.organizationExists o = true ↔ 1 ≤ o ∧ o ≤ r.organizationCount := by
  simp [organizationExists, Nat.one_le_iff_ne_zero]

theorem IdentityRegistry.organizations_setOrganization {o : Nat} (orgId : Nat)
    (org : Organization) :
    (r.setOrganization orgId org).organizations o =
      if o = orgId then org else r.organizations o :=
  Function.update_apply ..

/-- The other organizations keep their records. -/
theorem RegistryStep.organization_eq (h : RegistryStep r msg c r' events) {o : Nat}
    (ho : c.orgId r ≠ some o) :
    r'.organizations o = r.organizations o ∧
      r'.organizationExists o = r.organizationExists o := by
  have hset : ∀ {orgId : Nat} {org : Organization}, some orgId ≠ some o →
      (r.setOrganization orgId org).organizations o = r.organizations o := fun hne =>
    Function.update_of_ne (fun heq => hne (congrArg some heq.symm)) _ _
  cases h with
  | @createOrganization metadataHash orgId _ _ _ hnext =>
      have hsucc := checkedSucc_eq_some hnext
      simp only [RegistryCall.orgId, ne_eq, Option.some.injEq] at ho
      refine ⟨hset (by simpa [hsucc] using ho), ?_⟩
      simp only [IdentityRegistry.organizationExists, hsucc]
      congr 1
      exact decide_eq_decide.2 (by omega)
  | updateOrganizationMetadata => exact ⟨hset ho, rfl⟩
  | setOrganizationActive => exact ⟨hset ho, rfl⟩
  | transferOrgRootAdmin => exact ⟨hset ho, rfl⟩
  | _ => exact ⟨rfl, rfl⟩

/-- A call about an organization leaves the identities. -/
theorem RegistryStep.identities_eq (h : RegistryStep r msg c r' events) (ho : c.orgId r ≠ none) :
    r'.identities = r.identities := by
  cases h with
  | createOrganization => rfl
  | updateOrganizationMetadata => rfl
  | setOrganizationActive => rfl
  | transferOrgRootAdmin => rfl
  | _ => exact absurd rfl ho

/-- No organization goes away. -/
theorem RegistryStep.organizationExists_mono (h : RegistryStep r msg c r' events) {o : Nat}
    (ho : r.organizationExists o = true) : r'.organizationExists o = true := by
  cases h with
  | createOrganization _ _ _ hnext =>
      have hsucc := checkedSucc_eq_some hnext
      rw [IdentityRegistry.organizationExists_iff] at ho ⊢
      exact ⟨ho.1, by simp only [hsucc]; omega⟩
  | _ => exact ho

end Registry

/-! ## The access manager -/

/-- The tables of organization `o` are the same in both. -/
structure SameAccess (o : Nat) (a a' : OrgAccessManager) : Prop where
  memberships : a'.memberships o = a.memberships o
  memberList : a'.memberList o = a.memberList o
  memberIndex : a'.memberIndex o = a.memberIndex o
  permissionOverride : a'.permissionOverride o = a.permissionOverride o
  applicationMetadata : a'.applicationMetadata o = a.applicationMetadata o
  applicationRegistered : a'.applicationRegistered o = a.applicationRegistered o
  appRoleAccess : a'.appRoleAccess o = a.appRoleAccess o

section Access

variable {a a' a'' : OrgAccessManager} {ir : IdentityRegistry} {msg : Msg} {c : AccessCall}
  {events : List AccessEvent} {o : Nat}

theorem SameAccess.refl (a : OrgAccessManager) : SameAccess o a a :=
  ⟨rfl, rfl, rfl, rfl, rfl, rfl, rfl⟩

theorem SameAccess.trans (h : SameAccess o a a') (h' : SameAccess o a' a'') :
    SameAccess o a a'' where
  memberships := h'.memberships.trans h.memberships
  memberList := h'.memberList.trans h.memberList
  memberIndex := h'.memberIndex.trans h.memberIndex
  permissionOverride := h'.permissionOverride.trans h.permissionOverride
  applicationMetadata := h'.applicationMetadata.trans h.applicationMetadata
  applicationRegistered := h'.applicationRegistered.trans h.applicationRegistered
  appRoleAccess := h'.appRoleAccess.trans h.appRoleAccess

/-- A write under one key of the outer mapping leaves the others. -/
theorem set₂_outer {α β δ : Type} [DecidableEq α] [DecidableEq β] {m : α → β → δ} {x y : α}
    (h : y ≠ x) (b : β) (v : δ) : set₂ m x b v y = m y :=
  Function.update_of_ne h _ _

theorem set₃_outer {α β γ δ : Type} [DecidableEq α] [DecidableEq β] [DecidableEq γ]
    {m : α → β → γ → δ} {x y : α} (h : y ≠ x) (b : β) (c : γ) (v : δ) :
    set₃ m x b c v y = m y :=
  Function.update_of_ne h _ _

/-- The other organizations keep their tables. -/
theorem AccessStep.sameAccess (h : AccessStep a ir msg c a' events) (ho : o ≠ c.orgId) :
    SameAccess o a a' := by
  cases h with
  | addMember =>
      exact ⟨set₂_outer ho _ _, Function.update_of_ne ho _ _, set₂_outer ho _ _, rfl, rfl, rfl, rfl⟩
  | assignRole => exact ⟨set₂_outer ho _ _, rfl, rfl, rfl, rfl, rfl, rfl⟩
  | setRoleExpiry => exact ⟨set₂_outer ho _ _, rfl, rfl, rfl, rfl, rfl, rfl⟩
  | removeMember =>
      exact ⟨set₂_outer ho _ _, Function.update_of_ne ho _ _,
        (set₂_outer ho _ _).trans (set₂_outer ho _ _), rfl, rfl, rfl, rfl⟩
  | setPermission => exact ⟨rfl, rfl, rfl, set₃_outer ho _ _ _, rfl, rfl, rfl⟩
  | registerApplication =>
      exact ⟨rfl, rfl, rfl, rfl, set₂_outer ho _ _, set₂_outer ho _ _, rfl⟩
  | setAppAccess => exact ⟨rfl, rfl, rfl, rfl, rfl, rfl, set₃_outer ho _ _ _⟩

/-- The organization a successful call is about is active. -/
theorem AccessStep.organization (h : AccessStep a ir msg c a' events) :
    ir.isOrganizationActive c.orgId = true := by
  cases h with
  | addMember hcaller => exact hcaller.organization
  | assignRole hcaller => exact hcaller.organization
  | setRoleExpiry hcaller => exact hcaller.organization
  | removeMember hcaller => exact hcaller.organization
  | setPermission horg => exact horg
  | registerApplication hcaller => exact hcaller.organization
  | setAppAccess hcaller => exact hcaller.organization

/-- A permission is granted in an active organization only. -/
theorem OrgAccessManager.organization_of_permission {now : Nat} {wallet : Address}
    {permission : Bytes32} (h : a.hasPermission ir now o wallet permission = true) :
    ir.isOrganizationActive o = true := by
  unfold hasPermission at h
  split at h
  · cases h
  · next hactive => simpa using hactive

end Access

/-! ## The asset contract -/

section Assets

variable {σ : Type} [ERC721 σ] {n n' n'' : AssetNFT σ} {ac : OrgAccessManager}
  {ir : IdentityRegistry} {msg : Msg} {c : AssetCall} {events : List AssetEvent} {t : Nat}

/-- The token's record, holder and URI are the same in both. -/
structure SameToken (t : Nat) (n n' : AssetNFT σ) : Prop where
  asset : n'.assets t = n.assets t
  ownerOf : n'.ownerOf t = n.ownerOf t
  tokenURI : n'.tokenURI t = n.tokenURI t

theorem SameToken.refl (n : AssetNFT σ) : SameToken t n n :=
  ⟨rfl, rfl, rfl⟩

theorem SameToken.trans (h : SameToken t n n') (h' : SameToken t n' n'') : SameToken t n n'' :=
  ⟨h'.asset.trans h.asset, h'.ownerOf.trans h.ownerOf, h'.tokenURI.trans h.tokenURI⟩

/-- The token a call of the asset contract is about. -/
def AssetCall.tokenId : AssetCall → Option Nat
  | .reassignAsset tokenId _ => some tokenId
  | .revokeAsset tokenId => some tokenId
  | .restoreAsset tokenId _ => some tokenId
  | .updateAssetRecord tokenId _ _ => some tokenId
  | .approve _ tokenId => some tokenId
  | .transferFrom _ _ tokenId => some tokenId
  | _ => none

/-- A flagged movement of another token. -/
theorem Moved.sameToken {to_ : Address} {tokenId : Nat} {ledger : σ} {asset : Asset}
    (h : Moved n to_ tokenId ledger) (ht : t ≠ tokenId) :
    SameToken t n { n.setAsset tokenId asset with ledger, orgControlledTransfer := false } where
  asset := Function.update_of_ne ht _ _
  ownerOf := (congrFun (ownerOf_moved asset h) t).trans (Function.update_of_ne ht _ _)
  tokenURI := congrFun (ERC721.tokenURI_update h.update) t

theorem sameToken_setTokenURI {tokenId : Nat} (ht : t ≠ tokenId) (uri : String) :
    SameToken t n { n with ledger := ERC721.setTokenURI n.ledger tokenId uri } where
  asset := rfl
  ownerOf := congrFun (ERC721.ownerOf_setTokenURI n.ledger tokenId uri) t
  tokenURI := (congrFun (ERC721.tokenURI_setTokenURI n.ledger tokenId uri) t).trans
    (Function.update_of_ne ht _ _)

/-- The other tokens keep their records, holders and URIs. -/
theorem AssetStep.sameToken (h : AssetStep n ac ir msg c n' events)
    (hlocked : n.orgControlledTransfer = false) (ht : c.tokenId ≠ some t) : SameToken t n n' := by
  have hne : ∀ {tokenId : Nat}, some tokenId ≠ some t → t ≠ tokenId := fun h heq =>
    h (congrArg some heq.symm)
  cases h with
  | reassignAsset _ _ _ _ _ hmoved => exact hmoved.sameToken (hne ht)
  | revokeHeld => exact ⟨Function.update_of_ne (hne ht) _ _, rfl, rfl⟩
  | revokeMoved _ _ _ _ hmoved => exact hmoved.sameToken (hne ht)
  | restoreHeld => exact ⟨Function.update_of_ne (hne ht) _ _, rfl, rfl⟩
  | restoreMoved _ _ _ _ _ hmoved => exact hmoved.sameToken (hne ht)
  | updateAssetRecord =>
      have huri := sameToken_setTokenURI (n := n) (hne ht)
      exact ⟨Function.update_of_ne (hne ht) _ _, (huri _).ownerOf, (huri _).tokenURI⟩
  | approve happ =>
      exact ⟨rfl, congrFun (ERC721.ownerOf_approve happ) t,
        congrFun (ERC721.tokenURI_approve happ) t⟩
  | setApprovalForAll hset =>
      exact ⟨rfl, congrFun (ERC721.ownerOf_setApprovalForAll hset) t,
        congrFun (ERC721.tokenURI_setApprovalForAll hset) t⟩
  | transferFrom _ hunlocked =>
      rw [hunlocked] at hlocked
      cases hlocked
  | _ => exact ⟨rfl, rfl, rfl⟩

/-- A call that changes anything about a token is by somebody with a permission over it. -/
theorem AssetStep.sameToken_or_authorized (h : AssetStep n ac ir msg c n' events)
    (hlocked : n.orgControlledTransfer = false) (t : Nat) :
    SameToken t n n' ∨ ∃ permission, AssetAuthorized n ac ir msg t permission := by
  by_cases ht : c.tokenId = some t
  · cases h with
    | reassignAsset hcaller => exact .inr ⟨_, Option.some.inj ht ▸ hcaller⟩
    | revokeHeld hcaller => exact .inr ⟨_, Option.some.inj ht ▸ hcaller⟩
    | revokeMoved hcaller => exact .inr ⟨_, Option.some.inj ht ▸ hcaller⟩
    | restoreHeld hcaller => exact .inr ⟨_, Option.some.inj ht ▸ hcaller⟩
    | restoreMoved hcaller => exact .inr ⟨_, Option.some.inj ht ▸ hcaller⟩
    | updateAssetRecord hcaller => exact .inr ⟨_, Option.some.inj ht ▸ hcaller⟩
    | approve happ =>
        exact .inl ⟨rfl, congrFun (ERC721.ownerOf_approve happ) t,
          congrFun (ERC721.tokenURI_approve happ) t⟩
    | transferFrom _ hunlocked =>
        rw [hunlocked] at hlocked
        cases hlocked
    | _ => cases ht
  · exact .inl (h.sameToken hlocked ht)

/-- Only a mint writes the lists of the organizations and the counter. -/
theorem AssetStep.lists_eq (h : AssetStep n ac ir msg c n' events) :
    n'.orgAssets = n.orgAssets ∧ n'.nextTokenId = n.nextTokenId := by
  cases h <;> exact ⟨rfl, rfl⟩

/-- A mint leaves every token but the next one. -/
theorem MintStep.sameToken {orgId : Nat} {assignedTo : Address} {assetHash : Bytes32}
    {metadataURI : String} (h : MintStep n ac ir msg orgId assignedTo assetHash metadataURI n')
    (ht : t ≠ n.nextTokenId) : SameToken t n n' := by
  cases h with
  | mint _ _ _ _ _ _ _ _ hup =>
      exact ⟨Function.update_of_ne ht _ _,
        (congrFun (ERC721.ownerOf_update hup) t).trans (Function.update_of_ne ht _ _),
        congrFun (ERC721.tokenURI_update hup) t⟩

/-- What a mint writes besides the token itself. -/
theorem MintStep.record {orgId : Nat} {assignedTo : Address} {assetHash : Bytes32}
    {metadataURI : String} (h : MintStep n ac ir msg orgId assignedTo assetHash metadataURI n') :
    ir.isOrganizationActive orgId = true ∧ n'.nextTokenId = n.nextTokenId + 1 ∧
      n'.assets n.nextTokenId =
        { orgId, assetHash, assignedTo, active := true, mintedAt := uint64 msg.timestamp } ∧
      n'.orgAssets =
        Function.update n.orgAssets orgId (n.orgAssets orgId ++ [n.nextTokenId]) := by
  cases h with
  | mint _ hperm _ _ _ _ hnext =>
      exact ⟨OrgAccessManager.organization_of_permission hperm, checkedSucc_eq_some hnext,
        Function.update_self .., rfl⟩

end Assets

end OwneX
