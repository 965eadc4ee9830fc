import OwneX.Contracts.WellFormed

set_option autoImplicit false

/-! # Tenant isolation

All organizations live in the same three contracts and share the token counter and the ledger.
`SameTenant o` says that two deployments agree on everything that belongs to `o`, and
`World.Reachable.tenant_isolation` that a call about another organization keeps them so, whatever
the call is. What can be asked about `o` follows from its own part of the storage and from the
identity of the wallet asked about (`SameTenant.effectiveRole` and after it). -/

namespace OwneX

open Storage

variable {σ : Type} [ERC721 σ]

/-- Everything scoped to organization `o` is the same in both: its record, its tables in the access
    manager, its list of assets, and each of these tokens. -/
structure SameTenant (o : Nat) (w w' : World σ) : Prop where
  organization : w'.registry.organizations o = w.registry.organizations o
  organizationExists : w'.registry.organizationExists o = w.registry.organizationExists o
  access : SameAccess o w.access w'.access
  orgAssets : w'.nft.orgAssets o = w.nft.orgAssets o
  token : ∀ t ∈ w.nft.orgAssets o, SameToken t w.nft w'.nft

def World.verifyOwnership (w : World σ) (now : Nat) (tokenId : Nat) (claimant : Address) : Bool :=
  w.nft.verifyOwnership w.access w.registry now tokenId claimant

/-! ## Answers -/

namespace SameTenant

variable {o : Nat} {w w' : World σ}

theorem refl (w : World σ) : SameTenant o w w :=
  ⟨rfl, rfl, .refl _, rfl, fun _ _ => .refl _⟩

theorem trans {w'' : World σ} (h : SameTenant o w w') (h' : SameTenant o w' w'') :
    SameTenant o w w'' where
  organization := h'.organization.trans h.organization
  organizationExists := h'.organizationExists.trans h.organizationExists
  access := h.access.trans h'.access
  orgAssets := h'.orgAssets.trans h.orgAssets
  token := fun t ht => (h.token t ht).trans (h'.token t (h.orgAssets ▸ ht))

variable (h : SameTenant o w w')

include h

theorem isOrganizationActive :
    w'.registry.isOrganizationActive o = w.registry.isOrganizationActive o := by
  unfold IdentityRegistry.isOrganizationActive
  rw [h.organization, h.organizationExists]

variable {wallet : Address} (hidentity : w'.registry.isActive wallet = w.registry.isActive wallet)

include hidentity

theorem effectiveRole (now : Nat) : w'.effectiveRole now o wallet = w.effectiveRole now o wallet := by
  unfold World.effectiveRole OrgAccessManager.effectiveRole IdentityRegistry.orgRootAdmin
  rw [hidentity, h.organization, h.access.memberships]

theorem hasPermission (now : Nat) (permission : Bytes32) :
    w'.hasPermission now o wallet permission = w.hasPermission now o wallet permission := by
  have hrole := h.effectiveRole hidentity now
  unfold World.effectiveRole at hrole
  unfold World.hasPermission OrgAccessManager.hasPermission
  rw [h.isOrganizationActive, hrole, h.access.permissionOverride]

theorem canAccessApp (now : Nat) (appId : Bytes32) :
    w'.canAccessApp now o wallet appId = w.canAccessApp now o wallet appId := by
  have hrole := h.effectiveRole hidentity now
  unfold World.effectiveRole at hrole
  unfold World.canAccessApp OrgAccessManager.canAccessApp
  rw [h.isOrganizationActive, hrole, h.access.applicationRegistered, h.access.appRoleAccess]

theorem verifyOwnership (now : Nat) {t : Nat} (ht : t ∈ w.nft.orgAssets o)
    (horg : (w.nft.assets t).orgId = o) :
    w'.verifyOwnership now t wallet = w.verifyOwnership now t wallet := by
  have htoken := h.token t ht
  have hrole := h.effectiveRole hidentity now
  unfold World.effectiveRole at hrole
  unfold World.verifyOwnership AssetNFT.verifyOwnership
  simp only [htoken.asset, htoken.ownerOf, horg, hidentity, h.isOrganizationActive, hrole]

end SameTenant

/-! ## Calls about one organization -/

/-- The call is about organization `o`: a call of the registry on its record, any call of the access
    manager that names it, a mint into it or a call on a token of it. The recipient of a token, where
    there is one, does nothing. -/
def Call.About (w : World σ) (o : Nat) : Call → Prop
  | .registry c => c.orgId w.registry = some o
  | .access c => c.orgId = o
  | .asset c => ∃ tokenId, c.tokenId = some tokenId ∧ (w.nft.assets tokenId).orgId = o
  | .mintAsset orgId _ _ _ hook => orgId = o ∧ ∃ accepts, hook = .done accepts
  | .safeTransferFrom _ _ tokenId hook =>
      (w.nft.assets tokenId).orgId = o ∧ ∃ accepts, hook = .done accepts

section Calls

variable {w w' : World σ} {msg : Msg} {o o' : Nat}

/-- An asset call leaves the tokens of the organizations it is not about. -/
theorem AssetStep.sameTenant {c : AssetCall} {nft : AssetNFT σ} {events : List AssetEvent}
    (h : AssetStep w.nft w.access w.registry msg c nft events)
    (hlocked : w.nft.orgControlledTransfer = false) (hlists : AssetListsInv w.nft w.registry)
    (hother : ∀ t, c.tokenId = some t → (w.nft.assets t).orgId ≠ o) :
    SameTenant o w { w with nft } := by
  refine ⟨rfl, rfl, .refl _, congrFun h.lists_eq.1 o, fun t ht => h.sameToken hlocked ?_⟩
  exact fun heq => hother t heq ((hlists.listed o t).1 ht).2

/-- Neither half of a mint touches another organization's tokens. -/
theorem MintStep.sameTenant {orgId : Nat} {assignedTo : Address} {assetHash : Bytes32}
    {metadataURI : String} {nft : AssetNFT σ}
    (h : MintStep w.nft w.access w.registry msg orgId assignedTo assetHash metadataURI nft)
    (hlists : AssetListsInv w.nft w.registry) (ho : o ≠ orgId) : SameTenant o w { w with nft } := by
  obtain ⟨-, -, -, hassets⟩ := h.record
  refine ⟨rfl, rfl, .refl _, ?_, fun t ht => h.sameToken ?_⟩
  · show nft.orgAssets o = _
    rw [hassets, Function.update_of_ne ho]
  · exact Nat.ne_of_lt ((hlists.listed o t).1 ht).1.2

/-- One call about `o`, seen from `o'`. -/
theorem Call.sameTenant {c : Call} {ts : List (Transition σ)} (hcustody : CustodyInv w.nft)
    (hlists : AssetListsInv w.nft w.registry) (habout : c.About w o) (hne : o' ≠ o)
    (hexec : c.exec w msg = .ok (w', ts)) :
    SameTenant o' w w' ∧ w'.registry.identities = w.registry.identities := by
  cases c with
  | registry c =>
      rw [exec] at hexec
      obtain ⟨events, haction⟩ := Action.run_step hexec
      cases haction with
      | registry hstep =>
          have habout : c.orgId w.registry = some o := habout
          obtain ⟨horg, hexists⟩ := hstep.organization_eq (o := o') (by
            rw [habout]
            exact fun heq => hne (Option.some.inj heq).symm)
          have hidentities := hstep.identities_eq (by rw [habout]; exact Option.some_ne_none o)
          exact ⟨⟨horg, hexists, .refl _, rfl, fun _ _ => .refl _⟩, hidentities⟩
  | access c =>
      rw [exec] at hexec
      obtain ⟨events, haction⟩ := Action.run_step hexec
      cases haction with
      | access hstep =>
          have habout : c.orgId = o := habout
          exact ⟨⟨rfl, rfl, hstep.sameAccess (habout ▸ hne), rfl, fun _ _ => .refl _⟩, rfl⟩
  | asset c =>
      rw [exec] at hexec
      obtain ⟨events, haction⟩ := Action.run_step hexec
      obtain ⟨tokenId, htoken, horg⟩ := habout
      cases haction with
      | asset hstep =>
          refine ⟨hstep.sameTenant hcustody.locked hlists fun t ht => ?_, rfl⟩
          rw [← Option.some.inj (htoken.symm.trans ht), horg]
          exact hne.symm
  | mintAsset orgId assignedTo assetHash metadataURI hook =>
      obtain ⟨rfl, accepts, rfl⟩ := habout
      simp only [exec, Hook.run, bind_eq_ok, Prod.exists, pure_eq_ok, Prod.mk.injEq] at hexec
      obtain ⟨w₁, begun, hbegin, -, -, w₂, ended, hend, rfl, -⟩ := hexec
      obtain ⟨events₁, hbegin⟩ := Action.run_step hbegin
      obtain ⟨events₂, hend⟩ := Action.run_step hend
      cases hbegin with
      | mintBegin hstep =>
          have hminted := hstep.sameTenant hlists hne
          cases hend with
          | mintEnd =>
              refine ⟨hminted.trans ⟨rfl, rfl, .refl _, rfl, fun t ht => ?_⟩, rfl⟩
              -- The tokens of `o'` were minted before, so the URI is another token's.
              rw [hminted.orgAssets] at ht
              exact sameToken_setTokenURI (Nat.ne_of_lt ((hlists.listed o' t).1 ht).1.2) _
  | safeTransferFrom from_ to_ tokenId hook =>
      simp only [exec, bind_eq_ok, Prod.exists] at hexec
      obtain ⟨w₁, moved, hmove, -⟩ := hexec
      obtain ⟨events, haction⟩ := Action.run_step hmove
      cases haction with
      | asset hstep =>
          cases hstep with
          | transferFrom _ hunlocked =>
              rw [hcustody.locked] at hunlocked
              cases hunlocked

end Calls

/-- A successful call about one organization leaves every other one as it was, and with it every
    answer about it. -/
theorem World.Reachable.tenant_isolation {w w' : World σ} (h : w.Reachable) {o o' : Nat}
    (hne : o' ≠ o) {c : Call} (habout : c.About w o) {msg : Msg} {ts : List (Transition σ)}
    (hexec : c.exec w msg = .ok (w', ts)) :
    SameTenant o' w w' ∧
      (∀ now wallet, w'.effectiveRole now o' wallet = w.effectiveRole now o' wallet) ∧
      (∀ now wallet permission,
        w'.hasPermission now o' wallet permission = w.hasPermission now o' wallet permission) ∧
      (∀ now wallet appId,
        w'.canAccessApp now o' wallet appId = w.canAccessApp now o' wallet appId) ∧
      ∀ now, ∀ t ∈ w.nft.orgAssets o', ∀ claimant,
        w'.verifyOwnership now t claimant = w.verifyOwnership now t claimant := by
  have hlists := h.assetListsInv
  obtain ⟨hsame, hidentities⟩ := Call.sameTenant h.custodyInv hlists habout hne hexec
  have hidentity : ∀ wallet, w'.registry.isActive wallet = w.registry.isActive wallet := by
    intro wallet
    unfold IdentityRegistry.isActive
    rw [hidentities]
  refine ⟨hsame, fun now wallet => hsame.effectiveRole (hidentity wallet) now,
    fun now wallet => hsame.hasPermission (hidentity wallet) now,
    fun now wallet => hsame.canAccessApp (hidentity wallet) now, fun now t ht claimant => ?_⟩
  exact hsame.verifyOwnership (hidentity claimant) now ht ((hlists.listed o' t).1 ht).2

/-! ## Two organizations -/

/-- Bob founds organization 2 and mints an asset there. -/
def Sample.twoTenants : World Ledger :=
  Sample.after [
    Sample.tx Sample.bob 105 (.registry (.createOrganization 6)),
    Sample.tx Sample.bob 106 (.mintAsset 2 Sample.bob 12 "ipfs://phone" (.done true))]

/-- Alice mints into organization 1, and organization 2 sees nothing of it. -/
theorem Sample.twoTenants_isolated :
    ∃ (w' : World Ledger) (ts : List (Transition Ledger)),
      (Call.mintAsset 1 Sample.carol 13 "ipfs://desk" (.done true)).exec Sample.twoTenants
        ⟨Sample.alice, 107⟩ = .ok (w', ts) ∧
      SameTenant 2 Sample.twoTenants w' ∧
      (∀ now wallet, w'.effectiveRole now 2 wallet = Sample.twoTenants.effectiveRole now 2 wallet) ∧
      (∀ now wallet permission, w'.hasPermission now 2 wallet permission =
        Sample.twoTenants.hasPermission now 2 wallet permission) ∧
      (∀ now wallet appId, w'.canAccessApp now 2 wallet appId =
        Sample.twoTenants.canAccessApp now 2 wallet appId) ∧
      ∀ now, ∀ t ∈ Sample.twoTenants.nft.orgAssets 2, ∀ claimant,
        w'.verifyOwnership now t claimant = Sample.twoTenants.verifyOwnership now t claimant := by
  have hreach : Sample.twoTenants.Reachable := Sample.after_reachable _
  have hok : ((Call.mintAsset 1 Sample.carol 13 "ipfs://desk" (.done true)).exec Sample.twoTenants
      ⟨Sample.alice, 107⟩).toOption.isSome = true := by decide +kernel
  cases hexec : (Call.mintAsset 1 Sample.carol 13 "ipfs://desk" (.done true)).exec
      Sample.twoTenants ⟨Sample.alice, 107⟩ with
  | error e =>
      rw [hexec] at hok
      cases hok
  | ok result =>
      obtain ⟨w', ts⟩ := result
      have habout : (Call.mintAsset 1 Sample.carol 13 "ipfs://desk" (.done true)).About
          Sample.twoTenants 1 := ⟨rfl, true, rfl⟩
      have hne : (2 : Nat) ≠ 1 := by decide
      exact ⟨w', ts, rfl, World.Reachable.tenant_isolation hreach hne habout hexec⟩

end OwneX
