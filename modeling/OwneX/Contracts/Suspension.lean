import OwneX.Contracts.Nesting
import OwneX.Contracts.Tenants

set_option autoImplicit false

/-! # A suspended organization

Suspension is one flag in the registry, and three different checks ask for it: the access manager
requires an active organization, the asset contract asks `hasPermission`, which answers no, and the
views look at the flag again. `effectiveRole` does not, so members of a suspended organization keep
their roles, but no writer is satisfied with a role alone. Until somebody sets the flag again the
organization's part of the storage stands still and nobody is let in. -/

namespace OwneX

open Storage

variable {σ : Type} [ERC721 σ]

/-- `o` exists and is inactive. -/
structure IdentityRegistry.Suspended (r : IdentityRegistry) (o : Nat) : Prop where
  organizationExists : r.organizationExists o = true
  inactive : (r.organizations o).active = false

/-- The tables of `o` in the access manager, its list of assets and these tokens are the same. -/
structure Frozen (o : Nat) (w w' : World σ) : Prop where
  access : SameAccess o w.access w'.access
  orgAssets : w'.nft.orgAssets o = w.nft.orgAssets o
  token : ∀ t ∈ w.nft.orgAssets o, SameToken t w.nft w'.nft

/-- Nobody has a permission, access to an application or a verified asset in `o`. -/
structure World.Denies (w : World σ) (o : Nat) : Prop where
  permission : ∀ now wallet permission, w.hasPermission now o wallet permission = false
  app : ∀ now wallet appId, w.canAccessApp now o wallet appId = false
  ownership : ∀ now tokenId claimant, (w.nft.assets tokenId).orgId = o →
    w.verifyOwnership now tokenId claimant = false

section Registry

variable {r r' : IdentityRegistry} {msg : Msg} {c : RegistryCall} {events : List RegistryEvent}
  {o : Nat}

theorem IdentityRegistry.Suspended.isOrganizationActive (h : r.Suspended o) :
    r.isOrganizationActive o = false := by
  unfold IdentityRegistry.isOrganizationActive
  rw [h.inactive, Bool.and_false]

/-- Only `setOrganizationActive` resumes an organization. -/
theorem RegistryStep.suspended (hstep : RegistryStep r msg c r' events) (h : r.Suspended o)
    (hresume : c ≠ .setOrganizationActive o true) : r'.Suspended o := by
  have hexists := hstep.organizationExists_mono h.organizationExists
  by_cases ho : c.orgId r = some o
  · have hset : ∀ {org : Organization}, org.active = false →
        ((r.setOrganization o org).organizations o).active = false := fun hactive => by
      rw [IdentityRegistry.organizations_setOrganization, if_pos rfl]
      exact hactive
    refine ⟨hexists, ?_⟩
    cases hstep with
    | createOrganization =>
        -- The next id is past the count, and `o` is not.
        have hcount := (IdentityRegistry.organizationExists_iff.1 h.organizationExists).2
        have hnext : r.organizationCount + 1 = o := Option.some.inj ho
        omega
    | updateOrganizationMetadata =>
        obtain rfl := Option.some.inj ho
        exact hset h.inactive
    | @setOrganizationActive orgId active =>
        obtain rfl := Option.some.inj ho
        refine hset ?_
        cases active with
        | true => exact absurd rfl hresume
        | false => rfl
    | transferOrgRootAdmin =>
        obtain rfl := Option.some.inj ho
        exact hset h.inactive
    | _ => cases ho
  · refine ⟨hexists, ?_⟩
    rw [(hstep.organization_eq ho).1]
    exact h.inactive

end Registry

section Worlds

variable {w w' : World σ} {msg : Msg} {act : Action} {events : List Event} {o : Nat}

theorem World.denies_of_suspended (h : w.registry.Suspended o) : w.Denies o where
  permission := fun now wallet permission => by
    simp [hasPermission, OrgAccessManager.hasPermission, h.isOrganizationActive]
  app := fun now wallet appId => by
    simp [canAccessApp, OrgAccessManager.canAccessApp, h.isOrganizationActive]
  ownership := fun now tokenId claimant horg => by
    simp [verifyOwnership, AssetNFT.verifyOwnership, horg, h.isOrganizationActive]

omit [ERC721 σ] in
/-- A permission over a token is a permission in its organization. -/
theorem AssetAuthorized.not_suspended {n : AssetNFT σ} {ac : OrgAccessManager}
    {ir : IdentityRegistry} {tokenId : Nat} {permission : Bytes32}
    (h : AssetAuthorized n ac ir msg tokenId permission) :
    ¬ ir.Suspended (n.assets tokenId).orgId := by
  intro hsuspended
  have hactive := OrgAccessManager.organization_of_permission h.permitted
  rw [hsuspended.isOrganizationActive] at hactive
  cases hactive

theorem Frozen.refl (w : World σ) : Frozen o w w :=
  ⟨.refl _, rfl, fun _ _ => .refl _⟩

theorem Frozen.trans {w'' : World σ} (h : Frozen o w w') (h' : Frozen o w' w'') :
    Frozen o w w'' where
  access := h.access.trans h'.access
  orgAssets := h'.orgAssets.trans h.orgAssets
  token := fun t ht => (h.token t ht).trans (h'.token t (h.orgAssets ▸ ht))

theorem SameTenant.frozen (h : SameTenant o w w') : Frozen o w w' :=
  ⟨h.access, h.orgAssets, h.token⟩

/-- One action while `o` is suspended, other than the end of a mint of one of its own tokens. -/
theorem ActionStep.frozen (hstep : ActionStep w msg act w' events) (hcustody : CustodyInv w.nft)
    (hlists : AssetListsInv w.nft w.registry) (h : w.registry.Suspended o)
    (hminted : ∀ t, act.minted = some t → t ∉ w.nft.orgAssets o) : Frozen o w w' := by
  have hother : ∀ orgId, w.registry.isOrganizationActive orgId = true → o ≠ orgId := by
    rintro orgId hactive rfl
    rw [h.isOrganizationActive] at hactive
    cases hactive
  cases hstep with
  | registry => exact ⟨.refl _, rfl, fun _ _ => .refl _⟩
  | access hstep =>
      exact ⟨hstep.sameAccess (hother _ hstep.organization), rfl, fun _ _ => .refl _⟩
  | asset hstep =>
      refine ⟨.refl _, congrFun hstep.lists_eq.1 o, fun t ht => ?_⟩
      rcases hstep.sameToken_or_authorized hcustody.locked t with hsame | ⟨_, hauth⟩
      · exact hsame
      · have horg := ((hlists.listed o t).1 ht).2
        exact absurd (horg ▸ h) hauth.not_suspended
  | mintBegin hstep => exact (hstep.sameTenant hlists (hother _ hstep.record.1)).frozen
  | @mintEnd tokenId =>
      refine ⟨.refl _, rfl, fun t ht => sameToken_setTokenURI ?_ _⟩
      rintro rfl
      exact hminted t rfl ht

/-- A mint into `o` does not begin while `o` is suspended. -/
theorem ActionStep.no_mint (hstep : ActionStep w msg act w' events) (h : w.registry.Suspended o)
    (assignedTo : Address) (assetHash : Bytes32) (metadataURI : String) :
    act ≠ .mintBegin o assignedTo assetHash metadataURI := by
  rintro rfl
  cases hstep with
  | mintBegin hstep =>
      have hactive := hstep.record.1
      rw [h.isOrganizationActive] at hactive
      cases hactive

/-- What is carried along the run. -/
structure Suspension (o : Nat) (w w' : World σ) : Prop where
  suspended : w'.registry.Suspended o
  frozen : Frozen o w w'
  custody : CustodyInv w'.nft
  lists : AssetListsInv w'.nft w'.registry

/-- From any reachable state in which `o` is suspended, and until `setOrganizationActive(o, true)`
    is executed, nothing of `o` changes, nothing is minted into it and nobody is let in. -/
theorem World.Reachable.suspension (h : w.Reachable) (hsuspended : w.registry.Suspended o)
    (txs : List Tx)
    (hresume : ∀ tr ∈ (w.run txs).2, tr.action ≠ .registry (.setOrganizationActive o true)) :
    Frozen o w (w.run txs).1 ∧ (w.run txs).1.Denies o ∧ w.Denies o ∧
      ∀ tr ∈ (w.run txs).2,
        Frozen o w tr.before ∧ tr.before.Denies o ∧ Frozen o w tr.after ∧ tr.after.Denies o ∧
        ∀ assignedTo assetHash metadataURI,
          tr.action ≠ .mintBegin o assignedTo assetHash metadataURI := by
  have hstart : Suspension o w w := ⟨hsuspended, .refl w, h.custodyInv, h.assetListsInv⟩
  have hpath := run_path w txs
  have hfresh := (w.run_nested txs).minted_fresh
  obtain ⟨hend, hall⟩ := hpath.invariant (P := Suspension o w) (fun tr htr hvalid hs => by
    have haction : ActionStep tr.before tr.msg tr.action tr.after tr.events :=
      Transition.valid_iff.1 hvalid
    have hs : Suspension o w tr.before := hs
    have hminted : ∀ t, tr.action.minted = some t → t ∉ tr.before.nft.orgAssets o := by
      intro t ht hmem
      -- The tokens of `o` are those it had at the start, and these are older than any mint here.
      rw [hs.frozen.orgAssets] at hmem
      have hold := ((h.assetListsInv.listed o t).1 hmem).1.2
      have hnew := (hfresh tr htr t ht).1
      omega
    refine ⟨?_, hs.frozen.trans (haction.frozen hs.custody hs.lists hs.suspended hminted),
      (Transition.custody hvalid hs.custody).1, haction.assetListsInv hs.custody hs.lists⟩
    rcases haction.registry_eq with ⟨c, es, hact, hstep⟩ | hsame
    · refine hstep.suspended hs.suspended fun hc => hresume tr htr ?_
      rw [hact, hc]
    · show tr.after.registry.Suspended o
      rw [hsame]
      exact hs.suspended) hstart
  refine ⟨hend.frozen, denies_of_suspended hend.suspended, denies_of_suspended hsuspended,
    fun tr htr => ?_⟩
  obtain ⟨hbefore, hafter⟩ := hall tr htr
  exact ⟨hbefore.frozen, denies_of_suspended hbefore.suspended, hafter.frozen,
    denies_of_suspended hafter.suspended,
    (Transition.valid_iff.1 (hpath.valid tr htr)).no_mint hbefore.suspended⟩

end Worlds

/-! ## Organization 1, suspended -/

def Sample.suspended : World Ledger :=
  Sample.after [Sample.tx Sample.alice 105 (.registry (.setOrganizationActive 1 false))]

/-- What is tried while organization 1 is suspended. Only the two calls of the registry succeed. -/
def Sample.attempts : List Tx := [
  Sample.tx Sample.alice 106 (.access (.removeMember 1 Sample.bob)),
  Sample.tx Sample.alice 107 (.asset (.revokeAsset 1)),
  Sample.tx Sample.alice 108 (.mintAsset 1 Sample.bob 12 "ipfs://phone" (.done true)),
  Sample.tx Sample.alice 109 (.registry (.updateOrganizationMetadata 1 6)),
  Sample.tx Sample.alice 110 (.registry (.transferOrgRootAdmin 1 Sample.carol))]

theorem Sample.attempts_fail :
    Frozen 1 Sample.suspended (Sample.suspended.run Sample.attempts).1 ∧
      (Sample.suspended.run Sample.attempts).1.Denies 1 ∧ Sample.suspended.Denies 1 ∧
      ∀ tr ∈ (Sample.suspended.run Sample.attempts).2,
        Frozen 1 Sample.suspended tr.before ∧ tr.before.Denies 1 ∧
        Frozen 1 Sample.suspended tr.after ∧ tr.after.Denies 1 ∧
        ∀ assignedTo assetHash metadataURI,
          tr.action ≠ .mintBegin 1 assignedTo assetHash metadataURI := by
  have hreach : Sample.suspended.Reachable := Sample.after_reachable _
  have hactions : ∀ act ∈ ((Sample.suspended.run Sample.attempts).2.map Transition.action),
      act ≠ .registry (.setOrganizationActive 1 true) := by decide +kernel
  have hexists : Sample.suspended.registry.organizationExists 1 = true := by decide +kernel
  have hinactive : (Sample.suspended.registry.organizations 1).active = false := by decide +kernel
  exact World.Reachable.suspension hreach ⟨hexists, hinactive⟩ Sample.attempts fun tr htr =>
    hactions tr.action (List.mem_map_of_mem htr)

end OwneX
