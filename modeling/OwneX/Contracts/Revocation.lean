import OwneX.Contracts.KillSwitch

set_option autoImplicit false

/-! # The revocation cascade

A revoked wallet keeps its identity, its memberships, its seats and its assets, and none of them is
of any use to it: every view of the three contracts that speaks about a wallet asks the registry
first (`World.ShutOut`), and so does every function that would give it something new (`Call.Gives`).
It stays that way from the revocation until a registrar reactivates the identity, which restores the
storage to what it was. -/

namespace OwneX

open Storage

variable {σ : Type} [ERC721 σ]

/-- Every access answer about `wallet` is no. -/
structure World.ShutOut (w : World σ) (wallet : Address) : Prop where
  role : ∀ now o, w.effectiveRole now o wallet = ROLE_NONE
  member : ∀ now o, w.access.isMember w.registry now o wallet = false
  permission : ∀ now o permission, w.hasPermission now o wallet permission = false
  app : ∀ now o appId, w.canAccessApp now o wallet appId = false
  asset : ∀ now tokenId, w.nft.verifyOwnership w.access w.registry now tokenId wallet = false

/-- The call would register `wallet`, give it a membership, a role, a seat or an asset. -/
def Call.Gives (wallet : Address) (msg : Msg) : Call → Prop
  | .registry (.registerIdentity _) => msg.sender = wallet
  | .registry (.registerIdentityFor v _) => v = wallet
  | .registry (.createOrganization _) => msg.sender = wallet
  | .registry (.transferOrgRootAdmin _ newAdmin) => newAdmin = wallet
  | .access (.addMember _ v _ _) => v = wallet
  | .access (.assignRole _ v _ _) => v = wallet
  | .asset (.reassignAsset _ newHolder) => newHolder = wallet
  | .asset (.restoreAsset _ assignedTo) => assignedTo = wallet
  | .mintAsset _ assignedTo _ _ _ => assignedTo = wallet
  | _ => False

/-- A registered identity that has been revoked. -/
def IdentityRegistry.Revoked (r : IdentityRegistry) (wallet : Address) : Prop :=
  (r.identities wallet).exists_ = true ∧ (r.identities wallet).active = false

theorem IdentityRegistry.Revoked.inactive {r : IdentityRegistry} {wallet : Address}
    (h : r.Revoked wallet) : r.isActive wallet = false := by
  rw [isActive, h.2, Bool.and_false]

/-! ## In one state -/

section State

variable {w : World σ} {wallet : Address}

theorem World.shutOut_of_inactive (h : w.registry.isActive wallet = false) : w.ShutOut wallet := by
  have hrole : ∀ now o, w.access.effectiveRole w.registry now o wallet = ROLE_NONE :=
    fun now o => OrgAccessManager.effectiveRole_inactive h w.access now o
  refine ⟨hrole, fun now o => ?_, fun now o permission => ?_, fun now o appId => ?_,
    fun now tokenId => ?_⟩
  · rw [OrgAccessManager.isMember, hrole]
    decide
  · exact OrgAccessManager.hasPermission_inactive h w.access now o permission
  · simp [World.canAccessApp, OrgAccessManager.canAccessApp, hrole]
  · simp [AssetNFT.verifyOwnership, h]

/-- No call gives a revoked wallet anything. -/
theorem Call.not_gives (h : w.registry.Revoked wallet) {msg : Msg} {c : Call} {w' : World σ}
    {ts : List (Transition σ)} (hexec : c.exec w msg = .ok (w', ts)) : ¬ c.Gives wallet msg := by
  intro hgives
  have hinactive := h.inactive
  have hnone : ∀ now o, w.access.effectiveRole w.registry now o wallet = ROLE_NONE :=
    fun now o => OrgAccessManager.effectiveRole_inactive hinactive w.access now o
  cases c with
  | registry c =>
      rw [exec] at hexec
      obtain ⟨events, haction⟩ := Action.run_step hexec
      cases haction with
      | registry hstep =>
          cases hstep with
          | registerIdentity _ hfresh =>
              obtain rfl : msg.sender.1 = wallet := hgives
              rw [h.1] at hfresh
              cases hfresh
          | registerIdentityFor _ _ _ hfresh =>
              obtain rfl := hgives
              rw [h.1] at hfresh
              cases hfresh
          | createOrganization _ _ hactive =>
              obtain rfl : msg.sender.1 = wallet := hgives
              rw [h.2] at hactive
              cases hactive
          | transferOrgRootAdmin _ _ _ _ hactive =>
              obtain rfl := hgives
              rw [h.2] at hactive
              cases hactive
          | _ => exact hgives
  | access c =>
      rw [exec] at hexec
      obtain ⟨events, haction⟩ := Action.run_step hexec
      cases haction with
      | access hstep =>
          cases hstep with
          | addMember _ _ _ hactive =>
              obtain rfl := hgives
              rw [hinactive] at hactive
              cases hactive
          | assignRole _ _ _ _ hactive =>
              obtain rfl := hgives
              rw [hinactive] at hactive
              cases hactive
          | _ => exact hgives
  | asset c =>
      rw [exec] at hexec
      obtain ⟨events, haction⟩ := Action.run_step hexec
      cases haction with
      | asset hstep =>
          cases hstep with
          | reassignAsset _ _ hmember =>
              obtain rfl := hgives
              exact hmember (hnone _ _)
          | restoreHeld _ _ hmember =>
              obtain rfl := hgives
              exact hmember (hnone _ _)
          | restoreMoved _ _ hmember =>
              obtain rfl := hgives
              exact hmember (hnone _ _)
          | _ => exact hgives
  | mintAsset orgId assignedTo assetHash metadataURI hook =>
      simp only [exec, bind_eq_ok, Prod.exists] at hexec
      obtain ⟨w₁, begun, hbegin, -⟩ := hexec
      obtain ⟨events, haction⟩ := Action.run_step hbegin
      cases haction with
      | mintBegin hstep =>
          cases hstep with
          | mint _ _ _ _ _ hmember =>
              obtain rfl := hgives
              exact hmember (hnone _ _)
  | safeTransferFrom from_ to_ tokenId hook => exact hgives

end State

/-! ## One transition -/

section Steps

variable {r r' : IdentityRegistry} {msg : Msg} {c : RegistryCall} {events : List RegistryEvent}
  {wallet : Address}

theorem IdentityRegistry.identities_setIdentity (v : Address) (id : Identity) :
    (r.setIdentity v id).identities wallet = if wallet = v then id else r.identities wallet :=
  Function.update_apply ..

/-- A revoked identity stays so, or is reactivated by a registrar. -/
theorem RegistryStep.revoked (hstep : RegistryStep r msg c r' events) (h : r.Revoked wallet) :
    r'.Revoked wallet ∨
      (c = .reactivateIdentity wallet ∧ r.isRegistrar msg.sender = true) := by
  have hkept : ∀ {v : Address} {id : Identity}, wallet ≠ v →
      (r.setIdentity v id).Revoked wallet := fun hne => by
    unfold IdentityRegistry.Revoked
    rw [IdentityRegistry.identities_setIdentity, if_neg hne]
    exact h
  cases hstep with
  | registerIdentity _ hfresh =>
      refine .inl (hkept ?_)
      rintro rfl
      rw [h.1] at hfresh
      cases hfresh
  | registerIdentityFor _ _ _ hfresh =>
      refine .inl (hkept ?_)
      rintro rfl
      rw [h.1] at hfresh
      cases hfresh
  | updateIdentityHash _ _ hactive =>
      refine .inl (hkept ?_)
      rintro rfl
      rw [h.2] at hactive
      cases hactive
  | revokeIdentity _ _ hactive =>
      refine .inl (hkept ?_)
      rintro rfl
      rw [h.2] at hactive
      cases hactive
  | @reactivateIdentity v hregistrar =>
      by_cases hv : wallet = v
      · rw [hv]
        exact .inr ⟨rfl, hregistrar⟩
      · exact .inl (hkept hv)
  | _ => exact .inl h

/-- A revocation revokes. -/
theorem RegistryStep.revokes (hstep : RegistryStep r msg (.revokeIdentity wallet) r' events) :
    r'.Revoked wallet := by
  cases hstep with
  | revokeIdentity _ hregistered =>
      unfold IdentityRegistry.Revoked
      rw [IdentityRegistry.identities_setIdentity, if_pos rfl]
      exact ⟨hregistered, rfl⟩

/-- Reactivating right after a revocation undoes it. -/
theorem RegistryStep.reactivate_revoke {r₁ : IdentityRegistry} {msg' : Msg}
    {events' : List RegistryEvent}
    (hrevoke : RegistryStep r msg (.revokeIdentity wallet) r₁ events)
    (hreactivate : RegistryStep r₁ msg' (.reactivateIdentity wallet) r' events') : r' = r := by
  cases hrevoke with
  | revokeIdentity _ _ hactive =>
      cases hreactivate with
      | reactivateIdentity =>
          unfold IdentityRegistry.setIdentity
          have hidentity : ({ r.identities wallet with active := true } : Identity) =
              r.identities wallet := by
            rw [← hactive]
          simp only [Function.update_self, Function.update_idem, hidentity,
            Function.update_eq_self]

end Steps

theorem Transition.revoked {t : Transition σ} {wallet : Address} (hvalid : t.Valid)
    (h : t.before.registry.Revoked wallet) :
    t.after.registry.Revoked wallet ∨
      (t.action = .registry (.reactivateIdentity wallet) ∧
        t.before.registry.isRegistrar t.msg.sender = true) := by
  obtain ⟨w, msg, action, w', events⟩ := t
  have haction : ActionStep w msg action w' events := Transition.valid_iff.1 hvalid
  cases haction with
  | registry hstep =>
      rcases hstep.revoked h with hkept | ⟨rfl, hregistrar⟩
      · exact .inl hkept
      · exact .inr ⟨rfl, hregistrar⟩
  | _ => exact .inl h

/-- Once registered, always registered. -/
theorem Transition.registered {t : Transition σ} {wallet : Address} (hvalid : t.Valid)
    (h : (t.before.registry.identities wallet).exists_ = true) :
    (t.after.registry.identities wallet).exists_ = true := by
  obtain ⟨w, msg, action, w', events⟩ := t
  have haction : ActionStep w msg action w' events := Transition.valid_iff.1 hvalid
  have hset : ∀ {v : Address} {id : Identity}, id.exists_ = true →
      ((w.registry.setIdentity v id).identities wallet).exists_ = true := fun {v id} hid => by
    rw [IdentityRegistry.identities_setIdentity]
    split
    · exact hid
    · exact h
  cases haction with
  | registry hstep =>
      cases hstep with
      | registerIdentity => exact hset rfl
      | registerIdentityFor => exact hset rfl
      | updateIdentityHash _ hregistered => exact hset hregistered
      | revokeIdentity _ hregistered => exact hset hregistered
      | reactivateIdentity _ hregistered => exact hset hregistered
      | _ => exact h
  | _ => exact h

/-! ## Runs -/

/-- A transition that revokes `wallet`, in a path that goes on with `mid` and `back`. -/
theorem World.Path.revoked {w w' : World σ} {front mid back : List (Transition σ)}
    {t : Transition σ} {wallet : Address} (h : w.Path (front ++ t :: (mid ++ back)) w')
    (hrevoke : t.action = .registry (.revokeIdentity wallet))
    (hmid : ∀ u ∈ mid, u.action ≠ .registry (.reactivateIdentity wallet)) :
    ∀ s, (s = t.after ∨ ∃ u ∈ mid, s = u.after) → s.registry.Revoked wallet := by
  obtain ⟨-, hvalid, hrest⟩ := h.split_at
  have haction : ActionStep t.before t.msg t.action t.after t.events :=
    Transition.valid_iff.1 hvalid
  have hstart : t.after.registry.Revoked wallet := by
    rw [hrevoke] at haction
    generalize t.after = w₁, t.events = events at haction
    cases haction with
    | registry hstep => exact hstep.revokes
  obtain ⟨m, hpath, -⟩ := hrest.split
  obtain ⟨-, hall⟩ := hpath.invariant (P := fun s => s.registry.Revoked wallet)
    (fun u hu hvalid hrevoked => (Transition.revoked hvalid hrevoked).resolve_right
      fun hback => hmid u hu hback.1) hstart
  rintro s (rfl | ⟨u, hu, rfl⟩)
  · exact hstart
  · exact (hall u hu).2

/-- From a revocation of `wallet` until its reactivation the wallet is shut out and is given
    nothing, whatever else happens; afterwards, too, only a registrar's `reactivateIdentity` makes
    its identity active again; and right after the revocation that restores the storage. -/
theorem World.run_revocation (registryOwner assetOwner : Account) (txs : List Tx)
    (wallet : Address) :
    (∀ (front mid back : List (Transition σ)) (t : Transition σ),
      ((deploy registryOwner assetOwner : World σ).run txs).2 = front ++ t :: (mid ++ back) →
      t.action = .registry (.revokeIdentity wallet) →
      ((∀ u ∈ mid, u.action ≠ .registry (.reactivateIdentity wallet)) →
        ∀ w, (w = t.after ∨ ∃ u ∈ mid, w = u.after) →
          w.registry.isActive wallet = false ∧ w.ShutOut wallet ∧
          ∀ (msg : Msg) (c : Call) (w' : World σ) (ts : List (Transition σ)),
            c.exec w msg = .ok (w', ts) → ¬ c.Gives wallet msg) ∧
      ∀ u ∈ mid ++ back, u.before.registry.isActive wallet = false →
        u.after.registry.isActive wallet = true →
        u.action = .registry (.reactivateIdentity wallet) ∧
          u.before.registry.isRegistrar u.msg.sender = true) ∧
    ∀ (w w₁ w₂ : World σ) (msg msg' : Msg) (ts ts' : List (Transition σ)),
      Call.exec w msg (.registry (.revokeIdentity wallet)) = .ok (w₁, ts) →
      Call.exec w₁ msg' (.registry (.reactivateIdentity wallet)) = .ok (w₂, ts') → w₂ = w := by
  refine ⟨fun front mid back t hrun hrevoke => ?_, ?_⟩
  · have hpath := run_path (deploy registryOwner assetOwner : World σ) txs
    rw [hrun] at hpath
    refine ⟨fun hmid w hw => ?_, fun u hu hbefore hafter => ?_⟩
    · have hrevoked := World.Path.revoked hpath hrevoke hmid w hw
      exact ⟨hrevoked.inactive, shutOut_of_inactive hrevoked.inactive,
        fun msg c w' ts hexec => Call.not_gives hrevoked hexec⟩
    · -- The identity is registered from the revocation on, so an inactive one is a revoked one.
      have hstart : (t.after.registry.identities wallet).exists_ = true :=
        (World.Path.revoked (show World.Path _ (front ++ t :: ([] ++ (mid ++ back))) _ from hpath)
          hrevoke (by simp) t.after (.inl rfl)).1
      obtain ⟨-, -, hrest⟩ := hpath.split_at
      obtain ⟨-, hall⟩ := hrest.invariant
        (P := fun s => (s.registry.identities wallet).exists_ = true)
        (fun u _ hvalid hregistered => Transition.registered hvalid hregistered) hstart
      have hregistered : (u.before.registry.identities wallet).exists_ = true := (hall u hu).1
      have hrevoked : u.before.registry.Revoked wallet := by
        refine ⟨hregistered, ?_⟩
        rwa [IdentityRegistry.isActive, hregistered, Bool.true_and] at hbefore
      rcases Transition.revoked (hrest.valid u hu) hrevoked with hkept | hback
      · rw [hkept.inactive] at hafter
        cases hafter
      · exact hback
  · intro w w₁ w₂ msg msg' ts ts' hrevoke hreactivate
    rw [Call.exec] at hrevoke hreactivate
    obtain ⟨events, haction⟩ := Action.run_step hrevoke
    obtain ⟨events', haction'⟩ := Action.run_step hreactivate
    cases haction with
    | registry hstep =>
        cases haction' with
        | registry hstep' =>
            have hsame := hstep.reactivate_revoke hstep'
            show ({ w with registry := _ } : World σ) = w
            rw [hsame]

/-! ## A revoked manager -/

namespace Sample

/-- After the founding transactions Bob revokes his identity, Alice suspends the organization, and
    the registrar lets Bob back. -/
def bobLeaves : List Tx := [
  tx bob 105 (.registry (.revokeIdentity bob)),
  tx alice 106 (.registry (.setOrganizationActive 1 false)),
  tx owner 107 (.registry (.reactivateIdentity bob))]

/-- He is shut out also after what Alice does, until a registrar reactivates him. -/
theorem bobLeaves_shutOut :
    ∃ (front : List (Transition Ledger)) (t u v : Transition Ledger),
      ((World.deploy owner owner : World Ledger).run (founding ++ bobLeaves)).2 =
        front ++ t :: ([u] ++ [v]) ∧
      t.action = .registry (.revokeIdentity bob) ∧
      u.action = .registry (.setOrganizationActive 1 false) ∧
      t.after.ShutOut bob ∧ u.after.ShutOut bob ∧
      v.action = .registry (.reactivateIdentity bob) ∧
      v.before.registry.isRegistrar v.msg.sender = true := by
  have hleave : ((after []).run bobLeaves).2.map (fun t =>
      (t.action, t.before.registry.isActive bob, t.after.registry.isActive bob)) =
      [(.registry (.revokeIdentity bob), true, false),
        (.registry (.setOrganizationActive 1 false), false, false),
        (.registry (.reactivateIdentity bob), false, true)] := by decide +kernel
  have hafter : ((World.deploy owner owner : World Ledger).run founding).1 = after [] := by
    unfold after
    rw [List.append_nil]
  obtain ⟨t, ts, hts, ht, hrest⟩ := List.map_eq_cons_iff.1 hleave
  obtain ⟨u, us, rfl, hu, hrest⟩ := List.map_eq_cons_iff.1 hrest
  obtain ⟨v, vs, rfl, hv, hnone⟩ := List.map_eq_cons_iff.1 hrest
  obtain rfl := List.map_eq_nil_iff.1 hnone
  simp only [Prod.mk.injEq] at ht hu hv
  have hsplit : ((World.deploy owner owner : World Ledger).run (founding ++ bobLeaves)).2 =
      ((World.deploy owner owner : World Ledger).run founding).2 ++ t :: ([u] ++ [v]) := by
    rw [World.run_append, hafter, hts]
    rfl
  have hrun := (World.run_revocation (σ := Ledger) owner owner (founding ++ bobLeaves) bob).1 _ [u]
    [v] t hsplit ht.1
  have hother : ∀ w ∈ [u], w.action ≠ .registry (.reactivateIdentity bob) := by
    simp [hu.1]
  have hback := hrun.2 v (by simp) hv.2.1 hv.2.2
  exact ⟨_, t, u, v, hsplit, ht.1, hu.1, (hrun.1 hother t.after (.inl rfl)).2.1,
    (hrun.1 hother u.after (.inr ⟨u, by simp, rfl⟩)).2.1, hback.1, hback.2⟩

end Sample

end OwneX
