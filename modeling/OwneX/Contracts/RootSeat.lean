import OwneX.Contracts.Invariants

set_option autoImplicit false

/-! # The root admin's seat

An organization is not to be left without an administrator. The seat of the root admin is never
empty, since it moves only to an active identity, and its holder counts as an administrator whatever
is stored about it. What can go wrong is that the holder's identity is revoked: the registry does
not look for seats when it revokes one. As long as that happens to no holder, every organization has
its administrator (`World.run_seat`). -/

namespace OwneX

open Storage

/-- Somebody is an administrator of `o` at the time `now`. -/
def World.Governed {σ : Type} (w : World σ) (now o : Nat) : Prop :=
  ∃ wallet, w.effectiveRole now o wallet = ROLE_ADMIN

/-- The root admin of `o`, if there is such an organization, has an active identity. -/
def IdentityRegistry.SeatHeld (r : IdentityRegistry) (o : Nat) : Prop :=
  r.organizationExists o = true → r.isActive (r.orgRootAdmin o) = true

section Steps

variable {r r' : IdentityRegistry} {msg : Msg} {c : RegistryCall} {events : List RegistryEvent}
  {o : Nat}

namespace IdentityRegistry

theorem isActive_setIdentity (wallet v : Address) (id : Identity) :
    (r.setIdentity wallet id).isActive v =
      if v = wallet then id.exists_ && id.active else r.isActive v := by
  unfold isActive setIdentity
  simp only [Function.update_apply]
  split <;> rfl

/-- Writing an active identity takes no seat away. -/
theorem SeatHeld.setIdentity (h : r.SeatHeld o) {wallet : Address} {id : Identity}
    (hid : id.exists_ = true ∧ id.active = true) : (r.setIdentity wallet id).SeatHeld o := by
  intro hexists
  show (r.setIdentity wallet id).isActive (r.orgRootAdmin o) = true
  rw [isActive_setIdentity]
  split
  · rw [hid.1, hid.2]
    rfl
  · exact h hexists

/-- Neither does writing any identity but the holder's. -/
theorem SeatHeld.setIdentity_of_ne (h : r.SeatHeld o) {wallet : Address} {id : Identity}
    (hne : r.organizationExists o = true → r.orgRootAdmin o ≠ wallet) :
    (r.setIdentity wallet id).SeatHeld o := by
  intro hexists
  show (r.setIdentity wallet id).isActive (r.orgRootAdmin o) = true
  rw [isActive_setIdentity, if_neg (hne hexists)]
  exact h hexists

/-- Editing an organization leaves the seats to whom they are given. -/
theorem SeatHeld.setOrganization (h : r.SeatHeld o) {orgId : Nat} {org : Organization}
    (hadmin : o = orgId → r.organizationExists o = true → r.isActive org.rootAdmin = true) :
    (r.setOrganization orgId org).SeatHeld o := by
  intro hexists
  show r.isActive (Function.update r.organizations orgId org o).rootAdmin = true
  by_cases ho : o = orgId
  · rw [ho, Function.update_self]
    exact hadmin ho hexists
  · rw [Function.update_of_ne ho]
    exact h hexists

end IdentityRegistry

open IdentityRegistry

/-- A call of the registry leaves the seat of `o` held, unless it revokes its holder. -/
theorem RegistryStep.seatHeld (hstep : RegistryStep r msg c r' events) (h : r.SeatHeld o)
    (hkept : r.organizationExists o = true → c ≠ .revokeIdentity (r.orgRootAdmin o)) :
    r'.SeatHeld o := by
  cases hstep with
  | setRegistrar => exact h
  | registerIdentity => exact h.setIdentity ⟨rfl, rfl⟩
  | registerIdentityFor => exact h.setIdentity ⟨rfl, rfl⟩
  | updateIdentityHash _ hregistered hactive => exact h.setIdentity ⟨hregistered, hactive⟩
  | revokeIdentity =>
      refine h.setIdentity_of_ne fun hexists hadmin => hkept hexists ?_
      rw [hadmin]
  | reactivateIdentity _ hregistered => exact h.setIdentity ⟨hregistered, rfl⟩
  | @createOrganization metadataHash orgId _ hregistered hactive hnext =>
      have hsender : r.isActive msg.sender = true := by
        rw [isActive, hregistered, hactive]
        rfl
      intro hexists
      show r.isActive (Function.update r.organizations orgId _ o).rootAdmin = true
      by_cases ho : o = orgId
      · rw [ho, Function.update_self]
        exact hsender
      · rw [Function.update_of_ne ho]
        have hsucc := checkedSucc_eq_some hnext
        refine h ?_
        simp only [organizationExists, Bool.and_eq_true, bne_iff_ne, decide_eq_true_eq] at hexists ⊢
        omega
  | updateOrganizationMetadata =>
      refine h.setOrganization fun ho hexists => ?_
      rw [← ho]
      exact h hexists
  | setOrganizationActive =>
      refine h.setOrganization fun ho hexists => ?_
      rw [← ho]
      exact h hexists
  | transferOrgRootAdmin _ _ _ hregistered hactive =>
      refine h.setOrganization fun _ _ => ?_
      rw [isActive, hregistered, hactive]
      rfl
  | transferOwnership => exact h
  | renounceOwnership => exact h

end Steps

/-! ## Runs -/

variable {σ : Type} [ERC721 σ]

/-- The transition revokes the identity of the root admin of `o`. -/
structure Transition.Vacates (t : Transition σ) (o : Nat) : Prop where
  exists_ : t.before.registry.organizationExists o = true
  revokes : t.action = .registry (.revokeIdentity (t.before.registry.orgRootAdmin o))

theorem Transition.seatHeld {t : Transition σ} {o : Nat} (hvalid : t.Valid)
    (h : t.before.registry.SeatHeld o) (hkept : ¬ t.Vacates o) : t.after.registry.SeatHeld o := by
  rcases (Transition.valid_iff.1 hvalid).registry_eq with ⟨c, es, haction, hstep⟩ | hsame
  · refine hstep.seatHeld h fun hexists hrevokes => hkept ⟨hexists, ?_⟩
    rw [haction, hrevokes]
  · rw [hsame]
    exact h

omit [ERC721 σ] in
/-- The holder of a seat is an administrator at any time. -/
theorem World.governed_of_seat {w : World σ} {o : Nat} (h : w.registry.SeatHeld o)
    (hexists : w.registry.organizationExists o = true) (now : Nat) : w.Governed now o := by
  refine ⟨w.registry.orgRootAdmin o, ?_⟩
  unfold effectiveRole OrgAccessManager.effectiveRole
  rw [if_neg (by simp [h hexists]), if_pos rfl]

/-- `wallet` has an active identity and a stored administrator's role in `o` that has not run out. -/
structure World.StoredAdmin (w : World σ) (now o : Nat) (wallet : Address) : Prop where
  active : w.registry.isActive wallet = true
  role : (w.access.memberships o wallet).role = ROLE_ADMIN
  kept : (w.access.memberships o wallet).expiredAt now = false

omit [ERC721 σ] in
/-- Without its root admin an organization is governed by the other administrators, if any. -/
theorem World.governed_iff_of_vacant {w : World σ} {o : Nat}
    (h : w.registry.isActive (w.registry.orgRootAdmin o) = false) (now : Nat) :
    w.Governed now o ↔ ∃ wallet, w.StoredAdmin now o wallet := by
  constructor
  · rintro ⟨wallet, hrole⟩
    unfold effectiveRole at hrole
    rcases w.access.effectiveRole_cases w.registry now o wallet with
      hnone | ⟨-, hactive, hseat⟩ | ⟨hstored, hactive, -, hkept⟩
    · rw [hnone] at hrole
      exact absurd hrole (by decide)
    · rw [hseat, hactive] at h
      cases h
    · exact ⟨wallet, hactive, hstored ▸ hrole, hkept⟩
  · rintro ⟨wallet, hadmin⟩
    refine ⟨wallet, ?_⟩
    have hseat : w.registry.orgRootAdmin o ≠ wallet := by
      rintro rfl
      rw [hadmin.active] at h
      cases h
    unfold effectiveRole OrgAccessManager.effectiveRole
    rw [if_neg (by simp [hadmin.active]), if_neg hseat]
    simp only [hadmin.role, hadmin.kept, Bool.false_eq_true, if_false]
    exact if_neg (by decide)

/-- After the holder's revocation the seat is not held. -/
theorem Transition.vacant {t : Transition σ} {o : Nat} (hvalid : t.Valid) (h : t.Vacates o) :
    t.after.registry.isActive (t.after.registry.orgRootAdmin o) = false := by
  have haction := Transition.valid_iff.1 hvalid
  rw [h.revokes] at haction
  generalize t.after = w', t.events = events at haction
  cases haction with
  | registry hstep =>
      cases hstep with
      | revokeIdentity =>
          show (t.before.registry.setIdentity _ _).isActive (t.before.registry.orgRootAdmin o) = false
          rw [IdentityRegistry.isActive_setIdentity, if_pos rfl, Bool.and_false]

/-- In every run that revokes no root admin of `o`, the organization has an administrator in every
    state in which it exists. A revocation of the root admin leaves it with those whose role is
    stored, and with none where there are none. -/
theorem World.run_seat (registryOwner assetOwner : Account) (txs : List Tx) (o : Nat) :
    let r := (World.deploy registryOwner assetOwner : World σ).run txs
    ((∀ t ∈ r.2, ¬ t.Vacates o) → ∀ w, (w = r.1 ∨ ∃ t ∈ r.2, w = t.before ∨ w = t.after) →
      w.registry.isOrganizationActive o = true → ∀ now, w.Governed now o) ∧
    ∀ t ∈ r.2, t.Vacates o → ∀ now,
      t.after.Governed now o ↔ ∃ wallet, t.after.StoredAdmin now o wallet := by
  intro r
  have hpath : World.Path _ r.2 r.1 := run_path (deploy registryOwner assetOwner : World σ) txs
  have hdeploy : (deploy registryOwner assetOwner : World σ).registry.SeatHeld o := by
    intro hexists
    simp [deploy, IdentityRegistry.deploy, IdentityRegistry.organizationExists] at hexists
  refine ⟨fun hkept w hw hactive now => ?_, fun t ht hvacates now => ?_⟩
  · obtain ⟨hend, hall⟩ := hpath.invariant (P := fun w => w.registry.SeatHeld o)
      (fun t ht hvalid hheld => Transition.seatHeld hvalid hheld (hkept t ht)) hdeploy
    have hheld : w.registry.SeatHeld o := by
      rcases hw with rfl | ⟨t, ht, rfl | rfl⟩
      · exact hend
      · exact (hall t ht).1
      · exact (hall t ht).2
    exact governed_of_seat hheld (IdentityRegistry.organizationExists_of_active hactive) now
  · exact governed_iff_of_vacant (Transition.vacant (hpath.valid t ht) hvacates) now

instance (t : Transition σ) (o : Nat) : Decidable (t.Vacates o) :=
  decidable_of_iff (t.before.registry.organizationExists o = true ∧
      t.action = .registry (.revokeIdentity (t.before.registry.orgRootAdmin o)))
    ⟨fun h => ⟨h.1, h.2⟩, fun h => ⟨h.exists_, h.revokes⟩⟩

/-- The founding transactions revoke nobody. -/
theorem Sample.founding_governed (now : Nat) :
    ((World.deploy owner owner : World Ledger).run founding).1.Governed now 1 :=
  (World.run_seat owner owner founding 1).1 (by decide +kernel) _ (.inl rfl) (by decide +kernel) now

/-! ## An organization without an administrator -/

/-- Alice removes Carol, the other administrator, and revokes her own identity. -/
def Sample.deserted : World Ledger :=
  Sample.after [
    Sample.tx Sample.alice 105 (.access (.removeMember 1 Sample.carol)),
    Sample.tx Sample.alice 106 (.registry (.revokeIdentity Sample.alice))]

/-- Organization 1 is active, and nobody can administer it. -/
theorem Sample.deserted_orphaned :
    ¬ ∀ (w : World Ledger) (now o : Nat), w.Reachable →
      w.registry.isOrganizationActive o = true → w.Governed now o := by
  intro hall
  have hreach : Sample.deserted.Reachable := Sample.after_reachable _
  have hgoverned := hall Sample.deserted 107 1 hreach (by decide +kernel)
  rw [World.governed_iff_of_vacant (by decide +kernel)] at hgoverned
  obtain ⟨wallet, hadmin⟩ := hgoverned
  -- Everybody with a stored role is listed, and only Bob is.
  have hlisted : wallet ∈ Sample.deserted.access.memberList 1 := by
    rw [hreach.membersInv.listed, hadmin.role]
    decide
  have hlist : Sample.deserted.access.memberList 1 = [Sample.bob.1] := by decide +kernel
  rw [hlist, List.mem_singleton] at hlisted
  have hrole := hadmin.role
  rw [hlisted] at hrole
  revert hrole
  decide +kernel

end OwneX
