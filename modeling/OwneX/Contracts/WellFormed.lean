import OwneX.Contracts.Frames
import OwneX.Contracts.Invariants

set_option autoImplicit false

/-! # Well-formed storage

The rest of what every reachable storage satisfies, next to `RegistryInv`, `MembersInv` and
`CustodyInv`: hashes that are set are not zero, an id without an organization has left no trace
anywhere, members are registered wallets, applications are registered before a role is let in, and
the lists of the organizations partition the minted tokens in the order of their minting.
`World.Reachable.wellFormed` puts them together, with the two kinds of record that never change. -/

namespace OwneX

open Storage

/-! ## The registry -/

section Registry

variable {r r' : IdentityRegistry} {msg : Msg} {c : RegistryCall} {events : List RegistryEvent}

/-- What a registered identity keeps. -/
structure Identity.Kept (id id' : Identity) : Prop where
  exists_ : id.exists_ = true → id'.exists_ = true
  registeredAt : id.exists_ = true → id'.registeredAt = id.registeredAt
  hashed : (id.exists_ = true → id.identityHash ≠ 0#256) →
    id'.exists_ = true → id'.identityHash ≠ 0#256

theorem Identity.Kept.refl (id : Identity) : id.Kept id :=
  ⟨fun h => h, fun _ => rfl, fun h => h⟩

/-- Every call leaves an identity, registers it with a hash, or edits what may be edited. -/
theorem RegistryStep.identity_kept (h : RegistryStep r msg c r' events) (wallet : Address) :
    (r.identities wallet).Kept (r'.identities wallet) := by
  have hset : ∀ {v : Address} {id : Identity}, (r.identities v).Kept id →
      (r.identities wallet).Kept ((r.setIdentity v id).identities wallet) := by
    intro v id hkept
    by_cases hv : wallet = v
    · subst hv
      rw [show (r.setIdentity wallet id).identities wallet = id from Function.update_self ..]
      exact hkept
    · rw [show (r.setIdentity v id).identities wallet = r.identities wallet from
        Function.update_of_ne hv _ _]
      exact .refl _
  have hfresh : ∀ {v : Address} {id : Identity}, (r.identities v).exists_ = false →
      id.identityHash ≠ 0#256 → (r.identities v).Kept id := by
    intro v id hnew hhash
    refine ⟨fun hold => ?_, fun hold => ?_, fun _ _ => hhash⟩ <;>
    · rw [hnew] at hold
      cases hold
  cases h with
  | registerIdentity hhash hnew => exact hset (hfresh hnew hhash)
  | registerIdentityFor _ _ hhash hnew => exact hset (hfresh hnew hhash)
  | updateIdentityHash hhash => exact hset ⟨fun h => h, fun _ => rfl, fun _ _ => hhash⟩
  | revokeIdentity => exact hset ⟨fun h => h, fun _ => rfl, fun h => h⟩
  | reactivateIdentity => exact hset ⟨fun h => h, fun _ => rfl, fun h => h⟩
  | _ => exact .refl _

/-- The hashes that stand for an identity or an organization are set. -/
structure HashesInv (r : IdentityRegistry) : Prop where
  identity : ∀ wallet, (r.identities wallet).exists_ = true →
    (r.identities wallet).identityHash ≠ 0#256
  organization : ∀ o, r.organizationExists o = true → (r.organizations o).metadataHash ≠ 0#256

theorem HashesInv.step (hinv : HashesInv r) (h : RegistryStep r msg c r' events) :
    HashesInv r' := by
  refine ⟨fun wallet => (h.identity_kept wallet).hashed (hinv.identity wallet), fun o ho => ?_⟩
  have hset : ∀ {orgId : Nat} {org : Organization}, org.metadataHash ≠ 0#256 →
      (o ≠ orgId → r.organizationExists o = true) →
      ((r.setOrganization orgId org).organizations o).metadataHash ≠ 0#256 := by
    intro orgId org hhash hold
    rw [IdentityRegistry.organizations_setOrganization]
    split
    · exact hhash
    · next hne => exact hinv.organization o (hold hne)
  cases h with
  | @createOrganization metadataHash orgId hhash _ _ hnext =>
      refine hset hhash fun hne => ?_
      have hsucc := checkedSucc_eq_some hnext
      rw [IdentityRegistry.organizationExists_iff] at ho ⊢
      exact ⟨ho.1, by simp only at ho; omega⟩
  | updateOrganizationMetadata hhash => exact hset hhash fun _ => ho
  | setOrganizationActive horg => exact hset (hinv.organization _ horg) fun _ => ho
  | transferOrgRootAdmin _ horg => exact hset (hinv.organization _ horg) fun _ => ho
  | _ => exact hinv.organization o ho

end Registry

/-! ## The access manager -/

/-- Organization `o` has no trace in the access manager. -/
structure OrgAccessManager.Blank (a : OrgAccessManager) (o : Nat) : Prop where
  memberships : ∀ wallet, a.memberships o wallet = {}
  memberList : a.memberList o = []
  permissionOverride : ∀ role permission, a.permissionOverride o role permission = .unset
  applicationMetadata : ∀ appId, a.applicationMetadata o appId = 0#256
  applicationRegistered : ∀ appId, a.applicationRegistered o appId = false
  appRoleAccess : ∀ appId role, a.appRoleAccess o appId role = false

section Access

variable {a a' : OrgAccessManager} {ir : IdentityRegistry} {msg : Msg} {c : AccessCall}
  {events : List AccessEvent}

theorem OrgAccessManager.Blank.congr {o : Nat} (h : a.Blank o) (hsame : SameAccess o a a') :
    a'.Blank o where
  memberships := by rw [hsame.memberships]; exact h.memberships
  memberList := by rw [hsame.memberList]; exact h.memberList
  permissionOverride := by rw [hsame.permissionOverride]; exact h.permissionOverride
  applicationMetadata := by rw [hsame.applicationMetadata]; exact h.applicationMetadata
  applicationRegistered := by rw [hsame.applicationRegistered]; exact h.applicationRegistered
  appRoleAccess := by rw [hsame.appRoleAccess]; exact h.appRoleAccess

/-- Where the tables of the access manager may have entries. -/
structure ScopeInv (a : OrgAccessManager) (ir : IdentityRegistry) : Prop where
  absent : ∀ o, ir.organizationExists o = false → a.Blank o
  member : ∀ o wallet, (a.memberships o wallet).role ≠ ROLE_NONE → ir.isRegistered wallet = true
  described : ∀ o appId, a.applicationRegistered o appId = true →
    a.applicationMetadata o appId ≠ 0#256
  registered : ∀ o appId role, a.appRoleAccess o appId role = true →
    a.applicationRegistered o appId = true

theorem ScopeInv.deploy (ir : IdentityRegistry) : ScopeInv .deploy ir where
  absent := fun _ _ => ⟨fun _ => rfl, rfl, fun _ _ => rfl, fun _ => rfl, fun _ => rfl, fun _ _ => rfl⟩
  member := fun _ _ h => absurd rfl h
  described := fun _ _ h => by cases h
  registered := fun _ _ _ h => by cases h

/-- The registry only grows, as far as the access manager looks at it. -/
theorem ScopeInv.registry (hinv : ScopeInv a ir) {ir' : IdentityRegistry} {c : RegistryCall}
    {events : List RegistryEvent} (h : RegistryStep ir msg c ir' events) : ScopeInv a ir' where
  absent := fun o ho => hinv.absent o (by
    by_contra hexists
    rw [h.organizationExists_mono (by simpa using hexists)] at ho
    cases ho)
  member := fun o wallet hrole => (h.identity_kept wallet).exists_ (hinv.member o wallet hrole)
  described := hinv.described
  registered := hinv.registered

/-- A record for a wallet that is registered, or no record. -/
theorem ScopeInv.setMembership (hinv : ScopeInv a ir) {orgId : Nat} {wallet : Address}
    {m : Membership} (hm : m.role ≠ ROLE_NONE → ir.isRegistered wallet = true) (o : Nat)
    (v : Address) (hv : ((a.setMembership orgId wallet m).memberships o v).role ≠ ROLE_NONE) :
    ir.isRegistered v = true := by
  simp only [OrgAccessManager.setMembership, set₂_apply] at hv
  split at hv
  · next hown =>
      rw [hown.2]
      exact hm hv
  · exact hinv.member o v hv

theorem IdentityRegistry.isRegistered_of_active {wallet : Address}
    (h : ir.isActive wallet = true) : ir.isRegistered wallet = true := by
  unfold isActive at h
  exact (Bool.and_eq_true_iff.1 h).1

/-- Once registered, an application stays so with its metadata. -/
theorem AccessStep.application_kept (h : AccessStep a ir msg c a' events) {o : Nat}
    {appId : Bytes32} (happ : a.applicationRegistered o appId = true) :
    a'.applicationRegistered o appId = true ∧
      a'.applicationMetadata o appId = a.applicationMetadata o appId := by
  cases h with
  | @registerApplication orgId newApp metadataHash _ _ hfresh =>
      have hne : ¬ (o = orgId ∧ appId = newApp) := by
        rintro ⟨rfl, rfl⟩
        rw [happ] at hfresh
        cases hfresh
      exact ⟨(set₂_of_ne hne).trans happ, set₂_of_ne hne⟩
  | _ => exact ⟨happ, rfl⟩

theorem ScopeInv.step (hinv : ScopeInv a ir) (h : AccessStep a ir msg c a' events) :
    ScopeInv a' ir := by
  have habsent : ∀ o, ir.organizationExists o = false → a'.Blank o := by
    intro o ho
    -- A call goes through for an active organization only, so for another one.
    refine (hinv.absent o ho).congr (h.sameAccess ?_)
    rintro rfl
    rw [ir.organizationExists_of_active h.organization] at ho
    cases ho
  cases h with
  | addMember _ _ _ hactive =>
      exact ⟨habsent, hinv.setMembership fun _ => ir.isRegistered_of_active hactive,
        hinv.described, hinv.registered⟩
  | assignRole _ _ _ _ hactive =>
      exact ⟨habsent, hinv.setMembership fun _ => ir.isRegistered_of_active hactive,
        hinv.described, hinv.registered⟩
  | setRoleExpiry _ _ _ hmember =>
      exact ⟨habsent, hinv.setMembership fun _ => hinv.member _ _ hmember, hinv.described,
        hinv.registered⟩
  | removeMember =>
      exact ⟨habsent, hinv.setMembership fun hrole => absurd rfl hrole, hinv.described,
        hinv.registered⟩
  | setPermission => exact ⟨habsent, hinv.member, hinv.described, hinv.registered⟩
  | @registerApplication orgId newApp metadataHash hcaller hhashes hfresh =>
      refine ⟨habsent, hinv.member, fun o appId happ => ?_, fun o appId role hallowed => ?_⟩
      · simp only [set₂_apply] at happ ⊢
        split
        · exact hhashes.2
        · next hne =>
            rw [if_neg hne] at happ
            exact hinv.described o appId happ
      · simp only [set₂_apply]
        split
        · rfl
        · exact hinv.registered o appId role hallowed
  | @setAppAccess orgId app role allowed _ hregistered =>
      refine ⟨habsent, hinv.member, hinv.described, fun o appId role' hallowed => ?_⟩
      simp only [set₃_apply] at hallowed
      split at hallowed
      · next hown =>
          rw [hown.1, hown.2.1]
          exact hregistered
      · exact hinv.registered o appId role' hallowed

end Access

/-! ## The lists of the organizations -/

/-- The lists partition the minted tokens, each in the order of minting. -/
structure AssetListsInv {σ : Type} (n : AssetNFT σ) (ir : IdentityRegistry) : Prop where
  organization : ∀ t, n.Minted t → ir.organizationExists (n.assets t).orgId = true
  listed : ∀ o t, t ∈ n.orgAssets o ↔ n.Minted t ∧ (n.assets t).orgId = o
  increasing : ∀ o, (n.orgAssets o).Pairwise (· < ·)

section Assets

variable {σ : Type} [ERC721 σ] {n n' : AssetNFT σ} {ac : OrgAccessManager}
  {ir : IdentityRegistry} {msg : Msg}

theorem AssetListsInv.deploy (assetOwner : Account) (ir : IdentityRegistry) :
    AssetListsInv (AssetNFT.deploy assetOwner : AssetNFT σ) ir where
  organization := fun _ hm => absurd hm.2 (Nat.not_lt.2 hm.1)
  listed := fun _ _ => iff_of_false List.not_mem_nil fun hm => absurd hm.1.2 (Nat.not_lt.2 hm.1.1)
  increasing := fun _ => List.Pairwise.nil

omit [ERC721 σ] in
/-- Changes to the holders, the other fields of the records and the registry. -/
theorem AssetListsInv.congr (hinv : AssetListsInv n ir) {ir' : IdentityRegistry}
    (hlists : n'.orgAssets = n.orgAssets) (hnext : n'.nextTokenId = n.nextTokenId)
    (horg : ∀ t, (n'.assets t).orgId = (n.assets t).orgId)
    (hexists : ∀ o, ir.organizationExists o = true → ir'.organizationExists o = true) :
    AssetListsInv n' ir' where
  organization := fun t hm => by
    rw [horg]
    unfold AssetNFT.Minted at hm
    rw [hnext] at hm
    exact hexists _ (hinv.organization t hm)
  listed := fun o t => by
    rw [hlists, horg]
    unfold AssetNFT.Minted
    rw [hnext]
    exact hinv.listed o t
  increasing := by
    rw [hlists]
    exact hinv.increasing

theorem AssetListsInv.mint (hinv : AssetListsInv n ir) (hcustody : CustodyInv n) {orgId : Nat}
    {assignedTo : Address} {assetHash : Bytes32} {metadataURI : String}
    (h : MintStep n ac ir msg orgId assignedTo assetHash metadataURI n') :
    AssetListsInv n' ir := by
  obtain ⟨horg, hnext, hasset, hlists⟩ := h.record
  have hnew : n'.Minted n.nextTokenId := ⟨hcustody.next, by omega⟩
  have hminted : ∀ t, t ≠ n.nextTokenId → (n'.Minted t ↔ n.Minted t) := by
    intro t ht
    unfold AssetNFT.Minted
    omega
  have hlist : ∀ o, n'.orgAssets o =
      if o = orgId then n.orgAssets o ++ [n.nextTokenId] else n.orgAssets o := by
    intro o
    rw [hlists, Function.update_apply]
    split
    · next ho => rw [ho]
    · rfl
  have hold : ∀ o, ∀ t ∈ n.orgAssets o, t < n.nextTokenId := fun o t ht =>
    ((hinv.listed o t).1 ht).1.2
  constructor
  · intro t hm
    by_cases ht : t = n.nextTokenId
    · rw [ht, hasset]
      exact ir.organizationExists_of_active horg
    · rw [(h.sameToken ht).asset]
      exact hinv.organization t ((hminted t ht).1 hm)
  · intro o t
    rw [hlist]
    by_cases ht : t = n.nextTokenId
    · subst ht
      have hfresh : n.nextTokenId ∉ n.orgAssets o := fun hmem =>
        Nat.lt_irrefl _ (hold o _ hmem)
      rw [hasset]
      split
      · next ho => simp [hnew, ho]
      · next ho => simp [hfresh, Ne.symm ho]
    · rw [(h.sameToken ht).asset, hminted t ht, ← hinv.listed]
      split <;> simp [ht]
  · intro o
    rw [hlist]
    split
    · refine List.pairwise_append.2 ⟨hinv.increasing o, List.pairwise_singleton .., ?_⟩
      intro t ht u hu
      rw [List.mem_singleton.1 hu]
      exact hold o t ht
    · exact hinv.increasing o

end Assets

/-! ## Reachable states -/

section Worlds

variable {σ : Type} [ERC721 σ]

theorem World.Reachable.hashesInv {w : World σ} (h : w.Reachable) : HashesInv w.registry := by
  refine h.invariant (P := fun w => HashesInv w.registry) (fun _ _ => ?_) ?_
  · exact ⟨fun _ h => (by cases h), fun o h => by
      simp [deploy, IdentityRegistry.deploy, IdentityRegistry.organizationExists] at h⟩
  · intro w w' msg act events hstep hinv
    cases hstep with
    | registry hstep => exact hinv.step hstep
    | _ => exact hinv

theorem World.Reachable.scopeInv {w : World σ} (h : w.Reachable) :
    ScopeInv w.access w.registry := by
  refine h.invariant (P := fun w => ScopeInv w.access w.registry) (fun _ _ => .deploy _) ?_
  intro w w' msg act events hstep hinv
  cases hstep with
  | registry hstep => exact hinv.registry hstep
  | access hstep => exact hinv.step hstep
  | _ => exact hinv

theorem ActionStep.assetListsInv {w w' : World σ} {msg : Msg} {act : Action}
    {events : List Event} (hstep : ActionStep w msg act w' events) (hcustody : CustodyInv w.nft)
    (hinv : AssetListsInv w.nft w.registry) : AssetListsInv w'.nft w'.registry := by
  cases hstep with
  | registry hstep =>
      exact hinv.congr rfl rfl (fun _ => rfl) fun _ ho => hstep.organizationExists_mono ho
  | access => exact hinv
  | asset hstep =>
      obtain ⟨hlists, hnext⟩ := hstep.lists_eq
      exact hinv.congr hlists hnext (fun t => ((hstep.custody hcustody).2 t).orgId)
        fun _ ho => ho
  | mintBegin hstep => exact hinv.mint hcustody hstep
  | mintEnd => exact hinv.congr rfl rfl (fun _ => rfl) fun _ ho => ho

theorem World.Reachable.assetListsInv {w : World σ} (h : w.Reachable) :
    AssetListsInv w.nft w.registry := by
  have hboth : CustodyInv w.nft ∧ AssetListsInv w.nft w.registry := by
    refine h.invariant (P := fun w => CustodyInv w.nft ∧ AssetListsInv w.nft w.registry)
      (fun _ _ => ⟨.deploy _, .deploy _ _⟩) ?_
    intro w w' msg act events hstep ⟨hcustody, hinv⟩
    have hvalid : (⟨w, msg, act, w', events⟩ : Transition σ).Valid := Transition.valid_iff.2 hstep
    exact ⟨(Transition.custody hvalid hcustody).1, hstep.assetListsInv hcustody hinv⟩
  exact hboth.2

/-! ## Well-formed worlds -/

/-- What the views of the three contracts may rely on in each other. -/
structure World.WellFormed (w : World σ) : Prop where
  organizations : ∀ o, w.registry.organizations o ≠ {} ↔
    1 ≤ o ∧ o ≤ w.registry.organizationCount
  organization : ∀ o, 1 ≤ o → o ≤ w.registry.organizationCount →
    (w.registry.organizations o).metadataHash ≠ 0#256 ∧ w.registry.orgRootAdmin o ≠ 0#160 ∧
      w.registry.isRegistered (w.registry.orgRootAdmin o) = true
  identity : ∀ wallet, w.registry.isRegistered wallet = true →
    (w.registry.getIdentity wallet).identityHash ≠ 0#256
  absent : ∀ o, ¬ (1 ≤ o ∧ o ≤ w.registry.organizationCount) →
    w.access.Blank o ∧ w.nft.orgAssets o = [] ∧
      ∀ now wallet, w.effectiveRole now o wallet = ROLE_NONE
  roles : ∀ o wallet, (w.access.memberships o wallet).role ∈
    [ROLE_NONE, ROLE_ADMIN, ROLE_MANAGER, ROLE_AUDITOR, ROLE_USER]
  members : ∀ o wallet,
    (w.access.memberships o wallet).role ≠ ROLE_NONE ∨ wallet ∈ w.access.memberList o →
      w.registry.isRegistered wallet = true
  appAccess : ∀ o appId role, w.access.appRoleAccess o appId role = true →
    w.access.applicationRegistered o appId = true
  applications : ∀ o appId, w.access.applicationRegistered o appId = true →
    w.access.applicationMetadata o appId ≠ 0#256
  minted : ∀ t, w.nft.ownerOf t ≠ 0#160 ↔ 1 ≤ t ∧ t ≤ w.nft.totalMinted
  listed : ∀ o t, (w.nft.orgAssets o).count t =
    if (1 ≤ t ∧ t ≤ w.nft.totalMinted) ∧ (w.nft.assets t).orgId = o then 1 else 0
  increasing : ∀ o, (w.nft.orgAssets o).Pairwise (· < ·)

/-- What a later state has kept. -/
structure World.Keeps (w w' : World σ) : Prop where
  identity : ∀ wallet, w.registry.isRegistered wallet = true →
    w'.registry.isRegistered wallet = true ∧
      (w'.registry.getIdentity wallet).registeredAt = (w.registry.getIdentity wallet).registeredAt
  application : ∀ o appId, w.access.applicationRegistered o appId = true →
    w'.access.applicationRegistered o appId = true ∧
      w'.access.applicationMetadata o appId = w.access.applicationMetadata o appId

omit [ERC721 σ] in
theorem World.Keeps.refl (w : World σ) : w.Keeps w :=
  ⟨fun _ h => ⟨h, rfl⟩, fun _ _ h => ⟨h, rfl⟩⟩

omit [ERC721 σ] in
theorem World.Keeps.trans {w w' w'' : World σ} (h : w.Keeps w') (h' : w'.Keeps w'') :
    w.Keeps w'' := by
  constructor
  · intro wallet hw
    obtain ⟨hw', hat⟩ := h.identity wallet hw
    obtain ⟨hw'', hat'⟩ := h'.identity wallet hw'
    exact ⟨hw'', hat'.trans hat⟩
  · intro o appId happ
    obtain ⟨happ', hmeta⟩ := h.application o appId happ
    obtain ⟨happ'', hmeta'⟩ := h'.application o appId happ'
    exact ⟨happ'', hmeta'.trans hmeta⟩

theorem Transition.keeps {t : Transition σ} (hvalid : t.Valid) : t.before.Keeps t.after := by
  have haction : ActionStep t.before t.msg t.action t.after t.events :=
    Transition.valid_iff.1 hvalid
  constructor
  · intro wallet hw
    rcases haction.registry_eq with ⟨c, es, -, hstep⟩ | hsame
    · have hkept := hstep.identity_kept wallet
      exact ⟨hkept.exists_ hw, hkept.registeredAt hw⟩
    · rw [hsame]
      exact ⟨hw, rfl⟩
  · intro o appId happ
    rcases haction.access_eq with ⟨c, es, -, hstep⟩ | hsame
    · exact hstep.application_kept happ
    · rw [hsame]
      exact ⟨happ, rfl⟩

/-- An organization that does not exist holds no tokens. -/
theorem World.Reachable.orgAssets_absent {w : World σ} (h : w.Reachable) {o : Nat}
    (ho : w.registry.organizationExists o = false) : w.nft.orgAssets o = [] := by
  refine List.eq_nil_iff_forall_not_mem.2 fun t ht => ?_
  obtain ⟨hminted, horg⟩ := (h.assetListsInv.listed o t).1 ht
  have hsome := h.assetListsInv.organization t hminted
  rw [horg, ho] at hsome
  cases hsome

/-- Nobody has a role in it. -/
theorem World.Reachable.effectiveRole_absent {w : World σ} (h : w.Reachable) {o : Nat}
    (ho : w.registry.organizationExists o = false) (now : Nat) (wallet : Address) :
    w.effectiveRole now o wallet = ROLE_NONE := by
  rcases w.access.effectiveRole_cases w.registry now o wallet with
    hnone | ⟨-, hactive, hseat⟩ | ⟨-, -, hrole, -⟩
  · exact hnone
  · -- The seat of an absent organization is the zero address, which is never registered.
    rw [(h.registryInv.rootAdmin_eq_zero_iff o).2 ho] at hseat
    have hregistered := IdentityRegistry.isRegistered_of_active hactive
    exact absurd hseat.symm (h.registryInv.registered_ne_zero hregistered)
  · rw [(h.scopeInv.absent o ho).memberships] at hrole
    exact absurd rfl hrole

/-- Every reachable state is well formed, and whatever happens after it keeps the registered
    identities with their dates and the registered applications with their metadata. -/
theorem World.Reachable.wellFormed {w : World σ} (h : w.Reachable) :
    w.WellFormed ∧ ∀ (ts : List (Transition σ)) (w' : World σ), w.Path ts w' → w.Keeps w' := by
  have hregistry := h.registryInv
  have hhashes := h.hashesInv
  have hmembers := h.membersInv
  have hscope := h.scopeInv
  have hcustody := h.custodyInv
  have hlists := h.assetListsInv
  have hexists : ∀ o, ¬ (1 ≤ o ∧ o ≤ w.registry.organizationCount) →
      w.registry.organizationExists o = false := fun o ho => by
    rw [← Bool.not_eq_true, IdentityRegistry.organizationExists_iff]
    exact ho
  have hminted : ∀ t, (1 ≤ t ∧ t ≤ w.nft.totalMinted) ↔ w.nft.Minted t := by
    intro t
    have hnext := hcustody.next
    unfold AssetNFT.totalMinted AssetNFT.Minted
    omega
  refine ⟨?_, fun ts w' hpath => hpath.rel World.Keeps.refl World.Keeps.trans
    fun t ht => Transition.keeps (hpath.valid t ht)⟩
  constructor
  case organizations =>
    intro o
    rw [← IdentityRegistry.organizationExists_iff]
    constructor
    · intro hrecord
      by_contra habsent
      exact hrecord (hregistry.absent o (by simpa using habsent))
    · intro ho hblank
      exact hhashes.organization o ho (by rw [hblank])
  case organization =>
    intro o hlow hhigh
    have ho := IdentityRegistry.organizationExists_iff.2 ⟨hlow, hhigh⟩
    have hadmin := hregistry.admin_registered o ho
    exact ⟨hhashes.organization o ho, hregistry.registered_ne_zero hadmin, hadmin⟩
  case identity => exact fun wallet hw => hhashes.identity wallet hw
  case absent =>
    intro o ho
    exact ⟨hscope.absent o (hexists o ho), h.orgAssets_absent (hexists o ho),
      h.effectiveRole_absent (hexists o ho)⟩
  case roles =>
    intro o wallet
    by_cases hrole : (w.access.memberships o wallet).role = ROLE_NONE
    · rw [hrole]
      exact List.mem_cons_self ..
    · exact List.mem_cons_of_mem _ (isValidRole_iff_mem.1 (hmembers.valid o wallet hrole))
  case members =>
    intro o wallet hmember
    rcases hmember with hrole | hmem
    · exact hscope.member o wallet hrole
    · exact hscope.member o wallet ((hmembers.listed o wallet).1 hmem)
  case appAccess => exact hscope.registered
  case applications => exact hscope.described
  case minted =>
    intro t
    rw [hminted, hcustody.minted_iff]
  case listed =>
    intro o t
    have hnodup : (w.nft.orgAssets o).Nodup :=
      (hlists.increasing o).imp fun hlt => Nat.ne_of_lt hlt
    rw [hnodup.count]
    exact if_congr ((hlists.listed o t).trans (and_congr_left' (hminted t).symm)) rfl rfl
  case increasing => exact hlists.increasing

/-- The founded organization. -/
theorem Sample.founding_wellFormed :
    (Sample.after []).WellFormed ∧
      ∀ (ts : List (Transition Ledger)) (w' : World Ledger),
        (Sample.after []).Path ts w' → (Sample.after []).Keeps w' :=
  World.Reachable.wellFormed (Sample.after_reachable [])

end Worlds

end OwneX
