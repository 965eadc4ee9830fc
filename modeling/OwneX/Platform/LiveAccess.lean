import OwneX.Platform.AccessDecision
import OwneX.Contracts.Invariants

set_option autoImplicit false

/-! # The platform's decision against the contract's

With every read answered from one state and the two clocks equal, `evaluateLiveAccess` recombines
what `canAccessApp` derives in one call. The two part in one place. The contract gives the root
admin its role whatever is stored about it, while `decideAccess` refuses as soon as a stored
membership has lapsed: a member whose time-bound role ran out before or after it was handed the seat
is let in by the chain and kept out by the platform. `LapsedSeat` is that situation, and outside it
the two agree. -/

namespace OwneX

open JsNumber

variable {σ : Type}

/-- `wallet` is the active root admin of an active organization in which it also has a stored
    membership that has run out. -/
structure LapsedSeat (w : World σ) (now orgId : Nat) (wallet : Address) : Prop where
  organization : w.registry.isOrganizationActive orgId = true
  identity : w.registry.isActive wallet = true
  seat : w.registry.orgRootAdmin orgId = wallet
  lapsed : (w.access.memberships orgId wallet).expiredAt now = true

/-! ## The pure rule -/

/-- When `decideAccess` allows. -/
theorem decideAccess_allowed {s : AccessSnapshot} :
    (decideAccess s).allowed = true ↔
      s.organization = some true ∧ s.registered = true ∧ s.active = true ∧ s.expired = false ∧
        s.role ≠ .none ∧
        (s.appAccess = none ∨ s.appAccess = some (some true) ∧ s.appRegistered ≠ some (some false) ∨
          s.appAccess = some none ∧ s.appRegistered ≠ some (some false)) := by
  obtain ⟨organization, registered, active, expired, role, appAccess, appRegistered⟩ := s
  rcases organization with _ | organizationActive
  · simp [decideAccess, deny]
  · rcases appAccess with _ | _ | granted
    · cases organizationActive <;> cases registered <;> cases active <;> cases expired <;>
        by_cases hrole : role = .none <;> simp [decideAccess, deny, hrole]
    · cases organizationActive <;> cases registered <;> cases active <;> cases expired <;>
        by_cases hrole : role = .none <;>
        by_cases happ : appRegistered = some (some false) <;>
        simp [decideAccess, deny, hrole, happ]
    · cases organizationActive <;> cases registered <;> cases active <;> cases expired <;>
        by_cases hrole : role = .none <;>
        by_cases happ : appRegistered = some (some false) <;> cases granted <;>
        simp [decideAccess, deny, hrole, happ]

/-! ## What the platform reads -/

namespace Chain

variable (ch : Chain σ) (dateNow : TimeValue) (keccakId : String → Bytes32) (orgId : Nat)
  (wallet : Address)

/-- The snapshot the reads assemble, for an application or for none. -/
def snapshot (app : Option (Bool × Bool)) : AccessSnapshot where
  organization := (ch.readOrganization orgId).map (·.active)
  registered := (ch.readIdentity wallet).registered
  active := (ch.readIdentity wallet).active
  expired := (ch.readMembership dateNow orgId wallet).expired
  role := ch.readEffectiveRole orgId wallet
  appAccess := app.map fun app => some app.2
  appRegistered := app.map fun app => some app.1

theorem readPermissionsFor_eq (ps : List (PermissionKey × Bytes32)) :
    readPermissionsFor (ch.reads dateNow) orgId wallet ps =
      pure (ps.map fun p => (p.1, ch.readHasPermission orgId wallet p.2)) := by
  induction ps with
  | nil => rfl
  | cons p ps ih =>
      rw [readPermissionsFor, ih]
      rfl

/-- Reads that are answered at once are answered together. -/
theorem both_pure {α β : Type} (a : α) (b : β) :
    (Async.both (pure a) (pure b) : ExceptT String Id (α × β)) = pure (a, b) := rfl

/-- Named applications are looked up; the empty string names none. -/
def appReads (appSlug : Option String) : Option (Bool × Bool) :=
  match appSlug with
  | none => none
  | some slug =>
      if slug = "" then none
      else some (ch.readApplicationRegistered orgId (keccakId slug),
        ch.readCanAccessApp orgId wallet (keccakId slug))

/-- What the evaluation decides on. -/
theorem allowed_evaluateLiveAccess (appSlug : Option String) :
    EvaluatedAccess.allowed (evaluateLiveAccess keccakId (ch.reads dateNow) orgId wallet appSlug) =
      (decideAccess (ch.snapshot dateNow orgId wallet
        (ch.appReads keccakId orgId wallet appSlug))).allowed := by
  unfold evaluateLiveAccess evaluateAccess readAndDecide liveReaders snapshot appReads
  simp only [readPermissionsFor_eq]
  by_cases hrole : ch.readEffectiveRole orgId wallet = .none
  · rcases appSlug with _ | slug
    · simp only [reads, pure_bind, both_pure, hrole, if_true]
      rfl
    · by_cases hslug : slug = ""
      · simp only [reads, pure_bind, both_pure, hrole, hslug, if_true]
        rfl
      · simp only [reads, pure_bind, both_pure, hrole, hslug, if_true, if_false]
        rfl
  · rcases appSlug with _ | slug
    · simp only [reads, pure_bind, both_pure, hrole, if_false]
      rfl
    · by_cases hslug : slug = ""
      · simp only [reads, pure_bind, both_pure, hrole, hslug, if_true, if_false]
        rfl
      · simp only [reads, pure_bind, both_pure, hrole, hslug, if_false]
        rfl

/-! ## The reads against the storage -/

/-- The platform's own expiry test is the contract's, when the clocks agree. -/
theorem readMembership_expired (hclock : dateNow.1 / 1000 = ch.blockTime) :
    (ch.readMembership dateNow orgId wallet).expired =
      (ch.world.access.memberships orgId wallet).expiredAt ch.blockTime := by
  have hle := toNumber_mul_le_iff
    (ch.world.access.memberships orgId wallet).expiresAt.toNat 1000 (by omega) dateNow
  have hdiv : (ch.world.access.memberships orgId wallet).expiresAt.toNat * 1000 ≤ dateNow.1 ↔
      (ch.world.access.memberships orgId wallet).expiresAt.toNat ≤ ch.blockTime := by
    rw [← hclock]
    omega
  have hzero : (ch.world.access.memberships orgId wallet).expiresAt.toNat = 0 ↔
      (ch.world.access.memberships orgId wallet).expiresAt = 0#64 := by
    rw [BitVec.toNat_eq]
    rfl
  unfold readMembership Membership.expiredAt OrgAccessManager.getMembership
  by_cases h0 : (ch.world.access.memberships orgId wallet).expiresAt = 0#64
  · simp [h0, toNumber_eq_zero]
  · have hnumber : toNumber (ch.world.access.memberships orgId wallet).expiresAt.toNat ≠ 0 :=
      fun hn => h0 (hzero.1 (toNumber_eq_zero.1 hn))
    dsimp only
    rw [bne_iff_ne.2 hnumber, bne_iff_ne.2 h0]
    simp [hle, hdiv]

/-- A role that applies always has a name. -/
theorem readEffectiveRole_eq_none (h : MembersInv ch.world.access) :
    ch.readEffectiveRole orgId wallet = .none ↔
      ch.world.effectiveRole ch.blockTime orgId wallet = ROLE_NONE := by
  unfold readEffectiveRole World.effectiveRole
  rcases ch.world.access.effectiveRole_cases ch.world.registry ch.blockTime orgId wallet with
    hnone | ⟨hadmin, -, -⟩ | ⟨hstored, -, hmember, -⟩
  · rw [hnone]
    exact iff_of_true (by decide) rfl
  · rw [hadmin]
    exact iff_of_false (by decide) (by decide)
  · rw [hstored, roleName_eq_none_iff, h.valid orgId wallet hmember]
    exact iff_of_false (by decide) hmember

theorem readOrganization_active (h : RegistryInv ch.world.registry) :
    (ch.readOrganization orgId).map (·.active) = some true ↔
      ch.world.registry.isOrganizationActive orgId = true := by
  have hroot := h.rootAdmin_eq_zero_iff orgId
  unfold readOrganization IdentityRegistry.isOrganizationActive IdentityRegistry.getOrganization
  by_cases hzero : (ch.world.registry.organizations orgId).rootAdmin = 0#160
  · simp [hzero, hroot.1 hzero]
  · have hexists : ch.world.registry.organizationExists orgId = true := by
      by_contra hnot
      exact hzero (hroot.2 (by simpa using hnot))
    simp [hzero, hexists]

end Chain

/-! ## Agreement -/

/-- Only an active identity has a role. -/
theorem World.active_of_role {w : World σ} {now orgId : Nat} {wallet : Address}
    (h : w.effectiveRole now orgId wallet ≠ ROLE_NONE) : w.registry.isActive wallet = true := by
  rcases w.access.effectiveRole_cases w.registry now orgId wallet with hnone | ⟨-, hactive, -⟩ |
    ⟨-, hactive, -⟩
  · exact absurd hnone h
  · exact hactive
  · exact hactive

/-- A role beside a lapsed membership is the root admin's. -/
theorem World.lapsedSeat_iff {w : World σ} {now orgId : Nat} {wallet : Address} :
    LapsedSeat w now orgId wallet ↔
      w.registry.isOrganizationActive orgId = true ∧
        w.effectiveRole now orgId wallet ≠ ROLE_NONE ∧
        (w.access.memberships orgId wallet).expiredAt now = true := by
  constructor
  · intro h
    refine ⟨h.organization, ?_, h.lapsed⟩
    unfold effectiveRole OrgAccessManager.effectiveRole
    rw [if_neg (by simp [h.identity]), if_pos h.seat]
    decide
  · rintro ⟨horg, hrole, hlapsed⟩
    rcases w.access.effectiveRole_cases w.registry now orgId wallet with hnone | ⟨-, hactive, hseat⟩ |
      ⟨-, -, -, hkept⟩
    · exact absurd hnone hrole
    · exact ⟨horg, hactive, hseat, hlapsed⟩
    · rw [hlapsed] at hkept
      cases hkept

theorem LapsedSeat.role {w : World σ} {now orgId : Nat} {wallet : Address}
    (h : LapsedSeat w now orgId wallet) : w.effectiveRole now orgId wallet = ROLE_ADMIN := by
  unfold World.effectiveRole OrgAccessManager.effectiveRole
  rw [if_neg (by simp [h.identity]), if_pos h.seat]

theorem World.canAccessApp_iff {w : World σ} {now orgId : Nat} {wallet : Address}
    {appId : Bytes32} :
    w.canAccessApp now orgId wallet appId = true ↔
      w.access.applicationRegistered orgId appId = true ∧
        w.registry.isOrganizationActive orgId = true ∧
        w.effectiveRole now orgId wallet ≠ ROLE_NONE ∧
        w.access.appRoleAccess orgId appId (w.effectiveRole now orgId wallet) = true := by
  unfold canAccessApp OrgAccessManager.canAccessApp effectiveRole
  by_cases hregistered : w.access.applicationRegistered orgId appId = true
  · by_cases horg : w.registry.isOrganizationActive orgId = true
    · by_cases hrole : w.access.effectiveRole w.registry now orgId wallet = ROLE_NONE <;>
        simp [hregistered, horg, hrole]
    · simp [horg]
  · simp [hregistered]

section Agreement

variable [ERC721 σ] {w : World σ}

/-- Without an application the platform allows what the contract does, less a lapsed membership. -/
theorem World.Reachable.allowed_none (h : w.Reachable) (keccakId : String → Bytes32)
    {blockTime : Nat} {dateNow : TimeValue} (hclock : dateNow.1 / 1000 = blockTime) (orgId : Nat)
    (wallet : Address) :
    EvaluatedAccess.allowed
        (evaluateLiveAccess keccakId ((⟨w, blockTime⟩ : Chain σ).reads dateNow) orgId wallet none) =
        true ↔
      w.registry.isOrganizationActive orgId = true ∧
        w.effectiveRole blockTime orgId wallet ≠ ROLE_NONE ∧
        (w.access.memberships orgId wallet).expiredAt blockTime = false := by
  have horg := (⟨w, blockTime⟩ : Chain σ).readOrganization_active orgId h.registryInv
  have hrole := (⟨w, blockTime⟩ : Chain σ).readEffectiveRole_eq_none orgId wallet h.membersInv
  have hexpired := (⟨w, blockTime⟩ : Chain σ).readMembership_expired dateNow orgId wallet hclock
  rw [Chain.allowed_evaluateLiveAccess, decideAccess_allowed]
  simp only [Chain.snapshot, Chain.appReads, horg, hexpired, ne_eq, hrole, Option.map_none,
    true_or, and_true]
  constructor
  · rintro ⟨hactive, -, -, hkept, hnone⟩
    exact ⟨hactive, hnone, hkept⟩
  · rintro ⟨hactive, hnone, hkept⟩
    have hidentity := World.active_of_role hnone
    simp only [IdentityRegistry.isActive, Bool.and_eq_true] at hidentity
    exact ⟨hactive, hidentity.1, by simp [Chain.readIdentity, IdentityRegistry.getIdentity,
      hidentity], hkept, hnone⟩

/-- With an application too. -/
theorem World.Reachable.allowed_some (h : w.Reachable) (keccakId : String → Bytes32)
    {blockTime : Nat} {dateNow : TimeValue} (hclock : dateNow.1 / 1000 = blockTime) (orgId : Nat)
    (wallet : Address) (slug : Slug) :
    EvaluatedAccess.allowed
        (evaluateLiveAccess keccakId ((⟨w, blockTime⟩ : Chain σ).reads dateNow) orgId wallet
          (some slug)) = true ↔
      w.canAccessApp blockTime orgId wallet (keccakId slug) = true ∧
        (w.access.memberships orgId wallet).expiredAt blockTime = false := by
  have horg := (⟨w, blockTime⟩ : Chain σ).readOrganization_active orgId h.registryInv
  have hrole := (⟨w, blockTime⟩ : Chain σ).readEffectiveRole_eq_none orgId wallet h.membersInv
  have hexpired := (⟨w, blockTime⟩ : Chain σ).readMembership_expired dateNow orgId wallet hclock
  rw [Chain.allowed_evaluateLiveAccess, decideAccess_allowed]
  simp only [Chain.snapshot, Chain.appReads, horg, hexpired, ne_eq, hrole, if_neg slug.ne_empty,
    Option.map_some]
  constructor
  · rintro ⟨-, -, -, hkept, -, happ⟩
    refine ⟨?_, hkept⟩
    rcases happ with happ | ⟨happ, -⟩ | ⟨happ, -⟩
    · cases happ
    · exact Option.some.inj (Option.some.inj happ)
    · cases happ
  · rintro ⟨haccess, hkept⟩
    obtain ⟨hregistered, hactive, hnone, -⟩ := World.canAccessApp_iff.1 haccess
    have hidentity := World.active_of_role hnone
    simp only [IdentityRegistry.isActive, Bool.and_eq_true] at hidentity
    refine ⟨hactive, hidentity.1, by simp [Chain.readIdentity, IdentityRegistry.getIdentity,
      hidentity], hkept, hnone, .inr (.inl ⟨?_, ?_⟩)⟩
    · exact congrArg (fun b => some (some b)) haccess
    · simp [Chain.readApplicationRegistered, hregistered]

/-- The platform's decision is the contract's exactly outside a lapsed seat, for an application and
    for the organization alone. -/
theorem World.Reachable.decision_agrees_iff (h : w.Reachable) (keccakId : String → Bytes32)
    {blockTime : Nat} {dateNow : TimeValue} (hclock : dateNow.1 / 1000 = blockTime) (orgId : Nat)
    (wallet : Address) :
    (∀ slug : Slug,
      ((EvaluatedAccess.allowed (evaluateLiveAccess keccakId
            ((⟨w, blockTime⟩ : Chain σ).reads dateNow) orgId wallet (some slug)) = true ↔
          w.canAccessApp blockTime orgId wallet (keccakId slug) = true) ↔
        ¬ (LapsedSeat w blockTime orgId wallet ∧
          w.access.applicationRegistered orgId (keccakId slug) = true ∧
          w.access.appRoleAccess orgId (keccakId slug) ROLE_ADMIN = true))) ∧
    ((EvaluatedAccess.allowed (evaluateLiveAccess keccakId
          ((⟨w, blockTime⟩ : Chain σ).reads dateNow) orgId wallet none) = true ↔
        w.registry.organizationExists orgId = true ∧
          (w.registry.organizations orgId).active = true ∧
          w.effectiveRole blockTime orgId wallet ≠ ROLE_NONE) ↔
      ¬ LapsedSeat w blockTime orgId wallet) := by
  constructor
  · intro slug
    rw [h.allowed_some keccakId hclock]
    constructor
    · rintro hiff ⟨hlapsed, hregistered, hadmin⟩
      have haccess : w.canAccessApp blockTime orgId wallet (keccakId slug) = true := by
        rw [World.canAccessApp_iff, hlapsed.role]
        exact ⟨hregistered, hlapsed.organization, by decide, hadmin⟩
      have hkept := (hiff.2 haccess).2
      rw [hlapsed.lapsed] at hkept
      cases hkept
    · intro hnot
      refine ⟨And.left, fun haccess => ⟨haccess, ?_⟩⟩
      obtain ⟨hregistered, horg, hrole, hgranted⟩ := World.canAccessApp_iff.1 haccess
      by_contra hexpired
      have hlapsed := World.lapsedSeat_iff.2 ⟨horg, hrole, by simpa using hexpired⟩
      rw [hlapsed.role] at hgranted
      exact hnot ⟨hlapsed, hregistered, hgranted⟩
  · rw [h.allowed_none keccakId hclock, World.lapsedSeat_iff]
    simp only [IdentityRegistry.isOrganizationActive, Bool.and_eq_true]
    by_cases hexpired : (w.access.memberships orgId wallet).expiredAt blockTime = true
    · simp only [hexpired, Bool.true_eq_false, and_false, and_true, false_iff, and_assoc]
    · simp only [hexpired, Bool.false_eq_true, and_false, and_true, and_assoc, not_false_eq_true]

end Agreement

/-! ## A manager who is given the seat -/

/-- Administrators may use application 77, and Bob, a manager until 500, becomes the root admin of
    organization 1. -/
def Sample.bobSeated : World Ledger :=
  Sample.after [
    Sample.tx Sample.alice 105 (.access (.registerApplication 1 77 6)),
    Sample.tx Sample.alice 105 (.access (.setAppAccess 1 77 ROLE_ADMIN true)),
    Sample.tx Sample.alice 106 (.registry (.transferOrgRootAdmin 1 Sample.bob))]

/-- At 600 the chain gives Bob the administrator's access and the platform reports it lapsed. -/
theorem Sample.bobSeated_disagrees :
    (¬ ∀ (w : World Ledger) (keccakId : String → Bytes32) (blockTime : Nat) (dateNow : TimeValue)
        (orgId : Nat) (wallet : Address) (slug : Slug),
      w.Reachable → dateNow.1 / 1000 = blockTime →
      (EvaluatedAccess.allowed (evaluateLiveAccess keccakId
          ((⟨w, blockTime⟩ : Chain Ledger).reads dateNow) orgId wallet (some slug)) = true ↔
        w.canAccessApp blockTime orgId wallet (keccakId slug) = true)) ∧
    (¬ ∀ (w : World Ledger) (keccakId : String → Bytes32) (blockTime : Nat) (dateNow : TimeValue)
        (orgId : Nat) (wallet : Address),
      w.Reachable → dateNow.1 / 1000 = blockTime →
      (EvaluatedAccess.allowed (evaluateLiveAccess keccakId
          ((⟨w, blockTime⟩ : Chain Ledger).reads dateNow) orgId wallet none) = true ↔
        w.registry.organizationExists orgId = true ∧
          (w.registry.organizations orgId).active = true ∧
          w.effectiveRole blockTime orgId wallet ≠ ROLE_NONE)) := by
  have hreach : Sample.bobSeated.Reachable := Sample.after_reachable _
  constructor
  · intro hagree
    have hiff := hagree Sample.bobSeated (fun _ => 77) 600 ⟨600000, by decide⟩ 1 Sample.bob
      ⟨"employee-portal", by decide⟩ hreach rfl
    revert hiff
    decide +kernel
  · intro hagree
    have hiff := hagree Sample.bobSeated (fun _ => 77) 600 ⟨600000, by decide⟩ 1 Sample.bob
      hreach rfl
    revert hiff
    decide +kernel

/-- About Carol, whose seat is no seat, the two agree. -/
theorem Sample.carol_decision_agrees :
    EvaluatedAccess.allowed (evaluateLiveAccess (fun _ => 77)
        ((⟨Sample.bobSeated, 600⟩ : Chain Ledger).reads ⟨600000, by decide⟩) 1 Sample.carol
        (some "employee-portal")) = true ↔
      Sample.bobSeated.canAccessApp 600 1 Sample.carol 77 = true := by
  have hreach : Sample.bobSeated.Reachable := Sample.after_reachable _
  have hclock : (⟨600000, by decide⟩ : TimeValue).1 / 1000 = 600 := rfl
  have hnot : ¬ LapsedSeat Sample.bobSeated 600 1 Sample.carol := fun h =>
    absurd h.seat (by decide +kernel)
  have hiff := (hreach.decision_agrees_iff (fun _ => 77) hclock 1
    Sample.carol).1 ⟨"employee-portal", by decide⟩
  exact hiff.2 fun h => hnot h.1

end OwneX
