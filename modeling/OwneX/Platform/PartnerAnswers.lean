import OwneX.Platform.AuthorizationCodes

set_option autoImplicit false

/-! # What a partner is told has been read

The answers of `app/api/roles/verify` and `app/api/portal/assets` are put together from reads of the
chain, each of which the thread has performed itself. Nothing in them is remembered. -/

namespace OwneX

open Js JsNumber Prog Interleaving Service

variable {rt : ServerRuntime}

/-! ## The snapshot -/

section Snapshot

variable {keccakId : String → Bytes32} {orgId : Nat} {wallet : Address} {appSlug : Option String}
  {log : List ((op : ServerOp) × op.Res)} {decision : AccessDecision} {snapshot : EvaluatedSnapshot}

/-- Each permission is read. -/
theorem mem_of_readPermissionsFor {ps : List (PermissionKey × Bytes32)}
    {permissions : List (PermissionKey × Bool)}
    (h : Returns (readPermissionsFor serverReads orgId wallet ps).run log (.ok permissions)) :
    permissions.map (·.1) = ps.map (·.1) ∧
      ∀ p ∈ permissions, ∃ hash, (p.1, hash) ∈ ps ∧
        ⟨.readHasPermission orgId wallet hash, .ok p.2⟩ ∈ log := by
  induction ps generalizing log permissions with
  | nil =>
      obtain ⟨-, rfl⟩ := returns_exceptT_pure.1 h
      exact ⟨rfl, by simp⟩
  | cons p ps ih =>
      rw [readPermissionsFor] at h
      obtain ⟨⟨granted, rest⟩, log₁, log₂, rfl, hboth, hpure⟩ := returns_exceptT_bind.1 h
      obtain ⟨-, rfl⟩ := returns_exceptT_pure.1 hpure
      obtain ⟨left, right, hleft, hright, hgranted, hrest⟩ := returns_exceptT_both hboth
      obtain rfl := returns_call.1 (returns_onSafe hgranted)
      obtain ⟨hkeys, hreads⟩ := ih hrest
      refine ⟨?_, fun q hq => ?_⟩
      · rw [List.map_cons, List.map_cons, hkeys]
      rcases List.mem_cons.1 hq with rfl | hq
      · exact ⟨p.2, List.mem_cons_self .., List.mem_append_left _ (hleft.subset (by simp))⟩
      · obtain ⟨hash, hhash, hmem⟩ := hreads q hq
        exact ⟨hash, List.mem_cons_of_mem _ hhash,
          List.mem_append_left _ (hright.subset hmem)⟩

/-- What an evaluation that succeeds has read. -/
structure SnapshotRead (orgId : Nat) (wallet : Address) (log : List ((op : ServerOp) × op.Res))
    (snapshot : EvaluatedSnapshot) : Prop where
  role : ⟨.readEffectiveRole orgId wallet, .ok snapshot.role⟩ ∈ log
  identity : ∃ identity, ⟨.readIdentity wallet, .ok identity⟩ ∈ log ∧
    snapshot.identityActive = identity.active
  membership : ∃ membership, ⟨.readMembership orgId wallet, .ok membership⟩ ∈ log ∧
    snapshot.membership = ⟨membership.joinedAt, membership.expiresAt, membership.expired⟩
  permissions : ∀ p ∈ snapshot.permissions.getD [], ∃ hash, (p.1, hash) ∈ permissionList ∧
    ⟨.readHasPermission orgId wallet hash, .ok p.2⟩ ∈ log
  keys : snapshot.role ≠ .none →
    (snapshot.permissions.getD []).map (·.1) = permissionList.map (·.1)

theorem SnapshotRead.mono {log' : List ((op : ServerOp) × op.Res)}
    (h : SnapshotRead orgId wallet log snapshot) (hsubset : log ⊆ log') :
    SnapshotRead orgId wallet log' snapshot where
  role := hsubset h.role
  identity := h.identity.imp fun _ hread => ⟨hsubset hread.1, hread.2⟩
  membership := h.membership.imp fun _ hread => ⟨hsubset hread.1, hread.2⟩
  permissions p hp := (h.permissions p hp).imp fun _ hread => ⟨hread.1, hsubset hread.2⟩
  keys := h.keys

theorem snapshotRead_of_evaluate
    (h : Returns (evaluateLiveAccess keccakId serverReads orgId wallet appSlug) log
      (.ok decision snapshot)) : SnapshotRead orgId wallet log snapshot := by
  obtain ⟨evaluated, front, back, rfl, hread, hmatch⟩ := returns_bind.1 h
  cases evaluated with
  | error detail =>
      obtain ⟨-, hunavailable⟩ := returns_pure.1 hmatch
      cases hunavailable
  | ok evaluated =>
      obtain ⟨rfl, rfl⟩ := returns_pure.1 hmatch
      obtain ⟨answers, log₁, log₂, rfl, hanswers, hdecide⟩ := returns_exceptT_bind.1 hread
      obtain ⟨-, rest₁, -, hrest₁, -, h₁⟩ := returns_exceptT_both hanswers
      obtain ⟨left₂, rest₂, hleft₂, hrest₂, hidentity, h₂⟩ := returns_exceptT_both h₁
      obtain ⟨left₃, rest₃, hleft₃, hrest₃, hrole, h₃⟩ := returns_exceptT_both h₂
      obtain ⟨left₄, rest₄, hleft₄, -, hmembership, -⟩ := returns_exceptT_both h₃
      obtain ⟨organization, identity, role, membership, app⟩ := answers
      obtain ⟨identityState, log₃, log₄, rfl, hcall₃, hpair⟩ := returns_exceptT_bind.1 hidentity
      obtain ⟨-, rfl⟩ := returns_exceptT_pure.1 hpair
      obtain rfl := returns_call.1 (returns_attempt.1 hcall₃)
      obtain rfl := returns_call.1 (returns_onSafe hrole)
      obtain ⟨membershipState, log₅, log₆, rfl, hcall₄, htimes⟩ :=
        returns_exceptT_bind.1 hmembership
      obtain ⟨-, rfl⟩ := returns_exceptT_pure.1 htimes
      obtain rfl := returns_call.1 (returns_onSafe hcall₄)
      have hroleRead : (⟨.readEffectiveRole orgId wallet, .ok role⟩ :
          (op : ServerOp) × op.Res) ∈ log₁ :=
        hrest₁.subset (hrest₂.subset (hleft₃.subset (by simp)))
      have hidentityRead : (⟨.readIdentity wallet, .ok identityState⟩ :
          (op : ServerOp) × op.Res) ∈ log₁ :=
        hrest₁.subset (hleft₂.subset (by simp))
      have hmembershipRead : (⟨.readMembership orgId wallet, .ok membershipState⟩ :
          (op : ServerOp) × op.Res) ∈ log₁ :=
        hrest₁.subset (hrest₂.subset (hrest₃.subset (hleft₄.subset (by simp))))
      simp only at hdecide
      split at hdecide
      next hnone =>
          -- Nobody's permissions are read.
          obtain ⟨_, log₇, log₈, rfl, hpermissions, hdone⟩ := returns_exceptT_bind.1 hdecide
          obtain ⟨-, rfl⟩ := returns_exceptT_pure.1 hpermissions
          cases (returns_exceptT_pure.1 hdone).2
          exact ⟨by simp [hroleRead], ⟨_, by simp [hidentityRead], rfl⟩,
            ⟨_, by simp [hmembershipRead], rfl⟩, by simp, fun hrole => absurd hnone hrole⟩
      next hsome =>
          obtain ⟨_, log₇, log₈, rfl, hpermissions, hdone⟩ := returns_exceptT_bind.1 hdecide
          obtain ⟨permissions, log₉, log₁₀, rfl, hcall₅, hwrap⟩ :=
            returns_exceptT_bind.1 hpermissions
          obtain ⟨-, rfl⟩ := returns_exceptT_pure.1 hwrap
          cases (returns_exceptT_pure.1 hdone).2
          obtain ⟨hkeys, hreads⟩ := mem_of_readPermissionsFor hcall₅
          refine ⟨by simp [hroleRead], ⟨_, by simp [hidentityRead], rfl⟩,
            ⟨_, by simp [hmembershipRead], rfl⟩, fun p hp => ?_, fun _ => hkeys⟩
          obtain ⟨hash, hhash, hmem⟩ := hreads p hp
          exact ⟨hash, hhash, by simp [hmem]⟩

/-- An evaluation that succeeds is one for an address that ethers accepts. -/
theorem evaluate_of_evaluateWallet {text : Text}
    (h : Returns (evaluateWalletAccess rt orgId text appSlug) log (.ok decision snapshot)) :
    ∃ address, rt.getAddress text = some address ∧
      Returns (evaluateLiveAccess rt.keccakId serverReads orgId address appSlug) log
        (.ok decision snapshot) := by
  unfold evaluateWalletAccess at h
  split at h
  next address haddress => exact ⟨address, haddress, h⟩
  next =>
      -- The identity cannot be read.
      obtain ⟨evaluated, front, back, rfl, hread, hmatch⟩ := returns_bind.1 h
      cases evaluated with
      | error detail =>
          obtain ⟨-, hunavailable⟩ := returns_pure.1 hmatch
          cases hunavailable
      | ok evaluated =>
          obtain ⟨answers, log₁, log₂, rfl, hanswers, -⟩ := returns_exceptT_bind.1 hread
          obtain ⟨-, rest₁, -, -, -, h₁⟩ := returns_exceptT_both hanswers
          obtain ⟨left₂, rest₂, -, -, hidentity, -⟩ := returns_exceptT_both h₁
          obtain ⟨identity, log₃, log₄, -, hthrow, -⟩ := returns_exceptT_bind.1 hidentity
          obtain ⟨-, herror⟩ := returns_throw.1 hthrow
          cases herror

end Snapshot

/-! ## The two endpoints -/

theorem EvaluatedAccess.eq_ok_of_read {access : EvaluatedAccess} {decision : AccessDecision}
    {snapshot : EvaluatedSnapshot} (h : access.read? = some (decision, snapshot)) :
    access = .ok decision snapshot := by
  cases access with
  | chainUnavailable detail => cases h
  | ok decision snapshot =>
      cases h
      rfl

section Answers

variable {headers : PartnerHeaders} {params : PartnerParams}
  {log : List ((op : ServerOp) × op.Res)}

/-- An access that was found out in between. -/
def Evaluates (rt : ServerRuntime) (log : List ((op : ServerOp) × op.Res)) (orgId : Nat)
    (wallet : Text) (slug : Option String) (decision : AccessDecision)
    (snapshot : EvaluatedSnapshot) : Prop :=
  ∃ address access, rt.getAddress wallet = some address ∧ access ⊆ log ∧
    Returns (evaluateLiveAccess rt.keccakId serverReads orgId address slug) access
      (.ok decision snapshot)

/-- What is not refused is registered, and not revoked. -/
theorem registered_of_readRefusal {orgId : Nat} {slug : String}
    (h : Returns (readRefusal rt orgId (some slug)).run log (.ok none)) :
    ∃ row, ⟨.selectByKey (orgId, slug), .ok (some row)⟩ ∈ log ∧ row.status ≠ .revoked := by
  obtain ⟨found, front, back, rfl, hfind, hrefusal⟩ := returns_attempt_bind.1 h
  obtain ⟨-, hnone⟩ := returns_exceptT_pure.1 hrefusal
  obtain ⟨stored, rest, callbacks, rfl, -, rfl⟩ := returns_findApplicationBySlug hfind
  cases stored with
  | none => cases hnone
  | some row =>
      refine ⟨row, List.mem_append_left _ (List.mem_cons_self ..), fun hrevoked => ?_⟩
      change (if row.status = .revoked then some _ else none) = none at hnone
      rw [if_pos hrevoked] at hnone
      cases hnone

/-- A decision that `GET /api/roles/verify` answers with has been taken for a partner that was let in,
    on what was read. -/
theorem verify_ok {claims : PartnerClaims} {decision : AccessDecision} {detail : Option String}
    {organizationActive : Bool} {membership : MembershipTimes} {app : Option AppAccess}
    {authMode : String}
    (h : Returns (rolesVerify rt headers params).run log
      (.ok (.verified claims decision detail organizationActive membership app authMode))) :
    ∃ query auth snapshot verifiedAt, params.parse = some query ∧
      (∃ front ⊆ log, Returns (authenticatePartner rt headers).run front (.ok auth)) ∧
      (∀ slug, named (query.app.or (PartnerAuth.slug auth)) = some slug →
        ∃ row, ⟨.selectByKey (query.orgId, slug), .ok (some row)⟩ ∈ log ∧ row.status ≠ .revoked) ∧
      Evaluates rt log query.orgId query.wallet (named (query.app.or (PartnerAuth.slug auth)))
        decision snapshot ∧
      claims = buildPartnerClaims query.wallet query.orgId snapshot verifiedAt ∧
      membership = snapshot.membership := by
  obtain ⟨query, hquery, h₀⟩ := returns_require_bind.1 h
  obtain ⟨auth, log₁, rest₁, hlog, hauth, h₁⟩ := returns_exceptT_bind.1 h₀
  obtain ⟨-, log₂, rest₂, hrest₁, -, h₂⟩ := returns_exceptT_bind.1 h₁
  obtain ⟨refusal, log₃, rest₃, hrest₂, hrefusal, h₃⟩ := returns_exceptT_bind.1 h₂
  cases refusal with
  | some refusal =>
      obtain ⟨verifiedAt, rest₄, -, h₄⟩ := returns_ask_bind.1 h₃
      cases (returns_exceptT_pure.1 h₄).2
  | none =>
      obtain ⟨access, log₄, rest₄, hrest₃, haccess, h₄⟩ := returns_lift_bind.1 h₃
      obtain ⟨⟨decision', snapshot⟩, hread, h₅⟩ := returns_require_bind.1 h₄
      obtain ⟨verifiedAt, rest₅, -, h₆⟩ := returns_ask_bind.1 h₅
      cases (returns_exceptT_pure.1 h₆).2
      obtain rfl := EvaluatedAccess.eq_ok_of_read hread
      obtain ⟨address, haddress, hevaluate⟩ := evaluate_of_evaluateWallet haccess
      rw [hlog, hrest₁, hrest₂, hrest₃]
      refine ⟨query, auth, snapshot, verifiedAt, hquery, ⟨log₁, List.subset_append_left .., hauth⟩,
        fun slug hslug => ?_, ⟨address, log₄, haddress, fun entry hentry => by simp [hentry],
        hevaluate⟩, rfl, rfl⟩
      rw [hslug] at hrefusal
      obtain ⟨row, hrow, hstatus⟩ := registered_of_readRefusal hrefusal
      exact ⟨row, by simp [hrow], hstatus⟩

/-- Each asset is read, or cannot be. -/
theorem mem_of_readAssets {ids : List Nat} {records : List (Option AssetState)}
    (h : Returns (readAssets ids).run log (.ok records)) :
    ∀ record ∈ records.filterMap id, ∃ tokenId ∈ ids,
      ⟨.readAsset tokenId, .ok (some record)⟩ ∈ log := by
  induction ids generalizing log records with
  | nil =>
      obtain ⟨-, rfl⟩ := returns_exceptT_pure.1 h
      simp
  | cons tokenId ids ih =>
      rw [readAssets] at h
      obtain ⟨⟨asset, assets⟩, log₁, log₂, rfl, hboth, hpure⟩ := returns_exceptT_bind.1 h
      obtain ⟨-, rfl⟩ := returns_exceptT_pure.1 hpure
      obtain ⟨left, right, hleft, hright, hasset, hassets⟩ := returns_exceptT_both hboth
      obtain rfl := returns_call.1 (returns_attempt.1 hasset)
      intro record hrecord
      rw [List.mem_filterMap] at hrecord
      obtain ⟨found, hfound, rfl⟩ := hrecord
      rcases List.mem_cons.1 hfound with rfl | hfound
      · exact ⟨tokenId, List.mem_cons_self .., List.mem_append_left _ (hleft.subset (by simp))⟩
      · obtain ⟨tokenId', hid, hmem⟩ := ih hassets record (List.mem_filterMap.2 ⟨_, hfound, rfl⟩)
        exact ⟨tokenId', List.mem_cons_of_mem _ hid,
          List.mem_append_left _ (hright.subset hmem)⟩

/-- What `GET /api/portal/assets` answers with where it shows anything. -/
theorem assets_ok {reply : PortalReply} (h : Returns (portalAssets rt headers params).run log (.ok reply))
    (hshown : reply.assets ≠ []) :
    ∃ wallet orgId auth decision snapshot ids,
      parseWalletAndOrg params = some (wallet, orgId) ∧
      (∃ front ⊆ log, Returns (authenticatePartner rt headers).run front (.ok auth)) ∧
      Evaluates rt log orgId wallet (named (PartnerAuth.slug auth)) decision snapshot ∧
      decision.allowed = true ∧ ⟨.readAssetsOfOrganization orgId, .ok ids⟩ ∈ log ∧
      ∀ asset ∈ reply.assets, ∃ tokenId ∈ ids, ∃ record,
        ⟨.readAsset tokenId, .ok (some record)⟩ ∈ log ∧ portalAsset wallet record = some asset := by
  obtain ⟨⟨wallet, orgId⟩, hquery, h₀⟩ := returns_require_bind.1 h
  obtain ⟨auth, log₁, rest₁, hlog, hauth, h₁⟩ := returns_exceptT_bind.1 h₀
  obtain ⟨-, log₂, rest₂, hrest₁, -, h₂⟩ := returns_exceptT_bind.1 h₁
  obtain ⟨access, log₃, rest₃, hrest₂, haccess, h₃⟩ := returns_lift_bind.1 h₂
  obtain ⟨⟨decision, snapshot⟩, hread, h₄⟩ := returns_require_bind.1 h₃
  obtain rfl := EvaluatedAccess.eq_ok_of_read hread
  by_cases hallowed : decision.allowed = true
  · simp only [hallowed, Bool.not_true, Bool.false_eq_true, if_false] at h₄
    obtain ⟨ids, log₄, rest₄, hrest₃, hids, h₅⟩ := returns_attempt_bind.1 h₄
    obtain ⟨records, log₅, rest₅, hrest₄, hrecords, h₆⟩ := returns_attempt_bind.1 h₅
    obtain ⟨-, rfl⟩ := returns_exceptT_pure.1 h₆
    obtain rfl := returns_call.1 (returns_onSafe hids)
    obtain ⟨address, haddress, hevaluate⟩ := evaluate_of_evaluateWallet haccess
    rw [hlog, hrest₁, hrest₂, hrest₃, hrest₄]
    refine ⟨wallet, orgId, auth, decision, snapshot, ids, hquery,
      ⟨log₁, List.subset_append_left .., hauth⟩, ⟨address, log₃, haddress, ?_, hevaluate⟩, hallowed,
      by simp, fun asset hasset => ?_⟩
    · intro entry hentry
      simp [hentry]
    · obtain ⟨record, hrecord, hshows⟩ := List.mem_filterMap.1 hasset
      obtain ⟨tokenId, hid, hmem⟩ := mem_of_readAssets hrecords record hrecord
      exact ⟨tokenId, hid, record, by simp [hmem], hshows⟩
  · simp only [hallowed, Bool.not_false, if_true] at h₄
    obtain ⟨-, rfl⟩ := returns_exceptT_pure.1 h₄
    exact absurd rfl hshown

end Answers

end OwneX
