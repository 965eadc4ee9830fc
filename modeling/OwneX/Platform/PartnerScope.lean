import OwneX.Contracts.Tenants
import OwneX.Platform.Redemption

set_option autoImplicit false

/-! # What a partner can learn

The two endpoints a partner calls read the registry and the chain. Whatever they read lies in the
scope of one application: its row, its organization, and the wallet asked about (`PartnerScope`). So
two worlds that agree on these answer a request alike, whatever is stored for anyone else. -/

namespace OwneX

open Js JsNumber Prog Interleaving Service

/-! ## The scope of a request -/

section Scope

variable {A : (op : ServerOp) → op.Res → op.Res → Prop} {rt : ServerRuntime}
  {app : ApplicationRow} {wallet : Text}

/-- What is read within the scope of an application is answered alike. About callbacks nothing is
    said. -/
structure PartnerScope (A : (op : ServerOp) → op.Res → op.Res → Prop) (rt : ServerRuntime)
    (app : ApplicationRow) (wallet : Text) : Prop where
  row : ∀ clientId, app.clientId = some clientId → ∀ r r',
    A (.selectByClientId clientId) r r' → OrSame (OneRow (· = app)) r r'
  key : ∀ r r', A (.selectByKey app.key) r r' → OrSame (OneRow (· = app)) r r'
  callbacks : ∀ r r', A (.selectCallbacks app.key) r r' → OrSame (fun _ _ => True) r r'
  organization : ∀ r r', A (.readOrganization app.orgId.1) r r' → r = r'
  registered : ∀ appId r r', A (.readApplicationRegistered app.orgId.1 appId) r r' → r = r'
  access : ∀ address, rt.getAddress wallet = some address → ∀ op r r',
    ServerOp.OfAccess app.orgId.1 address op → A op r r' → r = r'
  listed : ∀ r r', A (.readAssetsOfOrganization app.orgId.1) r r' →
    OrSame (fun ids ids' => ids = ids' ∧ ∀ id ∈ ids, ∀ r r', A (.readAsset id) r r' → r = r') r r'
  now : ∀ r r' : TimeValue, A .now r r' → r = r'

/-- A wallet that no read accepts is asked about in the organization only. -/
theorem agrees_refusing {orgId : Nat}
    (horganization : ∀ r r', A (.readOrganization orgId) r r' → r = r')
    (hregistered : ∀ appId r r', A (.readApplicationRegistered orgId appId) r r' → r = r')
    (error : String) (address : Address) :
    (serverReads.refusing error).Agrees A orgId address where
  readOrganization := Related.onSafe ((related_call _).mono horganization)
  readIdentity := related_pure rfl
  readEffectiveRole := related_pure rfl
  readMembership := related_pure rfl
  readHasPermission _ := related_pure rfl
  readApplicationRegistered appId := Related.onSafe ((related_call _).mono (hregistered appId))
  readCanAccessApp _ := related_pure rfl

theorem related_evaluateWalletAccess (h : PartnerScope A rt app wallet) (slug : Option String) :
    Related A (· = ·) (evaluateWalletAccess rt app.orgId.1 wallet slug)
      (evaluateWalletAccess rt app.orgId.1 wallet slug) := by
  unfold evaluateWalletAccess
  split
  next address haddress =>
      exact related_evaluateLiveAccess
        (agrees_serverReads fun op r r' => h.access address haddress op r r') rt.keccakId slug
  · exact related_evaluateLiveAccess (agrees_refusing h.organization h.registered _ _)
      rt.keccakId slug

/-- Both are the application, up to its callbacks. -/
def SameCaller (rt : ServerRuntime) (app : ApplicationRow) (auth auth' : PartnerAuth) : Prop :=
  ∃ callbacks callbacks', auth = .credentials (toRecord rt app callbacks) ∧
    auth' = .credentials (toRecord rt app callbacks')

/-- The secret is compared with the digest in the row, whatever the callbacks are. -/
theorem authenticated_cases (row : ApplicationRow) (clientSecret : Text) :
    (∀ callbacks, authenticated rt (some (toRecord rt row callbacks)) clientSecret =
      some (toRecord rt row callbacks)) ∨
    ∀ callbacks, authenticated rt (some (toRecord rt row callbacks)) clientSecret = none := by
  by_cases hstatus : row.status = .revoked
  · exact .inr fun callbacks => if_pos hstatus
  · by_cases hsecret : verifyClientSecret rt.crypto clientSecret row.clientSecretHash = true
    · exact .inl fun callbacks => (if_neg hstatus).trans (if_pos hsecret)
    · exact .inr fun callbacks => (if_neg hstatus).trans (if_neg hsecret)

theorem related_authenticatePartner (h : PartnerScope A rt app wallet) {headers : PartnerHeaders}
    {credentials : PartnerCredentials}
    (hread : readPartnerCredentials rt.crypto headers = some credentials)
    (hclientId : app.clientId = some (trimText credentials.clientId)) :
    Related A (OrSame (SameCaller rt app)) (authenticatePartner rt headers).run
      (authenticatePartner rt headers).run := by
  have hfind : Related A (OrSame (Option.Rel (SameRow rt (· = app) fun _ _ => True)))
      (findApplicationByClientId rt credentials.clientId).run
      (findApplicationByClientId rt credentials.clientId).run := by
    refine related_findApplicationByClientId rfl (h.row _ hclientId) ?_
    rintro row rfl r r' hA
    exact h.callbacks r r' hA
  unfold authenticatePartner
  simp only [hread]
  refine related_exceptT_bind (related_attempt hfind _) ?_
  intro found found' hfound
  refine related_require_bind (R := fun a a' => SameCaller rt app (.credentials a)
    (.credentials a')) ?_ fun _ _ hcaller => related_exceptT_pure hcaller
  cases hfound with
  | none => exact .none
  | some hsame =>
      obtain ⟨row, callbacks, callbacks', rfl, -, rfl, rfl⟩ := hsame
      rcases @authenticated_cases rt row credentials.clientSecret with hyes | hno
      · rw [hyes, hyes]
        exact .some ⟨callbacks, callbacks', rfl, rfl⟩
      · rw [hno, hno]
        exact .none

variable {auth auth' : PartnerAuth}

theorem SameCaller.slug (h : SameCaller rt app auth auth') :
    auth.slug = some app.appSlug ∧ auth'.slug = some app.appSlug := by
  obtain ⟨callbacks, callbacks', rfl, rfl⟩ := h
  exact ⟨rfl, rfl⟩

theorem SameCaller.mode (h : SameCaller rt app auth auth') : auth.mode = auth'.mode := by
  obtain ⟨callbacks, callbacks', rfl, rfl⟩ := h
  rfl

/-- Both callers may ask about the organization and the application, or neither may. -/
theorem related_refuseOutOfScope {γ : Type} {R : γ → γ → Prop}
    (hcaller : SameCaller rt app auth auth') (orgId : Nat) (slug : Option String)
    {f g : Unit → Route γ}
    (h : app.orgId.1 = orgId → (∀ s, slug = some s → s = app.appSlug) →
      Related A (OrSame R) (f ()).run (g ()).run) :
    Related A (OrSame R) (refuseOutOfScope auth orgId slug >>= f).run
      (refuseOutOfScope auth' orgId slug >>= g).run := by
  have hsame : outOfScope auth' orgId slug = outOfScope auth orgId slug := by
    obtain ⟨callbacks, callbacks', rfl, rfl⟩ := hcaller
    rfl
  unfold refuseOutOfScope
  rw [hsame]
  cases hscope : outOfScope auth orgId slug with
  | some error => exact related_pure (R := OrSame R) rfl
  | none =>
      obtain ⟨callbacks, callbacks', rfl, rfl⟩ := hcaller
      unfold outOfScope at hscope
      simp only at hscope
      split at hscope
      · cases hscope
      next horg =>
      split at hscope
      · cases hscope
      next hslug =>
      refine h (not_ne_iff.1 horg) fun s heq => ?_
      subst heq
      by_contra hne
      exact hslug (decide_eq_true hne)

/-- The application asked about is the caller's own. -/
theorem named_of_caller (hcaller : SameCaller rt app auth auth') {slug : Option String}
    (hslug : ∀ s, slug = some s → s = app.appSlug) :
    named (slug.or auth.slug) = named (some app.appSlug) ∧
      named (slug.or auth'.slug) = named (some app.appSlug) := by
  obtain ⟨hauth, hauth'⟩ := hcaller.slug
  rw [hauth, hauth']
  cases slug with
  | none => exact ⟨rfl, rfl⟩
  | some s =>
      rw [hslug s rfl]
      exact ⟨rfl, rfl⟩

theorem related_readRefusal (h : PartnerScope A rt app wallet) :
    Related A (OrSame (· = ·)) (readRefusal rt app.orgId.1 (named (some app.appSlug))).run
      (readRefusal rt app.orgId.1 (named (some app.appSlug))).run := by
  have hfind : Related A (OrSame (Option.Rel (SameRow rt (· = app) fun _ _ => True)))
      (findApplicationBySlug rt app.key).run (findApplicationBySlug rt app.key).run := by
    refine related_findApplicationBySlug h.key ?_
    rintro row rfl r r' hA
    exact h.callbacks r r' hA
  cases hnamed : named (some app.appSlug) with
  | none => exact related_exceptT_pure rfl
  | some slug =>
      obtain rfl : app.appSlug = slug := by
        have hfilter := Option.filter_eq_some_iff.1 hnamed
        exact Option.some.inj hfilter.1
      refine related_exceptT_bind (related_attempt hfind _) ?_
      intro found found' hfound
      refine related_exceptT_pure ?_
      cases hfound with
      | none => rfl
      | some hsame =>
          obtain ⟨row, callbacks, callbacks', rfl, -, rfl, rfl⟩ := hsame
          rfl

theorem related_require_same {α γ : Type} {R : γ → γ → Prop} {o : Option α} {e : ApiError}
    {f g : α → Route γ} (h : ∀ a, o = some a → Related A (OrSame R) (f a).run (g a).run) :
    Related A (OrSame R) (require o e >>= f).run (require o e >>= g).run := by
  cases o with
  | none => exact related_pure (R := OrSame R) rfl
  | some a => exact h a rfl

theorem related_verifyLive {query : PartnerQuery} (h : PartnerScope A rt app query.wallet)
    (hcaller : SameCaller rt app auth auth') (horg : app.orgId.1 = query.orgId)
    (hslug : ∀ s, query.app = some s → s = app.appSlug) :
    Related A (OrSame (· = ·)) (verifyLive rt auth query).run
      (verifyLive rt auth' query).run := by
  obtain ⟨hnamed, hnamed'⟩ := named_of_caller hcaller hslug
  unfold verifyLive
  rw [hnamed, hnamed', ← horg, hcaller.mode]
  refine related_exceptT_bind
    (related_exceptT_lift (related_evaluateWalletAccess h (named (some app.appSlug)))) ?_
  rintro access access' rfl
  refine related_require_same fun read _ => ?_
  refine related_exceptT_bind (related_ask ServerOp.now) ?_
  intro verifiedAt verifiedAt' hA
  obtain rfl : verifiedAt = verifiedAt' := h.now _ _ hA
  exact related_exceptT_pure rfl

theorem wallet_of_parseWalletAndOrg {params : PartnerParams} {wallet : Text} {orgId : Nat}
    (h : parseWalletAndOrg params = some (wallet, orgId)) : params.wallet = some wallet := by
  unfold parseWalletAndOrg at h
  split at h
  next hwallet horg =>
      cases h
      exact (Option.filter_eq_some_iff.1 hwallet).1
  · cases h

theorem wallet_of_parse {params : PartnerParams} {query : PartnerQuery}
    (h : params.parse = some query) : params.wallet = some query.wallet := by
  unfold PartnerParams.parse at h
  split at h
  · cases h
  next wallet orgId hparse =>
  have hwallet := wallet_of_parseWalletAndOrg hparse
  split at h
  · cases h
    exact hwallet
  · split at h
    · cases h
      exact hwallet
    · cases h

theorem related_rolesVerify {headers : PartnerHeaders} {params : PartnerParams}
    (h : ∀ text, params.wallet = some text → PartnerScope A rt app text)
    {credentials : PartnerCredentials}
    (hread : readPartnerCredentials rt.crypto headers = some credentials)
    (hclientId : app.clientId = some (trimText credentials.clientId)) :
    Related A (· = ·) (rolesVerify rt headers params).run (rolesVerify rt headers params).run := by
  refine Related.same (related_require_same fun query hquery => ?_)
  have hscope : PartnerScope A rt app query.wallet :=
    h _ (wallet_of_parse hquery)
  refine related_exceptT_bind (related_authenticatePartner hscope hread hclientId) ?_
  intro auth auth' hcaller
  refine related_refuseOutOfScope hcaller query.orgId query.app fun horg hslug => ?_
  obtain ⟨hnamed, hnamed'⟩ := named_of_caller hcaller hslug
  rw [hnamed, hnamed', ← horg]
  refine related_exceptT_bind (related_readRefusal hscope) ?_
  rintro refusal refusal' rfl
  cases refusal with
  | none => exact related_verifyLive hscope hcaller horg hslug
  | some refusal =>
      refine related_exceptT_bind (related_ask ServerOp.now) ?_
      intro verifiedAt verifiedAt' hA
      obtain rfl : verifiedAt = verifiedAt' := hscope.now _ _ hA
      exact related_exceptT_pure rfl

theorem related_readAssets {ids : List Nat}
    (h : ∀ id ∈ ids, ∀ r r', A (.readAsset id) r r' → r = r') :
    Related A (OrSame (· = ·)) (readAssets ids).run (readAssets ids).run := by
  induction ids with
  | nil => exact related_exceptT_pure rfl
  | cons id ids ih =>
      have hcall : Related A (OrSame (· = ·)) (call (ServerOp.readAsset id))
          (call (ServerOp.readAsset id)) :=
        (related_call _).mono fun r r' hA => orSame_eq.2 (h id List.mem_cons_self r r' hA)
      refine related_exceptT_bind (related_exceptT_both (related_attempt hcall _)
        (ih fun id hid => h id (List.mem_cons_of_mem _ hid))) ?_
      rintro ⟨asset, assets⟩ ⟨asset', assets'⟩ ⟨hasset, hassets⟩
      obtain rfl : asset = asset' := hasset
      obtain rfl : assets = assets' := hassets
      exact related_exceptT_pure rfl

theorem related_portalAssets {headers : PartnerHeaders} {params : PartnerParams}
    (h : ∀ text, params.wallet = some text → PartnerScope A rt app text)
    {credentials : PartnerCredentials}
    (hread : readPartnerCredentials rt.crypto headers = some credentials)
    (hclientId : app.clientId = some (trimText credentials.clientId)) :
    Related A (· = ·) (portalAssets rt headers params).run
      (portalAssets rt headers params).run := by
  refine Related.same (related_require_same ?_)
  rintro ⟨wallet, orgId⟩ hquery
  have hscope : PartnerScope A rt app wallet :=
    h _ (wallet_of_parseWalletAndOrg hquery)
  refine related_exceptT_bind (related_authenticatePartner hscope hread hclientId) ?_
  intro auth auth' hcaller
  refine related_refuseOutOfScope hcaller orgId none ?_
  rintro rfl -
  obtain ⟨hslug, hslug'⟩ := hcaller.slug
  rw [hslug, hslug']
  refine related_exceptT_bind (related_exceptT_lift (related_evaluateWalletAccess hscope _)) ?_
  rintro access access' rfl
  refine related_require_same fun read _ => ?_
  split
  · exact related_exceptT_pure rfl
  · -- The tokens that are read are those listed.
    have hcall : Related A (OrSame fun ids ids' =>
        ids = ids' ∧ ∀ id ∈ ids, ∀ r r', A (.readAsset id) r r' → r = r')
        (call (ServerOp.readAssetsOfOrganization app.orgId.1))
        (call (ServerOp.readAssetsOfOrganization app.orgId.1)) :=
      (related_call _).mono hscope.listed
    refine related_exceptT_bind (related_attempt (related_onSafe hcall) _) ?_
    rintro ids ids' ⟨rfl, hids⟩
    refine related_exceptT_bind (related_attempt (related_readAssets hids) _) ?_
    rintro records records' rfl
    exact related_exceptT_pure rfl

end Scope

/-! ## Worlds that agree -/

section Worlds

variable {σ : Type} [ERC721 σ] {rt : ServerRuntime} {app : ApplicationRow} {wallet : Option Text}
  {view s s' : ServerState σ}

/-- At the same time both worlds have the same to say of the organization of the application, of its
    row and of the identity of the wallet. -/
structure SameScope (rt : ServerRuntime) (app : ApplicationRow) (wallet : Option Text)
    (view s : ServerState σ) : Prop where
  clock : s.clock = view.clock
  blockTime : s.chain.blockTime = view.chain.blockTime
  organization : SameTenant app.orgId.1 view.chain.world s.chain.world
  row : app ∈ view.applications.rows ∧ app ∈ s.applications.rows
  identity : ∀ text address, wallet = some text → rt.getAddress text = some address →
    s.chain.world.registry.identities address = view.chain.world.registry.identities address

namespace SameScope

theorem findByClientId (h : SameScope rt app wallet view s) {clientId : Text}
    (hclientId : app.clientId = some clientId) :
    s.applications.findByClientId clientId = some app :=
  ApplicationTable.findByClientId_eq_some_iff.2 ⟨h.row.2, hclientId⟩

theorem findByKey (h : SameScope rt app wallet view s) :
    s.applications.findByKey app.key = some app :=
  ApplicationTable.findByKey_eq_some_iff.2 ⟨h.row.2, rfl⟩

theorem readOrganization (h : SameScope rt app wallet view s) :
    s.chain.readOrganization app.orgId.1 = view.chain.readOrganization app.orgId.1 := by
  unfold Chain.readOrganization IdentityRegistry.getOrganization
  rw [h.organization.organization]

theorem readApplicationRegistered (h : SameScope rt app wallet view s) (appId : Bytes32) :
    s.chain.readApplicationRegistered app.orgId.1 appId =
      view.chain.readApplicationRegistered app.orgId.1 appId := by
  unfold Chain.readApplicationRegistered
  rw [h.organization.access.applicationRegistered]

theorem readAssetsOfOrganization (h : SameScope rt app wallet view s) :
    s.chain.readAssetsOfOrganization app.orgId.1 =
      view.chain.readAssetsOfOrganization app.orgId.1 := by
  unfold Chain.readAssetsOfOrganization AssetNFT.assetsOfOrganization
  rw [h.organization.orgAssets]

/-- A token of the organization is read alike. What ethers refuses is refused in both. -/
theorem readAsset (h : SameScope rt app wallet view s) {id : Nat}
    (hid : id ∈ view.chain.readAssetsOfOrganization app.orgId.1) :
    s.chain.readAsset id = view.chain.readAsset id := by
  obtain ⟨token, htoken, rfl⟩ := List.mem_map.1 hid
  unfold Chain.readAsset AssetNFT.getAsset
  by_cases hlarge : 2 ^ 53 ≤ toNumber token
  · simp only [if_pos hlarge]
  · have hsmall : token < 2 ^ 53 := by
      by_contra hle
      exact hlarge (le_toNumber (Nat.le_of_not_lt hle))
    have hsame := h.organization.token token htoken
    rw [toNumber_of_lt hsmall, hsame.asset, hsame.ownerOf]

theorem readIdentity (h : SameScope rt app wallet view s) {text : Text} {address : Address}
    (hwallet : wallet = some text) (haddress : rt.getAddress text = some address) :
    s.chain.readIdentity address = view.chain.readIdentity address := by
  unfold Chain.readIdentity IdentityRegistry.getIdentity
  rw [h.identity text address hwallet haddress]

theorem readMembership (h : SameScope rt app wallet view s) (address : Address) :
    s.chain.readMembership s.clock app.orgId.1 address =
      view.chain.readMembership view.clock app.orgId.1 address := by
  unfold Chain.readMembership OrgAccessManager.getMembership
  rw [h.clock, h.organization.access.memberships]

/-- The wallet has the same access in both. -/
theorem outcome_access (h : SameScope rt app wallet view s) {text : Text} {address : Address}
    (hwallet : wallet = some text) (haddress : rt.getAddress text = some address) {op : ServerOp}
    (hop : op.OfAccess app.orgId.1 address) : s.outcome rt op = view.outcome rt op := by
  have hactive : s.chain.world.registry.isActive address =
      view.chain.world.registry.isActive address := by
    unfold IdentityRegistry.isActive
    rw [h.identity text address hwallet haddress]
  cases op with
  | readOrganization orgId =>
      obtain rfl : orgId = app.orgId.1 := hop
      exact congrArg Except.ok h.readOrganization
  | readIdentity w =>
      obtain rfl : w = address := hop
      exact congrArg Except.ok (h.readIdentity hwallet haddress)
  | readEffectiveRole orgId w =>
      obtain ⟨rfl, rfl⟩ := hop
      simp only [ServerState.outcome, Chain.readEffectiveRole, h.blockTime,
        h.organization.effectiveRole hactive]
  | readMembership orgId w =>
      obtain ⟨rfl, rfl⟩ := hop
      exact congrArg Except.ok (h.readMembership w)
  | readHasPermission orgId w permission =>
      obtain ⟨rfl, rfl⟩ := hop
      simp only [ServerState.outcome, Chain.readHasPermission, h.blockTime,
        h.organization.hasPermission hactive]
  | readApplicationRegistered orgId appId =>
      obtain rfl : orgId = app.orgId.1 := hop
      exact congrArg Except.ok (h.readApplicationRegistered appId)
  | readCanAccessApp orgId w appId =>
      obtain ⟨rfl, rfl⟩ := hop
      simp only [ServerState.outcome, Chain.readCanAccessApp, h.blockTime,
        h.organization.canAccessApp hactive]
  | _ => exact hop.elim

end SameScope

/-- An operation is answered in two worlds that agree with the view. Either nothing fails, or both
    fail in the same way. -/
def AnsweredAlike (rt : ServerRuntime) (app : ApplicationRow) (wallet : Option Text)
    (view : ServerState σ) (op : ServerOp) (r r' : op.Res) : Prop :=
  ∃ s s' after after' : ServerState σ, SameScope rt app wallet view s ∧
    SameScope rt app wallet view s' ∧ s.exec rt op r after ∧ s'.exec rt op r' after' ∧
    (r = s.outcome rt op ∧ r' = s'.outcome rt op ∨ r = r')

/-- What has one outcome in all of these worlds is answered alike. -/
theorem AnsweredAlike.eq {op : ServerOp} {r r' x : op.Res}
    (hx : ∀ s, SameScope rt app wallet view s → s.outcome rt op = x)
    (h : AnsweredAlike rt app wallet view op r r') : r = r' := by
  obtain ⟨s, s', -, -, hs, hs', -, -, ⟨rfl, rfl⟩ | rfl⟩ := h
  · rw [hx s hs, hx s' hs']
  · rfl

theorem partnerScope_of_view {text : Text} (hwallet : wallet = some text) :
    PartnerScope (AnsweredAlike rt app wallet view) rt app text where
  row := by
    rintro clientId hclientId r r' ⟨s, s', _, _, hs, hs', hexec, -, ⟨rfl, rfl⟩ | rfl⟩
    · exact ⟨(hs.findByClientId hclientId).trans (hs'.findByClientId hclientId).symm,
        fun row hrow => Option.some.inj (hrow.symm.trans (hs.findByClientId hclientId))⟩
    · cases r with
      | error e => rfl
      | ok found =>
          have hfound := Except.ok.inj (Prod.mk.inj (Attempt.of_ok hexec)).1
          exact ⟨rfl, fun row hrow =>
            Option.some.inj (hrow.symm.trans (hfound ▸ hs.findByClientId hclientId))⟩
  key := by
    rintro r r' ⟨s, s', _, _, hs, hs', hexec, -, ⟨rfl, rfl⟩ | rfl⟩
    · exact ⟨hs.findByKey.trans hs'.findByKey.symm,
        fun row hrow => Option.some.inj (hrow.symm.trans hs.findByKey)⟩
    · cases r with
      | error e => rfl
      | ok found =>
          have hfound := Except.ok.inj (Prod.mk.inj (Attempt.of_ok hexec)).1
          exact ⟨rfl, fun row hrow => Option.some.inj (hrow.symm.trans (hfound ▸ hs.findByKey))⟩
  callbacks := by
    rintro r r' ⟨s, s', _, _, -, -, -, -, ⟨rfl, rfl⟩ | rfl⟩
    · trivial
    · exact OrSame.refl (fun _ => trivial) r
  organization r r' := AnsweredAlike.eq fun s hs => congrArg Except.ok hs.readOrganization
  registered appId r r' :=
    AnsweredAlike.eq fun s hs => congrArg Except.ok (hs.readApplicationRegistered appId)
  access address haddress op r r' hop :=
    AnsweredAlike.eq fun s hs => hs.outcome_access hwallet haddress hop
  listed := by
    have hread : ∀ id ∈ view.chain.readAssetsOfOrganization app.orgId.1, ∀ r r',
        AnsweredAlike rt app wallet view (.readAsset id) r r' → r = r' :=
      fun id hid r r' => AnsweredAlike.eq fun s hs => hs.readAsset hid
    rintro r r' ⟨s, s', _, _, hs, hs', hexec, -, ⟨rfl, rfl⟩ | rfl⟩
    · exact ⟨hs.readAssetsOfOrganization.trans hs'.readAssetsOfOrganization.symm,
        hs.readAssetsOfOrganization ▸ hread⟩
    · cases r with
      | error e => rfl
      | ok ids =>
          have hids := Except.ok.inj (Prod.mk.inj (Attempt.of_ok hexec)).1
          rw [hs.readAssetsOfOrganization] at hids
          exact ⟨rfl, hids ▸ hread⟩
  now r r' := AnsweredAlike.eq fun s hs => hs.clock

end Worlds

/-! ## Runs -/

section Runs

variable {σ : Type} [ERC721 σ] {rt : ServerRuntime}

/-- Whatever thread `i` asks is answered in a world that agrees with the view. -/
def ServedIn (app : ApplicationRow) (wallet : Option Text) (view : ServerState σ) (i : Nat)
    (ts : List (server σ rt).Transition) : Prop :=
  ∀ t ∈ ts, ∀ op r, t.move = .perform i op r → SameScope rt app wallet view t.before.shared

/-- What fails for one of the two threads fails for the other in the same way. -/
def FailAlike (i i' : Nat) (ts ts' : List (server σ rt).Transition) : Prop :=
  ∀ t ∈ ts, ∀ t' ∈ ts', ∀ op r r', t.move = .perform i op r → t'.move = .perform i' op r' →
    r = t.before.shared.outcome rt op ∧ r' = t'.before.shared.outcome rt op ∨ r = r'

/-- What two such threads have been answered. -/
theorem agree_of_served {ts ts' : List (server σ rt).Transition} {s s' : ServerState σ}
    {c c' : (server σ rt).Config} (h : (server σ rt).Run s ts c) (h' : (server σ rt).Run s' ts' c')
    {app : ApplicationRow} {wallet : Option Text} {view : ServerState σ} {i i' : Nat}
    (hserved : ServedIn app wallet view i ts) (hserved' : ServedIn app wallet view i' ts')
    (hfail : FailAlike i i' ts ts') :
    Agree (AnsweredAlike rt app wallet view) (ownLog i ts) (ownLog i' ts') := by
  intro op r r' hr hr'
  obtain ⟨t, ht, hmove⟩ := mem_ownLog.1 hr
  obtain ⟨t', ht', hmove'⟩ := mem_ownLog.1 hr'
  obtain ⟨-, -, -, -, hexec, -⟩ := Transition.Valid.perform (h.valid t ht) hmove
  obtain ⟨-, -, -, -, hexec', -⟩ := Transition.Valid.perform (h'.valid t' ht') hmove'
  exact ⟨_, _, _, _, hserved t ht op r hmove, hserved' t' ht' op r' hmove', hexec, hexec',
    hfail t ht t' ht' op r r' hmove hmove'⟩

/-- A partner that is let in has presented the secret of an application that is not revoked. -/
theorem credentials_of_authenticated {headers : PartnerHeaders} {auth : PartnerAuth}
    {log : List ((op : ServerOp) × op.Res)} (hproduction : rt.production = true)
    (h : Returns (authenticatePartner rt headers).run log (.ok auth)) :
    ∃ credentials app, readPartnerCredentials rt.crypto headers = some credentials ∧
      ⟨.selectByClientId (trimText credentials.clientId), .ok (some app)⟩ ∈ log ∧
      app.status ≠ .revoked ∧
      verifyClientSecret rt.crypto credentials.clientSecret app.clientSecretHash = true := by
  unfold authenticatePartner at h
  split at h
  · rw [if_pos hproduction] at h
    cases (returns_throw.1 h).2
  next credentials hread =>
      obtain ⟨found, front, back, rfl, hfound, h⟩ := returns_attempt_bind.1 h
      obtain ⟨application, happlication, h⟩ := returns_require_bind.1 h
      obtain ⟨rfl, hstatus, hsecret⟩ := authenticated_eq_some.1 happlication
      obtain ⟨row, callbacks, rfl, rfl⟩ := returns_findApplicationByClientId hfound
      exact ⟨credentials, row, hread, List.mem_append_left _ List.mem_cons_self, hstatus, hsecret⟩

/-- Both endpoints ask for the credentials first. -/
theorem credentials_of_granted {α γ : Type} {params : Option α} {e : ApiError}
    {headers : PartnerHeaders} {rest : α → PartnerAuth → Route γ} {reply : γ}
    {log : List ((op : ServerOp) × op.Res)} (hproduction : rt.production = true)
    (h : Returns (require params e >>= fun query =>
      authenticatePartner rt headers >>= rest query).run log (.ok reply)) :
    ∃ credentials app, readPartnerCredentials rt.crypto headers = some credentials ∧
      ⟨.selectByClientId (trimText credentials.clientId), .ok (some app)⟩ ∈ log ∧
      app.status ≠ .revoked ∧
      verifyClientSecret rt.crypto credentials.clientSecret app.clientSecretHash = true := by
  obtain ⟨query, -, h⟩ := returns_require_bind.1 h
  obtain ⟨auth, front, back, rfl, hauth, -⟩ := returns_exceptT_bind.1 h
  obtain ⟨credentials, app, hread, hselect, hverified⟩ :=
    credentials_of_authenticated hproduction hauth
  exact ⟨credentials, app, hread, List.mem_append_left _ hselect, hverified⟩

/-- A request of a partner, with its headers and parameters. -/
inductive PartnerRequest (headers : PartnerHeaders) (params : PartnerParams) :
    ServerRequest → Prop
  | verify : PartnerRequest headers params (.verify headers params)
  | assets : PartnerRequest headers params (.assets headers params)

/-- It is answered with 200. -/
def ServerRequest.Granted : (req : ServerRequest) → req.Ans → Prop
  | verify .., .ok _ => True
  | assets .., .ok _ => True
  | _, _ => False

/-- In production a partner is answered only with credentials that verify, and the answer depends on
    nothing but the time and what belongs to its own application and organization. -/
theorem partner_scoped (hproduction : rt.production = true) {s : ServerState σ}
    {ts : List (server σ rt).Transition} {c : (server σ rt).Config} (h : (server σ rt).Run s ts c)
    {i : Nat} {headers : PartnerHeaders} {params : PartnerParams} {req : ServerRequest}
    {answer : req.Ans} (hreq : PartnerRequest headers params req) (hi : c.Answers i req answer) :
    (req.Granted answer → ∃ credentials,
      readPartnerCredentials rt.crypto headers = some credentials ∧ ∃ t ∈ ts, ∃ app,
        Authenticates i (trimText credentials.clientId) credentials.clientSecret t app) ∧
    ∀ (s' : ServerState σ) ts' c' i' answer' credentials app view,
      (server σ rt).Run s' ts' c' → c'.Answers i' req answer' →
      readPartnerCredentials rt.crypto headers = some credentials →
      app.clientId = some (trimText credentials.clientId) →
      ServedIn app params.wallet view i ts → ServedIn app params.wallet view i' ts' →
      FailAlike i i' ts ts' → answer = answer' := by
  constructor
  · intro hgranted
    have hcredentials : ∃ credentials app,
        readPartnerCredentials rt.crypto headers = some credentials ∧
        ⟨.selectByClientId (trimText credentials.clientId), .ok (some app)⟩ ∈ ownLog i ts ∧
        app.status ≠ .revoked ∧
        verifyClientSecret rt.crypto credentials.clientSecret app.clientSecretHash = true := by
      cases hreq with
      | verify =>
          cases answer with
          | error e => exact hgranted.elim
          | ok reply => exact credentials_of_granted hproduction (Run.returns h hi)
      | assets =>
          cases answer with
          | error e => exact hgranted.elim
          | ok reply => exact credentials_of_granted hproduction (Run.returns h hi)
    obtain ⟨credentials, app, hread, hselect, hstatus, hsecret⟩ := hcredentials
    obtain ⟨t, ht, hmove, happ, hclientId⟩ := stored_of_selectByClientId h hselect
    exact ⟨credentials, hread, t, ht, app, ⟨_, hmove⟩, happ, hclientId, hstatus, hsecret⟩
  · intro s' ts' c' i' answer' credentials app view h' hi' hread hclientId hserved hserved' hfail
    have hagree := agree_of_served h h' hserved hserved' hfail
    have hscope : ∀ text, params.wallet = some text →
        PartnerScope (AnsweredAlike rt app params.wallet view) rt app text :=
      fun text => partnerScope_of_view
    cases hreq with
    | verify =>
        exact related_rolesVerify hscope hread hclientId _ _ _ _ (Run.returns h hi)
          (Run.returns h' hi') hagree
    | assets =>
        exact related_portalAssets hscope hread hclientId _ _ _ _ (Run.returns h hi)
          (Run.returns h' hi') hagree

end Runs

/-! ## Two tenants -/

/-- Nothing is written, and no random bytes are drawn. -/
def ServerOp.isRead : ServerOp → Bool
  | upsertApplication _ => false
  | updateApplication .. => false
  | deleteCallbacks _ => false
  | insertCallbacks .. => false
  | insertCode _ => false
  | consumeCode _ => false
  | randomBytes _ => false
  | _ => true

/-- A request arrives or something is read. -/
def reading {σ : Type} [ERC721 σ] {rt : ServerRuntime} (t : (server σ rt).Transition) : Bool :=
  match t.move with
  | .arrive _ => true
  | .outside => false
  | .perform _ op _ => op.isRead

/-- While there is only reading, the state stays what it is. -/
theorem shared_eq_of_reading {σ : Type} [ERC721 σ] {rt : ServerRuntime}
    {ts : List (server σ rt).Transition} {c c' : (server σ rt).Config}
    (h : (server σ rt).system.Path c ts c') (hreading : ∀ t ∈ ts, reading t = true) :
    ∀ t ∈ ts, t.before.shared = c.shared := by
  have hinvariant := h.invariant (P := fun c' : (server σ rt).Config => c'.shared = c.shared)
    (fun t ht hv hbefore => by
      have hbefore : t.before.shared = c.shared := hbefore
      show t.after.shared = c.shared
      have hread := hreading t ht
      unfold reading at hread
      cases hmove : t.move with
      | arrive req => exact (Transition.Valid.arrive hv hmove).2.1.trans hbefore
      | outside =>
          rw [hmove] at hread
          cases hread
      | perform k op r =>
          obtain ⟨-, -, -, -, hexec, -⟩ := Transition.Valid.perform hv hmove
          have hexec : ServerState.exec rt t.before.shared op r t.after.shared := hexec
          rw [hmove] at hread
          rcases ServerState.exec_effect hexec with heq | heq
          · exact heq.trans hbefore
          · rw [heq, ← hbefore]
            cases op with
            | _ => first | rfl | cases hread)
    rfl
  exact fun t ht => (hinvariant.2 t ht).1

namespace Sample

/-- Alice's address is spelled in lower case. -/
def partnerRuntime : ServerRuntime :=
  { portalRuntime with
    getAddress := fun text => if text = addressText alice then some alice.1 else none }

def portalHeaders : PartnerHeaders :=
  ⟨none, some portalClientId, some (generateClientSecret (List.replicate 32 1))⟩

def aliceParams : PartnerParams := ⟨some (addressText alice), some "1".toList, none⟩

/-- Bob's organization, with an application. -/
def rivalRow : ApplicationRow :=
  { portalRow with
    orgId := ⟨2, two_safe⟩
    clientId := some (generateClientId (List.replicate 16 9))
    clientSecretHash := none }

/-- Beside Alice's organization there is Bob's. -/
def portalBeside : ServerState Ledger :=
  { portalRegistered with
    chain :=
      { portalRegistered.chain with
        world :=
          { portalRegistered.chain.world with
            registry :=
              { portalRegistered.chain.world.registry with
                organizationCount := 2
                organizations := Function.update
                  portalRegistered.chain.world.registry.organizations 2
                  ⟨6, bob.1, true, 105⟩ } } }
    organizations := [⟨1, one_safe⟩, ⟨2, two_safe⟩]
    applications := ⟨[rivalRow, portalRow], by decide +kernel⟩ }

abbrev partnerPlayer : (server Ledger partnerRuntime).Player := serverPlayer Ledger partnerRuntime

def partnerSteps (steps : Nat) (choice : UInt8) : List partnerPlayer.Cue :=
  List.replicate steps (.perform 0 choice)

/-- The portal asks about Alice. -/
def partnerCues : List partnerPlayer.Cue :=
  .arrive (.verify portalHeaders aliceParams) :: partnerSteps 17 0

/-- What was asked, if it was answered with 200. -/
def answered (c : (server Ledger partnerRuntime).Config) :
    Option (PartnerHeaders × PartnerParams × VerifyReply) :=
  match c.answer? 0 with
  | some ⟨.verify headers params, .ok reply⟩ => some (headers, params, reply)
  | _ => none

theorem answers_of_answered {c : (server Ledger partnerRuntime).Config} {headers : PartnerHeaders}
    {params : PartnerParams} {reply : VerifyReply}
    (h : answered c = some (headers, params, reply)) :
    c.Answers 0 (.verify headers params) (.ok reply) := by
  unfold answered at h
  split at h
  next hanswer =>
      cases h
      exact Config.answers_of_answer? hanswer
  · cases h

/-- In such a run the portal reads all it is answered with from one state. -/
theorem partner_run {s : ServerState Ledger}
    (hplay : (partnerPlayer.play (idle s) partnerCues).bind (fun (ts, c) =>
      (answered c).map fun (headers, params, _) => (ts.all reading, headers, params)) =
        some (true, portalHeaders, aliceParams)) :
    ∃ (ts : List (server Ledger partnerRuntime).Transition)
      (c : (server Ledger partnerRuntime).Config) (reply : VerifyReply),
      (server Ledger partnerRuntime).Run s ts c ∧
        c.Answers 0 (.verify portalHeaders aliceParams) (.ok reply) ∧
        ∀ t ∈ ts, t.before.shared = s ∧ ∀ op r, t.move = .perform 0 op r →
          r = t.before.shared.outcome partnerRuntime op := by
  obtain ⟨⟨ts, c⟩, hplay, hfacts⟩ := Option.bind_eq_some_iff.1 hplay
  obtain ⟨⟨headers, params, reply⟩, hverified, hfacts⟩ := Option.map_eq_some_iff.1 hfacts
  injection hfacts with hreading hasked
  obtain ⟨rfl, rfl⟩ := Prod.mk.inj hasked
  have hreading : ∀ t ∈ ts, reading t = true := List.all_eq_true.1 hreading
  refine ⟨ts, c, reply, Player.play_path hplay, answers_of_answered hverified, fun t ht => ?_⟩
  refine ⟨shared_eq_of_reading (Player.play_path hplay) hreading t ht, fun op r hmove => ?_⟩
  refine result_of_play hplay ht hmove fun size => ?_
  rintro rfl
  have hread := hreading t ht
  unfold reading at hread
  rw [hmove] at hread
  cases hread

/-- Bob's organization and its application are outside the scope of the portal. -/
theorem sameScope_beside :
    SameScope partnerRuntime portalRow aliceParams.wallet portalRegistered portalBeside where
  clock := rfl
  blockTime := rfl
  organization :=
    { organization := by
        have hother : (1 : Nat) ≠ 2 := by decide
        exact Function.update_of_ne hother (⟨6, bob.1, true, 105⟩ : Organization) _
      organizationExists := by decide +kernel
      access := .refl _
      orgAssets := rfl
      token := fun _ _ => .refl _ }
  row := ⟨by decide +kernel, by decide +kernel⟩
  identity := fun _ _ _ _ => rfl

theorem sameScope_registered :
    SameScope partnerRuntime portalRow aliceParams.wallet portalRegistered portalRegistered where
  clock := rfl
  blockTime := rfl
  organization := .refl _
  row := ⟨by decide +kernel, by decide +kernel⟩
  identity := fun _ _ _ _ => rfl

/-- The portal is told the same about Alice, whether Bob has an organization or not. -/
theorem portal_scoped :
    ∃ (ts ts' : List (server Ledger partnerRuntime).Transition)
      (c c' : (server Ledger partnerRuntime).Config) (reply : VerifyReply),
      (server Ledger partnerRuntime).Run portalRegistered ts c ∧
        (server Ledger partnerRuntime).Run portalBeside ts' c' ∧
        c.Answers 0 (.verify portalHeaders aliceParams) (.ok reply) ∧
        c'.Answers 0 (.verify portalHeaders aliceParams) (.ok reply) ∧
        ∃ t ∈ ts, ∃ app, Authenticates 0 portalClientId
          (generateClientSecret (List.replicate 32 1)) t app := by
  obtain ⟨ts, c, reply, hrun, hanswers, hread⟩ := partner_run (s := portalRegistered)
    (by decide +kernel)
  obtain ⟨ts', c', reply', hrun', hanswers', hread'⟩ := partner_run (s := portalBeside)
    (by decide +kernel)
  have hcredentials : readPartnerCredentials partnerRuntime.crypto portalHeaders =
      some ⟨portalClientId, generateClientSecret (List.replicate 32 1)⟩ := by decide +kernel
  obtain ⟨hgranted, hscoped⟩ := partner_scoped rfl hrun .verify hanswers
  have hsame : Except.ok reply = Except.ok reply' :=
    hscoped portalBeside ts' c' 0 (.ok reply')
      ⟨portalClientId, generateClientSecret (List.replicate 32 1)⟩ portalRow portalRegistered hrun'
      hanswers' hcredentials (by decide +kernel)
      (fun t ht _ _ _ => (hread t ht).1 ▸ sameScope_registered)
      (fun t ht _ _ _ => (hread' t ht).1 ▸ sameScope_beside)
      (fun t ht t' ht' op r r' hmove hmove' =>
        .inl ⟨(hread t ht).2 op r hmove, (hread' t' ht').2 op r' hmove'⟩)
  obtain rfl := Except.ok.inj hsame
  obtain ⟨credentials, hpresented, t, ht, app, hauthenticates⟩ := hgranted trivial
  obtain rfl := Option.some.inj (hpresented.symm.trans hcredentials)
  have htrim : trimText portalClientId = portalClientId := by decide +kernel
  rw [htrim] at hauthenticates
  exact ⟨ts, ts', c, c', reply, hrun, hrun', hanswers, hanswers', t, ht, app, hauthenticates⟩

end Sample

end OwneX
