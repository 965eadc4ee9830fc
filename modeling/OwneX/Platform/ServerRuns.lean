import OwneX.Contracts.Runs
import OwneX.Platform.Server

set_option autoImplicit false

/-! # What requests await, and what that does

Which operations each handler can come to await (`only_handler`), and what an operation makes of the
state (`ServerState.exec_effect`). Reads leave the state alone. Only a registration upserts a row,
only an approval inserts a code and only an exchange consumes one. -/

namespace OwneX

open Js JsNumber Prog Interleaving Service

namespace ServerOp

/-- Reads of the chain and of the clock. -/
def OnChain : ServerOp → Prop
  | readOrganization _ => True
  | readIdentity _ => True
  | readEffectiveRole .. => True
  | readMembership .. => True
  | readHasPermission .. => True
  | readApplicationRegistered .. => True
  | readCanAccessApp .. => True
  | now => True
  | _ => False

/-- Everything but the statements that write. -/
def Reads : ServerOp → Prop
  | upsertApplication _ => False
  | updateApplication .. => False
  | deleteCallbacks _ => False
  | insertCallbacks .. => False
  | insertCode _ => False
  | consumeCode _ => False
  | _ => True

theorem OnChain.reads {op : ServerOp} (h : op.OnChain) : op.Reads := by
  cases op <;> trivial

end ServerOp

/-! ## The chain -/

section Chain

variable {P : ServerOp → Prop}

/-- Every read satisfies `P`. -/
structure ChainReads.Awaits (P : ServerOp → Prop)
    (reads : ChainReads (ExceptT String (Prog ServerOp ServerOp.Res))) : Prop where
  readOrganization : ∀ orgId, Only P (reads.readOrganization orgId).run
  readIdentity : ∀ wallet, Only P (reads.readIdentity wallet).run
  readEffectiveRole : ∀ orgId wallet, Only P (reads.readEffectiveRole orgId wallet).run
  readMembership : ∀ orgId wallet, Only P (reads.readMembership orgId wallet).run
  readHasPermission : ∀ orgId wallet permission,
    Only P (reads.readHasPermission orgId wallet permission).run
  readApplicationRegistered : ∀ orgId appId,
    Only P (reads.readApplicationRegistered orgId appId).run
  readCanAccessApp : ∀ orgId wallet appId, Only P (reads.readCanAccessApp orgId wallet appId).run

theorem only_onSafe {α : Type} {orgId : Nat} {read : Prog ServerOp ServerOp.Res (Except String α)}
    (h : Only P read) : Only P (onSafe orgId read).run :=
  only_exceptT_bind (only_refuseIf _ _) fun _ => only_attempt h id

theorem awaits_serverReads : serverReads.Awaits ServerOp.OnChain where
  readOrganization _ := only_onSafe (only_call trivial)
  readIdentity _ := only_attempt (only_call trivial) id
  readEffectiveRole _ _ := only_onSafe (only_call trivial)
  readMembership _ _ := only_onSafe (only_call trivial)
  readHasPermission _ _ _ := only_onSafe (only_call trivial)
  readApplicationRegistered _ _ := only_onSafe (only_call trivial)
  readCanAccessApp _ _ _ := only_onSafe (only_call trivial)

variable {reads : ChainReads (ExceptT String (Prog ServerOp ServerOp.Res))}

theorem ChainReads.Awaits.refusing (h : reads.Awaits P) (error : String) :
    (reads.refusing error).Awaits P where
  readOrganization := h.readOrganization
  readIdentity _ := .done _
  readEffectiveRole _ _ := .done _
  readMembership _ _ := .done _
  readHasPermission _ _ _ := .done _
  readApplicationRegistered := h.readApplicationRegistered
  readCanAccessApp _ _ _ := .done _

theorem only_readPermissionsFor (h : reads.Awaits P) (orgId : Nat) (wallet : Address)
    (ps : List (PermissionKey × Bytes32)) :
    Only P (readPermissionsFor reads orgId wallet ps).run := by
  induction ps with
  | nil => exact only_exceptT_pure _
  | cons p ps ih =>
      refine only_exceptT_bind ?_ fun _ => only_exceptT_pure _
      exact only_exceptT_both (h.readHasPermission orgId wallet p.2) ih

theorem only_evaluateLiveAccess (h : reads.Awaits P) (keccakId : String → Bytes32) (orgId : Nat)
    (wallet : Address) (appSlug : Option String) :
    Only P (evaluateLiveAccess keccakId reads orgId wallet appSlug) := by
  have hread : Only P (readAndDecide (liveReaders keccakId reads orgId wallet appSlug)).run := by
    refine only_exceptT_bind ?_ fun answers => ?_
    · refine only_exceptT_both ?_ (only_exceptT_both ?_ (only_exceptT_both ?_
        (only_exceptT_both ?_ ?_)))
      · exact only_exceptT_bind (h.readOrganization orgId) fun _ => only_exceptT_pure _
      · exact only_exceptT_bind (h.readIdentity wallet) fun _ => only_exceptT_pure _
      · exact h.readEffectiveRole orgId wallet
      · exact only_exceptT_bind (h.readMembership orgId wallet) fun _ => only_exceptT_pure _
      · unfold liveReaders
        cases appSlug with
        | none => exact only_exceptT_pure _
        | some slug =>
            simp only
            split
            · exact only_exceptT_pure _
            · refine only_exceptT_bind ?_ fun _ => only_exceptT_pure _
              exact only_exceptT_both (h.readApplicationRegistered _ _) (h.readCanAccessApp _ _ _)
    · obtain ⟨organization, identity, role, membership, app⟩ := answers
      simp only
      split
      · exact only_exceptT_bind (only_exceptT_pure _) fun _ => only_exceptT_pure _
      · refine only_exceptT_bind ?_ fun _ => only_exceptT_pure _
        refine only_exceptT_bind ?_ fun _ => only_exceptT_pure _
        exact only_readPermissionsFor h orgId wallet permissionList
  refine only_bind hread fun r => ?_
  cases r <;> exact .done _

theorem only_orInternal {α : Type} {read : Await α} (h : Only P read.run) :
    Only P (orInternal read).run := by
  refine only_bind h fun r => ?_
  cases r <;> exact .done _

theorem only_requirePermission (h : reads.Awaits P) (wallet : Option Address) (orgId : Nat)
    (permission : PermissionKey) :
    Only P (requirePermission reads wallet orgId permission).run := by
  refine only_exceptT_bind ?_ fun wallet => ?_
  · refine only_exceptT_bind ?_ fun wallet => ?_
    · cases wallet <;> exact .done _
    · refine only_exceptT_bind (only_orInternal (h.readIdentity wallet)) fun identity => ?_
      simp only
      split
      · exact .done _
      · split <;> exact .done _
  · split
    · exact .done _
    · refine only_exceptT_bind (only_orInternal (h.readHasPermission _ _ _)) fun allowed => ?_
      simp only
      split
      · exact .done _
      · refine only_exceptT_bind (only_orInternal (h.readEffectiveRole _ _)) fun role => ?_
        exact only_exceptT_pure _

theorem only_sessionWallet (session : SessionData) :
    Only ServerOp.OnChain (sessionWallet session) := by
  unfold sessionWallet
  split
  · exact .done _
  · have hnow : Only ServerOp.OnChain (call ServerOp.now : Prog ServerOp ServerOp.Res TimeValue) :=
      only_call trivial
    exact only_bind hnow fun _ => .done _

theorem only_authorize (session : SessionData) (orgId : Nat) (permission : PermissionKey) :
    Only ServerOp.OnChain (authorize session orgId permission).run :=
  only_exceptT_bind (only_exceptT_lift (only_sessionWallet session)) fun wallet =>
    only_requirePermission awaits_serverReads wallet orgId permission

end Chain

/-! ## The registry -/

section Registry

variable {rt : ServerRuntime} {P : ServerOp → Prop}

theorem only_withCallbacks (h : ∀ app, P (.selectCallbacks app)) (found : Option ApplicationRow) :
    Only P (withCallbacks rt found).run := by
  cases found with
  | none => exact only_exceptT_pure _
  | some row =>
      have hselect : Only P
          (call (ServerOp.selectCallbacks row.key) : Prog ServerOp ServerOp.Res _) :=
        only_call (h row.key)
      exact only_exceptT_bind (only_attempt hselect _) fun _ => only_exceptT_pure _

theorem only_findApplicationByClientId (hrow : ∀ clientId, P (.selectByClientId clientId))
    (h : ∀ app, P (.selectCallbacks app)) (clientId : Text) :
    Only P (findApplicationByClientId rt clientId).run := by
  unfold findApplicationByClientId
  split
  · exact only_exceptT_pure _
  · have hselect : Only P
        (call (ServerOp.selectByClientId (trimText clientId)) : Prog ServerOp ServerOp.Res _) :=
      only_call (hrow _)
    exact only_exceptT_bind (only_attempt hselect _) fun _ => only_withCallbacks h _

theorem only_findApplicationBySlug (hrow : ∀ app, P (.selectByKey app))
    (h : ∀ app, P (.selectCallbacks app)) (app : AppKey) :
    Only P (findApplicationBySlug rt app).run := by
  have hselect : Only P (call (ServerOp.selectByKey app) : Prog ServerOp ServerOp.Res _) :=
    only_call (hrow app)
  exact only_exceptT_bind (only_attempt hselect _) fun _ => only_withCallbacks h _

theorem only_resolveAuthorizationRequest (hrow : ∀ clientId, P (.selectByClientId clientId))
    (h : ∀ app, P (.selectCallbacks app)) (clientId : Text) (orgId : Nat) (redirectUri : Text)
    (requireSecret : Bool) :
    Only P (resolveAuthorizationRequest rt clientId orgId redirectUri requireSecret).run :=
  only_exceptT_bind (only_findApplicationByClientId hrow h clientId) fun _ => only_exceptT_pure _

theorem only_replaceCallbacks {app : AppKey} {callbacks : List Text}
    (hdelete : P (.deleteCallbacks app))
    (hinsert : P (.insertCallbacks app (uniqueTrimmed callbacks))) :
    Only P (replaceCallbacks app callbacks).run := by
  have hdeleted : Only P (call (ServerOp.deleteCallbacks app) : Prog ServerOp ServerOp.Res _) :=
    only_call hdelete
  refine only_exceptT_bind (only_attempt hdeleted _) fun _ => ?_
  split
  · exact only_exceptT_pure _
  · have hinserted : Only P
        (call (ServerOp.insertCallbacks app (uniqueTrimmed callbacks)) :
          Prog ServerOp ServerOp.Res _) := only_call hinsert
    exact only_attempt hinserted _

theorem only_clientIdOr (h : ∀ size, P (.randomBytes size)) (existing : Option Text) :
    Only P (clientIdOr existing).run := by
  cases existing with
  | some clientId => exact only_exceptT_pure _
  | none =>
      have hbytes : Only P (ask (ServerOp.randomBytes 16) : Route (List UInt8)).run :=
        only_ask (h 16)
      exact only_exceptT_bind hbytes fun _ => only_exceptT_pure _

theorem only_newSecret (h : ∀ size, P (.randomBytes size)) (hnow : P .now) :
    Only P (newSecret rt).run := by
  have hbytes : ∀ size, Only P (ask (ServerOp.randomBytes size) : Route (List UInt8)).run :=
    fun size => only_ask (h size)
  have hasked : Only P (ask ServerOp.now : Route TimeValue).run := only_ask hnow
  refine only_exceptT_bind (hbytes 32) fun _ => ?_
  refine only_exceptT_bind (hbytes 16) fun _ => ?_
  refine only_exceptT_bind (only_require _ _) fun _ => ?_
  exact only_exceptT_bind hasked fun _ => only_exceptT_pure _

theorem only_newSecretIf (h : ∀ size, P (.randomBytes size)) (hnow : P .now) (issue : Bool) :
    Only P (newSecretIf rt issue).run := by
  unfold newSecretIf
  split
  · exact only_exceptT_bind (only_newSecret h hnow) fun _ => only_exceptT_pure _
  · exact only_exceptT_pure _

end Registry

/-! ## The handlers -/

namespace ServerRequest

variable {rt : ServerRuntime}

/-- The application whose callbacks a request replaces, and what it submits in their place. -/
def submits : ServerRequest → Option (AppKey × List Text)
  | register _ body => some (body.app, body.callbackUrls)
  | patch _ slug body => body.callbackUrls.map fun urls => ((body.orgId, slug.1), urls)
  | _ => none

/-- Which of the statements that write a request may come to await. -/
def MayAwait (req : ServerRequest) : ServerOp → Prop
  | .upsertApplication cols => ∃ session body, req = .register session body ∧ cols.key = body.app
  | .updateApplication app changes =>
      (changes.status = none ∧ ∃ session slug orgId, req = .rotate session slug orgId ∧
        app = (orgId, slug.1)) ∨
      ∃ session slug body, req = .patch session slug body ∧ app = (body.orgId, slug.1) ∧
        changes = body.patch
  | .deleteCallbacks app => ∃ urls, req.submits = some (app, urls)
  | .insertCallbacks app urls =>
      ∃ submitted, req.submits = some (app, submitted) ∧ urls = uniqueTrimmed submitted
  | .insertCode _ => ∃ session form, req = .approve session form
  | .consumeCode query => ∃ body, req = .exchange body ∧ query.code = body.code
  | _ => True

theorem mayAwait_of_reads {req : ServerRequest} {op : ServerOp} (h : op.Reads) :
    req.MayAwait op := by
  cases op <;> trivial

theorem only_register (session : SessionData) (body : RegistrationBody) :
    Only (MayAwait (.register session body)) (registerApplication rt session body).run := by
  refine only_exceptT_bind ((only_authorize _ _ _).mono fun op h => mayAwait_of_reads h.reads)
    fun _ => ?_
  refine only_exceptT_bind (only_refuseIf _ _) fun _ => ?_
  refine only_exceptT_bind (only_attempt (only_findApplicationBySlug (fun _ => trivial)
    (fun _ => trivial) body.app) _) fun existing => ?_
  refine only_exceptT_bind (only_clientIdOr (fun _ => trivial) _) fun clientId => ?_
  refine only_exceptT_bind (only_newSecretIf (fun _ => trivial) trivial _) fun secret => ?_
  have hupsert : Only (MayAwait (.register session body))
      (call (ServerOp.upsertApplication (registrationColumns rt body existing clientId secret)) :
        Prog ServerOp ServerOp.Res _) := only_call ⟨session, body, rfl, rfl⟩
  refine only_exceptT_bind (only_attempt hupsert _) fun _ => ?_
  refine only_exceptT_bind (only_attempt (only_replaceCallbacks ⟨_, rfl⟩ ⟨_, rfl, rfl⟩) _)
    fun _ => ?_
  exact only_exceptT_pure _

theorem only_patch (session : SessionData) (slug : Slug) (body : PatchBody) :
    Only (MayAwait (.patch session slug body)) (patchApplication rt session slug body).run := by
  have hfind : Only (MayAwait (.patch session slug body))
      (findApplicationBySlug rt (body.orgId, slug.1)).run :=
    only_findApplicationBySlug (fun _ => trivial) (fun _ => trivial) _
  refine only_exceptT_bind ((only_authorize _ _ _).mono fun op h => mayAwait_of_reads h.reads)
    fun _ => ?_
  refine only_exceptT_bind (only_attempt hfind _) fun found => ?_
  refine only_require_bind fun existing _ => ?_
  refine only_exceptT_bind (only_refuseIf _ _) fun _ => ?_
  refine only_exceptT_bind ?_ fun _ => ?_
  · unfold updateIf
    split
    · exact only_exceptT_pure _
    · have hupdate : Only (MayAwait (.patch session slug body))
          (call (ServerOp.updateApplication (body.orgId, slug.1) body.patch) :
            Prog ServerOp ServerOp.Res _) :=
        only_call (.inr ⟨session, slug, body, rfl, rfl, rfl⟩)
      exact only_attempt hupdate _
  refine only_exceptT_bind ?_ fun _ => ?_
  · cases hurls : body.callbackUrls with
    | none => exact only_exceptT_pure _
    | some urls =>
        have hsubmits : (ServerRequest.patch session slug body).submits =
            some ((body.orgId, slug.1), urls) :=
          congrArg (Option.map fun urls => ((body.orgId, slug.1), urls)) hurls
        exact only_attempt (only_replaceCallbacks ⟨urls, hsubmits⟩ ⟨urls, hsubmits, rfl⟩) _
  exact only_exceptT_bind (only_attempt hfind _) fun _ => only_exceptT_pure _

theorem only_rotate (session : SessionData) (slug : Slug) (orgId : Nat) :
    Only (MayAwait (.rotate session slug orgId)) (rotateSecret rt session slug orgId).run := by
  refine only_exceptT_bind ((only_authorize _ _ _).mono fun op h => mayAwait_of_reads h.reads)
    fun _ => ?_
  refine only_exceptT_bind (only_attempt (only_findApplicationBySlug (fun _ => trivial)
    (fun _ => trivial) _) _) fun found => ?_
  refine only_require_bind fun existing _ => ?_
  refine only_exceptT_bind (only_clientIdOr (fun _ => trivial) _) fun clientId => ?_
  refine only_exceptT_bind (only_newSecret (fun _ => trivial) trivial) fun secret => ?_
  have hupdate : Only (MayAwait (.rotate session slug orgId))
      (call (ServerOp.updateApplication (orgId, slug.1)
        { credentials := some ⟨clientId, secret.hash, secret.updatedAt⟩ }) :
        Prog ServerOp ServerOp.Res _) :=
    only_call (.inl ⟨rfl, session, slug, orgId, rfl, rfl⟩)
  refine only_exceptT_bind (only_attempt hupdate _) fun _ => ?_
  have hnow : Only (MayAwait (.rotate session slug orgId)) (ask ServerOp.now : Route TimeValue).run :=
    only_ask trivial
  exact only_exceptT_bind hnow fun _ => only_exceptT_pure _

theorem reads_liveAccess (keccakId : String → Bytes32) (orgId : Nat) (wallet : Address)
    (appSlug : Option String) :
    Only ServerOp.Reads (evaluateLiveAccess keccakId serverReads orgId wallet appSlug) :=
  (only_evaluateLiveAccess awaits_serverReads keccakId orgId wallet appSlug).mono
    fun _ h => h.reads

theorem reads_sessionWallet (session : SessionData) :
    Only ServerOp.Reads (sessionWallet session) :=
  (only_sessionWallet session).mono fun _ h => h.reads

theorem reads_page (session : SessionData) (params : AuthorizeParams) :
    Only ServerOp.Reads (authorizePage rt session params) := by
  unfold authorizePage
  split
  · exact .done _
  next query _ =>
      refine only_bind (only_resolveAuthorizationRequest (fun _ => trivial) (fun _ => trivial)
        _ _ _ _) fun resolved => ?_
      split
      · exact .done _
      · exact .done _
      next application registered =>
          unfold showResolved
          split
          · exact .done _
          next denyUrl _ =>
              refine only_bind (reads_sessionWallet session) fun wallet => ?_
              cases wallet with
              | none => exact .done _
              | some wallet => exact only_bind (reads_liveAccess _ _ _ _) fun _ => .done _

theorem only_approve (session : SessionData) (form : Option ApproveForm) :
    Only (MayAwait (.approve session form)) (OwneX.approve rt session form) := by
  unfold OwneX.approve
  split
  · exact .done _
  next form =>
  split
  · exact .done _
  next query _ =>
  refine only_bind (only_resolveAuthorizationRequest (fun _ => trivial) (fun _ => trivial) _ _ _ _)
    fun resolved => ?_
  split
  · exact .done _
  · exact .done _
  next application registered =>
  refine only_bind ((reads_sessionWallet session).mono fun _ h => mayAwait_of_reads h)
    fun wallet => ?_
  cases wallet with
  | none => exact .done _
  | some wallet =>
      refine only_bind ((reads_liveAccess _ _ _ _).mono fun _ h => mayAwait_of_reads h)
        fun access => ?_
      cases access with
      | chainUnavailable detail => exact .done _
      | ok decision snapshot =>
          simp only
          split
          · exact .done _
          · refine only_bind ?_ fun issued => by cases issued <;> exact .done _
            refine only_exceptT_bind (only_ask trivial) fun issuedAt => ?_
            refine only_exceptT_bind (only_ask trivial) fun bytes => ?_
            refine only_require_bind fun expiresAt _ => ?_
            refine only_exceptT_bind (only_attempt ?_ _) fun _ => only_exceptT_pure _
            exact only_call ⟨session, some form, rfl⟩

theorem only_exchange (body : ExchangeBody) :
    Only (MayAwait (.exchange body)) (OwneX.exchange rt body).run := by
  refine only_exceptT_bind (only_refuseIf _ _) fun _ => ?_
  refine only_exceptT_bind (only_attempt (only_findApplicationByClientId (fun _ => trivial)
    (fun _ => trivial) _) _) fun found => ?_
  refine only_require_bind fun application _ => ?_
  refine only_require_bind fun registered _ => ?_
  refine only_exceptT_bind (only_attempt ?_ _) fun consumed => ?_
  · unfold consumeAuthorizationCode
    split
    · exact only_exceptT_pure _
    · refine only_exceptT_bind (only_ask trivial) fun now => ?_
      exact only_attempt (only_call ⟨body, rfl, rfl⟩) _
  refine only_require_bind fun grant _ => ?_
  refine only_exceptT_bind (only_refuseIf _ _) fun _ => ?_
  refine only_exceptT_bind (only_exceptT_lift ((reads_liveAccess _ _ _ _).mono
    fun _ h => mayAwait_of_reads h)) fun access => ?_
  refine only_require_bind fun read _ => ?_
  refine only_exceptT_bind (only_refuseIf _ _) fun _ => ?_
  exact only_exceptT_bind (only_ask trivial) fun _ => only_exceptT_pure _

theorem reads_walletAccess (orgId : Nat) (wallet : Text) (appSlug : Option String) :
    Only ServerOp.Reads (evaluateWalletAccess rt orgId wallet appSlug) := by
  unfold evaluateWalletAccess
  split
  · exact reads_liveAccess _ _ _ _
  · exact (only_evaluateLiveAccess (awaits_serverReads.refusing _) _ _ _ _).mono
      fun _ h => h.reads

theorem reads_authenticatePartner (headers : PartnerHeaders) :
    Only ServerOp.Reads (authenticatePartner rt headers).run := by
  unfold authenticatePartner
  split
  · split
    · exact .done _
    · exact only_exceptT_pure _
  · refine only_exceptT_bind (only_attempt (only_findApplicationByClientId (fun _ => trivial)
      (fun _ => trivial) _) _) fun found => ?_
    exact only_require_bind fun application _ => only_exceptT_pure _

theorem reads_refuseOutOfScope (auth : PartnerAuth) (orgId : Nat) (app : Option String) :
    Only ServerOp.Reads (refuseOutOfScope auth orgId app).run := by
  unfold refuseOutOfScope
  split
  · exact only_exceptT_pure _
  · exact .done _

theorem reads_readRefusal (orgId : Nat) (slug : Option String) :
    Only ServerOp.Reads (readRefusal rt orgId slug).run := by
  cases slug with
  | none => exact only_exceptT_pure _
  | some slug =>
      exact only_exceptT_bind (only_attempt (only_findApplicationBySlug (fun _ => trivial)
        (fun _ => trivial) _) _) fun _ => only_exceptT_pure _

theorem reads_verify (headers : PartnerHeaders) (params : PartnerParams) :
    Only ServerOp.Reads (rolesVerify rt headers params).run := by
  have hnow : Only ServerOp.Reads (ask ServerOp.now : Route TimeValue).run := only_ask trivial
  refine only_require_bind fun query _ => ?_
  refine only_exceptT_bind (reads_authenticatePartner headers) fun auth => ?_
  refine only_exceptT_bind (reads_refuseOutOfScope _ _ _) fun _ => ?_
  refine only_exceptT_bind (reads_readRefusal _ _) fun refusal => ?_
  split
  · exact only_exceptT_bind hnow fun _ => only_exceptT_pure _
  · refine only_exceptT_bind (only_exceptT_lift (reads_walletAccess _ _ _)) fun access => ?_
    refine only_require_bind fun read _ => ?_
    exact only_exceptT_bind hnow fun _ => only_exceptT_pure _

theorem reads_readAssets (ids : List Nat) : Only ServerOp.Reads (readAssets ids).run := by
  induction ids with
  | nil => exact only_exceptT_pure _
  | cons id ids ih =>
      have hasset : Only ServerOp.Reads (call (ServerOp.readAsset id) :
          Prog ServerOp ServerOp.Res _) := only_call trivial
      exact only_exceptT_bind (only_exceptT_both (only_attempt hasset _) ih) fun _ =>
        only_exceptT_pure _

theorem reads_assets (headers : PartnerHeaders) (params : PartnerParams) :
    Only ServerOp.Reads (portalAssets rt headers params).run := by
  refine only_require_bind fun query _ => ?_
  refine only_exceptT_bind (reads_authenticatePartner headers) fun auth => ?_
  refine only_exceptT_bind (reads_refuseOutOfScope _ _ _) fun _ => ?_
  refine only_exceptT_bind (only_exceptT_lift (reads_walletAccess _ _ _)) fun access => ?_
  refine only_require_bind fun read _ => ?_
  split
  · exact only_exceptT_pure _
  · have hids : Only ServerOp.Reads (call (ServerOp.readAssetsOfOrganization query.2) :
        Prog ServerOp ServerOp.Res _) := only_call trivial
    refine only_exceptT_bind (only_attempt (only_onSafe hids) _) fun ids => ?_
    exact only_exceptT_bind (only_attempt (reads_readAssets ids) _) fun _ => only_exceptT_pure _

/-- Which statements that write each handler can come to await. -/
theorem only_handler (req : ServerRequest) : Only req.MayAwait (req.handler rt) := by
  cases req with
  | register session body => exact only_register session body
  | patch session slug body => exact only_patch session slug body
  | rotate session slug orgId => exact only_rotate session slug orgId
  | page session params => exact (reads_page session params).mono fun _ h => mayAwait_of_reads h
  | approve session form => exact only_approve session form
  | exchange body => exact only_exchange body
  | verify headers params => exact (reads_verify headers params).mono fun _ h => mayAwait_of_reads h
  | assets headers params => exact (reads_assets headers params).mono fun _ h => mayAwait_of_reads h

end ServerRequest

/-! ## The state -/

namespace ServerState

variable {σ : Type} [ERC721 σ] {rt : ServerRuntime}

/-- What an operation makes of the state when it is performed. -/
def effect (s : ServerState σ) : ServerOp → ServerState σ
  | .upsertApplication cols =>
      { s with applications := (s.applications.upsert s.organizations cols).2 }
  | .updateApplication app patch =>
      { s with applications := (s.applications.update app patch).2 }
  | .deleteCallbacks app => { s with callbacks := s.callbacks.delete app }
  | .insertCallbacks app urls =>
      { s with callbacks := (s.callbacks.insert s.applications app urls).2 }
  | .insertCode row => { s with codes := (s.codes.insert row).2 }
  | .consumeCode query => { s with codes := (s.codes.consume query).2 }
  | _ => s

/-- An operation is performed, or nothing happens. -/
theorem exec_effect {s s' : ServerState σ} {op : ServerOp} {r : op.Res} (h : s.exec rt op r s') :
    s' = s ∨ s' = s.effect op := by
  have hattempt : ∀ {α : Type} {outcome : Except String α × ServerState σ} {r : Except String α},
      Attempt s outcome r s' → s' = s ∨ s' = outcome.2 :=
    fun hattempt => hattempt.keeps (P := fun s' => s' = s ∨ s' = _) (.inl rfl) (.inr rfl)
  cases op with
  | now => exact .inl h.2
  | randomBytes size => exact .inl h.2
  | _ => exact hattempt h

/-- The rows of `applications` change by the two statements that write them. -/
theorem exec_applications {s s' : ServerState σ} {op : ServerOp} {r : op.Res}
    (h : s.exec rt op r s') :
    s'.applications = s.applications ∨
      (∃ cols, op = .upsertApplication cols ∧
        s'.applications = (s.applications.upsert s.organizations cols).2) ∨
      ∃ app patch, op = .updateApplication app patch ∧
        s'.applications = (s.applications.update app patch).2 := by
  rcases exec_effect h with rfl | rfl
  · exact .inl rfl
  · cases op with
    | upsertApplication cols => exact .inr (.inl ⟨cols, rfl, rfl⟩)
    | updateApplication app patch => exact .inr (.inr ⟨app, patch, rfl, rfl⟩)
    | _ => exact .inl rfl

/-- The rows of `authorization_codes` change by the two statements that write them. -/
theorem exec_codes {s s' : ServerState σ} {op : ServerOp} {r : op.Res} (h : s.exec rt op r s') :
    s'.codes = s.codes ∨ (∃ row, op = .insertCode row ∧ s'.codes = (s.codes.insert row).2) ∨
      ∃ query, op = .consumeCode query ∧ s'.codes = (s.codes.consume query).2 := by
  rcases exec_effect h with rfl | rfl
  · exact .inl rfl
  · cases op with
    | insertCode row => exact .inr (.inl ⟨row, rfl, rfl⟩)
    | consumeCode query => exact .inr (.inr ⟨query, rfl, rfl⟩)
    | _ => exact .inl rfl

/-- What an operation results in when nothing fails. -/
def outcome (rt : ServerRuntime) (s : ServerState σ) : (op : ServerOp) → op.Res
  | .readOrganization orgId => .ok (s.chain.readOrganization orgId)
  | .readIdentity wallet => .ok (s.chain.readIdentity wallet)
  | .readEffectiveRole orgId wallet => .ok (s.chain.readEffectiveRole orgId wallet)
  | .readMembership orgId wallet => .ok (s.chain.readMembership s.clock orgId wallet)
  | .readHasPermission orgId wallet permission =>
      .ok (s.chain.readHasPermission orgId wallet permission)
  | .readApplicationRegistered orgId appId => .ok (s.chain.readApplicationRegistered orgId appId)
  | .readCanAccessApp orgId wallet appId => .ok (s.chain.readCanAccessApp orgId wallet appId)
  | .readAssetsOfOrganization orgId => .ok (s.chain.readAssetsOfOrganization orgId)
  | .readAsset tokenId => s.chain.readAsset tokenId
  | .selectByClientId clientId => .ok (s.applications.findByClientId clientId)
  | .selectByKey app => .ok (s.applications.findByKey app)
  | .selectCallbacks app => .ok (s.callbacks.select rt.collate app)
  | .upsertApplication cols => (s.applications.upsert s.organizations cols).1
  | .updateApplication app patch => (s.applications.update app patch).1
  | .deleteCallbacks _ => .ok ()
  | .insertCallbacks app urls => (s.callbacks.insert s.applications app urls).1
  | .insertCode row => (s.codes.insert row).1
  | .consumeCode query => .ok (s.codes.consume query).1
  | .now => s.clock
  | .randomBytes size => List.replicate size 0

/-- It is what the operation may result in. -/
theorem exec_outcome (rt : ServerRuntime) (s : ServerState σ) (op : ServerOp) :
    s.exec rt op (s.outcome rt op) (s.effect op) := by
  cases op with
  | now => exact ⟨rfl, rfl⟩
  | randomBytes size => exact ⟨List.length_replicate, rfl⟩
  | _ => exact .inl rfl

end ServerState

/-! ## Alone -/

/-- The wallet of a session, on a server that tells the time. -/
theorem alone_sessionWallet {S : Type} {answer : S → (op : ServerOp) → op.Res × S} {s : S}
    {dateNow : TimeValue} (hnow : answer s .now = (dateNow, s)) (session : SessionData) :
    alone answer (sessionWallet session) s = (session.walletAt dateNow, s) := by
  unfold sessionWallet
  split
  next hnone =>
      -- Without a wallet or a date there is no session.
      have hwallet : session.walletAt dateNow = none := by
        unfold SessionData.walletAt
        cases hissued : session.issuedAt with
        | none => rfl
        | some issuedAt =>
            rw [hissued] at hnone
            simp only [Option.all_some, Bool.or_eq_true, Option.isNone_iff_eq_none,
              decide_eq_true_eq] at hnone
            rcases hnone with hnone | hzero
            · rw [hnone]
              simp
            · simp [hzero]
      rw [hwallet]
      rfl
  · refine (alone_bind answer (call ServerOp.now) _ s).trans ?_
    rw [alone_call, hnow]
    rfl

theorem onSafe_safeInt {α : Type} (orgId : SafeInt)
    (read : Prog ServerOp ServerOp.Res (Except String α)) :
    onSafe orgId.1 read = attempt read id := by
  have hsafe : decide (2 ^ 53 ≤ orgId.1) = false := decide_eq_false (by have := orgId.2; omega)
  unfold onSafe
  rw [hsafe]
  rfl

/-! ## What a thread has read -/

section Runs

variable {σ : Type} [ERC721 σ] {rt : ServerRuntime} {ts : List (server σ rt).Transition}
  {s : ServerState σ} {c : (server σ rt).Config}

/-- A row that a thread has found by its client id was stored at that moment. -/
theorem stored_of_selectByClientId (h : (server σ rt).Run s ts c) {i : Nat} {clientId : Text}
    {row : ApplicationRow}
    (hread : ⟨.selectByClientId clientId, .ok (some row)⟩ ∈ ownLog i ts) :
    ∃ t ∈ ts, t.move = .perform i (.selectByClientId clientId) (.ok (some row)) ∧
      row ∈ t.before.shared.applications.rows ∧ row.clientId = some clientId := by
  obtain ⟨t, ht, hmove⟩ := mem_ownLog.1 hread
  obtain ⟨-, -, -, -, hexec, -⟩ := Transition.Valid.perform (h.valid t ht) hmove
  have hfound := Except.ok.inj (Prod.mk.inj (Attempt.of_ok hexec)).1
  exact ⟨t, ht, hmove, ApplicationTable.mem_of_findByClientId hfound⟩

/-- A callback that a thread has read was stored at that moment. -/
theorem stored_of_selectCallbacks (h : (server σ rt).Run s ts c) {i : Nat} {app : AppKey}
    {callbacks : List Text} (hread : ⟨.selectCallbacks app, .ok callbacks⟩ ∈ ownLog i ts)
    {url : Text} (hurl : url ∈ callbacks) :
    ∃ t ∈ ts, t.move = .perform i (.selectCallbacks app) (.ok callbacks) ∧
      ⟨app, url⟩ ∈ t.before.shared.callbacks.rows := by
  obtain ⟨t, ht, hmove⟩ := mem_ownLog.1 hread
  obtain ⟨-, -, -, -, hexec, -⟩ := Transition.Valid.perform (h.valid t ht) hmove
  have hselected := Except.ok.inj (Prod.mk.inj (Attempt.of_ok hexec)).1
  exact ⟨t, ht, hmove, CallbackTable.mem_select.1 (hselected ▸ hurl)⟩

end Runs

/-! ## Scripted runs -/

/-- Nothing fails; random bytes are all the same, as the cue says. The chain and the clock change as
    the cue says. -/
def serverPlayer (σ : Type) [ERC721 σ] (rt : ServerRuntime) : (server σ rt).Player where
  Choice := UInt8
  Event := Chain σ × TimeValue
  perform := fun (s : ServerState σ) op choice =>
    match op with
    | .randomBytes size => some (List.replicate size choice, s)
    | op => some (s.outcome rt op, s.effect op)
  outside := fun (s : ServerState σ) event =>
    if s.clock.1 ≤ event.2.1 then some { s with chain := event.1, clock := event.2 } else none
  admits := fun _ _ => true
  perform_sound := by
    intro s op choice r s' h
    cases op with
    | randomBytes size =>
        cases h
        exact ⟨List.length_replicate, rfl⟩
    | now =>
        cases h
        exact ⟨rfl, rfl⟩
    | _ =>
        cases h
        exact .inl rfl
  outside_sound := by
    intro s event s' h
    split at h
    next hle =>
        cases h
        exact ⟨hle, List.Subset.refl _, rfl, rfl, rfl⟩
    · cases h
  admits_sound := fun _ => trivial

/-! ## Alice's portal -/

namespace Sample

def portalCallback : Text := "https://portal.example/callback".toList

/-- A server in production that knows one URL. A digest is the salt and the secret. -/
def portalRuntime : ServerRuntime where
  production := true
  crypto :=
    { scrypt := fun secret salt _ _ _ _ => some (salt ++ secret.map fun c => UInt8.ofNat c.toNat)
      toUtf8 := fun bytes => bytes.map fun b => Char.ofNat b.toNat }
  parse s :=
    if s = portalCallback then
      some ⟨"https:".toList, [], [], "portal.example".toList, [], "/callback".toList, [], []⟩
    else none
  keccakId slug := if slug = "portal" then 7 else 8
  getAddress _ := none
  collate _ _ := true

/-- Organization 1 has no applications yet. -/
def portalStart : ServerState Ledger where
  chain := ⟨after [], 200⟩
  clock := ⟨1700000000000, start_le⟩
  organizations := [⟨1, one_safe⟩]
  applications := .empty
  callbacks := .empty
  codes := .empty

def aliceSession : SessionData := ⟨some alice.1, some 1699999000⟩

def portalSlug : Slug := ⟨"portal", by decide⟩

def portalApp : AppKey := (1, "portal")

def portalBody : RegistrationBody where
  orgId := 1
  slug := portalSlug
  name := "Portal".toList
  url := "https://portal.example".toList
  description := none
  logoUrl := none
  callbackUrls := [portalCallback]
  allowedRoles := [.admin]

abbrev portalServer : Service := server Ledger portalRuntime

abbrev portalPlayer : portalServer.Player := serverPlayer Ledger portalRuntime

/-- A thread performs so many operations. -/
def portalSteps (thread steps : Nat) (choice : UInt8) : List portalPlayer.Cue :=
  List.replicate steps (.perform thread choice)

/-- The client id of the portal, behind a space. -/
def paddedClientId : Text :=
  ' ' :: generateClientId (List.replicate 16 1)

def paddedForm : ApproveForm where
  clientId := some (.text paddedClientId)
  orgId := some (.text "1".toList)
  redirectUri := some (.text portalCallback)
  state := some (.text "12345678".toList)

end Sample

end OwneX
