import OwneX.Contracts.WellFormed
import OwneX.Library.JsLiterals
import OwneX.Platform.IntegrationStage
import OwneX.Platform.LiveAccess
import OwneX.Platform.Redemption

set_option autoImplicit false

/-! # Whether an active integration can sign anybody in

The stage counts what the endpoints check one by one. It counts callbacks, and they ask for one that
the environment's transport rules let through and that is a URL as it is stored. It looks for a
digest, and the exchange for a secret that has it. It does not look for the client id, by which both
endpoints find the application at all. `Connectable` is what is left out: an integration shown as
active lets a holder of an allowed role in just where it is connectable. -/

namespace OwneX

open Js JsNumber Prog

variable {σ : Type} [ERC721 σ] {rt : ServerRuntime}

/-! ## What is said -/

omit [ERC721 σ] in
/-- `ch'` is `ch` but for who has an identity and who is a member. -/
structure Chain.SamePolicy (ch ch' : Chain σ) : Prop where
  blockTime : ch'.blockTime = ch.blockTime
  organizations : ch'.world.registry.organizations = ch.world.registry.organizations
  organizationCount : ch'.world.registry.organizationCount = ch.world.registry.organizationCount
  permissionOverride : ch'.world.access.permissionOverride = ch.world.access.permissionOverride
  applicationRegistered :
    ch'.world.access.applicationRegistered = ch.world.access.applicationRegistered
  appRoleAccess : ch'.world.access.appRoleAccess = ch.world.access.appRoleAccess

/-- A moment at which the same applications are stored, and may do the same on the chain. -/
structure ServerState.SameConfiguration (s s' : ServerState σ) : Prop where
  applications : s'.applications = s.applications
  callbacks : s'.callbacks = s.callbacks
  policy : s.chain.SamePolicy s'.chain

/-- What the server answers when nothing fails and nobody else is around. -/
def ServerState.respond (rt : ServerRuntime) (bytes : List UInt8) (s : ServerState σ) :
    (op : ServerOp) → op.Res × ServerState σ
  | .randomBytes _ => (bytes, s)
  | op => (s.outcome rt op, s.effect op)

/-- The wallet completes the flow: it approves at some redirect URI and gets a code, and the code is
    exchanged, with the credentials of the application, for claims. -/
def SignsIn (rt : ServerRuntime) (s : ServerState σ) (app : RegisteredApplication)
    (wallet : Address) : Prop :=
  ∃ (session : SessionData) (form : ApproveForm) (bytes : List UInt8) (target : Url)
    (params : List (Text × Text)) (s' : ServerState σ) (body : ExchangeBody)
    (claims : PartnerClaims) (s'' : ServerState σ),
    session.wallet = some wallet ∧ app.clientId = some body.clientId ∧
      form.clientId = some (.text body.clientId) ∧
      form.redirectUri = some (.text body.redirectUri) ∧ bytes.length = 32 ∧
      alone (ServerState.respond rt bytes) (approve rt session (some form)) s =
        (.redirect target, s') ∧
      target.params? = some params ∧ ("code".toList, body.code) ∈ params ∧
      alone (ServerState.respond rt bytes) (exchange rt body).run s' = (.ok claims, s'')

/-- Some role is allowed for the application on the chain, and a wallet with an active identity that
    effectively holds it could sign in. Whether anybody holds it now is not asked. -/
def CouldSignIn (rt : ServerRuntime) (s : ServerState σ) (orgId : Nat)
    (app : RegisteredApplication) : Prop :=
  ∃ role ∈ ASSIGNABLE_ROLES, s.chain.readRoleAccess orgId app.appId role = true ∧
    ∃ (s' : ServerState σ) (wallet : Address), s.SameConfiguration s' ∧
      s'.chain.world.registry.isActive wallet = true ∧
      s'.chain.world.effectiveRole s'.chain.blockTime orgId wallet = roleHash role ∧
      SignsIn rt s' app wallet

/-- The application has a client id, some secret has its digest, and some redirect URI is answered
    at a stored callback. -/
structure Connectable (rt : ServerRuntime) (app : RegisteredApplication) (callbacks : List Text) :
    Prop where
  clientId : app.clientId ≠ none
  secret : ∃ secret, lengthBetween 16 512 secret = true ∧
    verifyClientSecret rt.crypto secret app.clientSecretHash = true
  callback : ∃ uri normalized registered, lengthBetween 8 2048 uri = true ∧
    checkCallback rt.parse (some ⟨app.status, callbacks⟩) (some uri) rt.callbackMode =
      .ok (normalized, registered) ∧
    rt.parse registered ≠ none

/-! ## A sign-in needs a connectable application -/

/-- An approval that redirects has matched a callback, and the callback is a URL. -/
theorem redirect_of_approve {session : SessionData} {form : ApproveForm}
    {log : List ((op : ServerOp) × op.Res)} {target : Url}
    (h : Returns (approve rt session (some form)) log (.redirect target)) :
    ∃ query app callbacks normalized registered, form.parse = .ok query ∧
      ⟨.selectByClientId (trimText query.clientId), .ok (some app)⟩ ∈ log ∧
      ⟨.selectCallbacks app.key, .ok callbacks⟩ ∈ log ∧
      checkCallback rt.parse (some ⟨app.status, callbacks⟩) (some query.redirectUri)
        rt.callbackMode = .ok (normalized, registered) ∧
      rt.parse registered ≠ none := by
  obtain ⟨submitted, query, application, registered, front, rest, hform, hparse, rfl, hresolved,
    h⟩ := resolved_of_approve h
  cases hform
  obtain ⟨found, front', back, hfront, hfind, hresolve⟩ := returns_exceptT_bind.1 hresolved
  obtain ⟨hback, hresolve⟩ := returns_exceptT_pure.1 hresolve
  obtain ⟨rfl, -, -, -, normalized, hcallback⟩ := resolveApplication_ok hresolve
  obtain ⟨app, callbacks, rfl, hfound⟩ := returns_findApplicationByClientId hfind
  obtain ⟨code, error, hbuilt, -⟩ := redirect_of_approveResolved h
  obtain ⟨callback, hurl, -⟩ := Option.map_eq_some_iff.1 hbuilt
  subst hfound hback hfront
  exact ⟨query, app, callbacks, normalized, registered, hparse, by simp, by simp, hcallback,
    by simp [hurl]⟩

theorem wellFormed_of_exchange {body : ExchangeBody} {log : List ((op : ServerOp) × op.Res)}
    {claims : PartnerClaims} (h : Returns (exchange rt body).run log (.ok claims)) :
    body.wellFormed = true := by
  obtain ⟨hwell, -⟩ := returns_refuseIf_bind.1 h
  simpa using hwell

/-- Neither endpoint writes to the registry. -/
theorem respond_sameRegistry {bytes : List UInt8} {s s' : ServerState σ} {op : ServerOp}
    (hop : op.leavesRegistry = true) (h : s.SameRegistry s') :
    s.SameRegistry (s'.respond rt bytes op).2 := by
  have hstep : s'.SameRegistry (s'.respond rt bytes op).2 := by
    refine ServerState.effect_sameRegistry hop ?_
    cases op with
    | randomBytes size => exact .inl rfl
    | _ => exact .inr rfl
  obtain ⟨h₁, h₂, h₃, h₄⟩ := h
  obtain ⟨h₁', h₂', h₃', h₄'⟩ := hstep
  exact ⟨h₁'.trans h₁, h₂'.trans h₂, h₃'.trans h₃, h₄'.trans h₄⟩

/-- What the two endpoints read of the registry, alone, is what is stored. -/
theorem reads_of_alone {bytes : List UInt8} {s s₀ : ServerState σ} {req : ServerRequest}
    (hreq : ∀ op, req.MayAwait op → op.leavesRegistry = true) (hs : s₀.SameRegistry s) :
    s₀.SameRegistry (alone (ServerState.respond rt bytes) (req.handler rt) s).2 ∧
      ∃ log, Returns (req.handler rt) log
          (alone (ServerState.respond rt bytes) (req.handler rt) s).1 ∧
        (∀ clientId row, ⟨.selectByClientId clientId, .ok (some row)⟩ ∈ log →
          row ∈ s₀.applications.rows ∧ row.clientId = some clientId) ∧
        ∀ key callbacks, ⟨.selectCallbacks key, .ok callbacks⟩ ∈ log →
          callbacks = s₀.callbacks.select rt.collate key := by
  have honly : Only req.MayAwait (req.handler rt) := ServerRequest.only_handler req
  have hanswer : ∀ (s : ServerState σ) op, req.MayAwait op → s₀.SameRegistry s →
      s₀.SameRegistry (s.respond rt bytes op).2 :=
    fun s op hop hs => respond_sameRegistry (hreq op hop) hs
  obtain ⟨hkept, log, hreturns, hlog⟩ := returns_alone hanswer honly hs
  refine ⟨hkept, log, hreturns, ?_, ?_⟩
  · intro clientId row hmem
    obtain ⟨s', hsame, hr⟩ := hlog _ _ hmem
    have hfound : s'.applications.findByClientId clientId = some row := (Except.ok.inj hr).symm
    rw [hsame.2.2.1] at hfound
    exact ApplicationTable.mem_of_findByClientId hfound
  · intro key callbacks hmem
    obtain ⟨s', hsame, hr⟩ := hlog _ _ hmem
    have hread : callbacks = s'.callbacks.select rt.collate key := Except.ok.inj hr
    rw [hread, hsame.2.2.2]

/-- An approval and an exchange write codes only. -/
theorem leavesRegistry_of_signIn {req : ServerRequest}
    (hreq : (∃ session form, req = .approve session form) ∨ ∃ body, req = .exchange body)
    {op : ServerOp} (h : req.MayAwait op) : op.leavesRegistry = true := by
  have hsubmits : req.submits = none := by
    rcases hreq with ⟨_, _, rfl⟩ | ⟨_, rfl⟩ <;> rfl
  cases op with
  | upsertApplication cols =>
      obtain ⟨_, _, rfl, -⟩ := h
      rcases hreq with ⟨_, _, hreq⟩ | ⟨_, hreq⟩ <;> cases hreq
  | updateApplication app patch =>
      rcases h with ⟨-, _, _, _, rfl, -⟩ | ⟨_, _, _, rfl, -⟩ <;>
        rcases hreq with ⟨_, _, hreq⟩ | ⟨_, hreq⟩ <;> cases hreq
  | deleteCallbacks app =>
      obtain ⟨_, hsome⟩ := h
      cases hsubmits.symm.trans hsome
  | insertCallbacks app urls =>
      obtain ⟨_, hsome, -⟩ := h
      cases hsubmits.symm.trans hsome
  | _ => rfl

/-- Both endpoints have found the row of the application, and have matched the same callback. -/
theorem connectable_of_signsIn {s : ServerState σ} {row : ApplicationRow}
    (hrow : row ∈ s.applications.rows) {callbacks : List Text} {wallet : Address}
    (h : SignsIn rt s (toRecord rt row callbacks) wallet) :
    Connectable rt (toRecord rt row callbacks) (s.callbacks.select rt.collate row.key) := by
  obtain ⟨session, form, bytes, target, params, s', body, claims, s'', -, hclientId, hform, huri, -,
    happrove, -, -, hexchange⟩ := h
  have hclientId : row.clientId = some body.clientId := hclientId
  -- A stored client id has no white space around it.
  have htrim : trimText body.clientId = body.clientId :=
    trimText_of_isClientId (ApplicationTable.isClientId_of_mem hrow hclientId)
  have hfound : ∀ row', row' ∈ s.applications.rows → row'.clientId = some body.clientId →
      row' = row := fun row' hrow' hid =>
    KeyedList.eq_of_nodup_filterMap s.applications.lawful.clientIdKey hrow' hrow hid hclientId
  -- What the approval has read.
  have hfirst := @reads_of_alone σ _ rt bytes _ _ _
    (fun op => leavesRegistry_of_signIn (.inl ⟨session, some form, rfl⟩))
    (⟨rfl, rfl, rfl, rfl⟩ : s.SameRegistry s)
  have happroved : alone (ServerState.respond rt bytes)
      ((ServerRequest.approve session (some form)).handler rt) s =
        (.redirect target, s') := happrove
  rw [happroved] at hfirst
  obtain ⟨hsame, log, hreturns, hrows, hcallbacks⟩ := hfirst
  obtain ⟨query, app, stored, normalized, registered, hparse, hselect, hstored, hcallback, hurl⟩ :=
    redirect_of_approve hreturns
  obtain ⟨hgivenId, hgivenUri, -⟩ := parseAuthorizeQuery_ok hparse
  rw [hform] at hgivenId
  rw [huri] at hgivenUri
  have hqueryId : body.clientId = query.clientId := Option.some.inj hgivenId
  have hqueryUri : body.redirectUri = query.redirectUri := Option.some.inj hgivenUri
  obtain ⟨happ, hid⟩ := hrows _ _ hselect
  rw [← hqueryId, htrim] at hid
  obtain rfl := hfound app happ hid
  obtain rfl := hcallbacks _ _ hstored
  -- What the exchange has read.
  have hsecond := @reads_of_alone σ _ rt bytes _ _ _
    (fun op => leavesRegistry_of_signIn (.inr ⟨body, rfl⟩)) hsame
  have hexchanged : alone (ServerState.respond rt bytes)
      ((ServerRequest.exchange body).handler rt) s' = (.ok claims, s'') := hexchange
  rw [hexchanged] at hsecond
  obtain ⟨-, log', hreturns', hrows', -⟩ := hsecond
  obtain ⟨row', stored', normalized', registered', usedAt, grant, access, decision, snapshot,
    verifiedAt, -, hsecret, -, -, -, -, -, -, hlog'⟩ := exchange_ok hreturns'
  obtain ⟨hrow', hid'⟩ := hrows' (trimText body.clientId) row' (by rw [hlog']; simp)
  rw [htrim] at hid'
  obtain rfl := hfound row' hrow' hid'
  have hwell := wellFormed_of_exchange hreturns'
  unfold ExchangeBody.wellFormed at hwell
  simp only [Bool.and_eq_true] at hwell
  exact
    { clientId := by simp [toRecord, hclientId]
      secret := ⟨body.clientSecret, hwell.1.1.2, hsecret⟩
      callback := ⟨body.redirectUri, normalized, registered, hwell.2, hqueryUri ▸ hcallback, hurl⟩ }

/-! ## What the endpoints do alone -/

section Alone

variable {bytes : List UInt8} {s : ServerState σ}

theorem alone_findApplicationByClientId {row : ApplicationRow} (hrow : row ∈ s.applications.rows)
    {clientId : Text} (hid : row.clientId = some clientId) (htrim : trimText clientId = clientId)
    (hne : clientId ≠ []) :
    alone (ServerState.respond rt bytes) (findApplicationByClientId rt clientId).run s =
      (.ok (some (toRecord rt row (s.callbacks.select rt.collate row.key))), s) := by
  have hselect : alone (ServerState.respond rt bytes)
      (call (ServerOp.selectByClientId clientId) : Prog ServerOp ServerOp.Res _) s =
        (.ok (some row), s) := by
    rw [alone_call]
    refine Prod.ext ?_ rfl
    exact congrArg Except.ok (ApplicationTable.findByClientId_eq_some_iff.2 ⟨hrow, hid⟩)
  have hcallbacks : alone (ServerState.respond rt bytes) (readCallbacks row.key).run s =
      (.ok (s.callbacks.select rt.collate row.key), s) := by
    have hread : alone (ServerState.respond rt bytes)
        (call (ServerOp.selectCallbacks row.key) : Prog ServerOp ServerOp.Res _) s =
          (.ok (s.callbacks.select rt.collate row.key), s) := rfl
    exact alone_attempt hread _
  unfold findApplicationByClientId
  rw [htrim, if_neg hne, alone_exceptT_bind (alone_attempt hselect _)]
  exact alone_exceptT_bind hcallbacks _

/-- A read of the chain is answered from its state. -/
theorem alone_onSafe {α : Type} (orgId : SafeInt)
    {read : Prog ServerOp ServerOp.Res (Except String α)} {a : α}
    (h : alone (ServerState.respond rt bytes) read s = (.ok a, s)) :
    alone (ServerState.respond rt bytes) (onSafe orgId.1 read).run s = (.ok a, s) := by
  rw [onSafe_safeInt]
  exact alone_attempt h id

theorem alone_readPermissionsFor (orgId : SafeInt) (wallet : Address)
    (ps : List (PermissionKey × Bytes32)) :
    ∃ granted, alone (ServerState.respond rt bytes)
      (readPermissionsFor serverReads orgId.1 wallet ps).run s = (.ok granted, s) := by
  induction ps with
  | nil => exact ⟨[], rfl⟩
  | cons p ps ih =>
      obtain ⟨granted, hrest⟩ := ih
      have hread : alone (ServerState.respond rt bytes)
          (serverReads.readHasPermission orgId.1 wallet p.2).run s = (.ok _, s) :=
        alone_onSafe orgId rfl
      exact ⟨_, alone_exceptT_bind (alone_exceptT_both hread hrest) _⟩

/-- The live evaluation, alone, decides on one state of the chain. -/
theorem alone_evaluateLiveAccess (orgId : SafeInt) (wallet : Address) (slug : String) :
    ∃ snapshot, alone (ServerState.respond rt bytes)
        (evaluateLiveAccess rt.keccakId serverReads orgId.1 wallet (some slug)) s =
      (.ok (decideAccess (s.chain.snapshot s.clock orgId.1 wallet
        (s.chain.appReads rt.keccakId orgId.1 wallet (some slug)))) snapshot, s) := by
  have horganization : alone (ServerState.respond rt bytes)
      (liveReaders rt.keccakId serverReads orgId.1 wallet (some slug)).organization.run s =
        (.ok ((s.chain.readOrganization orgId.1).map (·.active)), s) :=
    alone_exceptT_bind (alone_onSafe orgId rfl) _
  have hidentity : alone (ServerState.respond rt bytes)
      (liveReaders rt.keccakId serverReads orgId.1 wallet (some slug)).identity.run s =
        (.ok ((s.chain.readIdentity wallet).registered, (s.chain.readIdentity wallet).active), s) :=
    alone_exceptT_bind (alone_attempt rfl id) _
  have hrole : alone (ServerState.respond rt bytes)
      (liveReaders rt.keccakId serverReads orgId.1 wallet (some slug)).role.run s =
        (.ok (s.chain.readEffectiveRole orgId.1 wallet), s) :=
    alone_onSafe orgId rfl
  have hmembership : ∃ membership : MembershipTimes,
      membership.expired = (s.chain.readMembership s.clock orgId.1 wallet).expired ∧
        alone (ServerState.respond rt bytes)
          (liveReaders rt.keccakId serverReads orgId.1 wallet (some slug)).membership.run s =
            (.ok membership, s) :=
    ⟨_, rfl, alone_exceptT_bind (alone_onSafe orgId rfl) _⟩
  have happ : ∃ app : Option AppAccess,
      app.map (fun app => (app.registered, app.allowed)) =
        s.chain.appReads rt.keccakId orgId.1 wallet (some slug) ∧
      alone (ServerState.respond rt bytes)
        (liveReaders rt.keccakId serverReads orgId.1 wallet (some slug)).app.run s =
          (.ok app, s) := by
    unfold Chain.appReads liveReaders
    by_cases hslug : slug = ""
    · simp only [hslug, if_true]
      exact ⟨none, rfl, rfl⟩
    · simp only [hslug, if_false]
      have hregistered : alone (ServerState.respond rt bytes)
          (serverReads.readApplicationRegistered orgId.1 (rt.keccakId slug)).run s =
            (.ok (s.chain.readApplicationRegistered orgId.1 (rt.keccakId slug)), s) :=
        alone_onSafe orgId rfl
      have hallowed : alone (ServerState.respond rt bytes)
          (serverReads.readCanAccessApp orgId.1 wallet (rt.keccakId slug)).run s =
            (.ok (s.chain.readCanAccessApp orgId.1 wallet (rt.keccakId slug)), s) :=
        alone_onSafe orgId rfl
      exact ⟨some ⟨slug, rt.keccakId slug, _, _⟩, rfl,
        alone_exceptT_bind (alone_exceptT_both hregistered hallowed) _⟩
  obtain ⟨membership, hexpired, hmembership⟩ := hmembership
  obtain ⟨app, happReads, happ⟩ := happ
  obtain ⟨granted, hgranted⟩ :=
    @alone_readPermissionsFor σ _ rt bytes s orgId wallet permissionList
  have hread : ∃ snapshot, alone (ServerState.respond rt bytes)
      (readAndDecide (liveReaders rt.keccakId serverReads orgId.1 wallet (some slug))).run s =
        (.ok (.ok (decideAccess (s.chain.snapshot s.clock orgId.1 wallet
          (s.chain.appReads rt.keccakId orgId.1 wallet (some slug)))) snapshot), s) := by
    unfold readAndDecide
    rw [alone_exceptT_bind (alone_exceptT_both horganization (alone_exceptT_both hidentity
      (alone_exceptT_both hrole (alone_exceptT_both hmembership happ))))]
    rw [← happReads]
    unfold Chain.snapshot
    rw [← hexpired, Option.map_map, Option.map_map]
    dsimp only
    -- Only a wallet with a role is asked for its permissions.
    split
    · exact ⟨_, rfl⟩
    · exact ⟨_, alone_exceptT_bind (alone_exceptT_bind hgranted _) _⟩
  obtain ⟨snapshot, hread⟩ := hread
  refine ⟨snapshot, ?_⟩
  unfold evaluateLiveAccess evaluateAccess
  rw [alone_bind, hread]
  rfl

/-- The row of the code that an approval issues. -/
def issuedRow (bytes : List UInt8) (clientId : Text) (app : RegisteredApplication)
    (wallet : Address) (registered : Text) (expiresAt : TimeValue) : CodeRow where
  code := generateAuthorizationCode bytes
  clientId := clientId
  appSlug := app.slug
  orgId := app.orgId
  walletAddress := wallet
  redirectUri := registered
  expiresAt := expiresAt
  usedAt := none

theorem alone_approve {session : SessionData} {form : ApproveForm} {query : AuthorizeQuery}
    {app : RegisteredApplication} {registered : Text} {wallet : Address} {expiresAt : TimeValue}
    (hparse : form.parse = .ok query)
    (hfind : alone (ServerState.respond rt bytes)
      (findApplicationByClientId rt query.clientId).run s = (.ok (some app), s))
    (hresolve : resolveApplication rt (some app) query.orgId query.redirectUri false =
      .ok (app, registered))
    (hwallet : session.walletAt s.clock = some wallet)
    (hallowed : (decideAccess (s.chain.snapshot s.clock app.orgId.1 wallet
      (s.chain.appReads rt.keccakId app.orgId.1 wallet (some app.slug)))).allowed = true)
    (hexpires : later s.clock AUTHORIZATION_CODE_TTL_MS = some expiresAt)
    (hinsert : (s.codes.insert
      (issuedRow bytes query.clientId app wallet registered expiresAt)).1 = .ok ()) :
    alone (ServerState.respond rt bytes) (approve rt session (some form)) s =
      (redirectTo rt query registered (some (generateAuthorizationCode bytes)) none,
        { s with codes := (s.codes.insert
          (issuedRow bytes query.clientId app wallet registered expiresAt)).2 }) := by
  obtain ⟨-, horg, -⟩ := resolveApplication_ok hresolve
  have hresolved : alone (ServerState.respond rt bytes)
      (resolveAuthorizationRequest rt query.clientId query.orgId query.redirectUri false).run s =
        (.ok (.ok (app, registered)), s) := by
    unfold resolveAuthorizationRequest
    rw [alone_exceptT_bind hfind, hresolve]
    rfl
  obtain ⟨snapshot, haccess⟩ :=
    @alone_evaluateLiveAccess σ _ rt bytes s app.orgId wallet app.slug
  have hissue : alone (ServerState.respond rt bytes)
      (issueAuthorizationCode (grantInput query app registered wallet)).run s =
        (.ok (generateAuthorizationCode bytes), { s with codes := (s.codes.insert
          (issuedRow bytes query.clientId app wallet registered expiresAt)).2 }) := by
    have hlater : alone (ServerState.respond rt bytes)
        (require (later s.clock AUTHORIZATION_CODE_TTL_MS) "Invalid time value" : Await _).run s =
          (.ok expiresAt, s) := by
      rw [hexpires]
      rfl
    have hstored : alone (ServerState.respond rt bytes)
        (call (ServerOp.insertCode
          (issuedRow bytes query.clientId app wallet registered expiresAt)) :
            Prog ServerOp ServerOp.Res _) s =
        (.ok (), { s with codes := (s.codes.insert
          (issuedRow bytes query.clientId app wallet registered expiresAt)).2 }) :=
      Prod.ext hinsert rfl
    unfold issueAuthorizationCode
    refine (alone_exceptT_bind (alone_ask ServerOp.now) _).trans ?_
    refine (alone_exceptT_bind (alone_ask (ServerOp.randomBytes 32)) _).trans ?_
    refine (alone_exceptT_bind hlater _).trans ?_
    exact alone_exceptT_bind (alone_attempt hstored _) _
  unfold approve
  simp only [hparse]
  rw [alone_bind, hresolved]
  dsimp only
  unfold approveResolved
  have hsession : alone (ServerState.respond rt bytes) (sessionWallet session) s =
      (session.walletAt s.clock, s) := alone_sessionWallet rfl session
  rw [alone_bind, hsession, hwallet]
  dsimp only
  rw [alone_bind, ← horg, haccess]
  dsimp only
  rw [hallowed, Bool.not_true, if_neg Bool.false_ne_true, alone_bind, hissue]
  rfl

/-- A code that has just been stored is exchanged. -/
theorem alone_exchange {body : ExchangeBody} {app : RegisteredApplication}
    {normalized registered : Text} {row : CodeRow} (hwell : body.wellFormed = true)
    (hfind : alone (ServerState.respond rt bytes)
      (findApplicationByClientId rt body.clientId).run s = (.ok (some app), s))
    (hstatus : app.status ≠ .revoked)
    (hsecret : verifyClientSecret rt.crypto body.clientSecret app.clientSecretHash = true)
    (hcallback : checkCallback rt.parse (some app.subject) (some body.redirectUri)
      rt.callbackMode = .ok (normalized, registered))
    (hrow : row ∈ s.codes.rows)
    (hconsumable : CodeTable.consumable ⟨body.code, body.clientId, registered, s.clock⟩ row = true)
    (horg : row.orgId = app.orgId) (hslug : row.appSlug = app.slug)
    (hallowed : (decideAccess (s.chain.snapshot s.clock row.orgId.1 row.walletAddress
      (s.chain.appReads rt.keccakId row.orgId.1 row.walletAddress (some row.appSlug)))).allowed =
        true) :
    ∃ claims s', alone (ServerState.respond rt bytes) (exchange rt body).run s =
      (.ok claims, s') := by
  have hauthenticated : authenticated rt (some app) body.clientSecret = some app :=
    authenticated_eq_some.2 ⟨rfl, hstatus, hsecret⟩
  have haccepted : acceptedCallback rt app body.redirectUri = some registered := by
    unfold acceptedCallback
    rw [hcallback]
  have hlong : ¬ utf16Length body.code < 32 := by
    unfold ExchangeBody.wellFormed lengthBetween at hwell
    simp only [Bool.and_eq_true, decide_eq_true_eq] at hwell
    omega
  have hconsume : alone (ServerState.respond rt bytes)
      (consumeAuthorizationCode body.code body.clientId registered).run s =
        (.ok (some row.grant), { s with codes :=
          (s.codes.consume ⟨body.code, body.clientId, registered, s.clock⟩).2 }) := by
    have hupdate : alone (ServerState.respond rt bytes)
        (call (ServerOp.consumeCode ⟨body.code, body.clientId, registered, s.clock⟩) :
          Prog ServerOp ServerOp.Res _) s =
        (.ok (some row.grant), { s with codes :=
          (s.codes.consume ⟨body.code, body.clientId, registered, s.clock⟩).2 }) :=
      Prod.ext (congrArg Except.ok (CodeTable.consume_of_mem hrow hconsumable)) rfl
    unfold consumeAuthorizationCode
    rw [if_neg hlong]
    refine (alone_exceptT_bind (alone_ask ServerOp.now) _).trans ?_
    exact alone_attempt hupdate _
  have hbound : (row.grant.orgId != app.orgId || row.grant.appSlug != app.slug) = false := by
    simp [CodeRow.grant, horg, hslug]
  obtain ⟨snapshot, haccess⟩ := @alone_evaluateLiveAccess σ _ rt bytes
    { s with codes := (s.codes.consume ⟨body.code, body.clientId, registered, s.clock⟩).2 }
    row.orgId row.walletAddress row.appSlug
  unfold exchange
  rw [hwell, Bool.not_true, refuseIf_false_bind, alone_exceptT_bind (alone_attempt hfind _),
    hauthenticated, require_some_bind, haccepted, require_some_bind,
    alone_exceptT_bind (alone_attempt hconsume _), require_some_bind, hbound, refuseIf_false_bind]
  refine ⟨buildPartnerClaims (addressText row.walletAddress) row.orgId.1 snapshot s.clock,
    { s with codes := (s.codes.consume ⟨body.code, body.clientId, registered, s.clock⟩).2 },
    (alone_exceptT_bind (alone_exceptT_lift haccess) _).trans ?_⟩
  unfold EvaluatedAccess.read?
  rw [require_some_bind, hallowed, Bool.not_true, refuseIf_false_bind]
  exact alone_exceptT_bind (alone_ask ServerOp.now) _

end Alone

/-! ## A connectable application signs in -/

theorem positiveInt_toDigits {n : Nat} (hpos : 0 < n) (hsafe : n < 2 ^ 53) :
    positiveInt (Nat.toDigits 10 n) = some n := by
  unfold positiveInt
  rw [number_toDigits, Option.bind_some, Literal.toNat?_self hsafe]
  simp [hpos]

/-- A stored callback may be stored with a code. -/
theorem isRedirectUri_of_storable {s : Text} (h : isStorableCallback s = true) :
    CodeTable.isRedirectUri s = true := by
  unfold isStorableCallback isHttpText at h
  unfold CodeTable.isRedirectUri isHttpText
  simp only [Bool.and_eq_true, List.any_eq_true] at h ⊢
  obtain ⟨⟨⟨found, hfound, hrest⟩, -⟩, -⟩ := h
  refine ⟨found, hfound, ?_⟩
  cases found with
  | none => cases hrest
  | some rest =>
      simp only [Option.any_some, Bool.and_eq_true, List.all_eq_true] at hrest ⊢
      exact ⟨hrest.1, fun c hc => (hrest.2 c hc).1.1⟩

theorem CodeTable.insert_fresh {table : CodeTable} {row : CodeRow}
    (hfresh : row.code ∉ table.rows.map CodeRow.code)
    (huri : CodeTable.isRedirectUri row.redirectUri = true) :
    (table.insert row).1 = .ok () ∧ row ∈ (table.insert row).2.rows := by
  unfold CodeTable.insert
  rw [dif_neg hfresh, huri]
  exact ⟨rfl, List.mem_append_right _ (List.mem_singleton_self row)⟩

theorem redirectTo_code {query : AuthorizeQuery} {registered code : Text} {url : Url}
    (hurl : rt.parse registered = some url) (hcode : code ≠ []) :
    ∃ target params, redirectTo rt query registered (some code) none = .redirect target ∧
      target.params? = some params ∧ ("code".toList, code) ∈ params := by
  have hbuilt : buildCallbackRedirect rt.parse registered
      { code := some code, error := none, state := query.state } =
        some ({ url with search := [], hash := [] }.withParams
          (RedirectParams.toList { code := some code, error := none, state := query.state })) := by
    unfold buildCallbackRedirect
    rw [hurl, Option.map_some]
  have hread := Url.params?_withParams { url with search := [], hash := [] }
    (RedirectParams.toList { code := some code, error := none, state := query.state })
  refine ⟨_, _, ?_, hread, ?_⟩
  · unfold redirectTo
    rw [hbuilt]
  · simp [RedirectParams.toList, hcode]

/-- The consent form of a request, with a state of eight characters. -/
def consentForm (clientId : Text) (orgId : Nat) (redirectUri : Text) : ApproveForm where
  clientId := some (.text clientId)
  orgId := some (.text (Nat.toDigits 10 orgId))
  redirectUri := some (.text redirectUri)
  state := some (.text "12345678".toList)

theorem parse_consentForm {clientId redirectUri : Text} {orgId : SafeInt}
    (hclientId : lengthBetween 8 128 clientId = true) (horg : 0 < orgId.1)
    (huri : lengthBetween 8 2048 redirectUri = true) :
    (consentForm clientId orgId.1 redirectUri).parse =
      .ok ⟨clientId, orgId.1, redirectUri, "12345678".toList⟩ := by
  have hstate : lengthBetween 8 512 "12345678".toList = true := by decide
  unfold consentForm ApproveForm.parse parseAuthorizeQuery
  simp only [Option.bind_some, FormValue.text?, Option.filter, hclientId, huri, hstate, if_true,
    positiveInt_toDigits horg orgId.2]

/-- The session of a wallet that has just signed in. -/
def freshSession (wallet : Address) (dateNow : TimeValue) : SessionData :=
  ⟨some wallet, some (dateNow.1 / 1000 + 1)⟩

theorem walletAt_freshSession (wallet : Address) (dateNow : TimeValue) :
    (freshSession wallet dateNow).walletAt dateNow = some wallet := by
  unfold freshSession SessionData.walletAt
  simp only [Nat.add_eq_zero_iff, Nat.one_ne_zero, and_false, false_or]
  rw [if_neg (by omega)]

theorem resolve_of_checkCallback {app : RegisteredApplication} {uri normalized registered : Text}
    (h : checkCallback rt.parse (some app.subject) (some uri) rt.callbackMode =
      .ok (normalized, registered)) :
    resolveApplication rt (some app) app.orgId.1 uri false = .ok (app, registered) := by
  have hstatus : app.status ≠ .revoked := (checkCallback_ok h).1
  unfold resolveApplication
  simp [hstatus, h]

/-- At any moment at which a code can be issued, a wallet that may use a connectable application
    signs in. -/
theorem signsIn_of_connectable {s : ServerState σ} {row : ApplicationRow}
    (hrow : row ∈ s.applications.rows) {callbacks : List Text}
    (h : Connectable rt (toRecord rt row callbacks) (s.callbacks.select rt.collate row.key))
    (horg : 0 < row.orgId.1) {wallet : Address}
    (hallowed : (decideAccess (s.chain.snapshot s.clock row.orgId.1 wallet
      (s.chain.appReads rt.keccakId row.orgId.1 wallet (some row.appSlug)))).allowed = true)
    {bytes : List UInt8} (hbytes : bytes.length = 32)
    (hfresh : generateAuthorizationCode bytes ∉ s.codes.rows.map CodeRow.code)
    {expiresAt : TimeValue} (hexpires : later s.clock AUTHORIZATION_CODE_TTL_MS = some expiresAt) :
    SignsIn rt s (toRecord rt row callbacks) wallet := by
  obtain ⟨hclientId, ⟨secret, hsecretLength, hsecret⟩, uri, normalized, registered, huri, hcallback,
    hurl⟩ := h
  obtain ⟨clientId, hid⟩ := Option.ne_none_iff_exists'.1 hclientId
  have hid : row.clientId = some clientId := hid
  obtain ⟨url, hurl⟩ := Option.ne_none_iff_exists'.1 hurl
  have hformat := ApplicationTable.isClientId_of_mem hrow hid
  have htrim := trimText_of_isClientId hformat
  have hne : clientId ≠ [] := by
    rintro rfl
    cases hformat
  -- The approval stores a code under the matching callback.
  have hcodeLength : utf16Length (generateAuthorizationCode bytes) = 43 := utf16Length_code hbytes
  have hstored : isStorableCallback registered = true :=
    s.callbacks.lawful.urlCheck _ (CallbackTable.mem_select.1 (checkCallback_ok hcallback).2)
  have hcode : generateAuthorizationCode bytes ≠ [] := by
    intro hnil
    rw [hnil] at hcodeLength
    cases hcodeLength
  let app := toRecord rt row (s.callbacks.select rt.collate row.key)
  let issued := issuedRow bytes clientId app wallet registered expiresAt
  obtain ⟨hinsert, hissued⟩ :=
    @CodeTable.insert_fresh s.codes issued hfresh (isRedirectUri_of_storable hstored)
  obtain ⟨target, params, hredirect, hparams, hmem⟩ :=
    @redirectTo_code rt ⟨clientId, row.orgId.1, uri, "12345678".toList⟩ _ _ _ hurl hcode
  have happrove := alone_approve
    (parse_consentForm (lengthBetween_clientId hformat) horg huri)
    (alone_findApplicationByClientId hrow hid htrim hne) (resolve_of_checkCallback hcallback)
    (walletAt_freshSession wallet s.clock) hallowed hexpires hinsert
  rw [hredirect] at happrove
  -- The exchange presents it at the same redirect URI, with the secret.
  let body : ExchangeBody := ⟨clientId, secret, generateAuthorizationCode bytes, uri⟩
  have hwell : body.wellFormed = true := by
    have hlength : lengthBetween 32 512 (generateAuthorizationCode bytes) = true := by
      unfold lengthBetween
      rw [hcodeLength]
      rfl
    unfold ExchangeBody.wellFormed
    rw [lengthBetween_clientId hformat, hsecretLength, hlength, huri]
    rfl
  have hlater : s.clock.1 < expiresAt.1 := by
    rw [later_eq_some hexpires]
    exact Nat.lt_add_of_pos_right (by decide)
  have hconsumable : CodeTable.consumable
      ⟨generateAuthorizationCode bytes, clientId, registered, s.clock⟩ issued = true :=
    CodeTable.consumable_iff.2 ⟨rfl, rfl, rfl, rfl, hlater⟩
  let s' : ServerState σ := { s with codes := (s.codes.insert issued).2 }
  have hfind : alone (ServerState.respond rt bytes)
      (findApplicationByClientId rt body.clientId).run s' = (.ok (some app), s') :=
    alone_findApplicationByClientId (show row ∈ s'.applications.rows from hrow) hid htrim hne
  obtain ⟨claims, s'', hexchange⟩ := alone_exchange hwell hfind (checkCallback_ok hcallback).1
    hsecret hcallback hissued hconsumable rfl rfl hallowed
  exact ⟨freshSession wallet s.clock, consentForm clientId row.orgId.1 uri, bytes, target, params,
    s', body, claims, s'', rfl, hid, rfl, rfl, hbytes, happrove, hparams, hmem, hexchange⟩

/-! ## A wallet that holds an allowed role -/

namespace Chain

omit [ERC721 σ] in
/-- The chain with `wallet` as a member of the organization. -/
def enroll (ch : Chain σ) (orgId : Nat) (wallet : Address) (role : Bytes32) : Chain σ :=
  { ch with world :=
    { ch.world with
      registry := ch.world.registry.setIdentity wallet
        { identityHash := 1#256, exists_ := true, active := true }
      access :=
        { ch.world.access with
          memberships := Storage.set₂ ch.world.access.memberships orgId wallet { role } } } }

variable {ch : Chain σ} {orgId : Nat} {wallet : Address}

omit [ERC721 σ] in
theorem samePolicy_enroll (ch : Chain σ) (orgId : Nat) (wallet : Address) (role : Bytes32) :
    ch.SamePolicy (ch.enroll orgId wallet role) where
  blockTime := rfl
  organizations := rfl
  organizationCount := rfl
  permissionOverride := rfl
  applicationRegistered := rfl
  appRoleAccess := rfl

omit [ERC721 σ] in
theorem isActive_enroll (role : Bytes32) :
    (ch.enroll orgId wallet role).world.registry.isActive wallet = true := by
  simp [enroll, IdentityRegistry.isActive, IdentityRegistry.setIdentity]

omit [ERC721 σ] in
theorem effectiveRole_enroll (hwallet : ch.world.registry.orgRootAdmin orgId ≠ wallet)
    {role : Bytes32} (hrole : role ≠ ROLE_NONE) :
    (ch.enroll orgId wallet role).world.effectiveRole (ch.enroll orgId wallet role).blockTime orgId
      wallet = role := by
  have hactive : (ch.enroll orgId wallet role).world.registry.isActive wallet = true :=
    isActive_enroll role
  have hmember : (ch.enroll orgId wallet role).world.access.memberships orgId wallet = { role } :=
    Storage.set₂_same _ _ _ _
  have hseat : (ch.enroll orgId wallet role).world.registry.orgRootAdmin orgId ≠ wallet := hwallet
  unfold World.effectiveRole OrgAccessManager.effectiveRole
  rw [hactive, if_neg (by simp), if_neg hseat, hmember]
  simp [hrole, Membership.expiredAt]

/-- The platform lets the member in. -/
theorem allowed_enroll (hreach : ch.world.Reachable)
    (horg : ch.world.registry.isOrganizationActive orgId = true)
    (hwallet : ch.world.registry.orgRootAdmin orgId ≠ wallet) {role : RoleName}
    (hrole : role ∈ ASSIGNABLE_ROLES) {keccakId : String → Bytes32} {slug : String}
    (hallowed : ch.readRoleAccess orgId (keccakId slug) role = true) (dateNow : TimeValue) :
    (decideAccess ((ch.enroll orgId wallet (roleHash role)).snapshot dateNow orgId wallet
      ((ch.enroll orgId wallet (roleHash role)).appReads keccakId orgId wallet
        (some slug)))).allowed = true := by
  have hnamed : role ≠ .none := by
    rintro rfl
    revert hrole
    decide
  have hhash : roleHash role ≠ ROLE_NONE := by
    intro hnone
    have hname := roleName_roleHash role
    rw [hnone] at hname
    exact hnamed (hname.symm.trans (by decide))
  have heffective := effectiveRole_enroll hwallet hhash
  have hidentity : (ch.enroll orgId wallet (roleHash role)).readIdentity wallet =
      ⟨wallet, true, true, some 1#256, some (toNumber 0)⟩ := by
    simp [readIdentity, enroll, IdentityRegistry.getIdentity, IdentityRegistry.setIdentity]
  have hexpired :
      ((ch.enroll orgId wallet (roleHash role)).readMembership dateNow orgId wallet).expired =
        false := by
    simp [readMembership, enroll, OrgAccessManager.getMembership, toNumber]
  have hread : (ch.enroll orgId wallet (roleHash role)).readEffectiveRole orgId wallet = role := by
    unfold readEffectiveRole
    rw [heffective, roleName_roleHash]
  have hactive := (ch.readOrganization_active orgId hreach.registryInv).2 horg
  -- A role that is allowed is allowed for an application that is registered.
  have hregistered : ch.world.access.applicationRegistered orgId (keccakId slug) = true :=
    hreach.wellFormed.1.appAccess orgId (keccakId slug) (roleHash role) hallowed
  have haccess : (ch.enroll orgId wallet (roleHash role)).readCanAccessApp orgId wallet
      (keccakId slug) = true := by
    refine World.canAccessApp_iff.2 ⟨hregistered, horg, ?_, ?_⟩
    · rw [heffective]
      exact hhash
    · rw [heffective]
      exact hallowed
  refine decideAccess_allowed.2 ⟨hactive, ?_, ?_, hexpired, ?_, ?_⟩
  · exact congrArg IdentityState.registered hidentity
  · exact congrArg IdentityState.active hidentity
  · unfold snapshot
    rw [hread]
    exact hnamed
  · unfold snapshot appReads
    by_cases hslug : slug = ""
    · simp [hslug]
    · have hchecked : (ch.enroll orgId wallet (roleHash role)).readApplicationRegistered orgId
          (keccakId slug) = true := hregistered
      simp [hslug, haccess, hchecked]

end Chain

/-- The moment at which `wallet` is a member and nobody has asked for a code yet. -/
def ServerState.enroll (s : ServerState σ) (orgId : Nat) (wallet : Address) (role : Bytes32) :
    ServerState σ :=
  { s with chain := s.chain.enroll orgId wallet role, clock := ⟨0, Nat.zero_le _⟩, codes := .empty }

/-- Where a role is allowed, a connectable application could sign a holder in. -/
theorem couldSignIn_of_connectable {s : ServerState σ} (hreach : s.chain.world.Reachable)
    {row : ApplicationRow} (hrow : row ∈ s.applications.rows) {callbacks : List Text}
    (horg : s.chain.world.registry.isOrganizationActive row.orgId.1 = true)
    (h : Connectable rt (toRecord rt row callbacks) (s.callbacks.select rt.collate row.key))
    {role : RoleName} (hrole : role ∈ ASSIGNABLE_ROLES)
    (hallowed : s.chain.readRoleAccess row.orgId.1 (rt.keccakId row.appSlug) role = true) :
    CouldSignIn rt s row.orgId.1 (toRecord rt row callbacks) := by
  have hpos : 0 < row.orgId.1 := by
    unfold IdentityRegistry.isOrganizationActive IdentityRegistry.organizationExists at horg
    simp only [Bool.and_eq_true, bne_iff_ne] at horg
    exact Nat.pos_of_ne_zero horg.1.1
  have hhash : roleHash role ≠ ROLE_NONE := by
    revert hrole
    cases role <;> decide
  -- Anybody but the root admin.
  obtain ⟨wallet, hwallet⟩ :
      ∃ wallet, wallet ≠ s.chain.world.registry.orgRootAdmin row.orgId.1 := by
    by_cases hone : 1#160 = s.chain.world.registry.orgRootAdmin row.orgId.1
    · exact ⟨2#160, by rw [← hone]; decide⟩
    · exact ⟨1#160, hone⟩
  let s' := s.enroll row.orgId.1 wallet (roleHash role)
  have hsoon : 0 + AUTHORIZATION_CODE_TTL_MS ≤ 8640000000000000 := by decide
  have hexpires : later s'.clock AUTHORIZATION_CODE_TTL_MS = some ⟨_, hsoon⟩ := dif_pos hsoon
  have hfresh : generateAuthorizationCode (List.replicate 32 0) ∉ s'.codes.rows.map CodeRow.code :=
    List.not_mem_nil
  have hsigns : SignsIn rt s' (toRecord rt row callbacks) wallet :=
    signsIn_of_connectable (show row ∈ s'.applications.rows from hrow) h hpos
      (Chain.allowed_enroll hreach horg hwallet.symm hrole hallowed _) List.length_replicate hfresh
      hexpires
  exact ⟨role, hrole, hallowed, s', wallet,
    ⟨rfl, rfl, s.chain.samePolicy_enroll _ _ _⟩, Chain.isActive_enroll _,
    Chain.effectiveRole_enroll hwallet.symm hhash, hsigns⟩

/-- Who could sign in has a connectable application, at any moment. -/
theorem connectable_of_couldSignIn {s : ServerState σ} {row : ApplicationRow}
    (hrow : row ∈ s.applications.rows) {callbacks : List Text} {orgId : Nat}
    (h : CouldSignIn rt s orgId (toRecord rt row callbacks)) :
    Connectable rt (toRecord rt row callbacks) (s.callbacks.select rt.collate row.key) := by
  obtain ⟨role, -, -, s', wallet, hsame, -, -, hsigns⟩ := h
  have hconnectable := connectable_of_signsIn (hsame.applications ▸ hrow) hsigns
  rwa [hsame.callbacks] at hconnectable

theorem secretHash_ne_none {app : RegisteredApplication} {callbacks : List Text}
    (h : Connectable rt app callbacks) : app.clientSecretHash ≠ none := by
  intro hnone
  obtain ⟨secret, -, hverify⟩ := h.secret
  rw [hnone] at hverify
  unfold verifyClientSecret at hverify
  split at hverify
  · cases hverify
  · cases hverify

/-- An integration that is shown as active could sign a holder of an allowed role in, and no other
    one could, unless everything that the stage counts is there and the application is not
    connectable. -/
theorem active_stage_truthful_iff {s : ServerState σ} (hreach : s.chain.world.Reachable)
    {orgId : Nat} (horg : s.chain.world.registry.isOrganizationActive orgId = true)
    {app : RegisteredApplication}
    (happ : app ∈ listApplicationsForOrg rt s.applications s.callbacks orgId) :
    (integrationStage (s.chain.stageInput orgId app) = .active ↔ CouldSignIn rt s orgId app) ↔
      (app.status ≠ .revoked → s.chain.readApplicationRegistered orgId app.appId = true →
        app.callbacks ≠ [] → app.clientSecretHash ≠ none →
        (∃ role ∈ ASSIGNABLE_ROLES, s.chain.readRoleAccess orgId app.appId role = true) →
        Connectable rt app (s.callbacks.select rt.collate (orgId, app.slug))) := by
  obtain ⟨row, hrow, rfl, rfl⟩ := mem_listApplicationsForOrg.1 happ
  rw [Chain.stage_eq_active]
  constructor
  · intro htruthful hstatus hregistered hcallbacks hhash hroles
    exact connectable_of_couldSignIn hrow
      (htruthful.1 ⟨hregistered, hcallbacks, hhash, hroles, hstatus⟩)
  · intro hcondition
    constructor
    · rintro ⟨hregistered, hcallbacks, hhash, hroles, hstatus⟩
      obtain ⟨role, hrole, hallowed⟩ := hroles
      exact couldSignIn_of_connectable hreach hrow horg
        (hcondition hstatus hregistered hcallbacks hhash ⟨role, hrole, hallowed⟩) hrole hallowed
    · intro hcould
      have hconnectable := connectable_of_couldSignIn hrow hcould
      obtain ⟨role, hrole, hallowed, -⟩ := hcould
      obtain ⟨uri, normalized, registered, -, hcallback, -⟩ := hconnectable.callback
      obtain ⟨hstatus, hmem⟩ := checkCallback_ok hcallback
      refine ⟨hreach.wellFormed.1.appAccess _ _ _ hallowed, ?_, secretHash_ne_none hconnectable,
        ⟨role, hrole, hallowed⟩, hstatus⟩
      exact List.ne_nil_of_mem (mem_callbacksOf.2 (CallbackTable.mem_select.1 hmem))

/-! ## A portal in production that is registered for the developer's machine -/

namespace Sample

def localCallback : Text := "http://localhost:3000/callback".toList

/-- A server in production that knows one URL, on the machine itself. -/
def localRuntime : ServerRuntime :=
  { portalRuntime with
    parse := fun s =>
      if s = localCallback then
        some ⟨"http:".toList, [], [], "localhost".toList, "3000".toList, "/callback".toList, [], []⟩
      else none }

/-- The only callback of the portal is the one of its developers. -/
def portalLocal : ServerState Ledger :=
  { portalRegistered with callbacks := ⟨[⟨portalApp, localCallback⟩], by decide +kernel⟩ }

theorem localCallback_refused {app : CallbackSubject} {uri : Option Text}
    {normalized registered : Text} :
    checkCallback localRuntime.parse (some app) uri localRuntime.callbackMode ≠
      .ok (normalized, registered) := by
  intro hok
  obtain ⟨-, requested, candidate, -, -, -, hcanonical, htransport, -⟩ := checkCallback_ok_iff.1 hok
  unfold canonicalizeCallback at hcanonical
  split at hcanonical
  · cases hcanonical
  next url hurl =>
  -- Every URL that the server knows is on the machine itself.
  have hlocal : url.hostname = "localhost".toList := by
    unfold localRuntime at hurl
    simp only at hurl
    split at hurl
    · cases hurl
      rfl
    · cases hurl
  split at hcanonical
  · cases hcanonical
  · obtain ⟨rfl, -⟩ := Prod.mk.inj (Option.some.inj hcanonical)
    have hloopback : isLoopbackHost url.hostname = true := by
      rw [hlocal]
      decide +kernel
    have hproduction : localRuntime.callbackMode = .production := rfl
    unfold checkTransport at htransport
    rw [if_pos hloopback, if_pos hproduction] at htransport
    cases htransport

/-- The portal is shown as active, and nobody can sign in. -/
theorem local_portal_active :
    ¬ ∀ (rt : ServerRuntime) (s : ServerState Ledger) (orgId : Nat) (app : RegisteredApplication),
      s.chain.world.Reachable → s.chain.world.registry.isOrganizationActive orgId = true →
      app ∈ listApplicationsForOrg rt s.applications s.callbacks orgId →
      (integrationStage (s.chain.stageInput orgId app) = .active ↔ CouldSignIn rt s orgId app) := by
  intro hall
  have hlisted : toRecord localRuntime portalRow [localCallback] ∈
      listApplicationsForOrg localRuntime portalLocal.applications portalLocal.callbacks 1 := by
    have hcallbacks : callbacksOf (groupBySlug
        (portalLocal.callbacks.selectForOrg localRuntime.collate 1)) "portal" =
          [localCallback] := by decide +kernel
    exact mem_listApplicationsForOrg.2 ⟨portalRow, List.mem_singleton_self _, rfl,
      congrArg (toRecord localRuntime portalRow) hcallbacks.symm⟩
  have htruthful := hall localRuntime portalLocal 1 _ (after_reachable _) (by decide +kernel)
    hlisted
  have hactive : integrationStage (portalLocal.chain.stageInput 1
      (toRecord localRuntime portalRow [localCallback])) = .active := by decide +kernel
  have hconnectable := connectable_of_couldSignIn (List.mem_singleton_self portalRow)
    (htruthful.1 hactive)
  obtain ⟨uri, normalized, registered, -, hcallback, -⟩ := hconnectable.callback
  exact localCallback_refused hcallback

/-- The portal with its own callback is shown as active, and could sign its administrators in. -/
theorem portal_active :
    integrationStage (portalRegistered.chain.stageInput 1
        (toRecord portalRuntime portalRow [portalCallback])) = .active ↔
      CouldSignIn portalRuntime portalRegistered 1
        (toRecord portalRuntime portalRow [portalCallback]) := by
  have hlisted : toRecord portalRuntime portalRow [portalCallback] ∈
      listApplicationsForOrg portalRuntime portalRegistered.applications
        portalRegistered.callbacks 1 := by
    have hcallbacks : callbacksOf (groupBySlug
        (portalRegistered.callbacks.selectForOrg portalRuntime.collate 1)) "portal" =
          [portalCallback] := by decide +kernel
    exact mem_listApplicationsForOrg.2 ⟨portalRow, List.mem_singleton_self _, rfl,
      congrArg (toRecord portalRuntime portalRow) hcallbacks.symm⟩
  refine (active_stage_truthful_iff (after_reachable _) (by decide +kernel) hlisted).2 ?_
  intro _ _ _ _ _
  exact
    { clientId := by simp [toRecord, portalRow]
      secret := ⟨generateClientSecret (List.replicate 32 1), by decide +kernel, by decide +kernel⟩
      callback := ⟨portalCallback, "https://portal.example/callback".toList, portalCallback,
        by decide +kernel, by decide +kernel, by decide +kernel⟩ }

end Sample

end OwneX
