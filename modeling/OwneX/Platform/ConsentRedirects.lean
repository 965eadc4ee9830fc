import OwneX.Platform.AuthorizationCodes

set_option autoImplicit false

/-! # Where the consent flow sends a browser

The page offers links back to the partner and the submission redirects there. Both build the URL from
the registered callback that was read, never from the one that was requested, and both only after the
request has been resolved. -/

namespace OwneX

open Js JsNumber Prog Interleaving Service

variable {σ : Type} [ERC721 σ] {rt : ServerRuntime}

/-! ## What is said -/

/-- What a request of the consent flow asks for, and in whose session, if it has the shape of one. -/
def ServerRequest.asks : ServerRequest → Option (SessionData × AuthorizeQuery)
  | page session params =>
      (parseAuthorizeQuery params.clientId.head? params.orgId.head? params.redirectUri.head?
        params.state.head?).toOption.map (session, ·)
  | approve session (some form) => form.parse.toOption.map (session, ·)
  | _ => none

/-- Every URL by which an answer leads to a partner. -/
def partnerLinks : (req : ServerRequest) → req.Ans → List Url
  | .page .., view => view.partnerLinks
  | .approve .., .redirect target => [target]
  | _, _ => []

/-- The live evaluation that a thread has made for the wallet of its session has come to the decision
    that the wallet may use the application. -/
def DecidesAllowed (rt : ServerRuntime) (session : SessionData)
    (log : List ((op : ServerOp) × op.Res)) (orgId : Nat) (appSlug : String) : Prop :=
  ∃ front access back dateNow wallet decision snapshot, log = front ++ (access ++ back) ∧
    ⟨.now, dateNow⟩ ∈ front ∧ session.walletAt dateNow = some wallet ∧
    Returns (evaluateLiveAccess rt.keccakId serverReads orgId wallet (some appSlug)) access
      (.ok decision snapshot) ∧
    decision.allowed = true

/-- The link leads to a callback that was registered, when the thread read it, for the application that
    was stored, when the thread read it, under this client id. -/
def LeadsBack (stored : Text → Text) (ts : List (server σ rt).Transition) (i : Nat)
    (session : SessionData) (query : AuthorizeQuery) (link : Url) : Prop :=
  ∃ app callbacks registered callback,
    (∃ t ∈ ts, (∃ sought, t.move = .perform i (.selectByClientId sought) (.ok (some app))) ∧
      app ∈ t.before.shared.applications.rows) ∧
    app.clientId = some (stored query.clientId) ∧ app.orgId.1 = query.orgId ∧
    app.status ≠ .revoked ∧
    (∃ t ∈ ts, t.move = .perform i (.selectCallbacks app.key) (.ok callbacks) ∧
      ⟨app.key, registered⟩ ∈ t.before.shared.callbacks.rows) ∧
    rt.parse registered = some callback ∧ link.protocol = callback.protocol ∧
    link.hostname = callback.hostname ∧ link.port = callback.port ∧
    link.pathname = callback.pathname ∧ link.hash = [] ∧
    ∃ params, link.params? = some params ∧
      (∀ p ∈ params, p.1 = "code".toList ∨ p.1 = "error".toList ∨ p.1 = "state".toList) ∧
      (∀ value, ("state".toList, value) ∈ params → value = query.state) ∧
      ∀ value, ("code".toList, value) ∈ params →
        DecidesAllowed rt session (ownLog i ts) query.orgId app.appSlug

/-! ## The parameters -/

theorem RedirectParams.mem_toList {params : RedirectParams} {p : Text × Text}
    (h : p ∈ params.toList) :
    (p.1 = "code".toList ∧ params.code ≠ none) ∨ p.1 = "error".toList ∨
      p = ("state".toList, params.state) := by
  unfold RedirectParams.toList at h
  simp only [List.mem_append, Option.mem_toList, Option.map_eq_some_iff, Option.filter_eq_some_iff,
    List.mem_singleton] at h
  rcases h with (⟨value, ⟨hcode, -⟩, rfl⟩ | ⟨value, -, rfl⟩) | hstate
  · exact .inl ⟨rfl, by simp [hcode]⟩
  · exact .inr (.inl rfl)
  · exact .inr (.inr hstate)

/-! ## What the two have done -/

/-- The link is built from a callback that was read. -/
def BuiltFrom (rt : ServerRuntime) (session : SessionData)
    (log : List ((op : ServerOp) × op.Res)) (query : AuthorizeQuery) (link : Url) : Prop :=
  ∃ app callbacks registered code error,
    ⟨.selectByClientId (trimText query.clientId), .ok (some app)⟩ ∈ log ∧
    app.orgId.1 = query.orgId ∧ app.status ≠ .revoked ∧
    ⟨.selectCallbacks app.key, .ok callbacks⟩ ∈ log ∧ registered ∈ callbacks ∧
    buildCallbackRedirect rt.parse registered { code, error, state := query.state } = some link ∧
    (code ≠ none → DecidesAllowed rt session log query.orgId app.appSlug)

theorem partnerLinks_showAccess {query : AuthorizeQuery} {application : RegisteredApplication}
    {denyUrl link : Url} {wallet : Address} {access : EvaluatedAccess}
    (h : link ∈ (showAccess query application denyUrl wallet access).partnerLinks) :
    link = denyUrl := by
  unfold showAccess at h
  split at h
  · simpa [AuthorizeView.partnerLinks] using h
  · split at h <;> simpa [AuthorizeView.partnerLinks] using h

/-- The links of the page. None carries a code. -/
theorem builtFrom_page {session : SessionData} {params : AuthorizeParams}
    {log : List ((op : ServerOp) × op.Res)} {view : AuthorizeView}
    (h : Returns (authorizePage rt session params) log view) {link : Url}
    (hlink : link ∈ view.partnerLinks) :
    ∃ query, (ServerRequest.page session params).asks = some (session, query) ∧
      BuiltFrom rt session log query link := by
  unfold authorizePage at h
  split at h
  · obtain ⟨-, rfl⟩ := returns_pure.1 h
    cases hlink
  next query hparse =>
  refine ⟨query, congrArg (fun r => r.toOption.map (session, ·)) hparse, ?_⟩
  obtain ⟨resolved, log₁, rest₁, hlog, hresolved, h⟩ := returns_bind.1 h
  split at h
  · obtain ⟨-, rfl⟩ := returns_pure.1 h
    cases hlink
  · obtain ⟨-, rfl⟩ := returns_pure.1 h
    cases hlink
  next application registered =>
  obtain ⟨app, callbacks, rfl, horg, hstatus, hregistered, hlog₁⟩ :=
    returns_resolveAuthorizationRequest hresolved
  unfold showResolved at h
  split at h
  · obtain ⟨-, rfl⟩ := returns_pure.1 h
    cases hlink
  next denyUrl hdeny =>
  obtain ⟨wallet, log₂, rest₂, hrest₁, -, h⟩ := returns_bind.1 h
  cases wallet with
  | none =>
      obtain ⟨-, rfl⟩ := returns_pure.1 h
      cases hlink
  | some wallet =>
      obtain ⟨access, log₃, rest₃, -, -, h⟩ := returns_bind.1 h
      obtain ⟨-, rfl⟩ := returns_pure.1 h
      obtain rfl := partnerLinks_showAccess hlink
      subst hlog₁ hlog
      exact ⟨app, callbacks, registered, none, some accessDenied, by simp, horg, hstatus, by simp,
        hregistered, hdeny, fun hcode => absurd rfl hcode⟩

theorem redirectTo_eq {query : AuthorizeQuery} {registered : Text} {code error : Option Text}
    {target : Url} (h : redirectTo rt query registered code error = .redirect target) :
    buildCallbackRedirect rt.parse registered { code, error, state := query.state } =
      some target := by
  unfold redirectTo at h
  split at h
  · cases h
  next hbuilt =>
      cases h
      exact hbuilt

/-- Where the submission of a resolved request leads. -/
theorem redirect_of_approveResolved {session : SessionData} {query : AuthorizeQuery}
    {application : RegisteredApplication} {registered : Text}
    {log : List ((op : ServerOp) × op.Res)} {target : Url}
    (h : Returns (approveResolved rt session query application registered) log
      (.redirect target)) :
    ∃ code error,
      buildCallbackRedirect rt.parse registered { code, error, state := query.state } =
        some target ∧
      (code ≠ none → DecidesAllowed rt session log query.orgId application.slug) := by
  obtain ⟨wallet, log₁, rest₁, hlog, hsession, h⟩ := returns_bind.1 h
  cases wallet with
  | none =>
      obtain ⟨-, hanswer⟩ := returns_pure.1 h
      exact ⟨none, _, redirectTo_eq hanswer, fun hcode => absurd rfl hcode⟩
  | some wallet =>
      obtain ⟨dateNow, hwallet, hlog₁⟩ := returns_sessionWallet hsession
      obtain ⟨access, log₂, rest₂, hrest₁, haccess, h⟩ := returns_bind.1 h
      cases access with
      | chainUnavailable detail =>
          obtain ⟨-, hanswer⟩ := returns_pure.1 h
          exact ⟨none, _, redirectTo_eq hanswer, fun hcode => absurd rfl hcode⟩
      | ok decision snapshot =>
          simp only at h
          split at h
          · obtain ⟨-, hanswer⟩ := returns_pure.1 h
            exact ⟨none, _, redirectTo_eq hanswer, fun hcode => absurd rfl hcode⟩
          next hallowed =>
              obtain ⟨issued, log₃, rest₃, hrest₂, -, h⟩ := returns_bind.1 h
              cases issued with
              | error detail =>
                  obtain ⟨-, hanswer⟩ := returns_pure.1 h
                  exact ⟨none, _, redirectTo_eq hanswer, fun hcode => absurd rfl hcode⟩
              | ok code =>
                  obtain ⟨-, hanswer⟩ := returns_pure.1 h
                  exact ⟨some code, none, redirectTo_eq hanswer, fun _ =>
                    ⟨log₁, log₂, rest₂, dateNow, wallet, decision, snapshot,
                      by rw [hlog, hrest₁], by simp [hlog₁], hwallet, haccess,
                      by simpa using hallowed⟩⟩

theorem DecidesAllowed.behind {session : SessionData} {log : List ((op : ServerOp) × op.Res)}
    {orgId : Nat} {appSlug : String} (h : DecidesAllowed rt session log orgId appSlug)
    (front : List ((op : ServerOp) × op.Res)) :
    DecidesAllowed rt session (front ++ log) orgId appSlug := by
  obtain ⟨front', access, back, dateNow, wallet, decision, snapshot, rfl, hnow, hwallet, haccess,
    hallowed⟩ := h
  exact ⟨front ++ front', access, back, dateNow, wallet, decision, snapshot,
    (List.append_assoc _ _ _).symm, List.mem_append_right _ hnow, hwallet, haccess, hallowed⟩

/-- A submission that is answered with a redirect has been parsed, and its query resolved. -/
theorem resolved_of_approve {session : SessionData} {form : Option ApproveForm}
    {log : List ((op : ServerOp) × op.Res)} {target : Url}
    (h : Returns (approve rt session form) log (.redirect target)) :
    ∃ submitted query application registered front rest, form = some submitted ∧
      submitted.parse = .ok query ∧ log = front ++ rest ∧
      Returns (resolveAuthorizationRequest rt query.clientId query.orgId query.redirectUri
        false).run front (.ok (.ok (application, registered))) ∧
      Returns (approveResolved rt session query application registered) rest
        (.redirect target) := by
  unfold approve at h
  split at h
  · cases (returns_pure.1 h).2
  next submitted =>
  split at h
  · cases (returns_pure.1 h).2
  next query hparse =>
  obtain ⟨resolved, front, rest, hlog, hresolved, h⟩ := returns_bind.1 h
  split at h
  · cases (returns_pure.1 h).2
  · cases (returns_pure.1 h).2
  next application registered =>
      exact ⟨submitted, query, application, registered, front, rest, rfl, hparse, hlog, hresolved, h⟩

/-- The redirect of the submission. -/
theorem builtFrom_approve {session : SessionData} {form : Option ApproveForm}
    {log : List ((op : ServerOp) × op.Res)} {target : Url}
    (h : Returns (approve rt session form) log (.redirect target)) :
    ∃ query, (ServerRequest.approve session form).asks = some (session, query) ∧
      BuiltFrom rt session log query target := by
  obtain ⟨submitted, query, application, registered, front, rest, rfl, hparse, rfl, hresolved, h⟩ :=
    resolved_of_approve h
  obtain ⟨app, callbacks, rfl, horg, hstatus, hregistered, hfront⟩ :=
    returns_resolveAuthorizationRequest hresolved
  obtain ⟨code, error, hbuilt, hcode⟩ := redirect_of_approveResolved h
  exact ⟨query, congrArg (fun r => r.toOption.map (session, ·)) hparse, app, callbacks, registered,
    code, error, by simp [hfront], horg, hstatus, by simp [hfront], hregistered, hbuilt,
    fun hsome => (hcode hsome).behind front⟩

/-! ## Runs -/

/-- Whatever is asked of the consent flow, every link and redirect to a partner leads to a callback
    that is registered for the application, with nothing but the parameters of the protocol, and with
    a code only where the wallet may use the application. The application is the one whose client id
    is the one of the request, less the white space around it. -/
theorem partner_links_lead_back {ts : List (server σ rt).Transition} {s : ServerState σ}
    {c : (server σ rt).Config} (h : (server σ rt).Run s ts c) {i : Nat} {req : ServerRequest}
    {answer : req.Ans} (hi : c.Answers i req answer) :
    ∀ link ∈ partnerLinks req answer, ∃ session query, req.asks = some (session, query) ∧
      LeadsBack trimText ts i session query link := by
  intro link hlink
  have hreturns := Run.returns h hi
  have hbuilt : ∃ session query, req.asks = some (session, query) ∧
      BuiltFrom rt session (ownLog i ts) query link := by
    cases req with
    | page session params => exact ⟨session, builtFrom_page hreturns hlink⟩
    | approve session form =>
        cases answer with
        | redirect target =>
            obtain rfl := List.mem_singleton.1 hlink
            exact ⟨session, builtFrom_approve hreturns⟩
        | text status body => cases hlink
        | thrown => cases hlink
    | _ => cases hlink
  obtain ⟨session, query, hasks, app, callbacks, registered, code, error, hselect, horg, hstatus,
    hcallbacks, hregistered, hlinkBuilt, hcode⟩ := hbuilt
  obtain ⟨t, ht, hmove, happ, hclientId⟩ := stored_of_selectByClientId h hselect
  obtain ⟨u, hu, hmove', hstored⟩ := stored_of_selectCallbacks h hcallbacks hregistered
  obtain ⟨callback, hparse, hprotocol, hhostname, hport, hpathname, hhash, hparams⟩ :=
    buildCallbackRedirect_eq hlinkBuilt
  refine ⟨session, query, hasks, app, callbacks, registered, callback, ⟨t, ht, ⟨_, hmove⟩, happ⟩,
    hclientId, horg, hstatus, ⟨u, hu, hmove', hstored⟩, hparse, hprotocol, hhostname, hport, hpathname, hhash,
    _, hparams, fun p hp => ?_, fun value hvalue => ?_, fun value hvalue => ?_⟩
  · rcases RedirectParams.mem_toList hp with ⟨hname, -⟩ | hname | rfl
    · exact .inl hname
    · exact .inr (.inl hname)
    · exact .inr (.inr rfl)
  · rcases RedirectParams.mem_toList hvalue with ⟨hname, -⟩ | hname | hstate
    · exact absurd hname (show "state".toList ≠ "code".toList by decide)
    · exact absurd hname (show "state".toList ≠ "error".toList by decide)
    · exact (Prod.mk.inj hstate).2
  · rcases RedirectParams.mem_toList hvalue with ⟨-, hsome⟩ | hname | hstate
    · exact hcode hsome
    · exact absurd hname (show "code".toList ≠ "error".toList by decide)
    · exact absurd (Prod.mk.inj hstate).1 (show "code".toList ≠ "state".toList by decide)

/-! ## A submission with a padded client id -/

namespace Sample

/-- Nobody is signed in. -/
def nobody : SessionData := ⟨none, none⟩

/-- The portal is registered, and then consent is submitted without a session. -/
def refusalCues : List portalPlayer.Cue :=
  .arrive (.register aliceSession portalBody) :: portalSteps 0 12 1 ++
    .arrive (.approve nobody (some paddedForm)) :: portalSteps 1 2 2

/-- What a thread has served, what it asked for, and the links of the answer. -/
def linksOf (c : portalServer.Config) (i : Nat) : Option (Option Text × List Url) :=
  (c.answer? i).map fun ⟨req, answer⟩ =>
    (req.asks.map (·.2.clientId), partnerLinks req answer)

theorem padded_submission_redirects :
    ∃ (ts : List portalServer.Transition) (c : portalServer.Config) (req : ServerRequest)
      (answer : req.Ans) (link : Url), portalServer.Run portalStart ts c ∧
        c.Answers 1 req answer ∧ link ∈ partnerLinks req answer ∧
        req.asks.map (·.2.clientId) = some paddedClientId := by
  have hplay : ((portalPlayer.play (idle portalStart) refusalCues).bind
      fun (_, c) => linksOf c 1).map (fun (clientId, links) => (clientId, links.length)) =
      some (some paddedClientId, 1) := by decide +kernel
  obtain ⟨⟨clientId, links⟩, hrun, hfacts⟩ := Option.map_eq_some_iff.1 hplay
  obtain ⟨hclientId, hlength⟩ := Prod.mk.inj hfacts
  obtain ⟨⟨ts, c⟩, hplayed, hlinks⟩ := Option.bind_eq_some_iff.1 hrun
  obtain ⟨⟨req, answer⟩, hanswer, heq⟩ := Option.map_eq_some_iff.1 hlinks
  obtain ⟨hasks, rfl⟩ := Prod.mk.inj heq
  obtain ⟨link, hlink⟩ := List.length_eq_one_iff.1 hlength
  exact ⟨ts, c, req, answer, link, Player.play_path hplayed, Config.answers_of_answer? hanswer,
    by simp [hlink], hasks.trans hclientId⟩

/-- The redirect leads to a callback of an application, but none has the client id that was sent. -/
theorem padded_submission_not_verbatim :
    ¬ ∀ (rt : ServerRuntime) (s : ServerState Ledger) (ts : List (server Ledger rt).Transition)
        (c : (server Ledger rt).Config) (i : Nat) (req : ServerRequest) (answer : req.Ans),
        (server Ledger rt).Run s ts c → c.Answers i req answer →
        ∀ link ∈ partnerLinks req answer, ∃ session query, req.asks = some (session, query) ∧
          LeadsBack id ts i session query link := by
  intro hall
  obtain ⟨ts, c, req, answer, link, hrun, hanswers, hlink, hpadded⟩ := padded_submission_redirects
  obtain ⟨session, query, hasks, app, callbacks, registered, callback, ⟨t, -, -, happ⟩, hid, -⟩ :=
    hall portalRuntime portalStart ts c 1 req answer hrun hanswers link hlink
  rw [hasks, Option.map_some, Option.some.injEq] at hpadded
  have hformat := t.before.shared.applications.lawful.clientIdFormat app happ
  rw [hid, id, hpadded] at hformat
  revert hformat
  decide

theorem padded_submission_leads_back :
    ∃ (ts : List portalServer.Transition) (c : portalServer.Config) (req : ServerRequest)
      (answer : req.Ans) (link : Url), portalServer.Run portalStart ts c ∧
        c.Answers 1 req answer ∧ link ∈ partnerLinks req answer ∧
        ∃ session query, req.asks = some (session, query) ∧
          LeadsBack trimText ts 1 session query link := by
  obtain ⟨ts, c, req, answer, link, hrun, hanswers, hlink, -⟩ := padded_submission_redirects
  exact ⟨ts, c, req, answer, link, hrun, hanswers, hlink,
    partner_links_lead_back hrun hanswers link hlink⟩

end Sample

end OwneX
