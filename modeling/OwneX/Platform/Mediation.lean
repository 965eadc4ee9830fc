import OwneX.Library.Provenance
import OwneX.Platform.CodeExchange
import OwneX.Platform.RegistryWrites

set_option autoImplicit false

/-! # Who may change the tables

Every statement that writes stands behind a guard in the same request. A row of the registry and its
callbacks change by a request about this application only, whose session was seen to hold
`MANAGE_APPS` in its organization. A code is stored for the wallet of the session only, after the
contract has let this wallet use the application, and it is used up by an exchange that has presented
the secret of the application. -/

namespace OwneX

open Js JsNumber Prog Interleaving Service

variable {σ : Type} [ERC721 σ] {rt : ServerRuntime}

/-! ## What is said -/

/-- What is stored of an application: its row and its callbacks. -/
def ServerState.registration (s : ServerState σ) (app : AppKey) :
    Option ApplicationRow × List CallbackRow :=
  (s.applications.findByKey app, s.callbacks.rows.filter fun row => row.app = app)

/-- The session of a request to the registry, and the application that it is about. -/
def ServerRequest.administers : ServerRequest → Option (SessionData × AppKey)
  | register session body => some (session, body.app)
  | patch session slug body => some (session, (body.orgId, slug.1))
  | rotate session slug orgId => some (session, (orgId, slug.1))
  | _ => none

/-- What was asked of the server, each time in what state. -/
abbrev Moments (σ : Type) := List (ServerOp × ServerState σ)

/-- The wallet was in session, its identity was active and the contract granted it the permission,
    each at some moment. -/
structure SeenPermitted (seen : Moments σ) (session : SessionData) (wallet : Address) (orgId : Nat)
    (permission : Bytes32) : Prop where
  inSession : ∃ s, (.now, s) ∈ seen ∧ session.walletAt s.clock = some wallet
  active : ∃ s, (.readIdentity wallet, s) ∈ seen ∧
    s.chain.world.registry.isActive wallet = true
  permitted : ∃ s, (.readHasPermission orgId wallet permission, s) ∈ seen ∧
    s.chain.world.hasPermission s.chain.blockTime orgId wallet permission = true

/-- The wallet of the code was in session, and the contract let it use the application. -/
structure SeenAdmitted (keccakId : String → Bytes32) (seen : Moments σ) (session : SessionData)
    (row : CodeRow) : Prop where
  inSession : ∃ s, (.now, s) ∈ seen ∧ session.walletAt s.clock = some row.walletAddress
  admitted : ∃ s,
    (.readCanAccessApp row.orgId.1 row.walletAddress (keccakId row.appSlug), s) ∈ seen ∧
    s.chain.world.canAccessApp s.chain.blockTime row.orgId.1 row.walletAddress
      (keccakId row.appSlug) = true

/-- The application with this client id was not revoked, and its secret was the one presented. -/
def SeenAuthentic (crypto : CryptoRuntime) (seen : Moments σ) (clientId secret : Text) : Prop :=
  ∃ s, (.selectByClientId clientId, s) ∈ seen ∧ ∃ app ∈ s.applications.rows,
    app.clientId = some clientId ∧ app.status ≠ .revoked ∧
    verifyClientSecret crypto secret app.clientSecretHash = true

/-- Whatever a transition changes, after `pre`, stands behind a guard. -/
structure Mediated (pre : List (server σ rt).Transition) (t : (server σ rt).Transition) : Prop where
  registry : ∀ app, t.after.shared.registration app ≠ t.before.shared.registration app →
    ∃ i req session wallet, t.Acts i req ∧ req.administers = some (session, app) ∧
      SeenPermitted (moments i pre) session wallet app.1 PERM_MANAGE_APPS
  codes : ∀ row ∈ t.after.shared.codes.rows, row ∉ t.before.shared.codes.rows →
    (∃ i session form, t.Acts i (.approve session form) ∧ row.usedAt = none ∧
      SeenAdmitted rt.keccakId (moments i pre) session row) ∨
    ∃ i body, ∃ old ∈ t.before.shared.codes.rows, t.Acts i (.exchange body) ∧
      old.issued = row.issued ∧ old.usedAt = none ∧ body.code = row.code ∧
      SeenAuthentic rt.crypto (moments i pre) (trimText row.clientId) body.clientSecret
  kept : ∀ row ∈ t.before.shared.codes.rows, ∃ row' ∈ t.after.shared.codes.rows,
    row'.issued = row.issued

/-! ## What a guard has read -/

theorem returns_orInternal {α : Type} {read : Await α} {a : α}
    {log : List ((op : ServerOp) × op.Res)} (h : Returns (orInternal read).run log (.ok a)) :
    Returns read.run log (.ok a) := by
  obtain ⟨r, front, back, rfl, hread, h⟩ := returns_bind.1 h
  cases r with
  | error e => cases (returns_pure.1 h).2
  | ok a' =>
      obtain ⟨rfl, hsame⟩ := returns_pure.1 h
      cases hsame
      rwa [List.append_nil]

theorem returns_requireActiveIdentity {sessionWallet : Option Address} {wallet : Address}
    {log : List ((op : ServerOp) × op.Res)}
    (h : Returns (requireActiveIdentity serverReads sessionWallet).run log (.ok wallet)) :
    ∃ identity, sessionWallet = some wallet ∧ identity.active = true ∧
      log = [⟨.readIdentity wallet, .ok identity⟩] := by
  obtain ⟨wallet', log₁, rest₁, hlog, hcaller, h⟩ := returns_exceptT_bind.1 h
  cases sessionWallet with
  | none => cases (returns_pure.1 hcaller).2
  | some sessionWallet =>
      obtain ⟨hlog₁, rfl⟩ := returns_exceptT_pure.1 hcaller
      obtain ⟨identity, log₂, rest₂, hrest₁, hread, h⟩ := returns_exceptT_bind.1 h
      have hlog₂ := returns_call.1 (returns_attempt.1 (returns_orInternal hread))
      simp only at h
      split at h
      · cases (returns_pure.1 h).2
      · split at h
        · cases (returns_pure.1 h).2
        next hactive =>
            obtain ⟨hrest₂, rfl⟩ := returns_exceptT_pure.1 h
            subst hrest₂ hlog₂ hrest₁ hlog₁ hlog
            exact ⟨identity, rfl, by simpa using hactive, rfl⟩

/-- What an authorization has read, operation by operation. -/
theorem returns_authorize {session : SessionData} {orgId : Nat} {permission : PermissionKey}
    {caller : Caller} {log : List ((op : ServerOp) × op.Res)}
    (h : Returns (authorize session orgId permission).run log (.ok caller)) :
    ∃ dateNow identity, session.walletAt dateNow = some caller.wallet ∧ identity.active = true ∧
      log = [⟨.now, dateNow⟩, ⟨.readIdentity caller.wallet, .ok identity⟩,
        ⟨.readHasPermission orgId caller.wallet permission.hash, .ok true⟩,
        ⟨.readEffectiveRole orgId caller.wallet, .ok caller.role⟩] := by
  obtain ⟨sessionWallet, log₁, rest₁, hlog, hsession, hguard⟩ := returns_lift_bind.1 h
  obtain ⟨wallet, log₂, rest₂, hrest₁, hidentity, hchecks⟩ := returns_exceptT_bind.1 hguard
  obtain ⟨identity, rfl, hactive, hlog₂⟩ := returns_requireActiveIdentity hidentity
  obtain ⟨dateNow, hwallet, hlog₁⟩ := returns_sessionWallet hsession
  rw [find_permissionList] at hchecks
  obtain ⟨allowed, log₃, rest₃, hrest₂, hallowed, hcheck⟩ := returns_exceptT_bind.1 hchecks
  have hlog₃ := returns_call.1 (returns_onSafe (returns_orInternal hallowed))
  simp only at hcheck
  split at hcheck
  · cases (returns_pure.1 hcheck).2
  next hgranted =>
      obtain ⟨role, log₄, rest₄, hrest₃, hrole, hcaller⟩ := returns_exceptT_bind.1 hcheck
      have hlog₄ := returns_call.1 (returns_onSafe (returns_orInternal hrole))
      obtain ⟨hrest₄, rfl⟩ := returns_exceptT_pure.1 hcaller
      obtain rfl : allowed = true := by simpa using hgranted
      subst hrest₄ hlog₄ hrest₃ hlog₃ hrest₂ hlog₂ hrest₁ hlog₁ hlog
      exact ⟨dateNow, identity, hwallet, hactive, rfl⟩

/-! ## The registry -/

/-- The statements that write what is stored of an application. -/
def ServerOp.Administers (app : AppKey) : ServerOp → Prop
  | upsertApplication cols => cols.key = app
  | updateApplication app' _ => app' = app
  | deleteCallbacks app' => app' = app
  | insertCallbacks app' _ => app' = app
  | _ => False

theorem ServerOp.Administers.not_reads {app : AppKey} {op : ServerOp} (h : op.Administers app) :
    ¬ op.Reads := by
  cases op <;> simp_all [Administers, Reads]

omit [ERC721 σ] in
/-- A statement about another application leaves the registration alone. -/
theorem registration_effect (s : ServerState σ) (app : AppKey) (op : ServerOp) :
    (s.effect op).registration app = s.registration app ∨ op.Administers app := by
  unfold ServerState.registration
  by_cases hop : op.Administers app
  · exact .inr hop
  refine .inl ?_
  cases op with
  | upsertApplication cols =>
      have hne : app ≠ cols.key := fun heq => hop heq.symm
      simp only [ServerState.effect]
      rcases s.applications.findByKey_upsert s.organizations cols with ⟨e, heq⟩ | ⟨orgId, hrows⟩
      · rw [heq]
      · rw [hrows, if_neg hne]
  | updateApplication app' patch =>
      have hne : app ≠ app' := fun heq => hop heq.symm
      simp only [ServerState.effect]
      rcases s.applications.findByKey_update app' patch with ⟨e, heq⟩ | hrows
      · rw [heq]
      · rw [hrows]
        cases hrow : s.applications.findByKey app with
        | none => rfl
        | some row =>
            have hkey := (ApplicationTable.findByKey_eq_some_iff.1 hrow).2
            simp [hkey, hne]
  | deleteCallbacks app' =>
      have hne : app ≠ app' := fun heq => hop heq.symm
      simp only [ServerState.effect, CallbackTable.delete, List.filter_filter]
      congr 1
      refine List.filter_congr fun row _ => ?_
      by_cases hrow : row.app = app <;> simp [hrow, hne]
  | insertCallbacks app' urls =>
      have hne : app' ≠ app := hop
      have hnew : (urls.map fun url => (⟨app', url⟩ : CallbackRow)).filter
          (fun row => row.app = app) = [] := by
        simp [hne]
      simp only [ServerState.effect, CallbackTable.insert]
      split
      · rfl
      · split
        · rw [List.filter_append, hnew, List.append_nil]
        · rfl
  | _ => rfl

theorem changedBy_registration (app : AppKey) :
    ChangedBy (V := server σ rt) (fun s : ServerState σ => s.registration app)
      (ServerOp.Administers app) where
  exec := by
    intro s op r s' h
    rcases ServerState.exec_effect h with rfl | rfl
    · exact .inl rfl
    · exact registration_effect s app op
  outside := by
    intro s s' h
    obtain ⟨-, -, happlications, hcallbacks, -⟩ := h
    simp only [ServerState.registration, happlications, hcallbacks]

theorem ServerRequest.administers_of_submits {req : ServerRequest} {app : AppKey} {urls : List Text}
    (h : req.submits = some (app, urls)) : ∃ session, req.administers = some (session, app) := by
  cases req with
  | register session body =>
      obtain ⟨rfl, -⟩ := Prod.mk.inj (Option.some.inj h)
      exact ⟨session, rfl⟩
  | patch session slug body =>
      obtain ⟨urls', -, heq⟩ := Option.map_eq_some_iff.1 h
      obtain ⟨rfl, -⟩ := Prod.mk.inj heq
      exact ⟨session, rfl⟩
  | _ => cases h

/-- Such a statement is awaited by a request about the application only. -/
theorem ServerRequest.administers_of_mayAwait {req : ServerRequest} {app : AppKey} {op : ServerOp}
    (h : req.MayAwait op) (hop : op.Administers app) :
    ∃ session, req.administers = some (session, app) := by
  cases op with
  | upsertApplication cols =>
      obtain ⟨session, body, rfl, hkey⟩ := h
      obtain rfl : body.app = app := hkey.symm.trans hop
      exact ⟨session, rfl⟩
  | updateApplication app' patch =>
      obtain rfl : app' = app := hop
      rcases h with ⟨-, session, slug, orgId, rfl, rfl⟩ | ⟨session, slug, body, rfl, rfl, -⟩
      · exact ⟨session, rfl⟩
      · exact ⟨session, rfl⟩
  | deleteCallbacks app' =>
      obtain rfl : app' = app := hop
      obtain ⟨urls, hsubmits⟩ := h
      exact administers_of_submits hsubmits
  | insertCallbacks app' urls =>
      obtain rfl : app' = app := hop
      obtain ⟨submitted, hsubmits, -⟩ := h
      exact administers_of_submits hsubmits
  | _ => exact hop.elim

/-- Before a request about an application writes anything it has been authorized. -/
theorem authorized_of_administers {req : ServerRequest} {session : SessionData} {app : AppKey}
    {op : ServerOp} {log : List ((op : ServerOp) × op.Res)}
    (hreq : req.administers = some (session, app)) (h : Reaches (req.handler rt) log op)
    (hop : ¬ op.Reads) :
    ∃ caller front back, log = front ++ back ∧
      Returns (authorize session app.1 .manageApps).run front (.ok caller) := by
  have hwrites : ¬ op.OnChain := fun hread => hop hread.reads
  cases req with
  | register session' body =>
      obtain ⟨rfl, rfl⟩ := Prod.mk.inj (Option.some.inj hreq)
      obtain ⟨caller, front, back, hlog, hcaller, -⟩ := h.second (only_authorize _ _ _) hwrites
      exact ⟨caller, front, back, hlog, hcaller⟩
  | patch session' slug body =>
      obtain ⟨rfl, rfl⟩ := Prod.mk.inj (Option.some.inj hreq)
      obtain ⟨caller, front, back, hlog, hcaller, -⟩ := h.second (only_authorize _ _ _) hwrites
      exact ⟨caller, front, back, hlog, hcaller⟩
  | rotate session' slug orgId =>
      obtain ⟨rfl, rfl⟩ := Prod.mk.inj (Option.some.inj hreq)
      obtain ⟨caller, front, back, hlog, hcaller, -⟩ := h.second (only_authorize _ _ _) hwrites
      exact ⟨caller, front, back, hlog, hcaller⟩
  | _ => cases hreq

/-! ## The codes -/

/-- Before an approval stores a code the contract has let the wallet of its session use the
    application. -/
theorem admitted_of_approve {session : SessionData} {form : Option ApproveForm}
    {log : List ((op : ServerOp) × op.Res)} {row : CodeRow}
    (h : Reaches (approve rt session form) log (.insertCode row)) (hslug : row.appSlug ≠ "") :
    ⟨.readCanAccessApp row.orgId.1 row.walletAddress (rt.keccakId row.appSlug), .ok true⟩ ∈
      log := by
  unfold approve at h
  split at h
  · exact absurd h reaches_done
  next submitted =>
  split at h
  · exact absurd h reaches_done
  next query hparse =>
  obtain ⟨resolved, log₁, rest₁, hlog, hresolved, h⟩ := h.after (P := ServerOp.Reads)
    (only_resolveAuthorizationRequest (fun _ => trivial) (fun _ => trivial) _ _ _ _) id
  split at h
  · exact absurd h reaches_done
  · exact absurd h reaches_done
  next application registered =>
  obtain ⟨app, callbacks, rfl, horg, -⟩ := returns_resolveAuthorizationRequest hresolved
  obtain ⟨wallet, log₂, rest₂, hrest₁, -, h⟩ :=
    h.after (ServerRequest.reads_sessionWallet session) id
  cases wallet with
  | none => exact absurd h reaches_done
  | some wallet =>
      obtain ⟨access, log₃, rest₃, hrest₂, haccess, h⟩ :=
        h.after (ServerRequest.reads_liveAccess _ _ _ _) id
      cases access with
      | chainUnavailable detail => exact absurd h reaches_done
      | ok decision snapshot =>
          simp only at h
          split at h
          · exact absurd h reaches_done
          next hallowed =>
            have hissue : Reaches (issueAuthorizationCode
                (grantInput query (toRecord rt app callbacks) registered wallet)).run rest₃
                (.insertCode row) := by
              rcases reaches_bind.1 h with hfirst | ⟨issued, _, _, _, _, hlast⟩
              · exact hfirst
              · cases issued <;> exact absurd hlast reaches_done
            obtain ⟨-, -, -, -, happ, hrowOrg, hwallet, -⟩ := insert_of_issue hissue
            have hrowOrg : row.orgId.1 = query.orgId := (congrArg Subtype.val hrowOrg).trans horg
            have hnamed : (toRecord rt app callbacks).slug ≠ "" := fun hempty =>
              hslug (happ.trans hempty)
            have hread := canAccessApp_of_allowed haccess hnamed (by simpa using hallowed)
            rw [hrowOrg, happ, hwallet, hlog, hrest₁, hrest₂]
            exact List.mem_append_right _ (List.mem_append_right _ (List.mem_append_left _ hread))

/-- Before an exchange consumes a code it has read the application with the client id it presents,
    and compared the secret. -/
theorem authentic_of_exchange {body : ExchangeBody} {log : List ((op : ServerOp) × op.Res)}
    {query : ConsumeQuery} (h : Reaches (exchange rt body).run log (.consumeCode query)) :
    ∃ app, ⟨.selectByClientId (trimText body.clientId), .ok (some app)⟩ ∈ log ∧
      app.status ≠ .revoked ∧
      verifyClientSecret rt.crypto body.clientSecret app.clientSecretHash = true ∧
      query.clientId = body.clientId := by
  have hconsume : ¬ ServerOp.Reads (.consumeCode query) := id
  obtain ⟨-, h⟩ := reaches_refuseIf_bind.1 h
  obtain ⟨found, log₁, rest₁, hlog, hfind, h⟩ := h.second (P := ServerOp.Reads)
    (only_attempt (only_findApplicationByClientId (fun _ => trivial) (fun _ => trivial) _) _)
    hconsume
  obtain ⟨application, happlication, h⟩ := reaches_require_bind.1 h
  obtain ⟨registered, -, hrest⟩ := reaches_require_bind.1 h
  obtain ⟨rfl, hstatus, hsecret⟩ := authenticated_eq_some.1 happlication
  obtain ⟨app, callbacks, rfl, hlog₁⟩ :=
    returns_findApplicationByClientId (returns_attempt.1 hfind)
  refine ⟨app, ?_, hstatus, hsecret, ?_⟩
  · rw [hlog, hlog₁]
    exact List.mem_append_left _ (List.mem_cons_self ..)
  · have hfirst := hrest.first (P := ServerOp.Reads) (fun consumed => ?_) hconsume
    · have hquery := reaches_attempt.1 hfirst
      unfold consumeAuthorizationCode at hquery
      split at hquery
      · exact absurd hquery reaches_exceptT_pure
      · rcases reaches_ask_bind.1 hquery with ⟨-, hop⟩ | ⟨now, rest, -, hquery⟩
        · cases hop
        · obtain ⟨-, hop⟩ := reaches_call.1 (reaches_attempt.1 hquery)
          cases hop
          rfl
    · refine only_require_bind fun grant _ => ?_
      refine only_exceptT_bind (only_refuseIf _ _) fun _ => ?_
      refine only_exceptT_bind (only_exceptT_lift (ServerRequest.reads_liveAccess _ _ _ _))
        fun access => ?_
      refine only_require_bind fun read _ => ?_
      refine only_exceptT_bind (only_refuseIf _ _) fun _ => ?_
      exact only_exceptT_bind (only_ask trivial) fun _ => only_exceptT_pure _

/-! ## What was seen -/

/-- Each entry of the log was answered in one of the states that were seen. -/
def Witnesses (rt : ServerRuntime) (seen : Moments σ) (log : List ((op : ServerOp) × op.Res)) :
    Prop :=
  ∀ e ∈ log, ∃ s s', (e.1, s) ∈ seen ∧ s.exec rt e.1 e.2 s'

section Moments

variable {seen : Moments σ} {log : List ((op : ServerOp) × op.Res)}

theorem Witnesses.subset {log' : List ((op : ServerOp) × op.Res)} (h : Witnesses rt seen log)
    (hsub : log' ⊆ log) : Witnesses rt seen log' :=
  fun e he => h e (hsub he)

theorem Witnesses.now (h : Witnesses rt seen log) {dateNow : TimeValue}
    (hread : ⟨.now, dateNow⟩ ∈ log) : ∃ s, (.now, s) ∈ seen ∧ s.clock = dateNow := by
  obtain ⟨s, s', hseen, hclock, -⟩ := h _ hread
  exact ⟨s, hseen, hclock.symm⟩

/-- Whoever has been authorized was permitted at that moment. -/
theorem Witnesses.permitted {session : SessionData} {orgId : Nat} {permission : PermissionKey}
    {caller : Caller} (h : Witnesses rt seen log)
    (hcaller : Returns (authorize session orgId permission).run log (.ok caller)) :
    SeenPermitted seen session caller.wallet orgId permission.hash := by
  obtain ⟨dateNow, identity, hwallet, hactive, rfl⟩ := returns_authorize hcaller
  refine ⟨?_, ?_, ?_⟩
  · obtain ⟨s, hs, rfl⟩ := h.now (List.mem_cons_self ..)
    exact ⟨s, hs, hwallet⟩
  · obtain ⟨s, s', hs, hexec⟩ := h ⟨.readIdentity caller.wallet, .ok identity⟩ (by simp)
    have hread := Except.ok.inj (Prod.mk.inj (Attempt.of_ok hexec)).1
    rw [← hread] at hactive
    exact ⟨s, hs, hactive⟩
  · obtain ⟨s, s', hs, hexec⟩ :=
      h ⟨.readHasPermission orgId caller.wallet permission.hash, .ok true⟩ (by simp)
    exact ⟨s, hs, Except.ok.inj (Prod.mk.inj (Attempt.of_ok hexec)).1⟩

/-- What another service does for the sake of the server, it does in the states of its run. -/
theorem witnesses_of_within {V : Service} {start : V.State} {ts : List V.Transition} {c : V.Config}
    {i : Nat} (h : V.Run start ts c) (f : ServerOp → V.Op) (server : V.State → ServerState σ)
    {g : (op : ServerOp) → V.Res (f op) → op.Res}
    (hexec : ∀ {now op r next}, V.exec now (f op) r next →
      (server now).exec rt op (g op r) (server next))
    (hseen : ∀ {op now}, (f op, now) ∈ moments i ts → (op, server now) ∈ seen)
    {inner : List ((op : ServerOp) × op.Res)} {log : List ((op : V.Op) × V.Res op)}
    (hdone : ∀ e ∈ inner, ∃ r, ⟨f e.1, r⟩ ∈ log ∧ g e.1 r = e.2) (hlog : log ⊆ ownLog i ts) :
    Witnesses rt seen inner := by
  intro e he
  obtain ⟨r, hr, hsame⟩ := hdone e he
  obtain ⟨now, next, hmoment, hnext⟩ := h.executed (hlog hr)
  exact ⟨server now, server next, hseen hmoment, hsame ▸ hexec hnext⟩

end Moments

section Runs

variable {ts pre post : List (server σ rt).Transition} {s : ServerState σ}
  {t : (server σ rt).Transition} {c : (server σ rt).Config} {i : Nat}

/-- The log of a thread was answered in the states of its run. -/
theorem witnesses_ownLog (h : (server σ rt).Run s ts c) (i : Nat) :
    Witnesses rt (moments i ts) (ownLog i ts) := by
  intro e he
  exact h.executed he

/-- What is stored of an application changes by a request about it, whose session was seen to have the
    permission to manage the applications of its organization. -/
theorem registration_mediated (h : (server σ rt).Run s (pre ++ t :: post) c) {app : AppKey}
    (hchange : t.after.shared.registration app ≠ t.before.shared.registration app) :
    ∃ i req session wallet, t.Acts i req ∧ req.administers = some (session, app) ∧
      SeenPermitted (moments i pre) session wallet app.1 PERM_MANAGE_APPS := by
  obtain ⟨i, req, op, r, hmove, hserves, hreaches, hop, -⟩ :=
    h.behind_change (changedBy_registration app) hchange
  obtain ⟨session, hreq⟩ := ServerRequest.administers_of_mayAwait
    ((ServerRequest.only_handler req).reached hreaches) hop
  obtain ⟨caller, front, back, hlog, hcaller⟩ :=
    authorized_of_administers hreq hreaches hop.not_reads
  have hfront : Witnesses rt (moments i pre) front :=
    (witnesses_ownLog h.split_at.1 i).subset (hlog ▸ List.subset_append_left ..)
  exact ⟨i, req, session, caller.wallet, ⟨hserves, op, r, hmove⟩, hreq, hfront.permitted hcaller⟩

/-- A code is stored by an approval for the wallet of its session, which the contract has admitted. -/
theorem seenAdmitted (h : (server σ rt).Run s ts c)
    (hslugs : ∀ row ∈ s.applications.rows, isSlug row.appSlug = true) {session : SessionData}
    {form : Option ApproveForm} {row : CodeRow}
    (hreaches : Reaches (approve rt session form) (ownLog i ts) (.insertCode row)) :
    row.usedAt = none ∧ SeenAdmitted rt.keccakId (moments i ts) session row := by
  obtain ⟨submitted, query, app, callbacks, dateNow, issuedAt, -, -, -, -, happ, -, hslug, -, -, -,
    hnow, hwallet, -, -, hunused⟩ := insert_of_approve hreaches
  obtain ⟨u, hu, -, hrow, -⟩ := stored_of_selectByClientId h happ
  have hnamed : row.appSlug ≠ "" := by
    rw [hslug]
    exact Slug.ne_empty ⟨app.appSlug, slugs_of_run h hslugs u hu app hrow⟩
  obtain ⟨now, hseen, rfl⟩ := (witnesses_ownLog h i).now hnow
  obtain ⟨s', after, hseen', hexec⟩ := witnesses_ownLog h i _ (admitted_of_approve hreaches hnamed)
  have hcan := Except.ok.inj (Prod.mk.inj (Attempt.of_ok hexec)).1
  exact ⟨hunused, ⟨now, hseen, hwallet⟩, s', hseen', hcan⟩

/-- A code is consumed by an exchange that has authenticated. -/
theorem seenAuthentic (h : (server σ rt).Run s ts c) {body : ExchangeBody} {query : ConsumeQuery}
    (hreaches : Reaches (exchange rt body).run (ownLog i ts) (.consumeCode query)) :
    SeenAuthentic rt.crypto (moments i ts) (trimText query.clientId) body.clientSecret := by
  obtain ⟨app, hread, hstatus, hsecret, hclientId⟩ := authentic_of_exchange hreaches
  obtain ⟨now, after, hseen, hexec⟩ := witnesses_ownLog h i _ hread
  have hfound := Except.ok.inj (Prod.mk.inj (Attempt.of_ok hexec)).1
  obtain ⟨hrow, hid⟩ := ApplicationTable.mem_of_findByClientId hfound
  rw [hclientId]
  exact ⟨now, hseen, app, hrow, hid, hstatus, hsecret⟩

/-- A row of `authorization_codes` is stored by an approval, or used up by an exchange. -/
theorem codes_mediated (h : (server σ rt).Run s (pre ++ t :: post) c)
    (hslugs : ∀ row ∈ s.applications.rows, isSlug row.appSlug = true) {row : CodeRow}
    (hafter : row ∈ t.after.shared.codes.rows) (hbefore : row ∉ t.before.shared.codes.rows) :
    (∃ i session form, t.Acts i (.approve session form) ∧ row.usedAt = none ∧
      SeenAdmitted rt.keccakId (moments i pre) session row) ∨
    ∃ i body, ∃ old ∈ t.before.shared.codes.rows, t.Acts i (.exchange body) ∧
      old.issued = row.issued ∧ old.usedAt = none ∧ body.code = row.code ∧
      SeenAuthentic rt.crypto (moments i pre) (trimText row.clientId) body.clientSecret := by
  obtain ⟨hpre, hvalid, -⟩ := h.split_at
  rcases Transition.Valid.shared hvalid with heq | ⟨i, op, r, hmove, hexec⟩ | henv
  · exact absurd (heq ▸ hafter) hbefore
  · obtain ⟨req, hserves, hreaches⟩ := h.awaited hmove
    have hstep : ServerState.exec rt t.before.shared op r t.after.shared := hexec
    rcases ServerState.exec_codes hstep with heq | ⟨new, rfl, heq⟩ | ⟨query, rfl, heq⟩
    · exact absurd (heq ▸ hafter) hbefore
    · obtain ⟨session, form, rfl⟩ := (ServerRequest.only_handler req).reached hreaches
      obtain rfl := (CodeTable.mem_insert (heq ▸ hafter)).resolve_left hbefore
      exact .inl ⟨i, session, form, ⟨hserves, _, r, hmove⟩, seenAdmitted hpre hslugs hreaches⟩
    · obtain ⟨body, rfl, hcode⟩ := (ServerRequest.only_handler req).reached hreaches
      obtain ⟨old, hold, hrow⟩ := CodeTable.mem_consume.1 (heq ▸ hafter)
      split at hrow
      next hconsumable =>
          obtain ⟨hsame, hclient, -, hunused, -⟩ := CodeTable.consumable_iff.1 hconsumable
          subst hrow
          have hauthentic := seenAuthentic hpre hreaches
          rw [← hclient] at hauthentic
          exact .inr ⟨i, body, old, hold, ⟨hserves, _, r, hmove⟩, rfl, hunused,
            hcode.symm.trans hsame.symm, hauthentic⟩
      · exact absurd (hrow ▸ hold) hbefore
  · exact absurd (henv.2.2.2.2 ▸ hafter) hbefore

/-- No row of `authorization_codes` is lost. -/
theorem codes_kept (h : (server σ rt).Run s (pre ++ t :: post) c) {row : CodeRow}
    (hrow : row ∈ t.before.shared.codes.rows) :
    ∃ row' ∈ t.after.shared.codes.rows, row'.issued = row.issued := by
  obtain ⟨-, hvalid, -⟩ := h.split_at
  rcases Transition.Valid.shared hvalid with heq | ⟨i, op, r, hmove, hexec⟩ | henv
  · exact ⟨row, heq ▸ hrow, rfl⟩
  · have hstep : ServerState.exec rt t.before.shared op r t.after.shared := hexec
    rcases ServerState.exec_codes hstep with heq | ⟨new, rfl, heq⟩ | ⟨query, rfl, heq⟩
    · exact ⟨row, heq ▸ hrow, rfl⟩
    · exact ⟨row, heq ▸ CodeTable.mem_insert_of_mem hrow new, rfl⟩
    · refine ⟨_, heq ▸ CodeTable.mem_consume.2 ⟨row, hrow, rfl⟩, ?_⟩
      split <;> rfl
  · exact ⟨row, henv.2.2.2.2 ▸ hrow, rfl⟩

/-- In every interleaving of requests, each change of the registry and of the codes is one that its
    request was seen to be entitled to. -/
theorem server_mediated (hslugs : ∀ row ∈ s.applications.rows, isSlug row.appSlug = true)
    (h : (server σ rt).Run s ts c) :
    ∀ pre t post, ts = pre ++ t :: post → Mediated pre t := by
  intro pre t post hts
  subst hts
  exact ⟨fun app hchange => registration_mediated h hchange,
    fun row hafter hbefore => codes_mediated h hslugs hafter hbefore,
    fun row hrow => codes_kept h hrow⟩

end Runs

/-! ## The portal is registered, and a code is issued and used up -/

namespace Sample

theorem portal_mediated :
    ∃ (ts : List portalServer.Transition) (c : portalServer.Config),
      portalServer.Run portalOpen ts c ∧
        (∀ pre t post, ts = pre ++ t :: post → Mediated pre t) ∧
        c.shared.applications.rows.length = 1 ∧ c.shared.callbacks.rows.length = 1 ∧
        c.shared.codes.rows.length = 1 := by
  have hplay : (portalPlayer.play (idle portalOpen) exchangeCues).map
      (fun run : List portalServer.Transition × portalServer.Config =>
        ((run.2.shared : ServerState Ledger).applications.rows.length,
          (run.2.shared : ServerState Ledger).callbacks.rows.length,
          (run.2.shared : ServerState Ledger).codes.rows.length)) = some (1, 1, 1) := by
    decide +kernel
  obtain ⟨⟨ts, c⟩, hrun, hlengths⟩ := Option.map_eq_some_iff.1 hplay
  obtain ⟨happlications, hrest⟩ := Prod.mk.inj hlengths
  obtain ⟨hcallbacks, hcodes⟩ := Prod.mk.inj hrest
  exact ⟨ts, c, Player.play_path hrun,
    server_mediated portalOpen_unused.slugs (Player.play_path hrun), happlications, hcallbacks,
    hcodes⟩

end Sample

end OwneX
