import OwneX.Platform.AuthorizationCodes

set_option autoImplicit false

/-! # The safety of the sign-in protocol

An exchange that is answered with claims has consumed a code in one conditional `UPDATE`. Before it
there is the approval that stored the code, and the application with its secret; behind it is the read
of the chain. Any other request, and the chain, may move in between. What ties the three together is
the row of the code, which nothing changes but its use. -/

namespace OwneX

open Js JsNumber Prog Interleaving Service

variable {σ : Type} [ERC721 σ] {rt : ServerRuntime}

/-! ## What is said -/

/-- No code has been issued yet, and every application has been registered under a slug. -/
structure ServerState.Unused (s : ServerState σ) : Prop where
  codes : s.codes.rows = []
  slugs : ∀ row ∈ s.applications.rows, isSlug row.appSlug = true

/-- After `pre` an approval stores a code: with the client id and the organization it was sent, for the
    wallet of its session, at a callback of the application, and until 120 seconds after `issuedAt`. -/
def Issues (pre : List (server σ rt).Transition) (t : (server σ rt).Transition) (row : CodeRow)
    (issuedAt : TimeValue) : Prop :=
  ∃ k session submitted query r dateNow callbacks,
    t.before.Serves k (.approve session (some submitted)) ∧
    t.move = .perform k (.insertCode row) r ∧ submitted.parse = .ok query ∧
    row.clientId = query.clientId ∧ row.orgId.1 = query.orgId ∧
    ⟨.now, dateNow⟩ ∈ ownLog k pre ∧ session.walletAt dateNow = some row.walletAddress ∧
    ⟨.selectCallbacks (row.orgId.1, row.appSlug), .ok callbacks⟩ ∈ ownLog k pre ∧
    row.redirectUri ∈ callbacks ∧ ⟨.now, issuedAt⟩ ∈ ownLog k pre ∧
    later issuedAt AUTHORIZATION_CODE_TTL_MS = some row.expiresAt

/-- An exchange reads the row of the application with this client id: it is not revoked, and the secret
    that is presented is its secret. -/
def Authenticates (i : Nat) (clientId clientSecret : Text) (t : (server σ rt).Transition)
    (app : ApplicationRow) : Prop :=
  (∃ sought, t.move = .perform i (.selectByClientId sought) (.ok (some app))) ∧
    app ∈ t.before.shared.applications.rows ∧ app.clientId = some clientId ∧
    app.status ≠ .revoked ∧
    verifyClientSecret rt.crypto clientSecret app.clientSecretHash = true

/-- The chain is read, and lets the wallet use the application. -/
def ReadsAccess (i : Nat) (row : CodeRow) (t : (server σ rt).Transition) : Prop :=
  t.move = .perform i
      (.readCanAccessApp row.orgId.1 row.walletAddress (rt.keccakId row.appSlug)) (.ok true) ∧
    t.before.shared.chain.world.canAccessApp t.before.shared.chain.blockTime row.orgId.1
      row.walletAddress (rt.keccakId row.appSlug) = true

/-- What stands behind the claims of an exchange. `stored` is the client id of the application, given
    the one that was presented. -/
structure Vouched (stored : Text → Text) (ts : List (server σ rt).Transition)
    (c : (server σ rt).Config) (i : Nat) (body : ExchangeBody) (claims : PartnerClaims) : Prop where
  once : ∀ j body' claims', c.Answers j (.exchange body') (.ok claims') →
    body'.code = body.code → j = i
  consumed : ∃ pre u post row usedAt, ts = pre ++ u :: post ∧
    u.move = .perform i (.consumeCode ⟨body.code, body.clientId, row.redirectUri, usedAt⟩)
      (.ok (some row.grant)) ∧
    row.code = body.code ∧ row.clientId = body.clientId ∧
    claims.wallet = lowerAscii (addressText row.walletAddress) ∧ claims.orgId = row.orgId.1 ∧
    (∃ front t mid issuedAt, pre = front ++ t :: mid ∧ Issues front t row issuedAt ∧
      ⟨.now, usedAt⟩ ∈ ownLog i pre ∧ usedAt.1 < issuedAt.1 + AUTHORIZATION_CODE_TTL_MS) ∧
    (∃ t ∈ pre, ∃ app callbacks normalized,
      Authenticates i (stored body.clientId) body.clientSecret t app ∧
      row.orgId = app.orgId ∧ row.appSlug = app.appSlug ∧
      ⟨.selectCallbacks app.key, .ok callbacks⟩ ∈ ownLog i pre ∧
      checkCallback rt.parse (some ⟨app.status, callbacks⟩) (some body.redirectUri)
        rt.callbackMode = .ok (normalized, row.redirectUri)) ∧
    ∃ t ∈ post, ReadsAccess i row t

/-! ## The rows of the tables -/

section Runs

variable {ts : List (server σ rt).Transition} {s : ServerState σ} {c : (server σ rt).Config}

/-- A row of `authorization_codes` that is unused is one that an approval has stored. -/
theorem exists_issue (h : (server σ rt).Run s ts c) (hs : s.codes.rows = []) {row : CodeRow}
    (hrow : row ∈ c.shared.codes.rows) (hunused : row.usedAt = none) :
    ∃ front t mid issuedAt, ts = front ++ t :: mid ∧ Issues front t row issuedAt := by
  have horigin := h.origin
    (I := fun (c : (server σ rt).Config) x => ∃ row ∈ c.shared.codes.rows, row.issued = x)
    (B := fun (t : (server σ rt).Transition) (x : CodeRow) =>
      ∃ k row r, t.move = .perform k (.insertCode row) r ∧ row.issued = x)
    (fun t hv x => by
      rintro ⟨row, hrow, rfl⟩
      rcases Transition.Valid.shared hv with heq | ⟨k, op, r, hmove, hexec⟩ | henv
      · exact .inl ⟨row, heq ▸ hrow, rfl⟩
      · have hstep : ServerState.exec rt t.before.shared op r t.after.shared := hexec
        rcases ServerState.exec_origin hstep hrow with ⟨row', hrow', heq⟩ | rfl
        · exact .inl ⟨row', hrow', heq⟩
        · exact .inr ⟨k, row, r, hmove, rfl⟩
      · exact .inl ⟨row, henv.2.2.2.2 ▸ hrow, rfl⟩)
    ⟨row, hrow, rfl⟩
  rcases horigin with ⟨row', hrow', -⟩ | ⟨t, ht, k, row', r, hmove, hissued⟩
  · have hempty : row' ∈ s.codes.rows := hrow'
    rw [hs] at hempty
    cases hempty
  · obtain ⟨front, mid, rfl⟩ := List.append_of_mem ht
    obtain ⟨req, hserves, hreaches⟩ := h.awaited hmove
    obtain ⟨session, form, rfl⟩ := (ServerRequest.only_handler req).reached hreaches
    obtain ⟨submitted, query, app, callbacks, dateNow, issuedAt, rfl, hparse, hclient, horg, -,
      horgId, hslug, -, hcallbacks, huri, hnow, hwallet, hissuedAt, hexpires, hunused'⟩ :=
      insert_of_approve hreaches
    have hsame : row' = row := by
      have hissue : ∀ {row : CodeRow}, row.usedAt = none → row.issued = row := by
        rintro ⟨_, _, _, _, _, _, _, usedAt⟩ rfl
        rfl
      rw [← hissue hunused', hissued, hissue hunused]
    subst hsame
    have hkey : app.key = (row'.orgId.1, row'.appSlug) := by
      rw [horgId, hslug]
      rfl
    exact ⟨front, t, mid, issuedAt, rfl, k, session, submitted, query, r, dateNow, callbacks,
      hserves, hmove, hparse, hclient, horg, hnow, hwallet, hkey ▸ hcallbacks, huri, hissuedAt,
      hexpires⟩

/-- Applications are only ever registered under slugs. -/
theorem slugs_of_run (h : (server σ rt).Run s ts c)
    (hs : ∀ row ∈ s.applications.rows, isSlug row.appSlug = true) :
    ∀ t ∈ ts, ∀ row ∈ t.before.shared.applications.rows, isSlug row.appSlug = true := by
  have hinvariant := h.invariant
    (P := fun c : (server σ rt).Config =>
      ∀ row ∈ c.shared.applications.rows, isSlug row.appSlug = true)
    (fun t ht hv hbefore row hrow => by
      rcases Transition.Valid.shared hv with heq | ⟨i, op, r, hmove, hexec⟩ | henv
      · exact hbefore row (heq ▸ hrow)
      · have hstep : ServerState.exec rt t.before.shared op r t.after.shared := hexec
        rcases ServerState.exec_applications hstep with heq | ⟨cols, rfl, heq⟩ |
          ⟨app, patch, rfl, heq⟩
        · exact hbefore row (heq ▸ hrow)
        · obtain ⟨req, -, session, body, -, hkey⟩ := Run.only ServerRequest.only_handler h ht hmove
          rcases ApplicationTable.slug_of_upsert (heq ▸ hrow) with ⟨row', hrow', heq⟩ | heq
          · exact heq ▸ hbefore row' hrow'
          · have hslug : cols.appSlug = body.slug.1 := congrArg Prod.snd hkey
            rw [heq, hslug]
            exact body.slug.2
        · obtain ⟨row', hrow', heq⟩ := ApplicationTable.slug_of_update (heq ▸ hrow)
          exact heq ▸ hbefore row' hrow'
      · exact hbefore row (henv.2.2.1 ▸ hrow))
    hs
  exact fun t ht => (hinvariant.2 t ht).1

/-! ## Runs -/

/-- A code is consumed. -/
def ServerOp.Redeems (code : Text) : (op : ServerOp) → op.Res → Prop
  | .consumeCode query, .ok (some _) => query.code = code
  | _, _ => False

/-- What a redemption finds and leaves. -/
theorem ServerState.exec_redeems {s s' : ServerState σ} {op : ServerOp} {r : op.Res} {code : Text}
    (h : s.exec rt op r s') (hr : op.Redeems code r) :
    ¬ s.codes.Spent code ∧ s'.codes.Spent code := by
  unfold ServerOp.Redeems at hr
  split at hr
  next query grant =>
      subst hr
      obtain ⟨hresult, rfl⟩ := Prod.mk.inj (Attempt.of_ok h)
      exact CodeTable.spent_of_consume (Except.ok.inj hresult)
  · exact hr.elim

/-- Every code is redeemed once. -/
theorem redeemed_once (h : (server σ rt).Run s ts c) {code : Text} {t u : (server σ rt).Transition}
    (ht : t ∈ ts) (hu : u ∈ ts) {i j : Nat} {op op' : ServerOp} {r : op.Res} {r' : op'.Res}
    (hi : t.move = .perform i op r) (hr : op.Redeems code r)
    (hj : u.move = .perform j op' r') (hr' : op'.Redeems code r') : i = j := by
  have hsame := h.performed_once (Q := fun s : ServerState σ => s.codes.Spent code)
    (K := fun op r => ServerOp.Redeems code op r)
    (fun hexec hspent => ServerState.exec_keeps_spent hexec hspent)
    (fun henv hspent => henv.2.2.2.2 ▸ hspent)
    (fun hexec hr => ServerState.exec_redeems hexec hr) ht hu hi hr hj hr'
  rw [hsame, hj] at hi
  exact (Move.perform.inj hi).1.symm

/-- The transition in which an exchange that is answered with claims consumes its code. -/
theorem exists_redemption (h : (server σ rt).Run s ts c) {i : Nat} {body : ExchangeBody}
    {claims : PartnerClaims} (hi : c.Answers i (.exchange body) (.ok claims)) :
    ∃ t ∈ ts, ∃ (op : ServerOp) (r : op.Res), t.move = .perform i op r ∧
      op.Redeems body.code r := by
  obtain ⟨row, callbacks, -, registered, usedAt, grant, access, -, -, verifiedAt, -, -, -, -, -, -,
    -, -, hlog⟩ := exchange_ok (Run.returns h hi)
  obtain ⟨pre, t, post, rfl, hmove, -, -⟩ := exists_of_ownLog (V := server σ rt)
    [⟨.selectByClientId (trimText body.clientId), .ok (some row)⟩,
      ⟨.selectCallbacks row.key, .ok callbacks⟩, ⟨.now, usedAt⟩] hlog
  exact ⟨t, by simp, _, _, hmove, rfl⟩

/-- An exchange that is answered with claims is the only one for its code, and everything that the
    claims say was approved, authenticated and confirmed by the chain. The application is the one
    whose client id is the presented one, less the white space around it. -/
theorem exchange_vouched (hs : s.Unused) (h : (server σ rt).Run s ts c) {i : Nat}
    {body : ExchangeBody} {claims : PartnerClaims}
    (hi : c.Answers i (.exchange body) (.ok claims)) : Vouched trimText ts c i body claims where
  once := by
    intro j body' claims' hj hcode
    obtain ⟨t, ht, op, r, hmove, hr⟩ := exists_redemption h hi
    obtain ⟨u, hu, op', r', hmove', hr'⟩ := exists_redemption h hj
    exact (redeemed_once h ht hu hmove hr hmove' (hcode ▸ hr')).symm
  consumed := by
    obtain ⟨app, callbacks, normalized, registered, usedAt, grant, access, decision, snapshot,
      verifiedAt, hstatus, hsecret, hcallback, horg, hslug, haccess, hallowed, hclaims, hlog⟩ :=
      exchange_ok (Run.returns h hi)
    -- The run falls apart at the `UPDATE`.
    obtain ⟨pre, u, post, rfl, hmove, hpre, hpost⟩ := exists_of_ownLog (V := server σ rt)
      [⟨.selectByClientId (trimText body.clientId), .ok (some app)⟩,
        ⟨.selectCallbacks app.key, .ok callbacks⟩, ⟨.now, usedAt⟩] hlog
    obtain ⟨hbefore, hvalid, hafter⟩ := h.split_at
    obtain ⟨-, -, -, -, hexec, -⟩ := Transition.Valid.perform hvalid hmove
    have hconsume := Except.ok.inj (Prod.mk.inj (Attempt.of_ok hexec)).1
    obtain ⟨row, hrow, hconsumable, rfl⟩ := CodeTable.consume_eq_some hconsume
    obtain ⟨hcode, hclient, rfl, hunused, hfresh⟩ := CodeTable.consumable_iff.1 hconsumable
    -- Before it, the approval.
    obtain ⟨front, t, mid, issuedAt, hsplit, hissues⟩ :=
      exists_issue hbefore hs.codes hrow hunused
    have hinTime : usedAt.1 < issuedAt.1 + AUTHORIZATION_CODE_TTL_MS := by
      obtain ⟨-, -, -, -, -, -, -, -, -, -, -, -, -, -, -, -, -, hexpires⟩ := hissues
      rwa [← later_eq_some hexpires]
    -- Before it, too, the row of the application.
    have hmemSelect : ⟨.selectByClientId (trimText body.clientId), .ok (some app)⟩ ∈
        ownLog i pre := by
      rw [hpre]
      exact List.mem_cons_self
    obtain ⟨v, hv, hselect, happ, hclientId⟩ := stored_of_selectByClientId hbefore hmemSelect
    have hnamed : row.appSlug ≠ "" := by
      have happSlug : row.appSlug = app.appSlug := hslug
      rw [happSlug]
      exact Slug.ne_empty ⟨app.appSlug, slugs_of_run hbefore hs.slugs v hv app happ⟩
    -- Behind it, the read of the chain.
    have hmemRead : ⟨.readCanAccessApp row.orgId.1 row.walletAddress (rt.keccakId row.appSlug),
        .ok true⟩ ∈ ownLog i post := by
      have hread := canAccessApp_of_allowed haccess hnamed hallowed
      rw [hpost]
      exact List.mem_append_left [⟨ServerOp.now, verifiedAt⟩] hread
    obtain ⟨w, hw, hread⟩ := mem_ownLog.1 hmemRead
    obtain ⟨-, -, -, -, hexecRead, -⟩ := Transition.Valid.perform (hafter.valid w hw) hread
    have hcan := Except.ok.inj (Prod.mk.inj (Attempt.of_ok hexecRead)).1
    subst hclaims
    exact ⟨pre, u, post, row, usedAt, rfl, hmove, hcode, hclient, rfl, rfl,
      ⟨front, t, mid, issuedAt, hsplit, hissues, by rw [hpre]; simp, hinTime⟩,
      ⟨v, hv, app, callbacks, normalized, ⟨⟨_, hselect⟩, happ, hclientId, hstatus, hsecret⟩, horg,
        hslug, by rw [hpre]; simp, hcallback⟩,
      w, hw, hread, hcan⟩

end Runs

/-! ## An exchange with a padded client id -/

namespace Sample

/-- Alice has registered the portal on the chain, for administrators. -/
def portalOpen : ServerState Ledger :=
  { portalStart with
    chain := ⟨after [tx alice 105 (.access (.registerApplication 1 7 6)),
      tx alice 105 (.access (.setAppAccess 1 7 ROLE_ADMIN true))], 200⟩ }

def paddedExchange : ExchangeBody where
  clientId := paddedClientId
  clientSecret := generateClientSecret (List.replicate 32 1)
  code := generateAuthorizationCode (List.replicate 32 2)
  redirectUri := portalCallback

/-- The portal is registered, Alice approves, and the code is exchanged. -/
def exchangeCues : List portalPlayer.Cue :=
  .arrive (.register aliceSession portalBody) :: portalSteps 0 12 1 ++
    .arrive (.approve aliceSession (some paddedForm)) :: portalSteps 1 18 2 ++
    .arrive (.exchange paddedExchange) :: portalSteps 2 17 3

/-- The exchange a thread has served, and the claims it was answered with. -/
def honoured (c : portalServer.Config) (i : Nat) : Option (ExchangeBody × PartnerClaims) :=
  match c.answer? i with
  | some ⟨.exchange body, .ok claims⟩ => some (body, claims)
  | _ => none

theorem answers_of_honoured {c : portalServer.Config} {i : Nat} {body : ExchangeBody}
    {claims : PartnerClaims} (h : honoured c i = some (body, claims)) :
    c.Answers i (.exchange body) (.ok claims) := by
  unfold honoured at h
  split at h
  next hanswer =>
      cases h
      exact Config.answers_of_answer? hanswer
  · cases h

theorem portalOpen_unused : portalOpen.Unused :=
  ⟨rfl, fun _ hrow => by cases hrow⟩

theorem padded_exchange_honoured :
    ∃ (ts : List portalServer.Transition) (c : portalServer.Config) (body : ExchangeBody)
      (claims : PartnerClaims), portalServer.Run portalOpen ts c ∧
        c.Answers 2 (.exchange body) (.ok claims) ∧ body.clientId = paddedClientId := by
  have hplay : (portalPlayer.play (idle portalOpen) exchangeCues).bind
      (fun (_, c) => (honoured c 2).map fun (body, _) => body.clientId) =
      some paddedClientId := by decide +kernel
  obtain ⟨⟨ts, c⟩, hrun, hhonoured⟩ := Option.bind_eq_some_iff.1 hplay
  obtain ⟨⟨body, claims⟩, hanswer, hclientId⟩ := Option.map_eq_some_iff.1 hhonoured
  exact ⟨ts, c, body, claims, Player.play_path hrun, answers_of_honoured hanswer, hclientId⟩

/-- No application has the client id that was presented, so no digest is stored for it. -/
theorem padded_exchange_unvouched :
    ¬ ∀ (rt : ServerRuntime) (s : ServerState Ledger) (ts : List (server Ledger rt).Transition)
        (c : (server Ledger rt).Config) (i : Nat) (body : ExchangeBody) (claims : PartnerClaims),
        s.Unused → (server Ledger rt).Run s ts c → c.Answers i (.exchange body) (.ok claims) →
        Vouched id ts c i body claims := by
  intro hall
  obtain ⟨ts, c, body, claims, hrun, hanswers, hclientId⟩ := padded_exchange_honoured
  obtain ⟨pre, u, post, row, usedAt, -, -, -, -, -, -, -, ⟨t, -, app, callbacks, normalized,
    ⟨-, happ, hid, -⟩, -⟩, -⟩ :=
    (hall portalRuntime portalOpen ts c 2 body claims portalOpen_unused hrun hanswers).consumed
  have hformat := t.before.shared.applications.lawful.clientIdFormat app happ
  rw [hid, id, hclientId] at hformat
  revert hformat
  decide

theorem padded_exchange_vouched :
    ∃ (ts : List portalServer.Transition) (c : portalServer.Config) (body : ExchangeBody)
      (claims : PartnerClaims), portalServer.Run portalOpen ts c ∧
        c.Answers 2 (.exchange body) (.ok claims) ∧ Vouched trimText ts c 2 body claims := by
  obtain ⟨ts, c, body, claims, hrun, hanswers, -⟩ := padded_exchange_honoured
  exact ⟨ts, c, body, claims, hrun, hanswers,
    exchange_vouched portalOpen_unused hrun hanswers⟩

end Sample

end OwneX
