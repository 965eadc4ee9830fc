import OwneX.Library.JsLiterals
import OwneX.Platform.CallbackForms
import OwneX.Platform.CodeExchange
import OwneX.Platform.ConsentRedirects
import OwneX.Platform.SameReads

set_option autoImplicit false

/-! # Whether an issued code can be redeemed

The submission of the consent page and the code exchange look up the application, match the callback
and evaluate the access independently of each other, and the store compares what they bind byte for
byte. An exchange that reads what the submission has read comes to the same application, the same
registered callback and the same decision (`SameReads`, `CallbackForms`); what is left is the client
id, which the submission binds as it was sent. -/

namespace OwneX

open Js JsNumber KeyedList Prog Interleaving Service

variable {σ : Type} [ERC721 σ] {rt : ServerRuntime}

/-! ## Client ids, codes and secrets -/

/-- A client id is made of lower-case letters and digits. -/
theorem plain_of_isClientId {s : Text} (h : isClientId s = true) :
    ∀ c ∈ s, c.toNat < 128 ∧ isWhitespace c = false := by
  unfold isClientId at h
  simp only [Bool.and_eq_true, beq_iff_eq, List.all_eq_true] at h
  obtain ⟨⟨hbegin, -⟩, hdigits⟩ := h
  intro c hc
  rw [← List.take_append_drop 6 s] at hc
  rcases List.mem_append.1 hc with hfront | hback
  · have hall : ∀ c ∈ CLIENT_ID_PREFIX, c.toNat < 128 ∧ isWhitespace c = false := by decide
    exact hall c (hbegin ▸ hfront)
  · have hhex := hdigits c hback
    unfold isLowerHexDigit at hhex
    simp only [Bool.or_eq_true, Bool.and_eq_true, decide_eq_true_eq] at hhex
    have hspaces : ∀ n, 48 ≤ n → n < 128 →
        isWhitespace (Char.ofNat n) = false := by decide
    have hlow : 48 ≤ c.toNat := by omega
    have hhigh : c.toNat < 128 := by omega
    have hchar := hspaces c.toNat hlow hhigh
    rw [Char.ofNat_toNat] at hchar
    exact ⟨hhigh, hchar⟩

theorem trimText_of_isClientId {s : Text} (h : isClientId s = true) : trimText s = s :=
  trimText_eq_self fun c hc => (plain_of_isClientId h c hc).2

/-- A stored client id has the form of one. -/
theorem ApplicationTable.isClientId_of_mem {table : ApplicationTable} {row : ApplicationRow}
    (hrow : row ∈ table.rows) {clientId : Text} (hid : row.clientId = some clientId) :
    isClientId clientId = true := by
  have hformat := table.lawful.clientIdFormat row hrow
  rwa [hid] at hformat

theorem lengthBetween_clientId {s : Text} (h : isClientId s = true) :
    lengthBetween 8 128 s = true := by
  have hplane : ∀ c ∈ s, c.toNat < 65536 := fun c hc =>
    lt_trans (plain_of_isClientId h c hc).1 (by decide)
  unfold isClientId at h
  simp only [Bool.and_eq_true, beq_iff_eq] at h
  unfold lengthBetween
  rw [utf16Length_eq_length hplane, h.1.2]
  rfl

theorem utf16Length_code {bytes : List UInt8} (h : bytes.length = 32) :
    utf16Length (generateAuthorizationCode bytes) = 43 := by
  rw [generateAuthorizationCode, utf16Length_toBase64url, h]

theorem utf16Length_secret {bytes : List UInt8} (h : bytes.length = 32) :
    utf16Length (generateClientSecret bytes) = 47 := by
  have hfour : utf16Length CLIENT_SECRET_PREFIX = 4 := by decide
  rw [generateClientSecret, utf16Length_append, utf16Length_toBase64url, h, hfour]

/-- What a query that is parsed was given, and has been checked for. -/
theorem parseAuthorizeQuery_ok {clientId orgId redirectUri state : Option Text}
    {query : AuthorizeQuery}
    (h : parseAuthorizeQuery clientId orgId redirectUri state = .ok query) :
    clientId = some query.clientId ∧ redirectUri = some query.redirectUri ∧
      lengthBetween 8 2048 query.redirectUri = true := by
  unfold parseAuthorizeQuery at h
  split at h
  · cases h
  next clientId' hclient =>
  split at h
  · cases h
  split at h
  · cases h
  next redirectUri' hredirect =>
  split at h
  · cases h
  · cases h
    obtain ⟨hgiven, hlength⟩ := Option.filter_eq_some_iff.1 hredirect
    exact ⟨(Option.filter_eq_some_iff.1 hclient).1, hgiven, hlength⟩

/-! ## What an approval has done -/

/-- The statements that issue a code. -/
theorem issueAuthorizationCode_ok {grant : GrantInput} {log : List ((op : ServerOp) × op.Res)}
    {code : Text} (h : Returns (issueAuthorizationCode grant).run log (.ok code)) :
    ∃ issuedAt bytes row, code = generateAuthorizationCode bytes ∧ row.code = code ∧
      row.clientId = grant.clientId ∧ row.appSlug = grant.appSlug ∧ row.orgId = grant.orgId ∧
      row.walletAddress = grant.wallet ∧ row.redirectUri = grant.redirectUri ∧
      row.usedAt = none ∧
      log = [⟨.now, issuedAt⟩, ⟨.randomBytes 32, bytes⟩, ⟨.insertCode row, .ok ()⟩] := by
  obtain ⟨issuedAt, log₁, hlog, h⟩ := returns_ask_bind.1 h
  obtain ⟨bytes, log₂, hlog₁, h⟩ := returns_ask_bind.1 h
  obtain ⟨expiresAt, -, h⟩ := returns_require_bind.1 h
  obtain ⟨inserted, front, log₃, hlog₂, hinsert, h⟩ := returns_attempt_bind.1 h
  obtain rfl := returns_call.1 hinsert
  obtain ⟨hlog₃, hcode⟩ := returns_exceptT_pure.1 h
  subst hlog₃ hlog₂ hlog₁ hlog
  exact ⟨issuedAt, bytes, _, hcode.symm, hcode, rfl, rfl, rfl, rfl, rfl, rfl, rfl⟩

/-- A redirect that carries a code. -/
theorem code_of_redirectTo {query : AuthorizeQuery} {registered : Text}
    {issued error : Option Text} {target : Url} {params : List (Text × Text)} {code : Text}
    (h : redirectTo rt query registered issued error = .redirect target)
    (hparams : target.params? = some params) (hcode : ("code".toList, code) ∈ params) :
    issued = some code := by
  obtain ⟨-, -, -, -, -, -, -, hbuilt⟩ := buildCallbackRedirect_eq (redirectTo_eq h)
  obtain rfl := Option.some.inj (hparams.symm.trans hbuilt)
  unfold RedirectParams.toList at hcode
  simp only [List.mem_append, Option.mem_toList, Option.map_eq_some_iff, Option.filter_eq_some_iff,
    List.mem_singleton] at hcode
  rcases hcode with (⟨value, ⟨hsome, -⟩, heq⟩ | ⟨value, -, heq⟩) | hstate
  · rw [hsome, (Prod.mk.inj heq).2]
  · exact absurd (Prod.mk.inj heq).1 (show "error".toList ≠ "code".toList by decide)
  · exact absurd (Prod.mk.inj hstate).1 (show "code".toList ≠ "state".toList by decide)

/-- A thread that has found `app` for a request has stored a code in `row`: for this application, at
    the registered callback that matched, and for a wallet that may use it. -/
structure IssuesCode (rt : ServerRuntime) (log : List ((op : ServerOp) × op.Res))
    (query : AuthorizeQuery) (app : ApplicationRow) (callbacks : List Text) (row : CodeRow) :
    Prop where
  select : ⟨.selectByClientId (trimText query.clientId), .ok (some app)⟩ ∈ log
  selectCallbacks : ⟨.selectCallbacks app.key, .ok callbacks⟩ ∈ log
  insert : ⟨.insertCode row, .ok ()⟩ ∈ log
  clientId : row.clientId = query.clientId
  orgId : row.orgId = app.orgId
  queryOrgId : app.orgId.1 = query.orgId
  appSlug : row.appSlug = app.appSlug
  unused : row.usedAt = none
  status : app.status ≠ .revoked
  code : ∃ bytes, ⟨.randomBytes 32, bytes⟩ ∈ log ∧ row.code = generateAuthorizationCode bytes
  callback : ∃ normalized, checkCallback rt.parse (some ⟨app.status, callbacks⟩)
    (some query.redirectUri) rt.callbackMode = .ok (normalized, row.redirectUri)
  found : ∃ front, front ⊆ log ∧ Returns (findApplicationByClientId rt query.clientId).run front
    (.ok (some (toRecord rt app callbacks)))
  allowed : ∃ access decision snapshot, access ⊆ log ∧
    Returns (evaluateLiveAccess rt.keccakId serverReads query.orgId row.walletAddress
      (some app.appSlug)) access (.ok decision snapshot) ∧ decision.allowed = true

/-- What an approval that redirects with a code has done. -/
theorem approve_code {session : SessionData} {form : Option ApproveForm}
    {log : List ((op : ServerOp) × op.Res)} {target : Url} {params : List (Text × Text)}
    {code : Text} (h : Returns (approve rt session form) log (.redirect target))
    (hparams : target.params? = some params) (hcode : ("code".toList, code) ∈ params) :
    ∃ query app callbacks row, form.map ApproveForm.parse = some (.ok query) ∧
      row.code = code ∧ lengthBetween 8 2048 query.redirectUri = true ∧
      IssuesCode rt log query app callbacks row := by
  obtain ⟨submitted, query, application, registered, log₁, rest₁, rfl, hparse, hlog, hresolved, h⟩ :=
    resolved_of_approve h
  obtain ⟨found, front, back, hlog₁, hfind, hresolve⟩ := returns_exceptT_bind.1 hresolved
  obtain ⟨hback, hresolve⟩ := returns_exceptT_pure.1 hresolve
  obtain ⟨rfl, horg, hstatus, -, normalized, hcallback⟩ := resolveApplication_ok hresolve
  obtain ⟨app, callbacks, rfl, hfront⟩ := returns_findApplicationByClientId hfind
  obtain ⟨wallet, log₂, rest₂, hrest₁, hsession, h⟩ := returns_bind.1 h
  cases wallet with
  | none => cases code_of_redirectTo (returns_pure.1 h).2 hparams hcode
  | some wallet =>
      obtain ⟨access, log₃, rest₃, hrest₂, haccess, h⟩ := returns_bind.1 h
      cases access with
      | chainUnavailable detail => cases code_of_redirectTo (returns_pure.1 h).2 hparams hcode
      | ok decision snapshot =>
          simp only at h
          split at h
          · cases code_of_redirectTo (returns_pure.1 h).2 hparams hcode
          next hallowed =>
              obtain ⟨issued, log₄, rest₄, hrest₃, hissue, h⟩ := returns_bind.1 h
              cases issued with
              | error detail => cases code_of_redirectTo (returns_pure.1 h).2 hparams hcode
              | ok code' =>
                  obtain ⟨-, hanswer⟩ := returns_pure.1 h
                  obtain rfl := Option.some.inj (code_of_redirectTo hanswer hparams hcode)
                  obtain ⟨issuedAt, bytes, row, hbytes, hrow, hclient, hslug, horgId, hwallet, huri,
                    hunused, hlog₄⟩ := issueAuthorizationCode_ok hissue
                  subst hlog₄ hrest₃ hrest₂ hrest₁ hback hlog₁ hlog
                  refine ⟨query, app, callbacks, row, congrArg some hparse, hrow,
                    (parseAuthorizeQuery_ok hparse).2.2, ?_⟩
                  exact
                    { select := by simp [hfront]
                      selectCallbacks := by simp [hfront]
                      insert := by simp
                      clientId := hclient
                      orgId := horgId
                      queryOrgId := horg
                      appSlug := hslug
                      unused := hunused
                      status := hstatus
                      code := ⟨bytes, by simp, hrow.trans hbytes⟩
                      callback := ⟨normalized, huri ▸ hcallback⟩
                      found := ⟨front, by simp, hfind⟩
                      allowed := ⟨log₃, decision, snapshot, by
                        intro e he
                        simp [he], hwallet ▸ haccess, by simpa using hallowed⟩ }

/-! ## What an exchange does -/

/-- What an exchange with valid credentials does: it asks the store for the code, and if it gets the
    grant of the application and the access is allowed, it answers with claims. -/
theorem exchange_redeems {body : ExchangeBody} {log : List ((op : ServerOp) × op.Res)}
    {answer : Except ApiError PartnerClaims} {app : ApplicationRow} {callbacks : List Text}
    {normalized registered : Text} (h : Returns (exchange rt body).run log answer)
    (hwell : body.wellFormed = true)
    (hfind : ∀ front found, front ⊆ log →
      Returns (findApplicationByClientId rt body.clientId).run front found →
        found = .ok (some (toRecord rt app callbacks)))
    (hstatus : app.status ≠ .revoked)
    (hsecret : verifyClientSecret rt.crypto body.clientSecret app.clientSecretHash = true)
    (hcallback : checkCallback rt.parse (some ⟨app.status, callbacks⟩) (some body.redirectUri)
      rt.callbackMode = .ok (normalized, registered)) :
    ∃ row urls usedAt consumed rest,
      log =
        [⟨.selectByClientId (trimText body.clientId), .ok (some row)⟩,
          ⟨.selectCallbacks row.key, .ok urls⟩, ⟨.now, usedAt⟩,
          ⟨.consumeCode ⟨body.code, body.clientId, registered, usedAt⟩, consumed⟩] ++ rest ∧
      ∀ grant, consumed = .ok (some grant) → grant.orgId = app.orgId → grant.appSlug = app.appSlug →
        ∃ access evaluated, access ⊆ rest ∧
          Returns (evaluateLiveAccess rt.keccakId serverReads grant.orgId.1 grant.wallet
            (some grant.appSlug)) access evaluated ∧
          ∀ decision snapshot, evaluated = .ok decision snapshot → decision.allowed = true →
            ∃ claims, answer = .ok claims := by
  unfold exchange at h
  rw [hwell, Bool.not_true, refuseIf_false_bind] at h
  obtain ⟨found, log₁, rest₁, hlog, hfound, h⟩ := returns_attempt_bind_cases h
  obtain rfl := hfind log₁ found (hlog ▸ List.subset_append_left _ _) hfound
  replace h := h _ rfl
  have hauthenticated : authenticated rt (some (toRecord rt app callbacks)) body.clientSecret =
      some (toRecord rt app callbacks) := by
    unfold authenticated
    simp only
    rw [if_neg (show (toRecord rt app callbacks).status ≠ .revoked from hstatus),
      if_pos (show verifyClientSecret rt.crypto body.clientSecret
        (toRecord rt app callbacks).clientSecretHash = true from hsecret)]
  have haccepted : acceptedCallback rt (toRecord rt app callbacks) body.redirectUri =
      some registered := by
    unfold acceptedCallback
    rw [show (toRecord rt app callbacks).subject = ⟨app.status, callbacks⟩ from rfl, hcallback]
  rw [hauthenticated, require_some_bind, haccepted, require_some_bind] at h
  -- The code is long enough to be looked for.
  have hlong : ¬ utf16Length body.code < 32 := by
    unfold ExchangeBody.wellFormed lengthBetween at hwell
    simp only [Bool.and_eq_true, decide_eq_true_eq] at hwell
    omega
  obtain ⟨consumed, log₂, rest₂, hrest₁, hconsume, h⟩ := returns_attempt_bind_cases h
  unfold consumeAuthorizationCode at hconsume
  rw [if_neg hlong] at hconsume
  obtain ⟨usedAt, log₃, hlog₂, hconsume⟩ := returns_ask_bind.1 hconsume
  obtain ⟨result, hresult, hconsumed⟩ := returns_attempt_any.1 hconsume
  obtain rfl := returns_call.1 hresult
  obtain ⟨row, urls, -, hlog₁⟩ := returns_findApplicationByClientId hfound
  subst hlog₁ hlog₂ hrest₁ hlog
  refine ⟨row, urls, usedAt, result, rest₂, rfl, ?_⟩
  rintro grant rfl horg hslug
  obtain rfl : consumed = .ok (some grant) := hconsumed
  replace h := h _ rfl
  have hbound : (grant.orgId != (toRecord rt app callbacks).orgId ||
      grant.appSlug != (toRecord rt app callbacks).slug) = false := by
    simp [toRecord, horg, hslug]
  rw [require_some_bind, hbound, refuseIf_false_bind] at h
  obtain ⟨evaluated, access, rest₃, hrest₂, haccess, h⟩ := returns_lift_bind.1 h
  refine ⟨access, evaluated, hrest₂ ▸ List.subset_append_left _ _, haccess, ?_⟩
  rintro decision snapshot rfl hallowed
  have hread : (EvaluatedAccess.ok decision snapshot).read? = some (decision, snapshot) := rfl
  rw [hread, require_some_bind, hallowed, Bool.not_true, refuseIf_false_bind] at h
  obtain ⟨verifiedAt, rest₄, -, h⟩ := returns_ask_bind.1 h
  exact ⟨_, (returns_pure.1 h).2.symm⟩

/-! ## What becomes of the row -/

theorem CodeTable.consume_of_mem {table : CodeTable} {query : ConsumeQuery} {row : CodeRow}
    (hrow : row ∈ table.rows) (hconsumable : consumable query row = true) :
    (table.consume query).1 = some row.grant := by
  have hsome : (table.rows.find? (consumable query)).isSome :=
    List.find?_isSome.2 ⟨row, hrow, hconsumable⟩
  obtain ⟨found, hfound⟩ := Option.isSome_iff_exists.1 hsome
  have hcode : found.code = row.code :=
    (consumable_iff.1 (List.find?_some hfound)).1.trans (consumable_iff.1 hconsumable).1.symm
  obtain rfl := eq_of_key table.unique (List.mem_of_find?_eq_some hfound) hrow hcode
  unfold consume
  rw [hfound, Option.map_some]

namespace ServerState

/-- A row stays as it is unless its code is consumed. -/
theorem exec_keeps_code {s s' : ServerState σ} {op : ServerOp} {r : op.Res}
    (h : s.exec rt op r s') {row : CodeRow} (hrow : row ∈ s.codes.rows)
    (hothers : ∀ query, op = .consumeCode query → query.code = row.code →
      (s.codes.consume query).1 = none) : row ∈ s'.codes.rows := by
  rcases exec_codes h with heq | ⟨new, -, heq⟩ | ⟨query, hop, heq⟩
  · exact heq ▸ hrow
  · exact heq ▸ CodeTable.mem_insert_of_mem hrow new
  · rw [heq]
    refine CodeTable.mem_consume.2 ⟨row, hrow, if_neg fun hconsumable => ?_⟩
    have hnone := hothers query hop (CodeTable.consumable_iff.1 hconsumable).1.symm
    rw [CodeTable.consume_of_mem hrow hconsumable] at hnone
    cases hnone

/-- A code that is stored is there. -/
theorem exec_insertCode {s s' : ServerState σ} {row : CodeRow}
    (h : s.exec rt (.insertCode row) (.ok ()) s') : row ∈ s'.codes.rows := by
  obtain ⟨hresult, rfl⟩ := Prod.mk.inj (Attempt.of_ok h)
  unfold CodeTable.insert at hresult ⊢
  split at hresult
  · cases hresult
  next hnew =>
      split at hresult
      · cases hresult
      next huri =>
          rw [dif_neg hnew, if_neg huri]
          exact List.mem_append_right _ (List.mem_singleton_self row)

end ServerState

/-! ## What is said -/

/-- Reads of the chain and of the registry. -/
def ServerOp.Consults (op : ServerOp) : Prop :=
  op.Reads ∧ op ≠ .now ∧ ∀ size, op ≠ .randomBytes size

/-- An exchange presents a code with the client id of the application that is stored, its secret,
    and the redirect URI of the request or the registered callback that it matched. -/
structure Presents (rt : ServerRuntime) (app : ApplicationRow) (callbacks : List Text)
    (query : AuthorizeQuery) (code : Text) (body : ExchangeBody) : Prop where
  code : body.code = code
  clientId : app.clientId = some body.clientId
  generated : ∃ bytes : List UInt8, bytes.length = 32 ∧
    body.clientSecret = generateClientSecret bytes
  secret : verifyClientSecret rt.crypto body.clientSecret app.clientSecretHash = true
  redirectUri : body.redirectUri = query.redirectUri ∨ ∃ normalized,
    checkCallback rt.parse (some ⟨app.status, callbacks⟩) (some query.redirectUri)
      rt.callbackMode = .ok (normalized, body.redirectUri)

/-- Thread `j` exchanges the code that thread `i` has stored in `row`, and nothing comes in
    between. -/
structure UndisturbedExchange (ts : List (server σ rt).Transition) (i j : Nat) (row : CodeRow) :
    Prop where
  later : ∀ t ∈ ts, ∀ r, t.move = .perform i (.insertCode row) r → t.before.threads[j]? = none
  /-- What both have read of the registry and of the chain has not changed, and is there. -/
  unchanged : Agree (fun op r r' => op.Consults → r = r') (ownLog i ts) (ownLog j ts)
  /-- Nobody else has redeemed the code. -/
  first : ∀ t ∈ ts, ∀ k query r, t.move = .perform k (.consumeCode query) r →
    query.code = row.code → k = j ∨ r = .ok none
  answered : ∀ t ∈ ts, ∀ query e, t.move ≠ .perform j (.consumeCode query) (.error e)
  inTime : ∀ t ∈ ts, ∀ query r, t.move = .perform j (.consumeCode query) r →
    query.now.1 < row.expiresAt.1

/-! ## Runs -/

section Runs

variable {ts : List (server σ rt).Transition} {s : ServerState σ} {c c' : (server σ rt).Config}

theorem code_kept (h : (server σ rt).system.Path c ts c') {row : CodeRow}
    (hrow : row ∈ c.shared.codes.rows)
    (hothers : ∀ t ∈ ts, ∀ k query r, t.move = .perform k (.consumeCode query) r →
      query.code = row.code → r = .ok none) : row ∈ c'.shared.codes.rows := by
  have hstep : ∀ t ∈ ts, t.Valid → row ∈ t.before.shared.codes.rows →
      row ∈ t.after.shared.codes.rows := by
    intro t ht hv hbefore
    rcases Transition.Valid.shared hv with heq | ⟨k, op, r, hmove, hexec⟩ | henv
    · exact heq ▸ hbefore
    · have hexec : ServerState.exec rt t.before.shared op r t.after.shared := hexec
      refine ServerState.exec_keeps_code hexec hbefore ?_
      rintro query rfl hcode
      obtain rfl := hothers t ht k query r hmove hcode
      exact Except.ok.inj (Prod.mk.inj (Attempt.of_ok hexec)).1
    · exact henv.2.2.2.2 ▸ hbefore
  exact (h.invariant (P := fun c : (server σ rt).Config => row ∈ c.shared.codes.rows) hstep hrow).1

/-- When the exchange asks for its code, the row is there as it was stored. -/
theorem issued_row_there {pre post : List (server σ rt).Transition} {u : (server σ rt).Transition}
    (h : (server σ rt).Run s (pre ++ u :: post) c) {i j : Nat} {row : CodeRow}
    (hinsert : ⟨.insertCode row, .ok ()⟩ ∈ ownLog i (pre ++ u :: post))
    (hundisturbed : UndisturbedExchange (pre ++ u :: post) i j row) {query : ConsumeQuery}
    {r : Except String (Option ConsumedGrant)} (hmove : u.move = .perform j (.consumeCode query) r)
    (hfirst : ∀ query r, ⟨.consumeCode query, r⟩ ∉ ownLog j pre) :
    row ∈ u.before.shared.codes.rows := by
  obtain ⟨t, ht, hissue⟩ := mem_ownLog.1 hinsert
  obtain ⟨hbefore, hvalid, hafter⟩ := h.split_at
  rcases List.mem_append.1 ht with hearlier | hlater
  · obtain ⟨front, mid, rfl⟩ := List.append_of_mem hearlier
    obtain ⟨-, hv, hpath⟩ := hbefore.split_at
    obtain ⟨-, -, -, -, hexec, -⟩ := Transition.Valid.perform hv hissue
    have hexec : ServerState.exec rt t.before.shared (.insertCode row) (.ok ()) t.after.shared :=
      hexec
    refine code_kept hpath (ServerState.exec_insertCode hexec) fun v hv k q r' hconsume hcode => ?_
    have hmem : v ∈ front ++ t :: mid := by simp [hv]
    rcases hundisturbed.first v (List.mem_append_left _ hmem) k q r' hconsume hcode with rfl | hnone
    · exact absurd (mem_ownLog.2 ⟨v, hmem, hconsume⟩) (hfirst q r')
    · exact hnone
  · -- The exchange has begun by then, and was not to.
    exfalso
    obtain ⟨th, next, hthread, -⟩ := Transition.Valid.perform hvalid hmove
    obtain ⟨front, mid, hsplit⟩ := List.append_of_mem hlater
    have hpath : (server σ rt).system.Path u.before (front ++ t :: mid) c :=
      hsplit ▸ TransitionSystem.Path.cons hvalid hafter
    obtain ⟨hfront, -, -⟩ := hpath.split_at
    obtain ⟨q, hthere, -⟩ := thread_follows hfront hthread
    have hnone : t.before.threads[j]? = none := hundisturbed.later t ht _ hissue
    cases hnone.symm.trans hthere

/-- The store grants the code to the client id that is bound to it, and to no other. -/
theorem granted_iff {pre post : List (server σ rt).Transition} {u : (server σ rt).Transition}
    (h : (server σ rt).Run s (pre ++ u :: post) c) {j : Nat} {row : CodeRow}
    (hthere : row ∈ u.before.shared.codes.rows) {query : ConsumeQuery}
    {r : Except String (Option ConsumedGrant)} (hmove : u.move = .perform j (.consumeCode query) r)
    (hanswered : ∀ e, r ≠ .error e) (hcode : query.code = row.code) (hunused : row.usedAt = none)
    (hinTime : query.now.1 < row.expiresAt.1) :
    (row.clientId = query.clientId ∧ row.redirectUri = query.redirectUri →
      r = .ok (some row.grant)) ∧
    ∀ grant, r = .ok (some grant) → row.clientId = query.clientId := by
  obtain ⟨-, hvalid, -⟩ := h.split_at
  obtain ⟨-, -, -, -, hexec, -⟩ := Transition.Valid.perform hvalid hmove
  constructor
  · rintro ⟨hclient, huri⟩
    have hconsumable : CodeTable.consumable query row = true :=
      CodeTable.consumable_iff.2 ⟨hcode.symm, hclient, huri, hunused, hinTime⟩
    cases r with
    | error e => exact absurd rfl (hanswered e)
    | ok granted =>
        have hresult := (Prod.mk.inj (Attempt.of_ok hexec)).1
        rw [← hresult, CodeTable.consume_of_mem hthere hconsumable]
  · rintro grant rfl
    have hresult := Except.ok.inj (Prod.mk.inj (Attempt.of_ok hexec)).1
    obtain ⟨found, hfound, hconsumable, -⟩ := CodeTable.consume_eq_some hresult
    obtain ⟨hfoundCode, hclient, -⟩ := CodeTable.consumable_iff.1 hconsumable
    obtain rfl := eq_of_key u.before.shared.codes.unique hfound hthere (hfoundCode.trans hcode)
    exact hclient

/-- What the exchange presents is well formed, but for the length of its redirect URI. -/
theorem wellFormed_of_presents {app : ApplicationRow} {callbacks : List Text}
    {query : AuthorizeQuery} {bytes : List UInt8} {body : ExchangeBody}
    (h : Presents rt app callbacks query (generateAuthorizationCode bytes) body)
    (hbytes : bytes.length = 32) (hclientId : isClientId body.clientId = true)
    (huri : lengthBetween 8 2048 body.redirectUri = true) : body.wellFormed = true := by
  obtain ⟨secretBytes, hlength, hsecret⟩ := h.generated
  have hcode : lengthBetween 32 512 body.code = true := by
    unfold lengthBetween
    rw [h.code, utf16Length_code hbytes]
    rfl
  have hsecret : lengthBetween 16 512 body.clientSecret = true := by
    unfold lengthBetween
    rw [hsecret, utf16Length_secret hlength]
    rfl
  unfold ExchangeBody.wellFormed
  rw [lengthBetween_clientId hclientId, hsecret, hcode, huri]
  rfl

/-- A registered callback is never too short for an exchange. -/
theorem lengthBetween_presented (h : (server σ rt).Run s ts c) {i : Nat} {app : ApplicationRow}
    {callbacks : List Text} {query : AuthorizeQuery} {code : Text} {body : ExchangeBody}
    (hcallbacks : ⟨.selectCallbacks app.key, .ok callbacks⟩ ∈ ownLog i ts)
    (hpresents : Presents rt app callbacks query code body)
    (hquery : lengthBetween 8 2048 query.redirectUri = true)
    (hlength : utf16Length body.redirectUri ≤ 2048) :
    lengthBetween 8 2048 body.redirectUri = true := by
  rcases hpresents.redirectUri with heq | ⟨normalized, hcallback⟩
  · rw [heq]
    exact hquery
  · obtain ⟨t, -, -, hstored⟩ :=
      stored_of_selectCallbacks h hcallbacks (checkCallback_ok hcallback).2
    have hcheck := t.before.shared.callbacks.lawful.urlCheck _ hstored
    unfold isStorableCallback at hcheck
    simp only [Bool.and_eq_true, decide_eq_true_eq] at hcheck
    have hlong := hcheck.1.2.trans (length_le_utf16Length body.redirectUri)
    unfold lengthBetween
    simp only [hlong, hlength, decide_true, Bool.and_self]

/-- Either of the two URIs is matched with the callback that the code is bound to. -/
theorem checkCallback_presented (hparse : StandardParser rt.parse) {app : ApplicationRow}
    {callbacks : List Text} {query : AuthorizeQuery} {code : Text} {body : ExchangeBody}
    (hpresents : Presents rt app callbacks query code body) {normalized registered : Text}
    (hcallback : checkCallback rt.parse (some ⟨app.status, callbacks⟩) (some query.redirectUri)
      rt.callbackMode = .ok (normalized, registered))
    (hlength : utf16Length body.redirectUri ≤ 2048) :
    checkCallback rt.parse (some ⟨app.status, callbacks⟩) (some body.redirectUri)
      rt.callbackMode = .ok (normalized, registered) := by
  rcases hpresents.redirectUri with heq | ⟨normalized', hcallback'⟩
  · rw [heq]
    exact hcallback
  · obtain ⟨rfl, rfl⟩ := Prod.mk.inj (Except.ok.inj (hcallback'.symm.trans hcallback))
    exact checkCallback_registered hparse hcallback' hlength

/-- Before an exchange asks for its code it only reads. -/
theorem consumeCode_notMem {clientId : Text} {row : ApplicationRow} {urls : List Text}
    {usedAt : TimeValue} (query : ConsumeQuery) (r : Except String (Option ConsumedGrant)) :
    (⟨.consumeCode query, r⟩ : (op : ServerOp) × op.Res) ∉
      [⟨.selectByClientId clientId, .ok (some row)⟩, ⟨.selectCallbacks row.key, .ok urls⟩,
        ⟨.now, usedAt⟩] := by
  simp

/-- The client id of the application is the one that was sent, less the white space around it. -/
theorem trimText_clientId (h : (server σ rt).Run s ts c) {i : Nat} {app : ApplicationRow}
    {callbacks : List Text} {query : AuthorizeQuery} {row : CodeRow} {body : ExchangeBody}
    (hissued : IssuesCode rt (ownLog i ts) query app callbacks row)
    (hpresents : Presents rt app callbacks query row.code body) :
    trimText query.clientId = body.clientId ∧ isClientId body.clientId = true := by
  obtain ⟨t, -, -, happ, hclient⟩ := stored_of_selectByClientId h hissued.select
  exact ⟨Option.some.inj (hclient.symm.trans hpresents.clientId),
    ApplicationTable.isClientId_of_mem happ hpresents.clientId⟩

/-- The code is granted only where it was stored with the client id that is presented. -/
theorem clientId_of_claims (h : (server σ rt).Run s ts c) {i j : Nat} {app : ApplicationRow}
    {callbacks : List Text} {query : AuthorizeQuery} {row : CodeRow} {body : ExchangeBody}
    {claims : PartnerClaims} (hissued : IssuesCode rt (ownLog i ts) query app callbacks row)
    (hj : c.Answers j (.exchange body) (.ok claims))
    (hpresents : Presents rt app callbacks query row.code body)
    (hundisturbed : UndisturbedExchange ts i j row) : row.clientId = body.clientId := by
  obtain ⟨app', callbacks', -, registered', usedAt, grant, access', -, -, verifiedAt, -, -, -, -,
    -, -, -, -, hlog⟩ := exchange_ok (Run.returns h hj)
  obtain ⟨pre, u, post, rfl, hmove, hpre, -⟩ := exists_of_ownLog (V := server σ rt)
    [⟨.selectByClientId (trimText body.clientId), .ok (some app')⟩,
      ⟨.selectCallbacks app'.key, .ok callbacks'⟩, ⟨.now, usedAt⟩] hlog
  have hthere := issued_row_there h hissued.insert hundisturbed hmove fun query r hmem =>
    consumeCode_notMem query r (hpre ▸ hmem)
  have hgranted := granted_iff h hthere hmove (fun e herror => by cases herror) hpresents.code
    hissued.unused (hundisturbed.inTime u (by simp) _ _ hmove)
  exact hgranted.2 grant rfl

/-- An undisturbed exchange finds the application that the approval has found. -/
theorem found_alike {i j : Nat} {app : ApplicationRow} {callbacks : List Text}
    {query : AuthorizeQuery} {row : CodeRow} {clientId : Text}
    (hissued : IssuesCode rt (ownLog i ts) query app callbacks row)
    (hundisturbed : UndisturbedExchange ts i j row)
    (htrim : trimText query.clientId = trimText clientId)
    {front : List ((op : ServerOp) × op.Res)} {found : Except String (Option RegisteredApplication)}
    (hfront : front ⊆ ownLog j ts)
    (hfound : Returns (findApplicationByClientId rt clientId).run front found) :
    found = .ok (some (toRecord rt app callbacks)) := by
  obtain ⟨front', hfront', hfound'⟩ := hissued.found
  have hlookup : Related (fun (op : ServerOp) r r' => op.Consults → r = r')
      (OrSame (Option.Rel (SameRow rt (fun _ => True) (· = ·))))
      (findApplicationByClientId rt query.clientId) (findApplicationByClientId rt clientId) := by
    refine related_findApplicationByClientId htrim ?_ ?_
    · intro r r' hA
      rw [hA ⟨trivial, by simp, by simp⟩]
      exact OrSame.refl (fun _ => ⟨rfl, fun _ _ => trivial⟩) r'
    · intro row _ r r' hA
      exact orSame_eq.2 (hA ⟨trivial, by simp, by simp⟩)
  have hrelated := hlookup _ _ _ _ hfound' hfound (hundisturbed.unchanged.subset hfront' hfront)
  cases found with
  | error e => exact hrelated.elim
  | ok found =>
      cases hrelated with
      | some hsame =>
          obtain ⟨row', urls, urls', -, rfl, heq, rfl⟩ := hsame
          rw [heq]

/-- It comes to the decision of the approval, which allowed access. -/
theorem decided_alike {i j : Nat} {app : ApplicationRow} {callbacks : List Text}
    {query : AuthorizeQuery} {row : CodeRow}
    (hissued : IssuesCode rt (ownLog i ts) query app callbacks row)
    (hundisturbed : UndisturbedExchange ts i j row)
    {access : List ((op : ServerOp) × op.Res)} {evaluated : EvaluatedAccess}
    (haccess : access ⊆ ownLog j ts)
    (hevaluated : Returns (evaluateLiveAccess rt.keccakId serverReads row.grant.orgId.1
      row.walletAddress (some row.grant.appSlug)) access evaluated) :
    ∃ decision snapshot, evaluated = .ok decision snapshot ∧ decision.allowed = true := by
  obtain ⟨access', decision, snapshot, haccess', hdecided, hallowed⟩ := hissued.allowed
  have hagrees : serverReads.Agrees (fun op r r' => op.Consults → r = r') query.orgId
      row.walletAddress := by
    refine agrees_serverReads fun op r r' hop hA => hA ?_
    cases op with
    | _ => first | exact hop.elim | exact ⟨trivial, by simp, by simp⟩
  have horg : row.grant.orgId.1 = query.orgId :=
    (congrArg Subtype.val hissued.orgId).trans hissued.queryOrgId
  have hslug : row.grant.appSlug = app.appSlug := hissued.appSlug
  rw [horg, hslug] at hevaluated
  have hsame := related_evaluateLiveAccess hagrees rt.keccakId (some app.appSlug) _ _ _ _ hdecided
    hevaluated (hundisturbed.unchanged.subset haccess' haccess)
  exact ⟨decision, snapshot, hsame.symm, hallowed⟩

/-- An exchange that presents the client id that was stored is answered with claims. -/
theorem claims_of_clientId (hparse : StandardParser rt.parse) (h : (server σ rt).Run s ts c)
    {i j : Nat} {app : ApplicationRow} {callbacks : List Text} {query : AuthorizeQuery}
    {row : CodeRow} {body : ExchangeBody} {answer : Except ApiError PartnerClaims}
    (hquery : lengthBetween 8 2048 query.redirectUri = true)
    (hissued : IssuesCode rt (ownLog i ts) query app callbacks row)
    (hj : c.Answers j (.exchange body) answer)
    (hpresents : Presents rt app callbacks query row.code body)
    (hundisturbed : UndisturbedExchange ts i j row) (hclient : row.clientId = body.clientId)
    (hlength : utf16Length body.redirectUri ≤ 2048) : ∃ claims, answer = .ok claims := by
  obtain ⟨htrim, hid⟩ := trimText_clientId h hissued hpresents
  obtain ⟨bytes, hrandom, hcode⟩ := hissued.code
  have hbytes : bytes.length = 32 := by
    obtain ⟨t, ht, hmove⟩ := mem_ownLog.1 hrandom
    obtain ⟨-, -, -, -, hexec, -⟩ := Transition.Valid.perform (h.valid t ht) hmove
    exact hexec.1
  have hwell : body.wellFormed = true :=
    wellFormed_of_presents (hcode ▸ hpresents) hbytes hid
      (lengthBetween_presented h hissued.selectCallbacks hpresents hquery hlength)
  obtain ⟨normalized, hcallback⟩ := hissued.callback
  have hfind : ∀ front found, front ⊆ ownLog j ts →
      Returns (findApplicationByClientId rt body.clientId).run front found →
        found = .ok (some (toRecord rt app callbacks)) := by
    intro front found hfront hfound
    refine found_alike hissued hundisturbed ?_ hfront hfound
    rw [htrim, trimText_of_isClientId hid]
  obtain ⟨app', urls, usedAt, consumed, rest, hlog, hrest⟩ :=
    exchange_redeems (Run.returns h hj) hwell hfind hissued.status hpresents.secret
      (checkCallback_presented hparse hpresents hcallback hlength)
  obtain ⟨pre, u, post, rfl, hmove, hpre, hpost⟩ := exists_of_ownLog (V := server σ rt)
    [⟨.selectByClientId (trimText body.clientId), .ok (some app')⟩,
      ⟨.selectCallbacks app'.key, .ok urls⟩, ⟨.now, usedAt⟩] hlog
  have hu : u ∈ pre ++ u :: post := by simp
  have hthere := issued_row_there h hissued.insert hundisturbed hmove fun query r hmem =>
    consumeCode_notMem query r (hpre ▸ hmem)
  have hgranted := granted_iff h hthere hmove
    (fun e herror => hundisturbed.answered u hu _ e (herror ▸ hmove)) hpresents.code
    hissued.unused (hundisturbed.inTime u hu _ _ hmove)
  obtain ⟨access, evaluated, haccess, hevaluated, hclaims⟩ :=
    hrest row.grant (hgranted.1 ⟨hclient, rfl⟩) hissued.orgId hissued.appSlug
  have hback : access ⊆ ownLog j (pre ++ u :: post) := by
    rw [hlog]
    exact List.Subset.trans haccess (List.subset_append_right _ _)
  obtain ⟨decision, snapshot, rfl, hallowed⟩ := decided_alike hissued hundisturbed hback hevaluated
  exact hclaims decision snapshot rfl hallowed

/-- A code that an approval has redirected with can be redeemed by the client of the application,
    undisturbed and in time, exactly if the approval was sent the client id without white space
    around it and the redirect URI that is presented is not too long for an exchange. -/
theorem redeemable_iff (hparse : StandardParser rt.parse) (h : (server σ rt).Run s ts c) {i : Nat}
    {session : SessionData} {form : Option ApproveForm} {target : Url}
    {params : List (Text × Text)} {code : Text}
    (hi : c.Answers i (.approve session form) (.redirect target))
    (hparams : target.params? = some params) (hcode : ("code".toList, code) ∈ params) :
    ∃ query app callbacks row, form.map ApproveForm.parse = some (.ok query) ∧ row.code = code ∧
      IssuesCode rt (ownLog i ts) query app callbacks row ∧
      ∀ j body answer, c.Answers j (.exchange body) answer →
        Presents rt app callbacks query code body → UndisturbedExchange ts i j row →
        ((∃ claims, answer = .ok claims) ↔
          trimText query.clientId = query.clientId ∧ utf16Length body.redirectUri ≤ 2048) := by
  obtain ⟨query, app, callbacks, row, hform, rfl, hquery, hissued⟩ :=
    approve_code (Run.returns h hi) hparams hcode
  refine ⟨query, app, callbacks, row, hform, rfl, hissued, ?_⟩
  intro j body answer hj hpresents hundisturbed
  obtain ⟨htrim, -⟩ := trimText_clientId h hissued hpresents
  constructor
  · rintro ⟨claims, rfl⟩
    constructor
    · calc trimText query.clientId = body.clientId := htrim
        _ = row.clientId := (clientId_of_claims h hissued hj hpresents hundisturbed).symm
        _ = query.clientId := hissued.clientId
    · have hwell := (returns_refuseIf_bind.1 (Run.returns h hj)).1
      simp only [Bool.not_eq_eq_eq_not, Bool.not_false, ExchangeBody.wellFormed, lengthBetween,
        Bool.and_eq_true, decide_eq_true_eq] at hwell
      exact hwell.2.2
  · rintro ⟨hplain, hlength⟩
    have hclient : row.clientId = body.clientId :=
      hissued.clientId.trans (hplain.symm.trans htrim)
    exact claims_of_clientId hparse h hquery hissued hj hpresents hundisturbed hclient hlength

end Runs

/-! ## Runs in which nothing but codes is written -/

section Quiet

variable {ts : List (server σ rt).Transition} {s : ServerState σ} {c c' : (server σ rt).Config}

/-- The statements of the registry are left out. -/
def ServerOp.leavesRegistry : ServerOp → Bool
  | upsertApplication _ => false
  | updateApplication .. => false
  | deleteCallbacks _ => false
  | insertCallbacks .. => false
  | _ => true

/-- Until `T` only thread `j` redeems codes, which do not expire before. -/
def quiet (j T : Nat) (t : (server σ rt).Transition) : Bool :=
  match t.move with
  | .arrive _ => true
  | .outside => false
  | .perform _ (.insertCode row) _ => t.before.threads.length ≤ j && T < row.expiresAt.1
  | .perform k (.consumeCode query) _ => k == j && query.now.1 ≤ T
  | .perform _ op _ => ServerOp.leavesRegistry op

/-- What is read of the chain and of the registry is the same in both states. -/
def ServerState.SameRegistry (s s' : ServerState σ) : Prop :=
  s'.chain = s.chain ∧ s'.clock = s.clock ∧ s'.applications = s.applications ∧
    s'.callbacks = s.callbacks

theorem ServerState.SameRegistry.outcome {s s' : ServerState σ} (h : s.SameRegistry s')
    {op : ServerOp} (hop : op.Consults) : s'.outcome rt op = s.outcome rt op := by
  obtain ⟨hchain, hclock, happlications, hcallbacks⟩ := h
  cases op with
  | _ => first
    | exact hop.1.elim
    | (unfold ServerState.outcome; simp only [hchain, hclock, happlications, hcallbacks])

omit [ERC721 σ] in
theorem ServerState.effect_sameRegistry {s s' : ServerState σ} {op : ServerOp}
    (h : op.leavesRegistry = true) (heq : s' = s ∨ s' = s.effect op) : s.SameRegistry s' := by
  rcases heq with rfl | rfl
  · exact ⟨rfl, rfl, rfl, rfl⟩
  · cases op with
    | _ => first | exact ⟨rfl, rfl, rfl, rfl⟩ | cases h

/-- Along a quiet path nothing is written that requests read. -/
theorem sameRegistry_of_quiet (h : (server σ rt).system.Path c ts c') {j T : Nat}
    (hquiet : ∀ t ∈ ts, quiet j T t = true) :
    ∀ t ∈ ts, c.shared.SameRegistry t.before.shared := by
  have hstep : ∀ t ∈ ts, t.Valid → c.shared.SameRegistry t.before.shared →
      c.shared.SameRegistry t.after.shared := by
    intro t ht hv hbefore
    have hq := hquiet t ht
    have hsame : t.before.shared.SameRegistry t.after.shared := by
      unfold quiet at hq
      cases hmove : t.move with
      | arrive req =>
          rw [(Transition.Valid.arrive hv hmove).2.1]
          exact ⟨rfl, rfl, rfl, rfl⟩
      | outside =>
          rw [hmove] at hq
          cases hq
      | perform k op r =>
          obtain ⟨-, -, -, -, hexec, -⟩ := Transition.Valid.perform hv hmove
          have hexec : ServerState.exec rt t.before.shared op r t.after.shared := hexec
          refine ServerState.effect_sameRegistry ?_ (ServerState.exec_effect hexec)
          rw [hmove] at hq
          cases op with
          | _ => first | rfl | exact hq
    obtain ⟨h₁, h₂, h₃, h₄⟩ := hbefore
    obtain ⟨h₁', h₂', h₃', h₄'⟩ := hsame
    exact ⟨h₁'.trans h₁, h₂'.trans h₂, h₃'.trans h₃, h₄'.trans h₄⟩
  exact fun t ht => ((h.invariant (P := fun c' : (server σ rt).Config =>
    c.shared.SameRegistry c'.shared) hstep ⟨rfl, rfl, rfl, rfl⟩).2 t ht).1

/-- In a scripted run an operation results in what it results in when nothing fails. -/
theorem result_of_play {cues : List (serverPlayer σ rt).Cue}
    (hplay : (serverPlayer σ rt).play c cues = some (ts, c')) {t : (server σ rt).Transition}
    (ht : t ∈ ts) {i : Nat} {op : ServerOp} {r : op.Res} (hmove : t.move = .perform i op r)
    (hop : ∀ size, op ≠ .randomBytes size) : r = t.before.shared.outcome rt op := by
  obtain ⟨cue, hcue⟩ := Player.move_of_play hplay t ht
  obtain ⟨choice, hperform⟩ := Player.perform_of_move hcue hmove
  cases op with
  | randomBytes size => exact absurd rfl (hop size)
  | _ => exact (Prod.mk.inj (Option.some.inj hperform)).1.symm

/-- In a quiet scripted run the exchange of thread `j` is undisturbed. -/
theorem undisturbed_of_play {cues : List (serverPlayer σ rt).Cue}
    (hplay : (serverPlayer σ rt).play (idle s) cues = some (ts, c)) {i j T : Nat}
    (hquiet : ∀ t ∈ ts, quiet j T t = true) {row : CodeRow}
    (hinsert : ⟨.insertCode row, .ok ()⟩ ∈ ownLog i ts) : UndisturbedExchange ts i j row where
  later := by
    intro t ht r hmove
    have hq := hquiet t ht
    unfold quiet at hq
    rw [hmove] at hq
    simp only [Bool.and_eq_true, decide_eq_true_eq] at hq
    exact List.getElem?_eq_none_iff.2 hq.1
  unchanged := by
    intro op r r' hr hr' hop
    have hsame := sameRegistry_of_quiet (Player.play_path hplay) hquiet
    have hresult : ∀ {k : Nat} {r : op.Res}, ⟨op, r⟩ ∈ ownLog k ts → r = s.outcome rt op := by
      intro k r hmem
      obtain ⟨t, ht, hmove⟩ := mem_ownLog.1 hmem
      rw [result_of_play hplay ht hmove hop.2.2]
      exact (hsame t ht).outcome hop
    rw [hresult hr, hresult hr']
  first := by
    intro t ht k query r hmove _
    have hq := hquiet t ht
    unfold quiet at hq
    rw [hmove] at hq
    simp only [Bool.and_eq_true, beq_iff_eq] at hq
    exact .inl hq.1
  answered := by
    intro t ht query e hmove
    have hresult := result_of_play hplay ht hmove fun size => by simp
    cases hresult
  inTime := by
    obtain ⟨u, hu, hissue⟩ := mem_ownLog.1 hinsert
    have hexpires := hquiet u hu
    unfold quiet at hexpires
    rw [hissue] at hexpires
    simp only [Bool.and_eq_true, decide_eq_true_eq] at hexpires
    intro t ht query r hmove
    have hq := hquiet t ht
    unfold quiet at hq
    rw [hmove] at hq
    simp only [Bool.and_eq_true, decide_eq_true_eq] at hq
    exact Nat.lt_of_le_of_lt hq.2 hexpires.2

end Quiet

/-! ## A code for a padded client id -/

namespace Sample

def portalClientId : Text := generateClientId (List.replicate 16 1)

def portalRow : ApplicationRow where
  orgId := ⟨1, one_safe⟩
  appSlug := "portal"
  appId := 7
  name := "Portal".toList
  url := "https://portal.example".toList
  description := none
  logoUrl := none
  clientId := some portalClientId
  clientSecretHash := hashClientSecret portalRuntime.crypto
    (generateClientSecret (List.replicate 32 1)) (List.replicate 16 1)
  clientSecretUpdatedAt := some ⟨1699999990000, by decide⟩
  allowedRoles := [.admin]
  status := .active

/-- The portal is registered, here and on the chain. -/
def portalRegistered : ServerState Ledger :=
  { portalOpen with
    applications := ⟨[portalRow], by decide +kernel⟩
    callbacks := ⟨[⟨portalApp, portalCallback⟩], by decide +kernel⟩ }

def portalForm (clientId : Text) : ApproveForm :=
  { paddedForm with clientId := some (.text clientId) }

def portalExchange : ExchangeBody :=
  { paddedExchange with clientId := portalClientId }

def portalCode : Text := generateAuthorizationCode (List.replicate 32 2)

/-- Alice approves a request with this client id, and the portal exchanges the code. -/
def redemptionCues (clientId : Text) (steps : Nat) : List portalPlayer.Cue :=
  .arrive (.approve aliceSession (some (portalForm clientId))) :: portalSteps 0 18 2 ++
    .arrive (.exchange portalExchange) :: portalSteps 1 steps 3

/-- The redirect that a thread has answered with. -/
def redirected (c : portalServer.Config) (i : Nat) :
    Option (SessionData × Option ApproveForm × Url) :=
  match c.answer? i with
  | some ⟨.approve session form, .redirect target⟩ => some (session, form, target)
  | _ => none

theorem answers_of_redirected {c : portalServer.Config} {i : Nat} {session : SessionData}
    {form : Option ApproveForm} {target : Url} (h : redirected c i = some (session, form, target)) :
    c.Answers i (.approve session form) (.redirect target) := by
  unfold redirected at h
  split at h
  next hanswer =>
      cases h
      exact Config.answers_of_answer? hanswer
  · cases h

/-- What a thread has exchanged, and whether it was answered with claims. -/
def exchanged (c : portalServer.Config) (i : Nat) :
    Option (ExchangeBody × Except ApiError PartnerClaims) :=
  match c.answer? i with
  | some ⟨.exchange body, answer⟩ => some (body, answer)
  | _ => none

theorem answers_of_exchanged {c : portalServer.Config} {i : Nat} {body : ExchangeBody}
    {answer : Except ApiError PartnerClaims} (h : exchanged c i = some (body, answer)) :
    c.Answers i (.exchange body) answer := by
  unfold exchanged at h
  split at h
  next hanswer =>
      cases h
      exact Config.answers_of_answer? hanswer
  · cases h

/-- Only thread 1 redeems codes, and before they expire. -/
def portalQuiet (t : portalServer.Transition) : Bool := quiet 1 1700000000000 t

/-- What has to be computed of a run. -/
structure RedemptionFacts where
  quiet : Bool
  query : Option AuthorizeQuery
  params : Option (List (Text × Text))
  body : Option ExchangeBody
  granted : Bool
deriving DecidableEq

def redemptionFacts (ts : List portalServer.Transition) (c : portalServer.Config) :
    Option RedemptionFacts :=
  match redirected c 0, exchanged c 1 with
  | some (_, form, target), some (body, answer) =>
      some
        { quiet := ts.all portalQuiet
          query := form.bind fun form => form.parse.toOption
          params := target.params?
          body := some body
          granted := answer.isOk }
  | _, _ => none

/-- The query of a request with this client id. -/
def portalQuery (clientId : Text) : AuthorizeQuery :=
  ⟨clientId, 1, portalCallback, "12345678".toList⟩

def portalParams : List (Text × Text) :=
  [("code".toList, portalCode), ("state".toList, "12345678".toList)]

theorem standardParser_portal : StandardParser portalRuntime.parse := by
  have hportal : ∀ {s url}, portalRuntime.parse s = some url →
      url.hostname = "portal.example".toList ∧ url.port = [] ∧
        url.pathname = "/callback".toList := by
    intro s url h
    unfold portalRuntime at h
    simp only at h
    split at h
    · cases h
      exact ⟨rfl, rfl, rfl⟩
    · cases h
  refine ⟨?_, ?_, ?_, ?_⟩
  · intro s url h _
    rw [(hportal h).1]
    decide
  · intro s url h _ hcolon
    rw [(hportal h).1] at hcolon
    exact absurd hcolon (by decide)
  · intro s url h _ c hc
    rw [(hportal h).2.1] at hc
    cases hc
  · intro s url h _
    rw [(hportal h).2.2]
    rfl

/-- The two requests of such a run, and all that is asked of them. -/
theorem redemption_run (clientId : Text) (steps : Nat) (granted : Bool)
    (hplay : (portalPlayer.play (idle portalRegistered) (redemptionCues clientId steps)).bind
      (fun (ts, c) => redemptionFacts ts c) =
        some ⟨true, some (portalQuery clientId), some portalParams, some portalExchange, granted⟩) :
    ∃ (ts : List portalServer.Transition) (c : portalServer.Config) (session : SessionData)
      (form : Option ApproveForm) (target : Url) (answer : Except ApiError PartnerClaims),
      portalServer.Run portalRegistered ts c ∧
        c.Answers 0 (.approve session form) (.redirect target) ∧
        target.params? = some portalParams ∧
        form.map ApproveForm.parse = some (.ok (portalQuery clientId)) ∧
        c.Answers 1 (.exchange portalExchange) answer ∧ answer.isOk = granted ∧
        ∀ app callbacks row, row.code = portalCode →
          IssuesCode portalRuntime (ownLog 0 ts) (portalQuery clientId) app callbacks row →
          Presents portalRuntime app callbacks (portalQuery clientId) portalCode portalExchange ∧
            UndisturbedExchange ts 0 1 row := by
  obtain ⟨⟨ts, c⟩, hplay, hfacts⟩ := Option.bind_eq_some_iff.1 hplay
  unfold redemptionFacts at hfacts
  simp only at hfacts
  split at hfacts
  rotate_left
  · cases hfacts
  next session form target body answer hredirected hexchanged =>
  injection Option.some.inj hfacts with hquiet hquery hparams hbody hgranted
  obtain rfl := Option.some.inj hbody
  obtain ⟨submitted, rfl, hparsed⟩ := Option.bind_eq_some_iff.1 hquery
  have hrun : portalServer.Run portalRegistered ts c := Player.play_path hplay
  have hquiet : ∀ t ∈ ts, portalQuiet t = true :=
    List.all_eq_true.1 hquiet
  refine ⟨ts, c, session, some submitted, target, answer, hrun, answers_of_redirected hredirected,
    hparams, ?_, answers_of_exchanged hexchanged, hgranted, ?_⟩
  · rw [Option.map_some]
    cases hresult : submitted.parse with
    | error field =>
        rw [hresult] at hparsed
        cases hparsed
    | ok query =>
        rw [hresult] at hparsed
        cases hparsed
        rfl
  · intro app callbacks row hcode hissued
    -- The only application is the portal.
    have happ : app = portalRow := by
      obtain ⟨t, ht, -, hmem, -⟩ := stored_of_selectByClientId hrun hissued.select
      have happlications := (sameRegistry_of_quiet hrun hquiet t ht).2.2.1
      have hmem : app ∈ portalRegistered.applications.rows := happlications ▸ hmem
      exact List.mem_singleton.1 hmem
    subst happ
    refine ⟨⟨rfl, rfl, ⟨List.replicate 32 1, by decide, rfl⟩, ?_, .inl rfl⟩,
      undisturbed_of_play hplay hquiet hissued.insert⟩
    decide +kernel

/-- The code that was issued to the portal, under its client id behind a space, is refused to it. -/
theorem padded_code_refused :
    ¬ ∀ (rt : ServerRuntime) (s : ServerState Ledger) (ts : List (server Ledger rt).Transition)
        (c : (server Ledger rt).Config) (i j : Nat) (session : SessionData)
        (form : Option ApproveForm) (target : Url) (params : List (Text × Text)) (code : Text)
        (query : AuthorizeQuery) (app : ApplicationRow) (callbacks : List Text) (row : CodeRow)
        (body : ExchangeBody) (answer : Except ApiError PartnerClaims),
        StandardParser rt.parse → (server Ledger rt).Run s ts c →
        c.Answers i (.approve session form) (.redirect target) → target.params? = some params →
        ("code".toList, code) ∈ params → form.map ApproveForm.parse = some (.ok query) →
        row.code = code → IssuesCode rt (ownLog i ts) query app callbacks row →
        c.Answers j (.exchange body) answer → Presents rt app callbacks query code body →
        UndisturbedExchange ts i j row → ∃ claims, answer = .ok claims := by
  intro hall
  obtain ⟨ts, c, session, form, target, answer, hrun, hredirect, hparams, hparse, hexchange,
    hrefused, hconditions⟩ := redemption_run paddedClientId 4 false (by decide +kernel)
  have hcode : ("code".toList, portalCode) ∈ portalParams := List.mem_cons_self
  obtain ⟨query, app, callbacks, row, hform, hrow, -, hissued⟩ :=
    approve_code (Run.returns hrun hredirect) hparams hcode
  obtain rfl : portalQuery paddedClientId = query :=
    Except.ok.inj (Option.some.inj (hparse.symm.trans hform))
  obtain ⟨hpresents, hundisturbed⟩ := hconditions app callbacks row hrow hissued
  obtain ⟨claims, rfl⟩ := hall portalRuntime portalRegistered ts c 0 1 session form target
    portalParams portalCode _ app callbacks row portalExchange answer standardParser_portal hrun
    hredirect hparams hcode hform hrow hissued hexchange hpresents hundisturbed
  cases hrefused

/-- The code that was issued under the client id itself is redeemed. -/
theorem portal_code_redeemed :
    ∃ (ts : List portalServer.Transition) (c : portalServer.Config) (claims : PartnerClaims),
      portalServer.Run portalRegistered ts c ∧
        c.Answers 1 (.exchange portalExchange) (.ok claims) := by
  obtain ⟨ts, c, session, form, target, answer, hrun, hredirect, hparams, hparse, hexchange, -,
    hconditions⟩ := redemption_run portalClientId 17 true (by decide +kernel)
  obtain ⟨query, app, callbacks, row, hform, hrow, hissued, hredeemable⟩ :=
    redeemable_iff standardParser_portal hrun hredirect hparams (List.mem_cons_self)
  obtain rfl : portalQuery portalClientId = query :=
    Except.ok.inj (Option.some.inj (hparse.symm.trans hform))
  obtain ⟨hpresents, hundisturbed⟩ := hconditions app callbacks row hrow hissued
  obtain ⟨claims, rfl⟩ := (hredeemable 1 portalExchange answer hexchange hpresents hundisturbed).2
    ⟨by decide +kernel, by decide +kernel⟩
  exact ⟨ts, c, claims, hrun, hexchange⟩

end Sample

end OwneX
