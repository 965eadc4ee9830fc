import OwneX.Platform.LiveAccess
import OwneX.Platform.ServerRuns

set_option autoImplicit false

/-! # Authorization codes

What an approval and an exchange have done by the time they write to `authorization_codes`, and what
becomes of a code there. The conditional `UPDATE` decides between exchanges that present the same code:
it returns a row only where the code is unused, and leaves it used for good (`Spent`). -/

namespace OwneX

open Js JsNumber KeyedList Prog Interleaving Service

variable {rt : ServerRuntime}

/-! ## What becomes of a code -/

namespace CodeTable

variable {table : CodeTable}

/-- The code has been consumed. -/
def Spent (table : CodeTable) (code : Text) : Prop :=
  ∃ row ∈ table.rows, row.code = code ∧ row.usedAt ≠ none

theorem mem_insert {row row' : CodeRow} (h : row' ∈ (table.insert row).2.rows) :
    row' ∈ table.rows ∨ row' = row := by
  unfold insert at h
  split at h
  · exact .inl h
  · split at h
    · exact .inl h
    · rwa [List.mem_append, List.mem_singleton] at h

theorem mem_insert_of_mem {row' : CodeRow} (h : row' ∈ table.rows) (row : CodeRow) :
    row' ∈ (table.insert row).2.rows := by
  unfold insert
  split
  · exact h
  · split
    · exact h
    · exact List.mem_append_left _ h

theorem mem_consume {query : ConsumeQuery} {row : CodeRow} :
    row ∈ (table.consume query).2.rows ↔
      ∃ row' ∈ table.rows,
        (if consumable query row' then { row' with usedAt := some query.now } else row') = row :=
  mem_modify

theorem consumable_iff {query : ConsumeQuery} {row : CodeRow} :
    consumable query row = true ↔
      row.code = query.code ∧ row.clientId = query.clientId ∧
        row.redirectUri = query.redirectUri ∧ row.usedAt = none ∧
        query.now.1 < row.expiresAt.1 := by
  simp [consumable, and_assoc]

theorem Spent.insert {code : Text} (h : table.Spent code) (row : CodeRow) :
    (table.insert row).2.Spent code := by
  obtain ⟨row', hrow', hspent⟩ := h
  exact ⟨row', mem_insert_of_mem hrow' row, hspent⟩

theorem Spent.consume {code : Text} (h : table.Spent code) (query : ConsumeQuery) :
    (table.consume query).2.Spent code := by
  obtain ⟨row, hrow, hcode, hused⟩ := h
  refine ⟨row, mem_consume.2 ⟨row, hrow, if_neg fun hconsumable => ?_⟩, hcode, hused⟩
  exact hused (consumable_iff.1 hconsumable).2.2.2.1

/-- What the `UPDATE` returns is the grant of a row that it could consume. -/
theorem consume_eq_some {query : ConsumeQuery} {grant : ConsumedGrant}
    (h : (table.consume query).1 = some grant) :
    ∃ row ∈ table.rows, consumable query row = true ∧ row.grant = grant := by
  obtain ⟨row, hfind, hgrant⟩ := Option.map_eq_some_iff.1 h
  exact ⟨row, List.mem_of_find?_eq_some hfind, List.find?_some hfind, hgrant⟩

/-- A code that is consumed was unused, and is used from then on. -/
theorem spent_of_consume {query : ConsumeQuery} {grant : ConsumedGrant}
    (h : (table.consume query).1 = some grant) :
    ¬ table.Spent query.code ∧ (table.consume query).2.Spent query.code := by
  obtain ⟨row, hrow, hconsumable, -⟩ := consume_eq_some h
  obtain ⟨hcode, -, -, hunused, -⟩ := consumable_iff.1 hconsumable
  constructor
  · rintro ⟨row', hrow', hcode', hused⟩
    obtain rfl := eq_of_key table.unique hrow' hrow (hcode'.trans hcode.symm)
    exact hused hunused
  · exact ⟨_, mem_consume.2 ⟨row, hrow, if_pos hconsumable⟩, hcode, by simp⟩

end CodeTable

namespace ServerState

variable {σ : Type} [ERC721 σ]

theorem exec_keeps_spent {s s' : ServerState σ} {op : ServerOp} {r : op.Res}
    (h : s.exec rt op r s') {code : Text} (hspent : s.codes.Spent code) :
    s'.codes.Spent code := by
  rcases exec_codes h with heq | ⟨row, -, heq⟩ | ⟨query, -, heq⟩
  · exact heq ▸ hspent
  · exact heq ▸ hspent.insert row
  · exact heq ▸ hspent.consume query

/-- A row was there before, up to the time of its use, or is inserted. -/
theorem exec_origin {s s' : ServerState σ} {op : ServerOp} {r : op.Res} (h : s.exec rt op r s')
    {row : CodeRow} (hrow : row ∈ s'.codes.rows) :
    (∃ row' ∈ s.codes.rows, row'.issued = row.issued) ∨ op = .insertCode row := by
  rcases exec_codes h with heq | ⟨new, hop, heq⟩ | ⟨query, -, heq⟩
  · exact .inl ⟨row, heq ▸ hrow, rfl⟩
  · rcases CodeTable.mem_insert (heq ▸ hrow) with hold | rfl
    · exact .inl ⟨row, hold, rfl⟩
    · exact .inr hop
  · obtain ⟨row', hrow', hsame⟩ := CodeTable.mem_consume.1 (heq ▸ hrow)
    refine .inl ⟨row', hrow', ?_⟩
    rw [← hsame]
    split <;> rfl

end ServerState

/-! ## What an approval has read -/

/-- A resolved request is one for the row that was selected by its client id, at one of the callbacks
    that were selected for this row. -/
theorem returns_resolveAuthorizationRequest {clientId redirectUri registered : Text} {orgId : Nat}
    {requireSecret : Bool} {application : RegisteredApplication}
    {log : List ((op : ServerOp) × op.Res)}
    (h : Returns (resolveAuthorizationRequest rt clientId orgId redirectUri requireSecret).run log
      (.ok (.ok (application, registered)))) :
    ∃ row callbacks, application = toRecord rt row callbacks ∧ row.orgId.1 = orgId ∧
      row.status ≠ .revoked ∧ registered ∈ callbacks ∧
      log = [⟨.selectByClientId (trimText clientId), .ok (some row)⟩,
        ⟨.selectCallbacks row.key, .ok callbacks⟩] := by
  obtain ⟨found, front, back, hlog, hfind, h⟩ := returns_exceptT_bind.1 h
  obtain ⟨hback, hresolved⟩ := returns_exceptT_pure.1 h
  obtain ⟨rfl, horg, hstatus, hregistered, -⟩ := resolveApplication_ok hresolved
  obtain ⟨row, callbacks, rfl, hfront⟩ := returns_findApplicationByClientId hfind
  subst hback hfront
  rw [List.append_nil] at hlog
  exact ⟨row, callbacks, rfl, horg, hstatus, hregistered, hlog⟩

/-- The wallet of a session, at the time that was read. -/
theorem returns_sessionWallet {session : SessionData} {wallet : Address}
    {log : List ((op : ServerOp) × op.Res)} (h : Returns (sessionWallet session) log (some wallet)) :
    ∃ dateNow, session.walletAt dateNow = some wallet ∧ log = [⟨.now, dateNow⟩] := by
  unfold sessionWallet at h
  split at h
  · obtain ⟨-, hnone⟩ := returns_pure.1 h
    cases hnone
  · obtain ⟨dateNow, front, back, hlog, hread, h⟩ := returns_bind.1 h
    obtain rfl := returns_call.1 hread
    obtain ⟨rfl, hwallet⟩ := returns_pure.1 h
    exact ⟨dateNow, hwallet, hlog⟩

/-- The row that an approval inserts. -/
theorem insert_of_issue {grant : GrantInput} {log : List ((op : ServerOp) × op.Res)} {row : CodeRow}
    (h : Reaches (issueAuthorizationCode grant).run log (.insertCode row)) :
    ∃ issuedAt, ⟨.now, issuedAt⟩ ∈ log ∧
      later issuedAt AUTHORIZATION_CODE_TTL_MS = some row.expiresAt ∧
      row.clientId = grant.clientId ∧ row.appSlug = grant.appSlug ∧ row.orgId = grant.orgId ∧
      row.walletAddress = grant.wallet ∧ row.redirectUri = grant.redirectUri ∧
      row.usedAt = none := by
  rcases reaches_ask_bind.1 h with ⟨-, hop⟩ | ⟨issuedAt, log₁, hlog, h⟩
  · cases hop
  rcases reaches_ask_bind.1 h with ⟨-, hop⟩ | ⟨bytes, log₂, hlog₁, h⟩
  · cases hop
  obtain ⟨expiresAt, hexpires, h⟩ := reaches_require_bind.1 h
  have hinsert := h.first (P := fun op => ∀ row, op ≠ .insertCode row)
    (fun _ => only_exceptT_pure _) (fun hne => hne row rfl)
  obtain ⟨-, hrow⟩ := reaches_call.1 (reaches_attempt.1 hinsert)
  cases hrow
  exact ⟨issuedAt, by simp [hlog], hexpires, rfl, rfl, rfl, rfl, rfl, rfl⟩

/-- What stands behind a code that an approval is about to insert. -/
theorem insert_of_approve {session : SessionData} {form : Option ApproveForm}
    {log : List ((op : ServerOp) × op.Res)} {row : CodeRow}
    (h : Reaches (approve rt session form) log (.insertCode row)) :
    ∃ submitted query app callbacks dateNow issuedAt, form = some submitted ∧
      submitted.parse = .ok query ∧ row.clientId = query.clientId ∧ row.orgId.1 = query.orgId ∧
      ⟨.selectByClientId (trimText query.clientId), .ok (some app)⟩ ∈ log ∧
      row.orgId = app.orgId ∧ row.appSlug = app.appSlug ∧ app.status ≠ .revoked ∧
      ⟨.selectCallbacks app.key, .ok callbacks⟩ ∈ log ∧ row.redirectUri ∈ callbacks ∧
      ⟨.now, dateNow⟩ ∈ log ∧ session.walletAt dateNow = some row.walletAddress ∧
      ⟨.now, issuedAt⟩ ∈ log ∧ later issuedAt AUTHORIZATION_CODE_TTL_MS = some row.expiresAt ∧
      row.usedAt = none := by
  unfold approve at h
  split at h
  · exact absurd h reaches_done
  next submitted =>
  split at h
  · exact absurd h reaches_done
  next query hparse =>
  obtain ⟨resolved, log₁, rest₁, hlog, hresolved, h⟩ := h.after (P := ServerOp.Reads)
    (only_resolveAuthorizationRequest (fun _ => trivial) (fun _ => trivial) _ _ _ _) id
  split at h
  · exact absurd h reaches_done
  · exact absurd h reaches_done
  next application registered =>
  obtain ⟨app, callbacks, rfl, horg, hstatus, hregistered, hlog₁⟩ :=
    returns_resolveAuthorizationRequest hresolved
  obtain ⟨wallet, log₂, rest₂, hrest₁, hsession, h⟩ :=
    h.after (ServerRequest.reads_sessionWallet session) id
  cases wallet with
  | none => exact absurd h reaches_done
  | some wallet =>
      obtain ⟨dateNow, hdate, hlog₂⟩ := returns_sessionWallet hsession
      obtain ⟨access, log₃, rest₃, hrest₂, haccess, h⟩ :=
        h.after (ServerRequest.reads_liveAccess _ _ _ _) id
      cases access with
      | chainUnavailable detail => exact absurd h reaches_done
      | ok decision snapshot =>
          simp only at h
          split at h
          · exact absurd h reaches_done
          · have hissue : Reaches (issueAuthorizationCode
                (grantInput query (toRecord rt app callbacks) registered wallet)).run rest₃
                (.insertCode row) := by
              rcases reaches_bind.1 h with hfirst | ⟨issued, _, _, _, _, hlast⟩
              · exact hfirst
              · cases issued <;> exact absurd hlast reaches_done
            obtain ⟨issuedAt, hissued, hexpires, hclient, hslug, horgId, hwallet, huri, hunused⟩ :=
              insert_of_issue hissue
            subst hlog₁ hlog₂ hrest₂ hrest₁ hlog
            refine ⟨submitted, query, app, callbacks, dateNow, issuedAt, rfl, hparse, hclient, ?_,
              by simp, horgId, hslug, hstatus, by simp, huri ▸ hregistered, by simp,
              hwallet ▸ hdate, by simp [hissued], hexpires, hunused⟩
            exact (congrArg Subtype.val horgId).trans horg

/-! ## What an exchange has read -/

theorem returns_onSafe {α : Type} {orgId : Nat}
    {read : Prog ServerOp ServerOp.Res (Except String α)} {a : α}
    {log : List ((op : ServerOp) × op.Res)} (h : Returns (onSafe orgId read).run log (.ok a)) :
    Returns read log (.ok a) := by
  obtain ⟨-, h⟩ := returns_refuseIf_bind.1 h
  exact returns_attempt.1 h

/-- An access that is allowed for a named application has been confirmed by `canAccessApp`. -/
theorem canAccessApp_of_allowed {keccakId : String → Bytes32} {orgId : Nat} {wallet : Address}
    {slug : String} {log : List ((op : ServerOp) × op.Res)} {decision : AccessDecision}
    {snapshot : EvaluatedSnapshot}
    (h : Returns (evaluateLiveAccess keccakId serverReads orgId wallet (some slug)) log
      (.ok decision snapshot)) (hslug : slug ≠ "") (hallowed : decision.allowed = true) :
    ⟨.readCanAccessApp orgId wallet (keccakId slug), .ok true⟩ ∈ log := by
  obtain ⟨evaluated, front, back, rfl, hread, hmatch⟩ := returns_bind.1 h
  cases evaluated with
  | error detail =>
      obtain ⟨-, hunavailable⟩ := returns_pure.1 hmatch
      cases hunavailable
  | ok evaluated =>
      obtain ⟨rfl, rfl⟩ := returns_pure.1 hmatch
      obtain ⟨answers, log₁, log₂, rfl, hanswers, hdecide⟩ := returns_exceptT_bind.1 hread
      -- The reads for the application are the last of the five that are awaited together.
      obtain ⟨-, rest₁, -, hrest₁, -, h₁⟩ := returns_exceptT_both hanswers
      obtain ⟨-, rest₂, -, hrest₂, -, h₂⟩ := returns_exceptT_both h₁
      obtain ⟨-, rest₃, -, hrest₃, -, h₃⟩ := returns_exceptT_both h₂
      obtain ⟨-, rest₄, -, hrest₄, -, happ⟩ := returns_exceptT_both h₃
      obtain ⟨organization, identity, role, membership, app⟩ := answers
      simp only [liveReaders, if_neg hslug] at happ
      obtain ⟨⟨registered, access⟩, log₃, log₄, hlog₃, hboth, happ⟩ := returns_exceptT_bind.1 happ
      obtain ⟨-, rest₅, -, hrest₅, -, haccess⟩ := returns_exceptT_both hboth
      obtain ⟨-, rfl⟩ := returns_exceptT_pure.1 happ
      obtain rfl := returns_call.1 (returns_onSafe haccess)
      have hmem : ⟨.readCanAccessApp orgId wallet (keccakId slug), .ok access⟩ ∈ log₁ := by
        refine (hrest₁.subset <| hrest₂.subset <| hrest₃.subset <| hrest₄.subset ?_)
        rw [hlog₃]
        exact List.mem_append_left _ (hrest₅.subset (List.mem_singleton_self _))
      have hdecision : decision = decideAccess
          { organization, registered := identity.1, active := identity.2,
            expired := membership.expired, role, appAccess := some (some access),
            appRegistered := some (some registered) } := by
        simp only at hdecide
        split at hdecide
        · obtain ⟨_, _, _, _, _, hdone⟩ := returns_exceptT_bind.1 hdecide
          cases (returns_exceptT_pure.1 hdone).2
          rfl
        · obtain ⟨_, _, _, _, _, hdone⟩ := returns_exceptT_bind.1 hdecide
          cases (returns_exceptT_pure.1 hdone).2
          rfl
      rw [hdecision] at hallowed
      obtain ⟨-, -, -, -, -, happ⟩ := decideAccess_allowed.1 hallowed
      have hboth : access = true ∧ registered = true := by simpa using happ
      rw [hboth.1] at hmem
      simp [hmem]

/-- What an exchange that is answered with claims has done, operation by operation. -/
theorem exchange_ok {body : ExchangeBody} {log : List ((op : ServerOp) × op.Res)}
    {claims : PartnerClaims} (h : Returns (exchange rt body).run log (.ok claims)) :
    ∃ row callbacks normalized registered usedAt grant access decision snapshot verifiedAt,
      row.status ≠ .revoked ∧
      verifyClientSecret rt.crypto body.clientSecret row.clientSecretHash = true ∧
      checkCallback rt.parse (some ⟨row.status, callbacks⟩) (some body.redirectUri)
        rt.callbackMode = .ok (normalized, registered) ∧
      grant.orgId = row.orgId ∧ grant.appSlug = row.appSlug ∧
      Returns (evaluateLiveAccess rt.keccakId serverReads grant.orgId.1 grant.wallet
        (some grant.appSlug)) access (.ok decision snapshot) ∧
      decision.allowed = true ∧
      claims = buildPartnerClaims (addressText grant.wallet) grant.orgId.1 snapshot verifiedAt ∧
      log =
        [⟨.selectByClientId (trimText body.clientId), .ok (some row)⟩,
          ⟨.selectCallbacks row.key, .ok callbacks⟩, ⟨.now, usedAt⟩,
          ⟨.consumeCode ⟨body.code, body.clientId, registered, usedAt⟩, .ok (some grant)⟩] ++
        (access ++ [⟨.now, verifiedAt⟩]) := by
  obtain ⟨-, h⟩ := returns_refuseIf_bind.1 h
  obtain ⟨found, log₁, rest₁, hlog, hfind, h⟩ := returns_attempt_bind.1 h
  obtain ⟨application, happlication, h⟩ := returns_require_bind.1 h
  obtain ⟨registered, hregistered, h⟩ := returns_require_bind.1 h
  obtain ⟨consumed, log₂, rest₂, hrest₁, hconsume, h⟩ := returns_attempt_bind.1 h
  obtain ⟨grant, rfl, h⟩ := returns_require_bind.1 h
  obtain ⟨hbound, h⟩ := returns_refuseIf_bind.1 h
  obtain ⟨access, log₃, rest₃, hrest₂, haccess, h⟩ := returns_lift_bind.1 h
  obtain ⟨⟨decision, snapshot⟩, hread, h⟩ := returns_require_bind.1 h
  obtain ⟨hallowed, h⟩ := returns_refuseIf_bind.1 h
  obtain ⟨verifiedAt, rest₄, hrest₃, h⟩ := returns_ask_bind.1 h
  obtain ⟨hrest₄, hclaims⟩ := returns_exceptT_pure.1 h
  -- The application is the row that was selected, and its secret was presented.
  obtain ⟨rfl, hstatus, hsecret⟩ := authenticated_eq_some.1 happlication
  obtain ⟨row, callbacks, rfl, hlog₁⟩ := returns_findApplicationByClientId hfind
  unfold acceptedCallback at hregistered
  split at hregistered
  · cases hregistered
  next normalized registered' hcallback =>
  cases hregistered
  unfold consumeAuthorizationCode at hconsume
  split at hconsume
  · obtain ⟨-, hnone⟩ := returns_exceptT_pure.1 hconsume
    cases hnone
  · obtain ⟨usedAt, front, hlog₂, hconsume⟩ := returns_ask_bind.1 hconsume
    obtain rfl := returns_call.1 (returns_attempt.1 hconsume)
    cases access with
    | chainUnavailable detail => cases hread
    | ok decision' snapshot' =>
        cases hread
        simp only [Bool.or_eq_false_iff, bne_eq_false_iff_eq] at hbound
        subst hlog₁ hlog₂ hrest₄ hrest₃ hrest₂ hrest₁ hlog
        exact ⟨row, callbacks, normalized, registered, usedAt, grant, log₃, decision, snapshot,
          verifiedAt, hstatus, hsecret, hcallback, hbound.1, hbound.2, haccess,
          by simpa using hallowed, hclaims.symm, rfl⟩

end OwneX
