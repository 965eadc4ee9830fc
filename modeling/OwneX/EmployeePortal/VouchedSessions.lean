import OwneX.EmployeePortal.SessionSafety
import OwneX.Library.LinkedServices
import OwneX.Platform.CodeExchange
import OwneX.Platform.Redemption
import OwneX.Platform.TamperEvidence

set_option autoImplicit false

/-! # The portal and the platform together

One browser of the portal runs beside the platform, which serves anybody's requests. The two are
linked by `POST /api/authorize/exchange`: a success that a callback receives is the platform's answer
to the very request, sent as JSON. What the portal believes about a wallet can then be followed
back to what has happened on the platform: the wallet's own session has approved the code, the code
has been used in time and once, and the chain has let the wallet in (`session_vouched`). -/

namespace OwneX

namespace EmployeePortal

open Js JsNumber Prog Interleaving Service

/-! ## The exchange on the wire -/

/-- `RoleName` as JSON writes it. -/
def roleText : RoleName → String
  | .admin => "ADMIN"
  | .manager => "MANAGER"
  | .auditor => "AUDITOR"
  | .user => "USER"
  | .none => "NONE"

/-- The keys of `PERMISSION_LIST`. -/
def permissionText : PermissionKey → String
  | .manageMembers => "MANAGE_MEMBERS"
  | .assignRoles => "ASSIGN_ROLES"
  | .mintAssets => "MINT_ASSETS"
  | .transferAssets => "TRANSFER_ASSETS"
  | .viewAudit => "VIEW_AUDIT"
  | .manageApps => "MANAGE_APPS"

def textJson (text : Text) : Preimage.Json :=
  .string (.ofString (String.ofList text))

def field (name : String) (value : Preimage.Json) : Str × Option Preimage.Json :=
  (.ofString name, some value)

def permissionsJson (permissions : List (PermissionKey × Bool)) : Preimage.Json :=
  .object (permissions.map fun p => field (permissionText p.1) (.bool p.2))

def claimsFields (claims : PartnerClaims) : List (Str × Option Preimage.Json) :=
  [field "wallet" (textJson claims.wallet),
    field "orgId" (.number (.ofNat claims.orgId)),
    field "role" (.string (.ofString (roleText claims.role))),
    field "permissions" (permissionsJson claims.permissions),
    field "identityActive" (.bool claims.identityActive),
    field "verifiedAt" (textJson claims.verifiedAt)]

/-- The body that `okNoStore` writes for the claims of a partner. -/
def claimsJson (claims : PartnerClaims) : Preimage.Json :=
  .object (claimsFields claims)

def claimsReply (claims : PartnerClaims) : ExchangeReply where
  status := 200
  body := some (claimsJson claims)

/-- The body of the request as the platform reads it. -/
def ExchangeRequest.body (request : ExchangeRequest) : ExchangeBody where
  clientId := request.clientId.toList
  clientSecret := request.clientSecret.toList
  code := request.code.toList
  redirectUri := request.redirectUri.toList

/-- What a callback sends. -/
def exchangeRequest (config : OwnexConfig) (query : List (String × String)) : ExchangeRequest where
  url := config.origin ++ "/api/authorize/exchange"
  clientId := config.clientId
  clientSecret := config.clientSecret
  code := searchParam query "code"
  redirectUri := config.redirectUri

/-- An exchange succeeds. A failure may come from anywhere. -/
def PortalOp.Succeeds : (op : PortalOp) → op.Res → Prop
  | .exchange _, some reply => reply.ok = true
  | _, _ => False

/-- The platform's answer arrives as it was given. -/
def Delivers : (op : PortalOp) → op.Res → (req : ServerRequest) → req.Ans → Prop
  | .exchange request, some reply, .exchange body, .ok claims =>
      body = request.body ∧ reply = claimsReply claims
  | _, _, _, _ => False

variable {σ : Type} [ERC721 σ] {srt : ServerRuntime} {rt : PortalRuntime}

/-- One browser of the portal, and the platform. -/
def singleSignOn (σ : Type) [ERC721 σ] (srt : ServerRuntime) (rt : PortalRuntime) :
    Link (portal rt) (server σ srt) where
  foreign := PortalOp.Succeeds
  carries := Delivers

/-! ## What is said -/

/-- A callback is given the claims that a thread of the platform has answered with. -/
def Exchanges (t : (singleSignOn σ srt rt).Transition) (thread i : Nat)
    (query : List (String × String)) : Prop :=
  ∃ (u : (portal rt).Transition) (config : OwnexConfig) (reply : ExchangeReply),
    t.move = .take u thread ∧ u.before.Serves i (.callback query) ∧
      u.move = .perform i (.exchange (exchangeRequest config query)) (some reply)

/-- A request was sent after a login of this browser had stored the state, and compared it before
    it expired. -/
def Started (before : List (portal rt).Transition) (i : Nat) (state : String) : Prop :=
  ∃ (pre : List (portal rt).Transition) (sent : (portal rt).Transition)
    (post : List (portal rt).Transition) (store : PortalSession) (expires : Nat)
    (now : TimeValue),
    before = pre ++ sent :: post ∧ sent.move = .perform i .send store ∧
      (∃ v ∈ pre, Stores v state expires) ∧ ⟨PortalOp.now, now⟩ ∈ ownLog i post ∧
      now.1 ≤ expires

/-- A session of `account` has approved the code for the client and its organization; the thread
    has used it in time, and has then read that the account may use the application. -/
def Approved (before : List (server σ srt).Transition) (thread : Nat) (clientId code : Text)
    (orgId : FiniteNumber) (account : Address) : Prop :=
  ∃ (pre : List (server σ srt).Transition) (issue : (server σ srt).Transition)
    (mid : List (server σ srt).Transition) (use : (server σ srt).Transition)
    (post : List (server σ srt).Transition) (row : CodeRow) (issuedAt usedAt : TimeValue),
    before = pre ++ issue :: (mid ++ use :: post) ∧ Issues pre issue row issuedAt ∧
      row.walletAddress = account ∧ row.clientId = clientId ∧ row.code = code ∧
      orgId = .ofNat row.orgId.1 ∧
      use.move = .perform thread (.consumeCode ⟨code, clientId, row.redirectUri, usedAt⟩)
        (.ok (some row.grant)) ∧
      usedAt.1 < issuedAt.1 + AUTHORIZATION_CODE_TTL_MS ∧
      ∃ v ∈ post, ReadsAccess thread row v

/-- A callback that this browser had started with a login has exchanged its code for the wallet; a
    session of that very wallet had approved the code on the platform, for this portal and its
    organization; and no other callback is ever answered for the code. -/
def VouchedFor (ts : List (singleSignOn σ srt rt).Transition) (wallet : String) : Prop :=
  ∃ (front : List (singleSignOn σ srt rt).Transition) (t : (singleSignOn σ srt rt).Transition)
    (back : List (singleSignOn σ srt rt).Transition) (thread i : Nat)
    (query : List (String × String)) (config : OwnexConfig) (account : Address),
    ts = front ++ t :: back ∧ rt.config = .ok config ∧ Exchanges t thread i query ∧
      wallet = String.ofList (addressText account) ∧
      Started (Link.nears front) i (searchParam query "state") ∧
      Approved (Link.fars front) thread config.clientId.toList (searchParam query "code").toList
        config.orgId account ∧
      ∀ t' ∈ ts, ∀ thread' i' query', Exchanges t' thread' i' query' →
        searchParam query' "code" = searchParam query "code" → t' = t

/-! ## The wallet of a session -/

section Browser

variable {ts pre post : List (portal rt).Transition} {t : (portal rt).Transition}
  {c : (portal rt).Config} {i : Nat}

/-- The log of a callback that signs in, up to the exchange. -/
theorem returns_redeem_exchange {store : PortalSession} {query : List (String × String)}
    {log : List ((op : PortalOp) × op.Res)} {signedIn : SignedIn}
    (h : Returns (redeem rt store query).run log (.ok signedIn)) :
    ∃ config now reply rest, rt.config = .ok config ∧
      log = ⟨.now, now⟩ :: ⟨.exchange (exchangeRequest config query), some reply⟩ :: rest ∧
      invalidState store (searchParam query "state") now = false ∧
      Answers config reply signedIn.wallet := by
  obtain ⟨now, log₁, hlog, h⟩ := returns_ask_bind.1 h
  obtain ⟨hstate, h⟩ := returns_refuseIf_bind.1 h
  obtain ⟨-, h⟩ := returns_refuseIf_bind.1 h
  obtain ⟨-, h⟩ := returns_refuseIf_bind.1 h
  obtain ⟨config, hconfig, h⟩ := returns_require_bind.1 h
  obtain ⟨answer, log₂, hlog₁, h⟩ := returns_ask_bind.1 h
  obtain ⟨reply, rfl, h⟩ := returns_require_bind.1 h
  obtain ⟨hok, h⟩ := returns_refuseIf_bind.1 h
  obtain ⟨claims, hclaims, h⟩ := returns_require_bind.1 h
  have hrt : rt.config = .ok config := by
    cases hrt : rt.config with
    | error detail =>
        rw [hrt] at hconfig
        cases hconfig
    | ok config' =>
        rw [hrt] at hconfig
        cases hconfig
        rfl
  refine ⟨config, now, reply, log₂, hrt, ?_, hstate, ?_⟩
  · rw [hlog, hlog₁]
    rfl
  · exact ⟨by simpa using hok, claims, hclaims, returns_readClaims h⟩

/-- Somewhere in the run a callback that was properly started has been answered with the wallet. -/
def Learned (ts : List (portal rt).Transition) (wallet : String) : Prop :=
  ∃ (pre : List (portal rt).Transition) (t : (portal rt).Transition)
    (post : List (portal rt).Transition) (i : Nat) (query : List (String × String))
    (config : OwnexConfig) (reply : ExchangeReply),
    ts = pre ++ t :: post ∧ rt.config = .ok config ∧ t.before.Serves i (.callback query) ∧
      t.move = .perform i (.exchange (exchangeRequest config query)) (some reply) ∧
      Started pre i (searchParam query "state") ∧ Answers config reply wallet

theorem Learned.append {wallet : String} (h : Learned pre wallet)
    (post : List (portal rt).Transition) : Learned (pre ++ post) wallet := by
  obtain ⟨front, t, back, i, query, config, reply, rfl, hfacts⟩ := h
  exact ⟨front, t, back ++ post, i, query, config, reply, by simp, hfacts⟩

/-- A callback that signs in has learned its wallet. -/
theorem learned_of_redeem {query : List (String × String)} {store : PortalSession}
    {rest : List ((op : PortalOp) × op.Res)} {signedIn : SignedIn}
    (h : (portal rt).Run .empty ts c) (hserves : c.Serves i (.callback query))
    (hlog : ownLog i ts = ⟨.send, store⟩ :: rest)
    (hredeem : Returns (redeem rt store query).run rest (.ok signedIn)) :
    Learned ts signedIn.wallet := by
  obtain ⟨config, now, reply, rest', hconfig, hrest, hstate, hanswers⟩ :=
    returns_redeem_exchange hredeem
  obtain ⟨hstate, expires, hexpires, hfresh⟩ := valid_of_invalidState hstate
  rw [hrest] at hlog
  obtain ⟨pre, t, post, rfl, hmove, hpre, -⟩ :=
    exists_of_ownLog (V := portal rt) [⟨.send, store⟩, ⟨.now, now⟩] hlog
  obtain ⟨hbefore, hvalid, hafter⟩ := h.split_at
  obtain ⟨early, sent, late, rfl, hsent, -, hlate⟩ :=
    exists_of_ownLog (V := portal rt) [] hpre
  -- The session that was sent is the one the browser held.
  obtain ⟨hearlier, hvalidSent, -⟩ := hbefore.split_at
  obtain ⟨-, -, -, -, hexec, -⟩ := Transition.Valid.perform hvalidSent hsent
  obtain ⟨hstore, -⟩ : store = sent.before.shared ∧ _ := hexec
  rw [hstore] at hstate hexpires
  obtain ⟨u, hu, expires', hexpires', hstores⟩ := stored_of_run hearlier hstate
  obtain rfl : expires' = expires := Option.some.inj (hexpires'.symm.trans hexpires)
  obtain ⟨req, hreq, -⟩ := h.awaited hmove
  obtain rfl : req = .callback query :=
    (hreq.of_path (.cons hvalid hafter)).unique hserves
  refine ⟨early ++ sent :: late, t, post, i, query, config, reply, rfl, hconfig, hreq, hmove, ?_,
    hanswers⟩
  exact ⟨early, sent, late, store, expires', now, rfl, hsent, ⟨u, hu, hstores⟩,
    by rw [hlate]; exact List.mem_singleton.2 rfl, hfresh⟩

/-- The wallet of the session has been learned, however late the response was received that brought
    it. -/
theorem learned_of_run (h : (portal rt).Run .empty ts c) {wallet : String}
    (hwallet : c.shared.wallet = some wallet) : Learned ts wallet := by
  have hhistory := h.history
    (P := fun ts c => (∀ wallet, c.shared.wallet = some wallet → Learned ts wallet) ∧
      ∀ u ∈ ts, ∀ wallet, u.before.shared.wallet = some wallet → Learned ts wallet) ?_ ?_
  · exact hhistory.1.1 wallet hwallet
  · refine ⟨?_, by simp⟩
    intro wallet hnone
    cases hnone
  · intro pre t post hts ih
    subst hts
    obtain ⟨hbefore, hvalid, -⟩ := h.split_at
    have hearlier : ∀ u ∈ pre ++ [t], ∀ wallet, u.before.shared.wallet = some wallet →
        Learned pre wallet := by
      intro u hu wallet hsome
      rcases List.mem_append.1 hu with hu | hu
      · exact ih.2 u hu wallet hsome
      · rw [List.mem_singleton.1 hu] at hsome
        exact ih.1 wallet hsome
    refine ⟨fun wallet hsome => ?_, fun u hu wallet hsome => (hearlier u hu wallet hsome).append _⟩
    change t.after.shared.wallet = some wallet at hsome
    rcases session_step hvalid with heq | hempty | ⟨i, reply, cookie, hmove, -⟩
    · exact (ih.1 wallet (heq ▸ hsome)).append _
    · rw [hempty] at hsome
      cases hsome
    · obtain ⟨hafter, hcases⟩ := received h hmove
      rw [hafter] at hsome
      rcases hcases with ⟨-, -, -, -, -, -, -, hnone⟩ |
        ⟨query, store, rest, hserves, hlog, -, hcases⟩
      · rw [hnone] at hsome
        cases hsome
      · rcases hcases with ⟨signedIn, hredeem, -, hsigned⟩ | ⟨-, -, hkept⟩
        · obtain rfl : signedIn.wallet = wallet := Option.some.inj (hsigned.symm.trans hsome)
          exact (learned_of_redeem hbefore hserves hlog hredeem).append _
        · -- The wallet is one that the browser held when the request was sent.
          obtain ⟨early, sent, late, rfl, hsent, -, -⟩ :=
            exists_of_ownLog (V := portal rt) [] hlog
          have hmem : sent ∈ early ++ sent :: late := by simp
          obtain ⟨-, -, -, -, hexec, -⟩ :=
            Transition.Valid.perform (hbefore.valid sent hmem) hsent
          obtain ⟨hstore, -⟩ : store = sent.before.shared ∧ _ := hexec
          rw [hkept, hstore] at hsome
          exact (hearlier sent (by simp) wallet hsome).append _

end Browser

/-! ## What the platform has done for an answer -/

section Platform

variable {us : List (server σ srt).Transition} {s : ServerState σ} {d : (server σ srt).Config}

/-- Claims are answered for a code that has been approved, used and checked. -/
theorem approved_of_answers (hs : s.Unused) (h : (server σ srt).Run s us d) {thread : Nat}
    {body : ExchangeBody} {claims : PartnerClaims}
    (hanswers : d.Answers thread (.exchange body) (.ok claims)) :
    ∃ account, claims.wallet = lowerAscii (addressText account) ∧
      Approved us thread body.clientId body.code (.ofNat claims.orgId) account := by
  obtain ⟨app, callbacks, normalized, registered, usedAt, grant, access, decision, snapshot,
    verifiedAt, -, -, -, -, hslug, haccess, hallowed, rfl, hlog⟩ := exchange_ok (Run.returns h hanswers)
  -- The run falls apart at the `UPDATE`.
  obtain ⟨before, use, post, rfl, hmove, hpre, hpost⟩ := exists_of_ownLog (V := server σ srt)
    [⟨.selectByClientId (trimText body.clientId), .ok (some app)⟩,
      ⟨.selectCallbacks app.key, .ok callbacks⟩, ⟨.now, usedAt⟩] hlog
  obtain ⟨hbefore, hvalid, hafter⟩ := h.split_at
  obtain ⟨-, -, -, -, hexec, -⟩ := Transition.Valid.perform hvalid hmove
  have hconsume := Except.ok.inj (Prod.mk.inj (Attempt.of_ok hexec)).1
  obtain ⟨row, hrow, hconsumable, rfl⟩ := CodeTable.consume_eq_some hconsume
  obtain ⟨hcode, hclient, rfl, hunused, hfresh⟩ := CodeTable.consumable_iff.1 hconsumable
  -- The application has a slug, so the chain was asked about it.
  have hselect : ⟨.selectByClientId (trimText body.clientId), .ok (some app)⟩ ∈
      ownLog thread before := by
    rw [hpre]
    exact List.mem_cons_self
  obtain ⟨v, hv, -, happ, -⟩ := stored_of_selectByClientId hbefore hselect
  have hnamed : row.appSlug ≠ "" := by
    have happSlug : row.appSlug = app.appSlug := hslug
    rw [happSlug]
    exact Slug.ne_empty ⟨app.appSlug, slugs_of_run hbefore hs.slugs v hv app happ⟩
  have hread : ⟨.readCanAccessApp row.orgId.1 row.walletAddress (srt.keccakId row.appSlug),
      .ok true⟩ ∈ ownLog thread post := by
    rw [hpost]
    exact List.mem_append_left [⟨ServerOp.now, verifiedAt⟩]
      (canAccessApp_of_allowed haccess hnamed hallowed)
  obtain ⟨w, hw, hreads⟩ := mem_ownLog.1 hread
  obtain ⟨-, -, -, -, hexecRead, -⟩ := Transition.Valid.perform (hafter.valid w hw) hreads
  have hcan := Except.ok.inj (Prod.mk.inj (Attempt.of_ok hexecRead)).1
  -- The code has been stored by an approval.
  obtain ⟨pre, issue, mid, issuedAt, rfl, hissues⟩ := exists_issue hbefore hs.codes hrow hunused
  refine ⟨row.walletAddress, rfl, pre, issue, mid, use, post, row, issuedAt, usedAt, by simp,
    hissues, rfl, hclient, hcode, rfl, hmove, ?_, ?_⟩
  · obtain ⟨-, -, -, -, -, -, -, -, -, -, -, -, -, -, -, -, -, hexpires⟩ := hissues
    rwa [← later_eq_some hexpires]
  · exact ⟨w, hw, hreads, hcan⟩

end Platform

/-! ## Sessions are vouched for -/

theorem mem_addressText {account : Address} {c : Char} (hc : c ∈ addressText account) :
    c = '0' ∨ c = 'x' ∨ ∃ n < 16, c = hexDigit n := by
  unfold addressText toHex at hc
  rcases List.mem_append.1 hc with hc | hc
  · have hprefix : c ∈ ['0', 'x'] := hc
    simp only [List.mem_cons, List.not_mem_nil, or_false] at hprefix
    exact hprefix.imp_right .inl
  · obtain ⟨i, -, rfl⟩ := List.mem_map.1 hc
    exact .inr (.inr ⟨_, Nat.mod_lt _ (by decide), rfl⟩)

/-- Addresses are written in lower case. -/
theorem lowerAscii_addressText (account : Address) :
    lowerAscii (addressText account) = addressText account := by
  refine (List.map_congr_left fun c hc => ?_).trans (List.map_id _)
  rcases mem_addressText hc with rfl | rfl | ⟨n, hn, rfl⟩
  · decide
  · decide
  · exact (hexDigit_lower n hn).2

/-- What the portal makes of the wallet in the claims. -/
theorem wallet_of_claims {config : OwnexConfig} {claims : PartnerClaims} {wallet : String}
    {account : Address} (hclaims : claims.wallet = lowerAscii (addressText account))
    (h : Answers config (claimsReply claims) wallet) :
    wallet = String.ofList (addressText account) ∧ config.orgId = .ofNat claims.orgId := by
  obtain ⟨body, hbody, text, htext, hwallet, horg⟩ := h.claims
  obtain rfl : claimsJson claims = body := Option.some.inj hbody
  have hmember : (claimsJson claims).member? "wallet" =
      some (some (textJson claims.wallet)) := rfl
  have horgMember : ((claimsJson claims).member? "orgId").join =
      some (.number (.ofNat claims.orgId)) := rfl
  constructor
  · rw [hmember, textJson] at htext
    obtain rfl := Preimage.Json.string.inj (Option.some.inj (Option.some.inj htext))
    rw [hwallet, Str.toWellFormed_ofString, hclaims, lowerAscii_addressText]
    refine String.toList_injective ?_
    change (String.map Char.toLower _).toList = _
    rw [String.toList_map, String.toList_ofList]
    exact lowerAscii_addressText account
  · rw [horgMember] at horg
    rcases horg with hnone | hsome
    · cases hnone
    · exact (Preimage.Json.number.inj (Option.some.inj hsome)).symm

variable {ts : List (singleSignOn σ srt rt).Transition} {s : ServerState σ}
  {c : (singleSignOn σ srt rt).State}

/-- What is delivered to an exchange are the claims that were answered to it. -/
theorem answers_of_delivers {d : (server σ srt).Config} {request : ExchangeRequest}
    {reply : ExchangeReply} {thread : Nat} {req : ServerRequest} {a : req.Ans}
    (hanswers : d.Answers thread req a)
    (hdelivers : Delivers (.exchange request) (some reply) req a) :
    ∃ claims, d.Answers thread (.exchange request.body) (.ok claims) ∧
      reply = claimsReply claims := by
  cases req with
  | exchange body =>
      cases a with
      | error e => exact hdelivers.elim
      | ok claims =>
          obtain ⟨rfl, rfl⟩ := hdelivers
          exact ⟨claims, hanswers, rfl⟩
  | _ => exact hdelivers.elim

/-- An answer that is given was given for the code that was sent. -/
theorem Exchanges.answered (h : (singleSignOn σ srt rt).Run .empty s ts c)
    {t : (singleSignOn σ srt rt).Transition} (ht : t ∈ ts) {thread i : Nat}
    {query : List (String × String)} (hexchanges : Exchanges t thread i query) :
    ∃ body claims, t.before.far.Answers thread (.exchange body) (.ok claims) ∧
      body.code = (searchParam query "code").toList := by
  obtain ⟨u, config, reply, hmove, -, hperform⟩ := hexchanges
  have hvalid : t.Valid := h.valid t ht
  unfold Link.Transition.Valid at hvalid
  rw [hmove] at hvalid
  obtain ⟨-, ⟨j, ⟨op, r, req, a, hperform', -, hanswers, hcarries⟩, -⟩, -⟩ := hvalid
  rw [hperform] at hperform'
  cases hperform'
  obtain ⟨claims, hanswers', -⟩ := answers_of_delivers hanswers hcarries
  exact ⟨_, claims, hanswers', rfl⟩

/-- The answers for one code are given to one callback. -/
theorem exchanged_once (h : (singleSignOn σ srt rt).Run .empty s ts c)
    {t t' : (singleSignOn σ srt rt).Transition} (ht : t ∈ ts) (ht' : t' ∈ ts)
    {thread thread' i i' : Nat} {query query' : List (String × String)}
    (hexchanges : Exchanges t thread i query) (hexchanges' : Exchanges t' thread' i' query')
    (hcode : searchParam query' "code" = searchParam query "code") : t' = t := by
  -- Each answer has redeemed the code in the run of the platform, and only one thread has.
  have hredeems : ∀ {t : (singleSignOn σ srt rt).Transition} {thread i : Nat}
      {query : List (String × String)}, t ∈ ts → Exchanges t thread i query →
      ∃ v ∈ Link.fars ts, ∃ (op : ServerOp) (r : op.Res), v.move = .perform thread op r ∧
        op.Redeems (searchParam query "code").toList r := by
    intro t thread i query ht hexchanges
    obtain ⟨body, claims, hanswers, hbody⟩ := hexchanges.answered h ht
    obtain ⟨front, back, rfl⟩ := List.append_of_mem ht
    obtain ⟨hbefore, -, -⟩ := h.split_at
    obtain ⟨v, hv, op, r, hmove, hr⟩ := exists_redemption (Link.Path.far hbefore) hanswers
    refine ⟨v, ?_, op, r, hmove, hbody ▸ hr⟩
    rw [Link.fars_append]
    exact List.mem_append_left _ hv
  obtain ⟨v, hv, op, r, hmove, hr⟩ := hredeems ht hexchanges
  obtain ⟨v', hv', op', r', hmove', hr'⟩ := hredeems ht' hexchanges'
  rw [hcode] at hr'
  obtain rfl := redeemed_once (Link.Path.far h) hv hv' hmove hr hmove' hr'
  obtain ⟨u, -, -, htake, -⟩ := hexchanges
  obtain ⟨u', -, -, htake', -⟩ := hexchanges'
  exact (Link.Path.taken_once h ht ht' htake htake').symm

/-- Whenever a browser of the portal has a wallet in its session, the wallet is vouched for: it has
    approved the sign-in itself, in time, and the chain has let it in. -/
theorem session_vouched (hs : s.Unused) (h : (singleSignOn σ srt rt).Run .empty s ts c)
    {wallet : String} (hwallet : c.near.shared.wallet = some wallet) : VouchedFor ts wallet := by
  obtain ⟨pre, u, post, i, query, config, reply, hnears, hconfig, hserves, hmove, hstarted,
    hanswers⟩ := learned_of_run (Link.Path.near h) hwallet
  obtain ⟨front, t, back, rfl, hpart, rfl, -⟩ := Link.exists_of_nears hnears
  obtain ⟨hbefore, hvalid, -⟩ := h.split_at
  -- The reply is the platform's answer.
  have hsucceeds : PortalOp.Succeeds (.exchange (exchangeRequest config query)) (some reply) :=
    hanswers.ok
  obtain ⟨thread, req, a, htake, hfar, hdelivers, -⟩ :=
    Link.Transition.Valid.taken hvalid hpart hmove hsucceeds
  obtain ⟨claims, hclaimed, rfl⟩ := answers_of_delivers hfar hdelivers
  obtain ⟨account, hwalletClaim, happroved⟩ :=
    approved_of_answers hs (Link.Path.far hbefore) hclaimed
  obtain ⟨hwalletText, horg⟩ := wallet_of_claims hwalletClaim hanswers
  have hexchanges : Exchanges t thread i query :=
    ⟨u, config, claimsReply claims, htake, hserves, hmove⟩
  refine ⟨front, t, back, thread, i, query, config, account, rfl, hconfig, hexchanges, hwalletText,
    hstarted, ?_, ?_⟩
  · rw [horg]
    exact happroved
  · intro t' ht' thread' i' query' hexchanges' hcode
    exact exchanged_once h (by simp) ht' hexchanges hexchanges' hcode

/-! ## Alice signs in -/

namespace Sample

/-- What Alice's portal is configured with. -/
def registeredConfig : OwnexConfig where
  origin := "https://ownex.example"
  clientId := String.ofList OwneX.Sample.portalClientId
  clientSecret := String.ofList OwneX.Sample.portalExchange.clientSecret
  orgId := .ofNat 1
  redirectUri := String.ofList OwneX.Sample.portalCallback
  appSlug := "portal"

def registeredRuntime : PortalRuntime where
  config := .ok registeredConfig
  toUpperCase := String.toUpper
  keepsCookies := false

abbrev registeredPlayer := portalPlayer registeredRuntime

def aliceClaims : PartnerClaims where
  wallet := addressText OwneX.Sample.alice
  orgId := 1
  role := .admin
  permissions := permissionList.map fun p => (p.1, true)
  identityActive := true
  verifiedAt := "2023-11-14T22:13:20.000Z".toList

def registeredStep (thread : Nat) : registeredPlayer.Cue :=
  .perform thread ([7], some (claimsReply aliceClaims))

/-- Alice is sent to the platform, and comes back with the code. -/
def returnCues : List registeredPlayer.Cue :=
  .arrive .login :: List.replicate 4 (registeredStep 0) ++
    .arrive (.callback [("code", String.ofList OwneX.Sample.portalCode), ("state", stateOf 7)]) ::
    List.replicate 2 (registeredStep 1)

/-- The exchange that is performed, if one is. -/
def asksExchange (t : (portal registeredRuntime).Transition) : Option ExchangeRequest :=
  match t.move with
  | .perform _ op _ =>
      match (op : PortalOp) with
      | .exchange request => some request
      | _ => none
  | _ => none

/-- Alice approves on the platform. -/
def approvalCues : List OwneX.Sample.portalPlayer.Cue :=
  .arrive (.approve OwneX.Sample.aliceSession
      (some (OwneX.Sample.portalForm OwneX.Sample.portalClientId))) ::
    OwneX.Sample.portalSteps 0 18 2

/-- Her code is exchanged. -/
def redemptionCues : List OwneX.Sample.portalPlayer.Cue :=
  .arrive (.exchange OwneX.Sample.portalExchange) :: OwneX.Sample.portalSteps 1 17 3

/-- Alice's browser, and the platform with her portal. -/
abbrev aliceSignOn : Link (portal registeredRuntime) OwneX.Sample.portalServer :=
  singleSignOn Ledger OwneX.Sample.portalRuntime registeredRuntime

theorem not_foreign_of_asks {t : (portal registeredRuntime).Transition}
    (h : (asksExchange t).isNone = true) {i : Nat} {op : PortalOp} {r : op.Res}
    (hmove : t.move = .perform i op r) :
    ¬ aliceSignOn.foreign op r := by
  intro hsucceeds
  cases op with
  | exchange request =>
      unfold asksExchange at h
      rw [hmove] at h
      cases h
  | _ => exact hsucceeds

theorem move_of_asksExchange {t : (portal registeredRuntime).Transition}
    {request : ExchangeRequest} (h : asksExchange t = some request) :
    ∃ (i : Nat) (r : Option ExchangeReply), t.move = .perform i (.exchange request) r := by
  unfold asksExchange at h
  split at h
  next i op r hmove =>
      split at h
      next =>
          cases h
          exact ⟨i, _, hmove⟩
      · cases h
  · cases h

/-- Up to the exchange, the exchange, and the response. -/
def returning : Option (List (portal registeredRuntime).Transition ×
    (portal registeredRuntime).Transition × (portal registeredRuntime).Transition) := do
  let (us, c) ← registeredPlayer.play (idle .empty) returnCues
  let u ← registeredPlayer.move c (registeredStep 1)
  let v ← registeredPlayer.move u.after (registeredStep 1)
  return (us, u, v)

/-- An exchange is answered with Alice's claims. -/
theorem reply_of_step {c : (portal registeredRuntime).Config} {thread i : Nat}
    {u : (portal registeredRuntime).Transition}
    (h : registeredPlayer.move c (registeredStep thread) = some u) {request : ExchangeRequest}
    {r : Option ExchangeReply} (hmove : u.move = .perform i (.exchange request) r) :
    r = some (claimsReply aliceClaims) := by
  simp only [registeredStep, Player.move] at h
  split at h
  · cases h
  split at h
  · cases h
  split at h
  · cases h
  next hperform =>
      cases h
      cases hmove
      cases hperform
      rfl

theorem returning_runs {us : List (portal registeredRuntime).Transition}
    {u v : (portal registeredRuntime).Transition} (h : returning = some (us, u, v)) :
    (portal registeredRuntime).Run .empty us u.before ∧ u.Valid ∧ v.Valid ∧ v.before = u.after ∧
      ∀ {i : Nat} {request : ExchangeRequest} {r : Option ExchangeReply},
        u.move = .perform i (.exchange request) r → r = some (claimsReply aliceClaims) := by
  unfold returning at h
  simp only [Option.bind_eq_bind, Option.bind_eq_some_iff, Prod.exists] at h
  obtain ⟨us', c, hplay, u', hu, v', hv, heq⟩ := h
  cases heq
  obtain ⟨rfl, hvalid⟩ := Player.move_valid hu
  obtain ⟨hbefore, hvalid'⟩ := Player.move_valid hv
  exact ⟨Player.play_path hplay, hvalid, hvalid', hbefore, fun hmove => reply_of_step hu hmove⟩

/-- Alice approves on the platform, the portal exchanges the code, and she is signed in. -/
theorem alice_vouched :
    ∃ (ts : List aliceSignOn.Transition) (c : aliceSignOn.State),
      aliceSignOn.Run .empty OwneX.Sample.portalRegistered ts c ∧
      c.near.shared.wallet = some "0x0000000000000000000000000000000000000002" ∧
      VouchedFor ts "0x0000000000000000000000000000000000000002" := by
  -- On the platform one thread approves and another one answers the exchange.
  have hfar : ((OwneX.Sample.portalPlayer.play (idle OwneX.Sample.portalRegistered)
      approvalCues).bind fun far =>
        (OwneX.Sample.portalPlayer.play far.2 redemptionCues).bind fun far' =>
          (OwneX.Sample.honoured far'.2 1).map fun honoured => (far.2.threads.length, honoured)) =
      some (1, OwneX.Sample.portalExchange, aliceClaims) := by
    decide +kernel
  obtain ⟨⟨vs, d⟩, happroval, hrest⟩ := Option.bind_eq_some_iff.1 hfar
  obtain ⟨⟨vs', d'⟩, hredemption, hrest⟩ := Option.bind_eq_some_iff.1 hrest
  obtain ⟨honoured, hhonoured, hrest⟩ := Option.map_eq_some_iff.1 hrest
  obtain ⟨hlength, rfl⟩ := Prod.mk.inj hrest
  have hanswers := OwneX.Sample.answers_of_honoured hhonoured
  -- The browser is given the answer in the middle.
  have hnear : (returning.map fun moves =>
      (moves.1.all fun t => (asksExchange t).isNone,
        (asksExchange moves.2.1).map ExchangeRequest.body,
        (asksExchange moves.2.2).isNone, moves.2.2.after.shared.wallet)) =
      some (true, some OwneX.Sample.portalExchange, true,
        some "0x0000000000000000000000000000000000000002") := by decide +kernel
  obtain ⟨⟨us, u, v⟩, hreturning, hfacts⟩ := Option.map_eq_some_iff.1 hnear
  obtain ⟨hus, hrest⟩ := Prod.mk.inj hfacts
  obtain ⟨hu, hrest⟩ := Prod.mk.inj hrest
  obtain ⟨hv, hwallet⟩ := Prod.mk.inj hrest
  obtain ⟨hbefore, huvalid, hvvalid, hjoin, hreply⟩ := returning_runs hreturning
  obtain ⟨request, hrequest, hbody⟩ := Option.map_eq_some_iff.1 hu
  obtain ⟨i, r, hmove⟩ := move_of_asksExchange hrequest
  obtain rfl := hreply hmove
  have htakes : aliceSignOn.Takes d' u 1 i :=
    ⟨_, _, _, _, hmove, rfl, hanswers, hbody.symm, rfl⟩
  have hown : ∀ x ∈ us, ∀ i op r, x.move = .perform i op r → ¬ aliceSignOn.foreign op r := by
    intro x hx i op r hmove
    exact not_foreign_of_asks (List.all_eq_true.1 hus x hx) hmove
  have hlast : ∀ x ∈ [v], ∀ i op r, x.move = .perform i op r → ¬ aliceSignOn.foreign op r := by
    intro x hx i op r hmove
    rw [List.mem_singleton.1 hx] at hmove
    exact not_foreign_of_asks hv hmove
  have hresponse : (portal registeredRuntime).system.Path u.after [v] v.after := by
    rw [← hjoin]
    exact TransitionSystem.Path.single hvvalid
  obtain ⟨ts₁, hpath₁, -⟩ :=
    @Link.exists_path_of_far _ _ aliceSignOn (idle .empty) _ _ [] (fun _ => 0) _
      (Player.play_path happroval)
  obtain ⟨ts₂, opened, hpath₂, -, -, hopened⟩ :=
    @Link.exists_path_of_near _ _ aliceSignOn _ _ _ [] (fun _ => 0) _ hbefore hown
  obtain ⟨ts₃, hpath₃, -⟩ := Link.exists_path_of_far (Player.play_path hredemption)
  -- The callback arrived before the request that is answered.
  have hsince : opened i ≤ 1 := by
    rcases hopened i with hnone | hone
    · rw [hnone]
      exact Nat.zero_le _
    · rw [hone, hlength]
  obtain ⟨t, opened', -, hpath₄⟩ := Link.path_of_take huvalid htakes List.not_mem_nil hsince
  obtain ⟨ts₅, opened'', hpath₅, -⟩ := Link.exists_path_of_near hresponse hlast
  have hrun := (((hpath₁.append hpath₂).append hpath₃).append hpath₄).append hpath₅
  have hunused : OwneX.Sample.portalRegistered.Unused := by
    refine ⟨rfl, fun row hrow => ?_⟩
    rw [List.mem_singleton.1 hrow]
    decide
  exact ⟨_, _, hrun, hwallet, session_vouched hunused hrun hwallet⟩

end Sample

end EmployeePortal

end OwneX
