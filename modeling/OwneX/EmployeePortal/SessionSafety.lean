import OwneX.EmployeePortal.Routes

set_option autoImplicit false

/-! # One browser of the employee portal

A browser sends requests whenever it likes and receives their responses in any order. A response
does not change the cookie but replaces it: with the session its request was sent with, less the
state. So one that is received late brings back a wallet that a login has taken away since, or the
wallet of a sign-in that a login has superseded. Nothing else goes wrong (`safe_iff_prompt`). -/

namespace OwneX

namespace EmployeePortal

open Js JsNumber Prog Interleaving Service

/-! ## The browser -/

inductive PortalRequest where
  | login
  | callback (query : List (String × String))

/-- One browser and its cookie, which can expire at any time. -/
def portal (rt : PortalRuntime) : Service where
  State := PortalSession
  Op := PortalOp
  Res := PortalOp.Res
  Req := PortalRequest
  Ans _ := Unit
  exec s op r s' :=
    match op, r with
    | .send, store => store = s ∧ s' = s
    | .receive _ (some cookie), _ => s' = cookie
    | _, _ => s' = s
  env _ s' := s' = .empty
  admits _ _ := True
  handler
    | .login => login rt
    | .callback query => callback rt query

variable {rt : PortalRuntime}

/-- The response of a login is received. -/
def LogsIn (t : (portal rt).Transition) (state : String) : Prop :=
  ∃ i config cookie, t.move = .perform i (.receive (.authorize config state) (some cookie)) ()

/-- The response of a login is received, with its state in the cookie. -/
def Stores (t : (portal rt).Transition) (state : String) (expires : Nat) : Prop :=
  ∃ i config cookie, t.move = .perform i (.receive (.authorize config state) (some cookie)) () ∧
    cookie.state = some state ∧ cookie.stateExpires = some expires

/-- The response of a callback that succeeded is received. -/
def SignsIn (t : (portal rt).Transition) (query : List (String × String)) : Prop :=
  ∃ i cookie, t.before.Serves i (.callback query) ∧
    t.move = .perform i (.receive .dashboard (some cookie)) ()

/-- A callback that carries the state succeeds. -/
def Redeems (t : (portal rt).Transition) (state : String) : Prop :=
  ∃ query, SignsIn t query ∧ searchParam query "state" = state

/-! ## What the handlers do -/

/-- Nothing is received yet. -/
def PortalOp.ReceivesNothing : PortalOp → Prop
  | receive .. => False
  | _ => True

theorem receivesNothing_readClaims (config : OwnexConfig) (claims : Preimage.Json) :
    Only PortalOp.ReceivesNothing (readClaims config claims).run := by
  refine only_require_bind fun wallet _ => ?_
  refine only_require_bind fun wallet _ => ?_
  refine only_exceptT_bind (only_refuseIf _ _) fun _ => ?_
  refine only_exceptT_bind (only_refuseIf _ _) fun _ => ?_
  refine only_require_bind fun wallet _ => ?_
  split
  · exact only_exceptT_bind (only_ask trivial) fun now => only_exceptT_pure _
  · exact only_exceptT_bind (only_ask trivial) fun now => only_exceptT_pure _
  · exact only_exceptT_pure _

theorem receivesNothing_redeem (store : PortalSession) (query : List (String × String)) :
    Only PortalOp.ReceivesNothing (redeem rt store query).run := by
  refine only_exceptT_bind (only_ask trivial) fun now => ?_
  refine only_exceptT_bind (only_refuseIf _ _) fun _ => ?_
  refine only_exceptT_bind (only_refuseIf _ _) fun _ => ?_
  refine only_exceptT_bind (only_refuseIf _ _) fun _ => ?_
  refine only_require_bind fun config _ => ?_
  refine only_exceptT_bind (only_ask trivial) fun reply => ?_
  refine only_require_bind fun reply _ => ?_
  refine only_exceptT_bind (only_refuseIf _ _) fun _ => ?_
  exact only_require_bind fun claims _ => receivesNothing_readClaims config claims

theorem reaches_login {log : List ((op : PortalOp) × op.Res)} {reply : Reply}
    {cookie : PortalSession} (h : Reaches (login rt) log (.receive reply (some cookie))) :
    ∃ config state expires, reply = .authorize config state ∧ cookie.state = some state ∧
      cookie.stateExpires = some expires ∧ cookie.wallet = none := by
  obtain ⟨-, hop⟩ | ⟨store, rest, -, h⟩ := reaches_await.1 h
  · cases hop
  dsimp only at h
  split at h
  · obtain ⟨-, hop⟩ := reaches_call.1 h
    cases hop
  next config hconfig =>
      obtain ⟨-, hop⟩ | ⟨bytes, rest, -, h⟩ := reaches_await.1 h
      · cases hop
      obtain ⟨-, hop⟩ | ⟨now, rest, -, h⟩ := reaches_await.1 h
      · cases hop
      obtain ⟨-, hop⟩ := reaches_call.1 h
      cases hop
      exact ⟨config, _, _, rfl, rfl, rfl, rfl⟩

/-- A callback keeps nothing of the state, and the wallet is that of the exchange or the one that
    was sent. -/
theorem reaches_callback {query : List (String × String)} {log : List ((op : PortalOp) × op.Res)}
    {reply : Reply} {cookie : PortalSession}
    (h : Reaches (callback rt query) log (.receive reply (some cookie))) :
    ∃ store rest, log = ⟨.send, store⟩ :: rest ∧ cookie.state = none ∧
      ((∃ signedIn, Returns (redeem rt store query).run rest (.ok signedIn) ∧
          reply = .dashboard ∧ cookie.wallet = some signedIn.wallet) ∨
        ((∀ config state, reply ≠ .authorize config state) ∧ reply ≠ .dashboard ∧
          cookie.wallet = store.wallet)) := by
  obtain ⟨-, hop⟩ | ⟨store, rest, hlog, h⟩ := reaches_await.1 h
  · cases hop
  have hop : ¬ PortalOp.ReceivesNothing (.receive reply (some cookie)) := id
  change Reaches ((redeem rt store query).run >>= _) rest _ at h
  obtain ⟨outcome, front, back, hrest, hredeem, h⟩ :=
    h.after (receivesNothing_redeem store query) hop
  refine ⟨store, rest, hlog, ?_⟩
  split at h
  next signedIn =>
      obtain ⟨hback, heq⟩ := reaches_call.1 h
      cases heq
      rw [hback, List.append_nil] at hrest
      rw [hrest]
      exact ⟨rfl, .inl ⟨signedIn, hredeem, rfl, rfl⟩⟩
  next reason =>
      obtain ⟨-, heq⟩ := reaches_call.1 h
      cases heq
      exact ⟨rfl, .inr ⟨by simp, by simp, rfl⟩⟩
  next =>
      obtain ⟨-, heq⟩ := reaches_call.1 h
      split at heq
      · cases heq
        exact ⟨rfl, .inr ⟨by simp, by simp, rfl⟩⟩
      · cases heq

/-- The exchange answered success with the wallet, and named no other organization. -/
structure Answers (config : OwnexConfig) (reply : ExchangeReply) (wallet : String) : Prop where
  ok : reply.ok = true
  claims : ∃ claims, reply.body = some claims ∧ ∃ text,
    claims.member? "wallet" = some (some (.string text)) ∧ wallet = text.toWellFormed.toLower ∧
    ((claims.member? "orgId").join = none ∨
      (claims.member? "orgId").join = some (.number config.orgId))

theorem returns_readClaims {config : OwnexConfig} {claims : Preimage.Json}
    {log : List ((op : PortalOp) × op.Res)} {signedIn : SignedIn}
    (h : Returns (readClaims config claims).run log (.ok signedIn)) :
    ∃ text, claims.member? "wallet" = some (some (.string text)) ∧
      signedIn.wallet = text.toWellFormed.toLower ∧
      ((claims.member? "orgId").join = none ∨
        (claims.member? "orgId").join = some (.number config.orgId)) := by
  obtain ⟨member, hmember, h⟩ := returns_require_bind.1 h
  obtain ⟨wallet, hwallet, h⟩ := returns_require_bind.1 h
  obtain ⟨-, h⟩ := returns_refuseIf_bind.1 h
  obtain ⟨horg, h⟩ := returns_refuseIf_bind.1 h
  obtain ⟨text, htext, h⟩ := returns_require_bind.1 h
  obtain ⟨hmember', -⟩ := Option.filter_eq_some_iff.1 hwallet
  have hstring : wallet = .string text := by
    split at htext
    next s =>
        cases htext
        rfl
    · cases htext
  have hsigned : signedIn.wallet = text.toWellFormed.toLower := by
    split at h
    · obtain ⟨now, _, -, h⟩ := returns_ask_bind.1 h
      rw [← (returns_exceptT_pure.1 h).2]
    · obtain ⟨now, _, -, h⟩ := returns_ask_bind.1 h
      rw [← (returns_exceptT_pure.1 h).2]
    · rw [← (returns_exceptT_pure.1 h).2]
  rw [hstring] at hmember'
  refine ⟨text, hmember' ▸ hmember, hsigned, ?_⟩
  cases hjoin : (claims.member? "orgId").join with
  | none => exact .inl rfl
  | some orgId =>
      rw [hjoin, Option.any_some] at horg
      split at horg
      next n =>
          rw [bne_eq_false_iff_eq.1 horg]
          exact .inr rfl
      · cases horg

/-- What has been read and answered before a callback signs in. -/
theorem returns_redeem {store : PortalSession} {query : List (String × String)}
    {log : List ((op : PortalOp) × op.Res)} {signedIn : SignedIn}
    (h : Returns (redeem rt store query).run log (.ok signedIn)) :
    ∃ config now request reply, rt.config = .ok config ∧
      ⟨.now, now⟩ ∈ log ∧ ⟨.exchange request, some reply⟩ ∈ log ∧
      invalidState store (searchParam query "state") now = false ∧
      Answers config reply signedIn.wallet := by
  obtain ⟨now, log₁, hlog, h⟩ := returns_ask_bind.1 h
  obtain ⟨hstate, h⟩ := returns_refuseIf_bind.1 h
  obtain ⟨-, h⟩ := returns_refuseIf_bind.1 h
  obtain ⟨-, h⟩ := returns_refuseIf_bind.1 h
  obtain ⟨config, hconfig, h⟩ := returns_require_bind.1 h
  obtain ⟨answer, log₂, hlog₁, h⟩ := returns_ask_bind.1 h
  obtain ⟨reply, hreply, h⟩ := returns_require_bind.1 h
  obtain ⟨hok, h⟩ := returns_refuseIf_bind.1 h
  obtain ⟨claims, hclaims, h⟩ := returns_require_bind.1 h
  have hrt : rt.config = .ok config := by
    cases hrt : rt.config with
    | error detail =>
        rw [hrt] at hconfig
        cases hconfig
    | ok config' =>
        rw [hrt] at hconfig
        cases hconfig
        rfl
  rw [hlog, hlog₁, hreply]
  refine ⟨config, now, _, reply, hrt, by simp, List.mem_cons_of_mem _ (List.mem_cons_self ..),
    hstate, ?_⟩
  exact ⟨by simpa using hok, claims, hclaims, returns_readClaims h⟩

/-! ## What is received -/

section Runs

variable {ts pre post : List (portal rt).Transition} {t : (portal rt).Transition}
  {c : (portal rt).Config} {i : Nat} {reply : Reply} {cookie : PortalSession}

/-- The session changes when it expires and when a response sets it. -/
theorem session_step (hvalid : t.Valid) :
    t.after.shared = t.before.shared ∨ t.after.shared = .empty ∨
      ∃ i reply cookie, t.move = .perform i (.receive reply (some cookie)) () ∧
        t.after.shared = cookie := by
  rcases hvalid.shared with heq | ⟨i, op, r, hmove, hexec⟩ | henv
  · exact .inl heq
  · cases op with
    | send => exact .inl hexec.2
    | now => exact .inl hexec
    | randomBytes count => exact .inl hexec
    | exchange request => exact .inl hexec
    | receive reply cookie =>
        cases cookie with
        | none => exact .inl hexec
        | some cookie => exact .inr (.inr ⟨i, reply, cookie, hmove, hexec⟩)
  · exact .inr (.inl henv)

/-- A cookie is set by a login, by a callback that signs in, or by one that is refused. -/
theorem received (h : (portal rt).Run .empty (pre ++ t :: post) c)
    (hmove : t.move = .perform i (.receive reply (some cookie)) ()) :
    t.after.shared = cookie ∧
      ((t.before.Serves i .login ∧ ∃ config state expires, reply = .authorize config state ∧
          cookie.state = some state ∧ cookie.stateExpires = some expires ∧ cookie.wallet = none) ∨
        ∃ query store rest, t.before.Serves i (.callback query) ∧
          ownLog i pre = ⟨.send, store⟩ :: rest ∧ cookie.state = none ∧
          ((∃ signedIn, Returns (redeem rt store query).run rest (.ok signedIn) ∧
              reply = .dashboard ∧ cookie.wallet = some signedIn.wallet) ∨
            ((∀ config state, reply ≠ .authorize config state) ∧ reply ≠ .dashboard ∧
              cookie.wallet = store.wallet))) := by
  obtain ⟨-, hvalid, -⟩ := h.split_at
  obtain ⟨-, -, -, -, hexec, -⟩ := Transition.Valid.perform hvalid hmove
  refine ⟨hexec, ?_⟩
  obtain ⟨req, hserves, hreaches⟩ := h.awaited hmove
  cases req with
  | login => exact .inl ⟨hserves, reaches_login hreaches⟩
  | callback query =>
      obtain ⟨store, rest, hlog, hstate, hcases⟩ := reaches_callback hreaches
      exact .inr ⟨query, store, rest, hserves, hlog, hstate, hcases⟩

/-- A state in the cookie was stored by a login whose response has been received. -/
theorem stored_of_run (h : (portal rt).Run .empty ts c) {state : String}
    (hstate : c.shared.state = some state) :
    ∃ t ∈ ts, ∃ expires, c.shared.stateExpires = some expires ∧ Stores t state expires := by
  have hhistory := h.history
    (P := fun ts c => ∀ state, c.shared.state = some state →
      ∃ t ∈ ts, ∃ expires, c.shared.stateExpires = some expires ∧ Stores t state expires) ?_ ?_
  · exact hhistory.1 state hstate
  · intro state hstate
    cases hstate
  · intro pre t post hts ih state hstate
    subst hts
    obtain ⟨-, hvalid, -⟩ := h.split_at
    have hmem : t ∈ pre ++ [t] := List.mem_append_right _ (List.mem_singleton.2 rfl)
    change t.after.shared.state = some state at hstate
    change ∃ u ∈ pre ++ [t], ∃ expires, t.after.shared.stateExpires = some expires ∧ _
    rcases session_step hvalid with heq | hempty | ⟨i, reply, cookie, hmove, -⟩
    · rw [heq] at hstate ⊢
      obtain ⟨u, hu, hstores⟩ := ih state hstate
      exact ⟨u, List.mem_append_left _ hu, hstores⟩
    · rw [hempty] at hstate
      cases hstate
    · obtain ⟨hafter, hcases⟩ := received h hmove
      rw [hafter] at hstate ⊢
      rcases hcases with ⟨-, config, state', expires, rfl, hstate', hexpires, -⟩ |
        ⟨query, store, rest, -, -, hnone, -⟩
      · obtain rfl : state' = state := Option.some.inj (hstate'.symm.trans hstate)
        exact ⟨t, hmem, expires, hexpires, i, config, cookie, hmove, hstate', hexpires⟩
      · rw [hnone] at hstate
        cases hstate

/-! ## Where a wallet comes from -/

theorem eq_of_statesMatch {received expected : String} (h : statesMatch received expected = true) :
    received = expected := by
  have hbytes := (Bool.and_eq_true_iff.1 h).2
  exact String.toByteArray_inj.1 (ByteArray.ext (of_decide_eq_true hbytes))

/-- A state that is accepted is the one in the session, and has not expired. -/
theorem valid_of_invalidState {store : PortalSession} {state : String} {now : TimeValue}
    (h : invalidState store state now = false) :
    store.state = some state ∧ ∃ expires, store.stateExpires = some expires ∧ now.1 ≤ expires := by
  unfold invalidState at h
  split at h
  next expected expires hstate hexpires =>
      simp only [Bool.or_eq_false_iff, Bool.not_eq_false', decide_eq_false_iff_not, not_lt] at h
      obtain ⟨⟨-, hfresh⟩, hmatch⟩ := h
      rw [hstate, ← eq_of_statesMatch hmatch]
      exact ⟨rfl, expires, hexpires, hfresh⟩
  · cases h

/-- A wallet that comes from the callback which is received: it was sent after the response of a
    login had stored the state it carries, the state had not expired, and the exchange answered
    success with the wallet. -/
def SignedInBy (pre : List (portal rt).Transition) (t : (portal rt).Transition) (wallet : String) :
    Prop :=
  ∃ (i : Nat) (query : List (String × String)) (cookie : PortalSession)
      (before : List (portal rt).Transition) (sent : (portal rt).Transition)
      (after : List (portal rt).Transition) (store : PortalSession) (expires : Nat)
      (config : OwnexConfig) (now : TimeValue) (request : ExchangeRequest) (reply : ExchangeReply),
    t.before.Serves i (.callback query) ∧
    t.move = .perform i (.receive .dashboard (some cookie)) () ∧
    pre = before ++ sent :: after ∧ sent.move = .perform i .send store ∧
    (∃ u ∈ before, Stores u (searchParam query "state") expires) ∧
    ⟨PortalOp.now, now⟩ ∈ ownLog i after ∧ now.1 ≤ expires ∧
    ⟨PortalOp.exchange request, some reply⟩ ∈ ownLog i after ∧ rt.config = .ok config ∧
    Answers config reply wallet

/-- What a callback puts into the session when it succeeds. -/
theorem signedInBy_of_received {query : List (String × String)} {store : PortalSession}
    {rest : List ((op : PortalOp) × op.Res)} {signedIn : SignedIn}
    (h : (portal rt).Run .empty (pre ++ t :: post) c)
    (hmove : t.move = .perform i (.receive .dashboard (some cookie)) ())
    (hserves : t.before.Serves i (.callback query)) (hlog : ownLog i pre = ⟨.send, store⟩ :: rest)
    (hredeem : Returns (redeem rt store query).run rest (.ok signedIn)) :
    SignedInBy pre t signedIn.wallet := by
  obtain ⟨config, now, request, reply, hconfig, hnow, hexchange, hstate, hanswers⟩ :=
    returns_redeem hredeem
  obtain ⟨hstate, expires, hexpires, hfresh⟩ := valid_of_invalidState hstate
  obtain ⟨before, sent, after, rfl, hsent, -, rfl⟩ :=
    exists_of_ownLog (V := portal rt) [] hlog
  -- The session that was sent is the one the browser held.
  obtain ⟨hbefore, -, -⟩ := h.split_at
  obtain ⟨hearlier, hvalid, -⟩ := hbefore.split_at
  obtain ⟨-, -, -, -, hexec, -⟩ := Transition.Valid.perform hvalid hsent
  obtain ⟨hstore, -⟩ : store = sent.before.shared ∧ _ := hexec
  rw [hstore] at hstate hexpires
  obtain ⟨u, hu, expires', hexpires', hstores⟩ := stored_of_run hearlier hstate
  obtain rfl : expires' = expires := Option.some.inj (hexpires'.symm.trans hexpires)
  exact ⟨i, query, cookie, before, sent, after, store, expires', config, now, request, reply,
    hserves, hmove, rfl, hsent, ⟨u, hu, hstores⟩, hnow, hfresh, hexchange, hconfig, hanswers⟩

/-! ## Safety -/

/-- What is promised of a session, for what has happened so far and where that has led. -/
structure Safe (ts : List (portal rt).Transition) (c : (portal rt).Config) : Prop where
  /-- The wallet only comes from a sign-in. -/
  signedIn : ∀ pre t post wallet, ts = pre ++ t :: post → t.before.shared.wallet ≠ some wallet →
    t.after.shared.wallet = some wallet → SignedInBy pre t wallet
  /-- After a login there is no wallet until a callback with its state, or that of a later one,
      succeeds. -/
  signedOut : ∀ pre t post state, ts = pre ++ t :: post → LogsIn t state →
    c.shared.wallet ≠ none →
    ∃ mid u back query, post = mid ++ u :: back ∧ SignsIn u query ∧
      (searchParam query "state" = state ∨ ∃ v ∈ mid, LogsIn v (searchParam query "state"))

/-- The last login so far, and what has happened since. -/
def Latest (ts : List (portal rt).Transition) (state : String)
    (since : List (portal rt).Transition) : Prop :=
  ∃ pre t, ts = pre ++ t :: since ∧ LogsIn t state ∧ ∀ u ∈ since, ∀ state', ¬ LogsIn u state'

/-- The request was sent with a session. -/
def SentWith (pre : List (portal rt).Transition) (i : Nat) (store : PortalSession) : Prop :=
  (ownLog i pre).head? = some ⟨.send, store⟩

/-- No response that sets the cookie is received too late. -/
structure Prompt (pre : List (portal rt).Transition) (t : (portal rt).Transition) : Prop where
  /-- A callback that is refused was sent without a wallet, or with the one that is there. -/
  refused : ∀ {i query store reply cookie}, t.before.Serves i (.callback query) →
    SentWith pre i store →
    t.move = .perform i (.receive reply (some cookie)) () → reply ≠ .dashboard →
    store.wallet = none ∨ store.wallet = t.before.shared.wallet
  /-- A callback that succeeds carries the state of the last login, or another one has since. -/
  succeeded : ∀ {query}, SignsIn t query → ∀ state since, Latest pre state since →
    searchParam query "state" = state ∨ ∃ u ∈ since, Redeems u state

theorem Latest.concat {state : String} {since : List (portal rt).Transition}
    (h : Latest (pre ++ [t]) state since) (hlogin : ∀ state, ¬ LogsIn t state) :
    ∃ since', since = since' ++ [t] ∧ Latest pre state since' := by
  obtain ⟨front, u, hsplit, hu, hsince⟩ := h
  rcases List.eq_nil_or_concat since with rfl | ⟨since', last, rfl⟩
  · obtain ⟨-, hlast⟩ := List.append_inj' hsplit rfl
    obtain rfl : t = u := (List.cons.inj hlast).1
    exact absurd hu (hlogin state)
  · rw [List.concat_eq_append] at hsplit hsince ⊢
    rw [← List.cons_append, ← List.append_assoc] at hsplit
    obtain ⟨hpre, hlast⟩ := List.append_inj' hsplit rfl
    obtain rfl : t = last := (List.cons.inj hlast).1
    exact ⟨since', rfl, front, u, hpre, hu, fun v hv => hsince v (List.mem_append_left _ hv)⟩

/-- After a login there is a last one. -/
theorem exists_latest (post : List (portal rt).Transition) {state : String}
    (hlogin : LogsIn t state) :
    ∃ since, Latest (t :: post) since.1 since.2 ∧
      (since = (state, post) ∨ ∃ mid u, post = mid ++ u :: since.2 ∧ LogsIn u since.1) := by
  induction post using List.reverseRecOn with
  | nil => exact ⟨(state, []), ⟨[], t, rfl, hlogin, by simp⟩, .inl rfl⟩
  | append_singleton post u ih =>
      by_cases hu : ∃ state', LogsIn u state'
      · obtain ⟨state', hu⟩ := hu
        exact ⟨(state', []), ⟨t :: post, u, rfl, hu, by simp⟩, .inr ⟨post, u, rfl, hu⟩⟩
      · have hnone : ∀ state', ¬ LogsIn u state' := fun state' h => hu ⟨state', h⟩
        obtain ⟨⟨last, since⟩, ⟨front, v, hsplit, hv, hsince⟩, hcases⟩ := ih
        refine ⟨(last, since ++ [u]), ⟨front, v, ?_, hv, ?_⟩, ?_⟩
        · rw [← List.cons_append, hsplit]
          simp
        · intro w hw
          rcases List.mem_append.1 hw with hw | hw
          · exact hsince w hw
          · rw [List.mem_singleton.1 hw]
            exact hnone
        · rcases hcases with heq | ⟨mid, w, hpost, hw⟩
          · obtain ⟨rfl, rfl⟩ := Prod.mk.inj heq
            exact .inl rfl
          · exact .inr ⟨mid, w, by rw [hpost]; simp, hw⟩

/-- Since the last login somebody has signed in with its state, if there is a wallet. -/
def Owned (ts : List (portal rt).Transition) (c : (portal rt).Config) : Prop :=
  c.shared.wallet ≠ none → ∀ state since, Latest ts state since → ∃ u ∈ since, Redeems u state

theorem wallet_of_logsIn (h : (portal rt).Run .empty (pre ++ t :: post) c) {state : String}
    (hlogin : LogsIn t state) : t.after.shared.wallet = none := by
  obtain ⟨i, config, cookie, hmove⟩ := hlogin
  obtain ⟨hafter, ⟨-, -, -, -, -, -, -, hwallet⟩ | ⟨query, store, rest, -, -, -, hcases⟩⟩ :=
    received h hmove
  · rw [hafter, hwallet]
  · rcases hcases with ⟨signedIn, -, hreply, -⟩ | ⟨hreply, -, -⟩
    · cases hreply
    · exact absurd rfl (hreply config state)

theorem Owned.step (h : (portal rt).Run .empty (pre ++ t :: post) c) (hprompt : Prompt pre t)
    (ih : Owned pre t.before) : Owned (pre ++ [t]) t.after := by
  intro hwallet state since hlatest
  have hlogin : ∀ state, ¬ LogsIn t state :=
    fun state hlogin => hwallet (wallet_of_logsIn h hlogin)
  obtain ⟨since', rfl, hbefore⟩ := hlatest.concat hlogin
  have hearlier : (∃ u ∈ since', Redeems u state) → ∃ u ∈ since' ++ [t], Redeems u state := by
    intro ⟨u, hu, hredeems⟩
    exact ⟨u, List.mem_append_left _ hu, hredeems⟩
  obtain ⟨-, hvalid, -⟩ := h.split_at
  rcases session_step hvalid with heq | hempty | ⟨i, reply, cookie, hmove, -⟩
  · exact hearlier (ih (heq ▸ hwallet) state since' hbefore)
  · rw [hempty] at hwallet
    exact absurd rfl hwallet
  · obtain ⟨hafter, hcases⟩ := received h hmove
    rcases hcases with ⟨-, config, state', -, rfl, -⟩ |
      ⟨query, store, rest, hserves, hlog, -, hcases⟩
    · exact absurd ⟨i, config, cookie, hmove⟩ (hlogin state')
    · rcases hcases with ⟨signedIn, -, rfl, -⟩ | ⟨-, hreply, hcookie⟩
      · have hsigns : SignsIn t query := ⟨i, cookie, hserves, hmove⟩
        rcases hprompt.succeeded hsigns state since' hbefore with hstate | hredeemed
        · exact ⟨t, List.mem_append_right _ (List.mem_singleton.2 rfl), query, hsigns, hstate⟩
        · exact hearlier hredeemed
      · -- A refused callback only leaves a wallet that was there before.
        rw [hafter, hcookie] at hwallet
        have hsend : SentWith pre i store := congrArg List.head? hlog
        rcases hprompt.refused hserves hsend hmove hreply with hnone | hsame
        · exact absurd hnone hwallet
        · exact hearlier (ih (hsame ▸ hwallet) state since' hbefore)

theorem safe_of_prompt (h : (portal rt).Run .empty ts c)
    (hprompt : ∀ pre t post, ts = pre ++ t :: post → Prompt pre t) : Safe ts c where
  signedIn := by
    intro pre t post wallet hts hbefore hafter
    subst hts
    obtain ⟨-, hvalid, -⟩ := h.split_at
    rcases session_step hvalid with heq | hempty | ⟨i, reply, cookie, hmove, -⟩
    · exact absurd (heq ▸ hafter) hbefore
    · rw [hempty] at hafter
      cases hafter
    · obtain ⟨hcookie, hcases⟩ := received h hmove
      rw [hcookie] at hafter
      rcases hcases with ⟨-, -, -, -, -, -, -, hnone⟩ |
        ⟨query, store, rest, hserves, hlog, -, hcases⟩
      · rw [hnone] at hafter
        cases hafter
      · rcases hcases with ⟨signedIn, hredeem, rfl, hwallet⟩ | ⟨-, hreply, hwallet⟩
        · obtain rfl : signedIn.wallet = wallet := Option.some.inj (hwallet.symm.trans hafter)
          exact signedInBy_of_received h hmove hserves hlog hredeem
        · rw [hwallet] at hafter
          have hsend : SentWith pre i store := congrArg List.head? hlog
          rcases (hprompt pre t post rfl).refused hserves hsend hmove hreply with hnone | hsame
          · rw [hnone] at hafter
            cases hafter
          · exact absurd (hsame ▸ hafter) hbefore
  signedOut := by
    intro pre t post state hts hlogin hwallet
    have howned : Owned ts c := by
      refine (h.history (P := Owned) (fun hwallet => absurd rfl hwallet) ?_).1
      intro pre t post hts ih
      exact Owned.step (hts ▸ h) (hprompt pre t post hts) ih
    obtain ⟨⟨last, since⟩, ⟨front, u, hsplit, hu, hsince⟩, hcases⟩ := exists_latest post hlogin
    have hlatest : Latest ts last since :=
      ⟨pre ++ front, u, by rw [hts, hsplit, List.append_assoc], hu, hsince⟩
    obtain ⟨v, hv, query, hsigns, hstate⟩ := howned hwallet last since hlatest
    obtain ⟨mid, back, rfl⟩ := List.append_of_mem hv
    rcases hcases with heq | ⟨earlier, w, hpost, hw⟩
    · obtain ⟨rfl, rfl⟩ := Prod.mk.inj heq
      exact ⟨mid, v, back, query, rfl, hsigns, .inl hstate⟩
    · have hsplit : post = (earlier ++ w :: mid) ++ v :: back := by rw [hpost]; simp
      refine ⟨earlier ++ w :: mid, v, back, query, hsplit, hsigns, .inr ⟨w, by simp, ?_⟩⟩
      rw [hstate]
      exact hw

theorem prompt_of_safe (h : (portal rt).Run .empty (pre ++ t :: post) c)
    (hsafe : Safe (pre ++ [t]) t.after) : Prompt pre t where
  refused := by
    intro i query store reply cookie hserves hsend hmove hreply
    obtain ⟨hafter, ⟨hlogin, -⟩ | ⟨query', store', rest, hserves', hlog, -, hcases⟩⟩ :=
      received h hmove
    · cases hserves.unique hlogin
    obtain rfl : store' = store := by
      rw [SentWith, hlog, List.head?_cons] at hsend
      cases hsend
      rfl
    rcases hcases with ⟨-, -, hdashboard, -⟩ | ⟨-, -, hcookie⟩
    · exact absurd hdashboard hreply
    · refine or_iff_not_imp_left.2 fun hsome => ?_
      obtain ⟨wallet, hwallet⟩ := Option.ne_none_iff_exists'.1 hsome
      by_contra hother
      -- The wallet comes back with the response, but only a sign-in may bring one.
      have hbefore : t.before.shared.wallet ≠ some wallet :=
        fun heq => hother (hwallet.trans heq.symm)
      have hback : t.after.shared.wallet = some wallet := by rw [hafter, hcookie, hwallet]
      obtain ⟨j, _, cookie', _, _, _, _, _, _, _, _, _, -, hsigned, -⟩ :=
        hsafe.signedIn pre t [] wallet rfl hbefore hback
      rw [hmove] at hsigned
      cases hsigned
      exact hreply rfl
  succeeded := by
    intro query hsigns state since hlatest
    obtain ⟨front, u, hsplit, hu, hsince⟩ := hlatest
    have hwallet : t.after.shared.wallet ≠ none := by
      obtain ⟨i, cookie, hserves, hmove⟩ := hsigns
      obtain ⟨hafter, ⟨hlogin, -⟩ |
          ⟨-, -, -, -, -, -, ⟨signedIn, -, -, hcookie⟩ | ⟨-, hreply, -⟩⟩⟩ :=
        received h hmove
      · cases hserves.unique hlogin
      · rw [hafter, hcookie]
        exact Option.some_ne_none _
      · exact absurd rfl hreply
    obtain ⟨mid, v, back, query', hmid, hsigns', hstate⟩ :=
      hsafe.signedOut front u (since ++ [t]) state (by rw [hsplit]; simp) hu hwallet
    -- The sign-in that was promised is this one or an earlier one, and no login is in between.
    rcases List.eq_nil_or_concat back with rfl | ⟨back', last, rfl⟩
    · obtain ⟨rfl, hlast⟩ := List.append_inj' hmid rfl
      obtain rfl : t = v := (List.cons.inj hlast).1
      obtain ⟨i, cookie, hserves, hmove⟩ := hsigns
      obtain ⟨j, cookie', hserves', hmove'⟩ := hsigns'
      obtain rfl : i = j := by
        rw [hmove] at hmove'
        cases hmove'
        rfl
      cases hserves.unique hserves'
      rcases hstate with hstate | ⟨w, hw, hlogin⟩
      · exact .inl hstate
      · exact absurd hlogin (hsince w hw _)
    · rw [List.concat_eq_append, ← List.cons_append, ← List.append_assoc] at hmid
      obtain ⟨rfl, -⟩ := List.append_inj' hmid rfl
      have hv : v ∈ mid ++ v :: back' := by simp
      rcases hstate with hstate | ⟨w, hw, hlogin⟩
      · exact .inr ⟨v, hv, query', hsigns', hstate⟩
      · exact absurd hlogin (hsince w (List.mem_append_left _ hw) _)

/-- A browser is safe in every state of a run just where every response that sets the cookie is
    received in time: that of a refused callback while the wallet it was sent with, if any, is still
    there; and that of a callback that succeeded before the response of another login, unless
    somebody has signed in since. -/
theorem safe_iff_prompt (h : (portal rt).Run .empty ts c) :
    (∀ before after c', ts = before ++ after → (portal rt).Run .empty before c' → Safe before c') ↔
      ∀ pre t post, ts = pre ++ t :: post → Prompt pre t := by
  constructor
  · intro hsafe pre t post hts
    subst hts
    obtain ⟨hpre, hvalid, -⟩ := h.split_at
    have hrun : (portal rt).Run .empty (pre ++ [t]) t.after := hpre.append (.single hvalid)
    exact prompt_of_safe h (hsafe (pre ++ [t]) post t.after (by simp) hrun)
  · intro hprompt before after c' hts hrun
    refine safe_of_prompt hrun fun pre t post hbefore => hprompt pre t (post ++ after) ?_
    rw [hts, hbefore]
    simp

end Runs

/-! ## A login that comes in between -/

namespace Sample

/-- Cues say what is random and what the exchange answers. The clock stands still. -/
def portalPlayer (rt : PortalRuntime) : (portal rt).Player where
  Choice := List UInt8 × Option ExchangeReply
  Event := Unit
  perform := fun (s : PortalSession) (op : PortalOp) choice =>
    match op with
    | .send => some (s, s)
    | .now => some (⟨1700000000000, start_le⟩, s)
    | .randomBytes _ => some (choice.1, s)
    | .exchange _ => some (choice.2, s)
    | .receive _ cookie => some ((), cookie.getD s)
  outside := fun (_ : PortalSession) _ => some PortalSession.empty
  admits := fun _ _ => true
  perform_sound := by
    intro s op choice r s' h
    cases op with
    | receive reply cookie =>
        cases h
        cases cookie <;> rfl
    | send =>
        cases h
        exact ⟨rfl, rfl⟩
    | now =>
        cases h
        rfl
    | randomBytes count =>
        cases h
        rfl
    | exchange request =>
        cases h
        rfl
  outside_sound := by
    intro s event s' h
    exact (Option.some.inj h).symm
  admits_sound := fun _ => trivial

def portalRuntime : PortalRuntime where
  config := .ok
    { origin := "https://ownex.example"
      clientId := "ownex_00000000000000000000000000000001"
      clientSecret := "secret"
      orgId := .ofNat 1
      redirectUri := "https://portal.example/callback"
      appSlug := "employee-portal" }
  toUpperCase := String.toUpper
  keepsCookies := false

/-- Alice's claims. -/
def aliceReply : ExchangeReply where
  status := 200
  body := some (.object
    [(.ofString "wallet", some (.string (.ofString "0x000000000000000000000000000000000000a11c"))),
      (.ofString "orgId", some (.number (.ofNat 1))),
      (.ofString "verifiedAt", some (.string (.ofString "2026-01-01T00:00:00.000Z")))])

abbrev player := portalPlayer portalRuntime

def perform (thread : Nat) (byte : UInt8) (times : Nat) : List player.Cue :=
  List.replicate times (.perform thread ([byte], some aliceReply))

/-- The state that a login makes of one byte. -/
def stateOf (byte : UInt8) : String := String.ofList (toBase64url [byte])

/-- What is received in a transition, if it sets the cookie. -/
def receives (t : (portal portalRuntime).Transition) : Option Reply :=
  match t.move with
  | .perform _ op _ =>
      match (op : PortalOp) with
      | .receive reply (some _) => some reply
      | _ => none
  | _ => none

theorem receives_of_move {t : (portal portalRuntime).Transition} {i : Nat} {reply : Reply}
    {cookie : PortalSession} (h : t.move = .perform i (.receive reply (some cookie)) ()) :
    receives t = some reply := by
  unfold receives
  rw [h]

theorem move_of_receives {t : (portal portalRuntime).Transition} {reply : Reply}
    (h : receives t = some reply) :
    ∃ i cookie, t.move = .perform i (.receive reply (some cookie)) () := by
  unfold receives at h
  split at h
  next i op r hmove =>
      split at h
      next =>
          cases h
          exact ⟨i, _, hmove⟩
      · cases h
  · cases h

/-- Every callback among the requests carries a state like this. -/
def carry (p : String → Bool) (t : (portal portalRuntime).Transition) : Bool :=
  t.before.threads.all fun thread =>
    match (thread.request : PortalRequest) with
    | .login => true
    | .callback query => p (searchParam query "state")

theorem of_carry {p : String → Bool} {t : (portal portalRuntime).Transition} {i : Nat}
    {query : List (String × String)} (h : carry p t = true)
    (hserves : t.before.Serves i (.callback query)) : p (searchParam query "state") = true := by
  obtain ⟨rest, hthread⟩ := hserves
  exact List.all_eq_true.1 h _ (List.mem_of_getElem? hthread)

/-- Alice signs in. -/
def signInCues : List player.Cue :=
  .arrive .login :: perform 0 7 4 ++
    .arrive (.callback [("code", "c"), ("state", stateOf 7)]) :: perform 1 0 4

/-- Nobody is refused, and the state of every login and every callback is this one. -/
def signsInWith (state : String) (t : (portal portalRuntime).Transition) : Bool :=
  carry (· == state) t && (receives t).all fun reply => match reply with
    | .authorize _ state' => state' == state
    | .dashboard => true
    | _ => false

/-- Alice signs in, and her session is safe all the time. -/
theorem signs_in :
    ∃ (ts : List (portal portalRuntime).Transition) (c : (portal portalRuntime).Config),
      (portal portalRuntime).Run .empty ts c ∧
      c.shared.wallet = some "0x000000000000000000000000000000000000a11c" ∧
      ∀ before after c', ts = before ++ after → (portal portalRuntime).Run .empty before c' →
        Safe before c' := by
  have hplay : ((player.play (idle .empty) signInCues).map fun (ts, c) =>
      (ts.all (signsInWith (stateOf 7)), c.shared.wallet)) =
        some (true, some "0x000000000000000000000000000000000000a11c") := by decide +kernel
  obtain ⟨⟨ts, c⟩, hplay, hfacts⟩ := Option.map_eq_some_iff.1 hplay
  obtain ⟨hall, hwallet⟩ := Prod.mk.inj hfacts
  have hrun : (portal portalRuntime).Run .empty ts c := Player.play_path hplay
  refine ⟨ts, c, hrun, hwallet, (safe_iff_prompt hrun).2 ?_⟩
  rintro pre t post rfl
  have hsigns : ∀ u ∈ pre ++ t :: post, carry (· == stateOf 7) u = true ∧
      (receives u).all (fun reply => match reply with
        | .authorize _ state' => state' == stateOf 7
        | .dashboard => true
        | _ => false) = true :=
    fun u hu => Bool.and_eq_true_iff.1 (List.all_eq_true.1 hall u hu)
  obtain ⟨hcarry, hreceives⟩ := hsigns t (by simp)
  refine ⟨?_, ?_⟩
  · intro i query store reply cookie hserves hsend hmove hreply
    obtain ⟨-, ⟨hlogin, -⟩ | ⟨-, -, -, -, -, -, ⟨-, -, hdashboard, -⟩ | ⟨hauthorize, -, -⟩⟩⟩ :=
      received hrun hmove
    · cases hserves.unique hlogin
    · exact absurd hdashboard hreply
    · rw [receives_of_move hmove, Option.all_some] at hreceives
      split at hreceives
      · exact absurd rfl (hauthorize _ _)
      · exact absurd rfl hreply
      · cases hreceives
  · intro query ⟨i, cookie, hserves, hmove⟩ state since hlatest
    obtain ⟨front, u, rfl, ⟨j, config, cookie', hlogin⟩, -⟩ := hlatest
    obtain ⟨-, hauthorize⟩ := hsigns u (by simp)
    rw [receives_of_move hlogin] at hauthorize
    have hcarried := of_carry (p := (· == stateOf 7)) hcarry hserves
    exact .inl ((eq_of_beq hcarried).trans (eq_of_beq hauthorize).symm)

/-- Alice signs in, but before the response has come she starts another login. -/
def lateCues : List player.Cue :=
  .arrive .login :: perform 0 7 4 ++
    .arrive (.callback [("code", "c"), ("state", stateOf 7)]) :: perform 1 0 3 ++
    .arrive .login :: perform 2 8 4 ++ perform 1 0 1

/-- The last two transitions are a login and something else, with no callback for that login. -/
def endsLate (ts : List (portal portalRuntime).Transition) : Bool :=
  match ts.drop 13 with
  | [t, u] =>
      (match receives t with
        | some (.authorize _ state) => state == stateOf 8
        | _ => false) && carry (· != stateOf 8) u
  | _ => false

/-- The late response brings back the wallet that the login has taken away. -/
theorem late_response_unsafe :
    ¬ ∀ (rt : PortalRuntime) (ts : List (portal rt).Transition) (c : (portal rt).Config),
      (portal rt).Run .empty ts c → Safe ts c := by
  intro hall
  have hplay : ((player.play (idle .empty) lateCues).map fun (ts, c) =>
      (endsLate ts, c.shared.wallet.isSome)) = some (true, true) := by decide +kernel
  obtain ⟨⟨ts, c⟩, hplay, hfacts⟩ := Option.map_eq_some_iff.1 hplay
  obtain ⟨hends, hwallet⟩ := Prod.mk.inj hfacts
  have hsafe := hall portalRuntime ts c (Player.play_path hplay)
  unfold endsLate at hends
  split at hends
  next t u hdrop =>
      obtain ⟨hlogin, hcarry⟩ := Bool.and_eq_true_iff.1 hends
      split at hlogin
      next config state hreceives =>
          obtain ⟨i, cookie, hmove⟩ := move_of_receives hreceives
          have hsplit : ts = ts.take 13 ++ t :: [u] := by rw [← hdrop, List.take_append_drop]
          have hsome : c.shared.wallet ≠ none := by
            intro hnone
            rw [hnone] at hwallet
            cases hwallet
          obtain ⟨mid, v, back, query, hmid, ⟨j, _, hserves, -⟩, hstate⟩ :=
            hsafe.signedOut _ t [u] state hsplit ⟨i, config, cookie, hmove⟩ hsome
          -- Only the late response is left, and it carries another state.
          obtain ⟨rfl, hlast⟩ := List.append_eq_singleton_iff.1 hmid.symm |>.resolve_right
            (fun h => by cases h.2)
          obtain rfl : v = u := (List.cons.inj hlast).1
          have hcarried := of_carry (p := (· != stateOf 8)) hcarry hserves
          rcases hstate with hstate | ⟨w, hw, -⟩
          · rw [hstate, eq_of_beq hlogin] at hcarried
            simp at hcarried
          · cases hw
      · cases hlogin
  · cases hends

end Sample

end EmployeePortal

end OwneX
