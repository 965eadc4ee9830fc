import OwneX.EmployeePortal.Pages
import OwneX.EmployeePortal.VouchedSessions
import OwneX.Platform.PartnerAnswers
import OwneX.Platform.PartnerScope

set_option autoImplicit false

/-! # What the portal shows is live

The pages of the portal run beside the platform, and are linked to it by the two endpoints a partner
calls. A page is made from the platform's answer to a request of its own, with the portal's
credentials. Whatever the answer says was read from the chain after the page had been asked for, and
the registry and the chain have let the wallet in meanwhile (`page_live`). So nothing of it was only
true before, and a platform or a chain that cannot be reached shows nothing. The wallet and the
number of the organization are shown as the session has them. -/

namespace OwneX

namespace EmployeePortal

open Js JsNumber Prog Interleaving Service

/-! ## The two endpoints on the wire -/

def nullable {α : Type} (f : α → Preimage.Json) : Option α → Preimage.Json
  | none => .null
  | some a => f a

def numberJson (n : Nat) : Preimage.Json :=
  .number (.ofNat n)

def membershipJson (membership : MembershipTimes) : Preimage.Json :=
  .object [
    field "joinedAt" (nullable numberJson membership.joinedAt),
    field "expiresAt" (nullable numberJson membership.expiresAt),
    field "expired" (.bool membership.expired)]

def appAccessJson (app : AppAccess) : Preimage.Json :=
  .object [
    field "slug" (textValue app.slug),
    field "appId" (textJson ("0x".toList ++ toHex 64 app.appId.toNat)),
    field "registered" (.bool app.registered),
    field "allowed" (.bool app.allowed)]

/-- The body of `GET /api/roles/verify`. -/
def verifyJson : VerifyReply → Preimage.Json
  | .refused wallet orgId reason detail verifiedAt =>
      .object [
        field "wallet" (textJson wallet),
        field "orgId" (numberJson orgId),
        field "allowed" (.bool false),
        field "reason" (textValue reason),
        field "detail" (textValue detail),
        field "role" (textValue "NONE"),
        field "verifiedAt" (textJson verifiedAt)]
  | .verified claims decision detail organizationActive membership app authMode =>
      .object (claimsFields claims ++ [
        field "allowed" (.bool decision.allowed),
        field "reason" (nullable (fun reason => textValue reason.label) decision.reason),
        field "detail" (nullable textValue detail),
        field "organizationActive" (.bool organizationActive),
        field "membership" (membershipJson membership),
        field "appAccess" (nullable appAccessJson app),
        field "authMode" (textValue authMode)])

def assetJson (asset : PortalAsset) : Preimage.Json :=
  .object [
    field "tokenId" (numberJson asset.tokenId),
    field "active" (.bool asset.active),
    field "assetType" (textValue asset.assetType)]

/-- The body of `GET /api/portal/assets`. -/
def assetsJson (reply : PortalReply) : Preimage.Json :=
  .object [
    field "assets" (.array (reply.assets.map assetJson)),
    field "allowed" (.bool reply.allowed),
    field "reason" (nullable (fun reason => textValue reason.label) reply.reason)]

def okNoStore (body : Preimage.Json) : ExchangeReply where
  status := 200
  body := some body

def PartnerRequest.headers (request : PartnerRequest) : PartnerHeaders where
  authorization := some request.authorization
  clientId := none
  clientSecret := none

def PartnerRequest.params (request : PartnerRequest) : PartnerParams where
  wallet := some request.wallet
  orgId := some request.orgId
  app := request.app

/-! ## The pages and the platform -/

/-- The request for a page brings the cookie along. -/
inductive PageRequest where
  | dashboard (store : PortalSession)
  | assets (store : PortalSession)

variable {σ : Type} [ERC721 σ] {srt : ServerRuntime} {rt : PageRuntime}

def pages (rt : PageRuntime) : Service where
  State := Unit
  Op := PageOp
  Res := PageOp.Res
  Req := PageRequest
  Ans := fun _ => Page
  exec := fun _ _ _ _ => True
  env := fun _ _ => False
  admits := fun _ _ => True
  handler
    | .dashboard store => dashboardPage rt store
    | .assets store => assetsPage rt store

/-- An answer that lets a wallet see something. Any other may come from anywhere. -/
def PageOp.Grants : (op : PageOp) → op.Res → Prop
  | .verify _, some reply =>
      reply.ok = true ∧
        ∃ body, reply.body = some body ∧ body.member? "allowed" = some (some (.bool true))
  | .assets _, some reply => reply.ok = true
  | .verify _, none => False
  | .assets _, none => False

/-- The platform's answer arrives as it was given. -/
def Brings : (op : PageOp) → op.Res → (req : ServerRequest) → req.Ans → Prop
  | .verify request, some reply, .verify headers params, .ok answer =>
      headers = request.headers ∧ params = request.params ∧ reply = okNoStore (verifyJson answer)
  | .assets request, some reply, .assets headers params, .ok answer =>
      headers = request.headers ∧ params = request.params ∧ reply = okNoStore (assetsJson answer)
  | _, _, _, _ => False

/-- The pages of the portal, and the platform. -/
def revalidation (σ : Type) [ERC721 σ] (srt : ServerRuntime) (rt : PageRuntime) :
    Link (pages rt) (server σ srt) where
  foreign := PageOp.Grants
  carries := Brings

/-! ## What is said -/

/-- `us` is what the platform has done between the request for a page and some later moment. -/
def SinceAsked (ts : List (revalidation σ srt rt).Transition) (i : Nat)
    (us : List (server σ srt).Transition) : Prop :=
  ∃ (front : List (revalidation σ srt rt).Transition) (o : (revalidation σ srt rt).Transition)
    (mid back : List (revalidation σ srt rt).Transition) (w : (pages rt).Transition)
    (req : PageRequest),
    ts = front ++ o :: (mid ++ back) ∧ o.move.nearPart = some w ∧ w.move = .arrive req ∧
      w.before.threads.length = i ∧ us = Link.fars mid

/-- What was the case at some moment. -/
def Meanwhile (us : List (server σ srt).Transition) (P : ServerState σ → Prop) : Prop :=
  ∃ v ∈ us, P v.before.shared

/-- The chain has let the wallet in. -/
def LetIn (us : List (server σ srt).Transition) (orgId : Nat) (account : Address)
    (slug : String) : Prop :=
  Meanwhile us fun s =>
    s.chain.world.canAccessApp s.chain.blockTime orgId account (srt.keccakId slug) = true

/-- The registry had the application, and it was not revoked. -/
def InRegistry (us : List (server σ srt).Transition) (orgId : Nat) (slug : String) : Prop :=
  ∃ row, (Meanwhile us fun s => s.applications.findByKey (orgId, slug) = some row) ∧
    row.status ≠ .revoked

/-- In production the headers hold the secret of an application that was not revoked. -/
def Authenticated (us : List (server σ srt).Transition) (headers : PartnerHeaders) : Prop :=
  srt.production = true → ∃ credentials row,
    readPartnerCredentials srt.crypto headers = some credentials ∧
      (Meanwhile us fun s =>
        s.applications.findByClientId (trimText credentials.clientId) = some row) ∧
      row.status ≠ .revoked ∧
      verifyClientSecret srt.crypto credentials.clientSecret row.clientSecretHash = true

/-- What the dashboard shows of the wallet's access is read from the chain. The wallet and the
    organization are those of the session. -/
structure LiveDashboard (rt : PageRuntime) (us : List (server σ srt).Transition)
    (store : PortalSession) (wallet : String) (orgId : Nat) (account : Address)
    (view : DashboardView) : Prop where
  wallet : view.wallet = shorten wallet
  organization : view.orgId = store.orgId
  role : ∃ role, view.role = .ofString (roleText role) ∧
    Meanwhile us fun s => s.chain.readEffectiveRole orgId account = role
  granted : ∃ permissions : List (PermissionKey × Bool),
    view.granted = (permissions.filter (·.2)).map (fun p =>
      rt.toLowerCase (spaced (.ofString (permissionText p.1)))) ∧
    ∀ p ∈ permissions, ∃ hash, (p.1, hash) ∈ permissionList ∧
      Meanwhile us fun s => s.chain.readHasPermission orgId account hash = p.2
  membership : ∃ membership : MembershipState,
    view.expired = membership.expired ∧
    view.expiresAt = (membership.expiresAt.map numberJson).filter (!·.isFalsy) ∧
    Meanwhile us fun s => s.chain.readMembership s.clock orgId account = membership

/-- An asset that is shown belongs to the organization and is assigned to the wallet. -/
def LiveAsset (us : List (server σ srt).Transition) (orgId : Nat) (wallet : String)
    (card : AssetCard) : Prop :=
  ∃ (tokenId : Nat) (record : AssetState),
    card = ⟨some (numberJson record.tokenId), none, some (textValue "Asset"), record.active⟩ ∧
      addressText record.assignedTo = lowerAscii wallet.toList ∧
      (Meanwhile us fun s => tokenId ∈ s.chain.readAssetsOfOrganization orgId) ∧
      Meanwhile us fun s => s.chain.readAsset tokenId = .ok (some record)

/-- Since the page was asked for, the platform has answered an operation of it. -/
structure AnsweredSince (ts : List (revalidation σ srt rt).Transition) (i : Nat)
    (us : List (server σ srt).Transition) (op : PageOp) (req : ServerRequest) (a : req.Ans) :
    Prop where
  since : SinceAsked ts i us
  arrived : ∃ r, ⟨op, r⟩ ∈ ownLog i (Link.nears ts) ∧ Brings op r req a
  returned : ∃ thread, Returns (req.handler srt) (ownLog thread us) a

/-- The platform has let the wallet in the cookie in, and its answer said `claims` and `membership`. -/
structure Admission (ts : List (revalidation σ srt rt).Transition) (i : Nat) (store : PortalSession)
    (config : OwnexConfig) (wallet : String) (orgId : Nat) (account : Address)
    (us : List (server σ srt).Transition) (claims : PartnerClaims) (membership : MembershipTimes) :
    Prop where
  configured : rt.config = .ok config
  session : store.wallet = some wallet
  organization : positiveInt config.orgId.chars = some orgId
  address : srt.getAddress wallet.toList = some account
  answered :
    let request := partnerRequest rt config "/api/roles/verify" wallet config.appSlug
    ∃ decision detail organizationActive app authMode, decision.allowed = true ∧
      AnsweredSince ts i us (.verify request) (.verify request.headers request.params)
        (.ok (.verified claims decision detail organizationActive membership app authMode))
  authenticated : Authenticated us
    (partnerRequest rt config "/api/roles/verify" wallet config.appSlug).headers
  registered : InRegistry us orgId config.appSlug
  letIn : LetIn us orgId account config.appSlug

/-- The wallet in the cookie is one that has been let in since the page was asked for. -/
def Admitted (ts : List (revalidation σ srt rt).Transition) (i : Nat) (store : PortalSession)
    (P : OwnexConfig → String → Nat → Address → List (server σ srt).Transition → PartnerClaims →
      MembershipTimes → Prop) : Prop :=
  ∃ config wallet orgId account us claims membership,
    Admission ts i store config wallet orgId account us claims membership ∧
      P config wallet orgId account us claims membership

/-! ## What a page asks before it shows anything -/

section Pages

variable {store : PortalSession} {log : List ((op : PageOp) × op.Res)}

def Page.Shows : Page → Prop
  | .dashboard _ | .assets _ => True
  | _ => False

theorem not_shows_refusedPage (verified : VerifyResult) : ¬ (refusedPage verified).Shows := by
  unfold refusedPage
  split
  · exact id
  · exact id

/-- A body is believed where it says that the wallet is allowed. -/
theorem allowed_of_readVerification {body : Preimage.Json} {verified : VerifyResult}
    (h : readVerification body = some verified) (hallowed : verified.allowed = true) :
    body.member? "allowed" = some (some (.bool true)) := by
  unfold readVerification at h
  split at h
  · cases h
  next hbody => exact hbody
  · cases h
    cases hallowed

/-- An answer is believed where it arrives with a success. -/
theorem body_of_verification {response : Option ExchangeReply} {verified : VerifyResult}
    (h : verification response = some verified) (hallowed : verified.allowed = true) :
    ∃ reply body, response = some reply ∧ reply.ok = true ∧ reply.body = some body ∧
      readVerification body = some verified := by
  unfold verification at h
  split at h
  · cases h
    cases hallowed
  next reply =>
      split at h
      · cases h
        cases hallowed
      next hok =>
          split at h
          · cases h
            cases hallowed
          next body hbody =>
              refine ⟨reply, body, rfl, ?_, hbody, h⟩
              simpa using hok

/-- A page that shows something has asked about the wallet first, and has been told that it is
    allowed. -/
theorem asks_of_shows {page : String → VerifyResult → Prog PageOp PageOp.Res Page} {a : Page}
    (h : Returns (protectedPage rt store page) log a) (hshows : a.Shows) :
    ∃ config wallet reply body verified rest, rt.config = .ok config ∧
      store.wallet = some wallet ∧
      log = ⟨.verify (partnerRequest rt config "/api/roles/verify" wallet config.appSlug),
        some reply⟩ :: rest ∧
      reply.ok = true ∧ reply.body = some body ∧
      body.member? "allowed" = some (some (.bool true)) ∧ readVerification body = some verified ∧
      Returns (page wallet verified) rest a := by
  unfold protectedPage at h
  split at h
  · obtain ⟨-, rfl⟩ := returns_pure.1 h
    exact hshows.elim
  next wallet hwallet =>
      obtain ⟨hstore, -⟩ := Option.filter_eq_some_iff.1 hwallet
      obtain ⟨verified, log₁, rest, rfl, hverify, hpage⟩ := returns_bind.1 h
      cases verified with
      | none =>
          obtain ⟨-, rfl⟩ := returns_pure.1 hpage
          exact hshows.elim
      | some verified =>
          by_cases hallowed : verified.allowed = true
          · simp only [ifAllowed, hallowed, if_true] at hpage
            unfold verifyAccess at hverify
            split at hverify
            · obtain ⟨-, hdenied⟩ := returns_pure.1 hverify
              cases hdenied
              cases hallowed
            next config hconfig =>
                split at hverify
                · obtain ⟨response, log₂, log₃, rfl, hcall, hmade⟩ := returns_bind.1 hverify
                  obtain rfl := returns_call.1 hcall
                  obtain ⟨rfl, hverified⟩ := returns_pure.1 hmade
                  obtain ⟨reply, body, rfl, hok, hbody, hread⟩ :=
                    body_of_verification hverified hallowed
                  exact ⟨config, wallet, reply, body, verified, rest, hconfig, hstore, rfl, hok,
                    hbody, allowed_of_readVerification hread hallowed, hread, hpage⟩
                · obtain ⟨-, hfailed⟩ := returns_pure.1 hverify
                  cases hfailed
          · simp only [ifAllowed, hallowed, Bool.false_eq_true, if_false] at hpage
            obtain ⟨-, rfl⟩ := returns_pure.1 hpage
            exact absurd hshows (not_shows_refusedPage verified)

/-- What the page of the assets shows, it has been answered. -/
theorem asks_assets {wallet : String} {cards : List AssetCard} {config : OwnexConfig}
    (hconfig : rt.config = .ok config)
    (h : Returns (showAssets rt wallet) log (.assets cards)) (hcards : cards ≠ []) :
    ∃ reply, log = [⟨.assets (partnerRequest rt config "/api/portal/assets" wallet none),
        some reply⟩] ∧ reply.ok = true ∧ assetCards (readAssetList (some reply)) = some cards := by
  obtain ⟨assets, log₁, log₂, rfl, hfetch, hshown⟩ := returns_bind.1 h
  have hmade : assetCards assets = some cards ∧ log₂ = [] := by
    split at hshown
    · obtain ⟨-, hfailed⟩ := returns_pure.1 hshown
      cases hfailed
    next cards' hcards' =>
        obtain ⟨hlog, heq⟩ := returns_pure.1 hshown
        cases heq
        exact ⟨hcards', hlog⟩
  obtain ⟨hmade, rfl⟩ := hmade
  have hnone : assets ≠ .array [] := by
    intro hempty
    rw [hempty] at hmade
    cases hmade
    exact hcards rfl
  unfold fetchAssets at hfetch
  rw [hconfig] at hfetch
  simp only at hfetch
  split at hfetch
  · obtain ⟨response, log₃, log₄, rfl, hcall, hread⟩ := returns_bind.1 hfetch
    obtain rfl := returns_call.1 hcall
    obtain ⟨rfl, rfl⟩ := returns_pure.1 hread
    cases response with
    | none => exact absurd rfl hnone
    | some reply =>
        refine ⟨reply, rfl, ?_, hmade⟩
        by_contra hok
        exact hnone (if_pos (by simpa using hok))
  · obtain ⟨-, rfl⟩ := returns_pure.1 hfetch
    exact absurd rfl hnone

end Pages

/-! ## What is made of the platform's bodies -/

/-- Only a decision allows a wallet. -/
theorem verified_of_json {answer : VerifyReply}
    (h : (verifyJson answer).member? "allowed" = some (some (.bool true))) :
    ∃ claims decision detail organizationActive membership app authMode,
      answer = .verified claims decision detail organizationActive membership app authMode ∧
        decision.allowed = true := by
  cases answer with
  | refused wallet orgId reason detail verifiedAt =>
      have hrefused : (verifyJson (.refused wallet orgId reason detail verifiedAt)).member?
          "allowed" = some (some (.bool false)) := rfl
      rw [hrefused] at h
      cases h
  | verified claims decision detail organizationActive membership app authMode =>
      have hdecided : (verifyJson (.verified claims decision detail organizationActive membership
          app authMode)).member? "allowed" = some (some (.bool decision.allowed)) := rfl
      rw [hdecided] at h
      exact ⟨claims, decision, detail, organizationActive, membership, app, authMode, rfl,
        Preimage.Json.bool.inj (Option.some.inj (Option.some.inj h))⟩

variable {claims : PartnerClaims} {decision : AccessDecision} {detail : Option String}
  {organizationActive : Bool} {membership : MembershipTimes} {app : Option AppAccess}
  {authMode : String}

/-- What the portal makes of the answer. -/
def believed (claims : PartnerClaims) (membership : MembershipTimes) : VerifyResult where
  allowed := true
  reason := none
  role := .ofString (roleText claims.role)
  permissions := permissionsJson claims.permissions
  identityActive := claims.identityActive
  membership := some (membershipJson membership)
  verifiedAt := some (.ofString (String.ofList claims.verifiedAt))

theorem readVerification_verified (hallowed : decision.allowed = true) :
    readVerification (verifyJson (.verified claims decision detail organizationActive membership
      app authMode)) = some (believed claims membership) := by
  have hmember : (verifyJson (.verified claims decision detail organizationActive membership app
      authMode)).member? "allowed" = some (some (.bool true)) := by
    rw [← hallowed]
    rfl
  unfold readVerification
  rw [hmember]
  refine congrArg some ?_
  unfold believed
  rw [VerifyResult.mk.injEq]
  refine ⟨rfl, rfl, rfl, rfl, ?_, rfl, rfl⟩
  obtain ⟨wallet, orgId, role, permissions, identityActive, verifiedAt⟩ := claims
  cases identityActive <;> rfl

/-- The permissions that are shown are those that are granted. -/
theorem granted_permissionsJson (permissions : List (PermissionKey × Bool)) :
    ((permissionsJson permissions).entries.filter fun entry => Preimage.truthy entry.2).map
        (fun entry => rt.toLowerCase (spaced entry.1)) =
      (permissions.filter (·.2)).map fun p =>
        rt.toLowerCase (spaced (.ofString (permissionText p.1))) := by
  induction permissions with
  | nil => rfl
  | cons p permissions ih =>
      obtain ⟨key, granted⟩ := p
      cases granted with
      | true => exact congrArg (rt.toLowerCase (spaced (.ofString (permissionText key))) :: ·) ih
      | false => exact ih

theorem expired_membershipJson (membership : MembershipTimes) :
    Preimage.truthy ((some (membershipJson membership)).bind fun m =>
      (m.member? "expired").join) = membership.expired :=
  Bool.not_not membership.expired

theorem expiresAt_membershipJson (membership : MembershipTimes) :
    ((some (membershipJson membership)).bind fun m => (m.member? "expiresAt").join).filter
        (fun value => !value.isFalsy) =
      (membership.expiresAt.map numberJson).filter fun value => !value.isFalsy := by
  have hmember : ((some (membershipJson membership)).bind fun m =>
      (m.member? "expiresAt").join) = some (nullable numberJson membership.expiresAt) := rfl
  rw [hmember]
  cases membership.expiresAt with
  | none => rfl
  | some expiresAt => rfl

/-- What is shown of an asset. -/
def shownAsset (asset : PortalAsset) : AssetCard where
  tokenId := some (numberJson asset.tokenId)
  name := none
  assetType := some (textValue asset.assetType)
  active := asset.active

theorem assetCard_assetJson (asset : PortalAsset) :
    assetCard (assetJson asset) = some (shownAsset asset) := by
  have hactive : Preimage.truthy (some (.bool asset.active)) = asset.active :=
    Bool.not_not asset.active
  refine congrArg some ?_
  rw [AssetCard.mk.injEq]
  exact ⟨rfl, rfl, rfl, hactive⟩

theorem mapM_assetCard (assets : List PortalAsset) :
    (assets.map assetJson).mapM assetCard = some (assets.map shownAsset) := by
  induction assets with
  | nil => rfl
  | cons asset assets ih =>
      rw [List.map_cons, List.mapM_cons, assetCard_assetJson, ih]
      rfl

theorem assetCards_assetsJson (reply : PortalReply) :
    assetCards (readAssetList (some (okNoStore (assetsJson reply)))) =
      some (reply.assets.map shownAsset) :=
  mapM_assetCard reply.assets

/-! ## What the platform has done for an answer -/

section Run

variable {ts : List (revalidation σ srt rt).Transition} {s : ServerState σ}
  {c : (revalidation σ srt rt).State}

/-- An answer that grants something has been worked out by the platform since the page was asked
    for. -/
theorem answered (h : (revalidation σ srt rt).Run () s ts c) {i : Nat} {op : PageOp} {r : op.Res}
    (hmem : ⟨op, r⟩ ∈ ownLog i (Link.nears ts)) (hgrants : op.Grants r) :
    ∃ thread req a us, SinceAsked ts i us ∧ (∀ v ∈ us, v.Valid) ∧ Brings op r req a ∧
      Returns (req.handler srt) (ownLog thread us) a := by
  obtain ⟨u, hu, hmove⟩ := mem_ownLog.1 hmem
  obtain ⟨pre, post, hnears⟩ := List.append_of_mem hu
  obtain ⟨front, t, back, rfl, hpart, -, -⟩ := Link.exists_of_nears hnears
  obtain ⟨hbefore, hvalid, -⟩ := h.split_at
  obtain ⟨thread, req, a, -, hanswers, hbrings, hsince⟩ :=
    Link.Transition.Valid.taken hvalid hpart hmove hgrants
  have hreturns := Run.returns (Link.Path.far hbefore) hanswers
  obtain ⟨front, o, mid, w, asked, rfl, hopart, harrive, hthread, hlog⟩ :=
    Link.Run.answered_since h hpart hmove hsince
  rw [hlog] at hreturns
  refine ⟨thread, req, a, Link.fars mid,
    ⟨front, o, mid, t :: back, w, asked, by simp, hopart, harrive, hthread, rfl⟩, ?_, hbrings,
    hreturns⟩
  intro v hv
  refine (Link.Path.far h).valid v ?_
  rw [Link.fars_append, Link.fars_append]
  refine List.mem_append_left _ (List.mem_append_right _ ?_)
  have hcons : o :: mid = [o] ++ mid := rfl
  rw [hcons, Link.fars_append]
  exact List.mem_append_right _ hv

/-- Each operation of a log has been performed at some moment. -/
theorem performed_of_mem {us : List (server σ srt).Transition} (hvalid : ∀ v ∈ us, v.Valid)
    {thread : Nat} {op : ServerOp} {r : op.Res} (h : ⟨op, r⟩ ∈ ownLog thread us) :
    ∃ v ∈ us, v.before.shared.exec srt op r v.after.shared := by
  obtain ⟨v, hv, hmove⟩ := mem_ownLog.1 h
  obtain ⟨-, -, -, -, hexec, -⟩ := Transition.Valid.perform (hvalid v hv) hmove
  exact ⟨v, hv, hexec⟩

/-- A partner that the platform has let in was authenticated meanwhile. -/
theorem authenticated_of_returns {us : List (server σ srt).Transition}
    (hvalid : ∀ v ∈ us, v.Valid) {thread : Nat} {headers : PartnerHeaders} {auth : PartnerAuth}
    {front : List ((op : ServerOp) × op.Res)} (hfront : front ⊆ ownLog thread us)
    (h : Returns (authenticatePartner srt headers).run front (.ok auth)) :
    Authenticated us headers := by
  intro hproduction
  obtain ⟨credentials, row, hread, hselect, hstatus, hsecret⟩ :=
    credentials_of_authenticated hproduction h
  obtain ⟨v, hv, hexec⟩ := performed_of_mem hvalid (hfront hselect)
  exact ⟨credentials, row, hread, ⟨v, hv, Except.ok.inj (Prod.mk.inj (Attempt.of_ok hexec)).1⟩,
    hstatus, hsecret⟩

/-- The parameters of the request as the platform reads them. -/
theorem parse_partnerRequest {config : OwnexConfig} {path wallet slug : String}
    {query : PartnerQuery}
    (h : (partnerRequest rt config path wallet (some slug)).params.parse = some query) :
    query.wallet = wallet.toList ∧ positiveInt config.orgId.chars = some query.orgId ∧
      query.app = some slug ∧ slug ≠ "" := by
  unfold PartnerParams.parse at h
  split at h
  · cases h
  next wallet' orgId hparse =>
      unfold parseWalletAndOrg at hparse
      split at hparse
      next hwallet horg =>
          cases hparse
          have happ : (partnerRequest rt config path wallet (some slug)).params.app =
              some slug.toList := rfl
          rw [happ] at h
          simp only [String.ofList_toList] at h
          split at h
          next hslug =>
              cases h
              obtain ⟨heq, -⟩ := Option.filter_eq_some_iff.1 hwallet
              exact ⟨(Option.some.inj heq).symm, horg, rfl, Slug.ne_empty ⟨slug, hslug⟩⟩
          · cases h
      · cases hparse

/-- A decision that allows a wallet for an application. -/
theorem letIn_of_evaluates {us : List (server σ srt).Transition} (hvalid : ∀ v ∈ us, v.Valid)
    {thread orgId : Nat} {wallet : Text} {slug : String} {decision : AccessDecision}
    {snapshot : EvaluatedSnapshot}
    (h : Evaluates srt (ownLog thread us) orgId wallet (some slug) decision snapshot)
    (hslug : slug ≠ "") (hallowed : decision.allowed = true) :
    ∃ account, srt.getAddress wallet = some account ∧ LetIn us orgId account slug ∧
      SnapshotRead orgId account (ownLog thread us) snapshot := by
  obtain ⟨account, access, haccount, hsubset, hevaluate⟩ := h
  refine ⟨account, haccount, ?_, (snapshotRead_of_evaluate hevaluate).mono hsubset⟩
  obtain ⟨v, hv, hexec⟩ := performed_of_mem hvalid
    (hsubset (canAccessApp_of_allowed hevaluate hslug hallowed))
  exact ⟨v, hv, Except.ok.inj (Prod.mk.inj (Attempt.of_ok hexec)).1⟩

/-- Whatever a page shows, the wallet has been let in since the page was asked for, and what the
    page is made from was read meanwhile. -/
theorem believes_of_shows (h : (revalidation σ srt rt).Run () s ts c) {i : Nat}
    {store : PortalSession} {page : String → VerifyResult → Prog PageOp PageOp.Res Page} {a : Page}
    (hreturns : Returns (protectedPage rt store page) (ownLog i (Link.nears ts)) a)
    (hshows : a.Shows) :
    ∃ config wallet orgId account us thread snapshot verifiedAt first rest,
      Admission ts i store config wallet orgId account us
        (buildPartnerClaims wallet.toList orgId snapshot verifiedAt) snapshot.membership ∧
      (∀ v ∈ us, v.Valid) ∧ SnapshotRead orgId account (ownLog thread us) snapshot ∧
      ownLog i (Link.nears ts) = first :: rest ∧
      Returns (page wallet (believed
        (buildPartnerClaims wallet.toList orgId snapshot verifiedAt) snapshot.membership)) rest a := by
  obtain ⟨config, wallet, reply, body, verified, rest, hconfig, hstore, hlog, hok, hbody, hmember,
    hread, hpage⟩ := asks_of_shows hreturns hshows
  have hmem : ⟨.verify (partnerRequest rt config "/api/roles/verify" wallet config.appSlug),
      some reply⟩ ∈ ownLog i (Link.nears ts) := by
    rw [hlog]
    exact List.mem_cons_self ..
  obtain ⟨thread, req, answer, us, hsince, hvalid, hbrings, hanswered⟩ :=
    answered h hmem ⟨hok, body, hbody, hmember⟩
  cases req with
  | verify headers params =>
      cases answer with
      | error e => exact hbrings.elim
      | ok answer =>
          have hbrings' := hbrings
          obtain ⟨rfl, rfl, rfl⟩ := hbrings
          cases hbody
          obtain ⟨claims, decision, detail, organizationActive, membership, app, authMode, rfl,
            hallowed⟩ := verified_of_json hmember
          rw [readVerification_verified hallowed] at hread
          cases hread
          obtain ⟨query, auth, snapshot, verifiedAt, hquery, ⟨front, hfront, hauth⟩, hregistry,
            hevaluates, rfl, rfl⟩ := verify_ok hanswered
          obtain ⟨hwallet, horg, happ, hslug⟩ := parse_partnerRequest hquery
          have hnamed : named (query.app.or (PartnerAuth.slug auth)) = some config.appSlug := by
            rw [happ]
            exact Option.filter_eq_some_iff.2 ⟨rfl, by simpa using hslug⟩
          obtain ⟨row, hrow, hstatus⟩ := hregistry config.appSlug hnamed
          obtain ⟨v, hv, hexec⟩ := performed_of_mem hvalid hrow
          have hregistered : InRegistry us query.orgId config.appSlug :=
            ⟨row, ⟨v, hv, Except.ok.inj (Prod.mk.inj (Attempt.of_ok hexec)).1⟩, hstatus⟩
          have hauthenticated := authenticated_of_returns hvalid hfront hauth
          rw [hnamed, hwallet] at hevaluates
          obtain ⟨account, haccount, hletIn, hsnapshot⟩ :=
            letIn_of_evaluates hvalid hevaluates hslug hallowed
          rw [hwallet] at hpage hbrings' hanswered hmem
          have hadmission : Admission ts i store config wallet query.orgId account us
              (buildPartnerClaims wallet.toList query.orgId snapshot verifiedAt)
              snapshot.membership :=
            ⟨hconfig, hstore, horg, haccount, ⟨decision, detail, organizationActive, app, authMode,
              hallowed, hsince, ⟨_, hmem, hbrings'⟩, thread, hanswered⟩, hauthenticated, hregistered,
              hletIn⟩
          exact ⟨config, wallet, query.orgId, account, us, thread, snapshot, verifiedAt, _, rest,
            hadmission, hvalid, hsnapshot, hlog, hpage⟩
  | _ => exact hbrings.elim

/-- The dashboard that is made from a snapshot. -/
theorem liveDashboard_of_read {us : List (server σ srt).Transition} (hvalid : ∀ v ∈ us, v.Valid)
    {thread orgId : Nat} {account : Address} {snapshot : EvaluatedSnapshot}
    (h : SnapshotRead orgId account (ownLog thread us) snapshot) (store : PortalSession)
    (wallet : String) (verifiedAt : TimeValue) :
    LiveDashboard rt us store wallet orgId account (dashboardView rt store wallet (believed
      (buildPartnerClaims wallet.toList orgId snapshot verifiedAt) snapshot.membership)) where
  wallet := rfl
  organization := rfl
  role := by
    obtain ⟨v, hv, hexec⟩ := performed_of_mem hvalid h.role
    exact ⟨snapshot.role, rfl, v, hv, Except.ok.inj (Prod.mk.inj (Attempt.of_ok hexec)).1⟩
  granted := by
    refine ⟨snapshot.permissions.getD [], granted_permissionsJson _, fun p hp => ?_⟩
    obtain ⟨hash, hhash, hread⟩ := h.permissions p hp
    obtain ⟨v, hv, hexec⟩ := performed_of_mem hvalid hread
    exact ⟨hash, hhash, v, hv, Except.ok.inj (Prod.mk.inj (Attempt.of_ok hexec)).1⟩
  membership := by
    obtain ⟨membership, hread, heq⟩ := h.membership
    obtain ⟨v, hv, hexec⟩ := performed_of_mem hvalid hread
    refine ⟨membership, ?_, ?_, v, hv, Except.ok.inj (Prod.mk.inj (Attempt.of_ok hexec)).1⟩
    · rw [heq]
      exact expired_membershipJson _
    · rw [heq]
      exact expiresAt_membershipJson _

/-- The assets that an answer shows. -/
theorem liveAssets_of_answered (h : (revalidation σ srt rt).Run () s ts c) {i : Nat}
    {config : OwnexConfig} {wallet : String} {orgId : Nat}
    (horg : positiveInt config.orgId.chars = some orgId) {reply : ExchangeReply}
    {cards : List AssetCard}
    (hmem : ⟨.assets (partnerRequest rt config "/api/portal/assets" wallet none), some reply⟩ ∈
      ownLog i (Link.nears ts)) (hok : reply.ok = true)
    (hcards : assetCards (readAssetList (some reply)) = some cards) (hshown : cards ≠ []) :
    let request := partnerRequest rt config "/api/portal/assets" wallet none
    ∃ us answer, AnsweredSince ts i us (.assets request) (.assets request.headers request.params)
        (.ok answer) ∧
      Authenticated us request.headers ∧ cards = answer.assets.map shownAsset ∧
      ∀ card ∈ cards, LiveAsset us orgId wallet card := by
  intro request
  obtain ⟨thread, req, answer, us, hsince, hvalid, hbrings, hanswered⟩ := answered h hmem hok
  cases req with
  | assets headers params =>
      cases answer with
      | error e => exact hbrings.elim
      | ok answer =>
          have harrived := hbrings
          obtain ⟨rfl, rfl, rfl⟩ := hbrings
          rw [assetCards_assetsJson] at hcards
          cases hcards
          have hassets : answer.assets ≠ [] := fun hnil => hshown (by rw [hnil]; rfl)
          obtain ⟨wallet', orgId', auth, decision, snapshot, ids, hquery, ⟨front, hfront, hauth⟩, -, -,
            hids, hassets⟩ := assets_ok hanswered hassets
          obtain ⟨rfl, rfl⟩ : wallet' = wallet.toList ∧ orgId' = orgId := by
            unfold parseWalletAndOrg at hquery
            split at hquery
            next hwallet horg' =>
                cases hquery
                obtain ⟨heq, -⟩ := Option.filter_eq_some_iff.1 hwallet
                exact ⟨(Option.some.inj heq).symm, Option.some.inj (horg'.symm.trans horg)⟩
            · cases hquery
          refine ⟨us, answer, ⟨hsince, ⟨_, hmem, harrived⟩, thread, hanswered⟩,
            authenticated_of_returns hvalid hfront hauth, rfl, fun card hcard => ?_⟩
          obtain ⟨asset, hasset, rfl⟩ := List.mem_map.1 hcard
          obtain ⟨tokenId, hid, record, hread, hportal⟩ := hassets asset hasset
          unfold portalAsset at hportal
          split at hportal
          next hassigned =>
              cases hportal
              obtain ⟨v, hv, hexec⟩ := performed_of_mem hvalid hids
              obtain ⟨w, hw, hexec'⟩ := performed_of_mem hvalid hread
              refine ⟨tokenId, record, rfl, hassigned, ⟨v, hv, ?_⟩, w, hw, ?_⟩
              · obtain rfl := Except.ok.inj (Prod.mk.inj (Attempt.of_ok hexec)).1
                exact hid
              · exact (Prod.mk.inj (Attempt.of_ok hexec')).1
          · cases hportal
  | _ => exact hbrings.elim

/-- A page shows something only to a wallet that has been let in since the page was asked for. The
    dashboard is made from that very answer, and the assets from another that is as young; what they
    say was read from the chain meanwhile. -/
theorem page_live (h : (revalidation σ srt rt).Run () s ts c) {i : Nat} {store : PortalSession} :
    (∀ view, c.near.Answers i (.dashboard store) (.dashboard view) →
      Admitted ts i store fun _ wallet orgId account us claims membership =>
        view = dashboardView rt store wallet (believed claims membership) ∧
          LiveDashboard rt us store wallet orgId account view) ∧
    (∀ cards, c.near.Answers i (.assets store) (.assets cards) →
      Admitted ts i store fun config wallet orgId _ _ _ _ =>
        let request := partnerRequest rt config "/api/portal/assets" wallet none
        cards ≠ [] → ∃ us answer,
          AnsweredSince ts i us (.assets request) (.assets request.headers request.params)
            (.ok answer) ∧
          Authenticated us request.headers ∧ cards = answer.assets.map shownAsset ∧
          ∀ card ∈ cards, LiveAsset us orgId wallet card) := by
  constructor
  · intro view hanswers
    have hreturns := Run.returns (Link.Path.near h) hanswers
    obtain ⟨config, wallet, orgId, account, us, thread, snapshot, verifiedAt, first, rest, hadmission,
      hvalid, hsnapshot, -, hpage⟩ := believes_of_shows h hreturns trivial
    obtain ⟨-, hview⟩ := returns_pure.1 hpage
    cases hview
    exact ⟨config, wallet, orgId, account, us, _, _, hadmission, rfl,
      liveDashboard_of_read hvalid hsnapshot store wallet verifiedAt⟩
  · intro cards hanswers
    have hreturns := Run.returns (Link.Path.near h) hanswers
    obtain ⟨config, wallet, orgId, account, us, thread, snapshot, verifiedAt, first, rest, hadmission,
      -, -, hlog, hpage⟩ := believes_of_shows h hreturns trivial
    refine ⟨config, wallet, orgId, account, us, _, _, hadmission, fun hshown => ?_⟩
    obtain ⟨reply, rfl, hok, hcards⟩ := asks_assets hadmission.configured hpage hshown
    refine liveAssets_of_answered h hadmission.organization ?_ hok hcards hshown
    rw [hlog]
    exact List.mem_cons_of_mem _ (List.mem_singleton_self _)

end Run

/-! ## Alice's dashboard -/

/-- The dashboard asks once for a wallet. -/
theorem dashboardPage_asks {config : OwnexConfig} {store : PortalSession} {wallet : String}
    (hconfig : rt.config = .ok config) (hbase : rt.isBase (config.origin ++ "/") = true)
    (hwallet : store.wallet = some wallet) (hne : wallet ≠ "") :
    dashboardPage rt store = .await
      (.verify (partnerRequest rt config "/api/roles/verify" wallet config.appSlug))
      fun response => ifAllowed (showDashboard rt store wallet) (verification response) := by
  have hfilter : store.wallet.filter (· ≠ "") = some wallet :=
    Option.filter_eq_some_iff.2 ⟨hwallet, by simpa using hne⟩
  unfold dashboardPage protectedPage verifyAccess
  rw [hfilter, hconfig]
  simp only [hbase, if_true]
  rfl

namespace Sample

/-- Alice's portal, which speaks ASCII. -/
def pageRuntime : PageRuntime where
  config := .ok registeredConfig
  isBase := fun _ => true
  toUtf8 := fun text => text.map fun c => UInt8.ofNat c.toNat
  toLowerCase := fun s => .ofString s.toWellFormed.toLower

def aliceWallet : String := "0x0000000000000000000000000000000000000002"

/-- Alice has signed in. -/
def aliceStore : PortalSession :=
  { PortalSession.empty with
    wallet := some aliceWallet
    orgId := some (.ofNat 1) }

def aliceRequest : PartnerRequest :=
  partnerRequest pageRuntime registeredConfig "/api/roles/verify" aliceWallet (some "portal")

/-- What the platform answers about her. -/
def aliceVerified : VerifyReply :=
  .verified aliceClaims ⟨true, none⟩ none true ⟨none, none, false⟩ (some ⟨"portal", 7, true, true⟩)
    "credentials"

def aliceView : DashboardView :=
  dashboardView pageRuntime aliceStore aliceWallet (believed aliceClaims ⟨none, none, false⟩)

/-- The platform is asked about Alice. -/
def verifyCues : List OwneX.Sample.partnerPlayer.Cue :=
  .arrive (.verify aliceRequest.headers aliceRequest.params) :: OwneX.Sample.partnerSteps 17 0

abbrev alicePages : Link (pages pageRuntime) (server Ledger OwneX.Sample.partnerRuntime) :=
  revalidation Ledger OwneX.Sample.partnerRuntime pageRuntime

/-- Alice asks for the dashboard, the platform is asked about her, and she is shown her role. -/
theorem alice_live :
    ∃ (ts : List alicePages.Transition) (c : alicePages.State),
      alicePages.Run () OwneX.Sample.portalRegistered ts c ∧
      c.near.Answers 0 (.dashboard aliceStore) (.dashboard aliceView) ∧
      aliceView.role = .ofString "ADMIN" ∧
      Admitted ts 0 aliceStore fun _ wallet orgId account us claims membership =>
        aliceView = dashboardView pageRuntime aliceStore wallet (believed claims membership) ∧
          LiveDashboard pageRuntime us aliceStore wallet orgId account aliceView := by
  -- The platform answers the request that the page sends.
  have hfar : ((OwneX.Sample.partnerPlayer.play (idle OwneX.Sample.portalRegistered)
      verifyCues).bind fun far => OwneX.Sample.answered far.2) =
      some (aliceRequest.headers, aliceRequest.params, aliceVerified) := by decide +kernel
  obtain ⟨⟨vs, d⟩, hplay, hanswered⟩ := Option.bind_eq_some_iff.1 hfar
  have hanswers := OwneX.Sample.answers_of_answered hanswered
  -- The page asks, and is answered.
  let reply : ExchangeReply := okNoStore (verifyJson aliceVerified)
  let asked : (pages pageRuntime).Thread :=
    ⟨.dashboard aliceStore, dashboardPage pageRuntime aliceStore⟩
  let told : (pages pageRuntime).Thread :=
    ⟨.dashboard aliceStore,
      ifAllowed (showDashboard pageRuntime aliceStore aliceWallet) (verification (some reply))⟩
  let arrival : (pages pageRuntime).Transition :=
    ⟨idle (), .arrive (.dashboard aliceStore), ⟨(), [asked]⟩⟩
  let response : (pages pageRuntime).Transition :=
    ⟨⟨(), [asked]⟩, .perform 0 (.verify aliceRequest) (some reply), ⟨(), [told]⟩⟩
  have harrival : arrival.Valid := ⟨trivial, rfl⟩
  have hfollows : Follows asked.rest [] (.await (.verify aliceRequest) fun response =>
      ifAllowed (showDashboard pageRuntime aliceStore aliceWallet) (verification response)) := by
    have hasks := @dashboardPage_asks pageRuntime registeredConfig aliceStore aliceWallet rfl rfl
      rfl (by decide)
    change Follows (dashboardPage pageRuntime aliceStore) [] _
    rw [hasks]
    exact .refl _
  have hresponse : response.Valid := ⟨asked, _, rfl, hfollows, trivial, rfl⟩
  have hview : told.rest = pure (.dashboard aliceView) := by
    have hread : verification (some reply) = some (believed aliceClaims ⟨none, none, false⟩) := by
      change readVerification (verifyJson aliceVerified) = _
      unfold aliceVerified
      exact readVerification_verified rfl
    have hrest : told.rest = ifAllowed (showDashboard pageRuntime aliceStore aliceWallet)
        (verification (some reply)) := rfl
    rw [hrest, hread]
    rfl
  -- Side by side.
  have htakes : alicePages.Takes d response 0 0 :=
    ⟨_, _, _, _, rfl, ⟨rfl, _, rfl, rfl⟩, hanswers, rfl, rfl, rfl⟩
  have hown : ∀ u ∈ [arrival], ∀ i op r, u.move = .perform i op r → ¬ alicePages.foreign op r := by
    intro u hu i op r hmove
    rw [List.mem_singleton.1 hu] at hmove
    cases hmove
  have harrived : (pages pageRuntime).system.Path ((pages pageRuntime).system.source arrival)
      [arrival] ((pages pageRuntime).system.target arrival) :=
    .single harrival
  obtain ⟨ts₁, opened, hpath₁, -, -, hopened⟩ :=
    @Link.exists_path_of_near _ _ alicePages (idle ()) _ (idle OwneX.Sample.portalRegistered) []
      (fun _ => 0) _ harrived hown
  obtain ⟨ts₂, hpath₂, -⟩ := Link.exists_path_of_far (Player.play_path hplay)
  have hsince : opened 0 ≤ 0 := by
    rcases hopened 0 with hnone | hnone
    · rw [hnone]
    · rw [hnone]
      exact Nat.zero_le 0
  obtain ⟨t, opened', -, hpath₃⟩ :=
    Link.path_of_take hresponse htakes List.not_mem_nil hsince
  have hrun := (hpath₁.append hpath₂).append hpath₃
  have hshown : response.after.Answers 0 (.dashboard aliceStore) (.dashboard aliceView) :=
    ⟨told.rest, rfl, hview ▸ returns_pure.2 ⟨rfl, rfl⟩⟩
  exact ⟨_, _, hrun, hshown, rfl, (page_live hrun).1 aliceView hshown⟩

end Sample

end EmployeePortal

end OwneX
