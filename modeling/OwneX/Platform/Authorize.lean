import OwneX.Platform.Applications

set_option autoImplicit false

/-! # Sign in with OwneX

The consent page `app/authorize`, its submission `app/api/authorize/approve`, and the back-channel
`app/api/authorize/exchange`, with the rules of `lib/authorize.ts` for codes and of
`lib/access-decision.ts` for claims. -/

namespace OwneX

open Js JsNumber Prog

/-! ## Names and explanations -/

def CallbackRejection.label : CallbackRejection → String
  | UNKNOWN_APP => "UNKNOWN_APP"
  | APPLICATION_REVOKED => "APPLICATION_REVOKED"
  | MISSING_URI => "MISSING_URI"
  | MALFORMED_URI => "MALFORMED_URI"
  | UNSUPPORTED_SCHEME => "UNSUPPORTED_SCHEME"
  | INSECURE_SCHEME => "INSECURE_SCHEME"
  | LOCALHOST_NOT_ALLOWED => "LOCALHOST_NOT_ALLOWED"
  | NO_CALLBACK_REGISTERED => "NO_CALLBACK_REGISTERED"
  | CALLBACK_NOT_REGISTERED => "CALLBACK_NOT_REGISTERED"
  | CALLBACK_HAS_PARAMETERS => "CALLBACK_HAS_PARAMETERS"
  | CALLBACK_TOO_LONG => "CALLBACK_TOO_LONG"

def ResolveRejection.label : ResolveRejection → String
  | UNKNOWN_CLIENT => "UNKNOWN_CLIENT"
  | ORG_MISMATCH => "ORG_MISMATCH"
  | SECRET_NOT_GENERATED => "SECRET_NOT_GENERATED"
  | callback reason => reason.label

def AccessDenyReason.label : AccessDenyReason → String
  | organizationNotFound => "ORGANIZATION_NOT_FOUND"
  | organizationSuspended => "ORGANIZATION_SUSPENDED"
  | identityNotRegistered => "IDENTITY_NOT_REGISTERED"
  | identityRevoked => "IDENTITY_REVOKED"
  | notAMember => "NOT_A_MEMBER"
  | roleExpired => "ROLE_EXPIRED"
  | appAccessNotGranted => "APP_ACCESS_NOT_GRANTED"
  | applicationNotRegistered => "APPLICATION_NOT_REGISTERED"

def explainDenial : AccessDenyReason → String
  | .organizationNotFound => "That organization does not exist on-chain."
  | .organizationSuspended => "This organization is currently suspended."
  | .identityNotRegistered => "This wallet has no registered owneX identity."
  | .identityRevoked => "This identity has been revoked."
  | .notAMember => "This wallet is not a member of the organization."
  | .roleExpired => "The membership behind this role has expired."
  | .appAccessNotGranted =>
      "This role has not been granted access to the application on-chain."
  | .applicationNotRegistered =>
      "The application is not registered on-chain for this organization."

/-! ## The request -/

/-- `z.string().min(low).max(high)` -/
def lengthBetween (low high : Nat) (s : Text) : Bool :=
  decide (low ≤ utf16Length s) && decide (utf16Length s ≤ high)

/-- `z.coerce.number().int().positive()` -/
def positiveInt (s : Text) : Option Nat :=
  ((number s).bind Literal.toNat?).filter (0 < ·)

/-- The parameters of a request that both schemas accept. -/
structure AuthorizeQuery where
  clientId : Text
  orgId : Nat
  redirectUri : Text
  state : Text
deriving DecidableEq

inductive AuthorizeField where
  | clientId
  | orgId
  | redirectUri
  | state
deriving DecidableEq

def AuthorizeField.label : AuthorizeField → String
  | clientId => "CLIENT_ID"
  | orgId => "ORG_ID"
  | redirectUri => "REDIRECT_URI"
  | state => "STATE"

/-- `safeParse`; the error is the field of the first issue. -/
def parseAuthorizeQuery (clientId orgId redirectUri state : Option Text) :
    Except AuthorizeField AuthorizeQuery :=
  match clientId.filter (lengthBetween 8 128) with
  | none => .error .clientId
  | some clientId =>
      match orgId.bind positiveInt with
      | none => .error .orgId
      | some orgId =>
          match redirectUri.filter (lengthBetween 8 2048) with
          | none => .error .redirectUri
          | some redirectUri =>
              match state.filter (lengthBetween 8 512) with
              | none => .error .state
              | some state => .ok { clientId, orgId, redirectUri, state }

/-! ## Authorization codes -/

def AUTHORIZATION_CODE_TTL_MS : Nat := 120000

structure GrantInput where
  clientId : Text
  appSlug : String
  orgId : SafeInt
  wallet : Address
  redirectUri : Text

/-- From 32 random bytes. -/
def generateAuthorizationCode (bytes : List UInt8) : Text :=
  toBase64url bytes

def issueAuthorizationCode (grant : GrantInput) : Await Text := do
  let issuedAt : TimeValue ← ask ServerOp.now
  let bytes : List UInt8 ← ask (ServerOp.randomBytes 32)
  let code := generateAuthorizationCode bytes
  let expiresAt ← require (later issuedAt AUTHORIZATION_CODE_TTL_MS) "Invalid time value"
  attempt
    (call (ServerOp.insertCode
      { code, clientId := grant.clientId, appSlug := grant.appSlug, orgId := grant.orgId,
        walletAddress := grant.wallet, redirectUri := grant.redirectUri, expiresAt,
        usedAt := none }))
    fun error => "Could not issue an authorization code: " ++ error
  return code

/-- Anything shorter than 32 characters cannot be a code this system issued. -/
def consumeAuthorizationCode (code clientId redirectUri : Text) : Await (Option ConsumedGrant) :=
  if utf16Length code < 32 then return none
  else do
    let now : TimeValue ← ask ServerOp.now
    attempt (call (ServerOp.consumeCode { code, clientId, redirectUri, now })) fun error =>
      "Could not consume the authorization code: " ++ error

/-! ## The consent page -/

/-- The values given for each parameter. -/
structure AuthorizeParams where
  clientId : List Text
  orgId : List Text
  redirectUri : List Text
  state : List Text

/-- What the page shows. -/
inductive AuthorizeView where
  | rejection (code detail : String) (backTo : Option Url)
  /-- The link leads back to the page, by way of the platform's own sign-in. -/
  | signIn (application : RegisteredApplication) (returnTo : AuthorizeQuery)
  | denial (application : RegisteredApplication) (wallet : Address) (role : RoleName)
      (reason : AccessDenyReason) (detail : String) (denyHref : Url)
  | consent (application : RegisteredApplication) (wallet : Address) (role : RoleName)
      (granted : List PermissionKey) (form : AuthorizeQuery) (cancelHref : Url)
  /-- An exception that the page does not catch. -/
  | thrown

/-- The links that lead back to the partner. -/
def AuthorizeView.partnerLinks : AuthorizeView → List Url
  | rejection _ _ backTo => backTo.toList
  | signIn .. => []
  | denial _ _ _ _ _ denyHref => [denyHref]
  | consent _ _ _ _ _ cancelHref => [cancelHref]
  | thrown => []

def describeShapeProblem : AuthorizeField → String
  | .clientId =>
      "The request did not include a client_id. " ++
        "A partner application must send the client id owneX issued to it."
  | .orgId => "The request did not include a valid org_id."
  | .redirectUri => "The request did not include a redirect_uri."
  | .state =>
      "The request did not include a state value of at least 8 characters. " ++
        "state is what protects the partner's callback from cross-site request forgery, " ++
        "so owneX refuses requests without one."

def accessDenied : Text := "access_denied".toList

def temporarilyUnavailable : Text := "temporarily_unavailable".toList

section Page

variable (rt : ServerRuntime) (session : SessionData) (query : AuthorizeQuery)
  (application : RegisteredApplication)

/-- What is shown to a wallet, with the link to go back. -/
def showAccess (denyUrl : Url) (wallet : Address) : EvaluatedAccess → AuthorizeView
  | .chainUnavailable _ =>
      .rejection "CHAIN_UNAVAILABLE"
        ("owneX could not read your identity and role from the blockchain, so it cannot confirm " ++
          "your access. No authorization was issued. Try again shortly.")
        (some denyUrl)
  | .ok decision snapshot =>
      match decision.allowed, decision.reason with
      | false, some reason =>
          .denial application wallet snapshot.role reason (explainDenial reason) denyUrl
      | _, _ =>
          .consent application wallet snapshot.role
            (((snapshot.permissions.getD []).filter (·.2)).map (·.1)) query denyUrl

/-- Once the callback is proven to be one this application registered. -/
def showResolved (registered : Text) : Prog ServerOp ServerOp.Res AuthorizeView :=
  match buildCallbackRedirect rt.parse registered
      { code := none, error := some accessDenied, state := query.state } with
  | none => return .thrown
  | some denyUrl => do
      let wallet ← sessionWallet session
      match wallet with
      | none => return .signIn application query
      | some wallet => do
          let access ← evaluateLiveAccess rt.keccakId serverReads query.orgId wallet
            (some application.slug)
          return showAccess query application denyUrl wallet access

/-- `GET /authorize` -/
def authorizePage (params : AuthorizeParams) : Prog ServerOp ServerOp.Res AuthorizeView :=
  match parseAuthorizeQuery params.clientId.head? params.orgId.head? params.redirectUri.head?
      params.state.head? with
  | .error field =>
      return .rejection ("INVALID_" ++ field.label) (describeShapeProblem field) none
  | .ok query => do
      let resolved ←
        (resolveAuthorizationRequest rt query.clientId query.orgId query.redirectUri false).run
      match resolved with
      | .error _ =>
          return .rejection "REGISTRY_UNAVAILABLE"
            ("owneX could not reach its application registry, so this request cannot be " ++
              "authorized right now. Nothing was approved.") none
      | .ok (.error reason) =>
          return .rejection reason.label (explainResolveRejection reason) none
      | .ok (.ok (application, registered)) =>
          showResolved rt session query application registered

end Page

/-! ## The consent submission -/

/-- `form.get(..)` -/
inductive FormValue where
  | text (s : Text)
  | file

/-- A file is neither a string nor a number. -/
def FormValue.text? : FormValue → Option Text
  | text s => some s
  | file => none

structure ApproveForm where
  clientId : Option FormValue
  orgId : Option FormValue
  redirectUri : Option FormValue
  state : Option FormValue

def ApproveForm.parse (form : ApproveForm) : Except AuthorizeField AuthorizeQuery :=
  parseAuthorizeQuery (form.clientId.bind FormValue.text?) (form.orgId.bind FormValue.text?)
    (form.redirectUri.bind FormValue.text?) (form.state.bind FormValue.text?)

inductive ApproveResponse where
  | text (status : Nat) (body : String)
  /-- With status 303. -/
  | redirect (target : Url)
  /-- An exception that the route does not catch. -/
  | thrown

section Approve

variable (rt : ServerRuntime) (session : SessionData) (query : AuthorizeQuery)
  (application : RegisteredApplication) (registered : Text)

def redirectTo (code error : Option Text) : ApproveResponse :=
  match buildCallbackRedirect rt.parse registered { code, error, state := query.state } with
  | none => .thrown
  | some target => .redirect target

/-- What is bound to the code: the registered callback, not the submitted one. -/
def grantInput (wallet : Address) : GrantInput where
  clientId := query.clientId
  appSlug := application.slug
  orgId := application.orgId
  wallet
  redirectUri := registered

/-- Once the callback is proven to be one this application registered. -/
def approveResolved : Prog ServerOp ServerOp.Res ApproveResponse := do
  let wallet ← sessionWallet session
  match wallet with
  | none => return redirectTo rt query registered none (some accessDenied)
  | some wallet => do
      let access ← evaluateLiveAccess rt.keccakId serverReads query.orgId wallet
        (some application.slug)
      match access with
      | .chainUnavailable _ =>
          return redirectTo rt query registered none (some temporarilyUnavailable)
      | .ok decision _ =>
          if !decision.allowed then
            return redirectTo rt query registered none (some accessDenied)
          else do
            let issued ←
              (issueAuthorizationCode (grantInput query application registered wallet)).run
            match issued with
            | .ok code => return redirectTo rt query registered (some code) none
            | .error _ => return redirectTo rt query registered none (some temporarilyUnavailable)

/-- `POST /api/authorize/approve`; `none` is a body that is no form. -/
def approve (form : Option ApproveForm) : Prog ServerOp ServerOp.Res ApproveResponse :=
  match form with
  | none => return .text 400 "Malformed consent submission"
  | some form =>
      match form.parse with
      | .error _ => return .text 400 "Invalid authorization request"
      | .ok query => do
          let resolved ←
            (resolveAuthorizationRequest rt query.clientId query.orgId query.redirectUri false).run
          match resolved with
          | .error _ => return .text 503 "The application registry is unavailable"
          | .ok (.error reason) => return .text 400 ("Authorization refused: " ++ reason.label)
          | .ok (.ok (application, registered)) =>
              approveResolved rt session query application registered

end Approve

/-! ## The code exchange -/

structure ExchangeBody where
  clientId : Text
  clientSecret : Text
  code : Text
  redirectUri : Text
deriving DecidableEq

/-- What `exchangeSchema` asks for. -/
def ExchangeBody.wellFormed (body : ExchangeBody) : Bool :=
  lengthBetween 8 128 body.clientId && lengthBetween 16 512 body.clientSecret &&
    lengthBetween 32 512 body.code && lengthBetween 8 2048 body.redirectUri

/-- Exactly what a partner application receives. -/
structure PartnerClaims where
  wallet : Text
  orgId : Nat
  role : RoleName
  permissions : List (PermissionKey × Bool)
  identityActive : Bool
  verifiedAt : Text
deriving DecidableEq

/-- The address as the database holds it, in lower case. -/
def addressText (a : Address) : Text :=
  "0x".toList ++ toHex 40 a.toNat

def buildPartnerClaims (wallet : Text) (orgId : Nat) (snapshot : EvaluatedSnapshot)
    (verifiedAt : TimeValue) : PartnerClaims where
  wallet := lowerAscii wallet
  orgId
  role := snapshot.role
  permissions := snapshot.permissions.getD []
  identityActive := snapshot.identityActive
  verifiedAt := toISOString verifiedAt

/-- A body that its schema refuses. -/
def validationFailed : ApiError := ⟨400, "Invalid request", some "VALIDATION_FAILED"⟩

/-- The uniform answer. -/
def invalidClient : ApiError :=
  ⟨401, "Invalid client credentials or redirect URI", some "INVALID_CLIENT"⟩

/-- The decision and the snapshot, unless the chain could not be read. -/
def EvaluatedAccess.read? : EvaluatedAccess → Option (AccessDecision × EvaluatedSnapshot)
  | ok decision snapshot => some (decision, snapshot)
  | chainUnavailable _ => none

section Exchange

variable (rt : ServerRuntime)

/-- The application, if it is not revoked and the secret is its secret. -/
def authenticated (found : Option RegisteredApplication) (clientSecret : Text) :
    Option RegisteredApplication :=
  match found with
  | none => none
  | some application =>
      if application.status = .revoked then none
      else if verifyClientSecret rt.crypto clientSecret application.clientSecretHash then
        some application
      else none

variable {rt} in
theorem authenticated_eq_some {found : Option RegisteredApplication} {clientSecret : Text}
    {application : RegisteredApplication} :
    authenticated rt found clientSecret = some application ↔
      found = some application ∧ application.status ≠ .revoked ∧
        verifyClientSecret rt.crypto clientSecret application.clientSecretHash = true := by
  unfold authenticated
  cases found with
  | none => simp
  | some found => aesop

/-- The registered callback that `checkCallback` accepts. -/
def acceptedCallback (application : RegisteredApplication) (uri : Text) : Option Text :=
  match checkCallback rt.parse (some application.subject) (some uri) rt.callbackMode with
  | .error _ => none
  | .ok (_, registered) => some registered

/-- `POST /api/authorize/exchange` -/
def exchange (body : ExchangeBody) : Route PartnerClaims := do
  refuseIf (!body.wellFormed) validationFailed
  let found ← attempt (findApplicationByClientId rt body.clientId).run fun _ =>
    ⟨503, "Authorization is temporarily unavailable", some "REGISTRY_UNAVAILABLE"⟩
  let application ← require (authenticated rt found body.clientSecret) invalidClient
  let registered ← require (acceptedCallback rt application body.redirectUri) invalidClient
  let consumed ← attempt (consumeAuthorizationCode body.code body.clientId registered).run fun _ =>
    ⟨503, "Authorization is temporarily unavailable", some "STORE_UNAVAILABLE"⟩
  let grant ← require consumed
    ⟨400, "Authorization code is invalid, expired, or already used", some "CODE_REJECTED"⟩
  refuseIf (grant.orgId != application.orgId || grant.appSlug != application.slug) invalidClient
  -- The claims are read now, not carried in the code.
  let access ← ExceptT.lift
    (evaluateLiveAccess rt.keccakId serverReads grant.orgId.1 grant.wallet (some grant.appSlug))
  let read ← require access.read?
    ⟨503, "Could not verify access on-chain", some "CHAIN_UNAVAILABLE"⟩
  refuseIf (!read.1.allowed)
    ⟨403, "Access is no longer permitted for this wallet",
      some ((read.1.reason.map (·.label)).getD "ACCESS_DENIED")⟩
  let verifiedAt : TimeValue ← ask ServerOp.now
  return buildPartnerClaims (addressText grant.wallet) grant.orgId.1 read.2 verifiedAt

end Exchange

end OwneX
