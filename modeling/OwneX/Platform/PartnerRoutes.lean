import OwneX.Platform.Authorize

set_option autoImplicit false

/-! # The endpoints a partner calls

`app/api/roles/verify` and `app/api/portal/assets`, with `lib/partner-auth.ts`. A partner presents the
credentials of one application, and may ask about this application and its organization only. -/

namespace OwneX

open Js JsNumber Prog

inductive PartnerAuth where
  | credentials (application : RegisteredApplication)
  | developmentPublic

def PartnerAuth.mode : PartnerAuth → String
  | credentials _ => "credentials"
  | developmentPublic => "development-public"

def PartnerAuth.slug : PartnerAuth → Option String
  | credentials application => some application.slug
  | developmentPublic => none

/-- Neither `null` nor empty. -/
def named (slug : Option String) : Option String :=
  slug.filter (· ≠ "")

/-- `/^0x[a-fA-F0-9]{40}$/` -/
def isWallet (s : Text) : Bool :=
  s.length == 42 && s.take 2 == "0x".toList && (s.drop 2).all (isDigit 16)

/-- The first value of each parameter in the query string. -/
structure PartnerParams where
  wallet : Option Text
  orgId : Option Text
  app : Option Text
deriving DecidableEq

structure PartnerQuery where
  wallet : Text
  orgId : Nat
  app : Option String

def parseWalletAndOrg (params : PartnerParams) : Option (Text × Nat) :=
  match params.wallet.filter isWallet, params.orgId.bind positiveInt with
  | some wallet, some orgId => some (wallet, orgId)
  | _, _ => none

def PartnerParams.parse (params : PartnerParams) : Option PartnerQuery :=
  match parseWalletAndOrg params with
  | none => none
  | some (wallet, orgId) =>
      match params.app with
      | none => some { wallet, orgId, app := none }
      | some app =>
          if isSlug (String.ofList app) then some { wallet, orgId, app := some (String.ofList app) }
          else none

inductive VerifyReply where
  /-- With `allowed: false` and `role: "NONE"`. -/
  | refused (wallet : Text) (orgId : Nat) (reason detail : String) (verifiedAt : Text)
  | verified (claims : PartnerClaims) (decision : AccessDecision) (detail : Option String)
      (organizationActive : Bool) (membership : MembershipTimes) (appAccess : Option AppAccess)
      (authMode : String)
deriving DecidableEq

structure PortalAsset where
  tokenId : Nat
  active : Bool
  assetType : String
deriving DecidableEq

structure PortalReply where
  assets : List PortalAsset
  allowed : Bool
  reason : Option AccessDenyReason
deriving DecidableEq

/-- Every read that takes a wallet throws. -/
def ChainReads.refusing {m : Type → Type} [Monad m] (reads : ChainReads (ExceptT String m))
    (error : String) : ChainReads (ExceptT String m) where
  readOrganization := reads.readOrganization
  readIdentity _ := throw error
  readEffectiveRole _ _ := throw error
  readMembership _ _ := throw error
  readHasPermission _ _ _ := throw error
  readApplicationRegistered := reads.readApplicationRegistered
  readCanAccessApp _ _ _ := throw error

def orgMismatch : ApiError :=
  ⟨403, "Your client credentials are registered to a different organization", some "ORG_MISMATCH"⟩

def appMismatch : ApiError :=
  ⟨403, "Your client credentials may only verify access to their own application",
    some "APP_MISMATCH"⟩

section Routes

variable (rt : ServerRuntime)

/-- A wallet that is not spelled as ethers accepts it is refused by every read. -/
def evaluateWalletAccess (orgId : Nat) (wallet : Text) (appSlug : Option String) :
    Prog ServerOp ServerOp.Res EvaluatedAccess :=
  match rt.getAddress wallet with
  | some address => evaluateLiveAccess rt.keccakId serverReads orgId address appSlug
  | none =>
      evaluateLiveAccess rt.keccakId (serverReads.refusing "bad address checksum") orgId 0#160
        appSlug

def authenticatePartner (headers : PartnerHeaders) : Route PartnerAuth :=
  match readPartnerCredentials rt.crypto headers with
  | none =>
      if rt.production then
        throw ⟨401,
          "Present your owneX client credentials, either as HTTP Basic auth or as " ++
            "X-OwneX-Client-Id and X-OwneX-Client-Secret headers. Never from browser JavaScript.",
          some "CLIENT_AUTH_REQUIRED"⟩
      else return .developmentPublic
  | some credentials => do
      let found ← attempt (findApplicationByClientId rt credentials.clientId).run fun _ =>
        ⟨503, "Could not verify your client credentials right now.", some "REGISTRY_UNAVAILABLE"⟩
      let application ← require (authenticated rt found credentials.clientSecret)
        ⟨401, "Invalid client credentials.", some "INVALID_CLIENT"⟩
      return .credentials application

/-- A partner may only ask about its own organization, and its own application. -/
def outOfScope (auth : PartnerAuth) (orgId : Nat) (app : Option String) : Option ApiError :=
  match auth with
  | .developmentPublic => none
  | .credentials caller =>
      if caller.orgId.1 ≠ orgId then some orgMismatch
      else if app.any (· ≠ caller.slug) then some appMismatch
      else none

def refuseOutOfScope (auth : PartnerAuth) (orgId : Nat) (app : Option String) : Route Unit :=
  match outOfScope auth orgId app with
  | none => return ()
  | some error => throw error

/-- The reason to refuse without asking the chain, if the application is not there or revoked. -/
def registryRefusal (found : Option RegisteredApplication) : Option (String × String) :=
  match found with
  | none =>
      some ("APPLICATION_NOT_REGISTERED",
        "No application with that slug is registered for this organization.")
  | some record =>
      if record.status = .revoked then
        some ("APPLICATION_REVOKED", "An organization administrator has revoked this integration.")
      else none

def readRefusal (orgId : Nat) : Option String → Route (Option (String × String))
  | none => return none
  | some slug => do
      let found ← attempt (findApplicationBySlug rt (orgId, slug)).run fun _ =>
        ⟨503, "Could not verify access right now", some "REGISTRY_UNAVAILABLE"⟩
      return registryRefusal found

/-- The second half of `GET /api/roles/verify`. -/
def verifyLive (auth : PartnerAuth) (query : PartnerQuery) : Route VerifyReply := do
  let access ← ExceptT.lift
    (evaluateWalletAccess rt query.orgId query.wallet (named (query.app.or auth.slug)))
  let read ← require access.read?
    ⟨503, "Could not read identity and role from the blockchain. " ++
      "Access is denied until this succeeds.", some "CHAIN_UNAVAILABLE"⟩
  let verifiedAt : TimeValue ← ask ServerOp.now
  return .verified (buildPartnerClaims query.wallet query.orgId read.2 verifiedAt) read.1
    (read.1.reason.map explainDenial) read.2.organizationActive read.2.membership read.2.app
    auth.mode

/-- `GET /api/roles/verify` -/
def rolesVerify (headers : PartnerHeaders) (params : PartnerParams) : Route VerifyReply := do
  let query ← require params.parse
    (.badRequest "Provide wallet=0x… and orgId=<number>, optionally app=<slug>")
  let auth ← authenticatePartner rt headers
  refuseOutOfScope auth query.orgId query.app
  let refusal ← readRefusal rt query.orgId (named (query.app.or auth.slug))
  match refusal with
  | some (reason, detail) => do
      let verifiedAt : TimeValue ← ask ServerOp.now
      return .refused (lowerAscii query.wallet) query.orgId reason detail (toISOString verifiedAt)
  | none => verifyLive rt auth query

/-- `Promise.all(ids.map(readAsset))` -/
def readAssets : List Nat → Await (List (Option AssetState))
  | [] => return []
  | id :: ids => do
      let (asset, assets) ←
        Async.both (attempt (call (ServerOp.readAsset id)) fun error => error) (readAssets ids)
      return asset :: assets

/-- What a partner sees of the assets that are assigned to a wallet. -/
def portalAsset (wallet : Text) (record : AssetState) : Option PortalAsset :=
  if addressText record.assignedTo = lowerAscii wallet then
    some { tokenId := record.tokenId, active := record.active, assetType := "Asset" }
  else none

/-- `GET /api/portal/assets` -/
def portalAssets (headers : PartnerHeaders) (params : PartnerParams) : Route PortalReply := do
  let query ← require (parseWalletAndOrg params)
    (.badRequest "Provide wallet=0x… and orgId=<number>")
  let auth ← authenticatePartner rt headers
  refuseOutOfScope auth query.2 none
  let access ← ExceptT.lift (evaluateWalletAccess rt query.2 query.1 (named auth.slug))
  let read ← require access.read?
    ⟨503, "Could not verify access on-chain", some "CHAIN_UNAVAILABLE"⟩
  if !read.1.allowed then return { assets := [], allowed := false, reason := read.1.reason }
  else do
    let ids ← attempt (onSafe query.2 (call (ServerOp.readAssetsOfOrganization query.2))).run
      fun _ => .internal
    let records ← attempt (readAssets ids).run fun _ => .internal
    return { assets := (records.filterMap id).filterMap (portalAsset query.1), allowed := true,
             reason := none }

end Routes

end OwneX
