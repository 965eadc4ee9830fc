import OwneX.EmployeePortal.Routes
import OwneX.Platform.Credentials

set_option autoImplicit false

/-! # The employee portal: its pages

`lib/ownex.ts`, `app/dashboard/page.tsx` and `app/assets/page.tsx`. A page believes nothing but the
wallet in the cookie: whether the wallet may see anything, and as what, is asked of owneX each time
the page is requested. A page is given as the data it is drawn from. -/

namespace OwneX

open Js JsNumber Prog Interleaving

/-! ## Values of JSON -/

namespace Preimage

/-- `value ?? ..`, which is not taken for `null` and `undefined`. -/
def nonNull : Option Json → Option Json
  | some .null | none => none
  | some value => some value

/-- `Object.entries(value)` -/
def Json.entries : Json → List (Str × Option Json)
  | .object entries => entries
  | .array elems => elems.zipIdx.map fun (elem, i) => (.ofString i.repr, some elem)
  -- Each unit is a string that is not empty.
  | .string s => (List.range s.units.length).map fun i => (.ofString i.repr, some (.bool true))
  | _ => []

def truthy (value : Option Json) : Bool :=
  value.any fun value => !value.isFalsy

end Preimage

namespace EmployeePortal

open Preimage (nonNull truthy)

/-- What the portal is configured with, and what its platform does. -/
structure PageRuntime where
  config : Except String OwnexConfig
  /-- Whether `new URL` accepts it as a base. -/
  isBase : String → Bool
  toUtf8 : Text → List UInt8
  toLowerCase : Str → Str

/-! ## Requests to owneX -/

/-- `bytes.toString("base64")` -/
def toBase64 (bytes : List UInt8) : Text :=
  (digitsOfBytes bytes).map
      (fun n => if n = 62 then '+' else if n = 63 then '/' else base64Digit n) ++
    List.replicate ((3 - bytes.length % 3) % 3) '='

/-- A request with the credentials of the portal. -/
structure PartnerRequest where
  url : String
  authorization : Text
  wallet : Text
  orgId : Text
  app : Option Text

inductive PageOp where
  | verify (request : PartnerRequest)
  | assets (request : PartnerRequest)

/-- Where owneX cannot be reached there is no answer. -/
abbrev PageOp.Res : PageOp → Type
  | verify _ | assets _ => Option ExchangeReply

variable (rt : PageRuntime)

def clientAuthHeader (config : OwnexConfig) : Text :=
  "Basic ".toList ++ toBase64 (rt.toUtf8 (config.clientId ++ ":" ++ config.clientSecret).toList)

/-! ## `lib/ownex.ts` -/

structure VerifyResult where
  allowed : Bool
  reason : Option Preimage.Json
  role : Str
  permissions : Preimage.Json
  identityActive : Bool
  membership : Option Preimage.Json
  verifiedAt : Option Str

def textValue (text : String) : Preimage.Json :=
  .string (.ofString text)

def DENIED (reason : Preimage.Json) : VerifyResult where
  allowed := false
  reason := some reason
  role := .ofString "NONE"
  permissions := .object []
  identityActive := false
  membership := none
  verifiedAt := none

def isString : Option Preimage.Json → Option Str
  | some (.string s) => some s
  | _ => none

/-- What is made of a body. `null` has no members. -/
def readVerification (body : Preimage.Json) : Option VerifyResult :=
  match body.member? "allowed" with
  | none => none
  | some (some (.bool true)) => some
      { allowed := true
        reason := none
        role := (isString (body.member? "role").join).getD (.ofString "NONE")
        permissions := (nonNull (body.member? "permissions").join).getD (.object [])
        identityActive := (body.member? "identityActive").join matches some (.bool true)
        membership := nonNull (body.member? "membership").join
        verifiedAt := isString (body.member? "verifiedAt").join }
  | some _ =>
      some (DENIED ((nonNull (body.member? "reason").join).getD (textValue "ACCESS_DENIED")))

/-- What is made of an answer. -/
def verification (response : Option ExchangeReply) : Option VerifyResult :=
  match response with
  | none => some (DENIED (textValue "VERIFICATION_UNAVAILABLE"))
  | some response =>
      if !response.ok then
        -- 503 from owneX means it could not read the chain.
        some (DENIED (textValue
          (if response.status = 503 then "VERIFICATION_UNAVAILABLE"
          else "HTTP_" ++ response.status.repr)))
      else
        match response.body with
        | none => some (DENIED (textValue "VERIFICATION_UNAVAILABLE"))
        | some body => readVerification body

/-- Where the portal asks about a wallet. -/
def partnerRequest (config : OwnexConfig) (path wallet : String) (app : Option String) :
    PartnerRequest where
  url := config.origin ++ path
  authorization := clientAuthHeader rt config
  wallet := wallet.toList
  orgId := config.orgId.chars
  app := app.map String.toList

/-- `none` is an exception. -/
def verifyAccess (wallet : String) : Prog PageOp PageOp.Res (Option VerifyResult) :=
  match rt.config with
  | .error _ => return some (DENIED (textValue "PORTAL_NOT_CONFIGURED"))
  | .ok config =>
      if rt.isBase (config.origin ++ "/") then do
        let response ← call
          (PageOp.verify (partnerRequest rt config "/api/roles/verify" wallet config.appSlug))
        return verification response
      else return none

/-! ## `app/dashboard/page.tsx` -/

structure DashboardView where
  wallet : String
  orgId : Option FiniteNumber
  role : Str
  /-- Just now, where there is no time. -/
  verifiedAt : Option Str
  granted : List Str
  expired : Bool
  expiresAt : Option Preimage.Json

/-- What an asset is drawn from. Its name and its type need not be there. -/
structure AssetCard where
  tokenId : Option Preimage.Json
  name : Option Preimage.Json
  assetType : Option Preimage.Json
  active : Bool

inductive Page where
  /-- `redirect("/")` -/
  | signIn
  /-- `/denied?reason=..` -/
  | denied (reason : String)
  | dashboard (view : DashboardView)
  | assets (cards : List AssetCard)
  /-- An exception that no page catches. -/
  | failed

/-- `redirect("/denied?reason=..")`, unless the reason cannot be encoded. -/
def refusedPage (verified : VerifyResult) : Page :=
  match Refusal.ofText (verified.reason.getD (textValue "ACCESS_DENIED")).text with
  | .deny reason => .denied reason
  | .unhandled => .failed

def shorten (address : String) : String :=
  String.ofList (address.toList.take 6 ++ '…' :: address.toList.drop (address.toList.length - 4))

/-- `key.replaceAll("_", " ")` -/
def spaced (key : Str) : Str where
  points := key.points.map fun p => if p = .scalar '_' then .scalar ' ' else p
  paired := by
    rw [List.isChain_map]
    refine key.paired.imp fun p q hpair hjoined => hpair ?_
    have hkind : ∀ p : CodePoint, (if p = .scalar '_' then .scalar ' ' else p : CodePoint).isHigh =
        p.isHigh ∧ (if p = .scalar '_' then .scalar ' ' else p : CodePoint).isLow = p.isLow := by
      intro p
      by_cases hp : p = .scalar '_'
      · rw [if_pos hp, hp]
        exact ⟨rfl, rfl⟩
      · rw [if_neg hp]
        exact ⟨rfl, rfl⟩
    rwa [(hkind p).1, (hkind q).2] at hjoined

def dashboardView (store : PortalSession) (wallet : String) (verified : VerifyResult) :
    DashboardView where
  wallet := shorten wallet
  orgId := store.orgId
  role := verified.role
  verifiedAt := verified.verifiedAt.filter fun s => !s.points.isEmpty
  granted := (verified.permissions.entries.filter fun entry => truthy entry.2).map fun entry =>
    rt.toLowerCase (spaced entry.1)
  expired := truthy (verified.membership.bind fun m => (m.member? "expired").join)
  expiresAt := (verified.membership.bind fun m => (m.member? "expiresAt").join).filter
    fun value => !value.isFalsy

/-- Only a wallet that may see the page gets to it. -/
def ifAllowed (page : VerifyResult → Prog PageOp PageOp.Res Page) :
    Option VerifyResult → Prog PageOp PageOp.Res Page
  | none => return .failed
  | some verified => if verified.allowed then page verified else return refusedPage verified

/-- What every page begins with. -/
def protectedPage (store : PortalSession)
    (page : String → VerifyResult → Prog PageOp PageOp.Res Page) : Prog PageOp PageOp.Res Page :=
  match store.wallet.filter (· ≠ "") with
  | none => return .signIn
  | some wallet => do
      let verified ← verifyAccess rt wallet
      ifAllowed (page wallet) verified

def showDashboard (store : PortalSession) (wallet : String) (verified : VerifyResult) :
    Prog PageOp PageOp.Res Page :=
  return .dashboard (dashboardView rt store wallet verified)

def dashboardPage (store : PortalSession) : Prog PageOp PageOp.Res Page :=
  protectedPage rt store (showDashboard rt store)

/-! ## `app/assets/page.tsx` -/

/-- An unreachable owneX shows an empty vault rather than stale data. -/
def readAssetList (response : Option ExchangeReply) : Preimage.Json :=
  match response with
  | none => .array []
  | some response =>
      if !response.ok then .array []
      else ((response.body.bind (·.member? "assets")).bind nonNull).getD (.array [])

def fetchAssets (wallet : String) : Prog PageOp PageOp.Res Preimage.Json :=
  match rt.config with
  | .error _ => return .array []
  | .ok config =>
      if rt.isBase (config.origin ++ "/") then do
        let response ← call
          (PageOp.assets (partnerRequest rt config "/api/portal/assets" wallet none))
        return readAssetList response
      else return .array []

/-- `null` has no members. -/
def assetCard (asset : Preimage.Json) : Option AssetCard := do
  let tokenId ← asset.member? "tokenId"
  return { tokenId
           name := nonNull (asset.member? "name").join
           assetType := nonNull (asset.member? "assetType").join
           active := truthy (asset.member? "active").join }

/-- Only an array has a `map`. -/
def assetCards : Preimage.Json → Option (List AssetCard)
  | .array elems => elems.mapM assetCard
  | _ => none

/-- Everything behind the revalidation. -/
def showAssets (wallet : String) : Prog PageOp PageOp.Res Page := do
  let assets ← fetchAssets rt wallet
  match assetCards assets with
  | none => return .failed
  | some cards => return .assets cards

def assetsPage (store : PortalSession) : Prog PageOp PageOp.Res Page :=
  protectedPage rt store fun wallet _ => showAssets rt wallet

end EmployeePortal

end OwneX
