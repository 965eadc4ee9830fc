import OwneX.Library.Interleaving
import OwneX.Platform.ApplicationTables
import OwneX.Platform.Authz

set_option autoImplicit false

/-! # What the route handlers await

Each read of the contracts and each statement of the database is one operation, which reports its
failure in its result. A read that compares with `Date.now()` does so when it is answered. -/

namespace OwneX

open Js JsNumber Prog

inductive ServerOp where
  | readOrganization (orgId : Nat)
  | readIdentity (wallet : Address)
  | readEffectiveRole (orgId : Nat) (wallet : Address)
  | readMembership (orgId : Nat) (wallet : Address)
  | readHasPermission (orgId : Nat) (wallet : Address) (permissionHash : Bytes32)
  | readApplicationRegistered (orgId : Nat) (appId : Bytes32)
  | readCanAccessApp (orgId : Nat) (wallet : Address) (appId : Bytes32)
  | readAssetsOfOrganization (orgId : Nat)
  | readAsset (tokenId : Nat)
  | selectByClientId (clientId : Text)
  | selectByKey (app : AppKey)
  | selectCallbacks (app : AppKey)
  | upsertApplication (cols : ApplicationColumns)
  | updateApplication (app : AppKey) (patch : ApplicationPatch)
  | deleteCallbacks (app : AppKey)
  | insertCallbacks (app : AppKey) (urls : List Text)
  | insertCode (row : CodeRow)
  | consumeCode (query : ConsumeQuery)
  /-- `Date.now()`, and `new Date()` -/
  | now
  /-- `randomBytes(size)` -/
  | randomBytes (size : Nat)

abbrev ServerOp.Res : ServerOp → Type
  | readOrganization _ => Except String (Option OrganizationState)
  | readIdentity _ => Except String IdentityState
  | readEffectiveRole .. => Except String RoleName
  | readMembership .. => Except String MembershipState
  | readHasPermission .. => Except String Bool
  | readApplicationRegistered .. => Except String Bool
  | readCanAccessApp .. => Except String Bool
  | readAssetsOfOrganization _ => Except String (List Nat)
  | readAsset _ => Except String (Option AssetState)
  | selectByClientId _ => Except String (Option ApplicationRow)
  | selectByKey _ => Except String (Option ApplicationRow)
  | selectCallbacks _ => Except String (List Text)
  | upsertApplication _ => Except String Unit
  | updateApplication .. => Except String Unit
  | deleteCallbacks _ => Except String Unit
  | insertCallbacks .. => Except String Unit
  | insertCode _ => Except String Unit
  | consumeCode _ => Except String (Option ConsumedGrant)
  | now => TimeValue
  | randomBytes _ => List UInt8

/-- What a handler awaits; the error is a message. -/
abbrev Await (α : Type) := ExceptT String (Prog ServerOp ServerOp.Res) α

/-- A handler; the error is what it answers instead of its data. -/
abbrev Route (α : Type) := ExceptT ApiError (Prog ServerOp ServerOp.Res) α

/-- What the server is configured with, and what its libraries compute. -/
structure ServerRuntime where
  /-- `NODE_ENV === "production"` -/
  production : Bool
  crypto : CryptoRuntime
  /-- `new URL(..)` -/
  parse : Text → Option Url
  /-- ethers' `id` -/
  keccakId : String → Bytes32
  /-- ethers' `getAddress`, `none` where it throws. -/
  getAddress : Text → Option Address
  /-- The order of the database on texts. -/
  collate : Text → Text → Bool

def ServerRuntime.callbackMode (rt : ServerRuntime) : CallbackMode :=
  if rt.production then .production else .development

/-! ## Reads of the chain -/

/-- Ethers refuses a number that is not a safe integer. -/
def onSafe {α : Type} (orgId : Nat) (read : Prog ServerOp ServerOp.Res (Except String α)) :
    Await α := do
  refuseIf (decide (2 ^ 53 ≤ orgId)) "overflow"
  attempt read id

def serverReads : ChainReads (ExceptT String (Prog ServerOp ServerOp.Res)) where
  readOrganization orgId := onSafe orgId (call (ServerOp.readOrganization orgId))
  readIdentity wallet := attempt (call (ServerOp.readIdentity wallet)) id
  readEffectiveRole orgId wallet := onSafe orgId (call (ServerOp.readEffectiveRole orgId wallet))
  readMembership orgId wallet := onSafe orgId (call (ServerOp.readMembership orgId wallet))
  readHasPermission orgId wallet permission :=
    onSafe orgId (call (ServerOp.readHasPermission orgId wallet permission))
  readApplicationRegistered orgId appId :=
    onSafe orgId (call (ServerOp.readApplicationRegistered orgId appId))
  readCanAccessApp orgId wallet appId := onSafe orgId (call (ServerOp.readCanAccessApp orgId wallet appId))

/-! ## The session -/

/-- What the cookie holds. -/
structure SessionData where
  wallet : Option Address
  /-- In seconds. -/
  issuedAt : Option Nat

def SESSION_TTL_SECONDS : Nat := 60 * 60 * 24

/-- The wallet of the session at a time, if it has one. -/
def SessionData.walletAt (session : SessionData) (dateNow : TimeValue) : Option Address :=
  match session.issuedAt with
  | none => none
  | some issuedAt =>
      if issuedAt = 0 ∨ issuedAt + SESSION_TTL_SECONDS < dateNow.1 / 1000 then none
      else session.wallet

/-- The authenticated wallet, or none. -/
def sessionWallet (session : SessionData) : Prog ServerOp ServerOp.Res (Option Address) :=
  if session.wallet.isNone || session.issuedAt.all (· = 0) then return none
  else do
    let dateNow : TimeValue ← call ServerOp.now
    return session.walletAt dateNow

/-- `requirePermission` of `lib/authz.ts`, with the wallet of the session. -/
def authorize (session : SessionData) (orgId : Nat) (permission : PermissionKey) : Route Caller := do
  let wallet ← ExceptT.lift (sessionWallet session)
  requirePermission serverReads wallet orgId permission

end OwneX
