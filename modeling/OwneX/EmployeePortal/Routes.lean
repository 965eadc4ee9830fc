import OwneX.Library.Base64
import OwneX.Library.Interleaving
import OwneX.Platform.Preimages

set_option autoImplicit false

/-! # The employee portal: `app/api/login` and `app/api/callback`

The whole session is one cookie. A request carries the cookie that the browser holds when it is
sent, the handler saves a new one, and it replaces whatever the browser holds when the response
arrives. The password of the session is configured, so a cookie can be opened until it expires. -/

namespace OwneX

open Js JsNumber Prog Interleaving

/-! ## Values of JSON -/

namespace Preimage

mutual

/-- `String(value)` -/
def Json.text : Json → List CodePoint
  | .null => (Str.ofString "null").points
  | .bool b => (Str.ofString (if b then "true" else "false")).points
  | .number n => n.chars.map .scalar
  | .string s => s.points
  | .array elems => [.scalar ','].intercalate (Json.joined elems)
  | .object _ => (Str.ofString "[object Object]").points

/-- The elements of an array as `join` writes them. -/
def Json.joined : List Json → List (List CodePoint)
  | [] => []
  | .null :: rest => [] :: Json.joined rest
  | elem :: rest => Json.text elem :: Json.joined rest

end

def Json.isFalsy : Json → Bool
  | .null => true
  | .bool b => !b
  | .number n => n = .zero
  | .string s => s.points.isEmpty
  | _ => false

/-- `value.key`, which `null` does not have. -/
def Json.member? (value : Json) (key : String) : Option (Option Json) :=
  match value with
  | .null => none
  | .object entries => some (get entries (.ofString key))
  | _ => some none

end Preimage

namespace EmployeePortal

/-! ## `lib/config.ts` -/

structure OwnexConfig where
  origin : String
  clientId : String
  clientSecret : String
  orgId : FiniteNumber
  /-- The exact callback URL registered with owneX for this integration. -/
  redirectUri : String
  appSlug : String

/-! ## `lib/session.ts` -/

structure PortalSession where
  /-- Verified by owneX through the code exchange. Never read from a URL. -/
  wallet : Option String
  orgId : Option FiniteNumber
  verifiedAt : Option Preimage.Json
  /-- Anti-CSRF value for an authorization request that has not returned yet. -/
  state : Option String
  stateExpires : Option Nat

/-- What is read where there is no cookie, or one that has expired. -/
def PortalSession.empty : PortalSession := ⟨none, none, none, none, none⟩

/-! ## Operations -/

/-- The answer of `/api/authorize/exchange`. A body that is not JSON is `none`. -/
structure ExchangeReply where
  status : Nat
  body : Option Preimage.Json

def ExchangeReply.ok (reply : ExchangeReply) : Bool :=
  200 ≤ reply.status && reply.status ≤ 299

structure ExchangeRequest where
  url : String
  clientId : String
  clientSecret : String
  code : String
  redirectUri : String

/-- What a response shows or where it leads. -/
inductive Reply where
  | notConfigured (detail : String)
  /-- To the page where the user authorizes the sign-in. -/
  | authorize (config : OwnexConfig) (state : String)
  /-- `/denied?reason=..` -/
  | denied (reason : String)
  | dashboard
  /-- An exception that no handler catches. -/
  | failed

inductive PortalOp where
  /-- The browser sends the request along with its cookie. -/
  | send
  | now
  | randomBytes (count : Nat)
  | exchange (request : ExchangeRequest)
  /-- The browser receives the response, which may set the cookie. -/
  | receive (reply : Reply) (cookie : Option PortalSession)

/-- Where owneX cannot be reached there is no answer to an exchange. -/
abbrev PortalOp.Res : PortalOp → Type
  | send => PortalSession
  | now => TimeValue
  | randomBytes _ => List UInt8
  | exchange _ => Option ExchangeReply
  | receive .. => Unit

/-- What the portal is configured with, and what its platform does. -/
structure PortalRuntime where
  config : Except String OwnexConfig
  toUpperCase : String → String
  /-- Whether cookies that have been saved are set although the handler throws. -/
  keepsCookies : Bool

variable (rt : PortalRuntime)

/-! ## `GET /api/login` -/

def STATE_TTL_MS : Nat := 5 * 60000

def login : Prog PortalOp PortalOp.Res Unit := do
  let store : PortalSession ← call PortalOp.send
  match rt.config with
  | .error detail => call (PortalOp.receive (.notConfigured detail) none)
  | .ok config =>
      let bytes : List UInt8 ← call (PortalOp.randomBytes 32)
      let state := String.ofList (toBase64url bytes)
      let now : TimeValue ← call PortalOp.now
      call (PortalOp.receive (.authorize config state)
        (some { store with
          state := some state
          stateExpires := some (now.1 + STATE_TTL_MS)
          wallet := none
          orgId := none
          verifiedAt := none }))

/-! ## `GET /api/callback` -/

/-- `URLSearchParams.get(name) ?? ""` -/
def searchParam (query : List (String × String)) (name : String) : String :=
  ((query.find? fun param => param.1 = name).map (·.2)).getD ""

inductive Refusal where
  | deny (reason : String)
  /-- An exception that no handler catches. -/
  | unhandled

/-- `encodeURIComponent` throws on a lone surrogate. -/
def Refusal.ofText (reason : List CodePoint) : Refusal :=
  if reason.all fun p => (p matches .scalar _) then
    .deny (String.ofList (reason.map CodePoint.toScalar))
  else .unhandled

/-- Constant-time comparison, so a mismatch leaks nothing through timing. -/
def statesMatch (received expected : String) : Bool :=
  received.toUTF8.size == expected.toUTF8.size && decide (received.toUTF8.data = expected.toUTF8.data)

/-- The state is missing, expired or another one. -/
def invalidState (store : PortalSession) (state : String) (now : TimeValue) : Bool :=
  match store.state, store.stateExpires with
  | some expected, some expires =>
      state == "" || expected == "" || expires == 0 || decide (expires < now.1) ||
        !statesMatch state expected
  | _, _ => true

/-- The reason code owneX reports, or one that names the status. -/
def exchangeRefusal (reply : ExchangeReply) : Refusal :=
  match (reply.body.bind (·.member? "code")).join with
  | some code =>
      if code.isFalsy then .deny ("EXCHANGE_" ++ reply.status.repr) else .ofText code.text
  | none => .deny ("EXCHANGE_" ++ reply.status.repr)

def isHexDigit (c : Char) : Bool :=
  c.isDigit || ('a' ≤ c && c ≤ 'f') || ('A' ≤ c && c ≤ 'F')

/-- `/^0x[0-9a-fA-F]{40}$/` -/
def isAddress (text : List CodePoint) : Bool :=
  match text with
  | .scalar '0' :: .scalar 'x' :: digits =>
      digits.length == 40 && digits.all fun p => match p with
        | .scalar c => isHexDigit c
        | .surrogate _ => false
  | _ => false

/-- The claims of a successful exchange. -/
structure SignedIn where
  wallet : String
  orgId : FiniteNumber
  verifiedAt : Preimage.Json

/-- Everything the portal asks of the claims before it believes them. -/
def readClaims (config : OwnexConfig) (claims : Preimage.Json) :
    ExceptT Refusal (Prog PortalOp PortalOp.Res) SignedIn := do
  let wallet ← require (claims.member? "wallet") .unhandled
  let wallet ← require (wallet.filter fun wallet => !wallet.isFalsy && isAddress wallet.text)
    (.deny "AUTHORIZATION_FAILED")
  let identityActive := (claims.member? "identityActive").join
  refuseIf (identityActive matches some (.bool false)) (.deny "IDENTITY_REVOKED")
  let orgId := (claims.member? "orgId").join
  refuseIf (orgId.any fun orgId => match orgId with
    | .number n => n != config.orgId
    | _ => true) (.deny "ORG_MISMATCH")
  -- Only a string has `toLowerCase`.
  let wallet ← require (match wallet with
    | .string s => some s
    | _ => none) .unhandled
  let signedIn := fun verifiedAt : Preimage.Json =>
    (⟨wallet.toWellFormed.toLower, config.orgId, verifiedAt⟩ : SignedIn)
  match (claims.member? "verifiedAt").join with
  | some .null | none => do
      let now : TimeValue ← ask PortalOp.now
      return signedIn (.string (.ofString (String.ofList (toISOString now))))
  | some verifiedAt => return signedIn verifiedAt

/-- From the check of the state to the claims of owneX. -/
def redeem (store : PortalSession) (query : List (String × String)) :
    ExceptT Refusal (Prog PortalOp PortalOp.Res) SignedIn := do
  let state := searchParam query "state"
  let code := searchParam query "code"
  let error := searchParam query "error"
  let now : TimeValue ← ask PortalOp.now
  refuseIf (invalidState store state now) (.deny "INVALID_STATE")
  refuseIf (error != "") (.deny (rt.toUpperCase error))
  refuseIf (code == "") (.deny "INVALID_CODE")
  let config ← require rt.config.toOption (.deny "PORTAL_NOT_CONFIGURED")
  let reply : Option ExchangeReply ← ask (PortalOp.exchange
    { url := config.origin ++ "/api/authorize/exchange"
      clientId := config.clientId
      clientSecret := config.clientSecret
      code
      redirectUri := config.redirectUri })
  let reply ← require reply (.deny "VERIFICATION_UNAVAILABLE")
  refuseIf (!reply.ok) (exchangeRefusal reply)
  let claims ← require reply.body .unhandled
  readClaims config claims

def callback (query : List (String × String)) : Prog PortalOp PortalOp.Res Unit := do
  let store : PortalSession ← call PortalOp.send
  -- Single use: cleared whatever happens next.
  let cleared := { store with state := none, stateExpires := none }
  let outcome ← (redeem rt store query).run
  match outcome with
  | .ok signedIn =>
      call (PortalOp.receive .dashboard
        (some { cleared with
          wallet := some signedIn.wallet
          orgId := some signedIn.orgId
          verifiedAt := some signedIn.verifiedAt }))
  | .error (.deny reason) => call (PortalOp.receive (.denied reason) (some cleared))
  | .error .unhandled =>
      call (PortalOp.receive .failed (if rt.keepsCookies then some cleared else none))

end EmployeePortal

end OwneX
