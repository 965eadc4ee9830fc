import OwneX.Contracts.Basic
import OwneX.Library.Interleaving
import OwneX.Library.JsText
import OwneX.Library.KeyedList

set_option autoImplicit false

/-! # Sign-In with Ethereum

`lib/siwe.ts`: a challenge is issued to a wallet, recorded under a nonce, and consumed by the call
that verifies a signature over it. The wallet column of the table `nonces` holds the address itself:
the code writes and compares it in lower case. `Date.now()` and `new Date()` are read from a clock
that runs on between the statements of a call. -/

namespace OwneX

open Js JsNumber KeyedList Prog Interleaving

/-! ## Messages -/

/-- The fields of a message. `N` is what stands for the chain id: a number in a challenge, and
    whatever `Number(..)` makes of the text in a message that comes back. -/
structure SiweFields (N : Type) where
  domain : Text
  address : Text
  statement : Text
  uri : Text
  chainId : N
  nonce : Text
  issuedAt : Text
  expirationTime : Text
deriving DecidableEq

def NONCE_TTL_SECONDS : Nat := 5 * 60

def STATEMENT : Text :=
  "Sign in to OwneX. This request is free and will not create a blockchain transaction.".toList

/-- Canonical EIP-4361 message. -/
def buildSiweMessage (f : SiweFields SafeInt) : Text :=
  joinLines
    [f.domain ++ " wants you to sign in with your Ethereum account:".toList,
      f.address,
      [],
      f.statement,
      [],
      "URI: ".toList ++ f.uri,
      "Version: 1".toList,
      "Chain ID: ".toList ++ Nat.toDigits 10 f.chainId.1,
      "Nonce: ".toList ++ f.nonce,
      "Issued At: ".toList ++ f.issuedAt,
      "Expiration Time: ".toList ++ f.expirationTime]

/-- The first line that starts with the given text, less the text. -/
def siweField (lines : List Text) (start : String) : Option Text :=
  (lines.findSome? (after? start.toList)).map trimText

/-- A field that is there and not empty. -/
def filledField (lines : List Text) (start : String) : Option Text :=
  (siweField lines start).filter fun value => !value.isEmpty

/-- Anything unexpected yields `none` rather than a partial object. -/
def parseSiweMessage (message : Text) : Option (SiweFields (Option Literal)) := do
  let lines := lines message
  if lines.length < 11 then none
  else
    let domain ← beforeEnding (lines.getD 0 [])
      " wants you to sign in with your Ethereum account:".toList
    let uri ← filledField lines "URI: "
    if siweField lines "Version: " ≠ some "1".toList then none
    else
      let chainId ← filledField lines "Chain ID: "
      let nonce ← filledField lines "Nonce: "
      let issuedAt ← filledField lines "Issued At: "
      let expirationTime ← filledField lines "Expiration Time: "
      some
        { domain
          address := trimText (lines.getD 1 [])
          statement := lines.getD 3 []
          uri
          chainId := number chainId
          nonce
          issuedAt
          expirationTime }

/-! ## The table `nonces` -/

structure NonceRow where
  nonce : Text
  walletAddress : Address
  domain : Text
  issuedAt : TimeValue
  expiresAt : TimeValue
  usedAt : Option TimeValue
deriving DecidableEq

/-- The row as it was inserted. -/
def NonceRow.issued (row : NonceRow) : NonceRow :=
  { row with usedAt := none }

/-- `nonce` is the primary key. -/
structure NonceTable where
  rows : List NonceRow
  unique : (rows.map NonceRow.nonce).Nodup

namespace NonceTable

variable (table : NonceTable)

def empty : NonceTable := ⟨[], .nil⟩

/-- `insert(row)` -/
def insert (row : NonceRow) : Except String Unit × NonceTable :=
  if row.nonce ∈ table.rows.map NonceRow.nonce then
    (.error "duplicate key value violates unique constraint \"nonces_pkey\"", table)
  else (.ok (), ⟨insertNew NonceRow.nonce table.rows row, nodup_insertNew table.unique row⟩)

/-- `select(..).eq("nonce", nonce).maybeSingle()` -/
def find (nonce : Text) : Option NonceRow :=
  lookup NonceRow.nonce table.rows nonce

/-- The rows that `consume` changes. -/
def consumable (nonce : Text) (row : NonceRow) : Bool :=
  row.nonce == nonce && row.usedAt.isNone

/-- `update({ used_at }).eq("nonce", nonce).is("used_at", null).select("nonce")` -/
def consume (nonce : Text) (usedAt : TimeValue) : List Text × NonceTable :=
  ((table.rows.filter (consumable nonce)).map NonceRow.nonce,
    { rows := modify (consumable nonce) (fun row => { row with usedAt := some usedAt }) table.rows
      unique := nodup_modify (f := fun row : NonceRow => { row with usedAt := some usedAt })
        (fun _ => rfl) table.unique })

end NonceTable

/-! ## What the calls await -/

inductive NonceOp where
  /-- `Date.now()`, and `new Date()` -/
  | now
  /-- `randomBytes(16)` -/
  | randomBytes
  | insertNonce (row : NonceRow)
  | selectNonce (nonce : Text)
  | consumeNonce (nonce : Text) (usedAt : TimeValue)

abbrev NonceOp.Res : NonceOp → Type
  | now => TimeValue
  | randomBytes => BitVec 128
  | insertNonce _ => Except String Unit
  | selectNonce _ => Except String (Option NonceRow)
  | consumeNonce _ _ => Except String (List Text)

/-- What `ethers` and the runtime make of addresses, signatures and dates. -/
structure SiweRuntime where
  /-- `getAddress`, `none` where it throws. -/
  getAddress : Text → Option Address
  /-- The checksummed form. -/
  checksum : Address → Text
  /-- `verifyMessage`, `none` where it throws. -/
  verifyMessage : Text → Text → Option Address
  /-- `new Date(s).getTime()`, `none` for `NaN`. -/
  getTime : Text → Option Int

/-- The environment. -/
structure SiweEnv where
  APP_DOMAIN : Text
  APP_ORIGIN : Text
  CHAIN_ID : SafeInt

/-! ## The calls -/

section Calls

variable (rt : SiweRuntime) (env : SiweEnv)

structure IssuedChallenge where
  nonce : Text
  message : Text
  expiresAt : Text
deriving DecidableEq

/-- Creates a single-use challenge and records it so it can be consumed once. The error is what the
    call throws. -/
def issueChallenge (walletInput : Text) :
    ExceptT String (Prog NonceOp NonceOp.Res) IssuedChallenge := do
  let address ← require (rt.getAddress walletInput) "invalid address"
  let bytes : BitVec 128 ← ask NonceOp.randomBytes
  let nonce := toHex 32 bytes.toNat
  let issuedAt : TimeValue ← ask NonceOp.now
  let expiresAt ← require (later issuedAt (NONCE_TTL_SECONDS * 1000)) "Invalid time value"
  let message := buildSiweMessage
    { domain := env.APP_DOMAIN
      address := rt.checksum address
      statement := STATEMENT
      uri := env.APP_ORIGIN
      chainId := env.CHAIN_ID
      nonce
      issuedAt := toISOString issuedAt
      expirationTime := toISOString expiresAt }
  attempt
    (call (NonceOp.insertNonce
      { nonce, walletAddress := address, domain := env.APP_DOMAIN, issuedAt, expiresAt,
        usedAt := none }))
    fun error => "Could not persist nonce: " ++ error
  return { nonce, message, expiresAt := toISOString expiresAt }

/-- `new Date(s).getTime() <= Date.now()`, which is false for a text that is no date. -/
def passed (time : Option Int) (dateNow : TimeValue) : Bool :=
  match time with
  | none => false
  | some time => decide (time ≤ dateNow.1)

/-- Verifies a signed challenge and consumes the nonce. The error is the reason of a failure. -/
def verifyChallenge (message signature : Text) :
    ExceptT String (Prog NonceOp NonceOp.Res) Address := do
  let parsed ← require (parseSiweMessage message) "Malformed sign-in message"
  refuseIf (parsed.domain != env.APP_DOMAIN) "Sign-in message was issued for a different domain"
  refuseIf (!(parsed.chainId.map (·.equals env.CHAIN_ID.1)).getD false)
    ("Wrong network. Expected chain " ++ toString env.CHAIN_ID.1)
  let dateNow : TimeValue ← ask NonceOp.now
  refuseIf (passed (rt.getTime parsed.expirationTime) dateNow)
    "Sign-in request expired. Please try again."
  let address ← require (rt.getAddress parsed.address) "Invalid address in sign-in message"
  let found ← attempt (call (NonceOp.selectNonce parsed.nonce)) fun _ =>
    "Could not validate sign-in request"
  let nonceRow ← require found "Unknown or already-used sign-in request"
  refuseIf nonceRow.usedAt.isSome "This sign-in request was already used"
  let dateNow : TimeValue ← ask NonceOp.now
  refuseIf (decide (nonceRow.expiresAt.1 ≤ dateNow.1)) "Sign-in request expired. Please try again."
  refuseIf (nonceRow.walletAddress != address) "Sign-in request was issued for a different wallet"
  -- Re-derive the canonical message; reject anything that differs.
  let expected := buildSiweMessage
    { domain := nonceRow.domain
      address := rt.checksum address
      statement := STATEMENT
      uri := env.APP_ORIGIN
      chainId := env.CHAIN_ID
      nonce := parsed.nonce
      issuedAt := parsed.issuedAt
      expirationTime := parsed.expirationTime }
  refuseIf (expected != message) "Sign-in message does not match the issued challenge"
  let recovered ← require (rt.verifyMessage message signature) "Signature could not be verified"
  refuseIf (recovered != address) "Signature does not match the claimed wallet"
  -- Consume the nonce. Conditional update = atomic single use.
  let usedAt : TimeValue ← ask NonceOp.now
  let consumed ← attempt (call (NonceOp.consumeNonce parsed.nonce usedAt)) fun _ =>
    "Could not complete sign-in"
  refuseIf consumed.isEmpty "This sign-in request was already used"
  return address

end Calls

/-! ## Calls side by side -/

/-- The table, the clock, and which wallets have signed what. -/
structure SignInState where
  clock : TimeValue
  nonces : NonceTable
  signed : List (Address × Text)

inductive SignInRequest where
  | issue (walletInput : Text)
  | verify (message signature : Text)

abbrev SignInRequest.Ans : SignInRequest → Type
  | issue _ => Except String IssuedChallenge
  | verify _ _ => Except String Address

namespace SignInState

/-- No challenge has been issued yet. -/
def fresh (clock : TimeValue) : SignInState := ⟨clock, .empty, []⟩

/-- A statement of a call, which may fail. -/
def exec (s : SignInState) : (op : NonceOp) → op.Res → SignInState → Prop
  | .now, t, s' => t = s.clock ∧ s' = s
  | .randomBytes, _, s' => s' = s
  | .insertNonce row, r, s' =>
      Attempt s ((s.nonces.insert row).1, { s with nonces := (s.nonces.insert row).2 }) r s'
  | .selectNonce nonce, r, s' => Attempt s (.ok (s.nonces.find nonce), s) r s'
  | .consumeNonce nonce usedAt, r, s' =>
      Attempt s
        (.ok (s.nonces.consume nonce usedAt).1,
          { s with nonces := (s.nonces.consume nonce usedAt).2 }) r s'

/-- Time passes, and wallets sign messages. -/
def outside (s s' : SignInState) : Prop :=
  s.clock.1 ≤ s'.clock.1 ∧ s'.nonces = s.nonces ∧ s.signed ⊆ s'.signed

/-- A signature is not forged: the wallet that is recovered from it has signed the message. -/
def admits (rt : SiweRuntime) (s : SignInState) : SignInRequest → Prop
  | .issue _ => True
  | .verify message signature =>
      ∀ a, rt.verifyMessage message signature = some a → (a, message) ∈ s.signed

end SignInState

/-- The handler of a request. -/
def SignInRequest.handler (rt : SiweRuntime) (env : SiweEnv) :
    (req : SignInRequest) → Prog NonceOp NonceOp.Res req.Ans
  | .issue walletInput => (issueChallenge rt env walletInput).run
  | .verify message signature => (verifyChallenge rt env message signature).run

/-- Any number of calls over one table. -/
def signIn (rt : SiweRuntime) (env : SiweEnv) : Service where
  State := SignInState
  Op := NonceOp
  Res := NonceOp.Res
  Req := SignInRequest
  Ans := SignInRequest.Ans
  exec := SignInState.exec
  env := SignInState.outside
  admits := SignInState.admits rt
  handler := SignInRequest.handler rt env

end OwneX
