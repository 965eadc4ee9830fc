import OwneX.Library.JsCodePoints
import OwneX.Platform.AssetStore
import OwneX.Platform.PartnerRoutes
import OwneX.Platform.Preimages

set_option autoImplicit false

/-! # `app/api/assets`

The list of an organization's assets, a new draft, and the confirmation that binds a draft to the token
minted for it, with `lib/asset-binding.ts`. The statements on the table `assets` are operations beside
those of the other routes. The id of a row is written here as the database writes it. -/

namespace OwneX

open Js JsNumber Prog

/-! ## Operations -/

/-- What a confirmation reads of its draft. -/
structure DraftRow where
  id : String
  orgId : SafeInt
  tokenId : Option Nat
  assetHash : String
  name : String
deriving DecidableEq

/-- A row that claims a token. The contract is `none` also where its column was not asked for. -/
structure ClaimRow where
  id : String
  name : String
  assetHash : String
  contractAddress : Option Address
deriving DecidableEq

inductive AssetOp where
  | server (op : ServerOp)
  /-- `select("id, org_id, token_id, asset_hash, name").eq("id", ..).maybeSingle()` -/
  | selectDraft (id : String)
  /-- `eq("token_id", ..).neq("id", ..)`, with the contract or without. -/
  | selectClaims (withContract : Bool) (tokenId : Nat) (keepAssetId : String)
  /-- `select(ROW_FIELDS).eq("org_id", ..)`, with the contract or without. -/
  | selectOrgRows (withContract : Bool) (orgId : SafeInt)
  | update (filter : AssetFilter) (patch : AssetPatch)
  | insert (draft : AssetDraft) (stamp : Option AssetDeployment)

abbrev AssetOp.Res : AssetOp → Type
  | server op => op.Res
  | selectDraft _ => Except DbError (Option DraftRow)
  | selectClaims .. => Except DbError (List ClaimRow)
  | selectOrgRows .. => Except DbError (List AssetRow)
  | update .. => Except DbError (List String)
  | insert .. => Except DbError String

/-- A handler of `app/api/assets`. -/
abbrev AssetRoute (α : Type) := ExceptT ApiError (Prog AssetOp AssetOp.Res) α

/-- What needs nothing of the table. -/
def onServer {α : Type} (p : Route α) : AssetRoute α :=
  ExceptT.mk (p.run.embed AssetOp.server fun _ r => r)

/-- What the routes are configured with. -/
structure AssetRuntime where
  server : ServerRuntime
  deployment : AssetDeployment
  appOrigin : String
  keccakUtf8 : String → Bytes32
  /-- AES-256-GCM under the server's key: the nonce, the tag and the ciphertext in base64. -/
  cipher : List UInt8 → String → String × String × String
  decipher : String → String → String → Option String

def ApiError.conflict (message : String) : ApiError := ⟨409, message, some "CONFLICT"⟩

/-! ## `lib/crypto.ts` -/

def IV_BYTES : Nat := 12

def encryptPII (cipher : List UInt8 → String → String × String × String) (plaintext : Option Str) :
    Route (Option String) :=
  match plaintext with
  | none => return none
  | some plaintext =>
      if plaintext.units = [] then return none
      else do
        let iv : List UInt8 ← ask (ServerOp.randomBytes IV_BYTES)
        let (iv, authTag, ciphertext) := cipher iv plaintext.toWellFormed
        return some (".".intercalate ["v1", iv, authTag, ciphertext])

/-! ## `lib/asset-binding.ts` -/

inductive ClaimVerdict where
  /-- The row describes another deployment's token. -/
  | otherDeployment
  /-- The chain agrees with the row. -/
  | conflict
  /-- The chain contradicts the row. -/
  | release
deriving DecidableEq

section Binding

variable [Js.CaseMapping]

def sameHex (a b : String) : Bool :=
  Js.CaseMapping.toLowerCase a == Js.CaseMapping.toLowerCase b

def classifyClaim (claim : ClaimRow) (chainAssetHash : Bytes32)
    (deploymentContractAddress : Address) : ClaimVerdict :=
  if claim.contractAddress.any (· ≠ deploymentContractAddress) then .otherDeployment
  else if sameHex claim.assetHash (hex chainAssetHash) then .conflict
  else .release

end Binding

/-! ## `POST /api/assets/<assetId>/confirm` -/

/-- `/^0x[a-fA-F0-9]{64}$/` -/
def isTxHash (s : Text) : Bool :=
  s.length == 66 && s.take 2 == "0x".toList && (s.drop 2).all (isDigit 16)

structure ConfirmBody where
  tokenId : Nat
  txHash : String
deriving DecidableEq

def ConfirmBody.accepted (body : ConfirmBody) : Bool :=
  decide (0 < body.tokenId) && isTxHash body.txHash.toList

structure ConfirmReply where
  assetId : String
  tokenId : Nat
  txHash : String
  owner : Address
  assignedTo : Address
  assetHash : String
deriving DecidableEq

section Confirm

variable [Js.CaseMapping] (rt : AssetRuntime)

def couldNotCheck (tokenId : Nat) : ApiError :=
  ⟨500, "Could not check what already claims token #" ++ tokenId.repr, none⟩

/-- Rows other than this draft that claim the same token id. -/
def readClaims (tokenId : Nat) (keepAssetId : String) : AssetRoute (List ClaimRow) := do
  let answer : Except DbError (List ClaimRow) ← ask (AssetOp.selectClaims true tokenId keepAssetId)
  match answer with
  | .ok claims => return claims
  | .error error =>
      if isUnknownColumn error then
        attempt (call (AssetOp.selectClaims false tokenId keepAssetId)) fun _ =>
          couldNotCheck tokenId
      else throw (couldNotCheck tokenId)

/-- `update({ token_id: null, mint_tx_hash: null }).eq("id", ..).eq("token_id", ..)` -/
abbrev releaseOp (tokenId : Nat) (claim : ClaimRow) : AssetOp :=
  .update { id := claim.id, tokenId := some (some tokenId) } { binding := some (none, none) }

def alreadyBound (tokenId : Nat) (claim : ClaimRow) : ApiError :=
  .conflict ("Token #" ++ tokenId.repr ++ " is already bound to another record (\"" ++ claim.name ++
    "\") with the same anchor. Nothing was changed. Delete or rebind that record if this draft " ++
    "should own the token.")

def couldNotRelease (tokenId : Nat) : ApiError :=
  ⟨500, "Could not release a stale claim on token #" ++ tokenId.repr, none⟩

/-- The claims one after the other. -/
def releaseContradicted (tokenId : Nat) (chainAssetHash : Bytes32) : List ClaimRow → AssetRoute Unit
  | [] => return ()
  | claim :: claims =>
      match classifyClaim claim chainAssetHash rt.deployment.contractAddress with
      | .otherDeployment => releaseContradicted tokenId chainAssetHash claims
      | .conflict => throw (alreadyBound tokenId claim)
      | .release => do
          let _ : List String ←
            attempt (call (releaseOp tokenId claim)) fun _ => couldNotRelease tokenId
          releaseContradicted tokenId chainAssetHash claims

def releaseContradictedClaims (tokenId : Nat) (chainAssetHash : Bytes32) (keepAssetId : String) :
    AssetRoute Unit := do
  let claims ← readClaims tokenId keepAssetId
  releaseContradicted rt tokenId chainAssetHash claims

/-- Binds a draft, with a stamp or without. -/
abbrev bindOp (assetId : String) (body : ConfirmBody) (stamp : Option AssetDeployment) : AssetOp :=
  .update { id := assetId, tokenId := some none }
    { binding := some (some body.tokenId, some body.txHash), stamp }

def bindFailed (body : ConfirmBody) (error : DbError) : ApiError :=
  if isUniqueViolation error then
    .conflict ("Token #" ++ body.tokenId.repr ++ " is already recorded against another asset, so " ++
      "this record was left unbound. Run \"npm run repair:assets\" to reconcile the store with " ++
      String.ofList (addressText rt.deployment.contractAddress) ++ ".")
  else ⟨500, "Could not bind token #" ++ body.tokenId.repr, none⟩

def noLongerDraft (body : ConfirmBody) : ApiError :=
  .conflict ("Token #" ++ body.tokenId.repr ++ " was not bound: this record stopped being a draft " ++
    "while the mint was confirming.")

/-- Without the deployment where the database has no columns for it. -/
def tryBind (assetId : String) (body : ConfirmBody) : AssetRoute (Except DbError (List String)) := do
  let stamped : Except DbError (List String) ← ask (bindOp assetId body (some rt.deployment))
  match stamped with
  | .ok ids => return .ok ids
  | .error error =>
      if isUnknownColumn error then ask (bindOp assetId body none) else return .error error

/-- Writes the binding, stamped with the deployment it belongs to. -/
def bindToken (assetId : String) (body : ConfirmBody) : AssetRoute Unit := do
  match ← tryBind rt assetId body with
  | .error error => throw (bindFailed rt body error)
  | .ok ids => refuseIf ids.isEmpty (noLongerDraft body)

def couldNotLoadDraft : ApiError := ⟨500, "Could not load asset draft", none⟩

/-- The draft, if it is one and the caller may mint. -/
def loadDraft (session : SessionData) (assetId : String) : AssetRoute DraftRow := do
  let found ← attempt (call (AssetOp.selectDraft assetId)) fun _ => couldNotLoadDraft
  let draft ← require found (.notFound "Asset draft not found")
  match draft.tokenId with
  | some tokenId =>
      throw (.badRequest ("This asset is already bound to token #" ++ (toNumber tokenId).repr))
  | none => do
      let _ ← onServer (authorize session draft.orgId.1 .mintAssets)
      return draft

/-- The token, if the chain agrees with the draft. -/
def verifyOnChain (draft : DraftRow) (tokenId : Nat) : AssetRoute AssetState := do
  let found ← attempt (call (AssetOp.server (.readAsset tokenId))) fun _ => .internal
  let chainAsset ← require found
    (.badRequest ("Token #" ++ tokenId.repr ++ " does not exist on-chain yet"))
  refuseIf (decide (chainAsset.orgId ≠ draft.orgId.1))
    (.badRequest "That token belongs to a different organization")
  refuseIf (!sameHex (hex chainAsset.assetHash) draft.assetHash)
    (.badRequest "On-chain asset hash does not match this draft — refusing to bind")
  return chainAsset

/-- `POST /api/assets/<assetId>/confirm`. A body that does not have the right fields is `none`. -/
def confirm (session : SessionData) (assetId : String) (body : Option ConfirmBody) :
    AssetRoute ConfirmReply := do
  let body ← require (body.filter ConfirmBody.accepted) validationFailed
  let draft ← loadDraft session assetId
  let chainAsset ← verifyOnChain draft body.tokenId
  releaseContradictedClaims rt body.tokenId chainAsset.assetHash assetId
  bindToken rt assetId body
  return {
    assetId
    tokenId := body.tokenId
    txHash := body.txHash
    owner := chainAsset.owner
    assignedTo := chainAsset.assignedTo
    assetHash := hex chainAsset.assetHash }

end Confirm

/-! ## `POST /api/assets` -/

inductive AssetType where
  | laptop | certificate | softwareLicense | equipment | vehicle | document | other
deriving DecidableEq

def AssetType.text : AssetType → String
  | laptop => "Laptop"
  | certificate => "Certificate"
  | softwareLicense => "Software License"
  | equipment => "Equipment"
  | vehicle => "Vehicle"
  | document => "Document"
  | other => "Other"

structure DraftBody where
  orgId : Nat
  name : Str
  assetType : AssetType
  description : Option Str
  department : Option Str
  imageUrl : Option Str
  serialNumber : Option Str
  invoiceReference : Option Str

/-- `z.string().min(low).max(high)` -/
def unitsBetween (low high : Nat) (s : Str) : Bool :=
  decide (low ≤ s.units.length) && decide (s.units.length ≤ high)

/-- What `draftSchema` asks for. -/
def DraftBody.accepted (parse : Text → Option Url) (body : DraftBody) : Bool :=
  decide (0 < body.orgId) && unitsBetween 2 120 body.name &&
    body.description.all (unitsBetween 0 1000) && body.department.all (unitsBetween 0 80) &&
    body.imageUrl.all (fun url => (parse url.toWellFormed.toList).isSome) &&
    body.serialNumber.all (unitsBetween 0 120) && body.invoiceReference.all (unitsBetween 0 120)

/-- The confidential record of a body. -/
def DraftBody.record (body : DraftBody) : Preimage.AssetRecord where
  orgId := .ofNat body.orgId
  name := body.name
  assetType := .ofString body.assetType.text
  serialNumber := body.serialNumber
  invoiceReference := body.invoiceReference
  department := body.department

/-- What a column of type `text` holds of a string: all of it, and neither lone surrogates nor
    `U+0000`. -/
def storedText (s : Str) : Option String :=
  if s.isWellFormed && !s.toWellFormed.toList.contains '\x00' then some s.toWellFormed else none

def storedOptional : Option Str → Option (Option String)
  | none => some none
  | some s => (storedText s).map some

/-- The columns of a draft, unless one of them cannot be stored. -/
def DraftBody.columns (body : DraftBody) (orgId : SafeInt)
    (serialEncrypted invoiceEncrypted : Option String) (assetHash : String) (createdBy : Address) :
    Option AssetDraft := do
  let name ← storedText body.name
  let description ← storedOptional body.description
  let department ← storedOptional body.department
  let imageUrl ← storedOptional body.imageUrl
  return {
    orgId, name, description, department, imageUrl, serialEncrypted, invoiceEncrypted, assetHash
    assetType := body.assetType.text
    metadataUri := "pending"
    createdBy }

structure DraftReply where
  assetId : String
  assetHash : String
  metadataUri : String
deriving DecidableEq

section Routes

variable [Str.CaseMapping] (rt : AssetRuntime)

def couldNotCreate (message : String) : ApiError :=
  ⟨500, "Could not create asset draft: " ++ message, none⟩

/-- Without the deployment where the database has no columns for it. -/
def tryInsert (draft : AssetDraft) : AssetRoute (Except DbError String) := do
  let stamped : Except DbError String ← ask (AssetOp.insert draft (some rt.deployment))
  match stamped with
  | .ok id => return .ok id
  | .error error =>
      if isUnknownColumn error then ask (AssetOp.insert draft none) else return .error error

/-- The record of a draft, with its encrypted columns. -/
def prepareDraft (body : DraftBody) (caller : Caller) : AssetRoute AssetDraft := do
  let serialEncrypted ← onServer (encryptPII rt.cipher body.serialNumber)
  let invoiceEncrypted ← onServer (encryptPII rt.cipher body.invoiceReference)
  if hsafe : body.orgId < 2 ^ 53 then
    require
      (body.columns ⟨body.orgId, hsafe⟩ serialEncrypted invoiceEncrypted
        ((Preimage.Record.asset body.record).hash rt.keccakUtf8) caller.wallet)
      (couldNotCreate "unsupported Unicode escape sequence")
  else throw .internal

/-- `POST /api/assets`. A body that does not have the right fields is `none`. -/
def createDraft (session : SessionData) (body : Option DraftBody) : AssetRoute DraftReply := do
  let body ← require (body.filter fun body => body.accepted rt.server.parse) validationFailed
  let caller ← onServer (authorize session body.orgId .mintAssets)
  let draft ← prepareDraft rt body caller
  match ← tryInsert rt draft with
  | .error error => throw (couldNotCreate (error.message.getD "unknown"))
  | .ok id => do
      let metadataUri := rt.appOrigin ++ "/api/metadata/" ++ id
      -- Whether this has worked is not looked at.
      let _ ← ask (AssetOp.update { id } { metadataUri := some metadataUri })
      return { assetId := id, assetHash := draft.assetHash, metadataUri }

/-! ## `GET /api/assets` -/

/-- What the list of assets is made of. -/
structure Listing where
  orgId : SafeInt
  caller : Caller
  rows : List AssetRow
  chainAssets : List (Option AssetState)

/-- The answer. -/
def Listing.response (listing : Listing) : AssetListing :=
  assetListing rt.decipher listing.rows listing.orgId listing.caller listing.chainAssets

/-- Rows that are stamped with another contract are left out. -/
def ofDeployment (contractAddress : Address) (rows : List AssetRow) : List AssetRow :=
  rows.filter fun row => row.contractAddress.all (· == contractAddress)

/-- An organization's rows, restricted to this deployment. -/
def readOrgRows (orgId : SafeInt) : AssetRoute (List AssetRow) := do
  let answer : Except DbError (List AssetRow) ← ask (AssetOp.selectOrgRows true orgId)
  match answer with
  | .ok rows => return ofDeployment rt.deployment.contractAddress rows
  | .error error =>
      if isUnknownColumn error then
        attempt (call (AssetOp.selectOrgRows false orgId)) fun _ =>
          ⟨500, "Could not load assets", none⟩
      else throw ⟨500, "Could not load assets", none⟩

/-- `GET /api/assets?orgId=..`, before it is answered. A parameter that is no natural number is
    `none`. -/
def listAssets (session : SessionData) (orgId : Option Nat) : AssetRoute Listing := do
  let orgId ← require (orgId.filter (0 < ·)) (.badRequest "orgId is required")
  let wallet ← onServer (ExceptT.lift (sessionWallet session))
  let caller ← onServer (requireMember serverReads wallet orgId)
  if hsafe : orgId < 2 ^ 53 then do
    let tokenIds ← onServer
      (attempt (onSafe orgId (call (ServerOp.readAssetsOfOrganization orgId))).run fun _ => .internal)
    let (rows, chainAssets) ←
      Async.both (readOrgRows rt ⟨orgId, hsafe⟩)
        (onServer (attempt (readAssets tokenIds).run fun _ => .internal))
    return { orgId := ⟨orgId, hsafe⟩, caller, rows, chainAssets }
  else throw .internal

end Routes

end OwneX
