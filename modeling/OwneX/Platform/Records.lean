import OwneX.Platform.Authz
import OwneX.Platform.Hash

set_option autoImplicit false

/-! # Confidential records

The rows of `assets` and `profiles`, their encrypted columns (`lib/crypto.ts`), and the two endpoints
that set them beside the chain: `GET /api/assets` and `GET /api/identity/me`. Both report whether a
record is intact. -/

namespace OwneX

open JsNumber

/-! ## `lib/crypto.ts` -/

/-- `v1.<iv>.<authTag>.<ciphertext>`; `decipher` is AES-256-GCM under the server's key, and has no
    answer for a text it cannot authenticate. -/
def decryptPII (decipher : String → String → String → Option String) (payload : Option String) :
    Option String :=
  match payload with
  | none => none
  | some payload =>
      match (payload.toList.splitOn '.').map String.ofList with
      | [version, iv, tag, data] => if version = "v1" then decipher iv tag data else none
      | _ => none

/-- Masked texts are given by their code units: the cut may fall inside a surrogate pair. -/
abbrev CodeUnits := List Nat

def bullets (n : Nat) : CodeUnits :=
  List.replicate n 8226

/-- All but the last four units hidden. -/
def maskTail (value : Option String) : Option CodeUnits :=
  match value.map Js.codeUnits with
  | none => none
  | some units =>
      if units = [] then none
      else if units.length ≤ 4 then some (bullets units.length)
      else some (bullets (units.length - 4) ++ units.drop (units.length - 4))

def maskEmail (email : Option String) : Option CodeUnits :=
  match email with
  | none => none
  | some email =>
      if email = "" then none
      else
        match (email.toList.splitOn '@').map String.ofList with
        | local_ :: domain :: _ =>
            if domain = "" then some (bullets 3)
            else
              let units := Js.codeUnits local_
              some (units.take 2 ++ bullets (max 3 (units.length - 2)) ++ Js.codeUnits "@" ++
                Js.codeUnits domain)
        | _ => some (bullets 3)

/-! ## Assets -/

structure AssetRow where
  id : String
  tokenId : Option Nat
  orgId : SafeInt
  name : String
  description : Option String
  assetType : String
  department : Option String
  imageUrl : Option String
  assetHash : String
  metadataUri : Option String
  serialEncrypted : Option String
  invoiceEncrypted : Option String
  createdAt : String
  /-- The deployment the row was stamped with, in lower case. -/
  contractAddress : Option Address
deriving DecidableEq

/-- The confidential record a row holds. -/
def AssetRow.record (decipher : String → String → String → Option String) (row : AssetRow) :
    AssetRecord where
  orgId := row.orgId
  name := row.name
  assetType := row.assetType
  serialNumber := decryptPII decipher row.serialEncrypted
  invoiceReference := decryptPII decipher row.invoiceEncrypted
  department := row.department

/-- The table `assets`; `migrated` tells whether it has the columns of migration 0002. -/
structure AssetTable where
  rows : List AssetRow
  migrated : Bool

/-- An organization's rows, restricted to this deployment. Rows with no stamp are kept. -/
def AssetTable.readOrgRows (table : AssetTable) (contractAddress : Address) (orgId : SafeInt) :
    List AssetRow :=
  let rows := table.rows.filter fun row => row.orgId = orgId
  if table.migrated then
    rows.filter fun row =>
      match row.contractAddress with
      | none => true
      | some stamp => stamp == contractAddress
  else rows.map fun row => { row with contractAddress := none }

/-- The `Map` from token ids to rows, one row after the other. A stamped row beats an unstamped one
    that holds the same id. -/
def byToken (rows : List AssetRow) (tokenId : Nat) : Option AssetRow :=
  rows.foldl (fun held row =>
    if row.tokenId.map toNumber = some tokenId then
      match held with
      | none => some row
      | some prior =>
          if prior.contractAddress.isNone && row.contractAddress.isSome then some row else held
    else held) none

structure AssetItem where
  tokenId : Nat
  orgId : Nat
  owner : Address
  assignedTo : Address
  active : Bool
  mintedAt : Nat
  transferCount : Nat
  assetHash : String
  name : String
  description : Option String
  assetType : String
  department : Option String
  imageUrl : Option String
  metadataUri : Option String
  serialNumber : Option CodeUnits
  recordIntact : Option Bool
  hasOffChainRecord : Bool
deriving DecidableEq

structure PendingAsset where
  id : String
  name : String
  assetType : String
  assetHash : String
  metadataUri : Option String
  createdAt : String
deriving DecidableEq

structure AssetListing where
  orgId : Nat
  count : Nat
  assets : List AssetItem
  pending : List PendingAsset
deriving DecidableEq

section Endpoints

variable [Js.CaseMapping] (decipher : String → String → String → Option String)

/-- A token beside its row. -/
def assetItem (canSeeSerials : Bool) (chain : AssetState) (row : Option AssetRow) : AssetItem :=
  let serial := row.bind fun row => decryptPII decipher row.serialEncrypted
  { tokenId := chain.tokenId
    orgId := chain.orgId
    owner := chain.owner
    assignedTo := chain.assignedTo
    active := chain.active
    mintedAt := chain.mintedAt
    transferCount := chain.transferCount
    assetHash := hex chain.assetHash
    name := (row.map (·.name)).getD ("Asset #" ++ chain.tokenId.repr)
    description := row.bind (·.description)
    assetType := (row.map (·.assetType)).getD "Unknown"
    department := row.bind (·.department)
    imageUrl := row.bind (·.imageUrl)
    metadataUri := row.bind (·.metadataUri)
    serialNumber := if canSeeSerials then serial.map Js.codeUnits else maskTail serial
    recordIntact := row.map fun row =>
      Js.CaseMapping.toLowerCase row.assetHash == Js.CaseMapping.toLowerCase (hex chain.assetHash)
    hasOffChainRecord := row.isSome }

variable {σ : Type} [ERC721 σ] (ch : Chain σ) (dateNow : TimeValue)

def assetListing (rows : List AssetRow) (orgId : SafeInt) (caller : Caller)
    (chainAssets : List (Option AssetState)) : AssetListing :=
  let canSeeSerials := caller.role = .admin || caller.role = .manager
  let assets := (chainAssets.filterMap id).map fun chain =>
    assetItem decipher canSeeSerials chain (byToken rows chain.tokenId)
  { orgId := orgId.1
    count := assets.length
    assets
    pending := (rows.filter fun row => row.tokenId = none).map fun row =>
      { id := row.id, name := row.name, assetType := row.assetType, assetHash := row.assetHash,
        metadataUri := row.metadataUri, createdAt := row.createdAt } }

/-- A positive integer; `none` is a parameter that is missing or no integer. -/
def parseOrgId : Option SafeInt → Except ApiError SafeInt
  | none => throw (.badRequest "orgId is required")
  | some orgId => if orgId.1 = 0 then throw (.badRequest "orgId is required") else pure orgId

/-- `GET /api/assets?orgId=..`, with `contractAddress` the configured `AssetNFT`. -/
def getAssets (table : AssetTable) (contractAddress : Address) (sessionWallet : Option Address)
    (orgIdParam : Option SafeInt) : Except ApiError AssetListing := do
  let orgId ← parseOrgId orgIdParam
  let caller ← (requireMember (ch.reads dateNow) sessionWallet orgId.1).run
  let rows := table.readOrgRows contractAddress orgId
  let chainAssets ←
    ((ch.readAssetsOfOrganization orgId.1).mapM ch.readAsset).mapError fun _ => ApiError.internal
  return assetListing decipher rows orgId caller chainAssets

/-! ## The caller's own identity -/

structure ProfileRow where
  displayName : String
  jobTitle : Option String
  department : Option String
  avatarUrl : Option String
  emailEncrypted : Option String
  phoneEncrypted : Option String
  identityHash : Option String
deriving DecidableEq

/-- The record a profile holds. -/
def ProfileRow.record (row : ProfileRow) : IdentityRecord where
  displayName := row.displayName
  email := decryptPII decipher row.emailEncrypted
  phone := decryptPII decipher row.phoneEncrypted
  jobTitle := row.jobTitle
  department := row.department

structure IdentityView where
  registered : Bool
  active : Bool
  identityHash : Option String
  registeredAt : Option Nat
  recordIntact : Option Bool
deriving DecidableEq

structure ProfileView where
  displayName : String
  jobTitle : Option String
  department : Option String
  avatarUrl : Option String
  email : Option String
  emailMasked : Option CodeUnits
deriving DecidableEq

structure Me where
  wallet : Address
  identity : IdentityView
  profile : Option ProfileView
  activeOrgId : Option Nat
  memberships : List MembershipEntry
  permissions : Option (List (PermissionKey × Bool))
  assets : List Nat
deriving DecidableEq

/-- Does the off-chain record still match the on-chain anchor? An empty column counts as none. -/
def identityView (identity : IdentityState) (profile : Option ProfileRow) : IdentityView where
  registered := identity.registered
  active := identity.active
  identityHash := identity.identityHash.map hex
  registeredAt := identity.registeredAt
  recordIntact :=
    match identity.identityHash, profile.bind (·.identityHash) with
    | some anchor, some stored =>
        if stored = "" then none
        else some (Js.CaseMapping.toLowerCase (hex anchor) == Js.CaseMapping.toLowerCase stored)
    | _, _ => none

def profileView (row : ProfileRow) : ProfileView :=
  let email := decryptPII decipher row.emailEncrypted
  { displayName := row.displayName
    jobTitle := row.jobTitle
    department := row.department
    avatarUrl := row.avatarUrl
    email
    emailMasked := maskEmail email }

/-- `GET /api/identity/me`. `profiles` are the rows by wallet, and `heldAssets` is what
    `assetsOfHolder` answers; when that fails the list is empty. -/
def getMe (profiles : Address → Option ProfileRow) (heldAssets : Except String (List Nat))
    (sessionWallet : Option Address) (orgIdParam : Option Nat) : Except ApiError Me := do
  let wallet ← (requireCaller (m := Id) sessionWallet).run
  let memberships := ch.readMemberships wallet
  let activeOrgId :=
    match orgIdParam with
    | some orgId => some orgId
    | none => memberships.head?.map (·.orgId)
  let permissions := activeOrgId.bind fun orgId =>
    if memberships.any fun entry => entry.orgId == orgId then
      some (permissionList.map fun p => (p.1, ch.readHasPermission orgId wallet p.2))
    else none
  let profile := profiles wallet
  return {
    wallet
    identity := identityView (ch.readIdentity wallet) profile
    profile := profile.map (profileView decipher)
    activeOrgId
    memberships
    permissions
    assets := match heldAssets with
      | .ok ids => ids
      | .error _ => [] }

end Endpoints

end OwneX
