import OwneX.Platform.AssetServer
import OwneX.Platform.Authorize
import OwneX.Platform.Directory

set_option autoImplicit false

/-! # `app/api/metadata`

The public ERC-721 metadata of an asset, under its token id or under the id of its draft. Of the row
only columns that may be shown are selected; the holder and the status are read from the chain. A
token id is resolved against the rows of this deployment. -/

namespace OwneX

open Js JsNumber Prog

/-! ## Operations -/

/-- What the metadata shows of a row, but for its token. -/
structure Published where
  orgId : SafeInt
  name : String
  description : Option String
  assetType : String
  department : Option String
  imageUrl : Option String
  assetHash : String
deriving DecidableEq

/-- `FIELDS` -/
structure MetadataRow extends Published where
  id : String
  tokenId : Option Nat
deriving DecidableEq

inductive MetadataOp where
  | assets (op : AssetOp)
  /-- `select(FIELDS).eq("id", ..).maybeSingle()` -/
  | selectById (id : String)
  /-- `eq("token_id", ..)`, for one deployment and with its stamped rows first, `limit(1)`. -/
  | selectScoped (tokenId : Nat) (contractAddress : Address)
  /-- `eq("token_id", ..).limit(1)` -/
  | selectLegacy (tokenId : Nat)
  | selectOrganizationName (orgId : Nat)

abbrev MetadataOp.Res : MetadataOp → Type
  | assets op => op.Res
  | selectById _ => Except DbError (Option MetadataRow)
  | selectScoped .. => Except DbError (Option MetadataRow)
  | selectLegacy _ => Except DbError (Option MetadataRow)
  | selectOrganizationName _ => Except DbError (Option String)

abbrev MetadataRoute (α : Type) := ExceptT ApiError (Prog MetadataOp MetadataOp.Res) α

/-! ## `GET /api/metadata/<ref>` -/

/-- `/^[0-9a-f]{8}-[0-9a-f]{4}-[0-9a-f]{4}-[0-9a-f]{4}-[0-9a-f]{12}$/i` -/
def isUuid (ref : Text) : Bool :=
  (ref.splitOn '-').map (·.length) == [8, 4, 4, 4, 12] &&
    ref.all fun c => c == '-' || isDigit 16 c

/-- A uuid as the database writes it. -/
def draftId (ref : Text) : String :=
  String.ofList (lowerAscii ref)

inductive AttributeValue where
  | text (value : String)
  | number (value : Nat)
deriving DecidableEq

structure Attribute where
  traitType : String
  value : AttributeValue
deriving DecidableEq

structure AssetMetadata where
  name : String
  description : String
  image : Option String
  externalUrl : Option String
  attributes : List Attribute
  assetHash : String
  tokenId : Option Nat
  orgId : Nat
  holder : Option Address
  active : Option Bool
deriving DecidableEq

/-- An attribute for a text that is there and not empty. -/
def textAttribute (traitType : String) (value : Option String) : List Attribute :=
  ((value.filter (· ≠ "")).map fun value => ⟨traitType, .text value⟩).toList

def chainAttributes : Option AssetState → List Attribute
  | none => []
  | some chain =>
      [⟨"Status", .text (if chain.active then "Active" else "Revoked")⟩,
        ⟨"Transfers", .number chain.transferCount⟩]

def metadataOf (row : MetadataRow) (chain : Option AssetState) (organization : Option String) :
    AssetMetadata where
  name := row.name
  description := row.description.getD
    (row.assetType ++ " issued by " ++ organization.getD "an organization" ++ " on OwneX.")
  image := row.imageUrl
  externalUrl := row.tokenId.map fun tokenId => "/asset/" ++ (toNumber tokenId).repr
  attributes := ⟨"Asset Type", .text row.assetType⟩ :: textAttribute "Department" row.department ++
    textAttribute "Organization" organization ++ chainAttributes chain
  assetHash := row.assetHash
  tokenId := row.tokenId.map toNumber
  orgId := row.orgId.1
  holder := chain.map (·.owner)
  active := chain.map (·.active)

section Routes

variable (rt : AssetRuntime)

/-- Without the deployment where the database has no column for it. -/
def readRowByToken (tokenId : Nat) : MetadataRoute (Option MetadataRow) := do
  let answer : Except DbError (Option MetadataRow) ←
    ask (MetadataOp.selectScoped tokenId rt.deployment.contractAddress)
  match answer with
  | .ok row => return row
  | .error error =>
      if isUnknownColumn error then do
        let legacy : Except DbError (Option MetadataRow) ← ask (MetadataOp.selectLegacy tokenId)
        return legacy.toOption.join
      else return none

def readMetadataRow (ref : Text) : MetadataRoute (Option MetadataRow) :=
  if isUuid ref then do
    let row : Except DbError (Option MetadataRow) ← ask (MetadataOp.selectById (draftId ref))
    return row.toOption.join
  else do
    let tokenId ← require (positiveInt ref)
      (.badRequest "Reference must be a token id or a draft id")
    readRowByToken rt tokenId

/-- The token, if there is one and it can be read. -/
def readToken : Option Nat → MetadataRoute (Option AssetState)
  | none => return none
  | some tokenId =>
      if tokenId < 2 ^ 53 then do
        let chain : Except String (Option AssetState) ←
          ask (MetadataOp.assets (.server (.readAsset tokenId)))
        return chain.toOption.join
      else return none

/-- `GET /api/metadata/<ref>` -/
def getMetadata (ref : Text) : MetadataRoute AssetMetadata := do
  let found ← readMetadataRow rt ref
  let row ← require found (.notFound "No metadata for that asset")
  let chain ← readToken row.tokenId
  let organization : Except DbError (Option String) ←
    ask (MetadataOp.selectOrganizationName row.orgId.1)
  return metadataOf row chain organization.toOption.join

end Routes

end OwneX
