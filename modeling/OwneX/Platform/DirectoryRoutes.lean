import OwneX.Library.Batches
import OwneX.Platform.ProfileRoutes

set_option autoImplicit false

/-! # `app/api/members`, `app/api/organizations`, `app/api/profile` and `app/api/identity/me`

Who is who: the roster of an organization, the record that is kept of an organization, and the
caller's own profile and memberships. The tables are `organizations` and `profiles`; roles and
anchors are read from the chain. -/

namespace OwneX

open Js JsNumber Prog

/-! ## Operations -/

/-- A row of `organizations`, with the columns that the routes write. -/
structure OrganizationRow where
  orgId : SafeInt
  name : String
  industry : Option String
  website : Option String
  description : Option String
  metadataHash : Option String
deriving DecidableEq

/-- What the roster reads of a profile. -/
structure RosterProfile where
  wallet : Address
  displayName : String
  jobTitle : Option String
  department : Option String
deriving DecidableEq

/-- A row of `profiles`. -/
structure StoredProfile extends ProfileRow where
  wallet : Address
  createdAt : String
deriving DecidableEq

inductive DirectoryOp where
  | profile (op : ProfileOp)
  | getMembers (orgId : Nat)
  | organizationCount
  | assetsOfHolder (wallet : Address)
  /-- `from("profiles").select(..).in("wallet_address", ..)` -/
  | selectProfiles (wallets : List Address)
  /-- `from("profiles").select(..).eq("wallet_address", ..).maybeSingle()` -/
  | selectProfile (wallet : Address)
  /-- `from("organizations").select("name").eq("org_id", ..).maybeSingle()` -/
  | selectOrganizationName (orgId : Nat)
  /-- `from("organizations").upsert(.., { onConflict: "org_id" })` -/
  | upsertOrganization (row : OrganizationRow)

abbrev DirectoryOp.Res : DirectoryOp → Type
  | profile op => op.Res
  | getMembers _ => Except String (List Address)
  | organizationCount => Except String Nat
  | assetsOfHolder _ => Except String (List Nat)
  | selectProfiles _ => Except DbError (List RosterProfile)
  | selectProfile _ => Except DbError (Option StoredProfile)
  | selectOrganizationName _ => Except DbError (Option String)
  | upsertOrganization _ => Except DbError Unit

abbrev DirectoryRoute (α : Type) := ExceptT ApiError (Prog DirectoryOp DirectoryOp.Res) α

/-- What needs nothing of the two tables. -/
def inDirectory {α : Type} (p : Route α) : DirectoryRoute α :=
  ExceptT.mk (p.run.embed (fun op => .profile (.server op)) fun _ r => r)

/-- What needs nothing of the table `organizations`. -/
def besideOrganizations {α : Type} (p : ProfileRoute α) : DirectoryRoute α :=
  ExceptT.mk (p.run.embed DirectoryOp.profile fun _ r => r)

/-- A read of the chain, outside any `try`. -/
def readLive {α : Type} (read : Await α) : DirectoryRoute α :=
  inDirectory (orInternal read)

/-! ## Reads of the chain -/

/-- `getMembers(orgId)` -/
def getMembers (orgId : Nat) : DirectoryRoute (List Address) := do
  refuseIf (decide (2 ^ 53 ≤ orgId)) .internal
  attempt (call (DirectoryOp.getMembers orgId)) fun _ => .internal

/-- `readAssetsOfHolder(wallet).catch(() => [])` -/
def assetsOfHolder (wallet : Address) : DirectoryRoute (List Nat) := do
  let ids : Except String (List Nat) ← ask (DirectoryOp.assetsOfHolder wallet)
  match ids with
  | .ok ids => return ids.map toNumber
  | .error _ => return []

/-- One member, with the role that is stored and the role that applies. -/
def readOrgMember (orgId : Nat) (rootAdmin : Option Address) (wallet : Address) :
    DirectoryRoute OrgMemberState := do
  let read ← Async.both (readLive (serverReads.readMembership orgId wallet))
    (readLive (serverReads.readEffectiveRole orgId wallet))
  return {
    wallet
    role := read.2
    storedRole := read.1.role
    joinedAt := read.1.joinedAt
    expiresAt := read.1.expiresAt
    expired := read.1.expired
    isRootAdmin := rootAdmin == some wallet }

/-- The wallets of the enumeration, with the root admin in front unless it is listed. -/
def withRootAdmin (listed : List Address) : Option Address → List Address
  | none => listed
  | some rootAdmin => if listed.any (· == rootAdmin) then listed else rootAdmin :: listed

def readOrgMembers (orgId : Nat) : DirectoryRoute (List OrgMemberState) := do
  let read ← Async.both (getMembers orgId) (readLive (serverReads.readOrganization orgId))
  let rootAdmin := read.2.map (·.rootAdmin)
  allOf (readOrgMember orgId rootAdmin) (withRootAdmin read.1 rootAdmin)

/-- A membership of the wallet, if it holds a role right now. -/
def readMembershipEntry (wallet : Address) (orgId : Nat) :
    DirectoryRoute (Option MembershipEntry) := do
  let role ← readLive (serverReads.readEffectiveRole orgId wallet)
  if role = .none then return none
  else do
    let organization ← readLive (serverReads.readOrganization orgId)
    return some {
      orgId
      role
      active := (organization.map (·.active)).getD false
      isRootAdmin := organization.map (·.rootAdmin) == some wallet }

def readMembershipEntries (wallet : Address) : DirectoryRoute (List MembershipEntry) := do
  let total ← attempt (call DirectoryOp.organizationCount) fun _ => .internal
  let entries ← allOf (readMembershipEntry wallet) ((List.range (toNumber total)).map (· + 1))
  return entries.filterMap id

/-! ## `GET /api/members` -/

structure RosterIdentity where
  registered : Bool
  active : Bool
deriving DecidableEq

/-- What a roster shows of a profile. -/
structure ProfileSummary where
  displayName : String
  jobTitle : Option String
  department : Option String
deriving DecidableEq

structure RosterMember where
  member : OrgMemberState
  identity : RosterIdentity
  profile : Option ProfileSummary
  assetCount : Nat
deriving DecidableEq

structure RosterOrganisation where
  name : Option String
  rootAdmin : Address
  active : Bool
deriving DecidableEq

structure Roster where
  orgId : Nat
  organisation : Option RosterOrganisation
  count : Nat
  canSeeProfiles : Bool
  members : List RosterMember
deriving DecidableEq

/-- The profile that `byWallet` holds: the last row of the wallet. -/
def profileOf (profiles : List RosterProfile) (wallet : Address) : Option RosterProfile :=
  profiles.reverse.find? fun profile => profile.wallet == wallet

def RosterProfile.summary (profile : RosterProfile) : ProfileSummary where
  displayName := profile.displayName
  jobTitle := profile.jobTitle
  department := profile.department

/-- A member with what the roster adds. -/
def enrichMember (canSeeProfiles : Bool) (profiles : List RosterProfile) (member : OrgMemberState) :
    DirectoryRoute RosterMember := do
  let read ← Async.both (readLive (serverReads.readIdentity member.wallet))
    (assetsOfHolder member.wallet)
  return {
    member
    identity := { registered := read.1.registered, active := read.1.active }
    profile :=
      if canSeeProfiles then (profileOf profiles member.wallet).map RosterProfile.summary else none
    assetCount := read.2.length }

/-- Whether a role sees more of a member than a wallet and a role. -/
def seesProfiles (role : RoleName) : Bool :=
  role = .admin || role = .manager

/-- The caller, if it holds any role in the organization. -/
def memberOf (session : SessionData) (orgId : Nat) : Route Caller := do
  let wallet ← ExceptT.lift (sessionWallet session)
  requireMember serverReads wallet orgId

/-- What the roster is made of, once the caller is known. -/
def readRoster (orgId : Nat) (canSeeProfiles : Bool) : DirectoryRoute Roster := do
  let read ← Async.both (readOrgMembers orgId) (readLive (serverReads.readOrganization orgId))
  let stored : Except DbError (List RosterProfile) × Except DbError (Option String) ←
    Async.both (ask (DirectoryOp.selectProfiles (read.1.map (·.wallet))))
      (ask (DirectoryOp.selectOrganizationName orgId))
  -- A select that fails has no data.
  let profiles := stored.1.toOption.getD []
  let members ← allOf (enrichMember canSeeProfiles profiles) read.1
  return {
    orgId
    organisation := read.2.map fun organization =>
      { name := stored.2.toOption.join, rootAdmin := organization.rootAdmin,
        active := organization.active }
    count := members.length
    canSeeProfiles
    members }

/-- `GET /api/members?orgId=..`. A parameter that is no integer is `none`. -/
def getRoster (session : SessionData) (orgId : Option Nat) : DirectoryRoute Roster := do
  let orgId ← require (orgId.filter (0 < ·))
    (.badRequest "orgId is required and must be a positive integer")
  let caller ← inDirectory (memberOf session orgId)
  readRoster orgId (seesProfiles caller.role)

/-! ## `POST /api/organizations` and `POST /api/organizations/confirm` -/

structure OrganizationBody where
  name : Str
  industry : Option Str
  website : Option Str
  description : Option Str

/-- What `prepareSchema` asks for. -/
def OrganizationBody.accepted (parse : Text → Option Url) (body : OrganizationBody) : Bool :=
  unitsBetween 2 120 body.name && body.industry.all (unitsBetween 0 80) &&
    body.website.all (fun url => (parse url.toWellFormed.toList).isSome) &&
    body.description.all (unitsBetween 0 500)

/-- What is hashed: the description is not. -/
def OrganizationBody.record (body : OrganizationBody) : Preimage.OrganizationRecord where
  name := body.name
  industry := body.industry
  website := body.website

structure ConfirmOrganizationBody extends OrganizationBody where
  orgId : Nat
  txHash : String

/-- What `confirmSchema` asks for. -/
def ConfirmOrganizationBody.accepted (parse : Text → Option Url)
    (body : ConfirmOrganizationBody) : Bool :=
  decide (0 < body.orgId) && isTxHash body.txHash.toList && body.toOrganizationBody.accepted parse

/-- The columns of an organization, unless one of them cannot be stored. -/
def OrganizationBody.columns (body : OrganizationBody) (orgId : SafeInt) (metadataHash : String) :
    Option OrganizationRow := do
  let name ← storedText body.name
  let industry ← storedOptional body.industry
  let website ← storedOptional body.website
  let description ← storedOptional body.description
  return { orgId, name, industry, website, description, metadataHash := some metadataHash }

structure PreparedOrganization where
  metadataHash : String
  rootAdmin : Address
deriving DecidableEq

structure ConfirmedOrganization where
  orgId : Nat
  name : Str
  rootAdmin : Address
  metadataHash : String
  txHash : String
deriving DecidableEq

def organizationMissing (orgId : Nat) : ApiError :=
  .badRequest ("Organisation #" ++ orgId.repr ++ " does not exist on-chain")

def notRootAdmin : ApiError :=
  .forbidden "You are not the root admin of that organisation"

def notAnchored : ApiError :=
  .badRequest "The record does not re-hash to the anchor written on-chain — refusing to bind"

def couldNotSaveOrganization (message : String) : ApiError :=
  ⟨500, "Could not save the organisation: " ++ message, none⟩

/-- The caller's wallet, if its identity is live. -/
def activeWallet (session : SessionData) : Route Address := do
  let wallet ← ExceptT.lift (sessionWallet session)
  requireActiveIdentity serverReads wallet

section Routes

variable [Str.CaseMapping] (rt : AssetRuntime)

/-- The hash that anchors an organization. -/
def OrganizationBody.anchor (body : OrganizationBody) : String :=
  (Preimage.Record.organization body.record).hash rt.keccakUtf8

/-- `POST /api/organizations`. A body that does not have the right fields is `none`. -/
def prepareOrganization (session : SessionData) (body : Option OrganizationBody) :
    DirectoryRoute PreparedOrganization := do
  let wallet ← inDirectory (activeWallet session)
  let body ← require (body.filter fun body => body.accepted rt.server.parse) validationFailed
  return { metadataHash := body.anchor rt, rootAdmin := wallet }

/-- The organization, if the wallet is its root admin and the record is the one that is anchored. -/
def verifyOrganization (wallet : Address) (body : ConfirmOrganizationBody) :
    DirectoryRoute OrganizationState := do
  let found ← readLive (serverReads.readOrganization body.orgId)
  let organization ← require found (organizationMissing body.orgId)
  refuseIf (decide (organization.rootAdmin ≠ wallet)) notRootAdmin
  refuseIf (!sameHex (hex organization.metadataHash) (body.anchor rt)) notAnchored
  return organization

/-- The upsert of a record that has been verified. -/
def saveOrganization (body : ConfirmOrganizationBody) : DirectoryRoute Unit := do
  if hsafe : body.orgId < 2 ^ 53 then do
    let row ← require (body.columns ⟨body.orgId, hsafe⟩ (body.anchor rt))
      (couldNotSaveOrganization "unsupported Unicode escape sequence")
    attempt (call (DirectoryOp.upsertOrganization row)) fun error =>
      couldNotSaveOrganization (error.message.getD "unknown")
  else throw .internal

/-- `POST /api/organizations/confirm`. A body that does not have the right fields is `none`. -/
def confirmOrganization (session : SessionData) (body : Option ConfirmOrganizationBody) :
    DirectoryRoute ConfirmedOrganization := do
  let wallet ← inDirectory (activeWallet session)
  let body ← require (body.filter fun body => body.accepted rt.server.parse) validationFailed
  let organization ← verifyOrganization rt wallet body
  saveOrganization rt body
  return {
    orgId := body.orgId
    name := body.name
    rootAdmin := organization.rootAdmin
    metadataHash := body.anchor rt
    txHash := body.txHash }

end Routes

/-! ## `GET /api/profile` and `GET /api/identity/me` -/

structure OwnProfile where
  displayName : String
  jobTitle : Option String
  department : Option String
  email : Option String
  phone : Option String
  avatarUrl : Option String
  identityHash : Option String
  createdAt : String
deriving DecidableEq

structure OwnProfileReply where
  wallet : Address
  profile : Option OwnProfile
deriving DecidableEq

section Profile

variable (rt : AssetRuntime)

def ownProfile (row : StoredProfile) : OwnProfile where
  displayName := row.displayName
  jobTitle := row.jobTitle
  department := row.department
  email := decryptPII rt.decipher row.emailEncrypted
  phone := decryptPII rt.decipher row.phoneEncrypted
  avatarUrl := row.avatarUrl
  identityHash := row.identityHash
  createdAt := row.createdAt

/-- The caller's wallet. -/
def callerWallet (session : SessionData) : DirectoryRoute Address := do
  let wallet ← inDirectory (ExceptT.lift (sessionWallet session))
  requireCaller wallet

/-- The row of a wallet, if it has one and the select does not fail. -/
def selectProfile (wallet : Address) : DirectoryRoute (Option StoredProfile) := do
  let found : Except DbError (Option StoredProfile) ← ask (DirectoryOp.selectProfile wallet)
  return found.toOption.join

/-- `GET /api/profile` -/
def getProfile (session : SessionData) : DirectoryRoute OwnProfileReply := do
  let wallet ← callerWallet session
  let row ← selectProfile wallet
  return { wallet, profile := row.map (ownProfile rt) }

/-- What the caller may do in the organization, if it is one of its memberships. -/
def readPermissionsIn (wallet : Address) (memberships : List MembershipEntry) :
    Option Nat → DirectoryRoute (Option (List (PermissionKey × Bool)))
  | none => return none
  | some orgId =>
      if memberships.any fun entry => entry.orgId == orgId then do
        let permissions ← readLive (readPermissionsFor serverReads orgId wallet permissionList)
        return some permissions
      else return none

/-- `GET /api/identity/me`. A parameter that is no natural number is not modelled. -/
def identityMe [Js.CaseMapping] (session : SessionData) (orgIdParam : Option Nat) :
    DirectoryRoute Me := do
  let wallet ← callerWallet session
  let read ← Async.both (readLive (serverReads.readIdentity wallet))
    (Async.both (readMembershipEntries wallet) (assetsOfHolder wallet))
  let memberships := read.2.1
  let activeOrgId := orgIdParam.or (memberships.head?.map (·.orgId))
  let permissions ← readPermissionsIn wallet memberships activeOrgId
  let row ← selectProfile wallet
  return {
    wallet
    identity := identityView read.1 (row.map (·.toProfileRow))
    profile := row.map fun row => profileView rt.decipher row.toProfileRow
    activeOrgId
    memberships
    permissions
    assets := read.2.2 }

end Profile

end OwneX
