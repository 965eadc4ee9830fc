import OwneX.Platform.AssetRoutes

set_option autoImplicit false

/-! # `PUT /api/profile`

The caller's own profile is saved, with the electronic mail address and the telephone number encrypted,
and its hash is what the caller is to anchor. -/

namespace OwneX

open Js Prog

/-! ## Operations -/

inductive ProfileOp where
  | server (op : ServerOp)
  /-- `upsert(.., { onConflict: "wallet_address" })` -/
  | upsert (wallet : Address) (row : ProfileRow)

abbrev ProfileOp.Res : ProfileOp → Type
  | server op => op.Res
  | upsert .. => Except DbError Unit

abbrev ProfileRoute (α : Type) := ExceptT ApiError (Prog ProfileOp ProfileOp.Res) α

/-- What needs nothing of the table `profiles`. -/
def besideProfiles {α : Type} (p : Route α) : ProfileRoute α :=
  ExceptT.mk (p.run.embed ProfileOp.server fun _ r => r)

/-! ## The body -/

/-- `[A-Z0-9_'+\-\.]`, in either case. -/
def isEmailChar (c : Char) : Bool :=
  c.isAlphanum || ['_', '\'', '+', '-', '.'].contains c

/-- `[A-Z0-9][A-Z0-9\-]*`, in either case. -/
def isDomainLabel (label : Text) : Bool :=
  label.head?.any Char.isAlphanum && label.all fun c => c.isAlphanum || c == '-'

/-- `[A-Z]{2,}`, in either case. -/
def isTopLevel (label : Text) : Bool :=
  decide (2 ≤ label.length) && label.all Char.isAlpha

def hasTwoDots : Text → Bool
  | '.' :: '.' :: _ => true
  | _ :: cs => hasTwoDots cs
  | [] => false

/-- `/^(?!\.)(?!.*\.\.)([A-Z0-9_'+\-\.]*)[A-Z0-9_+-]@([A-Z0-9][A-Z0-9\-]*\.)+[A-Z]{2,}$/i` -/
def isEmail (s : Text) : Bool :=
  match s.splitOn '@' with
  | [user, domain] =>
      let labels := domain.splitOn '.'
      !hasTwoDots s && user.head? != some '.' && user.all isEmailChar &&
        user.getLast?.any (fun c => c.isAlphanum || ['_', '+', '-'].contains c) &&
        decide (2 ≤ labels.length) && labels.dropLast.all isDomainLabel &&
        labels.getLast?.any isTopLevel
  | _ => false

structure ProfileBody where
  displayName : Str
  jobTitle : Option Str
  department : Option Str
  email : Option Str
  phone : Option Str
  avatarUrl : Option Str

/-- What `profileSchema` asks for. -/
def ProfileBody.accepted (parse : Text → Option Url) (body : ProfileBody) : Bool :=
  unitsBetween 2 80 body.displayName && body.jobTitle.all (unitsBetween 0 80) &&
    body.department.all (unitsBetween 0 80) &&
    body.email.all (fun email => isEmail email.toWellFormed.toList) &&
    body.phone.all (unitsBetween 0 30) &&
    body.avatarUrl.all fun url => (parse url.toWellFormed.toList).isSome

/-- The confidential record of a body. -/
def ProfileBody.record (body : ProfileBody) : Preimage.IdentityRecord where
  displayName := body.displayName
  email := body.email
  phone := body.phone
  jobTitle := body.jobTitle
  department := body.department

/-- The columns of a profile, unless one of them cannot be stored. -/
def ProfileBody.columns (body : ProfileBody) (emailEncrypted phoneEncrypted : Option String)
    (identityHash : String) : Option ProfileRow := do
  let displayName ← storedText body.displayName
  let jobTitle ← storedOptional body.jobTitle
  let department ← storedOptional body.department
  let avatarUrl ← storedOptional body.avatarUrl
  return {
    displayName, jobTitle, department, avatarUrl, emailEncrypted, phoneEncrypted
    identityHash := some identityHash }

/-! ## The route -/

/-- What the caller is to sign next. -/
inductive IdentityCall where
  | registerIdentity (hash : String)
  | updateIdentityHash (hash : String)
deriving DecidableEq

structure ProfileReply where
  wallet : Address
  identityHash : String
  anchored : Bool
  nextStep : Option IdentityCall
  note : String
deriving DecidableEq

def couldNotSave (message : String) : ApiError :=
  ⟨500, "Could not save profile: " ++ message, none⟩

section Route

variable [Str.CaseMapping] (rt : AssetRuntime)

def ProfileReply.of (wallet : Address) (identityHash : String) (identity : IdentityState) :
    ProfileReply :=
  let anchored := identity.identityHash.any fun anchor => sameHex (hex anchor) identityHash
  { wallet
    identityHash
    anchored
    nextStep :=
      if anchored then none
      else if identity.registered then some (.updateIdentityHash identityHash)
      else some (.registerIdentity identityHash)
    note :=
      if anchored then "Profile saved and matches the on-chain anchor."
      else "Profile saved. Sign the returned call to anchor it on-chain." }

/-- The row of a profile, with its encrypted columns. -/
def prepareProfile (body : ProfileBody) : ProfileRoute ProfileRow := do
  let emailEncrypted ← besideProfiles (encryptPII rt.cipher body.email)
  let phoneEncrypted ← besideProfiles (encryptPII rt.cipher body.phone)
  require
    (body.columns emailEncrypted phoneEncrypted
      ((Preimage.Record.identity body.record).hash rt.keccakUtf8))
    (couldNotSave "unsupported Unicode escape sequence")

/-- `PUT /api/profile`. A body that does not have the right fields is `none`. -/
def putProfile (session : SessionData) (body : Option ProfileBody) : ProfileRoute ProfileReply := do
  let sessionWallet ← besideProfiles (ExceptT.lift (sessionWallet session))
  let wallet ← requireCaller sessionWallet
  let body ← require (body.filter fun body => body.accepted rt.server.parse) validationFailed
  let row ← prepareProfile rt body
  let saved : Except DbError Unit ← ask (ProfileOp.upsert wallet row)
  match saved with
  | .error error => throw (couldNotSave (error.message.getD "unknown"))
  | .ok () => do
      let identity ← attempt (call (ProfileOp.server (.readIdentity wallet))) fun _ => .internal
      return .of wallet ((Preimage.Record.identity body.record).hash rt.keccakUtf8) identity

end Route

end OwneX
