import OwneX.Platform.Applications

set_option autoImplicit false

/-! # `app/api/applications`

The routes by which an administrator registers an application, changes it and rotates its secret. A
body arrives here as its schema has parsed it; the values that a reply repeats for the administrator's
transactions and configuration are left out. -/

namespace OwneX

open Js JsNumber Prog

/-- `status: z.enum(["active", "revoked"])` -/
abbrev SettableStatus := { status : ApplicationStatus // status ≠ .draft }

structure RegistrationBody where
  orgId : Nat
  slug : Slug
  name : Text
  url : Text
  description : Option Text
  logoUrl : Option Text
  callbackUrls : List Text
  allowedRoles : List RoleName

def RegistrationBody.app (body : RegistrationBody) : AppKey :=
  (body.orgId, body.slug.1)

structure PatchBody where
  orgId : Nat
  name : Option Text
  url : Option Text
  description : Option (Option Text)
  logoUrl : Option (Option Text)
  callbackUrls : Option (List Text)
  allowedRoles : Option (List RoleName)
  status : Option SettableStatus

/-- The columns of the table that the body sets. -/
def PatchBody.patch (body : PatchBody) : ApplicationPatch where
  name := body.name
  url := body.url
  description := body.description
  logoUrl := body.logoUrl
  allowedRoles := body.allowedRoles
  status := body.status.map (·.1)

structure RegistrationReply where
  slug : String
  appId : Bytes32
  clientId : Text
  /-- Present exactly once, at issue time. -/
  clientSecret : Option Text
  callbackUrls : List Text
  allowedRoles : List RoleName

structure PatchReply where
  slug : String
  orgId : Nat
  status : ApplicationStatus
  callbackUrls : List Text
  allowedRoles : List RoleName
  note : Option String

structure SecretReply where
  slug : String
  orgId : Nat
  clientId : Text
  clientSecret : Text
  rotatedAt : Text

/-- The registry cannot be consulted. -/
def registryUnavailable : ApiError :=
  ⟨503, "The application registry is unavailable", some "REGISTRY_UNAVAILABLE"⟩

def callbackInvalid (problems : List String) : ApiError :=
  ⟨400, "Callback URL rejected — " ++ " | ".intercalate problems, some "CALLBACK_INVALID"⟩

def callbackSaveFailed (message : String) : ApiError :=
  ⟨500, message, some "CALLBACK_SAVE_FAILED"⟩

/-- A secret that has just been made, with the digest to store and the date of it. -/
structure NewSecret where
  clientSecret : Text
  hash : Text
  updatedAt : TimeValue

section Routes

variable (rt : ServerRuntime)

/-- The stored client id, or a new one. -/
def clientIdOr (existing : Option Text) : Route Text :=
  match existing with
  | some clientId => return clientId
  | none => do
      let bytes : List UInt8 ← ask (ServerOp.randomBytes 16)
      return generateClientId bytes

/-- `generateClientSecret()`, `hashClientSecret(..)` and `new Date()`. -/
def newSecret : Route NewSecret := do
  let bytes : List UInt8 ← ask (ServerOp.randomBytes 32)
  let salt : List UInt8 ← ask (ServerOp.randomBytes 16)
  let hash ← require (hashClientSecret rt.crypto (generateClientSecret bytes) salt) .internal
  let updatedAt : TimeValue ← ask ServerOp.now
  return { clientSecret := generateClientSecret bytes, hash, updatedAt }

def newSecretIf (issue : Bool) : Route (Option NewSecret) :=
  if issue then some <$> newSecret rt else return none

/-- The row that a registration writes, after `existing` has been read. -/
def registrationColumns (body : RegistrationBody) (existing : Option RegisteredApplication)
    (clientId : Text) (secret : Option NewSecret) : ApplicationColumns where
  orgId := body.orgId
  appSlug := body.slug.1
  appId := rt.keccakId body.slug.1
  name := body.name
  url := body.url
  description := body.description
  logoUrl := body.logoUrl
  clientId
  secret := secret.map fun secret => (secret.hash, secret.updatedAt)
  allowedRoles := body.allowedRoles
  -- Re-registering a revoked application does not quietly un-revoke it.
  status := if existing.map (·.status) = some .revoked then .revoked else .active

/-- `POST /api/applications` -/
def registerApplication (session : SessionData) (body : RegistrationBody) :
    Route RegistrationReply := do
  let _ ← authorize session body.orgId .manageApps
  let problems := validateCallbackList rt.parse body.callbackUrls rt.callbackMode
  refuseIf (!problems.isEmpty) (callbackInvalid problems)
  let existing ← attempt (findApplicationBySlug rt body.app).run fun _ => registryUnavailable
  -- Credentials are issued once.
  let clientId ← clientIdOr (existing.bind (·.clientId))
  let secret ← newSecretIf rt ((existing.bind (·.clientSecretHash)).all (· = []))
  attempt (call (ServerOp.upsertApplication (registrationColumns rt body existing clientId secret)))
    fun error => ⟨500, "Could not save the application: " ++ error, none⟩
  attempt (replaceCallbacks body.app body.callbackUrls).run callbackSaveFailed
  return { slug := body.slug.1, appId := rt.keccakId body.slug.1, clientId,
           clientSecret := secret.map (·.clientSecret), callbackUrls := body.callbackUrls,
           allowedRoles := body.allowedRoles }

/-- `update` of the columns that are set, if any is. -/
def updateIf (app : AppKey) (patch : ApplicationPatch) : Route Unit :=
  if patch.isEmpty then return ()
  else
    attempt (call (ServerOp.updateApplication app patch)) fun error =>
      ⟨500, "Could not update the application: " ++ error, none⟩

def replaceCallbacksIf (app : AppKey) : Option (List Text) → Route Unit
  | none => return ()
  | some callbackUrls => attempt (replaceCallbacks app callbackUrls).run callbackSaveFailed

/-- `PATCH /api/applications/<slug>` -/
def patchApplication (session : SessionData) (slug : Slug) (body : PatchBody) :
    Route PatchReply := do
  let _ ← authorize session body.orgId .manageApps
  let found ← attempt (findApplicationBySlug rt (body.orgId, slug.1)).run fun _ =>
    registryUnavailable
  let existing ← require found (.notFound "No such application in this organization")
  let problems := validateCallbackList rt.parse (body.callbackUrls.getD []) rt.callbackMode
  refuseIf (!problems.isEmpty) (callbackInvalid problems)
  updateIf (body.orgId, slug.1) body.patch
  replaceCallbacksIf (body.orgId, slug.1) body.callbackUrls
  let updated ← attempt (findApplicationBySlug rt (body.orgId, slug.1)).run fun _ => .internal
  let shown := updated.getD existing
  return { slug := slug.1, orgId := body.orgId, status := shown.status,
           callbackUrls := shown.callbacks, allowedRoles := shown.allowedRoles,
           note :=
             if body.status.map (·.1) = some .revoked then
               some ("Sign-in through this integration is refused from now on. " ++
                 "Audit history is untouched.")
             else none }

/-- `POST /api/applications/<slug>/secret` -/
def rotateSecret (session : SessionData) (slug : Slug) (orgId : Nat) : Route SecretReply := do
  let _ ← authorize session orgId .manageApps
  let found ← attempt (findApplicationBySlug rt (orgId, slug.1)).run fun _ => registryUnavailable
  let existing ← require found (.notFound "No such application in this organization")
  let clientId ← clientIdOr existing.clientId
  let secret ← newSecret rt
  attempt
    (call (ServerOp.updateApplication (orgId, slug.1)
      { credentials := some ⟨clientId, secret.hash, secret.updatedAt⟩ }))
    fun error => ⟨500, "Could not rotate the secret: " ++ error, none⟩
  let rotatedAt : TimeValue ← ask ServerOp.now
  return { slug := slug.1, orgId, clientId, clientSecret := secret.clientSecret,
           rotatedAt := toISOString rotatedAt }

end Routes

end OwneX
