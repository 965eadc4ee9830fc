import OwneX.Platform.ServerOps

set_option autoImplicit false

/-! # `lib/applications.ts`

The registry of applications as the routes see it. The error of a call that awaits the database is
the message of a `RegistryUnavailableError`. -/

namespace OwneX

open Js JsNumber Prog

def ASSIGNABLE_ROLES : List RoleName := [.admin, .manager, .auditor, .user]

def toRoles (value : List RoleName) : List RoleName :=
  ASSIGNABLE_ROLES.filter fun role => value.contains role

structure RegisteredApplication where
  orgId : SafeInt
  slug : String
  /-- Recomputed, never trusted from the row. -/
  appId : Bytes32
  storedAppId : Bytes32
  name : Text
  url : Text
  description : Option Text
  logoUrl : Option Text
  clientId : Option Text
  clientSecretHash : Option Text
  clientSecretUpdatedAt : Option TimeValue
  allowedRoles : List RoleName
  status : ApplicationStatus
  callbacks : List Text

def RegisteredApplication.subject (app : RegisteredApplication) : CallbackSubject where
  status := app.status
  callbacks := app.callbacks

inductive ResolveRejection where
  | UNKNOWN_CLIENT
  | ORG_MISMATCH
  | SECRET_NOT_GENERATED
  | callback (reason : CallbackRejection)
deriving DecidableEq

def explainResolveRejection : ResolveRejection → String
  | .UNKNOWN_CLIENT => "No application is registered with owneX for that client_id."
  | .ORG_MISMATCH =>
      "The org_id does not match the organization this application is registered to."
  | .SECRET_NOT_GENERATED =>
      "This application has no client secret yet, so it cannot exchange an authorization code."
  | .callback reason => explainRejection reason

/-- The values of a list once each, without white space around them and without empty ones. -/
def uniqueTrimmed (values : List Text) : List Text :=
  (KeyedList.insertAllNew id [] (values.map trimText)).filter (· ≠ [])

section Registry

variable (rt : ServerRuntime)

def toRecord (row : ApplicationRow) (callbacks : List Text) : RegisteredApplication where
  orgId := row.orgId
  slug := row.appSlug
  appId := rt.keccakId row.appSlug
  storedAppId := row.appId
  name := row.name
  url := row.url
  description := row.description
  logoUrl := row.logoUrl
  clientId := row.clientId
  clientSecretHash := row.clientSecretHash
  clientSecretUpdatedAt := row.clientSecretUpdatedAt
  allowedRoles := toRoles row.allowedRoles
  status := row.status
  callbacks

def readCallbacks (app : AppKey) : Await (List Text) :=
  attempt (call (ServerOp.selectCallbacks app)) fun error =>
    "Could not read callback URLs: " ++ error

/-- What both lookups make of the row they find. -/
def withCallbacks : Option ApplicationRow → Await (Option RegisteredApplication)
  | none => return none
  | some row => do
      let callbacks ← readCallbacks row.key
      return some (toRecord rt row callbacks)

def findApplicationByClientId (clientId : Text) : Await (Option RegisteredApplication) :=
  if trimText clientId = [] then return none
  else do
    let found ← attempt (call (ServerOp.selectByClientId (trimText clientId))) fun error =>
      "Could not read the application: " ++ error
    withCallbacks rt found

def findApplicationBySlug (app : AppKey) : Await (Option RegisteredApplication) := do
  let found ← attempt (call (ServerOp.selectByKey app)) fun error =>
    "Could not read the application: " ++ error
  withCallbacks rt found

/-- Delete, then insert. -/
def replaceCallbacks (app : AppKey) (callbacks : List Text) : Await Unit := do
  attempt (call (ServerOp.deleteCallbacks app)) fun error =>
    "Could not replace callback URLs: " ++ error
  if uniqueTrimmed callbacks = [] then return ()
  else
    attempt (call (ServerOp.insertCallbacks app (uniqueTrimmed callbacks))) fun error =>
      "Could not save callback URLs: " ++ error

/-- What `resolveAuthorizationRequest` makes of the application it finds: the application and the
    registered callback that matched, verbatim. -/
def resolveApplication (found : Option RegisteredApplication) (orgId : Nat) (redirectUri : Text)
    (requireSecret : Bool) : Except ResolveRejection (RegisteredApplication × Text) :=
  match found with
  | none => .error .UNKNOWN_CLIENT
  | some application =>
      if application.orgId.1 ≠ orgId then .error .ORG_MISMATCH
      else if application.status = .revoked then .error (.callback .APPLICATION_REVOKED)
      else if requireSecret && application.clientSecretHash.all (· = []) then
        .error .SECRET_NOT_GENERATED
      else
        match checkCallback rt.parse (some application.subject) (some redirectUri)
            rt.callbackMode with
        | .error reason => .error (.callback reason)
        | .ok (_, registered) => .ok (application, registered)

def resolveAuthorizationRequest (clientId : Text) (orgId : Nat) (redirectUri : Text)
    (requireSecret : Bool) : Await (Except ResolveRejection (RegisteredApplication × Text)) := do
  let application ← findApplicationByClientId rt clientId
  return resolveApplication rt application orgId redirectUri requireSecret

end Registry

theorem bind_clientId_toRecord (rt : ServerRuntime) (found : Option ApplicationRow)
    (callbacks : List Text) :
    (found.map fun row => toRecord rt row callbacks).bind (·.clientId) =
      found.bind (·.clientId) := by
  cases found <;> rfl

theorem bind_clientSecretHash_toRecord (rt : ServerRuntime) (found : Option ApplicationRow)
    (callbacks : List Text) :
    (found.map fun row => toRecord rt row callbacks).bind (·.clientSecretHash) =
      found.bind (·.clientSecretHash) := by
  cases found <;> rfl

/-! ## What the calls have read -/

section Reads

variable {rt : ServerRuntime}

/-- An application that is found is the row that was selected, with the callbacks that were. -/
theorem returns_withCallbacks {found : Option ApplicationRow} {app : RegisteredApplication}
    {log : List ((op : ServerOp) × op.Res)}
    (h : Returns (withCallbacks rt found).run log (.ok (some app))) :
    ∃ row callbacks, found = some row ∧ app = toRecord rt row callbacks ∧
      log = [⟨.selectCallbacks row.key, .ok callbacks⟩] := by
  cases found with
  | none =>
      obtain ⟨-, hnone⟩ := returns_exceptT_pure.1 h
      cases hnone
  | some row =>
      obtain ⟨callbacks, front, back, hlog, hread, h⟩ := returns_attempt_bind.1 h
      obtain rfl := returns_call.1 hread
      obtain ⟨rfl, happ⟩ := returns_exceptT_pure.1 h
      exact ⟨row, callbacks, rfl, (Option.some.inj happ).symm, hlog⟩

/-- The application that is found by a client id has that id, less the white space around it. -/
theorem returns_findApplicationByClientId {clientId : Text} {app : RegisteredApplication}
    {log : List ((op : ServerOp) × op.Res)}
    (h : Returns (findApplicationByClientId rt clientId).run log (.ok (some app))) :
    ∃ row callbacks, app = toRecord rt row callbacks ∧
      log = [⟨.selectByClientId (trimText clientId), .ok (some row)⟩,
        ⟨.selectCallbacks row.key, .ok callbacks⟩] := by
  unfold findApplicationByClientId at h
  split at h
  · obtain ⟨-, hnone⟩ := returns_exceptT_pure.1 h
    cases hnone
  · obtain ⟨found, front, back, hlog, hread, h⟩ := returns_attempt_bind.1 h
    obtain rfl := returns_call.1 hread
    obtain ⟨row, callbacks, rfl, happ, rfl⟩ := returns_withCallbacks h
    exact ⟨row, callbacks, happ, hlog⟩

/-- What a lookup by slug selects first. What it finds is made of the row. -/
theorem returns_findApplicationBySlug {app : AppKey} {existing : Option RegisteredApplication}
    {log : List ((op : ServerOp) × op.Res)}
    (h : Returns (findApplicationBySlug rt app).run log (.ok existing)) :
    ∃ found back callbacks, log = ⟨.selectByKey app, .ok found⟩ :: back ∧
      Returns (withCallbacks rt found).run back (.ok existing) ∧
      existing = found.map fun row => toRecord rt row callbacks := by
  obtain ⟨found, front, back, hlog, hselect, h⟩ := returns_attempt_bind.1 h
  obtain rfl := returns_call.1 hselect
  cases existing with
  | some existing =>
      obtain ⟨row, callbacks, rfl, rfl, hback⟩ := returns_withCallbacks h
      exact ⟨some row, back, callbacks, hlog, h, rfl⟩
  | none =>
      refine ⟨found, back, [], hlog, h, ?_⟩
      cases found with
      | none => rfl
      | some row =>
          obtain ⟨callbacks, _, _, _, _, h⟩ := returns_attempt_bind.1 h
          obtain ⟨-, hnone⟩ := returns_exceptT_pure.1 h
          cases hnone

/-- What a replacement of callbacks has done. -/
theorem returns_replaceCallbacks {app : AppKey} {callbacks : List Text} {x : Except String Unit}
    {log : List ((op : ServerOp) × op.Res)}
    (h : Returns (replaceCallbacks app callbacks).run log x) :
    (∃ e, log = [⟨.deleteCallbacks app, .error e⟩] ∧ ∃ e', x = .error e') ∨
      (uniqueTrimmed callbacks = [] ∧ log = [⟨.deleteCallbacks app, .ok ()⟩] ∧ x = .ok ()) ∨
      ∃ r, uniqueTrimmed callbacks ≠ [] ∧
        log = [⟨.deleteCallbacks app, .ok ()⟩,
          ⟨.insertCallbacks app (uniqueTrimmed callbacks), r⟩] ∧
        ((∃ e e', r = .error e ∧ x = .error e') ∨ r = .ok () ∧ x = .ok ()) := by
  rcases returns_exceptT_bind_any.1 h with ⟨e, hdelete, rfl⟩ | ⟨u, front, back, rfl, hdelete, hrest⟩
  · obtain ⟨y, hy, herror⟩ := returns_attempt_any.1 hdelete
    obtain rfl := returns_call.1 hy
    cases y with
    | error e => exact .inl ⟨e, rfl, _, rfl⟩
    | ok u => cases herror
  · obtain rfl := returns_call.1 (returns_attempt.1 hdelete)
    split at hrest
    next hempty =>
        obtain ⟨rfl, rfl⟩ := returns_pure.1 hrest
        exact .inr (.inl ⟨hempty, rfl, rfl⟩)
    next hsome =>
        obtain ⟨r, hr, hx⟩ := returns_attempt_any.1 hrest
        obtain rfl := returns_call.1 hr
        refine .inr (.inr ⟨r, hsome, rfl, ?_⟩)
        cases r with
        | error e => exact .inl ⟨e, _, rfl, hx⟩
        | ok u => exact .inr ⟨rfl, hx⟩

/-- When a request is resolved. -/
theorem resolveApplication_ok {found : Option RegisteredApplication} {orgId : Nat}
    {redirectUri registered : Text} {requireSecret : Bool} {app : RegisteredApplication}
    (h : resolveApplication rt found orgId redirectUri requireSecret = .ok (app, registered)) :
    found = some app ∧ app.orgId.1 = orgId ∧ app.status ≠ .revoked ∧
      registered ∈ app.callbacks ∧ ∃ normalized,
        checkCallback rt.parse (some app.subject) (some redirectUri) rt.callbackMode =
          .ok (normalized, registered) := by
  unfold resolveApplication at h
  split at h
  · cases h
  next application =>
  split at h
  · cases h
  next horg =>
  split at h
  · cases h
  next hstatus =>
  split at h
  · cases h
  split at h
  · cases h
  next normalized registered' hcallback =>
      cases h
      exact ⟨rfl, not_ne_iff.1 horg, hstatus, (checkCallback_ok hcallback).2, normalized, hcallback⟩

end Reads

end OwneX
