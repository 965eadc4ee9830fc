import OwneX.Library.UrlEncoded

set_option autoImplicit false

/-! # `lib/callback-allowlist.ts`

Which `redirect_uri` an application may be answered at, and the URL that the browser is sent back to.
The URL parser of the platform is a parameter, `parse`: `none` is a `TypeError`. Its host names are
in ASCII. -/

namespace OwneX

open Js

/-- `new URL(..)`, as far as it is looked at. -/
structure Url where
  /-- With the colon. -/
  protocol : Text
  username : Text
  password : Text
  hostname : Text
  /-- Empty for the default of the scheme. -/
  port : Text
  pathname : Text
  /-- With the question mark, unless it is empty. -/
  search : Text
  /-- With the number sign, unless it is empty. -/
  hash : Text
deriving DecidableEq

namespace Url

def host (url : Url) : Text :=
  if url.port = [] then url.hostname else url.hostname ++ ':' :: url.port

/-- `searchParams.set(name, value)` for each parameter in turn, when `search` is empty and the names
    differ. -/
def withParams (url : Url) (params : List (Text × Text)) : Url :=
  { url with search := if params = [] then [] else '?' :: serializeParams params }

/-- What the receiver of the URL reads. -/
def params? (url : Url) : Option (List (Text × Text)) :=
  parseParams (url.search.drop 1)

theorem params?_withParams (url : Url) (params : List (Text × Text)) :
    (url.withParams params).params? = some params := by
  unfold params? withParams
  split
  next hnil =>
      rw [hnil]
      rfl
  · exact parseParams_serializeParams params

end Url

inductive CallbackMode where
  | development
  | production
deriving DecidableEq

inductive CallbackRejection where
  | UNKNOWN_APP
  | APPLICATION_REVOKED
  | MISSING_URI
  | MALFORMED_URI
  | UNSUPPORTED_SCHEME
  | INSECURE_SCHEME
  | LOCALHOST_NOT_ALLOWED
  | NO_CALLBACK_REGISTERED
  | CALLBACK_NOT_REGISTERED
  | CALLBACK_HAS_PARAMETERS
  | CALLBACK_TOO_LONG
deriving DecidableEq

inductive ApplicationStatus where
  | draft
  | active
  | revoked
deriving DecidableEq

/-- The minimum an application must expose for a callback decision to be made. -/
structure CallbackSubject where
  status : ApplicationStatus
  callbacks : List Text

def MAX_CALLBACK_LENGTH : Nat := 2048

def LOOPBACK_HOSTS : List Text :=
  ["localhost", "127.0.0.1", "::1", "[::1]", "0.0.0.0"].map String.toList

/-- One to three digits. -/
def isShortNumber (s : Text) : Bool :=
  decide (1 ≤ s.length) && decide (s.length ≤ 3) && s.all (isDigit 10)

/-- `/^127\.\d{1,3}\.\d{1,3}\.\d{1,3}$/` -/
def isLoopbackNumber (host : Text) : Bool :=
  match host.splitOn '.' with
  | [a, b, c, d] => a == "127".toList && isShortNumber b && isShortNumber c && isShortNumber d
  | _ => false

def isLoopbackHost (hostname : Text) : Bool :=
  let host := lowerAscii hostname
  LOOPBACK_HOSTS.contains host || isLoopbackNumber host

/-- `replace(/\/+$/, "")` -/
def dropTrailingSlashes (pathname : Text) : Text :=
  (pathname.reverse.dropWhile (· == '/')).reverse

def isHttp (url : Url) : Bool :=
  url.protocol == "http:".toList || url.protocol == "https:".toList

/-- `/^[a-z][a-z0-9+.-]*:/i.test(uri.trim())` -/
def schemeRejection (uri : Text) : CallbackRejection :=
  let isSchemeChar := fun c : Char => c.isAlphanum || c == '+' || c == '.' || c == '-'
  let trimmed := trimText uri
  if trimmed.head?.any Char.isAlpha && (trimmed.dropWhile isSchemeChar).head? == some ':' then
    .UNSUPPORTED_SCHEME
  else .MALFORMED_URI

/-- Transport rules, shared between registration and use. -/
def checkTransport (url : Url) (mode : CallbackMode) : Option CallbackRejection :=
  if isLoopbackHost url.hostname then
    if mode = .production then some .LOCALHOST_NOT_ALLOWED else none
  else if url.protocol = "https:".toList then none
  else some .INSECURE_SCHEME

def explainRejection : CallbackRejection → String
  | .UNKNOWN_APP => "No application is registered with owneX for that client_id and organization."
  | .APPLICATION_REVOKED =>
      "This integration has been revoked by an organization administrator."
  | .MISSING_URI => "The request did not include a redirect_uri."
  | .MALFORMED_URI => "The redirect_uri is not an absolute URL."
  | .UNSUPPORTED_SCHEME => "The redirect_uri must use http or https."
  | .INSECURE_SCHEME => "Callbacks that are not on localhost must use https."
  | .LOCALHOST_NOT_ALLOWED => "A localhost callback is only accepted in local development."
  | .NO_CALLBACK_REGISTERED =>
      "This application has no callback URL registered yet. " ++
        "An administrator must add one on the Applications screen."
  | .CALLBACK_NOT_REGISTERED =>
      "That redirect_uri is not one of the callback URLs registered for this application."
  | .CALLBACK_HAS_PARAMETERS =>
      "A registered callback URL must not contain a query string or fragment."
  | .CALLBACK_TOO_LONG => "A callback URL must be at most 2048 characters."

section Parser

variable (parse : Text → Option Url)

/-- The URL without its query and fragment, and the form that is compared. -/
def canonicalizeCallback (uri : Text) : Option (Url × Text) :=
  match parse (trimText uri) with
  | none => none
  | some url =>
      if !isHttp url then none
      else
        let defaultPort := if url.protocol = "https:".toList then "443".toList else "80".toList
        let url : Url :=
          { url with port := if url.port = defaultPort then [] else url.port, search := [],
                     hash := [] }
        some (url, url.protocol ++ '/' :: '/' :: lowerAscii url.host ++
          dropTrailingSlashes url.pathname)

/-- The first registered callback whose compared form is the given one. -/
def findRegistered (normalized : Text) (registered : List Text) : Option Text :=
  registered.find? fun entry =>
    match canonicalizeCallback parse entry with
    | none => false
    | some pinned => pinned.2 == normalized

/-- Whether a URI may receive a code. The answer is its compared form and the registered callback
    that matched, verbatim. `none` for `uri` is anything but a string. -/
def checkCallback (application : Option CallbackSubject) (uri : Option Text) (mode : CallbackMode) :
    Except CallbackRejection (Text × Text) :=
  match application with
  | none => .error .UNKNOWN_APP
  | some app =>
      if app.status = .revoked then .error .APPLICATION_REVOKED
      else
        match uri with
        | none => .error .MISSING_URI
        | some uri =>
            if trimText uri = [] then .error .MISSING_URI
            else if utf16Length uri > MAX_CALLBACK_LENGTH then .error .CALLBACK_TOO_LONG
            else
              match canonicalizeCallback parse uri with
              | none => .error (schemeRejection uri)
              | some candidate =>
                  match checkTransport candidate.1 mode with
                  | some transport => .error transport
                  | none =>
                      let registered := app.callbacks.filter fun value => trimText value ≠ []
                      if registered = [] then .error .NO_CALLBACK_REGISTERED
                      else
                        match findRegistered parse candidate.2 registered with
                        | none => .error .CALLBACK_NOT_REGISTERED
                        | some entry => .ok (candidate.2, entry)

/-- Whether a URL an admin typed may be stored as a callback. -/
def validateRegistrableCallback (uri : Text) (mode : CallbackMode) :
    Except CallbackRejection Text :=
  if trimText uri = [] then .error .MISSING_URI
  else if utf16Length uri > MAX_CALLBACK_LENGTH then .error .CALLBACK_TOO_LONG
  else
    let trimmed := trimText uri
    match parse trimmed with
    | none => .error (schemeRejection trimmed)
    | some raw =>
        if !isHttp raw then .error .UNSUPPORTED_SCHEME
        else if raw.search.length > 0 || raw.hash.length > 0 then .error .CALLBACK_HAS_PARAMETERS
        else
          match checkTransport raw mode with
          | some transport => .error transport
          | none =>
              match canonicalizeCallback parse trimmed with
              | none => .error .MALFORMED_URI
              | some canonical => .ok canonical.2

/-- Every failure of a whole list, at once. -/
def validateCallbackList (urls : List Text) (mode : CallbackMode) : List String :=
  urls.filterMap fun raw =>
    match validateRegistrableCallback parse raw mode with
    | .ok _ => none
    | .error reason => some (String.ofList raw ++ ": " ++ explainRejection reason)

/-- The parameters that leave the platform. -/
structure RedirectParams where
  code : Option Text
  error : Option Text
  state : Text

def RedirectParams.toList (params : RedirectParams) : List (Text × Text) :=
  let present := fun (name : String) (value : Option Text) =>
    ((value.filter (· ≠ [])).map fun value => (name.toList, value)).toList
  present "code" params.code ++ present "error" params.error ++ [("state".toList, params.state)]

/-- The URL the browser is sent back to. Takes the registered callback, never the requested one. -/
def buildCallbackRedirect (registeredCallback : Text) (params : RedirectParams) : Option Url :=
  (parse registeredCallback).map fun target =>
    { target with search := [], hash := [] }.withParams params.toList

end Parser

/-! ## What is accepted -/

section Accepted

variable {parse : Text → Option Url}

/-- When a callback is accepted, and which one it is. -/
theorem checkCallback_ok_iff {app : CallbackSubject} {uri : Option Text} {mode : CallbackMode}
    {normalized registered : Text} :
    checkCallback parse (some app) uri mode = .ok (normalized, registered) ↔
      app.status ≠ .revoked ∧ ∃ requested candidate, uri = some requested ∧
        trimText requested ≠ [] ∧ utf16Length requested ≤ MAX_CALLBACK_LENGTH ∧
        canonicalizeCallback parse requested = some (candidate, normalized) ∧
        checkTransport candidate mode = none ∧
        findRegistered parse normalized (app.callbacks.filter fun value => trimText value ≠ []) =
          some registered := by
  constructor
  · intro h
    simp only [checkCallback] at h
    split at h
    · cases h
    next hstatus =>
    split at h
    · cases h
    next requested =>
    split at h
    · cases h
    next hempty =>
    split at h
    · cases h
    next hlong =>
    split at h
    · cases h
    next candidate hcanonical =>
    split at h
    · cases h
    next htransport =>
    split at h
    · cases h
    · split at h
      · cases h
      next entry hfound =>
          cases h
          exact ⟨hstatus, requested, candidate.1, rfl, hempty, by omega, hcanonical, htransport,
            hfound⟩
  · rintro ⟨hstatus, requested, candidate, rfl, hempty, hlong, hcanonical, htransport, hfound⟩
    have hsome : (app.callbacks.filter fun value => trimText value ≠ []) ≠ [] := by
      intro hnil
      rw [hnil] at hfound
      cases hfound
    simp only [checkCallback, if_neg hstatus, if_neg hempty, if_neg (Nat.not_lt.2 hlong),
      hcanonical, htransport, if_neg hsome, hfound]

/-- A callback that is accepted is one of those of the application. -/
theorem checkCallback_ok {app : CallbackSubject} {uri : Option Text} {mode : CallbackMode}
    {normalized registered : Text}
    (h : checkCallback parse (some app) uri mode = .ok (normalized, registered)) :
    app.status ≠ .revoked ∧ registered ∈ app.callbacks := by
  obtain ⟨hstatus, -, -, -, -, -, -, -, hfound⟩ := checkCallback_ok_iff.1 h
  exact ⟨hstatus, (List.mem_filter.1 (List.mem_of_find?_eq_some hfound)).1⟩

/-- A redirect goes to the registered callback, with nothing but the parameters of the protocol. -/
theorem buildCallbackRedirect_eq {registered : Text} {params : RedirectParams} {target : Url}
    (h : buildCallbackRedirect parse registered params = some target) :
    ∃ callback, parse registered = some callback ∧ target.protocol = callback.protocol ∧
      target.hostname = callback.hostname ∧ target.port = callback.port ∧
      target.pathname = callback.pathname ∧ target.hash = [] ∧
      target.params? = some params.toList := by
  obtain ⟨callback, hparse, rfl⟩ := Option.map_eq_some_iff.1 h
  exact ⟨callback, hparse, rfl, rfl, rfl, rfl, rfl, Url.params?_withParams _ _⟩

end Accepted

end OwneX
