import OwneX.Library.Async
import OwneX.Platform.Chain

set_option autoImplicit false

/-! # `lib/access-decision.ts` and `lib/live-access.ts`

What the live reads of the contracts mean for a request. `decideAccess` is the pure rule,
`evaluateAccess` reads everything and decides, and `evaluateLiveAccess` wires the real readers in.
The reads are awaited together, so the two functions are written over any `Async` monad: over `Id`
every read is answered at once, and over `Prog` each is an operation of its own. A read that throws
is an `Except.error` with the error's message.

`keccakId` is ethers' `id`, the hash of a string. -/

namespace OwneX

open JsNumber

inductive AccessDenyReason where
  | organizationNotFound
  | organizationSuspended
  | identityNotRegistered
  | identityRevoked
  | notAMember
  | roleExpired
  | appAccessNotGranted
  | applicationNotRegistered
deriving DecidableEq

/-- Everything read live. An `Option (Option Bool)` is a boolean that may be `undefined` (`none`) or
    `null` (`some none`). -/
structure AccessSnapshot where
  /-- `organization`: `none` is `null`, otherwise its `active` flag. -/
  organization : Option Bool
  registered : Bool
  active : Bool
  expired : Bool
  role : RoleName
  appAccess : Option (Option Bool)
  appRegistered : Option (Option Bool)

structure AccessDecision where
  allowed : Bool
  reason : Option AccessDenyReason
deriving DecidableEq

def deny (reason : AccessDenyReason) : AccessDecision :=
  { allowed := false, reason := some reason }

/-- The checks in the order the reasons are useful in. -/
def decideAccess (snapshot : AccessSnapshot) : AccessDecision :=
  match snapshot.organization with
  | none => deny .organizationNotFound
  | some organizationActive =>
      if ¬ snapshot.registered then deny .identityNotRegistered
      else if ¬ snapshot.active then deny .identityRevoked
      else if ¬ organizationActive then deny .organizationSuspended
      else if snapshot.expired then deny .roleExpired
      else if snapshot.role = .none then deny .notAMember
      else
        match snapshot.appAccess with
        | some (some appAccess) =>
            if snapshot.appRegistered = some (some false) then deny .applicationNotRegistered
            else if ¬ appAccess then deny .appAccessNotGranted
            else { allowed := true, reason := none }
        | some none =>
            if snapshot.appRegistered = some (some false) then deny .applicationNotRegistered
            else { allowed := true, reason := none }
        | none => { allowed := true, reason := none }

/-! ## Fail-closed evaluation -/

structure MembershipTimes where
  joinedAt : Option Nat
  expiresAt : Option Nat
  expired : Bool
deriving DecidableEq

structure AppAccess where
  slug : String
  appId : Bytes32
  registered : Bool
  allowed : Bool
deriving DecidableEq

structure AccessReaders (m : Type → Type) where
  organization : m (Option Bool)
  identity : m (Bool × Bool)
  role : m RoleName
  membership : m MembershipTimes
  permissions : RoleName → m (List (PermissionKey × Bool))
  app : m (Option AppAccess)

structure EvaluatedSnapshot where
  role : RoleName
  identityRegistered : Bool
  identityActive : Bool
  organizationActive : Bool
  membership : MembershipTimes
  permissions : Option (List (PermissionKey × Bool))
  app : Option AppAccess
deriving DecidableEq

inductive EvaluatedAccess where
  | ok (decision : AccessDecision) (snapshot : EvaluatedSnapshot)
  | chainUnavailable (detail : String)
deriving DecidableEq

def EvaluatedAccess.allowed : EvaluatedAccess → Bool
  | .ok decision _ => decision.allowed
  | .chainUnavailable _ => false

/-- The `try` block: read everything, then decide. -/
def readAndDecide {m : Type → Type} [Async m] (readers : AccessReaders (ExceptT String m)) :
    ExceptT String m EvaluatedAccess := do
  let (organization, identity, role, membership, app) ←
    Async.both readers.organization <| Async.both readers.identity <| Async.both readers.role <|
      Async.both readers.membership readers.app
  let permissions ← if role = .none then pure none else some <$> readers.permissions role
  let decision := decideAccess
    { organization
      registered := identity.1
      active := identity.2
      expired := membership.expired
      role
      appAccess := app.map fun app => some app.allowed
      appRegistered := app.map fun app => some app.registered }
  return .ok decision
    { role
      identityRegistered := identity.1
      identityActive := identity.2
      organizationActive := organization.getD false
      membership, permissions, app }

/-- Any failure is a refusal. -/
def evaluateAccess {m : Type → Type} [Async m] (readers : AccessReaders (ExceptT String m)) :
    m EvaluatedAccess := do
  match ← (readAndDecide readers).run with
  | .ok evaluated => return evaluated
  | .error detail => return .chainUnavailable detail

/-! ## The live readers -/

/-- The chain reads of `lib/chain`, as far as access decisions use them. -/
structure ChainReads (m : Type → Type) where
  readOrganization : Nat → m (Option OrganizationState)
  readIdentity : Address → m IdentityState
  readEffectiveRole : Nat → Address → m RoleName
  readMembership : Nat → Address → m MembershipState
  readHasPermission : Nat → Address → Bytes32 → m Bool
  readApplicationRegistered : Nat → Bytes32 → m Bool
  readCanAccessApp : Nat → Address → Bytes32 → m Bool

/-- `readPermissionsFor`: the six permissions, awaited together. -/
def readPermissionsFor {m : Type → Type} [Async m] (reads : ChainReads m) (orgId : Nat)
    (wallet : Address) : List (PermissionKey × Bytes32) → m (List (PermissionKey × Bool))
  | [] => pure []
  | p :: ps => do
      let (granted, rest) ←
        Async.both (reads.readHasPermission orgId wallet p.2)
          (readPermissionsFor reads orgId wallet ps)
      return (p.1, granted) :: rest

def liveReaders {m : Type → Type} [Async m] (keccakId : String → Bytes32) (reads : ChainReads m)
    (orgId : Nat) (wallet : Address) (appSlug : Option String) : AccessReaders m where
  organization := do
    let organization ← reads.readOrganization orgId
    return organization.map (·.active)
  identity := do
    let identity ← reads.readIdentity wallet
    return (identity.registered, identity.active)
  role := reads.readEffectiveRole orgId wallet
  membership := do
    let membership ← reads.readMembership orgId wallet
    return ⟨membership.joinedAt, membership.expiresAt, membership.expired⟩
  permissions := fun _ => readPermissionsFor reads orgId wallet permissionList
  app :=
    -- `if (!appId || !appSlug) return null;`: the empty string names no application.
    match appSlug with
    | none => pure none
    | some slug =>
        if slug = "" then pure none
        else do
          let (registered, allowed) ←
            Async.both (reads.readApplicationRegistered orgId (keccakId slug))
              (reads.readCanAccessApp orgId wallet (keccakId slug))
          return some { slug, appId := keccakId slug, registered, allowed }

def evaluateLiveAccess {m : Type → Type} [Async m] (keccakId : String → Bytes32)
    (reads : ChainReads (ExceptT String m)) (orgId : Nat) (wallet : Address)
    (appSlug : Option String) : m EvaluatedAccess :=
  evaluateAccess (liveReaders keccakId reads orgId wallet appSlug)

/-- Every read answered from one state of the chain. -/
def Chain.reads {σ : Type} (ch : Chain σ) (dateNow : TimeValue) :
    ChainReads (ExceptT String Id) where
  readOrganization orgId := pure (ch.readOrganization orgId)
  readIdentity wallet := pure (ch.readIdentity wallet)
  readEffectiveRole orgId wallet := pure (ch.readEffectiveRole orgId wallet)
  readMembership orgId wallet := pure (ch.readMembership dateNow orgId wallet)
  readHasPermission orgId wallet permission := pure (ch.readHasPermission orgId wallet permission)
  readApplicationRegistered orgId appId := pure (ch.readApplicationRegistered orgId appId)
  readCanAccessApp orgId wallet appId := pure (ch.readCanAccessApp orgId wallet appId)

/-! ## Application slugs -/

def isSlugEnd (c : Char) : Bool :=
  ('a' ≤ c && c ≤ 'z') || ('0' ≤ c && c ≤ '9')

/-- Three to forty characters that match `^[a-z0-9][a-z0-9-]*[a-z0-9]$`. -/
def isSlug (s : String) : Bool :=
  decide (3 ≤ s.length) && decide (s.length ≤ 40)
    && s.toList.all (fun c => isSlugEnd c || c == '-')
    && s.toList.head?.any isSlugEnd && s.toList.getLast?.any isSlugEnd

abbrev Slug := { s : String // isSlug s = true }

theorem Slug.ne_empty (slug : Slug) : slug.1 ≠ "" := by
  intro hempty
  have hslug := slug.2
  rw [hempty] at hslug
  revert hslug
  decide

end OwneX
