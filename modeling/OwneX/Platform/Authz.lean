import OwneX.Platform.AccessDecision

set_option autoImplicit false

/-! # `lib/http.ts` and `lib/authz.ts`

What a route handler answers instead of its data, and the guards that open one. The caller's wallet
comes from the session; roles and permissions are read from the chain. -/

namespace OwneX

/-! ## Failures -/

/-- A failure as `handler` reports it. -/
structure ApiError where
  status : Nat
  message : String
  code : Option String
deriving DecidableEq

namespace ApiError

def unauthorized : ApiError := ⟨401, "Sign in required", some "UNAUTHORIZED"⟩

def forbidden (message : String) : ApiError := ⟨403, message, some "FORBIDDEN"⟩

def notFound (message : String) : ApiError := ⟨404, message, some "NOT_FOUND"⟩

def badRequest (message : String) : ApiError := ⟨400, message, some "BAD_REQUEST"⟩

/-- Anything that is not an `ApiError` when it reaches `handler`. -/
def internal : ApiError := ⟨500, "Something went wrong", some "INTERNAL"⟩

end ApiError

/-! ## Guards -/

/-- The label of a permission, in lower case. -/
def PermissionKey.label : PermissionKey → String
  | .manageMembers => "manage members"
  | .assignRoles => "assign roles"
  | .mintAssets => "mint assets"
  | .transferAssets => "transfer assets"
  | .viewAudit => "view audit"
  | .manageApps => "manage applications"

/-- The hash of a permission, as the list has it. -/
def PermissionKey.hash : PermissionKey → Bytes32
  | .manageMembers => PERM_MANAGE_MEMBERS
  | .assignRoles => PERM_ASSIGN_ROLES
  | .mintAssets => PERM_MINT_ASSETS
  | .transferAssets => PERM_TRANSFER_ASSETS
  | .viewAudit => PERM_VIEW_AUDIT
  | .manageApps => PERM_MANAGE_APPS

theorem find_permissionList (permission : PermissionKey) :
    permissionList.find? (fun entry => entry.1 = permission) =
      some (permission, permission.hash) := by
  cases permission <;> decide

structure Caller where
  wallet : Address
  role : RoleName
deriving DecidableEq

section Guards

variable {m : Type → Type} [Monad m]

/-- A chain read outside any `try`. -/
def orInternal {α : Type} (read : ExceptT String m α) : ExceptT ApiError m α :=
  ExceptT.mk do
    match ← read.run with
    | .ok a => return .ok a
    | .error _ => return .error .internal

variable (reads : ChainReads (ExceptT String m)) (sessionWallet : Option Address)

def requireCaller : ExceptT ApiError m Address :=
  match sessionWallet with
  | none => throw .unauthorized
  | some wallet => return wallet

/-- The caller must additionally hold a live identity. -/
def requireActiveIdentity : ExceptT ApiError m Address := do
  let wallet ← requireCaller sessionWallet
  let identity ← orInternal (reads.readIdentity wallet)
  if !identity.registered then throw (.forbidden "This wallet has no registered identity")
  if !identity.active then throw (.forbidden "This identity has been revoked")
  return wallet

/-- The caller must currently hold any role in the organization. -/
def requireMember (orgId : Nat) : ExceptT ApiError m Caller := do
  let wallet ← requireActiveIdentity reads sessionWallet
  let role ← orInternal (reads.readEffectiveRole orgId wallet)
  if role = .none then throw (.forbidden "You are not a member of this organization")
  return { wallet, role }

/-- The caller must hold a specific permission. -/
def requirePermission (orgId : Nat) (permission : PermissionKey) : ExceptT ApiError m Caller := do
  let wallet ← requireActiveIdentity reads sessionWallet
  match permissionList.find? fun entry => entry.1 = permission with
  | none => throw (.forbidden "Unknown permission")
  | some entry =>
      let allowed ← orInternal (reads.readHasPermission orgId wallet entry.2)
      if !allowed then throw (.forbidden ("Your role cannot " ++ entry.1.label))
      let role ← orInternal (reads.readEffectiveRole orgId wallet)
      return { wallet, role }

end Guards

end OwneX
