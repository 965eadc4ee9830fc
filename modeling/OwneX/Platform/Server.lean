import OwneX.Platform.ApplicationRoutes
import OwneX.Platform.PartnerRoutes

set_option autoImplicit false

/-! # The server

Any number of requests over the tables and the chain. The chain changes from outside, as it likes; the
tables are changed by requests only, except that organizations may be added. -/

namespace OwneX

open Js JsNumber Prog Interleaving Service

structure ServerState (σ : Type) where
  chain : Chain σ
  clock : TimeValue
  /-- The keys of the table `organizations`. -/
  organizations : List SafeInt
  applications : ApplicationTable
  callbacks : CallbackTable
  codes : CodeTable

inductive ServerRequest where
  | register (session : SessionData) (body : RegistrationBody)
  | patch (session : SessionData) (slug : Slug) (body : PatchBody)
  | rotate (session : SessionData) (slug : Slug) (orgId : Nat)
  | page (session : SessionData) (params : AuthorizeParams)
  | approve (session : SessionData) (form : Option ApproveForm)
  | exchange (body : ExchangeBody)
  | verify (headers : PartnerHeaders) (params : PartnerParams)
  | assets (headers : PartnerHeaders) (params : PartnerParams)

abbrev ServerRequest.Ans : ServerRequest → Type
  | register .. => Except ApiError RegistrationReply
  | patch .. => Except ApiError PatchReply
  | rotate .. => Except ApiError SecretReply
  | page .. => AuthorizeView
  | approve .. => ApproveResponse
  | exchange .. => Except ApiError PartnerClaims
  | verify .. => Except ApiError VerifyReply
  | assets .. => Except ApiError PortalReply

def ServerRequest.handler (rt : ServerRuntime) :
    (req : ServerRequest) → Prog ServerOp ServerOp.Res req.Ans
  | register session body => (registerApplication rt session body).run
  | patch session slug body => (patchApplication rt session slug body).run
  | rotate session slug orgId => (rotateSecret rt session slug orgId).run
  | page session params => authorizePage rt session params
  | approve session form => OwneX.approve rt session form
  | exchange body => (OwneX.exchange rt body).run
  | verify headers params => (rolesVerify rt headers params).run
  | assets headers params => (portalAssets rt headers params).run

namespace ServerState

variable {σ : Type} [ERC721 σ]

def withApplications (s : ServerState σ)
    (outcome : Except String Unit × ApplicationTable) : Except String Unit × ServerState σ :=
  (outcome.1, { s with applications := outcome.2 })

def withCallbacks (s : ServerState σ)
    (outcome : Except String Unit × CallbackTable) : Except String Unit × ServerState σ :=
  (outcome.1, { s with callbacks := outcome.2 })

/-- What an operation results in and what it makes of the state. Reads and statements may fail. -/
def exec (rt : ServerRuntime) (s : ServerState σ) :
    (op : ServerOp) → op.Res → ServerState σ → Prop
  | .readOrganization orgId, r, s' => Attempt s (.ok (s.chain.readOrganization orgId), s) r s'
  | .readIdentity wallet, r, s' => Attempt s (.ok (s.chain.readIdentity wallet), s) r s'
  | .readEffectiveRole orgId wallet, r, s' =>
      Attempt s (.ok (s.chain.readEffectiveRole orgId wallet), s) r s'
  | .readMembership orgId wallet, r, s' =>
      Attempt s (.ok (s.chain.readMembership s.clock orgId wallet), s) r s'
  | .readHasPermission orgId wallet permission, r, s' =>
      Attempt s (.ok (s.chain.readHasPermission orgId wallet permission), s) r s'
  | .readApplicationRegistered orgId appId, r, s' =>
      Attempt s (.ok (s.chain.readApplicationRegistered orgId appId), s) r s'
  | .readCanAccessApp orgId wallet appId, r, s' =>
      Attempt s (.ok (s.chain.readCanAccessApp orgId wallet appId), s) r s'
  | .readAssetsOfOrganization orgId, r, s' =>
      Attempt s (.ok (s.chain.readAssetsOfOrganization orgId), s) r s'
  | .readAsset tokenId, r, s' => Attempt s (s.chain.readAsset tokenId, s) r s'
  | .selectByClientId clientId, r, s' =>
      Attempt s (.ok (s.applications.findByClientId clientId), s) r s'
  | .selectByKey app, r, s' => Attempt s (.ok (s.applications.findByKey app), s) r s'
  | .selectCallbacks app, r, s' => Attempt s (.ok (s.callbacks.select rt.collate app), s) r s'
  | .upsertApplication cols, r, s' =>
      Attempt s (s.withApplications (s.applications.upsert s.organizations cols)) r s'
  | .updateApplication app patch, r, s' =>
      Attempt s (s.withApplications (s.applications.update app patch)) r s'
  | .deleteCallbacks app, r, s' => Attempt s (s.withCallbacks (.ok (), s.callbacks.delete app)) r s'
  | .insertCallbacks app urls, r, s' =>
      Attempt s (s.withCallbacks (s.callbacks.insert s.applications app urls)) r s'
  | .insertCode row, r, s' =>
      Attempt s ((s.codes.insert row).1, { s with codes := (s.codes.insert row).2 }) r s'
  | .consumeCode query, r, s' =>
      Attempt s (.ok (s.codes.consume query).1, { s with codes := (s.codes.consume query).2 }) r s'
  | .now, t, s' => t = s.clock ∧ s' = s
  | .randomBytes size, bytes, s' => bytes.length = size ∧ s' = s

/-- The chain changes, time passes and organizations are added. -/
def outside (s s' : ServerState σ) : Prop :=
  s.clock.1 ≤ s'.clock.1 ∧ s.organizations ⊆ s'.organizations ∧
    s'.applications = s.applications ∧ s'.callbacks = s.callbacks ∧ s'.codes = s.codes

end ServerState

/-- Any number of requests. -/
def server (σ : Type) [ERC721 σ] (rt : ServerRuntime) : Service where
  State := ServerState σ
  Op := ServerOp
  Res := ServerOp.Res
  Req := ServerRequest
  Ans := ServerRequest.Ans
  exec := ServerState.exec rt
  env := ServerState.outside
  admits := fun _ _ => True
  handler := ServerRequest.handler rt

end OwneX
