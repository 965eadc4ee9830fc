import OwneX.Platform.Applications

set_option autoImplicit false

/-! # `lib/integration.ts`: how far along the wiring is

The stage that `GET /api/applications` shows for each application. It is computed from flags and
counts: how many callbacks are stored, whether a digest is, which roles the chain allows. -/

namespace OwneX

open Js JsNumber KeyedList

/-! ## The pipeline -/

inductive IntegrationStage where
  | draft
  | registered
  | callback
  | secret
  | active
deriving DecidableEq

def INTEGRATION_STAGE_LABEL : IntegrationStage → String
  | .draft => "Draft"
  | .registered => "Registered on-chain"
  | .callback => "Callback configured"
  | .secret => "Secret generated"
  | .active => "Active"

structure IntegrationStep where
  key : IntegrationStage
  label : String
  done : Bool
  /-- What the admin has to do when this step is not done. -/
  todo : String
deriving DecidableEq

structure IntegrationInput where
  /-- What `applicationRegistered(orgId, appId)` answered. -/
  registeredOnChain : Bool
  callbackCount : Nat
  hasClientSecret : Bool
  /-- Roles the chain allows through `appAccessForRole`. -/
  rolesAllowedOnChain : Nat
  status : ApplicationStatus

def integrationSteps (input : IntegrationInput) : List IntegrationStep :=
  let revoked := decide (input.status = .revoked)
  let registered := input.registeredOnChain && !revoked
  let callback := registered && decide (0 < input.callbackCount)
  let secret := callback && input.hasClientSecret
  let active := secret && decide (0 < input.rolesAllowedOnChain) && !revoked
  [{ key := .draft, label := INTEGRATION_STAGE_LABEL .draft, done := true, todo := "" },
    { key := .registered, label := INTEGRATION_STAGE_LABEL .registered, done := registered,
      todo := "An admin must sign registerApplication(orgId, appId, metadataHash)." },
    { key := .callback, label := INTEGRATION_STAGE_LABEL .callback, done := callback,
      todo := "Add at least one exact callback URL." },
    { key := .secret, label := INTEGRATION_STAGE_LABEL .secret, done := secret,
      todo := "Generate a client secret and store it in the partner's backend." },
    { key := .active, label := INTEGRATION_STAGE_LABEL .active, done := active,
      todo := if revoked then "This integration is revoked. Restore it to allow sign-in again."
        else "Grant at least one role access on-chain with setAppAccess." }]

/-- The loop of `integrationStage`: it breaks at the first step that is not done. -/
def furthest (stage : IntegrationStage) : List IntegrationStep → IntegrationStage
  | [] => stage
  | step :: steps => if !step.done then stage else furthest step.key steps

/-- The furthest stage reached. -/
def integrationStage (input : IntegrationInput) : IntegrationStage :=
  furthest .draft (integrationSteps input)

/-- The steps before the last one add nothing to it. -/
theorem integrationStage_eq_active {input : IntegrationInput} :
    integrationStage input = .active ↔
      input.registeredOnChain = true ∧ 0 < input.callbackCount ∧ input.hasClientSecret = true ∧
        0 < input.rolesAllowedOnChain ∧ input.status ≠ .revoked := by
  obtain ⟨registered, callbacks, secret, roles, status⟩ := input
  unfold integrationStage integrationSteps
  cases registered <;> cases secret <;> by_cases hrevoked : status = .revoked <;>
    by_cases hcallbacks : 0 < callbacks <;> by_cases hroles : 0 < roles <;>
    simp [furthest, hrevoked, hcallbacks, hroles]

/-! ## The applications of an organization -/

/-- `select("app_slug, callback_url")` for all applications of an organization. -/
def CallbackTable.selectForOrg (table : CallbackTable) (collate : Text → Text → Bool)
    (orgId : Nat) : List (String × Text) :=
  ((table.rows.filter fun row => row.app.1 = orgId).mergeSort
    fun row row' => collate row.url row'.url).map fun row => (row.app.2, row.url)

/-- `map.set(slug, [...(map.get(slug) ?? []), url])` -/
def addCallback (map : List (String × List Text)) (row : String × Text) :
    List (String × List Text) :=
  upsert Prod.fst row.1 (row.1, [row.2]) (fun entry => (entry.1, entry.2 ++ [row.2])) map

/-- The `Map` that `readCallbacksForOrg` builds. -/
def groupBySlug (rows : List (String × Text)) : List (String × List Text) :=
  rows.foldl addCallback []

/-- `callbacks.get(slug) ?? []` -/
def callbacksOf (map : List (String × List Text)) (slug : String) : List Text :=
  ((lookup Prod.fst map slug).map Prod.snd).getD []

theorem callbacksOf_addCallback (map : List (String × List Text)) (row : String × Text)
    (slug : String) :
    callbacksOf (addCallback map row) slug =
      if slug = row.1 then callbacksOf map slug ++ [row.2] else callbacksOf map slug := by
  have hlookup : lookup Prod.fst (addCallback map row) slug =
      if slug = row.1 then
        some ((lookup Prod.fst map row.1).elim (row.1, [row.2])
          fun entry => (entry.1, entry.2 ++ [row.2]))
      else lookup Prod.fst map slug := by
    refine lookup_upsert ?_ ?_ map slug
    · rfl
    · intro entry
      rfl
  unfold callbacksOf
  rw [hlookup]
  by_cases hslug : slug = row.1
  · subst hslug
    cases lookup Prod.fst map row.1 <;> simp
  · simp [hslug]

theorem callbacksOf_groupBySlug (rows : List (String × Text)) (slug : String) :
    callbacksOf (groupBySlug rows) slug = (rows.filter (·.1 = slug)).map Prod.snd := by
  unfold groupBySlug
  -- The list under a slug grows at its end, so the induction is from there.
  induction rows using List.reverseRecOn with
  | nil => rfl
  | append_singleton rows row ih =>
      rw [List.foldl_append, List.foldl_cons, List.foldl_nil, callbacksOf_addCallback, ih]
      by_cases hslug : slug = row.1
      · simp [hslug]
      · simp [hslug, Ne.symm hslug]

/-- The rows of `applications` are in the order of their creation. -/
def listApplicationsForOrg (rt : ServerRuntime) (applications : ApplicationTable)
    (callbacks : CallbackTable) (orgId : Nat) : List RegisteredApplication :=
  let map := groupBySlug (callbacks.selectForOrg rt.collate orgId)
  (applications.rows.filter fun row => row.orgId.1 = orgId).map fun row =>
    toRecord rt row (callbacksOf map row.appSlug)

/-- What is listed: every row, with the callbacks that are stored for it. -/
theorem mem_listApplicationsForOrg {rt : ServerRuntime} {applications : ApplicationTable}
    {callbacks : CallbackTable} {orgId : Nat} {app : RegisteredApplication} :
    app ∈ listApplicationsForOrg rt applications callbacks orgId ↔
      ∃ row ∈ applications.rows, row.orgId.1 = orgId ∧
        app = toRecord rt row
          (callbacksOf (groupBySlug (callbacks.selectForOrg rt.collate orgId)) row.appSlug) := by
  unfold listApplicationsForOrg
  simp only [List.mem_map, List.mem_filter, decide_eq_true_eq]
  constructor
  · rintro ⟨row, ⟨hrow, horg⟩, rfl⟩
    exact ⟨row, hrow, horg, rfl⟩
  · rintro ⟨row, hrow, horg, rfl⟩
    exact ⟨row, ⟨hrow, horg⟩, rfl⟩

theorem mem_callbacksOf {collate : Text → Text → Bool} {callbacks : CallbackTable} {orgId : Nat}
    {slug : String} {url : Text} :
    url ∈ callbacksOf (groupBySlug (callbacks.selectForOrg collate orgId)) slug ↔
      ⟨(orgId, slug), url⟩ ∈ callbacks.rows := by
  rw [callbacksOf_groupBySlug]
  unfold CallbackTable.selectForOrg
  simp only [List.mem_map, List.mem_filter, List.mem_mergeSort, decide_eq_true_eq]
  constructor
  · rintro ⟨_, ⟨⟨⟨⟨orgId', slug'⟩, url'⟩, ⟨hrow, horg⟩, rfl⟩, hslug⟩, rfl⟩
    have horg' : orgId' = orgId := horg
    have hslug' : slug' = slug := hslug
    subst horg' hslug'
    exact hrow
  · intro hrow
    exact ⟨(slug, url), ⟨⟨_, ⟨hrow, rfl⟩, rfl⟩, rfl⟩, rfl⟩

/-! ## What the stage is fed -/

namespace Chain

variable {σ : Type} (ch : Chain σ)

/-- `readRoleAccess(orgId, appId)` -/
def readRoleAccess (orgId : Nat) (appId : Bytes32) (role : RoleName) : Bool :=
  ch.world.access.appAccessForRole orgId appId (roleHash role)

/-- The stage input of `GET /api/applications` for one application of the organization. -/
def stageInput [ERC721 σ] (orgId : Nat) (app : RegisteredApplication) : IntegrationInput where
  registeredOnChain := ch.readApplicationRegistered orgId app.appId
  callbackCount := app.callbacks.length
  hasClientSecret := app.clientSecretHash.isSome
  rolesAllowedOnChain := (ASSIGNABLE_ROLES.filter (ch.readRoleAccess orgId app.appId)).length
  status := app.status

/-- When an application is shown as active. -/
theorem stage_eq_active [ERC721 σ] {orgId : Nat} {app : RegisteredApplication} :
    integrationStage (ch.stageInput orgId app) = .active ↔
      ch.readApplicationRegistered orgId app.appId = true ∧ app.callbacks ≠ [] ∧
        app.clientSecretHash ≠ none ∧
        (∃ role ∈ ASSIGNABLE_ROLES, ch.readRoleAccess orgId app.appId role = true) ∧
        app.status ≠ .revoked := by
  rw [integrationStage_eq_active]
  simp [stageInput, List.length_pos_iff, List.filter_eq_nil_iff, Option.isSome_iff_ne_none]

end Chain

end OwneX
