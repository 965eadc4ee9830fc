import OwneX.Platform.GenericSso
import OwneX.Platform.ServerRuns

set_option autoImplicit false

/-! # Running the migration again

Between two runs of the migration there are any number of requests and of runs of
`scripts/seed-offchain.mjs`, side by side and cut off anywhere. The seed registers its application
without a client id, and nothing keeps the callbacks and the roles of the employee portal as the
migration wants them. A statement that does neither leaves every row settled. -/

namespace OwneX

open Js JsNumber KeyedList Prog Interleaving Service

/-! ## `scripts/seed-offchain.mjs` -/

/-- The columns that the seed writes: no client id and no secret. -/
structure SeedColumns where
  orgId : SafeInt
  appSlug : String
  appId : Bytes32
  name : Text
  url : Text
  description : Text
  allowedRoles : List RoleName
  status : ApplicationStatus

namespace SeedColumns

variable (cols : SeedColumns)

def key : AppKey := (cols.orgId.1, cols.appSlug)

def toRow : ApplicationRow where
  orgId := cols.orgId
  appSlug := cols.appSlug
  appId := cols.appId
  name := cols.name
  url := cols.url
  description := some cols.description
  logoUrl := none
  clientId := none
  clientSecretHash := none
  clientSecretUpdatedAt := none
  allowedRoles := cols.allowedRoles
  status := cols.status

/-- What the columns make of a row that is there. -/
def onto (row : ApplicationRow) : ApplicationRow :=
  { row with
    appId := cols.appId
    name := cols.name
    url := cols.url
    description := some cols.description
    allowedRoles := cols.allowedRoles
    status := cols.status }

end SeedColumns

/-- `upsert(.., { onConflict: "org_id,app_slug" })` of the seed. -/
def ApplicationTable.upsertSeed (table : ApplicationTable) (organizations : List SafeInt)
    (cols : SeedColumns) : Except String Unit × ApplicationTable :=
  if cols.orgId ∈ organizations then
    table.commit (KeyedList.upsert ApplicationRow.key cols.key cols.toRow cols.onto table.rows)
  else (.error "violates a foreign key constraint", table)

inductive LiveOp where
  | server (op : ServerOp)
  /-- `upsert(.., { onConflict: "org_id" })` -/
  | upsertOrganization (orgId : SafeInt)
  | upsertSeed (cols : SeedColumns)

abbrev LiveOp.Res : LiveOp → Type
  | server op => op.Res
  | upsertOrganization _ => Except String Unit
  | upsertSeed _ => Except String Unit

/-- What the seed takes from its receipt and its environment. -/
structure SeedConfig where
  orgId : SafeInt
  slug : String
  name : Text
  url : Text
  callbacks : List Text

/-- What the seed does to the registry. In between it writes profiles, and then the assets. -/
def seed (rt : ServerRuntime) (config : SeedConfig) :
    ExceptT String (Prog LiveOp LiveOp.Res) Unit := do
  let app : AppKey := (config.orgId.1, config.slug)
  attempt (call (LiveOp.upsertOrganization config.orgId)) fun error => "organizations: " ++ error
  attempt
    (call (LiveOp.upsertSeed
      { orgId := config.orgId
        appSlug := config.slug
        appId := rt.keccakId config.slug
        name := config.name
        url := config.url
        description := ("Web2 staff portal that authenticates through OwneX and holds no " ++
          "blockchain code of its own.").toList
        allowedRoles := [.admin, .manager, .auditor, .user]
        status := .active })) fun error => "applications: " ++ error
  attempt (call (LiveOp.server (.deleteCallbacks app))) fun error =>
    "application_callbacks: " ++ error
  attempt (call (LiveOp.server (.insertCallbacks app (insertAllNew id [] config.callbacks))))
    fun error => "application_callbacks: " ++ error

/-! ## The live database -/

inductive LiveRequest where
  | server (req : ServerRequest)
  | seed (config : SeedConfig)

abbrev LiveRequest.Ans : LiveRequest → Type
  | server req => req.Ans
  | seed _ => Except String Unit

/-- The server, and everybody who runs the seed. -/
def live (σ : Type) [ERC721 σ] (rt : ServerRuntime) : Service where
  State := ServerState σ
  Op := LiveOp
  Res := LiveOp.Res
  Req := LiveRequest
  Ans := LiveRequest.Ans
  exec s op r s' :=
    match op, r with
    | .server op, r => s.exec rt op r s'
    | .upsertOrganization orgId, r =>
        Attempt s (.ok (), { s with organizations := insertNew id s.organizations orgId }) r s'
    | .upsertSeed cols, r =>
        Attempt s (s.withApplications (s.applications.upsertSeed s.organizations cols)) r s'
  env := ServerState.outside
  admits _ _ := True
  handler
    | .server req => (req.handler rt).embed LiveOp.server fun _ r => r
    | .seed config => (seed rt config).run

def ServerState.registry {σ : Type} (s : ServerState σ) : RegistryTables :=
  ⟨s.applications, s.callbacks, s.codes⟩

/-! ## What keeps the rows settled -/

/-- A statement that asks for no backfill: it creates no application without a client id and no
    employee portal, and takes no callbacks and not the last role from one. -/
def LiveOp.Spares {σ : Type} (s : ServerState σ) : LiveOp → Prop
  | server (.upsertApplication cols) => cols.appSlug = EMPLOYEE_PORTAL →
      cols.allowedRoles ≠ [] ∧ cols.key ∈ s.applications.rows.map ApplicationRow.key
  | server (.updateApplication app patch) => app.2 = EMPLOYEE_PORTAL → patch.allowedRoles ≠ some []
  | server (.deleteCallbacks app) => app.2 ≠ EMPLOYEE_PORTAL
  | upsertSeed cols =>
      cols.allowedRoles ≠ [] ∧ cols.key ∈ s.applications.rows.map ApplicationRow.key
  | _ => True

instance {σ : Type} (s : ServerState σ) (op : LiveOp) : Decidable (op.Spares s) := by
  unfold LiveOp.Spares
  split <;> infer_instance

/-- Rows with a client id, at keys where there were rows, and no fewer callbacks. -/
theorem RegistryTables.Settled.of_rows {tables after : RegistryTables} (h : tables.Settled)
    (hrows : ∀ row ∈ after.applications.rows, row.clientId ≠ none ∧
      (row.appSlug = EMPLOYEE_PORTAL → row.allowedRoles ≠ [] ∧
        row.key ∈ tables.applications.rows.map ApplicationRow.key))
    (hcallbacks : ∀ app url, app.2 = EMPLOYEE_PORTAL → ⟨app, url⟩ ∈ tables.callbacks.rows →
      ⟨app, url⟩ ∈ after.callbacks.rows) : after.Settled where
  clientIds row hrow := (hrows row hrow).1
  roles row hrow hslug := ((hrows row hrow).2 hslug).1
  callbacks := by
    intro row hrow hslug url hurl
    obtain ⟨row', hrow', hkey⟩ := List.mem_map.1 ((hrows row hrow).2 hslug).2
    have hslug' : row'.appSlug = EMPLOYEE_PORTAL := (congrArg Prod.snd hkey).trans hslug
    have hthere := h.callbacks row' hrow' hslug' url hurl
    rw [hkey] at hthere
    exact hcallbacks row.key url hslug hthere

/-- What holds of the rows that are there. -/
theorem RegistryTables.Settled.row {tables : RegistryTables} (h : tables.Settled)
    {row : ApplicationRow} (hrow : row ∈ tables.applications.rows) :
    row.clientId ≠ none ∧ (row.appSlug = EMPLOYEE_PORTAL → row.allowedRoles ≠ [] ∧
      row.key ∈ tables.applications.rows.map ApplicationRow.key) :=
  ⟨h.clientIds row hrow, fun hslug => ⟨h.roles row hrow hslug, List.mem_map_of_mem hrow⟩⟩

section Steps

variable {σ : Type} {s : ServerState σ}

theorem settled_upsertApplication (h : s.registry.Settled) {cols : ApplicationColumns}
    (hspares : LiveOp.Spares s (.server (.upsertApplication cols))) :
    RegistryTables.Settled
      ⟨(s.applications.upsert s.organizations cols).2, s.callbacks, s.codes⟩ := by
  refine h.of_rows ?_ fun _ _ _ hthere => hthere
  intro row hrow
  unfold ApplicationTable.upsert at hrow
  split at hrow
  · exact h.row hrow
  next orgId hfind =>
      have horg : orgId.1 = cols.orgId := by simpa using List.find?_some hfind
      rcases s.applications.commit_cases with ⟨e, hfailed⟩ | hcommitted
      · rw [hfailed] at hrow
        exact h.row hrow
      · rw [hcommitted] at hrow
        rcases mem_upsert hrow with hold | ⟨row', hrow', hkey, rfl⟩ | ⟨hnew, rfl⟩
        · exact h.row hold
        · refine ⟨Option.some_ne_none _, fun hslug => ?_⟩
          have hslug' : cols.appSlug = EMPLOYEE_PORTAL := (congrArg Prod.snd hkey).symm.trans hslug
          have hthere := List.mem_map_of_mem (f := ApplicationRow.key) hrow'
          exact ⟨(hspares hslug').1, hthere⟩
        · exact ⟨Option.some_ne_none _, fun hslug => absurd (hspares hslug).2 hnew⟩

theorem settled_upsertSeed (h : s.registry.Settled) {cols : SeedColumns}
    (hspares : LiveOp.Spares s (.upsertSeed cols)) :
    RegistryTables.Settled
      ⟨(s.applications.upsertSeed s.organizations cols).2, s.callbacks, s.codes⟩ := by
  refine h.of_rows ?_ fun _ _ _ hthere => hthere
  intro row hrow
  unfold ApplicationTable.upsertSeed at hrow
  split at hrow
  · rcases s.applications.commit_cases with ⟨e, hfailed⟩ | hcommitted
    · rw [hfailed] at hrow
      exact h.row hrow
    · rw [hcommitted] at hrow
      rcases mem_upsert hrow with hold | ⟨row', hrow', hkey, rfl⟩ | ⟨hnew, -⟩
      · exact h.row hold
      · obtain ⟨hclientId, hportal⟩ := h.row hrow'
        exact ⟨hclientId, fun hslug => ⟨hspares.1, (hportal hslug).2⟩⟩
      · exact absurd hspares.2 hnew
  · exact h.row hrow

theorem settled_updateApplication (h : s.registry.Settled) {app : AppKey}
    {patch : ApplicationPatch}
    (hspares : LiveOp.Spares s (.server (.updateApplication app patch))) :
    RegistryTables.Settled ⟨(s.applications.update app patch).2, s.callbacks, s.codes⟩ := by
  refine h.of_rows ?_ fun _ _ _ hthere => hthere
  intro row hrow
  unfold ApplicationTable.update at hrow
  rcases s.applications.commit_cases with ⟨e, hfailed⟩ | hcommitted
  · rw [hfailed] at hrow
    exact h.row hrow
  · rw [hcommitted] at hrow
    obtain ⟨row', hrow', rfl⟩ := mem_modify.1 hrow
    obtain ⟨hclientId, hportal⟩ := h.row hrow'
    split
    next hkey =>
        refine ⟨?_, fun hslug => ⟨?_, (hportal hslug).2⟩⟩
        · unfold ApplicationPatch.onto
          dsimp only
          split
          · exact Option.some_ne_none _
          · exact hclientId
        · have hslug' : app.2 = EMPLOYEE_PORTAL :=
            (congrArg Prod.snd (of_decide_eq_true hkey)).symm.trans hslug
          unfold ApplicationPatch.onto
          dsimp only
          cases hroles : patch.allowedRoles with
          | none => exact (hportal hslug).1
          | some roles => exact fun hnil => hspares hslug' (hroles.trans (congrArg some hnil))
    · exact ⟨hclientId, hportal⟩

theorem settled_insertCallbacks (h : s.registry.Settled) (app : AppKey) (urls : List Text) :
    RegistryTables.Settled
      ⟨s.applications, (s.callbacks.insert s.applications app urls).2, s.codes⟩ := by
  refine h.of_rows (fun row hrow => h.row hrow) fun app' url _ hthere => ?_
  unfold CallbackTable.insert
  dsimp only
  split
  · exact hthere
  · split
    · exact List.mem_append_left _ hthere
    · exact hthere

theorem settled_deleteCallbacks (h : s.registry.Settled) {app : AppKey}
    (hspares : app.2 ≠ EMPLOYEE_PORTAL) :
    RegistryTables.Settled ⟨s.applications, s.callbacks.delete app, s.codes⟩ := by
  refine h.of_rows (fun row hrow => h.row hrow) fun app' url hslug hthere => ?_
  exact List.mem_filter.2 ⟨hthere, decide_eq_true fun heq => hspares (heq ▸ hslug)⟩

/-- What is not in the tables does not matter. -/
theorem settled_effect (h : s.registry.Settled) {op : ServerOp}
    (hspares : LiveOp.Spares s (.server op)) : (s.effect op).registry.Settled := by
  cases op with
  | upsertApplication cols => exact settled_upsertApplication h hspares
  | updateApplication app patch => exact settled_updateApplication h hspares
  | deleteCallbacks app => exact settled_deleteCallbacks h hspares
  | insertCallbacks app urls => exact settled_insertCallbacks h app urls
  | insertCode row => exact h.of_rows (fun row hrow => h.row hrow) fun _ _ _ hthere => hthere
  | consumeCode query => exact h.of_rows (fun row hrow => h.row hrow) fun _ _ _ hthere => hthere
  | _ => exact h

end Steps

/-! ## Runs -/

section Runs

variable {σ : Type} [ERC721 σ] {rt : ServerRuntime}

/-- The tables at some time. -/
def tablesOf (c : (live σ rt).Config) : RegistryTables :=
  ServerState.registry (σ := σ) c.shared

/-- The statement that is performed asks for no backfill. -/
def SparesRows (t : (live σ rt).Transition) : Prop :=
  ∀ i op r, t.move = .perform i op r → LiveOp.Spares (σ := σ) t.before.shared op

theorem settled_step {t : (live σ rt).Transition} (hvalid : t.Valid) (hspares : SparesRows t)
    (h : (tablesOf t.before).Settled) : (tablesOf t.after).Settled := by
  unfold tablesOf at h ⊢
  rcases hvalid.shared with heq | ⟨i, op, r, hmove, hexec⟩ | ⟨-, -, happlications, hcallbacks, -⟩
  · rw [heq]
    exact h
  · have hspares := hspares i op r hmove
    cases op with
    | server op =>
        rcases ServerState.exec_effect hexec with heq | heq
        · rw [heq]
          exact h
        · rw [heq]
          exact settled_effect h hspares
    | upsertOrganization orgId =>
        exact Attempt.keeps (P := fun s : ServerState σ => s.registry.Settled) hexec h
          (h.of_rows (fun row hrow => h.row hrow) fun _ _ _ hthere => hthere)
    | upsertSeed cols =>
        exact Attempt.keeps (P := fun s : ServerState σ => s.registry.Settled) hexec h
          (settled_upsertSeed h hspares)
  · unfold ServerState.registry
    rw [happlications, hcallbacks]
    exact h.of_rows (fun row hrow => h.row hrow) fun _ _ _ hthere => hthere

/-- After the migration has run once, a re-run changes no row at any time at which no row asks for a
    backfill, and only then; and none does as long as every statement in between spares the rows. -/
theorem rerun_changes_nothing_iff
    {random : ApplicationRow → { bytes : List UInt8 // bytes.length = 16 }} {before : Unmigrated}
    {s : ServerState σ} (hmigrated : migrate random before = .ok s.registry)
    {ts : List (live σ rt).Transition} {c : (live σ rt).Config} (h : (live σ rt).Run s ts c) :
    (∀ random' after, migrate random' (tablesOf c).unmigrated = .ok after →
      (after = tablesOf c ↔ (tablesOf c).Settled)) ∧
    ((∀ t ∈ ts, SparesRows t) → ∀ random' after,
      migrate random' (tablesOf c).unmigrated = .ok after → after = tablesOf c) := by
  refine ⟨fun random' after hrerun => migrate_unmigrated_iff hrerun, ?_⟩
  intro hspares random' after hrerun
  have hsettled : (tablesOf c).Settled :=
    (h.invariant (P := fun c => (tablesOf c).Settled)
      (fun t ht hvalid => settled_step hvalid (hspares t ht)) (settled_of_migrate hmigrated)).1
  exact (migrate_unmigrated_iff hrerun).2 hsettled

end Runs

/-! ## The seed, between two migrations -/

namespace Sample

/-- Nothing fails. -/
def livePlayer (σ : Type) [ERC721 σ] (rt : ServerRuntime) : (live σ rt).Player where
  Choice := Unit
  Event := Empty
  perform := fun (s : ServerState σ) (op : LiveOp) _ =>
    match op with
    | .server op => some (s.outcome rt op, s.effect op)
    | .upsertOrganization orgId =>
        some (.ok (), { s with organizations := insertNew id s.organizations orgId })
    | .upsertSeed cols =>
        some (s.withApplications (s.applications.upsertSeed s.organizations cols))
  outside := fun _ event => event.elim
  admits := fun _ _ => true
  perform_sound := by
    intro s op choice r s' h
    cases op with
    | server op =>
        obtain ⟨rfl, rfl⟩ := Prod.mk.inj (Option.some.inj h)
        exact ServerState.exec_outcome rt s op
    | upsertOrganization orgId => exact .inl (Option.some.inj h).symm
    | upsertSeed cols => exact .inl (Option.some.inj h).symm
  outside_sound := by
    intro s event
    exact event.elim
  admits_sound := fun _ => trivial

abbrev liveSeed : Service := live Ledger portalRuntime

abbrev seeder : liveSeed.Player := livePlayer Ledger portalRuntime

def seedConfig : SeedConfig where
  orgId := ⟨1, one_safe⟩
  slug := EMPLOYEE_PORTAL
  name := "Employee Portal".toList
  url := "https://ownex-employee-portal.vercel.app".toList
  callbacks := EMPLOYEE_PORTAL_CALLBACKS

def portalSeed : SeedConfig where
  orgId := ⟨1, one_safe⟩
  slug := "portal"
  name := "Portal".toList
  url := "https://portal.example".toList
  callbacks := [portalCallback]

/-- A row's bytes are all the same. -/
def sameBytes (_ : ApplicationRow) : { bytes : List UInt8 // bytes.length = 16 } :=
  ⟨List.replicate 16 7, rfl⟩

theorem ok_of_toOption {α : Type} {x : Except String α} {a : α} (h : x.toOption = some a) :
    x = .ok a := by
  cases x with
  | error e => cases h
  | ok a' => exact congrArg Except.ok (Option.some.inj h)

/-- The migration can be run, and leaves such tables as they are. -/
theorem migrated_of_settled {tables : RegistryTables} (hsettled : tables.Settled)
    (hruns : (migrate sameBytes tables.unmigrated).toOption.isSome = true) :
    migrate sameBytes tables.unmigrated = .ok tables := by
  obtain ⟨after, hafter⟩ := Option.isSome_iff_exists.1 hruns
  have hmigrate := ok_of_toOption hafter
  exact (migrate_unmigrated_iff hmigrate).2 hsettled ▸ hmigrate

/-- The seed on an empty registry. -/
def seedCues (operations : Nat) : List seeder.Cue :=
  .arrive (.seed seedConfig) :: List.replicate operations (.perform 0 ())

/-- The employee portal with a client id. -/
def employeePortal : ApplicationRow where
  orgId := ⟨1, one_safe⟩
  appSlug := EMPLOYEE_PORTAL
  appId := 8
  name := "Employee Portal".toList
  url := "https://ownex-employee-portal.vercel.app".toList
  description := none
  logoUrl := none
  clientId := some (generateClientId (List.replicate 16 1))
  clientSecretHash := none
  clientSecretUpdatedAt := none
  allowedRoles := [.user]
  status := .active

/-- The portal, which the seed registers again. -/
def seededPortal : ApplicationRow :=
  { employeePortal with
    appSlug := "portal"
    appId := 7
    name := "Portal".toList
    url := "https://portal.example".toList
    clientId := some (generateClientId (List.replicate 16 2)) }

def portalsStart : ServerState Ledger :=
  { portalStart with
    applications := ⟨[employeePortal, seededPortal], by decide +kernel⟩
    callbacks := ⟨EMPLOYEE_PORTAL_CALLBACKS.map fun url => ⟨(1, EMPLOYEE_PORTAL), url⟩,
      by decide +kernel⟩ }

/-- The seed has upserted the portal. Then Alice registers it, and the seed replaces the
    callbacks. -/
def besideCues : List seeder.Cue :=
  .arrive (.seed portalSeed) :: List.replicate 2 (.perform 0 ()) ++
    .arrive (.server (.register aliceSession portalBody)) :: List.replicate 12 (.perform 1 ()) ++
    List.replicate 2 (.perform 0 ())

def sparesRows (s : ServerState Ledger) (op : LiveOp) : Bool :=
  decide (op.Spares s)

theorem of_sparesRows {s : ServerState Ledger} {op : LiveOp} (h : sparesRows s op = true) :
    op.Spares s :=
  of_decide_eq_true h

def spares (t : liveSeed.Transition) : Bool :=
  match t.move with
  | .perform _ op _ => sparesRows t.before.shared op
  | _ => true

theorem sparesRows_of_spares {t : liveSeed.Transition} (h : spares t = true) : SparesRows t := by
  intro i op r hmove
  unfold spares at h
  rw [hmove] at h
  exact of_sparesRows h

/-- A registration inside a seed: both come to their ends, and a re-run has nothing to do. -/
theorem seed_spares :
    ∃ (ts : List liveSeed.Transition) (c : liveSeed.Config), liveSeed.Run portalsStart ts c ∧
      (c.answer? 0).isSome = true ∧ (c.answer? 1).isSome = true ∧
      tablesOf c ≠ portalsStart.registry ∧
      ∀ random after,
        migrate random (tablesOf c).unmigrated = .ok after →
          after = tablesOf c := by
  have hstart : migrate sameBytes portalsStart.registry.unmigrated = .ok portalsStart.registry :=
    migrated_of_settled (by decide +kernel) (by decide +kernel)
  have hplay : ((seeder.play (idle portalsStart) besideCues).map fun (ts, c) =>
      (ts.all spares, (c.answer? 0).isSome, (c.answer? 1).isSome,
        decide ((tablesOf c).applications.rows = [employeePortal, seededPortal]))) =
        some (true, true, true, false) := by decide +kernel
  obtain ⟨⟨ts, c⟩, hplay, hfacts⟩ := Option.map_eq_some_iff.1 hplay
  simp only [Prod.mk.injEq] at hfacts
  obtain ⟨hspares, hseeded, hregistered, hwritten⟩ := hfacts
  have hrun : liveSeed.Run portalsStart ts c := Player.play_path hplay
  refine ⟨ts, c, hrun, hseeded, hregistered, ?_, ?_⟩
  · intro hsame
    have hrows := congrArg (fun tables => tables.applications.rows) hsame
    exact of_decide_eq_false hwritten hrows
  · refine (rerun_changes_nothing_iff hstart hrun).2 fun t ht => ?_
    exact sparesRows_of_spares (List.all_eq_true.1 hspares t ht)

/-- An application that the seed has registered is given a client id by the re-run. -/
theorem seed_backfilled :
    ¬ ∀ (rt : ServerRuntime) (before : Unmigrated) (s : ServerState Ledger)
        (random : ApplicationRow → { bytes : List UInt8 // bytes.length = 16 })
        (ts : List (live Ledger rt).Transition) (c : (live Ledger rt).Config),
      migrate random before = .ok s.registry → (live Ledger rt).Run s ts c →
        ∀ random' after,
          migrate random' (tablesOf c).unmigrated = .ok after →
            after = tablesOf c := by
  intro hall
  have hstart : migrate sameBytes portalStart.registry.unmigrated = .ok portalStart.registry :=
    migrated_of_settled (by decide +kernel) (by decide +kernel)
  have hplay : ((seeder.play (idle portalStart) (seedCues 4)).map fun (_, c) =>
      let tables := tablesOf c
      (decide (tables.Settled), (migrate sameBytes tables.unmigrated).toOption.isSome)) =
        some (false, true) := by decide +kernel
  obtain ⟨⟨ts, c⟩, hplay, hfacts⟩ := Option.map_eq_some_iff.1 hplay
  obtain ⟨hgap, hruns⟩ := Prod.mk.inj hfacts
  obtain ⟨after, hrerun⟩ := Option.isSome_iff_exists.1 hruns
  have hok := ok_of_toOption hrerun
  have hrun : liveSeed.Run portalStart ts c := Player.play_path hplay
  have hsame := hall portalRuntime _ portalStart sameBytes ts c hstart hrun _ _ hok
  exact of_decide_eq_false hgap ((migrate_unmigrated_iff hok).1 hsame)

end Sample

end OwneX
