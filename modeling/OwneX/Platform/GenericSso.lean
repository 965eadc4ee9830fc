import OwneX.Platform.ApplicationTables

set_option autoImplicit false

/-! # `migrations/0001_generic_sso.sql`

The migration adds columns and a table where they are missing, which a re-run does not repeat. Its
backfills are guarded by what the rows hold: an application without a client id gets one, and the
employee portal gets the callbacks and the roles it is supposed to have. So a re-run leaves the rows
alone just where none of them asks for a backfill (`Settled`). -/

namespace OwneX

open Js JsNumber KeyedList

def EMPLOYEE_PORTAL : String := "employee-portal"

def EMPLOYEE_PORTAL_CALLBACKS : List Text :=
  ["http://localhost:3001/callback".toList,
    "https://ownex-employee-portal.vercel.app/callback".toList]

structure RegistryTables where
  applications : ApplicationTable
  callbacks : CallbackTable
  codes : CodeTable

/-! ## Before the migration -/

/-- A code that may predate its columns `client_id` and `org_id`. -/
structure UnboundCode where
  code : Text
  clientId : Option Text
  appSlug : String
  orgId : Option SafeInt
  walletAddress : Address
  redirectUri : Text
  expiresAt : TimeValue
  usedAt : Option TimeValue

/-- The code, if it is bound to a client and an organization. -/
def UnboundCode.bound (row : UnboundCode) : Option CodeRow :=
  match row.clientId, row.orgId with
  | some clientId, some orgId =>
      some { row with clientId, orgId }
  | _, _ => none

def CodeRow.unbound (row : CodeRow) : UnboundCode :=
  { row with clientId := some row.clientId, orgId := some row.orgId }

/-- A database in which the columns and the table have been added. -/
structure Unmigrated where
  applications : ApplicationTable
  callbacks : CallbackTable
  codes : List UnboundCode
  codeKey : (codes.map UnboundCode.code).Nodup
  /-- Whether the constraint on `redirect_uri` is there already. -/
  redirectChecked : Bool

theorem code_of_bound {row : UnboundCode} {row' : CodeRow} (h : row.bound = some row') :
    row'.code = row.code := by
  unfold UnboundCode.bound at h
  split at h
  · rw [← Option.some.inj h]
  · cases h

/-- Codes that cannot be bound are deleted. -/
def Unmigrated.boundCodes (before : Unmigrated) : CodeTable where
  rows := before.codes.filterMap UnboundCode.bound
  unique := by
    have hcodes : before.codes.Pairwise fun row row' => row.code ≠ row'.code :=
      List.pairwise_map.1 before.codeKey
    refine List.pairwise_map.2 (hcodes.filterMap _ ?_)
    intro row row' hne code hcode code' hcode'
    rw [code_of_bound hcode, code_of_bound hcode']
    exact hne

/-- What a re-run finds. -/
def RegistryTables.unmigrated (tables : RegistryTables) : Unmigrated where
  applications := tables.applications
  callbacks := tables.callbacks
  codes := tables.codes.rows.map CodeRow.unbound
  codeKey := by
    rw [List.map_map]
    exact tables.codes.unique
  redirectChecked := true

/-! ## The migration -/

/-- `'ownex_' || encode(gen_random_bytes(16), 'hex')` -/
def withClientId (random : ApplicationRow → { bytes : List UInt8 // bytes.length = 16 })
    (row : ApplicationRow) : ApplicationRow :=
  { row with clientId := some (CLIENT_ID_PREFIX ++ hexOfBytes (random row).1) }

def lacksRoles (row : ApplicationRow) : Bool :=
  row.appSlug == EMPLOYEE_PORTAL && row.allowedRoles.isEmpty

def withRoles (row : ApplicationRow) : ApplicationRow :=
  { row with allowedRoles := [.admin, .manager, .auditor, .user] }

/-- The callbacks that the employee portal of every organization is to have. -/
def portalCallbacks (applications : ApplicationTable) : List CallbackRow :=
  (applications.rows.filter fun row => row.appSlug == EMPLOYEE_PORTAL).flatMap fun row =>
    EMPLOYEE_PORTAL_CALLBACKS.map fun url => ⟨row.key, url⟩

/-- `insert .. on conflict (org_id, app_slug, callback_url) do nothing` -/
def CallbackTable.insertMissing (table : CallbackTable) (rows : List CallbackRow) :
    Except String CallbackTable :=
  let rows := table.rows ++ rows.filter fun row => decide (row ∉ table.rows)
  if h : CallbackRow.Lawful rows then .ok ⟨rows, h⟩
  else .error "violates a constraint"

/-- The table after a statement that must not fail. -/
def committed {α : Type} (outcome : Except String Unit × α) : Except String α :=
  outcome.1.map fun _ => outcome.2

/-- The statements that touch rows, in order. A row's random bytes are its own. -/
def migrate (random : ApplicationRow → { bytes : List UInt8 // bytes.length = 16 })
    (before : Unmigrated) : Except String RegistryTables := do
  let applications ← committed (before.applications.commit
    (modify (fun row => row.clientId.isNone) (withClientId random) before.applications.rows))
  let callbacks ← before.callbacks.insertMissing (portalCallbacks applications)
  let applications ← committed (applications.commit
    (modify lacksRoles withRoles applications.rows))
  let codes := before.boundCodes
  let checked := codes.rows.all fun row => CodeTable.isRedirectUri row.redirectUri
  if before.redirectChecked || checked then
    return ⟨applications, callbacks, codes⟩
  else throw "violates a check constraint"

/-! ## What it does -/

theorem ApplicationTable.eq_of_rows {table table' : ApplicationTable}
    (h : table.rows = table'.rows) : table = table' := by
  cases table
  cases table'
  cases h
  rfl

theorem CallbackTable.eq_of_rows {table table' : CallbackTable} (h : table.rows = table'.rows) :
    table = table' := by
  cases table
  cases table'
  cases h
  rfl

theorem CodeTable.eq_of_rows {table table' : CodeTable} (h : table.rows = table'.rows) :
    table = table' := by
  cases table
  cases table'
  cases h
  rfl

theorem ok_of_bind {α β : Type} {x : Except String α} {f : α → Except String β} {b : β}
    (h : (x >>= f) = .ok b) : ∃ a, x = .ok a ∧ f a = .ok b := by
  cases x with
  | error e => cases h
  | ok a => exact ⟨a, rfl, h⟩

theorem rows_of_committed {table table' : ApplicationTable} {rows : List ApplicationRow}
    (h : committed (table.commit rows) = .ok table') : table'.rows = rows := by
  unfold committed ApplicationTable.commit at h
  split at h
  · cases h
    rfl
  · cases h

theorem rows_of_insertMissing {table table' : CallbackTable} {rows : List CallbackRow}
    (h : table.insertMissing rows = .ok table') :
    table'.rows = table.rows ++ rows.filter fun row => decide (row ∉ table.rows) := by
  unfold CallbackTable.insertMissing at h
  dsimp only at h
  split at h
  · cases h
    rfl
  · cases h

/-- The two backfills of a row. -/
def backfilled (random : ApplicationRow → { bytes : List UInt8 // bytes.length = 16 })
    (row : ApplicationRow) : ApplicationRow :=
  let row := if row.clientId.isNone then withClientId random row else row
  if lacksRoles row then withRoles row else row

variable {random : ApplicationRow → { bytes : List UInt8 // bytes.length = 16 }}

/-- What a migration that runs to its end has made of the rows. -/
theorem rows_of_migrate {before : Unmigrated} {after : RegistryTables}
    (h : migrate random before = .ok after) :
    ∃ applications : ApplicationTable,
      applications.rows = modify (fun row => row.clientId.isNone) (withClientId random)
        before.applications.rows ∧
      after.applications.rows = before.applications.rows.map (backfilled random) ∧
      after.callbacks.rows = before.callbacks.rows ++
        ((portalCallbacks applications).filter fun row => decide (row ∉ before.callbacks.rows)) ∧
      after.codes = before.boundCodes := by
  unfold migrate at h
  obtain ⟨applications, happlications, h⟩ := ok_of_bind h
  obtain ⟨callbacks, hcallbacks, h⟩ := ok_of_bind h
  obtain ⟨granted, hgranted, h⟩ := ok_of_bind h
  have hrows := rows_of_committed happlications
  dsimp only at h
  split at h
  · cases h
    refine ⟨applications, hrows, ?_, rows_of_insertMissing hcallbacks, rfl⟩
    rw [rows_of_committed hgranted, hrows]
    exact List.map_map
  · cases h

/-! ## What a re-run leaves alone -/

/-- No row asks for a backfill. -/
structure RegistryTables.Settled (tables : RegistryTables) : Prop where
  clientIds : ∀ row ∈ tables.applications.rows, row.clientId ≠ none
  roles : ∀ row ∈ tables.applications.rows, row.appSlug = EMPLOYEE_PORTAL → row.allowedRoles ≠ []
  callbacks : ∀ row ∈ tables.applications.rows, row.appSlug = EMPLOYEE_PORTAL →
    ∀ url ∈ EMPLOYEE_PORTAL_CALLBACKS, ⟨row.key, url⟩ ∈ tables.callbacks.rows

instance (tables : RegistryTables) : Decidable (tables.Settled) :=
  decidable_of_iff
    ((∀ row ∈ tables.applications.rows, row.clientId ≠ none) ∧
      (∀ row ∈ tables.applications.rows, row.appSlug = EMPLOYEE_PORTAL → row.allowedRoles ≠ []) ∧
      ∀ row ∈ tables.applications.rows, row.appSlug = EMPLOYEE_PORTAL →
        ∀ url ∈ EMPLOYEE_PORTAL_CALLBACKS, ⟨row.key, url⟩ ∈ tables.callbacks.rows)
    ⟨fun ⟨h, h', h''⟩ => ⟨h, h', h''⟩, fun ⟨h, h', h''⟩ => ⟨h, h', h''⟩⟩

variable (random) in
/-- The slug is never changed, and what a backfill is for is there afterwards. -/
theorem backfilled_complete (row : ApplicationRow) :
    (backfilled random row).key = row.key ∧ (backfilled random row).clientId ≠ none ∧
      ((backfilled random row).appSlug = EMPLOYEE_PORTAL →
        (backfilled random row).allowedRoles ≠ []) := by
  have hissued : ∀ row' : ApplicationRow, row'.key = row.key ∧ row'.clientId ≠ none →
      (if lacksRoles row' then withRoles row' else row').key = row.key ∧
      (if lacksRoles row' then withRoles row' else row').clientId ≠ none ∧
      ((if lacksRoles row' then withRoles row' else row').appSlug = EMPLOYEE_PORTAL →
        (if lacksRoles row' then withRoles row' else row').allowedRoles ≠ []) := by
    intro row' ⟨hkey, hclientId⟩
    split
    · exact ⟨hkey, hclientId, fun _ => List.cons_ne_nil _ _⟩
    next hroles =>
        refine ⟨hkey, hclientId, fun hslug hnil => hroles ?_⟩
        simp [lacksRoles, hslug, hnil]
  unfold backfilled
  refine hissued _ ?_
  split
  · exact ⟨rfl, Option.some_ne_none _⟩
  next hthere => exact ⟨rfl, fun hnone => hthere (by simp [hnone])⟩

theorem backfilled_eq_self_iff (row : ApplicationRow) :
    backfilled random row = row ↔
      row.clientId ≠ none ∧ (row.appSlug = EMPLOYEE_PORTAL → row.allowedRoles ≠ []) := by
  constructor
  · intro h
    obtain ⟨-, hcomplete⟩ := backfilled_complete random row
    rwa [h] at hcomplete
  · intro ⟨hclientId, hroles⟩
    have hthere : ¬ row.clientId.isNone := by simpa using hclientId
    have hgranted : ¬ lacksRoles row := by
      intro hlacks
      obtain ⟨hslug, hnil⟩ := Bool.and_eq_true_iff.1 hlacks
      exact hroles (eq_of_beq hslug) (List.isEmpty_iff.1 hnil)
    unfold backfilled
    rw [if_neg hthere, if_neg hgranted]

theorem mem_portalCallbacks {applications : ApplicationTable} {callback : CallbackRow} :
    callback ∈ portalCallbacks applications ↔
      ∃ row ∈ applications.rows, row.appSlug = EMPLOYEE_PORTAL ∧
        ∃ url ∈ EMPLOYEE_PORTAL_CALLBACKS, ⟨row.key, url⟩ = callback := by
  unfold portalCallbacks
  simp only [List.mem_flatMap, List.mem_filter, List.mem_map, beq_iff_eq, and_assoc]

/-- The migration leaves no gaps. -/
theorem settled_of_migrate {before : Unmigrated} {after : RegistryTables}
    (h : migrate random before = .ok after) : after.Settled := by
  obtain ⟨applications, hissued, hrows, hcallbacks, -⟩ := rows_of_migrate h
  refine ⟨?_, ?_, ?_⟩
  · intro row hrow
    rw [hrows] at hrow
    obtain ⟨row, -, rfl⟩ := List.mem_map.1 hrow
    exact (backfilled_complete random row).2.1
  · intro row hrow
    rw [hrows] at hrow
    obtain ⟨row, -, rfl⟩ := List.mem_map.1 hrow
    exact (backfilled_complete random row).2.2
  · intro row hrow hslug url hurl
    rw [hrows] at hrow
    obtain ⟨row, hbefore, rfl⟩ := List.mem_map.1 hrow
    have hkey := (backfilled_complete random row).1
    -- The statement for the callbacks comes between the two backfills.
    have hcallback : (⟨row.key, url⟩ : CallbackRow) ∈ portalCallbacks applications := by
      have hthere : (if row.clientId.isNone then withClientId random row else row) ∈
          applications.rows := hissued ▸ mem_modify.2 ⟨row, hbefore, rfl⟩
      refine mem_portalCallbacks.2 ⟨_, hthere, ?_, url, hurl, ?_⟩
      · have hslug' : row.appSlug = EMPLOYEE_PORTAL := (congrArg Prod.snd hkey).symm.trans hslug
        split <;> exact hslug'
      · split <;> rfl
    rw [hkey, hcallbacks, List.mem_append, List.mem_filter, decide_eq_true_eq]
    by_cases hold : (⟨row.key, url⟩ : CallbackRow) ∈ before.callbacks.rows
    · exact .inl hold
    · exact .inr ⟨hcallback, hold⟩

theorem boundCodes_unmigrated (tables : RegistryTables) :
    tables.unmigrated.boundCodes = tables.codes := by
  refine CodeTable.eq_of_rows ?_
  have hbound : UnboundCode.bound ∘ CodeRow.unbound = some := funext fun _ => rfl
  simp only [Unmigrated.boundCodes, RegistryTables.unmigrated, List.filterMap_map, hbound,
    List.filterMap_some]

/-- A re-run changes no row just where no row asks for a backfill. -/
theorem migrate_unmigrated_iff {tables after : RegistryTables}
    (h : migrate random tables.unmigrated = .ok after) : after = tables ↔ tables.Settled := by
  constructor
  · intro heq
    exact heq ▸ settled_of_migrate h
  · intro hsettled
    obtain ⟨applications, hissued, hrows, hcallbacks, hcodes⟩ := rows_of_migrate h
    have hsame : ∀ row ∈ tables.applications.rows, backfilled random row = row :=
      fun row hrow => (backfilled_eq_self_iff row).2
        ⟨hsettled.clientIds row hrow, hsettled.roles row hrow⟩
    have hnone : applications.rows = tables.applications.rows := by
      refine hissued.trans ?_
      refine (List.map_congr_left fun row hrow => ?_).trans (List.map_id _)
      have hthere : ¬ row.clientId.isNone := by simpa using hsettled.clientIds row hrow
      exact if_neg hthere
    cases after
    cases tables
    congr 1
    · exact ApplicationTable.eq_of_rows
        (hrows.trans ((List.map_congr_left hsame).trans (List.map_id _)))
    · refine CallbackTable.eq_of_rows (hcallbacks.trans ?_)
      refine List.append_right_eq_self.2 (List.filter_eq_nil_iff.2 fun callback hcallback => ?_)
      obtain ⟨row, hrow, hslug, url, hurl, rfl⟩ := mem_portalCallbacks.1 hcallback
      have hthere := hsettled.callbacks row (hnone ▸ hrow) hslug url hurl
      rw [decide_eq_true_eq, not_not]
      exact hthere
    · exact hcodes.trans (boundCodes_unmigrated _)

end OwneX
