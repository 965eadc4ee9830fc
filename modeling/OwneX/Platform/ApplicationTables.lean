import OwneX.Library.KeyedList
import OwneX.Platform.AccessDecision
import OwneX.Platform.Callbacks
import OwneX.Platform.Credentials

set_option autoImplicit false

/-! # The tables of the application registry

`applications`, `application_callbacks` and `authorization_codes` of `supabase/schema.sql`. A table
carries its constraints, and a statement that would break one of them fails and changes nothing. Rows
of `applications` and of `organizations` are never deleted. -/

namespace OwneX

open Js JsNumber KeyedList

/-- `org_id` and `app_slug` -/
abbrev AppKey := Nat × String

/-! ## `applications` -/

structure ApplicationRow where
  orgId : SafeInt
  appSlug : String
  appId : Bytes32
  name : Text
  url : Text
  description : Option Text
  logoUrl : Option Text
  clientId : Option Text
  clientSecretHash : Option Text
  clientSecretUpdatedAt : Option TimeValue
  allowedRoles : List RoleName
  status : ApplicationStatus
deriving DecidableEq

def ApplicationRow.key (row : ApplicationRow) : AppKey :=
  (row.orgId.1, row.appSlug)

def isLowerHexDigit (c : Char) : Bool :=
  (48 ≤ c.toNat && c.toNat ≤ 57) || (97 ≤ c.toNat && c.toNat ≤ 102)

/-- `client_id ~ '^ownex_[0-9a-f]{32}$'` -/
def isClientId (s : Text) : Bool :=
  s.take 6 == CLIENT_ID_PREFIX && s.length == 38 && (s.drop 6).all isLowerHexDigit

/-- The columns that a registration writes. -/
structure ApplicationColumns where
  orgId : Nat
  appSlug : String
  appId : Bytes32
  name : Text
  url : Text
  description : Option Text
  logoUrl : Option Text
  clientId : Text
  /-- A digest and its date, when a secret is issued. -/
  secret : Option (Text × TimeValue)
  allowedRoles : List RoleName
  status : ApplicationStatus

namespace ApplicationColumns

variable (cols : ApplicationColumns)

def key : AppKey := (cols.orgId, cols.appSlug)

def toRow (orgId : SafeInt) : ApplicationRow where
  orgId
  appSlug := cols.appSlug
  appId := cols.appId
  name := cols.name
  url := cols.url
  description := cols.description
  logoUrl := cols.logoUrl
  clientId := some cols.clientId
  clientSecretHash := cols.secret.map (·.1)
  clientSecretUpdatedAt := cols.secret.map (·.2)
  allowedRoles := cols.allowedRoles
  status := cols.status

/-- What the columns make of a row that is there. -/
def onto (row : ApplicationRow) : ApplicationRow where
  orgId := row.orgId
  appSlug := row.appSlug
  appId := cols.appId
  name := cols.name
  url := cols.url
  description := cols.description
  logoUrl := cols.logoUrl
  clientId := some cols.clientId
  clientSecretHash := match cols.secret with
    | some secret => some secret.1
    | none => row.clientSecretHash
  clientSecretUpdatedAt := match cols.secret with
    | some secret => some secret.2
    | none => row.clientSecretUpdatedAt
  allowedRoles := cols.allowedRoles
  status := cols.status

end ApplicationColumns

structure IssuedCredentials where
  clientId : Text
  clientSecretHash : Text
  updatedAt : TimeValue

/-- The columns that an `update` sets. -/
structure ApplicationPatch where
  name : Option Text := none
  url : Option Text := none
  description : Option (Option Text) := none
  logoUrl : Option (Option Text) := none
  allowedRoles : Option (List RoleName) := none
  status : Option ApplicationStatus := none
  credentials : Option IssuedCredentials := none

namespace ApplicationPatch

variable (patch : ApplicationPatch)

/-- Whether any column is set. -/
def isEmpty : Bool :=
  patch.name.isNone && patch.url.isNone && patch.description.isNone && patch.logoUrl.isNone &&
    patch.allowedRoles.isNone && patch.status.isNone && patch.credentials.isNone

def onto (row : ApplicationRow) : ApplicationRow where
  orgId := row.orgId
  appSlug := row.appSlug
  appId := row.appId
  name := patch.name.getD row.name
  url := patch.url.getD row.url
  description := patch.description.getD row.description
  logoUrl := patch.logoUrl.getD row.logoUrl
  clientId := match patch.credentials with
    | some issued => some issued.clientId
    | none => row.clientId
  clientSecretHash := match patch.credentials with
    | some issued => some issued.clientSecretHash
    | none => row.clientSecretHash
  clientSecretUpdatedAt := match patch.credentials with
    | some issued => some issued.updatedAt
    | none => row.clientSecretUpdatedAt
  allowedRoles := patch.allowedRoles.getD row.allowedRoles
  status := patch.status.getD row.status

end ApplicationPatch

/-- The constraints of the table. -/
structure ApplicationRow.Lawful (rows : List ApplicationRow) : Prop where
  primaryKey : (rows.map ApplicationRow.key).Nodup
  clientIdKey : (rows.filterMap ApplicationRow.clientId).Nodup
  clientIdFormat : ∀ row ∈ rows, row.clientId.all isClientId = true

instance (rows : List ApplicationRow) : Decidable (ApplicationRow.Lawful rows) :=
  decidable_of_iff
    ((rows.map ApplicationRow.key).Nodup ∧ (rows.filterMap ApplicationRow.clientId).Nodup ∧
      ∀ row ∈ rows, row.clientId.all isClientId = true)
    ⟨fun ⟨h, h', h''⟩ => ⟨h, h', h''⟩, fun ⟨h, h', h''⟩ => ⟨h, h', h''⟩⟩

/-- The constraints are about the keys and the client ids only. -/
theorem ApplicationRow.Lawful.modify {rows : List ApplicationRow} (h : ApplicationRow.Lawful rows)
    {p : ApplicationRow → Bool} {f : ApplicationRow → ApplicationRow}
    (hkey : ∀ row, (f row).key = row.key) (hclientId : ∀ row, (f row).clientId = row.clientId) :
    ApplicationRow.Lawful (KeyedList.modify p f rows) where
  primaryKey := nodup_modify hkey h.primaryKey
  clientIdKey := by
    have hsame : (KeyedList.modify p f rows).filterMap ApplicationRow.clientId =
        rows.filterMap ApplicationRow.clientId := by
      unfold KeyedList.modify
      rw [List.filterMap_map]
      refine List.filterMap_congr fun row _ => ?_
      rw [Function.comp_apply]
      split
      · exact hclientId row
      · rfl
    rw [hsame]
    exact h.clientIdKey
  clientIdFormat := by
    intro row hrow
    obtain ⟨row', hrow', rfl⟩ := mem_modify.1 hrow
    split
    · rw [hclientId]
      exact h.clientIdFormat row' hrow'
    · exact h.clientIdFormat row' hrow'

structure ApplicationTable where
  rows : List ApplicationRow
  lawful : ApplicationRow.Lawful rows

namespace ApplicationTable

variable (table : ApplicationTable)

def empty : ApplicationTable := ⟨[], by simp, by simp, by simp⟩

/-- The new rows, unless they break a constraint. -/
def commit (rows : List ApplicationRow) : Except String Unit × ApplicationTable :=
  if h : ApplicationRow.Lawful rows then (.ok (), ⟨rows, h⟩)
  else (.error "violates a constraint", table)

/-- `upsert(.., { onConflict: "org_id,app_slug" })`. The organization has to be there. -/
def upsert (organizations : List SafeInt) (cols : ApplicationColumns) :
    Except String Unit × ApplicationTable :=
  match organizations.find? fun orgId => orgId.1 = cols.orgId with
  | none => (.error "violates a foreign key constraint", table)
  | some orgId =>
      table.commit
        (KeyedList.upsert ApplicationRow.key cols.key (cols.toRow orgId) cols.onto table.rows)

/-- `update(patch).eq("org_id", ..).eq("app_slug", ..)` -/
def update (key : AppKey) (patch : ApplicationPatch) : Except String Unit × ApplicationTable :=
  table.commit (modify (fun row => decide (row.key = key)) patch.onto table.rows)

def findByKey (key : AppKey) : Option ApplicationRow :=
  lookup ApplicationRow.key table.rows key

def findByClientId (clientId : Text) : Option ApplicationRow :=
  table.rows.find? fun row => row.clientId = some clientId

theorem commit_cases {rows : List ApplicationRow} :
    (∃ e, table.commit rows = (.error e, table)) ∨ (table.commit rows).2.rows = rows := by
  unfold commit
  split
  · exact .inr rfl
  · exact .inl ⟨_, rfl⟩

variable {table}

theorem mem_of_findByClientId {clientId : Text} {row : ApplicationRow}
    (h : table.findByClientId clientId = some row) :
    row ∈ table.rows ∧ row.clientId = some clientId := by
  have hfound := List.find?_some h
  exact ⟨List.mem_of_find?_eq_some h, of_decide_eq_true hfound⟩

/-- Client ids are unique. -/
theorem findByClientId_eq_some_iff {clientId : Text} {row : ApplicationRow} :
    table.findByClientId clientId = some row ↔
      row ∈ table.rows ∧ row.clientId = some clientId := by
  refine ⟨mem_of_findByClientId, ?_⟩
  rintro ⟨hrow, hclientId⟩
  cases hfind : table.findByClientId clientId with
  | none =>
      exact absurd (decide_eq_true hclientId) (List.find?_eq_none.1 hfind row hrow)
  | some row' =>
      obtain ⟨hrow', hclientId'⟩ := mem_of_findByClientId hfind
      rw [eq_of_nodup_filterMap table.lawful.clientIdKey hrow' hrow hclientId' hclientId]

theorem findByKey_eq_some_iff {key : AppKey} {row : ApplicationRow} :
    table.findByKey key = some row ↔ row ∈ table.rows ∧ row.key = key :=
  lookup_eq_some_iff table.lawful.primaryKey

/-- What an upsert makes of every row. -/
theorem findByKey_upsert (organizations : List SafeInt) (cols : ApplicationColumns) :
    (∃ e, table.upsert organizations cols = (.error e, table)) ∨
      ∃ orgId : SafeInt, ∀ key, (table.upsert organizations cols).2.findByKey key =
        if key = cols.key then
          some ((table.findByKey cols.key).elim (cols.toRow orgId) cols.onto)
        else table.findByKey key := by
  unfold upsert
  split
  · exact .inl ⟨_, rfl⟩
  next orgId hfind =>
      have horg := List.find?_some hfind
      rw [decide_eq_true_eq] at horg
      rcases table.commit_cases with hfailed | hrows
      · exact .inl hfailed
      · refine .inr ⟨orgId, fun key => ?_⟩
        have hkey : (cols.toRow orgId).key = cols.key := Prod.ext horg rfl
        have honto : ∀ row, (cols.onto row).key = row.key := fun _ => rfl
        unfold findByKey
        rw [hrows]
        exact lookup_upsert hkey honto table.rows key

/-- What an update makes of every row. -/
theorem findByKey_update (key : AppKey) (patch : ApplicationPatch) :
    (∃ e, table.update key patch = (.error e, table)) ∨
      ∀ key', (table.update key patch).2.findByKey key' =
        (table.findByKey key').map fun row => if row.key = key then patch.onto row else row := by
  unfold update
  rcases table.commit_cases with hfailed | hrows
  · exact .inl hfailed
  · refine .inr fun key' => ?_
    have honto : ∀ row, (patch.onto row).key = row.key := fun _ => rfl
    unfold findByKey
    rw [hrows, lookup_modify honto]
    simp only [decide_eq_true_eq]

/-- An update that issues no credentials breaks no constraint. -/
theorem findByKey_update_of_unissued {patch : ApplicationPatch} (h : patch.credentials = none)
    (key key' : AppKey) :
    (table.update key patch).2.findByKey key' =
      (table.findByKey key').map fun row => if row.key = key then patch.onto row else row := by
  have honto : ∀ row, (patch.onto row).key = row.key := fun _ => rfl
  have hclientId : ∀ row, (patch.onto row).clientId = row.clientId := by
    intro row
    unfold ApplicationPatch.onto
    rw [h]
  unfold update commit findByKey
  rw [dif_pos (table.lawful.modify honto hclientId), lookup_modify honto]
  simp only [decide_eq_true_eq]

/-- An upsert brings no slug but its own. -/
theorem slug_of_upsert {organizations : List SafeInt} {cols : ApplicationColumns}
    {row : ApplicationRow} (h : row ∈ (table.upsert organizations cols).2.rows) :
    (∃ row' ∈ table.rows, row'.appSlug = row.appSlug) ∨ row.appSlug = cols.appSlug := by
  rcases @findByKey_upsert table organizations cols with ⟨e, heq⟩ | ⟨orgId, hrows⟩
  · exact .inl ⟨row, by rwa [heq] at h, rfl⟩
  · by_cases hkey : row.key = cols.key
    · exact .inr (congrArg Prod.snd hkey)
    · have hfound := findByKey_eq_some_iff.2 ⟨h, rfl⟩
      rw [hrows, if_neg hkey] at hfound
      exact .inl ⟨row, (findByKey_eq_some_iff.1 hfound).1, rfl⟩

theorem slug_of_update {key : AppKey} {patch : ApplicationPatch} {row : ApplicationRow}
    (h : row ∈ (table.update key patch).2.rows) :
    ∃ row' ∈ table.rows, row'.appSlug = row.appSlug := by
  rcases @findByKey_update table key patch with ⟨e, heq⟩ | hrows
  · exact ⟨row, by rwa [heq] at h, rfl⟩
  · have hfound := findByKey_eq_some_iff.2 ⟨h, rfl⟩
    rw [hrows] at hfound
    obtain ⟨row', hrow', hsame⟩ := Option.map_eq_some_iff.1 hfound
    refine ⟨row', (findByKey_eq_some_iff.1 hrow').1, ?_⟩
    rw [← hsame]
    split <;> rfl

end ApplicationTable

/-! ## `application_callbacks` -/

/-- `\s` in a regular expression of the database: `iswspace`. -/
def isSpace (c : Char) : Bool :=
  (9 ≤ c.toNat && c.toNat ≤ 13) || (8192 ≤ c.toNat && c.toNat ≤ 8198)
    || (8200 ≤ c.toNat && c.toNat ≤ 8202) || [32, 5760, 8232, 8233, 8287, 12288].contains c.toNat

/-- `^https?://[..]+$`, with `allowed` for the class. -/
def isHttpText (allowed : Char → Bool) (s : Text) : Bool :=
  [(after? "http://".toList s), (after? "https://".toList s)].any fun rest =>
    rest.any fun rest => rest != [] && rest.all allowed

/-- `callback_url ~ '^https?://[^\s?#]+$' and length(callback_url) between 8 and 2048` -/
def isStorableCallback (s : Text) : Bool :=
  isHttpText (fun c => !isSpace c && c != '?' && c != '#') s && decide (8 ≤ s.length) &&
    decide (s.length ≤ 2048)

structure CallbackRow where
  app : AppKey
  url : Text
deriving DecidableEq

structure CallbackRow.Lawful (rows : List CallbackRow) : Prop where
  unique : rows.Nodup
  urlCheck : ∀ row ∈ rows, isStorableCallback row.url = true

instance (rows : List CallbackRow) : Decidable (CallbackRow.Lawful rows) :=
  decidable_of_iff (rows.Nodup ∧ ∀ row ∈ rows, isStorableCallback row.url = true)
    ⟨fun ⟨h, h'⟩ => ⟨h, h'⟩, fun ⟨h, h'⟩ => ⟨h, h'⟩⟩

structure CallbackTable where
  rows : List CallbackRow
  lawful : CallbackRow.Lawful rows

namespace CallbackTable

variable (table : CallbackTable)

def empty : CallbackTable := ⟨[], by simp, by simp⟩

/-- One statement for all of them. The application has to be there. -/
def insert (applications : ApplicationTable) (app : AppKey) (urls : List Text) :
    Except String Unit × CallbackTable :=
  let rows := table.rows ++ urls.map fun url => ⟨app, url⟩
  if (applications.findByKey app).isNone then (.error "violates a foreign key constraint", table)
  else if h : CallbackRow.Lawful rows then (.ok (), ⟨rows, h⟩)
  else (.error "violates a constraint", table)

def delete (app : AppKey) : CallbackTable where
  rows := table.rows.filter fun row => row.app ≠ app
  lawful := ⟨table.lawful.unique.filter _, fun row hrow =>
    table.lawful.urlCheck row (List.mem_of_mem_filter hrow)⟩

/-- `order("callback_url", { ascending: true })` in the order of the database. -/
def select (collate : Text → Text → Bool) (app : AppKey) : List Text :=
  ((table.rows.filter fun row => row.app = app).map (·.url)).mergeSort collate

variable {table}

theorem mem_select {collate : Text → Text → Bool} {app : AppKey} {url : Text} :
    url ∈ table.select collate app ↔ ⟨app, url⟩ ∈ table.rows := by
  unfold select
  rw [List.mem_mergeSort, List.mem_map]
  constructor
  · rintro ⟨⟨app', url'⟩, hrow, rfl⟩
    obtain ⟨hmem, happ⟩ := List.mem_filter.1 hrow
    obtain rfl : app' = app := of_decide_eq_true happ
    exact hmem
  · intro hmem
    exact ⟨⟨app, url⟩, List.mem_filter.2 ⟨hmem, decide_eq_true rfl⟩, rfl⟩

end CallbackTable

/-! ## `authorization_codes` -/

structure CodeRow where
  code : Text
  clientId : Text
  appSlug : String
  orgId : SafeInt
  walletAddress : Address
  redirectUri : Text
  expiresAt : TimeValue
  usedAt : Option TimeValue
deriving DecidableEq

/-- Everything but whether it has been used. -/
def CodeRow.issued (row : CodeRow) : CodeRow :=
  { row with usedAt := none }

structure ConsumeQuery where
  code : Text
  clientId : Text
  redirectUri : Text
  now : TimeValue
deriving DecidableEq

structure ConsumedGrant where
  appSlug : String
  orgId : SafeInt
  wallet : Address
  redirectUri : Text
deriving DecidableEq

def CodeRow.grant (row : CodeRow) : ConsumedGrant where
  appSlug := row.appSlug
  orgId := row.orgId
  wallet := row.walletAddress
  redirectUri := row.redirectUri

structure CodeTable where
  rows : List CodeRow
  unique : (rows.map CodeRow.code).Nodup

namespace CodeTable

variable (table : CodeTable)

def empty : CodeTable := ⟨[], List.nodup_nil⟩

/-- `redirect_uri ~ '^https?://[^\s]+$'` -/
def isRedirectUri (s : Text) : Bool :=
  isHttpText (fun c => !isSpace c) s

def insert (row : CodeRow) : Except String Unit × CodeTable :=
  if h : row.code ∈ table.rows.map CodeRow.code then (.error "duplicate key value", table)
  else if !isRedirectUri row.redirectUri then (.error "violates a check constraint", table)
  else
    (.ok (),
      { rows := table.rows ++ [row]
        unique := by
          have hnodup := nodup_insertNew table.unique row
          rwa [insertNew, if_neg h] at hnodup })

/-- The row that `consume` changes. -/
def consumable (query : ConsumeQuery) (row : CodeRow) : Bool :=
  row.code == query.code && row.clientId == query.clientId &&
    row.redirectUri == query.redirectUri && row.usedAt.isNone &&
    decide (query.now.1 < row.expiresAt.1)

/-- The conditional `UPDATE`, and the row it returns. -/
def consume (query : ConsumeQuery) : Option ConsumedGrant × CodeTable :=
  ((table.rows.find? (consumable query)).map CodeRow.grant,
    { rows := modify (consumable query) (fun row => { row with usedAt := some query.now }) table.rows
      unique := nodup_modify (f := fun row : CodeRow => { row with usedAt := some query.now })
        (fun _ => rfl) table.unique })

end CodeTable

end OwneX
