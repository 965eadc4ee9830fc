import OwneX.Library.KeyedList
import OwneX.Platform.Records

set_option autoImplicit false

/-! # The table `assets`

A row is a draft until it is bound to a token. A token id means something only together with the
contract that issued it, so a row may be stamped with a deployment, and the unique index of the table
is on the stamp and the token id. Before migration 0002 there are no columns for the stamp; a
statement that names them fails then, and the index is on the token id alone. A statement that would
break a constraint fails and changes nothing. -/

namespace OwneX

open KeyedList JsNumber

/-! ## `lib/supabase.ts` -/

/-- What the client of the database reports. -/
structure DbError where
  code : Option String
  message : Option String
deriving DecidableEq

/-- Something else already holds the value. -/
def isUniqueViolation (error : DbError) : Bool :=
  error.code == some "23505"

/-- The column does not exist in this database yet. -/
def isUnknownColumn (error : DbError) : Bool :=
  error.code == some "PGRST204" || error.code == some "42703"

/-! ## Rows -/

/-- Which `AssetNFT` a server is talking to. -/
structure AssetDeployment where
  chainId : Nat
  /-- In lower case. -/
  contractAddress : Address
deriving DecidableEq

structure StoredAsset extends AssetRow where
  chainId : Option Nat
  mintTxHash : Option String
  createdBy : Option Address
deriving DecidableEq

namespace StoredAsset

/-- `(coalesce(contract_address, 'unstamped'), token_id) where token_id is not null` -/
def tokenKey (row : StoredAsset) : Option (Option Address × Nat) :=
  row.tokenId.map fun tokenId => (row.contractAddress, tokenId)

/-- The constraints of the table. -/
structure Lawful (rows : List StoredAsset) : Prop where
  primaryKey : (rows.map (·.id)).Nodup
  tokenPerDeployment : (rows.filterMap tokenKey).Nodup

instance (rows : List StoredAsset) : Decidable (Lawful rows) :=
  decidable_of_iff ((rows.map (·.id)).Nodup ∧ (rows.filterMap tokenKey).Nodup)
    ⟨fun ⟨h, h'⟩ => ⟨h, h'⟩, fun ⟨h, h'⟩ => ⟨h, h'⟩⟩

/-- No two rows hold one token under one stamp. -/
theorem lawful_iff {rows : List StoredAsset} :
    Lawful rows ↔ (rows.map (·.id)).Nodup ∧ ∀ row ∈ rows, ∀ row' ∈ rows, ∀ key,
      row.tokenKey = some key → row'.tokenKey = some key → row = row' := by
  constructor
  · intro h
    exact ⟨h.primaryKey, fun row hrow row' hrow' key hkey hkey' =>
      eq_of_nodup_filterMap h.tokenPerDeployment hrow hrow' hkey hkey'⟩
  · rintro ⟨hids, hkeys⟩
    refine ⟨hids, List.pairwise_filterMap.2 ?_⟩
    refine (List.Nodup.of_map _ hids).pairwise_of_forall_ne ?_
    intro row hrow row' hrow' hne key hkey key' hkey' heq
    subst heq
    exact hne (hkeys row hrow row' hrow' key hkey hkey')

/-- Rows that keep their ids and come to hold no token that they did not hold. -/
theorem Lawful.map {rows : List StoredAsset} (h : Lawful rows) {f : StoredAsset → StoredAsset}
    (hid : ∀ row, (f row).id = row.id)
    (hkey : ∀ row key, (f row).tokenKey = some key → row.tokenKey = some key) :
    Lawful (rows.map f) := by
  refine lawful_iff.2 ⟨?_, ?_⟩
  · have hsame : (fun row : StoredAsset => row.id) ∘ f = fun row => row.id := funext hid
    rw [List.map_map, hsame]
    exact h.primaryKey
  · intro row hrow row' hrow' key hrowKey hrowKey'
    obtain ⟨row, hmem, rfl⟩ := List.mem_map.1 hrow
    obtain ⟨row', hmem', rfl⟩ := List.mem_map.1 hrow'
    rw [(lawful_iff.1 h).2 row hmem row' hmem' key (hkey _ _ hrowKey) (hkey _ _ hrowKey')]

/-- Not stamped with anything. -/
def Unstamped (row : StoredAsset) : Prop :=
  row.contractAddress = none ∧ row.chainId = none

end StoredAsset

structure AssetStore where
  rows : List StoredAsset
  /-- Whether the table has the columns of migration 0002. -/
  migrated : Bool
  lawful : StoredAsset.Lawful rows
  unstamped : migrated = false → ∀ row ∈ rows, row.Unstamped

/-! ## Statements -/

/-- The columns that an `update` sets. -/
structure AssetPatch where
  /-- `token_id` and `mint_tx_hash` -/
  binding : Option (Option Nat × Option String) := none
  /-- `chain_id` and `contract_address` -/
  stamp : Option AssetDeployment := none
  metadataUri : Option String := none
deriving DecidableEq

def AssetPatch.onto (patch : AssetPatch) (row : StoredAsset) : StoredAsset :=
  { row with
    tokenId := (patch.binding.map (·.1)).getD row.tokenId
    mintTxHash := (patch.binding.map (·.2)).getD row.mintTxHash
    chainId := (patch.stamp.map fun D => some D.chainId).getD row.chainId
    contractAddress := (patch.stamp.map fun D => some D.contractAddress).getD row.contractAddress
    metadataUri := (patch.metadataUri.map some).getD row.metadataUri }

/-- `eq("id", ..)`, and for `some` also `eq("token_id", ..)` or `is("token_id", null)`. -/
structure AssetFilter where
  id : String
  tokenId : Option (Option Nat) := none
deriving DecidableEq

def AssetFilter.admits (filter : AssetFilter) (row : StoredAsset) : Bool :=
  row.id == filter.id && filter.tokenId.all fun tokenId => row.tokenId == tokenId

/-- The columns that a draft is made of. -/
structure AssetDraft where
  orgId : SafeInt
  name : String
  description : Option String
  assetType : String
  department : Option String
  imageUrl : Option String
  serialEncrypted : Option String
  invoiceEncrypted : Option String
  assetHash : String
  metadataUri : String
  createdBy : Address
deriving DecidableEq

/-- The row of a draft. The database chooses the id and the date. -/
def AssetDraft.toRow (draft : AssetDraft) (stamp : Option AssetDeployment) (id createdAt : String) :
    StoredAsset where
  id
  tokenId := none
  orgId := draft.orgId
  name := draft.name
  description := draft.description
  assetType := draft.assetType
  department := draft.department
  imageUrl := draft.imageUrl
  assetHash := draft.assetHash
  metadataUri := some draft.metadataUri
  serialEncrypted := draft.serialEncrypted
  invoiceEncrypted := draft.invoiceEncrypted
  createdAt
  contractAddress := stamp.map (·.contractAddress)
  chainId := stamp.map (·.chainId)
  mintTxHash := none
  createdBy := some draft.createdBy

namespace AssetStore

variable (store : AssetStore)

def unknownColumn : DbError := ⟨some "PGRST204", some "Could not find the column"⟩

def duplicateKey : DbError := ⟨some "23505", some "duplicate key value violates unique constraint"⟩

/-- Whether a statement with this stamp names columns that are missing. -/
def lacks (stamp : Option AssetDeployment) : Bool :=
  stamp.isSome && !store.migrated

/-- `update(patch).eq(..)` with `select("id")`. -/
def update (filter : AssetFilter) (patch : AssetPatch) : Except DbError (List String) × AssetStore :=
  if hlacks : store.lacks patch.stamp then (.error unknownColumn, store)
  else
    let rows := modify filter.admits patch.onto store.rows
    if hlawful : StoredAsset.Lawful rows then
      (.ok ((store.rows.filter filter.admits).map (·.id)),
        { rows
          migrated := store.migrated
          lawful := hlawful
          unstamped := by
            intro hmigrated row hrow
            obtain ⟨row', hrow', rfl⟩ := mem_modify.1 hrow
            have hbefore := store.unstamped hmigrated row' hrow'
            have hnone : patch.stamp = none := by
              simpa [lacks, hmigrated] using hlacks
            split
            · simpa [AssetPatch.onto, StoredAsset.Unstamped, hnone] using hbefore
            · exact hbefore })
    else (.error duplicateKey, store)

/-- `insert(draft).select("id").single()` -/
def insert (draft : AssetDraft) (stamp : Option AssetDeployment) (id createdAt : String) :
    Except DbError String × AssetStore :=
  if hlacks : store.lacks stamp then (.error unknownColumn, store)
  else
    let rows := store.rows ++ [draft.toRow stamp id createdAt]
    if hlawful : StoredAsset.Lawful rows then
      (.ok id,
        { rows
          migrated := store.migrated
          lawful := hlawful
          unstamped := by
            intro hmigrated row hrow
            rcases List.mem_append.1 hrow with hrow | hrow
            · exact store.unstamped hmigrated row hrow
            · have hnone : stamp = none := by
                simpa [lacks, hmigrated] using hlacks
              rw [List.mem_singleton.1 hrow, hnone]
              exact ⟨rfl, rfl⟩ })
    else (.error duplicateKey, store)

/-- Migration 0002. -/
def migrate : AssetStore where
  rows := store.rows
  migrated := true
  lawful := store.lawful
  unstamped := fun h => by cases h

/-! ## What statements do -/

/-- Ids are unique. -/
theorem eq_of_id {row row' : StoredAsset} (hrow : row ∈ store.rows) (hrow' : row' ∈ store.rows)
    (h : row.id = row'.id) : row = row' :=
  eq_of_key store.lawful.primaryKey hrow hrow' h

/-- A token is held once for each stamp. -/
theorem eq_of_token {row row' : StoredAsset} (hrow : row ∈ store.rows) (hrow' : row' ∈ store.rows)
    {tokenId : Nat} (htoken : row.tokenId = some tokenId) (htoken' : row'.tokenId = some tokenId)
    (hstamp : row.contractAddress = row'.contractAddress) : row = row' := by
  refine eq_of_nodup_filterMap (k := (row'.contractAddress, tokenId))
    store.lawful.tokenPerDeployment hrow hrow' ?_ ?_
  · simp [StoredAsset.tokenKey, htoken, hstamp]
  · simp [StoredAsset.tokenKey, htoken']

variable {store}

/-- An update is performed, or it fails and changes nothing. -/
theorem update_cases (filter : AssetFilter) (patch : AssetPatch) :
    (∃ e, store.update filter patch = (.error e, store)) ∨
      (store.update filter patch).1 = .ok ((store.rows.filter filter.admits).map (·.id)) ∧
        (store.update filter patch).2.rows = modify filter.admits patch.onto store.rows ∧
        (store.update filter patch).2.migrated = store.migrated := by
  unfold update
  split
  · exact .inl ⟨_, rfl⟩
  · dsimp only
    split
    · exact .inr ⟨rfl, rfl, rfl⟩
    · exact .inl ⟨_, rfl⟩

/-- An insert is performed, or it fails and changes nothing. -/
theorem insert_cases (draft : AssetDraft) (stamp : Option AssetDeployment) (id createdAt : String) :
    (∃ e, store.insert draft stamp id createdAt = (.error e, store)) ∨
      (store.insert draft stamp id createdAt).1 = .ok id ∧
        (store.insert draft stamp id createdAt).2.rows =
          store.rows ++ [draft.toRow stamp id createdAt] ∧
        (store.insert draft stamp id createdAt).2.migrated = store.migrated := by
  unfold insert
  split
  · exact .inl ⟨_, rfl⟩
  · dsimp only
    split
    · exact .inr ⟨rfl, rfl, rfl⟩
    · exact .inl ⟨_, rfl⟩

/-- An update that names no missing column fails only for the sake of the constraints. -/
theorem update_of_lawful {filter : AssetFilter} {patch : AssetPatch}
    (hlacks : store.lacks patch.stamp = false)
    (hlawful : StoredAsset.Lawful (modify filter.admits patch.onto store.rows)) :
    (store.update filter patch).1 = .ok ((store.rows.filter filter.admits).map (·.id)) ∧
      (store.update filter patch).2.rows = modify filter.admits patch.onto store.rows ∧
      (store.update filter patch).2.migrated = store.migrated := by
  unfold update
  rw [dif_neg (by simp [hlacks])]
  dsimp only
  rw [dif_pos hlawful]
  exact ⟨rfl, rfl, rfl⟩

end AssetStore

end OwneX
