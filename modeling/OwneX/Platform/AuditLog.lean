import OwneX.Platform.Chain
import OwneX.Library.KeyedList
import Mathlib.Data.List.Infix

set_option autoImplicit false

/-! # Event logs and the rows of `audit_cache`

What the indexer (`lib/indexer.ts`) makes of an event log of the contracts, and the table it writes
(`supabase/schema.sql`). A log's arguments are the decoded ABI values with the names of the event's
inputs. Wallet columns hold the addresses themselves: the indexer lower-cases them on the way in and
the readers on the way out. -/

namespace OwneX

open JsNumber

inductive ContractName where
  | identityRegistry
  | orgAccessManager
  | assetNFT
deriving DecidableEq

/-- The contracts in the order the indexer visits them. -/
def ContractName.all : List ContractName := [.identityRegistry, .orgAccessManager, .assetNFT]

inductive AbiValue where
  /-- Any unsigned integer: ethers decodes it to a `bigint`. -/
  | uint (n : Nat)
  | address (a : Address)
  | bytes32 (b : Bytes32)
  | bool (b : Bool)
  | string (s : String)
deriving DecidableEq

/-- A log that ethers could parse: the event and its named arguments, in the order of its inputs. -/
structure EventLog where
  eventName : String
  args : List (String × AbiValue)
  transactionHash : String
  index : Nat
  blockNumber : SafeInt
deriving DecidableEq

namespace EventLog

variable (log : EventLog)

/-- `str(args[i])`, for an address. -/
def addressAt (i : Nat) : Option Address :=
  match log.args[i]? with
  | some (_, .address a) => some a
  | _ => none

/-- `num(args[i])` -/
def numberAt (i : Nat) : Option Nat :=
  match log.args[i]? with
  | some (_, .uint n) => some (toNumber n)
  | _ => none

end EventLog

structure ExtractedFields where
  orgId : Option Nat
  actor : Option Address
  subject : Option Address
  tokenId : Option Nat
deriving DecidableEq

/-- Pulls the audit-relevant fields out of each event. -/
def extract (log : EventLog) : ExtractedFields :=
  match log.eventName with
  | "IdentityRegistered" => ⟨none, log.addressAt 2, log.addressAt 0, none⟩
  | "IdentityHashUpdated" => ⟨none, log.addressAt 3, log.addressAt 0, none⟩
  | "IdentityRevoked" | "IdentityReactivated" => ⟨none, log.addressAt 1, log.addressAt 0, none⟩
  | "OrganizationCreated" => ⟨log.numberAt 0, log.addressAt 1, log.addressAt 1, none⟩
  | "OrganizationStatusChanged" => ⟨log.numberAt 0, log.addressAt 2, none, none⟩
  | "OrgRootAdminTransferred" => ⟨log.numberAt 0, log.addressAt 1, log.addressAt 2, none⟩
  | "OrganizationMetadataUpdated" => ⟨log.numberAt 0, none, none, none⟩
  | "RegistrarUpdated" => ⟨none, none, log.addressAt 0, none⟩
  | "MemberAdded" => ⟨log.numberAt 0, log.addressAt 4, log.addressAt 1, none⟩
  | "MemberRemoved" => ⟨log.numberAt 0, log.addressAt 3, log.addressAt 1, none⟩
  | "RoleAssigned" => ⟨log.numberAt 0, log.addressAt 5, log.addressAt 1, none⟩
  | "RoleExpiryUpdated" => ⟨log.numberAt 0, log.addressAt 4, log.addressAt 1, none⟩
  | "PermissionUpdated" => ⟨log.numberAt 0, log.addressAt 4, none, none⟩
  | "ApplicationRegistered" => ⟨log.numberAt 0, log.addressAt 3, none, none⟩
  | "AppAccessChanged" => ⟨log.numberAt 0, log.addressAt 4, none, none⟩
  | "AssetMinted" => ⟨log.numberAt 1, log.addressAt 5, log.addressAt 2, log.numberAt 0⟩
  | "AssetAssigned" => ⟨none, log.addressAt 3, log.addressAt 2, log.numberAt 0⟩
  | "AssetRevoked" => ⟨none, log.addressAt 3, log.addressAt 1, log.numberAt 0⟩
  | "AssetRestored" => ⟨none, log.addressAt 2, log.addressAt 1, log.numberAt 0⟩
  | "AssetMetadataUpdated" => ⟨none, log.addressAt 4, none, log.numberAt 0⟩
  | _ => ⟨none, none, none, none⟩

/-- `TRACKED`: the events worth showing a human. -/
def tracked : List String :=
  ["IdentityRegistered", "IdentityHashUpdated", "IdentityRevoked", "IdentityReactivated",
    "RegistrarUpdated", "OrganizationCreated", "OrganizationMetadataUpdated",
    "OrganizationStatusChanged", "OrgRootAdminTransferred", "MemberAdded", "MemberRemoved",
    "RoleAssigned", "RoleExpiryUpdated", "PermissionUpdated", "ApplicationRegistered",
    "AppAccessChanged", "AssetMinted", "AssetAssigned", "AssetRevoked", "AssetRestored",
    "AssetMetadataUpdated"]

inductive PayloadValue where
  | number (n : Nat)
  | role (r : RoleName)
  | text (v : AbiValue)
deriving DecidableEq

/-- A name of an input that holds a role: it contains `role` in any case. -/
def namesRole (name : String) : Bool :=
  name.toLower.toList.tails.any fun rest => "role".toList.isPrefixOf rest

/-- Turns raw event args into something readable in the audit UI. -/
def readablePayload (log : EventLog) : List (String × PayloadValue) :=
  log.args.map fun (name, value) =>
    (name,
      match value with
      | .uint n => .number (toNumber n)
      | .bytes32 b => if namesRole name then .role (roleName b) else .text value
      | _ => .text value)

/-! ## The table -/

/-- A row, less its generated id and insertion time. -/
structure AuditRow where
  contractName : ContractName
  eventName : String
  orgId : Option Nat
  actorWallet : Option Address
  subjectWallet : Option Address
  tokenId : Option Nat
  txHash : String
  blockNumber : SafeInt
  logIndex : Nat
  payload : List (String × PayloadValue)
deriving DecidableEq

/-- The columns of `unique (tx_hash, log_index)`. -/
def AuditRow.identity (row : AuditRow) : String × Nat :=
  (row.txHash, row.logIndex)

/-- The row the indexer writes for a log of `contractName`. -/
def EventLog.toRow (contractName : ContractName) (log : EventLog) : AuditRow :=
  let fields := extract log
  { contractName
    eventName := log.eventName
    orgId := fields.orgId
    actorWallet := fields.actor
    subjectWallet := fields.subject
    tokenId := fields.tokenId
    txHash := log.transactionHash
    blockNumber := log.blockNumber
    logIndex := log.index
    payload := readablePayload log }

/-- `audit_cache`: no two rows share a transaction hash and a log index. -/
@[ext] structure AuditCache where
  rows : List AuditRow
  unique : (rows.map AuditRow.identity).Nodup

namespace AuditCache

open KeyedList

/-- `upsert(rows, { onConflict: "tx_hash,log_index", ignoreDuplicates: true })` -/
def upsert (cache : AuditCache) (rows : List AuditRow) : AuditCache where
  rows := insertAllNew AuditRow.identity cache.rows rows
  unique := nodup_insertAllNew cache.unique rows

/-- `delete().eq("contract_name", contractName)` -/
def deleteContract (cache : AuditCache) (contractName : ContractName) : AuditCache where
  rows := cache.rows.filter fun row => row.contractName != contractName
  unique := cache.unique.sublist (List.filter_sublist.map _)

theorem upsert_upsert (cache : AuditCache) (rows rows' : List AuditRow) :
    (cache.upsert rows).upsert rows' = cache.upsert (rows ++ rows') :=
  AuditCache.ext (insertAllNew_append ..).symm

theorem mem_deleteContract {cache : AuditCache} {c : ContractName} {row : AuditRow} :
    row ∈ (cache.deleteContract c).rows ↔ row ∈ cache.rows ∧ row.contractName ≠ c := by
  rw [deleteContract, List.mem_filter, bne_iff_ne]

/-- A row is there at most once, so being there is being there once. -/
theorem count_eq_one_iff {cache : AuditCache} {row : AuditRow} :
    cache.rows.count row = 1 ↔ row ∈ cache.rows := by
  constructor
  · intro h
    exact List.count_pos_iff.1 (by omega)
  · exact List.count_eq_one_of_mem (List.Nodup.of_map _ cache.unique)

end AuditCache

end OwneX
