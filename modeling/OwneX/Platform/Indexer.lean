import OwneX.Platform.AuditLog
import OwneX.Library.Trace

set_option autoImplicit false

/-! # The event indexer

`syncEvents` of `lib/indexer.ts`: for each contract it drops a cache that describes another chain,
resumes after the last block it has seen or where the caller says, copies the tracked events chunk
by chunk and stores the chain's height as the new resume point. Here the statements of the database
succeed: `OwneX.Platform.IndexerProgram` has the call statement by statement, any of which may fail,
and `OwneX.Platform.RefusedRows` the rows that the table refuses. -/

namespace OwneX

open JsNumber

/-- The logs of a chain that only ever grows, block by block, as far as ethers can parse them. A
    transaction sits in one block, and a log index is given once in it. -/
structure ChainLogs where
  logs : ContractName → Nat → List EventLog
  blockNumber_eq : ∀ {c b log}, log ∈ logs c b → log.blockNumber.1 = b
  identity_inj : ∀ {c c' b b' log log'}, log ∈ logs c b → log' ∈ logs c' b' →
    log.transactionHash = log'.transactionHash → log.index = log'.index → c = c' ∧ log = log'

/-- What the RPC provider answers in the course of one call. It may have seen more blocks by the time
    it is asked for a receipt. -/
structure Node (chain : ChainLogs) where
  latest : SafeInt
  hasReceipt : ContractName → String → Bool
  mined : ∀ {c c' b log}, log ∈ chain.logs c b → b ≤ latest.1 →
    hasReceipt c' log.transactionHash = true

/-- How the database answers `order("block_number", { ascending: false }).limit(1)`. -/
structure NewestRow where
  pick : List AuditRow → Option AuditRow
  pick_eq_none : ∀ {rows}, pick rows = none → rows = []
  mem : ∀ {rows row}, pick rows = some row → row ∈ rows
  newest : ∀ {rows row}, pick rows = some row →
    ∀ row' ∈ rows, row'.blockNumber.1 ≤ row.blockNumber.1

/-- The two tables the indexer writes. `lastBlock` is the column of `indexer_state` that it reads
    back. -/
structure IndexerDb where
  cache : AuditCache
  lastBlock : ContractName → Option SafeInt

/-- `CHAIN_ID`, and `INDEXER_START_BLOCK` when it is a non-negative integer. -/
structure IndexerEnv where
  chainId : Nat
  configured : Option Nat

def SEPOLIA_CHUNK : Nat := 10

def DEFAULT_CHUNK : Nat := 2000

def RECORDED_SEPOLIA_START_BLOCK : Nat := 11585353

def IndexerEnv.chunkSize (env : IndexerEnv) : Nat :=
  if env.chainId = 11155111 then SEPOLIA_CHUNK else DEFAULT_CHUNK

def IndexerEnv.startBlock (env : IndexerEnv) : Nat :=
  match env.configured with
  | some configured => configured
  | none => if env.chainId = 11155111 then RECORDED_SEPOLIA_START_BLOCK else 0

/-- A call of `syncEvents`: its option, and what the node and the database's order answer it. -/
structure SyncCall (chain : ChainLogs) where
  node : Node chain
  newestRow : NewestRow
  fromBlock : Option Nat

structure SyncResult where
  chainId : Nat
  fromBlock : Nat
  toBlock : Nat
  indexed : Nat
  perContract : List (ContractName × Nat)
  resetDetected : Bool
deriving DecidableEq

namespace IndexerDb

/-- Two empty tables. -/
def fresh : IndexerDb where
  cache := ⟨[], .nil⟩
  lastBlock := fun _ => none

def purgeContractCache (db : IndexerDb) (c : ContractName) : IndexerDb where
  cache := db.cache.deleteContract c
  lastBlock := Function.update db.lastBlock c none

/-- Whether the newest cached transaction of the contract is unknown to the chain. -/
def detectChainReset {chain : ChainLogs} (db : IndexerDb) (call : SyncCall chain)
    (c : ContractName) : Bool :=
  match call.newestRow.pick (db.cache.rows.filter fun row => row.contractName == c) with
  | none => false
  | some newest => newest.txHash != "" && !call.node.hasReceipt c newest.txHash

end IndexerDb

namespace ChainLogs

variable (chain : ChainLogs)

/-- `contract.queryFilter("*", start, end)`, less what could not be parsed. -/
def queryFilter (c : ContractName) (start end_ : Nat) : List EventLog :=
  (List.range' start (end_ + 1 - start)).flatMap (chain.logs c)

/-- The rows of the tracked events in a range of blocks. -/
def rowsIn (c : ContractName) (start end_ : Nat) : List AuditRow :=
  ((chain.queryFilter c start end_).filter fun log => tracked.contains log.eventName).map
    (EventLog.toRow c)

/-- The loop over the chunks, with the cache and `indexedHere` as they change. The fuel bounds the
    number of chunks. -/
def indexChunks (c : ContractName) (queryChunk latest : Nat) :
    Nat → Nat → AuditCache × Nat → AuditCache × Nat
  | 0, _, state => state
  | fuel + 1, start, (cache, indexedHere) =>
      if start ≤ latest then
        let end_ := min (start + queryChunk - 1) latest
        let rows := chain.rowsIn c start end_
        indexChunks c queryChunk latest fuel (start + queryChunk)
          (if rows.length > 0 then (cache.upsert rows, indexedHere + rows.length)
            else (cache, indexedHere))
      else (cache, indexedHere)

/-- `row` is the row of a tracked event of `c` in block `b`. -/
def Emits (c : ContractName) (b : Nat) (row : AuditRow) : Prop :=
  ∃ log ∈ chain.logs c b, tracked.contains log.eventName = true ∧ log.toRow c = row

variable {chain}

theorem Emits.contractName {c : ContractName} {b : Nat} {row : AuditRow}
    (h : chain.Emits c b row) : row.contractName = c := by
  obtain ⟨log, -, -, rfl⟩ := h
  rfl

theorem Emits.blockNumber {c : ContractName} {b : Nat} {row : AuditRow}
    (h : chain.Emits c b row) : row.blockNumber.1 = b := by
  obtain ⟨log, hlog, -, rfl⟩ := h
  exact chain.blockNumber_eq hlog

/-- The unique columns tell all rows of a chain apart. -/
theorem Emits.identity_inj {c c' : ContractName} {b b' : Nat} {row row' : AuditRow}
    (h : chain.Emits c b row) (h' : chain.Emits c' b' row') (heq : row.identity = row'.identity) :
    row = row' := by
  obtain ⟨log, hlog, -, rfl⟩ := h
  obtain ⟨log', hlog', -, rfl⟩ := h'
  obtain ⟨htx, hindex⟩ := Prod.mk.injEq .. ▸ heq
  obtain ⟨rfl, rfl⟩ := chain.identity_inj hlog hlog' htx hindex
  rfl

theorem mem_rowsIn {c : ContractName} {start end_ : Nat} {row : AuditRow} :
    row ∈ chain.rowsIn c start end_ ↔ ∃ b, start ≤ b ∧ b ≤ end_ ∧ chain.Emits c b row := by
  simp only [rowsIn, queryFilter, List.mem_map, List.mem_filter, List.mem_flatMap,
    List.mem_range'_1, Emits]
  constructor
  · rintro ⟨log, ⟨⟨b, hb, hlog⟩, htracked⟩, rfl⟩
    exact ⟨b, hb.1, by omega, log, hlog, htracked, rfl⟩
  · rintro ⟨b, hstart, hend, log, hlog, htracked, rfl⟩
    exact ⟨log, ⟨⟨b, ⟨hstart, by omega⟩, hlog⟩, htracked⟩, rfl⟩

/-- A chunk and the blocks after it make up the range. -/
theorem rowsIn_chunk (c : ContractName) {start queryChunk latest : Nat} (hchunk : 0 < queryChunk)
    (hstart : start ≤ latest) :
    chain.rowsIn c start (min (start + queryChunk - 1) latest) ++
        chain.rowsIn c (start + queryChunk) latest =
      chain.rowsIn c start latest := by
  unfold rowsIn queryFilter
  rw [← List.map_append, ← List.filter_append, ← List.flatMap_append]
  congr 3
  rcases Nat.le_total (start + queryChunk - 1) latest with hle | hle
  · have hfirst : min (start + queryChunk - 1) latest + 1 - start = queryChunk := by omega
    have hrest : queryChunk + (latest + 1 - (start + queryChunk)) = latest + 1 - start := by omega
    rw [hfirst, List.range'_append_1, hrest]
  · have hfirst : min (start + queryChunk - 1) latest = latest := Nat.min_eq_right hle
    have hrest : latest + 1 - (start + queryChunk) = 0 := by omega
    rw [hfirst, hrest, List.range'_zero, List.append_nil]

/-- With a step for every block left, the loop upserts the rows of the whole range. -/
theorem indexChunks_eq (c : ContractName) {queryChunk : Nat} (hchunk : 0 < queryChunk)
    {latest fuel start : Nat} (hfuel : latest + 1 - start ≤ fuel) (cache : AuditCache)
    (indexedHere : Nat) :
    chain.indexChunks c queryChunk latest fuel start (cache, indexedHere) =
      (cache.upsert (chain.rowsIn c start latest),
        indexedHere + (chain.rowsIn c start latest).length) := by
  have hpast : ∀ {start}, latest < start → chain.rowsIn c start latest = [] := by
    intro start h
    rw [rowsIn, queryFilter, Nat.sub_eq_zero_of_le (by omega)]
    rfl
  induction fuel generalizing start cache indexedHere with
  | zero =>
      rw [hpast (by omega)]
      rfl
  | succ fuel ih =>
      rw [indexChunks]
      by_cases hstart : start ≤ latest
      · rw [if_pos hstart]
        have hround : ∀ rows : List AuditRow,
            (if rows.length > 0 then (cache.upsert rows, indexedHere + rows.length)
              else (cache, indexedHere)) = (cache.upsert rows, indexedHere + rows.length) := by
          intro rows
          cases rows with
          | nil => rfl
          | cons row rows => rfl
        simp only [hround]
        rw [ih (by omega), AuditCache.upsert_upsert, Nat.add_assoc, ← List.length_append,
          rowsIn_chunk c hchunk hstart]
      · rw [if_neg hstart, hpast (by omega)]
        rfl

end ChainLogs

/-- What the loop over the contracts carries along. -/
structure SyncState where
  db : IndexerDb
  total : Nat
  overallFrom : Nat
  resetDetected : Bool
  perContract : List (ContractName × Nat)

section Sync

variable {chain : ChainLogs} (env : IndexerEnv) (call : SyncCall chain)

/-- Whether the caller asks for a full rebuild. -/
def SyncCall.rebuilds : Bool :=
  match call.fromBlock with
  | some fromBlock => decide (fromBlock ≤ env.startBlock)
  | none => false

/-- Where to go on, before the height of the chain is looked at. -/
def SyncCall.resumeAt (db : IndexerDb) (c : ContractName) : Nat :=
  max
    (match call.fromBlock with
      | some fromBlock => fromBlock
      | none =>
          match db.lastBlock c with
          | some last => last.1 + 1
          | none => env.startBlock)
    env.startBlock

/-- One round of the loop over the contracts. -/
def syncContract (s : SyncState) (c : ContractName) : SyncState :=
  let latest := call.node.latest
  let stale := call.rebuilds env || s.db.detectChainReset call c
  let db := if stale then s.db.purgeContractCache c else s.db
  let resumed := call.resumeAt env db c
  -- A stored height beyond the chain tip also means the chain was replaced.
  let beyond := decide (latest.1 + 1 < resumed)
  let db := if beyond then db.purgeContractCache c else db
  let from_ := if beyond then 0 else resumed
  let (cache, indexedHere) :=
    chain.indexChunks c env.chunkSize latest.1 (latest.1 + 1 - from_) from_ (db.cache, 0)
  { db := { cache, lastBlock := Function.update db.lastBlock c (some latest) }
    total := s.total + indexedHere
    overallFrom := min s.overallFrom from_
    resetDetected := s.resetDetected || stale || beyond
    perContract := s.perContract ++ [(c, indexedHere)] }

/-- A call of which no statement fails. -/
def syncEvents (db : IndexerDb) : IndexerDb × SyncResult :=
  let s := ContractName.all.foldl (syncContract env call)
    { db, total := 0, overallFrom := call.node.latest.1, resetDetected := false, perContract := [] }
  (s.db,
    { chainId := env.chainId, fromBlock := s.overallFrom, toBlock := call.node.latest.1,
      indexed := s.total, perContract := s.perContract, resetDetected := s.resetDetected })

end Sync

end OwneX
