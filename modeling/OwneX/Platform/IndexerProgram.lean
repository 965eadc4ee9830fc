import OwneX.Platform.SyncRound
import OwneX.Library.Interleaving

set_option autoImplicit false

/-! # The indexer, one statement at a time

`syncEvents` of `lib/indexer.ts` as the sequence of requests it awaits. Any of them may fail. A
request to the node that fails ends the call. A statement of the database reports its failure in the
result, where the code looks at it after an `upsert` into `audit_cache` only: everywhere else a
failure is a missing result. Where every request is answered and nobody interferes, the program does
what `syncEvents` does in `OwneX.Platform.Indexer` (`IndexerProgram.syncEvents_alone`). -/

namespace OwneX

open JsNumber KeyedList Prog Interleaving

inductive IndexerOp where
  | getBlockNumber
  /-- In the round of `c`. -/
  | getTransactionReceipt (c : ContractName) (txHash : String)
  | queryFilter (c : ContractName) (start end_ : Nat)
  /-- The hash of the newest cached transaction. -/
  | selectNewest (c : ContractName)
  | deleteCache (c : ContractName)
  | upsertCache (rows : List AuditRow)
  | selectState (c : ContractName)
  | deleteState (c : ContractName)
  | upsertState (c : ContractName) (lastBlock : SafeInt)

/-- A receipt is there or `null`. -/
abbrev IndexerOp.Res : IndexerOp → Type
  | getBlockNumber => Except String SafeInt
  | getTransactionReceipt .. => Except String Bool
  | queryFilter .. => Except String (List EventLog)
  | selectNewest _ => Except String (Option String)
  | deleteCache _ => Except String Unit
  | upsertCache _ => Except String Unit
  | selectState _ => Except String (Option SafeInt)
  | deleteState _ => Except String Unit
  | upsertState .. => Except String Unit

/-- What the loop over the contracts carries along. -/
structure SyncTally where
  total : Nat
  overallFrom : Nat
  resetDetected : Bool
  perContract : List (ContractName × Nat)

def ContractName.label : ContractName → String
  | identityRegistry => "IdentityRegistry"
  | orgAccessManager => "OrgAccessManager"
  | assetNFT => "AssetNFT"

namespace IndexerProgram

abbrev Call (α : Type) := ExceptT String (Prog IndexerOp IndexerOp.Res) α

/-- The `data` of a statement, where its `error` is not looked at. -/
def data {α : Type} : Except String (Option α) → Option α
  | .ok a => a
  | .error _ => none

/-- Nothing cached, nothing to invalidate. -/
def hasVanished (c : ContractName) : Option String → Call Bool
  | none => return false
  | some txHash =>
      if txHash = "" then return false
      else do
        let receipt ← attempt (call (IndexerOp.getTransactionReceipt c txHash)) id
        return !receipt

def detectChainReset (c : ContractName) : Call Bool := do
  let newest : Except String (Option String) ← ask (IndexerOp.selectNewest c)
  hasVanished c (data newest)

/-- The errors of the two statements are not looked at. -/
def purgeContractCache (c : ContractName) : Call Unit := do
  let _ ← ask (IndexerOp.deleteCache c)
  let _ ← ask (IndexerOp.deleteState c)
  return ()

def purgeIf (b : Bool) (c : ContractName) : Call Unit :=
  if b then purgeContractCache c else return ()

/-- The rows of the tracked events among some logs. -/
def rowsOf (c : ContractName) (logs : List EventLog) : List AuditRow :=
  (logs.filter fun log => tracked.contains log.eventName).map (EventLog.toRow c)

def storeRows (c : ContractName) (rows : List AuditRow) : Call Unit :=
  if rows.length > 0 then
    attempt (call (IndexerOp.upsertCache rows)) fun error =>
      "Indexing failed for " ++ c.label ++ ": " ++ error
  else return ()

/-- The loop over the chunks, with `indexedHere`. The fuel bounds the number of chunks. -/
def copyChunks (c : ContractName) (queryChunk latest : Nat) : Nat → Nat → Nat → Call Nat
  | 0, _, indexedHere => return indexedHere
  | fuel + 1, start, indexedHere =>
      if start ≤ latest then do
        let logs ← attempt
          (call (IndexerOp.queryFilter c start (min (start + queryChunk - 1) latest))) id
        storeRows c (rowsOf c logs)
        copyChunks c queryChunk latest fuel (start + queryChunk)
          (indexedHere + (rowsOf c logs).length)
      else return indexedHere

section Sync

variable (env : IndexerEnv) (fromBlock : Option Nat)

/-- Whether the caller asks for a full rebuild. -/
def rebuilds : Bool :=
  match fromBlock with
  | some fromBlock => decide (fromBlock ≤ env.startBlock)
  | none => false

/-- Whether the cache describes another chain, as far as the caller or the node say so. -/
def isStale (c : ContractName) : Call Bool :=
  if rebuilds env fromBlock then return true else detectChainReset c

/-- Where to go on, before the height of the chain is looked at. -/
def resumeAt (state : Option SafeInt) : Nat :=
  max
    (match fromBlock with
      | some fromBlock => fromBlock
      | none =>
          match state with
          | some last => last.1 + 1
          | none => env.startBlock)
    env.startBlock

/-- One round of the loop over the contracts. -/
def syncContract (latest : SafeInt) (s : SyncTally) (c : ContractName) : Call SyncTally := do
  let stale ← isStale env fromBlock c
  purgeIf stale c
  let state : Except String (Option SafeInt) ← ask (IndexerOp.selectState c)
  let resumed := resumeAt env fromBlock (data state)
  -- A stored height beyond the chain tip also means the chain was replaced.
  let beyond := decide (latest.1 + 1 < resumed)
  purgeIf beyond c
  let from_ := if beyond then 0 else resumed
  let indexedHere ← copyChunks c env.chunkSize latest.1 (latest.1 + 1 - from_) from_ 0
  let _ ← ask (IndexerOp.upsertState c latest)
  return {
    total := s.total + indexedHere
    overallFrom := min s.overallFrom from_
    resetDetected := s.resetDetected || stale || beyond
    perContract := s.perContract ++ [(c, indexedHere)] }

def syncContracts (latest : SafeInt) : List ContractName → SyncTally → Call SyncTally
  | [], s => return s
  | c :: cs, s => do
      let s ← syncContract env fromBlock latest s c
      syncContracts latest cs s

def syncEvents : Call SyncResult := do
  let latest : SafeInt ← attempt (call IndexerOp.getBlockNumber) id
  let s ← syncContracts env fromBlock latest ContractName.all
    { total := 0, overallFrom := latest.1, resetDetected := false, perContract := [] }
  return {
    chainId := env.chainId, fromBlock := s.overallFrom, toBlock := latest.1,
    indexed := s.total, perContract := s.perContract, resetDetected := s.resetDetected }

end Sync

end IndexerProgram

/-! ## A call alone -/

section Alone

variable {chain : ChainLogs} (env : IndexerEnv) (call : SyncCall chain)

/-- What a call is answered when everything succeeds. -/
def SyncCall.answer (db : IndexerDb) : (op : IndexerOp) → op.Res × IndexerDb
  | .getBlockNumber => (.ok call.node.latest, db)
  | .getTransactionReceipt c txHash => (.ok (call.node.hasReceipt c txHash), db)
  | .queryFilter c start end_ => (.ok (chain.queryFilter c start end_), db)
  | .selectNewest c =>
      (.ok ((call.newestRow.pick (db.cache.rows.filter fun row => row.contractName == c)).map
        AuditRow.txHash), db)
  | .deleteCache c => (.ok (), { db with cache := db.cache.deleteContract c })
  | .upsertCache rows => (.ok (), { db with cache := db.cache.upsert rows })
  | .selectState c => (.ok (db.lastBlock c), db)
  | .deleteState c => (.ok (), { db with lastBlock := Function.update db.lastBlock c none })
  | .upsertState c lastBlock =>
      (.ok (), { db with lastBlock := Function.update db.lastBlock c (some lastBlock) })

namespace IndexerProgram

theorem isStale_alone (db : IndexerDb) (c : ContractName) :
    alone call.answer (isStale env call.fromBlock c).run db = (.ok (call.stale env db c), db) := by
  have hrebuilds : rebuilds env call.fromBlock = call.rebuilds env := rfl
  unfold isStale SyncCall.stale
  rw [hrebuilds]
  cases call.rebuilds env with
  | true => rfl
  | false =>
      rw [if_neg Bool.false_ne_true, Bool.false_or]
      unfold detectChainReset IndexerDb.detectChainReset
      rw [alone_exceptT_bind (alone_ask _)]
      show alone call.answer (hasVanished c (Option.map _ _)).run db = _
      cases call.newestRow.pick (db.cache.rows.filter fun row => row.contractName == c) with
      | none => rfl
      | some newest =>
          unfold Option.map hasVanished
          by_cases hempty : newest.txHash = ""
          · simp only [hempty]
            rfl
          · simp only [if_neg hempty, bne_iff_ne.2 hempty, Bool.true_and]
            rfl

theorem purgeIf_alone (b : Bool) (db : IndexerDb) (c : ContractName) :
    alone call.answer (purgeIf b c).run db =
      (.ok (), if b then db.purgeContractCache c else db) := by
  cases b <;> rfl

theorem storeRows_alone (db : IndexerDb) (c : ContractName) (rows : List AuditRow) :
    alone call.answer (storeRows c rows).run db =
      (.ok (), { db with cache := if rows.length > 0 then db.cache.upsert rows else db.cache }) := by
  unfold storeRows
  split
  · rfl
  · rfl

theorem copyChunks_alone (c : ContractName) (queryChunk latest fuel start indexedHere : Nat)
    (db : IndexerDb) :
    alone call.answer (copyChunks c queryChunk latest fuel start indexedHere).run db =
      (.ok (chain.indexChunks c queryChunk latest fuel start (db.cache, indexedHere)).2,
        { db with
          cache := (chain.indexChunks c queryChunk latest fuel start (db.cache, indexedHere)).1 }) := by
  induction fuel generalizing start indexedHere db with
  | zero => rfl
  | succ fuel ih =>
      unfold copyChunks ChainLogs.indexChunks
      by_cases hstart : start ≤ latest
      · rw [if_pos hstart, if_pos hstart]
        rw [alone_exceptT_bind (alone_attempt rfl id), alone_exceptT_bind (storeRows_alone call _ _ _),
          ih]
        have hrows : rowsOf c (chain.queryFilter c start (min (start + queryChunk - 1) latest)) =
            chain.rowsIn c start (min (start + queryChunk - 1) latest) := rfl
        simp only [hrows]
        cases chain.rowsIn c start (min (start + queryChunk - 1) latest) with
        | nil => rfl
        | cons row rows => rfl
      · rw [if_neg hstart, if_neg hstart]
        rfl

/-- A round, alone, is the round of `OwneX.syncContract`. -/
theorem syncContract_alone (s : SyncState) (c : ContractName) :
    alone call.answer (syncContract env call.fromBlock call.node.latest
        ⟨s.total, s.overallFrom, s.resetDetected, s.perContract⟩ c).run s.db =
      let s' := OwneX.syncContract env call s c
      (.ok ⟨s'.total, s'.overallFrom, s'.resetDetected, s'.perContract⟩, s'.db) := by
  unfold syncContract
  rw [alone_exceptT_bind (isStale_alone env call s.db c),
    alone_exceptT_bind (purgeIf_alone call _ _ _), alone_exceptT_bind (alone_ask _)]
  have hresume : ∀ db : IndexerDb,
      resumeAt env call.fromBlock (data (call.answer db (.selectState c)).1) =
        call.resumeAt env db c := by
    intro db
    show resumeAt env call.fromBlock (db.lastBlock c) = _
    unfold resumeAt SyncCall.resumeAt
    rfl
  simp only [hresume]
  rw [alone_exceptT_bind (purgeIf_alone call _ _ _),
    alone_exceptT_bind (copyChunks_alone call _ _ _ _ _ _ _), alone_exceptT_bind (alone_ask _)]
  rfl

/-- A call, alone, is `OwneX.syncEvents`. -/
theorem syncEvents_alone (db : IndexerDb) :
    alone call.answer (syncEvents env call.fromBlock).run db =
      (.ok (OwneX.syncEvents env call db).2, (OwneX.syncEvents env call db).1) := by
  have hrounds : ∀ (cs : List ContractName) (s : SyncState),
      alone call.answer (syncContracts env call.fromBlock call.node.latest cs
          ⟨s.total, s.overallFrom, s.resetDetected, s.perContract⟩).run s.db =
        let s' := cs.foldl (OwneX.syncContract env call) s
        (.ok ⟨s'.total, s'.overallFrom, s'.resetDetected, s'.perContract⟩, s'.db) := by
    intro cs
    induction cs with
    | nil => intro s; rfl
    | cons c cs ih =>
        intro s
        rw [syncContracts, alone_exceptT_bind (syncContract_alone env call s c)]
        exact ih (OwneX.syncContract env call s c)
  unfold syncEvents
  rw [alone_exceptT_bind (alone_attempt rfl id)]
  have hall := hrounds ContractName.all ⟨db, 0, call.node.latest.1, false, []⟩
  exact alone_exceptT_bind hall _

end IndexerProgram

end Alone

/-! ## Calls side by side -/

/-- The node's chain up to its height, and the tables. -/
structure IndexerState where
  height : SafeInt
  db : IndexerDb

namespace IndexerState

variable (chain : ChainLogs)

/-- What the database may answer for the newest cached transaction. -/
def IsNewest (db : IndexerDb) (c : ContractName) : Option String → Prop
  | none => ∀ row ∈ db.cache.rows, row.contractName ≠ c
  | some txHash => ∃ row ∈ db.cache.rows, row.contractName = c ∧ row.txHash = txHash ∧
      ∀ row' ∈ db.cache.rows, row'.contractName = c → row'.blockNumber.1 ≤ row.blockNumber.1

/-- Whether a log of the transaction is in the chain up to a height. -/
def Mined (height : SafeInt) (txHash : String) : Prop :=
  ∃ c b log, log ∈ chain.logs c b ∧ b ≤ height.1 ∧ log.transactionHash = txHash

/-- A request of a call, which may fail. -/
def exec (s : IndexerState) : (op : IndexerOp) → op.Res → IndexerState → Prop
  | .getBlockNumber, r, s' => Attempt s (.ok s.height, s) r s'
  | .getTransactionReceipt _ txHash, r, s' =>
      ∃ known, (Mined chain s.height txHash → known = true) ∧ Attempt s (.ok known, s) r s'
  | .queryFilter c start end_, r, s' =>
      Attempt s (.ok (chain.queryFilter c start (min end_ s.height.1)), s) r s'
  | .selectNewest c, r, s' =>
      ∃ newest, IsNewest s.db c newest ∧ Attempt s (.ok newest, s) r s'
  | .deleteCache c, r, s' =>
      Attempt s (.ok (), { s with db.cache := s.db.cache.deleteContract c }) r s'
  | .upsertCache rows, r, s' =>
      Attempt s (.ok (), { s with db.cache := s.db.cache.upsert rows }) r s'
  | .selectState c, r, s' => Attempt s (.ok (s.db.lastBlock c), s) r s'
  | .deleteState c, r, s' =>
      Attempt s (.ok (), { s with db.lastBlock := Function.update s.db.lastBlock c none }) r s'
  | .upsertState c lastBlock, r, s' =>
      Attempt s
        (.ok (), { s with db.lastBlock := Function.update s.db.lastBlock c (some lastBlock) }) r s'

/-- Blocks are added. -/
def outside (s s' : IndexerState) : Prop :=
  s.height.1 ≤ s'.height.1 ∧ s'.db = s.db

end IndexerState

/-- Any number of calls over the tables, each with its `fromBlock`: none, or one at or below the start
    block. -/
def indexing (env : IndexerEnv) (chain : ChainLogs) : Service where
  State := IndexerState
  Op := IndexerOp
  Res := IndexerOp.Res
  Req := Option Nat
  Ans := fun _ => Except String SyncResult
  exec := IndexerState.exec chain
  env := IndexerState.outside
  admits := fun _ fromBlock => ∀ b, fromBlock = some b → b ≤ env.startBlock
  handler := fun fromBlock => (IndexerProgram.syncEvents env fromBlock).run

end OwneX
