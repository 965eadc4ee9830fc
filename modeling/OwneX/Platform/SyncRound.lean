import OwneX.Platform.Indexer

set_option autoImplicit false

/-! # One round of the indexer

What `syncContract` makes of the two tables, for any tables and any chain: whether it drops what is
cached for the contract, from which block on it copies events, and what is there afterwards
(`syncContract_db_eq`). The round of one contract neither reads nor writes what is stored for
another, except that a row is not copied where a row of another contract holds its transaction hash
and log index (`mem_syncContract_rows`). -/

namespace OwneX

open JsNumber KeyedList

variable {chain : ChainLogs} (env : IndexerEnv) (call : SyncCall chain)

/-! ## What a round decides -/

section Decisions

variable (db : IndexerDb) (c : ContractName)

/-- The caller asks for a rebuild, or the newest cached transaction is unknown. -/
def SyncCall.stale : Bool :=
  call.rebuilds env || db.detectChainReset call c

/-- Where the round would go on. -/
def SyncCall.resumed : Nat :=
  call.resumeAt env (if call.stale env db c then db.purgeContractCache c else db) c

/-- The block to go on from lies beyond the tip of the chain. -/
def SyncCall.beyond : Bool :=
  decide (call.node.latest.1 + 1 < call.resumed env db c)

/-- The round drops what is cached for the contract. -/
def SyncCall.drops : Bool :=
  call.stale env db c || call.beyond env db c

/-- The first block whose events the round copies. -/
def SyncCall.copiesFrom : Nat :=
  if call.beyond env db c then 0 else call.resumed env db c

/-- The cache before the events are copied. -/
def SyncCall.keeps : AuditCache :=
  if call.drops env db c then db.cache.deleteContract c else db.cache

end Decisions

theorem AuditCache.deleteContract_idem (cache : AuditCache) (c : ContractName) :
    (cache.deleteContract c).deleteContract c = cache.deleteContract c := by
  refine AuditCache.ext ?_
  show (cache.rows.filter _).filter _ = _
  rw [List.filter_filter]
  simp only [Bool.and_self]
  rfl

theorem IndexerEnv.chunkSize_pos : 0 < env.chunkSize := by
  unfold IndexerEnv.chunkSize
  split <;> decide

/-- The resume point that is written does not depend on whether the old one was dropped. -/
theorem update_lastBlock_purge (b : Bool) (db : IndexerDb) (c : ContractName)
    (last : Option SafeInt) :
    Function.update (if b then db.purgeContractCache c else db).lastBlock c last =
      Function.update db.lastBlock c last := by
  cases b with
  | true => exact Function.update_idem ..
  | false => rfl

/-- A round leaves what it keeps and the events it copies, and stores the height of the chain. -/
theorem syncContract_db_eq (s : SyncState) (c : ContractName) :
    (syncContract env call s c).db =
      { cache := (call.keeps env s.db c).upsert
          (chain.rowsIn c (call.copiesFrom env s.db c) call.node.latest.1)
        lastBlock := Function.update s.db.lastBlock c (some call.node.latest) } := by
  unfold syncContract
  simp only [ChainLogs.indexChunks_eq c env.chunkSize_pos le_rfl]
  show IndexerDb.mk _ _ = IndexerDb.mk _ _
  congr 1
  · show AuditCache.upsert _ (chain.rowsIn c (call.copiesFrom env s.db c) _) = _
    congr 1
    unfold SyncCall.keeps SyncCall.drops
    cases hstale : call.stale env s.db c with
    | true =>
        have hpurged : call.rebuilds env || s.db.detectChainReset call c := hstale
        rw [if_pos hpurged]
        split
        · exact AuditCache.deleteContract_idem _ _
        · rfl
    | false =>
        have hkept : ¬ (call.rebuilds env || s.db.detectChainReset call c) := by
          rw [← SyncCall.stale, hstale]
          exact Bool.false_ne_true
        rw [if_neg hkept, Bool.false_or]
        have hbeyond : call.beyond env s.db c =
            decide (call.node.latest.1 + 1 < call.resumeAt env s.db c) := by
          unfold SyncCall.beyond SyncCall.resumed
          rw [hstale]
          rfl
        rw [hbeyond]
        split <;> rfl
  · exact (update_lastBlock_purge _ _ _ _).trans (update_lastBlock_purge _ _ _ _)

/-! ## What is there afterwards -/

section Rows

variable {env call} {s : SyncState} {c : ContractName}

/-- The rows after a round: those it keeps, and of the events it copies those whose transaction hash
    and log index no kept row holds. -/
theorem mem_syncContract_rows {row : AuditRow} :
    row ∈ (syncContract env call s c).db.cache.rows ↔
      row ∈ (call.keeps env s.db c).rows ∨
        (∃ b, call.copiesFrom env s.db c ≤ b ∧ b ≤ call.node.latest.1 ∧ chain.Emits c b row) ∧
          row.identity ∉ (call.keeps env s.db c).rows.map AuditRow.identity := by
  rw [syncContract_db_eq, ← ChainLogs.mem_rowsIn]
  refine mem_insertAllNew_iff fun x hx y hy heq => ?_
  obtain ⟨b, -, -, hx⟩ := ChainLogs.mem_rowsIn.1 hx
  obtain ⟨b', -, -, hy⟩ := ChainLogs.mem_rowsIn.1 hy
  exact hx.identity_inj hy heq

/-- The index of `c` is stored alike in both databases. -/
structure IndexerDb.AgreesOn (db db' : IndexerDb) (c : ContractName) : Prop where
  lastBlock : db'.lastBlock c = db.lastBlock c
  rows : (db'.cache.rows.filter fun row => row.contractName == c) =
    db.cache.rows.filter fun row => row.contractName == c

theorem IndexerDb.AgreesOn.refl (db : IndexerDb) (c : ContractName) : db.AgreesOn db c := ⟨rfl, rfl⟩

theorem IndexerDb.AgreesOn.trans {db db' db'' : IndexerDb} (h : db.AgreesOn db' c)
    (h' : db'.AgreesOn db'' c) : db.AgreesOn db'' c where
  lastBlock := h'.lastBlock.trans h.lastBlock
  rows := h'.rows.trans h.rows

theorem IndexerDb.AgreesOn.mem_iff {db db' : IndexerDb} (h : db.AgreesOn db' c) {row : AuditRow}
    (hrow : row.contractName = c) : row ∈ db'.cache.rows ↔ row ∈ db.cache.rows := by
  have hmem : ∀ rows : List AuditRow,
      row ∈ rows ↔ row ∈ rows.filter fun row => row.contractName == c := fun rows => by
    rw [List.mem_filter, hrow, beq_self_eq_true]
    exact (and_iff_left rfl).symm
  rw [hmem db'.cache.rows, h.rows, ← hmem]

/-- A round leaves the index of every other contract alone. -/
theorem syncContract_agreesOn {c' : ContractName} (hne : c' ≠ c) :
    s.db.AgreesOn (syncContract env call s c).db c' := by
  rw [syncContract_db_eq]
  refine ⟨Function.update_of_ne hne _ _, ?_⟩
  have hcopied : ∀ row ∈ chain.rowsIn c (call.copiesFrom env s.db c) call.node.latest.1,
      (row.contractName == c') = false := fun row hrow => by
    obtain ⟨b, -, -, hemits⟩ := ChainLogs.mem_rowsIn.1 hrow
    rw [hemits.contractName]
    exact beq_false_of_ne hne.symm
  show (insertAllNew _ _ _).filter _ = _
  rw [filter_insertAllNew hcopied]
  unfold SyncCall.keeps
  split
  · show (s.db.cache.rows.filter _).filter _ = _
    rw [List.filter_filter]
    refine List.filter_congr fun row _ => ?_
    by_cases hrow : row.contractName = c'
    · rw [hrow, beq_self_eq_true, Bool.true_and, bne_iff_ne]
      exact hne
    · rw [beq_false_of_ne hrow, Bool.false_and]
  · rfl

/-- Two databases that store the index of `c` alike lead to the same round. -/
theorem IndexerDb.AgreesOn.decisions {db db' : IndexerDb} (h : db.AgreesOn db' c) :
    call.drops env db' c = call.drops env db c ∧
      call.copiesFrom env db' c = call.copiesFrom env db c := by
  have hstale : call.stale env db' c = call.stale env db c := by
    unfold SyncCall.stale IndexerDb.detectChainReset
    rw [h.rows]
  have hresumed : call.resumed env db' c = call.resumed env db c := by
    unfold SyncCall.resumed SyncCall.resumeAt
    rw [hstale]
    cases call.stale env db c with
    | true => simp only [if_true, IndexerDb.purgeContractCache, Function.update_self]
    | false => simp only [Bool.false_eq_true, if_false, h.lastBlock]
  unfold SyncCall.drops SyncCall.copiesFrom SyncCall.beyond
  rw [hstale, hresumed]
  exact ⟨rfl, rfl⟩

/-- What a round keeps of its own contract. -/
theorem SyncCall.mem_keeps {db : IndexerDb} {row : AuditRow} :
    row ∈ (call.keeps env db c).rows ↔
      row ∈ db.cache.rows ∧ (row.contractName = c → call.drops env db c = false) := by
  unfold SyncCall.keeps
  cases call.drops env db c with
  | true =>
      rw [if_pos rfl, AuditCache.mem_deleteContract]
      simp
  | false => simp

end Rows

end OwneX
