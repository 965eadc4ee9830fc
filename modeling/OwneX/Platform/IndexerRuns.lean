import OwneX.Platform.IndexerProgram
import OwneX.Platform.AuditIndex

set_option autoImplicit false

/-! # The audit index behind failures

Any number of calls of `syncEvents` side by side, each of which may fail or stop at any `await`. A
rebuild deletes the cached rows of a contract first and its resume point afterwards, and it tells
nobody else. So a resume point may be left that says more than the cache holds: by the deletion of
rows that it covers (`Orphans`), or by a call that stores a new one on the strength of rows which
have been deleted since it looked (`Overlooks`). In a run without these the index has no gap, and
each of them makes one (`indexing_complete_iff`). -/

namespace OwneX

open JsNumber KeyedList Prog Interleaving Service

/-! ## What a call has done before -/

namespace IndexerProgram

abbrev Log := List ((op : IndexerOp) × op.Res)

/-- What a call awaits to find out whether the cache is to be dropped, and to drop it. -/
def Prepares : IndexerOp → Prop
  | .selectNewest _ => True
  | .getTransactionReceipt .. => True
  | .deleteCache _ => True
  | .deleteState _ => True
  | _ => False

/-- What a call awaits to copy events. -/
def Copies : IndexerOp → Prop
  | .queryFilter .. => True
  | .upsertCache _ => True
  | _ => False

theorem only_isStale (env : IndexerEnv) (fromBlock : Option Nat) (c : ContractName) :
    Only Prepares (isStale env fromBlock c).run := by
  unfold isStale
  split
  · exact only_exceptT_pure _
  · have hselected : Only Prepares
        (ask (IndexerOp.selectNewest c) : IndexerProgram.Call (Except String (Option String))).run :=
      only_ask trivial
    refine only_exceptT_bind hselected fun newest => ?_
    cases data newest with
    | none => exact only_exceptT_pure _
    | some txHash =>
        rw [hasVanished]
        split
        · exact only_exceptT_pure _
        · have hasked : Only Prepares
              (call (IndexerOp.getTransactionReceipt c txHash) : Prog IndexerOp IndexerOp.Res _) :=
            only_call trivial
          exact only_exceptT_bind (only_attempt hasked id) fun receipt => only_exceptT_pure _

theorem only_purgeIf (b : Bool) (c : ContractName) : Only Prepares (purgeIf b c).run := by
  unfold purgeIf
  split
  · have hcache : Only Prepares
        (ask (IndexerOp.deleteCache c) : IndexerProgram.Call (Except String Unit)).run :=
      only_ask trivial
    have hstate : Only Prepares
        (ask (IndexerOp.deleteState c) : IndexerProgram.Call (Except String Unit)).run :=
      only_ask trivial
    refine only_exceptT_bind hcache fun _ => ?_
    exact only_exceptT_bind hstate fun _ => only_exceptT_pure _
  · exact only_exceptT_pure _

theorem only_storeRows {P : IndexerOp → Prop} {c : ContractName} {rows : List AuditRow}
    (h : P (.upsertCache rows)) : Only P (storeRows c rows).run := by
  unfold storeRows
  split
  · have hstored : Only P (call (IndexerOp.upsertCache rows) : Prog IndexerOp IndexerOp.Res _) :=
      only_call h
    exact only_attempt hstored _
  · exact only_exceptT_pure _

theorem only_copyChunks (c : ContractName) (queryChunk latest fuel start indexedHere : Nat) :
    Only Copies (copyChunks c queryChunk latest fuel start indexedHere).run := by
  induction fuel generalizing start indexedHere with
  | zero => exact only_exceptT_pure _
  | succ fuel ih =>
      unfold copyChunks
      split
      · have hasked : Only Copies
            (call (IndexerOp.queryFilter c start (min (start + queryChunk - 1) latest)) :
              Prog IndexerOp IndexerOp.Res _) := only_call trivial
        refine only_exceptT_bind (only_attempt hasked id) fun logs => ?_
        exact only_exceptT_bind (only_storeRows trivial) fun _ => ih _ _
      · exact only_exceptT_pure _

/-- The rows are those of logs that the node has answered. -/
def Answered (rows : List AuditRow) (log : Log) : Prop :=
  ∃ c start end_ logs, ⟨.queryFilter c start end_, .ok logs⟩ ∈ log ∧ rows = rowsOf c logs

theorem Answered.mono {rows : List AuditRow} {log log' : Log} (h : Answered rows log)
    (hsub : log ⊆ log') : Answered rows log' := by
  obtain ⟨c, start, end_, logs, hmem, hrows⟩ := h
  exact ⟨c, start, end_, logs, hsub hmem, hrows⟩

theorem reaches_copyChunks {c : ContractName} {queryChunk latest fuel start indexedHere : Nat}
    {log : Log} {rows : List AuditRow}
    (h : Reaches (copyChunks c queryChunk latest fuel start indexedHere).run log
      (.upsertCache rows)) : Answered rows log := by
  induction fuel generalizing start indexedHere log with
  | zero => exact absurd h reaches_exceptT_pure
  | succ fuel ih =>
      unfold copyChunks at h
      split at h
      · rcases reaches_exceptT_bind.1 h with h | ⟨logs, queried, log, rfl, hqueried, h⟩
        · obtain ⟨-, hop⟩ := reaches_call.1 (reaches_attempt.1 h)
          cases hop
        · have hqueried := returns_call.1 (returns_attempt.1 hqueried)
          have hquery : ⟨.queryFilter c start (min (start + queryChunk - 1) latest), .ok logs⟩ ∈
              queried ++ log := List.mem_append_left _ (hqueried ▸ List.mem_singleton.2 rfl)
          rcases reaches_exceptT_bind.1 h with h | ⟨-, stored, rest, rfl, -, h⟩
          · obtain rfl : rows = rowsOf c logs := by
              have hop := (only_storeRows (P := (· = .upsertCache (rowsOf c logs))) rfl).reached h
              injection hop
            exact ⟨c, _, _, logs, hquery, rfl⟩
          · exact (ih h).mono fun entry hentry => by simp [hentry]
      · exact absurd h reaches_exceptT_pure

/-- Block `b` lies in a chunk whose logs have been answered and whose rows, if any, stored. -/
def Copied (c : ContractName) (latest : Nat) (log : Log) (b : Nat) : Prop :=
  ∃ start end_ logs, start ≤ b ∧ b ≤ end_ ∧ end_ ≤ latest ∧
    ⟨.queryFilter c start end_, .ok logs⟩ ∈ log ∧
    (rowsOf c logs ≠ [] → ⟨.upsertCache (rowsOf c logs), .ok ()⟩ ∈ log)

theorem Copied.mono {c : ContractName} {latest b : Nat} {log log' : Log}
    (h : Copied c latest log b) (hsub : log ⊆ log') : Copied c latest log' b := by
  obtain ⟨start, end_, logs, hstart, hend, hlatest, hquery, hstored⟩ := h
  exact ⟨start, end_, logs, hstart, hend, hlatest, hsub hquery, fun hrows => hsub (hstored hrows)⟩

/-- A loop that has come to its end has copied every block. -/
theorem returns_copyChunks {c : ContractName} {queryChunk latest fuel start indexedHere n : Nat}
    {log : Log} (hchunk : 0 < queryChunk) (hfuel : latest + 1 - start ≤ fuel)
    (h : Returns (copyChunks c queryChunk latest fuel start indexedHere).run log (.ok n)) {b : Nat}
    (hstart : start ≤ b) (hlatest : b ≤ latest) : Copied c latest log b := by
  induction fuel generalizing start indexedHere log with
  | zero => omega
  | succ fuel ih =>
      unfold copyChunks at h
      rw [if_pos (hstart.trans hlatest)] at h
      obtain ⟨logs, queried, log, rfl, hqueried, h⟩ := returns_attempt_bind.1 h
      obtain ⟨u, stored, rest, rfl, hstored, h⟩ := returns_exceptT_bind.1 h
      have hqueried := returns_call.1 hqueried
      by_cases hend : b ≤ min (start + queryChunk - 1) latest
      · refine ⟨start, _, logs, hstart, hend, min_le_right _ _, ?_, fun hrows => ?_⟩
        · rw [hqueried]
          simp
        · have hpos : (rowsOf c logs).length > 0 := List.length_pos_iff.2 hrows
          unfold storeRows at hstored
          rw [if_pos hpos] at hstored
          have hstored := returns_call.1 (returns_attempt.1 hstored)
          rw [hstored]
          simp
      · exact (ih (by omega) h (by omega)).mono fun entry hentry => by simp [hentry]

/-- What a call has done before it stores the resume point of `c`: it has read the height and the
    old resume point, and copied every block from the one it went on with. -/
def Caught (env : IndexerEnv) (c : ContractName) (latest : SafeInt) (log : Log) : Prop :=
  ∃ front state back from_, log = front ++ ⟨.selectState c, state⟩ :: back ∧
    (from_ ≤ env.startBlock ∨ ∃ last, state = .ok (some last) ∧ from_ ≤ last.1 + 1) ∧
    ∀ b, from_ ≤ b → b ≤ latest.1 → Copied c latest.1 back b

section Sync

variable {env : IndexerEnv} {fromBlock : Option Nat}

theorem resumeAt_le (hfrom : ∀ b, fromBlock = some b → b ≤ env.startBlock)
    (state : Except String (Option SafeInt)) :
    resumeAt env fromBlock (data state) ≤ env.startBlock ∨
      ∃ last, state = .ok (some last) ∧ resumeAt env fromBlock (data state) ≤ last.1 + 1 := by
  unfold resumeAt
  cases fromBlock with
  | some b =>
      have hb := hfrom b rfl
      exact .inl (max_le hb le_rfl)
  | none =>
      rcases state with e | (_ | last)
      · exact .inl (max_le le_rfl le_rfl)
      · exact .inl (max_le le_rfl le_rfl)
      · rcases Nat.le_total (last.1 + 1) env.startBlock with hle | hle
        · exact .inl (max_le hle le_rfl)
        · exact .inr ⟨last, rfl, max_le le_rfl hle⟩

/-- What a round has done before it writes. -/
theorem reaches_syncContract (hfrom : ∀ b, fromBlock = some b → b ≤ env.startBlock)
    {latest : SafeInt} {s : SyncTally} {c : ContractName} {log : Log} {op : IndexerOp}
    (h : Reaches (syncContract env fromBlock latest s c).run log op) :
    (∀ rows, op = .upsertCache rows → Answered rows log) ∧
      ∀ c' last, op = .upsertState c' last → last = latest ∧ Caught env c' latest log := by
  have hother : ∀ {P : IndexerOp → Prop}, P op → (∀ rows, ¬ P (.upsertCache rows)) →
      (∀ c' last, ¬ P (.upsertState c' last)) →
      (∀ rows, op = .upsertCache rows → Answered rows log) ∧
        ∀ c' last, op = .upsertState c' last → last = latest ∧ Caught env c' latest log := by
    intro P hP hcache hstate
    exact ⟨fun rows hop => absurd (hop ▸ hP) (hcache rows),
      fun c' last hop => absurd (hop ▸ hP) (hstate c' last)⟩
  unfold syncContract at h
  rcases reaches_exceptT_bind.1 h with h | ⟨stale, asked, log, hlog, -, h⟩
  · exact hother ((only_isStale env fromBlock c).reached h) (fun _ => id) fun _ _ => id
  rcases reaches_exceptT_bind.1 h with h | ⟨-, purged, log, hlog', -, h⟩
  · exact hother ((only_purgeIf stale c).reached h) (fun _ => id) fun _ _ => id
  rcases reaches_ask_bind.1 h with ⟨-, rfl⟩ | ⟨state, back, hlog'', h⟩
  · refine ⟨fun _ hop => ?_, fun _ _ hop => ?_⟩ <;> cases hop
  rcases reaches_exceptT_bind.1 h with h | ⟨-, purged', back', hback, -, h⟩
  · exact hother ((only_purgeIf _ c).reached h) (fun _ => id) fun _ _ => id
  rcases reaches_exceptT_bind.1 h with h | ⟨indexedHere, copied, rest, hrest, hcopied, h⟩
  · refine ⟨fun rows hop => ?_, fun c' last hop => ?_⟩
    · subst hop
      refine (reaches_copyChunks h).mono fun entry hentry => ?_
      subst hlog hlog' hlog'' hback
      simp [hentry]
    · subst hop
      exact ((only_copyChunks _ _ _ _ _ _).reached h).elim
  rcases reaches_ask_bind.1 h with ⟨hdone, rfl⟩ | ⟨r, rest', -, h⟩
  · refine ⟨fun rows hop => ?_, fun c' last hop => ?_⟩
    · cases hop
    · cases hop
      refine ⟨rfl, asked ++ purged, state, back,
        if decide (latest.1 + 1 < resumeAt env fromBlock (data state)) then 0
          else resumeAt env fromBlock (data state), ?_, ?_, fun b hb hlatest => ?_⟩
      · rw [hlog, hlog', hlog'', List.append_assoc]
      · split
        · exact .inl (Nat.zero_le _)
        · exact resumeAt_le hfrom state
      · refine (returns_copyChunks env.chunkSize_pos le_rfl hcopied hb hlatest).mono ?_
        intro entry hentry
        rw [hback, hrest]
        simp [hentry]
  · exact absurd h reaches_exceptT_pure

theorem Caught.prepend {c : ContractName} {latest : SafeInt} {log : Log}
    (h : Caught env c latest log) (before : Log) : Caught env c latest (before ++ log) := by
  obtain ⟨front, state, back, from_, rfl, hfrom, hcopied⟩ := h
  exact ⟨before ++ front, state, back, from_, (List.append_assoc ..).symm, hfrom, hcopied⟩

/-- What a call has done before it writes. -/
theorem reaches_syncEvents (hfrom : ∀ b, fromBlock = some b → b ≤ env.startBlock) {log : Log}
    {op : IndexerOp} (h : Reaches (syncEvents env fromBlock).run log op) :
    (∀ rows, op = .upsertCache rows → Answered rows log) ∧
      ∀ c latest, op = .upsertState c latest →
        ∃ rest, log = ⟨.getBlockNumber, .ok latest⟩ :: rest ∧ Caught env c latest rest := by
  have hrounds : ∀ (latest : SafeInt) (cs : List ContractName) (s : SyncTally) (log : Log),
      Reaches (syncContracts env fromBlock latest cs s).run log op →
      (∀ rows, op = .upsertCache rows → Answered rows log) ∧
        ∀ c' last, op = .upsertState c' last → last = latest ∧ Caught env c' latest log := by
    intro latest cs
    induction cs with
    | nil => exact fun s log h => absurd h reaches_exceptT_pure
    | cons c cs ih =>
        intro s log h
        rcases reaches_exceptT_bind.1 h with h | ⟨s', front, back, rfl, -, h⟩
        · exact reaches_syncContract hfrom h
        · obtain ⟨hcache, hstate⟩ := ih s' back h
          refine ⟨fun rows hop => (hcache rows hop).mono (List.subset_append_right _ _),
            fun c' last hop => ?_⟩
          obtain ⟨hlast, hcaught⟩ := hstate c' last hop
          exact ⟨hlast, hcaught.prepend front⟩
  unfold syncEvents at h
  rcases reaches_exceptT_bind.1 h with h | ⟨latest, front, rest, rfl, hlatest, h⟩
  · obtain ⟨-, rfl⟩ := reaches_call.1 (reaches_attempt.1 h)
    refine ⟨fun _ hop => ?_, fun _ _ hop => ?_⟩ <;> cases hop
  · have hlatest := returns_call.1 (returns_attempt.1 hlatest)
    rcases reaches_exceptT_bind.1 h with h | ⟨s, rounds, done, rfl, -, h⟩
    · obtain ⟨hcache, hstate⟩ := hrounds latest _ _ _ h
      refine ⟨fun rows hop => (hcache rows hop).mono (List.subset_append_right _ _),
        fun c last hop => ?_⟩
      obtain ⟨rfl, hcaught⟩ := hstate c last hop
      exact ⟨rest, by rw [hlatest]; rfl, hcaught⟩
    · exact absurd h reaches_exceptT_pure

end Sync

end IndexerProgram

/-! ## What a statement does -/

section Runs

variable {env : IndexerEnv} {chain : ChainLogs}

/-- What an operation makes of the tables when it takes effect. -/
inductive IndexerDb.Changes (db : IndexerDb) : IndexerOp → IndexerDb → Prop where
  | deleteCache (c : ContractName) :
      Changes db (.deleteCache c) { db with cache := db.cache.deleteContract c }
  | upsertCache (rows : List AuditRow) :
      Changes db (.upsertCache rows) { db with cache := db.cache.upsert rows }
  | deleteState (c : ContractName) :
      Changes db (.deleteState c) { db with lastBlock := Function.update db.lastBlock c none }
  | upsertState (c : ContractName) (last : SafeInt) :
      Changes db (.upsertState c last)
        { db with lastBlock := Function.update db.lastBlock c (some last) }

theorem IndexerState.db_of_exec {s s' : IndexerState} {op : IndexerOp} {r : op.Res}
    (h : IndexerState.exec chain s op r s') :
    s'.height = s.height ∧ (s'.db = s.db ∨ s.db.Changes op s'.db) := by
  have hread : ∀ {α : Type} {a r : Except String α}, Attempt s (a, s) r s' →
      s'.height = s.height ∧ (s'.db = s.db ∨ s.db.Changes op s'.db) := by
    intro α a r hattempt
    exact hattempt.keeps (P := fun s' => s'.height = s.height ∧ (s'.db = s.db ∨ s.db.Changes op s'.db))
      ⟨rfl, .inl rfl⟩ ⟨rfl, .inl rfl⟩
  have hwrite : ∀ {a r : Except String Unit} {db : IndexerDb}, s.db.Changes op db →
      Attempt s (a, { s with db := db }) r s' →
      s'.height = s.height ∧ (s'.db = s.db ∨ s.db.Changes op s'.db) := by
    intro a r db hchanges hattempt
    exact hattempt.keeps (P := fun s' => s'.height = s.height ∧ (s'.db = s.db ∨ s.db.Changes op s'.db))
      ⟨rfl, .inl rfl⟩ ⟨rfl, .inr hchanges⟩
  cases op with
  | getBlockNumber => exact hread h
  | getTransactionReceipt c txHash =>
      obtain ⟨known, -, h⟩ := h
      exact hread h
  | queryFilter c start end_ => exact hread h
  | selectNewest c =>
      obtain ⟨newest, -, h⟩ := h
      exact hread h
  | deleteCache c => exact hwrite (.deleteCache c) h
  | upsertCache rows => exact hwrite (.upsertCache rows) h
  | selectState c => exact hread h
  | deleteState c => exact hwrite (.deleteState c) h
  | upsertState c last => exact hwrite (.upsertState c last) h

/-- The tables before and after a transition. -/
abbrev tablesBefore (t : (indexing env chain).Transition) : IndexerDb := t.before.shared.db

abbrev tablesAfter (t : (indexing env chain).Transition) : IndexerDb := t.after.shared.db

theorem indexing_step {t : (indexing env chain).Transition} (h : t.Valid) :
    t.before.shared.height.1 ≤ t.after.shared.height.1 ∧
      (tablesAfter t = tablesBefore t ∨
        ∃ i op r, t.move = .perform i op r ∧ (tablesBefore t).Changes op (tablesAfter t)) := by
  rcases h.shared with heq | ⟨i, op, r, hmove, hexec⟩ | ⟨hheight, hdb⟩
  · rw [tablesAfter, heq]
    exact ⟨le_rfl, .inl rfl⟩
  · obtain ⟨hheight, hdb | hchanges⟩ := IndexerState.db_of_exec hexec
    · exact ⟨(congrArg Subtype.val hheight).ge, .inl hdb⟩
    · exact ⟨(congrArg Subtype.val hheight).ge, .inr ⟨i, op, r, hmove, hchanges⟩⟩
  · exact ⟨hheight, .inl hdb⟩

theorem height_le {c c' : (indexing env chain).Config} {ts : List (indexing env chain).Transition}
    (h : (indexing env chain).system.Path c ts c') : c.shared.height.1 ≤ c'.shared.height.1 :=
  h.rel (R := fun c c' : (indexing env chain).Config => c.shared.height.1 ≤ c'.shared.height.1)
    (fun _ => le_rfl) le_trans fun t ht => (indexing_step (h.valid t ht)).1

/-- A row is lost by the deletion of the rows of its contract only. -/
theorem deleted_of_lost {t : (indexing env chain).Transition} (h : t.Valid) {row : AuditRow}
    (hrow : row ∈ (tablesBefore t).cache.rows) (hlost : row ∉ (tablesAfter t).cache.rows) :
    ∃ i r, t.move = .perform i (.deleteCache row.contractName) r := by
  obtain ⟨-, hdb | ⟨i, op, r, hmove, hchanges⟩⟩ := indexing_step h
  · exact absurd (hdb ▸ hrow) hlost
  · generalize tablesAfter t = after at hchanges hlost
    cases hchanges with
    | deleteCache c =>
        have hc : row.contractName = c := by
          by_contra hne
          exact hlost (AuditCache.mem_deleteContract.2 ⟨hrow, hne⟩)
        exact ⟨i, r, hc ▸ hmove⟩
    | upsertCache rows => exact absurd ((prefix_insertAllNew _ _).subset hrow) hlost
    | deleteState c => exact absurd hrow hlost
    | upsertState c last => exact absurd hrow hlost

/-- A statement changes the tables as it says, or not at all. -/
theorem changes_of_perform {t : (indexing env chain).Transition} (h : t.Valid) {i : Nat}
    {op : IndexerOp} {r : op.Res} (hmove : t.move = .perform i op r) :
    tablesAfter t = tablesBefore t ∨ (tablesBefore t).Changes op (tablesAfter t) := by
  refine (indexing_step h).2.imp_right ?_
  rintro ⟨j, op', r', hmove', hchanges⟩
  rw [hmove] at hmove'
  cases hmove'
  exact hchanges

theorem lastBlock_of_deleteCache {t : (indexing env chain).Transition} (h : t.Valid) {i : Nat}
    {c : ContractName} {r : Except String Unit} (hmove : t.move = .perform i (.deleteCache c) r)
    (c' : ContractName) : (tablesAfter t).lastBlock c' = (tablesBefore t).lastBlock c' := by
  rcases changes_of_perform h hmove with hdb | hchanges
  · rw [hdb]
  · generalize tablesAfter t = after at hchanges ⊢
    cases hchanges
    rfl

theorem cache_of_upsertState {t : (indexing env chain).Transition} (h : t.Valid) {i : Nat}
    {c : ContractName} {last : SafeInt} {r : Except String Unit}
    (hmove : t.move = .perform i (.upsertState c last) r) :
    (tablesAfter t).cache = (tablesBefore t).cache := by
  rcases changes_of_perform h hmove with hdb | hchanges
  · rw [hdb]
  · generalize tablesAfter t = after at hchanges ⊢
    cases hchanges
    rfl

/-! ## What a statement has been answered -/

theorem height_of_getBlockNumber {t : (indexing env chain).Transition} (h : t.Valid) {i : Nat}
    {latest : SafeInt} (hmove : t.move = .perform i .getBlockNumber (.ok latest)) :
    latest = t.before.shared.height := by
  obtain ⟨-, -, -, -, hexec, -⟩ := h.perform hmove
  have hanswer := congrArg Prod.fst (Attempt.of_ok hexec)
  exact (Except.ok.inj hanswer).symm

theorem logs_of_queryFilter {t : (indexing env chain).Transition} (h : t.Valid) {i : Nat}
    {c : ContractName} {start end_ : Nat} {logs : List EventLog}
    (hmove : t.move = .perform i (.queryFilter c start end_) (.ok logs)) :
    logs = chain.queryFilter c start (min end_ t.before.shared.height.1) := by
  obtain ⟨-, -, -, -, hexec, -⟩ := h.perform hmove
  have hanswer := congrArg Prod.fst (Attempt.of_ok hexec)
  exact (Except.ok.inj hanswer).symm

theorem lastBlock_of_selectState {t : (indexing env chain).Transition} (h : t.Valid) {i : Nat}
    {c : ContractName} {last : Option SafeInt}
    (hmove : t.move = .perform i (.selectState c) (.ok last)) :
    last = (tablesBefore t).lastBlock c := by
  obtain ⟨-, -, -, -, hexec, -⟩ := h.perform hmove
  have hanswer := congrArg Prod.fst (Attempt.of_ok hexec)
  exact (Except.ok.inj hanswer).symm

theorem cache_of_upsertCache {t : (indexing env chain).Transition} (h : t.Valid) {i : Nat}
    {rows : List AuditRow} (hmove : t.move = .perform i (.upsertCache rows) (.ok ())) :
    (tablesAfter t).cache = (tablesBefore t).cache.upsert rows := by
  obtain ⟨-, -, -, -, hexec, -⟩ := h.perform hmove
  have hafter := congrArg (fun outcome => outcome.2.db.cache) (Attempt.of_ok hexec)
  exact hafter.symm

/-! ## Every cached row is an event of the chain -/

def IndexerDb.Emitted (chain : ChainLogs) (db : IndexerDb) : Prop :=
  ∀ row ∈ db.cache.rows, ∃ b, chain.Emits row.contractName b row

theorem mem_rowsOf {c : ContractName} {start end_ : Nat} {row : AuditRow} :
    row ∈ IndexerProgram.rowsOf c (chain.queryFilter c start end_) ↔
      ∃ b, start ≤ b ∧ b ≤ end_ ∧ chain.Emits c b row :=
  ChainLogs.mem_rowsIn

theorem handler_reaches {ts : List (indexing env chain).Transition}
    {t : (indexing env chain).Transition} {height : SafeInt} {c : (indexing env chain).Config}
    {post : List (indexing env chain).Transition}
    (h : (indexing env chain).Run ⟨height, .fresh⟩ (ts ++ t :: post) c) {i : Nat} {op : IndexerOp}
    {r : op.Res} (hmove : t.move = .perform i op r) :
    (∀ rows, op = .upsertCache rows → IndexerProgram.Answered rows (ownLog i ts)) ∧
      ∀ c latest, op = .upsertState c latest →
        ∃ rest, ownLog i ts = ⟨.getBlockNumber, .ok latest⟩ :: rest ∧
          IndexerProgram.Caught env c latest rest := by
  obtain ⟨fromBlock, hserves, hreaches⟩ := h.awaited hmove
  obtain ⟨hbefore, -, -⟩ := h.split_at
  obtain ⟨c₀, us, -, hadmits⟩ := Run.admitted hbefore hserves
  exact IndexerProgram.reaches_syncEvents hadmits hreaches

theorem IndexerDb.Emitted.upsert {db : IndexerDb} (h : db.Emitted chain) {c : ContractName}
    {start end_ : Nat} {row : AuditRow} :
    row ∈ (db.cache.upsert (IndexerProgram.rowsOf c (chain.queryFilter c start end_))).rows ↔
      row ∈ db.cache.rows ∨ ∃ b, start ≤ b ∧ b ≤ end_ ∧ chain.Emits c b row := by
  have hemits : ∀ row, row ∈ db.cache.rows ∨
      row ∈ IndexerProgram.rowsOf c (chain.queryFilter c start end_) →
      ∃ c b, chain.Emits c b row := by
    rintro row (hrow | hrow)
    · obtain ⟨b, hemits⟩ := h row hrow
      exact ⟨_, b, hemits⟩
    · obtain ⟨b, -, -, hemits⟩ := mem_rowsOf.1 hrow
      exact ⟨c, b, hemits⟩
  rw [← mem_rowsOf]
  refine mem_insertAllNew fun x y hx hy heq => ?_
  obtain ⟨c, b, hx⟩ := hemits x hx
  obtain ⟨c', b', hy⟩ := hemits y hy
  exact hx.identity_inj hy heq

theorem indexing_emitted {height : SafeInt} {ts : List (indexing env chain).Transition}
    {c : (indexing env chain).Config} (h : (indexing env chain).Run ⟨height, .fresh⟩ ts c) :
    ∀ t ∈ ts, (tablesBefore t).Emitted chain ∧ (tablesAfter t).Emitted chain := by
  refine (h.invariant_of_history (P := fun c : (indexing env chain).Config =>
    c.shared.db.Emitted chain) ?_ ?_).2
  · intro row hrow
    cases hrow
  · intro pre t post hts _ hbefore
    subst hts
    obtain ⟨hpre, hvalid, -⟩ := h.split_at
    have hbefore : (tablesBefore t).Emitted chain := hbefore
    show (tablesAfter t).Emitted chain
    obtain ⟨-, hdb | ⟨i, op, r, hmove, hchanges⟩⟩ := indexing_step hvalid
    · rw [hdb]
      exact hbefore
    · have hwrites := (handler_reaches h hmove).1
      generalize tablesAfter t = after at hchanges ⊢
      cases hchanges with
      | deleteCache c => exact fun row hrow => hbefore row (AuditCache.mem_deleteContract.1 hrow).1
      | upsertCache rows =>
          -- The rows are those of an earlier answer of the node.
          obtain ⟨c, start, end_, logs, hquery, rfl⟩ := hwrites rows rfl
          obtain ⟨u, hu, hqueried⟩ := mem_ownLog.1 hquery
          rw [logs_of_queryFilter (hpre.valid u hu) hqueried]
          intro row hrow
          rcases hbefore.upsert.1 hrow with hrow | ⟨b, -, -, hemits⟩
          · exact hbefore row hrow
          · exact ⟨b, hemits.contractName ▸ hemits⟩
      | deleteState c => exact hbefore
      | upsertState c last => exact hbefore

/-! ## How a gap comes about -/

variable (env) in
/-- Rows are deleted that the stored resume point covers. -/
def Orphans (t : (indexing env chain).Transition) : Prop :=
  ∃ i c r, t.move = .perform i (.deleteCache c) r ∧ ∃ last, (tablesBefore t).lastBlock c = some last ∧
    ∃ row ∈ (tablesBefore t).cache.rows, row.contractName = c ∧
      env.startBlock ≤ row.blockNumber.1 ∧ row.blockNumber.1 ≤ last.1 ∧
      row ∉ (tablesAfter t).cache.rows

variable (env) in
/-- A call stores a resume point that covers rows which were deleted, by any call, after it read the
    old one, and have not been put back. -/
def Overlooks (pre : List (indexing env chain).Transition) (t : (indexing env chain).Transition) :
    Prop :=
  ∃ i c latest r, t.move = .perform i (.upsertState c latest) r ∧
    (tablesAfter t).lastBlock c = some latest ∧
    ∃ front d back, pre = front ++ d :: back ∧ (∃ state, ⟨IndexerOp.selectState c, state⟩ ∈ ownLog i front) ∧
      (∃ j r', d.move = .perform j (.deleteCache c) r') ∧
      ∃ row ∈ (tablesBefore d).cache.rows, row.contractName = c ∧
        env.startBlock ≤ row.blockNumber.1 ∧ row.blockNumber.1 ≤ latest.1 ∧
        row ∉ (tablesBefore t).cache.rows

theorem IndexerDb.complete_iff {db : IndexerDb} :
    db.Complete env chain ↔ ∀ c last, db.lastBlock c = some last → ∀ b, env.startBlock ≤ b →
      b ≤ last.1 → ∀ row, chain.Emits c b row → row ∈ db.cache.rows := by
  unfold IndexerDb.Complete IndexerDb.CompleteFor
  simp only [AuditCache.count_eq_one_iff]

/-- An event whose row is missing below the resume point is a gap. -/
theorem not_complete_of_missing {db : IndexerDb} {c : ContractName} {last : SafeInt} {row : AuditRow}
    (hlast : db.lastBlock c = some last) (hemitted : ∃ b, chain.Emits row.contractName b row)
    (hc : row.contractName = c) (hstart : env.startBlock ≤ row.blockNumber.1)
    (hle : row.blockNumber.1 ≤ last.1) (hmissing : row ∉ db.cache.rows) :
    ¬ db.Complete env chain := by
  intro hcomplete
  obtain ⟨b, hemits⟩ := hemitted
  have hb := hemits.blockNumber
  rw [hc] at hemits
  exact hmissing (IndexerDb.complete_iff.1 hcomplete c last hlast b (hb ▸ hstart) (hb ▸ hle) row
    hemits)

/-- A row that was there at some time after a call had read the resume point is there when it stores
    the new one, unless it is overlooked. -/
theorem kept_of_careful (front : List (indexing env chain).Transition)
    {path : List (indexing env chain).Transition}
    {u t : (indexing env chain).Transition} {row : AuditRow} {i : Nat} {latest : SafeInt}
    {r : Except String Unit} (hcareful : ¬ Overlooks env (front ++ u :: path) t)
    (hpath : (indexing env chain).system.Path u.after path t.before)
    (hmove : t.move = .perform i (.upsertState row.contractName latest) r)
    (hstored : (tablesAfter t).lastBlock row.contractName = some latest)
    (hread : ∃ state, ⟨IndexerOp.selectState row.contractName, state⟩ ∈ ownLog i (front ++ [u]))
    (hstart : env.startBlock ≤ row.blockNumber.1) (hle : row.blockNumber.1 ≤ latest.1)
    (hrow : row ∈ (tablesAfter u).cache.rows) : row ∈ (tablesBefore t).cache.rows := by
  by_contra hlost
  rcases hpath.kept_or_lost (P := fun c : (indexing env chain).Config =>
    row ∈ c.shared.db.cache.rows) hrow with hkept | ⟨pre, d, post, rfl, hthere, hgone⟩
  · exact hlost hkept
  · obtain ⟨-, hvalid, -⟩ := hpath.split_at
    obtain ⟨j, r', hdeleted⟩ := deleted_of_lost hvalid hthere hgone
    obtain ⟨state, hstate⟩ := hread
    refine hcareful ⟨i, _, latest, r, hmove, hstored, (front ++ [u]) ++ pre, d, post, ?_,
      ⟨state, ?_⟩, ⟨j, r', hdeleted⟩, row, hthere, rfl, hstart, hle, hlost⟩
    · simp
    · rw [ownLog_append]
      exact List.mem_append_left _ hstate

/-- Where nothing is overlooked and there has been no gap, the rows that a new resume point covers
    are there when it is stored. -/
theorem caught_up {height : SafeInt} {pre post : List (indexing env chain).Transition}
    {t : (indexing env chain).Transition} {c : (indexing env chain).Config}
    (h : (indexing env chain).Run ⟨height, .fresh⟩ (pre ++ t :: post) c)
    (hcomplete : ∀ u ∈ pre, (tablesBefore u).Complete env chain)
    (hcareful : ¬ Overlooks env pre t) {i : Nat} {latest : SafeInt} {r : Except String Unit}
    {row : AuditRow} (hmove : t.move = .perform i (.upsertState row.contractName latest) r)
    (hstored : (tablesAfter t).lastBlock row.contractName = some latest)
    (hemits : chain.Emits row.contractName row.blockNumber.1 row)
    (hstart : env.startBlock ≤ row.blockNumber.1) (hle : row.blockNumber.1 ≤ latest.1) :
    row ∈ (tablesBefore t).cache.rows := by
  obtain ⟨rest, hlog, front, state, back, from_, hrest, hfrom, hcopied⟩ :=
    (handler_reaches h hmove).2 _ latest rfl
  have hemitted := indexing_emitted h
  obtain ⟨hpre, -, -⟩ := h.split_at
  have hvalid := hpre.valid
  -- Where the call read the height, and where it read the resume point.
  obtain ⟨pre₀, u₀, pre₁, rfl, hheight, -, hrest'⟩ := exists_of_ownLog [] hlog
  obtain ⟨pre₂, u₁, pre₃, rfl, hread, -, hback⟩ := exists_of_ownLog front (hrest'.trans hrest)
  obtain ⟨-, -, hafter⟩ := hpre.split_at
  obtain ⟨-, -, hpath⟩ := hafter.split_at
  have hassoc : pre₀ ++ u₀ :: (pre₂ ++ u₁ :: pre₃) = (pre₀ ++ u₀ :: pre₂) ++ u₁ :: pre₃ := by simp
  by_cases hb : from_ ≤ row.blockNumber.1
  · -- The call copied the row itself.
    obtain ⟨start, end_, logs, hstart', hend, hlatest, hquery, hcopies⟩ := hcopied _ hb hle
    obtain ⟨u, hu, hqueried⟩ := mem_ownLog.1 (hback ▸ hquery)
    have hgrown : latest.1 ≤ u.before.shared.height.1 := by
      have hu₀ : u₀.Valid := hvalid u₀ (by simp)
      obtain ⟨front', back', hsplit⟩ := List.append_of_mem hu
      obtain ⟨htillU, -, -⟩ := (hsplit ▸ hpath).split_at
      obtain ⟨htillU₁, hu₁, -⟩ := hafter.split_at
      rw [height_of_getBlockNumber hu₀ hheight]
      exact (indexing_step hu₀).1.trans ((height_le htillU₁).trans
        ((indexing_step hu₁).1.trans (height_le htillU)))
    have hlogs : logs = chain.queryFilter row.contractName start end_ := by
      rw [logs_of_queryFilter (hvalid u (by simp [hu])) hqueried, Nat.min_eq_left (by omega)]
    have hmem : row ∈ IndexerProgram.rowsOf row.contractName logs := by
      rw [hlogs]
      exact mem_rowsOf.2 ⟨_, hstart', hend, hemits⟩
    obtain ⟨w, hw, hupserted⟩ := mem_ownLog.1 (hback ▸ hcopies (List.ne_nil_of_mem hmem))
    obtain ⟨front', back', rfl⟩ := List.append_of_mem hw
    obtain ⟨-, hwvalid, htail⟩ := hpath.split_at
    have hcopied : row ∈ (tablesAfter w).cache.rows := by
      rw [cache_of_upsertCache hwvalid hupserted, hlogs]
      exact (hemitted w (by simp)).1.upsert.2 (.inr ⟨_, hstart', hend, hemits⟩)
    refine kept_of_careful (pre₀ ++ u₀ :: (pre₂ ++ u₁ :: front')) ?_ htail hmove hstored
      ⟨state, ?_⟩ hstart hle hcopied
    · simpa using hcareful
    · exact mem_ownLog.2 ⟨u₁, by simp, hread⟩
  · -- The resume point covered the row when it was read.
    rcases hfrom with hfrom | ⟨last, rfl, hfrom⟩
    · omega
    have hu₁ : u₁.Valid := hvalid u₁ (by simp)
    have hlast := lastBlock_of_selectState hu₁ hread
    have hthere : row ∈ (tablesBefore u₁).cache.rows :=
      IndexerDb.complete_iff.1 (hcomplete u₁ (by simp)) _ last hlast.symm _ hstart (by omega) row
        hemits
    have hstill : row ∈ (tablesAfter u₁).cache.rows := by
      by_contra hlost
      obtain ⟨j, r', hdeleted⟩ := deleted_of_lost hu₁ hthere hlost
      rw [hread] at hdeleted
      cases hdeleted
    refine kept_of_careful (pre₀ ++ u₀ :: pre₂) (hassoc ▸ hcareful) hpath hmove hstored
      ⟨Except.ok (some last), ?_⟩ hstart hle hstill
    exact mem_ownLog.2 ⟨u₁, by simp, hread⟩

theorem not_orphans_of_complete {t : (indexing env chain).Transition} (hvalid : t.Valid)
    (hemitted : (tablesBefore t).Emitted chain) (hcomplete : (tablesAfter t).Complete env chain) :
    ¬ Orphans env t := by
  rintro ⟨i, c, r, hmove, last, hlast, row, hrow, hc, hstart, hle, hgone⟩
  have hafter : (tablesAfter t).lastBlock c = some last :=
    (lastBlock_of_deleteCache hvalid hmove c).trans hlast
  exact not_complete_of_missing hafter (hemitted row hrow) hc hstart hle hgone hcomplete

theorem not_overlooks_of_complete {pre : List (indexing env chain).Transition}
    {t : (indexing env chain).Transition} (hvalid : t.Valid)
    (hemitted : ∀ d ∈ pre, (tablesBefore d).Emitted chain)
    (hcomplete : (tablesAfter t).Complete env chain) : ¬ Overlooks env pre t := by
  rintro ⟨i, c, latest, r, hmove, hstored, front, d, back, rfl, -, -, row, hrow, hc, hstart, hle,
    hgone⟩
  have hmissing : row ∉ (tablesAfter t).cache.rows := by
    rwa [cache_of_upsertState hvalid hmove]
  exact not_complete_of_missing hstored (hemitted d (by simp) row hrow) hc hstart hle hmissing
    hcomplete

/-- A transition that neither orphans nor overlooks rows leaves no gap. -/
theorem complete_of_careful {height : SafeInt} {pre post : List (indexing env chain).Transition}
    {t : (indexing env chain).Transition} {c : (indexing env chain).Config}
    (h : (indexing env chain).Run ⟨height, .fresh⟩ (pre ++ t :: post) c)
    (hhistory : ∀ u ∈ pre, (tablesBefore u).Complete env chain)
    (hbefore : (tablesBefore t).Complete env chain) (horphans : ¬ Orphans env t)
    (hoverlooks : ¬ Overlooks env pre t) : (tablesAfter t).Complete env chain := by
  obtain ⟨-, hvalid, -⟩ := h.split_at
  obtain ⟨-, hdb | ⟨i, op, r, hmove, hchanges⟩⟩ := indexing_step hvalid
  · rw [hdb]
    exact hbefore
  refine IndexerDb.complete_iff.2 fun c last hlast b hstart hle row hemits => ?_
  have hb := hemits.blockNumber
  have hc := hemits.contractName
  subst hb hc
  have hcovered : (tablesBefore t).lastBlock row.contractName = some last →
      row ∈ (tablesBefore t).cache.rows := fun hlast =>
    IndexerDb.complete_iff.1 hbefore _ last hlast _ hstart hle row hemits
  by_cases hlastBefore : (tablesBefore t).lastBlock row.contractName = some last
  · -- The row was there, so it is gone only where it is orphaned.
    by_contra hgone
    obtain ⟨j, r', hdeleted⟩ := deleted_of_lost hvalid (hcovered hlastBefore) hgone
    exact horphans ⟨j, _, r', hdeleted, last, hlastBefore, row, hcovered hlastBefore, rfl, hstart,
      hle, hgone⟩
  · -- The resume point is the one that is stored now.
    have hafter := hlast
    generalize hdb : tablesAfter t = after at hchanges hlast ⊢
    cases hchanges with
    | deleteCache c => exact absurd hlast hlastBefore
    | upsertCache rows => exact absurd hlast hlastBefore
    | deleteState c =>
        exfalso
        by_cases hc : row.contractName = c
        · simp [hc] at hlast
        · exact hlastBefore (by simpa [hc] using hlast)
    | upsertState c latest =>
        by_cases hc : row.contractName = c
        · subst hc
          obtain rfl : latest = last := by simpa using hlast
          exact caught_up h hhistory hoverlooks hmove hafter hemits hstart hle
        · exact absurd (by simpa [hc] using hlast) hlastBefore

/-- Whenever a resume point is stored, every tracked event from the start block up to it is cached:
    this holds of the runs in which no rows are deleted below their resume point and no resume point
    is stored over rows that have been deleted in the meantime, and of no others. -/
theorem indexing_complete_iff {height : SafeInt} {ts : List (indexing env chain).Transition}
    {c : (indexing env chain).Config} (h : (indexing env chain).Run ⟨height, .fresh⟩ ts c) :
    (∀ t ∈ ts, (tablesAfter t).Complete env chain) ↔
      ∀ pre t post, ts = pre ++ t :: post → ¬ Orphans env t ∧ ¬ Overlooks env pre t := by
  have hemitted := indexing_emitted h
  constructor
  · rintro hcomplete pre t post rfl
    obtain ⟨-, hvalid, -⟩ := h.split_at
    have hafter := hcomplete t (by simp)
    exact ⟨not_orphans_of_complete hvalid (hemitted t (by simp)).1 hafter,
      not_overlooks_of_complete hvalid (fun d hd => (hemitted d (by simp [hd])).1) hafter⟩
  · intro hcareful
    suffices hall : ∀ t ∈ ts, (tablesBefore t).Complete env chain ∧
        (tablesAfter t).Complete env chain from fun t ht => (hall t ht).2
    refine (h.invariant_of_history (P := fun c : (indexing env chain).Config =>
      c.shared.db.Complete env chain) ?_ ?_).2
    · exact IndexerDb.complete_iff.2 fun c last hlast => by cases hlast
    · intro pre t post hts hhistory hbefore
      obtain ⟨horphans, hoverlooks⟩ := hcareful pre t post hts
      subst hts
      exact complete_of_careful h (fun u hu => (hhistory u hu).1) hbefore horphans hoverlooks

end Runs

/-! ## A rebuild that stops half-way -/

/-- The hash of the newest cached transaction, as `NewestRow.argmax` picks it. -/
def IndexerDb.newestHash (db : IndexerDb) (c : ContractName) : Option String :=
  (NewestRow.argmax.pick (db.cache.rows.filter fun row => row.contractName == c)).map
    AuditRow.txHash

theorem IndexerDb.isNewest_newestHash (db : IndexerDb) (c : ContractName) :
    IndexerState.IsNewest db c (db.newestHash c) := by
  unfold newestHash
  cases hpick : NewestRow.argmax.pick (db.cache.rows.filter fun row => row.contractName == c) with
  | none =>
      intro row hrow hc
      exact List.filter_eq_nil_iff.1 (NewestRow.argmax.pick_eq_none hpick) row hrow (beq_iff_eq.2 hc)
  | some newest =>
      obtain ⟨hmem, hc⟩ := List.mem_filter.1 (NewestRow.argmax.mem hpick)
      refine ⟨newest, hmem, beq_iff_eq.1 hc, rfl, fun row' hrow' hc' => ?_⟩
      exact NewestRow.argmax.newest hpick row' (List.mem_filter.2 ⟨hrow', beq_iff_eq.2 hc'⟩)

/-- Statements succeed, unless a cue names the failure, which then takes no effect. Every transaction
    has a receipt. -/
def indexingPlayer (env : IndexerEnv) (chain : ChainLogs) : (indexing env chain).Player where
  Choice := Option String
  Event := SafeInt
  perform := fun (s : IndexerState) op failure =>
    match op, failure with
    | .getBlockNumber, none => some (.ok s.height, s)
    | .getBlockNumber, some e => some (.error e, s)
    | .getTransactionReceipt .., none => some (.ok true, s)
    | .getTransactionReceipt .., some e => some (.error e, s)
    | .queryFilter c start end_, none =>
        some (.ok (chain.queryFilter c start (min end_ s.height.1)), s)
    | .queryFilter .., some e => some (.error e, s)
    | .selectNewest c, none => some (.ok (s.db.newestHash c), s)
    | .selectNewest _, some e => some (.error e, s)
    | .deleteCache c, none =>
        some (.ok (), { s with db.cache := s.db.cache.deleteContract c })
    | .deleteCache _, some e => some (.error e, s)
    | .upsertCache rows, none => some (.ok (), { s with db.cache := s.db.cache.upsert rows })
    | .upsertCache _, some e => some (.error e, s)
    | .selectState c, none => some (.ok (s.db.lastBlock c), s)
    | .selectState _, some e => some (.error e, s)
    | .deleteState c, none =>
        some (.ok (), { s with db.lastBlock := Function.update s.db.lastBlock c none })
    | .deleteState _, some e => some (.error e, s)
    | .upsertState c last, none =>
        some (.ok (), { s with db.lastBlock := Function.update s.db.lastBlock c (some last) })
    | .upsertState .., some e => some (.error e, s)
  outside := fun (s : IndexerState) height =>
    if s.height.1 ≤ height.1 then some { s with height } else none
  admits := fun _ fromBlock => fromBlock.all fun b => decide (b ≤ env.startBlock)
  perform_sound := by
    intro s op failure r s' h
    cases failure with
    | none =>
        cases op with
        | getTransactionReceipt c txHash =>
            cases h
            exact ⟨true, fun _ => rfl, .inl rfl⟩
        | selectNewest c =>
            cases h
            exact ⟨_, s.db.isNewest_newestHash c, .inl rfl⟩
        | _ =>
            cases h
            exact .inl rfl
    | some e =>
        cases op with
        | getTransactionReceipt c txHash =>
            cases h
            exact ⟨true, fun _ => rfl, .inr ⟨e, rfl, .inl rfl⟩⟩
        | selectNewest c =>
            cases h
            exact ⟨_, s.db.isNewest_newestHash c, .inr ⟨e, rfl, .inl rfl⟩⟩
        | _ =>
            cases h
            exact .inr ⟨e, rfl, .inl rfl⟩
  outside_sound := by
    intro s height s' h
    split at h
    next hle =>
        cases h
        exact ⟨hle, rfl⟩
    · cases h
  admits_sound := by
    intro s fromBlock h b hb
    subst hb
    exact of_decide_eq_true h

namespace Sample

abbrev quietIndexing : Service := indexing localEnv quietChain

abbrev quietPlayer : quietIndexing.Player := indexingPlayer localEnv quietChain

/-- A thread goes on by so many statements, all of which succeed. -/
def goesOn (thread steps : Nat) : List quietPlayer.Cue :=
  List.replicate steps (.perform thread none)

def quietStart : IndexerState := ⟨⟨5, five_safe⟩, .fresh⟩

/-- The resume point and the number of cached rows of the identity registry. -/
def registryIndex (c : quietIndexing.Config) : Option Nat × Nat :=
  ((c.shared.db.lastBlock .identityRegistry).map Subtype.val, c.shared.db.cache.rows.length)

/-- A first call fills the cache. A rebuild deletes the rows and stops there. The next call goes on
    behind the block that the first one has stored. -/
theorem rebuild_leaves_gap :
    ¬ ∀ (env : IndexerEnv) (chain : ChainLogs) (height : SafeInt)
        (ts : List (indexing env chain).Transition) (c : (indexing env chain).Config),
        (indexing env chain).Run ⟨height, .fresh⟩ ts c →
        ∀ t ∈ ts, t.after.shared.db.Complete env chain := by
  intro hall
  have hplay : (quietPlayer.play (idle quietStart)
      (.arrive none :: goesOn 0 14 ++ .arrive (some 0) :: goesOn 1 2 ++
        .arrive none :: goesOn 2 10)).map (fun (_, c) => registryIndex c) = some (some 5, 0) := by
    decide +kernel
  obtain ⟨⟨ts, c⟩, hplay, hindex⟩ := Option.map_eq_some_iff.1 hplay
  have hrun : quietIndexing.Run quietStart ts c := Player.play_path hplay
  obtain ⟨hlast, hrows⟩ := Prod.mk.inj hindex
  obtain ⟨last, hlast, hfive⟩ := Option.map_eq_some_iff.1 hlast
  have hend : c.shared.db.Complete localEnv quietChain := by
    rcases hrun.end_eq with rfl | ⟨t, ht, rfl⟩
    · cases hlast
    · exact hall _ _ _ _ _ hrun t ht
  have hemits : quietChain.Emits .identityRegistry 1 (registeredLog.toRow .identityRegistry) :=
    ⟨registeredLog, List.mem_singleton.2 rfl, by decide +kernel, rfl⟩
  have hmem := IndexerDb.complete_iff.1 hend _ last hlast 1 (by decide) (by omega) _ hemits
  rw [List.length_eq_zero_iff.1 hrows] at hmem
  cases hmem

/-- Whether rows are deleted in a move. -/
def deletes : quietIndexing.Move → Bool
  | .perform _ (.deleteCache _) _ => true
  | _ => false

/-- Two calls side by side, of which the first fails as it stores rows, leave no gap. -/
theorem failing_call_leaves_no_gap :
    ∃ (ts : List quietIndexing.Transition) (c : quietIndexing.Config),
      quietIndexing.Run quietStart ts c ∧ registryIndex c = (some 5, 1) ∧
        ∀ t ∈ ts, t.after.shared.db.Complete localEnv quietChain := by
  have hplay : (quietPlayer.play (idle quietStart)
      (.arrive none :: goesOn 0 4 ++ .arrive none :: goesOn 1 3 ++
        .perform 0 (some "timeout") :: goesOn 1 11)).map
          (fun (ts, c) => (ts.any fun t => deletes t.move, registryIndex c)) =
        some (false, some 5, 1) := by decide +kernel
  obtain ⟨⟨ts, c⟩, hplay, hindex⟩ := Option.map_eq_some_iff.1 hplay
  have hrun : quietIndexing.Run quietStart ts c := Player.play_path hplay
  obtain ⟨hdeletes, hindex⟩ := Prod.mk.inj hindex
  refine ⟨ts, c, hrun, hindex, (indexing_complete_iff hrun).2 ?_⟩
  have hkept : ∀ t ∈ ts, ∀ i c r, t.move ≠ .perform i (.deleteCache c) r := by
    intro t ht i c r hmove
    have hdeleted := List.any_eq_false.1 hdeletes t ht
    rw [hmove] at hdeleted
    exact hdeleted rfl
  rintro pre t post rfl
  refine ⟨?_, ?_⟩
  · rintro ⟨i, c, r, hmove, -⟩
    exact hkept t (by simp) i c r hmove
  · rintro ⟨i, c, latest, r, -, -, front, d, back, rfl, -, ⟨j, r', hdeleted⟩, -⟩
    exact hkept d (by simp) j c r' hdeleted

end Sample

end OwneX
