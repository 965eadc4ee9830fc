import OwneX.Platform.SyncRound
import OwneX.Contracts.Runs
import Mathlib.Data.List.MinMax

set_option autoImplicit false

/-! # What the audit index holds

A call of `syncEvents` treats each contract in one of three ways (`SyncOutcome`): it rebuilds the
index of the contract, goes on where the last call stopped, or starts where the caller said. After
the first two the index has no gap if it had none before. After the third it lacks whatever happened
between the last call and the caller's start, and the stored height says that it does not: an
interval in which nothing happened is the only one a caller may skip (`SyncCall.Skips`). -/

namespace OwneX

open JsNumber KeyedList

variable {chain : ChainLogs} (env : IndexerEnv)

/-- The index of `c` has no gap up to the stored height: the row of every tracked event from the
    start block on is there, once. -/
def IndexerDb.CompleteFor (chain : ChainLogs) (db : IndexerDb) (c : ContractName) : Prop :=
  ∀ last, db.lastBlock c = some last → ∀ b, env.startBlock ≤ b → b ≤ last.1 →
    ∀ row, chain.Emits c b row → db.cache.rows.count row = 1

def IndexerDb.Complete (chain : ChainLogs) (db : IndexerDb) : Prop :=
  ∀ c, db.CompleteFor env chain c

/-- The call starts late: a tracked event of `c` lies behind the stored height, or behind nothing if
    there is none, and before the block the caller names. -/
def SyncCall.Skips (call : SyncCall chain) (db : IndexerDb) (c : ContractName) : Prop :=
  ∃ fromBlock, call.fromBlock = some fromBlock ∧ env.startBlock < fromBlock ∧
    fromBlock ≤ call.node.latest.1 + 1 ∧
    ∃ b row, chain.Emits c b row ∧ env.startBlock ≤ b ∧ b < fromBlock ∧
      ∀ last, db.lastBlock c = some last → last.1 < b

/-- Every row stems from the chain, from a block that its contract is indexed up to, and nothing is
    indexed beyond `height`. -/
structure IndexerDb.Sound (chain : ChainLogs) (db : IndexerDb) (height : SafeInt) : Prop where
  emitted : ∀ row ∈ db.cache.rows, ∃ b last, chain.Emits row.contractName b row ∧
    db.lastBlock row.contractName = some last ∧ b ≤ last.1
  reached : ∀ c last, db.lastBlock c = some last → last.1 ≤ height.1

theorem IndexerDb.sound_fresh (height : SafeInt) : IndexerDb.Sound chain .fresh height where
  emitted := by
    intro row hrow
    cases hrow
  reached := by
    intro c last hlast
    cases hlast

theorem IndexerDb.Sound.mono {db : IndexerDb} {height height' : SafeInt}
    (h : db.Sound chain height) (hle : height.1 ≤ height'.1) : db.Sound chain height' where
  emitted := h.emitted
  reached := fun c last hlast => (h.reached c last hlast).trans hle

/-! ## One round -/

/-- What a round makes of the cache before it copies events, and where it starts to copy. -/
inductive SyncOutcome (call : SyncCall chain) (db : IndexerDb) (c : ContractName) :
    AuditCache → Nat → Prop where
  | rebuilt {from_ : Nat} : from_ ≤ env.startBlock →
      (∀ fromBlock, call.fromBlock = some fromBlock →
        fromBlock ≤ env.startBlock ∨ call.node.latest.1 + 1 < fromBlock) →
      SyncOutcome call db c (db.cache.deleteContract c) from_
  | resumed : call.fromBlock = none → SyncOutcome call db c db.cache (call.resumeAt env db c)
  | started {fromBlock : Nat} : call.fromBlock = some fromBlock → env.startBlock < fromBlock →
      fromBlock ≤ call.node.latest.1 + 1 → SyncOutcome call db c db.cache fromBlock

/-- On a chain that only grows, the newest cached transaction has a receipt. -/
theorem IndexerDb.Sound.detectChainReset_eq_false {call : SyncCall chain} {db : IndexerDb}
    (h : db.Sound chain call.node.latest) (c : ContractName) :
    db.detectChainReset call c = false := by
  unfold IndexerDb.detectChainReset
  split
  · rfl
  next newest hnewest =>
      have hmem := List.mem_filter.1 (call.newestRow.mem hnewest)
      obtain ⟨b, last, ⟨log, hlog, -, hrow⟩, hlast, hb⟩ := h.emitted newest hmem.1
      have hreceipt : call.node.hasReceipt c newest.txHash = true := by
        rw [← hrow]
        exact call.node.mined hlog (hb.trans (h.reached _ last hlast))
      rw [hreceipt, Bool.not_true, Bool.and_false]

theorem SyncCall.rebuilds_iff {call : SyncCall chain} :
    call.rebuilds env = true ↔
      ∃ fromBlock, call.fromBlock = some fromBlock ∧ fromBlock ≤ env.startBlock := by
  unfold SyncCall.rebuilds
  cases call.fromBlock with
  | none => simp
  | some fromBlock => simp

theorem SyncCall.resumeAt_some {call : SyncCall chain} {fromBlock : Nat}
    (h : call.fromBlock = some fromBlock) (db : IndexerDb) (c : ContractName) :
    call.resumeAt env db c = max fromBlock env.startBlock := by
  rw [SyncCall.resumeAt, h]

/-- On a chain that only grows, nothing but the caller's option makes a round stale. -/
theorem IndexerDb.Sound.stale_eq {call : SyncCall chain} {db : IndexerDb}
    (h : db.Sound chain call.node.latest) (c : ContractName) :
    call.stale env db c = call.rebuilds env := by
  rw [SyncCall.stale, h.detectChainReset_eq_false, Bool.or_false]

/-- There are no other rounds. -/
theorem IndexerDb.Sound.syncOutcome {call : SyncCall chain} {db : IndexerDb}
    (h : db.Sound chain call.node.latest) (c : ContractName) :
    SyncOutcome env call db c (call.keeps env db c) (call.copiesFrom env db c) := by
  unfold SyncCall.keeps SyncCall.copiesFrom SyncCall.drops SyncCall.beyond SyncCall.resumed
  rw [h.stale_eq]
  by_cases hrebuild : call.rebuilds env = true
  · -- A full rebuild starts at the start block, or at block 0 if that lies beyond the chain.
    obtain ⟨fromBlock, hfrom, hle⟩ := (SyncCall.rebuilds_iff env).1 hrebuild
    have hresume : ∀ db : IndexerDb, call.resumeAt env db c = env.startBlock := fun db => by
      rw [SyncCall.resumeAt_some env hfrom, Nat.max_eq_right hle]
    have hearly : ∀ fromBlock', call.fromBlock = some fromBlock' →
        fromBlock' ≤ env.startBlock ∨ call.node.latest.1 + 1 < fromBlock' := by
      intro fromBlock' hfrom'
      rw [hfrom] at hfrom'
      cases hfrom'
      exact .inl hle
    simp only [hrebuild, if_true, hresume, Bool.true_or]
    refine .rebuilt ?_ hearly
    split
    · exact Nat.zero_le _
    · exact le_rfl
  · simp only [hrebuild, Bool.false_eq_true, if_false, Bool.false_or]
    by_cases hbeyond : call.node.latest.1 + 1 < call.resumeAt env db c
    · have hlate : ∀ fromBlock, call.fromBlock = some fromBlock →
          fromBlock ≤ env.startBlock ∨ call.node.latest.1 + 1 < fromBlock := by
        intro fromBlock hfrom
        rw [SyncCall.resumeAt_some env hfrom] at hbeyond
        omega
      simp only [hbeyond, decide_true, if_true]
      exact .rebuilt (Nat.zero_le _) hlate
    · simp only [hbeyond, decide_false, Bool.false_eq_true, if_false]
      cases hfrom : call.fromBlock with
      | none => exact .resumed hfrom
      | some fromBlock =>
          have hlt : env.startBlock < fromBlock := by
            by_contra hle
            exact hrebuild ((SyncCall.rebuilds_iff env).2 ⟨fromBlock, hfrom, by omega⟩)
          have hresume := SyncCall.resumeAt_some env hfrom db c
          rw [Nat.max_eq_left hlt.le] at hresume
          rw [hresume] at hbeyond ⊢
          exact .started hfrom hlt (by omega)

/-! ## What a round keeps and adds -/

/-- All rows in play stem from the chain, so the unique columns tell them apart: every event that is
    copied is there. -/
theorem IndexerDb.Sound.mem_syncContract {call : SyncCall chain} {s : SyncState}
    (h : s.db.Sound chain call.node.latest) (c : ContractName) (row : AuditRow) :
    row ∈ (syncContract env call s c).db.cache.rows ↔
      row ∈ (call.keeps env s.db c).rows ∨
        ∃ b, call.copiesFrom env s.db c ≤ b ∧ b ≤ call.node.latest.1 ∧ chain.Emits c b row := by
  rw [syncContract_db_eq, ← ChainLogs.mem_rowsIn]
  have hemits : ∀ row, row ∈ (call.keeps env s.db c).rows ∨
      row ∈ chain.rowsIn c (call.copiesFrom env s.db c) call.node.latest.1 →
      ∃ c' b, chain.Emits c' b row := by
    rintro row (hrow | hrow)
    · obtain ⟨b, last, hrow, -⟩ := h.emitted row (SyncCall.mem_keeps.1 hrow).1
      exact ⟨_, b, hrow⟩
    · obtain ⟨b, -, -, hrow⟩ := ChainLogs.mem_rowsIn.1 hrow
      exact ⟨c, b, hrow⟩
  refine mem_insertAllNew fun x y hx hy heq => ?_
  obtain ⟨cx, bx, hx⟩ := hemits x hx
  obtain ⟨cy, by_, hy⟩ := hemits y hy
  exact hx.identity_inj hy heq

/-- What a round does: the resume point moves to the height of the chain, and the cache is what was
    kept together with the events from where the round started. -/
theorem syncContract_spec {call : SyncCall chain} {s : SyncState}
    (h : s.db.Sound chain call.node.latest) (c : ContractName) :
    ∃ kept from_, SyncOutcome env call s.db c kept from_ ∧
      (syncContract env call s c).db.lastBlock =
        Function.update s.db.lastBlock c (some call.node.latest) ∧
      ∀ row, row ∈ (syncContract env call s c).db.cache.rows ↔
        row ∈ kept.rows ∨ ∃ b, from_ ≤ b ∧ b ≤ call.node.latest.1 ∧ chain.Emits c b row := by
  refine ⟨_, _, h.syncOutcome env c, ?_, h.mem_syncContract env c⟩
  rw [syncContract_db_eq]

theorem syncContract_sound {call : SyncCall chain} {s : SyncState}
    (h : s.db.Sound chain call.node.latest) (c : ContractName) :
    (syncContract env call s c).db.Sound chain call.node.latest := by
  have hstate : (syncContract env call s c).db.lastBlock =
      Function.update s.db.lastBlock c (some call.node.latest) := by rw [syncContract_db_eq]
  constructor
  · intro row hrow
    rw [hstate]
    rcases (h.mem_syncContract env c row).1 hrow with hmem | ⟨b, -, hb, hemits⟩
    · obtain ⟨b, last, hemits, hlast, hb⟩ := h.emitted row (SyncCall.mem_keeps.1 hmem).1
      by_cases hc : row.contractName = c
      · have hreach := h.reached _ last hlast
        exact ⟨b, call.node.latest, hemits, by rw [hc, Function.update_self], by omega⟩
      · exact ⟨b, last, hemits, by rw [Function.update_of_ne hc, hlast], hb⟩
    · have hc : row.contractName = c := hemits.contractName
      subst hc
      exact ⟨b, call.node.latest, hemits, Function.update_self .., hb⟩
  · intro c' last hlast
    rw [hstate] at hlast
    by_cases hc : c' = c
    · rw [hc, Function.update_self] at hlast
      exact le_of_eq (congrArg Subtype.val (Option.some.inj hlast).symm)
    · rw [Function.update_of_ne hc] at hlast
      exact h.reached c' last hlast

/-- The index of `c` is the same in both databases. -/
structure IndexerDb.SameFor (db db' : IndexerDb) (c : ContractName) : Prop where
  lastBlock : db'.lastBlock c = db.lastBlock c
  rows : ∀ row, row.contractName = c → (row ∈ db'.cache.rows ↔ row ∈ db.cache.rows)

/-- A round leaves the index of every other contract alone. -/
theorem syncContract_other {call : SyncCall chain} {s : SyncState} {c c' : ContractName}
    (hne : c' ≠ c) : s.db.SameFor (syncContract env call s c).db c' := by
  have hagrees : s.db.AgreesOn (syncContract env call s c).db c' := syncContract_agreesOn hne
  exact ⟨hagrees.lastBlock, fun row hrow => hagrees.mem_iff hrow⟩

/-- Where the index of `c` had no gap, a round that does not skip an event leaves none, and one that
    does leaves one. -/
theorem syncContract_complete_iff {call : SyncCall chain} {s : SyncState}
    (h : s.db.Sound chain call.node.latest) {c : ContractName}
    (hcomplete : s.db.CompleteFor env chain c) :
    (syncContract env call s c).db.CompleteFor env chain c ↔ ¬ call.Skips env s.db c := by
  obtain ⟨kept, from_, hout, hstate, hrows⟩ := syncContract_spec env h c
  have hiff : (syncContract env call s c).db.CompleteFor env chain c ↔
      ∀ b, env.startBlock ≤ b → b ≤ call.node.latest.1 → b < from_ →
        ∀ row, chain.Emits c b row → row ∈ kept.rows := by
    unfold IndexerDb.CompleteFor
    simp only [hstate, Function.update_self, Option.some.injEq, forall_eq',
      AuditCache.count_eq_one_iff, hrows]
    constructor
    · intro hall b hstart hb hlt row hemits
      rcases hall b hstart hb row hemits with hmem | ⟨b', hfrom, -, hemits'⟩
      · exact hmem
      · have hsame : b' = b := hemits'.blockNumber.symm.trans hemits.blockNumber
        omega
    · intro hall b hstart hb row hemits
      by_cases hlt : b < from_
      · exact .inl (hall b hstart hb hlt row hemits)
      · exact .inr ⟨b, by omega, hb, hemits⟩
  have hcached : ∀ {b last row}, s.db.lastBlock c = some last → env.startBlock ≤ b → b ≤ last.1 →
      chain.Emits c b row → row ∈ s.db.cache.rows := fun hlast hstart hb hemits =>
    AuditCache.count_eq_one_iff.1 (hcomplete _ hlast _ hstart hb _ hemits)
  rw [hiff]
  cases hout with
  | rebuilt hfrom hoption =>
      refine iff_of_true (fun b hstart _ hlt => by omega) ?_
      rintro ⟨fromBlock, hsome, hlt, hle, -⟩
      rcases hoption fromBlock hsome with h | h <;> omega
  | resumed hnone =>
      refine iff_of_true (fun b hstart _ hlt row hemits => ?_) ?_
      · rw [SyncCall.resumeAt, hnone] at hlt
        cases hlast : s.db.lastBlock c with
        | none =>
            simp only [hlast] at hlt
            omega
        | some last =>
            simp only [hlast] at hlt
            exact hcached hlast hstart (by omega) hemits
      · rintro ⟨fromBlock, hsome, -⟩
        rw [hnone] at hsome
        cases hsome
  | started hsome hlt hle =>
      constructor
      · rintro hall ⟨fromBlock, hsome', -, -, b, row, hemits, hstart, hb, hbehind⟩
        obtain rfl := Option.some.inj (hsome.symm.trans hsome')
        have hmem := hall b hstart (by omega) hb row hemits
        obtain ⟨b', last, hemits', hlast, hb'⟩ := h.emitted row hmem
        rw [hemits.contractName] at hlast
        have hsame : b' = b := hemits'.blockNumber.symm.trans hemits.blockNumber
        have hlt' := hbehind last hlast
        omega
      · intro hskips b hstart hb hbefore row hemits
        -- Were the row missing, its block would lie in the interval that is skipped.
        by_contra hmissing
        refine hskips ⟨_, hsome, hlt, hle, b, row, hemits, hstart, hbefore, fun last hlast => ?_⟩
        by_contra hle'
        exact hmissing (hcached hlast hstart (by omega) hemits)

/-! ## A call -/

theorem IndexerDb.SameFor.trans {db db' db'' : IndexerDb} {c : ContractName}
    (h : db.SameFor db' c) (h' : db'.SameFor db'' c) : db.SameFor db'' c where
  lastBlock := h'.lastBlock.trans h.lastBlock
  rows := fun row hrow => (h'.rows row hrow).trans (h.rows row hrow)

theorem IndexerDb.SameFor.complete_iff {db db' : IndexerDb} {c : ContractName}
    (h : db.SameFor db' c) : db'.CompleteFor env chain c ↔ db.CompleteFor env chain c := by
  unfold IndexerDb.CompleteFor
  rw [h.lastBlock]
  simp only [AuditCache.count_eq_one_iff]
  have hrow : ∀ {b row}, chain.Emits c b row → (row ∈ db'.cache.rows ↔ row ∈ db.cache.rows) :=
    fun hemits => h.rows _ hemits.contractName
  constructor
  · exact fun hall last hlast b hs hb row hemits => (hrow hemits).1 (hall last hlast b hs hb row hemits)
  · exact fun hall last hlast b hs hb row hemits => (hrow hemits).2 (hall last hlast b hs hb row hemits)

theorem IndexerDb.SameFor.skips_iff {db db' : IndexerDb} {c : ContractName} (h : db.SameFor db' c)
    (call : SyncCall chain) : call.Skips env db' c ↔ call.Skips env db c := by
  unfold SyncCall.Skips
  rw [h.lastBlock]

/-- The rounds of a call, one contract after the other. -/
theorem foldl_syncContract {call : SyncCall chain} {cs : List ContractName} (hcs : cs.Nodup)
    {s : SyncState} (h : s.db.Sound chain call.node.latest) :
    (cs.foldl (syncContract env call) s).db.Sound chain call.node.latest ∧
      (∀ c, c ∉ cs → s.db.SameFor (cs.foldl (syncContract env call) s).db c) ∧
      ∀ c ∈ cs, (cs.foldl (syncContract env call) s).db.lastBlock c = some call.node.latest ∧
        (s.db.CompleteFor env chain c →
          ((cs.foldl (syncContract env call) s).db.CompleteFor env chain c ↔
            ¬ call.Skips env s.db c)) := by
  induction cs generalizing s with
  | nil => exact ⟨h, fun c _ => ⟨rfl, fun _ _ => Iff.rfl⟩, by simp⟩
  | cons c cs ih =>
      obtain ⟨hnew, hcs⟩ := List.nodup_cons.1 hcs
      obtain ⟨hsound, hother, hsynced⟩ := ih hcs (syncContract_sound env h c)
      rw [List.foldl_cons]
      refine ⟨hsound, fun c' hc' => ?_, fun c' hc' => ?_⟩
      · have hfirst : s.db.SameFor (syncContract env call s c).db c' :=
          syncContract_other env (List.ne_of_not_mem_cons hc')
        exact hfirst.trans (hother c' (List.not_mem_of_not_mem_cons hc'))
      · rcases List.mem_cons.1 hc' with rfl | hc'
        · -- The round of `c'` itself: the later ones leave its index alone.
          have hlater := hother c' hnew
          obtain ⟨kept, from_, -, hstate, -⟩ := syncContract_spec env h c'
          refine ⟨?_, fun hcomplete => ?_⟩
          · rw [hlater.lastBlock, hstate, Function.update_self]
          · rw [hlater.complete_iff env]
            exact syncContract_complete_iff env h hcomplete
        · have hne : c' ≠ c := fun heq => hnew (heq ▸ hc')
          have hearlier : s.db.SameFor (syncContract env call s c).db c' := syncContract_other env hne
          obtain ⟨hlast, hiff⟩ := hsynced c' hc'
          refine ⟨hlast, fun hcomplete => ?_⟩
          rw [hiff ((hearlier.complete_iff env).2 hcomplete), hearlier.skips_iff env]

theorem ContractName.mem_all (c : ContractName) : c ∈ ContractName.all := by
  cases c <;> decide

theorem syncEvents_sound {call : SyncCall chain} {db : IndexerDb}
    (h : db.Sound chain call.node.latest) :
    (syncEvents env call db).1.Sound chain call.node.latest :=
  (foldl_syncContract env (by decide : ContractName.all.Nodup)
    (s := ⟨db, 0, call.node.latest.1, false, []⟩) h).1

/-- After a call every contract has the height of the chain as its resume point, and the index is
    still complete exactly when the call skipped nothing. -/
theorem syncEvents_complete_iff {call : SyncCall chain} {db : IndexerDb}
    (h : db.Sound chain call.node.latest) (hcomplete : db.Complete env chain) :
    (∀ c, (syncEvents env call db).1.lastBlock c = some call.node.latest) ∧
      ((syncEvents env call db).1.Complete env chain ↔ ∀ c, ¬ call.Skips env db c) := by
  obtain ⟨-, -, hall⟩ := foldl_syncContract env (by decide : ContractName.all.Nodup)
    (s := ⟨db, 0, call.node.latest.1, false, []⟩) h
  refine ⟨fun c => (hall c c.mem_all).1, ?_⟩
  exact forall_congr' fun c => (hall c c.mem_all).2 (hcomplete c)

/-! ## Runs -/

/-- A chain at some height, and the tables of the platform. -/
structure IndexedChain where
  height : SafeInt
  db : IndexerDb

inductive IndexerMove (chain : ChainLogs) where
  | mined (height : SafeInt)
  | sync (call : SyncCall chain)

structure IndexerStep (chain : ChainLogs) where
  before : IndexedChain
  move : IndexerMove chain

def IndexerStep.after (t : IndexerStep chain) : IndexedChain :=
  match t.move with
  | .mined height => { t.before with height }
  | .sync call => { t.before with db := (syncEvents env call t.before.db).1 }

/-- Blocks are only added, and a call sees the chain at its height. -/
def IndexerStep.Allowed (t : IndexerStep chain) : Prop :=
  match t.move with
  | .mined height => t.before.height.1 ≤ height.1
  | .sync call => call.node.latest = t.before.height

/-- No call of the step leaves out an event that no earlier one has copied. -/
def IndexerStep.Careful (t : IndexerStep chain) : Prop :=
  match t.move with
  | .mined _ => True
  | .sync call => ∀ c, ¬ call.Skips env t.before.db c

def indexerSystem (chain : ChainLogs) : TransitionSystem IndexedChain (IndexerStep chain) where
  source := IndexerStep.before
  target := IndexerStep.after env
  Valid := IndexerStep.Allowed

/-- What holds on both sides of a step of a careful run. -/
def IndexedChain.Intact (chain : ChainLogs) (s : IndexedChain) : Prop :=
  s.db.Sound chain s.height ∧ s.db.Complete env chain

theorem IndexerStep.intact {t : IndexerStep chain} (hallowed : t.Allowed) (hcareful : t.Careful env)
    (h : t.before.Intact env chain) : (t.after env).Intact env chain := by
  obtain ⟨before, move⟩ := t
  cases move with
  | mined height => exact ⟨h.1.mono hallowed, h.2⟩
  | sync call =>
      have hlatest : call.node.latest = before.height := hallowed
      have hsound : before.db.Sound chain call.node.latest := hlatest ▸ h.1
      refine ⟨?_, (syncEvents_complete_iff env hsound h.2).2.2 hcareful⟩
      show (syncEvents env call before.db).1.Sound chain before.height
      rw [← hlatest]
      exact syncEvents_sound env hsound

/-- In a run from empty tables in which no call skips an event, the index is complete after every
    step, and whether the next call keeps it complete is a matter of what that call skips. -/
theorem indexer_complete_iff {height : SafeInt} {ts : List (IndexerStep chain)} {s : IndexedChain}
    (h : (indexerSystem env chain).Path ⟨height, .fresh⟩ ts s)
    (hcareful : ∀ t ∈ ts, t.Careful env) :
    (∀ t ∈ ts, (t.after env).db.Complete env chain) ∧
      ∀ call : SyncCall chain, call.node.latest = s.height →
        (∀ c, (syncEvents env call s.db).1.lastBlock c = some call.node.latest) ∧
          ((syncEvents env call s.db).1.Complete env chain ↔ ∀ c, ¬ call.Skips env s.db c) := by
  have hfresh : IndexedChain.Intact env chain ⟨height, .fresh⟩ := by
    refine ⟨IndexerDb.sound_fresh height, fun c last hlast => ?_⟩
    cases hlast
  obtain ⟨hend, hall⟩ := h.invariant (P := IndexedChain.Intact env chain)
    (fun t ht hallowed hbefore => IndexerStep.intact env hallowed (hcareful t ht) hbefore) hfresh
  refine ⟨fun t ht => (hall t ht).2.2, fun call hlatest => ?_⟩
  exact syncEvents_complete_iff env (hlatest ▸ hend.1) hend.2

/-! ## A block nobody asked for -/

/-- The database returns a row of the greatest block number. -/
def NewestRow.argmax : NewestRow where
  pick rows := rows.argmax fun row => row.blockNumber.1
  pick_eq_none := List.argmax_eq_none.1
  mem := List.argmax_mem
  newest hrow := fun _ hmem => List.le_of_mem_argmax (f := fun row => row.blockNumber.1) hmem hrow

namespace Sample

def registeredLog : EventLog where
  eventName := "IdentityRegistered"
  args := [("wallet", .address bob), ("identityHash", .bytes32 5#256), ("registeredBy", .address owner)]
  transactionHash := "0x01"
  index := 0
  blockNumber := ⟨1, one_safe⟩

/-- Bob's identity is registered in block 1, and nothing else ever happens. -/
def quietChain : ChainLogs where
  logs c b := if c = .identityRegistry ∧ b = 1 then [registeredLog] else []
  blockNumber_eq := by
    intro c b log hlog
    split at hlog
    next hwhere =>
        rw [List.mem_singleton.1 hlog, hwhere.2]
        rfl
    · cases hlog
  identity_inj := by
    intro c c' b b' log log' hlog hlog' _ _
    split at hlog <;> split at hlog'
    next hwhere hwhere' =>
        exact ⟨hwhere.1.trans hwhere'.1.symm,
          (List.mem_singleton.1 hlog).trans (List.mem_singleton.1 hlog').symm⟩
    · cases hlog'
    · cases hlog
    · cases hlog

/-- A local node at height 5. -/
def quietNode : Node quietChain where
  latest := ⟨5, five_safe⟩
  hasReceipt _ txHash := txHash == "0x01"
  mined := by
    intro c c' b log hlog _
    change log ∈ (if c = .identityRegistry ∧ b = 1 then [registeredLog] else []) at hlog
    split at hlog
    · rw [List.mem_singleton.1 hlog]
      rfl
    · cases hlog

def localEnv : IndexerEnv := ⟨31337, none⟩

def syncFrom (fromBlock : Option Nat) : SyncCall quietChain := ⟨quietNode, .argmax, fromBlock⟩

theorem path_syncFrom (fromBlock : Option Nat) :
    (indexerSystem localEnv quietChain).Path ⟨⟨5, by decide⟩, .fresh⟩
      [⟨⟨⟨5, by decide⟩, .fresh⟩, .sync (syncFrom fromBlock)⟩]
      ⟨⟨5, by decide⟩, (syncEvents localEnv (syncFrom fromBlock) .fresh).1⟩ := by
  have hvalid : (indexerSystem localEnv quietChain).Valid
      ⟨⟨⟨5, by decide⟩, .fresh⟩, .sync (syncFrom fromBlock)⟩ := rfl
  exact .single hvalid

/-- A first call from block 4 stores a height of 5 and no row. -/
theorem syncFrom_four_skips :
    ¬ ∀ (chain : ChainLogs) (env : IndexerEnv) (height : SafeInt) (ts : List (IndexerStep chain))
        (s : IndexedChain), (indexerSystem env chain).Path ⟨height, .fresh⟩ ts s →
        ∀ t ∈ ts, (t.after env).db.Complete env chain := by
  intro hall
  have hcomplete := hall _ _ _ _ _ (path_syncFrom (some 4)) _ (List.mem_singleton.2 rfl)
  have hlast : (syncEvents localEnv (syncFrom (some 4)) .fresh).1.lastBlock .identityRegistry =
      some ⟨5, by decide⟩ := by decide +kernel
  have hemits : quietChain.Emits .identityRegistry 1 (registeredLog.toRow .identityRegistry) :=
    ⟨registeredLog, List.mem_singleton.2 rfl, by decide +kernel, rfl⟩
  have hcount := hcomplete .identityRegistry _ hlast 1 (by decide) (by decide) _ hemits
  have hempty : (syncEvents localEnv (syncFrom (some 4)) .fresh).1.cache.rows.count
      (registeredLog.toRow .identityRegistry) = 0 := by decide +kernel
  exact Nat.zero_ne_one (hempty.symm.trans hcount)

/-- After a call from the start, one from block 4 skips nothing. -/
theorem syncFrom_four_complete :
    (syncEvents localEnv (syncFrom (some 4))
      (syncEvents localEnv (syncFrom none) .fresh).1).1.Complete localEnv quietChain := by
  have hcareful : ∀ t ∈ [(⟨⟨⟨5, by decide⟩, .fresh⟩, .sync (syncFrom none)⟩ :
      IndexerStep quietChain)], t.Careful localEnv := by
    intro t ht
    rw [List.mem_singleton.1 ht]
    rintro c ⟨fromBlock, hsome, -⟩
    cases hsome
  refine ((indexer_complete_iff localEnv (path_syncFrom none) hcareful).2 (syncFrom (some 4))
    rfl).2.2 ?_
  rintro c ⟨fromBlock, hsome, -, -, b, row, -, -, hb, hbehind⟩
  have hlast : (syncEvents localEnv (syncFrom none) .fresh).1.lastBlock c =
      some ⟨5, by decide⟩ := by
    cases c <;> decide +kernel
  have hlt : 5 < b := hbehind _ hlast
  obtain rfl := Option.some.inj hsome
  omega

end Sample

end OwneX
