import OwneX.Library.TwoRuns
import OwneX.Platform.AuditIndex
import OwneX.Platform.IndexerProgram

set_option autoImplicit false

/-! # Rows that `audit_cache` refuses

The texts of an event are written by whoever sent the transaction, and `jsonb` does not take every
text. An upsert with a row that the table refuses fails as a whole, and the call throws before it has
stored how far it got: the next one stops at the same chunk. A call that does not throw is
`OwneX.syncEvents` (`SyncCall.run_eq_of_ok`), and a run of such calls is a run of `indexerSystem`. -/

namespace OwneX

open Prog JsNumber

/-- `jsonb` has no U+0000. -/
def PayloadValue.fits : PayloadValue → Bool
  | .text (.string s) => !s.toList.contains '\x00'
  | _ => true

/-- Whether the types of the columns (`bigint`, `integer`, `jsonb`) hold the row. -/
def AuditRow.fits (row : AuditRow) : Bool :=
  row.orgId.all (fun orgId => decide (orgId < 2 ^ 63))
    && row.tokenId.all (fun tokenId => decide (tokenId < 2 ^ 63))
    && decide (row.logIndex < 2 ^ 31)
    && row.payload.all fun (_, value) => value.fits

variable {chain : ChainLogs} (env : IndexerEnv)

namespace SyncCall

variable (call : SyncCall chain) (refusal : String)

/-- What a call is answered when nothing goes wrong but what the table refuses. -/
def answerOrRefuse (db : IndexerDb) : (op : IndexerOp) → op.Res × IndexerDb
  | .upsertCache rows =>
      if rows.all AuditRow.fits then call.answer db (.upsertCache rows) else (.error refusal, db)
  | op => call.answer db op

/-- A call that has the tables for itself. -/
def run (db : IndexerDb) : Except String SyncResult × IndexerDb :=
  alone (call.answerOrRefuse refusal) (IndexerProgram.syncEvents env call.fromBlock).run db

end SyncCall

namespace IndexerProgram

variable (call : SyncCall chain) (refusal : String)

/-- The table answers as it would without its refusals, or the program gives up. -/
abbrev GivesUp {α : Type} (p : Call α) : Prop :=
  FailsOrAgrees call.answer (call.answerOrRefuse refusal) p

variable {call refusal}

theorem purgeIf_givesUp (b : Bool) (c : ContractName) : GivesUp call refusal (purgeIf b c) := by
  unfold purgeIf purgeContractCache
  cases b with
  | true =>
      refine failsOrAgrees_bind (failsOrAgrees_ask fun _ => rfl) fun _ => ?_
      exact failsOrAgrees_bind (failsOrAgrees_ask fun _ => rfl) fun _ => failsOrAgrees_pure ()
  | false => exact failsOrAgrees_pure ()

theorem isStale_givesUp (fromBlock : Option Nat) (c : ContractName) :
    GivesUp call refusal (isStale env fromBlock c) := by
  unfold isStale detectChainReset
  split
  · exact failsOrAgrees_pure true
  · refine failsOrAgrees_bind (failsOrAgrees_ask fun _ => rfl) fun newest => ?_
    cases data newest with
    | none => exact failsOrAgrees_pure false
    | some txHash =>
        by_cases hempty : txHash = ""
        · rw [hasVanished, if_pos hempty]
          exact failsOrAgrees_pure false
        · rw [hasVanished, if_neg hempty]
          exact failsOrAgrees_bind (failsOrAgrees_attempt fun _ => .inr rfl) fun receipt =>
            failsOrAgrees_pure (!receipt)

/-- The only statement that can be refused, and the only one whose error is looked at. -/
theorem storeRows_givesUp (c : ContractName) (rows : List AuditRow) :
    GivesUp call refusal (storeRows c rows) := by
  unfold storeRows
  split
  · refine failsOrAgrees_attempt fun db => ?_
    have hanswer : alone (call.answerOrRefuse refusal) (Prog.call (.upsertCache rows)) db =
        if rows.all AuditRow.fits then call.answer db (.upsertCache rows)
          else (.error refusal, db) := rfl
    rw [hanswer]
    split
    · exact .inr rfl
    · exact .inl ⟨refusal, db, rfl⟩
  · exact failsOrAgrees_pure ()

theorem copyChunks_givesUp (c : ContractName) (queryChunk latest fuel start indexedHere : Nat) :
    GivesUp call refusal (copyChunks c queryChunk latest fuel start indexedHere) := by
  induction fuel generalizing start indexedHere with
  | zero => exact failsOrAgrees_pure indexedHere
  | succ fuel ih =>
      unfold copyChunks
      split
      · refine failsOrAgrees_bind (failsOrAgrees_attempt fun _ => .inr rfl) fun logs => ?_
        exact failsOrAgrees_bind (storeRows_givesUp c (rowsOf c logs)) fun _ => ih _ _
      · exact failsOrAgrees_pure indexedHere

theorem syncContract_givesUp (fromBlock : Option Nat) (latest : SafeInt) (s : SyncTally)
    (c : ContractName) : GivesUp call refusal (syncContract env fromBlock latest s c) := by
  unfold syncContract
  refine failsOrAgrees_bind (isStale_givesUp env fromBlock c) fun stale => ?_
  refine failsOrAgrees_bind (purgeIf_givesUp stale c) fun _ => ?_
  refine failsOrAgrees_bind (failsOrAgrees_ask fun _ => rfl) fun state => ?_
  refine failsOrAgrees_bind (purgeIf_givesUp _ c) fun _ => ?_
  refine failsOrAgrees_bind (copyChunks_givesUp c _ _ _ _ _) fun indexedHere => ?_
  exact failsOrAgrees_bind (failsOrAgrees_ask fun _ => rfl) fun _ => failsOrAgrees_pure _

theorem syncEvents_givesUp (fromBlock : Option Nat) :
    GivesUp call refusal (syncEvents env fromBlock) := by
  have hrounds : ∀ (latest : SafeInt) (cs : List ContractName) (s : SyncTally),
      GivesUp call refusal (syncContracts env fromBlock latest cs s) := by
    intro latest cs
    induction cs with
    | nil => exact fun s => failsOrAgrees_pure s
    | cons c cs ih =>
        exact fun s => failsOrAgrees_bind (syncContract_givesUp env fromBlock latest s c) ih
  unfold syncEvents
  refine failsOrAgrees_bind (failsOrAgrees_attempt fun _ => .inr rfl) fun latest => ?_
  exact failsOrAgrees_bind (hrounds latest ContractName.all _) fun s => failsOrAgrees_pure _

end IndexerProgram

/-- A call that is refused nothing is `syncEvents`. -/
theorem SyncCall.run_eq_of_ok {call : SyncCall chain} {refusal : String} {db : IndexerDb}
    {result : SyncResult} (h : (call.run env refusal db).1 = .ok result) :
    result = (syncEvents env call db).2 ∧
      (call.run env refusal db).2 = (syncEvents env call db).1 := by
  have halone := IndexerProgram.syncEvents_alone env call db
  have hgivesUp : IndexerProgram.GivesUp call refusal
      (IndexerProgram.syncEvents env call.fromBlock) :=
    IndexerProgram.syncEvents_givesUp env call.fromBlock
  rcases hgivesUp db with ⟨e, db', herror⟩ | hsame
  · rw [SyncCall.run, herror] at h
    cases h
  · have hrun : call.run env refusal db = _ := hsame.trans halone
    rw [hrun] at h ⊢
    exact ⟨(Except.ok.inj h).symm, rfl⟩

/-! ## Runs -/

/-- As `indexerSystem`, of calls that may be refused a row. -/
def refusingSystem (refusal : String) (chain : ChainLogs) :
    TransitionSystem IndexedChain (IndexerStep chain) where
  source := IndexerStep.before
  target t :=
    match t.move with
    | .mined height => { t.before with height }
    | .sync call => { t.before with db := (call.run env refusal t.before.db).2 }
  Valid := IndexerStep.Allowed

/-- If the step is a call, it does not throw. -/
def IndexerStep.Succeeds (refusal : String) (t : IndexerStep chain) : Prop :=
  match t.move with
  | .mined _ => True
  | .sync call => ∃ result, (call.run env refusal t.before.db).1 = .ok result

theorem IndexerStep.Succeeds.target_eq {refusal : String} {t : IndexerStep chain}
    (h : t.Succeeds env refusal) : (refusingSystem env refusal chain).target t = t.after env := by
  obtain ⟨before, move⟩ := t
  cases move with
  | mined height => rfl
  | sync call =>
      obtain ⟨result, hresult⟩ := h
      have hdb := (SyncCall.run_eq_of_ok env hresult).2
      show ({ before with db := (call.run env refusal before.db).2 } : IndexedChain) = _
      rw [hdb]
      rfl

/-- By induction on the run. -/
theorem path_of_succeeds {refusal : String} {s s' : IndexedChain} {ts : List (IndexerStep chain)}
    (h : (refusingSystem env refusal chain).Path s ts s')
    (hsucceeds : ∀ t ∈ ts, t.Succeeds env refusal) : (indexerSystem env chain).Path s ts s' := by
  induction h with
  | nil s => exact .nil s
  | @cons t ts s' hallowed _ ih =>
      have htail := ih fun u hu => hsucceeds u (List.mem_cons_of_mem _ hu)
      rw [(hsucceeds t (List.mem_cons_self ..)).target_eq] at htail
      have hvalid : (indexerSystem env chain).Valid t := hallowed
      exact .cons hvalid htail

end OwneX
