import OwneX.Library.GreedyMatching
import OwneX.Platform.AssetRoutes

set_option autoImplicit false

/-! # `scripts/repair-asset-bindings.mjs`

The script that reconciles the table `assets` with the tokens of the configured deployment. It reads
the tokens and the rows, decides from these what is to be written, and writes it row by row: bindings
that the chain contradicts are released, rows that the chain confirms are stamped, and drafts are
bound to the tokens that nobody holds. What it prints is left out, but for the counts at its end. -/

namespace OwneX

open Js JsNumber KeyedList

/-! ## What the chain holds -/

/-- What the script asks the contract. -/
structure TokenReads where
  totalMinted : SafeInt
  orgId : Nat → Nat
  assetHash : Nat → Bytes32

structure ChainToken where
  tokenId : Nat
  orgId : Nat
  assetHash : Bytes32
  txHash : Option String
deriving DecidableEq

/-- `readChainTokens`, with the transactions that `--tx` and `--scan` have found. Tokens without an
    organization were burned or never minted. -/
def readChainTokens (nft : TokenReads) (txHash : Nat → Option String) : List ChainToken :=
  ((List.range' 1 nft.totalMinted.1).filter fun tokenId => toNumber (nft.orgId tokenId) ≠ 0).map
    fun tokenId =>
      { tokenId
        orgId := toNumber (nft.orgId tokenId)
        assetHash := nft.assetHash tokenId
        txHash := txHash tokenId }

/-! ## What is to be written -/

/-- Why a binding is released. -/
inductive Contradiction where
  | notMinted | otherAnchor | otherOrganization
deriving DecidableEq

inductive Finding where
  /-- Stamped for another contract, left alone. -/
  | belongsElsewhere
  | release (why : Contradiction)
  | stamp
  | verified
deriving DecidableEq

/-- What the script decides from. -/
structure Snapshot where
  tokens : List ChainToken
  rows : List StoredAsset
  /-- Whether the rows came with their stamps. -/
  isScoped : Bool

namespace Snapshot

variable [Js.CaseMapping] (D : AssetDeployment) (snapshot : Snapshot)

def belongsElsewhere (row : StoredAsset) : Bool :=
  snapshot.isScoped && row.contractAddress.any (· ≠ D.contractAddress)

/-- What the chain says about a bound row. -/
def finding (row : StoredAsset) (tokenId : Nat) : Finding :=
  if snapshot.belongsElsewhere D row then .belongsElsewhere
  else match lookup ChainToken.tokenId snapshot.tokens (toNumber tokenId) with
    | none => .release .notMinted
    | some token =>
        if !sameHex (hex token.assetHash) row.assetHash then .release .otherAnchor
        else if token.orgId ≠ row.orgId.1 then .release .otherOrganization
        else if snapshot.isScoped && (row.contractAddress.isNone || row.chainId.all (· = 0)) then
          .stamp
        else .verified

def isReleased (row : StoredAsset) : Bool :=
  row.tokenId.any fun tokenId =>
    match snapshot.finding D row tokenId with
    | .release _ => true
    | _ => false

def isStamped (row : StoredAsset) : Bool :=
  row.tokenId.any fun tokenId => snapshot.finding D row tokenId = .stamp

/-- Bound rows that nothing is written to. -/
def isKept (row : StoredAsset) : Bool :=
  row.tokenId.isSome && !snapshot.isReleased D row && !snapshot.isStamped D row

def released : List StoredAsset :=
  snapshot.rows.filter (snapshot.isReleased D)

def stamped : List StoredAsset :=
  snapshot.rows.filter (snapshot.isStamped D)

/-- The tokens that rows of this deployment go on holding. -/
def stillBound : List Nat :=
  (snapshot.rows.filter fun row =>
    row.tokenId.isSome && !snapshot.isReleased D row && !snapshot.belongsElsewhere D row).filterMap
      fun row => row.tokenId.map toNumber

def drafts : List StoredAsset :=
  snapshot.rows.filter fun row => row.tokenId.isNone || snapshot.isReleased D row

/-- Lowest token id first. -/
def claimable : List ChainToken :=
  (snapshot.tokens.filter fun token => !decide (token.tokenId ∈ snapshot.stillBound D)).mergeSort
    fun a b => a.tokenId ≤ b.tokenId

end Snapshot

/-! ## The repair -/

/-- The script at work on the store. It stops at the first error. -/
abbrev RepairM := ExceptT String (StateM AssetStore)

/-- `sb.from("assets").update(patch).eq("id", id)` -/
def updateStatement (id : String) (patch : AssetPatch) : RepairM (Except DbError (List String)) :=
  ExceptT.lift fun store => store.update { id } patch

def updateFailed (id : String) (error : DbError) : String :=
  id ++ ": " ++ error.message.getD "undefined"

/-- `update(id, patch, scoped)`, which writes nothing unless `--apply` is given. -/
def repairUpdate (apply : Bool) (id : String) (patch : AssetPatch) (isScoped : Bool) : RepairM Unit :=
  if apply then do
    match ← updateStatement id patch with
    | .ok _ => return ()
    | .error error =>
        if isScoped && isUnknownColumn error then
          -- Migration 0002 not applied: the binding is written without the stamp.
          let rest := { patch with stamp := none }
          if rest = {} then return ()
          match ← updateStatement id rest with
          | .ok _ => return ()
          | .error error => throw (updateFailed id error)
        else throw (updateFailed id error)
  else return ()

/-- Rows one after the other. -/
def updateEach (apply : Bool) (isScoped : Bool) : List (String × AssetPatch) → RepairM Unit
  | [] => return ()
  | (id, patch) :: changes => do
      repairUpdate apply id patch isScoped
      updateEach apply isScoped changes

def releasePatch : AssetPatch := { binding := some (none, none) }

def stampPatch (D : AssetDeployment) : AssetPatch := { stamp := some D }

def bindPatch (D : AssetDeployment) (token : ChainToken) : AssetPatch :=
  { binding := some (some token.tokenId, token.txHash), stamp := some D }

section Repair

variable [Js.CaseMapping] (D : AssetDeployment)

/-- Whether a draft is what a token anchors. -/
def anchors (token : ChainToken) (draft : StoredAsset) : Bool :=
  decide (draft.orgId.1 = token.orgId) && sameHex draft.assetHash (hex token.assetHash)

/-- Oldest draft first, for one token after the other. -/
def bindDrafts (apply : Bool) (drafts : List StoredAsset) :
    List ChainToken → List String → RepairM (List (ChainToken × StoredAsset))
  | [], _ => return []
  | token :: claimable, takenDrafts =>
      match GreedyMatching.firstFree (fun draft : StoredAsset => draft.id) anchors drafts token
          takenDrafts with
      | none => bindDrafts apply drafts claimable takenDrafts
      | some draft => do
          repairUpdate apply draft.id (bindPatch D token) true
          let bound ← bindDrafts apply drafts claimable (draft.id :: takenDrafts)
          return (token, draft) :: bound

/-- The counts at the end. -/
structure RepairSummary where
  released : Nat
  stamped : Nat
  bound : Nat
  leftAsIs : Nat
  stillDrafts : Nat
deriving DecidableEq

/-- `main` -/
def repairBindings (apply : Bool) (snapshot : Snapshot) : RepairM RepairSummary := do
  let released := snapshot.released D
  let stamped := snapshot.stamped D
  let drafts := snapshot.drafts D
  updateEach apply false (released.map fun row => (row.id, releasePatch))
  updateEach apply true (stamped.map fun row => (row.id, stampPatch D))
  let bound ← bindDrafts D apply drafts (snapshot.claimable D) []
  return {
    released := released.length
    stamped := stamped.length
    bound := bound.length
    leftAsIs := (snapshot.rows.filter (snapshot.isKept D)).length
    stillDrafts := (drafts.filter fun draft => draft.id ∉ bound.map (·.2.id)).length }

/-- `readRows`, which reads the rows in some order, and `readChainTokens`. -/
def readSnapshot (nft : TokenReads) (txHash : Nat → Option String) (rows : List StoredAsset)
    (store : AssetStore) : Snapshot where
  tokens := readChainTokens nft txHash
  rows
  isScoped := store.migrated

end Repair

/-! ## What the script writes -/

/-- What comes of the script at work, and the store it leaves. -/
def outcome {α : Type} (p : RepairM α) (store : AssetStore) : Except String α × AssetStore :=
  p.run.run store

theorem outcome_bind {α β : Type} (p : RepairM α) (f : α → RepairM β) (store : AssetStore) :
    outcome (p >>= f) store =
      match outcome p store with
      | (.ok a, store') => outcome (f a) store'
      | (.error e, store') => (.error e, store') := by
  change outcome (ExceptT.bind p f) store = _
  unfold outcome ExceptT.bind ExceptT.run ExceptT.mk
  rw [StateT.run_bind]
  change (match StateT.run p store with | (a, store') => _) = _
  obtain ⟨result, store'⟩ : Except String α × AssetStore := StateT.run p store
  cases result <;> rfl

theorem outcome_bind_ok {α β : Type} {p : RepairM α} {f : α → RepairM β} {store store' : AssetStore}
    {a : α} (h : outcome p store = (.ok a, store')) :
    outcome (p >>= f) store = outcome (f a) store' := by
  rw [outcome_bind, h]

/-- What has succeeded has succeeded step by step. -/
theorem ok_of_outcome_bind {α β : Type} {p : RepairM α} {f : α → RepairM β}
    {store store' : AssetStore} {b : β} (h : outcome (p >>= f) store = (.ok b, store')) :
    ∃ a store₁, outcome p store = (.ok a, store₁) ∧ outcome (f a) store₁ = (.ok b, store') := by
  rw [outcome_bind] at h
  cases hp : outcome p store with
  | mk result store₁ =>
      rw [hp] at h
      cases result with
      | ok a => exact ⟨a, store₁, rfl, h⟩
      | error e => cases h

@[simp] theorem AssetPatch.onto_id (patch : AssetPatch) (row : StoredAsset) :
    (patch.onto row).id = row.id := rfl

/-- The rows after one row has been updated. -/
def AssetStore.rowsWith (store : AssetStore) (id : String) (patch : AssetPatch) :
    List StoredAsset :=
  modify (fun row => row.id = id) patch.onto store.rows

section Updates

variable {store : AssetStore}

theorem rowsWith_eq (store : AssetStore) (id : String) (patch : AssetPatch) :
    modify (AssetFilter.admits { id }) patch.onto store.rows = store.rowsWith id patch := by
  have hadmits : AssetFilter.admits { id } = fun row => decide (row.id = id) := by
    funext row
    simp [AssetFilter.admits, Bool.beq_eq_decide_eq]
  rw [hadmits]
  rfl

/-- In a migrated table an update fails only where it would break a constraint. -/
theorem outcome_repairUpdate (hmigrated : store.migrated = true) (id : String) (patch : AssetPatch)
    (isScoped : Bool) :
    (StoredAsset.Lawful (store.rowsWith id patch) → ∃ store',
      outcome (repairUpdate true id patch isScoped) store = (.ok (), store') ∧
        store'.rows = store.rowsWith id patch ∧ store'.migrated = true) ∧
    (¬ StoredAsset.Lawful (store.rowsWith id patch) →
      ∃ e, outcome (repairUpdate true id patch isScoped) store = (.error e, store)) := by
  have hlacks : store.lacks patch.stamp = false := by
    simp [AssetStore.lacks, hmigrated]
  have hrun : ∀ result, store.update { id } patch = result →
      outcome (updateStatement id patch) store = (.ok result.1, result.2) := by
    rintro result rfl
    rfl
  constructor
  · intro hlawful
    rw [← rowsWith_eq] at hlawful ⊢
    obtain ⟨hok, hrows, hsame⟩ := AssetStore.update_of_lawful hlacks hlawful
    refine ⟨(store.update { id } patch).2, ?_, hrows, hsame.trans hmigrated⟩
    rw [repairUpdate, if_pos rfl, outcome_bind_ok (hrun _ rfl), hok]
    rfl
  · intro hunlawful
    have herror : store.update { id } patch = (.error AssetStore.duplicateKey, store) := by
      unfold AssetStore.update
      rw [dif_neg (by simp [hlacks])]
      dsimp only
      rw [dif_neg (by rwa [rowsWith_eq])]
    refine ⟨updateFailed id AssetStore.duplicateKey, ?_⟩
    rw [repairUpdate, if_pos rfl, outcome_bind_ok (hrun _ herror)]
    have hknown : isUnknownColumn AssetStore.duplicateKey = false := by decide
    dsimp only
    rw [hknown, Bool.and_false]
    rfl

/-- The rows after many rows have been updated. -/
def changedRow (changes : List (String × AssetPatch)) : StoredAsset → StoredAsset :=
  changed (fun row : StoredAsset => row.id) AssetPatch.onto changes

theorem changedRow_id (changes : List (String × AssetPatch)) (row : StoredAsset) :
    (changedRow changes row).id = row.id :=
  @key_changed _ _ _ (fun row : StoredAsset => row.id) _ AssetPatch.onto AssetPatch.onto_id changes
    row

theorem changedRow_of_mem {changes : List (String × AssetPatch)} (h : (changes.map (·.1)).Nodup)
    {id : String} {patch : AssetPatch} (hmem : (id, patch) ∈ changes) {row : StoredAsset}
    (hid : row.id = id) : changedRow changes row = patch.onto row :=
  changed_of_mem h hmem hid

theorem changedRow_of_notMem {changes : List (String × AssetPatch)} {row : StoredAsset}
    (h : row.id ∉ changes.map (·.1)) : changedRow changes row = row :=
  @changed_of_notMem _ _ _ (fun row : StoredAsset => row.id) _ AssetPatch.onto changes row h

theorem map_changedRow_rowsWith {id : String} {patch : AssetPatch}
    {changes : List (String × AssetPatch)} (hnew : id ∉ changes.map (·.1)) :
    (store.rowsWith id patch).map (changedRow changes) =
      store.rows.map (changedRow ((id, patch) :: changes)) :=
  map_changed_modify (fun patch row => patch.onto_id row) hnew store.rows

/-- No two rows come to hold one token under one stamp, whichever of them have been changed. -/
def Compatible (change : StoredAsset → StoredAsset) (rows : List StoredAsset) : Prop :=
  ∀ row ∈ rows, ∀ row' ∈ rows, ∀ key,
    row.tokenKey = some key ∨ (change row).tokenKey = some key →
    row'.tokenKey = some key ∨ (change row').tokenKey = some key → row = row'

theorem lawful_rowsWith {id : String} {patch : AssetPatch} {changes : List (String × AssetPatch)}
    (h : Compatible (changedRow ((id, patch) :: changes)) store.rows) :
    StoredAsset.Lawful (store.rowsWith id patch) := by
  have hrow : ∀ row key, (if row.id = id then patch.onto row else row).tokenKey = some key →
      row.tokenKey = some key ∨
        (changedRow ((id, patch) :: changes) row).tokenKey = some key := by
    intro row key hkey
    split at hkey
    next hid =>
        right
        have hchanged : changedRow ((id, patch) :: changes) row = patch.onto row := by
          simp [changedRow, changed, lookup, hid]
        rwa [hchanged]
    · exact .inl hkey
  refine StoredAsset.lawful_iff.2 ⟨?_, ?_⟩
  · exact nodup_modify (fun row => patch.onto_id row) store.lawful.primaryKey
  · intro row hmem row' hmem' key hkey hkey'
    obtain ⟨row, hrows, rfl⟩ := mem_modify.1 hmem
    obtain ⟨row', hrows', rfl⟩ := mem_modify.1 hmem'
    simp only [decide_eq_true_eq] at hkey hkey' ⊢
    rw [h row hrows row' hrows' key (hrow row key hkey) (hrow row' key hkey')]

/-- What remains to be changed is compatible with what has been changed. -/
theorem compatible_rowsWith {id : String} {patch : AssetPatch}
    {changes : List (String × AssetPatch)} (hnew : id ∉ changes.map (·.1))
    (h : Compatible (changedRow ((id, patch) :: changes)) store.rows) :
    Compatible (changedRow changes) (store.rowsWith id patch) := by
  have hrow : ∀ row key,
      (if row.id = id then patch.onto row else row).tokenKey = some key ∨
        (changedRow changes (if row.id = id then patch.onto row else row)).tokenKey = some key →
      row.tokenKey = some key ∨
        (changedRow ((id, patch) :: changes) row).tokenKey = some key := by
    intro row key hkey
    by_cases hid : row.id = id
    · have hdone : changedRow changes (patch.onto row) = patch.onto row :=
        changedRow_of_notMem (by rwa [AssetPatch.onto_id, hid])
      have hchanged : changedRow ((id, patch) :: changes) row = patch.onto row := by
        simp [changedRow, changed, lookup, hid]
      rw [if_pos hid, hdone, or_self] at hkey
      rw [hchanged]
      exact .inr hkey
    · have hother : id ≠ row.id := fun heq => hid heq.symm
      have hsame : changedRow ((id, patch) :: changes) row = changedRow changes row := by
        simp [changedRow, changed, lookup, hother]
      rwa [if_neg hid, ← hsame] at hkey
  intro row hmem row' hmem' key hkey hkey'
  obtain ⟨row, hrows, rfl⟩ := mem_modify.1 hmem
  obtain ⟨row', hrows', rfl⟩ := mem_modify.1 hmem'
  simp only [decide_eq_true_eq] at hkey hkey' ⊢
  rw [h row hrows row' hrows' key (hrow row key hkey) (hrow row' key hkey')]

/-- Compatible updates succeed, in whatever order. -/
theorem outcome_updateEach {changes : List (String × AssetPatch)} (isScoped : Bool)
    (hmigrated : store.migrated = true) (hids : (changes.map (·.1)).Nodup)
    (h : Compatible (changedRow changes) store.rows) :
    ∃ store', outcome (updateEach true isScoped changes) store = (.ok (), store') ∧
      store'.rows = store.rows.map (changedRow changes) ∧ store'.migrated = true := by
  induction changes generalizing store with
  | nil => exact ⟨store, rfl, (List.map_id _).symm, hmigrated⟩
  | cons change changes ih =>
      obtain ⟨id, patch⟩ := change
      obtain ⟨hnew, hids⟩ := List.nodup_cons.1 hids
      obtain ⟨store₁, hupdate, hrows, hmigrated₁⟩ :=
        (outcome_repairUpdate hmigrated id patch isScoped).1 (lawful_rowsWith h)
      have hrest := compatible_rowsWith hnew h
      rw [← hrows] at hrest
      obtain ⟨store', hrun, hrows', hmigrated'⟩ := ih hmigrated₁ hids hrest
      refine ⟨store', ?_, ?_, hmigrated'⟩
      · rw [updateEach, outcome_bind_ok hupdate, hrun]
      · rw [hrows', hrows, map_changedRow_rowsWith hnew]

/-- Updates that have succeeded have changed every row they name. -/
theorem rows_of_updateEach {changes : List (String × AssetPatch)} {isScoped : Bool}
    {store' : AssetStore} (hmigrated : store.migrated = true) (hids : (changes.map (·.1)).Nodup)
    (h : outcome (updateEach true isScoped changes) store = (.ok (), store')) :
    store'.rows = store.rows.map (changedRow changes) := by
  induction changes generalizing store with
  | nil =>
      have hsame : store = store' := congrArg Prod.snd h
      rw [← hsame]
      exact (List.map_id _).symm
  | cons change changes ih =>
      obtain ⟨id, patch⟩ := change
      obtain ⟨hnew, hids⟩ := List.nodup_cons.1 hids
      obtain ⟨done, store₁, hupdate, hrest⟩ := ok_of_outcome_bind h
      obtain ⟨hok, herror⟩ := outcome_repairUpdate hmigrated id patch isScoped
      by_cases hlawful : StoredAsset.Lawful (store.rowsWith id patch)
      · obtain ⟨store₂, hrun, hrows, hmigrated₂⟩ := hok hlawful
        obtain rfl : store₁ = store₂ := congrArg Prod.snd (hupdate.symm.trans hrun)
        rw [ih hmigrated₂ hids hrest, hrows, map_changedRow_rowsWith hnew]
      · obtain ⟨e, hrun⟩ := herror hlawful
        cases hupdate.symm.trans hrun

end Updates

/-- The tokens are matched with the drafts first, and the drafts bound then: no update changes what
    is left to be matched. -/
theorem bindDrafts_eq [Js.CaseMapping] (D : AssetDeployment) (apply : Bool)
    (drafts : List StoredAsset) (claimable : List ChainToken) (takenDrafts : List String) :
    let bound := GreedyMatching.matching (fun draft : StoredAsset => draft.id) anchors drafts
      claimable takenDrafts
    bindDrafts D apply drafts claimable takenDrafts = (do
      updateEach apply true (bound.map fun pair => (pair.2.id, bindPatch D pair.1))
      return bound) := by
  induction claimable generalizing takenDrafts with
  | nil => rfl
  | cons token claimable ih =>
      dsimp only
      rw [bindDrafts, GreedyMatching.matching]
      split
      next hnone =>
          simp only [hnone]
          exact ih takenDrafts
      next draft hfound =>
          rw [ih]
          simp only [hfound, List.map_cons, updateEach, bind_assoc, pure_bind]

/-! ## Without `--apply` -/

theorem outcome_updateEach_dry (isScoped : Bool) (changes : List (String × AssetPatch))
    (store : AssetStore) : outcome (updateEach false isScoped changes) store = (.ok (), store) := by
  induction changes with
  | nil => rfl
  | cons change changes ih =>
      rw [updateEach]
      exact (outcome_bind_ok rfl).trans ih

/-- Nothing is written. -/
theorem repairBindings_dry [Js.CaseMapping] (D : AssetDeployment) (snapshot : Snapshot)
    (store : AssetStore) :
    ∃ summary, outcome (repairBindings D false snapshot) store = (.ok summary, store) := by
  have hbinds := bindDrafts_eq D false (snapshot.drafts D) (snapshot.claimable D) []
  dsimp only at hbinds
  unfold repairBindings
  dsimp only
  rw [hbinds, bind_assoc, outcome_bind_ok (outcome_updateEach_dry ..),
    outcome_bind_ok (outcome_updateEach_dry ..), outcome_bind_ok (outcome_updateEach_dry ..)]
  exact ⟨_, rfl⟩

end OwneX
