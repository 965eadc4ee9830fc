import OwneX.Platform.FailedConfirm
import OwneX.Platform.RepairPlan

set_option autoImplicit false

/-! # What the repair script achieves

The script plans from one reading of the table. Where no token is held both by an unstamped row and by
a row of this deployment, each with the token's anchor and organization, what it plans can be written
in any order without breaking the unique index: a token that it stamps or binds is held by one row.
Otherwise the unstamped row cannot be stamped, and the script stops there, halfway. -/

namespace OwneX

open Js JsNumber KeyedList

section Reconciliation

variable [Js.CaseMapping] (D : AssetDeployment) (nft : TokenReads)

/-! ## What it is for the table to be reconciled -/

/-- Both columns of the stamp are set, and the contract is this one. -/
def StoredAsset.Stamped (row : StoredAsset) : Prop :=
  row.contractAddress = some D.contractAddress ∧
    ∃ chainId, row.chainId = some chainId ∧ (chainId = 0 → D.chainId = 0)

/-- The rows `after` are those `before`, reconciled with the chain. -/
structure Reconciled (before after : List StoredAsset) : Prop where
  /-- Bound rows of this deployment agree with their token and are stamped. -/
  agree : ∀ row ∈ after, row.tokenId ≠ none → ¬ row.Elsewhere D →
    nft.Agrees row ∧ row.Stamped D
  heldOnce : ∀ row ∈ after, ∀ row' ∈ after, ¬ row.Elsewhere D → ¬ row'.Elsewhere D →
    ∀ tokenId, row.tokenId = some tokenId → row'.tokenId = some tokenId → row = row'
  /-- Where a token carries a row that is still unbound, another row holds it. -/
  noneLeft : ∀ row ∈ after, row.tokenId = none → ∀ tokenId, nft.Carries tokenId row →
    ∃ holder ∈ after, ¬ holder.Elsewhere D ∧ holder.tokenId = some tokenId
  /-- No row that agreed with the chain was released. -/
  kept : ∀ row ∈ before, nft.Agrees row →
    ∃ row' ∈ after, row'.id = row.id ∧ row'.tokenId = row.tokenId
  untouched : ∀ row ∈ before, row.Elsewhere D → row.tokenId ≠ none → row ∈ after

/-- With `--apply`, the script completes, leaves the table reconciled, and run again changes nothing.
    The rows are read in some order, and the transactions that are found may differ. -/
def RepairReconciles (txHash : Nat → Option String) (rows : List StoredAsset) (store : AssetStore) :
    Prop :=
  ∃ summary store',
    outcome (repairBindings D true (readSnapshot nft txHash rows store)) store =
      (.ok summary, store') ∧
    Reconciled D nft store.rows store'.rows ∧
    ∀ txHash' rows', rows'.Perm store'.rows → ∃ summary',
      outcome (repairBindings D true (readSnapshot nft txHash' rows' store')) store' =
        (.ok summary', store')

variable {D nft} {txHash : Nat → Option String} {rows : List StoredAsset} {store : AssetStore}

/-! ## The run -/

theorem releases_complete (hmigrated : store.migrated = true) (hrows : rows.Perm store.rows) :
    ∃ store', outcome (updateEach true false
        ((readSnapshot nft txHash rows store).releaseChanges D)) store = (.ok (), store') ∧
      store'.rows = store.rows.map ((readSnapshot nft txHash rows store).afterReleases D) ∧
      store'.migrated = true := by
  have hids : (rows.map (·.id)).Nodup := (hrows.map _).nodup_iff.2 store.lawful.primaryKey
  refine outcome_updateEach false hmigrated ?_ ?_
  · unfold Snapshot.releaseChanges
    rw [List.map_map]
    exact hids.sublist (List.filter_sublist.map _)
  · have hkey : ∀ row ∈ store.rows, ∀ key,
        row.tokenKey = some key ∨
          ((readSnapshot nft txHash rows store).afterReleases D row).tokenKey = some key →
        row.tokenKey = some key := by
      intro row hrow key h
      rcases h with hkey | hkey
      · exact hkey
      · rw [afterReleases_eq hids (hrows.mem_iff.2 hrow)] at hkey
        split at hkey
        · cases hkey
        · exact hkey
    intro row hrow row' hrow' key h h'
    exact (StoredAsset.lawful_iff.1 store.lawful).2 row hrow row' hrow' key (hkey row hrow key h)
      (hkey row' hrow' key h')

def Snapshot.summary (D : AssetDeployment) (snapshot : Snapshot) : RepairSummary where
  released := (snapshot.released D).length
  stamped := (snapshot.stamped D).length
  bound := (snapshot.pairs D).length
  leftAsIs := (snapshot.rows.filter (snapshot.isKept D)).length
  stillDrafts := ((snapshot.drafts D).filter fun draft =>
    draft.id ∉ (snapshot.pairs D).map (·.2.id)).length

/-- Once the releases are done, the rest of the plan is carried out. -/
theorem outcome_repairBindings {store₁ : AssetStore} {snapshot : Snapshot}
    (hreleases : outcome (updateEach true false (snapshot.releaseChanges D)) store =
      (.ok (), store₁)) :
    outcome (repairBindings D true snapshot) store = outcome (do
      updateEach true true (snapshot.stampChanges D)
      updateEach true true (snapshot.bindChanges D)
      return snapshot.summary D) store₁ := by
  have hbinds := bindDrafts_eq D true (snapshot.drafts D) (snapshot.claimable D) []
  dsimp only at hbinds
  unfold repairBindings
  dsimp only
  rw [hbinds]
  refine (outcome_bind_ok hreleases).trans ?_
  simp only [bind_assoc, pure_bind]
  rfl

/-- Where no rows collide the script completes, and every row has become what it was to become. -/
theorem repair_completes (hmigrated : store.migrated = true) (hrows : rows.Perm store.rows)
    (hfree : ¬ Collide D nft store.rows) :
    ∃ summary store',
      outcome (repairBindings D true (readSnapshot nft txHash rows store)) store =
        (.ok summary, store') ∧
      store'.rows = store.rows.map ((readSnapshot nft txHash rows store).settled D) ∧
      store'.migrated = true := by
  have hids : (rows.map (·.id)).Nodup := (hrows.map _).nodup_iff.2 store.lawful.primaryKey
  obtain ⟨store₁, hreleases, hrows₁, hmigrated₁⟩ :=
    @releases_complete _ D nft txHash rows store hmigrated hrows
  have hcompatible₁ : Compatible (changedRow ((readSnapshot nft txHash rows store).stampChanges D))
      store₁.rows := by
    rw [hrows₁]
    exact compatible_of_indexedBy hmigrated hrows hfree
      (fun row hrow key => afterReleases_indexedBy hmigrated hids hrow)
      (fun row hrow key => afterStamps_indexedBy hmigrated hids hrow)
  have hids₁ : (((readSnapshot nft txHash rows store).stampChanges D).map (·.1)).Nodup := by
    unfold Snapshot.stampChanges
    rw [List.map_map]
    exact hids.sublist (List.filter_sublist.map _)
  obtain ⟨store₂, hstamps, hrows₂, hmigrated₂⟩ :=
    outcome_updateEach true hmigrated₁ hids₁ hcompatible₁
  rw [hrows₁, List.map_map] at hrows₂
  have hcompatible₂ : Compatible (changedRow ((readSnapshot nft txHash rows store).bindChanges D))
      store₂.rows := by
    rw [hrows₂]
    exact compatible_of_indexedBy hmigrated hrows hfree
      (fun row hrow key => afterStamps_indexedBy hmigrated hids hrow)
      (fun row hrow key => settled_indexedBy hmigrated hids hrow)
  have hids₂ : (((readSnapshot nft txHash rows store).bindChanges D).map (·.1)).Nodup := by
    unfold Snapshot.bindChanges
    rw [List.map_map]
    exact nodup_pairs _
  obtain ⟨store₃, hbinds, hrows₃, hmigrated₃⟩ :=
    outcome_updateEach true hmigrated₂ hids₂ hcompatible₂
  rw [hrows₂, List.map_map] at hrows₃
  refine ⟨(readSnapshot nft txHash rows store).summary D, store₃, ?_, hrows₃, hmigrated₃⟩
  rw [outcome_repairBindings hreleases, outcome_bind_ok hstamps, outcome_bind_ok hbinds]
  rfl

/-- Where rows collide the script does not complete. -/
theorem repair_stops (hmigrated : store.migrated = true) (hrows : rows.Perm store.rows)
    (hcollide : Collide D nft store.rows) {summary : RepairSummary} {store' : AssetStore} :
    outcome (repairBindings D true (readSnapshot nft txHash rows store)) store ≠
      (.ok summary, store') := by
  intro hcompletes
  have hids : (rows.map (·.id)).Nodup := (hrows.map _).nodup_iff.2 store.lawful.primaryKey
  obtain ⟨store₁, hreleases, hrows₁, hmigrated₁⟩ :=
    @releases_complete _ D nft txHash rows store hmigrated hrows
  rw [outcome_repairBindings hreleases] at hcompletes
  obtain ⟨done, store₂, hstamps, -⟩ := ok_of_outcome_bind hcompletes
  have hids₁ : (((readSnapshot nft txHash rows store).stampChanges D).map (·.1)).Nodup := by
    unfold Snapshot.stampChanges
    rw [List.map_map]
    exact hids.sublist (List.filter_sublist.map _)
  have hrows₂ := rows_of_updateEach hmigrated₁ hids₁ hstamps
  rw [hrows₁, List.map_map] at hrows₂
  -- Both rows are indexed by this stamp and the token now.
  have hkey : ∀ row ∈ store.rows, ∀ tokenId, row.Holds D nft tokenId →
      (row.contractAddress = none ∨ row.contractAddress = some D.contractAddress) →
      ((readSnapshot nft txHash rows store).afterStamps D row).tokenKey =
        some (some D.contractAddress, tokenId) := by
    intro row hrow tokenId hholds hstamp
    have hmem := hrows.mem_iff.2 hrow
    rw [afterStamps_eq hmigrated hids hmem, afterReleases_eq hids hmem,
      not_released_of_holds hmigrated hholds]
    split
    · simp [StoredAsset.tokenKey, AssetPatch.onto, stampPatch, hholds.1]
    next hstamped =>
        have hours : row.contractAddress = some D.contractAddress := by
          refine hstamp.resolve_left fun hnone => hstamped ?_
          exact (isStamped_iff hmigrated row).2 ⟨tokenId, hholds, .inl hnone⟩
        simp [StoredAsset.tokenKey, hholds.1, hours]
  obtain ⟨row, hrow, row', hrow', tokenId, hnone, hours, htoken, htoken', hcarries, hcarries'⟩ :=
    hcollide
  have hholds : row.Holds D nft tokenId := by
    refine ⟨htoken, ?_, hcarries⟩
    rintro ⟨contractAddress, hcontract, -⟩
    cases hnone.symm.trans hcontract
  have hholds' : row'.Holds D nft tokenId := by
    refine ⟨htoken', ?_, hcarries'⟩
    rintro ⟨contractAddress, hcontract, hother⟩
    exact hother (Option.some.inj (hcontract.symm.trans hours))
  have hmem : ∀ row ∈ store.rows,
      (readSnapshot nft txHash rows store).afterStamps D row ∈ store₂.rows := by
    intro row hrow
    rw [hrows₂]
    exact List.mem_map.2 ⟨row, hrow, rfl⟩
  have hsame := (StoredAsset.lawful_iff.1 store₂.lawful).2 _ (hmem row hrow) _ (hmem row' hrow') _
    (hkey row hrow tokenId hholds (.inl hnone)) (hkey row' hrow' tokenId hholds' (.inr hours))
  have hid := congrArg (fun row : StoredAsset => row.id) hsame
  unfold Snapshot.afterStamps Snapshot.afterReleases at hid
  simp only [changedRow_id] at hid
  rw [store.eq_of_id hrow hrow' hid] at hnone
  cases hnone.symm.trans hours

/-! ## The table afterwards -/

theorem agree_of_settles (hmigrated : store.migrated = true) {row row' : StoredAsset}
    (h : (readSnapshot nft txHash rows store).Settles D row row') (hbound : row'.tokenId ≠ none)
    (helsewhere : ¬ row'.Elsewhere D) : nft.Agrees row' ∧ row'.Stamped D := by
  cases h with
  | bound token hpair =>
      obtain ⟨-, -, -, hcarries⟩ := of_mem_pairs hmigrated hpair
      exact ⟨⟨token.tokenId, rfl, hcarries⟩, rfl, D.chainId, rfl, id⟩
  | released => exact absurd rfl hbound
  | stamped hstamped =>
      obtain ⟨tokenId, ⟨htoken, -, hcarries⟩, -⟩ := (isStamped_iff hmigrated row).1 hstamped
      exact ⟨⟨tokenId, htoken, hcarries⟩, rfl, D.chainId, rfl, id⟩
  | left hreleased hstamped =>
      obtain ⟨tokenId, htoken⟩ := Option.ne_none_iff_exists'.1 hbound
      have hholds := holds_of_not_released hmigrated hreleased htoken helsewhere
      rw [← Bool.not_eq_true, isStamped_iff hmigrated] at hstamped
      have hset := fun hmissing => hstamped ⟨tokenId, hholds, hmissing⟩
      obtain ⟨contractAddress, hcontract⟩ :=
        Option.ne_none_iff_exists'.1 fun hnone => hset (.inl hnone)
      have hours : contractAddress = D.contractAddress := by
        by_contra hother
        exact helsewhere ⟨contractAddress, hcontract, hother⟩
      obtain ⟨chainId, hchain, hnonzero⟩ : ∃ chainId, row.chainId = some chainId ∧ chainId ≠ 0 := by
        by_contra hzero
        exact hset (.inr fun chainId hchain => by_contra fun hne => hzero ⟨chainId, hchain, hne⟩)
      refine ⟨⟨tokenId, htoken, hholds.2.2⟩, ?_, chainId, hchain, fun hzero => absurd hzero hnonzero⟩
      rw [hcontract, hours]

theorem takes_of_settles (hmigrated : store.migrated = true) {row row' : StoredAsset}
    (h : (readSnapshot nft txHash rows store).Settles D row row') {tokenId : Nat}
    (htoken : row'.tokenId = some tokenId) (helsewhere : ¬ row'.Elsewhere D) :
    (readSnapshot nft txHash rows store).Takes D nft row tokenId := by
  cases h with
  | bound token hpair => exact .inr ⟨token, hpair, Option.some.inj htoken⟩
  | released => cases htoken
  | stamped hstamped =>
      obtain ⟨tokenId', hholds, -⟩ := (isStamped_iff hmigrated row).1 hstamped
      obtain rfl : tokenId' = tokenId := Option.some.inj (hholds.1.symm.trans htoken)
      exact .inl hholds
  | left hreleased => exact .inl (holds_of_not_released hmigrated hreleased htoken helsewhere)

/-- A row that holds a token goes on holding it. -/
theorem holds_of_settles (hmigrated : store.migrated = true) {row row' : StoredAsset}
    (h : (readSnapshot nft txHash rows store).Settles D row row') {tokenId : Nat}
    (hholds : row.Holds D nft tokenId) :
    ¬ row'.Elsewhere D ∧ row'.tokenId = some tokenId := by
  have hkept : (readSnapshot nft txHash rows store).isReleased D row = false :=
    not_released_of_holds hmigrated hholds
  cases h with
  | bound token hpair =>
      obtain ⟨-, -, hfree, -⟩ := of_mem_pairs hmigrated hpair
      rcases hfree with hnone | hreleased
      · cases hnone.symm.trans hholds.1
      · cases hkept.symm.trans hreleased
  | released hreleased => cases hkept.symm.trans hreleased
  | stamped =>
      refine ⟨?_, hholds.1⟩
      rintro ⟨contractAddress, hcontract, hother⟩
      exact hother (Option.some.inj hcontract).symm
  | left => exact ⟨hholds.2.1, hholds.1⟩

/-- A bound row of another contract is not touched. -/
theorem eq_of_settles (hmigrated : store.migrated = true) {row row' : StoredAsset}
    (h : (readSnapshot nft txHash rows store).Settles D row row') (helsewhere : row.Elsewhere D)
    (hbound : row.tokenId ≠ none) : row' = row := by
  have hkept : ¬ (readSnapshot nft txHash rows store).isReleased D row = true := by
    rw [isReleased_iff hmigrated]
    rintro ⟨tokenId, -, hours, -⟩
    exact hours helsewhere
  cases h with
  | bound token hpair =>
      obtain ⟨-, -, hfree, -⟩ := of_mem_pairs hmigrated hpair
      exact absurd hfree (not_or.2 ⟨hbound, hkept⟩)
  | released hreleased => exact absurd hreleased hkept
  | stamped hstamped =>
      obtain ⟨tokenId, hholds, -⟩ := (isStamped_iff hmigrated row).1 hstamped
      exact absurd helsewhere hholds.2.1
  | left => rfl

theorem settled_id (snapshot : Snapshot) (row : StoredAsset) :
    (snapshot.settled D row).id = row.id := by
  unfold Snapshot.settled Snapshot.afterStamps Snapshot.afterReleases
  rw [changedRow_id, changedRow_id, changedRow_id]

/-- A token that a row is left without has been served: a row holds it, or it is paired. -/
theorem served_of_unbound (hmigrated : store.migrated = true) {row row' : StoredAsset}
    (hmem : row ∈ rows) (h : (readSnapshot nft txHash rows store).Settles D row row')
    (hunbound : row'.tokenId = none) {tokenId : Nat} (hcarries : nft.Carries tokenId row') :
    (∃ holder ∈ rows, holder.Holds D nft tokenId) ∨
      ∃ token holder, (token, holder) ∈ (readSnapshot nft txHash rows store).pairs D ∧
        token.tokenId = tokenId := by
  cases h with
  | bound => cases hunbound
  | released hreleased hover =>
      exact served_of_carries hmigrated hmem (.inr hreleased) hover hcarries
  | stamped hstamped =>
      obtain ⟨tokenId', hholds, -⟩ := (isStamped_iff hmigrated row).1 hstamped
      cases hunbound.symm.trans hholds.1
  | left _ _ hover => exact served_of_carries hmigrated hmem (.inl hunbound) hover hcarries

theorem reconciled_settled (hmigrated : store.migrated = true) (hrows : rows.Perm store.rows)
    (hfree : ¬ Collide D nft store.rows) :
    Reconciled D nft store.rows
      (store.rows.map ((readSnapshot nft txHash rows store).settled D)) := by
  have hids : (rows.map (·.id)).Nodup := (hrows.map _).nodup_iff.2 store.lawful.primaryKey
  have hsettles : ∀ row ∈ store.rows, (readSnapshot nft txHash rows store).Settles D row
      ((readSnapshot nft txHash rows store).settled D row) :=
    fun row hrow => settles hmigrated hids (hrows.mem_iff.2 hrow)
  refine ⟨?agree, ?heldOnce, ?noneLeft, ?kept, ?untouched⟩
  case agree =>
    intro row' hrow' hbound helsewhere
    obtain ⟨row, hrow, rfl⟩ := List.mem_map.1 hrow'
    exact agree_of_settles hmigrated (hsettles row hrow) hbound helsewhere
  case heldOnce =>
    intro row₁ hrow₁ row₂ hrow₂ helsewhere₁ helsewhere₂ tokenId htoken₁ htoken₂
    obtain ⟨row, hrow, rfl⟩ := List.mem_map.1 hrow₁
    obtain ⟨row', hrow', rfl⟩ := List.mem_map.1 hrow₂
    rw [eq_of_takes hmigrated hrows hfree (hrows.mem_iff.2 hrow) (hrows.mem_iff.2 hrow')
      (takes_of_settles hmigrated (hsettles row hrow) htoken₁ helsewhere₁)
      (takes_of_settles hmigrated (hsettles row' hrow') htoken₂ helsewhere₂)]
  case noneLeft =>
    intro row' hrow' hunbound tokenId hcarries
    obtain ⟨row, hrow, rfl⟩ := List.mem_map.1 hrow'
    -- The row was free, and no token was left for it.
    rcases served_of_unbound hmigrated (hrows.mem_iff.2 hrow) (hsettles row hrow) hunbound hcarries
      with ⟨holder, hholder, hholds⟩ | ⟨token, holder, hpair, rfl⟩
    · have hholder := hrows.mem_iff.1 hholder
      exact ⟨_, List.mem_map.2 ⟨holder, hholder, rfl⟩,
        holds_of_settles hmigrated (hsettles holder hholder) hholds⟩
    · obtain ⟨-, hholder, -⟩ := of_mem_pairs hmigrated hpair
      refine ⟨_, List.mem_map.2 ⟨holder, hrows.mem_iff.1 hholder, rfl⟩, ?_⟩
      rw [settled_of_pair hpair]
      refine ⟨?_, rfl⟩
      rintro ⟨contractAddress, hcontract, hother⟩
      exact hother (Option.some.inj hcontract).symm
  case kept =>
    intro row hrow hagrees
    refine ⟨_, List.mem_map.2 ⟨row, hrow, rfl⟩, settled_id _ row, ?_⟩
    obtain ⟨tokenId, htoken, hcarries⟩ := hagrees
    by_cases helsewhere : row.Elsewhere D
    · have hbound : row.tokenId ≠ none := fun hnone => by cases hnone.symm.trans htoken
      rw [eq_of_settles hmigrated (hsettles row hrow) helsewhere hbound]
    · rw [htoken]
      exact (holds_of_settles hmigrated (hsettles row hrow) ⟨htoken, helsewhere, hcarries⟩).2
  case untouched =>
    intro row hrow helsewhere hbound
    refine List.mem_map.2 ⟨row, hrow, ?_⟩
    exact eq_of_settles hmigrated (hsettles row hrow) helsewhere hbound

/-! ## A second run -/

theorem free_of_reconciled {before after : List StoredAsset} (h : Reconciled D nft before after) :
    ¬ Collide D nft after := by
  rintro ⟨row, hrow, -, -, tokenId, hnone, -, htoken, -⟩
  have hbound : row.tokenId ≠ none := fun hunbound => by cases hunbound.symm.trans htoken
  have helsewhere : ¬ row.Elsewhere D := by
    rintro ⟨contractAddress, hcontract, -⟩
    cases hnone.symm.trans hcontract
  obtain ⟨-, hstamped, -⟩ := h.agree row hrow hbound helsewhere
  cases hnone.symm.trans hstamped

/-- In a reconciled table nothing is left to be done to a row. -/
theorem settles_of_reconciled {before : List StoredAsset} (h : Reconciled D nft before store.rows)
    (hmigrated : store.migrated = true) (hrows : rows.Perm store.rows) {row row' : StoredAsset}
    (hrow : row ∈ store.rows) (hsettles : (readSnapshot nft txHash rows store).Settles D row row') :
    row' = row := by
  have hkept : ¬ (readSnapshot nft txHash rows store).isReleased D row = true := by
    rw [isReleased_iff hmigrated]
    rintro ⟨tokenId, htoken, helsewhere, hnot⟩
    have hbound : row.tokenId ≠ none := fun hunbound => by cases hunbound.symm.trans htoken
    obtain ⟨⟨tokenId', htoken', hcarries⟩, -⟩ := h.agree row hrow hbound helsewhere
    obtain rfl : tokenId' = tokenId := Option.some.inj (htoken'.symm.trans htoken)
    exact hnot hcarries
  cases hsettles with
  | bound token hpair =>
      obtain ⟨hunheld, -, hfree, hcarries⟩ := of_mem_pairs hmigrated hpair
      obtain ⟨holder, hholder, helsewhere, htoken⟩ :=
        h.noneLeft row hrow (hfree.resolve_right hkept) token.tokenId hcarries
      have hbound : holder.tokenId ≠ none := fun hunbound => by cases hunbound.symm.trans htoken
      obtain ⟨⟨tokenId, htoken', hcarries'⟩, -⟩ := h.agree holder hholder hbound helsewhere
      obtain rfl : tokenId = token.tokenId := Option.some.inj (htoken'.symm.trans htoken)
      exact absurd ⟨holder, hrows.mem_iff.2 hholder, htoken, helsewhere, hcarries'⟩ hunheld
  | released hreleased => exact absurd hreleased hkept
  | stamped hstamped =>
      obtain ⟨tokenId, ⟨htoken, helsewhere, -⟩, hmissing⟩ :=
        (isStamped_iff hmigrated row).1 hstamped
      have hbound : row.tokenId ≠ none := fun hunbound => by cases hunbound.symm.trans htoken
      obtain ⟨-, hcontract, chainId, hchain, hzero⟩ := h.agree row hrow hbound helsewhere
      have hchainId : chainId = 0 := by
        rcases hmissing with hnone | hall
        · cases hnone.symm.trans hcontract
        · exact hall chainId hchain
      have hsame : some D.chainId = row.chainId := by
        rw [hchain, hchainId, hzero hchainId]
      rw [hsame, ← hcontract]
  | left => rfl

theorem repair_again {before : List StoredAsset} (h : Reconciled D nft before store.rows)
    (hmigrated : store.migrated = true) (hrows : rows.Perm store.rows) :
    ∃ summary, outcome (repairBindings D true (readSnapshot nft txHash rows store)) store =
      (.ok summary, store) := by
  have hids : (rows.map (·.id)).Nodup := (hrows.map _).nodup_iff.2 store.lawful.primaryKey
  obtain ⟨summary, store', hrun, hrows', hmigrated'⟩ :=
    @repair_completes _ D nft txHash rows store hmigrated hrows (free_of_reconciled h)
  have hsame : store'.rows = store.rows := by
    rw [hrows']
    refine (List.map_congr_left fun row hrow => ?_).trans (List.map_id _)
    exact settles_of_reconciled h hmigrated hrows hrow
      (settles hmigrated hids (hrows.mem_iff.2 hrow))
  refine ⟨summary, ?_⟩
  rw [hrun]
  congr 1
  cases store'
  cases store
  simp only [AssetStore.mk.injEq]
  exact ⟨hsame, hmigrated'.trans hmigrated.symm⟩

end Reconciliation

/-- Over a migrated table, the repair completes, leaves the table reconciled and is idempotent exactly
    where no token that carries both is held by an unstamped row and by a row of this deployment. -/
theorem repair_reconciles_iff [Js.CaseMapping] (D : AssetDeployment) (nft : TokenReads)
    (txHash : Nat → Option String) (store : AssetStore) (hmigrated : store.migrated = true)
    (rows : List StoredAsset) (hrows : rows.Perm store.rows) :
    RepairReconciles D nft txHash rows store ↔ ¬ Collide D nft store.rows := by
  constructor
  · rintro ⟨summary, store', hcompletes, -⟩ hcollide
    exact repair_stops hmigrated hrows hcollide hcompletes
  · intro hfree
    obtain ⟨summary, store', hcompletes, hrows', hmigrated'⟩ :=
      @repair_completes _ D nft txHash rows store hmigrated hrows hfree
    have hreconciled : Reconciled D nft store.rows store'.rows := by
      rw [hrows']
      exact reconciled_settled hmigrated hrows hfree
    exact ⟨summary, store', hcompletes, hreconciled, fun txHash' rows' hrows' =>
      repair_again hreconciled hmigrated' hrows'⟩

/-! ## After a redeployment -/

namespace Sample

/-- One token, of organization 1. -/
def oneToken : TokenReads where
  totalMinted := ⟨1, one_safe⟩
  orgId _ := 1
  assetHash _ := 11

/-- A stale row, a draft with the anchor of token 1, and a row of another contract. -/
def redeployedStore : AssetStore where
  rows := [storedRow "stale" (some 1) 12 none, storedRow "draft" none 11 none,
    storedRow "other" (some 1) 13 (some ⟨31337, 8#160⟩)]
  migrated := true
  lawful := by decide +kernel
  unstamped := by simp

theorem redeployed_repaired :
    letI := asciiCase
    RepairReconciles nine oneToken (fun _ => none) redeployedStore.rows redeployedStore := by
  refine (@repair_reconciles_iff asciiCase nine oneToken _ redeployedStore rfl _ (List.Perm.refl _)).2 ?_
  rintro ⟨-, -, row', hrow', -, -, hours, -⟩
  have hnone : ∀ row ∈ redeployedStore.rows, row.contractAddress ≠ some nine.contractAddress := by
    decide +kernel
  exact hnone row' hrow' hours

/-- The same record twice on one token, once from before migration 0002. -/
def doubledStore : AssetStore where
  rows := [storedRow "first" (some 1) 11 none, storedRow "second" (some 1) 11 (some nine)]
  migrated := true
  lawful := by decide +kernel
  unstamped := by simp

theorem doubled_stops :
    ¬ ∀ [Js.CaseMapping] (D : AssetDeployment) (nft : TokenReads) (txHash : Nat → Option String)
        (store : AssetStore), store.migrated = true → ∀ rows : List StoredAsset,
        rows.Perm store.rows → RepairReconciles D nft txHash rows store := by
  intro hall
  let _ := asciiCase
  obtain ⟨summary, store', hcompletes, -⟩ :=
    hall nine oneToken (fun _ => none) doubledStore rfl doubledStore.rows (List.Perm.refl _)
  have hminted : oneToken.Minted 1 := by
    unfold TokenReads.Minted
    decide
  have hcarries : ∀ row ∈ doubledStore.rows, oneToken.Carries 1 row := by
    intro row hrow
    have hsame : row.orgId.1 = 1 ∧ row.assetHash = hex 11 := by
      revert row
      decide +kernel
    exact ⟨hminted, hsame.1.symm, by rw [hsame.2]; exact beq_self_eq_true _⟩
  refine repair_stops rfl (List.Perm.refl _) ?_ hcompletes
  exact ⟨storedRow "first" (some 1) 11 none, by decide +kernel,
    storedRow "second" (some 1) 11 (some nine), by decide +kernel, 1, rfl, rfl, rfl, rfl,
    hcarries _ (by decide +kernel), hcarries _ (by decide +kernel)⟩

end Sample

end OwneX
