import OwneX.Platform.RepairBindings

set_option autoImplicit false

/-! # What the repair script plans

From one reading of the table and of the tokens it follows what becomes of every row, and so what every
row is indexed by while the plan is carried out. Where no token is held both by an unstamped row and
by a row of this deployment, each with the token's anchor and organization, no two rows are ever
indexed by the same. -/

namespace OwneX

open Js JsNumber KeyedList

/-! ## The tokens -/

section Tokens

variable {nft : TokenReads} {txHash : Nat → Option String}

theorem toNumber_eq_zero_iff {n : Nat} : toNumber n = 0 ↔ n = 0 := by
  constructor
  · intro h
    exact eq_of_toNumber (m := ⟨0, by decide⟩) h
  · rintro rfl
    exact toNumber_of_lt (by decide)

def TokenReads.Minted (nft : TokenReads) (tokenId : Nat) : Prop :=
  0 < tokenId ∧ tokenId ≤ nft.totalMinted.1 ∧ nft.orgId tokenId ≠ 0

theorem mem_readChainTokens {token : ChainToken} :
    token ∈ readChainTokens nft txHash ↔
      nft.Minted token.tokenId ∧ token.orgId = toNumber (nft.orgId token.tokenId) ∧
        token.assetHash = nft.assetHash token.tokenId ∧ token.txHash = txHash token.tokenId := by
  unfold readChainTokens TokenReads.Minted
  simp only [List.mem_map, List.mem_filter, List.mem_range'_1, decide_eq_true_eq]
  constructor
  · rintro ⟨tokenId, ⟨⟨hlow, hhigh⟩, horg⟩, rfl⟩
    dsimp only
    exact ⟨⟨by omega, by omega, fun h => horg (toNumber_eq_zero_iff.2 h)⟩, rfl, rfl, rfl⟩
  · rintro ⟨⟨hlow, hhigh, horg⟩, horgId, hhash, htx⟩
    refine ⟨token.tokenId, ⟨⟨by omega, by omega⟩, fun h => horg (toNumber_eq_zero_iff.1 h)⟩, ?_⟩
    rw [← horgId, ← hhash, ← htx]

theorem nodup_readChainTokens : ((readChainTokens nft txHash).map (·.tokenId)).Nodup := by
  unfold readChainTokens
  rw [List.map_map]
  exact ((List.nodup_range').filter _).map fun _ _ h => h

theorem TokenReads.Minted.lt {tokenId : Nat} (h : nft.Minted tokenId) : tokenId < 2 ^ 53 :=
  Nat.lt_of_le_of_lt h.2.1 nft.totalMinted.2

end Tokens

section RepairPlan

variable [Js.CaseMapping] (D : AssetDeployment) (nft : TokenReads)

/-! ## Rows and tokens -/

/-- The token has the anchor of the row and belongs to its organization. -/
def TokenReads.Carries (tokenId : Nat) (row : StoredAsset) : Prop :=
  nft.Minted tokenId ∧ nft.orgId tokenId = row.orgId.1 ∧
    sameHex (hex (nft.assetHash tokenId)) row.assetHash = true

/-- The row holds a token that carries it. -/
def TokenReads.Agrees (row : StoredAsset) : Prop :=
  ∃ tokenId, row.tokenId = some tokenId ∧ nft.Carries tokenId row

namespace StoredAsset

/-- Stamped for another contract. -/
def Elsewhere (row : StoredAsset) : Prop :=
  ∃ contractAddress, row.contractAddress = some contractAddress ∧
    contractAddress ≠ D.contractAddress

end StoredAsset

/-- An unstamped row and a row of this deployment hold the same token, and it carries both. -/
def Collide (rows : List StoredAsset) : Prop :=
  ∃ row ∈ rows, ∃ row' ∈ rows, ∃ tokenId,
    row.contractAddress = none ∧ row'.contractAddress = some D.contractAddress ∧
    row.tokenId = some tokenId ∧ row'.tokenId = some tokenId ∧
    nft.Carries tokenId row ∧ nft.Carries tokenId row'

/-! ## What the script decides -/

variable {D nft} {txHash : Nat → Option String} {rows : List StoredAsset} {store : AssetStore}

/-- A token that carries a row, as the script finds it. -/
theorem carries_iff (txHash : Nat → Option String) {tokenId : Nat} {row : StoredAsset} :
    nft.Carries tokenId row ↔ ∃ token,
      lookup ChainToken.tokenId (readChainTokens nft txHash) (toNumber tokenId) = some token ∧
        sameHex (hex token.assetHash) row.assetHash = true ∧ token.orgId = row.orgId.1 := by
  simp only [lookup_eq_some_iff nodup_readChainTokens, mem_readChainTokens]
  constructor
  · rintro ⟨hminted, horg, hhash⟩
    have hsame := toNumber_of_lt hminted.lt
    refine ⟨⟨tokenId, toNumber (nft.orgId tokenId), nft.assetHash tokenId, txHash tokenId⟩,
      ⟨⟨hminted, rfl, rfl, rfl⟩, hsame.symm⟩, hhash, ?_⟩
    rw [horg, toNumber_safeInt]
  · rintro ⟨token, ⟨⟨hminted, horgId, hhash, -⟩, htoken⟩, hsame, horg⟩
    have heq : tokenId = token.tokenId :=
      eq_of_toNumber (m := ⟨token.tokenId, hminted.lt⟩) htoken.symm
    rw [heq]
    rw [horgId] at horg
    rw [hhash] at hsame
    exact ⟨hminted, eq_of_toNumber horg, hsame⟩

/-- What the script matches a draft by. -/
theorem anchors_iff {token : ChainToken} (htoken : token ∈ readChainTokens nft txHash)
    {draft : StoredAsset} : anchors token draft = true ↔ nft.Carries token.tokenId draft := by
  obtain ⟨hminted, horgId, hhash, -⟩ := mem_readChainTokens.1 htoken
  unfold anchors TokenReads.Carries sameHex
  rw [horgId, hhash, Bool.and_eq_true, decide_eq_true_eq, Bool.beq_comm]
  constructor
  · rintro ⟨horg, hsame⟩
    exact ⟨hminted, eq_of_toNumber horg.symm, hsame⟩
  · rintro ⟨-, horg, hsame⟩
    rw [horg, toNumber_safeInt]
    exact ⟨rfl, hsame⟩

omit [Js.CaseMapping] in
theorem belongsElsewhere_iff (hmigrated : store.migrated = true) (row : StoredAsset) :
    (readSnapshot nft txHash rows store).belongsElsewhere D row = true ↔ row.Elsewhere D := by
  unfold Snapshot.belongsElsewhere StoredAsset.Elsewhere readSnapshot
  simp only [hmigrated, Bool.true_and, Option.any_eq_true, decide_eq_true_eq]

theorem finding_elsewhere (hmigrated : store.migrated = true) {row : StoredAsset}
    (h : row.Elsewhere D) (tokenId : Nat) :
    (readSnapshot nft txHash rows store).finding D row tokenId = .belongsElsewhere := by
  rw [Snapshot.finding, if_pos ((belongsElsewhere_iff hmigrated row).2 h)]

/-- A binding of this deployment is released where the chain contradicts it. -/
theorem finding_contradicted (hmigrated : store.migrated = true) {row : StoredAsset}
    (h : ¬ row.Elsewhere D) {tokenId : Nat} (hnot : ¬ nft.Carries tokenId row) :
    ∃ why, (readSnapshot nft txHash rows store).finding D row tokenId = .release why := by
  rw [Snapshot.finding, if_neg fun hyes => h ((belongsElsewhere_iff hmigrated row).1 hyes)]
  rw [carries_iff txHash] at hnot
  have htokens : (readSnapshot nft txHash rows store).tokens = readChainTokens nft txHash := rfl
  rw [htokens]
  cases hfound : lookup ChainToken.tokenId (readChainTokens nft txHash) (toNumber tokenId) with
  | none => exact ⟨_, rfl⟩
  | some token =>
      dsimp only
      by_cases hhash : sameHex (hex token.assetHash) row.assetHash = true
      · have horg : token.orgId ≠ row.orgId.1 := fun horg => hnot ⟨token, hfound, hhash, horg⟩
        rw [hhash, if_neg (by decide), if_pos horg]
        exact ⟨_, rfl⟩
      · rw [if_pos (by simpa using hhash)]
        exact ⟨_, rfl⟩

/-- Otherwise it is stamped, if it has to be. -/
theorem finding_confirmed (hmigrated : store.migrated = true) {row : StoredAsset}
    (h : ¬ row.Elsewhere D) {tokenId : Nat} (hcarries : nft.Carries tokenId row) :
    (readSnapshot nft txHash rows store).finding D row tokenId =
      if row.contractAddress.isNone || row.chainId.all (· = 0) then .stamp else .verified := by
  obtain ⟨token, hfound, hhash, horg⟩ := (carries_iff txHash).1 hcarries
  rw [Snapshot.finding, if_neg fun hyes => h ((belongsElsewhere_iff hmigrated row).1 hyes)]
  have htokens : (readSnapshot nft txHash rows store).tokens = readChainTokens nft txHash := rfl
  rw [htokens, hfound]
  dsimp only
  rw [hhash, if_neg (by decide), if_neg (by simpa using horg)]
  simp only [readSnapshot, hmigrated, Bool.true_and]

/-- A row of this deployment that holds a token that carries it. -/
def StoredAsset.Holds (D : AssetDeployment) (nft : TokenReads) (row : StoredAsset) (tokenId : Nat) :
    Prop :=
  row.tokenId = some tokenId ∧ ¬ row.Elsewhere D ∧ nft.Carries tokenId row

theorem isReleased_iff (hmigrated : store.migrated = true) (row : StoredAsset) :
    (readSnapshot nft txHash rows store).isReleased D row = true ↔
      ∃ tokenId, row.tokenId = some tokenId ∧ ¬ row.Elsewhere D ∧ ¬ nft.Carries tokenId row := by
  unfold Snapshot.isReleased
  rw [Option.any_eq_true]
  refine exists_congr fun tokenId => and_congr_right fun _ => ?_
  by_cases helsewhere : row.Elsewhere D
  · rw [finding_elsewhere hmigrated helsewhere]
    simp [helsewhere]
  · by_cases hcarries : nft.Carries tokenId row
    · rw [finding_confirmed hmigrated helsewhere hcarries]
      split
      next why hwhy => split at hwhy <;> cases hwhy
      · simp [hcarries]
    · obtain ⟨why, hfinding⟩ :
          ∃ why, (readSnapshot nft txHash rows store).finding D row tokenId = .release why :=
        finding_contradicted hmigrated helsewhere hcarries
      rw [hfinding]
      simp [helsewhere, hcarries]

theorem isStamped_iff (hmigrated : store.migrated = true) (row : StoredAsset) :
    (readSnapshot nft txHash rows store).isStamped D row = true ↔
      ∃ tokenId, row.Holds D nft tokenId ∧
        (row.contractAddress = none ∨ ∀ chainId, row.chainId = some chainId → chainId = 0) := by
  unfold Snapshot.isStamped StoredAsset.Holds
  rw [Option.any_eq_true]
  refine exists_congr fun tokenId => ?_
  rw [and_assoc, decide_eq_true_eq]
  refine and_congr_right fun _ => ?_
  by_cases helsewhere : row.Elsewhere D
  · rw [finding_elsewhere hmigrated helsewhere]
    simp [helsewhere]
  · by_cases hcarries : nft.Carries tokenId row
    · rw [finding_confirmed hmigrated helsewhere hcarries]
      simp only [helsewhere, hcarries, not_false_eq_true, true_and, ite_eq_left_iff,
        reduceCtorEq, imp_false, not_not, Bool.or_eq_true, Option.isNone_iff_eq_none,
        Option.all_eq_true, decide_eq_true_eq]
    · obtain ⟨why, hfinding⟩ :
          ∃ why, (readSnapshot nft txHash rows store).finding D row tokenId = .release why :=
        finding_contradicted hmigrated helsewhere hcarries
      rw [hfinding]
      simp [hcarries]

/-- A row that is not released holds a token that carries it, or is left alone. -/
theorem holds_of_not_released (hmigrated : store.migrated = true) {row : StoredAsset}
    (h : (readSnapshot nft txHash rows store).isReleased D row = false) {tokenId : Nat}
    (htoken : row.tokenId = some tokenId) (helsewhere : ¬ row.Elsewhere D) :
    row.Holds D nft tokenId := by
  refine ⟨htoken, helsewhere, ?_⟩
  by_contra hnot
  rw [← Bool.not_eq_true, isReleased_iff hmigrated] at h
  exact h ⟨tokenId, htoken, helsewhere, hnot⟩

theorem not_released_of_holds (hmigrated : store.migrated = true) {row : StoredAsset} {tokenId : Nat}
    (h : row.Holds D nft tokenId) :
    (readSnapshot nft txHash rows store).isReleased D row = false := by
  rw [← Bool.not_eq_true, isReleased_iff hmigrated]
  rintro ⟨tokenId', htoken, -, hnot⟩
  obtain rfl : tokenId = tokenId' := Option.some.inj (h.1.symm.trans htoken)
  exact hnot h.2.2

theorem mem_stillBound (hmigrated : store.migrated = true) {tokenId : Nat}
    (hminted : nft.Minted tokenId) :
    tokenId ∈ (readSnapshot nft txHash rows store).stillBound D ↔
      ∃ row ∈ rows, row.Holds D nft tokenId := by
  unfold Snapshot.stillBound
  simp only [List.mem_filterMap, List.mem_filter, Bool.and_eq_true, Bool.not_eq_true',
    Option.map_eq_some_iff]
  constructor
  · rintro ⟨row, ⟨hrow, ⟨-, hreleased⟩, helsewhere⟩, tokenId', htoken, hnumber⟩
    obtain rfl : tokenId' = tokenId := eq_of_toNumber (m := ⟨tokenId, hminted.lt⟩) hnumber
    rw [← Bool.not_eq_true, belongsElsewhere_iff hmigrated] at helsewhere
    exact ⟨row, hrow, holds_of_not_released hmigrated hreleased htoken helsewhere⟩
  · rintro ⟨row, hrow, hholds⟩
    refine ⟨row, ⟨hrow, ⟨?_, not_released_of_holds hmigrated hholds⟩, ?_⟩, tokenId, hholds.1,
      toNumber_of_lt hminted.lt⟩
    · rw [hholds.1, Option.isSome_some]
    · rw [← Bool.not_eq_true, belongsElsewhere_iff hmigrated]
      exact hholds.2.1

theorem mem_claimable (hmigrated : store.migrated = true) {token : ChainToken} :
    token ∈ (readSnapshot nft txHash rows store).claimable D ↔
      token ∈ readChainTokens nft txHash ∧ ¬ ∃ row ∈ rows, row.Holds D nft token.tokenId := by
  unfold Snapshot.claimable
  rw [List.mem_mergeSort, List.mem_filter, Bool.not_eq_true', decide_eq_false_iff_not]
  refine and_congr_right fun htoken => not_congr ?_
  exact mem_stillBound hmigrated (mem_readChainTokens.1 htoken).1

theorem mem_drafts {row : StoredAsset} :
    row ∈ (readSnapshot nft txHash rows store).drafts D ↔
      row ∈ rows ∧ (row.tokenId = none ∨
        (readSnapshot nft txHash rows store).isReleased D row = true) := by
  unfold Snapshot.drafts
  rw [List.mem_filter, Bool.or_eq_true, Option.isNone_iff_eq_none]
  rfl

/-! ## Which draft goes to which token -/

/-- The drafts that are bound, each with its token. -/
def Snapshot.pairs (D : AssetDeployment) (snapshot : Snapshot) : List (ChainToken × StoredAsset) :=
  GreedyMatching.matching (fun draft : StoredAsset => draft.id) anchors (snapshot.drafts D)
    (snapshot.claimable D) []

theorem of_mem_pairs (hmigrated : store.migrated = true) {token : ChainToken} {row : StoredAsset}
    (h : (token, row) ∈ (readSnapshot nft txHash rows store).pairs D) :
    (¬ ∃ holder ∈ rows, holder.Holds D nft token.tokenId) ∧ row ∈ rows ∧
      (row.tokenId = none ∨ (readSnapshot nft txHash rows store).isReleased D row = true) ∧
      nft.Carries token.tokenId row := by
  obtain ⟨hclaimable, hdraft, -, hfits⟩ := GreedyMatching.of_mem_matching h
  obtain ⟨htoken, hunheld⟩ := (mem_claimable hmigrated).1 hclaimable
  obtain ⟨hrow, hfree⟩ := mem_drafts.1 hdraft
  exact ⟨hunheld, hrow, hfree, (anchors_iff htoken).1 hfits⟩

/-- A draft is given one token. -/
theorem nodup_pairs (snapshot : Snapshot) : ((snapshot.pairs D).map (·.2.id)).Nodup :=
  @GreedyMatching.nodup_matching _ _ String _ (fun draft : StoredAsset => draft.id) _ _ _ _

/-- A token goes to one draft. -/
theorem eq_of_pairs {token token' : ChainToken} {row row' : StoredAsset}
    (h : (token, row) ∈ (readSnapshot nft txHash rows store).pairs D)
    (h' : (token', row') ∈ (readSnapshot nft txHash rows store).pairs D)
    (heq : token.tokenId = token'.tokenId) : row = row' := by
  have htokens : (((readSnapshot nft txHash rows store).claimable D).map (·.tokenId)).Nodup := by
    unfold Snapshot.claimable
    rw [((List.mergeSort_perm _ _).map _).nodup_iff]
    exact nodup_readChainTokens.sublist (List.filter_sublist.map _)
  have hpairs : (((readSnapshot nft txHash rows store).pairs D).map (·.1.tokenId)).Nodup := by
    have hsub : (((readSnapshot nft txHash rows store).pairs D).map (·.1)).Sublist
        ((readSnapshot nft txHash rows store).claimable D) :=
      GreedyMatching.matching_sublist ..
    have hids := htokens.sublist (hsub.map (·.tokenId))
    rwa [List.map_map] at hids
  exact congrArg Prod.snd (List.inj_on_of_nodup_map hpairs h h' heq)

/-- A draft that is left over fits no token that is left over. -/
theorem served_of_carries (hmigrated : store.migrated = true) {row : StoredAsset} (hrow : row ∈ rows)
    (hfree : row.tokenId = none ∨ (readSnapshot nft txHash rows store).isReleased D row = true)
    (hover : row.id ∉ ((readSnapshot nft txHash rows store).pairs D).map (·.2.id)) {tokenId : Nat}
    (hcarries : nft.Carries tokenId row) :
    (∃ holder ∈ rows, holder.Holds D nft tokenId) ∨
      ∃ token row', (token, row') ∈ (readSnapshot nft txHash rows store).pairs D ∧
        token.tokenId = tokenId := by
  by_cases hheld : ∃ holder ∈ rows, holder.Holds D nft tokenId
  · exact .inl hheld
  · right
    have htoken : (⟨tokenId, toNumber (nft.orgId tokenId), nft.assetHash tokenId, txHash tokenId⟩ :
        ChainToken) ∈ readChainTokens nft txHash :=
      mem_readChainTokens.2 ⟨hcarries.1, rfl, rfl, rfl⟩
    by_contra hunserved
    have hnot : (⟨tokenId, toNumber (nft.orgId tokenId), nft.assetHash tokenId, txHash tokenId⟩ :
        ChainToken) ∉ ((readSnapshot nft txHash rows store).pairs D).map (·.1) := by
      intro hmem
      obtain ⟨⟨token, row'⟩, hpair, hsame⟩ := List.mem_map.1 hmem
      exact hunserved ⟨token, row', hpair, congrArg ChainToken.tokenId hsame⟩
    rcases GreedyMatching.taken_of_unmatched ((mem_claimable hmigrated).2 ⟨htoken, hheld⟩) hnot
      (mem_drafts.2 ⟨hrow, hfree⟩) ((anchors_iff htoken).2 hcarries) with hnone | hlater
    · exact List.not_mem_nil hnone
    · exact hover hlater

/-! ## What becomes of the rows -/

section Changes

variable (D) (snapshot : Snapshot)

def Snapshot.releaseChanges : List (String × AssetPatch) :=
  (snapshot.released D).map fun row => (row.id, releasePatch)

def Snapshot.stampChanges : List (String × AssetPatch) :=
  (snapshot.stamped D).map fun row => (row.id, stampPatch D)

def Snapshot.bindChanges : List (String × AssetPatch) :=
  (snapshot.pairs D).map fun pair => (pair.2.id, bindPatch D pair.1)

/-- A row after the releases, after the stamps and in the end. -/
def Snapshot.afterReleases (row : StoredAsset) : StoredAsset :=
  changedRow (snapshot.releaseChanges D) row

def Snapshot.afterStamps (row : StoredAsset) : StoredAsset :=
  changedRow (snapshot.stampChanges D) (snapshot.afterReleases D row)

def Snapshot.settled (row : StoredAsset) : StoredAsset :=
  changedRow (snapshot.bindChanges D) (snapshot.afterStamps D row)

/-- What may become of a row in the end. -/
inductive Snapshot.Settles (row : StoredAsset) : StoredAsset → Prop where
  | bound (token : ChainToken) (hpair : (token, row) ∈ snapshot.pairs D) :
      Settles row { row with
        tokenId := some token.tokenId
        mintTxHash := token.txHash
        chainId := some D.chainId
        contractAddress := some D.contractAddress }
  | released (h : snapshot.isReleased D row = true)
      (hover : row.id ∉ (snapshot.pairs D).map (·.2.id)) :
      Settles row { row with tokenId := none, mintTxHash := none }
  | stamped (h : snapshot.isStamped D row = true) :
      Settles row { row with
        chainId := some D.chainId
        contractAddress := some D.contractAddress }
  | left (hreleased : snapshot.isReleased D row = false)
      (hstamped : snapshot.isStamped D row = false)
      (hover : row.id ∉ (snapshot.pairs D).map (·.2.id)) :
      Settles row row

end Changes

omit [Js.CaseMapping] in
theorem changedRow_filter (hids : (rows.map (·.id)).Nodup) (p : StoredAsset → Bool)
    (patch : AssetPatch) {row row' : StoredAsset} (hrow : row ∈ rows) (hid : row'.id = row.id) :
    changedRow ((rows.filter p).map fun row => (row.id, patch)) row' =
      if p row then patch.onto row' else row' := by
  have hmap : ((rows.filter p).map fun row => (row.id, patch)).map (·.1) =
      (rows.filter p).map (·.id) := List.map_map ..
  by_cases hp : p row = true
  · rw [if_pos hp]
    refine changedRow_of_mem ?_ (List.mem_map.2 ⟨row, List.mem_filter.2 ⟨hrow, hp⟩, rfl⟩) hid
    rw [hmap]
    exact hids.sublist (List.filter_sublist.map _)
  · rw [if_neg hp]
    refine changedRow_of_notMem ?_
    rw [hmap, hid]
    intro hmem
    obtain ⟨other, hother, hsame⟩ := List.mem_map.1 hmem
    obtain ⟨hmem, hpother⟩ := List.mem_filter.1 hother
    rw [eq_of_key hids hmem hrow hsame] at hpother
    exact hp hpother

theorem afterReleases_eq (hids : (rows.map (·.id)).Nodup) {row : StoredAsset} (hrow : row ∈ rows) :
    (readSnapshot nft txHash rows store).afterReleases D row =
      if (readSnapshot nft txHash rows store).isReleased D row then releasePatch.onto row
      else row :=
  changedRow_filter hids _ releasePatch hrow rfl

/-- No row is both stamped and released. -/
theorem not_released_of_stamped (hmigrated : store.migrated = true) {row : StoredAsset}
    (h : (readSnapshot nft txHash rows store).isStamped D row = true) :
    (readSnapshot nft txHash rows store).isReleased D row = false := by
  obtain ⟨tokenId, hholds, -⟩ := (isStamped_iff hmigrated row).1 h
  exact not_released_of_holds hmigrated hholds

theorem afterStamps_eq (hmigrated : store.migrated = true) (hids : (rows.map (·.id)).Nodup)
    {row : StoredAsset} (hrow : row ∈ rows) :
    (readSnapshot nft txHash rows store).afterStamps D row =
      if (readSnapshot nft txHash rows store).isStamped D row then (stampPatch D).onto row
      else (readSnapshot nft txHash rows store).afterReleases D row := by
  have hstep : (readSnapshot nft txHash rows store).afterStamps D row =
      if (readSnapshot nft txHash rows store).isStamped D row then
        (stampPatch D).onto ((readSnapshot nft txHash rows store).afterReleases D row)
      else (readSnapshot nft txHash rows store).afterReleases D row :=
    changedRow_filter hids _ (stampPatch D) hrow (changedRow_id _ row)
  rw [hstep]
  split
  next hstamped =>
      rw [afterReleases_eq hids hrow, not_released_of_stamped hmigrated hstamped]
      rfl
  · rfl

theorem settled_of_pair {token : ChainToken} {row : StoredAsset}
    (hpair : (token, row) ∈ (readSnapshot nft txHash rows store).pairs D) :
    (readSnapshot nft txHash rows store).settled D row =
      (bindPatch D token).onto ((readSnapshot nft txHash rows store).afterStamps D row) := by
  refine changedRow_of_mem ?_ (List.mem_map.2 ⟨(token, row), hpair, rfl⟩) ?_
  · rw [List.map_map]
    exact nodup_pairs _
  · unfold Snapshot.afterStamps Snapshot.afterReleases
    rw [changedRow_id, changedRow_id]

theorem settled_of_over {row : StoredAsset}
    (hover : row.id ∉ ((readSnapshot nft txHash rows store).pairs D).map (·.2.id)) :
    (readSnapshot nft txHash rows store).settled D row =
      (readSnapshot nft txHash rows store).afterStamps D row := by
  refine changedRow_of_notMem ?_
  unfold Snapshot.bindChanges Snapshot.afterStamps Snapshot.afterReleases
  rw [changedRow_id, changedRow_id, List.map_map]
  exact hover

/-- A pair is a row of the table with its token. -/
theorem pair_of_id (hmigrated : store.migrated = true) (hids : (rows.map (·.id)).Nodup)
    {row : StoredAsset} (hrow : row ∈ rows)
    (h : row.id ∈ ((readSnapshot nft txHash rows store).pairs D).map (·.2.id)) :
    ∃ token, (token, row) ∈ (readSnapshot nft txHash rows store).pairs D := by
  obtain ⟨⟨token, row'⟩, hpair, hid⟩ := List.mem_map.1 h
  obtain ⟨-, hrow', -⟩ := of_mem_pairs hmigrated hpair
  rw [eq_of_key hids hrow hrow' hid.symm]
  exact ⟨token, hpair⟩

theorem settles (hmigrated : store.migrated = true) (hids : (rows.map (·.id)).Nodup)
    {row : StoredAsset} (hrow : row ∈ rows) :
    (readSnapshot nft txHash rows store).Settles D row
      ((readSnapshot nft txHash rows store).settled D row) := by
  by_cases hover : row.id ∈ ((readSnapshot nft txHash rows store).pairs D).map (·.2.id)
  · obtain ⟨token, hpair⟩ := pair_of_id hmigrated hids hrow hover
    obtain ⟨-, -, hfree, -⟩ := of_mem_pairs hmigrated hpair
    have hunstamped : (readSnapshot nft txHash rows store).isStamped D row = false := by
      by_contra hstamped
      rw [Bool.not_eq_false] at hstamped
      obtain ⟨tokenId, hholds, -⟩ := (isStamped_iff hmigrated row).1 hstamped
      rcases hfree with hnone | hreleased
      · cases hnone.symm.trans hholds.1
      · cases hreleased.symm.trans (not_released_of_holds hmigrated hholds)
    rw [settled_of_pair hpair, afterStamps_eq hmigrated hids hrow, hunstamped,
      afterReleases_eq hids hrow]
    have hbound : ∀ row', (row' = row ∨ row' = releasePatch.onto row) →
        (bindPatch D token).onto row' = { row with
          tokenId := some token.tokenId
          mintTxHash := token.txHash
          chainId := some D.chainId
          contractAddress := some D.contractAddress } := by
      rintro row' (rfl | rfl) <;> rfl
    rw [if_neg Bool.false_ne_true, hbound _ (by split <;> simp)]
    exact .bound token hpair
  · rw [settled_of_over hover, afterStamps_eq hmigrated hids hrow, afterReleases_eq hids hrow]
    split
    next hstamped => exact .stamped hstamped
    next hstamped =>
        split
        next hreleased => exact .released hreleased hover
        next hreleased => exact .left (by simpa using hreleased) (by simpa using hstamped) hover

/-! ## Who holds which token -/

/-- The row holds the token and keeps it, or is bound to it. -/
def Snapshot.Takes (D : AssetDeployment) (nft : TokenReads) (snapshot : Snapshot)
    (row : StoredAsset) (tokenId : Nat) : Prop :=
  row.Holds D nft tokenId ∨
    ∃ token, (token, row) ∈ snapshot.pairs D ∧ token.tokenId = tokenId

/-- Where no rows collide, a token is held by one row of this deployment. -/
theorem eq_of_holds (hfree : ¬ Collide D nft store.rows) {row row' : StoredAsset}
    (hrow : row ∈ store.rows) (hrow' : row' ∈ store.rows) {tokenId : Nat}
    (h : row.Holds D nft tokenId) (h' : row'.Holds D nft tokenId) : row = row' := by
  have hstamp : ∀ row : StoredAsset, ¬ row.Elsewhere D →
      row.contractAddress = none ∨ row.contractAddress = some D.contractAddress := by
    intro row helsewhere
    cases hcontract : row.contractAddress with
    | none => exact .inl rfl
    | some contractAddress =>
        right
        by_contra hother
        exact helsewhere ⟨contractAddress, hcontract, fun heq => hother (congrArg some heq)⟩
  obtain ⟨htoken, helsewhere, hcarries⟩ := h
  obtain ⟨htoken', helsewhere', hcarries'⟩ := h'
  rcases hstamp row helsewhere with hnone | hours <;>
    rcases hstamp row' helsewhere' with hnone' | hours'
  · exact store.eq_of_token hrow hrow' htoken htoken' (hnone.trans hnone'.symm)
  · exact absurd ⟨row, hrow, row', hrow', tokenId, hnone, hours', htoken, htoken', hcarries,
      hcarries'⟩ hfree
  · exact absurd ⟨row', hrow', row, hrow, tokenId, hnone', hours, htoken', htoken, hcarries',
      hcarries⟩ hfree
  · exact store.eq_of_token hrow hrow' htoken htoken' (hours.trans hours'.symm)

theorem eq_of_takes (hmigrated : store.migrated = true) (hrows : rows.Perm store.rows)
    (hfree : ¬ Collide D nft store.rows) {row row' : StoredAsset} (hrow : row ∈ rows)
    (hrow' : row' ∈ rows) {tokenId : Nat}
    (h : (readSnapshot nft txHash rows store).Takes D nft row tokenId)
    (h' : (readSnapshot nft txHash rows store).Takes D nft row' tokenId) : row = row' := by
  rcases h with hholds | ⟨token, hpair, rfl⟩ <;> rcases h' with hholds' | ⟨token', hpair', htoken⟩
  · exact eq_of_holds hfree (hrows.mem_iff.1 hrow) (hrows.mem_iff.1 hrow') hholds hholds'
  · rw [← htoken] at hholds
    exact absurd ⟨row, hrow, hholds⟩ (of_mem_pairs hmigrated hpair').1
  · exact absurd ⟨row', hrow', hholds'⟩ (of_mem_pairs hmigrated hpair).1
  · exact eq_of_pairs hpair hpair' htoken.symm

/-- Once the releases are done, what a row is indexed by: under another stamp what it has always been
    indexed by, and under this one a token that it takes. -/
def Snapshot.IndexedBy (D : AssetDeployment) (nft : TokenReads) (snapshot : Snapshot)
    (row : StoredAsset) (key : Option Address × Nat) : Prop :=
  key.1 ≠ some D.contractAddress ∧ row.tokenKey = some key ∨
    key.1 = some D.contractAddress ∧ snapshot.Takes D nft row key.2

theorem eq_of_indexedBy (hmigrated : store.migrated = true) (hrows : rows.Perm store.rows)
    (hfree : ¬ Collide D nft store.rows) {row row' : StoredAsset} (hrow : row ∈ rows)
    (hrow' : row' ∈ rows) {key : Option Address × Nat}
    (h : (readSnapshot nft txHash rows store).IndexedBy D nft row key)
    (h' : (readSnapshot nft txHash rows store).IndexedBy D nft row' key) : row = row' := by
  rcases h with ⟨hother, hkey⟩ | ⟨hours, htakes⟩ <;> rcases h' with ⟨hother', hkey'⟩ | ⟨hours', htakes'⟩
  · exact (StoredAsset.lawful_iff.1 store.lawful).2 row (hrows.mem_iff.1 hrow) row'
      (hrows.mem_iff.1 hrow') key hkey hkey'
  · exact absurd hours' hother
  · exact absurd hours hother'
  · exact eq_of_takes hmigrated hrows hfree hrow hrow' htakes htakes'

theorem afterReleases_indexedBy (hmigrated : store.migrated = true)
    (hids : (rows.map (·.id)).Nodup) {row : StoredAsset} (hrow : row ∈ rows)
    {key : Option Address × Nat}
    (h : ((readSnapshot nft txHash rows store).afterReleases D row).tokenKey = some key) :
    (readSnapshot nft txHash rows store).IndexedBy D nft row key := by
  rw [afterReleases_eq hids hrow] at h
  split at h
  · cases h
  next hreleased =>
      by_cases hours : key.1 = some D.contractAddress
      · obtain ⟨tokenId, htoken, rfl⟩ := Option.map_eq_some_iff.1 h
        refine .inr ⟨hours, .inl ?_⟩
        refine holds_of_not_released hmigrated (by simpa using hreleased) htoken ?_
        rintro ⟨contractAddress, hcontract, hother⟩
        exact hother (Option.some.inj (hcontract.symm.trans hours))
      · exact .inl ⟨hours, h⟩

theorem afterStamps_indexedBy (hmigrated : store.migrated = true)
    (hids : (rows.map (·.id)).Nodup) {row : StoredAsset} (hrow : row ∈ rows)
    {key : Option Address × Nat}
    (h : ((readSnapshot nft txHash rows store).afterStamps D row).tokenKey = some key) :
    (readSnapshot nft txHash rows store).IndexedBy D nft row key := by
  rw [afterStamps_eq hmigrated hids hrow] at h
  split at h
  next hstamped =>
      obtain ⟨tokenId, hholds, -⟩ := (isStamped_iff hmigrated row).1 hstamped
      obtain ⟨tokenId', htoken, rfl⟩ := Option.map_eq_some_iff.1 h
      obtain rfl : tokenId = tokenId' := Option.some.inj (hholds.1.symm.trans htoken)
      exact .inr ⟨rfl, .inl hholds⟩
  · exact afterReleases_indexedBy hmigrated hids hrow h

theorem settled_indexedBy (hmigrated : store.migrated = true)
    (hids : (rows.map (·.id)).Nodup) {row : StoredAsset} (hrow : row ∈ rows)
    {key : Option Address × Nat}
    (h : ((readSnapshot nft txHash rows store).settled D row).tokenKey = some key) :
    (readSnapshot nft txHash rows store).IndexedBy D nft row key := by
  by_cases hover : row.id ∈ ((readSnapshot nft txHash rows store).pairs D).map (·.2.id)
  · obtain ⟨token, hpair⟩ := pair_of_id hmigrated hids hrow hover
    rw [settled_of_pair hpair] at h
    obtain rfl : (some D.contractAddress, token.tokenId) = key := Option.some.inj h
    exact .inr ⟨rfl, .inr ⟨token, hpair, rfl⟩⟩
  · rw [settled_of_over hover] at h
    exact afterStamps_indexedBy hmigrated hids hrow h

/-- A change that keeps to what the rows may be indexed by can be made row by row. -/
theorem compatible_of_indexedBy (hmigrated : store.migrated = true) (hrows : rows.Perm store.rows)
    (hfree : ¬ Collide D nft store.rows) {before change : StoredAsset → StoredAsset}
    (hbefore : ∀ row ∈ rows, ∀ key, (before row).tokenKey = some key →
      (readSnapshot nft txHash rows store).IndexedBy D nft row key)
    (hafter : ∀ row ∈ rows, ∀ key, (change (before row)).tokenKey = some key →
      (readSnapshot nft txHash rows store).IndexedBy D nft row key) :
    Compatible change (store.rows.map before) := by
  intro row hrow row' hrow' key hkey hkey'
  obtain ⟨row, hmem, rfl⟩ := List.mem_map.1 hrow
  obtain ⟨row', hmem', rfl⟩ := List.mem_map.1 hrow'
  have hmem := hrows.mem_iff.2 hmem
  have hmem' := hrows.mem_iff.2 hmem'
  rw [eq_of_indexedBy hmigrated hrows hfree hmem hmem' (hkey.elim (hbefore row hmem key)
    (hafter row hmem key)) (hkey'.elim (hbefore row' hmem' key) (hafter row' hmem' key))]

end RepairPlan

end OwneX
