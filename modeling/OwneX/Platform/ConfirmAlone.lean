import OwneX.Platform.AssetServer

set_option autoImplicit false

/-! # A confirmation with nobody else around

What `POST /api/assets/<assetId>/confirm` does to the table when nothing else goes on, whichever
statements fail. Up to the claims on the token it only reads; it then releases claims up to the first
one that stops it (`alone_releaseContradicted`), and binds the draft if there is none. -/

namespace OwneX

open Js JsNumber Prog KeyedList

/-! ## Permission to mint -/

section Permission

variable {σ : Type} [ERC721 σ] (rt : ServerRuntime)

/-- What the server answers alone. -/
def ServerState.answer (s : ServerState σ) (op : ServerOp) :
    op.Res × ServerState σ :=
  (s.outcome rt op, s.effect op)

/-- The caller may mint assets of the organization. -/
def MayMint (s : ServerState σ) (session : SessionData) (orgId : Nat) : Prop :=
  ∃ wallet, session.walletAt s.clock = some wallet ∧ (s.chain.readIdentity wallet).registered = true ∧
    (s.chain.readIdentity wallet).active = true ∧
    s.chain.readHasPermission orgId wallet PERM_MINT_ASSETS = true

/-- The wallet of a live identity. -/
theorem alone_requireActiveIdentity (s : ServerState σ) (wallet : Address) :
    alone (ServerState.answer rt) (requireActiveIdentity serverReads (some wallet)).run s =
      (if (s.chain.readIdentity wallet).registered = false then
          .error (.forbidden "This wallet has no registered identity")
        else if (s.chain.readIdentity wallet).active = false then
          .error (.forbidden "This identity has been revoked")
        else .ok wallet, s) := by
  have hidentity : alone (ServerState.answer rt)
      (orInternal (serverReads.readIdentity wallet)).run s =
        (.ok (s.chain.readIdentity wallet), s) := rfl
  have hcaller : alone (ServerState.answer rt)
      (requireCaller (m := Prog ServerOp ServerOp.Res) (some wallet)).run s = (.ok wallet, s) := rfl
  unfold requireActiveIdentity
  rw [alone_exceptT_bind hcaller, alone_exceptT_bind hidentity]
  cases (s.chain.readIdentity wallet).registered with
  | false => rfl
  | true =>
      cases (s.chain.readIdentity wallet).active with
      | false => rfl
      | true => rfl

theorem alone_requirePermission (s : ServerState σ) (wallet : Address) (orgId : SafeInt) :
    (∃ caller, alone (ServerState.answer rt)
        (requirePermission serverReads (some wallet) orgId.1 .mintAssets).run s = (.ok caller, s)) ∧
      ((s.chain.readIdentity wallet).registered = true ∧
        (s.chain.readIdentity wallet).active = true ∧
        s.chain.readHasPermission orgId.1 wallet PERM_MINT_ASSETS = true) ∨
    (∃ e, alone (ServerState.answer rt)
        (requirePermission serverReads (some wallet) orgId.1 .mintAssets).run s = (.error e, s)) ∧
      ¬ ((s.chain.readIdentity wallet).registered = true ∧
        (s.chain.readIdentity wallet).active = true ∧
        s.chain.readHasPermission orgId.1 wallet PERM_MINT_ASSETS = true) := by
  have hactive := alone_requireActiveIdentity rt s wallet
  unfold requirePermission
  cases hregistered : (s.chain.readIdentity wallet).registered with
  | false =>
      rw [if_pos hregistered] at hactive
      exact .inr ⟨⟨_, alone_exceptT_bind_error hactive _⟩, by simp⟩
  | true =>
      rw [if_neg (by simp [hregistered])] at hactive
      cases hlive : (s.chain.readIdentity wallet).active with
      | false =>
          rw [if_pos hlive] at hactive
          exact .inr ⟨⟨_, alone_exceptT_bind_error hactive _⟩, by simp⟩
      | true =>
          rw [if_neg (by simp [hlive])] at hactive
          rw [alone_exceptT_bind hactive]
          have hallowed : alone (ServerState.answer rt)
              (orInternal (serverReads.readHasPermission orgId.1 wallet PERM_MINT_ASSETS)).run s =
                (.ok (s.chain.readHasPermission orgId.1 wallet PERM_MINT_ASSETS), s) := by
            show alone _ (orInternal (onSafe orgId.1 _)).run s = _
            rw [onSafe_safeInt]
            rfl
          have hrole : alone (ServerState.answer rt)
              (orInternal (serverReads.readEffectiveRole orgId.1 wallet)).run s =
                (.ok (s.chain.readEffectiveRole orgId.1 wallet), s) := by
            show alone _ (orInternal (onSafe orgId.1 _)).run s = _
            rw [onSafe_safeInt]
            rfl
          have hfound : (permissionList.find? fun entry => entry.1 = PermissionKey.mintAssets) =
              some (.mintAssets, PERM_MINT_ASSETS) := rfl
          simp only [hfound]
          rw [alone_exceptT_bind hallowed]
          cases s.chain.readHasPermission orgId.1 wallet PERM_MINT_ASSETS with
          | false => exact .inr ⟨⟨_, rfl⟩, by simp⟩
          | true =>
              refine .inl ⟨⟨⟨wallet, s.chain.readEffectiveRole orgId.1 wallet⟩, ?_⟩, by simp⟩
              exact alone_exceptT_bind hrole _

/-- Exactly those who may mint are let through. -/
theorem alone_authorize (s : ServerState σ) (session : SessionData) (orgId : SafeInt) :
    (∃ caller, alone (ServerState.answer rt) (authorize session orgId.1 .mintAssets).run s =
        (.ok caller, s)) ∧ MayMint s session orgId.1 ∨
      (∃ e, alone (ServerState.answer rt) (authorize session orgId.1 .mintAssets).run s =
        (.error e, s)) ∧ ¬ MayMint s session orgId.1 := by
  have hsession : alone (ServerState.answer rt)
      (ExceptT.lift (sessionWallet session) : Route (Option Address)).run s =
        (.ok (session.walletAt s.clock), s) :=
    alone_exceptT_lift (alone_sessionWallet rfl session)
  unfold authorize MayMint
  rw [alone_exceptT_bind hsession]
  cases session.walletAt s.clock with
  | none => exact .inr ⟨⟨_, rfl⟩, by simp⟩
  | some wallet => simpa using alone_requirePermission rt s wallet orgId

end Permission

/-! ## Releasing rows -/

/-- The row after the claims with these ids have been released. -/
def StoredAsset.releasedIn (ids : List String) (row : StoredAsset) : StoredAsset :=
  if row.id ∈ ids then { row with tokenId := none, mintTxHash := none } else row

@[simp] theorem StoredAsset.id_releasedIn (ids : List String) (row : StoredAsset) :
    (row.releasedIn ids).id = row.id := by
  unfold releasedIn
  split <;> rfl

theorem StoredAsset.releasedIn_nil (row : StoredAsset) : row.releasedIn [] = row :=
  if_neg (by simp)

theorem StoredAsset.releasedIn_cons (id : String) (ids : List String) (row : StoredAsset) :
    (row.releasedIn [id]).releasedIn ids = row.releasedIn (id :: ids) := by
  unfold releasedIn
  by_cases hid : row.id = id <;> by_cases hids : row.id ∈ ids <;> simp [hid, hids]

theorem StoredAsset.tokenKey_releasedIn {ids : List String} {row : StoredAsset}
    {key : Option Address × Nat} (h : (row.releasedIn ids).tokenKey = some key) :
    row.tokenKey = some key := by
  unfold releasedIn at h
  split at h
  · cases h
  · exact h

/-- Releasing a claim is always possible. -/
theorem update_release (store : AssetStore) {tokenId : Nat} {id : String}
    (hheld : ∀ row ∈ store.rows, row.id = id → row.tokenId = some tokenId) :
    let released := store.update { id, tokenId := some (some tokenId) }
      { binding := some (none, none) }
    (∃ ids, released.1 = .ok ids) ∧ released.2.migrated = store.migrated ∧
      released.2.rows = store.rows.map (·.releasedIn [id]) := by
  have hrows : KeyedList.modify
      (AssetFilter.admits { id, tokenId := some (some tokenId) })
      (AssetPatch.onto { binding := some (none, none) }) store.rows =
        store.rows.map (·.releasedIn [id]) := by
    unfold KeyedList.modify
    refine List.map_congr_left fun row hrow => ?_
    unfold AssetFilter.admits StoredAsset.releasedIn
    by_cases hid : row.id = id
    · have htoken := hheld row hrow hid
      simp [hid, htoken, AssetPatch.onto]
    · simp [hid]
  have hlawful : StoredAsset.Lawful (store.rows.map (·.releasedIn [id])) :=
    store.lawful.map (fun row => row.id_releasedIn _) fun row key => StoredAsset.tokenKey_releasedIn
  rw [← hrows] at hlawful
  obtain ⟨hresult, hafter, hmigrated⟩ := store.update_of_lawful (by rfl) hlawful
  exact ⟨⟨_, hresult⟩, hmigrated, hafter.trans hrows⟩

/-! ## Binding a draft -/

/-- Somebody else holds the token under this stamp. -/
def AssetStore.Taken (store : AssetStore) (row : StoredAsset) (contractAddress : Option Address)
    (tokenId : Nat) : Prop :=
  ∃ holder ∈ store.rows, holder.id ≠ row.id ∧ holder.tokenKey = some (contractAddress, tokenId)

/-- The stamp of a row once it has been bound. -/
def AssetPatch.contractOn (patch : AssetPatch) (row : StoredAsset) : Option Address :=
  (patch.stamp.map fun D => some D.contractAddress).getD row.contractAddress

/-- A draft can be bound unless somebody else holds the token under the same stamp. -/
theorem lawful_bind {store : AssetStore} {row : StoredAsset} (hrow : row ∈ store.rows)
    (hdraft : row.tokenId = none) {patch : AssetPatch} {tokenId : Nat} {txHash : Option String}
    (hpatch : patch.binding = some (some tokenId, txHash)) :
    StoredAsset.Lawful (KeyedList.modify
        (AssetFilter.admits { id := row.id, tokenId := some none }) patch.onto store.rows) ↔
      ¬ store.Taken row (patch.contractOn row) tokenId := by
  -- The statement changes this row and no other.
  have hadmits : ∀ other ∈ store.rows,
      AssetFilter.admits { id := row.id, tokenId := some none } other = true ↔ other = row := by
    intro other hother
    unfold AssetFilter.admits
    constructor
    · intro h
      simp only [Bool.and_eq_true, beq_iff_eq] at h
      exact store.eq_of_id hother hrow h.1
    · rintro rfl
      simp [hdraft]
  have hkey : (patch.onto row).tokenKey = some (patch.contractOn row, tokenId) := by
    simp [StoredAsset.tokenKey, AssetPatch.onto, hpatch, AssetPatch.contractOn]
  have hself : KeyedList.modify (AssetFilter.admits { id := row.id, tokenId := some none })
      patch.onto store.rows = store.rows.map fun other =>
        if other = row then patch.onto other else other := by
    unfold KeyedList.modify
    refine List.map_congr_left fun other hother => ?_
    simp only [hadmits other hother]
  have hid : ∀ other, (if other = row then patch.onto other else other).id = other.id := by
    intro other
    split <;> rfl
  rw [hself, StoredAsset.lawful_iff]
  constructor
  · rintro ⟨-, hkeys⟩ ⟨holder, hholder, hne, hheld⟩
    have hother : holder ≠ row := fun heq => hne (heq ▸ rfl)
    have hsame := hkeys (patch.onto row) (List.mem_map.2 ⟨row, hrow, if_pos rfl⟩) holder
      (List.mem_map.2 ⟨holder, hholder, if_neg hother⟩) _ hkey hheld
    exact hne (congrArg (·.id) hsame).symm
  · intro hfree
    refine ⟨?_, ?_⟩
    · rw [List.map_map]
      exact (List.map_congr_left fun other _ => hid other) ▸ store.lawful.primaryKey
    · intro a ha b hb key hakey hbkey
      obtain ⟨a, hmem, rfl⟩ := List.mem_map.1 ha
      obtain ⟨b, hmem', rfl⟩ := List.mem_map.1 hb
      by_cases harow : a = row <;> by_cases hbrow : b = row
      · rw [harow, hbrow]
      · rw [if_pos harow, harow, hkey] at hakey
        rw [if_neg hbrow, ← hakey] at hbkey
        exact absurd ⟨b, hmem', fun heq => hbrow (store.eq_of_id hmem' hrow heq), hbkey⟩ hfree
      · rw [if_pos hbrow, hbrow, hkey] at hbkey
        rw [if_neg harow, ← hbkey] at hakey
        exact absurd ⟨a, hmem, fun heq => harow (store.eq_of_id hmem hrow heq), hakey⟩ hfree
      · rw [if_neg harow] at hakey ⊢
        rw [if_neg hbrow] at hbkey ⊢
        exact (StoredAsset.lawful_iff.1 store.lawful).2 a hmem b hmem' key hakey hbkey

/-- The statement that binds a draft, performed. -/
theorem update_bind {store : AssetStore} {row : StoredAsset} (hrow : row ∈ store.rows)
    (hdraft : row.tokenId = none) (patch : AssetPatch) {tokenId : Nat} {txHash : Option String}
    (hpatch : patch.binding = some (some tokenId, txHash))
    (hlacks : store.lacks patch.stamp = false) :
    let result := store.update { id := row.id, tokenId := some none } patch
    (∃ id ids, result.1 = .ok (id :: ids) ∧ ¬ store.Taken row (patch.contractOn row) tokenId) ∨
      result = (.error AssetStore.duplicateKey, store) ∧
        store.Taken row (patch.contractOn row) tokenId := by
  by_cases htaken : store.Taken row (patch.contractOn row) tokenId
  · refine .inr ⟨?_, htaken⟩
    have hnot := mt (lawful_bind hrow hdraft hpatch).1 (not_not_intro htaken)
    unfold AssetStore.update
    rw [dif_neg (by simp [hlacks])]
    exact dif_neg hnot
  · refine .inl ?_
    have hupdate := (store.update_of_lawful hlacks ((lawful_bind hrow hdraft hpatch).2 htaken)).1
    -- The draft is one of the rows that the statement reports.
    have hmem : row.id ∈ (store.rows.filter
        (AssetFilter.admits { id := row.id, tokenId := some none })).map (·.id) := by
      refine List.mem_map_of_mem (List.mem_filter.2 ⟨hrow, ?_⟩)
      simp [AssetFilter.admits, hdraft]
    obtain ⟨id, ids, hids⟩ := List.exists_cons_of_ne_nil (List.ne_nil_of_mem hmem)
    exact ⟨id, ids, hupdate.trans (congrArg _ hids), htaken⟩

/-! ## Up to the claims -/

section Confirm

variable [Js.CaseMapping] {σ : Type} [ERC721 σ] (rt : AssetRuntime)
  (fails : AssetOp → Option DbError) (created : String × String)

/-- The claims on a token as they are read, unless that fails. -/
def claimsRead (store : AssetStore) (tokenId : Nat) (keepAssetId : String) :
    Option (List ClaimRow) :=
  let claims (withContract : Bool) :=
    some ((store.holders tokenId keepAssetId).map (·.claim withContract))
  let legacy := if fails (.selectClaims false tokenId keepAssetId) = none then claims false else none
  match fails (.selectClaims true tokenId keepAssetId) with
  | none => if store.migrated then claims true else legacy
  | some e => if isUnknownColumn e then legacy else none

/-- A confirmation comes as far as the claims on its token. -/
structure ConfirmReady (s : AssetServerState σ) (session : SessionData) (assetId : String)
    (body : Option ConfirmBody) (confirmed : ConfirmBody) (row : StoredAsset)
    (chainAsset : AssetState) (claims : List ClaimRow) : Prop where
  body : body = some confirmed
  accepted : confirmed.accepted = true
  loads : fails (.selectDraft assetId) = none
  found : s.assets.find assetId = some row
  isDraft : row.tokenId = none
  permitted : MayMint s.server session row.orgId.1
  minted : s.server.chain.readAsset confirmed.tokenId = .ok (some chainAsset)
  organization : chainAsset.orgId = row.orgId.1
  anchored : sameHex (hex chainAsset.assetHash) row.assetHash = true
  claims : claimsRead fails s.assets confirmed.tokenId assetId = some claims

variable {rt fails created}

abbrev answering (rt : AssetRuntime) (fails : AssetOp → Option DbError) (created : String × String) :
    AssetServerState σ → (op : AssetOp) → op.Res × AssetServerState σ :=
  AssetServerState.answer rt.server fails created

variable (rt fails created) in
omit [Js.CaseMapping] in
/-- What needs nothing of the table is done by the server. -/
theorem alone_onServer {α : Type} (p : Route α) (s : AssetServerState σ) :
    alone (answering rt fails created) (onServer p).run s =
      ((alone (ServerState.answer rt.server) p.run s.server).1,
        { s with server := (alone (ServerState.answer rt.server) p.run s.server).2 }) :=
  alone_embed AssetServerState.server (fun s server => { s with server }) (fun _ _ => rfl)
    (fun _ => rfl) (fun _ _ _ => rfl) (fun _ _ => rfl) p.run s

variable (rt fails created) in
omit [Js.CaseMapping] in
theorem alone_loadDraft (s : AssetServerState σ) (session : SessionData) (assetId : String) :
    (∃ row, alone (answering rt fails created) (loadDraft session assetId).run s =
          (.ok row.draftRow, s) ∧
        fails (.selectDraft assetId) = none ∧ s.assets.find assetId = some row ∧
        row.tokenId = none ∧ MayMint s.server session row.orgId.1) ∨
      (∃ e, alone (answering rt fails created) (loadDraft session assetId).run s = (.error e, s)) ∧
        ∀ row, fails (.selectDraft assetId) = none → s.assets.find assetId = some row →
          row.tokenId = none → ¬ MayMint s.server session row.orgId.1 := by
  unfold loadDraft
  cases hfails : fails (.selectDraft assetId) with
  | some e =>
      have hanswer : alone (answering rt fails created) (call (AssetOp.selectDraft assetId)) s =
          (.error e, s) := by
        simp only [alone_call, AssetServerState.answer, hfails]
      refine .inr ⟨⟨couldNotLoadDraft, ?_⟩, fun _ hnone => by cases hnone⟩
      exact alone_exceptT_bind_error (alone_attempt_error hanswer _) _
  | none =>
      have hanswer : alone (answering rt fails created) (call (AssetOp.selectDraft assetId)) s =
          (.ok ((s.assets.find assetId).map (·.draftRow)), s) := by
        simp only [alone_call, AssetServerState.answer, hfails]
      rw [alone_exceptT_bind (alone_attempt hanswer _)]
      cases hfound : s.assets.find assetId with
      | none => exact .inr ⟨⟨_, rfl⟩, fun _ _ hsome => by cases hsome⟩
      | some row =>
          rw [Option.map_some, require_some_bind]
          cases hbound : row.tokenId with
          | some tokenId =>
              have hdraft : row.draftRow.tokenId = some tokenId := hbound
              rw [hdraft]
              refine .inr ⟨⟨_, rfl⟩, fun row' _ hrow hnone => ?_⟩
              cases hrow
              rw [hbound] at hnone
              cases hnone
          | none =>
              have hdraft : row.draftRow.tokenId = none := hbound
              rw [hdraft]
              have hguard := alone_onServer rt fails created
                (authorize session row.orgId.1 .mintAssets) s
              rcases alone_authorize rt.server s.server session row.orgId with
                ⟨⟨caller, hok⟩, hmay⟩ | ⟨⟨e, herror⟩, hnot⟩
              · rw [hok] at hguard
                exact .inl ⟨row, alone_exceptT_bind hguard _, rfl, rfl, hbound, hmay⟩
              · rw [herror] at hguard
                refine .inr ⟨⟨e, alone_exceptT_bind_error hguard _⟩, fun row' _ hrow _ => ?_⟩
                cases hrow
                exact hnot

variable (rt fails created) in
theorem alone_verifyOnChain (s : AssetServerState σ) (row : StoredAsset) (tokenId : Nat) :
    (∃ chainAsset, alone (answering rt fails created) (verifyOnChain row.draftRow tokenId).run s =
          (.ok chainAsset, s) ∧
        s.server.chain.readAsset tokenId = .ok (some chainAsset) ∧
        chainAsset.orgId = row.orgId.1 ∧
        sameHex (hex chainAsset.assetHash) row.assetHash = true) ∨
      (∃ e, alone (answering rt fails created) (verifyOnChain row.draftRow tokenId).run s =
          (.error e, s)) ∧
        ∀ chainAsset, s.server.chain.readAsset tokenId = .ok (some chainAsset) →
          chainAsset.orgId = row.orgId.1 →
          ¬ sameHex (hex chainAsset.assetHash) row.assetHash = true := by
  have hanswer : alone (answering rt fails created) (call (AssetOp.server (.readAsset tokenId))) s =
      (s.server.chain.readAsset tokenId, s) := rfl
  unfold verifyOnChain
  cases hread : s.server.chain.readAsset tokenId with
  | error e =>
      rw [hread] at hanswer
      refine .inr ⟨⟨.internal, ?_⟩, fun _ hok => by cases hok⟩
      exact alone_exceptT_bind_error (alone_attempt_error hanswer _) _
  | ok found =>
      rw [hread] at hanswer
      rw [alone_exceptT_bind (alone_attempt hanswer _)]
      cases found with
      | none => exact .inr ⟨⟨_, rfl⟩, fun _ hok => by cases hok⟩
      | some chainAsset =>
          rw [require_some_bind]
          by_cases horg : chainAsset.orgId = row.orgId.1
          · have hsame : decide (chainAsset.orgId ≠ row.draftRow.orgId.1) = false :=
              decide_eq_false (not_not_intro horg)
            rw [hsame, refuseIf_false_bind]
            cases hhash : sameHex (hex chainAsset.assetHash) row.assetHash with
            | false =>
                have hdraft : sameHex (hex chainAsset.assetHash) row.draftRow.assetHash = false := hhash
                rw [hdraft]
                refine .inr ⟨⟨_, rfl⟩, fun chainAsset' hok _ => ?_⟩
                cases hok
                simp [hhash]
            | true =>
                have hdraft : sameHex (hex chainAsset.assetHash) row.draftRow.assetHash = true := hhash
                rw [hdraft]
                exact .inl ⟨chainAsset, rfl, rfl, horg, hhash⟩
          · have hdiffer : decide (chainAsset.orgId ≠ row.draftRow.orgId.1) = true :=
              decide_eq_true horg
            rw [hdiffer]
            refine .inr ⟨⟨_, rfl⟩, fun chainAsset' hok horg' => ?_⟩
            cases hok
            exact absurd horg' horg

omit [Js.CaseMapping] in
theorem alone_readClaims_ok {s : AssetServerState σ} {tokenId : Nat} {keepAssetId : String}
    {claims : List ClaimRow}
    (h : answering rt fails created s (.selectClaims true tokenId keepAssetId) = (.ok claims, s)) :
    alone (answering rt fails created) (readClaims tokenId keepAssetId).run s = (.ok claims, s) := by
  have hfirst : alone (answering rt fails created)
      (ask (AssetOp.selectClaims true tokenId keepAssetId) :
        AssetRoute (Except DbError (List ClaimRow))).run s = _ := alone_ask _
  rw [h] at hfirst
  unfold readClaims
  rw [alone_exceptT_bind hfirst]
  rfl

omit [Js.CaseMapping] in
/-- Where the first select reports a missing column, a second one does without it. -/
theorem alone_readClaims_lacking {s : AssetServerState σ} {tokenId : Nat} {keepAssetId : String}
    {e : DbError} (he : isUnknownColumn e = true)
    (h : answering rt fails created s (.selectClaims true tokenId keepAssetId) = (.error e, s)) :
    alone (answering rt fails created) (readClaims tokenId keepAssetId).run s =
      (if fails (.selectClaims false tokenId keepAssetId) = none then
          .ok ((s.assets.holders tokenId keepAssetId).map (·.claim false))
        else .error (couldNotCheck tokenId), s) := by
  have hfirst : alone (answering rt fails created)
      (ask (AssetOp.selectClaims true tokenId keepAssetId) :
        AssetRoute (Except DbError (List ClaimRow))).run s = _ := alone_ask _
  rw [h] at hfirst
  unfold readClaims
  rw [alone_exceptT_bind hfirst]
  show alone _ (if isUnknownColumn e = true then _ else _ : AssetRoute (List ClaimRow)).run s = _
  rw [if_pos he]
  cases hfails : fails (.selectClaims false tokenId keepAssetId) with
  | none =>
      rw [if_pos rfl]
      refine alone_attempt ?_ _
      simp only [alone_call, AssetServerState.answer, hfails]
      rfl
  | some e' =>
      rw [if_neg (by simp)]
      refine alone_attempt_error (d := e') ?_ _
      simp only [alone_call, AssetServerState.answer, hfails]

omit [Js.CaseMapping] in
theorem alone_readClaims_error {s : AssetServerState σ} {tokenId : Nat} {keepAssetId : String}
    {e : DbError} (he : isUnknownColumn e = false)
    (h : answering rt fails created s (.selectClaims true tokenId keepAssetId) = (.error e, s)) :
    alone (answering rt fails created) (readClaims tokenId keepAssetId).run s =
      (.error (couldNotCheck tokenId), s) := by
  have hfirst : alone (answering rt fails created)
      (ask (AssetOp.selectClaims true tokenId keepAssetId) :
        AssetRoute (Except DbError (List ClaimRow))).run s = _ := alone_ask _
  rw [h] at hfirst
  unfold readClaims
  rw [alone_exceptT_bind hfirst]
  show alone _ (if isUnknownColumn e = true then _ else _ : AssetRoute (List ClaimRow)).run s = _
  rw [if_neg (by simp [he])]
  rfl

variable (rt fails created) in
omit [Js.CaseMapping] in
theorem alone_readClaims (s : AssetServerState σ) (tokenId : Nat) (keepAssetId : String) :
    alone (answering rt fails created) (readClaims tokenId keepAssetId).run s =
      (match claimsRead fails s.assets tokenId keepAssetId with
        | some claims => .ok claims
        | none => .error (couldNotCheck tokenId), s) := by
  unfold claimsRead
  cases hfails : fails (.selectClaims true tokenId keepAssetId) with
  | none =>
      cases hmigrated : s.assets.migrated with
      | true =>
          refine alone_readClaims_ok ?_
          simp only [AssetServerState.answer, hfails, AssetStore.select, hmigrated]
          rfl
      | false =>
          have hfirst : answering rt fails created s (.selectClaims true tokenId keepAssetId) =
              (.error AssetStore.missingColumn, s) := by
            simp only [AssetServerState.answer, hfails, AssetStore.select, hmigrated]
            rfl
          rw [alone_readClaims_lacking rfl hfirst]
          by_cases hlegacy : fails (.selectClaims false tokenId keepAssetId) = none
          · simp [hlegacy]
          · simp [hlegacy]
  | some e =>
      have hfirst : answering rt fails created s (.selectClaims true tokenId keepAssetId) =
          (.error e, s) := by
        simp only [AssetServerState.answer, hfails]
      cases he : isUnknownColumn e with
      | true =>
          rw [alone_readClaims_lacking he hfirst]
          by_cases hlegacy : fails (.selectClaims false tokenId keepAssetId) = none
          · simp [he, hlegacy]
          · simp [he, hlegacy]
      | false =>
          rw [alone_readClaims_error he hfirst]
          simp [he]

/-! ## The claims -/

variable (rt fails) in
/-- The claim does not stop the confirmation. -/
def passes (tokenId : Nat) (chainAssetHash : Bytes32) (claim : ClaimRow) : Bool :=
  match classifyClaim claim chainAssetHash rt.deployment.contractAddress with
  | .otherDeployment => true
  | .conflict => false
  | .release => (fails (releaseOp tokenId claim)).isNone

variable (rt) in
def isContradicted (chainAssetHash : Bytes32) (claim : ClaimRow) : Bool :=
  classifyClaim claim chainAssetHash rt.deployment.contractAddress = .release

variable (rt fails) in
/-- The claims that are released: those that the chain contradicts, up to the first claim that stops
    the confirmation. -/
def releasedClaims (tokenId : Nat) (chainAssetHash : Bytes32) (claims : List ClaimRow) :
    List ClaimRow :=
  (claims.takeWhile (passes rt fails tokenId chainAssetHash)).filter
    (isContradicted rt chainAssetHash)

theorem releasedClaims_stop {tokenId : Nat} {chainAssetHash : Bytes32} {claim : ClaimRow}
    (h : passes rt fails tokenId chainAssetHash claim = false) (claims : List ClaimRow) :
    releasedClaims rt fails tokenId chainAssetHash (claim :: claims) = [] := by
  unfold releasedClaims
  rw [List.takeWhile_cons_of_neg (by simp [h])]
  rfl

theorem releasedClaims_pass {tokenId : Nat} {chainAssetHash : Bytes32} {claim : ClaimRow}
    (h : passes rt fails tokenId chainAssetHash claim = true) (claims : List ClaimRow) :
    releasedClaims rt fails tokenId chainAssetHash (claim :: claims) =
      if isContradicted rt chainAssetHash claim then
        claim :: releasedClaims rt fails tokenId chainAssetHash claims
      else releasedClaims rt fails tokenId chainAssetHash claims := by
  unfold releasedClaims
  rw [List.takeWhile_cons_of_pos h, List.filter_cons]

/-- Where no claim stops the confirmation, all that the chain contradicts are released. -/
theorem mem_releasedClaims {tokenId : Nat} {chainAssetHash : Bytes32} {claims : List ClaimRow}
    (hpass : claims.all (passes rt fails tokenId chainAssetHash) = true) {claim : ClaimRow} :
    claim ∈ releasedClaims rt fails tokenId chainAssetHash claims ↔
      claim ∈ claims ∧ isContradicted rt chainAssetHash claim = true := by
  unfold releasedClaims
  rw [List.takeWhile_eq_self_iff.2 (List.all_eq_true.1 hpass), List.mem_filter]

variable (rt created) in
omit [Js.CaseMapping] in
/-- The row that a claim was read from is released. -/
theorem alone_release {s : AssetServerState σ} {tokenId : Nat} {claim : ClaimRow}
    (hfails : fails (releaseOp tokenId claim) = none)
    (hheld : ∀ row ∈ s.assets.rows, row.id = claim.id → row.tokenId = some tokenId) :
    ∃ ids s', alone (answering rt fails created) (call (releaseOp tokenId claim)) s = (.ok ids, s') ∧
      s'.server = s.server ∧ s'.assets.migrated = s.assets.migrated ∧
        s'.assets.rows = s.assets.rows.map (·.releasedIn [claim.id]) := by
  obtain ⟨⟨ids, hok⟩, hmigrated, hrows⟩ := update_release s.assets hheld
  refine ⟨ids, { s with assets := (s.assets.update
    { id := claim.id, tokenId := some (some tokenId) } { binding := some (none, none) }).2 },
    ?_, rfl, hmigrated, hrows⟩
  unfold releaseOp at hfails ⊢
  simp only [alone_call, AssetServerState.answer, hfails]
  exact Prod.ext hok rfl

omit [Js.CaseMapping] in
/-- The other claims are still held where they were. -/
theorem held_after_release {rows rows' : List StoredAsset} {tokenId : Nat} {claim : ClaimRow}
    {claims : List ClaimRow} (hnew : claim.id ∉ claims.map (·.id))
    (hheld : ∀ claim' ∈ claims, ∀ row ∈ rows, row.id = claim'.id → row.tokenId = some tokenId)
    (hrows : rows' = rows.map (·.releasedIn [claim.id])) :
    ∀ claim' ∈ claims, ∀ row ∈ rows', row.id = claim'.id → row.tokenId = some tokenId := by
  intro claim' hclaim' row' hrow' hid'
  obtain ⟨row, hrow, rfl⟩ := List.mem_map.1 (hrows ▸ hrow')
  rw [StoredAsset.id_releasedIn] at hid'
  have hother : row.id ∉ [claim.id] := by
    rw [hid', List.mem_singleton]
    intro heq
    exact hnew (List.mem_map.2 ⟨claim', hclaim', heq⟩)
  rw [StoredAsset.releasedIn, if_neg hother]
  exact hheld claim' hclaim' row hrow hid'

variable (rt fails created) in
/-- The claims one after the other: the contradicted ones are released up to the first that stops the
    confirmation. -/
theorem alone_releaseContradicted (tokenId : Nat) (chainAssetHash : Bytes32) (claims : List ClaimRow)
    (s : AssetServerState σ) (hids : (claims.map (·.id)).Nodup)
    (hheld : ∀ claim ∈ claims, ∀ row ∈ s.assets.rows, row.id = claim.id →
      row.tokenId = some tokenId) :
    let final := alone (answering rt fails created)
      (releaseContradicted rt tokenId chainAssetHash claims).run s
    final.2.server = s.server ∧ final.2.assets.migrated = s.assets.migrated ∧
      final.2.assets.rows = s.assets.rows.map
        (·.releasedIn ((releasedClaims rt fails tokenId chainAssetHash claims).map (·.id))) ∧
      if claims.all (passes rt fails tokenId chainAssetHash) then final.1 = .ok ()
      else ∃ e, final.1 = .error e := by
  have hnone : ∀ rows : List StoredAsset, rows = rows.map (·.releasedIn []) := fun rows => by
    rw [List.map_congr_left fun row _ => row.releasedIn_nil, List.map_id']
  induction claims generalizing s with
  | nil => exact ⟨rfl, rfl, hnone _, rfl⟩
  | cons claim claims ih =>
      obtain ⟨hnew, hids⟩ := List.nodup_cons.1 hids
      have hheldRest := fun claim' hclaim' => hheld claim' (List.mem_cons_of_mem claim hclaim')
      cases hverdict : classifyClaim claim chainAssetHash rt.deployment.contractAddress with
      | otherDeployment =>
          have hpass : passes rt fails tokenId chainAssetHash claim = true := by
            unfold passes
            rw [hverdict]
          have hkept : isContradicted rt chainAssetHash claim = false := by
            simp [isContradicted, hverdict]
          have hprog : releaseContradicted rt tokenId chainAssetHash (claim :: claims) =
              releaseContradicted rt tokenId chainAssetHash claims := by
            rw [releaseContradicted, hverdict]
          rw [hprog, releasedClaims_pass hpass, hkept, List.all_cons, hpass, Bool.true_and]
          exact ih s hids hheldRest
      | conflict =>
          have hstop : passes rt fails tokenId chainAssetHash claim = false := by
            unfold passes
            rw [hverdict]
          have hprog : releaseContradicted rt tokenId chainAssetHash (claim :: claims) =
              throw (alreadyBound tokenId claim) := by
            rw [releaseContradicted, hverdict]
          rw [hprog, releasedClaims_stop hstop, List.all_cons, hstop]
          exact ⟨rfl, rfl, hnone _, _, rfl⟩
      | release =>
          have hcontradicted : isContradicted rt chainAssetHash claim = true := by
            simp [isContradicted, hverdict]
          have hprog : releaseContradicted rt tokenId chainAssetHash (claim :: claims) =
              (attempt (call (releaseOp tokenId claim)) (fun _ => couldNotRelease tokenId) >>=
                fun _ : List String => releaseContradicted rt tokenId chainAssetHash claims) := by
            rw [releaseContradicted, hverdict]
          rw [hprog]
          cases hfails : fails (releaseOp tokenId claim) with
          | some e =>
              have hstop : passes rt fails tokenId chainAssetHash claim = false := by
                unfold passes
                rw [hverdict, hfails]
                rfl
              have hanswer : alone (answering rt fails created) (call (releaseOp tokenId claim)) s =
                  (.error e, s) := by
                unfold releaseOp at hfails ⊢
                simp only [alone_call, AssetServerState.answer, hfails]
              rw [releasedClaims_stop hstop, List.all_cons, hstop,
                alone_exceptT_bind_error (alone_attempt_error hanswer _)]
              exact ⟨rfl, rfl, hnone _, _, rfl⟩
          | none =>
              have hpass : passes rt fails tokenId chainAssetHash claim = true := by
                unfold passes
                rw [hverdict, hfails]
                rfl
              obtain ⟨ids, s', hanswer, hserver, hmigrated, hrows⟩ :=
                alone_release rt created hfails (hheld claim (List.mem_cons_self ..))
              rw [alone_exceptT_bind (alone_attempt hanswer _), releasedClaims_pass hpass,
                hcontradicted, List.all_cons, hpass, Bool.true_and]
              obtain ⟨hserver', hmigrated', hrows', hresult⟩ :=
                ih s' hids (held_after_release hnew hheldRest hrows)
              refine ⟨hserver'.trans hserver, hmigrated'.trans hmigrated, ?_, hresult⟩
              rw [hrows', hrows, List.map_map, if_pos rfl, List.map_cons]
              exact List.map_congr_left fun row _ => row.releasedIn_cons claim.id _

/-! ## The binding -/

/-- A statement that binds the draft is performed, or reports why it is not. -/
inductive BindAnswer (fails : AssetOp → Option DbError) (s : AssetServerState σ) (row : StoredAsset)
    (body : ConfirmBody) (stamp : Option AssetDeployment) :
    Except DbError (List String) × AssetServerState σ → Prop where
  | failed {e : DbError} : fails (bindOp row.id body stamp) = some e →
      BindAnswer fails s row body stamp (.error e, s)
  | lacking : fails (bindOp row.id body stamp) = none → s.assets.lacks stamp = true →
      BindAnswer fails s row body stamp (.error AssetStore.unknownColumn, s)
  | taken : fails (bindOp row.id body stamp) = none → s.assets.lacks stamp = false →
      s.assets.Taken row ((stamp.map fun D => some D.contractAddress).getD row.contractAddress)
        body.tokenId → BindAnswer fails s row body stamp (.error AssetStore.duplicateKey, s)
  | bound {id : String} {ids : List String} {s' : AssetServerState σ} :
      fails (bindOp row.id body stamp) = none → s.assets.lacks stamp = false →
      ¬ s.assets.Taken row ((stamp.map fun D => some D.contractAddress).getD row.contractAddress)
        body.tokenId → BindAnswer fails s row body stamp (.ok (id :: ids), s')

variable (rt fails created) in
omit [Js.CaseMapping] in
theorem bindAnswer (s : AssetServerState σ) {row : StoredAsset} (hrow : row ∈ s.assets.rows)
    (hdraft : row.tokenId = none) (body : ConfirmBody) (stamp : Option AssetDeployment) :
    BindAnswer fails s row body stamp
      (answering rt fails created s (bindOp row.id body stamp)) := by
  cases hfails : fails (bindOp row.id body stamp) with
  | some e =>
      have hanswer : answering rt fails created s (bindOp row.id body stamp) = (.error e, s) := by
        unfold bindOp at hfails ⊢
        simp only [AssetServerState.answer, hfails]
      rw [hanswer]
      exact .failed hfails
  | none =>
      have hanswer : answering rt fails created s (bindOp row.id body stamp) =
          s.withAssets (s.assets.update { id := row.id, tokenId := some none }
            { binding := some (some body.tokenId, some body.txHash), stamp }) := by
        unfold bindOp at hfails ⊢
        simp only [AssetServerState.answer, hfails]
      cases hlacks : s.assets.lacks stamp with
      | true =>
          have hupdate : s.assets.update { id := row.id, tokenId := some none }
              { binding := some (some body.tokenId, some body.txHash), stamp } =
                (.error AssetStore.unknownColumn, s.assets) := by
            unfold AssetStore.update
            exact dif_pos hlacks
          rw [hanswer, hupdate]
          exact .lacking hfails hlacks
      | false =>
          rcases update_bind hrow hdraft
            { binding := some (some body.tokenId, some body.txHash), stamp } rfl hlacks with
            ⟨id, ids, hok, hfree⟩ | ⟨hupdate, htaken⟩
          · have heq : s.withAssets (s.assets.update { id := row.id, tokenId := some none }
                { binding := some (some body.tokenId, some body.txHash), stamp }) =
                  (.ok (id :: ids), (s.withAssets (s.assets.update
                    { id := row.id, tokenId := some none }
                    { binding := some (some body.tokenId, some body.txHash), stamp })).2) :=
              Prod.ext hok rfl
            rw [hanswer, heq]
            exact .bound hfails hlacks hfree
          · rw [hanswer, hupdate]
            exact .taken hfails hlacks htaken

/-- The stamped statement reports a missing column, of its own or as a failure. -/
def Unstampable (rt : AssetRuntime) (fails : AssetOp → Option DbError) (store : AssetStore)
    (row : StoredAsset) (body : ConfirmBody) : Prop :=
  (fails (bindOp row.id body (some rt.deployment)) = none ∧ store.migrated = false) ∨
    ∃ e, fails (bindOp row.id body (some rt.deployment)) = some e ∧ isUnknownColumn e = true

variable (rt fails) in
/-- Either statement of `bindToken` binds the draft. -/
def BindSucceeds (store : AssetStore) (row : StoredAsset) (body : ConfirmBody) : Prop :=
  (fails (bindOp row.id body (some rt.deployment)) = none ∧ store.migrated = true ∧
      ¬ store.Taken row (some rt.deployment.contractAddress) body.tokenId) ∨
    (Unstampable rt fails store row body ∧ fails (bindOp row.id body none) = none ∧
      ¬ store.Taken row row.contractAddress body.tokenId)

omit [Js.CaseMapping] in
/-- Without the deployment, where the first statement has reported a missing column. -/
theorem alone_tryBind_unstamped (s : AssetServerState σ) {row : StoredAsset}
    (hrow : row ∈ s.assets.rows) (hdraft : row.tokenId = none) (body : ConfirmBody) {e : DbError}
    (he : isUnknownColumn e = true) (hunstampable : Unstampable rt fails s.assets row body)
    (hstamped : answering rt fails created s (bindOp row.id body (some rt.deployment)) =
      (.error e, s)) :
    (∃ id ids s', alone (answering rt fails created) (tryBind rt row.id body).run s =
        (.ok (.ok (id :: ids)), s') ∧ BindSucceeds rt fails s.assets row body) ∨
      ∃ e, alone (answering rt fails created) (tryBind rt row.id body).run s =
        (.ok (.error e), s) ∧ ¬ BindSucceeds rt fails s.assets row body := by
  have hprog : alone (answering rt fails created) (tryBind rt row.id body).run s =
      (.ok (answering rt fails created s (bindOp row.id body none)).1,
        (answering rt fails created s (bindOp row.id body none)).2) := by
    have hfirst : alone (answering rt fails created)
        (ask (bindOp row.id body (some rt.deployment)) :
          AssetRoute (Except DbError (List String))).run s = (.ok (.error e), s) := by
      rw [alone_ask, hstamped]
    unfold tryBind
    rw [alone_exceptT_bind hfirst]
    show alone _ (if isUnknownColumn e = true then _ else _ :
      AssetRoute (Except DbError (List String))).run s = _
    rw [if_pos he, alone_ask]
  have hnotFirst : ¬ (fails (bindOp row.id body (some rt.deployment)) = none ∧
      s.assets.migrated = true ∧
        ¬ s.assets.Taken row (some rt.deployment.contractAddress) body.tokenId) := by
    rintro ⟨hnone, hmigrated, -⟩
    rcases hunstampable with ⟨-, hold⟩ | ⟨e', hsome, -⟩
    · rw [hmigrated] at hold
      cases hold
    · rw [hnone] at hsome
      cases hsome
  have hplain := bindAnswer rt fails created s hrow hdraft body none
  rw [hprog]
  generalize answering rt fails created s (bindOp row.id body none) = answer at hplain ⊢
  cases hplain with
  | failed hfails =>
      refine .inr ⟨_, rfl, ?_⟩
      rintro (hfirst | ⟨-, hnone, -⟩)
      · exact hnotFirst hfirst
      · rw [hfails] at hnone
        cases hnone
  | lacking hfails hlacks => cases hlacks
  | taken hfails hlacks htaken =>
      refine .inr ⟨_, rfl, ?_⟩
      rintro (hfirst | ⟨-, -, hfree⟩)
      · exact hnotFirst hfirst
      · exact hfree htaken
  | bound hfails hlacks hfree => exact .inl ⟨_, _, _, rfl, .inr ⟨hunstampable, hfails, hfree⟩⟩

omit [Js.CaseMapping] in
theorem alone_tryBind (s : AssetServerState σ) {row : StoredAsset} (hrow : row ∈ s.assets.rows)
    (hdraft : row.tokenId = none) (body : ConfirmBody) :
    (∃ id ids s', alone (answering rt fails created) (tryBind rt row.id body).run s =
        (.ok (.ok (id :: ids)), s') ∧ BindSucceeds rt fails s.assets row body) ∨
      ∃ e, alone (answering rt fails created) (tryBind rt row.id body).run s =
        (.ok (.error e), s) ∧ ¬ BindSucceeds rt fails s.assets row body := by
  have hfirst : alone (answering rt fails created)
      (ask (bindOp row.id body (some rt.deployment)) :
        AssetRoute (Except DbError (List String))).run s = _ := alone_ask _
  have hgiveUp : ∀ e, isUnknownColumn e = false →
      answering rt fails created s (bindOp row.id body (some rt.deployment)) = (.error e, s) →
      alone (answering rt fails created) (tryBind rt row.id body).run s = (.ok (.error e), s) := by
    intro e he hstamped
    rw [hstamped] at hfirst
    unfold tryBind
    rw [alone_exceptT_bind hfirst]
    show alone _ (if isUnknownColumn e = true then _ else _ :
      AssetRoute (Except DbError (List String))).run s = _
    rw [if_neg (by simp [he])]
    rfl
  have hstamped := bindAnswer rt fails created s hrow hdraft body (some rt.deployment)
  generalize hanswer : answering rt fails created s (bindOp row.id body (some rt.deployment)) =
    answer at hstamped
  cases hstamped with
  | @failed e hfails =>
      cases he : isUnknownColumn e with
      | true => exact alone_tryBind_unstamped s hrow hdraft body he (.inr ⟨e, hfails, he⟩) hanswer
      | false =>
          refine .inr ⟨e, hgiveUp e he hanswer, ?_⟩
          rintro (⟨hnone, -⟩ | ⟨⟨hnone, -⟩ | ⟨e', hsome, he'⟩, -⟩)
          · rw [hfails] at hnone
            cases hnone
          · rw [hfails] at hnone
            cases hnone
          · rw [hfails] at hsome
            cases hsome
            rw [he] at he'
            cases he'
  | lacking hfails hlacks =>
      have hold : s.assets.migrated = false := by simpa [AssetStore.lacks] using hlacks
      exact alone_tryBind_unstamped s hrow hdraft body rfl (.inl ⟨hfails, hold⟩) hanswer
  | taken hfails hlacks htaken =>
      have hmigrated : s.assets.migrated = true := by simpa [AssetStore.lacks] using hlacks
      refine .inr ⟨_, hgiveUp _ rfl hanswer, ?_⟩
      rintro (⟨-, -, hfree⟩ | ⟨⟨-, hold⟩ | ⟨e', hsome, -⟩, -⟩)
      · exact hfree htaken
      · rw [hmigrated] at hold
        cases hold
      · rw [hfails] at hsome
        cases hsome
  | @bound id ids s' hfails hlacks hfree =>
      have hmigrated : s.assets.migrated = true := by simpa [AssetStore.lacks] using hlacks
      rw [hanswer] at hfirst
      refine .inl ⟨id, ids, s', ?_, .inl ⟨hfails, hmigrated, hfree⟩⟩
      unfold tryBind
      rw [alone_exceptT_bind hfirst]
      rfl

variable (rt fails created) in
omit [Js.CaseMapping] in
/-- The draft is bound, or nothing changes. -/
theorem alone_bindToken (s : AssetServerState σ) {row : StoredAsset} (hrow : row ∈ s.assets.rows)
    (hdraft : row.tokenId = none) (body : ConfirmBody) :
    (∃ s', alone (answering rt fails created) (bindToken rt row.id body).run s = (.ok (), s') ∧
        BindSucceeds rt fails s.assets row body) ∨
      ∃ e, alone (answering rt fails created) (bindToken rt row.id body).run s = (.error e, s) ∧
        ¬ BindSucceeds rt fails s.assets row body := by
  unfold bindToken
  rcases alone_tryBind s hrow hdraft body with ⟨id, ids, s', htry, hbinds⟩ | ⟨e, htry, hnot⟩
  · rw [alone_exceptT_bind htry]
    exact .inl ⟨s', rfl, hbinds⟩
  · rw [alone_exceptT_bind htry]
    exact .inr ⟨_, rfl, hnot⟩

/-! ## The whole confirmation -/

variable (rt fails) in
/-- The draft can be bound once every contradicted claim has been released: nobody holds the token
    under the stamp that it gets, or keeps. -/
def CanBind (store : AssetStore) (row : StoredAsset) (body : ConfirmBody) (chainAssetHash : Bytes32)
    (claims : List ClaimRow) : Prop :=
  (fails (bindOp row.id body (some rt.deployment)) = none ∧ store.migrated = true) ∨
    (Unstampable rt fails store row body ∧ fails (bindOp row.id body none) = none ∧
      ∀ claim ∈ claims,
        classifyClaim claim chainAssetHash rt.deployment.contractAddress = .otherDeployment →
          claim.contractAddress ≠ row.contractAddress)

omit [Js.CaseMapping] in
theorem claims_of_claimsRead {store : AssetStore} {tokenId : Nat} {keepAssetId : String}
    {claims : List ClaimRow} (h : claimsRead fails store tokenId keepAssetId = some claims) :
    ∃ withContract, claims = (store.holders tokenId keepAssetId).map (·.claim withContract) := by
  have hlegacy : (if fails (.selectClaims false tokenId keepAssetId) = none then
      some ((store.holders tokenId keepAssetId).map (·.claim false)) else none) = some claims →
      ∃ withContract, claims = (store.holders tokenId keepAssetId).map (·.claim withContract) := by
    intro hsome
    split at hsome
    · exact ⟨false, (Option.some.inj hsome).symm⟩
    · cases hsome
  unfold claimsRead at h
  dsimp only at h
  split at h
  · split at h
    · exact ⟨true, (Option.some.inj h).symm⟩
    · exact hlegacy h
  · split at h
    · exact hlegacy h
    · cases h

omit [Js.CaseMapping] in
theorem AssetStore.mem_holders {store : AssetStore} {tokenId : Nat} {keepAssetId : String}
    {row : StoredAsset} : row ∈ store.holders tokenId keepAssetId ↔
      row ∈ store.rows ∧ row.tokenId = some tokenId ∧ row.id ≠ keepAssetId := by
  simp [holders]

/-- A claim on another deployment's token shows the stamp of its row. -/
theorem contract_of_otherDeployment {withContract : Bool} {row : StoredAsset}
    {chainAssetHash : Bytes32} {contractAddress : Address}
    (h : classifyClaim (row.claim withContract) chainAssetHash contractAddress =
      .otherDeployment) :
    (row.claim withContract).contractAddress = row.contractAddress ∧
      row.contractAddress ≠ none ∧ row.contractAddress ≠ some contractAddress := by
  unfold classifyClaim at h
  split at h
  next hany =>
      unfold StoredAsset.claim at hany ⊢
      cases withContract with
      | false => simp at hany
      | true =>
          simp only [if_true] at hany ⊢
          cases hcontract : row.contractAddress with
          | none => simp [hcontract] at hany
          | some address => simpa [hcontract] using hany
  · split at h <;> cases h

/-- After the releases the token is held under a stamp by a claim on another deployment's token. -/
theorem taken_released {store released : AssetStore} {row : StoredAsset} {tokenId : Nat}
    {chainAssetHash : Bytes32} {withContract : Bool}
    (hpass : ((store.holders tokenId row.id).map (·.claim withContract)).all
      (passes rt fails tokenId chainAssetHash) = true)
    (hrows : released.rows = store.rows.map (·.releasedIn ((releasedClaims rt fails tokenId
      chainAssetHash ((store.holders tokenId row.id).map (·.claim withContract))).map (·.id))))
    {contractAddress : Option Address} : released.Taken row contractAddress tokenId ↔
      ∃ claim ∈ (store.holders tokenId row.id).map (·.claim withContract),
        classifyClaim claim chainAssetHash rt.deployment.contractAddress = .otherDeployment ∧
          claim.contractAddress = contractAddress := by
  constructor
  · rintro ⟨holder', hholder', hne, hkey⟩
    rw [hrows] at hholder'
    obtain ⟨holder, hholder, rfl⟩ := List.mem_map.1 hholder'
    rw [StoredAsset.id_releasedIn] at hne
    have hbefore := StoredAsset.tokenKey_releasedIn hkey
    obtain ⟨t, htoken, heq⟩ := Option.map_eq_some_iff.1 hbefore
    obtain ⟨hcontract, rfl⟩ := Prod.mk.inj heq
    have hclaim : holder.claim withContract ∈
        (store.holders t row.id).map (·.claim withContract) :=
      List.mem_map_of_mem (AssetStore.mem_holders.2 ⟨hholder, htoken, hne⟩)
    refine ⟨_, hclaim, ?_⟩
    cases hverdict : classifyClaim (holder.claim withContract) chainAssetHash
        rt.deployment.contractAddress with
    | otherDeployment =>
        exact ⟨rfl, (contract_of_otherDeployment hverdict).1.trans hcontract⟩
    | conflict =>
        have hstop := List.all_eq_true.1 hpass _ hclaim
        rw [passes, hverdict] at hstop
        cases hstop
    | release =>
        -- Its claim has been released, so it holds nothing.
        have hid : holder.id ∈ (releasedClaims rt fails t chainAssetHash
            ((store.holders t row.id).map (·.claim withContract))).map (·.id) := by
          refine List.mem_map.2 ⟨_, (mem_releasedClaims hpass).2 ⟨hclaim, ?_⟩, rfl⟩
          simp [isContradicted, hverdict]
        rw [StoredAsset.releasedIn, if_pos hid] at hkey
        cases hkey
  · rintro ⟨claim, hclaim, hverdict, hcontract⟩
    obtain ⟨holder, hholder, rfl⟩ := List.mem_map.1 hclaim
    obtain ⟨hmem, htoken, hne⟩ := AssetStore.mem_holders.1 hholder
    have hid : holder.id ∉ (releasedClaims rt fails tokenId chainAssetHash
        ((store.holders tokenId row.id).map (·.claim withContract))).map (·.id) := by
      intro hid
      obtain ⟨claim', hclaim', heq⟩ := List.mem_map.1 hid
      obtain ⟨hclaim', hcontradicted⟩ := (mem_releasedClaims hpass).1 hclaim'
      obtain ⟨holder', hholder', rfl⟩ := List.mem_map.1 hclaim'
      obtain rfl : holder' = holder :=
        store.eq_of_id (AssetStore.mem_holders.1 hholder').1 hmem heq
      simp [isContradicted, hverdict] at hcontradicted
    have hsame : holder.releasedIn ((releasedClaims rt fails tokenId chainAssetHash
        ((store.holders tokenId row.id).map (·.claim withContract))).map (·.id)) = holder :=
      if_neg hid
    refine ⟨holder, ?_, hne, ?_⟩
    · rw [hrows]
      exact List.mem_map.2 ⟨holder, hmem, hsame⟩
    · have hstamp := (contract_of_otherDeployment hverdict).1.symm.trans hcontract
      simp [StoredAsset.tokenKey, htoken, hstamp]

/-- Once the contradicted claims have been released, the draft is bound if it can be. -/
theorem bindSucceeds_released {store released : AssetStore} {row : StoredAsset} {body : ConfirmBody}
    {chainAssetHash : Bytes32} {claims : List ClaimRow}
    (hclaims : claimsRead fails store body.tokenId row.id = some claims)
    (hpass : claims.all (passes rt fails body.tokenId chainAssetHash) = true)
    (hmigrated : released.migrated = store.migrated)
    (hrows : released.rows = store.rows.map
      (·.releasedIn ((releasedClaims rt fails body.tokenId chainAssetHash claims).map (·.id)))) :
    BindSucceeds rt fails released row body ↔
      CanBind rt fails store row body chainAssetHash claims := by
  obtain ⟨withContract, rfl⟩ := claims_of_claimsRead hclaims
  have hstamped : ¬ released.Taken row (some rt.deployment.contractAddress) body.tokenId := by
    rw [taken_released hpass hrows]
    rintro ⟨claim, hclaim, hverdict, hcontract⟩
    obtain ⟨holder, -, rfl⟩ := List.mem_map.1 hclaim
    obtain ⟨hsame, -, hother⟩ := contract_of_otherDeployment hverdict
    exact hother (hsame.symm.trans hcontract)
  have hown : ¬ released.Taken row row.contractAddress body.tokenId ↔
      ∀ claim ∈ (store.holders body.tokenId row.id).map (·.claim withContract),
        classifyClaim claim chainAssetHash rt.deployment.contractAddress = .otherDeployment →
          claim.contractAddress ≠ row.contractAddress := by
    rw [taken_released hpass hrows]
    constructor
    · intro hfree claim hclaim hverdict hcontract
      exact hfree ⟨claim, hclaim, hverdict, hcontract⟩
    · rintro hdiffer ⟨claim, hclaim, hverdict, hcontract⟩
      exact hdiffer claim hclaim hverdict hcontract
  unfold BindSucceeds CanBind Unstampable
  rw [hmigrated, hown]
  simp only [hstamped, not_false_eq_true, and_true]

theorem ConfirmReady.unique {s : AssetServerState σ} {session : SessionData} {assetId : String}
    {body : Option ConfirmBody} {confirmed confirmed' : ConfirmBody} {row row' : StoredAsset}
    {chainAsset chainAsset' : AssetState} {claims claims' : List ClaimRow}
    (h : ConfirmReady fails s session assetId body confirmed row chainAsset claims)
    (h' : ConfirmReady fails s session assetId body confirmed' row' chainAsset' claims') :
    confirmed = confirmed' ∧ row = row' ∧ chainAsset = chainAsset' ∧ claims = claims' := by
  obtain rfl := Option.some.inj (h.body.symm.trans h'.body)
  obtain rfl := Option.some.inj (h.found.symm.trans h'.found)
  obtain rfl := Option.some.inj (Except.ok.inj (h.minted.symm.trans h'.minted))
  obtain rfl := Option.some.inj (h.claims.symm.trans h'.claims)
  exact ⟨rfl, rfl, rfl, rfl⟩

variable (rt created) in
/-- A confirmation that does not come as far as the claims fails and changes nothing. -/
theorem alone_confirm_notReady (s : AssetServerState σ) (session : SessionData) (assetId : String)
    (body : Option ConfirmBody)
    (h : ∀ confirmed row chainAsset claims,
      ¬ ConfirmReady fails s session assetId body confirmed row chainAsset claims) :
    ∃ e, alone (answering rt fails created) (confirm rt session assetId body).run s =
      (.error e, s) := by
  unfold confirm
  cases hbody : body.filter ConfirmBody.accepted with
  | none => exact ⟨_, rfl⟩
  | some confirmed =>
      rw [require_some_bind]
      obtain ⟨hsome, haccepted⟩ := Option.filter_eq_some_iff.1 hbody
      rcases alone_loadDraft rt fails created s session assetId with
        ⟨row, hload, hloads, hfound, hdraft, hmay⟩ | ⟨⟨e, hload⟩, -⟩
      · rw [alone_exceptT_bind hload]
        rcases alone_verifyOnChain rt fails created s row
          confirmed.tokenId with ⟨chainAsset, hverify, hminted, horg, hanchored⟩ | ⟨⟨e, hverify⟩, -⟩
        · rw [alone_exceptT_bind hverify]
          have hclaims := alone_readClaims rt fails created s confirmed.tokenId assetId
          cases hread : claimsRead fails s.assets confirmed.tokenId assetId with
          | none =>
              rw [hread] at hclaims
              have hrelease : alone (answering rt fails created) (releaseContradictedClaims rt
                  confirmed.tokenId chainAsset.assetHash assetId).run s = _ :=
                alone_exceptT_bind_error hclaims _
              exact ⟨_, alone_exceptT_bind_error hrelease _⟩
          | some claims =>
              exact absurd ⟨hsome, haccepted, hloads, hfound, hdraft, hmay, hminted, horg, hanchored,
                hread⟩ (h confirmed row chainAsset claims)
        · exact ⟨e, alone_exceptT_bind_error hverify _⟩
      · exact ⟨e, alone_exceptT_bind_error hload _⟩

/-- Up to the claims nothing has changed. -/
theorem alone_confirm_claims {s : AssetServerState σ} {session : SessionData} {assetId : String}
    {body : Option ConfirmBody} {confirmed : ConfirmBody} {row : StoredAsset}
    {chainAsset : AssetState} {claims : List ClaimRow}
    (h : ConfirmReady fails s session assetId body confirmed row chainAsset claims) :
    alone (answering rt fails created) (confirm rt session assetId body).run s =
      alone (answering rt fails created) (do
        releaseContradictedClaims rt confirmed.tokenId chainAsset.assetHash assetId
        bindToken rt assetId confirmed
        return {
          assetId
          tokenId := confirmed.tokenId
          txHash := confirmed.txHash
          owner := chainAsset.owner
          assignedTo := chainAsset.assignedTo
          assetHash := hex chainAsset.assetHash } : AssetRoute ConfirmReply).run s := by
  have hbody : body.filter ConfirmBody.accepted = some confirmed :=
    Option.filter_eq_some_iff.2 ⟨h.body, h.accepted⟩
  unfold confirm
  rw [hbody, require_some_bind]
  rcases alone_loadDraft rt fails created s session assetId with
    ⟨row', hload, -, hfound, -⟩ | ⟨-, hnot⟩
  · obtain rfl : row' = row := Option.some.inj (hfound.symm.trans h.found)
    rw [alone_exceptT_bind hload]
    rcases alone_verifyOnChain rt fails created s row' confirmed.tokenId with
      ⟨chainAsset', hverify, hminted, -⟩ | ⟨-, hnot⟩
    · obtain rfl : chainAsset' = chainAsset :=
        Option.some.inj (Except.ok.inj (hminted.symm.trans h.minted))
      rw [alone_exceptT_bind hverify]
    · exact absurd h.anchored (hnot chainAsset h.minted h.organization)
  · exact absurd h.permitted (hnot row h.loads h.found h.isDraft)

/-- The claims are those of the rows that hold the token, but for the draft. -/
theorem ConfirmReady.holder_of_claim {s : AssetServerState σ} {session : SessionData}
    {assetId : String} {body : Option ConfirmBody} {confirmed : ConfirmBody} {row : StoredAsset}
    {chainAsset : AssetState} {claims : List ClaimRow}
    (h : ConfirmReady fails s session assetId body confirmed row chainAsset claims)
    {claim : ClaimRow} (hclaim : claim ∈ claims) :
    ∃ holder ∈ s.assets.rows, holder.id = claim.id ∧ holder.tokenId = some confirmed.tokenId ∧
      holder.id ≠ assetId := by
  obtain ⟨withContract, hclaims⟩ := claims_of_claimsRead h.claims
  rw [hclaims] at hclaim
  obtain ⟨holder, hholder, rfl⟩ := List.mem_map.1 hclaim
  obtain ⟨hmem, htoken, hne⟩ := AssetStore.mem_holders.1 hholder
  exact ⟨holder, hmem, rfl, htoken, hne⟩

/-- The draft is not among the claims that are released. -/
theorem ConfirmReady.kept {s : AssetServerState σ} {session : SessionData} {assetId : String}
    {body : Option ConfirmBody} {confirmed : ConfirmBody} {row : StoredAsset}
    {chainAsset : AssetState} {claims : List ClaimRow}
    (h : ConfirmReady fails s session assetId body confirmed row chainAsset claims) :
    row.id ∉ (releasedClaims rt fails confirmed.tokenId chainAsset.assetHash claims).map (·.id) := by
  obtain ⟨-, rfl⟩ := (lookup_eq_some_iff s.assets.lawful.primaryKey).1 h.found
  intro hid
  obtain ⟨claim, hclaim, hid⟩ := List.mem_map.1 hid
  have hclaim := (List.takeWhile_sublist _).subset (List.mem_filter.1 hclaim).1
  obtain ⟨holder, -, hsame, -, hne⟩ := h.holder_of_claim hclaim
  exact hne (hsame.trans hid)

variable (rt created) in
/-- The claims are released up to the first that stops the confirmation. -/
theorem alone_releaseContradictedClaims {s : AssetServerState σ} {session : SessionData}
    {assetId : String} {body : Option ConfirmBody} {confirmed : ConfirmBody} {row : StoredAsset}
    {chainAsset : AssetState} {claims : List ClaimRow}
    (h : ConfirmReady fails s session assetId body confirmed row chainAsset claims) :
    let final := alone (answering rt fails created) (releaseContradictedClaims rt confirmed.tokenId
      chainAsset.assetHash assetId).run s
    final.2.assets.migrated = s.assets.migrated ∧
      final.2.assets.rows = s.assets.rows.map (·.releasedIn
        ((releasedClaims rt fails confirmed.tokenId chainAsset.assetHash claims).map (·.id))) ∧
      if claims.all (passes rt fails confirmed.tokenId chainAsset.assetHash) then final.1 = .ok ()
      else ∃ e, final.1 = .error e := by
  have hids : (claims.map (·.id)).Nodup := by
    obtain ⟨withContract, hclaims⟩ := claims_of_claimsRead h.claims
    rw [hclaims, List.map_map]
    exact s.assets.lawful.primaryKey.sublist (List.filter_sublist.map _)
  have hheld : ∀ claim ∈ claims, ∀ held ∈ s.assets.rows, held.id = claim.id →
      held.tokenId = some confirmed.tokenId := by
    intro claim hclaim held hmem hid
    obtain ⟨holder, hholder, hsame, htoken, -⟩ := h.holder_of_claim hclaim
    rw [s.assets.eq_of_id hmem hholder (hid.trans hsame.symm)]
    exact htoken
  have hread := alone_readClaims rt fails created s confirmed.tokenId assetId
  rw [h.claims] at hread
  have hrelease : alone (answering rt fails created) (releaseContradictedClaims rt confirmed.tokenId
      chainAsset.assetHash assetId).run s = _ := alone_exceptT_bind hread _
  dsimp only
  rw [hrelease]
  exact (alone_releaseContradicted rt fails created confirmed.tokenId chainAsset.assetHash claims s
    hids hheld).2

variable (rt created) in
/-- What a confirmation makes of the table once it has come to the claims. -/
theorem alone_confirm_ready {s : AssetServerState σ} {session : SessionData} {assetId : String}
    {body : Option ConfirmBody} {confirmed : ConfirmBody} {row : StoredAsset}
    {chainAsset : AssetState} {claims : List ClaimRow}
    (h : ConfirmReady fails s session assetId body confirmed row chainAsset claims) :
    let final := alone (answering rt fails created) (confirm rt session assetId body).run s
    let succeeds := claims.all (passes rt fails confirmed.tokenId chainAsset.assetHash) = true ∧
      CanBind rt fails s.assets row confirmed chainAsset.assetHash claims
    (succeeds → ∃ reply, final.1 = .ok reply) ∧
      (¬ succeeds → (∃ e, final.1 = .error e) ∧ final.2.assets.rows = s.assets.rows.map
        (·.releasedIn ((releasedClaims rt fails confirmed.tokenId chainAsset.assetHash
          claims).map (·.id)))) := by
  obtain ⟨hrow, rfl⟩ := (lookup_eq_some_iff s.assets.lawful.primaryKey).1 h.found
  obtain ⟨hmigrated, hrows, hresult⟩ := alone_releaseContradictedClaims rt created h
  generalize hrelease : alone (answering rt fails created) (releaseContradictedClaims rt
    confirmed.tokenId chainAsset.assetHash row.id).run s = final at hmigrated hrows hresult
  obtain ⟨result, s'⟩ := final
  dsimp only at hmigrated hrows hresult
  rw [alone_confirm_claims h]
  cases hpass : claims.all (passes rt fails confirmed.tokenId chainAsset.assetHash) with
  | false =>
      rw [hpass, if_neg (by simp)] at hresult
      obtain ⟨e, rfl⟩ := hresult
      rw [alone_exceptT_bind_error hrelease]
      exact ⟨fun hsucceeds => by simp at hsucceeds, fun _ => ⟨⟨e, rfl⟩, hrows⟩⟩
  | true =>
      rw [hpass, if_pos rfl] at hresult
      rw [hresult] at hrelease
      rw [alone_exceptT_bind hrelease]
      have hbinds := bindSucceeds_released h.claims hpass hmigrated hrows
      have hdraft : row ∈ s'.assets.rows := by
        rw [hrows]
        exact List.mem_map.2 ⟨row, hrow, if_neg h.kept⟩
      rcases alone_bindToken rt fails created s' hdraft h.isDraft confirmed with
        ⟨s'', hbind, hsucceeds⟩ | ⟨e, hbind, hnot⟩
      · rw [alone_exceptT_bind hbind]
        exact ⟨fun _ => ⟨_, rfl⟩, fun hnot => absurd ⟨rfl, hbinds.1 hsucceeds⟩ hnot⟩
      · rw [alone_exceptT_bind_error hbind]
        exact ⟨fun hsucceeds => absurd (hbinds.2 hsucceeds.2) hnot, fun _ => ⟨⟨e, rfl⟩, hrows⟩⟩

end Confirm

end OwneX
