import OwneX.Platform.FailedConfirm

set_option autoImplicit false

/-! # Confirmations that race

A confirmation reads the chain, then the claims on its token, and then writes. Whatever other requests
do in between, a row that loses its token has been read by a confirmation that found it contradicted,
and a row that gains one has been verified by a confirmation. What a row anchors never changes. -/

namespace OwneX

open Js JsNumber Prog Interleaving Service KeyedList

/-! ## What requests write -/

/-- The operation does not write the table. -/
def AssetOp.Reads : AssetOp → Prop
  | update .. => False
  | insert .. => False
  | _ => True

section Awaits

variable {rt : AssetRuntime}

theorem reads_onServer {α : Type} (p : Route α) : Only AssetOp.Reads (onServer p).run :=
  only_embed (only_true p.run) fun _ _ => trivial

theorem reads_loadDraft (session : SessionData) (assetId : String) :
    Only AssetOp.Reads (loadDraft session assetId).run := by
  have hselect : Only AssetOp.Reads (call (AssetOp.selectDraft assetId) :
      Prog AssetOp AssetOp.Res _) := only_call trivial
  refine only_exceptT_bind (only_attempt hselect _) fun found => ?_
  refine only_require_bind fun draft _ => ?_
  split
  · exact .done _
  · exact only_exceptT_bind (reads_onServer _) fun _ => only_exceptT_pure _

theorem reads_verifyOnChain [Js.CaseMapping] (draft : DraftRow) (tokenId : Nat) :
    Only AssetOp.Reads (verifyOnChain draft tokenId).run := by
  have hread : Only AssetOp.Reads (call (AssetOp.server (.readAsset tokenId)) :
      Prog AssetOp AssetOp.Res _) := only_call trivial
  refine only_exceptT_bind (only_attempt hread _) fun found => ?_
  refine only_require_bind fun chainAsset _ => ?_
  refine only_exceptT_bind (only_refuseIf _ _) fun _ => ?_
  exact only_exceptT_bind (only_refuseIf _ _) fun _ => only_exceptT_pure _

theorem reads_readClaims (tokenId : Nat) (keepAssetId : String) :
    Only AssetOp.Reads (readClaims tokenId keepAssetId).run := by
  have hselect : Only AssetOp.Reads (call (AssetOp.selectClaims false tokenId keepAssetId) :
      Prog AssetOp AssetOp.Res _) := only_call trivial
  refine only_exceptT_bind (only_ask trivial) fun answer => ?_
  split
  · exact only_exceptT_pure _
  · split
    · exact only_attempt hselect _
    · exact .done _

theorem reads_list [Str.CaseMapping] (session : SessionData) (orgId : Option Nat) :
    Only AssetOp.Reads (listAssets rt session orgId).run := by
  have hselect : ∀ orgId, Only AssetOp.Reads (call (AssetOp.selectOrgRows false orgId) :
      Prog AssetOp AssetOp.Res _) := fun orgId => only_call trivial
  have hrows : ∀ orgId, Only AssetOp.Reads (readOrgRows rt orgId).run := by
    intro orgId
    refine only_exceptT_bind (only_ask trivial) fun answer => ?_
    split
    · exact only_exceptT_pure _
    · split
      · exact only_attempt (hselect orgId) _
      · exact .done _
  refine only_require_bind fun orgId _ => ?_
  refine only_exceptT_bind (reads_onServer _) fun wallet => ?_
  refine only_exceptT_bind (reads_onServer _) fun caller => ?_
  split
  · refine only_exceptT_bind (reads_onServer _) fun tokenIds => ?_
    refine only_exceptT_bind (only_exceptT_both (hrows _) (reads_onServer _)) fun _ => ?_
    exact only_exceptT_pure _
  · exact .done _

/-- The operation leaves every binding and every stamp alone. -/
def AssetOp.BindsNothing : AssetOp → Prop
  | update _ patch => patch.binding = none ∧ patch.stamp = none
  | _ => True

theorem bindsNothing_of_reads {op : AssetOp} (h : op.Reads) : op.BindsNothing := by
  cases op with
  | update filter patch => exact h.elim
  | _ => trivial

theorem bindsNothing_create [Str.CaseMapping] (session : SessionData) (body : Option DraftBody) :
    Only AssetOp.BindsNothing (createDraft rt session body).run := by
  have hserver : ∀ {α : Type} (p : Route α), Only AssetOp.BindsNothing (onServer p).run :=
    fun p => (reads_onServer p).mono fun _ h => bindsNothing_of_reads h
  refine only_require_bind fun body _ => ?_
  refine only_exceptT_bind (hserver _) fun caller => ?_
  refine only_exceptT_bind ?_ fun draft => ?_
  · refine only_exceptT_bind (hserver _) fun serialEncrypted => ?_
    refine only_exceptT_bind (hserver _) fun invoiceEncrypted => ?_
    split
    · exact only_require _ _
    · exact .done _
  · refine only_exceptT_bind ?_ fun inserted => ?_
    · refine only_exceptT_bind (only_ask trivial) fun answer => ?_
      split
      · exact only_exceptT_pure _
      · split
        · exact only_ask trivial
        · exact only_exceptT_pure _
    · split
      · exact .done _
      · exact only_exceptT_bind (only_ask ⟨rfl, rfl⟩) fun _ => only_exceptT_pure _

end Awaits

/-! ## What a confirmation has read before it writes -/

section Confirms

variable [Js.CaseMapping] {rt : AssetRuntime} {log : List ((op : AssetOp) × op.Res)}

/-- The draft and then the token have been read, and they agree. -/
structure ConfirmVerified (log : List ((op : AssetOp) × op.Res)) (assetId : String)
    (tokenId : Nat) (draft : DraftRow) (chainAsset : AssetState) : Prop where
  reads : ∃ front mid back, log = front ++ ⟨.selectDraft assetId, .ok (some draft)⟩ :: (mid ++
    ⟨.server (.readAsset tokenId), .ok (some chainAsset)⟩ :: back)
  organization : chainAsset.orgId = draft.orgId.1
  anchored : sameHex (hex chainAsset.assetHash) draft.assetHash = true

theorem ConfirmVerified.token_read {assetId : String} {tokenId : Nat} {draft : DraftRow}
    {chainAsset : AssetState} (h : ConfirmVerified log assetId tokenId draft chainAsset) :
    ⟨.server (.readAsset tokenId), .ok (some chainAsset)⟩ ∈ log := by
  obtain ⟨front, mid, back, rfl⟩ := h.reads
  simp

/-- The chain contradicts a claim that is released. -/
theorem differs_of_release {claim : ClaimRow} {chainAssetHash : Bytes32}
    {contractAddress : Address}
    (h : classifyClaim claim chainAssetHash contractAddress = .release) :
    sameHex claim.assetHash (hex chainAssetHash) = false := by
  unfold classifyClaim at h
  split at h
  · cases h
  · split at h
    · cases h
    next hdiffer => simpa using hdiffer

/-- What the confirmation may write after that. -/
inductive ConfirmWrites (rt : AssetRuntime) (log : List ((op : AssetOp) × op.Res))
    (assetId : String) (confirmed : ConfirmBody) (chainAsset : AssetState) : AssetOp → Prop where
  | release {withContract : Bool} {claims : List ClaimRow} {claim : ClaimRow} :
      ⟨.selectClaims withContract confirmed.tokenId assetId, .ok claims⟩ ∈ log → claim ∈ claims →
      classifyClaim claim chainAsset.assetHash rt.deployment.contractAddress = .release →
      ConfirmWrites rt log assetId confirmed chainAsset (releaseOp confirmed.tokenId claim)
  | bind : ConfirmWrites rt log assetId confirmed chainAsset
      (bindOp assetId confirmed (some rt.deployment))
  | bindUnstamped {e : DbError} :
      ⟨bindOp assetId confirmed (some rt.deployment), .error e⟩ ∈ log → isUnknownColumn e = true →
      ConfirmWrites rt log assetId confirmed chainAsset (bindOp assetId confirmed none)

omit [Js.CaseMapping] in
theorem returns_loadDraft {session : SessionData} {assetId : String} {draft : DraftRow}
    (h : Returns (loadDraft session assetId).run log (.ok draft)) :
    ∃ rest, log = ⟨.selectDraft assetId, .ok (some draft)⟩ :: rest := by
  obtain ⟨found, front, back, rfl, hselect, hrest⟩ := returns_attempt_bind.1 h
  obtain rfl := returns_call.1 hselect
  obtain ⟨row, rfl, hdraft⟩ := returns_require_bind.1 hrest
  split at hdraft
  · obtain ⟨-, herror⟩ := returns_throw.1 hdraft
    cases herror
  · obtain ⟨caller, guard, rest, rfl, -, hpure⟩ := returns_exceptT_bind.1 hdraft
    obtain ⟨rfl, rfl⟩ := returns_exceptT_pure.1 hpure
    exact ⟨guard ++ [], rfl⟩

theorem returns_verifyOnChain {draft : DraftRow} {tokenId : Nat} {chainAsset : AssetState}
    (h : Returns (verifyOnChain draft tokenId).run log (.ok chainAsset)) :
    log = [⟨.server (.readAsset tokenId), .ok (some chainAsset)⟩] ∧
      chainAsset.orgId = draft.orgId.1 ∧
      sameHex (hex chainAsset.assetHash) draft.assetHash = true := by
  obtain ⟨found, front, back, rfl, hread, hrest⟩ := returns_attempt_bind.1 h
  obtain rfl := returns_call.1 hread
  obtain ⟨record, rfl, hrest⟩ := returns_require_bind.1 hrest
  obtain ⟨horg, hrest⟩ := returns_refuseIf_bind.1 hrest
  obtain ⟨hhash, hrest⟩ := returns_refuseIf_bind.1 hrest
  obtain ⟨rfl, rfl⟩ := returns_exceptT_pure.1 hrest
  exact ⟨rfl, by simpa using horg, by simpa using hhash⟩

omit [Js.CaseMapping] in
theorem returns_readClaims {tokenId : Nat} {keepAssetId : String} {claims : List ClaimRow}
    (h : Returns (readClaims tokenId keepAssetId).run log (.ok claims)) :
    ∃ withContract, ⟨.selectClaims withContract tokenId keepAssetId, .ok claims⟩ ∈ log := by
  obtain ⟨answer, rest, rfl, hrest⟩ := returns_ask_bind.1 h
  cases answer with
  | ok read =>
      obtain ⟨rfl, rfl⟩ := returns_exceptT_pure.1 hrest
      exact ⟨true, List.mem_cons_self ..⟩
  | error e =>
      dsimp only at hrest
      split at hrest
      · have hlegacy := returns_call.1 (returns_attempt.1 hrest)
        rw [hlegacy]
        exact ⟨false, List.mem_cons_of_mem _ (List.mem_singleton_self _)⟩
      · obtain ⟨-, herror⟩ := returns_throw.1 hrest
        cases herror

theorem reaches_releaseContradicted {tokenId : Nat} {chainAssetHash : Bytes32}
    {claims : List ClaimRow} {op : AssetOp}
    (h : Reaches (releaseContradicted rt tokenId chainAssetHash claims).run log op) :
    ∃ claim ∈ claims,
      classifyClaim claim chainAssetHash rt.deployment.contractAddress = .release ∧
        op = releaseOp tokenId claim := by
  induction claims generalizing log with
  | nil => exact absurd h reaches_exceptT_pure
  | cons claim claims ih =>
      have hrest : ∀ {log : List ((op : AssetOp) × op.Res)},
          Reaches (releaseContradicted rt tokenId chainAssetHash claims).run log op →
          ∃ claim' ∈ claim :: claims,
            classifyClaim claim' chainAssetHash rt.deployment.contractAddress = .release ∧
              op = releaseOp tokenId claim' := by
        intro log hreaches
        obtain ⟨claim', hclaim', hverdict, rfl⟩ := ih hreaches
        exact ⟨claim', List.mem_cons_of_mem _ hclaim', hverdict, rfl⟩
      rw [releaseContradicted] at h
      split at h
      · exact hrest h
      · exact absurd h reaches_done
      next hverdict =>
          rcases reaches_exceptT_bind.1 h with hrelease | ⟨-, -, back, -, -, hreaches⟩
          · obtain ⟨-, rfl⟩ := reaches_call.1 (reaches_attempt.1 hrelease)
            exact ⟨claim, List.mem_cons_self .., hverdict, rfl⟩
          · exact hrest hreaches

omit [Js.CaseMapping] in
theorem reaches_bindToken {assetId : String} {confirmed : ConfirmBody} {op : AssetOp}
    (h : Reaches (bindToken rt assetId confirmed).run log op) :
    op = bindOp assetId confirmed (some rt.deployment) ∨
      op = bindOp assetId confirmed none ∧ ∃ e, isUnknownColumn e = true ∧
        ⟨bindOp assetId confirmed (some rt.deployment), .error e⟩ ∈ log := by
  rcases reaches_exceptT_bind.1 h with htry | ⟨result, -, back, -, -, hanswer⟩
  · rcases reaches_ask_bind.1 htry with ⟨-, rfl⟩ | ⟨answer, rest, rfl, hsecond⟩
    · exact .inl rfl
    · cases answer with
      | ok ids => exact absurd hsecond reaches_exceptT_pure
      | error e =>
          dsimp only at hsecond
          split at hsecond
          next he =>
              obtain ⟨-, rfl⟩ := reaches_ask.1 hsecond
              exact .inr ⟨rfl, e, he, List.mem_cons_self ..⟩
          · exact absurd hsecond reaches_exceptT_pure
  · split at hanswer
    · exact absurd hanswer reaches_done
    · exact ((only_refuseIf (P := fun _ => False) _ _).reached hanswer).elim

theorem ConfirmWrites.mono {assetId : String} {confirmed : ConfirmBody} {chainAsset : AssetState}
    {op : AssetOp} {log' : List ((op : AssetOp) × op.Res)}
    (h : ConfirmWrites rt log assetId confirmed chainAsset op) (hsub : log ⊆ log') :
    ConfirmWrites rt log' assetId confirmed chainAsset op := by
  cases h with
  | release hselect hclaim hverdict => exact .release (hsub hselect) hclaim hverdict
  | bind => exact .bind
  | bindUnstamped hlacks he => exact .bindUnstamped (hsub hlacks) he

/-- What is written once the draft has been verified. -/
theorem writes_of_verified {assetId : String} {confirmed : ConfirmBody} {chainAsset : AssetState}
    {reply : ConfirmReply} {op : AssetOp} (hop : ¬ op.Reads)
    (h : Reaches (do
      releaseContradictedClaims rt confirmed.tokenId chainAsset.assetHash assetId
      bindToken rt assetId confirmed
      return reply : AssetRoute ConfirmReply).run log op) :
    ConfirmWrites rt log assetId confirmed chainAsset op := by
  rcases reaches_exceptT_bind.1 h with hrelease | ⟨-, front, back, rfl, -, hbind⟩
  · obtain ⟨claims, front, back, rfl, hclaims, hrelease⟩ :=
      hrelease.second (reads_readClaims _ _) hop
    obtain ⟨withContract, hselect⟩ := returns_readClaims hclaims
    obtain ⟨claim, hclaim, hverdict, rfl⟩ := reaches_releaseContradicted hrelease
    exact .release (List.mem_append_left _ hselect) hclaim hverdict
  · have hbind := hbind.first (fun _ => (only_exceptT_pure _ : Only AssetOp.Reads _)) hop
    rcases reaches_bindToken hbind with rfl | ⟨rfl, e, he, hlacks⟩
    · exact .bind
    · exact .bindUnstamped (List.mem_append_right _ hlacks) he

/-- Before a confirmation writes anything, it has verified its draft against the chain. -/
theorem writes_of_confirm {session : SessionData} {assetId : String} {body : Option ConfirmBody}
    {op : AssetOp} (hop : ¬ op.Reads)
    (h : Reaches (confirm rt session assetId body).run log op) :
    ∃ confirmed draft chainAsset, body = some confirmed ∧
      ConfirmVerified log assetId confirmed.tokenId draft chainAsset ∧
        ConfirmWrites rt log assetId confirmed chainAsset op := by
  obtain ⟨confirmed, hbody, hloading⟩ := reaches_require_bind.1 h
  obtain ⟨draft, front, back, rfl, hload, hverifying⟩ :=
    hloading.second (reads_loadDraft _ _) hop
  obtain ⟨chainAsset, read, back, rfl, hverify, hwriting⟩ :=
    hverifying.second (reads_verifyOnChain _ _) hop
  obtain ⟨rest, rfl⟩ := returns_loadDraft hload
  obtain ⟨rfl, horg, hhash⟩ := returns_verifyOnChain hverify
  refine ⟨confirmed, draft, chainAsset, (Option.filter_eq_some_iff.1 hbody).1,
    ⟨⟨[], rest, back, by simp⟩, horg, hhash⟩, ?_⟩
  refine (writes_of_verified hop hwriting).mono fun entry hmem => ?_
  exact List.mem_append_right _ (List.mem_append_right _ hmem)

end Confirms

/-! ## Rows over a run -/

section Runs

variable [Str.CaseMapping] {σ : Type} [ERC721 σ] {rt : AssetRuntime} {s : AssetServerState σ}
  {ts : List (assetServer σ rt).Transition} {c : (assetServer σ rt).Config}

/-- The rows of the table. -/
abbrev storedRows (c : (assetServer σ rt).Config) : List StoredAsset :=
  AssetStore.rows (AssetServerState.assets c.shared)

/-- The rows change by a statement that is performed. -/
theorem rows_step {t : (assetServer σ rt).Transition} (h : t.Valid) :
    storedRows t.after = storedRows t.before ∨
      (∃ i filter patch r, t.move = .perform i (.update filter patch) r ∧
        storedRows t.after =
          KeyedList.modify (AssetFilter.admits filter) (AssetPatch.onto patch)
            (storedRows t.before)) ∨
      ∃ i draft stamp r id createdAt, t.move = .perform i (.insert draft stamp) r ∧
        storedRows t.after =
          storedRows t.before ++ [AssetDraft.toRow draft stamp id createdAt] := by
  rcases h.shared with heq | ⟨i, op, r, hmove, hexec⟩ | henv
  · exact .inl (congrArg (fun shared : AssetServerState σ => shared.assets.rows) heq)
  · have hexec : AssetServerState.exec rt.server t.before.shared op r t.after.shared := hexec
    rcases AssetServerState.exec_assets hexec with
      heq | ⟨filter, patch, rfl, heq⟩ | ⟨draft, stamp, id, createdAt, rfl, heq⟩
    · exact .inl (congrArg AssetStore.rows heq)
    · rcases AssetStore.update_cases filter patch with ⟨e, herror⟩ | ⟨-, hrows, -⟩
      · exact .inl (congrArg AssetStore.rows (heq.trans (congrArg Prod.snd herror)))
      · exact .inr (.inl ⟨i, filter, patch, r, hmove, (congrArg AssetStore.rows heq).trans hrows⟩)
    · rcases AssetStore.insert_cases draft stamp id createdAt with ⟨e, herror⟩ | ⟨-, hrows, -⟩
      · exact .inl (congrArg AssetStore.rows (heq.trans (congrArg Prod.snd herror)))
      · exact .inr (.inr ⟨i, draft, stamp, r, id, createdAt, hmove,
          (congrArg AssetStore.rows heq).trans hrows⟩)
  · have henv : AssetServerState.outside t.before.shared t.after.shared := henv
    exact .inl (congrArg AssetStore.rows henv.2)

/-- What a transition makes of a row. -/
theorem row_after {t : (assetServer σ rt).Transition} (h : t.Valid) {row : StoredAsset}
    (hrow : row ∈ storedRows t.before) :
    ∃ row' ∈ storedRows t.after, row'.id = row.id ∧
      (row' = row ∨ ∃ i filter patch r, t.move = .perform i (.update filter patch) r ∧
        AssetFilter.admits filter row = true ∧ row' = AssetPatch.onto patch row) := by
  rcases rows_step h with heq | ⟨i, filter, patch, r, hmove, heq⟩ |
    ⟨_, draft, stamp, _, id, createdAt, -, heq⟩
  · exact ⟨row, heq ▸ hrow, rfl, .inl rfl⟩
  · by_cases hadmits : AssetFilter.admits filter row = true
    · refine ⟨AssetPatch.onto patch row, ?_, rfl, .inr ⟨i, filter, patch, r, hmove, hadmits, rfl⟩⟩
      rw [heq]
      exact mem_modify.2 ⟨row, hrow, if_pos hadmits⟩
    · refine ⟨row, ?_, rfl, .inl rfl⟩
      rw [heq]
      exact mem_modify.2 ⟨row, hrow, if_neg hadmits⟩
  · refine ⟨row, ?_, rfl, .inl rfl⟩
    rw [heq]
    exact List.mem_append_left _ hrow

/-- Where a row comes from. -/
theorem row_before {t : (assetServer σ rt).Transition} (h : t.Valid) {row' : StoredAsset}
    (hrow' : row' ∈ storedRows t.after) :
    (∃ row ∈ storedRows t.before, row.id = row'.id) ∨ row'.tokenId = none := by
  rcases rows_step h with heq | ⟨i, filter, patch, r, hmove, heq⟩ |
    ⟨_, draft, stamp, _, id, createdAt, -, heq⟩
  · exact .inl ⟨row', heq ▸ hrow', rfl⟩
  · rw [heq] at hrow'
    obtain ⟨row, hrow, rfl⟩ := mem_modify.1 hrow'
    refine .inl ⟨row, hrow, ?_⟩
    split <;> rfl
  · rw [heq] at hrow'
    rcases List.mem_append.1 hrow' with hrow' | hrow'
    · exact .inl ⟨row', hrow', rfl⟩
    · rw [List.mem_singleton.1 hrow']
      exact .inr rfl

/-- Two rows of one id at the two ends of a transition. -/
theorem row_step {t : (assetServer σ rt).Transition} (h : t.Valid) {row row' : StoredAsset}
    (hrow : row ∈ storedRows t.before) (hrow' : row' ∈ storedRows t.after)
    (hid : row'.id = row.id) :
    row' = row ∨ ∃ i filter patch r, t.move = .perform i (.update filter patch) r ∧
      AssetFilter.admits filter row = true ∧ row' = AssetPatch.onto patch row := by
  obtain ⟨row'', hrow'', hid'', hstep⟩ := row_after h hrow
  obtain rfl := AssetStore.eq_of_id _ hrow' hrow'' (hid.trans hid''.symm)
  exact hstep

/-- What a row anchors does not change. -/
theorem anchor_kept {c c' : (assetServer σ rt).Config} (h : (assetServer σ rt).system.Path c ts c')
    {row row' : StoredAsset} (hrow : row ∈ storedRows c) (hrow' : row' ∈ storedRows c')
    (hid : row'.id = row.id) : row'.assetHash = row.assetHash ∧ row'.orgId = row.orgId := by
  obtain ⟨⟨row'', hrow'', hid'', hhash, horg⟩, -⟩ := h.invariant
    (P := fun c => ∃ row' ∈ storedRows c, row'.id = row.id ∧ row'.assetHash = row.assetHash ∧
      row'.orgId = row.orgId)
    (fun t _ hvalid ⟨mid, hmid, hid, hhash, horg⟩ => by
      obtain ⟨row', hrow', hid', hstep⟩ := row_after hvalid hmid
      refine ⟨row', hrow', hid'.trans hid, ?_⟩
      rcases hstep with rfl | ⟨i, filter, patch, r, -, -, rfl⟩
      · exact ⟨hhash, horg⟩
      · exact ⟨hhash, horg⟩)
    ⟨row, hrow, rfl, rfl, rfl⟩
  obtain rfl := AssetStore.eq_of_id _ hrow' hrow'' (hid.trans hid''.symm)
  exact ⟨hhash, horg⟩

/-- A row that is there stays there. -/
theorem row_kept {c c' : (assetServer σ rt).Config} (h : (assetServer σ rt).system.Path c ts c')
    {row : StoredAsset} (hrow : row ∈ storedRows c) : ∃ row' ∈ storedRows c', row'.id = row.id :=
  (h.invariant (P := fun c => ∃ row' ∈ storedRows c, row'.id = row.id)
    (fun t _ hvalid ⟨mid, hmid, hid⟩ => by
      obtain ⟨row', hrow', hid', -⟩ := row_after hvalid hmid
      exact ⟨row', hrow', hid'.trans hid⟩)
    ⟨row, hrow, rfl⟩).1

/-- A statement that binds or releases is a confirmation's. -/
theorem writes_of_run {pre post : List (assetServer σ rt).Transition}
    {t : (assetServer σ rt).Transition} (h : (assetServer σ rt).Run s (pre ++ t :: post) c)
    {i : Nat} {filter : AssetFilter} {patch : AssetPatch} {r : (AssetOp.update filter patch).Res}
    (hmove : t.move = .perform i (.update filter patch) r)
    (hpatch : ¬ AssetOp.BindsNothing (.update filter patch)) :
    ∃ session assetId confirmed draft chainAsset,
      t.before.Serves i (.confirm session assetId (some confirmed)) ∧
      ConfirmVerified (ownLog i pre) assetId confirmed.tokenId draft chainAsset ∧
        ConfirmWrites rt (ownLog i pre) assetId confirmed chainAsset (.update filter patch) := by
  obtain ⟨req, hserves, hreaches⟩ := h.awaited hmove
  cases req with
  | list session orgId =>
      exact absurd (bindsNothing_of_reads ((reads_list session orgId).reached hreaches)) hpatch
  | create session body =>
      exact absurd ((bindsNothing_create session body).reached hreaches) hpatch
  | confirm session assetId body =>
      obtain ⟨confirmed, draft, chainAsset, rfl, hverified, hwrites⟩ :=
        writes_of_confirm id hreaches
      exact ⟨session, assetId, confirmed, draft, chainAsset, hserves, hverified, hwrites⟩

/-! ## What has been read -/

/-- A claim that a thread has read was a row at that moment. -/
theorem stored_of_selectClaims (h : (assetServer σ rt).Run s ts c) {i : Nat} {withContract : Bool}
    {tokenId : Nat} {keepAssetId : String} {claims : List ClaimRow}
    (hread : ⟨.selectClaims withContract tokenId keepAssetId, .ok claims⟩ ∈ ownLog i ts)
    {claim : ClaimRow} (hclaim : claim ∈ claims) :
    ∃ t ∈ ts, ∃ row ∈ storedRows t.before, claim = row.claim withContract := by
  obtain ⟨t, ht, hmove⟩ := mem_ownLog.1 hread
  obtain ⟨-, -, -, -, hexec, -⟩ := Transition.Valid.perform (h.valid t ht) hmove
  have hexec : AssetServerState.exec rt.server t.before.shared
    (.selectClaims withContract tokenId keepAssetId) (.ok claims) t.after.shared := hexec
  obtain ⟨rows, hperm, hattempted⟩ := hexec
  have hselected := (Prod.mk.inj hattempted.of_ok).1
  unfold AssetStore.select at hselected
  split at hselected
  · cases hselected
  · rw [← Except.ok.inj hselected] at hclaim
    obtain ⟨row, hrow, rfl⟩ := List.mem_map.1 hclaim
    exact ⟨t, ht, row, (AssetStore.mem_holders.1 (hperm.mem_iff.1 hrow)).1, rfl⟩

/-- A draft that has been read was a row at that moment. -/
theorem stored_of_selectDraft {t : (assetServer σ rt).Transition} (h : t.Valid) {i : Nat}
    {assetId : String} {draft : DraftRow}
    (hmove : t.move = .perform i (.selectDraft assetId) (.ok (some draft))) :
    ∃ row ∈ storedRows t.before, row.id = assetId ∧ draft = row.draftRow := by
  obtain ⟨-, -, -, -, hexec, -⟩ := h.perform hmove
  have hattempted : Attempted t.before.shared (.ok ((AssetStore.find
      (AssetServerState.assets t.before.shared) assetId).map (·.draftRow)), t.before.shared)
      (.ok (some draft)) t.after.shared := hexec
  have hfound := Except.ok.inj (Prod.mk.inj hattempted.of_ok).1
  obtain ⟨row, hrow, rfl⟩ := Option.map_eq_some_iff.1 hfound
  obtain ⟨hmem, hid⟩ :=
    (lookup_eq_some_iff (AssetServerState.assets t.before.shared).lawful.primaryKey).1 hrow
  exact ⟨row, hmem, hid, rfl⟩

/-- A token that has been read had that state at that moment. -/
theorem token_of_readAsset {t : (assetServer σ rt).Transition} (h : t.Valid) {i : Nat}
    {tokenId : Nat} {chainAsset : AssetState}
    (hmove : t.move = .perform i (.server (.readAsset tokenId)) (.ok (some chainAsset))) :
    (ServerState.chain (AssetServerState.server t.before.shared)).readAsset tokenId =
      .ok (some chainAsset) := by
  obtain ⟨-, -, -, -, hexec, -⟩ := h.perform hmove
  have hexec : AssetServerState.exec rt.server t.before.shared (.server (.readAsset tokenId))
      (.ok (some chainAsset)) t.after.shared := hexec
  exact (Prod.mk.inj (Attempt.of_ok hexec.1)).1

/-- No request migrates the table. -/
theorem migrated_kept {c c' : (assetServer σ rt).Config}
    (h : (assetServer σ rt).system.Path c ts c') :
    (∀ t ∈ ts, (AssetServerState.assets t.before.shared).migrated =
        (AssetServerState.assets c.shared).migrated) ∧
      (AssetServerState.assets c'.shared).migrated = (AssetServerState.assets c.shared).migrated := by
  obtain ⟨hend, hall⟩ := h.invariant
    (P := fun m => (AssetServerState.assets m.shared).migrated =
      (AssetServerState.assets c.shared).migrated)
    (fun t _ hvalid hbefore => by
      refine Eq.trans ?_ hbefore
      rcases hvalid.shared with heq | ⟨i, op, r, -, hexec⟩ | henv
      · exact congrArg (fun shared : AssetServerState σ => shared.assets.migrated) heq
      · exact AssetServerState.exec_migrated hexec
      · exact congrArg AssetStore.migrated henv.2) rfl
  exact ⟨fun t ht => (hall t ht).1, hend⟩

/-- In a migrated table no statement reports a missing column. -/
theorem known_of_update (h : (assetServer σ rt).Run s ts c) (hmigrated : s.assets.migrated = true)
    {i : Nat} {filter : AssetFilter} {patch : AssetPatch} {e : DbError}
    (hread : ⟨.update filter patch, .error e⟩ ∈ ownLog i ts) : isUnknownColumn e = false := by
  obtain ⟨t, ht, hmove⟩ := mem_ownLog.1 hread
  obtain ⟨-, -, -, -, hexec, -⟩ := Transition.Valid.perform (h.valid t ht) hmove
  have hattempted : Attempted t.before.shared
    (AssetServerState.withAssets t.before.shared
      (AssetStore.update (AssetServerState.assets t.before.shared) filter patch)) (.error e)
    t.after.shared := hexec
  have hnow : (AssetServerState.assets t.before.shared).migrated = true :=
    ((migrated_kept h).1 t ht).trans hmigrated
  cases he : isUnknownColumn e with
  | false => rfl
  | true =>
      have hresult := congrArg Prod.fst (hattempted.of_unknownColumn he)
      have hlacks :
          AssetStore.lacks (AssetServerState.assets t.before.shared) patch.stamp = false := by
        simp [AssetStore.lacks, hnow]
      unfold AssetServerState.withAssets AssetStore.update at hresult
      rw [dif_neg (by simp [hlacks])] at hresult
      dsimp only at hresult
      split at hresult
      · cases hresult
      · rw [← Except.error.inj hresult] at he
        cases he

/-! ## What a row loses and gains -/

/-- A row loses its token to a confirmation that has found it contradicted. -/
theorem released_of_unbound {pre post : List (assetServer σ rt).Transition}
    {t : (assetServer σ rt).Transition} (h : (assetServer σ rt).Run s (pre ++ t :: post) c)
    {row row' : StoredAsset} (hrow : row ∈ storedRows t.before) (hrow' : row' ∈ storedRows t.after)
    (hid : row'.id = row.id) {tokenId : Nat} (hbound : row.tokenId = some tokenId)
    (hlost : row'.tokenId ≠ some tokenId) :
    ∃ i claim r chainAsset, t.move = .perform i (releaseOp tokenId claim) r ∧
      ⟨.server (.readAsset tokenId), .ok (some chainAsset)⟩ ∈ ownLog i pre ∧
        row.id = claim.id ∧ row.assetHash = claim.assetHash ∧
        sameHex claim.assetHash (hex chainAsset.assetHash) = false := by
  obtain ⟨hbefore, hvalid, -⟩ := h.split_at
  rcases row_step hvalid hrow hrow' hid with rfl | ⟨i, filter, patch, r, hmove, hadmits, rfl⟩
  · exact absurd hbound hlost
  · have hpatch : ¬ AssetOp.BindsNothing (.update filter patch) := by
      intro ⟨hnone, _⟩
      exact hlost (by simpa [AssetPatch.onto, hnone] using hbound)
    obtain ⟨session, assetId, confirmed, draft, chainAsset, -, hverified, hwrites⟩ :=
      writes_of_run h hmove hpatch
    generalize hop : AssetOp.update filter patch = op at hwrites
    cases hwrites with
    | @release withContract claims claim hselect hclaim hverdict =>
        obtain ⟨rfl, rfl⟩ := AssetOp.update.inj hop
        simp only [AssetFilter.admits, Option.all_some, Bool.and_eq_true, beq_iff_eq] at hadmits
        obtain ⟨hrowId, htoken⟩ := hadmits
        obtain rfl := Option.some.inj (htoken.symm.trans hbound)
        -- The row anchors what it did when the claim was read.
        obtain ⟨u, hu, claimed, hclaimed, rfl⟩ := stored_of_selectClaims hbefore hselect hclaim
        obtain ⟨front, back, rfl⟩ := List.append_of_mem hu
        obtain ⟨-, huvalid, hrest⟩ := hbefore.split_at
        have hsame := (anchor_kept (.cons huvalid hrest) hclaimed hrow hrowId).1
        exact ⟨i, _, r, chainAsset, hmove, hverified.token_read, hrowId, hsame,
          differs_of_release hverdict⟩
    | bind =>
        obtain ⟨rfl, rfl⟩ := AssetOp.update.inj hop
        simp [AssetFilter.admits, hbound] at hadmits
    | bindUnstamped hlacks he =>
        obtain ⟨rfl, rfl⟩ := AssetOp.update.inj hop
        simp [AssetFilter.admits, hbound] at hadmits

/-- What a row gains is bound by a confirmation that has verified it. -/
theorem verified_of_bound {pre post : List (assetServer σ rt).Transition}
    {t : (assetServer σ rt).Transition} (h : (assetServer σ rt).Run s (pre ++ t :: post) c)
    {row row' : StoredAsset} (hrow : row ∈ storedRows t.before) (hrow' : row' ∈ storedRows t.after)
    (hid : row'.id = row.id) {tokenId : Nat} (hunbound : row.tokenId ≠ some tokenId)
    (hbound : row'.tokenId = some tokenId) :
    ∃ i filter patch r session confirmed draft chainAsset,
      t.move = .perform i (.update filter patch) r ∧
        t.before.Serves i (.confirm session row.id (some confirmed)) ∧ confirmed.tokenId = tokenId ∧
        ConfirmVerified (ownLog i pre) row.id tokenId draft chainAsset ∧
        AssetPatch.onto patch row = row' ∧
        (AssetOp.update filter patch = bindOp row.id confirmed (some rt.deployment) ∨
          AssetOp.update filter patch = bindOp row.id confirmed none ∧ ∃ e,
            ⟨bindOp row.id confirmed (some rt.deployment), .error e⟩ ∈ ownLog i pre ∧
              isUnknownColumn e = true) := by
  obtain ⟨-, hvalid, -⟩ := h.split_at
  rcases row_step hvalid hrow hrow' hid with rfl | ⟨i, filter, patch, r, hmove, hadmits, rfl⟩
  · exact absurd hbound hunbound
  · have hpatch : ¬ AssetOp.BindsNothing (.update filter patch) := by
      intro ⟨hnone, _⟩
      exact hunbound (by simpa [AssetPatch.onto, hnone] using hbound)
    obtain ⟨session, assetId, confirmed, draft, chainAsset, hserves, hverified, hwrites⟩ :=
      writes_of_run h hmove hpatch
    generalize hop : AssetOp.update filter patch = op at hwrites
    cases hwrites with
    | release hselect hclaim hverdict =>
        obtain ⟨rfl, rfl⟩ := AssetOp.update.inj hop
        simp [AssetPatch.onto] at hbound
    | bind =>
        obtain ⟨rfl, rfl⟩ := AssetOp.update.inj hop
        have htoken : confirmed.tokenId = tokenId := by simpa [AssetPatch.onto] using hbound
        have hrowId : row.id = assetId := by
          have hboth : row.id = assetId ∧ row.tokenId = none := by
            simpa [AssetFilter.admits] using hadmits
          exact hboth.1
        subst htoken hrowId
        exact ⟨i, _, _, r, session, confirmed, draft, chainAsset, hmove, hserves, rfl, hverified,
          rfl, .inl rfl⟩
    | @bindUnstamped e hlacks he =>
        obtain ⟨rfl, rfl⟩ := AssetOp.update.inj hop
        have htoken : confirmed.tokenId = tokenId := by simpa [AssetPatch.onto] using hbound
        have hrowId : row.id = assetId := by
          have hboth : row.id = assetId ∧ row.tokenId = none := by
            simpa [AssetFilter.admits] using hadmits
          exact hboth.1
        subst htoken hrowId
        exact ⟨i, _, _, r, session, confirmed, draft, chainAsset, hmove, hserves, rfl, hverified,
          rfl, .inr ⟨rfl, e, hlacks, he⟩⟩

end Runs

end OwneX
