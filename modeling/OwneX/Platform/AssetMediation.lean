import OwneX.Platform.LostBindings
import OwneX.Platform.Mediation

set_option autoImplicit false

/-! # Who may change the table `assets`

A registration adds a row and writes its metadata URI, and a confirmation binds it to a token. Either
is done for a wallet that was seen to hold `MINT_ASSETS` in the organization of the row. There is one
exception, and it crosses organizations: a confirmation takes a token away from any row whose hash the
chain contradicts. Then the wallet holds the permission in the organization that the token has on the
chain. Nothing changes what a row says about the asset. -/

namespace OwneX

open Js JsNumber Prog Interleaving Service KeyedList

variable [Str.CaseMapping] {σ : Type} [ERC721 σ] {rt : AssetRuntime}

/-! ## What is said -/

/-- What was asked of the server, of all that was asked. -/
def serverMoments (seen : List (AssetOp × AssetServerState σ)) : Moments σ :=
  seen.filterMap fun moment =>
    match moment.1 with
    | .server op => some (op, moment.2.server)
    | _ => none

/-- The row with an id. -/
def AssetServerState.row (s : AssetServerState σ) (id : String) : Option StoredAsset :=
  s.assets.find id

/-- The wallet of the session may mint in the organization. -/
abbrev SeenMinter (seen : List (AssetOp × AssetServerState σ)) (session : SessionData)
    (wallet : Address) (orgId : Nat) : Prop :=
  SeenPermitted (serverMoments seen) session wallet orgId PERM_MINT_ASSETS

/-- A row loses its token, which the chain was seen to contradict, to somebody who may mint in the
    organization that the token has there. -/
def SeenContradicted (seen : List (AssetOp × AssetServerState σ)) (session : SessionData)
    (wallet : Address) (old : StoredAsset) (row : Option StoredAsset) : Prop :=
  ∃ tokenId s chainAsset, old.tokenId = some tokenId ∧
    row = some { old with tokenId := none, mintTxHash := none } ∧
    (.server (.readAsset tokenId), s) ∈ seen ∧
    s.server.chain.readAsset tokenId = .ok (some chainAsset) ∧
    sameHex old.assetHash (hex chainAsset.assetHash) = false ∧
    SeenMinter seen session wallet chainAsset.orgId

variable (rt) in
/-- What a request may make of a row, after it has done and seen so much. -/
inductive RowChange (log : List ((op : AssetOp) × op.Res))
    (seen : List (AssetOp × AssetServerState σ)) (wallet : Address) :
    AssetRequest → Option StoredAsset → Option StoredAsset → Prop where
  /-- A registration adds a draft. -/
  | drafted {session : SessionData} {body : Option DraftBody} {draft : AssetDraft}
      {stamp : Option AssetDeployment} {id createdAt : String} :
      SeenMinter seen session wallet draft.orgId.1 →
      RowChange log seen wallet (.create session body) none (some (draft.toRow stamp id createdAt))
  /-- And writes where its metadata is. -/
  | described {session : SessionData} {body : Option DraftBody} {draft : AssetDraft}
      {stamp : Option AssetDeployment} {old : StoredAsset} {uri : String} :
      ⟨.insert draft stamp, .ok old.id⟩ ∈ log → SeenMinter seen session wallet old.orgId.1 →
      RowChange log seen wallet (.create session body) (some old)
        (some { old with metadataUri := some uri })
  /-- A confirmation binds its draft, and stamps it where the table has the columns. -/
  | bound {session : SessionData} {confirmed : ConfirmBody} {old : StoredAsset} {chainId : Option Nat}
      {contractAddress : Option Address} :
      old.tokenId = none → SeenMinter seen session wallet old.orgId.1 →
      (chainId, contractAddress) = (some rt.deployment.chainId, some rt.deployment.contractAddress) ∨
        (chainId, contractAddress) = (old.chainId, old.contractAddress) →
      RowChange log seen wallet (.confirm session old.id (some confirmed)) (some old)
        (some { old with
          tokenId := some confirmed.tokenId
          mintTxHash := some confirmed.txHash
          chainId
          contractAddress })
  /-- And releases another row. -/
  | released {session : SessionData} {assetId : String} {body : Option ConfirmBody}
      {old : StoredAsset} {row : Option StoredAsset} :
      SeenContradicted seen session wallet old row →
      RowChange log seen wallet (.confirm session assetId body) (some old) row

/-- The rows agree but for the columns of a binding and the metadata URI. -/
def StoredAsset.SameAsset (old row : StoredAsset) : Prop :=
  row = { old with
    tokenId := row.tokenId
    mintTxHash := row.mintTxHash
    chainId := row.chainId
    contractAddress := row.contractAddress
    metadataUri := row.metadataUri }

/-- What a transition makes of a row, after `pre`, is done by somebody who may. No row disappears, and
    none is made to speak of another asset. -/
structure RowMediated (pre : List (assetServer σ rt).Transition) (t : (assetServer σ rt).Transition)
    (id : String) : Prop where
  change : ∃ i req wallet, t.Acts i req ∧
    RowChange rt (ownLog i pre) (moments i pre) wallet req (t.before.shared.row id)
      (t.after.shared.row id)
  sameAsset : ∀ old, t.before.shared.row id = some old →
    ∃ row, t.after.shared.row id = some row ∧ old.SameAsset row

/-- By the kinds of change. -/
theorem RowChange.sameAsset {log : List ((op : AssetOp) × op.Res)}
    {seen : List (AssetOp × AssetServerState σ)} {wallet : Address}
    {req : AssetRequest} {before after : Option StoredAsset}
    (h : RowChange rt log seen wallet req before after) {old : StoredAsset}
    (hold : before = some old) :
    ∃ row, after = some row ∧ old.SameAsset row := by
  cases h with
  | drafted => cases hold
  | described =>
      cases hold
      exact ⟨_, rfl, rfl⟩
  | bound =>
      cases hold
      exact ⟨_, rfl, rfl⟩
  | released hcontradicted =>
      cases hold
      obtain ⟨-, -, -, -, hrow, -⟩ := hcontradicted
      exact ⟨_, hrow, rfl⟩

/-! ## What a request has read before it writes -/

/-- What a route has done for the sake of the server, in the states of that moment. -/
theorem minter_of_returns {s : AssetServerState σ} {ts : List (assetServer σ rt).Transition}
    {c : (assetServer σ rt).Config} (h : (assetServer σ rt).Run s ts c) {i : Nat}
    {session : SessionData} {orgId : Nat} {caller : Caller}
    {log : List ((op : AssetOp) × op.Res)} (hlog : ∀ e ∈ log, e ∈ ownLog i ts)
    (hcaller : Returns (onServer (authorize session orgId .mintAssets)).run log (.ok caller)) :
    SeenMinter (moments i ts) session caller.wallet orgId := by
  obtain ⟨inner, hinner, hdone⟩ := log_of_embed hcaller
  have hwitnesses : Witnesses rt.server (serverMoments (moments i ts)) inner :=
    witnesses_of_within h AssetOp.server AssetServerState.server (fun hexec => hexec.1)
      (fun hmoment => List.mem_filterMap.2 ⟨_, hmoment, rfl⟩) hdone hlog
  exact hwitnesses.permitted hinner

omit [Str.CaseMapping] in
/-- A draft is loaded for a caller who may mint in its organization. -/
theorem authorized_of_loadDraft {session : SessionData} {assetId : String} {draft : DraftRow}
    {log : List ((op : AssetOp) × op.Res)}
    (h : Returns (loadDraft session assetId).run log (.ok draft)) :
    ∃ caller guard, guard ⊆ log ∧ ⟨.selectDraft assetId, .ok (some draft)⟩ ∈ log ∧
      Returns (onServer (authorize session draft.orgId.1 .mintAssets)).run guard (.ok caller) := by
  obtain ⟨found, front, back, hlog, hselect, hrest⟩ := returns_attempt_bind.1 h
  have hfront := returns_call.1 hselect
  obtain ⟨row, hfound, hdraft⟩ := returns_require_bind.1 hrest
  split at hdraft
  · obtain ⟨-, herror⟩ := returns_throw.1 hdraft
    cases herror
  · obtain ⟨caller, guard, rest, hback, hguard, hpure⟩ := returns_exceptT_bind.1 hdraft
    obtain ⟨-, rfl⟩ := returns_exceptT_pure.1 hpure
    subst hback hfront hfound hlog
    exact ⟨caller, guard, by simp, by simp, hguard⟩

/-- Before a confirmation writes, its caller has been authorized for the draft, and the token agrees
    with the draft. -/
theorem authorized_of_confirm {session : SessionData} {assetId : String} {body : Option ConfirmBody}
    {log : List ((op : AssetOp) × op.Res)} {op : AssetOp} (hop : ¬ op.Reads)
    (h : Reaches (confirm rt session assetId body).run log op) :
    ∃ confirmed draft chainAsset caller guard, body = some confirmed ∧ guard ⊆ log ∧
      ⟨.selectDraft assetId, .ok (some draft)⟩ ∈ log ∧
      Returns (onServer (authorize session draft.orgId.1 .mintAssets)).run guard (.ok caller) ∧
      ⟨.server (.readAsset confirmed.tokenId), .ok (some chainAsset)⟩ ∈ log ∧
      chainAsset.orgId = draft.orgId.1 ∧
      ConfirmWrites rt log assetId confirmed chainAsset op := by
  obtain ⟨confirmed, hbody, hloading⟩ := reaches_require_bind.1 h
  obtain ⟨draft, front, back, hlog, hload, hverifying⟩ :=
    hloading.second (reads_loadDraft _ _) hop
  obtain ⟨chainAsset, read, rest, hback, hverify, hwriting⟩ :=
    hverifying.second (reads_verifyOnChain _ _) hop
  obtain ⟨caller, guard, hguard, hselect, hcaller⟩ := authorized_of_loadDraft hload
  obtain ⟨hread, horg, -⟩ := returns_verifyOnChain hverify
  subst hread hback hlog
  refine ⟨confirmed, draft, chainAsset, caller, guard, (Option.filter_eq_some_iff.1 hbody).1,
    List.Subset.trans hguard (List.subset_append_left ..), List.mem_append_left _ hselect, hcaller,
    by simp, horg, ?_⟩
  refine (writes_of_verified hop hwriting).mono fun entry hmem => ?_
  exact List.mem_append_right _ (List.mem_append_right _ hmem)

theorem reads_prepareDraft (body : DraftBody) (caller : Caller) :
    Only AssetOp.Reads (prepareDraft rt body caller).run := by
  refine only_exceptT_bind (reads_onServer _) fun serialEncrypted => ?_
  refine only_exceptT_bind (reads_onServer _) fun invoiceEncrypted => ?_
  split
  · exact only_require _ _
  · exact .done _

theorem orgId_of_prepareDraft {body : DraftBody} {caller : Caller} {draft : AssetDraft}
    {log : List ((op : AssetOp) × op.Res)}
    (h : Returns (prepareDraft rt body caller).run log (.ok draft)) : draft.orgId.1 = body.orgId := by
  obtain ⟨serialEncrypted, _, _, -, -, hrest⟩ := returns_exceptT_bind.1 h
  obtain ⟨invoiceEncrypted, _, _, -, -, hrest⟩ := returns_exceptT_bind.1 hrest
  split at hrest
  · obtain ⟨-, hcolumns⟩ := returns_require.1 hrest
    unfold DraftBody.columns at hcolumns
    simp only [Option.bind_eq_bind, Option.bind_eq_some_iff] at hcolumns
    obtain ⟨_, -, _, -, _, -, _, -, heq⟩ := hcolumns
    obtain rfl := Option.some.inj heq
    rfl
  · obtain ⟨-, herror⟩ := returns_throw.1 hrest
    cases herror

omit [Str.CaseMapping] in
/-- A draft that has been inserted was inserted with a stamp or without. -/
theorem returns_tryInsert {draft : AssetDraft} {id : String} {log : List ((op : AssetOp) × op.Res)}
    (h : Returns (tryInsert rt draft).run log (.ok (.ok id))) :
    ∃ stamp, ⟨.insert draft stamp, .ok id⟩ ∈ log := by
  obtain ⟨answer, rest, rfl, hrest⟩ := returns_ask_bind.1 h
  cases answer with
  | ok id' =>
      obtain ⟨-, hid⟩ := returns_exceptT_pure.1 hrest
      cases hid
      exact ⟨_, List.mem_cons_self ..⟩
  | error e =>
      dsimp only at hrest
      split at hrest
      · obtain ⟨answer, rest, rfl, hlegacy⟩ := returns_await.1 hrest
        obtain ⟨-, hid⟩ := returns_done.1 hlegacy
        cases hid
        exact ⟨none, List.mem_cons_of_mem _ (List.mem_cons_self ..)⟩
      · obtain ⟨-, hid⟩ := returns_exceptT_pure.1 hrest
        cases hid

/-- What a registration writes: a draft in the organization of its body, for which its caller has been
    authorized, and then the metadata URI of the row that came of it. -/
theorem writes_of_create {session : SessionData} {body : Option DraftBody}
    {log : List ((op : AssetOp) × op.Res)} {op : AssetOp} (hop : ¬ op.Reads)
    (h : Reaches (createDraft rt session body).run log op) :
    ∃ orgId caller guard, guard ⊆ log ∧
      Returns (onServer (authorize session orgId .mintAssets)).run guard (.ok caller) ∧
      ((∃ draft stamp, op = .insert draft stamp ∧ draft.orgId.1 = orgId) ∨
        ∃ draft stamp id uri, op = .update { id } { metadataUri := some uri } ∧
          ⟨.insert draft stamp, .ok id⟩ ∈ log ∧ draft.orgId.1 = orgId) := by
  obtain ⟨accepted, -, hguarded⟩ := reaches_require_bind.1 h
  obtain ⟨caller, guard, rest, hlog, hcaller, hpreparing⟩ :=
    hguarded.second (reads_onServer _) hop
  obtain ⟨draft, read, rest', hrest, hprepare, hwriting⟩ :=
    hpreparing.second (reads_prepareDraft accepted caller) hop
  have horg := orgId_of_prepareDraft hprepare
  refine ⟨accepted.orgId, caller, guard, by simp [hlog], hcaller, ?_⟩
  rcases reaches_exceptT_bind.1 hwriting with hinsert | ⟨inserted, front, back, hrest', htried, h⟩
  · rcases reaches_ask_bind.1 hinsert with ⟨-, rfl⟩ | ⟨answer, rest, -, hsecond⟩
    · exact .inl ⟨draft, _, rfl, horg⟩
    · cases answer with
      | ok id => exact absurd hsecond reaches_exceptT_pure
      | error e =>
          dsimp only at hsecond
          split at hsecond
          · obtain ⟨-, rfl⟩ := reaches_ask.1 hsecond
            exact .inl ⟨draft, none, rfl, horg⟩
          · exact absurd hsecond reaches_exceptT_pure
  · cases inserted with
    | error e => exact absurd h reaches_done
    | ok id =>
        obtain ⟨stamp, hstored⟩ := returns_tryInsert htried
        rcases reaches_ask_bind.1 h with ⟨-, rfl⟩ | ⟨answer, rest, -, hlast⟩
        · exact .inr ⟨draft, stamp, id, _, rfl, by simp [hlog, hrest, hrest', hstored], horg⟩
        · exact absurd hlast reaches_exceptT_pure

/-! ## Runs -/

section Runs

variable {s : AssetServerState σ} {ts pre post : List (assetServer σ rt).Transition}
  {t : (assetServer σ rt).Transition} {c : (assetServer σ rt).Config} {i : Nat}

theorem row_eq_some {c : (assetServer σ rt).Config} {id : String} {row : StoredAsset} :
    c.shared.row id = some row ↔ row ∈ storedRows c ∧ row.id = id :=
  lookup_eq_some_iff (AssetServerState.assets c.shared).lawful.primaryKey

theorem row_eq_none {c : (assetServer σ rt).Config} {id : String} :
    c.shared.row id = none ↔ ∀ row ∈ storedRows c, row.id ≠ id :=
  lookup_eq_none_iff.trans (by simp)

/-- A row that a thread has inserted is in the organization of its draft. -/
theorem orgId_of_insert (h : (assetServer σ rt).Run s ts c) {draft : AssetDraft}
    {stamp : Option AssetDeployment} {id : String}
    (hread : ⟨.insert draft stamp, .ok id⟩ ∈ ownLog i ts) {row : StoredAsset}
    (hrow : row ∈ storedRows c) (hid : row.id = id) : row.orgId = draft.orgId := by
  obtain ⟨t, ht, hmove⟩ := mem_ownLog.1 hread
  obtain ⟨front, back, rfl⟩ := List.append_of_mem ht
  obtain ⟨-, hvalid, hrest⟩ := h.split_at
  obtain ⟨-, -, -, -, hexec, -⟩ := Transition.Valid.perform hvalid hmove
  obtain ⟨id', createdAt, hattempted⟩ : ∃ id' createdAt, Attempted t.before.shared
    (AssetServerState.withAssets t.before.shared
      (AssetStore.insert (AssetServerState.assets t.before.shared) draft stamp id' createdAt))
    (.ok id) t.after.shared := hexec
  obtain ⟨hresult, hafter⟩ := Prod.mk.inj hattempted.of_ok
  have hrows : storedRows t.after = (AssetStore.insert (AssetServerState.assets t.before.shared)
      draft stamp id' createdAt).2.rows :=
    congrArg (fun shared : AssetServerState σ => shared.assets.rows) hafter.symm
  rcases (AssetServerState.assets t.before.shared).insert_cases draft stamp id' createdAt with
    ⟨e, herror⟩ | ⟨hok, hinserted, -⟩
  · rw [herror] at hresult
    cases hresult
  · obtain rfl : id' = id := Except.ok.inj (hok.symm.trans hresult)
    have hnew : draft.toRow stamp id' createdAt ∈ storedRows t.after := by
      rw [hrows, hinserted]
      simp
    exact (anchor_kept hrest hnew hrow hid).2

/-- A row that a thread has read as a draft is in the organization that it read. -/
theorem orgId_of_selectDraft (h : (assetServer σ rt).Run s ts c) {assetId : String}
    {draft : DraftRow} (hread : ⟨.selectDraft assetId, .ok (some draft)⟩ ∈ ownLog i ts)
    {row : StoredAsset} (hrow : row ∈ storedRows c) (hid : row.id = assetId) :
    row.orgId = draft.orgId := by
  obtain ⟨t, ht, hmove⟩ := mem_ownLog.1 hread
  obtain ⟨front, back, rfl⟩ := List.append_of_mem ht
  obtain ⟨-, hvalid, hrest⟩ := h.split_at
  obtain ⟨stored, hstored, hsame, rfl⟩ := stored_of_selectDraft hvalid hmove
  exact (anchor_kept (.cons hvalid hrest) hstored hrow (hid.trans hsame.symm)).2

/-- A row appears as the draft of a registration. -/
theorem row_created (h : (assetServer σ rt).Run s (pre ++ t :: post) c) {row : StoredAsset}
    (hrow : row ∈ storedRows t.after) (hnew : ∀ old ∈ storedRows t.before, old.id ≠ row.id) :
    ∃ i req wallet, t.Acts i req ∧
      RowChange rt (ownLog i pre) (moments i pre) wallet req none (some row) := by
  obtain ⟨hbefore, hvalid, -⟩ := h.split_at
  rcases rows_step hvalid with heq | ⟨i, filter, patch, r, hmove, heq⟩ |
    ⟨i, draft, stamp, r, id, createdAt, hmove, heq⟩
  · exact absurd rfl (hnew row (heq ▸ hrow))
  · rw [heq] at hrow
    obtain ⟨old, hold, rfl⟩ := mem_modify.1 hrow
    refine absurd ?_ (hnew old hold)
    split <;> rfl
  · rw [heq] at hrow
    obtain rfl : row = draft.toRow stamp id createdAt := by
      rcases List.mem_append.1 hrow with hrow | hrow
      · exact absurd rfl (hnew row hrow)
      · exact List.mem_singleton.1 hrow
    have hwrites : ¬ AssetOp.Reads (.insert draft stamp) := fun hreads => hreads
    obtain ⟨req, hserves, hreaches⟩ := h.awaited hmove
    cases req with
    | list session orgId => exact absurd ((reads_list session orgId).reached hreaches) hwrites
    | confirm session assetId body =>
        obtain ⟨_, _, _, _, _, -, -, -, -, -, -, hconfirm⟩ := authorized_of_confirm hwrites hreaches
        cases hconfirm
    | create session body =>
        obtain ⟨orgId, caller, guard, hguard, hcaller, hcases⟩ := writes_of_create hwrites hreaches
        rcases hcases with ⟨draft', stamp', heq, horg⟩ | ⟨_, _, _, _, heq, -⟩
        · obtain ⟨rfl, rfl⟩ := AssetOp.insert.inj heq
          subst horg
          exact ⟨i, .create session body, caller.wallet, ⟨hserves, _, _, hmove⟩,
            .drafted (minter_of_returns hbefore (fun e he => hguard he) hcaller)⟩
        · cases heq

omit [Str.CaseMapping] in
theorem AssetFilter.tokenId_of_admits {id : String} {tokenId : Option Nat} {row : StoredAsset}
    (h : (AssetFilter.mk id (some tokenId)).admits row = true) : row.tokenId = tokenId := by
  simp only [admits, Option.all_some, Bool.and_eq_true, beq_iff_eq] at h
  exact h.2

/-- A row is described, bound or released. -/
theorem row_updated (h : (assetServer σ rt).Run s (pre ++ t :: post) c) {old row : StoredAsset}
    (hold : old ∈ storedRows t.before) (hrow : row ∈ storedRows t.after) (hid : row.id = old.id)
    (hchange : row ≠ old) :
    ∃ i req wallet, t.Acts i req ∧
      RowChange rt (ownLog i pre) (moments i pre) wallet req (some old) (some row) := by
  obtain ⟨hbefore, hvalid, -⟩ := h.split_at
  obtain ⟨i, filter, patch, r, hmove, hadmits, rfl⟩ :=
    (row_step hvalid hold hrow hid).resolve_left hchange
  have hwrites : ¬ AssetOp.Reads (.update filter patch) := fun hreads => hreads
  have hfilter : old.id = filter.id := by
    simp only [AssetFilter.admits, Bool.and_eq_true, beq_iff_eq] at hadmits
    exact hadmits.1
  obtain ⟨req, hserves, hreaches⟩ := h.awaited hmove
  cases req with
  | list session orgId => exact absurd ((reads_list session orgId).reached hreaches) hwrites
  | create session body =>
      obtain ⟨orgId, caller, guard, hguard, hcaller, hcases⟩ := writes_of_create hwrites hreaches
      rcases hcases with ⟨_, _, heq, -⟩ | ⟨draft, stamp, id, uri, heq, hinsert, horg⟩
      · cases heq
      · obtain ⟨rfl, rfl⟩ := AssetOp.update.inj heq
        obtain rfl : old.id = id := hfilter
        have hsame := orgId_of_insert hbefore hinsert hold rfl
        have hminter := minter_of_returns hbefore (fun e he => hguard he) hcaller
        rw [← horg, ← hsame] at hminter
        exact ⟨i, .create session body, caller.wallet, ⟨hserves, _, _, hmove⟩,
          .described hinsert hminter⟩
  | confirm session assetId body =>
      obtain ⟨confirmed, draft, chainAsset, caller, guard, hbody, hguard, hselect, hcaller, hread,
        horg, hconfirm⟩ := authorized_of_confirm hwrites hreaches
      have hminter := minter_of_returns hbefore (fun e he => hguard he) hcaller
      refine ⟨i, .confirm session assetId body, caller.wallet, ⟨hserves, _, _, hmove⟩, ?_⟩
      generalize hop : AssetOp.update filter patch = op at hconfirm
      cases hconfirm with
      | @release withContract claims claim hclaims hclaim hverdict =>
          obtain ⟨rfl, rfl⟩ := AssetOp.update.inj hop
          have htoken := AssetFilter.tokenId_of_admits hadmits
          -- The row anchors what it did when the claim was read.
          obtain ⟨u, hu, claimed, hclaimed, rfl⟩ := stored_of_selectClaims hbefore hclaims hclaim
          obtain ⟨front, back, rfl⟩ := List.append_of_mem hu
          obtain ⟨-, huvalid, hrest⟩ := hbefore.split_at
          have hhash := (anchor_kept (.cons huvalid hrest) hclaimed hold hfilter).1
          obtain ⟨v, hv, hvmove⟩ := mem_ownLog.1 hread
          have hchain := token_of_readAsset (hbefore.valid v hv) hvmove
          refine .released ⟨confirmed.tokenId, v.before.shared, chainAsset, htoken, rfl,
            mem_moments hv hvmove, hchain, ?_, ?_⟩
          · rw [hhash]
            exact differs_of_release hverdict
          · rw [horg]
            exact hminter
      | bind =>
          obtain ⟨rfl, rfl⟩ := AssetOp.update.inj hop
          have hsame := orgId_of_selectDraft hbefore hselect hold hfilter
          have hdraft := AssetFilter.tokenId_of_admits hadmits
          rw [← hsame] at hminter
          subst hbody hfilter
          exact .bound hdraft hminter (.inl rfl)
      | bindUnstamped hlacks he =>
          obtain ⟨rfl, rfl⟩ := AssetOp.update.inj hop
          have hsame := orgId_of_selectDraft hbefore hselect hold hfilter
          have hdraft := AssetFilter.tokenId_of_admits hadmits
          rw [← hsame] at hminter
          subst hbody hfilter
          exact .bound hdraft hminter (.inr rfl)

/-- In every interleaving of requests, each change of a row of `assets` is of one of four kinds: a
    registration drafts the row or describes it, and a confirmation binds it, for a wallet that was
    seen to hold `MINT_ASSETS` in the row's organization; or a confirmation takes a contradicted token
    away, for one that was seen to hold it in the token's. -/
theorem asset_rows_mediated (h : (assetServer σ rt).Run s ts c) :
    ∀ pre t post id, ts = pre ++ t :: post → t.after.shared.row id ≠ t.before.shared.row id →
      RowMediated pre t id := by
  intro pre t post id hts hchange
  subst hts
  obtain ⟨i, req, wallet, hacts, hrow⟩ : ∃ i req wallet, t.Acts i req ∧
      RowChange rt (ownLog i pre) (moments i pre) wallet req (t.before.shared.row id)
        (t.after.shared.row id) := by
    cases hold : t.before.shared.row id with
    | none =>
        obtain ⟨row, hrow⟩ : ∃ row, t.after.shared.row id = some row := by
          rw [hold] at hchange
          exact Option.ne_none_iff_exists'.1 hchange
        obtain ⟨hmem, rfl⟩ := row_eq_some.1 hrow
        rw [hrow]
        exact row_created h hmem (row_eq_none.1 hold)
    | some old =>
        obtain ⟨holdMem, holdId⟩ := row_eq_some.1 hold
        obtain ⟨row, hmem, hid, -⟩ := row_after h.split_at.2.1 holdMem
        have hrow : t.after.shared.row id = some row := row_eq_some.2 ⟨hmem, hid.trans holdId⟩
        have hne : row ≠ old := by
          intro heq
          rw [hrow, hold, heq] at hchange
          exact hchange rfl
        rw [hrow]
        exact row_updated h holdMem hmem hid hne
  exact ⟨⟨i, req, wallet, hacts, hrow⟩, fun _ hold => hrow.sameAsset hold⟩

end Runs

/-! ## The rival is released and the draft is bound -/

namespace Sample

omit [Str.CaseMapping] in
theorem confirmed_mediated :
    ∃ (ts : List rivalServer.Transition) (c : rivalServer.Config),
      rivalServer.Run rivalStart ts c ∧
      (∀ pre t post id, ts = pre ++ t :: post →
        AssetServerState.row t.after.shared id ≠ AssetServerState.row t.before.shared id →
        @RowMediated asciiStrings Ledger _ assetRuntime pre t id) ∧
      (AssetServerState.row c.shared "draft").map (·.tokenId) = some (some 1) ∧
      (AssetServerState.row c.shared "rival").map (·.tokenId) = some none := by
  let _ := asciiStrings
  have hplay : (rivalPlayer.play (idle rivalStart) confirmCues).map
      (fun run : List rivalServer.Transition × rivalServer.Config =>
        ((AssetServerState.row run.2.shared "draft").map (·.tokenId),
          (AssetServerState.row run.2.shared "rival").map (·.tokenId))) =
      some (some (some 1), some none) := by
    decide +kernel
  obtain ⟨⟨ts, c⟩, hrun, htokens⟩ := Option.map_eq_some_iff.1 hplay
  obtain ⟨hdraft, hrival⟩ := Prod.mk.inj htokens
  exact ⟨ts, c, Player.play_path hrun, asset_rows_mediated (Player.play_path hrun), hdraft, hrival⟩

end Sample

end OwneX
