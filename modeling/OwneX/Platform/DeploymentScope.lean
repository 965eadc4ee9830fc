import OwneX.Platform.ConfirmRaces
import OwneX.Platform.FailedConfirm

set_option autoImplicit false

/-! # Rows of another deployment

A row is stamped with a pair of a chain and a contract. The list of assets and the check of claims
compare the contract and not the chain, and the confirmation of a draft does not look at its stamp. So
a request takes a row of another deployment for one of this one where both have a contract at the same
address, and a draft of any other deployment can be bound here. -/

namespace OwneX

open Js JsNumber Prog KeyedList

namespace StoredAsset

variable (D : AssetDeployment) (row : StoredAsset)

/-- Stamped with a pair that is not the configured one. -/
def Foreign : Prop :=
  ∃ D' : AssetDeployment, row.chainId = some D'.chainId ∧
    row.contractAddress = some D'.contractAddress ∧ D' ≠ D

/-- Stamped with the configured contract, on another chain. -/
def OtherChain : Prop :=
  row.contractAddress = some D.contractAddress ∧
    ∃ chainId, row.chainId = some chainId ∧ chainId ≠ D.chainId

variable {D row}

theorem OtherChain.foreign (h : row.OtherChain D) : row.Foreign D := by
  obtain ⟨hcontract, chainId, hchain, hother⟩ := h
  refine ⟨⟨chainId, D.contractAddress⟩, hchain, hcontract, fun heq => hother ?_⟩
  exact congrArg AssetDeployment.chainId heq

/-- What passes for a row of this deployment differs in the chain. -/
theorem Foreign.otherChain (h : row.Foreign D)
    (hcontract : row.contractAddress.all (· == D.contractAddress) = true) : row.OtherChain D := by
  obtain ⟨D', hchain, haddress, hne⟩ := h
  have hsame : D'.contractAddress = D.contractAddress := by
    simpa [haddress] using hcontract
  refine ⟨by rw [haddress, hsame], D'.chainId, hchain, fun heq => hne ?_⟩
  cases D'
  cases D
  simp_all

theorem Foreign.migrated {store : AssetStore} (h : row.Foreign D) (hrow : row ∈ store.rows) :
    store.migrated = true := by
  obtain ⟨D', hchain, -⟩ := h
  by_contra hold
  have hunstamped := store.unstamped (by simpa using hold) row hrow
  cases hchain.symm.trans hunstamped.2

end StoredAsset

/-! ## What is listed -/

/-- The rows that an answer shows, beside a token or as pending. -/
def Listing.shown (listing : Listing) : List AssetRow :=
  (listing.chainAssets.filterMap id).filterMap (fun chain => byToken listing.rows chain.tokenId) ++
    listing.rows.filter fun row => row.tokenId = none

/-- The ids of the rows that the answer to a request lists. -/
def AssetRequest.listedIds : (req : AssetRequest) → req.Ans → List String
  | .list .., .ok listing => listing.shown.map (·.id)
  | _, _ => []

section Listing

variable {σ : Type} [ERC721 σ] (rt : AssetRuntime) (fails : AssetOp → Option DbError)
  (created : String × String)

/-- The caller is a member of the organization. -/
def IsMember (s : ServerState σ) (session : SessionData) (orgId : Nat) : Prop :=
  ∃ wallet, session.walletAt s.clock = some wallet ∧ (s.chain.readIdentity wallet).registered = true ∧
    (s.chain.readIdentity wallet).active = true ∧ s.chain.readEffectiveRole orgId wallet ≠ .none

theorem alone_requireMember (rt : ServerRuntime) (s : ServerState σ) (session : SessionData)
    (orgId : SafeInt) :
    (∃ caller, alone (ServerState.answer rt)
        (requireMember serverReads (session.walletAt s.clock) orgId.1).run s = (.ok caller, s)) ∧
      IsMember s session orgId.1 ∨
    (∃ e, alone (ServerState.answer rt)
        (requireMember serverReads (session.walletAt s.clock) orgId.1).run s = (.error e, s)) ∧
      ¬ IsMember s session orgId.1 := by
  unfold IsMember requireMember
  cases session.walletAt s.clock with
  | none => exact .inr ⟨⟨_, rfl⟩, by simp⟩
  | some wallet =>
      have hactive := alone_requireActiveIdentity rt s wallet
      cases hregistered : (s.chain.readIdentity wallet).registered with
      | false =>
          rw [if_pos hregistered] at hactive
          exact .inr ⟨⟨_, alone_exceptT_bind_error hactive _⟩, by simp [hregistered]⟩
      | true =>
          rw [if_neg (by simp [hregistered])] at hactive
          cases hlive : (s.chain.readIdentity wallet).active with
          | false =>
              rw [if_pos hlive] at hactive
              exact .inr ⟨⟨_, alone_exceptT_bind_error hactive _⟩, by simp [hlive]⟩
          | true =>
              rw [if_neg (by simp [hlive])] at hactive
              have hrole : alone (ServerState.answer rt)
                  (orInternal (serverReads.readEffectiveRole orgId.1 wallet)).run s =
                    (.ok (s.chain.readEffectiveRole orgId.1 wallet), s) := by
                show alone _ (orInternal (onSafe orgId.1 _)).run s = _
                rw [onSafe_safeInt]
                rfl
              rw [alone_exceptT_bind hactive, alone_exceptT_bind hrole]
              by_cases hnone : s.chain.readEffectiveRole orgId.1 wallet = .none
              · simp only [hnone, if_true]
                exact .inr ⟨⟨_, rfl⟩, by simp [hnone]⟩
              · simp only [hnone, if_false]
                exact .inl ⟨⟨_, rfl⟩, wallet, rfl, hregistered, hlive, hnone⟩

/-- The tokens one after the other. -/
theorem alone_readAssets (rt : ServerRuntime) (s : ServerState σ) (tokenIds : List Nat) :
    alone (ServerState.answer rt) (readAssets tokenIds).run s =
      (tokenIds.mapM s.chain.readAsset, s) := by
  induction tokenIds with
  | nil => rfl
  | cons tokenId tokenIds ih =>
      have hread : alone (ServerState.answer rt) (attempt (call (ServerOp.readAsset tokenId))
          fun error => error : Await (Option AssetState)).run s =
            (s.chain.readAsset tokenId, s) := by
        have hanswer : alone (ServerState.answer rt) (call (ServerOp.readAsset tokenId)) s =
            (s.chain.readAsset tokenId, s) := rfl
        cases hasset : s.chain.readAsset tokenId with
        | ok asset =>
            rw [hasset] at hanswer
            exact alone_attempt hanswer _
        | error e =>
            rw [hasset] at hanswer
            exact alone_attempt_error hanswer _
      have hboth := alone_exceptT_both_eq hread ih
      rw [readAssets, List.mapM_cons]
      cases hasset : s.chain.readAsset tokenId with
      | error e =>
          rw [hasset] at hboth
          exact alone_exceptT_bind_error hboth _
      | ok asset =>
          rw [hasset] at hboth
          cases hassets : tokenIds.mapM s.chain.readAsset with
          | error e =>
              rw [hassets] at hboth
              exact alone_exceptT_bind_error hboth _
          | ok assets =>
              rw [hassets] at hboth
              exact alone_exceptT_bind hboth _

/-- The rows that a list of a migrated table is made from. -/
def listedRows (store : AssetStore) (orgId : SafeInt) : List AssetRow :=
  ofDeployment rt.deployment.contractAddress
    ((store.ofOrganization orgId).map fun row => row.toAssetRow)

/-- The assets of an organization are listed. -/
structure ListReady (s : AssetServerState σ) (session : SessionData) (orgIdParam : Option Nat)
    (orgId : SafeInt) (chainAssets : List (Option AssetState)) : Prop where
  asked : orgIdParam = some orgId.1
  positive : 0 < orgId.1
  member : IsMember s.server session orgId.1
  loads : fails (.selectOrgRows true orgId) = none
  onChain : (s.server.chain.readAssetsOfOrganization orgId.1).mapM s.server.chain.readAsset =
    .ok chainAssets

variable {rt fails}

theorem alone_readOrgRows [Str.CaseMapping]
    (hfails : ∀ op e, fails op = some e → isUnknownColumn e = false)
    {s : AssetServerState σ} (hmigrated : s.assets.migrated = true) (orgId : SafeInt) :
    alone (answering rt fails created) (readOrgRows rt orgId).run s =
      (if fails (.selectOrgRows true orgId) = none then .ok (listedRows rt s.assets orgId)
        else .error ⟨500, "Could not load assets", none⟩, s) := by
  have hask : alone (answering rt fails created) (ask (AssetOp.selectOrgRows true orgId) :
      AssetRoute (Except DbError (List AssetRow))).run s = _ := alone_ask _
  unfold readOrgRows
  cases hfail : fails (.selectOrgRows true orgId) with
  | none =>
      have hanswer : answering rt fails created s (.selectOrgRows true orgId) =
          (.ok ((s.assets.ofOrganization orgId).map (·.listed true)), s) := by
        simp only [AssetServerState.answer, hfail, AssetStore.select, hmigrated]
        rfl
      rw [hanswer] at hask
      rw [alone_exceptT_bind hask]
      rfl
  | some e =>
      have hanswer : answering rt fails created s (.selectOrgRows true orgId) = (.error e, s) := by
        simp only [AssetServerState.answer, hfail]
      rw [hanswer] at hask
      rw [alone_exceptT_bind hask]
      show alone _ (if isUnknownColumn e = true then _ else _ : AssetRoute (List AssetRow)).run s = _
      rw [if_neg (by simp [hfails _ e hfail])]
      rfl

/-- The rows and the tokens are read together. -/
theorem alone_readListing [Str.CaseMapping]
    (hfails : ∀ op e, fails op = some e → isUnknownColumn e = false)
    {s : AssetServerState σ} (hmigrated : s.assets.migrated = true) (orgId : SafeInt)
    (tokenIds : List Nat) :
    let listing := alone (answering rt fails created) (Async.both (readOrgRows rt orgId)
      (onServer (attempt (readAssets tokenIds).run fun _ => ApiError.internal))).run s
    (∃ chainAssets, fails (.selectOrgRows true orgId) = none ∧
        tokenIds.mapM s.server.chain.readAsset = .ok chainAssets ∧
        listing = (.ok (listedRows rt s.assets orgId, chainAssets), s)) ∨
      (∃ e, listing = (.error e, s)) ∧
        ∀ chainAssets, fails (.selectOrgRows true orgId) = none →
          tokenIds.mapM s.server.chain.readAsset ≠ .ok chainAssets := by
  have hrows : alone (answering rt fails created) (readOrgRows rt orgId).run s = _ :=
    alone_readOrgRows created hfails hmigrated orgId
  have hassets := alone_onServer rt fails created
    (attempt (readAssets tokenIds).run fun _ => ApiError.internal) s
  have hchain := alone_readAssets rt.server s.server tokenIds
  cases honChain : tokenIds.mapM s.server.chain.readAsset with
  | error e =>
      rw [honChain] at hchain
      rw [alone_attempt_error hchain] at hassets
      have hboth := alone_exceptT_both_eq hrows hassets
      refine .inr ⟨?_, fun _ _ hok => by cases hok⟩
      cases hfail : fails (.selectOrgRows true orgId) with
      | none =>
          rw [hfail] at hboth
          exact ⟨_, hboth⟩
      | some e' =>
          rw [hfail] at hboth
          exact ⟨_, hboth⟩
  | ok chainAssets =>
      rw [honChain] at hchain
      rw [alone_attempt hchain] at hassets
      have hboth := alone_exceptT_both_eq hrows hassets
      cases hfail : fails (.selectOrgRows true orgId) with
      | none =>
          rw [hfail] at hboth
          exact .inl ⟨chainAssets, rfl, rfl, hboth⟩
      | some e =>
          rw [hfail] at hboth
          exact .inr ⟨⟨_, hboth⟩, fun _ hnone => by cases hnone⟩

/-- A list is answered from the table and the chain, or refused. -/
theorem alone_listAssets [Str.CaseMapping]
    (hfails : ∀ op e, fails op = some e → isUnknownColumn e = false)
    {s : AssetServerState σ} (hmigrated : s.assets.migrated = true) (session : SessionData)
    (orgIdParam : Option Nat) :
    (∃ orgId caller chainAssets, ListReady fails s session orgIdParam orgId chainAssets ∧
        (alone (answering rt fails created) (listAssets rt session orgIdParam).run s).1 =
          .ok ⟨orgId, caller, listedRows rt s.assets orgId, chainAssets⟩) ∨
      (∃ e, (alone (answering rt fails created) (listAssets rt session orgIdParam).run s).1 =
          .error e) ∧
        ∀ orgId chainAssets, ¬ ListReady fails s session orgIdParam orgId chainAssets := by
  unfold listAssets
  cases hparam : orgIdParam.filter (0 < ·) with
  | none =>
      refine .inr ⟨⟨_, rfl⟩, fun orgId chainAssets hready => ?_⟩
      rw [hready.asked, Option.filter_some, if_pos (decide_eq_true hready.positive)] at hparam
      cases hparam
  | some asked =>
      obtain ⟨hasked, hpositive⟩ := Option.filter_eq_some_iff.1 hparam
      have hsession := alone_onServer rt fails created
        (ExceptT.lift (sessionWallet session) : Route (Option Address)) s
      rw [alone_exceptT_lift (alone_sessionWallet (rfl : _ = (s.server.clock, s.server)) session)]
        at hsession
      rw [require_some_bind, alone_exceptT_bind hsession]
      by_cases hsafe : asked < 2 ^ 53
      · simp only [dif_pos hsafe]
        have hmember := alone_onServer rt fails created
          (requireMember serverReads (session.walletAt s.server.clock) asked) s
        rcases alone_requireMember rt.server s.server session ⟨asked, hsafe⟩ with
          ⟨⟨caller, hok⟩, hmay⟩ | ⟨⟨e, herror⟩, hnot⟩
        · rw [hok] at hmember
          rw [alone_exceptT_bind hmember]
          have htokens := alone_onServer rt fails created
            (attempt (onSafe asked (call (ServerOp.readAssetsOfOrganization asked))).run fun _ =>
              ApiError.internal) s
          have hread : alone (ServerState.answer rt.server)
              (attempt (onSafe asked (call (ServerOp.readAssetsOfOrganization asked))).run fun _ =>
                ApiError.internal).run s.server =
                (.ok (s.server.chain.readAssetsOfOrganization asked), s.server) := by
            rw [onSafe_safeInt ⟨asked, hsafe⟩]
            rfl
          rw [hread] at htokens
          rw [alone_exceptT_bind htokens]
          rcases alone_readListing created hfails hmigrated ⟨asked, hsafe⟩
              (s.server.chain.readAssetsOfOrganization asked) with
            ⟨chainAssets, hloads, honChain, hboth⟩ | ⟨⟨e, hboth⟩, hnot⟩
          · refine .inl ⟨⟨asked, hsafe⟩, caller, chainAssets,
              ⟨hasked, by simpa using hpositive, hmay, hloads, honChain⟩, ?_⟩
            exact congrArg Prod.fst (alone_exceptT_bind hboth _)
          · refine .inr ⟨⟨_, congrArg Prod.fst (alone_exceptT_bind_error hboth _)⟩, ?_⟩
            intro orgId chainAssets hready
            obtain rfl : orgId = ⟨asked, hsafe⟩ :=
              Subtype.ext (Option.some.inj (hready.asked.symm.trans hasked))
            exact hnot chainAssets hready.loads hready.onChain
        · rw [herror] at hmember
          rw [alone_exceptT_bind_error hmember]
          refine .inr ⟨⟨e, rfl⟩, fun orgId chainAssets hready => hnot ?_⟩
          obtain rfl : asked = orgId.1 := Option.some.inj (hasked.symm.trans hready.asked)
          exact hready.member
      · simp only [dif_neg hsafe]
        refine .inr ⟨?_, fun orgId chainAssets hready => hsafe ?_⟩
        · rw [ExceptT.run_bind, alone_bind]
          split
          · exact ⟨_, rfl⟩
          · exact ⟨_, rfl⟩
        · obtain rfl : asked = orgId.1 := Option.some.inj (hasked.symm.trans hready.asked)
          exact orgId.2

theorem ListReady.unique {s : AssetServerState σ} {session : SessionData} {orgIdParam : Option Nat}
    {orgId orgId' : SafeInt} {chainAssets chainAssets' : List (Option AssetState)}
    (h : ListReady fails s session orgIdParam orgId chainAssets)
    (h' : ListReady fails s session orgIdParam orgId' chainAssets') :
    orgId = orgId' ∧ chainAssets = chainAssets' := by
  obtain rfl : orgId = orgId' := Subtype.ext (Option.some.inj (h.asked.symm.trans h'.asked))
  exact ⟨rfl, Except.ok.inj (h.onChain.symm.trans h'.onChain)⟩

theorem mem_listedRows {store : AssetStore} {orgId : SafeInt} {listed : AssetRow} :
    listed ∈ listedRows rt store orgId ↔ ∃ row ∈ store.rows, row.orgId = orgId ∧
      row.contractAddress.all (· == rt.deployment.contractAddress) = true ∧
        row.toAssetRow = listed := by
  unfold listedRows ofDeployment AssetStore.ofOrganization
  simp only [List.mem_filter, List.mem_map, decide_eq_true_eq]
  constructor
  · rintro ⟨⟨row, ⟨hrow, horg⟩, rfl⟩, hcontract⟩
    exact ⟨row, hrow, horg, hcontract, rfl⟩
  · rintro ⟨row, hrow, horg, hcontract, rfl⟩
    exact ⟨⟨row, ⟨hrow, horg⟩, rfl⟩, hcontract⟩

/-- The row is pending, or stands for one of the tokens. -/
def ShownAmong (rows : List AssetRow) (chainAssets : List (Option AssetState)) (row : AssetRow) :
    Prop :=
  row.tokenId = none ∨
    ∃ chain, some chain ∈ chainAssets ∧ byToken rows chain.tokenId = some row

theorem mem_shown {listing : Listing} {row : AssetRow} (hrow : row ∈ listing.rows) :
    row ∈ listing.shown ↔ ShownAmong listing.rows listing.chainAssets row := by
  unfold Listing.shown ShownAmong
  rw [List.mem_append, List.mem_filterMap, List.mem_filter, decide_eq_true_eq, or_comm]
  simp only [List.mem_filterMap, id, exists_eq_right, hrow, true_and]

theorem mem_rows_of_shown {listing : Listing} {row : AssetRow} (h : row ∈ listing.shown) :
    row ∈ listing.rows := by
  unfold Listing.shown at h
  rcases List.mem_append.1 h with htoken | hpending
  · obtain ⟨chain, -, hchain⟩ := List.mem_filterMap.1 htoken
    exact mem_of_byToken hchain
  · exact (List.mem_filter.1 hpending).1

/-- A stored row is listed where it is one of the rows of this deployment and shown. -/
theorem listed_iff {store : AssetStore} {orgId : SafeInt} {caller : Caller}
    {chainAssets : List (Option AssetState)} {row : StoredAsset} (hrow : row ∈ store.rows) :
    row.id ∈ (Listing.shown ⟨orgId, caller, listedRows rt store orgId, chainAssets⟩).map (·.id) ↔
      row.orgId = orgId ∧ row.contractAddress.all (· == rt.deployment.contractAddress) = true ∧
        ShownAmong (listedRows rt store orgId) chainAssets row.toAssetRow := by
  constructor
  · intro h
    obtain ⟨listed, hshown, hid⟩ := List.mem_map.1 h
    have hlisted := mem_rows_of_shown hshown
    obtain ⟨row', hrow', horg, hcontract, rfl⟩ := mem_listedRows.1 hlisted
    obtain rfl : row' = row := store.eq_of_id hrow' hrow hid
    exact ⟨horg, hcontract, (mem_shown hlisted).1 hshown⟩
  · rintro ⟨horg, hcontract, hshown⟩
    have hlisted : row.toAssetRow ∈ listedRows rt store orgId :=
      mem_listedRows.2 ⟨row, hrow, horg, hcontract, rfl⟩
    exact List.mem_map.2 ⟨row.toAssetRow, (mem_shown hlisted).2 hshown, rfl⟩

end Listing

/-! ## What a confirmation makes of the tokens -/

section Confirm

variable [Js.CaseMapping] {σ : Type} [ERC721 σ] {rt : AssetRuntime}
  {fails : AssetOp → Option DbError} {created : String × String} {s : AssetServerState σ}

omit [Js.CaseMapping] in
/-- An update that reports an error has done nothing. -/
theorem answer_update (rt : AssetRuntime) (fails : AssetOp → Option DbError)
    (created : String × String) (s : AssetServerState σ) (filter : AssetFilter) (patch : AssetPatch) :
    (∃ e, answering rt fails created s (.update filter patch) = (.error e, s)) ∨
      ∃ ids s', answering rt fails created s (.update filter patch) = (.ok ids, s') ∧
        s'.assets.rows = modify filter.admits patch.onto s.assets.rows := by
  simp only [AssetServerState.answer]
  cases fails (.update filter patch) with
  | some e => exact .inl ⟨e, rfl⟩
  | none =>
      rcases s.assets.update_cases filter patch with ⟨e, herror⟩ | ⟨hok, hrows, -⟩
      · refine .inl ⟨e, ?_⟩
        simp only [AssetServerState.withAssets, herror]
      · exact .inr ⟨_, _, Prod.ext hok rfl, hrows⟩

/-- The patch of a binding, with a stamp or without. -/
abbrev bindingPatch (body : ConfirmBody) (stamp : Option AssetDeployment) : AssetPatch :=
  { binding := some (some body.tokenId, some body.txHash), stamp }

omit [Js.CaseMapping] in
/-- What has been bound shows in the table. -/
theorem rows_of_bindToken {assetId : String} {body : ConfirmBody} {s' : AssetServerState σ}
    (h : alone (answering rt fails created) (bindToken rt assetId body).run s = (.ok (), s')) :
    ∃ stamp, s'.assets.rows = modify (AssetFilter.admits { id := assetId, tokenId := some none })
      (bindingPatch body stamp).onto s.assets.rows := by
  obtain ⟨result, s₁, htry, hrest⟩ := alone_exceptT_bind_eq_ok.1 h
  cases result with
  | error e => cases hrest
  | ok ids =>
      have hsame : s₁ = s' := by
        unfold refuseIf at hrest
        dsimp only at hrest
        split at hrest
        · cases hrest
        · exact congrArg Prod.snd hrest
      subst hsame
      obtain ⟨stamped, s₂, hask, hthen⟩ := alone_exceptT_bind_eq_ok.1 htry
      rw [alone_ask] at hask
      rcases answer_update rt fails created s { id := assetId, tokenId := some none }
          (bindingPatch body (some rt.deployment)) with ⟨e, hanswer⟩ | ⟨ids', s₃, hanswer, hrows⟩
      · rw [hanswer] at hask
        cases hask
        dsimp only at hthen
        split at hthen
        · rw [alone_ask] at hthen
          rcases answer_update rt fails created s { id := assetId, tokenId := some none }
              (bindingPatch body none) with ⟨e', hanswer'⟩ | ⟨ids', s₃, hanswer', hrows⟩
          · rw [hanswer'] at hthen
            cases hthen
          · rw [hanswer'] at hthen
            cases hthen
            exact ⟨none, hrows⟩
        · cases hthen
      · rw [hanswer] at hask
        cases hask
        cases hthen
        exact ⟨some rt.deployment, hrows⟩

/-- Whether a confirmation that has come to the claims succeeds. -/
def ConfirmSucceeds (rt : AssetRuntime) (fails : AssetOp → Option DbError) (store : AssetStore)
    (confirmed : ConfirmBody) (row : StoredAsset) (chainAsset : AssetState)
    (claims : List ClaimRow) : Prop :=
  claims.all (passes rt fails confirmed.tokenId chainAsset.assetHash) = true ∧
    CanBind rt fails store row confirmed chainAsset.assetHash claims

/-- The row is there with this token, or with none. -/
def HoldsAfter (rows : List StoredAsset) (id : String) (tokenId : Option Nat) : Prop :=
  ∃ row ∈ rows, row.id = id ∧ row.tokenId = tokenId

omit [Js.CaseMapping] in
theorem HoldsAfter.unique {store : AssetStore} {id : String} {tokenId tokenId' : Option Nat}
    (h : HoldsAfter store.rows id tokenId) (h' : HoldsAfter store.rows id tokenId') :
    tokenId = tokenId' := by
  obtain ⟨row, hrow, hid, rfl⟩ := h
  obtain ⟨row', hrow', hid', rfl⟩ := h'
  rw [store.eq_of_id hrow hrow' (hid.trans hid'.symm)]

/-- A confirmation that succeeds has released the claims and bound the draft. -/
theorem rows_of_confirm {session : SessionData} {assetId : String} {body : Option ConfirmBody}
    {confirmed : ConfirmBody} {row : StoredAsset} {chainAsset : AssetState} {claims : List ClaimRow}
    (h : ConfirmReady fails s session assetId body confirmed row chainAsset claims)
    {reply : ConfirmReply}
    (hok : (alone (answering rt fails created) (confirm rt session assetId body).run s).1 =
      .ok reply) :
    ∃ stamp, (alone (answering rt fails created) (confirm rt session assetId body).run s).2.assets.rows =
      modify (AssetFilter.admits { id := assetId, tokenId := some none })
        (bindingPatch confirmed stamp).onto (s.assets.rows.map (·.releasedIn ((releasedClaims rt fails
          confirmed.tokenId chainAsset.assetHash claims).map (·.id)))) := by
  obtain ⟨-, hrows, -⟩ := alone_releaseContradictedClaims rt created h
  rw [alone_confirm_claims h] at hok ⊢
  obtain ⟨⟨⟩, s₁, hrelease, hthen⟩ := alone_exceptT_bind_eq_ok.1 (Prod.ext hok rfl)
  obtain ⟨⟨⟩, s₂, hbind, hreturn⟩ := alone_exceptT_bind_eq_ok.1 hthen
  obtain ⟨stamp, hbound⟩ := rows_of_bindToken hbind
  have hsame := congrArg Prod.snd hreturn
  rw [hrelease] at hrows
  rw [← hsame]
  exact ⟨stamp, hbound.trans (congrArg _ hrows)⟩

variable (rt created) in
/-- The token of a row after a confirmation that has come to the claims. -/
theorem holdsAfter_confirm {session : SessionData} {assetId : String} {body : Option ConfirmBody}
    {confirmed : ConfirmBody} {row : StoredAsset} {chainAsset : AssetState} {claims : List ClaimRow}
    (h : ConfirmReady fails s session assetId body confirmed row chainAsset claims)
    {other : StoredAsset} (hother : other ∈ s.assets.rows) :
    let final := alone (answering rt fails created) (confirm rt session assetId body).run s
    let released := (releasedClaims rt fails confirmed.tokenId chainAsset.assetHash claims).map (·.id)
    (ConfirmSucceeds rt fails s.assets confirmed row chainAsset claims → other = row →
      HoldsAfter final.2.assets.rows other.id (some confirmed.tokenId)) ∧
    (¬ (ConfirmSucceeds rt fails s.assets confirmed row chainAsset claims ∧ other = row) →
      HoldsAfter final.2.assets.rows other.id (other.releasedIn released).tokenId) := by
  intro final released
  obtain ⟨hrow, hid⟩ := (lookup_eq_some_iff s.assets.lawful.primaryKey).1 h.found
  obtain ⟨hsucceeds, hfails⟩ := alone_confirm_ready rt created h
  have hreleased : other.releasedIn released ∈ s.assets.rows.map (·.releasedIn released) :=
    List.mem_map.2 ⟨other, hother, rfl⟩
  by_cases hok : ConfirmSucceeds rt fails s.assets confirmed row chainAsset claims
  · obtain ⟨reply, hreply⟩ := hsucceeds hok
    obtain ⟨stamp, hrows⟩ := rows_of_confirm h hreply
    have hmem : (if AssetFilter.admits { id := assetId, tokenId := some none }
          (other.releasedIn released) then
        (bindingPatch confirmed stamp).onto (other.releasedIn released)
        else other.releasedIn released) ∈ final.2.assets.rows := by
      rw [hrows]
      exact mem_modify.2 ⟨_, hreleased, rfl⟩
    constructor
    · rintro - rfl
      have hdraft : other.releasedIn released = other := if_neg h.kept
      have hadmits : AssetFilter.admits { id := assetId, tokenId := some none } other = true := by
        simp [AssetFilter.admits, hid, h.isDraft]
      rw [hdraft, if_pos hadmits] at hmem
      exact ⟨_, hmem, rfl, rfl⟩
    · intro hne
      have hskip : AssetFilter.admits { id := assetId, tokenId := some none }
          (other.releasedIn released) = false := by
        have hdiffers : other.id ≠ assetId := fun heq =>
          hne ⟨hok, s.assets.eq_of_id hother hrow (heq.trans hid.symm)⟩
        simp [AssetFilter.admits, hdiffers]
      rw [if_neg (by simp [hskip])] at hmem
      exact ⟨_, hmem, other.id_releasedIn _, rfl⟩
  · refine ⟨fun hyes => absurd hyes hok, fun _ => ?_⟩
    obtain ⟨-, hrows⟩ := hfails hok
    rw [← hrows] at hreleased
    exact ⟨_, hreleased, other.id_releasedIn _, rfl⟩

end Confirm

/-! ## Requests that keep to their deployment -/

section Scope

variable [Str.CaseMapping] {σ : Type} [ERC721 σ] (rt : AssetRuntime)
  (fails : AssetOp → Option DbError) (created : String × String)

/-- With nobody else around, the request neither binds nor releases a row of another deployment, and
    does not list one. -/
def KeepsToDeployment (s : AssetServerState σ) (req : AssetRequest) : Prop :=
  let final := alone (answering rt fails created) (req.handler rt) s
  ∀ row ∈ s.assets.rows, row.Foreign rt.deployment →
    HoldsAfter final.2.assets.rows row.id row.tokenId ∧ row.id ∉ req.listedIds final.1

/-- What a request must not meet with: a list, in its organization, a row of this contract on another
    chain that would be shown; a confirmation, a claim of such a row that it would release, and for a
    draft that it would bind a stamp of another deployment. -/
def MeetsNoForeign (s : AssetServerState σ) : AssetRequest → Prop
  | .list session orgIdParam => ∀ orgId chainAssets,
      ListReady fails s session orgIdParam orgId chainAssets →
      ∀ row ∈ s.assets.rows, row.orgId = orgId → row.OtherChain rt.deployment →
        ¬ ShownAmong (listedRows rt s.assets orgId) chainAssets row.toAssetRow
  | .create .. => True
  | .confirm session assetId body => ∀ confirmed row chainAsset claims,
      ConfirmReady fails s session assetId body confirmed row chainAsset claims →
      (∀ holder ∈ s.assets.rows, holder.OtherChain rt.deployment →
        holder.claim true ∉ releasedClaims rt fails confirmed.tokenId chainAsset.assetHash claims) ∧
      (ConfirmSucceeds rt fails s.assets confirmed row chainAsset claims →
        ¬ row.Foreign rt.deployment)

variable {rt fails created} {s : AssetServerState σ}

omit [Str.CaseMapping] in
/-- What only reads leaves the table as it is. -/
theorem assets_of_reads {α : Type} {p : Prog AssetOp AssetOp.Res α} (h : Only AssetOp.Reads p) :
    (alone (answering rt fails created) p s).2.assets = s.assets := by
  have hanswer : ∀ (s' : AssetServerState σ) (op : AssetOp), op.Reads → s'.assets = s.assets →
      (answering rt fails created s' op).2.assets = s.assets := by
    intro s' op hreads hsame
    cases op with
    | server op => exact hsame
    | selectDraft id =>
        simp only [AssetServerState.answer]
        split <;> exact hsame
    | selectClaims withContract tokenId keepAssetId =>
        simp only [AssetServerState.answer]
        split <;> exact hsame
    | selectOrgRows withContract orgId =>
        simp only [AssetServerState.answer]
        split <;> exact hsame
    | update filter patch => exact hreads.elim
    | insert draft stamp => exact hreads.elim
  exact (returns_alone hanswer h rfl).1

theorem keeps_list_iff (hfails : ∀ op e, fails op = some e → isUnknownColumn e = false)
    (session : SessionData) (orgIdParam : Option Nat) :
    KeepsToDeployment rt fails created s (.list session orgIdParam) ↔
      MeetsNoForeign rt fails s (.list session orgIdParam) := by
  have hassets : (alone (answering rt fails created) (listAssets rt session orgIdParam).run s).2.assets =
      s.assets := assets_of_reads (reads_list session orgIdParam)
  unfold KeepsToDeployment MeetsNoForeign AssetRequest.handler
  dsimp only
  rw [hassets]
  constructor
  · intro hkeeps orgId chainAssets hready row hrow horg hother hshown
    obtain ⟨-, hunlisted⟩ := hkeeps row hrow hother.foreign
    rcases alone_listAssets created hfails (hother.foreign.migrated hrow) session orgIdParam with
      ⟨orgId', caller, chainAssets', hready', hok⟩ | ⟨-, hnot⟩
    · obtain ⟨rfl, rfl⟩ := hready.unique hready'
      rw [hok] at hunlisted
      refine hunlisted ((listed_iff hrow).2 ⟨horg, ?_, hshown⟩)
      rw [hother.1, Option.all_some, beq_self_eq_true]
    · exact hnot orgId chainAssets hready
  · intro hmeets row hrow hforeign
    refine ⟨⟨row, hrow, rfl, rfl⟩, ?_⟩
    rcases alone_listAssets created hfails (hforeign.migrated hrow) session orgIdParam with
      ⟨orgId, caller, chainAssets, hready, hok⟩ | ⟨⟨e, herror⟩, -⟩
    · rw [hok]
      intro hlisted
      obtain ⟨horg, hcontract, hshown⟩ := (listed_iff hrow).1 hlisted
      exact hmeets orgId chainAssets hready row hrow horg (hforeign.otherChain hcontract) hshown
    · rw [herror]
      exact List.not_mem_nil

/-- A new draft changes no binding. -/
theorem keeps_create (session : SessionData) (body : Option DraftBody) :
    KeepsToDeployment rt fails created s (.create session body) := by
  have hupdate : ∀ (store : AssetStore) (filter : AssetFilter) (patch : AssetPatch),
      patch.binding = none → ∀ id tokenId, HoldsAfter store.rows id tokenId →
        HoldsAfter (store.update filter patch).2.rows id tokenId := by
    intro store filter patch hnone id tokenId ⟨row, hrow, hid, htoken⟩
    rcases store.update_cases filter patch with ⟨e, herror⟩ | ⟨-, hrows, -⟩
    · rw [herror]
      exact ⟨row, hrow, hid, htoken⟩
    · rw [hrows]
      refine ⟨_, mem_modify.2 ⟨row, hrow, rfl⟩, ?_⟩
      split
      · exact ⟨hid, by simp [AssetPatch.onto, hnone, htoken]⟩
      · exact ⟨hid, htoken⟩
  have hanswer : ∀ (s' : AssetServerState σ) (op : AssetOp), op.BindsNothing →
      (∀ row ∈ s.assets.rows, HoldsAfter s'.assets.rows row.id row.tokenId) →
      ∀ row ∈ s.assets.rows,
        HoldsAfter (answering rt fails created s' op).2.assets.rows row.id row.tokenId := by
    intro s' op hbinds hheld row hrow
    cases op with
    | server op => exact hheld row hrow
    | selectDraft id =>
        simp only [AssetServerState.answer]
        split <;> exact hheld row hrow
    | selectClaims withContract tokenId keepAssetId =>
        simp only [AssetServerState.answer]
        split <;> exact hheld row hrow
    | selectOrgRows withContract orgId =>
        simp only [AssetServerState.answer]
        split <;> exact hheld row hrow
    | update filter patch =>
        simp only [AssetServerState.answer]
        split
        · exact hheld row hrow
        · exact hupdate _ filter patch hbinds.1 _ _ (hheld row hrow)
    | insert draft stamp =>
        simp only [AssetServerState.answer]
        split
        · exact hheld row hrow
        · rcases s'.assets.insert_cases draft stamp created.1 created.2 with
            ⟨e, herror⟩ | ⟨-, hrows, -⟩
          · simp only [AssetServerState.withAssets, herror]
            exact hheld row hrow
          · obtain ⟨held, hmem, hsame⟩ := hheld row hrow
            refine ⟨held, ?_, hsame⟩
            simp only [AssetServerState.withAssets, hrows]
            exact List.mem_append_left _ hmem
  unfold KeepsToDeployment
  dsimp only
  intro row hrow _
  refine ⟨?_, List.not_mem_nil⟩
  exact (returns_alone hanswer (bindsNothing_create session body)
    (fun row hrow => ⟨row, hrow, rfl, rfl⟩)).1 row hrow

/-- A claim is released under a stamp of another deployment only where the contract is the same. -/
theorem released_otherChain (hfails : ∀ op e, fails op = some e → isUnknownColumn e = false)
    {session : SessionData} {assetId : String} {body : Option ConfirmBody} {confirmed : ConfirmBody}
    {row : StoredAsset} {chainAsset : AssetState} {claims : List ClaimRow}
    (h : ConfirmReady fails s session assetId body confirmed row chainAsset claims)
    {other : StoredAsset} (hother : other ∈ s.assets.rows) (hforeign : other.Foreign rt.deployment)
    (hid : other.id ∈ (releasedClaims rt fails confirmed.tokenId chainAsset.assetHash
      claims).map (·.id)) :
    other.OtherChain rt.deployment ∧ other.claim true ∈ releasedClaims rt fails confirmed.tokenId
      chainAsset.assetHash claims := by
  have hclaims : claims = (s.assets.holders confirmed.tokenId assetId).map (·.claim true) := by
    have hread := h.claims
    unfold claimsRead at hread
    rw [hforeign.migrated hother] at hread
    dsimp only at hread
    cases hfail : fails (.selectClaims true confirmed.tokenId assetId) with
    | none =>
        rw [hfail, if_pos rfl] at hread
        exact (Option.some.inj hread).symm
    | some e =>
        rw [hfail] at hread
        dsimp only at hread
        rw [if_neg (by simp [hfails _ e hfail])] at hread
        cases hread
  obtain ⟨claim, hreleased, hsame⟩ := List.mem_map.1 hid
  obtain ⟨hbefore, hcontradicted⟩ := List.mem_filter.1 hreleased
  have hclaim := (List.takeWhile_sublist _).subset hbefore
  rw [hclaims] at hclaim
  obtain ⟨holder, hholder, rfl⟩ := List.mem_map.1 hclaim
  obtain rfl : holder = other :=
    s.assets.eq_of_id (AssetStore.mem_holders.1 hholder).1 hother hsame
  refine ⟨hforeign.otherChain ?_, hreleased⟩
  have hverdict : classifyClaim (holder.claim true) chainAsset.assetHash
      rt.deployment.contractAddress = .release := by
    simpa [isContradicted] using hcontradicted
  unfold classifyClaim at hverdict
  split at hverdict
  · cases hverdict
  next hours =>
      have hcontract : (holder.claim true).contractAddress = holder.contractAddress := rfl
      rw [hcontract] at hours
      cases hstamp : holder.contractAddress with
      | none => rfl
      | some contractAddress =>
          rw [hstamp] at hours
          simpa using hours

theorem keeps_confirm_iff (hfails : ∀ op e, fails op = some e → isUnknownColumn e = false)
    (session : SessionData) (assetId : String) (body : Option ConfirmBody) :
    KeepsToDeployment rt fails created s (.confirm session assetId body) ↔
      MeetsNoForeign rt fails s (.confirm session assetId body) := by
  unfold KeepsToDeployment MeetsNoForeign AssetRequest.handler
  dsimp only
  constructor
  · intro hkeeps confirmed row chainAsset claims hready
    obtain ⟨hrow, -⟩ := (lookup_eq_some_iff s.assets.lawful.primaryKey).1 hready.found
    constructor
    · intro holder hholder hother hreleased
      have hid : holder.id ∈ (releasedClaims rt fails confirmed.tokenId chainAsset.assetHash
          claims).map (·.id) := List.mem_map.2 ⟨_, hreleased, rfl⟩
      have hdraft : holder ≠ row := by
        rintro rfl
        exact hready.kept hid
      have hlost := (holdsAfter_confirm rt created hready hholder).2 fun hboth => hdraft hboth.2
      rw [StoredAsset.releasedIn, if_pos hid] at hlost
      have hnone := hlost.unique (hkeeps holder hholder hother.foreign).1
      -- The claim was one on the token.
      have hclaim := (List.takeWhile_sublist _).subset (List.mem_filter.1 hreleased).1
      obtain ⟨holder', hholder', hsame, htoken, -⟩ := hready.holder_of_claim hclaim
      obtain rfl : holder' = holder := s.assets.eq_of_id hholder' hholder hsame
      cases hnone.trans htoken
    · intro hsucceeds hforeign
      have hbound := (holdsAfter_confirm rt created hready hrow).1 hsucceeds rfl
      have hsame := hbound.unique (hkeeps row hrow hforeign).1
      rw [hready.isDraft] at hsame
      cases hsame
  · intro hmeets other hother hforeign
    refine ⟨?_, List.not_mem_nil⟩
    by_cases hready : ∃ confirmed row chainAsset claims,
        ConfirmReady fails s session assetId body confirmed row chainAsset claims
    · obtain ⟨confirmed, row, chainAsset, claims, hready⟩ := hready
      obtain ⟨hclaims, hdraft⟩ := hmeets confirmed row chainAsset claims hready
      have hafter := (holdsAfter_confirm rt created hready hother).2 fun hboth => by
        rw [hboth.2] at hforeign
        exact hdraft hboth.1 hforeign
      have hkept : other.id ∉ (releasedClaims rt fails confirmed.tokenId chainAsset.assetHash
          claims).map (·.id) := by
        intro hid
        obtain ⟨hchain, hreleased⟩ := released_otherChain hfails hready hother hforeign hid
        exact hclaims other hother hchain hreleased
      rwa [StoredAsset.releasedIn, if_neg hkept] at hafter
    · obtain ⟨e, hsame⟩ := alone_confirm_notReady rt created s session assetId body
        fun confirmed row chainAsset claims h => hready ⟨confirmed, row, chainAsset, claims, h⟩
      rw [hsame]
      exact ⟨other, hother, rfl, rfl⟩

end Scope

/-- A request keeps to the rows of its deployment exactly where it does not meet with a row of another
    one that it would take for its own. A missing column is reported only where it is missing. -/
theorem deployment_scope_iff [Str.CaseMapping] {σ : Type} [ERC721 σ] (rt : AssetRuntime)
    (fails : AssetOp → Option DbError)
    (hfails : ∀ op e, fails op = some e → isUnknownColumn e = false) (created : String × String)
    (s : AssetServerState σ) (req : AssetRequest) :
    KeepsToDeployment rt fails created s req ↔ MeetsNoForeign rt fails s req := by
  cases req with
  | list session orgIdParam => exact keeps_list_iff hfails session orgIdParam
  | create session body => exact iff_of_true (keeps_create session body) trivial
  | confirm session assetId body => exact keeps_confirm_iff hfails session assetId body

/-! ## A draft of another deployment -/

namespace Sample

/-- The deployment at address 8. -/
def eight : AssetDeployment := ⟨31337, 8#160⟩

/-- A draft with the anchor of token 1, and a row of another deployment that holds the number. -/
def scopedStore : AssetStore where
  rows := [storedRow "draft" none 11 (some nine), storedRow "other" (some 1) 12 (some eight)]
  migrated := true
  lawful := by decide +kernel
  unstamped := by simp

theorem scoped_confirm :
    @KeepsToDeployment asciiStrings Ledger _ assetRuntime (fun _ => none) ("", "")
      ⟨portalStart, scopedStore⟩ (.confirm aliceSession "draft" (some twinBody)) := by
  let _ := asciiStrings
  refine (deployment_scope_iff assetRuntime (fun _ => none) (by simp) _ _ _).2 ?_
  intro confirmed row chainAsset claims hready
  constructor
  · rintro holder hholder ⟨hcontract, chainId, hchain, hother⟩
    have hours : ∀ row ∈ scopedStore.rows,
        row.contractAddress = some nine.contractAddress → row.chainId = some nine.chainId := by
      decide +kernel
    exact absurd (Option.some.inj (hchain.symm.trans (hours holder hholder hcontract))) hother
  · rintro - ⟨D', hchain, hcontract, hne⟩
    have hfound : scopedStore.find "draft" = some (storedRow "draft" none 11 (some nine)) := by
      decide +kernel
    obtain rfl := Option.some.inj (hready.found.symm.trans hfound)
    refine hne ?_
    cases D'
    cases hchain
    cases hcontract
    rfl

/-- A draft with the anchor of token 1 that was made for the deployment at address 8. -/
def foreignStore : AssetStore where
  rows := [storedRow "draft" none 11 (some eight)]
  migrated := true
  lawful := by decide +kernel
  unstamped := by simp

theorem foreign_draft_bound :
    ¬ ∀ [Str.CaseMapping] (rt : AssetRuntime) (fails : AssetOp → Option DbError),
        (∀ op e, fails op = some e → isUnknownColumn e = false) →
        ∀ (created : String × String) (s : AssetServerState Ledger) (req : AssetRequest),
          KeepsToDeployment rt fails created s req := by
  intro hall
  let _ := asciiStrings
  have hkeeps := hall assetRuntime (fun _ => none) (by simp) ("", "") ⟨portalStart, foreignStore⟩
    (.confirm aliceSession "draft" (some twinBody))
  have hforeign : (storedRow "draft" none 11 (some eight)).Foreign assetRuntime.deployment :=
    ⟨eight, rfl, rfl, by decide⟩
  obtain ⟨⟨row, hrow, -, hnone⟩, -⟩ :=
    hkeeps (storedRow "draft" none 11 (some eight)) (by decide +kernel) hforeign
  have hbound : ((alone (answering assetRuntime (fun _ => none) ("", ""))
      (confirm assetRuntime aliceSession "draft" (some twinBody)).run
        (⟨portalStart, foreignStore⟩ : AssetServerState Ledger)).2.assets.rows.map
          (·.tokenId)) = [some 1] := by
    decide +kernel
  have hmem : row.tokenId ∈ [some 1] := by
    rw [← hbound]
    exact List.mem_map.2 ⟨row, hrow, rfl⟩
  rw [hnone] at hmem
  simp [storedRow] at hmem

end Sample

end OwneX
