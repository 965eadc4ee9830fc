import OwneX.Platform.ConfirmRaces

set_option autoImplicit false

/-! # Bindings under races

However requests and changes of the chain are interleaved, a row is only bound to a token that it
agreed with while it was being confirmed, and a token is bound to one row of the deployment. A
binding that agrees with the chain can still be lost: between the read of a token and the release of
a claim on it, the token may be re-anchored to the very record that claims it. -/

namespace OwneX

open Js JsNumber Prog Interleaving Service KeyedList

theorem Chain.orgId_of_readAsset {σ : Type} [ERC721 σ] {ch : Chain σ} {tokenId : Nat}
    {chainAsset : AssetState} (h : ch.readAsset tokenId = .ok (some chainAsset)) :
    chainAsset.orgId = toNumber (ch.world.nft.getAsset tokenId).orgId := by
  unfold Chain.readAsset at h
  dsimp only at h
  split_ifs at h
  · cases Except.ok.inj h
  · rw [← Option.some.inj (Except.ok.inj h)]

section Races

variable [Str.CaseMapping] {σ : Type} [ERC721 σ] {rt : AssetRuntime} {s : AssetServerState σ}
  {ts : List (assetServer σ rt).Transition} {c : (assetServer σ rt).Config}

/-- What the contract holds for a token. -/
abbrev chainRecord (c : (assetServer σ rt).Config) (tokenId : Nat) : Asset :=
  (ServerState.chain (AssetServerState.server c.shared)).world.nft.getAsset tokenId

/-- The row anchors what the contract holds for the token. -/
def StoredAsset.AgreesWith (row : StoredAsset) (record : Asset) : Prop :=
  sameHex row.assetHash (hex record.assetHash) = true

/-- The transition takes a token from a row. -/
def Unbinds (t : (assetServer σ rt).Transition) (row : StoredAsset) (tokenId : Nat) : Prop :=
  row ∈ storedRows t.before ∧ row.tokenId = some tokenId ∧
    ∀ row' ∈ storedRows t.after, row'.id = row.id → row'.tokenId ≠ some tokenId

/-- The transition gives a token to a row. -/
def Binds (t : (assetServer σ rt).Transition) (row : StoredAsset) (tokenId : Nat) : Prop :=
  row ∈ storedRows t.after ∧ row.tokenId = some tokenId ∧
    ∀ row' ∈ storedRows t.before, row'.id = row.id → row'.tokenId ≠ some tokenId

/-- Where a claim that is released agrees with the chain, the token has not been re-anchored since
    the confirmation has read it. -/
def NotReanchored (ts : List (assetServer σ rt).Transition) : Prop :=
  ∀ pre t post, ts = pre ++ t :: post →
    ∀ i tokenId claim r, t.move = .perform i (releaseOp tokenId claim) r →
    ∀ row ∈ storedRows t.before, row.id = claim.id →
      row.AgreesWith (chainRecord t.before tokenId) →
    ∀ u ∈ pre, ∀ r', u.move = .perform i (.server (.readAsset tokenId)) r' →
      (chainRecord u.before tokenId).assetHash = (chainRecord t.before tokenId).assetHash

/-- The rows of this deployment are those of `ours` and those that are stamped with it. -/
def OfDeployment (rt : AssetRuntime) (ours : String → Prop) (row : StoredAsset) : Prop :=
  ours row.id ∨ row.contractAddress = some rt.deployment.contractAddress

/-- The bound rows of this deployment are stamped with it. -/
def BoundStamped (rt : AssetRuntime) (ours : String → Prop) (rows : List StoredAsset) : Prop :=
  ∀ row ∈ rows, ours row.id → row.tokenId ≠ none →
    row.contractAddress = some rt.deployment.contractAddress

/-- A row that loses its token disagrees with the chain. -/
theorem contradicted_of_unbinds {pre post : List (assetServer σ rt).Transition}
    {t : (assetServer σ rt).Transition} (h : (assetServer σ rt).Run s (pre ++ t :: post) c)
    (hanchors : NotReanchored (pre ++ t :: post)) {row : StoredAsset} {tokenId : Nat}
    (hunbinds : Unbinds t row tokenId) : ¬ row.AgreesWith (chainRecord t.before tokenId) := by
  obtain ⟨hrow, htoken, hlost⟩ := hunbinds
  obtain ⟨hbefore, hvalid, -⟩ := h.split_at
  obtain ⟨row', hrow', hid, -⟩ := row_after hvalid hrow
  obtain ⟨i, claim, r, chainAsset, hmove, hread, hid', hclaim, hdiffers⟩ :=
    released_of_unbound h hrow hrow' hid htoken (hlost row' hrow' hid)
  obtain ⟨u, hu, hreads⟩ := mem_ownLog.1 hread
  intro hagrees
  have hsame := hanchors pre t post rfl i tokenId claim r hmove row hrow hid' hagrees u hu _ hreads
  obtain ⟨-, hhash, -⟩ :=
    Chain.readAsset_eq_some (token_of_readAsset (hbefore.valid u hu) hreads)
  unfold StoredAsset.AgreesWith at hagrees
  rw [← hsame, ← hhash, hclaim, hdiffers] at hagrees
  exact Bool.false_ne_true hagrees

/-- In a migrated table a binding brings its stamp with it. -/
theorem boundStamped_of_run (h : (assetServer σ rt).Run s ts c) {ours : String → Prop}
    (hmigrated : s.assets.migrated = true) (hours : BoundStamped rt ours s.assets.rows) :
    BoundStamped rt ours (storedRows c) := by
  refine (h.invariant_of_history (P := fun c => BoundStamped rt ours (storedRows c)) hours ?_).1
  rintro pre t post rfl - hbefore row' hrow' hour hbound
  obtain ⟨hpre, hvalid, -⟩ := h.split_at
  rcases row_before hvalid hrow' with ⟨row, hrow, hid⟩ | hnone
  · rcases row_step hvalid hrow hrow' hid.symm with
      rfl | ⟨i, filter, patch, r, hmove, hadmits, rfl⟩
    · exact hbefore row' hrow hour hbound
    · by_cases hpatch : AssetOp.BindsNothing (.update filter patch)
      · obtain ⟨hbinding, hstamp⟩ := hpatch
        have hbound : row.tokenId ≠ none := by simpa [AssetPatch.onto, hbinding] using hbound
        simpa [AssetPatch.onto, hstamp] using hbefore row hrow hour hbound
      · obtain ⟨session, assetId, confirmed, draft, chainAsset, -, -, hwrites⟩ :=
          writes_of_run h hmove hpatch
        generalize hop : AssetOp.update filter patch = op at hwrites
        cases hwrites with
        | release hselect hclaim hverdict =>
            obtain ⟨rfl, rfl⟩ := AssetOp.update.inj hop
            exact absurd rfl hbound
        | bind =>
            obtain ⟨rfl, rfl⟩ := AssetOp.update.inj hop
            rfl
        | bindUnstamped hlacks he =>
            rw [known_of_update hpre hmigrated hlacks] at he
            cases he
  · exact absurd hnone hbound

/-- A token is bound to one row of the deployment. -/
theorem eq_of_bound (h : (assetServer σ rt).Run s ts c) {ours : String → Prop}
    (hours : BoundStamped rt ours s.assets.rows) {row row' : StoredAsset}
    (hrow : row ∈ storedRows c) (hrow' : row' ∈ storedRows c) (hour : OfDeployment rt ours row)
    (hour' : OfDeployment rt ours row') {tokenId : Nat} (htoken : row.tokenId = some tokenId)
    (htoken' : row'.tokenId = some tokenId) : row = row' := by
  refine AssetStore.eq_of_token _ hrow hrow' htoken htoken' ?_
  cases hmigrated : s.assets.migrated with
  | true =>
      have hstamped : ∀ row ∈ storedRows c, OfDeployment rt ours row → row.tokenId = some tokenId →
          row.contractAddress = some rt.deployment.contractAddress := by
        intro row hrow hour htoken
        rcases hour with hour | hstamp
        · exact boundStamped_of_run h hmigrated hours row hrow hour (by simp [htoken])
        · exact hstamp
      rw [hstamped row hrow hour htoken, hstamped row' hrow' hour' htoken']
  | false =>
      -- Nothing is stamped, and the index is on the token alone.
      have hunstamped := AssetStore.unstamped (AssetServerState.assets c.shared)
        ((migrated_kept h).2.trans hmigrated)
      rw [(hunstamped row hrow).1, (hunstamped row' hrow').1]

/-- A row that gains a token has agreed with it while it was being confirmed. -/
theorem agreed_of_binds {pre post : List (assetServer σ rt).Transition}
    {t : (assetServer σ rt).Transition} (h : (assetServer σ rt).Run s (pre ++ t :: post) c)
    {row : StoredAsset} {tokenId : Nat} (hbinds : Binds t row tokenId) :
    ∃ i session body, t.before.Serves i (.confirm session row.id body) ∧
      ∃ u ∈ pre, (∃ r, u.move = .perform i (.server (.readAsset tokenId)) r) ∧
      ∃ row' ∈ storedRows u.before, row'.id = row.id ∧
        row'.AgreesWith (chainRecord u.before tokenId) ∧
        row'.orgId.1 = (chainRecord u.before tokenId).orgId := by
  obtain ⟨hrow, htoken, hgained⟩ := hbinds
  obtain ⟨hbefore, hvalid, -⟩ := h.split_at
  obtain ⟨before, hmem, hid⟩ : ∃ before ∈ storedRows t.before, before.id = row.id := by
    rcases row_before hvalid hrow with hfound | hnone
    · exact hfound
    · rw [htoken] at hnone
      cases hnone
  obtain ⟨i, filter, patch, r, session, confirmed, draft, chainAsset, hmove, hserves, rfl,
    hverified, -⟩ := verified_of_bound h hmem hrow hid.symm (hgained before hmem hid) htoken
  rw [hid] at hserves hverified
  refine ⟨i, session, some confirmed, hserves, ?_⟩
  -- The draft was read before the token, and the row still anchors the same.
  obtain ⟨front, mid, back, hlog⟩ := hverified.reads
  obtain ⟨before', u, after', rfl, hselect, -, hown⟩ :=
    exists_of_ownLog (V := assetServer σ rt) front hlog
  obtain ⟨between, v, post', rfl, hreads, -, -⟩ := exists_of_ownLog (V := assetServer σ rt) mid hown
  obtain ⟨-, hu, hafter⟩ := hbefore.split_at
  obtain ⟨hpath, hv, -⟩ := TransitionSystem.Path.split_at hafter
  obtain ⟨drafted, hdrafted, hdraftId, rfl⟩ := stored_of_selectDraft hu hselect
  obtain ⟨row', hrow', hid'⟩ := row_kept (.cons hu hpath) hdrafted
  obtain ⟨hhash, horg⟩ := anchor_kept (.cons hu hpath) hdrafted hrow' hid'
  have hread := token_of_readAsset hv hreads
  obtain ⟨-, hchain, -⟩ := Chain.readAsset_eq_some hread
  refine ⟨v, by simp, ⟨_, hreads⟩, row', hrow', hid'.trans hdraftId, ?_, ?_⟩
  · unfold StoredAsset.AgreesWith
    rw [hhash, ← hchain]
    exact (Bool.beq_comm).trans hverified.anchored
  · rw [horg]
    have hnumber := (Chain.orgId_of_readAsset hread).symm.trans hverified.organization
    exact (eq_of_toNumber hnumber).symm

/-! ## Where the chain stands still -/

omit [Str.CaseMapping] in
theorem AssetServerState.exec_chain {s s' : AssetServerState σ} {op : AssetOp} {r : op.Res}
    (h : s.exec rt.server op r s') : s'.server.chain = s.server.chain := by
  cases op with
  | server op =>
      rcases ServerState.exec_effect h.1 with heq | heq
      · rw [heq]
      · rw [heq]
        cases op <;> rfl
  | selectDraft id =>
      rcases h.effect with rfl | rfl <;> rfl
  | selectClaims withContract tokenId keepAssetId =>
      obtain ⟨rows, -, h⟩ := h
      rcases h.effect with rfl | rfl <;> rfl
  | selectOrgRows withContract orgId =>
      obtain ⟨rows, -, h⟩ := h
      rcases h.effect with rfl | rfl <;> rfl
  | update filter patch =>
      rcases h.effect with rfl | rfl <;> rfl
  | insert draft stamp =>
      obtain ⟨id, createdAt, h⟩ := h
      rcases h.effect with rfl | rfl <;> rfl

/-- Requests alone re-anchor nothing. -/
theorem notReanchored_of_still {c₀ : (assetServer σ rt).Config}
    (h : (assetServer σ rt).system.Path c₀ ts c) (hstill : ∀ t ∈ ts, t.move ≠ .outside) :
    NotReanchored ts := by
  have hchain := (h.invariant
    (P := fun m => ServerState.chain (AssetServerState.server m.shared) =
      ServerState.chain (AssetServerState.server c₀.shared))
    (fun t ht hvalid hbefore => by
      refine Eq.trans ?_ hbefore
      cases hmove : t.move with
      | arrive req =>
          exact congrArg (fun shared : AssetServerState σ => shared.server.chain)
            (Transition.Valid.arrive hvalid hmove).2.1
      | perform i op r =>
          obtain ⟨-, -, -, -, hexec, -⟩ := Transition.Valid.perform hvalid hmove
          exact AssetServerState.exec_chain hexec
      | outside => exact absurd hmove (hstill t ht)) rfl).2
  rintro pre t post rfl i tokenId claim r - row - - - u hu r' -
  have hu := (hchain u (List.mem_append_left _ hu)).1
  have ht := (hchain t (by simp)).1
  exact congrArg (fun ch : Chain σ => (ch.world.nft.getAsset tokenId).assetHash) (hu.trans ht.symm)

end Races

/-- Confirmations race with each other and with the chain. Where no token is re-anchored to a claim
    between a confirmation's read of it and the release, a row that loses its token disagrees with
    the chain. A token is bound to one row of the deployment, and a row that gains a token agreed
    with it during the confirmation. -/
theorem confirm_races [Str.CaseMapping] {σ : Type} [ERC721 σ] {rt : AssetRuntime}
    {s : AssetServerState σ} {ts : List (assetServer σ rt).Transition}
    {c : (assetServer σ rt).Config} (h : (assetServer σ rt).Run s ts c) {ours : String → Prop}
    (hours : BoundStamped rt ours s.assets.rows) :
    (NotReanchored ts → ∀ t ∈ ts, ∀ row tokenId, Unbinds t row tokenId →
      ¬ row.AgreesWith (chainRecord t.before tokenId)) ∧
    (∀ row ∈ storedRows c, ∀ row' ∈ storedRows c, OfDeployment rt ours row →
      OfDeployment rt ours row' → ∀ tokenId, row.tokenId = some tokenId →
        row'.tokenId = some tokenId → row = row') ∧
    (∀ pre t post, ts = pre ++ t :: post → ∀ row tokenId, Binds t row tokenId →
      ∃ i session body, t.before.Serves i (.confirm session row.id body) ∧
        ∃ u ∈ pre, (∃ r, u.move = .perform i (.server (.readAsset tokenId)) r) ∧
        ∃ row' ∈ storedRows u.before, row'.id = row.id ∧
          row'.AgreesWith (chainRecord u.before tokenId) ∧
          row'.orgId.1 = (chainRecord u.before tokenId).orgId) := by
  refine ⟨fun hanchors t ht row tokenId hunbinds => ?_, ?_, ?_⟩
  · obtain ⟨pre, post, rfl⟩ := List.append_of_mem ht
    exact contradicted_of_unbinds h hanchors hunbinds
  · intro row hrow row' hrow' hour hour' tokenId htoken htoken'
    exact eq_of_bound h hours hrow hrow' hour hour' htoken htoken'
  · rintro pre t post rfl row tokenId hbinds
    exact agreed_of_binds h hbinds

/-! ## A token that is re-anchored while a claim on it is released -/

namespace Sample

/-- A draft with the anchor of token 1, and a row of the deployment that claims the token. -/
def rivalStore : AssetStore where
  rows := [storedRow "draft" none 11 (some nine), storedRow "rival" (some 1) 12 (some nine)]
  migrated := true
  lawful := by decide +kernel
  unstamped := by simp

def rivalStart : AssetServerState Ledger := ⟨portalStart, rivalStore⟩

abbrev rivalServer : Service := letI := asciiStrings; assetServer Ledger assetRuntime

abbrev rivalPlayer : rivalServer.Player := letI := asciiStrings; assetPlayer Ledger assetRuntime

/-- Token 1 takes on the anchor of the rival. -/
def reanchored : Chain Ledger :=
  ⟨after [tx alice 110 (.asset (.updateAssetRecord 1 12 "ipfs://rival"))], 300⟩

def rivalSteps (steps : Nat) : List rivalPlayer.Cue := List.replicate steps (.perform 0 ())

/-- The rival loses its token. -/
def unbindsRival (t : rivalServer.Transition) : Bool :=
  letI := asciiStrings
  (storedRows t.before).contains (storedRow "rival" (some 1) 12 (some nine)) &&
    (storedRows t.after).all fun row => row.id != "rival" || row.tokenId != some 1

/-- The rival anchors what the contract holds for token 1. -/
def rivalAgrees (t : rivalServer.Transition) : Bool :=
  letI := asciiStrings
  sameHex (hex 12) (hex (chainRecord t.before 1).assetHash)

theorem unbinds_of_unbindsRival {t : rivalServer.Transition} (h : unbindsRival t = true) :
    @Unbinds asciiStrings Ledger _ assetRuntime t (storedRow "rival" (some 1) 12 (some nine))
      1 := by
  simp only [unbindsRival, Bool.and_eq_true, List.contains_iff_mem, List.all_eq_true,
    Bool.or_eq_true, bne_iff_ne] at h
  obtain ⟨hrow, hlost⟩ := h
  refine ⟨hrow, rfl, fun row hrow hid => ?_⟩
  exact (hlost row hrow).resolve_left fun hne => hne hid

theorem boundStamped_rivalStore : BoundStamped assetRuntime (fun _ => True) rivalStore.rows := by
  intro row hrow _ hbound
  rcases List.mem_pair.1 hrow with rfl | rfl
  · exact absurd rfl hbound
  · rfl

/-- Alice confirms the draft. -/
def confirmCues : List rivalPlayer.Cue :=
  .arrive (.confirm aliceSession "draft" (some twinBody)) :: rivalSteps 9

/-- The rival is released, which the chain contradicts, and the draft is bound. -/
theorem rival_released :
    ∃ (ts : List rivalServer.Transition) (c : rivalServer.Config),
      rivalServer.Run rivalStart ts c ∧
      @NotReanchored asciiStrings Ledger _ assetRuntime ts ∧
      ∃ t ∈ ts, @Unbinds asciiStrings Ledger _ assetRuntime t
          (storedRow "rival" (some 1) 12 (some nine)) 1 ∧
        ¬ @StoredAsset.AgreesWith asciiStrings (storedRow "rival" (some 1) 12 (some nine))
          (@chainRecord asciiStrings Ledger _ assetRuntime t.before 1) := by
  let _ := asciiStrings
  have hplay : ((rivalPlayer.play (idle rivalStart) confirmCues).map fun (ts, _) =>
      (ts.any unbindsRival, ts.all fun t => match t.move with
        | .outside => false
        | _ => true)) = some (true, true) := by decide +kernel
  obtain ⟨⟨ts, c⟩, hplay, hfacts⟩ := Option.map_eq_some_iff.1 hplay
  injection hfacts with hunbinds hstill
  obtain ⟨t, ht, hunbinds⟩ := List.any_eq_true.1 hunbinds
  have hrun : rivalServer.Run rivalStart ts c := Player.play_path hplay
  have hanchors : NotReanchored ts := by
    refine notReanchored_of_still hrun fun t ht hmove => ?_
    have hmatch := List.all_eq_true.1 hstill t ht
    rw [hmove] at hmatch
    cases hmatch
  have hlost := unbinds_of_unbindsRival hunbinds
  exact ⟨ts, c, hrun, hanchors, t, ht, hlost,
    (confirm_races hrun boundStamped_rivalStore).1 hanchors t ht _ _ hlost⟩

/-- Alice confirms the draft, and before the release the token is re-anchored. -/
def rivalCues : List rivalPlayer.Cue :=
  .arrive (.confirm aliceSession "draft" (some twinBody)) :: (rivalSteps 7 ++
    [.outside (reanchored, ⟨1700000060000, by decide⟩), .perform 0 ()])

/-- The rival is released, although the chain agrees with it. -/
theorem rival_lost :
    ¬ ∀ [Str.CaseMapping] (rt : AssetRuntime) (s : AssetServerState Ledger)
        (ts : List (assetServer Ledger rt).Transition) (c : (assetServer Ledger rt).Config)
        (ours : String → Prop), (assetServer Ledger rt).Run s ts c →
      BoundStamped rt ours s.assets.rows →
        ∀ t ∈ ts, ∀ row tokenId, Unbinds t row tokenId →
          ¬ row.AgreesWith (chainRecord t.before tokenId) := by
  intro hall
  let _ := asciiStrings
  have hplay : ((rivalPlayer.play (idle rivalStart) rivalCues).map fun (ts, _) =>
      ts.any fun t => unbindsRival t && rivalAgrees t) = some true := by decide +kernel
  obtain ⟨⟨ts, c⟩, hplay, hlost⟩ := Option.map_eq_some_iff.1 hplay
  obtain ⟨t, ht, hlost⟩ := List.any_eq_true.1 hlost
  obtain ⟨hunbinds, hagrees⟩ := Bool.and_eq_true_iff.1 hlost
  exact hall assetRuntime rivalStart ts c (fun _ => True) (Player.play_path hplay)
    boundStamped_rivalStore t ht _ _ (unbinds_of_unbindsRival hunbinds) hagrees

end Sample

end OwneX
