import OwneX.Platform.DeploymentScope
import OwneX.Platform.Metadata

set_option autoImplicit false

/-! # Metadata of rows of another deployment

The metadata shows a row beside the token whose number the row has. Under its id a row of any
deployment is found, and under a token id the contract is compared but not the chain. A token of this
deployment is shown beside a row of another one exactly where such a row is found. -/

namespace OwneX

open Js JsNumber Prog KeyedList

section Scope

variable {σ : Type} [ERC721 σ] (rt : AssetRuntime) (created : String × String)
  (s : MetadataState σ)

/-! ## What is shown together -/

/-- A part of the request, when nothing else goes on and nothing fails. -/
abbrev aloneMetadata {α : Type} (p : MetadataRoute α) : Except ApiError α × MetadataState σ :=
  alone (MetadataState.answer rt.server created) p.run s

/-- The row and the token that the metadata is made from, where there is a token. -/
def joined (ref : Text) : Option (MetadataRow × AssetState) :=
  match (aloneMetadata rt created s (readMetadataRow rt ref)).1 with
  | .ok (some row) =>
      match (aloneMetadata rt created s (readToken row.tokenId)).1 with
      | .ok (some chain) => some (row, chain)
      | _ => none
  | _ => none

/-- No row of another deployment is shown beside a token of this one. -/
def MetadataKeepsToDeployment (ref : Text) : Prop :=
  ∀ row ∈ s.table.rows, row.Foreign rt.deployment →
    ∀ shown chain, joined rt created s ref = some (shown, chain) → shown.id ≠ row.id

/-! ## What is found -/

/-- The row that a reference finds. -/
def rowOf (ref : Text) : Option StoredAsset :=
  if isUuid ref then s.table.find (draftId ref)
  else (positiveInt ref).bind fun tokenId =>
    if s.table.migrated then s.table.ofToken tokenId rt.deployment.contractAddress
    else (s.table.rows.filter fun row => row.tokenId == some tokenId).head?

/-- The token that the chain has under the number of a row. -/
def tokenOf (tokenId : Option Nat) : Option AssetState :=
  (tokenId.filter (· < 2 ^ 53)).bind fun token =>
    (s.assets.server.chain.readAsset token).toOption.join

/-- By its id no row of another deployment is found that has the number of a token here, and by a
    token id none with the same contract on another chain. -/
def FindsNoForeign (ref : Text) : Prop :=
  (isUuid ref = true → ∀ row ∈ s.table.rows, row.id = draftId ref → row.Foreign rt.deployment →
    tokenOf s row.tokenId = none) ∧
  (isUuid ref = false → ∀ tokenId row, positiveInt ref = some tokenId →
    s.table.ofToken tokenId rt.deployment.contractAddress = some row →
      row.OtherChain rt.deployment → tokenOf s row.tokenId = none)

variable {rt created s}

theorem aloneMetadata_ask {op : MetadataOp} :
    aloneMetadata rt created s (ask op : MetadataRoute op.Res) =
      (.ok (MetadataState.answer rt.server created s op).1,
        (MetadataState.answer rt.server created s op).2) :=
  alone_ask op

theorem aloneMetadata_readRowByToken (tokenId : Nat) :
    aloneMetadata rt created s (readRowByToken rt tokenId) =
      (.ok (((if s.table.migrated then s.table.ofToken tokenId rt.deployment.contractAddress
        else (s.table.rows.filter fun row => row.tokenId == some tokenId).head?)).map
          (·.metadataRow)), s) := by
  have hscoped : aloneMetadata rt created s
      (ask (MetadataOp.selectScoped tokenId rt.deployment.contractAddress) :
        MetadataRoute (Except DbError (Option MetadataRow))) = _ := aloneMetadata_ask
  unfold readRowByToken
  cases hmigrated : s.table.migrated with
  | true =>
      simp only [MetadataState.answer, AssetStore.select, hmigrated, Bool.not_true, Bool.and_false,
        Bool.false_eq_true, if_false] at hscoped
      exact (alone_exceptT_bind hscoped _).trans rfl
  | false =>
      simp only [MetadataState.answer, AssetStore.select, hmigrated, Bool.not_false, Bool.and_true,
        if_true] at hscoped
      exact (alone_exceptT_bind hscoped _).trans rfl

variable (rt created s) in
/-- The request finds the row, or none. -/
theorem aloneMetadata_readMetadataRow (ref : Text) :
    ∃ found, aloneMetadata rt created s (readMetadataRow rt ref) = (found, s) ∧
      ∀ shown, found = .ok (some shown) ↔
        ∃ row, rowOf rt s ref = some row ∧ row.metadataRow = shown := by
  unfold readMetadataRow rowOf
  by_cases href : isUuid ref = true
  · simp only [href, if_true]
    have hread : aloneMetadata rt created s (ask (MetadataOp.selectById (draftId ref)) :
        MetadataRoute (Except DbError (Option MetadataRow))) = _ := aloneMetadata_ask
    refine ⟨.ok ((s.table.find (draftId ref)).map (·.metadataRow)),
      (alone_exceptT_bind hread _).trans rfl, fun shown => ?_⟩
    rw [Except.ok.injEq, Option.map_eq_some_iff]
  · simp only [href]
    cases hparam : positiveInt ref with
    | none => exact ⟨_, rfl, by simp⟩
    | some tokenId =>
        refine ⟨_, aloneMetadata_readRowByToken tokenId, fun shown => ?_⟩
        rw [Except.ok.injEq, Option.map_eq_some_iff]
        rfl

variable (rt created s) in
theorem aloneMetadata_readToken (tokenId : Option Nat) :
    aloneMetadata rt created s (readToken tokenId) = (.ok (tokenOf s tokenId), s) := by
  cases tokenId with
  | none => rfl
  | some token =>
      unfold readToken tokenOf
      by_cases hsafe : token < 2 ^ 53
      · have hread : aloneMetadata rt created s
            (ask (MetadataOp.assets (.server (.readAsset token))) :
              MetadataRoute (Except String (Option AssetState))) = _ := aloneMetadata_ask
        simp only [hsafe, if_true, Option.filter_some, decide_true]
        exact (alone_exceptT_bind hread _).trans rfl
      · simp only [hsafe, Option.filter_some, decide_false]
        rfl

theorem joined_eq_some_iff {ref : Text} {shown : MetadataRow} {chain : AssetState} :
    joined rt created s ref = some (shown, chain) ↔
      ∃ row, rowOf rt s ref = some row ∧ row.metadataRow = shown ∧
        tokenOf s row.tokenId = some chain := by
  obtain ⟨found, hread, hfound⟩ := aloneMetadata_readMetadataRow rt created s ref
  unfold joined
  rw [hread]
  constructor
  · intro h
    split at h
    next row hrow =>
        obtain ⟨stored, hstored, rfl⟩ := (hfound row).1 hrow
        rw [aloneMetadata_readToken] at h
        split at h
        next chain' hchain =>
            obtain ⟨rfl, rfl⟩ := Prod.mk.inj (Option.some.inj h)
            exact ⟨stored, hstored, rfl, Except.ok.inj hchain⟩
        · cases h
    · cases h
  · rintro ⟨row, hrow, rfl, hchain⟩
    obtain rfl := (hfound _).2 ⟨row, hrow, rfl⟩
    have htoken : tokenOf s row.metadataRow.tokenId = some chain := hchain
    dsimp only
    rw [aloneMetadata_readToken, htoken]

omit [ERC721 σ] in
theorem mem_of_rowOf {ref : Text} {row : StoredAsset} (h : rowOf rt s ref = some row) :
    row ∈ s.table.rows := by
  unfold rowOf at h
  split at h
  · exact ((lookup_eq_some_iff s.table.lawful.primaryKey).1 h).1
  · obtain ⟨tokenId, -, hfirst⟩ := Option.bind_eq_some_iff.1 h
    split at hfirst
    · exact (heldFor_of_ofToken hfirst).1
    · exact (List.mem_filter.1 (List.mem_of_mem_head? hfirst)).1

/-- What is joined is what the request shows. -/
theorem shown_of_joined {ref : Text} {shown : MetadataRow} {chain : AssetState}
    (h : joined rt created s ref = some (shown, chain)) :
    (aloneMetadata rt created s (getMetadata rt ref)).1 =
      .ok (metadataOf shown (some chain) (s.directory.organizationName shown.orgId.1)) := by
  obtain ⟨row, hrow, rfl, hchain⟩ := joined_eq_some_iff.1 h
  obtain ⟨found, hread, hfound⟩ := aloneMetadata_readMetadataRow rt created s ref
  obtain rfl := (hfound _).2 ⟨row, hrow, rfl⟩
  have htoken := aloneMetadata_readToken rt created s row.tokenId
  rw [hchain] at htoken
  unfold getMetadata
  refine (congrArg Prod.fst (alone_exceptT_bind hread _)).trans ?_
  exact congrArg Prod.fst (alone_exceptT_bind htoken _)

omit [ERC721 σ] in
/-- A row of another deployment that is found under a token id differs in the chain. -/
theorem otherChain_of_ofToken {tokenId : Nat} {row : StoredAsset}
    (hforeign : row.Foreign rt.deployment)
    (hfirst : s.table.ofToken tokenId rt.deployment.contractAddress = some row) :
    row.OtherChain rt.deployment := by
  refine hforeign.otherChain ?_
  -- The first row is stamped with the contract, or not at all.
  rcases (heldFor_of_ofToken hfirst).2.2 with hours | ⟨hnone, -⟩
  · simp [hours]
  · simp [hnone]

theorem tokenOf_of_findsNoForeign {ref : Text} {row : StoredAsset} (h : FindsNoForeign rt s ref)
    (hfound : rowOf rt s ref = some row) (hforeign : row.Foreign rt.deployment) :
    tokenOf s row.tokenId = none := by
  have hrow := mem_of_rowOf hfound
  unfold rowOf at hfound
  by_cases href : isUuid ref = true
  · rw [if_pos href] at hfound
    obtain ⟨-, hid⟩ := (lookup_eq_some_iff s.table.lawful.primaryKey).1 hfound
    exact h.1 href row hrow hid hforeign
  · rw [if_neg href] at hfound
    obtain ⟨tokenId, hparam, hfirst⟩ := Option.bind_eq_some_iff.1 hfound
    rw [if_pos (hforeign.migrated hrow)] at hfirst
    exact h.2 (by simpa using href) tokenId row hparam hfirst
      (otherChain_of_ofToken hforeign hfirst)

/-- The metadata keeps to the rows of its deployment exactly where it finds no other one that has the
    number of a token. -/
theorem metadata_scope_iff (rt : AssetRuntime) (created : String × String) (s : MetadataState σ)
    (ref : Text) :
    MetadataKeepsToDeployment rt created s ref ↔ FindsNoForeign rt s ref := by
  constructor
  · intro hkeeps
    have hnone : ∀ row ∈ s.table.rows, rowOf rt s ref = some row → row.Foreign rt.deployment →
        tokenOf s row.tokenId = none := by
      intro row hrow hfound hforeign
      by_contra hsome
      obtain ⟨chain, hchain⟩ := Option.ne_none_iff_exists'.1 hsome
      exact hkeeps row hrow hforeign _ chain
        (joined_eq_some_iff.2 ⟨row, hfound, rfl, hchain⟩) rfl
    refine ⟨fun href row hrow hid hforeign => hnone row hrow ?_ hforeign, ?_⟩
    · unfold rowOf
      rw [if_pos href]
      exact (lookup_eq_some_iff s.table.lawful.primaryKey).2 ⟨hrow, hid⟩
    · intro href tokenId row hparam hfirst hother
      have hrow := (heldFor_of_ofToken hfirst).1
      refine hnone row hrow ?_ hother.foreign
      unfold rowOf
      rw [if_neg (by simp [href]), hparam, Option.bind_some,
        if_pos (hother.foreign.migrated hrow)]
      exact hfirst
  · intro hfinds row hrow hforeign shown chain hjoined hid
    obtain ⟨found, hfound, rfl, hchain⟩ := joined_eq_some_iff.1 hjoined
    obtain rfl : found = row := s.table.eq_of_id (mem_of_rowOf hfound) hrow hid
    rw [tokenOf_of_findsNoForeign hfinds hfound hforeign] at hchain
    cases hchain

end Scope

/-! ## The metadata of token 1 -/

namespace Sample

/-- The same contract address on another chain. -/
def elsewhere : AssetDeployment := ⟨1, 9#160⟩

/-- It has the number of a token here. -/
def elsewhereRow : StoredAsset :=
  storedRow "4f9c2d1e-0000-4000-8000-0000000000ab" (some 1) 12 (some elsewhere)

def elsewhereStore : AssetStore where
  rows := [elsewhereRow]
  migrated := true
  lawful := by decide +kernel
  unstamped := by simp

def elsewhereState : MetadataState Ledger :=
  ⟨⟨portalStart, elsewhereStore⟩, ⟨[], [], List.nodup_nil, List.nodup_nil⟩⟩

/-- The row is shown beside the token, under its id and under the token id. -/
theorem elsewhere_shown :
    ¬ MetadataKeepsToDeployment assetRuntime ("", "") elsewhereState macbookRef ∧
      ¬ MetadataKeepsToDeployment assetRuntime ("", "") elsewhereState ['1'] := by
  have htoken : (tokenOf elsewhereState elsewhereRow.tokenId).isSome = true := by decide +kernel
  have hsome : tokenOf elsewhereState elsewhereRow.tokenId ≠ none :=
    Option.isSome_iff_ne_none.1 htoken
  have hother : elsewhereRow.OtherChain assetRuntime.deployment := ⟨rfl, 1, rfl, by decide⟩
  constructor
  · rw [metadata_scope_iff]
    rintro ⟨hdraft, -⟩
    exact hsome (hdraft (by decide +kernel) elsewhereRow (List.mem_singleton_self _)
      (by decide +kernel) hother.foreign)
  · rw [metadata_scope_iff]
    rintro ⟨-, hnumber⟩
    exact hsome (hnumber (by decide +kernel) 1 elsewhereRow (by decide +kernel) (by decide +kernel)
      hother)

end Sample

end OwneX
