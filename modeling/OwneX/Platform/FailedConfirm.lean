import OwneX.Platform.ConfirmAlone
import OwneX.Platform.TamperEvidence

set_option autoImplicit false

/-! # Confirmations that fail

A confirmation releases the claims that the chain contradicts one by one, before it knows whether it
will succeed. When a later claim stops it, or the draft cannot be bound, the claims released so far
stay released, although the answer may say that nothing was changed. -/

namespace OwneX

open Js JsNumber Prog

section FailedConfirm

variable [Js.CaseMapping] {σ : Type} [ERC721 σ] {rt : AssetRuntime}
  {fails : AssetOp → Option DbError} {created : String × String}

/-- A release shows in the table. -/
theorem rows_changed {s : AssetServerState σ} {session : SessionData} {assetId : String}
    {body : Option ConfirmBody} {confirmed : ConfirmBody} {row : StoredAsset}
    {chainAsset : AssetState} {claims : List ClaimRow}
    (h : ConfirmReady fails s session assetId body confirmed row chainAsset claims)
    (hreleased : releasedClaims rt fails confirmed.tokenId chainAsset.assetHash claims ≠ []) :
    s.assets.rows.map (·.releasedIn ((releasedClaims rt fails confirmed.tokenId
      chainAsset.assetHash claims).map (·.id))) ≠ s.assets.rows := by
  intro hsame
  obtain ⟨claim, hclaim⟩ := List.exists_mem_of_ne_nil _ hreleased
  have hmem := (List.takeWhile_sublist _).subset (List.mem_filter.1 hclaim).1
  obtain ⟨withContract, hclaims⟩ := claims_of_claimsRead h.claims
  rw [hclaims] at hmem
  obtain ⟨holder, hholder, rfl⟩ := List.mem_map.1 hmem
  obtain ⟨hrow, htoken, -⟩ := AssetStore.mem_holders.1 hholder
  have hkept := List.map_inj_left.1 (hsame.trans (List.map_id _).symm) holder hrow
  have hid : holder.id ∈ (releasedClaims rt fails confirmed.tokenId chainAsset.assetHash
      claims).map (·.id) := List.mem_map.2 ⟨_, hclaim, rfl⟩
  rw [StoredAsset.releasedIn, if_pos hid] at hkept
  have hnone := congrArg (fun row : StoredAsset => row.tokenId) hkept
  rw [id, htoken] at hnone
  cases hnone

end FailedConfirm

/-- Alone, a failed confirmation leaves every row as it was exactly where, once a claim on the token
    has been released, no other claim stops the confirmation and the draft can be bound. -/
theorem failed_confirm_unchanged_iff [Js.CaseMapping] {σ : Type} [ERC721 σ] (rt : AssetRuntime)
    (fails : AssetOp → Option DbError) (created : String × String) (s : AssetServerState σ)
    (session : SessionData) (assetId : String) (body : Option ConfirmBody) :
    let final := alone (AssetServerState.answer rt.server fails created)
      (confirm rt session assetId body).run s
    (∀ e, final.1 = .error e → final.2.assets.rows = s.assets.rows) ↔
      ∀ confirmed row chainAsset claims,
        ConfirmReady fails s session assetId body confirmed row chainAsset claims →
        releasedClaims rt fails confirmed.tokenId chainAsset.assetHash claims ≠ [] →
          claims.all (passes rt fails confirmed.tokenId chainAsset.assetHash) = true ∧
            CanBind rt fails s.assets row confirmed chainAsset.assetHash claims := by
  intro final
  by_cases hready : ∃ confirmed row chainAsset claims,
      ConfirmReady fails s session assetId body confirmed row chainAsset claims
  · obtain ⟨confirmed, row, chainAsset, claims, hready⟩ := hready
    obtain ⟨hsucceeds, hfails⟩ := alone_confirm_ready rt created hready
    constructor
    · intro hunchanged confirmed' row' chainAsset' claims' hready' hreleased
      obtain ⟨rfl, rfl, rfl, rfl⟩ := hready.unique hready'
      by_contra hnot
      obtain ⟨⟨e, herror⟩, hrows⟩ := hfails hnot
      exact rows_changed hready hreleased (hrows.symm.trans (hunchanged e herror))
    · intro hcondition e herror
      by_cases hreleased :
          releasedClaims rt fails confirmed.tokenId chainAsset.assetHash claims = []
      · by_cases hok : claims.all (passes rt fails confirmed.tokenId chainAsset.assetHash) = true ∧
            CanBind rt fails s.assets row confirmed chainAsset.assetHash claims
        · obtain ⟨reply, hreply⟩ := hsucceeds hok
          exact absurd (herror.symm.trans hreply) (by simp)
        · rw [(hfails hok).2, hreleased, List.map_nil]
          exact (List.map_congr_left fun row _ => row.releasedIn_nil).trans (List.map_id _)
      · obtain ⟨reply, hreply⟩ := hsucceeds (hcondition _ _ _ _ hready hreleased)
        exact absurd (herror.symm.trans hreply) (by simp)
  · have hnone : ∀ confirmed row chainAsset claims,
        ¬ ConfirmReady fails s session assetId body confirmed row chainAsset claims :=
      fun confirmed row chainAsset claims h => hready ⟨confirmed, row, chainAsset, claims, h⟩
    obtain ⟨e, hfinal⟩ := alone_confirm_notReady rt created s session assetId body hnone
    constructor
    · intro _ confirmed row chainAsset claims h
      exact absurd h (hnone confirmed row chainAsset claims)
    · intro _ e' _
      exact congrArg (fun outcome => outcome.2.assets.rows) hfinal

/-! ## A conflict after a release -/

namespace Sample

/-- The deployment at address 9. -/
def nine : AssetDeployment := ⟨31337, 9#160⟩

def assetRuntime : AssetRuntime where
  server := portalRuntime
  deployment := nine
  appOrigin := "https://ownex.example"
  keccakUtf8 := keccakTable
  cipher _ plaintext := ("", "", plaintext)
  decipher _ _ ciphertext := some ciphertext

@[reducible] def asciiStrings : Str.CaseMapping where
  toCaseMapping := asciiCase
  lower s := if s.isWellFormed then Str.ofString (asciiCase.toLowerCase s.toWellFormed) else s
  lower_ofString := by
    intro s
    have hwell : (Str.ofString s).isWellFormed = true := by
      simp [Str.ofString, Str.isWellFormed]
    rw [if_pos hwell, Str.toWellFormed_ofString]

/-- A row of organization 1. -/
def storedRow (id : String) (tokenId : Option Nat) (assetHash : Bytes32)
    (stamp : Option AssetDeployment) : StoredAsset where
  id
  tokenId
  orgId := ⟨1, one_safe⟩
  name := "Laptop"
  description := none
  assetType := "Laptop"
  department := none
  imageUrl := none
  assetHash := hex assetHash
  metadataUri := none
  serialEncrypted := none
  invoiceEncrypted := none
  createdAt := "2026-01-01T00:00:00Z"
  contractAddress := stamp.map (·.contractAddress)
  chainId := stamp.map (·.chainId)
  mintTxHash := none
  createdBy := some alice.1

/-- A draft with the anchor of token 1, a stale row that claims the token, and a twin that holds it. -/
def twinStore : AssetStore where
  rows := [storedRow "draft" none 11 (some nine), storedRow "stale" (some 1) 12 none,
    storedRow "twin" (some 1) 11 (some nine)]
  migrated := true
  lawful := by decide +kernel
  unstamped := by simp

def twinBody : ConfirmBody where
  tokenId := 1
  txHash := "0x" ++ String.ofList (List.replicate 64 '0')

/-- Alice confirms the draft. No statement fails. -/
def twinConfirm : Except ApiError ConfirmReply × AssetServerState Ledger :=
  letI := asciiCase
  alone (AssetServerState.answer assetRuntime.server (fun _ => none) ("", ""))
    (confirm assetRuntime aliceSession "draft" (some twinBody)).run ⟨portalStart, twinStore⟩

/-- The answer is a conflict, and the stale row has been released. -/
def twinReleased : Bool :=
  match twinConfirm.1 with
  | .ok _ => false
  | .error e => e == alreadyBound 1 ((storedRow "twin" (some 1) 11 (some nine)).claim true) &&
      twinConfirm.2.assets.rows.map (·.tokenId) == [none, none, some 1]

/-- Nothing was changed, says the answer. -/
theorem twin_conflict :
    ¬ ∀ [Js.CaseMapping] (rt : AssetRuntime) (fails : AssetOp → Option DbError)
        (created : String × String) (s : AssetServerState Ledger) (session : SessionData)
        (assetId : String) (body : Option ConfirmBody) (e : ApiError),
      (alone (AssetServerState.answer rt.server fails created)
          (confirm rt session assetId body).run s).1 = .error e →
        (alone (AssetServerState.answer rt.server fails created)
          (confirm rt session assetId body).run s).2.assets.rows = s.assets.rows := by
  intro hall
  have hreleased : twinReleased = true := by decide +kernel
  unfold twinReleased at hreleased
  split at hreleased
  · cases hreleased
  next e herror =>
      have hsame : twinConfirm.2.assets.rows = twinStore.rows :=
        @hall asciiCase assetRuntime (fun _ => none) ("", "") ⟨portalStart, twinStore⟩ aliceSession
          "draft" (some twinBody) e herror
      have hheld : (twinStore.rows.map (·.tokenId) == [none, none, some 1]) = false := by
        decide +kernel
      rw [hsame, hheld, Bool.and_false] at hreleased
      cases hreleased

end Sample

end OwneX
