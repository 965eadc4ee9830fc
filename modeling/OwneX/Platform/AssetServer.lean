import OwneX.Platform.AssetRoutes
import OwneX.Platform.ServerRuns

set_option autoImplicit false

/-! # The server and the table `assets`

Any number of requests to `app/api/assets`. The chain changes from outside, as it likes; the table is
changed by the requests only. -/

namespace OwneX

open Js JsNumber Prog Interleaving Service KeyedList

/-! ## Reading the table -/

namespace StoredAsset

def draftRow (row : StoredAsset) : DraftRow where
  id := row.id
  orgId := row.orgId
  tokenId := row.tokenId
  assetHash := row.assetHash
  name := row.name

def claim (withContract : Bool) (row : StoredAsset) : ClaimRow where
  id := row.id
  name := row.name
  assetHash := row.assetHash
  contractAddress := if withContract then row.contractAddress else none

/-- `ROW_FIELDS`, with the contract or without. -/
def listed (withContract : Bool) (row : StoredAsset) : AssetRow :=
  if withContract then row.toAssetRow else { row.toAssetRow with contractAddress := none }

end StoredAsset

namespace AssetStore

variable (store : AssetStore)

def missingColumn : DbError := ⟨some "42703", some "column assets.contract_address does not exist"⟩

/-- A select that names the contract, or does not. -/
def select {α : Type} (withContract : Bool) (a : α) : Except DbError α :=
  if withContract && !store.migrated then .error missingColumn else .ok a

def find (id : String) : Option StoredAsset :=
  lookup (fun row : StoredAsset => row.id) store.rows id

/-- The rows that hold a token, but for one. -/
def holders (tokenId : Nat) (keepAssetId : String) : List StoredAsset :=
  store.rows.filter fun row => row.tokenId == some tokenId && row.id != keepAssetId

def ofOrganization (orgId : SafeInt) : List StoredAsset :=
  store.rows.filter fun row => row.orgId = orgId

end AssetStore

/-! ## Statements that fail -/

/-- A statement with the given outcome is performed, or it fails. One that fails may have been
    performed nevertheless, its result being lost. That a column is missing is never a failure of this
    kind. -/
def Attempted {S α : Type} (s : S) (outcome : Except DbError α × S) (r : Except DbError α) (s' : S) :
    Prop :=
  (r, s') = outcome ∨
    ∃ e, r = .error e ∧ isUnknownColumn e = false ∧ (s' = s ∨ s' = outcome.2)

theorem Attempted.of_ok {S α : Type} {s s' : S} {outcome : Except DbError α × S} {a : α}
    (h : Attempted s outcome (.ok a) s') : outcome = (.ok a, s') := by
  rcases h with heq | ⟨e, herror, -⟩
  · exact heq.symm
  · cases herror

/-- The state is as it was or as the statement makes it. -/
theorem Attempted.effect {S α : Type} {s s' : S} {outcome : Except DbError α × S}
    {r : Except DbError α} (h : Attempted s outcome r s') : s' = s ∨ s' = outcome.2 := by
  rcases h with rfl | ⟨e, -, -, hs⟩
  · exact .inr rfl
  · exact hs

/-- Only a statement that names a missing column reports one. -/
theorem Attempted.of_unknownColumn {S α : Type} {s s' : S} {outcome : Except DbError α × S}
    {e : DbError} (h : Attempted s outcome (.error e) s') (he : isUnknownColumn e = true) :
    outcome = (.error e, s') := by
  rcases h with heq | ⟨e', herror, hother, -⟩
  · exact heq.symm
  · cases herror
    rw [he] at hother
    cases hother

/-! ## The server -/

structure AssetServerState (σ : Type) where
  server : ServerState σ
  assets : AssetStore

namespace AssetServerState

variable {σ : Type} [ERC721 σ]

def withAssets {α : Type} (s : AssetServerState σ) (outcome : Except DbError α × AssetStore) :
    Except DbError α × AssetServerState σ :=
  (outcome.1, { s with assets := outcome.2 })

/-- What an operation results in and what it makes of the state. Rows come in any order, and the
    database chooses the id and the date of a new one. -/
def exec (rt : ServerRuntime) (s : AssetServerState σ) :
    (op : AssetOp) → op.Res → AssetServerState σ → Prop
  | .server op, r, s' => s.server.exec rt op r s'.server ∧ s'.assets = s.assets
  | .selectDraft id, r, s' => Attempted s (.ok ((s.assets.find id).map (·.draftRow)), s) r s'
  | .selectClaims withContract tokenId keepAssetId, r, s' =>
      ∃ rows : List StoredAsset, rows.Perm (s.assets.holders tokenId keepAssetId) ∧
        Attempted s (s.assets.select withContract (rows.map (·.claim withContract)), s) r s'
  | .selectOrgRows withContract orgId, r, s' =>
      ∃ rows : List StoredAsset, rows.Perm (s.assets.ofOrganization orgId) ∧
        Attempted s (s.assets.select withContract (rows.map (·.listed withContract)), s) r s'
  | .update filter patch, r, s' => Attempted s (s.withAssets (s.assets.update filter patch)) r s'
  | .insert draft stamp, r, s' =>
      ∃ id createdAt, Attempted s (s.withAssets (s.assets.insert draft stamp id createdAt)) r s'

/-- The chain changes and time passes. -/
def outside (s s' : AssetServerState σ) : Prop :=
  s.server.outside s'.server ∧ s'.assets = s.assets

/-- What an operation results in and what it makes of the state when nothing else goes on. `fails`
    tells which statements fail, and `created` is what the database chooses. -/
def answer (rt : ServerRuntime) (fails : AssetOp → Option DbError) (created : String × String)
    (s : AssetServerState σ) : (op : AssetOp) → op.Res × AssetServerState σ
  | .server op => (s.server.outcome rt op, { s with server := s.server.effect op })
  | .selectDraft id =>
      match fails (.selectDraft id) with
      | some e => (.error e, s)
      | none => (.ok ((s.assets.find id).map (·.draftRow)), s)
  | .selectClaims withContract tokenId keepAssetId =>
      match fails (.selectClaims withContract tokenId keepAssetId) with
      | some e => (.error e, s)
      | none =>
          (s.assets.select withContract
            ((s.assets.holders tokenId keepAssetId).map (·.claim withContract)), s)
  | .selectOrgRows withContract orgId =>
      match fails (.selectOrgRows withContract orgId) with
      | some e => (.error e, s)
      | none =>
          (s.assets.select withContract ((s.assets.ofOrganization orgId).map (·.listed withContract)),
            s)
  | .update filter patch =>
      match fails (.update filter patch) with
      | some e => (.error e, s)
      | none => s.withAssets (s.assets.update filter patch)
  | .insert draft stamp =>
      match fails (.insert draft stamp) with
      | some e => (.error e, s)
      | none => s.withAssets (s.assets.insert draft stamp created.1 created.2)

end AssetServerState

inductive AssetRequest where
  | list (session : SessionData) (orgId : Option Nat)
  | create (session : SessionData) (body : Option DraftBody)
  | confirm (session : SessionData) (assetId : String) (body : Option ConfirmBody)

abbrev AssetRequest.Ans : AssetRequest → Type
  | list .. => Except ApiError Listing
  | create .. => Except ApiError DraftReply
  | confirm .. => Except ApiError ConfirmReply

section Service

variable [Str.CaseMapping]

def AssetRequest.handler (rt : AssetRuntime) :
    (req : AssetRequest) → Prog AssetOp AssetOp.Res req.Ans
  | list session orgId => (listAssets rt session orgId).run
  | create session body => (createDraft rt session body).run
  | confirm session assetId body => (OwneX.confirm rt session assetId body).run

/-- Any number of requests. -/
def assetServer (σ : Type) [ERC721 σ] (rt : AssetRuntime) : Service where
  State := AssetServerState σ
  Op := AssetOp
  Res := AssetOp.Res
  Req := AssetRequest
  Ans := AssetRequest.Ans
  exec := AssetServerState.exec rt.server
  env := AssetServerState.outside
  admits := fun _ _ => True
  handler := AssetRequest.handler rt

end Service

/-! ## What operations do -/

namespace AssetServerState

variable {σ : Type} [ERC721 σ] {rt : ServerRuntime} {s s' : AssetServerState σ}

/-- The table changes by the two statements that write it. -/
theorem exec_assets {op : AssetOp} {r : op.Res} (h : s.exec rt op r s') :
    s'.assets = s.assets ∨
      (∃ filter patch, op = .update filter patch ∧ s'.assets = (s.assets.update filter patch).2) ∨
      ∃ draft stamp id createdAt, op = .insert draft stamp ∧
        s'.assets = (s.assets.insert draft stamp id createdAt).2 := by
  cases op with
  | server op => exact .inl h.2
  | selectDraft id =>
      rcases h.effect with rfl | rfl <;> exact .inl rfl
  | selectClaims withContract tokenId keepAssetId =>
      obtain ⟨rows, -, h⟩ := h
      rcases h.effect with rfl | rfl <;> exact .inl rfl
  | selectOrgRows withContract orgId =>
      obtain ⟨rows, -, h⟩ := h
      rcases h.effect with rfl | rfl <;> exact .inl rfl
  | update filter patch =>
      rcases h.effect with rfl | rfl
      · exact .inl rfl
      · exact .inr (.inl ⟨filter, patch, rfl, rfl⟩)
  | insert draft stamp =>
      obtain ⟨id, createdAt, h⟩ := h
      rcases h.effect with rfl | rfl
      · exact .inl rfl
      · exact .inr (.inr ⟨draft, stamp, id, createdAt, rfl, rfl⟩)

/-- Nothing that a request does migrates the table. -/
theorem exec_migrated {op : AssetOp} {r : op.Res} (h : s.exec rt op r s') :
    s'.assets.migrated = s.assets.migrated := by
  rcases exec_assets h with heq | ⟨filter, patch, -, heq⟩ | ⟨draft, stamp, id, createdAt, -, heq⟩
  · rw [heq]
  · rw [heq]
    rcases s.assets.update_cases filter patch with ⟨e, heq⟩ | ⟨-, -, hsame⟩
    · rw [heq]
    · exact hsame
  · rw [heq]
    rcases s.assets.insert_cases draft stamp id createdAt with ⟨e, heq⟩ | ⟨-, -, hsame⟩
    · rw [heq]
    · exact hsame

/-- What a statement that fails reports. -/
theorem attempted_of_fails {S α : Type} {s : S} {outcome : Except DbError α × S} {e : DbError}
    (h : isUnknownColumn e = false) : Attempted s outcome (.error e) s :=
  .inr ⟨e, rfl, h, .inl rfl⟩

/-- Alone, the server does what it may do among others. -/
theorem exec_answer {fails : AssetOp → Option DbError}
    (hfails : ∀ op e, fails op = some e → isUnknownColumn e = false) (created : String × String)
    (s : AssetServerState σ) (op : AssetOp) :
    s.exec rt op (s.answer rt fails created op).1 (s.answer rt fails created op).2 := by
  cases op with
  | server op => exact ⟨s.server.exec_outcome rt op, rfl⟩
  | selectDraft id =>
      simp only [answer, exec]
      split
      next hfail => exact attempted_of_fails (hfails _ _ hfail)
      · exact .inl rfl
  | selectClaims withContract tokenId keepAssetId =>
      refine ⟨_, .refl _, ?_⟩
      simp only [answer]
      split
      next hfail => exact attempted_of_fails (hfails _ _ hfail)
      · exact .inl rfl
  | selectOrgRows withContract orgId =>
      refine ⟨_, .refl _, ?_⟩
      simp only [answer]
      split
      next hfail => exact attempted_of_fails (hfails _ _ hfail)
      · exact .inl rfl
  | update filter patch =>
      simp only [answer, exec]
      split
      next hfail => exact attempted_of_fails (hfails _ _ hfail)
      · exact .inl rfl
  | insert draft stamp =>
      refine ⟨created.1, created.2, ?_⟩
      simp only [answer]
      split
      next hfail => exact attempted_of_fails (hfails _ _ hfail)
      · exact .inl rfl

end AssetServerState

/-! ## Scripted runs -/

/-- No statement fails. The chain and the clock change as the cue says. -/
def assetPlayer (σ : Type) [ERC721 σ] [Str.CaseMapping] (rt : AssetRuntime) :
    (assetServer σ rt).Player where
  Choice := Unit
  Event := Chain σ × TimeValue
  perform := fun (s : AssetServerState σ) op _ =>
    some (s.answer rt.server (fun _ => none) ("new", "2026-01-01T00:00:00Z") op)
  outside := fun (s : AssetServerState σ) event =>
    ((serverPlayer σ rt.server).outside s.server event).map fun server => { s with server }
  admits := fun _ _ => true
  perform_sound := by
    intro s op choice r s' h
    obtain ⟨rfl, rfl⟩ := Prod.mk.inj (Option.some.inj h)
    have hnone : ∀ (op : AssetOp) (e : DbError), none = some e → isUnknownColumn e = false := by
      simp
    exact AssetServerState.exec_answer hnone _ s op
  outside_sound := by
    intro s event s' h
    obtain ⟨server, hserver, rfl⟩ := Option.map_eq_some_iff.1 h
    exact ⟨(serverPlayer σ rt.server).outside_sound hserver, rfl⟩
  admits_sound := fun _ => trivial

end OwneX
