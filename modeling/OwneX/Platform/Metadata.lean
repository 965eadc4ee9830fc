import OwneX.Platform.AssetMediation
import OwneX.Platform.MetadataRoutes
import OwneX.Platform.StoredRecords

set_option autoImplicit false

/-! # The public metadata of an asset is permanent

Any number of requests to `app/api/assets` and to `app/api/metadata`. The URI of an asset names its
row, and is written into the contract when the asset is minted. What is published of a row never
changes, whatever becomes of the row and of its token; the rest is read from the chain. -/

namespace OwneX

open Js JsNumber Prog Interleaving Service KeyedList

/-! ## The server -/

def StoredAsset.published (row : StoredAsset) : Published where
  orgId := row.orgId
  name := row.name
  description := row.description
  assetType := row.assetType
  department := row.department
  imageUrl := row.imageUrl
  assetHash := row.assetHash

def StoredAsset.metadataRow (row : StoredAsset) : MetadataRow where
  toPublished := row.published
  id := row.id
  tokenId := row.tokenId

namespace AssetStore

variable (store : AssetStore)

/-- The rows with a token that are stamped with a contract, or are not stamped. -/
def stamped (tokenId : Nat) (contractAddress : Option Address) : List StoredAsset :=
  store.rows.filter fun row =>
    row.tokenId == some tokenId && row.contractAddress == contractAddress

/-- The first row for the token: one that is stamped with the contract, or else one without. -/
def ofToken (tokenId : Nat) (contractAddress : Address) : Option StoredAsset :=
  (store.stamped tokenId (some contractAddress) ++ store.stamped tokenId none).head?

end AssetStore

structure MetadataState (σ : Type) where
  assets : AssetServerState σ
  directory : DirectoryStore

namespace MetadataState

variable {σ : Type}

/-- The table `assets`. -/
def table (s : MetadataState σ) : AssetStore :=
  s.assets.assets

variable [ERC721 σ]

/-- What an operation results in and what it makes of the state. -/
def exec (rt : ServerRuntime) (s : MetadataState σ) :
    (op : MetadataOp) → op.Res → MetadataState σ → Prop
  | .assets op, r, s' => s.assets.exec rt op r s'.assets ∧ s'.directory = s.directory
  | .selectById id, r, s' =>
      Attempted s (.ok ((s.table.find id).map (·.metadataRow)), s) r s'
  | .selectScoped tokenId contractAddress, r, s' =>
      Attempted s (s.table.select true
        ((s.table.ofToken tokenId contractAddress).map (·.metadataRow)), s) r s'
  | .selectLegacy tokenId, r, s' =>
      ∃ rows : List StoredAsset,
        rows.Perm (s.table.rows.filter fun row => row.tokenId == some tokenId) ∧
        Attempted s (.ok (rows.head?.map (·.metadataRow)), s) r s'
  | .selectOrganizationName orgId, r, s' =>
      Attempted s (.ok (s.directory.organizationName orgId), s) r s'

/-- The chain changes, time passes, and other requests change the other tables. -/
def outside (s s' : MetadataState σ) : Prop :=
  s.assets.outside s'.assets

/-- What an operation results in and what it makes of the state when nothing else goes on and
    nothing fails. `created` is what the database chooses. -/
def answer (rt : ServerRuntime) (created : String × String) (s : MetadataState σ) :
    (op : MetadataOp) → op.Res × MetadataState σ
  | .assets op =>
      ((s.assets.answer rt (fun _ => none) created op).1,
        { s with assets := (s.assets.answer rt (fun _ => none) created op).2 })
  | .selectById id => (.ok ((s.table.find id).map (·.metadataRow)), s)
  | .selectScoped tokenId contractAddress =>
      (s.table.select true ((s.table.ofToken tokenId contractAddress).map (·.metadataRow)), s)
  | .selectLegacy tokenId =>
      (.ok ((s.table.rows.filter fun row => row.tokenId == some tokenId).head?.map
        (·.metadataRow)), s)
  | .selectOrganizationName orgId => (.ok (s.directory.organizationName orgId), s)

end MetadataState

inductive MetadataRequest where
  | assets (req : AssetRequest)
  | metadata (ref : Text)

abbrev MetadataRequest.Ans : MetadataRequest → Type
  | assets req => req.Ans
  | metadata _ => Except ApiError AssetMetadata

section Service

variable [Str.CaseMapping]

def MetadataRequest.handler (rt : AssetRuntime) :
    (req : MetadataRequest) → Prog MetadataOp MetadataOp.Res req.Ans
  | assets req => (req.handler rt).embed MetadataOp.assets fun _ r => r
  | metadata ref => (getMetadata rt ref).run

/-- Any number of requests. -/
def publicAssets (σ : Type) [ERC721 σ] (rt : AssetRuntime) : Service where
  State := MetadataState σ
  Op := MetadataOp
  Res := MetadataOp.Res
  Req := MetadataRequest
  Ans := MetadataRequest.Ans
  exec := MetadataState.exec rt.server
  env := MetadataState.outside
  admits := fun _ _ => True
  handler := MetadataRequest.handler rt

end Service

/-! ## What is published stays -/

/-- The rows are all still there, with what is published of them. -/
def AssetStore.Keeps (store store' : AssetStore) : Prop :=
  ∀ row ∈ store.rows, ∃ row' ∈ store'.rows, row'.id = row.id ∧ row'.published = row.published

namespace AssetStore

variable {store store' : AssetStore}

theorem Keeps.refl (store : AssetStore) : store.Keeps store :=
  fun row hrow => ⟨row, hrow, rfl, rfl⟩

theorem Keeps.trans {store'' : AssetStore} (h : store.Keeps store') (h' : store'.Keeps store'') :
    store.Keeps store'' := by
  intro row hrow
  obtain ⟨row', hrow', hid, hpublished⟩ := h row hrow
  obtain ⟨row'', hrow'', hid', hpublished'⟩ := h' row' hrow'
  exact ⟨row'', hrow'', hid'.trans hid, hpublished'.trans hpublished⟩

/-- A patch has no column that is published. -/
theorem keeps_update (filter : AssetFilter) (patch : AssetPatch) :
    store.Keeps (store.update filter patch).2 := by
  rcases store.update_cases filter patch with ⟨e, heq⟩ | ⟨-, hrows, -⟩
  · rw [heq]
    exact .refl store
  · intro row hrow
    refine ⟨_, hrows ▸ mem_modify.2 ⟨row, hrow, rfl⟩, ?_, ?_⟩
    · split <;> rfl
    · split <;> rfl

theorem keeps_insert (draft : AssetDraft) (stamp : Option AssetDeployment) (id createdAt : String) :
    store.Keeps (store.insert draft stamp id createdAt).2 := by
  rcases store.insert_cases draft stamp id createdAt with ⟨e, heq⟩ | ⟨-, hrows, -⟩
  · rw [heq]
    exact .refl store
  · intro row hrow
    exact ⟨row, hrows ▸ List.mem_append_left _ hrow, rfl, rfl⟩

end AssetStore

section Steps

variable {σ : Type} [ERC721 σ] {rt : ServerRuntime}

theorem AssetServerState.exec_keeps {s s' : AssetServerState σ} {op : AssetOp} {r : op.Res}
    (h : s.exec rt op r s') : s.assets.Keeps s'.assets := by
  rcases exec_assets h with heq | ⟨filter, patch, -, heq⟩ | ⟨draft, stamp, id, createdAt, -, heq⟩
  · rw [heq]
    exact .refl _
  · rw [heq]
    exact AssetStore.keeps_update filter patch
  · rw [heq]
    exact AssetStore.keeps_insert draft stamp id createdAt

theorem MetadataState.exec_keeps {s s' : MetadataState σ} {op : MetadataOp} {r : op.Res}
    (h : s.exec rt op r s') : s.table.Keeps s'.table := by
  cases op with
  | assets op => exact AssetServerState.exec_keeps h.1
  | selectById id => rcases h.effect with rfl | rfl <;> exact .refl _
  | selectScoped tokenId contractAddress => rcases h.effect with rfl | rfl <;> exact .refl _
  | selectLegacy tokenId =>
      obtain ⟨rows, -, h⟩ := h
      rcases h.effect with rfl | rfl <;> exact .refl _
  | selectOrganizationName orgId => rcases h.effect with rfl | rfl <;> exact .refl _

theorem MetadataState.exec_migrated {s s' : MetadataState σ} {op : MetadataOp} {r : op.Res}
    (h : s.exec rt op r s') : s'.table.migrated = s.table.migrated := by
  cases op with
  | assets op => exact AssetServerState.exec_migrated h.1
  | selectById id => rcases h.effect with rfl | rfl <;> rfl
  | selectScoped tokenId contractAddress => rcases h.effect with rfl | rfl <;> rfl
  | selectLegacy tokenId =>
      obtain ⟨rows, -, h⟩ := h
      rcases h.effect with rfl | rfl <;> rfl
  | selectOrganizationName orgId => rcases h.effect with rfl | rfl <;> rfl

/-- Alone, the server does what it may do among others. -/
theorem MetadataState.exec_answer (created : String × String) (s : MetadataState σ)
    (op : MetadataOp) :
    s.exec rt op (s.answer rt created op).1 (s.answer rt created op).2 := by
  have hnone : ∀ (op : AssetOp) (e : DbError), none = some e → isUnknownColumn e = false := by
    simp
  cases op with
  | assets op => exact ⟨AssetServerState.exec_answer hnone created s.assets op, rfl⟩
  | selectLegacy tokenId => exact ⟨_, .refl _, .inl rfl⟩
  | _ => exact .inl rfl

end Steps

/-! ## What a request reads -/

section Reads

variable {rt : AssetRuntime} {ref : Text} {log : List ((op : MetadataOp) × op.Res)}

/-- How a row has been read. -/
inductive ReadRow (rt : AssetRuntime) (ref : Text) (row : MetadataRow)
    (log : List ((op : MetadataOp) × op.Res)) : Prop
  | draft (href : isUuid ref = true) (hread : ⟨.selectById (draftId ref), .ok (some row)⟩ ∈ log)
  | token {tokenId : Nat} (href : isUuid ref = false) (hparam : positiveInt ref = some tokenId)
      (hread : ⟨.selectScoped tokenId rt.deployment.contractAddress, .ok (some row)⟩ ∈ log)
  | legacy {tokenId : Nat} {e : DbError} (href : isUuid ref = false)
      (hparam : positiveInt ref = some tokenId) (he : isUnknownColumn e = true)
      (hfailed : ⟨.selectScoped tokenId rt.deployment.contractAddress, .error e⟩ ∈ log)
      (hread : ⟨.selectLegacy tokenId, .ok (some row)⟩ ∈ log)

theorem ReadRow.mono {row : MetadataRow} {log' : List ((op : MetadataOp) × op.Res)}
    (h : ReadRow rt ref row log) (hsub : log ⊆ log') : ReadRow rt ref row log' := by
  cases h with
  | draft href hread => exact .draft href (hsub hread)
  | token href hparam hread => exact .token href hparam (hsub hread)
  | legacy href hparam he hfailed hread => exact .legacy href hparam he (hsub hfailed) (hsub hread)

/-- A select that has data has not failed. -/
theorem ok_of_join {α ε : Type} {x : Except ε (Option α)} {a : α} (h : x.toOption.join = some a) :
    x = .ok (some a) := by
  cases x with
  | error e => cases h
  | ok found => exact congrArg _ h

theorem returns_readMetadataRow {row : MetadataRow}
    (h : Returns (readMetadataRow rt ref).run log (.ok (some row))) : ReadRow rt ref row log := by
  unfold readMetadataRow at h
  split at h
  next href =>
      obtain ⟨answer, rest, rfl, hpure⟩ := returns_ask_bind.1 h
      obtain ⟨-, hrow⟩ := returns_exceptT_pure.1 hpure
      obtain rfl := ok_of_join hrow
      exact .draft href List.mem_cons_self
  next href =>
      have hnot : isUuid ref = false := by simpa using href
      obtain ⟨tokenId, hparam, hread⟩ := returns_require_bind.1 h
      obtain ⟨answer, rest, rfl, hrest⟩ := returns_ask_bind.1 hread
      cases answer with
      | ok found =>
          obtain ⟨-, rfl⟩ := returns_exceptT_pure.1 hrest
          exact .token hnot hparam List.mem_cons_self
      | error e =>
          dsimp only at hrest
          split at hrest
          next he =>
              obtain ⟨answer, rest, rfl, hpure⟩ := returns_ask_bind.1 hrest
              obtain ⟨-, hrow⟩ := returns_exceptT_pure.1 hpure
              obtain rfl := ok_of_join hrow
              exact .legacy hnot hparam he List.mem_cons_self
                (List.mem_cons_of_mem _ List.mem_cons_self)
          · obtain ⟨-, hnone⟩ := returns_exceptT_pure.1 hrest
            cases hnone

/-- The token has been read, if there is anything to be said about it. -/
def ReadToken (log : List ((op : MetadataOp) × op.Res)) (tokenId : Option Nat)
    (chain : Option AssetState) : Prop :=
  ∀ asset, chain = some asset → ∃ token, tokenId = some token ∧
    ⟨.assets (.server (.readAsset token)), .ok (some asset)⟩ ∈ log

theorem returns_readToken {tokenId : Option Nat} {chain : Option AssetState}
    (h : Returns (readToken tokenId).run log (.ok chain)) : ReadToken log tokenId chain := by
  intro asset hasset
  subst hasset
  cases tokenId with
  | none =>
      obtain ⟨-, hnone⟩ := returns_exceptT_pure.1 h
      cases hnone
  | some token =>
      simp only [readToken] at h
      split at h
      · obtain ⟨answer, rest, rfl, hpure⟩ := returns_ask_bind.1 h
        obtain ⟨-, hchain⟩ := returns_exceptT_pure.1 hpure
        obtain rfl := ok_of_join hchain
        exact ⟨token, rfl, List.mem_cons_self⟩
      · obtain ⟨-, hnone⟩ := returns_exceptT_pure.1 h
        cases hnone

theorem returns_getMetadata {metadata : AssetMetadata}
    (h : Returns (getMetadata rt ref).run log (.ok metadata)) :
    ∃ row chain organization, metadata = metadataOf row chain organization ∧
      ReadRow rt ref row log ∧ ReadToken log row.tokenId chain := by
  obtain ⟨found, front, back, rfl, hfinding, hrest⟩ := returns_exceptT_bind.1 h
  obtain ⟨row, rfl, hreading⟩ := returns_require_bind.1 hrest
  obtain ⟨chain, middle, last, rfl, htoken, hnaming⟩ := returns_exceptT_bind.1 hreading
  obtain ⟨organization, rest, rfl, hpure⟩ := returns_ask_bind.1 hnaming
  obtain ⟨-, rfl⟩ := returns_exceptT_pure.1 hpure
  refine ⟨row, chain, _, rfl, ?_, ?_⟩
  · exact (returns_readMetadataRow hfinding).mono (List.subset_append_left ..)
  · intro asset hasset
    obtain ⟨token, htokenId, hread⟩ := returns_readToken htoken asset hasset
    exact ⟨token, htokenId, List.mem_append_right _ (List.mem_append_left _ hread)⟩

end Reads

/-! ## What a draft publishes -/

section Drafts

variable [Str.CaseMapping] {rt : AssetRuntime} {log : List ((op : AssetOp) × op.Res)}

def AssetDraft.published (draft : AssetDraft) : Published where
  orgId := draft.orgId
  name := draft.name
  description := draft.description
  assetType := draft.assetType
  department := draft.department
  imageUrl := draft.imageUrl
  assetHash := draft.assetHash

/-- What is published is what was submitted, with the hash of the confidential record. -/
structure PublishesDraft (rt : AssetRuntime) (body : DraftBody) (published : Published) : Prop where
  orgId : published.orgId.1 = body.orgId
  name : Str.ofString published.name = body.name
  description : published.description.map Str.ofString = body.description
  assetType : published.assetType = body.assetType.text
  department : published.department.map Str.ofString = body.department
  imageUrl : published.imageUrl.map Str.ofString = body.imageUrl
  assetHash : published.assetHash = (Preimage.Record.asset body.record).hash rt.keccakUtf8

theorem presents_of_prepareDraft {body : DraftBody} {caller : Caller} {draft : AssetDraft}
    (h : Returns (prepareDraft rt body caller).run log (.ok draft)) :
    PublishesDraft rt body draft.published := by
  obtain ⟨serialEncrypted, _, _, -, -, hrest⟩ := returns_exceptT_bind.1 h
  obtain ⟨invoiceEncrypted, _, _, -, -, hrest⟩ := returns_exceptT_bind.1 hrest
  split at hrest
  · obtain ⟨-, hcolumns⟩ := returns_require.1 hrest
    unfold DraftBody.columns at hcolumns
    simp only [Option.bind_eq_bind, Option.bind_eq_some_iff] at hcolumns
    obtain ⟨name, hname, description, hdescription, department, hdepartment, imageUrl, himageUrl,
      heq⟩ := hcolumns
    obtain rfl := Option.some.inj heq
    exact ⟨rfl, ofString_storedText hname, ofString_storedOptional hdescription, rfl,
      ofString_storedOptional hdepartment, ofString_storedOptional himageUrl, rfl⟩
  · obtain ⟨-, herror⟩ := returns_throw.1 hrest
    cases herror

/-- A draft that is answered for has been inserted, as it was submitted. -/
theorem inserted_of_createDraft {session : SessionData} {body : DraftBody} {reply : DraftReply}
    (h : Returns (createDraft rt session (some body)).run log (.ok reply)) :
    ∃ draft stamp, ⟨.insert draft stamp, .ok reply.assetId⟩ ∈ log ∧
      PublishesDraft rt body draft.published ∧ reply.assetHash = draft.assetHash ∧
      reply.metadataUri = rt.appOrigin ++ "/api/metadata/" ++ reply.assetId := by
  obtain ⟨accepted, haccepted, hguarding⟩ := returns_require_bind.1 h
  obtain rfl := Option.some.inj (Option.filter_eq_some_iff.1 haccepted).1
  obtain ⟨caller, front, back, rfl, -, hpreparing⟩ := returns_exceptT_bind.1 hguarding
  obtain ⟨draft, prepared, rest, rfl, hprepare, hinserting⟩ := returns_exceptT_bind.1 hpreparing
  obtain ⟨inserted, tried, last, rfl, htried, hlast⟩ := returns_exceptT_bind.1 hinserting
  cases inserted with
  | error e =>
      obtain ⟨-, herror⟩ := returns_throw.1 hlast
      cases herror
  | ok id =>
      obtain ⟨stamp, hinsert⟩ := returns_tryInsert htried
      obtain ⟨updated, rest, rfl, hpure⟩ := returns_ask_bind.1 hlast
      obtain ⟨-, rfl⟩ := returns_exceptT_pure.1 hpure
      refine ⟨draft, stamp, ?_, presents_of_prepareDraft hprepare, rfl, rfl⟩
      simp [hinsert]

end Drafts

/-! ## Which row a reference leads to -/

section References

/-- A row that a deployment has for a token: one that is stamped with its contract, or one without a
    stamp where there is none with it. -/
def HeldFor (store : AssetStore) (contractAddress : Address) (tokenId : Nat)
    (row : StoredAsset) : Prop :=
  row.tokenId = some tokenId ∧ (row.contractAddress = some contractAddress ∨
    row.contractAddress = none ∧ ∀ other ∈ store.rows, other.tokenId = some tokenId →
      other.contractAddress ≠ some contractAddress)

/-- The row that a reference leads to. -/
def Resolves (store : AssetStore) (contractAddress : Address) (ref : Text) (row : StoredAsset) :
    Prop :=
  row ∈ store.rows ∧ (isUuid ref = true ∧ row.id = draftId ref ∨
    isUuid ref = false ∧ ∃ tokenId, positiveInt ref = some tokenId ∧
      HeldFor store contractAddress tokenId row)

theorem ok_of_select {α : Type} {store : AssetStore} {a b : α} (h : store.select true a = .ok b) :
    a = b := by
  unfold AssetStore.select at h
  split at h
  · cases h
  · exact Except.ok.inj h

theorem migrated_of_select {α : Type} {store : AssetStore} {a : α} {e : DbError}
    (h : store.select true a = .error e) : store.migrated = false := by
  unfold AssetStore.select at h
  split at h
  next hmissing => simpa using hmissing
  · cases h

/-- The first row is stamped with the contract, if one is. -/
theorem heldFor_of_ofToken {store : AssetStore} {tokenId : Nat} {contractAddress : Address}
    {row : StoredAsset} (h : store.ofToken tokenId contractAddress = some row) :
    row ∈ store.rows ∧ HeldFor store contractAddress tokenId row := by
  have hmem : ∀ {stamp : Option Address}, row ∈ store.stamped tokenId stamp →
      row ∈ store.rows ∧ row.tokenId = some tokenId ∧ row.contractAddress = stamp := by
    intro stamp hrow
    obtain ⟨hrows, hcolumns⟩ := List.mem_filter.1 hrow
    rw [Bool.and_eq_true, beq_iff_eq, beq_iff_eq] at hcolumns
    exact ⟨hrows, hcolumns⟩
  unfold AssetStore.ofToken at h
  cases hstamped : store.stamped tokenId (some contractAddress) with
  | cons first rest =>
      rw [hstamped] at h
      obtain rfl := Option.some.inj h
      obtain ⟨hrows, htoken, hstamp⟩ := hmem (hstamped ▸ List.mem_cons_self)
      exact ⟨hrows, htoken, .inl hstamp⟩
  | nil =>
      rw [hstamped, List.nil_append] at h
      obtain ⟨hrows, htoken, hstamp⟩ := hmem (List.mem_of_mem_head? h)
      refine ⟨hrows, htoken, .inr ⟨hstamp, fun other hother htoken' hours => ?_⟩⟩
      have hnone : other ∈ store.stamped tokenId (some contractAddress) :=
        List.mem_filter.2 ⟨hother, by simp [htoken', hours]⟩
      rw [hstamped] at hnone
      cases hnone

/-- A table without stamps has any row of a token for the deployment. -/
theorem heldFor_of_unstamped {store : AssetStore} (hmigrated : store.migrated = false)
    {contractAddress : Address} {tokenId : Nat} {row : StoredAsset} (hrow : row ∈ store.rows)
    (htoken : row.tokenId = some tokenId) : HeldFor store contractAddress tokenId row := by
  refine ⟨htoken, .inr ⟨(store.unstamped hmigrated row hrow).1, fun other hother _ hours => ?_⟩⟩
  rw [(store.unstamped hmigrated other hother).1] at hours
  cases hours

end References

/-! ## Runs -/

section Runs

variable [Str.CaseMapping] {σ : Type} [ERC721 σ] {rt : AssetRuntime} {s : MetadataState σ}
  {ts : List (publicAssets σ rt).Transition} {c c' : (publicAssets σ rt).Config} {i : Nat}

/-- What is said of a token was so on the chain. -/
def LiveToken (seen : List (MetadataOp × MetadataState σ)) (tokenId : Option Nat)
    (chain : Option AssetState) : Prop :=
  ∀ asset, chain = some asset → ∃ token now, tokenId = some token ∧
    (.assets (.server (.readAsset token)), now) ∈ seen ∧
    now.assets.server.chain.readAsset token = .ok (some asset)

theorem keeps_path (h : (publicAssets σ rt).system.Path c ts c') :
    AssetStore.Keeps (MetadataState.table c.shared) (MetadataState.table c'.shared) := by
  refine h.rel (R := fun c c' : (publicAssets σ rt).Config =>
    AssetStore.Keeps (MetadataState.table c.shared) (MetadataState.table c'.shared))
    (fun _ => .refl _) (fun hab hbc => hab.trans hbc) fun t ht => ?_
  rcases Transition.Valid.shared (h.valid t ht) with heq | ⟨i, op, r, -, hexec⟩ | henv
  · change AssetStore.Keeps _ (MetadataState.table t.after.shared)
    rw [heq]
    exact .refl _
  · exact MetadataState.exec_keeps hexec
  · have hsame : MetadataState.table t.after.shared = MetadataState.table t.before.shared := henv.2
    change AssetStore.Keeps _ (MetadataState.table t.after.shared)
    rw [hsame]
    exact .refl _

/-- Nothing that a request does migrates the table. -/
theorem migrated_path (h : (publicAssets σ rt).system.Path c ts c') :
    (MetadataState.table c'.shared).migrated = (MetadataState.table c.shared).migrated := by
  refine h.rel (R := fun c c' : (publicAssets σ rt).Config =>
    (MetadataState.table c'.shared).migrated = (MetadataState.table c.shared).migrated)
    (fun _ => rfl) (fun hab hbc => hbc.trans hab) fun t ht => ?_
  rcases Transition.Valid.shared (h.valid t ht) with heq | ⟨i, op, r, -, hexec⟩ | henv
  · exact congrArg (fun s : MetadataState σ => s.table.migrated) heq
  · exact MetadataState.exec_migrated hexec
  · exact congrArg AssetStore.migrated henv.2

/-- What a thread has read, it has read of a table that is kept. -/
theorem read_at (h : (publicAssets σ rt).Run s ts c) {op : MetadataOp} {r : op.Res}
    (hread : ⟨op, r⟩ ∈ ownLog i ts) :
    ∃ now next : MetadataState σ, (op, now) ∈ moments i ts ∧ now.exec rt.server op r next ∧
      now.table.Keeps (MetadataState.table c.shared) ∧
      next.table.Keeps (MetadataState.table c.shared) ∧ now.table.migrated = s.table.migrated := by
  obtain ⟨t, ht, hmove⟩ := mem_ownLog.1 hread
  obtain ⟨pre, post, rfl⟩ := List.append_of_mem ht
  obtain ⟨hbefore, hvalid, hafter⟩ := h.split_at
  obtain ⟨-, -, -, -, hexec, -⟩ := Transition.Valid.perform hvalid hmove
  have hkeeps := keeps_path hafter
  exact ⟨t.before.shared, t.after.shared, mem_moments ht hmove, hexec,
    (MetadataState.exec_keeps hexec).trans hkeeps, hkeeps, migrated_path hbefore⟩

/-- The row that a request has read is the one that its reference leads to. -/
theorem resolves_of_readRow (h : (publicAssets σ rt).Run s ts c) {ref : Text} {row : MetadataRow}
    (hread : ReadRow rt ref row (ownLog i ts)) :
    ∃ op now stored, (op, now) ∈ moments i ts ∧
      Resolves (MetadataState.table now) rt.deployment.contractAddress ref stored ∧
      stored.metadataRow = row ∧
      AssetStore.Keeps (MetadataState.table now) (MetadataState.table c.shared) := by
  cases hread with
  | draft href hread =>
      obtain ⟨now, next, hmoment, hexec, hkeeps, -, -⟩ := read_at h hread
      have hfound := Except.ok.inj (Prod.mk.inj (Attempted.of_ok hexec)).1
      obtain ⟨stored, hstored, hsame⟩ := Option.map_eq_some_iff.1 hfound
      obtain ⟨hrow, hid⟩ := (lookup_eq_some_iff now.table.lawful.primaryKey).1 hstored
      exact ⟨_, now, stored, hmoment, ⟨hrow, .inl ⟨href, hid⟩⟩, hsame, hkeeps⟩
  | token href hparam hread =>
      obtain ⟨now, next, hmoment, hexec, hkeeps, -, -⟩ := read_at h hread
      have hfound := ok_of_select (Prod.mk.inj (Attempted.of_ok hexec)).1
      obtain ⟨stored, hstored, hsame⟩ := Option.map_eq_some_iff.1 hfound
      obtain ⟨hrow, hours⟩ := heldFor_of_ofToken hstored
      exact ⟨_, now, stored, hmoment, ⟨hrow, .inr ⟨href, _, hparam, hours⟩⟩, hsame, hkeeps⟩
  | legacy href hparam he hfailed hread =>
      -- The column was missing then, and it is missing still.
      obtain ⟨now', next', -, hexec', -, -, hmigrated'⟩ := read_at h hfailed
      have hmissing := migrated_of_select (Prod.mk.inj (Attempted.of_unknownColumn hexec' he)).1
      obtain ⟨now, next, hmoment, ⟨rows, hperm, hattempted⟩, hkeeps, -, hmigrated⟩ :=
        read_at h hread
      have hfound := Except.ok.inj (Prod.mk.inj hattempted.of_ok).1
      obtain ⟨stored, hstored, hsame⟩ := Option.map_eq_some_iff.1 hfound
      obtain ⟨hrow, htoken⟩ := List.mem_filter.1 (hperm.mem_iff.1 (List.mem_of_mem_head? hstored))
      have hunstamped : now.table.migrated = false :=
        hmigrated.trans (hmigrated'.symm.trans hmissing)
      exact ⟨_, now, stored, hmoment, ⟨hrow, .inr ⟨href, _, hparam,
        heldFor_of_unstamped hunstamped hrow (by simpa using htoken)⟩⟩, hsame, hkeeps⟩

theorem liveToken_of_readToken (h : (publicAssets σ rt).Run s ts c) {tokenId : Option Nat}
    {chain : Option AssetState} (hread : ReadToken (ownLog i ts) tokenId chain) :
    LiveToken (moments i ts) tokenId chain := by
  intro asset hasset
  obtain ⟨token, htokenId, hlogged⟩ := hread asset hasset
  obtain ⟨now, next, hmoment, hexec, -⟩ := read_at h hlogged
  exact ⟨token, now, htokenId, hmoment, (Prod.mk.inj (Attempt.of_ok hexec.1.1)).1⟩

/-- The row of a draft that has been answered for publishes what was submitted. -/
theorem drafted (h : (publicAssets σ rt).Run s ts c) {k : Nat} {session : SessionData}
    {body : DraftBody} {reply : DraftReply}
    (hanswers : c.Answers k (.assets (.create session (some body))) (.ok reply)) :
    ∃ later ∈ (MetadataState.table c.shared).rows, later.id = reply.assetId ∧
      PublishesDraft rt body later.published ∧ reply.assetHash = later.assetHash := by
  obtain ⟨inner, hinner, hdone⟩ := log_of_embed (Run.returns h hanswers)
  obtain ⟨draft, stamp, hinsert, hpresents, hhash, -⟩ := inserted_of_createDraft hinner
  obtain ⟨r, hlogged, rfl⟩ := hdone _ hinsert
  obtain ⟨now, next, -, hexec, -, hkeeps, -⟩ := read_at h hlogged
  obtain ⟨id, createdAt, hattempted⟩ := hexec.1
  obtain ⟨hresult, hafter⟩ := Prod.mk.inj hattempted.of_ok
  rcases now.table.insert_cases draft stamp id createdAt with ⟨e, herror⟩ | ⟨hok, hrows, -⟩
  · rw [MetadataState.table] at herror
    rw [herror] at hresult
    cases hresult
  · obtain rfl : id = reply.assetId := Except.ok.inj (hok.symm.trans hresult)
    have hnew : draft.toRow stamp reply.assetId createdAt ∈ next.table.rows := by
      rw [MetadataState.table, ← hafter]
      exact hrows ▸ List.mem_append_right _ (List.mem_singleton_self _)
    obtain ⟨later, hlater, hid, hpublished⟩ := hkeeps _ hnew
    refine ⟨later, hlater, hid, hpublished ▸ hpresents, ?_⟩
    exact hhash.trans (congrArg Published.assetHash hpublished).symm

/-- In every interleaving, the metadata of an asset is that of the row which its reference led to, with
    the holder and the status that the chain had at that time. What it shows of the row stays as it
    is, and it is what was submitted for the draft. -/
theorem metadata_permanent (h : (publicAssets σ rt).Run s ts c) {ref : Text}
    {metadata : AssetMetadata} (hanswers : c.Answers i (.metadata ref) (.ok metadata)) :
    ∃ op now row chain organization, (op, now) ∈ moments i ts ∧
      Resolves (MetadataState.table now) rt.deployment.contractAddress ref row ∧
      metadata = metadataOf row.metadataRow chain organization ∧
      LiveToken (moments i ts) row.tokenId chain ∧
      (∃ later ∈ (MetadataState.table c.shared).rows,
        later.id = row.id ∧ later.published = row.published) ∧
      ∀ k session body reply, c.Answers k (.assets (.create session (some body))) (.ok reply) →
        row.id = reply.assetId →
          PublishesDraft rt body row.published ∧ metadata.assetHash = reply.assetHash := by
  obtain ⟨found, chain, organization, rfl, hread, htoken⟩ :=
    returns_getMetadata (Run.returns h hanswers)
  obtain ⟨op, now, row, hmoment, hresolves, rfl, hkeeps⟩ := resolves_of_readRow h hread
  have hlater := hkeeps row hresolves.1
  refine ⟨op, now, row, chain, organization, hmoment, hresolves, rfl,
    liveToken_of_readToken h htoken, hlater, ?_⟩
  intro k session body reply hcreated hid
  obtain ⟨later, hmem, hsame, hpublished⟩ := hlater
  obtain ⟨stored, hstored, hassetId, hpresents, hhash⟩ := drafted h hcreated
  obtain rfl : later = stored := AssetStore.eq_of_id _ hmem hstored
    (hsame.trans (hid.trans hassetId.symm))
  exact ⟨hpublished ▸ hpresents, (hhash.trans (congrArg Published.assetHash hpublished)).symm⟩

end Runs

/-! ## Scripted runs -/

/-- No statement fails. The chain and the clock change as the cue says. -/
def metadataPlayer (σ : Type) [ERC721 σ] [Str.CaseMapping] (rt : AssetRuntime)
    (created : String × String) : (publicAssets σ rt).Player where
  Choice := Unit
  Event := Chain σ × TimeValue
  perform := fun (s : MetadataState σ) op _ => some (s.answer rt.server created op)
  outside := fun (s : MetadataState σ) event =>
    ((assetPlayer σ rt).outside s.assets event).map fun assets => { s with assets }
  admits := fun _ _ => true
  perform_sound := by
    intro s op choice r s' h
    obtain ⟨rfl, rfl⟩ := Prod.mk.inj (Option.some.inj h)
    exact MetadataState.exec_answer created s op
  outside_sound := by
    intro s event s' h
    obtain ⟨assets, hassets, rfl⟩ := Option.map_eq_some_iff.1 h
    exact (assetPlayer σ rt).outside_sound hassets
  admits_sound := fun _ => trivial

/-! ## The metadata of Alice's draft -/

namespace Sample

abbrev publicService : Service := letI := asciiStrings; publicAssets Ledger openRuntime

abbrev publicScript : publicService.Player :=
  letI := asciiStrings
  metadataPlayer Ledger openRuntime
    ("4f9c2d1e-0000-4000-8000-0000000000ab", "2026-01-01T00:00:00Z")

def publicStart : MetadataState Ledger :=
  ⟨⟨portalStart, emptyStore⟩, ⟨[], [], List.nodup_nil, List.nodup_nil⟩⟩

/-- The draft under its id, in another spelling. -/
def macbookRef : Text := "4F9C2D1E-0000-4000-8000-0000000000AB".toList

/-- Alice submits a draft, and somebody asks for its metadata. -/
def publicCues : List publicScript.Cue :=
  .arrive (.assets (.create aliceSession (some (macbookBody none)))) ::
    List.replicate 6 (.perform 0 ()) ++
    .arrive (.metadata macbookRef) :: List.replicate 2 (.perform 1 ())

/-- The name and the hash that are shown. -/
def shownMetadata (c : publicService.Config) (i : Nat) : Option (String × String) :=
  match c.answer? i with
  | some ⟨.metadata _, .ok metadata⟩ => some (metadata.name, metadata.assetHash)
  | _ => none

theorem answers_of_shownMetadata {c : publicService.Config} {i : Nat} {name hash : String}
    (h : shownMetadata c i = some (name, hash)) :
    ∃ ref metadata, c.Answers i (.metadata ref) (.ok metadata) ∧ metadata.name = name ∧
      metadata.assetHash = hash := by
  unfold shownMetadata at h
  split at h
  next ref metadata hanswer =>
      obtain ⟨hname, hhash⟩ := Prod.mk.inj (Option.some.inj h)
      exact ⟨ref, metadata, Config.answers_of_answer? hanswer, hname, hhash⟩
  · cases h

theorem macbook_published :
    ∃ (ts : List publicService.Transition) (c : publicService.Config) (ref : Text)
      (metadata : AssetMetadata) (row : StoredAsset), publicService.Run publicStart ts c ∧
      c.Answers 1 (.metadata ref) (.ok metadata) ∧ metadata.name = "MacBook Pro" ∧
      metadata.assetHash = hex macbookHash ∧
      ∃ later ∈ (MetadataState.table c.shared).rows,
        later.id = row.id ∧ later.published = row.published := by
  let _ := asciiStrings
  have hplay : (publicScript.play (idle publicStart) publicCues).map
      (fun run : List publicService.Transition × publicService.Config => shownMetadata run.2 1) =
      some (some ("MacBook Pro", hex macbookHash)) := by
    decide +kernel
  obtain ⟨⟨ts, c⟩, hrun, hshown⟩ := Option.map_eq_some_iff.1 hplay
  obtain ⟨ref, metadata, hanswers, hname, hhash⟩ := answers_of_shownMetadata hshown
  have hpath : publicService.Run publicStart ts c := Player.play_path hrun
  obtain ⟨op, now, row, chain, organization, -, -, -, -, hlater, -⟩ :=
    metadata_permanent hpath hanswers
  exact ⟨ts, c, ref, metadata, row, hpath, hanswers, hname, hhash, hlater⟩

end Sample

end OwneX
