import OwneX.Platform.Directory
import OwneX.Platform.StoredRecords

set_option autoImplicit false

/-! # How rows come to tell the truth

The two endpoints compare a column with the chain, so they vouch for the record beside the column
only as far as its writers have kept the two together. The routes do, save for fields that encryption
does not keep. Whoever edits the database does who writes the hash of a hashed field along with the
field. In a run of such writes an intact report means that the record hashes to the anchor, and a
write of any other kind ends that (`records_vouched_iff`). -/

namespace OwneX

open Js JsNumber Prog KeyedList

/-! ## A record beside its hash -/

/-- What a row holds of a record, and the column for the hash. -/
structure HashedRow where
  column : Option String
  record : Preimage.Record

section Rows

variable [Str.CaseMapping]

theorem toLowerCase_empty : CaseMapping.toLowerCase "" = "" := by
  rw [CaseMapping.ascii "" fun c hc => by cases hc]
  refine String.toList_injective ?_
  change (String.map Char.toLower "").toList = _
  rw [String.toList_map]
  rfl

/-- The column is the hash `anchor`, in any case. -/
def HashedRow.Spells (row : HashedRow) (anchor : Bytes32) : Prop :=
  ∃ stored, row.column = some stored ∧ CaseMapping.toLowerCase stored = hex anchor

variable (keccakUtf8 : String → Bytes32)

/-- The record hashes to whatever anchor the column spells. -/
def HashedRow.Truthful (row : HashedRow) : Prop :=
  ∀ anchor, row.Spells anchor → row.record.hash keccakUtf8 = hex anchor

/-- The two records agree in all that is hashed, or their texts collide. -/
def SameHashed (r r' : Preimage.Record) : Prop :=
  r.normalised = r'.normalised ∨
    Collision keccakUtf8 (String.ofList r.preimage) (String.ofList r'.preimage)

/-- What an edit may leave where `before` tells what was there. -/
inductive HashedRow.Faithful (before : HashedRow → Prop) (row : HashedRow) : Prop where
  /-- The column is left alone, and so is all that is hashed. -/
  | kept {old : HashedRow} : before old → old.column = row.column →
      SameHashed keccakUtf8 row.record old.record → Faithful before row
  /-- The column is written, and it is the hash of the record. -/
  | rehashed {stored : String} : (∀ old, before old → old.column ≠ row.column) →
      row.column = some stored → CaseMapping.toLowerCase stored = row.record.hash keccakUtf8 →
      Faithful before row
  /-- The column is no hash at all. -/
  | unhashed : (∀ anchor, ¬ row.Spells anchor) → Faithful before row

variable {keccakUtf8}

/-- Among rows that tell the truth, these are the edits after which the row does. -/
theorem HashedRow.truthful_iff_faithful {before : HashedRow → Prop}
    (hbefore : ∀ old, before old → old.Truthful keccakUtf8) (row : HashedRow) :
    row.Truthful keccakUtf8 ↔ row.Faithful keccakUtf8 before := by
  constructor
  · intro h
    by_cases hspells : ∃ anchor, row.Spells anchor
    · obtain ⟨anchor, stored, hstored, hlower⟩ := hspells
      have hhash := h anchor ⟨stored, hstored, hlower⟩
      by_cases hkept : ∃ old, before old ∧ old.column = row.column
      · obtain ⟨old, hold, hcolumn⟩ := hkept
        have hholds := hbefore old hold anchor ⟨stored, hcolumn.trans hstored, hlower⟩
        exact .kept hold hcolumn ((hash_eq_iff _ _).1 (hhash.trans hholds.symm))
      · refine .rehashed (fun old hold hcolumn => hkept ⟨old, hold, hcolumn⟩) hstored ?_
        rw [hlower, hhash]
    · exact .unhashed fun anchor hanchor => hspells ⟨anchor, hanchor⟩
  · rintro (⟨hold, hcolumn, hsame⟩ | ⟨-, hstored, hlower⟩ | hnone) anchor ⟨stored', hstored', hanchor⟩
    · rw [(hash_eq_iff _ _).2 hsame]
      exact hbefore _ hold anchor ⟨stored', hcolumn.trans hstored', hanchor⟩
    · rw [hstored] at hstored'
      rw [← hlower, Option.some.inj hstored', hanchor]
    · exact absurd ⟨stored', hstored', hanchor⟩ (hnone anchor)

/-- A row with a hash in its column tells the truth just where it hashes to the column. -/
theorem HashedRow.truthful_iff_of_column {row : HashedRow} {anchor : Bytes32}
    (h : row.column = some (hex anchor)) :
    row.Truthful keccakUtf8 ↔ row.record.hash keccakUtf8 = hex anchor := by
  constructor
  · exact fun htruthful => htruthful anchor ⟨_, h, toLowerCase_hex anchor⟩
  · rintro hhash anchor' ⟨stored, hstored, hlower⟩
    rw [h] at hstored
    rw [hhash, ← hlower, ← Option.some.inj hstored, toLowerCase_hex]

/-! ## What is reported of one row -/

variable (decipher : String → String → String → Option String)

def AssetRow.hashed (row : AssetRow) : HashedRow where
  column := some row.assetHash
  record := .asset (.ofRow (row.record decipher))

def ProfileRow.hashed (row : ProfileRow) : HashedRow where
  column := row.identityHash
  record := .identity (.ofRow (row.record decipher))

variable (keccakUtf8)

/-- Beside whatever token, the row is called intact only if it hashes to the anchor. -/
def AssetRow.Vouched (row : AssetRow) : Prop :=
  ∀ canSeeSerials chain, (assetItem decipher canSeeSerials chain (some row)).recordIntact = some true →
    hashAssetRecord keccakUtf8 (row.record decipher) = hex chain.assetHash

/-- Beside whatever identity, the profile is called intact only if it hashes to the anchor. -/
def ProfileRow.Vouched (row : ProfileRow) : Prop :=
  ∀ identity, (identityView identity (some row)).recordIntact = some true →
    some (hashIdentityRecord keccakUtf8 (row.record decipher)) = identity.identityHash.map hex

variable {keccakUtf8} {decipher}

theorem AssetRow.vouched_iff {row : AssetRow} :
    row.Vouched keccakUtf8 decipher ↔ (row.hashed decipher).Truthful keccakUtf8 := by
  have hhash : (row.hashed decipher).record.hash keccakUtf8 =
      hashAssetRecord keccakUtf8 (row.record decipher) := Preimage.hashAssetRecord_ofRow _ _
  constructor
  · rintro h anchor ⟨stored, hstored, hlower⟩
    obtain rfl := Option.some.inj hstored
    let chain : AssetState :=
      { tokenId := 0, orgId := 0, assetHash := anchor, assignedTo := 0, owner := 0, active := true,
        mintedAt := 0, transferCount := 0 }
    rw [hhash]
    exact h true chain ((recordIntact_assetItem decipher).2 ⟨row, rfl, hlower⟩)
  · intro h canSeeSerials chain hintact
    obtain ⟨r, hr, hlower⟩ := (recordIntact_assetItem decipher).1 hintact
    obtain rfl := Option.some.inj hr
    rw [← hhash]
    exact h chain.assetHash ⟨_, rfl, hlower⟩

theorem ProfileRow.vouched_iff {row : ProfileRow} :
    row.Vouched keccakUtf8 decipher ↔ (row.hashed decipher).Truthful keccakUtf8 := by
  have hhash : (row.hashed decipher).record.hash keccakUtf8 =
      hashIdentityRecord keccakUtf8 (row.record decipher) := Preimage.hashIdentityRecord_ofRow _ _
  constructor
  · rintro h anchor ⟨stored, hstored, hlower⟩
    -- An empty column would pass for none, but it is no hash.
    have hne : stored ≠ "" := by
      rintro rfl
      rw [toLowerCase_empty] at hlower
      have hlength := congrArg (fun text : String => text.toList.length) hlower
      simp [hex] at hlength
    let identity : IdentityState :=
      { wallet := 0, registered := true, active := true, identityHash := some anchor,
        registeredAt := none }
    have hanchor := h identity
      (recordIntact_identityView.2 ⟨anchor, row, stored, rfl, rfl, hstored, hne, hlower⟩)
    rw [hhash]
    exact Option.some.inj hanchor
  · intro h identity hintact
    obtain ⟨anchor, r, stored, hanchor, hr, hstored, -, hlower⟩ :=
      recordIntact_identityView.1 hintact
    obtain rfl := Option.some.inj hr
    rw [hanchor, ← hhash]
    exact congrArg some (h anchor ⟨stored, hstored, hlower⟩)

end Rows

/-! ## The two tables -/

/-- The rows of an organization are rows of the table, up to a stamp that is not read. -/
theorem AssetTable.mem_readOrgRows {table : AssetTable} {contractAddress : Address} {orgId : SafeInt}
    {row : AssetRow} (h : row ∈ table.readOrgRows contractAddress orgId) :
    ∃ row' ∈ table.rows, ∃ stamp, row = { row' with contractAddress := stamp } := by
  unfold AssetTable.readOrgRows at h
  dsimp only at h
  split at h
  · have hrow := (List.mem_filter.1 (List.mem_filter.1 h).1).1
    exact ⟨row, hrow, row.contractAddress, rfl⟩
  · obtain ⟨row', hrow', rfl⟩ := List.mem_map.1 h
    exact ⟨row', (List.mem_filter.1 hrow').1, none, rfl⟩

structure RecordStore where
  assets : AssetStore
  directory : DirectoryStore

theorem StoredAsset.lawful_nil : StoredAsset.Lawful [] := ⟨.nil, .nil⟩

theorem StoredAsset.unstamped_nil (migrated : Bool) :
    migrated = false → ∀ row ∈ ([] : List StoredAsset), row.Unstamped := by
  intro _ row hrow
  cases hrow

namespace RecordStore

def empty (migrated : Bool) : RecordStore where
  assets := ⟨[], migrated, StoredAsset.lawful_nil, StoredAsset.unstamped_nil migrated⟩
  directory := ⟨[], [], List.nodup_nil, List.nodup_nil⟩

variable (s : RecordStore)

/-- What `GET /api/assets` reads. -/
def table : AssetTable :=
  ⟨s.assets.rows.map (·.toAssetRow), s.assets.migrated⟩

variable [Str.CaseMapping] (rt : AssetRuntime)

/-- What an edit finds where it leaves a row with some id. -/
def assetsOf (id : String) (old : HashedRow) : Prop :=
  ∃ row ∈ s.assets.rows, row.id = id ∧ old = row.toAssetRow.hashed rt.decipher

/-- What an edit finds where it leaves the profile of some wallet. -/
def profilesOf (wallet : Address) (old : HashedRow) : Prop :=
  ∃ row ∈ s.directory.profiles, row.wallet = wallet ∧ old = row.toProfileRow.hashed rt.decipher

structure RowsVouched : Prop where
  assets : ∀ row ∈ s.assets.rows, row.toAssetRow.Vouched rt.keccakUtf8 rt.decipher
  profiles : ∀ row ∈ s.directory.profiles, row.toProfileRow.Vouched rt.keccakUtf8 rt.decipher

/-- Whatever the chain and the caller, the two endpoints call a record intact only if it hashes to the
    anchor. A record that differs from the anchored one in a hashed field is not called intact, unless
    the two texts collide. -/
structure Vouched : Prop where
  assets : ∀ {σ : Type} [ERC721 σ] (ch : Chain σ) (dateNow : TimeValue) (table : AssetTable)
      (contractAddress : Address) (sessionWallet : Option Address) (orgId : SafeInt)
      (listing : AssetListing), table.rows.Perm s.table.rows →
    getAssets rt.decipher ch dateNow table contractAddress sessionWallet (some orgId) = .ok listing →
    ∀ item ∈ listing.assets, item.recordIntact = some true →
      ∃ row, byToken (table.readOrgRows contractAddress orgId) item.tokenId = some row ∧
        hashAssetRecord rt.keccakUtf8 (row.record rt.decipher) =
          hex (ch.world.nft.getAsset item.tokenId).assetHash
  identity : ∀ {σ : Type} [ERC721 σ] (ch : Chain σ) (heldAssets : Except String (List Nat))
      (sessionWallet : Option Address) (orgIdParam : Option Nat) (me : Me),
    getMe rt.decipher ch (fun wallet => (s.directory.profile wallet).map (·.toProfileRow)) heldAssets
      sessionWallet orgIdParam = .ok me →
    me.identity.recordIntact = some true →
      ∃ row, s.directory.profile me.wallet = some row ∧
        some (hashIdentityRecord rt.keccakUtf8 (row.toProfileRow.record rt.decipher)) =
          (ch.readIdentity me.wallet).identityHash.map hex
  assetEdits : ∀ row ∈ s.assets.rows, ∀ (original : AssetRecord) (chain : AssetState),
    hex chain.assetHash = hashAssetRecord rt.keccakUtf8 original →
    (row.toAssetRow.record rt.decipher).payload ≠ original.payload → ∀ canSeeSerials,
    (assetItem rt.decipher canSeeSerials chain (some row.toAssetRow)).recordIntact ≠ some true ∨
      Collision rt.keccakUtf8
        (domainText ASSET_DOMAIN (flat (row.toAssetRow.record rt.decipher).payload))
        (domainText ASSET_DOMAIN (flat original.payload))
  profileEdits : ∀ row ∈ s.directory.profiles, ∀ (original : IdentityRecord)
      (identity : IdentityState),
    identity.identityHash.map hex = some (hashIdentityRecord rt.keccakUtf8 original) →
    (row.toProfileRow.record rt.decipher).payload ≠ original.payload →
    (identityView identity (some row.toProfileRow)).recordIntact ≠ some true ∨
      Collision rt.keccakUtf8
        (domainText IDENTITY_DOMAIN (flat (row.toProfileRow.record rt.decipher).payload))
        (domainText IDENTITY_DOMAIN (flat original.payload))

variable {rt} {s}

theorem RowsVouched.vouched (h : s.RowsVouched rt) : s.Vouched rt where
  assets := by
    intro σ _ ch dateNow table contractAddress sessionWallet orgId listing htable hlisting
    refine (assets_intact_iff rt.keccakUtf8 rt.decipher hlisting).2 ?_
    intro tokenId _ row _ hrow hcolumn
    obtain ⟨row', hrow', stamp, rfl⟩ := AssetTable.mem_readOrgRows (mem_of_byToken hrow)
    obtain ⟨stored, hstored, rfl⟩ := List.mem_map.1 (htable.mem_iff.1 hrow')
    have htruthful := AssetRow.vouched_iff.1 (h.assets stored hstored)
    have hhash := htruthful _ ⟨_, rfl, hcolumn⟩
    exact hcolumn.trans (hhash.symm.trans (Preimage.hashAssetRecord_ofRow _ _))
  identity := by
    intro σ _ ch heldAssets sessionWallet orgIdParam me hme hintact
    have hiff := identity_intact_iff rt.keccakUtf8 rt.decipher hme
    have hreport := hiff.2 fun anchor row stored _ hrow hstored _ hcolumn => by
      obtain ⟨profile, hprofile, rfl⟩ := Option.map_eq_some_iff.1 hrow
      have hmem := ((lookup_eq_some_iff s.directory.profileKey).1 hprofile).1
      have htruthful := ProfileRow.vouched_iff.1 (h.profiles profile hmem)
      have hhash := htruthful anchor ⟨stored, hstored, hcolumn⟩
      intro stored' hstored'
      obtain rfl := Option.some.inj (hstored.symm.trans hstored')
      exact hcolumn.trans (hhash.symm.trans (Preimage.hashIdentityRecord_ofRow _ _))
    obtain ⟨row, hrow, hhash⟩ := hreport hintact
    obtain ⟨profile, hprofile, rfl⟩ := Option.map_eq_some_iff.1 hrow
    exact ⟨profile, hprofile, hhash⟩
  assetEdits := by
    intro row hrow original chain hanchor hedit canSeeSerials
    by_cases hintact : (assetItem rt.decipher canSeeSerials chain
        (some row.toAssetRow)).recordIntact = some true
    · obtain ⟨r, hr, hcolumn⟩ := (recordIntact_assetItem rt.decipher).1 hintact
      obtain rfl := Option.some.inj hr
      have hhash := h.assets row hrow canSeeSerials chain hintact
      have hconsistent : row.toAssetRow.Consistent rt.keccakUtf8 rt.decipher :=
        hcolumn.trans hhash.symm
      exact hconsistent.edit_reported hanchor hedit canSeeSerials
    · exact .inl hintact
  profileEdits := by
    intro row hrow original identity hanchor hedit
    by_cases hintact : (identityView identity (some row.toProfileRow)).recordIntact = some true
    · obtain ⟨anchor, r, stored, hidentity, hr, hstored, -, hcolumn⟩ :=
        recordIntact_identityView.1 hintact
      obtain rfl := Option.some.inj hr
      have hhash := h.profiles row hrow identity hintact
      rw [hidentity] at hhash
      have hconsistent : row.toProfileRow.Consistent rt.keccakUtf8 rt.decipher := by
        intro stored' hstored'
        obtain rfl := Option.some.inj (hstored.symm.trans hstored')
        exact hcolumn.trans (Option.some.inj hhash).symm
      exact hconsistent.edit_reported hanchor hedit
    · exact .inl hintact

end RecordStore

/-! ## Writes -/

inductive RecordMove where
  /-- `POST /api/assets` inserts the draft of a body. -/
  | draft (session : SessionData) (body : DraftBody) (draft : AssetDraft)
      (stamp : Option AssetDeployment) (id createdAt : String)
  /-- The routes bind and release drafts, and write their metadata URI. -/
  | update (filter : AssetFilter) (patch : AssetPatch)
  /-- `PUT /api/profile` saves the row of a body. -/
  | save (session : SessionData) (body : ProfileBody) (wallet : Address) (row : ProfileRow)
      (createdAt : String)
  /-- Somebody edits the database. -/
  | edit (after : RecordStore)

structure RecordStep where
  before : RecordStore
  move : RecordMove

namespace RecordStep

def after (t : RecordStep) : RecordStore :=
  match t.move with
  | .draft _ _ draft stamp id createdAt =>
      { t.before with assets := (t.before.assets.insert draft stamp id createdAt).2 }
  | .update filter patch => { t.before with assets := (t.before.assets.update filter patch).2 }
  | .save _ _ wallet row createdAt =>
      { t.before with directory := t.before.directory.upsertProfile wallet row createdAt }
  | .edit after => after

variable [Str.CaseMapping] (rt : AssetRuntime) (t : RecordStep)

/-- What a route writes is what its handler comes to for the body. -/
def Allowed : Prop :=
  match t.move with
  | .draft session body draft stamp _ _ =>
      ∃ log, Reaches (createDraft rt session (some body)).run log (.insert draft stamp)
  | .update .. => True
  | .save session body wallet row _ =>
      ∃ log, Reaches (putProfile rt session (some body)).run log (.upsert wallet row)
  | .edit _ => True

/-- A draft that is inserted, or a profile, has encrypted fields that survive; and an edit leaves
    hashed fields and hashes together. -/
def Faithful : Prop :=
  match t.move with
  | .draft _ body draft stamp id createdAt =>
      (t.before.assets.insert draft stamp id createdAt).1 = .ok id →
        (Kept body.serialNumber ∧ Kept body.invoiceReference) ∨
          Collision rt.keccakUtf8
            (String.ofList (((draft.toRow stamp id createdAt).toAssetRow.hashed
              rt.decipher).record).preimage)
            (String.ofList (Preimage.Record.asset body.record).preimage)
  | .update .. => True
  | .save _ body _ row _ =>
      Kept body.phone ∨
        Collision rt.keccakUtf8 (String.ofList (row.hashed rt.decipher).record.preimage)
          (String.ofList (Preimage.Record.identity body.record).preimage)
  | .edit after =>
      (∀ row ∈ after.assets.rows, (row.toAssetRow.hashed rt.decipher).Faithful rt.keccakUtf8
        (t.before.assetsOf rt row.id)) ∧
      ∀ row ∈ after.directory.profiles, (row.toProfileRow.hashed rt.decipher).Faithful rt.keccakUtf8
        (t.before.profilesOf rt row.wallet)

end RecordStep

section Writes

variable [Str.CaseMapping] {rt : AssetRuntime} (hcipher : Deciphers rt.cipher rt.decipher)
  {before : RecordStore}

include hcipher

theorem draft_vouched_iff {session : SessionData} {body : DraftBody}
    {log : List ((op : AssetOp) × op.Res)} {draft : AssetDraft} {stamp : Option AssetDeployment}
    (h : Reaches (createDraft rt session (some body)).run log (.insert draft stamp))
    (id createdAt : String) :
    (draft.toRow stamp id createdAt).toAssetRow.Vouched rt.keccakUtf8 rt.decipher ↔
      (Kept body.serialNumber ∧ Kept body.invoiceReference) ∨
        Collision rt.keccakUtf8
          (String.ofList (((draft.toRow stamp id createdAt).toAssetRow.hashed
            rt.decipher).record).preimage)
          (String.ofList (Preimage.Record.asset body.record).preimage) := by
  obtain ⟨caller, log', hprepare⟩ := prepared_of_insert h
  obtain ⟨-, -, -, -, -, -, hhash⟩ := columns_of_prepareDraft hcipher hprepare
  have hcolumn : ((draft.toRow stamp id createdAt).toAssetRow.hashed rt.decipher).column =
      some (hex (rt.keccakUtf8 (String.ofList (Preimage.Record.asset body.record).preimage))) :=
    congrArg some hhash
  rw [AssetRow.vouched_iff, HashedRow.truthful_iff_of_column hcolumn]
  have hrehash := draft_rehashes_iff hcipher h id createdAt
  dsimp only at hrehash
  have hanchor : (draft.toRow stamp id createdAt).assetHash =
      hex (rt.keccakUtf8 (String.ofList (Preimage.Record.asset body.record).preimage)) := hhash
  rw [← Preimage.hashAssetRecord_ofRow, hanchor] at hrehash
  exact hrehash

theorem save_vouched_iff {session : SessionData} {body : ProfileBody}
    {log : List ((op : ProfileOp) × op.Res)} {wallet : Address} {row : ProfileRow}
    (h : Reaches (putProfile rt session (some body)).run log (.upsert wallet row)) :
    row.Vouched rt.keccakUtf8 rt.decipher ↔
      Kept body.phone ∨
        Collision rt.keccakUtf8 (String.ofList (row.hashed rt.decipher).record.preimage)
          (String.ofList (Preimage.Record.identity body.record).preimage) := by
  obtain ⟨-, log', hprepare⟩ := prepared_of_upsert h
  obtain ⟨-, -, -, -, -, hhash⟩ := columns_of_prepareProfile hcipher hprepare
  have hcolumn : (row.hashed rt.decipher).column =
      some (hex (rt.keccakUtf8 (String.ofList (Preimage.Record.identity body.record).preimage))) :=
    hhash
  rw [ProfileRow.vouched_iff, HashedRow.truthful_iff_of_column hcolumn]
  have hrehash := profile_rehashes_iff hcipher h
  rw [← Preimage.hashIdentityRecord_ofRow, hhash, Option.some.injEq] at hrehash
  exact hrehash

theorem rowsVouched_draft_iff (hbefore : before.RowsVouched rt) {session : SessionData}
    {body : DraftBody} {log : List ((op : AssetOp) × op.Res)} {draft : AssetDraft}
    {stamp : Option AssetDeployment}
    (h : Reaches (createDraft rt session (some body)).run log (.insert draft stamp))
    (id createdAt : String) :
    let t : RecordStep := ⟨before, .draft session body draft stamp id createdAt⟩
    t.after.RowsVouched rt ↔ t.Faithful rt := by
  have hdraft := draft_vouched_iff hcipher h id createdAt
  rcases before.assets.insert_cases draft stamp id createdAt with ⟨e, hfails⟩ | ⟨hok, hrows, -⟩
  · refine iff_of_true ?_ fun hok => ?_
    · show RecordStore.RowsVouched
        { before with assets := (before.assets.insert draft stamp id createdAt).2 } rt
      rw [hfails]
      exact hbefore
    · rw [hfails] at hok
      cases hok
  · have hmem : ∀ row, row ∈ (before.assets.insert draft stamp id createdAt).2.rows ↔
        row ∈ before.assets.rows ∨ row = draft.toRow stamp id createdAt := fun row => by
      rw [hrows, List.mem_append, List.mem_singleton]
    constructor
    · intro hafter _
      exact hdraft.1 (hafter.assets _ ((hmem _).2 (.inr rfl)))
    · intro hfaithful
      refine ⟨fun row hrow => ?_, hbefore.profiles⟩
      rcases (hmem row).1 hrow with hrow | rfl
      · exact hbefore.assets row hrow
      · exact hdraft.2 (hfaithful hok)

theorem rowsVouched_save_iff (hbefore : before.RowsVouched rt) {session : SessionData}
    {body : ProfileBody} {log : List ((op : ProfileOp) × op.Res)} {wallet : Address}
    {row : ProfileRow} (h : Reaches (putProfile rt session (some body)).run log (.upsert wallet row))
    (createdAt : String) :
    let t : RecordStep := ⟨before, .save session body wallet row createdAt⟩
    t.after.RowsVouched rt ↔ t.Faithful rt := by
  have hsave := save_vouched_iff hcipher h
  constructor
  · intro hafter
    have hkey : (row.stored wallet createdAt).wallet = wallet := rfl
    have hlookup := lookup_upsert hkey (f := row.onto) (fun _ => rfl)
      before.directory.profiles wallet
    rw [if_pos rfl] at hlookup
    have hvouched := hafter.profiles _ (List.mem_of_find?_eq_some hlookup)
    refine hsave.1 ?_
    cases hold : lookup (fun row : StoredProfile => row.wallet) before.directory.profiles wallet <;>
      rw [hold] at hvouched <;> exact hvouched
  · intro hfaithful
    refine ⟨hbefore.assets, fun stored hstored => ?_⟩
    rcases DirectoryStore.mem_upsertProfile hstored with hold | ⟨-, hnew⟩
    · exact hbefore.profiles stored hold
    · rw [hnew]
      exact hsave.2 hfaithful

omit hcipher

/-- A patch has no hashed field and no hash. -/
theorem rowsVouched_update (hbefore : before.RowsVouched rt) (filter : AssetFilter)
    (patch : AssetPatch) :
    RecordStore.RowsVouched { before with assets := (before.assets.update filter patch).2 } rt := by
  refine ⟨fun row hrow => ?_, hbefore.profiles⟩
  rcases before.assets.update_cases filter patch with ⟨e, hfails⟩ | ⟨-, hrows, -⟩
  · rw [hfails] at hrow
    exact hbefore.assets row hrow
  · rw [hrows] at hrow
    obtain ⟨old, hold, rfl⟩ := mem_modify.1 hrow
    have hvouched := AssetRow.vouched_iff.1 (hbefore.assets old hold)
    rw [AssetRow.vouched_iff]
    split
    · exact hvouched
    · exact hvouched

theorem rowsVouched_edit_iff (hbefore : before.RowsVouched rt) (after : RecordStore) :
    after.RowsVouched rt ↔ (RecordStep.mk before (.edit after)).Faithful rt := by
  have hassets : ∀ row : StoredAsset,
      (row.toAssetRow.hashed rt.decipher).Truthful rt.keccakUtf8 ↔
        (row.toAssetRow.hashed rt.decipher).Faithful rt.keccakUtf8
          (before.assetsOf rt row.id) := by
    intro row
    refine HashedRow.truthful_iff_faithful ?_ _
    rintro old ⟨row', hrow', -, rfl⟩
    exact AssetRow.vouched_iff.1 (hbefore.assets row' hrow')
  have hprofiles : ∀ row : StoredProfile,
      (row.toProfileRow.hashed rt.decipher).Truthful rt.keccakUtf8 ↔
        (row.toProfileRow.hashed rt.decipher).Faithful rt.keccakUtf8
          (before.profilesOf rt row.wallet) := by
    intro row
    refine HashedRow.truthful_iff_faithful ?_ _
    rintro old ⟨row', hrow', -, rfl⟩
    exact ProfileRow.vouched_iff.1 (hbefore.profiles row' hrow')
  constructor
  · intro hafter
    refine ⟨fun row hrow => ?_, fun row hrow => ?_⟩
    · exact (hassets row).1 (AssetRow.vouched_iff.1 (hafter.assets row hrow))
    · exact (hprofiles row).1 (ProfileRow.vouched_iff.1 (hafter.profiles row hrow))
  · rintro ⟨hfaithfulAssets, hfaithfulProfiles⟩
    refine ⟨fun row hrow => ?_, fun row hrow => ?_⟩
    · exact AssetRow.vouched_iff.2 ((hassets row).2 (hfaithfulAssets row hrow))
    · exact ProfileRow.vouched_iff.2 ((hprofiles row).2 (hfaithfulProfiles row hrow))

include hcipher

/-- After a write every row is vouched for just where the write was faithful, if every row was before. -/
theorem RecordStep.rowsVouched_iff {t : RecordStep} (hallowed : t.Allowed rt)
    (hbefore : t.before.RowsVouched rt) : t.after.RowsVouched rt ↔ t.Faithful rt := by
  obtain ⟨before, move⟩ := t
  cases move with
  | draft session body draft stamp id createdAt =>
      obtain ⟨log, hreaches⟩ := hallowed
      exact rowsVouched_draft_iff hcipher hbefore hreaches id createdAt
  | update filter patch => exact iff_of_true (rowsVouched_update hbefore filter patch) trivial
  | save session body wallet row createdAt =>
      obtain ⟨log, hreaches⟩ := hallowed
      exact rowsVouched_save_iff hcipher hbefore hreaches createdAt
  | edit after => exact rowsVouched_edit_iff hbefore after

end Writes

/-! ## Runs -/

def recordSystem [Str.CaseMapping] (rt : AssetRuntime) : TransitionSystem RecordStore RecordStep where
  source := RecordStep.before
  target := RecordStep.after
  Valid := RecordStep.Allowed rt

theorem RecordStore.rowsVouched_empty [Str.CaseMapping] (rt : AssetRuntime) (migrated : Bool) :
    (RecordStore.empty migrated).RowsVouched rt where
  assets := fun _ hrow => by cases hrow
  profiles := fun _ hrow => by cases hrow

/-- In a run of faithful writes from empty tables, the two endpoints vouch for the records in every
    state; and after the next write all rows are vouched for just where it is faithful as well. -/
theorem records_vouched_iff [Str.CaseMapping] {rt : AssetRuntime}
    (hcipher : Deciphers rt.cipher rt.decipher) {migrated : Bool} {ts : List RecordStep}
    {s : RecordStore} (h : (recordSystem rt).Path (.empty migrated) ts s)
    (hfaithful : ∀ t ∈ ts, t.Faithful rt) :
    (s.Vouched rt ∧ ∀ t ∈ ts, t.before.Vouched rt ∧ t.after.Vouched rt) ∧
      ∀ t : RecordStep, t.before = s → t.Allowed rt →
        (t.after.RowsVouched rt ↔ t.Faithful rt) := by
  obtain ⟨hend, hall⟩ := h.invariant (P := fun s => s.RowsVouched rt)
    (fun t ht hallowed hbefore =>
      (RecordStep.rowsVouched_iff hcipher hallowed hbefore).2 (hfaithful t ht))
    (RecordStore.rowsVouched_empty rt migrated)
  refine ⟨⟨hend.vouched, fun t ht => ⟨(hall t ht).1.vouched, (hall t ht).2.vouched⟩⟩, ?_⟩
  rintro t rfl hallowed
  exact RecordStep.rowsVouched_iff hcipher hallowed hend

/-! ## A laptop, drafted and bound -/

namespace Sample

/-- Alice drafts the record of the laptop. -/
def laptopDrafted (draft : AssetDraft) (stamp : Option AssetDeployment) : RecordStep where
  before := .empty true
  move := .draft aliceSession (macbookBody none) draft stamp "a1" ""

/-- And binds it to token 2. -/
def laptopBound (draft : AssetDraft) (stamp : Option AssetDeployment) : RecordStep where
  before := (laptopDrafted draft stamp).after
  move := .update ⟨"a1", some none⟩ { binding := some (some 2, some "0x02") }

theorem tenMinutes_le : 600000 ≤ 8640000000000000 := by decide

/-- What she is shown then. -/
def boundListing (store : RecordStore) : Except ApiError AssetListing :=
  letI := asciiStrings
  getAssets openRuntime.decipher ⟨laptopMinted, 600⟩ ⟨600000, tenMinutes_le⟩ store.table
    9#160 (some alice) (some ⟨1, one_safe⟩)

/-- The laptop is intact, and its record does hash to the anchor. -/
theorem laptopBound_intact :
    let _ := asciiStrings
    ∃ (draft : AssetDraft) (stamp : Option AssetDeployment) (listing : AssetListing),
      (recordSystem openRuntime).Path (.empty true) [laptopDrafted draft stamp, laptopBound draft stamp]
        (laptopBound draft stamp).after ∧
      boundListing (laptopBound draft stamp).after = .ok listing ∧
      ∃ item ∈ listing.assets, item.tokenId = 2 ∧ item.recordIntact = some true ∧
        ∃ row, byToken ((laptopBound draft stamp).after.table.readOrgRows 9#160 ⟨1, one_safe⟩) 2 =
            some row ∧
          hashAssetRecord openRuntime.keccakUtf8 (row.record openRuntime.decipher) =
            hex (laptopMinted.nft.getAsset 2).assetHash := by
  intro _
  have hplay : ((inserting (drafting none 4)).any fun (draft, stamp) =>
      showsIntact (boundListing (laptopBound draft stamp).after)) = true := by
    decide +kernel
  obtain ⟨⟨draft, stamp⟩, hdraft, hshown⟩ := (Option.any_eq_true ..).1 hplay
  obtain ⟨listing, hlisting, item, hitem, htoken, hintact⟩ := exists_listing hshown
  have hdrafted : (recordSystem openRuntime).Valid (laptopDrafted draft stamp) :=
    ⟨_, reaches_of_inserting hdraft⟩
  have hbound : (recordSystem openRuntime).Valid (laptopBound draft stamp) := trivial
  have hpath : (recordSystem openRuntime).Path (.empty true)
      [laptopDrafted draft stamp, laptopBound draft stamp] (laptopBound draft stamp).after :=
    .cons hdrafted (.single hbound)
  have hnone : Kept none := fun _ h => by cases h
  have hfaithful : ∀ t ∈ [laptopDrafted draft stamp, laptopBound draft stamp],
      t.Faithful openRuntime := by
    intro t ht
    rcases List.mem_pair.1 ht with rfl | rfl
    · exact fun _ => .inl ⟨hnone, hnone⟩
    · trivial
  have hvouched := (records_vouched_iff deciphers_open hpath hfaithful).1.1
  have hreport := hvouched.assets ⟨laptopMinted, 600⟩ ⟨600000, tenMinutes_le⟩
    (laptopBound draft stamp).after.table 9#160 (some alice) ⟨1, one_safe⟩ listing (.refl _) hlisting
    item hitem hintact
  rw [htoken] at hreport
  exact ⟨draft, stamp, listing, hpath, hlisting, item, hitem, htoken, hintact, hreport⟩

end Sample

end OwneX
