import OwneX.Platform.Records
import OwneX.Contracts.Runs

set_option autoImplicit false

/-! # Whether `recordIntact` is tamper evidence

Both endpoints compare the hash column of a row with the anchor on the chain. Neither hashes the row
itself, so the column stands for the record only as long as nobody edits one without the other: an
intact report means what it says exactly where the row still hashes to its own column. -/

namespace OwneX

open JsNumber Js Storage

/-! ## Hashes as text -/

theorem hexDigit_lower : ∀ n < 16, (hexDigit n).toNat < 128 ∧ (hexDigit n).toLower = hexDigit n := by
  decide

theorem mem_hex {h : Bytes32} {c : Char} (hc : c ∈ (hex h).toList) :
    c = '0' ∨ c = 'x' ∨ ∃ n < 16, c = hexDigit n := by
  rw [hex, String.toList_ofList, List.mem_cons, List.mem_cons, List.mem_map] at hc
  refine hc.imp_right fun hc => hc.imp_right ?_
  rintro ⟨i, -, rfl⟩
  exact ⟨_, Nat.mod_lt _ (by decide), rfl⟩

/-! ## Reading tokens -/

section Tokens

variable {σ : Type} [ERC721 σ] {ch : Chain σ} {tokenId : Nat}

theorem Chain.readAsset_eq_some {chain : AssetState}
    (h : ch.readAsset tokenId = .ok (some chain)) :
    chain.tokenId = tokenId ∧ chain.assetHash = (ch.world.nft.getAsset tokenId).assetHash ∧
      (ch.world.nft.getAsset tokenId).orgId ≠ 0 := by
  unfold Chain.readAsset at h
  dsimp only at h
  split_ifs at h with _ hzero
  · cases Except.ok.inj h
  · rw [← Option.some.inj (Except.ok.inj h)]
    exact ⟨rfl, rfl, fun hnone => hzero (toNumber_eq_zero.2 hnone)⟩

/-- A token that can be read has a state, unless the contract has no record of it. -/
theorem Chain.readAsset_eq_none (h : ch.readAsset tokenId = .ok none) :
    (ch.world.nft.getAsset tokenId).orgId = 0 := by
  unfold Chain.readAsset at h
  dsimp only at h
  split_ifs at h with _ hzero
  · exact toNumber_eq_zero.1 hzero
  · cases Except.ok.inj h

end Tokens

theorem mem_of_byToken {rows : List AssetRow} {tokenId : Nat} {row : AssetRow}
    (h : byToken rows tokenId = some row) : row ∈ rows := by
  unfold byToken at h
  refine List.foldlRecOn (motive := fun held => ∀ row, held = some row → row ∈ rows)
    rows _ ?_ ?_ row h
  · intro row h
    cases h
  · -- An entry is the next row or the one that was there.
    intro held hheld next hnext row h
    split at h
    · split at h
      · exact Option.some.inj h ▸ hnext
      · split at h
        · exact Option.some.inj h ▸ hnext
        · exact hheld row h
    · exact hheld row h

section Reports

variable [CaseMapping]

/-- A hash is written in lower case. -/
theorem toLowerCase_hex (h : Bytes32) : CaseMapping.toLowerCase (hex h) = hex h := by
  have hdigit : ∀ c ∈ (hex h).toList, c.toNat < 128 ∧ c.toLower = c := by
    intro c hc
    rcases mem_hex hc with rfl | rfl | ⟨n, hn, rfl⟩
    · decide
    · decide
    · exact hexDigit_lower n hn
  rw [CaseMapping.ascii _ fun c hc => (hdigit c hc).1]
  refine String.toList_injective ?_
  change (String.map Char.toLower (hex h)).toList = _
  rw [String.toList_map]
  exact (List.map_congr_left fun c hc => (hdigit c hc).2).trans (List.map_id _)

/-! ## When a row vouches for itself -/

variable (keccakUtf8 : String → Bytes32) (decipher : String → String → String → Option String)

/-- The row hashes to its own `asset_hash` column. -/
def AssetRow.Consistent (row : AssetRow) : Prop :=
  CaseMapping.toLowerCase row.assetHash = hashAssetRecord keccakUtf8 (row.record decipher)

/-- The profile hashes to its own `identity_hash` column. -/
def ProfileRow.Consistent (row : ProfileRow) : Prop :=
  ∀ stored, row.identityHash = some stored →
    CaseMapping.toLowerCase stored = hashIdentityRecord keccakUtf8 (row.record decipher)

/-! ## Assets -/

section Assets

variable {σ : Type} [ERC721 σ] {ch : Chain σ}

/-- Every token the contract lists could be read, and the items are those with a record, each beside
    the row that is joined with it. -/
theorem getAssets_eq_ok {dateNow : TimeValue} {table : AssetTable} {contractAddress : Address}
    {sessionWallet : Option Address} {orgId : SafeInt} {listing : AssetListing}
    (h : getAssets decipher ch dateNow table contractAddress sessionWallet (some orgId) =
      .ok listing) :
    (∀ tokenId ∈ ch.readAssetsOfOrganization orgId.1, ∃ r, ch.readAsset tokenId = .ok r) ∧
    ∃ canSeeSerials, ∀ item, item ∈ listing.assets ↔
      ∃ tokenId ∈ ch.readAssetsOfOrganization orgId.1, ∃ chain,
        ch.readAsset tokenId = .ok (some chain) ∧
        item = assetItem decipher canSeeSerials chain
          (byToken (table.readOrgRows contractAddress orgId) tokenId) := by
  unfold getAssets at h
  simp only [bind_eq_ok, pure_eq_ok] at h
  obtain ⟨orgId', horg, caller, hcaller, chainAssets, hread, hlisting⟩ := h
  obtain rfl : orgId = orgId' := by
    simp only [parseOrgId] at horg
    split_ifs at horg
    exact Except.ok.inj horg
  have hmapM : (ch.readAssetsOfOrganization orgId.1).mapM ch.readAsset = .ok chainAssets := by
    cases hresult : (ch.readAssetsOfOrganization orgId.1).mapM ch.readAsset with
    | error e =>
        rw [hresult] at hread
        cases hread
    | ok r =>
        rw [hresult] at hread
        rw [Except.ok.inj hread]
  obtain ⟨hleft, hright⟩ := mapM_eq_ok hmapM
  refine ⟨fun tokenId htoken => ?_, caller.role = .admin || caller.role = .manager,
    fun item => ?_⟩
  · obtain ⟨r, -, hr⟩ := hleft tokenId htoken
    exact ⟨r, hr⟩
  · rw [← hlisting]
    simp only [assetListing, List.mem_map, List.mem_filterMap, id]
    constructor
    · rintro ⟨chain, ⟨r, hr, rfl⟩, rfl⟩
      obtain ⟨tokenId, htoken, hread⟩ := hright _ hr
      refine ⟨tokenId, htoken, chain, hread, ?_⟩
      rw [(Chain.readAsset_eq_some hread).1]
    · rintro ⟨tokenId, htoken, chain, hread, rfl⟩
      obtain ⟨r, hr, hread'⟩ := hleft tokenId htoken
      rw [hread] at hread'
      refine ⟨chain, ⟨r, hr, (Except.ok.inj hread').symm⟩, ?_⟩
      rw [(Chain.readAsset_eq_some hread).1]

/-- A row is reported intact when its column spells the anchor. -/
theorem recordIntact_assetItem {canSeeSerials : Bool} {chain : AssetState} {row : Option AssetRow} :
    (assetItem decipher canSeeSerials chain row).recordIntact = some true ↔
      ∃ r, row = some r ∧ CaseMapping.toLowerCase r.assetHash = hex chain.assetHash := by
  cases row with
  | none => simp [assetItem]
  | some r => simp [assetItem, toLowerCase_hex]

end Assets

theorem recordIntact_identityView {identity : IdentityState} {profile : Option ProfileRow} :
    (identityView identity profile).recordIntact = some true ↔
      ∃ anchor row stored, identity.identityHash = some anchor ∧ profile = some row ∧
        row.identityHash = some stored ∧ stored ≠ "" ∧
        CaseMapping.toLowerCase stored = hex anchor := by
  unfold identityView
  cases identity.identityHash with
  | none => simp
  | some anchor =>
      cases profile with
      | none => simp
      | some row =>
          cases hstored : row.identityHash with
          | none => simp [hstored]
          | some stored =>
              by_cases hempty : stored = ""
              · simp [hstored, hempty]
              · simp only [Option.bind_some, hstored, hempty, if_false, toLowerCase_hex,
                  Option.some.injEq, beq_iff_eq, exists_and_left, exists_eq_left', ne_eq,
                  not_false_eq_true, true_and]
                exact eq_comm

theorem assets_intact_iff {σ : Type} [ERC721 σ] {ch : Chain σ} {dateNow : TimeValue}
    {table : AssetTable} {contractAddress : Address} {sessionWallet : Option Address}
    {orgId : SafeInt} {listing : AssetListing}
    (hlisting : getAssets decipher ch dateNow table contractAddress sessionWallet (some orgId) =
      .ok listing) :
    (∀ item ∈ listing.assets, item.recordIntact = some true →
      ∃ row, byToken (table.readOrgRows contractAddress orgId) item.tokenId = some row ∧
        hashAssetRecord keccakUtf8 (row.record decipher) =
          hex (ch.world.nft.getAsset item.tokenId).assetHash) ↔
    ∀ tokenId ∈ ch.readAssetsOfOrganization orgId.1, ∀ row,
      (ch.world.nft.getAsset tokenId).orgId ≠ 0 →
      byToken (table.readOrgRows contractAddress orgId) tokenId = some row →
      CaseMapping.toLowerCase row.assetHash = hex (ch.world.nft.getAsset tokenId).assetHash →
      row.Consistent keccakUtf8 decipher := by
  obtain ⟨hread, canSeeSerials, hitems⟩ := getAssets_eq_ok decipher hlisting
  constructor
  · intro hintact tokenId htoken row hrecord hrow hcolumn
    obtain ⟨r, hr⟩ := hread tokenId htoken
    cases r with
    | none => exact absurd (Chain.readAsset_eq_none hr) hrecord
    | some chain =>
        obtain ⟨hid, hhash, -⟩ := Chain.readAsset_eq_some hr
        have hitem := (hitems _).2 ⟨tokenId, htoken, chain, hr, rfl⟩
        obtain ⟨row', hrow', hrehash⟩ := hintact _ hitem <| by
          rw [recordIntact_assetItem, hhash]
          exact ⟨row, hrow, hcolumn⟩
        have hitemId : ∀ held, (assetItem decipher canSeeSerials chain held).tokenId = tokenId :=
          fun _ => hid
        rw [hitemId] at hrow' hrehash
        rw [hrow] at hrow'
        cases hrow'
        exact hcolumn.trans hrehash.symm
  · intro hconsistent item hitem hintact
    obtain ⟨tokenId, htoken, chain, hr, rfl⟩ := (hitems _).1 hitem
    obtain ⟨hid, hhash, hrecord⟩ := Chain.readAsset_eq_some hr
    rw [recordIntact_assetItem, hhash] at hintact
    obtain ⟨row, hrow, hcolumn⟩ := hintact
    have hrehash := hconsistent tokenId htoken row hrecord hrow hcolumn
    have hitemId : ∀ held, (assetItem decipher canSeeSerials chain held).tokenId = tokenId :=
      fun _ => hid
    rw [hitemId]
    exact ⟨row, hrow, hrehash.symm.trans hcolumn⟩

theorem identity_intact_iff {σ : Type} [ERC721 σ] {ch : Chain σ}
    {profiles : Address → Option ProfileRow} {heldAssets : Except String (List Nat)}
    {sessionWallet : Option Address} {orgIdParam : Option Nat} {me : Me}
    (hme : getMe decipher ch profiles heldAssets sessionWallet orgIdParam = .ok me) :
    (me.identity.recordIntact = some true →
      ∃ row, profiles me.wallet = some row ∧
        some (hashIdentityRecord keccakUtf8 (row.record decipher)) =
          (ch.readIdentity me.wallet).identityHash.map hex) ↔
    ∀ anchor row stored, (ch.readIdentity me.wallet).identityHash = some anchor →
      profiles me.wallet = some row → row.identityHash = some stored → stored ≠ "" →
      CaseMapping.toLowerCase stored = hex anchor → row.Consistent keccakUtf8 decipher := by
  have hidentity : me.identity = identityView (ch.readIdentity me.wallet) (profiles me.wallet) := by
    cases sessionWallet with
    | none => cases hme
    | some wallet =>
        cases Except.ok.inj hme
        rfl
  rw [hidentity, recordIntact_identityView]
  constructor
  · rintro hintact anchor row stored hanchor hrow hstored hempty hcolumn
    obtain ⟨row', hrow', hrehash⟩ :=
      hintact ⟨anchor, row, stored, hanchor, hrow, hstored, hempty, hcolumn⟩
    rw [hrow] at hrow'
    cases hrow'
    rw [hanchor] at hrehash
    intro stored' hstored'
    rw [hstored] at hstored'
    cases hstored'
    rw [hcolumn, Option.some.inj hrehash]
  · rintro hconsistent ⟨anchor, row, stored, hanchor, hrow, hstored, hempty, hcolumn⟩
    refine ⟨row, hrow, ?_⟩
    have hrehash := hconsistent anchor row stored hanchor hrow hstored hempty hcolumn _ hstored
    rw [hanchor, ← hrehash, hcolumn]
    rfl

/-! ## Edits of consistent rows -/

section Edits

variable {keccakUtf8} {decipher}

/-- Where the row hashes to its own column, an edit of a hashed field is reported, unless the two
    texts collide. -/
theorem AssetRow.Consistent.edit_reported {row : AssetRow}
    (h : row.Consistent keccakUtf8 decipher) {original : AssetRecord} {chain : AssetState}
    (hanchor : hex chain.assetHash = hashAssetRecord keccakUtf8 original)
    (hedit : (row.record decipher).payload ≠ original.payload) (canSeeSerials : Bool) :
    (assetItem decipher canSeeSerials chain (some row)).recordIntact ≠ some true ∨
      Collision keccakUtf8 (domainText ASSET_DOMAIN (flat (row.record decipher).payload))
        (domainText ASSET_DOMAIN (flat original.payload)) := by
  by_cases hintact : (assetItem decipher canSeeSerials chain (some row)).recordIntact = some true
  · right
    obtain ⟨r, hr, hcolumn⟩ := (recordIntact_assetItem decipher).1 hintact
    cases hr
    have hsame : hashAssetRecord keccakUtf8 (row.record decipher) =
        hashAssetRecord keccakUtf8 original := by
      rw [← hanchor, ← hcolumn]
      exact h.symm
    exact (AssetRecord.payload_eq hsame).resolve_left hedit
  · exact .inl hintact

theorem ProfileRow.Consistent.edit_reported {row : ProfileRow}
    (h : row.Consistent keccakUtf8 decipher) {original : IdentityRecord} {identity : IdentityState}
    (hanchor : identity.identityHash.map hex = some (hashIdentityRecord keccakUtf8 original))
    (hedit : (row.record decipher).payload ≠ original.payload) :
    (identityView identity (some row)).recordIntact ≠ some true ∨
      Collision keccakUtf8 (domainText IDENTITY_DOMAIN (flat (row.record decipher).payload))
        (domainText IDENTITY_DOMAIN (flat original.payload)) := by
  by_cases hintact : (identityView identity (some row)).recordIntact = some true
  · right
    obtain ⟨anchor, r, stored, hid, hr, hstored, -, hcolumn⟩ :=
      recordIntact_identityView.1 hintact
    cases hr
    rw [hid] at hanchor
    have hsame : hashIdentityRecord keccakUtf8 (row.record decipher) =
        hashIdentityRecord keccakUtf8 original := by
      rw [← Option.some.inj hanchor, ← hcolumn]
      exact (h stored hstored).symm
    exact (IdentityRecord.payload_eq hsame).resolve_left hedit
  · exact .inl hintact

end Edits

end Reports

/-! ## A laptop that became a smaller one -/

namespace Sample

/-- A server that only ever sees ASCII. -/
@[reducible] def asciiCase : CaseMapping where
  toLowerCase s := String.ofList (s.toList.map Char.toLower)
  ascii := by
    intro s _
    refine String.toList_injective ?_
    change _ = (String.map Char.toLower s).toList
    rw [String.toList_ofList, String.toList_map]

def macbookHash : Bytes32 := 0xdee595ec5cd36f1554f5dd51afbc2d8c0a7e2c1640433cd95d5d51040121d124

/-- What keccak-256 makes of the two records. -/
def keccakTable (text : String) : Bytes32 :=
  if text = "ownex:asset:v1:\x7b\"assetType\":\"Laptop\",\"department\":null,\"invoiceReference\":null,\"name\":\"MacBook Pro\",\"orgId\":1,\"serialNumber\":null\x7d" then
    macbookHash
  else if text = "ownex:asset:v1:\x7b\"assetType\":\"Laptop\",\"department\":null,\"invoiceReference\":null,\"name\":\"Mac mini\",\"orgId\":1,\"serialNumber\":null\x7d" then
    0xc69dbc53413c3aed0ceb5b016424af087fc5aa08162118613fc3bc263501e10e
  else 0

/-- Token 2 is Carol's laptop, with the anchor of its record. -/
def laptopMinted : World Ledger :=
  after [tx alice 105 (.mintAsset 1 carol macbookHash "ipfs://macbook" (.done true))]

def laptopRow (name : String) : AssetRow where
  id := "a1"
  tokenId := some 2
  orgId := ⟨1, one_safe⟩
  name := name
  description := none
  assetType := "Laptop"
  department := none
  imageUrl := none
  assetHash := "0xdee595ec5cd36f1554f5dd51afbc2d8c0a7e2c1640433cd95d5d51040121d124"
  metadataUri := none
  serialEncrypted := none
  invoiceEncrypted := none
  createdAt := "2026-01-01T00:00:00Z"
  contractAddress := some 9#160

def laptopTable (name : String) : AssetTable := ⟨[laptopRow name], true⟩

/-- The listing Alice is shown. -/
def laptopListing (name : String) : Except ApiError AssetListing :=
  letI := asciiCase
  getAssets (fun _ _ _ => none) ⟨laptopMinted, 600⟩ ⟨600000, by decide⟩ (laptopTable name) 9#160
    (some alice) (some ⟨1, one_safe⟩)

/-- The row of the listing that is joined with token 2. -/
theorem byToken_laptop (name : String) :
    byToken ((laptopTable name).readOrgRows 9#160 ⟨1, by decide⟩) 2 = some (laptopRow name) := rfl

/-- The answer is a listing with an intact token 2. -/
def showsIntact (answer : Except ApiError AssetListing) : Bool :=
  match answer with
  | .ok listing => listing.assets.any fun item =>
      decide (item.tokenId = 2 ∧ item.recordIntact = some true)
  | .error _ => false

theorem exists_listing {answer : Except ApiError AssetListing} (h : showsIntact answer = true) :
    ∃ listing, answer = .ok listing ∧
      ∃ item ∈ listing.assets, item.tokenId = 2 ∧ item.recordIntact = some true := by
  unfold showsIntact at h
  split at h
  next listing =>
      obtain ⟨item, hitem, hany⟩ := List.any_eq_true.1 h
      exact ⟨listing, rfl, item, hitem, of_decide_eq_true hany⟩
  · cases h

/-- The name of the laptop was changed in the database, and the listing calls its record intact. -/
theorem macMini_intact :
    ¬ ∀ [CaseMapping] (keccakUtf8 : String → Bytes32)
        (decipher : String → String → String → Option String) (ch : Chain Ledger)
        (dateNow : TimeValue) (table : AssetTable) (contractAddress : Address)
        (profiles : Address → Option ProfileRow) (heldAssets : Except String (List Nat))
        (sessionWallet : Option Address) (orgId : SafeInt) (orgIdParam : Option Nat),
      (∀ listing,
        getAssets decipher ch dateNow table contractAddress sessionWallet (some orgId) =
          .ok listing →
        ∀ item ∈ listing.assets, item.recordIntact = some true →
          ∃ row, byToken (table.readOrgRows contractAddress orgId) item.tokenId = some row ∧
            hashAssetRecord keccakUtf8 (row.record decipher) =
              hex (ch.world.nft.getAsset item.tokenId).assetHash) ∧
      ∀ me, getMe decipher ch profiles heldAssets sessionWallet orgIdParam = .ok me →
        me.identity.recordIntact = some true →
        ∃ row, profiles me.wallet = some row ∧
          some (hashIdentityRecord keccakUtf8 (row.record decipher)) =
            (ch.readIdentity me.wallet).identityHash.map hex := by
  intro hall
  let _ := asciiCase
  have hassets := (hall keccakTable (fun _ _ _ => none) ⟨laptopMinted, 600⟩ ⟨600000, by decide⟩
    (laptopTable "Mac mini") 9#160 (fun _ => none) (.ok []) (some alice) ⟨1, by decide⟩ none).1
  have hshown : showsIntact (laptopListing "Mac mini") = true := by decide +kernel
  obtain ⟨listing, hlisting, item, hitem, htoken, hintact⟩ := exists_listing hshown
  obtain ⟨row, hrow, hrehash⟩ := hassets listing hlisting item hitem hintact
  rw [htoken] at hrow hrehash
  rw [byToken_laptop] at hrow
  cases hrow
  have hdiffer : hashAssetRecord keccakTable ((laptopRow "Mac mini").record fun _ _ _ => none) ≠
      hex (laptopMinted.nft.getAsset 2).assetHash := by decide +kernel
  exact hdiffer hrehash

end Sample

end OwneX
