import OwneX.Platform.FailedConfirm
import OwneX.Platform.ProfileRoutes

set_option autoImplicit false

/-! # What is stored against its anchor

The hash of a record is taken of the body of the request, and later again of the row. In between,
the columns hold texts as they are, and the encrypted ones hold what UTF-8 makes of them; an empty
text is not encrypted but left out. So a record rehashes to its anchor where every encrypted field
is absent, or a text that is not empty and has no lone surrogates. -/

namespace OwneX

open Js JsNumber Prog

/-! ## Encryption and decryption -/

/-- Deciphering undoes the cipher, and base64 knows no dots. -/
structure Deciphers (cipher : List UInt8 → String → String × String × String)
    (decipher : String → String → String → Option String) : Prop where
  undoes : ∀ iv plaintext, decipher (cipher iv plaintext).1 (cipher iv plaintext).2.1
    (cipher iv plaintext).2.2 = some plaintext
  dots : ∀ iv plaintext, '.' ∉ (cipher iv plaintext).1.toList ∧
    '.' ∉ (cipher iv plaintext).2.1.toList ∧ '.' ∉ (cipher iv plaintext).2.2.toList

/-- What an encrypted column holds of a text. -/
def sealedText (plaintext : Option Str) : Option String :=
  (plaintext.filter fun plaintext => plaintext.units ≠ []).map Str.toWellFormed

/-- The text survives encryption. -/
def Kept (plaintext : Option Str) : Prop :=
  ∀ text, plaintext = some text → text.units ≠ [] ∧ text.isWellFormed = true

section Encryption

variable {cipher : List UInt8 → String → String × String × String}
  {decipher : String → String → String → Option String}

/-- Parts between dots, taken apart again. -/
theorem splitOn_parts {parts : List String} (hdots : ∀ part ∈ parts, '.' ∉ part.toList)
    (hne : parts ≠ []) :
    ((".".intercalate parts).toList.splitOn '.').map String.ofList = parts := by
  have htext : (".".intercalate parts).toList = ['.'].intercalate (parts.map String.toList) :=
    String.toList_intercalate
  rw [htext, List.splitOn_intercalate '.' (by simpa using hdots) (by simpa using hne), List.map_map]
  have hid : String.ofList ∘ String.toList = id := funext fun part => String.ofList_toList
  rw [hid, List.map_id]

theorem decryptPII_parts (h : Deciphers cipher decipher) (iv : List UInt8) (plaintext : String) :
    decryptPII decipher (some (".".intercalate ["v1", (cipher iv plaintext).1,
      (cipher iv plaintext).2.1, (cipher iv plaintext).2.2])) = some plaintext := by
  obtain ⟨hiv, htag, hdata⟩ := h.dots iv plaintext
  unfold decryptPII
  dsimp only
  rw [splitOn_parts (by simp [hiv, htag, hdata]) (by simp)]
  exact h.undoes iv plaintext

/-- What is decrypted is the text without its lone surrogates, unless it was empty. -/
theorem decryptPII_of_encryptPII (h : Deciphers cipher decipher) {plaintext : Option Str}
    {log : List ((op : ServerOp) × op.Res)} {encrypted : Option String}
    (hencrypt : Returns (encryptPII cipher plaintext).run log (.ok encrypted)) :
    decryptPII decipher encrypted = sealedText plaintext := by
  unfold encryptPII at hencrypt
  cases plaintext with
  | none =>
      obtain ⟨-, rfl⟩ := returns_exceptT_pure.1 hencrypt
      rfl
  | some plaintext =>
      dsimp only at hencrypt
      split at hencrypt
      next hempty =>
          obtain ⟨-, rfl⟩ := returns_exceptT_pure.1 hencrypt
          simp [sealedText, hempty, decryptPII]
      next hempty =>
          obtain ⟨iv, rest, -, hparts⟩ := returns_ask_bind.1 hencrypt
          obtain ⟨-, rfl⟩ := returns_exceptT_pure.1 hparts
          rw [decryptPII_parts h]
          simp [sealedText, hempty]

/-- A text hashes alike after encryption just where it survives it. -/
theorem trim_sealedText_iff (plaintext : Option Str) :
    (((sealedText plaintext).map Str.ofString).map Str.trim = plaintext.map Str.trim) ↔
      Kept plaintext := by
  unfold sealedText Kept
  cases plaintext with
  | none => simp
  | some text =>
      by_cases hempty : text.units = []
      · simp [hempty]
      · simp [hempty, Str.trim_toWellFormed_iff]

theorem ofString_storedText {s : Str} {text : String} (h : storedText s = some text) :
    Str.ofString text = s := by
  unfold storedText at h
  split at h
  next hstored =>
      rw [← Option.some.inj h]
      exact Str.ofString_toWellFormed (Bool.and_eq_true_iff.1 hstored).1
  · cases h

theorem ofString_storedOptional {s : Option Str} {text : Option String}
    (h : storedOptional s = some text) : text.map Str.ofString = s := by
  cases s with
  | none =>
      rw [← Option.some.inj h]
      rfl
  | some s =>
      obtain ⟨text, htext, rfl⟩ := Option.map_eq_some_iff.1 h
      exact congrArg some (ofString_storedText htext)

end Encryption

/-! ## Hashes -/

section Hashes

variable [Str.CaseMapping] {keccakUtf8 : String → Bytes32}

/-- Two records have one hash where they agree in all that is hashed, or their texts collide. -/
theorem hash_eq_iff (r r' : Preimage.Record) :
    r.hash keccakUtf8 = r'.hash keccakUtf8 ↔
      r.normalised = r'.normalised ∨
        Collision keccakUtf8 (String.ofList r.preimage) (String.ofList r'.preimage) := by
  rw [← Preimage.Record.preimage_eq_iff_normalised]
  have hhash : ∀ r : Preimage.Record,
      r.hash keccakUtf8 = hex (keccakUtf8 (String.ofList r.preimage)) := fun _ => rfl
  rw [hhash, hhash]
  constructor
  · intro h
    by_cases hpreimage : r.preimage = r'.preimage
    · exact .inl hpreimage
    · exact .inr ⟨fun heq => hpreimage (String.ofList_injective heq), h⟩
  · rintro (h | ⟨-, h⟩)
    · rw [h]
    · exact h

end Hashes

/-! ## Assets -/

section Inserts

variable {rt : AssetRuntime}

/-- The operation inserts nothing. -/
def AssetOp.InsertsNothing : AssetOp → Prop
  | insert .. => False
  | _ => True

/-- The operation inserts nothing but this draft. -/
def AssetOp.InsertsOnly (draft : AssetDraft) : AssetOp → Prop
  | insert draft' _ => draft' = draft
  | _ => True

theorem insertsNothing_onServer {α : Type} (p : Route α) :
    Only AssetOp.InsertsNothing (onServer p).run :=
  only_embed (only_true p.run) fun _ _ => trivial

theorem insertsOnly_tryInsert (draft : AssetDraft) :
    Only (AssetOp.InsertsOnly draft) (tryInsert rt draft).run := by
  refine only_exceptT_bind (only_ask rfl) fun answer => ?_
  split
  · exact only_exceptT_pure _
  · split
    · exact only_ask rfl
    · exact only_exceptT_pure _

variable [Str.CaseMapping]

theorem insertsNothing_prepareDraft (body : DraftBody) (caller : Caller) :
    Only AssetOp.InsertsNothing (prepareDraft rt body caller).run := by
  refine only_exceptT_bind (insertsNothing_onServer _) fun serialEncrypted => ?_
  refine only_exceptT_bind (insertsNothing_onServer _) fun invoiceEncrypted => ?_
  split
  · exact only_require _ _
  · exact .done _

/-- What is inserted is the draft of an accepted body. -/
theorem prepared_of_insert {session : SessionData} {body : DraftBody}
    {log : List ((op : AssetOp) × op.Res)} {draft : AssetDraft} {stamp : Option AssetDeployment}
    (h : Reaches (createDraft rt session (some body)).run log (.insert draft stamp)) :
    ∃ caller log', Returns (prepareDraft rt body caller).run log' (.ok draft) := by
  have hinserts : ¬ AssetOp.InsertsNothing (.insert draft stamp) := id
  obtain ⟨body', hbody, hguarding⟩ := reaches_require_bind.1 h
  obtain ⟨heq, -⟩ := Option.filter_eq_some_iff.1 hbody
  obtain rfl := Option.some.inj heq
  obtain ⟨caller, _, _, -, -, hpreparing⟩ :=
    hguarding.second (insertsNothing_onServer _) hinserts
  obtain ⟨prepared, front, _, -, hprepare, hinserting⟩ :=
    hpreparing.second (insertsNothing_prepareDraft body caller) hinserts
  have honly : AssetOp.InsertsOnly prepared (.insert draft stamp) := by
    refine (only_exceptT_bind (insertsOnly_tryInsert prepared) fun answer => ?_).reached hinserting
    split
    · exact .done _
    · exact only_exceptT_bind (only_ask trivial) fun _ => only_exceptT_pure _
  obtain rfl : draft = prepared := honly
  exact ⟨caller, front, hprepare⟩

/-- What a body leaves in the columns. -/
theorem columns_of_prepareDraft (hcipher : Deciphers rt.cipher rt.decipher) {body : DraftBody}
    {caller : Caller} {log : List ((op : AssetOp) × op.Res)} {draft : AssetDraft}
    (h : Returns (prepareDraft rt body caller).run log (.ok draft)) :
    draft.orgId.1 = body.orgId ∧ Str.ofString draft.name = body.name ∧
      draft.assetType = body.assetType.text ∧ draft.department.map Str.ofString = body.department ∧
      decryptPII rt.decipher draft.serialEncrypted = sealedText body.serialNumber ∧
      decryptPII rt.decipher draft.invoiceEncrypted = sealedText body.invoiceReference ∧
      draft.assetHash = (Preimage.Record.asset body.record).hash rt.keccakUtf8 := by
  obtain ⟨serialEncrypted, _, _, -, hserial, hrest⟩ := returns_exceptT_bind.1 h
  obtain ⟨invoiceEncrypted, _, _, -, hinvoice, hrest⟩ := returns_exceptT_bind.1 hrest
  obtain ⟨_, hserial⟩ := returns_of_embed hserial
  obtain ⟨_, hinvoice⟩ := returns_of_embed hinvoice
  split at hrest
  next hsafe =>
      obtain ⟨-, hcolumns⟩ := returns_require.1 hrest
      unfold DraftBody.columns at hcolumns
      simp only [Option.bind_eq_bind, Option.bind_eq_some_iff] at hcolumns
      obtain ⟨name, hname, description, hdescription, department, hdepartment, imageUrl, himageUrl,
        heq⟩ := hcolumns
      obtain rfl := Option.some.inj heq
      exact ⟨rfl, ofString_storedText hname, rfl, ofString_storedOptional hdepartment,
        decryptPII_of_encryptPII hcipher hserial, decryptPII_of_encryptPII hcipher hinvoice, rfl⟩
  · obtain ⟨-, herror⟩ := returns_throw.1 hrest
    cases herror

/-- The record of a draft agrees with the body in all that is hashed just where the two encrypted
    fields survive. -/
theorem normalised_draft_iff (hcipher : Deciphers rt.cipher rt.decipher) {body : DraftBody}
    {caller : Caller} {log : List ((op : AssetOp) × op.Res)} {draft : AssetDraft}
    (h : Returns (prepareDraft rt body caller).run log (.ok draft)) (stamp : Option AssetDeployment)
    (id createdAt : String) :
    (Preimage.Record.asset (.ofRow
        ((draft.toRow stamp id createdAt).toAssetRow.record rt.decipher))).normalised =
      (Preimage.Record.asset body.record).normalised ↔
        Kept body.serialNumber ∧ Kept body.invoiceReference := by
  obtain ⟨horg, hname, htype, hdepartment, hserial, hinvoice, -⟩ :=
    columns_of_prepareDraft hcipher h
  rw [← trim_sealedText_iff, ← trim_sealedText_iff, ← hserial, ← hinvoice]
  simp only [Preimage.Record.normalised, Preimage.AssetRecord.ofRow, AssetRow.record,
    AssetDraft.toRow, DraftBody.record, horg, hname, htype, hdepartment,
    Preimage.Record.asset.injEq, Preimage.AssetRecord.mk.injEq, true_and, and_true]

/-- A draft that is inserted rehashes to its anchor just where the two encrypted fields survive, or
    where its text collides with that of the body. -/
theorem draft_rehashes_iff (hcipher : Deciphers rt.cipher rt.decipher) {session : SessionData}
    {body : DraftBody} {log : List ((op : AssetOp) × op.Res)} {draft : AssetDraft}
    {stamp : Option AssetDeployment}
    (h : Reaches (createDraft rt session (some body)).run log (.insert draft stamp))
    (id createdAt : String) :
    let record := (draft.toRow stamp id createdAt).toAssetRow.record rt.decipher
    hashAssetRecord rt.keccakUtf8 record = (draft.toRow stamp id createdAt).assetHash ↔
      (Kept body.serialNumber ∧ Kept body.invoiceReference) ∨
        Collision rt.keccakUtf8 (String.ofList (Preimage.Record.asset (.ofRow record)).preimage)
          (String.ofList (Preimage.Record.asset body.record).preimage) := by
  intro record
  obtain ⟨caller, log', hprepare⟩ := prepared_of_insert h
  obtain ⟨-, -, -, -, -, -, hhash⟩ := columns_of_prepareDraft hcipher hprepare
  have hanchor : (draft.toRow stamp id createdAt).assetHash =
      (Preimage.Record.asset body.record).hash rt.keccakUtf8 := hhash
  rw [← Preimage.hashAssetRecord_ofRow, hanchor, hash_eq_iff,
    normalised_draft_iff hcipher hprepare stamp id createdAt]

end Inserts

/-! ## Addresses of electronic mail -/

theorem mem_splitOn {s : Text} (sep : Char) {c : Char} (h : c ∈ s) :
    c = sep ∨ ∃ part ∈ s.splitOn sep, c ∈ part := by
  induction s with
  | nil => cases h
  | cons d s ih =>
      rw [List.splitOn_cons_eq_if_modifyHead]
      obtain ⟨first, rest, hsplit⟩ := List.exists_cons_of_ne_nil (List.splitOn_ne_nil sep s)
      rw [hsplit] at ih ⊢
      split
      next hd =>
          rcases List.mem_cons.1 h with rfl | h
          · exact .inl (eq_of_beq hd)
          · exact (ih h).imp_right fun ⟨part, hpart, hc⟩ => ⟨part, List.mem_cons_of_mem _ hpart, hc⟩
      · rcases List.mem_cons.1 h with rfl | h
        · exact .inr ⟨c :: first, List.mem_cons_self .., List.mem_cons_self ..⟩
        · refine (ih h).imp_right fun ⟨part, hpart, hc⟩ => ?_
          rcases List.mem_cons.1 hpart with rfl | hpart
          · exact ⟨d :: part, List.mem_cons_self .., List.mem_cons_of_mem _ hc⟩
          · exact ⟨part, List.mem_cons_of_mem _ hpart, hc⟩

theorem ascii_of_isAlphanum {c : Char} (h : c.isAlphanum = true) : c.toNat < 128 := by
  have hval : c.toNat = c.val.toNat := rfl
  delta Char.isAlphanum Char.isAlpha Char.isUpper Char.isLower Char.isDigit at h
  simp only [Bool.or_eq_true, Bool.and_eq_true, decide_eq_true_eq, UInt32.le_iff_toNat_le] at h
  have hupper : 'Z'.val.toNat = 90 := rfl
  have hlower : 'z'.val.toNat = 122 := rfl
  have hdigit : '9'.val.toNat = 57 := rfl
  omega

theorem ascii_of_isEmailChar {c : Char} (h : isEmailChar c = true) : c.toNat < 128 := by
  rcases Bool.or_eq_true_iff.1 h with halnum | hother
  · exact ascii_of_isAlphanum halnum
  · simp only [List.contains_iff_mem, List.mem_cons, List.not_mem_nil, or_false] at hother
    rcases hother with rfl | rfl | rfl | rfl | rfl <;> decide

theorem ascii_of_isDomainLabel {label : Text} (h : isDomainLabel label = true) :
    ∀ c ∈ label, c.toNat < 128 := by
  intro c hc
  have hall := List.all_eq_true.1 (Bool.and_eq_true_iff.1 h).2 c hc
  rcases Bool.or_eq_true_iff.1 hall with halnum | hdash
  · exact ascii_of_isAlphanum halnum
  · rw [eq_of_beq hdash]
    decide

theorem ascii_of_isTopLevel {label : Text} (h : isTopLevel label = true) :
    ∀ c ∈ label, c.toNat < 128 := by
  intro c hc
  have hall := List.all_eq_true.1 (Bool.and_eq_true_iff.1 h).2 c hc
  exact ascii_of_isAlphanum (Bool.or_eq_true_iff.2 (.inl hall))

/-- An address is in ASCII. -/
theorem ascii_of_isEmail {s : Text} (h : isEmail s = true) : s ≠ [] ∧ ∀ c ∈ s, c.toNat < 128 := by
  unfold isEmail at h
  split at h
  next user domain hsplit =>
      simp only [Bool.and_eq_true, List.all_eq_true] at h
      obtain ⟨⟨⟨⟨⟨-, huser⟩, -⟩, -⟩, hlabels⟩, hlast⟩ := h
      refine ⟨?_, fun c hc => ?_⟩
      · rintro rfl
        cases hsplit
      -- The character is in the part before the `@`, in a label, or between the parts.
      · rcases mem_splitOn '@' hc with rfl | ⟨part, hpart, hc⟩
        · decide
        · rw [hsplit] at hpart
          rcases List.mem_pair.1 hpart with rfl | rfl
          · exact ascii_of_isEmailChar (huser c hc)
          · rcases mem_splitOn '.' hc with rfl | ⟨label, hlabel, hc⟩
            · decide
            · rcases List.eq_nil_or_concat (part.splitOn '.') with hnil | ⟨front, last, hconcat⟩
              · rw [hnil] at hlabel
                cases hlabel
              · rw [hconcat, List.concat_eq_append] at hlabel hlabels hlast
                rw [List.dropLast_concat] at hlabels
                rw [List.getLast?_concat] at hlast
                rcases List.mem_append.1 hlabel with hfront | hback
                · exact ascii_of_isDomainLabel (hlabels label hfront) c hc
                · rw [List.mem_singleton.1 hback] at hc
                  exact ascii_of_isTopLevel hlast c hc
  · cases h

theorem kept_of_isEmail {email : Str} (h : isEmail email.toWellFormed.toList = true) :
    Kept (some email) := by
  obtain ⟨hne, hascii⟩ := ascii_of_isEmail h
  unfold Str.toWellFormed at hne hascii
  rw [String.toList_ofList] at hne hascii
  intro text heq
  obtain rfl := Option.some.inj heq
  refine ⟨fun hunits => ?_, List.all_eq_true.2 fun p hp => ?_⟩
  · have hpoints : email.points ≠ [] := fun hnil => hne (by rw [hnil]; rfl)
    obtain ⟨p, hp⟩ := List.exists_mem_of_ne_nil _ hpoints
    have hnone := List.flatMap_eq_nil_iff.1 hunits p hp
    obtain ⟨_, hone, -⟩ | ⟨_, _, hone, -⟩ | ⟨_, hone, -⟩ := Str.units_cases p <;>
      rw [hnone] at hone <;> cases hone
  · have hlow := hascii _ (List.mem_map_of_mem hp)
    cases p with
    | scalar c => rfl
    | surrogate n => exact absurd hlow (show ¬ '\uFFFD'.toNat < 128 by decide)

/-! ## Profiles -/

section Profiles

variable {rt : AssetRuntime}

/-- The operation saves nothing. -/
def ProfileOp.SavesNothing : ProfileOp → Prop
  | upsert .. => False
  | _ => True

/-- The operation saves nothing but this row. -/
def ProfileOp.SavesOnly (row : ProfileRow) : ProfileOp → Prop
  | upsert _ row' => row' = row
  | _ => True

theorem savesNothing_besideProfiles {α : Type} (p : Route α) :
    Only ProfileOp.SavesNothing (besideProfiles p).run :=
  only_embed (only_true p.run) fun _ _ => trivial

variable [Str.CaseMapping]

theorem savesNothing_prepareProfile (body : ProfileBody) :
    Only ProfileOp.SavesNothing (prepareProfile rt body).run := by
  refine only_exceptT_bind (savesNothing_besideProfiles _) fun emailEncrypted => ?_
  refine only_exceptT_bind (savesNothing_besideProfiles _) fun phoneEncrypted => ?_
  exact only_require _ _

/-- What is saved is the row of an accepted body. -/
theorem prepared_of_upsert {session : SessionData} {body : ProfileBody}
    {log : List ((op : ProfileOp) × op.Res)} {wallet : Address} {row : ProfileRow}
    (h : Reaches (putProfile rt session (some body)).run log (.upsert wallet row)) :
    body.accepted rt.server.parse = true ∧
      ∃ log', Returns (prepareProfile rt body).run log' (.ok row) := by
  have hsaves : ¬ ProfileOp.SavesNothing (.upsert wallet row) := id
  have hcaller : ∀ sessionWallet : Option Address, Only ProfileOp.SavesNothing
      (requireCaller sessionWallet : ProfileRoute Address).run := by
    intro sessionWallet
    cases sessionWallet <;> exact .done _
  obtain ⟨sessionWallet, _, _, -, -, hguarding⟩ :=
    h.second (savesNothing_besideProfiles _) hsaves
  obtain ⟨caller, _, _, -, -, hreading⟩ := hguarding.second (hcaller sessionWallet) hsaves
  obtain ⟨body', hbody, hpreparing⟩ := reaches_require_bind.1 hreading
  obtain ⟨heq, haccepted⟩ := Option.filter_eq_some_iff.1 hbody
  obtain rfl := Option.some.inj heq
  obtain ⟨prepared, front, _, -, hprepare, hsaving⟩ :=
    hpreparing.second (savesNothing_prepareProfile body) hsaves
  have honly : ProfileOp.SavesOnly prepared (.upsert wallet row) := by
    refine Only.reached (P := ProfileOp.SavesOnly prepared)
      (only_exceptT_bind (only_ask (by exact rfl)) fun answer => ?_) hsaving
    split
    · exact .done _
    · have hread : Only (ProfileOp.SavesOnly prepared)
          (call (ProfileOp.server (.readIdentity caller)) :
            Prog ProfileOp ProfileOp.Res _) := only_call trivial
      exact only_exceptT_bind (only_attempt hread _) fun _ => only_exceptT_pure _
  obtain rfl : row = prepared := honly
  exact ⟨haccepted, front, hprepare⟩

/-- What a body leaves in the columns. -/
theorem columns_of_prepareProfile (hcipher : Deciphers rt.cipher rt.decipher) {body : ProfileBody}
    {log : List ((op : ProfileOp) × op.Res)} {row : ProfileRow}
    (h : Returns (prepareProfile rt body).run log (.ok row)) :
    Str.ofString row.displayName = body.displayName ∧
      row.jobTitle.map Str.ofString = body.jobTitle ∧
      row.department.map Str.ofString = body.department ∧
      decryptPII rt.decipher row.emailEncrypted = sealedText body.email ∧
      decryptPII rt.decipher row.phoneEncrypted = sealedText body.phone ∧
      row.identityHash = some ((Preimage.Record.identity body.record).hash rt.keccakUtf8) := by
  obtain ⟨emailEncrypted, _, _, -, hemail, hrest⟩ := returns_exceptT_bind.1 h
  obtain ⟨phoneEncrypted, _, _, -, hphone, hrest⟩ := returns_exceptT_bind.1 hrest
  obtain ⟨_, hemail⟩ := returns_of_embed hemail
  obtain ⟨_, hphone⟩ := returns_of_embed hphone
  obtain ⟨-, hcolumns⟩ := returns_require.1 hrest
  unfold ProfileBody.columns at hcolumns
  simp only [Option.bind_eq_bind, Option.bind_eq_some_iff] at hcolumns
  obtain ⟨displayName, hdisplayName, jobTitle, hjobTitle, department, hdepartment, avatarUrl, -,
    heq⟩ := hcolumns
  obtain rfl := Option.some.inj heq
  exact ⟨ofString_storedText hdisplayName, ofString_storedOptional hjobTitle,
    ofString_storedOptional hdepartment, decryptPII_of_encryptPII hcipher hemail,
    decryptPII_of_encryptPII hcipher hphone, rfl⟩

/-- An address that survives is hashed alike. -/
theorem email_sealedText {email : Option Str} (h : Kept email) :
    ((sealedText email).map Str.ofString).map (fun email => Str.CaseMapping.lower email.trim) =
      email.map fun email => Str.CaseMapping.lower email.trim := by
  have htrim := (trim_sealedText_iff email).2 h
  have hlower := congrArg (Option.map Str.CaseMapping.lower) htrim
  rw [Option.map_map, Option.map_map, Option.map_map] at hlower
  rw [Option.map_map]
  exact hlower

/-- The record of a profile agrees with the body in all that is hashed just where the telephone
    number survives. An address that is accepted does. -/
theorem normalised_profile_iff (hcipher : Deciphers rt.cipher rt.decipher) {body : ProfileBody}
    (haccepted : body.accepted rt.server.parse = true) {log : List ((op : ProfileOp) × op.Res)}
    {row : ProfileRow} (h : Returns (prepareProfile rt body).run log (.ok row)) :
    (Preimage.Record.identity (.ofRow (row.record rt.decipher))).normalised =
      (Preimage.Record.identity body.record).normalised ↔ Kept body.phone := by
  obtain ⟨hdisplayName, hjobTitle, hdepartment, hemail, hphone, -⟩ :=
    columns_of_prepareProfile hcipher h
  have haddress : Kept body.email := by
    intro text htext
    simp only [ProfileBody.accepted, Bool.and_eq_true, htext, Option.all_some] at haccepted
    exact kept_of_isEmail haccepted.1.1.2 text rfl
  rw [← trim_sealedText_iff, ← hphone]
  simp only [Preimage.Record.normalised, Preimage.IdentityRecord.ofRow, ProfileRow.record,
    ProfileBody.record, hdisplayName, hjobTitle, hdepartment, hemail, email_sealedText haddress,
    Preimage.Record.identity.injEq, Preimage.IdentityRecord.mk.injEq, true_and, and_true]

/-- A profile that is saved rehashes to its anchor just where the telephone number survives, or
    where its text collides with that of the body. -/
theorem profile_rehashes_iff (hcipher : Deciphers rt.cipher rt.decipher) {session : SessionData}
    {body : ProfileBody} {log : List ((op : ProfileOp) × op.Res)} {wallet : Address}
    {row : ProfileRow}
    (h : Reaches (putProfile rt session (some body)).run log (.upsert wallet row)) :
    some (hashIdentityRecord rt.keccakUtf8 (row.record rt.decipher)) = row.identityHash ↔
      Kept body.phone ∨
        Collision rt.keccakUtf8
          (String.ofList (Preimage.Record.identity (.ofRow (row.record rt.decipher))).preimage)
          (String.ofList (Preimage.Record.identity body.record).preimage) := by
  obtain ⟨haccepted, log', hprepare⟩ := prepared_of_upsert h
  obtain ⟨-, -, -, -, -, hhash⟩ := columns_of_prepareProfile hcipher hprepare
  rw [hhash, Option.some.injEq, ← Preimage.hashIdentityRecord_ofRow, hash_eq_iff,
    normalised_profile_iff hcipher haccepted hprepare]

end Profiles

/-- A stored record rehashes to its anchor just where each of its encrypted fields is absent, or not
    empty and without lone surrogates; or where two texts collide. -/
theorem stored_rehashes_iff [Str.CaseMapping] {rt : AssetRuntime}
    (hcipher : Deciphers rt.cipher rt.decipher) :
    (∀ (session : SessionData) (body : DraftBody) (log : List ((op : AssetOp) × op.Res))
        (draft : AssetDraft) (stamp : Option AssetDeployment) (id createdAt : String),
      Reaches (createDraft rt session (some body)).run log (.insert draft stamp) →
        let record := (draft.toRow stamp id createdAt).toAssetRow.record rt.decipher
        (hashAssetRecord rt.keccakUtf8 record = (draft.toRow stamp id createdAt).assetHash ↔
          (Kept body.serialNumber ∧ Kept body.invoiceReference) ∨
            Collision rt.keccakUtf8 (String.ofList (Preimage.Record.asset (.ofRow record)).preimage)
              (String.ofList (Preimage.Record.asset body.record).preimage))) ∧
    ∀ (session : SessionData) (body : ProfileBody) (log : List ((op : ProfileOp) × op.Res))
        (wallet : Address) (row : ProfileRow),
      Reaches (putProfile rt session (some body)).run log (.upsert wallet row) →
        let record := row.record rt.decipher
        (some (hashIdentityRecord rt.keccakUtf8 record) = row.identityHash ↔
          Kept body.phone ∨
            Collision rt.keccakUtf8
              (String.ofList (Preimage.Record.identity (.ofRow record)).preimage)
              (String.ofList (Preimage.Record.identity body.record).preimage)) :=
  ⟨fun _ _ _ _ _ id createdAt h => draft_rehashes_iff hcipher h id createdAt,
    fun _ _ _ _ _ h => profile_rehashes_iff hcipher h⟩

/-! ## An empty serial number -/

namespace Sample

/-- A cipher that hides nothing. -/
def openCipher (_ : List UInt8) (plaintext : String) : String × String × String :=
  ("", "", String.ofList (toBase64url (plaintext.toList.flatMap String.utf8EncodeChar)))

def openDecipher (_ _ ciphertext : String) : Option String :=
  (ByteArray.utf8Decode? (fromBase64 ciphertext.toList).toByteArray).map fun text =>
    String.ofList text.toList

theorem deciphers_open : Deciphers openCipher openDecipher where
  undoes := by
    intro iv plaintext
    have hdecode : (plaintext.toList.flatMap String.utf8EncodeChar).toByteArray.utf8Decode? =
        some plaintext.toList.toArray := List.utf8Decode?_utf8Encode
    simp only [openCipher, openDecipher, String.toList_ofList, fromBase64_toBase64url, hdecode,
      Option.map_some, String.ofList_toList]
  dots := by
    intro iv plaintext
    have hdot := notMem_toBase64url (show base64Value '.' = none by decide)
      (plaintext.toList.flatMap String.utf8EncodeChar)
    exact ⟨by simp [openCipher], by simp [openCipher], by simpa [openCipher] using hdot⟩

def openRuntime : AssetRuntime :=
  { assetRuntime with cipher := openCipher, decipher := openDecipher }

def macbookBody (serialNumber : Option Str) : DraftBody where
  orgId := 1
  name := .ofString "MacBook Pro"
  assetType := .laptop
  description := none
  department := none
  imageUrl := none
  serialNumber
  invoiceReference := none

def emptyStore : AssetStore where
  rows := []
  migrated := true
  lawful := by decide +kernel
  unstamped := by simp

/-- Nothing fails. -/
def ready (op : AssetOp) : op.Res :=
  (AssetServerState.answer portalRuntime (fun _ => none) ("a1", "") ⟨portalStart, emptyStore⟩ op).1

/-- The request of Alice for a draft of a body, after some operations. -/
def drafting (serialNumber : Option Str) (operations : Nat) :
    List ((op : AssetOp) × op.Res) × Prog AssetOp AssetOp.Res (Except ApiError DraftReply) :=
  let _ := asciiStrings
  rehearse ready operations
    (createDraft openRuntime aliceSession (some (macbookBody serialNumber))).run

/-- The draft that a request is about to insert. -/
def inserting (play : List ((op : AssetOp) × op.Res) ×
    Prog AssetOp AssetOp.Res (Except ApiError DraftReply)) :
    Option (AssetDraft × Option AssetDeployment) :=
  match (play.2.next?.map (·.1) : Option AssetOp) with
  | some (.insert draft stamp) => some (draft, stamp)
  | _ => none

theorem reaches_of_inserting {serialNumber : Option Str} {operations : Nat} {draft : AssetDraft}
    {stamp : Option AssetDeployment}
    (h : inserting (drafting serialNumber operations) = some (draft, stamp)) :
    let _ := asciiStrings
    Reaches (createDraft openRuntime aliceSession (some (macbookBody serialNumber))).run
      (drafting serialNumber operations).1 (.insert draft stamp) := by
  unfold inserting at h
  split at h
  next hop =>
      obtain ⟨rfl, rfl⟩ := Prod.mk.inj (Option.some.inj h)
      exact reaches_rehearse hop
  · cases h

/-- A draft with a serial number rehashes to its anchor. -/
theorem serial_rehashes :
    let _ := asciiStrings
    ∃ (log : List ((op : AssetOp) × op.Res)) (draft : AssetDraft) (stamp : Option AssetDeployment),
      Reaches
        (createDraft openRuntime aliceSession (some (macbookBody (some (.ofString "C02XK"))))).run
        log (.insert draft stamp) ∧
      let row := draft.toRow stamp "a1" ""
      hashAssetRecord openRuntime.keccakUtf8 (row.toAssetRow.record openRuntime.decipher) =
        row.assetHash := by
  intro _
  have hplay : (inserting (drafting (some (.ofString "C02XK")) 5)).isSome = true := by
    decide +kernel
  obtain ⟨⟨draft, stamp⟩, hdraft⟩ := Option.isSome_iff_exists.1 hplay
  have hreaches := reaches_of_inserting hdraft
  have hserial : Kept (some (.ofString "C02XK")) := by
    intro text htext
    rw [← Option.some.inj htext]
    decide +kernel
  have hinvoice : Kept none := fun _ h => by cases h
  have hiff := (stored_rehashes_iff deciphers_open).1 _ _ _ _ _ "a1" "" hreaches
  exact ⟨_, draft, stamp, hreaches, hiff.2 (.inl ⟨hserial, hinvoice⟩)⟩

/-- An empty serial number is hashed as a text, and read back as none. -/
theorem empty_serial_differs :
    let _ := asciiStrings
    Deciphers openRuntime.cipher openRuntime.decipher ∧
    ∃ (log : List ((op : AssetOp) × op.Res)) (draft : AssetDraft) (stamp : Option AssetDeployment),
      Reaches (createDraft openRuntime aliceSession (some (macbookBody (some (.ofString ""))))).run
        log (.insert draft stamp) ∧
      let row := draft.toRow stamp "a1" ""
      hashAssetRecord openRuntime.keccakUtf8 (row.toAssetRow.record openRuntime.decipher) ≠
        row.assetHash := by
  intro _
  have hplay : ((inserting (drafting (some (.ofString "")) 4)).any fun (draft, stamp) =>
      let row := draft.toRow stamp "a1" ""
      hashAssetRecord openRuntime.keccakUtf8 (row.toAssetRow.record openRuntime.decipher) !=
        row.assetHash) = true := by
    decide +kernel
  obtain ⟨⟨draft, stamp⟩, hdraft, hhash⟩ := (Option.any_eq_true ..).1 hplay
  exact ⟨deciphers_open, _, draft, stamp, reaches_of_inserting hdraft, bne_iff_ne.1 hhash⟩

end Sample

end OwneX
