import OwneX.Contracts.Basic
import OwneX.Library.JsNumber
import OwneX.Library.JsString

set_option autoImplicit false

/-! # `lib/hash.ts`: canonical hashing

A record is written as canonical JSON, with its keys sorted and undefined values dropped, behind a
domain; the keccak-256 hash of that text is what the contracts store. `keccakUtf8` is the hash. Two
records with the same hash agree in every field, up to white space around it, unless the hash
collides. -/

namespace OwneX

open JsNumber

/-- A JSON value, or `undefined`. -/
inductive Json where
  | null
  | undefined
  | bool (b : Bool)
  | number (n : SafeInt)
  | string (s : String)
  | array (elems : List Json)
  | object (fields : List (String × Json))

/-- The order of an object's keys. -/
def keyBefore (entry entry' : String × String) : Prop :=
  Js.sortsBefore entry.1 entry'.1 = true

instance : DecidableRel keyBefore := fun _ _ => inferInstanceAs (Decidable (_ = true))

mutual

/-- An object's values are written before its keys are sorted. -/
def canonicalJson : Json → String
  | .null => "null"
  | .undefined => "null"
  | .bool b => if b then "true" else "false"
  | .number n => n.1.repr
  | .string s => Js.quote s
  | .array elems => "[" ++ ",".intercalate (canonicalElems elems) ++ "]"
  | .object fields =>
      let entries := (canonicalFields fields).insertionSort keyBefore
      "\x7b" ++ ",".intercalate (entries.map fun entry => Js.quote entry.1 ++ ":" ++ entry.2) ++ "\x7d"

def canonicalElems : List Json → List String
  | [] => []
  | elem :: rest => canonicalJson elem :: canonicalElems rest

def canonicalFields : List (String × Json) → List (String × String)
  | [] => []
  | (_, .undefined) :: rest => canonicalFields rest
  | (key, value) :: rest => (key, canonicalJson value) :: canonicalFields rest

end

/-- A 32-byte value as ethers writes it. -/
def hex (h : Bytes32) : String :=
  String.ofList ('0' :: 'x' ::
    (List.range 64).map fun i => Js.hexDigit (h.toNat / 16 ^ (63 - i) % 16))

def ASSET_DOMAIN : String := "ownex:asset:v1"

def IDENTITY_DOMAIN : String := "ownex:identity:v1"

/-- What is hashed. -/
def domainText (domain : String) (payload : Json) : String :=
  domain ++ ":" ++ canonicalJson payload

def domainHash (keccakUtf8 : String → Bytes32) (domain : String) (payload : Json) : String :=
  hex (keccakUtf8 (domainText domain payload))

/-! ## Flat objects -/

/-- What the fields of the hashed records hold. -/
inductive Scalar where
  | null
  | number (n : SafeInt)
  | string (s : String)
deriving DecidableEq

def Scalar.toJson : Scalar → Json
  | .null => .null
  | .number n => .number n
  | .string s => .string s

/-- A missing value is written as `null`. -/
def Scalar.ofOption : Option String → Scalar
  | none => .null
  | some s => .string s

def flat (fields : List (String × Scalar)) : Json :=
  .object (fields.map fun field => (field.1, field.2.toJson))

structure AssetRecord where
  orgId : SafeInt
  name : String
  assetType : String
  serialNumber : Option String
  invoiceReference : Option String
  department : Option String
deriving DecidableEq

/-- The fields that are hashed. -/
def AssetRecord.payload (record : AssetRecord) : List (String × Scalar) :=
  [("orgId", .number record.orgId),
    ("name", .string (Js.trim record.name)),
    ("assetType", .string (Js.trim record.assetType)),
    ("serialNumber", .ofOption (record.serialNumber.map Js.trim)),
    ("invoiceReference", .ofOption (record.invoiceReference.map Js.trim)),
    ("department", .ofOption (record.department.map Js.trim))]

/-- The anchor stored in `AssetNFT.assetHash`. -/
def hashAssetRecord (keccakUtf8 : String → Bytes32) (record : AssetRecord) : String :=
  domainHash keccakUtf8 ASSET_DOMAIN (flat record.payload)

structure IdentityRecord where
  displayName : String
  email : Option String
  phone : Option String
  jobTitle : Option String
  department : Option String
deriving DecidableEq

section Identity

variable [Js.CaseMapping]

def IdentityRecord.payload (record : IdentityRecord) : List (String × Scalar) :=
  [("displayName", .string (Js.trim record.displayName)),
    ("email", .ofOption (record.email.map fun email =>
      Js.CaseMapping.toLowerCase (Js.trim email))),
    ("phone", .ofOption (record.phone.map Js.trim)),
    ("jobTitle", .ofOption (record.jobTitle.map Js.trim)),
    ("department", .ofOption (record.department.map Js.trim))]

/-- The anchor stored in `IdentityRegistry.identityHash`. -/
def hashIdentityRecord (keccakUtf8 : String → Bytes32) (record : IdentityRecord) : String :=
  domainHash keccakUtf8 IDENTITY_DOMAIN (flat record.payload)

end Identity

/-! ## Canonical texts of flat objects -/

def Scalar.chars (value : Scalar) : List Char :=
  (canonicalJson value.toJson).toList

/-- A value and the symbol after it. -/
def scalarCode (v : Scalar × Bool) : List Char :=
  v.1.chars ++ [if v.2 then '\x7d' else ',']

/-- A field and the symbol after it. -/
def fieldCode (field : (String × Scalar) × Bool) : List Char :=
  Js.quoteChars field.1.1 ++ (':' :: scalarCode (field.1.2, field.2))

/-- The text behind the opening brace. -/
def bodyChars : List (String × Scalar) → List Char
  | [] => ['\x7d']
  | field :: rest =>
      fieldCode (field, rest.isEmpty) ++ if rest.isEmpty then [] else bodyChars rest

theorem close_injective : Function.Injective fun last : Bool => if last then '\x7d' else ',' := by
  decide

theorem Scalar.chars_string (s : String) : (Scalar.string s).chars = Js.quoteChars s :=
  String.toList_ofList

theorem Scalar.chars_number (n : SafeInt) : (Scalar.number n).chars = Nat.toDigits 10 n.1 :=
  Nat.toList_repr

/-- The first symbol of a text says what kind of value it is. -/
def Scalar.kind : Scalar → Nat
  | .null => 0
  | .number _ => 1
  | .string _ => 2

theorem Scalar.chars_eq_cons (v : Scalar) :
    ∃ c l, v.chars = c :: l ∧ v.kind = if c = 'n' then 0 else if c.isDigit then 1 else 2 := by
  cases v with
  | null => exact ⟨'n', ['u', 'l', 'l'], by decide, rfl⟩
  | number n =>
      rw [Scalar.chars_number]
      cases h : Nat.toDigits 10 n.1 with
      | nil => exact absurd h Nat.toDigits_ne_nil
      | cons c l =>
          have hmem : c ∈ Nat.toDigits 10 n.1 := by
            rw [h]
            exact List.mem_cons_self ..
          have hdigit := Nat.isDigit_of_mem_toDigits (by decide) (by decide) hmem
          have hne : c ≠ 'n' := fun heq => by
            rw [heq] at hdigit
            cases hdigit
          refine ⟨c, l, rfl, ?_⟩
          rw [if_neg hne, if_pos hdigit]
          rfl
  | string s => exact ⟨'"', _, Scalar.chars_string s, rfl⟩

theorem Scalar.kind_eq {v w : Scalar} {x y : List Char} (h : v.chars ++ x = w.chars ++ y) :
    v.kind = w.kind := by
  obtain ⟨c, l, hv, hkind⟩ := v.chars_eq_cons
  obtain ⟨d, m, hw, hkind'⟩ := w.chars_eq_cons
  rw [hv, hw] at h
  rw [hkind, hkind', (List.cons.inj h).1]

theorem readable_number : Readable fun v : SafeInt × Bool =>
    (Scalar.number v.1).chars ++ [if v.2 then '\x7d' else ','] := by
  have hinj : Function.Injective fun n : SafeInt => (Scalar.number n).chars := by
    intro n m h
    simp only [Scalar.chars_number] at h
    refine Subtype.ext ?_
    rw [← Nat.ofDigitChars_ten_toDigits (n := n.1), h, Nat.ofDigitChars_ten_toDigits]
  have hdigits : ∀ n : SafeInt, ∀ c ∈ (Scalar.number n).chars, c.isDigit = true := by
    intro n c hc
    rw [Scalar.chars_number] at hc
    exact Nat.isDigit_of_mem_toDigits (by decide) (by decide) hc
  exact .terminated hinj close_injective hdigits (by decide)

theorem readable_close : Readable fun last : Bool => [if last then '\x7d' else ','] := by
  refine ⟨fun {a b x y} heq => ?_⟩
  obtain ⟨hclose, hrest⟩ := List.cons.inj heq
  exact ⟨close_injective hclose, hrest⟩

/-- A value can be told from its text and the symbol behind it. -/
theorem readable_scalarCode : Readable scalarCode := by
  refine ⟨fun {v w x y} heq => ?_⟩
  obtain ⟨v, last⟩ := v
  obtain ⟨w, last'⟩ := w
  have hkind : v.kind = w.kind := by
    simp only [scalarCode, List.append_assoc] at heq
    exact Scalar.kind_eq heq
  cases v with
  | null =>
      cases w with
      | null =>
          obtain ⟨rfl, hrest⟩ := (readable_close.after Scalar.null.chars).split heq
          exact ⟨rfl, hrest⟩
      | number m => cases hkind
      | string t => cases hkind
  | number n =>
      cases w with
      | null => cases hkind
      | number m =>
          obtain ⟨hsame, hrest⟩ :=
            readable_number.split (a := (n, last)) (b := (m, last')) heq
          cases hsame
          exact ⟨rfl, hrest⟩
      | string t => cases hkind
  | string s =>
      cases w with
      | null => cases hkind
      | number m => cases hkind
      | string t =>
          simp only [scalarCode, Scalar.chars_string] at heq
          obtain ⟨hsame, hrest⟩ := (Js.readable_quoteChars.append readable_close).split
            (a := (s, last)) (b := (t, last')) heq
          cases hsame
          exact ⟨rfl, hrest⟩

theorem readable_fieldCode : Readable fieldCode := by
  have hcode := Js.readable_quoteChars.append (readable_scalarCode.after [':'])
  refine hcode.comp (f := fun field : (String × Scalar) × Bool => (field.1.1, field.1.2, field.2))
    fun v w h => ?_
  obtain ⟨⟨k, v⟩, last⟩ := v
  obtain ⟨⟨k', w⟩, last'⟩ := w
  cases h
  rfl

/-- The text of an object behind its opening brace determines the fields. -/
theorem bodyChars_injective : Function.Injective bodyChars := by
  intro fields
  induction fields with
  | nil =>
      intro fields' h
      cases fields' with
      | nil => rfl
      | cons field' rest' => cases (List.cons.inj h).1
  | cons field rest ih =>
      intro fields' h
      cases fields' with
      | nil => cases (List.cons.inj h).1
      | cons field' rest' =>
          obtain ⟨hsame, hrest⟩ := readable_fieldCode.split h
          obtain ⟨hfield, hempty⟩ := Prod.mk.inj hsame
          rw [hfield]
          -- The symbol behind the field says whether it is the last.
          cases rest with
          | nil =>
              cases rest' with
              | nil => rfl
              | cons next' rest' => cases hempty
          | cons next rest =>
              cases rest' with
              | nil => cases hempty
              | cons next' rest' => rw [ih hrest]

/-! ## Equal hashes -/

/-- The order of the keys. -/
def fieldBefore (field field' : String × Scalar) : Prop :=
  Js.sortsBefore field.1 field'.1 = true

instance : DecidableRel fieldBefore := fun _ _ => inferInstanceAs (Decidable (_ = true))

/-- The fields in the order in which they are written. -/
def sortedFields (fields : List (String × Scalar)) : List (String × Scalar) :=
  fields.insertionSort fieldBefore

theorem canonicalFields_flat (fields : List (String × Scalar)) :
    canonicalFields (fields.map fun field => (field.1, field.2.toJson)) =
      fields.map fun field => (field.1, canonicalJson field.2.toJson) := by
  induction fields with
  | nil => rfl
  | cons field rest ih =>
      obtain ⟨key, value⟩ := field
      rw [List.map_cons, List.map_cons, ← ih]
      cases value <;> rfl

theorem fieldCode_eq (field : String × Scalar) (last : Bool) :
    fieldCode (field, last) =
      (Js.quote field.1 ++ ":" ++ canonicalJson field.2.toJson).toList ++
        [if last then '\x7d' else ','] := by
  have hcolon : ":".toList = [':'] := rfl
  rw [String.toList_append, String.toList_append, hcolon, Js.quote, String.toList_ofList,
    List.append_assoc, List.append_assoc]
  rfl

theorem toList_intercalate_fields (field : String × Scalar) (rest : List (String × Scalar)) :
    (",".intercalate ((field :: rest).map fun field =>
      Js.quote field.1 ++ ":" ++ canonicalJson field.2.toJson)).toList ++ ['\x7d'] =
    bodyChars (field :: rest) := by
  have hcomma : ",".toList = [','] := rfl
  rw [String.toList_intercalate, hcomma]
  induction rest generalizing field with
  | nil =>
      rw [bodyChars, fieldCode_eq]
      simp only [List.map_cons, List.map_nil, List.intercalate_singleton, List.isEmpty_nil, if_true,
        List.append_nil]
  | cons next rest ih =>
      rw [bodyChars, fieldCode_eq]
      simp only [List.map_cons, List.intercalate_cons_cons, List.isEmpty_cons, Bool.false_eq_true,
        if_false, List.append_assoc] at ih ⊢
      rw [ih next]

theorem toList_canonicalJson_flat (fields : List (String × Scalar)) :
    (canonicalJson (flat fields)).toList = '\x7b' :: bodyChars (sortedFields fields) := by
  have hsort : (canonicalFields (fields.map fun field => (field.1, field.2.toJson))).insertionSort
      keyBefore = (sortedFields fields).map fun field => (field.1, canonicalJson field.2.toJson) := by
    rw [canonicalFields_flat, sortedFields, List.map_insertionSort (r := fieldBefore) keyBefore]
    exact fun _ _ _ _ => Iff.rfl
  have hopen : "\x7b".toList = ['\x7b'] := rfl
  have hclose : "\x7d".toList = ['\x7d'] := rfl
  unfold flat canonicalJson
  rw [hsort]
  simp only [List.map_map]
  rw [String.toList_append, String.toList_append, hopen, hclose]
  cases sortedFields fields with
  | nil => rfl
  | cons field rest =>
      rw [List.append_assoc, ← toList_intercalate_fields]
      rfl

/-- Two objects with the same canonical text have the same fields, up to their order. -/
theorem canonicalJson_flat_perm {fields fields' : List (String × Scalar)}
    (h : canonicalJson (flat fields) = canonicalJson (flat fields')) : fields.Perm fields' := by
  have hbody : bodyChars (sortedFields fields) = bodyChars (sortedFields fields') := by
    have htext := congrArg String.toList h
    rw [toList_canonicalJson_flat, toList_canonicalJson_flat] at htext
    exact (List.cons.inj htext).2
  have hsorted := bodyChars_injective hbody
  have hperm := List.perm_insertionSort fieldBefore fields
  have hperm' := List.perm_insertionSort fieldBefore fields'
  exact hperm.symm.trans ((List.Perm.of_eq hsorted).trans hperm')

/-- Two texts that the hash does not tell apart. -/
def Collision (keccakUtf8 : String → Bytes32) (text text' : String) : Prop :=
  text ≠ text' ∧ hex (keccakUtf8 text) = hex (keccakUtf8 text')

theorem domainHash_eq {keccakUtf8 : String → Bytes32} {domain : String}
    {fields fields' : List (String × Scalar)}
    (h : domainHash keccakUtf8 domain (flat fields) = domainHash keccakUtf8 domain (flat fields')) :
    fields.Perm fields' ∨
      Collision keccakUtf8 (domainText domain (flat fields)) (domainText domain (flat fields')) := by
  by_cases htext : domainText domain (flat fields) = domainText domain (flat fields')
  · left
    have hchars := congrArg String.toList htext
    simp only [domainText, String.toList_append, List.append_assoc] at hchars
    exact canonicalJson_flat_perm
      (String.toList_injective (List.append_cancel_left (List.append_cancel_left hchars)))
  · exact .inr ⟨htext, h⟩

/-- Records with the same hash have the same hashed fields, unless their texts collide. -/
theorem AssetRecord.payload_eq {keccakUtf8 : String → Bytes32} {record record' : AssetRecord}
    (h : hashAssetRecord keccakUtf8 record = hashAssetRecord keccakUtf8 record') :
    record.payload = record'.payload ∨
      Collision keccakUtf8 (domainText ASSET_DOMAIN (flat record.payload))
        (domainText ASSET_DOMAIN (flat record'.payload)) := by
  refine (domainHash_eq h).imp_left fun hperm => ?_
  have hmem : ∀ field ∈ record.payload, field ∈ record'.payload := fun _ => hperm.mem_iff.1
  unfold payload at hmem ⊢
  simpa using hmem

theorem IdentityRecord.payload_eq [Js.CaseMapping] {keccakUtf8 : String → Bytes32}
    {record record' : IdentityRecord}
    (h : hashIdentityRecord keccakUtf8 record = hashIdentityRecord keccakUtf8 record') :
    record.payload = record'.payload ∨
      Collision keccakUtf8 (domainText IDENTITY_DOMAIN (flat record.payload))
        (domainText IDENTITY_DOMAIN (flat record'.payload)) := by
  refine (domainHash_eq h).imp_left fun hperm => ?_
  have hmem : ∀ field ∈ record.payload, field ∈ record'.payload := fun _ => hperm.mem_iff.1
  unfold payload at hmem ⊢
  simpa using hmem

end OwneX
