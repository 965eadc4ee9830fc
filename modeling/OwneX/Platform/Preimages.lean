import OwneX.Library.JsCodePoints
import OwneX.Library.JsDecimal
import OwneX.Library.JsText
import OwneX.Library.KeyedList
import OwneX.Platform.Hash
import Mathlib.Data.Option.Basic

set_option autoImplicit false

/-! # What is hashed

`lib/hash.ts` for everything that JavaScript can hand it: strings with lone surrogates, any finite
number, values of any depth. A text in canonical form can be read back, up to what the form leaves out:
the order of the keys and the entries that are `undefined` (`canonicalJson_eq_iff`). -/

namespace OwneX

namespace Preimage

open Js

/-! ## JSON values -/

/-- A JSON value. An entry of an object may be `undefined`. -/
inductive Json where
  | null
  | bool (b : Bool)
  | number (n : FiniteNumber)
  | string (s : Str)
  | array (elems : List Json)
  | object (entries : List (Str × Option Json))

/-- The keys of an object are distinct. -/
inductive Json.DistinctKeys : Json → Prop where
  | null : DistinctKeys .null
  | bool (b : Bool) : DistinctKeys (.bool b)
  | number (n : FiniteNumber) : DistinctKeys (.number n)
  | string (s : Str) : DistinctKeys (.string s)
  | array {elems : List Json} : (∀ elem ∈ elems, DistinctKeys elem) → DistinctKeys (.array elems)
  | object {entries : List (Str × Option Json)} : (entries.map (·.1)).Nodup →
      (∀ key value, (key, some value) ∈ entries → DistinctKeys value) →
      DistinctKeys (.object entries)

/-- A value as it is in memory. -/
structure Value where
  json : Json
  distinct : json.DistinctKeys

/-- What an object holds under a key. -/
def get (entries : List (Str × Option Json)) (key : Str) : Option Json :=
  (entries.find? fun entry => entry.1 = key).bind (·.2)

/-- Equal up to the order of the keys of objects and entries that are `undefined`. -/
inductive Same : Json → Json → Prop where
  | null : Same .null .null
  | bool (b : Bool) : Same (.bool b) (.bool b)
  | number (n : FiniteNumber) : Same (.number n) (.number n)
  | string (s : Str) : Same (.string s) (.string s)
  | array {elems elems' : List Json} : List.Forall₂ Same elems elems' →
      Same (.array elems) (.array elems')
  | object {entries entries' : List (Str × Option Json)} :
      (∀ key, Option.Rel Same (get entries key) (get entries' key)) →
      Same (.object entries) (.object entries')

/-! ## `canonicalJson` -/

/-- The order of an object's keys. -/
def keyBefore {α : Type} (field field' : Str × α) : Prop :=
  field.1.sortsBefore field'.1 = true

instance {α : Type} : DecidableRel (keyBefore (α := α)) :=
  fun _ _ => inferInstanceAs (Decidable (_ = true))

/-- `JSON.stringify(key)`, a colon and a value. -/
def fieldChars (field : Str × Text) : Text :=
  field.1.quoteChars ++ ':' :: field.2

mutual

/-- An object's values are written before its keys are sorted. -/
def canonicalJson : Json → Text
  | .null => "null".toList
  | .bool b => if b then "true".toList else "false".toList
  | .number n => n.chars
  | .string s => s.quoteChars
  | .array elems => '[' :: (List.intercalate [','] (canonicalElems elems) ++ [']'])
  | .object entries =>
      let fields := (canonicalFields entries).insertionSort keyBefore
      '\x7b' :: (List.intercalate [','] (fields.map fieldChars) ++ ['\x7d'])

def canonicalElems : List Json → List Text
  | [] => []
  | elem :: rest => canonicalJson elem :: canonicalElems rest

def canonicalFields : List (Str × Option Json) → List (Str × Text)
  | [] => []
  | (_, none) :: rest => canonicalFields rest
  | (key, some value) :: rest => (key, canonicalJson value) :: canonicalFields rest

end

theorem canonicalElems_eq (elems : List Json) : canonicalElems elems = elems.map canonicalJson := by
  induction elems with
  | nil => rfl
  | cons elem rest ih => rw [canonicalElems, ih, List.map_cons]

/-- The entries that are not `undefined`. -/
def defined (entries : List (Str × Option Json)) : List (Str × Json) :=
  entries.filterMap fun entry => entry.2.map fun value => (entry.1, value)

theorem canonicalFields_eq (entries : List (Str × Option Json)) :
    canonicalFields entries = (defined entries).map fun field => (field.1, canonicalJson field.2) := by
  induction entries with
  | nil => rfl
  | cons entry rest ih =>
      obtain ⟨key, value⟩ := entry
      cases value with
      | none => exact ih
      | some value =>
          rw [canonicalFields, ih]
          rfl

/-- The fields of an object in the order in which they are written. -/
def sorted (entries : List (Str × Option Json)) : List (Str × Json) :=
  (defined entries).insertionSort keyBefore

/-- How a field is written. -/
def fieldCode (field : Str × Json) : Text :=
  fieldChars (field.1, canonicalJson field.2)

/-- A list with commas in between, and what closes it. -/
theorem intercalate_append {α : Type} (code : α → Text) (close : Char) (l : List α) :
    List.intercalate [','] (l.map code) ++ [close] = items code ',' close l := by
  induction l with
  | nil => rfl
  | cons a l ih =>
      cases l with
      | nil => simp [items, List.intercalate]
      | cons b l =>
          rw [List.map_cons] at ih
          rw [List.map_cons, List.map_cons, List.intercalate_cons_cons, items, ← ih]
          simp

theorem canonicalJson_array (elems : List Json) :
    canonicalJson (.array elems) = '[' :: items canonicalJson ',' ']' elems := by
  rw [canonicalJson, canonicalElems_eq, intercalate_append]

theorem canonicalJson_object (entries : List (Str × Option Json)) :
    canonicalJson (.object entries) = '\x7b' :: items fieldCode ',' '\x7d' (sorted entries) := by
  have hsort : (canonicalFields entries).insertionSort keyBefore =
      (sorted entries).map fun field => (field.1, canonicalJson field.2) := by
    rw [canonicalFields_eq, sorted, List.map_insertionSort (r := keyBefore) keyBefore]
    exact fun _ _ _ _ => Iff.rfl
  rw [canonicalJson, hsort, List.map_map]
  exact congrArg _ (intercalate_append fieldCode '\x7d' _)

/-! ## Reading a value back -/

/-- A property of all values, by what they contain. -/
theorem Json.induct {P : Json → Prop} (null : P .null) (bool : ∀ b, P (.bool b))
    (number : ∀ n, P (.number n)) (string : ∀ s, P (.string s))
    (array : ∀ elems, (∀ elem ∈ elems, P elem) → P (.array elems))
    (object : ∀ entries, (∀ key value, (key, some value) ∈ entries → P value) →
      P (.object entries)) : ∀ v, P v
  | .null => null
  | .bool b => bool b
  | .number n => number n
  | .string s => string s
  | .array elems => array elems fun elem _ => induct null bool number string array object elem
  | .object entries =>
      object entries fun _ value _ => induct null bool number string array object value
termination_by v => sizeOf v
decreasing_by
  · have hlt := List.sizeOf_lt_of_mem ‹elem ∈ elems›
    simp only [Json.array.sizeOf_spec]
    omega
  · have hlt := List.sizeOf_lt_of_mem ‹_ ∈ entries›
    simp only [Prod.mk.sizeOf_spec, Option.some.sizeOf_spec] at hlt
    simp only [Json.object.sizeOf_spec]
    omega

/-- The kind of a value, as the first symbol of its text tells it. -/
def kindOf (c : Char) : Nat :=
  if c = 'n' then 0
  else if c = 't' ∨ c = 'f' then 1
  else if c = '"' then 2
  else if c = '[' then 3
  else if c = '\x7b' then 4
  else if isNumberChar c then 5
  else 6

def Json.kind : Json → Nat
  | .null => 0
  | .bool _ => 1
  | .string _ => 2
  | .array _ => 3
  | .object _ => 4
  | .number _ => 5

theorem kindOf_of_isNumberChar {c : Char} (h : isNumberChar c = true) : kindOf c = 5 := by
  have hne : ∀ d, isNumberChar d = false → c ≠ d := by
    rintro d hd rfl
    rw [h] at hd
    cases hd
  simp [kindOf, h, hne 'n' (by decide), hne 't' (by decide), hne 'f' (by decide),
    hne '"' (by decide), hne '[' (by decide), hne '\x7b' (by decide)]

theorem canonicalJson_head (v : Json) :
    ∃ c rest, canonicalJson v = c :: rest ∧ kindOf c = v.kind := by
  cases v with
  | null => exact ⟨'n', _, rfl, by decide⟩
  | bool b => cases b <;> exact ⟨_, _, rfl, by decide⟩
  | number n =>
      cases hchars : n.chars with
      | nil => exact absurd hchars n.chars_ne_nil
      | cons c rest =>
          refine ⟨c, rest, hchars, kindOf_of_isNumberChar (n.chars_isNumber c ?_)⟩
          rw [hchars]
          exact List.mem_cons_self
  | string s => exact ⟨'"', _, rfl, show kindOf '"' = 2 by decide⟩
  | array elems => exact ⟨'[', _, canonicalJson_array elems, show kindOf '[' = 3 by decide⟩
  | object entries =>
      exact ⟨'\x7b', _, canonicalJson_object entries, show kindOf '\x7b' = 4 by decide⟩

theorem kind_eq {v w : Json} {x y : Text} (h : canonicalJson v ++ x = canonicalJson w ++ y) :
    v.kind = w.kind := by
  obtain ⟨c, rest, hv, hkind⟩ := canonicalJson_head v
  obtain ⟨d, rest', hw, hkind'⟩ := canonicalJson_head w
  rw [hv, hw] at h
  rw [← hkind, ← hkind', (List.cons.inj h).1]

/-- No value begins with a symbol that closes a list. -/
theorem canonicalJson_append_ne {c : Char} (hc : kindOf c = 6) (v : Json) (x y : Text) :
    canonicalJson v ++ x ≠ c :: y := by
  intro heq
  obtain ⟨d, rest, hv, hkind⟩ := canonicalJson_head v
  rw [hv] at heq
  rw [(List.cons.inj heq).1, hc] at hkind
  cases v <;> cases hkind

/-- What may stand behind a value: nothing that a number is written with. -/
abbrev Ends : Char → Prop := fun c => isNumberChar c = false

theorem takeWhile_number (n : FiniteNumber) {x : Text} (hx : Stops Ends x) :
    (n.chars ++ x).takeWhile isNumberChar = n.chars := by
  rw [List.takeWhile_append_of_pos n.chars_isNumber]
  cases x with
  | nil => simp
  | cons c x => rw [List.takeWhile_cons_of_neg (by simpa using hx c rfl), List.append_nil]

theorem readable_number (n : FiniteNumber) : ReadableUpTo Ends FiniteNumber.chars Eq n := by
  intro m x y hx hy heq
  have htexts := congrArg (List.takeWhile isNumberChar) heq
  rw [takeWhile_number n hx, takeWhile_number m hy] at htexts
  obtain rfl := FiniteNumber.chars_injective htexts
  exact ⟨rfl, List.append_cancel_left heq⟩

/-! ## What an object holds -/

theorem mem_defined {entries : List (Str × Option Json)} {key : Str} {value : Json} :
    (key, value) ∈ defined entries ↔ (key, some value) ∈ entries := by
  unfold defined
  rw [List.mem_filterMap]
  constructor
  · rintro ⟨⟨key', value'⟩, hmem, heq⟩
    obtain ⟨v, rfl, hpair⟩ := Option.map_eq_some_iff.1 heq
    cases hpair
    exact hmem
  · intro hmem
    exact ⟨_, hmem, rfl⟩

/-- Where keys are distinct, what is held under a key is its entry. -/
theorem get_eq_some_iff {entries : List (Str × Option Json)} (h : (entries.map (·.1)).Nodup)
    {key : Str} {value : Json} : get entries key = some value ↔ (key, value) ∈ defined entries := by
  have hlookup : KeyedList.lookup (fun entry : Str × Option Json => entry.1) entries key =
      some (key, some value) ↔ (key, some value) ∈ entries ∧ key = key :=
    KeyedList.lookup_eq_some_iff h
  rw [mem_defined]
  unfold get
  constructor
  · intro hget
    obtain ⟨⟨key', value'⟩, hfind, hvalue⟩ := Option.bind_eq_some_iff.1 hget
    have hkey := List.find?_some hfind
    obtain rfl : key' = key := of_decide_eq_true hkey
    obtain rfl : value' = some value := hvalue
    exact List.mem_of_find?_eq_some hfind
  · intro hmem
    have hfind : entries.find? (fun entry => entry.1 = key) = some (key, some value) :=
      hlookup.2 ⟨hmem, rfl⟩
    rw [hfind]
    rfl

theorem mem_sorted {entries : List (Str × Option Json)} {field : Str × Json} :
    field ∈ sorted entries ↔ field ∈ defined entries :=
  List.mem_insertionSort keyBefore

/-- Related lists hold related members. -/
theorem exists_of_forall₂ {α β : Type} {R : α → β → Prop} {l : List α} {m : List β}
    (h : List.Forall₂ R l m) {a : α} (ha : a ∈ l) : ∃ b ∈ m, R a b := by
  induction h with
  | nil => cases ha
  | cons hab _ ih =>
      rcases List.mem_cons.1 ha with rfl | ha
      · exact ⟨_, List.mem_cons_self, hab⟩
      · obtain ⟨b, hb, hR⟩ := ih ha
        exact ⟨b, List.mem_cons_of_mem _ hb, hR⟩

/-! ## Equal texts -/

/-- Values that are the same, if they are values at all. -/
def SameIf (v w : Json) : Prop :=
  v.DistinctKeys → w.DistinctKeys → Same v w

/-- Fields agree in their keys, and in their values up to the order of keys. -/
def SameField (field field' : Str × Json) : Prop :=
  field.1 = field'.1 ∧ SameIf field.2 field'.2

theorem readable_fieldCode {field : Str × Json}
    (h : ReadableUpTo Ends canonicalJson SameIf field.2) :
    ReadableUpTo Ends fieldCode SameField field := by
  intro field' x y hx hy heq
  simp only [fieldCode, fieldChars, List.append_assoc] at heq
  obtain ⟨hkey, hrest⟩ := Str.readable_quoteChars.split heq
  obtain ⟨hvalue, hxy⟩ := h field'.2 x y hx hy (List.cons.inj hrest).2
  exact ⟨⟨hkey, hvalue⟩, hxy⟩

theorem fieldCode_append_ne (field : Str × Json) (x y : Text) :
    fieldCode field ++ x ≠ '\x7d' :: y := by
  intro heq
  cases (List.cons.inj heq).1

theorem forall₂_same {l m : List Json} (h : List.Forall₂ SameIf l m)
    (hl : ∀ v ∈ l, v.DistinctKeys) (hm : ∀ w ∈ m, w.DistinctKeys) : List.Forall₂ Same l m := by
  induction h with
  | nil => exact .nil
  | cons hvw _ ih =>
      refine .cons (hvw (hl _ List.mem_cons_self) (hm _ List.mem_cons_self)) (ih ?_ ?_)
      · exact fun v hv => hl v (List.mem_cons_of_mem _ hv)
      · exact fun w hw => hm w (List.mem_cons_of_mem _ hw)

/-- Objects with the same fields in the same order are the same. -/
theorem sameIf_object {entries entries' : List (Str × Option Json)}
    (h : List.Forall₂ SameField (sorted entries) (sorted entries')) :
    SameIf (.object entries) (.object entries') := by
  intro hv hw
  cases hv with
  | object hkeys hvalues =>
  cases hw with
  | object hkeys' hvalues' =>
  have hsame : ∀ {key key' : Str} {value value' : Json}, (key, value) ∈ defined entries →
      (key', value') ∈ defined entries' → SameField (key, value) (key', value') → Same value value' :=
    fun hmem hmem' hfield =>
      hfield.2 (hvalues _ _ (mem_defined.1 hmem)) (hvalues' _ _ (mem_defined.1 hmem'))
  refine .object fun key => ?_
  cases hget : get entries key with
  | some value =>
      have hmem := (get_eq_some_iff hkeys).1 hget
      obtain ⟨⟨key', value'⟩, hmem', hfield⟩ := exists_of_forall₂ h (mem_sorted.2 hmem)
      obtain rfl : key = key' := hfield.1
      rw [(get_eq_some_iff hkeys').2 (mem_sorted.1 hmem')]
      exact .some (hsame hmem (mem_sorted.1 hmem') hfield)
  | none =>
      cases hget' : get entries' key with
      | none => exact .none
      | some value' =>
          have hmem' := (get_eq_some_iff hkeys').1 hget'
          obtain ⟨⟨key', value⟩, hmem, hfield⟩ := exists_of_forall₂
            (List.Forall₂.flip (R := flip SameField) h) (mem_sorted.2 hmem')
          obtain rfl : key' = key := hfield.1
          rw [(get_eq_some_iff hkeys).2 (mem_sorted.1 hmem)] at hget
          cases hget

/-- A value can be read off the front of a text, up to what the canonical form leaves out. -/
theorem readable_canonicalJson (v : Json) : ReadableUpTo Ends canonicalJson SameIf v := by
  induction v using Json.induct with
  | null =>
      intro w x y _ _ heq
      have hkind := kind_eq heq
      cases w with
      | null => exact ⟨fun _ _ => .null, List.append_cancel_left heq⟩
      | _ => cases hkind
  | bool b =>
      intro w x y _ _ heq
      have hkind := kind_eq heq
      cases w with
      | bool b' =>
          cases b with
          | true =>
              cases b' with
              | true => exact ⟨fun _ _ => .bool true, List.append_cancel_left heq⟩
              | false => cases (List.cons.inj heq).1
          | false =>
              cases b' with
              | true => cases (List.cons.inj heq).1
              | false => exact ⟨fun _ _ => .bool false, List.append_cancel_left heq⟩
      | _ => cases hkind
  | number n =>
      intro w x y hx hy heq
      have hkind := kind_eq heq
      cases w with
      | number m =>
          obtain ⟨rfl, hxy⟩ := readable_number n m x y hx hy heq
          exact ⟨fun _ _ => .number n, hxy⟩
      | _ => cases hkind
  | string s =>
      intro w x y _ _ heq
      have hkind := kind_eq heq
      cases w with
      | string t =>
          obtain ⟨rfl, hxy⟩ := Str.readable_quoteChars.split heq
          exact ⟨fun _ _ => .string s, hxy⟩
      | _ => cases hkind
  | array elems ih =>
      intro w x y _ _ heq
      have hkind := kind_eq heq
      cases w with
      | array elems' =>
          rw [canonicalJson_array, canonicalJson_array] at heq
          obtain ⟨helems, hxy⟩ := readableUpTo_items (by decide) (by decide)
            (by decide) (canonicalJson_append_ne (by decide)) ih (List.cons.inj heq).2
          refine ⟨fun hv hw => ?_, hxy⟩
          cases hv with
          | array hv =>
              cases hw with
              | array hw => exact .array (forall₂_same helems hv hw)
      | _ => cases hkind
  | object entries ih =>
      intro w x y _ _ heq
      have hkind := kind_eq heq
      cases w with
      | object entries' =>
          rw [canonicalJson_object, canonicalJson_object] at heq
          have hfields : ∀ field ∈ sorted entries, ReadableUpTo Ends fieldCode SameField field :=
            fun field hfield =>
              readable_fieldCode (ih field.1 field.2 (mem_defined.1 (mem_sorted.1 hfield)))
          obtain ⟨hsame, hxy⟩ := readableUpTo_items (by decide) (by decide)
            (by decide) fieldCode_append_ne hfields (List.cons.inj heq).2
          exact ⟨sameIf_object hsame, hxy⟩
      | _ => cases hkind

/-! ## Same values -/

theorem stops_nil : Stops Ends ([] : Text) := by
  intro c hc
  cases hc

instance : Std.Total (keyBefore (α := Text)) :=
  ⟨fun field field' => unitsBefore_total field.1.units field'.1.units⟩

instance : IsTrans (Str × Text) keyBefore :=
  ⟨fun _ _ _ h h' => unitsBefore_trans h h'⟩

/-- The keys of the fields that are written are distinct. -/
theorem nodup_keys_canonicalFields {entries : List (Str × Option Json)}
    (h : (entries.map (·.1)).Nodup) : ((canonicalFields entries).map (·.1)).Nodup := by
  induction entries with
  | nil => exact List.nodup_nil
  | cons entry rest ih =>
      obtain ⟨key, value⟩ := entry
      obtain ⟨hnew, hrest⟩ := List.nodup_cons.1 h
      cases value with
      | none => exact ih hrest
      | some value =>
          refine List.nodup_cons.2 ⟨fun hmem => hnew ?_, ih hrest⟩
          obtain ⟨field, hfield, hkey⟩ := List.mem_map.1 hmem
          rw [canonicalFields_eq] at hfield
          obtain ⟨field', hfield', rfl⟩ := List.mem_map.1 hfield
          exact List.mem_map.2 ⟨_, mem_defined.1 hfield', hkey⟩

theorem mem_canonicalFields {entries : List (Str × Option Json)} (h : (entries.map (·.1)).Nodup)
    {key : Str} {text : Text} :
    (key, text) ∈ canonicalFields entries ↔
      ∃ value, get entries key = some value ∧ canonicalJson value = text := by
  rw [canonicalFields_eq, List.mem_map]
  constructor
  · rintro ⟨field, hfield, heq⟩
    cases heq
    exact ⟨field.2, (get_eq_some_iff h).2 hfield, rfl⟩
  · rintro ⟨value, hget, rfl⟩
    exact ⟨_, (get_eq_some_iff h).1 hget, rfl⟩

/-- Fields with distinct keys are sorted in one way. -/
theorem sort_eq_of_perm {fields fields' : List (Str × Text)} (hkeys : (fields.map (·.1)).Nodup)
    (h : fields.Perm fields') :
    fields.insertionSort keyBefore = fields'.insertionSort keyBefore := by
  have hperm := List.perm_insertionSort keyBefore fields
  have hperm' := List.perm_insertionSort keyBefore fields'
  refine List.Perm.eq_of_pairwise ?_ (List.pairwise_insertionSort keyBefore fields)
    (List.pairwise_insertionSort keyBefore fields') (hperm.trans (h.trans hperm'.symm))
  intro field field' hmem hmem' hle hle'
  refine KeyedList.eq_of_key hkeys (hperm.mem_iff.1 hmem) (h.mem_iff.2 (hperm'.mem_iff.1 hmem')) ?_
  exact Str.eq_of_sortsBefore hle hle'

/-- The same values have the same canonical text. -/
theorem canonicalJson_of_same (v : Json) :
    ∀ w, v.DistinctKeys → w.DistinctKeys → Same v w → canonicalJson v = canonicalJson w := by
  induction v using Json.induct with
  | null =>
      intro w _ _ h
      cases h
      rfl
  | bool b =>
      intro w _ _ h
      cases h
      rfl
  | number n =>
      intro w _ _ h
      cases h
      rfl
  | string s =>
      intro w _ _ h
      cases h
      rfl
  | array elems ih =>
      intro w hv hw h
      cases h with
      | array helems =>
      cases hv with
      | array hv =>
      cases hw with
      | array hw =>
      rw [canonicalJson, canonicalJson, canonicalElems_eq, canonicalElems_eq]
      congr 3
      induction helems with
      | nil => rfl
      | cons hvw _ ihl =>
          rw [List.map_cons, List.map_cons,
            ih _ List.mem_cons_self _ (hv _ List.mem_cons_self) (hw _ List.mem_cons_self) hvw]
          refine congrArg _ (ihl ?_ ?_ ?_)
          · exact fun v hmem => ih v (List.mem_cons_of_mem _ hmem)
          · exact fun v hmem => hv v (List.mem_cons_of_mem _ hmem)
          · exact fun w hmem => hw w (List.mem_cons_of_mem _ hmem)
  | object entries ih =>
      intro w hv hw h
      cases h with
      | @object _ entries' hget =>
      cases hv with
      | object hkeys hv =>
      cases hw with
      | object hkeys' hw =>
      -- Under each key both objects hold the same value, so both write the same fields.
      have hvalue : ∀ {key value value'}, get entries key = some value →
          get entries' key = some value' → Same value value' →
          canonicalJson value = canonicalJson value' := by
        intro key value value' hsome hsome' hsame
        have hmem := mem_defined.1 ((get_eq_some_iff hkeys).1 hsome)
        have hmem' := mem_defined.1 ((get_eq_some_iff hkeys').1 hsome')
        exact ih key value hmem value' (hv key value hmem) (hw key value' hmem') hsame
      have hperm : (canonicalFields entries).Perm (canonicalFields entries') := by
        refine (List.perm_ext_iff_of_nodup (nodup_keys_canonicalFields hkeys).of_map
          (nodup_keys_canonicalFields hkeys').of_map).2 ?_
        rintro ⟨key, text⟩
        rw [mem_canonicalFields hkeys, mem_canonicalFields hkeys']
        have hrel := hget key
        constructor
        · rintro ⟨value, hsome, rfl⟩
          rw [hsome] at hrel
          generalize hother : get entries' key = other at hrel
          cases hrel with
          | some hsame => exact ⟨_, rfl, (hvalue hsome hother hsame).symm⟩
        · rintro ⟨value', hsome', rfl⟩
          rw [hsome'] at hrel
          generalize hother : get entries key = other at hrel
          cases hrel with
          | some hsame => exact ⟨_, rfl, hvalue hother hsome' hsame⟩
      rw [canonicalJson, canonicalJson, sort_eq_of_perm (nodup_keys_canonicalFields hkeys) hperm]

/-- Two values have the same canonical text when they are equal up to the order of the keys of objects
    and entries that are `undefined`. -/
theorem canonicalJson_eq_iff_same (v w : Value) :
    canonicalJson v.json = canonicalJson w.json ↔ Same v.json w.json := by
  constructor
  · intro h
    exact (readable_canonicalJson v.json w.json [] [] stops_nil stops_nil (by rw [h])).1
      v.distinct w.distinct
  · exact canonicalJson_of_same v.json w.json v.distinct w.distinct

/-! ## Objects with the same keys -/

/-- An object literal. -/
def record (fields : List (String × Json)) : Json :=
  .object (fields.map fun field => (Str.ofString field.1, some field.2))

/-- `?? null` -/
def textOrNull : Option Str → Json
  | none => .null
  | some s => .string s

theorem get_cons_self (key : Str) (value : Json) (rest : List (Str × Option Json)) :
    get ((key, some value) :: rest) key = some value := by
  simp [get]

theorem get_cons_of_ne {key key' : Str} (h : key' ≠ key) (value : Option Json)
    (rest : List (Str × Option Json)) : get ((key', value) :: rest) key = get rest key := by
  simp [get, h]

theorem get_eq_none {entries : List (Str × Option Json)} {key : Str}
    (h : key ∉ entries.map (·.1)) : get entries key = none := by
  unfold get
  rw [List.find?_eq_none.2, Option.bind_none]
  intro entry hentry
  simp only [decide_eq_true_eq]
  exact fun heq => h (List.mem_map.2 ⟨entry, hentry, heq⟩)

theorem keys_record (fields : List (String × Json)) :
    (fields.map fun field => (Str.ofString field.1, some field.2)).map (·.1) =
      (fields.map (·.1)).map Str.ofString := by
  rw [List.map_map, List.map_map]
  rfl

/-- Objects with the same keys are the same when their values are, one by one. -/
theorem same_record_iff {fields fields' : List (String × Json)}
    (hkeys : fields.map (·.1) = fields'.map (·.1)) (hnodup : (fields.map (·.1)).Nodup) :
    Same (record fields) (record fields') ↔
      List.Forall₂ Same (fields.map (·.2)) (fields'.map (·.2)) := by
  have hobject : ∀ fields fields' : List (String × Json),
      Same (record fields) (record fields') ↔ ∀ key, Option.Rel Same
        (get (fields.map fun field => (Str.ofString field.1, some field.2)) key)
        (get (fields'.map fun field => (Str.ofString field.1, some field.2)) key) :=
    fun _ _ => ⟨fun h => by cases h with | object h => exact h, .object⟩
  rw [hobject]
  induction fields generalizing fields' with
  | nil =>
      cases fields' with
      | nil => exact ⟨fun _ => .nil, fun _ _ => .none⟩
      | cons field' rest' => cases hkeys
  | cons field rest ih =>
      cases fields' with
      | nil => cases hkeys
      | cons field' rest' =>
          obtain ⟨key, value⟩ := field
          obtain ⟨key', value'⟩ := field'
          obtain ⟨hkey, hrest⟩ := List.cons.inj hkeys
          obtain rfl : key = key' := hkey
          obtain ⟨hnew, hnodup⟩ := List.nodup_cons.1 hnodup
          have hnone : ∀ rest : List (String × Json), key ∉ rest.map (·.1) →
              get (rest.map fun field => (Str.ofString field.1, some field.2))
                (Str.ofString key) = none := by
            intro rest hrest
            refine get_eq_none fun hmem => hrest ?_
            rw [keys_record] at hmem
            obtain ⟨key', hkey', heq⟩ := List.mem_map.1 hmem
            rwa [Str.ofString_injective heq] at hkey'
          have hih := ih hrest hnodup
          simp only [List.map_cons, List.forall₂_cons]
          constructor
          · intro h
            have hhead := h (Str.ofString key)
            rw [get_cons_self, get_cons_self] at hhead
            refine ⟨by cases hhead with | some hsame => exact hsame, hih.1 fun other => ?_⟩
            by_cases hother : Str.ofString key = other
            · subst hother
              rw [hnone rest hnew, hnone rest' (hrest ▸ hnew)]
              exact .none
            · have htail := h other
              rwa [get_cons_of_ne hother, get_cons_of_ne hother] at htail
          · rintro ⟨hhead, htail⟩ other
            by_cases hother : Str.ofString key = other
            · subst hother
              rw [get_cons_self, get_cons_self]
              exact .some hhead
            · rw [get_cons_of_ne hother, get_cons_of_ne hother]
              exact hih.2 htail other

@[simp] theorem same_number {n m : FiniteNumber} : Same (.number n) (.number m) ↔ n = m :=
  ⟨fun h => by cases h; rfl, fun h => h ▸ .number n⟩

@[simp] theorem same_string {s t : Str} : Same (.string s) (.string t) ↔ s = t :=
  ⟨fun h => by cases h; rfl, fun h => h ▸ .string s⟩

@[simp] theorem same_textOrNull {s t : Option Str} : Same (textOrNull s) (textOrNull t) ↔ s = t := by
  cases s with
  | none =>
      cases t with
      | none => exact ⟨fun _ => rfl, fun _ => .null⟩
      | some t => exact ⟨fun h => (by cases h), fun h => (by cases h)⟩
  | some s =>
      cases t with
      | none => exact ⟨fun h => (by cases h), fun h => (by cases h)⟩
      | some t => simp [textOrNull]

theorem distinct_textOrNull (s : Option Str) : (textOrNull s).DistinctKeys := by
  cases s with
  | none => exact .null
  | some s => exact .string s

theorem distinct_record {fields : List (String × Json)} (hnodup : (fields.map (·.1)).Nodup)
    (h : ∀ field ∈ fields, field.2.DistinctKeys) : (record fields).DistinctKeys := by
  refine .object ?_ fun key value hmem => ?_
  · rw [keys_record]
    exact hnodup.map Str.ofString_injective
  · obtain ⟨field, hfield, heq⟩ := List.mem_map.1 hmem
    cases heq
    exact h field hfield

/-! ## Records -/

structure AssetRecord where
  orgId : FiniteNumber
  name : Str
  assetType : Str
  serialNumber : Option Str
  invoiceReference : Option Str
  department : Option Str

structure IdentityRecord where
  displayName : Str
  email : Option Str
  phone : Option Str
  jobTitle : Option Str
  department : Option Str

structure OrganizationRecord where
  name : Str
  industry : Option Str
  website : Option Str

structure ApplicationRecord where
  slug : Str
  name : Str
  url : Str

def ORGANIZATION_DOMAIN : String := "ownex:organization:v1"

def APPLICATION_DOMAIN : String := "ownex:application:v1"

def domainText (domain : String) (payload : Json) : Text :=
  domain.toList ++ ':' :: canonicalJson payload

def domainHash (keccakUtf8 : String → Bytes32) (domain : String) (payload : Json) : String :=
  hex (keccakUtf8 (String.ofList (domainText domain payload)))

section Hashers

variable [Str.CaseMapping]

/-- What `hashAssetRecord` writes. -/
def AssetRecord.payload (r : AssetRecord) : List (String × Json) :=
  [("orgId", .number r.orgId),
    ("name", .string r.name.trim),
    ("assetType", .string r.assetType.trim),
    ("serialNumber", textOrNull (r.serialNumber.map Str.trim)),
    ("invoiceReference", textOrNull (r.invoiceReference.map Str.trim)),
    ("department", textOrNull (r.department.map Str.trim))]

/-- What `hashIdentityRecord` writes. -/
def IdentityRecord.payload (r : IdentityRecord) : List (String × Json) :=
  [("displayName", .string r.displayName.trim),
    ("email", textOrNull (r.email.map fun email => Str.CaseMapping.lower email.trim)),
    ("phone", textOrNull (r.phone.map Str.trim)),
    ("jobTitle", textOrNull (r.jobTitle.map Str.trim)),
    ("department", textOrNull (r.department.map Str.trim))]

/-- What `hashOrganizationRecord` writes. -/
def OrganizationRecord.payload (r : OrganizationRecord) : List (String × Json) :=
  [("name", .string r.name.trim),
    ("industry", textOrNull (r.industry.map Str.trim)),
    ("website", textOrNull (r.website.map Str.trim))]

/-- What `hashApplicationRecord` writes. -/
def ApplicationRecord.payload (r : ApplicationRecord) : List (String × Json) :=
  [("slug", .string r.slug.trim), ("name", .string r.name.trim), ("url", .string r.url.trim)]

/-- A record of one of the four kinds. -/
inductive Record where
  | asset (r : AssetRecord)
  | identity (r : IdentityRecord)
  | organization (r : OrganizationRecord)
  | application (r : ApplicationRecord)

namespace Record

def domain : Record → String
  | asset _ => ASSET_DOMAIN
  | identity _ => IDENTITY_DOMAIN
  | organization _ => ORGANIZATION_DOMAIN
  | application _ => APPLICATION_DOMAIN

def payload : Record → List (String × Json)
  | asset r => r.payload
  | identity r => r.payload
  | organization r => r.payload
  | application r => r.payload

/-- What is passed to keccak. -/
def preimage (r : Record) : Text :=
  domainText r.domain (record r.payload)

def hash (keccakUtf8 : String → Bytes32) (r : Record) : String :=
  domainHash keccakUtf8 r.domain (record r.payload)

/-- Trimmed, and an address of electronic mail also in lower case. -/
def normalised : Record → Record
  | asset r => asset
      { orgId := r.orgId
        name := r.name.trim
        assetType := r.assetType.trim
        serialNumber := r.serialNumber.map Str.trim
        invoiceReference := r.invoiceReference.map Str.trim
        department := r.department.map Str.trim }
  | identity r => identity
      { displayName := r.displayName.trim
        email := r.email.map fun email => Str.CaseMapping.lower email.trim
        phone := r.phone.map Str.trim
        jobTitle := r.jobTitle.map Str.trim
        department := r.department.map Str.trim }
  | organization r => organization
      { name := r.name.trim
        industry := r.industry.map Str.trim
        website := r.website.map Str.trim }
  | application r => application
      { slug := r.slug.trim
        name := r.name.trim
        url := r.url.trim }

end Record

/-! ## Preimages -/

namespace Record

theorem nodup_keys (r : Record) : (r.payload.map (·.1)).Nodup := by
  cases r <;>
    simp [payload, AssetRecord.payload, IdentityRecord.payload, OrganizationRecord.payload,
      ApplicationRecord.payload]

/-- The payload as it is in memory. -/
def value (r : Record) : Value where
  json := record r.payload
  distinct := by
    refine distinct_record r.nodup_keys ?_
    cases r <;>
      simp [payload, AssetRecord.payload, IdentityRecord.payload, OrganizationRecord.payload,
        ApplicationRecord.payload, distinct_textOrNull, Json.DistinctKeys.number,
        Json.DistinctKeys.string]

omit [Str.CaseMapping] in
theorem domain_mem (r : Record) :
    r.domain ∈ [ASSET_DOMAIN, IDENTITY_DOMAIN, ORGANIZATION_DOMAIN, APPLICATION_DOMAIN] := by
  cases r <;> simp [domain]

/-- Equal preimages have the same domain: it can be told by its first eight symbols. -/
theorem domain_eq {r r' : Record} (h : r.preimage = r'.preimage) : r.domain = r'.domain := by
  have hlength : ∀ d ∈ [ASSET_DOMAIN, IDENTITY_DOMAIN, ORGANIZATION_DOMAIN, APPLICATION_DOMAIN],
      8 ≤ d.toList.length := by decide
  have hinj : ∀ d ∈ [ASSET_DOMAIN, IDENTITY_DOMAIN, ORGANIZATION_DOMAIN, APPLICATION_DOMAIN],
      ∀ d' ∈ [ASSET_DOMAIN, IDENTITY_DOMAIN, ORGANIZATION_DOMAIN, APPLICATION_DOMAIN],
      d.toList.take 8 = d'.toList.take 8 → d = d' := by decide
  have htake := congrArg (List.take 8) h
  unfold preimage domainText at htake
  rw [List.take_append_of_le_length (hlength _ r.domain_mem),
    List.take_append_of_le_length (hlength _ r'.domain_mem)] at htake
  exact hinj _ r.domain_mem _ r'.domain_mem htake

theorem preimage_eq_iff_same {r r' : Record} (h : r.domain = r'.domain) :
    r.preimage = r'.preimage ↔ Same (record r.payload) (record r'.payload) := by
  refine Iff.trans ?_ (canonicalJson_eq_iff_same r.value r'.value)
  unfold preimage domainText
  rw [h]
  refine ⟨fun heq => (List.cons.inj (List.append_cancel_left heq)).2, fun heq => ?_⟩
  exact congrArg (fun text => r'.domain.toList ++ ':' :: text) heq

/-- Records of one kind have the same keys. -/
theorem keys_eq {r r' : Record} (h : r.domain = r'.domain) :
    r.payload.map (·.1) = r'.payload.map (·.1) := by
  cases r <;> cases r' <;> first
    | rfl
    | exact absurd h (by simp [domain, ASSET_DOMAIN, IDENTITY_DOMAIN, ORGANIZATION_DOMAIN,
        APPLICATION_DOMAIN])

theorem domain_normalised (r : Record) : r.normalised.domain = r.domain := by
  cases r <;> rfl

/-- Preimages are equal when the records are of one kind and agree in everything that is hashed. -/
theorem preimage_eq_iff_normalised (r r' : Record) :
    r.preimage = r'.preimage ↔ r.normalised = r'.normalised := by
  by_cases h : r.domain = r'.domain
  · rw [preimage_eq_iff_same h, same_record_iff ?_ r.nodup_keys]
    · cases r with
      | asset r =>
          cases r' with
          | asset r' => simp [payload, AssetRecord.payload, normalised]
          | _ => exact absurd h (by simp [domain, ASSET_DOMAIN, IDENTITY_DOMAIN,
              ORGANIZATION_DOMAIN, APPLICATION_DOMAIN])
      | identity r =>
          cases r' with
          | identity r' => simp [payload, IdentityRecord.payload, normalised]
          | _ => exact absurd h (by simp [domain, ASSET_DOMAIN, IDENTITY_DOMAIN,
              ORGANIZATION_DOMAIN, APPLICATION_DOMAIN])
      | organization r =>
          cases r' with
          | organization r' => simp [payload, OrganizationRecord.payload, normalised]
          | _ => exact absurd h (by simp [domain, ASSET_DOMAIN, IDENTITY_DOMAIN,
              ORGANIZATION_DOMAIN, APPLICATION_DOMAIN])
      | application r =>
          cases r' with
          | application r' => simp [payload, ApplicationRecord.payload, normalised]
          | _ => exact absurd h (by simp [domain, ASSET_DOMAIN, IDENTITY_DOMAIN,
              ORGANIZATION_DOMAIN, APPLICATION_DOMAIN])
    · exact keys_eq h
  · refine ⟨fun heq => absurd (domain_eq heq) h, fun heq => absurd ?_ h⟩
    rw [← r.domain_normalised, heq, r'.domain_normalised]

end Record

end Hashers

/-! ## Records out of the database

Their strings have no lone surrogates and their numbers are safe integers. -/

def ofScalar : Scalar → Json
  | .null => .null
  | .number n => .number (.ofNat n.1)
  | .string s => .string (.ofString s)

theorem canonicalJson_ofScalar (v : Scalar) : canonicalJson (ofScalar v) = v.chars := by
  cases v with
  | null =>
      rw [ofScalar, canonicalJson]
      rfl
  | number n =>
      have hlt : n.1 < 10 ^ 21 := lt_trans n.2 (by norm_num)
      rw [ofScalar, canonicalJson, FiniteNumber.chars_ofNat hlt, Scalar.chars_number]
  | string s => rw [ofScalar, canonicalJson, Str.quoteChars_ofString, Scalar.chars_string]

/-- The fields of a record out of the database. -/
def ofFields (fields : List (String × Scalar)) : List (String × Json) :=
  fields.map fun field => (field.1, ofScalar field.2)

theorem fieldCode_ofScalar (field : String × Scalar) (c : Char) (last : Bool)
    (hc : c = if last then '\x7d' else ',') :
    fieldCode (Str.ofString field.1, ofScalar field.2) ++ [c] = OwneX.fieldCode (field, last) := by
  unfold fieldCode fieldChars OwneX.fieldCode scalarCode
  rw [Str.quoteChars_ofString, canonicalJson_ofScalar, hc, List.append_assoc]
  rfl

theorem items_ofFields (fields : List (String × Scalar)) :
    items fieldCode ',' '\x7d'
      (fields.map fun field => (Str.ofString field.1, ofScalar field.2)) = bodyChars fields := by
  induction fields with
  | nil => rfl
  | cons field rest ih =>
      cases rest with
      | nil =>
          have hcode := fieldCode_ofScalar field '\x7d' true rfl
          simpa [items, bodyChars] using hcode
      | cons next rest =>
          have hcode := fieldCode_ofScalar field ',' false rfl
          rw [bodyChars, ← ih, List.isEmpty_cons, ← hcode]
          simp [items]

/-- The canonical text of a record out of the database. -/
theorem canonicalJson_ofFields (fields : List (String × Scalar)) :
    canonicalJson (record (ofFields fields)) = (OwneX.canonicalJson (flat fields)).toList := by
  have hdefined : defined ((ofFields fields).map fun field => (Str.ofString field.1, some field.2)) =
      fields.map fun field => (Str.ofString field.1, ofScalar field.2) := by
    unfold defined ofFields
    induction fields with
    | nil => rfl
    | cons field rest ih => simp
  have hsort : sorted ((ofFields fields).map fun field => (Str.ofString field.1, some field.2)) =
      (sortedFields fields).map fun field => (Str.ofString field.1, ofScalar field.2) := by
    rw [sorted, hdefined, sortedFields, List.map_insertionSort (r := fieldBefore) keyBefore]
    intro field _ field' _
    unfold fieldBefore keyBefore
    rw [Str.sortsBefore_ofString]
  rw [record, canonicalJson_object, hsort, items_ofFields, toList_canonicalJson_flat]

theorem domainHash_ofFields (keccakUtf8 : String → Bytes32) (domain : String)
    (fields : List (String × Scalar)) :
    domainHash keccakUtf8 domain (record (ofFields fields)) =
      OwneX.domainHash keccakUtf8 domain (flat fields) := by
  have hcolon : ":".toList = [':'] := rfl
  have htext : domainText domain (record (ofFields fields)) =
      (OwneX.domainText domain (flat fields)).toList := by
    unfold domainText OwneX.domainText
    rw [canonicalJson_ofFields, String.toList_append, String.toList_append, hcolon,
      List.append_assoc]
    rfl
  rw [domainHash, OwneX.domainHash, htext, String.ofList_toList]

theorem ofScalar_number (n : JsNumber.SafeInt) : ofScalar (.number n) = .number (.ofNat n.1) :=
  rfl

theorem ofScalar_string (s : String) : ofScalar (.string s) = .string (.ofString s) :=
  rfl

theorem ofScalar_ofOption (s : Option String) :
    ofScalar (.ofOption s) = textOrNull (s.map Str.ofString) := by
  cases s <;> rfl

theorem trim_map_ofString (s : Option String) :
    (s.map Str.ofString).map Str.trim = (s.map trim).map Str.ofString := by
  cases s with
  | none => rfl
  | some s => exact congrArg some (Str.trim_ofString s)

def AssetRecord.ofRow (r : OwneX.AssetRecord) : AssetRecord where
  orgId := .ofNat r.orgId.1
  name := .ofString r.name
  assetType := .ofString r.assetType
  serialNumber := r.serialNumber.map .ofString
  invoiceReference := r.invoiceReference.map .ofString
  department := r.department.map .ofString

def IdentityRecord.ofRow (r : OwneX.IdentityRecord) : IdentityRecord where
  displayName := .ofString r.displayName
  email := r.email.map .ofString
  phone := r.phone.map .ofString
  jobTitle := r.jobTitle.map .ofString
  department := r.department.map .ofString

/-- `hashAssetRecord` of a row. -/
theorem hashAssetRecord_ofRow [Str.CaseMapping] (keccakUtf8 : String → Bytes32)
    (r : OwneX.AssetRecord) :
    (Record.asset (.ofRow r)).hash keccakUtf8 = hashAssetRecord keccakUtf8 r := by
  have hpayload : (AssetRecord.ofRow r).payload = ofFields r.payload := by
    simp only [AssetRecord.payload, AssetRecord.ofRow, ofFields, OwneX.AssetRecord.payload,
      List.map_cons, List.map_nil, ofScalar_number, ofScalar_string, ofScalar_ofOption,
      trim_map_ofString, Str.trim_ofString]
  unfold Record.hash hashAssetRecord
  rw [← domainHash_ofFields, ← hpayload]
  rfl

/-- `hashIdentityRecord` of a row. -/
theorem hashIdentityRecord_ofRow [Str.CaseMapping] (keccakUtf8 : String → Bytes32)
    (r : OwneX.IdentityRecord) :
    (Record.identity (.ofRow r)).hash keccakUtf8 = hashIdentityRecord keccakUtf8 r := by
  have hemail : (r.email.map Str.ofString).map (fun email => Str.CaseMapping.lower email.trim) =
      (r.email.map fun email => Js.CaseMapping.toLowerCase (trim email)).map Str.ofString := by
    cases r.email with
    | none => rfl
    | some email =>
        simp only [Option.map_some, Str.trim_ofString, Str.CaseMapping.lower_ofString]
  have hpayload : (IdentityRecord.ofRow r).payload = ofFields r.payload := by
    simp only [IdentityRecord.payload, IdentityRecord.ofRow, hemail, ofFields,
      OwneX.IdentityRecord.payload, List.map_cons, List.map_nil, ofScalar_string,
      ofScalar_ofOption, trim_map_ofString, Str.trim_ofString]
  unfold Record.hash hashIdentityRecord
  rw [← domainHash_ofFields, ← hpayload]
  rfl

end Preimage

/-- What is hashed determines what was hashed: a canonical text its value, up to the order of keys and
    entries that are `undefined`, and a preimage the kind of its record and every field, normalised. -/
theorem anchor_preimages_injective [Js.Str.CaseMapping] :
    (∀ v w : Preimage.Value, Preimage.canonicalJson v.json = Preimage.canonicalJson w.json ↔
      Preimage.Same v.json w.json) ∧
    ∀ r r' : Preimage.Record, r.preimage = r'.preimage ↔ r.normalised = r'.normalised :=
  ⟨Preimage.canonicalJson_eq_iff_same, Preimage.Record.preimage_eq_iff_normalised⟩

end OwneX
