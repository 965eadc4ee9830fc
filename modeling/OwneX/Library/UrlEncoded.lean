import OwneX.Library.JsText

set_option autoImplicit false

/-! # Query strings

What `URLSearchParams` writes into a URL (`serializeParams`) and what whoever receives the URL reads
from it (`parseParams`): the `application/x-www-form-urlencoded` format. A parameter arrives as it
was set (`parseParams_serializeParams`). -/

namespace Js

/-! ## One byte -/

/-- The bytes that stand for themselves: letters, digits and `*-._`. -/
def isUnreserved (b : UInt8) : Bool :=
  (48 ≤ b && b ≤ 57) || (65 ≤ b && b ≤ 90) || (97 ≤ b && b ≤ 122) || b == 42 || b == 45 || b == 46
    || b == 95

def upperHexDigit (n : Nat) : Char :=
  Char.ofNat (if n < 10 then 48 + n else 55 + n)

def encodeByte (b : UInt8) : Text :=
  if b = 32 then ['+']
  else if isUnreserved b then [Char.ofNat b.toNat]
  else ['%', upperHexDigit (b.toNat / 16), upperHexDigit (b.toNat % 16)]

/-- The bytes that a text spells. A `%` that no two digits follow is itself. -/
def unescape : Text → List UInt8
  | [] => []
  | '+' :: cs => 32 :: unescape cs
  | '%' :: high :: low :: cs =>
      match digitValue high, digitValue low with
      | some h, some l => UInt8.ofNat (16 * h + l) :: unescape cs
      | _, _ => 37 :: unescape (high :: low :: cs)
  | c :: cs => String.utf8EncodeChar c ++ unescape cs

/-- What `encodeByte` makes of a byte, by cases. -/
theorem encodeByte_cases : ∀ n < 256,
    (isUnreserved (.ofNat n) = true →
      Char.ofNat n ≠ '+' ∧ Char.ofNat n ≠ '%' ∧ Char.ofNat n ≠ '&' ∧ Char.ofNat n ≠ '=' ∧
        String.utf8EncodeChar (Char.ofNat n) = [.ofNat n]) ∧
    digitValue (upperHexDigit (n / 16)) = some (n / 16) ∧
    digitValue (upperHexDigit (n % 16)) = some (n % 16) ∧
    ∀ c ∈ encodeByte (.ofNat n), c ≠ '&' ∧ c ≠ '=' := by decide +kernel

theorem unescape_encodeByte (b : UInt8) (cs : Text) :
    unescape (encodeByte b ++ cs) = b :: unescape cs := by
  obtain ⟨hkept, hhigh, hlow, -⟩ := encodeByte_cases b.toNat b.toNat_lt
  rw [UInt8.ofNat_toNat] at hkept
  unfold encodeByte
  split
  next hspace =>
      rw [hspace]
      rfl
  · split
    next h =>
        obtain ⟨hplus, hpercent, -, -, hbytes⟩ := hkept h
        show unescape (Char.ofNat b.toNat :: cs) = _
        rw [unescape, hbytes]
        · rfl
        · exact hplus
        · intro _ _ _ heq _
          exact hpercent heq
    · show unescape ('%' :: _ :: _ :: cs) = _
      rw [unescape, hhigh, hlow]
      simp only
      rw [Nat.div_add_mod, UInt8.ofNat_toNat]

/-! ## Names and values -/

def urlEncode (s : Text) : Text :=
  (s.flatMap String.utf8EncodeChar).flatMap encodeByte

/-- `none` stands for what is not UTF-8. -/
def urlDecode (s : Text) : Option Text :=
  (ByteArray.utf8Decode? (unescape s).toByteArray).map Array.toList

theorem unescape_flatMap (bytes : List UInt8) : unescape (bytes.flatMap encodeByte) = bytes := by
  induction bytes with
  | nil => rfl
  | cons b bytes ih => rw [List.flatMap_cons, unescape_encodeByte, ih]

theorem urlDecode_urlEncode (s : Text) : urlDecode (urlEncode s) = some s := by
  have hdecode : (s.flatMap String.utf8EncodeChar).toByteArray.utf8Decode? = some s.toArray :=
    List.utf8Decode?_utf8Encode
  rw [urlDecode, urlEncode, unescape_flatMap, hdecode]
  rfl

/-- No code contains a separator. -/
theorem ne_of_mem_urlEncode {s : Text} {c : Char} (h : c ∈ urlEncode s) : c ≠ '&' ∧ c ≠ '=' := by
  obtain ⟨b, -, hc⟩ := List.mem_flatMap.1 h
  have hcases := (encodeByte_cases b.toNat b.toNat_lt).2.2.2
  rw [UInt8.ofNat_toNat] at hcases
  exact hcases c hc

/-! ## Lists of parameters -/

def serializeParam (p : Text × Text) : Text :=
  urlEncode p.1 ++ '=' :: urlEncode p.2

/-- What follows the `?`. -/
def serializeParams (ps : List (Text × Text)) : Text :=
  ['&'].intercalate (ps.map serializeParam)

def parseParam (s : Text) : Option (Text × Text) :=
  match urlDecode (s.takeWhile (· ≠ '=')), urlDecode ((s.dropWhile (· ≠ '=')).drop 1) with
  | some name, some value => some (name, value)
  | _, _ => none

def parseParams (s : Text) : Option (List (Text × Text)) :=
  ((s.splitOn '&').filter (· ≠ [])).mapM parseParam

theorem parseParam_serializeParam (p : Text × Text) : parseParam (serializeParam p) = some p := by
  have hname : ∀ c ∈ urlEncode p.1, decide (c ≠ '=') = true := fun c hc =>
    decide_eq_true (ne_of_mem_urlEncode hc).2
  unfold parseParam serializeParam
  rw [List.takeWhile_append_of_pos hname, List.dropWhile_append_of_pos hname]
  simp [urlDecode_urlEncode]

/-- Whoever receives the parameters reads what was set. -/
theorem parseParams_serializeParams (ps : List (Text × Text)) :
    parseParams (serializeParams ps) = some ps := by
  have hkept : ∀ ps : List (Text × Text),
      (ps.map serializeParam).filter (· ≠ []) = ps.map serializeParam := by
    intro ps
    refine List.filter_eq_self.2 fun l hl => ?_
    obtain ⟨p, -, rfl⟩ := List.mem_map.1 hl
    simp [serializeParam]
  cases ps with
  | nil => rfl
  | cons p ps =>
      have hfree : ∀ l ∈ (p :: ps).map serializeParam, '&' ∉ l := by
        intro l hl hmem
        obtain ⟨q, -, rfl⟩ := List.mem_map.1 hl
        rcases List.mem_append.1 hmem with hmem | hmem
        · exact (ne_of_mem_urlEncode hmem).1 rfl
        · rcases List.mem_cons.1 hmem with heq | hmem
          · exact absurd heq (by decide)
          · exact (ne_of_mem_urlEncode hmem).1 rfl
      unfold parseParams serializeParams
      rw [List.splitOn_intercalate '&' hfree (by simp), hkept]
      have hread : ∀ qs : List (Text × Text), (qs.map serializeParam).mapM parseParam = some qs := by
        intro qs
        induction qs with
        | nil => rfl
        | cons q qs ih =>
            rw [List.map_cons, List.mapM_cons, parseParam_serializeParam, ih]
            rfl
      exact hread _

end Js
