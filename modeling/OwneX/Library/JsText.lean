import OwneX.Library.JsNumber
import OwneX.Library.JsString
import Mathlib.Data.List.DropRight

set_option autoImplicit false

/-! # Texts that JavaScript programs take apart and put together

Lines and prefixes, `Number(..)` of a string, and `toISOString`, for strings as lists of their
characters. `Number(s)` is the double nearest to the value that a numeric literal spells; here the
exact value is kept (`Literal`) and compared with an integer as its nearest double would be
(`Literal.equals`). -/

namespace Js

open JsNumber

/-- A string, character by character. -/
abbrev Text := List Char

/-- A property of the characters of a text is decided along the text. -/
instance decidableBAll {p : Char → Prop} [DecidablePred p] (s : Text) : Decidable (∀ c ∈ s, p c) :=
  List.decidableBAll p s

instance lawfulBEq_text : LawfulBEq Text :=
  inferInstance

/-! ## Lines and prefixes -/

/-- `s.trim()` -/
def trimText (s : Text) : Text :=
  ((s.dropWhile isWhitespace).reverse.dropWhile isWhitespace).reverse

/-- `s.split("\n")` -/
def lines (s : Text) : List Text :=
  s.splitOn '\n'

/-- `ls.join("\n")` -/
def joinLines (ls : List Text) : Text :=
  ['\n'].intercalate ls

theorem joinLines_cons_cons (l l' : Text) (ls : List Text) :
    joinLines (l :: l' :: ls) = l ++ '\n' :: joinLines (l' :: ls) := by
  unfold joinLines
  rw [List.intercalate_cons_cons, List.append_assoc, List.singleton_append]

@[simp] theorem joinLines_singleton (l : Text) : joinLines [l] = l :=
  List.intercalate_singleton

/-- The first line of a text, and the rest. -/
theorem firstLine_inj {l l' rest rest' : Text} (hl : '\n' ∉ l) (hl' : '\n' ∉ l')
    (h : l ++ '\n' :: rest = l' ++ '\n' :: rest') : l = l' ∧ rest = rest' := by
  have hsplit := congrArg (List.splitOn '\n') h
  rw [List.splitOn_append_cons_self_of_not_mem hl, List.splitOn_append_cons_self_of_not_mem hl',
    List.cons.injEq] at hsplit
  obtain ⟨rfl, hrest⟩ := hsplit
  have hjoined := congrArg ['\n'].intercalate hrest
  rw [List.intercalate_splitOn, List.intercalate_splitOn] at hjoined
  exact ⟨rfl, hjoined⟩

theorem notMem_of_mem_lines {s line : Text} (h : line ∈ lines s) : '\n' ∉ line := by
  unfold lines at h
  induction s generalizing line with
  | nil =>
      rw [List.splitOn_nil, List.mem_singleton] at h
      simp [h]
  | cons c s ih =>
      rw [List.splitOn_cons_eq_if_modifyHead] at h
      split at h
      · rcases List.mem_cons.1 h with rfl | h
        · simp
        · exact ih h
      next hc =>
        obtain ⟨first, rest, hsplit⟩ := List.exists_cons_of_ne_nil (List.splitOn_ne_nil '\n' s)
        rw [hsplit] at h ih
        rcases List.mem_cons.1 h with rfl | h
        · have hfirst : '\n' ∉ first := ih List.mem_cons_self
          have hne : '\n' ≠ c := by
            rintro rfl
            exact hc (beq_self_eq_true _)
          exact List.not_mem_cons_of_ne_of_not_mem hne hfirst
        · exact ih (List.mem_cons_of_mem _ h)

theorem mem_of_mem_trimText {s : Text} {c : Char} (h : c ∈ trimText s) : c ∈ s := by
  unfold trimText at h
  have hfront := (List.dropWhile_sublist _).subset (List.mem_reverse.1 h)
  exact (List.dropWhile_sublist _).subset (List.mem_reverse.1 hfront)

/-- A text that has been trimmed has no white space at its ends. -/
theorem trimText_trimText (s : Text) : trimText (trimText s) = trimText s := by
  have htrim : ∀ s : Text,
      trimText s = (s.dropWhile isWhitespace).rdropWhile isWhitespace := fun _ => rfl
  have hfront : (trimText s).dropWhile isWhitespace = trimText s := by
    refine List.dropWhile_eq_self_iff.2 fun hpos hspace => ?_
    have hfront : trimText s <+: s.dropWhile isWhitespace := List.rdropWhile_prefix ..
    have hpos' : 0 < (s.dropWhile isWhitespace).length := hpos.trans_le hfront.length_le
    rw [hfront.getElem hpos] at hspace
    exact List.dropWhile_get_zero_not isWhitespace s hpos' hspace
  rw [htrim (trimText s), hfront, htrim s]
  exact List.rdropWhile_idempotent ..

/-- `s.slice(start.length)`, if `s.startsWith(start)`. -/
def after? (start : Text) (s : Text) : Option Text :=
  if start.isPrefixOf s then some (s.drop start.length) else none

/-- The characters that `.` does not match in a regular expression. -/
def isLineTerminator (c : Char) : Bool :=
  [10, 13, 8232, 8233].contains c.toNat

/-- The group of `/^(.+) ending$/`. -/
def beforeEnding (s ending : Text) : Option Text :=
  let front := s.take (s.length - ending.length)
  if front ++ ending = s ∧ front ≠ [] ∧ front.all fun c => !isLineTerminator c then some front
  else none

/-- `s.length` -/
def utf16Length (s : Text) : Nat :=
  (s.map fun c => if c.toNat < 65536 then 1 else 2).sum

@[simp] theorem utf16Length_nil : utf16Length [] = 0 := rfl

theorem utf16Length_append (s t : Text) :
    utf16Length (s ++ t) = utf16Length s + utf16Length t := by
  unfold utf16Length
  rw [List.map_append, List.sum_append]

theorem length_le_utf16Length (s : Text) : s.length ≤ utf16Length s := by
  induction s with
  | nil => exact Nat.zero_le _
  | cons c s ih =>
      unfold utf16Length at ih ⊢
      rw [List.map_cons, List.sum_cons, List.length_cons]
      split <;> omega

/-- In the basic plane a character is one unit. -/
theorem utf16Length_eq_length {s : Text} (h : ∀ c ∈ s, c.toNat < 65536) :
    utf16Length s = s.length := by
  induction s with
  | nil => rfl
  | cons c s ih =>
      have hc := h c List.mem_cons_self
      have hs := ih fun d hd => h d (List.mem_cons_of_mem _ hd)
      unfold utf16Length at hs ⊢
      rw [List.map_cons, List.sum_cons, if_pos hc, hs, List.length_cons, Nat.add_comm]

/-- `s.toLowerCase()`, for a text without other letters than those of ASCII. -/
def lowerAscii (s : Text) : Text :=
  s.map Char.toLower

/-! ## Numeric literals -/

/-- The value of a digit, in bases up to 16. -/
def digitValue (c : Char) : Option Nat :=
  let n := c.toNat
  if 48 ≤ n ∧ n ≤ 57 then some (n - 48)
  else if 97 ≤ n ∧ n ≤ 102 then some (n - 87)
  else if 65 ≤ n ∧ n ≤ 70 then some (n - 55)
  else none

def isDigit (base : Nat) (c : Char) : Bool :=
  match digitValue c with
  | none => false
  | some d => decide (d < base)

/-- The number that digits spell, the most significant first. -/
def digitsValue (base : Nat) (cs : List Char) : Nat :=
  cs.foldl (fun n c => n * base + (digitValue c).getD 0) 0

/-- The rational `num / den`, or its negative. -/
structure Literal where
  negative : Bool
  num : Nat
  den : Nat
deriving DecidableEq

/-- `0x..`, `0o..` and `0b..`, behind the prefix. -/
def integerLiteral (base : Nat) (cs : List Char) : Option Literal :=
  if cs ≠ [] ∧ cs.all (isDigit base) then some ⟨false, digitsValue base cs, 1⟩ else none

/-- What follows the `e` of a decimal literal: whether it is negative, and its digits. -/
def exponentPart : List Char → Option (Bool × Nat)
  | [] => some (false, 0)
  | e :: rest =>
      if e = 'e' ∨ e = 'E' then
        let (negative, digits) := match rest with
          | '-' :: digits => (true, digits)
          | '+' :: digits => (false, digits)
          | digits => (false, digits)
        if digits ≠ [] ∧ digits.all (isDigit 10) then some (negative, digitsValue 10 digits)
        else none
      else none

def decimalLiteral (negative : Bool) (cs : List Char) : Option Literal :=
  let whole := cs.takeWhile (isDigit 10)
  let rest := cs.dropWhile (isDigit 10)
  let (fraction, rest) := match rest with
    | '.' :: rest => (rest.takeWhile (isDigit 10), rest.dropWhile (isDigit 10))
    | rest => ([], rest)
  if whole ++ fraction = [] then none
  else
    match exponentPart rest with
    | none => none
    | some (down, exponent) =>
        let num := digitsValue 10 (whole ++ fraction)
        let den := 10 ^ fraction.length
        some (if down then ⟨negative, num, den * 10 ^ exponent⟩
          else ⟨negative, num * 10 ^ exponent, den⟩)

/-- `Number(s)`, for a string that spells a finite value: not `NaN`, and not `Infinity`. -/
def number (s : Text) : Option Literal :=
  match trimText s with
  | [] => some ⟨false, 0, 1⟩
  | '0' :: 'x' :: cs => integerLiteral 16 cs
  | '0' :: 'X' :: cs => integerLiteral 16 cs
  | '0' :: 'o' :: cs => integerLiteral 8 cs
  | '0' :: 'O' :: cs => integerLiteral 8 cs
  | '0' :: 'b' :: cs => integerLiteral 2 cs
  | '0' :: 'B' :: cs => integerLiteral 2 cs
  | '-' :: cs => decimalLiteral true cs
  | '+' :: cs => decimalLiteral false cs
  | cs => decimalLiteral false cs

/-- The exponent of the leading bit of `num / den`. -/
def leadingBit (num den : Nat) : Int :=
  let k : Int := Int.ofNat (Nat.log2 num) - Int.ofNat (Nat.log2 den)
  if den * 2 ^ k.toNat ≤ num * 2 ^ (-k).toNat then k else k - 1

/-- Whether the double nearest to the literal is the integer `n`. A double has 53 bits, and none
    below `2 ^ (-1074)`. -/
def Literal.equals (l : Literal) (n : Nat) : Bool :=
  let e : Int := max (-1074) (leadingBit l.num l.den - 52)
  let mantissa := divRoundEven (l.num * 2 ^ (-e).toNat) (l.den * 2 ^ e.toNat)
  decide (mantissa * 2 ^ e.toNat = n * 2 ^ (-e).toNat) && (!l.negative || n == 0)

/-- The nearest double as a natural number, if it is one. -/
def Literal.toNat? (l : Literal) : Option Nat :=
  let e : Int := max (-1074) (leadingBit l.num l.den - 52)
  let mantissa := divRoundEven (l.num * 2 ^ (-e).toNat) (l.den * 2 ^ e.toNat)
  let n := mantissa * 2 ^ e.toNat / 2 ^ (-e).toNat
  if mantissa * 2 ^ e.toNat = n * 2 ^ (-e).toNat ∧ n < 2 ^ 1024 ∧ (!l.negative || n == 0) then some n
  else none

example : ["7", "1e3", " 0x10 ", "-0", "2.5", "-1"].map
    (fun s => (number s.toList).bind Literal.toNat?) =
      [some 7, some 1000, some 16, some 0, none, none] := by decide +kernel

/-! ## Dates -/

/-- The last `width` decimal digits. -/
def padded (width n : Nat) : Text :=
  (List.range width).reverse.map fun i => Char.ofNat (48 + n / 10 ^ i % 10)

/-- Year, month and day of a day since 1970-01-01. -/
def civil (days : Nat) : Nat × Nat × Nat :=
  let z := days + 719468
  let era := z / 146097
  let doe := z % 146097
  let yoe := (doe - doe / 1460 + doe / 36524 - doe / 146096) / 365
  let doy := doe - (365 * yoe + yoe / 4 - yoe / 100)
  let mp := (5 * doy + 2) / 153
  let month := if mp < 10 then mp + 3 else mp - 9
  (yoe + era * 400 + (if month ≤ 2 then 1 else 0), month, doy - (153 * mp + 2) / 5 + 1)

/-- `new Date(ms).toISOString()` -/
def toISOString (t : TimeValue) : Text :=
  let (year, month, day) := civil (t.1 / 86400000)
  let ms := t.1 % 86400000
  (if year ≤ 9999 then padded 4 year else '+' :: padded 6 year)
    ++ '-' :: padded 2 month ++ '-' :: padded 2 day
    ++ 'T' :: padded 2 (ms / 3600000) ++ ':' :: padded 2 (ms / 60000 % 60)
    ++ ':' :: padded 2 (ms / 1000 % 60) ++ '.' :: padded 3 (ms % 1000) ++ ['Z']

theorem notMem_padded (width n : Nat) : '\n' ∉ padded width n := by
  intro h
  obtain ⟨i, -, hi⟩ := List.mem_map.1 h
  have hdigits : ∀ d < 10, Char.ofNat (48 + d) ≠ '\n' := by decide
  exact hdigits _ (Nat.mod_lt _ (by decide)) hi

theorem notMem_toISOString (t : TimeValue) : '\n' ∉ toISOString t := by
  unfold toISOString
  simp only [List.mem_append, List.mem_cons, notMem_padded, List.not_mem_nil, or_false]
  split <;> simp [notMem_padded]

/-- The time that lies `ms` later, if a `Date` can hold it. -/
def later (t : TimeValue) (ms : Nat) : Option TimeValue :=
  if h : t.1 + ms ≤ 8640000000000000 then some ⟨t.1 + ms, h⟩ else none

theorem later_eq_some {t t' : TimeValue} {ms : Nat} (h : later t ms = some t') :
    t'.1 = t.1 + ms := by
  unfold later at h
  split at h
  · cases h
    rfl
  · cases h

example : toISOString ⟨1709210096789, by decide⟩ = "2024-02-29T12:34:56.789Z".toList := by
  decide +kernel

example : (number " 3.1337e4\t".toList).map (·.equals 31337) = some true := by decide +kernel

/-! ## Bytes -/

/-- `bytes.toString("hex")` of a buffer that holds `n`, in `digits` digits. -/
def toHex (digits n : Nat) : Text :=
  (List.range digits).reverse.map fun i => hexDigit (n / 16 ^ i % 16)

/-- `bytes.toString("hex")` -/
def hexOfBytes (bytes : List UInt8) : Text :=
  bytes.flatMap fun b => [hexDigit (b.toNat / 16), hexDigit (b.toNat % 16)]

end Js
