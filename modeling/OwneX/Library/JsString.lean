import OwneX.Library.PrefixCode
import Mathlib.Data.List.Sort

set_option autoImplicit false

/-! # Strings as JavaScript handles them

The order of `Array.prototype.sort` compares UTF-16 code units, `trim` takes white space and line
terminators off both ends, and `JSON.stringify` quotes a string. The strings themselves are sequences
of Unicode scalar values: a database cannot hold a lone surrogate. Of `toLowerCase` only what it does
to ASCII is known (`CaseMapping`). -/

namespace Js

/-! ## Code units -/

def codeUnits (s : String) : List Nat :=
  s.toList.flatMap fun c =>
    if c.toNat < 65536 then [c.toNat]
    else [55296 + (c.toNat - 65536) / 1024, 56320 + (c.toNat - 65536) % 1024]

/-- The order of `sort()`. -/
def sortsBefore (s t : String) : Bool :=
  decide (¬ codeUnits t < codeUnits s)

/-- The order on code units. -/
def unitsBefore (l m : List Nat) : Bool :=
  decide (¬ m < l)

theorem sortsBefore_eq (s t : String) : sortsBefore s t = unitsBefore (codeUnits s) (codeUnits t) :=
  rfl

theorem unitsBefore_total (l m : List Nat) : unitsBefore l m = true ∨ unitsBefore m l = true :=
  (List.le_total l m).imp (fun h => decide_eq_true h) (fun h => decide_eq_true h)

theorem unitsBefore_trans {l m n : List Nat} (h : unitsBefore l m = true)
    (h' : unitsBefore m n = true) : unitsBefore l n = true :=
  decide_eq_true (List.le_trans (of_decide_eq_true h) (of_decide_eq_true h'))

theorem unitsBefore_antisymm {l m : List Nat} (h : unitsBefore l m = true)
    (h' : unitsBefore m l = true) : l = m :=
  List.le_antisymm (of_decide_eq_true h) (of_decide_eq_true h')

/-! ## White space -/

/-- A white space character or a line terminator. -/
def isWhitespace (c : Char) : Bool :=
  (9 ≤ c.toNat && c.toNat ≤ 13) || (8192 ≤ c.toNat && c.toNat ≤ 8202)
    || [32, 160, 5760, 8232, 8233, 8239, 8287, 12288, 65279].contains c.toNat

def trim (s : String) : String :=
  let front := s.toList.dropWhile isWhitespace
  String.ofList (front.reverse.dropWhile isWhitespace).reverse

/-! ## `JSON.stringify` of a string -/

/-- The hexadecimal digit of a value below 16. -/
def hexDigit (n : Nat) : Char :=
  Char.ofNat (if n < 10 then 48 + n else 87 + n)

/-- How a character is written between the quotes. -/
def escape (c : Char) : List Char :=
  match c.toNat with
  | 34 => ['\\', '"']
  | 92 => ['\\', '\\']
  | 8 => ['\\', 'b']
  | 9 => ['\\', 't']
  | 10 => ['\\', 'n']
  | 12 => ['\\', 'f']
  | 13 => ['\\', 'r']
  | n => if n < 32 then ['\\', 'u', '0', '0', hexDigit (n / 16), hexDigit (n % 16)] else [c]

def quoteChars (s : String) : List Char :=
  '"' :: (s.toList.flatMap escape ++ ['"'])

/-- `JSON.stringify(s)` -/
def quote (s : String) : String :=
  String.ofList (quoteChars s)

/-- The value of a hexadecimal digit. -/
def hexValue (c : Char) : Nat :=
  if c.toNat < 58 then c.toNat - 48 else c.toNat - 87

/-- Reads one character back. -/
def readEscape : List Char → Option (Char × List Char)
  | '\\' :: 'u' :: _ :: _ :: high :: low :: rest =>
      some (Char.ofNat (16 * hexValue high + hexValue low), rest)
  | '\\' :: 'b' :: rest => some (Char.ofNat 8, rest)
  | '\\' :: 't' :: rest => some (Char.ofNat 9, rest)
  | '\\' :: 'n' :: rest => some (Char.ofNat 10, rest)
  | '\\' :: 'f' :: rest => some (Char.ofNat 12, rest)
  | '\\' :: 'r' :: rest => some (Char.ofNat 13, rest)
  | '\\' :: c :: rest => some (c, rest)
  | c :: rest => some (c, rest)
  | [] => none

theorem eq_ofNat {c : Char} {n : Nat} (h : c.toNat = n) : c = Char.ofNat n := by
  rw [← h, Char.ofNat_toNat]

theorem readEscape_escape (c : Char) (x : List Char) : readEscape (escape c ++ x) = some (c, x) := by
  unfold escape
  split
  next h => rw [eq_ofNat h]; rfl
  next h => rw [eq_ofNat h]; rfl
  next h => rw [eq_ofNat h]; rfl
  next h => rw [eq_ofNat h]; rfl
  next h => rw [eq_ofNat h]; rfl
  next h => rw [eq_ofNat h]; rfl
  next h => rw [eq_ofNat h]; rfl
  next hslash _ _ _ _ _ =>
      split
      next hcontrol =>
          have hdigits : ∀ n < 32,
              16 * hexValue (hexDigit (n / 16)) + hexValue (hexDigit (n % 16)) = n := by decide
          show some (Char.ofNat _, x) = _
          rw [hdigits _ hcontrol, Char.ofNat_toNat]
      · have hne : c ≠ '\\' := fun heq => hslash (by rw [heq]; rfl)
        show readEscape (c :: x) = _
        unfold readEscape
        split <;> simp_all

/-- No character is written with a quotation mark in front. -/
theorem escape_append_ne (c : Char) (x y : List Char) : escape c ++ x ≠ '"' :: y := by
  intro heq
  have hhead : (escape c ++ x).head? = some '"' := by rw [heq]; rfl
  unfold escape at hhead
  split at hhead
  case h_8 _ hquote _ _ _ _ _ _ =>
      split at hhead
      · cases hhead
      · exact hquote (by rw [Option.some.inj hhead]; rfl)
  all_goals cases hhead

/-- A quoted string can be read off the front of a text. -/
theorem readable_quoteChars : Readable quoteChars := by
  have hescape : Readable escape := .of_read readEscape readEscape_escape
  have hbody : Readable fun l : List Char => l.flatMap escape ++ ['"'] :=
    hescape.delimited escape_append_ne
  exact (hbody.after ['"']).comp (f := String.toList) fun s t h => String.toList_injective h

/-! ## Lower case -/

/-- The case mapping of Unicode, of which only its effect on ASCII is used. -/
class CaseMapping where
  toLowerCase : String → String
  ascii : ∀ s : String, (∀ c ∈ s.toList, c.toNat < 128) → toLowerCase s = s.toLower

end Js
