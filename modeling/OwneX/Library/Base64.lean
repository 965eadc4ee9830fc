import OwneX.Library.JsText
import Mathlib.Data.List.TakeWhile

set_option autoImplicit false

/-! # Base64

`buffer.toString("base64url")`, and `Buffer.from(s, "base64")`, which reads both alphabets, skips
what belongs to neither and stops at the padding. -/

namespace Js

def base64Digit (n : Nat) : Char :=
  Char.ofNat
    (if n < 26 then 65 + n
    else if n < 52 then 71 + n
    else if n < 62 then n - 4
    else if n = 62 then 45
    else 95)

def base64Value (c : Char) : Option Nat :=
  let n := c.toNat
  if 65 ≤ n ∧ n ≤ 90 then some (n - 65)
  else if 97 ≤ n ∧ n ≤ 122 then some (n - 71)
  else if 48 ≤ n ∧ n ≤ 57 then some (n + 4)
  else if n = 45 ∨ n = 43 then some 62
  else if n = 95 ∨ n = 47 then some 63
  else none

/-- The digits of some bytes, each below 64. -/
def digitsOfBytes : List UInt8 → List Nat
  | [] => []
  | [a] => [a.toNat / 4, a.toNat % 4 * 16]
  | [a, b] => [a.toNat / 4, a.toNat % 4 * 16 + b.toNat / 16, b.toNat % 16 * 4]
  | a :: b :: c :: rest =>
      a.toNat / 4 :: (a.toNat % 4 * 16 + b.toNat / 16) :: (b.toNat % 16 * 4 + c.toNat / 64) ::
        c.toNat % 64 :: digitsOfBytes rest

/-- The bytes that some digits spell. -/
def bytesOfDigits : List Nat → List UInt8
  | p :: q :: r :: s :: rest =>
      .ofNat (p * 4 + q / 16) :: .ofNat (q % 16 * 16 + r / 4) :: .ofNat (r % 4 * 64 + s) ::
        bytesOfDigits rest
  | [p, q, r] => [.ofNat (p * 4 + q / 16), .ofNat (q % 16 * 16 + r / 4)]
  | [p, q] => [.ofNat (p * 4 + q / 16)]
  | _ => []

/-- `buffer.toString("base64url")` -/
def toBase64url (bytes : List UInt8) : Text :=
  (digitsOfBytes bytes).map base64Digit

/-- `Buffer.from(s, "base64")` and `Buffer.from(s, "base64url")` -/
def fromBase64 (s : Text) : List UInt8 :=
  bytesOfDigits ((s.takeWhile (· ≠ '=')).filterMap base64Value)

theorem base64Value_digit :
    ∀ n < 64, base64Value (base64Digit n) = some n ∧ base64Digit n ≠ '=' := by decide

theorem lt_of_mem_digitsOfBytes {bytes : List UInt8} {n : Nat} (h : n ∈ digitsOfBytes bytes) :
    n < 64 := by
  induction bytes using digitsOfBytes.induct with
  | case1 => cases h
  | case2 a =>
      have ha := a.toNat_lt
      simp only [digitsOfBytes, List.mem_cons, List.not_mem_nil, or_false] at h
      omega
  | case3 a b =>
      have ha := a.toNat_lt
      have hb := b.toNat_lt
      simp only [digitsOfBytes, List.mem_cons, List.not_mem_nil, or_false] at h
      omega
  | case4 a b c rest ih =>
      have ha := a.toNat_lt
      have hb := b.toNat_lt
      have hc := c.toNat_lt
      simp only [digitsOfBytes, List.mem_cons] at h
      rcases h with h | h | h | h | h
      · omega
      · omega
      · omega
      · omega
      · exact ih h

/-- Only digits of the alphabet are written. -/
theorem notMem_toBase64url {c : Char} (h : base64Value c = none) (bytes : List UInt8) :
    c ∉ toBase64url bytes := by
  intro hc
  obtain ⟨n, hn, rfl⟩ := List.mem_map.1 hc
  rw [(base64Value_digit n (lt_of_mem_digitsOfBytes hn)).1] at h
  cases h

theorem length_digitsOfBytes (bytes : List UInt8) :
    (digitsOfBytes bytes).length = (bytes.length * 4 + 2) / 3 := by
  induction bytes using digitsOfBytes.induct with
  | case1 => rfl
  | case2 a => simp [digitsOfBytes]
  | case3 a b => simp [digitsOfBytes]
  | case4 a b c rest ih =>
      simp only [digitsOfBytes, List.length_cons, ih]
      omega

/-- Four characters for three bytes. -/
theorem utf16Length_toBase64url (bytes : List UInt8) :
    utf16Length (toBase64url bytes) = (bytes.length * 4 + 2) / 3 := by
  have hascii : ∀ n < 64, (base64Digit n).toNat < 65536 := by decide
  have hplane : ∀ c ∈ toBase64url bytes, c.toNat < 65536 := by
    intro c hc
    obtain ⟨n, hn, rfl⟩ := List.mem_map.1 hc
    exact hascii n (lt_of_mem_digitsOfBytes hn)
  rw [utf16Length_eq_length hplane, toBase64url, List.length_map, length_digitsOfBytes]

theorem bytesOfDigits_digitsOfBytes (bytes : List UInt8) :
    bytesOfDigits (digitsOfBytes bytes) = bytes := by
  have hbyte : ∀ {b : UInt8} {n : Nat}, n = b.toNat → UInt8.ofNat n = b := fun h => by
    rw [h, UInt8.ofNat_toNat]
  induction bytes using digitsOfBytes.induct with
  | case1 => rfl
  | case2 a =>
      have ha := a.toNat_lt
      rw [digitsOfBytes, bytesOfDigits, hbyte (b := a) (by omega)]
  | case3 a b =>
      have ha := a.toNat_lt
      have hb := b.toNat_lt
      rw [digitsOfBytes, bytesOfDigits, hbyte (b := a) (by omega), hbyte (b := b) (by omega)]
  | case4 a b c rest ih =>
      have ha := a.toNat_lt
      have hb := b.toNat_lt
      have hc := c.toNat_lt
      rw [digitsOfBytes, bytesOfDigits, ih, hbyte (b := a) (by omega), hbyte (b := b) (by omega),
        hbyte (b := c) (by omega)]

/-- What was encoded is decoded. -/
theorem fromBase64_toBase64url (bytes : List UInt8) : fromBase64 (toBase64url bytes) = bytes := by
  have hpadding : (toBase64url bytes).takeWhile (· ≠ '=') = toBase64url bytes := by
    refine List.takeWhile_eq_self_iff.2 fun c hc => ?_
    obtain ⟨n, hn, rfl⟩ := List.mem_map.1 hc
    exact decide_eq_true (base64Value_digit n (lt_of_mem_digitsOfBytes hn)).2
  have hdigits : (toBase64url bytes).filterMap base64Value = digitsOfBytes bytes := by
    rw [toBase64url, List.filterMap_map]
    refine (List.filterMap_congr fun n hn => ?_).trans List.filterMap_some
    exact (base64Value_digit n (lt_of_mem_digitsOfBytes hn)).1
  rw [fromBase64, hpadding, hdigits, bytesOfDigits_digitsOfBytes]

end Js
