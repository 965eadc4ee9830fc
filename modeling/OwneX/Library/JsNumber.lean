import Mathlib.Data.Nat.Log
import Mathlib.Tactic.NormNum

set_option autoImplicit false

/-! # Natural numbers as JavaScript numbers

`Number(n)` of a big integer is the nearest double, ties to the even one, and so is every product of
two integers. `toNumber` computes it for naturals: up to `2^53` nothing is lost, and above that a
value keeps its 53 leading bits. A `TimeValue` is what `Date.now()` can return, and comparing a
rounded product against one gives the answer of the exact comparison
(`toNumber_mul_le_iff`), because every time value lies below the first rounded number. -/

namespace JsNumber

/-- `n / d`, rounded to the nearest natural number and ties to the even one. -/
def divRoundEven (n d : Nat) : Nat :=
  if 2 * (n % d) < d ∨ (2 * (n % d) = d ∧ n / d % 2 = 0) then n / d else n / d + 1

/-- The double nearest to `n`. -/
def toNumber (n : Nat) : Nat :=
  if n < 2 ^ 53 then n
  else divRoundEven n (2 ^ (Nat.log2 n - 52)) * 2 ^ (Nat.log2 n - 52)

/-- A natural number that a double holds exactly. -/
abbrev SafeInt := { n : Nat // n < 2 ^ 53 }

/-- A number of milliseconds since the epoch that a `Date` can hold. -/
abbrev TimeValue := { ms : Nat // ms ≤ 8640000000000000 }

theorem TimeValue.lt (t : TimeValue) : t.1 < 2 ^ 53 := by
  have h := t.2
  omega

-- A proof inside a definition is a lemma of the file it stands in. The bounds of the numbers that
-- several modules spell out have names instead.
theorem one_safe : 1 < 2 ^ 53 := by decide
theorem two_safe : 2 < 2 ^ 53 := by decide
theorem five_safe : 5 < 2 ^ 53 := by decide
theorem start_le : 1700000000000 ≤ 8640000000000000 := by decide

theorem toNumber_of_lt {n : Nat} (h : n < 2 ^ 53) : toNumber n = n := by
  rw [toNumber, if_pos h]

/-- `Number(..)` of a safe integer is the integer. -/
@[simp] theorem toNumber_safeInt (n : SafeInt) : toNumber n.1 = n.1 :=
  toNumber_of_lt n.2

theorem div_le_divRoundEven (n d : Nat) : n / d ≤ divRoundEven n d := by
  unfold divRoundEven
  split <;> omega

/-- Rounding does not cross `2^53`: the quotient keeps at least 53 bits. -/
theorem le_toNumber {n : Nat} (h : 2 ^ 53 ≤ n) : 2 ^ 53 ≤ toNumber n := by
  rw [toNumber, if_neg (by omega)]
  have hlog : 53 ≤ Nat.log2 n := (Nat.le_log2 (by omega)).2 h
  obtain ⟨e, he⟩ := Nat.exists_eq_add_of_le hlog
  have hbits : Nat.log2 n - 52 = e + 1 := by omega
  rw [hbits]
  have hsplit : 2 ^ 52 * 2 ^ (e + 1) ≤ n := by
    rw [← Nat.pow_add, show 52 + (e + 1) = Nat.log2 n by omega]
    exact Nat.log2_self_le (by omega)
  have hquot : 2 ^ 52 ≤ n / 2 ^ (e + 1) := (Nat.le_div_iff_mul_le (by positivity)).2 hsplit
  calc 2 ^ 53 = 2 ^ 52 * 2 ^ 1 := by norm_num
    _ ≤ divRoundEven n (2 ^ (e + 1)) * 2 ^ (e + 1) :=
        Nat.mul_le_mul (hquot.trans (div_le_divRoundEven _ _))
          (Nat.pow_le_pow_right (by omega) (by omega))

theorem toNumber_eq_zero {n : Nat} : toNumber n = 0 ↔ n = 0 := by
  by_cases h : n < 2 ^ 53
  · rw [toNumber_of_lt h]
  · have hle := le_toNumber (Nat.le_of_not_lt h)
    omega

/-- Only a safe integer is rounded to one. -/
theorem eq_of_toNumber {n : Nat} {m : SafeInt} (h : toNumber n = m.1) : n = m.1 := by
  by_cases hn : n < 2 ^ 53
  · rw [← h, toNumber_of_lt hn]
  · have hle := le_toNumber (Nat.le_of_not_lt hn)
    have hm := m.2
    omega

/-- A product of integers, rounded twice, against a time value. -/
theorem toNumber_mul_le_iff (n k : Nat) (hk : 0 < k) (t : TimeValue) :
    toNumber (toNumber n * k) ≤ t.1 ↔ n * k ≤ t.1 := by
  have ht := t.lt
  by_cases hn : n < 2 ^ 53
  · rw [toNumber_of_lt hn]
    by_cases hprod : n * k < 2 ^ 53
    · rw [toNumber_of_lt hprod]
    · have hle := le_toNumber (Nat.le_of_not_lt hprod)
      constructor <;> intro h <;> omega
  · have hle := le_toNumber (Nat.le_of_not_lt hn)
    have hprod : 2 ^ 53 ≤ toNumber n * k := hle.trans (Nat.le_mul_of_pos_right _ hk)
    have hexact : 2 ^ 53 ≤ n * k :=
      (Nat.le_of_not_lt hn).trans (Nat.le_mul_of_pos_right _ hk)
    have hround := le_toNumber hprod
    constructor <;> intro h <;> omega

end JsNumber
