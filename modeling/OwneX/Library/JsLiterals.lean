import OwneX.Library.JsDecimal
import OwneX.Library.JsText

set_option autoImplicit false

/-! # What is written is read back

Lines that are joined come apart again, a line that starts with its label is told from the lines
with other labels, and `Number(..)` reads a whole number that was written into a text. -/

namespace Js

open JsNumber

/-! ## Lines -/

theorem lines_joinLines {ls : List Text} (h : ∀ line ∈ ls, '\n' ∉ line) (hne : ls ≠ []) :
    lines (joinLines ls) = ls :=
  List.splitOn_intercalate '\n' h hne

/-! ## Labels -/

@[simp] theorem after?_append (label value : Text) : after? label (label ++ value) = some value := by
  unfold after?
  rw [if_pos (List.isPrefixOf_iff_prefix.2 (List.prefix_append _ _)), List.drop_left]

theorem after?_eq_none {label line : Text} (h : ¬label <+: line) : after? label line = none := by
  unfold after?
  rw [if_neg fun hfront => h (List.isPrefixOf_iff_prefix.1 hfront)]

/-- Neither text begins with the other. -/
def Apart (s t : Text) : Prop :=
  ¬s <+: t ∧ ¬t <+: s

instance (s t : Text) : Decidable (Apart s t) :=
  inferInstanceAs (Decidable (¬_ ∧ ¬_))

theorem Apart.not_begins {s t : Text} (h : Apart s t) (rest : Text) : ¬s <+: t ++ rest := by
  intro hfront
  rcases List.prefix_or_prefix_of_prefix hfront (List.prefix_append t rest) with hst | hts
  · exact h.1 hst
  · exact h.2 hts

/-! ## White space -/

theorem trimText_eq_of_ends {s : Text} (hfirst : ∀ c ∈ s.head?, isWhitespace c = false)
    (hlast : ∀ c ∈ s.getLast?, isWhitespace c = false) : trimText s = s := by
  have hdrop : ∀ {s : Text}, (∀ c ∈ s.head?, isWhitespace c = false) →
      s.dropWhile isWhitespace = s := by
    intro s hs
    cases s with
    | nil => rfl
    | cons c s => rw [List.dropWhile_cons, hs c rfl, if_neg Bool.false_ne_true]
  have hback : ∀ c ∈ s.reverse.head?, isWhitespace c = false := by
    rwa [List.head?_reverse]
  unfold trimText
  rw [hdrop hfirst, hdrop hback, List.reverse_reverse]

theorem trimText_eq_self {s : Text} (h : ∀ c ∈ s, isWhitespace c = false) : trimText s = s :=
  trimText_eq_of_ends (fun c hc => h c (List.mem_of_mem_head? hc))
    fun c hc => h c (List.mem_of_mem_getLast? hc)

/-! ## Whole numbers -/

theorem digitValue_of_isDigit {c : Char} (h : c.isDigit = true) :
    digitValue c = some (c.toNat - 48) ∧ c.toNat - 48 < 10 := by
  simp only [Char.isDigit, Bool.and_eq_true, decide_eq_true_eq] at h
  have hlow : 48 ≤ c.toNat := h.1
  have hhigh : c.toNat ≤ 57 := h.2
  unfold digitValue
  rw [if_pos ⟨hlow, hhigh⟩]
  exact ⟨rfl, by omega⟩

theorem isDigit_ten {c : Char} (h : c.isDigit = true) : isDigit 10 c = true := by
  obtain ⟨hvalue, hlt⟩ := digitValue_of_isDigit h
  simp [isDigit, hvalue, hlt]

theorem digitsValue_toDigits (n : Nat) : digitsValue 10 (Nat.toDigits 10 n) = n := by
  have hfold : ∀ (cs : List Char) (init : Nat), (∀ c ∈ cs, c.isDigit = true) →
      cs.foldl (fun n c => n * 10 + (digitValue c).getD 0) init = Nat.ofDigitChars 10 cs init := by
    intro cs
    induction cs with
    | nil => simp
    | cons c cs ih =>
        intro init h
        rw [List.foldl_cons, ih _ fun d hd => h d (List.mem_cons_of_mem _ hd),
          Nat.ofDigitChars_cons, (digitValue_of_isDigit (h c List.mem_cons_self)).1, Nat.mul_comm]
        rfl
  unfold digitsValue
  rw [hfold _ 0 fun c hc => isDigit_toDigits hc, Nat.ofDigitChars_ten_toDigits]

theorem isWhitespace_of_isDigit {c : Char} (h : c.isDigit = true) : isWhitespace c = false := by
  simp only [Char.isDigit, Bool.and_eq_true, decide_eq_true_eq] at h
  have hlow : 48 ≤ c.toNat := h.1
  have hhigh : c.toNat ≤ 57 := h.2
  have hall : ∀ n < 58, 48 ≤ n → isWhitespace (Char.ofNat n) = false := by decide
  have hchar := hall c.toNat (by omega) hlow
  rwa [Char.ofNat_toNat] at hchar

theorem trimText_digits {cs : List Char} (h : ∀ c ∈ cs, c.isDigit = true) : trimText cs = cs :=
  trimText_eq_self fun c hc => isWhitespace_of_isDigit (h c hc)

/-- Digits are a decimal literal without a point and an exponent. -/
theorem decimalLiteral_digits {cs : List Char} (h : ∀ c ∈ cs, c.isDigit = true) (hne : cs ≠ []) :
    decimalLiteral false cs = some ⟨false, digitsValue 10 cs, 1⟩ := by
  have hall : ∀ c ∈ cs, isDigit 10 c = true := fun c hc => isDigit_ten (h c hc)
  have hwhole : cs.takeWhile (isDigit 10) = cs := List.takeWhile_eq_self_iff.2 hall
  have hrest : cs.dropWhile (isDigit 10) = [] := List.dropWhile_eq_nil_iff.2 hall
  simp [decimalLiteral, hwhole, hrest, hne, exponentPart]

theorem number_digits {cs : List Char} (h : ∀ c ∈ cs, c.isDigit = true) (hne : cs ≠ []) :
    number cs = some ⟨false, digitsValue 10 cs, 1⟩ := by
  unfold number
  rw [trimText_digits h]
  -- None of the letters and signs that `Number` looks for is a digit.
  split
  · exact absurd rfl hne
  all_goals first
    | exact decimalLiteral_digits h hne
    | exact absurd (h _ List.mem_cons_self) (by decide)
    | exact absurd (h _ (List.mem_cons_of_mem _ List.mem_cons_self)) (by decide)

theorem number_toDigits (n : Nat) : number (Nat.toDigits 10 n) = some ⟨false, n, 1⟩ := by
  rw [number_digits (fun c hc => isDigit_toDigits hc) Nat.toDigits_ne_nil, digitsValue_toDigits]

theorem leadingBit_one {n : Nat} (h : n < 2 ^ 53) : leadingBit n 1 ≤ 52 := by
  have hlog : Nat.log2 n ≤ 52 := by
    rcases Nat.eq_zero_or_pos n with rfl | hpos
    · simp
    · have hlt := (Nat.log2_lt hpos.ne').2 h
      omega
  have hone : Nat.log2 1 = 0 := by decide
  unfold leadingBit
  rw [hone]
  dsimp only
  split <;> simp <;> omega

/-- A whole number below `2 ^ 53` is its own nearest double. -/
theorem Literal.equals_self {n : Nat} (h : n < 2 ^ 53) :
    Literal.equals ⟨false, n, 1⟩ n = true := by
  have hbit := leadingBit_one h
  have hsign : (max (-1074) (leadingBit n 1 - 52)).toNat = 0 := by omega
  unfold Literal.equals
  simp [hsign, divRoundEven, Nat.mod_one]

/-- Read as a number it is itself. -/
theorem Literal.toNat?_self {n : Nat} (h : n < 2 ^ 53) :
    Literal.toNat? ⟨false, n, 1⟩ = some n := by
  have hbit := leadingBit_one h
  have hsign : (max (-1074) (leadingBit n 1 - 52)).toNat = 0 := by omega
  have hexponent : 53 ≤ 1024 := by decide
  have hlarge : n < 2 ^ 1024 := lt_of_lt_of_le h (pow_le_pow_right₀ one_le_two hexponent)
  unfold Literal.toNat?
  simp only [hsign, divRoundEven, Nat.mod_one, Nat.pow_zero, Nat.mul_one, Nat.div_one]
  simp only [Nat.mul_zero, Nat.zero_lt_one, true_or, if_true]
  rw [Nat.mul_div_cancel _ (by positivity), if_pos ⟨rfl, hlarge, rfl⟩]

/-! ## Dates and bytes -/

theorem solid_padded (width n : Nat) : ∀ c ∈ padded width n, isWhitespace c = false := by
  intro c hc
  obtain ⟨i, -, rfl⟩ := List.mem_map.1 hc
  have hdigits : ∀ d < 10, isWhitespace (Char.ofNat (48 + d)) = false := by decide
  exact hdigits _ (Nat.mod_lt _ (by decide))

theorem solid_toISOString (t : TimeValue) : ∀ c ∈ toISOString t, isWhitespace c = false := by
  have happend : ∀ {s s' : Text}, (∀ c ∈ s, isWhitespace c = false) →
      (∀ c ∈ s', isWhitespace c = false) → ∀ c ∈ s ++ s', isWhitespace c = false :=
    fun hs hs' c hc => (List.mem_append.1 hc).elim (hs c) (hs' c)
  have hsign : ∀ {sign : Char} {s : Text}, isWhitespace sign = false →
      (∀ c ∈ s, isWhitespace c = false) → ∀ c ∈ sign :: s, isWhitespace c = false :=
    fun hsign hs => List.forall_mem_cons.2 ⟨hsign, hs⟩
  unfold toISOString
  dsimp only
  refine happend (happend (happend (happend (happend (happend (happend ?_ ?_) ?_) ?_) ?_) ?_) ?_) ?_
  · split
    · exact solid_padded _ _
    · exact hsign (by decide) (solid_padded _ _)
  all_goals first
    | exact hsign (by decide) (solid_padded _ _)
    | decide

theorem toISOString_ne_nil (t : TimeValue) : toISOString t ≠ [] := by
  unfold toISOString
  dsimp only
  exact fun h => absurd (List.append_eq_nil_iff.1 h).2 (List.cons_ne_nil _ _)

theorem solid_toHex (digits n : Nat) : ∀ c ∈ toHex digits n, isWhitespace c = false := by
  intro c hc
  obtain ⟨i, -, rfl⟩ := List.mem_map.1 hc
  have hdigits : ∀ d < 16, isWhitespace (hexDigit d) = false := by decide
  exact hdigits _ (Nat.mod_lt _ (by decide))

end Js
