import Mathlib.Data.List.TakeDrop
import Mathlib.Data.List.TakeWhile
import Mathlib.Data.Nat.Digits.Defs

set_option autoImplicit false

/-! # How numbers are written

`Number::toString` reads nothing of a number but the shortest decimal fraction that is rounded to it:
its sign, its digits and where the point stands. A finite number is given by these here; the two zeros
are one, as they are for `===`. Different numbers are written differently. -/

namespace Js

/-- The digits of a number other than zero, without zeros at either end. -/
structure Significand where
  digits : List Char
  isDigit : ∀ c ∈ digits, c.isDigit = true
  first : ∃ c rest, digits = c :: rest ∧ c ≠ '0'
  last : ∃ front c, digits = front ++ [c] ∧ c ≠ '0'

inductive FiniteNumber where
  | zero
  /-- `0.d₁d₂…` times a power of ten, or the negative of that. -/
  | nonzero (negative : Bool) (significand : Significand) (exponent : Int)

/-- The digits with the point among them, or behind zeros, or in front of zeros. -/
def plainChars (digits : List Char) (n : Int) : List Char :=
  if digits.length ≤ n then digits ++ List.replicate (n - digits.length).toNat '0'
  else if 0 < n then digits.take n.toNat ++ '.' :: digits.drop n.toNat
  else '0' :: '.' :: (List.replicate (-n).toNat '0' ++ digits)

/-- One digit before the point. -/
def mantissaChars (digits : List Char) : List Char :=
  if digits.length = 1 then digits else digits.take 1 ++ '.' :: digits.drop 1

def exponentChars (e : Int) : List Char :=
  (if e < 0 then '-' else '+') :: Nat.toDigits 10 e.natAbs

def decimalChars (digits : List Char) (n : Int) : List Char :=
  if -5 ≤ n ∧ n ≤ 21 then plainChars digits n
  else mantissaChars digits ++ 'e' :: exponentChars (n - 1)

/-- `Number::toString` -/
def FiniteNumber.chars : FiniteNumber → List Char
  | zero => ['0']
  | nonzero negative significand n =>
      (if negative then ['-'] else []) ++ decimalChars significand.digits n

/-! ## What numbers are written with -/

/-- Everything that occurs in a number. -/
def isNumberChar (c : Char) : Bool :=
  c.isDigit || c == '.' || c == 'e' || c == '+' || c == '-'

theorem isNumberChar_of_isDigit {c : Char} (h : c.isDigit = true) : isNumberChar c = true := by
  simp [isNumberChar, h]

theorem isDigit_toDigits {n : Nat} {c : Char} (h : c ∈ Nat.toDigits 10 n) : c.isDigit = true :=
  Nat.isDigit_of_mem_toDigits (by decide) (by decide) h

/-- A text of digits, possibly with points. -/
def isPlainChar (c : Char) : Bool :=
  c.isDigit || c == '.'

theorem isPlainChar_of_isDigit {c : Char} (h : c.isDigit = true) : isPlainChar c = true := by
  simp [isPlainChar, h]

section Texts

variable {digits digits' : List Char}

theorem plainChars_isPlain (h : ∀ c ∈ digits, c.isDigit = true) (n : Int) :
    ∀ c ∈ plainChars digits n, isPlainChar c = true := by
  intro c hc
  have hdigit : c ∈ digits → isPlainChar c = true := fun hmem => isPlainChar_of_isDigit (h c hmem)
  unfold plainChars at hc
  split at hc
  · rcases List.mem_append.1 hc with hmem | hmem
    · exact hdigit hmem
    · rw [List.eq_of_mem_replicate hmem]
      decide
  · split at hc
    · rcases List.mem_append.1 hc with hmem | hmem
      · exact hdigit (List.mem_of_mem_take hmem)
      · rcases List.mem_cons.1 hmem with rfl | hmem
        · decide
        · exact hdigit (List.mem_of_mem_drop hmem)
    · rcases List.mem_cons.1 hc with rfl | hc
      · decide
      rcases List.mem_cons.1 hc with rfl | hc
      · decide
      rcases List.mem_append.1 hc with hmem | hmem
      · rw [List.eq_of_mem_replicate hmem]
        decide
      · exact hdigit hmem

theorem mantissaChars_isPlain (h : ∀ c ∈ digits, c.isDigit = true) :
    ∀ c ∈ mantissaChars digits, isPlainChar c = true := by
  intro c hc
  have hdigit : c ∈ digits → isPlainChar c = true := fun hmem => isPlainChar_of_isDigit (h c hmem)
  unfold mantissaChars at hc
  split at hc
  · exact hdigit hc
  · rcases List.mem_append.1 hc with hmem | hmem
    · exact hdigit (List.mem_of_mem_take hmem)
    · rcases List.mem_cons.1 hmem with rfl | hmem
      · decide
      · exact hdigit (List.mem_of_mem_drop hmem)

theorem exponentChars_isNumber (e : Int) : ∀ c ∈ exponentChars e, isNumberChar c = true := by
  intro c hc
  unfold exponentChars at hc
  rcases List.mem_cons.1 hc with rfl | hmem
  · split <;> decide
  · exact isNumberChar_of_isDigit (isDigit_toDigits hmem)

end Texts

/-- A number is written with digits, points, signs and an `e`. -/
theorem FiniteNumber.chars_isNumber (x : FiniteNumber) : ∀ c ∈ x.chars, isNumberChar c = true := by
  have hplain : ∀ {c : Char}, isPlainChar c = true → isNumberChar c = true := by
    intro c hc
    unfold isPlainChar at hc
    unfold isNumberChar
    rw [hc]
    rfl
  cases x with
  | zero =>
      intro c hc
      rw [List.mem_singleton.1 hc]
      decide
  | nonzero negative significand n =>
      intro c hc
      unfold FiniteNumber.chars at hc
      rcases List.mem_append.1 hc with hmem | hmem
      · cases negative with
        | false => cases hmem
        | true =>
            rw [List.mem_singleton.1 hmem]
            decide
      · unfold decimalChars at hmem
        split at hmem
        · exact hplain (plainChars_isPlain significand.isDigit n c hmem)
        · rcases List.mem_append.1 hmem with hmem | hmem
          · exact hplain (mantissaChars_isPlain significand.isDigit c hmem)
          · rcases List.mem_cons.1 hmem with rfl | hmem
            · decide
            · exact exponentChars_isNumber _ c hmem

/-! ## Reading a number back -/

/-- The first occurrence of a symbol splits a text. -/
theorem split_first {c : Char} {l m x y : List Char} (hl : c ∉ l) (hm : c ∉ m)
    (h : l ++ c :: x = m ++ c :: y) : l = m ∧ x = y := by
  induction l generalizing m with
  | nil =>
      cases m with
      | nil => exact ⟨rfl, (List.cons.inj h).2⟩
      | cons d m =>
          have hhead := (List.cons.inj h).1
          exact absurd (hhead ▸ List.mem_cons_self) hm
  | cons d l ih =>
      cases m with
      | nil =>
          have hhead := (List.cons.inj h).1
          exact absurd (hhead ▸ List.mem_cons_self) hl
      | cons d' m =>
          obtain ⟨rfl, htail⟩ := List.cons.inj h
          obtain ⟨rfl, hrest⟩ := ih (fun hmem => hl (List.mem_cons_of_mem _ hmem))
            (fun hmem => hm (List.mem_cons_of_mem _ hmem)) htail
          exact ⟨rfl, hrest⟩

/-- Zeros behind the digits are told from them. -/
theorem dropWhile_zeros_reverse {digits : List Char}
    (h : ∃ front c, digits = front ++ [c] ∧ c ≠ '0') (k : Nat) :
    (digits ++ List.replicate k '0').reverse.dropWhile (· == '0') = digits.reverse := by
  obtain ⟨front, c, rfl, hc⟩ := h
  rw [List.reverse_append, List.reverse_replicate, List.dropWhile_append_of_pos (by simp)]
  simp [hc]

/-- Zeros in front of the digits are told from them. -/
theorem dropWhile_zeros {digits : List Char} (h : ∃ c rest, digits = c :: rest ∧ c ≠ '0') (k : Nat) :
    (List.replicate k '0' ++ digits).dropWhile (· == '0') = digits := by
  obtain ⟨c, rest, rfl, hc⟩ := h
  rw [List.dropWhile_append_of_pos (by simp)]
  simp [hc]

theorem notMem_of_isDigit {c : Char} {l : List Char} (hc : c.isDigit = false)
    (h : ∀ d ∈ l, d.isDigit = true) : c ∉ l := by
  intro hmem
  rw [h c hmem] at hc
  cases hc

namespace Significand

variable (s t : Significand)

theorem length_pos : 0 < s.digits.length := by
  obtain ⟨c, rest, h, -⟩ := s.first
  rw [h]
  exact Nat.succ_pos _

variable {s t}

theorem ext_digits (h : s.digits = t.digits) : s = t := by
  cases s
  cases t
  cases h
  rfl

/-- Where the point stands in a plain text: nowhere, behind the first digits, or behind a zero. -/
inductive Shape (s : Significand) (n : Int) : List Char → Prop where
  | whole (k : Nat) : n = s.digits.length + k → Shape s n (s.digits ++ List.replicate k '0')
  | inside (k : Nat) : n = k → 0 < k → k < s.digits.length →
      Shape s n (s.digits.take k ++ '.' :: s.digits.drop k)
  | behind (k : Nat) : n = -k → Shape s n ('0' :: '.' :: (List.replicate k '0' ++ s.digits))

theorem shape_plainChars (s : Significand) (n : Int) : Shape s n (plainChars s.digits n) := by
  unfold plainChars
  split
  · exact .whole _ (by omega)
  · split
    · exact .inside _ (by omega) (by omega) (by omega)
    · exact .behind _ (by omega)

theorem point_notMem (l : List Char) (h : ∀ c ∈ l, c ∈ s.digits ∨ c = '0') : '.' ∉ l :=
  notMem_of_isDigit (by decide) fun d hd => (h d hd).elim (s.isDigit d) fun heq => heq ▸ by decide

theorem point_notMem_whole (k : Nat) : '.' ∉ s.digits ++ List.replicate k '0' :=
  point_notMem _ fun _ hc =>
    (List.mem_append.1 hc).imp id fun hmem => List.eq_of_mem_replicate hmem

/-- The text before the point does not begin with a zero. -/
theorem take_append_ne {k : Nat} (hk : 0 < k) (x y : List Char) :
    s.digits.take k ++ x ≠ '0' :: y := by
  intro heq
  obtain ⟨c, rest, hdigits, hc⟩ := s.first
  obtain ⟨k, rfl⟩ := Nat.exists_eq_succ_of_ne_zero hk.ne'
  rw [hdigits] at heq
  exact hc (List.cons.inj heq).1

/-- A plain text determines the digits and the exponent. -/
theorem Shape.unique {n m : Int} {text : List Char} (h : Shape s n text) (h' : Shape t m text) :
    s = t ∧ n = m := by
  generalize htext : text = text' at h'
  have htake : ∀ (u : Significand) (k : Nat), '.' ∉ u.digits.take k := fun u k =>
    point_notMem _ fun c hc => .inl (List.mem_of_mem_take hc)
  cases h with
  | whole k hn =>
      cases h' with
      | whole k' hm =>
          have hdigits : s.digits = t.digits := by
            have hstrip := dropWhile_zeros_reverse s.last k
            rw [htext, dropWhile_zeros_reverse t.last k'] at hstrip
            exact List.reverse_inj.1 hstrip.symm
          have hlength := congrArg List.length htext
          simp only [List.length_append, List.length_replicate] at hlength
          exact ⟨ext_digits hdigits, by omega⟩
      | inside k' hm hpos hlt =>
          exact absurd (htext ▸ List.mem_append_right _ List.mem_cons_self)
            (point_notMem_whole (s := s) k)
      | behind k' hm =>
          exact absurd (htext ▸ List.mem_cons_of_mem _ List.mem_cons_self)
            (point_notMem_whole (s := s) k)
  | inside k hn hpos hlt =>
      cases h' with
      | whole k' hm =>
          exact absurd (htext ▸ List.mem_append_right _ List.mem_cons_self)
            (point_notMem_whole (s := t) k')
      | inside k' hm hpos' hlt' =>
          obtain ⟨hfront, hback⟩ := split_first (htake s k) (htake t k') htext
          have hlength := congrArg List.length hfront
          rw [List.length_take, List.length_take] at hlength
          have hdigits : s.digits = t.digits := by
            rw [← List.take_append_drop k s.digits, hfront, hback, List.take_append_drop]
          exact ⟨ext_digits hdigits, by omega⟩
      | behind k' hm => exact absurd htext (take_append_ne hpos _ _)
  | behind k hn =>
      cases h' with
      | whole k' hm =>
          exact absurd (htext ▸ List.mem_cons_of_mem _ List.mem_cons_self)
            (point_notMem_whole (s := t) k')
      | inside k' hm hpos hlt => exact absurd htext.symm (take_append_ne hpos _ _)
      | behind k' hm =>
          have hrest := (List.cons.inj (List.cons.inj htext).2).2
          have hdigits : s.digits = t.digits := by
            rw [← dropWhile_zeros s.first k, hrest, dropWhile_zeros t.first k']
          have hlength := congrArg List.length hrest
          simp only [List.length_append, List.length_replicate, hdigits] at hlength
          exact ⟨ext_digits hdigits, by omega⟩

theorem filter_mantissaChars (s : Significand) :
    (mantissaChars s.digits).filter (· != '.') = s.digits := by
  have hall : ∀ {l : List Char}, l ⊆ s.digits → l.filter (· != '.') = l := by
    intro l hl
    refine List.filter_eq_self.2 fun c hc => ?_
    have hdigit := s.isDigit c (hl hc)
    have hne : c ≠ '.' := by
      rintro rfl
      cases hdigit
    simpa using hne
  unfold mantissaChars
  split
  · exact hall (List.Subset.refl _)
  · rw [List.filter_append, List.filter_cons_of_neg (by decide), hall (List.take_subset _ _),
      hall (List.drop_subset _ _), List.take_append_drop]

end Significand

theorem exponentChars_injective : Function.Injective exponentChars := by
  intro e f h
  obtain ⟨hsign, hdigits⟩ := List.cons.inj h
  have hnat : e.natAbs = f.natAbs := by
    rw [← Nat.ofDigitChars_ten_toDigits (n := e.natAbs), hdigits, Nat.ofDigitChars_ten_toDigits]
  by_cases he : e < 0 <;> by_cases hf : f < 0
  · omega
  · simp [he, hf] at hsign
  · simp [he, hf] at hsign
  · omega

theorem e_notMem {l : List Char} (h : ∀ c ∈ l, isPlainChar c = true) : 'e' ∉ l := by
  intro hmem
  cases h 'e' hmem

/-- The digits and the exponent of a number can be told from its text. -/
theorem decimalChars_inj {s t : Significand} {n m : Int}
    (h : decimalChars s.digits n = decimalChars t.digits m) : s = t ∧ n = m := by
  have hplain : ∀ (u : Significand) (k : Int), 'e' ∉ plainChars u.digits k := fun u k =>
    e_notMem (plainChars_isPlain u.isDigit k)
  have hmantissa : ∀ u : Significand, 'e' ∉ mantissaChars u.digits := fun u =>
    e_notMem (mantissaChars_isPlain u.isDigit)
  unfold decimalChars at h
  split at h
  · split at h
    · exact (Significand.shape_plainChars s n).unique (h ▸ Significand.shape_plainChars t m)
    · exact absurd (h ▸ List.mem_append_right _ List.mem_cons_self) (hplain s n)
  · split at h
    · exact absurd (h ▸ List.mem_append_right _ List.mem_cons_self) (hplain t m)
    · obtain ⟨hfront, hback⟩ := split_first (hmantissa s) (hmantissa t) h
      have hdigits : s.digits = t.digits := by
        rw [← s.filter_mantissaChars, hfront, t.filter_mantissaChars]
      have hexponent := exponentChars_injective hback
      exact ⟨Significand.ext_digits hdigits, by omega⟩

/-- A number other than zero is not written as zero is. -/
theorem decimalChars_ne_zero (s : Significand) (n : Int) : decimalChars s.digits n ≠ ['0'] := by
  intro h
  unfold decimalChars at h
  split at h
  · have hshape := Significand.shape_plainChars s n
    rw [h] at hshape
    generalize htext : ['0'] = text at hshape
    cases hshape with
    | whole k hn =>
        obtain ⟨c, rest, hdigits, hc⟩ := s.first
        rw [hdigits] at htext
        exact hc (List.cons.inj htext).1.symm
    | inside k hn hpos hlt => exact Significand.take_append_ne hpos _ _ htext.symm
    | behind k hn => cases (List.cons.inj htext).2
  · have hmem : 'e' ∈ ['0'] := h ▸ List.mem_append_right _ List.mem_cons_self
    cases List.mem_singleton.1 hmem

/-- The digits come behind the sign. -/
theorem decimalChars_ne_minus (s : Significand) (n : Int) (x : List Char) :
    decimalChars s.digits n ≠ '-' :: x := by
  intro h
  unfold decimalChars at h
  split at h
  · cases plainChars_isPlain s.isDigit n '-' (h ▸ List.mem_cons_self)
  · cases hmantissa : mantissaChars s.digits with
    | nil =>
        have hlength := s.length_pos
        rw [← s.filter_mantissaChars, hmantissa] at hlength
        cases hlength
    | cons c rest =>
        rw [hmantissa] at h
        have hminus : '-' ∈ mantissaChars s.digits := by
          rw [hmantissa, (List.cons.inj h).1]
          exact List.mem_cons_self
        cases mantissaChars_isPlain s.isDigit '-' hminus

theorem FiniteNumber.chars_ne_nil (x : FiniteNumber) : x.chars ≠ [] := by
  intro h
  cases x with
  | zero => cases h
  | nonzero negative s n =>
      obtain ⟨-, hnil⟩ := List.append_eq_nil_iff.1 h
      unfold decimalChars at hnil
      split at hnil
      · have hshape := Significand.shape_plainChars s n
        rw [hnil] at hshape
        generalize htext : ([] : List Char) = text at hshape
        have hpos := s.length_pos
        cases hshape with
        | whole k hn =>
            have hlength := congrArg List.length htext
            rw [List.length_nil, List.length_append] at hlength
            omega
        | inside k hn hpos hlt => simp at htext
        | behind k hn => cases htext
      · simp at hnil

/-- Different numbers are written differently. -/
theorem FiniteNumber.chars_injective : Function.Injective FiniteNumber.chars := by
  intro x y h
  cases x with
  | zero =>
      cases y with
      | zero => rfl
      | nonzero negative t m =>
          cases negative with
          | false => exact absurd h.symm (decimalChars_ne_zero t m)
          | true => cases (List.cons.inj h).1
  | nonzero negative s n =>
      cases y with
      | zero =>
          cases negative with
          | false => exact absurd h (decimalChars_ne_zero s n)
          | true => cases (List.cons.inj h).1
      | nonzero negative' t m =>
          cases negative with
          | false =>
              cases negative' with
              | false =>
                  obtain ⟨rfl, rfl⟩ := decimalChars_inj h
                  rfl
              | true => exact absurd h (decimalChars_ne_minus s n _)
          | true =>
              cases negative' with
              | false => exact absurd h.symm (decimalChars_ne_minus t m _)
              | true =>
                  obtain ⟨rfl, rfl⟩ := decimalChars_inj (List.cons.inj h).2
                  rfl

instance : DecidableEq FiniteNumber := fun _ _ =>
  decidable_of_iff _ FiniteNumber.chars_injective.eq_iff

/-! ## Natural numbers -/

/-- What is left of a list of digits when the zeros at its end are taken off. -/
def dropZeros (digits : List Char) : List Char :=
  (digits.reverse.dropWhile (· == '0')).reverse

theorem dropZeros_append (digits : List Char) :
    ∃ k, digits = dropZeros digits ++ List.replicate k '0' := by
  refine ⟨(digits.reverse.takeWhile (· == '0')).length, ?_⟩
  have hzeros : digits.reverse.takeWhile (· == '0') =
      List.replicate (digits.reverse.takeWhile (· == '0')).length '0' := by
    refine List.eq_replicate_iff.2 ⟨rfl, fun c hc => ?_⟩
    simpa using List.mem_takeWhile_imp hc
  rw [dropZeros, ← List.reverse_replicate, ← hzeros, ← List.reverse_append,
    List.takeWhile_append_dropWhile, List.reverse_reverse]

theorem toDigits_first {n : Nat} (hn : n ≠ 0) :
    ∃ c rest, Nat.toDigits 10 n = c :: rest ∧ c ≠ '0' := by
  induction n using Nat.strong_induction_on with
  | _ n ih =>
      rw [Nat.toDigits_eq_if (by decide)]
      split
      next hlt =>
          have hdigit : ∀ n < 10, n ≠ 0 → Nat.digitChar n ≠ '0' := by decide
          exact ⟨_, [], rfl, hdigit n hlt hn⟩
      next hge =>
          obtain ⟨c, rest, heq, hc⟩ := ih (n / 10) (by omega) (by omega)
          exact ⟨c, rest ++ [Nat.digitChar (n % 10)], by rw [heq]; rfl, hc⟩

theorem dropZeros_first {digits : List Char} (h : ∃ c rest, digits = c :: rest ∧ c ≠ '0') :
    ∃ c rest, dropZeros digits = c :: rest ∧ c ≠ '0' := by
  obtain ⟨c, rest, rfl, hc⟩ := h
  obtain ⟨k, hk⟩ := dropZeros_append (c :: rest)
  cases hdrop : dropZeros (c :: rest) with
  | nil =>
      rw [hdrop, List.nil_append] at hk
      have hmem : c ∈ List.replicate k '0' := hk ▸ List.mem_cons_self
      exact absurd (List.eq_of_mem_replicate hmem) hc
  | cons d rest' =>
      rw [hdrop] at hk
      exact ⟨d, rest', rfl, (List.cons.inj hk).1 ▸ hc⟩

theorem dropZeros_last {digits : List Char} (h : dropZeros digits ≠ []) :
    ∃ front c, dropZeros digits = front ++ [c] ∧ c ≠ '0' := by
  unfold dropZeros at h ⊢
  cases hrest : digits.reverse.dropWhile (· == '0') with
  | nil => exact absurd (by rw [hrest]; rfl) h
  | cons c front =>
      refine ⟨front.reverse, c, List.reverse_cons, ?_⟩
      have hhead := List.head?_dropWhile_not (· == '0') digits.reverse
      rw [hrest] at hhead
      simpa using hhead

/-- The digits of a natural number other than zero. -/
def Significand.ofNat (n : Nat) (hn : n ≠ 0) : Significand where
  digits := dropZeros (Nat.toDigits 10 n)
  isDigit := by
    intro c hc
    obtain ⟨k, hk⟩ := dropZeros_append (Nat.toDigits 10 n)
    have hmem := List.mem_append_left (List.replicate k '0') hc
    rw [← hk] at hmem
    exact isDigit_toDigits hmem
  first := dropZeros_first (toDigits_first hn)
  last := by
    obtain ⟨c, rest, heq, -⟩ := dropZeros_first (toDigits_first hn)
    exact dropZeros_last (heq ▸ List.cons_ne_nil c rest)

def FiniteNumber.ofNat (n : Nat) : FiniteNumber :=
  if hn : n = 0 then .zero else .nonzero false (.ofNat n hn) (Nat.toDigits 10 n).length

/-- A natural number below `10 ^ 21` is written without a point or an exponent. -/
theorem FiniteNumber.chars_ofNat {n : Nat} (h : n < 10 ^ 21) :
    (FiniteNumber.ofNat n).chars = Nat.toDigits 10 n := by
  unfold FiniteNumber.ofNat
  split
  next hn => rw [hn]; rfl
  next hn =>
      obtain ⟨k, hk⟩ := dropZeros_append (Nat.toDigits 10 n)
      have hlength : (Nat.toDigits 10 n).length ≤ 21 :=
        (Nat.length_toDigits_le_iff (by decide) (by decide)).2 h
      have hlengths : (Nat.toDigits 10 n).length = (dropZeros (Nat.toDigits 10 n)).length + k := by
        conv_lhs => rw [hk]
        rw [List.length_append, List.length_replicate]
      show decimalChars (dropZeros (Nat.toDigits 10 n)) _ = _
      unfold decimalChars plainChars
      rw [if_pos (by omega), if_pos (by omega)]
      have hzeros : (((Nat.toDigits 10 n).length : Int) -
          ((dropZeros (Nat.toDigits 10 n)).length : Int)).toNat = k := by omega
      rw [hzeros, ← hk]

end Js
