import OwneX.Library.JsString
import Mathlib.Data.List.Chain
import Mathlib.Data.List.TakeWhile

set_option autoImplicit false

/-! # Strings with lone surrogates

A JavaScript string is any sequence of 16-bit code units. Read from the left it is a sequence of code
points, each a Unicode scalar value or a surrogate that belongs to no pair; a high surrogate before a
low one would be a pair, so that does not occur (`Str.paired`). `JSON.stringify` writes a lone surrogate
as an escape, and UTF-8 replaces it. -/

namespace Js

inductive CodePoint where
  | scalar (c : Char)
  /-- `0xD800 + n` -/
  | surrogate (n : Fin 2048)
deriving DecidableEq

namespace CodePoint

def units : CodePoint → List Nat
  | scalar c => codeUnits (String.ofList [c])
  | surrogate n => [55296 + n.1]

/-- The first half of a pair. -/
def isHigh : CodePoint → Bool
  | scalar _ => false
  | surrogate n => decide (n.1 < 1024)

/-- The second half of a pair. -/
def isLow : CodePoint → Bool
  | scalar _ => false
  | surrogate n => decide (1024 ≤ n.1)

def isWhitespace : CodePoint → Bool
  | scalar c => Js.isWhitespace c
  | surrogate _ => false

/-- How `JSON.stringify` writes a code point between the quotes. -/
def escape : CodePoint → List Char
  | scalar c => Js.escape c
  | surrogate n =>
      ['\\', 'u', 'd', hexDigit (8 + n.1 / 256), hexDigit (n.1 / 16 % 16), hexDigit (n.1 % 16)]

/-- What UTF-8 makes of a code point. -/
def toScalar : CodePoint → Char
  | scalar c => c
  | surrogate _ => '\uFFFD'

end CodePoint

/-- Two code points that may follow each other. -/
def Unpaired (p q : CodePoint) : Prop :=
  ¬ (p.isHigh = true ∧ q.isLow = true)

instance : DecidableRel Unpaired := fun _ _ => inferInstanceAs (Decidable (¬ _))

structure Str where
  points : List CodePoint
  paired : points.IsChain Unpaired
deriving DecidableEq

namespace Str

/-- A string of scalar values. -/
def ofString (s : String) : Str where
  points := s.toList.map .scalar
  paired := by
    rw [List.isChain_map]
    exact (List.pairwise_of_forall fun c d h => by cases h.1).isChain

/-- What is left when white space is taken off both ends. -/
def trimPoints (points : List CodePoint) : List CodePoint :=
  ((points.dropWhile CodePoint.isWhitespace).reverse.dropWhile CodePoint.isWhitespace).reverse

theorem trimPoints_isInfix (points : List CodePoint) : trimPoints points <:+: points := by
  have hfront : points.dropWhile CodePoint.isWhitespace <:+ points := List.dropWhile_suffix _
  have hback : trimPoints points <+: (points.dropWhile CodePoint.isWhitespace).reverse.reverse :=
    List.reverse_prefix.2 (List.dropWhile_suffix _)
  rw [List.reverse_reverse] at hback
  exact hback.isInfix.trans hfront.isInfix

/-- `trim()` -/
def trim (s : Str) : Str where
  points := trimPoints s.points
  paired := s.paired.infix (trimPoints_isInfix s.points)

def units (s : Str) : List Nat :=
  s.points.flatMap CodePoint.units

/-- The order of `sort()`. -/
def sortsBefore (s t : Str) : Bool :=
  unitsBefore s.units t.units

def quoteChars (s : Str) : List Char :=
  '"' :: (s.points.flatMap CodePoint.escape ++ ['"'])

/-- Encoded in UTF-8 and decoded again. -/
def toWellFormed (s : Str) : String :=
  String.ofList (s.points.map CodePoint.toScalar)

/-- There are no lone surrogates. -/
def isWellFormed (s : Str) : Bool :=
  s.points.all fun p => match p with
    | .scalar _ => true
    | .surrogate _ => false

/-! ## Quoted strings -/

/-- Reads one code point back. -/
def readPoint : List Char → Option (CodePoint × List Char)
  | '\\' :: 'u' :: 'd' :: a :: b :: c :: rest =>
      let n := 256 * (hexValue a - 8) + 16 * hexValue b + hexValue c
      if h : n < 2048 then some (.surrogate ⟨n, h⟩, rest) else none
  | text => (readEscape text).map fun (c, rest) => (.scalar c, rest)

theorem hexValue_hexDigit {n : Nat} (h : n < 16) : hexValue (hexDigit n) = n := by
  have hall : ∀ n < 16, hexValue (hexDigit n) = n := by decide
  exact hall n h

/-- A scalar value is not written like a surrogate. -/
theorem escape_ne_surrogate (c : Char) (x : List Char) (a b d : Char) (y : List Char) :
    Js.escape c ++ x ≠ '\\' :: 'u' :: 'd' :: a :: b :: d :: y := by
  intro heq
  have htake : (Js.escape c ++ x).take 3 = ['\\', 'u', 'd'] := by rw [heq]; rfl
  unfold Js.escape at htake
  split at htake
  case h_8 _ _ hslash _ _ _ _ _ =>
      split at htake
      · simp at htake
      · have hhead : c = '\\' := by simpa using congrArg List.head? htake
        exact hslash (by rw [hhead]; rfl)
  all_goals simp at htake

theorem readPoint_escape (p : CodePoint) (x : List Char) :
    readPoint (p.escape ++ x) = some (p, x) := by
  cases p with
  | scalar c =>
      show readPoint (Js.escape c ++ x) = _
      unfold readPoint
      split
      next heq => exact (escape_ne_surrogate _ _ _ _ _ _ heq).elim
      · rw [readEscape_escape]
        rfl
  | surrogate n =>
      show readPoint ('\\' :: 'u' :: 'd' :: _ :: _ :: _ :: x) = _
      have hlt := n.isLt
      have hvalue : 256 * (hexValue (hexDigit (8 + n.1 / 256)) - 8) +
          16 * hexValue (hexDigit (n.1 / 16 % 16)) + hexValue (hexDigit (n.1 % 16)) = n.1 := by
        rw [hexValue_hexDigit (by omega), hexValue_hexDigit (by omega), hexValue_hexDigit (by omega)]
        omega
      simp only [readPoint, hvalue, hlt, dif_pos]

/-- No code point is written with a quotation mark in front. -/
theorem escape_append_ne_quote (p : CodePoint) (x y : List Char) : p.escape ++ x ≠ '"' :: y := by
  cases p with
  | scalar c => exact escape_append_ne c x y
  | surrogate n =>
      intro heq
      cases (List.cons.inj heq).1

/-- A quoted string can be read off the front of a text. -/
theorem readable_quoteChars : Readable quoteChars := by
  have hescape : Readable CodePoint.escape := .of_read readPoint readPoint_escape
  have hbody : Readable fun l : List CodePoint => l.flatMap CodePoint.escape ++ ['"'] :=
    hescape.delimited escape_append_ne_quote
  exact (hbody.after ['"']).comp (f := Str.points) fun s t h => by
    cases s
    cases t
    cases h
    rfl

/-! ## Code units -/

/-- A surrogate is no scalar value. -/
theorem notSurrogate (c : Char) : c.toNat < 55296 ∨ 57343 < c.toNat := by
  have hvalid := c.valid
  unfold UInt32.isValidChar Nat.isValidChar at hvalid
  have hval : c.toNat = c.val.toNat := rfl
  omega

theorem units_scalar (c : Char) :
    (CodePoint.scalar c).units =
      if c.toNat < 65536 then [c.toNat]
      else [55296 + (c.toNat - 65536) / 1024, 56320 + (c.toNat - 65536) % 1024] := by
  simp [CodePoint.units, codeUnits]

/-- One unit that is no surrogate, a pair of surrogates, or a surrogate on its own. -/
theorem units_cases (p : CodePoint) :
    (∃ u, p.units = [u] ∧ (u < 55296 ∨ 57343 < u) ∧ p = .scalar (Char.ofNat u)) ∨
      (∃ high low, p.units = [high, low] ∧ (55296 ≤ high ∧ high < 56320) ∧
        (56320 ≤ low ∧ low < 57344) ∧
        p = .scalar (Char.ofNat (65536 + 1024 * (high - 55296) + (low - 56320)))) ∨
      ∃ n, p.units = [55296 + n.1] ∧ p = .surrogate n := by
  cases p with
  | surrogate n => exact .inr (.inr ⟨n, rfl, rfl⟩)
  | scalar c =>
      rw [units_scalar]
      split
      · refine .inl ⟨c.toNat, rfl, notSurrogate c, ?_⟩
        rw [Char.ofNat_toNat]
      · have hbound : c.toNat < 1114112 := by
          rcases c.valid with hlt | hlt
          · exact lt_trans hlt (by decide)
          · exact hlt.2
        refine .inr (.inl ⟨_, _, rfl, by omega, by omega, ?_⟩)
        have hvalue : 65536 + 1024 * (55296 + (c.toNat - 65536) / 1024 - 55296) +
            (56320 + (c.toNat - 65536) % 1024 - 56320) = c.toNat := by omega
        rw [hvalue, Char.ofNat_toNat]

/-- What begins with the second half of a pair begins with a low surrogate. -/
theorem isLow_of_units {l : List CodePoint} {low : Nat} {rest : List Nat}
    (hlow : 56320 ≤ low ∧ low < 57344) (h : l.flatMap CodePoint.units = low :: rest) :
    ∃ p l', l = p :: l' ∧ p.isLow = true := by
  cases l with
  | nil => cases h
  | cons p l =>
      rw [List.flatMap_cons] at h
      obtain ⟨u, hunits, hu, -⟩ | ⟨high, _, hunits, hhigh, -, -⟩ | ⟨n, hunits, rfl⟩ := units_cases p
      · rw [hunits] at h
        have hhead := (List.cons.inj h).1
        omega
      · rw [hunits] at h
        have hhead := (List.cons.inj h).1
        omega
      · rw [hunits] at h
        have hhead := (List.cons.inj h).1
        exact ⟨_, l, rfl, decide_eq_true (by omega)⟩

/-- A pair and a surrogate on its own do not begin the same text. -/
theorem pair_ne_lone {high low : Nat} {n : Fin 2048} {x : List Nat} {l : List CodePoint}
    (hlow : 56320 ≤ low ∧ low < 57344) (hhigh : 55296 ≤ high ∧ high < 56320)
    (hl : (CodePoint.surrogate n :: l).IsChain Unpaired) :
    [high, low] ++ x ≠ [55296 + n.1] ++ l.flatMap CodePoint.units := by
  intro heq
  obtain ⟨hhead, hrest⟩ := List.cons.inj heq
  obtain ⟨p, l', rfl, hp⟩ := isLow_of_units hlow hrest.symm
  have hn : (CodePoint.surrogate n).isHigh = true := decide_eq_true (by omega)
  exact (List.isChain_cons_cons.1 hl).1 ⟨hn, hp⟩

/-- The code points of a string can be told from its code units. -/
theorem eq_of_flatMap_units {l m : List CodePoint} (hl : l.IsChain Unpaired)
    (hm : m.IsChain Unpaired)
    (h : l.flatMap CodePoint.units = m.flatMap CodePoint.units) : l = m := by
  have hnonempty : ∀ (p : CodePoint) (l : List CodePoint),
      (p :: l).flatMap CodePoint.units ≠ [] := by
    intro p l hnil
    rw [List.flatMap_cons] at hnil
    obtain ⟨_, hunits, -⟩ | ⟨_, _, hunits, -⟩ | ⟨_, hunits, -⟩ := units_cases p <;>
      simp [hunits] at hnil
  induction l generalizing m with
  | nil =>
      cases m with
      | nil => rfl
      | cons q m => exact absurd h.symm (hnonempty q m)
  | cons p l ih =>
      cases m with
      | nil => exact absurd h (hnonempty p l)
      | cons q m =>
          have hrest : l.flatMap CodePoint.units = m.flatMap CodePoint.units → l = m :=
            ih hl.tail hm.tail
          simp only [List.flatMap_cons] at h
          obtain ⟨u, hp, hu, rfl⟩ | ⟨high, low, hp, hhigh, hlow, rfl⟩ | ⟨n, hp, rfl⟩ :=
            units_cases p <;>
          obtain ⟨v, hq, hv, rfl⟩ | ⟨high', low', hq, hhigh', hlow', rfl⟩ | ⟨k, hq, rfl⟩ :=
            units_cases q <;>
          rw [hp, hq] at h
          -- Both begin with one unit that is no surrogate.
          · obtain ⟨rfl, htail⟩ := List.cons.inj h
            rw [hrest htail]
          · have hhead := (List.cons.inj h).1
            omega
          · have hhead := (List.cons.inj h).1
            omega
          -- The first begins with a pair.
          · have hhead := (List.cons.inj h).1
            omega
          · obtain ⟨hsame, htail⟩ := List.append_inj h rfl
            cases hsame
            rw [hrest htail]
          · exact absurd h (pair_ne_lone hlow hhigh hm)
          -- The first begins with a surrogate on its own.
          · have hhead := (List.cons.inj h).1
            omega
          · exact absurd h.symm (pair_ne_lone hlow' hhigh' hl)
          · obtain ⟨hhead, htail⟩ := List.cons.inj h
            have hsame : n = k := Fin.ext (by omega)
            rw [hsame, hrest htail]

theorem units_injective : Function.Injective units := by
  intro s t h
  obtain ⟨points, hs⟩ := s
  obtain ⟨points', ht⟩ := t
  obtain rfl : points = points' := eq_of_flatMap_units hs ht h
  rfl

/-- The order of `sort()` tells strings apart. -/
theorem eq_of_sortsBefore {s t : Str} (h : s.sortsBefore t = true) (h' : t.sortsBefore s = true) :
    s = t :=
  units_injective (unitsBefore_antisymm h h')

/-! ## Strings of scalar values -/

theorem ofString_injective : Function.Injective ofString := by
  intro s t h
  have hmap : s.toList.map CodePoint.scalar = t.toList.map CodePoint.scalar := congrArg points h
  exact String.toList_injective (List.map_injective_iff.2 (fun _ _ h => by cases h; rfl) hmap)

theorem units_ofString (s : String) : (ofString s).units = codeUnits s := by
  show (s.toList.map CodePoint.scalar).flatMap CodePoint.units = _
  rw [List.flatMap_map]
  refine List.flatMap_congr fun c _ => ?_
  rw [units_scalar]

theorem sortsBefore_ofString (s t : String) :
    (ofString s).sortsBefore (ofString t) = Js.sortsBefore s t := by
  rw [sortsBefore, units_ofString, units_ofString, sortsBefore_eq]

theorem quoteChars_ofString (s : String) : (ofString s).quoteChars = Js.quoteChars s := by
  show '"' :: ((s.toList.map CodePoint.scalar).flatMap CodePoint.escape ++ ['"']) = _
  rw [List.flatMap_map]
  rfl

theorem trimPoints_scalar (l : List Char) :
    trimPoints (l.map .scalar) =
      ((l.dropWhile Js.isWhitespace).reverse.dropWhile Js.isWhitespace).reverse.map .scalar := by
  have hsame : CodePoint.isWhitespace ∘ CodePoint.scalar = Js.isWhitespace := rfl
  unfold trimPoints
  rw [List.dropWhile_map, hsame, ← List.map_reverse, List.dropWhile_map, hsame, ← List.map_reverse]

theorem trim_ofString (s : String) : (ofString s).trim = ofString (Js.trim s) := by
  unfold trim ofString Js.trim
  simp only [trimPoints_scalar, String.toList_ofList]

/-- The case mapping of Unicode, on strings with lone surrogates too. -/
class CaseMapping extends Js.CaseMapping where
  lower : Str → Str
  lower_ofString : ∀ s : String, lower (ofString s) = ofString (toLowerCase s)

/-! ## UTF-8 -/

theorem toWellFormed_ofString (s : String) : (ofString s).toWellFormed = s := by
  unfold toWellFormed ofString
  rw [List.map_map]
  have hid : CodePoint.toScalar ∘ CodePoint.scalar = id := rfl
  rw [hid, List.map_id, String.ofList_toList]

/-- A string without lone surrogates comes back from UTF-8 as it was. -/
theorem ofString_toWellFormed {s : Str} (h : s.isWellFormed = true) :
    ofString s.toWellFormed = s := by
  obtain ⟨points, hpaired⟩ := s
  unfold ofString toWellFormed
  simp only [String.toList_ofList, List.map_map, mk.injEq]
  refine (List.map_congr_left fun p hp => ?_).trans (List.map_id points)
  have hwell := List.all_eq_true.1 h p hp
  cases p with
  | scalar c => rfl
  | surrogate n => cases hwell

/-- A code point that is cut off is white space. -/
theorem mem_trimPoints {l : List CodePoint} {p : CodePoint} (h : p ∈ l) :
    p ∈ trimPoints l ∨ p.isWhitespace = true := by
  have hcut : ∀ {l : List CodePoint}, p ∈ l →
      p ∈ l.dropWhile CodePoint.isWhitespace ∨ p.isWhitespace = true := by
    intro l hmem
    rw [← List.takeWhile_append_dropWhile (p := CodePoint.isWhitespace) (l := l)] at hmem
    rcases List.mem_append.1 hmem with hfront | hback
    · exact .inr (List.mem_takeWhile_imp hfront)
    · exact .inl hback
  rcases hcut h with hfront | hspace
  · rcases hcut (List.mem_reverse.2 hfront) with hback | hspace
    · exact .inl (List.mem_reverse.2 hback)
    · exact .inr hspace
  · exact .inr hspace

/-- What UTF-8 changes, it changes between the white space. -/
theorem trim_toWellFormed_iff (s : Str) :
    (ofString s.toWellFormed).trim = s.trim ↔ s.isWellFormed = true := by
  refine ⟨fun h => ?_, fun h => by rw [ofString_toWellFormed h]⟩
  have hpoints : (ofString s.toWellFormed).points =
      s.points.map fun p => CodePoint.scalar p.toScalar := by
    unfold ofString toWellFormed
    simp only [String.toList_ofList, List.map_map]
    rfl
  have hspace : (CodePoint.isWhitespace ∘ fun p : CodePoint => CodePoint.scalar p.toScalar) =
      CodePoint.isWhitespace := by
    funext p
    cases p <;> rfl
  have htrim : (trimPoints s.points).map (fun p => CodePoint.scalar p.toScalar) =
      trimPoints s.points := by
    have hboth : trimPoints (ofString s.toWellFormed).points = trimPoints s.points :=
      congrArg points h
    rw [hpoints] at hboth
    unfold trimPoints at hboth ⊢
    rwa [List.dropWhile_map, hspace, ← List.map_reverse, List.dropWhile_map, hspace,
      ← List.map_reverse] at hboth
  refine List.all_eq_true.2 fun p hp => ?_
  cases p with
  | scalar c => rfl
  | surrogate n =>
      rcases mem_trimPoints hp with hmem | hspace
      · rw [← htrim] at hmem
        obtain ⟨_, -, heq⟩ := List.mem_map.1 hmem
        cases heq
      · cases hspace

end Str

end Js
