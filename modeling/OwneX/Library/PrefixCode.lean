import Mathlib.Data.List.Basic

set_option autoImplicit false

/-! # Codes that can be read off the front of a text

A code is readable when a text that starts with the code of a value determines the value and what
follows it. A code with a reader is readable (`Readable.of_read`), and so is an injective one that is
closed by a symbol it does not use (`Readable.terminated`). Readable codes are closed under the ways
in which a record is written: a constant in front (`Readable.after`), one code after another
(`Readable.append`), and a run of codes closed by a symbol that starts none of them
(`Readable.delimited`).

A code that is readable only in front of certain symbols, and up to a relation, is `ReadableUpTo` them;
so is then a list of items with separators between them (`readableUpTo_items`). -/

variable {α β γ : Type}

/-- Whatever follows, the value and the rest can be told. -/
structure Readable (code : α → List β) : Prop where
  split : ∀ {a b : α} {x y : List β}, code a ++ x = code b ++ y → a = b ∧ x = y

namespace Readable

/-- A code with a reader is readable. -/
theorem of_read {code : α → List β} (read : List β → Option (α × List β))
    (h : ∀ a x, read (code a ++ x) = some (a, x)) : Readable code := by
  refine ⟨fun {a b x y} heq => ?_⟩
  have hread : some (a, x) = some (b, y) := by rw [← h a x, ← h b y, heq]
  cases hread
  exact ⟨rfl, rfl⟩

/-- An injective code over symbols with `p`, closed by one of several symbols without `p`. -/
theorem terminated {code : α → List β} (hinj : Function.Injective code) {close : γ → β}
    (hclose : Function.Injective close) {p : β → Prop} (hcode : ∀ a, ∀ b ∈ code a, p b)
    (hnot : ∀ c, ¬ p (close c)) : Readable fun v : α × γ => code v.1 ++ [close v.2] := by
  have hsplit : ∀ {l m x y : List β} {c d : β}, (∀ b ∈ l, p b) → (∀ b ∈ m, p b) → ¬ p c → ¬ p d →
      l ++ c :: x = m ++ d :: y → l = m ∧ c = d ∧ x = y := by
    intro l
    induction l with
    | nil =>
        intro m x y c d _ hm hc _ heq
        cases m with
        | nil => exact ⟨rfl, List.cons.inj heq⟩
        | cons b m =>
            obtain ⟨rfl, -⟩ := List.cons.inj heq
            exact absurd (hm c (List.mem_cons_self ..)) hc
    | cons a l ih =>
        intro m x y c d hl hm hc hd heq
        cases m with
        | nil =>
            obtain ⟨rfl, -⟩ := List.cons.inj heq
            exact absurd (hl a (List.mem_cons_self ..)) hd
        | cons b m =>
            obtain ⟨rfl, hrest⟩ := List.cons.inj heq
            obtain ⟨rfl, hends⟩ := ih (fun b hb => hl b (List.mem_cons_of_mem _ hb))
              (fun b hb => hm b (List.mem_cons_of_mem _ hb)) hc hd hrest
            exact ⟨rfl, hends⟩
  refine ⟨fun {v w x y} heq => ?_⟩
  obtain ⟨a, c⟩ := v
  obtain ⟨b, d⟩ := w
  rw [List.append_assoc, List.append_assoc] at heq
  obtain ⟨hsame, hends, hrest⟩ := hsplit (hcode a) (hcode b) (hnot c) (hnot d) heq
  exact ⟨Prod.ext (hinj hsame) (hclose hends), hrest⟩

/-- A constant text in front. -/
theorem after {code : α → List β} (h : Readable code) (front : List β) :
    Readable fun a => front ++ code a := by
  refine ⟨fun {a b x y} heq => ?_⟩
  rw [List.append_assoc, List.append_assoc] at heq
  exact h.split (List.append_cancel_left heq)

/-- One code after the other. -/
theorem append {code : α → List β} {code' : γ → List β} (h : Readable code) (h' : Readable code') :
    Readable fun p : α × γ => code p.1 ++ code' p.2 := by
  refine ⟨fun {p q x y} heq => ?_⟩
  obtain ⟨a, c⟩ := p
  obtain ⟨b, d⟩ := q
  rw [List.append_assoc, List.append_assoc] at heq
  obtain ⟨rfl, hrest⟩ := h.split heq
  obtain ⟨rfl, htail⟩ := h'.split hrest
  exact ⟨rfl, htail⟩

/-- A run of codes, closed by a symbol that none of them starts with. -/
theorem delimited {code : α → List β} (h : Readable code) {close : β}
    (hclose : ∀ a x y, code a ++ x ≠ close :: y) :
    Readable fun l : List α => l.flatMap code ++ [close] := by
  refine ⟨fun {l m x y} heq => ?_⟩
  -- One code at a time: the closing symbol ends both runs or neither.
  induction l generalizing m with
  | nil =>
      cases m with
      | nil => exact ⟨rfl, List.append_cancel_left heq⟩
      | cons b m =>
          simp only [List.flatMap_cons, List.append_assoc] at heq
          exact absurd heq.symm (hclose b _ _)
  | cons a l ih =>
      cases m with
      | nil =>
          simp only [List.flatMap_cons, List.append_assoc] at heq
          exact absurd heq (hclose a _ _)
      | cons b m =>
          simp only [List.flatMap_cons, List.append_assoc] at heq
          obtain ⟨rfl, hrest⟩ := h.split heq
          rw [← List.append_assoc, ← List.append_assoc] at hrest
          obtain ⟨rfl, htail⟩ := ih hrest
          exact ⟨rfl, htail⟩

/-- What is read off a value by an injection. -/
theorem comp {code : α → List β} (h : Readable code) {f : γ → α} (hf : Function.Injective f) :
    Readable fun c => code (f c) := by
  refine ⟨fun {c d x y} heq => ?_⟩
  obtain ⟨hsame, hrest⟩ := h.split heq
  exact ⟨hf hsame, hrest⟩

end Readable

/-! ## In front of certain symbols -/

/-- There is nothing left, or a symbol that stops. -/
def Stops (stop : β → Prop) (x : List β) : Prop :=
  ∀ c, x.head? = some c → stop c

/-- In front of a symbol that stops, the value and the rest can be told, up to `R`. -/
def ReadableUpTo (stop : β → Prop) (code : α → List β) (R : α → α → Prop) (a : α) : Prop :=
  ∀ b x y, Stops stop x → Stops stop y → code a ++ x = code b ++ y → R a b ∧ x = y

/-- Items with a separator between them and a symbol at the end. -/
def items (code : α → List β) (separator close : β) : List α → List β
  | [] => [close]
  | [a] => code a ++ [close]
  | a :: b :: rest => code a ++ separator :: items code separator close (b :: rest)

section Items

variable {stop : β → Prop} {code : α → List β} {R : α → α → Prop} {separator close : β}

theorem stops_cons {c : β} (h : stop c) (x : List β) : Stops stop (c :: x) := by
  intro d hd
  cases hd
  exact h

theorem items_cons (a : α) (rest : List α) :
    ∃ c tail, items code separator close (a :: rest) = code a ++ c :: tail ∧
      (c = separator ∨ c = close) := by
  cases rest with
  | nil => exact ⟨close, [], rfl, .inr rfl⟩
  | cons b rest => exact ⟨separator, _, rfl, .inl rfl⟩

/-- A list of items can be read off the front of any text. -/
theorem readableUpTo_items (hseparator : stop separator) (hclose : stop close)
    (hne : separator ≠ close) (hstart : ∀ a x y, code a ++ x ≠ close :: y) {l m : List α}
    (h : ∀ a ∈ l, ReadableUpTo stop code R a) {x y : List β}
    (heq : items code separator close l ++ x = items code separator close m ++ y) :
    List.Forall₂ R l m ∧ x = y := by
  have hopen : ∀ (a : α) (rest : List α) (x y : List β),
      items code separator close (a :: rest) ++ x ≠ close :: y := by
    intro a rest x y hboth
    obtain ⟨c, tail, hitems, -⟩ : ∃ c tail, items code separator close (a :: rest) =
        code a ++ c :: tail ∧ (c = separator ∨ c = close) := items_cons a rest
    rw [hitems, List.append_assoc] at hboth
    exact hstart a _ _ hboth
  induction l generalizing m with
  | nil =>
      cases m with
      | nil => exact ⟨.nil, List.append_cancel_left heq⟩
      | cons b m => exact absurd heq.symm (hopen b m y x)
  | cons a l ih =>
      have ha := h a List.mem_cons_self
      have hl : ∀ a ∈ l, ReadableUpTo stop code R a :=
        fun a' ha' => h a' (List.mem_cons_of_mem _ ha')
      cases m with
      | nil => exact absurd heq (hopen a l x y)
      | cons b m =>
          -- The symbol behind the first item says whether it is the last.
          cases l with
          | nil =>
              cases m with
              | nil =>
                  simp only [items, List.append_assoc] at heq
                  obtain ⟨hab, hrest⟩ := ha b _ _ (stops_cons hclose _) (stops_cons hclose _) heq
                  exact ⟨.cons hab .nil, (List.cons.inj hrest).2⟩
              | cons b' m =>
                  simp only [items, List.append_assoc] at heq
                  obtain ⟨-, hrest⟩ := ha b _ _ (stops_cons hclose _) (stops_cons hseparator _) heq
                  exact absurd (List.cons.inj hrest).1.symm hne
          | cons a' l =>
              cases m with
              | nil =>
                  simp only [items, List.append_assoc] at heq
                  obtain ⟨-, hrest⟩ := ha b _ _ (stops_cons hseparator _) (stops_cons hclose _) heq
                  exact absurd (List.cons.inj hrest).1 hne
              | cons b' m =>
                  simp only [items, List.append_assoc] at heq
                  obtain ⟨hab, hrest⟩ :=
                    ha b _ _ (stops_cons hseparator _) (stops_cons hseparator _) heq
                  obtain ⟨htail, hxy⟩ := ih hl (List.cons.inj hrest).2
                  exact ⟨.cons hab htail, hxy⟩

end Items
