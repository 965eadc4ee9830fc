import Mathlib.Data.List.Nodup
import Mathlib.Logic.Function.Basic

set_option autoImplicit false

/-! # Swap-and-pop enumerations

A contract that must enumerate a set keeps a list of the elements and, for each of them, its
position in the list. Adding appends. Removing an element at position `i` moves the last element
into position `i`, pops the list and updates the moved element's position, so it takes constant
time. `Indexed l ix` says that the two agree; `indexed_push` and `indexed_swapPop` are its
preservation, and `mem_swapPop` says that a removal removes exactly its element. -/

namespace IndexedList

variable {α : Type}

/-- `l` has no duplicates, and `ix` gives every element of `l` its position. -/
structure Indexed (l : List α) (ix : α → Nat) : Prop where
  nodup : l.Nodup
  get : ∀ a ∈ l, l[ix a]? = some a

/-- The list after the element at position `i` has been swapped out: `last` is the last element. -/
def swapPop (l : List α) (i : Nat) (last : α) : List α :=
  (l.set i last).dropLast

theorem indexed_nil (ix : α → Nat) : Indexed ([] : List α) ix :=
  ⟨List.nodup_nil, by simp⟩

theorem Indexed.lt_length {l : List α} {ix : α → Nat} (h : Indexed l ix) {a : α} (ha : a ∈ l) :
    ix a < l.length :=
  (List.getElem?_eq_some_iff.1 (h.get a ha)).1

theorem Indexed.inj {l : List α} {ix : α → Nat} (h : Indexed l ix) {a b : α} (ha : a ∈ l)
    (hb : b ∈ l) (heq : ix a = ix b) : a = b := by
  have hget := h.get a ha
  rw [heq, h.get b hb] at hget
  exact (Option.some.inj hget).symm

theorem Indexed.le_front {front : List α} {last : α} {ix : α → Nat}
    (h : Indexed (front ++ [last]) ix) {a : α} (ha : a ∈ front ++ [last]) :
    ix a ≤ front.length := by
  have hlt := h.lt_length ha
  simp only [List.length_append, List.length_singleton] at hlt
  omega

theorem swapPop_append (front : List α) (last : α) {i : Nat} (hi : i ≤ front.length) :
    swapPop (front ++ [last]) i last = front.set i last := by
  unfold swapPop
  rcases Nat.lt_or_eq_of_le hi with hlt | rfl
  · rw [List.set_append_left _ _ hlt, List.dropLast_concat]
  · rw [List.set_append_right _ _ (Nat.le_refl _), Nat.sub_self, List.set_cons_zero,
      List.dropLast_concat, List.set_eq_of_length_le (Nat.le_refl _)]

/-- Where an indexed list ending in `last` keeps an element: at the end exactly when it is
    `last`. -/
theorem Indexed.front_index {front : List α} {last : α} {ix : α → Nat}
    (h : Indexed (front ++ [last]) ix) {a : α} (ha : a ∈ front ++ [last]) :
    (a = last ∧ ix a = front.length) ∨ (a ≠ last ∧ front[ix a]? = some a) := by
  have hget := h.get a ha
  have hlt := h.lt_length ha
  rw [List.length_append, List.length_singleton] at hlt
  rcases Nat.lt_or_eq_of_le (Nat.le_of_lt_succ hlt) with hfront | hend
  · rw [List.getElem?_append_left hfront] at hget
    refine Or.inr ⟨?_, hget⟩
    rintro rfl
    have hmem : a ∈ front := List.mem_of_getElem? hget
    exact (List.nodup_append.1 h.nodup).2.2 a hmem a (by simp) rfl
  · rw [hend, List.getElem?_concat_length] at hget
    exact Or.inl ⟨(Option.some.inj hget).symm, hend⟩

variable {l : List α} {ix : α → Nat} {a last : α}

/-- A nonempty list is its front and its last element. -/
theorem eq_front_append (hlast : l.getLast? = some last) : ∃ front, l = front ++ [last] :=
  List.getLast?_eq_some_iff.1 hlast

/-- Removing `a` leaves exactly the other elements. -/
theorem mem_swapPop (h : Indexed l ix) (ha : a ∈ l) (hlast : l.getLast? = some last) (b : α) :
    b ∈ swapPop l (ix a) last ↔ b ∈ l ∧ b ≠ a := by
  obtain ⟨front, rfl⟩ := eq_front_append hlast
  have hnodup := List.nodup_append.1 h.nodup
  rcases h.front_index ha with ⟨rfl, hend⟩ | ⟨hne, hget⟩
  · rw [swapPop_append front a (by omega), List.set_eq_of_length_le (by omega)]
    grind
  · obtain ⟨hi, hgeti⟩ := List.getElem?_eq_some_iff.1 hget
    rw [swapPop_append front last (Nat.le_of_lt hi), List.mem_iff_getElem?]
    constructor
    · rintro ⟨j, hj⟩
      by_cases hij : ix a = j
      · subst hij
        have : b = last := by simpa [hi] using hj.symm
        subst this
        exact ⟨by simp, fun e => hne e.symm⟩
      · rw [List.getElem?_set_ne hij] at hj
        refine ⟨List.mem_append_left _ (List.mem_of_getElem? hj), ?_⟩
        rintro rfl
        exact hij ((List.getElem?_inj hi hnodup.1).1 (hget.trans hj.symm))
    · rintro ⟨hb, hba⟩
      rcases h.front_index hb with ⟨rfl, _⟩ | ⟨hbl, hgetb⟩
      · exact ⟨ix a, by simp [hi]⟩
      · refine ⟨ix b, ?_⟩
        rw [List.getElem?_set_ne (fun e => hba (h.inj ha hb e).symm)]
        exact hgetb

/-- Removing `a` drops exactly one entry. -/
theorem length_swapPop (ha : a ∈ l) (i : Nat) : (swapPop l i last).length + 1 = l.length := by
  have hpos := List.length_pos_of_mem ha
  simp only [swapPop, List.length_dropLast, List.length_set]
  omega

variable [DecidableEq α]

/-- The positions after `a` has been swapped out. -/
def swapIndex (ix : α → Nat) (a last : α) : α → Nat :=
  Function.update (Function.update ix last (ix a)) a 0

/-- Appending a new element, with the old length as its position. -/
theorem indexed_push {l : List α} {ix : α → Nat} (h : Indexed l ix) {a : α} (ha : a ∉ l) :
    Indexed (l ++ [a]) (Function.update ix a l.length) := by
  refine ⟨?_, fun b hb => ?_⟩
  · rw [List.nodup_append]
    exact ⟨h.nodup, by simp, by grind⟩
  · by_cases hba : b = a
    · subst hba
      simp
    · have hbl : b ∈ l := by simpa [hba] using hb
      rw [Function.update_of_ne hba, List.getElem?_append_left (h.lt_length hbl)]
      exact h.get b hbl

/-- Removing `a` keeps the list and the positions in step. -/
theorem indexed_swapPop (h : Indexed l ix) (ha : a ∈ l) (hlast : l.getLast? = some last) :
    Indexed (swapPop l (ix a) last) (swapIndex ix a last) := by
  refine ⟨?_, fun b hb => ?_⟩
  · obtain ⟨front, rfl⟩ := eq_front_append hlast
    have hnodup := List.nodup_append.1 h.nodup
    rw [swapPop_append front last (h.le_front ha)]
    exact hnodup.1.set (fun hmem => hnodup.2.2 last hmem last (by simp) rfl)
  · obtain ⟨hbl, hba⟩ := (mem_swapPop h ha hlast b).1 hb
    obtain ⟨front, rfl⟩ := eq_front_append hlast
    rw [swapPop_append front last (h.le_front ha)]
    unfold swapIndex
    rw [Function.update_of_ne hba]
    by_cases hblast : b = last
    · subst hblast
      -- `b` is the element that was moved into the hole `a` left.
      rcases h.front_index ha with ⟨rfl, _⟩ | ⟨_, hget⟩
      · exact absurd rfl hba
      · have hi := (List.getElem?_eq_some_iff.1 hget).1
        simp [hi]
    · rcases h.front_index hbl with ⟨rfl, _⟩ | ⟨_, hgetb⟩
      · exact absurd rfl hblast
      · rw [Function.update_of_ne hblast,
          List.getElem?_set_ne (fun e => hba (h.inj ha hbl e).symm)]
        exact hgetb

end IndexedList
