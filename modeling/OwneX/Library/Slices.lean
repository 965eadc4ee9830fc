import Mathlib.Data.List.TakeDrop

set_option autoImplicit false

/-! # Reading a list by offset and limit

A client that knows nothing of the length of a list asks for one page after the other, at offsets
that grow by the limit, until a page is empty. Where each page is the slice it should be, the client
has read the whole list (`collect_slices`). -/

namespace Slices

variable {α : Type}

/-- `l[offset .. min(offset + limit, |l|))` -/
def slice (l : List α) (offset limit : Nat) : List α :=
  (l.drop offset).take limit

theorem slice_of_length_le {l : List α} {offset : Nat} (limit : Nat) (h : l.length ≤ offset) :
    slice l offset limit = [] := by
  unfold slice
  rw [List.drop_eq_nil_of_le h, List.take_nil]

theorem slice_eq_nil_iff {l : List α} {offset limit : Nat} (hpos : 0 < limit) :
    slice l offset limit = [] ↔ l.length ≤ offset := by
  unfold slice
  rw [List.take_eq_nil_iff, List.drop_eq_nil_iff]
  exact or_iff_right (Nat.ne_of_gt hpos)

/-- Page by page, until one is empty. `none` is a page that could not be read, or no fuel left. -/
def collect (page : Nat → Option (List α)) (limit : Nat) : Nat → Nat → Option (List α)
  | 0, _ => none
  | fuel + 1, offset =>
      match page offset with
      | none => none
      | some [] => some []
      | some items => (collect page limit fuel (offset + limit)).map (items ++ ·)

/-- A client that is given slices has read what is behind its offset, once there is fuel for every
    page. It never looks further than one page behind the end. -/
theorem collect_slices {page : Nat → Option (List α)} {l : List α} {limit : Nat} (hpos : 0 < limit)
    (hpage : ∀ k, k * limit < l.length + limit →
      page (k * limit) = some (slice l (k * limit) limit))
    {fuel k : Nat} (hfuel : l.length + limit ≤ (k + fuel) * limit)
    (hk : k * limit < l.length + limit) :
    collect page limit fuel (k * limit) = some (l.drop (k * limit)) := by
  induction fuel generalizing k with
  | zero =>
      rw [Nat.add_zero] at hfuel
      omega
  | succ fuel ih =>
      unfold collect
      rw [hpage k hk]
      cases hslice : slice l (k * limit) limit with
      | nil =>
          have hle := (slice_eq_nil_iff hpos).1 hslice
          rw [List.drop_eq_nil_of_le hle]
      | cons a rest =>
          have hlt : k * limit < l.length := by
            by_contra hle
            rw [slice_of_length_le limit (by omega)] at hslice
            cases hslice
          have hnext : k * limit + limit = (k + 1) * limit := (Nat.succ_mul k limit).symm
          have hrest := @ih (k + 1) (by rwa [Nat.add_right_comm]) (by omega)
          simp only [hnext, hrest, Option.map_some, ← hslice]
          rw [slice, ← hnext, ← List.drop_drop, List.take_append_drop]

end Slices
