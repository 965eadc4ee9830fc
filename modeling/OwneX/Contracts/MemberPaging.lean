import OwneX.Contracts.Invariants
import OwneX.Library.Slices

set_option autoImplicit false

/-! # Paging through the members of an organization

`getMembersPaged` adds the limit to the offset before it compares the sum with the length of the
list, and the addition is checked. A page is the slice it should be unless the sum leaves 256 bits
while the offset is inside the list. A client that goes on from page to page never gets there: a
list of distinct addresses is far too short. -/

namespace OwneX

open Slices

/-- `x + y` in Solidity's checked arithmetic for an unsigned type of `bits` bits: `none` is the
    panic that reverts the call. -/
def checkedAdd (bits x y : Nat) : Option Nat :=
  if x + y < 2 ^ bits then some (x + y) else none

namespace OrgAccessManager

/-- `for (uint256 i = offset; i < offset + steps; ++i) page[i - offset] = list[i]`, where an access
    out of bounds reverts. -/
def copyPage (list : List Address) (offset : Nat) (page : List Address) :
    Nat → Option (List Address)
  | 0 => some page
  | steps + 1 =>
      match copyPage list offset page steps, list[offset + steps]? with
      | some page, some member => if steps < page.length then some (page.set steps member) else none
      | _, _ => none

variable (a : OrgAccessManager)

/-- Paged member enumeration for dashboards with large organizations. `none` is a revert. -/
def getMembersPaged (orgId : Nat) (offset limit : BitVec 256) : Option (List Address) :=
  let list := a.memberList orgId
  if list.length ≤ offset.toNat then some []
  else
    match checkedAdd 256 offset.toNat limit.toNat with
    | none => none
    | some sum =>
        let last := if list.length < sum then list.length else sum
        copyPage list offset.toNat (List.replicate (last - offset.toNat) 0#160) (last - offset.toNat)

end OrgAccessManager

open OrgAccessManager

/-! ## One page -/

theorem copyPage_eq {list page : List Address} {offset steps : Nat}
    (hlist : offset + steps ≤ list.length) (hpage : steps ≤ page.length) :
    copyPage list offset page steps = some (slice list offset steps ++ page.drop steps) := by
  induction steps with
  | zero => rfl
  | succ steps ih =>
      have hget : list[offset + steps]? = some list[offset + steps] :=
        List.getElem?_eq_getElem (by omega)
      have hlen : (slice list offset steps).length = steps := by
        rw [slice, List.length_take, List.length_drop]
        omega
      have hroom : steps < (slice list offset steps ++ page.drop steps).length := by
        rw [List.length_append, hlen, List.length_drop]
        omega
      rw [copyPage, ih (by omega) (by omega), hget]
      dsimp only
      rw [if_pos hroom, List.set_append_right (h := Nat.le_of_eq hlen), hlen, Nat.sub_self,
        List.drop_eq_getElem_cons (h := by omega), List.set_cons_zero]
      have hnext : slice list offset (steps + 1) = slice list offset steps ++ [list[offset + steps]] := by
        unfold slice
        rw [List.take_add_one, List.getElem?_drop, hget]
        rfl
      rw [hnext, List.append_assoc, List.singleton_append]

/-- A page is a slice where its end can be computed, and where there is nothing to show. -/
theorem getMembersPaged_eq (a : OrgAccessManager) (orgId : Nat) (offset limit : BitVec 256) :
    a.getMembersPaged orgId offset limit =
      if (a.memberList orgId).length ≤ offset.toNat ∨ offset.toNat + limit.toNat < 2 ^ 256 then
        some (slice (a.memberList orgId) offset.toNat limit.toNat)
      else none := by
  unfold getMembersPaged
  dsimp only
  by_cases hbehind : (a.memberList orgId).length ≤ offset.toNat
  · rw [if_pos hbehind, if_pos (.inl hbehind), slice_of_length_le _ hbehind]
  · rw [if_neg hbehind]
    unfold checkedAdd
    by_cases hsum : offset.toNat + limit.toNat < 2 ^ 256
    · rw [if_pos hsum, if_pos (.inr hsum)]
      dsimp only
      split
      next hlong =>
          -- The end is clamped.
          rw [copyPage_eq (by omega) (by simp), List.drop_replicate, Nat.sub_self,
            List.replicate_zero, List.append_nil]
          unfold slice
          rw [List.take_of_length_le (by simp), List.take_of_length_le (by simp; omega)]
      · rw [copyPage_eq (by omega) (by simp), List.drop_replicate, Nat.sub_self,
          List.replicate_zero, List.append_nil, Nat.add_sub_cancel_left]
    · rw [if_neg hsum, if_neg (not_or_intro hbehind hsum)]

/-! ## All pages -/

/-- There are no more distinct addresses than this. -/
theorem length_le_of_nodup {list : List Address} (h : list.Nodup) : list.length ≤ 2 ^ 160 := by
  have hnodup : (list.map BitVec.toNat).Nodup :=
    h.map fun _ _ heq => BitVec.eq_of_toNat_eq heq
  have hsub : list.map BitVec.toNat ⊆ List.range (2 ^ 160) := by
    intro n hn
    obtain ⟨x, -, rfl⟩ := List.mem_map.1 hn
    exact List.mem_range.2 x.isLt
  have hle := (List.subperm_of_subset hnodup hsub).length_le
  rwa [List.length_map, List.length_range] at hle

/-- A page is the slice it should be just where it starts behind the list or its end can be computed;
    and a client that goes on from page to page reads the whole list, whatever its limit. -/
theorem getMembersPaged_slice_iff {σ : Type} [ERC721 σ] {w : World σ} (h : w.Reachable)
    (orgId : Nat) :
    (∀ offset limit : BitVec 256,
      w.access.getMembersPaged orgId offset limit =
          some (slice (w.access.getMembers orgId) offset.toNat limit.toNat) ↔
        (w.access.getMembers orgId).length ≤ offset.toNat ∨
          offset.toNat + limit.toNat < 2 ^ 256) ∧
    ∀ limit : BitVec 256, 0 < limit.toNat → ∀ fuel, (w.access.getMembers orgId).length < fuel →
      collect (fun offset => w.access.getMembersPaged orgId (.ofNat 256 offset) limit) limit.toNat
        fuel 0 = some (w.access.getMembers orgId) := by
  have hlen : (w.access.memberList orgId).length ≤ 2 ^ 160 :=
    length_le_of_nodup (h.membersInv.indexed orgId).nodup
  unfold OrgAccessManager.getMembers
  refine ⟨?_, ?_⟩
  · intro offset limit
    rw [getMembersPaged_eq]
    split
    next hpage => exact iff_of_true rfl hpage
    next hpage => exact iff_of_false (Option.some_ne_none _).symm hpage
  · intro limit hpos fuel hfuel
    have hlimit : limit.toNat < 2 ^ 256 := limit.isLt
    have hpages : ∀ k, k * limit.toNat < (w.access.memberList orgId).length + limit.toNat →
        w.access.getMembersPaged orgId (.ofNat 256 (k * limit.toNat)) limit =
          some (slice (w.access.memberList orgId) (k * limit.toNat) limit.toNat) := by
      intro k hk
      -- Where the limit is the longer one there is only the first page and an empty one.
      have hend : k * limit.toNat < 2 ^ 256 ∧
          ((w.access.memberList orgId).length ≤ k * limit.toNat ∨
            k * limit.toNat + limit.toNat < 2 ^ 256) := by
        by_cases hshort : limit.toNat < (w.access.memberList orgId).length
        · omega
        · have hk' : k < 2 := by
            by_contra hk'
            have hmul : 2 * limit.toNat ≤ k * limit.toNat := Nat.mul_le_mul_right _ (by omega)
            omega
          rcases Nat.le_one_iff_eq_zero_or_eq_one.1 (Nat.le_of_lt_succ hk') with rfl | rfl
          · omega
          · omega
      have hoffset : (BitVec.ofNat 256 (k * limit.toNat)).toNat = k * limit.toNat := by
        rw [BitVec.toNat_ofNat, Nat.mod_eq_of_lt hend.1]
      rw [getMembersPaged_eq, hoffset, if_pos hend.2]
    have hfuel' : (w.access.memberList orgId).length + limit.toNat ≤ (0 + fuel) * limit.toNat := by
      obtain ⟨more, rfl⟩ := Nat.exists_eq_add_of_lt hfuel
      have hmul : (w.access.memberList orgId).length ≤
          ((w.access.memberList orgId).length + more) * limit.toNat :=
        (Nat.le_add_right _ _).trans (Nat.le_mul_of_pos_right _ hpos)
      rw [Nat.zero_add, Nat.succ_mul]
      exact Nat.add_le_add_right hmul _
    have hall := @collect_slices _
      (fun offset => w.access.getMembersPaged orgId (.ofNat 256 offset) limit) _ _ hpos hpages
      fuel 0 hfuel' (by omega)
    rwa [Nat.zero_mul, List.drop_zero] at hall

/-! ## Bob and Carol -/

/-- The second page of one is Carol. -/
theorem Sample.carol_paged :
    (Sample.after []).access.getMembersPaged 1 1 1 = some [Sample.carol.1] := by
  have hslice := ((getMembersPaged_slice_iff (Sample.after_reachable []) 1).1 1 1).2
    (.inr (by decide))
  have hcarol : slice ((Sample.after []).access.getMembers 1) 1 1 = [Sample.carol.1] := by
    decide +kernel
  rw [hslice]
  exact congrArg some hcarol

/-- Everything but the first member, with a limit that is too much. -/
theorem Sample.rest_reverts :
    ¬ ∀ (w : World Ledger), w.Reachable → ∀ (orgId : Nat) (offset limit : BitVec 256),
      w.access.getMembersPaged orgId offset limit =
        some (slice (w.access.getMembers orgId) offset.toNat limit.toNat) := by
  intro hall
  have hnone : (Sample.after []).access.getMembersPaged 1 1 (.allOnes 256) = none := by
    decide +kernel
  have hpage := hall (Sample.after []) (Sample.after_reachable []) 1 1 (.allOnes 256)
  rw [hnone] at hpage
  cases hpage

end OwneX
