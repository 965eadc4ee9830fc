import OwneX.Library.Storage
import Mathlib.Data.BitVec

set_option autoImplicit false

/-! # The vocabulary the three contracts share

Solidity's value types as the contracts use them. `address`, `bytes32` and the `uint64` timestamps
are bit vectors of their width. Identifiers and counters declared `uint256` or `uint32` are natural
numbers, and the revert of a checked increment that would leave the width is written out where the
source increments one (`checkedSucc`). -/

namespace OwneX

abbrev Address := BitVec 160

abbrev Bytes32 := BitVec 256

abbrev Uint64 := BitVec 64

/-- An account that can be `msg.sender`: no key and no code belongs to the zero address. -/
abbrev Account := { a : Address // a ≠ 0#160 }

/-- What a call reads of its context: `msg.sender` and `block.timestamp`. -/
structure Msg where
  sender : Account
  timestamp : Nat
deriving DecidableEq

/-- The explicit conversion `uint64(block.timestamp)`. -/
def uint64 (n : Nat) : Uint64 := BitVec.ofNat 64 n

/-- `x + 1` in Solidity's checked arithmetic for an unsigned type of `bits` bits: `none` is the
    panic that reverts the call. -/
def checkedSucc (bits x : Nat) : Option Nat :=
  if x + 1 < 2 ^ bits then some (x + 1) else none

theorem checkedSucc_eq_some {bits x y : Nat} (h : checkedSucc bits x = some y) : y = x + 1 := by
  unfold checkedSucc at h
  split at h
  · exact (Option.some.inj h).symm
  · cases h

end OwneX
