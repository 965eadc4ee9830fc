import OwneX.Contracts.Basic

set_option autoImplicit false

/-! # What `AssetNFT` relies on from its token base contracts

`AssetNFT` inherits OpenZeppelin's `ERC721`, `ERC721Enumerable` and `ERC721URIStorage`. Their
storage is a parameter `σ` here: `ERC721 σ` names the operations the contract reaches it through and
the documented behaviour of each that matters for who holds a token and what its URI is. Balances,
the enumeration and the approvals stay inside `σ`.

`Ledger` is the reference instance: owners, approvals, operators and URIs, with the base contract's
own invariant (nothing is approved for a token that does not exist, no operator acts for the zero
address) carried as fields. -/

namespace OwneX

class ERC721 (σ : Type) where
  /-- The storage after the constructor: nothing minted. -/
  deployed : σ
  /-- `_ownerOf(tokenId)`: zero for a token that does not exist. -/
  ownerOf : σ → Nat → Address
  tokenURI : σ → Nat → String
  /-- The base `_update(to, tokenId, auth)`; the owner it returns is `ownerOf` before. -/
  update : σ → Address → Nat → Address → Option σ
  /-- `approve(to, tokenId)` by `sender`. -/
  approve : σ → Account → Address → Nat → Option σ
  /-- `setApprovalForAll(operator, approved)` by `sender`. -/
  setApprovalForAll : σ → Account → Address → Bool → Option σ
  /-- `_setTokenURI(tokenId, uri)` -/
  setTokenURI : σ → Nat → String → σ
  ownerOf_deployed : ∀ t, ownerOf deployed t = 0#160
  /-- `_update` moves exactly the token it is given. -/
  ownerOf_update : ∀ {s s' : σ} {to_ : Address} {t : Nat} {auth : Address},
    update s to_ t auth = some s' → ownerOf s' = Function.update (ownerOf s) t to_
  tokenURI_update : ∀ {s s' : σ} {to_ : Address} {t : Nat} {auth : Address},
    update s to_ t auth = some s' → tokenURI s' = tokenURI s
  /-- With a nonzero `auth` the token must exist: nobody is authorised for one that does not. -/
  owned_of_update : ∀ {s s' : σ} {to_ : Address} {t : Nat} {auth : Address},
    update s to_ t auth = some s' → auth ≠ 0#160 → ownerOf s t ≠ 0#160
  ownerOf_approve : ∀ {s s' : σ} {sender : Account} {to_ : Address} {t : Nat},
    approve s sender to_ t = some s' → ownerOf s' = ownerOf s
  tokenURI_approve : ∀ {s s' : σ} {sender : Account} {to_ : Address} {t : Nat},
    approve s sender to_ t = some s' → tokenURI s' = tokenURI s
  ownerOf_setApprovalForAll : ∀ {s s' : σ} {sender : Account} {operator : Address} {b : Bool},
    setApprovalForAll s sender operator b = some s' → ownerOf s' = ownerOf s
  tokenURI_setApprovalForAll : ∀ {s s' : σ} {sender : Account} {operator : Address} {b : Bool},
    setApprovalForAll s sender operator b = some s' → tokenURI s' = tokenURI s
  ownerOf_setTokenURI : ∀ (s : σ) (t : Nat) (uri : String),
    ownerOf (setTokenURI s t uri) = ownerOf s
  tokenURI_setTokenURI : ∀ (s : σ) (t : Nat) (uri : String),
    tokenURI (setTokenURI s t uri) = Function.update (tokenURI s) t uri

/-! ## The reference ledger -/

structure Ledger where
  owners : Nat → Address
  tokenApprovals : Nat → Address
  operatorApprovals : Address → Address → Bool
  tokenURIs : Nat → String
  approval_unowned : ∀ t, owners t = 0#160 → tokenApprovals t = 0#160
  operator_zero : ∀ operator, operatorApprovals 0#160 operator = false

namespace Ledger

def deployed : Ledger where
  owners := fun _ => 0#160
  tokenApprovals := fun _ => 0#160
  operatorApprovals := fun _ _ => false
  tokenURIs := fun _ => ""
  approval_unowned := fun _ _ => rfl
  operator_zero := fun _ => rfl

/-- `_isAuthorized(owner, spender, tokenId)` -/
def isAuthorized (s : Ledger) (owner spender : Address) (tokenId : Nat) : Bool :=
  spender != 0#160 && (owner == spender || s.operatorApprovals owner spender
    || s.tokenApprovals tokenId == spender)

/-- `_update`: a nonzero `auth` must be authorised; the approval is cleared with the move. -/
def update (s : Ledger) (to_ : Address) (tokenId : Nat) (auth : Address) : Option Ledger :=
  if auth ≠ 0#160 ∧ ¬ s.isAuthorized (s.owners tokenId) auth tokenId then none
  else some { s with
    owners := Function.update s.owners tokenId to_
    tokenApprovals := Function.update s.tokenApprovals tokenId 0#160
    approval_unowned := fun t h => by
      by_cases ht : t = tokenId
      · simp [ht]
      · simp only [Function.update_of_ne ht] at h ⊢
        exact s.approval_unowned t h }

/-- `approve`: by the owner or an operator of an existing token. -/
def approve (s : Ledger) (sender : Account) (to_ : Address) (tokenId : Nat) : Option Ledger :=
  if h : s.owners tokenId = 0#160 then none
  else if s.owners tokenId = sender ∨ s.operatorApprovals (s.owners tokenId) sender then
    some { s with
      tokenApprovals := Function.update s.tokenApprovals tokenId to_
      approval_unowned := fun t ht => by
        have hne : t ≠ tokenId := fun e => h (e ▸ ht)
        simpa only [Function.update_of_ne hne] using s.approval_unowned t ht }
  else none

def setApprovalForAll (s : Ledger) (sender : Account) (operator : Address) (approved : Bool) :
    Option Ledger :=
  if operator = 0#160 then none
  else some { s with
    operatorApprovals := Storage.set₂ s.operatorApprovals sender operator approved
    operator_zero := fun o => by
      rw [Storage.set₂_of_ne (fun h => sender.2 h.1.symm)]
      exact s.operator_zero o }

def setTokenURI (s : Ledger) (tokenId : Nat) (uri : String) : Ledger :=
  { s with tokenURIs := Function.update s.tokenURIs tokenId uri }

/-- Nobody is authorised for a token without an owner. -/
theorem isAuthorized_unowned (s : Ledger) {tokenId : Nat} (h : s.owners tokenId = 0#160)
    (spender : Address) : s.isAuthorized (s.owners tokenId) spender tokenId = false := by
  by_cases hs : spender = 0#160
  · simp [isAuthorized, hs]
  · have hs' : ¬ 0#160 = spender := fun e => hs e.symm
    simp [isAuthorized, h, s.operator_zero, s.approval_unowned _ h, hs']

theorem update_eq_some {s s' : Ledger} {to_ : Address} {t : Nat} {auth : Address}
    (h : s.update to_ t auth = some s') :
    (auth ≠ 0#160 → s.isAuthorized (s.owners t) auth t = true) ∧
      s'.owners = Function.update s.owners t to_ ∧ s'.tokenURIs = s.tokenURIs := by
  unfold update at h
  split at h
  · cases h
  · next hauth =>
      cases h
      exact ⟨fun h0 => by simpa [h0] using hauth, rfl, rfl⟩

theorem approve_eq_some {s s' : Ledger} {sender : Account} {to_ : Address} {t : Nat}
    (h : s.approve sender to_ t = some s') :
    s'.owners = s.owners ∧ s'.tokenURIs = s.tokenURIs := by
  unfold approve at h
  split at h
  · cases h
  · split at h
    · cases h
      exact ⟨rfl, rfl⟩
    · cases h

theorem setApprovalForAll_eq_some {s s' : Ledger} {sender : Account} {operator : Address}
    {b : Bool} (h : s.setApprovalForAll sender operator b = some s') :
    s'.owners = s.owners ∧ s'.tokenURIs = s.tokenURIs := by
  unfold setApprovalForAll at h
  split at h
  · cases h
  · cases h
    exact ⟨rfl, rfl⟩

instance : ERC721 Ledger where
  deployed := deployed
  ownerOf := owners
  tokenURI := tokenURIs
  update := update
  approve := approve
  setApprovalForAll := setApprovalForAll
  setTokenURI := setTokenURI
  ownerOf_deployed := fun _ => rfl
  ownerOf_update := fun h => (update_eq_some h).2.1
  tokenURI_update := fun h => (update_eq_some h).2.2
  owned_of_update := fun {s _ _ _ _} h hauth h0 => by
    have hok := (update_eq_some h).1 hauth
    rw [s.isAuthorized_unowned h0] at hok
    cases hok
  ownerOf_approve := fun h => (approve_eq_some h).1
  tokenURI_approve := fun h => (approve_eq_some h).2
  ownerOf_setApprovalForAll := fun h => (setApprovalForAll_eq_some h).1
  tokenURI_setApprovalForAll := fun h => (setApprovalForAll_eq_some h).2
  ownerOf_setTokenURI := fun _ _ _ => rfl
  tokenURI_setTokenURI := fun _ _ _ => rfl

end Ledger

end OwneX
