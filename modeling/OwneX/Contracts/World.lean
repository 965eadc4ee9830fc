import OwneX.Contracts.AssetNFT

set_option autoImplicit false

/-! # The three contracts together

A deployment is the storage of the three contracts (`World`). A transaction calls one external
function of one of them. All but the mint and the safe transfers run without leaving the contracts;
those two call the recipient's `onERC721Received`, which may call the contracts again, from itself
or through other accounts, before it answers. Such a recipient is a `Hook`: the calls it makes, in
order, and whether it answers with the value that accepts the token. An account without code is the
hook that makes no call and accepts.

`Call.exec` runs a call. Everything a call does is a sequence of `Action`s, each of which changes
the storage in one uninterrupted stretch, and the execution records them as `Transition`s; a nested
call that reverts leaves neither a change nor a transition, and the hook may go on after it. -/

namespace OwneX

open Storage

structure World (σ : Type) where
  registry : IdentityRegistry
  access : OrgAccessManager
  nft : AssetNFT σ

inductive Event where
  | registry (e : RegistryEvent)
  | access (e : AccessEvent)
  | asset (e : AssetEvent)
deriving DecidableEq

inductive CallError where
  | registry (e : RegistryError)
  | access (e : AccessError)
  | asset (e : AssetError)
deriving DecidableEq

/-- One uninterrupted stretch of execution inside the contracts. -/
inductive Action where
  | registry (c : RegistryCall)
  | access (c : AccessCall)
  | asset (c : AssetCall)
  | mintBegin (orgId : Nat) (assignedTo : Address) (assetHash : Bytes32) (metadataURI : String)
  | mintEnd (tokenId orgId : Nat) (assignedTo : Address) (assetHash : Bytes32)
      (metadataURI : String)
deriving DecidableEq

variable {σ : Type} [ERC721 σ]

namespace World

/-- The storage right after the three constructors. -/
def deploy (registryOwner assetOwner : Account) : World σ where
  registry := .deploy registryOwner
  access := .deploy
  nft := .deploy assetOwner

variable (w : World σ)

def canAccessApp (now : Nat) (orgId : Nat) (wallet : Address) (appId : Bytes32) : Bool :=
  w.access.canAccessApp w.registry now orgId wallet appId

def effectiveRole (now : Nat) (orgId : Nat) (wallet : Address) : Bytes32 :=
  w.access.effectiveRole w.registry now orgId wallet

def hasPermission (now : Nat) (orgId : Nat) (wallet : Address) (permission : Bytes32) : Bool :=
  w.access.hasPermission w.registry now orgId wallet permission

/-- One action: the storage after it and the events it emits, in order. -/
def step (msg : Msg) : Action → Except CallError (World σ × List Event)
  | .registry c =>
      match c.exec w.registry msg with
      | .error e => .error (.registry e)
      | .ok (registry, events) => .ok ({ w with registry }, events.map .registry)
  | .access c =>
      match c.exec w.access w.registry msg with
      | .error e => .error (.access e)
      | .ok (access, events) => .ok ({ w with access }, events.map .access)
  | .asset c =>
      match c.exec w.nft w.access w.registry msg with
      | .error e => .error (.asset e)
      | .ok (nft, events) => .ok ({ w with nft }, events.map .asset)
  | .mintBegin orgId assignedTo assetHash metadataURI =>
      match w.nft.mintAssetBegin w.access w.registry msg orgId assignedTo assetHash metadataURI with
      | .error e => .error (.asset e)
      | .ok nft => .ok ({ w with nft }, [])
  | .mintEnd tokenId orgId assignedTo assetHash metadataURI =>
      match w.nft.mintAssetEnd msg tokenId orgId assignedTo assetHash metadataURI with
      | .error e => .error (.asset e)
      | .ok (nft, events) => .ok ({ w with nft }, events.map .asset)

end World

/-- An action that has happened: who did it, when, and the storage on both sides. -/
structure Transition (σ : Type) where
  before : World σ
  msg : Msg
  action : Action
  after : World σ
  events : List Event

/-- A transition is valid when the action really leads from `before` to `after`. -/
def Transition.Valid (t : Transition σ) : Prop :=
  t.before.step t.msg t.action = .ok (t.after, t.events)

/-! ## Calls, recipients' hooks, transactions -/

mutual

/-- A call of one external function, with what the recipient does where there is one. -/
inductive Call where
  | registry (c : RegistryCall)
  | access (c : AccessCall)
  | asset (c : AssetCall)
  | mintAsset (orgId : Nat) (assignedTo : Address) (assetHash : Bytes32) (metadataURI : String)
      (hook : Hook)
  | safeTransferFrom (from_ to_ : Address) (tokenId : Nat) (hook : Hook)

/-- The recipient's `onERC721Received`: the calls it makes, each from some account, and its
    answer. -/
inductive Hook where
  | done (accepts : Bool)
  | call (sender : Account) (c : Call) (rest : Hook)

end

/-- An action on its own, as a call that succeeds with one transition. -/
def Action.run (w : World σ) (msg : Msg) (a : Action) :
    Except CallError (World σ × List (Transition σ)) := do
  let (w', events) ← w.step msg a
  return (w', [⟨w, msg, a, w', events⟩])

/-- What an external call of the recipient reports when it does not accept the token. -/
def rejected (receiver : Address) : CallError :=
  .asset (.erc721InvalidReceiver receiver)

mutual

/-- Run a call: the storage it leaves and the transitions it made, or the error it reverts with. -/
def Call.exec (w : World σ) (msg : Msg) : Call →
    Except CallError (World σ × List (Transition σ))
  | .registry c => Action.run w msg (.registry c)
  | .access c => Action.run w msg (.access c)
  | .asset c => Action.run w msg (.asset c)
  | .mintAsset orgId assignedTo assetHash metadataURI hook => do
      let tokenId := w.nft.nextTokenId
      let (w₁, begun) ← Action.run w msg (.mintBegin orgId assignedTo assetHash metadataURI)
      let (w₂, inner, accepts) := hook.run w₁ msg.timestamp
      revertIf (¬ accepts) (rejected assignedTo)
      let (w₃, ended) ← Action.run w₂ msg (.mintEnd tokenId orgId assignedTo assetHash metadataURI)
      return (w₃, begun ++ inner ++ ended)
  | .safeTransferFrom from_ to_ tokenId hook => do
      let (w₁, moved) ← Action.run w msg (.asset (.transferFrom from_ to_ tokenId))
      let (w₂, inner, accepts) := hook.run w₁ msg.timestamp
      revertIf (¬ accepts) (rejected to_)
      return (w₂, moved ++ inner)

/-- Run a hook inside the transaction at time `now`. A nested call that reverts changes nothing. -/
def Hook.run (w : World σ) (now : Nat) : Hook → World σ × List (Transition σ) × Bool
  | .done accepts => (w, [], accepts)
  | .call sender c rest =>
      match c.exec w ⟨sender, now⟩ with
      | .error _ => rest.run w now
      | .ok (w', made) =>
          let (w'', later, accepts) := rest.run w' now
          (w'', made ++ later, accepts)

end

/-- A transaction: a call by some account, at the time of its block. -/
structure Tx where
  msg : Msg
  call : Call

namespace World

/-- A transaction that reverts leaves the storage as it was. -/
def runTx (w : World σ) (tx : Tx) : World σ × List (Transition σ) :=
  match tx.call.exec w tx.msg with
  | .error _ => (w, [])
  | .ok r => r

/-- A run: the transactions in their order. -/
def run (w : World σ) : List Tx → World σ × List (Transition σ)
  | [] => (w, [])
  | tx :: txs =>
      let (w₁, made) := w.runTx tx
      let (w₂, later) := w₁.run txs
      (w₂, made ++ later)

/-- The states a deployment can be seen in, between transactions and, during a mint, by the
    recipient's hook. -/
def Reachable (w : World σ) : Prop :=
  ∃ (registryOwner assetOwner : Account) (txs : List Tx),
    w = deploy registryOwner assetOwner ∨
      ∃ t ∈ ((deploy registryOwner assetOwner : World σ).run txs).2, w = t.after

end World

end OwneX
