import OwneX.Contracts.World
import OwneX.Contracts.RegistryStep
import OwneX.Contracts.AccessStep
import OwneX.Contracts.AssetStep
import OwneX.Library.Trace

set_option autoImplicit false

/-! # Runs of the deployment as paths

The storage and the transitions form a transition system, and everything that executes is a path of
it: an action, a call with whatever its recipient does in the middle, a transaction, a run. What a
property needs to hold of every reachable state is therefore that the constructors establish it and
one action preserves it (`World.Reachable.invariant`), and an action is one of the steps of the
three contracts (`ActionStep`). -/

namespace OwneX

open Storage

variable {σ : Type} [ERC721 σ]

/-! ## Actions -/

inductive ActionStep (w : World σ) (msg : Msg) : Action → World σ → List Event → Prop where
  | registry {c : RegistryCall} {registry : IdentityRegistry} {events : List RegistryEvent}
      (step : RegistryStep w.registry msg c registry events) :
      ActionStep w msg (.registry c) { w with registry } (events.map .registry)
  | access {c : AccessCall} {access : OrgAccessManager} {events : List AccessEvent}
      (step : AccessStep w.access w.registry msg c access events) :
      ActionStep w msg (.access c) { w with access } (events.map .access)
  | asset {c : AssetCall} {nft : AssetNFT σ} {events : List AssetEvent}
      (step : AssetStep w.nft w.access w.registry msg c nft events) :
      ActionStep w msg (.asset c) { w with nft } (events.map .asset)
  | mintBegin {orgId : Nat} {assignedTo : Address} {assetHash : Bytes32} {metadataURI : String}
      {nft : AssetNFT σ}
      (step : MintStep w.nft w.access w.registry msg orgId assignedTo assetHash metadataURI nft) :
      ActionStep w msg (.mintBegin orgId assignedTo assetHash metadataURI) { w with nft } []
  | mintEnd {tokenId orgId : Nat} {assignedTo : Address} {assetHash : Bytes32}
      {metadataURI : String} :
      ActionStep w msg (.mintEnd tokenId orgId assignedTo assetHash metadataURI)
        { w with nft :=
            { w.nft with ledger := ERC721.setTokenURI w.nft.ledger tokenId metadataURI } }
        [.asset (.assetMinted tokenId orgId assignedTo assetHash metadataURI msg.sender)]

/-- An action succeeds exactly by one of the steps of the contracts. -/
theorem World.step_eq_ok {w w' : World σ} {msg : Msg} {a : Action} {events : List Event} :
    w.step msg a = .ok (w', events) ↔ ActionStep w msg a w' events := by
  constructor
  · intro h
    cases a with
    | registry c =>
        simp only [step] at h
        split at h
        · cases h
        · next hexec =>
            cases h
            exact .registry (RegistryCall.exec_eq_ok.1 hexec)
    | access c =>
        simp only [step] at h
        split at h
        · cases h
        · next hexec =>
            cases h
            exact .access (AccessCall.exec_eq_ok.1 hexec)
    | asset c =>
        simp only [step] at h
        split at h
        · cases h
        · next hexec =>
            cases h
            exact .asset (AssetCall.exec_eq_ok.1 hexec)
    | mintBegin orgId assignedTo assetHash metadataURI =>
        simp only [step] at h
        split at h
        · cases h
        · next hexec =>
            cases h
            exact .mintBegin (AssetNFT.mintAssetBegin_eq_ok.1 hexec)
    | mintEnd tokenId orgId assignedTo assetHash metadataURI =>
        cases h
        exact .mintEnd
  · intro h
    cases h with
    | registry hstep => simp only [step, RegistryCall.exec_eq_ok.2 hstep]
    | access hstep => simp only [step, AccessCall.exec_eq_ok.2 hstep]
    | asset hstep => simp only [step, AssetCall.exec_eq_ok.2 hstep]
    | mintBegin hstep => simp only [step, AssetNFT.mintAssetBegin_eq_ok.2 hstep]
    | mintEnd => rfl

/-- Only a call of the registry touches its storage. -/
theorem ActionStep.registry_eq {w w' : World σ} {msg : Msg} {act : Action} {events : List Event}
    (h : ActionStep w msg act w' events) :
    (∃ c es, act = .registry c ∧ RegistryStep w.registry msg c w'.registry es) ∨
      w'.registry = w.registry := by
  cases h with
  | registry hstep => exact .inl ⟨_, _, rfl, hstep⟩
  | _ => exact .inr rfl

/-- Only a call of the access manager touches its storage. -/
theorem ActionStep.access_eq {w w' : World σ} {msg : Msg} {act : Action} {events : List Event}
    (h : ActionStep w msg act w' events) :
    (∃ c es, act = .access c ∧ AccessStep w.access w.registry msg c w'.access es) ∨
      w'.access = w.access := by
  cases h with
  | access hstep => exact .inl ⟨_, _, rfl, hstep⟩
  | _ => exact .inr rfl

theorem Transition.valid_iff {t : Transition σ} :
    t.Valid ↔ ActionStep t.before t.msg t.action t.after t.events :=
  World.step_eq_ok

/-! ## Everything that executes is a path -/

/-- The transition system of a deployment. -/
def World.system (σ : Type) [ERC721 σ] : TransitionSystem (World σ) (Transition σ) where
  source := Transition.before
  target := Transition.after
  Valid := Transition.Valid

abbrev World.Path (w : World σ) (ts : List (Transition σ)) (w' : World σ) : Prop :=
  (World.system σ).Path w ts w'

/-- An action that runs is one valid transition. -/
theorem Action.run_eq_ok {w w' : World σ} {msg : Msg} {a : Action} {ts : List (Transition σ)} :
    Action.run w msg a = .ok (w', ts) ↔
      ∃ events, w.step msg a = .ok (w', events) ∧ ts = [⟨w, msg, a, w', events⟩] := by
  simp only [Action.run, bind_eq_ok, pure_eq_ok, Prod.exists, Prod.mk.injEq]
  constructor
  · rintro ⟨w₁, events, hstep, rfl, rfl⟩
    exact ⟨events, hstep, rfl⟩
  · rintro ⟨events, hstep, rfl⟩
    exact ⟨w', events, hstep, rfl, rfl⟩

theorem Action.run_step {w w' : World σ} {msg : Msg} {a : Action} {ts : List (Transition σ)}
    (h : Action.run w msg a = .ok (w', ts)) : ∃ events, ActionStep w msg a w' events := by
  obtain ⟨events, hstep, -⟩ := Action.run_eq_ok.1 h
  exact ⟨events, World.step_eq_ok.1 hstep⟩

theorem Action.run_path {w w' : World σ} {msg : Msg} {a : Action} {ts : List (Transition σ)}
    (h : Action.run w msg a = .ok (w', ts)) : w.Path ts w' := by
  obtain ⟨events, hstep, rfl⟩ := Action.run_eq_ok.1 h
  have hvalid : (World.system σ).Valid ⟨w, msg, a, w', events⟩ := hstep
  exact TransitionSystem.Path.single hvalid

mutual

/-- A call that succeeds is a path. -/
theorem Call.exec_path {w w' : World σ} {msg : Msg} {ts : List (Transition σ)} :
    ∀ c : Call, c.exec w msg = .ok (w', ts) → w.Path ts w'
  | .registry _, h => by
      rw [Call.exec] at h
      exact Action.run_path h
  | .access _, h => by
      rw [Call.exec] at h
      exact Action.run_path h
  | .asset _, h => by
      rw [Call.exec] at h
      exact Action.run_path h
  | .mintAsset orgId assignedTo assetHash metadataURI hook, h => by
      simp only [Call.exec, bind_eq_ok, Prod.exists, pure_eq_ok, Prod.mk.injEq] at h
      obtain ⟨w₁, begun, hbegin, _, -, w₃, ended, hend, rfl, rfl⟩ := h
      exact ((Action.run_path hbegin).append (hook.run_path w₁ msg.timestamp)).append
        (Action.run_path hend)
  | .safeTransferFrom from_ to_ tokenId hook, h => by
      simp only [Call.exec, bind_eq_ok, Prod.exists, pure_eq_ok, Prod.mk.injEq] at h
      obtain ⟨w₁, moved, hmove, _, -, rfl, rfl⟩ := h
      exact (Action.run_path hmove).append (hook.run_path w₁ msg.timestamp)

/-- What a hook does is a path. -/
theorem Hook.run_path : ∀ (hook : Hook) (w : World σ) (now : Nat),
    w.Path (hook.run w now).2.1 (hook.run w now).1
  | .done _, w, _ => by
      rw [Hook.run]
      exact .nil w
  | .call sender c rest, w, now => by
      rw [Hook.run]
      split
      · exact rest.run_path w now
      · next w₁ made hexec =>
          exact (c.exec_path hexec).append (rest.run_path w₁ now)

end

namespace World

theorem runTx_path (w : World σ) (tx : Tx) : w.Path (w.runTx tx).2 (w.runTx tx).1 := by
  unfold runTx
  split
  · exact .nil w
  · next hexec => exact tx.call.exec_path hexec

theorem run_path (w : World σ) (txs : List Tx) : w.Path (w.run txs).2 (w.run txs).1 := by
  induction txs generalizing w with
  | nil => exact .nil w
  | cons tx txs ih => exact (w.runTx_path tx).append (ih (w.runTx tx).1)

theorem run_append (w : World σ) (txs txs' : List Tx) :
    w.run (txs ++ txs') =
      (((w.run txs).1.run txs').1, (w.run txs).2 ++ ((w.run txs).1.run txs').2) := by
  induction txs generalizing w with
  | nil => rfl
  | cons tx txs ih =>
      simp only [List.cons_append, run, ih, List.append_assoc]

/-! ## Reachable states -/

/-- The end of a run is reachable. -/
theorem reachable_run (registryOwner assetOwner : Account) (txs : List Tx) :
    ((deploy registryOwner assetOwner : World σ).run txs).1.Reachable := by
  rcases (run_path (deploy registryOwner assetOwner : World σ) txs).end_eq with hend | hend
  · exact ⟨registryOwner, assetOwner, txs, .inl hend⟩
  · exact ⟨registryOwner, assetOwner, txs, .inr hend⟩

/-- What the constructors establish and every action preserves holds in every reachable state. -/
theorem Reachable.invariant {P : World σ → Prop}
    (hdeploy : ∀ registryOwner assetOwner : Account, P (deploy registryOwner assetOwner))
    (hstep : ∀ (w w' : World σ) (msg : Msg) (a : Action) (events : List Event),
      ActionStep w msg a w' events → P w → P w')
    {w : World σ} (h : w.Reachable) : P w := by
  obtain ⟨registryOwner, assetOwner, txs, rfl | ⟨t, ht, rfl⟩⟩ := h
  · exact hdeploy _ _
  · have hpath := run_path (deploy registryOwner assetOwner : World σ) txs
    have hinv := hpath.invariant (P := P)
      (fun u _ hu hP => hstep _ _ _ _ _ (Transition.valid_iff.1 hu) hP) (hdeploy _ _)
    exact (hinv.2 t ht).2

end World

/-! ## A small organization -/

namespace Sample

def owner : Account := ⟨1, by decide⟩

def alice : Account := ⟨2, by decide⟩

def bob : Account := ⟨3, by decide⟩

def carol : Account := ⟨4, by decide⟩

def tx (sender : Account) (timestamp : Nat) (call : Call) : Tx := ⟨⟨sender, timestamp⟩, call⟩

/-- Alice founds organization 1, with Bob a manager until 500 and Carol an administrator, and mints
    an asset to Bob that goes to Carol. -/
def founding : List Tx := [
  tx alice 100 (.registry (.registerIdentity 7)),
  tx bob 100 (.registry (.registerIdentity 8)),
  tx carol 100 (.registry (.registerIdentity 9)),
  tx alice 101 (.registry (.createOrganization 5)),
  tx alice 102 (.access (.addMember 1 bob ROLE_MANAGER 500)),
  tx alice 102 (.access (.addMember 1 carol ROLE_ADMIN 0)),
  tx alice 103 (.mintAsset 1 bob 11 "ipfs://laptop" (.done true)),
  tx alice 104 (.asset (.reassignAsset 1 carol))]

/-- The storage after the founding transactions and then `txs`. Irreducible, since only the kernel
    should ever evaluate it. -/
@[irreducible] def after (txs : List Tx) : World Ledger :=
  ((World.deploy owner owner).run (founding ++ txs)).1

theorem after_reachable (txs : List Tx) : (after txs).Reachable := by
  unfold after
  exact World.reachable_run owner owner (founding ++ txs)

end Sample

end OwneX
