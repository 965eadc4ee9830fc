import OwneX.Contracts.Frames

set_option autoImplicit false

/-! # Calls nest

A path allows any order of actions, but an execution completes a mint only after everything the
recipient's hook did since it began, so the two halves of its mints pair like brackets. `Nested` says
so, and every call, hook, transaction and run is nested (`World.run_nested`). What depends on the
pairing is then proved by induction over it, once for all of them. -/

namespace OwneX

open Storage

variable {σ : Type} [ERC721 σ]

/-- The token whose mint the action completes. -/
def Action.minted : Action → Option Nat
  | .mintEnd tokenId .. => some tokenId
  | _ => none

/-- The action is neither half of a mint. -/
def Action.Plain : Action → Prop
  | .mintBegin .. | .mintEnd .. => False
  | _ => True

theorem Action.Plain.minted {act : Action} (h : act.Plain) : act.minted = none := by
  cases act with
  | mintEnd => exact h.elim
  | _ => rfl

/-- Executions in which every mint that begins is completed, after what its recipient did. -/
inductive Nested : World σ → List (Transition σ) → World σ → Prop where
  | nil (w : World σ) : Nested w [] w
  | plain {w w' : World σ} {msg : Msg} {act : Action} {events : List Event}
      (step : ActionStep w msg act w' events) (plain : act.Plain) :
      Nested w [⟨w, msg, act, w', events⟩] w'
  | append {w w' w'' : World σ} {ts us : List (Transition σ)}
      (first : Nested w ts w') (second : Nested w' us w'') : Nested w (ts ++ us) w''
  | mint {w w₁ w₂ w₃ : World σ} {msg : Msg} {orgId : Nat} {assignedTo : Address}
      {assetHash : Bytes32} {metadataURI : String} {begun ended : List Event}
      {inner : List (Transition σ)}
      (begins : ActionStep w msg (.mintBegin orgId assignedTo assetHash metadataURI) w₁ begun)
      (hook : Nested w₁ inner w₂)
      (ends : ActionStep w₂ msg
        (.mintEnd w.nft.nextTokenId orgId assignedTo assetHash metadataURI) w₃ ended) :
      Nested w
        (⟨w, msg, .mintBegin orgId assignedTo assetHash metadataURI, w₁, begun⟩ ::
          (inner ++ [⟨w₂, msg,
            .mintEnd w.nft.nextTokenId orgId assignedTo assetHash metadataURI, w₃, ended⟩])) w₃

/-! ## Everything that executes is nested -/

theorem Action.run_nested {w w' : World σ} {msg : Msg} {act : Action}
    {ts : List (Transition σ)} (h : Action.run w msg act = .ok (w', ts)) (hplain : act.Plain) :
    Nested w ts w' := by
  obtain ⟨events, hstep, rfl⟩ := Action.run_eq_ok.1 h
  exact .plain (World.step_eq_ok.1 hstep) hplain

mutual

theorem Call.exec_nested {w w' : World σ} {msg : Msg} {ts : List (Transition σ)} :
    ∀ c : Call, c.exec w msg = .ok (w', ts) → Nested w ts w'
  | .registry _, h => by
      rw [Call.exec] at h
      exact Action.run_nested h trivial
  | .access _, h => by
      rw [Call.exec] at h
      exact Action.run_nested h trivial
  | .asset _, h => by
      rw [Call.exec] at h
      exact Action.run_nested h trivial
  | .mintAsset orgId assignedTo assetHash metadataURI hook, h => by
      simp only [Call.exec, bind_eq_ok, Prod.exists, pure_eq_ok, Prod.mk.injEq] at h
      obtain ⟨w₁, begun, hbegin, _, -, w₃, ended, hend, rfl, rfl⟩ := h
      obtain ⟨events₁, hstep₁, rfl⟩ := Action.run_eq_ok.1 hbegin
      obtain ⟨events₂, hstep₂, rfl⟩ := Action.run_eq_ok.1 hend
      exact .mint (World.step_eq_ok.1 hstep₁) (hook.run_nested w₁ msg.timestamp)
        (World.step_eq_ok.1 hstep₂)
  | .safeTransferFrom from_ to_ tokenId hook, h => by
      simp only [Call.exec, bind_eq_ok, Prod.exists, pure_eq_ok, Prod.mk.injEq] at h
      obtain ⟨w₁, moved, hmove, _, -, rfl, rfl⟩ := h
      exact (Action.run_nested hmove trivial).append (hook.run_nested w₁ msg.timestamp)

theorem Hook.run_nested : ∀ (hook : Hook) (w : World σ) (now : Nat),
    Nested w (hook.run w now).2.1 (hook.run w now).1
  | .done _, w, _ => by
      rw [Hook.run]
      exact .nil w
  | .call sender c rest, w, now => by
      rw [Hook.run]
      split
      · exact rest.run_nested w now
      · next w₁ made hexec => exact (c.exec_nested hexec).append (rest.run_nested w₁ now)

end

theorem World.runTx_nested (w : World σ) (tx : Tx) : Nested w (w.runTx tx).2 (w.runTx tx).1 := by
  unfold runTx
  split
  · exact .nil w
  · next hexec => exact tx.call.exec_nested hexec

theorem World.run_nested (w : World σ) (txs : List Tx) :
    Nested w (w.run txs).2 (w.run txs).1 := by
  induction txs generalizing w with
  | nil => exact .nil w
  | cons tx txs ih => exact (w.runTx_nested tx).append (ih (w.runTx tx).1)

/-- One step is a path. -/
theorem ActionStep.path {w w' : World σ} {msg : Msg} {act : Action} {events : List Event}
    (h : ActionStep w msg act w' events) : w.Path [⟨w, msg, act, w', events⟩] w' := by
  have hvalid : (World.system σ).Valid ⟨w, msg, act, w', events⟩ := World.step_eq_ok.2 h
  exact TransitionSystem.Path.single hvalid

/-- A nested execution is a path. -/
theorem Nested.path {w w' : World σ} {ts : List (Transition σ)} (h : Nested w ts w') :
    w.Path ts w' := by
  induction h with
  | nil w => exact .nil w
  | plain hstep => exact hstep.path
  | append _ _ ih₁ ih₂ => exact ih₁.append ih₂
  | mint hbegins _ hends ih => exact hbegins.path.append (ih.append hends.path)

/-! ## The counter -/

/-- The counter never goes back. -/
theorem ActionStep.nextTokenId_le {w w' : World σ} {msg : Msg} {act : Action}
    {events : List Event} (h : ActionStep w msg act w' events) :
    w.nft.nextTokenId ≤ w'.nft.nextTokenId := by
  cases h with
  | asset hstep => exact Nat.le_of_eq hstep.lists_eq.2.symm
  | mintBegin hstep =>
      have hnext := hstep.record.2.1
      exact Nat.le_of_lt (Nat.lt_of_lt_of_eq (Nat.lt_succ_self _) hnext.symm)
  | _ => exact Nat.le_refl _

theorem World.Path.nextTokenId_le {w w' : World σ} {ts : List (Transition σ)}
    (h : w.Path ts w') : w.nft.nextTokenId ≤ w'.nft.nextTokenId :=
  h.rel (R := fun w w' => w.nft.nextTokenId ≤ w'.nft.nextTokenId) (fun _ => Nat.le_refl _)
    Nat.le_trans fun t ht => (Transition.valid_iff.1 (h.valid t ht)).nextTokenId_le

/-- The two halves of a mint move the counter past the new token, and nothing else moves it. -/
theorem ActionStep.mint_nextTokenId {w w' : World σ} {msg : Msg} {orgId : Nat}
    {assignedTo : Address} {assetHash : Bytes32} {metadataURI : String} {events : List Event}
    (h : ActionStep w msg (.mintBegin orgId assignedTo assetHash metadataURI) w' events) :
    w'.nft.nextTokenId = w.nft.nextTokenId + 1 := by
  cases h with
  | mintBegin hstep => exact hstep.record.2.1

theorem ActionStep.minted_nextTokenId {w w' : World σ} {msg : Msg} {act : Action}
    {events : List Event} (h : ActionStep w msg act w' events) {t : Nat}
    (ht : act.minted = some t) : w'.nft.nextTokenId = w.nft.nextTokenId := by
  cases h with
  | mintEnd => rfl
  | _ => cases ht

/-- An execution completes mints only of tokens it has itself begun to mint. -/
theorem Nested.minted_fresh {w w' : World σ} {ts : List (Transition σ)} (h : Nested w ts w') :
    ∀ tr ∈ ts, ∀ t, tr.action.minted = some t →
      w.nft.nextTokenId ≤ t ∧ t < w'.nft.nextTokenId := by
  induction h with
  | nil =>
      intro tr htr
      cases htr
  | plain hstep hplain =>
      intro tr htr t ht
      rw [List.mem_singleton.1 htr, hplain.minted] at ht
      cases ht
  | append hfirst hsecond ih₁ ih₂ =>
      intro tr htr t ht
      have hle₁ := hfirst.path.nextTokenId_le
      have hle₂ := hsecond.path.nextTokenId_le
      rcases List.mem_append.1 htr with htr | htr
      · obtain ⟨hlow, hhigh⟩ := ih₁ tr htr t ht
        omega
      · obtain ⟨hlow, hhigh⟩ := ih₂ tr htr t ht
        omega
  | mint hbegins hhook hends ih =>
      intro tr htr t ht
      have hnext := hbegins.mint_nextTokenId
      have hle := hhook.path.nextTokenId_le
      have hlast := hends.minted_nextTokenId rfl
      rcases List.mem_cons.1 htr with rfl | htr
      · cases ht
      · rcases List.mem_append.1 htr with htr | htr
        · obtain ⟨hlow, hhigh⟩ := ih tr htr t ht
          omega
        · rw [List.mem_singleton.1 htr] at ht
          obtain rfl := Option.some.inj ht
          omega

end OwneX
