import OwneX.Library.TwoRuns
import OwneX.Platform.ServerRuns

set_option autoImplicit false

/-! # Reads that are answered alike

What the evaluation of an access and the lookup of an application come to is decided by what they
read: two of them that read the same come to the same. -/

namespace OwneX

open Js JsNumber Prog

/-- The reads of the chain about one wallet in one organization. -/
def ServerOp.OfAccess (orgId : Nat) (wallet : Address) : ServerOp → Prop
  | readOrganization o => o = orgId
  | readIdentity w => w = wallet
  | readEffectiveRole o w => o = orgId ∧ w = wallet
  | readMembership o w => o = orgId ∧ w = wallet
  | readHasPermission o w _ => o = orgId ∧ w = wallet
  | readApplicationRegistered o _ => o = orgId
  | readCanAccessApp o w _ => o = orgId ∧ w = wallet
  | _ => False

variable {A : (op : ServerOp) → op.Res → op.Res → Prop}

/-! ## The chain -/

section Chain

variable {reads : ChainReads (ExceptT String (Prog ServerOp ServerOp.Res))} {orgId : Nat}
  {wallet : Address}

/-- Every read about the wallet in the organization is answered alike. -/
structure ChainReads.Agrees (A : (op : ServerOp) → op.Res → op.Res → Prop)
    (reads : ChainReads (ExceptT String (Prog ServerOp ServerOp.Res))) (orgId : Nat)
    (wallet : Address) : Prop where
  readOrganization :
    Related A (· = ·) (reads.readOrganization orgId).run (reads.readOrganization orgId).run
  readIdentity : Related A (· = ·) (reads.readIdentity wallet).run (reads.readIdentity wallet).run
  readEffectiveRole : Related A (· = ·) (reads.readEffectiveRole orgId wallet).run
    (reads.readEffectiveRole orgId wallet).run
  readMembership : Related A (· = ·) (reads.readMembership orgId wallet).run
    (reads.readMembership orgId wallet).run
  readHasPermission : ∀ permission, Related A (· = ·)
    (reads.readHasPermission orgId wallet permission).run
    (reads.readHasPermission orgId wallet permission).run
  readApplicationRegistered : ∀ appId, Related A (· = ·)
    (reads.readApplicationRegistered orgId appId).run
    (reads.readApplicationRegistered orgId appId).run
  readCanAccessApp : ∀ appId, Related A (· = ·) (reads.readCanAccessApp orgId wallet appId).run
    (reads.readCanAccessApp orgId wallet appId).run

theorem Related.orSame {α ε : Type} {p q : Prog ServerOp ServerOp.Res (Except ε α)}
    (h : Related A (· = ·) p q) : Related A (OrSame (· = ·)) p q :=
  h.mono fun _ _ => orSame_eq.2

theorem Related.same {α ε : Type} {p q : Prog ServerOp ServerOp.Res (Except ε α)}
    (h : Related A (OrSame (· = ·)) p q) : Related A (· = ·) p q :=
  h.mono fun _ _ => orSame_eq.1

/-- A read of the chain, behind the check of ethers. -/
theorem related_onSafe {α : Type} {R : α → α → Prop}
    {read : Prog ServerOp ServerOp.Res (Except String α)} (h : Related A (OrSame R) read read) :
    Related A (OrSame R) (onSafe orgId read).run (onSafe orgId read).run :=
  related_refuseIf_bind fun _ => related_attempt h id

theorem Related.onSafe {α : Type} {read : Prog ServerOp ServerOp.Res (Except String α)}
    (h : Related A (· = ·) read read) :
    Related A (· = ·) (onSafe orgId read).run (onSafe orgId read).run :=
  Related.same (related_onSafe (Related.orSame h))

theorem agrees_serverReads
    (h : ∀ op r r', ServerOp.OfAccess orgId wallet op → A op r r' → r = r') :
    serverReads.Agrees A orgId wallet := by
  have hcall : ∀ op : ServerOp, op.OfAccess orgId wallet →
      Related A (· = ·) (call op) (call op) :=
    fun op hop => (related_call op).mono fun r r' => h op r r' hop
  exact
    { readOrganization := Related.onSafe (hcall (.readOrganization orgId) rfl)
      readIdentity := Related.same
        (related_attempt (Related.orSame (hcall (.readIdentity wallet) rfl)) id)
      readEffectiveRole := Related.onSafe (hcall (.readEffectiveRole orgId wallet) ⟨rfl, rfl⟩)
      readMembership := Related.onSafe (hcall (.readMembership orgId wallet) ⟨rfl, rfl⟩)
      readHasPermission := fun permission =>
        Related.onSafe (hcall (.readHasPermission orgId wallet permission) ⟨rfl, rfl⟩)
      readApplicationRegistered := fun appId =>
        Related.onSafe (hcall (.readApplicationRegistered orgId appId) rfl)
      readCanAccessApp := fun appId =>
        Related.onSafe (hcall (.readCanAccessApp orgId wallet appId) ⟨rfl, rfl⟩) }

theorem related_readPermissionsFor (h : reads.Agrees A orgId wallet)
    (ps : List (PermissionKey × Bytes32)) :
    Related A (OrSame (· = ·)) (readPermissionsFor reads orgId wallet ps).run
      (readPermissionsFor reads orgId wallet ps).run := by
  induction ps with
  | nil => exact related_exceptT_pure rfl
  | cons p ps ih =>
      refine related_exceptT_bind
        (related_exceptT_both (Related.orSame (h.readHasPermission p.2)) ih) ?_
      rintro ⟨granted, rest⟩ ⟨granted', rest'⟩ ⟨hgranted, hrest⟩
      obtain rfl : granted = granted' := hgranted
      obtain rfl : rest = rest' := hrest
      exact related_exceptT_pure rfl

/-- What is read about an application. -/
theorem related_liveApp (h : reads.Agrees A orgId wallet) (keccakId : String → Bytes32)
    (appSlug : Option String) :
    Related A (OrSame (· = ·)) (liveReaders keccakId reads orgId wallet appSlug).app.run
      (liveReaders keccakId reads orgId wallet appSlug).app.run := by
  unfold liveReaders
  cases appSlug with
  | none => exact related_exceptT_pure rfl
  | some slug =>
      simp only
      split
      · exact related_exceptT_pure rfl
      · refine related_exceptT_bind (related_exceptT_both
          (Related.orSame (h.readApplicationRegistered _))
          (Related.orSame (h.readCanAccessApp _))) ?_
        rintro ⟨registered, allowed⟩ ⟨registered', allowed'⟩ ⟨hregistered, hallowed⟩
        obtain rfl : registered = registered' := hregistered
        obtain rfl : allowed = allowed' := hallowed
        exact related_exceptT_pure rfl

/-- An access is evaluated alike. -/
theorem related_evaluateLiveAccess (h : reads.Agrees A orgId wallet)
    (keccakId : String → Bytes32) (appSlug : Option String) :
    Related A (· = ·) (evaluateLiveAccess keccakId reads orgId wallet appSlug)
      (evaluateLiveAccess keccakId reads orgId wallet appSlug) := by
  have hread : Related A (OrSame (· = ·))
      (readAndDecide (liveReaders keccakId reads orgId wallet appSlug)).run
      (readAndDecide (liveReaders keccakId reads orgId wallet appSlug)).run := by
    have horganization : Related A (OrSame (· = ·))
        (liveReaders keccakId reads orgId wallet appSlug).organization.run
        (liveReaders keccakId reads orgId wallet appSlug).organization.run :=
      related_exceptT_bind (Related.orSame h.readOrganization) fun _ _ heq =>
        related_exceptT_pure (heq ▸ rfl)
    have hidentity : Related A (OrSame (· = ·))
        (liveReaders keccakId reads orgId wallet appSlug).identity.run
        (liveReaders keccakId reads orgId wallet appSlug).identity.run :=
      related_exceptT_bind (Related.orSame h.readIdentity) fun _ _ heq =>
        related_exceptT_pure (heq ▸ rfl)
    have hmembership : Related A (OrSame (· = ·))
        (liveReaders keccakId reads orgId wallet appSlug).membership.run
        (liveReaders keccakId reads orgId wallet appSlug).membership.run :=
      related_exceptT_bind (Related.orSame h.readMembership) fun _ _ heq =>
        related_exceptT_pure (heq ▸ rfl)
    refine related_exceptT_bind (related_exceptT_both horganization
      (related_exceptT_both hidentity (related_exceptT_both (Related.orSame h.readEffectiveRole)
        (related_exceptT_both hmembership (related_liveApp h keccakId appSlug))))) ?_
    rintro ⟨organization, identity, role, membership, app⟩
      ⟨organization', identity', role', membership', app'⟩ ⟨h₁, h₂, h₃, h₄, h₅⟩
    obtain rfl : organization = organization' := h₁
    obtain rfl : identity = identity' := h₂
    obtain rfl : role = role' := h₃
    obtain rfl : membership = membership' := h₄
    obtain rfl : app = app' := h₅
    simp only
    -- The permissions are read only for a member.
    split
    · exact related_exceptT_bind (related_exceptT_pure (R := (· = ·)) rfl) fun _ _ heq =>
        related_exceptT_pure (heq ▸ rfl)
    · refine related_exceptT_bind (R := (· = ·)) ?_ fun _ _ heq => related_exceptT_pure (heq ▸ rfl)
      exact related_exceptT_bind (related_readPermissionsFor h permissionList) fun _ _ heq =>
        related_exceptT_pure (heq ▸ rfl)
  refine related_bind hread fun x y hxy => ?_
  obtain rfl := orSame_eq.1 hxy
  cases x <;> exact related_pure rfl

end Chain

/-! ## The registry -/

section Registry

variable {rt : ServerRuntime} {P : ApplicationRow → Prop} {C : List Text → List Text → Prop}

/-- Two records of one row that satisfies `P`, whose callbacks are related. -/
def SameRow (rt : ServerRuntime) (P : ApplicationRow → Prop) (C : List Text → List Text → Prop)
    (app app' : RegisteredApplication) : Prop :=
  ∃ row callbacks callbacks', P row ∧ C callbacks callbacks' ∧ app = toRecord rt row callbacks ∧
    app' = toRecord rt row callbacks'

/-- One row that satisfies `P`, if there is one. -/
def OneRow (P : ApplicationRow → Prop) (found found' : Option ApplicationRow) : Prop :=
  found = found' ∧ ∀ row, found = some row → P row

theorem related_withCallbacks
    (hcallbacks : ∀ row, P row → ∀ r r', A (.selectCallbacks row.key) r r' → OrSame C r r')
    {found found' : Option ApplicationRow} (h : OneRow P found found') :
    Related A (OrSame (Option.Rel (SameRow rt P C))) (withCallbacks rt found).run
      (withCallbacks rt found').run := by
  obtain ⟨rfl, hrow⟩ := h
  cases found with
  | none => exact related_exceptT_pure .none
  | some row =>
      have hcall : Related A (OrSame C) (call (ServerOp.selectCallbacks row.key))
          (call (ServerOp.selectCallbacks row.key)) :=
        (related_call _).mono (hcallbacks row (hrow row rfl))
      refine related_exceptT_bind (related_attempt hcall _) ?_
      intro callbacks callbacks' hC
      exact related_exceptT_pure (.some ⟨row, callbacks, callbacks', hrow row rfl, hC, rfl, rfl⟩)

theorem related_findApplicationByClientId {clientId clientId' : Text}
    (htrim : trimText clientId = trimText clientId')
    (hrow : ∀ r r', A (.selectByClientId (trimText clientId)) r r' → OrSame (OneRow P) r r')
    (hcallbacks : ∀ row, P row → ∀ r r', A (.selectCallbacks row.key) r r' → OrSame C r r') :
    Related A (OrSame (Option.Rel (SameRow rt P C))) (findApplicationByClientId rt clientId).run
      (findApplicationByClientId rt clientId').run := by
  unfold findApplicationByClientId
  rw [← htrim]
  split
  · exact related_exceptT_pure .none
  · have hcall : Related A (OrSame (OneRow P))
        (call (ServerOp.selectByClientId (trimText clientId)))
        (call (ServerOp.selectByClientId (trimText clientId))) :=
      (related_call _).mono hrow
    exact related_exceptT_bind (related_attempt hcall _) fun _ _ =>
      related_withCallbacks hcallbacks

theorem related_findApplicationBySlug {app : AppKey}
    (hrow : ∀ r r', A (.selectByKey app) r r' → OrSame (OneRow P) r r')
    (hcallbacks : ∀ row, P row → ∀ r r', A (.selectCallbacks row.key) r r' → OrSame C r r') :
    Related A (OrSame (Option.Rel (SameRow rt P C))) (findApplicationBySlug rt app).run
      (findApplicationBySlug rt app).run := by
  have hcall : Related A (OrSame (OneRow P)) (call (ServerOp.selectByKey app))
      (call (ServerOp.selectByKey app)) :=
    (related_call _).mono hrow
  exact related_exceptT_bind (related_attempt hcall _) fun _ _ =>
    related_withCallbacks hcallbacks

end Registry

end OwneX
