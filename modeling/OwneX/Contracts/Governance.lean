import OwneX.Contracts.Invariants

set_option autoImplicit false

/-! # Overrides and governance

Any administrator may override the default permission matrix of the organization, cell by cell, in
any order. The one guard of `setPermission` keeps two cells from being denied, those an
administrator governs with, so no sequence of overrides takes governance from the administrators;
and since every call sets one cell of a valid role, the cells in use are finitely many and the
same administrator can clear them all. -/

namespace OwneX

open Storage

/-! ## The override table -/

/-- What every override table satisfies. -/
structure OverrideInv (a : OrgAccessManager) : Prop where
  governance : ∀ o permission, permission = PERM_ASSIGN_ROLES ∨ permission = PERM_MANAGE_MEMBERS →
    a.permissionOverride o ROLE_ADMIN permission ≠ .denied
  valid : ∀ o role permission, a.permissionOverride o role permission ≠ .unset →
    isValidRole role = true
  finite : ∀ o, ∃ cells : List (Bytes32 × Bytes32), ∀ role permission,
    a.permissionOverride o role permission ≠ .unset → (role, permission) ∈ cells

section Overrides

variable {a a' : OrgAccessManager} {ir : IdentityRegistry} {msg : Msg} {c : AccessCall}
  {events : List AccessEvent}

theorem OverrideInv.deploy : OverrideInv .deploy where
  governance := fun _ _ _ => by simp [OrgAccessManager.deploy]
  valid := fun _ _ _ h => absurd rfl h
  finite := fun _ => ⟨[], fun _ _ h => absurd rfl h⟩

theorem OverrideInv.setPermission (hinv : OverrideInv a) {orgId : Nat} {role permission : Bytes32}
    {state : Override} (hvalid : isValidRole role = true)
    (hguard : ¬ (role = ROLE_ADMIN ∧
      (permission = PERM_ASSIGN_ROLES ∨ permission = PERM_MANAGE_MEMBERS) ∧ state = .denied)) :
    OverrideInv
      { a with permissionOverride := set₃ a.permissionOverride orgId role permission state } := by
  constructor
  · intro o p hp
    simp only [set₃_apply]
    split
    · next hcell =>
        obtain ⟨-, rfl, rfl⟩ := hcell
        exact fun hdenied => hguard ⟨rfl, hp, hdenied⟩
    · exact hinv.governance o p hp
  · intro o r p hset
    simp only [set₃_apply] at hset
    split at hset
    · next hcell =>
        rw [hcell.2.1]
        exact hvalid
    · exact hinv.valid o r p hset
  · intro o
    obtain ⟨cells, hcells⟩ := hinv.finite o
    refine ⟨(role, permission) :: cells, fun r p hset => ?_⟩
    simp only [set₃_apply] at hset
    split at hset
    · next hcell =>
        rw [hcell.2.1, hcell.2.2]
        exact List.mem_cons_self ..
    · exact List.mem_cons_of_mem _ (hcells r p hset)

theorem OverrideInv.step (hinv : OverrideInv a) (h : AccessStep a ir msg c a' events) :
    OverrideInv a' := by
  cases h with
  | setPermission _ _ hvalid hguard => exact hinv.setPermission hvalid hguard
  | _ => exact ⟨hinv.governance, hinv.valid, hinv.finite⟩

/-- An administrator of an active organization has the permissions of governance. -/
theorem OverrideInv.governs (hinv : OverrideInv a) {now o : Nat} {wallet : Address}
    (hactive : ir.isOrganizationActive o = true)
    (hadmin : a.effectiveRole ir now o wallet = ROLE_ADMIN) {permission : Bytes32}
    (hperm : permission = PERM_ASSIGN_ROLES ∨ permission = PERM_MANAGE_MEMBERS) :
    a.hasPermission ir now o wallet permission = true := by
  have hnone : ROLE_ADMIN ≠ ROLE_NONE := by decide
  have hcell := hinv.governance o permission hperm
  have hdefault : defaultPermission ROLE_ADMIN permission = true := by
    rcases hperm with rfl | rfl <;> decide
  unfold OrgAccessManager.hasPermission
  rw [if_neg (by simp [hactive]), hadmin]
  simp only [if_neg hnone]
  cases hstate : a.permissionOverride o ROLE_ADMIN permission with
  | allowed => rfl
  | denied => exact absurd hstate hcell
  | unset => exact hdefault

end Overrides

/-! ## Clearing the table -/

/-- The access manager without any override in `o`. -/
def OrgAccessManager.withoutOverrides (a : OrgAccessManager) (o : Nat) : OrgAccessManager :=
  { a with permissionOverride := Function.update a.permissionOverride o fun _ _ => .unset }

/-- One cell of `o` set to `Unset`. -/
def OrgAccessManager.clearCell (a : OrgAccessManager) (o : Nat) (cell : Bytes32 × Bytes32) :
    OrgAccessManager :=
  { a with permissionOverride := set₃ a.permissionOverride o cell.1 cell.2 .unset }

/-- The calls that set the cells to `Unset`, one after the other at the given times. -/
def clearing (sender : Account) (o : Nat) (times : List Nat) (cells : List (Bytes32 × Bytes32)) :
    List Tx :=
  List.zipWith
    (fun time cell => ⟨⟨sender, time⟩, .access (.setPermission o cell.1 cell.2 .unset)⟩)
    times cells

/-- Clearing touches the table of overrides only. -/
theorem OrgAccessManager.foldl_clearCell (a : OrgAccessManager) (o : Nat)
    (cells : List (Bytes32 × Bytes32)) :
    cells.foldl (fun a cell => a.clearCell o cell) a =
      { a with permissionOverride :=
          (cells.foldl (fun a cell => a.clearCell o cell) a).permissionOverride } := by
  induction cells generalizing a with
  | nil => rfl
  | cons cell cells ih =>
      rw [List.foldl_cons, ih]
      rfl

theorem OrgAccessManager.permissionOverride_foldl_clearCell (a : OrgAccessManager) (o : Nat)
    (cells : List (Bytes32 × Bytes32)) (x : Nat) (role permission : Bytes32) :
    (cells.foldl (fun a cell => a.clearCell o cell) a).permissionOverride x role permission =
      if x = o ∧ (role, permission) ∈ cells then .unset
      else a.permissionOverride x role permission := by
  induction cells generalizing a with
  | nil => simp
  | cons cell cells ih =>
      rw [List.foldl_cons, ih]
      have hcell : (role, permission) = cell ↔ role = cell.1 ∧ permission = cell.2 := Prod.ext_iff
      simp only [clearCell, set₃_apply, List.mem_cons, hcell]
      by_cases hx : x = o
      · by_cases hmem : (role, permission) ∈ cells
        · simp [hx, hmem]
        · simp [hx, hmem]
      · simp [hx]

/-- When the cells are all that are in use, nothing is left. -/
theorem OrgAccessManager.clear_all (a : OrgAccessManager) {o : Nat}
    {cells : List (Bytes32 × Bytes32)}
    (hcells : ∀ role permission, a.permissionOverride o role permission ≠ .unset →
      (role, permission) ∈ cells) :
    cells.foldl (fun a cell => a.clearCell o cell) a = a.withoutOverrides o := by
  rw [foldl_clearCell, withoutOverrides]
  congr 1
  funext x role permission
  rw [permissionOverride_foldl_clearCell, Function.update_apply]
  by_cases hx : x = o
  · subst hx
    by_cases hmem : (role, permission) ∈ cells
    · simp [hmem]
    · have hunset : a.permissionOverride x role permission = .unset := by
        by_contra hset
        exact hmem (hcells role permission hset)
      simp [hmem, hunset]
  · simp [hx]

section Worlds

variable {σ : Type} [ERC721 σ]

theorem World.Reachable.overrideInv {w : World σ} (h : w.Reachable) : OverrideInv w.access := by
  refine h.invariant (P := fun w => OverrideInv w.access) (fun _ _ => .deploy) ?_
  intro w w' msg act events hstep hinv
  cases hstep with
  | access hstep => exact hinv.step hstep
  | _ => exact hinv

/-- The transaction of a call of the access manager that goes through. -/
theorem World.runTx_access {w : World σ} {msg : Msg} {c : AccessCall} {access : OrgAccessManager}
    {events : List AccessEvent} (h : AccessStep w.access w.registry msg c access events) :
    w.runTx ⟨msg, .access c⟩ = ({ w with access },
      [⟨w, msg, .access c, { w with access }, events.map .access⟩]) := by
  rw [runTx, Call.exec, Action.run_eq_ok.2 ⟨_, step_eq_ok.2 (.access h), rfl⟩]

/-- An administrator clears cells of valid roles, one transaction each. -/
theorem World.run_clearing (w : World σ) {o : Nat} {sender : Account} {times : List Nat}
    {cells : List (Bytes32 × Bytes32)} (hlength : times.length = cells.length)
    (hactive : w.registry.isOrganizationActive o = true)
    (hadmin : ∀ time ∈ times, w.effectiveRole time o sender = ROLE_ADMIN)
    (hvalid : ∀ cell ∈ cells, isValidRole cell.1 = true) :
    (w.run (clearing sender o times cells)).1 =
        { w with access := cells.foldl (fun a cell => a.clearCell o cell) w.access } ∧
      (w.run (clearing sender o times cells)).2.length = cells.length := by
  induction cells generalizing w times with
  | nil =>
      obtain rfl := List.length_eq_zero_iff.1 hlength
      exact ⟨rfl, rfl⟩
  | cons cell cells ih =>
      obtain ⟨time, times, rfl⟩ := List.exists_cons_of_length_eq_add_one hlength
      have hlength' : times.length = cells.length := Nat.succ.inj hlength
      have hstep : AccessStep w.access w.registry ⟨sender, time⟩
          (.setPermission o cell.1 cell.2 .unset) (w.access.clearCell o cell) _ :=
        .setPermission hactive (hadmin time (List.mem_cons_self ..))
          (hvalid cell (List.mem_cons_self ..)) fun h => by cases h.2.2
      have htx := World.runTx_access hstep
      -- The caller's role does not depend on the overrides.
      obtain ⟨hend, hcount⟩ := ih { w with access := w.access.clearCell o cell } hlength'
        hactive (fun t ht => hadmin t (List.mem_cons_of_mem _ ht))
        fun c hc => hvalid c (List.mem_cons_of_mem _ hc)
      show (World.run w (_ :: clearing sender o times cells)).1 = _ ∧
        (World.run w (_ :: clearing sender o times cells)).2.length = _
      rw [run, htx]
      exact ⟨hend, congrArg (· + 1) hcount⟩

/-- In every reachable state an administrator of an active organization has the permissions of
    governance, and can clear all its overrides, whenever the calls are made while the role lasts;
    after that the permissions are those of the default matrix. -/
theorem World.Reachable.governance {w : World σ} (h : w.Reachable) {now o : Nat}
    {wallet : Address} (hactive : w.registry.isOrganizationActive o = true)
    (hadmin : w.effectiveRole now o wallet = ROLE_ADMIN) :
    w.hasPermission now o wallet PERM_MANAGE_MEMBERS = true ∧
    w.hasPermission now o wallet PERM_ASSIGN_ROLES = true ∧
    ∃ (sender : Account) (cells : List (Bytes32 × Bytes32)), sender.1 = wallet ∧
      ∀ times : List Nat, times.length = cells.length →
        (∀ time ∈ times, w.effectiveRole time o wallet = ROLE_ADMIN) →
        let w' := (w.run (clearing sender o times cells)).1
        (w.run (clearing sender o times cells)).2.length = cells.length ∧
        w' = { w with access := w.access.withoutOverrides o } ∧
        (∀ role permission, w'.access.permissionOverride o role permission = .unset) ∧
        ∀ time v permission, w'.effectiveRole time o v ≠ ROLE_NONE →
          w'.hasPermission time o v permission =
            defaultPermission (w'.effectiveRole time o v) permission := by
  have hinv := h.overrideInv
  refine ⟨hinv.governs hactive hadmin (.inr rfl), hinv.governs hactive hadmin (.inl rfl), ?_⟩
  have hregistered : w.registry.isActive wallet = true := by
    by_contra hinactive
    have hnone : w.effectiveRole now o wallet = ROLE_NONE := by
      unfold effectiveRole OrgAccessManager.effectiveRole
      rw [if_pos hinactive]
    rw [hnone] at hadmin
    exact absurd hadmin (by decide)
  have hnonzero : wallet ≠ 0#160 :=
    h.registryInv.registered_ne_zero (Bool.and_eq_true_iff.1 hregistered).1
  obtain ⟨all, hall⟩ := hinv.finite o
  -- Only cells in use are cleared, and their roles are valid.
  let cells := all.filter fun cell => decide (w.access.permissionOverride o cell.1 cell.2 ≠ .unset)
  have hcells : ∀ role permission, w.access.permissionOverride o role permission ≠ .unset →
      (role, permission) ∈ cells := fun role permission hset =>
    List.mem_filter.2 ⟨hall role permission hset, decide_eq_true hset⟩
  have hvalid : ∀ cell ∈ cells, isValidRole cell.1 = true := fun cell hcell =>
    hinv.valid o cell.1 cell.2 (of_decide_eq_true (List.mem_filter.1 hcell).2)
  refine ⟨⟨wallet, hnonzero⟩, cells, rfl, fun times hlength htimes => ?_⟩
  intro w'
  have hadmin' : ∀ time ∈ times,
      w.effectiveRole time o (⟨wallet, hnonzero⟩ : Account) = ROLE_ADMIN := htimes
  obtain ⟨hend, hcount⟩ := w.run_clearing hlength hactive hadmin' hvalid
  rw [w.access.clear_all hcells] at hend
  have hunset : ∀ role permission, w'.access.permissionOverride o role permission = .unset := by
    intro role permission
    show (w.run _).1.access.permissionOverride o role permission = _
    rw [hend]
    simp [OrgAccessManager.withoutOverrides]
  refine ⟨hcount, hend, hunset, fun time v permission hrole => ?_⟩
  have hactive' : w'.registry.isOrganizationActive o = true := by
    show (w.run _).1.registry.isOrganizationActive o = true
    rw [hend]
    exact hactive
  have hrole' : w'.access.effectiveRole w'.registry time o v ≠ ROLE_NONE := hrole
  unfold hasPermission OrgAccessManager.hasPermission
  rw [if_neg (by simp [hactive'])]
  simp only [if_neg hrole', hunset]
  rfl

/-- Carol, an administrator, after Alice has taken the audit view from the managers. -/
theorem Sample.carol_governs :
    let w := Sample.after [Sample.tx Sample.alice 105
      (.access (.setPermission 1 ROLE_MANAGER PERM_VIEW_AUDIT .denied))]
    w.hasPermission 106 1 Sample.carol PERM_MANAGE_MEMBERS = true ∧
    w.hasPermission 106 1 Sample.carol PERM_ASSIGN_ROLES = true ∧
    ∃ (sender : Account) (cells : List (Bytes32 × Bytes32)), sender.1 = Sample.carol.1 ∧
      ∀ times : List Nat, times.length = cells.length →
        (∀ time ∈ times, w.effectiveRole time 1 Sample.carol = ROLE_ADMIN) →
        let w' := (w.run (clearing sender 1 times cells)).1
        (w.run (clearing sender 1 times cells)).2.length = cells.length ∧
        w' = { w with access := w.access.withoutOverrides 1 } ∧
        (∀ role permission, w'.access.permissionOverride 1 role permission = .unset) ∧
        ∀ time v permission, w'.effectiveRole time 1 v ≠ ROLE_NONE →
          w'.hasPermission time 1 v permission =
            defaultPermission (w'.effectiveRole time 1 v) permission := by
  intro w
  have hreach : w.Reachable := Sample.after_reachable _
  have hactive : w.registry.isOrganizationActive 1 = true := by decide +kernel
  have hadmin : w.effectiveRole 106 1 Sample.carol = ROLE_ADMIN := by decide +kernel
  exact World.Reachable.governance hreach hactive hadmin

end Worlds

end OwneX
