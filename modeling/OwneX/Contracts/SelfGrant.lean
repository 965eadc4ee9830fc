import OwneX.Contracts.Runs

set_option autoImplicit false

/-! # Nobody grants to themselves, except by `setRoleExpiry`

Three of the four functions that write a membership cannot be turned on the caller's own record:
`assignRole` and `removeMember` compare the two wallets, and `addMember` refuses a wallet that is
already a member, which a caller with a permission is unless it is the root admin. `setRoleExpiry`
does not compare them, so a member who may assign roles can move the end of its own membership.
Without such a call a membership that was granted with an end ends there. -/

namespace OwneX

open Storage

/-- `c` moves the expiry of `wallet`'s own membership to something else. -/
def SelfExpiry (a : OrgAccessManager) (orgId : Nat) (wallet : Address) (c : AccessCall) : Prop :=
  ∃ expiresAt, c = .setRoleExpiry orgId wallet expiresAt ∧
    expiresAt ≠ (a.memberships orgId wallet).expiresAt

section Call

variable {a a' : OrgAccessManager} {ir : IdentityRegistry} {msg : Msg} {c : AccessCall}
  {events : List AccessEvent} {orgId : Nat}

/-- A permission belongs to the root admin or to a stored member. -/
theorem Authorized.member {permission : Bytes32} (h : Authorized a ir msg orgId permission)
    (hroot : ir.orgRootAdmin orgId ≠ msg.sender) :
    (a.memberships orgId msg.sender).role ≠ ROLE_NONE := by
  intro hnone
  have hrole : a.effectiveRole ir msg.timestamp orgId msg.sender = ROLE_NONE := by
    unfold OrgAccessManager.effectiveRole
    rw [if_neg hroot]
    simp [hnone]
  have hperm := h.permitted
  simp [OrgAccessManager.hasPermission, hrole] at hperm

/-- Any other record stays as it was. -/
theorem setMembership_of_ne {o : Nat} {v wallet : Address} {m : Membership}
    (h : ¬ (o = orgId ∧ v = wallet)) :
    (a.setMembership orgId wallet m).memberships o v = a.memberships o v :=
  set₂_of_ne h

/-- What a call does to the caller's own record in `orgId`, when the caller is not its root
    admin. -/
theorem AccessStep.own_membership (h : AccessStep a ir msg c a' events)
    (hroot : ir.orgRootAdmin orgId ≠ msg.sender) :
    (a'.memberships orgId msg.sender = a.memberships orgId msg.sender ∧
      ¬ SelfExpiry a orgId msg.sender c) ∨
    (a'.memberships orgId msg.sender ≠ a.memberships orgId msg.sender ∧
      SelfExpiry a orgId msg.sender c) := by
  cases h with
  | @addMember o wallet role expiresAt hcaller _ _ _ hfresh =>
      refine .inl ⟨setMembership_of_ne ?_, by simp [SelfExpiry]⟩
      rintro ⟨rfl, rfl⟩
      exact hcaller.member hroot hfresh
  | assignRole _ hself =>
      exact .inl ⟨setMembership_of_ne fun heq => hself heq.2.symm, by simp [SelfExpiry]⟩
  | @setRoleExpiry o wallet expiresAt =>
      by_cases hown : orgId = o ∧ msg.sender.1 = wallet
      · obtain ⟨rfl, rfl⟩ := hown
        have hset : (a.setMembership orgId msg.sender
            { a.memberships orgId msg.sender with expiresAt }).memberships orgId msg.sender =
            { a.memberships orgId msg.sender with expiresAt } := set₂_same _ _ _ _
        rw [hset]
        by_cases hsame : expiresAt = (a.memberships orgId msg.sender).expiresAt
        · subst hsame
          refine .inl ⟨rfl, ?_⟩
          rintro ⟨e, hcall, hne⟩
          cases hcall
          exact hne rfl
        · refine .inr ⟨fun heq => hsame ?_, expiresAt, rfl, hsame⟩
          exact congrArg Membership.expiresAt heq
      · refine .inl ⟨setMembership_of_ne hown, ?_⟩
        rintro ⟨e, hcall, _⟩
        cases hcall
        exact hown ⟨rfl, rfl⟩
  | removeMember _ hself =>
      exact .inl ⟨setMembership_of_ne fun heq => hself heq.2.symm, by simp [SelfExpiry]⟩
  | setPermission => exact .inl ⟨rfl, by simp [SelfExpiry]⟩
  | registerApplication => exact .inl ⟨rfl, by simp [SelfExpiry]⟩
  | setAppAccess => exact .inl ⟨rfl, by simp [SelfExpiry]⟩

end Call

/-! ## Over a run -/

section Run

variable {σ : Type} [ERC721 σ]

/-- During the transition `wallet` is not the root admin of `orgId`, nobody else changes its
    membership there, and it does not move its own expiry. -/
structure Undisturbed (orgId : Nat) (wallet : Account) (t : Transition σ) : Prop where
  seat : t.after.registry.orgRootAdmin orgId ≠ wallet
  others : t.msg.sender ≠ wallet →
    t.after.access.memberships orgId wallet = t.before.access.memberships orgId wallet
  self : ∀ c, t.msg.sender = wallet → t.action = .access c →
    ¬ SelfExpiry t.before.access orgId wallet c

theorem Undisturbed.membership_eq {orgId : Nat} {wallet : Account} {t : Transition σ}
    (h : Undisturbed orgId wallet t) (hvalid : t.Valid)
    (hseat : t.before.registry.orgRootAdmin orgId ≠ wallet) :
    t.after.access.memberships orgId wallet = t.before.access.memberships orgId wallet := by
  by_cases hsender : t.msg.sender = wallet
  · rcases (Transition.valid_iff.1 hvalid).access_eq with ⟨c, es, hact, hstep⟩ | hsame
    · subst hsender
      rcases hstep.own_membership hseat with ⟨hkept, _⟩ | ⟨_, hself⟩
      · exact hkept
      · exact absurd hself (h.self c rfl hact)
    · rw [hsame]
  · exact h.others hsender

/-- The seat and the record at the end of an undisturbed path. -/
theorem membership_of_undisturbed {w w' : World σ} {ts : List (Transition σ)} {orgId : Nat}
    {wallet : Account} (hpath : w.Path ts w') (hseat : w.registry.orgRootAdmin orgId ≠ wallet)
    (h : ∀ t ∈ ts, Undisturbed orgId wallet t) :
    w'.registry.orgRootAdmin orgId ≠ wallet ∧
      w'.access.memberships orgId wallet = w.access.memberships orgId wallet := by
  induction hpath with
  | nil => exact ⟨hseat, rfl⟩
  | @cons t ts w' hvalid _ ih =>
      have ht := h t (List.mem_cons_self ..)
      obtain ⟨hend, hkept⟩ := ih ht.seat fun u hu => h u (List.mem_cons_of_mem _ hu)
      exact ⟨hend, hkept.trans (ht.membership_eq hvalid hseat)⟩

omit [ERC721 σ] in
/-- Past its expiry a membership gives no role. -/
theorem effectiveRole_of_expired {w : World σ} {orgId now : Nat} {wallet : Address}
    (hseat : w.registry.orgRootAdmin orgId ≠ wallet)
    (hbound : (w.access.memberships orgId wallet).expiresAt ≠ 0#64)
    (hnow : (w.access.memberships orgId wallet).expiresAt.toNat ≤ now) :
    w.effectiveRole now orgId wallet = ROLE_NONE := by
  have hexpired : (w.access.memberships orgId wallet).expiredAt now = true := by
    simp [Membership.expiredAt, hbound, hnow]
  unfold World.effectiveRole OrgAccessManager.effectiveRole
  rw [if_neg hseat]
  simp [hexpired]

end Run

/-- A wallet that is not the root admin keeps its own record exactly when its call does not move its
    own expiry; and where it never does, nobody else touches the record and the seat stays
    elsewhere, a membership with an end gives no role from that time on. -/
theorem OrgAccessManager.selfGrant_iff (σ : Type) [ERC721 σ] :
    (∀ (w : World σ) (orgId timestamp : Nat) (wallet : Account) (c : AccessCall)
        (a' : OrgAccessManager) (events : List AccessEvent),
      w.Reachable → w.registry.orgRootAdmin orgId ≠ wallet →
      c.exec w.access w.registry ⟨wallet, timestamp⟩ = .ok (a', events) →
      (a'.memberships orgId wallet = w.access.memberships orgId wallet ↔
        ¬ SelfExpiry w.access orgId wallet c)) ∧
    (∀ (w w' : World σ) (ts : List (Transition σ)) (orgId : Nat) (wallet : Account)
        (expiresAt : Uint64),
      w.Reachable → w.Path ts w' →
      (w.access.memberships orgId wallet).expiresAt = expiresAt → expiresAt ≠ 0#64 →
      w.registry.orgRootAdmin orgId ≠ wallet → (∀ t ∈ ts, Undisturbed orgId wallet t) →
      ∀ now, expiresAt.toNat ≤ now → w'.effectiveRole now orgId wallet = ROLE_NONE) := by
  constructor
  · intro w orgId timestamp wallet c a' events _ hroot hexec
    have hstep := AccessCall.exec_eq_ok.1 hexec
    rcases hstep.own_membership hroot with ⟨hkept, hself⟩ | ⟨hchanged, hself⟩
    · exact iff_of_true hkept hself
    · exact iff_of_false hchanged fun h => h hself
  · intro w w' ts orgId wallet expiresAt _ hpath hgrant hbound hseat hundisturbed now hnow
    obtain ⟨hend, hkept⟩ := membership_of_undisturbed hpath hseat hundisturbed
    rw [← hgrant, ← hkept] at hbound hnow
    exact effectiveRole_of_expired hend hbound hnow

/-! ## An administrator for a time -/

/-- Carol is made an administrator until 400. -/
def Sample.untilFourHundred : World Ledger :=
  Sample.after [Sample.tx Sample.alice 105
    (.access (.assignRole 1 Sample.carol ROLE_ADMIN 400))]

/-- Her next call makes her membership permanent. -/
def Sample.carolExtends : List Tx :=
  [Sample.tx Sample.carol 106 (.access (.setRoleExpiry 1 Sample.carol 0))]

/-- Her own call changes her own record, and at 1000 she is still an administrator although nobody
    else has touched it. -/
theorem Sample.carol_extends_herself :
    (¬ ∀ (w : World Ledger) (orgId timestamp : Nat) (wallet : Account) (c : AccessCall)
        (a' : OrgAccessManager) (events : List AccessEvent),
      w.Reachable → w.registry.orgRootAdmin orgId ≠ wallet →
      c.exec w.access w.registry ⟨wallet, timestamp⟩ = .ok (a', events) →
      a'.memberships orgId wallet = w.access.memberships orgId wallet) ∧
    (¬ ∀ (w w' : World Ledger) (ts : List (Transition Ledger)) (orgId : Nat) (wallet : Account)
        (expiresAt : Uint64),
      w.Reachable → w.Path ts w' →
      (w.access.memberships orgId wallet).expiresAt = expiresAt → expiresAt ≠ 0#64 →
      w.registry.orgRootAdmin orgId ≠ wallet →
      (∀ t ∈ ts, t.after.registry.orgRootAdmin orgId ≠ wallet ∧
        (t.msg.sender ≠ wallet →
          t.after.access.memberships orgId wallet = t.before.access.memberships orgId wallet)) →
      ∀ now, expiresAt.toNat ≤ now → w'.effectiveRole now orgId wallet = ROLE_NONE) := by
  have hreach : Sample.untilFourHundred.Reachable := Sample.after_reachable _
  have hroot : Sample.untilFourHundred.registry.orgRootAdmin 1 ≠ Sample.carol := by
    decide +kernel
  constructor
  · intro hsame
    obtain ⟨a', events, hstep⟩ : ∃ a' events, AccessStep Sample.untilFourHundred.access
        Sample.untilFourHundred.registry ⟨Sample.carol, 106⟩ (.setRoleExpiry 1 Sample.carol 0)
        a' events :=
      ⟨_, _, .setRoleExpiry ⟨by decide +kernel, by decide +kernel⟩ hroot.symm (by decide)
        (by decide +kernel)⟩
    have hkept := hsame _ 1 106 Sample.carol _ a' events hreach hroot
      (AccessCall.exec_eq_ok.2 hstep)
    rcases hstep.own_membership hroot with ⟨_, hself⟩ | ⟨hchanged, _⟩
    · exact hself ⟨0, rfl, by decide +kernel⟩
    · exact hchanged hkept
  · intro hends
    have hpath := Sample.untilFourHundred.run_path Sample.carolExtends
    have hrole := hends _ _ _ 1 Sample.carol 400 hreach hpath (by decide +kernel) (by decide)
      hroot (by decide +kernel) 1000 (by decide)
    revert hrole
    decide +kernel

/-- As long as she makes no such call, her administration ends at 400. -/
theorem Sample.carol_bound : Sample.untilFourHundred.effectiveRole 400 1 Sample.carol = ROLE_NONE := by
  have hreach : Sample.untilFourHundred.Reachable := Sample.after_reachable _
  exact (OrgAccessManager.selfGrant_iff Ledger).2 _ _ [] 1 Sample.carol 400 hreach (.nil _)
    (by decide +kernel) (by decide) (by decide +kernel) (by simp) 400 (by decide)

end OwneX
