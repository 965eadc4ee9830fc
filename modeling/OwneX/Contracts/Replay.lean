import OwneX.Contracts.Invariants

set_option autoImplicit false

/-! # Replaying the event log

The events of the registry and of the access manager, in log order and with the times of their
blocks, say everything that can be asked about identities and access. `replay` is the one function
that reads them, from the constructor's events on, and `World.run_replay` says that after any run it
has rebuilt what is stored. The only thing an event leaves out is a new member's `joinedAt`, which is
the time of the block. -/

namespace OwneX

open Storage IndexedList

/-- An event with the timestamp of its block. -/
structure LogEntry where
  timestamp : Nat
  event : Event
deriving DecidableEq

/-- What an auditor of the access manager wants to know: its storage, with the enumeration of the
    members as a set. -/
structure AccessRecords where
  memberships : Nat → Address → Membership
  listed : Nat → Address → Bool
  permissionOverride : Nat → Bytes32 → Bytes32 → Override
  applicationMetadata : Nat → Bytes32 → Bytes32
  applicationRegistered : Nat → Bytes32 → Bool
  appRoleAccess : Nat → Bytes32 → Bytes32 → Bool

structure AuditRecords where
  registry : IdentityRegistry
  access : AccessRecords

/-! ## The replay function -/

/-- Before the first event. -/
def AuditRecords.blank : AuditRecords where
  registry :=
    { owner := 0#160
      identities := fun _ => {}
      isRegistrar := fun _ => false
      organizations := fun _ => {}
      organizationCount := 0 }
  access :=
    { memberships := fun _ _ => {}
      listed := fun _ _ => false
      permissionOverride := fun _ _ _ => .unset
      applicationMetadata := fun _ _ => 0#256
      applicationRegistered := fun _ _ => false
      appRoleAccess := fun _ _ _ => false }

def IdentityRegistry.replay (r : IdentityRegistry) : RegistryEvent → IdentityRegistry
  | .identityRegistered wallet identityHash _ at_ =>
      r.setIdentity wallet { identityHash, exists_ := true, active := true, registeredAt := at_ }
  | .identityHashUpdated wallet _ newHash _ =>
      r.setIdentity wallet { r.identities wallet with identityHash := newHash }
  | .identityRevoked wallet _ =>
      r.setIdentity wallet { r.identities wallet with active := false }
  | .identityReactivated wallet _ =>
      r.setIdentity wallet { r.identities wallet with active := true }
  | .registrarUpdated registrar allowed =>
      { r with isRegistrar := Function.update r.isRegistrar registrar allowed }
  | .organizationCreated orgId rootAdmin metadataHash at_ =>
      { r.setOrganization orgId { metadataHash, rootAdmin, active := true, createdAt := at_ } with
        organizationCount := orgId }
  | .organizationMetadataUpdated orgId _ newHash =>
      r.setOrganization orgId { r.organizations orgId with metadataHash := newHash }
  | .organizationStatusChanged orgId active _ =>
      r.setOrganization orgId { r.organizations orgId with active }
  | .orgRootAdminTransferred orgId _ newAdmin =>
      r.setOrganization orgId { r.organizations orgId with rootAdmin := newAdmin }
  | .ownershipTransferred _ newOwner => { r with owner := newOwner }

namespace AccessRecords

variable (a : AccessRecords)

def setMembership (orgId : Nat) (wallet : Address) (m : Membership) : AccessRecords :=
  { a with memberships := set₂ a.memberships orgId wallet m }

def setListed (orgId : Nat) (wallet : Address) (b : Bool) : AccessRecords :=
  { a with listed := set₂ a.listed orgId wallet b }

def replay (timestamp : Nat) : AccessEvent → AccessRecords
  | .memberAdded orgId wallet role expiresAt _ =>
      (a.setMembership orgId wallet { role, joinedAt := uint64 timestamp, expiresAt }).setListed
        orgId wallet true
  | .memberRemoved orgId wallet _ _ =>
      (a.setMembership orgId wallet {}).setListed orgId wallet false
  | .roleAssigned orgId wallet _ role expiresAt _ =>
      a.setMembership orgId wallet { a.memberships orgId wallet with role, expiresAt }
  | .roleExpiryUpdated orgId wallet _ expiresAt _ =>
      a.setMembership orgId wallet { a.memberships orgId wallet with expiresAt }
  | .permissionUpdated orgId role permission state _ =>
      { a with permissionOverride := set₃ a.permissionOverride orgId role permission state }
  | .applicationRegistered orgId appId metadataHash _ =>
      { a with
        applicationRegistered := set₂ a.applicationRegistered orgId appId true
        applicationMetadata := set₂ a.applicationMetadata orgId appId metadataHash }
  | .appAccessChanged orgId appId role allowed _ =>
      { a with appRoleAccess := set₃ a.appRoleAccess orgId appId role allowed }

end AccessRecords

/-- One entry of the log. What the asset contract emits is not about identities or access. -/
def AuditRecords.apply (s : AuditRecords) (entry : LogEntry) : AuditRecords :=
  match entry.event with
  | .registry e => { s with registry := s.registry.replay e }
  | .access e => { s with access := s.access.replay entry.timestamp e }
  | .asset _ => s

/-- The state a log speaks of. -/
def replay (log : List LogEntry) : AuditRecords :=
  log.foldl AuditRecords.apply .blank

/-! ## The log of a run -/

/-- What the registry's constructor emits, its base contract's event first. -/
def constructorEvents (initialOwner : Account) : List RegistryEvent :=
  [.ownershipTransferred 0#160 initialOwner, .registrarUpdated initialOwner true]

section Log

variable {σ : Type}

def Transition.log (t : Transition σ) : List LogEntry :=
  t.events.map (LogEntry.mk t.msg.timestamp)

/-- The log of a deployment at `deployedAt` and of the transitions of a run. -/
def runLog (deployedAt : Nat) (registryOwner : Account) (ts : List (Transition σ)) :
    List LogEntry :=
  (constructorEvents registryOwner).map (fun e => ⟨deployedAt, .registry e⟩) ++
    ts.flatMap Transition.log

/-- What is stored, as an auditor sees it. -/
def World.records (w : World σ) : AuditRecords where
  registry := w.registry
  access :=
    { memberships := w.access.memberships
      listed := fun o wallet => decide (wallet ∈ w.access.memberList o)
      permissionOverride := w.access.permissionOverride
      applicationMetadata := w.access.applicationMetadata
      applicationRegistered := w.access.applicationRegistered
      appRoleAccess := w.access.appRoleAccess }

end Log

/-! ## One step -/

/-- The events of a call of the registry are the change it made. -/
theorem RegistryStep.replay {r r' : IdentityRegistry} {msg : Msg} {c : RegistryCall}
    {events : List RegistryEvent} (h : RegistryStep r msg c r' events) :
    events.foldl IdentityRegistry.replay r = r' := by
  cases h <;> rfl

section Access

variable {σ : Type} {w : World σ} {a' : OrgAccessManager} {msg : Msg} {c : AccessCall}
  {events : List AccessEvent}

/-- The events of a call of the access manager are the change it made. -/
theorem AccessStep.replay (h : AccessStep w.access w.registry msg c a' events)
    (hinv : MembersInv w.access) :
    events.foldl (fun s e => s.replay msg.timestamp e) w.records.access =
      ({ w with access := a' } : World σ).records.access := by
  cases h with
  | @addMember orgId wallet role expiresAt =>
      have hmembership : ∀ m m' : Membership,
          set₂ (set₂ w.access.memberships orgId wallet m) orgId wallet m' =
            set₂ w.access.memberships orgId wallet m' := fun m m' => by
        unfold set₂
        rw [Function.update_self, Function.update_idem, Function.update_idem]
      have hlisted : set₂ w.records.access.listed orgId wallet true = fun o v =>
          decide (v ∈ Function.update w.access.memberList orgId
            (w.access.memberList orgId ++ [wallet]) o) := by
        funext o v
        rw [set₂_apply]
        by_cases ho : o = orgId
        · subst ho
          rw [Function.update_self]
          by_cases hv : v = wallet
          · simp [hv]
          · simp [hv, World.records]
        · simp [ho, World.records]
      show AccessRecords.mk _ _ _ _ _ _ = AccessRecords.mk _ _ _ _ _ _
      congr 1
      · rw [show (w.records.access.replay msg.timestamp
          (.memberAdded orgId wallet role expiresAt msg.sender)).memberships orgId wallet =
          { role, joinedAt := uint64 msg.timestamp, expiresAt } from set₂_same _ _ _ _]
        exact hmembership _ _
  | assignRole => rfl
  | setRoleExpiry => rfl
  | @removeMember orgId wallet last _ _ _ hmember hlast =>
      have hlisted : set₂ w.records.access.listed orgId wallet false = fun o v =>
          decide (v ∈ Function.update w.access.memberList orgId
            (swapPop (w.access.memberList orgId) (w.access.memberIndex orgId wallet) last) o) := by
        funext o v
        rw [set₂_apply]
        by_cases ho : o = orgId
        · subst ho
          have hmem := mem_swapPop (hinv.indexed o) ((hinv.listed o wallet).2 hmember) hlast v
          rw [Function.update_self]
          by_cases hv : v = wallet
          · subst hv
            simp [hmem]
          · simp [hv, hmem, World.records]
        · simp [ho, World.records]
      show AccessRecords.mk _ _ _ _ _ _ = AccessRecords.mk _ _ _ _ _ _
      congr 1
  | setPermission => rfl
  | registerApplication => rfl
  | setAppAccess => rfl

end Access

/-! ## Runs -/

section Run

variable {σ : Type} [ERC721 σ]

theorem foldl_registry (events : List RegistryEvent) (timestamp : Nat) (s : AuditRecords) :
    ((events.map Event.registry).map (LogEntry.mk timestamp)).foldl AuditRecords.apply s =
      { s with registry := events.foldl IdentityRegistry.replay s.registry } := by
  induction events generalizing s with
  | nil => rfl
  | cons e events ih => exact ih _

theorem foldl_access (events : List AccessEvent) (timestamp : Nat) (s : AuditRecords) :
    ((events.map Event.access).map (LogEntry.mk timestamp)).foldl AuditRecords.apply s =
      { s with access := events.foldl (fun a e => a.replay timestamp e) s.access } := by
  induction events generalizing s with
  | nil => rfl
  | cons e events ih => exact ih _

theorem foldl_asset (events : List AssetEvent) (timestamp : Nat) (s : AuditRecords) :
    ((events.map Event.asset).map (LogEntry.mk timestamp)).foldl AuditRecords.apply s = s := by
  induction events with
  | nil => rfl
  | cons e events ih => exact ih

/-- A transition logs what it changed. -/
theorem Transition.records {t : Transition σ} (hvalid : t.Valid)
    (hinv : MembersInv t.before.access) :
    t.log.foldl AuditRecords.apply t.before.records = t.after.records := by
  obtain ⟨w, msg, action, w', events⟩ := t
  have haction : ActionStep w msg action w' events := Transition.valid_iff.1 hvalid
  cases haction with
  | registry hstep =>
      refine (foldl_registry ..).trans ?_
      rw [show w.records.registry = w.registry from rfl, hstep.replay]
      rfl
  | access hstep =>
      refine (foldl_access ..).trans ?_
      rw [hstep.replay hinv]
      rfl
  | asset => exact foldl_asset ..
  | mintBegin => rfl
  | mintEnd => rfl

theorem World.Path.records {w w' : World σ} {ts : List (Transition σ)} (h : w.Path ts w')
    (hinv : MembersInv w.access) :
    (ts.flatMap Transition.log).foldl AuditRecords.apply w.records = w'.records := by
  induction h with
  | nil => rfl
  | @cons t ts w' hvalid _ ih =>
      have hafter : MembersInv t.after.access := (Transition.valid_iff.1 hvalid).membersInv hinv
      have hrecords : t.log.foldl AuditRecords.apply t.before.records = t.after.records :=
        Transition.records hvalid hinv
      rw [List.flatMap_cons, List.foldl_append]
      show (ts.flatMap Transition.log).foldl AuditRecords.apply
        (t.log.foldl AuditRecords.apply t.before.records) = w'.records
      rw [hrecords]
      exact ih hafter

/-- Folding the log of a run from the constructor on rebuilds the identities, the registrars, the
    organizations and everything the access manager stores. -/
theorem World.run_replay (registryOwner assetOwner : Account) (deployedAt : Nat) (txs : List Tx) :
    let r := (World.deploy registryOwner assetOwner : World σ).run txs
    replay (runLog deployedAt registryOwner r.2) = r.1.records := by
  intro r
  have hpath : World.Path _ r.2 r.1 := run_path (deploy registryOwner assetOwner : World σ) txs
  have hdeploy : ((constructorEvents registryOwner).map fun e =>
      (⟨deployedAt, .registry e⟩ : LogEntry)).foldl AuditRecords.apply .blank =
      (deploy registryOwner assetOwner : World σ).records := by
    rfl
  rw [replay, runLog, List.foldl_append, hdeploy]
  exact World.Path.records hpath .deploy

end Run

end OwneX
