import OwneX.Platform.AssetServer
import OwneX.Platform.DirectoryRoutes
import OwneX.Platform.Mediation

set_option autoImplicit false

/-! # The tables `organizations` and `profiles`

Any number of requests to the directory. The chain and the other tables change from outside, as they
like; these two tables are changed by the requests only. -/

namespace OwneX

open Js JsNumber Prog Interleaving Service KeyedList

/-! ## The tables -/

/-- What an upsert makes of a row that is there. -/
def OrganizationRow.onto (new old : OrganizationRow) : OrganizationRow :=
  { new with orgId := old.orgId }

/-- What an upsert makes of a row that is there. -/
def ProfileRow.onto (new : ProfileRow) (old : StoredProfile) : StoredProfile :=
  { old with toProfileRow := new }

/-- A new row. The database chooses the date. -/
def ProfileRow.stored (new : ProfileRow) (wallet : Address) (createdAt : String) : StoredProfile :=
  { new with wallet, createdAt }

/-- The two tables, each with its primary key. -/
structure DirectoryStore where
  organizations : List OrganizationRow
  profiles : List StoredProfile
  organizationKey : (organizations.map (·.orgId)).Nodup
  profileKey : (profiles.map (·.wallet)).Nodup

namespace DirectoryStore

variable (store : DirectoryStore)

def organization (orgId : SafeInt) : Option OrganizationRow :=
  lookup (fun row : OrganizationRow => row.orgId) store.organizations orgId

def profile (wallet : Address) : Option StoredProfile :=
  lookup (fun row : StoredProfile => row.wallet) store.profiles wallet

def organizationName (orgId : Nat) : Option String :=
  (store.organizations.find? fun row => row.orgId.1 = orgId).map (·.name)

def rosterProfile (row : StoredProfile) : RosterProfile where
  wallet := row.wallet
  displayName := row.displayName
  jobTitle := row.jobTitle
  department := row.department

/-- The profiles of some wallets. -/
def profilesOf (wallets : List Address) : List StoredProfile :=
  store.profiles.filter fun row => wallets.any (· == row.wallet)

def upsertOrganization (new : OrganizationRow) : DirectoryStore where
  organizations := upsert (fun row => row.orgId) new.orgId new new.onto store.organizations
  profiles := store.profiles
  organizationKey := nodup_upsert (f := new.onto) rfl (fun _ => rfl) store.organizationKey
  profileKey := store.profileKey

def upsertProfile (wallet : Address) (new : ProfileRow) (createdAt : String) : DirectoryStore where
  organizations := store.organizations
  profiles :=
    upsert (fun row => row.wallet) wallet (new.stored wallet createdAt) new.onto store.profiles
  organizationKey := store.organizationKey
  profileKey :=
    have hkey : (new.stored wallet createdAt).wallet = wallet := rfl
    nodup_upsert (f := new.onto) hkey (fun _ => rfl) store.profileKey

variable {store}

theorem mem_upsertOrganization {new row : OrganizationRow}
    (h : row ∈ (store.upsertOrganization new).organizations) :
    row ∈ store.organizations ∨ row = new := by
  rcases mem_upsert h with hold | ⟨old, -, hkey, rfl⟩ | ⟨-, rfl⟩
  · exact .inl hold
  · have hsame : new.onto old = new := by
      unfold OrganizationRow.onto
      rw [hkey]
    exact .inr hsame
  · exact .inr rfl

theorem mem_upsertProfile {wallet : Address} {new : ProfileRow} {createdAt : String}
    {row : StoredProfile} (h : row ∈ (store.upsertProfile wallet new createdAt).profiles) :
    row ∈ store.profiles ∨ row.wallet = wallet ∧ row.toProfileRow = new := by
  rcases mem_upsert h with hold | ⟨old, -, hkey, rfl⟩ | ⟨-, rfl⟩
  · exact .inl hold
  · exact .inr ⟨hkey, rfl⟩
  · exact .inr ⟨rfl, rfl⟩

end DirectoryStore

/-! ## The server -/

/-- The tokens of a wallet. -/
def AssetNFT.heldBy {σ : Type} [ERC721 σ] (n : AssetNFT σ) (holder : Address) : List Nat :=
  ((List.range n.totalMinted).map (· + 1)).filter fun tokenId => n.ownerOf tokenId = holder

structure DirectoryState (σ : Type) where
  server : ServerState σ
  store : DirectoryStore

namespace DirectoryState

variable {σ : Type} [ERC721 σ]

/-- What an operation results in and what it makes of the state. Rows and tokens come in any
    order. -/
def exec (rt : ServerRuntime) (s : DirectoryState σ) :
    (op : DirectoryOp) → op.Res → DirectoryState σ → Prop
  | .profile (.server op), r, s' => s.server.exec rt op r s'.server ∧ s'.store = s.store
  | .profile (.upsert wallet row), r, s' =>
      ∃ createdAt, Attempted s
        (.ok (), { s with store := s.store.upsertProfile wallet row createdAt }) r s'
  | .getMembers orgId, r, s' =>
      Attempt s (.ok (s.server.chain.world.access.getMembers orgId), s) r s'
  | .organizationCount, r, s' =>
      Attempt s (.ok s.server.chain.world.registry.organizationCount, s) r s'
  | .assetsOfHolder wallet, r, s' =>
      ∃ ids : List Nat, ids.Perm (s.server.chain.world.nft.heldBy wallet) ∧
        Attempt s (.ok ids, s) r s'
  | .selectProfiles wallets, r, s' =>
      ∃ rows : List StoredProfile, rows.Perm (s.store.profilesOf wallets) ∧
        Attempted s (.ok (rows.map DirectoryStore.rosterProfile), s) r s'
  | .selectProfile wallet, r, s' => Attempted s (.ok (s.store.profile wallet), s) r s'
  | .selectOrganizationName orgId, r, s' =>
      Attempted s (.ok (s.store.organizationName orgId), s) r s'
  | .upsertOrganization row, r, s' =>
      Attempted s (.ok (), { s with store := s.store.upsertOrganization row }) r s'

/-- The chain changes, time passes, and other requests change the other tables. -/
def outside (s s' : DirectoryState σ) : Prop :=
  s.server.clock.1 ≤ s'.server.clock.1 ∧ s'.store = s.store

/-- What an operation results in and what it makes of the state when nothing else goes on and
    nothing fails. `createdAt` is what the database chooses. -/
def answer (rt : ServerRuntime) (createdAt : String) (s : DirectoryState σ) :
    (op : DirectoryOp) → op.Res × DirectoryState σ
  | .profile (.server op) =>
      (s.server.outcome rt op, { s with server := s.server.effect op })
  | .profile (.upsert wallet row) =>
      (.ok (), { s with store := s.store.upsertProfile wallet row createdAt })
  | .getMembers orgId => (.ok (s.server.chain.world.access.getMembers orgId), s)
  | .organizationCount => (.ok s.server.chain.world.registry.organizationCount, s)
  | .assetsOfHolder wallet => (.ok (s.server.chain.world.nft.heldBy wallet), s)
  | .selectProfiles wallets =>
      (.ok ((s.store.profilesOf wallets).map DirectoryStore.rosterProfile), s)
  | .selectProfile wallet => (.ok (s.store.profile wallet), s)
  | .selectOrganizationName orgId => (.ok (s.store.organizationName orgId), s)
  | .upsertOrganization row => (.ok (), { s with store := s.store.upsertOrganization row })

end DirectoryState

inductive DirectoryRequest where
  | roster (session : SessionData) (orgId : Option Nat)
  | prepare (session : SessionData) (body : Option OrganizationBody)
  | confirm (session : SessionData) (body : Option ConfirmOrganizationBody)
  | profile (session : SessionData)
  | saveProfile (session : SessionData) (body : Option ProfileBody)
  | me (session : SessionData) (orgId : Option Nat)

abbrev DirectoryRequest.Ans : DirectoryRequest → Type
  | roster .. => Except ApiError Roster
  | prepare .. => Except ApiError PreparedOrganization
  | confirm .. => Except ApiError ConfirmedOrganization
  | profile _ => Except ApiError OwnProfileReply
  | saveProfile .. => Except ApiError ProfileReply
  | me .. => Except ApiError Me

section Service

variable [Str.CaseMapping]

def DirectoryRequest.handler (rt : AssetRuntime) :
    (req : DirectoryRequest) → Prog DirectoryOp DirectoryOp.Res req.Ans
  | roster session orgId => (getRoster session orgId).run
  | prepare session body => (prepareOrganization rt session body).run
  | confirm session body => (confirmOrganization rt session body).run
  | profile session => (getProfile rt session).run
  | saveProfile session body => (besideOrganizations (putProfile rt session body)).run
  | me session orgId => (identityMe rt session orgId).run

/-- Any number of requests. -/
def directory (σ : Type) [ERC721 σ] (rt : AssetRuntime) : Service where
  State := DirectoryState σ
  Op := DirectoryOp
  Res := DirectoryOp.Res
  Req := DirectoryRequest
  Ans := DirectoryRequest.Ans
  exec := DirectoryState.exec rt.server
  env := DirectoryState.outside
  admits := fun _ _ => True
  handler := DirectoryRequest.handler rt

end Service

/-! ## What operations do -/

namespace DirectoryState

variable {σ : Type} [ERC721 σ] {rt : ServerRuntime} {s s' : DirectoryState σ}

/-- The tables change by the two statements that write them. -/
theorem exec_store {op : DirectoryOp} {r : op.Res} (h : s.exec rt op r s') :
    s'.store = s.store ∨
      (∃ row, op = .upsertOrganization row ∧ s'.store = s.store.upsertOrganization row) ∨
      ∃ wallet row createdAt, op = .profile (.upsert wallet row) ∧
        s'.store = s.store.upsertProfile wallet row createdAt := by
  cases op with
  | profile op =>
      cases op with
      | server op => exact .inl h.2
      | upsert wallet row =>
          obtain ⟨createdAt, hattempt⟩ := h
          rcases hattempt.effect with rfl | rfl
          · exact .inl rfl
          · exact .inr (.inr ⟨wallet, row, createdAt, rfl, rfl⟩)
  | getMembers orgId => exact .inl (h.keeps (P := fun s' => s'.store = s.store) rfl rfl)
  | organizationCount => exact .inl (h.keeps (P := fun s' => s'.store = s.store) rfl rfl)
  | assetsOfHolder wallet =>
      obtain ⟨ids, -, hattempt⟩ := h
      exact .inl (hattempt.keeps (P := fun s' => s'.store = s.store) rfl rfl)
  | selectProfiles wallets =>
      obtain ⟨rows, -, hattempt⟩ := h
      rcases hattempt.effect with rfl | rfl <;> exact .inl rfl
  | selectProfile wallet =>
      rcases h.effect with rfl | rfl <;> exact .inl rfl
  | selectOrganizationName orgId =>
      rcases h.effect with rfl | rfl <;> exact .inl rfl
  | upsertOrganization row =>
      rcases h.effect with rfl | rfl
      · exact .inl rfl
      · exact .inr (.inl ⟨row, rfl, rfl⟩)

/-- Alone, the server does what it may do among others. -/
theorem exec_answer (createdAt : String) (s : DirectoryState σ) (op : DirectoryOp) :
    s.exec rt op (s.answer rt createdAt op).1 (s.answer rt createdAt op).2 := by
  cases op with
  | profile op =>
      cases op with
      | server op => exact ⟨s.server.exec_outcome rt op, rfl⟩
      | upsert wallet row => exact ⟨createdAt, .inl rfl⟩
  | assetsOfHolder wallet => exact ⟨_, .refl _, .inl rfl⟩
  | selectProfiles wallets => exact ⟨_, .refl _, .inl rfl⟩
  | _ => exact .inl rfl

end DirectoryState

/-! ## Runs -/

section Runs

variable [Str.CaseMapping] {σ : Type} [ERC721 σ] {rt : AssetRuntime} {s : DirectoryState σ}
  {ts : List (directory σ rt).Transition} {t : (directory σ rt).Transition}
  {c : (directory σ rt).Config}

/-- What a transition makes of the two tables. -/
theorem store_step (h : t.Valid) :
    t.after.shared.store = t.before.shared.store ∨
      (∃ i row r, t.move = .perform i (.upsertOrganization row) r ∧
        t.after.shared.store = t.before.shared.store.upsertOrganization row) ∨
      ∃ i wallet row r createdAt, t.move = .perform i (.profile (.upsert wallet row)) r ∧
        t.after.shared.store = t.before.shared.store.upsertProfile wallet row createdAt := by
  rcases Transition.Valid.shared h with heq | ⟨i, op, r, hmove, hexec⟩ | henv
  · rw [heq]
    exact .inl rfl
  · rcases DirectoryState.exec_store hexec with hsame | ⟨row, rfl, hstore⟩ |
      ⟨wallet, row, createdAt, rfl, hstore⟩
    · exact .inl hsame
    · exact .inr (.inl ⟨i, row, r, hmove, hstore⟩)
    · exact .inr (.inr ⟨i, wallet, row, r, createdAt, hmove, hstore⟩)
  · exact .inl henv.2

/-- Organizations are added and never deleted, as the other requests to the server assume. -/
theorem organizations_subset (h : (directory σ rt).Run s ts c) :
    s.store.organizations.map (·.orgId) ⊆ c.shared.store.organizations.map (·.orgId) := by
  refine h.rel (R := fun c c' => c.shared.store.organizations.map (·.orgId) ⊆
    c'.shared.store.organizations.map (·.orgId)) (fun _ => List.Subset.refl _)
    (fun hab hbc => List.Subset.trans hab hbc) fun t ht => ?_
  rcases store_step (h.valid t ht) with heq | ⟨i, row, r, -, heq⟩ |
    ⟨i, wallet, row, r, createdAt, -, heq⟩
  · exact heq ▸ List.Subset.refl _
  · change _ ⊆ t.after.shared.store.organizations.map _
    rw [heq]
    exact keys_subset_upsert (f := row.onto) row.orgId row (fun _ => rfl)
      t.before.shared.store.organizations
  · change _ ⊆ t.after.shared.store.organizations.map _
    rw [heq]
    exact List.Subset.refl _

end Runs

/-! ## Scripted runs -/

/-- No statement fails. The chain and the clock change as the cue says. -/
def directoryPlayer (σ : Type) [ERC721 σ] [Str.CaseMapping] (rt : AssetRuntime) :
    (directory σ rt).Player where
  Choice := Unit
  Event := Chain σ × TimeValue
  perform := fun (s : DirectoryState σ) op _ =>
    some (s.answer rt.server "2026-01-01T00:00:00Z" op)
  outside := fun (s : DirectoryState σ) event =>
    ((serverPlayer σ rt.server).outside s.server event).map fun server => { s with server }
  admits := fun _ _ => true
  perform_sound := by
    intro s op choice r s' h
    obtain ⟨rfl, rfl⟩ := Prod.mk.inj (Option.some.inj h)
    exact DirectoryState.exec_answer _ s op
  outside_sound := by
    intro s event s' h
    obtain ⟨server, hserver, rfl⟩ := Option.map_eq_some_iff.1 h
    exact ⟨((serverPlayer σ rt.server).outside_sound hserver).1, rfl⟩
  admits_sound := fun _ => trivial

end OwneX
