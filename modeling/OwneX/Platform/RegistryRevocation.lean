import OwneX.Platform.ServerRuns

set_option autoImplicit false

/-! # Revocation in the application registry

A registration reads the row, awaits, and then writes a status that it has computed from what it read.
An application that was revoked in between is active again. This is the only way in which a revoked
application loses its status without a `PATCH` that activates it (`revocation_sticks_iff`). -/

namespace OwneX

open Js JsNumber Prog Interleaving Service

variable {σ : Type} [ERC721 σ] {rt : ServerRuntime}

/-! ## What is said -/

/-- The stored status of an application. -/
def ServerState.status? (s : ServerState σ) (app : AppKey) : Option ApplicationStatus :=
  (s.applications.findByKey app).map (·.status)

/-- A `PATCH` that sets the status of the application commits. -/
def PatchCommits (app : AppKey) (status : ApplicationStatus) (t : (server σ rt).Transition) :
    Prop :=
  ∃ i session slug body r, t.before.Serves i (.patch session slug body) ∧
    app = (body.orgId, slug.1) ∧ body.status.map (·.1) = some status ∧
    t.move = .perform i (.updateApplication app body.patch) r ∧
    t.before.shared.status? app ≠ none ∧
    t.after.shared = t.before.shared.effect (.updateApplication app body.patch)

/-- Once a `PATCH` that revokes the application has committed, the stored status stays so until a
    `PATCH` that activates it commits. -/
def RevocationSticks (app : AppKey) (ts : List (server σ rt).Transition) : Prop :=
  ∀ pre t mid post c, ts = pre ++ t :: (mid ++ post) → PatchCommits app .revoked t →
    (∀ u ∈ mid, ¬ PatchCommits app .active u) → (server σ rt).system.Path t.after mid c →
    c.shared.status? app = some .revoked

/-- The application has been revoked, and not activated since. -/
def UnderRevocation (app : AppKey) (ts : List (server σ rt).Transition) : Prop :=
  ∃ pre t mid, ts = pre ++ t :: mid ∧ PatchCommits app .revoked t ∧
    ∀ u ∈ mid, ¬ PatchCommits app .active u

/-- A registration writes the row of the application, and the row that it has read before was not a
    revoked one. -/
def RegistersUnrevoked (app : AppKey) (pre : List (server σ rt).Transition)
    (t : (server σ rt).Transition) : Prop :=
  ∃ i cols r, t.move = .perform i (.upsertApplication cols) r ∧ cols.key = app ∧
    t.after.shared.applications ≠ t.before.shared.applications ∧
    ¬ ∃ row, ⟨.selectByKey app, .ok (some row)⟩ ∈ ownLog i pre ∧ row.status = .revoked

/-! ## What a registration has read -/

/-- An operation that looks no application up by its slug. -/
def ServerOp.NoLookup (op : ServerOp) : Prop :=
  ∀ app, op ≠ .selectByKey app

theorem ServerOp.OnChain.noLookup {op : ServerOp} (h : op.OnChain) : op.NoLookup := by
  rintro app rfl
  exact h

/-- What a registration writes, after the row it has read, once. -/
theorem upsert_of_register {session : SessionData} {body : RegistrationBody}
    {log : List ((op : ServerOp) × op.Res)} {cols : ApplicationColumns}
    (h : Reaches (registerApplication rt session body).run log (.upsertApplication cols)) :
    ∃ found callbacks clientId secret front back, ⟨.selectByKey body.app, .ok found⟩ ∈ log ∧
      (∀ e ∈ log, e.1.NoLookup ∨ e = ⟨.selectByKey body.app, .ok found⟩) ∧
      cols = registrationColumns rt body (found.map fun row => toRecord rt row callbacks) clientId
        secret ∧
      Returns (clientIdOr (found.bind (·.clientId))).run front (.ok clientId) ∧
      Returns (newSecretIf rt ((found.bind (·.clientSecretHash)).all (· = []))).run back
        (.ok secret) := by
  obtain ⟨caller, log₁, rest₁, hlog, hauthorized, h⟩ := h.second (only_authorize _ _ _) id
  obtain ⟨-, h⟩ := reaches_refuseIf_bind.1 h
  obtain ⟨existing, log₂, rest₂, hrest₁, hfind, h⟩ := h.second (P := ServerOp.Reads)
    (only_attempt (only_findApplicationBySlug (fun _ => trivial) (fun _ => trivial) _) _) id
  obtain ⟨clientId, log₃, rest₃, hrest₂, hclientId, h⟩ := h.second (P := ServerOp.Reads)
    (only_clientIdOr (fun _ => trivial) _) id
  obtain ⟨secret, log₄, rest₄, hrest₃, hsecret, h⟩ := h.second (P := ServerOp.Reads)
    (only_newSecretIf (fun _ => trivial) trivial _) id
  have hupsert := h.first (P := fun op => ∀ cols, op ≠ .upsertApplication cols)
    (fun _ => only_exceptT_bind (only_attempt (only_replaceCallbacks (by simp) (by simp)) _)
      fun _ => only_exceptT_pure _)
    (fun hne => hne cols rfl)
  obtain ⟨hrest₄, hcols⟩ := reaches_call.1 (reaches_attempt.1 hupsert)
  obtain ⟨found, back, callbacks, hlog₂, hcallbacks, rfl⟩ :=
    returns_findApplicationBySlug (returns_attempt.1 hfind)
  subst hrest₄ hrest₃ hrest₂ hlog₂ hrest₁ hlog
  rw [bind_clientId_toRecord] at hclientId
  rw [bind_clientSecretHash_toRecord] at hsecret
  refine ⟨found, callbacks, clientId, secret, log₃, log₄, by simp, fun e he => ?_,
    ServerOp.upsertApplication.inj hcols, hclientId, hsecret⟩
  simp only [List.mem_append, List.mem_cons, List.not_mem_nil, or_false] at he
  rcases he with he | (rfl | he) | he | he
  · exact .inl ((only_authorize _ _ _).of_mem hauthorized he).noLookup
  · exact .inr rfl
  · exact .inl (Only.of_mem (P := ServerOp.NoLookup)
      (only_withCallbacks (fun _ _ => by simp) _) hcallbacks he)
  · exact .inl (Only.of_mem (P := ServerOp.NoLookup)
      (only_clientIdOr (fun _ _ => by simp) _) hclientId he)
  · exact .inl (Only.of_mem (P := ServerOp.NoLookup)
      (only_newSecretIf (fun _ _ => by simp) (fun _ => by simp) _) hsecret he)

/-! ## What a transition makes of the status -/

omit [ERC721 σ] in
/-- An upsert that changes anything sets the status of its row. -/
theorem status_upsert {s : ServerState σ} {cols : ApplicationColumns}
    (h : (s.effect (.upsertApplication cols)).applications ≠ s.applications) (app : AppKey) :
    (s.effect (.upsertApplication cols)).status? app =
      if app = cols.key then some cols.status else s.status? app := by
  unfold ServerState.status?
  change (s.applications.upsert s.organizations cols).2 ≠ s.applications at h
  change ((s.applications.upsert s.organizations cols).2.findByKey app).map (·.status) = _
  rcases ApplicationTable.findByKey_upsert s.organizations cols with ⟨e, heq⟩ | ⟨orgId, hrows⟩
  · exact absurd (congrArg Prod.snd heq) h
  · rw [hrows app]
    by_cases happ : app = cols.key
    · rw [if_pos happ, if_pos happ]
      cases s.applications.findByKey cols.key <;> rfl
    · rw [if_neg happ, if_neg happ]

omit [ERC721 σ] in
theorem status_update (s : ServerState σ) (app : AppKey) (patch : ApplicationPatch) (app' : AppKey) :
    (s.effect (.updateApplication app patch)).status? app' = s.status? app' ∨
      app = app' ∧ s.status? app' ≠ none ∧ ∃ status, patch.status = some status ∧
        (s.effect (.updateApplication app patch)).status? app' = some status := by
  unfold ServerState.status?
  change ((s.applications.update app patch).2.findByKey app').map (·.status) = _ ∨
    _ ∧ _ ∧ ∃ _, _ ∧ ((s.applications.update app patch).2.findByKey app').map (·.status) = _
  rcases ApplicationTable.findByKey_update app patch with ⟨e, heq⟩ | hrows
  · rw [heq]
    exact .inl rfl
  · rw [hrows app']
    cases hrow : s.applications.findByKey app' with
    | none => exact .inl rfl
    | some row =>
        have hkey := (ApplicationTable.findByKey_eq_some_iff.1 hrow).2
        simp only [Option.map_some]
        by_cases happ : row.key = app
        · rw [if_pos happ]
          cases hstatus : patch.status with
          | none => exact .inl (by simp [ApplicationPatch.onto, hstatus])
          | some status =>
              refine .inr ⟨happ.symm.trans hkey, by simp, status, rfl, ?_⟩
              simp [ApplicationPatch.onto, hstatus]
        · rw [if_neg happ]
          exact .inl rfl

/-- The rows of `applications` are changed by one of the two statements that write them. -/
theorem applications_step {t : (server σ rt).Transition} (h : t.Valid)
    (hchanged : t.after.shared.applications ≠ t.before.shared.applications) :
    (∃ i cols r, t.move = .perform i (.upsertApplication cols) r ∧
      t.after.shared = t.before.shared.effect (.upsertApplication cols)) ∨
    ∃ i app patch r, t.move = .perform i (.updateApplication app patch) r ∧
      t.after.shared = t.before.shared.effect (.updateApplication app patch) := by
  rcases Transition.Valid.shared h with heq | ⟨i, op, r, hmove, hexec⟩ | henv
  · exact absurd (congrArg ServerState.applications heq) hchanged
  · rcases ServerState.exec_effect hexec with heq | heq
    · exact absurd (congrArg ServerState.applications heq) hchanged
    · cases op with
      | upsertApplication cols => exact .inl ⟨i, cols, r, hmove, heq⟩
      | updateApplication app patch => exact .inr ⟨i, app, patch, r, hmove, heq⟩
      | _ => exact absurd (congrArg ServerState.applications heq) hchanged
  · exact absurd henv.2.2.1 hchanged

/-- The three things that may become of the status in one transition. -/
theorem status_step {t : (server σ rt).Transition} (h : t.Valid) (app : AppKey) :
    t.after.shared.status? app = t.before.shared.status? app ∨
      (∃ i cols r, t.move = .perform i (.upsertApplication cols) r ∧ cols.key = app ∧
        t.after.shared.applications ≠ t.before.shared.applications ∧
        t.after.shared.status? app = some cols.status) ∨
      ∃ i patch r status, t.move = .perform i (.updateApplication app patch) r ∧
        patch.status = some status ∧ t.before.shared.status? app ≠ none ∧
        t.after.shared = t.before.shared.effect (.updateApplication app patch) ∧
        t.after.shared.status? app = some status := by
  by_cases hsame : t.after.shared.applications = t.before.shared.applications
  · left
    unfold ServerState.status?
    rw [hsame]
  rcases applications_step h hsame with ⟨i, cols, r, hmove, heq⟩ | ⟨i, app', patch, r, hmove, heq⟩
  · rw [heq] at hsame ⊢
    have hstatus := status_upsert hsame app
    by_cases hkey : app = cols.key
    · rw [if_pos hkey] at hstatus
      exact .inr (.inl ⟨i, cols, r, hmove, hkey.symm, hsame, hstatus⟩)
    · rw [if_neg hkey] at hstatus
      exact .inl hstatus
  · rw [heq]
    rcases status_update t.before.shared app' patch app with
      hkept | ⟨rfl, hthere, status, hpatch, hstatus⟩
    · exact .inl hkept
    · exact .inr (.inr ⟨i, patch, r, status, hmove, hpatch, hthere, rfl, hstatus⟩)

/-! ## Runs -/

section Runs

variable {ts : List (server σ rt).Transition} {s : ServerState σ} {c : (server σ rt).Config}
  {app : AppKey}

/-- An `UPDATE` that sets the status is that of a `PATCH`. -/
theorem patchCommits_of_update {pre post : List (server σ rt).Transition}
    {t : (server σ rt).Transition} (h : (server σ rt).Run s (pre ++ t :: post) c) {i : Nat}
    {patch : ApplicationPatch} {r : Except String Unit} {status : ApplicationStatus}
    (hmove : t.move = .perform i (.updateApplication app patch) r)
    (hpatch : patch.status = some status) (hthere : t.before.shared.status? app ≠ none)
    (heffect : t.after.shared = t.before.shared.effect (.updateApplication app patch)) :
    PatchCommits app status t ∧ status ≠ .draft := by
  obtain ⟨req, hserves, hawaits⟩ := Run.only ServerRequest.only_handler h (by simp) hmove
  rcases hawaits with ⟨hnone, -⟩ | ⟨session, slug, body, rfl, happ, rfl⟩
  · rw [hpatch] at hnone
    cases hnone
  · refine ⟨⟨i, session, slug, body, r, hserves, happ, hpatch, hmove, hthere, heffect⟩, ?_⟩
    obtain ⟨settable, -, rfl⟩ := Option.map_eq_some_iff.1 hpatch
    exact settable.2

/-- What has been read by the registration that a row is written by. -/
theorem read_of_upsert {pre post : List (server σ rt).Transition} {t : (server σ rt).Transition}
    (h : (server σ rt).Run s (pre ++ t :: post) c) {i : Nat} {cols : ApplicationColumns}
    {r : Except String Unit} (hmove : t.move = .perform i (.upsertApplication cols) r) :
    ∃ found, ⟨.selectByKey cols.key, .ok found⟩ ∈ ownLog i pre ∧
      (∀ found', ⟨.selectByKey cols.key, .ok found'⟩ ∈ ownLog i pre → found' = found) ∧
      cols.status = if found.map (·.status) = some .revoked then .revoked else .active := by
  obtain ⟨req, hserves, hreaches⟩ := h.awaited hmove
  obtain ⟨session, body, rfl, hkey⟩ := (ServerRequest.only_handler req).reached hreaches
  obtain ⟨found, callbacks, clientId, secret, -, -, hread, honce, hcols, -, -⟩ :=
    upsert_of_register hreaches
  rw [hkey]
  have hstatus : (found.map fun row => toRecord rt row callbacks).map (·.status) =
      found.map (·.status) := by
    rw [Option.map_map]
    rfl
  refine ⟨found, hread, fun found' hread' => ?_, by rw [hcols, ← hstatus]; rfl⟩
  rcases honce _ hread' with hno | heq
  · exact absurd rfl (hno body.app)
  · cases heq
    rfl

/-- A `PATCH` that has committed has set the status. -/
theorem PatchCommits.status {t : (server σ rt).Transition} {status : ApplicationStatus}
    (h : PatchCommits app status t) : t.after.shared.status? app = some status := by
  obtain ⟨i, session, slug, body, r, -, happ, hpatch, -, hthere, heffect⟩ := h
  have hupdate := @ApplicationTable.findByKey_update_of_unissued t.before.shared.applications
    body.patch rfl app app
  rw [heffect]
  unfold ServerState.status? at hthere ⊢
  change ((t.before.shared.applications.update app body.patch).2.findByKey app).map (·.status) = _
  rw [hupdate]
  cases hrow : t.before.shared.applications.findByKey app with
  | none =>
      rw [hrow] at hthere
      exact absurd rfl hthere
  | some row =>
      have hkey := (ApplicationTable.findByKey_eq_some_iff.1 hrow).2
      have hbody : body.patch.status = some status := hpatch
      rw [Option.map_some, if_pos hkey, Option.map_some]
      simp [ApplicationPatch.onto, hbody]

/-- A registration that has read an unrevoked row writes an active one. -/
theorem active_of_registers {pre post : List (server σ rt).Transition}
    {t : (server σ rt).Transition} (h : (server σ rt).Run s (pre ++ t :: post) c)
    (hregisters : RegistersUnrevoked app pre t) : t.after.shared.status? app = some .active := by
  obtain ⟨i, cols, r, hmove, rfl, hchanged, hread⟩ := hregisters
  obtain ⟨found, hfound, -, hstatus⟩ := read_of_upsert h hmove
  have hactive : cols.status = .active := by
    rw [hstatus, if_neg]
    intro hrevoked
    obtain ⟨row, rfl, hrow⟩ := Option.map_eq_some_iff.1 hrevoked
    exact hread ⟨row, hfound, hrow⟩
  obtain ⟨-, hvalid, -⟩ := h.split_at
  rcases applications_step hvalid hchanged with
    ⟨i', cols', r', hmove', heq⟩ | ⟨i', app', patch, r', hmove', -⟩
  · rw [hmove] at hmove'
    cases hmove'
    rw [heq] at hchanged ⊢
    rw [status_upsert hchanged, if_pos rfl, hactive]
  · rw [hmove] at hmove'
    cases hmove'

/-- The revocation of an application sticks in exactly the runs in which no registration that has
    read an unrevoked row writes one while the application is revoked. -/
theorem revocation_sticks_iff (h : (server σ rt).Run s ts c) (app : AppKey) :
    RevocationSticks app ts ↔
      ∀ pre t post, ts = pre ++ t :: post → UnderRevocation app pre →
        ¬ RegistersUnrevoked app pre t := by
  constructor
  · rintro hsticks pre t post rfl ⟨pre', u, mid, rfl, hcommit, hmid⟩ hregisters
    have hactive := active_of_registers h hregisters
    obtain ⟨i, cols, r, hmove, -⟩ := hregisters
    obtain ⟨hbefore, hvalid, -⟩ := h.split_at
    obtain ⟨-, -, hpath⟩ := hbefore.split_at
    have hrevoked := hsticks pre' u (mid ++ [t]) post t.after (by simp) hcommit
      (fun v hv => ?_) (hpath.append (.single hvalid))
    · rw [hactive] at hrevoked
      cases hrevoked
    · rcases List.mem_append.1 hv with hv | hv
      · exact hmid v hv
      · -- The transition of the registration is no `PATCH`.
        rintro ⟨j, session, slug, body, r', -, -, -, hmove', -⟩
        rw [List.mem_singleton.1 hv, hmove] at hmove'
        cases hmove'
  · rintro hcareful pre t mid post c' rfl hcommit hmid hpath
    refine (hpath.invariant_of_history
      (P := fun c : (server σ rt).Config => c.shared.status? app = some .revoked)
      hcommit.status fun front u back hsplit _ hbefore => ?_).1
    subst hsplit
    have hrun : (server σ rt).Run s ((pre ++ t :: front) ++ u :: (back ++ post)) c := by
      simpa using h
    obtain ⟨-, hvalid, -⟩ := hrun.split_at
    rcases status_step hvalid app with hkept | ⟨i, cols, r, hmove, hkey, hchanged, hstatus⟩ |
      ⟨i, patch, r, status, hmove, hpatch, hthere, heffect, hstatus⟩
    · exact hkept.trans hbefore
    · -- The registration has read a revoked row, and writes a revoked one.
      have hunder : UnderRevocation app (pre ++ t :: front) :=
        ⟨pre, t, front, rfl, hcommit, fun v hv => hmid v (by simp [hv])⟩
      have hread : ∃ row, ⟨.selectByKey app, .ok (some row)⟩ ∈ ownLog i (pre ++ t :: front) ∧
          row.status = .revoked := by
        by_contra hnone
        exact hcareful (pre ++ t :: front) u (back ++ post) (by simp) hunder
          ⟨i, cols, r, hmove, hkey, hchanged, hnone⟩
      obtain ⟨row, hrow, hrevoked⟩ := hread
      subst hkey
      obtain ⟨found, -, honce, hcols⟩ := read_of_upsert hrun hmove
      obtain rfl := honce _ hrow
      rw [Option.map_some, hrevoked, if_pos rfl] at hcols
      exact hstatus.trans (congrArg some hcols)
    · -- A `PATCH` sets the status, and it is not one that activates the application.
      obtain ⟨hcommits, hsettable⟩ := patchCommits_of_update hrun hmove hpatch hthere heffect
      cases status with
      | revoked => exact hstatus
      | draft => exact absurd rfl hsettable
      | active => exact absurd hcommits (hmid u (by simp))

end Runs

/-! ## A registration around a revocation -/

namespace Sample

def revokingBody : PatchBody where
  orgId := 1
  name := none
  url := none
  description := none
  logoUrl := none
  callbackUrls := none
  allowedRoles := none
  status := some ⟨.revoked, by decide⟩

/-- The application is registered; it is registered again, up to the upsert; and a `PATCH` is about to
    revoke it. Then the `PATCH` commits, and then the second registration writes. -/
def overwritten :
    Option (List portalServer.Transition × portalServer.Transition × portalServer.Transition) := do
  let (pre, c) ← portalPlayer.play (idle portalStart)
    (.arrive (.register aliceSession portalBody) :: portalSteps 0 12 1 ++
      .arrive (.register aliceSession portalBody) :: portalSteps 1 6 2 ++
      .arrive (.patch aliceSession portalSlug revokingBody) :: portalSteps 2 6 3)
  let t ← portalPlayer.move c (.perform 2 (0 : UInt8))
  let u ← portalPlayer.move t.after (.perform 1 (0 : UInt8))
  return (pre, t, u)

/-- Whether the transition is an `UPDATE` that revokes the application. -/
def revokesPortal (t : portalServer.Transition) : Bool :=
  match t.move with
  | .perform _ (.updateApplication app patch) _ =>
      decide (app = portalApp) && decide (patch.status = some .revoked)
  | _ => false

theorem update_of_revokesPortal {t : portalServer.Transition} (h : revokesPortal t = true) :
    ∃ i patch r, t.move = .perform i (.updateApplication portalApp patch) r ∧
      patch.status = some .revoked := by
  unfold revokesPortal at h
  split at h
  next i app patch r hmove =>
      rw [Bool.and_eq_true, decide_eq_true_eq, decide_eq_true_eq] at h
      obtain ⟨rfl, hstatus⟩ := h
      exact ⟨i, patch, r, hmove, hstatus⟩
  · cases h

def upserts (t : portalServer.Transition) : Bool :=
  match t.move with
  | .perform _ (.upsertApplication _) _ => true
  | _ => false

/-- The second registration has read an active row, and makes the revoked application active. -/
theorem registration_overwrites_revocation :
    ¬ ∀ (rt : ServerRuntime) (s : ServerState Ledger) (ts : List (server Ledger rt).Transition)
        (c : (server Ledger rt).Config) (app : AppKey), (server Ledger rt).Run s ts c →
        RevocationSticks app ts := by
  intro hall
  have hplay : overwritten.map (fun (_, t, u) =>
      (revokesPortal t, upserts u, t.before.shared.status? portalApp,
        t.after.shared.status? portalApp, u.after.shared.status? portalApp)) =
      some (true, true, some .active, some .revoked, some .active) := by decide +kernel
  obtain ⟨⟨pre, t, u⟩, hrun, hfacts⟩ := Option.map_eq_some_iff.1 hplay
  simp only [Prod.mk.injEq] at hfacts
  obtain ⟨hrevokes, hupserts, hbefore, hafter, hend⟩ := hfacts
  obtain ⟨⟨pre', c⟩, hpre, hrest⟩ := Option.bind_eq_some_iff.1 hrun
  obtain ⟨t', ht, hrest⟩ := Option.bind_eq_some_iff.1 hrest
  obtain ⟨u', hu, hsame⟩ := Option.bind_eq_some_iff.1 hrest
  cases hsame
  obtain ⟨rfl, htvalid⟩ := Player.move_valid ht
  obtain ⟨hufrom, huvalid⟩ := Player.move_valid hu
  have hpath : portalServer.system.Path t.after [u] u.after := hufrom ▸ .single huvalid
  have hall_run : portalServer.Run portalStart (pre ++ [t, u]) u.after :=
    (Player.play_path hpre).append (.cons htvalid hpath)
  obtain ⟨i, patch, r, hmove, hpatch⟩ := update_of_revokesPortal hrevokes
  have hcommit : PatchCommits portalApp .revoked t := by
    obtain ⟨-, -, -, -, hexec, -⟩ := Transition.Valid.perform htvalid hmove
    have hstep : ServerState.exec portalRuntime t.before.shared (.updateApplication portalApp patch)
        r t.after.shared := hexec
    refine (patchCommits_of_update hall_run hmove hpatch (by simp [hbefore]) ?_).1
    rcases ServerState.exec_effect hstep with heq | heq
    · rw [heq, hbefore] at hafter
      cases hafter
    · exact heq
  have hsticks := hall portalRuntime portalStart (pre ++ [t, u]) u.after portalApp hall_run
    pre t [u] [] u.after (by simp) hcommit ?_ hpath
  · rw [hend] at hsticks
    cases hsticks
  · intro v hv
    -- The transition between is the upsert of the registration.
    rintro ⟨j, session, slug, body, r', -, -, -, hmove', -⟩
    rw [List.mem_singleton.1 hv] at hmove'
    unfold upserts at hupserts
    rw [hmove'] at hupserts
    cases hupserts

/-- The application is registered, and then it is revoked. -/
def revoked : Option (List portalServer.Transition × List portalServer.Transition ×
    portalServer.Config) := do
  let (first, c) ← portalPlayer.play (idle portalStart)
    (.arrive (.register aliceSession portalBody) :: portalSteps 0 12 1)
  let (second, c) ← portalPlayer.play c
    (.arrive (.patch aliceSession portalSlug revokingBody) :: portalSteps 1 9 2)
  return (first, second, c)

/-- Where nobody registers the application any more, it stays revoked. -/
theorem revocation_stays :
    ∃ (ts : List portalServer.Transition) (c : portalServer.Config),
      portalServer.Run portalStart ts c ∧ c.shared.status? portalApp = some .revoked ∧
        RevocationSticks portalApp ts := by
  have hplay : revoked.map (fun (first, second, c) =>
      (first.any revokesPortal, second.any upserts, c.shared.status? portalApp)) =
      some (false, false, some .revoked) := by decide +kernel
  obtain ⟨⟨first, second, c⟩, hrun, hfacts⟩ := Option.map_eq_some_iff.1 hplay
  simp only [Prod.mk.injEq] at hfacts
  obtain ⟨hrevokes, hupserts, hend⟩ := hfacts
  obtain ⟨⟨first', c₁⟩, hfirst, hrest⟩ := Option.bind_eq_some_iff.1 hrun
  obtain ⟨⟨second', c₂⟩, hsecond, hsame⟩ := Option.bind_eq_some_iff.1 hrest
  cases hsame
  have hall : portalServer.Run portalStart (first ++ second) c :=
    (Player.play_path hfirst).append (Player.play_path hsecond)
  refine ⟨_, c, hall, hend, (revocation_sticks_iff hall portalApp).2 ?_⟩
  rintro pre t post hsplit ⟨front, u, mid, rfl, hcommit, -⟩ ⟨i, cols, r, hmove, -⟩
  rcases List.append_eq_append_iff.1 hsplit with ⟨back, -, hback⟩ | ⟨back, hback, -⟩
  · -- The upsert would come after the registration.
    have hnone := List.any_eq_false.1 hupserts t (by simp [hback])
    unfold upserts at hnone
    rw [hmove] at hnone
    exact hnone rfl
  · -- The `PATCH` would come before the registration is over.
    obtain ⟨j, session, slug, body, r', -, -, hstatus, hupdate, -⟩ := hcommit
    have hnone := List.any_eq_false.1 hrevokes u (by simp [hback])
    unfold revokesPortal at hnone
    rw [hupdate] at hnone
    refine hnone ?_
    simp only [Bool.and_eq_true, decide_eq_true_eq]
    exact ⟨trivial, hstatus⟩

end Sample

end OwneX
