import OwneX.Platform.RegistryRevocation
import OwneX.Platform.RegistryWrites

set_option autoImplicit false

/-! # Issued credentials

A registration issues a client id and a secret to a row that has none, and a rotation a new secret.
Both decide from an earlier read and write without looking again, and a registration can still fail
afterwards. Where nothing comes between the read and the write, and nothing fails after it, what is
stored and what has been handed out agree (`credentials_coherent`). -/

namespace OwneX

open Js JsNumber Prog Interleaving Service

variable {σ : Type} [ERC721 σ] {rt : ServerRuntime}

/-! ## What is said -/

/-- The stored client id of an application. -/
def ServerState.clientId? (s : ServerState σ) (app : AppKey) : Option Text :=
  (s.applications.findByKey app).bind (·.clientId)

/-- The stored digest of its secret. -/
def ServerState.secretHash? (s : ServerState σ) (app : AppKey) : Option Text :=
  (s.applications.findByKey app).bind (·.clientSecretHash)

/-- The application is found under the client id, and the secret is its secret. -/
def ServerState.Honours (rt : ServerRuntime) (s : ServerState σ) (app : AppKey)
    (clientId clientSecret : Text) : Prop :=
  ∃ row, s.applications.findByClientId clientId = some row ∧ row.key = app ∧
    verifyClientSecret rt.crypto clientSecret row.clientSecretHash = true

/-- The client id, and the digest if there is a new one, that a statement writes for the
    application. -/
def ServerOp.issues (app : AppKey) : ServerOp → Option (Text × Option Text)
  | upsertApplication cols =>
      if cols.key = app then some (cols.clientId, cols.secret.map (·.1)) else none
  | updateApplication key patch =>
      if key = app then patch.credentials.map fun issued => (issued.clientId,
        some issued.clientSecretHash)
      else none
  | _ => none

/-- The application, the client id and the secret that a request has answered with. -/
def ServerRequest.issued : (req : ServerRequest) → req.Ans → Option (AppKey × Text × Text)
  | register _ body, .ok reply =>
      reply.clientSecret.map fun clientSecret => (body.app, reply.clientId, clientSecret)
  | rotate _ slug orgId, .ok reply => some ((orgId, slug.1), reply.clientId, reply.clientSecret)
  | _, _ => none

/-- A rotation of the secret of the application commits. -/
def Rotates (app : AppKey) (t : (server σ rt).Transition) : Prop :=
  ∃ i session slug orgId patch, t.before.Serves i (.rotate session slug orgId) ∧
    app = (orgId, slug.1) ∧ t.move = .perform i (.updateApplication app patch) (.ok ())

/-- Whatever is stored has been handed out, whatever has been handed out is honoured until the next
    rotation, and the client id stays. -/
structure Coherent (app : AppKey) (ts : List (server σ rt).Transition) (c : (server σ rt).Config) :
    Prop where
  answered : ∀ t ∈ ts, ∀ hash, t.after.shared.secretHash? app = some hash →
    t.before.shared.secretHash? app ≠ some hash →
      ∃ i req, (∃ (op : ServerOp) (r : op.Res), t.move = .perform i op r) ∧
        t.before.Serves i req ∧ ∀ answer, c.Answers i req answer →
        ∃ clientId clientSecret, req.issued answer = some (app, clientId, clientSecret) ∧
          verifyClientSecret rt.crypto clientSecret (some hash) = true
  honoured : ∀ i req answer clientId clientSecret, c.Answers i req answer →
    req.issued answer = some (app, clientId, clientSecret) →
      ∃ pre t post, ts = pre ++ t :: post ∧
        (∃ (op : ServerOp) (r : op.Res), t.move = .perform i op r ∧ op.issues app ≠ none) ∧
        ∀ mid rest c', post = mid ++ rest → (server σ rt).system.Path t.after mid c' →
          (∀ u ∈ mid, ¬ Rotates app u) → c'.shared.Honours rt app clientId clientSecret
  clientId : ∀ t ∈ ts, ∀ clientId, t.before.shared.clientId? app = some clientId →
    t.after.shared.clientId? app = some clientId

/-- Nobody else issues credentials to the application between a request's read of the row and its
    own issue, a statement that fails is not performed, and no statement fails after a registration
    has stored a new digest. -/
structure Uncontended (app : AppKey) (ts : List (server σ rt).Transition) : Prop where
  fresh : ∀ (pre post : List (server σ rt).Transition) t i (op : ServerOp) (r : op.Res)
    (found : Option ApplicationRow), ts = pre ++ t :: post → t.move = .perform i op r →
    op.issues app ≠ none → ⟨.selectByKey app, .ok found⟩ ∈ ownLog i pre →
      (found.bind (·.clientId) = none → t.before.shared.clientId? app = none) ∧
      ((∃ cols, op = .upsertApplication cols) → (found.bind (·.clientSecretHash)).all (· = []) →
        (t.before.shared.secretHash? app).all (· = []))
  unperformed : ∀ t ∈ ts, ∀ i (op : ServerOp) (r : op.Res), t.move = .perform i op r →
    op.issues app ≠ none → op.Fails r → t.after.shared = t.before.shared
  completes : ∀ i cols, ⟨.upsertApplication cols, .ok ()⟩ ∈ ownLog i ts → cols.key = app →
    cols.secret ≠ none → ∀ (op : ServerOp) (r : op.Res), ⟨op, r⟩ ∈ ownLog i ts → ¬ op.Fails r

/-! ## What a transition makes of the credentials -/

@[simp] theorem issues_upsertApplication (app : AppKey) (cols : ApplicationColumns) :
    (ServerOp.upsertApplication cols).issues app =
      if cols.key = app then some (cols.clientId, cols.secret.map (·.1)) else none := rfl

@[simp] theorem issues_updateApplication (app key : AppKey) (patch : ApplicationPatch) :
    (ServerOp.updateApplication key patch).issues app =
      if key = app then patch.credentials.map fun issued => (issued.clientId,
        some issued.clientSecretHash)
      else none := rfl

omit [ERC721 σ] in
/-- An upsert writes the credentials of its row, unless it breaks a constraint. -/
theorem credentials_upsert (s : ServerState σ) (cols : ApplicationColumns) :
    ((∃ e, (s.applications.upsert s.organizations cols).1 = .error e) ∧
        (s.effect (.upsertApplication cols)).applications = s.applications) ∨
      ∀ app, (s.effect (.upsertApplication cols)).clientId? app =
          (if cols.key = app then some cols.clientId else s.clientId? app) ∧
        (s.effect (.upsertApplication cols)).secretHash? app =
          (if cols.key = app then (cols.secret.map (·.1)).or (s.secretHash? app)
            else s.secretHash? app) := by
  unfold ServerState.clientId? ServerState.secretHash?
  change (_ ∧ (s.applications.upsert s.organizations cols).2 = _) ∨
    ∀ app, ((s.applications.upsert s.organizations cols).2.findByKey app).bind _ = _ ∧
      ((s.applications.upsert s.organizations cols).2.findByKey app).bind _ = _
  rcases ApplicationTable.findByKey_upsert s.organizations cols with ⟨e, heq⟩ | ⟨orgId, hrows⟩
  · rw [heq]
    exact .inl ⟨⟨e, rfl⟩, rfl⟩
  · refine .inr fun app => ?_
    rw [hrows app]
    by_cases happ : cols.key = app
    · subst happ
      simp only [if_true]
      cases s.applications.findByKey cols.key with
      | none => simp [ApplicationColumns.toRow]
      | some row =>
          simp only [Option.elim_some, Option.bind_some, ApplicationColumns.onto]
          cases cols.secret <;> simp
    · rw [if_neg (Ne.symm happ), if_neg happ, if_neg happ]
      exact ⟨rfl, rfl⟩

omit [ERC721 σ] in
/-- An update writes the credentials of its row if it carries some, unless it breaks a
    constraint. -/
theorem credentials_update (s : ServerState σ) (key : AppKey) (patch : ApplicationPatch) :
    ((∃ e, (s.applications.update key patch).1 = .error e) ∧
        (s.effect (.updateApplication key patch)).applications = s.applications) ∨
      ∀ app, (s.effect (.updateApplication key patch)).clientId? app =
          (if key = app ∧ (s.applications.findByKey app).isSome then
            (patch.credentials.map (·.clientId)).or (s.clientId? app)
          else s.clientId? app) ∧
        (s.effect (.updateApplication key patch)).secretHash? app =
          (if key = app ∧ (s.applications.findByKey app).isSome then
            (patch.credentials.map (·.clientSecretHash)).or (s.secretHash? app)
          else s.secretHash? app) := by
  unfold ServerState.clientId? ServerState.secretHash?
  change (_ ∧ (s.applications.update key patch).2 = _) ∨ ∀ app,
    ((s.applications.update key patch).2.findByKey app).bind _ = _ ∧
      ((s.applications.update key patch).2.findByKey app).bind _ = _
  rcases ApplicationTable.findByKey_update key patch with ⟨e, heq⟩ | hrows
  · rw [heq]
    exact .inl ⟨⟨e, rfl⟩, rfl⟩
  · refine .inr fun app => ?_
    rw [hrows app]
    cases hrow : s.applications.findByKey app with
    | none => simp
    | some row =>
        obtain ⟨-, rfl⟩ := ApplicationTable.findByKey_eq_some_iff.1 hrow
        by_cases happ : key = row.key
        · cases hpatch : patch.credentials <;> simp [happ, ApplicationPatch.onto, hpatch]
        · simp [happ, Ne.symm happ]

/-- Credentials change only by a statement that issues some, and are then what it writes. -/
theorem credentials_step {t : (server σ rt).Transition} (h : t.Valid) (app : AppKey) :
    (t.after.shared.clientId? app = t.before.shared.clientId? app ∧
      t.after.shared.secretHash? app = t.before.shared.secretHash? app) ∨
    ∃ i, ∃ (op : ServerOp) (r : op.Res), ∃ clientId hash, t.move = .perform i op r ∧
      op.issues app = some (clientId, hash) ∧
      t.after.shared.clientId? app = some clientId ∧
      t.after.shared.secretHash? app = hash.or (t.before.shared.secretHash? app) := by
  by_cases hsame : t.after.shared.applications = t.before.shared.applications
  · left
    unfold ServerState.clientId? ServerState.secretHash?
    rw [hsame]
    exact ⟨rfl, rfl⟩
  rcases applications_step h hsame with ⟨i, cols, r, hmove, heq⟩ | ⟨i, key, patch, r, hmove, heq⟩
  · rw [heq] at hsame ⊢
    rcases credentials_upsert t.before.shared cols with ⟨-, hkept⟩ | hwritten
    · exact absurd hkept hsame
    obtain ⟨hclientId, hhash⟩ := hwritten app
    by_cases hkey : cols.key = app
    · rw [if_pos hkey] at hclientId hhash
      have hissues : (ServerOp.upsertApplication cols).issues app =
          some (cols.clientId, cols.secret.map (·.1)) := if_pos hkey
      exact .inr ⟨i, _, r, _, _, hmove, hissues, hclientId, hhash⟩
    · rw [if_neg hkey] at hclientId hhash
      exact .inl ⟨hclientId, hhash⟩
  · rw [heq] at hsame ⊢
    rcases credentials_update t.before.shared key patch with ⟨-, hkept⟩ | hwritten
    · exact absurd hkept hsame
    obtain ⟨hclientId, hhash⟩ := hwritten app
    by_cases hkey : key = app ∧ (t.before.shared.applications.findByKey app).isSome
    · rw [if_pos hkey] at hclientId hhash
      cases hcredentials : patch.credentials with
      | none =>
          rw [hcredentials] at hclientId hhash
          exact .inl ⟨hclientId, hhash⟩
      | some issued =>
          rw [hcredentials] at hclientId hhash
          have hissues : (ServerOp.updateApplication key patch).issues app =
              some (issued.clientId, some issued.clientSecretHash) := by
            simp [hkey.1, hcredentials]
          exact .inr ⟨i, _, r, _, _, hmove, hissues, hclientId, hhash⟩
    · rw [if_neg hkey] at hclientId hhash
      exact .inl ⟨hclientId, hhash⟩

/-- What a statement that succeeds has issued is stored, if there is a row. -/
theorem credentials_of_issues {t : (server σ rt).Transition} (h : t.Valid) {app : AppKey} {i : Nat}
    {op : ServerOp} {r : op.Res} (hmove : t.move = .perform i op r) (hr : ¬ op.Fails r)
    {clientId : Text} {hash : Option Text} (hissues : op.issues app = some (clientId, hash))
    (hrow : (∃ cols, op = .upsertApplication cols) ∨
      (t.before.shared.applications.findByKey app).isSome) :
    t.after.shared.clientId? app = some clientId ∧
      t.after.shared.secretHash? app = hash.or (t.before.shared.secretHash? app) := by
  obtain ⟨-, -, -, -, hexec, -⟩ := Transition.Valid.perform h hmove
  cases op with
  | upsertApplication cols =>
      cases r with
      | error e => exact absurd trivial hr
      | ok u =>
          obtain ⟨hok, hafter⟩ := Prod.mk.inj (Attempt.of_ok hexec)
          have heffect : t.after.shared = t.before.shared.effect (.upsertApplication cols) :=
            hafter.symm
          rw [issues_upsertApplication] at hissues
          split at hissues
          next hkey =>
              cases hissues
              rcases credentials_upsert t.before.shared cols with ⟨⟨e, herror⟩, -⟩ | hwritten
              · cases hok.symm.trans herror
              · have happ := hwritten app
                rwa [if_pos hkey, if_pos hkey, ← heffect] at happ
          · cases hissues
  | updateApplication key patch =>
      cases r with
      | error e => exact absurd trivial hr
      | ok u =>
          obtain ⟨hok, hafter⟩ := Prod.mk.inj (Attempt.of_ok hexec)
          have heffect : t.after.shared = t.before.shared.effect (.updateApplication key patch) :=
            hafter.symm
          have hstored : (t.before.shared.applications.findByKey app).isSome := by
            rcases hrow with ⟨cols, heq⟩ | hstored
            · cases heq
            · exact hstored
          rw [issues_updateApplication] at hissues
          split at hissues
          next hkey =>
              obtain ⟨issued, hpatch, heq⟩ := Option.map_eq_some_iff.1 hissues
              cases heq
              rcases credentials_update t.before.shared key patch with ⟨⟨e, herror⟩, -⟩ | hwritten
              · cases hok.symm.trans herror
              · have happ := hwritten app
                rwa [if_pos ⟨hkey, hstored⟩, if_pos ⟨hkey, hstored⟩, hpatch, ← heffect] at happ
          · cases hissues
  | _ => cases hissues

/-- Rows are never deleted. -/
theorem stored_step {t : (server σ rt).Transition} (h : t.Valid) {app : AppKey}
    (hstored : (t.before.shared.applications.findByKey app).isSome) :
    (t.after.shared.applications.findByKey app).isSome := by
  refine Transition.Valid.keeps
    (P := fun s : ServerState σ => (s.applications.findByKey app).isSome) h ?_ ?_ hstored
  · intro s op r s' hexec hs
    rcases ServerState.exec_applications hexec with heq | ⟨cols, -, heq⟩ | ⟨key, patch, -, heq⟩
    · rwa [heq]
    · rw [heq]
      rcases ApplicationTable.findByKey_upsert s.organizations cols with ⟨e, hsame⟩ | ⟨orgId, hrows⟩
      · rwa [hsame]
      · rw [hrows]
        split
        · rfl
        · exact hs
    · rw [heq]
      rcases ApplicationTable.findByKey_update key patch with ⟨e, hsame⟩ | hrows
      · rwa [hsame]
      · rwa [hrows, Option.isSome_map]
  · intro s s' henv hs
    rwa [henv.2.2.1]

/-! ## Who issues -/

/-- What a rotation writes, after the row it has read. -/
theorem update_of_rotate {session : SessionData} {slug : Slug} {orgId : Nat} {app : AppKey}
    {patch : ApplicationPatch} {log : List ((op : ServerOp) × op.Res)}
    (h : Reaches (rotateSecret rt session slug orgId).run log (.updateApplication app patch)) :
    ∃ row clientId secret front, app = (orgId, slug.1) ∧
      ⟨.selectByKey app, .ok (some row)⟩ ∈ log ∧ patch = rotation clientId secret ∧
      Returns (clientIdOr row.clientId).run front (.ok clientId) := by
  obtain ⟨caller, log₁, rest₁, hlog, hauthorized, h⟩ := h.second (only_authorize _ _ _) id
  obtain ⟨existing, log₂, rest₂, hrest₁, hfind, h⟩ := h.second
    (only_attempt (reads_findApplicationBySlug _) _) id
  obtain ⟨application, hexisting, h⟩ := reaches_require_bind.1 h
  obtain ⟨clientId, log₃, rest₃, hrest₂, hclientId, h⟩ := h.second (P := ServerOp.Reads)
    (only_clientIdOr (fun _ => trivial) _) id
  obtain ⟨secret, log₄, rest₄, hrest₃, hsecret, h⟩ := h.second (P := ServerOp.Reads)
    (only_newSecret (fun _ => trivial) trivial) id
  have hupdate := h.first (P := fun op => op = .now)
    (fun _ => only_exceptT_bind (only_ask rfl) fun _ => only_exceptT_pure _) (by simp)
  obtain ⟨-, heq⟩ := reaches_call.1 (reaches_attempt.1 hupdate)
  obtain ⟨rfl, rfl⟩ := ServerOp.updateApplication.inj heq
  obtain ⟨found, back, callbacks, hlog₂, -, hfound⟩ :=
    returns_findApplicationBySlug (returns_attempt.1 hfind)
  subst hrest₃ hrest₂ hlog₂ hrest₁ hlog
  cases found with
  | none =>
      rw [hexisting] at hfound
      cases hfound
  | some row =>
      rw [hexisting] at hfound
      cases hfound
      exact ⟨row, clientId, secret, log₃, rfl, by simp, rfl, hclientId⟩

/-- The statement that a request has issued the pair of its answer with. -/
theorem issue_of_issued {req : ServerRequest} {answer : req.Ans} {app : AppKey}
    {clientId clientSecret : Text} {log : List ((op : ServerOp) × op.Res)}
    (h : Returns (req.handler rt) log answer)
    (hissued : req.issued answer = some (app, clientId, clientSecret)) :
    ∃ (op : ServerOp) (r : op.Res) (secret : NewSecret), ⟨op, r⟩ ∈ log ∧ ¬ op.Fails r ∧
      op.issues app = some (clientId, some secret.hash) ∧ clientSecret = secret.clientSecret ∧
      secret.Made rt log := by
  cases req with
  | register session body =>
      cases answer with
      | error e => cases hissued
      | ok reply =>
          obtain ⟨existing, secret, front, back, hlog, -, hsecret, hmade, -⟩ := register_ok h
          obtain ⟨issuedSecret, hreply, heq⟩ := Option.map_eq_some_iff.1 hissued
          cases heq
          rw [hreply] at hsecret
          obtain ⟨new, rfl, rfl⟩ := Option.map_eq_some_iff.1 hsecret.symm
          refine ⟨.upsertApplication
            (registrationColumns rt body existing reply.clientId (some new)), .ok (), new, ?_⟩
          exact ⟨by simp [hlog], id, if_pos rfl, rfl, hmade new rfl⟩
  | rotate session slug orgId =>
      rcases rotate_outcome h with ⟨-, e, rfl⟩ |
        ⟨clientId', secret, front, r, back, hlog, -, -, hmade, hend⟩
      · cases hissued
      · rcases hend with ⟨e, e', -, rfl⟩ | ⟨rfl, reply, rfl, rfl, hsecret⟩
        · cases hissued
        · cases hissued
          exact ⟨.updateApplication (orgId, slug.1) (rotation reply.clientId secret), .ok (),
            secret, by simp [hlog], id, if_pos rfl, hsecret, hmade⟩
  | _ => cases hissued

/-- A request that has issued a secret hands it out when it answers, unless it is a registration in
    which something fails. -/
theorem issued_of_issue {req : ServerRequest} {answer : req.Ans} {app : AppKey} {op : ServerOp}
    {r : op.Res} {clientId hash : Text} {log : List ((op : ServerOp) × op.Res)}
    (h : Returns (req.handler rt) log answer) (hperformed : ⟨op, r⟩ ∈ log) (hr : ¬ op.Fails r)
    (hissues : op.issues app = some (clientId, some hash))
    (hcompletes : (∃ cols, op = .upsertApplication cols) → ∀ x ∈ log, ¬ x.1.Fails x.2) :
    ∃ (clientId : Text) (secret : NewSecret),
      req.issued answer = some (app, clientId, secret.clientSecret) ∧
      secret.hash = hash ∧ secret.Made rt log := by
  have hmay : req.MayAwait op := (ServerRequest.only_handler req).of_mem h hperformed
  cases op with
  | upsertApplication cols =>
      obtain ⟨session, body, rfl, hkey⟩ := hmay
      rw [issues_upsertApplication] at hissues
      split at hissues
      next happ =>
          cases answer with
          | error e =>
              rcases register_error h with hreads | ⟨front, x, rfl, hfails⟩
              · exact absurd (hreads _ hperformed) id
              · exact absurd hfails (hcompletes ⟨cols, rfl⟩ x (by simp))
          | ok reply =>
              obtain ⟨existing, secret, front, back, hlog, hfront, hsecret, hmade, hback⟩ :=
                register_ok h
              obtain rfl : cols = registrationColumns rt body existing reply.clientId secret := by
                rw [hlog, List.mem_append, List.mem_cons] at hperformed
                rcases hperformed with hmem | heq | hmem
                · exact absurd (hfront _ hmem) id
                · cases heq
                  rfl
                · have honly := (only_replaceCallbacks (P := fun op => ∀ cols,
                    op ≠ .upsertApplication cols) (by simp) (by simp)).of_mem hback hmem
                  exact absurd rfl (honly cols)
              obtain ⟨-, hhash⟩ := Prod.mk.inj (Option.some.inj hissues)
              obtain ⟨⟨_, _⟩, hstored, rfl⟩ := Option.map_eq_some_iff.1 hhash
              obtain ⟨new, rfl, heq⟩ := Option.map_eq_some_iff.1 hstored
              cases heq
              refine ⟨reply.clientId, new, ?_, rfl, hmade new rfl⟩
              rw [← happ]
              simp [ServerRequest.issued, hsecret, hkey]
      · cases hissues
  | updateApplication key patch =>
      rw [issues_updateApplication] at hissues
      split at hissues
      next happ =>
          subst happ
          obtain ⟨issued, hpatch, heq⟩ := Option.map_eq_some_iff.1 hissues
          rcases hmay with ⟨-, session, slug, orgId, rfl, happ⟩ | ⟨session, slug, body, -, -, rfl⟩
          · rcases rotate_outcome h with ⟨hreads, -⟩ |
              ⟨clientId', secret, front, r', back, hlog, hfront, hback, hmade, hend⟩
            · exact absurd (hreads _ hperformed) id
            · rw [hlog, List.mem_append, List.mem_cons] at hperformed
              rcases hperformed with hmem | heq' | hmem
              · exact absurd (hfront _ hmem) id
              · cases heq'
                cases hpatch
                cases heq
                rcases hend with ⟨e, e', rfl, -⟩ | ⟨-, reply, rfl, rfl, hsecret⟩
                · exact absurd trivial hr
                · refine ⟨reply.clientId, secret, ?_, rfl, hmade⟩
                  rw [← hsecret]
                  rfl
              · exact absurd (hback _ hmem) id
          · cases hpatch
      · cases hissues
  | _ => cases hissues

section Runs

variable {s : ServerState σ} {ts pre post : List (server σ rt).Transition}
  {c : (server σ rt).Config} {t : (server σ rt).Transition} {app : AppKey}

/-- Who issues credentials has read the row, and takes its client id from there if it has one. -/
theorem issuer (h : (server σ rt).Run s (pre ++ t :: post) c) {i : Nat} {op : ServerOp}
    {r : op.Res} (hmove : t.move = .perform i op r) {clientId : Text} {hash : Option Text}
    (hissues : op.issues app = some (clientId, hash)) :
    ∃ found, ⟨.selectByKey app, .ok found⟩ ∈ ownLog i pre ∧
      (∀ stored, found.bind (·.clientId) = some stored → clientId = stored) ∧
      ((∃ session body cols, t.before.Serves i (.register session body) ∧ body.app = app ∧
          op = .upsertApplication cols ∧ cols.key = app ∧ hash = cols.secret.map (·.1) ∧
          hash.isSome = (found.bind (·.clientSecretHash)).all (· = [])) ∨
        ∃ session slug orgId patch, t.before.Serves i (.rotate session slug orgId) ∧
          app = (orgId, slug.1) ∧ op = .updateApplication app patch ∧ found.isSome) := by
  obtain ⟨req, hserves, hreaches⟩ := h.awaited hmove
  have hmay := (ServerRequest.only_handler req).reached hreaches
  cases op with
  | upsertApplication cols =>
      obtain ⟨session, body, rfl, hkey⟩ := hmay
      obtain ⟨found, callbacks, clientId', secret, front, back, hread, -, hcols, hclientId,
        hsecret⟩ := upsert_of_register hreaches
      rw [issues_upsertApplication] at hissues
      split at hissues
      next happ =>
          cases hissues
          obtain rfl := happ
          rw [hkey]
          refine ⟨found, hread, fun stored hstored => ?_, .inl ⟨session, body, cols, hserves, rfl,
            rfl, hkey, rfl, ?_⟩⟩
          · rw [hcols]
            exact clientId_of_returns hclientId hstored
          · rw [← (returns_newSecretIf hsecret).1, hcols]
            simp [registrationColumns]
      · cases hissues
  | updateApplication key patch =>
      rw [issues_updateApplication] at hissues
      split at hissues
      next happ =>
          subst happ
          obtain ⟨issued, hpatch, heq⟩ := Option.map_eq_some_iff.1 hissues
          cases heq
          rcases hmay with ⟨-, session, slug, orgId, rfl, happ⟩ | ⟨session, slug, body, -, -, rfl⟩
          · obtain ⟨row, clientId, secret, front, -, hread, rfl, hclientId⟩ :=
              update_of_rotate hreaches
            cases hpatch
            refine ⟨some row, hread, fun stored hstored => ?_, .inr ⟨session, slug, orgId, _,
              hserves, happ, rfl, rfl⟩⟩
            exact clientId_of_returns hclientId hstored
          · cases hpatch
      · cases hissues
  | _ => cases hissues

/-- Once set, the client id stays. -/
theorem clientId_stays (h : (server σ rt).Run s ts c) (huncontended : Uncontended app ts) :
    ∀ t ∈ ts, ∀ clientId, t.before.shared.clientId? app = some clientId →
      t.after.shared.clientId? app = some clientId := by
  -- By induction on how much has happened: what the writer has read has stayed since.
  refine (h.history (P := fun pre _ => ∀ u ∈ pre, ∀ clientId,
    u.before.shared.clientId? app = some clientId → u.after.shared.clientId? app = some clientId)
    (by simp) ?_).1
  rintro pre t post rfl hkept u hu clientId hbefore
  rcases List.mem_append.1 hu with hu | hu
  · exact hkept u hu clientId hbefore
  obtain rfl := List.mem_singleton.1 hu
  obtain ⟨hpre, hvalid, -⟩ := h.split_at
  rcases credentials_step hvalid app with
    ⟨hsame, -⟩ | ⟨i, op, r, clientId', hash, hmove, hissues, hafter, -⟩
  · exact hsame.trans hbefore
  obtain ⟨found, hread, hstored, -⟩ := issuer h hmove hissues
  have hne : op.issues app ≠ none := by simp [hissues]
  obtain ⟨hfresh, -⟩ := huncontended.fresh pre post u i op r found rfl hmove hne hread
  cases hfound : found.bind (·.clientId) with
  | none =>
      rw [hfresh hfound] at hbefore
      cases hbefore
  | some stored =>
      obtain ⟨v, hv, hvmove⟩ := mem_ownLog.1 hread
      obtain ⟨front, back, rfl⟩ := List.append_of_mem hv
      obtain ⟨-, hvvalid, hrest⟩ := hpre.split_at
      obtain ⟨-, -, -, -, hexec, -⟩ := Transition.Valid.perform hvvalid hvmove
      obtain ⟨hok, hsame⟩ := Prod.mk.inj (Attempt.of_ok hexec)
      have hthere : v.after.shared.clientId? app = some stored := by
        unfold ServerState.clientId?
        rw [← hsame, Except.ok.inj hok, hfound]
      have hstays := hrest.rel
        (R := fun c c' : (server σ rt).Config => ∀ x, c.shared.clientId? app = some x →
          c'.shared.clientId? app = some x)
        (fun _ _ hx => hx) (fun hab hbc x hx => hbc x (hab x hx))
        (fun w hw => hkept w (by simp [hw])) stored hthere
      rw [hafter, hstored stored hfound]
      exact hstays.symm.trans hbefore

/-- A secret verifies against the digest that has been made with it. -/
theorem verify_of_made (hlength : rt.crypto.DerivesLength) (h : (server σ rt).Run s ts c) {i : Nat}
    {secret : NewSecret} (hmade : secret.Made rt (ownLog i ts)) :
    verifyClientSecret rt.crypto secret.clientSecret (some secret.hash) = true := by
  obtain ⟨salt, hsalt, hhash⟩ := hmade.hash
  obtain ⟨u, hu, hmove⟩ := mem_ownLog.1 hsalt
  obtain ⟨-, -, -, -, hexec, -⟩ := Transition.Valid.perform (h.valid u hu) hmove
  have hlong : salt.length = 16 := hexec.1
  refine verify_hashClientSecret hlength ?_ hhash
  rintro rfl
  cases hlong

theorem ne_nil_of_verify {crypto : CryptoRuntime} {clientSecret hash : Text}
    (h : verifyClientSecret crypto clientSecret (some hash) = true) : hash ≠ [] := by
  rintro rfl
  unfold verifyClientSecret at h
  split at h
  · cases h
  · cases h

/-- What is stored is honoured until the next rotation. -/
theorem honours_until_rotation {mid rest : List (server σ rt).Transition}
    {c' : (server σ rt).Config} (h : (server σ rt).Run s (pre ++ t :: (mid ++ rest)) c)
    (huncontended : Uncontended app (pre ++ t :: (mid ++ rest))) {clientId clientSecret hash : Text}
    (hclientId : t.after.shared.clientId? app = some clientId)
    (hhash : t.after.shared.secretHash? app = some hash)
    (hverify : verifyClientSecret rt.crypto clientSecret (some hash) = true)
    (hpath : (server σ rt).system.Path t.after mid c') (hmid : ∀ u ∈ mid, ¬ Rotates app u) :
    c'.shared.Honours rt app clientId clientSecret := by
  have hkept := (hpath.invariant_of_history
    (P := fun c : (server σ rt).Config => c.shared.clientId? app = some clientId ∧
      c.shared.secretHash? app = some hash) ⟨hclientId, hhash⟩
    fun front u back hsplit _ hbefore => ?_).1
  · obtain ⟨hend, hendHash⟩ := hkept
    obtain ⟨row, hrow, hrowId⟩ := Option.bind_eq_some_iff.1 hend
    obtain ⟨hmem, hkey⟩ := ApplicationTable.findByKey_eq_some_iff.1 hrow
    refine ⟨row, ApplicationTable.findByClientId_eq_some_iff.2 ⟨hmem, hrowId⟩, hkey, ?_⟩
    unfold ServerState.secretHash? at hendHash
    rw [hrow] at hendHash
    exact (congrArg _ hendHash).trans hverify
  · subst hsplit
    obtain ⟨hbeforeId, hbeforeHash⟩ : u.before.shared.clientId? app = some clientId ∧
      u.before.shared.secretHash? app = some hash := hbefore
    have hrun : (server σ rt).Run s ((pre ++ t :: front) ++ u :: (back ++ rest)) c := by
      simpa using h
    refine ⟨clientId_stays h huncontended u (by simp) clientId hbeforeId, ?_⟩
    change u.after.shared.secretHash? app = some hash
    obtain ⟨-, hvalid, -⟩ := hrun.split_at
    rcases credentials_step hvalid app with
      ⟨-, hsame⟩ | ⟨j, op, r, clientId', hash', hmove, hissues, -, hafter⟩
    · exact hsame.trans hbeforeHash
    obtain ⟨found, hread, -, hwho⟩ := issuer hrun hmove hissues
    have hne : op.issues app ≠ none := by simp [hissues]
    rcases hwho with ⟨session, body, cols, -, -, rfl, -, rfl, hissued⟩ |
      ⟨session, slug, orgId, patch, hserves, happ, rfl, -⟩
    · cases hsecret : cols.secret with
      | none => simpa [hsecret, hbeforeHash] using hafter
      | some secret =>
          -- The registration that issues a secret would have found none, and there still is none.
          rw [hsecret] at hissued
          obtain ⟨-, hfresh⟩ := huncontended.fresh (pre ++ t :: front) (back ++ rest) u j _ r found
            (by simp) hmove hne hread
          have hempty := hfresh ⟨cols, rfl⟩ hissued.symm
          rw [hbeforeHash] at hempty
          exact absurd (of_decide_eq_true hempty) (ne_nil_of_verify hverify)
    · cases r with
      | ok v =>
          exact absurd ⟨j, session, slug, orgId, patch, hserves, happ, hmove⟩ (hmid u (by simp))
      | error e =>
          rw [huncontended.unperformed u (by simp) j _ _ hmove hne trivial]
          exact hbeforeHash

/-- Where nobody comes between a request's read and its issue, and nothing fails that has been
    performed or after a secret has been stored, the credentials of an application are coherent. -/
theorem credentials_coherent (hlength : rt.crypto.DerivesLength) (h : (server σ rt).Run s ts c)
    (huncontended : Uncontended app ts) : Coherent app ts c where
  answered := by
    intro t ht hash hafter hbefore
    obtain ⟨pre, post, rfl⟩ := List.append_of_mem ht
    obtain ⟨-, hvalid, -⟩ := h.split_at
    rcases credentials_step hvalid app with
      ⟨-, hsame⟩ | ⟨i, op, r, clientId, hash', hmove, hissues, -, hstored⟩
    · exact absurd (hsame.symm.trans hafter) hbefore
    obtain ⟨req, hserves, -⟩ := h.awaited hmove
    refine ⟨i, req, ⟨op, r, hmove⟩, hserves, fun answer hanswer => ?_⟩
    have hr : ¬ op.Fails r := by
      intro hfails
      have hsame := huncontended.unperformed t ht i op r hmove (by simp [hissues]) hfails
      exact hbefore (hsame ▸ hafter)
    cases hash' with
    | none => exact absurd (hstored.symm.trans hafter) hbefore
    | some stored =>
        obtain rfl := Option.some.inj (hstored.symm.trans hafter)
        have hperformed := mem_ownLog.2 ⟨t, ht, hmove⟩
        have hcompletes : (∃ cols, op = .upsertApplication cols) →
            ∀ x ∈ ownLog i (pre ++ t :: post), ¬ ServerOp.Fails x.1 x.2 := by
          rintro ⟨cols, rfl⟩ x hx
          rw [issues_upsertApplication] at hissues
          split at hissues
          next hkey =>
              obtain ⟨-, hhash⟩ := Prod.mk.inj (Option.some.inj hissues)
              refine huncontended.completes i cols ?_ hkey (fun hnone => ?_) x.1 x.2 hx
              · cases r with
                | error e => exact absurd trivial hr
                | ok u => exact hperformed
              · rw [hnone] at hhash
                cases hhash
          · cases hissues
        obtain ⟨clientId', secret, hissued, rfl, hmade⟩ :=
          issued_of_issue (h.returns hanswer) hperformed hr hissues hcompletes
        exact ⟨clientId', secret.clientSecret, hissued, verify_of_made hlength h hmade⟩
  honoured := by
    intro i req answer clientId clientSecret hanswer hissued
    obtain ⟨op, r, secret, hperformed, hr, hissues, rfl, hmade⟩ :=
      issue_of_issued (h.returns hanswer) hissued
    have hverify := verify_of_made hlength h hmade
    obtain ⟨t, ht, hmove⟩ := mem_ownLog.1 hperformed
    obtain ⟨pre, post, rfl⟩ := List.append_of_mem ht
    obtain ⟨hpre, hvalid, -⟩ := h.split_at
    obtain ⟨found, hread, -, hwho⟩ := issuer h hmove hissues
    refine ⟨pre, t, post, rfl, ⟨op, r, hmove, by simp [hissues]⟩, ?_⟩
    rintro mid rest c' rfl hpath hmid
    have hrow : (∃ cols, op = .upsertApplication cols) ∨
        (t.before.shared.applications.findByKey app).isSome := by
      rcases hwho with ⟨-, -, cols, -, -, rfl, -⟩ | ⟨-, -, -, -, -, -, rfl, hfound⟩
      · exact .inl ⟨cols, rfl⟩
      -- The row that a rotation has read is still there.
      obtain ⟨v, hv, hvmove⟩ := mem_ownLog.1 hread
      obtain ⟨front, back, rfl⟩ := List.append_of_mem hv
      obtain ⟨-, hvvalid, hrest⟩ := hpre.split_at
      obtain ⟨-, -, -, -, hexec, -⟩ := Transition.Valid.perform hvvalid hvmove
      obtain ⟨hok, hsame⟩ := Prod.mk.inj (Attempt.of_ok hexec)
      refine .inr (hrest.invariant (P := fun c : (server σ rt).Config =>
        (c.shared.applications.findByKey app).isSome) (fun w _ hw => stored_step hw) ?_).1
      change (v.after.shared.applications.findByKey app).isSome
      rw [← hsame, Except.ok.inj hok]
      exact hfound
    obtain ⟨hclientId, hhash⟩ := credentials_of_issues hvalid hmove hr hissues hrow
    exact honours_until_rotation h huncontended hclientId hhash hverify hpath hmid
  clientId := clientId_stays h huncontended

end Runs

/-! ## Two administrators -/

namespace Sample

/-- The server of the portal, with a digest of the length that is asked for. -/
def issuingRuntime : ServerRuntime :=
  { portalRuntime with
    crypto :=
      { scrypt := fun secret salt keylen _ _ _ =>
          let bytes := salt ++ secret.map fun c => UInt8.ofNat c.toNat
          some ((bytes ++ List.replicate keylen 0).take keylen)
        toUtf8 := portalRuntime.crypto.toUtf8 } }

theorem derivesLength_issuing : issuingRuntime.crypto.DerivesLength := by
  intro secret salt keylen n r p digest h
  obtain rfl := Option.some.inj h
  simp only [List.length_take, List.length_append, List.length_replicate]
  omega

abbrev issuingServer : Service := server Ledger issuingRuntime

abbrev issuingPlayer : issuingServer.Player := serverPlayer Ledger issuingRuntime

def issuingSteps (thread steps : Nat) (choice : UInt8) : List issuingPlayer.Cue :=
  List.replicate steps (.perform thread choice)

def issuedId (choice : UInt8) : Text := generateClientId (List.replicate 16 choice)

/-- Two registrations have both found no row. The first one answers, and then the second writes. -/
def registeredTwice : Option (List issuingServer.Transition × issuingServer.Transition) := do
  let (pre, c) ← issuingPlayer.play (idle portalStart)
    (.arrive (.register aliceSession portalBody) :: issuingSteps 0 9 1 ++
      .arrive (.register aliceSession portalBody) :: issuingSteps 1 9 2 ++ issuingSteps 0 3 1)
  let t ← issuingPlayer.move c (.perform 1 (0 : UInt8))
  return (pre, t)

/-- The client id that the first registration has answered with is replaced by the second. -/
theorem second_registration_replaces_clientId :
    ¬ ∀ (rt : ServerRuntime) (s : ServerState Ledger) (ts : List (server Ledger rt).Transition)
        (c : (server Ledger rt).Config) (app : AppKey), rt.crypto.DerivesLength →
        (server Ledger rt).Run s ts c → Coherent app ts c := by
  intro hall
  have hplay : registeredTwice.map (fun (_, t) =>
      (t.before.shared.clientId? portalApp, t.after.shared.clientId? portalApp)) =
      some (some (issuedId 1), some (issuedId 2)) := by decide +kernel
  obtain ⟨⟨pre, t⟩, hrun, hfacts⟩ := Option.map_eq_some_iff.1 hplay
  obtain ⟨hbefore, hafter⟩ := Prod.mk.inj hfacts
  obtain ⟨⟨pre', c⟩, hpre, hrest⟩ := Option.bind_eq_some_iff.1 hrun
  obtain ⟨t', ht, hsame⟩ := Option.bind_eq_some_iff.1 hrest
  cases hsame
  obtain ⟨rfl, hvalid⟩ := Player.move_valid ht
  have hpath : issuingServer.Run portalStart (pre ++ [t]) t.after :=
    (Player.play_path hpre).append (.single hvalid)
  have hcoherent := hall issuingRuntime portalStart (pre ++ [t]) t.after portalApp
    derivesLength_issuing hpath
  have hstays := hcoherent.clientId t (by simp) (issuedId 1) hbefore
  have hdifferent : issuedId 1 ≠ issuedId 2 := by decide +kernel
  exact hdifferent (Option.some.inj (hstays.symm.trans hafter))

/-- The thread that issues credentials to the portal. -/
def issuer? (t : issuingServer.Transition) : Option Nat :=
  match t.move with
  | .perform i op _ => if (ServerOp.issues portalApp op).isSome then some i else none
  | _ => none

/-- The row of the portal that a thread reads. -/
def found? (t : issuingServer.Transition) : Option (Nat × Option ApplicationRow) :=
  match t.move with
  | .perform i (.selectByKey app) (.ok found) => if app = portalApp then some (i, found) else none
  | _ => none

/-- What the thread that issues has read has not been overtaken. -/
def freshPair (t u : issuingServer.Transition) : Bool :=
  match issuer? t, found? u with
  | some i, some (j, found) =>
      decide (i = j →
        (found.bind (·.clientId) = none → t.before.shared.clientId? portalApp = none) ∧
        ((found.bind (·.clientSecretHash)).all (· = []) →
          (t.before.shared.secretHash? portalApp).all (· = [])))
  | _, _ => true

theorem uncontended_of_checks {ts : List issuingServer.Transition} (hfailed : ts.any failed = false)
    (hfresh : (ts.all fun t => ts.all (freshPair t)) = true) : Uncontended portalApp ts := by
  refine ⟨?_, fun t ht i op r hmove _ hfails =>
    absurd hfails (not_fails_of_failed hfailed ht hmove), ?_⟩
  · rintro pre post t i op r found rfl hmove hissues hread
    obtain ⟨u, hu, humove⟩ := mem_ownLog.1 hread
    have hpair := List.all_eq_true.1 (List.all_eq_true.1 hfresh t (by simp)) u (by simp [hu])
    have hissuer : issuer? t = some i := by
      unfold issuer?
      rw [hmove]
      exact if_pos (Option.isSome_iff_ne_none.2 hissues)
    have hfound : found? u = some (i, found) := by
      unfold found?
      rw [humove]
      exact if_pos rfl
    unfold freshPair at hpair
    rw [hissuer, hfound] at hpair
    obtain ⟨hclientId, hhash⟩ := of_decide_eq_true hpair rfl
    exact ⟨hclientId, fun _ => hhash⟩
  · intro i cols _ _ _ op r hmem
    obtain ⟨t, ht, hmove⟩ := mem_ownLog.1 hmem
    exact not_fails_of_failed hfailed ht hmove

/-- The application is registered, and then its secret is rotated. -/
def rotated : Option (List issuingServer.Transition × issuingServer.Config) :=
  issuingPlayer.play (idle portalStart)
    (.arrive (.register aliceSession portalBody) :: issuingSteps 0 12 1 ++
      .arrive (.rotate aliceSession portalSlug 1) :: issuingSteps 1 11 2)

/-- Where one request comes after the other, credentials are coherent. -/
theorem rotation_coherent :
    ∃ (ts : List issuingServer.Transition) (c : issuingServer.Config),
      issuingServer.Run portalStart ts c ∧ c.shared.clientId? portalApp = some (issuedId 1) ∧
        Coherent portalApp ts c := by
  have hplay : rotated.map (fun (ts, c) => (ts.any failed, ts.all fun t => ts.all (freshPair t),
      c.shared.clientId? portalApp)) = some (false, true, some (issuedId 1)) := by decide +kernel
  obtain ⟨⟨ts, c⟩, hrun, hfacts⟩ := Option.map_eq_some_iff.1 hplay
  simp only [Prod.mk.injEq] at hfacts
  obtain ⟨hfailed, hfresh, hend⟩ := hfacts
  have hpath : issuingServer.Run portalStart ts c := Player.play_path hrun
  exact ⟨ts, c, hpath, hend, credentials_coherent derivesLength_issuing hpath
    (uncontended_of_checks hfailed hfresh)⟩

end Sample

end OwneX
