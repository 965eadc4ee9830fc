import OwneX.Platform.ServerRuns

set_option autoImplicit false

/-! # What the routes of the registry write

A registration upserts the row and then replaces the callbacks, a `PATCH` updates the row and then
replaces the callbacks, and a rotation updates the row. Before the first of these statements a
request only reads. A request that has begun to write and does not answer with its data has been
stopped by a statement that failed, its last one. -/

namespace OwneX

open Js JsNumber Prog Interleaving Service

variable {rt : ServerRuntime} {log : List ((op : ServerOp) × op.Res)}

/-- A statement of the registry fails. -/
def ServerOp.Fails : (op : ServerOp) → op.Res → Prop
  | selectByKey _, .error _ => True
  | selectCallbacks _, .error _ => True
  | upsertApplication _, .error _ => True
  | updateApplication .., .error _ => True
  | deleteCallbacks _, .error _ => True
  | insertCallbacks .., .error _ => True
  | _, _ => False

def ServerOp.fails : (op : ServerOp) → op.Res → Bool
  | selectByKey _, .error _ => true
  | selectCallbacks _, .error _ => true
  | upsertApplication _, .error _ => true
  | updateApplication .., .error _ => true
  | deleteCallbacks _, .error _ => true
  | insertCallbacks .., .error _ => true
  | _, _ => false

theorem ServerOp.fails_of_fails {op : ServerOp} {r : op.Res} (h : op.Fails r) :
    op.fails r = true := by
  cases op with
  | selectByKey app => cases r <;> trivial
  | selectCallbacks app => cases r <;> trivial
  | upsertApplication cols => cases r <;> trivial
  | updateApplication app patch => cases r <;> trivial
  | deleteCallbacks app => cases r <;> trivial
  | insertCallbacks app urls => cases r <;> trivial
  | _ => exact absurd h id

/-- Whether a statement of the registry fails in the transition. -/
def failed {σ : Type} [ERC721 σ] (t : (server σ rt).Transition) : Bool :=
  match t.move with
  | .perform _ op r => ServerOp.fails op r
  | _ => false

theorem not_fails_of_failed {σ : Type} [ERC721 σ] {ts : List (server σ rt).Transition}
    (h : ts.any failed = false) {t : (server σ rt).Transition} (ht : t ∈ ts) {i : Nat}
    {op : ServerOp} {r : op.Res} (hmove : t.move = .perform i op r) : ¬ op.Fails r := by
  intro hfails
  have hno := List.any_eq_false.1 h t ht
  unfold failed at hno
  rw [hmove] at hno
  exact hno (ServerOp.fails_of_fails hfails)

/-! ## The parts -/

theorem blames_withCallbacks (found : Option ApplicationRow) :
    Blames ServerOp.Fails (withCallbacks rt found) := by
  cases found with
  | none => exact blames_pure _
  | some row =>
      refine blames_bind (blames_attempt ?_ _) fun _ => blames_pure _
      intro log e h
      obtain rfl := returns_call.1 h
      exact ⟨[], _, rfl, trivial⟩

theorem blames_findApplicationBySlug (app : AppKey) :
    Blames ServerOp.Fails (findApplicationBySlug rt app) := by
  refine blames_bind (blames_attempt ?_ _) fun _ => blames_withCallbacks _
  intro log e h
  obtain rfl := returns_call.1 h
  exact ⟨[], _, rfl, trivial⟩

theorem blames_replaceCallbacks (app : AppKey) (callbacks : List Text) :
    Blames ServerOp.Fails (replaceCallbacks app callbacks) := by
  intro log e h
  rcases returns_replaceCallbacks h with ⟨e', rfl, -⟩ | ⟨-, -, hok⟩ |
    ⟨r, -, rfl, ⟨e', -, rfl, -⟩ | ⟨-, hok⟩⟩
  · exact ⟨[], _, rfl, trivial⟩
  · cases hok
  · exact ⟨[_], _, rfl, trivial⟩
  · cases hok

theorem blames_replaceCallbacksIf (app : AppKey) (callbacks : Option (List Text)) :
    Blames ServerOp.Fails (replaceCallbacksIf app callbacks) := by
  cases callbacks with
  | none => exact blames_pure _
  | some callbacks => exact blames_attempt (blames_replaceCallbacks app callbacks) _

theorem blames_updateIf (app : AppKey) (patch : ApplicationPatch) :
    Blames ServerOp.Fails (updateIf app patch) := by
  unfold updateIf
  split
  · exact blames_pure _
  · refine blames_attempt ?_ _
    intro log e h
    obtain rfl := returns_call.1 h
    exact ⟨[], _, rfl, trivial⟩

/-! ## The routes -/

theorem reads_authorize (session : SessionData) (orgId : Nat) (permission : PermissionKey) :
    Only ServerOp.Reads (authorize session orgId permission).run :=
  (only_authorize session orgId permission).mono fun _ h => h.reads

theorem reads_findApplicationBySlug (app : AppKey) :
    Only ServerOp.Reads (findApplicationBySlug rt app).run :=
  only_findApplicationBySlug (fun _ => trivial) (fun _ => trivial) app

/-- A registration that fails has written nothing, or its last statement has failed. -/
theorem register_error {session : SessionData} {body : RegistrationBody} {e : ApiError}
    (h : Returns (registerApplication rt session body).run log (.error e)) :
    (∀ x ∈ log, x.1.Reads) ∨ ∃ front x, log = front ++ [x] ∧ x.1.Fails x.2 := by
  refine Returns.error_after (reads_authorize _ _ _) (fun _ _ _ h => ?_) h
  refine Returns.error_after (only_refuseIf _ _) (fun _ _ _ h => ?_) h
  refine Returns.error_after (only_attempt (reads_findApplicationBySlug _) _)
    (fun _ _ _ h => ?_) h
  refine Returns.error_after (only_clientIdOr (fun _ => trivial) _) (fun _ _ _ h => ?_) h
  refine Returns.error_after (only_newSecretIf (fun _ => trivial) trivial _) (fun _ _ _ h => ?_) h
  refine .inr (blames_bind (blames_attempt ?_ _) (fun _ => ?_) _ _ h)
  · intro log e h
    obtain rfl := returns_call.1 h
    exact ⟨[], _, rfl, trivial⟩
  · exact blames_bind (blames_attempt (blames_replaceCallbacks _ _) _) fun _ => blames_pure _

/-- A `PATCH` that fails has written nothing, or its last statement has failed. -/
theorem patch_error {session : SessionData} {slug : Slug} {body : PatchBody} {e : ApiError}
    (h : Returns (patchApplication rt session slug body).run log (.error e)) :
    (∀ x ∈ log, x.1.Reads) ∨ ∃ front x, log = front ++ [x] ∧ x.1.Fails x.2 := by
  refine Returns.error_after (reads_authorize _ _ _) (fun _ _ _ h => ?_) h
  refine Returns.error_after (only_attempt (reads_findApplicationBySlug _) _)
    (fun _ _ _ h => ?_) h
  refine Returns.error_after (only_require _ _) (fun _ _ _ h => ?_) h
  refine Returns.error_after (only_refuseIf _ _) (fun _ _ _ h => ?_) h
  refine .inr (blames_bind (blames_updateIf _ _) (fun _ => ?_) _ _ h)
  refine blames_bind (blames_replaceCallbacksIf _ _) fun _ => ?_
  exact blames_bind (blames_attempt (blames_findApplicationBySlug _) _) fun _ => blames_pure _

/-- A secret with its digest, made of random bytes that were drawn. -/
structure NewSecret.Made (rt : ServerRuntime) (log : List ((op : ServerOp) × op.Res))
    (secret : NewSecret) : Prop where
  hash : ∃ salt, ⟨.randomBytes 16, salt⟩ ∈ log ∧
    hashClientSecret rt.crypto secret.clientSecret salt = some secret.hash

theorem returns_newSecret {secret : NewSecret}
    (h : Returns (newSecret rt).run log (.ok secret)) : secret.Made rt log := by
  obtain ⟨bytes, rest₁, hlog, h⟩ := returns_ask_bind.1 h
  obtain ⟨salt, rest₂, hrest₁, h⟩ := returns_ask_bind.1 h
  obtain ⟨hash, hhash, h⟩ := returns_require_bind.1 h
  obtain ⟨updatedAt, rest₃, hrest₂, h⟩ := returns_ask_bind.1 h
  obtain ⟨rfl, rfl⟩ := returns_exceptT_pure.1 h
  subst hrest₂ hrest₁ hlog
  exact ⟨salt, by simp, hhash⟩

theorem returns_newSecretIf {issue : Bool} {secret : Option NewSecret}
    (h : Returns (newSecretIf rt issue).run log (.ok secret)) :
    secret.isSome = issue ∧ ∀ new, secret = some new → new.Made rt log := by
  unfold newSecretIf at h
  split at h
  next hissue =>
      obtain ⟨new, front, back, rfl, hnew, h⟩ := returns_exceptT_bind.1 h
      obtain ⟨rfl, rfl⟩ := returns_exceptT_pure.1 h
      refine ⟨hissue.symm, ?_⟩
      rintro new' ⟨⟩
      rw [List.append_nil]
      exact returns_newSecret hnew
  next hissue =>
      obtain ⟨-, rfl⟩ := returns_exceptT_pure.1 h
      refine ⟨(Bool.not_eq_true _ ▸ hissue).symm, ?_⟩
      rintro new' ⟨⟩

theorem clientId_of_returns {existing : Option Text} {clientId : Text}
    (h : Returns (clientIdOr existing).run log (.ok clientId)) {stored : Text}
    (hstored : existing = some stored) : clientId = stored := by
  subst hstored
  exact (returns_exceptT_pure.1 h).2.symm

theorem NewSecret.Made.subset {secret : NewSecret} {log' : List ((op : ServerOp) × op.Res)}
    (h : secret.Made rt log) (hsubset : log ⊆ log') : secret.Made rt log' := by
  obtain ⟨salt, hsalt, hhash⟩ := h.hash
  exact ⟨salt, hsubset hsalt, hhash⟩

/-- What a registration that answers with its data has written. -/
theorem register_ok {session : SessionData} {body : RegistrationBody} {reply : RegistrationReply}
    (h : Returns (registerApplication rt session body).run log (.ok reply)) :
    ∃ existing secret front back,
      log = front ++ ⟨.upsertApplication (registrationColumns rt body existing reply.clientId
        secret), .ok ()⟩ :: back ∧
      (∀ x ∈ front, x.1.Reads) ∧ reply.clientSecret = secret.map (·.clientSecret) ∧
      (∀ new, secret = some new → new.Made rt log) ∧
      Returns (replaceCallbacks body.app body.callbackUrls).run back (.ok ()) := by
  obtain ⟨caller, log₁, rest₁, hlog, hauthorized, h⟩ := returns_exceptT_bind.1 h
  obtain ⟨-, h⟩ := returns_refuseIf_bind.1 h
  obtain ⟨existing, log₂, rest₂, hrest₁, hfind, h⟩ := returns_attempt_bind.1 h
  obtain ⟨clientId, log₃, rest₃, hrest₂, hclientId, h⟩ := returns_exceptT_bind.1 h
  obtain ⟨secret, log₄, rest₄, hrest₃, hsecret, h⟩ := returns_exceptT_bind.1 h
  obtain ⟨u, log₅, rest₅, hrest₄, hupsert, h⟩ := returns_attempt_bind.1 h
  obtain rfl := returns_call.1 hupsert
  obtain ⟨v, log₆, rest₆, hrest₅, hreplace, h⟩ := returns_attempt_bind.1 h
  obtain ⟨rfl, rfl⟩ := returns_exceptT_pure.1 h
  rw [List.append_nil] at hrest₅
  have hmade := (returns_newSecretIf hsecret).2
  subst hrest₅ hrest₄ hrest₃ hrest₂ hrest₁ hlog
  refine ⟨existing, secret, log₁ ++ (log₂ ++ (log₃ ++ log₄)), _, by simp, fun x hx => ?_, rfl,
    fun new hnew => (hmade new hnew).subset fun x hx => by simp [hx], hreplace⟩
  simp only [List.mem_append] at hx
  rcases hx with hx | hx | hx | hx
  · exact (reads_authorize _ _ _).of_mem hauthorized hx
  · exact (@reads_findApplicationBySlug rt _).of_mem hfind hx
  · exact Only.of_mem (P := ServerOp.Reads) (only_clientIdOr (fun _ => trivial) _) hclientId hx
  · exact Only.of_mem (P := ServerOp.Reads) (only_newSecretIf (fun _ => trivial) trivial _) hsecret
      hx

/-- The `UPDATE` of a rotation. -/
def rotation (clientId : Text) (secret : NewSecret) : ApplicationPatch :=
  { credentials := some ⟨clientId, secret.hash, secret.updatedAt⟩ }

/-- What a rotation does: it only reads and fails, or it updates the row and fails only with its
    `UPDATE`. -/
theorem rotate_outcome {session : SessionData} {slug : Slug} {orgId : Nat}
    {x : Except ApiError SecretReply}
    (h : Returns (rotateSecret rt session slug orgId).run log x) :
    ((∀ y ∈ log, y.1.Reads) ∧ ∃ e, x = .error e) ∨
      ∃ clientId secret front r back,
        log = front ++ ⟨.updateApplication (orgId, slug.1) (rotation clientId secret), r⟩ :: back ∧
        (∀ y ∈ front, y.1.Reads) ∧ (∀ y ∈ back, y.1.Reads) ∧ secret.Made rt log ∧
        ((∃ e e', r = .error e ∧ x = .error e') ∨
          r = .ok () ∧ ∃ reply, x = .ok reply ∧ reply.clientId = clientId ∧
            reply.clientSecret = secret.clientSecret) := by
  have hpre₀ : ∀ y ∈ ([] : List ((op : ServerOp) × op.Res)), y.1.Reads := by simp
  rcases h.after (reads_authorize _ _ _) hpre₀ with
    hrefused | ⟨caller, log₁, rest₁, hlog, hpre₁, -, h₁⟩
  · exact .inl hrefused
  rcases h₁.after (only_attempt (reads_findApplicationBySlug _) _) hpre₁ with
    hrefused | ⟨found, log₂, rest₂, hrest₁, hpre₂, -, h₂⟩
  · exact .inl (hlog ▸ hrefused)
  rcases h₂.after (only_require _ _) hpre₂ with
    hrefused | ⟨existing, log₃, rest₃, hrest₂, hpre₃, -, h₃⟩
  · exact .inl (by simpa [hlog, hrest₁] using hrefused)
  rcases h₃.after (only_clientIdOr (fun _ => trivial) _) hpre₃ with
    hrefused | ⟨clientId, log₄, rest₄, hrest₃, hpre₄, -, h₄⟩
  · exact .inl (by simpa [hlog, hrest₁, hrest₂] using hrefused)
  rcases h₄.after (only_newSecret (fun _ => trivial) trivial) hpre₄ with
    hrefused | ⟨secret, log₅, rest₅, hrest₄, hpre₅, hsecret, h₅⟩
  · exact .inl (by simpa [hlog, hrest₁, hrest₂, hrest₃] using hrefused)
  refine .inr ⟨clientId, secret, log₁ ++ log₂ ++ log₃ ++ log₄ ++ log₅, ?_⟩
  have hmade := returns_newSecret hsecret
  rcases returns_exceptT_bind_any.1 h₅ with
    ⟨e, hupdate, rfl⟩ | ⟨u, front, back, hrest₅, hupdate, h₆⟩
  · obtain ⟨r, hr, hx⟩ := returns_attempt_any.1 hupdate
    obtain rfl := returns_call.1 hr
    subst hrest₄ hrest₃ hrest₂ hrest₁ hlog
    refine ⟨r, [], by simp [rotation], by simpa using hpre₅, by simp, hmade.subset fun y hy => by
      simp [hy], .inl ?_⟩
    cases r with
    | error e' => exact ⟨e', _, rfl, rfl⟩
    | ok u => cases hx
  · obtain rfl := returns_call.1 (returns_attempt.1 hupdate)
    obtain ⟨rotatedAt, rest, hback, h₇⟩ := returns_ask_bind.1 h₆
    obtain ⟨rfl, rfl⟩ := returns_pure.1 h₇
    subst hback hrest₅ hrest₄ hrest₃ hrest₂ hrest₁ hlog
    refine ⟨.ok (), [⟨.now, rotatedAt⟩], by simp [rotation], by simpa using hpre₅, ?_,
      hmade.subset fun y hy => by simp [hy], .inr ⟨rfl, _, rfl, rfl, rfl⟩⟩
    simp only [List.mem_singleton, forall_eq]
    trivial

/-! ## Replacing callbacks -/

/-- Everything but the two statements that replace callbacks. -/
def ServerOp.LeavesCallbacks : ServerOp → Prop
  | deleteCallbacks _ => False
  | insertCallbacks .. => False
  | _ => True

theorem ServerOp.Reads.leavesCallbacks {op : ServerOp} (h : op.Reads) : op.LeavesCallbacks := by
  cases op <;> trivial

/-- What a replacement that succeeds has done. -/
def replacementLog (app : AppKey) (callbacks : List Text) : List ((op : ServerOp) × op.Res) :=
  if uniqueTrimmed callbacks = [] then [⟨.deleteCallbacks app, .ok ()⟩]
  else
    [⟨.deleteCallbacks app, .ok ()⟩, ⟨.insertCallbacks app (uniqueTrimmed callbacks), .ok ()⟩]

theorem delete_mem_replacementLog (app : AppKey) (callbacks : List Text) :
    ⟨.deleteCallbacks app, .ok ()⟩ ∈ replacementLog app callbacks := by
  unfold replacementLog
  split <;> simp

theorem log_of_replaceCallbacks {app : AppKey} {callbacks : List Text}
    (h : Returns (replaceCallbacks app callbacks).run log (.ok ())) :
    log = replacementLog app callbacks := by
  unfold replacementLog
  rcases returns_replaceCallbacks h with ⟨e, -, e', herror⟩ | ⟨hempty, rfl, -⟩ |
    ⟨r, hsome, rfl, ⟨e, e', -, herror⟩ | ⟨rfl, -⟩⟩
  · cases herror
  · rw [if_pos hempty]
  · cases herror
  · rw [if_neg hsome]

/-- What is awaited from the delete on. -/
inductive ReplacementStep (app : AppKey) (callbacks : List Text) :
    List ((op : ServerOp) × op.Res) → ServerOp → Prop where
  | delete : ReplacementStep app callbacks [] (.deleteCallbacks app)
  | insert : uniqueTrimmed callbacks ≠ [] → ReplacementStep app callbacks
      [⟨.deleteCallbacks app, .ok ()⟩] (.insertCallbacks app (uniqueTrimmed callbacks))
  | afterwards {rest : List ((op : ServerOp) × op.Res)} {op : ServerOp} :
      (∀ x ∈ rest, x.1.Reads) → op.Reads →
        ReplacementStep app callbacks (replacementLog app callbacks ++ rest) op

theorem step_of_replaceCallbacks {app : AppKey} {callbacks : List Text} {op : ServerOp}
    (h : Reaches (replaceCallbacks app callbacks).run log op) :
    ReplacementStep app callbacks log op := by
  rcases reaches_exceptT_bind.1 h with hdelete | ⟨u, front, back, rfl, hdelete, hinsert⟩
  · obtain ⟨rfl, rfl⟩ := reaches_call.1 (reaches_attempt.1 hdelete)
    exact .delete
  · obtain rfl := returns_call.1 (returns_attempt.1 hdelete)
    split at hinsert
    · exact absurd hinsert reaches_exceptT_pure
    next hsome =>
        obtain ⟨rfl, rfl⟩ := reaches_call.1 (reaches_attempt.1 hinsert)
        exact .insert hsome

theorem later_register (session : SessionData) (body : RegistrationBody) :
    Later ServerOp.LeavesCallbacks (ReplacementStep body.app body.callbackUrls)
      (registerApplication rt session body).run := by
  have hreads : ∀ {α : Type} {p : Prog ServerOp ServerOp.Res α}, Only ServerOp.Reads p →
      Only ServerOp.LeavesCallbacks p := fun h => h.mono fun _ h => h.leavesCallbacks
  refine later_bind (hreads (reads_authorize _ _ _)) fun _ => ?_
  refine later_bind (only_refuseIf _ _) fun _ => ?_
  refine later_bind (hreads (only_attempt (reads_findApplicationBySlug _) _)) fun _ => ?_
  refine later_bind (only_clientIdOr (fun _ => trivial) _) fun _ => ?_
  refine later_bind (only_newSecretIf (fun _ => trivial) trivial _) fun _ => ?_
  refine later_bind (only_attempt (only_call trivial) _) fun _ => ?_
  refine later_of_reaches fun log op h => ?_
  rcases reaches_exceptT_bind.1 h with hreplace | ⟨u, front, back, rfl, hreturns, hpure⟩
  · exact step_of_replaceCallbacks (reaches_attempt.1 hreplace)
  · exact absurd hpure reaches_exceptT_pure

theorem later_patch (session : SessionData) (slug : Slug) (body : PatchBody) :
    Later ServerOp.LeavesCallbacks
      (fun log op => ∃ urls, body.callbackUrls = some urls ∧
        ReplacementStep (body.orgId, slug.1) urls log op)
      (patchApplication rt session slug body).run := by
  have hreads : ∀ {α : Type} {p : Prog ServerOp ServerOp.Res α}, Only ServerOp.Reads p →
      Only ServerOp.LeavesCallbacks p := fun h => h.mono fun _ h => h.leavesCallbacks
  have hend : ∀ {x : Option RegisteredApplication → PatchReply},
      Only ServerOp.Reads (attempt (findApplicationBySlug rt (body.orgId, slug.1)).run
        (fun _ => ApiError.internal) >>= fun updated => pure (x updated)).run :=
    only_exceptT_bind (only_attempt (reads_findApplicationBySlug _) _) fun _ => only_exceptT_pure _
  refine later_bind (hreads (reads_authorize _ _ _)) fun _ => ?_
  refine later_bind (hreads (only_attempt (reads_findApplicationBySlug _) _)) fun _ => ?_
  refine later_require_bind fun _ => ?_
  refine later_bind (only_refuseIf _ _) fun _ => ?_
  refine later_bind ?_ fun _ => ?_
  · unfold updateIf
    split
    · exact only_exceptT_pure _
    · exact only_attempt (only_call trivial) _
  cases hurls : body.callbackUrls with
  | none =>
      refine later_of_only (only_exceptT_bind (only_exceptT_pure _) fun _ => ?_)
      exact hreads hend
  | some urls =>
      refine later_of_reaches fun log op h => ⟨urls, rfl, ?_⟩
      rcases reaches_exceptT_bind.1 h with hreplace | ⟨u, front, back, rfl, hreplace, hback⟩
      · exact step_of_replaceCallbacks (reaches_attempt.1 hreplace)
      · rw [log_of_replaceCallbacks (returns_attempt.1 hreplace)]
        refine .afterwards (fun x hx => ?_) (hend.reached hback)
        obtain ⟨next, hfollows⟩ := hback
        exact hend.of_mem hfollows hx

/-- Where a request is that replaces callbacks. -/
def ServerRequest.Replacement (req : ServerRequest) (log : List ((op : ServerOp) × op.Res))
    (op : ServerOp) : Prop :=
  ∃ app urls, req.submits = some (app, urls) ∧ ReplacementStep app urls log op

/-- No request deletes or inserts callbacks but in the order of a replacement of what it submits. -/
theorem later_handler (req : ServerRequest) :
    Later ServerOp.LeavesCallbacks req.Replacement (req.handler rt) := by
  have hother : req.submits = none → Only ServerOp.LeavesCallbacks (req.handler rt) := by
    intro hnone
    refine (ServerRequest.only_handler req).mono fun op h => ?_
    cases op with
    | deleteCallbacks app =>
        obtain ⟨urls, hsubmits⟩ := h
        cases hnone.symm.trans hsubmits
    | insertCallbacks app urls =>
        obtain ⟨submitted, hsubmits, -⟩ := h
        cases hnone.symm.trans hsubmits
    | _ => trivial
  cases req with
  | register session body =>
      exact (later_register session body).mono fun log op h => ⟨_, _, rfl, h⟩
  | patch session slug body =>
      refine (later_patch session slug body).mono fun log op h => ?_
      obtain ⟨urls, hurls, hstep⟩ := h
      exact ⟨(body.orgId, slug.1), urls, by simp [ServerRequest.submits, hurls], hstep⟩
  | _ => exact later_of_only (hother rfl)

/-- What a `PATCH` that answers with its data has done. -/
theorem patch_ok {session : SessionData} {slug : Slug} {body : PatchBody} {reply : PatchReply}
    (h : Returns (patchApplication rt session slug body).run log (.ok reply)) :
    ∃ front back, (∀ x ∈ back, x.1.Reads) ∧
      log = front ++ (body.callbackUrls.elim [] (replacementLog (body.orgId, slug.1))) ++ back := by
  obtain ⟨caller, log₁, rest₁, hlog, -, h⟩ := returns_exceptT_bind.1 h
  obtain ⟨found, log₂, rest₂, hrest₁, -, h⟩ := returns_attempt_bind.1 h
  obtain ⟨existing, -, h⟩ := returns_require_bind.1 h
  obtain ⟨-, h⟩ := returns_refuseIf_bind.1 h
  obtain ⟨u, log₃, rest₃, hrest₂, -, h⟩ := returns_exceptT_bind.1 h
  obtain ⟨v, log₄, rest₄, hrest₃, hreplace, h⟩ := returns_exceptT_bind.1 h
  obtain ⟨updated, log₅, rest₅, hrest₄, hfind, h⟩ := returns_attempt_bind.1 h
  obtain ⟨rfl, -⟩ := returns_exceptT_pure.1 h
  have hreplaced : log₄ = body.callbackUrls.elim [] (replacementLog (body.orgId, slug.1)) := by
    cases hurls : body.callbackUrls with
    | none =>
        rw [hurls] at hreplace
        exact (returns_exceptT_pure.1 hreplace).1
    | some urls =>
        rw [hurls] at hreplace
        exact log_of_replaceCallbacks (returns_attempt.1 hreplace)
  refine ⟨log₁ ++ log₂ ++ log₃, log₅, fun x hx => ?_, ?_⟩
  · exact (@reads_findApplicationBySlug rt _).of_mem hfind hx
  · rw [hlog, hrest₁, hrest₂, hrest₃, hrest₄, hreplaced]
    simp

/-- A thread that inserts callbacks has just deleted those that it replaces. -/
theorem deleted_of_insert {req : ServerRequest} {app : AppKey} {urls : List Text}
    (h : Reaches (req.handler rt) log (.insertCallbacks app urls)) :
    ∃ front submitted, log = front ++ [⟨.deleteCallbacks app, .ok ()⟩] ∧
      req.submits = some (app, submitted) ∧ uniqueTrimmed submitted ≠ [] ∧
      urls = uniqueTrimmed submitted := by
  rcases later_handler req log _ h with ⟨-, hleaves⟩ |
    ⟨front, back, rfl, -, app', submitted, hsubmits, hstep⟩
  · exact absurd hleaves id
  · generalize hop : ServerOp.insertCallbacks app urls = op at hstep
    cases hstep with
    | delete => cases hop
    | insert hsome =>
        cases hop
        exact ⟨front, submitted, rfl, hsubmits, hsome, rfl⟩
    | afterwards hrest hreads =>
        subst hop
        exact absurd hreads id

/-- A replacement of a set that is not empty does not end with its delete. -/
theorem uniqueTrimmed_eq_nil_of_last {app : AppKey} {callbacks : List Text}
    {front front' rest : List ((op : ServerOp) × op.Res)} (hrest : ∀ x ∈ rest, x.1.Reads)
    (h : front ++ [⟨.deleteCallbacks app, .ok ()⟩] =
      front' ++ replacementLog app callbacks ++ rest) : uniqueTrimmed callbacks = [] := by
  by_contra hsome
  unfold replacementLog at h
  rw [if_neg hsome] at h
  induction rest using List.reverseRecOn with
  | nil =>
      have hlast := congrArg List.getLast? h
      simp at hlast
  | append_singleton rest x =>
      rw [← List.append_assoc] at h
      obtain ⟨-, heq⟩ := List.append_inj' h rfl
      have hreads := hrest x (by simp)
      rw [← (List.cons.inj heq).1] at hreads
      exact hreads

/-- After the delete a thread that has something to insert does so. -/
theorem insert_after_delete {req : ServerRequest} {app : AppKey} {urls : List Text} {op : ServerOp}
    {front : List ((op : ServerOp) × op.Res)} (hsubmits : req.submits = some (app, urls))
    (hsome : uniqueTrimmed urls ≠ [])
    (h : Reaches (req.handler rt) (front ++ [⟨.deleteCallbacks app, .ok ()⟩]) op) :
    op = .insertCallbacks app (uniqueTrimmed urls) := by
  rcases later_handler req _ op h with ⟨hleaves, -⟩ |
    ⟨front', back, hlog, hfront', app', urls', hsubmits', hstep⟩
  · exact absurd (hleaves _ (List.mem_append_right _ (List.mem_singleton_self _))) id
  · obtain ⟨rfl, rfl⟩ := Prod.mk.inj (Option.some.inj (hsubmits.symm.trans hsubmits'))
    cases hstep with
    | delete =>
        rw [List.append_nil] at hlog
        exact absurd (hfront' ⟨.deleteCallbacks app, .ok ()⟩ (by simp [← hlog])) id
    | insert => rfl
    | afterwards hrest _ =>
        rw [← List.append_assoc] at hlog
        exact absurd (uniqueTrimmed_eq_nil_of_last hrest hlog) hsome

/-- What the request has replaced, if it has answered with its data. -/
def ServerRequest.replaced : (req : ServerRequest) → req.Ans → Option (AppKey × List Text)
  | register _ body, .ok _ => some (body.app, uniqueTrimmed body.callbackUrls)
  | patch _ slug body, .ok _ =>
      body.callbackUrls.map fun urls => ((body.orgId, slug.1), uniqueTrimmed urls)
  | _, _ => none

/-- What a request that submits callbacks has done when it answers. -/
theorem outcome_of_submits {req : ServerRequest} {answer : req.Ans} {app : AppKey}
    {urls : List Text} (h : Returns (req.handler rt) log answer)
    (hsubmits : req.submits = some (app, urls)) :
    (req.replaced answer = some (app, uniqueTrimmed urls) ∧ ∃ front back,
        (∀ x ∈ back, x.1.Reads) ∧ log = front ++ replacementLog app urls ++ back) ∨
      req.replaced answer = none ∧
        ((∀ x ∈ log, x.1.Reads) ∨ ∃ front x, log = front ++ [x] ∧ x.1.Fails x.2) := by
  cases req with
  | register session body =>
      obtain ⟨rfl, rfl⟩ := Prod.mk.inj (Option.some.inj hsubmits)
      cases answer with
      | error e => exact .inr ⟨rfl, register_error h⟩
      | ok reply =>
          obtain ⟨existing, secret, front, back, hlog, -, -, -, hreplace⟩ := register_ok h
          have hback := log_of_replaceCallbacks hreplace
          refine .inl ⟨rfl, front ++ [⟨.upsertApplication (registrationColumns rt body existing
            reply.clientId secret), .ok ()⟩], [], by simp, ?_⟩
          rw [hlog, hback]
          simp
  | patch session slug body =>
      obtain ⟨submitted, hurls, heq⟩ := Option.map_eq_some_iff.1 hsubmits
      obtain ⟨rfl, rfl⟩ := Prod.mk.inj heq
      cases answer with
      | error e => exact .inr ⟨rfl, patch_error h⟩
      | ok reply =>
          obtain ⟨front, back, hreads, hlog⟩ := patch_ok h
          rw [hurls] at hlog
          exact .inl ⟨by simp [ServerRequest.replaced, hurls], front, back, hreads, hlog⟩
  | _ => cases hsubmits

theorem submits_of_replaced {req : ServerRequest} {answer : req.Ans} {app : AppKey}
    {urls : List Text} (h : req.replaced answer = some (app, urls)) :
    ∃ submitted, req.submits = some (app, submitted) := by
  cases req with
  | register session body =>
      cases answer with
      | error e => cases h
      | ok reply =>
          cases h
          exact ⟨_, rfl⟩
  | patch session slug body =>
      cases answer with
      | error e => cases h
      | ok reply =>
          obtain ⟨submitted, hurls, heq⟩ := Option.map_eq_some_iff.1 h
          cases heq
          exact ⟨submitted, by simp [ServerRequest.submits, hurls]⟩
  | _ => cases h

end OwneX
