import OwneX.Platform.Redemption
import OwneX.Platform.RegistryWrites

set_option autoImplicit false

/-! # Replacing callbacks

The callbacks of an application are replaced by a delete and an insert, after the row has been
written. Where no other thread looks at the callbacks or writes them between the two, and nothing
fails once a request has begun to write, every reader sees the callbacks that were there at first or
all that one request has submitted, and a `PATCH` that fails has changed nothing
(`replacement_atomic`). -/

namespace OwneX

open Js Prog Interleaving Service

variable {σ : Type} [ERC721 σ] {rt : ServerRuntime}

/-! ## What is said -/

/-- The stored callbacks of an application. -/
def ServerState.callbackSet (s : ServerState σ) (app : AppKey) : Set Text :=
  {url | ⟨app, url⟩ ∈ s.callbacks.rows}

/-- A statement that reads or writes the callbacks of the application. -/
def ServerOp.OnCallbacks (app : AppKey) : ServerOp → Prop
  | selectCallbacks key => key = app
  | deleteCallbacks key => key = app
  | insertCallbacks key _ => key = app
  | _ => False

/-- A statement by which a `PATCH` or a replacement begins to change the application. -/
def ServerOp.Begins (app : AppKey) : ServerOp → Prop
  | updateApplication key patch => key = app ∧ patch.credentials = none
  | deleteCallbacks key => key = app
  | _ => False

/-- The thread has deleted the callbacks of the application, and has yet to insert its own. -/
def Replacing (app : AppKey) (pre : List (server σ rt).Transition) (c : (server σ rt).Config)
    (i : Nat) : Prop :=
  ∃ front req urls, ownLog i pre = front ++ [⟨.deleteCallbacks app, .ok ()⟩] ∧ c.Serves i req ∧
    req.submits = some (app, urls) ∧ uniqueTrimmed urls ≠ []

/-- Every reader sees the callbacks that were there at first or all that a request has submitted; in
    the end there are those of a request that has succeeded, if any has; and a `PATCH` that fails
    changes nothing. -/
structure AtomicReplacement (app : AppKey) (s : ServerState σ) (ts : List (server σ rt).Transition)
    (c : (server σ rt).Config) : Prop where
  seen : ∀ t ∈ ts, ∀ i callbacks, t.move = .perform i (.selectCallbacks app) (.ok callbacks) →
    {url | url ∈ callbacks} = s.callbackSet app ∨
      ∃ j req urls, t.before.Serves j req ∧ req.submits = some (app, urls) ∧
        {url | url ∈ callbacks} = {url | url ∈ uniqueTrimmed urls}
  final : (∀ i req, c.Serves i req → ∃ answer, c.Answers i req answer) →
    (c.shared.callbackSet app = s.callbackSet app ∧
        ∀ i req answer urls, c.Answers i req answer → req.replaced answer ≠ some (app, urls)) ∨
      ∃ i req answer urls, c.Answers i req answer ∧ req.replaced answer = some (app, urls) ∧
        c.shared.callbackSet app = {url | url ∈ urls}
  unharmed : ∀ i session slug (body : PatchBody) e, (body.orgId, slug.1) = app →
    c.Answers i (.patch session slug body) (.error e) →
      ∀ t ∈ ts, ∀ (op : ServerOp) (r : op.Res), t.move = .perform i op r →
        t.after.shared = t.before.shared

/-- No other thread reads or writes the callbacks between the delete and the insert of a replacement,
    a statement that fails is not performed, and nothing fails after a request has begun to change the
    application. -/
structure CarefulReplacements (app : AppKey) (ts : List (server σ rt).Transition) : Prop where
  undisturbed : ∀ (pre post : List (server σ rt).Transition) t i (op : ServerOp) (r : op.Res),
    ts = pre ++ t :: post → t.move = .perform i op r → op.OnCallbacks app → ¬ op.Fails r →
      ∀ j, Replacing app pre t.before j → j = i
  unperformed : ∀ t ∈ ts, ∀ i (op : ServerOp) (r : op.Res), t.move = .perform i op r →
    op.Begins app → op.Fails r → t.after.shared = t.before.shared
  completes : ∀ (pre post : List (server σ rt).Transition) t i (op : ServerOp) (r : op.Res),
    ts = pre ++ t :: post → t.move = .perform i op r → op.Fails r →
      ∀ (op' : ServerOp) (r' : op'.Res), ⟨op', r'⟩ ∈ ownLog i pre → ¬ op'.Begins app

/-! ## What a transition makes of the callbacks -/

/-- Reads change nothing. -/
theorem ServerState.exec_reads {s s' : ServerState σ} {op : ServerOp} {r : op.Res}
    (h : s.exec rt op r s') (hreads : op.Reads) : s' = s := by
  rcases exec_effect h with heq | heq
  · exact heq
  · cases op with
    | upsertApplication cols => exact absurd hreads id
    | updateApplication app patch => exact absurd hreads id
    | deleteCallbacks app => exact absurd hreads id
    | insertCallbacks app urls => exact absurd hreads id
    | insertCode row => exact absurd hreads id
    | consumeCode query => exact absurd hreads id
    | _ => exact heq

omit [ERC721 σ] in
theorem callbackSet_delete (s : ServerState σ) (key app : AppKey) :
    (s.effect (.deleteCallbacks key)).callbackSet app =
      if key = app then ∅ else s.callbackSet app := by
  unfold ServerState.callbackSet
  ext url
  change ⟨app, url⟩ ∈ (s.callbacks.delete key).rows ↔ _
  by_cases hkey : key = app
  · simp [CallbackTable.delete, hkey]
  · simp [CallbackTable.delete, hkey, Ne.symm hkey]

omit [ERC721 σ] in
/-- An insert adds what it inserts, unless it breaks a constraint. -/
theorem callbackSet_insert (s : ServerState σ) (key app : AppKey) (urls : List Text) :
    ((∃ e, (s.callbacks.insert s.applications key urls).1 = .error e) ∧
        (s.effect (.insertCallbacks key urls)).callbackSet app = s.callbackSet app) ∨
      (s.effect (.insertCallbacks key urls)).callbackSet app =
        if key = app then s.callbackSet app ∪ {url | url ∈ urls} else s.callbackSet app := by
  unfold ServerState.callbackSet
  change (_ ∧ {url | _ ∈ (s.callbacks.insert s.applications key urls).2.rows} = _) ∨
    {url | _ ∈ (s.callbacks.insert s.applications key urls).2.rows} = _
  unfold CallbackTable.insert
  simp only
  split
  · exact .inl ⟨⟨_, rfl⟩, rfl⟩
  split
  · right
    ext url
    by_cases hkey : key = app <;> simp [hkey]
  · exact .inl ⟨⟨_, rfl⟩, rfl⟩

/-- Other statements leave the callbacks alone. -/
theorem callbackSet_kept {t : (server σ rt).Transition} (h : t.Valid) {app : AppKey}
    (hother : ∀ i (op : ServerOp) (r : op.Res), t.move = .perform i op r →
      op ≠ .deleteCallbacks app ∧ ∀ urls, op ≠ .insertCallbacks app urls) :
    t.after.shared.callbackSet app = t.before.shared.callbackSet app := by
  rcases Transition.Valid.shared h with heq | ⟨i, op, r, hmove, hexec⟩ | henv
  · rw [heq]
  · obtain ⟨hdelete, hinsert⟩ := hother i op r hmove
    rcases ServerState.exec_effect hexec with heq | heq
    · rw [heq]
    · rw [heq]
      cases op with
      | deleteCallbacks key =>
          have hne : key ≠ app := fun hkey => hdelete (hkey ▸ rfl)
          exact (callbackSet_delete t.before.shared key app).trans (if_neg hne)
      | insertCallbacks key urls =>
          have hne : key ≠ app := fun hkey => hinsert urls (hkey ▸ rfl)
          rcases callbackSet_insert t.before.shared key app urls with ⟨-, hkept⟩ | hinserted
          · exact hkept
          · exact hinserted.trans (if_neg hne)
      | _ => rfl
  · unfold ServerState.callbackSet
    rw [henv.2.2.2.1]

/-- A delete that succeeds leaves none. -/
theorem callbackSet_of_deleted {t : (server σ rt).Transition} (h : t.Valid) {app : AppKey} {i : Nat}
    (hmove : t.move = .perform i (.deleteCallbacks app) (.ok ())) :
    t.after.shared.callbackSet app = ∅ := by
  obtain ⟨-, -, -, -, hexec, -⟩ := Transition.Valid.perform h hmove
  have heffect : t.after.shared = t.before.shared.effect (.deleteCallbacks app) :=
    (Prod.mk.inj (Attempt.of_ok hexec)).2.symm
  rw [heffect]
  exact (callbackSet_delete t.before.shared app app).trans (if_pos rfl)

/-- An insert that succeeds adds all that it inserts. -/
theorem callbackSet_of_inserted {t : (server σ rt).Transition} (h : t.Valid) {app : AppKey}
    {i : Nat} {urls : List Text}
    (hmove : t.move = .perform i (.insertCallbacks app urls) (.ok ())) :
    t.after.shared.callbackSet app = t.before.shared.callbackSet app ∪ {url | url ∈ urls} := by
  obtain ⟨-, -, -, -, hexec, -⟩ := Transition.Valid.perform h hmove
  obtain ⟨hok, hafter⟩ := Prod.mk.inj (Attempt.of_ok hexec)
  have heffect : t.after.shared = t.before.shared.effect (.insertCallbacks app urls) := hafter.symm
  rw [heffect]
  rcases callbackSet_insert t.before.shared app app urls with ⟨⟨e, herror⟩, -⟩ | hinserted
  · cases hok.symm.trans herror
  · exact hinserted.trans (if_pos rfl)

/-! ## Who is replacing -/

section Runs

variable {s : ServerState σ} {ts pre post : List (server σ rt).Transition}
  {c : (server σ rt).Config} {t : (server σ rt).Transition} {app : AppKey}

/-- A thread that has not moved is replacing if it was. -/
theorem replacing_iff_of_ne (hpre : (server σ rt).Run s pre t.before) (hvalid : t.Valid) {i : Nat}
    (hother : ∀ (op : ServerOp) (r : op.Res), t.move ≠ .perform i op r) :
    Replacing app (pre ++ [t]) t.after i ↔ Replacing app pre t.before i := by
  have hlog : ownLog i (pre ++ [t]) = ownLog i pre := ownLog_concat_of_ne hother
  have hpath : (server σ rt).system.Path t.before [t] t.after := .single hvalid
  constructor
  · rintro ⟨front, req, urls, hlast, hserves, hsubmits, hsome⟩
    rw [hlog] at hlast
    have hdeleted : ⟨.deleteCallbacks app, .ok ()⟩ ∈ ownLog i pre := by simp [hlast]
    obtain ⟨req', hbefore⟩ := hpre.serves hdeleted
    obtain rfl := (hbefore.of_path hpath).unique hserves
    exact ⟨front, req', urls, hlast, hbefore, hsubmits, hsome⟩
  · rintro ⟨front, req, urls, hlast, hserves, hsubmits, hsome⟩
    exact ⟨front, req, urls, hlog.trans hlast, hserves.of_path hpath, hsubmits, hsome⟩

/-- A thread that is replacing inserts next. -/
theorem insert_of_replacing (h : (server σ rt).Run s (pre ++ t :: post) c) {i : Nat}
    {op : ServerOp} {r : op.Res} (hmove : t.move = .perform i op r)
    (hreplacing : Replacing app pre t.before i) : ∃ urls, op = .insertCallbacks app urls := by
  obtain ⟨front, req, urls, hlast, hserves, hsubmits, hsome⟩ := hreplacing
  obtain ⟨req', hserves', hreaches⟩ := h.awaited hmove
  obtain rfl := hserves.unique hserves'
  rw [hlast] at hreaches
  exact ⟨_, insert_after_delete hsubmits hsome hreaches⟩

/-- After a move other than the delete nobody replaces who has not before. -/
theorem not_replacing_of_perform {i : Nat} {op : ServerOp} {r : op.Res}
    (hmove : t.move = .perform i op r)
    (hother : (⟨op, r⟩ : (op : ServerOp) × op.Res) ≠ ⟨.deleteCallbacks app, .ok ()⟩) :
    ¬ Replacing app (pre ++ [t]) t.after i := by
  rintro ⟨front, req, urls, hlast, -⟩
  rw [ownLog_concat hmove] at hlast
  exact hother (List.cons.inj (List.append_inj' hlast rfl).2).1

/-! ## What holds all along -/

/-- The callbacks of nobody's replacement, or all that a request submits that has deleted. -/
def CallbacksSettled (app : AppKey) (s : ServerState σ) (pre : List (server σ rt).Transition)
    (c : (server σ rt).Config) : Prop :=
  ((∀ i, ⟨.deleteCallbacks app, .ok ()⟩ ∉ ownLog i pre) ∧
      c.shared.callbackSet app = s.callbackSet app) ∨
    ∃ i req urls, ⟨.deleteCallbacks app, .ok ()⟩ ∈ ownLog i pre ∧ c.Serves i req ∧
      req.submits = some (app, urls) ∧ c.shared.callbackSet app = {url | url ∈ uniqueTrimmed urls}

/-- At most one thread is replacing; while it is, there are no callbacks. -/
structure InTurn (app : AppKey) (s : ServerState σ) (pre : List (server σ rt).Transition)
    (c : (server σ rt).Config) : Prop where
  empty : ∀ i, Replacing app pre c i → c.shared.callbackSet app = ∅
  unique : ∀ i j, Replacing app pre c i → Replacing app pre c j → i = j
  settled : (∀ i, ¬ Replacing app pre c i) → CallbacksSettled app s pre c

/-- A transition that neither deletes the callbacks nor inserts any. -/
theorem InTurn.of_kept (h : InTurn app s pre t.before) (hpre : (server σ rt).Run s pre t.before)
    (hvalid : t.Valid)
    (hkept : t.after.shared.callbackSet app = t.before.shared.callbackSet app)
    (hperformed : ∀ i (op : ServerOp) (r : op.Res), t.move = .perform i op r →
      ¬ Replacing app pre t.before i ∧
        (⟨op, r⟩ : (op : ServerOp) × op.Res) ≠ ⟨.deleteCallbacks app, .ok ()⟩) :
    InTurn app s (pre ++ [t]) t.after := by
  have hpath : (server σ rt).system.Path t.before [t] t.after := .single hvalid
  have hiff : ∀ i, Replacing app (pre ++ [t]) t.after i ↔ Replacing app pre t.before i := by
    intro i
    by_cases hi : ∃ (op : ServerOp) (r : op.Res), t.move = .perform i op r
    · obtain ⟨op, r, hmove⟩ := hi
      obtain ⟨hno, hother⟩ := hperformed i op r hmove
      exact iff_of_false (not_replacing_of_perform hmove hother) hno
    · exact replacing_iff_of_ne hpre hvalid fun op r hmove => hi ⟨op, r, hmove⟩
  have hdeleted : ∀ i, ⟨.deleteCallbacks app, .ok ()⟩ ∈ ownLog i (pre ++ [t]) →
      ⟨.deleteCallbacks app, .ok ()⟩ ∈ ownLog i pre := by
    intro i hi
    by_cases hmoves : ∃ (op : ServerOp) (r : op.Res), t.move = .perform i op r
    · obtain ⟨op, r, hmove⟩ := hmoves
      rw [ownLog_concat hmove, List.mem_append, List.mem_singleton] at hi
      exact hi.resolve_right fun heq => (hperformed i op r hmove).2 heq.symm
    · rwa [ownLog_concat_of_ne fun op r hmove => hmoves ⟨op, r, hmove⟩] at hi
  refine ⟨fun i hi => ?_, fun i j hi hj => ?_, fun hnone => ?_⟩
  · rw [hkept]
    exact h.empty i ((hiff i).1 hi)
  · exact h.unique i j ((hiff i).1 hi) ((hiff j).1 hj)
  · rcases h.settled fun i hi => hnone i ((hiff i).2 hi) with
      ⟨hnobody, hset⟩ | ⟨i, req, urls, hi, hserves, hsubmits, hset⟩
    · exact .inl ⟨fun i hi => hnobody i (hdeleted i hi), hkept.trans hset⟩
    · refine .inr ⟨i, req, urls, ?_, hserves.of_path hpath, hsubmits, hkept.trans hset⟩
      rw [ownLog_append]
      exact List.mem_append_left _ hi

/-- The delete of a replacement that nobody else comes into. -/
theorem InTurn.of_deleted (hpre : (server σ rt).Run s pre t.before) (hvalid : t.Valid) {i : Nat}
    (hmove : t.move = .perform i (.deleteCallbacks app) (.ok ())) {req : ServerRequest}
    {urls : List Text} (hserves : t.before.Serves i req) (hsubmits : req.submits = some (app, urls))
    (hnobody : ∀ j, ¬ Replacing app pre t.before j) : InTurn app s (pre ++ [t]) t.after := by
  have hafter : t.after.Serves i req := hserves.of_path (.single hvalid)
  have hlog : ownLog i (pre ++ [t]) = ownLog i pre ++ [⟨.deleteCallbacks app, .ok ()⟩] :=
    ownLog_concat hmove
  have hempty := callbackSet_of_deleted hvalid hmove
  have hothers : ∀ j, Replacing app (pre ++ [t]) t.after j → j = i := by
    intro j hj
    by_contra hne
    refine hnobody j ((replacing_iff_of_ne hpre hvalid fun op r hmove' => ?_).1 hj)
    rw [hmove] at hmove'
    cases hmove'
    exact hne rfl
  refine ⟨fun j _ => hempty, fun j k hj hk => (hothers j hj).trans (hothers k hk).symm,
    fun hnone => ?_⟩
  -- Nobody is replacing: what was submitted is empty, and the delete was all of it.
  have hnil : uniqueTrimmed urls = [] := by
    by_contra hsome
    exact hnone i ⟨_, req, urls, hlog, hafter, hsubmits, hsome⟩
  refine .inr ⟨i, req, urls, by simp [hlog], hafter, hsubmits, ?_⟩
  rw [hnil]
  exact hempty.trans (by simp)

/-- The insert of a replacement. -/
theorem InTurn.of_inserted (h : InTurn app s pre t.before)
    (hpre : (server σ rt).Run s pre t.before) (hvalid : t.Valid) {i : Nat} {urls : List Text}
    (hmove : t.move = .perform i (.insertCallbacks app (uniqueTrimmed urls)) (.ok ()))
    {req : ServerRequest} (hserves : t.before.Serves i req)
    (hsubmits : req.submits = some (app, urls)) (hreplacing : Replacing app pre t.before i) :
    InTurn app s (pre ++ [t]) t.after := by
  have hset : t.after.shared.callbackSet app = {url | url ∈ uniqueTrimmed urls} := by
    refine (callbackSet_of_inserted hvalid hmove).trans ?_
    rw [h.empty i hreplacing]
    simp
  have hnobody : ∀ j, ¬ Replacing app (pre ++ [t]) t.after j := by
    intro j hj
    by_cases hij : j = i
    · subst hij
      exact not_replacing_of_perform hmove (by simp) hj
    · refine hij (h.unique j i ((replacing_iff_of_ne hpre hvalid fun op r hmove' => ?_).1 hj)
        hreplacing)
      rw [hmove] at hmove'
      cases hmove'
      exact hij rfl
  refine ⟨fun j hj => absurd hj (hnobody j), fun j k hj _ => absurd hj (hnobody j), fun _ => ?_⟩
  refine .inr ⟨i, req, urls, ?_, hserves.of_path (.single hvalid), hsubmits, hset⟩
  obtain ⟨front, _, _, hlast, -⟩ := hreplacing
  simp [ownLog_concat hmove, hlast]

theorem InTurn.step (h : (server σ rt).Run s ts c) (hcareful : CarefulReplacements app ts)
    (hts : ts = pre ++ t :: post) (hbefore : InTurn app s pre t.before) :
    InTurn app s (pre ++ [t]) t.after := by
  subst hts
  obtain ⟨hpre, hvalid, -⟩ := h.split_at
  by_cases hperforms : ∃ i, ∃ (op : ServerOp) (r : op.Res), t.move = .perform i op r
  · obtain ⟨i, op, r, hmove⟩ := hperforms
    obtain ⟨req, hserves, hreaches⟩ := h.awaited hmove
    have honly : ∀ j (op' : ServerOp) (r' : op'.Res), t.move = .perform j op' r' →
        j = i ∧ (⟨op', r'⟩ : (op : ServerOp) × op.Res) = ⟨op, r⟩ := by
      intro j op' r' hmove'
      rw [hmove] at hmove'
      cases hmove'
      exact ⟨rfl, rfl⟩
    by_cases hdelete : op = .deleteCallbacks app
    · subst hdelete
      have hnot : ¬ Replacing app pre t.before i := by
        intro hi
        obtain ⟨urls, heq⟩ := insert_of_replacing h hmove hi
        cases heq
      cases r with
      | ok u =>
          have hnobody : ∀ j, ¬ Replacing app pre t.before j := by
            intro j hj
            obtain rfl := hcareful.undisturbed pre post t i _ _ rfl hmove rfl id j hj
            exact hnot hj
          obtain ⟨urls, hsubmits⟩ := (ServerRequest.only_handler req).reached hreaches
          exact .of_deleted hpre hvalid hmove hserves hsubmits hnobody
      | error e =>
          have hsame := hcareful.unperformed t (by simp) i _ _ hmove rfl trivial
          refine hbefore.of_kept hpre hvalid (by rw [hsame]) fun j op' r' hmove' => ?_
          obtain ⟨rfl, heq⟩ := honly j op' r' hmove'
          exact ⟨hnot, by simp [heq]⟩
    by_cases hinsert : ∃ urls, op = .insertCallbacks app urls
    · obtain ⟨urls, rfl⟩ := hinsert
      obtain ⟨front, submitted, hlast, hsubmits, hsome, rfl⟩ := deleted_of_insert hreaches
      cases r with
      | ok u =>
          exact hbefore.of_inserted hpre hvalid hmove hserves hsubmits
            ⟨front, req, submitted, hlast, hserves, hsubmits, hsome⟩
      | error e =>
          have hdeleted : ⟨.deleteCallbacks app, .ok ()⟩ ∈ ownLog i pre := by
            rw [hlast]
            exact List.mem_append_right _ (List.mem_singleton_self _)
          exact absurd rfl (hcareful.completes pre post t i _ _ rfl hmove trivial _ _ hdeleted)
    · -- Any other statement.
      refine hbefore.of_kept hpre hvalid (callbackSet_kept hvalid fun j op' r' hmove' => ?_)
        fun j op' r' hmove' => ?_
      · obtain ⟨-, heq⟩ := honly j op' r' hmove'
        cases heq
        exact ⟨hdelete, fun urls heq => hinsert ⟨urls, heq⟩⟩
      · obtain ⟨rfl, heq⟩ := honly j op' r' hmove'
        cases heq
        refine ⟨fun hreplacing => hinsert (insert_of_replacing h hmove hreplacing), fun heq => ?_⟩
        cases heq
        exact hdelete rfl
  · have hnone : ∀ i (op : ServerOp) (r : op.Res), t.move ≠ .perform i op r :=
      fun i op r hmove => hperforms ⟨i, op, r, hmove⟩
    exact hbefore.of_kept hpre hvalid (callbackSet_kept hvalid fun i op r hmove =>
      absurd hmove (hnone i op r)) fun i op r hmove => absurd hmove (hnone i op r)

/-- Nobody is replacing before the first request. -/
theorem not_replacing_nil {i : Nat} : ¬ @Replacing σ _ rt app [] (idle s) i := by
  rintro ⟨front, req, urls, hlast, -⟩
  have hmem := congrArg List.length hlast
  simp [ownLog] at hmem

theorem inTurn_of_run (h : (server σ rt).Run s ts c) (hcareful : CarefulReplacements app ts) :
    InTurn app s ts c ∧ ∀ pre t post, ts = pre ++ t :: post → InTurn app s pre t.before := by
  refine h.history (P := fun pre m => InTurn app s pre m) ?_
    fun pre t post hts hbefore => hbefore.step h hcareful hts
  refine ⟨fun i hi => absurd hi not_replacing_nil, fun i j hi _ => absurd hi not_replacing_nil,
    fun _ => .inl ⟨fun i hi => ?_, rfl⟩⟩
  cases hi

/-! ## The three parts -/

/-- What a reader sees is settled. -/
theorem seen_of_careful (h : (server σ rt).Run s ts c) (hcareful : CarefulReplacements app ts)
    (ht : t ∈ ts) {i : Nat} {callbacks : List Text}
    (hmove : t.move = .perform i (.selectCallbacks app) (.ok callbacks)) :
    {url | url ∈ callbacks} = s.callbackSet app ∨
      ∃ j req urls, t.before.Serves j req ∧ req.submits = some (app, urls) ∧
        {url | url ∈ callbacks} = {url | url ∈ uniqueTrimmed urls} := by
  obtain ⟨pre, post, rfl⟩ := List.append_of_mem ht
  obtain ⟨-, hvalid, -⟩ := h.split_at
  obtain ⟨-, -, -, -, hexec, -⟩ := Transition.Valid.perform hvalid hmove
  have hselected := Except.ok.inj (Prod.mk.inj (Attempt.of_ok hexec)).1
  have hset : {url | url ∈ callbacks} = t.before.shared.callbackSet app := by
    ext url
    rw [← hselected]
    exact CallbackTable.mem_select
  have hnobody : ∀ j, ¬ Replacing app pre t.before j := by
    intro j hj
    obtain rfl := hcareful.undisturbed pre post t i _ _ rfl hmove rfl id j hj
    obtain ⟨urls, heq⟩ := insert_of_replacing h hmove hj
    cases heq
  rw [hset]
  rcases ((inTurn_of_run h hcareful).2 pre t post rfl).settled hnobody with
    ⟨-, hsame⟩ | ⟨j, req, urls, -, hserves, hsubmits, hsubmitted⟩
  · exact .inl hsame
  · exact .inr ⟨j, req, urls, hserves, hsubmits, hsubmitted⟩

/-- A request that has begun to change the application does not fail. -/
theorem not_failed_of_begun (hcareful : CarefulReplacements app ts) {i : Nat}
    {front : List ((op : ServerOp) × op.Res)} {x : (op : ServerOp) × op.Res}
    (hlog : ownLog i ts = front ++ [x]) (hfails : x.1.Fails x.2) {op : ServerOp} {r : op.Res}
    (hbegun : ⟨op, r⟩ ∈ ownLog i ts) (hr : ¬ op.Fails r) : ¬ op.Begins app := by
  obtain ⟨op', r'⟩ := x
  obtain ⟨pre, t, post, hts, hmove, hpre, -⟩ := exists_of_ownLog (V := server σ rt) front hlog
  rw [hlog] at hbegun
  rcases List.mem_append.1 hbegun with hmem | hmem
  · exact hcareful.completes pre post t i _ _ hts hmove hfails op r (hpre ▸ hmem)
  · cases List.mem_singleton.1 hmem
    exact absurd hfails hr

/-- In the end there are the callbacks of a request that has succeeded, if any has. -/
theorem final_of_careful (h : (server σ rt).Run s ts c) (hcareful : CarefulReplacements app ts)
    (hanswered : ∀ i req, c.Serves i req → ∃ answer, c.Answers i req answer) :
    (c.shared.callbackSet app = s.callbackSet app ∧
        ∀ i req answer urls, c.Answers i req answer → req.replaced answer ≠ some (app, urls)) ∨
      ∃ i req answer urls, c.Answers i req answer ∧ req.replaced answer = some (app, urls) ∧
        c.shared.callbackSet app = {url | url ∈ urls} := by
  -- Who has deleted and answers has replaced: nothing fails after the delete.
  have hreplaced : ∀ i req urls answer, ⟨.deleteCallbacks app, .ok ()⟩ ∈ ownLog i ts →
      req.submits = some (app, urls) → c.Answers i req answer →
        req.replaced answer = some (app, uniqueTrimmed urls) ∧
          ∃ front back : List ((op : ServerOp) × op.Res), (∀ x ∈ back, x.1.Reads) ∧
            ownLog i ts = (front ++ replacementLog app urls ++ back :) := by
    intro i req urls answer hdeleted hsubmits hanswer
    rcases outcome_of_submits (h.returns hanswer) hsubmits with hdone | ⟨-, hreads | hfailed⟩
    · exact hdone
    · exact absurd (hreads _ hdeleted) id
    · obtain ⟨front, x, hlog, hfails⟩ := hfailed
      exact absurd rfl (not_failed_of_begun hcareful hlog hfails hdeleted id)
  have hnobody : ∀ i, ¬ Replacing app ts c i := by
    rintro i ⟨front, req, urls, hlast, hserves, hsubmits, hsome⟩
    obtain ⟨answer, hanswer⟩ := hanswered i req hserves
    have hdeleted : ⟨.deleteCallbacks app, .ok ()⟩ ∈ ownLog i ts := by
      rw [hlast]
      exact List.mem_append_right _ (List.mem_singleton_self _)
    obtain ⟨-, front', back, hback, hlog⟩ := hreplaced i req urls answer hdeleted hsubmits hanswer
    exact hsome (uniqueTrimmed_eq_nil_of_last hback (hlast.symm.trans hlog))
  rcases (inTurn_of_run h hcareful).1.settled hnobody with
    ⟨hnone, hsame⟩ | ⟨i, req, urls, hdeleted, hserves, hsubmits, hset⟩
  · refine .inl ⟨hsame, fun i req answer urls hanswer hreplaces => hnone i ?_⟩
    obtain ⟨submitted, hsubmits⟩ := submits_of_replaced hreplaces
    rcases outcome_of_submits (h.returns hanswer) hsubmits with
      ⟨-, front, back, -, hlog⟩ | ⟨hfailed, -⟩
    · rw [hlog]
      exact List.mem_append_left _ (List.mem_append_right _ (delete_mem_replacementLog app _))
    · cases hfailed.symm.trans hreplaces
  · obtain ⟨answer, hanswer⟩ := hanswered i req hserves
    exact .inr ⟨i, req, answer, uniqueTrimmed urls, hanswer,
      (hreplaced i req urls answer hdeleted hsubmits hanswer).1, hset⟩

/-- A `PATCH` that fails has changed nothing. -/
theorem unharmed_of_careful (h : (server σ rt).Run s ts c) (hcareful : CarefulReplacements app ts)
    {i : Nat} {session : SessionData} {slug : Slug} {body : PatchBody} {e : ApiError}
    (happ : (body.orgId, slug.1) = app)
    (hanswer : c.Answers i (.patch session slug body) (.error e))
    (ht : t ∈ ts) {op : ServerOp} {r : op.Res} (hmove : t.move = .perform i op r) :
    t.after.shared = t.before.shared := by
  obtain ⟨-, -, -, -, hexec, -⟩ := Transition.Valid.perform (h.valid t ht) hmove
  have hperformed : ⟨op, r⟩ ∈ ownLog i ts := mem_ownLog.2 ⟨t, ht, hmove⟩
  by_cases hreads : op.Reads
  · exact ServerState.exec_reads hexec hreads
  rcases patch_error (h.returns hanswer) with honly | ⟨front, x, hlog, hfails⟩
  · exact absurd (honly _ hperformed) hreads
  have hmay : (ServerRequest.patch session slug body).MayAwait op :=
    (ServerRequest.only_handler _).of_mem (h.returns hanswer) hperformed
  -- What the request performs begins to change the application, so it has failed.
  have hunperformed : op.Begins app → t.after.shared = t.before.shared := by
    intro hbegins
    by_cases hr : op.Fails r
    · exact hcareful.unperformed t ht i op r hmove hbegins hr
    · exact absurd hbegins (not_failed_of_begun hcareful hlog hfails hperformed hr)
  cases op with
  | updateApplication key patch =>
      rcases hmay with ⟨-, session', slug', orgId, heq, -⟩ |
        ⟨session', slug', body', heq, hkey, rfl⟩
      · cases heq
      · cases heq
        exact hunperformed ⟨hkey.trans happ, rfl⟩
  | deleteCallbacks key =>
      obtain ⟨urls, hsubmits⟩ := hmay
      obtain ⟨submitted, -, heq⟩ := Option.map_eq_some_iff.1 hsubmits
      exact hunperformed ((Prod.mk.inj heq).1.symm.trans happ)
  | insertCallbacks key urls =>
      -- The delete before it has been performed.
      obtain ⟨submitted, hsubmits, -⟩ := hmay
      obtain ⟨urls', hurls, heq⟩ := Option.map_eq_some_iff.1 hsubmits
      have hkey : key = app := (Prod.mk.inj heq).1.symm.trans happ
      subst hkey
      obtain ⟨pre, post, rfl⟩ := List.append_of_mem ht
      obtain ⟨req, -, hreaches⟩ := h.awaited hmove
      obtain ⟨front', _, hlast, -⟩ := deleted_of_insert hreaches
      have hdeleted : ⟨.deleteCallbacks key, .ok ()⟩ ∈ ownLog i (pre ++ t :: post) := by
        rw [ownLog_append, hlast]
        exact List.mem_append_left _ (List.mem_append_right _ (List.mem_singleton_self _))
      exact absurd rfl (not_failed_of_begun hcareful hlog hfails hdeleted id)
  | upsertApplication cols =>
      obtain ⟨session', body', heq, -⟩ := hmay
      cases heq
  | insertCode row =>
      obtain ⟨session', form, heq⟩ := hmay
      cases heq
  | consumeCode query =>
      obtain ⟨body', heq, -⟩ := hmay
      cases heq
  | _ => exact absurd trivial hreads

/-- Where nobody comes into a replacement, what fails is not performed, and nothing fails after a
    request has begun to change the application, its callbacks are replaced atomically. -/
theorem replacement_atomic (h : (server σ rt).Run s ts c)
    (hcareful : CarefulReplacements app ts) : AtomicReplacement app s ts c where
  seen _ ht _ _ hmove := seen_of_careful h hcareful ht hmove
  final hanswered := final_of_careful h hcareful hanswered
  unharmed _ _ _ _ _ happ hanswer _ ht _ _ hmove :=
    unharmed_of_careful h hcareful happ hanswer ht hmove

end Runs

/-! ## A reader inside a replacement -/

namespace Sample

/-- The callback of the portal, once more. -/
def callbackBody : PatchBody where
  orgId := 1
  name := none
  url := none
  description := none
  logoUrl := none
  callbackUrls := some [portalCallback]
  allowedRoles := none
  status := none

/-- A `PATCH` comes as far as its delete. Then another one looks. -/
def lookedBetween : Option (List portalServer.Transition × portalServer.Transition) := do
  let (pre, c) ← portalPlayer.play (idle portalRegistered)
    (.arrive (.patch aliceSession portalSlug callbackBody) :: portalSteps 0 7 1 ++
      .arrive (.patch aliceSession portalSlug callbackBody) :: portalSteps 1 5 2)
  let t ← portalPlayer.move c (.perform 1 (0 : UInt8))
  return (pre, t)

/-- Whether the transition reads that the portal has no callbacks. -/
def seesNone (t : portalServer.Transition) : Bool :=
  match t.move with
  | .perform _ (.selectCallbacks app) (.ok callbacks) =>
      decide (app = portalApp) && decide (callbacks = [])
  | _ => false

theorem select_of_seesNone {t : portalServer.Transition} (h : seesNone t = true) :
    ∃ i, t.move = .perform i (.selectCallbacks portalApp) (.ok []) := by
  unfold seesNone at h
  split at h
  next i app callbacks hmove =>
      rw [Bool.and_eq_true, decide_eq_true_eq, decide_eq_true_eq] at h
      obtain ⟨rfl, rfl⟩ := h
      exact ⟨i, hmove⟩
  · cases h

/-- Whether every request submits the one callback. -/
def submitOne (c : portalServer.Config) : Bool :=
  c.threads.all fun th =>
    decide (ServerRequest.submits th.request = some (portalApp, [portalCallback]))

theorem submits_of_serves {c : portalServer.Config} (h : submitOne c = true) {i : Nat}
    {req : ServerRequest} (hserves : c.Serves i req) :
    req.submits = some (portalApp, [portalCallback]) := by
  obtain ⟨rest, hrest⟩ := hserves
  exact of_decide_eq_true (List.all_eq_true.1 h _ (List.mem_of_getElem? hrest))

/-- A reader sees no callbacks, though there were some and no request submits an empty set. -/
theorem reader_sees_no_callbacks :
    ¬ ∀ (rt : ServerRuntime) (s : ServerState Ledger) (ts : List (server Ledger rt).Transition)
        (c : (server Ledger rt).Config) (app : AppKey), (server Ledger rt).Run s ts c →
        AtomicReplacement app s ts c := by
  intro hall
  have hplay : lookedBetween.map (fun (_, t) => (seesNone t, submitOne t.before)) =
      some (true, true) := by decide +kernel
  obtain ⟨⟨pre, t⟩, hrun, hfacts⟩ := Option.map_eq_some_iff.1 hplay
  obtain ⟨hsees, hsubmitted⟩ := Prod.mk.inj hfacts
  obtain ⟨⟨pre', c⟩, hpre, hrest⟩ := Option.bind_eq_some_iff.1 hrun
  obtain ⟨t', ht, hsame⟩ := Option.bind_eq_some_iff.1 hrest
  cases hsame
  obtain ⟨rfl, hvalid⟩ := Player.move_valid ht
  have hpath : portalServer.Run portalRegistered (pre ++ [t]) t.after :=
    (Player.play_path hpre).append (.single hvalid)
  obtain ⟨i, hmove⟩ := select_of_seesNone hsees
  have hatomic := hall portalRuntime portalRegistered (pre ++ [t]) t.after portalApp hpath
  rcases hatomic.seen t (by simp) i [] hmove with hstart | ⟨j, req, urls, hserves, hsubmits, hset⟩
  · have hthere : portalCallback ∈ portalRegistered.callbackSet portalApp :=
      List.mem_singleton_self _
    rw [← hstart] at hthere
    cases hthere
  · have hone := submits_of_serves hsubmitted hserves
    obtain ⟨-, rfl⟩ := Prod.mk.inj (Option.some.inj (hsubmits.symm.trans hone))
    have hthere : portalCallback ∈ {url | url ∈ uniqueTrimmed [portalCallback]} := by
      change portalCallback ∈ uniqueTrimmed [portalCallback]
      decide +kernel
    rw [← hset] at hthere
    cases hthere

/-- Whether a statement reads or writes callbacks. -/
def readsOrWrites : ServerOp → Bool
  | .selectCallbacks _ | .deleteCallbacks _ | .insertCallbacks _ _ => true
  | _ => false

theorem readsOrWrites_of_onCallbacks {op : ServerOp} {app : AppKey} (h : op.OnCallbacks app) :
    readsOrWrites op = true := by
  cases op with
  | selectCallbacks key => rfl
  | deleteCallbacks key => rfl
  | insertCallbacks key urls => rfl
  | _ => exact h.elim

/-- Whether a log ends with a delete of callbacks. -/
def endsWithDelete (log : List ((op : ServerOp) × op.Res)) : Bool :=
  match log.getLast? with
  | some ⟨.deleteCallbacks _, _⟩ => true
  | _ => false

theorem endsWithDelete_concat (front : List ((op : ServerOp) × op.Res)) (app : AppKey) :
    endsWithDelete (front ++ [⟨.deleteCallbacks app, .ok ()⟩]) = true := by
  unfold endsWithDelete
  rw [List.getLast?_concat]

/-- Whether a transition keeps away from the callbacks that another thread is replacing. -/
def keepsAway (pre : List portalServer.Transition) (t : portalServer.Transition) : Bool :=
  match t.move with
  | .perform i op _ =>
      !readsOrWrites op ||
        (List.range t.before.threads.length).all fun j =>
          j == i || !endsWithDelete (ownLog j pre)
  | _ => true

theorem eq_of_keepsAway {pre : List portalServer.Transition} {t : portalServer.Transition}
    (h : keepsAway pre t = true) {i j : Nat} {op : ServerOp} {r : op.Res}
    (hmove : t.move = .perform i op r) (hon : readsOrWrites op = true)
    (hthread : j < t.before.threads.length) (hdeleted : endsWithDelete (ownLog j pre) = true) :
    j = i := by
  unfold keepsAway at h
  rw [hmove] at h
  dsimp only at h
  rw [hon, Bool.not_true, Bool.false_or] at h
  have hthread := List.all_eq_true.1 h j (List.mem_range.2 hthread)
  rw [hdeleted, Bool.not_true, Bool.or_false] at hthread
  exact eq_of_beq hthread

/-- Where every transition keeps away, and nothing fails. -/
theorem careful_of_keepsAway {ts : List portalServer.Transition} (hfailed : ts.any failed = false)
    (haway : ((List.range ts.length).all fun n => ts[n]?.all (keepsAway (ts.take n))) = true) :
    CarefulReplacements portalApp ts := by
  refine ⟨?_, fun t ht i op r hmove _ hfails =>
    absurd hfails (not_fails_of_failed hfailed ht hmove), ?_⟩
  · rintro pre post t i op r hts hmove hon - j ⟨front, req, urls, hlog, ⟨rest, hrest⟩, -⟩
    have hthere : keepsAway pre t = true := by
      have hn := List.all_eq_true.1 haway pre.length (by simp [hts])
      simpa [hts] using hn
    refine eq_of_keepsAway hthere hmove (readsOrWrites_of_onCallbacks hon)
      (List.getElem?_eq_some_iff.1 hrest).1 ?_
    rw [hlog]
    exact endsWithDelete_concat front portalApp
  · rintro pre post t i op r hts hmove hfails
    exact absurd hfails (not_fails_of_failed hfailed (by simp [hts]) hmove)

def staleCallback : Text := "https://old.example/callback".toList

/-- The portal has moved. -/
def portalMoved : ServerState Ledger :=
  { portalRegistered with
    callbacks := ⟨[⟨portalApp, staleCallback⟩], by decide +kernel⟩ }

/-- A `PATCH` comes as far as its delete, another one as far as its reads of the chain and of the
    row. Then the first one inserts its callback, and the second one replaces it. -/
def replacedTwice : Option (List portalServer.Transition × portalServer.Config) :=
  portalPlayer.play (idle portalMoved)
    (.arrive (.patch aliceSession portalSlug callbackBody) :: portalSteps 0 7 1 ++
      .arrive (.patch aliceSession portalSlug callbackBody) :: portalSteps 1 5 2 ++
      portalSteps 0 3 1 ++ portalSteps 1 5 2)

theorem turns_atomic :
    ∃ (ts : List portalServer.Transition) (c : portalServer.Config),
      portalServer.Run portalMoved ts c ∧
        (c.answer? 0).isSome = true ∧ (c.answer? 1).isSome = true ∧
        c.shared.callbacks.rows = [⟨portalApp, portalCallback⟩] ∧
        AtomicReplacement portalApp portalMoved ts c := by
  have hplay : replacedTwice.map (fun (ts, c) =>
      (ts.any failed, (List.range ts.length).all fun n => ts[n]?.all (keepsAway (ts.take n)),
        (c.answer? 0).isSome, (c.answer? 1).isSome,
        decide (c.shared.callbacks.rows = [⟨portalApp, portalCallback⟩]))) =
      some (false, true, true, true, true) := by decide +kernel
  obtain ⟨⟨ts, c⟩, hplayed, hfacts⟩ := Option.map_eq_some_iff.1 hplay
  simp only [Prod.mk.injEq] at hfacts
  obtain ⟨hfailed, haway, hfirst, hsecond, hrows⟩ := hfacts
  have hpath : portalServer.Run portalMoved ts c := Player.play_path hplayed
  exact ⟨ts, c, hpath, hfirst, hsecond, of_decide_eq_true hrows,
    replacement_atomic hpath (careful_of_keepsAway hfailed haway)⟩

end Sample

end OwneX
