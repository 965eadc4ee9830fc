import OwneX.Library.Interleaving

set_option autoImplicit false

/-! # One service that calls another

Two services run side by side, and some results of the one are the answers of the other: whoever
receives such a result takes it from a thread of the other service that has come to its answer, and
no answer is taken twice. Everything else goes on independently on both sides. What one side does in
a run of the two is a run of its own (`Path.near`, `Path.far`), so what is known of either can be used
here, and a result that was taken leads from the one run into the other (`Transition.Valid.taken`).

Nobody is answered before the question: a thread that takes an answer takes it from one that has
arrived since it has arrived itself, and so has done nothing before (`Run.answered_since`). -/

namespace Interleaving

open Prog

/-- How the near service calls the far one. -/
structure Link (N F : Service) where
  /-- A result that only the far service can have given. -/
  foreign : (op : N.Op) → N.Res op → Prop
  /-- The result is what becomes of the far service's answer to a request. -/
  carries : (op : N.Op) → N.Res op → (req : F.Req) → F.Ans req → Prop

namespace Link

variable {N F : Service} (link : Link N F)

structure State (link : Link N F) where
  near : N.Config
  far : F.Config
  /-- The threads of the far service whose answer has been taken. -/
  taken : List Nat
  /-- How many requests the far service had when a thread of the near one arrived. -/
  opened : Nat → Nat

inductive Move (link : Link N F) where
  | near (t : N.Transition)
  /-- A thread of the near service takes the answer of a thread of the far one. -/
  | take (t : N.Transition) (thread : Nat)
  | far (t : F.Transition)

structure Transition (link : Link N F) where
  before : link.State
  move : link.Move
  after : link.State

variable {link}

/-- The near thread `i` is given what the thread of the far service has answered. -/
def Takes (c : F.Config) (t : N.Transition) (thread i : Nat) : Prop :=
  ∃ op r req a, t.move = .perform i op r ∧ link.foreign op r ∧ c.Answers thread req a ∧
    link.carries op r req a

/-- What is noted of a move of the near service. -/
def State.note (s : link.State) (move : N.Move) : Nat → Nat :=
  match move with
  | .arrive _ => Function.update s.opened s.near.threads.length s.far.threads.length
  | _ => s.opened

def Transition.Valid (t : link.Transition) : Prop :=
  match t.move with
  | .near u =>
      u.Valid ∧ (∀ i op r, u.move = .perform i op r → ¬ link.foreign op r) ∧
        u.before = t.before.near ∧
        t.after = ⟨u.after, t.before.far, t.before.taken, t.before.note u.move⟩
  | .take u thread =>
      u.Valid ∧ (∃ i, link.Takes t.before.far u thread i ∧ t.before.opened i ≤ thread) ∧
        thread ∉ t.before.taken ∧ u.before = t.before.near ∧
        t.after = ⟨u.after, t.before.far, thread :: t.before.taken, t.before.note u.move⟩
  | .far v =>
      v.Valid ∧ v.before = t.before.far ∧
        t.after = ⟨t.before.near, v.after, t.before.taken, t.before.opened⟩

variable (link) in
def system : TransitionSystem link.State link.Transition where
  source := Transition.before
  target := Transition.after
  Valid := Transition.Valid

variable (link) in
/-- A run in which nobody has asked either service for anything yet. -/
abbrev Run (s : N.State) (s' : F.State) (ts : List link.Transition) (c : link.State) : Prop :=
  link.system.Path ⟨Service.idle s, Service.idle s', [], fun _ => 0⟩ ts c

/-! ## The two sides -/

def Move.nearPart : link.Move → Option N.Transition
  | .near t | .take t _ => some t
  | .far _ => none

def Move.farPart : link.Move → Option F.Transition
  | .far t => some t
  | .near _ | .take .. => none

/-- What the near service has done. -/
def nears (ts : List link.Transition) : List N.Transition :=
  ts.filterMap fun t => t.move.nearPart

/-- What the far service has done. -/
def fars (ts : List link.Transition) : List F.Transition :=
  ts.filterMap fun t => t.move.farPart

theorem nears_append (ts us : List link.Transition) : nears (ts ++ us) = nears ts ++ nears us :=
  List.filterMap_append

theorem fars_append (ts us : List link.Transition) : fars (ts ++ us) = fars ts ++ fars us :=
  List.filterMap_append

/-- What a transition does on the near side. -/
theorem Transition.Valid.near {t : link.Transition} (h : t.Valid) :
    (∃ u, t.move.nearPart = some u ∧ u.Valid ∧ u.before = t.before.near ∧
      u.after = t.after.near) ∨
    t.move.nearPart = none ∧ t.after.near = t.before.near := by
  unfold Transition.Valid at h
  cases hmove : t.move with
  | near u =>
      rw [hmove] at h
      obtain ⟨hvalid, -, hbefore, hafter⟩ := h
      exact .inl ⟨u, rfl, hvalid, hbefore, by rw [hafter]⟩
  | take u thread =>
      rw [hmove] at h
      obtain ⟨hvalid, -, -, hbefore, hafter⟩ := h
      exact .inl ⟨u, rfl, hvalid, hbefore, by rw [hafter]⟩
  | far v =>
      rw [hmove] at h
      obtain ⟨-, -, hafter⟩ := h
      exact .inr ⟨rfl, by rw [hafter]⟩

/-- What a transition does on the far side. -/
theorem Transition.Valid.far {t : link.Transition} (h : t.Valid) :
    (∃ v, t.move.farPart = some v ∧ v.Valid ∧ v.before = t.before.far ∧ v.after = t.after.far) ∨
    t.move.farPart = none ∧ t.after.far = t.before.far := by
  unfold Transition.Valid at h
  cases hmove : t.move with
  | near u =>
      rw [hmove] at h
      obtain ⟨-, -, -, hafter⟩ := h
      exact .inr ⟨rfl, by rw [hafter]⟩
  | take u thread =>
      rw [hmove] at h
      obtain ⟨-, -, -, -, hafter⟩ := h
      exact .inr ⟨rfl, by rw [hafter]⟩
  | far v =>
      rw [hmove] at h
      obtain ⟨hvalid, hbefore, hafter⟩ := h
      exact .inl ⟨v, rfl, hvalid, hbefore, by rw [hafter]⟩

variable {s s' : link.State} {ts : List link.Transition}

/-- A run of the two is a run of the near service. -/
theorem Path.near (h : link.system.Path s ts s') : N.system.Path s.near (nears ts) s'.near := by
  induction h with
  | nil s => exact .nil _
  | @cons t ts s' hv _ ih =>
      unfold nears at ih ⊢
      rw [List.filterMap_cons]
      rcases Transition.Valid.near hv with ⟨u, hpart, hvalid, hbefore, hafter⟩ | ⟨hpart, hsame⟩
      · rw [hpart]
        change N.system.Path t.before.near _ _
        rw [← hbefore]
        refine .cons hvalid ?_
        change N.system.Path u.after _ _
        rw [hafter]
        exact ih
      · rw [hpart]
        change N.system.Path t.before.near _ _
        rw [← hsame]
        exact ih

/-- A run of the two is a run of the far service. -/
theorem Path.far (h : link.system.Path s ts s') : F.system.Path s.far (fars ts) s'.far := by
  induction h with
  | nil s => exact .nil _
  | @cons t ts s' hv _ ih =>
      unfold fars at ih ⊢
      rw [List.filterMap_cons]
      rcases Transition.Valid.far hv with ⟨v, hpart, hvalid, hbefore, hafter⟩ | ⟨hpart, hsame⟩
      · rw [hpart]
        change F.system.Path t.before.far _ _
        rw [← hbefore]
        refine .cons hvalid ?_
        change F.system.Path v.after _ _
        rw [hafter]
        exact ih
      · rw [hpart]
        change F.system.Path t.before.far _ _
        rw [← hsame]
        exact ih

/-- Each transition of the near side is one of the two. -/
theorem exists_of_nears {pre post : List N.Transition} {u : N.Transition}
    (h : nears ts = pre ++ u :: post) :
    ∃ front t back, ts = front ++ t :: back ∧ t.move.nearPart = some u ∧ nears front = pre ∧
      nears back = post := by
  obtain ⟨front, rest, rfl, hfront, hrest⟩ := List.filterMap_eq_append_iff.1 h
  obtain ⟨skipped, t, back, rfl, hskipped, hpart, hback⟩ := List.filterMap_eq_cons_iff.1 hrest
  refine ⟨front ++ skipped, t, back, by simp, hpart, ?_, hback⟩
  have hnone : nears skipped = [] := List.filterMap_eq_nil_iff.2 hskipped
  rw [nears_append, hnone, List.append_nil]
  exact hfront

/-! ## Answers that are taken -/

/-- A foreign result was answered by a thread of the far service. -/
theorem Transition.Valid.taken {t : link.Transition} (h : t.Valid) {u : N.Transition}
    (hpart : t.move.nearPart = some u) {i : Nat} {op : N.Op} {r : N.Res op}
    (hmove : u.move = .perform i op r) (hforeign : link.foreign op r) :
    ∃ thread req a, t.move = .take u thread ∧ t.before.far.Answers thread req a ∧
      link.carries op r req a ∧ t.before.opened i ≤ thread := by
  unfold Transition.Valid at h
  cases htmove : t.move with
  | far v =>
      rw [htmove] at hpart
      cases hpart
  | near u' =>
      rw [htmove] at h hpart
      cases hpart
      exact absurd hforeign (h.2.1 i op r hmove)
  | take u' thread =>
      rw [htmove] at h hpart
      cases hpart
      obtain ⟨-, ⟨j, ⟨op', r', req, a, hmove', -, hanswers, hcarries⟩, hsince⟩, -⟩ := h
      rw [hmove] at hmove'
      cases hmove'
      exact ⟨thread, req, a, rfl, hanswers, hcarries, hsince⟩

/-- No answer is taken twice. -/
theorem Path.taken_once (h : link.system.Path s ts s') {t t' : link.Transition} (ht : t ∈ ts)
    (ht' : t' ∈ ts) {u u' : N.Transition} {thread : Nat} (hmove : t.move = .take u thread)
    (hmove' : t'.move = .take u' thread) : t = t' := by
  have hkeep : ∀ v : link.Transition, v.Valid → thread ∈ v.before.taken →
      thread ∈ v.after.taken := by
    intro v hv hmem
    unfold Transition.Valid at hv
    cases hvmove : v.move <;> rw [hvmove] at hv
    · rw [hv.2.2.2]
      exact hmem
    · rw [hv.2.2.2.2]
      exact List.mem_cons_of_mem _ hmem
    · rw [hv.2.2]
      exact hmem
  have honce : ∀ v : link.Transition, v.Valid → (∃ w, v.move = .take w thread) →
      thread ∉ v.before.taken ∧ thread ∈ v.after.taken := by
    intro v hv ⟨w, hw⟩
    unfold Transition.Valid at hv
    rw [hw] at hv
    obtain ⟨-, -, hfresh, -, hafter⟩ := hv
    rw [hafter]
    exact ⟨hfresh, List.mem_cons_self ..⟩
  obtain ⟨pre, post, rfl⟩ := List.append_of_mem ht
  have hothers := h.at_most_once (Q := fun c : link.State => thread ∈ c.taken)
    (K := fun v : link.Transition => ∃ w, v.move = .take w thread) hkeep honce ⟨u, hmove⟩
  rcases List.mem_append.1 ht' with hmem | hmem
  · exact absurd ⟨u', hmove'⟩ (hothers.1 t' hmem)
  · rcases List.mem_cons.1 hmem with rfl | hmem
    · rfl
    · exact absurd ⟨u', hmove'⟩ (hothers.2 t' hmem)

/-! ## Nothing is answered in advance -/

/-- What is noted when a thread arrives stays. -/
theorem Transition.Valid.opened {t : link.Transition} (h : t.Valid) {i : Nat}
    (hi : i < t.before.near.threads.length) :
    t.after.opened i = t.before.opened i ∧ i < t.after.near.threads.length := by
  have hnote : ∀ move, t.before.note move i = t.before.opened i := by
    intro move
    cases move with
    | arrive req => exact Function.update_of_ne (Nat.ne_of_lt hi) _ _
    | _ => rfl
  have hthere : i < t.after.near.threads.length := by
    rcases Transition.Valid.near h with ⟨u, -, hvalid, hbefore, hafter⟩ | ⟨-, hsame⟩
    · rw [← hbefore] at hi
      rw [← hafter]
      obtain ⟨q, hsome, -⟩ := Service.Transition.Valid.thread hvalid (List.getElem?_eq_getElem hi)
      exact (List.getElem?_eq_some_iff.1 hsome).1
    · rw [hsame]
      exact hi
  refine ⟨?_, hthere⟩
  unfold Transition.Valid at h
  cases hmove : t.move with
  | near u =>
      rw [hmove] at h
      rw [h.2.2.2]
      exact hnote u.move
  | take u thread =>
      rw [hmove] at h
      rw [h.2.2.2.2]
      exact hnote u.move
  | far v =>
      rw [hmove] at h
      rw [h.2.2]

/-- When a thread arrives, the requests of the far service are counted. -/
theorem Transition.Valid.opens {t : link.Transition} (h : t.Valid) {u : N.Transition}
    (hpart : t.move.nearPart = some u) {req : N.Req} (hmove : u.move = .arrive req) :
    t.after.opened u.before.threads.length = t.before.far.threads.length := by
  have hnote : t.before.note u.move t.before.near.threads.length = t.before.far.threads.length := by
    unfold State.note
    rw [hmove]
    exact Function.update_self ..
  unfold Transition.Valid at h
  cases htmove : t.move with
  | near u' =>
      rw [htmove] at h hpart
      cases hpart
      rw [h.2.2.1, h.2.2.2]
      exact hnote
  | take u' thread =>
      rw [htmove] at h hpart
      cases hpart
      rw [h.2.2.2.1, h.2.2.2.2]
      exact hnote
  | far v =>
      rw [htmove] at hpart
      cases hpart

/-- What a thread of the far service has done when its answer is taken, it has done since the near
    thread arrived. -/
theorem Run.ownLog_since {s : N.State} {s' : F.State} {c : link.State}
    {front mid back : List link.Transition} {o t : link.Transition}
    (h : link.Run s s' (front ++ o :: (mid ++ t :: back)) c) {u : N.Transition}
    (hpart : o.move.nearPart = some u) {req : N.Req} (hmove : u.move = .arrive req) {thread : Nat}
    (hsince : t.before.opened u.before.threads.length ≤ thread) :
    Service.ownLog thread (fars (front ++ o :: mid)) = Service.ownLog thread (fars mid) := by
  obtain ⟨hfront, ho, hrest⟩ := h.split_at
  obtain ⟨hmid, -, -⟩ := hrest.split_at
  have harrived : u.before.threads.length < o.after.near.threads.length := by
    rcases Transition.Valid.near ho with ⟨u', hpart', hvalid, -, hafter⟩ | ⟨hnone, -⟩
    · obtain rfl : u = u' := Option.some.inj (hpart.symm.trans hpart')
      obtain ⟨-, -, hthreads⟩ := Service.Transition.Valid.arrive hvalid hmove
      rw [← hafter, hthreads, List.length_append]
      exact Nat.lt_succ_self _
    · rw [hpart] at hnone
      cases hnone
  -- What was noted at the arrival is still there.
  have hkept := hmid.invariant
    (P := fun c : link.State => c.opened u.before.threads.length = o.before.far.threads.length ∧
      u.before.threads.length < c.near.threads.length)
    (fun x _ hv hbefore => by
      obtain ⟨hsame, hlt⟩ := Transition.Valid.opened hv hbefore.2
      exact ⟨hsame.trans hbefore.1, hlt⟩)
    ⟨Transition.Valid.opens ho hpart hmove, harrived⟩
  have hopened : t.before.opened u.before.threads.length = o.before.far.threads.length :=
    hkept.1.1
  have hnew : o.before.far.threads[thread]? = none := by
    rw [List.getElem?_eq_none_iff]
    omega
  have hnothing : Service.ownLog thread (fars front) = [] :=
    Service.Run.ownLog_eq_nil (Path.far hfront) hnew
  have hskip : (fars [o] : List F.Transition) = [] := by
    unfold fars
    rw [List.filterMap_cons]
    cases hmoved : o.move with
    | far v =>
        rw [hmoved] at hpart
        cases hpart
    | _ => rfl
  have hsplit : front ++ o :: mid = front ++ ([o] ++ mid) := rfl
  rw [hsplit, fars_append, fars_append, hskip, Service.ownLog_append, hnothing]
  rfl

/-- The transition in which a thread of the near service arrived that is there now. -/
theorem Run.exists_arrival {s : N.State} {s' : F.State} {c : link.State}
    {ts : List link.Transition} (h : link.Run s s' ts c) {i : Nat}
    (hi : i < c.near.threads.length) :
    ∃ (front : List link.Transition) (o : link.Transition) (mid : List link.Transition)
      (u : N.Transition) (req : N.Req), ts = front ++ o :: mid ∧ o.move.nearPart = some u ∧
        u.move = .arrive req ∧ u.before.threads.length = i := by
  have hchange := h.kept_or_lost (P := fun c : link.State => c.near.threads.length ≤ i)
    (Nat.zero_le i)
  rcases hchange with hend | ⟨front, o, mid, rfl, hbefore, hafter⟩
  · exact absurd hi (Nat.not_lt.2 hend)
  · obtain ⟨-, hvalid, -⟩ := h.split_at
    have hmore : ¬ o.after.near.threads.length ≤ i := hafter
    have hfew : o.before.near.threads.length ≤ i := hbefore
    rcases Transition.Valid.near hvalid with ⟨u, hpart, hu, hsource, htarget⟩ | ⟨-, hsame⟩
    · rw [← hsource] at hfew
      rw [← htarget] at hmore
      refine ⟨front, o, mid, u, ?_⟩
      cases hmove : u.move with
      | arrive req =>
          obtain ⟨-, -, hthreads⟩ := Service.Transition.Valid.arrive hu hmove
          rw [hthreads, List.length_append, List.length_singleton] at hmore
          exact ⟨req, rfl, hpart, rfl, by omega⟩
      | perform j op r =>
          obtain ⟨th, next, -, -, -, hthreads⟩ := Service.Transition.Valid.perform hu hmove
          rw [hthreads, List.length_set] at hmore
          exact absurd hfew hmore
      | outside =>
          obtain ⟨-, hthreads⟩ := Service.Transition.Valid.outside hu hmove
          rw [hthreads] at hmore
          exact absurd hfew hmore
    · rw [hsame] at hmore
      exact absurd hfew hmore

/-- Whoever is answered has arrived, and the answer has been worked out since. -/
theorem Run.answered_since {s : N.State} {s' : F.State} {c : link.State}
    {pre back : List link.Transition} {t : link.Transition}
    (h : link.Run s s' (pre ++ t :: back) c) {u : N.Transition} {i : Nat} {op : N.Op}
    {r : N.Res op} (hpart : t.move.nearPart = some u) (hmove : u.move = .perform i op r)
    {thread : Nat} (hsince : t.before.opened i ≤ thread) :
    ∃ (front : List link.Transition) (o : link.Transition) (mid : List link.Transition)
      (w : N.Transition) (req : N.Req), pre = front ++ o :: mid ∧ o.move.nearPart = some w ∧
        w.move = .arrive req ∧ w.before.threads.length = i ∧
        Service.ownLog thread (fars pre) = Service.ownLog thread (fars mid) := by
  obtain ⟨hbefore, hvalid, -⟩ := h.split_at
  have hi : i < t.before.near.threads.length := by
    rcases Transition.Valid.near hvalid with ⟨u', hpart', hu, hsource, -⟩ | ⟨hnone, -⟩
    · obtain rfl : u = u' := Option.some.inj (hpart.symm.trans hpart')
      obtain ⟨th, next, hth, -⟩ := Service.Transition.Valid.perform hu hmove
      rw [← hsource]
      exact (List.getElem?_eq_some_iff.1 hth).1
    · rw [hpart] at hnone
      cases hnone
  obtain ⟨front, o, mid, w, req, rfl, hopart, harrive, rfl⟩ := Run.exists_arrival hbefore hi
  have hrun : link.Run s s' (front ++ o :: (mid ++ t :: back)) c := by
    rw [List.append_assoc] at h
    exact h
  exact ⟨front, o, mid, w, req, rfl, hopart, harrive, rfl,
    Run.ownLog_since hrun hopart harrive hsince⟩

/-! ## Putting runs together -/

variable {c c' : N.Config} {d d' : F.Config} {taken : List Nat} {opened : Nat → Nat}

/-- The far service alone. -/
theorem exists_path_of_far {vs : List F.Transition} (h : F.system.Path d vs d') :
    ∃ ts : List link.Transition,
      link.system.Path ⟨c, d, taken, opened⟩ ts ⟨c, d', taken, opened⟩ ∧
      nears ts = [] ∧ fars ts = vs := by
  induction h with
  | nil => exact ⟨[], .nil _, rfl, rfl⟩
  | @cons v vs d' hv _ ih =>
      obtain ⟨ts, hpath, hnears, hfars⟩ := ih
      let t : link.Transition :=
        ⟨⟨c, v.before, taken, opened⟩, .far v, ⟨c, v.after, taken, opened⟩⟩
      have ht : link.system.Valid t := ⟨hv, rfl, rfl⟩
      have hcons : link.system.Path (link.system.source t) (t :: ts) ⟨c, d', taken, opened⟩ :=
        .cons ht hpath
      refine ⟨t :: ts, hcons, hnears, ?_⟩
      exact congrArg (v :: ·) hfars

/-- Only the far threads that are there are noted. -/
theorem State.note_cases (s : link.State) (move : N.Move) (i : Nat) :
    s.note move i = s.opened i ∨ s.note move i = s.far.threads.length := by
  cases move with
  | arrive req =>
      by_cases hi : i = s.near.threads.length
      · rw [hi]
        exact .inr (Function.update_self ..)
      · exact .inl (Function.update_of_ne hi _ _)
  | _ => exact .inl rfl

/-- The near service alone, as long as it is given nothing foreign. -/
theorem exists_path_of_near {us : List N.Transition} (h : N.system.Path c us c')
    (hown : ∀ u ∈ us, ∀ i op r, u.move = .perform i op r → ¬ link.foreign op r) :
    ∃ (ts : List link.Transition) (opened' : Nat → Nat),
      link.system.Path ⟨c, d, taken, opened⟩ ts ⟨c', d, taken, opened'⟩ ∧
      nears ts = us ∧ fars ts = [] ∧
      ∀ i, opened' i = opened i ∨ opened' i = d.threads.length := by
  induction h generalizing opened with
  | nil => exact ⟨[], opened, .nil _, rfl, rfl, fun i => .inl rfl⟩
  | @cons u us c' hu _ ih =>
      let s : link.State := ⟨u.before, d, taken, opened⟩
      obtain ⟨ts, opened', hpath, hnears, hfars, hopened⟩ :=
        @ih (s.note u.move) fun v hv => hown v (List.mem_cons_of_mem _ hv)
      let t : link.Transition := ⟨s, .near u, ⟨u.after, d, taken, s.note u.move⟩⟩
      have ht : link.system.Valid t := ⟨hu, hown u (List.mem_cons_self ..), rfl, rfl⟩
      have hcons : link.system.Path (link.system.source t) (t :: ts) ⟨c', d, taken, opened'⟩ :=
        .cons ht hpath
      refine ⟨t :: ts, opened', hcons, congrArg (u :: ·) hnears, hfars, fun i => ?_⟩
      rcases hopened i with hsame | hnew
      · rw [hsame]
        exact State.note_cases s u.move i
      · exact .inr hnew

/-- An answer is taken. -/
theorem path_of_take {u : N.Transition} {thread i : Nat} (hu : u.Valid)
    (htakes : link.Takes d u thread i) (hfresh : thread ∉ taken) (hsince : opened i ≤ thread) :
    ∃ (t : link.Transition) (opened' : Nat → Nat), t.move = .take u thread ∧
      link.system.Path ⟨u.before, d, taken, opened⟩ [t]
        ⟨u.after, d, thread :: taken, opened'⟩ := by
  let s : link.State := ⟨u.before, d, taken, opened⟩
  let t : link.Transition :=
    ⟨s, .take u thread, ⟨u.after, d, thread :: taken, s.note u.move⟩⟩
  have ht : link.system.Valid t := ⟨hu, ⟨i, htakes, hsince⟩, hfresh, rfl, rfl⟩
  have hsingle : link.system.Path (link.system.source t) [t] (link.system.target t) := .single ht
  exact ⟨t, s.note u.move, rfl, hsingle⟩

end Link

end Interleaving
