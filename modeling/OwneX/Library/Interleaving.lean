import OwneX.Library.Async
import OwneX.Library.Trace

set_option autoImplicit false

/-! # Requests served side by side

A `Service` answers requests with programs that share a state. A request may arrive at any time and
is never waited for: its program performs one operation whenever the scheduler says so, or never
again. In between the world outside may change the shared state. A run is a path of such moves, so
what holds of every path holds of every interleaving, and of every crash.

The operations that one thread performed in a run are a log of its own program (`Path.follows`).
`play` performs a script and gives the path it takes, for runs that are to be looked at. -/

namespace Interleaving

open Prog

/-- A statement with the given outcome either is performed or fails. One that fails may have been
    performed nevertheless, its result being lost. -/
def Attempt {S α : Type} (s : S) (outcome : Except String α × S) (r : Except String α) (s' : S) :
    Prop :=
  (r, s') = outcome ∨ ∃ e, r = .error e ∧ (s' = s ∨ s' = outcome.2)

/-- What a property of the state has to survive. -/
theorem Attempt.keeps {S α : Type} {P : S → Prop} {s s' : S} {outcome : Except String α × S}
    {r : Except String α} (h : Attempt s outcome r s') (hs : P s) (hperformed : P outcome.2) :
    P s' := by
  rcases h with rfl | ⟨e, -, rfl | rfl⟩
  · exact hperformed
  · exact hs
  · exact hperformed

/-- A result other than a failure is that of the statement. -/
theorem Attempt.of_ok {S α : Type} {s s' : S} {outcome : Except String α × S} {a : α}
    (h : Attempt s outcome (.ok a) s') : outcome = (.ok a, s') := by
  rcases h with heq | ⟨e, herror, -⟩
  · exact heq.symm
  · cases herror

structure Service where
  State : Type
  Op : Type
  Res : Op → Type
  Req : Type
  Ans : Req → Type
  /-- An operation, its result and what it makes of the state. -/
  exec : State → (op : Op) → Res op → State → Prop
  /-- What may happen outside. -/
  env : State → State → Prop
  /-- Whether a request can be made in a state. -/
  admits : State → Req → Prop
  handler : (req : Req) → Prog Op Res (Ans req)

namespace Service

variable (V : Service)

structure Thread where
  request : V.Req
  rest : Prog V.Op V.Res (V.Ans request)

structure Config where
  shared : V.State
  threads : List V.Thread

inductive Move where
  | arrive (req : V.Req)
  | perform (thread : Nat) (op : V.Op) (res : V.Res op)
  | outside

structure Transition where
  before : V.Config
  move : V.Move
  after : V.Config

variable {V}

def Transition.Valid (t : V.Transition) : Prop :=
  match t.move with
  | .arrive req =>
      V.admits t.before.shared req ∧
        t.after = ⟨t.before.shared, t.before.threads ++ [⟨req, V.handler req⟩]⟩
  | .perform i op r =>
      ∃ th next, t.before.threads[i]? = some th ∧ Follows th.rest [] (.await op next) ∧
        V.exec t.before.shared op r t.after.shared ∧
        t.after.threads = t.before.threads.set i ⟨th.request, next r⟩
  | .outside => V.env t.before.shared t.after.shared ∧ t.after.threads = t.before.threads

/-! What the transitions of each kind do. -/

theorem Transition.Valid.arrive {t : V.Transition} (h : t.Valid) {req : V.Req}
    (hmove : t.move = .arrive req) :
    V.admits t.before.shared req ∧ t.after.shared = t.before.shared ∧
      t.after.threads = t.before.threads ++ [⟨req, V.handler req⟩] := by
  unfold Transition.Valid at h
  rw [hmove] at h
  obtain ⟨hadmits, hafter⟩ := h
  rw [hafter]
  exact ⟨hadmits, rfl, rfl⟩

theorem Transition.Valid.perform {t : V.Transition} (h : t.Valid) {i : Nat} {op : V.Op}
    {r : V.Res op} (hmove : t.move = .perform i op r) :
    ∃ th next, t.before.threads[i]? = some th ∧ Follows th.rest [] (.await op next) ∧
      V.exec t.before.shared op r t.after.shared ∧
      t.after.threads = t.before.threads.set i ⟨th.request, next r⟩ := by
  unfold Transition.Valid at h
  rw [hmove] at h
  exact h

theorem Transition.Valid.outside {t : V.Transition} (h : t.Valid) (hmove : t.move = .outside) :
    V.env t.before.shared t.after.shared ∧ t.after.threads = t.before.threads := by
  unfold Transition.Valid at h
  rw [hmove] at h
  exact h

variable (V) in
def system : TransitionSystem V.Config V.Transition where
  source := Transition.before
  target := Transition.after
  Valid := Transition.Valid

/-- A state in which nobody has asked for anything yet. -/
def idle (s : V.State) : V.Config := ⟨s, []⟩

variable (V) in
/-- A run that starts without any requests. -/
abbrev Run (s : V.State) (ts : List V.Transition) (c : V.Config) : Prop :=
  V.system.Path (idle s) ts c

/-- The operation a thread performs in a move. -/
def Move.entry (i : Nat) : V.Move → Option ((op : V.Op) × V.Res op)
  | .perform j op r => if j = i then some ⟨op, r⟩ else none
  | _ => none

/-- What a thread has done so far. -/
def ownLog (i : Nat) (ts : List V.Transition) : List ((op : V.Op) × V.Res op) :=
  ts.filterMap fun t => t.move.entry i

/-- The thread serves the request. -/
def Config.Serves (c : V.Config) (i : Nat) (req : V.Req) : Prop :=
  ∃ rest, c.threads[i]? = some ⟨req, rest⟩

/-- The thread has come to its answer. -/
def Config.Answers (c : V.Config) (i : Nat) (req : V.Req) (a : V.Ans req) : Prop :=
  ∃ rest, c.threads[i]? = some ⟨req, rest⟩ ∧ Returns rest [] a

/-- The thread has yet to perform an operation. -/
def Config.Awaits (c : V.Config) (i : Nat) (req : V.Req) : Prop :=
  ∃ rest op next, c.threads[i]? = some ⟨req, rest⟩ ∧ Follows rest [] (.await op next)

theorem Config.Serves.answers_or_awaits {c : V.Config} {i : Nat} {req : V.Req}
    (h : c.Serves i req) : (∃ a, c.Answers i req a) ∨ c.Awaits i req := by
  obtain ⟨rest, hrest⟩ := h
  rcases returns_or_awaits rest with ⟨a, hanswer⟩ | ⟨op, next, hawaits⟩
  · exact .inl ⟨a, rest, hrest, hanswer⟩
  · exact .inr ⟨rest, op, next, hrest, hawaits⟩

theorem entry_eq_some {i : Nat} {move : V.Move} {op : V.Op} {r : V.Res op} :
    move.entry i = some ⟨op, r⟩ ↔ move = .perform i op r := by
  cases move with
  | perform j op' r' =>
      simp only [Move.entry]
      by_cases hj : j = i
      · subst hj
        simp
      · simp [hj]
  | arrive req => simp [Move.entry]
  | outside => simp [Move.entry]

theorem ownLog_append (i : Nat) (ts us : List V.Transition) :
    ownLog i (ts ++ us) = ownLog i ts ++ ownLog i us :=
  List.filterMap_append

theorem mem_ownLog {i : Nat} {ts : List V.Transition} {op : V.Op} {r : V.Res op} :
    ⟨op, r⟩ ∈ ownLog i ts ↔ ∃ t ∈ ts, t.move = .perform i op r := by
  unfold ownLog
  rw [List.mem_filterMap]
  simp only [entry_eq_some]

/-- Each entry of a thread's log is one transition of the run. -/
theorem exists_of_ownLog {i : Nat} {ts : List V.Transition}
    (front : List ((op : V.Op) × V.Res op)) {back : List ((op : V.Op) × V.Res op)} {op : V.Op}
    {r : V.Res op}
    (h : ownLog i ts = front ++ ⟨op, r⟩ :: back) :
    ∃ pre t post, ts = pre ++ t :: post ∧ t.move = .perform i op r ∧ ownLog i pre = front ∧
      ownLog i post = back := by
  obtain ⟨pre, rest, rfl, hpre, hrest⟩ := List.filterMap_eq_append_iff.1 h
  obtain ⟨skipped, t, post, rfl, hskipped, hentry, hpost⟩ := List.filterMap_eq_cons_iff.1 hrest
  refine ⟨pre ++ skipped, t, post, by simp, entry_eq_some.1 hentry, ?_, hpost⟩
  rw [ownLog_append, ownLog, ownLog, hpre, List.filterMap_eq_nil_iff.2 hskipped, List.append_nil]

theorem ownLog_concat {i : Nat} {ts : List V.Transition} {t : V.Transition} {op : V.Op}
    {r : V.Res op} (h : t.move = .perform i op r) : ownLog i (ts ++ [t]) = ownLog i ts ++ [⟨op, r⟩] := by
  have hentry : t.move.entry i = some ⟨op, r⟩ := entry_eq_some.2 h
  rw [ownLog_append]
  simp [ownLog, hentry]

theorem ownLog_concat_of_ne {i : Nat} {ts : List V.Transition} {t : V.Transition}
    (h : ∀ op r, t.move ≠ .perform i op r) : ownLog i (ts ++ [t]) = ownLog i ts := by
  have hentry : t.move.entry i = none := by
    cases hentry : t.move.entry i with
    | none => rfl
    | some entry => exact absurd (entry_eq_some.1 hentry) (h _ _)
  rw [ownLog_append]
  simp [ownLog, hentry]

/-! ## One thread among others -/

/-- What a transition makes of a thread that is there. -/
theorem Transition.Valid.thread {t : V.Transition} (h : t.Valid) {i : Nat} {req : V.Req}
    {p : Prog V.Op V.Res (V.Ans req)} (hi : t.before.threads[i]? = some ⟨req, p⟩) :
    ∃ q, t.after.threads[i]? = some ⟨req, q⟩ ∧ Follows p (t.move.entry i).toList q := by
  have hlt : i < t.before.threads.length := (List.getElem?_eq_some_iff.1 hi).1
  cases hmove : t.move with
  | arrive req' =>
      obtain ⟨-, -, hthreads⟩ := h.arrive hmove
      refine ⟨p, ?_, .refl p⟩
      rw [hthreads, List.getElem?_append_left hlt, hi]
  | outside =>
      obtain ⟨-, hthreads⟩ := h.outside hmove
      refine ⟨p, ?_, .refl p⟩
      rw [hthreads, hi]
  | perform j op r =>
      obtain ⟨th, next, hj, hfollows, -, hthreads⟩ := h.perform hmove
      rw [hthreads]
      by_cases hne : j = i
      · subst hne
        obtain rfl : th = ⟨req, p⟩ := Option.some.inj (hj.symm.trans hi)
        refine ⟨next r, List.getElem?_set_self hlt, ?_⟩
        simp only [Move.entry, if_true, Option.toList_some]
        exact hfollows.trans (.await (.refl _))
      · refine ⟨p, ?_, ?_⟩
        · rw [List.getElem?_set_ne hne, hi]
        · simp only [Move.entry, if_neg hne, Option.toList_none]
          exact .refl p

/-- A thread that is there stays there, and its log leads from its program to what is left of it. -/
theorem thread_follows {c c' : V.Config} {ts : List V.Transition} (h : V.system.Path c ts c')
    {i : Nat} {req : V.Req} {p : Prog V.Op V.Res (V.Ans req)}
    (hi : c.threads[i]? = some ⟨req, p⟩) :
    ∃ q, c'.threads[i]? = some ⟨req, q⟩ ∧ Follows p (ownLog i ts) q := by
  induction h generalizing p with
  | nil => exact ⟨p, hi, .refl p⟩
  | @cons t ts c' hv _ ih =>
      obtain ⟨q, hq, hstep⟩ := hv.thread hi
      obtain ⟨q', hq', hrest⟩ := ih hq
      refine ⟨q', hq', ?_⟩
      have hlog : ownLog i (t :: ts) = (t.move.entry i).toList ++ ownLog i ts := by
        unfold ownLog
        rw [List.filterMap_cons]
        cases t.move.entry i <;> rfl
      rw [hlog]
      exact hstep.trans hrest

/-- A thread that is there at the end and was not there at the start has arrived in between. -/
theorem exists_arrival {c c' : V.Config} {ts : List V.Transition} (h : V.system.Path c ts c')
    {i : Nat} (hstart : c.threads[i]? = none) {th : V.Thread} (hend : c'.threads[i]? = some th) :
    ∃ pre t post, ts = pre ++ t :: post ∧ t.move = .arrive th.request ∧
      V.admits t.before.shared th.request ∧ ownLog i pre = [] ∧
      t.after.threads[i]? = some ⟨th.request, V.handler th.request⟩ := by
  induction h with
  | nil =>
      rw [hstart] at hend
      cases hend
  | @cons t ts c' hv htail ih =>
      have hstart : t.before.threads[i]? = none := hstart
      have hlen : t.before.threads.length ≤ i := List.getElem?_eq_none_iff.1 hstart
      have hentry : t.move.entry i = none := by
        cases hmove : t.move.entry i with
        | none => rfl
        | some entry =>
            obtain ⟨th', -, hi, -⟩ := hv.perform (entry_eq_some.1 hmove)
            rw [hstart] at hi
            cases hi
      by_cases hthere : t.after.threads[i]? = none
      · obtain ⟨pre, u, post, rfl, hmove, hadmits, hlog, hu⟩ := ih hthere hend
        refine ⟨t :: pre, u, post, rfl, hmove, hadmits, ?_, hu⟩
        unfold ownLog
        rw [List.filterMap_cons, hentry]
        exact hlog
      · -- The list of threads only gets longer when a request arrives.
        cases hmove : t.move with
        | outside => exact absurd ((hv.outside hmove).2 ▸ hstart) hthere
        | perform j op r =>
            obtain ⟨th', next, -, -, -, hthreads⟩ := hv.perform hmove
            refine absurd (List.getElem?_eq_none_iff.2 ?_) hthere
            rw [hthreads, List.length_set]
            exact hlen
        | arrive req =>
            obtain ⟨hadmits, -, hthreads⟩ := hv.arrive hmove
            have hnew : i = t.before.threads.length := by
              by_contra hne
              refine hthere (List.getElem?_eq_none_iff.2 ?_)
              rw [hthreads, List.length_append, List.length_singleton]
              omega
            have hlast : t.after.threads[i]? = some ⟨req, V.handler req⟩ := by
              rw [hthreads, hnew]
              simp
            obtain ⟨q, hq, -⟩ := thread_follows htail hlast
            obtain rfl : th = ⟨req, q⟩ := Option.some.inj (hend.symm.trans hq)
            exact ⟨[], t, ts, rfl, hmove, hadmits, rfl, hlast⟩

theorem Config.Serves.unique {c : V.Config} {i : Nat} {req req' : V.Req} (h : c.Serves i req)
    (h' : c.Serves i req') : req = req' := by
  obtain ⟨rest, hrest⟩ := h
  obtain ⟨rest', hrest'⟩ := h'
  have hsame := Option.some.inj (hrest.symm.trans hrest')
  cases hsame
  rfl

theorem Config.Answers.serves {c : V.Config} {i : Nat} {req : V.Req} {a : V.Ans req}
    (h : c.Answers i req a) : c.Serves i req := by
  obtain ⟨rest, hrest, -⟩ := h
  exact ⟨rest, hrest⟩

theorem Config.Serves.of_path {c c' : V.Config} {ts : List V.Transition} {i : Nat} {req : V.Req}
    (h : c.Serves i req) (hpath : V.system.Path c ts c') : c'.Serves i req := by
  obtain ⟨rest, hrest⟩ := h
  obtain ⟨q, hq, -⟩ := thread_follows hpath hrest
  exact ⟨q, hq⟩

/-- A request that is served was admitted when it arrived. -/
theorem Run.admitted {s : V.State} {ts : List V.Transition} {c : V.Config} (h : V.Run s ts c)
    {i : Nat} {req : V.Req} (hi : c.Serves i req) :
    ∃ c₀ us, V.system.Path c₀ us c ∧ V.admits c₀.shared req := by
  obtain ⟨rest, hrest⟩ := hi
  obtain ⟨pre, t, post, rfl, -, hadmits, -, -⟩ := exists_arrival h rfl hrest
  obtain ⟨-, hvalid, hpath⟩ := h.split_at
  exact ⟨t.before, t :: post, .cons hvalid hpath, hadmits⟩

/-- The log of a thread is a log of the program that serves its request. -/
theorem Run.follows {s : V.State} {ts : List V.Transition} {c : V.Config} (h : V.Run s ts c)
    {i : Nat} {req : V.Req} {p : Prog V.Op V.Res (V.Ans req)}
    (hi : c.threads[i]? = some ⟨req, p⟩) : Follows (V.handler req) (ownLog i ts) p := by
  obtain ⟨pre, t, post, rfl, hmove, -, hlog, hafter⟩ := exists_arrival h rfl hi
  obtain ⟨-, -, hrest⟩ := h.split_at
  obtain ⟨q, hq, hfollows⟩ := thread_follows hrest hafter
  have hown : ownLog i (pre ++ t :: post) = ownLog i post := by
    rw [ownLog_append, hlog]
    unfold ownLog
    rw [List.filterMap_cons, hmove]
    rfl
  rw [hown]
  obtain rfl : p = q := by
    have hsame := Option.some.inj (hi.symm.trans hq)
    cases hsame
    rfl
  exact hfollows

theorem Run.returns {s : V.State} {ts : List V.Transition} {c : V.Config} (h : V.Run s ts c)
    {i : Nat} {req : V.Req} {a : V.Ans req} (hi : c.Answers i req a) :
    Returns (V.handler req) (ownLog i ts) a := by
  obtain ⟨rest, hrest, hreturns⟩ := hi
  have htrans := (h.follows hrest).trans hreturns
  rwa [List.append_nil] at htrans

/-- What a thread has yet to do its program awaits after what the thread has done. -/
theorem Run.reaches {s : V.State} {ts : List V.Transition} {c : V.Config} (h : V.Run s ts c)
    {i : Nat} {req : V.Req} (hi : c.Awaits i req) :
    ∃ op, Reaches (V.handler req) (ownLog i ts) op := by
  obtain ⟨rest, op, next, hrest, hawaits⟩ := hi
  have htrans := (h.follows hrest).trans hawaits
  rw [List.append_nil] at htrans
  exact ⟨op, next, htrans⟩

/-- An operation that is performed is one that the program of some request awaits next, after what
    its thread has done before. -/
theorem Run.awaited {s : V.State} {pre post : List V.Transition} {t : V.Transition} {c : V.Config}
    (h : V.Run s (pre ++ t :: post) c) {i : Nat} {op : V.Op} {r : V.Res op}
    (hmove : t.move = .perform i op r) :
    ∃ req, t.before.Serves i req ∧ Reaches (V.handler req) (ownLog i pre) op := by
  obtain ⟨hbefore, hvalid, -⟩ := h.split_at
  obtain ⟨⟨req, p⟩, next, hi, hfollows, -⟩ := hvalid.perform hmove
  have htrans := (Run.follows hbefore hi).trans hfollows
  rw [List.append_nil] at htrans
  exact ⟨req, ⟨p, hi⟩, next, htrans⟩

/-- A thread that has performed anything serves a request. -/
theorem Run.serves {s : V.State} {ts : List V.Transition} {c : V.Config} (h : V.Run s ts c)
    {i : Nat} {op : V.Op} {r : V.Res op} (hperformed : ⟨op, r⟩ ∈ ownLog i ts) :
    ∃ req, c.Serves i req := by
  obtain ⟨t, ht, hmove⟩ := mem_ownLog.1 hperformed
  obtain ⟨pre, post, rfl⟩ := List.append_of_mem ht
  obtain ⟨req, hserves, -⟩ := h.awaited hmove
  obtain ⟨-, hvalid, hpath⟩ := h.split_at
  exact ⟨req, hserves.of_path (.cons hvalid hpath)⟩

/-- A thread that is not there yet has done nothing. -/
theorem Run.ownLog_eq_nil {s : V.State} {ts : List V.Transition} {c : V.Config} (h : V.Run s ts c)
    {i : Nat} (hnew : c.threads[i]? = none) : ownLog i ts = [] := by
  refine List.eq_nil_iff_forall_not_mem.2 fun entry hentry => ?_
  obtain ⟨req, rest, hrest⟩ := Run.serves h hentry
  rw [hnew] at hrest
  cases hrest

/-- The operations a thread performs are those its program can come to await. -/
theorem Run.only {P : V.Req → V.Op → Prop} (hP : ∀ req, Only (P req) (V.handler req)) {s : V.State}
    {ts : List V.Transition} {c : V.Config} (h : V.Run s ts c) {t : V.Transition} (ht : t ∈ ts)
    {i : Nat} {op : V.Op} {r : V.Res op} (hmove : t.move = .perform i op r) :
    ∃ req, t.before.Serves i req ∧ P req op := by
  obtain ⟨pre, post, rfl⟩ := List.append_of_mem ht
  obtain ⟨req, hserves, hreaches⟩ := h.awaited hmove
  exact ⟨req, hserves, (hP req).reached hreaches⟩

/-! ## The shared state -/

/-- The shared state changes by operations and from outside only. -/
theorem Transition.Valid.shared {t : V.Transition} (h : t.Valid) :
    t.after.shared = t.before.shared ∨
      (∃ i op r, t.move = .perform i op r ∧ V.exec t.before.shared op r t.after.shared) ∨
      V.env t.before.shared t.after.shared := by
  cases hmove : t.move with
  | arrive req => exact .inl (h.arrive hmove).2.1
  | perform i op r =>
      obtain ⟨-, -, -, -, hexec, -⟩ := h.perform hmove
      exact .inr (.inl ⟨i, op, r, rfl, hexec⟩)
  | outside => exact .inr (.inr (h.outside hmove).1)

/-- A property of the shared state that every operation and every change from outside keeps. -/
theorem Transition.Valid.keeps {P : V.State → Prop} {t : V.Transition} (h : t.Valid)
    (hexec : ∀ {s op r s'}, V.exec s op r s' → P s → P s')
    (henv : ∀ {s s'}, V.env s s' → P s → P s') (hbefore : P t.before.shared) :
    P t.after.shared := by
  rcases h.shared with heq | ⟨i, op, r, -, hstep⟩ | hstep
  · exact heq ▸ hbefore
  · exact hexec hstep hbefore
  · exact henv hstep hbefore

/-- An operation that can only have its result where `Q` does not hold, and makes it hold for good,
    has it once. -/
theorem Run.performed_once {Q : V.State → Prop} {K : (op : V.Op) → V.Res op → Prop}
    (hexec : ∀ {s op r s'}, V.exec s op r s' → Q s → Q s')
    (henv : ∀ {s s'}, V.env s s' → Q s → Q s')
    (honce : ∀ {s op r s'}, V.exec s op r s' → K op r → ¬ Q s ∧ Q s') {s : V.State}
    {ts : List V.Transition} {c : V.Config} (h : V.Run s ts c) {t u : V.Transition} (ht : t ∈ ts)
    (hu : u ∈ ts) {i j : Nat} {op op' : V.Op} {r : V.Res op} {r' : V.Res op'}
    (hi : t.move = .perform i op r) (hr : K op r) (hj : u.move = .perform j op' r')
    (hr' : K op' r') : t = u := by
  obtain ⟨pre, post, rfl⟩ := List.append_of_mem ht
  have hothers := h.at_most_once (Q := fun c : V.Config => Q c.shared)
    (K := fun t : V.Transition => ∃ k op r, t.move = .perform k op r ∧ K op r)
    (fun t hv hq => Transition.Valid.keeps hv hexec henv hq)
    (fun t hv => by
      rintro ⟨k, op, r, hmove, hr⟩
      obtain ⟨-, -, -, -, hstep, -⟩ := Transition.Valid.perform hv hmove
      exact honce hstep hr)
    ⟨i, op, r, hi, hr⟩
  rcases List.mem_append.1 hu with hmem | hmem
  · exact absurd ⟨j, op', r', hj, hr'⟩ (hothers.1 u hmem)
  · rcases List.mem_cons.1 hmem with rfl | hmem
    · rfl
    · exact absurd ⟨j, op', r', hj, hr'⟩ (hothers.2 u hmem)

/-! ## Scripted runs -/

variable (V) in
/-- Somebody who decides what operations result in and what happens outside. -/
structure Player where
  Choice : Type
  Event : Type
  perform : V.State → (op : V.Op) → Choice → Option (V.Res op × V.State)
  outside : V.State → Event → Option V.State
  admits : V.State → V.Req → Bool
  perform_sound : ∀ {s op choice r s'}, perform s op choice = some (r, s') → V.exec s op r s'
  outside_sound : ∀ {s event s'}, outside s event = some s' → V.env s s'
  admits_sound : ∀ {s req}, admits s req = true → V.admits s req

namespace Player

variable (player : V.Player)

inductive Cue where
  | arrive (req : V.Req)
  | perform (thread : Nat) (choice : player.Choice)
  | outside (event : player.Event)

/-- What one cue does, if it can be followed. -/
def move (c : V.Config) : player.Cue → Option V.Transition
  | .arrive req =>
      if player.admits c.shared req then
        some ⟨c, .arrive req, c.shared, c.threads ++ [⟨req, V.handler req⟩]⟩
      else none
  | .perform i choice =>
      match c.threads[i]? with
      | none => none
      | some th =>
          match th.rest.next? with
          | none => none
          | some ⟨op, next⟩ =>
              match player.perform c.shared op choice with
              | none => none
              | some (r, s) =>
                  some ⟨c, .perform i op r, s, c.threads.set i ⟨th.request, next r⟩⟩
  | .outside event =>
      match player.outside c.shared event with
      | none => none
      | some s => some ⟨c, .outside, s, c.threads⟩

/-- The transitions of a script, and where it ends. -/
def play (c : V.Config) : List player.Cue → Option (List V.Transition × V.Config)
  | [] => some ([], c)
  | cue :: cues =>
      match player.move c cue with
      | none => none
      | some t => (play t.after cues).map fun (ts, c') => (t :: ts, c')

variable {player}

theorem move_valid {c : V.Config} {cue : player.Cue} {t : V.Transition}
    (h : player.move c cue = some t) : t.before = c ∧ t.Valid := by
  cases cue with
  | arrive req =>
      simp only [move] at h
      split at h
      next hadmits =>
          cases h
          exact ⟨rfl, player.admits_sound hadmits, rfl⟩
      · cases h
  | perform i choice =>
      simp only [move] at h
      split at h
      · cases h
      next th hi =>
          split at h
          · cases h
          next op next hnext =>
              split at h
              · cases h
              next r s hperform =>
                  cases h
                  exact ⟨rfl, th, next, hi, follows_of_next? hnext, player.perform_sound hperform,
                    rfl⟩
  | outside event =>
      simp only [move] at h
      split at h
      · cases h
      next s hevent =>
          cases h
          exact ⟨rfl, player.outside_sound hevent, rfl⟩

/-- A script is followed one cue after the other. -/
theorem play_cons {c c' : V.Config} {cue : player.Cue} {cues : List player.Cue}
    {ts : List V.Transition} (h : player.play c (cue :: cues) = some (ts, c')) :
    ∃ t us, player.move c cue = some t ∧ player.play t.after cues = some (us, c') ∧
      ts = t :: us := by
  rw [play] at h
  cases hmove : player.move c cue with
  | none =>
      rw [hmove] at h
      cases h
  | some t =>
      rw [hmove] at h
      obtain ⟨⟨us, c''⟩, hplay, heq⟩ := Option.map_eq_some_iff.1 h
      cases heq
      exact ⟨t, us, rfl, hplay, rfl⟩

/-- Every transition of a script follows one of its cues. -/
theorem move_of_play {c c' : V.Config} {cues : List player.Cue} {ts : List V.Transition}
    (h : player.play c cues = some (ts, c')) :
    ∀ t ∈ ts, ∃ cue, player.move t.before cue = some t := by
  induction cues generalizing c ts with
  | nil =>
      cases h
      simp
  | cons cue cues ih =>
      obtain ⟨t, us, hmove, hplay, rfl⟩ := play_cons h
      obtain ⟨rfl, -⟩ := move_valid hmove
      intro u hu
      rcases List.mem_cons.1 hu with rfl | hu
      · exact ⟨cue, hmove⟩
      · exact ih hplay u hu

/-- What the player decides is what the operations result in. -/
theorem perform_of_move {c : V.Config} {cue : player.Cue} {t : V.Transition}
    (h : player.move c cue = some t) {i : Nat} {op : V.Op} {r : V.Res op}
    (hmove : t.move = .perform i op r) :
    ∃ choice, player.perform c.shared op choice = some (r, t.after.shared) := by
  cases cue with
  | arrive req =>
      simp only [move] at h
      split at h
      · cases h
        cases hmove
      · cases h
  | outside event =>
      simp only [move] at h
      split at h
      · cases h
      · cases h
        cases hmove
  | perform j choice =>
      simp only [move] at h
      split at h
      · cases h
      split at h
      · cases h
      split at h
      · cases h
      next hperform =>
          cases h
          cases hmove
          exact ⟨choice, hperform⟩

/-- A script that can be followed is a path. -/
theorem play_path {c c' : V.Config} {cues : List player.Cue} {ts : List V.Transition}
    (h : player.play c cues = some (ts, c')) : V.system.Path c ts c' := by
  induction cues generalizing c ts with
  | nil =>
      cases h
      exact .nil _
  | cons cue cues ih =>
      obtain ⟨t, us, hmove, hplay, rfl⟩ := play_cons h
      obtain ⟨rfl, hvalid⟩ := move_valid hmove
      exact .cons hvalid (ih hplay)

end Player

/-- The answer of a thread, if it has come to one. -/
def Config.answer? (c : V.Config) (i : Nat) : Option ((req : V.Req) × V.Ans req) :=
  match c.threads[i]? with
  | none => none
  | some th => th.rest.answer?.map fun a => ⟨th.request, a⟩

theorem Config.answers_of_answer? {c : V.Config} {i : Nat} {req : V.Req} {a : V.Ans req}
    (h : c.answer? i = some ⟨req, a⟩) : c.Answers i req a := by
  unfold Config.answer? at h
  split at h
  · cases h
  next th hi =>
      obtain ⟨a', hanswer, heq⟩ := Option.map_eq_some_iff.1 h
      cases heq
      exact ⟨th.rest, hi, returns_of_answer? hanswer⟩

end Service

end Interleaving
