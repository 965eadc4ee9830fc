import Mathlib.Data.List.Basic

set_option autoImplicit false

/-! # Asynchronous programs

An `async` function runs without interruption between two `await`s and may be suspended, for any
time, at each of them. `Prog Op Res α` is such a function: it is finished, or it awaits an operation
of the outside world and goes on with its result, or it leaves a choice to the scheduler. The last
is what `Promise.all` needs: `both p q` runs two programs side by side, in every order the scheduler
may pick.

`Returns p log a` says that `p` can finish with `a` after the operations of `log`, with the results
recorded there. The rules `returns_bind`, `returns_call` and `returns_both` read the operations of
a program off its text. -/

/-- A monad in which two computations can be awaited together, as by `Promise.all`. -/
class Async (m : Type → Type) extends Monad m where
  both {α β : Type} : m α → m β → m (α × β)

/-- Without suspension, together is one after the other. -/
instance : Async Id where
  both p q := (p, q)

/-- Both computations run; the first failure is the failure of the two. -/
instance {ε : Type} {m : Type → Type} [Async m] : Async (ExceptT ε m) where
  both p q := ExceptT.mk do
    let (a, b) ← Async.both p.run q.run
    return do
      let a ← a
      let b ← b
      return (a, b)

inductive Prog (Op : Type) (Res : Op → Type) (α : Type) where
  | done (a : α)
  | await (op : Op) (next : Res op → Prog Op Res α)
  | fork (next : Bool → Prog Op Res α)

namespace Prog

variable {Op : Type} {Res : Op → Type} {α β : Type}

def bind : Prog Op Res α → (α → Prog Op Res β) → Prog Op Res β
  | done a, f => f a
  | await op next, f => .await op fun r => (next r).bind f
  | fork next, f => .fork fun b => (next b).bind f

/-- Await one operation. -/
def call (op : Op) : Prog Op Res (Res op) :=
  .await op .done

/-- A program that awaits `op` beside another one: `whenFirst` is how the two go on when `op` is
    the first of them to be answered. -/
def besides (op : Op) (next : Res op → Prog Op Res α)
    (whenFirst : Res op → Prog Op Res β → Prog Op Res (α × β)) :
    Prog Op Res β → Prog Op Res (α × β)
  | done b => .await op fun r => (next r).bind fun a => .done (a, b)
  | fork next' => .fork fun b => besides op next whenFirst (next' b)
  | await op' next' => .fork fun first =>
      if first then .await op fun r => whenFirst r (.await op' next')
      else .await op' fun r => besides op next whenFirst (next' r)

/-- Two programs side by side. -/
def both : Prog Op Res α → Prog Op Res β → Prog Op Res (α × β)
  | done a => fun q => q.bind fun b => .done (a, b)
  | fork next => fun q => .fork fun b => (next b).both q
  | await op next => besides op next fun r q => (next r).both q

instance : Async (Prog Op Res) where
  pure := done
  bind := bind
  both := both

/-! ## What a program does -/

/-- `p` becomes `q` by the operations of `log`. -/
inductive Follows : Prog Op Res α → List ((op : Op) × Res op) → Prog Op Res α → Prop where
  | refl (p : Prog Op Res α) : Follows p [] p
  | await {op : Op} {next : Res op → Prog Op Res α} {r : Res op} {log : List ((op : Op) × Res op)}
      {q : Prog Op Res α} :
      Follows (next r) log q → Follows (.await op next) (⟨op, r⟩ :: log) q
  | fork {next : Bool → Prog Op Res α} (b : Bool) {log : List ((op : Op) × Res op)}
      {q : Prog Op Res α} : Follows (next b) log q → Follows (.fork next) log q

/-- `p` can finish with `a` by the operations of `log`. -/
def Returns (p : Prog Op Res α) (log : List ((op : Op) × Res op)) (a : α) : Prop :=
  Follows p log (.done a)

theorem Follows.trans {p q q' : Prog Op Res α} {log log' : List ((op : Op) × Res op)}
    (h : Follows p log q) (h' : Follows q log' q') : Follows p (log ++ log') q' := by
  induction h with
  | refl => exact h'
  | await _ ih => exact .await (ih h')
  | fork b _ ih => exact .fork b (ih h')

@[simp] theorem returns_done {a a' : α} {log : List ((op : Op) × Res op)} :
    Returns (.done a) log a' ↔ log = [] ∧ a = a' := by
  constructor
  · intro h
    cases h with
    | refl => exact ⟨rfl, rfl⟩
  · rintro ⟨rfl, rfl⟩
    exact .refl _

@[simp] theorem returns_pure {a a' : α} {log : List ((op : Op) × Res op)} :
    Returns (pure a : Prog Op Res α) log a' ↔ log = [] ∧ a = a' :=
  returns_done

theorem returns_await {op : Op} {next : Res op → Prog Op Res α} {a : α}
    {log : List ((op : Op) × Res op)} :
    Returns (.await op next) log a ↔ ∃ r rest, log = ⟨op, r⟩ :: rest ∧ Returns (next r) rest a := by
  constructor
  · intro h
    cases h with
    | await h => exact ⟨_, _, rfl, h⟩
  · rintro ⟨r, rest, rfl, h⟩
    exact .await h

theorem returns_fork {next : Bool → Prog Op Res α} {a : α} {log : List ((op : Op) × Res op)} :
    Returns (.fork next) log a ↔ ∃ b, Returns (next b) log a := by
  constructor
  · intro h
    cases h with
    | fork b h => exact ⟨b, h⟩
  · rintro ⟨b, h⟩
    exact .fork b h

@[simp] theorem returns_call {op : Op} {r : Res op} {log : List ((op : Op) × Res op)} :
    Returns (call op) log r ↔ log = [⟨op, r⟩] := by
  unfold call
  rw [returns_await]
  constructor
  · rintro ⟨r', rest, rfl, h⟩
    obtain ⟨rfl, rfl⟩ := returns_done.1 h
    rfl
  · rintro rfl
    exact ⟨r, [], rfl, returns_done.2 ⟨rfl, rfl⟩⟩

theorem returns_bind' {p : Prog Op Res α} {f : α → Prog Op Res β} {b : β}
    {log : List ((op : Op) × Res op)} :
    Returns (p.bind f) log b ↔
      ∃ a front back, log = front ++ back ∧ Returns p front a ∧ Returns (f a) back b := by
  induction p generalizing log with
  | done a =>
      constructor
      · intro h
        exact ⟨a, [], log, rfl, returns_done.2 ⟨rfl, rfl⟩, h⟩
      · rintro ⟨a', front, back, rfl, hp, hf⟩
        obtain ⟨rfl, rfl⟩ := returns_done.1 hp
        exact hf
  | await op next ih =>
      rw [bind, returns_await]
      constructor
      · rintro ⟨r, rest, rfl, h⟩
        obtain ⟨a, front, back, rfl, hp, hf⟩ := (ih r).1 h
        exact ⟨a, ⟨op, r⟩ :: front, back, rfl, .await hp, hf⟩
      · rintro ⟨a, front, back, rfl, hp, hf⟩
        obtain ⟨r, rest, rfl, hrest⟩ := returns_await.1 hp
        exact ⟨r, rest ++ back, rfl, (ih r).2 ⟨a, rest, back, rfl, hrest, hf⟩⟩
  | fork next ih =>
      rw [bind, returns_fork]
      constructor
      · rintro ⟨b', h⟩
        obtain ⟨a, front, back, rfl, hp, hf⟩ := (ih b').1 h
        exact ⟨a, front, back, rfl, .fork b' hp, hf⟩
      · rintro ⟨a, front, back, rfl, hp, hf⟩
        obtain ⟨b', h⟩ := returns_fork.1 hp
        exact ⟨b', (ih b').2 ⟨a, front, back, rfl, h, hf⟩⟩

/-- A sequence of two programs does what the first does and then what the second does. -/
theorem returns_bind {p : Prog Op Res α} {f : α → Prog Op Res β} {b : β}
    {log : List ((op : Op) × Res op)} :
    Returns (p >>= f) log b ↔
      ∃ a front back, log = front ++ back ∧ Returns p front a ∧ Returns (f a) back b :=
  returns_bind'

/-! ## Running a program by hand -/

/-- The operation the program awaits, when every choice left to the scheduler is `true`. -/
def next? : Prog Op Res α → Option ((op : Op) × (Res op → Prog Op Res α))
  | done _ => none
  | await op next => some ⟨op, next⟩
  | fork next => next? (next true)

/-- What the program has come to, with the same choices. -/
def answer? : Prog Op Res α → Option α
  | done a => some a
  | await _ _ => none
  | fork next => answer? (next true)

theorem follows_of_next? {p : Prog Op Res α} {op : Op} {next : Res op → Prog Op Res α}
    (h : p.next? = some ⟨op, next⟩) : Follows p [] (.await op next) := by
  induction p with
  | done a => cases h
  | await op' next' ih =>
      cases h
      exact .refl _
  | fork next' ih => exact .fork true (ih true h)

theorem returns_of_answer? {p : Prog Op Res α} {a : α} (h : p.answer? = some a) :
    Returns p [] a := by
  induction p with
  | done a' =>
      cases h
      exact .refl _
  | await op next ih => cases h
  | fork next ih => exact .fork true (ih true h)

/-- A program has come to its answer, or it awaits something. -/
theorem returns_or_awaits (p : Prog Op Res α) :
    (∃ a, Returns p [] a) ∨ ∃ op next, Follows p [] (.await op next) := by
  induction p with
  | done a => exact .inl ⟨a, .refl _⟩
  | await op next ih => exact .inr ⟨op, next, .refl _⟩
  | fork next ih =>
      rcases ih true with ⟨a, h⟩ | ⟨op, next', h⟩
      · exact .inl ⟨a, .fork true h⟩
      · exact .inr ⟨op, next', .fork true h⟩

/-! ## Running a program alone -/

/-- The program, with nobody else around: `answer` is what each operation results in and what it
    makes of the state. -/
def alone {S : Type} (answer : S → (op : Op) → Res op × S) : Prog Op Res α → S → α × S
  | done a, s => (a, s)
  | await op next, s => alone answer (next (answer s op).1) (answer s op).2
  | fork next, s => alone answer (next true) s

theorem alone_bind {S : Type} (answer : S → (op : Op) → Res op × S) (p : Prog Op Res α)
    (f : α → Prog Op Res β) (s : S) :
    alone answer (p >>= f) s = alone answer (f (alone answer p s).1) (alone answer p s).2 := by
  change alone answer (p.bind f) s = _
  induction p generalizing s with
  | done a => rfl
  | await op next ih => exact ih _ _
  | fork next ih => exact ih true s

/-! ## Which operations a program awaits -/

/-- Every operation that the program can come to await satisfies `P`. -/
inductive Only (P : Op → Prop) : Prog Op Res α → Prop where
  | done (a : α) : Only P (.done a)
  | await {op : Op} {next : Res op → Prog Op Res α} :
      P op → (∀ r, Only P (next r)) → Only P (.await op next)
  | fork {next : Bool → Prog Op Res α} : (∀ b, Only P (next b)) → Only P (.fork next)

variable {P : Op → Prop}

theorem only_call {op : Op} (h : P op) : Only P (call op : Prog Op Res (Res op)) :=
  .await h fun r => .done r

theorem only_bind {p : Prog Op Res α} {f : α → Prog Op Res β} (hp : Only P p)
    (hf : ∀ a, Only P (f a)) : Only P (p >>= f) := by
  change Only P (p.bind f)
  induction hp with
  | done a => exact hf a
  | await hop _ ih => exact .await hop ih
  | fork _ ih => exact .fork ih

theorem Only.mono {Q : Op → Prop} {p : Prog Op Res α} (h : Only P p) (hPQ : ∀ op, P op → Q op) :
    Only Q p := by
  induction h with
  | done a => exact .done a
  | await hop _ ih => exact .await (hPQ _ hop) ih
  | fork _ ih => exact .fork ih

theorem only_true (p : Prog Op Res α) : Only (fun _ => True) p := by
  induction p with
  | done a => exact .done a
  | await op next ih => exact .await trivial ih
  | fork next ih => exact .fork ih

/-- Side by side two programs await what each of them awaits. -/
theorem only_both {p : Prog Op Res α} {q : Prog Op Res β} (hp : Only P p) (hq : Only P q) :
    Only P (Async.both p q) := by
  change Only P (p.both q)
  induction hp generalizing q with
  | done a =>
      rw [both]
      exact only_bind hq fun b => .done _
  | fork _ ih =>
      rw [both]
      exact .fork fun b => ih b hq
  | @await op next hop hnext ih =>
      rw [both]
      induction hq with
      | done b =>
          rw [besides]
          exact .await hop fun r => only_bind (hnext r) fun a => .done _
      | fork _ ih' =>
          rw [besides]
          exact .fork ih'
      | @await op' next' hop' hnext' ih' =>
          rw [besides]
          refine .fork fun first => ?_
          cases first with
          | true => exact .await hop fun r => ih r (.await hop' hnext')
          | false => exact .await hop' ih'

theorem Only.of_follows {p q : Prog Op Res α} {log : List ((op : Op) × Res op)} (h : Only P p)
    (hfollows : Follows p log q) : Only P q := by
  induction hfollows with
  | refl => exact h
  | await _ ih =>
      cases h with
      | await _ hnext => exact ih (hnext _)
  | fork b _ ih =>
      cases h with
      | fork hnext => exact ih (hnext b)

/-- What a program has awaited. -/
theorem Only.of_mem {p q : Prog Op Res α} {log : List ((op : Op) × Res op)} (h : Only P p)
    (hfollows : Follows p log q) {e : (op : Op) × Res op} (he : e ∈ log) : P e.1 := by
  induction hfollows with
  | refl => cases he
  | await _ ih =>
      cases h with
      | await hop hnext =>
          rcases List.mem_cons.1 he with rfl | he
          · exact hop
          · exact ih (hnext _) he
  | fork b _ ih =>
      cases h with
      | fork hnext => exact ih (hnext b) he

/-- An operation that the program comes to await. -/
theorem Only.awaited {p : Prog Op Res α} {log : List ((op : Op) × Res op)} {op : Op}
    {next : Res op → Prog Op Res α} (h : Only P p) (hfollows : Follows p log (.await op next)) :
    P op := by
  cases h.of_follows hfollows with
  | await hop _ => exact hop

/-- After the operations of `log` the program can come to await `op`. -/
def Reaches (p : Prog Op Res α) (log : List ((op : Op) × Res op)) (op : Op) : Prop :=
  ∃ next, Follows p log (.await op next)

theorem Only.reached {p : Prog Op Res α} {log : List ((op : Op) × Res op)} {op : Op}
    (h : Only P p) (hreaches : Reaches p log op) : P op := by
  obtain ⟨next, hfollows⟩ := hreaches
  exact h.awaited hfollows

/-- So many operations of a program that result in the given values, and what is left of it. -/
def rehearse (answer : (op : Op) → Res op) :
    Nat → Prog Op Res α → List ((op : Op) × Res op) × Prog Op Res α
  | 0, p => ([], p)
  | n + 1, p =>
      match p.next? with
      | none => ([], p)
      | some ⟨op, next⟩ =>
          let (log, q) := rehearse answer n (next (answer op))
          (⟨op, answer op⟩ :: log, q)

theorem follows_rehearse (answer : (op : Op) → Res op) (n : Nat) (p : Prog Op Res α) :
    Follows p (rehearse answer n p).1 (rehearse answer n p).2 := by
  induction n generalizing p with
  | zero => exact .refl p
  | succ n ih =>
      unfold rehearse
      split
      · exact .refl p
      next op next hnext => exact (follows_of_next? hnext).trans (.await (ih _))

theorem reaches_rehearse {answer : (op : Op) → Res op} {n : Nat} {p : Prog Op Res α} {op : Op}
    (h : (rehearse answer n p).2.next?.map (·.1) = some op) :
    Reaches p (rehearse answer n p).1 op := by
  obtain ⟨⟨op', next⟩, hnext, rfl⟩ := Option.map_eq_some_iff.1 h
  have hfollows := (follows_rehearse answer n p).trans (follows_of_next? hnext)
  rw [List.append_nil] at hfollows
  exact ⟨next, hfollows⟩

theorem reaches_done {a : α} {log : List ((op : Op) × Res op)} {op : Op} :
    ¬ Reaches (.done a : Prog Op Res α) log op := by
  rintro ⟨next, h⟩
  cases h

theorem reaches_await {op op' : Op} {next : Res op → Prog Op Res α}
    {log : List ((op : Op) × Res op)} :
    Reaches (.await op next) log op' ↔
      (log = [] ∧ op' = op) ∨ ∃ r rest, log = ⟨op, r⟩ :: rest ∧ Reaches (next r) rest op' := by
  constructor
  · rintro ⟨next', h⟩
    cases h with
    | refl => exact .inl ⟨rfl, rfl⟩
    | await h => exact .inr ⟨_, _, rfl, next', h⟩
  · rintro (⟨rfl, rfl⟩ | ⟨r, rest, rfl, next', h⟩)
    · exact ⟨next, .refl _⟩
    · exact ⟨next', .await h⟩

theorem reaches_fork {next : Bool → Prog Op Res α} {op : Op} {log : List ((op : Op) × Res op)} :
    Reaches (.fork next) log op ↔ ∃ b, Reaches (next b) log op := by
  constructor
  · rintro ⟨next', h⟩
    cases h with
    | fork b h => exact ⟨b, next', h⟩
  · rintro ⟨b, next', h⟩
    exact ⟨next', .fork b h⟩

theorem reaches_call {op op' : Op} {log : List ((op : Op) × Res op)} :
    Reaches (call op : Prog Op Res (Res op)) log op' ↔ log = [] ∧ op' = op := by
  unfold call
  rw [reaches_await]
  constructor
  · rintro (h | ⟨r, rest, -, h⟩)
    · exact h
    · exact absurd h reaches_done
  · exact .inl

/-- A sequence of two programs awaits what the first awaits, and then what the second does. -/
theorem reaches_bind {p : Prog Op Res α} {f : α → Prog Op Res β} {op : Op}
    {log : List ((op : Op) × Res op)} :
    Reaches (p >>= f) log op ↔
      Reaches p log op ∨
        ∃ a front back, log = front ++ back ∧ Returns p front a ∧ Reaches (f a) back op := by
  change Reaches (p.bind f) log op ↔ _
  induction p generalizing log with
  | done a =>
      constructor
      · intro h
        exact .inr ⟨a, [], log, rfl, returns_done.2 ⟨rfl, rfl⟩, h⟩
      · rintro (h | ⟨a', front, back, rfl, hp, h⟩)
        · exact absurd h reaches_done
        · obtain ⟨rfl, rfl⟩ := returns_done.1 hp
          exact h
  | await op' next ih =>
      rw [bind, reaches_await, reaches_await]
      constructor
      · rintro (h | ⟨r, rest, rfl, h⟩)
        · exact .inl (.inl h)
        · rcases (ih r).1 h with h | ⟨a, front, back, rfl, hp, h⟩
          · exact .inl (.inr ⟨r, rest, rfl, h⟩)
          · exact .inr ⟨a, ⟨op', r⟩ :: front, back, rfl, .await hp, h⟩
      · rintro ((h | ⟨r, rest, rfl, h⟩) | ⟨a, front, back, rfl, hp, h⟩)
        · exact .inl h
        · exact .inr ⟨r, rest, rfl, (ih r).2 (.inl h)⟩
        · obtain ⟨r, rest, rfl, hrest⟩ := returns_await.1 hp
          exact .inr ⟨r, rest ++ back, rfl, (ih r).2 (.inr ⟨a, rest, back, rfl, hrest, h⟩)⟩
  | fork next ih =>
      rw [bind, reaches_fork, reaches_fork]
      constructor
      · rintro ⟨b, h⟩
        rcases (ih b).1 h with h | ⟨a, front, back, rfl, hp, h⟩
        · exact .inl ⟨b, h⟩
        · exact .inr ⟨a, front, back, rfl, .fork b hp, h⟩
      · rintro (⟨b, h⟩ | ⟨a, front, back, rfl, hp, h⟩)
        · exact ⟨b, (ih b).2 (.inl h)⟩
        · obtain ⟨b, hb⟩ := returns_fork.1 hp
          exact ⟨b, (ih b).2 (.inr ⟨a, front, back, rfl, hb, h⟩)⟩

/-- A program whose first part never awaits `op` awaits it in the second. -/
theorem Reaches.after {P : Op → Prop} {p : Prog Op Res α} {f : α → Prog Op Res β} {op : Op}
    {log : List ((op : Op) × Res op)} (h : Reaches (p >>= f) log op) (hp : Only P p)
    (hop : ¬ P op) :
    ∃ a front back, log = front ++ back ∧ Returns p front a ∧ Reaches (f a) back op := by
  rcases reaches_bind.1 h with hfirst | hsecond
  · exact absurd (hp.reached hfirst) hop
  · exact hsecond

/-! ## Programs over more operations -/

section Embed

variable {Op' : Type} {Res' : Op' → Type} (f : Op → Op') (g : (op : Op) → Res' (f op) → Res op)

/-- The program over operations of which its own are some. -/
def embed : Prog Op Res α → Prog Op' Res' α
  | done a => .done a
  | await op next => .await (f op) fun r => embed (next (g op r))
  | fork next => .fork fun b => embed (next b)

variable {f g}

theorem only_embed {p : Prog Op Res α} {P : Op → Prop} {P' : Op' → Prop} (h : Only P p)
    (hP : ∀ op, P op → P' (f op)) : Only P' (p.embed f g) := by
  induction h with
  | done a => exact .done a
  | await hop _ ih => exact .await (hP _ hop) fun r => ih _
  | fork _ ih => exact .fork ih

/-- What it returns, the program itself can return. -/
theorem returns_of_embed {p : Prog Op Res α} {log : List ((op : Op') × Res' op)} {a : α}
    (h : Returns (p.embed f g) log a) : ∃ log' : List ((op : Op) × Res op), Returns p log' a := by
  induction p generalizing log with
  | done b =>
      obtain ⟨-, rfl⟩ := returns_done.1 h
      exact ⟨[], .refl _⟩
  | await op next ih =>
      obtain ⟨r, rest, -, hnext⟩ := returns_await.1 h
      obtain ⟨log', hlog⟩ := ih _ hnext
      exact ⟨⟨op, g op r⟩ :: log', .await hlog⟩
  | fork next ih =>
      obtain ⟨b, hnext⟩ := returns_fork.1 h
      obtain ⟨log', hlog⟩ := ih b hnext
      exact ⟨log', .fork b hlog⟩

end Embed

@[simp] theorem alone_call {S : Type} (answer : S → (op : Op) → Res op × S) (op : Op) (s : S) :
    alone answer (call op) s = answer s op := rfl

/-- Alone, the program over more operations does what the program does, where the answers agree. -/
theorem alone_embed {Op' : Type} {Res' : Op' → Type} {f : Op → Op'}
    {g : (op : Op) → Res' (f op) → Res op} {S S' : Type} {answer : S → (op : Op) → Res op × S}
    {answer' : S' → (op : Op') → Res' op × S'} (get : S' → S) (put : S' → S → S')
    (hget : ∀ s s', get (put s s') = s') (hput : ∀ s, put s (get s) = s)
    (hput₂ : ∀ s s' s'', put (put s s') s'' = put s s'')
    (h : ∀ s op, (g op (answer' s (f op)).1, (answer' s (f op)).2) =
      ((answer (get s) op).1, put s (answer (get s) op).2))
    (p : Prog Op Res α) (s : S') :
    alone answer' (p.embed f g) s =
      ((alone answer p (get s)).1, put s (alone answer p (get s)).2) := by
  induction p generalizing s with
  | done a => exact Prod.ext rfl (hput s).symm
  | await op next ih =>
      obtain ⟨hres, hstate⟩ := Prod.mk.inj (h s op)
      rw [embed, alone, alone, ih, hres, hstate, hget, hput₂]
  | fork next ih => exact ih true s

/-- What a program does alone is one of the things it can do, and every operation is answered in a
    state that satisfies what the answers keep. -/
theorem returns_alone {S : Type} {answer : S → (op : Op) → Res op × S} {P : Op → Prop}
    {I : S → Prop} (hanswer : ∀ s op, P op → I s → I (answer s op).2) {p : Prog Op Res α}
    (h : Only P p) {s : S} (hs : I s) :
    I (alone answer p s).2 ∧ ∃ log, Returns p log (alone answer p s).1 ∧
      ∀ op r, ⟨op, r⟩ ∈ log → ∃ s', I s' ∧ r = (answer s' op).1 := by
  induction h generalizing s with
  | done a => exact ⟨hs, [], .refl _, fun _ _ hmem => by cases hmem⟩
  | @await op next hop _ ih =>
      obtain ⟨hkept, log, hreturns, hlog⟩ := ih (answer s op).1 (hanswer s op hop hs)
      refine ⟨hkept, ⟨op, (answer s op).1⟩ :: log, .await hreturns, ?_⟩
      intro op' r hmem
      rcases List.mem_cons.1 hmem with heq | hmem
      · cases heq
        exact ⟨s, hs, rfl⟩
      · exact hlog op' r hmem
  | fork _ ih =>
      obtain ⟨hkept, log, hreturns, hlog⟩ := ih true hs
      exact ⟨hkept, log, .fork true hreturns, hlog⟩

/-! ## Side by side -/

/-- A program that is answered first goes on by itself, and then the other one. -/
theorem alone_besides {S : Type} (answer : S → (op : Op) → Res op × S) (op : Op)
    (next : Res op → Prog Op Res α) (whenFirst : Res op → Prog Op Res β → Prog Op Res (α × β))
    (hfirst : ∀ r q s, alone answer (whenFirst r q) s =
      (((alone answer (next r) s).1, (alone answer q (alone answer (next r) s).2).1),
        (alone answer q (alone answer (next r) s).2).2))
    (q : Prog Op Res β) (s : S) :
    alone answer (besides op next whenFirst q) s =
      (((alone answer (.await op next) s).1,
          (alone answer q (alone answer (.await op next) s).2).1),
        (alone answer q (alone answer (.await op next) s).2).2) := by
  induction q with
  | done b =>
      change alone answer ((next (answer s op).1).bind fun a => .done (a, b)) (answer s op).2 = _
      exact alone_bind answer (next (answer s op).1) (fun a => .done (a, b)) (answer s op).2
  | await op' next' _ => exact hfirst _ _ _
  | fork next' ih => exact ih true

/-- Alone, two programs side by side run one after the other. -/
theorem alone_both {S : Type} (answer : S → (op : Op) → Res op × S) (p : Prog Op Res α)
    (q : Prog Op Res β) (s : S) :
    alone answer (p.both q) s =
      (((alone answer p s).1, (alone answer q (alone answer p s).2).1),
        (alone answer q (alone answer p s).2).2) := by
  induction p generalizing q s with
  | done a => exact alone_bind answer q (fun b => .done (a, b)) s
  | await op next ih => exact alone_besides answer op next _ (fun r q s => ih r q s) q s
  | fork next ih => exact ih true q s

/-- What two programs did side by side, taken apart again. -/
def Splits (p : Prog Op Res α) (q : Prog Op Res β) (log : List ((op : Op) × Res op)) (ab : α × β) :
    Prop :=
  ∃ left right, left.Sublist log ∧ right.Sublist log ∧ Returns p left ab.1 ∧ Returns q right ab.2

theorem Splits.await_left {op : Op} {next : Res op → Prog Op Res α} {q : Prog Op Res β}
    {r : Res op} {log : List ((op : Op) × Res op)} {ab : α × β} (h : Splits (next r) q log ab) :
    Splits (.await op next) q (⟨op, r⟩ :: log) ab := by
  obtain ⟨left, right, hleft, hright, hp, hq⟩ := h
  exact ⟨⟨op, r⟩ :: left, right, hleft.cons_cons _, hright.cons _, .await hp, hq⟩

theorem Splits.await_right {op : Op} {next : Res op → Prog Op Res β} {p : Prog Op Res α}
    {r : Res op} {log : List ((op : Op) × Res op)} {ab : α × β} (h : Splits p (next r) log ab) :
    Splits p (.await op next) (⟨op, r⟩ :: log) ab := by
  obtain ⟨left, right, hleft, hright, hp, hq⟩ := h
  exact ⟨left, ⟨op, r⟩ :: right, hleft.cons _, hright.cons_cons _, hp, .await hq⟩

theorem splits_besides {op : Op} {next : Res op → Prog Op Res α}
    (ih : ∀ r (q : Prog Op Res β) log ab, Returns ((next r).both q) log ab →
      Splits (next r) q log ab)
    {q : Prog Op Res β} {log : List ((op : Op) × Res op)} {ab : α × β}
    (h : Returns (besides op next (fun r q => (next r).both q) q) log ab) :
    Splits (.await op next) q log ab := by
  induction q generalizing log with
  | done b =>
      rw [besides, returns_await] at h
      obtain ⟨r, rest, rfl, h⟩ := h
      obtain ⟨a, front, back, rfl, hp, hdone⟩ := returns_bind'.1 h
      obtain ⟨rfl, rfl⟩ := returns_done.1 hdone
      rw [List.append_nil]
      exact ⟨_, [], List.Sublist.refl _, List.nil_sublist _, .await hp, .refl _⟩
  | fork next' ih' =>
      rw [besides, returns_fork] at h
      obtain ⟨b, h⟩ := h
      obtain ⟨left, right, hleft, hright, hp, hq⟩ := ih' b h
      exact ⟨left, right, hleft, hright, hp, .fork b hq⟩
  | await op' next' ih' =>
      rw [besides, returns_fork] at h
      obtain ⟨first, h⟩ := h
      cases first with
      | true =>
          rw [if_pos rfl, returns_await] at h
          obtain ⟨r, rest, rfl, h⟩ := h
          exact (ih r _ _ _ h).await_left
      | false =>
          rw [if_neg Bool.false_ne_true, returns_await] at h
          obtain ⟨r, rest, rfl, h⟩ := h
          exact (ih' r h).await_right

/-- Two programs awaited together each do, in their own order, what they would do alone. -/
theorem returns_both {p : Prog Op Res α} {q : Prog Op Res β} {log : List ((op : Op) × Res op)}
    {ab : α × β} (h : Returns (Async.both p q) log ab) : Splits p q log ab := by
  change Returns (p.both q) log ab at h
  induction p generalizing q log ab with
  | done a =>
      rw [both] at h
      obtain ⟨b, front, back, rfl, hq, hdone⟩ := returns_bind'.1 h
      obtain ⟨rfl, rfl⟩ := returns_done.1 hdone
      rw [List.append_nil]
      exact ⟨[], front, List.nil_sublist _, List.Sublist.refl _, .refl _, hq⟩
  | fork next ih =>
      rw [both, returns_fork] at h
      obtain ⟨b, h⟩ := h
      obtain ⟨left, right, hleft, hright, hp, hq⟩ := ih b h
      exact ⟨left, right, hleft, hright, .fork b hp, hq⟩
  | await op next ih =>
      rw [both] at h
      exact splits_besides (fun r _ _ _ hr => ih r hr) h

/-! ## With failures -/

section Failures

variable {ε : Type}

/-- Give up if `c` holds. -/
def refuseIf {m : Type → Type} [Monad m] (c : Bool) (e : ε) : ExceptT ε m Unit :=
  if c then throw e else pure ()

/-- Go on with a value, or give up if there is none. -/
def require {m : Type → Type} [Monad m] (a : Option α) (e : ε) : ExceptT ε m α :=
  match a with
  | none => throw e
  | some a => pure a

/-- Await an operation that cannot fail. -/
def ask (op : Op) : ExceptT ε (Prog Op Res) (Res op) :=
  ExceptT.lift (call op)

/-- Await something that reports its failures, and give up with what `f` makes of one. -/
def attempt {δ : Type} (p : Prog Op Res (Except δ α)) (f : δ → ε) : ExceptT ε (Prog Op Res) α :=
  ExceptT.mk (p >>= fun r => pure (r.mapError f))

theorem refuseIf_false_bind {e : ε} {f : Unit → ExceptT ε (Prog Op Res) β} :
    (refuseIf false e >>= f) = f () := rfl

theorem require_some_bind {a : α} {e : ε} {f : α → ExceptT ε (Prog Op Res) β} :
    (require (some a) e >>= f) = f a := rfl

theorem returns_exceptT_bind {p : ExceptT ε (Prog Op Res) α} {f : α → ExceptT ε (Prog Op Res) β}
    {b : β} {log : List ((op : Op) × Res op)} :
    Returns (p >>= f).run log (.ok b) ↔
      ∃ a front back, log = front ++ back ∧ Returns p.run front (.ok a) ∧
        Returns (f a).run back (.ok b) := by
  rw [ExceptT.run_bind, returns_bind]
  constructor
  · rintro ⟨x, front, back, rfl, hp, hf⟩
    cases x with
    | error e =>
        obtain ⟨_, hf⟩ := returns_pure.1 hf
        cases hf
    | ok a => exact ⟨a, front, back, rfl, hp, hf⟩
  · rintro ⟨a, front, back, rfl, hp, hf⟩
    exact ⟨.ok a, front, back, rfl, hp, hf⟩

theorem returns_exceptT_pure {a b : α} {log : List ((op : Op) × Res op)} :
    Returns (pure a : ExceptT ε (Prog Op Res) α).run log (.ok b) ↔ log = [] ∧ a = b := by
  rw [ExceptT.run_pure, returns_pure, Except.ok.injEq]

theorem returns_throw {e : ε} {x : Except ε α} {log : List ((op : Op) × Res op)} :
    Returns (throw e : ExceptT ε (Prog Op Res) α).run log x ↔ log = [] ∧ .error e = x :=
  returns_pure

/-! What a program that succeeds does alone. -/

section Alone

variable {S : Type} {answer : S → (op : Op) → Res op × S} {s s' : S}

theorem alone_exceptT_bind {p : ExceptT ε (Prog Op Res) α} {a : α}
    (h : alone answer p.run s = (.ok a, s')) (f : α → ExceptT ε (Prog Op Res) β) :
    alone answer (p >>= f).run s = alone answer (f a).run s' := by
  rw [ExceptT.run_bind, alone_bind, h]

theorem alone_exceptT_bind_error {p : ExceptT ε (Prog Op Res) α} {e : ε}
    (h : alone answer p.run s = (.error e, s')) (f : α → ExceptT ε (Prog Op Res) β) :
    alone answer (p >>= f).run s = (.error e, s') := by
  rw [ExceptT.run_bind, alone_bind, h]
  rfl

theorem alone_ask (op : Op) :
    alone answer (ask op : ExceptT ε (Prog Op Res) (Res op)).run s =
      (.ok (answer s op).1, (answer s op).2) := rfl

theorem alone_attempt {δ : Type} {p : Prog Op Res (Except δ α)} {a : α}
    (h : alone answer p s = (.ok a, s')) (f : δ → ε) :
    alone answer (attempt p f).run s = (.ok a, s') := by
  show alone answer (p >>= fun r => pure (r.mapError f)) s = _
  rw [alone_bind, h]
  rfl

theorem alone_attempt_error {δ : Type} {p : Prog Op Res (Except δ α)} {d : δ}
    (h : alone answer p s = (.error d, s')) (f : δ → ε) :
    alone answer (attempt p f).run s = (.error (f d), s') := by
  show alone answer (p >>= fun r => pure (r.mapError f)) s = _
  rw [alone_bind, h]
  rfl

theorem alone_exceptT_both_eq {p : ExceptT ε (Prog Op Res) α} {q : ExceptT ε (Prog Op Res) β}
    {x : Except ε α} {y : Except ε β} {s'' : S} (hp : alone answer p.run s = (x, s'))
    (hq : alone answer q.run s' = (y, s'')) :
    alone answer (Async.both p q).run s =
      (do
        let a ← x
        let b ← y
        return (a, b), s'') := by
  refine (alone_bind answer (Prog.both p.run q.run) _ s).trans ?_
  rw [alone_both, hp, hq]
  rfl

theorem alone_exceptT_both {p : ExceptT ε (Prog Op Res) α} {q : ExceptT ε (Prog Op Res) β} {a : α}
    {b : β} {s'' : S} (hp : alone answer p.run s = (.ok a, s'))
    (hq : alone answer q.run s' = (.ok b, s'')) :
    alone answer (Async.both p q).run s = (.ok (a, b), s'') :=
  alone_exceptT_both_eq hp hq

/-- What has succeeded has succeeded step by step. -/
theorem alone_exceptT_bind_eq_ok {p : ExceptT ε (Prog Op Res) α} {f : α → ExceptT ε (Prog Op Res) β}
    {b : β} {s'' : S} :
    alone answer (p >>= f).run s = (.ok b, s'') ↔
      ∃ a s', alone answer p.run s = (.ok a, s') ∧ alone answer (f a).run s' = (.ok b, s'') := by
  rw [ExceptT.run_bind, alone_bind]
  cases hp : alone answer p.run s with
  | mk result s' =>
      cases result with
      | error e =>
          constructor
          · intro h
            cases h
          · rintro ⟨a, s₁, h, -⟩
            cases h
      | ok a =>
          constructor
          · intro h
            exact ⟨a, s', rfl, h⟩
          · rintro ⟨a', s', h, hf⟩
            cases h
            exact hf

theorem alone_exceptT_lift {p : Prog Op Res α} {a : α} (h : alone answer p s = (a, s')) :
    alone answer (ExceptT.lift p : ExceptT ε (Prog Op Res) α).run s = (.ok a, s') := by
  show alone answer (p >>= fun a => pure (Except.ok a)) s = _
  rw [alone_bind, h]
  rfl

end Alone

/-! What a program that succeeds has done, statement by statement. -/

theorem returns_refuseIf_bind {c : Bool} {e : ε} {f : Unit → ExceptT ε (Prog Op Res) β} {b : β}
    {log : List ((op : Op) × Res op)} :
    Returns (refuseIf c e >>= f).run log (.ok b) ↔
      c = false ∧ Returns (f ()).run log (.ok b) := by
  unfold refuseIf
  cases c with
  | true =>
      constructor
      · intro h
        obtain ⟨-, herror⟩ := returns_pure.1 h
        cases herror
      · rintro ⟨hfalse, -⟩
        cases hfalse
  | false =>
      show Returns (f ()).run log (.ok b) ↔ _
      simp

theorem returns_require {o : Option α} {e : ε} {a : α} {log : List ((op : Op) × Res op)} :
    Returns (require o e : ExceptT ε (Prog Op Res) α).run log (.ok a) ↔ log = [] ∧ o = some a := by
  unfold require
  cases o with
  | none =>
      refine iff_of_false (fun h => ?_) (by simp)
      obtain ⟨-, herror⟩ := returns_pure.1 h
      cases herror
  | some b => exact returns_exceptT_pure.trans (by simp)

theorem returns_require_bind {o : Option α} {e : ε} {f : α → ExceptT ε (Prog Op Res) β} {b : β}
    {log : List ((op : Op) × Res op)} :
    Returns (require o e >>= f).run log (.ok b) ↔
      ∃ a, o = some a ∧ Returns (f a).run log (.ok b) := by
  unfold require
  cases o with
  | none =>
      constructor
      · intro h
        obtain ⟨-, herror⟩ := returns_pure.1 h
        cases herror
      · rintro ⟨a, hnone, -⟩
        cases hnone
  | some a =>
      show Returns (f a).run log (.ok b) ↔ _
      simp

theorem returns_ask_bind {op : Op} {f : Res op → ExceptT ε (Prog Op Res) β} {x : Except ε β}
    {log : List ((op : Op) × Res op)} :
    Returns (ask op >>= f).run log x ↔
      ∃ r rest, log = ⟨op, r⟩ :: rest ∧ Returns (f r).run rest x :=
  returns_await

theorem returns_attempt_any {δ : Type} {p : Prog Op Res (Except δ α)} {g : δ → ε}
    {x : Except ε α} {log : List ((op : Op) × Res op)} :
    Returns (attempt p g).run log x ↔ ∃ y, Returns p log y ∧ x = y.mapError g := by
  show Returns (p >>= fun r => pure (r.mapError g)) log x ↔ _
  rw [returns_bind]
  constructor
  · rintro ⟨y, front, back, rfl, hp, hpure⟩
    obtain ⟨rfl, rfl⟩ := returns_pure.1 hpure
    rw [List.append_nil]
    exact ⟨y, hp, rfl⟩
  · rintro ⟨y, hp, rfl⟩
    exact ⟨y, log, [], by simp, hp, returns_pure.2 ⟨rfl, rfl⟩⟩

theorem returns_attempt {δ : Type} {p : Prog Op Res (Except δ α)} {f : δ → ε} {a : α}
    {log : List ((op : Op) × Res op)} :
    Returns (attempt p f).run log (.ok a) ↔ Returns p log (.ok a) := by
  rw [returns_attempt_any]
  constructor
  · rintro ⟨y, hp, hy⟩
    cases y with
    | error e => cases hy
    | ok a' =>
        cases hy
        exact hp
  · intro h
    exact ⟨.ok a, h, rfl⟩

/-- The statements that a call awaits report their failures themselves. -/
theorem returns_attempt_bind {δ : Type} {p : Prog Op Res (Except δ α)} {g : δ → ε}
    {f : α → ExceptT ε (Prog Op Res) β} {b : β} {log : List ((op : Op) × Res op)} :
    Returns (attempt p g >>= f).run log (.ok b) ↔
      ∃ a front back, log = front ++ back ∧ Returns p front (.ok a) ∧
        Returns (f a).run back (.ok b) := by
  rw [returns_exceptT_bind]
  simp only [returns_attempt]

/-- Where the statements that a call awaits succeed, the rest goes on with what they report. -/
theorem returns_attempt_bind_cases {δ : Type} {p : Prog Op Res (Except δ α)} {g : δ → ε}
    {f : α → ExceptT ε (Prog Op Res) β} {x : Except ε β} {log : List ((op : Op) × Res op)}
    (h : Returns (attempt p g >>= f).run log x) :
    ∃ y front back, log = front ++ back ∧ Returns p front y ∧
      ∀ a, y = .ok a → Returns (f a).run back x := by
  rw [ExceptT.run_bind] at h
  obtain ⟨z, front, back, rfl, hp, hf⟩ := returns_bind.1 h
  obtain ⟨y, hy, rfl⟩ := returns_attempt_any.1 hp
  refine ⟨y, front, back, rfl, hy, ?_⟩
  rintro a rfl
  exact hf

/-- A part that cannot fail. -/
theorem returns_lift_bind {p : Prog Op Res α} {f : α → ExceptT ε (Prog Op Res) β}
    {x : Except ε β} {log : List ((op : Op) × Res op)} :
    Returns (ExceptT.lift p >>= f).run log x ↔
      ∃ a front back, log = front ++ back ∧ Returns p front a ∧ Returns (f a).run back x := by
  have hlift : ∀ {y : Except ε α} {front : List ((op : Op) × Res op)},
      Returns (ExceptT.lift p : ExceptT ε (Prog Op Res) α).run front y ↔
        ∃ a, Returns p front a ∧ y = .ok a := by
    intro y front
    show Returns (p >>= fun a => pure (Except.ok a)) front y ↔ _
    rw [returns_bind]
    constructor
    · rintro ⟨a, front, back, rfl, hp, hpure⟩
      obtain ⟨rfl, rfl⟩ := returns_pure.1 hpure
      rw [List.append_nil]
      exact ⟨a, hp, rfl⟩
    · rintro ⟨a, hp, rfl⟩
      exact ⟨a, front, [], by simp, hp, returns_pure.2 ⟨rfl, rfl⟩⟩
  rw [ExceptT.run_bind, returns_bind]
  constructor
  · rintro ⟨y, front, back, rfl, hp, hf⟩
    obtain ⟨a, ha, rfl⟩ := hlift.1 hp
    exact ⟨a, front, back, rfl, ha, hf⟩
  · rintro ⟨a, front, back, rfl, ha, hf⟩
    exact ⟨.ok a, front, back, rfl, hlift.2 ⟨a, ha, rfl⟩, hf⟩

/-! Which operations such programs await. -/

theorem reaches_exceptT_bind {p : ExceptT ε (Prog Op Res) α} {f : α → ExceptT ε (Prog Op Res) β}
    {op : Op} {log : List ((op : Op) × Res op)} :
    Reaches (p >>= f).run log op ↔
      Reaches p.run log op ∨
        ∃ a front back, log = front ++ back ∧ Returns p.run front (.ok a) ∧
          Reaches (f a).run back op := by
  rw [ExceptT.run_bind, reaches_bind]
  refine or_congr_right ⟨?_, ?_⟩
  · rintro ⟨x, front, back, rfl, hp, hf⟩
    cases x with
    | error e => exact absurd hf reaches_done
    | ok a => exact ⟨a, front, back, rfl, hp, hf⟩
  · rintro ⟨a, front, back, rfl, hp, hf⟩
    exact ⟨.ok a, front, back, rfl, hp, hf⟩

/-- A program whose first part never awaits `op` awaits it in the second. -/
theorem Reaches.second {P : Op → Prop} {p : ExceptT ε (Prog Op Res) α}
    {f : α → ExceptT ε (Prog Op Res) β} {op : Op} {log : List ((op : Op) × Res op)}
    (h : Reaches (p >>= f).run log op) (hp : Only P p.run) (hop : ¬ P op) :
    ∃ a front back, log = front ++ back ∧ Returns p.run front (.ok a) ∧
      Reaches (f a).run back op := by
  rcases reaches_exceptT_bind.1 h with hfirst | hsecond
  · exact absurd (hp.reached hfirst) hop
  · exact hsecond

/-- A program whose second part never awaits `op` awaits it in the first. -/
theorem Reaches.first {P : Op → Prop} {p : ExceptT ε (Prog Op Res) α}
    {f : α → ExceptT ε (Prog Op Res) β} {op : Op} {log : List ((op : Op) × Res op)}
    (h : Reaches (p >>= f).run log op) (hf : ∀ a, Only P (f a).run) (hop : ¬ P op) :
    Reaches p.run log op := by
  rcases reaches_exceptT_bind.1 h with hfirst | ⟨a, front, back, -, -, hsecond⟩
  · exact hfirst
  · exact absurd ((hf a).reached hsecond) hop

theorem reaches_refuseIf_bind {c : Bool} {e : ε} {f : Unit → ExceptT ε (Prog Op Res) β} {op : Op}
    {log : List ((op : Op) × Res op)} :
    Reaches (refuseIf c e >>= f).run log op ↔ c = false ∧ Reaches (f ()).run log op := by
  unfold refuseIf
  cases c with
  | true =>
      constructor
      · intro h
        exact absurd h reaches_done
      · rintro ⟨hfalse, -⟩
        cases hfalse
  | false =>
      show Reaches (f ()).run log op ↔ _
      simp

theorem reaches_require_bind {o : Option α} {e : ε} {f : α → ExceptT ε (Prog Op Res) β} {op : Op}
    {log : List ((op : Op) × Res op)} :
    Reaches (require o e >>= f).run log op ↔ ∃ a, o = some a ∧ Reaches (f a).run log op := by
  unfold require
  cases o with
  | none =>
      constructor
      · intro h
        exact absurd h reaches_done
      · rintro ⟨a, hnone, -⟩
        cases hnone
  | some a =>
      show Reaches (f a).run log op ↔ _
      simp

theorem reaches_exceptT_pure {a : α} {op : Op} {log : List ((op : Op) × Res op)} :
    ¬ Reaches (pure a : ExceptT ε (Prog Op Res) α).run log op :=
  reaches_done

theorem reaches_ask {op op' : Op} {log : List ((op : Op) × Res op)} :
    Reaches (ask op : ExceptT ε (Prog Op Res) (Res op)).run log op' ↔ log = [] ∧ op' = op := by
  show Reaches (call op >>= fun r => pure (Except.ok r)) log op' ↔ _
  rw [reaches_bind, reaches_call]
  constructor
  · rintro (h | ⟨r, front, back, -, -, h⟩)
    · exact h
    · exact absurd h reaches_done
  · exact .inl

theorem reaches_ask_bind {op op' : Op} {f : Res op → ExceptT ε (Prog Op Res) β}
    {log : List ((op : Op) × Res op)} :
    Reaches (ask op >>= f).run log op' ↔
      (log = [] ∧ op' = op) ∨
        ∃ r rest, log = ⟨op, r⟩ :: rest ∧ Reaches (f r).run rest op' :=
  reaches_await

theorem reaches_attempt {δ : Type} {p : Prog Op Res (Except δ α)} {f : δ → ε} {op : Op}
    {log : List ((op : Op) × Res op)} : Reaches (attempt p f).run log op ↔ Reaches p log op := by
  show Reaches (p >>= fun r => pure (r.mapError f)) log op ↔ _
  rw [reaches_bind]
  constructor
  · rintro (h | ⟨r, front, back, -, -, h⟩)
    · exact h
    · exact absurd h reaches_done
  · exact .inl

/-- The first part fails, or the second goes on from what it results in. -/
theorem returns_exceptT_bind_any {p : ExceptT ε (Prog Op Res) α}
    {f : α → ExceptT ε (Prog Op Res) β} {x : Except ε β} {log : List ((op : Op) × Res op)} :
    Returns (p >>= f).run log x ↔
      (∃ e, Returns p.run log (.error e) ∧ x = .error e) ∨
        ∃ a front back, log = front ++ back ∧ Returns p.run front (.ok a) ∧
          Returns (f a).run back x := by
  rw [ExceptT.run_bind, returns_bind]
  constructor
  · rintro ⟨y, front, back, rfl, hp, hf⟩
    cases y with
    | error e =>
        obtain ⟨rfl, rfl⟩ := returns_pure.1 hf
        exact .inl ⟨e, by rwa [List.append_nil], rfl⟩
    | ok a => exact .inr ⟨a, front, back, rfl, hp, hf⟩
  · rintro (⟨e, hp, rfl⟩ | ⟨a, front, back, rfl, hp, hf⟩)
    · exact ⟨.error e, log, [], by rw [List.append_nil], hp, returns_pure.2 ⟨rfl, rfl⟩⟩
    · exact ⟨.ok a, front, back, rfl, hp, hf⟩

variable {P : Op → Prop}

/-- After `pre`, a part that awaits nothing but `P` fails, or the next part goes on. -/
theorem Returns.after {p : ExceptT ε (Prog Op Res) α} {f : α → ExceptT ε (Prog Op Res) β}
    {x : Except ε β} {pre log : List ((op : Op) × Res op)} (h : Returns (p >>= f).run log x)
    (hp : Only P p.run) (hpre : ∀ e ∈ pre, P e.1) :
    ((∀ e ∈ pre ++ log, P e.1) ∧ ∃ e, x = .error e) ∨
      ∃ a front back, log = front ++ back ∧ (∀ e ∈ pre ++ front, P e.1) ∧
        Returns p.run front (.ok a) ∧ Returns (f a).run back x := by
  have happend : ∀ {y : Except ε α} {front : List ((op : Op) × Res op)}, Returns p.run front y →
      ∀ e ∈ pre ++ front, P e.1 := by
    intro y front hy e he
    rcases List.mem_append.1 he with he | he
    · exact hpre e he
    · exact hp.of_mem hy he
  rcases returns_exceptT_bind_any.1 h with ⟨e, hfails, rfl⟩ | ⟨a, front, back, rfl, hok, hf⟩
  · exact .inl ⟨happend hfails, e, rfl⟩
  · exact .inr ⟨a, front, back, rfl, happend hok, hok, hf⟩

theorem only_exceptT_bind {p : ExceptT ε (Prog Op Res) α} {f : α → ExceptT ε (Prog Op Res) β}
    (hp : Only P p.run) (hf : ∀ a, Only P (f a).run) : Only P (p >>= f).run := by
  rw [ExceptT.run_bind]
  refine only_bind hp fun r => ?_
  cases r with
  | error e => exact .done _
  | ok a => exact hf a

theorem only_exceptT_pure (a : α) : Only P (pure a : ExceptT ε (Prog Op Res) α).run := .done _

theorem only_refuseIf (c : Bool) (e : ε) :
    Only P (refuseIf c e : ExceptT ε (Prog Op Res) Unit).run := by
  unfold refuseIf
  cases c <;> exact .done _

theorem only_require_bind {o : Option α} {e : ε} {f : α → ExceptT ε (Prog Op Res) β}
    (hf : ∀ a, o = some a → Only P (f a).run) : Only P (require o e >>= f).run := by
  unfold require
  cases o with
  | none => exact .done _
  | some a => exact hf a rfl

theorem only_ask {op : Op} (h : P op) : Only P (ask op : ExceptT ε (Prog Op Res) (Res op)).run :=
  only_bind (only_call h) fun _ => .done _

theorem only_attempt {δ : Type} {p : Prog Op Res (Except δ α)} (h : Only P p) (f : δ → ε) :
    Only P (attempt p f).run :=
  only_bind h fun _ => .done _

theorem only_exceptT_both {p : ExceptT ε (Prog Op Res) α} {q : ExceptT ε (Prog Op Res) β}
    (hp : Only P p.run) (hq : Only P q.run) : Only P (Async.both p q).run :=
  only_bind (only_both hp hq) fun _ => .done _

theorem only_exceptT_lift {p : Prog Op Res α} (h : Only P p) :
    Only P (ExceptT.lift p : ExceptT ε (Prog Op Res) α).run :=
  only_bind h fun _ => .done _

theorem only_require (o : Option α) (e : ε) :
    Only P (require o e : ExceptT ε (Prog Op Res) α).run := by
  unfold require
  cases o <;> exact .done _

/-! What a program awaits after a first part that is only `P`. -/

/-- The program awaits nothing but `P`, and then what `R` says. -/
def Later (P : Op → Prop) (R : List ((op : Op) × Res op) → Op → Prop) (p : Prog Op Res α) : Prop :=
  ∀ log op, Reaches p log op →
    ((∀ e ∈ log, P e.1) ∧ P op) ∨
      ∃ front back, log = front ++ back ∧ (∀ e ∈ front, P e.1) ∧ R back op

variable {R : List ((op : Op) × Res op) → Op → Prop}

theorem Later.mono {Q : List ((op : Op) × Res op) → Op → Prop} {p : Prog Op Res α}
    (h : Later P R p) (hRQ : ∀ log op, R log op → Q log op) : Later P Q p := by
  intro log op hreaches
  rcases h log op hreaches with honly | ⟨front, back, hlog, hfront, hR⟩
  · exact .inl honly
  · exact .inr ⟨front, back, hlog, hfront, hRQ back op hR⟩

theorem later_of_only {p : Prog Op Res α} (h : Only P p) : Later P R p := by
  intro log op hreaches
  refine .inl ⟨fun e he => ?_, h.reached hreaches⟩
  obtain ⟨next, hfollows⟩ := hreaches
  exact h.of_mem hfollows he

theorem later_of_reaches {p : Prog Op Res α} (h : ∀ log op, Reaches p log op → R log op) :
    Later P R p := by
  intro log op hreaches
  exact .inr ⟨[], log, rfl, by simp, h log op hreaches⟩

theorem later_bind {p : ExceptT ε (Prog Op Res) α} {f : α → ExceptT ε (Prog Op Res) β}
    (hp : Only P p.run) (hf : ∀ a, Later P R (f a).run) : Later P R (p >>= f).run := by
  intro log op hreaches
  rcases reaches_exceptT_bind.1 hreaches with hfirst | ⟨a, front, back, rfl, hreturns, hsecond⟩
  · exact later_of_only hp log op hfirst
  · have hfront : ∀ e ∈ front, P e.1 := fun e he => hp.of_mem hreturns he
    rcases hf a back op hsecond with ⟨hback, hop⟩ | ⟨front', back', rfl, hfront', hR⟩
    · refine .inl ⟨fun e he => ?_, hop⟩
      rcases List.mem_append.1 he with he | he
      · exact hfront e he
      · exact hback e he
    · refine .inr ⟨front ++ front', back', (List.append_assoc ..).symm, fun e he => ?_, hR⟩
      rcases List.mem_append.1 he with he | he
      · exact hfront e he
      · exact hfront' e he

theorem later_require_bind {o : Option α} {e : ε} {f : α → ExceptT ε (Prog Op Res) β}
    (hf : ∀ a, Later P R (f a).run) : Later P R (require o e >>= f).run :=
  later_bind (only_require o e) hf

/-! Whose fault a failure is. -/

/-- Where the computation fails, the last operation that it awaited has failed, in the sense of `F`. -/
def Blames (F : (op : Op) → Res op → Prop) (p : ExceptT ε (Prog Op Res) α) : Prop :=
  ∀ log e, Returns p.run log (.error e) → ∃ front x, log = front ++ [x] ∧ F x.1 x.2

variable {F : (op : Op) → Res op → Prop}

theorem blames_pure (a : α) : Blames F (pure a : ExceptT ε (Prog Op Res) α) := by
  intro log e h
  cases (returns_pure.1 h).2

theorem blames_bind {p : ExceptT ε (Prog Op Res) α} {f : α → ExceptT ε (Prog Op Res) β}
    (hp : Blames F p) (hf : ∀ a, Blames F (f a)) : Blames F (p >>= f) := by
  intro log e h
  rcases returns_exceptT_bind_any.1 h with ⟨e', hfails, -⟩ | ⟨a, front, back, rfl, -, hfails⟩
  · exact hp log e' hfails
  · obtain ⟨front', x, rfl, hx⟩ := hf a back e hfails
    exact ⟨front ++ front', x, (List.append_assoc ..).symm, hx⟩

theorem blames_attempt {δ : Type} {p : Prog Op Res (Except δ α)}
    (hp : ∀ log e, Returns p log (.error e) → ∃ front x, log = front ++ [x] ∧ F x.1 x.2)
    (g : δ → ε) : Blames F (attempt p g) := by
  intro log e h
  obtain ⟨y, hy, herror⟩ := returns_attempt_any.1 h
  cases y with
  | error e' => exact hp log e' hy
  | ok a => cases herror

/-- A part before which only `P` is awaited. -/
theorem Returns.error_after {p : ExceptT ε (Prog Op Res) α} {f : α → ExceptT ε (Prog Op Res) β}
    (hp : Only P p.run)
    (hf : ∀ a log e, Returns (f a).run log (.error e) →
      (∀ x ∈ log, P x.1) ∨ ∃ front x, log = front ++ [x] ∧ F x.1 x.2)
    {log : List ((op : Op) × Res op)} {e : ε} (h : Returns (p >>= f).run log (.error e)) :
    (∀ x ∈ log, P x.1) ∨ ∃ front x, log = front ++ [x] ∧ F x.1 x.2 := by
  rcases returns_exceptT_bind_any.1 h with ⟨e', hfails, -⟩ | ⟨a, front, back, rfl, hok, hfails⟩
  · exact .inl fun x hx => hp.of_mem hfails hx
  · rcases hf a back e hfails with honly | ⟨front', x, rfl, hx⟩
    · refine .inl fun x hx => ?_
      rcases List.mem_append.1 hx with hx | hx
      · exact hp.of_mem hok hx
      · exact honly x hx
    · exact .inr ⟨front ++ front', x, (List.append_assoc ..).symm, hx⟩

/-- Two computations that both succeed together each succeed alone. -/
theorem returns_exceptT_both {p : ExceptT ε (Prog Op Res) α} {q : ExceptT ε (Prog Op Res) β}
    {ab : α × β} {log : List ((op : Op) × Res op)}
    (h : Returns (Async.both p q).run log (.ok ab)) :
    ∃ left right, left.Sublist log ∧ right.Sublist log ∧ Returns p.run left (.ok ab.1) ∧
      Returns q.run right (.ok ab.2) := by
  have hrun : Returns (Async.both p.run q.run >>= fun xy => pure do
      let a ← xy.1
      let b ← xy.2
      return (a, b)) log (Except.ok ab : Except ε (α × β)) := h
  obtain ⟨⟨x, y⟩, front, back, rfl, hboth, hpure⟩ := returns_bind.1 hrun
  obtain ⟨rfl, hok⟩ := returns_pure.1 hpure
  obtain ⟨left, right, hleft, hright, hp, hq⟩ := returns_both hboth
  rw [List.append_nil]
  cases x with
  | error e => cases hok
  | ok a =>
      cases y with
      | error e => cases hok
      | ok b =>
          cases hok
          exact ⟨left, right, hleft, hright, hp, hq⟩

end Failures

end Prog
