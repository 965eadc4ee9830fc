import OwneX.Library.Async

set_option autoImplicit false

/-! # Two runs of a program

What a program comes to is decided by what it is answered: two programs are `Related` if they come
to related results whenever the answers that both of them get to the same question agree. Agreement
is a relation on answers, not always equality, so that it can leave out what must not matter. The
rules follow the text of the programs, as those for one run do.

The last section is about one program alone in two worlds, of which the second may refuse what the
first grants. -/

namespace Prog

variable {Op : Type} {Res : Op → Type} {α β γ δ : Type}

/-- The answers to an operation that both logs hold are related. -/
def Agree (A : (op : Op) → Res op → Res op → Prop) (log log' : List ((op : Op) × Res op)) : Prop :=
  ∀ op r r', ⟨op, r⟩ ∈ log → ⟨op, r'⟩ ∈ log' → A op r r'

/-- Agreeing answers lead the two programs to related results. -/
def Related (A : (op : Op) → Res op → Res op → Prop) (R : α → β → Prop) (p : Prog Op Res α)
    (q : Prog Op Res β) : Prop :=
  ∀ log log' a b, Returns p log a → Returns q log' b → Agree A log log' → R a b

variable {A : (op : Op) → Res op → Res op → Prop}

theorem Agree.subset {log log' front front' : List ((op : Op) × Res op)} (h : Agree A log log')
    (hfront : front ⊆ log) (hfront' : front' ⊆ log') : Agree A front front' :=
  fun op r r' hr hr' => h op r r' (hfront hr) (hfront' hr')

variable {R : α → β → Prop} {S : γ → δ → Prop}

theorem Related.mono {R' : α → β → Prop} {p : Prog Op Res α} {q : Prog Op Res β}
    (h : Related A R p q) (hR : ∀ a b, R a b → R' a b) : Related A R' p q :=
  fun log log' a b hp hq hagree => hR a b (h log log' a b hp hq hagree)

theorem related_pure {a : α} {b : β} (h : R a b) :
    Related A R (pure a : Prog Op Res α) (pure b : Prog Op Res β) := by
  intro log log' a' b' hp hq _
  obtain ⟨-, rfl⟩ := returns_pure.1 hp
  obtain ⟨-, rfl⟩ := returns_pure.1 hq
  exact h

/-- Both ask the same question. -/
theorem related_call (op : Op) : Related A (A op) (call op) (call op) := by
  intro log log' r r' hp hq hagree
  obtain rfl := returns_call.1 hp
  obtain rfl := returns_call.1 hq
  exact hagree op r r' List.mem_cons_self List.mem_cons_self

theorem related_bind {p : Prog Op Res α} {q : Prog Op Res β} {f : α → Prog Op Res γ}
    {g : β → Prog Op Res δ} (hpq : Related A R p q) (hfg : ∀ a b, R a b → Related A S (f a) (g b)) :
    Related A S (p >>= f) (q >>= g) := by
  intro log log' c d hp hq hagree
  obtain ⟨a, front, back, rfl, hpa, hf⟩ := returns_bind.1 hp
  obtain ⟨b, front', back', rfl, hqb, hg⟩ := returns_bind.1 hq
  have hfirst := hagree.subset (List.subset_append_left front back)
    (List.subset_append_left front' back')
  have hsecond := hagree.subset (List.subset_append_right front back)
    (List.subset_append_right front' back')
  exact hfg a b (hpq _ _ a b hpa hqb hfirst) _ _ c d hf hg hsecond

theorem related_both {p : Prog Op Res α} {q : Prog Op Res β} {p' : Prog Op Res γ}
    {q' : Prog Op Res δ} (h : Related A R p q) (h' : Related A S p' q') :
    Related A (fun ac bd => R ac.1 bd.1 ∧ S ac.2 bd.2) (Async.both p p') (Async.both q q') := by
  intro log log' ac bd hp hq hagree
  obtain ⟨left, right, hleft, hright, hpa, hpc⟩ := returns_both hp
  obtain ⟨left', right', hleft', hright', hqb, hqd⟩ := returns_both hq
  exact ⟨h _ _ _ _ hpa hqb (hagree.subset hleft.subset hleft'.subset),
    h' _ _ _ _ hpc hqd (hagree.subset hright.subset hright'.subset)⟩

/-! ## With failures -/

section Failures

variable {ε ε' : Type}

/-- Both succeed, with related results, or both fail in the same way. -/
def OrSame (R : α → β → Prop) : Except ε α → Except ε β → Prop
  | .ok a, .ok b => R a b
  | .error e, .error e' => e = e'
  | _, _ => False

theorem orSame_eq {x y : Except ε α} : OrSame (· = ·) x y ↔ x = y := by
  cases x <;> cases y <;> simp [OrSame]

theorem OrSame.refl {R : α → α → Prop} (hR : ∀ a, R a a) (x : Except ε α) : OrSame R x x := by
  cases x with
  | error e => rfl
  | ok a => exact hR a

theorem related_exceptT_pure {a : α} {b : β} (h : R a b) :
    Related A (OrSame R) (pure a : ExceptT ε (Prog Op Res) α).run
      (pure b : ExceptT ε (Prog Op Res) β).run :=
  related_pure (R := OrSame R) h

theorem related_exceptT_bind {p : ExceptT ε (Prog Op Res) α} {q : ExceptT ε (Prog Op Res) β}
    {f : α → ExceptT ε (Prog Op Res) γ} {g : β → ExceptT ε (Prog Op Res) δ}
    (hpq : Related A (OrSame R) p.run q.run)
    (hfg : ∀ a b, R a b → Related A (OrSame S) (f a).run (g b).run) :
    Related A (OrSame S) (p >>= f).run (q >>= g).run := by
  rw [ExceptT.run_bind, ExceptT.run_bind]
  refine related_bind hpq fun x y hxy => ?_
  cases x with
  | error e =>
      cases y with
      | error e' => exact related_pure (R := OrSame S) hxy
      | ok b => exact hxy.elim
  | ok a =>
      cases y with
      | error e' => exact hxy.elim
      | ok b => exact hfg a b hxy

theorem related_exceptT_both {p : ExceptT ε (Prog Op Res) α} {q : ExceptT ε (Prog Op Res) β}
    {p' : ExceptT ε (Prog Op Res) γ} {q' : ExceptT ε (Prog Op Res) δ}
    (h : Related A (OrSame R) p.run q.run) (h' : Related A (OrSame S) p'.run q'.run) :
    Related A (OrSame fun ac bd => R ac.1 bd.1 ∧ S ac.2 bd.2) (Async.both p p').run
      (Async.both q q').run := by
  refine related_bind (related_both h h') ?_
  rintro ⟨x, x'⟩ ⟨y, y'⟩ ⟨hxy, hxy'⟩
  refine related_pure ?_
  -- The first of the two failures is that of the whole.
  cases x with
  | error e =>
      cases y with
      | error e' => exact hxy
      | ok b => exact hxy.elim
  | ok a =>
      cases y with
      | error e' => exact hxy.elim
      | ok b =>
          cases x' with
          | error e =>
              cases y' with
              | error e' => exact hxy'
              | ok d => exact hxy'.elim
          | ok c =>
              cases y' with
              | error e' => exact hxy'.elim
              | ok d => exact ⟨hxy, hxy'⟩

theorem related_refuseIf_bind {c : Bool} {e : ε} {f : Unit → ExceptT ε (Prog Op Res) γ}
    {g : Unit → ExceptT ε (Prog Op Res) δ}
    (h : c = false → Related A (OrSame S) (f ()).run (g ()).run) :
    Related A (OrSame S) (refuseIf c e >>= f).run (refuseIf c e >>= g).run := by
  cases c with
  | true => exact related_pure (R := OrSame S) rfl
  | false => exact h rfl

theorem related_require_bind {o : Option α} {o' : Option β} {e : ε}
    {f : α → ExceptT ε (Prog Op Res) γ} {g : β → ExceptT ε (Prog Op Res) δ}
    (ho : Option.Rel R o o') (h : ∀ a b, R a b → Related A (OrSame S) (f a).run (g b).run) :
    Related A (OrSame S) (require o e >>= f).run (require o' e >>= g).run := by
  cases ho with
  | none => exact related_pure (R := OrSame S) rfl
  | some hab => exact h _ _ hab

theorem related_ask (op : Op) :
    Related A (OrSame (A op)) (ask op : ExceptT ε (Prog Op Res) (Res op)).run
      (ask op : ExceptT ε (Prog Op Res) (Res op)).run :=
  related_bind (related_call op) fun _ _ h => related_pure (R := OrSame (A op)) h

/-- What a call reports, in the words of the caller. -/
theorem related_attempt {p : Prog Op Res (Except ε' α)} {q : Prog Op Res (Except ε' β)}
    (h : Related A (OrSame R) p q) (f : ε' → ε) :
    Related A (OrSame R) (attempt p f).run (attempt q f).run := by
  refine related_bind h fun x y hxy => related_pure ?_
  cases x <;> cases y
  · exact congrArg f hxy
  · exact hxy.elim
  · exact hxy.elim
  · exact hxy

theorem related_exceptT_lift {p : Prog Op Res α} {q : Prog Op Res β} (h : Related A R p q) :
    Related A (OrSame R) (ExceptT.lift p : ExceptT ε (Prog Op Res) α).run
      (ExceptT.lift q : ExceptT ε (Prog Op Res) β).run :=
  related_bind h fun _ _ hab => related_pure (R := OrSame R) hab

end Failures

/-! ## One program, alone in two worlds

Some operations fail in the second world that succeed in the first. -/

section Alone

variable {ε ζ S : Type} {answer answer' : S → (op : Op) → Res op × S}

/-- In the second world the program fails, or it does what it does in the first. -/
def FailsOrAgrees (answer answer' : S → (op : Op) → Res op × S)
    (p : ExceptT ε (Prog Op Res) α) : Prop :=
  ∀ s, (∃ e s', alone answer' p.run s = (.error e, s')) ∨
    alone answer' p.run s = alone answer p.run s

theorem failsOrAgrees_pure (a : α) :
    FailsOrAgrees answer answer' (pure a : ExceptT ε (Prog Op Res) α) :=
  fun _ => .inr rfl

theorem failsOrAgrees_bind {p : ExceptT ε (Prog Op Res) α} {f : α → ExceptT ε (Prog Op Res) β}
    (hp : FailsOrAgrees answer answer' p) (hf : ∀ a, FailsOrAgrees answer answer' (f a)) :
    FailsOrAgrees answer answer' (p >>= f) := by
  intro s
  rcases hp s with ⟨e, s', herror⟩ | hsame
  · exact .inl ⟨e, s', alone_exceptT_bind_error herror f⟩
  · rcases heq : alone answer p.run s with ⟨x, s'⟩
    rw [heq] at hsame
    cases x with
    | error e => exact .inl ⟨e, s', alone_exceptT_bind_error hsame f⟩
    | ok a =>
        rw [alone_exceptT_bind hsame f, alone_exceptT_bind heq f]
        exact hf a s'

/-- An operation that is answered alike. -/
theorem failsOrAgrees_ask {op : Op} (h : ∀ s, answer' s op = answer s op) :
    FailsOrAgrees answer answer' (ask op : ExceptT ε (Prog Op Res) (Res op)) := by
  intro s
  rw [alone_ask, alone_ask, h s]
  exact .inr rfl

/-- An operation whose failure ends the program. -/
theorem failsOrAgrees_attempt {p : Prog Op Res (Except ζ α)} {f : ζ → ε}
    (h : ∀ s, (∃ e s', alone answer' p s = (.error e, s')) ∨ alone answer' p s = alone answer p s) :
    FailsOrAgrees answer answer' (attempt p f) := by
  intro s
  rcases h s with ⟨e, s', herror⟩ | hsame
  · exact .inl ⟨f e, s', alone_attempt_error herror f⟩
  · refine .inr ?_
    show alone answer' (p >>= fun r => pure (r.mapError f)) s =
      alone answer (p >>= fun r => pure (r.mapError f)) s
    rw [alone_bind, alone_bind, hsame]
    rfl

end Alone

end Prog
