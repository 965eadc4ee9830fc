import OwneX.Library.Interleaving

set_option autoImplicit false

/-! # What stands behind a change

Part of the shared state may be changed by some operations only. Then a change of it is the work of a
thread whose program awaits such an operation next (`Run.behind_change`), after what its log says. And
what its log says was so, each time, in the state of that moment (`Run.executed`). Together they
tell who has changed what, and what was seen before. -/

namespace Interleaving

open Prog

namespace Service

variable {V : Service} {s : V.State} {c : V.Config}

/-- A thread moves, and serves the request. -/
def Transition.Acts (t : V.Transition) (i : Nat) (req : V.Req) : Prop :=
  t.before.Serves i req ∧ ∃ op r, t.move = .perform i op r

/-- What a thread has asked so far, and the state that was there when it was answered. -/
def moments (i : Nat) (ts : List V.Transition) : List (V.Op × V.State) :=
  ts.filterMap fun t => (t.move.entry i).map fun e => (e.1, t.before.shared)

theorem mem_moments {i : Nat} {ts : List V.Transition} {t : V.Transition} (ht : t ∈ ts) {op : V.Op}
    {r : V.Res op} (hmove : t.move = .perform i op r) : (op, t.before.shared) ∈ moments i ts := by
  refine List.mem_filterMap.2 ⟨t, ht, ?_⟩
  rw [entry_eq_some.2 hmove]
  rfl

/-- What the log of a thread says was so at that moment. -/
theorem Run.executed {ts : List V.Transition} (h : V.Run s ts c) {i : Nat} {op : V.Op}
    {r : V.Res op} (hdone : ⟨op, r⟩ ∈ ownLog i ts) :
    ∃ now next, (op, now) ∈ moments i ts ∧ V.exec now op r next := by
  obtain ⟨t, ht, hmove⟩ := mem_ownLog.1 hdone
  obtain ⟨-, -, -, -, hexec, -⟩ := Transition.Valid.perform (h.valid t ht) hmove
  exact ⟨t.before.shared, t.after.shared, mem_moments ht hmove, hexec⟩

/-- A view of the state that nothing outside changes, and of the operations only those of `W`. -/
structure ChangedBy {β : Type} (view : V.State → β) (W : V.Op → Prop) : Prop where
  exec : ∀ {s op r s'}, V.exec s op r s' → view s' = view s ∨ W op
  outside : ∀ {s s'}, V.env s s' → view s' = view s

variable {β : Type} {view : V.State → β} {W : V.Op → Prop}

/-- Who changes the view awaits one of these operations, after what the thread has done. -/
theorem Run.behind_change (hview : ChangedBy view W) {pre post : List V.Transition}
    {t : V.Transition} (h : V.Run s (pre ++ t :: post) c)
    (hchange : view t.after.shared ≠ view t.before.shared) :
    ∃ i req op r, t.move = .perform i op r ∧ t.before.Serves i req ∧
      Reaches (V.handler req) (ownLog i pre) op ∧ W op ∧
      V.exec t.before.shared op r t.after.shared := by
  obtain ⟨-, hvalid, -⟩ := h.split_at
  rcases Transition.Valid.shared hvalid with hsame | ⟨i, op, r, hmove, hexec⟩ | houtside
  · exact absurd (congrArg view hsame) hchange
  · obtain ⟨req, hserves, hreaches⟩ := h.awaited hmove
    exact ⟨i, req, op, r, hmove, hserves, hreaches, (hview.exec hexec).resolve_left hchange, hexec⟩
  · exact absurd (hview.outside houtside) hchange

end Service

end Interleaving

namespace Prog

variable {Op Op' : Type} {Res : Op → Type} {Res' : Op' → Type} {α : Type} {f : Op → Op'}
  {g : (op : Op) → Res' (f op) → Res op}

/-- Whatever a program over more operations has done for the program in it, it has done. -/
theorem log_of_embed {p : Prog Op Res α} {log : List ((op : Op') × Res' op)} {a : α}
    (h : Returns (p.embed f g) log a) :
    ∃ inner : List ((op : Op) × Res op), Returns p inner a ∧
      ∀ e ∈ inner, ∃ r, (⟨f e.1, r⟩ : (op : Op') × Res' op) ∈ log ∧ g e.1 r = e.2 := by
  induction p generalizing log with
  | done b =>
      obtain ⟨-, rfl⟩ := returns_done.1 h
      exact ⟨[], .refl _, by simp⟩
  | await op next ih =>
      obtain ⟨r, rest, rfl, hnext⟩ := returns_await.1 h
      obtain ⟨inner, hinner, hdone⟩ := ih _ hnext
      refine ⟨⟨op, g op r⟩ :: inner, .await hinner, ?_⟩
      intro e he
      rcases List.mem_cons.1 he with rfl | he
      · exact ⟨r, List.mem_cons_self .., rfl⟩
      · obtain ⟨r', hr', heq⟩ := hdone e he
        exact ⟨r', List.mem_cons_of_mem _ hr', heq⟩
  | fork next ih =>
      obtain ⟨b, hnext⟩ := returns_fork.1 h
      obtain ⟨inner, hinner, hdone⟩ := ih b hnext
      exact ⟨inner, .fork b hinner, hdone⟩

/-- Where results are passed on as they are, the program in it has had them. -/
theorem log_of_embed_id {p : Prog Op (fun op => Res' (f op)) α} {log : List ((op : Op') × Res' op)}
    {a : α} (h : Returns (p.embed f fun _ r => r) log a) :
    ∃ inner, Returns p inner a ∧ ∀ e ∈ inner, (⟨f e.1, e.2⟩ : (op : Op') × Res' op) ∈ log := by
  obtain ⟨inner, hinner, hdone⟩ := log_of_embed h
  refine ⟨inner, hinner, fun e he => ?_⟩
  obtain ⟨r, hr, rfl⟩ := hdone e he
  exact hr

/-- Whatever a program over more operations comes to await for the program in it, that one awaits. -/
theorem reaches_of_embed {p : Prog Op Res α} {log : List ((op : Op') × Res' op)} {op' : Op'}
    (h : Reaches (p.embed f g) log op') :
    ∃ inner op, Reaches p inner op ∧ f op = op' ∧
      ∀ e ∈ inner, ∃ r, (⟨f e.1, r⟩ : (op : Op') × Res' op) ∈ log ∧ g e.1 r = e.2 := by
  induction p generalizing log with
  | done b => exact absurd h reaches_done
  | await op next ih =>
      rcases reaches_await.1 h with ⟨-, rfl⟩ | ⟨r, rest, rfl, hnext⟩
      · exact ⟨[], op, reaches_await.2 (.inl ⟨rfl, rfl⟩), rfl, by simp⟩
      · obtain ⟨inner, op', hinner, hop, hdone⟩ := ih _ hnext
        refine ⟨⟨op, g op r⟩ :: inner, op', reaches_await.2 (.inr ⟨_, _, rfl, hinner⟩), hop, ?_⟩
        intro e he
        rcases List.mem_cons.1 he with rfl | he
        · exact ⟨r, List.mem_cons_self .., rfl⟩
        · obtain ⟨r', hr', heq⟩ := hdone e he
          exact ⟨r', List.mem_cons_of_mem _ hr', heq⟩
  | fork next ih =>
      obtain ⟨b, hnext⟩ := reaches_fork.1 h
      obtain ⟨inner, op, hinner, hop, hdone⟩ := ih b hnext
      exact ⟨inner, op, reaches_fork.2 ⟨b, hinner⟩, hop, hdone⟩

end Prog
