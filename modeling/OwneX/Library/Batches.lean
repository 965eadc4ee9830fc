import OwneX.Library.TwoRuns
import Mathlib.Data.List.Forall2

set_option autoImplicit false

/-! # A batch of programs side by side

`Promise.all` over a list: one program for each element, all of them side by side. What holds of
each of the programs holds of the batch, by the rules for two of them and induction on the list. -/

namespace Prog

variable {Op : Type} {Res : Op → Type} {α β γ δ ε : Type}

/-- `Promise.all(l.map(f))` -/
def allOf (f : α → ExceptT ε (Prog Op Res) β) : List α → ExceptT ε (Prog Op Res) (List β)
  | [] => return []
  | a :: l => do
      let both ← Async.both (f a) (allOf f l)
      return both.1 :: both.2

theorem only_allOf {P : Op → Prop} {f : α → ExceptT ε (Prog Op Res) β} {l : List α}
    (h : ∀ a ∈ l, Only P (f a).run) : Only P (allOf f l).run := by
  induction l with
  | nil => exact only_exceptT_pure _
  | cons a l ih =>
      refine only_exceptT_bind (only_exceptT_both (h a List.mem_cons_self) ?_) fun _ =>
        only_exceptT_pure _
      exact ih fun b hb => h b (List.mem_cons_of_mem _ hb)

/-- A batch succeeds with the results of its programs, in their order. -/
theorem returns_allOf {f : α → ExceptT ε (Prog Op Res) β} {l : List α} {bs : List β}
    {log : List ((op : Op) × Res op)} (h : Returns (allOf f l).run log (.ok bs)) :
    List.Forall₂ (fun a b => ∃ own, own.Sublist log ∧ Returns (f a).run own (.ok b)) l bs := by
  induction l generalizing bs log with
  | nil =>
      obtain ⟨-, rfl⟩ := returns_exceptT_pure.1 h
      exact .nil
  | cons a l ih =>
      obtain ⟨both, front, back, rfl, hboth, hpure⟩ := returns_exceptT_bind.1 h
      obtain ⟨rfl, rfl⟩ := returns_exceptT_pure.1 hpure
      obtain ⟨left, right, hleft, hright, hfirst, hrest⟩ := returns_exceptT_both hboth
      rw [List.append_nil]
      refine .cons ⟨left, hleft, hfirst⟩ ((ih hrest).imp ?_)
      rintro a b ⟨own, hown, hreturns⟩
      exact ⟨own, hown.trans hright, hreturns⟩

/-- Each result of a batch is that of one of its programs. -/
theorem exists_of_returns_allOf {f : α → ExceptT ε (Prog Op Res) β} {l : List α} {bs : List β}
    {log : List ((op : Op) × Res op)} (h : Returns (allOf f l).run log (.ok bs)) {b : β}
    (hb : b ∈ bs) : ∃ a ∈ l, ∃ own, own.Sublist log ∧ Returns (f a).run own (.ok b) := by
  have hall := returns_allOf h
  clear h
  induction hall with
  | nil => cases hb
  | @cons a _ l bs hab _ ih =>
      rcases List.mem_cons.1 hb with rfl | hb
      · exact ⟨a, List.mem_cons_self, hab⟩
      · obtain ⟨a', ha', hreturns⟩ := ih hb
        exact ⟨a', List.mem_cons_of_mem _ ha', hreturns⟩

/-- Two batches of related programs come to related lists. -/
theorem related_allOf {A : (op : Op) → Res op → Res op → Prop} {R : α → β → Prop}
    {S : γ → δ → Prop} {f : α → ExceptT ε (Prog Op Res) γ} {g : β → ExceptT ε (Prog Op Res) δ}
    (hfg : ∀ a b, R a b → Related A (OrSame S) (f a).run (g b).run) {l : List α} {l' : List β}
    (h : List.Forall₂ R l l') :
    Related A (OrSame (List.Forall₂ S)) (allOf f l).run (allOf g l').run := by
  induction h with
  | nil => exact related_exceptT_pure .nil
  | cons hab _ ih =>
      refine related_exceptT_bind (related_exceptT_both (hfg _ _ hab) ih) ?_
      intro both both' hboth
      exact related_exceptT_pure (.cons hboth.1 hboth.2)

end Prog
