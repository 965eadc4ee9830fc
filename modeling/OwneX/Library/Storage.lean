import Mathlib.Logic.Function.Basic

set_option autoImplicit false

/-! # Contract storage: reverts and nested mappings

The two ingredients every storage-writing function of a contract is made of. A guard
`if (c) revert e;` is `revertIf c e` in the `Except` monad, and the lemmas below turn a successful
call into the list of guards it passed. A write to a nested mapping `m[a][b] = v` is `set₂ m a b v`
(three levels: `set₃`); the one-level write is Mathlib's `Function.update`. -/

namespace Storage

/-! ## Guards -/

section Guards

variable {ε α β : Type}

/-- `if (c) revert e;` -/
def revertIf (c : Prop) [Decidable c] (e : ε) : Except ε Unit :=
  if c then .error e else .ok ()

/-- An operation with no result reverts with `e`. -/
def orRevert (x : Option α) (e : ε) : Except ε α :=
  match x with
  | none => .error e
  | some a => .ok a

@[simp] theorem revertIf_eq_ok {c : Prop} [Decidable c] {e : ε} {u : Unit} :
    revertIf c e = .ok u ↔ ¬ c := by
  unfold revertIf
  split <;> simp_all

@[simp] theorem orRevert_eq_ok {x : Option α} {e : ε} {a : α} :
    orRevert x e = .ok a ↔ x = some a := by
  cases x <;> simp [orRevert]

/-- A computation that succeeds did so step by step. -/
@[simp] theorem bind_eq_ok {x : Except ε α} {f : α → Except ε β} {b : β} :
    (x >>= f) = .ok b ↔ ∃ a, x = .ok a ∧ f a = .ok b := by
  cases x with
  | error e => simp [bind, Except.bind]
  | ok a => simp [bind, Except.bind]

@[simp] theorem map_eq_ok {x : Except ε α} {f : α → β} {b : β} :
    f <$> x = .ok b ↔ ∃ a, x = .ok a ∧ f a = b := by
  cases x with
  | error e => simp [Functor.map, Except.map]
  | ok a => simp [Functor.map, Except.map]

@[simp] theorem pure_eq_ok {a b : α} : (pure a : Except ε α) = .ok b ↔ a = b := by
  simp [pure, Except.pure]

/-- A computation for each element of a list succeeds with the results of the elements. -/
theorem mapM_eq_ok {f : α → Except ε β} {l : List α} {r : List β} (h : l.mapM f = .ok r) :
    (∀ a ∈ l, ∃ b ∈ r, f a = .ok b) ∧ ∀ b ∈ r, ∃ a ∈ l, f a = .ok b := by
  induction l generalizing r with
  | nil =>
      cases h
      simp
  | cons a l ih =>
      rw [List.mapM_cons, bind_eq_ok] at h
      obtain ⟨b, hb, h⟩ := h
      rw [bind_eq_ok] at h
      obtain ⟨rest, hrest, h⟩ := h
      rw [pure_eq_ok] at h
      rw [← h]
      obtain ⟨hleft, hright⟩ := ih hrest
      refine ⟨fun a' ha' => ?_, fun b' hb' => ?_⟩
      · rcases List.mem_cons.1 ha' with rfl | ha'
        · exact ⟨b, List.mem_cons_self .., hb⟩
        · obtain ⟨b', hb', hf⟩ := hleft a' ha'
          exact ⟨b', List.mem_cons_of_mem _ hb', hf⟩
      · rcases List.mem_cons.1 hb' with rfl | hb'
        · exact ⟨a, List.mem_cons_self .., hb⟩
        · obtain ⟨a', ha', hf⟩ := hright b' hb'
          exact ⟨a', List.mem_cons_of_mem _ ha', hf⟩

end Guards

/-! ## Nested mappings -/

section Mappings

variable {α β γ δ : Type} [DecidableEq α] [DecidableEq β] [DecidableEq γ]

/-- `m[a][b] = v`. -/
def set₂ (m : α → β → δ) (a : α) (b : β) (v : δ) : α → β → δ :=
  Function.update m a (Function.update (m a) b v)

/-- `m[a][b][c] = v`. -/
def set₃ (m : α → β → γ → δ) (a : α) (b : β) (c : γ) (v : δ) : α → β → γ → δ :=
  Function.update m a (set₂ (m a) b c v)

theorem set₂_apply (m : α → β → δ) (a : α) (b : β) (v : δ) (x : α) (y : β) :
    set₂ m a b v x y = if x = a ∧ y = b then v else m x y := by
  unfold set₂
  by_cases hx : x = a
  · subst hx
    by_cases hy : y = b <;> simp [hy]
  · simp [hx]

theorem set₃_apply (m : α → β → γ → δ) (a : α) (b : β) (c : γ) (v : δ) (x : α) (y : β) (z : γ) :
    set₃ m a b c v x y z = if x = a ∧ y = b ∧ z = c then v else m x y z := by
  unfold set₃
  by_cases hx : x = a
  · subst hx
    simp [set₂_apply]
  · simp [hx]

@[simp] theorem set₂_same (m : α → β → δ) (a : α) (b : β) (v : δ) : set₂ m a b v a b = v := by
  simp [set₂_apply]

theorem set₂_of_ne {m : α → β → δ} {a x : α} {b y : β} {v : δ} (h : ¬ (x = a ∧ y = b)) :
    set₂ m a b v x y = m x y := by
  rw [set₂_apply, if_neg h]

end Mappings

end Storage
