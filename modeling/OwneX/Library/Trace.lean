import Mathlib.Data.List.Induction

set_option autoImplicit false

/-! # Traces of a transition system

A system is given by what a single transition is: where it starts, where it ends, and when it is
allowed. A `Path` is a list of allowed transitions, each starting where the one before ended. The
lemmas here are the inductions over paths that every safety argument needs: a property each
transition preserves holds in every state of a path (`Path.invariant`), a preorder each transition
respects relates the two ends (`Path.rel`), and a quantity that grows by one exactly at the
transitions of some kind counts them (`Path.count`). -/

/-- What the transitions of a system are. -/
structure TransitionSystem (S T : Type) where
  source : T → S
  target : T → S
  Valid : T → Prop

namespace TransitionSystem

variable {S T : Type} (sys : TransitionSystem S T)

/-- `ts` leads from `s` to `s'`. -/
inductive Path : S → List T → S → Prop where
  | nil (s : S) : Path s [] s
  | cons {t : T} {ts : List T} {s' : S} :
      sys.Valid t → Path (sys.target t) ts s' → Path (sys.source t) (t :: ts) s'

variable {sys}

theorem Path.single {t : T} (h : sys.Valid t) : sys.Path (sys.source t) [t] (sys.target t) :=
  .cons h (.nil _)

theorem Path.append {s s' s'' : S} {ts us : List T} (h : sys.Path s ts s')
    (h' : sys.Path s' us s'') : sys.Path s (ts ++ us) s'' := by
  induction h with
  | nil => exact h'
  | cons hv _ ih => exact .cons hv (ih h')

theorem Path.valid {s s' : S} {ts : List T} (h : sys.Path s ts s') : ∀ t ∈ ts, sys.Valid t := by
  induction h with
  | nil => simp
  | cons hv _ ih =>
      intro t ht
      rcases List.mem_cons.1 ht with rfl | ht
      · exact hv
      · exact ih t ht

/-- A path of `ts ++ us` passes through a state between the two. -/
theorem Path.split {s s' : S} {ts us : List T} (h : sys.Path s (ts ++ us) s') :
    ∃ m, sys.Path s ts m ∧ sys.Path m us s' := by
  induction ts generalizing s with
  | nil => exact ⟨s, .nil s, h⟩
  | cons t ts ih =>
      rw [List.cons_append] at h
      cases h with
      | cons hv htail =>
          obtain ⟨m, hm, hm'⟩ := ih htail
          exact ⟨m, .cons hv hm, hm'⟩

/-- A path around one of its transitions. -/
theorem Path.split_at {s s' : S} {ts us : List T} {t : T} (h : sys.Path s (ts ++ t :: us) s') :
    sys.Path s ts (sys.source t) ∧ sys.Valid t ∧ sys.Path (sys.target t) us s' := by
  obtain ⟨m, hm, hm'⟩ := h.split
  cases hm' with
  | cons hv htail => exact ⟨hm, hv, htail⟩

/-- A path ends where it started or where one of its transitions did. -/
theorem Path.end_eq {s s' : S} {ts : List T} (h : sys.Path s ts s') :
    s' = s ∨ ∃ t ∈ ts, s' = sys.target t := by
  induction h with
  | nil => exact .inl rfl
  | @cons t ts s' _ _ ih =>
      rcases ih with rfl | ⟨u, hu, rfl⟩
      · exact .inr ⟨t, List.mem_cons_self .., rfl⟩
      · exact .inr ⟨u, List.mem_cons_of_mem _ hu, rfl⟩

/-- A property that every transition of a path preserves holds at its end, and on both sides of each
    of its transitions. -/
theorem Path.invariant {P : S → Prop} {s s' : S} {ts : List T} (h : sys.Path s ts s')
    (hstep : ∀ t ∈ ts, sys.Valid t → P (sys.source t) → P (sys.target t)) (hs : P s) :
    P s' ∧ ∀ t ∈ ts, P (sys.source t) ∧ P (sys.target t) := by
  induction h with
  | nil => exact ⟨hs, by simp⟩
  | @cons t ts s' hv _ ih =>
      have ht := hstep t (List.mem_cons_self ..) hv hs
      obtain ⟨hend, hall⟩ := ih (fun u hu => hstep u (List.mem_cons_of_mem _ hu)) ht
      refine ⟨hend, fun u hu => ?_⟩
      rcases List.mem_cons.1 hu with rfl | hu
      · exact ⟨hs, ht⟩
      · exact hall u hu

/-- A reflexive, transitive relation that every transition of a path respects relates its ends. -/
theorem Path.rel {R : S → S → Prop} (hrefl : ∀ s, R s s)
    (htrans : ∀ {a b c}, R a b → R b c → R a c) {s s' : S} {ts : List T} (h : sys.Path s ts s')
    (hstep : ∀ t ∈ ts, R (sys.source t) (sys.target t)) : R s s' := by
  induction h with
  | nil s => exact hrefl s
  | @cons t ts s' _ _ ih =>
      have hhead := hstep t (List.mem_cons_self ..)
      exact htrans hhead (ih fun u hu => hstep u (List.mem_cons_of_mem _ hu))

/-- A quantity that each transition raises by one when `p` holds of it, and keeps otherwise, grows
    over a path by the number of its transitions with `p`. -/
theorem Path.count {f : S → Nat} {p : T → Bool} {s s' : S} {ts : List T} (h : sys.Path s ts s')
    (hstep : ∀ t ∈ ts, f (sys.target t) = f (sys.source t) + (if p t then 1 else 0)) :
    f s' = f s + ts.countP p := by
  induction h with
  | nil => simp
  | @cons t ts s' _ _ ih =>
      have hhead := hstep t (List.mem_cons_self ..)
      rw [ih fun u hu => hstep u (List.mem_cons_of_mem _ hu), hhead, List.countP_cons]
      omega

/-- A cell that a transition either writes or leaves alone holds, at the end of a path, what was
    written last. -/
theorem Path.last_write {β : Type} {f : S → β} {g : T → Option β} {s s' : S} {ts : List T}
    (h : sys.Path s ts s')
    (hstep : ∀ t, sys.Valid t → f (sys.target t) = (g t).getD (f (sys.source t))) :
    f s' = (ts.reverse.findSome? g).getD (f s) := by
  induction h with
  | nil => rfl
  | @cons t ts s' hv _ ih =>
      rw [ih, hstep t hv, List.reverse_cons, List.findSome?_append]
      cases hlater : ts.reverse.findSome? g with
      | some b => simp
      | none => cases hfirst : g t <;> simp [hfirst]

/-- What is in the state at the end of a path was in it at its start, or some transition brought it
    there. -/
theorem Path.origin {α : Type} {I : S → α → Prop} {B : T → α → Prop} {s s' : S} {ts : List T}
    (h : sys.Path s ts s')
    (hstep : ∀ t, sys.Valid t → ∀ a, I (sys.target t) a → I (sys.source t) a ∨ B t a) {a : α}
    (ha : I s' a) : I s a ∨ ∃ t ∈ ts, B t a := by
  induction h with
  | nil => exact .inl ha
  | @cons t ts s' hv _ ih =>
      rcases ih ha with hfirst | ⟨u, hu, hbrings⟩
      · rcases hstep t hv a hfirst with hstart | hbrings
        · exact .inl hstart
        · exact .inr ⟨t, List.mem_cons_self .., hbrings⟩
      · exact .inr ⟨u, List.mem_cons_of_mem _ hu, hbrings⟩

/-- What holds at the start of a path holds at its end, unless a transition has put an end to it. -/
theorem Path.kept_or_lost {P : S → Prop} {s s' : S} {ts : List T} (h : sys.Path s ts s') (hs : P s) :
    P s' ∨ ∃ pre t post, ts = pre ++ t :: post ∧ P (sys.source t) ∧ ¬ P (sys.target t) := by
  induction h with
  | nil => exact .inl hs
  | @cons t ts s' _ _ ih =>
      by_cases ht : P (sys.target t)
      · rcases ih ht with hend | ⟨pre, u, post, rfl, hu, hu'⟩
        · exact .inl hend
        · exact .inr ⟨t :: pre, u, post, rfl, hu, hu'⟩
      · exact .inr ⟨[], t, ts, rfl, hs, ht⟩

/-- A property of what has happened so far and of where that has led. -/
theorem Path.history {P : List T → S → Prop} {s s' : S} {ts : List T} (h : sys.Path s ts s')
    (hs : P [] s)
    (hstep : ∀ pre t post, ts = pre ++ t :: post → P pre (sys.source t) →
      P (pre ++ [t]) (sys.target t)) :
    P ts s' ∧ ∀ pre t post, ts = pre ++ t :: post → P pre (sys.source t) := by
  -- By induction on how much has happened.
  have hall : ∀ pre post {m : S}, ts = pre ++ post → sys.Path s pre m → P pre m := by
    intro pre
    induction pre using List.reverseRecOn with
    | nil =>
        intro post m _ hpath
        cases hpath
        exact hs
    | append_singleton pre t ih =>
        intro post m hts hpath
        obtain ⟨hpre, -, hlast⟩ := hpath.split_at
        obtain rfl : m = sys.target t := by
          rcases hlast.end_eq with rfl | ⟨u, hu, -⟩
          · rfl
          · cases hu
        have hsplit : ts = pre ++ t :: post := by rw [hts, List.append_assoc]; rfl
        exact hstep pre t post hsplit (ih (t :: post) hsplit hpre)
  refine ⟨hall ts [] (List.append_nil ts).symm h, ?_⟩
  rintro pre t post rfl
  exact hall pre (t :: post) rfl h.split_at.1

/-- An invariant whose step may look back at everything that has happened. -/
theorem Path.invariant_of_history {P : S → Prop} {s s' : S} {ts : List T} (h : sys.Path s ts s')
    (hs : P s)
    (hstep : ∀ pre t post, ts = pre ++ t :: post →
      (∀ u ∈ pre, P (sys.source u) ∧ P (sys.target u)) → P (sys.source t) → P (sys.target t)) :
    P s' ∧ ∀ t ∈ ts, P (sys.source t) ∧ P (sys.target t) := by
  refine (h.history (P := fun pre m => P m ∧ ∀ u ∈ pre, P (sys.source u) ∧ P (sys.target u))
    ⟨hs, by simp⟩ ?_).1
  intro pre t post hts hbefore
  have ht := hstep pre t post hts hbefore.2 hbefore.1
  refine ⟨ht, fun u hu => ?_⟩
  rcases List.mem_append.1 hu with hu | hu
  · exact hbefore.2 u hu
  · rw [List.mem_singleton.1 hu]
    exact ⟨hbefore.1, ht⟩

/-- What can only happen where `Q` does not hold, and makes it hold for good, happens at most once. -/
theorem Path.at_most_once {Q : S → Prop} {K : T → Prop} {s s' : S} {ts us : List T} {t : T}
    (h : sys.Path s (ts ++ t :: us) s')
    (hkeep : ∀ t, sys.Valid t → Q (sys.source t) → Q (sys.target t))
    (honce : ∀ t, sys.Valid t → K t → ¬ Q (sys.source t) ∧ Q (sys.target t)) (ht : K t) :
    (∀ u ∈ ts, ¬ K u) ∧ ∀ u ∈ us, ¬ K u := by
  obtain ⟨hbefore, hvalid, hafter⟩ := h.split_at
  have hlater : ∀ {m m' : S} {vs : List T}, sys.Path m vs m' → Q m → Q m' ∧ ∀ v ∈ vs, ¬ K v := by
    intro m m' vs hpath hm
    obtain ⟨hend, hall⟩ := hpath.invariant (fun v _ hv => hkeep v hv) hm
    exact ⟨hend, fun v hv hK => (honce v (hpath.valid v hv) hK).1 (hall v hv).1⟩
  constructor
  · intro u hu hK
    -- After `u` the property holds up to `t`.
    obtain ⟨front, back, rfl⟩ := List.append_of_mem hu
    obtain ⟨-, huvalid, hrest⟩ := hbefore.split_at
    exact (honce t hvalid ht).1 (hlater hrest (honce u huvalid hK).2).1
  · exact (hlater hafter (honce t hvalid ht).2).2

end TransitionSystem
