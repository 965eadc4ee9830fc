import OwneX.Library.Trace

set_option autoImplicit false

/-! # `lib/use-resource.ts`

The hook that loads a resource into a component. Renders, effects, promises and reloads come in any
order. A load that has been overtaken settles into nothing, so that what is shown as loaded has been
loaded by the loader of the render, since the last reload. -/

namespace OwneX

/-! ## The hook -/

/-- `Settled<T>`, for loaders in `L`. -/
structure SettledLoad (L T E : Type) where
  loader : L
  nonce : Nat
  outcome : Except E T

/-- `Resource<T>`, without the function `reload`. -/
inductive Resource (T E : Type) where
  | idle
  /-- `refreshing` tells whether there is data to show meanwhile. -/
  | loading (data : Option T)
  | ready (data : T)
  | error (error : E)

def Resource.ofOutcome {T E : Type} : Except E T → Resource T E
  | .ok data => .ready data
  | .error e => .error e

/-- One run of the effect: its closure, and what its promise has come to. -/
structure EffectRun (L T E : Type) where
  load : L
  nonce : Nat
  cancelled : Bool
  outcome : Option (Except E T)

def EffectRun.cancel {L T E : Type} (run : EffectRun L T E) : EffectRun L T E :=
  { run with cancelled := true }

structure HookState (L T E : Type) where
  settled : Option (SettledLoad L T E)
  nonce : Nat
  /-- What the effect depended on when it ran last. -/
  deps : Option (Option L × Nat)
  /-- The newest first. -/
  runs : List (EffectRun L T E)

namespace HookState

variable {L T E : Type}

def initial : HookState L T E where
  settled := none
  nonce := 0
  deps := none
  runs := []

/-- What a render with a loader and a nonce makes of what has settled. -/
def view [DecidableEq L] (load : Option L) (nonce : Nat) (settled : Option (SettledLoad L T E)) :
    Resource T E :=
  match load with
  | none => .idle
  | some load =>
      match settled with
      | none => .loading none
      | some settled =>
          if settled.loader = load ∧ settled.nonce = nonce then .ofOutcome settled.outcome
          else .loading settled.outcome.toOption

/-- The cleanup of the run before, and then a new run if there is something to load. -/
def flush (s : HookState L T E) (load : Option L) (nonce : Nat) : HookState L T E :=
  { s with
    deps := some (load, nonce)
    runs := (load.map fun load => ⟨load, nonce, false, none⟩).toList ++
      s.runs.modifyHead EffectRun.cancel }

/-- The promise of a run comes to something. -/
def settle (s : HookState L T E) (i : Nat) (run : EffectRun L T E) (outcome : Except E T) :
    HookState L T E :=
  { s with
    runs := s.runs.set i { run with outcome := some outcome }
    settled := if run.cancelled then s.settled else some ⟨run.load, run.nonce, outcome⟩ }

def reload (s : HookState L T E) : HookState L T E :=
  { s with nonce := s.nonce + 1 }

/-- What may happen. An effect runs for a render that may be behind with the nonce. -/
inductive Step (s : HookState L T E) : HookState L T E → Prop
  | effect {load : Option L} {nonce : Nat} (hnonce : nonce ≤ s.nonce) :
      Step s (s.flush load nonce)
  | promise {i : Nat} {run : EffectRun L T E} {outcome : Except E T} (hrun : s.runs[i]? = some run)
      (hopen : run.outcome = none) : Step s (s.settle i run outcome)
  | reload : Step s s.reload

structure Transition (L T E : Type) where
  before : HookState L T E
  after : HookState L T E

/-- Any order of events. -/
def system (L T E : Type) : TransitionSystem (HookState L T E) (Transition L T E) where
  source := Transition.before
  target := Transition.after
  Valid := fun t => t.before.Step t.after

end HookState

/-! ## What is kept -/

/-- The run has come to what is kept as settled. -/
def EffectRun.CameTo {L T E : Type} (run : EffectRun L T E) (x : SettledLoad L T E) : Prop :=
  run.load = x.loader ∧ run.nonce = x.nonce ∧ run.outcome = some x.outcome

namespace HookState

variable {L T E : Type}

/-- The newest run is the only one that may not have been cancelled; what it comes to is kept. -/
structure Coherent (s : HookState L T E) : Prop where
  loaded : ∀ x, s.settled = some x → ∃ run ∈ s.runs, run.CameTo x
  overtaken : ∀ run ∈ s.runs.tail, run.cancelled = true
  newest : ∀ run ∈ s.runs.head?, ∀ outcome, run.cancelled = false → run.outcome = some outcome →
    s.settled = some ⟨run.load, run.nonce, outcome⟩
  current : ∀ load nonce, s.deps = some (some load, nonce) → ∃ run ∈ s.runs.head?,
    run.load = load ∧ run.nonce = nonce ∧ run.cancelled = false
  nonces : ∀ run ∈ s.runs, run.nonce ≤ s.nonce

theorem coherent_initial : (initial : HookState L T E).Coherent where
  loaded := by simp [initial]
  overtaken := by simp [initial]
  newest := by simp [initial]
  current := by simp [initial]
  nonces := by simp [initial]

/-- A run that is cancelled is as it was otherwise. -/
theorem mem_modifyHead {runs : List (EffectRun L T E)} {run : EffectRun L T E}
    (h : run ∈ runs.modifyHead EffectRun.cancel) :
    ∃ old ∈ runs, run.load = old.load ∧ run.nonce = old.nonce ∧ run.outcome = old.outcome := by
  cases runs with
  | nil => cases h
  | cons newest rest =>
      rcases List.mem_cons.1 h with rfl | hrest
      · exact ⟨newest, List.mem_cons_self, rfl, rfl, rfl⟩
      · exact ⟨run, List.mem_cons_of_mem _ hrest, rfl, rfl, rfl⟩

theorem cameTo_modifyHead {runs : List (EffectRun L T E)} {run : EffectRun L T E}
    {x : SettledLoad L T E} (hrun : run ∈ runs) (hx : run.CameTo x) :
    ∃ run' ∈ runs.modifyHead EffectRun.cancel, run'.CameTo x := by
  cases runs with
  | nil => cases hrun
  | cons newest rest =>
      rcases List.mem_cons.1 hrun with rfl | hrest
      · exact ⟨_, List.mem_cons_self, hx⟩
      · exact ⟨run, List.mem_cons_of_mem _ hrest, hx⟩

theorem cancelled_modifyHead {s : HookState L T E} (h : s.Coherent) :
    ∀ run ∈ s.runs.modifyHead EffectRun.cancel, run.cancelled = true := by
  intro run hrun
  have htail := h.overtaken
  cases hruns : s.runs with
  | nil =>
      rw [hruns] at hrun
      cases hrun
  | cons newest rest =>
      rw [hruns] at hrun htail
      rcases List.mem_cons.1 hrun with rfl | hrest
      · rfl
      · exact htail run hrest

/-- An effect cancels the run before it. -/
theorem Coherent.flush {s : HookState L T E} (h : s.Coherent) {load : Option L} {nonce : Nat}
    (hnonce : nonce ≤ s.nonce) : (s.flush load nonce).Coherent where
  loaded := by
    intro x hx
    obtain ⟨run, hrun, hcame⟩ := h.loaded x hx
    obtain ⟨run', hrun', hcame'⟩ := cameTo_modifyHead hrun hcame
    exact ⟨run', List.mem_append_right _ hrun', hcame'⟩
  overtaken := by
    intro run hrun
    refine cancelled_modifyHead h run ?_
    cases load with
    | none => exact List.mem_of_mem_tail hrun
    | some load => exact hrun
  newest := by
    intro run hrun outcome hactive houtcome
    cases load with
    | none =>
        have hcancelled := cancelled_modifyHead h run (List.mem_of_mem_head? hrun)
        rw [hactive] at hcancelled
        cases hcancelled
    | some load =>
        obtain rfl := Option.some.inj hrun
        cases houtcome
  current := by
    intro load' nonce' hdeps
    obtain ⟨rfl, rfl⟩ := Prod.mk.inj (Option.some.inj hdeps)
    exact ⟨_, rfl, rfl, rfl, rfl⟩
  nonces := by
    intro run hrun
    rcases List.mem_append.1 hrun with hnew | hold
    · cases load with
      | none => cases hnew
      | some load =>
          obtain rfl := List.mem_singleton.1 hnew
          exact hnonce
    · obtain ⟨old, hmem, -, heq, -⟩ := mem_modifyHead hold
      rw [heq]
      exact h.nonces old hmem

theorem mem_tail {runs : List (EffectRun L T E)} {run : EffectRun L T E} :
    run ∈ runs.tail ↔ ∃ i, runs[i + 1]? = some run := by
  rw [← List.drop_one, List.mem_iff_getElem?]
  simp only [List.getElem?_drop, Nat.add_comm]

/-- A run that has not been cancelled is the newest. -/
theorem Coherent.eq_zero {s : HookState L T E} (h : s.Coherent) {i : Nat} {run : EffectRun L T E}
    (hrun : s.runs[i]? = some run) (hactive : run.cancelled = false) : i = 0 := by
  cases i with
  | zero => rfl
  | succ i =>
      rw [h.overtaken run (mem_tail.2 ⟨i, hrun⟩)] at hactive
      cases hactive

section Settle

variable {s : HookState L T E} {i : Nat} {run : EffectRun L T E} {outcome : Except E T}

theorem settled_of_cancelled (h : run.cancelled = true) :
    (s.settle i run outcome).settled = s.settled := by
  simp [settle, h]

theorem settled_of_active (h : run.cancelled = false) :
    (s.settle i run outcome).settled = some ⟨run.load, run.nonce, outcome⟩ := by
  simp [settle, h]

/-- At each place there is the run that was there, or the one that has come to something. -/
theorem getElem?_settle (hrun : s.runs[i]? = some run) {j : Nat} {run' : EffectRun L T E}
    (h : (s.settle i run outcome).runs[j]? = some run') :
    s.runs[j]? = some run' ∧ j ≠ i ∨ j = i ∧ run' = { run with outcome := some outcome } := by
  by_cases heq : i = j
  · subst heq
    have hlt := (List.getElem?_eq_some_iff.1 hrun).1
    rw [settle, List.getElem?_set_self hlt] at h
    exact .inr ⟨rfl, (Option.some.inj h).symm⟩
  · rw [settle, List.getElem?_set_ne heq] at h
    exact .inl ⟨h, Ne.symm heq⟩

/-- What had come to something before is still there. -/
theorem mem_settle (hrun : s.runs[i]? = some run) (hopen : run.outcome = none)
    {x : SettledLoad L T E} {old : EffectRun L T E} (hold : old ∈ s.runs)
    (hcame : old.CameTo x) : old ∈ (s.settle i run outcome).runs := by
  obtain ⟨j, hj⟩ := List.mem_iff_getElem?.1 hold
  have hne : i ≠ j := by
    rintro rfl
    obtain rfl := Option.some.inj (hrun.symm.trans hj)
    rw [hcame.2.2] at hopen
    cases hopen
  refine List.mem_iff_getElem?.2 ⟨j, ?_⟩
  rw [settle, List.getElem?_set_ne hne]
  exact hj

theorem mem_settle_self (hrun : s.runs[i]? = some run) :
    { run with outcome := some outcome } ∈ (s.settle i run outcome).runs :=
  List.mem_set (List.getElem?_eq_some_iff.1 hrun).1 _

/-- A promise is heeded for the newest run only. -/
theorem Coherent.settle (h : s.Coherent) (hrun : s.runs[i]? = some run)
    (hopen : run.outcome = none) : (s.settle i run outcome).Coherent where
  loaded := by
    intro x hx
    cases hcancelled : run.cancelled with
    | true =>
        rw [settled_of_cancelled hcancelled] at hx
        obtain ⟨old, hold, hcame⟩ := h.loaded x hx
        exact ⟨old, mem_settle hrun hopen hold hcame, hcame⟩
    | false =>
        rw [settled_of_active hcancelled] at hx
        obtain rfl := Option.some.inj hx
        exact ⟨_, mem_settle_self hrun, rfl, rfl, rfl⟩
  overtaken := by
    intro run' hrun'
    obtain ⟨j, hj⟩ := mem_tail.1 hrun'
    rcases getElem?_settle hrun hj with ⟨hold, -⟩ | ⟨rfl, rfl⟩
    · exact h.overtaken run' (mem_tail.2 ⟨j, hold⟩)
    · exact h.overtaken run (mem_tail.2 ⟨j, hrun⟩)
  newest := by
    intro run' hrun' outcome' hactive houtcome
    rw [Option.mem_def, List.head?_eq_getElem?] at hrun'
    rcases getElem?_settle hrun hrun' with ⟨hold, hne⟩ | ⟨rfl, rfl⟩
    · -- The run that has settled is an older one, which was cancelled.
      have hcancelled : run.cancelled = true := by
        cases hrunning : run.cancelled with
        | true => rfl
        | false => exact absurd (h.eq_zero hrun hrunning).symm hne
      rw [settled_of_cancelled hcancelled]
      exact h.newest run' (by rw [Option.mem_def, List.head?_eq_getElem?, hold]) outcome' hactive
        houtcome
    · obtain rfl := Option.some.inj houtcome
      exact settled_of_active hactive
  current := by
    intro load nonce hdeps
    obtain ⟨newest, hnewest, hload, hnonce, hactive⟩ := h.current load nonce hdeps
    rw [Option.mem_def, List.head?_eq_getElem?] at hnewest
    cases i with
    | zero =>
        obtain rfl := Option.some.inj (hrun.symm.trans hnewest)
        refine ⟨{ run with outcome := some outcome }, ?_, hload, hnonce, hactive⟩
        rw [Option.mem_def, List.head?_eq_getElem?, HookState.settle,
          List.getElem?_set_self (List.getElem?_eq_some_iff.1 hrun).1]
    | succ i =>
        refine ⟨newest, ?_, hload, hnonce, hactive⟩
        rw [Option.mem_def, List.head?_eq_getElem?, HookState.settle,
          List.getElem?_set_ne (Nat.succ_ne_zero i)]
        exact hnewest
  nonces := by
    intro run' hrun'
    obtain ⟨j, hj⟩ := List.mem_iff_getElem?.1 hrun'
    rcases getElem?_settle hrun hj with ⟨hold, -⟩ | ⟨-, rfl⟩
    · exact h.nonces run' (List.mem_iff_getElem?.2 ⟨j, hold⟩)
    · exact h.nonces run (List.mem_iff_getElem?.2 ⟨i, hrun⟩)

end Settle

theorem Coherent.reload {s : HookState L T E} (h : s.Coherent) : s.reload.Coherent where
  loaded := h.loaded
  overtaken := h.overtaken
  newest := h.newest
  current := h.current
  nonces := fun run hrun => Nat.le_succ_of_le (h.nonces run hrun)

theorem Coherent.step {s s' : HookState L T E} (h : s.Coherent) (hstep : s.Step s') :
    s'.Coherent := by
  cases hstep with
  | effect hnonce => exact h.flush hnonce
  | promise hrun hopen => exact h.settle hrun hopen
  | reload => exact h.reload

theorem coherent_path {ts : List (Transition L T E)} {s : HookState L T E}
    (h : (system L T E).Path initial ts s) : s.Coherent :=
  (h.invariant (P := HookState.Coherent) (fun _ _ hvalid hbefore => Coherent.step hbefore hvalid)
    coherent_initial).1

theorem Step.path_cons {s s' s'' : HookState L T E} {ts : List (Transition L T E)}
    (hstep : s.Step s') (h : (system L T E).Path s' ts s'') :
    (system L T E).Path s (⟨s, s'⟩ :: ts) s'' :=
  TransitionSystem.Path.cons (t := (⟨s, s'⟩ : Transition L T E)) hstep h

/-! ## What is shown -/

section View

variable [DecidableEq L] {load : L} {nonce : Nat} {settled : Option (SettledLoad L T E)}

theorem view_settled (load : L) (nonce : Nat) (outcome : Except E T) :
    view (some load) nonce (some ⟨load, nonce, outcome⟩) = Resource.ofOutcome outcome := by
  simp only [view, and_self, if_true]

theorem view_stale {x : SettledLoad L T E} (h : ¬ (x.loader = load ∧ x.nonce = nonce)) :
    view (some load) nonce (some x) = .loading x.outcome.toOption := by
  simp only [view, if_neg h]

/-- What is not shown as loading has settled for this very loader and nonce. -/
theorem view_cases (load : L) (nonce : Nat) (settled : Option (SettledLoad L T E)) :
    (∃ data, view (some load) nonce settled = .loading data ∧
      ∀ shown, data = some shown → ∃ x, settled = some x ∧ x.outcome = .ok shown) ∨
      ∃ outcome, settled = some ⟨load, nonce, outcome⟩ := by
  cases settled with
  | none => exact .inl ⟨none, rfl, fun shown hshown => nomatch hshown⟩
  | some x =>
      by_cases hfresh : x.loader = load ∧ x.nonce = nonce
      · obtain ⟨rfl, rfl⟩ := hfresh
        exact .inr ⟨x.outcome, rfl⟩
      · refine .inl ⟨_, view_stale hfresh, fun shown hshown => ⟨x, rfl, ?_⟩⟩
        cases houtcome : x.outcome with
        | ok data =>
            rw [houtcome] at hshown
            exact congrArg Except.ok (Option.some.inj hshown)
        | error error =>
            rw [houtcome] at hshown
            cases hshown

theorem ofOutcome_injective {outcome outcome' : Except E T}
    (h : Resource.ofOutcome outcome = Resource.ofOutcome outcome') : outcome = outcome' := by
  cases outcome <;> cases outcome' <;> cases h <;> rfl

theorem ofOutcome_ne_loading {outcome : Except E T} {data : Option T} :
    Resource.ofOutcome outcome ≠ .loading data := by
  cases outcome <;> nofun

/-- Whatever the order of events, a render shows for its loader and nonce only what a run for these two
    has come to. Once the run of the last effect has come to something, just this is shown. Data that
    is shown meanwhile has been loaded before, and after a reload everything is loading. -/
theorem resource_current {ts : List (Transition L T E)} {s : HookState L T E}
    (h : (system L T E).Path initial ts s) (load : L) (nonce : Nat) :
    (∀ outcome, view (some load) nonce s.settled = Resource.ofOutcome outcome →
      ∃ run ∈ s.runs, run.load = load ∧ run.nonce = nonce ∧ run.outcome = some outcome) ∧
    (s.deps = some (some load, nonce) →
      ∃ run ∈ s.runs.head?, run.load = load ∧ run.nonce = nonce ∧
        ∀ outcome, run.outcome = some outcome →
          view (some load) nonce s.settled = Resource.ofOutcome outcome) ∧
    (∀ data, view (some load) nonce s.settled = .loading (some data) →
      ∃ run ∈ s.runs, run.outcome = some (.ok data)) ∧
    ∃ data, view (some load) s.reload.nonce s.reload.settled = .loading data := by
  have hcoherent := coherent_path h
  refine ⟨fun outcome hview => ?_, fun hdeps => ?_, fun data hview => ?_, ?_⟩
  · rcases view_cases load nonce s.settled with ⟨data, hloading, -⟩ | ⟨outcome', hsettled⟩
    · exact absurd (hview.symm.trans hloading) ofOutcome_ne_loading
    · rw [hsettled, view_settled] at hview
      obtain rfl := ofOutcome_injective hview
      obtain ⟨run, hrun, hload, hnonce, houtcome⟩ := hcoherent.loaded _ hsettled
      exact ⟨run, hrun, hload, hnonce, houtcome⟩
  · obtain ⟨run, hrun, rfl, rfl, hactive⟩ := hcoherent.current load nonce hdeps
    refine ⟨run, hrun, rfl, rfl, fun outcome houtcome => ?_⟩
    rw [hcoherent.newest run hrun outcome hactive houtcome, view_settled]
  · rcases view_cases load nonce s.settled with ⟨shown, hloading, hshown⟩ | ⟨outcome, hsettled⟩
    · obtain ⟨x, hsettled, houtcome⟩ :=
        hshown data (Resource.loading.inj (hloading.symm.trans hview))
      obtain ⟨run, hrun, -, -, hcame⟩ := hcoherent.loaded x hsettled
      exact ⟨run, hrun, hcame.trans (congrArg some houtcome)⟩
    · rw [hsettled, view_settled] at hview
      exact absurd hview ofOutcome_ne_loading
  · -- No run can be of the nonce that comes next.
    rcases view_cases load s.reload.nonce s.settled with ⟨data, hloading, -⟩ | ⟨outcome, hsettled⟩
    · exact ⟨data, hloading⟩
    · obtain ⟨run, hrun, -, hnonce, -⟩ := hcoherent.loaded _ hsettled
      have hle := hcoherent.nonces run hrun
      rw [hnonce] at hle
      exact absurd hle (Nat.not_succ_le_self _)

end View

end HookState

/-! ## The members are loaded again before they have been loaded -/

namespace Sample

open HookState

def membersLoading : HookState String String Unit :=
  HookState.initial.flush (some "members") 0

def membersReloaded : HookState String String Unit :=
  membersLoading.reload.flush (some "members") 1

/-- The first load comes to something after the second has begun. -/
def membersOvertaken : HookState String String Unit :=
  membersReloaded.settle 1 ⟨"members", 0, true, none⟩ (.ok "before")

def membersReady : HookState String String Unit :=
  membersOvertaken.settle 0 ⟨"members", 1, false, none⟩ (.ok "after")

def membersEvents : List (HookState.Transition String String Unit) :=
  [⟨HookState.initial, membersLoading⟩, ⟨membersLoading, membersLoading.reload⟩,
    ⟨membersLoading.reload, membersReloaded⟩, ⟨membersReloaded, membersOvertaken⟩,
    ⟨membersOvertaken, membersReady⟩]

theorem membersEvents_path :
    (HookState.system String String Unit).Path HookState.initial membersEvents membersReady :=
  Step.path_cons (.effect (Nat.le_refl 0)) <| Step.path_cons .reload <|
    Step.path_cons (.effect (Nat.le_refl 1)) <| Step.path_cons (.promise rfl rfl) <|
      Step.path_cons (.promise rfl rfl) <| .nil _

theorem members_current :
    HookState.view (some "members") 1 membersReady.settled = .ready "after" ∧
      ∃ run ∈ membersReady.runs, run.load = "members" ∧ run.nonce = 1 ∧
        run.outcome = some (.ok "after") :=
  ⟨rfl, (HookState.resource_current membersEvents_path "members" 1).1 (.ok "after") rfl⟩

end Sample

end OwneX
