import Mathlib.Data.List.Nodup

set_option autoImplicit false

/-! # Greedy matchings

Claims are served in order, and each is given the first candidate that fits it and has not been given
away. A candidate has a key, and it is the keys that are remembered. No candidate is given away twice
(`nodup_matching`), and a claim that goes away empty-handed has seen every candidate that would fit it
given away, if not before its turn then after it (`taken_of_unmatched`). -/

namespace GreedyMatching

variable {τ δ κ : Type} [DecidableEq κ] (key : δ → κ) (fits : τ → δ → Bool) (candidates : List δ)

/-- The first candidate that is free and fits. -/
def firstFree (claim : τ) (taken : List κ) : Option δ :=
  candidates.find? fun candidate => !decide (key candidate ∈ taken) && fits claim candidate

def matching : List τ → List κ → List (τ × δ)
  | [], _ => []
  | claim :: claims, taken =>
      match firstFree key fits candidates claim taken with
      | none => matching claims taken
      | some candidate => (claim, candidate) :: matching claims (key candidate :: taken)

variable {key fits candidates}

theorem firstFree_eq_some {claim : τ} {taken : List κ} {candidate : δ}
    (h : firstFree key fits candidates claim taken = some candidate) :
    candidate ∈ candidates ∧ key candidate ∉ taken ∧ fits claim candidate = true := by
  have hfound := List.find?_some h
  simp only [Bool.and_eq_true, Bool.not_eq_true', decide_eq_false_iff_not] at hfound
  exact ⟨List.mem_of_find?_eq_some h, hfound.1, hfound.2⟩

theorem taken_of_firstFree {claim : τ} {taken : List κ}
    (h : firstFree key fits candidates claim taken = none) {candidate : δ}
    (hcandidate : candidate ∈ candidates) (hfits : fits claim candidate = true) :
    key candidate ∈ taken := by
  have hnone := List.find?_eq_none.1 h candidate hcandidate
  simpa [hfits] using hnone

/-- Claims are served at most once each, and in order. -/
theorem matching_sublist (claims : List τ) (taken : List κ) :
    ((matching key fits candidates claims taken).map (·.1)).Sublist claims := by
  induction claims generalizing taken with
  | nil => exact List.Sublist.refl _
  | cons claim claims ih =>
      rw [matching]
      split
      · exact (ih taken).cons claim
      · exact (ih _).cons_cons claim

/-- What is given away is a candidate that was free and fits. -/
theorem of_mem_matching {claims : List τ} {taken : List κ} {claim : τ} {candidate : δ}
    (h : (claim, candidate) ∈ matching key fits candidates claims taken) :
    claim ∈ claims ∧ candidate ∈ candidates ∧ key candidate ∉ taken ∧
      fits claim candidate = true := by
  induction claims generalizing taken with
  | nil => simp [matching] at h
  | cons claim' claims ih =>
      rw [matching] at h
      split at h
      · obtain ⟨hclaim, hrest⟩ := ih h
        exact ⟨List.mem_cons_of_mem _ hclaim, hrest⟩
      next candidate' hfound =>
          rcases List.mem_cons.1 h with heq | hmem
          · obtain ⟨rfl, rfl⟩ := Prod.mk.inj heq
            exact ⟨List.mem_cons_self .., firstFree_eq_some hfound⟩
          · obtain ⟨hclaim, hcandidate, hfree, hfits⟩ := ih hmem
            exact ⟨List.mem_cons_of_mem _ hclaim, hcandidate,
              fun htaken => hfree (List.mem_cons_of_mem _ htaken), hfits⟩

/-- No candidate is given away twice. -/
theorem nodup_matching (claims : List τ) (taken : List κ) :
    ((matching key fits candidates claims taken).map fun pair => key pair.2).Nodup := by
  induction claims generalizing taken with
  | nil => exact List.nodup_nil
  | cons claim claims ih =>
      rw [matching]
      split
      · exact ih taken
      · rw [List.map_cons, List.nodup_cons]
        refine ⟨fun hagain => ?_, ih _⟩
        obtain ⟨⟨claim', candidate'⟩, hmem, hkey⟩ := List.mem_map.1 hagain
        -- What comes later was free when this one was already taken.
        obtain ⟨-, -, hfree, -⟩ := of_mem_matching hmem
        exact hfree (hkey ▸ List.mem_cons_self ..)

/-- A claim that is not served leaves no candidate over that fits it. -/
theorem taken_of_unmatched {claims : List τ} {taken : List κ} {claim : τ} (hclaim : claim ∈ claims)
    (hnot : claim ∉ (matching key fits candidates claims taken).map (·.1)) {candidate : δ}
    (hcandidate : candidate ∈ candidates) (hfits : fits claim candidate = true) :
    key candidate ∈ taken ∨
      key candidate ∈ (matching key fits candidates claims taken).map fun pair => key pair.2 := by
  induction claims generalizing taken with
  | nil => simp at hclaim
  | cons claim' claims ih =>
      rw [matching] at hnot ⊢
      split at hnot
      next hnone =>
          rcases List.mem_cons.1 hclaim with rfl | hmem
          · exact .inl (taken_of_firstFree hnone hcandidate hfits)
          · exact ih hmem hnot
      next candidate' hfound =>
          rw [List.map_cons, List.mem_cons, not_or] at hnot
          have hmem := (List.mem_cons.1 hclaim).resolve_left hnot.1
          rw [List.map_cons, List.mem_cons]
          rcases ih hmem hnot.2 with htaken | hlater
          · rcases List.mem_cons.1 htaken with hkey | hbefore
            · exact .inr (.inl hkey)
            · exact .inl hbefore
          · exact .inr (.inr hlater)

end GreedyMatching
