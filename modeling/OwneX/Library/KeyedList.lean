import Mathlib.Data.List.Nodup
import Mathlib.Data.List.Pairwise

set_option autoImplicit false

/-! # Tables with a unique key

A table is a list of rows no two of which share a key. `insertNew` is `INSERT .. ON CONFLICT (key) DO
NOTHING` for one row, and `insertAllNew` for a batch. A row that is skipped is one whose key is
already there; where keys tell the rows in play apart, nothing but a copy is ever skipped
(`mem_insertAllNew`). `lookup` is a `SELECT` by the key, `modify` an `UPDATE` of the other columns, and
`upsert` an `INSERT .. ON CONFLICT (key) DO UPDATE`. -/

namespace KeyedList

variable {α κ : Type} [DecidableEq κ] (key : α → κ)

/-- Add `a` unless its key is taken. -/
def insertNew (l : List α) (a : α) : List α :=
  if key a ∈ l.map key then l else l ++ [a]

/-- Add a batch, one row after the other. -/
def insertAllNew (l as : List α) : List α :=
  as.foldl (insertNew key) l

@[simp] theorem insertAllNew_nil (l : List α) : insertAllNew key l [] = l := rfl

theorem insertAllNew_cons (l : List α) (a : α) (as : List α) :
    insertAllNew key l (a :: as) = insertAllNew key (insertNew key l a) as := rfl

/-- Two batches are one. -/
theorem insertAllNew_append (l as bs : List α) :
    insertAllNew key l (as ++ bs) = insertAllNew key (insertAllNew key l as) bs :=
  List.foldl_append

variable {key}

theorem nodup_insertNew {l : List α} (h : (l.map key).Nodup) (a : α) :
    ((insertNew key l a).map key).Nodup := by
  unfold insertNew
  split
  · exact h
  next hnew =>
      rw [List.map_append, List.nodup_append]
      refine ⟨h, List.nodup_singleton _, fun k hk k' hk' heq => hnew ?_⟩
      rw [List.map_cons, List.map_nil, List.mem_singleton] at hk'
      rwa [← hk', ← heq]

theorem nodup_insertAllNew {l : List α} (h : (l.map key).Nodup) (as : List α) :
    ((insertAllNew key l as).map key).Nodup := by
  induction as generalizing l with
  | nil => exact h
  | cons a as ih =>
      rw [insertAllNew_cons]
      exact ih (nodup_insertNew h a)

/-- A batch leaves the rows that are there where they are. -/
theorem prefix_insertAllNew (l as : List α) : l <+: insertAllNew key l as := by
  induction as generalizing l with
  | nil => exact List.prefix_rfl
  | cons a as ih =>
      rw [insertAllNew_cons]
      refine List.IsPrefix.trans ?_ (ih _)
      unfold insertNew
      split
      · exact List.prefix_rfl
      · exact List.prefix_append _ _

/-- Where the key tells the rows of a batch apart, a row of the batch gets in exactly when the table
    does not hold its key. -/
theorem mem_insertAllNew_iff {l as : List α} (hinj : ∀ x ∈ as, ∀ y ∈ as, key x = key y → x = y)
    {x : α} : x ∈ insertAllNew key l as ↔ x ∈ l ∨ (x ∈ as ∧ key x ∉ l.map key) := by
  induction as generalizing l with
  | nil => simp
  | cons a as ih =>
      have hrest : ∀ x ∈ as, ∀ y ∈ as, key x = key y → x = y := fun x hx y hy =>
        hinj x (List.mem_cons_of_mem _ hx) y (List.mem_cons_of_mem _ hy)
      rw [insertAllNew_cons, ih hrest]
      by_cases htaken : key a ∈ l.map key
      · rw [insertNew, if_pos htaken, List.mem_cons]
        constructor
        · rintro (hx | ⟨hx, hnew⟩)
          · exact .inl hx
          · exact .inr ⟨.inr hx, hnew⟩
        · rintro (hx | ⟨rfl | hx, hnew⟩)
          · exact .inl hx
          · exact absurd htaken hnew
          · exact .inr ⟨hx, hnew⟩
      · rw [insertNew, if_neg htaken, List.mem_append, List.mem_singleton, List.map_append,
          List.mem_append, List.map_singleton, List.mem_singleton, List.mem_cons]
        constructor
        · rintro ((hx | rfl) | ⟨hx, hnew⟩)
          · exact .inl hx
          · exact .inr ⟨.inl rfl, htaken⟩
          · exact .inr ⟨.inr hx, fun hmem => hnew (.inl hmem)⟩
        · rintro (hx | ⟨rfl | hx, hnew⟩)
          · exact .inl (.inl hx)
          · exact .inl (.inr rfl)
          · by_cases hkey : key x = key a
            · exact .inl (.inr (hinj x (List.mem_cons_of_mem _ hx) a (List.mem_cons_self ..) hkey))
            · exact .inr ⟨hx, fun hmem => hmem.elim hnew hkey⟩

/-- Where the key tells the rows of the table and of the batch apart, every row of the batch gets
    in. -/
theorem mem_insertAllNew {l as : List α}
    (hinj : ∀ x y, x ∈ l ∨ x ∈ as → y ∈ l ∨ y ∈ as → key x = key y → x = y) {x : α} :
    x ∈ insertAllNew key l as ↔ x ∈ l ∨ x ∈ as := by
  rw [mem_insertAllNew_iff fun x hx y hy => hinj x y (.inr hx) (.inr hy)]
  constructor
  · rintro (hx | ⟨hx, -⟩)
    · exact .inl hx
    · exact .inr hx
  · rintro (hx | hx)
    · exact .inl hx
    · -- A row that holds the key of `x` is `x` itself.
      by_cases htaken : key x ∈ l.map key
      · obtain ⟨y, hy, hkey⟩ := List.mem_map.1 htaken
        rw [hinj x y (.inr hx) (.inl hy) hkey.symm]
        exact .inl hy
      · exact .inr ⟨hx, htaken⟩

/-- A batch in which no row satisfies `p` adds none that does. -/
theorem filter_insertAllNew {p : α → Bool} {as : List α} (h : ∀ a ∈ as, p a = false) (l : List α) :
    (insertAllNew key l as).filter p = l.filter p := by
  induction as generalizing l with
  | nil => rfl
  | cons a as ih =>
      rw [insertAllNew_cons, ih fun b hb => h b (List.mem_cons_of_mem _ hb)]
      unfold insertNew
      split
      · rfl
      · rw [List.filter_append, List.filter_singleton, h a (List.mem_cons_self ..)]
        exact List.append_nil _

/-! ## One row -/

omit [DecidableEq κ] in
/-- Equal keys are equal rows. -/
theorem eq_of_key {l : List α} (h : (l.map key).Nodup) {a b : α} (ha : a ∈ l) (hb : b ∈ l)
    (heq : key a = key b) : a = b :=
  List.inj_on_of_nodup_map h ha hb heq

omit [DecidableEq κ] in
/-- A key that not every row has is unique where it is present. -/
theorem eq_of_nodup_filterMap {f : α → Option κ} {l : List α} (h : (l.filterMap f).Nodup)
    {a b : α} (ha : a ∈ l) (hb : b ∈ l) {k : κ} (hfa : f a = some k) (hfb : f b = some k) :
    a = b := by
  have hpair : l.Pairwise fun a b => ∀ k, f a = some k → ∀ k', f b = some k' → k ≠ k' :=
    List.pairwise_filterMap.1 h
  have hsymm : Std.Symm fun a b => ∀ k, f a = some k → ∀ k', f b = some k' → k ≠ k' :=
    ⟨fun _ _ hab k hk k' hk' => (hab k' hk' k hk).symm⟩
  by_contra hne
  exact hpair.forall ha hb hne k hfa k hfb rfl

variable (key) in
/-- The row with a given key. -/
def lookup (l : List α) (k : κ) : Option α :=
  l.find? fun a => key a = k

theorem key_of_lookup {l : List α} {k : κ} {a : α} (h : lookup key l k = some a) : key a = k := by
  have hkey := List.find?_some h
  exact of_decide_eq_true hkey

theorem lookup_eq_some_iff {l : List α} (h : (l.map key).Nodup) {k : κ} {a : α} :
    lookup key l k = some a ↔ a ∈ l ∧ key a = k := by
  constructor
  · intro hfind
    exact ⟨List.mem_of_find?_eq_some hfind, key_of_lookup hfind⟩
  · rintro ⟨ha, rfl⟩
    cases hfind : lookup key l (key a) with
    | none =>
        have hnone := List.find?_eq_none.1 hfind a ha
        simp at hnone
    | some b =>
        rw [eq_of_key h (List.mem_of_find?_eq_some hfind) ha (key_of_lookup hfind)]

theorem lookup_eq_none_iff {l : List α} {k : κ} : lookup key l k = none ↔ k ∉ l.map key := by
  unfold lookup
  rw [List.find?_eq_none]
  simp

/-- Change the rows that satisfy `p`. -/
def modify (p : α → Bool) (f : α → α) (l : List α) : List α :=
  l.map fun a => if p a then f a else a

theorem mem_modify {p : α → Bool} {f : α → α} {l : List α} {b : α} :
    b ∈ modify p f l ↔ ∃ a ∈ l, (if p a then f a else a) = b :=
  List.mem_map

omit [DecidableEq κ] in
theorem map_key_modify {p : α → Bool} {f : α → α} (hf : ∀ a, key (f a) = key a) (l : List α) :
    (modify p f l).map key = l.map key := by
  unfold modify
  rw [List.map_map]
  refine List.map_congr_left fun a _ => ?_
  rw [Function.comp_apply]
  split
  · exact hf a
  · rfl

omit [DecidableEq κ] in
theorem nodup_modify {p : α → Bool} {f : α → α} (hf : ∀ a, key (f a) = key a) {l : List α}
    (h : (l.map key).Nodup) : ((modify p f l).map key).Nodup := by
  rw [map_key_modify hf]
  exact h

/-- What is found under a key after other columns have been changed. -/
theorem lookup_modify {p : α → Bool} {f : α → α} (hf : ∀ a, key (f a) = key a) (l : List α) (k : κ) :
    lookup key (modify p f l) k = (lookup key l k).map fun a => if p a then f a else a := by
  unfold lookup modify
  rw [List.find?_map]
  congr 2
  funext a
  rw [Function.comp_apply]
  split
  · rw [hf]
  · rfl

variable (key) in
/-- Change the row with the given key, or add a new one. -/
def upsert (k : κ) (new : α) (f : α → α) (l : List α) : List α :=
  if k ∈ l.map key then modify (fun a => key a = k) f l else l ++ [new]

/-- Where the rows of an upsert come from. -/
theorem mem_upsert {k : κ} {new : α} {f : α → α} {l : List α} {b : α}
    (h : b ∈ upsert key k new f l) :
    b ∈ l ∨ (∃ a ∈ l, key a = k ∧ b = f a) ∨ k ∉ l.map key ∧ b = new := by
  unfold upsert at h
  split at h
  · obtain ⟨a, ha, rfl⟩ := mem_modify.1 h
    split
    next hkey => exact .inr (.inl ⟨a, ha, of_decide_eq_true hkey, rfl⟩)
    · exact .inl ha
  next hnew =>
      rcases List.mem_append.1 h with hold | hlast
      · exact .inl hold
      · exact .inr (.inr ⟨hnew, List.mem_singleton.1 hlast⟩)

theorem nodup_upsert {k : κ} {new : α} {f : α → α} (hnew : key new = k)
    (hf : ∀ a, key (f a) = key a) {l : List α} (h : (l.map key).Nodup) :
    ((upsert key k new f l).map key).Nodup := by
  unfold upsert
  split
  · exact nodup_modify hf h
  next hthere =>
      rw [List.map_append, List.map_singleton, hnew, ← List.concat_eq_append]
      exact List.Nodup.concat hthere h

/-- An upsert leaves every key where it is. -/
theorem keys_subset_upsert (k : κ) (new : α) {f : α → α} (hf : ∀ a, key (f a) = key a)
    (l : List α) : l.map key ⊆ (upsert key k new f l).map key := by
  unfold upsert
  split
  · rw [map_key_modify hf]
    exact List.Subset.refl _
  · rw [List.map_append]
    exact List.subset_append_left _ _

/-- Under its key there is what was written, and under every other key what was there. -/
theorem lookup_upsert {k : κ} {new : α} {f : α → α} (hnew : key new = k)
    (hf : ∀ a, key (f a) = key a) (l : List α) (k' : κ) :
    lookup key (upsert key k new f l) k' =
      if k' = k then some ((lookup key l k).elim new f) else lookup key l k' := by
  unfold upsert
  by_cases hthere : k ∈ l.map key
  · rw [if_pos hthere, lookup_modify hf]
    by_cases hk : k' = k
    · subst hk
      rw [if_pos rfl]
      cases hfound : lookup key l k' with
      | none => exact absurd hthere (lookup_eq_none_iff.1 hfound)
      | some a =>
          have hkey := key_of_lookup hfound
          rw [Option.map_some, if_pos (decide_eq_true hkey)]
          rfl
    · rw [if_neg hk]
      cases hfound : lookup key l k' with
      | none => rfl
      | some a =>
          have hkey := key_of_lookup hfound
          rw [Option.map_some, if_neg]
          simpa [hkey] using hk
  · rw [if_neg hthere]
    have hnone : lookup key l k = none := lookup_eq_none_iff.2 hthere
    unfold lookup at hnone ⊢
    rw [List.find?_append]
    by_cases hk : k' = k
    · subst hk
      rw [if_pos rfl, hnone]
      simp [hnew]
    · rw [if_neg hk, List.find?_singleton, if_neg]
      · rw [Option.or_none]
      · simpa [hnew] using fun h : k = k' => hk h.symm

/-! ## Row after row -/

variable {β : Type} (key) (f : β → α → α)

/-- What becomes of a row where every key is given at most one change. -/
def changed (changes : List (κ × β)) (a : α) : α :=
  (lookup Prod.fst changes (key a)).elim a fun change => f change.2 a

@[simp] theorem changed_nil (a : α) : changed key f [] a = a := rfl

variable {key f}

theorem key_changed (hf : ∀ b a, key (f b a) = key a) (changes : List (κ × β)) (a : α) :
    key (changed key f changes a) = key a := by
  unfold changed
  cases lookup Prod.fst changes (key a) with
  | none => rfl
  | some change => exact hf change.2 a

theorem changed_of_mem {changes : List (κ × β)} (h : (changes.map Prod.fst).Nodup) {k : κ} {b : β}
    (hmem : (k, b) ∈ changes) {a : α} (hk : key a = k) : changed key f changes a = f b a := by
  unfold changed
  rw [(lookup_eq_some_iff h).2 ⟨hmem, hk.symm⟩]
  rfl

theorem changed_of_notMem {changes : List (κ × β)} {a : α} (h : key a ∉ changes.map Prod.fst) :
    changed key f changes a = a := by
  unfold changed
  rw [lookup_eq_none_iff.2 h]
  rfl

/-- To change a row, and then the others, is to change them all. -/
theorem map_changed_modify (hf : ∀ b a, key (f b a) = key a) {k : κ} {b : β}
    {changes : List (κ × β)} (hnew : k ∉ changes.map Prod.fst) (l : List α) :
    (modify (fun a => key a = k) (f b) l).map (changed key f changes) =
      l.map (changed key f ((k, b) :: changes)) := by
  unfold modify
  rw [List.map_map]
  refine List.map_congr_left fun a _ => ?_
  rw [Function.comp_apply]
  by_cases hk : key a = k
  · have hskip : key (f b a) ∉ changes.map Prod.fst := by
      rwa [hf, hk]
    rw [if_pos (decide_eq_true hk), changed_of_notMem hskip]
    simp [changed, lookup, hk]
  · have hother : k ≠ key a := fun h => hk h.symm
    simp [changed, lookup, hk, hother]

end KeyedList
