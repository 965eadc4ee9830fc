import Mathlib.Data.List.Sort

set_option autoImplicit false

/-! # Paging through an ordered table with a cursor

A client asks for a page, is given a number of rows and a cursor, and asks again with the cursor
until there is none. Here the cursor is a key of the last row of the page and the next query takes
the rows with a smaller key. Every step makes the key smaller, so the client always comes to an end
(`follow_terminates`), and what it has collected is a sorted part of the table
(`follow_sorted`, `follow_subperm`). It is the whole table exactly when no page ends between two
rows with the same key (`follow_perm_iff`). -/

namespace Paging

structure Page (α : Type) where
  items : List α
  next : Option Nat

/-- Follow the cursor from page to page. `none` is a client that has run out of fuel. -/
def follow {α : Type} (get : Option Nat → Page α) : Nat → Option Nat → Option (List α)
  | 0, _ => none
  | fuel + 1, cursor =>
      match (get cursor).next with
      | none => some (get cursor).items
      | some next => (follow get fuel (some next)).map ((get cursor).items ++ ·)

/-- Following pages of mapped rows is mapping the rows that were followed. -/
theorem follow_map {α β : Type} (f : α → β) (get : Option Nat → Page α) (fuel : Nat)
    (cursor : Option Nat) :
    follow (fun c => { items := (get c).items.map f, next := (get c).next }) fuel cursor =
      (follow get fuel cursor).map (List.map f) := by
  induction fuel generalizing cursor with
  | zero => rfl
  | succ fuel ih =>
      rw [follow, follow]
      cases hnext : (get cursor).next with
      | none => rfl
      | some next =>
          simp only [ih, Option.map_map, Function.comp_def, List.map_append]

/-- A row lies below the cursor. -/
def below {α : Type} (key : α → Nat) (cursor : Option Nat) (a : α) : Bool :=
  match cursor with
  | none => true
  | some c => decide (key a < c)

/-- A table with an ordered query: `query cursor` is the rows below the cursor in some order that
    respects `before`, which refines the order of the keys. -/
structure Source (α : Type) where
  rows : List α
  key : α → Nat
  before : α → α → Prop
  query : Option Nat → List α
  perm : ∀ cursor, (query cursor).Perm (rows.filter (below key cursor))
  sorted : ∀ cursor, (query cursor).Pairwise before
  key_le : ∀ {a b : α}, before a b → key b ≤ key a
  before_of_lt : ∀ {a b : α}, key b < key a → before a b

/-- No page of `limit` rows ends between two rows with the same key. -/
def CleanBreaks (limit : Nat) (keys : List Nat) : Prop :=
  ∀ k, 1 ≤ k → k * limit < keys.length → keys[k * limit - 1]? ≠ keys[k * limit]?

/-- The first break, and those of what follows it. -/
theorem cleanBreaks_iff {limit : Nat} (hpos : 0 < limit) {keys : List Nat}
    (hlt : limit < keys.length) :
    CleanBreaks limit keys ↔
      keys[limit - 1]? ≠ keys[limit]? ∧ CleanBreaks limit (keys.drop limit) := by
  constructor
  · intro h
    refine ⟨by simpa using h 1 (Nat.le_refl 1) (by omega), fun k hk hbound => ?_⟩
    rw [List.length_drop] at hbound
    have hsucc : (k + 1) * limit = limit + k * limit := by rw [Nat.succ_mul, Nat.add_comm]
    have hmul : limit ≤ k * limit := Nat.le_mul_of_pos_left limit hk
    have hbreak := h (k + 1) (by omega) (by omega)
    rw [List.getElem?_drop, List.getElem?_drop]
    rwa [hsucc, Nat.add_sub_assoc (by omega)] at hbreak
  · rintro ⟨hfirst, hrest⟩ k hk hbound
    obtain ⟨k, rfl⟩ := Nat.exists_eq_add_of_le hk
    rcases Nat.eq_zero_or_pos k with rfl | hkpos
    · simpa using hfirst
    · have hsucc : (1 + k) * limit = limit + k * limit := by rw [Nat.add_mul, Nat.one_mul]
      have hmul : limit ≤ k * limit := Nat.le_mul_of_pos_left limit hkpos
      have hbreak := hrest k hkpos (by rw [List.length_drop]; omega)
      rw [List.getElem?_drop, List.getElem?_drop] at hbreak
      rwa [hsucc, Nat.add_sub_assoc (by omega)]

namespace Source

variable {α : Type} (s : Source α)

/-- One page: `limit` rows, and a cursor if one more row was there. -/
def page (limit : Nat) (cursor : Option Nat) : Page α :=
  if limit < (s.query cursor).length then
    { items := (s.query cursor).take limit
      next := ((s.query cursor).take limit).getLast?.map s.key }
  else { items := s.query cursor, next := none }

variable {s} {limit : Nat}

theorem mem_query {cursor : Option Nat} {a : α} :
    a ∈ s.query cursor ↔ a ∈ s.rows ∧ below s.key cursor a = true := by
  rw [(s.perm cursor).mem_iff, List.mem_filter]

theorem keys_sorted (cursor : Option Nat) :
    ((s.query cursor).map s.key).Pairwise (fun a b => b ≤ a) := by
  rw [List.pairwise_map]
  exact (s.sorted cursor).imp s.key_le

/-! ## A page that is not the last -/

/-- The cursor a full page gives: its last row is the `limit`-th of the query. -/
theorem page_next {cursor : Option Nat} {c : Nat} (hpos : 0 < limit)
    (h : (s.page limit cursor).next = some c) :
    limit < (s.query cursor).length ∧ ((s.query cursor).map s.key)[limit - 1]? = some c ∧
      (s.page limit cursor).items = (s.query cursor).take limit := by
  unfold page at h ⊢
  split at h
  · next hlt =>
      refine ⟨hlt, ?_, by rw [if_pos hlt]⟩
      rw [List.getLast?_take, if_neg (by omega)] at h
      have hget : (s.query cursor)[limit - 1]? = some (s.query cursor)[limit - 1] :=
        List.getElem?_eq_getElem (by omega)
      rw [List.getElem?_map]
      rw [hget] at h ⊢
      simpa using h
  · cases h

/-- The cursor is the key of a row that was there, so every row below it was there too. -/
theorem below_of_next {cursor : Option Nat} {c : Nat} (hpos : 0 < limit)
    (h : (s.page limit cursor).next = some c) :
    ∀ a, s.key a < c → below s.key cursor a = true := by
  obtain ⟨_, hget, _⟩ := page_next hpos h
  obtain ⟨b, hb, rfl⟩ := List.mem_map.1 (List.mem_of_getElem? hget)
  intro a ha
  have hbelow := (mem_query.1 hb).2
  cases cursor with
  | none => rfl
  | some c' =>
      simp only [below, decide_eq_true_eq] at hbelow ⊢
      omega

/-- The rows of a full page lie at or above its cursor. -/
theorem le_key_of_mem_page {cursor : Option Nat} {c : Nat} (hpos : 0 < limit)
    (h : (s.page limit cursor).next = some c) {a : α} (ha : a ∈ (s.page limit cursor).items) :
    c ≤ s.key a := by
  obtain ⟨hlt, hget, hpage⟩ := page_next hpos h
  rw [hpage] at ha
  obtain ⟨i, hi, rfl⟩ := List.mem_take_iff_getElem.1 ha
  obtain ⟨hlast, hc⟩ := List.getElem?_eq_some_iff.1 hget
  rw [List.getElem_map] at hc
  rcases Nat.lt_or_eq_of_le (Nat.le_sub_one_of_lt (Nat.lt_of_lt_of_le hi (Nat.min_le_left _ _)))
    with hilt | rfl
  · rw [← hc]
    exact s.key_le (List.pairwise_iff_getElem.1 (s.sorted cursor) _ _ _ _ hilt)
  · exact Nat.le_of_eq hc.symm

/-- The rows of a full page are not below its cursor, so what is left comes from the others. -/
theorem query_after {cursor : Option Nat} {c : Nat} (hpos : 0 < limit)
    (h : (s.page limit cursor).next = some c) :
    (s.query (some c)).Perm
      (((s.query cursor).drop limit).filter fun a => decide (s.key a < c)) := by
  obtain ⟨-, -, hpage⟩ := page_next hpos h
  have hbelow := below_of_next hpos h
  have hrows : (s.query (some c)).Perm ((s.query cursor).filter fun a => decide (s.key a < c)) := by
    refine (s.perm (some c)).trans (List.Perm.trans ?_ ((s.perm cursor).filter _).symm)
    rw [List.filter_filter]
    refine List.Perm.of_eq (List.filter_congr fun a _ => ?_)
    by_cases ha : s.key a < c
    · rw [hbelow a ha]
      simp [below, ha]
    · simp [below, ha]
  have hnone : ((s.query cursor).take limit).filter (fun a => decide (s.key a < c)) = [] := by
    rw [List.filter_eq_nil_iff]
    intro a ha
    have hle := le_key_of_mem_page hpos h (hpage.symm ▸ ha)
    simpa using hle
  have hsplit := List.take_append_drop limit (s.query cursor)
  rw [← hsplit, List.filter_append, hnone, List.nil_append] at hrows
  exact hrows

/-- The same, by keys. -/
theorem keys_after {cursor : Option Nat} {c : Nat} (hpos : 0 < limit)
    (h : (s.page limit cursor).next = some c) :
    (s.query (some c)).map s.key =
      (((s.query cursor).map s.key).drop limit).filter (fun k => decide (k < c)) := by
  have hmap := (query_after hpos h).map s.key
  refine List.Perm.eq_of_pairwise (fun a b _ _ h h' => Nat.le_antisymm h' h)
    (s.keys_sorted (some c)) ?_ ?_
  · exact ((s.keys_sorted cursor).drop).filter _
  · rw [← List.map_drop, List.filter_map]
    exact hmap

/-- Nothing is left over exactly when the page did not end inside a key. -/
theorem length_after {cursor : Option Nat} {c : Nat} (hpos : 0 < limit)
    (h : (s.page limit cursor).next = some c) :
    (s.query (some c)).length + limit ≤ (s.query cursor).length ∧
      ((s.query (some c)).length + limit = (s.query cursor).length ↔
        (s.query (some c)).map s.key = ((s.query cursor).map s.key).drop limit) := by
  obtain ⟨hlt, -, -⟩ := page_next hpos h
  have hkeys := keys_after hpos h
  have hlen := congrArg List.length hkeys
  have hle := List.length_filter_le (fun k => decide (k < c))
    (((s.query cursor).map s.key).drop limit)
  rw [List.length_map] at hlen
  rw [List.length_drop, List.length_map] at hle
  refine ⟨by omega, ?_, fun hdrop => ?_⟩
  · intro heq
    rw [hkeys]
    refine List.filter_eq_self.2 (List.length_filter_eq_length_iff.1 ?_)
    rw [List.length_drop, List.length_map]
    omega
  · have hlen' := congrArg List.length hdrop
    rw [List.length_map, List.length_drop, List.length_map] at hlen'
    omega

/-- In keys: what is left is the rest exactly when the next key is another one. -/
theorem keys_after_eq_drop_iff {cursor : Option Nat} {c : Nat} (hpos : 0 < limit)
    (h : (s.page limit cursor).next = some c) :
    (s.query (some c)).map s.key = ((s.query cursor).map s.key).drop limit ↔
      ((s.query cursor).map s.key)[limit - 1]? ≠ ((s.query cursor).map s.key)[limit]? := by
  obtain ⟨hlt, hget, -⟩ := page_next hpos h
  have hlt' : limit < ((s.query cursor).map s.key).length := by rwa [List.length_map]
  have hsorted := s.keys_sorted cursor
  rw [keys_after hpos h, hget, List.getElem?_eq_getElem hlt', ne_eq, Option.some.injEq,
    List.filter_eq_self]
  obtain ⟨hlast, hc⟩ := List.getElem?_eq_some_iff.1 hget
  constructor
  · intro hall heq
    have hmem : ((s.query cursor).map s.key)[limit] ∈ ((s.query cursor).map s.key).drop limit := by
      rw [List.mem_drop_iff_getElem]
      exact ⟨0, by simpa using hlt', by simp⟩
    have := hall _ hmem
    simp only [decide_eq_true_eq] at this
    omega
  · intro hne k hk
    obtain ⟨i, hi, rfl⟩ := List.mem_drop_iff_getElem.1 hk
    have hle : ((s.query cursor).map s.key)[limit] ≤ c := by
      rw [← hc]
      exact List.pairwise_iff_getElem.1 hsorted _ _ hlast hlt' (by omega)
    have hnext : ((s.query cursor).map s.key)[limit + i] ≤
        ((s.query cursor).map s.key)[limit] := by
      rcases Nat.eq_zero_or_pos i with rfl | hpos'
      · exact Nat.le_refl _
      · simp only [Nat.add_comm limit i]
        exact List.pairwise_iff_getElem.1 hsorted _ _ hlt' hi (by omega)
    simp only [decide_eq_true_eq]
    omega

/-! ## Following the cursor -/

theorem follow_step {fuel : Nat} {cursor : Option Nat} {items : List α}
    (h : follow (s.page limit) (fuel + 1) cursor = some items) :
    ((s.page limit cursor).next = none ∧ items = (s.page limit cursor).items) ∨
    ∃ c rest, (s.page limit cursor).next = some c ∧
      follow (s.page limit) fuel (some c) = some rest ∧
      items = (s.page limit cursor).items ++ rest := by
  unfold follow at h
  split at h
  · next hnext => exact .inl ⟨hnext, (Option.some.inj h).symm⟩
  · next c hnext =>
      obtain ⟨rest, hrest, rfl⟩ := Option.map_eq_some_iff.1 h
      exact .inr ⟨c, rest, hnext, hrest, rfl⟩

theorem items_of_last {cursor : Option Nat} (h : (s.page limit cursor).next = none)
    (hpos : 0 < limit) :
    (s.page limit cursor).items = s.query cursor ∧ (s.query cursor).length ≤ limit := by
  unfold page at h ⊢
  split at h
  · next hlt =>
      rw [Option.map_eq_none_iff, List.getLast?_eq_none_iff, List.take_eq_nil_iff] at h
      rcases h with h | h
      · omega
      · rw [h] at hlt
        exact absurd hlt (Nat.not_lt_zero _)
  · next hge => exact ⟨by rw [if_neg hge], Nat.le_of_not_lt hge⟩

/-- With more fuel than rows the client comes to an end, and more fuel changes nothing. -/
theorem follow_terminates (hpos : 0 < limit) (cursor : Option Nat) :
    ∃ items, ∀ fuel, (s.query cursor).length < fuel →
      follow (s.page limit) fuel cursor = some items := by
  induction hn : (s.query cursor).length using Nat.strong_induction_on generalizing cursor with
  | _ n ih =>
      rcases hnext : (s.page limit cursor).next with _ | c
      · refine ⟨(s.page limit cursor).items, fun fuel hfuel => ?_⟩
        obtain ⟨fuel, rfl⟩ := Nat.exists_eq_succ_of_ne_zero (Nat.ne_of_gt (Nat.zero_lt_of_lt hfuel))
        rw [Nat.succ_eq_add_one, follow, hnext]
      · have hless := (length_after hpos hnext).1
        obtain ⟨rest, hrest⟩ := ih (s.query (some c)).length (by omega) (some c) rfl
        refine ⟨(s.page limit cursor).items ++ rest, fun fuel hfuel => ?_⟩
        obtain ⟨fuel, rfl⟩ := Nat.exists_eq_succ_of_ne_zero (Nat.ne_of_gt (Nat.zero_lt_of_lt hfuel))
        rw [Nat.succ_eq_add_one, follow, hnext]
        simp only [hrest fuel (by omega), Option.map_some]

theorem items_sublist (limit : Nat) (cursor : Option Nat) :
    (s.page limit cursor).items.Sublist (s.query cursor) := by
  unfold page
  split
  · exact List.take_sublist _ _
  · exact List.Sublist.refl _

/-- What the client collects is part of the first query and in its order. -/
theorem follow_sorted {fuel : Nat} {cursor : Option Nat} {items : List α} (hpos : 0 < limit)
    (h : follow (s.page limit) fuel cursor = some items) :
    items.Pairwise s.before ∧ items.Subperm (s.query cursor) := by
  induction fuel generalizing cursor items with
  | zero => cases h
  | succ fuel ih =>
      have hitems := s.items_sublist limit cursor
      rcases follow_step h with ⟨hnext, rfl⟩ | ⟨c, rest, hnext, hrest, rfl⟩
      · exact ⟨(s.sorted cursor).sublist hitems, hitems.subperm⟩
      · obtain ⟨hsorted, hsub⟩ := ih hrest
        obtain ⟨hlt, hget, hpage⟩ := page_next hpos hnext
        constructor
        · refine List.pairwise_append.2 ⟨(s.sorted cursor).sublist hitems, hsorted, ?_⟩
          intro a ha b hb
          refine s.before_of_lt (Nat.lt_of_lt_of_le ?_ (le_key_of_mem_page hpos hnext ha))
          have hbelow := (mem_query.1 (hsub.subset hb)).2
          simpa [below] using hbelow
        · rw [hpage]
          have hrest' : rest.Subperm ((s.query cursor).drop limit) :=
            hsub.trans ((query_after hpos hnext).subperm.trans List.filter_sublist.subperm)
          have happ := (List.subperm_append_left ((s.query cursor).take limit)).2 hrest'
          rwa [List.take_append_drop] at happ

/-- How much the client collects: everything, exactly when no page ends inside a key. -/
theorem follow_length {fuel : Nat} {cursor : Option Nat} {items : List α} (hpos : 0 < limit)
    (h : follow (s.page limit) fuel cursor = some items) :
    items.length ≤ (s.query cursor).length ∧
      (items.length = (s.query cursor).length ↔
        CleanBreaks limit ((s.query cursor).map s.key)) := by
  induction fuel generalizing cursor items with
  | zero => cases h
  | succ fuel ih =>
      rcases follow_step h with ⟨hnext, rfl⟩ | ⟨c, rest, hnext, hrest, rfl⟩
      · obtain ⟨hall, hshort⟩ := items_of_last hnext hpos
        rw [hall]
        refine ⟨Nat.le_refl _, iff_of_true rfl fun k hk hlt => ?_⟩
        have hmul : limit ≤ k * limit := Nat.le_mul_of_pos_left limit hk
        rw [List.length_map] at hlt
        omega
      · obtain ⟨hlt, -, hpage⟩ := page_next hpos hnext
        obtain ⟨hle, heq⟩ := length_after hpos hnext
        obtain ⟨hrestle, hrestiff⟩ := ih hrest
        have hlen : ((s.page limit cursor).items ++ rest).length = limit + rest.length := by
          rw [hpage, List.length_append, List.length_take]
          omega
        have hlt' : limit < ((s.query cursor).map s.key).length := by rwa [List.length_map]
        have hbreaks := cleanBreaks_iff hpos hlt'
        refine ⟨by omega, ?_⟩
        rw [hbreaks, ← keys_after_eq_drop_iff hpos hnext]
        constructor
        · intro hall
          have hdrop := heq.1 (by omega)
          exact ⟨hdrop, hdrop ▸ hrestiff.1 (by omega)⟩
        · rintro ⟨hdrop, hclean⟩
          rw [← hdrop] at hclean
          have h1 := heq.2 hdrop
          have h2 := hrestiff.2 hclean
          omega

/-- The client collects the whole table exactly when no page ends inside a key. -/
theorem follow_perm_iff {fuel : Nat} {items : List α} (hpos : 0 < limit)
    (h : follow (s.page limit) fuel none = some items) :
    items.Perm s.rows ↔ CleanBreaks limit ((s.query none).map s.key) := by
  have hrows : (s.query none).Perm s.rows := by
    have hperm := s.perm none
    have hall : s.rows.filter (below s.key none) = s.rows := List.filter_eq_self.2 fun _ _ => rfl
    rwa [hall] at hperm
  rw [← (follow_length hpos h).2]
  constructor
  · intro hperm
    exact (hperm.trans hrows.symm).length_eq
  · intro hlen
    have hsub := (follow_sorted hpos h).2
    exact (hsub.perm_of_length_le (Nat.le_of_eq hlen.symm)).trans hrows

end Source

end Paging
