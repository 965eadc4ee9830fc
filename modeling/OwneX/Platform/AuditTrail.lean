import OwneX.Platform.AuditLog
import OwneX.Contracts.Runs
import OwneX.Library.Paging

set_option autoImplicit false

/-! # `GET /api/audit`: paging the audit trail

The query is ordered by block number and log index, both descending, and asks for one row more than
the limit to learn whether there is a next page. The cursor is the block number of the last row, and
the next page takes the rows of earlier blocks: a client that follows it misses whatever the last
block still had to offer. The endpoint is modelled after `requirePermission` has let the caller
through. -/

namespace OwneX

open Paging KeyedList

/-- The parsed query string, less the cursor. -/
structure AuditQuery where
  orgId : Nat
  event : Option String
  wallet : Option Address
  tokenId : Option Nat
  contract : Option ContractName
  limit : { n : Nat // 1 ≤ n ∧ n ≤ 200 }

structure AuditEvent where
  id : String
  contract : ContractName
  event : String
  orgId : Option Nat
  actor : Option Address
  subject : Option Address
  tokenId : Option Nat
  txHash : String
  blockNumber : Nat
  payload : List (String × PayloadValue)
  explorerUrl : Option String
deriving DecidableEq

structure AuditPage where
  orgId : Nat
  count : Nat
  hasMore : Bool
  nextCursor : Option Nat
  events : List AuditEvent

/-- `row` may stand before `row'` in the descending order of block number and log index. -/
def AuditRow.Before (row row' : AuditRow) : Prop :=
  row'.blockNumber.1 < row.blockNumber.1 ∨
    (row'.blockNumber.1 = row.blockNumber.1 ∧ row'.logIndex ≤ row.logIndex)

instance : DecidableRel AuditRow.Before := fun row row' =>
  inferInstanceAs (Decidable (row'.blockNumber.1 < row.blockNumber.1 ∨
    (row'.blockNumber.1 = row.blockNumber.1 ∧ row'.logIndex ≤ row.logIndex)))

/-- How the database answers `ORDER BY block_number DESC, log_index DESC`: rows that tie come in any
    order. -/
structure RowOrder where
  sort : List AuditRow → List AuditRow
  perm : ∀ rows, (sort rows).Perm rows
  sorted : ∀ rows, (sort rows).Pairwise AuditRow.Before

/-- The ids that the database has drawn for the rows. -/
structure RowIds (cache : AuditCache) where
  id : AuditRow → String
  primaryKey : (cache.rows.map id).Nodup

/-- `explorer.replace(/\/$/, "")` followed by the transaction. -/
def explorerLink (explorer txHash : String) : String :=
  let chars := explorer.toList
  let base := if chars.getLast? = some '/' then String.ofList chars.dropLast else explorer
  base ++ "/tx/" ++ txHash

namespace AuditQuery

variable (q : AuditQuery)

/-- Every filter but the cursor. An empty event name filters nothing. -/
def accepts (row : AuditRow) : Bool :=
  (row.orgId == some q.orgId || row.orgId == none)
    && (match q.event with
      | none => true
      | some event => event == "" || row.eventName == event)
    && (match q.contract with
      | none => true
      | some contract => row.contractName == contract)
    && (match q.tokenId with
      | none => true
      | some tokenId => row.tokenId == some tokenId)
    && (match q.wallet with
      | none => true
      | some wallet => row.actorWallet == some wallet || row.subjectWallet == some wallet)

/-- The rows a client is after. -/
def matching (cache : AuditCache) : List AuditRow :=
  cache.rows.filter q.accepts

def toEvent (id : AuditRow → String) (explorer : Option String) (row : AuditRow) :
    AuditEvent where
  id := id row
  contract := row.contractName
  event := row.eventName
  orgId := row.orgId.map JsNumber.toNumber
  actor := row.actorWallet
  subject := row.subjectWallet
  tokenId := row.tokenId.map JsNumber.toNumber
  txHash := row.txHash
  blockNumber := JsNumber.toNumber row.blockNumber.1
  payload := row.payload
  explorerUrl := explorer.map (explorerLink · row.txHash)

/-- The response to one request. -/
def get (order : RowOrder) (cache : AuditCache) (ids : RowIds cache) (explorer : Option String)
    (cursor : Option Nat) : AuditPage :=
  let rows := (order.sort (cache.rows.filter fun row => q.accepts row &&
    (match cursor with
      | none => true
      | some c => decide (row.blockNumber.1 < c)))).take (q.limit.1 + 1)
  let hasMore := decide (q.limit.1 < rows.length)
  let page := if hasMore then rows.take q.limit.1 else rows
  { orgId := q.orgId
    count := page.length
    hasMore
    nextCursor :=
      if hasMore then page.getLast?.map fun row => JsNumber.toNumber row.blockNumber.1 else none
    events := page.map (toEvent ids.id explorer) }

/-- The client's view of a response: its events, and where to go on if there is more. -/
def page (order : RowOrder) (cache : AuditCache) (ids : RowIds cache) (explorer : Option String)
    (cursor : Option Nat) : Page AuditEvent :=
  let response := q.get order cache ids explorer cursor
  { items := response.events, next := if response.hasMore then response.nextCursor else none }

/-! ## The table as a source of pages -/

/-- The matching rows, keyed by block number. -/
def source (order : RowOrder) (cache : AuditCache) : Source AuditRow where
  rows := q.matching cache
  key := fun row => row.blockNumber.1
  before := AuditRow.Before
  query := fun cursor =>
    order.sort ((q.matching cache).filter (below (fun row => row.blockNumber.1) cursor))
  perm := fun _ => order.perm _
  sorted := fun _ => order.sorted _
  key_le := fun h => by
    rcases h with h | ⟨h, -⟩ <;> omega
  before_of_lt := .inl

/-- The endpoint serves the pages of the source. -/
theorem page_eq (order : RowOrder) (cache : AuditCache) (ids : RowIds cache)
    (explorer : Option String) (cursor : Option Nat) :
    q.page order cache ids explorer cursor =
      { items := ((q.source order cache).page q.limit.1 cursor).items.map (toEvent ids.id explorer)
        next := ((q.source order cache).page q.limit.1 cursor).next } := by
  have hrows : (cache.rows.filter fun row => q.accepts row &&
      (match cursor with
        | none => true
        | some c => decide (row.blockNumber.1 < c))) =
      (q.matching cache).filter (below (fun row => row.blockNumber.1) cursor) := by
    rw [matching, List.filter_filter]
    refine List.filter_congr fun row _ => ?_
    rw [Bool.and_comm]
    rfl
  unfold page get
  rw [hrows]
  generalize hquery : order.sort _ = rows
  have hsource : (q.source order cache).query cursor = rows := hquery
  rw [Source.page, hsource]
  by_cases hmore : q.limit.1 < rows.length
  · have htake : q.limit.1 < (rows.take (q.limit.1 + 1)).length := by
      rw [List.length_take]
      omega
    simp only [htake, hmore, decide_true, if_true, List.take_take,
      Nat.min_eq_left (Nat.le_succ q.limit.1), JsNumber.toNumber_safeInt]
    rfl
  · have htake : ¬ q.limit.1 < (rows.take (q.limit.1 + 1)).length := by
      rw [List.length_take]
      omega
    simp only [htake, hmore, decide_false, Bool.false_eq_true, if_false]
    rw [List.take_of_length_le (by omega)]

/-- The events tell the rows apart. -/
theorem toEvent_inj {cache : AuditCache} (ids : RowIds cache) {explorer : Option String}
    {rows rows' : List AuditRow} (hrows : rows ⊆ cache.rows) (hrows' : rows' ⊆ cache.rows)
    (h : rows.map (toEvent ids.id explorer) = rows'.map (toEvent ids.id explorer)) :
    rows = rows' := by
  induction rows generalizing rows' with
  | nil =>
      rw [List.map_nil, eq_comm, List.map_eq_nil_iff] at h
      exact h.symm
  | cons row rows ih =>
      cases rows' with
      | nil => cases h
      | cons row' rows' =>
          obtain ⟨hevent, htail⟩ := List.cons.inj h
          have hid : ids.id row = ids.id row' := congrArg AuditEvent.id hevent
          obtain ⟨hrow, hrest⟩ := List.cons_subset.1 hrows
          obtain ⟨hrow', hrest'⟩ := List.cons_subset.1 hrows'
          rw [eq_of_key ids.primaryKey hrow hrow' hid, ih hrest hrest' htail]

/-- The client always comes to an end. What it has seen are matching rows in descending order, and all
    of them exactly when no page ends inside a block. -/
theorem follow_rows (order : RowOrder) (cache : AuditCache) (ids : RowIds cache)
    (explorer : Option String) :
    ∃ rows : List AuditRow,
      (∀ fuel, cache.rows.length < fuel →
        follow (q.page order cache ids explorer) fuel none =
          some (rows.map (toEvent ids.id explorer))) ∧
      rows.Pairwise AuditRow.Before ∧ rows ⊆ q.matching cache ∧
      (rows.Perm (q.matching cache) ↔
        CleanBreaks q.limit.1
          (((q.matching cache).map fun row => row.blockNumber.1).insertionSort (· ≥ ·))) := by
  have hpos : 0 < q.limit.1 := q.limit.2.1
  obtain ⟨rows, hrows⟩ := (q.source order cache).follow_terminates hpos none
  have hall : (q.matching cache).filter (below (fun row => row.blockNumber.1) none) =
      q.matching cache := List.filter_eq_self.2 fun _ _ => rfl
  have hperm := (q.source order cache).perm none
  have hrows' : ((q.source order cache).rows.filter
      (below (q.source order cache).key none)) = q.matching cache := hall
  rw [hrows'] at hperm
  have hbound : ((q.source order cache).query none).length ≤ cache.rows.length := by
    rw [hperm.length_eq]
    exact List.length_filter_le _ _
  have hfollow := hrows (((q.source order cache).query none).length + 1) (Nat.lt_succ_self _)
  obtain ⟨hsorted, hsub⟩ := Source.follow_sorted hpos hfollow
  refine ⟨rows, fun fuel hfuel => ?_, hsorted, fun row hrow => hperm.subset (hsub.subset hrow), ?_⟩
  · have hpage : q.page order cache ids explorer = fun c =>
        { items := ((q.source order cache).page q.limit.1 c).items.map (toEvent ids.id explorer)
          next := ((q.source order cache).page q.limit.1 c).next } :=
      funext (q.page_eq order cache ids explorer)
    rw [hpage, follow_map, hrows fuel (Nat.lt_of_le_of_lt hbound hfuel), Option.map_some]
  · have hiff := Source.follow_perm_iff hpos hfollow
    have hkeys : ((q.source order cache).query none).map (q.source order cache).key =
        ((q.matching cache).map fun row => row.blockNumber.1).insertionSort (· ≥ ·) :=
      List.Perm.eq_of_pairwise (fun a b _ _ h h' => Nat.le_antisymm h' h)
        (Source.keys_sorted none) (List.pairwise_insertionSort _ _)
        ((hperm.map (q.source order cache).key).trans (List.perm_insertionSort _ _).symm)
    rwa [hkeys] at hiff

end AuditQuery

/-- The client always comes to an end, with the events of matching rows in descending order. These are
    all the matching rows, each once, exactly when no page ends inside a block. -/
theorem AuditQuery.follow_complete_iff (q : AuditQuery) (order : RowOrder) (cache : AuditCache)
    (ids : RowIds cache) (explorer : Option String) :
    (∃ rows : List AuditRow,
      (∀ fuel, cache.rows.length < fuel →
        follow (q.page order cache ids explorer) fuel none =
          some (rows.map (toEvent ids.id explorer))) ∧
      rows.Pairwise AuditRow.Before ∧ rows ⊆ q.matching cache) ∧
    ((∃ rows : List AuditRow,
      (∀ fuel, cache.rows.length < fuel →
        follow (q.page order cache ids explorer) fuel none =
          some (rows.map (toEvent ids.id explorer))) ∧
      rows.Pairwise AuditRow.Before ∧ rows.Perm (q.matching cache)) ↔
        CleanBreaks q.limit.1
          (((q.matching cache).map fun row => row.blockNumber.1).insertionSort (· ≥ ·))) := by
  obtain ⟨rows, hfollow, hsorted, hsub, hiff⟩ := q.follow_rows order cache ids explorer
  refine ⟨⟨rows, hfollow, hsorted, hsub⟩, ?_, fun hclean => ⟨rows, hfollow, hsorted, hiff.2 hclean⟩⟩
  rintro ⟨rows', hfollow', -, hperm⟩
  have hmatching : q.matching cache ⊆ cache.rows := List.filter_subset_self _
  have hevents := (hfollow _ (Nat.lt_succ_self _)).symm.trans (hfollow' _ (Nat.lt_succ_self _))
  -- The ids pin the rows.
  obtain rfl := toEvent_inj ids (List.Subset.trans hsub hmatching)
    (List.Subset.trans hperm.subset hmatching) (Option.some.inj hevents)
  exact hiff.1 hperm

/-! ## A new member, seen one event at a time -/

theorem AuditRow.before_total (row row' : AuditRow) : row.Before row' ∨ row'.Before row := by
  unfold Before
  omega

theorem AuditRow.before_trans {row row' row'' : AuditRow} (h : row.Before row')
    (h' : row'.Before row'') : row.Before row'' := by
  unfold Before at h h' ⊢
  omega

instance : Std.Total AuditRow.Before := ⟨AuditRow.before_total⟩

instance : IsTrans AuditRow AuditRow.Before := ⟨fun _ _ _ => AuditRow.before_trans⟩

/-- A database that sorts by insertion. -/
def RowOrder.insertion : RowOrder where
  sort := List.insertionSort AuditRow.Before
  perm := List.perm_insertionSort _
  sorted := List.pairwise_insertionSort _

/-- A database that counts on its fingers. -/
def RowIds.tally (cache : AuditCache) : RowIds cache where
  id row := String.ofList (List.replicate (cache.rows.idxOf row) 'x')
  primaryKey := by
    refine List.Nodup.map_on (fun row hrow row' _ heq => ?_) (List.Nodup.of_map _ cache.unique)
    have hlength := congrArg List.length (String.ofList_injective heq)
    rw [List.length_replicate, List.length_replicate] at hlength
    exact (List.idxOf_inj hrow).1 hlength

namespace Sample

/-- The two rows of `addMember(1, bob, ..)` in block 7. -/
def memberRow (eventName : String) (logIndex : Nat) : AuditRow where
  contractName := .orgAccessManager
  eventName := eventName
  orgId := some 1
  actorWallet := some alice
  subjectWallet := some bob
  tokenId := none
  txHash := "0x07"
  blockNumber := ⟨7, by decide⟩
  logIndex := logIndex
  payload := []

def memberCache : AuditCache where
  rows := [memberRow "MemberAdded" 0, memberRow "RoleAssigned" 1]
  unique := by decide

def oneByOne : AuditQuery where
  orgId := 1
  event := none
  wallet := none
  tokenId := none
  contract := none
  limit := ⟨1, by decide⟩

/-- With a limit of 1 the client is shown `RoleAssigned` and never `MemberAdded`. -/
theorem oneByOne_loses :
    ¬ ∀ (q : AuditQuery) (order : RowOrder) (cache : AuditCache) (ids : RowIds cache)
        (explorer : Option String),
      ∃ rows : List AuditRow,
        (∀ fuel, cache.rows.length < fuel →
          follow (q.page order cache ids explorer) fuel none =
            some (rows.map (AuditQuery.toEvent ids.id explorer))) ∧
        rows.Pairwise AuditRow.Before ∧ rows.Perm (q.matching cache) := by
  intro hall
  obtain ⟨rows, hfollow, -, hperm⟩ := hall oneByOne .insertion memberCache (.tally _) none
  have hone : (follow (oneByOne.page .insertion memberCache (.tally _) none) 3 none).map
      List.length = some 1 := by decide +kernel
  have htwo : (oneByOne.matching memberCache).length = 2 := by decide +kernel
  rw [hfollow 3 (by decide), Option.map_some, List.length_map, hperm.length_eq, htwo] at hone
  cases hone

end Sample

end OwneX
