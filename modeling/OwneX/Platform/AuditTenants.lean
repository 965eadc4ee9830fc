import OwneX.Platform.AuditTrail
import OwneX.Platform.RefusedRows

set_option autoImplicit false

/-! # What one tenant sees of the others

Which blocks the indexer has copied depends on the heights of the chain and on what its callers ask
for, never on the events themselves (`IndexedChain.Alongside`). `GET /api/audit` shows a row to an
organization if its `org_id` is that organization's or null, so two chains that differ only in rows
with another `org_id` give it the same answers, as long as the indexer is refused no row of either
(`AuditQuery.get_eq_of_sameView`). The asset events other than `AssetMinted` carry no
organization: those of every tenant's tokens are among the rows that everybody sees. -/

namespace OwneX

open JsNumber KeyedList

variable (env : IndexerEnv) {A B : ChainLogs}

/-! ## Two chains, indexed alike -/

/-- The rows of a contract are the tracked events of the blocks in `blocks`. -/
def IndexerDb.Covers (chain : ChainLogs) (db : IndexerDb) (blocks : ContractName → Nat → Prop) :
    Prop :=
  ∀ row, row ∈ db.cache.rows ↔
    ∃ b, blocks row.contractName b ∧ chain.Emits row.contractName b row

/-- The two databases hold the events of the same blocks. -/
structure IndexerDb.Alongside (A B : ChainLogs) (db db' : IndexerDb) (height : SafeInt) : Prop where
  lastBlock : db'.lastBlock = db.lastBlock
  covers : ∃ blocks, db.Covers A blocks ∧ db'.Covers B blocks
  sound : db.Sound A height
  sound' : db'.Sound B height

/-- On chains that only grow, a round goes by the stored heights. -/
theorem IndexerDb.Alongside.decisions {callA : SyncCall A} {callB : SyncCall B} {db db' : IndexerDb}
    (h : db.Alongside A B db' callA.node.latest) (hlatest : callB.node.latest = callA.node.latest)
    (hfrom : callB.fromBlock = callA.fromBlock) (c : ContractName) :
    callB.drops env db' c = callA.drops env db c ∧
      callB.copiesFrom env db' c = callA.copiesFrom env db c := by
  have hstale : callB.stale env db' c = callA.stale env db c := by
    have hsound' : db'.Sound B callB.node.latest := hlatest ▸ h.sound'
    rw [hsound'.stale_eq, h.sound.stale_eq, SyncCall.rebuilds, SyncCall.rebuilds, hfrom]
  have hresumed : callB.resumed env db' c = callA.resumed env db c := by
    unfold SyncCall.resumed SyncCall.resumeAt
    rw [hstale, hfrom]
    cases callA.stale env db c with
    | true => simp only [if_true, IndexerDb.purgeContractCache, Function.update_self]
    | false => simp only [Bool.false_eq_true, if_false, h.lastBlock]
  unfold SyncCall.drops SyncCall.copiesFrom SyncCall.beyond
  rw [hstale, hresumed, hlatest]
  exact ⟨rfl, rfl⟩

/-- A round adds the blocks it copies to those it keeps. -/
theorem IndexerDb.Covers.syncContract {call : SyncCall A} {s : SyncState}
    {blocks : ContractName → Nat → Prop} (h : s.db.Covers A blocks)
    (hsound : s.db.Sound A call.node.latest) (c : ContractName) :
    (syncContract env call s c).db.Covers A
      (Function.update blocks c fun b => (call.drops env s.db c = false ∧ blocks c b) ∨
        (call.copiesFrom env s.db c ≤ b ∧ b ≤ call.node.latest.1)) := by
  intro row
  rw [hsound.mem_syncContract env c row, SyncCall.mem_keeps, h row]
  by_cases hc : row.contractName = c
  · rw [hc, Function.update_self]
    constructor
    · rintro (⟨⟨b, hb, hemits⟩, hdrops⟩ | ⟨b, hle, hb, hemits⟩)
      · exact ⟨b, .inl ⟨hdrops rfl, hb⟩, hemits⟩
      · exact ⟨b, .inr ⟨hle, hb⟩, hemits⟩
    · rintro ⟨b, ⟨hdrops, hb⟩ | ⟨hle, hb⟩, hemits⟩
      · exact .inl ⟨⟨b, hb, hemits⟩, fun _ => hdrops⟩
      · exact .inr ⟨b, hle, hb, hemits⟩
  · rw [Function.update_of_ne hc]
    constructor
    · rintro (⟨hrow, -⟩ | ⟨b, -, -, hemits⟩)
      · exact hrow
      · exact absurd hemits.contractName hc
    · intro hrow
      exact .inl ⟨hrow, fun heq => absurd heq hc⟩

theorem syncContract_alongside {callA : SyncCall A} {callB : SyncCall B} {s s' : SyncState}
    (h : s.db.Alongside A B s'.db callA.node.latest)
    (hlatest : callB.node.latest = callA.node.latest) (hfrom : callB.fromBlock = callA.fromBlock)
    (c : ContractName) :
    (syncContract env callA s c).db.Alongside A B (syncContract env callB s' c).db
      callA.node.latest := by
  have hsound' : s'.db.Sound B callB.node.latest := hlatest ▸ h.sound'
  obtain ⟨hdrops, hcopies⟩ := h.decisions env hlatest hfrom c
  obtain ⟨blocks, hA, hB⟩ := h.covers
  refine ⟨?_, ⟨_, hA.syncContract env h.sound c, ?_⟩, syncContract_sound env h.sound c, ?_⟩
  · rw [syncContract_db_eq, syncContract_db_eq]
    show Function.update _ _ _ = Function.update _ _ _
    rw [h.lastBlock, hlatest]
  · rw [← hdrops, ← hcopies, ← hlatest]
    exact hB.syncContract env hsound' c
  · rw [← hlatest]
    exact syncContract_sound env hsound' c

theorem syncEvents_alongside {callA : SyncCall A} {callB : SyncCall B} {db db' : IndexerDb}
    (h : db.Alongside A B db' callA.node.latest)
    (hlatest : callB.node.latest = callA.node.latest)
    (hfrom : callB.fromBlock = callA.fromBlock) :
    (syncEvents env callA db).1.Alongside A B (syncEvents env callB db').1 callA.node.latest := by
  have hrounds : ∀ (cs : List ContractName) {s s' : SyncState},
      s.db.Alongside A B s'.db callA.node.latest →
      (cs.foldl (syncContract env callA) s).db.Alongside A B
        (cs.foldl (syncContract env callB) s').db callA.node.latest := by
    intro cs
    induction cs with
    | nil => exact id
    | cons c cs ih => exact fun h => ih (syncContract_alongside env h hlatest hfrom c)
  exact hrounds ContractName.all h

/-! ## Two runs -/

/-- Both chains grow to the same height, or both indexers are called with the same option. -/
def IndexerStep.Matches (t : IndexerStep A) (u : IndexerStep B) : Prop :=
  match t.move, u.move with
  | .mined height, .mined height' => height' = height
  | .sync call, .sync call' => call'.fromBlock = call.fromBlock
  | _, _ => False

structure IndexedChain.Alongside (A B : ChainLogs) (s s' : IndexedChain) : Prop where
  height : s'.height = s.height
  db : s.db.Alongside A B s'.db s.height

theorem IndexerStep.alongside {t : IndexerStep A} {u : IndexerStep B} (ht : t.Allowed)
    (hu : u.Allowed) (hmatch : t.Matches u) (h : t.before.Alongside A B u.before) :
    (t.after env).Alongside A B (u.after env) := by
  obtain ⟨before, move⟩ := t
  obtain ⟨before', move'⟩ := u
  cases move with
  | mined height =>
      cases move' with
      | mined height' =>
          obtain rfl : height' = height := hmatch
          refine ⟨rfl, h.db.lastBlock, h.db.covers, h.db.sound.mono ht, ?_⟩
          exact h.db.sound'.mono (h.height ▸ hu)
      | sync call => exact hmatch.elim
  | sync call =>
      cases move' with
      | mined height => exact hmatch.elim
      | sync call' =>
          have hlatest : call.node.latest = before.height := ht
          have hlatest' : call'.node.latest = before'.height := hu
          have hsame : call'.node.latest = call.node.latest := by
            rw [hlatest', h.height, ← hlatest]
          have hdb : before.db.Alongside A B before'.db call.node.latest := hlatest ▸ h.db
          have hafter := syncEvents_alongside env hdb hsame hmatch
          exact ⟨h.height, hlatest ▸ hafter⟩

/-- By induction on two runs of matching steps. -/
theorem path_alongside {s₀ s : IndexedChain} {ts : List (IndexerStep A)}
    (h : (indexerSystem env A).Path s₀ ts s) {s₀' s' : IndexedChain} {us : List (IndexerStep B)}
    (h' : (indexerSystem env B).Path s₀' us s')
    (hmatch : List.Forall₂ IndexerStep.Matches ts us) (hstart : s₀.Alongside A B s₀') :
    s.Alongside A B s' := by
  induction h generalizing s₀' us with
  | nil s =>
      cases hmatch
      cases h'
      exact hstart
  | cons ht _ ih =>
      cases hmatch with
      | cons hfirst hrest =>
          cases h' with
          | cons hu htail =>
              exact ih htail hrest (IndexerStep.alongside env ht hu hfirst hstart)

theorem IndexedChain.alongside_fresh (height : SafeInt) :
    IndexedChain.Alongside A B ⟨height, .fresh⟩ ⟨height, .fresh⟩ := by
  refine ⟨rfl, rfl, ⟨fun _ _ => False, fun row => ?_, fun row => ?_⟩,
    IndexerDb.sound_fresh _, IndexerDb.sound_fresh _⟩
  · exact iff_of_false (fun hrow => by cases hrow) fun ⟨_, hb, _⟩ => hb
  · exact iff_of_false (fun hrow => by cases hrow) fun ⟨_, hb, _⟩ => hb

/-! ## What an organization is shown -/

/-- The filter on the organization. -/
def AuditRow.ShownTo (row : AuditRow) (orgId : Nat) : Prop :=
  row.orgId = some orgId ∨ row.orgId = none

/-- The row at another place in its block. -/
def AuditRow.movedBy (shift : Nat → Nat → Nat) (row : AuditRow) : AuditRow :=
  { row with logIndex := shift row.blockNumber.1 row.logIndex }

/-- A chain that numbers the logs of a block. -/
structure BlockLogs extends ChainLogs where
  index_inj : ∀ {c c' b log log'}, log ∈ logs c b → log' ∈ logs c' b → log.index = log'.index →
    c = c' ∧ log = log'

theorem BlockLogs.emits_index_inj (A : BlockLogs) {c c' : ContractName} {b : Nat}
    {row row' : AuditRow} (h : A.Emits c b row) (h' : A.Emits c' b row')
    (heq : row.logIndex = row'.logIndex) : row = row' := by
  obtain ⟨log, hlog, -, rfl⟩ := h
  obtain ⟨log', hlog', -, rfl⟩ := h'
  obtain ⟨rfl, rfl⟩ := A.index_inj hlog hlog' heq
  rfl

/-- The chains differ in rows that are not shown to the organization, and in the places that the
    other rows have in their blocks as far as this leaves their order. -/
structure SameView (orgId : Nat) (A B : ChainLogs) (shift : Nat → Nat → Nat) : Prop where
  mono : ∀ {c c' b row row'}, A.Emits c b row → A.Emits c' b row' → row.ShownTo orgId →
    row'.ShownTo orgId → row.logIndex < row'.logIndex →
    shift b row.logIndex < shift b row'.logIndex
  forth : ∀ {c b row}, row.ShownTo orgId → A.Emits c b row → B.Emits c b (row.movedBy shift)
  back : ∀ {c b row'}, row'.ShownTo orgId → B.Emits c b row' →
    ∃ row, A.Emits c b row ∧ row.movedBy shift = row'

/-- The response, less the ids that the database has drawn. -/
def AuditPage.withoutIds (page : AuditPage) : AuditPage :=
  { page with events := page.events.map fun event => { event with id := "" } }

namespace AuditQuery

variable (q : AuditQuery)

theorem shownTo_of_accepts {q : AuditQuery} {row : AuditRow} (h : q.accepts row = true) :
    row.ShownTo q.orgId := by
  simp only [accepts, Bool.and_eq_true, Bool.or_eq_true, beq_iff_eq] at h
  exact h.1.1.1.1

/-- The rows a request selects. -/
def selects (cursor : Option Nat) (row : AuditRow) : Bool :=
  q.accepts row &&
    (match cursor with
      | none => true
      | some c => decide (row.blockNumber.1 < c))

/-- The response to a request, given the selected rows in their order. -/
def respond (id : AuditRow → String) (explorer : Option String) (sorted : List AuditRow) :
    AuditPage :=
  let rows := sorted.take (q.limit.1 + 1)
  let hasMore := decide (q.limit.1 < rows.length)
  let page := if hasMore then rows.take q.limit.1 else rows
  { orgId := q.orgId
    count := page.length
    hasMore
    nextCursor :=
      if hasMore then page.getLast?.map fun row => JsNumber.toNumber row.blockNumber.1 else none
    events := page.map (toEvent id explorer) }

theorem get_eq_respond (order : RowOrder) (cache : AuditCache) (ids : RowIds cache)
    (explorer : Option String) (cursor : Option Nat) :
    q.get order cache ids explorer cursor =
      q.respond ids.id explorer (order.sort (cache.rows.filter (q.selects cursor))) := rfl

/-- Apart from the ids it shows nothing of the places that the rows have in their blocks. -/
theorem respond_map_movedBy (id id' : AuditRow → String) (explorer : Option String)
    (shift : Nat → Nat → Nat) (sorted : List AuditRow) :
    (q.respond id' explorer (sorted.map (AuditRow.movedBy shift))).withoutIds =
      (q.respond id explorer sorted).withoutIds := by
  unfold respond AuditPage.withoutIds
  rw [← List.map_take]
  generalize sorted.take (q.limit.1 + 1) = rows
  simp only [List.length_map, ← List.map_take]
  cases decide (q.limit.1 < rows.length) with
  | true =>
      simp only [if_true, List.length_map, List.map_map, List.getLast?_map, Option.map_map]
      rfl
  | false =>
      simp only [Bool.false_eq_true, if_false, List.length_map, List.map_map]
      rfl

end AuditQuery

/-! ## Noninterference -/

section Tenants

variable {A B : BlockLogs} {orgId : Nat} {shift : Nat → Nat → Nat}

/-- Rows that are shown keep their order. -/
theorem SameView.before_movedBy (hview : SameView orgId A.toChainLogs B.toChainLogs shift)
    {c c' : ContractName} {b b' : Nat} {row row' : AuditRow} (h : A.Emits c b row)
    (h' : A.Emits c' b' row') (hshown : row.ShownTo orgId) (hshown' : row'.ShownTo orgId)
    (hbefore : row.Before row') : (row.movedBy shift).Before (row'.movedBy shift) := by
  rcases hbefore with hblock | ⟨hblock, hindex⟩
  · exact .inl hblock
  · have hb : b' = b := by rw [← h.blockNumber, ← h'.blockNumber, hblock]
    subst hb
    refine .inr ⟨hblock, ?_⟩
    show shift row'.blockNumber.1 row'.logIndex ≤ shift row.blockNumber.1 row.logIndex
    rw [h.blockNumber, h'.blockNumber]
    rcases Nat.lt_or_eq_of_le hindex with hlt | heq
    · exact (hview.mono h' h hshown' hshown hlt).le
    · rw [heq]

/-- Rows that are shown stay apart. -/
theorem SameView.movedBy_inj (hview : SameView orgId A.toChainLogs B.toChainLogs shift)
    {c c' : ContractName} {b b' : Nat} {row row' : AuditRow} (h : A.Emits c b row)
    (h' : A.Emits c' b' row') (hshown : row.ShownTo orgId) (hshown' : row'.ShownTo orgId)
    (heq : row.movedBy shift = row'.movedBy shift) : row = row' := by
  have hblock : (row.movedBy shift).blockNumber = (row'.movedBy shift).blockNumber := by rw [heq]
  have hindex : (row.movedBy shift).logIndex = (row'.movedBy shift).logIndex := by rw [heq]
  change row.blockNumber = row'.blockNumber at hblock
  change shift row.blockNumber.1 row.logIndex = shift row'.blockNumber.1 row'.logIndex at hindex
  have hb : b' = b := by rw [← h.blockNumber, ← h'.blockNumber, hblock]
  subst hb
  rw [h.blockNumber, h'.blockNumber] at hindex
  refine A.emits_index_inj h h' ?_
  rcases Nat.lt_trichotomy row.logIndex row'.logIndex with hlt | hsame | hgt
  · have hmono := hview.mono h h' hshown hshown' hlt
    omega
  · exact hsame
  · have hmono := hview.mono h' h hshown' hshown hgt
    omega

/-- Two indexers that have copied the same blocks answer an organization the same. -/
theorem SameView.sort_eq {q : AuditQuery}
    (hview : SameView q.orgId A.toChainLogs B.toChainLogs shift) {db db' : IndexerDb}
    {blocks : ContractName → Nat → Prop} (hA : db.Covers A.toChainLogs blocks)
    (hB : db'.Covers B.toChainLogs blocks) (order order' : RowOrder) (cursor : Option Nat) :
    order'.sort (db'.cache.rows.filter (q.selects cursor)) =
      (order.sort (db.cache.rows.filter (q.selects cursor))).map (AuditRow.movedBy shift) := by
  have hshown : ∀ {row}, q.selects cursor row = true → row.ShownTo q.orgId := fun h =>
    AuditQuery.shownTo_of_accepts (Bool.and_eq_true .. ▸ h).1
  have hmem : ∀ (order : RowOrder) (db : IndexerDb) (row : AuditRow),
      row ∈ order.sort (db.cache.rows.filter (q.selects cursor)) ↔
        row ∈ db.cache.rows ∧ q.selects cursor row = true := fun order db row => by
    rw [(order.perm _).mem_iff, List.mem_filter]
  have hnodup : ∀ (order : RowOrder) (db : IndexerDb),
      (order.sort (db.cache.rows.filter (q.selects cursor))).Nodup := fun order db =>
    (order.perm _).nodup_iff.2 ((List.Nodup.of_map _ db.cache.unique).filter _)
  -- Both lists hold the same rows, and both are sorted, which leaves one order.
  have hsame : ∀ row, row ∈ order'.sort (db'.cache.rows.filter (q.selects cursor)) ↔
      row ∈ (order.sort (db.cache.rows.filter (q.selects cursor))).map
        (AuditRow.movedBy shift) := by
    intro row
    rw [List.mem_map, hmem]
    constructor
    · rintro ⟨hrow, hselects⟩
      obtain ⟨b, hb, hemits⟩ := (hB row).1 hrow
      obtain ⟨row', hemits', rfl⟩ := hview.back (hshown hselects) hemits
      exact ⟨row', (hmem _ _ _).2 ⟨(hA row').2 ⟨b, hb, hemits'⟩, hselects⟩, rfl⟩
    · rintro ⟨row', hrow', rfl⟩
      obtain ⟨hrow', hselects⟩ := (hmem _ _ _).1 hrow'
      obtain ⟨b, hb, hemits⟩ := (hA row').1 hrow'
      exact ⟨(hB _).2 ⟨b, hb, hview.forth (hshown hselects) hemits⟩, hselects⟩
  have hemitted : ∀ row ∈ order.sort (db.cache.rows.filter (q.selects cursor)),
      row.ShownTo q.orgId ∧ ∃ b, A.Emits row.contractName b row := fun row hrow => by
    obtain ⟨hrow, hselects⟩ := (hmem _ _ _).1 hrow
    obtain ⟨b, -, hemits⟩ := (hA row).1 hrow
    exact ⟨hshown hselects, b, hemits⟩
  have hmoved : ((order.sort (db.cache.rows.filter (q.selects cursor))).map
      (AuditRow.movedBy shift)).Nodup := by
    refine List.Nodup.map_on (fun row hrow row' hrow' heq => ?_) (hnodup order db)
    obtain ⟨hshow, b, hemits⟩ := hemitted row hrow
    obtain ⟨hshow', b', hemits'⟩ := hemitted row' hrow'
    exact hview.movedBy_inj hemits hemits' hshow hshow' heq
  have hperm := (List.perm_ext_iff_of_nodup (hnodup order' db') hmoved).2 hsame
  refine List.Perm.eq_of_pairwise (fun row row' hrow hrow' h h' => ?_) (order'.sorted _) ?_ hperm
  · have hrow' := hperm.mem_iff.2 hrow'
    obtain ⟨b, -, hemits⟩ := (hB row).1 ((hmem _ _ _).1 hrow).1
    obtain ⟨b', -, hemits'⟩ := (hB row').1 ((hmem _ _ _).1 hrow').1
    have hb : b' = b := by
      rw [← hemits.blockNumber, ← hemits'.blockNumber]
      unfold AuditRow.Before at h h'
      omega
    subst hb
    refine B.emits_index_inj hemits hemits' ?_
    unfold AuditRow.Before at h h'
    omega
  · rw [List.pairwise_map]
    refine (order.sorted _).imp_of_mem fun {row row'} hrow hrow' hbefore => ?_
    obtain ⟨hshow, b, hemits⟩ := hemitted row hrow
    obtain ⟨hshow', b', hemits'⟩ := hemitted row' hrow'
    exact hview.before_movedBy hemits hemits' hshow hshow' hbefore

/-- After any two runs that grow the chains and call the indexer alike, no call being refused a row, an
    organization that is shown the same events of both chains gets the same answer to every request,
    apart from the ids of the rows. -/
theorem AuditQuery.get_eq_of_sameView (q : AuditQuery)
    (hview : SameView q.orgId A.toChainLogs B.toChainLogs shift) {refusal : String}
    {height : SafeInt} {ts : List (IndexerStep A.toChainLogs)}
    {us : List (IndexerStep B.toChainLogs)} {s s' : IndexedChain}
    (h : (refusingSystem env refusal A.toChainLogs).Path ⟨height, .fresh⟩ ts s)
    (h' : (refusingSystem env refusal B.toChainLogs).Path ⟨height, .fresh⟩ us s')
    (hsucceeds : ∀ t ∈ ts, t.Succeeds env refusal) (hsucceeds' : ∀ u ∈ us, u.Succeeds env refusal)
    (hmatch : List.Forall₂ IndexerStep.Matches ts us) (order order' : RowOrder)
    (ids : RowIds s.db.cache) (ids' : RowIds s'.db.cache) (explorer : Option String)
    (cursor : Option Nat) :
    (q.get order' s'.db.cache ids' explorer cursor).withoutIds =
      (q.get order s.db.cache ids explorer cursor).withoutIds := by
  have halong := path_alongside env (path_of_succeeds env h hsucceeds)
    (path_of_succeeds env h' hsucceeds') hmatch (IndexedChain.alongside_fresh height)
  obtain ⟨blocks, hA, hB⟩ := halong.db.covers
  rw [q.get_eq_respond, q.get_eq_respond, hview.sort_eq hA hB order order' cursor,
    q.respond_map_movedBy]

end Tenants

/-! ## A token of another organization -/

/-- The row is about an organization other than `orgId`, or about a token minted into one. -/
def ChainLogs.Foreign (chain : ChainLogs) (orgId : Nat) (row : AuditRow) : Prop :=
  (∃ other, row.orgId = some other ∧ other ≠ orgId) ∨
    (row.orgId = none ∧ ∃ tokenId b mint, row.tokenId = some tokenId ∧
      chain.Emits .assetNFT b mint ∧ mint.eventName = "AssetMinted" ∧
      mint.tokenId = some tokenId ∧ mint.orgId ≠ some orgId)

namespace Sample

/-- Token 1 is minted into organization 2. -/
def mintedLog : EventLog where
  eventName := "AssetMinted"
  args := [("tokenId", .uint 1), ("orgId", .uint 2), ("assignedTo", .address bob),
    ("assetHash", .bytes32 7#256), ("metadataURI", .string "ipfs://1"), ("by", .address owner)]
  transactionHash := "0x01"
  index := 0
  blockNumber := ⟨1, one_safe⟩

/-- And goes from Bob to Carol. -/
def assignedLog : EventLog where
  eventName := "AssetAssigned"
  args := [("tokenId", .uint 1), ("previousHolder", .address bob), ("newHolder", .address carol),
    ("by", .address owner)]
  transactionHash := "0x02"
  index := 0
  blockNumber := ⟨2, two_safe⟩

/-- The first `n` events of the token are all that ever happens. -/
def assetChain (n : Nat) : BlockLogs where
  logs c b :=
    if c = .assetNFT then ([mintedLog, assignedLog].take n).filter fun log => log.blockNumber.1 == b
    else []
  blockNumber_eq := by
    intro c b log hlog
    split at hlog
    · exact beq_iff_eq.1 (List.mem_filter.1 hlog).2
    · cases hlog
  identity_inj := by
    intro c c' b b' log log' hlog hlog' htx _
    split at hlog <;> split at hlog'
    next hc hc' =>
        have hmem := List.mem_of_mem_take (List.mem_filter.1 hlog).1
        have hmem' := List.mem_of_mem_take (List.mem_filter.1 hlog').1
        have hinj : ∀ log ∈ [mintedLog, assignedLog], ∀ log' ∈ [mintedLog, assignedLog],
            log.transactionHash = log'.transactionHash → log = log' := by decide +kernel
        exact ⟨hc.trans hc'.symm, hinj log hmem log' hmem' htx⟩
    · cases hlog'
    · cases hlog
    · cases hlog
  index_inj := by
    intro c c' b log log' hlog hlog' _
    split at hlog <;> split at hlog'
    next hc hc' =>
        obtain ⟨hmem, hb⟩ := List.mem_filter.1 hlog
        obtain ⟨hmem', hb'⟩ := List.mem_filter.1 hlog'
        have hinj : ∀ log ∈ [mintedLog, assignedLog], ∀ log' ∈ [mintedLog, assignedLog],
            log.blockNumber = log'.blockNumber → log = log' := by decide +kernel
        refine ⟨hc.trans hc'.symm, hinj log (List.mem_of_mem_take hmem) log'
          (List.mem_of_mem_take hmem') (Subtype.ext ?_)⟩
        rw [beq_iff_eq.1 hb, beq_iff_eq.1 hb']
    · cases hlog'
    · cases hlog
    · cases hlog

/-- A node at height 5 that knows every transaction. -/
def syncAssets (n : Nat) : SyncCall (assetChain n).toChainLogs where
  node :=
    { latest := ⟨5, five_safe⟩
      hasReceipt := fun _ _ => true
      mined := fun _ _ => rfl }
  newestRow := .argmax
  fromBlock := none

theorem emits_assetChain {n : Nat} {c : ContractName} {b : Nat} {row : AuditRow}
    (h : (assetChain n).Emits c b row) :
    ∃ log ∈ [mintedLog, assignedLog].take n, row = log.toRow .assetNFT := by
  obtain ⟨log, hlog, -, rfl⟩ := h
  change log ∈ (if c = .assetNFT then _ else []) at hlog
  split at hlog
  next hc => exact ⟨log, (List.mem_filter.1 hlog).1, by rw [hc]⟩
  · cases hlog

/-- Organization 1 is shown the move of a token that it does not own. -/
theorem assignment_shown_to_others :
    ¬ ∀ (q : AuditQuery) (order : RowOrder) (explorer : Option String) (cursor : Option Nat)
        (env : IndexerEnv) (refusal : String) (A B : BlockLogs) (callA : SyncCall A.toChainLogs)
        (callB : SyncCall B.toChainLogs) (ids : RowIds (callA.run env refusal .fresh).2.cache)
        (ids' : RowIds (callB.run env refusal .fresh).2.cache),
        callB.node.latest = callA.node.latest → callB.fromBlock = callA.fromBlock →
        (∀ c b row, A.Emits c b row → ¬ A.Foreign q.orgId row → B.Emits c b row) →
        (∀ c b row, B.Emits c b row → ¬ B.Foreign q.orgId row → A.Emits c b row) →
        (q.get order (callB.run env refusal .fresh).2.cache ids' explorer cursor).withoutIds =
          (q.get order (callA.run env refusal .fresh).2.cache ids explorer cursor).withoutIds := by
  intro hall
  have hminted : ∀ n, 0 < n →
      (assetChain n).Emits .assetNFT 1 (mintedLog.toRow .assetNFT) := fun n hn => by
    refine ⟨mintedLog, ?_, by decide +kernel, rfl⟩
    obtain ⟨n, rfl⟩ := Nat.exists_eq_add_of_lt hn
    rw [Nat.zero_add]
    exact List.mem_filter.2 ⟨List.mem_cons_self .., by decide⟩
  -- Every event of the token is about organization 2.
  have hforeign : ∀ n row, (∃ log ∈ [mintedLog, assignedLog].take n, row = log.toRow .assetNFT) →
      (assetChain n).Foreign 1 row := by
    rintro n row ⟨log, hlog, rfl⟩
    have hn : 0 < n := by
      rcases Nat.eq_zero_or_pos n with rfl | hn
      · cases hlog
      · exact hn
    have hlog := List.mem_of_mem_take hlog
    rcases List.mem_cons.1 hlog with rfl | hlog
    · exact .inl ⟨2, by decide +kernel, by decide⟩
    · rw [List.mem_singleton.1 hlog]
      exact .inr ⟨by decide +kernel, 1, 1, _, by decide +kernel, hminted n hn, rfl,
        by decide +kernel, by decide +kernel⟩
  have hsame := hall oneByOne .insertion none none localEnv "" (assetChain 2) (assetChain 1)
    (syncAssets 2) (syncAssets 1) (.tally _) (.tally _) rfl rfl
    (fun _ _ row hemits hother => absurd (hforeign 2 row (emits_assetChain hemits)) hother)
    (fun _ _ row hemits hother => absurd (hforeign 1 row (emits_assetChain hemits)) hother)
  have hone : ((oneByOne.get .insertion ((syncAssets 2).run localEnv "" .fresh).2.cache (.tally _)
      none none).withoutIds).count = 1 := by decide +kernel
  have hnone : ((oneByOne.get .insertion ((syncAssets 1).run localEnv "" .fresh).2.cache (.tally _)
      none none).withoutIds).count = 0 := by decide +kernel
  rw [← hsame, hnone] at hone
  exact Nat.zero_ne_one hone

/-- It is not shown the mint. -/
theorem mint_hidden_from_others :
    (oneByOne.get .insertion ((syncAssets 0).run localEnv "" .fresh).2.cache (.tally _) none
        none).withoutIds =
      (oneByOne.get .insertion ((syncAssets 1).run localEnv "" .fresh).2.cache (.tally _) none
        none).withoutIds := by
  have hpath : ∀ n, (refusingSystem localEnv "" (assetChain n).toChainLogs).Path
      ⟨⟨5, by decide⟩, .fresh⟩ [⟨⟨⟨5, by decide⟩, .fresh⟩, .sync (syncAssets n)⟩]
      ⟨⟨5, by decide⟩, ((syncAssets n).run localEnv "" .fresh).2⟩ := fun n => by
    have hvalid : (refusingSystem localEnv "" (assetChain n).toChainLogs).Valid
        ⟨⟨⟨5, by decide⟩, .fresh⟩, .sync (syncAssets n)⟩ := rfl
    exact .single hvalid
  have hsucceeds : ∀ n ≤ 1, ((syncAssets n).run localEnv "" .fresh).1.isOk = true := by
    decide +kernel
  have hcalls : ∀ n ≤ 1, ∀ t ∈ [(⟨⟨⟨5, by decide⟩, .fresh⟩, .sync (syncAssets n)⟩ :
      IndexerStep (assetChain n).toChainLogs)], t.Succeeds localEnv "" := by
    intro n hn t ht
    rw [List.mem_singleton.1 ht]
    have hok := hsucceeds n hn
    show ∃ result, ((syncAssets n).run localEnv "" .fresh).1 = .ok result
    cases hrun : ((syncAssets n).run localEnv "" .fresh).1 with
    | ok result => exact ⟨result, rfl⟩
    | error e =>
        rw [hrun] at hok
        cases hok
  have hhidden : ∀ {c b row}, (assetChain 1).Emits c b row → ¬ row.ShownTo 1 := by
    intro c b row hemits
    obtain ⟨log, hlog, rfl⟩ := emits_assetChain hemits
    rw [List.mem_singleton.1 hlog]
    unfold AuditRow.ShownTo
    decide +kernel
  have hempty : ∀ {c b row}, ¬ (assetChain 0).Emits c b row := by
    intro c b row hemits
    obtain ⟨log, hlog, -⟩ := emits_assetChain hemits
    cases hlog
  have hview : SameView 1 (assetChain 1).toChainLogs (assetChain 0).toChainLogs fun _ i => i :=
    ⟨fun h _ hshown => absurd hshown (hhidden h), fun hshown h => absurd hshown (hhidden h),
      fun _ h => absurd h hempty⟩
  exact oneByOne.get_eq_of_sameView localEnv hview (hpath 1) (hpath 0) (hcalls 1 le_rfl)
    (hcalls 0 (Nat.zero_le 1)) (.cons rfl .nil) .insertion .insertion (.tally _) (.tally _) none none

end Sample

end OwneX
