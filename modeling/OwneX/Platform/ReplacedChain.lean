import OwneX.Platform.AuditIndex

set_option autoImplicit false

/-! # The audit index behind a replaced chain

`detectChainReset` asks the new chain for one cached transaction per contract, and a stored height
beyond the tip gives the old chain away as well. Neither sees a replacement that the newest cached
transaction outlived, or one of a contract that had no cached transaction at all. When the cache of a
contract is dropped, its events are copied again, except for those whose transaction hash and log
index a leftover row of a contract still to be visited holds. `SyncCall.Follows` says when none of
this happens, for any tables the call finds. -/

namespace OwneX

open JsNumber

variable {chain : ChainLogs} (env : IndexerEnv)

/-- The rows of `c` are the tracked events of `c` from the start block up to the tip. -/
def IndexerDb.Mirrors (db : IndexerDb) (call : SyncCall chain) (c : ContractName) : Prop :=
  ∀ row, row.contractName = c →
    (row ∈ db.cache.rows ↔
      ∃ b, env.startBlock ≤ b ∧ b ≤ call.node.latest.1 ∧ chain.Emits c b row)

/-- A row of a contract still to be visited takes the place of `row`. -/
def IndexerDb.Taken (db : IndexerDb) (rest : List ContractName) (row : AuditRow) : Prop :=
  ∃ row' ∈ db.cache.rows, row'.contractName ∈ rest ∧ row'.identity = row.identity

/-- The tables a call finds let the round of `c` make its rows those of the chain. `rest` are the
    contracts it visits after `c`. -/
structure SyncCall.Follows (call : SyncCall chain) (db : IndexerDb) (rest : List ContractName)
    (c : ContractName) : Prop where
  /-- Rows that are not dropped are events of the chain. -/
  kept : call.drops env db c = false → ∀ row ∈ db.cache.rows, row.contractName = c →
    ∃ b, env.startBlock ≤ b ∧ b ≤ call.node.latest.1 ∧ chain.Emits c b row
  /-- Events before the first block that is copied are there already. -/
  found : ∀ b row, chain.Emits c b row → env.startBlock ≤ b → b ≤ call.node.latest.1 →
    b < call.copiesFrom env db c → call.drops env db c = false ∧ row ∈ db.cache.rows
  /-- Of the events that are copied, those before the start block are the ones that are skipped. -/
  copied : ∀ b row, chain.Emits c b row → call.copiesFrom env db c ≤ b → b ≤ call.node.latest.1 →
    (env.startBlock ≤ b ↔ ¬ db.Taken rest row)

/-- Each contract, with those visited after it. -/
def SyncCall.FollowsAll (call : SyncCall chain) (db : IndexerDb) : List ContractName → Prop
  | [] => True
  | c :: rest => call.Follows env db rest c ∧ call.FollowsAll db rest

/-! ## A round -/

section Round

variable {env} {call : SyncCall chain}

/-- A row that is kept with the place of an event of `c` is that event, unless it belongs to a
    contract still to be visited. -/
theorem SyncCall.eq_of_mem_keeps {db : IndexerDb} {c : ContractName} {rest : List ContractName}
    (hvisited : ∀ row ∈ db.cache.rows, row.contractName ∉ c :: rest →
      ∃ b, chain.Emits row.contractName b row)
    (hkept : call.drops env db c = false → ∀ row ∈ db.cache.rows, row.contractName = c →
      ∃ b, env.startBlock ≤ b ∧ b ≤ call.node.latest.1 ∧ chain.Emits c b row)
    {b : Nat} {row row' : AuditRow} (hemits : chain.Emits c b row) (hfree : ¬ db.Taken rest row)
    (hmem : row' ∈ (call.keeps env db c).rows) (hidentity : row'.identity = row.identity) :
    row' = row := by
  obtain ⟨hcached, hdrops⟩ := SyncCall.mem_keeps.1 hmem
  by_cases hc : row'.contractName = c
  · obtain ⟨b', -, -, hemits'⟩ := hkept (hdrops hc) row' hcached hc
    exact hemits'.identity_inj hemits hidentity
  · have hrest : row'.contractName ∉ rest := fun hrest => hfree ⟨row', hcached, hrest, hidentity⟩
    have hothers : row'.contractName ∉ c :: rest := by simp [hc, hrest]
    obtain ⟨b', hemits'⟩ := hvisited row' hcached hothers
    exact hemits'.identity_inj hemits hidentity

/-- Where the contracts visited before hold events of the chain only, the rows of `c` are those of
    the chain after its round exactly when the tables let them. -/
theorem syncContract_mirrors_iff {s : SyncState} {c : ContractName} {rest : List ContractName}
    (hnew : c ∉ rest)
    (hvisited : ∀ row ∈ s.db.cache.rows, row.contractName ∉ c :: rest →
      ∃ b, chain.Emits row.contractName b row) :
    (syncContract env call s c).db.Mirrors env call c ↔ call.Follows env s.db rest c := by
  constructor
  · intro hmirrors
    refine ⟨fun hdrops row hrow hc => ?_, fun b row hemits hstart hb hlt => ?_,
      fun b row hemits hle hb => ?_⟩
    · refine (hmirrors row hc).1 (mem_syncContract_rows.2 (.inl ?_))
      exact SyncCall.mem_keeps.2 ⟨hrow, fun _ => hdrops⟩
    · have hmem := (hmirrors row hemits.contractName).2 ⟨b, hstart, hb, hemits⟩
      rcases mem_syncContract_rows.1 hmem with hkeeps | ⟨⟨b', hle, -, hemits'⟩, -⟩
      · obtain ⟨hrow, hdrops⟩ := SyncCall.mem_keeps.1 hkeeps
        exact ⟨hdrops hemits.contractName, hrow⟩
      · have hsame : b' = b := hemits'.blockNumber.symm.trans hemits.blockNumber
        omega
    · constructor
      · -- The event is there, so its place is not taken.
        rintro hstart ⟨row', hrow', hrest, hidentity⟩
        have hne : row'.contractName ≠ c := fun hc => hnew (hc ▸ hrest)
        have hkeeps : row' ∈ (call.keeps env s.db c).rows :=
          SyncCall.mem_keeps.2 ⟨hrow', fun hc => absurd hc hne⟩
        have hmem := (hmirrors row hemits.contractName).2 ⟨b, hstart, hb, hemits⟩
        rcases mem_syncContract_rows.1 hmem with hrow | ⟨-, hfresh⟩
        · have hsame := List.inj_on_of_nodup_map (call.keeps env s.db c).unique hkeeps hrow hidentity
          exact hne (hsame ▸ hemits.contractName)
        · exact hfresh (hidentity ▸ List.mem_map_of_mem hkeeps)
      · intro hfree
        have hmem : row ∈ (syncContract env call s c).db.cache.rows := by
          by_cases htaken : row.identity ∈ (call.keeps env s.db c).rows.map AuditRow.identity
          · obtain ⟨row', hkeeps, hidentity⟩ := List.mem_map.1 htaken
            have hkept : call.drops env s.db c = false → ∀ row ∈ s.db.cache.rows,
                row.contractName = c → ∃ b, env.startBlock ≤ b ∧ b ≤ call.node.latest.1 ∧
                  chain.Emits c b row := fun hdrops row hrow hc =>
              (hmirrors row hc).1
                (mem_syncContract_rows.2 (.inl (SyncCall.mem_keeps.2 ⟨hrow, fun _ => hdrops⟩)))
            obtain rfl := SyncCall.eq_of_mem_keeps hvisited hkept hemits hfree hkeeps hidentity
            exact mem_syncContract_rows.2 (.inl hkeeps)
          · exact mem_syncContract_rows.2 (.inr ⟨⟨b, hle, hb, hemits⟩, htaken⟩)
        obtain ⟨b', hstart, -, hemits'⟩ := (hmirrors row hemits.contractName).1 hmem
        have hsame : b' = b := hemits'.blockNumber.symm.trans hemits.blockNumber
        omega
  · intro hfollows row hc
    rw [mem_syncContract_rows]
    constructor
    · rintro (hkeeps | ⟨⟨b, hle, hb, hemits⟩, hfresh⟩)
      · obtain ⟨hrow, hdrops⟩ := SyncCall.mem_keeps.1 hkeeps
        exact hfollows.kept (hdrops hc) row hrow hc
      · refine ⟨b, (hfollows.copied b row hemits hle hb).2 ?_, hb, hemits⟩
        rintro ⟨row', hrow', hrest, hidentity⟩
        have hne : row'.contractName ≠ c := fun hc => hnew (hc ▸ hrest)
        refine hfresh (hidentity ▸ List.mem_map_of_mem ?_)
        exact SyncCall.mem_keeps.2 ⟨hrow', fun hc => absurd hc hne⟩
    · rintro ⟨b, hstart, hb, hemits⟩
      by_cases hlt : b < call.copiesFrom env s.db c
      · obtain ⟨hdrops, hrow⟩ := hfollows.found b row hemits hstart hb hlt
        exact .inl (SyncCall.mem_keeps.2 ⟨hrow, fun _ => hdrops⟩)
      · have hfree := (hfollows.copied b row hemits (by omega) hb).1 hstart
        by_cases htaken : row.identity ∈ (call.keeps env s.db c).rows.map AuditRow.identity
        · obtain ⟨row', hkeeps, hidentity⟩ := List.mem_map.1 htaken
          obtain rfl := SyncCall.eq_of_mem_keeps hvisited hfollows.kept hemits hfree hkeeps hidentity
          exact .inl hkeeps
        · exact .inr ⟨⟨b, by omega, hb, hemits⟩, htaken⟩

/-- What decides the round of `c` is what is stored for it and for the contracts after it. -/
theorem SyncCall.follows_congr {db db' : IndexerDb} {rest : List ContractName} {c : ContractName}
    (h : ∀ c' ∈ c :: rest, db.AgreesOn db' c') :
    call.Follows env db' rest c ↔ call.Follows env db rest c := by
  have hc := h c (List.mem_cons_self ..)
  have hdrops : call.drops env db' c = call.drops env db c := hc.decisions.1
  have hcopies : call.copiesFrom env db' c = call.copiesFrom env db c := hc.decisions.2
  have htaken : ∀ row, db'.Taken rest row ↔ db.Taken rest row := by
    intro row
    unfold IndexerDb.Taken
    refine exists_congr fun row' => ?_
    by_cases hrest : row'.contractName ∈ rest
    · rw [(h _ (List.mem_cons_of_mem _ hrest)).mem_iff rfl]
    · exact iff_of_false (fun hmem => hrest hmem.2.1) (fun hmem => hrest hmem.2.1)
  have hrows : ∀ {row : AuditRow}, row.contractName = c →
      (row ∈ db'.cache.rows ↔ row ∈ db.cache.rows) := fun hrow => hc.mem_iff hrow
  constructor
  · rintro ⟨hkept, hfound, hcopied⟩
    rw [hdrops] at hkept hfound
    rw [hcopies] at hfound hcopied
    simp only [htaken] at hcopied
    refine ⟨fun hd row hrow hrowc => hkept hd row ((hrows hrowc).2 hrow) hrowc,
      fun b row hemits hstart hb hlt => ?_, hcopied⟩
    obtain ⟨hd, hrow⟩ := hfound b row hemits hstart hb hlt
    exact ⟨hd, (hrows hemits.contractName).1 hrow⟩
  · rintro ⟨hkept, hfound, hcopied⟩
    rw [← hdrops] at hkept hfound
    rw [← hcopies] at hfound hcopied
    simp only [← htaken] at hcopied
    refine ⟨fun hd row hrow hrowc => hkept hd row ((hrows hrowc).1 hrow) hrowc,
      fun b row hemits hstart hb hlt => ?_, hcopied⟩
    obtain ⟨hd, hrow⟩ := hfound b row hemits hstart hb hlt
    exact ⟨hd, (hrows hemits.contractName).2 hrow⟩

end Round

/-! ## A call -/

theorem SyncCall.followsAll_congr {call : SyncCall chain} {db db' : IndexerDb}
    {cs : List ContractName} (h : ∀ c ∈ cs, db.AgreesOn db' c) :
    call.FollowsAll env db' cs ↔ call.FollowsAll env db cs := by
  induction cs with
  | nil => rfl
  | cons c rest ih =>
      exact and_congr (SyncCall.follows_congr h) (ih fun c' hc' => h c' (List.mem_cons_of_mem _ hc'))

/-- The rounds of the contracts `cs` leave the index of every other contract alone. -/
theorem foldl_syncContract_agreesOn {call : SyncCall chain} {cs : List ContractName} {s : SyncState}
    {c : ContractName} (hc : c ∉ cs) :
    s.db.AgreesOn (cs.foldl (syncContract env call) s).db c := by
  induction cs generalizing s with
  | nil => exact .refl _ _
  | cons c' cs ih =>
      rw [List.foldl_cons]
      have hround : s.db.AgreesOn (syncContract env call s c').db c :=
        syncContract_agreesOn (List.ne_of_not_mem_cons hc)
      exact hround.trans (ih (List.not_mem_of_not_mem_cons hc))

theorem IndexerDb.AgreesOn.mirrors_iff {call : SyncCall chain} {db db' : IndexerDb}
    {c : ContractName} (h : db.AgreesOn db' c) :
    db'.Mirrors env call c ↔ db.Mirrors env call c := by
  unfold IndexerDb.Mirrors
  refine forall_congr' fun row => forall_congr' fun hrow => ?_
  rw [h.mem_iff hrow]

/-- By induction on the contracts still to be visited: each round finds the events of the chain where
    the earlier ones have been. -/
theorem foldl_syncContract_mirrors_iff (call : SyncCall chain) {cs : List ContractName}
    (hcs : cs.Nodup) {s : SyncState}
    (hvisited : ∀ row ∈ s.db.cache.rows, row.contractName ∉ cs →
      ∃ b, chain.Emits row.contractName b row) :
    (∀ c ∈ cs, (cs.foldl (syncContract env call) s).db.Mirrors env call c) ↔
      call.FollowsAll env s.db cs := by
  induction cs generalizing s with
  | nil => simp [SyncCall.FollowsAll]
  | cons c rest ih =>
      obtain ⟨hnew, hrest⟩ := List.nodup_cons.1 hcs
      rw [List.foldl_cons, SyncCall.FollowsAll, ← syncContract_mirrors_iff hnew hvisited,
        List.forall_mem_cons]
      have hlater : (rest.foldl (syncContract env call) (syncContract env call s c)).db.Mirrors env
          call c ↔ (syncContract env call s c).db.Mirrors env call c :=
        (foldl_syncContract_agreesOn env hnew).mirrors_iff env
      rw [hlater]
      refine and_congr_right fun hmirrors => ?_
      have hothers : ∀ c' ∈ rest, s.db.AgreesOn (syncContract env call s c).db c' := by
        intro c' hc'
        exact syncContract_agreesOn fun heq => hnew (heq ▸ hc')
      rw [← SyncCall.followsAll_congr env hothers]
      refine ih hrest fun row hrow hout => ?_
      by_cases hc : row.contractName = c
      · obtain ⟨b, -, -, hemits⟩ := (hmirrors row hc).1 hrow
        exact ⟨b, hc ▸ hemits⟩
      · have hround : s.db.AgreesOn (syncContract env call s c).db row.contractName :=
          syncContract_agreesOn hc
        refine hvisited row ((hround.mem_iff rfl).1 hrow) ?_
        simp [hc, hout]

/-- After a call on `A` and one on `B`, the rows of each contract are the events of `B` exactly when
    the tables that the call on `A` left let the call on `B` follow. -/
theorem replaced_chain_mirrored_iff {A B : ChainLogs} (callA : SyncCall A) (callB : SyncCall B)
    (db : IndexerDb) :
    (∀ c, (syncEvents env callB (syncEvents env callA db).1).1.Mirrors env callB c) ↔
      callB.FollowsAll env (syncEvents env callA db).1 ContractName.all := by
  have hvisited : ∀ row ∈ (syncEvents env callA db).1.cache.rows,
      row.contractName ∉ ContractName.all → ∃ b, B.Emits row.contractName b row :=
    fun row _ hout => absurd row.contractName.mem_all hout
  have hcall := foldl_syncContract_mirrors_iff env callB (by decide : ContractName.all.Nodup)
    (s := ⟨(syncEvents env callA db).1, 0, callB.node.latest.1, false, []⟩) hvisited
  rw [← hcall]
  exact ⟨fun h c _ => h c, fun h c => h c c.mem_all⟩

/-! ## A chain nobody used -/

namespace Sample

/-- A local node on which nothing has happened. -/
def emptyChain : ChainLogs where
  logs _ _ := []
  blockNumber_eq := by
    intro c b log hlog
    cases hlog
  identity_inj := by
    intro c c' b b' log log' hlog
    cases hlog

def emptyNode : Node emptyChain where
  latest := ⟨5, five_safe⟩
  hasReceipt _ _ := false
  mined := by
    intro c c' b log hlog
    cases hlog

def syncEmpty : SyncCall emptyChain := ⟨emptyNode, .argmax, none⟩

/-- The empty chain leaves a height of 5 and no transaction to ask for. The chain that takes its
    place is as high, so the call on it copies nothing. -/
theorem quietChain_not_mirrored :
    ¬ ∀ (env : IndexerEnv) (A B : ChainLogs) (callA : SyncCall A) (callB : SyncCall B),
        callA.fromBlock = none → callB.fromBlock = none → ∀ c,
          (syncEvents env callB (syncEvents env callA .fresh).1).1.Mirrors env callB c := by
  intro hall
  have hmirrors := hall localEnv emptyChain quietChain syncEmpty (syncFrom none) rfl rfl
    .identityRegistry
  have hemits : quietChain.Emits .identityRegistry 1 (registeredLog.toRow .identityRegistry) :=
    ⟨registeredLog, List.mem_singleton.2 rfl, by decide +kernel, rfl⟩
  have hmissing : registeredLog.toRow .identityRegistry ∉
      (syncEvents localEnv (syncFrom none) (syncEvents localEnv syncEmpty .fresh).1).1.cache.rows := by
    decide +kernel
  exact hmissing ((hmirrors _ rfl).2 ⟨1, by decide, by decide, hemits⟩)

end Sample

end OwneX
