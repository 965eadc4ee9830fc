import OwneX.Contracts.Nesting

set_option autoImplicit false

/-! # Replaying the asset log

The five events of the asset contract carry the fields they set, so that the off-chain display can
be rebuilt from them. Every function emits its event right after the change it reports, except the
mint, which emits `AssetMinted` after the recipient's hook with the values it was called with. A
hook that moves, revokes or re-anchors the token it has just received is therefore overruled in the
log. `World.run_assetLog_iff` says exactly when log and storage agree. -/

namespace OwneX

open Storage

/-! ## The replay function -/

/-- What the log says of a token. -/
structure AssetView where
  orgId : Nat := 0
  assignedTo : Address := 0#160
  active : Bool := false
  assetHash : Bytes32 := 0#256
  tokenURI : String := ""
deriving DecidableEq

def AssetEvent.tokenId : AssetEvent → Nat
  | .assetMinted tokenId .. => tokenId
  | .assetAssigned tokenId .. => tokenId
  | .assetRevoked tokenId .. => tokenId
  | .assetRestored tokenId .. => tokenId
  | .assetMetadataUpdated tokenId .. => tokenId

def AssetView.replay (v : AssetView) : AssetEvent → AssetView
  | .assetMinted _ orgId assignedTo assetHash metadataURI _ =>
      { orgId, assignedTo, active := true, assetHash, tokenURI := metadataURI }
  | .assetAssigned _ _ newHolder _ => { v with assignedTo := newHolder }
  | .assetRevoked _ _ custodian _ => { v with active := false, assignedTo := custodian }
  | .assetRestored _ assignedTo _ => { v with active := true, assignedTo }
  | .assetMetadataUpdated _ _ newHash metadataURI _ =>
      { v with assetHash := newHash, tokenURI := metadataURI }

def applyEvent (views : Nat → AssetView) : Event → Nat → AssetView
  | .asset e => Function.update views e.tokenId ((views e.tokenId).replay e)
  | _ => views

/-- The tokens a log speaks of. -/
def replayAssets (log : List Event) : Nat → AssetView :=
  log.foldl applyEvent fun _ => {}

/-- The fields of a view. -/
inductive AssetField where
  | orgId
  | assignedTo
  | active
  | assetHash
  | tokenURI
deriving DecidableEq

/-- Two views agree on a field. -/
def AssetField.Agree : AssetField → AssetView → AssetView → Prop
  | .orgId, v, v' => v.orgId = v'.orgId
  | .assignedTo, v, v' => v.assignedTo = v'.assignedTo
  | .active, v, v' => v.active = v'.active
  | .assetHash, v, v' => v.assetHash = v'.assetHash
  | .tokenURI, v, v' => v.tokenURI = v'.tokenURI

/-- The fields an event carries. -/
def AssetEvent.sets : AssetEvent → AssetField → Bool
  | .assetMinted .., _ => true
  | .assetAssigned .., f => f == .assignedTo
  | .assetRevoked .., f => f == .assignedTo || f == .active
  | .assetRestored .., f => f == .assignedTo || f == .active
  | .assetMetadataUpdated .., f => f == .assetHash || f == .tokenURI

/-- The event is about token `t`. -/
def Event.About (t : Nat) : Event → Prop
  | .asset e => e.tokenId = t
  | _ => False

/-- The event is about token `t` and carries the field. -/
def Event.Sets (t : Nat) (f : AssetField) : Event → Prop
  | .asset e => e.tokenId = t ∧ e.sets f = true
  | _ => False

section Views

variable {v v' : AssetView} {t : Nat} {f : AssetField} {views views' : Nat → AssetView}

theorem AssetView.eq_iff_agree : v = v' ↔ ∀ f : AssetField, f.Agree v v' := by
  constructor
  · rintro rfl f
    cases f <;> rfl
  · intro h
    obtain ⟨o, a, b, c, u⟩ := v
    obtain ⟨o', a', b', c', u'⟩ := v'
    have ho : o = o' := h .orgId
    have ha : a = a' := h .assignedTo
    have hb : b = b' := h .active
    have hc : c = c' := h .assetHash
    have hu : u = u' := h .tokenURI
    rw [ho, ha, hb, hc, hu]

/-- After an event two views agree on the fields it carries and where they agreed before. -/
theorem AssetField.agree_replay (f : AssetField) (e : AssetEvent) (v v' : AssetView) :
    f.Agree (v.replay e) (v'.replay e) ↔ f.Agree v v' ∨ e.sets f = true := by
  cases e <;> cases f <;> simp [AssetField.Agree, AssetView.replay, AssetEvent.sets]

theorem applyEvent_of_not_about {e : Event} (h : ¬ e.About t) (views : Nat → AssetView) :
    applyEvent views e t = views t := by
  cases e with
  | asset e => exact Function.update_of_ne (Ne.symm h) _ _
  | _ => rfl

theorem foldl_of_not_about {events : List Event} (h : ∀ e ∈ events, ¬ e.About t)
    (views : Nat → AssetView) : events.foldl applyEvent views t = views t := by
  induction events generalizing views with
  | nil => rfl
  | cons e events ih =>
      rw [List.foldl_cons, ih fun e' he' => h e' (List.mem_cons_of_mem _ he')]
      exact applyEvent_of_not_about (h e (List.mem_cons_self ..)) views

theorem agree_applyEvent (e : Event) :
    f.Agree (applyEvent views e t) (applyEvent views' e t) ↔
      f.Agree (views t) (views' t) ∨ e.Sets t f := by
  cases e with
  | asset e =>
      by_cases ht : e.tokenId = t
      · subst ht
        simp only [applyEvent, Function.update_self, Event.Sets, true_and]
        exact f.agree_replay e _ _
      · simp [applyEvent, Function.update_of_ne (Ne.symm ht), Event.Sets, ht]
  | registry e => simp [applyEvent, Event.Sets]
  | access e => simp [applyEvent, Event.Sets]

/-- The same events, applied to two views. -/
theorem agree_foldl (events : List Event) :
    f.Agree (events.foldl applyEvent views t) (events.foldl applyEvent views' t) ↔
      f.Agree (views t) (views' t) ∨ ∃ e ∈ events, e.Sets t f := by
  induction events generalizing views views' with
  | nil => simp
  | cons e events ih =>
      rw [List.foldl_cons, List.foldl_cons, ih, agree_applyEvent]
      simp [or_assoc]

theorem foldl_not_asset {events : List Event} (h : ∀ e ∈ events, ∀ a, e ≠ .asset a)
    (views : Nat → AssetView) : events.foldl applyEvent views = views := by
  induction events generalizing views with
  | nil => rfl
  | cons e events ih =>
      have hhead := h e (List.mem_cons_self ..)
      have htail := ih (fun e' he' => h e' (List.mem_cons_of_mem _ he')) (applyEvent views e)
      cases e with
      | asset a => exact absurd rfl (hhead a)
      | _ => exact htail

end Views

/-! ## What is stored -/

section Storage

variable {σ : Type} [ERC721 σ]

def AssetNFT.view (n : AssetNFT σ) (t : Nat) : AssetView where
  orgId := (n.assets t).orgId
  assignedTo := (n.assets t).assignedTo
  active := (n.assets t).active
  assetHash := (n.assets t).assetHash
  tokenURI := n.tokenURI t

/-- What can be asked about a token: nothing if there is none, since then `tokenURI` reverts. -/
def AssetNFT.stored (n : AssetNFT σ) (t : Nat) : AssetView :=
  if n.ownerOf t = 0#160 then {} else n.view t

variable {n n' : AssetNFT σ} {ac : OrgAccessManager} {ir : IdentityRegistry} {msg : Msg}

theorem SameToken.view {t : Nat} (h : SameToken t n n') : n'.view t = n.view t := by
  unfold AssetNFT.view
  rw [h.asset, h.tokenURI]

theorem view_of_ledger {ledger : σ} (huri : ERC721.tokenURI ledger = ERC721.tokenURI n.ledger) :
    ({ n with ledger } : AssetNFT σ).view = n.view := by
  funext t
  simp only [AssetNFT.view, AssetNFT.tokenURI, huri]

/-- One event, of the one token that changed. -/
theorem view_of_event {e : AssetEvent} {asset : Asset} {uri : String}
    (hother : ∀ t, t ≠ e.tokenId → SameToken t n n') (hasset : n'.assets e.tokenId = asset)
    (huri : n'.tokenURI e.tokenId = uri)
    (hself : (n.view e.tokenId).replay e =
      ⟨asset.orgId, asset.assignedTo, asset.active, asset.assetHash, uri⟩) :
    applyEvent n.view (.asset e) = n'.view := by
  funext t
  by_cases ht : t = e.tokenId
  · rw [applyEvent, ht, Function.update_self, hself, AssetNFT.view, hasset, huri]
  · rw [applyEvent, Function.update_of_ne ht, (hother t ht).view]

/-- A call of the asset contract changes the views as its events say. -/
theorem AssetStep.view {c : AssetCall} {events : List AssetEvent}
    (h : AssetStep n ac ir msg c n' events) (hlocked : n.orgControlledTransfer = false) :
    (events.map Event.asset).foldl applyEvent n.view = n'.view := by
  have hother : ∀ {tokenId : Nat}, c.tokenId = some tokenId →
      ∀ t, t ≠ tokenId → SameToken t n n' := fun hc t ht =>
    h.sameToken hlocked (by rw [hc]; exact fun heq => ht (Option.some.inj heq).symm)
  cases h with
  | reassignAsset _ _ _ _ _ hmoved =>
      have huri := ERC721.tokenURI_update hmoved.update
      exact view_of_event (hother rfl) (Function.update_self ..) (congrFun huri _) rfl
  | revokeHeld => exact view_of_event (hother rfl) (Function.update_self ..) rfl rfl
  | revokeMoved _ _ _ _ hmoved =>
      have huri := ERC721.tokenURI_update hmoved.update
      exact view_of_event (hother rfl) (Function.update_self ..) (congrFun huri _) rfl
  | restoreHeld => exact view_of_event (hother rfl) (Function.update_self ..) rfl rfl
  | restoreMoved _ _ _ _ _ hmoved =>
      have huri := ERC721.tokenURI_update hmoved.update
      exact view_of_event (hother rfl) (Function.update_self ..) (congrFun huri _) rfl
  | @updateAssetRecord tokenId _ metadataURI =>
      have huri := ERC721.tokenURI_setTokenURI n.ledger tokenId metadataURI
      exact view_of_event (hother rfl) (Function.update_self ..)
        ((congrFun huri _).trans (Function.update_self ..)) rfl
  | approve happ => exact (view_of_ledger (ERC721.tokenURI_approve happ)).symm
  | setApprovalForAll hset => exact (view_of_ledger (ERC721.tokenURI_setApprovalForAll hset)).symm
  | transferFrom _ hunlocked =>
      rw [hunlocked] at hlocked
      cases hlocked
  | _ => rfl

end Storage

/-! ## Steps -/

section Steps

variable {σ : Type} [ERC721 σ] {w w' : World σ} {msg : Msg} {act : Action}
  {events : List Event} {t : Nat} {f : AssetField}

/-- Apart from the mints, a step changes the views as its events say. -/
theorem ActionStep.view (h : ActionStep w msg act w' events) (hplain : act.Plain)
    (hcustody : CustodyInv w.nft) : events.foldl applyEvent w.nft.view = w'.nft.view := by
  cases h with
  | registry =>
      refine foldl_not_asset (fun e he a => ?_) _
      obtain ⟨r, -, rfl⟩ := List.mem_map.1 he
      exact Event.noConfusion
  | access =>
      refine foldl_not_asset (fun e he a => ?_) _
      obtain ⟨r, -, rfl⟩ := List.mem_map.1 he
      exact Event.noConfusion
  | asset hstep => exact hstep.view hcustody.locked
  | mintBegin => exact hplain.elim
  | mintEnd => exact hplain.elim

/-- The step emits an event about token `t` that carries the field. -/
def Transition.Sets (tr : Transition σ) (t : Nat) (f : AssetField) : Prop :=
  ∃ e ∈ tr.events, e.Sets t f

/-- A step that completes a mint finds the record as `AssetMinted` is going to report it. The URI is
    what the step itself writes. -/
def Transition.Announces (tr : Transition σ) (f : AssetField) : Prop :=
  match tr.action with
  | .mintEnd tokenId orgId assignedTo assetHash metadataURI =>
      f.Agree ⟨orgId, assignedTo, true, assetHash, metadataURI⟩
        { tr.before.nft.view tokenId with tokenURI := metadataURI }
  | _ => True

/-- Whenever one of the steps completes the mint of `t`, it announces the field as it is or a later
    one sets it. -/
def Settled (t : Nat) (f : AssetField) : List (Transition σ) → Prop
  | [] => True
  | tr :: ts =>
      (tr.action.minted = some t → tr.Announces f ∨ ∃ u ∈ ts, u.Sets t f) ∧ Settled t f ts

theorem settled_of_announces {ts : List (Transition σ)}
    (h : ∀ tr ∈ ts, tr.action.minted = some t → tr.Announces f) : Settled t f ts := by
  induction ts with
  | nil => trivial
  | cons tr ts ih =>
      exact ⟨fun ht => .inl (h tr (List.mem_cons_self ..) ht),
        ih fun u hu => h u (List.mem_cons_of_mem _ hu)⟩

/-- Steps before the mint of `t` completes. -/
theorem settled_append_of_not_minted {ts us : List (Transition σ)}
    (h : ∀ tr ∈ ts, tr.action.minted ≠ some t) : Settled t f (ts ++ us) ↔ Settled t f us := by
  induction ts with
  | nil => rfl
  | cons tr ts ih =>
      rw [List.cons_append, Settled, ih fun u hu => h u (List.mem_cons_of_mem _ hu)]
      have hhead := h tr (List.mem_cons_self ..)
      simp [hhead]

/-- Steps after it. -/
theorem settled_append_iff {ts us : List (Transition σ)}
    (h : ∀ tr ∈ us, tr.action.minted ≠ some t) :
    Settled t f (ts ++ us) ↔ Settled t f ts ∨ ∃ u ∈ us, u.Sets t f := by
  induction ts with
  | nil =>
      have hall : Settled t f us := settled_of_announces fun tr htr ht => absurd ht (h tr htr)
      exact iff_of_true hall (.inl trivial)
  | cons tr ts ih =>
      rw [List.cons_append, Settled, Settled, ih]
      by_cases hlater : ∃ u ∈ us, u.Sets t f
      · obtain ⟨u, hu, hsets⟩ := hlater
        have hlater : ∃ u ∈ us, u.Sets t f := ⟨u, hu, hsets⟩
        exact iff_of_true
          ⟨fun _ => .inr ⟨u, List.mem_append_right _ hu, hsets⟩, .inr hlater⟩ (.inr hlater)
      · have hsplit : (∃ u ∈ ts ++ us, u.Sets t f) ↔ ∃ u ∈ ts, u.Sets t f := by
          constructor
          · rintro ⟨u, hu, hsets⟩
            rcases List.mem_append.1 hu with hu | hu
            · exact ⟨u, hu, hsets⟩
            · exact absurd ⟨u, hu, hsets⟩ hlater
          · rintro ⟨u, hu, hsets⟩
            exact ⟨u, List.mem_append_left _ hu, hsets⟩
        rw [hsplit]
        simp only [hlater, or_false]

end Steps

/-! ## Executions -/

section Executions

variable {σ : Type} [ERC721 σ] {w w' : World σ} {ts : List (Transition σ)}

theorem World.Path.custodyInv (h : w.Path ts w') (hinv : CustodyInv w.nft) : CustodyInv w'.nft :=
  (h.invariant (P := fun w => CustodyInv w.nft)
    (fun _ _ hvalid hinv => (Transition.custody hvalid hinv).1) hinv).1

omit [ERC721 σ] in
theorem AssetNFT.Minted.mono {n n' : AssetNFT σ} {t : Nat} (h : n.Minted t)
    (hle : n.nextTokenId ≤ n'.nextTokenId) : n'.Minted t :=
  ⟨h.1, Nat.lt_of_lt_of_le h.2 hle⟩

/-- Every event is about a token that has been minted. -/
theorem Nested.about_minted (h : Nested w ts w') (hinv : CustodyInv w.nft) :
    ∀ tr ∈ ts, ∀ e ∈ tr.events, ∀ t, e.About t → w'.nft.Minted t := by
  induction h with
  | nil =>
      intro tr htr
      cases htr
  | plain hstep hplain =>
      intro tr htr e he t habout
      rw [List.mem_singleton.1 htr] at he
      have hle := hstep.nextTokenId_le
      cases hstep with
      | asset hstep =>
          obtain ⟨a, ha, rfl⟩ := List.mem_map.1 he
          refine AssetNFT.Minted.mono (hinv.minted_of_known ?_) hle
          -- The five functions that emit an event require the asset to be known.
          obtain rfl : a.tokenId = t := habout
          cases hstep with
          | reassignAsset hcaller => rw [List.mem_singleton.1 ha]; exact hcaller.known
          | revokeHeld hcaller => rw [List.mem_singleton.1 ha]; exact hcaller.known
          | revokeMoved hcaller => rw [List.mem_singleton.1 ha]; exact hcaller.known
          | restoreHeld hcaller => rw [List.mem_singleton.1 ha]; exact hcaller.known
          | restoreMoved hcaller => rw [List.mem_singleton.1 ha]; exact hcaller.known
          | updateAssetRecord hcaller => rw [List.mem_singleton.1 ha]; exact hcaller.known
          | _ => cases ha
      | registry =>
          obtain ⟨r, -, rfl⟩ := List.mem_map.1 he
          exact habout.elim
      | access =>
          obtain ⟨r, -, rfl⟩ := List.mem_map.1 he
          exact habout.elim
      | mintBegin => exact hplain.elim
      | mintEnd => exact hplain.elim
  | append hfirst hsecond ih₁ ih₂ =>
      intro tr htr e he t habout
      rcases List.mem_append.1 htr with htr | htr
      · exact (ih₁ hinv tr htr e he t habout).mono hsecond.path.nextTokenId_le
      · exact ih₂ (hfirst.path.custodyInv hinv) tr htr e he t habout
  | @mint w w₁ w₂ w₃ msg orgId assignedTo assetHash metadataURI begun ended inner hbegins hhook
      hends ih =>
      intro tr htr e he t habout
      have hnext := hbegins.mint_nextTokenId
      have hle := hhook.path.nextTokenId_le
      have hlast := hends.minted_nextTokenId rfl
      rcases List.mem_cons.1 htr with rfl | htr
      · cases hbegins
        cases he
      · rcases List.mem_append.1 htr with htr | htr
        · exact (ih (hbegins.path.custodyInv hinv) tr htr e he t habout).mono (Nat.le_of_eq hlast.symm)
        · rw [List.mem_singleton.1 htr] at he
          cases hends
          rw [List.mem_singleton.1 he] at habout
          obtain rfl := habout
          show w₂.nft.Minted w.nft.nextTokenId
          exact ⟨hinv.next, by omega⟩

/-- What the steps that complete a mint find: the organization is the one the mint named. -/
theorem Nested.announces_orgId (h : Nested w ts w') (hinv : CustodyInv w.nft) :
    ∀ tr ∈ ts, tr.Announces .orgId := by
  induction h with
  | nil =>
      intro tr htr
      cases htr
  | plain hstep hplain =>
      intro tr htr
      rw [List.mem_singleton.1 htr]
      cases hstep with
      | mintEnd => exact hplain.elim
      | _ => trivial
  | append hfirst hsecond ih₁ ih₂ =>
      intro tr htr
      rcases List.mem_append.1 htr with htr | htr
      · exact ih₁ hinv tr htr
      · exact ih₂ (hfirst.path.custodyInv hinv) tr htr
  | @mint w w₁ w₂ w₃ msg orgId assignedTo assetHash metadataURI begun ended inner hbegins hhook
      hends ih =>
      have hcustody := hbegins.path.custodyInv hinv
      intro tr htr
      rcases List.mem_cons.1 htr with rfl | htr
      · trivial
      · rcases List.mem_append.1 htr with htr | htr
        · exact ih hcustody tr htr
        · rw [List.mem_singleton.1 htr]
          -- The mint has written its organization, and no step of the hook changes it.
          have hwritten : (w₁.nft.assets w.nft.nextTokenId).orgId = orgId := by
            cases hbegins with
            | mintBegin hstep => rw [hstep.record.2.2.1]
          have hminted : w₁.nft.Minted w.nft.nextTokenId :=
            ⟨hinv.next, by rw [hbegins.mint_nextTokenId]; exact Nat.lt_succ_self _⟩
          have hkept := hhook.path.invariant
            (P := fun s => CustodyInv s.nft ∧ s.nft.Minted w.nft.nextTokenId ∧
              (s.nft.assets w.nft.nextTokenId).orgId = orgId)
            (fun u _ hvalid hs => by
              have hstep : ActionStep u.before u.msg u.action u.after u.events :=
                Transition.valid_iff.1 hvalid
              obtain ⟨hcustody', htoken⟩ := Transition.custody hvalid hs.1
              exact ⟨hcustody', hs.2.1.mono hstep.nextTokenId_le,
                ((htoken _).orgId hs.2.1).trans hs.2.2⟩)
            ⟨hcustody, hminted, hwritten⟩
          exact hkept.1.2.2.symm

/-- Log and storage after an execution, for a token that was there before and for a token it has
    minted. -/
theorem Nested.agree (h : Nested w ts w') (hinv : CustodyInv w.nft) (views : Nat → AssetView)
    (t : Nat) (f : AssetField) :
    (t < w.nft.nextTokenId →
      (f.Agree ((ts.flatMap Transition.events).foldl applyEvent views t) (w'.nft.view t) ↔
        f.Agree (views t) (w.nft.view t) ∨ ∃ u ∈ ts, u.Sets t f)) ∧
    (w.nft.nextTokenId ≤ t → t < w'.nft.nextTokenId →
      (f.Agree ((ts.flatMap Transition.events).foldl applyEvent views t) (w'.nft.view t) ↔
        Settled t f ts)) := by
  induction h generalizing views with
  | nil w =>
      refine ⟨fun _ => ?_, fun hlow hhigh => absurd hhigh (Nat.not_lt.2 hlow)⟩
      simp
  | @plain w w' msg act events hstep hplain =>
      have hnext : w'.nft.nextTokenId = w.nft.nextTokenId := by
        cases hstep with
        | asset hstep => exact hstep.lists_eq.2
        | mintBegin => exact hplain.elim
        | _ => rfl
      refine ⟨fun _ => ?_, fun hlow hhigh => absurd hhigh (by omega)⟩
      rw [List.flatMap_singleton, ← hstep.view hplain hinv, agree_foldl]
      simp [Transition.Sets]
  | @append w w' w'' ts us hfirst hsecond ih₁ ih₂ =>
      have hinv' := hfirst.path.custodyInv hinv
      have hle₁ := hfirst.path.nextTokenId_le
      rw [List.flatMap_append, List.foldl_append]
      obtain ⟨hold₁, hnew₁⟩ := ih₁ hinv views
      obtain ⟨hold₂, hnew₂⟩ := ih₂ hinv' ((ts.flatMap Transition.events).foldl applyEvent views)
      refine ⟨fun hlow => ?_, fun hlow hhigh => ?_⟩
      · rw [hold₂ (by omega), hold₁ hlow]
        simp only [List.mem_append, or_and_right, exists_or, or_assoc]
      · by_cases ht : t < w'.nft.nextTokenId
        · rw [hold₂ ht, hnew₁ hlow ht, settled_append_iff]
          intro tr htr hminted
          have hfresh := (hsecond.minted_fresh tr htr t hminted).1
          omega
        · rw [hnew₂ (by omega) hhigh, settled_append_of_not_minted]
          intro tr htr hminted
          have hfresh := (hfirst.minted_fresh tr htr t hminted).2
          omega
  | @mint w w₁ w₂ w₃ msg orgId assignedTo assetHash metadataURI begun ended inner hbegins hhook
      hends ih =>
      have hinv₁ := hbegins.path.custodyInv hinv
      have hnext := hbegins.mint_nextTokenId
      have hlast := hends.minted_nextTokenId rfl
      obtain ⟨hold, hnew⟩ := ih hinv₁ views
      cases hbegins with
      | @mintBegin _ _ _ _ nft hstep =>
      cases hends with
      | mintEnd =>
      simp only [List.flatMap_cons, List.flatMap_append, List.nil_append, List.flatMap_nil,
        List.append_nil, List.foldl_append, List.foldl_cons, List.foldl_nil]
      have hquiet : ∀ tr ∈ (⟨w, msg, .mintBegin orgId assignedTo assetHash metadataURI,
          { w with nft }, []⟩ : Transition σ) :: inner,
          tr.action.minted ≠ some w.nft.nextTokenId := by
        intro tr htr hminted
        rcases List.mem_cons.1 htr with rfl | htr
        · cases hminted
        · have hfresh := (hhook.minted_fresh tr htr _ hminted).1
          omega
      by_cases ht : t = w.nft.nextTokenId
      · -- The token itself: the event says everything, and the record has what the hook left.
        subst ht
        refine ⟨fun hlow => absurd hlow (Nat.lt_irrefl _), fun _ _ => ?_⟩
        rw [← List.cons_append, settled_append_of_not_minted hquiet, Settled]
        have huri := congrFun
          (ERC721.tokenURI_setTokenURI w₂.nft.ledger w.nft.nextTokenId metadataURI)
          w.nft.nextTokenId
        rw [Function.update_self] at huri
        simp only [applyEvent, AssetEvent.tokenId, Function.update_self, AssetView.replay,
          AssetNFT.view, AssetNFT.tokenURI, huri]
        simp [Settled, Transition.Announces, AssetNFT.view, Action.minted]
      · have habout : ¬ (Event.asset (.assetMinted w.nft.nextTokenId orgId assignedTo assetHash
            metadataURI msg.sender)).About t := fun habout => ht (Eq.symm habout)
        rw [applyEvent_of_not_about habout, (sameToken_setTokenURI ht metadataURI).view]
        refine ⟨fun hlow => ?_, fun hlow hhigh => ?_⟩
        · rw [hold (by omega), (hstep.sameToken ht).view]
          simp [Transition.Sets, Event.Sets, AssetEvent.tokenId, Ne.symm ht]
        · rw [hnew (by omega) (by omega), Settled, settled_append_iff]
          · simp [Transition.Sets, Event.Sets, AssetEvent.tokenId, Ne.symm ht, Action.minted]
          · intro tr htr hminted
            rw [List.mem_singleton.1 htr] at hminted
            exact ht (Option.some.inj hminted).symm

/-- Agreement with the log, before and after one top-level call. -/
theorem Nested.stored_iff (h : Nested w ts w') (hinv : CustodyInv w.nft)
    {views : Nat → AssetView} (hviews : ∀ t, views t = w.nft.stored t) :
    (∀ t, (ts.flatMap Transition.events).foldl applyEvent views t = w'.nft.stored t) ↔
      ∀ t, ∀ f ∈ [AssetField.assignedTo, .active, .assetHash], Settled t f ts := by
  have hinv' := h.path.custodyInv hinv
  have hle := h.path.nextTokenId_le
  have hstored : ∀ {n : AssetNFT σ}, CustodyInv n → ∀ {t}, n.Minted t → n.stored t = n.view t :=
    fun hn t hm => if_neg ((hn.minted_iff t).1 hm)
  -- A token that is not there has no event and no record on either side.
  have habsent : ∀ t, ¬ w'.nft.Minted t →
      (ts.flatMap Transition.events).foldl applyEvent views t = w'.nft.stored t := by
    intro t hnot
    rw [foldl_of_not_about, hviews, AssetNFT.stored, AssetNFT.stored,
      if_pos ((hinv'.token t).unheld hnot),
      if_pos ((hinv.token t).unheld fun hm => hnot (hm.mono hle))]
    intro e he habout
    obtain ⟨tr, htr, he⟩ := List.mem_flatMap.1 he
    exact hnot (h.about_minted hinv tr htr e he t habout)
  -- A token from before keeps agreeing.
  have hold : ∀ t, w.nft.Minted t →
      (ts.flatMap Transition.events).foldl applyEvent views t = w'.nft.stored t := by
    intro t hm
    rw [hstored hinv' (hm.mono hle), AssetView.eq_iff_agree]
    intro f
    rw [(h.agree hinv views t f).1 hm.2, hviews, hstored hinv hm]
    exact .inl (AssetView.eq_iff_agree.1 rfl f)
  -- What is new agrees where it is settled.
  have hnew : ∀ t, w'.nft.Minted t → ¬ w.nft.Minted t →
      ((ts.flatMap Transition.events).foldl applyEvent views t = w'.nft.stored t ↔
        ∀ f : AssetField, Settled t f ts) := by
    intro t hm hnot
    have hlow : w.nft.nextTokenId ≤ t := by
      by_contra hlt
      exact hnot ⟨hm.1, Nat.lt_of_not_le hlt⟩
    rw [hstored hinv' hm, AssetView.eq_iff_agree]
    exact forall_congr' fun f => (h.agree hinv views t f).2 hlow hm.2
  have horg : ∀ t, Settled t .orgId ts := fun t =>
    settled_of_announces fun tr htr _ => h.announces_orgId hinv tr htr
  have huri : ∀ t, Settled t .tokenURI ts := fun t => settled_of_announces fun tr _ _ => by
    unfold Transition.Announces
    split
    · rfl
    · trivial
  constructor
  · intro hagree t f hf
    by_cases hfresh : w'.nft.Minted t ∧ ¬ w.nft.Minted t
    · exact (hnew t hfresh.1 hfresh.2).1 (hagree t) f
    · -- No mint of `t` completes here.
      refine settled_of_announces fun tr htr hminted => absurd ?_ hfresh
      obtain ⟨hlow, hhigh⟩ := h.minted_fresh tr htr t hminted
      have hnext := hinv.next
      exact ⟨⟨by omega, hhigh⟩, fun hm => absurd hm.2 (by omega)⟩
  · intro hsettled t
    by_cases hm : w'.nft.Minted t
    · by_cases hm₀ : w.nft.Minted t
      · exact hold t hm₀
      · refine (hnew t hm hm₀).2 fun f => ?_
        cases f with
        | orgId => exact horg t
        | tokenURI => exact huri t
        | assignedTo => exact hsettled t _ (by simp)
        | active => exact hsettled t _ (by simp)
        | assetHash => exact hsettled t _ (by simp)
    · exact habsent t hm

end Executions

/-! ## Runs -/

section Runs

variable {σ : Type} [ERC721 σ]

/-- The events of a run, in log order. -/
def World.log (ts : List (Transition σ)) : List Event :=
  ts.flatMap Transition.events

theorem World.run_singleton (w : World σ) (tx : Tx) : w.run [tx] = w.runTx tx := by
  simp [run]

/-- At the end of every top-level call of a run the log says what is stored of every token, exactly
    when in each of the calls every mint that completes announces the holder, the active flag and
    the hash that the record has after the recipient's hook, or a later step of the call sets the
    field again. -/
theorem World.run_assetLog_iff (registryOwner assetOwner : Account) (txs : List Tx) :
    (∀ front back, txs = front ++ back → ∀ t,
      replayAssets (World.log ((deploy registryOwner assetOwner : World σ).run front).2) t =
        ((deploy registryOwner assetOwner : World σ).run front).1.nft.stored t) ↔
    ∀ front tx back, txs = front ++ tx :: back →
      ∀ t, ∀ f ∈ [AssetField.assignedTo, .active, .assetHash],
        Settled t f (((deploy registryOwner assetOwner : World σ).run front).1.runTx tx).2 := by
  have hcustody : ∀ front,
      CustodyInv ((deploy registryOwner assetOwner : World σ).run front).1.nft := fun front =>
    (run_path (deploy registryOwner assetOwner) front).custodyInv (.deploy assetOwner)
  -- One more call.
  have hstep : ∀ front tx,
      (∀ t, replayAssets (World.log ((deploy registryOwner assetOwner : World σ).run front).2) t =
        ((deploy registryOwner assetOwner : World σ).run front).1.nft.stored t) →
      ((∀ t, replayAssets
          (World.log ((deploy registryOwner assetOwner : World σ).run (front ++ [tx])).2) t =
        ((deploy registryOwner assetOwner : World σ).run (front ++ [tx])).1.nft.stored t) ↔
        ∀ t, ∀ f ∈ [AssetField.assignedTo, .active, .assetHash],
          Settled t f (((deploy registryOwner assetOwner : World σ).run front).1.runTx tx).2) := by
    intro front tx hfront
    rw [run_append, run_singleton]
    have hcall := (runTx_nested ((deploy registryOwner assetOwner : World σ).run front).1 tx)
    rw [← hcall.stored_iff (hcustody front) hfront]
    simp only [World.log, replayAssets, List.flatMap_append, List.foldl_append]
  constructor
  · intro hagree front tx back hsplit
    have hfront := hagree front (tx :: back) hsplit
    have hafter := hagree (front ++ [tx]) back (by rw [hsplit, List.append_assoc]; rfl)
    exact (hstep front tx hfront).1 hafter
  · intro hsettled front
    induction front using List.reverseRecOn with
    | nil =>
        intro back _ t
        exact (if_pos (ERC721.ownerOf_deployed t)).symm
    | append_singleton front tx ih =>
        intro back hsplit
        rw [List.append_assoc] at hsplit
        exact (hstep front tx (ih ([tx] ++ back) hsplit)).2 (hsettled front tx back hsplit)

end Runs

/-! ## A recipient that passes its asset on -/

/-- Alice mints a phone to Bob's contract, which hands it to Carol as soon as it receives it. -/
def Sample.passedOn : List Tx :=
  Sample.founding ++ [Sample.tx Sample.alice 105 (.mintAsset 1 Sample.bob 12 "ipfs://phone"
    (.call Sample.bob (.asset (.reassignAsset 2 Sample.carol)) (.done true)))]

/-- The log says Bob has it, the contract says Carol. -/
theorem Sample.passedOn_disagrees :
    ¬ ∀ (registryOwner assetOwner : Account) (txs : List Tx) (t : Nat),
      replayAssets (World.log ((World.deploy registryOwner assetOwner : World Ledger).run txs).2) t =
        ((World.deploy registryOwner assetOwner : World Ledger).run txs).1.nft.stored t := by
  intro hagree
  have hlog : (replayAssets (World.log
      ((World.deploy Sample.owner Sample.owner : World Ledger).run Sample.passedOn).2) 2).assignedTo =
      Sample.bob := by decide +kernel
  have hstored : (((World.deploy Sample.owner Sample.owner : World Ledger).run
      Sample.passedOn).1.nft.stored 2).assignedTo = Sample.carol := by decide +kernel
  rw [hagree, hstored] at hlog
  exact absurd hlog (by decide)

end OwneX
