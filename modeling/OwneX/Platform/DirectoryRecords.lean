import OwneX.Platform.Directory
import OwneX.Platform.StoredRecords

set_option autoImplicit false

/-! # Where the records come from

A row of `organizations` is kept for the root admin of the organization only, and it is the record
that the chain anchors. A row of `profiles` is kept for the wallet of the session only; it is shown
to this wallet, and without its contact details to the admins and managers of an organization that
the wallet is listed in. -/

namespace OwneX

open Js JsNumber Prog Interleaving Service KeyedList

/-! ## Which operations the handlers await -/

/-- Everything but the two statements that write. -/
def DirectoryOp.Reads : DirectoryOp → Prop
  | profile (.upsert ..) => False
  | upsertOrganization _ => False
  | _ => True

theorem reads_inDirectory {α : Type} (p : Route α) : Only DirectoryOp.Reads (inDirectory p).run :=
  only_embed (only_true p.run) fun _ _ => trivial

theorem reads_readLive {α : Type} (read : Await α) : Only DirectoryOp.Reads (readLive read).run :=
  reads_inDirectory _

theorem reads_getMembers (orgId : Nat) : Only DirectoryOp.Reads (getMembers orgId).run := by
  have hcall : Only DirectoryOp.Reads
      (call (DirectoryOp.getMembers orgId) : Prog DirectoryOp DirectoryOp.Res _) :=
    only_call trivial
  exact only_exceptT_bind (only_refuseIf _ _) fun _ => only_attempt hcall _

theorem reads_assetsOfHolder (wallet : Address) :
    Only DirectoryOp.Reads (assetsOfHolder wallet).run := by
  refine only_exceptT_bind (only_ask trivial) fun ids => ?_
  cases ids <;> exact only_exceptT_pure _

theorem reads_readOrgMembers (orgId : Nat) : Only DirectoryOp.Reads (readOrgMembers orgId).run := by
  refine only_exceptT_bind (only_exceptT_both (reads_getMembers orgId) (reads_readLive _))
    fun read => ?_
  refine only_allOf fun wallet _ => ?_
  exact only_exceptT_bind (only_exceptT_both (reads_readLive _) (reads_readLive _)) fun _ =>
    only_exceptT_pure _

theorem reads_enrichMember (canSeeProfiles : Bool) (profiles : List RosterProfile)
    (member : OrgMemberState) :
    Only DirectoryOp.Reads (enrichMember canSeeProfiles profiles member).run :=
  only_exceptT_bind (only_exceptT_both (reads_readLive _) (reads_assetsOfHolder _)) fun _ =>
    only_exceptT_pure _

theorem reads_readRoster (orgId : Nat) (canSeeProfiles : Bool) :
    Only DirectoryOp.Reads (readRoster orgId canSeeProfiles).run := by
  refine only_exceptT_bind (only_exceptT_both (reads_readOrgMembers orgId) (reads_readLive _))
    fun read => ?_
  refine only_exceptT_bind (only_exceptT_both (only_ask trivial) (only_ask trivial))
    fun stored => ?_
  exact only_exceptT_bind (only_allOf fun member _ => reads_enrichMember _ _ member) fun _ =>
    only_exceptT_pure _

theorem reads_getRoster (session : SessionData) (orgId : Option Nat) :
    Only DirectoryOp.Reads (getRoster session orgId).run :=
  only_exceptT_bind (only_require _ _) fun _ =>
    only_exceptT_bind (reads_inDirectory _) fun _ => reads_readRoster _ _

theorem reads_callerWallet (session : SessionData) :
    Only DirectoryOp.Reads (callerWallet session).run := by
  refine only_exceptT_bind (reads_inDirectory _) fun wallet => ?_
  cases wallet <;> exact .done _

theorem reads_selectProfile (wallet : Address) :
    Only DirectoryOp.Reads (selectProfile wallet).run :=
  only_exceptT_bind (only_ask trivial) fun _ => only_exceptT_pure _

theorem reads_getProfile (rt : AssetRuntime) (session : SessionData) :
    Only DirectoryOp.Reads (getProfile rt session).run :=
  only_exceptT_bind (reads_callerWallet session) fun _ =>
    only_exceptT_bind (reads_selectProfile _) fun _ => only_exceptT_pure _

theorem reads_readMembershipEntries (wallet : Address) :
    Only DirectoryOp.Reads (readMembershipEntries wallet).run := by
  have hcount : Only DirectoryOp.Reads
      (call DirectoryOp.organizationCount : Prog DirectoryOp DirectoryOp.Res _) := only_call trivial
  refine only_exceptT_bind (only_attempt hcount _) fun total => ?_
  refine only_exceptT_bind (only_allOf fun orgId _ => ?_) fun _ => only_exceptT_pure _
  refine only_exceptT_bind (reads_readLive _) fun role => ?_
  split
  · exact only_exceptT_pure _
  · exact only_exceptT_bind (reads_readLive _) fun _ => only_exceptT_pure _

theorem reads_readPermissionsIn (wallet : Address) (memberships : List MembershipEntry)
    (orgId : Option Nat) :
    Only DirectoryOp.Reads (readPermissionsIn wallet memberships orgId).run := by
  unfold readPermissionsIn
  split
  · exact only_exceptT_pure _
  · split
    · exact only_exceptT_bind (reads_readLive _) fun _ => only_exceptT_pure _
    · exact only_exceptT_pure _

theorem reads_identityMe [Js.CaseMapping] (rt : AssetRuntime) (session : SessionData)
    (orgId : Option Nat) : Only DirectoryOp.Reads (identityMe rt session orgId).run := by
  refine only_exceptT_bind (reads_callerWallet session) fun wallet => ?_
  refine only_exceptT_bind (only_exceptT_both (reads_readLive _)
    (only_exceptT_both (reads_readMembershipEntries wallet) (reads_assetsOfHolder wallet)))
    fun read => ?_
  refine only_exceptT_bind (reads_readPermissionsIn _ _ _) fun permissions => ?_
  exact only_exceptT_bind (reads_selectProfile wallet) fun _ => only_exceptT_pure _

theorem reads_prepareOrganization [Str.CaseMapping] {rt : AssetRuntime} (session : SessionData)
    (body : Option OrganizationBody) :
    Only DirectoryOp.Reads (prepareOrganization rt session body).run :=
  only_exceptT_bind (reads_inDirectory _) fun _ =>
    only_exceptT_bind (only_require _ _) fun _ => only_exceptT_pure _

/-! ## What was seen -/

section Seen

variable {σ : Type} [ERC721 σ]

/-- What was asked of the chain and the clock, of all that was asked. -/
def chainMoments (seen : List (DirectoryOp × DirectoryState σ)) : Moments σ :=
  seen.filterMap fun moment =>
    match moment.1 with
    | .profile (.server op) => some (op, moment.2.server)
    | _ => none

/-- The wallet was in session. -/
def SeenInSession (seen : Moments σ) (session : SessionData) (wallet : Address) : Prop :=
  ∃ s, (.now, s) ∈ seen ∧ session.walletAt s.clock = some wallet

/-- The wallet was in session, and its identity was active. -/
structure SeenActive (seen : Moments σ) (session : SessionData) (wallet : Address) : Prop where
  inSession : SeenInSession seen session wallet
  active : ∃ s, (.readIdentity wallet, s) ∈ seen ∧ s.chain.world.registry.isActive wallet = true

/-- The wallet was active, and held the role in the organization. -/
structure SeenMember (seen : Moments σ) (session : SessionData) (wallet : Address) (orgId : Nat)
    (role : RoleName) : Prop extends SeenActive seen session wallet where
  member : ∃ s, (.readEffectiveRole orgId wallet, s) ∈ seen ∧
    s.chain.readEffectiveRole orgId wallet = role

/-- What a guard has read, operation by operation. -/
theorem returns_activeWallet {session : SessionData} {wallet : Address}
    {log : List ((op : ServerOp) × op.Res)}
    (h : Returns (activeWallet session).run log (.ok wallet)) :
    ∃ dateNow identity, session.walletAt dateNow = some wallet ∧ identity.active = true ∧
      log = [⟨.now, dateNow⟩, ⟨.readIdentity wallet, .ok identity⟩] := by
  obtain ⟨sessionWallet, log₁, log₂, hlog, hsession, hguard⟩ := returns_lift_bind.1 h
  obtain ⟨identity, rfl, hactive, hlog₂⟩ := returns_requireActiveIdentity hguard
  obtain ⟨dateNow, hwallet, hlog₁⟩ := returns_sessionWallet hsession
  subst hlog₂ hlog₁ hlog
  exact ⟨dateNow, identity, hwallet, hactive, rfl⟩

theorem returns_memberOf {session : SessionData} {orgId : Nat} {caller : Caller}
    {log : List ((op : ServerOp) × op.Res)}
    (h : Returns (memberOf session orgId).run log (.ok caller)) :
    ∃ dateNow identity, session.walletAt dateNow = some caller.wallet ∧ identity.active = true ∧
      caller.role ≠ .none ∧
      log = [⟨.now, dateNow⟩, ⟨.readIdentity caller.wallet, .ok identity⟩,
        ⟨.readEffectiveRole orgId caller.wallet, .ok caller.role⟩] := by
  obtain ⟨sessionWallet, log₁, rest₁, hlog, hsession, hguard⟩ := returns_lift_bind.1 h
  obtain ⟨wallet, log₂, rest₂, hrest₁, hidentity, hchecks⟩ := returns_exceptT_bind.1 hguard
  obtain ⟨identity, rfl, hactive, hlog₂⟩ := returns_requireActiveIdentity hidentity
  obtain ⟨dateNow, hwallet, hlog₁⟩ := returns_sessionWallet hsession
  obtain ⟨role, log₃, rest₃, hrest₂, hrole, hcheck⟩ := returns_exceptT_bind.1 hchecks
  have hlog₃ := returns_call.1 (returns_onSafe (returns_orInternal hrole))
  dsimp only at hcheck
  split at hcheck
  · cases (returns_pure.1 hcheck).2
  next hnone =>
      obtain ⟨hrest₃, rfl⟩ := returns_exceptT_pure.1 hcheck
      subst hrest₃ hlog₃ hrest₂ hlog₂ hrest₁ hlog₁ hlog
      exact ⟨dateNow, identity, hwallet, hactive, hnone, rfl⟩

variable {rt : ServerRuntime} {seen : Moments σ} {log : List ((op : ServerOp) × op.Res)}

theorem Witnesses.inSession (h : Witnesses rt seen log) {session : SessionData} {wallet : Address}
    (hwallet : Returns (sessionWallet session) log (some wallet)) :
    SeenInSession seen session wallet := by
  obtain ⟨dateNow, hsession, rfl⟩ := returns_sessionWallet hwallet
  obtain ⟨s, hs, rfl⟩ := h.now (List.mem_cons_self ..)
  exact ⟨s, hs, hsession⟩

theorem Witnesses.isActive (h : Witnesses rt seen log) {wallet : Address} {identity : IdentityState}
    (hread : ⟨.readIdentity wallet, .ok identity⟩ ∈ log) (hactive : identity.active = true) :
    ∃ s, (.readIdentity wallet, s) ∈ seen ∧ s.chain.world.registry.isActive wallet = true := by
  obtain ⟨s, s', hs, hexec⟩ := h _ hread
  have heq := Except.ok.inj (Prod.mk.inj (Attempt.of_ok hexec)).1
  rw [← heq] at hactive
  exact ⟨s, hs, hactive⟩

theorem Witnesses.active (h : Witnesses rt seen log) {session : SessionData} {wallet : Address}
    (hwallet : Returns (activeWallet session).run log (.ok wallet)) :
    SeenActive seen session wallet := by
  obtain ⟨dateNow, identity, hsession, hactive, rfl⟩ := returns_activeWallet hwallet
  obtain ⟨s, hs, rfl⟩ := h.now (List.mem_cons_self ..)
  exact ⟨⟨s, hs, hsession⟩, h.isActive (by simp) hactive⟩

theorem Witnesses.member (h : Witnesses rt seen log) {session : SessionData} {orgId : Nat}
    {caller : Caller} (hcaller : Returns (memberOf session orgId).run log (.ok caller)) :
    SeenMember seen session caller.wallet orgId caller.role ∧ caller.role ≠ .none := by
  obtain ⟨dateNow, identity, hsession, hactive, hnone, rfl⟩ := returns_memberOf hcaller
  obtain ⟨s, hs, rfl⟩ := h.now (List.mem_cons_self ..)
  obtain ⟨s', s'', hs', hexec⟩ :=
    h ⟨.readEffectiveRole orgId caller.wallet, .ok caller.role⟩ (by simp)
  exact ⟨⟨⟨⟨s, hs, hsession⟩, h.isActive (by simp) hactive⟩, s', hs',
    Except.ok.inj (Prod.mk.inj (Attempt.of_ok hexec)).1⟩, hnone⟩

end Seen

/-! ## What a request writes -/

section Writes

variable [Str.CaseMapping] {rt : AssetRuntime}

/-- The record that a row holds. -/
def OrganizationRow.record (row : OrganizationRow) : Preimage.OrganizationRecord where
  name := .ofString row.name
  industry := row.industry.map .ofString
  website := row.website.map .ofString

/-- The hash of the record that a row holds. -/
def OrganizationRow.rehash (rt : AssetRuntime) (row : OrganizationRow) : String :=
  (Preimage.Record.organization row.record).hash rt.keccakUtf8

omit [Str.CaseMapping] in
theorem record_of_columns {body : OrganizationBody} {orgId : SafeInt} {metadataHash : String}
    {row : OrganizationRow} (h : body.columns orgId metadataHash = some row) :
    row.orgId = orgId ∧ row.metadataHash = some metadataHash ∧ row.record = body.record := by
  unfold OrganizationBody.columns at h
  simp only [Option.bind_eq_bind, Option.bind_eq_some_iff] at h
  obtain ⟨name, hname, industry, hindustry, website, hwebsite, description, -, heq⟩ := h
  obtain rfl := Option.some.inj heq
  refine ⟨rfl, rfl, ?_⟩
  unfold OrganizationRow.record OrganizationBody.record
  rw [ofString_storedText hname, ofString_storedOptional hindustry,
    ofString_storedOptional hwebsite]

theorem eq_of_sameHex {a b : Bytes32} (h : sameHex (hex a) (hex b) = true) : hex a = hex b := by
  unfold sameHex at h
  rw [toLowerCase_hex, toLowerCase_hex] at h
  exact eq_of_beq h

/-- What a verification has read. -/
theorem returns_verifyOrganization {wallet : Address} {body : ConfirmOrganizationBody}
    {log : List ((op : DirectoryOp) × op.Res)} {organization : OrganizationState}
    (h : Returns (verifyOrganization rt wallet body).run log (.ok organization)) :
    ⟨.profile (.server (.readOrganization body.orgId)), .ok (some organization)⟩ ∈ log ∧
      organization.rootAdmin = wallet ∧ hex organization.metadataHash = body.anchor rt := by
  obtain ⟨found, log₁, rest, hlog, hread, hchecks⟩ := returns_exceptT_bind.1 h
  obtain ⟨organization', hfound, hroot⟩ := returns_require_bind.1 hchecks
  obtain ⟨hadmin, hanchor⟩ := returns_refuseIf_bind.1 hroot
  obtain ⟨hsame, hreturn⟩ := returns_refuseIf_bind.1 hanchor
  obtain ⟨hrest, rfl⟩ := returns_exceptT_pure.1 hreturn
  subst hrest hlog hfound
  obtain ⟨inner, hinner, hdone⟩ := log_of_embed_id hread
  obtain rfl := returns_call.1 (returns_onSafe (returns_orInternal hinner))
  have hr := hdone _ List.mem_cons_self
  have hanchored : sameHex (hex organization'.metadataHash) (body.anchor rt) = true := by
    simpa using hsame
  exact ⟨List.mem_append_left _ hr, by simpa using hadmin, eq_of_sameHex hanchored⟩

/-- Before a confirmation writes, the organization was read to have the caller as its root admin and
    the record as its anchor. -/
theorem anchored_of_confirm {session : SessionData} {body : Option ConfirmOrganizationBody}
    {log : List ((op : DirectoryOp) × op.Res)} {op : DirectoryOp} (hop : ¬ op.Reads)
    (h : Reaches (confirmOrganization rt session body).run log op) :
    ∃ wallet guard organization row, op = .upsertOrganization row ∧ guard ⊆ log ∧
      Returns (inDirectory (activeWallet session)).run guard (.ok wallet) ∧
      ⟨.profile (.server (.readOrganization row.orgId.1)), .ok (some organization)⟩ ∈ log ∧
      organization.rootAdmin = wallet ∧
      row.metadataHash = some (hex organization.metadataHash) ∧
      row.rehash rt = hex organization.metadataHash := by
  obtain ⟨wallet, guard, back, hlog, hwallet, hreading⟩ := h.second (reads_inDirectory _) hop
  obtain ⟨confirmed, -, hverifying⟩ := reaches_require_bind.1 hreading
  have hverifies : Only DirectoryOp.Reads (verifyOrganization rt wallet confirmed).run := by
    refine only_exceptT_bind (reads_readLive _) fun found => ?_
    refine only_exceptT_bind (only_require _ _) fun organization => ?_
    refine only_exceptT_bind (only_refuseIf _ _) fun _ => ?_
    exact only_exceptT_bind (only_refuseIf _ _) fun _ => only_exceptT_pure _
  obtain ⟨organization, front, rest, hback, hverified, hsaving⟩ := hverifying.second hverifies hop
  obtain ⟨hread, hadmin, hanchor⟩ := returns_verifyOrganization hverified
  have hsave : Reaches (saveOrganization rt confirmed).run rest op :=
    hsaving.first (P := DirectoryOp.Reads) (fun _ => only_exceptT_pure _) hop
  unfold saveOrganization at hsave
  split at hsave
  · obtain ⟨row, hcolumns, hupsert⟩ := reaches_require_bind.1 hsave
    obtain ⟨-, rfl⟩ := reaches_call.1 (reaches_attempt.1 hupsert)
    obtain ⟨horg, hhash, hrecord⟩ := record_of_columns hcolumns
    have hid : row.orgId.1 = confirmed.orgId := congrArg Subtype.val horg
    refine ⟨wallet, guard, organization, row, rfl, by simp [hlog], hwallet, ?_, hadmin, ?_, ?_⟩
    · rw [hlog, hback, hid]
      exact List.mem_append_right _ (List.mem_append_left _ hread)
    · rw [hhash, hanchor]
    · rw [hanchor]
      exact congrArg (fun r => (Preimage.Record.organization r).hash rt.keccakUtf8) hrecord
  · exact absurd hsave reaches_done

/-- What a saved row says of a body. -/
structure Submitted (rt : AssetRuntime) (body : ProfileBody) (row : ProfileRow) : Prop where
  displayName : Str.ofString row.displayName = body.displayName
  jobTitle : row.jobTitle.map Str.ofString = body.jobTitle
  department : row.department.map Str.ofString = body.department
  avatarUrl : row.avatarUrl.map Str.ofString = body.avatarUrl
  email : decryptPII rt.decipher row.emailEncrypted = sealedText body.email
  phone : decryptPII rt.decipher row.phoneEncrypted = sealedText body.phone
  identityHash : row.identityHash =
    some ((Preimage.Record.identity body.record).hash rt.keccakUtf8)

theorem avatarUrl_of_prepareProfile {body : ProfileBody} {log : List ((op : ProfileOp) × op.Res)}
    {row : ProfileRow} (h : Returns (prepareProfile rt body).run log (.ok row)) :
    row.avatarUrl.map Str.ofString = body.avatarUrl := by
  obtain ⟨emailEncrypted, _, _, -, -, hrest⟩ := returns_exceptT_bind.1 h
  obtain ⟨phoneEncrypted, _, _, -, -, hrest⟩ := returns_exceptT_bind.1 hrest
  obtain ⟨-, hcolumns⟩ := returns_require.1 hrest
  unfold ProfileBody.columns at hcolumns
  simp only [Option.bind_eq_bind, Option.bind_eq_some_iff] at hcolumns
  obtain ⟨displayName, -, jobTitle, -, department, -, avatarUrl, havatarUrl, heq⟩ := hcolumns
  obtain rfl := Option.some.inj heq
  exact ofString_storedOptional havatarUrl

theorem submitted_of_prepareProfile (hcipher : Deciphers rt.cipher rt.decipher) {body : ProfileBody}
    {log : List ((op : ProfileOp) × op.Res)} {row : ProfileRow}
    (h : Returns (prepareProfile rt body).run log (.ok row)) : Submitted rt body row := by
  obtain ⟨hdisplayName, hjobTitle, hdepartment, hemail, hphone, hhash⟩ :=
    columns_of_prepareProfile hcipher h
  exact ⟨hdisplayName, hjobTitle, hdepartment, avatarUrl_of_prepareProfile h, hemail, hphone, hhash⟩

/-- Before a profile is saved its wallet was in session. -/
theorem submitted_of_putProfile (hcipher : Deciphers rt.cipher rt.decipher) {session : SessionData}
    {body : Option ProfileBody} {log : List ((op : ProfileOp) × op.Res)} {wallet : Address}
    {row : ProfileRow}
    (h : Reaches (putProfile rt session body).run log (.upsert wallet row)) :
    ∃ submitted inner, body = some submitted ∧ Submitted rt submitted row ∧
      Returns (sessionWallet session) inner (some wallet) ∧
      ∀ e ∈ inner, (⟨.server e.1, e.2⟩ : (op : ProfileOp) × op.Res) ∈ log := by
  have hsaves : ¬ ProfileOp.SavesNothing (.upsert wallet row) := id
  have hcaller : ∀ sessionWallet : Option Address, Only ProfileOp.SavesNothing
      (requireCaller sessionWallet : ProfileRoute Address).run := by
    intro sessionWallet
    cases sessionWallet <;> exact .done _
  obtain ⟨found, front, back, hlog, hsession, hguarding⟩ :=
    h.second (savesNothing_besideProfiles _) hsaves
  obtain ⟨caller, middle, rest, hback, hguard, hreading⟩ := hguarding.second (hcaller found) hsaves
  obtain ⟨submitted, hbody, hpreparing⟩ := reaches_require_bind.1 hreading
  obtain ⟨rfl, -⟩ := Option.filter_eq_some_iff.1 hbody
  obtain ⟨prepared, _, saving, -, hprepare, hsaving⟩ :=
    hpreparing.second (savesNothing_prepareProfile submitted) hsaves
  have hupsert : wallet = caller ∧ row = prepared := by
    rcases reaches_ask_bind.1 hsaving with ⟨-, heq⟩ | ⟨saved, later, -, hlater⟩
    · exact ⟨(ProfileOp.upsert.inj heq).1, (ProfileOp.upsert.inj heq).2⟩
    · cases saved with
      | error e => exact absurd hlater reaches_done
      | ok _ =>
          have hread : Only ProfileOp.SavesNothing (call (ProfileOp.server (.readIdentity caller)) :
              Prog ProfileOp ProfileOp.Res _) := only_call trivial
          exact absurd ((only_exceptT_bind (only_attempt hread _) fun _ =>
            only_exceptT_pure _).reached hlater) hsaves
  obtain ⟨rfl, rfl⟩ := hupsert
  obtain ⟨inner, hinner, hdone⟩ := log_of_embed_id hsession
  obtain ⟨a, first, last, rfl, hwallet, hpure⟩ := returns_bind.1 hinner
  obtain ⟨rfl, heq⟩ := returns_pure.1 hpure
  obtain rfl := Except.ok.inj heq
  cases a with
  | none => cases (returns_pure.1 hguard).2
  | some signedIn =>
      obtain ⟨-, rfl⟩ := returns_exceptT_pure.1 hguard
      refine ⟨submitted, first, rfl, submitted_of_prepareProfile hcipher hprepare, hwallet, ?_⟩
      intro e he
      rw [hlog]
      exact List.mem_append_left _ (hdone e (List.mem_append_left _ he))

end Writes

/-! ## What a request shows -/

section Shows

/-- The wallet of the session, with what was asked for it. -/
theorem returns_callerWallet {session : SessionData} {wallet : Address}
    {log : List ((op : DirectoryOp) × op.Res)}
    (h : Returns (callerWallet session).run log (.ok wallet)) :
    ∃ inner, Returns (sessionWallet session) inner (some wallet) ∧
      ∀ e ∈ inner, (⟨.profile (.server e.1), e.2⟩ : (op : DirectoryOp) × op.Res) ∈ log := by
  obtain ⟨found, front, back, rfl, hsession, hguard⟩ := returns_exceptT_bind.1 h
  obtain ⟨inner, hinner, hdone⟩ := log_of_embed_id hsession
  obtain ⟨a, first, last, rfl, hwallet, hpure⟩ := returns_bind.1 hinner
  obtain ⟨rfl, heq⟩ := returns_pure.1 hpure
  obtain rfl := Except.ok.inj heq
  cases a with
  | none => cases (returns_pure.1 hguard).2
  | some signedIn =>
      obtain ⟨-, rfl⟩ := returns_exceptT_pure.1 hguard
      refine ⟨first, hwallet, fun e he => ?_⟩
      exact List.mem_append_left _ (hdone e (List.mem_append_left _ he))

theorem returns_selectProfile {wallet : Address} {row : StoredProfile}
    {log : List ((op : DirectoryOp) × op.Res)}
    (h : Returns (selectProfile wallet).run log (.ok (some row))) :
    ⟨.selectProfile wallet, .ok (some row)⟩ ∈ log := by
  obtain ⟨found, rest, rfl, hpure⟩ := returns_ask_bind.1 h
  obtain ⟨-, heq⟩ := returns_exceptT_pure.1 hpure
  cases found with
  | error e => cases heq
  | ok found =>
      obtain rfl : found = some row := heq
      exact List.mem_cons_self

variable {rt : AssetRuntime}

theorem returns_getProfile {session : SessionData} {reply : OwnProfileReply}
    {log : List ((op : DirectoryOp) × op.Res)}
    (h : Returns (getProfile rt session).run log (.ok reply)) :
    (∃ inner, Returns (sessionWallet session) inner (some reply.wallet) ∧
      ∀ e ∈ inner, (⟨.profile (.server e.1), e.2⟩ : (op : DirectoryOp) × op.Res) ∈ log) ∧
    ∀ profile, reply.profile = some profile → ∃ row,
      ⟨.selectProfile reply.wallet, .ok (some row)⟩ ∈ log ∧ profile = ownProfile rt row := by
  obtain ⟨wallet, front, rest, rfl, hcaller, hreading⟩ := returns_exceptT_bind.1 h
  obtain ⟨row, read, last, rfl, hselect, hpure⟩ := returns_exceptT_bind.1 hreading
  obtain ⟨rfl, rfl⟩ := returns_exceptT_pure.1 hpure
  constructor
  · obtain ⟨inner, hinner, hdone⟩ := returns_callerWallet hcaller
    exact ⟨inner, hinner, fun e he => List.mem_append_left _ (hdone e he)⟩
  · intro profile hprofile
    obtain ⟨row, rfl, rfl⟩ := Option.map_eq_some_iff.1 hprofile
    have hmem := returns_selectProfile hselect
    exact ⟨row, by simp [hmem], rfl⟩

theorem returns_identityMe [Js.CaseMapping] {session : SessionData} {orgId : Option Nat} {me : Me}
    {log : List ((op : DirectoryOp) × op.Res)}
    (h : Returns (identityMe rt session orgId).run log (.ok me)) :
    (∃ inner, Returns (sessionWallet session) inner (some me.wallet) ∧
      ∀ e ∈ inner, (⟨.profile (.server e.1), e.2⟩ : (op : DirectoryOp) × op.Res) ∈ log) ∧
    ∀ profile, me.profile = some profile → ∃ row,
      ⟨.selectProfile me.wallet, .ok (some row)⟩ ∈ log ∧
        profile = profileView rt.decipher row.toProfileRow := by
  obtain ⟨wallet, front, rest, rfl, hcaller, hreading⟩ := returns_exceptT_bind.1 h
  obtain ⟨read, chain, rest₁, rfl, -, hreading₁⟩ := returns_exceptT_bind.1 hreading
  obtain ⟨permissions, granted, rest₂, rfl, -, hreading₂⟩ := returns_exceptT_bind.1 hreading₁
  obtain ⟨row, selected, last, rfl, hselect, hpure⟩ := returns_exceptT_bind.1 hreading₂
  obtain ⟨rfl, rfl⟩ := returns_exceptT_pure.1 hpure
  constructor
  · obtain ⟨inner, hinner, hdone⟩ := returns_callerWallet hcaller
    exact ⟨inner, hinner, fun e he => List.mem_append_left _ (hdone e he)⟩
  · intro profile hprofile
    obtain ⟨row, rfl, rfl⟩ := Option.map_eq_some_iff.1 hprofile
    have hmem := returns_selectProfile hselect
    exact ⟨row, by simp [hmem], rfl⟩

theorem mem_of_profileOf {profiles : List RosterProfile} {wallet : Address}
    {profile : RosterProfile} (h : profileOf profiles wallet = some profile) :
    profile ∈ profiles ∧ profile.wallet = wallet := by
  refine ⟨List.mem_reverse.1 (List.mem_of_find?_eq_some h), ?_⟩
  have hkey := List.find?_some h
  exact eq_of_beq hkey

/-- What is seen of a profile was selected, and only for one who may. -/
theorem returns_enrichMember {canSeeProfiles : Bool} {profiles : List RosterProfile}
    {member : OrgMemberState} {entry : RosterMember} {log : List ((op : DirectoryOp) × op.Res)}
    (h : Returns (enrichMember canSeeProfiles profiles member).run log (.ok entry)) :
    ∀ summary, entry.profile = some summary → canSeeProfiles = true ∧
      ∃ profile ∈ profiles, profile.wallet = entry.member.wallet ∧ summary = profile.summary := by
  obtain ⟨read, front, back, -, -, hpure⟩ := returns_exceptT_bind.1 h
  obtain ⟨-, rfl⟩ := returns_exceptT_pure.1 hpure
  intro summary hsummary
  dsimp only at hsummary
  split at hsummary
  next hsees =>
      obtain ⟨profile, hprofile, rfl⟩ := Option.map_eq_some_iff.1 hsummary
      obtain ⟨hmem, hwallet⟩ := mem_of_profileOf hprofile
      exact ⟨hsees, profile, hmem, hwallet, rfl⟩
  · cases hsummary

/-- What the roster shows of a profile was selected, and only for one who may. -/
theorem returns_readRoster {orgId : Nat} {canSeeProfiles : Bool} {roster : Roster}
    {log : List ((op : DirectoryOp) × op.Res)}
    (h : Returns (readRoster orgId canSeeProfiles).run log (.ok roster)) :
    roster.orgId = orgId ∧ roster.canSeeProfiles = canSeeProfiles ∧
    ∀ entry ∈ roster.members, ∀ summary, entry.profile = some summary → canSeeProfiles = true ∧
      ∃ wallets profiles, ⟨.selectProfiles wallets, .ok profiles⟩ ∈ log ∧
        ∃ profile ∈ profiles, profile.wallet = entry.member.wallet ∧ summary = profile.summary := by
  obtain ⟨read, front, rest, rfl, -, hselecting⟩ := returns_exceptT_bind.1 h
  obtain ⟨stored, selected, rest₁, rfl, hstored, henriching⟩ := returns_exceptT_bind.1 hselecting
  obtain ⟨members, enriched, last, rfl, hmembers, hpure⟩ := returns_exceptT_bind.1 henriching
  obtain ⟨-, rfl⟩ := returns_exceptT_pure.1 hpure
  refine ⟨rfl, rfl, fun entry hentry summary hsummary => ?_⟩
  obtain ⟨member, -, own, -, hreturns⟩ := exists_of_returns_allOf hmembers hentry
  obtain ⟨hsees, profile, hprofile, hwallet, hsame⟩ :=
    returns_enrichMember hreturns summary hsummary
  obtain ⟨left, right, hleft, -, hselect, -⟩ := returns_exceptT_both hstored
  obtain ⟨rows, back, rfl, hanswer⟩ := returns_await.1 hselect
  obtain ⟨-, heq⟩ := returns_exceptT_pure.1 hanswer
  cases rows with
  | error e =>
      rw [← heq] at hprofile
      cases hprofile
  | ok profiles =>
      rw [← heq] at hprofile
      have hmem := hleft.subset List.mem_cons_self
      exact ⟨hsees, _, profiles, List.mem_append_right _ (List.mem_append_left _ hmem), profile,
        hprofile, hwallet, hsame⟩

/-- Who gets a roster, and what it shows of a profile. -/
theorem returns_getRoster {session : SessionData} {orgId : Option Nat} {roster : Roster}
    {log : List ((op : DirectoryOp) × op.Res)}
    (h : Returns (getRoster session orgId).run log (.ok roster)) :
    ∃ caller inner, Returns (memberOf session roster.orgId).run inner (.ok caller) ∧
      (∀ e ∈ inner, (⟨.profile (.server e.1), e.2⟩ : (op : DirectoryOp) × op.Res) ∈ log) ∧
      roster.canSeeProfiles = seesProfiles caller.role ∧
      ∀ entry ∈ roster.members, ∀ summary, entry.profile = some summary →
        seesProfiles caller.role = true ∧
        ∃ wallets profiles, ⟨.selectProfiles wallets, .ok profiles⟩ ∈ log ∧
          ∃ profile ∈ profiles, profile.wallet = entry.member.wallet ∧
            summary = profile.summary := by
  obtain ⟨asked, -, hguarding⟩ := returns_require_bind.1 h
  obtain ⟨caller, front, back, rfl, hguard, hreading⟩ := returns_exceptT_bind.1 hguarding
  obtain ⟨inner, hinner, hdone⟩ := log_of_embed_id hguard
  obtain ⟨horg, hsees, hmembers⟩ := returns_readRoster hreading
  rw [horg]
  refine ⟨caller, inner, hinner, fun e he => List.mem_append_left _ (hdone e he), hsees, ?_⟩
  · intro entry hentry summary hsummary
    obtain ⟨hmay, wallets, profiles, hselect, hprofile⟩ := hmembers entry hentry summary hsummary
    exact ⟨hmay, wallets, profiles, List.mem_append_right _ hselect, hprofile⟩

end Shows

/-! ## Runs -/

section Runs

variable [Str.CaseMapping] {σ : Type} [ERC721 σ] {rt : AssetRuntime} {s : DirectoryState σ}
  {ts : List (directory σ rt).Transition} {t : (directory σ rt).Transition}
  {c : (directory σ rt).Config} {i : Nat}

/-- The chain holds the record of the row for the organization, and the caller is its root admin. -/
def SeenAnchored (rt : AssetRuntime) (seen : List (DirectoryOp × DirectoryState σ))
    (session : SessionData) (row : OrganizationRow) : Prop :=
  ∃ now organization, SeenActive (chainMoments seen) session organization.rootAdmin ∧
    (.profile (.server (.readOrganization row.orgId.1)), now) ∈ seen ∧
    now.server.chain.readOrganization row.orgId.1 = some organization ∧
    row.metadataHash = some (hex organization.metadataHash) ∧
    row.rehash rt = hex organization.metadataHash

/-- A row of `profiles` that was there at the start, or was saved for its own wallet in session. -/
def Own (rt : AssetRuntime) (s : DirectoryState σ) (ts : List (directory σ rt).Transition)
    (row : StoredProfile) : Prop :=
  row ∈ s.store.profiles ∨ ∃ pre t post i session body, ts = pre ++ t :: post ∧
    t.Acts i (.saveProfile session (some body)) ∧
    SeenInSession (chainMoments (moments i pre)) session row.wallet ∧
    Submitted rt body row.toProfileRow

omit [Str.CaseMapping] [ERC721 σ] in
theorem mem_chainMoments {seen : List (DirectoryOp × DirectoryState σ)} {op : ServerOp}
    {now : DirectoryState σ} (h : (.profile (.server op), now) ∈ seen) :
    (op, now.server) ∈ chainMoments seen :=
  List.mem_filterMap.2 ⟨_, h, rfl⟩

theorem witnesses_of_logged (h : (directory σ rt).Run s ts c)
    {inner : List ((op : ServerOp) × op.Res)}
    (hdone : ∀ e ∈ inner, (⟨.profile (.server e.1), e.2⟩ : (op : DirectoryOp) × op.Res) ∈
      ownLog i ts) :
    Witnesses rt.server (chainMoments (moments i ts)) inner :=
  witnesses_of_within h (fun op => .profile (.server op)) DirectoryState.server
    (g := fun _ r => r) (fun hexec => hexec.1) mem_chainMoments (fun e he => ⟨e.2, hdone e he, rfl⟩)
    (List.Subset.refl _)

/-- A write stands behind a confirmation or a saved profile. -/
theorem anchored_of_upsertOrganization {pre post : List (directory σ rt).Transition}
    (h : (directory σ rt).Run s (pre ++ t :: post) c) {row : OrganizationRow}
    {r : (DirectoryOp.upsertOrganization row).Res}
    (hmove : t.move = .perform i (.upsertOrganization row) r) :
    ∃ session body, t.Acts i (.confirm session body) ∧
      SeenAnchored rt (moments i pre) session row := by
  have hwrites : ¬ DirectoryOp.Reads (.upsertOrganization row) := id
  have hbefore := h.split_at.1
  obtain ⟨req, hserves, hreaches⟩ := h.awaited hmove
  cases req with
  | roster session orgId => exact absurd ((reads_getRoster session orgId).reached hreaches) hwrites
  | prepare session body =>
      exact absurd ((reads_prepareOrganization session body).reached hreaches) hwrites
  | profile session => exact absurd ((reads_getProfile rt session).reached hreaches) hwrites
  | me session orgId => exact absurd ((reads_identityMe rt session orgId).reached hreaches) hwrites
  | saveProfile session body =>
      obtain ⟨inner, op, -, heq, -⟩ := reaches_of_embed hreaches
      cases heq
  | confirm session body =>
      obtain ⟨wallet, guard, organization, row', heq, hguard, hwallet, hread, hadmin, hhash,
        hrehash⟩ := anchored_of_confirm hwrites hreaches
      obtain rfl := DirectoryOp.upsertOrganization.inj heq
      refine ⟨session, body, ⟨hserves, _, _, hmove⟩, ?_⟩
      obtain ⟨inner, hinner, hdone⟩ := log_of_embed_id hwallet
      have hwitnesses : Witnesses rt.server (chainMoments (moments i pre)) inner :=
        witnesses_of_logged hbefore fun e he => hguard (hdone e he)
      obtain ⟨now, next, hmoment, hexec⟩ := Run.executed hbefore hread
      have horganization := Except.ok.inj (Prod.mk.inj (Attempt.of_ok hexec.1)).1
      refine ⟨now, organization, ?_, hmoment, horganization, hhash, hrehash⟩
      rw [hadmin]
      exact hwitnesses.active hinner

/-- A profile is saved by a request for the wallet of its session. -/
theorem own_of_upsert (hcipher : Deciphers rt.cipher rt.decipher)
    {pre post : List (directory σ rt).Transition}
    (h : (directory σ rt).Run s (pre ++ t :: post) c) {wallet : Address} {row : ProfileRow}
    {r : (DirectoryOp.profile (.upsert wallet row)).Res}
    (hmove : t.move = .perform i (.profile (.upsert wallet row)) r) :
    ∃ session body, t.Acts i (.saveProfile session (some body)) ∧
      SeenInSession (chainMoments (moments i pre)) session wallet ∧ Submitted rt body row := by
  have hwrites : ¬ DirectoryOp.Reads (.profile (.upsert wallet row)) := id
  obtain ⟨req, hserves, hreaches⟩ := h.awaited hmove
  cases req with
  | roster session orgId => exact absurd ((reads_getRoster session orgId).reached hreaches) hwrites
  | prepare session body =>
      exact absurd ((reads_prepareOrganization session body).reached hreaches) hwrites
  | profile session => exact absurd ((reads_getProfile rt session).reached hreaches) hwrites
  | me session orgId => exact absurd ((reads_identityMe rt session orgId).reached hreaches) hwrites
  | confirm session body =>
      obtain ⟨_, _, _, _, heq, -⟩ := anchored_of_confirm hwrites hreaches
      cases heq
  | saveProfile session body =>
      obtain ⟨inner, op, hput, heq, hdone⟩ := reaches_of_embed hreaches
      obtain rfl := DirectoryOp.profile.inj heq
      obtain ⟨submitted, own, rfl, hsubmitted, hwallet, hasked⟩ :=
        submitted_of_putProfile hcipher hput
      refine ⟨session, submitted, ⟨hserves, _, _, hmove⟩, ?_, hsubmitted⟩
      refine Witnesses.inSession (witnesses_of_logged h.split_at.1 fun e he => ?_) hwallet
      obtain ⟨r', hr', hsame⟩ := hdone _ (hasked e he)
      rw [← hsame]
      exact hr'

/-- In every interleaving, a record of an organization is kept only for its root admin, whose
    identity was active, while the chain held the hash of this very record. -/
theorem organizations_anchored (h : (directory σ rt).Run s ts c) :
    (∀ row ∈ c.shared.store.organizations, row ∈ s.store.organizations ∨
      ∃ pre t post i r session body, ts = pre ++ t :: post ∧
        t.move = .perform i (.upsertOrganization row) r ∧ t.Acts i (.confirm session body) ∧
        SeenAnchored rt (moments i pre) session row) ∧
    s.store.organizations.map (·.orgId) ⊆ c.shared.store.organizations.map (·.orgId) := by
  refine ⟨fun row hrow => ?_, organizations_subset h⟩
  have horigin := h.origin (I := fun c row => row ∈ c.shared.store.organizations)
    (B := fun t row => ∃ i r, t.move = .perform i (.upsertOrganization row) r) ?_ hrow
  · rcases horigin with hstart | ⟨t, ht, i, r, hmove⟩
    · exact .inl hstart
    · obtain ⟨pre, post, rfl⟩ := List.append_of_mem ht
      obtain ⟨session, body, hacts, hseen⟩ := anchored_of_upsertOrganization h hmove
      exact .inr ⟨pre, t, post, i, r, session, body, rfl, hmove, hacts, hseen⟩
  · intro t hvalid row hrow
    rcases store_step hvalid with heq | ⟨i, new, r, hmove, heq⟩ |
      ⟨i, wallet, new, r, createdAt, -, heq⟩
    · exact .inl (heq ▸ hrow)
    · rcases DirectoryStore.mem_upsertOrganization (heq ▸ hrow) with hold | rfl
      · exact .inl hold
      · exact .inr ⟨i, r, hmove⟩
    · have hsame : t.after.shared.store.organizations = t.before.shared.store.organizations := by
        rw [heq]
        rfl
      exact .inl (hsame ▸ hrow)

/-- In every interleaving, a profile is kept only for a wallet in session. -/
theorem profiles_own (hcipher : Deciphers rt.cipher rt.decipher) (h : (directory σ rt).Run s ts c)
    {row : StoredProfile} (hrow : row ∈ c.shared.store.profiles) : Own rt s ts row := by
  have horigin := h.origin (I := fun c row => row ∈ c.shared.store.profiles)
    (B := fun t row =>
      ∃ i r, t.move = .perform i (.profile (.upsert row.wallet row.toProfileRow)) r)
    ?_ hrow
  · rcases horigin with hstart | ⟨t, ht, i, r, hmove⟩
    · exact .inl hstart
    · obtain ⟨pre, post, rfl⟩ := List.append_of_mem ht
      obtain ⟨session, body, hacts, hseen, hsubmitted⟩ := own_of_upsert hcipher h hmove
      exact .inr ⟨pre, t, post, i, session, body, rfl, hacts, hseen, hsubmitted⟩
  · intro t hvalid row hrow
    rcases store_step hvalid with heq | ⟨i, new, r, -, heq⟩ |
      ⟨i, wallet, new, r, createdAt, hmove, heq⟩
    · exact .inl (heq ▸ hrow)
    · have hsame : t.after.shared.store.profiles = t.before.shared.store.profiles := by
        rw [heq]
        rfl
      exact .inl (hsame ▸ hrow)
    · rcases DirectoryStore.mem_upsertProfile (heq ▸ hrow) with hold | ⟨rfl, rfl⟩
      · exact .inl hold
      · exact .inr ⟨i, r, hmove⟩

theorem Own.later {pre post : List (directory σ rt).Transition} {row : StoredProfile}
    (h : Own rt s pre row) : Own rt s (pre ++ post) row := by
  rcases h with hstart | ⟨front, t, back, i, session, body, rfl, hrest⟩
  · exact .inl hstart
  · exact .inr ⟨front, t, back ++ post, i, session, body, by simp, hrest⟩

/-- Whatever a thread has read of the profiles was kept for a wallet in session. -/
theorem own_of_selectProfile (hcipher : Deciphers rt.cipher rt.decipher)
    (h : (directory σ rt).Run s ts c) {wallet : Address} {row : StoredProfile}
    (hread : ⟨.selectProfile wallet, .ok (some row)⟩ ∈ ownLog i ts) :
    Own rt s ts row ∧ row.wallet = wallet := by
  obtain ⟨t, ht, hmove⟩ := mem_ownLog.1 hread
  obtain ⟨pre, post, rfl⟩ := List.append_of_mem ht
  obtain ⟨hbefore, hvalid, -⟩ := h.split_at
  obtain ⟨-, -, -, -, hexec, -⟩ := Transition.Valid.perform hvalid hmove
  have hattempted : Attempted t.before.shared
    (.ok (DirectoryStore.profile t.before.shared.store wallet), t.before.shared) (.ok (some row))
    t.after.shared := hexec
  have hfound := Except.ok.inj (Prod.mk.inj hattempted.of_ok).1
  obtain ⟨hmem, hwallet⟩ := (lookup_eq_some_iff
    (DirectoryStore.profileKey t.before.shared.store)).1 hfound
  exact ⟨(profiles_own hcipher hbefore hmem).later, hwallet⟩

theorem own_of_selectProfiles (hcipher : Deciphers rt.cipher rt.decipher)
    (h : (directory σ rt).Run s ts c) {wallets : List Address} {profiles : List RosterProfile}
    (hread : ⟨.selectProfiles wallets, .ok profiles⟩ ∈ ownLog i ts) {profile : RosterProfile}
    (hprofile : profile ∈ profiles) :
    ∃ row, Own rt s ts row ∧ profile = DirectoryStore.rosterProfile row := by
  obtain ⟨t, ht, hmove⟩ := mem_ownLog.1 hread
  obtain ⟨pre, post, rfl⟩ := List.append_of_mem ht
  obtain ⟨hbefore, hvalid, -⟩ := h.split_at
  obtain ⟨-, -, -, -, hexec, -⟩ := Transition.Valid.perform hvalid hmove
  obtain ⟨rows, hperm, hattempted⟩ : ∃ rows : List StoredProfile,
    rows.Perm (DirectoryStore.profilesOf t.before.shared.store wallets) ∧ Attempted t.before.shared
      (.ok (rows.map DirectoryStore.rosterProfile), t.before.shared) (.ok profiles)
      t.after.shared := hexec
  obtain rfl := Except.ok.inj (Prod.mk.inj hattempted.of_ok).1
  obtain ⟨row, hrow, rfl⟩ := List.mem_map.1 hprofile
  have hmem := (List.mem_filter.1 (hperm.mem_iff.1 hrow)).1
  exact ⟨row, (profiles_own hcipher hbefore hmem).later, rfl⟩

/-- In every interleaving, what a reply shows of a profile was saved by a request of the profile's
    own wallet. It is shown in full to this wallet, and in part to the admins and managers. -/
theorem profiles_confined (hcipher : Deciphers rt.cipher rt.decipher)
    (h : (directory σ rt).Run s ts c) (i : Nat) :
    (∀ session reply, c.Answers i (.profile session) (.ok reply) →
      SeenInSession (chainMoments (moments i ts)) session reply.wallet ∧
      ∀ profile, reply.profile = some profile → ∃ row, Own rt s ts row ∧
        row.wallet = reply.wallet ∧ profile = ownProfile rt row) ∧
    (∀ session orgId me, c.Answers i (.me session orgId) (.ok me) →
      SeenInSession (chainMoments (moments i ts)) session me.wallet ∧
      ∀ profile, me.profile = some profile → ∃ row, Own rt s ts row ∧
        row.wallet = me.wallet ∧ profile = profileView rt.decipher row.toProfileRow) ∧
    ∀ session orgId roster, c.Answers i (.roster session orgId) (.ok roster) →
      ∃ caller : Caller, SeenMember (chainMoments (moments i ts)) session caller.wallet roster.orgId
          caller.role ∧ caller.role ≠ .none ∧ roster.canSeeProfiles = seesProfiles caller.role ∧
        ∀ entry ∈ roster.members, ∀ summary, entry.profile = some summary →
          seesProfiles caller.role = true ∧ ∃ row, Own rt s ts row ∧
            row.wallet = entry.member.wallet ∧
            summary = (DirectoryStore.rosterProfile row).summary := by
  refine ⟨fun session reply hanswers => ?_, fun session orgId me hanswers => ?_,
    fun session orgId roster hanswers => ?_⟩
  · obtain ⟨⟨inner, hwallet, hdone⟩, hshows⟩ := returns_getProfile (Run.returns h hanswers)
    refine ⟨(witnesses_of_logged h hdone).inSession hwallet, fun profile hprofile => ?_⟩
    obtain ⟨row, hread, hsame⟩ := hshows profile hprofile
    obtain ⟨hown, hrow⟩ := own_of_selectProfile hcipher h hread
    exact ⟨row, hown, hrow, hsame⟩
  · obtain ⟨⟨inner, hwallet, hdone⟩, hshows⟩ := returns_identityMe (Run.returns h hanswers)
    refine ⟨(witnesses_of_logged h hdone).inSession hwallet, fun profile hprofile => ?_⟩
    obtain ⟨row, hread, hsame⟩ := hshows profile hprofile
    obtain ⟨hown, hrow⟩ := own_of_selectProfile hcipher h hread
    exact ⟨row, hown, hrow, hsame⟩
  · obtain ⟨caller, inner, hcaller, hdone, hsees, hmembers⟩ :=
      returns_getRoster (Run.returns h hanswers)
    obtain ⟨hmember, hrole⟩ := (witnesses_of_logged h hdone).member hcaller
    refine ⟨caller, hmember, hrole, hsees, fun entry hentry summary hsummary => ?_⟩
    obtain ⟨hmay, wallets, profiles, hread, profile, hprofile, hwallet, hsame⟩ :=
      hmembers entry hentry summary hsummary
    obtain ⟨row, hown, rfl⟩ := own_of_selectProfiles hcipher h hread hprofile
    exact ⟨hmay, row, hown, hwallet, hsame⟩

end Runs

/-! ## Alice confirms her organization, saves her profile and reads it -/

namespace Sample

/-- What keccak-256 makes of the two records. -/
def directoryKeccak (text : String) : Bytes32 :=
  if text =
      "ownex:organization:v1:\x7b\"industry\":null,\"name\":\"Acme\",\"website\":null\x7d" then
    0xfde98312d826ff957f57c2f878f7703a225fc65cb475eb0c8dd7d0925a1a8cae
  else if text = "ownex:identity:v1:\x7b\"department\":null,\"displayName\":\"Alice\",\"email\":\"alice@acme.example\",\"jobTitle\":null,\"phone\":null\x7d" then
    0x4cc6f147d48a41c70218fd8eba38f62916f1c6417e6bca1d49ea15f9f555e18a
  else 0

def directoryRuntime : AssetRuntime :=
  { openRuntime with keccakUtf8 := directoryKeccak }

abbrev directoryService : Service := letI := asciiStrings; directory Ledger directoryRuntime

abbrev directoryScript : directoryService.Player :=
  letI := asciiStrings; directoryPlayer Ledger directoryRuntime

/-- The chain holds the hash of the record of organization 1. -/
def acmeAnchored : World Ledger :=
  after [tx alice 105 (.registry (.updateOrganizationMetadata 1
    0xfde98312d826ff957f57c2f878f7703a225fc65cb475eb0c8dd7d0925a1a8cae))]

def directoryStart : DirectoryState Ledger where
  server := { portalStart with chain := ⟨acmeAnchored, 200⟩ }
  store := ⟨[], [], by decide, by decide⟩

def acmeBody : ConfirmOrganizationBody where
  name := .ofString "Acme"
  industry := none
  website := none
  description := none
  orgId := 1
  txHash := "0xaaaaaaaaaaaaaaaaaaaaaaaaaaaaaaaaaaaaaaaaaaaaaaaaaaaaaaaaaaaaaaaa"

def aliceBody : ProfileBody where
  displayName := .ofString "Alice"
  jobTitle := none
  department := none
  email := some (.ofString "alice@acme.example")
  phone := none
  avatarUrl := none

def directorySteps (thread steps : Nat) : List directoryScript.Cue :=
  List.replicate steps (.perform thread ())

/-- The names that are in the table of organizations. -/
def keptNames (c : directoryService.Config) : List String :=
  (c.shared : DirectoryState Ledger).store.organizations.map (·.name)

theorem acme_anchored :
    ∃ (ts : List directoryService.Transition) (c : directoryService.Config),
      directoryService.Run directoryStart ts c ∧ keptNames c = ["Acme"] ∧
        ∀ row ∈ (c.shared : DirectoryState Ledger).store.organizations,
          ∃ (pre : List directoryService.Transition) (t : directoryService.Transition)
            (post : List directoryService.Transition) (i : Nat)
            (r : (DirectoryOp.upsertOrganization row).Res) (session : SessionData)
            (body : Option ConfirmOrganizationBody), ts = pre ++ t :: post ∧
            t.move = .perform i (.upsertOrganization row) r ∧ t.Acts i (.confirm session body) ∧
            @SeenAnchored asciiStrings Ledger directoryRuntime (moments i pre) session row := by
  let _ := asciiStrings
  have hplay : (directoryScript.play (idle directoryStart)
      (.arrive (.confirm aliceSession (some acmeBody)) :: directorySteps 0 4)).map
      (fun run : List directoryService.Transition × directoryService.Config => keptNames run.2) =
      some ["Acme"] := by
    decide +kernel
  obtain ⟨⟨ts, c⟩, hrun, hnames⟩ := Option.map_eq_some_iff.1 hplay
  refine ⟨ts, c, Player.play_path hrun, hnames, fun row hrow => ?_⟩
  rcases (organizations_anchored (Player.play_path hrun)).1 row hrow with hstart | hconfirmed
  · cases hstart
  · exact hconfirmed

/-- The address that a profile is shown with. -/
def shownEmail (c : directoryService.Config) (i : Nat) : Option String :=
  match c.answer? i with
  | some ⟨.profile _, .ok reply⟩ => reply.profile.bind (·.email)
  | _ => none

/-- The names that a roster is shown with. -/
def shownNames (c : directoryService.Config) (i : Nat) : List (Option String) :=
  match c.answer? i with
  | some ⟨.roster _ _, .ok roster⟩ =>
      roster.members.map fun entry => entry.profile.bind (·.displayName)
  | _ => []

theorem answers_of_shownEmail {c : directoryService.Config} {i : Nat} {email : String}
    (h : shownEmail c i = some email) :
    ∃ session reply profile, c.Answers i (.profile session) (.ok reply) ∧
      reply.profile = some profile ∧ profile.email = some email := by
  unfold shownEmail at h
  split at h
  next session reply hanswer =>
      obtain ⟨profile, hprofile, hemail⟩ := Option.bind_eq_some_iff.1 h
      exact ⟨session, reply, profile, Config.answers_of_answer? hanswer, hprofile, hemail⟩
  · cases h

theorem answers_of_shownNames {c : directoryService.Config} {i : Nat} {name : String}
    (h : some name ∈ shownNames c i) :
    ∃ session orgId roster entry summary, c.Answers i (.roster session orgId) (.ok roster) ∧
      entry ∈ roster.members ∧ entry.profile = some summary ∧
      summary.displayName = some name := by
  unfold shownNames at h
  split at h
  next session orgId roster hanswer =>
      obtain ⟨entry, hentry, hname⟩ := List.mem_map.1 h
      obtain ⟨summary, hsummary, hname⟩ := Option.bind_eq_some_iff.1 hname
      exact ⟨session, orgId, roster, entry, summary, Config.answers_of_answer? hanswer, hentry,
        hsummary, hname⟩
  · cases h

/-- Alice saves her profile, reads it, and lists the members of her organization. -/
def aliceCues : List directoryScript.Cue :=
  .arrive (.saveProfile aliceSession (some aliceBody)) :: directorySteps 0 4 ++
    .arrive (.profile aliceSession) :: directorySteps 1 2 ++
    .arrive (.roster aliceSession (some 1)) :: directorySteps 2 20

theorem alice_confined :
    ∃ (ts : List directoryService.Transition) (c : directoryService.Config),
      directoryService.Run directoryStart ts c ∧
      (∃ session reply profile row, c.Answers 1 (.profile session) (.ok reply) ∧
        reply.profile = some profile ∧ profile.email = some "alice@acme.example" ∧
        @Own asciiStrings Ledger _ directoryRuntime directoryStart ts row ∧
        row.wallet = reply.wallet ∧
        profile = ownProfile directoryRuntime row) ∧
      ∃ session orgId roster entry summary row, c.Answers 2 (.roster session orgId) (.ok roster) ∧
        entry ∈ roster.members ∧ entry.profile = some summary ∧
        summary.displayName = some "Alice" ∧ roster.canSeeProfiles = true ∧
        @Own asciiStrings Ledger _ directoryRuntime directoryStart ts row ∧
        row.wallet = entry.member.wallet := by
  let _ := asciiStrings
  have hplay : (directoryScript.play (idle directoryStart) aliceCues).map
      (fun run : List directoryService.Transition × directoryService.Config =>
        (shownEmail run.2 1, shownNames run.2 2)) =
      some (some "alice@acme.example", [some "Alice", none, none]) := by
    decide +kernel
  obtain ⟨⟨ts, c⟩, hrun, hshown⟩ := Option.map_eq_some_iff.1 hplay
  obtain ⟨hemail, hnames⟩ := Prod.mk.inj hshown
  have hpath : directoryService.Run directoryStart ts c := Player.play_path hrun
  refine ⟨ts, c, hpath, ?_, ?_⟩
  · obtain ⟨session, reply, profile, hanswers, hprofile, hshows⟩ := answers_of_shownEmail hemail
    obtain ⟨-, hconfined⟩ := (profiles_confined deciphers_open hpath 1).1 session reply hanswers
    obtain ⟨row, hown, hwallet, hsame⟩ := hconfined profile hprofile
    exact ⟨session, reply, profile, row, hanswers, hprofile, hshows, hown, hwallet, hsame⟩
  · have hname : some "Alice" ∈ shownNames c 2 := by
      rw [hnames]
      exact List.mem_cons_self
    obtain ⟨session, orgId, roster, entry, summary, hanswers, hentry, hsummary, hshows⟩ :=
      answers_of_shownNames hname
    obtain ⟨caller, -, -, hsees, hconfined⟩ :=
      (profiles_confined deciphers_open hpath 2).2.2 session orgId roster hanswers
    obtain ⟨hmay, row, hown, hwallet, -⟩ := hconfined entry hentry summary hsummary
    exact ⟨session, orgId, roster, entry, summary, row, hanswers, hentry, hsummary, hshows,
      hsees.trans hmay, hown, hwallet⟩

end Sample

end OwneX
