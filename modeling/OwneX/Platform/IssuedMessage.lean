import OwneX.Platform.SignIn

set_option autoImplicit false

/-! # Which message a call accepts

`verifyChallenge` builds the message anew and compares it with the one submitted. The domain comes
from the row of the nonce, the address is the one of that row, and origin, statement and chain id
are the server's; but `issued_at` is not read, and both times are taken from the submitted message
itself. So what is accepted is the issued message up to these two times (`signIn_message_iff`). -/

namespace OwneX

open Js JsNumber KeyedList Prog Interleaving Service

variable {rt : SiweRuntime} {env : SiweEnv}

/-! ## Messages that differ in their times -/

/-- Two messages that agree up to their times are the same if the times are. -/
theorem buildSiweMessage_times_iff (f : SiweFields SafeInt)
    {issuedAt issuedAt' expirationTime expirationTime' : Text} (h : '\n' ∉ issuedAt)
    (h' : '\n' ∉ issuedAt') :
    buildSiweMessage { f with issuedAt, expirationTime } =
        buildSiweMessage { f with issuedAt := issuedAt', expirationTime := expirationTime' } ↔
      issuedAt = issuedAt' ∧ expirationTime = expirationTime' := by
  have htimes : issuedAt ++ '\n' :: ("Expiration Time: ".toList ++ expirationTime) =
      issuedAt' ++ '\n' :: ("Expiration Time: ".toList ++ expirationTime') ↔
        issuedAt = issuedAt' ∧ expirationTime = expirationTime' := by
    constructor
    · intro heq
      obtain ⟨hissued, hexpires⟩ := firstLine_inj h h' heq
      exact ⟨hissued, List.append_cancel_left hexpires⟩
    · rintro ⟨rfl, rfl⟩
      rfl
  rw [← htimes]
  -- All the lines before the last two are the same.
  simp only [buildSiweMessage, joinLines_cons_cons, joinLines_singleton, List.append_assoc,
    List.nil_append, List.append_cancel_left_eq, List.cons.injEq, true_and]

/-- No field of a parsed message holds a line break. -/
theorem notMem_filledField {ls : List Text} (h : ∀ line ∈ ls, '\n' ∉ line) {start : String}
    {value : Text} (hvalue : filledField ls start = some value) : '\n' ∉ value := by
  obtain ⟨hfield, -⟩ := Option.filter_eq_some_iff.1 hvalue
  obtain ⟨rest, hfound, rfl⟩ := Option.map_eq_some_iff.1 hfield
  obtain ⟨line, hline, hafter⟩ := List.exists_of_findSome?_eq_some hfound
  unfold after? at hafter
  split at hafter
  · cases hafter
    intro hmem
    exact h line hline (List.mem_of_mem_drop (mem_of_mem_trimText hmem))
  · cases hafter

theorem notMem_issuedAt {message : Text} {parsed : SiweFields (Option Literal)}
    (h : parseSiweMessage message = some parsed) : '\n' ∉ parsed.issuedAt := by
  unfold parseSiweMessage at h
  simp only at h
  split at h
  · cases h
  · obtain ⟨domain, -, h⟩ := Option.bind_eq_some_iff.1 h
    obtain ⟨uri, -, h⟩ := Option.bind_eq_some_iff.1 h
    split at h
    · cases h
    · obtain ⟨chainId, -, h⟩ := Option.bind_eq_some_iff.1 h
      obtain ⟨nonce, -, h⟩ := Option.bind_eq_some_iff.1 h
      obtain ⟨issuedAt, hissuedAt, h⟩ := Option.bind_eq_some_iff.1 h
      obtain ⟨expirationTime, -, h⟩ := Option.bind_eq_some_iff.1 h
      cases h
      exact notMem_filledField (fun line hline => notMem_of_mem_lines hline) hissuedAt

/-! ## The row of a challenge -/

/-- The message that is issued along with a row. -/
def NonceRow.message (rt : SiweRuntime) (env : SiweEnv) (row : NonceRow) : Text :=
  buildSiweMessage
    { domain := row.domain
      address := rt.checksum row.walletAddress
      statement := STATEMENT
      uri := env.APP_ORIGIN
      chainId := env.CHAIN_ID
      nonce := row.nonce
      issuedAt := toISOString row.issuedAt
      expirationTime := toISOString row.expiresAt }

/-- The statements of a call that issues a challenge. -/
theorem issueChallenge_ok {walletInput : Text} {log : List ((op : NonceOp) × op.Res)}
    {challenge : IssuedChallenge}
    (h : Returns (issueChallenge rt env walletInput).run log (.ok challenge)) :
    ∃ bytes issuedAt row, row.usedAt = none ∧ challenge.nonce = row.nonce ∧
      challenge.message = row.message rt env ∧
      log = [⟨.randomBytes, bytes⟩, ⟨.now, issuedAt⟩, ⟨.insertNonce row, .ok ()⟩] := by
  obtain ⟨address, -, h⟩ := returns_require_bind.1 h
  obtain ⟨bytes, log₁, hlog, h⟩ := returns_ask_bind.1 h
  obtain ⟨issuedAt, log₂, hlog₁, h⟩ := returns_ask_bind.1 h
  obtain ⟨expiresAt, -, h⟩ := returns_require_bind.1 h
  obtain ⟨inserted, front, log₃, hlog₂, hinsert, h⟩ := returns_attempt_bind.1 h
  obtain rfl := returns_call.1 hinsert
  obtain ⟨hlog₃, hanswer⟩ := returns_exceptT_pure.1 h
  subst hlog₃ hlog₂ hlog₁ hlog hanswer
  exact ⟨bytes, issuedAt, _, rfl, rfl, rfl, rfl⟩

/-- The row is in the table, used or not. -/
def NonceTable.Holds (table : NonceTable) (row : NonceRow) : Prop :=
  ∃ row' ∈ table.rows, row'.issued = row.issued

theorem NonceTable.Holds.unique {table : NonceTable} {row row' : NonceRow} (h : table.Holds row)
    (h' : table.Holds row') (hnonce : row.nonce = row'.nonce) : row.issued = row'.issued := by
  obtain ⟨found, hfound, heq⟩ := h
  obtain ⟨found', hfound', heq'⟩ := h'
  have hkey : found.nonce = found'.nonce := by
    calc found.nonce = found.issued.nonce := rfl
      _ = row.nonce := by rw [heq, NonceRow.issued]
      _ = found'.issued.nonce := by rw [hnonce, heq', NonceRow.issued]
      _ = found'.nonce := rfl
  obtain rfl := eq_of_key table.unique hfound hfound' hkey
  exact heq.symm.trans heq'

namespace SignInState

/-- A row stays in the table. -/
theorem exec_keeps_row {s s' : SignInState} {op : NonceOp} {r : op.Res} (h : s.exec op r s')
    {row : NonceRow} (hrow : s.nonces.Holds row) : s'.nonces.Holds row := by
  have hkeeps : ∀ {α : Type} {outcome : Except String α × SignInState} {r : Except String α},
      Attempt s outcome r s' → outcome.2.nonces.Holds row → s'.nonces.Holds row :=
    fun hattempt houtcome =>
      hattempt.keeps (P := fun s : SignInState => s.nonces.Holds row) hrow houtcome
  have hthere := hrow
  obtain ⟨found, hfound, heq⟩ := hthere
  cases op with
  | now => exact h.2 ▸ hrow
  | randomBytes =>
      obtain rfl : s' = s := h
      exact hrow
  | insertNonce row' => exact hkeeps h ⟨found, NonceTable.mem_insert_of_mem hfound, heq⟩
  | selectNonce nonce => exact hkeeps h hrow
  | consumeNonce nonce usedAt =>
      refine hkeeps h ⟨_, NonceTable.mem_consume.2 ⟨found, hfound, rfl⟩, ?_⟩
      split <;> exact heq

/-- An insertion that succeeds finds no row with its nonce, and adds its own. -/
theorem exec_insert_rows {s s' : SignInState} {row : NonceRow}
    (h : s.exec (.insertNonce row) (.ok ()) s') :
    row.nonce ∉ s.nonces.rows.map NonceRow.nonce ∧ s'.nonces.rows = s.nonces.rows ++ [row] := by
  obtain ⟨hresult, rfl⟩ := Prod.mk.inj (Attempt.of_ok h)
  unfold NonceTable.insert at hresult ⊢
  split at hresult
  · cases hresult
  next hnew =>
      rw [if_neg hnew]
      refine ⟨hnew, ?_⟩
      show insertNew NonceRow.nonce s.nonces.rows row = s.nonces.rows ++ [row]
      rw [insertNew, if_neg hnew]

theorem exec_insert_ok {s s' : SignInState} {row : NonceRow}
    (h : s.exec (.insertNonce row) (.ok ()) s') :
    s'.nonces.Holds row ∧ ∀ row', s.nonces.Holds row' → row'.nonce ≠ row.nonce := by
  obtain ⟨hnew, hrows⟩ := exec_insert_rows h
  constructor
  · exact ⟨row, hrows ▸ List.mem_append_right _ (List.mem_singleton_self row), rfl⟩
  · rintro row' ⟨found, hfound, heq⟩ hnonce
    have hkey : found.nonce = row.nonce := by
      calc found.nonce = found.issued.nonce := rfl
        _ = row.nonce := by rw [heq, ← hnonce, NonceRow.issued]
    exact hnew (hkey ▸ List.mem_map_of_mem hfound)

end SignInState

/-! ## Runs -/

section Runs

variable {ts : List (signIn rt env).Transition} {c c' : (signIn rt env).Config}

theorem signIn_keeps_row (h : (signIn rt env).system.Path c ts c') {row : NonceRow}
    (hrow : c.shared.nonces.Holds row) : c'.shared.nonces.Holds row :=
  (h.invariant (P := fun c : (signIn rt env).Config => c.shared.nonces.Holds row)
    (fun _ _ hv hbefore => Transition.Valid.keeps hv
      (P := fun s : SignInState => s.nonces.Holds row)
      (fun hexec hs => SignInState.exec_keeps_row hexec hs) (fun henv hs => henv.2.1 ▸ hs) hbefore)
    hrow).1

/-- A row that is found under the nonce of an issued challenge is the row of that challenge. -/
theorem row_of_challenge {s : SignInState} (h : (signIn rt env).Run s ts c)
    {t u : (signIn rt env).Transition} (ht : t ∈ ts) (hu : u ∈ ts) {k : Nat}
    {row row' : NonceRow} (hinsert : u.move = .perform k (.insertNonce row') (.ok ()))
    (hrow : t.before.shared.nonces.Holds row) (hnonce : row'.nonce = row.nonce) :
    row.issued = row'.issued := by
  obtain ⟨pre, post, rfl⟩ := List.append_of_mem ht
  obtain ⟨hbefore, hvalid, hafter⟩ := h.split_at
  have hinserted : ∀ {u : (signIn rt env).Transition}, u.Valid →
      u.move = .perform k (.insertNonce row') (.ok ()) →
      u.after.shared.nonces.Holds row' ∧
        ∀ row, u.before.shared.nonces.Holds row → row.nonce ≠ row'.nonce := by
    intro u hv hmove
    obtain ⟨-, -, -, -, hexec, -⟩ := Transition.Valid.perform hv hmove
    exact SignInState.exec_insert_ok hexec
  rcases List.mem_append.1 hu with hearlier | hlater
  · -- The row was inserted before, and is still there.
    obtain ⟨pre₁, pre₂, rfl⟩ := List.append_of_mem hearlier
    obtain ⟨-, hv, hpath⟩ := hbefore.split_at
    have hthere := signIn_keeps_row hpath (hinserted hv hinsert).1
    exact hrow.unique hthere hnonce.symm
  · -- Otherwise the nonce was taken when the insertion ran.
    exfalso
    obtain ⟨post₁, post₂, hsplit⟩ := List.append_of_mem hlater
    have hpath : (signIn rt env).system.Path t.before (post₁ ++ u :: post₂) c :=
      hsplit ▸ TransitionSystem.Path.cons hvalid hafter
    obtain ⟨hfirst, hv, -⟩ := hpath.split_at
    exact (hinserted hv hinsert).2 row (signIn_keeps_row hfirst hrow) hnonce.symm

/-- The insertion of a call that has issued a challenge. -/
theorem exists_challenge_row {s : SignInState} (h : (signIn rt env).Run s ts c) {k : Nat}
    {walletInput : Text} {challenge : IssuedChallenge}
    (hk : c.Answers k (.issue walletInput) (.ok challenge)) :
    ∃ u ∈ ts, ∃ row, u.move = .perform k (.insertNonce row) (.ok ()) ∧ row.usedAt = none ∧
      challenge.nonce = row.nonce ∧ challenge.message = row.message rt env := by
  obtain ⟨bytes, issuedAt, row, hunused, hnonce, hmessage, hlog⟩ :=
    issueChallenge_ok (Run.returns h hk)
  obtain ⟨pre, u, post, rfl, hmove, -, -⟩ := exists_of_ownLog (V := signIn rt env)
    [⟨NonceOp.randomBytes, bytes⟩, ⟨NonceOp.now, issuedAt⟩] hlog
  exact ⟨u, by simp, row, hmove, hunused, hnonce, hmessage⟩

/-- The message that a call accepts is the one that was issued with its nonce exactly if the times
    in it are those that were recorded with the nonce. -/
theorem signIn_message_iff {clock : TimeValue} (h : (signIn rt env).Run (.fresh clock) ts c)
    {i : Nat} {message signature : Text} {address : Address}
    (hi : c.Answers i (.verify message signature) (.ok address)) :
    ∃ parsed pre t post row, parseSiweMessage message = some parsed ∧ ts = pre ++ t :: post ∧
      t.move = .perform i (.selectNonce parsed.nonce) (.ok (some row)) ∧
      row ∈ t.before.shared.nonces.rows ∧ row.nonce = parsed.nonce ∧
      (∃ u ∈ pre, ∃ k r walletInput, u.move = .perform k (.insertNonce row) r ∧
        u.before.Serves k (.issue walletInput)) ∧
      ∀ k walletInput challenge, c.Answers k (.issue walletInput) (.ok challenge) →
        challenge.nonce = parsed.nonce →
        (message = challenge.message ↔
          parsed.issuedAt = toISOString row.issuedAt ∧
            parsed.expirationTime = toISOString row.expiresAt) := by
  obtain ⟨parsed, row, t₁, t₂, t₃, consumed, hparsed, -, hunused, -, hwallet, hexpected, -, hlog⟩ :=
    verifyChallenge_ok (Run.returns h hi)
  obtain ⟨pre, t, post, hts, hmove, -, -⟩ := exists_of_ownLog (V := signIn rt env)
    [⟨NonceOp.now, t₁⟩] hlog
  have hrun := h
  rw [hts] at hrun
  obtain ⟨hbefore, hvalid, -⟩ := hrun.split_at
  obtain ⟨-, -, -, -, hexec, -⟩ := Transition.Valid.perform hvalid hmove
  obtain ⟨hfind, -⟩ := Prod.mk.inj (Attempt.of_ok hexec)
  have hrow := (lookup_eq_some_iff t.before.shared.nonces.unique).1 (Except.ok.inj hfind)
  have issued_eq : ∀ {row : NonceRow}, row.usedAt = none → row.issued = row := by
    rintro ⟨_, _, _, _, _, usedAt⟩ rfl
    rfl
  refine ⟨parsed, pre, t, post, row, hparsed, hts, hmove, hrow.1, hrow.2, ?_, ?_⟩
  · obtain ⟨u, hu, k, r, walletInput, hinsert, hserves, -⟩ := exists_insertion hbefore hrow.1
    rw [issued_eq hunused] at hinsert
    exact ⟨u, hu, k, r, walletInput, hinsert, hserves⟩
  · intro k walletInput challenge hk hnonce
    obtain ⟨u, hu, row', hinsert, hunused', hnonce', hmessage⟩ := exists_challenge_row h hk
    have ht : t ∈ ts := hts ▸ List.mem_append_right _ List.mem_cons_self
    have hsame : row.issued = row'.issued :=
      row_of_challenge h ht hu hinsert ⟨row, hrow.1, rfl⟩
        (hnonce'.symm.trans (hnonce.trans hrow.2.symm))
    rw [issued_eq hunused, issued_eq hunused'] at hsame
    subst hsame hwallet
    -- Both messages are built from the same row, up to the times.
    rw [← hexpected, hmessage, NonceRow.message, hrow.2]
    exact buildSiweMessage_times_iff
      { domain := row.domain
        address := rt.checksum row.walletAddress
        statement := STATEMENT
        uri := env.APP_ORIGIN
        chainId := env.CHAIN_ID
        nonce := parsed.nonce
        issuedAt := parsed.issuedAt
        expirationTime := parsed.expirationTime }
      (notMem_issuedAt hparsed) (notMem_toISOString _)

end Runs

/-! ## Other times -/

/-- The challenge that a thread has issued. -/
def challenged (c : (signIn rt env).Config) (i : Nat) : Option (Text × IssuedChallenge) :=
  match c.answer? i with
  | some ⟨.issue walletInput, .ok challenge⟩ => some (walletInput, challenge)
  | _ => none

theorem answers_of_challenged {c : (signIn rt env).Config} {i : Nat} {walletInput : Text}
    {challenge : IssuedChallenge} (h : challenged c i = some (walletInput, challenge)) :
    c.Answers i (.issue walletInput) (.ok challenge) := by
  unfold challenged at h
  split at h
  next walletInput' challenge' hanswer =>
      cases h
      exact Config.answers_of_answer? hanswer
  · cases h

namespace Sample

/-- The message that is issued to the wallet of `devMessage`, with other times. -/
def postdatedMessage : Text :=
  buildSiweMessage
    { domain := "localhost:3000".toList
      address := devText
      statement := STATEMENT
      uri := "http://localhost:3000".toList
      chainId := ⟨31337, devChain_safe⟩
      nonce := "000102030405060708090a0b0c0d0e0f".toList
      issuedAt := "2023-11-14T22:13:21.500Z".toList
      expirationTime := "2033-11-14T22:13:20.000Z".toList }

def postdatedSignature : Text :=
  "0x".toList ++ (toHex 64 0xab8d59d3ad41d585c2d68e5f599d4cbbdad42cbea707a21dceaa402fb951bb85
    ++ toHex 66 0x471fccbc30c70a0d83d09d43e4fe1061db5189658c174e5ba677df66b5c429971b)

def postdatedRuntime : SiweRuntime where
  getAddress s := if s = devText then some devWallet else none
  checksum _ := devText
  verifyMessage message signature :=
    if message = postdatedMessage ∧ signature = postdatedSignature then some devWallet else none
  getTime s := if s = "2033-11-14T22:13:20.000Z".toList then some 2015619200000 else none

/-- The wallet asks for a challenge, and signs a message of its own. -/
def postdatedCues : List (signInPlayer postdatedRuntime devEnv).Cue :=
  [.arrive (.issue devText),
    .perform 0 0x000102030405060708090a0b0c0d0e0f#128, .perform 0 0#128, .perform 0 0#128,
    .outside (⟨1700000001000, signed_le⟩, [(devWallet, postdatedMessage)]),
    .arrive (.verify postdatedMessage postdatedSignature),
    .perform 1 0#128, .perform 1 0#128, .perform 1 0#128, .perform 1 0#128, .perform 1 0#128]

def devChallenge : IssuedChallenge :=
  ⟨"000102030405060708090a0b0c0d0e0f".toList, devMessage, "2023-11-14T22:18:20.000Z".toList⟩

/-- What is issued, and what is accepted. -/
theorem postdated_run :
    ∃ (ts : List (signIn postdatedRuntime devEnv).Transition)
      (c : (signIn postdatedRuntime devEnv).Config) (signature : Text),
      (signIn postdatedRuntime devEnv).Run (.fresh ⟨1700000000000, by decide⟩) ts c ∧
        c.Answers 0 (.issue devText) (.ok devChallenge) ∧
        c.Answers 1 (.verify postdatedMessage signature) (.ok devWallet) := by
  have hplay : (((signInPlayer postdatedRuntime devEnv).play
      (idle (.fresh ⟨1700000000000, by decide⟩)) postdatedCues).map fun (_, c) =>
        (challenged c 0, admitted c 1)) =
      some (some (devText, devChallenge), some (postdatedMessage, devWallet)) := by
    decide +kernel
  obtain ⟨⟨ts, c⟩, hplay, hanswers⟩ := Option.map_eq_some_iff.1 hplay
  obtain ⟨hissued, hadmitted⟩ := Prod.mk.inj hanswers
  obtain ⟨signature, haccepted⟩ := answers_of_admitted hadmitted
  exact ⟨ts, c, signature, Player.play_path hplay, answers_of_challenged hissued, haccepted⟩

/-- The two messages are not the same. -/
theorem postdated_accepted :
    ∃ (ts : List (signIn postdatedRuntime devEnv).Transition)
      (c : (signIn postdatedRuntime devEnv).Config) (signature : Text),
      (signIn postdatedRuntime devEnv).Run (.fresh ⟨1700000000000, by decide⟩) ts c ∧
        c.Answers 0 (.issue devText) (.ok devChallenge) ∧
        c.Answers 1 (.verify postdatedMessage signature) (.ok devWallet) ∧
        (parseSiweMessage postdatedMessage).map (·.nonce) = some devChallenge.nonce ∧
        postdatedMessage ≠ devChallenge.message := by
  obtain ⟨ts, c, signature, hrun, hissued, haccepted⟩ := postdated_run
  exact ⟨ts, c, signature, hrun, hissued, haccepted, by decide +kernel, by decide +kernel⟩

/-- What is wrong with the second are its times. -/
theorem postdated_times :
    ∃ (ts : List (signIn postdatedRuntime devEnv).Transition)
      (c : (signIn postdatedRuntime devEnv).Config) (signature : Text) (parsed : _)
      (row : NonceRow),
      c.Answers 1 (.verify postdatedMessage signature) (.ok devWallet) ∧
        parseSiweMessage postdatedMessage = some parsed ∧
        (∃ t ∈ ts, t.move = .perform 1 (.selectNonce parsed.nonce) (.ok (some row))) ∧
        ∀ k walletInput challenge, c.Answers k (.issue walletInput) (.ok challenge) →
          challenge.nonce = parsed.nonce →
          (postdatedMessage = challenge.message ↔
            parsed.issuedAt = toISOString row.issuedAt ∧
              parsed.expirationTime = toISOString row.expiresAt) := by
  obtain ⟨ts, c, signature, hrun, -, haccepted⟩ := postdated_run
  obtain ⟨parsed, pre, t, post, row, hparsed, rfl, hmove, -, -, -, htimes⟩ :=
    signIn_message_iff hrun haccepted
  exact ⟨pre ++ t :: post, c, signature, parsed, row, haccepted, hparsed,
    ⟨t, List.mem_append_right _ List.mem_cons_self, hmove⟩, htimes⟩

end Sample

end OwneX
