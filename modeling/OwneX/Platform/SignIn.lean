import OwneX.Platform.Siwe

set_option autoImplicit false

/-! # A challenge is used once, by the wallet it was issued to

`verifyChallenge` reads the nonce, checks it and only then consumes it, and any number of calls may
do so at the same time. What decides between them is the conditional `UPDATE`: it returns a row only
if the nonce was unused when it ran, and leaves it used for good (`Spent`). Everything else that a
successful call has established is found in its own log (`verifyChallenge_ok`) and in the insertion
that the row stems from (`exists_insertion`). -/

namespace OwneX

open Js JsNumber KeyedList Prog Interleaving Service

variable {rt : SiweRuntime} {env : SiweEnv}

/-! ## What a call has done -/

/-- The statements of a call that admits a wallet, and what it has checked. -/
theorem verifyChallenge_ok {message signature : Text} {log : List ((op : NonceOp) × op.Res)}
    {address : Address}
    (h : Returns (verifyChallenge rt env message signature).run log (.ok address)) :
    ∃ parsed row t₁ t₂ t₃ consumed, parseSiweMessage message = some parsed ∧
      rt.verifyMessage message signature = some address ∧
      row.usedAt = none ∧ t₂.1 < row.expiresAt.1 ∧ row.walletAddress = address ∧
      buildSiweMessage
        { domain := row.domain
          address := rt.checksum address
          statement := STATEMENT
          uri := env.APP_ORIGIN
          chainId := env.CHAIN_ID
          nonce := parsed.nonce
          issuedAt := parsed.issuedAt
          expirationTime := parsed.expirationTime } = message ∧
      consumed ≠ [] ∧
      log = [⟨.now, t₁⟩, ⟨.selectNonce parsed.nonce, .ok (some row)⟩, ⟨.now, t₂⟩, ⟨.now, t₃⟩,
        ⟨.consumeNonce parsed.nonce t₃, .ok consumed⟩] := by
  obtain ⟨parsed, hparsed, h⟩ := returns_require_bind.1 h
  obtain ⟨-, h⟩ := returns_refuseIf_bind.1 h
  obtain ⟨-, h⟩ := returns_refuseIf_bind.1 h
  obtain ⟨t₁, log₁, hlog, h⟩ := returns_ask_bind.1 h
  obtain ⟨-, h⟩ := returns_refuseIf_bind.1 h
  obtain ⟨claimed, -, h⟩ := returns_require_bind.1 h
  obtain ⟨found, front, log₂, hlog₁, hselect, h⟩ := returns_attempt_bind.1 h
  obtain rfl := returns_call.1 hselect
  obtain ⟨row, hfound, h⟩ := returns_require_bind.1 h
  obtain ⟨hunused, h⟩ := returns_refuseIf_bind.1 h
  obtain ⟨t₂, log₃, hlog₂, h⟩ := returns_ask_bind.1 h
  obtain ⟨hfresh, h⟩ := returns_refuseIf_bind.1 h
  obtain ⟨hwallet, h⟩ := returns_refuseIf_bind.1 h
  obtain ⟨hexpected, h⟩ := returns_refuseIf_bind.1 h
  obtain ⟨recovered, hrecovered, h⟩ := returns_require_bind.1 h
  obtain ⟨hsame, h⟩ := returns_refuseIf_bind.1 h
  obtain ⟨t₃, log₄, hlog₃, h⟩ := returns_ask_bind.1 h
  obtain ⟨consumed, front, log₅, hlog₄, hconsume, h⟩ := returns_attempt_bind.1 h
  obtain rfl := returns_call.1 hconsume
  obtain ⟨hconsumed, h⟩ := returns_refuseIf_bind.1 h
  obtain ⟨hlog₅, hanswer⟩ := returns_exceptT_pure.1 h
  subst hlog₅ hlog₄ hlog₃ hlog₂ hlog₁ hlog hanswer hfound
  simp only [bne_eq_false_iff_eq] at hwallet hexpected hsame
  subst hsame
  exact ⟨parsed, row, t₁, t₂, t₃, consumed, hparsed, hrecovered, by simpa using hunused,
    by simpa using hfresh, hwallet, hexpected, by simpa using hconsumed, rfl⟩

/-- A row is inserted by a call that issues a challenge to its wallet. -/
def NonceOp.OfRequest (rt : SiweRuntime) (req : SignInRequest) : NonceOp → Prop
  | .insertNonce row =>
      row.usedAt = none ∧ ∃ walletInput, req = .issue walletInput ∧
        rt.getAddress walletInput = some row.walletAddress
  | _ => True

theorem only_handler (req : SignInRequest) :
    Only (NonceOp.OfRequest rt req) (req.handler rt env) := by
  cases req with
  | issue walletInput =>
      show Only _ (issueChallenge rt env walletInput).run
      refine only_require_bind fun address haddress => ?_
      refine only_exceptT_bind (only_ask trivial) fun bytes => ?_
      refine only_exceptT_bind (only_ask trivial) fun issuedAt => ?_
      refine only_require_bind fun expiresAt _ => ?_
      have hinsert : Only (NonceOp.OfRequest rt (.issue walletInput))
          (call (NonceOp.insertNonce
            { nonce := toHex 32 bytes.toNat, walletAddress := address, domain := env.APP_DOMAIN,
              issuedAt, expiresAt, usedAt := none }) :
            Prog NonceOp NonceOp.Res (Except String Unit)) :=
        only_call ⟨rfl, walletInput, rfl, haddress⟩
      exact only_exceptT_bind (only_attempt hinsert _) fun _ => only_exceptT_pure _
  | verify message signature =>
      show Only _ (verifyChallenge rt env message signature).run
      refine only_require_bind fun parsed _ => ?_
      refine only_exceptT_bind (only_refuseIf _ _) fun _ => ?_
      refine only_exceptT_bind (only_refuseIf _ _) fun _ => ?_
      refine only_exceptT_bind (only_ask trivial) fun _ => ?_
      refine only_exceptT_bind (only_refuseIf _ _) fun _ => ?_
      refine only_require_bind fun _ _ => ?_
      refine only_exceptT_bind (only_attempt (only_call trivial) _) fun _ => ?_
      refine only_require_bind fun row _ => ?_
      refine only_exceptT_bind (only_refuseIf _ _) fun _ => ?_
      refine only_exceptT_bind (only_ask trivial) fun _ => ?_
      refine only_exceptT_bind (only_refuseIf _ _) fun _ => ?_
      refine only_exceptT_bind (only_refuseIf _ _) fun _ => ?_
      refine only_exceptT_bind (only_refuseIf _ _) fun _ => ?_
      refine only_require_bind fun _ _ => ?_
      refine only_exceptT_bind (only_refuseIf _ _) fun _ => ?_
      refine only_exceptT_bind (only_ask trivial) fun _ => ?_
      refine only_exceptT_bind (only_attempt (only_call trivial) _) fun _ => ?_
      exact only_exceptT_bind (only_refuseIf _ _) fun _ => only_exceptT_pure _

/-! ## What becomes of a nonce -/

namespace NonceTable

/-- The nonce has been consumed. -/
def Spent (table : NonceTable) (nonce : Text) : Prop :=
  ∃ row ∈ table.rows, row.nonce = nonce ∧ row.usedAt ≠ none

theorem mem_insert {table : NonceTable} {row row' : NonceRow}
    (h : row' ∈ (table.insert row).2.rows) : row' ∈ table.rows ∨ row' = row := by
  unfold insert at h
  split at h
  · exact .inl h
  next hnew =>
      change row' ∈ insertNew NonceRow.nonce table.rows row at h
      rw [insertNew, if_neg hnew, List.mem_append, List.mem_singleton] at h
      exact h

theorem mem_insert_of_mem {table : NonceTable} {row row' : NonceRow} (h : row' ∈ table.rows) :
    row' ∈ (table.insert row).2.rows := by
  unfold insert
  split
  · exact h
  next hnew =>
      change row' ∈ insertNew NonceRow.nonce table.rows row
      rw [insertNew, if_neg hnew]
      exact List.mem_append_left _ h

/-- Consuming a nonce leaves everything but the time of use alone. -/
theorem mem_consume {table : NonceTable} {nonce : Text} {usedAt : TimeValue} {row : NonceRow} :
    row ∈ (table.consume nonce usedAt).2.rows ↔
      ∃ row' ∈ table.rows,
        (if consumable nonce row' then { row' with usedAt := some usedAt } else row') = row :=
  mem_modify

theorem Spent.insert {table : NonceTable} {nonce : Text} (h : table.Spent nonce)
    (row : NonceRow) : (table.insert row).2.Spent nonce := by
  obtain ⟨row', hrow', hspent⟩ := h
  exact ⟨row', mem_insert_of_mem hrow', hspent⟩

theorem Spent.consume {table : NonceTable} {nonce : Text} (h : table.Spent nonce)
    (nonce' : Text) (usedAt : TimeValue) : (table.consume nonce' usedAt).2.Spent nonce := by
  obtain ⟨row, hrow, hnonce, hused⟩ := h
  refine ⟨row, mem_consume.2 ⟨row, hrow, if_neg ?_⟩, hnonce, hused⟩
  simp [consumable, hused]

/-- A nonce that is consumed was there and unused, and is used from then on. -/
theorem consume_ne_nil {table : NonceTable} {nonce : Text} {usedAt : TimeValue}
    (h : (table.consume nonce usedAt).1 ≠ []) :
    ¬ table.Spent nonce ∧ (table.consume nonce usedAt).2.Spent nonce := by
  obtain ⟨found, hfound⟩ := List.exists_mem_of_ne_nil _ h
  obtain ⟨row, hrow, rfl⟩ := List.mem_map.1 hfound
  obtain ⟨hmem, hconsumable⟩ := List.mem_filter.1 hrow
  have hrow : row.nonce = nonce ∧ row.usedAt = none := by
    simpa [consumable] using hconsumable
  constructor
  · rintro ⟨row', hmem', hnonce', hused'⟩
    obtain rfl := eq_of_key table.unique hmem' hmem (hnonce'.trans hrow.1.symm)
    exact hused' hrow.2
  · exact ⟨_, mem_consume.2 ⟨row, hmem, if_pos hconsumable⟩, hrow.1, by simp⟩

end NonceTable

/-! ## What the statements do to the state -/

namespace SignInState

/-- No statement sets the clock or signs a message. -/
theorem exec_frame {s s' : SignInState} {op : NonceOp} {r : op.Res} (h : s.exec op r s') :
    s'.clock = s.clock ∧ s'.signed = s.signed := by
  have hframe : ∀ {α : Type} {outcome : Except String α × SignInState} {r : Except String α},
      Attempt s outcome r s' → outcome.2.clock = s.clock ∧ outcome.2.signed = s.signed →
        s'.clock = s.clock ∧ s'.signed = s.signed :=
    fun hattempt houtcome =>
      hattempt.keeps (P := fun s' : SignInState => s'.clock = s.clock ∧ s'.signed = s.signed)
        ⟨rfl, rfl⟩ houtcome
  cases op with
  | now => exact h.2 ▸ ⟨rfl, rfl⟩
  | randomBytes =>
      obtain rfl : s' = s := h
      exact ⟨rfl, rfl⟩
  | insertNonce row => exact hframe h ⟨rfl, rfl⟩
  | selectNonce nonce => exact hframe h ⟨rfl, rfl⟩
  | consumeNonce nonce usedAt => exact hframe h ⟨rfl, rfl⟩

theorem exec_keeps_spent {s s' : SignInState} {op : NonceOp} {r : op.Res} (h : s.exec op r s')
    {nonce : Text} (hspent : s.nonces.Spent nonce) : s'.nonces.Spent nonce := by
  have hkeeps : ∀ {α : Type} {outcome : Except String α × SignInState} {r : Except String α},
      Attempt s outcome r s' → outcome.2.nonces.Spent nonce → s'.nonces.Spent nonce :=
    fun hattempt houtcome =>
      hattempt.keeps (P := fun s : SignInState => s.nonces.Spent nonce) hspent houtcome
  cases op with
  | now => exact h.2 ▸ hspent
  | randomBytes =>
      obtain rfl : s' = s := h
      exact hspent
  | insertNonce row => exact hkeeps h (hspent.insert row)
  | selectNonce nonce' => exact hkeeps h hspent
  | consumeNonce nonce' usedAt => exact hkeeps h (hspent.consume nonce' usedAt)

/-- A row was there before, up to the time of its use, or is inserted. -/
theorem exec_origin {s s' : SignInState} {op : NonceOp} {r : op.Res} (h : s.exec op r s')
    {row : NonceRow} (hrow : row ∈ s'.nonces.rows) :
    (∃ row' ∈ s.nonces.rows, row'.issued = row.issued) ∨ op = .insertNonce row := by
  have horigin : ∀ {α : Type} {outcome : Except String α × SignInState} {r : Except String α},
      Attempt s outcome r s' → row ∈ s.nonces.rows ∨ row ∈ outcome.2.nonces.rows := by
    intro α outcome r hattempt
    rcases hattempt with rfl | ⟨e, -, rfl | rfl⟩
    · exact .inr hrow
    · exact .inl hrow
    · exact .inr hrow
  cases op with
  | now => exact .inl ⟨row, h.2 ▸ hrow, rfl⟩
  | randomBytes =>
      obtain rfl : s' = s := h
      exact .inl ⟨row, hrow, rfl⟩
  | insertNonce row' =>
      rcases horigin h with hold | hnew
      · exact .inl ⟨row, hold, rfl⟩
      · rcases NonceTable.mem_insert hnew with hold | rfl
        · exact .inl ⟨row, hold, rfl⟩
        · exact .inr rfl
  | selectNonce nonce =>
      rcases horigin h with hold | hold
      · exact .inl ⟨row, hold, rfl⟩
      · exact .inl ⟨row, hold, rfl⟩
  | consumeNonce nonce usedAt =>
      rcases horigin h with hold | hnew
      · exact .inl ⟨row, hold, rfl⟩
      · obtain ⟨row', hmem, rfl⟩ := NonceTable.mem_consume.1 hnew
        refine .inl ⟨row', hmem, ?_⟩
        split <;> rfl

end SignInState

/-! ## Runs -/

section Runs

variable {ts : List (signIn rt env).Transition} {c c' : (signIn rt env).Config}

/-- Time does not run backwards, and what is signed stays signed. -/
theorem signIn_advances (h : (signIn rt env).system.Path c ts c') :
    c.shared.clock.1 ≤ c'.shared.clock.1 ∧ c.shared.signed ⊆ c'.shared.signed := by
  refine h.rel (R := fun c c' : (signIn rt env).Config =>
      c.shared.clock.1 ≤ c'.shared.clock.1 ∧ c.shared.signed ⊆ c'.shared.signed)
    (fun c => ⟨le_rfl, List.Subset.refl _⟩) (fun h h' => ⟨h.1.trans h'.1, List.Subset.trans h.2 h'.2⟩)
    fun t ht => ?_
  rcases Transition.Valid.shared (h.valid t ht) with heq | ⟨i, op, r, -, hexec⟩ | henv
  · show t.before.shared.clock.1 ≤ t.after.shared.clock.1 ∧
      t.before.shared.signed ⊆ t.after.shared.signed
    rw [heq]
    exact ⟨le_rfl, List.Subset.refl _⟩
  · obtain ⟨hclock, hsigned⟩ := SignInState.exec_frame hexec
    show t.before.shared.clock.1 ≤ t.after.shared.clock.1 ∧
      t.before.shared.signed ⊆ t.after.shared.signed
    rw [hclock, hsigned]
    exact ⟨le_rfl, List.Subset.refl _⟩
  · exact ⟨henv.1, henv.2.2⟩

/-- A row of the table was inserted by a call that issued a challenge to its wallet. -/
theorem exists_insertion {clock : TimeValue} (h : (signIn rt env).Run (.fresh clock) ts c)
    {row : NonceRow} (hrow : row ∈ c.shared.nonces.rows) :
    ∃ t ∈ ts, ∃ k r walletInput, t.move = .perform k (.insertNonce row.issued) r ∧
      t.before.Serves k (.issue walletInput) ∧
      rt.getAddress walletInput = some row.walletAddress := by
  have horigin := h.origin
    (I := fun (c : (signIn rt env).Config) x => ∃ row ∈ c.shared.nonces.rows, row.issued = x)
    (B := fun (t : (signIn rt env).Transition) (x : NonceRow) =>
      ∃ k row r, t.move = .perform k (.insertNonce row) r ∧ row.issued = x)
    (fun t hv x => by
      rintro ⟨row, hrow, rfl⟩
      rcases Transition.Valid.shared hv with heq | ⟨k, op, r, hmove, hexec⟩ | henv
      · exact .inl ⟨row, heq ▸ hrow, rfl⟩
      · rcases SignInState.exec_origin hexec hrow with ⟨row', hrow', heq⟩ | rfl
        · exact .inl ⟨row', hrow', heq⟩
        · exact .inr ⟨k, row, r, hmove, rfl⟩
      · exact .inl ⟨row, henv.2.1 ▸ hrow, rfl⟩)
    ⟨row, hrow, rfl⟩
  rcases horigin with ⟨row', hrow', -⟩ | ⟨t, ht, k, row', r, hmove, hissued⟩
  · cases hrow'
  · obtain ⟨req, hserves, hunused, walletInput, rfl, haddress⟩ := Run.only only_handler h ht hmove
    have hsame : row'.issued = row' := by
      obtain ⟨_, _, _, _, _, usedAt⟩ := row'
      obtain rfl : usedAt = none := hunused
      rfl
    rw [hsame] at hissued
    subst hissued
    exact ⟨t, ht, k, r, walletInput, hmove, hserves, haddress⟩

/-- The `UPDATE` of a nonce that returns a row. -/
def NonceOp.Consumes (nonce : Text) : (op : NonceOp) → op.Res → Prop
  | .consumeNonce nonce' _, .ok consumed => nonce' = nonce ∧ consumed ≠ []
  | _, _ => False

theorem exec_consumes {s s' : SignInState} {op : NonceOp} {r : op.Res} {nonce : Text}
    (h : s.exec op r s') (hconsumes : op.Consumes nonce r) :
    ¬ s.nonces.Spent nonce ∧ s'.nonces.Spent nonce := by
  cases op with
  | consumeNonce nonce' usedAt =>
      cases r with
      | error e => cases hconsumes
      | ok consumed =>
          obtain ⟨rfl, hne⟩ := hconsumes
          -- The statement was performed, and what it returned is not empty.
          obtain ⟨hresult, rfl⟩ := Prod.mk.inj (Attempt.of_ok h)
          refine NonceTable.consume_ne_nil ?_
          rw [Except.ok.inj hresult]
          exact hne
  | now => cases hconsumes
  | randomBytes => cases hconsumes
  | insertNonce row => cases hconsumes
  | selectNonce nonce' => cases hconsumes

/-- The `UPDATE` returns a row at most once for each nonce. -/
theorem consumed_once {s : SignInState} (h : (signIn rt env).Run s ts c) {nonce : Text}
    {i j : Nat} {t₁ t₂ : TimeValue} {consumed₁ consumed₂ : List Text}
    {t u : (signIn rt env).Transition} (ht : t ∈ ts) (hu : u ∈ ts)
    (hi : t.move = .perform i (.consumeNonce nonce t₁) (.ok consumed₁)) (hne : consumed₁ ≠ [])
    (hj : u.move = .perform j (.consumeNonce nonce t₂) (.ok consumed₂)) (hne' : consumed₂ ≠ []) :
    i = j := by
  obtain rfl : t = u := Run.performed_once (V := signIn rt env)
    (Q := fun s : SignInState => s.nonces.Spent nonce) (K := NonceOp.Consumes nonce)
    (fun hexec hspent => SignInState.exec_keeps_spent hexec hspent)
    (fun henv hspent => henv.2.1 ▸ hspent) exec_consumes h ht hu hi ⟨rfl, hne⟩ hj ⟨rfl, hne'⟩
  have hsame := hi.symm.trans hj
  cases hsame
  rfl

/-- The transition in which a call that admitted a wallet consumed the nonce. -/
theorem exists_consumption {s : SignInState} (h : (signIn rt env).Run s ts c) {i : Nat}
    {message signature : Text} {address : Address}
    (hi : c.Answers i (.verify message signature) (.ok address)) {nonce : Text}
    (hnonce : (parseSiweMessage message).map (·.nonce) = some nonce) :
    ∃ t ∈ ts, ∃ usedAt consumed,
      t.move = .perform i (.consumeNonce nonce usedAt) (.ok consumed) ∧ consumed ≠ [] := by
  obtain ⟨parsed, row, t₁, t₂, t₃, consumed, hparsed, -, -, -, -, -, hconsumed, hlog⟩ :=
    verifyChallenge_ok (Run.returns h hi)
  rw [hparsed, Option.map_some, Option.some.injEq] at hnonce
  subst hnonce
  obtain ⟨pre, t, post, rfl, hmove, -, -⟩ := exists_of_ownLog (V := signIn rt env)
    [⟨NonceOp.now, t₁⟩, ⟨NonceOp.selectNonce parsed.nonce, Except.ok (some row)⟩,
      ⟨NonceOp.now, t₂⟩, ⟨NonceOp.now, t₃⟩] hlog
  exact ⟨t, by simp, t₃, consumed, hmove, hconsumed⟩

/-- A call that admits a wallet is the only one to do so with its nonce. The wallet has signed the
    message, and when the call read the nonce it was unused, had not expired, and had been issued to
    this wallet. -/
theorem signIn_single_use {clock : TimeValue} (h : (signIn rt env).Run (.fresh clock) ts c) {i : Nat}
    {message signature : Text} {address : Address}
    (hi : c.Answers i (.verify message signature) (.ok address)) :
    ∃ nonce, (parseSiweMessage message).map (·.nonce) = some nonce ∧
      (∀ j message' signature' address',
        c.Answers j (.verify message' signature') (.ok address') →
        (parseSiweMessage message').map (·.nonce) = some nonce → j = i) ∧
      ∃ pre t post row, ts = pre ++ t :: post ∧
        t.move = .perform i (.selectNonce nonce) (.ok (some row)) ∧
        row ∈ t.before.shared.nonces.rows ∧ row.nonce = nonce ∧ row.walletAddress = address ∧
        row.usedAt = none ∧ t.before.shared.clock.1 < row.expiresAt.1 ∧
        (address, message) ∈ t.before.shared.signed ∧
        ∃ u ∈ pre, ∃ k r walletInput, u.move = .perform k (.insertNonce row) r ∧
          u.before.Serves k (.issue walletInput) ∧ rt.getAddress walletInput = some address := by
  obtain ⟨parsed, row, t₁, t₂, t₃, consumed, hparsed, hrecovered, hunused, hfresh, hwallet,
    -, hconsumed, hlog⟩ := verifyChallenge_ok (Run.returns h hi)
  have hnonce : (parseSiweMessage message).map (·.nonce) = some parsed.nonce := by
    rw [hparsed, Option.map_some]
  refine ⟨parsed.nonce, hnonce, fun j message' signature' address' hj hnonce' => ?_, ?_⟩
  · obtain ⟨t, ht, usedAt, consumed, hmove, hne⟩ := exists_consumption h hi hnonce
    obtain ⟨u, hu, usedAt', consumed', hmove', hne'⟩ := exists_consumption h hj hnonce'
    exact consumed_once h hu ht hmove' hne' hmove hne
  · obtain ⟨pre, t, post, rfl, hmove, -, hback⟩ := exists_of_ownLog (V := signIn rt env)
      [⟨NonceOp.now, t₁⟩] hlog
    obtain ⟨between, u, rest, rfl, hnow, -, -⟩ := exists_of_ownLog [] hback
    obtain ⟨hbefore, hvalid, hafter⟩ := h.split_at
    obtain ⟨-, -, -, -, hexec, -⟩ := Transition.Valid.perform hvalid hmove
    obtain ⟨hfind, -⟩ := Prod.mk.inj (Attempt.of_ok hexec)
    have hrow := (lookup_eq_some_iff t.before.shared.nonces.unique).1 (Except.ok.inj hfind)
    have hissued : row.issued = row := by
      obtain ⟨_, _, _, _, _, usedAt⟩ := row
      obtain rfl : usedAt = none := hunused
      rfl
    obtain ⟨v, hv, k, r, walletInput, hinsert, hserves, haddress⟩ :=
      exists_insertion hbefore hrow.1
    rw [hissued] at hinsert
    refine ⟨pre, t, _, row, rfl, hmove, hrow.1, hrow.2, hwallet, hunused, ?_, ?_,
      v, hv, k, r, walletInput, hinsert, hserves, hwallet ▸ haddress⟩
    · -- The time the call compares with is read after the row.
      obtain ⟨hpath, hvalid', -⟩ := hafter.split_at
      obtain ⟨-, -, -, -, ⟨hclock, -⟩, -⟩ := Transition.Valid.perform hvalid' hnow
      have hle := (signIn_advances (TransitionSystem.Path.cons hvalid hpath)).1
      have hread : t₂ = u.before.shared.clock := hclock
      rw [hread] at hfresh
      exact Nat.lt_of_le_of_lt hle hfresh
    · obtain ⟨req, hserves', -⟩ := h.awaited hmove
      have hreq : req = .verify message signature :=
        (hserves'.of_path (TransitionSystem.Path.cons hvalid hafter)).unique hi.serves
      subst hreq
      obtain ⟨c₀, us, hpath, hadmits⟩ := Run.admitted hbefore hserves'
      exact (signIn_advances hpath).2 (hadmits address hrecovered)

end Runs

/-! ## One wallet signs in -/

/-- A database that always answers. -/
def signInPlayer (rt : SiweRuntime) (env : SiweEnv) : (signIn rt env).Player where
  Choice := BitVec 128
  Event := TimeValue × List (Address × Text)
  perform := fun (s : SignInState) op choice =>
    match op with
    | .now => some (s.clock, s)
    | .randomBytes => some (choice, s)
    | .insertNonce row =>
        some ((s.nonces.insert row).1, { s with nonces := (s.nonces.insert row).2 })
    | .selectNonce nonce => some (.ok (s.nonces.find nonce), s)
    | .consumeNonce nonce usedAt =>
        some (.ok (s.nonces.consume nonce usedAt).1,
          { s with nonces := (s.nonces.consume nonce usedAt).2 })
  outside := fun (s : SignInState) event =>
    if s.clock.1 ≤ event.1.1 then
      some { s with clock := event.1, signed := s.signed ++ event.2 }
    else none
  admits := fun (s : SignInState) req =>
    match req with
    | .issue _ => true
    | .verify message signature =>
        match rt.verifyMessage message signature with
        | none => true
        | some a => decide ((a, message) ∈ s.signed)
  perform_sound := by
    intro s op choice r s' h
    cases op with
    | now =>
        cases h
        exact ⟨rfl, rfl⟩
    | randomBytes =>
        cases h
        exact rfl
    | insertNonce row =>
        cases h
        exact .inl rfl
    | selectNonce nonce =>
        cases h
        exact .inl rfl
    | consumeNonce nonce usedAt =>
        cases h
        exact .inl rfl
  outside_sound := by
    intro s event s' h
    split at h
    next hle =>
        cases h
        exact ⟨hle, rfl, List.subset_append_left _ _⟩
    · cases h
  admits_sound := by
    intro s req h
    cases req with
    | issue walletInput => trivial
    | verify message signature =>
        intro a ha
        simp only [ha] at h
        exact of_decide_eq_true h

/-- The wallet that a thread has admitted, and the message it did so for. -/
def admitted (c : (signIn rt env).Config) (i : Nat) : Option (Text × Address) :=
  match c.answer? i with
  | some ⟨.verify message _, .ok address⟩ => some (message, address)
  | _ => none

theorem answers_of_admitted {c : (signIn rt env).Config} {i : Nat} {message : Text}
    {address : Address} (h : admitted c i = some (message, address)) :
    ∃ signature, c.Answers i (.verify message signature) (.ok address) := by
  unfold admitted at h
  split at h
  next message' signature address' hanswer =>
      cases h
      exact ⟨signature, Config.answers_of_answer? hanswer⟩
  · cases h

namespace Sample

/-- The first account of a Hardhat node. -/
def devWallet : Address := 0xf39Fd6e51aad88F6F4ce6aB8827279cffFb92266#160

theorem devChain_safe : 31337 < 2 ^ 53 := by decide

/-- One second after `start_le`. -/
theorem signed_le : 1700000001000 ≤ 8640000000000000 := by decide

def devEnv : SiweEnv :=
  ⟨"localhost:3000".toList, "http://localhost:3000".toList, ⟨31337, devChain_safe⟩⟩

/-- Its checksummed form. -/
def devText : Text := "0xf39Fd6e51aad88F6F4ce6aB8827279cffFb92266".toList

/-- What it is asked to sign at 1700000000000. -/
def devMessage : Text :=
  buildSiweMessage
    { domain := "localhost:3000".toList
      address := devText
      statement := STATEMENT
      uri := "http://localhost:3000".toList
      chainId := ⟨31337, devChain_safe⟩
      nonce := "000102030405060708090a0b0c0d0e0f".toList
      issuedAt := "2023-11-14T22:13:20.000Z".toList
      expirationTime := "2023-11-14T22:18:20.000Z".toList }

def devSignature : Text :=
  "0x".toList ++ (toHex 64 0xfec36a420af3fd361d8fbdd2f36582c5b46824c29c6306116220567d94c17b8d
    ++ toHex 66 0x19b562727bd69cb9c74162721f3660845d25f4c3740e6a304c9f135339e1b79f1b)

/-- What the libraries answer about this wallet, this signature and this date. -/
def devRuntime : SiweRuntime where
  getAddress s := if s = devText then some devWallet else none
  checksum _ := devText
  verifyMessage message signature :=
    if message = devMessage ∧ signature = devSignature then some devWallet else none
  getTime s := if s = "2023-11-14T22:18:20.000Z".toList then some 1700000300000 else none

/-- The wallet asks for a challenge, signs it and is back after one second. -/
def devCues : List (signInPlayer devRuntime devEnv).Cue :=
  [.arrive (.issue devText),
    .perform 0 0x000102030405060708090a0b0c0d0e0f#128, .perform 0 0#128, .perform 0 0#128,
    .outside (⟨1700000001000, signed_le⟩, [(devWallet, devMessage)]),
    .arrive (.verify devMessage devSignature),
    .perform 1 0#128, .perform 1 0#128, .perform 1 0#128, .perform 1 0#128, .perform 1 0#128]

/-- No other call admits anybody with the nonce of this one. -/
theorem devWallet_signs_in :
    ∃ (ts : List (signIn devRuntime devEnv).Transition) (c : (signIn devRuntime devEnv).Config)
      (nonce : Text),
      (signIn devRuntime devEnv).Run (.fresh ⟨1700000000000, by decide⟩) ts c ∧
        (parseSiweMessage devMessage).map (·.nonce) = some nonce ∧
        (devWallet, devMessage) ∈ c.shared.signed ∧
        ∀ j message signature address, c.Answers j (.verify message signature) (.ok address) →
          (parseSiweMessage message).map (·.nonce) = some nonce → j = 1 := by
  have hplay : (((signInPlayer devRuntime devEnv).play
      (idle (.fresh ⟨1700000000000, by decide⟩)) devCues).map fun (_, c) => admitted c 1) =
        some (some (devMessage, devWallet)) := by decide +kernel
  obtain ⟨⟨ts, c⟩, hplay, hadmitted⟩ := Option.map_eq_some_iff.1 hplay
  obtain ⟨signature, hanswers⟩ := answers_of_admitted hadmitted
  have hrun : (signIn devRuntime devEnv).Run (.fresh ⟨1700000000000, by decide⟩) ts c :=
    Player.play_path hplay
  obtain ⟨nonce, hnonce, honce, pre, t, post, row, rfl, -, -, -, -, -, -, hsigned, -⟩ :=
    signIn_single_use hrun hanswers
  obtain ⟨hbefore, hvalid, hafter⟩ := hrun.split_at
  exact ⟨_, c, nonce, hrun, hnonce,
    (signIn_advances (TransitionSystem.Path.cons hvalid hafter)).2 hsigned, honce⟩

end Sample

end OwneX
