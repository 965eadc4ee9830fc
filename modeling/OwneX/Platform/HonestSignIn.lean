import OwneX.Library.JsLiterals
import OwneX.Platform.IssuedMessage

set_option autoImplicit false

/-! # An honest sign-in

The parser of a message takes the first line that starts with the label of a field. So a message is
read back as it was written when no line in front of a field starts with its label (`Legible`); the
only text that could is the domain in the first line, where the label's last blank may also be the
one behind the domain. A challenge that is read back, signed by its wallet and submitted once passes
every check, as long as the clock has not reached its expiry at the second look. -/

namespace OwneX

open Js JsNumber KeyedList Prog Interleaving Service

/-! ## What the parser makes of a message -/

def SIWE_LABELS : List Text :=
  ["URI: ", "Version: ", "Chain ID: ", "Nonce: ", "Issued At: ", "Expiration Time: "].map
    String.toList

/-- What stands behind the domain in the first line. -/
def SIWE_GREETING : Text := " wants you to sign in with your Ethereum account:".toList

/-- A text that can stand behind a label. -/
structure FieldText (s : Text) : Prop where
  nonempty : s ≠ []
  line : '\n' ∉ s
  trimmed : trimText s = s

namespace SiweFields

/-- What a message that is read back is made of. -/
structure Legible (f : SiweFields SafeInt) : Prop where
  domain : f.domain ≠ []
  domain_line : ∀ c ∈ f.domain, isLineTerminator c = false
  domain_label : ∀ label ∈ SIWE_LABELS, ¬label <+: f.domain ++ [' ']
  address : FieldText f.address
  address_label : ∀ label ∈ SIWE_LABELS, ¬label <+: f.address
  statement : f.statement = STATEMENT
  uri : FieldText f.uri
  nonce : FieldText f.nonce
  issuedAt : FieldText f.issuedAt
  expirationTime : FieldText f.expirationTime

/-- The fields as they are read. -/
def read (f : SiweFields SafeInt) : SiweFields (Option Literal) :=
  { f with chainId := some ⟨false, f.chainId.1, 1⟩ }

/-- The lines in front of the fields with a label. -/
def opening (f : SiweFields SafeInt) : List Text :=
  [f.domain ++ SIWE_GREETING, f.address, [], f.statement, []]

/-- The fields with a label. -/
def labelled (f : SiweFields SafeInt) : List (Text × Text) :=
  SIWE_LABELS.zip [f.uri, "1".toList, Nat.toDigits 10 f.chainId.1, f.nonce, f.issuedAt,
    f.expirationTime]

/-- The lines of a message. -/
def lines (f : SiweFields SafeInt) : List Text :=
  f.opening ++ f.labelled.map fun field => field.1 ++ field.2

variable {f : SiweFields SafeInt}

/-- The first line starts with a label only if the domain and one blank do. -/
theorem not_label_greeting {domain : Text}
    (h : ∀ label ∈ SIWE_LABELS, ¬label <+: domain ++ [' ']) :
    ∀ label ∈ SIWE_LABELS, ¬label <+: domain ++ SIWE_GREETING := by
  intro label hlabel hfront
  have hsplits : ∀ label ∈ SIWE_LABELS, ∀ n ≤ label.length,
      label.drop n <+: SIWE_GREETING → label.drop n <+: [' '] := by decide +kernel
  refine h label hlabel ?_
  rcases Nat.le_total label.length domain.length with hshort | hlong
  · exact (List.prefix_of_prefix_length_le hfront (List.prefix_append _ _) hshort).trans
      (List.prefix_append _ _)
  · -- The label goes on behind the domain.
    have hdomain : domain <+: label :=
      List.prefix_of_prefix_length_le (List.prefix_append _ _) hfront hlong
    obtain ⟨rest, rfl⟩ := hdomain
    have hrest : rest <+: SIWE_GREETING := (List.prefix_append_right_inj domain).1 hfront
    have hblank := hsplits _ hlabel domain.length hlong
    rw [List.drop_left] at hblank
    exact (List.prefix_append_right_inj domain).2 (hblank hrest)

theorem buildSiweMessage_eq (f : SiweFields SafeInt) : buildSiweMessage f = joinLines f.lines := rfl

/-- Every field with a label is fit to stand behind it. -/
theorem fieldText_of_mem (h : f.Legible) : ∀ field ∈ f.labelled, FieldText field.2 := by
  have hversion : FieldText "1".toList := ⟨by decide, by decide, by decide⟩
  have hchainId : FieldText (Nat.toDigits 10 f.chainId.1) :=
    ⟨Nat.toDigits_ne_nil, fun hmem => absurd (isDigit_toDigits hmem) (by decide),
      trimText_digits fun c hc => isDigit_toDigits hc⟩
  intro field hfield
  have hvalue := (List.of_mem_zip hfield).2
  simp only [List.mem_cons, List.not_mem_nil, or_false] at hvalue
  rcases hvalue with heq | heq | heq | heq | heq | heq
  · exact heq ▸ h.uri
  · exact heq ▸ hversion
  · exact heq ▸ hchainId
  · exact heq ▸ h.nonce
  · exact heq ▸ h.issuedAt
  · exact heq ▸ h.expirationTime

theorem lines_buildSiweMessage (h : f.Legible) : Js.lines (buildSiweMessage f) = f.lines := by
  have hdomain : '\n' ∉ f.domain := fun hmem => absurd (h.domain_line _ hmem) (by decide)
  have hlabels : ∀ label ∈ SIWE_LABELS, '\n' ∉ label := by decide
  rw [buildSiweMessage_eq]
  refine lines_joinLines (fun line hline => ?_) (List.cons_ne_nil _ _)
  rcases List.mem_append.1 hline with hopening | hlabelled
  · simp only [opening, List.mem_cons, List.not_mem_nil, or_false, h.statement] at hopening
    rcases hopening with rfl | rfl | rfl | rfl | rfl
    · exact fun hmem => (List.mem_append.1 hmem).elim hdomain (by decide)
    · exact h.address.line
    · decide
    · decide
    · decide
  · obtain ⟨field, hfield, rfl⟩ := List.mem_map.1 hlabelled
    intro hmem
    rcases List.mem_append.1 hmem with hlabel | hvalue
    · exact hlabels _ (List.of_mem_zip hfield).1 hlabel
    · exact (fieldText_of_mem h field hfield).line hvalue

/-- The lines in front of the fields start with none of the labels. -/
theorem not_label_opening (h : f.Legible) :
    ∀ label ∈ SIWE_LABELS, ∀ line ∈ f.opening, ¬label <+: line := by
  have hempty : ∀ label ∈ SIWE_LABELS, ¬label <+: ([] : Text) := by decide
  have hstatement : ∀ label ∈ SIWE_LABELS, ¬label <+: STATEMENT := by decide
  intro label hlabel line hline
  simp only [opening, List.mem_cons, List.not_mem_nil, or_false, h.statement] at hline
  rcases hline with rfl | rfl | rfl | rfl | rfl
  · exact not_label_greeting h.domain_label label hlabel
  · exact h.address_label label hlabel
  · exact hempty label hlabel
  · exact hstatement label hlabel
  · exact hempty label hlabel

end SiweFields

theorem beforeEnding_append {front ending : Text} (hne : front ≠ [])
    (hline : ∀ c ∈ front, isLineTerminator c = false) :
    beforeEnding (front ++ ending) ending = some front := by
  have htake : (front ++ ending).take ((front ++ ending).length - ending.length) = front := by
    rw [List.length_append, Nat.add_sub_cancel, List.take_left]
  have hall : (front.all fun c => !isLineTerminator c) = true := by
    simpa [List.all_eq_true] using hline
  unfold beforeEnding
  simp only [htake]
  rw [if_pos ⟨trivial, hne, hall⟩]

/-- A field is found by its label when no line in front starts with it and no other label begins
    like it. -/
theorem siweField_of_mem {opening : List Text} {fields : List (Text × Text)} {label : String}
    {value : Text} (hopening : ∀ line ∈ opening, ¬label.toList <+: line)
    (hapart : (fields.map Prod.fst).Pairwise Apart) (hmem : (label.toList, value) ∈ fields) :
    siweField (opening ++ fields.map fun field => field.1 ++ field.2) label =
      some (trimText value) := by
  have hnone : opening.findSome? (after? label.toList) = none :=
    List.findSome?_eq_none_iff.2 fun line hline => after?_eq_none (hopening line hline)
  have hfound : (fields.map fun field => field.1 ++ field.2).findSome? (after? label.toList) =
      some value := by
    induction fields with
    | nil => cases hmem
    | cons field fields ih =>
        rw [List.map_cons, List.pairwise_cons] at hapart
        rw [List.map_cons, List.findSome?_cons]
        rcases List.mem_cons.1 hmem with rfl | hrest
        · rw [after?_append]
        · have hother : Apart field.1 label.toList :=
            hapart.1 _ (List.mem_map_of_mem hrest)
          have hline : ¬label.toList <+: field.1 ++ field.2 :=
            Apart.not_begins ⟨hother.2, hother.1⟩ field.2
          rw [after?_eq_none hline]
          exact ih hapart.2 hrest
  unfold siweField
  rw [List.findSome?_append, hnone, Option.none_or, hfound]
  rfl

namespace SiweFields

variable {f : SiweFields SafeInt}

theorem siweField_lines (h : f.Legible) {label : String} {value : Text}
    (hmem : (label.toList, value) ∈ f.labelled) : siweField f.lines label = some value := by
  have hapart : (f.labelled.map Prod.fst).Pairwise Apart := by
    have hlabels : SIWE_LABELS.Pairwise Apart := by decide +kernel
    exact hlabels
  have hfound := siweField_of_mem (not_label_opening h _ (List.of_mem_zip hmem).1) hapart hmem
  exact hfound.trans (congrArg some (fieldText_of_mem h _ hmem).trimmed)

theorem filledField_lines (h : f.Legible) {label : String} {value : Text}
    (hmem : (label.toList, value) ∈ f.labelled) : filledField f.lines label = some value := by
  have hfilled : (!value.isEmpty) = true := by simpa using (fieldText_of_mem h _ hmem).nonempty
  unfold filledField
  rw [siweField_lines h hmem, Option.filter_some, if_pos hfilled]

end SiweFields

/-- A message is read back as it was written. -/
theorem parseSiweMessage_buildSiweMessage {f : SiweFields SafeInt} (h : f.Legible) :
    parseSiweMessage (buildSiweMessage f) = some f.read := by
  have hdomain : beforeEnding (f.domain ++ SIWE_GREETING) SIWE_GREETING = some f.domain :=
    beforeEnding_append h.domain h.domain_line
  have hfield : ∀ {label : String} {value : Text}, (label.toList, value) ∈ f.labelled →
      filledField f.lines label = some value := f.filledField_lines h
  have huri : filledField f.lines "URI: " = some f.uri :=
    hfield (by simp [SiweFields.labelled, SIWE_LABELS])
  have hversion : siweField f.lines "Version: " = some "1".toList :=
    f.siweField_lines h (by simp [SiweFields.labelled, SIWE_LABELS])
  have hchainId : filledField f.lines "Chain ID: " = some (Nat.toDigits 10 f.chainId.1) :=
    hfield (by simp [SiweFields.labelled, SIWE_LABELS])
  have hnonce : filledField f.lines "Nonce: " = some f.nonce :=
    hfield (by simp [SiweFields.labelled, SIWE_LABELS])
  have hissuedAt : filledField f.lines "Issued At: " = some f.issuedAt :=
    hfield (by simp [SiweFields.labelled, SIWE_LABELS])
  have hexpirationTime : filledField f.lines "Expiration Time: " = some f.expirationTime :=
    hfield (by simp [SiweFields.labelled, SIWE_LABELS])
  have hlength : ¬f.lines.length < 11 := Nat.lt_irrefl 11
  unfold parseSiweMessage
  simp only [SiweFields.lines_buildSiweMessage h, huri, hversion, hchainId, hnonce, hissuedAt,
    hexpirationTime, if_neg hlength]
  show (beforeEnding (f.domain ++ SIWE_GREETING) SIWE_GREETING).bind _ = _
  rw [hdomain]
  show some
    { domain := f.domain, address := trimText f.address, statement := f.statement, uri := f.uri,
      chainId := number (Nat.toDigits 10 f.chainId.1), nonce := f.nonce, issuedAt := f.issuedAt,
      expirationTime := f.expirationTime : SiweFields (Option Literal) } = some f.read
  rw [h.address.trimmed, number_toDigits]
  rfl

/-! ## Challenges -/

/-- A configuration whose messages are read back. -/
structure SiweEnv.Legible (env : SiweEnv) : Prop where
  domain : env.APP_DOMAIN ≠ []
  domain_line : ∀ c ∈ env.APP_DOMAIN, isLineTerminator c = false
  domain_label : ∀ label ∈ SIWE_LABELS, ¬label <+: env.APP_DOMAIN ++ [' ']
  origin : env.APP_ORIGIN ≠ []
  origin_line : ∀ c ∈ env.APP_ORIGIN, isLineTerminator c = false
  origin_trimmed : trimText env.APP_ORIGIN = env.APP_ORIGIN

/-- What is relied on in `getAddress`: it reads the checksummed address, which is a `0x` and
    hexadecimal digits. -/
structure SiweRuntime.Knows (rt : SiweRuntime) (wallet : Address) : Prop where
  getAddress : rt.getAddress (rt.checksum wallet) = some wallet
  checksum : ∃ digits, rt.checksum wallet = '0' :: 'x' :: digits ∧
    ∀ c ∈ digits, isDigit 16 c = true

variable {rt : SiweRuntime} {env : SiweEnv}

/-- What is written into the message that is issued along with a row. -/
def NonceRow.fields (rt : SiweRuntime) (env : SiweEnv) (row : NonceRow) : SiweFields SafeInt where
  domain := row.domain
  address := rt.checksum row.walletAddress
  statement := STATEMENT
  uri := env.APP_ORIGIN
  chainId := env.CHAIN_ID
  nonce := row.nonce
  issuedAt := toISOString row.issuedAt
  expirationTime := toISOString row.expiresAt

/-- A row as `issueChallenge` inserts it. -/
structure NonceRow.Issued (env : SiweEnv) (row : NonceRow) : Prop where
  domain : row.domain = env.APP_DOMAIN
  nonce : ∃ n, row.nonce = toHex 32 n
  expires : row.expiresAt.1 = row.issuedAt.1 + NONCE_TTL_SECONDS * 1000
  unused : row.usedAt = none

theorem fieldText_of_solid {s : Text} (hne : s ≠ []) (h : ∀ c ∈ s, isWhitespace c = false) :
    FieldText s :=
  ⟨hne, fun hmem => absurd (h _ hmem) (by decide), trimText_eq_self h⟩

theorem solid_hex {c : Char} (h : isDigit 16 c = true) : isWhitespace c = false := by
  have hrange : 48 ≤ c.toNat ∧ c.toNat < 103 := by
    unfold isDigit digitValue at h
    dsimp only at h
    split_ifs at h <;> omega
  have hall : ∀ n < 103, 48 ≤ n → isWhitespace (Char.ofNat n) = false := by decide
  have hchar := hall c.toNat hrange.2 hrange.1
  rwa [Char.ofNat_toNat] at hchar

/-- The message of an issued row is read back. -/
theorem NonceRow.legible {row : NonceRow} (hrow : row.Issued env) (henv : env.Legible)
    (hknows : rt.Knows row.walletAddress) : (row.fields rt env).Legible := by
  obtain ⟨digits, hchecksum, hdigits⟩ := hknows.checksum
  obtain ⟨n, hnonce⟩ := hrow.nonce
  have haddress : FieldText (rt.checksum row.walletAddress) := by
    rw [hchecksum]
    exact fieldText_of_solid (List.cons_ne_nil _ _) (List.forall_mem_cons.2
      ⟨by decide, List.forall_mem_cons.2 ⟨by decide, fun c hc => solid_hex (hdigits c hc)⟩⟩)
  have hlabel : ∀ label ∈ SIWE_LABELS, ¬label <+: rt.checksum row.walletAddress := by
    have hapart : ∀ label ∈ SIWE_LABELS, Apart label ['0', 'x'] := by decide
    intro label hlabel
    rw [hchecksum]
    exact (hapart label hlabel).not_begins digits
  have hdate : ∀ t, FieldText (toISOString t) := fun t =>
    fieldText_of_solid (toISOString_ne_nil t) (solid_toISOString t)
  have hnonceText : FieldText row.nonce := by
    rw [hnonce]
    exact fieldText_of_solid (List.ne_nil_of_length_pos (by simp [toHex])) (solid_toHex 32 n)
  have hdomain : (row.fields rt env).domain = env.APP_DOMAIN := hrow.domain
  constructor
  case domain =>
    rw [hdomain]
    exact henv.domain
  case domain_line =>
    rw [hdomain]
    exact henv.domain_line
  case domain_label =>
    rw [hdomain]
    exact henv.domain_label
  case address => exact haddress
  case address_label => exact hlabel
  case statement => rfl
  case uri =>
    exact ⟨henv.origin, fun hmem => absurd (henv.origin_line _ hmem) (by decide),
      henv.origin_trimmed⟩
  case nonce => exact hnonceText
  case issuedAt => exact hdate _
  case expirationTime => exact hdate _

/-! ## The two calls -/

/-- What `issueChallenge` answers and inserts. -/
theorem issueChallenge_row {walletInput : Text} {log : List ((op : NonceOp) × op.Res)}
    {challenge : IssuedChallenge}
    (h : Returns (issueChallenge rt env walletInput).run log (.ok challenge)) :
    ∃ row : NonceRow, row.Issued env ∧ rt.getAddress walletInput = some row.walletAddress ∧
      challenge = ⟨row.nonce, buildSiweMessage (row.fields rt env), toISOString row.expiresAt⟩ ∧
      ∃ bytes issuedAt,
        log = [⟨.randomBytes, bytes⟩, ⟨.now, issuedAt⟩, ⟨.insertNonce row, .ok ()⟩] := by
  obtain ⟨address, haddress, h⟩ := returns_require_bind.1 h
  obtain ⟨bytes, log₁, hlog, h⟩ := returns_ask_bind.1 h
  obtain ⟨issuedAt, log₂, hlog₁, h⟩ := returns_ask_bind.1 h
  obtain ⟨expiresAt, hexpires, h⟩ := returns_require_bind.1 h
  obtain ⟨inserted, front, log₃, hlog₂, hinsert, h⟩ := returns_attempt_bind.1 h
  obtain rfl := returns_call.1 hinsert
  obtain ⟨hlog₃, hanswer⟩ := returns_exceptT_pure.1 h
  subst hlog₃ hlog₂ hlog₁ hlog hanswer
  let row : NonceRow :=
    { nonce := toHex 32 bytes.toNat, walletAddress := address, domain := env.APP_DOMAIN, issuedAt,
      expiresAt, usedAt := none }
  have hrow : row.Issued env := ⟨rfl, ⟨bytes.toNat, rfl⟩, later_eq_some hexpires, rfl⟩
  exact ⟨row, hrow, haddress, rfl, bytes, issuedAt, rfl⟩

/-- The call awaits five statements at most, and the last of them consumes the nonce of its
    message. -/
theorem verifyChallenge_reaches {message signature : Text} {log : List ((op : NonceOp) × op.Res)}
    {op : NonceOp} (h : Reaches (verifyChallenge rt env message signature).run log op) :
    log.length < 5 ∧ (∀ nonce t r, ⟨.consumeNonce nonce t, r⟩ ∉ log) ∧
      ∀ nonce t, op = .consumeNonce nonce t →
        (parseSiweMessage message).map (·.nonce) = some nonce := by
  obtain ⟨parsed, hparsed, h⟩ := reaches_require_bind.1 h
  obtain ⟨-, h⟩ := reaches_refuseIf_bind.1 h
  obtain ⟨-, h⟩ := reaches_refuseIf_bind.1 h
  rcases reaches_ask_bind.1 h with ⟨hlog, hop⟩ | ⟨t₁, log₁, hlog, h⟩
  · simp [hlog, hop]
  obtain ⟨-, h⟩ := reaches_refuseIf_bind.1 h
  obtain ⟨claimed, -, h⟩ := reaches_require_bind.1 h
  rcases reaches_exceptT_bind.1 h with h | ⟨found, front, log₂, hlog₁, hselect, h⟩
  · obtain ⟨hlog₁, hop⟩ := reaches_call.1 (reaches_attempt.1 h)
    simp [hlog, hlog₁, hop]
  obtain hfront := returns_call.1 (returns_attempt.1 hselect)
  obtain ⟨row, -, h⟩ := reaches_require_bind.1 h
  obtain ⟨-, h⟩ := reaches_refuseIf_bind.1 h
  rcases reaches_ask_bind.1 h with ⟨hlog₂, hop⟩ | ⟨t₂, log₃, hlog₂, h⟩
  · simp [hlog, hlog₁, hfront, hlog₂, hop]
  obtain ⟨-, h⟩ := reaches_refuseIf_bind.1 h
  obtain ⟨-, h⟩ := reaches_refuseIf_bind.1 h
  obtain ⟨-, h⟩ := reaches_refuseIf_bind.1 h
  obtain ⟨recovered, -, h⟩ := reaches_require_bind.1 h
  obtain ⟨-, h⟩ := reaches_refuseIf_bind.1 h
  rcases reaches_ask_bind.1 h with ⟨hlog₃, hop⟩ | ⟨t₃, log₄, hlog₃, h⟩
  · simp [hlog, hlog₁, hfront, hlog₂, hlog₃, hop]
  rcases reaches_exceptT_bind.1 h with h | ⟨consumed, front', log₅, -, -, h⟩
  · obtain ⟨hlog₄, hop⟩ := reaches_call.1 (reaches_attempt.1 h)
    simp [hlog, hlog₁, hfront, hlog₂, hlog₃, hlog₄, hop, hparsed]
  obtain ⟨-, h⟩ := reaches_refuseIf_bind.1 h
  exact absurd h reaches_exceptT_pure

/-- With the row of the challenge, and early enough, the call admits the wallet. -/
theorem verifyChallenge_admits {row : NonceRow} (hrow : row.Issued env) (henv : env.Legible)
    (hknows : rt.Knows row.walletAddress)
    (hexpires : rt.getTime (toISOString row.expiresAt) = some (row.expiresAt.1 : Int))
    {signature : Text}
    (hsigned : rt.verifyMessage (buildSiweMessage (row.fields rt env)) signature =
      some row.walletAddress)
    {log : List ((op : NonceOp) × op.Res)} {x : Except String Address}
    (h : Returns (verifyChallenge rt env (buildSiweMessage (row.fields rt env)) signature).run log x)
    (hnow : ∀ t, ⟨.now, t⟩ ∈ log.take 3 → t.1 < row.expiresAt.1)
    (hselect : ∀ r, ⟨.selectNonce row.nonce, r⟩ ∈ log → r = .ok (some row))
    (hconsume : ∀ t r, ⟨.consumeNonce row.nonce t, r⟩ ∈ log → ∃ consumed, r = .ok consumed ∧
      consumed ≠ []) :
    x = .ok row.walletAddress := by
  have hparsed := parseSiweMessage_buildSiweMessage (row.legible hrow henv hknows)
  have hchainId : Literal.equals ⟨false, env.CHAIN_ID.1, 1⟩ env.CHAIN_ID.1 = true :=
    Literal.equals_self env.CHAIN_ID.2
  have hdomain : ((row.fields rt env).read.domain != env.APP_DOMAIN) = false :=
    bne_eq_false_iff_eq.2 hrow.domain
  have hnetwork : (!(((row.fields rt env).read.chainId.map
      (·.equals env.CHAIN_ID.1)).getD false)) = false := by
    show (!Literal.equals ⟨false, env.CHAIN_ID.1, 1⟩ env.CHAIN_ID.1) = false
    rw [hchainId]
    rfl
  have hearly : ∀ t, ⟨.now, t⟩ ∈ log.take 3 →
      passed (rt.getTime (row.fields rt env).read.expirationTime) t = false := by
    intro t ht
    show passed (rt.getTime (toISOString row.expiresAt)) t = false
    rw [hexpires]
    exact decide_eq_false (by have := hnow t ht; omega)
  have haddress : rt.getAddress (row.fields rt env).read.address = some row.walletAddress :=
    hknows.getAddress
  have hunused : row.usedAt.isSome = false := by rw [hrow.unused]; rfl
  have hwallet : (row.walletAddress != row.walletAddress) = false := bne_self_eq_false _
  have hrebuilt : (buildSiweMessage
      { domain := row.domain
        address := rt.checksum row.walletAddress
        statement := STATEMENT
        uri := env.APP_ORIGIN
        chainId := env.CHAIN_ID
        nonce := (row.fields rt env).read.nonce
        issuedAt := (row.fields rt env).read.issuedAt
        expirationTime := (row.fields rt env).read.expirationTime } !=
      buildSiweMessage (row.fields rt env)) = false := bne_self_eq_false _
  unfold verifyChallenge at h
  rw [hparsed, require_some_bind, hdomain, refuseIf_false_bind, hnetwork, refuseIf_false_bind] at h
  obtain ⟨t₁, log₁, hlog, h⟩ := returns_ask_bind.1 h
  rw [hearly t₁ (by simp [hlog]), refuseIf_false_bind, haddress, require_some_bind] at h
  obtain ⟨found, front, log₂, hlog₁, hfound, h⟩ := returns_attempt_bind_cases h
  have hfront := returns_call.1 hfound
  have hrow' := hselect found (by rw [hlog, hlog₁, hfront]; exact .tail _ (.head _))
  have h := h _ hrow'
  rw [require_some_bind, hunused, refuseIf_false_bind] at h
  obtain ⟨t₂, log₃, hlog₂, h⟩ := returns_ask_bind.1 h
  have hfresh : decide (row.expiresAt.1 ≤ t₂.1) = false :=
    decide_eq_false (Nat.not_le.2 (hnow t₂ (by simp [hlog, hlog₁, hfront, hlog₂])))
  rw [hfresh, refuseIf_false_bind, hwallet, refuseIf_false_bind] at h
  dsimp only at h
  rw [hrebuilt, refuseIf_false_bind, hsigned, require_some_bind, hwallet, refuseIf_false_bind] at h
  obtain ⟨t₃, log₄, hlog₃, h⟩ := returns_ask_bind.1 h
  obtain ⟨consumed, front', log₅, hlog₄, hconsumed, h⟩ := returns_attempt_bind_cases h
  have hfront' := returns_call.1 hconsumed
  obtain ⟨nonces, hnonces, hne⟩ := hconsume t₃ consumed (by
    rw [hlog, hlog₁, hfront, hlog₂, hlog₃, hlog₄, hfront']
    exact .tail _ (.tail _ (.tail _ (.tail _ (.head _)))))
  have h := h _ hnonces
  have hfilled : nonces.isEmpty = false := by simpa using hne
  rw [hfilled, refuseIf_false_bind] at h
  exact (returns_pure.1 h).2.symm

theorem only_issueChallenge (walletInput : Text) :
    Only (fun op => ∀ nonce t, op ≠ .consumeNonce nonce t)
      (issueChallenge rt env walletInput).run := by
  refine only_require_bind fun address _ => ?_
  refine only_exceptT_bind (only_ask (by simp)) fun bytes => ?_
  refine only_exceptT_bind (only_ask (by simp)) fun issuedAt => ?_
  refine only_require_bind fun expiresAt _ => ?_
  exact only_exceptT_bind (only_attempt (only_call (by simp)) _) fun _ => only_exceptT_pure _

/-! ## Runs -/

/-- The database reports no error. -/
def NonceOp.succeeds : (op : NonceOp) → op.Res → Bool
  | .insertNonce _, r => r.isOk
  | .selectNonce _, r => r.isOk
  | .consumeNonce _ _, r => r.isOk
  | .now, _ => true
  | .randomBytes, _ => true

theorem exists_ok_of_isOk {α : Type} {r : Except String α} (h : r.isOk = true) :
    ∃ a, r = .ok a := by
  cases r with
  | error e => cases h
  | ok a => exact ⟨a, rfl⟩

/-- An unused row stays as it is until its nonce is consumed. -/
theorem SignInState.exec_keeps_unused {s s' : SignInState} {op : NonceOp} {r : op.Res}
    (h : s.exec op r s') {row : NonceRow} (hrow : row ∈ s.nonces.rows)
    (hop : ∀ t, op ≠ .consumeNonce row.nonce t) : row ∈ s'.nonces.rows := by
  have hkeeps : ∀ {α : Type} {outcome : Except String α × SignInState} {r : Except String α},
      Attempt s outcome r s' → row ∈ outcome.2.nonces.rows → row ∈ s'.nonces.rows :=
    fun hattempt houtcome =>
      hattempt.keeps (P := fun s : SignInState => row ∈ s.nonces.rows) hrow houtcome
  cases op with
  | now => exact h.2 ▸ hrow
  | randomBytes =>
      obtain rfl : s' = s := h
      exact hrow
  | insertNonce row' => exact hkeeps h (NonceTable.mem_insert_of_mem hrow)
  | selectNonce nonce => exact hkeeps h hrow
  | consumeNonce nonce usedAt =>
      refine hkeeps h (NonceTable.mem_consume.2 ⟨row, hrow, if_neg ?_⟩)
      have hother : row.nonce ≠ nonce := fun heq => hop usedAt (heq ▸ rfl)
      simp [NonceTable.consumable, hother]

section Runs

variable {ts us : List (signIn rt env).Transition} {c c' : (signIn rt env).Config}

/-- A nonce is consumed by a call that was given a message with it. -/
theorem exists_consumer {s : SignInState} (h : (signIn rt env).Run s ts c)
    {t : (signIn rt env).Transition} (ht : t ∈ ts) {j : Nat} {nonce : Text} {usedAt : TimeValue}
    {r : Except String (List Text)} (hmove : t.move = .perform j (.consumeNonce nonce usedAt) r) :
    ∃ message signature, c.Serves j (.verify message signature) ∧
      (parseSiweMessage message).map (·.nonce) = some nonce := by
  obtain ⟨pre, post, rfl⟩ := List.append_of_mem ht
  obtain ⟨req, hserves, hreaches⟩ := h.awaited hmove
  obtain ⟨-, hvalid, hpath⟩ := h.split_at
  have hserves := hserves.of_path (.cons hvalid hpath)
  cases req with
  | issue walletInput =>
      exact absurd rfl ((only_issueChallenge walletInput).reached hreaches nonce usedAt)
  | verify message signature =>
      exact ⟨message, signature, hserves,
        (verifyChallenge_reaches hreaches).2.2 nonce usedAt rfl⟩

/-- A row that was inserted is there, unused, until the only call that is given its nonce consumes
    it. -/
theorem unused_until_consumed {s : SignInState} (h : (signIn rt env).Run s (ts ++ us) c')
    {k i : Nat} {row : NonceRow} {u : (signIn rt env).Transition} (hu : u ∈ ts)
    (hinsert : u.move = .perform k (.insertNonce row) (.ok ()))
    (honce : ∀ j message signature, c'.Serves j (.verify message signature) →
      (parseSiweMessage message).map (·.nonce) = some row.nonce → j = i)
    {pre post : List (signIn rt env).Transition} {t : (signIn rt env).Transition}
    (hus : us = pre ++ t :: post)
    (hlog : ∀ usedAt r, ⟨.consumeNonce row.nonce usedAt, r⟩ ∉ ownLog i (ts ++ pre)) :
    row ∈ t.before.shared.nonces.rows := by
  obtain ⟨front, back, rfl⟩ := List.append_of_mem hu
  have hwhole : (front ++ u :: back) ++ us = front ++ u :: (back ++ us) := by simp
  have hrun := h
  rw [hwhole] at hrun
  obtain ⟨-, hvalid, hafter⟩ := hrun.split_at
  obtain ⟨-, -, -, -, hexec, -⟩ := Transition.Valid.perform hvalid hinsert
  have hthere : row ∈ u.after.shared.nonces.rows := by
    rw [(SignInState.exec_insert_rows hexec).2]
    exact List.mem_append_right _ (List.mem_singleton_self row)
  -- By induction on what happens behind the insertion.
  have hhistory := hafter.history
    (P := fun done (m : (signIn rt env).Config) =>
      (∀ usedAt r, ⟨.consumeNonce row.nonce usedAt, r⟩ ∉ ownLog i done) →
        row ∈ m.shared.nonces.rows)
    (fun _ => hthere) ?_
  · refine hhistory.2 (back ++ pre) t post (by rw [hus, List.append_assoc]) ?_
    intro usedAt r hmem
    refine hlog usedAt r ?_
    have hlonger : (front ++ u :: back) ++ pre = (front ++ [u]) ++ (back ++ pre) := by simp
    rw [hlonger, ownLog_append]
    exact List.mem_append_right _ hmem
  · intro done v rest hsplit hsource hnone
    have hv : v ∈ (front ++ u :: back) ++ us := by
      rw [hwhole, hsplit]
      simp
    have hearlier : row ∈ v.before.shared.nonces.rows := hsource fun usedAt r hmem =>
      hnone usedAt r (by rw [ownLog_append]; exact List.mem_append_left _ hmem)
    have hvalid : v.Valid := h.valid v hv
    rcases hvalid.shared with heq | ⟨j, op, r, hmove, hexec⟩ | henv
    · exact heq ▸ hearlier
    · refine SignInState.exec_keeps_unused hexec hearlier ?_
      rintro usedAt rfl
      -- Whoever consumes the nonce was given it, and that is the one call.
      obtain ⟨message, signature, hserves, hnonce⟩ := exists_consumer h hv hmove
      obtain rfl := honce j message signature hserves hnonce
      exact hnone usedAt r (by rw [ownLog_concat hmove]; simp)
    · exact henv.2.1 ▸ hearlier

/-- From `c` to `c'` the challenge is submitted, signed by its wallet. No other call is given its
    nonce, and the database reports no error to this one. -/
structure Submits (c : (signIn rt env).Config) (us : List (signIn rt env).Transition)
    (c' : (signIn rt env).Config) (i : Nat) (challenge : IssuedChallenge) (signature : Text)
    (wallet : Address) : Prop where
  path : (signIn rt env).system.Path c us c'
  new : c.threads[i]? = none
  serves : c'.Serves i (.verify challenge.message signature)
  signed : rt.verifyMessage challenge.message signature = some wallet
  once : ∀ j message' signature', c'.Serves j (.verify message' signature') →
    (parseSiweMessage message').map (·.nonce) = some challenge.nonce → j = i
  succeeds : ((ownLog i us).all fun entry => entry.1.succeeds entry.2) = true

/-- Whenever the call performs a statement, the row of its challenge is there and unused. -/
theorem there_of_submits {s : SignInState} (hrun : (signIn rt env).Run s (ts ++ us) c') {k i : Nat}
    {row : NonceRow} {u : (signIn rt env).Transition} (hu : u ∈ ts)
    (hinsert : u.move = .perform k (.insertNonce row) (.ok ())) {challenge : IssuedChallenge}
    {signature : Text} {wallet : Address} (hsubmits : Submits c us c' i challenge signature wallet)
    (hnonce : row.nonce = challenge.nonce)
    {op : NonceOp} {r : op.Res} (hmem : ⟨op, r⟩ ∈ ownLog i us) :
    ∃ s' s'' : SignInState, s'.exec op r s'' ∧ row ∈ s'.nonces.rows := by
  obtain ⟨t, ht, hmove⟩ := mem_ownLog.1 hmem
  obtain ⟨pre, post, hus⟩ := List.append_of_mem ht
  have hsplit : ts ++ us = (ts ++ pre) ++ t :: post := by rw [hus, List.append_assoc]
  obtain ⟨-, hvalid, hafter⟩ := TransitionSystem.Path.split_at (hsplit ▸ hrun)
  obtain ⟨req, hreq, hreaches⟩ := Run.awaited (hsplit ▸ hrun) hmove
  obtain rfl := (hreq.of_path (.cons hvalid hafter)).unique hsubmits.serves
  obtain ⟨-, -, -, -, hexec, -⟩ := Transition.Valid.perform hvalid hmove
  exact ⟨_, _, hexec, unused_until_consumed hrun hu hinsert (hnonce ▸ hsubmits.once) hus
    fun usedAt r => (verifyChallenge_reaches hreaches).2.1 _ usedAt r⟩

/-- The message of a challenge is read back field by field. Once the challenge is submitted, it is
    the wallet's sign-in, if the call looks at the clock for the second time before it expires. -/
theorem honest_sign_in {s : SignInState} (h : (signIn rt env).Run s ts c) {k : Nat}
    {walletInput : Text} {challenge : IssuedChallenge}
    (hk : c.Answers k (.issue walletInput) (.ok challenge)) {wallet : Address}
    (hwallet : rt.getAddress walletInput = some wallet) (hknows : rt.Knows wallet)
    (henv : env.Legible) :
    ∃ row : NonceRow, row.Issued env ∧ row.nonce = challenge.nonce ∧ row.walletAddress = wallet ∧
      (∃ u ∈ ts, u.move = .perform k (.insertNonce row) (.ok ())) ∧
      challenge.expiresAt = toISOString row.expiresAt ∧
      challenge.message = buildSiweMessage (row.fields rt env) ∧
      parseSiweMessage challenge.message = some (row.fields rt env).read ∧
      (rt.getTime challenge.expiresAt = some (row.expiresAt.1 : Int) →
        ∀ us c' i signature, Submits c us c' i challenge signature wallet →
          (∀ t, ⟨.now, t⟩ ∈ (ownLog i us).take 3 → t.1 < row.expiresAt.1) →
          (∀ a, c'.Answers i (.verify challenge.message signature) a → a = .ok wallet) ∧
            (c'.Answers i (.verify challenge.message signature) (.ok wallet) ∨
              c'.Awaits i (.verify challenge.message signature) ∧ (ownLog i us).length < 5)) := by
  obtain ⟨row, hrow, haddress, rfl, bytes, issuedAt, hlog⟩ := issueChallenge_row (Run.returns h hk)
  obtain rfl := Option.some.inj (haddress.symm.trans hwallet)
  obtain ⟨front, u, back, hts, hinsert, -, -⟩ := exists_of_ownLog (V := signIn rt env)
    [⟨NonceOp.randomBytes, bytes⟩, ⟨NonceOp.now, issuedAt⟩] hlog
  have hu : u ∈ ts := hts ▸ List.mem_append_right _ List.mem_cons_self
  refine ⟨row, hrow, rfl, rfl, ⟨u, hu, hinsert⟩, rfl, rfl,
    parseSiweMessage_buildSiweMessage (row.legible hrow henv hknows), ?_⟩
  intro hexpires us c' i signature hsubmits hnow
  have hserves := hsubmits.serves
  have hrun : (signIn rt env).Run s (ts ++ us) c' := h.append hsubmits.path
  have hown : ownLog i (ts ++ us) = ownLog i us := by
    rw [ownLog_append, Run.ownLog_eq_nil h hsubmits.new, List.nil_append]
  have hadmits : ∀ a,
      c'.Answers i (.verify (buildSiweMessage (row.fields rt env)) signature) a →
        a = .ok row.walletAddress := by
    intro a ha
    have hreturns := Run.returns hrun ha
    rw [hown] at hreturns
    refine verifyChallenge_admits hrow henv hknows hexpires hsubmits.signed hreturns hnow ?_ ?_
    · intro r hmem
      obtain ⟨s', s'', hexec, hmember⟩ := there_of_submits hrun hu hinsert hsubmits rfl hmem
      obtain ⟨found, rfl⟩ := exists_ok_of_isOk (List.all_eq_true.1 hsubmits.succeeds _ hmem)
      have hfound : s'.nonces.find row.nonce = some row :=
        (lookup_eq_some_iff s'.nonces.unique).2 ⟨hmember, rfl⟩
      have hperformed := (Prod.mk.inj (Attempt.of_ok hexec)).1
      rw [← hperformed, hfound]
    · intro t r hmem
      obtain ⟨s', s'', hexec, hmember⟩ := there_of_submits hrun hu hinsert hsubmits rfl hmem
      obtain ⟨consumed, rfl⟩ := exists_ok_of_isOk (List.all_eq_true.1 hsubmits.succeeds _ hmem)
      refine ⟨consumed, rfl, ?_⟩
      have hperformed := Except.ok.inj (Prod.mk.inj (Attempt.of_ok hexec)).1
      rw [← hperformed]
      have hconsumable : NonceTable.consumable row.nonce row = true := by
        simp [NonceTable.consumable, hrow.unused]
      exact List.ne_nil_of_mem (List.mem_map_of_mem (List.mem_filter.2 ⟨hmember, hconsumable⟩))
  refine ⟨hadmits, ?_⟩
  rcases hserves.answers_or_awaits with ⟨a, ha⟩ | hawaits
  · exact .inl (hadmits a ha ▸ ha)
  · obtain ⟨op, hreaches⟩ := Run.reaches hrun hawaits
    rw [hown] at hreaches
    exact .inr ⟨hawaits, (verifyChallenge_reaches hreaches).1⟩

end Runs

/-! ## Submissions that are refused -/

/-- What a thread has been asked to verify, and what it has come to. -/
def verified (c : (signIn rt env).Config) (i : Nat) :
    Option (Text × Text × (String ⊕ Address)) :=
  match c.answer? i with
  | some ⟨.verify message signature, .ok address⟩ => some (message, signature, .inr address)
  | some ⟨.verify message signature, .error reason⟩ => some (message, signature, .inl reason)
  | _ => none

theorem answers_of_verified {c : (signIn rt env).Config} {i : Nat} {message signature : Text}
    {answer : String ⊕ Address} (h : verified c i = some (message, signature, answer)) :
    c.Answers i (.verify message signature) (answer.elim .error .ok) := by
  unfold verified at h
  split at h
  next hanswer =>
      cases h
      exact Config.answers_of_answer? hanswer
  next hanswer =>
      cases h
      exact Config.answers_of_answer? hanswer
  · cases h

def SignInRequest.isVerify : SignInRequest → Bool
  | .issue _ => false
  | .verify _ _ => true

/-- Whether every insertion records the time of expiry. -/
def expires (expiresAt : Nat) (ts : List (signIn rt env).Transition) : Bool :=
  ts.all fun t =>
    match t.move with
    | .perform _ (.insertNonce row) _ => row.expiresAt.1 == expiresAt
    | _ => true

/-- Whether the clock is read before the given time. -/
def readsBefore (expiresAt : Nat) (log : List ((op : NonceOp) × op.Res)) : Bool :=
  log.all fun entry =>
    match entry with
    | ⟨.now, t⟩ => decide (t.1 < expiresAt)
    | _ => true

theorem lt_of_readsBefore {expiresAt : Nat} {log : List ((op : NonceOp) × op.Res)}
    (h : readsBefore expiresAt log = true) {t : TimeValue} (ht : ⟨.now, t⟩ ∈ log) :
    t.1 < expiresAt :=
  of_decide_eq_true (List.all_eq_true.1 h _ ht)

/-- A challenge that the first thread was issued and the second one was given. -/
theorem submits_of_threads {c c' : (signIn rt env).Config} {us : List (signIn rt env).Transition}
    (hpath : (signIn rt env).system.Path c us c') (hnew : c.threads.length = 1)
    (hthreads : (c'.threads.map fun th => SignInRequest.isVerify th.request) = [false, true])
    {challenge : IssuedChallenge} {signature : Text} {wallet : Address}
    (hserves : c'.Serves 1 (.verify challenge.message signature))
    (hsigned : rt.verifyMessage challenge.message signature = some wallet)
    (hsucceeds : ((ownLog 1 us).all fun entry => entry.1.succeeds entry.2) = true) :
    Submits c us c' 1 challenge signature wallet where
  path := hpath
  new := List.getElem?_eq_none_iff.2 hnew.le
  serves := hserves
  signed := hsigned
  once := by
    rintro j message' signature' ⟨rest, hrest⟩ -
    have hkind := congrArg (·[j]?) hthreads
    simp only [List.getElem?_map, hrest, Option.map_some, SignInRequest.isVerify] at hkind
    match j with
    | 0 => cases hkind
    | 1 => rfl
    | j + 2 => simp at hkind
  succeeds := hsucceeds

namespace Sample

theorem devEnv_legible : devEnv.Legible := by
  constructor <;> decide +kernel

theorem devRuntime_knows : devRuntime.Knows devWallet :=
  ⟨by decide +kernel, devText.drop 2, by decide +kernel, by decide +kernel⟩

/-- The wallet is issued a challenge, and signs it. -/
def issueCues (rt : SiweRuntime) (env : SiweEnv) (message : Text) :
    List (signInPlayer rt env).Cue :=
  [.arrive (.issue devText),
    .perform 0 0x000102030405060708090a0b0c0d0e0f#128, .perform 0 0#128, .perform 0 0#128,
    .outside (⟨1700000001000, signed_le⟩, [(devWallet, message)])]

/-- It submits the challenge. -/
def submitCues (rt : SiweRuntime) (env : SiweEnv) (message signature : Text) :
    List (signInPlayer rt env).Cue :=
  [.arrive (.verify message signature),
    .perform 1 0#128, .perform 1 0#128, .perform 1 0#128, .perform 1 0#128, .perform 1 0#128]

/-- What two scripts, one after the other, have to show: the challenge, what becomes of it, and the
    checks of `submits_of_threads` and of the times. -/
def rehearses (rt : SiweRuntime) (env : SiweEnv) (second : List (signInPlayer rt env).Cue)
    (challenge : IssuedChallenge) (signature : Text) (answer : String ⊕ Address)
    (timely : List (signIn rt env).Transition → Bool) : Bool :=
  ((signInPlayer rt env).play (idle (.fresh ⟨1700000000000, start_le⟩))
    (issueCues rt env challenge.message)).any fun (ts, c) =>
      ((signInPlayer rt env).play c second).any fun (us, c') =>
        challenged c 0 == some (devText, challenge) &&
          decide (verified c' 1 = some (challenge.message, signature, answer)) &&
          c.threads.length == 1 && expires 1700000300000 ts &&
          (c'.threads.map fun th => SignInRequest.isVerify th.request) == [false, true] &&
          ((ownLog 1 us).all fun entry => entry.1.succeeds entry.2) && timely us

theorem of_rehearses {rt : SiweRuntime} {env : SiweEnv} {second : List (signInPlayer rt env).Cue}
    {challenge : IssuedChallenge} {signature : Text} {answer : String ⊕ Address}
    {timely : List (signIn rt env).Transition → Bool}
    (h : rehearses rt env second challenge signature answer timely = true)
    (hsigned : rt.verifyMessage challenge.message signature = some devWallet) :
    ∃ ts us c c', (signIn rt env).Run (.fresh ⟨1700000000000, by decide⟩) ts c ∧
      c.Answers 0 (.issue devText) (.ok challenge) ∧ expires 1700000300000 ts = true ∧
      Submits c us c' 1 challenge signature devWallet ∧ timely us = true ∧
      c'.Answers 1 (.verify challenge.message signature) (answer.elim .error .ok) := by
  unfold rehearses at h
  obtain ⟨⟨ts, c⟩, hfirst, h⟩ := (Option.any_eq_true _ _).1 h
  obtain ⟨⟨us, c'⟩, hsecond, h⟩ := (Option.any_eq_true _ _).1 h
  simp only [Bool.and_eq_true, beq_iff_eq, decide_eq_true_eq] at h
  obtain ⟨⟨⟨⟨⟨⟨hissued, hverified⟩, hnew⟩, hexpires⟩, hthreads⟩, hsucceeds⟩, htimely⟩ := h
  have hanswers := answers_of_verified hverified
  exact ⟨ts, us, c, c', Player.play_path hfirst, answers_of_challenged hissued, hexpires,
    submits_of_threads (Player.play_path hsecond) hnew hthreads hanswers.serves hsigned hsucceeds,
    htimely, hanswers⟩

/-- The wallet is admitted. -/
theorem devWallet_admitted :
    ∃ (ts us : List (signIn devRuntime devEnv).Transition)
      (c c' : (signIn devRuntime devEnv).Config),
      (signIn devRuntime devEnv).Run (.fresh ⟨1700000000000, by decide⟩) ts c ∧
        c.Answers 0 (.issue devText) (.ok devChallenge) ∧
        Submits c us c' 1 devChallenge devSignature devWallet ∧
        c'.Answers 1 (.verify devChallenge.message devSignature) (.ok devWallet) ∧
        ∀ a, c'.Answers 1 (.verify devChallenge.message devSignature) a → a = .ok devWallet := by
  have hplay : rehearses devRuntime devEnv (submitCues _ _ devMessage devSignature) devChallenge
      devSignature (.inr devWallet) (fun us => readsBefore 1700000300000 (ownLog 1 us)) := by
    decide +kernel
  obtain ⟨ts, us, c, c', hrun, hissued, hexpires, hsubmits, htimes, hanswers⟩ :=
    of_rehearses hplay (by decide +kernel)
  refine ⟨ts, us, c, c', hrun, hissued, hsubmits, hanswers, ?_⟩
  obtain ⟨row, -, -, -, ⟨u, hu, hinsert⟩, -, -, -, hadmits⟩ :=
    honest_sign_in hrun hissued (by decide +kernel) devRuntime_knows devEnv_legible
  have hexpiry : row.expiresAt.1 = 1700000300000 := by
    have hcheck := List.all_eq_true.1 hexpires u hu
    rw [hinsert] at hcheck
    exact beq_iff_eq.1 hcheck
  have hgetTime : devRuntime.getTime devChallenge.expiresAt = some (row.expiresAt.1 : Int) := by
    rw [hexpiry]
    decide +kernel
  refine (hadmits hgetTime us c' 1 devSignature hsubmits fun t ht => ?_).1
  rw [hexpiry]
  exact lt_of_readsBefore htimes (List.mem_of_mem_take ht)

/-! The domain is a label but for the blank. -/

def labelEnv : SiweEnv :=
  ⟨"Nonce:".toList, "http://localhost:3000".toList, ⟨31337, devChain_safe⟩⟩

def labelMessage : Text :=
  buildSiweMessage
    { domain := "Nonce:".toList
      address := devText
      statement := STATEMENT
      uri := "http://localhost:3000".toList
      chainId := ⟨31337, devChain_safe⟩
      nonce := "000102030405060708090a0b0c0d0e0f".toList
      issuedAt := "2023-11-14T22:13:20.000Z".toList
      expirationTime := "2023-11-14T22:18:20.000Z".toList }

def labelSignature : Text :=
  "0x".toList ++ (toHex 64 0x1f2816eca3d1f38e7acaf7e02aea54a7b8e758883cb3edce9b2c63682e797e81
    ++ toHex 66 0x44dce50224891db4007179abbb3eb754d15eca2d8d21ae1ea2102f293222a4dc1b)

def labelRuntime : SiweRuntime where
  getAddress s := if s = devText then some devWallet else none
  checksum _ := devText
  verifyMessage message signature :=
    if message = labelMessage ∧ signature = labelSignature then some devWallet else none
  getTime s := if s = "2023-11-14T22:18:20.000Z".toList then some 1700000300000 else none

def labelChallenge : IssuedChallenge :=
  ⟨"000102030405060708090a0b0c0d0e0f".toList, labelMessage, "2023-11-14T22:18:20.000Z".toList⟩

/-- While the call waits for the row, the challenge expires. -/
def lateCues : List (signInPlayer devRuntime devEnv).Cue :=
  [.arrive (.verify devMessage devSignature), .perform 1 0#128, .perform 1 0#128,
    .outside (⟨1700000300000, by decide⟩, []), .perform 1 0#128]

/-- Whether a message is submitted before the given time. -/
def arrivesBefore {rt : SiweRuntime} {env : SiweEnv} (expiresAt : Nat)
    (us : List (signIn rt env).Transition) : Bool :=
  us.any fun t =>
    match t.move with
    | .arrive (.verify _ _) => decide (SignInState.clock t.before.shared < expiresAt)
    | _ => false

/-- With a domain that ends where a label has its blank, and with a database that takes its time, an
    honest submission is refused. -/
theorem honest_refused :
    (3 ≤ utf16Length labelEnv.APP_DOMAIN ∧
      (∀ s ∈ [labelEnv.APP_DOMAIN, labelEnv.APP_ORIGIN],
        trimText s = s ∧ ∀ c ∈ s, isLineTerminator c = false) ∧
      (∀ label ∈ SIWE_LABELS, ¬label <+: labelEnv.APP_DOMAIN) ∧
      labelRuntime.Knows devWallet ∧
      ∃ (ts us : List (signIn labelRuntime labelEnv).Transition)
        (c c' : (signIn labelRuntime labelEnv).Config),
        (signIn labelRuntime labelEnv).Run (.fresh ⟨1700000000000, by decide⟩) ts c ∧
          c.Answers 0 (.issue devText) (.ok labelChallenge) ∧
          Submits c us c' 1 labelChallenge labelSignature devWallet ∧
          readsBefore 1700000300000 (ownLog 1 us) = true ∧
          (parseSiweMessage labelChallenge.message).map (·.nonce) ≠ some labelChallenge.nonce ∧
          c'.Answers 1 (.verify labelChallenge.message labelSignature)
            (.error "Unknown or already-used sign-in request")) ∧
    ∃ (ts us : List (signIn devRuntime devEnv).Transition)
      (c c' : (signIn devRuntime devEnv).Config),
      (signIn devRuntime devEnv).Run (.fresh ⟨1700000000000, by decide⟩) ts c ∧
        c.Answers 0 (.issue devText) (.ok devChallenge) ∧
        Submits c us c' 1 devChallenge devSignature devWallet ∧
        arrivesBefore 1700000300000 us = true ∧
        c'.Answers 1 (.verify devChallenge.message devSignature)
          (.error "Sign-in request expired. Please try again.") := by
  constructor
  · have hplay : rehearses labelRuntime labelEnv
        ((submitCues _ _ labelMessage labelSignature).take 3) labelChallenge labelSignature
        (.inl "Unknown or already-used sign-in request")
        (fun us => readsBefore 1700000300000 (ownLog 1 us)) := by decide +kernel
    obtain ⟨ts, us, c, c', hrun, hissued, -, hsubmits, htimes, hanswers⟩ :=
      of_rehearses hplay (by decide +kernel)
    exact ⟨by decide +kernel, by decide +kernel, by decide +kernel,
      ⟨by decide +kernel, devText.drop 2, by decide +kernel, by decide +kernel⟩, ts, us, c, c',
      hrun, hissued, hsubmits, htimes, by decide +kernel, hanswers⟩
  · have hplay : rehearses devRuntime devEnv lateCues devChallenge devSignature
        (.inl "Sign-in request expired. Please try again.") (arrivesBefore 1700000300000) := by
      decide +kernel
    obtain ⟨ts, us, c, c', hrun, hissued, -, hsubmits, htimes, hanswers⟩ :=
      of_rehearses hplay (by decide +kernel)
    exact ⟨ts, us, c, c', hrun, hissued, hsubmits, htimes, hanswers⟩

end Sample

end OwneX
