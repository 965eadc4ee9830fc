import OwneX.Library.JsCodePoints
import OwneX.Platform.ApplicationTables
import OwneX.Platform.CallbackGrammar

set_option autoImplicit false

/-! # Callbacks that can be registered

A callback is looked at three times: when it is registered, when it is stored and when a sign-in
asks for it. What may be registered is what sign-in accepts. The check of the database reads the
text and not the URL: it wants the scheme in lower case with two slashes behind it, and no white
space, question mark or number sign anywhere, and a text column holds neither lone surrogates nor
`U+0000`. The URL parser changes such texts without a word, so that they may be registered and then
cannot be stored. -/

namespace OwneX

open Js

/-- What the URL parser reads of a string. -/
def asText (s : Str) : Text :=
  s.toWellFormed.toList

theorem asText_trim (s : Str) : asText s.trim = trimText (asText s) := by
  have hspace : isWhitespace ∘ CodePoint.toScalar = CodePoint.isWhitespace := by
    funext p
    cases p with
    | scalar c => rfl
    | surrogate n =>
        show isWhitespace '\uFFFD' = false
        decide
  unfold asText trimText Str.trim Str.toWellFormed Str.trimPoints
  simp only [String.toList_ofList, List.dropWhile_map, hspace, ← List.map_reverse]

theorem utf16Length_trimText_le (s : Text) : utf16Length (trimText s) ≤ utf16Length s := by
  have hback : trimText s <+: s.dropWhile isWhitespace := List.rdropWhile_prefix ..
  obtain ⟨front, hfront⟩ := List.dropWhile_suffix (l := s) isWhitespace
  obtain ⟨back, hback⟩ := hback
  have hsplit : s = front ++ (trimText s ++ back) := by rw [hback, hfront]
  have hlength := congrArg utf16Length hsplit
  rw [utf16Length_append, utf16Length_append] at hlength
  omega

/-- A text column with the check of `application_callbacks` holds the string. -/
structure Storable (s : Str) : Prop where
  wellFormed : s.isWellFormed = true
  noNull : '\x00' ∉ asText s
  check : isStorableCallback (asText s) = true

/-- `http://` or `https://` and then something without white space, question mark, number sign or
    `U+0000`. -/
def PlainCallback (s : Text) : Prop :=
  ∃ rest, (s = "http://".toList ++ rest ∨ s = "https://".toList ++ rest) ∧ rest ≠ [] ∧
    ∀ c ∈ rest, isSpace c = false ∧ c ≠ '?' ∧ c ≠ '#' ∧ c ≠ '\x00'

theorem after?_eq_some_iff {start s rest : Text} :
    after? start s = some rest ↔ s = start ++ rest := by
  unfold after?
  split
  next hstart =>
      obtain ⟨rest', rfl⟩ := List.isPrefixOf_iff_prefix.1 hstart
      simp
  next hstart =>
      refine iff_of_false (by simp) ?_
      rintro rfl
      exact hstart (List.isPrefixOf_iff_prefix.2 (List.prefix_append _ _))

theorem isHttpText_iff {allowed : Char → Bool} {s : Text} :
    isHttpText allowed s = true ↔
      ∃ rest, (s = "http://".toList ++ rest ∨ s = "https://".toList ++ rest) ∧ rest ≠ [] ∧
        ∀ c ∈ rest, allowed c = true := by
  unfold isHttpText
  simp only [List.any_cons, List.any_nil, Bool.or_false, Bool.or_eq_true, Option.any_eq_true,
    after?_eq_some_iff, Bool.and_eq_true, bne_iff_ne, List.all_eq_true]
  constructor
  · rintro (⟨rest, hs, hrest⟩ | ⟨rest, hs, hrest⟩)
    · exact ⟨rest, .inl hs, hrest⟩
    · exact ⟨rest, .inr hs, hrest⟩
  · rintro ⟨rest, hs | hs, hrest⟩
    · exact .inl ⟨rest, hs, hrest⟩
    · exact .inr ⟨rest, hs, hrest⟩

/-- The lengths that the check asks for follow from the rest of it. -/
theorem isStorableCallback_iff {s : Text} (h : utf16Length s ≤ MAX_CALLBACK_LENGTH) :
    isStorableCallback s = true ↔
      ∃ rest, (s = "http://".toList ++ rest ∨ s = "https://".toList ++ rest) ∧ rest ≠ [] ∧
        ∀ c ∈ rest, isSpace c = false ∧ c ≠ '?' ∧ c ≠ '#' := by
  have hlong : s.length ≤ 2048 := (length_le_utf16Length s).trans h
  unfold isStorableCallback
  rw [Bool.and_eq_true, Bool.and_eq_true, isHttpText_iff]
  simp only [hlong, decide_true, and_true, decide_eq_true_eq, Bool.and_eq_true,
    Bool.not_eq_true', bne_iff_ne, and_assoc]
  refine ⟨fun hboth => hboth.1, fun hplain => ⟨hplain, ?_⟩⟩
  obtain ⟨rest, hs, hrest, -⟩ := hplain
  have hpos : 0 < rest.length := List.length_pos_iff.2 hrest
  rcases hs with rfl | rfl
  · simpa using Nat.succ_le_of_lt hpos
  · simp

/-- The two schemes are free of `U+0000`. -/
theorem notMem_null_iff {s rest : Text}
    (h : s = "http://".toList ++ rest ∨ s = "https://".toList ++ rest) :
    '\x00' ∉ s ↔ '\x00' ∉ rest := by
  have hschemes : '\x00' ∉ "http://".toList ∧ '\x00' ∉ "https://".toList := by decide
  rcases h with rfl | rfl
  · simp only [List.mem_append, hschemes.1, false_or]
  · simp only [List.mem_append, hschemes.2, false_or]

theorem storable_iff {s : Str} (h : utf16Length (asText s) ≤ MAX_CALLBACK_LENGTH) :
    Storable s ↔ s.isWellFormed = true ∧ PlainCallback (asText s) := by
  constructor
  · rintro ⟨hwell, hnull, hcheck⟩
    obtain ⟨rest, hs, hne, hrest⟩ := (isStorableCallback_iff h).1 hcheck
    have hrestNull := (notMem_null_iff hs).1 hnull
    refine ⟨hwell, rest, hs, hne, fun c hc => ?_⟩
    obtain ⟨hspace, hquestion, hnumber⟩ := hrest c hc
    exact ⟨hspace, hquestion, hnumber, fun heq => hrestNull (heq ▸ hc)⟩
  · rintro ⟨hwell, rest, hs, hne, hrest⟩
    refine ⟨hwell, (notMem_null_iff hs).2 fun hmem => (hrest _ hmem).2.2.2 rfl, ?_⟩
    refine (isStorableCallback_iff h).2 ⟨rest, hs, hne, fun c hc => ?_⟩
    obtain ⟨hspace, hquestion, hnumber, -⟩ := hrest c hc
    exact ⟨hspace, hquestion, hnumber⟩

section Registrable

variable {parse : Text → Option Url}

/-- The URL of a text that may be registered. -/
structure Registrable (parse : Text → Option Url) (mode : CallbackMode) (text : Text) (url : Url) :
    Prop where
  nonempty : trimText text ≠ []
  length : utf16Length text ≤ MAX_CALLBACK_LENGTH
  parses : parse (trimText text) = some url
  http : isHttp url = true
  search : url.search = []
  hash : url.hash = []
  transport : checkTransport url mode = none

theorem readHttp_of_registrable {mode : CallbackMode} {text : Text} {url : Url}
    (h : Registrable parse mode text url) : readHttp parse text = some url := by
  unfold readHttp
  rw [h.parses, Option.filter_some, if_pos h.http]

/-- What may be registered, and its compared form. -/
theorem validateRegistrableCallback_ok_iff {text : Text} {mode : CallbackMode}
    {normalized : Text} :
    validateRegistrableCallback parse text mode = .ok normalized ↔
      ∃ url, Registrable parse mode text url ∧ normalized = url.stripped.form := by
  constructor
  · intro h
    unfold validateRegistrableCallback at h
    split at h
    · cases h
    next hnonempty =>
    split at h
    · cases h
    next hlength =>
    dsimp only at h
    split at h
    · cases h
    next url hparses =>
    split at h
    · cases h
    next hhttp =>
    split at h
    · cases h
    next hparams =>
    split at h
    · cases h
    next htransport =>
    have hhttp : isHttp url = true := by simpa using hhttp
    have hnone : url.search = [] ∧ url.hash = [] := by simpa using hparams
    have hregistrable : Registrable parse mode text url :=
      ⟨hnonempty, Nat.le_of_not_lt hlength, hparses, hhttp, hnone.1, hnone.2, htransport⟩
    rw [canonicalizeCallback_eq, readHttp, trimText_trimText, ← readHttp,
      readHttp_of_registrable hregistrable] at h
    exact ⟨url, hregistrable, (Except.ok.inj h).symm⟩
  · rintro ⟨url, h, rfl⟩
    have hcanonical : canonicalizeCallback parse (trimText text) =
        some (url.stripped, url.stripped.form) := by
      rw [canonicalizeCallback_eq, readHttp, trimText_trimText, ← readHttp,
        readHttp_of_registrable h]
      rfl
    unfold validateRegistrableCallback
    simp only [if_neg h.nonempty, if_neg (Nat.not_lt.2 h.length), h.parses, h.http, h.search,
      h.hash, h.transport, hcanonical]
    rfl

/-- What may be registered is accepted once it is stored. -/
theorem checkCallback_of_registrable {mode : CallbackMode} {text : Text} {url : Url}
    (h : Registrable parse mode text url) {app : CallbackSubject} (hstatus : app.status ≠ .revoked)
    (hstored : trimText text ∈ app.callbacks) :
    ∃ registered,
      checkCallback parse (some app) (some text) mode = .ok (url.stripped.form, registered) ∧
        (canonicalizeCallback parse registered).map (·.2) = some url.stripped.form := by
  have hcanonical : ∀ uri, trimText uri = trimText text →
      canonicalizeCallback parse uri = some (url.stripped, url.stripped.form) := by
    intro uri huri
    rw [canonicalizeCallback_eq, readHttp, huri, ← readHttp, readHttp_of_registrable h]
    rfl
  -- The callback itself matches, if none before it does.
  obtain ⟨registered, hfound⟩ : ∃ registered, findRegistered parse url.stripped.form
      (app.callbacks.filter fun value => trimText value ≠ []) = some registered := by
    rw [← Option.isSome_iff_exists, findRegistered, List.find?_isSome]
    refine ⟨trimText text, List.mem_filter.2 ⟨hstored, ?_⟩, ?_⟩
    · rw [trimText_trimText]
      exact decide_eq_true h.nonempty
    · rw [hcanonical _ (trimText_trimText text)]
      exact beq_self_eq_true _
  refine ⟨registered, checkCallback_ok_iff.2 ⟨hstatus, text, url.stripped, rfl, h.nonempty,
    h.length, hcanonical text rfl, h.transport, hfound⟩, ?_⟩
  have hmatches := List.find?_some hfound
  split at hmatches
  · cases hmatches
  next pinned hpinned =>
      rw [hpinned]
      exact congrArg some (by simpa using hmatches)

end Registrable

/-- What may be registered can be stored, and is then accepted and compared as what it is, exactly
    where it is written with its scheme in lower case and two slashes, without white space, question
    marks and number signs, and without lone surrogates and `U+0000`. -/
theorem registrable_storable_iff (parse : Text → Option Url) (s : Str) (mode : CallbackMode) :
    (∀ normalized, validateRegistrableCallback parse (asText s) mode = .ok normalized →
      Storable s.trim ∧
        ∀ app : CallbackSubject, app.status ≠ .revoked → asText s.trim ∈ app.callbacks →
          ∃ registered,
            checkCallback parse (some app) (some (asText s)) mode = .ok (normalized, registered) ∧
              (canonicalizeCallback parse registered).map (·.2) = some normalized) ↔
      ∀ url, Registrable parse mode (asText s) url →
        s.trim.isWellFormed = true ∧ PlainCallback (asText s.trim) := by
  have hlength : ∀ url, Registrable parse mode (asText s) url →
      utf16Length (asText s.trim) ≤ MAX_CALLBACK_LENGTH := by
    intro url h
    rw [asText_trim]
    exact (utf16Length_trimText_le _).trans h.length
  constructor
  · intro hall url h
    obtain ⟨hstorable, -⟩ := hall _ (validateRegistrableCallback_ok_iff.2 ⟨url, h, rfl⟩)
    exact (storable_iff (hlength url h)).1 hstorable
  · intro hplain normalized hok
    obtain ⟨url, h, rfl⟩ := validateRegistrableCallback_ok_iff.1 hok
    refine ⟨(storable_iff (hlength url h)).2 (hplain url h), fun app hstatus hstored => ?_⟩
    rw [asText_trim] at hstored
    exact checkCallback_of_registrable h hstatus hstored

/-! ## A scheme in upper case -/

namespace Sample

def shouted : Str := .ofString "HTTPS://portal.example/callback"

/-- A parser that writes schemes in lower case. -/
def shoutedParse (s : Text) : Option Url :=
  if s = "HTTPS://portal.example/callback".toList then some (slashUrl "/callback".toList) else none

/-- The callback may be registered, and the database refuses it. -/
theorem shouted_registrable :
    ¬ ∀ (parse : Text → Option Url) (s : Str) (mode : CallbackMode) (normalized : Text),
      validateRegistrableCallback parse (asText s) mode = .ok normalized → Storable s.trim := by
  intro hall
  have hok : validateRegistrableCallback shoutedParse (asText shouted) .production =
      .ok "https://portal.example/callback".toList := by decide +kernel
  have hrefused : isStorableCallback (asText shouted.trim) = false := by decide +kernel
  have hstorable := (hall _ _ _ _ hok).check
  rw [hrefused] at hstorable
  cases hstorable

end Sample

end OwneX
