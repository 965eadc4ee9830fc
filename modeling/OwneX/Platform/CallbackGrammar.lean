import OwneX.Platform.CallbackForms

set_option autoImplicit false

/-! # The rules for a `redirect_uri`

The rules that `lib/callback-allowlist.ts` writes down ask for an active application and for a
registered callback that is the URI itself, up to case, the default port, the query, the fragment
and one trailing slash. What the code compares is less than that: a draft will do for an application,
user information is not looked at, and any number of trailing slashes is dropped. So it accepts what
the rules accept, and more. White space around a URI is not part of it. -/

namespace OwneX

open Js

/-! ## Two URLs compared -/

namespace Url

def defaultPort (url : Url) : Text :=
  if url.protocol = "https:".toList then "443".toList else "80".toList

/-- The port, unless it is that of the scheme. -/
def explicitPort (url : Url) : Text :=
  if url.port = url.defaultPort then [] else url.port

/-- What is left of a URL that is compared. -/
def stripped (url : Url) : Url :=
  { url with port := url.explicitPort, search := [], hash := [] }

/-- One trailing slash less. -/
def dropTrailingSlash (pathname : Text) : Text :=
  if pathname.getLast? = some '/' then pathname.dropLast else pathname

/-- The URLs are one callback by the rules. -/
structure SameCallback (url url' : Url) : Prop where
  protocol : lowerAscii url.protocol = lowerAscii url'.protocol
  username : url.username = url'.username
  password : url.password = url'.password
  hostname : lowerAscii url.hostname = lowerAscii url'.hostname
  port : url.explicitPort = url'.explicitPort
  pathname : dropTrailingSlash url.pathname = dropTrailingSlash url'.pathname

/-- The URLs differ in user information and in trailing slashes at most. -/
structure SameDestination (url url' : Url) : Prop where
  protocol : url.protocol = url'.protocol
  hostname : lowerAscii url.hostname = lowerAscii url'.hostname
  port : url.explicitPort = url'.explicitPort
  pathname : dropTrailingSlashes url.pathname = dropTrailingSlashes url'.pathname

theorem dropTrailingSlashes_dropTrailingSlash (pathname : Text) :
    dropTrailingSlashes (dropTrailingSlash pathname) = dropTrailingSlashes pathname := by
  unfold dropTrailingSlash
  split
  next hlast =>
      obtain ⟨front, rfl⟩ := List.getLast?_eq_some_iff.1 hlast
      simp [dropTrailingSlashes]
  · rfl

variable {url url' : Url}

theorem SameCallback.destination (h : url.SameCallback url') (hhttp : isHttp url = true)
    (hhttp' : isHttp url' = true) : url.SameDestination url' where
  protocol := by
    have hlower : ∀ {url : Url}, isHttp url = true → lowerAscii url.protocol = url.protocol := by
      intro url hhttp
      rcases isHttp_iff.1 hhttp with hp | hp <;> rw [hp] <;> decide
    rw [← hlower hhttp, ← hlower hhttp', h.protocol]
  hostname := h.hostname
  port := h.port
  pathname := by
    rw [← dropTrailingSlashes_dropTrailingSlash, h.pathname,
      dropTrailingSlashes_dropTrailingSlash]

/-- Digits have no case. -/
theorem lowerAscii_digits {s : Text} (h : ∀ c ∈ s, c.isDigit = true) : lowerAscii s = s := by
  refine (List.map_congr_left fun c hc => ?_).trans (List.map_id s)
  have hdigit := h c hc
  simp only [Char.isDigit, Bool.and_eq_true, decide_eq_true_eq] at hdigit
  have hhigh : c.val.toNat ≤ 57 := hdigit.2
  unfold Char.toLower
  split
  next hupper =>
      have hlow : 65 ≤ c.val.toNat := hupper.1
      omega
  · rfl

/-- Hosts of one host name have one port. -/
theorem port_inj (h : url.Parts) (h' : url'.Parts)
    (hhostname : lowerAscii url.hostname = lowerAscii url'.hostname)
    (hhost : lowerAscii url.host = lowerAscii url'.host) : url.port = url'.port := by
  unfold host at hhost
  split at hhost
  next hnone =>
      split at hhost
      next hnone' => rw [hnone, hnone']
      · rw [lowerAscii_append, hhostname] at hhost
        exact absurd (congrArg List.length hhost) (by simp [lowerAscii])
  · split at hhost
    · rw [lowerAscii_append, hhostname] at hhost
      exact absurd (congrArg List.length hhost) (by simp [lowerAscii])
    · rw [lowerAscii_append, lowerAscii_append, hhostname] at hhost
      have hports := List.append_cancel_left hhost
      have hports : lowerAscii url.port = lowerAscii url'.port := (List.cons.inj hports).2
      rwa [lowerAscii_digits h.port, lowerAscii_digits h'.port] at hports

/-- What the compared form says. -/
theorem form_eq_iff (h : url.stripped.Parts) (h' : url'.stripped.Parts) :
    url.stripped.form = url'.stripped.form ↔ url.SameDestination url' := by
  constructor
  · intro hform
    obtain ⟨hprotocol, hhostname⟩ := form_inj h h' hform
    have hrest := hform
    unfold form at hrest
    rw [hprotocol, List.append_assoc, List.append_assoc] at hrest
    have hrest := List.append_cancel_left hrest
    simp only [List.cons_append, List.cons.injEq, true_and] at hrest
    have hhost := host_inj (slash_notMem_host h) (slash_notMem_host h')
      (takeWhile_dropTrailingSlashes h.pathname) (takeWhile_dropTrailingSlashes h'.pathname) hrest
    rw [hhost] at hrest
    exact ⟨hprotocol, hhostname, port_inj h h' hhostname hhost, List.append_cancel_left hrest⟩
  · intro hsame
    have hhost : lowerAscii url.stripped.host = lowerAscii url'.stripped.host := by
      unfold host stripped
      simp only [hsame.port]
      split
      · exact hsame.hostname
      · rw [lowerAscii_append, lowerAscii_append, hsame.hostname]
    have hpathname : dropTrailingSlashes url.stripped.pathname =
        dropTrailingSlashes url'.stripped.pathname := hsame.pathname
    have hprotocol : url.stripped.protocol = url'.stripped.protocol := hsame.protocol
    unfold form
    rw [hprotocol, hhost, hpathname]

end Url

/-! ## Acceptance -/

section Grammar

variable {parse : Text → Option Url}

/-- An absolute URL of one of the two schemes. -/
def readHttp (parse : Text → Option Url) (uri : Text) : Option Url :=
  (parse (trimText uri)).filter isHttp

theorem canonicalizeCallback_eq (uri : Text) :
    canonicalizeCallback parse uri =
      (readHttp parse uri).map fun url => (url.stripped, url.stripped.form) := by
  unfold canonicalizeCallback readHttp
  cases parse (trimText uri) with
  | none => rfl
  | some url =>
      cases hhttp : isHttp url with
      | false => simp [hhttp]
      | true =>
          simp only [hhttp, Option.filter_some, if_true, Option.map_some]
          rfl

/-- `https`, unless the host is loopback, which is for development. -/
def TransportAllowed (url : Url) (mode : CallbackMode) : Prop :=
  if isLoopbackHost url.hostname then mode = .development else url.protocol = "https:".toList

theorem checkTransport_eq_none_iff {url : Url} {mode : CallbackMode} :
    checkTransport url mode = none ↔ TransportAllowed url mode := by
  unfold checkTransport TransportAllowed
  split
  · cases mode <;> simp
  · split
    next hhttps => exact iff_of_true rfl hhttps
    next hhttps => exact iff_of_false (by simp) hhttps

/-- The URI could be answered at. -/
structure Answerable (parse : Text → Option Url) (mode : CallbackMode) (uri : Text) (url : Url) :
    Prop where
  length : utf16Length uri ≤ MAX_CALLBACK_LENGTH
  reads : readHttp parse uri = some url
  transport : TransportAllowed url mode

/-- A registered callback that the URL is compared with and found the same. -/
def Registered (parse : Text → Option Url) (same : Url → Url → Prop) (callbacks : List Text)
    (url : Url) : Prop :=
  ∃ entry ∈ callbacks, ∃ url', readHttp parse entry = some url' ∧ same url url'

/-- The URI is accepted by the rules. -/
def Documented (parse : Text → Option Url) (application : Option CallbackSubject)
    (uri : Option Text) (mode : CallbackMode) : Prop :=
  ∃ app requested url, application = some app ∧ uri = some requested ∧ app.status = .active ∧
    Answerable parse mode requested url ∧ Registered parse Url.SameCallback app.callbacks url

theorem readHttp_isHttp {uri : Text} {url : Url} (h : readHttp parse uri = some url) :
    isHttp url = true :=
  (Option.filter_eq_some_iff.1 h).2

theorem readHttp_parts (hparse : StandardParser parse) {uri : Text} {url : Url}
    (h : readHttp parse uri = some url) : url.stripped.Parts := by
  have hcanonical : canonicalizeCallback parse uri = some (url.stripped, url.stripped.form) := by
    rw [canonicalizeCallback_eq, h]
    rfl
  exact (canonicalizeCallback_parts hparse hcanonical).1

theorem trimText_ne_nil (hempty : parse [] = none) {uri : Text} {url : Url}
    (h : readHttp parse uri = some url) : trimText uri ≠ [] := by
  intro hnil
  rw [readHttp, hnil, hempty] at h
  cases h

/-- Some registered callback has the compared form. -/
theorem findRegistered_isSome_iff (hparse : StandardParser parse) (hempty : parse [] = none)
    {uri : Text} {url : Url} (h : readHttp parse uri = some url) {callbacks : List Text} :
    (∃ entry, findRegistered parse url.stripped.form
        (callbacks.filter fun value => trimText value ≠ []) = some entry) ↔
      Registered parse Url.SameDestination callbacks url := by
  have hmatches : ∀ entry, (findRegistered parse url.stripped.form [entry]).isSome = true ↔
      ∃ url', readHttp parse entry = some url' ∧ url.SameDestination url' := by
    intro entry
    rw [findRegistered, List.find?_isSome]
    simp only [List.mem_singleton, exists_eq_left]
    rw [canonicalizeCallback_eq]
    cases hentry : readHttp parse entry with
    | none => simp
    | some url' =>
        simp only [Option.map_some, beq_iff_eq, Option.some.injEq, exists_eq_left']
        rw [eq_comm]
        exact Url.form_eq_iff (readHttp_parts hparse h) (readHttp_parts hparse hentry)
  simp only [findRegistered, List.find?_isSome, List.mem_singleton, exists_eq_left] at hmatches
  rw [← Option.isSome_iff_exists, findRegistered, List.find?_isSome]
  constructor
  · rintro ⟨entry, hmem, hmatch⟩
    exact ⟨entry, (List.mem_filter.1 hmem).1, (hmatches entry).1 hmatch⟩
  · rintro ⟨entry, hmem, url', hentry, hsame⟩
    have hnonempty := trimText_ne_nil hempty hentry
    exact ⟨entry, List.mem_filter.2 ⟨hmem, decide_eq_true hnonempty⟩,
      (hmatches entry).2 ⟨url', hentry, hsame⟩⟩

/-- What the code accepts. -/
theorem checkCallback_accepts_iff (hparse : StandardParser parse) (hempty : parse [] = none)
    {application : Option CallbackSubject} {uri : Option Text} {mode : CallbackMode} :
    (∃ result, checkCallback parse application uri mode = .ok result) ↔
      ∃ app requested url, application = some app ∧ uri = some requested ∧
        app.status ≠ .revoked ∧ Answerable parse mode requested url ∧
        Registered parse Url.SameDestination app.callbacks url := by
  constructor
  · rintro ⟨⟨normalized, registered⟩, hok⟩
    cases application with
    | none => cases hok
    | some app =>
        obtain ⟨hstatus, requested, candidate, rfl, -, hlength, hcanonical, htransport, hfound⟩ :=
          checkCallback_ok_iff.1 hok
        rw [canonicalizeCallback_eq] at hcanonical
        obtain ⟨url, hreads, heq⟩ := Option.map_eq_some_iff.1 hcanonical
        obtain ⟨rfl, rfl⟩ := Prod.mk.inj heq
        have hallowed : TransportAllowed url mode := checkTransport_eq_none_iff.1 htransport
        exact ⟨app, requested, url, rfl, rfl, hstatus, ⟨hlength, hreads, hallowed⟩,
          (findRegistered_isSome_iff hparse hempty hreads).1 ⟨registered, hfound⟩⟩
  · rintro ⟨app, requested, url, rfl, rfl, hstatus, hanswerable, hregistered⟩
    have hreads := hanswerable.reads
    obtain ⟨entry, hfound⟩ := (findRegistered_isSome_iff hparse hempty hreads).2 hregistered
    have htransport : checkTransport url.stripped mode = none :=
      checkTransport_eq_none_iff.2 hanswerable.transport
    have hcanonical : canonicalizeCallback parse requested =
        some (url.stripped, url.stripped.form) := by
      rw [canonicalizeCallback_eq, hreads]
      rfl
    exact ⟨(url.stripped.form, entry), checkCallback_ok_iff.2 ⟨hstatus, requested, url.stripped,
      rfl, trimText_ne_nil hempty hreads, hanswerable.length, hcanonical, htransport, hfound⟩⟩

/-- What the rules accept, the code accepts. -/
theorem accepts_of_documented (hparse : StandardParser parse) (hempty : parse [] = none)
    {application : Option CallbackSubject} {uri : Option Text} {mode : CallbackMode}
    (h : Documented parse application uri mode) :
    ∃ result, checkCallback parse application uri mode = .ok result := by
  obtain ⟨app, requested, url, happ, huri, hactive, hanswerable, entry, hmem, url', hentry,
    hsame⟩ := h
  refine (checkCallback_accepts_iff hparse hempty).2
    ⟨app, requested, url, happ, huri, by simp [hactive], hanswerable, entry, hmem, url', hentry, ?_⟩
  exact hsame.destination (readHttp_isHttp hanswerable.reads) (readHttp_isHttp hentry)

end Grammar

/-- The code accepts just what the rules accept, and answers one of the callbacks of the
    application, exactly where a URI that could be answered at and is registered up to user
    information and trailing slashes is registered as it is, and the application is no draft. -/
theorem checkCallback_documented_iff {parse : Text → Option Url} (hparse : StandardParser parse)
    (hempty : parse [] = none) (application : Option CallbackSubject) (uri : Option Text)
    (mode : CallbackMode) :
    (((∃ result, checkCallback parse application uri mode = .ok result) ↔
        Documented parse application uri mode) ∧
      ∀ normalized registered,
        checkCallback parse application uri mode = .ok (normalized, registered) →
          ∃ app, application = some app ∧ registered ∈ app.callbacks) ↔
      ∀ app requested url, application = some app → uri = some requested →
        app.status ≠ .revoked → Answerable parse mode requested url →
        Registered parse Url.SameDestination app.callbacks url →
          app.status = .active ∧ Registered parse Url.SameCallback app.callbacks url := by
  constructor
  · rintro ⟨hiff, -⟩ app requested url rfl rfl hstatus hanswerable hregistered
    obtain ⟨app', requested', url', happ, huri, hactive, hanswerable', hregistered'⟩ :=
      hiff.1 ((checkCallback_accepts_iff hparse hempty).2
        ⟨app, requested, url, rfl, rfl, hstatus, hanswerable, hregistered⟩)
    obtain rfl := Option.some.inj happ
    obtain rfl := Option.some.inj huri
    obtain rfl := Option.some.inj (hanswerable.reads.symm.trans hanswerable'.reads)
    exact ⟨hactive, hregistered'⟩
  · intro hcondition
    refine ⟨⟨fun haccepts => ?_, accepts_of_documented hparse hempty⟩, ?_⟩
    · obtain ⟨app, requested, url, happ, huri, hstatus, hanswerable, hregistered⟩ :=
        (checkCallback_accepts_iff hparse hempty).1 haccepts
      obtain ⟨hactive, hsame⟩ :=
        hcondition app requested url happ huri hstatus hanswerable hregistered
      exact ⟨app, requested, url, happ, huri, hactive, hanswerable, hsame⟩
    · intro normalized registered hok
      cases application with
      | none => cases hok
      | some app => exact ⟨app, rfl, (checkCallback_ok hok).2⟩

/-! ## Two slashes -/

namespace Sample

def slashUrl (pathname : Text) : Url where
  protocol := "https:".toList
  username := []
  password := []
  hostname := "portal.example".toList
  port := []
  pathname
  search := []
  hash := []

def slashed (pathname : String) : Text := "https://portal.example".toList ++ pathname.toList

/-- A parser that knows a callback with and without two slashes behind it. -/
def slashParse (s : Text) : Option Url :=
  if s = slashed "/callback" then some (slashUrl "/callback".toList)
  else if s = slashed "/callback//" then some (slashUrl "/callback//".toList)
  else none

theorem slashParse_eq {s : Text} {url : Url} (h : slashParse s = some url) :
    url = slashUrl "/callback".toList ∨ url = slashUrl "/callback//".toList := by
  unfold slashParse at h
  split at h
  · exact .inl (Option.some.inj h).symm
  · split at h
    · exact .inr (Option.some.inj h).symm
    · cases h

theorem standardParser_slash : StandardParser slashParse := by
  refine ⟨?_, ?_, ?_, ?_⟩
  · intro s url h _
    rcases slashParse_eq h with rfl | rfl <;> decide
  · intro s url h _ hcolon
    rcases slashParse_eq h with rfl | rfl <;> exact absurd hcolon (by decide)
  · intro s url h _ c hc
    rcases slashParse_eq h with rfl | rfl <;> cases hc
  · intro s url h _
    rcases slashParse_eq h with rfl | rfl <;> rfl

def slashApp : CallbackSubject := ⟨.active, [slashed "/callback"]⟩

/-- The registered callback itself is accepted by the rules and by the code. -/
theorem slash_documented :
    ((∃ result, checkCallback slashParse (some slashApp) (some (slashed "/callback"))
        .production = .ok result) ↔
      Documented slashParse (some slashApp) (some (slashed "/callback")) .production) ∧
    ∀ normalized registered,
      checkCallback slashParse (some slashApp) (some (slashed "/callback")) .production =
        .ok (normalized, registered) →
      ∃ app, some slashApp = some app ∧ registered ∈ app.callbacks := by
  refine (checkCallback_documented_iff standardParser_slash (by decide +kernel) _ _ _).2 ?_
  rintro app requested url happ huri - hanswerable -
  obtain rfl := Option.some.inj happ
  obtain rfl := Option.some.inj huri
  exact ⟨rfl, slashed "/callback", List.mem_singleton_self _, url, hanswerable.reads,
    rfl, rfl, rfl, rfl, rfl, rfl⟩

/-- The code drops both slashes, and the rules one. -/
theorem slashes_accepted :
    ¬ ∀ (parse : Text → Option Url), StandardParser parse → parse [] = none →
      ∀ (application : Option CallbackSubject) (uri : Option Text) (mode : CallbackMode),
        (∃ result, checkCallback parse application uri mode = .ok result) ↔
          Documented parse application uri mode := by
  intro hall
  obtain ⟨app, requested, url, happ, huri, -, hanswerable, entry, hentry, url', hreads, hsame⟩ :=
    (hall slashParse standardParser_slash (by decide +kernel) (some slashApp)
      (some (slashed "/callback//")) .production).1 ⟨_, rfl⟩
  obtain rfl := Option.some.inj happ
  obtain rfl := Option.some.inj huri
  obtain rfl := List.mem_singleton.1 hentry
  have hslashed : readHttp slashParse (slashed "/callback//") =
      some (slashUrl "/callback//".toList) := by decide +kernel
  have hplain : readHttp slashParse (slashed "/callback") =
      some (slashUrl "/callback".toList) := by decide +kernel
  obtain rfl := Option.some.inj (hslashed.symm.trans hanswerable.reads)
  obtain rfl := Option.some.inj (hplain.symm.trans hreads)
  exact absurd hsame.pathname (by decide)

end Sample

end OwneX
