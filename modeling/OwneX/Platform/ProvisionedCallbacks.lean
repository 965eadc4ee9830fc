import OwneX.Platform.RegistrableCallbacks

set_option autoImplicit false

/-! # The callbacks of `scripts/provision-app.mjs`

The script that sets up an integration from the command line has a copy of the rules for callbacks.
The copy does not measure a callback, has fewer spellings of the loopback host and gives the parser
the text with the white space around it. So there are callbacks that only the script lets through
and callbacks that only the server does, and a list is judged alike where it has none of either
kind, or both, or one that neither lets through. -/

namespace OwneX

open Js

/-! ## The script -/

def LOOPBACK : List Text :=
  ["localhost", "127.0.0.1", "[::1]", "::1"].map String.toList

/-- What the script has to say against a callback. -/
def complaint? (parse : Text → Option Url) (callback : Str) : Option String :=
  let told := fun what : String =>
    some ("Callback \"" ++ String.ofList (asText callback) ++ "\" " ++ what)
  match parse (asText callback) with
  | none => told "is not an absolute URL."
  | some parsed =>
      if parsed.protocol ≠ "http:".toList ∧ parsed.protocol ≠ "https:".toList then
        told "must use http or https."
      else if parsed.search ≠ [] ∨ parsed.hash ≠ [] then
        told "must not contain a query string or fragment."
      else if parsed.hostname ∉ LOOPBACK ∧ parsed.protocol ≠ "https:".toList then
        told "must use https because it is not on localhost."
      else none

/-- The first complaint ends the run. -/
def validateCallbacks (parse : Text → Option Url) : List Str → Except String Unit
  | [] => .ok ()
  | callback :: rest =>
      match complaint? parse callback with
      | some message => .error message
      | none => validateCallbacks parse rest

/-! ## What both ask of a callback -/

namespace Url

/-- The URL could be a callback in development. -/
structure Usable (url : Url) : Prop where
  http : isHttp url = true
  search : url.search = []
  hash : url.hash = []
  transport : TransportAllowed url .development

/-- The URL would need a loopback host, and the script does not know its host as one. -/
def Unlisted (url : Url) : Prop :=
  url.protocol ≠ "https:".toList ∧ url.hostname ∉ LOOPBACK

theorem isLoopbackHost_of_mem {hostname : Text} (h : hostname ∈ LOOPBACK) :
    isLoopbackHost hostname = true := by
  have hall : ∀ host ∈ LOOPBACK, isLoopbackHost host = true := by decide
  exact hall hostname h

theorem TransportAllowed_of_listed {url : Url} (h : ¬url.Unlisted) :
    TransportAllowed url .development := by
  unfold TransportAllowed
  split
  · rfl
  next hremote =>
      by_contra hplain
      refine h ⟨hplain, fun hmem => hremote (isLoopbackHost_of_mem hmem)⟩

end Url

section Provisioned

variable {parse : Text → Option Url}

/-- What becomes of white space around an input that is read: it is dropped, or it belongs to the
    path, the query or the fragment. -/
structure SparesBlanks (parse : Text → Option Url) : Prop where
  empty : parse [] = none
  trimmed : ∀ s url, parse s = some url → isHttp url = true →
    ∃ url', parse (trimText s) = some url' ∧ url'.protocol = url.protocol ∧
      url'.hostname = url.hostname ∧ (url.search = [] → url'.search = []) ∧
      (url.hash = [] → url'.hash = [])

theorem complaint?_eq_none_iff {callback : Str} :
    complaint? parse callback = none ↔
      ∃ url, parse (asText callback) = some url ∧ url.Usable ∧ ¬url.Unlisted := by
  unfold complaint?
  cases parse (asText callback) with
  | none => simp
  | some parsed =>
      simp only [Option.some.injEq, exists_eq_left']
      split
      next hscheme =>
          refine iff_of_false (by simp) fun hurl => ?_
          rcases isHttp_iff.1 hurl.1.http with hp | hp
          · exact hscheme.1 hp
          · exact hscheme.2 hp
      next hscheme =>
      split
      next hparams =>
          refine iff_of_false (by simp) fun hurl => ?_
          exact hparams.elim (· hurl.1.search) (· hurl.1.hash)
      next hparams =>
      split
      next hunlisted => exact iff_of_false (by simp) fun hurl => hurl.2 ⟨hunlisted.2, hunlisted.1⟩
      next hlisted =>
          have hhttp : isHttp parsed = true := by
            by_contra hother
            exact hscheme ⟨fun hp => hother (isHttp_iff.2 (.inl hp)),
              fun hp => hother (isHttp_iff.2 (.inr hp))⟩
          have hnone : parsed.search = [] ∧ parsed.hash = [] := by simpa using hparams
          have hlisted : ¬parsed.Unlisted := fun h => hlisted ⟨h.2, h.1⟩
          exact iff_of_true rfl ⟨⟨hhttp, hnone.1, hnone.2, Url.TransportAllowed_of_listed hlisted⟩,
            hlisted⟩

/-- The run goes on exactly when there is no complaint. -/
theorem validateCallbacks_ok_iff {callbacks : List Str} :
    validateCallbacks parse callbacks = .ok () ↔
      ∀ callback ∈ callbacks, complaint? parse callback = none := by
  induction callbacks with
  | nil => simp [validateCallbacks]
  | cons callback rest ih =>
      cases hcomplaint : complaint? parse callback with
      | none => simp [validateCallbacks, hcomplaint, ih]
      | some message => simp [validateCallbacks, hcomplaint]

theorem validateRegistrableCallback_accepts_iff (hparse : SparesBlanks parse) {callback : Str} :
    (∃ normalized,
        validateRegistrableCallback parse (asText callback) .development = .ok normalized) ↔
      utf16Length (asText callback) ≤ MAX_CALLBACK_LENGTH ∧
        ∃ url, parse (trimText (asText callback)) = some url ∧ url.Usable := by
  constructor
  · intro ⟨normalized, hok⟩
    obtain ⟨url, h, -⟩ := validateRegistrableCallback_ok_iff.1 hok
    exact ⟨h.length, url, h.parses, h.http, h.search, h.hash,
      checkTransport_eq_none_iff.1 h.transport⟩
  · intro ⟨hlength, url, hparses, h⟩
    refine ⟨_, validateRegistrableCallback_ok_iff.2 ⟨url, ⟨?_, hlength, hparses, h.http, h.search,
      h.hash, checkTransport_eq_none_iff.2 h.transport⟩, rfl⟩⟩
    intro hnil
    rw [hnil, hparse.empty] at hparses
    cases hparses

/-! ## Where the copies differ -/

/-- Only the script lets the callback through: it is too long. -/
def Overlong (parse : Text → Option Url) (callback : Str) : Prop :=
  MAX_CALLBACK_LENGTH < utf16Length (asText callback) ∧
    ∃ url, parse (asText callback) = some url ∧ url.Usable ∧ ¬url.Unlisted

/-- Only the server lets the callback through: the script does not know the loopback host, or reads
    no callback in the text with the white space around it. -/
def Unmirrored (parse : Text → Option Url) (callback : Str) : Prop :=
  utf16Length (asText callback) ≤ MAX_CALLBACK_LENGTH ∧
    ∃ url, parse (trimText (asText callback)) = some url ∧ url.Usable ∧
      (url.Unlisted ∨ ∀ url', parse (asText callback) = some url' → ¬url'.Usable)

/-- Neither lets the callback through: it is none, or too long and not known to the script. -/
def Hopeless (parse : Text → Option Url) (callback : Str) : Prop :=
  (∀ url, parse (trimText (asText callback)) = some url → ¬url.Usable) ∨
    MAX_CALLBACK_LENGTH < utf16Length (asText callback) ∧
      ∀ url, parse (asText callback) = some url → url.Usable → url.Unlisted

/-- A callback stays one without the white space around it, at the same host. -/
theorem SparesBlanks.usable (hparse : SparesBlanks parse) {s : Text} {url : Url}
    (h : parse s = some url) (husable : url.Usable) :
    ∃ url', parse (trimText s) = some url' ∧ url'.Usable ∧ (url'.Unlisted ↔ url.Unlisted) := by
  obtain ⟨url', hreads, hprotocol, hhostname, hsearch, hhash⟩ := hparse.trimmed s url h husable.http
  refine ⟨url', hreads, ⟨?_, hsearch husable.search, hhash husable.hash, ?_⟩, ?_⟩
  · rw [isHttp_iff, hprotocol]
    exact isHttp_iff.1 husable.http
  · unfold TransportAllowed
    rw [hprotocol, hhostname]
    exact husable.transport
  · unfold Url.Unlisted
    rw [hprotocol, hhostname]

theorem overlong_iff (hparse : SparesBlanks parse) {callback : Str} :
    Overlong parse callback ↔ complaint? parse callback = none ∧ ¬∃ normalized,
      validateRegistrableCallback parse (asText callback) .development = .ok normalized := by
  rw [complaint?_eq_none_iff, validateRegistrableCallback_accepts_iff hparse]
  constructor
  · intro ⟨hlong, hscript⟩
    exact ⟨hscript, fun hserver => Nat.not_lt.2 hserver.1 hlong⟩
  · intro ⟨hscript, hserver⟩
    refine ⟨Nat.lt_of_not_le fun hlength => hserver ⟨hlength, ?_⟩, hscript⟩
    obtain ⟨url, hreads, husable, -⟩ := hscript
    obtain ⟨url', hreads', husable', -⟩ := hparse.usable hreads husable
    exact ⟨url', hreads', husable'⟩

theorem unmirrored_iff (hparse : SparesBlanks parse) {callback : Str} :
    Unmirrored parse callback ↔ complaint? parse callback ≠ none ∧ ∃ normalized,
      validateRegistrableCallback parse (asText callback) .development = .ok normalized := by
  rw [ne_eq, complaint?_eq_none_iff, validateRegistrableCallback_accepts_iff hparse]
  constructor
  · intro ⟨hlength, url, hreads, husable, hkind⟩
    refine ⟨?_, hlength, url, hreads, husable⟩
    rintro ⟨url', hreads', husable', hlisted⟩
    rcases hkind with hunlisted | hblanks
    · obtain ⟨url'', hreads'', -, hsame⟩ := hparse.usable hreads' husable'
      obtain rfl := Option.some.inj (hreads.symm.trans hreads'')
      exact hlisted (hsame.1 hunlisted)
    · exact hblanks url' hreads' husable'
  · intro ⟨hscript, hlength, url, hreads, husable⟩
    refine ⟨hlength, url, hreads, husable, or_iff_not_imp_left.2 ?_⟩
    intro hlisted url' hreads' husable'
    obtain ⟨url'', hreads'', -, hsame⟩ := hparse.usable hreads' husable'
    obtain rfl := Option.some.inj (hreads.symm.trans hreads'')
    exact hscript ⟨url', hreads', husable', fun h => hlisted (hsame.2 h)⟩

theorem hopeless_iff (hparse : SparesBlanks parse) {callback : Str} :
    Hopeless parse callback ↔ complaint? parse callback ≠ none ∧ ¬∃ normalized,
      validateRegistrableCallback parse (asText callback) .development = .ok normalized := by
  rw [ne_eq, complaint?_eq_none_iff, validateRegistrableCallback_accepts_iff hparse]
  constructor
  · rintro (hnone | ⟨hlong, hunlisted⟩)
    · refine ⟨?_, fun ⟨_, url, hreads, husable⟩ => hnone url hreads husable⟩
      rintro ⟨url, hreads, husable, -⟩
      obtain ⟨url', hreads', husable', -⟩ := hparse.usable hreads husable
      exact hnone url' hreads' husable'
    · refine ⟨?_, fun hserver => Nat.not_lt.2 hserver.1 hlong⟩
      rintro ⟨url, hreads, husable, hlisted⟩
      exact hlisted (hunlisted url hreads husable)
  · intro ⟨hscript, hserver⟩
    by_cases hlong : MAX_CALLBACK_LENGTH < utf16Length (asText callback)
    · refine .inr ⟨hlong, fun url hreads husable => ?_⟩
      by_contra hlisted
      exact hscript ⟨url, hreads, husable, hlisted⟩
    · exact .inl fun url hreads husable => hserver ⟨Nat.le_of_not_lt hlong, url, hreads, husable⟩

end Provisioned

/-- Two judgements of a list agree where one of its members fails both, or where the kinds that fail
    just one are both there or both not. -/
theorem forall_mem_iff_forall_mem {α : Type} {P Q : α → Prop} {l : List α} :
    ((∀ x ∈ l, P x) ↔ ∀ x ∈ l, Q x) ↔
      (∃ x ∈ l, ¬P x ∧ ¬Q x) ∨ ((∃ x ∈ l, P x ∧ ¬Q x) ↔ ∃ x ∈ l, ¬P x ∧ Q x) := by
  constructor
  · intro hagree
    by_cases hboth : ∀ x ∈ l, P x
    · have hboth' := hagree.1 hboth
      refine .inr (iff_of_false ?_ ?_)
      · rintro ⟨x, hx, -, hnot⟩
        exact hnot (hboth' x hx)
      · rintro ⟨x, hx, hnot, -⟩
        exact hnot (hboth x hx)
    · have hboth' : ¬∀ x ∈ l, Q x := fun h => hboth (hagree.2 h)
      push Not at hboth hboth'
      obtain ⟨x, hx, hxP⟩ := hboth
      obtain ⟨y, hy, hyQ⟩ := hboth'
      by_cases hxQ : Q x
      · by_cases hyP : P y
        · exact .inr (iff_of_true ⟨y, hy, hyP, hyQ⟩ ⟨x, hx, hxP, hxQ⟩)
        · exact .inl ⟨y, hy, hyP, hyQ⟩
      · exact .inl ⟨x, hx, hxP, hxQ⟩
  · rintro (⟨x, hx, hxP, hxQ⟩ | hkinds)
    · exact iff_of_false (fun h => hxP (h x hx)) fun h => hxQ (h x hx)
    · constructor
      · intro hall x hx
        by_contra hxQ
        obtain ⟨y, hy, hyP, -⟩ := hkinds.1 ⟨x, hx, hall x hx, hxQ⟩
        exact hyP (hall y hy)
      · intro hall x hx
        by_contra hxP
        obtain ⟨y, hy, -, hyQ⟩ := hkinds.2 ⟨x, hx, hxP, hall x hx⟩
        exact hyQ (hall y hy)

/-- The script judges a list of callbacks like the server exactly where the list has a callback that
    neither lets through, or where it has one that is too long for the server only if it has one
    that the script does not know, and the other way round. -/
theorem validateCallbacks_mirrors_iff {parse : Text → Option Url} (hparse : SparesBlanks parse)
    (callbacks : List Str) :
    (validateCallbacks parse callbacks = .ok () ↔
      ∀ callback ∈ callbacks, ∃ normalized,
        validateRegistrableCallback parse (asText callback) .development = .ok normalized) ↔
      (∃ callback ∈ callbacks, Hopeless parse callback) ∨
        ((∃ callback ∈ callbacks, Overlong parse callback) ↔
          ∃ callback ∈ callbacks, Unmirrored parse callback) := by
  rw [validateCallbacks_ok_iff, forall_mem_iff_forall_mem]
  simp only [hopeless_iff hparse, overlong_iff hparse, unmirrored_iff hparse, ne_eq]

/-! ## All interfaces -/

namespace Sample

def localUrl (hostname : String) : Url where
  protocol := "http:".toList
  username := []
  password := []
  hostname := hostname.toList
  port := "3001".toList
  pathname := "/callback".toList
  search := []
  hash := []

/-- A parser that knows two callbacks of a local portal. -/
def localParse (s : Text) : Option Url :=
  if s = "http://localhost:3001/callback".toList then some (localUrl "localhost")
  else if s = "http://0.0.0.0:3001/callback".toList then some (localUrl "0.0.0.0")
  else none

theorem localParse_spares : SparesBlanks localParse := by
  refine ⟨by decide, fun s url h _ => ⟨url, ?_, rfl, rfl, id, id⟩⟩
  have htext : trimText s = s := by
    unfold localParse at h
    split at h
    next hs =>
        rw [hs]
        decide +kernel
    next =>
        split at h
        next hs =>
            rw [hs]
            decide +kernel
        · cases h
  rwa [htext]

/-- Both let the callback on `localhost` through. -/
theorem localhost_mirrored :
    validateCallbacks localParse [.ofString "http://localhost:3001/callback"] = .ok () ↔
      ∀ callback ∈ [Str.ofString "http://localhost:3001/callback"], ∃ normalized,
        validateRegistrableCallback localParse (asText callback) .development = .ok normalized := by
  refine (validateCallbacks_mirrors_iff localParse_spares _).2 (.inr (iff_of_false ?_ ?_))
  · rintro ⟨callback, hmem, hlong, -⟩
    obtain rfl := List.mem_singleton.1 hmem
    exact absurd hlong (by decide +kernel)
  · rintro ⟨callback, hmem, -, url, hreads, husable, hkind⟩
    obtain rfl := List.mem_singleton.1 hmem
    have hlocal : localParse (trimText (asText (.ofString "http://localhost:3001/callback"))) =
        some (localUrl "localhost") := by decide +kernel
    have hwritten : localParse (asText (.ofString "http://localhost:3001/callback")) =
        some (localUrl "localhost") := by decide +kernel
    obtain rfl := Option.some.inj (hlocal.symm.trans hreads)
    rcases hkind with hunlisted | hblanks
    · exact hunlisted.2 (by decide)
    · exact hblanks _ hwritten husable

/-- The server lets the callback on all interfaces through, and the script does not. -/
theorem interfaces_unmirrored :
    ¬ ∀ (parse : Text → Option Url), SparesBlanks parse → ∀ callbacks : List Str,
      validateCallbacks parse callbacks = .ok () ↔
        ∀ callback ∈ callbacks, ∃ normalized,
          validateRegistrableCallback parse (asText callback) .development = .ok normalized := by
  intro hall
  have hok : validateCallbacks localParse [.ofString "http://0.0.0.0:3001/callback"] = .ok () := by
    refine (hall localParse localParse_spares _).2 fun callback hmem => ?_
    obtain rfl := List.mem_singleton.1 hmem
    exact ⟨"http://0.0.0.0:3001/callback".toList, by decide +kernel⟩
  have hcomplaint := validateCallbacks_ok_iff.1 hok _ (List.mem_singleton_self _)
  have hsome : (complaint? localParse (.ofString "http://0.0.0.0:3001/callback")).isSome := by
    decide +kernel
  rw [hcomplaint] at hsome
  cases hsome

end Sample

end OwneX
