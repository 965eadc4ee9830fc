import OwneX.Platform.Callbacks

set_option autoImplicit false

/-! # The compared form of a callback

A callback is compared as `scheme://host[:port]/path` in lower case. Two URLs with the same form
have the same scheme and the same host, so that the transport rules treat them alike, and the
registered callback that was matched is accepted in place of the one that matched it. This rests on
what the URL standard says about the parts of a URL (`StandardParser`). -/

namespace OwneX

open Js

/-- What the URL standard says about the `http` and `https` URLs that a parser makes: a colon in the
    host is part of an address in brackets. -/
structure StandardParser (parse : Text → Option Url) : Prop where
  slash : ∀ {s url}, parse s = some url → isHttp url = true → '/' ∉ url.hostname
  colon : ∀ {s url}, parse s = some url → isHttp url = true → ':' ∈ url.hostname →
    url.hostname.getLast? = some ']'
  port : ∀ {s url}, parse s = some url → isHttp url = true → ∀ c ∈ url.port, c.isDigit = true
  pathname : ∀ {s url}, parse s = some url → isHttp url = true → url.pathname.head? = some '/'

/-! ## Lower case -/

/-- Only letters are changed. -/
theorem eq_of_toLower {c d : Char} (hd : d.toNat < 97) (h : c.toLower = d) : c = d := by
  unfold Char.toLower at h
  split at h
  next hupper =>
      exfalso
      have hlow : 65 ≤ c.val.toNat := hupper.1
      have hhigh : c.val.toNat ≤ 90 := hupper.2
      have hval : d.toNat = (c.val + ('a'.val - 'A'.val)).toNat := by rw [← h]; rfl
      rw [UInt32.toNat_add] at hval
      have hdiff : ('a'.val - 'A'.val).toNat = 32 := by decide
      omega
  · exact h

theorem mem_of_mem_lowerAscii {s : Text} {d : Char} (hd : d.toNat < 97)
    (h : d ∈ lowerAscii s) : d ∈ s := by
  obtain ⟨c, hc, hlower⟩ := List.mem_map.1 h
  exact eq_of_toLower hd hlower ▸ hc

theorem lowerAscii_append (s t : Text) : lowerAscii (s ++ t) = lowerAscii s ++ lowerAscii t :=
  List.map_append

/-! ## Two URLs with one form -/

/-- What is left of a path starts with a slash, if anything is left. -/
theorem takeWhile_dropTrailingSlashes {pathname : Text} (h : pathname.head? = some '/') :
    (dropTrailingSlashes pathname).takeWhile (· ≠ '/') = [] := by
  have hstart : dropTrailingSlashes pathname <+: pathname.reverse.reverse :=
    List.reverse_prefix.2 (List.dropWhile_suffix _)
  rw [List.reverse_reverse] at hstart
  obtain ⟨rest, hsplit⟩ := hstart
  cases hkept : dropTrailingSlashes pathname with
  | nil => rfl
  | cons c kept =>
      rw [hkept] at hsplit
      rw [← hsplit, List.cons_append, List.head?_cons, Option.some.injEq] at h
      simp [h]

/-- Before the path. -/
theorem host_inj {host host' path path' : Text} (hhost : '/' ∉ host) (hhost' : '/' ∉ host')
    (hpath : path.takeWhile (· ≠ '/') = []) (hpath' : path'.takeWhile (· ≠ '/') = [])
    (h : host ++ path = host' ++ path') : host = host' := by
  have hall : ∀ {host : Text}, '/' ∉ host → ∀ c ∈ host, decide (c ≠ '/') = true :=
    fun hno c hc => decide_eq_true fun heq => hno (heq ▸ hc)
  have htake := congrArg (List.takeWhile (· ≠ '/')) h
  rwa [List.takeWhile_append_of_pos (hall hhost), List.takeWhile_append_of_pos (hall hhost'),
    hpath, hpath', List.append_nil, List.append_nil] at htake

/-- The parts of a URL that are compared and looked at. -/
structure Url.Parts (url : Url) : Prop where
  protocol : isHttp url = true
  slash : '/' ∉ url.hostname
  colon : ':' ∈ url.hostname → url.hostname.getLast? = some ']'
  port : ∀ c ∈ url.port, c.isDigit = true
  pathname : url.pathname.head? = some '/'

namespace Url

variable {url url' : Url}

theorem slash_notMem_host (h : url.Parts) : '/' ∉ lowerAscii url.host := by
  intro hmem
  have hslash := mem_of_mem_lowerAscii (by decide) hmem
  unfold host at hslash
  split at hslash
  · exact h.slash hslash
  · rcases List.mem_append.1 hslash with hhost | hport
    · exact h.slash hhost
    · rcases List.mem_cons.1 hport with heq | hport
      · exact absurd heq (by decide)
      · exact absurd (h.port _ hport) (by decide)

theorem colon_notMem_port (h : url.Parts) : ':' ∉ lowerAscii url.port := by
  intro hmem
  exact absurd (h.port _ (mem_of_mem_lowerAscii (by decide) hmem)) (by decide)

/-- A host name does not end with a port. -/
theorem hostname_ne_port (h : url.Parts) (h' : url'.Parts) (hport : url'.port ≠ []) :
    lowerAscii url.hostname ≠ lowerAscii (url'.hostname ++ ':' :: url'.port) := by
  intro heq
  have hcolon : ':' ∈ lowerAscii url.hostname := by
    rw [heq, lowerAscii_append]
    exact List.mem_append_right _ List.mem_cons_self
  have hbracket : (lowerAscii url.hostname).getLast? = some ']' := by
    rw [lowerAscii, List.getLast?_map, h.colon (mem_of_mem_lowerAscii (by decide) hcolon)]
    rfl
  obtain ⟨digits, last, hsplit⟩ := (List.eq_nil_or_concat url'.port).resolve_left hport
  rw [List.concat_eq_append] at hsplit
  have hlast : (lowerAscii (url'.hostname ++ ':' :: url'.port)).getLast? = some last.toLower := by
    rw [lowerAscii, List.getLast?_map, hsplit, ← List.cons_append,
      ← List.append_assoc, List.getLast?_append]
    simp
  rw [heq, hlast, Option.some.injEq] at hbracket
  have hdigit : last.isDigit = true :=
    h'.port last (hsplit ▸ List.mem_append_right _ (List.mem_singleton_self last))
  rw [eq_of_toLower (by decide) hbracket] at hdigit
  exact absurd hdigit (by decide)

/-- The host says what the host name is. -/
theorem hostname_inj (h : url.Parts) (h' : url'.Parts)
    (hhost : lowerAscii url.host = lowerAscii url'.host) :
    lowerAscii url.hostname = lowerAscii url'.hostname := by
  unfold host at hhost
  split at hhost
  · split at hhost
    · exact hhost
    next hport => exact absurd hhost (hostname_ne_port h h' hport)
  next hport =>
      split at hhost
      · exact absurd hhost.symm (hostname_ne_port h' h hport)
      · -- Both end with a port, which holds no colon.
        rw [lowerAscii_append, lowerAscii_append] at hhost
        have hreversed := congrArg List.reverse hhost
        simp only [lowerAscii, List.map_cons, List.reverse_append, List.reverse_cons,
          List.append_assoc, List.singleton_append] at hreversed
        have hcolon : Char.toLower ':' = ':' := by decide
        rw [hcolon] at hreversed
        have htake := congrArg (List.dropWhile (· ≠ ':')) hreversed
        have hall : ∀ {url : Url}, url.Parts → ∀ c ∈ (url.port.map Char.toLower).reverse,
            decide (c ≠ ':') = true := fun hparts c hc =>
          decide_eq_true fun heq => colon_notMem_port hparts (heq ▸ List.mem_reverse.1 hc)
        rw [List.dropWhile_append_of_pos (hall h), List.dropWhile_append_of_pos (hall h')] at htake
        simpa [lowerAscii] using htake

end Url

/-- The form that is compared. -/
def Url.form (url : Url) : Text :=
  url.protocol ++ '/' :: '/' :: lowerAscii url.host ++ dropTrailingSlashes url.pathname

theorem isHttp_iff {url : Url} :
    isHttp url = true ↔ url.protocol = "http:".toList ∨ url.protocol = "https:".toList := by
  simp [isHttp]

/-- One form, one scheme and one host name. -/
theorem form_inj {url url' : Url} (h : url.Parts) (h' : url'.Parts) (hform : url.form = url'.form) :
    url.protocol = url'.protocol ∧ lowerAscii url.hostname = lowerAscii url'.hostname := by
  have hprotocol : url.protocol = url'.protocol := by
    unfold Url.form at hform
    rcases isHttp_iff.1 h.protocol with hp | hp <;> rcases isHttp_iff.1 h'.protocol with hp' | hp'
    · rw [hp, hp']
    · rw [hp, hp'] at hform
      simp at hform
    · rw [hp, hp'] at hform
      simp at hform
    · rw [hp, hp']
  unfold Url.form at hform
  rw [hprotocol, List.append_assoc, List.append_assoc] at hform
  have hrest := List.append_cancel_left hform
  simp only [List.cons_append, List.cons.injEq, true_and] at hrest
  refine ⟨hprotocol, Url.hostname_inj h h' ?_⟩
  exact host_inj (Url.slash_notMem_host h) (Url.slash_notMem_host h')
    (takeWhile_dropTrailingSlashes h.pathname) (takeWhile_dropTrailingSlashes h'.pathname) hrest

/-- The transport rules look at the scheme and at the host name in lower case. -/
theorem checkTransport_congr {url url' : Url} (mode : CallbackMode)
    (hprotocol : url.protocol = url'.protocol)
    (hhostname : lowerAscii url.hostname = lowerAscii url'.hostname) :
    checkTransport url mode = checkTransport url' mode := by
  unfold checkTransport isLoopbackHost
  rw [hprotocol, hhostname]

/-! ## The registered callback -/

section Registered

variable {parse : Text → Option Url}

/-- A URL in its compared form. -/
theorem canonicalizeCallback_parts (hparse : StandardParser parse) {uri form : Text} {url : Url}
    (h : canonicalizeCallback parse uri = some (url, form)) : url.Parts ∧ form = url.form := by
  unfold canonicalizeCallback at h
  split at h
  · cases h
  next raw hraw =>
      simp only at h
      split at h
      · cases h
      next hhttp =>
          have hhttp : isHttp raw = true := by simpa using hhttp
          cases h
          have hslash : '/' ∉ raw.hostname := hparse.slash hraw hhttp
          have hcolon : ':' ∈ raw.hostname → raw.hostname.getLast? = some ']' :=
            hparse.colon hraw hhttp
          have hpathname : raw.pathname.head? = some '/' := hparse.pathname hraw hhttp
          refine ⟨⟨hhttp, hslash, hcolon, ?_, hpathname⟩, rfl⟩
          intro c hc
          simp only at hc
          generalize (if raw.protocol = "https:".toList then "443".toList else "80".toList) =
            defaultPort at hc
          split at hc
          · cases hc
          · exact hparse.port hraw hhttp c hc

/-- The registered callback that a URI matched is accepted in its place. -/
theorem checkCallback_registered (hparse : StandardParser parse) {app : CallbackSubject}
    {uri normalized registered : Text} {mode : CallbackMode}
    (h : checkCallback parse (some app) (some uri) mode = .ok (normalized, registered))
    (hlength : utf16Length registered ≤ MAX_CALLBACK_LENGTH) :
    checkCallback parse (some app) (some registered) mode = .ok (normalized, registered) := by
  obtain ⟨hstatus, requested, candidate, -, -, -, hcanonical, htransport, hfound⟩ :=
    checkCallback_ok_iff.1 h
  have hmatches := List.find?_some hfound
  have hnonempty : trimText registered ≠ [] := by
    simpa using (List.mem_filter.1 (List.mem_of_find?_eq_some hfound)).2
  split at hmatches
  · cases hmatches
  next pinned hpinned =>
      obtain ⟨pinned, form⟩ := pinned
      obtain rfl : form = normalized := by simpa using hmatches
      obtain ⟨hparts, hform⟩ := canonicalizeCallback_parts hparse hcanonical
      obtain ⟨hparts', hform'⟩ := canonicalizeCallback_parts hparse hpinned
      obtain ⟨hprotocol, hhostname⟩ := form_inj hparts hparts' (hform.symm.trans hform')
      refine checkCallback_ok_iff.2 ⟨hstatus, registered, pinned, rfl, hnonempty, hlength, hpinned,
        ?_, hfound⟩
      rw [← checkTransport_congr mode hprotocol hhostname]
      exact htransport

end Registered

end OwneX
