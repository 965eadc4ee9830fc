import OwneX.Library.UrlParsing
import OwneX.Platform.Callbacks

set_option autoImplicit false

/-! # Resuming after sign-in

`signIn` of `components/wallet/wallet-provider.tsx` goes on to the `returnTo` of the page, if that is
a path of the same origin. Whether it is one is read off the first two characters. The browser
drops tabs and line breaks before it reads any, so a tab can hide a second slash from the guard, and
behind two slashes stands a host. -/

namespace OwneX

open Js

/-- The page that signs in. -/
structure Page where
  url : Url
  http : isHttp url = true

def Page.origin (page : Page) : Origin where
  protocol := page.url.protocol
  hostname := page.url.hostname
  port := page.url.port

section Resume

variable (parseHost : Text → Option Text) (page : Page)

def authorizePath : Text := "/authorize".toList

/-- `startsWith("/") && !startsWith("//") && !startsWith("/\\")` -/
def startsWithOneSlash (returnTo : Text) : Bool :=
  "/".toList.isPrefixOf returnTo && !"//".toList.isPrefixOf returnTo &&
    !"/\\".toList.isPrefixOf returnTo

/-- What the browser makes of it on this page. -/
def navigate (returnTo : Text) : Option Target :=
  resolveSlash parseHost page.origin returnTo

/-- Whether `signIn` goes on to `returnTo`. Where `new URL(..)` throws, it does not. -/
def resumes (returnTo : Option Text) : Bool :=
  returnTo.any fun returnTo =>
    returnTo != [] && startsWithOneSlash returnTo &&
      (resolveSlash parseHost page.origin returnTo).any (·.pathname == authorizePath)

end Resume

theorem startsWithOneSlash_iff {returnTo : Text} :
    startsWithOneSlash returnTo = true ↔
      ∃ rest, returnTo = '/' :: rest ∧ ∀ c, rest.head? = some c → isSlash c = false := by
  cases returnTo with
  | nil => simp [startsWithOneSlash]
  | cons first rest =>
      by_cases hfirst : first = '/'
      · subst hfirst
        cases rest with
        | nil => simp [startsWithOneSlash]
        | cons c rest =>
            have hone : startsWithOneSlash ('/' :: c :: rest) = !isSlash c := by
              have hfront : startsWithOneSlash ('/' :: c :: rest) =
                  (!('/' == c) && !('\\' == c)) := by
                simp [startsWithOneSlash, List.isPrefixOf]
              rw [hfront, isSlash, Bool.not_or, BEq.comm (a := c), BEq.comm (a := c)]
            rw [hone]
            simp
      · simp [startsWithOneSlash, List.isPrefixOf, hfirst, Ne.symm hfirst]

theorem isSlash_of_isTabOrNewline {c : Char} (h : isTabOrNewline c = true) : isSlash c = false := by
  by_contra hslash
  rw [Bool.not_eq_false, isSlash, Bool.or_eq_true, beq_iff_eq, beq_iff_eq] at hslash
  rcases hslash with rfl | rfl
  · exact absurd h (by decide)
  · exact absurd h (by decide)

/-- What `signIn` goes on to. -/
theorem resumes_iff {parseHost : Text → Option Text} {page : Page} {returnTo : Text} :
    resumes parseHost page (some returnTo) = true ↔
      startsWithOneSlash returnTo = true ∧
        ∃ target, navigate parseHost page returnTo = some target ∧
          target.pathname = authorizePath := by
  unfold resumes navigate
  simp only [Option.any_some, Bool.and_eq_true, bne_iff_ne, Option.any_eq_true, beq_iff_eq]
  refine ⟨fun h => ⟨h.1.2, h.2⟩, fun h => ⟨⟨?_, h.1⟩, h.2⟩⟩
  obtain ⟨rest, rfl, -⟩ := startsWithOneSlash_iff.1 h.1
  simp

/-- `signIn` stays on the page's own origin exactly where no tab or line break hides a second slash
    with another host and the path `/authorize` behind it. -/
theorem resume_same_origin_iff (parseHost : Text → Option Text) (page : Page) (returnTo : Text) :
    (resumes parseHost page (some returnTo) = true →
      ∃ target, navigate parseHost page returnTo = some target ∧ target.origin = page.origin ∧
        target.pathname = authorizePath) ↔
      ∀ blank rest c rest', returnTo = '/' :: blank :: rest → isTabOrNewline blank = true →
        stripInput returnTo = '/' :: c :: rest' → isSlash c = true →
        ∀ target, resolveAuthority parseHost page.origin.protocol rest' = some target →
          target.pathname = authorizePath → target.origin = page.origin := by
  have hresolve : ∀ {c : Char} {rest' : Text}, stripInput returnTo = '/' :: c :: rest' →
      isSlash c = true → navigate parseHost page returnTo =
        resolveAuthority parseHost page.origin.protocol rest' := by
    intro c rest' hstrip hc
    unfold navigate resolveSlash
    rw [hstrip]
    simp only [hc, if_true]
  constructor
  · rintro hstays blank rest c rest' rfl hblank hstrip hc target htarget hpathname
    have hslash : isSlash blank = false := isSlash_of_isTabOrNewline hblank
    have hstarts : startsWithOneSlash ('/' :: blank :: rest) = true :=
      startsWithOneSlash_iff.2 ⟨_, rfl, fun d hd => by rwa [← Option.some.inj hd]⟩
    have hnavigate := (hresolve hstrip hc).trans htarget
    obtain ⟨target', htarget', horigin, -⟩ :=
      hstays (resumes_iff.2 ⟨hstarts, target, hnavigate, hpathname⟩)
    rwa [Option.some.inj (hnavigate.symm.trans htarget')]
  · intro hcondition hresumes
    obtain ⟨hstarts, target, htarget, hpathname⟩ := resumes_iff.1 hresumes
    refine ⟨target, htarget, ?_, hpathname⟩
    obtain ⟨rest, rfl, hrest⟩ := startsWithOneSlash_iff.1 hstarts
    have hresolved := htarget
    unfold navigate resolveSlash at hresolved
    split at hresolved
    next c rest' hstrip =>
        split at hresolved
        next hc =>
            obtain ⟨blank, rest'', rfl, hblank⟩ := blank_of_stripInput hstrip hc hrest
            exact hcondition blank rest'' c rest' rfl hblank hstrip hc target hresolved hpathname
        · rw [← Option.some.inj hresolved]
    · rw [← Option.some.inj hresolved]
    · cases hresolved

/-! ## A tab -/

namespace Sample

def ownexPage : Page where
  url := ⟨"https:".toList, [], [], "ownex.example".toList, [], "/".toList, [], []⟩
  http := by decide

def tabbed : Text := "/\t/evil.example/authorize".toList

/-- The browser leaves for another host. -/
theorem tabbed_resumes :
    ¬ ∀ (parseHost : Text → Option Text) (page : Page) (returnTo : Text),
      resumes parseHost page (some returnTo) = true →
        ∃ target, navigate parseHost page returnTo = some target ∧ target.origin = page.origin ∧
          target.pathname = authorizePath := by
  intro hall
  have hresumes : resumes some ownexPage (some tabbed) = true := by decide +kernel
  have hnavigate : (navigate some ownexPage tabbed).map (·.origin.hostname) =
      some "evil.example".toList := by decide +kernel
  obtain ⟨target, htarget, horigin, -⟩ := hall some ownexPage tabbed hresumes
  rw [htarget, Option.map_some, horigin] at hnavigate
  exact absurd (Option.some.inj hnavigate) (by decide)

end Sample

end OwneX
