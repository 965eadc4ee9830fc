import OwneX.Library.UrlEncoded

set_option autoImplicit false

/-! # URLs that start with a slash

What the URL parser makes of an input that starts with a slash, against a base with one of the
schemes `http` and `https`. Tabs and line breaks are dropped before anything else is looked at. With
a second slash, or a backslash, what follows is a host; otherwise the host is that of the base. The
parser of hosts is a parameter. -/

namespace Js

/-! ## The input -/

def isTabOrNewline (c : Char) : Bool :=
  [9, 10, 13].contains c.toNat

/-- A control character or a space. -/
def isControlOrSpace (c : Char) : Bool :=
  decide (c.toNat ≤ 32)

/-- What is left of an input. -/
def stripInput (s : Text) : Text :=
  (((s.dropWhile isControlOrSpace).reverse.dropWhile isControlOrSpace).reverse).filter
    (!isTabOrNewline ·)

/-- Where the scheme is one of the two, a backslash is a slash. -/
def isSlash (c : Char) : Bool :=
  c == '/' || c == '\\'

/-- Where the authority ends, and where the path does. -/
def isDelimiter (c : Char) : Bool :=
  isSlash c || c == '?' || c == '#'

/-! ## Hosts and ports -/

/-- A scheme, a host and a port, which is empty for the default of the scheme. -/
structure Origin where
  protocol : Text
  hostname : Text
  port : Text
deriving DecidableEq

/-- The input up to the first colon that is not in brackets, and what comes behind that. -/
def splitPort : Bool → Text → Text × Option Text
  | _, [] => ([], none)
  | inside, c :: cs =>
      if c = ':' ∧ inside = false then ([], some cs)
      else
        let inside := if c = '[' then true else if c = ']' then false else inside
        let (host, port) := splitPort inside cs
        (c :: host, port)

/-- `none` for what is not a port. -/
def parsePort (protocol : Text) (port : Text) : Option Text :=
  if port = [] then some []
  else if port.all (isDigit 10) then
    let n := digitsValue 10 port
    if 65535 < n then none
    else if n = (if protocol = "https:".toList then 443 else 80) then some []
    else some n.repr.toList
  else none

/-- What stands behind the last `@`, if there is one. -/
def afterCredentials (authority : Text) : Text :=
  (authority.reverse.takeWhile (· ≠ '@')).reverse

/-- The host and the port that an authority names. -/
def parseAuthority (parseHost : Text → Option Text) (protocol : Text) (authority : Text) :
    Option Origin := do
  let (host, port) := splitPort false (afterCredentials authority)
  if host = [] then none
  else do
    let hostname ← parseHost host
    let port ← parsePort protocol (port.getD [])
    return { protocol, hostname, port }

/-! ## Paths -/

/-- The characters that are escaped in a path. -/
def isPathEscaped (c : Char) : Bool :=
  decide (c.toNat ≤ 32) || decide (126 < c.toNat) || "\"#<>?^`\x7b\x7d".toList.contains c

def percentEncode (b : UInt8) : Text :=
  ['%', upperHexDigit (b.toNat / 16), upperHexDigit (b.toNat % 16)]

def encodePath (s : Text) : Text :=
  s.flatMap fun c =>
    if isPathEscaped c then (String.utf8EncodeChar c).flatMap percentEncode else [c]

def isSingleDot (segment : Text) : Bool :=
  [".", "%2e"].any fun dot => lowerAscii segment == dot.toList

def isDoubleDot (segment : Text) : Bool :=
  ["..", ".%2e", "%2e.", "%2e%2e"].any fun dots => lowerAscii segment == dots.toList

/-- The segments of a path, behind those that are there. -/
def resolveSegments (path : List Text) : List Text → List Text
  | [] => path
  | [last] =>
      if isDoubleDot last then path.dropLast ++ [[]]
      else if isSingleDot last then path ++ [[]]
      else path ++ [last]
  | segment :: rest =>
      if isDoubleDot segment then resolveSegments path.dropLast rest
      else if isSingleDot segment then resolveSegments path rest
      else resolveSegments (path ++ [segment]) rest

/-- The path of an input behind its first slash. -/
def parsePath (s : Text) : Text :=
  let path := s.takeWhile fun c => c ≠ '?' && c ≠ '#'
  (resolveSegments [] ((path.splitOnP isSlash).map encodePath)).flatMap ('/' :: ·)

/-! ## URLs -/

/-- A URL without its credentials, query and fragment. -/
structure Target where
  origin : Origin
  pathname : Text
deriving DecidableEq

/-- What stands behind two slashes: an authority and a path. Further slashes in front are
    dropped. -/
def resolveAuthority (parseHost : Text → Option Text) (protocol : Text) (s : Text) :
    Option Target :=
  let s := s.dropWhile isSlash
  let path := s.dropWhile (!isDelimiter ·)
  (parseAuthority parseHost protocol (s.takeWhile (!isDelimiter ·))).map fun origin =>
    { origin, pathname := parsePath (if path.head?.any isSlash then path.drop 1 else path) }

/-- `new URL(input, base)` for an input that starts with a slash. Of the base, only the origin plays
    a part. -/
def resolveSlash (parseHost : Text → Option Text) (base : Origin) (input : Text) : Option Target :=
  match stripInput input with
  | '/' :: c :: rest =>
      if isSlash c then resolveAuthority parseHost base.protocol rest
      else some { origin := base, pathname := parsePath (c :: rest) }
  | '/' :: [] => some { origin := base, pathname := parsePath [] }
  | _ => none

/-! ## Inputs that start with a slash -/

/-- The first slash stays. -/
theorem stripInput_slash (rest : Text) :
    stripInput ('/' :: rest) =
      '/' :: (rest.rdropWhile isControlOrSpace).filter (!isTabOrNewline ·) := by
  have hslash : isControlOrSpace '/' = false := by decide
  have hback : (rest.reverse ++ ['/']).dropWhile isControlOrSpace =
      rest.reverse.dropWhile isControlOrSpace ++ ['/'] := by
    rw [List.dropWhile_append]
    split
    next hempty =>
        rw [List.isEmpty_iff.1 hempty]
        rfl
    · rfl
  unfold stripInput List.rdropWhile
  rw [List.dropWhile_cons_of_neg (by simp [hslash]), List.reverse_cons, hback, List.reverse_append]
  rfl

/-- Where a second slash appears only once the input is stripped, there is a tab or a line break in
    front of it. -/
theorem blank_of_stripInput {rest rest' : Text} {c : Char}
    (h : stripInput ('/' :: rest) = '/' :: c :: rest') (hc : isSlash c = true)
    (hrest : ∀ d, rest.head? = some d → isSlash d = false) :
    ∃ blank rest'', rest = blank :: rest'' ∧ isTabOrNewline blank = true := by
  rw [stripInput_slash] at h
  have hfilter := (List.cons.inj h).2
  cases hkept : rest.rdropWhile isControlOrSpace with
  | nil =>
      rw [hkept] at hfilter
      cases hfilter
  | cons d kept =>
      obtain ⟨dropped, hsplit⟩ : rest.rdropWhile isControlOrSpace <+: rest :=
        List.rdropWhile_prefix ..
      rw [hkept, List.cons_append] at hsplit
      refine ⟨d, kept ++ dropped, hsplit.symm, ?_⟩
      by_contra hplain
      rw [hkept, List.filter_cons_of_pos (by simpa using hplain)] at hfilter
      have hslash := hrest d (by rw [← hsplit]; rfl)
      rw [(List.cons.inj hfilter).1, hc] at hslash
      cases hslash

end Js
