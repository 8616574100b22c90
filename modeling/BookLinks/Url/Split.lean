import BookLinks.Url.Address
import BookLinks.Text.Blank
import BookLinks.Text.CaseMap
import BookLinks.Data.Literal
/-! Splitting a URL into scheme, network location, path, query and fragment, joining the
parts again, and the normal form of a URL under which two spellings of one web target are
one. A network location with a bracket must hold a well-formed bracketed host. -/
namespace BookLinks.Url

open BookLinks.Text

structure UrlParts where
  scheme : String
  netloc : String
  path : String
  query : String
  fragment : String
  deriving Repr, DecidableEq

inductive UrlError where
  /-- A network location with an unmatched bracket. -/
  | unbalancedBrackets
  /-- A bracketed host starting with `v` that is not `v`, hexadecimal digits, a dot and more. -/
  | badFutureAddress
  /-- A bracketed host that is an IPv4 address. -/
  | bracketedIpv4
  /-- A bracketed host that is no address. -/
  | notAnAddress (host : String)
  /-- A network location with characters that fold to delimiters. -/
  | foldsToDelimiter (netloc : String)
  deriving Repr, DecidableEq

def UrlError.message : UrlError → String
  | .unbalancedBrackets => "Invalid IPv6 URL"
  | .badFutureAddress => "IPvFuture address is invalid"
  | .bracketedIpv4 => "An IPv4 address cannot be in brackets"
  | .notAnAddress h => Data.quoted h ++ " does not appear to be an IPv4 or IPv6 address"
  | .foldsToDelimiter n => "netloc '" ++ n ++ "' contains invalid characters under NFKC normalization"

/-- Characters whose compatibility form holds `/`, `?`, `#`, `@` or `:`. -/
def foldsToDelimiterChar (c : Char) : Bool :=
  let n := c.toNat
  (0x2047 ≤ n && n ≤ 0x2049) || n == 0x2100 || n == 0x2101 || n == 0x2105 || n == 0x2106 ||
  n == 0x2A74 || n == 0xFE13 || n == 0xFE16 || n == 0xFE55 || n == 0xFE56 || n == 0xFE5F ||
  n == 0xFE6B || n == 0xFF03 || n == 0xFF0F || n == 0xFF1A || n == 0xFF1F || n == 0xFF20

def isSchemeChar (c : Char) : Bool :=
  c.isAlphanum || c = '+' || c = '-' || c = '.'

/-- Splits a text at the first `sep`: the part before and, if `sep` occurs, the part after. -/
def splitFirst (cs : List Char) (sep : Char) : List Char × Option (List Char) :=
  match cs.findIdx? (· = sep) with
  | some i => (cs.take i, some (cs.drop (i + 1)))
  | none => (cs, none)

/-- Checks the host in brackets of a network location. -/
def checkBracketedHost (host : String) : Except UrlError Unit :=
  let cs := host.toList
  if cs.head? = some 'v' then
    let digits := (cs.drop 1).takeWhile (fun c => c.isDigit || ('a' ≤ c && c ≤ 'f') ||
      ('A' ≤ c && c ≤ 'F'))
    let rest := cs.drop (1 + digits.length)
    match rest with
    | '.' :: tail =>
      if !digits.isEmpty && !tail.isEmpty && !tail.contains '\n' then .ok ()
      else .error .badFutureAddress
    | _ => .error .badFutureAddress
  else if isIpv4 host then .error .bracketedIpv4
  else if isIpv6 host then .ok ()
  else .error (.notAnAddress host)

/-- Splits a URL into its parts. Leading control characters and spaces are dropped and tabs
and line breaks removed first; a scheme is taken when a colon follows letters, digits, `+`,
`-` and `.` that begin with a letter. -/
def split (url : String) : Except UrlError UrlParts := do
  let cs := (url.toList.dropWhile (fun c => c.toNat ≤ 0x20)).filter
    (fun c => c ≠ '\t' ∧ c ≠ '\r' ∧ c ≠ '\n')
  let (scheme, rest) : List Char × List Char :=
    match cs.findIdx? (· = ':') with
    | some i =>
      match cs.head? with
      | some c0 =>
        if i > 0 ∧ c0.toNat < 0x80 ∧ c0.isAlpha ∧ (cs.take i).all isSchemeChar then
          ((cs.take i).map Char.toLower, cs.drop (i + 1))
        else ([], cs)
      | none => ([], cs)
    | none => ([], cs)
  let (netloc, rest) : List Char × List Char :=
    match rest with
    | '/' :: '/' :: tail =>
      let stop := (tail.findIdx? (fun c => c = '/' ∨ c = '?' ∨ c = '#')).getD tail.length
      (tail.take stop, tail.drop stop)
    | _ => ([], rest)
  let hasOpen := netloc.contains '['
  let hasClose := netloc.contains ']'
  if hasOpen != hasClose then throw .unbalancedBrackets
  if hasOpen then
    let afterOpen := (splitFirst netloc '[').2.getD []
    checkBracketedHost (String.ofList (splitFirst afterOpen ']').1)
  let (rest, fragment) := splitFirst rest '#'
  let (path, query) := splitFirst rest '?'
  if netloc.any foldsToDelimiterChar then
    throw (.foldsToDelimiter (String.ofList netloc))
  pure ⟨String.ofList scheme, String.ofList netloc, String.ofList path,
    String.ofList (query.getD []), String.ofList (fragment.getD [])⟩

def netlocSchemes : List String :=
  ["", "ftp", "http", "gopher", "nntp", "telnet", "imap", "wais", "file", "mms", "https",
   "shttp", "snews", "prospero", "rtsp", "rtsps", "rtspu", "rsync", "svn", "svn+ssh", "sftp",
   "nfs", "git", "git+ssh", "ws", "wss"]

/-- Joins the parts of a URL; empty query and fragment are left out with their marks. -/
def UrlParts.join (p : UrlParts) : String := Id.run do
  let mut url := p.path
  if !p.netloc.isEmpty || (!p.scheme.isEmpty && netlocSchemes.contains p.scheme) ||
      url.startsWith "//" then
    if !url.isEmpty && !url.startsWith "/" then url := "/" ++ url
    url := "//" ++ p.netloc ++ url
  if !p.scheme.isEmpty then url := p.scheme ++ ":" ++ url
  if !p.query.isEmpty then url := url ++ "?" ++ p.query
  if !p.fragment.isEmpty then url := url ++ "#" ++ p.fragment
  return url

/-- The normal form of a web URL: blanks at the ends dropped, scheme and network location in
lower case, an empty path written `/`, and no fragment. -/
def normalize (url : String) : Except UrlError String := do
  let p ← split (strip url)
  pure (UrlParts.join ⟨String.lower p.scheme, String.lower p.netloc,
    if p.path.isEmpty then "/" else p.path, p.query, ""⟩)

end BookLinks.Url
