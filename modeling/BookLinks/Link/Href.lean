import BookLinks.Url.Split
import BookLinks.Url.Percent
/-! What a link points at. An href is a web URL when it starts with a scheme of at least two
characters other than `file`, an anchor in the same document when it starts with `#`, and
otherwise a path in the file system with an optional fragment after the first `#` that no
backslash escapes; a `file:` URL is a path too. Writing a link back gives an href that
classifies to the same link. -/
namespace BookLinks.Link

open BookLinks.Text

inductive Target where
  | web (url : String)
  | anchor (fragment : String)
  | file (path : String) (fragment : Option String)
  deriving Repr, DecidableEq, Inhabited

/-- The scheme at the start of an href: a letter, then at least one letter, digit, `+`, `.`
or `-`, then a colon. -/
def schemeOf (s : String) : Option String :=
  let cs := s.toList
  match cs with
  | c :: rest =>
    if c.isAlpha then
      let run := rest.takeWhile (fun d => d.isAlphanum || d = '+' || d = '.' || d = '-')
      if !run.isEmpty && (rest.drop run.length).head? == some ':' then
        some (String.ofList (c :: run))
      else none
    else none
  | [] => none

/-- Splits off the fragment at the first `#` that is not right after a backslash. -/
def splitFragment (cs : List Char) : List Char × Option (List Char) :=
  let rec go (before : List Char) : List Char → List Char × Option (List Char)
    | [] => (before.reverse, none)
    | '#' :: rest =>
      if before.head? == some '\\' then go ('#' :: before) rest
      else (before.reverse, some rest)
    | c :: rest => go (c :: before) rest
  go [] cs

/-- Turns every escaped `\#` into `#`. -/
def unescapeHashes : List Char → List Char
  | '\\' :: '#' :: rest => '#' :: unescapeHashes rest
  | c :: rest => c :: unescapeHashes rest
  | [] => []

/-- Escapes every `#` as `\#`. -/
def escapeHashes : List Char → List Char
  | '#' :: rest => '\\' :: '#' :: escapeHashes rest
  | c :: rest => c :: escapeHashes rest
  | [] => []

/-- Classifies an href, blanks at its ends dropped. -/
def classify (href : String) : Except Url.UrlError Target := do
  let h := strip href
  if h.startsWith "#" then return .anchor (String.ofList (h.toList.drop 1))
  match schemeOf h with
  | some scheme =>
    if String.lower scheme = "file" then
      let parts ← Url.split h
      return .file (Url.percentDecode parts.path)
        (if parts.fragment.isEmpty then none else some parts.fragment)
    else return .web h
  | none =>
    let (path, fragment) := splitFragment h.toList
    return .file (String.ofList (unescapeHashes path))
      (fragment.map String.ofList)

/-- Writes a link back as an href. A `#` in a path is escaped, and a path that would read as
a scheme or, being empty, as an anchor is prefixed with `./`. -/
def Target.toHref : Target → String
  | .web url => url
  | .anchor fragment => "#" ++ fragment
  | .file path fragment =>
    let p := String.ofList (escapeHashes path.toList)
    let p := if (schemeOf p).isSome || (p.isEmpty && fragment.isSome) then "./" ++ p else p
    match fragment with
    | none => p
    | some f => p ++ "#" ++ f

/-- Whether an href starts with the scheme `http` or `https`, in any case. -/
def isWebScheme (url : String) : Bool :=
  match schemeOf url with
  | some s => let l := String.lower s; l = "http" || l = "https"
  | none => false

end BookLinks.Link
