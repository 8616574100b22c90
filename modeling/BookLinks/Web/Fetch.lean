import BookLinks.Web.Script
import BookLinks.Text.Blank
import BookLinks.Text.CaseMap
/-!
# Fetching a URL

A request carries the URL, the headers and a timeout. What comes back is a status, a
transport failure, or a fault that the checker does not handle. Two clients are modelled:
one that is given to the checker and reports statuses and transport failures as they are,
and the standard HTTP client, which turns errors of every kind it knows into transport
failures, capitalises header names, and drops an empty fragment from the URL.
-/
namespace BookLinks.Web

open BookLinks.Text

structure FetchRequest where
  url : String
  headers : List (String × String)
  timeout : Float
  method : String := "GET"
  deriving Inhabited

inductive Reply where
  | status (code : Int)
  | transportFailure (message : String)
  /-- A failure the checker lets through. -/
  | fault (r : Response)
  deriving Repr, Inhabited

inductive Client where
  /-- A client handed to the checker. -/
  | given
  /-- The standard client of the platform. -/
  | standard
  deriving Repr, DecidableEq, Inhabited

/-- The message of a failure of the standard client: its text, or the name of its kind when
the text is empty. -/
def orKind (message kind : String) : String := if message.isEmpty then kind else message

def Client.reply : Client → Response → Reply
  | .given, .status n | .given, .httpError n => .status n
  | .given, .transport m => .transportFailure m
  | .given, r => .fault r
  | .standard, .status n | .standard, .httpError n => .status n
  | .standard, .transport m | .standard, .unreachable m => .transportFailure m
  | .standard, .timeout m => .transportFailure (orKind m "TimeoutError")
  | .standard, .systemError m => .transportFailure (orKind m "OSError")
  | .standard, .badValue m => .transportFailure (orKind m "ValueError")
  | .standard, .protocolError m => .transportFailure (orKind m "HTTPException")
  | .standard, .other m => .fault (.other m)

/-- A header name with its first letter in capitals and the rest in small letters. -/
def capitalize (name : String) : String :=
  match name.toList with
  | c :: rest => String.ofList (c.toUpper :: rest.map Char.toLower)
  | [] => ""

/-- Sets a header: a name already there keeps its place and takes the value. -/
def setHeader (hs : List (String × String)) (name value : String) : List (String × String) :=
  if hs.any (·.1 == name) then hs.map (fun (k, v) => if k == name then (k, value) else (k, v))
  else hs ++ [(name, value)]

/-- The URL the standard client sends: blanks at the ends removed, and the fragment after
the last `#` kept only when it is not empty. -/
def standardUrl (url : String) : String :=
  let u := strip url
  let cs := u.toList
  match cs.reverse.findIdx? (· == '#') with
  | none => u
  | some k =>
    let cut := cs.length - 1 - k
    let before := String.ofList (cs.take cut)
    let frag := String.ofList (cs.drop (cut + 1))
    if frag.isEmpty then before else before ++ "#" ++ frag

/-- A request as it reaches the network: the URL and headers the client sends, the headers
sorted by name. -/
def Client.sent (c : Client) (r : FetchRequest) : FetchRequest :=
  let (url, headers) := match c with
    | .given => (r.url, r.headers)
    | .standard => (standardUrl r.url,
        r.headers.foldl (fun hs (k, v) => setHeader hs (capitalize k) v) [])
  { r with url, headers := headers.mergeSort (fun a b => !(b.1 < a.1)) }

end BookLinks.Web
