/-!
# A scripted web

Answers to requests, written in advance per URL so that web checks can run without a
network. Each request to a URL takes the next answer of its list, and the last answer
repeats; a URL without a script gets the fallback answer, status 200 unless another is
set.
-/
namespace BookLinks.Web

/-- One scripted answer: a status, or a failure of the kind the HTTP client may meet. -/
inductive Response where
  /-- A response with a status. -/
  | status (code : Int)
  /-- A status the client reports as an error. -/
  | httpError (code : Int)
  /-- No response could be had. -/
  | transport (message : String)
  /-- The address could not be reached. -/
  | unreachable (message : String)
  /-- The connection timed out. -/
  | timeout (message : String)
  /-- The system refused the operation. -/
  | systemError (message : String)
  /-- The request was refused as malformed. -/
  | badValue (message : String)
  /-- The server broke the protocol. -/
  | protocolError (message : String)
  /-- Anything else went wrong. -/
  | other (message : String)
  deriving Repr, DecidableEq, Inhabited

/-- The script of every URL, the number of answers each has given, and the answer for
URLs without a script. -/
structure Script where
  answers : List (String × List Response) := []
  served : List (String × Nat) := []
  fallback : Response := .status 200
  deriving Inhabited

/-- The answer to the next request for `url`, and the script after it. -/
def Script.next (s : Script) (url : String) : Response × Script :=
  let count := (s.served.lookup url).getD 0
  let served := (url, count + 1) :: s.served.filter (·.1 != url)
  let answer := match s.answers.lookup url with
    | some (r :: rs) => ((r :: rs)[min count rs.length]?).getD r
    | _ => s.fallback
  (answer, { s with served })

end BookLinks.Web
