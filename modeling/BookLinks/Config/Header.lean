import BookLinks.Text.Blank
/-! HTTP headers given as `Name: Value`. The name is the text before the first colon, the
value the text after it, both without blanks at the ends; a name must be a non-empty run of
token characters. -/
namespace BookLinks.Config

open BookLinks.Text

/-- A header to send, whose value may refer to environment variables. -/
structure HttpHeader where
  name : String
  value : String
  deriving Repr, DecidableEq, Inhabited

inductive HeaderError where
  | noColon (raw : String)
  | badName (name : String)
  deriving Repr, DecidableEq

def HeaderError.message : HeaderError → String
  | .noColon raw => "Header \"" ++ raw ++ "\" must look like \"Name: Value\""
  | .badName name => "\"" ++ name ++ "\" is not a valid HTTP header name"

/-- Whether a character may appear in a header name. -/
def isTokenChar (c : Char) : Bool :=
  c.isAlphanum || "!#$%&'*+.^_`|~-".toList.contains c

/-- Reads a header from `Name: Value`. -/
def HttpHeader.parse (raw : String) : Except HeaderError HttpHeader :=
  let cs := raw.toList
  match cs.findIdx? (· = ':') with
  | none => .error (.noColon raw)
  | some i =>
    let name := trim (cs.take i)
    if name.isEmpty || !name.all isTokenChar then .error (.badName (String.ofList name))
    else .ok ⟨String.ofList name, String.ofList (trim (cs.drop (i + 1)))⟩

/-- The header as `Name: Value`. -/
def HttpHeader.text (h : HttpHeader) : String := h.name ++ ": " ++ h.value

end BookLinks.Config
