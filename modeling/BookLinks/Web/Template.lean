/-! Header values with references to environment variables. `$NAME` refers to a variable,
whose name starts with an ASCII letter or `_` and goes on with ASCII letters, digits and
`_`; `\$` stands for a dollar and `\\` for a backslash, and every other character, other
backslashes included, for itself. -/
namespace BookLinks.Web

/-- A piece of a header value: literal text or a variable reference. -/
inductive Piece where
  | literal (text : String)
  | var (name : String)
  deriving Repr, DecidableEq, Inhabited

def isNameStart (c : Char) : Bool := c = '_' || (c.toNat < 0x80 && c.isAlpha)

def isNameChar (c : Char) : Bool := isNameStart c || (c.toNat < 0x80 && c.isDigit)

/-- The literal piece of the pending characters `buf`, reversed, if there are any. -/
def flushLiteral (buf : List Char) : List Piece :=
  if buf.isEmpty then [] else [.literal (String.ofList buf.reverse)]

/-- The pieces of `cs`, with the literal characters pending in `buf`, reversed. -/
def piecesFrom (buf : List Char) (cs : List Char) : List Piece :=
  match cs with
  | [] => flushLiteral buf
  | '\\' :: c :: rest =>
    if c = '$' ∨ c = '\\' then piecesFrom (c :: buf) rest
    else piecesFrom ('\\' :: buf) (c :: rest)
  | '$' :: c :: rest =>
    if isNameStart c then
      let name := (c :: rest).takeWhile isNameChar
      flushLiteral buf ++ .var (String.ofList name) ::
        piecesFrom [] ((c :: rest).dropWhile isNameChar)
    else piecesFrom ('$' :: buf) (c :: rest)
  | c :: rest => piecesFrom (c :: buf) rest
termination_by cs.length
decreasing_by
  all_goals first
    | exact Nat.lt_of_le_of_lt (List.dropWhile_suffix _).length_le (Nat.lt_succ_self _)
    | (simp only [List.length_cons]; omega)

/-- The pieces of a header value; literal pieces are never empty and never adjacent. -/
def tokenize (value : String) : List Piece := piecesFrom [] value.toList

/-- A header value with its references replaced from `env`, or the first name that `env`
does not hold. -/
def interpolate (env : List (String × String)) (value : String) : Except String String :=
  (tokenize value).foldlM (fun acc p =>
    match p with
    | .literal t => .ok (acc ++ t)
    | .var name =>
      match env.lookup name with
      | some v => .ok (acc ++ v)
      | none => .error name) ""

/-- The message for a variable that is not set. -/
def unsetMessage (name : String) : String :=
  "the \"" ++ name ++ "\" environment variable is not set"

end BookLinks.Web
