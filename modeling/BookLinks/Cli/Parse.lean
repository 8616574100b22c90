import BookLinks.Cli.Help
import BookLinks.Text.Digit
import BookLinks.Data.Literal
/-!
# Reading a command line

Each argument is first read on its own. `--` ends the options: every argument after it is
a value. Before it, an argument that does not start with `-`, or is `-` alone, is a value;
one that is a spelling of an option is that option. A long option may be shortened to any
prefix that names only one option, and may carry its value after `=`; a short option may
carry the text after its two characters, which for a flag is more short flags (`-vq`). A
text that names no option is a value when it reads as a negative number or holds a space,
and otherwise an unknown option; a prefix that names several options is an error.

Then arguments are taken from the left. An option takes its value from the text it
carries or from the next argument, which must be a value; it keeps a `--` it carries.
Values before an option, and those after the last one, go to the book directory, which
takes one value at most, `--` marks around it dropped. Unknown options and values nobody
takes are unrecognized, and are reported once every argument has been read; `-h` and the
errors of options stop the reading where they are met.
-/
namespace BookLinks.Cli

open BookLinks.Config BookLinks.Data

/-- Text that an argument carries after its option: after `=`, or right after the two
characters of a short option. -/
structure Attached where
  afterEquals : Bool
  text : String
  deriving Repr, Inhabited

inductive Piece where
  /-- A value. -/
  | value
  /-- The first `--`. -/
  | endOfOptions
  /-- An option, or none when the text names no option, with the spelling it was read as
  and the text it carries. -/
  | option (flag : Option Flag) (spelling : String) (attached : Option Attached)
  deriving Repr, Inhabited

def Piece.isEnd : Piece → Bool
  | .endOfOptions => true
  | _ => false

/-- Whether a text reads as a negative number: a minus and decimal digits, or a minus,
digits, a point and at least one digit; one line feed may end it. -/
def isNegativeNumber (s : String) : Bool :=
  let cs := s.toList
  let cs := if cs.getLast? == some '\n' then cs.dropLast else cs
  match cs with
  | '-' :: rest =>
    let lead := rest.takeWhile Text.isDecimal
    match rest.drop lead.length with
    | [] => !lead.isEmpty
    | '.' :: frac => !frac.isEmpty && frac.all Text.isDecimal
    | _ => false
  | _ => false

/-- A text split at its first `=`: the part before, and the part after when there is one. -/
def splitAtEquals (s : String) : String × Option String :=
  let cs := s.toList
  match cs.findIdx? (· == '=') with
  | some i => (String.ofList (cs.take i), some (String.ofList (cs.drop (i + 1))))
  | none => (s, none)

/-- The options an argument starting with `-` may stand for, in the order they are
declared. A long one is named by the prefix of the argument before any `=`, which carries
the rest. A short one is named by the argument's first two characters, carrying the rest,
or by a spelling that the whole argument starts. -/
def candidates (arg : String) : List (Flag × String × Option Attached) :=
  match arg.toList with
  | '-' :: '-' :: _ =>
    let (pre, rest) := splitAtEquals arg
    spellingTable.filterMap fun (s, f) =>
      if s.startsWith pre then some (f, s, rest.map (Attached.mk true)) else none
  | '-' :: c :: more =>
    let short := String.ofList ['-', c]
    spellingTable.filterMap fun (s, f) =>
      if s == short then some (f, s, some ⟨false, String.ofList more⟩)
      else if s.startsWith arg then some (f, s, none)
      else none
  | _ => []

/-- Reads one argument that comes before any `--`; an error when it is a prefix of
several options. -/
def readPiece (arg : String) : Except String Piece :=
  if arg.isEmpty || !arg.startsWith "-" then .ok .value
  else match flagOf arg with
  | some f => .ok (.option (some f) arg none)
  | none =>
    if arg.length == 1 then .ok .value
    else
      let (name, rest) := splitAtEquals arg
      match rest, flagOf name with
      | some text, some f => .ok (.option (some f) name (some ⟨true, text⟩))
      | _, _ =>
        match candidates arg with
        | [(f, s, a)] => .ok (.option (some f) s a)
        | [] =>
          if isNegativeNumber arg || arg.toList.contains ' ' then .ok .value
          else .ok (.option none arg none)
        | many => .error ("ambiguous option: " ++ arg ++ " could match " ++
            ", ".intercalate (many.map (·.2.1)))

/-- Reads every argument; the first ambiguous one is an error. -/
def readPieces : List String → Except String (List Piece)
  | [] => .ok []
  | a :: rest =>
    if a == "--" then .ok (.endOfOptions :: rest.map (fun _ => .value))
    else do
      let p ← readPiece a
      let ps ← readPieces rest
      pure (p :: ps)

inductive Request where
  /-- A check with these options. -/
  | run (o : Options)
  /-- The help page. -/
  | help
  /-- Nothing, as the line is wrong; the message says why. -/
  | usageError (message : String)
  deriving Repr, Inhabited

/-- Why reading stopped before the end: help was asked for, or an option is wrong. -/
inductive Stop where
  | help
  | error (message : String)
  deriving Repr, Inhabited

/-- The state of reading: the options so far, whether the book directory has had its
turn, the unrecognized arguments, and the options given so far. -/
structure Reading where
  options : Options := {}
  pathTaken : Bool := false
  extras : List String := []
  seen : List Flag := []
  deriving Inhabited

/-- Reading a command line, which may stop early. -/
abbrev ReadM := StateT Reading (Except Stop)

def optionError (f : Flag) (message : String) : Stop :=
  .error ("argument " ++ f.name ++ ": " ++ message)

/-- The error of text carried by an option that takes none. -/
def ignoredText (f : Flag) (text : String) : Stop :=
  optionError f ("ignored explicit argument " ++ quoted text)

def setOptions (change : Options → Options) : ReadM Unit :=
  modify fun r => { r with options := change r.options }

/-- Gives an option its values: a flag is set, an option with a value keeps it, and a
policy must be one of the choices. Help stops the reading, and so does an option given
after its rival. -/
def apply (f : Flag) (args : List String) : ReadM Unit := do
  let given := args.headD ""
  let policy ← match f with
    | .warningPolicy =>
      match policyNamed given with
      | some p => pure p
      | none => throw (optionError f ("invalid choice: " ++ quoted given ++ " (choose from " ++
          ", ".intercalate (WarningPolicy.all.map (fun p => quoted p.name)) ++ ")"))
    | _ => pure WarningPolicy.warn
  if let some r := f.rival then
    if (← get).seen.contains r then
      throw (optionError f ("not allowed with argument " ++ r.name))
  modify fun r => { r with seen := f :: r.seen }
  match f with
  | .help => throw .help
  | .verbose => setOptions fun o => { o with verbose := true }
  | .quiet => setOptions fun o => { o with quiet := true }
  | .logFile => setOptions fun o => { o with logFile := some given }
  | .config => setOptions fun o => { o with config := some given }
  | .followWebLinks => setOptions fun o => { o with followWebLinks := true }
  | .traverseParents => setOptions fun o => { o with traverseParents := true }
  | .warningPolicy => setOptions fun o => { o with warningPolicy := some policy }
  | .json => setOptions fun o => { o with json := true }
  | .cacheFile => setOptions fun o => { o with cacheFile := some given }
  | .noCache => setOptions fun o => { o with noCache := true }

/-- How many pieces from the front the book directory takes: `--` marks, at most one
value, and `--` marks after it. -/
def pathSpan (pieces : List Piece) : Nat :=
  let lead := (pieces.takeWhile Piece.isEnd).length
  let rest := pieces.drop lead
  let taken := match rest with
    | .value :: _ => 1
    | _ => 0
  lead + taken + ((rest.drop taken).takeWhile Piece.isEnd).length

/-- Gives the book directory the values from `start`, if it has not had its turn; the
index after them. -/
def takePath (argv : Array String) (pieces : Array Piece) (start : Nat) : ReadM Nat := do
  if (← get).pathTaken then return start
  let count := pathSpan (pieces.toList.drop start)
  let args := ((argv.toList.drop start).take count).erase "--"
  modify fun r => { r with pathTaken := true }
  setOptions fun o => { o with path := args.headD "." }
  return start + count

/-- The options that the option argument at `start` stands for, each with its values, an
unknown short option met in a group of flags, and the index after the arguments used. -/
def optionActions (argv : Array String) (pieces : Array Piece) (start : Nat) :
    Nat → Flag → String → Option Attached →
    Except Stop (List (Flag × List String) × Option String × Nat)
  | 0, _, _, _ => .ok ([], none, start + 1)
  | fuel + 1, f, spelling, attached =>
    match attached with
    | some a =>
      let short := spelling.toList.getD 1 '-' != '-'
      if !f.takesValue && short && !a.text.isEmpty then
        if a.afterEquals || a.text.startsWith "-" then .error (ignoredText f a.text)
        else
          let cs := a.text.toList
          let next := String.ofList ['-', cs.headD '-']
          let rest := cs.drop 1
          match flagOf next with
          | some g =>
            let carried : Option Attached := match rest with
              | [] => none
              | '=' :: more => some ⟨true, String.ofList more⟩
              | _ => some ⟨false, String.ofList rest⟩
            match optionActions argv pieces start fuel g next carried with
            | .ok (acts, extra, stop) => .ok ((f, []) :: acts, extra, stop)
            | .error e => .error e
          | none => .ok ([(f, [])], some ("-" ++ a.text), start + 1)
      else if f.takesValue then .ok ([(f, [a.text])], none, start + 1)
      else .error (ignoredText f a.text)
    | none =>
      if f.takesValue then
        match pieces[start + 1]?, argv[start + 1]? with
        | some .value, some v => .ok ([(f, [v])], none, start + 2)
        | _, _ => .error (optionError f "expected one argument")
      else .ok ([(f, [])], none, start + 1)

/-- Takes the option argument at `start` and the values it uses; the index after them. -/
def takeOption (argv : Array String) (pieces : Array Piece) (start : Nat) : ReadM Nat := do
  match pieces[start]? with
  | some (.option (some f) spelling attached) =>
    let fuel := spelling.length + (attached.map (·.text.length)).getD 0 + 2
    let (acts, extra, stop) ← liftM (optionActions argv pieces start fuel f spelling attached)
    if let some e := extra then modify fun r => { r with extras := r.extras ++ [e] }
    for (g, args) in acts do apply g args
    return stop
  | _ =>
    modify fun r => { r with extras := r.extras ++ (argv[start]?).toList }
    return start + 1
where
  /-- Lifts a result into reading. -/
  liftM {α : Type} (x : Except Stop α) : ReadM α := fun r => x.map (·, r)

/-- Takes arguments from `start` while an option lies ahead: the values before the next
option go to the book directory or are unrecognized, then the option takes its own. -/
def takeAll (argv : Array String) (pieces : Array Piece) (options : List Nat) :
    Nat → Nat → ReadM Nat
  | 0, start => return start
  | fuel + 1, start => do
    match (options.filter (· ≥ start)).min? with
    | none => return start
    | some next =>
      let mut at_ := start
      if at_ != next then
        let stop ← takePath argv pieces at_
        if stop > at_ then return ← takeAll argv pieces options fuel stop
        at_ := stop
      if !options.contains at_ then
        let skipped := (argv.toList.drop at_).take (next - at_)
        modify fun r => { r with extras := r.extras ++ skipped }
        at_ := next
      let stop ← takeOption argv pieces at_
      takeAll argv pieces options fuel stop

def readArgs (args : List String) : Request :=
  match readPieces args with
  | .error m => .usageError m
  | .ok pieces =>
    let argv := args.toArray
    let ps := pieces.toArray
    let options := (List.range ps.size).filter fun i => match ps[i]? with
      | some (.option _ _ _) => true
      | _ => false
    let reading : ReadM Unit := do
      let start ← takeAll argv ps options (args.length + 1) 0
      let stop ← takePath argv ps start
      modify fun r => { r with extras := r.extras ++ args.drop stop }
    match reading.run {} with
    | .error .help => .help
    | .error (.error m) => .usageError m
    | .ok ((), r) =>
      if r.extras.isEmpty then .run r.options
      else .usageError ("unrecognized arguments: " ++ " ".intercalate r.extras)

end BookLinks.Cli
