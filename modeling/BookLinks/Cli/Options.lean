import BookLinks.Config.Settings
/-!
# Options of the command

The command checks the book in one directory, by default the current one. Its options
say how much to log and where, which settings file to read, which settings to override,
whether to print the report as JSON, and where the cache of web outcomes lives.

Each option has a short and a long spelling or only a long one; four of them take a value.
`-v` and `-q` exclude each other.
-/
namespace BookLinks.Cli

open BookLinks.Config

def programName : String := "mdlinkcheck"

inductive Flag where
  | help
  | verbose
  | quiet
  | logFile
  | config
  | followWebLinks
  | traverseParents
  | warningPolicy
  | json
  | cacheFile
  | noCache
  deriving Repr, DecidableEq, Inhabited

namespace Flag

def all : List Flag :=
  [.help, .verbose, .quiet, .logFile, .config, .followWebLinks, .traverseParents,
   .warningPolicy, .json, .cacheFile, .noCache]

/-- The ways an option is written, short before long. -/
def spellings : Flag → List String
  | .help => ["-h", "--help"]
  | .verbose => ["-v", "--verbose"]
  | .quiet => ["-q", "--quiet"]
  | .logFile => ["--log-file"]
  | .config => ["--config"]
  | .followWebLinks => ["--follow-web-links"]
  | .traverseParents => ["--traverse-parent-directories"]
  | .warningPolicy => ["--warning-policy"]
  | .json => ["--json"]
  | .cacheFile => ["--cache-file"]
  | .noCache => ["--no-cache"]

def takesValue : Flag → Bool
  | .logFile | .config | .warningPolicy | .cacheFile => true
  | _ => false

/-- The name of an option in messages: its spellings joined by `/`. -/
def name (f : Flag) : String := "/".intercalate f.spellings

/-- The option that may not be given with this one. -/
def rival : Flag → Option Flag
  | .verbose => some .quiet
  | .quiet => some .verbose
  | _ => none

end Flag

/-- Every spelling with its option, in the order they are declared. -/
def spellingTable : List (String × Flag) :=
  Flag.all.flatMap fun f => f.spellings.map fun s => (s, f)

def flagOf (spelling : String) : Option Flag := spellingTable.lookup spelling

/-- What a command line asks for: the book directory, and each option as given; an option
not given has its default. -/
structure Options where
  path : String := "."
  verbose : Bool := false
  quiet : Bool := false
  logFile : Option String := none
  config : Option String := none
  followWebLinks : Bool := false
  traverseParents : Bool := false
  warningPolicy : Option WarningPolicy := none
  json : Bool := false
  cacheFile : Option String := none
  noCache : Bool := false
  deriving Repr, Inhabited

/-- The warning policy that a name given on the command line stands for, if any. -/
def policyNamed (s : String) : Option WarningPolicy :=
  WarningPolicy.all.find? (·.name == s)

end BookLinks.Cli
