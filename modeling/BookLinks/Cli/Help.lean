import BookLinks.Cli.Options
/-!
# Usage and help

The usage line and the help page of the command, laid out for a text width of 78
characters. Usage lists the command and then every option in brackets, options that
exclude each other in one bracket apart by `|`, and last the book directory; parts go on
the line before while they fit, and continued lines are indented under the first option.

The help page gives the usage, the purpose of the command, and then each argument with
its description. Descriptions start in column 24, on the line of their argument when the
argument leaves room for two spaces before it, and otherwise on the next line; they are
filled word by word to the right margin.
-/
namespace BookLinks.Cli

open BookLinks.Config

def textWidth : Nat := 78

/-- The column where the description of an argument starts. -/
def helpColumn : Nat := 24

/-- The purpose of the command, as the help page states it. -/
def purpose : String := "Check the links and images of a markdown book."

def pathName : String := "path"

def pathDescription : String :=
  "Directory holding the book's markdown sources (defaults to current directory)."

def spaces (n : Nat) : String := String.ofList (List.replicate n ' ')

namespace Flag

/-- The placeholder for an option's value: its name in capitals, or the choices in braces. -/
def placeholder : Flag → Option String
  | .logFile => some "LOG_FILE"
  | .config => some "CONFIG"
  | .warningPolicy => some ("\x7b" ++ ",".intercalate (WarningPolicy.all.map (·.name)) ++ "\x7d")
  | .cacheFile => some "CACHE_FILE"
  | _ => none

/-- A spelling of an option with the placeholder of its value. -/
def withPlaceholder (f : Flag) (spelling : String) : String :=
  match f.placeholder with
  | some p => spelling ++ " " ++ p
  | none => spelling

/-- An option as usage shows it: its first spelling. -/
def usageForm (f : Flag) : String := f.withPlaceholder (f.spellings.headD "")

/-- An option as help lists it: every spelling. -/
def helpForm (f : Flag) : String := ", ".intercalate (f.spellings.map f.withPlaceholder)

/-- What an option does, as the help page says it. -/
def description : Flag → String
  | .help => "show this help message and exit"
  | .verbose => "Increase log verbosity for troubleshooting."
  | .quiet => "Only log warnings and errors; the report is still printed."
  | .logFile => "Also write logs to this file."
  | .config => "Configuration file to use (defaults to <path>/.linkcheck.yml)."
  | .followWebLinks => "Check web links over the network."
  | .traverseParents => "Allow links to files outside the book directory."
  | .warningPolicy => "How warnings affect the result (overrides the configuration file)."
  | .json => "Print the report as JSON instead of text."
  | .cacheFile => "Where web link results are cached (defaults to <path>/.linkcheck/cache.json)."
  | .noCache => "Do not read or write the web link cache."

end Flag

/-- The options as usage brackets them: options that exclude each other share a bracket. -/
def usageGroups : List (List Flag) :=
  [[.help], [.verbose, .quiet], [.logFile], [.config], [.followWebLinks], [.traverseParents],
   [.warningPolicy], [.json], [.cacheFile], [.noCache]]

def optionParts : List String :=
  usageGroups.map fun g => "[" ++ " | ".intercalate (g.map Flag.usageForm) ++ "]"

/-- Parts filled into lines no wider than `textWidth`: a part goes on the current line
when it fits after a space. The first line has `start` characters before its first part,
later lines `indent`. -/
def fillParts (indent start : Nat) (parts : List String) : List (List String) :=
  let (done, current, _) := parts.foldl (fun (acc : List (List String) × List String × Nat) part =>
    let (done, current, used) := acc
    if used + 1 + part.length > textWidth && !current.isEmpty then
      (done ++ [current], [part], indent + part.length)
    else (done, current ++ [part], used + 1 + part.length)) ([], [], start - 1)
  if current.isEmpty then done else done ++ [current]

/-- The usage text, ending in a line break. -/
def usage : String :=
  let lead := "usage: "
  let positional := ["[" ++ pathName ++ "]"]
  let oneLine := " ".intercalate (programName :: optionParts ++ positional)
  if lead.length + oneLine.length ≤ textWidth then lead ++ oneLine ++ "\n"
  else
    let indent := lead.length + programName.length + 1
    let first := fillParts indent lead.length (programName :: optionParts)
    let rest := fillParts indent indent positional
    let lines := (first.map (" ".intercalate ·)).zipIdx.map (fun (l, i) =>
        if i == 0 then l else spaces indent ++ l) ++
      rest.map (fun l => spaces indent ++ " ".intercalate l)
    lead ++ "\n".intercalate lines ++ "\n"

/-- The words of a text filled into lines of at most `width` characters; words are never
broken. -/
def fillWords (width : Nat) (text : String) : List String :=
  let words := (text.splitOn " ").filter (· ≠ "")
  let (done, current, _) := words.foldl (fun (acc : List (List String) × List String × Nat) w =>
    let (done, current, used) := acc
    if current.isEmpty then (done, [w], w.length)
    else if used + 1 + w.length > width then (done ++ [current], [w], w.length)
    else (done, current ++ [w], used + 1 + w.length)) ([], [], 0)
  let lines := if current.isEmpty then done else done ++ [current]
  lines.map (" ".intercalate ·)

/-- The lines of one argument on the help page. -/
def entryLines (form description : String) : List String :=
  let body := fillWords (textWidth - helpColumn) description
  let pad := spaces helpColumn
  if form.length + 4 ≤ helpColumn then
    match body with
    | first :: rest => ("  " ++ form ++ spaces (helpColumn - 2 - form.length) ++ first) ::
        rest.map (pad ++ ·)
    | [] => ["  " ++ form]
  else ("  " ++ form) :: body.map (pad ++ ·)

/-- The help page, ending in a line break. -/
def helpPage : String :=
  let lines := ["", purpose, "", "positional arguments:"] ++ entryLines pathName pathDescription ++
    ["", "options:"] ++ Flag.all.flatMap (fun f => entryLines f.helpForm f.description)
  usage ++ "\n".intercalate lines ++ "\n"

end BookLinks.Cli
