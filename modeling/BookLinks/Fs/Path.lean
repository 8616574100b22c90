/-! Path names with `/` as separator, as text: the parts of a path (its root and the names
after it), its parent, name and suffix, the lexical normal form that folds `.` and `..`, and
the relative path from one directory to another. Nothing here looks at a file system. -/
namespace BookLinks.Fs

/-- The names of a path between separators, in order, empty names included. -/
def components (s : String) : List String := (s.toList.splitOn '/').map String.ofList

/-- The root of a path: none, `/`, or `//` when exactly two separators lead. -/
def rootOf (s : String) : String :=
  let cs := s.toList
  match cs with
  | '/' :: '/' :: '/' :: _ => "/"
  | '/' :: '/' :: _ => "//"
  | '/' :: _ => "/"
  | _ => ""

/-- The names of a path after its root, with empty names and `.` left out. -/
def names (s : String) : List String :=
  (components s).filter (fun n => n ≠ "" ∧ n ≠ ".")

/-- A path written from its root and names; the empty path is `.`. -/
def assemble (root : String) (ns : List String) : String :=
  let body := "/".intercalate ns
  if root = "" ∧ body = "" then "." else root ++ body

/-- The canonical text of a path: its root, then its names joined by `/`. -/
def canonical (s : String) : String := assemble (rootOf s) (names s)

/-- The parent of a path: the path without its last name, or the path itself when it has no
name. -/
def parent (s : String) : String :=
  let ns := names s
  if ns.isEmpty then canonical s else assemble (rootOf s) ns.dropLast

/-- The last name of a path, or the empty text. -/
def baseName (s : String) : String := (names s).getLast?.getD ""

/-- The suffix of a name: from its last `.`, when that dot is neither first nor last. -/
def nameSuffix (name : String) : String :=
  let cs := name.toList
  match (cs.reverse.findIdx? (· == '.')) with
  | none => ""
  | some k =>
    let i := cs.length - 1 - k
    if 0 < i ∧ i < cs.length - 1 then String.ofList (cs.drop i) else ""

/-- The suffix of the last name of a path. -/
def suffix (s : String) : String := nameSuffix (baseName s)

/-- The path with the suffix of its last name replaced by `sfx`. -/
def withSuffix (s : String) (sfx : String) : String :=
  let ns := names s
  match ns.getLast? with
  | none => s
  | some last =>
    let old := nameSuffix last
    let stem := String.ofList (last.toList.take (last.length - old.length))
    assemble (rootOf s) (ns.dropLast ++ [stem ++ sfx])

/-- Appends `rest` to `base`: an absolute `rest` replaces it. -/
def join (base rest : String) : String :=
  if rest.startsWith "/" then rest
  else if base = "" ∨ base.endsWith "/" then base ++ rest
  else base ++ "/" ++ rest

/-- Folds the names of a path: drops empty names and `.`, and lets `..` cancel the name
before it; a `..` at the top of an absolute path is dropped, and at the top of a relative
path kept. -/
def foldNames (absolute : Bool) (ns : List String) : List String :=
  (ns.foldl (fun acc n =>
    if n = "" ∨ n = "." then acc
    else if n ≠ ".." then n :: acc
    else match acc with
      | [] => if absolute then [] else [n]
      | ".." :: _ => n :: acc
      | _ :: rest => rest) []).reverse

def normalize (s : String) : String :=
  if s = "" then "."
  else
    let lead := if s.startsWith "//" ∧ ¬ s.startsWith "///" then "//"
      else if s.startsWith "/" then "/" else ""
    let body := "/".intercalate (foldNames (lead ≠ "") (components s))
    let out := lead ++ body
    if out = "" then "." else out

/-- The directory part of a path: the text before its last `/`, with trailing separators
removed unless it is made of separators only. -/
def dirName (s : String) : String :=
  let cs := s.toList
  match cs.reverse.findIdx? (· == '/') with
  | none => ""
  | some k =>
    let head := cs.take (cs.length - k)
    if head.all (· == '/') then String.ofList head
    else String.ofList (head.reverse.dropWhile (· == '/')).reverse

/-- The names of the absolute form of `s`, seen from the directory `cwd`. -/
def absoluteNames (cwd s : String) : List String :=
  foldNames true (components (normalize (join cwd s)))

/-- The relative path that leads from the directory `start` to `target`, both seen from the
absolute directory `cwd`. -/
def relative (cwd target start : String) : String :=
  let t := absoluteNames cwd target
  let s := absoluteNames cwd start
  let common := ((t.zip s).takeWhile (fun p => p.1 = p.2)).length
  let steps := List.replicate (s.length - common) ".." ++ t.drop common
  if steps.isEmpty then "." else "/".intercalate steps

/-- Whether the absolute path `p` is `dir` or lies below it, comparing names. -/
def isWithin (p dir : String) : Bool :=
  let a := names p
  let b := names dir
  rootOf p = rootOf dir ∧ a.take b.length = b

end BookLinks.Fs
