import BookLinks.Book.Document
import BookLinks.Fs.Volume
import BookLinks.Log
/-!
# Reading a book

A book is every Markdown file below its root directory: files whose suffix is `.md` or
`.markdown` in any case. Directories are visited in name order after the files beside
them; hidden directories, version-control and tool directories are skipped, and links to
directories are not followed. A file that is not UTF-8 is left out with a warning.
-/
namespace BookLinks

/-- The documents of a book and the real path of its root. -/
structure Book where
  root : String
  documents : List Book.Document
  deriving Inhabited

end BookLinks

namespace BookLinks.Book

open BookLinks.Fs

def excludedDirs : List String := [".git", ".hg", ".svn", ".linkcheck", "node_modules", "__pycache__"]

def isBookDir (name : String) : Bool := !excludedDirs.contains name && !name.startsWith "."

def isMarkdownName (name : String) : Bool :=
  let sfx := String.ofList ((nameSuffix name).toList.map Char.toLower)
  sfx == ".md" || sfx == ".markdown"

def sortNames (ns : List String) : List String := ns.mergeSort (fun a b => !(b < a))

/-- The Markdown files below the directory `dir`, as paths relative to the root written
`rel`: the files of `dir` in name order, then those of each directory in name order. -/
def markdownFiles (v : Volume) : Nat → String → String → List String
  | 0, _, _ => []
  | fuel + 1, dir, rel =>
    let names := (v.listDir dir).toOption.getD []
    let isDirName (n : String) : Bool := v.isDir (dir ++ "/" ++ n)
    let relOf (n : String) : String := if rel.isEmpty then n else rel ++ "/" ++ n
    let files := sortNames (names.filter (fun n => !isDirName n && isMarkdownName n))
    let dirs := sortNames (names.filter (fun n => isDirName n && isBookDir n))
    files.map relOf ++ dirs.flatMap (fun d =>
      if v.isLink (dir ++ "/" ++ d) then [] else markdownFiles v fuel (dir ++ "/" ++ d) (relOf d))

inductive LoadError where
  /-- The root is not a directory. -/
  | noRoot (root : String)
  /-- The root could not be made real. -/
  | badRoot (e : RealError)
  /-- A file could not be read. -/
  | unreadable (e : FsError) (path : String)
  deriving Repr

def LoadError.message : LoadError → String
  | .noRoot root => "Book directory not found: " ++ root
  | .badRoot e => e.message
  | .unreadable e path => e.message path

/-- Reads the book whose root is the absolute path `dir`: its documents in walk order and
the warnings about files left out. -/
def load (v : Volume) (dir : String) : Except LoadError (Book × List LogRecord) := do
  let root ← (v.realPath dir).mapError .badRoot
  if !v.isDir root then throw (.noRoot root)
  let paths := markdownFiles v (v.entries.length + 1) root ""
  let (docs, logs) ← paths.foldlM (fun (acc : List Document × List LogRecord) rel => do
    let (docs, logs) := acc
    let full := root ++ "/" ++ rel
    match v.readText full with
    | .ok text => pure (docs ++ [Document.make rel text], logs)
    | .error (.undecodable _ _) =>
      pure (docs, logs ++ [LogRecord.warning ("Skipping " ++ rel ++ " because it is not valid UTF-8")])
    | .error (.fs e) => throw (.unreadable e full)) ([], [])
  pure (⟨root, docs⟩, logs)

end BookLinks.Book
