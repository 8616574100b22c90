import BookLinks.Book.Load
import BookLinks.Link.Relative
import BookLinks.Markdown.Anchors
import BookLinks.Url.Percent
import BookLinks.Text.CaseMap
/-!
# Links into the file system

A file link is read relative to the directory of the document that holds it, or to the
book root when it starts with `/`. Its query is dropped and its percent escapes decoded,
and the path is then folded and made real. A link to `name.html` is satisfied by
`name.md`, and a link to a directory by its `index.md` or `README.md`. A fragment is
checked against the anchors of the Markdown file it reaches, and a link written from the
root is valid but draws a warning that suggests the relative form.
-/
namespace BookLinks.Book

open BookLinks.Fs BookLinks.Text

structure Target where
  path : String
  outsideRoot : Bool
  absoluteLink : Bool
  deriving Repr, DecidableEq, Inhabited

/-- The path of a link without its query, percent escapes decoded. -/
def linkPath (raw : String) : String :=
  Url.percentDecode (String.ofList (raw.toList.takeWhile (· != '?')))

/-- Where the link `raw`, written in a document of the directory `docDir`, leads from the
book root `root`. -/
def resolveTarget (v : Volume) (root docDir raw : String) : Except RealError Target := do
  let path := linkPath raw
  let absolute := path.startsWith "/"
  let candidate := if absolute then join root (String.ofList (path.toList.dropWhile (· == '/')))
    else join (join root docDir) path
  let real ← v.realPath (normalize candidate)
  pure ⟨real, !isWithin real root, absolute⟩

def lowerSuffix (path : String) : String := String.lower (suffix path)

/-- The names a directory link may stand for, in the order they are tried. -/
def indexNames : List String := ["index.md", "README.md"]

/-- The file a link target stands for: the file itself, the Markdown page of an HTML
name, or the index page of a directory. -/
def existingFile (v : Volume) (path : String) : Option String :=
  if v.isFile path then some path
  else if lowerSuffix path == ".html" && v.isFile (withSuffix path ".md") then
    some (withSuffix path ".md")
  else if v.isDir path then
    (indexNames.map (fun n => join path n)).find? v.isFile
  else none

/-- How file links are checked: the volume, the real book root, whether links may leave
the root, and the working directory that relative suggestions are computed from. -/
structure FileCheck where
  volume : Volume
  root : String
  traverse : Bool
  cwd : String

/-- The anchors of the Markdown file at a path; a file that cannot be read has none. -/
def FileCheck.anchorsAt (c : FileCheck) (path : String) : List String :=
  Markdown.collectAnchors ((c.volume.readTextLossy path).toOption.getD "")

/-- Checks the file link `raw` with its fragment, written in the document `doc`; fails only
when the link's path runs into a loop of links. -/
def FileCheck.check (c : FileCheck) (raw : String) (fragment : Option String)
    (doc : Document) : Except RealError Outcome :=
  if (strip raw).isEmpty && fragment.isNone then .ok (Outcome.warning "empty link target")
  else
    match resolveTarget c.volume c.root doc.directory raw with
    | .error .nullByte => .ok (Outcome.error "file not found")
    | .error e => .error e
    | .ok target =>
      if target.outsideRoot && !c.traverse then
        .ok (Outcome.error "outside book root"
          ["hint: set traverse-parent-directories to allow links outside the book"])
      else
        match existingFile c.volume target.path with
        | none => .ok (Outcome.error "file not found")
        | some found =>
          let fragmentOutcome : Option Outcome :=
            match fragment with
            | some f =>
              if !f.isEmpty && lowerSuffix found == ".md" then
                let o := Markdown.checkFragment f (c.anchorsAt found)
                if o.isValid then none else some o
              else none
            | none => none
          match fragmentOutcome with
          | some o => .ok o
          | none =>
            if target.absoluteLink then
              let notes := match Link.relativeHref c.cwd doc.path raw fragment with
                | some s => ["Suggestion: change the link to \"" ++ s ++ "\""]
                | none => []
              .ok (Outcome.warning "absolute link should be made relative" notes)
            else .ok Outcome.valid

end BookLinks.Book
