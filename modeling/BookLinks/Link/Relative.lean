import BookLinks.Fs.Path
/-! The relative form of a link written from the book root: the path from the directory of
the document to the target, with the fragment kept. -/
namespace BookLinks.Link

/-- The href that reaches the root-relative `path` from the document at `docPath`, seen
from the working directory `cwd`; none when the path names the root itself. -/
def relativeHref (cwd docPath path : String) (fragment : Option String) : Option String :=
  let dest := String.ofList (path.toList.dropWhile (· = '/'))
  if dest.isEmpty then none
  else
    let start := Fs.dirName docPath
    let rel := Fs.relative cwd dest (if start.isEmpty then "." else start)
    some (match fragment with
      | some f => rel ++ "#" ++ f
      | none => rel)

end BookLinks.Link
