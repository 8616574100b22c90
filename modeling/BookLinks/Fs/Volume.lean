import BookLinks.Fs.Path
import BookLinks.Text.Utf8
import BookLinks.Data.Literal
/-!
# A file system held in memory

Files, directories and symbolic links under one root, addressed by absolute paths. A path
is looked up name by name from the root: `.` stays, `..` goes to the parent, and a link
is replaced by its target, read from the directory that holds the link. A lookup that
follows more than forty links fails as a loop, as does one that runs out of steps. Names
longer than 255 bytes and paths of 4096 bytes or more are refused.
-/
namespace BookLinks.Fs

open BookLinks.Text

inductive Entry where
  | file (bytes : List UInt8)
  | dir
  | link (target : String)
  deriving Repr, Inhabited

inductive FsError where
  | notFound
  | notDirectory
  | isDirectory
  | loop
  | nameTooLong
  | alreadyExists
  deriving Repr, DecidableEq, Inhabited

/-- The number and text of an error, as the system reports them. -/
def FsError.code : FsError → Nat × String
  | .notFound => (2, "No such file or directory")
  | .notDirectory => (20, "Not a directory")
  | .isDirectory => (21, "Is a directory")
  | .loop => (40, "Too many levels of symbolic links")
  | .nameTooLong => (36, "File name too long")
  | .alreadyExists => (17, "File exists")

/-- The message of an error about `path`. -/
def FsError.message (e : FsError) (path : String) : String :=
  "[Errno " ++ toString e.code.1 ++ "] " ++ e.code.2 ++ ": " ++ Data.quoted path

def maxHops : Nat := 40

def maxNameBytes : Nat := 255

def maxPathBytes : Nat := 4096

/-- The names of a path to walk: every name between separators except empty ones. -/
def walkNames (s : String) : List String := (components s).filter (· ≠ "")

/-- A file system: each entry under the absolute names that lead to it without links. -/
structure Volume where
  entries : List (List String × Entry) := []
  deriving Inhabited

namespace Volume

/-- The entry at names that contain no link; the root is a directory. -/
def entryAt (v : Volume) (p : List String) : Option Entry :=
  if p.isEmpty then some .dir else v.entries.lookup p

/-- The steps enough for any lookup: every name of the path, and every name of every link
target for each link it may follow. -/
def stepsFor (v : Volume) (path : String) : Nat :=
  let linkNames := v.entries.foldl (fun n e => match e.2 with
    | .link t => n + (walkNames t).length + 1
    | _ => n) 0
  (walkNames path).length + (maxHops + 1) * (linkNames + 1) + 2

/-- Walks the names `rest` from the directory at `here`, with `hops` links followed so far:
the names of what they lead to, and the links followed. The last name is followed when it
is a link and `follow` is set. -/
def walk (v : Volume) : Nat → Nat → List String → List String → Bool →
    Except FsError (List String × Nat)
  | 0, _, _, _, _ => .error .loop
  | _ + 1, hops, here, [], _ => .ok (here, hops)
  | fuel + 1, hops, here, n :: rest, follow =>
    match v.entryAt here with
    | some .dir =>
      if n == "." then v.walk fuel hops here rest follow
      else if n == ".." then v.walk fuel hops here.dropLast rest follow
      else if (String.utf8Bytes n).length > maxNameBytes then .error .nameTooLong
      else
        let p := here ++ [n]
        match v.entryAt p with
        | some (.link t) =>
          if rest.isEmpty && !follow then .ok (p, hops)
          else if hops ≥ maxHops then .error .loop
          else
            match v.walk fuel (hops + 1) (if t.startsWith "/" then [] else here) (walkNames t) true with
            | .ok (q, h) => v.walk fuel h q rest follow
            | .error e => .error e
        | some _ => v.walk fuel hops p rest follow
        | none => if rest.isEmpty then .ok (p, hops) else .error .notFound
    | some _ => .error .notDirectory
    | none => .error .notFound

/-- The names without links that an absolute path leads to. -/
def locate (v : Volume) (path : String) (follow : Bool) : Except FsError (List String) :=
  if (String.utf8Bytes path).length ≥ maxPathBytes then .error .nameTooLong
  else (v.walk (v.stepsFor path) 0 [] (walkNames path) follow).map Prod.fst

/-- What a path leads to, links followed. -/
def stat (v : Volume) (path : String) : Except FsError Entry := do
  let p ← v.locate path true
  match v.entryAt p with
  | some e => pure e
  | none => throw .notFound

/-- What a path names, a last link not followed. -/
def lstat (v : Volume) (path : String) : Except FsError Entry := do
  let p ← v.locate path false
  match v.entryAt p with
  | some e => pure e
  | none => throw .notFound

def isFile (v : Volume) (path : String) : Bool :=
  match v.stat path with
  | .ok (.file _) => true
  | _ => false

def isDir (v : Volume) (path : String) : Bool :=
  match v.stat path with
  | .ok .dir => true
  | _ => false

def pathExists (v : Volume) (path : String) : Bool :=
  match v.stat path with
  | .ok _ => true
  | _ => false

def isLink (v : Volume) (path : String) : Bool :=
  match v.lstat path with
  | .ok (.link _) => true
  | _ => false

/-- The bytes of the file a path leads to. -/
def readBytes (v : Volume) (path : String) : Except FsError (List UInt8) := do
  match ← v.stat path with
  | .file bs => pure bs
  | .dir => throw .isDirectory
  | .link _ => throw .loop

/-- The names in the directory a path leads to, in the order they were made. -/
def listDir (v : Volume) (path : String) : Except FsError (List String) := do
  let p ← v.locate path true
  match v.entryAt p with
  | some .dir =>
    pure (v.entries.filterMap (fun (q, _) =>
      if q.dropLast == p && q.length == p.length + 1 then q.getLast? else none))
  | some _ => throw .notDirectory
  | none => throw .notFound

def put (v : Volume) (p : List String) (e : Entry) : Volume :=
  if v.entries.any (·.1 == p) then
    ⟨v.entries.map (fun (q, old) => if q == p then (q, e) else (q, old))⟩
  else ⟨v.entries ++ [(p, e)]⟩

def remove (v : Volume) (p : List String) : Volume :=
  ⟨v.entries.filter (·.1 != p)⟩

/-- Makes a directory and any missing directories above it; existing directories are
kept. -/
def makeDirs (v : Volume) (path : String) : Except FsError Volume :=
  (walkNames path).foldlM (fun (acc : Volume × String) n => do
    let (w, at_) := acc
    let next := at_ ++ "/" ++ n
    match w.stat next with
    | .ok .dir => pure (w, next)
    | .ok _ => throw FsError.alreadyExists
    | .error .notFound =>
      let p ← w.locate next false
      match w.entryAt p with
      | some (.link _) =>
        -- a dangling link: make what it points at
        let q ← w.locate next true
        pure (w.put q .dir, next)
      | _ => pure (w.put p .dir, next)
    | .error e => throw e) (v, "") |>.map Prod.fst

/-- Makes one directory: the names above it must lead to a directory, and nothing may
stand at its own name, not even a link that leads nowhere. -/
def makeDir (v : Volume) (path : String) : Except FsError Volume := do
  let p ← v.locate path false
  match v.entryAt p with
  | some _ => throw .alreadyExists
  | none =>
    match v.entryAt p.dropLast with
    | some .dir => pure (v.put p .dir)
    | some _ => throw .notDirectory
    | none => throw .notFound

/-- Makes the directory at `path`, seen from the directory `cwd`, after the missing
directories above it; a directory already there is kept. A failure comes with the path,
written as given, of the directory that could not be made. -/
def makeDirTree (v : Volume) (cwd : String) : Nat → String → Except (FsError × String) Volume
  | 0, path => .error (.notFound, path)
  | fuel + 1, path =>
    let full := join cwd path
    let kept (e : FsError) (w : Volume) : Except (FsError × String) Volume :=
      if w.isDir full then .ok w else .error (e, path)
    match v.makeDir full with
    | .ok w => .ok w
    | .error .notFound =>
      if parent path == path then .error (.notFound, path)
      else match makeDirTree v cwd fuel (parent path) with
        | .ok w =>
          match w.makeDir full with
          | .ok w' => .ok w'
          | .error e => kept e w
        | .error e => .error e
    | .error e => kept e v

/-- Writes a file, replacing one that is there; the directory that holds it must exist. -/
def writeFile (v : Volume) (path : String) (bytes : List UInt8) : Except FsError Volume := do
  let p ← v.locate path true
  match v.entryAt p.dropLast with
  | some .dir =>
    match v.entryAt p with
    | some .dir => throw .isDirectory
    | _ => pure (v.put p (.file bytes))
  | some _ => throw .notDirectory
  | none => throw .notFound

/-- Makes a symbolic link at `path` to `target`. -/
def makeLink (v : Volume) (path : String) (target : String) : Except FsError Volume := do
  let p ← v.locate path false
  match v.entryAt p.dropLast with
  | some .dir =>
    match v.entryAt p with
    | some _ => throw .alreadyExists
    | none => pure (v.put p (.link target))
  | some _ => throw .notDirectory
  | none => throw .notFound

def removeFile (v : Volume) (path : String) : Except FsError Volume := do
  let p ← v.locate path false
  match v.entryAt p with
  | some .dir => throw .isDirectory
  | some _ => pure (v.remove p)
  | none => throw .notFound

end Volume

def pathOf (ns : List String) : String := "/" ++ "/".intercalate ns

/-- Links already met while making a path real: those being followed have no result yet. -/
abbrev Seen := List (List String × Option (List String))

/-- Makes the names `rest` real from the real directory `path`, as far as the volume allows:
links are replaced by where they lead, and names that lead nowhere are kept. The flag is
false when a link leads back to itself; the names are then the link followed by the rest,
unresolved. -/
def Volume.realNames (v : Volume) : Nat → List String → List String → Seen →
    List String × Bool × Seen
  | 0, path, rest, seen => (path ++ rest, false, seen)
  | _ + 1, path, [], seen => (path, true, seen)
  | fuel + 1, path, n :: rest, seen =>
    if n == "" || n == "." then v.realNames fuel path rest seen
    else if n == ".." then v.realNames fuel path.dropLast rest seen
    else
      let newpath := path ++ [n]
      match v.lstat (pathOf newpath) with
      | .ok (.link target) =>
        match seen.lookup newpath with
        | some (some p) => v.realNames fuel p rest seen
        | some none => (newpath ++ rest, false, seen)
        | none =>
          let start := if target.startsWith "/" then [] else path
          let (p, ok, seen) := v.realNames fuel start (components target)
            ((newpath, none) :: seen)
          if !ok then (p ++ rest, false, seen)
          else v.realNames fuel p rest ((newpath, some p) :: seen)
      | _ => v.realNames fuel newpath rest seen

inductive RealError where
  /-- The path holds a zero character. -/
  | nullByte
  /-- Looking up the path made real runs into a loop of links. -/
  | loop (path : String)
  deriving Repr, DecidableEq

def RealError.message : RealError → String
  | .nullByte => "embedded null byte"
  | .loop p => "Symlink loop from " ++ Data.quoted p

/-- The real form of an absolute path: links replaced by where they lead, `.` and `..`
folded; names that lead nowhere stay as written, and so does a link met again while it is
being followed, with the rest of the path after it. Only a result whose own lookup runs into
a loop of links is refused. -/
def Volume.realPath (v : Volume) (path : String) : Except RealError String :=
  if path.toList.contains (Char.ofNat 0) then .error .nullByte
  else
    let fuel := (components path).length + 2 +
      v.entries.foldl (fun n e => match e.2 with
        | .link t => n + 2 * ((components t).length + 2)
        | _ => n) 0
    let result := pathOf (foldNames true (v.realNames fuel [] (components path) []).1)
    match v.stat result with
    | .error .loop => .error (.loop result)
    | _ => .ok result

/-- The text of a file: its bytes decoded, and each line break written `\r\n` or `\r`
made a line feed. -/
def universalNewlines : List Char → List Char
  | '\r' :: '\n' :: rest => '\n' :: universalNewlines rest
  | '\r' :: rest => '\n' :: universalNewlines rest
  | c :: rest => c :: universalNewlines rest
  | [] => []

/-- Why a file could not be read as text. -/
inductive ReadError where
  | fs (e : FsError)
  | undecodable (bytes : List UInt8) (e : Utf8Error)
  deriving Repr

/-- Reads a file as UTF-8 text with line breaks made line feeds. -/
def Volume.readText (v : Volume) (path : String) : Except ReadError String :=
  match v.readBytes path with
  | .error e => .error (.fs e)
  | .ok bs => match decodeUtf8 bs with
    | .ok cs => .ok (String.ofList (universalNewlines cs))
    | .error e => .error (.undecodable bs e)

/-- Reads a file as text, each faulty sequence a replacement character. -/
def Volume.readTextLossy (v : Volume) (path : String) : Except FsError String :=
  (v.readBytes path).map (fun bs => String.ofList (universalNewlines (decodeLossy bs)))

end BookLinks.Fs
