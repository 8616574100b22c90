import BookLinks.Cli.Run
import Std.Time.DateTime.Timestamp
/-!
# The command

`mdlinkcheck [options] [path]` checks the links and images of the book in `path` and
prints its report; see `BookLinks.Cli` for the options and what a run does.

The files a run may read are named on standard input, one path per line, relative to the
working directory or absolute; a path that ends in `/` names a directory. They, and the
directories above them, make the file system the check sees; a file that cannot be read
is left out. Files the run writes, the cache and the log file, are written back. There is
no network: every web request fails as unreachable. Warnings and errors logged by the run
are printed on standard error.
-/
namespace BookLinks.Cli

/-- The answer to every web request when there is no network. -/
def offline : Web.Response := .unreachable "network access is not available"

def consoleLine (r : LogRecord) : String := programName ++ ": " ++ r.line

/-- The files of `after` that are new or changed since `before`, with their absolute
paths. -/
def changedFiles (before after : Fs.Volume) : List (String × List UInt8) :=
  after.entries.filterMap fun (names, entry) =>
    match entry, before.entries.lookup names with
    | .file bytes, some (.file old) => if old == bytes then none else some (Fs.pathOf names, bytes)
    | .file bytes, _ => some (Fs.pathOf names, bytes)
    | _, _ => none

/-- The volume of the named paths, seen from `cwd`, once their contents are read. -/
def volumeOf (cwd : String) (named : List (String × Option (List UInt8))) : Fs.Volume :=
  named.foldl (fun v (path, contents) =>
    let full := Fs.normalize (Fs.join cwd path)
    match contents with
    | none => (v.makeDirs full).toOption.getD v
    | some bytes =>
      let w := (v.makeDirs (Fs.parent full)).toOption.getD v
      (w.writeFile full bytes).toOption.getD w) ((({} : Fs.Volume).makeDirs cwd).toOption.getD {})

end BookLinks.Cli

open BookLinks BookLinks.Cli in
/-- Reads the named files, runs the command, prints what it printed, and writes back the
files it wrote. -/
def main (args : List String) : IO UInt32 := do
  let cwd := (← IO.getEnv "PWD").getD "/"
  let stdin ← IO.getStdin
  let lines ← stdin.lines
  let named ← (lines.toList.filter (· ≠ "")).filterMapM fun path => do
    if path.endsWith "/" then return some (path, none)
    match ← (IO.FS.readBinFile (Fs.normalize (Fs.join cwd path))).toBaseIO with
    | .ok bytes => return some (path, some bytes.toList)
    | .error _ => return none
  let volume := volumeOf cwd named
  let now ← Std.Time.Timestamp.now
  let clock := Float.ofInt now.toMillisecondsSinceUnixEpoch.val / 1000
  let inv : Invocation := ⟨volume, cwd, args, [], .standard, { fallback := offline }, clock⟩
  match inv.run with
  | .error crash =>
    IO.eprintln (programName ++ ": " ++ crash.message)
    return 1
  | .ok done =>
    IO.print done.stdout
    IO.eprint done.stderr
    for r in done.logs do IO.eprintln (consoleLine r)
    for (path, bytes) in changedFiles volume done.volume do
      IO.FS.createDirAll (Fs.parent path)
      IO.FS.writeBinFile path (ByteArray.mk bytes.toArray)
    return done.status.toUInt32
