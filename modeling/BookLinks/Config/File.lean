import BookLinks.Config.Settings
import BookLinks.Yaml.Load
import BookLinks.Fs.Volume
/-!
# Settings files

A book keeps its settings in a YAML file, `.linkcheck.yml`, in its root. Loading settings
from a directory reads that file; a path that is not a directory names the file itself,
after its links are followed. A file that does not exist gives the default settings, and
so does one that is blank, holds no document, or holds a value that counts as false (null,
false, zero, an empty text or collection). Any other document must be a mapping of
settings.
-/
namespace BookLinks.Config

open BookLinks.Data

def settingsFileName : String := ".linkcheck.yml"

inductive FileError where
  /-- The file's settings are refused, or it is not YAML, or not a mapping. -/
  | settings (e : ConfigError)
  /-- The file could not be read as UTF-8 text. -/
  | unreadable (e : Fs.ReadError) (path : String)
  /-- The file's path leads round a loop of links. -/
  | badPath (e : Fs.RealError)
  /-- A scalar of the file has no value of the type its tag names; `text` is the file's
  text, which the message quotes. -/
  | badValue (e : Yaml.LoadError) (text : String)

def FileError.message : FileError → String
  | .settings e => e.message
  | .unreadable (.fs e) path => e.message path
  | .unreadable (.undecodable bs e) _ => Text.Utf8Error.message bs e
  | .badPath e => e.message
  | .badValue e text => e.message (text.toList ++ ['\x00']).toArray

/-- Settings from the mapping a settings file holds, by the rules above; `name` is the
file's name for messages. -/
def settingsOfText (name : String) (text : String) : Except FileError Settings := do
  if Text.isAllBlank text then return {}
  match Yaml.load text with
  | .error e =>
    if e.isSyntax then
      throw (.settings (.unreadable name (e.message (text.toList ++ ['\x00']).toArray)))
    else throw (.badValue e text)
  | .ok none => return {}
  | .ok (some doc) =>
    if !doc.truthy then return {}
    match doc with
    | .map entries => (Settings.ofMapping entries).mapError .settings
    | _ => throw (.settings (.notMapping name))

/-- Loads the settings at `path` in a volume: the settings file of a directory, or the file
the path names. -/
def loadSettings (v : Fs.Volume) (path : String) : Except FileError Settings := do
  let target := if v.isDir path then Fs.join path settingsFileName else path
  let file ← (v.realPath target).mapError .badPath
  if !v.pathExists file then return {}
  let text ← (v.readText file).mapError (FileError.unreadable · file)
  settingsOfText (Fs.baseName file) text

end BookLinks.Config
