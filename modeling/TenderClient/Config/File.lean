import TenderClient.Config.Yaml
/-!
# The configuration file on disk

The files a run can see, by path. The configuration lives in
`<home>/.tenderwatch/config.yaml`. Saving validates the configuration first and touches no
file when it is invalid; otherwise it writes the YAML text to the sibling
`config.yaml.tmp` and renames that over the configuration file, so the file is replaced in
one step and the temporary file does not stay. Loading reads the configuration file, when
there is one, and validates it. Directories and access rights are not kept.
-/

set_option autoImplicit false

namespace TenderClient

/-- The contents of the files, by path. -/
structure Files where
  contents : String → Option String

namespace Files

/-- Writes a file, replacing what was there. -/
def write (fs : Files) (path text : String) : Files :=
  ⟨fun p => if p = path then some text else fs.contents p⟩

/-- Moves a file to another path, replacing what was there. -/
def rename (fs : Files) (src dst : String) : Files :=
  ⟨fun p => if p = dst then fs.contents src else if p = src then none else fs.contents p⟩

@[simp] theorem contents_write (fs : Files) (path text p : String) :
    (fs.write path text).contents p = if p = path then some text else fs.contents p := rfl

@[simp] theorem contents_rename (fs : Files) (src dst p : String) :
    (fs.rename src dst).contents p =
      if p = dst then fs.contents src else if p = src then none else fs.contents p := rfl

end Files

/-- The temporary sibling of the configuration file, written before it is renamed. -/
def configTmpPath (home : String) : String := configPath home ++ ".tmp"

namespace ClientConfig

/-- Saves a configuration under a home directory: an invalid one is refused and no file
changes; a valid one is written to the temporary file, which is then renamed over the
configuration file. Gives the path written and the files after. -/
def saveAt (fs : Files) (home : String) (c : ClientConfig) : Except ConfigError String × Files :=
  match c.save home with
  | .error e => (.error e, fs)
  | .ok (path, text) =>
    let tmp := configTmpPath home
    (.ok path, (fs.write tmp text).rename tmp path)

/-- Loads the configuration under a home directory, reading YAML streams with `read`. -/
def loadAtWith (read : String → Yaml.Stream) (fs : Files) (home : String) :
    Except ConfigError ClientConfig :=
  loadWith read home (fs.contents (configPath home))

/-- Loads the configuration under a home directory. -/
def loadAt (fs : Files) (home : String) : Except ConfigError ClientConfig :=
  loadAtWith Yaml.Stream.read fs home

end ClientConfig

end TenderClient
