import TemplateFunctions.Config.Document

/-!
Loading a configuration: from the file that is given, or from the nearest one above the working
directory.

* `Config.discover`: the nearest configuration file at a path or above it.
* `Config.load`: the configuration with the settings of the command line put over it.
-/

namespace TemplateFunctions

namespace Config

/-- The name of a configuration file. -/
def fileName : Path :=
  "bladefn.toml".toList

/-- The places for a configuration file at a path and above it, the nearest first. The path is
followed upwards as it is written. -/
def candidates (start : Path) : List Path :=
  start.ancestors.map (Path.join · fileName)

/-- The nearest configuration file at a path or above it. -/
def discover (fs : FileSystem) (cwd : Location) (start : Path) : Option Path :=
  (candidates start).find? (fs.isThere cwd)

/-- The configuration that a file gives. -/
def ofFile (fs : FileSystem) (cwd : Location) (path : Path) (decode : Decoder := Decoder.toml) :
    Except Failure Config :=
  match fs.read cwd path with
  | .error cause => .error (.unreadable cause)
  | .ok content => (ofText content decode).map fun c => { c with path := some path }

/-- The file to load: the one that is given, which has to be there, or the nearest one. -/
def source (fs : FileSystem) (cwd : Location) (given : Option Path) :
    Except Failure (Option Path) :=
  match given with
  | some path => if fs.isThere cwd path then .ok (some path) else .error (.notFound path)
  | none => .ok (discover fs cwd (FileSystem.pathOf cwd))

/-- The configuration of the file to load, or the standard one if there is no file. -/
def ofSource (fs : FileSystem) (cwd : Location) (path : Option Path)
    (decode : Decoder := Decoder.toml) : Except Failure Config :=
  match path with
  | some path => ofFile fs cwd path decode
  | none => .ok standard

/-- The configuration with settings put over it, if there are any; it is checked again then. -/
def withOverrides (c : Config) : Option Overrides → Except Failure Config
  | some o => (c.override o).checked
  | none => .ok c

/-- Loads a configuration, with the decoder of TOML documents unless another one is given. -/
def load (fs : FileSystem) (cwd : Location) (given : Option Path) (o : Option Overrides)
    (decode : Decoder := Decoder.toml) : Except Failure Config := do
  let path ← source fs cwd given
  let c ← ofSource fs cwd path decode
  c.withOverrides o

end Config

end TemplateFunctions
