import TemplateFunctions.CommandLine
import TemplateFunctions.Config.Load
import TemplateFunctions.Declaration.Report
import TemplateFunctions.Outcome
import TemplateFunctions.Text.LowerCase

/-!
The commands of the program, on a tree of files.

* `compileFile`: the compiled text of a template file, and the functions that it declares.
* `compile`, `check`, `extract`, `init`: the four commands.
* `run`: what an invocation does, with the configuration that it needs.
-/

namespace TemplateFunctions

namespace Program

open CommandLine

/-! ### Texts -/

/-- The name of the program. -/
def name : Text :=
  "bladefn".toList

/-- The version of the program. -/
def version : Text :=
  "0.2.0".toList

/-- A label and a text on a line. -/
def line (label : String) (t : Text) : Text :=
  label.toList ++ t ++ ['\n']

/-- A text that is printed only on demand. -/
def onDemand (verbose : Bool) (t : Text) : Text :=
  if verbose then t else []

/-- What the program prints when it is asked for its version. -/
def versionLine : Text :=
  name ++ ' ' :: version ++ ['\n']

/-! ### Compiling a file -/

/-- A compiled template, and the functions that are declared after it. -/
structure Compiled where
  output : Text
  functions : List Text
  deriving DecidableEq, Repr

/-- Compiles a template file under a configuration. -/
def compileFile (fs : FileSystem) (cwd : Location) (config : Config) (file : Path) :
    Except Failure Compiled :=
  match fs.read cwd file with
  | .error cause => .error (.unreadable file cause)
  | .ok source =>
    match config.session.compile source with
    | (.ok output, after) => .ok ⟨output, after.table.declared⟩
    | (.error fault, _) => .error (.uncompiled file fault)

/-- What is announced before a template is compiled. -/
def announcement (config : Config) (file : Path) : Text :=
  line "🔧 Compiling template: " file ++ line "🎯 Target: " config.target.label
    ++ (config.path.map (line "⚙\ufe0f  Config: ")).getD []

/-- Puts the compiled text where it belongs: into the output file, or out. -/
def deliver (fs : FileSystem) (cwd : Location) (output : Option Path) (t : Text) : Outcome :=
  match output with
  | none => .printed fs t
  | some path =>
    match fs.write cwd path t with
    | .ok after => ⟨[], line "✅ Compiled template written to: " path, none, after⟩
    | .error cause => .failed fs (.unwritable path cause)

/-- Compiles a template file. -/
def compile (fs : FileSystem) (cwd : Location) (config : Config) (file : Path)
    (output : Option Path) (verbose : Bool) : Outcome :=
  Outcome.noticing (onDemand verbose (announcement config file)) <|
    match compileFile fs cwd config file with
    | .ok compiled => deliver fs cwd output compiled.output
    | .error failure => .failed fs failure

/-! ### The other commands -/

/-- The functions of a template, one a line. -/
def functionLines (functions : List Text) : Text :=
  if functions = [] then line "📋 No template functions declared" []
  else
    line "📋 Template functions (" (Nat.toDigits 10 functions.length ++ "):".toList)
      ++ functions.flatMap (line "   @")

/-- Compiles a template file and lists the functions that it declares. -/
def check (fs : FileSystem) (cwd : Location) (config : Config) (file : Path) (verbose : Bool) :
    Outcome :=
  Outcome.printing (onDemand verbose (line "🔍 Checking template: " file)) <|
    match compileFile fs cwd config file with
    | .ok compiled =>
      .printed fs (line "✅ Template compiles" [] ++ functionLines compiled.functions)
    | .error failure => .failed fs failure

/-- Shows the declaration that a text gives. -/
def extract (fs : FileSystem) (t : Text) (asJson : Bool) : Outcome :=
  match Declaration.report t asJson with
  | .ok report => .printed fs (line "" report)
  | .error unnamed => .failed fs (.unnamed unnamed)

/-- The file for a scaffold where none is given. -/
def scaffoldFile (name : Text) : Path :=
  Text.lower name ++ ".blade.php".toList

/-- What is printed about a new scaffold. -/
def scaffoldLines (file : Path) : Text :=
  line "✅ Created template: " file
    ++ line "📝 Compile it with: bladefn compile "
      (file ++ " --target ".toList ++ Target.php.label)

/-- Writes a scaffold for a name. -/
def init (fs : FileSystem) (cwd : Location) (name : Text) (output : Option Path)
    (verbose : Bool) : Outcome :=
  Outcome.printing (onDemand verbose (line "🏗\ufe0f Initializing template function: " name)) <|
    match Scaffold.render name with
    | .error misnamed => .failed fs (.misnamed misnamed)
    | .ok content =>
      let file := output.getD (scaffoldFile name)
      match fs.write cwd file content with
      | .ok after => ⟨scaffoldLines file, [], none, after⟩
      | .error cause => .failed fs (.unsaved cause)

/-! ### Running -/

/-- Goes on with the configuration, or fails without one. -/
def withConfig (fs : FileSystem) (config : Except Config.Failure Config) (go : Config → Outcome) :
    Outcome :=
  match config with
  | .ok c => go c
  | .error failure => .failed fs (.config failure)

/-- What a command does. Only compiling and checking need a configuration; compiling puts its own
settings over it. -/
def perform (fs : FileSystem) (cwd : Location) (i : Invocation)
    (decode : Config.Decoder := Config.Decoder.toml) : Outcome :=
  match i.command with
  | .compile file output settings =>
    withConfig fs (Config.load fs cwd i.config (some settings) decode) fun c =>
      compile fs cwd c file output i.verbose
  | .check file =>
    withConfig fs (Config.load fs cwd i.config none decode) fun c => check fs cwd c file i.verbose
  | .extract t asJson => extract fs t asJson
  | .init name output => init fs cwd name output i.verbose

/-- What an invocation does: the name and the version first, if it is to say more, then the
command. Its error stream is meant without log lines, the only output that depends on the
environment. -/
def run (fs : FileSystem) (cwd : Location) (i : Invocation)
    (decode : Config.Decoder := Config.Decoder.toml) : Outcome :=
  Outcome.noticing (onDemand i.verbose (name ++ " v".toList ++ version ++ ['\n']))
    (perform fs cwd i decode)

/-- The paths that an invocation may follow: the files that it names, and the configuration files
above the working directory. -/
def paths (cwd : Location) (i : Invocation) : List Path :=
  let configs :=
    match i.config with
    | some path => [path]
    | none => Config.candidates (FileSystem.pathOf cwd)
  match i.command with
  | .compile file output _ => file :: (output.toList ++ configs)
  | .check file => file :: configs
  | .extract _ _ => []
  | .init name output => [output.getD (scaffoldFile name)]

/-- What a command line does. Nothing comes of words that make no sense. -/
def answer (fs : FileSystem) (cwd : Location) (words : List Text)
    (decode : Config.Decoder := Config.Decoder.toml) : Option Outcome :=
  match Request.ofWords words with
  | .version => some (.printed fs versionLine)
  | .misuse => none
  | .run i => some (run fs cwd i decode)

end Program

end TemplateFunctions
