import TemplateFunctions.FileSystem
import TemplateFunctions.Session
import TemplateFunctions.Text.Ranges

/-!
Configurations: the target, the context parameter and the names of the directives.

* `Config.flaw?`: the first thing that makes a configuration unusable.
* `Config.emitter`: the emitter that a configuration asks for; a context that is not configured is
  the default one of the target.
* `Config.override`: a configuration with settings of the command line put over it.
-/

namespace TemplateFunctions

/-- What is configured, and the file that it comes from. -/
structure Config where
  target : Target
  context : Option Text
  names : DirectiveNames
  path : Option Path
  deriving DecidableEq, Repr

/-- What may be set on the command line. -/
structure Overrides where
  target : Option Target
  context : Option Text
  deriving DecidableEq, Repr

/-- No settings. -/
def Overrides.none : Overrides :=
  ⟨.none, .none⟩

namespace Config

/-- The configuration where nothing is configured. -/
def standard : Config :=
  ⟨.php, none, .standard, none⟩

/-! ### Checking -/

/-- What can make a configuration unusable. -/
inductive Flaw where
  | blankContext
  | names (flaw : DirectiveNames.Flaw)
  deriving DecidableEq, Repr

/-- The message about an unusable configuration. -/
def Flaw.message : Flaw → Text
  | blankContext => "emit.context_var cannot be empty".toList
  | names flaw => flaw.message

/-- Whether a context is configured that is white space only. -/
def hasBlankContext (c : Config) : Bool :=
  (c.context.map (·.all Text.isWhite)).getD false

/-- The first thing that makes the configuration unusable. -/
def flaw? (c : Config) : Option Flaw :=
  if c.hasBlankContext then some .blankContext else c.names.check.map .names

/-! ### Using -/

/-- The emitter that the configuration asks for. -/
def emitter (c : Config) : Emitter :=
  .ofTarget c.target c.context

/-- The session in which a template is compiled under the configuration. -/
def session (c : Config) : Session :=
  .start c.emitter c.names

/-- The configuration with the settings put over it. -/
def override (c : Config) (o : Overrides) : Config :=
  { c with target := o.target.getD c.target, context := o.context.or c.context }

@[simp] theorem override_none (c : Config) : c.override .none = c := by
  cases c; rfl

/-! ### Failures -/

/-- Why there is no configuration. The decoder of a malformed file may say what is wrong with it. -/
inductive Failure where
  | notFound (path : Path)
  | unreadable (cause : FileSystem.Failure)
  | malformed {detail : Option Text}
  | unusable (flaw : Flaw)
  deriving DecidableEq, Repr

/-- The message about a missing configuration. -/
def Failure.message : Failure → Text
  | notFound path => "Configuration file not found: ".toList ++ path
  | unreadable cause => "I/O error: ".toList ++ cause.message
  | @malformed detail => "TOML parse error".toList ++ (detail.map (": ".toList ++ ·)).getD []
  | unusable flaw => "Configuration error: ".toList ++ flaw.message

/-- The configuration itself, if it is usable. -/
def checked (c : Config) : Except Failure Config :=
  match c.flaw? with
  | some flaw => .error (.unusable flaw)
  | none => .ok c

/-- A configuration that passes the check is unchanged and has no flaw. -/
theorem checked_eq_ok_iff {c d : Config} : c.checked = .ok d ↔ c = d ∧ c.flaw? = none := by
  rw [checked]
  cases h : c.flaw? <;> simp

end Config

end TemplateFunctions
