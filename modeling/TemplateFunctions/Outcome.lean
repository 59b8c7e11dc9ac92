import TemplateFunctions.Config
import TemplateFunctions.Scaffold
import TemplateFunctions.Template.Reading

/-!
Outcomes: what a command prints, how it fails, and what it leaves on the disk.

* `Failure.chain`: the messages about a failure, from the outermost to the innermost.
* `Failure.report`: the same as printed, one message a line, the causes indented and, if there are
  several, numbered.
* `Outcome`: the printed text, the failure if there is one, and the tree of files afterwards.
-/

namespace TemplateFunctions

/-! ### Failures -/

/-- Why a command fails. -/
inductive Failure where
  | config (cause : Config.Failure)
  | unreadable (file : Path) (cause : FileSystem.Failure)
  | uncompiled (file : Path) (fault : Template.Fault)
  | unwritable (file : Path) (cause : FileSystem.Failure)
  | unnamed (cause : Declaration.Unnamed)
  | misnamed (cause : Scaffold.Misnamed)
  | unsaved (cause : FileSystem.Failure)
  deriving DecidableEq, Repr

namespace Failure

/-- The outermost message about a failure. -/
def headline : Failure → Text
  | config cause => cause.message
  | unreadable file _ => "Failed to read template file: ".toList ++ file
  | uncompiled file _ => "Failed to compile ".toList ++ file
  | unwritable file _ => "Failed to write ".toList ++ file
  | unnamed cause => cause.message
  | misnamed cause => cause.message
  | unsaved cause => cause.message

/-- The messages about the causes of a failure. -/
def causes : Failure → List Text
  | config (.unreadable cause) => [cause.message]
  | config (@Config.Failure.malformed detail) => detail.toList
  | config (.notFound _) | config (.unusable _) => []
  | unreadable _ cause => [cause.message]
  | uncompiled _ fault => [fault.message, fault.cause.message]
  | unwritable _ cause => [cause.message]
  | unnamed _ | misnamed _ | unsaved _ => []

/-- All messages about a failure. -/
def chain (f : Failure) : List Text :=
  f.headline :: f.causes

/-- The message with further lines indented by `n` blanks. -/
def indented (n : Nat) (message : Text) : Text :=
  message.flatMap fun c => if c = '\n' then '\n' :: List.replicate n ' ' else [c]

/-- A number and a message, on a line of its own. -/
def numberedLine (n : Nat) (message : Text) : Text :=
  let number := Nat.toDigits 10 n
  '\n' :: (List.replicate (5 - number.length) ' ' ++ number ++ ": ".toList ++ indented 7 message)

/-- The causes below the headline. One cause stands alone, several are numbered from zero. -/
def causeLines : List Text → Text
  | [] => []
  | [cause] => "\n\nCaused by:\n    ".toList ++ indented 4 cause
  | causes =>
    "\n\nCaused by:".toList
      ++ (causes.zipIdx.flatMap fun (message, n) => numberedLine n message)

/-- A failure as printed. -/
def report (f : Failure) : Text :=
  "Error: ".toList ++ f.headline ++ causeLines f.causes ++ ['\n']

end Failure

/-! ### Outcomes -/

/-- What a command prints as its result and as notices, how it fails, and the files it leaves. -/
structure Outcome where
  stdout : Text
  notices : Text
  failure : Option Failure
  files : FileSystem
  deriving DecidableEq, Repr

namespace Outcome

/-- The exit code: one after a failure. -/
def exit (o : Outcome) : Nat :=
  if o.failure.isSome then 1 else 0

theorem exit_eq_one_iff {o : Outcome} : o.exit = 1 ↔ o.failure.isSome = true := by
  rw [exit]
  split <;> simp [*]

theorem exit_eq_zero_iff {o : Outcome} : o.exit = 0 ↔ o.failure = none := by
  rw [exit, ← Option.not_isSome_iff_eq_none]
  split <;> simp [*]

/-- What goes to the error stream: the notices and the report on a failure. Log lines, which the
verbose flag or the environment asks for, are left out. -/
def stderr (o : Outcome) : Text :=
  o.notices ++ (o.failure.map Failure.report).getD []

/-- The outcome of a failure that leaves all files alone. -/
def failed (fs : FileSystem) (f : Failure) : Outcome :=
  ⟨[], [], some f, fs⟩

/-- The outcome of printing a text. -/
def printed (fs : FileSystem) (stdout : Text) : Outcome :=
  ⟨stdout, [], none, fs⟩

/-- The outcome with notices in front of its own. -/
def noticing (notices : Text) (o : Outcome) : Outcome :=
  { o with notices := notices ++ o.notices }

/-- The outcome with text in front of its own. -/
def printing (stdout : Text) (o : Outcome) : Outcome :=
  { o with stdout := stdout ++ o.stdout }

end Outcome

end TemplateFunctions
