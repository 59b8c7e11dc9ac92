import TemplateFunctions.Declaration
import TemplateFunctions.Target

/-!
Fragments: the text that takes the place of a directive in the compiled template.

An emitter writes for one target and passes one context parameter, last, to every function that it
declares and calls. A parameter or argument list is trimmed first; a list that is not empty then is
joined to the context by ` , `.

* `Emitter.prologue`, `Emitter.call`, `Emitter.close`, `Emitter.returnValue`: the four fragments.
* `Emitter.leadIn`: what a list puts before the context parameter.
-/

namespace TemplateFunctions

/-- A target together with the name of the context parameter. -/
structure Emitter where
  target : Target
  context : Text
  deriving DecidableEq, Repr

namespace Emitter

/-- The emitter for a target with the context given, or with the default one of the target. -/
def ofTarget (target : Target) (context : Option Text) : Emitter :=
  ⟨target, context.getD target.defaultContext⟩

/-! ### Lists -/

/-- The characters that are trimmed off a list. -/
def isMargin (c : Char) : Bool :=
  c == ' ' || c == '\t' || c == '\n' || c == '\r' || c == '\x00' || c == '\x0b'

/-- What leads from a list to the context parameter. -/
def separator : Text :=
  " , ".toList

/-- The trimmed list with the separator behind it, or nothing for a blank list. -/
def leadIn (list : Text) : Text :=
  let trimmed := Text.trim isMargin list
  if trimmed = [] then [] else trimmed ++ separator

/-! ### Fragments -/

/-- The fragment that opens the definition of a function. -/
def prologue (e : Emitter) (d : Declaration) : Text :=
  match e.target with
  | .php =>
    "<?php function ".toList ++ d.name ++ " ( ".toList ++ leadIn d.params ++ "  ".toList
      ++ e.context ++ " ) \x7b ?>".toList
  | .pseudo =>
    "BEGIN_FUNC ".toList ++ d.name ++ " ( ".toList ++ leadIn d.params ++ e.context ++ " )".toList

/-- The fragment that calls a function. -/
def call (e : Emitter) (name args : Text) : Text :=
  match e.target with
  | .php =>
    "<?php ".toList ++ name ++ " (".toList ++ leadIn args ++ " ".toList ++ e.context
      ++ "); ?>".toList
  | .pseudo => "CALL ".toList ++ name ++ " ( ".toList ++ leadIn args ++ e.context ++ " )".toList

/-- The fragment that ends the definition of a function. -/
def close (e : Emitter) : Text :=
  match e.target with
  | .php => "<?php \x7d ?>".toList
  | .pseudo => "END_FUNC".toList

/-- The fragment that returns a value; the expression goes in as it is. -/
def returnValue (e : Emitter) (expression : Text) : Text :=
  match e.target with
  | .php => "<?php return (".toList ++ expression ++ "); ?>".toList
  | .pseudo => "RETURN (".toList ++ expression ++ ")".toList

end Emitter

end TemplateFunctions
