import TemplateFunctions.Directive.Table
import TemplateFunctions.Identifier

/-!
The names under which the function directives are installed.

The directive that returns a value is optional: an empty name leaves it out.

* `DirectiveNames.enabled`: the names in use, each with the directive that it stands for.
* `DirectiveNames.check`: the first thing that is wrong with the names.
* `DirectiveNames.install`: the table with the directives under their names.
-/

namespace TemplateFunctions

/-- The names of the directives that declare a function, close it and return from it. -/
structure DirectiveNames where
  declare : Text
  close : Text
  returnValue : Text
  deriving DecidableEq, Repr

namespace DirectiveNames

/-- The names where none are configured. -/
def standard : DirectiveNames :=
  ⟨"function".toList, "endfunction".toList, "return".toList⟩

/-- The three directives that have a configured name. -/
inductive Role where
  | declare
  | close
  | returnValue
  deriving DecidableEq, Repr

/-- The key of a role in a configuration. -/
def Role.key : Role → Text
  | .declare => "directives.function".toList
  | .close => "directives.endfunction".toList
  | .returnValue => "directives.return".toList

/-- What a role does. -/
def Role.directive : Role → Directive
  | .declare => .declare
  | .close => .close
  | .returnValue => .returnValue

/-- The name of the returning directive, if it is in use. -/
def returnValue? (names : DirectiveNames) : Option Text :=
  if names.returnValue = [] then none else some names.returnValue

/-- The names in use, in the order of their installation. -/
def enabled (names : DirectiveNames) : List (Role × Text) :=
  [(.declare, names.declare), (.close, names.close)]
    ++ names.returnValue?.toList.map fun name => (.returnValue, name)

/-! ### Checking -/

/-- What can be wrong with the names. -/
inductive Flaw where
  | notIdentifier (role : Role) (name : Text)
  | shared (role other : Role) (name : Text)
  deriving DecidableEq, Repr

/-- The message about wrong names. -/
def Flaw.message : Flaw → Text
  | notIdentifier role name =>
    role.key ++ " must be a valid directive name, got '".toList ++ name ++ "'".toList
  | shared role other name =>
    role.key ++ " and ".toList ++ other.key ++ " both use the name '".toList ++ name ++ "'".toList

/-- The first name that is no identifier. -/
def firstMisnamed? (entries : List (Role × Text)) : Option Flaw :=
  (entries.find? fun e => !isIdentifier e.2).map fun (role, name) => .notIdentifier role name

/-- The first name that a later role has too. -/
def firstShared? : List (Role × Text) → Option Flaw
  | [] => none
  | (role, name) :: entries =>
    match entries.find? fun e => e.2 == name with
    | some (other, _) => some (.shared role other name)
    | none => firstShared? entries

/-- The first thing that is wrong with the names: wrong names come before shared ones. -/
def check (names : DirectiveNames) : Option Flaw :=
  (firstMisnamed? names.enabled).or (firstShared? names.enabled)

/-! ### Installing -/

/-- The table with the directives under their names. Of equal names the last one wins. -/
def install (names : DirectiveNames) (table : Table) : Table :=
  names.enabled.foldl (fun table (role, name) => table.insert name role.directive) table

end DirectiveNames

end TemplateFunctions
