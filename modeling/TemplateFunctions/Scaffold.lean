import TemplateFunctions.Identifier

/-!
The scaffold: a sample template that declares one function and calls it.

* `Scaffold.text`: the scaffold for a name.
* `Scaffold.render`: the same, for a name that is an identifier.
-/

namespace TemplateFunctions

namespace Scaffold

/-- The parameters of the sample function. -/
def params : Text :=
  "$title, $items = []".toList

/-- The body of the sample function behind the first quotation mark. -/
def body : Text :=
  "\">\n    <h2>\x7b\x7b $title \x7d\x7d</h2>\n    <ul>\n    @foreach($items as $item)\n".toList
    ++ "        <li>\x7b\x7b $item \x7d\x7d</li>\n    @endforeach\n    </ul>\n</section>\n".toList

/-- The arguments of the sample call. -/
def args (name : Text) : Text :=
  '\'' :: (name ++ " example', ['first', 'second']".toList)

/-- The scaffold for a name. -/
def text (name : Text) : Text :=
  "@function(".toList ++ name ++ '(' :: (params ++ "))\n<section class=\"".toList ++ name ++ body
    ++ "@endfunction\n\n@".toList ++ name ++ '(' :: (args name ++ ")\n".toList))

/-- A name for which there is no scaffold. -/
structure Misnamed where
  name : Text
  deriving DecidableEq, Repr

/-- The message about a name for which there is no scaffold. -/
def Misnamed.message (m : Misnamed) : Text :=
  '\'' :: (m.name ++ "' is not a valid template function name".toList)

/-- The scaffold for a name, which has to be an identifier. -/
def render (name : Text) : Except Misnamed Text :=
  if isIdentifier name then .ok (text name) else .error ⟨name⟩

end Scaffold

end TemplateFunctions
