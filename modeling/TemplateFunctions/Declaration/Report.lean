import TemplateFunctions.Declaration
import TemplateFunctions.Text.Quoted

/-!
Reports on a declaration: the name and the parameters on two labelled lines, or as a JSON object.

* `Declaration.lines`: the two labelled lines.
* `Declaration.json`: the object, one field a line.
* `Declaration.report`: the report on a text, or the text that names no function.
-/

namespace TemplateFunctions

namespace Declaration

/-- The label of the name. -/
def nameLabel : Text :=
  "name:   ".toList

/-- The label of the parameters. -/
def paramsLabel : Text :=
  "params: ".toList

/-- The name and the parameters on two labelled lines. -/
def lines (d : Declaration) : Text :=
  nameLabel ++ d.name ++ '\n' :: (paramsLabel ++ d.params)

/-- The name and the parameters as a JSON object. -/
def json (d : Declaration) : Text :=
  "\x7b\n  \"name\": ".toList ++ Text.json d.name ++ ",\n  \"params\": ".toList
    ++ Text.json d.params ++ "\n\x7d".toList

/-- The report on a text. -/
def report (t : Text) (asJson : Bool) : Except Unnamed Text :=
  (read t).map fun d => if asJson then d.json else d.lines

end Declaration

end TemplateFunctions
