import TemplateFunctions.Text.Basic

/-!
The output languages: PHP blocks for a compiled view, and language-neutral pseudo code.

* `Target.label`: the word that names a target in a configuration and on a command line.
* `Target.ofLabel?_label`: a label is read back as its target.
-/

namespace TemplateFunctions

/-- The language that fragments are written in. -/
inductive Target where
  | php
  | pseudo
  deriving DecidableEq, Repr

namespace Target

/-- Both targets, in the order in which they are offered. -/
def all : List Target :=
  [.php, .pseudo]

/-- The word for a target. -/
def label : Target → Text
  | .php => "php".toList
  | .pseudo => "pseudo".toList

/-- The name of the implicit context parameter where none is configured. -/
def defaultContext : Target → Text
  | .php => "$__env".toList
  | .pseudo => "ctx".toList

/-- The target with this label. -/
def ofLabel? (t : Text) : Option Target :=
  all.find? fun target => target.label == t

/-- The target with this label, ASCII capitals counting as small letters. -/
def ofLabelFolded? (t : Text) : Option Target :=
  ofLabel? (t.map Char.toLower)

@[simp] theorem ofLabel?_label (target : Target) : ofLabel? target.label = some target := by
  cases target <;> rfl

/-- Only the label of a target is read as that target. -/
theorem ofLabel?_eq_some_iff {t : Text} {target : Target} :
    ofLabel? t = some target ↔ t = target.label := by
  constructor
  · intro h
    have := List.find?_some h
    exact (beq_iff_eq.1 this).symm
  · rintro rfl
    exact ofLabel?_label target

end Target

end TemplateFunctions
