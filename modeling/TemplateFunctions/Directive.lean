import TemplateFunctions.Text.Quoted

/-!
Directives: what a name stands for when a template uses it behind an `@`.

* `Directive`: the five kinds.
* `Directive.same`: two directives are the same when their kinds and names agree; a custom function
  is the same as itself only.
* `Directive.describe`: a directive in words.
-/

namespace TemplateFunctions

/-- What a directive does with the text in its parentheses. A custom function has a number of its
own, since two functions cannot be compared. -/
inductive Directive where
  | declare
  | close
  | returnValue
  | call (name : Text)
  | custom (id : Nat) (transform : Text → Text)

namespace Directive

/-- Whether two directives are the same. -/
def same : Directive → Directive → Bool
  | declare, declare => true
  | close, close => true
  | returnValue, returnValue => true
  | call name, call name' => name == name'
  | custom id _, custom id' _ => id == id'
  | _, _ => false

theorem same_refl (d : Directive) : d.same d = true := by
  cases d <;> simp [same]

theorem same_comm (d d' : Directive) : d.same d' = d'.same d := by
  cases d <;> cases d' <;> (try rfl) <;> exact BEq.comm

/-- The name of the function that a directive calls. -/
def callee? : Directive → Option Text
  | call name => some name
  | _ => none

/-- A directive in words. -/
def describe : Directive → Text
  | declare => "Declare".toList
  | close => "Close".toList
  | returnValue => "Return".toList
  | call name => "Invoke \x7b name: ".toList ++ Text.quote name ++ " \x7d".toList
  | custom _ _ => "Custom(..)".toList

end Directive

end TemplateFunctions
