import Mathlib.Tactic.Common
import TemplateFunctions.Template.Piece

/-!
Fragments before they are written.

What a function directive makes of an expression is settled before an emitter writes it. A compiled
template is a row of parts: text that is the same under every emitter, and such fragments.

* `Fragment.text`: what an emitter writes for a fragment.
* `Directive.fragment?`: the fragment that a directive gives; a custom function gives none.
* `perform_fst_of_fragment?`: **the directive at work writes its fragment.**
* `Part.source`, `Part.output`: the text that a part covers, and the text that is written for it.
-/

namespace TemplateFunctions

/-! ### Fragments -/

/-- A fragment before an emitter writes it. -/
inductive Fragment where
  | prologue (d : Declaration)
  | close
  | returnValue (expression : Text)
  | call (name args : Text)
  deriving DecidableEq, Repr

/-- The text that an emitter writes for a fragment. -/
def Fragment.text (e : Emitter) : Fragment → Text
  | prologue d => e.prologue d
  | close => e.close
  | returnValue expression => e.returnValue expression
  | call name args => e.call name args

/-- The fragment that a directive gives for an expression. A declaration that names no function
gives none, and neither does a custom function, whose text is the same under every emitter. -/
def Directive.fragment? : Directive → Text → Option Fragment
  | declare, expression =>
    match Declaration.read expression with
    | .ok decl => some (.prologue decl)
    | .error _ => none
  | close, _ => some .close
  | returnValue, expression => some (.returnValue expression)
  | call name, expression => some (.call name expression)
  | custom _ _, _ => none

/-- **The directive at work writes its fragment.** -/
lemma Session.perform_fst_of_fragment? {d : Directive} {expression : Text} {fragment : Fragment}
    (h : d.fragment? expression = some fragment) (s : Session) :
    (s.perform d expression).1 = .ok (fragment.text s.emitter) := by
  cases d with
  | declare =>
      rw [Directive.fragment?] at h
      split at h
      · next decl hread =>
        cases h
        simp only [Session.perform, hread]
        rfl
      · cases h
  | close => cases h; rfl
  | returnValue => cases h; rfl
  | call name => cases h; rfl
  | custom id transform => cases h

/-- A directive that succeeds without a fragment writes the same in every session, and leaves the
session alone. -/
lemma Session.perform_of_fragment?_eq_none {s after : Session} {d : Directive}
    {expression text : Text} (h : d.fragment? expression = none)
    (hperform : s.perform d expression = (.ok text, after)) (s' : Session) :
    s'.perform d expression = (.ok text, s') ∧ after = s := by
  cases d with
  | declare =>
      simp only [Session.perform] at hperform
      split at hperform
      · next decl hread => simp [Directive.fragment?, hread] at h
      · cases hperform
  | close => cases h
  | returnValue => cases h
  | call name => cases h
  | custom id transform =>
      cases hperform
      exact ⟨rfl, rfl⟩

namespace Template

/-! ### Parts of a compiled template -/

/-- A part of a compiled template. -/
inductive Part where
  /-- Text that is written whatever the emitter. -/
  | literal (source written : Text)
  /-- The fragment of a function directive in the place of its site. -/
  | fragment (site : Site) (fragment : Fragment)

/-- The text of the template that a part covers. -/
def Part.source : Part → Text
  | literal source _ => source
  | fragment site _ => site.source

/-- The text that is written for a part. -/
def Part.output (e : Emitter) : Part → Text
  | literal _ written => written
  | fragment _ f => f.text e

end Template

end TemplateFunctions
