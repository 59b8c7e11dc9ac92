import TemplateFunctions.Session
import TemplateFunctions.Group

/-!
The pieces of a template: what a reader takes off the front of a template, one after another.

* `Site`: the place of a directive, its name with the group behind it.
* `Piece.source`: the text of the template that a piece covers.
* `Piece.output`: the text that stands in its place in the compiled template.
* `Piece.source_ne_nil`: every piece covers something.
-/

namespace TemplateFunctions

namespace Template

/-! ### Sites -/

/-- The blanks and the interior of the balanced group behind a name. -/
structure Argument where
  blanks : Text
  interior : Text
  deriving DecidableEq, Repr

/-- A name behind an `@` that stands for a directive, with the group behind it, if there is one. -/
structure Site where
  name : Text
  argument : Option Argument
  deriving DecidableEq, Repr

/-- The text of an argument: the blanks and the group. -/
def Argument.source (a : Argument) : Text :=
  a.blanks ++ '(' :: (a.interior ++ [')'])

/-- The text that a site covers. -/
def Site.source (site : Site) : Text :=
  '@' :: (site.name ++ (site.argument.map Argument.source).getD [])

/-- What the directive of a site is given: the interior of the group, or nothing. -/
def Site.expression (site : Site) : Text :=
  (site.argument.map Argument.interior).getD []

/-- The blanks that may stand between a name and its group. -/
def isGap (c : Char) : Bool :=
  c == ' ' || c == '\t'

/-- The argument that a text starts with, and what follows it. -/
def argument? (t : Text) : Option (Argument × Text) :=
  (Group.interior? (t.dropWhile isGap)).map fun (interior, rest) =>
    (⟨t.takeWhile isGap, interior⟩, rest)

/-- The argument and the rest make up the text. -/
theorem argument?_append {t rest : Text} {a : Argument} (h : argument? t = some (a, rest)) :
    a.source ++ rest = t := by
  simp only [argument?, Option.map_eq_some_iff, Prod.exists, Prod.mk.injEq] at h
  obtain ⟨interior, r, hi, rfl, rfl⟩ := h
  have := Group.interior?_append hi
  simp only [Argument.source, List.append_assoc, List.cons_append, List.nil_append, this,
    List.takeWhile_append_dropWhile]

/-- The site of a name that the text follows, and what follows the site. -/
def siteOf (name t : Text) : Site × Text :=
  match argument? t with
  | some (a, rest) => (⟨name, some a⟩, rest)
  | none => (⟨name, none⟩, t)

theorem siteOf_append (name t : Text) :
    (siteOf name t).1.source ++ (siteOf name t).2 = '@' :: (name ++ t) := by
  rw [siteOf]
  split
  · next a rest h => simp [Site.source, argument?_append h]
  · simp [Site.source]

/-! ### Pieces -/

/-- A piece of a template. -/
inductive Piece where
  /-- A character other than `@`. -/
  | char (c : Char)
  /-- An `@` that starts nothing, with the name behind it, which stands for no directive. -/
  | mark (name : Text)
  /-- Two `@` that no name follows. -/
  | pair
  /-- A name behind two `@`, which is not read as a directive. -/
  | escape (name : Text)
  /-- The place of a directive, with the fragment that takes its place. -/
  | site (site : Site) (fragment : Text)

namespace Piece

/-- The text of the template that a piece covers. -/
def source : Piece → Text
  | char c => [c]
  | mark name => '@' :: name
  | pair => ['@', '@']
  | escape name => '@' :: '@' :: name
  | site s _ => s.source

/-- The text that stands in the place of a piece in the compiled template. -/
def output : Piece → Text
  | char c => [c]
  | mark name => '@' :: name
  | pair => ['@', '@']
  | escape name => '@' :: name
  | site _ fragment => fragment

theorem source_ne_nil (p : Piece) : p.source ≠ [] := by
  cases p <;> simp [source, Site.source]

/-- Whether a piece ends in a word character, so that an `@` right behind it starts nothing. -/
def endsInWord (p : Piece) : Bool :=
  (p.source.getLast?.map Identifier.isWord).getD false

end Piece

end Template

end TemplateFunctions
