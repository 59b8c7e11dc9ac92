import TemplateFunctions.Text.Basic

/-!
Identifiers: the names of template functions and of directives.

An identifier is a letter, an underscore or any character from U+007F on, followed by characters of
that set and ASCII digits.

* `Identifier.split?`: the longest identifier at the very start of a text, and what follows it.
* `split?_append`: nothing of the text is lost by the split.
* `isIdentifier_of_split?`: what is split off is an identifier.
-/

namespace TemplateFunctions

namespace Identifier

/-- The characters that may begin an identifier. -/
def isStart (c : Char) : Bool :=
  c.isAlpha || c == '_' || 0x7f ≤ c.toNat

/-- The characters that may continue an identifier. -/
def isPart (c : Char) : Bool :=
  isStart c || c.isDigit

/-- The ASCII letters, the ASCII digits and the underscore. -/
def isWord (c : Char) : Bool :=
  c.isAlphanum || c == '_'

theorem isPart_of_isStart {c : Char} (h : isStart c = true) : isPart c = true := by
  simp [isPart, h]

/-! ### The identifier at the start of a text -/

/-- The longest identifier that the text starts with, and the rest of the text. -/
def split? : Text → Option (Text × Text)
  | [] => none
  | c :: t => if isStart c then some (c :: t.takeWhile isPart, t.dropWhile isPart) else none

/-- The name and the rest make up the text. -/
theorem split?_append {t name rest : Text} (h : split? t = some (name, rest)) :
    name ++ rest = t := by
  cases t with
  | nil => simp [split?] at h
  | cons c t =>
    by_cases hc : isStart c = true
    · simp only [split?, hc, if_true, Option.some.injEq, Prod.mk.injEq] at h
      simp [← h.1, ← h.2, List.takeWhile_append_dropWhile]
    · simp [split?, hc] at h

end Identifier

/-! ### Whole identifiers -/

/-- Whether the whole of the text is an identifier. -/
def isIdentifier : Text → Bool
  | [] => false
  | c :: t => Identifier.isStart c && t.all Identifier.isPart

namespace Identifier

/-- A name that is split off is an identifier. -/
theorem isIdentifier_of_split? {t name rest : Text} (h : split? t = some (name, rest)) :
    isIdentifier name = true := by
  cases t with
  | nil => simp [split?] at h
  | cons c t =>
    by_cases hc : isStart c = true
    · simp only [split?, hc, if_true, Option.some.injEq, Prod.mk.injEq] at h
      simp [← h.1, isIdentifier, hc]
    · simp [split?, hc] at h

end Identifier

end TemplateFunctions
