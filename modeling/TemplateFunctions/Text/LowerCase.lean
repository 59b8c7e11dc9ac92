import TemplateFunctions.Text.Case

/-!
Lower case of whole texts.

Every capital becomes its small letter, and `İ` becomes an `i` with a dot above. A capital sigma is
written `ς` at the end of a word and `σ` elsewhere: a word ends at a sigma that has a letter before
it and none after it, where signs such as accents and apostrophes are passed over.

* `lower`: the text in lower case.
-/

namespace TemplateFunctions

namespace Text

/-- The small letter for a character, or the character itself. -/
def lowerChar (c : Char) : Text :=
  if c = 'İ' then ['i', '\u0307']
  else [(capitals.findSome? (·.lower? c)).getD c]

/-- Whether the first character that is not passed over is a letter with case. -/
def meetsCased (t : Text) : Bool :=
  ((t.dropWhile isIgnorable).head?.map isCased).getD false

/-- Lower case of a text that follows the reversed text `before`. -/
def lowerAfter (before : Text) : Text → Text
  | [] => []
  | c :: t =>
    let here :=
      if c = 'Σ' then [if meetsCased before && !meetsCased t then 'ς' else 'σ'] else lowerChar c
    here ++ lowerAfter (c :: before) t

/-- The text in lower case. -/
def lower (t : Text) : Text :=
  lowerAfter [] t

end Text

end TemplateFunctions
