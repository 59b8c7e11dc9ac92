import TemplateFunctions.Text.Basic

/-!
Readers: functions that take something off the front of a text, or refuse it.

* `Reader.many`: a reader as often as it can be used.
-/

namespace TemplateFunctions

namespace Toml

/-- Takes something off the front of a text, or refuses it. Of two alternatives the second one gets
the text from the same place. -/
abbrev Reader (α : Type) := StateT Text Option α

namespace Reader

/-! ### Characters -/

/-- Reads one character of a class. -/
def char (p : Char → Bool) : Reader Char
  | c :: t => if p c then some (c, t) else none
  | [] => none

/-- Reads a fixed character. -/
def symbol (c : Char) : Reader Unit := do
  let _ ← char (· == c)

/-- Reads a fixed text. -/
def literal : Text → Reader Unit
  | [] => pure ()
  | c :: t => do
    symbol c
    literal t

/-- Reads all characters of a class, up to the first of another one. -/
def run (p : Char → Bool) : Reader Text :=
  fun t => some (t.takeWhile p, t.dropWhile p)

/-- Reads all characters of a class, at least one. -/
def run1 (p : Char → Bool) : Reader Text := do
  let c ← char p
  let cs ← run p
  pure (c :: cs)

/-- Succeeds at the end of the text. -/
def atEnd : Reader Unit
  | [] => some ((), [])
  | _ => none

/-! ### Repetition -/

/-- Uses a reader as often as it takes something off the text. -/
def repeatOn {α : Type} (r : Reader α) (t : Text) : List α × Text :=
  match r t with
  | some (a, rest) =>
    if rest.length < t.length then
      let (as, rest) := repeatOn r rest
      (a :: as, rest)
    else ([], t)
  | none => ([], t)
  termination_by t.length

/-- Uses a reader as often as possible. -/
def many {α : Type} (r : Reader α) : Reader (List α) :=
  fun t => some (repeatOn r t)

/-- Uses a reader, or gives nothing. -/
def maybe {α : Type} (r : Reader α) : Reader (Option α) :=
  (some <$> r) <|> pure none

/-- Reads a list with a separator between its members. The list may be empty. -/
def separated {α : Type} (r : Reader α) (separator : Reader Unit) : Reader (List α) :=
  (do
    let first ← r
    let others ← many (separator *> r)
    pure (first :: others))
    <|> pure []

/-- Goes on only if the condition holds. -/
def require (condition : Bool) : Reader Unit :=
  if condition then pure () else failure

end Reader

/-! ### Blanks and line ends -/

/-- Spaces and tabs. -/
def isSpace (c : Char) : Bool :=
  c == ' ' || c == '\t'

/-- The characters that a comment and a text between quotes may hold: no control but the tab. -/
def isPrintable (c : Char) : Bool :=
  c == '\t' || (' ' ≤ c && c ≠ '\x7f')

/-- Reads spaces and tabs. -/
def spaces : Reader Unit := do
  let _ ← Reader.run isSpace

/-- Reads the end of a line: a line feed, or a carriage return and a line feed. -/
def lineEnd : Reader Unit :=
  Reader.symbol '\n' <|> Reader.literal ['\r', '\n']

/-- Reads a comment up to the end of the line. -/
def comment : Reader Unit := do
  Reader.symbol '#'
  let _ ← Reader.run isPrintable

/-- Reads what may follow a statement on its line. -/
def lineRest : Reader Unit := do
  spaces
  let _ ← Reader.maybe comment
  lineEnd <|> Reader.atEnd

/-- Reads blanks, line ends and comments. -/
def gap : Reader Unit := do
  let _ ← Reader.many
    ((do let _ ← Reader.run1 isSpace)
      <|> lineEnd
      <|> (do comment; lineEnd))

end Toml

end TemplateFunctions
