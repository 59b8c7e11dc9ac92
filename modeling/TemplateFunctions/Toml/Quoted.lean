import TemplateFunctions.Toml.Reader

/-!
Strings of TOML: basic ones with escapes, literal ones without, each on one line or between
three quotes on many.

* `text`: any of the four.
* `lineText`: the two that stand on one line, which are keys too.
-/

namespace TemplateFunctions

namespace Toml

open Reader

/-! ### Digits -/

/-- The value of a hexadecimal digit. -/
def digitValue (c : Char) : Nat :=
  if c.isDigit then c.toNat - '0'.toNat
  else if 'a' ≤ c && c ≤ 'f' then c.toNat - 'a'.toNat + 10
  else c.toNat - 'A'.toNat + 10

/-- The number that digits stand for. -/
def numberOf (base : Nat) (digits : Text) : Nat :=
  digits.foldl (fun n c => n * base + digitValue c) 0

/-- The digits of base 16, in both cases. -/
def isHexDigit (c : Char) : Bool :=
  c.isDigit || ('a' ≤ c && c ≤ 'f') || ('A' ≤ c && c ≤ 'F')

/-- Reads exactly `n` characters of a class. -/
def exactly (n : Nat) (p : Char → Bool) : Reader Text :=
  match n with
  | 0 => pure []
  | n + 1 => do
    let c ← char p
    let cs ← exactly n p
    pure (c :: cs)

/-! ### Basic strings -/

/-- Reads a character by its number of `n` hexadecimal digits. -/
def numbered (n : Nat) : Reader Char := do
  let code := numberOf 16 (← exactly n isHexDigit)
  require (code < 0xd800 || (0xdfff < code && code < 0x110000))
  pure (Char.ofNat code)

/-- Reads an escape. -/
def escape : Reader Char := do
  symbol '\\'
  match ← char fun _ => true with
  | 'b' => pure '\x08'
  | 't' => pure '\t'
  | 'n' => pure '\n'
  | 'f' => pure '\x0c'
  | 'r' => pure '\r'
  | '"' => pure '"'
  | '\\' => pure '\\'
  | 'u' => numbered 4
  | 'U' => numbered 8
  | _ => failure

/-- The characters that stand for themselves in a basic string. -/
def isBasic (c : Char) : Bool :=
  isPrintable c && c ≠ '"' && c ≠ '\\'

/-- Reads a basic string on one line. -/
def basic : Reader Text := do
  symbol '"'
  let parts ← many (run1 isBasic <|> (do pure [← escape]))
  symbol '"'
  pure parts.flatten

/-- The characters that stand for themselves in a literal string. -/
def isLiteral (c : Char) : Bool :=
  isPrintable c && c ≠ '\''

/-- Reads a literal string on one line. -/
def verbatim : Reader Text := do
  symbol '\''
  let t ← run isLiteral
  symbol '\''
  pure t

/-- Reads a string on one line. -/
def lineText : Reader Text :=
  basic <|> verbatim

/-! ### Strings on many lines -/

/-- Reads one or two quotes that do not close the string. -/
def innerQuotes (quote : Char) : Reader Text := do
  let quotes ← run1 (· == quote)
  require (quotes.length < 3)
  pure quotes

/-- Reads the quotes that close the string. Up to two quotes in front of the last three belong to
it. -/
def closingQuotes (quote : Char) : Reader Text := do
  let quotes ← run1 (· == quote)
  require (3 ≤ quotes.length && quotes.length ≤ 5)
  pure (quotes.drop 3)

/-- Reads a backslash at the end of a line, with all blanks and line ends behind it. -/
def foldedLine : Reader Text := do
  symbol '\\'
  spaces
  lineEnd
  let _ ← many ((do let _ ← run1 isSpace) <|> lineEnd)
  pure []

/-- Reads a line end inside a string. -/
def innerLineEnd : Reader Text := do
  lineEnd
  pure ['\n']

/-- Reads a string between three quotes, made of parts. A line end right behind the opening quotes
does not belong to it. -/
def block (quote : Char) (part : Reader Text) : Reader Text := do
  literal [quote, quote, quote]
  let _ ← maybe lineEnd
  let parts ← many (part <|> innerLineEnd <|> innerQuotes quote)
  let final ← closingQuotes quote
  pure (parts.flatten ++ final)

/-- Reads any string. -/
def text : Reader Text :=
  block '"' (run1 isBasic <|> foldedLine <|> (do pure [← escape]))
    <|> block '\'' (run1 isLiteral)
    <|> lineText

end Toml

end TemplateFunctions
