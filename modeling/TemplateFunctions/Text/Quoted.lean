import TemplateFunctions.Text.Unshown

/-!
Quoted text: the two ways in which a text is written between double quotes.

* `Text.quote`: for a reader. A quote, a backslash, a tab, a line feed, a carriage return and NUL
  get a letter behind a backslash; any other character that does not show as itself is written by
  its number, as in `\u{200b}`.
* `Text.json`: a JSON string. A quote, a backslash and the controls are escaped, all else stands
  as it is.
-/

namespace TemplateFunctions

namespace Text

/-- The hexadecimal digits of a number, in small letters. -/
def hexDigits (n : Nat) : Text :=
  Nat.toDigits 16 n

/-! ### For a reader -/

/-- A character inside quotes. -/
def quoteChar (c : Char) : Text :=
  match c with
  | '"' => ['\\', '"']
  | '\\' => ['\\', '\\']
  | '\t' => ['\\', 't']
  | '\n' => ['\\', 'n']
  | '\r' => ['\\', 'r']
  | '\x00' => ['\\', '0']
  | c => if c < ' ' || isUnshown c then "\\u\x7b".toList ++ hexDigits c.toNat ++ ['\x7d'] else [c]

/-- The text between quotes, every character visible. -/
def quote (t : Text) : Text :=
  '"' :: (t.flatMap quoteChar ++ ['"'])

/-! ### JSON strings -/

/-- A character inside a JSON string. -/
def jsonChar (c : Char) : Text :=
  match c with
  | '"' => ['\\', '"']
  | '\\' => ['\\', '\\']
  | '\x08' => ['\\', 'b']
  | '\t' => ['\\', 't']
  | '\n' => ['\\', 'n']
  | '\x0c' => ['\\', 'f']
  | '\r' => ['\\', 'r']
  | c =>
    if c < ' ' then
      let digits := hexDigits c.toNat
      "\\u".toList ++ List.replicate (4 - digits.length) '0' ++ digits
    else [c]

/-- The text as a JSON string. -/
def json (t : Text) : Text :=
  '"' :: (t.flatMap jsonChar ++ ['"'])

end Text

end TemplateFunctions
