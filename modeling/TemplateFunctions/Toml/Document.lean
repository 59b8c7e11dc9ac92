import TemplateFunctions.Toml.Item
import TemplateFunctions.Toml.Number
import TemplateFunctions.Toml.Date

/-!
Documents of TOML: statements line by line, and the table that they build up.

* `value`: a value, with brackets inside each other up to a fixed depth.
* `statement`: a key with its value, or a header.
* `Document.ofStatements?`: the table that statements build up, unless they contradict each other.
* `Document.read?`: the table of a document.
-/

namespace TemplateFunctions

namespace Toml

open Reader

/-! ### Keys -/

/-- The depth at which a dotted key and a value in brackets are refused. -/
def maxDepth : Nat := 80

/-- The characters of a key without quotes. -/
def isBare (c : Char) : Bool :=
  c.isAlphanum || c == '_' || c == '-'

/-- Reads one part of a key, with blanks around it. -/
def keyPart : Reader Text := do
  spaces
  let part ← run1 isBare <|> lineText
  spaces
  pure part

/-- A dotted key: the parts before the last dot, and the part behind it. -/
structure Key where
  path : List Text
  last : Text
  deriving DecidableEq, Repr

/-- Reads a dotted key. -/
def key : Reader Key := do
  let first ← keyPart
  let others ← many (do symbol '.'; keyPart)
  let parts := first :: others
  require (parts.length < maxDepth)
  pure ⟨parts.dropLast, parts.getLastD []⟩

/-! ### Values -/

/-- Reads a value that holds no other values. -/
def scalar : Reader Item :=
  (Item.string <$> text)
    <|> (dateTime *> pure .dateTime)
    <|> (float *> pure .float)
    <|> (Item.integer <$> integer)
    <|> (literal "true".toList *> pure (.boolean true))
    <|> (literal "false".toList *> pure (.boolean false))

/-- Reads a list of values. -/
def array (value : Reader Item) : Reader Item := do
  symbol '['
  let items ← separated (do gap; let item ← value; gap; pure item) (symbol ',')
  if !items.isEmpty then
    let _ ← maybe (symbol ',')
  gap
  symbol ']'
  pure (.array items)

/-- Reads a key and its value. -/
def pair (value : Reader Item) : Reader (Key × Item) := do
  let k ← key
  symbol '='
  spaces
  let item ← value
  pure (k, item)

/-- Sets one key after another, unless they contradict each other. -/
def setKeys (entries : Entries) : List (Key × Item) → Option Entries
  | [] => some entries
  | (k, item) :: pairs =>
    match entries.setKey k.path k.last item with
    | some entries => setKeys entries pairs
    | none => none

/-- Reads a table between braces, on one line. -/
def inlineTable (value : Reader Item) : Reader Item := do
  symbol '\x7b'
  let pairs ← separated (do let p ← pair value; spaces; pure p) (symbol ',')
  spaces
  symbol '\x7d'
  match setKeys [] pairs with
  | some entries => pure (.inline entries)
  | none => failure

/-- Reads a value in which at most `depth` brackets and braces stand inside each other. -/
def value (depth : Nat) : Reader Item :=
  match depth with
  | 0 => scalar
  | depth + 1 => array (value depth) <|> inlineTable (value depth) <|> scalar

/-! ### Statements -/

/-- A line of a document: a key with its value, the header of a table, or the header of one more
table of a list. -/
inductive Statement where
  | pair (key : Key) (item : Item)
  | header (key : Key)
  | listHeader (key : Key)

/-- Reads a header in its brackets. -/
def header : Reader Statement :=
  (do
    literal ['[', '[']
    let k ← key
    literal [']', ']']
    pure (.listHeader k))
    <|> (do
      symbol '['
      let k ← key
      symbol ']'
      pure (.header k))

/-- Reads a statement up to the end of its line. -/
def statement : Reader Statement := do
  let s ← header <|> (do let (k, item) ← pair (value (maxDepth - 1)); pure (.pair k item))
  lineRest
  pure s

/-- Reads a line without a statement. -/
def emptyLine : Reader Unit :=
  lineEnd <|> (do comment; lineEnd <|> atEnd)

/-- Reads all statements of a document. -/
def statements : Reader (List Statement) := do
  let _ ← maybe (symbol '\ufeff')
  spaces
  let lines ← many (do
    let line ← (some <$> statement) <|> (emptyLine *> pure none)
    spaces
    pure line)
  atEnd
  pure (lines.filterMap id)

/-! ### Documents -/

/-- The table of a document so far, and the header that its next keys stand under. -/
structure Document where
  root : Entries
  current : Option Key

namespace Document

/-- The document with one more statement. -/
def add (d : Document) : Statement → Option Document
  | .header k => do
    let root ← d.root.alter k.path k.last stateTable
    pure ⟨root, some k⟩
  | .listHeader k => do
    let root ← d.root.alter k.path k.last addTable
    pure ⟨root, some k⟩
  | .pair k item =>
    match d.current with
    | none => do
      let root ← d.root.setKey k.path k.last item
      pure ⟨root, none⟩
    | some h => do
      let root ← d.root.alter h.path h.last (fillTable k.path k.last item)
      pure ⟨root, some h⟩

/-- The table that statements build up, unless they contradict each other. -/
def ofStatements? (lines : List Statement) : Option Entries :=
  (lines.foldlM add ⟨[], none⟩).map Document.root

/-- The table of a document. -/
def read? (t : Text) : Option Entries := do
  let (lines, _) ← statements t
  ofStatements? lines

end Document

end Toml

end TemplateFunctions
