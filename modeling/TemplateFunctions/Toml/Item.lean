import TemplateFunctions.Text.Basic

/-!
What a TOML document holds: values, tables and lists of tables, and how keys and headers build them
up.

A table comes from a header of its own, from a header of a table below it, or from a dotted key. A
value is closed: nothing is added to the table between two braces or to the list between two
brackets later on.

* `Entries.setKey`: the table with a dotted key set.
* `Entries.alter`: the table with the item that a header names changed.
-/

namespace TemplateFunctions

namespace Toml

/-- Where a table comes from: a header below it, a dotted key, or a header of its own. -/
inductive Form where
  | implied
  | dotted
  | stated
  deriving DecidableEq, Repr

/-- An item of a document. A list of tables has at least one table, and the last one is open. -/
inductive Item where
  | string (t : Text)
  | integer (n : Int)
  | float
  | boolean (b : Bool)
  | dateTime
  | array (items : List Item)
  | inline (entries : List (Text × Item))
  | table (form : Form) (entries : List (Text × Item))
  | tables (earlier : List (List (Text × Item))) (last : List (Text × Item))

/-- Keys with their items, each key once. -/
abbrev Entries := List (Text × Item)

namespace Entries

/-- The item of a key. -/
def get? (entries : Entries) (key : Text) : Option Item :=
  (entries.find? fun e => e.1 == key).map Prod.snd

/-- The entries with the item of a key set. -/
def put (entries : Entries) (key : Text) (item : Item) : Entries :=
  match entries with
  | [] => [(key, item)]
  | (key', item') :: entries =>
    if key' = key then (key, item) :: entries else (key', item') :: put entries key item

/-- Sets the dotted key `path.key`. A key is set once; the tables on the path must be open to dotted
keys, and the last of them must come from one. -/
def setKey (entries : Entries) (path : List Text) (key : Text) (item : Item) : Option Entries :=
  match path with
  | [] => if (entries.get? key).isSome then none else some (entries.put key item)
  | part :: path =>
    match entries.get? part with
    | none => (setKey [] path key item).map fun inner => entries.put part (.table .dotted inner)
    | some (.table form inner) =>
      if form = .stated ∨ (path = [] ∧ form ≠ .dotted) then none
      else (setKey inner path key item).map fun inner => entries.put part (.table form inner)
    | some (.tables earlier last) =>
      if path = [] then none
      else (setKey last path key item).map fun last => entries.put part (.tables earlier last)
    | some _ => none

/-- Changes the item that the header `path.key` names. Tables on the path that are not there yet are
implied by the header; of a list of tables the last one counts. -/
def alter (entries : Entries) (path : List Text) (key : Text) (change : Option Item → Option Item) :
    Option Entries :=
  match path with
  | [] => (change (entries.get? key)).map (entries.put key)
  | part :: path =>
    match entries.get? part with
    | none => (alter [] path key change).map fun inner => entries.put part (.table .implied inner)
    | some (.table form inner) =>
      (alter inner path key change).map fun inner => entries.put part (.table form inner)
    | some (.tables earlier last) =>
      (alter last path key change).map fun last => entries.put part (.tables earlier last)
    | some _ => none

end Entries

/-! ### Headers -/

/-- What the header of a table makes of its item: a table is stated once. -/
def stateTable : Option Item → Option Item
  | none => some (.table .stated [])
  | some (.table .implied entries) => some (.table .stated entries)
  | some _ => none

/-- What the header of a list of tables makes of its item: one more table. -/
def addTable : Option Item → Option Item
  | none => some (.tables [] [])
  | some (.tables earlier last) => some (.tables (earlier ++ [last]) [])
  | some _ => none

/-- What a key below a header makes of the item that the header names. -/
def fillTable (path : List Text) (key : Text) (value : Item) : Option Item → Option Item
  | some (.table form entries) => (Entries.setKey entries path key value).map (.table form ·)
  | some (.tables earlier last) => (Entries.setKey last path key value).map (.tables earlier ·)
  | _ => none

end Toml

end TemplateFunctions
