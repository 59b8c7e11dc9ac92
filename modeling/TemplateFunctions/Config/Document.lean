import TemplateFunctions.Config
import TemplateFunctions.Toml.Document

/-!
The configuration that a TOML document gives.

The document has two sections, `emit` and `directives`. What is missing keeps its standard value,
and what is not known is passed over. A section is a table, or a list that gives its fields by
position.

* `Config.Decoder`, `Config.Decoder.toml`: what the text of a configuration file is decoded with.
* `Config.ofText`: the configuration of a text, if it is well formed and usable.

The loading of configurations, and with it the program, takes the decoder as an argument. What is
proved about them holds for any decoder.
-/

namespace TemplateFunctions

namespace Config

open Toml

/-- The field of a section with this name, or at this position of a list. A date has none of the
fields; any other value is no section. -/
def field? (part : Item) (name : String) (position : Nat) : Option (Option Item) :=
  match part with
  | .table _ entries => some (Entries.get? entries name.toList)
  | .inline entries => some (Entries.get? entries name.toList)
  | .array items => some items[position]?
  | .tables earlier last =>
    some (((earlier ++ [last])[position]?).map (.table .stated))
  | .dateTime => some none
  | _ => none

/-- A text. -/
def text? : Item → Option Text
  | .string t => some t
  | _ => none

/-- Whether an item holds nothing. -/
def isVoid : Item → Bool
  | .table _ entries => entries.isEmpty
  | .inline entries => entries.isEmpty
  | .array items => items.isEmpty
  | _ => false

/-- The target that one entry without content names. -/
def targetOfEntries? : Entries → Option Target
  | [(key, item)] => if isVoid item then Target.ofLabel? key else none
  | _ => none

/-- A target: its label, or a table whose only key is its label. -/
def target? : Item → Option Target
  | .string t => Target.ofLabel? t
  | .table _ entries => targetOfEntries? entries
  | .inline entries => targetOfEntries? entries
  | _ => none

/-- A field of a section, read if it is there. -/
def fieldOf {α : Type} (part : Option Item) (name : String) (position : Nat)
    (read : Item → Option α) : Option (Option α) :=
  match part with
  | none => some none
  | some item =>
    match field? item name position with
    | none => none
    | some none => some none
    | some (some value) => (read value).map some

/-- The configuration that the table of a document gives. -/
def ofEntries? (entries : Entries) : Option Config := do
  let emit := entries.get? "emit".toList
  let directives := entries.get? "directives".toList
  let target ← fieldOf emit "target" 0 target?
  let context ← fieldOf emit "context_var" 1 text?
  let declare ← fieldOf directives "function" 0 text?
  let close ← fieldOf directives "endfunction" 1 text?
  let returnValue ← fieldOf directives "return" 2 text?
  let names := DirectiveNames.standard
  pure
    { target := target.getD .php
      context := context
      names := ⟨declare.getD names.declare, close.getD names.close,
        returnValue.getD names.returnValue⟩
      path := none }

/-- A decoder of configuration files. Of a malformed text it may say what is wrong. -/
abbrev Decoder := Text → Except (Option Text) Config

/-- The decoder of TOML documents. It does not say what is wrong with a malformed one. -/
def Decoder.toml : Decoder := fun t =>
  ((Toml.Document.read? t).bind ofEntries?).elim (.error none) .ok

/-- The configuration of a text, if it is well formed and usable. -/
def ofText (t : Text) (decode : Decoder := Decoder.toml) : Except Failure Config :=
  match decode t with
  | .ok c => c.checked
  | .error detail => .error (@Failure.malformed detail)

end Config

end TemplateFunctions
