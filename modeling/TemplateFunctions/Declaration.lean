import TemplateFunctions.Identifier

/-!
Declarations: the name and the parameter list of a template function, read from text such as
`greet($name, $greeting = 'Hi')`.

The name is the identifier that the text starts with, blanks skipped. The parameter list is found
independently of the name: it opens at the first `(` that has a `)` after it on the same line, and
closes at the last `)` of that line. A text without such a pair declares no parameters.

* `Declaration.read`: the declaration, or the text that names no function.
* `newline_notMem_paramsOf`: no line break enters a parameter list.
-/

namespace TemplateFunctions

/-- The name of a template function and its parameter list as written. -/
structure Declaration where
  name : Text
  params : Text
  deriving DecidableEq, Repr

namespace Declaration

/-- A text that does not start with the name of a function. -/
structure Unnamed where
  text : Text
  deriving DecidableEq, Repr

/-- The message about a text that names no function. -/
def Unnamed.message (u : Unnamed) : Text :=
  "Invalid function name given in blade template: '".toList ++ u.text ++ "' is invalid".toList

/-- The blanks that may stand before a name. -/
def isBlank (c : Char) : Bool :=
  c == ' ' || ('\t' ≤ c && c ≤ '\r')

/-! ### The parameter list -/

/-- The text from here to the last `)` of the line. -/
def throughLine? (t : Text) : Option Text :=
  Text.beforeLast? ')' (t.takeWhile (· != '\n'))

/-- The parameter list: it opens at the first `(` whose line has a `)` behind it. -/
def paramsOf : Text → Text
  | [] => []
  | c :: t =>
    if c = '(' then
      match throughLine? t with
      | some params => params
      | none => paramsOf t
    else paramsOf t

/-- A parameter list stands on one line. -/
theorem newline_notMem_throughLine? {t params : Text} (h : throughLine? t = some params) :
    '\n' ∉ params := by
  obtain ⟨v, hv, -⟩ := Text.beforeLast?_eq_some_iff.1 h
  intro hm
  have : '\n' ∈ t.takeWhile (· != '\n') := hv ▸ List.mem_append_left _ hm
  have hall := List.all_takeWhile (p := (· != '\n')) (l := t)
  rw [List.all_eq_true] at hall
  simpa using hall _ this

/-- No line break enters a parameter list. -/
theorem newline_notMem_paramsOf (t : Text) : '\n' ∉ paramsOf t := by
  induction t with
  | nil => simp [paramsOf]
  | cons c t ih =>
    rw [paramsOf]
    split
    · split
      · next h => exact newline_notMem_throughLine? h
      · exact ih
    · exact ih

/-! ### Reading a declaration -/

/-- The declaration that the text gives. A text without a name is refused as a whole. -/
def read (t : Text) : Except Unnamed Declaration :=
  match Identifier.split? (t.dropWhile isBlank) with
  | some (name, _) => .ok ⟨name, paramsOf t⟩
  | none => .error ⟨t⟩

/-- A declared name is an identifier. -/
theorem isIdentifier_of_read {t : Text} {d : Declaration} (h : read t = .ok d) :
    isIdentifier d.name = true := by
  rw [read] at h
  split at h
  · next hs =>
    cases h
    exact Identifier.isIdentifier_of_split? hs
  · cases h

/-- A refusal carries the whole text. -/
theorem text_of_read {t : Text} {u : Unnamed} (h : read t = .error u) : u.text = t := by
  rw [read] at h
  split at h <;> cases h
  rfl

end Declaration

end TemplateFunctions
