import TemplateFunctions.Path

/-!
A tree of directories and files, and how paths are followed in it.

A path is followed from the root or from a working directory, part by part: every part but the last
has to lead to a directory, and `..` leads to the directory above.

* `FileSystem.read`: the text of a file.
* `FileSystem.isThere`: whether a path leads anywhere.
* `FileSystem.write`: the tree with the text of a file set.
* `node?_put`: setting one node leaves every other node alone.
-/

namespace TemplateFunctions

/-- The names from the root down to a node. -/
abbrev Location := List Text

/-- What stands at a location. -/
inductive Node where
  | directory
  | text (content : Text)
  | binary
  deriving DecidableEq, Repr

/-- The nodes below the root, each at its location. -/
structure FileSystem where
  entries : List (Location × Node)
  deriving DecidableEq, Repr

namespace FileSystem

/-! ### Nodes -/

/-- The node that the entries give for a location. -/
def lookup (place : Location) : List (Location × Node) → Option Node
  | [] => none
  | (place', node) :: entries => if place' = place then some node else lookup place entries

/-- The node at a location. The root is always a directory. -/
def node? (fs : FileSystem) (place : Location) : Option Node :=
  if place = [] then some .directory else lookup place fs.entries

/-- Entries with the node of a location set. -/
def putEntry (place : Location) (node : Node) : List (Location × Node) → List (Location × Node)
  | [] => [(place, node)]
  | (place', node') :: entries =>
    if place' = place then (place, node) :: entries
    else (place', node') :: putEntry place node entries

/-- The tree with the node at a location set. -/
def put (fs : FileSystem) (place : Location) (node : Node) : FileSystem :=
  ⟨putEntry place node fs.entries⟩

/-- What the entries give for a location after one is set. -/
theorem lookup_putEntry (place x : Location) (node : Node) (entries : List (Location × Node)) :
    lookup x (putEntry place node entries) = if x = place then some node else lookup x entries := by
  induction entries with
  | nil => simp [putEntry, lookup, eq_comm]
  | cons e entries ih =>
    obtain ⟨place', node'⟩ := e
    rw [putEntry]
    split
    · next he =>
      subst he
      by_cases hx : x = place'
      · simp [lookup, hx]
      · simp [lookup, hx, Ne.symm hx]
    · next he =>
      by_cases hx : place' = x
      · simp [lookup, hx, hx ▸ he]
      · simp [lookup, hx, ih]

/-- Setting a node leaves every other node alone. -/
theorem node?_put (fs : FileSystem) {place : Location} (x : Location) (node : Node)
    (h : place ≠ []) :
    (fs.put place node).node? x = if x = place then some node else fs.node? x := by
  simp only [node?, put]
  by_cases hx : x = []
  · simp [hx, Ne.symm h]
  · simp [hx, lookup_putEntry]

/-! ### Failures -/

/-- Why a path cannot be read or written. -/
inductive Failure where
  | missing
  | notDirectory
  | isDirectory
  | tooLong
  | hasNul
  | notText
  deriving DecidableEq, Repr

/-- The message about a failure. -/
def Failure.message : Failure → Text
  | missing => "No such file or directory (os error 2)".toList
  | notDirectory => "Not a directory (os error 20)".toList
  | isDirectory => "Is a directory (os error 21)".toList
  | tooLong => "File name too long (os error 36)".toList
  | hasNul => "file name contained an unexpected NUL byte".toList
  | notText => "stream did not contain valid UTF-8".toList

/-! ### Following a path -/

/-- The greatest size of a name, in bytes. -/
def maxName : Nat := 255

/-- The greatest size of a path, in bytes. -/
def maxPath : Nat := 4095

/-- The node with a name in a directory. -/
def child? (fs : FileSystem) (dir : Location) (name : Text) : Except Failure (Option Node) :=
  if maxName < Text.utf8Size name then .error .tooLong else .ok (fs.node? (dir ++ [name]))

/-- The directory that a part leads to from a directory. -/
def enter (fs : FileSystem) (dir : Location) (part : Text) : Except Failure Location :=
  if Path.isIdle part then .ok dir
  else if part = ['.', '.'] then .ok dir.dropLast
  else
    match fs.child? dir part with
    | .error failure => .error failure
    | .ok none => .error .missing
    | .ok (some .directory) => .ok (dir ++ [part])
    | .ok (some _) => .error .notDirectory

/-- The directory that parts lead to from a directory, one after another. -/
def enterAll (fs : FileSystem) (dir : Location) : List Text → Except Failure Location
  | [] => .ok dir
  | part :: parts =>
    match fs.enter dir part with
    | .ok dir => fs.enterAll dir parts
    | .error failure => .error failure

/-- The parts of a path that can be followed at all. -/
def checkedParts (p : Path) : Except Failure (List Text) :=
  if p = [] then .error .missing
  else if '\x00' ∈ p then .error .hasNul
  else if maxPath < Text.utf8Size p then .error .tooLong
  else .ok (Path.parts p)

/-- The directory from which a path is followed. -/
def origin (cwd : Location) (p : Path) : Location :=
  if p.head? = some '/' then [] else cwd

/-- Whether a part stands for a directory whatever the tree. -/
def isDots (part : Text) : Bool :=
  Path.isIdle part || part = ['.', '.']

/-! ### Reading -/

/-- The node that a path leads to. -/
def find (fs : FileSystem) (cwd : Location) (p : Path) : Except Failure Node := do
  let parts ← checkedParts p
  let dir ← fs.enterAll (origin cwd p) parts.dropLast
  let last := parts.getLastD []
  if isDots last then pure .directory
  else
    match ← fs.child? dir last with
    | some node => pure node
    | none => throw .missing

/-- Whether a path leads anywhere. -/
def isThere (fs : FileSystem) (cwd : Location) (p : Path) : Bool :=
  (fs.find cwd p).isOk

/-- The text of the file that a path leads to. -/
def read (fs : FileSystem) (cwd : Location) (p : Path) : Except Failure Text := do
  match ← fs.find cwd p with
  | .text content => pure content
  | .directory => throw .isDirectory
  | .binary => throw .notText

/-! ### Writing -/

/-- The place of the file that a path names for writing. The file need not be there, but its
directory has to. -/
def placeOf (fs : FileSystem) (cwd : Location) (p : Path) : Except Failure Location := do
  let parts ← checkedParts p
  let named := (parts.reverse.dropWhile (· = [])).reverse
  let dir ← fs.enterAll (origin cwd p) named.dropLast
  let last := named.getLastD []
  if named.length < parts.length ∨ isDots last then throw .isDirectory
  else
    match ← fs.child? dir last with
    | some .directory => throw .isDirectory
    | _ => pure (dir ++ [last])

/-- The tree with the text of the file that a path names. -/
def write (fs : FileSystem) (cwd : Location) (p : Path) (content : Text) :
    Except Failure FileSystem := do
  let place ← fs.placeOf cwd p
  pure (fs.put place (.text content))

/-! ### Directories -/

/-- The places that parts lead through from a directory, whatever the tree. -/
def trail (dir : Location) : List Text → List Location
  | [] => []
  | part :: parts =>
    let next :=
      if Path.isIdle part then dir else if part = ['.', '.'] then dir.dropLast else dir ++ [part]
    next :: trail next parts

/-- The absolute path of a location. -/
def pathOf (place : Location) : Path :=
  '/' :: Path.ofParts place

/-- The directory that a path leads to. -/
def directoryOf (fs : FileSystem) (cwd : Location) (p : Path) : Except Failure Location := do
  let parts ← checkedParts p
  fs.enterAll (origin cwd p) parts

end FileSystem

end TemplateFunctions
