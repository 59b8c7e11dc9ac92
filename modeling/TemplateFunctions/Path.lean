import TemplateFunctions.Text.Basic

/-!
Paths as they are written: parts between slashes, absolute if a slash comes first.

Nothing here asks a file system, so `..` is a part like any other.

* `Path.parts`: the parts between slashes; `ofParts_parts` puts them together again.
* `Path.join`: a path below another one.
* `Path.parent?`: the path without its last part; `parent?_length_lt` says that it is shorter.
* `Path.ancestors`: the path, its parent, the parent of that, and so on.
-/

namespace TemplateFunctions

/-- A path as it is written. -/
abbrev Path := Text

namespace Path

/-! ### Parts -/

/-- The parts of a path between its slashes. There is always one. -/
def parts : Path → List Text
  | [] => [[]]
  | c :: p =>
    if c = '/' then [] :: parts p
    else
      match parts p with
      | [] => [[c]]
      | part :: others => (c :: part) :: others

/-- The path with these parts. -/
def ofParts (parts : List Text) : Path :=
  List.intercalate ['/'] parts

/-- Whether a part names the directory it stands in. -/
def isIdle (part : Text) : Bool :=
  part = [] || part = ['.']

/-! ### Joining -/

/-- The path `p` below the path `base`. An absolute path stays as it is. -/
def join (base p : Path) : Path :=
  if p.head? = some '/' then p
  else if base = [] ∨ base.getLast? = some '/' then base ++ p
  else base ++ '/' :: p

/-! ### The parent -/

/-- The start of a path that no part is dropped from: the root, or a leading `.`. -/
def anchor : Path → Path × Path
  | '/' :: p => (['/'], p)
  | ['.'] => (['.'], [])
  | '.' :: '/' :: p => (['.'], '/' :: p)
  | p => ([], p)

/-- The path without the idle parts at its end. -/
def dropIdle (p : Path) : Path :=
  ofParts ((parts p).reverse.dropWhile isIdle).reverse

/-- The path without its last part. -/
def dropLast (p : Path) : Path :=
  ofParts (parts p).dropLast

/-- The path without its last part that is not idle, if it has one. Of a path that is only a leading
`.`, nothing is left. -/
def parent? (p : Path) : Option Path :=
  let (head, body) := anchor p
  let body := dropIdle body
  if body ≠ [] then some (head ++ dropIdle (dropLast body))
  else if head = ['.'] then some []
  else none

/-! ### Lengths -/

/-- The number of characters of a path with these parts. -/
theorem length_ofParts_cons (part : Text) (others : List Text) :
    (ofParts (part :: others)).length =
      part.length + (if others = [] then 0 else 1 + (ofParts others).length) := by
  cases others with
  | nil => simp [ofParts]
  | cons q others => simp [ofParts, List.intercalate, List.intersperse, Nat.add_comm]

/-- The parts of a path make up the path. -/
theorem ofParts_parts (p : Path) : ofParts (parts p) = p := by
  induction p with
  | nil => rfl
  | cons c p ih =>
    have hne : parts p ≠ [] := by
      cases p with
      | nil => simp [parts]
      | cons d p =>
        rw [parts]
        split
        · simp
        · split <;> simp
    rw [parts]
    obtain ⟨part, others, hp⟩ := List.exists_cons_of_ne_nil hne
    rw [hp] at ih ⊢
    split
    · next hc => rw [hc, ← ih]; simp [ofParts, List.intercalate, List.intersperse]
    · rw [← ih]
      cases others <;> simp [ofParts, List.intercalate, List.intersperse]

/-- Fewer parts at the start of a path make no longer path. -/
theorem length_ofParts_take_le (n : Nat) (ps : List Text) :
    (ofParts (ps.take n)).length ≤ (ofParts ps).length := by
  induction ps generalizing n with
  | nil => simp
  | cons part others ih =>
    cases n with
    | zero => simp [ofParts]
    | succ n =>
      rw [List.take_succ_cons, length_ofParts_cons, length_ofParts_cons]
      have := ih n
      cases others with
      | nil => simp
      | cons q others =>
        cases n with
        | zero => simp
        | succ n => simp only [List.take_succ_cons, reduceCtorEq, if_false] at this ⊢; omega

/-- A path that is not empty gets shorter without its last part. -/
theorem length_ofParts_dropLast_lt {ps : List Text} (h : ofParts ps ≠ []) :
    (ofParts ps.dropLast).length < (ofParts ps).length := by
  induction ps with
  | nil => exact absurd rfl h
  | cons part others ih =>
    cases others with
    | nil => simpa [ofParts, List.length_pos_iff] using h
    | cons q others =>
      rw [List.dropLast_cons_cons, length_ofParts_cons, length_ofParts_cons]
      cases hq : ofParts (q :: others) with
      | nil =>
        cases others with
        | nil => simp
        | cons r others => simp [ofParts, List.intercalate, List.intersperse] at hq
      | cons c cs =>
        have := ih (by simp [hq])
        rw [hq] at this
        simp only [reduceCtorEq, if_false]
        split <;> omega

/-- Dropping idle parts makes no path longer. -/
theorem length_dropIdle_le (p : Path) : (dropIdle p).length ≤ p.length := by
  have hp : ((parts p).reverse.dropWhile isIdle).reverse <+: parts p := by
    rw [← List.reverse_suffix, List.reverse_reverse]
    exact List.dropWhile_suffix _
  rw [dropIdle, List.prefix_iff_eq_take.1 hp]
  exact Nat.le_trans (length_ofParts_take_le _ _)
    (Nat.le_of_eq (congrArg List.length (ofParts_parts p)))

/-- A path that is not empty gets shorter without its last part. -/
theorem length_dropLast_lt {p : Path} (h : p ≠ []) : (dropLast p).length < p.length := by
  have h' : ofParts (parts p) ≠ [] := by rwa [ofParts_parts]
  have := length_ofParts_dropLast_lt h'
  rwa [ofParts_parts] at this

theorem anchor_append (p : Path) : (anchor p).1 ++ (anchor p).2 = p := by
  rw [anchor.eq_def]
  split <;> rfl

/-- A parent is shorter than the path. -/
theorem parent?_length_lt {p q : Path} (h : parent? p = some q) : q.length < p.length := by
  have hp := congrArg List.length (anchor_append p)
  rw [List.length_append] at hp
  have hi := length_dropIdle_le (anchor p).2
  simp only [parent?] at h
  split at h
  · next hb =>
    cases h
    have hd := length_dropLast_lt hb
    have := length_dropIdle_le (dropLast (dropIdle (anchor p).2))
    rw [List.length_append]
    omega
  · split at h
    · next hh =>
      cases h
      rw [hh] at hp
      simp only [List.length_cons, List.length_nil] at hp ⊢
      omega
    · cases h

/-! ### Ancestors -/

/-- The path, its parent, the parent of that, and so on. -/
def ancestors (p : Path) : List Path :=
  match h : parent? p with
  | some q =>
    have : q.length < p.length := parent?_length_lt h
    p :: ancestors q
  | none => [p]
  termination_by p.length

end Path

end TemplateFunctions
