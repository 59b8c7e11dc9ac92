import TemplateFunctions.Directive
import TemplateFunctions.Text.Order

/-!
Tables of directives: each name stands for at most one directive.

* `Table.insert`: a name that is already there keeps its place and gets the new directive; a new
  name goes to the end.
* `Table.get?_insert`: after an insertion the name has the new directive, and every other name has
  what it had.
* `Table.size_le_insert`: an insertion never makes a table smaller.
* `Table.declared`: the names of the functions that can be called, sorted by code point.
-/

namespace TemplateFunctions

/-- Names with their directives, in the order of their first insertion. -/
structure Table where
  entries : List (Text × Directive)
  nodup : (entries.map Prod.fst).Nodup

namespace Table

/-! ### Looking up -/

/-- The table without entries. -/
def empty : Table :=
  ⟨[], .nil⟩

/-- The directive that the entries give for a name. -/
def lookup (name : Text) : List (Text × Directive) → Option Directive
  | [] => none
  | (name', d) :: entries => if name' = name then some d else lookup name entries

/-- The directive that a name stands for. -/
def get? (table : Table) (name : Text) : Option Directive :=
  lookup name table.entries

/-- Whether a name stands for a directive. -/
def contains (table : Table) (name : Text) : Bool :=
  (table.get? name).isSome

/-- The number of names. -/
def size (table : Table) : Nat :=
  table.entries.length

theorem contains_of_get?_eq_some {table : Table} {name : Text} {d : Directive}
    (h : table.get? name = some d) : table.contains name = true := by
  rw [contains, h, Option.isSome_some]

@[simp] theorem size_empty : empty.size = 0 := rfl

/-! ### Inserting -/

/-- Entries with the directive of a name set. -/
def insertEntry (name : Text) (d : Directive) :
    List (Text × Directive) → List (Text × Directive)
  | [] => [(name, d)]
  | (name', d') :: entries =>
    if name' = name then (name, d) :: entries else (name', d') :: insertEntry name d entries

/-- An insertion adds at most its own name. -/
theorem mem_insertEntry {name x : Text} {d : Directive} {entries : List (Text × Directive)}
    (h : x ∈ (insertEntry name d entries).map Prod.fst) :
    x = name ∨ x ∈ entries.map Prod.fst := by
  induction entries with
  | nil => simpa [insertEntry] using h
  | cons e entries ih =>
    rw [insertEntry] at h
    split at h
    · simp only [List.map_cons, List.mem_cons] at h ⊢
      exact h.imp_right Or.inr
    · simp only [List.map_cons, List.mem_cons] at h ⊢
      rcases h with h | h
      · exact Or.inr (Or.inl h)
      · exact (ih h).imp_right Or.inr

/-- An insertion keeps the names apart. -/
theorem nodup_insertEntry {entries : List (Text × Directive)} (name : Text) (d : Directive)
    (h : (entries.map Prod.fst).Nodup) : ((insertEntry name d entries).map Prod.fst).Nodup := by
  induction entries with
  | nil => simp [insertEntry]
  | cons e entries ih =>
    rw [List.map_cons, List.nodup_cons] at h
    rw [insertEntry]
    split
    · next he => rw [List.map_cons, List.nodup_cons]; exact ⟨he ▸ h.1, h.2⟩
    · next he =>
      rw [List.map_cons, List.nodup_cons]
      exact ⟨fun hm => (mem_insertEntry hm).elim he h.1, ih h.2⟩

/-- The table with the directive of a name set. -/
def insert (table : Table) (name : Text) (d : Directive) : Table :=
  ⟨insertEntry name d table.entries, nodup_insertEntry name d table.nodup⟩

/-- What the entries give for a name after an insertion. -/
theorem lookup_insertEntry (name x : Text) (d : Directive) (entries : List (Text × Directive)) :
    lookup x (insertEntry name d entries) = if x = name then some d else lookup x entries := by
  induction entries with
  | nil => simp [insertEntry, lookup, eq_comm]
  | cons e entries ih =>
    obtain ⟨name', d'⟩ := e
    rw [insertEntry]
    split
    · next he =>
      subst he
      by_cases hx : x = name'
      · simp [lookup, hx]
      · simp [lookup, hx, Ne.symm hx]
    · next he =>
      by_cases hx : name' = x
      · simp [lookup, hx, hx ▸ he]
      · simp [lookup, hx, ih]

/-- After an insertion the name has the new directive, and every other name what it had. -/
theorem get?_insert (table : Table) (name x : Text) (d : Directive) :
    (table.insert name d).get? x = if x = name then some d else table.get? x :=
  lookup_insertEntry name x d table.entries

@[simp] theorem get?_insert_self (table : Table) (name : Text) (d : Directive) :
    (table.insert name d).get? name = some d := by
  simp [get?_insert]

theorem get?_insert_of_ne (table : Table) {name x : Text} (d : Directive) (h : x ≠ name) :
    (table.insert name d).get? x = table.get? x := by
  simp [get?_insert, h]

/-- The number of entries after an insertion. -/
theorem length_insertEntry (name : Text) (d : Directive) (entries : List (Text × Directive)) :
    (insertEntry name d entries).length =
      if (lookup name entries).isSome then entries.length else entries.length + 1 := by
  induction entries with
  | nil => simp [insertEntry, lookup]
  | cons e entries ih =>
    obtain ⟨name', d'⟩ := e
    rw [insertEntry]
    split
    · next he => simp [lookup, he]
    · next he =>
      rw [lookup, if_neg he, List.length_cons, ih]
      split <;> rfl

/-- The number of names after an insertion. -/
theorem size_insert (table : Table) (name : Text) (d : Directive) :
    (table.insert name d).size =
      if table.contains name then table.size else table.size + 1 :=
  length_insertEntry name d table.entries

theorem size_le_insert (table : Table) (name : Text) (d : Directive) :
    table.size ≤ (table.insert name d).size := by
  rw [size_insert]
  split <;> omega

/-! ### Declared functions -/

/-- The names of the functions that the directives call, sorted by code point. -/
def declared (table : Table) : List Text :=
  (table.entries.filterMap fun e => e.2.callee?).mergeSort Text.le

end Table

end TemplateFunctions
