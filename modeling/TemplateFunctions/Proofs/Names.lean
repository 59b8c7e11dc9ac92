import Mathlib.Tactic.Common
import TemplateFunctions.Session

/-!
Checked names: what the check of the directive names promises, and what the table looks like that
they are installed in.

* `check_eq_none_iff`: **the check passes exactly if the names in use are identifiers and
  distinct.**
* `get?_install_of_mem`: then every name in use stands for its own directive.
* `Table.Callless`: a table in which no function can be called, such as a fresh one
  (`callless_install`); `declared_insert_call` enters the first one.
-/

namespace TemplateFunctions

namespace DirectiveNames

/-! ### The check -/

/-- No name is wrong exactly when every one is an identifier. -/
lemma firstMisnamed?_eq_none_iff {entries : List (Role × Text)} :
    firstMisnamed? entries = none ↔ ∀ e ∈ entries, isIdentifier e.2 = true := by
  simp [firstMisnamed?]

/-- No name is shared exactly when the names are distinct. -/
lemma firstShared?_eq_none_iff {entries : List (Role × Text)} :
    firstShared? entries = none ↔ (entries.map Prod.snd).Nodup := by
  induction entries with
  | nil => simp [firstShared?]
  | cons e entries ih =>
      obtain ⟨role, name⟩ := e
      rw [firstShared?, List.map_cons, List.nodup_cons]
      cases hfind : entries.find? fun e => e.2 == name with
      | some found =>
          have hmem := List.mem_of_find?_eq_some hfind
          have hname : found.2 = name := by simpa using List.find?_some hfind
          have : name ∈ entries.map Prod.snd := List.mem_map.2 ⟨found, hmem, hname⟩
          simp [this]
      | none =>
          have : name ∉ entries.map Prod.snd := by
            rw [List.find?_eq_none] at hfind
            intro hname
            obtain ⟨e, he, rfl⟩ := List.mem_map.1 hname
            exact hfind e he (by simp)
          simp [this, ih]

/-- **The check passes exactly if the names in use are identifiers and distinct.** -/
theorem check_eq_none_iff {names : DirectiveNames} :
    names.check = none ↔
      (∀ e ∈ names.enabled, isIdentifier e.2 = true) ∧ (names.enabled.map Prod.snd).Nodup := by
  rw [check, Option.or_eq_none_iff, firstMisnamed?_eq_none_iff, firstShared?_eq_none_iff]

lemma declare_mem_enabled (names : DirectiveNames) : (.declare, names.declare) ∈ names.enabled := by
  simp [enabled]

lemma close_mem_enabled (names : DirectiveNames) : (.close, names.close) ∈ names.enabled := by
  simp [enabled]

/-! ### The table -/

/-- Enters directives one after another. -/
def installAll (entries : List (Role × Text)) (table : Table) : Table :=
  entries.foldl (fun table (role, name) => table.insert name role.directive) table

/-- The names in use are installed one after another. -/
lemma install_eq (names : DirectiveNames) (table : Table) :
    names.install table = installAll names.enabled table := rfl

/-- A name that is not entered stands for what it stood for. -/
lemma get?_installAll_of_notMem {entries : List (Role × Text)} {name : Text}
    (h : name ∉ entries.map Prod.snd) (table : Table) :
    (installAll entries table).get? name = table.get? name := by
  induction entries generalizing table with
  | nil => rfl
  | cons e entries ih =>
      rw [List.map_cons, List.mem_cons, not_or] at h
      calc (installAll (e :: entries) table).get? name
          = (table.insert e.2 e.1.directive).get? name := ih h.2 _
        _ = table.get? name := Table.get?_insert_of_ne _ _ h.1

/-- Of distinct names each stands for its own directive. -/
lemma get?_installAll_of_mem {entries : List (Role × Text)} {role : Role} {name : Text}
    (hdistinct : (entries.map Prod.snd).Nodup) (hmem : (role, name) ∈ entries) (table : Table) :
    (installAll entries table).get? name = some role.directive := by
  induction entries generalizing table with
  | nil => cases hmem
  | cons e entries ih =>
      rw [List.map_cons, List.nodup_cons] at hdistinct
      rcases List.mem_cons.1 hmem with rfl | hrest
      · calc (installAll ((role, name) :: entries) table).get? name
            = (table.insert name role.directive).get? name :=
              get?_installAll_of_notMem hdistinct.1 _
          _ = some role.directive := Table.get?_insert_self _ _ _
      · exact ih hdistinct.2 hrest _

/-- **Checked names stand for their own directives.** -/
lemma get?_install_of_mem {names : DirectiveNames} {role : Role} {name : Text}
    (hcheck : names.check = none) (hmem : (role, name) ∈ names.enabled) (table : Table) :
    (names.install table).get? name = some role.directive := by
  rw [install_eq]
  exact get?_installAll_of_mem (check_eq_none_iff.1 hcheck).2 hmem table

end DirectiveNames

/-! ### Functions that can be called -/

namespace Table

/-- No entry of the table calls a function. -/
def Callless (table : Table) : Prop := ∀ e ∈ table.entries, e.2.callee? = none

/-- An entry after an insertion is the inserted one or was there. -/
lemma mem_of_mem_insertEntry {name : Text} {d : Directive} {e : Text × Directive}
    {entries : List (Text × Directive)} (h : e ∈ insertEntry name d entries) :
    e = (name, d) ∨ e ∈ entries := by
  induction entries with
  | nil => exact Or.inl (List.mem_singleton.1 h)
  | cons e' entries ih =>
      rw [insertEntry] at h
      split at h
      · rcases List.mem_cons.1 h with rfl | h
        · exact Or.inl rfl
        · exact Or.inr (List.mem_cons_of_mem _ h)
      · rcases List.mem_cons.1 h with rfl | h
        · exact Or.inr List.mem_cons_self
        · exact (ih h).imp_right (List.mem_cons_of_mem _)

/-- A directive that calls no function leaves a table without calls as it is in this. -/
lemma Callless.insert {table : Table} (h : table.Callless) (name : Text) {d : Directive}
    (hd : d.callee? = none) : (table.insert name d).Callless := by
  intro e he
  rcases mem_of_mem_insertEntry he with rfl | he
  · exact hd
  · exact h e he

/-- Installing directives enters no call. -/
lemma Callless.installAll {table : Table} (h : table.Callless)
    (entries : List (DirectiveNames.Role × Text)) :
    (DirectiveNames.installAll entries table).Callless := by
  induction entries generalizing table with
  | nil => exact h
  | cons e entries ih =>
      have hd : e.1.directive.callee? = none := by cases e.1 <;> rfl
      exact ih (h.insert e.2 hd)

lemma callless_install (names : DirectiveNames) : (names.install empty).Callless := by
  have hempty : empty.Callless := by
    intro e he
    cases he
  rw [DirectiveNames.install_eq]
  exact hempty.installAll names.enabled

/-- The callees of the entries, when one call is entered among directives without. -/
lemma callees_insertEntry {entries : List (Text × Directive)} (key name : Text)
    (h : ∀ e ∈ entries, e.2.callee? = none) :
    (insertEntry key (.call name) entries).filterMap (fun e => e.2.callee?) = [name] := by
  induction entries with
  | nil => rfl
  | cons e entries ih =>
      have he := h e List.mem_cons_self
      have hrest := fun e' he' => h e' (List.mem_cons_of_mem e he')
      rw [insertEntry]
      split
      · have hnone : entries.filterMap (fun e => e.2.callee?) = [] :=
          List.filterMap_eq_nil_iff.2 hrest
        rw [List.filterMap_cons, hnone]
        rfl
      · simp only [List.filterMap_cons, he]
        exact ih hrest

/-- **The first function that is entered is the only one declared.** -/
lemma declared_insert_call {table : Table} (h : table.Callless) (key name : Text) :
    (table.insert key (.call name)).declared = [name] := by
  rw [declared, insert, callees_insertEntry key name h, List.mergeSort_singleton]

end Table

end TemplateFunctions
