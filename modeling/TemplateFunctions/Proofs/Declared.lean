import Mathlib.Tactic.Common
import TemplateFunctions.Directive.Table

/-!
The functions that a table declares.

A table lists the callees of its calls, sorted. The list has no callee twice if every call stands
under the name of its own callee.

* `get?_eq_some_iff`: what a name stands for is its one entry.
* `mem_declared_iff`: the listed functions are those that the table calls.
* `OwnNames`: every call stands under its own name; `OwnNames.mem_declared_iff` and
  `OwnNames.pairwise_declared`: **then the list is strictly increasing, and its names are those that
  stand for their own calls.**
-/

namespace TemplateFunctions

namespace Table

/-! ### Entries -/

/-- Among distinct names, what a name stands for is its one entry. -/
lemma lookup_eq_some_iff {entries : List (Text × Directive)} {name : Text} {d : Directive}
    (hdistinct : (entries.map Prod.fst).Nodup) :
    lookup name entries = some d ↔ (name, d) ∈ entries := by
  induction entries with
  | nil => simp [lookup]
  | cons e entries ih =>
      obtain ⟨name', d'⟩ := e
      rw [List.map_cons, List.nodup_cons] at hdistinct
      rw [lookup, List.mem_cons, Prod.mk.injEq]
      split
      · next heq =>
        subst heq
        have hnone : (name', d) ∉ entries := fun hmem =>
          hdistinct.1 (List.mem_map.2 ⟨_, hmem, rfl⟩)
        simp [hnone, eq_comm]
      · next hne => simp [ih hdistinct.2, Ne.symm hne]

/-- **What a name stands for is its one entry.** -/
lemma get?_eq_some_iff {table : Table} {name : Text} {d : Directive} :
    table.get? name = some d ↔ (name, d) ∈ table.entries :=
  lookup_eq_some_iff table.nodup

/-! ### The list of declared functions -/

/-- Only the call of a function has that function for its callee. -/
lemma callee?_eq_some_iff {d : Directive} {name : Text} :
    d.callee? = some name ↔ d = .call name := by
  cases d <;> simp [Directive.callee?]

/-- The declared functions are those that the table calls. -/
lemma mem_declared_iff {table : Table} {name : Text} :
    name ∈ table.declared ↔ ∃ key, table.get? key = some (.call name) := by
  rw [declared, List.mem_mergeSort, List.mem_filterMap]
  constructor
  · rintro ⟨⟨key, d⟩, hmem, hcallee⟩
    obtain rfl := callee?_eq_some_iff.1 hcallee
    exact ⟨key, get?_eq_some_iff.2 hmem⟩
  · rintro ⟨key, hkey⟩
    exact ⟨(key, .call name), get?_eq_some_iff.1 hkey, rfl⟩

lemma sorted_declared (table : Table) :
    table.declared.Pairwise fun x y => Text.le x y = true :=
  @List.pairwise_mergeSort Text Text.le (fun _ _ _ => Text.le_trans) Text.le_total _

/-! ### Calls under their own names -/

/-- **Every call stands under its own name**, as those that declarations enter do. -/
def OwnNames (table : Table) : Prop :=
  ∀ key name, table.get? key = some (.call name) → name = key

/-- Then the declared functions are the names that stand for their own calls. -/
lemma OwnNames.mem_declared_iff {table : Table} (h : table.OwnNames) {name : Text} :
    name ∈ table.declared ↔ table.get? name = some (.call name) := by
  rw [Table.mem_declared_iff]
  constructor
  · rintro ⟨key, hkey⟩
    obtain rfl := h key name hkey
    exact hkey
  · exact fun hname => ⟨name, hname⟩

/-- Then no declared function is listed twice. -/
lemma OwnNames.nodup_declared {table : Table} (h : table.OwnNames) : table.declared.Nodup := by
  rw [declared, (List.mergeSort_perm _ _).nodup_iff, List.Nodup, List.pairwise_filterMap]
  have hdistinct := table.nodup
  rw [List.Nodup, List.pairwise_map] at hdistinct
  refine hdistinct.imp_of_mem ?_
  rintro ⟨key, d⟩ ⟨key', d'⟩ hmem hmem' hne name hname name' hname' rfl
  obtain rfl := callee?_eq_some_iff.1 hname
  obtain rfl := callee?_eq_some_iff.1 hname'
  exact hne ((h key name (get?_eq_some_iff.2 hmem)).symm.trans
    (h key' name (get?_eq_some_iff.2 hmem')))

/-- **Then the declared functions are strictly increasing.** -/
lemma OwnNames.pairwise_declared {table : Table} (h : table.OwnNames) :
    table.declared.Pairwise fun x y => Text.le x y = true ∧ x ≠ y :=
  List.pairwise_and_iff.2 ⟨table.sorted_declared, h.nodup_declared⟩

end Table

end TemplateFunctions
