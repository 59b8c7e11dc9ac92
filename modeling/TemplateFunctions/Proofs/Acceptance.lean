import Mathlib.Tactic.Common
import TemplateFunctions.Proofs.Loading
import TemplateFunctions.Proofs.Names

/-!
Which configurations are accepted, and what an accepted one installs.

* `reported`: the first of a list of complaints that is justified.
* `DirectiveNames.complaints`, `Config.complaints`: what can be wrong, in the order of precedence;
  `check_eq_reported` and `flaw?_eq_reported`: **the checks report the first justified complaint.**
* `size_installAll`: distinct names are installed side by side.
* `accepts_usable`: **a configuration is accepted exactly if it can be used, and then its directives
  are installed without collision.**
-/

namespace TemplateFunctions

/-! ### Complaints -/

/-- The first complaint that is justified. -/
def reported {α : Type} (complaints : List (Bool × α)) : Option α :=
  (complaints.find? Prod.fst).map Prod.snd

section Reported

variable {α : Type}

/-- A justified complaint goes before all later ones. -/
@[simp] lemma reported_cons (justified : Bool) (a : α) (complaints : List (Bool × α)) :
    reported ((justified, a) :: complaints) =
      if justified then some a else reported complaints := by
  cases justified <;> rfl

/-- Complaints in two rows are reported from the first row if one of it is justified. -/
lemma reported_append (complaints later : List (Bool × α)) :
    reported (complaints ++ later) = (reported complaints).or (reported later) := by
  rw [reported, List.find?_append, Option.map_or]
  rfl

lemma reported_eq_none_iff {complaints : List (Bool × α)} :
    reported complaints = none ↔ ∀ x ∈ complaints, x.1 = false := by
  simp [reported]

end Reported

namespace DirectiveNames

/-- What can be wrong with the names, in the order of precedence. -/
def complaints (names : DirectiveNames) : List (Bool × Flaw) :=
  [ (!isIdentifier names.declare, .notIdentifier .declare names.declare),
    (!isIdentifier names.close, .notIdentifier .close names.close),
    (names.returnValue != [] && !isIdentifier names.returnValue,
      .notIdentifier .returnValue names.returnValue),
    (names.declare == names.close, .shared .declare .close names.declare),
    (names.returnValue != [] && names.declare == names.returnValue,
      .shared .declare .returnValue names.declare),
    (names.returnValue != [] && names.close == names.returnValue,
      .shared .close .returnValue names.close) ]

/-- The complaints about single names. -/
def misnamings (entries : List (Role × Text)) : List (Bool × Flaw) :=
  entries.map fun e => (!isIdentifier e.2, .notIdentifier e.1 e.2)

/-- The complaints about pairs of names: each name is compared with all later ones. -/
def sharings : List (Role × Text) → List (Bool × Flaw)
  | [] => []
  | (role, name) :: entries =>
    entries.map (fun e => (e.2 == name, .shared role e.1 name)) ++ sharings entries

/-- The first name that is no identifier is reported. -/
lemma firstMisnamed?_eq_reported (entries : List (Role × Text)) :
    firstMisnamed? entries = reported (misnamings entries) := by
  rw [firstMisnamed?, reported, misnamings, List.find?_map, Option.map_map]
  rfl

/-- The first name that a later one repeats is reported. -/
lemma firstShared?_eq_reported (entries : List (Role × Text)) :
    firstShared? entries = reported (sharings entries) := by
  induction entries with
  | nil => rfl
  | cons e entries ih =>
      obtain ⟨role, name⟩ := e
      have hfirst : reported (entries.map fun e => (e.2 == name, Flaw.shared role e.1 name)) =
          (entries.find? fun e => e.2 == name).map fun e => .shared role e.1 name := by
        rw [reported, List.find?_map, Option.map_map]
        rfl
      rw [firstShared?, sharings, reported_append, hfirst, ih]
      cases entries.find? fun e => e.2 == name with
      | none => rfl
      | some found => rfl

/-- **The check of the names reports the first justified complaint.** -/
lemma check_eq_reported (names : DirectiveNames) : names.check = reported names.complaints := by
  obtain ⟨declare, close, returnValue⟩ := names
  rw [check, firstMisnamed?_eq_reported, firstShared?_eq_reported, ← reported_append]
  -- the check and the complaints compare two names the other way round
  have hclose : (close == declare) = (declare == close) := BEq.comm
  have hreturn : (returnValue == declare) = (declare == returnValue) := BEq.comm
  have hreturn' : (returnValue == close) = (close == returnValue) := BEq.comm
  by_cases hnil : returnValue = []
  · simp [enabled, returnValue?, misnamings, sharings, complaints, hnil, hclose]
  · simp [enabled, returnValue?, misnamings, sharings, complaints, hnil, hclose, hreturn, hreturn']

/-! ### The table of accepted names -/

/-- Distinct names that are new to a table are installed side by side. -/
lemma size_installAll {entries : List (Role × Text)} (hdistinct : (entries.map Prod.snd).Nodup)
    (table : Table) (hnew : ∀ e ∈ entries, table.contains e.2 = false) :
    (installAll entries table).size = table.size + entries.length := by
  induction entries generalizing table with
  | nil => rfl
  | cons e entries ih =>
      rw [List.map_cons, List.nodup_cons] at hdistinct
      have hrest : ∀ e' ∈ entries, (table.insert e.2 e.1.directive).contains e'.2 = false := by
        intro e' he'
        have hne : e'.2 ≠ e.2 := fun h => hdistinct.1 (List.mem_map.2 ⟨e', he', h⟩)
        rw [Table.contains, Table.get?_insert_of_ne _ _ hne]
        exact hnew e' (List.mem_cons_of_mem e he')
      have hsize : (table.insert e.2 e.1.directive).size = table.size + 1 := by
        rw [Table.size_insert, hnew e List.mem_cons_self, if_neg Bool.false_ne_true]
      calc (installAll (e :: entries) table).size
          = (table.insert e.2 e.1.directive).size + entries.length := ih hdistinct.2 _ hrest
        _ = table.size + (e :: entries).length := by
          rw [hsize, List.length_cons]
          omega

/-- Two directives are in use, or three. -/
lemma length_enabled (names : DirectiveNames) :
    names.enabled.length = if names.returnValue = [] then 2 else 3 := by
  rw [enabled, returnValue?]
  split <;> rfl

/-- The returning directive is in use under a name that is not empty. -/
lemma returnValue_mem_enabled {names : DirectiveNames} (h : names.returnValue ≠ []) :
    (.returnValue, names.returnValue) ∈ names.enabled := by
  simp [enabled, returnValue?, h]

end DirectiveNames

namespace Config

/-- What can be wrong with a configuration, in the order of precedence. -/
def complaints (c : Config) : List (Bool × Flaw) :=
  (c.context.any (·.all Text.isWhite), .blankContext)
    :: c.names.complaints.map fun (justified, flaw) => (justified, .names flaw)

/-- **The check of a configuration reports the first justified complaint.** -/
lemma flaw?_eq_reported (c : Config) : c.flaw? = reported c.complaints := by
  have hblank : c.hasBlankContext = c.context.any (·.all Text.isWhite) := by
    rw [hasBlankContext]
    cases c.context <;> rfl
  have hnames :
      reported (c.names.complaints.map fun (justified, flaw) => (justified, .names flaw)) =
        (reported c.names.complaints).map Flaw.names := by
    rw [reported, reported, List.find?_map, Option.map_map, Option.map_map]
    rfl
  rw [flaw?, complaints, reported_cons, hblank, hnames, DirectiveNames.check_eq_reported]

/-- No complaint about a configuration is justified exactly if each of its parts is right. -/
lemma complaints_unjustified_iff {c : Config} :
    (∀ x ∈ c.complaints, x.1 = false) ↔
      (∀ context, c.context = some context → ∃ ch ∈ context, Text.isWhite ch = false) ∧
      isIdentifier c.names.declare = true ∧ isIdentifier c.names.close = true ∧
      (c.names.returnValue = [] ∨ isIdentifier c.names.returnValue = true) ∧
      c.names.declare ≠ c.names.close ∧
      (c.names.returnValue ≠ [] →
        c.names.declare ≠ c.names.returnValue ∧ c.names.close ≠ c.names.returnValue) := by
  have hwhite : c.context.any (·.all Text.isWhite) = false ↔
      ∀ context, c.context = some context → ∃ ch ∈ context, Text.isWhite ch = false := by
    cases c.context <;> simp
  have hnames : (∀ x ∈ c.names.complaints, x.1 = false) ↔
      isIdentifier c.names.declare = true ∧ isIdentifier c.names.close = true ∧
      (c.names.returnValue = [] ∨ isIdentifier c.names.returnValue = true) ∧
      c.names.declare ≠ c.names.close ∧
      (c.names.returnValue ≠ [] →
        c.names.declare ≠ c.names.returnValue ∧ c.names.close ≠ c.names.returnValue) := by
    rw [or_iff_not_imp_left, imp_and]
    simp [DirectiveNames.complaints]
  rw [complaints, List.forall_mem_cons, List.forall_mem_map, hnames, hwhite]

/-- **A configuration is accepted exactly if it can be used**: its context, if it has one, is not
blank, the names in use are identifiers, and they are distinct. Otherwise the first justified
complaint is reported. The names of an accepted configuration are installed without collision, each
for its own directive. -/
theorem accepts_usable (c : Config) :
    (c.flaw? = none ↔
      (∀ context, c.context = some context → ∃ ch ∈ context, Text.isWhite ch = false) ∧
      isIdentifier c.names.declare = true ∧ isIdentifier c.names.close = true ∧
      (c.names.returnValue = [] ∨ isIdentifier c.names.returnValue = true) ∧
      c.names.declare ≠ c.names.close ∧
      (c.names.returnValue ≠ [] →
        c.names.declare ≠ c.names.returnValue ∧ c.names.close ≠ c.names.returnValue)) ∧
    c.flaw? = reported c.complaints ∧
    (c.flaw? = none → ∀ emitter,
      let table := (Session.start emitter c.names).table
      table.size = (if c.names.returnValue = [] then 2 else 3) ∧
      table.get? c.names.declare = some .declare ∧ table.get? c.names.close = some .close ∧
      (c.names.returnValue ≠ [] → table.get? c.names.returnValue = some .returnValue)) := by
  refine ⟨?_, flaw?_eq_reported c, ?_⟩
  · rw [flaw?_eq_reported, reported_eq_none_iff, complaints_unjustified_iff]
  · intro hflaw emitter
    have hcheck := (flaw?_eq_none_iff.1 hflaw).2
    have hdistinct := (DirectiveNames.check_eq_none_iff.1 hcheck).2
    refine ⟨?_, DirectiveNames.get?_install_of_mem hcheck c.names.declare_mem_enabled .empty,
      DirectiveNames.get?_install_of_mem hcheck c.names.close_mem_enabled .empty, fun hreturn =>
      DirectiveNames.get?_install_of_mem hcheck (DirectiveNames.returnValue_mem_enabled hreturn)
        .empty⟩
    have hsize := DirectiveNames.size_installAll hdistinct .empty fun _ _ => rfl
    rw [DirectiveNames.length_enabled, Table.size_empty, Nat.zero_add] at hsize
    exact hsize

/-- Without a returning directive two names are installed; and a name that is no identifier is
complained about before a name that is used twice. -/
theorem accepts_without_return :
    let c : Config := ⟨.pseudo, some "ctx".toList, ⟨"macro".toList, "end".toList, []⟩, none⟩
    let d : Config := ⟨.pseudo, none, ⟨"macro".toList, "macro".toList, "9".toList⟩, none⟩
    c.flaw? = none ∧ c.session.table.size = 2 ∧
      d.flaw? = some (.names (.notIdentifier .returnValue "9".toList)) := by
  intro c d
  have hflaw : c.flaw? = none := by decide
  have hsize := ((accepts_usable c).2.2 hflaw c.emitter).1
  exact ⟨hflaw, hsize, (accepts_usable d).2.1⟩

end Config

end TemplateFunctions
