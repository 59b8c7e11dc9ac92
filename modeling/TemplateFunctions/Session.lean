import TemplateFunctions.Directive.Names
import TemplateFunctions.Emitter

/-!
Sessions: the state in which templates are compiled.

A session has an emitter and a table of directives. Declaring a function enters a directive that
calls it into the table, so that the function can be used from there on.

* `Session.perform`: what a directive makes of an expression, and the session after it.
* `Session.dispatch`: the same for the directive under a name.
* `perform_error`: only a declaration fails, and it changes nothing then.
* `dispatch_eq_some_iff`, `dispatch_eq_error_iff`: when a dispatch gives a fragment and when it
  fails.
-/

namespace TemplateFunctions

/-- An emitter and a table of directives. -/
structure Session where
  emitter : Emitter
  table : Table

namespace Session

/-! ### Starting -/

/-- The session without directives. -/
def bare (emitter : Emitter) : Session :=
  ⟨emitter, .empty⟩

/-- Installs the function directives. -/
def install (s : Session) (names : DirectiveNames) : Session :=
  { s with table := names.install s.table }

/-- The session with the function directives installed. -/
def start (emitter : Emitter) (names : DirectiveNames) : Session :=
  (bare emitter).install names

/-- Enters a directive under a name. -/
def register (s : Session) (name : Text) (d : Directive) : Session :=
  { s with table := s.table.insert name d }

/-! ### Directives at work -/

/-- The fragment that a directive makes of an expression, and the session after it. -/
def perform (s : Session) (d : Directive) (expression : Text) :
    Except Declaration.Unnamed Text × Session :=
  match d with
  | .declare =>
    match Declaration.read expression with
    | .ok decl => (.ok (s.emitter.prologue decl), s.register decl.name (.call decl.name))
    | .error unnamed => (.error unnamed, s)
  | .close => (.ok s.emitter.close, s)
  | .returnValue => (.ok (s.emitter.returnValue expression), s)
  | .call name => (.ok (s.emitter.call name expression), s)
  | .custom _ transform => (.ok (transform expression), s)

/-- The fragment that the directive under a name makes of an expression. Nothing comes of a name
that stands for no directive. -/
def dispatch (s : Session) (name expression : Text) :
    Except Declaration.Unnamed (Option Text) × Session :=
  match s.table.get? name with
  | none => (.ok none, s)
  | some d =>
    let (result, after) := s.perform d expression
    (result.map some, after)

/-! ### What a directive leaves alone -/

/-- A directive that fails changes nothing. -/
theorem perform_error {s after : Session} {d : Directive} {expression : Text}
    {unnamed : Declaration.Unnamed} (h : s.perform d expression = (.error unnamed, after)) :
    after = s ∧ Declaration.read expression = .error unnamed ∧ d = .declare := by
  rw [perform.eq_def] at h
  split at h
  · split at h
    · cases h
    · next hr => cases h; exact ⟨rfl, hr, rfl⟩
  all_goals cases h

/-! ### What comes of a dispatch -/

/-- A dispatch gives a fragment exactly when the directive under the name does. -/
theorem dispatch_eq_some_iff {s after : Session} {name expression fragment : Text} :
    s.dispatch name expression = (.ok (some fragment), after) ↔
      ∃ d, s.table.get? name = some d ∧ s.perform d expression = (.ok fragment, after) := by
  rw [dispatch]
  cases hd : s.table.get? name with
  | none => simp
  | some d =>
    rcases hp : s.perform d expression with ⟨_ | r, s'⟩
    · simp [hp, Except.map]
    · simp [hp, Except.map]

/-- A dispatch fails exactly when the name stands for a declaration that names no function, and it
changes nothing then. -/
theorem dispatch_eq_error_iff {s after : Session} {name expression : Text}
    {unnamed : Declaration.Unnamed} :
    s.dispatch name expression = (.error unnamed, after) ↔
      s.table.get? name = some .declare ∧ Declaration.read expression = .error unnamed
        ∧ after = s := by
  rw [dispatch]
  constructor
  · intro h
    split at h
    · cases h
    · next d hd =>
      rcases hp : s.perform d expression with ⟨u | r, s'⟩
      · simp only [hp, Except.map, Prod.mk.injEq, Except.error.injEq] at h
        obtain ⟨rfl, rfl⟩ := h
        obtain ⟨rfl, hr, rfl⟩ := perform_error hp
        exact ⟨hd, hr, rfl⟩
      · simp [hp, Except.map] at h
  · rintro ⟨hd, hr, rfl⟩
    simp [hd, perform, hr, Except.map]

end Session

end TemplateFunctions
