import Mathlib.Data.List.Basic
import TemplateFunctions.Proofs.Distinct
import TemplateFunctions.Proofs.Effect
import TemplateFunctions.Proofs.History

/-!
A single dispatch: what comes of it, and what it changes.

A directive is looked up in the table, and a declaration writes to the same table, perhaps over the
directive that is just at work. The only thing that can fail, reading the declaration, comes before
anything is written, and then one name is written.

* `Emitter.opened?`: the name of the function whose definition a fragment opens.
* `dispatch_eq_none_iff`, `dispatch_snd_eq_self`, `dispatch_of_declares`: the results of a dispatch,
  and the session after each of them.
* `Session.Change`, `Change.Binds`: what may be done later, and the names that are entered by hand.
* `get?_change`, `get?_afterChanges`: **a name that stands for its own call goes on to do so until
  something else is entered under it.**
* `dispatch_atomic`: **a dispatch changes nothing, or the one name that it declares.**
-/

namespace TemplateFunctions

/-! ### The name in a prologue -/

/-- The name of the function whose definition the fragment opens: the identifier behind the words
that every definition starts with. -/
def Emitter.opened? (e : Emitter) (fragment : Text) : Option Text :=
  (fragment.dropPrefix? e.prologueFrame.lead).bind fun t => (Identifier.split? t).map Prod.fst

/-- A prologue opens the definition of the function that is declared. -/
lemma Emitter.opened?_prologue (e : Emitter) {decl : Declaration}
    (h : isIdentifier decl.name = true) : e.opened? (e.prologue decl) = some decl.name := by
  have hleads := Identifier.leads_cons h (by decide : Identifier.isPart ' ' = false)
    (e.prologueFrame.opening ++ (leadIn decl.params ++ e.prologueFrame.closing))
  rw [opened?, prologue_eq_fill, Frame.fill, List.dropPrefix?_append_of_beq _ (by simp),
    Option.bind_some, Identifier.split?_eq_some_iff.2 ⟨hleads, rfl⟩]
  rfl

namespace Session

variable {s : Session} {name expression : Text}

/-! ### The results of a dispatch -/

/-- Nothing comes of a name exactly if it is not in the table. -/
lemma dispatch_eq_none_iff :
    (s.dispatch name expression).1 = .ok none ↔ s.table.contains name = false := by
  rw [dispatch, Table.contains]
  cases s.table.get? name with
  | none => simp
  | some d => cases hresult : (s.perform d expression).1 <;> simp [hresult, Except.map]

/-- A declaration that names a function gives its prologue, and enters the call of the function. -/
lemma dispatch_of_declares {decl : Declaration} (hd : s.table.get? name = some .declare)
    (hread : Declaration.read expression = .ok decl) :
    s.dispatch name expression =
      (.ok (some (s.emitter.prologue decl)), s.register decl.name (.call decl.name)) := by
  simp [dispatch, hd, perform, hread, Except.map]

/-- The call of a function gives its fragment and changes nothing. -/
lemma dispatch_of_call {callee : Text} (hd : s.table.get? name = some (.call callee)) :
    s.dispatch name expression = (.ok (some (s.emitter.call callee expression)), s) := by
  simp [dispatch, hd, perform, Except.map]

/-- **A dispatch changes nothing** unless it is that of a declaration which names a function. -/
lemma dispatch_snd_eq_self
    (h : s.table.get? name ≠ some .declare ∨ ∃ u, Declaration.read expression = .error u) :
    (s.dispatch name expression).2 = s := by
  rw [dispatch]
  cases hd : s.table.get? name with
  | none => rfl
  | some d =>
      rw [hd] at h
      have hself : (s.perform d expression).2 = s := by
        rcases hresult : s.perform d expression with ⟨cause | fragment, after⟩
        · exact (perform_error hresult).1
        · rcases perform_growth hresult with hkept | ⟨rfl, decl, hread, -⟩
          · exact hkept
          · rcases h with hne | ⟨u, hu⟩
            · exact absurd rfl hne
            · cases hread.symm.trans hu
      exact hself

/-- The table after a declaration is the one before with the call of the function entered. -/
lemma entered_register (s : Session) (name : Text) :
    s.table.Entered (· = name) (s.register name (.call name)).table := by
  refine ⟨fun key hkey => ?_, fun key hkey => Table.get?_insert_of_ne _ _ hkey⟩
  rw [hkey]
  exact Table.get?_insert_self _ _ _

/-- A dispatch enters calls under their own names, if it enters anything. -/
lemma exists_entered_dispatch (s : Session) (name expression : Text) :
    ∃ names, s.table.Entered names (s.dispatch name expression).2.table := by
  by_cases hd : s.table.get? name = some .declare
  · cases hread : Declaration.read expression with
    | ok decl =>
        rw [dispatch_of_declares hd hread]
        exact ⟨_, s.entered_register decl.name⟩
    | error u =>
        rw [dispatch_snd_eq_self (Or.inr ⟨u, hread⟩)]
        exact ⟨fun _ => False, .refl fun _ => id⟩
  · rw [dispatch_snd_eq_self (Or.inl hd)]
    exact ⟨fun _ => False, .refl fun _ => id⟩

/-! ### Later changes -/

/-- What may be done with a session: an action, or an entry by hand. -/
inductive Change where
  | action (a : Action)
  /-- A directive is entered under a name. -/
  | register (name : Text) (d : Directive)

/-- The session after a change. -/
def change (s : Session) : Change → Session
  | .action a => s.act a
  | .register name d => s.register name d

/-- The session after changes, one after another. -/
def afterChanges (s : Session) (changes : List Change) : Session :=
  changes.foldl change s

/-- **A change binds a name** if it enters a directive under it by hand, alone or among the function
directives. What templates declare does not count. -/
def Change.Binds (name : Text) : Change → Prop
  | .register name' _ => name' = name
  | .action (.install names) => name ∈ names.enabled.map Prod.snd
  | .action _ => False

lemma emitter_change (s : Session) (c : Change) : (s.change c).emitter = s.emitter := by
  cases c with
  | action a => exact (s.grows_act a).emitter_eq
  | register name d => rfl

/-- **A name that stands for its own call goes on to do so** over a change that does not bind it. -/
lemma get?_change {c : Change} (hc : ¬ c.Binds name)
    (h : s.table.get? name = some (.call name)) :
    (s.change c).table.get? name = some (.call name) := by
  cases c with
  | register name' d =>
      have hne : name ≠ name' := fun heq => hc heq.symm
      exact (Table.get?_insert_of_ne _ _ hne).trans h
  | action a =>
      cases a with
      | compile template => exact (Template.compile_entered s template).1.get?_eq_call h
      | dispatch name' expression =>
          obtain ⟨names, hentered⟩ := s.exists_entered_dispatch name' expression
          exact hentered.get?_eq_call h
      | install names => exact (DirectiveNames.get?_installAll_of_notMem hc s.table).trans h
      | handOver => exact h

/-- So it does over any changes that do not bind it, under the same emitter. -/
lemma get?_afterChanges {changes : List Change} (hchanges : ∀ c ∈ changes, ¬ c.Binds name)
    (h : s.table.get? name = some (.call name)) :
    (s.afterChanges changes).table.get? name = some (.call name) ∧
      (s.afterChanges changes).emitter = s.emitter := by
  induction changes generalizing s with
  | nil => exact ⟨h, rfl⟩
  | cons c changes ih =>
      rw [List.forall_mem_cons] at hchanges
      obtain ⟨hcall, hemitter⟩ := ih hchanges.2 (get?_change hchanges.1 h)
      exact ⟨hcall, hemitter.trans (s.emitter_change c)⟩

/-! ### One dispatch -/

/-- **A dispatch changes nothing, or the one name that it declares.** Nothing comes of it exactly if
the name is not in the table, and it fails exactly if the name stands for a declaration and the
expression names no function. Then, and under every other directive, the session stays as it is. If
a declaration names a function, the fragment opens the definition of that function, the emitter
stays, and exactly the name of the function is entered, for its own call, whether or not that name
is the one that has been dispatched. A later dispatch of the function then gives its call, whatever
is compiled, dispatched and entered in between, until a directive is entered there by hand. -/
theorem dispatch_atomic (s : Session) (name expression : Text) :
    ((s.dispatch name expression).1 = .ok none ↔ s.table.contains name = false) ∧
    (∀ u, (s.dispatch name expression).1 = .error u ↔
      s.table.get? name = some .declare ∧ Declaration.read expression = .error u) ∧
    (s.table.get? name ≠ some .declare ∨ (∃ u, Declaration.read expression = .error u) →
      (s.dispatch name expression).2 = s) ∧
    ∀ decl, s.table.get? name = some .declare → Declaration.read expression = .ok decl →
      ∃ fragment after, s.dispatch name expression = (.ok (some fragment), after) ∧
        fragment = s.emitter.prologue decl ∧ s.emitter.opened? fragment = some decl.name ∧
        after.emitter = s.emitter ∧ s.table.Entered (· = decl.name) after.table ∧
        ∀ changes : List Change, (∀ c ∈ changes, ¬ c.Binds decl.name) → ∀ args,
          let later := after.afterChanges changes
          later.dispatch decl.name args =
            (.ok (some (s.emitter.call decl.name args)), later) := by
  refine ⟨dispatch_eq_none_iff, fun u => ?_, dispatch_snd_eq_self, ?_⟩
  · constructor
    · intro h
      have hpair : s.dispatch name expression = (.error u, (s.dispatch name expression).2) :=
        Prod.ext h rfl
      obtain ⟨hd, hread, -⟩ := dispatch_eq_error_iff.1 hpair
      exact ⟨hd, hread⟩
    · rintro ⟨hd, hread⟩
      rw [dispatch_eq_error_iff.2 ⟨hd, hread, rfl⟩]
  · intro decl hd hread
    have hname := Declaration.isIdentifier_of_read hread
    have hentered := s.entered_register decl.name
    refine ⟨_, _, dispatch_of_declares hd hread, rfl, s.emitter.opened?_prologue hname, rfl,
      hentered, fun changes hchanges args => ?_⟩
    obtain ⟨hcall, hemitter⟩ := get?_afterChanges hchanges (hentered.entered decl.name rfl)
    intro later
    rw [dispatch_of_call hcall, hemitter]
    rfl

/-- A declaration under the name of the declaring directive itself: the name is a call from there
on, also after a template has used it and another name has been entered by hand. -/
theorem dispatch_over_itself :
    let s := start (.ofTarget .php none) .standard
    let decl : Declaration := ⟨"function".toList, "$a".toList⟩
    let changes : List Change :=
      [.action (.compile "@function(card)".toList), .register "card".toList .close]
    s.table.get? decl.name = some .declare ∧
      Declaration.read "function($a)".toList = .ok decl ∧
      (∀ c ∈ changes, ¬ c.Binds decl.name) ∧
      ∃ after, s.dispatch decl.name "function($a)".toList =
          (.ok (some "<?php function function ( $a ,   $__env ) \x7b ?>".toList), after) ∧
        ((after.afterChanges changes).dispatch decl.name "1".toList).1 =
          .ok (some "<?php function (1 ,  $__env); ?>".toList) := by
  intro s decl changes
  have hd : s.table.get? decl.name = some .declare := rfl
  have hread : Declaration.read "function($a)".toList = .ok decl := by decide
  have hchanges : ∀ c ∈ changes, ¬ c.Binds decl.name := by
    simp [changes, decl, Change.Binds]
  obtain ⟨-, -, -, hdeclares⟩ := dispatch_atomic s decl.name "function($a)".toList
  obtain ⟨fragment, after, hdispatch, rfl, -, -, -, hlater⟩ := hdeclares decl hd hread
  refine ⟨hd, hread, hchanges, after, hdispatch, ?_⟩
  exact congrArg Prod.fst (hlater changes hchanges "1".toList)

end Session

end TemplateFunctions
