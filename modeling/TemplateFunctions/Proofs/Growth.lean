import TemplateFunctions.Proofs.Declared
import TemplateFunctions.Proofs.Names
import TemplateFunctions.Proofs.Run

/-!
How a session grows along a run.

The only thing that a reading does to its session is to enter calls: each declaration enters the
call of the function that it declares, under that function's own name. What survives such an entry
survives every run.

* `perform_growth`: a directive leaves the session alone or declares a function.
* `Takes.keeps_or_declares`: a step leaves the session alone or goes over a declaration.
* `Takes.growth`, `Runs.preserves`: **what an entry preserves, a step and a run preserve.**
* `Runs.emitter_eq`: a run keeps the emitter.
* `CallsIdentifiers`: the functions that a table calls have identifiers for names; so it stays.
-/

namespace TemplateFunctions

/-! ### One directive -/

/-- A directive leaves the session alone, or it is a declaration and enters the call of the function
that it declares. -/
lemma Session.perform_growth {s after : Session} {d : Directive} {expression fragment : Text}
    (h : s.perform d expression = (.ok fragment, after)) :
    after = s ∨ d = .declare ∧ ∃ decl, Declaration.read expression = .ok decl ∧
      after = s.register decl.name (.call decl.name) := by
  cases d with
  | declare =>
      simp only [Session.perform] at h
      split at h
      · next decl hread =>
        cases h
        exact Or.inr ⟨rfl, decl, hread, rfl⟩
      · cases h
  | close => cases h; exact Or.inl rfl
  | returnValue => cases h; exact Or.inl rfl
  | call name => cases h; exact Or.inl rfl
  | custom id transform => cases h; exact Or.inl rfl

namespace Template

variable {s after : Session} {before u r rest : Text}

/-! ### Steps and runs -/

/-- A step leaves the session alone, or it goes over a site that stands for a declaration and enters
the call of the function that is declared there. -/
lemma Takes.keeps_or_declares (h : Takes s before u r after rest) :
    after = s ∨ ∃ (site : Site) (decl : Declaration), u = site.source ∧ site.Stands s before rest ∧
      s.table.get? site.name = some .declare ∧ Declaration.read site.expression = .ok decl ∧
      after = s.register decl.name (.call decl.name) := by
  cases h with
  | pass _ => exact Or.inl rfl
  | replace h =>
      cases h with
      | escape _ _ => exact Or.inl rfl
      | @site site _ _ _ hstands hdispatch =>
          obtain ⟨d, hd, hperform⟩ := Session.dispatch_eq_some_iff.1 hdispatch
          rcases Session.perform_growth hperform with rfl | ⟨rfl, decl, hread, rfl⟩
          · exact Or.inl rfl
          · exact Or.inr ⟨site, decl, rfl, hstands, hd, hread, rfl⟩

/-- A step leaves the session alone, or it enters a call under an identifier. -/
lemma Takes.growth (h : Takes s before u r after rest) :
    after = s ∨ ∃ name, isIdentifier name = true ∧ after = s.register name (.call name) := by
  rcases h.keeps_or_declares with hkept | ⟨site, decl, -, -, -, hread, hentered⟩
  · exact Or.inl hkept
  · exact Or.inr ⟨decl.name, Declaration.isIdentifier_of_read hread, hentered⟩

/-- **What the entry of a call preserves, a run preserves.** -/
lemma Runs.preserves {P : Session → Prop}
    (hentry : ∀ (s : Session) (name : Text), isIdentifier name = true → P s →
      P (s.register name (.call name)))
    (h : Runs s before u r after rest) (hs : P s) : P after := by
  induction h with
  | nil => exact hs
  | cons htakes _ ih =>
      refine ih ?_
      rcases htakes.growth with rfl | ⟨name, hname, rfl⟩
      · exact hs
      · exact hentry _ name hname hs

lemma Runs.emitter_eq (h : Runs s before u r after rest) : after.emitter = s.emitter :=
  h.preserves (P := fun mid => mid.emitter = s.emitter) (fun _ _ _ hs => hs) rfl

end Template

/-! ### The names that are called -/

/-- Every function that the table calls has an identifier for its name. -/
def Table.CallsIdentifiers (table : Table) : Prop :=
  ∀ key name, table.get? key = some (.call name) → isIdentifier name = true

/-- The call of an identifier may be entered. -/
lemma Table.CallsIdentifiers.insert {table : Table} (h : table.CallsIdentifiers) (key : Text)
    {name : Text} (hname : isIdentifier name = true) :
    (table.insert key (.call name)).CallsIdentifiers := by
  intro x callee hx
  rw [Table.get?_insert] at hx
  split at hx
  · cases hx
    exact hname
  · exact h x callee hx

/-- A table without calls, such as a fresh one, calls identifiers only. -/
lemma Table.Callless.callsIdentifiers {table : Table} (h : table.Callless) :
    table.CallsIdentifiers := by
  intro key name hkey
  cases h _ (Table.get?_eq_some_iff.1 hkey)

/-- A run calls identifiers only, if it starts so. -/
lemma Template.Runs.callsIdentifiers {s after : Session} {before u r rest : Text}
    (h : Template.Runs s before u r after rest) (hs : s.table.CallsIdentifiers) :
    after.table.CallsIdentifiers :=
  h.preserves (P := fun mid => mid.table.CallsIdentifiers)
    (fun _ name hname hmid => hmid.insert name hname) hs

end TemplateFunctions
