import TemplateFunctions.Proofs.Growth
import TemplateFunctions.Proofs.Places

/-!
What a compilation does to the table of directives.

A compilation enters the call of every function that it declares, under the name of the function,
and leaves all other names alone. Each site works with the table that the declarations in front of
it have made, also where one of them has taken the name of the declaring directive.

* `Table.Entered`: a table with the calls of certain functions entered, said name by name.
* `Declares`, `DeclaredBefore`, `Declared`: the declarations that a compilation runs.
* `Takes.entered`, `Runs.entered`: a step enters what is declared at its place, and so a run enters
  what is declared along it.
* `Meets.entered`, `compile_entered`: **the table at a site and the table in the end.**
* `compile_enters_declared`: what follows for the names and for the list of declared functions.
-/

namespace TemplateFunctions

/-! ### Tables with calls entered -/

/-- **The table with the calls of certain functions entered**, each under the name of its function.
All other names stand for what they stood for. -/
structure Table.Entered (table : Table) (names : Text → Prop) (after : Table) : Prop where
  entered : ∀ key, names key → after.get? key = some (.call key)
  kept : ∀ key, ¬ names key → after.get? key = table.get? key

namespace Table.Entered

variable {table mid after : Table} {names names' names'' : Text → Prop}

lemma refl (hnone : ∀ key, ¬ names key) : table.Entered names table :=
  ⟨fun key hkey => absurd hkey (hnone key), fun _ _ => rfl⟩

/-- Calls entered after others are entered with them. -/
lemma trans (h : table.Entered names mid) (h' : mid.Entered names' after)
    (hboth : ∀ key, names'' key ↔ names key ∨ names' key) : table.Entered names'' after := by
  refine ⟨fun key hkey => ?_, fun key hkey => ?_⟩
  · by_cases hlater : names' key
    · exact h'.entered key hlater
    · have hearlier := ((hboth key).1 hkey).resolve_right hlater
      rw [h'.kept key hlater, h.entered key hearlier]
  · rw [hboth, not_or] at hkey
    rw [h'.kept key hkey.2, h.kept key hkey.1]

lemma congr (h : table.Entered names after) (hsame : ∀ key, names' key ↔ names key) :
    table.Entered names' after :=
  ⟨fun key hkey => h.entered key ((hsame key).1 hkey),
    fun key hkey => h.kept key fun hname => hkey ((hsame key).2 hname)⟩

/-- A name keeps its directive or stands for its own call. -/
lemma get?_eq_or (h : table.Entered names after) {key : Text} {d : Directive}
    (hkey : table.get? key = some d) :
    after.get? key = some d ∨ after.get? key = some (.call key) := by
  by_cases hname : names key
  · exact Or.inr (h.entered key hname)
  · exact Or.inl ((h.kept key hname).trans hkey)

/-- A name that stands for its own call goes on to do so. -/
lemma get?_eq_call (h : table.Entered names after) {key : Text}
    (hkey : table.get? key = some (.call key)) : after.get? key = some (.call key) :=
  (h.get?_eq_or hkey).elim id id

lemma ownNames (h : table.Entered names after) (hown : table.OwnNames) : after.OwnNames := by
  intro key name hkey
  by_cases hname : names key
  · rw [h.entered key hname, Option.some.injEq, Directive.call.injEq] at hkey
    exact hkey.symm
  · exact hown key name ((h.kept key hname).symm.trans hkey)

/-- The declared functions are those that were declared and those that are entered. -/
lemma mem_declared_iff (h : table.Entered names after) (hown : table.OwnNames) {name : Text} :
    name ∈ after.declared ↔ name ∈ table.declared ∨ names name := by
  rw [(h.ownNames hown).mem_declared_iff, hown.mem_declared_iff]
  constructor
  · intro hafter
    by_cases hname : names name
    · exact Or.inr hname
    · exact Or.inl ((h.kept name hname).symm.trans hafter)
  · rintro (htable | hname)
    · exact h.get?_eq_call htable
    · exact h.entered name hname

end Table.Entered

namespace Template

/-! ### Declarations -/

/-- **A declaration of `name`** behind `before`: the compilation of `t` meets a site there that
stands for a declaration and is given a text that declares `name`. -/
def Declares (s : Session) (t before name : Text) : Prop :=
  ∃ mid site rest params, Meets s t mid before site rest ∧
    mid.table.get? site.name = some .declare ∧
    Declaration.read site.expression = .ok ⟨name, params⟩

/-- A name that is declared in front of a place. -/
def DeclaredBefore (s : Session) (t place name : Text) : Prop :=
  ∃ before, before.length < place.length ∧ Declares s t before name

/-- A name that the compilation of `t` declares somewhere. -/
def Declared (s : Session) (t name : Text) : Prop := ∃ before, Declares s t before name

/-- A declaration that names a function is a step, and enters the call of the function. -/
lemma Site.Stands.takes_declaration {s : Session} {before rest : Text} {site : Site}
    {decl : Declaration} (h : site.Stands s before rest)
    (hd : s.table.get? site.name = some .declare)
    (hread : Declaration.read site.expression = .ok decl) :
    Takes s before site.source (s.emitter.prologue decl)
      (s.register decl.name (.call decl.name)) rest := by
  refine .replace (.site h (Session.dispatch_eq_some_iff.2 ⟨.declare, hd, ?_⟩))
  simp only [Session.perform, hread]

section

variable {s mid after : Session} {t a u r rest w : Text}

/-- A declaration where a step begins is that step. -/
lemma Declares.register_eq {name : Text} (h : Declares s (a ++ (u ++ rest)) a name)
    (hrun : Runs s [] a w mid (u ++ rest)) (htakes : Takes mid a u r after rest) :
    after = mid.register name (.call name) := by
  obtain ⟨mid', site, rest', params, hmeets, hd, hread⟩ := h
  have hsame := List.append_cancel_left hmeets.text
  obtain ⟨w', hrun'⟩ := hmeets.run
  rw [← hsame] at hrun'
  obtain ⟨rfl, -⟩ := hrun.same_place hrun'
  exact (htakes.unique (hmeets.stands.takes_declaration hd hread) hsame).2.2

/-- **A step enters what is declared where it begins.** -/
lemma Takes.entered (htakes : Takes mid a u r after rest)
    (hrun : Runs s [] a w mid (u ++ rest)) :
    mid.table.Entered (Declares s (a ++ (u ++ rest)) a) after.table := by
  refine ⟨fun key hkey => ?_, fun key hkey => ?_⟩
  · rw [hkey.register_eq hrun htakes]
    exact Table.get?_insert_self _ _ _
  · rcases htakes.keeps_or_declares with rfl | ⟨site, decl, rfl, hstands, hd, hread, rfl⟩
    · rfl
    · refine Table.get?_insert_of_ne _ _ ?_
      rintro rfl
      exact hkey ⟨mid, site, rest, decl.params, ⟨rfl, ⟨w, hrun⟩, hstands⟩, hd, hread⟩

/-- What is declared in front of the end of a step is declared in front of the step, or where it
begins. -/
lemma declaredBefore_step_iff (htakes : Takes mid a u r after rest)
    (hrun : Runs s [] a w mid (u ++ rest)) (name : Text) :
    DeclaredBefore s (a ++ (u ++ rest)) (a ++ u) name ↔
      DeclaredBefore s (a ++ (u ++ rest)) a name ∨ Declares s (a ++ (u ++ rest)) a name := by
  constructor
  · rintro ⟨before, hlt, h⟩
    have hdeclares := h
    obtain ⟨mid', site, rest', params, hmeets, -, -⟩ := h
    rcases hmeets.before_or_at hrun htakes hlt with hbefore | rfl
    · exact Or.inl ⟨before, hbefore, hdeclares⟩
    · exact Or.inr hdeclares
  · have hpos := List.length_pos_iff.2 htakes.ne_nil
    rintro (⟨before, hlt, h⟩ | h)
    · refine ⟨before, ?_, h⟩
      rw [List.length_append]
      omega
    · refine ⟨a, ?_, h⟩
      rw [List.length_append]
      omega

/-- **A run enters what is declared along it**: the invariant is that the table is the first one
with the calls entered that are declared in front of the place. -/
lemma Runs.entered (h : Runs mid a u w after rest) {w₀ : Text}
    (hrun : Runs s [] a w₀ mid (u ++ rest)) (ht : t = a ++ (u ++ rest))
    (hmid : s.table.Entered (DeclaredBefore s t a) mid.table) :
    s.table.Entered (DeclaredBefore s t (a ++ u)) after.table := by
  induction h generalizing w₀ with
  | nil => rwa [List.append_nil]
  | @cons mid mid' after a u v r w rest htakes _ ih =>
      rw [List.append_assoc] at ht hrun
      have hstep : s.table.Entered (DeclaredBefore s t (a ++ u)) mid'.table := by
        subst ht
        exact hmid.trans (htakes.entered hrun) (declaredBefore_step_iff htakes hrun)
      have hnext := ih (hrun.append (.single htakes)) (by rw [ht, List.append_assoc]) hstep
      rwa [List.append_assoc] at hnext

/-- From the start of a template a run enters what is declared in front of its end. -/
lemma Runs.entered_of_start (h : Runs s [] u w after rest) :
    s.table.Entered (DeclaredBefore s (u ++ rest) u) after.table := by
  have hstart : s.table.Entered (DeclaredBefore s (u ++ rest) []) s.table :=
    .refl fun key ⟨before, hlt, _⟩ => Nat.not_lt_zero _ hlt
  exact h.entered .nil rfl hstart

/-- **The table at a site** is the first one with the calls entered that are declared in front of
the site. -/
lemma Meets.entered {before : Text} {site : Site} (h : Meets s t mid before site rest) :
    s.table.Entered (DeclaredBefore s t before) mid.table := by
  obtain ⟨w, hrun⟩ := h.run
  rw [h.text]
  exact hrun.entered_of_start

/-- A declaration stands in front of the end of the text. -/
lemma Declares.length_lt {before name : Text} (h : Declares s t before name) :
    before.length < t.length := by
  obtain ⟨mid, site, rest, params, hmeets, -, -⟩ := h
  rw [hmeets.text, Site.source_eq]
  simp

/-- What is declared in a template that fails is declared in front of the site that fails. -/
lemma Fails.declaredBefore_of_declares {before name : Text} {site : Site}
    {cause : Declaration.Unnamed} (hfails : Fails mid u site rest cause)
    (hrun : Runs s [] u w mid (site.source ++ rest))
    (h : Declares s (u ++ (site.source ++ rest)) before name) : before.length < u.length := by
  obtain ⟨mid', site', rest', params, hmeets, -, hread⟩ := h
  refine Nat.lt_of_le_of_ne (hfails.length_le_of_meets hrun hmeets) ?_
  intro hlength
  -- the failing site itself declares nothing
  obtain ⟨rfl, hsame⟩ := List.append_inj hmeets.text hlength.symm
  obtain ⟨rfl, -⟩ := hfails.stands.unique hmeets.stands hsame
  obtain ⟨-, hread', -⟩ := Session.dispatch_eq_error_iff.1 hfails.refused
  cases hread.symm.trans hread'

/-- **The table in the end** is the first one with the calls of all declared functions entered,
whether the compilation succeeds or fails. The emitter is the first one. -/
theorem compile_entered (s : Session) (t : Text) :
    s.table.Entered (Declared s t) (s.compile t).2.table ∧
      (s.compile t).2.emitter = s.emitter := by
  rcases runs_or_fails s [] t with
    ⟨w, after, hrun⟩ | ⟨u, w, after, site, rest, cause, rfl, hrun, hf⟩
  · rw [compile_of_runs hrun]
    have hentered := hrun.entered_of_start
    rw [List.append_nil] at hentered
    refine ⟨hentered.congr fun key => ⟨?_, ?_⟩, hrun.emitter_eq⟩
    · rintro ⟨before, h⟩
      exact ⟨before, h.length_lt, h⟩
    · rintro ⟨before, -, h⟩
      exact ⟨before, h⟩
  · rw [compile_of_fails hrun hf]
    refine ⟨hrun.entered_of_start.congr fun key => ⟨?_, ?_⟩, hrun.emitter_eq⟩
    · rintro ⟨before, h⟩
      exact ⟨before, hf.declaredBefore_of_declares hrun h, h⟩
    · rintro ⟨before, -, h⟩
      exact ⟨before, h⟩

end

/-- **The exact effect of a compilation on the table**, whether it succeeds or fails. The emitter
stays; exactly the names that are declared in the template stand for their own calls afterwards, and
all others for what they stood for. A declaration counts for the sites behind it only, and for all
of them. So no name is lost, a name that stands for its own call goes on to do so, and any other
directive is replaced by the call of its own name only. If all calls stand under their own names at
first, the declared functions afterwards are those of before and those that are declared in the
template, in strictly increasing order. -/
theorem compile_enters_declared (s : Session) (t : Text) :
    (s.compile t).2.emitter = s.emitter ∧
      s.table.Entered (Declared s t) (s.compile t).2.table ∧
      (∀ mid before site rest, Meets s t mid before site rest →
        s.table.Entered (DeclaredBefore s t before) mid.table) ∧
      (∀ key d, s.table.get? key = some d → (s.compile t).2.table.get? key = some d ∨
        (s.compile t).2.table.get? key = some (.call key)) ∧
      (∀ key, s.table.get? key = some (.call key) →
        (s.compile t).2.table.get? key = some (.call key)) ∧
      (s.table.OwnNames →
        (s.compile t).2.table.declared.Pairwise (fun x y => Text.le x y = true ∧ x ≠ y) ∧
        ∀ name, name ∈ (s.compile t).2.table.declared ↔
          name ∈ s.table.declared ∨ Declared s t name) := by
  obtain ⟨hentered, hemitter⟩ := compile_entered s t
  refine ⟨hemitter, hentered, fun _ _ _ _ hmeets => hmeets.entered, ?_, ?_, ?_⟩
  · exact fun key d hkey => hentered.get?_eq_or hkey
  · exact fun key hkey => hentered.get?_eq_call hkey
  · intro hown
    exact ⟨(hentered.ownNames hown).pairwise_declared,
      fun name => hentered.mem_declared_iff hown⟩

/-- The second site calls what the first one declares under the name of the declaring directive, so
that `b` is not declared. -/
example : ((Session.start (.ofTarget .pseudo none) .standard).compile
      "@function(function)@function(b)".toList).2.table.declared = ["function".toList] := by
  decide +kernel

end Template

end TemplateFunctions
